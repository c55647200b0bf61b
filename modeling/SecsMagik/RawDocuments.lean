import SecsMagik.RawJson

/-! # Raw result documents

The raw scanner accepts exactly the JSON texts whose objects have no name twice and whose strings
and decimal numbers can be read.
-/
namespace RawJson

open RustStd WireCodec Rfc8259

/-! ## Values -/

section Values

variable {outside : Outside} {b : List UInt8} {p depth : ℕ} {l v w r : List UInt8}

/-- Strings decode, decimal numbers are finite, and no two members of an object have one name. -/
def Legible (outside : Outside) : Tree → Prop
  | .literal _ => True
  | .string s => (outside.decode s.bytes).isSome
  | .number n => n.IsDecimal → IsFinite outside n.bytes
  | .array _ => True
  | .object members => (∀ m ∈ members, (outside.decode m.1.bytes).isSome) ∧
      (members.map fun m => outside.decode m.1.bytes).Nodup

/-- What the scanner asks of a value that lies within `depth` arrays and objects. -/
def Accepted (outside : Outside) (depth : ℕ) (t : Tree) : Prop := depth ≤ 64 ∧ Legible outside t

def IsTree (outside : Outside) (depth : ℕ) (t : Tree) (u : List UInt8) : Prop :=
  Spells t u ∧ Everywhere (Accepted outside) depth t

def IsValue (outside : Outside) (depth : ℕ) (v : List UInt8) : Prop :=
  ∃ w u t, v = w ++ u ∧ Blank w ∧ IsTree outside depth t u

def AreItems (outside : Outside) (depth : ℕ) (v : List UInt8) : Prop :=
  ∃ items u, v = u ++ [0x5D] ∧ SpellsItems items u ∧
    ∀ t ∈ items, Everywhere (Accepted outside) depth t

/-- The members of an object up to its brace, with names that are not among `names`. -/
def AreMembers (outside : Outside) (depth : ℕ) (names : List String) (v : List UInt8) : Prop :=
  ∃ (members : List (StringToken × Tree)) (u : List UInt8) (own : List String),
    v = u ++ [0x7D] ∧ SpellsMembers members u ∧
    (∀ m ∈ members, Everywhere (Accepted outside) depth m.2) ∧
    (members.map fun m => outside.decode m.1.bytes) = own.map some ∧ own.Nodup ∧
    ∀ name ∈ own, name ∉ names

section Loops

variable {value : ℕ → Scan ℕ}
  (hvalue : ∀ p l, At b p l → Sound p l (IsValue outside (depth + 1)) (value p))

include hvalue in
theorem items_sound {rounds : ℕ} (hrounds : l.length < rounds) (h : At b p l) :
    Sound p l (AreItems outside (depth + 1)) (items b value rounds p) := by
  induction rounds generalizing p l with
  | zero => cases hrounds
  | succ rounds ih =>
    rcases hvalue p l h with hrefuse | ⟨-, l₁, rfl, ⟨w, u, t, rfl, hw, hu, ht⟩, hok⟩
    · exact .inl (by rw [items, hrefuse]; rfl)
    obtain ⟨w', l₂, rfl, hw', -, hws⟩ := ws_sound h.append
    simp only [items, hok, bind, Except.bind, hws, h.append.append.get]
    by_cases hclose : l₂.head? = some 0x5D
    · obtain ⟨r, rfl⟩ := List.head?_eq_some_iff.mp hclose
      rw [if_pos hclose]
      refine .inr ⟨w ++ (u ++ w') ++ [0x5D], r, by simp,
        ⟨[t], _, rfl, .last hw hu hw', by simpa using ht⟩, ?_⟩
      simp only [List.length_append, List.length_singleton]
      congr 1
      omega
    rw [if_neg hclose]
    by_cases hcomma : l₂.head? = some 0x2C
    · obtain ⟨l₃, rfl⟩ := List.head?_eq_some_iff.mp hcomma
      rw [if_pos hcomma]
      have hnext := h.append.append.tail
      have hshorter : l₃.length < rounds := by
        simp only [List.length_append, List.length_cons] at hrounds
        omega
      rcases ih hshorter hnext with hrefuse | ⟨-, r, rfl, ⟨ts, x, rfl, hx, hts⟩, hok'⟩
      · exact .inl hrefuse
      · refine .inr ⟨w ++ (u ++ (w' ++ 0x2C :: x)) ++ [0x5D], r, by simp,
          ⟨t :: ts, _, rfl, .more hw hu hw' hx, List.forall_mem_cons.mpr ⟨ht, hts⟩⟩, ?_⟩
        rw [hok']
        simp only [List.length_append, List.length_cons]
        congr 1
        omega
    · rw [if_neg hcomma]
      exact .inl rfl

include hvalue in
theorem members_sound (hout : outside.DecodesStrings) {rounds : ℕ} {names : List String}
    (hrounds : l.length < rounds) (h : At b p l) :
    Sound p l (AreMembers outside (depth + 1) names) (members outside b value rounds names p) := by
  induction rounds generalizing p l names with
  | zero => cases hrounds
  | succ rounds ih =>
    rcases string_sound hout h with hrefuse | ⟨w, s, name, l₁, rfl, hw, hname, hstring⟩
    · exact .inl (by rw [members, hrefuse]; rfl)
    by_cases hseen : name ∈ names
    · refine .inl ?_
      simp only [members, hstring, bind, Except.bind, if_pos hseen]
    rcases take_sound (c := 0x3A) h.append.append with
      hrefuse | ⟨-, l₂, rfl, ⟨w₁, rfl, hw₁⟩, htake⟩
    · refine .inl ?_
      simp only [members, hstring, bind, Except.bind, if_neg hseen, hrefuse]
      rfl
    rcases hvalue _ _ h.append.append.append with
      hrefuse | ⟨-, l₃, rfl, ⟨w₂, u, t, rfl, hw₂, hu, ht⟩, hok⟩
    · refine .inl ?_
      simp only [members, hstring, bind, Except.bind, if_neg hseen, htake, hrefuse]
      rfl
    obtain ⟨w', l₄, rfl, hw', -, hws⟩ := ws_sound h.append.append.append.append
    simp only [members, hstring, bind, Except.bind, if_neg hseen, htake, hok, hws,
      h.append.append.append.append.append.get]
    by_cases hclose : l₄.head? = some 0x7D
    · obtain ⟨r, rfl⟩ := List.head?_eq_some_iff.mp hclose
      rw [if_pos hclose]
      refine .inr ⟨w ++ (s.bytes ++ (w₁ ++ 0x3A :: (w₂ ++ (u ++ w')))) ++ [0x7D], r, by simp,
        ⟨[(s, t)], _, [name], rfl, .last hw hw₁ hw₂ hu hw', by simpa using ht,
          by simpa using hname, by simp, by simpa using hseen⟩, ?_⟩
      simp only [List.length_append, List.length_cons, List.length_nil]
      congr 1
      omega
    rw [if_neg hclose]
    by_cases hcomma : l₄.head? = some 0x2C
    · obtain ⟨l₅, rfl⟩ := List.head?_eq_some_iff.mp hcomma
      rw [if_pos hcomma]
      have hnext := h.append.append.append.append.append.tail
      have hshorter : l₅.length < rounds := by
        simp only [List.length_append, List.length_cons] at hrounds
        omega
      have hloop : Sound _ _ (AreMembers outside (depth + 1) (name :: names)) _ :=
        ih hshorter hnext
      rcases hloop with
        hrefuse | ⟨-, r, rfl, ⟨ms, x, own, rfl, hx, hms, hown, hnodup, hfresh⟩, hok'⟩
      · exact .inl hrefuse
      · refine .inr ⟨w ++ (s.bytes ++ (w₁ ++ 0x3A :: (w₂ ++ (u ++ (w' ++ 0x2C :: x))))) ++ [0x7D],
          r, by simp, ⟨(s, t) :: ms, _, name :: own, rfl, .more hw hw₁ hw₂ hu hw' hx,
            List.forall_mem_cons.mpr ⟨ht, hms⟩, ?_, ?_, ?_⟩, ?_⟩
        · rw [List.map_cons, List.map_cons, hown, hname]
        · exact List.nodup_cons.mpr ⟨fun hin => hfresh name hin List.mem_cons_self, hnodup⟩
        · exact List.forall_mem_cons.mpr ⟨hseen, fun n hn hin =>
            hfresh n hn (List.mem_cons_of_mem _ hin)⟩
        · rw [hok']
          simp only [List.length_append, List.length_cons, List.length_nil]
          congr 1
          omega
    · rw [if_neg hcomma]
      exact .inl rfl

theorem accepted_object {members : List (StringToken × Tree)} {own : List String}
    (hdepth : depth ≤ 64) (hown : (members.map fun m => outside.decode m.1.bytes) = own.map some)
    (hnodup : own.Nodup) : Accepted outside depth (.object members) := by
  refine ⟨hdepth, ?_, ?_⟩
  · intro m hm
    have hmem : outside.decode m.1.bytes ∈ own.map some := by
      rw [← hown]
      exact List.mem_map.mpr ⟨m, hm, rfl⟩
    obtain ⟨name, -, hname⟩ := List.mem_map.mp hmem
    rw [← hname]
    rfl
  · rw [hown]
    exact hnodup.map (Option.some_injective _)

include hvalue in
theorem object_sound (hout : outside.DecodesStrings) (hdepth : depth ≤ 64)
    (h : At b p (0x7B :: l)) :
    Sound p (0x7B :: l) (fun u => ∃ t, IsTree outside depth t u) (object outside b value p) := by
  obtain ⟨w, l, rfl, hw, -, hws⟩ := ws_sound h.tail
  simp only [object, hws, h.tail.append.get]
  by_cases hclose : l.head? = some 0x7D
  · obtain ⟨r, rfl⟩ := List.head?_eq_some_iff.mp hclose
    rw [if_pos hclose]
    refine .inr ⟨0x7B :: (w ++ [0x7D]), r, by simp, ⟨.object [], .emptyObject hw,
      .object ⟨hdepth, nofun, List.nodup_nil⟩ nofun⟩, ?_⟩
    simp only [List.length_cons, List.length_append, List.length_nil]
    congr 1
    omega
  · rw [if_neg hclose]
    have hrounds : l.length < b.length + 1 := by
      have hlength := h.tail.append.length
      omega
    have hmembers : Sound _ _ (AreMembers outside (depth + 1) []) _ :=
      members_sound hvalue hout hrounds h.tail.append
    refine (hmembers.after.after (w := [0x7B])).imp ?_
    intro v hv
    obtain ⟨-, rfl, -, rfl, ms, u, own, rfl, hu, hms, hown, hnodup, -⟩ := hv
    refine ⟨.object ms, ?_, .object (accepted_object hdepth hown hnodup) hms⟩
    rw [← List.append_assoc w]
    exact .object (hu.blank_append hw)

include hvalue in
theorem array_sound (hdepth : depth ≤ 64) (h : At b p (0x5B :: l)) :
    Sound p (0x5B :: l) (fun u => ∃ t, IsTree outside depth t u) (array b value p) := by
  obtain ⟨w, l, rfl, hw, -, hws⟩ := ws_sound h.tail
  simp only [array, hws, h.tail.append.get]
  by_cases hclose : l.head? = some 0x5D
  · obtain ⟨r, rfl⟩ := List.head?_eq_some_iff.mp hclose
    rw [if_pos hclose]
    refine .inr ⟨0x5B :: (w ++ [0x5D]), r, by simp, ⟨.array [], .emptyArray hw,
      .array ⟨hdepth, trivial⟩ nofun⟩, ?_⟩
    simp only [List.length_cons, List.length_append, List.length_nil]
    congr 1
    omega
  · rw [if_neg hclose]
    have hrounds : l.length < b.length + 1 := by
      have hlength := h.tail.append.length
      omega
    have hitems := items_sound hvalue hrounds h.tail.append
    refine (hitems.after.after (w := [0x5B])).imp ?_
    intro v hv
    obtain ⟨-, rfl, -, rfl, ts, u, rfl, hu, hts⟩ := hv
    refine ⟨.array ts, ?_, .array ⟨hdepth, trivial⟩ hts⟩
    rw [← List.append_assoc w]
    exact .array (hu.blank_append hw)

end Loops

theorem string_value_sound (hout : outside.DecodesStrings) (hdepth : depth ≤ 64)
    (h : At b p (0x22 :: l)) :
    Sound p (0x22 :: l) (fun u => ∃ t, IsTree outside depth t u)
      ((string outside b p).map Prod.snd) := by
  rcases string_sound hout h with hrefuse | ⟨w, s, name, r, hl, hw, hname, hok⟩
  · exact .inl (by rw [hrefuse]; rfl)
  have hnil : w = [] := by
    cases w with
    | nil => rfl
    | cons c w =>
      have hc := hw c List.mem_cons_self
      rw [← (List.cons.inj hl).1] at hc
      exact absurd hc (by decide)
  subst hnil
  have hlegible : (outside.decode s.bytes).isSome := by rw [hname]; rfl
  exact .inr ⟨s.bytes, r, hl, ⟨.string s, .string s, .string ⟨hdepth, hlegible⟩⟩, by
    rw [hok]; rfl⟩

theorem value_sound (hout : outside.DecodesStrings) {room : ℕ} (hroom : room + depth = 65)
    (h : At b p l) : Sound p l (IsValue outside depth) (value outside b room p) := by
  induction room generalizing depth p l with
  | zero => exact .inl rfl
  | succ room ih =>
    have hdepth : depth ≤ 64 := by omega
    obtain ⟨w, l, rfl, hw, -, hws⟩ := ws_sound h
    simp only [value, hws, h.append.get]
    suffices hbranch : Sound (p + w.length) l (fun u => ∃ t, IsTree outside depth t u) _ by
      refine hbranch.after.imp ?_
      intro v hv
      obtain ⟨u, rfl, t, ht⟩ := hv
      exact ⟨w, u, t, rfl, hw, ht⟩
    have hvalue : ∀ p l, At b p l →
        Sound p l (IsValue outside (depth + 1)) (value outside b room p) :=
      fun p l hat => ih (by omega) hat
    have hat := h.append
    cases l with
    | nil => exact .inl rfl
    | cons c l =>
      simp only [List.head?_cons]
      by_cases hstring : c = 0x22
      · rw [if_pos hstring]
        subst hstring
        exact string_value_sound hout hdepth hat
      rw [if_neg hstring]
      by_cases hobject : c = 0x7B
      · rw [if_pos hobject]
        subst hobject
        exact object_sound hvalue hout hdepth hat
      rw [if_neg hobject]
      by_cases harray : c = 0x5B
      · rw [if_pos harray]
        subst harray
        exact array_sound hvalue hdepth hat
      rw [if_neg harray]
      by_cases hliteral : (c = 0x74 || c = 0x66 || c = 0x6E) = true
      · rw [if_pos hliteral]
        obtain ⟨word, hword⟩ := exists_literal hliteral
        refine (literal_sound hat word hword).imp ?_
        intro v hv
        exact ⟨.literal word, hv ▸ .literal word, .literal ⟨hdepth, trivial⟩⟩
      rw [if_neg hliteral]
      by_cases hnumber : (c = 0x2D || isAsciiDigit c) = true
      · rw [if_pos hnumber]
        refine (number_sound hat).imp ?_
        intro v hv
        obtain ⟨n, rfl, hfinite⟩ := hv
        exact ⟨.number n, .number n, .number ⟨hdepth, hfinite⟩⟩
      · rw [if_neg hnumber]
        exact .inl rfl

/-! ### Completeness -/

theorem isWs_of_startsValue {c : UInt8} (hc : startsValue c) : isWs c = false := by
  by_contra hws
  simp only [isWs, Bool.or_eq_true, decide_eq_true_eq, Bool.not_eq_false, or_assoc] at hws
  rcases hws with rfl | rfl | rfl | rfl <;> exact absurd hc (by decide)

theorem exists_names {members : List (StringToken × Tree)}
    (h : Legible outside (.object members)) : ∃ own : List String,
      (members.map fun m => outside.decode m.1.bytes) = own.map some ∧ own.Nodup := by
  have hown : (members.map fun m => outside.decode m.1.bytes) =
      (members.map fun m => (outside.decode m.1.bytes).getD "").map some := by
    rw [List.map_map]
    refine List.map_congr_left fun m hm => ?_
    obtain ⟨name, hname⟩ := Option.isSome_iff_exists.mp (h.1 m hm)
    simp [hname]
  refine ⟨_, hown, ?_⟩
  have hnodup := h.2
  rw [hown] at hnodup
  exact hnodup.of_map

theorem ends_blank {c : UInt8} (hw : Blank w) (hc : c = 0x2C ∨ c = 0x5D ∨ c = 0x7D) :
    Ends (w ++ c :: r) := by
  intro d hd
  cases w with
  | nil => cases hd; exact .inr hc
  | cons x w => cases hd; exact .inl (hw _ List.mem_cons_self)

theorem stops_isWs {c : UInt8} (hc : isWs c = false) : Stops isWs (c :: r) := by
  intro d hd
  cases hd
  exact hc

variable {ms : List (StringToken × Tree)}

/-- The name of the first member and the names of the others. -/
theorem exists_own {m : StringToken × Tree} {own : List String}
    (h : ((m :: ms).map fun m => outside.decode m.1.bytes) = own.map some) :
    ∃ name rest, own = name :: rest ∧ outside.decode m.1.bytes = some name ∧
      (ms.map fun m => outside.decode m.1.bytes) = rest.map some := by
  cases own with
  | nil => cases h
  | cons name rest => exact ⟨name, rest, rfl, (List.cons.inj h).1, (List.cons.inj h).2⟩

variable {u : List UInt8}

section CompleteLoops

variable {value : ℕ → Scan ℕ}
  (hvalue : ∀ p t w u r, IsTree outside (depth + 1) t u → Blank w → At b p (w ++ (u ++ r)) →
    Ends r → value p = .ok (p + w.length + u.length))

include hvalue in
theorem items_complete {ts : List Tree} {rounds : ℕ} (hu : SpellsItems ts u)
    (hts : ∀ t ∈ ts, Everywhere (Accepted outside) (depth + 1) t) (hrounds : u.length < rounds)
    (h : At b p (u ++ 0x5D :: r)) : items b value rounds p = .ok (p + u.length + 1) := by
  induction rounds generalizing p ts u with
  | zero => cases hrounds
  | succ rounds ih =>
    cases hu with
    | @last t w v w' hw hv hw' =>
      have hat : At b p (w ++ (v ++ (w' ++ 0x5D :: r))) := by simpa using h
      have hok := hvalue p t w v _ ⟨hv, hts t List.mem_cons_self⟩ hw hat
        (ends_blank hw' (.inr (.inl rfl)))
      simp only [items, hok, bind, Except.bind,
        ws_complete hw' hat.append.append (stops_isWs (by decide)),
        hat.append.append.append.get, List.head?_cons, if_true]
      simp only [List.length_append]
      congr 1
      omega
    | @more t ts w v w' x hw hv hw' hx =>
      have hat : At b p (w ++ (v ++ (w' ++ 0x2C :: (x ++ 0x5D :: r)))) := by simpa using h
      have hok := hvalue p t w v _ ⟨hv, hts t List.mem_cons_self⟩ hw hat
        (ends_blank hw' (.inl rfl))
      have hshorter : x.length < rounds := by
        simp only [List.length_append, List.length_cons] at hrounds
        omega
      have hrest := ih hx (fun t ht => hts t (List.mem_cons_of_mem _ ht)) hshorter
        hat.append.append.append.tail
      simp only [items, hok, bind, Except.bind,
        ws_complete hw' hat.append.append (stops_isWs (by decide)),
        hat.append.append.append.get, List.head?_cons]
      rw [if_neg (by decide), if_pos trivial, hrest]
      simp only [List.length_append, List.length_cons]
      congr 1
      omega

include hvalue in
theorem members_complete {own names : List String} {rounds : ℕ} (hu : SpellsMembers ms u)
    (hms : ∀ m ∈ ms, Everywhere (Accepted outside) (depth + 1) m.2)
    (hown : (ms.map fun m => outside.decode m.1.bytes) = own.map some) (hnodup : own.Nodup)
    (hfresh : ∀ name ∈ own, name ∉ names) (hrounds : u.length < rounds)
    (h : At b p (u ++ 0x7D :: r)) :
    members outside b value rounds names p = .ok (p + u.length + 1) := by
  induction rounds generalizing p ms u own names with
  | zero => cases hrounds
  | succ rounds ih =>
    cases hu with
    | @last s t w w₁ w₂ v w' hw hw₁ hw₂ hv hw' =>
      obtain ⟨name, own, rfl, hname, -⟩ := exists_own hown
      have hat : At b p (w ++ (s.bytes ++ (w₁ ++ 0x3A :: (w₂ ++ (v ++ (w' ++ 0x7D :: r)))))) := by
        simpa using h
      have hcolon := hat.append.append
      have hok := hvalue _ t w₂ v _ ⟨hv, hms (s, t) List.mem_cons_self⟩ hw₂ hcolon.append.tail
        (ends_blank hw' (.inr (.inr rfl)))
      have hend := hcolon.append.tail.append.append
      simp only [members, string_complete hw hname hat, bind, Except.bind,
        if_neg (hfresh name List.mem_cons_self), take_complete hw₁ (by decide) hcolon, hok,
        ws_complete hw' hend (stops_isWs (by decide)), hend.append.get, List.head?_cons,
        if_true]
      simp only [List.length_append, List.length_cons]
      congr 1
      omega
    | @more s t ms w w₁ w₂ v w' x hw hw₁ hw₂ hv hw' hx =>
      obtain ⟨name, own, rfl, hname, hown⟩ := exists_own hown
      obtain ⟨hnotin, hnodup⟩ := List.nodup_cons.mp hnodup
      have hat : At b p (w ++ (s.bytes ++ (w₁ ++ 0x3A :: (w₂ ++ (v ++ (w' ++
          0x2C :: (x ++ 0x7D :: r))))))) := by
        simpa using h
      have hcolon := hat.append.append
      have hok := hvalue _ t w₂ v _ ⟨hv, hms (s, t) List.mem_cons_self⟩ hw₂ hcolon.append.tail
        (ends_blank hw' (.inl rfl))
      have hend := hcolon.append.tail.append.append
      have hshorter : x.length < rounds := by
        simp only [List.length_append, List.length_cons] at hrounds
        omega
      have hrest : members outside b value rounds (name :: names) _ = _ :=
        ih hx (fun m hm => hms m (List.mem_cons_of_mem _ hm)) hown hnodup (by
          intro n hn hin
          rcases List.mem_cons.mp hin with rfl | hin
          · exact hnotin hn
          · exact hfresh n (List.mem_cons_of_mem _ hn) hin) hshorter hend.append.tail
      simp only [members, string_complete hw hname hat, bind, Except.bind,
        if_neg (hfresh name List.mem_cons_self), take_complete hw₁ (by decide) hcolon, hok,
        ws_complete hw' hend (stops_isWs (by decide)), hend.append.get, List.head?_cons]
      rw [if_neg (by decide), if_pos trivial, hrest]
      simp only [List.length_append, List.length_cons]
      congr 1
      omega

include hvalue in
theorem object_complete (hu : Spells (.object ms) u)
    (hms : ∀ m ∈ ms, Everywhere (Accepted outside) (depth + 1) m.2)
    (hlegible : Legible outside (.object ms)) (h : At b p (u ++ r)) :
    object outside b value p = .ok (p + u.length) := by
  cases hu with
  | @emptyObject w hw =>
    have hat : At b (p + 1) (w ++ 0x7D :: r) := by simpa using h.tail
    simp only [object, ws_complete hw hat (stops_isWs (by decide)), hat.append.get,
      List.head?_cons, if_true, List.length_cons, List.length_append, List.length_nil]
    congr 1
    omega
  | object hl =>
    obtain ⟨own, hown, hnodup⟩ := exists_names hlegible
    obtain ⟨w, u, rfl, hw, hu⟩ := hl.exists_first
    have hat : At b (p + 1) (w ++ (0x22 :: u ++ 0x7D :: r)) := by simpa using h.tail
    have hrounds : (0x22 :: u).length < b.length + 1 := by
      have hlength := hat.append.length
      simp only [List.length_append] at hlength
      omega
    have hmembers : members outside b value (b.length + 1) [] _ = _ :=
      members_complete hvalue hu hms hown hnodup nofun hrounds hat.append
    simp only [object, ws_complete hw hat (stops_isWs (by decide)), hat.append.get]
    rw [if_neg (by simp), hmembers]
    simp only [List.length_cons, List.length_append, List.length_nil]
    congr 1
    omega

include hvalue in
theorem array_complete {ts : List Tree} (hu : Spells (.array ts) u)
    (hts : ∀ t ∈ ts, Everywhere (Accepted outside) (depth + 1) t) (h : At b p (u ++ r)) :
    array b value p = .ok (p + u.length) := by
  cases hu with
  | @emptyArray w hw =>
    have hat : At b (p + 1) (w ++ 0x5D :: r) := by simpa using h.tail
    simp only [array, ws_complete hw hat (stops_isWs (by decide)), hat.append.get,
      List.head?_cons, if_true, List.length_cons, List.length_append, List.length_nil]
    congr 1
    omega
  | array hl =>
    obtain ⟨w, c, u, rfl, hw, hc, hu⟩ := hl.exists_first
    have hat : At b (p + 1) (w ++ (c :: u ++ 0x5D :: r)) := by simpa using h.tail
    have hrounds : (c :: u).length < b.length + 1 := by
      have hlength := hat.append.length
      simp only [List.length_append] at hlength
      omega
    have hitems := items_complete hvalue hu hts hrounds hat.append
    have hblank := stops_isWs (r := u ++ 0x5D :: r) (isWs_of_startsValue hc)
    simp only [array, ws_complete hw hat hblank, hat.append.get]
    rw [if_neg (by simpa using startsValue_not hc (d := 0x5D) (by decide)), hitems]
    simp only [List.length_cons, List.length_append, List.length_nil]
    congr 1
    omega

end CompleteLoops

theorem ne_of_number {c d : UInt8} (hc : (c = 0x2D || isAsciiDigit c) = true)
    (hd : (d = 0x2D || isAsciiDigit d) = false) : c ≠ d := by
  intro heq
  rw [heq, hd] at hc
  cases hc

theorem value_complete {room : ℕ} (hroom : room + depth = 65) {t : Tree}
    (ht : IsTree outside depth t u) (hw : Blank w) (h : At b p (w ++ (u ++ r))) (hr : Ends r) :
    value outside b room p = .ok (p + w.length + u.length) := by
  induction room generalizing depth p t w u r with
  | zero =>
    have hdepth : depth ≤ 64 := ht.2.root.1
    omega
  | succ room ih =>
    obtain ⟨c, l, hfirst, hc⟩ := ht.1.exists_first
    have hvalue : ∀ p t w u r, IsTree outside (depth + 1) t u → Blank w →
        At b p (w ++ (u ++ r)) → Ends r →
        value outside b room p = .ok (p + w.length + u.length) :=
      fun p t w u r ht hw hat hr => ih (by omega) ht hw hat hr
    have hblank : Stops isWs (u ++ r) := by
      rw [hfirst]
      exact stops_isWs (isWs_of_startsValue hc)
    have hat := h.append
    simp only [value, ws_complete hw h hblank, hat.get]
    obtain ⟨hu, hevery⟩ := ht
    have hlegible := hevery.root.2
    cases t with
    | literal word =>
      cases hu
      obtain ⟨c, l, hword, hc⟩ := word.exists_first
      have hhead : (word.bytes ++ r).head? = some c := by rw [hword]; rfl
      rw [hhead]
      rcases hc with rfl | rfl | rfl <;> exact literal_complete hat
    | string s =>
      cases hu
      obtain ⟨name, hname⟩ := Option.isSome_iff_exists.mp hlegible
      have hok := string_complete (w := []) nofun hname hat
      change (string outside b (p + w.length)).map Prod.snd = _
      rw [hok]
      rfl
    | number n =>
      cases hu
      obtain ⟨c, l, hbytes, hc⟩ := n.exists_first
      have hhead : (n.bytes ++ r).head? = some c := by rw [hbytes]; rfl
      have hnumber : (c = 0x2D || isAsciiDigit c) = true := by
        rcases hc with ⟨rfl, -⟩ | ⟨hc, -⟩
        · rfl
        · rw [hc, Bool.or_true]
      have hother : ∀ d, (d = 0x2D || isAsciiDigit d) = false → c ≠ d :=
        fun d => ne_of_number hnumber
      rw [hhead]
      simp only [hother 0x22 rfl, hother 0x7B rfl, hother 0x5B rfl, hother 0x74 rfl,
        hother 0x66 rfl, hother 0x6E rfl, hnumber,
        decide_false, Bool.or_self, Bool.false_eq_true, if_false, if_true]
      exact number_complete hat hr hlegible
    | array ts =>
      cases hevery with
      | array _ hts =>
        have hok := array_complete hvalue hu hts hat
        cases hu <;> exact hok
    | object ms =>
      cases hevery with
      | object _ hms =>
        have hok := object_complete hvalue hu hms hlegible hat
        cases hu <;> exact hok

end Values

/-! ## Documents -/

section Documents

variable {outside : Outside} {b : List UInt8} {max : ℕ}

theorem rawJson_sound (hout : outside.DecodesStrings) :
    rawJson outside b max = refuse ∨ rawJson outside b max = .ok () ∧ b.length ≤ max ∧
      (fromUtf8 b).isSome ∧ ∃ t, IsText t b ∧ Everywhere (Accepted outside) 0 t := by
  unfold rawJson
  by_cases hlimit : b = [] ∨ max < b.length
  · rw [if_pos hlimit]
    exact .inl rfl
  rw [if_neg hlimit]
  by_cases hutf8 : fromUtf8 b = none
  · rw [if_pos hutf8]
    exact .inl rfl
  rw [if_neg hutf8]
  rcases value_sound hout (show 65 + 0 = 65 from rfl) (At.start rfl) with
    hrefuse | ⟨-, r, hb, ⟨w, u, t, rfl, hw, hu, ht⟩, hok⟩
  · exact .inl (by rw [hrefuse]; rfl)
  have hat : At b ((w ++ u).length) r := by
    have hzero : At b 0 b := .start rfl
    rw [hb] at hzero ⊢
    simpa using hzero.append
  rw [hok]
  obtain ⟨w', r, rfl, hw', -, hws⟩ := ws_sound hat
  simp only [bind, Except.bind, Nat.zero_add, hws]
  by_cases hend : (w ++ u).length + w'.length ≠ b.length
  · rw [if_pos hend]
    exact .inl rfl
  · rw [if_neg hend]
    have hnil : r = [] := by
      have hlength := hat.append.length
      exact List.length_eq_zero_iff.mp (by omega)
    have hb' : b = w ++ (u ++ w') := by rw [hb, hnil]; simp
    exact .inr ⟨rfl, by omega, Option.isSome_iff_ne_none.mpr hutf8, t, ⟨w, u, w', hb', hw, hu, hw'⟩,
      ht⟩

theorem rawJson_complete (hlimit : b.length ≤ max) (hutf8 : (fromUtf8 b).isSome) {t : Tree}
    (htext : IsText t b) (ht : Everywhere (Accepted outside) 0 t) :
    rawJson outside b max = .ok () := by
  obtain ⟨w, u, w', hb, hw, hu, hw'⟩ := htext
  have hat : At b 0 (w ++ (u ++ w')) := .start hb
  have hne : b ≠ [] := by
    obtain ⟨c, l, rfl, -⟩ := hu.exists_first
    rw [hb]
    simp
  have hends : Ends w' := fun c hc => .inl (hw' c (List.mem_of_mem_head? hc))
  have hvalue := value_complete (show 65 + 0 = 65 from rfl) ⟨hu, ht⟩ hw hat hends
  have hws : ws b (0 + w.length + u.length) = b.length := by
    rw [ws_complete (r := []) hw' (by simpa using hat.append.append) nofun, hb]
    simp only [List.length_append]
    omega
  unfold rawJson
  rw [if_neg (by rw [not_or]; exact ⟨hne, by omega⟩),
    if_neg (Option.isSome_iff_ne_none.mp hutf8), hvalue]
  simp only [bind, Except.bind, hws, ne_eq, not_true_eq_false, if_false]

end Documents

/-- The scanner accepts exactly the texts within the limit that are UTF-8 and spell a value in which
nothing lies within more than 64 arrays and objects, strings decode, decimal numbers are finite and
no object has a name twice. It refuses every other text: it comes to an end and reads no byte past
the input. -/
theorem rawJson_accepts_iff (outside : Outside) (hout : outside.DecodesStrings) (b : List UInt8)
    (max : ℕ) :
    (rawJson outside b max = .ok () ↔ b.length ≤ max ∧ (fromUtf8 b).isSome ∧
      ∃ t, IsText t b ∧ Everywhere (Accepted outside) 0 t) ∧
    (rawJson outside b max = .ok () ∨ rawJson outside b max = refuse) := by
  constructor
  · constructor
    · intro h
      rcases rawJson_sound hout with hrefuse | haccepted
      · rw [h] at hrefuse
        cases hrefuse
      · exact haccepted.2
    · intro h
      obtain ⟨hlimit, hutf8, t, htext, ht⟩ := h
      exact rawJson_complete hlimit hutf8 htext ht
  · rcases rawJson_sound hout with hrefuse | haccepted
    · exact .inr hrefuse
    · exact .inl haccepted.1

namespace Sample

def oneName : Outside where
  decode token := if token = [0x22, 0x61, 0x22] then some "a" else none
  isFinite _ := some true

theorem oneName_decodesStrings : oneName.DecodesStrings := by
  intro body s h
  by_cases htoken : 0x22 :: body ++ [0x22] = [0x22, 0x61, 0x22]
  · have htail : body ++ [0x22] = [0x61] ++ [0x22] := (List.cons.inj htoken).2
    rw [List.append_cancel_right htail]
    exact .unescaped (by decide) (by decide) (by decide) .nil
  · have hnone : oneName.decode (0x22 :: body ++ [0x22]) = none := if_neg htoken
    rw [hnone] at h
    cases h

/-- `{"a":1.5}` -/
theorem object_accepted :
    oneName.DecodesStrings ∧ ∃ t, IsText t [0x7B, 0x22, 0x61, 0x22, 0x3A, 0x31, 0x2E, 0x35, 0x7D] ∧
      Everywhere (Accepted oneName) 0 t := by
  have h : rawJson oneName [0x7B, 0x22, 0x61, 0x22, 0x3A, 0x31, 0x2E, 0x35, 0x7D] 16 = .ok () := by
    decide
  exact ⟨oneName_decodesStrings,
    ((rawJson_accepts_iff oneName oneName_decodesStrings _ 16).1.mp h).2.2⟩

end Sample

end RawJson
