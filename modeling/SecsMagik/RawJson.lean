import Mathlib.Data.List.TakeWhile
import SecsMagik.Rfc8259
import SecsMagik.WireCodec

/-! # The raw result scanner

The result contract walks through a document without building its values. Here are the scanner and
what it takes a token for.
-/
namespace RawJson

open RustStd WireCodec Rfc8259

/-! ## The scanner

Positions are indices into `b`; `b[p]?` is `self.b.get(p)`. -/

/-- What a single string decodes to and whether a number text parses and is finite. -/
structure Outside where
  /-- `serde_json::from_slice::<String>` -/
  decode : List UInt8 → Option String
  /-- `s.parse::<f64>()` and `is_finite` of the result -/
  isFinite : String → Option Bool

/-- The one error of the scanner, and a loop that has not come to its end. -/
inductive Halt where
  | refused | unfinished
  deriving DecidableEq

abbrev Scan (α : Type) := Except (Fault Halt) α

def refuse {α : Type} : Scan α := .error (.error .refused)

variable (outside : Outside) (b : List UInt8)

/-- `while self.b.get(self.p).is_some_and(f) { self.p += 1 }` -/
def skipWhile (f : UInt8 → Bool) (p : ℕ) : ℕ := p + ((b.drop p).takeWhile f).length

def ws (p : ℕ) : ℕ := skipWhile b isWs p

def take (byte : UInt8) (p : ℕ) : Scan ℕ :=
  if b[ws b p]? = some byte then .ok (ws b p + 1) else refuse

/-- The loop of `string`, over the bytes from the position on. -/
def closing : List UInt8 → Bool → ℕ → Scan ℕ
  | [], _, _ => refuse
  | c :: rest, escaped, p =>
    if c < 32 then refuse
    else if escaped then closing rest false (p + 1)
    else if c = 0x5C then closing rest true (p + 1)
    else if c = 0x22 then .ok (p + 1)
    else closing rest false (p + 1)

def string (p : ℕ) : Scan (String × ℕ) := do
  let start := ws b p
  let p ← take b 0x22 start
  let p ← closing (b.drop p) false p
  let token ← slice b start p
  match outside.decode token with
  | none => refuse
  | some s => .ok (s, p)

/-- `self.b.get(self.p..self.p + word.len())` -/
def getRange (p n : ℕ) : Option (List UInt8) :=
  if p + n ≤ b.length then some ((b.drop p).take n) else none

def literal (p : ℕ) : Scan ℕ := do
  let first ← index b p
  let word : List UInt8 :=
    if first = 0x74 then [0x74, 0x72, 0x75, 0x65]
    else if first = 0x66 then [0x66, 0x61, 0x6C, 0x73, 0x65]
    else [0x6E, 0x75, 0x6C, 0x6C]
  if getRange b p word.length ≠ some word then refuse else .ok (p + word.length)

def whole (p : ℕ) : Scan ℕ :=
  match b[p]? with
  | none => refuse
  | some c =>
    if c = 0x30 then .ok (p + 1)
    else if 0x31 ≤ c && c ≤ 0x39 then .ok (skipWhile b isAsciiDigit p)
    else refuse

/-- The digits of a fraction or an exponent; there must be some. -/
def digits (p : ℕ) : Scan ℕ :=
  if p = skipWhile b isAsciiDigit p then refuse else .ok (skipWhile b isAsciiDigit p)

/-- Whether there is a fraction, and where it ends. -/
def fraction (p : ℕ) : Scan (Bool × ℕ) :=
  if b[p]? = some 0x2E then do
    let p ← digits b (p + 1)
    return (true, p)
  else .ok (false, p)

def isSign (c : UInt8) : Bool := c = 0x2B || c = 0x2D

/-- Behind the sign of an exponent, if there is one. -/
def sign (p : ℕ) : ℕ := if b[p]?.any isSign then p + 1 else p

def isExponentMark (c : UInt8) : Bool := c = 0x65 || c = 0x45

def exponent (p : ℕ) : Scan (Bool × ℕ) :=
  if b[p]?.any isExponentMark then do
    let p ← digits b (sign b (p + 1))
    return (true, p)
  else .ok (false, p)

/-- `std::str::from_utf8` and `parse::<f64>` of a number, which must be finite. -/
def finite (token : List UInt8) : Scan Unit :=
  match (fromUtf8 token).bind outside.isFinite with
  | some true => .ok ()
  | _ => refuse

def number (start : ℕ) : Scan ℕ := do
  let first ← index b start
  let p ← whole b (if first = 0x2D then start + 1 else start)
  let (isFraction, p) ← fraction b p
  let (isExponent, p) ← exponent b p
  if isFraction || isExponent then
    let token ← slice b start p
    finite outside token
  return p

section Loops

variable (value : ℕ → Scan ℕ)

/-- The loop over the members of an object, with the names so far. -/
def members : (rounds : ℕ) → List String → ℕ → Scan ℕ
  | 0, _, _ => .error (.error .unfinished)
  | rounds + 1, names, p => do
    let (name, p) ← string outside b p
    if name ∈ names then refuse else do
    let p ← take b 0x3A p
    let p ← value p
    let p := ws b p
    if b[p]? = some 0x7D then .ok (p + 1)
    else if b[p]? = some 0x2C then members rounds (name :: names) (p + 1)
    else refuse

/-- The loop over the items of an array. -/
def items : (rounds : ℕ) → ℕ → Scan ℕ
  | 0, _ => .error (.error .unfinished)
  | rounds + 1, p => do
    let p ← value p
    let p := ws b p
    if b[p]? = some 0x5D then .ok (p + 1)
    else if b[p]? = some 0x2C then items rounds (p + 1)
    else refuse

/-- An object, from its brace on. The loop has more rounds than there are bytes. -/
def object (p : ℕ) : Scan ℕ :=
  let p := ws b (p + 1)
  if b[p]? = some 0x7D then .ok (p + 1) else members outside b value (b.length + 1) [] p

def array (p : ℕ) : Scan ℕ :=
  let p := ws b (p + 1)
  if b[p]? = some 0x5D then .ok (p + 1) else items b value (b.length + 1) p

end Loops

/-- `value(depth)`, where `room` is `65 - depth`. -/
def value : (room : ℕ) → ℕ → Scan ℕ
  | 0, _ => refuse
  | room + 1, p =>
    let p := ws b p
    match b[p]? with
    | none => refuse
    | some c =>
      if c = 0x22 then (string outside b p).map Prod.snd
      else if c = 0x7B then object outside b (value room) p
      else if c = 0x5B then array b (value room) p
      else if c = 0x74 || c = 0x66 || c = 0x6E then literal b p
      else if c = 0x2D || isAsciiDigit c then number outside b p
      else refuse

def rawJson (max : ℕ) : Scan Unit :=
  if b = [] ∨ max < b.length then refuse
  else if fromUtf8 b = none then refuse
  else do
    let p ← value outside b 65 0
    if ws b p ≠ b.length then refuse else .ok ()

/-! ## Positions -/

section Positions

variable {b : List UInt8} {p : ℕ} {l v w r : List UInt8} {f : UInt8 → Bool}

theorem getRange_of_at (h : At b p (v ++ r)) : getRange b p v.length = some v := by
  rw [getRange, if_pos h.append.le, h.drop, List.take_left]

/-- A run of bytes that a loop goes over and what does not let it go on. -/
def Stops (f : UInt8 → Bool) (r : List UInt8) : Prop := ∀ c, r.head? = some c → f c = false

theorem stops_dropWhile (f : UInt8 → Bool) (l : List UInt8) : Stops f (l.dropWhile f) := by
  intro c hc
  have hne : l.dropWhile f ≠ [] := by
    intro hnil
    rw [hnil] at hc
    cases hc
  have hhead := List.head_dropWhile_not f hne
  rw [List.head?_eq_some_head hne] at hc
  rw [← Option.some.inj hc]
  exact hhead

theorem skipWhile_of_at (h : At b p (v ++ r)) (hv : ∀ c ∈ v, f c) (hr : Stops f r) :
    skipWhile b f p = p + v.length := by
  have hnil : r.takeWhile f = [] := by
    cases r with
    | nil => rfl
    | cons c r => rw [List.takeWhile_cons, hr c rfl]; rfl
  rw [skipWhile, h.drop, List.takeWhile_append_of_pos hv, hnil, List.append_nil]

/-- A loop splits what remains where it stops. -/
theorem exists_skipWhile (h : At b p l) (f : UInt8 → Bool) :
    ∃ v r, l = v ++ r ∧ (∀ c ∈ v, f c) ∧ Stops f r ∧ skipWhile b f p = p + v.length := by
  have hsplit : l = l.takeWhile f ++ l.dropWhile f := List.takeWhile_append_dropWhile.symm
  have hrun : ∀ c ∈ l.takeWhile f, f c := fun c hc => List.mem_takeWhile_imp hc
  refine ⟨_, _, hsplit, hrun, stops_dropWhile f l, ?_⟩
  rw [hsplit] at h
  exact skipWhile_of_at h hrun (stops_dropWhile f l)

/-- Either refused, or read as some `v` in front of what remains. -/
def Sound (p : ℕ) (l : List UInt8) (G : List UInt8 → Prop) (o : Scan ℕ) : Prop :=
  o = refuse ∨ ∃ v r, l = v ++ r ∧ G v ∧ o = .ok (p + v.length)

theorem Sound.imp {G G' : List UInt8 → Prop} {o : Scan ℕ} (h : Sound p l G o)
    (himp : ∀ v, G v → G' v) : Sound p l G' o := by
  rcases h with hrefuse | ⟨v, r, hl, hv, hok⟩
  · exact .inl hrefuse
  · exact .inr ⟨v, r, hl, himp v hv, hok⟩

theorem Sound.after {G : List UInt8 → Prop} {o : Scan ℕ} (h : Sound (p + w.length) l G o) :
    Sound p (w ++ l) (fun v => ∃ u, v = w ++ u ∧ G u) o := by
  rcases h with hrefuse | ⟨u, r, rfl, hu, hok⟩
  · exact .inl hrefuse
  · refine .inr ⟨w ++ u, r, by simp, ⟨u, rfl, hu⟩, ?_⟩
    rw [hok, List.length_append, Nat.add_assoc]

end Positions

/-! ## Numbers -/

section Numbers

variable {outside : Outside} {b : List UInt8} {p : ℕ} {l v r : List UInt8}

theorem digits_sound (h : At b p l) : Sound p l Digits (digits b p) := by
  obtain ⟨v, r, hl, hv, -, hskip⟩ := exists_skipWhile h isAsciiDigit
  rw [digits, hskip]
  by_cases hnil : v = []
  · exact .inl (if_pos (by simp [hnil]))
  · have hlength : v.length ≠ 0 := by simpa using hnil
    exact .inr ⟨v, r, hl, ⟨hnil, hv⟩, if_neg (by omega)⟩

theorem digits_complete (hv : Digits v) (h : At b p (v ++ r)) (hr : Stops isAsciiDigit r) :
    digits b p = .ok (p + v.length) := by
  have hlength : v.length ≠ 0 := by simpa using hv.1
  rw [digits, skipWhile_of_at h hv.2 hr, if_neg (by omega)]

theorem isAsciiDigit_of_nonzero {c : UInt8} (hlow : 0x31 ≤ c) (hhigh : c ≤ 0x39) :
    isAsciiDigit c := by
  rw [UInt8.le_iff_toNat_le] at hlow hhigh
  simp only [isAsciiDigit, Bool.and_eq_true, decide_eq_true_eq, UInt8.le_iff_toNat_le]
  exact ⟨Nat.le_trans (by decide) hlow, hhigh⟩

theorem whole_sound (h : At b p l) : Sound p l IsInt (whole b p) := by
  rw [whole, h.get]
  cases l with
  | nil => exact .inl rfl
  | cons c l =>
    simp only [List.head?_cons]
    by_cases hzero : c = 0x30
    · rw [if_pos hzero, hzero]
      exact .inr ⟨[0x30], l, rfl, .zero, rfl⟩
    · rw [if_neg hzero]
      by_cases hrange : (0x31 ≤ c && c ≤ 0x39) = true
      · rw [if_pos hrange]
        simp only [Bool.and_eq_true, decide_eq_true_eq] at hrange
        obtain ⟨v, r, hl, hv, hr, hskip⟩ := exists_skipWhile h isAsciiDigit
        cases v with
        | nil =>
          -- the first byte is a digit, so the loop does go on
          have hstop := hr c (by rw [← List.nil_append r, ← hl]; rfl)
          rw [isAsciiDigit_of_nonzero hrange.1 hrange.2] at hstop
          cases hstop
        | cons d v =>
          obtain ⟨rfl, -⟩ := List.cons.inj hl
          exact .inr ⟨c :: v, r, hl, .nonzero hrange.1 hrange.2
            (fun x hx => hv x (List.mem_cons_of_mem _ hx)), by rw [hskip]⟩
      · rw [if_neg hrange]
        exact .inl rfl

theorem whole_complete (hv : IsInt v) (h : At b p (v ++ r)) (hr : Stops isAsciiDigit r) :
    whole b p = .ok (p + v.length) := by
  rw [whole, h.get]
  cases hv with
  | zero => rfl
  | @nonzero c v hlow hhigh hv =>
    have hne : c ≠ 0x30 := by
      intro hzero
      rw [hzero] at hlow
      exact absurd hlow (by decide)
    have hall : ∀ x ∈ c :: v, isAsciiDigit x := by
      intro x hx
      rcases List.mem_cons.mp hx with rfl | hx
      · exact isAsciiDigit_of_nonzero hlow hhigh
      · exact hv x hx
    simp only [List.cons_append, List.head?_cons, if_neg hne]
    rw [if_pos (by simp [hlow, hhigh]), skipWhile_of_at h hall hr]

/-- What is written in front of a bad or an absent fraction. -/
theorem fraction_sound (h : At b p l) : fraction b p = refuse ∨
    ∃ v r, l = v ++ r ∧ IsFraction v ∧ fraction b p = .ok (decide (v ≠ []), p + v.length) := by
  rw [fraction, h.get]
  by_cases hdot : l.head? = some 0x2E
  · rw [if_pos hdot]
    obtain ⟨l, rfl⟩ : ∃ rest, l = 0x2E :: rest := ⟨l.tail, by
      cases l with
      | nil => cases hdot
      | cons c l => cases hdot; rfl⟩
    have hnext := h.tail
    rcases digits_sound hnext with hrefuse | ⟨v, r, rfl, hv, hok⟩
    · exact .inl (by rw [hrefuse]; rfl)
    · refine .inr ⟨0x2E :: v, r, rfl, .present hv, ?_⟩
      rw [hok]
      simp only [bind, Except.bind, pure, Except.pure, List.length_cons]
      rw [Nat.add_assoc, Nat.add_comm 1]
      rfl
  · rw [if_neg hdot]
    exact .inr ⟨[], l, rfl, .absent, rfl⟩

theorem fraction_complete (hv : IsFraction v) (h : At b p (v ++ r)) (hdigit : Stops isAsciiDigit r)
    (hdot : Stops (· = 0x2E) r) : fraction b p = .ok (decide (v ≠ []), p + v.length) := by
  rw [fraction, h.get]
  cases hv with
  | absent =>
    have hno : r.head? ≠ some 0x2E := fun hhead => absurd (hdot _ hhead) (by decide)
    rw [List.nil_append, if_neg hno]
    rfl
  | @present ds hds =>
    have hnext : At b (p + 1) (ds ++ r) := h.tail
    rw [List.cons_append, List.head?_cons, if_pos rfl, digits_complete hds hnext hdigit]
    simp only [bind, Except.bind, pure, Except.pure, List.length_cons]
    rw [Nat.add_assoc, Nat.add_comm 1]
    rfl

theorem sign_sound (h : At b p l) : ∃ v r, l = v ++ r ∧
    (v = [] ∨ v = [0x2B] ∨ v = [0x2D]) ∧ sign b p = p + v.length := by
  rw [sign, h.get]
  cases l with
  | nil => exact ⟨[], [], rfl, .inl rfl, rfl⟩
  | cons c l =>
    rw [List.head?_cons, Option.any_some]
    by_cases hsign : isSign c
    · refine ⟨[c], l, rfl, .inr ?_, by rw [if_pos hsign]; rfl⟩
      simp only [isSign, Bool.or_eq_true, decide_eq_true_eq] at hsign
      rcases hsign with rfl | rfl
      · exact .inl rfl
      · exact .inr rfl
    · exact ⟨[], c :: l, rfl, .inl rfl, by rw [if_neg hsign]; rfl⟩

theorem sign_complete {s : List UInt8} (hs : s = [] ∨ s = [0x2B] ∨ s = [0x2D])
    (hv : Digits v) (h : At b p (s ++ (v ++ r))) : sign b p = p + s.length := by
  rw [sign, h.get]
  rcases hs with rfl | rfl | rfl
  · obtain ⟨c, v, rfl⟩ := List.exists_cons_of_ne_nil hv.1
    have hdigit := hv.2 c List.mem_cons_self
    have hno : isSign c = false := by
      by_contra hsign
      simp only [isSign, Bool.or_eq_true, decide_eq_true_eq, Bool.not_eq_false] at hsign
      rcases hsign with rfl | rfl <;> exact absurd hdigit (by decide)
    simp [hno]
  · rfl
  · rfl

theorem isExponentMark_iff {c : UInt8} : isExponentMark c ↔ c = 0x65 ∨ c = 0x45 := by
  simp [isExponentMark]

theorem exponent_sound (h : At b p l) : exponent b p = refuse ∨
    ∃ v r, l = v ++ r ∧ IsExponent v ∧ exponent b p = .ok (decide (v ≠ []), p + v.length) := by
  rw [exponent, h.get]
  by_cases hmark : l.head?.any isExponentMark
  · rw [if_pos hmark]
    cases l with
    | nil => cases hmark
    | cons c l =>
      have hnext := h.tail
      obtain ⟨s, l, rfl, hs, hsign⟩ := sign_sound hnext
      rcases digits_sound hnext.append with hrefuse | ⟨v, r, rfl, hv, hok⟩
      · exact .inl (by rw [hsign, hrefuse]; rfl)
      · refine .inr ⟨c :: (s ++ v), r, by simp, .present (isExponentMark_iff.mp hmark) hs hv, ?_⟩
        rw [hsign, hok]
        simp only [bind, Except.bind, pure, Except.pure, List.length_cons, List.length_append]
        rw [show p + (s.length + v.length + 1) = p + 1 + s.length + v.length by omega]
        rfl
  · rw [if_neg hmark]
    exact .inr ⟨[], l, rfl, .absent, rfl⟩

theorem exponent_complete (hv : IsExponent v) (h : At b p (v ++ r))
    (hdigit : Stops isAsciiDigit r) (hmark : Stops isExponentMark r) :
    exponent b p = .ok (decide (v ≠ []), p + v.length) := by
  rw [exponent, h.get]
  cases hv with
  | absent =>
    have hno : ¬ r.head?.any isExponentMark := by
      cases r with
      | nil => exact Bool.false_ne_true
      | cons c r => simp [hmark c rfl]
    rw [List.nil_append, if_neg hno]
    rfl
  | @present e s ds he hs hds =>
    have hnext : At b (p + 1) (s ++ (ds ++ r)) := by
      simpa using h.tail
    rw [List.cons_append, List.head?_cons, Option.any_some,
      if_pos (isExponentMark_iff.mpr he), sign_complete hs hds hnext,
      digits_complete hds hnext.append hdigit]
    simp only [bind, Except.bind, pure, Except.pure, List.length_cons, List.length_append]
    rw [show p + (s.length + ds.length + 1) = p + 1 + s.length + ds.length by omega]
    rfl

def IsFinite (outside : Outside) (token : List UInt8) : Prop :=
  (fromUtf8 token).bind outside.isFinite = some true

theorem finite_eq_ok {token : List UInt8} :
    finite outside token = .ok () ↔ IsFinite outside token := by
  unfold finite IsFinite
  split
  · next h => simp [h]
  · next h => exact iff_of_false nofun h

theorem finite_sound (outside : Outside) (token : List UInt8) :
    finite outside token = refuse ∨ finite outside token = .ok () ∧ IsFinite outside token := by
  by_cases h : IsFinite outside token
  · exact .inr ⟨finite_eq_ok.mpr h, h⟩
  · refine .inl ?_
    unfold finite
    split
    · next htrue => exact absurd htrue h
    · rfl

theorem minus_sound (p : ℕ) (c : UInt8) (l : List UInt8) : ∃ v r, c :: l = v ++ r ∧
    (v = [] ∨ v = [0x2D]) ∧ (if c = 0x2D then p + 1 else p) = p + v.length := by
  by_cases hminus : c = 0x2D
  · exact ⟨[0x2D], l, by rw [hminus]; rfl, .inr rfl, by rw [if_pos hminus]; rfl⟩
  · exact ⟨[], c :: l, rfl, .inl rfl, by rw [if_neg hminus]; rfl⟩

theorem number_eq {n : Number} {c : UInt8} (h : At b p (n.bytes ++ r))
    (hindex : (index b p : Scan UInt8) = .ok c)
    (hminus : (if c = 0x2D then p + 1 else p) = p + n.minus.length)
    (hwhole : whole b (p + n.minus.length) = .ok (p + n.minus.length + n.int.length))
    (hfraction : fraction b (p + n.minus.length + n.int.length) =
      .ok (decide (n.fraction ≠ []), p + n.minus.length + n.int.length + n.fraction.length))
    (hexponent : exponent b (p + n.minus.length + n.int.length + n.fraction.length) =
      .ok (decide (n.exponent ≠ []),
        p + n.minus.length + n.int.length + n.fraction.length + n.exponent.length)) :
    number outside b p =
      (if n.IsDecimal then finite outside n.bytes else .ok ()) >>=
        fun _ => .ok (p + n.bytes.length) := by
  have hstop : p + n.minus.length + n.int.length + n.fraction.length + n.exponent.length =
      p + n.bytes.length := by
    simp only [Number.bytes, List.length_append]
    omega
  have hdecimal : (decide (n.fraction ≠ []) || decide (n.exponent ≠ [])) = true ↔ n.IsDecimal := by
    rw [Bool.or_eq_true, decide_eq_true_eq, decide_eq_true_eq]
    rfl
  rw [hstop] at hexponent
  simp only [number, hindex, hminus, hwhole, hfraction, hexponent, bind, Except.bind, hdecimal,
    h.slice]
  by_cases hd : n.IsDecimal
  · rw [if_pos hd, if_pos hd]
    rfl
  · rw [if_neg hd, if_neg hd]
    rfl

theorem number_sound {c : UInt8} (h : At b p (c :: l)) :
    Sound p (c :: l) (fun v => ∃ n : Number, v = n.bytes ∧ (n.IsDecimal → IsFinite outside v))
      (number outside b p) := by
  have hindex : (index b p : Scan _) = .ok c := h.index
  obtain ⟨minus, l₁, hl, hminus, hp⟩ := minus_sound p c l
  rw [hl] at h ⊢
  rcases whole_sound h.append with hrefuse | ⟨int, l₂, rfl, hint, hwhole⟩
  · exact .inl (by simp only [number, hindex, hp, hrefuse, bind, Except.bind]; rfl)
  rcases fraction_sound h.append.append with hrefuse | ⟨frac, l₃, rfl, hfrac, hfraction⟩
  · exact .inl (by simp only [number, hindex, hp, hwhole, hrefuse, bind, Except.bind]; rfl)
  rcases exponent_sound h.append.append.append with hrefuse | ⟨exp, r, rfl, hexp, hexponent⟩
  · exact .inl (by
      simp only [number, hindex, hp, hwhole, hfraction, hrefuse, bind, Except.bind]; rfl)
  let n : Number := ⟨minus, int, frac, exp, hminus, hint, hfrac, hexp⟩
  have hbytes : minus ++ (int ++ (frac ++ (exp ++ r))) = n.bytes ++ r := by
    simp [n, Number.bytes]
  rw [hbytes] at h ⊢
  rw [number_eq (n := n) h hindex hp hwhole hfraction hexponent]
  by_cases hd : n.IsDecimal
  · rw [if_pos hd]
    rcases finite_sound outside n.bytes with hrefuse | ⟨hok, hfinite⟩
    · exact .inl (by rw [hrefuse]; rfl)
    · exact .inr ⟨n.bytes, r, rfl, ⟨n, rfl, fun _ => hfinite⟩, by rw [hok]; rfl⟩
  · rw [if_neg hd]
    exact .inr ⟨n.bytes, r, rfl, ⟨n, rfl, fun hd' => absurd hd' hd⟩, rfl⟩

def Ends (r : List UInt8) : Prop :=
  ∀ c, r.head? = some c → isWs c ∨ c = 0x2C ∨ c = 0x5D ∨ c = 0x7D

theorem Ends.stops {f : UInt8 → Bool} (hr : Ends r)
    (hf : [0x20, 0x09, 0x0A, 0x0D, 0x2C, 0x5D, 0x7D].all (! f ·)) : Stops f r := by
  intro c hc
  have hend := hr c hc
  simp only [isWs, Bool.or_eq_true, decide_eq_true_eq, or_assoc] at hend
  simpa using List.all_eq_true.mp hf c (by simpa using hend)

theorem stops_exponent {f : UInt8 → Bool} (hv : IsExponent v) (hf : [0x65, 0x45].all (! f ·))
    (hr : Stops f r) : Stops f (v ++ r) := by
  cases hv with
  | absent => exact hr
  | present he hs hds =>
    intro c hc
    cases hc
    simpa using List.all_eq_true.mp hf _ (by simpa using he)

theorem stops_fraction {f : UInt8 → Bool} (hv : IsFraction v) (hf : f 0x2E = false)
    (hr : Stops f r) : Stops f (v ++ r) := by
  cases hv with
  | absent => exact hr
  | present hds =>
    intro c hc
    cases hc
    exact hf

theorem minus_complete (n : Number) : ∃ c l, n.bytes = c :: l ∧
    ∀ p, (if c = 0x2D then p + 1 else p) = p + n.minus.length := by
  obtain ⟨c, l, hbytes, hc⟩ := n.exists_first
  refine ⟨c, l, hbytes, fun p => ?_⟩
  rcases hc with ⟨hc, hminus⟩ | ⟨hc, hminus⟩
  · rw [if_pos hc, hminus]
    rfl
  · have hne : c ≠ 0x2D := by
      intro hc'
      rw [hc'] at hc
      exact absurd hc (by decide)
    rw [if_neg hne, hminus]
    rfl

theorem number_complete {n : Number} (h : At b p (n.bytes ++ r)) (hr : Ends r)
    (hfinite : n.IsDecimal → IsFinite outside n.bytes) :
    number outside b p = .ok (p + n.bytes.length) := by
  obtain ⟨c, l, hfirst, hminus⟩ := minus_complete n
  have hindex : (index b p : Scan UInt8) = .ok c := by
    rw [hfirst] at h
    exact h.index
  have hparts : At b p (n.minus ++ (n.int ++ (n.fraction ++ (n.exponent ++ r)))) := by
    simpa [Number.bytes] using h
  have hdigit : Stops isAsciiDigit (n.exponent ++ r) :=
    stops_exponent n.isExponent (by decide) (hr.stops (by decide))
  have hdot : Stops (· = 0x2E) (n.exponent ++ r) :=
    stops_exponent n.isExponent (by decide) (hr.stops (by decide))
  rw [number_eq h hindex (hminus p)
    (whole_complete n.isInt hparts.append (stops_fraction n.isFraction (by decide) hdigit))
    (fraction_complete n.isFraction hparts.append.append hdigit hdot)
    (exponent_complete n.isExponent hparts.append.append.append (hr.stops (by decide))
      (hr.stops (by decide)))]
  by_cases hd : n.IsDecimal
  · rw [if_pos hd, finite_eq_ok.mpr (hfinite hd)]
    rfl
  · rw [if_neg hd]
    rfl

end Numbers

/-! ## White space, literals and strings -/

section Tokens

variable {outside : Outside} {b : List UInt8} {p : ℕ} {l v w r : List UInt8} {c : UInt8}

theorem ws_sound (h : At b p l) :
    ∃ w r, l = w ++ r ∧ Blank w ∧ Stops isWs r ∧ ws b p = p + w.length :=
  exists_skipWhile h isWs

theorem ws_complete (hw : Blank w) (h : At b p (w ++ r)) (hr : Stops isWs r) :
    ws b p = p + w.length :=
  skipWhile_of_at h hw hr

theorem take_sound (h : At b p l) :
    Sound p l (fun v => ∃ w, v = w ++ [c] ∧ Blank w) (take b c p) := by
  obtain ⟨w, r, rfl, hw, -, hws⟩ := ws_sound h
  rw [take, hws, h.append.get]
  by_cases hc : r.head? = some c
  · cases r with
    | nil => cases hc
    | cons d r =>
      cases hc
      rw [List.head?_cons, if_pos rfl]
      exact .inr ⟨w ++ [c], r, by simp, ⟨w, rfl, hw⟩, by simp [Nat.add_assoc]⟩
  · rw [if_neg hc]
    exact .inl rfl

theorem take_complete (hw : Blank w) (hc : isWs c = false) (h : At b p (w ++ c :: r)) :
    take b c p = .ok (p + w.length + 1) := by
  have hstop : Stops isWs (c :: r) := by
    intro d hd
    cases hd
    exact hc
  rw [take, ws_complete hw h hstop, h.append.get, List.head?_cons, if_pos rfl]

theorem literal_eq (h : At b p (c :: l)) (word : Literal) (hc : word.bytes.head? = some c) :
    literal b p = if getRange b p word.bytes.length ≠ some word.bytes then refuse
      else .ok (p + word.bytes.length) := by
  rw [literal, h.index]
  cases word <;> cases hc <;> rfl

theorem exists_literal (hc : (c = 0x74 || c = 0x66 || c = 0x6E) = true) :
    ∃ word : Literal, word.bytes.head? = some c := by
  simp only [Bool.or_eq_true, decide_eq_true_eq, or_assoc] at hc
  rcases hc with rfl | rfl | rfl
  · exact ⟨.true, rfl⟩
  · exact ⟨.false, rfl⟩
  · exact ⟨.null, rfl⟩

theorem literal_sound (h : At b p (c :: l)) (word : Literal) (hc : word.bytes.head? = some c) :
    Sound p (c :: l) (fun v => v = word.bytes) (literal b p) := by
  rw [literal_eq h word hc]
  by_cases hrange : getRange b p word.bytes.length = some word.bytes
  · rw [if_neg (not_not_intro hrange)]
    refine .inr ⟨word.bytes, (c :: l).drop word.bytes.length, ?_, rfl, rfl⟩
    rw [getRange, h.drop] at hrange
    split at hrange
    · have hsplit := List.take_append_drop word.bytes.length (c :: l)
      rw [Option.some.inj hrange] at hsplit
      exact hsplit.symm
    · cases hrange
  · rw [if_pos hrange]
    exact .inl rfl

theorem literal_complete {word : Literal} (h : At b p (word.bytes ++ r)) :
    literal b p = .ok (p + word.bytes.length) := by
  obtain ⟨c, l, hfirst⟩ : ∃ c l, word.bytes = c :: l := by
    cases word <;> exact ⟨_, _, rfl⟩
  have hat : At b p (c :: (l ++ r)) := by
    rw [hfirst] at h
    exact h
  rw [literal_eq hat word (by rw [hfirst]; rfl), getRange_of_at h, if_neg (not_not_intro rfl)]

/-! The loop of `string` ends at the first quote that no backslash stands in front of. -/

theorem closing_sound (l : List UInt8) (escaped : Bool) (p : ℕ) : closing l escaped p = refuse ∨
    ∃ v r, l = v ++ 0x22 :: r ∧ closing l escaped p = .ok (p + v.length + 1) := by
  induction l generalizing escaped p with
  | nil => exact .inl rfl
  | cons c l ih =>
    have hnext : ∀ escaped', closing l escaped' (p + 1) = refuse ∨
        ∃ v r, c :: l = v ++ 0x22 :: r ∧
          closing l escaped' (p + 1) = .ok (p + v.length + 1) := by
      intro escaped'
      rcases ih escaped' (p + 1) with hrefuse | ⟨v, r, rfl, hok⟩
      · exact .inl hrefuse
      · refine .inr ⟨c :: v, r, rfl, ?_⟩
        rw [hok, List.length_cons]
        congr 1
        omega
    rw [closing]
    by_cases hcontrol : c < 32
    · rw [if_pos hcontrol]
      exact .inl rfl
    rw [if_neg hcontrol]
    cases escaped with
    | true => exact hnext false
    | false =>
      rw [if_neg Bool.false_ne_true]
      by_cases hescape : c = 0x5C
      · rw [if_pos hescape]
        exact hnext true
      rw [if_neg hescape]
      by_cases hquote : c = 0x22
      · rw [if_pos hquote]
        exact .inr ⟨[], l, by rw [hquote]; rfl, rfl⟩
      · rw [if_neg hquote]
        exact hnext false

theorem closing_plain (hcontrol : 0x20 ≤ c) (hquote : c ≠ 0x22) (hescape : c ≠ 0x5C) :
    closing (c :: l) false p = closing l false (p + 1) := by
  have hlow : ¬ c < 32 := by
    rw [UInt8.lt_iff_toNat_lt]
    rw [UInt8.le_iff_toNat_le] at hcontrol
    exact Nat.not_lt.mpr hcontrol
  rw [closing, if_neg hlow, if_neg Bool.false_ne_true, if_neg hescape, if_neg hquote]

theorem closing_escape {d : UInt8} (hd : 0x20 ≤ d) :
    closing (0x5C :: d :: l) false p = closing l false (p + 2) := by
  have hlow : ¬ d < 32 := by
    rw [UInt8.lt_iff_toNat_lt]
    rw [UInt8.le_iff_toNat_le] at hd
    exact Nat.not_lt.mpr hd
  rw [closing, if_neg (by decide), if_neg Bool.false_ne_true, if_pos rfl, closing, if_neg hlow,
    if_pos rfl]

theorem closing_hexDigits {ds : List UInt8} (hds : ∀ d ∈ ds, isHexDigit d) (p : ℕ) :
    closing (ds ++ l) false p = closing l false (p + ds.length) := by
  induction ds generalizing p with
  | nil => rfl
  | cons d ds ih =>
    have hd := hds d List.mem_cons_self
    have hplain : 0x20 ≤ d ∧ d ≠ 0x22 ∧ d ≠ 0x5C := by
      simp only [isHexDigit, isAsciiDigit, Bool.or_eq_true, Bool.and_eq_true, decide_eq_true_eq,
        UInt8.le_iff_toNat_le, UInt8.reduceToNat] at hd
      simp only [UInt8.le_iff_toNat_le, Ne, ← UInt8.toNat_inj, UInt8.reduceToNat]
      omega
    rw [List.cons_append, closing_plain hplain.1 hplain.2.1 hplain.2.2,
      ih (fun d hd => hds d (List.mem_cons_of_mem _ hd)), List.length_cons]
    congr 1
    omega

theorem closing_complete {cs : List UInt8} (hcs : Chars cs) (r : List UInt8) (p : ℕ) :
    closing (cs ++ 0x22 :: r) false p = .ok (p + cs.length + 1) := by
  induction hcs generalizing p with
  | nil => rfl
  | unescaped hcontrol hquote hescape _ ih =>
    rw [List.cons_append, closing_plain hcontrol hquote hescape, ih, List.length_cons]
    congr 1
    omega
  | @escaped d cs hd _ ih =>
    have hlow : 0x20 ≤ d := by
      simp only [List.mem_cons, List.not_mem_nil, or_false] at hd
      rcases hd with rfl | rfl | rfl | rfl | rfl | rfl | rfl | rfl <;> decide
    rw [List.cons_append, List.cons_append, closing_escape hlow, ih, List.length_cons,
      List.length_cons]
    congr 1
    omega
  | @unicode ds cs hlength hds _ ih =>
    rw [List.append_assoc, List.cons_append, List.cons_append, closing_escape (by decide),
      closing_hexDigits hds, ih]
    simp only [List.length_cons, List.length_append]
    congr 1
    omega

/-- Between its quotes, what decodes is written as a string is. -/
def Outside.DecodesStrings (outside : Outside) : Prop :=
  ∀ body s, outside.decode (0x22 :: body ++ [0x22]) = some s → Chars body

/-- What `string` does once the white space and the body of the string are known. -/
theorem string_eq {body : List UInt8} (hw : Blank w)
    (h : At b p (w ++ ((0x22 :: body ++ [0x22]) ++ r)))
    (hclosing : closing (body ++ 0x22 :: r) false (p + w.length + 1) =
      .ok (p + w.length + 1 + body.length + 1)) :
    string outside b p =
      match outside.decode (0x22 :: body ++ [0x22]) with
      | none => refuse
      | some s => .ok (s, p + w.length + (0x22 :: body ++ [0x22]).length) := by
  have hquote : At b (p + w.length) (0x22 :: (body ++ 0x22 :: r)) := by simpa using h.append
  have hstop : Stops isWs (0x22 :: body ++ [0x22] ++ r) := by
    intro c hc
    cases hc
    decide
  have htake : take b 0x22 (p + w.length) = .ok (p + w.length + 1) :=
    take_complete (w := []) nofun (by decide) hquote
  have hnext := hquote.tail
  have hend : p + w.length + 1 + body.length + 1 =
      p + w.length + (0x22 :: body ++ [0x22]).length := by
    simp only [List.length_append, List.length_cons, List.length_nil]
    omega
  simp only [string, ws_complete hw h hstop, htake, bind, Except.bind, hnext.drop, hclosing, hend,
    h.append.slice]

theorem string_sound (hout : outside.DecodesStrings) (h : At b p l) :
    string outside b p = refuse ∨ ∃ (w : List UInt8) (s : StringToken) (name : String)
      (r : List UInt8), l = w ++ (s.bytes ++ r) ∧ Blank w ∧ outside.decode s.bytes = some name ∧
      string outside b p = .ok (name, p + w.length + s.bytes.length) := by
  obtain ⟨w, l, rfl, hw, hstop, hws⟩ := ws_sound h
  rcases take_sound (c := 0x22) h.append with hrefuse | ⟨v, l₁, rfl, ⟨w', rfl, hw'⟩, htake⟩
  · exact .inl (by simp only [string, hws, hrefuse, bind, Except.bind]; rfl)
  -- the white space has been skipped already
  have hnil : w' = [] := by
    cases w' with
    | nil => rfl
    | cons c w' =>
      have hno := hstop c rfl
      rw [hw' c List.mem_cons_self] at hno
      cases hno
  subst hnil
  have hnext : At b (p + w.length + 1) l₁ := h.append.append
  rcases closing_sound l₁ false (p + w.length + 1) with hrefuse | ⟨body, r, rfl, hclosing⟩
  · refine .inl ?_
    simp only [string, hws, htake, bind, Except.bind, List.nil_append, List.length_singleton,
      hnext.drop, hrefuse]
    rfl
  have hbody : w ++ ([] ++ [0x22] ++ (body ++ 0x22 :: r)) =
      w ++ ((0x22 :: body ++ [0x22]) ++ r) := by simp
  rw [hbody] at h ⊢
  rw [string_eq hw h hclosing]
  cases hdecode : outside.decode (0x22 :: body ++ [0x22]) with
  | none => exact .inl rfl
  | some name => exact .inr ⟨w, ⟨body, hout body name hdecode⟩, name, r, rfl, hw, hdecode, rfl⟩

theorem string_complete {s : StringToken} {name : String} (hw : Blank w)
    (hdecode : outside.decode s.bytes = some name) (h : At b p (w ++ (s.bytes ++ r))) :
    string outside b p = .ok (name, p + w.length + s.bytes.length) := by
  rw [string_eq hw h (closing_complete s.wellFormed r _)]
  unfold StringToken.bytes at hdecode ⊢
  rw [hdecode]

end Tokens

end RawJson
