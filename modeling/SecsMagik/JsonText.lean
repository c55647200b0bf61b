import SecsMagik.WireCodec

/-! # Compact JSON text

The text a record of texts, numbers, lists of texts and one level of nested records serialises to:
no white space, members in the order of the fields, control characters escaped. The text
determines the record, and a word of plain letters occurs in it only where it occurs in the
escaped form of one of its names or texts.
-/
namespace JsonText

open RustStd WireCodec

/-! ## Quoted text -/

/-- The one-letter escapes. -/
def shortEscape (c : Char) : Option Char :=
  if c = '"' then some '"'
  else if c = '\\' then some '\\'
  else if c = '\x08' then some 'b'
  else if c = '\x0c' then some 'f'
  else if c = '\n' then some 'n'
  else if c = '\r' then some 'r'
  else if c = '\t' then some 't'
  else none

def escapeChar (c : Char) : List Char :=
  match shortEscape c with
  | some letter => ['\\', letter]
  | none =>
    if c.toNat < 32 then ['\\', 'u', '0', '0', hexDigit (c.toNat / 16), hexDigit (c.toNat % 16)]
    else [c]

def escape (s : String) : List Char := (chars s).flatMap escapeChar

theorem escape_eq (s : String) : escape s = s.toList.flatMap escapeChar := by
  rw [escape, chars_eq]

def quote (s : String) : List Char := '"' :: (escape s ++ ['"'])

theorem escapeChar_cases (c : Char) :
    (∃ letter, shortEscape c = some letter ∧ escapeChar c = ['\\', letter]) ∨
      (c.toNat < 32 ∧ escapeChar c =
        ['\\', 'u', '0', '0', hexDigit (c.toNat / 16), hexDigit (c.toNat % 16)]) ∨
      (escapeChar c = [c] ∧ c ≠ '\\' ∧ c ≠ '"') := by
  unfold escapeChar
  cases h : shortEscape c with
  | some letter => exact .inl ⟨letter, rfl, rfl⟩
  | none =>
    by_cases hcontrol : c.toNat < 32
    · exact .inr (.inl ⟨hcontrol, if_pos hcontrol⟩)
    · refine .inr (.inr ⟨if_neg hcontrol, ?_, ?_⟩)
      · rintro rfl; cases h
      · rintro rfl; cases h

/-- The character a one-letter escape stands for. -/
def escapedBy (letter : Char) : Char :=
  if letter = 'b' then '\x08'
  else if letter = 'f' then '\x0c'
  else if letter = 'n' then '\n'
  else if letter = 'r' then '\r'
  else if letter = 't' then '\t'
  else letter

theorem escapedBy_of_shortEscape {c letter : Char} (h : shortEscape c = some letter) :
    c = escapedBy letter ∧ letter ≠ 'u' := by
  unfold shortEscape at h
  split_ifs at h with h₁ h₂ h₃ h₄ h₅ h₆ h₇
  all_goals
    cases h
    subst_vars
    decide

theorem shortEscape_injective {c d letter : Char} (hc : shortEscape c = some letter)
    (hd : shortEscape d = some letter) : c = d :=
  (escapedBy_of_shortEscape hc).1.trans (escapedBy_of_shortEscape hd).1.symm

theorem shortEscape_ne_u {c letter : Char} (h : shortEscape c = some letter) : letter ≠ 'u' :=
  (escapedBy_of_shortEscape h).2

theorem spells_escapeChar : Spells escapeChar (fun c => c) (fun _ => True) := by
  intro c d r s _ _ heq
  rcases escapeChar_cases c with ⟨x, hx, hc⟩ | ⟨hlt, hc⟩ | ⟨hc, hne, -⟩
  · rcases escapeChar_cases d with ⟨y, hy, hd⟩ | ⟨-, hd⟩ | ⟨hd, hne', -⟩
    · rw [hc, hd] at heq
      obtain ⟨rfl, hrest⟩ := List.cons.inj (List.cons.inj heq).2
      exact ⟨shortEscape_injective hx hy, hrest⟩
    · rw [hc, hd] at heq
      exact absurd (List.cons.inj (List.cons.inj heq).2).1 (shortEscape_ne_u hx)
    · rw [hc, hd] at heq
      exact absurd (List.cons.inj heq).1.symm hne'
  · rcases escapeChar_cases d with ⟨y, hy, hd⟩ | ⟨hlt', hd⟩ | ⟨hd, hne', -⟩
    · rw [hc, hd] at heq
      exact absurd (List.cons.inj (List.cons.inj heq).2).1.symm (shortEscape_ne_u hy)
    · rw [hc, hd] at heq
      simp only [List.cons_append, List.nil_append, List.cons.injEq, true_and] at heq
      obtain ⟨h₁, h₂, hrest⟩ := heq
      have hhigh := hexDigit_injective (by omega) (by omega) h₁
      have hlow := hexDigit_injective (by omega) (by omega) h₂
      have hcode : c.toNat = d.toNat := by omega
      exact ⟨Char.toNat_inj.mp hcode, hrest⟩
    · rw [hc, hd] at heq
      exact absurd (List.cons.inj heq).1.symm hne'
  · rcases escapeChar_cases d with ⟨y, hy, hd⟩ | ⟨-, hd⟩ | ⟨hd, -, -⟩
    · rw [hc, hd] at heq
      exact absurd (List.cons.inj heq).1 hne
    · rw [hc, hd] at heq
      exact absurd (List.cons.inj heq).1 hne
    · rw [hc, hd] at heq
      exact ⟨(List.cons.inj heq).1, (List.cons.inj heq).2⟩

/-- Symbols written one after the other up to a `stop` that none of them starts with. -/
theorem flatMap_stop_inj {σ τ : Type} {enc : σ → List τ} {stop : τ}
    (h : Spells enc (fun x => x) (fun _ => True))
    (hstop : ∀ x, ∃ y rest, enc x = y :: rest ∧ y ≠ stop) :
    ∀ {xs ys : List σ} {r s : List τ}, xs.flatMap enc ++ stop :: r = ys.flatMap enc ++ stop :: s →
      xs = ys ∧ r = s := by
  intro xs
  induction xs with
  | nil =>
    intro ys r s heq
    cases ys with
    | nil => exact ⟨rfl, (List.cons.inj heq).2⟩
    | cons y ys =>
      obtain ⟨z, rest, henc, hne⟩ := hstop y
      rw [List.flatMap_cons, henc] at heq
      exact absurd (List.cons.inj heq).1.symm hne
  | cons x xs ih =>
    intro ys r s heq
    cases ys with
    | nil =>
      obtain ⟨z, rest, henc, hne⟩ := hstop x
      rw [List.flatMap_cons, henc] at heq
      exact absurd (List.cons.inj heq).1 hne
    | cons y ys =>
      simp only [List.flatMap_cons, List.append_assoc] at heq
      obtain ⟨rfl, htail⟩ := h x y _ _ trivial trivial heq
      obtain ⟨rfl, hrest⟩ := ih htail
      exact ⟨rfl, hrest⟩

theorem escapeChar_head (c : Char) : ∃ d rest, escapeChar c = d :: rest ∧ d ≠ '"' := by
  rcases escapeChar_cases c with ⟨x, -, hc⟩ | ⟨-, hc⟩ | ⟨hc, -, hne⟩
  · exact ⟨_, _, hc, by decide⟩
  · exact ⟨_, _, hc, by decide⟩
  · exact ⟨_, _, hc, hne⟩

theorem spells_quote : Spells quote (fun s => s) (fun _ => True) := by
  intro x y r s _ _ heq
  simp only [quote, escape_eq, List.cons_append, List.append_assoc, List.nil_append,
    List.cons.injEq, true_and] at heq
  obtain ⟨hchars, hrest⟩ := flatMap_stop_inj spells_escapeChar escapeChar_head heq
  exact ⟨String.toList_inj.mp hchars, hrest⟩

/-! ## Values -/

/-- A character that may follow a value. -/
def isEnd (c : Char) : Prop := c = ',' ∨ c = ']' ∨ c = '}'

/-- The text of a value ends before the punctuation that follows it. -/
def Delimited {α : Type} (write : α → List Char) : Prop :=
  ∀ a b c d r s, isEnd c → isEnd d → write a ++ c :: r = write b ++ d :: s →
    a = b ∧ c :: r = d :: s

/-- No value starts with punctuation that ends one. -/
def Starts {α : Type} (write : α → List Char) : Prop :=
  ∀ a, ∃ c rest, write a = c :: rest ∧ ¬ isEnd c

def items {α : Type} (write : α → List Char) : List α → List Char
  | [] => []
  | a :: rest => write a ++ rest.flatMap fun b => ',' :: write b

def array {α : Type} (write : α → List Char) (values : List α) : List Char :=
  '[' :: (items write values ++ [']'])

def member {α : Type} (write : α → List Char) (entry : String × α) : List Char :=
  quote entry.1 ++ ':' :: write entry.2

def object {α : Type} (write : α → List Char) (members : List (String × α)) : List Char :=
  '\x7b' :: (items (member write) members ++ ['\x7d'])

section Delimited

variable {α : Type} {write : α → List Char}

theorem tail_head (write : α → List Char) {stop : Char} (hstop : isEnd stop) (rest : List α)
    (r : List Char) :
    ∃ c s, isEnd c ∧ (rest.flatMap fun b => ',' :: write b) ++ stop :: r = c :: s := by
  cases rest with
  | nil => exact ⟨stop, r, hstop, rfl⟩
  | cons b rest => exact ⟨',', _, .inl rfl, rfl⟩

theorem tail_inj (h : Delimited write) {stop : Char} (hstop : isEnd stop) (hcomma : stop ≠ ',') :
    ∀ {xs ys : List α} {r s : List Char},
      (xs.flatMap fun b => ',' :: write b) ++ stop :: r =
        (ys.flatMap fun b => ',' :: write b) ++ stop :: s → xs = ys ∧ r = s := by
  intro xs
  induction xs with
  | nil =>
    intro ys r s heq
    cases ys with
    | nil => exact ⟨rfl, (List.cons.inj heq).2⟩
    | cons y ys => exact absurd (List.cons.inj heq).1 hcomma
  | cons x xs ih =>
    intro ys r s heq
    cases ys with
    | nil => exact absurd (List.cons.inj heq).1.symm hcomma
    | cons y ys =>
      simp only [List.flatMap_cons, List.cons_append, List.append_assoc, List.cons.injEq,
        true_and] at heq
      obtain ⟨c, u, hc, hu⟩ := tail_head write hstop xs r
      obtain ⟨d, v, hd, hv⟩ := tail_head write hstop ys s
      rw [hu, hv] at heq
      obtain ⟨rfl, hrest⟩ := h x y c d u v hc hd heq
      rw [← hu, ← hv] at hrest
      obtain ⟨rfl, hend⟩ := ih hrest
      exact ⟨rfl, hend⟩

theorem items_inj (h : Delimited write) (hstart : Starts write) {stop : Char}
    (hstop : isEnd stop) (hcomma : stop ≠ ',') {xs ys : List α} {r s : List Char}
    (heq : items write xs ++ stop :: r = items write ys ++ stop :: s) : xs = ys ∧ r = s := by
  cases xs with
  | nil =>
    cases ys with
    | nil => exact ⟨rfl, (List.cons.inj heq).2⟩
    | cons y ys =>
      obtain ⟨c, rest, hy, hne⟩ := hstart y
      simp only [items, hy, List.cons_append, List.nil_append] at heq
      exact absurd ((List.cons.inj heq).1 ▸ hstop) hne
  | cons x xs =>
    cases ys with
    | nil =>
      obtain ⟨c, rest, hx, hne⟩ := hstart x
      simp only [items, hx, List.cons_append, List.nil_append] at heq
      exact absurd ((List.cons.inj heq).1 ▸ hstop) hne
    | cons y ys =>
      simp only [items, List.append_assoc] at heq
      obtain ⟨c, u, hc, hu⟩ := tail_head write hstop xs r
      obtain ⟨d, v, hd, hv⟩ := tail_head write hstop ys s
      rw [hu, hv] at heq
      obtain ⟨rfl, hrest⟩ := h x y c d u v hc hd heq
      rw [← hu, ← hv] at hrest
      obtain ⟨rfl, hend⟩ := tail_inj h hstop hcomma hrest
      exact ⟨rfl, hend⟩

theorem delimited_array (h : Delimited write) (hstart : Starts write) :
    Delimited (array write) := by
  intro xs ys c d r s _ _ heq
  simp only [array, List.cons_append, List.append_assoc, List.nil_append, List.cons.injEq,
    true_and] at heq
  exact items_inj h hstart (.inr (.inl rfl)) (by decide) heq

theorem delimited_member (h : Delimited write) : Delimited (member write) := by
  intro x y c d r s hc hd heq
  simp only [member, List.append_assoc, List.cons_append] at heq
  obtain ⟨hname, heq⟩ := spells_quote x.1 y.1 _ _ trivial trivial heq
  obtain ⟨hvalue, hrest⟩ := h x.2 y.2 c d r s hc hd (List.cons.inj heq).2
  exact ⟨Prod.ext hname hvalue, hrest⟩

theorem starts_member : Starts (member write) := by
  intro x
  exact ⟨'"', _, rfl, by simp [isEnd]⟩

theorem delimited_object (h : Delimited write) : Delimited (object write) := by
  intro xs ys c d r s _ _ heq
  simp only [object, List.cons_append, List.append_assoc, List.nil_append, List.cons.injEq,
    true_and] at heq
  exact items_inj (delimited_member h) starts_member (.inr (.inr rfl)) (by decide) heq

theorem object_injective (h : Delimited write) : Function.Injective (object write) := by
  intro xs ys heq
  exact (delimited_object h xs ys ',' ',' [] [] (.inl rfl) (.inl rfl) (by rw [heq])).1

end Delimited

inductive Scalar where
  | null
  | number (n : ℕ)
  | text (s : String)
  deriving DecidableEq

def Scalar.write : Scalar → List Char
  | .null => ['n', 'u', 'l', 'l']
  | .number n => Nat.toDigits 10 n
  | .text s => quote s

/-- An optional text, absent as `null`. -/
def Scalar.ofOption : Option String → Scalar
  | none => .null
  | some s => .text s

inductive Value where
  | scalar (s : Scalar)
  | texts (items : List String)
  | record (members : List (String × Scalar))
  deriving DecidableEq

def Value.write : Value → List Char
  | .scalar s => s.write
  | .texts items => array quote items
  | .record members => object Scalar.write members

theorem scalar_ofOption_injective : Function.Injective Scalar.ofOption := by
  intro a b h
  cases a <;> cases b <;> first | rfl | cases h
  rfl

theorem digits_cons (n : ℕ) : ∃ c rest, Nat.toDigits 10 n = c :: rest ∧ c.isDigit := by
  cases h : Nat.toDigits 10 n with
  | nil => exact absurd h Nat.toDigits_ne_nil
  | cons c rest =>
    exact ⟨c, rest, rfl,
      Nat.isDigit_of_mem_toDigits (by decide) (by decide) (h ▸ List.mem_cons_self)⟩

theorem not_isDigit_of_isEnd {c : Char} (h : isEnd c) : ¬ c.isDigit := by
  rcases h with rfl | rfl | rfl <;> decide

theorem digits_inj {m n : ℕ} {c d : Char} {r s : List Char} (hc : isEnd c) (hd : isEnd d)
    (h : Nat.toDigits 10 m ++ c :: r = Nat.toDigits 10 n ++ d :: s) :
    m = n ∧ c :: r = d :: s := by
  have hdigit (k : ℕ) : ∀ x ∈ Nat.toDigits 10 k, x.isDigit := fun x hx =>
    Nat.isDigit_of_mem_toDigits (by decide) (by decide) hx
  obtain ⟨hdigits, hrest⟩ := append_stop_inj (hdigit m) (hdigit n) (not_isDigit_of_isEnd hc)
    (not_isDigit_of_isEnd hd) h
  rw [← Nat.ofDigitChars_ten_toDigits (n := m), hdigits, Nat.ofDigitChars_ten_toDigits]
  exact ⟨rfl, hrest⟩

theorem delimited_quote : Delimited quote := by
  intro x y c d r s _ _ heq
  exact spells_quote x y _ _ trivial trivial heq

theorem starts_quote : Starts quote := by
  intro s
  exact ⟨'"', _, rfl, by simp [isEnd]⟩

theorem scalar_head (v : Scalar) : ∃ c rest, v.write = c :: rest ∧
    match v with
    | .null => c = 'n'
    | .number _ => c.isDigit
    | .text _ => c = '"' := by
  cases v with
  | null => exact ⟨_, _, rfl, rfl⟩
  | number n => exact digits_cons n
  | text s => exact ⟨_, _, rfl, rfl⟩

theorem delimited_scalar : Delimited Scalar.write := by
  intro v w c d r s hc hd heq
  obtain ⟨x, xs, hv, hx⟩ := scalar_head v
  obtain ⟨y, ys, hw, hy⟩ := scalar_head w
  have hhead : x = y := by
    rw [hv, hw] at heq
    exact (List.cons.inj heq).1
  subst hhead
  cases v with
  | null =>
    subst hx
    cases w with
    | null => exact ⟨rfl, List.append_cancel_left heq⟩
    | number n => exact absurd hy (show ¬ 'n'.isDigit by decide)
    | text t => exact absurd hy (show ¬ 'n' = '"' by decide)
  | number m =>
    cases w with
    | null => subst hy; exact absurd hx (show ¬ 'n'.isDigit by decide)
    | number n =>
      obtain ⟨rfl, hrest⟩ := digits_inj hc hd heq
      exact ⟨rfl, hrest⟩
    | text t => subst hy; exact absurd hx (show ¬ '"'.isDigit by decide)
  | text t =>
    subst hx
    cases w with
    | null => exact absurd hy (show ¬ '"' = 'n' by decide)
    | number n => exact absurd hy (show ¬ '"'.isDigit by decide)
    | text u =>
      obtain ⟨rfl, hrest⟩ := delimited_quote t u c d r s hc hd heq
      exact ⟨rfl, hrest⟩

theorem scalar_head_plain (v : Scalar) :
    ∃ c rest, v.write = c :: rest ∧ c ≠ '[' ∧ c ≠ '\x7b' := by
  obtain ⟨c, rest, hv, hc⟩ := scalar_head v
  refine ⟨c, rest, hv, ?_⟩
  cases v with
  | null => subst hc; decide
  | number n =>
    constructor
    · rintro rfl; exact absurd hc (show ¬ '['.isDigit by decide)
    · rintro rfl; exact absurd hc (show ¬ '\x7b'.isDigit by decide)
  | text t => subst hc; decide

theorem delimited_value : Delimited Value.write := by
  intro v w c d r s hc hd heq
  cases v with
  | scalar a =>
    obtain ⟨x, xs, ha, hne, hne'⟩ := scalar_head_plain a
    cases w with
    | scalar b =>
      obtain ⟨rfl, hrest⟩ := delimited_scalar a b c d r s hc hd heq
      exact ⟨rfl, hrest⟩
    | texts items =>
      simp only [Value.write, ha] at heq
      exact absurd (List.cons.inj heq).1 hne
    | record members =>
      simp only [Value.write, ha] at heq
      exact absurd (List.cons.inj heq).1 hne'
  | texts items =>
    cases w with
    | scalar b =>
      obtain ⟨x, xs, hb, hne, -⟩ := scalar_head_plain b
      simp only [Value.write, hb] at heq
      exact absurd (List.cons.inj heq).1.symm hne
    | texts items' =>
      obtain ⟨rfl, hrest⟩ := delimited_array delimited_quote starts_quote items items' c d r s hc
        hd heq
      exact ⟨rfl, hrest⟩
    | record members => exact absurd (List.cons.inj heq).1 (by decide)
  | record members =>
    cases w with
    | scalar b =>
      obtain ⟨x, xs, hb, -, hne⟩ := scalar_head_plain b
      simp only [Value.write, hb] at heq
      exact absurd (List.cons.inj heq).1.symm hne
    | texts items => exact absurd (List.cons.inj heq).1 (by decide)
    | record members' =>
      obtain ⟨rfl, hrest⟩ := delimited_object delimited_scalar members members' c d r s hc hd heq
      exact ⟨rfl, hrest⟩

/-! ## Words in a text -/

section Words

variable {τ : Type} {word a b : List τ}

/-- A word does not reach across a symbol it does not contain. -/
theorem infix_append_cons_iff {q : τ} (hq : q ∉ word) :
    word <:+: a ++ q :: b ↔ word <:+: a ∨ word <:+: b := by
  constructor
  · rintro ⟨front, back, h⟩
    rcases List.append_eq_append_iff.mp h with ⟨c, ha, -⟩ | ⟨c, hword, hback⟩
    · exact .inl ⟨front, c, ha.symm⟩
    cases c with
    | nil =>
      rw [List.append_nil] at hword
      exact .inl ⟨front, [], by rw [List.append_nil, hword]⟩
    | cons x c =>
      obtain ⟨rfl, hb⟩ := List.cons.inj hback
      -- `q` lies behind the start of the word, hence before all of it
      rcases List.append_eq_append_iff.mp hword with ⟨d, -, hd⟩ | ⟨d, -, hd⟩
      · exact absurd (hd ▸ List.mem_append_right d List.mem_cons_self) hq
      cases d with
      | nil =>
        rw [List.nil_append] at hd
        exact absurd (hd ▸ List.mem_cons_self) hq
      | cons y d =>
        obtain ⟨-, hc⟩ := List.cons.inj hd
        exact .inr ⟨d, back, by rw [hb, hc]; rfl⟩
  · rintro (h | h)
    · exact h.trans (List.prefix_append _ _).isInfix
    · exact h.trans ((List.suffix_cons _ _).trans (List.suffix_append _ _)).isInfix

theorem infix_cons_iff {q : τ} (hq : q ∉ word) (hne : word ≠ []) :
    word <:+: q :: b ↔ word <:+: b := by
  rw [← List.nil_append (q :: b), infix_append_cons_iff hq, List.infix_nil]
  exact or_iff_right hne

theorem infix_append_singleton_iff {q : τ} (hq : q ∉ word) (hne : word ≠ []) :
    word <:+: a ++ [q] ↔ word <:+: a := by
  rw [infix_append_cons_iff hq, List.infix_nil]
  exact or_iff_left hne

end Words

/-- A word of letters and underscores. -/
structure PlainWord (word : List Char) : Prop where
  nonempty : word ≠ []
  letters : ∀ c ∈ word, c.isAlpha ∨ c = '_'

namespace PlainWord

variable {word : List Char} (hword : PlainWord word)

include hword

theorem notMem {c : Char} (halpha : c.isAlpha = false) (hunderscore : c ≠ '_') : c ∉ word := by
  intro hc
  rcases hword.letters c hc with h | h
  · rw [halpha] at h; cases h
  · exact hunderscore h

theorem infix_quote_iff (s : String) : word <:+: quote s ↔ word <:+: escape s := by
  have hq : '"' ∉ word := hword.notMem (by decide) (by decide)
  rw [quote, infix_cons_iff hq hword.nonempty, infix_append_singleton_iff hq hword.nonempty]

theorem infix_items_iff {α : Type} (write : α → List Char) (values : List α) :
    word <:+: items write values ↔ ∃ a ∈ values, word <:+: write a := by
  have hcomma : ',' ∉ word := hword.notMem (by decide) (by decide)
  have htail (front : List Char) (rest : List α) :
      word <:+: front ++ (rest.flatMap fun b => ',' :: write b) ↔
        word <:+: front ∨ ∃ a ∈ rest, word <:+: write a := by
    induction rest generalizing front with
    | nil => simp
    | cons b rest ih =>
      rw [List.flatMap_cons, List.cons_append, infix_append_cons_iff hcomma, ih]
      simp
  cases values with
  | nil =>
    rw [items, List.infix_nil]
    simp [hword.nonempty]
  | cons a rest =>
    rw [items, htail]
    simp

theorem infix_array_iff {α : Type} (write : α → List Char) (values : List α) :
    word <:+: array write values ↔ ∃ a ∈ values, word <:+: write a := by
  rw [array, infix_cons_iff (hword.notMem (by decide) (by decide)) hword.nonempty,
    infix_append_singleton_iff (hword.notMem (by decide) (by decide)) hword.nonempty,
    hword.infix_items_iff]

theorem infix_object_iff {α : Type} (write : α → List Char) (members : List (String × α)) :
    word <:+: object write members ↔
      ∃ m ∈ members, word <:+: escape m.1 ∨ word <:+: write m.2 := by
  rw [object, infix_cons_iff (hword.notMem (by decide) (by decide)) hword.nonempty,
    infix_append_singleton_iff (hword.notMem (by decide) (by decide)) hword.nonempty,
    hword.infix_items_iff]
  simp only [member, infix_append_cons_iff (hword.notMem (c := ':') (by decide) (by decide)),
    hword.infix_quote_iff]

omit hword in
theorem not_isAlpha_of_isDigit {c : Char} (h : c.isDigit) : ¬ c.isAlpha := by
  have halpha : c.isAlpha = (decide ('A'.val ≤ c.val ∧ c.val ≤ 'Z'.val) ||
      (decide ('a'.val ≤ c.val) && decide (c.val ≤ 'z'.val))) := rfl
  simp only [halpha, Char.isDigit, Bool.and_eq_true, Bool.or_eq_true, decide_eq_true_eq, ge_iff_le,
    UInt32.le_iff_toNat_le] at h ⊢
  have h₉ : '9'.val.toNat = 57 := rfl
  have hA : 'A'.val.toNat = 65 := rfl
  have ha : 'a'.val.toNat = 97 := rfl
  omega

theorem not_infix_digits (n : ℕ) : ¬ word <:+: Nat.toDigits 10 n := by
  intro h
  obtain ⟨c, rest, hcons⟩ := List.exists_cons_of_ne_nil hword.nonempty
  have hc : c ∈ word := hcons ▸ List.mem_cons_self
  have hdigit := Nat.isDigit_of_mem_toDigits (by decide) (by decide) (h.subset hc)
  rcases hword.letters c hc with halpha | rfl
  · exact not_isAlpha_of_isDigit hdigit halpha
  · exact absurd hdigit (by decide)

end PlainWord

def Scalar.strings : Scalar → List String
  | .text s => [s]
  | _ => []

@[simp] theorem strings_text (s : String) : (Scalar.text s).strings = [s] := rfl

@[simp] theorem strings_number (n : ℕ) : (Scalar.number n).strings = [] := rfl

@[simp] theorem strings_ofOption (o : Option String) :
    (Scalar.ofOption o).strings = o.toList := by
  cases o <;> rfl

def Value.strings : Value → List String
  | .scalar s => s.strings
  | .texts items => items
  | .record members => members.flatMap fun m => m.1 :: m.2.strings

theorem PlainWord.infix_scalar_iff {word : List Char} (hword : PlainWord word)
    (hnull : ¬ word <:+: ['n', 'u', 'l', 'l']) (v : Scalar) :
    word <:+: v.write ↔ ∃ s ∈ v.strings, word <:+: escape s := by
  cases v with
  | null => simpa [Scalar.write, Scalar.strings] using hnull
  | number n => simpa [Scalar.write, Scalar.strings] using hword.not_infix_digits n
  | text s => simp [Scalar.write, Scalar.strings, hword.infix_quote_iff]

/-- A plain word occurs in the text of a value only within a name or a text of it. -/
theorem PlainWord.infix_value_iff {word : List Char} (hword : PlainWord word)
    (hnull : ¬ word <:+: ['n', 'u', 'l', 'l']) (v : Value) :
    word <:+: v.write ↔ ∃ s ∈ v.strings, word <:+: escape s := by
  cases v with
  | scalar s => exact hword.infix_scalar_iff hnull s
  | texts items => simp [Value.write, Value.strings, hword.infix_array_iff, hword.infix_quote_iff]
  | record members =>
    simp only [Value.write, Value.strings, hword.infix_object_iff, hword.infix_scalar_iff hnull,
      List.mem_flatMap, List.mem_cons]
    constructor
    · rintro ⟨m, hm, h | ⟨s, hs, h⟩⟩
      · exact ⟨m.1, ⟨m, hm, .inl rfl⟩, h⟩
      · exact ⟨s, ⟨m, hm, .inr hs⟩, h⟩
    · rintro ⟨s, ⟨m, hm, rfl | hs⟩, h⟩
      · exact ⟨m, hm, .inl h⟩
      · exact ⟨m, hm, .inr ⟨s, hs, h⟩⟩

/-- Letters that stand for themselves at the front of an escaped text are at the front of it. -/
theorem prefix_escape_iff {word : List Char} (hword : ∀ c ∈ word, escapeChar c = [c])
    (cs : List Char) : word <+: cs.flatMap escapeChar ↔ word <+: cs := by
  induction word generalizing cs with
  | nil => simp
  | cons x word ih =>
    have hx := hword x List.mem_cons_self
    have htail : ∀ c ∈ word, escapeChar c = [c] := fun c hc => hword c (List.mem_cons_of_mem _ hc)
    have hbackslash : x ≠ '\\' := by rintro rfl; exact absurd hx (by decide)
    cases cs with
    | nil => simp
    | cons c cs =>
      rw [List.flatMap_cons]
      rcases escapeChar_cases c with ⟨y, -, hc⟩ | ⟨-, hc⟩ | ⟨hc, -, -⟩
      · have hne : x ≠ c := by rintro rfl; rw [hc] at hx; cases hx
        rw [hc, List.cons_append, List.cons_prefix_cons, List.cons_prefix_cons]
        exact iff_of_false (fun h => hbackslash h.1) fun h => hne h.1
      · have hne : x ≠ c := by rintro rfl; rw [hc] at hx; cases hx
        rw [hc, List.cons_append, List.cons_prefix_cons, List.cons_prefix_cons]
        exact iff_of_false (fun h => hbackslash h.1) fun h => hne h.1
      · rw [hc, List.singleton_append, List.cons_prefix_cons, List.cons_prefix_cons, ih htail]

theorem hexDigit_ne_r {n : ℕ} (h : n < 16) : 'r' ≠ hexDigit n := by
  have hall : ∀ i : Fin 16, 'r' ≠ hexDigit i := by decide
  exact hall ⟨n, h⟩

/-- A word that starts with `r` occurs in an escaped text where it occurs in the text, and also
where the text has a carriage return in place of the `r`: its escape ends with that letter. -/
theorem infix_escape_iff {word : List Char} (hword : ∀ c ∈ word, escapeChar c = [c])
    (cs : List Char) : 'r' :: word <:+: cs.flatMap escapeChar ↔
      'r' :: word <:+: cs ∨ '\r' :: word <:+: cs := by
  induction cs with
  | nil => simp
  | cons c cs ih =>
    have hr : escapeChar 'r' = ['r'] := by decide
    have hcr : escapeChar '\r' = ['\\', 'r'] := by decide
    rw [List.flatMap_cons, List.infix_cons_iff, List.infix_cons_iff]
    simp only [List.cons_prefix_cons]
    rcases escapeChar_cases c with ⟨y, hy, hc⟩ | ⟨hlt, hc⟩ | ⟨hc, -, -⟩
    · have hne : 'r' ≠ c := by rintro rfl; rw [hc] at hr; cases hr
      have hiff : 'r' = y ↔ '\r' = c := by
        constructor
        · rintro rfl
          exact (escapedBy_of_shortEscape hy).1.symm
        · rintro rfl
          rw [hc] at hcr
          exact (List.cons.inj (List.cons.inj hcr).2).1.symm
      rw [hc, List.cons_append, List.singleton_append, List.infix_cons_iff, List.infix_cons_iff]
      simp only [List.cons_prefix_cons, prefix_escape_iff hword, ih, hiff]
      grind
    · have hne : 'r' ≠ c := by rintro rfl; rw [hc] at hr; cases hr
      have hne' : '\r' ≠ c := by rintro rfl; rw [hc] at hcr; cases hcr
      have hhigh := hexDigit_ne_r (n := c.toNat / 16) (by omega)
      have hlow := hexDigit_ne_r (n := c.toNat % 16) (by omega)
      rw [hc]
      simp only [List.cons_append, List.nil_append, List.infix_cons_iff, List.cons_prefix_cons, ih]
      grind
    · have hne' : '\r' ≠ c := by rintro rfl; rw [hc] at hcr; cases hcr
      rw [hc, List.singleton_append, List.infix_cons_iff, List.cons_prefix_cons,
        prefix_escape_iff hword, ih]
      grind

end JsonText
