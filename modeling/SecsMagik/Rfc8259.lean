import SecsMagik.RustStd

/-! # JSON texts

The grammar of RFC 8259 over the bytes of a text. Outside its strings a text is ASCII. Inside them
every byte above 0x7F may stand; which runs of such bytes are characters is what UTF-8 asks of the
whole text.
-/
namespace Rfc8259

open RustStd (isAsciiDigit)

/-! ## Tokens -/

def isWs (b : UInt8) : Bool := b = 0x20 || b = 0x09 || b = 0x0A || b = 0x0D

/-- `ws` -/
def Blank (l : List UInt8) : Prop := ∀ b ∈ l, isWs b

inductive Literal where
  | true | false | null
  deriving DecidableEq, Repr

def Literal.bytes : Literal → List UInt8
  | .true => [0x74, 0x72, 0x75, 0x65]
  | .false => [0x66, 0x61, 0x6C, 0x73, 0x65]
  | .null => [0x6E, 0x75, 0x6C, 0x6C]

def isHexDigit (b : UInt8) : Bool :=
  isAsciiDigit b || (0x41 ≤ b && b ≤ 0x46) || (0x61 ≤ b && b ≤ 0x66)

/-- `*char` -/
inductive Chars : List UInt8 → Prop where
  | nil : Chars []
  | unescaped {b : UInt8} {l : List UInt8} (hcontrol : 0x20 ≤ b) (hquote : b ≠ 0x22)
      (hescape : b ≠ 0x5C) (h : Chars l) : Chars (b :: l)
  | escaped {b : UInt8} {l : List UInt8}
      (hb : b ∈ [0x22, 0x5C, 0x2F, 0x62, 0x66, 0x6E, 0x72, 0x74]) (h : Chars l) :
      Chars (0x5C :: b :: l)
  | unicode {digits l : List UInt8} (hlength : digits.length = 4)
      (hdigits : ∀ b ∈ digits, isHexDigit b) (h : Chars l) : Chars (0x5C :: 0x75 :: digits ++ l)

/-- `string` -/
structure StringToken where
  chars : List UInt8
  wellFormed : Chars chars

def StringToken.bytes (s : StringToken) : List UInt8 := 0x22 :: s.chars ++ [0x22]

/-- `1*DIGIT` -/
def Digits (l : List UInt8) : Prop := l ≠ [] ∧ ∀ b ∈ l, isAsciiDigit b

/-- `int` -/
inductive IsInt : List UInt8 → Prop where
  | zero : IsInt [0x30]
  | nonzero {b : UInt8} {l : List UInt8} (hlow : 0x31 ≤ b) (hhigh : b ≤ 0x39)
      (h : ∀ b ∈ l, isAsciiDigit b) : IsInt (b :: l)

/-- `[ frac ]` -/
inductive IsFraction : List UInt8 → Prop where
  | absent : IsFraction []
  | present {l : List UInt8} (h : Digits l) : IsFraction (0x2E :: l)

/-- `[ exp ]` -/
inductive IsExponent : List UInt8 → Prop where
  | absent : IsExponent []
  | present {e : UInt8} {sign l : List UInt8} (he : e = 0x65 ∨ e = 0x45)
      (hsign : sign = [] ∨ sign = [0x2B] ∨ sign = [0x2D]) (h : Digits l) :
      IsExponent (e :: (sign ++ l))

/-- `number` -/
structure Number where
  minus : List UInt8
  int : List UInt8
  fraction : List UInt8
  exponent : List UInt8
  isMinus : minus = [] ∨ minus = [0x2D]
  isInt : IsInt int
  isFraction : IsFraction fraction
  isExponent : IsExponent exponent

namespace Number

def bytes (n : Number) : List UInt8 := n.minus ++ n.int ++ n.fraction ++ n.exponent

def IsDecimal (n : Number) : Prop := n.fraction ≠ [] ∨ n.exponent ≠ []

instance (n : Number) : Decidable n.IsDecimal := inferInstanceAs (Decidable (_ ∨ _))

end Number

/-! ## Values -/

inductive Tree where
  | literal (w : Literal)
  | string (s : StringToken)
  | number (n : Number)
  | array (items : List Tree)
  | object (members : List (StringToken × Tree))

mutual

/-- `value`, without white space around it -/
inductive Spells : Tree → List UInt8 → Prop where
  | literal (w : Literal) : Spells (.literal w) w.bytes
  | string (s : StringToken) : Spells (.string s) s.bytes
  | number (n : Number) : Spells (.number n) n.bytes
  | emptyArray {w : List UInt8} (hw : Blank w) : Spells (.array []) (0x5B :: (w ++ [0x5D]))
  | array {items : List Tree} {l : List UInt8} (h : SpellsItems items l) :
      Spells (.array items) (0x5B :: (l ++ [0x5D]))
  | emptyObject {w : List UInt8} (hw : Blank w) : Spells (.object []) (0x7B :: (w ++ [0x7D]))
  | object {members : List (StringToken × Tree)} {l : List UInt8} (h : SpellsMembers members l) :
      Spells (.object members) (0x7B :: (l ++ [0x7D]))

/-- One value or more, each with white space around it, and commas between them. -/
inductive SpellsItems : List Tree → List UInt8 → Prop where
  | last {t : Tree} {w v w' : List UInt8} (hw : Blank w) (h : Spells t v) (hw' : Blank w') :
      SpellsItems [t] (w ++ (v ++ w'))
  | more {t : Tree} {items : List Tree} {w v w' l : List UInt8} (hw : Blank w) (h : Spells t v)
      (hw' : Blank w') (hitems : SpellsItems items l) :
      SpellsItems (t :: items) (w ++ (v ++ (w' ++ 0x2C :: l)))

/-- One member or more, and commas between them. -/
inductive SpellsMembers : List (StringToken × Tree) → List UInt8 → Prop where
  | last {s : StringToken} {t : Tree} {w w₁ w₂ v w' : List UInt8} (hw : Blank w) (hw₁ : Blank w₁)
      (hw₂ : Blank w₂) (h : Spells t v) (hw' : Blank w') :
      SpellsMembers [(s, t)] (w ++ (s.bytes ++ (w₁ ++ 0x3A :: (w₂ ++ (v ++ w')))))
  | more {s : StringToken} {t : Tree} {members : List (StringToken × Tree)}
      {w w₁ w₂ v w' l : List UInt8} (hw : Blank w) (hw₁ : Blank w₁) (hw₂ : Blank w₂)
      (h : Spells t v) (hw' : Blank w') (hmembers : SpellsMembers members l) :
      SpellsMembers ((s, t) :: members)
        (w ++ (s.bytes ++ (w₁ ++ 0x3A :: (w₂ ++ (v ++ (w' ++ 0x2C :: l))))))

end

/-- `JSON-text` -/
def IsText (t : Tree) (b : List UInt8) : Prop :=
  ∃ w v w', b = w ++ (v ++ w') ∧ Blank w ∧ Spells t v ∧ Blank w'

/-- `P` holds of the tree, which lies within `depth` arrays and objects, and of all trees in it. -/
inductive Everywhere (P : ℕ → Tree → Prop) : ℕ → Tree → Prop where
  | literal {depth : ℕ} {w : Literal} (h : P depth (.literal w)) : Everywhere P depth (.literal w)
  | string {depth : ℕ} {s : StringToken} (h : P depth (.string s)) :
      Everywhere P depth (.string s)
  | number {depth : ℕ} {n : Number} (h : P depth (.number n)) : Everywhere P depth (.number n)
  | array {depth : ℕ} {items : List Tree} (h : P depth (.array items))
      (hitems : ∀ t ∈ items, Everywhere P (depth + 1) t) : Everywhere P depth (.array items)
  | object {depth : ℕ} {members : List (StringToken × Tree)} (h : P depth (.object members))
      (hmembers : ∀ m ∈ members, Everywhere P (depth + 1) m.2) :
      Everywhere P depth (.object members)

theorem Blank.append {w w' : List UInt8} (hw : Blank w) (hw' : Blank w') : Blank (w ++ w') := by
  intro c hc
  rcases List.mem_append.mp hc with hc | hc
  · exact hw c hc
  · exact hw' c hc

theorem SpellsItems.blank_append {items : List Tree} {w l : List UInt8} (hw : Blank w)
    (h : SpellsItems items l) : SpellsItems items (w ++ l) := by
  cases h with
  | last hw₀ hv hw' =>
    rw [← List.append_assoc]
    exact .last (hw.append hw₀) hv hw'
  | more hw₀ hv hw' hitems =>
    rw [← List.append_assoc]
    exact .more (hw.append hw₀) hv hw' hitems

theorem SpellsMembers.blank_append {members : List (StringToken × Tree)} {w l : List UInt8}
    (hw : Blank w) (h : SpellsMembers members l) : SpellsMembers members (w ++ l) := by
  cases h with
  | last hw₀ hw₁ hw₂ hv hw' =>
    rw [← List.append_assoc]
    exact .last (hw.append hw₀) hw₁ hw₂ hv hw'
  | more hw₀ hw₁ hw₂ hv hw' hmembers =>
    rw [← List.append_assoc]
    exact .more (hw.append hw₀) hw₁ hw₂ hv hw' hmembers

theorem Everywhere.root {P : ℕ → Tree → Prop} {depth : ℕ} {t : Tree} (h : Everywhere P depth t) :
    P depth t := by
  cases h <;> assumption

/-! ## First bytes -/

theorem Literal.exists_first (w : Literal) :
    ∃ c l, w.bytes = c :: l ∧ (c = 0x74 ∨ c = 0x66 ∨ c = 0x6E) := by
  cases w with
  | true => exact ⟨_, _, rfl, .inl rfl⟩
  | false => exact ⟨_, _, rfl, .inr (.inl rfl)⟩
  | null => exact ⟨_, _, rfl, .inr (.inr rfl)⟩

theorem IsInt.exists_first {v : List UInt8} (h : IsInt v) : ∃ c l, v = c :: l ∧ isAsciiDigit c := by
  cases h with
  | zero => exact ⟨_, _, rfl, by decide⟩
  | @nonzero c l hlow hhigh _ =>
    refine ⟨c, l, rfl, ?_⟩
    rw [UInt8.le_iff_toNat_le] at hlow hhigh
    simp only [isAsciiDigit, Bool.and_eq_true, decide_eq_true_eq, UInt8.le_iff_toNat_le]
    exact ⟨Nat.le_trans (by decide) hlow, hhigh⟩

theorem Number.exists_first (n : Number) : ∃ c l, n.bytes = c :: l ∧
    (c = 0x2D ∧ n.minus = [0x2D] ∨ isAsciiDigit c ∧ n.minus = []) := by
  rcases n.isMinus with hminus | hminus
  · obtain ⟨c, l, hint, hc⟩ := n.isInt.exists_first
    exact ⟨c, l ++ n.fraction ++ n.exponent, by simp [bytes, hminus, hint], .inr ⟨hc, hminus⟩⟩
  · exact ⟨0x2D, n.int ++ n.fraction ++ n.exponent, by simp [bytes, hminus], .inl ⟨rfl, hminus⟩⟩

/-- The bytes that a value may start with. -/
def startsValue (c : UInt8) : Bool :=
  c = 0x22 || c = 0x7B || c = 0x5B || c = 0x74 || c = 0x66 || c = 0x6E || c = 0x2D || isAsciiDigit c

theorem startsValue_not {c d : UInt8} (h : startsValue c)
    (hd : d ∈ [0x20, 0x09, 0x0A, 0x0D, 0x2C, 0x5D, 0x7D]) : c ≠ d := by
  intro heq
  subst heq
  simp only [List.mem_cons, List.not_mem_nil, or_false] at hd
  rcases hd with rfl | rfl | rfl | rfl | rfl | rfl | rfl <;> exact absurd h (by decide)

theorem Spells.exists_first {t : Tree} {v : List UInt8} (h : Spells t v) :
    ∃ c l, v = c :: l ∧ startsValue c := by
  cases h with
  | literal w =>
    obtain ⟨c, l, hw, hc⟩ := w.exists_first
    refine ⟨c, l, hw, ?_⟩
    rcases hc with rfl | rfl | rfl <;> decide
  | string s => exact ⟨_, _, rfl, by decide⟩
  | number n =>
    obtain ⟨c, l, hn, hc⟩ := n.exists_first
    refine ⟨c, l, hn, ?_⟩
    rcases hc with ⟨rfl, -⟩ | ⟨hc, -⟩
    · decide
    · simp [startsValue, hc]
  | emptyArray => exact ⟨_, _, rfl, by decide⟩
  | array => exact ⟨_, _, rfl, by decide⟩
  | emptyObject => exact ⟨_, _, rfl, by decide⟩
  | object => exact ⟨_, _, rfl, by decide⟩

theorem SpellsItems.exists_first {items : List Tree} {l : List UInt8} (h : SpellsItems items l) :
    ∃ w c u, l = w ++ c :: u ∧ Blank w ∧ startsValue c ∧ SpellsItems items (c :: u) := by
  cases h with
  | last hw hv hw' =>
    obtain ⟨c, u, rfl, hc⟩ := hv.exists_first
    exact ⟨_, c, _, rfl, hw, hc, .last (w := []) nofun hv hw'⟩
  | more hw hv hw' hitems =>
    obtain ⟨c, u, rfl, hc⟩ := hv.exists_first
    exact ⟨_, c, _, rfl, hw, hc, .more (w := []) nofun hv hw' hitems⟩

theorem SpellsMembers.exists_first {members : List (StringToken × Tree)} {l : List UInt8}
    (h : SpellsMembers members l) :
    ∃ w u, l = w ++ 0x22 :: u ∧ Blank w ∧ SpellsMembers members (0x22 :: u) := by
  cases h with
  | last hw hw₁ hw₂ hv hw' => exact ⟨_, _, rfl, hw, .last (w := []) nofun hw₁ hw₂ hv hw'⟩
  | more hw hw₁ hw₂ hv hw' hmembers =>
    exact ⟨_, _, rfl, hw, .more (w := []) nofun hw₁ hw₂ hv hw' hmembers⟩

end Rfc8259
