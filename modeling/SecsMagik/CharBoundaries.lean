import SecsMagik.Utf8

/-! # Character boundaries of a text

A text can be cut at a byte position if no character goes on there. The boundaries are the ends of
its beginnings, and no two neighbouring ones are more than four bytes apart.
-/
namespace RustStd

/-- No character goes on at byte `i`. -/
def boundaryAt (bytes : List UInt8) (i : ℕ) : Bool :=
  i = 0 || match bytes[i]? with
    | some b => !isContinuation b
    | none => i = bytes.length

/-- `str::is_char_boundary` -/
def isCharBoundary (s : String) (i : ℕ) : Bool := boundaryAt (utf8 s) i

/-- `&s[..i]`, which panics off a boundary -/
def strTo (s : String) (i : ℕ) : Option String :=
  if isCharBoundary s i then fromUtf8 ((utf8 s).take i) else none

/-- `&s[i..]`, which panics off a boundary -/
def strFrom (s : String) (i : ℕ) : Option String :=
  if isCharBoundary s i then fromUtf8 ((utf8 s).drop i) else none

/-- `while !s.is_char_boundary(end) { end -= 1; }`; zero is a boundary of every text. -/
def boundaryBelow (s : String) : ℕ → ℕ
  | 0 => 0
  | i + 1 => if isCharBoundary s (i + 1) then i + 1 else boundaryBelow s i

theorem byteLen_append (s t : String) : byteLen (s ++ t) = byteLen s + byteLen t := by
  rw [byteLen, utf8_append, List.length_append]
  rfl

theorem utf8_empty : utf8 "" = [] := rfl

theorem byteLen_pos {s : String} (h : s ≠ "") : 0 < byteLen s := by
  apply List.length_pos_of_ne_nil
  intro hnil
  exact h (utf8_injective (hnil.trans utf8_empty.symm))

/-! ## Boundaries between characters -/

/-- A character starts with a byte that does not go on and goes on with all others. -/
theorem utf8EncodeChar_shape (c : Char) : ∃ b tail, String.utf8EncodeChar c = b :: tail ∧
    isContinuation b = false ∧ (∀ b ∈ tail, isContinuation b = true) ∧ tail.length ≤ 3 := by
  have hlow {n : ℕ} (h : n < 128 ∨ 192 ≤ n ∧ n < 256) : isContinuation (UInt8.ofNat n) = false := by
    rw [Bool.eq_false_iff, Ne, isContinuation_iff, toNat_ofNat_of_lt (by omega)]
    omega
  have hcont (n : ℕ) : isContinuation (UInt8.ofNat (n % 64 + 128)) = true := by
    rw [isContinuation_iff, toNat_ofNat_of_lt (by omega)]
    omega
  unfold String.utf8EncodeChar
  simp only
  split_ifs with h₁ h₂ h₃
  · exact ⟨_, [], rfl, hlow (by omega), List.forall_mem_nil _, by simp⟩
  · refine ⟨_, [_], rfl, hlow (by omega), ?_, by simp⟩
    exact List.forall_mem_singleton.mpr (hcont _)
  · refine ⟨_, [_, _], rfl, hlow (by omega), ?_, by simp⟩
    exact List.forall_mem_cons.mpr ⟨hcont _, List.forall_mem_singleton.mpr (hcont _)⟩
  · refine ⟨_, [_, _, _], rfl, hlow (by omega), ?_, by simp⟩
    exact List.forall_mem_cons.mpr ⟨hcont _, List.forall_mem_cons.mpr
      ⟨hcont _, List.forall_mem_singleton.mpr (hcont _)⟩⟩

theorem byteLen_le (s : String) : byteLen s ≤ 4 * s.toList.length := by
  rw [byteLen, utf8_eq]
  induction s.toList with
  | nil => rfl
  | cons c cs ih =>
    obtain ⟨b, tail, henc, -, -, hlength⟩ := utf8EncodeChar_shape c
    rw [List.flatMap_cons, List.length_append, henc, List.length_cons, List.length_cons]
    omega

theorem byteLen_decimal_le {n k : ℕ} (hk : 0 < k) (h : n < 10 ^ k) :
    byteLen (decimal n) ≤ 4 * k := by
  have hdigits := (Nat.length_toDigits_le_iff (by decide) hk).mpr h
  have hle := byteLen_le (decimal n)
  rw [decimal, String.toList_ofList] at hle
  exact hle.trans (Nat.mul_le_mul_left 4 hdigits)

theorem boundaryAt_of_append {head rest : List UInt8} {i : ℕ}
    (h : boundaryAt (head ++ rest) (head.length + i) = true) : boundaryAt rest i = true := by
  rcases Nat.eq_zero_or_pos i with rfl | hi
  · rfl
  · rw [boundaryAt, List.getElem?_append_right (by omega), Nat.add_sub_cancel_left,
      List.length_append] at h
    rw [boundaryAt]
    simpa [hi.ne', show head.length + i ≠ 0 by omega] using h

/-- A boundary is where some beginning of the text ends. -/
theorem boundaryAt_iff {cs : List Char} {i : ℕ} :
    boundaryAt (cs.flatMap String.utf8EncodeChar) i = true ↔
      ∃ before after, cs = before ++ after ∧
        (before.flatMap String.utf8EncodeChar).length = i := by
  constructor
  · intro h
    -- character by character: the position is inside the first one, or a boundary of the rest
    induction cs generalizing i with
    | nil =>
      refine ⟨[], [], rfl, Eq.symm ?_⟩
      simpa [boundaryAt] using h
    | cons c cs ih =>
      obtain ⟨b, tail, henc, -, htail, -⟩ := utf8EncodeChar_shape c
      by_cases hzero : i = 0
      · exact ⟨[], c :: cs, rfl, hzero.symm⟩
      by_cases hin : i < tail.length + 1
      · obtain ⟨j, rfl⟩ := Nat.exists_eq_succ_of_ne_zero hzero
        have hj : j < tail.length := by omega
        rw [List.flatMap_cons, henc, boundaryAt, List.cons_append, List.getElem?_cons_succ,
          List.getElem?_append_left hj, List.getElem?_eq_getElem hj] at h
        simp [htail _ (List.getElem_mem hj)] at h
      · obtain ⟨j, rfl⟩ := Nat.exists_eq_add_of_le (Nat.not_lt.mp hin)
        rw [List.flatMap_cons, henc] at h
        obtain ⟨before, after, rfl, hlength⟩ := ih (boundaryAt_of_append h)
        refine ⟨c :: before, after, rfl, ?_⟩
        rw [List.flatMap_cons, henc, List.length_append, hlength, List.length_cons]
  · rintro ⟨before, after, rfl, rfl⟩
    rw [boundaryAt, List.flatMap_append, List.getElem?_append_right le_rfl, Nat.sub_self]
    cases after with
    | nil => simp
    | cons c after =>
      obtain ⟨b, tail, henc, hb, -, -⟩ := utf8EncodeChar_shape c
      rw [List.flatMap_cons, henc, List.cons_append, List.getElem?_cons_zero]
      simp [hb]

theorem isCharBoundary_iff {s : String} {i : ℕ} :
    isCharBoundary s i = true ↔ ∃ before after, s = before ++ after ∧ byteLen before = i := by
  rw [isCharBoundary, utf8_eq, boundaryAt_iff]
  constructor
  · rintro ⟨before, after, h, rfl⟩
    refine ⟨String.ofList before, String.ofList after, ?_, ?_⟩
    · rw [← String.ofList_append, ← h, String.ofList_toList]
    · rw [byteLen, utf8_eq, String.toList_ofList]
  · rintro ⟨before, after, rfl, rfl⟩
    exact ⟨before.toList, after.toList, String.toList_append, by rw [byteLen, utf8_eq]⟩

/-- Cutting at a boundary never panics and loses nothing. -/
theorem cut_of_isCharBoundary {s : String} {i : ℕ} (h : isCharBoundary s i = true) :
    ∃ before after, strTo s i = some before ∧ strFrom s i = some after ∧
      s = before ++ after ∧ byteLen before = i := by
  obtain ⟨before, after, hs, hi⟩ := isCharBoundary_iff.mp h
  refine ⟨before, after, ?_, ?_, hs, hi⟩
  · rw [strTo, if_pos h, fromUtf8_eq_some, hs, utf8_append, ← hi, byteLen, List.take_left]
  · rw [strFrom, if_pos h, fromUtf8_eq_some, hs, utf8_append, ← hi, byteLen, List.drop_left]

/-! ## The boundary below a position -/

theorem isCharBoundary_byteLen (s : String) : isCharBoundary s (byteLen s) = true :=
  isCharBoundary_iff.mpr ⟨s, "", by simp, rfl⟩

theorem isCharBoundary_boundaryBelow (s : String) (i : ℕ) :
    isCharBoundary s (boundaryBelow s i) = true := by
  induction i with
  | zero => rfl
  | succ i ih =>
    rw [boundaryBelow]
    split_ifs with h
    · exact h
    · exact ih

theorem boundaryBelow_le (s : String) (i : ℕ) : boundaryBelow s i ≤ i := by
  induction i with
  | zero => rfl
  | succ i ih =>
    rw [boundaryBelow]
    split_ifs
    · exact le_rfl
    · omega

theorem le_boundaryBelow {s : String} {i j : ℕ} (hj : isCharBoundary s j = true) (hle : j ≤ i) :
    j ≤ boundaryBelow s i := by
  induction i with
  | zero => exact hle
  | succ i ih =>
    rw [boundaryBelow]
    split_ifs with h
    · exact hle
    · apply ih
      by_contra hlt
      obtain rfl : j = i + 1 := by omega
      exact h hj

theorem exists_boundary_near {cs : List Char} {i : ℕ}
    (h : i ≤ (cs.flatMap String.utf8EncodeChar).length) :
    ∃ before after, cs = before ++ after ∧
      (before.flatMap String.utf8EncodeChar).length ≤ i ∧
        i ≤ (before.flatMap String.utf8EncodeChar).length + 3 := by
  induction cs generalizing i with
  | nil => exact ⟨[], [], rfl, by simp, by simpa using Nat.le_add_right_of_le h⟩
  | cons c cs ih =>
    obtain ⟨b, tail, henc, -, -, hlength⟩ := utf8EncodeChar_shape c
    by_cases hin : i ≤ tail.length
    · exact ⟨[], c :: cs, rfl, by simp, by simp; omega⟩
    · rw [List.flatMap_cons, henc, List.length_append, List.length_cons] at h
      obtain ⟨before, after, rfl, hle, hge⟩ := ih (i := i - (tail.length + 1)) (by omega)
      refine ⟨c :: before, after, rfl, ?_, ?_⟩
      · rw [List.flatMap_cons, henc, List.length_append, List.length_cons]
        omega
      · rw [List.flatMap_cons, henc, List.length_append, List.length_cons]
        omega

theorem sub_three_le_boundaryBelow {s : String} {i : ℕ} (h : i ≤ byteLen s) :
    i - 3 ≤ boundaryBelow s i := by
  rw [byteLen, utf8_eq] at h
  obtain ⟨before, after, hs, hle, hge⟩ := exists_boundary_near h
  have hboundary : isCharBoundary s (before.flatMap String.utf8EncodeChar).length = true := by
    rw [isCharBoundary, utf8_eq, boundaryAt_iff]
    exact ⟨before, after, hs, rfl⟩
  have := le_boundaryBelow hboundary hle
  omega

theorem boundaryBelow_byteLen (s : String) : boundaryBelow s (byteLen s) = byteLen s :=
  le_antisymm (boundaryBelow_le s _) (le_boundaryBelow (isCharBoundary_byteLen s) le_rfl)

end RustStd
