import SecsMagik.RustStd

/-! # UTF-8 decoding inverts encoding

`from_utf8` accepts exactly the byte strings that spell some text, and returns that text. The
argument is by characters: a step of the decoder recognises the bytes of one character and no
others.
-/
namespace RustStd

theorem toNat_ofNat_of_lt {n : ℕ} (h : n < 256) : (UInt8.ofNat n).toNat = n := by
  rw [UInt8.toNat_ofNat', Nat.mod_eq_of_lt h]

theorem eq_ofNat_of_toNat {b : UInt8} {n : ℕ} (h : n = b.toNat) : b = UInt8.ofNat n := by
  rw [h, UInt8.ofNat_toNat]

theorem ofNat_val_toNat (c : Char) : Char.ofNat c.val.toNat = c := Char.ofNat_toNat c

theorem val_toNat_ofNat {n : ℕ} (h : n.isValidChar) : (Char.ofNat n).val.toNat = n := by
  unfold Char.ofNat
  rw [dif_pos h]
  exact UInt32.toNat_ofNatLT

section OneCharacter

variable {b b₁ b₂ b₃ : UInt8} {rest : List UInt8}

theorem isContinuation_iff : isContinuation b ↔ 0x80 ≤ b.toNat ∧ b.toNat ≤ 0xBF := by
  simp [isContinuation, UInt8.le_iff_toNat_le]

theorem admitsSecond_iff : admitsSecond b b₁ ↔
    (b.toNat = 0xE0 → 0xA0 ≤ b₁.toNat) ∧ (b.toNat = 0xED → b₁.toNat ≤ 0x9F) ∧
      (b.toNat = 0xF0 → 0x90 ≤ b₁.toNat) ∧ (b.toNat = 0xF4 → b₁.toNat ≤ 0x8F) ∧
        0x80 ≤ b₁.toNat ∧ b₁.toNat ≤ 0xBF := by
  unfold admitsSecond
  split_ifs with h₁ h₂ h₃ h₄
  · subst h₁
    simp [UInt8.le_iff_toNat_le]
    omega
  · subst h₂
    simp [UInt8.le_iff_toNat_le]
    omega
  · subst h₃
    simp [UInt8.le_iff_toNat_le]
    omega
  · subst h₄
    simp [UInt8.le_iff_toNat_le]
    omega
  · rw [isContinuation_iff]
    rw [← UInt8.toNat_inj] at h₁ h₂ h₃ h₄
    simp only [UInt8.reduceToNat] at h₁ h₂ h₃ h₄
    omega

/-- The sequences a decoding step recognises, each with its character. -/
theorem decodeChar_one (h : b.toNat < 0x80) :
    decodeChar b rest = (some (Char.ofNat b.toNat), 1) := by
  unfold decodeChar
  rw [if_pos (by simpa [UInt8.lt_iff_toNat_lt] using h)]

theorem decodeChar_two (h : 0xC2 ≤ b.toNat) (h' : b.toNat ≤ 0xDF)
    (h₁ : isContinuation b₁) : decodeChar b (b₁ :: rest) =
      (some (Char.ofNat (b.toNat % 32 * 64 + b₁.toNat % 64)), 2) := by
  unfold decodeChar
  rw [if_neg (by simp [UInt8.lt_iff_toNat_lt]; omega),
    if_pos (by simp [UInt8.le_iff_toNat_le]; omega)]
  simp [h₁, scalar]

theorem decodeChar_three (h : 0xE0 ≤ b.toNat) (h' : b.toNat ≤ 0xEF)
    (h₁ : admitsSecond b b₁) (h₂ : isContinuation b₂) : decodeChar b (b₁ :: b₂ :: rest) =
      (some (Char.ofNat ((b.toNat % 16 * 64 + b₁.toNat % 64) * 64 + b₂.toNat % 64)), 3) := by
  unfold decodeChar
  rw [if_neg (by simp [UInt8.lt_iff_toNat_lt]; omega),
    if_neg (by simp [UInt8.le_iff_toNat_le]; omega),
    if_pos (by simp [UInt8.le_iff_toNat_le]; omega)]
  simp [h₁, h₂, scalar]

theorem decodeChar_four (h : 0xF0 ≤ b.toNat) (h' : b.toNat ≤ 0xF4)
    (h₁ : admitsSecond b b₁) (h₂ : isContinuation b₂) (h₃ : isContinuation b₃) :
    decodeChar b (b₁ :: b₂ :: b₃ :: rest) =
      (some (Char.ofNat (((b.toNat % 8 * 64 + b₁.toNat % 64) * 64 + b₂.toNat % 64) * 64 +
        b₃.toNat % 64)), 4) := by
  unfold decodeChar
  rw [if_neg (by simp [UInt8.lt_iff_toNat_lt]; omega),
    if_neg (by simp [UInt8.le_iff_toNat_le]; omega),
    if_neg (by simp [UInt8.le_iff_toNat_le]; omega),
    if_pos (by simp [UInt8.le_iff_toNat_le]; omega)]
  simp [h₁, h₂, h₃, scalar]

theorem decodeChar_encode (c : Char) (rest : List UInt8) :
    ∃ b tail, String.utf8EncodeChar c = b :: tail ∧
      decodeChar b (tail ++ rest) = (some c, tail.length + 1) := by
  have hvalid : c.val.toNat < 55296 ∨ 57343 < c.val.toNat ∧ c.val.toNat < 1114112 := c.valid
  have hc := ofNat_val_toNat c
  generalize hv : c.val.toNat = v at hvalid hc
  unfold String.utf8EncodeChar
  simp only [hv]
  split_ifs with h₁ h₂ h₃
  · refine ⟨_, [], rfl, ?_⟩
    rw [decodeChar_one (by rw [toNat_ofNat_of_lt] <;> omega), toNat_ofNat_of_lt (by omega), hc]
    rfl
  · refine ⟨_, [_], rfl, ?_⟩
    have hb : (UInt8.ofNat (v / 64 % 32 + 192)).toNat = v / 64 % 32 + 192 :=
      toNat_ofNat_of_lt (by omega)
    have hb₁ : (UInt8.ofNat (v % 64 + 128)).toNat = v % 64 + 128 := toNat_ofNat_of_lt (by omega)
    have hval : (v / 64 % 32 + 192) % 32 * 64 + (v % 64 + 128) % 64 = v := by omega
    rw [List.singleton_append, decodeChar_two (by omega) (by omega)
      (isContinuation_iff.mpr (by omega)), hb, hb₁, hval, hc]
    rfl
  · refine ⟨_, [_, _], rfl, ?_⟩
    have hb : (UInt8.ofNat (v / 4096 % 16 + 224)).toNat = v / 4096 % 16 + 224 :=
      toNat_ofNat_of_lt (by omega)
    have hb₁ : (UInt8.ofNat (v / 64 % 64 + 128)).toNat = v / 64 % 64 + 128 :=
      toNat_ofNat_of_lt (by omega)
    have hb₂ : (UInt8.ofNat (v % 64 + 128)).toNat = v % 64 + 128 := toNat_ofNat_of_lt (by omega)
    have hval : ((v / 4096 % 16 + 224) % 16 * 64 + (v / 64 % 64 + 128) % 64) * 64 +
        (v % 64 + 128) % 64 = v := by omega
    rw [List.cons_append, List.singleton_append, decodeChar_three (by omega) (by omega)
      (admitsSecond_iff.mpr (by omega)) (isContinuation_iff.mpr (by omega)), hb, hb₁, hb₂, hval,
      hc]
    rfl
  · refine ⟨_, [_, _, _], rfl, ?_⟩
    have hb : (UInt8.ofNat (v / 262144 % 8 + 240)).toNat = v / 262144 % 8 + 240 :=
      toNat_ofNat_of_lt (by omega)
    have hb₁ : (UInt8.ofNat (v / 4096 % 64 + 128)).toNat = v / 4096 % 64 + 128 :=
      toNat_ofNat_of_lt (by omega)
    have hb₂ : (UInt8.ofNat (v / 64 % 64 + 128)).toNat = v / 64 % 64 + 128 :=
      toNat_ofNat_of_lt (by omega)
    have hb₃ : (UInt8.ofNat (v % 64 + 128)).toNat = v % 64 + 128 := toNat_ofNat_of_lt (by omega)
    have hval : (((v / 262144 % 8 + 240) % 8 * 64 + (v / 4096 % 64 + 128) % 64) * 64 +
        (v / 64 % 64 + 128) % 64) * 64 + (v % 64 + 128) % 64 = v := by omega
    rw [List.cons_append, List.cons_append, List.singleton_append, decodeChar_four (by omega)
      (by omega) (admitsSecond_iff.mpr (by omega)) (isContinuation_iff.mpr (by omega))
      (isContinuation_iff.mpr (by omega)), hb, hb₁, hb₂, hb₃, hval, hc]
    rfl

/-- A step that yields a character has met one of the four shapes. -/
theorem decodeChar_cases {c : Char} {n : ℕ} (h : decodeChar b rest = (some c, n)) :
    (b.toNat < 0x80 ∧ c = Char.ofNat b.toNat ∧ n = 1) ∨
    (∃ b₁ rest', rest = b₁ :: rest' ∧ 0xC2 ≤ b.toNat ∧ b.toNat ≤ 0xDF ∧ isContinuation b₁ ∧
      c = Char.ofNat (b.toNat % 32 * 64 + b₁.toNat % 64) ∧ n = 2) ∨
    (∃ b₁ b₂ rest', rest = b₁ :: b₂ :: rest' ∧ 0xE0 ≤ b.toNat ∧ b.toNat ≤ 0xEF ∧
      admitsSecond b b₁ ∧ isContinuation b₂ ∧
      c = Char.ofNat ((b.toNat % 16 * 64 + b₁.toNat % 64) * 64 + b₂.toNat % 64) ∧ n = 3) ∨
    (∃ b₁ b₂ b₃ rest', rest = b₁ :: b₂ :: b₃ :: rest' ∧ 0xF0 ≤ b.toNat ∧ b.toNat ≤ 0xF4 ∧
      admitsSecond b b₁ ∧ isContinuation b₂ ∧ isContinuation b₃ ∧
      c = Char.ofNat (((b.toNat % 8 * 64 + b₁.toNat % 64) * 64 + b₂.toNat % 64) * 64 +
        b₃.toNat % 64) ∧ n = 4) := by
  unfold decodeChar at h
  simp only [UInt8.lt_iff_toNat_lt, UInt8.le_iff_toNat_le, Bool.and_eq_true,
    decide_eq_true_eq, UInt8.reduceToNat, scalar, List.foldl_cons, List.foldl_nil] at h
  -- the branches that yield `none` contradict `h`
  repeat' split at h
  all_goals first
    | (exfalso; simp at h; done)
    | simp only [Prod.mk.injEq, Option.some.injEq] at h
  · exact .inl ⟨by assumption, h.1.symm, h.2.symm⟩
  · exact .inr (.inl ⟨_, _, rfl, by omega, by omega, by assumption, h.1.symm, h.2.symm⟩)
  · exact .inr (.inr (.inl ⟨_, _, _, rfl, by omega, by omega, by assumption, by assumption,
      h.1.symm, h.2.symm⟩))
  · exact .inr (.inr (.inr ⟨_, _, _, _, rfl, by omega, by omega, by assumption, by assumption,
      by assumption, h.1.symm, h.2.symm⟩))

theorem encode_of_decodeChar {c : Char} {n : ℕ} (h : decodeChar b rest = (some c, n)) :
    ∃ tail rest', String.utf8EncodeChar c = b :: tail ∧ rest = tail ++ rest' ∧
      n = tail.length + 1 := by
  have hlt := b.toNat_lt
  rcases decodeChar_cases h with ⟨hb, rfl, rfl⟩ | ⟨b₁, rest', rfl, hb, hb', h₁, rfl, rfl⟩ |
    ⟨b₁, b₂, rest', rfl, hb, hb', h₁, h₂, rfl, rfl⟩ |
    ⟨b₁, b₂, b₃, rest', rfl, hb, hb', h₁, h₂, h₃, rfl, rfl⟩
  · refine ⟨[], rest, ?_, rfl, rfl⟩
    unfold String.utf8EncodeChar
    rw [val_toNat_ofNat (by unfold Nat.isValidChar; omega)]
    simp only
    rw [if_pos (by omega), UInt8.ofNat_toNat]
  · rw [isContinuation_iff] at h₁
    refine ⟨[b₁], rest', ?_, rfl, rfl⟩
    unfold String.utf8EncodeChar
    rw [val_toNat_ofNat (by unfold Nat.isValidChar; omega)]
    simp only
    rw [if_neg (by omega), if_pos (by omega)]
    congr 1
    · exact (eq_ofNat_of_toNat (by omega)).symm
    · congr 1
      exact (eq_ofNat_of_toNat (by omega)).symm
  · rw [isContinuation_iff] at h₂
    rw [admitsSecond_iff] at h₁
    refine ⟨[b₁, b₂], rest', ?_, rfl, rfl⟩
    unfold String.utf8EncodeChar
    rw [val_toNat_ofNat (by unfold Nat.isValidChar; omega)]
    simp only
    rw [if_neg (by omega), if_neg (by omega), if_pos (by omega)]
    congr 1
    · exact (eq_ofNat_of_toNat (by omega)).symm
    · congr 1
      · exact (eq_ofNat_of_toNat (by omega)).symm
      · congr 1
        exact (eq_ofNat_of_toNat (by omega)).symm
  · rw [isContinuation_iff] at h₂ h₃
    rw [admitsSecond_iff] at h₁
    refine ⟨[b₁, b₂, b₃], rest', ?_, rfl, rfl⟩
    unfold String.utf8EncodeChar
    rw [val_toNat_ofNat (by unfold Nat.isValidChar; omega)]
    simp only
    rw [if_neg (by omega), if_neg (by omega), if_neg (by omega)]
    congr 1
    · exact (eq_ofNat_of_toNat (by omega)).symm
    · congr 1
      · exact (eq_ofNat_of_toNat (by omega)).symm
      · congr 1
        · exact (eq_ofNat_of_toNat (by omega)).symm
        · congr 1
          exact (eq_ofNat_of_toNat (by omega)).symm

end OneCharacter

theorem decodeChars_encode (cs : List Char) (fuel : ℕ)
    (hfuel : (cs.flatMap String.utf8EncodeChar).length ≤ fuel) :
    decodeChars fuel (cs.flatMap String.utf8EncodeChar) = cs.map some := by
  induction cs generalizing fuel with
  | nil => cases fuel <;> rfl
  | cons c cs ih =>
    obtain ⟨b, tail, henc, hdec⟩ := decodeChar_encode c (cs.flatMap String.utf8EncodeChar)
    rw [List.flatMap_cons, henc, List.length_append, List.length_cons] at hfuel
    obtain ⟨fuel, rfl⟩ : ∃ f, fuel = f + 1 := ⟨fuel - 1, by omega⟩
    rw [List.flatMap_cons, henc, List.cons_append, decodeChars, hdec]
    simp only [List.drop_succ_cons, List.drop_left, List.map_cons]
    rw [ih fuel (by omega)]

theorem encode_of_decodeChars {cs : List Char} {fuel : ℕ} {bytes : List UInt8}
    (hfuel : bytes.length ≤ fuel) (h : decodeChars fuel bytes = cs.map some) :
    bytes = cs.flatMap String.utf8EncodeChar := by
  induction cs generalizing fuel bytes with
  | nil =>
    cases bytes with
    | nil => rfl
    | cons b rest =>
      obtain ⟨fuel, rfl⟩ : ∃ f, fuel = f + 1 := ⟨fuel - 1, by simp at hfuel; omega⟩
      simp [decodeChars] at h
  | cons c cs ih =>
    cases bytes with
    | nil => cases fuel <;> simp [decodeChars] at h
    | cons b rest =>
      obtain ⟨fuel, rfl⟩ : ∃ f, fuel = f + 1 := ⟨fuel - 1, by simp at hfuel; omega⟩
      rcases hd : decodeChar b rest with ⟨c', n⟩
      simp only [decodeChars, hd, List.map_cons, List.cons.injEq] at h
      obtain ⟨rfl, h⟩ := h
      obtain ⟨tail, rest', henc, rfl, rfl⟩ := encode_of_decodeChar hd
      rw [List.drop_succ_cons, List.drop_left] at h
      rw [List.length_cons, List.length_append] at hfuel
      rw [List.flatMap_cons, henc, List.cons_append, ← ih (by omega) h]

theorem mapM_id_eq_some {α : Type} {items : List (Option α)} {values : List α} :
    items.mapM id = some values ↔ items = values.map some := by
  induction items generalizing values with
  | nil => cases values <;> simp
  | cons item items ih =>
    cases item with
    | none => cases values <;> simp
    | some a => cases values <;> simp [Option.bind_eq_some_iff, ih, and_comm]

/-- `from_utf8` returns the text its argument spells, and nothing else. -/
theorem fromUtf8_eq_some {bytes : List UInt8} {s : String} :
    fromUtf8 bytes = some s ↔ bytes = utf8 s := by
  rw [fromUtf8, utf8_eq]
  constructor
  · intro h
    obtain ⟨cs, hcs, rfl⟩ := Option.map_eq_some_iff.mp h
    rw [String.toList_ofList]
    exact encode_of_decodeChars le_rfl (mapM_id_eq_some.mp hcs)
  · rintro rfl
    rw [decodeChars_encode _ _ le_rfl, mapM_id_eq_some.mpr rfl, Option.map_some,
      String.ofList_toList]

@[simp] theorem chars_eq (s : String) : chars s = s.toList := by
  rw [chars, utf8_eq, decodeChars_encode _ _ le_rfl]
  change (s.toList.map some).filterMap id = s.toList
  rw [List.filterMap_map]
  exact List.filterMap_some

theorem utf8_injective : Function.Injective utf8 := by
  intro s t h
  have hs : fromUtf8 (utf8 s) = some s := fromUtf8_eq_some.mpr rfl
  rw [h, fromUtf8_eq_some.mpr rfl] at hs
  exact (Option.some.inj hs).symm

/-! ## Searching -/

theorem isInfixOf_iff {needle text : List Char} : isInfixOf needle text ↔ needle <:+: text := by
  induction text with
  | nil => simp [isInfixOf, List.infix_nil]
  | cons c text ih => simp [isInfixOf, List.infix_cons_iff, ih, List.isPrefixOf_iff_prefix]

theorem containsStr_iff {s needle : String} :
    containsStr s needle ↔ needle.toList <:+: s.toList := by
  rw [containsStr, chars_eq, chars_eq, isInfixOf_iff]

theorem startsWith_iff {s head : String} : startsWith s head ↔ head.toList <+: s.toList := by
  rw [startsWith, chars_eq, chars_eq, List.isPrefixOf_iff_prefix]

theorem endsWith_iff {s tail : String} : endsWith s tail ↔ tail.toList <:+ s.toList := by
  rw [endsWith, chars_eq, chars_eq, List.isSuffixOf_iff_suffix]

theorem startsWith_append (head tail : String) : startsWith (head ++ tail) head := by
  simp [startsWith_iff]

theorem startsWith_head {s head : String} {c : Char} (h : startsWith s head)
    (hc : head.toList.head? = some c) : s.toList.head? = some c := by
  obtain ⟨rest, hrest⟩ := startsWith_iff.mp h
  rw [← hrest, List.head?_append, hc]
  rfl

theorem stripPrefix_of_head {s head : String} {c d : Char} (hs : s.toList.head? = some c)
    (hhead : head.toList.head? = some d) (hne : c ≠ d) : stripPrefix s head = none := by
  unfold stripPrefix
  rw [if_neg]
  intro h
  rw [startsWith_head h hhead] at hs
  exact hne (Option.some.inj hs).symm

theorem stripPrefix_append (head tail : String) :
    stripPrefix (head ++ tail) head = some tail := by
  simp [stripPrefix, startsWith_append]

theorem stripPrefix_eq_some {s head rest : String} (h : stripPrefix s head = some rest) :
    s = head ++ rest := by
  rw [stripPrefix, chars_eq, chars_eq] at h
  split_ifs at h with hstarts
  obtain rfl := Option.some.inj h
  obtain ⟨tail, htail⟩ := startsWith_iff.mp hstarts
  rw [← String.toList_inj, String.toList_append, String.toList_ofList, ← htail, List.drop_left]

theorem stripSuffix_eq_some {s tail rest : String} (h : stripSuffix s tail = some rest) :
    s = rest ++ tail := by
  rw [stripSuffix, chars_eq, chars_eq] at h
  split_ifs at h with hends
  obtain rfl := Option.some.inj h
  obtain ⟨head, hhead⟩ := endsWith_iff.mp hends
  rw [← String.toList_inj, String.toList_append, String.toList_ofList, ← hhead, List.length_append,
    Nat.add_sub_cancel_right, List.take_left]

theorem stripSuffix_append (s tail : String) : stripSuffix (s ++ tail) tail = some s := by
  simp [stripSuffix, endsWith]

end RustStd
