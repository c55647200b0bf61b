import Mathlib.Tactic.IntervalCases
import SecsMagik.Utf8

/-! # Base64url without padding

The portable authority spells keys, nonces and signatures in base64url. A decoder of a fixed length
takes one spelling only: the one the encoder writes.
-/
namespace Base64Url

open RustStd

/-- `BASE64URL_ALPHABET[n]` -/
def alphabet (n : ℕ) : Char :=
  if n < 26 then Char.ofNat (65 + n)
  else if n < 52 then Char.ofNat (97 + (n - 26))
  else if n < 62 then Char.ofNat (48 + (n - 52))
  else if n = 62 then '-'
  else '_'

def sextets (first second third : UInt8) : UInt8 × UInt8 × UInt8 × UInt8 :=
  (first >>> 2, ((first &&& 0x03) <<< 4) ||| (second >>> 4),
    ((second &&& 0x0f) <<< 2) ||| (third >>> 6), third &&& 0x3f)

def letter (sextet : UInt8) : Char := alphabet sextet.toNat

/-- The text of the bytes, chunk by chunk; a chunk that lacks bytes is filled up with zero bits. -/
def encodeChunks : List UInt8 → List Char
  | [] => []
  | [a] =>
    let (s₀, s₁, _, _) := sextets a 0 0
    [letter s₀, letter s₁]
  | [a, b] =>
    let (s₀, s₁, s₂, _) := sextets a b 0
    [letter s₀, letter s₁, letter s₂]
  | a :: b :: c :: rest =>
    let (s₀, s₁, s₂, s₃) := sextets a b c
    letter s₀ :: letter s₁ :: letter s₂ :: letter s₃ :: encodeChunks rest

def encodeBase64url (bytes : List UInt8) : String := String.ofList (encodeChunks bytes)

def base64urlValue (byte : UInt8) : Option UInt8 :=
  if 65 ≤ byte ∧ byte ≤ 90 then some (byte - 65)
  else if 97 ≤ byte ∧ byte ≤ 122 then some (byte - 97 + 26)
  else if 48 ≤ byte ∧ byte ≤ 57 then some (byte - 48 + 52)
  else if byte = 45 then some 62
  else if byte = 95 then some 63
  else none

/-- The first, second and third byte that four sextets fill. -/
def firstByte (s₀ s₁ : UInt8) : UInt8 := (s₀ <<< 2) ||| (s₁ >>> 4)

@[inherit_doc firstByte] def secondByte (s₁ s₂ : UInt8) : UInt8 := (s₁ <<< 4) ||| (s₂ >>> 2)

@[inherit_doc firstByte] def thirdByte (s₂ s₃ : UInt8) : UInt8 := (s₂ <<< 6) ||| s₃

/-- The bytes of a text, four letters at a time. The last group may have two or three letters, whose
spare bits have to be zero. -/
def decodeGroups : List UInt8 → Option (List UInt8)
  | [] => some []
  | [_] => none
  | [a, b] => do
    let s₀ ← base64urlValue a
    let s₁ ← base64urlValue b
    if s₁ &&& 0x0f ≠ 0 then none else some [firstByte s₀ s₁]
  | [a, b, c] => do
    let s₀ ← base64urlValue a
    let s₁ ← base64urlValue b
    let s₂ ← base64urlValue c
    if s₂ &&& 0x03 ≠ 0 then none else some [firstByte s₀ s₁, secondByte s₁ s₂]
  | a :: b :: c :: d :: rest => do
    let s₀ ← base64urlValue a
    let s₁ ← base64urlValue b
    let s₂ ← base64urlValue c
    let s₃ ← base64urlValue d
    let decoded ← decodeGroups rest
    return firstByte s₀ s₁ :: secondByte s₁ s₂ :: thirdByte s₂ s₃ :: decoded

def encodedLen (n : ℕ) : ℕ := (n + 2) / 3 * 4 - (3 - n % 3) % 3

/-- `decode_base64url_exact::<N>` -/
def decodeBase64urlExact (n : ℕ) (value : String) : Option (Bytes n) := do
  if byteLen value ≠ encodedLen n ∨ containsChar value '=' then none
  let decoded ← decodeGroups (utf8 value)
  if decoded.length ≠ n ∨ encodeBase64url decoded ≠ value then none
  Bytes.ofSlice? n decoded

/-! ## Round trips -/

theorem firstByte_sextets (a b : UInt8) :
    firstByte (a >>> 2) (((a &&& 0x03) <<< 4) ||| (b >>> 4)) = a := by
  unfold firstByte
  rw [← UInt8.toBitVec_inj]
  ext i hi
  interval_cases i <;> simp

theorem secondByte_sextets (a b c : UInt8) :
    secondByte (((a &&& 0x03) <<< 4) ||| (b >>> 4)) (((b &&& 0x0f) <<< 2) ||| (c >>> 6)) = b := by
  unfold secondByte
  rw [← UInt8.toBitVec_inj]
  ext i hi
  interval_cases i <;> simp

theorem thirdByte_sextets (b c : UInt8) :
    thirdByte (((b &&& 0x0f) <<< 2) ||| (c >>> 6)) (c &&& 0x3f) = c := by
  unfold thirdByte
  rw [← UInt8.toBitVec_inj]
  ext i hi
  interval_cases i <;> simp

theorem spareBits_second (a : UInt8) :
    (((a &&& 0x03) <<< 4) ||| ((0 : UInt8) >>> 4)) &&& 0x0f = 0 := by
  rw [← UInt8.toBitVec_inj]
  ext i hi
  interval_cases i <;> simp

theorem spareBits_third (b : UInt8) :
    (((b &&& 0x0f) <<< 2) ||| ((0 : UInt8) >>> 6)) &&& 0x03 = 0 := by
  rw [← UInt8.toBitVec_inj]
  ext i hi
  interval_cases i <;> simp

theorem toNat_lt_of_masked {s : UInt8} (h : s &&& 0x3f = s) : s.toNat < 64 := by
  rw [← h, UInt8.toNat_and]
  exact Nat.and_lt_two_pow _ (by decide : (0x3f : UInt8).toNat < 2 ^ 6)

theorem sextets_lt (a b c : UInt8) :
    (sextets a b c).1.toNat < 64 ∧ (sextets a b c).2.1.toNat < 64 ∧
      (sextets a b c).2.2.1.toNat < 64 ∧ (sextets a b c).2.2.2.toNat < 64 := by
  refine ⟨?_, ?_, ?_, ?_⟩ <;>
  · apply toNat_lt_of_masked
    unfold sextets
    rw [← UInt8.toBitVec_inj]
    ext i hi
    interval_cases i <;> simp

/-- The byte a letter takes, which stands for the sextet again. -/
def letterByte (sextet : UInt8) : UInt8 := UInt8.ofNat (letter sextet).toNat

theorem letter_reads {s : UInt8} (h : s.toNat < 64) :
    String.utf8EncodeChar (letter s) = [letterByte s] ∧ base64urlValue (letterByte s) = some s ∧
      letter s ≠ '=' := by
  have hall : ∀ i : Fin 64, String.utf8EncodeChar (letter (UInt8.ofNat i)) =
      [letterByte (UInt8.ofNat i)] ∧ base64urlValue (letterByte (UInt8.ofNat i)) =
        some (UInt8.ofNat i) ∧ letter (UInt8.ofNat i) ≠ '=' := by decide
  simpa using hall ⟨s.toNat, h⟩

/-- The sextets of the bytes, in the order of their letters. -/
def sextetsOf : List UInt8 → List UInt8
  | [] => []
  | [a] => [(sextets a 0 0).1, (sextets a 0 0).2.1]
  | [a, b] => [(sextets a b 0).1, (sextets a b 0).2.1, (sextets a b 0).2.2.1]
  | a :: b :: c :: rest =>
    (sextets a b c).1 :: (sextets a b c).2.1 :: (sextets a b c).2.2.1 ::
      (sextets a b c).2.2.2 :: sextetsOf rest

theorem encodeChunks_eq (bytes : List UInt8) :
    encodeChunks bytes = (sextetsOf bytes).map letter := by
  fun_induction encodeChunks bytes with
  | case4 a b c rest s₀ s₁ s₂ s₃ hsextets ih => simp_all [sextetsOf]
  | _ => simp_all [sextetsOf]

theorem sextetsOf_lt (bytes : List UInt8) : ∀ s ∈ sextetsOf bytes, s.toNat < 64 := by
  fun_induction sextetsOf bytes with
  | case1 => simp
  | case2 a => simp [(sextets_lt a 0 0).1, (sextets_lt a 0 0).2.1]
  | case3 a b => simp [(sextets_lt a b 0).1, (sextets_lt a b 0).2.1, (sextets_lt a b 0).2.2.1]
  | case4 a b c rest ih =>
    obtain ⟨h₀, h₁, h₂, h₃⟩ := sextets_lt a b c
    simp only [List.forall_mem_cons]
    exact ⟨h₀, h₁, h₂, h₃, ih⟩

theorem length_sextetsOf (bytes : List UInt8) :
    (sextetsOf bytes).length = encodedLen bytes.length := by
  fun_induction sextetsOf bytes with
  | case4 a b c rest ih =>
    simp only [List.length_cons, ih, encodedLen]
    omega
  | _ => simp [encodedLen]

theorem utf8_encode (bytes : List UInt8) :
    utf8 (encodeBase64url bytes) = (sextetsOf bytes).map letterByte := by
  have hlt := sextetsOf_lt bytes
  rw [utf8_eq, encodeBase64url, String.toList_ofList, encodeChunks_eq, List.flatMap_map]
  generalize sextetsOf bytes = letters at hlt ⊢
  induction letters with
  | nil => rfl
  | cons s rest ih =>
    rw [List.flatMap_cons, ih fun s' hs' => hlt s' (List.mem_cons_of_mem _ hs'),
      (letter_reads (hlt s List.mem_cons_self)).1]
    rfl

theorem byteLen_encode (bytes : List UInt8) :
    byteLen (encodeBase64url bytes) = encodedLen bytes.length := by
  rw [byteLen, utf8_encode, List.length_map, length_sextetsOf]

theorem decodeGroups_letters (bytes : List UInt8) :
    decodeGroups ((sextetsOf bytes).map letterByte) = some bytes := by
  fun_induction sextetsOf bytes with
  | case1 => rfl
  | case2 a =>
    obtain ⟨h₀, h₁, -, -⟩ := sextets_lt a 0 0
    simp only [List.map_cons, List.map_nil, decodeGroups, (letter_reads h₀).2.1,
      (letter_reads h₁).2.1, Option.bind_eq_bind, Option.bind_some]
    simp only [sextets, spareBits_second, firstByte_sextets, ne_eq, not_true_eq_false, if_false]
  | case3 a b =>
    obtain ⟨h₀, h₁, h₂, -⟩ := sextets_lt a b 0
    simp only [List.map_cons, List.map_nil, decodeGroups, (letter_reads h₀).2.1,
      (letter_reads h₁).2.1, (letter_reads h₂).2.1, Option.bind_eq_bind, Option.bind_some]
    simp only [sextets, spareBits_third, firstByte_sextets, secondByte_sextets, ne_eq,
      not_true_eq_false, if_false]
  | case4 a b c rest ih =>
    obtain ⟨h₀, h₁, h₂, h₃⟩ := sextets_lt a b c
    simp only [List.map_cons, decodeGroups, (letter_reads h₀).2.1, (letter_reads h₁).2.1,
      (letter_reads h₂).2.1, (letter_reads h₃).2.1, ih, Option.bind_eq_bind, Option.bind_some]
    simp only [sextets, firstByte_sextets, secondByte_sextets, thirdByte_sextets]
    rfl

theorem decode_of_encode {n : ℕ} (bytes : Bytes n) :
    decodeBase64urlExact n (encodeBase64url bytes.val) = some bytes := by
  have hlen : byteLen (encodeBase64url bytes.val) = encodedLen n := by
    rw [byteLen_encode, bytes.property]
  have hpad : containsChar (encodeBase64url bytes.val) '=' = false := by
    rw [containsChar, chars_eq, encodeBase64url, String.toList_ofList, encodeChunks_eq]
    simp only [List.contains_eq_mem, List.mem_map, decide_eq_false_iff_not, not_exists, not_and]
    intro s hs
    exact (letter_reads (sextetsOf_lt _ s hs)).2.2
  unfold decodeBase64urlExact
  simp [hlen, hpad, utf8_encode, decodeGroups_letters, bytes.property]

theorem encode_of_decode {n : ℕ} {value : String} {bytes : Bytes n}
    (h : decodeBase64urlExact n value = some bytes) : encodeBase64url bytes.val = value := by
  unfold decodeBase64urlExact at h
  split_ifs at h
  · cases h
  · obtain ⟨decoded, -, h⟩ := Option.bind_eq_some_iff.mp h
    split_ifs at h with hspelled
    · cases h
    · unfold Bytes.ofSlice? at h
      split_ifs at h
      cases h
      exact not_not.mp (not_or.mp hspelled).2

/-- The bytes have one spelling: padding, other letters, spare bits and other lengths do not
decode. -/
theorem decodes_iff_encoded {n : ℕ} (bytes : Bytes n) (value : String) :
    decodeBase64urlExact n value = some bytes ↔ value = encodeBase64url bytes.val := by
  constructor
  · intro h
    exact (encode_of_decode h).symm
  · intro h
    rw [h, decode_of_encode]

end Base64Url
