import SecsMagik.Utf8
import SecsMagik.WireCodec

/-! # Keys in hexadecimal

The tunnel key and the verifier's secret key are configured as texts. Both parsers read two bytes of
the text at a time with `u8::from_str_radix`, which takes a plus sign before the digits.
-/
namespace KeyParsing

open RustStd
open WireCodec (Fault NeverPanics neverPanics_ok neverPanics_error neverPanics_rejectIf rejectIf)

/-! ## The parsers -/

/-- `char::to_digit(16)` -/
def hexValue (b : UInt8) : Option ℕ :=
  if 48 ≤ b ∧ b ≤ 57 then some (b.toNat - 48)
  else if 97 ≤ b ∧ b ≤ 102 then some (b.toNat - 87)
  else if 65 ≤ b ∧ b ≤ 70 then some (b.toNat - 55)
  else none

/-- The byte of two hexadecimal digits. -/
def hexPair (a b : UInt8) : Option UInt8 :=
  (hexValue a).bind fun high => (hexValue b).map fun low => UInt8.ofNat (16 * high + low)

/-- `u8::from_str_radix` for base 16 and a text of two bytes; 43 is the plus sign. -/
def fromStrRadix16 (a b : UInt8) : Option UInt8 :=
  if a = 43 then (hexValue b).map UInt8.ofNat else hexPair a b

/-- The loop of both parsers over the bytes that are left; `take` makes a text of two of them. -/
def readPairs (take : UInt8 → UInt8 → List UInt8 → Except (Fault Unit) Unit) :
    List UInt8 → Except (Fault Unit) (List UInt8)
  | a :: b :: rest => do
    take a b rest
    let byte ← (fromStrRadix16 a b).elim (.error (.error ())) .ok
    let bytes ← readPairs take rest
    return byte :: bytes
  | _ => .ok []

def parseKey (take : UInt8 → UInt8 → List UInt8 → Except (Fault Unit) Unit) (text : String) :
    Except (Fault Unit) (List UInt8) :=
  if byteLen text ≠ 64 then .error (.error ()) else readPairs take (utf8 text)

/-- `&clean[start..end]` panics where a character goes on at an end of the range. The range starts
at the beginning of the text or at the end of the one before. -/
def sliceText (_ _ : UInt8) (rest : List UInt8) : Except (Fault Unit) Unit :=
  rejectIf (rest.head?.any isContinuation) .panic

/-- `std::str::from_utf8(chunk)` -/
def chunkText (a b : UInt8) (_ : List UInt8) : Except (Fault Unit) Unit :=
  rejectIf (fromUtf8 [a, b] = none) (.error ())

/-- What `parse_tunnel_key_hex` leaves of its input. -/
def tunnelText (input : String) : String :=
  trim (((stripPrefix input "0x").or (stripPrefix input "0X")).getD input)

def parseTunnelKeyHex (input : String) : Except (Fault Unit) (List UInt8) :=
  parseKey sliceText (tunnelText input)

/-- What `parse_hex_secret_key` leaves of its input. -/
def secretText (raw : String) : String :=
  String.ofList ((chars raw).filter fun c => !isWhitespace c)

/-- The one error is `IdentityConfigError::MalformedVerifierKey`. -/
def parseHexSecretKey (raw : String) : Except (Fault Unit) (List UInt8) :=
  parseKey chunkText (secretText raw)

/-! ## What they should do, and what they do -/

/-- Every two bytes of the text make a byte of the key. -/
inductive Reads (pair : UInt8 → UInt8 → Option UInt8) : List UInt8 → List UInt8 → Prop where
  | nil : Reads pair [] []
  | cons {a b v : UInt8} {text key : List UInt8} (hv : pair a b = some v)
      (h : Reads pair text key) : Reads pair (a :: b :: text) (v :: key)

/-- The parser returns, and it returns a key exactly if it has 32 bytes and the text consists of the
digits that spell it. -/
def Exact (text : String) (result : Except (Fault Unit) (List UInt8)) : Prop :=
  NeverPanics result ∧
    ∀ key, result = .ok key ↔ key.length = 32 ∧ Reads hexPair (utf8 text) key

/-- The text is read as a key and has a plus sign. -/
def Signed (text : String) : Prop :=
  byteLen text = 64 ∧ 43 ∈ utf8 text ∧ ∃ key, Reads fromStrRadix16 (utf8 text) key

/-- Behind pairs that are read come two bytes that end inside a character. -/
def Cut (text : List UInt8) : Prop :=
  ∃ front a b rest key, text = front ++ a :: b :: rest ∧ Reads fromStrRadix16 front key ∧
    rest.head?.any isContinuation

def CutsCharacter (text : String) : Prop := byteLen text = 64 ∧ Cut (utf8 text)

section Pairs

variable {a b v : UInt8} {d : ℕ} {text key rest : List UInt8}

theorem ascii_of_hexValue (h : hexValue b = some d) : b.toNat < 128 ∧ b ≠ 43 := by
  unfold hexValue at h
  simp only [UInt8.le_iff_toNat_le] at h
  have hbound : b.toNat ≤ 102 ∧ 48 ≤ b.toNat := by
    split_ifs at h with h₁ h₂ h₃ <;> simp at * <;> omega
  refine ⟨by omega, ?_⟩
  rintro rfl
  exact absurd hbound (by decide)

theorem hexPair_eq_some : hexPair a b = some v ↔
    fromStrRadix16 a b = some v ∧ a ≠ 43 ∧ b ≠ 43 := by
  constructor
  · intro h
    obtain ⟨high, hhigh, hlow⟩ := Option.bind_eq_some_iff.mp h
    obtain ⟨low, hlow, -⟩ := Option.map_eq_some_iff.mp hlow
    have ha := (ascii_of_hexValue hhigh).2
    rw [fromStrRadix16, if_neg ha]
    exact ⟨h, ha, (ascii_of_hexValue hlow).2⟩
  · intro h
    rw [← h.1, fromStrRadix16, if_neg h.2.1]

theorem ascii_of_fromStrRadix16 (h : fromStrRadix16 a b = some v) :
    a.toNat < 128 ∧ b.toNat < 128 := by
  unfold fromStrRadix16 at h
  by_cases ha : a = 43
  · rw [if_pos ha, Option.map_eq_some_iff] at h
    obtain ⟨low, hlow, -⟩ := h
    exact ⟨by rw [ha]; decide, (ascii_of_hexValue hlow).1⟩
  · rw [if_neg ha] at h
    obtain ⟨high, hhigh, h⟩ := Option.bind_eq_some_iff.mp h
    obtain ⟨low, hlow, -⟩ := Option.map_eq_some_iff.mp h
    exact ⟨(ascii_of_hexValue hhigh).1, (ascii_of_hexValue hlow).1⟩

/-- Without a plus sign what is read is what the digits spell. -/
theorem spells_iff : Reads hexPair text key ↔ Reads fromStrRadix16 text key ∧ 43 ∉ text := by
  constructor
  · intro h
    induction h with
    | nil => exact ⟨.nil, List.not_mem_nil⟩
    | cons hv _ ih =>
      obtain ⟨hv, ha, hb⟩ := hexPair_eq_some.mp hv
      refine ⟨.cons hv ih.1, ?_⟩
      simp only [List.mem_cons, not_or]
      exact ⟨ha.symm, hb.symm, ih.2⟩
  · intro h
    obtain ⟨h, hplus⟩ := h
    induction h with
    | nil => exact .nil
    | cons hv _ ih =>
      simp only [List.mem_cons, not_or] at hplus
      exact .cons (hexPair_eq_some.mpr ⟨hv, Ne.symm hplus.1, Ne.symm hplus.2.1⟩) (ih hplus.2.2)

theorem Reads.length_eq {pair : UInt8 → UInt8 → Option UInt8} (h : Reads pair text key) :
    text.length = 2 * key.length := by
  induction h with
  | nil => rfl
  | cons _ _ ih =>
    simp only [List.length_cons, ih]
    omega

/-- What the loop returns, if it takes two bytes that are read before others that are. -/
theorem readPairs_eq_ok {take : UInt8 → UInt8 → List UInt8 → Except (Fault Unit) Unit}
    (htake : ∀ {a b v rest key}, fromStrRadix16 a b = some v → Reads fromStrRadix16 rest key →
      take a b rest = .ok ()) (heven : 2 ∣ text.length) :
    readPairs take text = .ok key ↔ Reads fromStrRadix16 text key := by
  fun_induction readPairs take text generalizing key with
  | case1 a b rest ih =>
    have heven : 2 ∣ rest.length := by
      rw [List.length_cons, List.length_cons] at heven
      omega
    simp only [bind_eq_ok, elim_eq_ok]
    constructor
    · rintro ⟨_, -, v, hv, bytes, hbytes, ⟨⟩⟩
      exact .cons hv ((ih heven).mp hbytes)
    · intro h
      cases h with
      | cons hv h => exact ⟨(), htake hv h, _, hv, _, (ih heven).mpr h, rfl⟩
  | case2 text hshort =>
    rcases text with _ | ⟨a, _ | ⟨b, rest⟩⟩
    · constructor
      · rintro ⟨⟩
        exact .nil
      · rintro ⟨⟩
        rfl
    · exact absurd heven (by rw [List.length_singleton]; decide)
    · exact absurd rfl (hshort a b rest)

/-! ## Taking two bytes -/

theorem chunkText_of_reads (h : fromStrRadix16 a b = some v) : chunkText a b rest = .ok () := by
  obtain ⟨ha, hb⟩ := ascii_of_fromStrRadix16 h
  simp [chunkText, rejectIf, fromUtf8, decodeChars, decodeChar_one ha, decodeChar_one hb]

theorem readPairs_chunkText (text : List UInt8) : NeverPanics (readPairs chunkText text) := by
  fun_induction readPairs chunkText text with
  | case1 a b rest ih =>
    refine NeverPanics.bind (neverPanics_rejectIf _) fun _ _ => NeverPanics.bind ?_ fun _ _ =>
      ih.bind fun _ _ => neverPanics_ok _
    cases fromStrRadix16 a b with
    | none => exact neverPanics_error _
    | some v => exact neverPanics_ok _
  | case2 => exact neverPanics_ok _

theorem sliceText_eq_ok : sliceText a b rest = .ok () ↔ rest.head?.any isContinuation = false := by
  simp [sliceText, rejectIf]

theorem sliceText_of_reads (h : Reads fromStrRadix16 rest key) : sliceText a b rest = .ok () := by
  rw [sliceText_eq_ok]
  cases h with
  | nil => rfl
  | cons hv _ =>
    have hascii := (ascii_of_fromStrRadix16 hv).1
    rw [List.head?_cons, Option.any_some, Bool.eq_false_iff, Ne, isContinuation_iff]
    omega

theorem cut_cons (h : rest.head?.any isContinuation = false) :
    Cut (a :: b :: rest) ↔ (∃ v, fromStrRadix16 a b = some v) ∧ Cut rest := by
  constructor
  · rintro ⟨front, c, d, rest', key, htext, hfront, hcut⟩
    cases hfront with
    | nil =>
      cases htext
      rw [h] at hcut
      cases hcut
    | cons hv hfront =>
      cases htext
      exact ⟨⟨_, hv⟩, _, _, _, _, _, rfl, hfront, hcut⟩
  · rintro ⟨⟨v, hv⟩, front, c, d, rest', key, rfl, hfront, hcut⟩
    exact ⟨_, _, _, _, _, rfl, .cons hv hfront, hcut⟩

theorem readPairs_panics_iff : readPairs sliceText text = .error .panic ↔ Cut text := by
  fun_induction readPairs sliceText text with
  | case1 a b rest ih =>
    by_cases hcut : rest.head?.any isContinuation
    · have hpanics : sliceText a b rest = .error .panic := by simp [sliceText, rejectIf, hcut]
      rw [hpanics]
      exact iff_of_true rfl ⟨[], a, b, rest, [], rfl, .nil, hcut⟩
    · rw [Bool.not_eq_true] at hcut
      rw [cut_cons hcut, ← ih, sliceText_eq_ok.mpr hcut]
      cases fromStrRadix16 a b with
      | none => simp [bind, Except.bind]
      | some v => cases readPairs sliceText rest <;> simp [bind, Except.bind, pure, Except.pure]
  | case2 text hshort =>
    refine iff_of_false (by simp) ?_
    rintro ⟨front, c, d, rest, key, rfl, hfront, -⟩
    cases hfront with
    | nil => exact hshort _ _ _ rfl
    | cons => exact hshort _ _ _ rfl

end Pairs

/-! ## Both parsers -/

/-- A parser is exact unless its loop panics or reads a plus sign. -/
theorem exact_iff {take : UInt8 → UInt8 → List UInt8 → Except (Fault Unit) Unit} {text : String}
    (htake : ∀ {a b v rest key}, fromStrRadix16 a b = some v → Reads fromStrRadix16 rest key →
      take a b rest = .ok ()) :
    Exact text (parseKey take text) ↔
      ¬ (byteLen text = 64 ∧ readPairs take (utf8 text) = .error .panic) ∧ ¬ Signed text := by
  unfold parseKey Exact Signed
  by_cases hlen : byteLen text = 64
  · have heven : 2 ∣ (utf8 text).length := by
      rw [← byteLen, hlen]
      decide
    have hspells (key : List UInt8) : key.length = 32 ∧ Reads hexPair (utf8 text) key ↔
        Reads fromStrRadix16 (utf8 text) key ∧ 43 ∉ utf8 text := by
      rw [← spells_iff]
      refine and_iff_right_of_imp fun h => ?_
      have hlength := h.length_eq
      rw [← byteLen, hlen] at hlength
      omega
    rw [if_neg (not_not.mpr hlen)]
    simp only [NeverPanics, hlen, true_and, readPairs_eq_ok htake heven, hspells, iff_self_and,
      ne_eq]
    refine and_congr_right fun _ => ?_
    constructor
    · rintro h ⟨hplus, key, hread⟩
      exact h key hread hplus
    · intro h key hread hplus
      exact h ⟨hplus, key, hread⟩
  · rw [if_pos hlen]
    refine iff_of_true ⟨neverPanics_error _, fun key => iff_of_false (by simp) ?_⟩ (by simp [hlen])
    rintro ⟨hkey, h⟩
    exact hlen (by rw [byteLen, h.length_eq, hkey])

/-- On one input both parsers return, and return a key exactly if the text they leave of the input
spells it in hexadecimal digits, unless a text is read in spite of a plus sign or the tunnel key's
text is cut inside a character. -/
theorem key_parsers_exact_iff (input : String) :
    (Exact (tunnelText input) (parseTunnelKeyHex input) ∧
      Exact (secretText input) (parseHexSecretKey input)) ↔
    ¬ CutsCharacter (tunnelText input) ∧ ¬ Signed (tunnelText input) ∧
      ¬ Signed (secretText input) := by
  rw [parseTunnelKeyHex, parseHexSecretKey, exact_iff fun _ h => sliceText_of_reads h,
    exact_iff fun hv _ => chunkText_of_reads hv, readPairs_panics_iff, ← CutsCharacter, and_assoc]
  refine and_congr_right fun _ => and_congr_right fun _ => and_iff_right fun h => ?_
  exact readPairs_chunkText _ h.2

/-- A text that is no hexadecimal number is a key for both parsers, and another one, with characters
of two bytes between two digits, makes the tunnel's parser panic. -/
theorem signed_text_is_key :
    let signed := String.ofList (List.replicate 32 ['+', '1']).flatten
    parseTunnelKeyHex signed = .ok (List.replicate 32 1) ∧
      parseHexSecretKey signed = .ok (List.replicate 32 1) ∧ hexValue 43 = none ∧
      parseTunnelKeyHex (String.ofList ('1' :: List.replicate 31 'é' ++ ['1'])) =
        .error .panic := by
  decide +kernel

end KeyParsing
