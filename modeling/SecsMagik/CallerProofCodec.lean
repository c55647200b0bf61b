import SecsMagik.CallerProof
import SecsMagik.WireCodec

/-! # What a caller proof binds

The bytes a caller signs determine every field of the packet they cover, and the envelope in the
proof field decodes to what was encoded, for the key ids the decoder admits and no others.
-/
namespace CallerProof

open ExternalCrates (Crates)
open CallContext (isClockReadFailure)
open RustStd Bincode WireCodec

/-! ## The signed bytes -/

/-- The fields that a caller's signature covers. -/
structure SignedFields where
  sessionId : Bytes 16
  nonce : Bytes 12
  opcode : UInt8
  claimTtl : UInt64
  encryptedPayload : List UInt8
  deriving DecidableEq

def SignedFields.canonicalBytes (f : SignedFields) : List UInt8 :=
  callerCanonicalBytes f.sessionId f.nonce f.opcode f.claimTtl f.encryptedPayload

theorem colon_notMem_decimal (n : ℕ) (b : UInt8) (h : b ∈ utf8 (decimal n)) : b ≠ 58 := by
  rintro rfl
  simp only [utf8_eq, decimal, String.toList_ofList, List.mem_flatMap] at h
  obtain ⟨c, hc, hbyte⟩ := h
  have hdigit := Nat.isDigit_of_mem_toDigits (by decide) (by decide) hc
  simp only [Char.isDigit, Bool.and_eq_true, decide_eq_true_eq, ge_iff_le,
    UInt32.le_iff_toNat_le] at hdigit
  have hsmall : c.val.toNat ≤ 57 := hdigit.2
  unfold String.utf8EncodeChar at hbyte
  rw [if_pos (by omega), List.mem_singleton] at hbyte
  have := congrArg UInt8.toNat hbyte
  rw [toNat_ofNat_of_lt (by omega)] at this
  exact absurd (this ▸ hsmall) (by decide)

theorem decimal_injective {m n : ℕ} (h : decimal m = decimal n) : m = n := by
  have hdigits := String.ofList_injective h
  rw [← Nat.ofDigitChars_ten_toDigits (n := m), hdigits, Nat.ofDigitChars_ten_toDigits]

/-- A field ends where its length says, so it is read off whatever follows. -/
theorem spells_appendField {σ : Type} {ok : σ → Prop} (name : String) (value : σ → List UInt8) :
    Spells (fun x => appendField name (value x)) value ok := by
  intro x y r s _ _ heq
  have hcolon : utf8 ":" = [58] := by decide
  simp only [appendField, List.append_assoc, hcolon] at heq
  have heq := List.append_cancel_left (List.append_cancel_left heq)
  rw [List.singleton_append, List.singleton_append] at heq
  obtain ⟨hlen, heq⟩ := append_stop_inj (p := (· ≠ 58)) (fun b => colon_notMem_decimal _ b)
    (fun b => colon_notMem_decimal _ b) (by simp) (by simp) heq
  have heq := (List.cons.inj heq).2
  have hlen := decimal_injective (utf8_injective hlen)
  obtain ⟨hvalue, heq⟩ := List.append_inj heq hlen
  exact ⟨hvalue, List.append_cancel_left heq⟩

theorem u64Be_injective {m n : UInt64} (h : u64Be m = u64Be n) : m = n := by
  have hbytes := List.reverse_injective h
  exact UInt64.toNat_inj.mp (leBytes_inj m.toNat_lt n.toNat_lt hbytes)

theorem canonicalBytes_injective : Function.Injective SignedFields.canonicalBytes := by
  intro f g h
  unfold SignedFields.canonicalBytes callerCanonicalBytes at h
  have hversion : Spells (fun _ : SignedFields => utf8 callerProofVersion) (fun _ => ())
      (fun _ => True) := spells_const _
  have hfields := ((((((hversion.append (spells_const (utf8 "\n"))).append
    (spells_appendField "session_id" fun f => f.sessionId.val)).append
    (spells_appendField "nonce" fun f => f.nonce.val)).append
    (spells_appendField "opcode" fun f => [f.opcode])).append
    (spells_appendField "claim_ttl" fun f => u64Be f.claimTtl)).append
    (spells_appendField "encrypted_payload" fun f => f.encryptedPayload))
  have heq := hfields.inj (x := f) (y := g) trivial trivial h
  simp only [Prod.mk.injEq] at heq
  obtain ⟨⟨⟨⟨⟨-, hsession⟩, hnonce⟩, hopcode⟩, httl⟩, hpayload⟩ := heq
  cases f
  cases g
  simp only [SignedFields.mk.injEq]
  exact ⟨Subtype.ext hsession, Subtype.ext hnonce, List.singleton_inj.mp hopcode,
    u64Be_injective httl, hpayload⟩

/-! ## The envelope -/

theorem stripBytes_eq_some {head bytes rest : List UInt8} :
    stripBytes head bytes = some rest ↔ bytes = head ++ rest := by
  unfold stripBytes
  split
  · next h =>
    obtain ⟨tail, rfl⟩ := List.isPrefixOf_iff_prefix.mp h
    rw [List.drop_left, Option.some.injEq, List.append_cancel_left_eq]
  · next h =>
    constructor
    · intro h'; cases h'
    · rintro rfl
      exact absurd (List.isPrefixOf_iff_prefix.mpr (List.prefix_append _ _)) h

/-- The key ids whose length the envelope can state and the decoder admits. -/
def KeyIdAdmitted (keyId : String) : Prop := 1 ≤ byteLen keyId ∧ byteLen keyId ≤ maxCallerKeyIdLen

theorem beBytes_two (n : ℕ) :
    (leBytes 2 n).reverse = [UInt8.ofNat (n / 256 % 256), UInt8.ofNat (n % 256)] := by
  simp [leBytes]

theorem decodeParts_sound {bytes : List UInt8} {parts : CallerProofParts}
    (h : decodeParts bytes = some parts) : KeyIdAdmitted parts.keyId ∧
      bytes = (leBytes 2 (byteLen parts.keyId)).reverse ++ utf8 parts.keyId ++
        parts.signature.val := by
  rcases bytes with _ | ⟨hi, _ | ⟨lo, rest⟩⟩
  · cases h
  · cases h
  · have hhi := hi.toNat_lt
    have hlo := lo.toNat_lt
    simp only [decodeParts] at h
    split_ifs at h with hbound hlen
    simp only [Option.bind_eq_bind, Option.bind_eq_some_iff, fromUtf8_eq_some] at h
    obtain ⟨keyId, hkey, signature, hsignature, hparts⟩ := h
    cases hparts
    rw [ne_eq, not_not] at hlen
    have hkeyLen : byteLen keyId = hi.toNat * 256 + lo.toNat := by
      rw [byteLen, ← hkey, List.length_take]
      omega
    have hdrop : rest.drop (hi.toNat * 256 + lo.toNat) = signature.val := by
      unfold Bytes.ofSlice? at hsignature
      split_ifs at hsignature
      exact congrArg Subtype.val (Option.some.inj hsignature)
    refine ⟨show 1 ≤ byteLen keyId ∧ byteLen keyId ≤ maxCallerKeyIdLen by omega, ?_⟩
    have hhead : (leBytes 2 (byteLen keyId)).reverse = [hi, lo] := by
      rw [beBytes_two, hkeyLen]
      congr
      · exact (eq_ofNat_of_toNat (by omega)).symm
      · exact (eq_ofNat_of_toNat (by omega)).symm
    rw [hhead, ← hkey, ← hdrop, List.append_assoc, List.take_append_drop]
    rfl

theorem decodeParts_complete {keyId : String} (signature : Bytes 64) (h : KeyIdAdmitted keyId) :
    decodeParts ((leBytes 2 (byteLen keyId)).reverse ++ utf8 keyId ++ signature.val) =
      some ⟨keyId, signature⟩ := by
  obtain ⟨hpos, hmax⟩ := h
  have hmax : byteLen keyId ≤ 256 := hmax
  have hlen : (UInt8.ofNat (byteLen keyId / 256 % 256)).toNat * 256 +
      (UInt8.ofNat (byteLen keyId % 256)).toNat = byteLen keyId := by
    rw [toNat_ofNat_of_lt (by omega), toNat_ofNat_of_lt (by omega)]
    omega
  rw [beBytes_two, List.append_assoc, List.cons_append, List.singleton_append]
  simp only [decodeParts, hlen]
  rw [if_neg (by unfold maxCallerKeyIdLen; omega),
    if_neg (by rw [List.length_append, signature.property]; exact not_not.mpr rfl)]
  rw [show byteLen keyId = (utf8 keyId).length from rfl, List.take_left, List.drop_left,
    fromUtf8_eq_some.mpr rfl, Bytes.ofSlice?_val]
  rfl

theorem decodeCallerProof_eq_some {proof : List UInt8} {parts : CallerProofParts} :
    decodeCallerProof proof = some parts ↔
      KeyIdAdmitted parts.keyId ∧ proof = encodeCallerProof parts.keyId parts.signature := by
  unfold decodeCallerProof
  simp only [Option.bind_eq_bind, Option.bind_eq_some_iff, stripBytes_eq_some]
  constructor
  · rintro ⟨_, rfl, rest, rfl, h⟩
    obtain ⟨hkey, rfl⟩ := decodeParts_sound h
    exact ⟨hkey, by simp [encodeCallerProof]⟩
  · rintro ⟨hkey, rfl⟩
    refine ⟨_, ?_, _, rfl, decodeParts_complete parts.signature hkey⟩
    simp [encodeCallerProof]

/-- A caller's signature binds every field it covers, and the envelope is read back as it was
written exactly for the admitted key ids. -/
theorem caller_proof_binds :
    (∀ f g : SignedFields, f.canonicalBytes = g.canonicalBytes → f = g) ∧
    (∀ (keyId : String) (signature : Bytes 64),
      decodeCallerProof (encodeCallerProof keyId signature) = some ⟨keyId, signature⟩ ↔
        1 ≤ byteLen keyId ∧ byteLen keyId ≤ 256) ∧
    ∀ (proof : List UInt8) (parts : CallerProofParts), decodeCallerProof proof = some parts →
      proof = encodeCallerProof parts.keyId parts.signature := by
  refine ⟨canonicalBytes_injective, ?_, ?_⟩
  · intro keyId signature
    rw [decodeCallerProof_eq_some, and_iff_left rfl]
    rfl
  · intro proof parts h
    exact (decodeCallerProof_eq_some.mp h).2

/-- A packet that carries the signature of the only registered key is that caller's. -/
theorem verifyCallerProof_of_signed {crates : Crates} {packet : ZenithPacket} {keyId : String}
    {secret : Bytes 32} {now : UInt64} (subjectId : String) (hkey : KeyIdAdmitted keyId)
    (hclock : isClockReadFailure now = false)
    (hproof : packet.proof = encodeCallerProof keyId (crates.sign secret (callerCanonicalBytes
      packet.sessionId packet.nonce packet.opcode packet.claimTtl packet.encryptedPayload))) :
    verifyCallerProof crates packet
        (.fromKeys [.active keyId subjectId (crates.publicKey secret)]) now =
      .ok ⟨subjectId, keyId⟩ := by
  have hdecode : decodeCallerProof packet.proof = some ⟨keyId, crates.sign secret
      (callerCanonicalBytes packet.sessionId packet.nonce packet.opcode packet.claimTtl
        packet.encryptedPayload)⟩ := decodeCallerProof_eq_some.mpr ⟨hkey, hproof⟩
  have hget : (CallerKeyRegistry.fromKeys [.active keyId subjectId (crates.publicKey secret)]).get
      keyId = some (.active keyId subjectId (crates.publicKey secret)) := by
    simp [CallerKeyRegistry.fromKeys, CallerKeyRegistry.insert, CallerKeyRegistry.get,
      CallerKey.active]
  unfold verifyCallerProof
  simp only [hclock, Bool.false_eq_true, if_false]
  refine bind_eq_ok.mpr ⟨_, elim_eq_ok.mpr hdecode, bind_eq_ok.mpr ⟨_, elim_eq_ok.mpr hget, ?_⟩⟩
  refine bind_eq_ok.mpr ⟨(), rfl, ?_⟩
  have hverify := crates.verify_sign secret (callerCanonicalBytes packet.sessionId packet.nonce
    packet.opcode packet.claimTtl packet.encryptedPayload)
  simp [CallerKey.active, hverify]

end CallerProof
