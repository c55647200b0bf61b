import SecsMagik.IngressGateway

/-! # Sealed envelopes

Two formats share one outer layout: a header with the expiry and the recipient's key id, which the
cipher authenticates, and a ciphertext after its length. They differ in their magic bytes, in the
label of the session and in the payload inside.
-/
namespace SealedEnvelopes

open RustStd
open Bincode (leBytes ofLeBytes ofLeBytes_leBytes)
open ExternalCrates (Crates)
open CallerProof (u64Be)
open IngressGateway (tunnelPublicKeyId deriveTunnelKeyHkdf)
open WireCodec

/-- What the cipher and the key agreement do for each other's ends. -/
structure Aead (crates : Crates) where
  /-- `ChaCha20Poly1305::encrypt` for key, nonce, plaintext and associated data -/
  encrypt : Bytes 32 → Bytes 12 → List UInt8 → List UInt8 → List UInt8
  decrypt_encrypt : ∀ key nonce plaintext aad,
    crates.decrypt key nonce (encrypt key nonce plaintext aad) aad = some plaintext
  length_encrypt : ∀ key nonce plaintext aad,
    (encrypt key nonce plaintext aad).length = plaintext.length + 16
  commutes : ∀ a b, crates.diffieHellman a (crates.x25519PublicKey b) =
    crates.diffieHellman b (crates.x25519PublicKey a)

/-! ## Bytes -/

def u32Be (n : ℕ) : List UInt8 := (leBytes 4 n).reverse

def ofBe (bytes : List UInt8) : ℕ := ofLeBytes bytes.reverse

def isAsciiGraphic (b : UInt8) : Bool := 0x21 ≤ b && b ≤ 0x7e

/-- `slice.try_into()` to an array -/
def tryArray {ε : Type} (n : ℕ) (bytes : List UInt8) (e : ε) : Except (Fault ε) (Bytes n) :=
  (Bytes.ofSlice? n bytes).elim (.error (.error e)) .ok

@[simp] theorem length_u32Be (n : ℕ) : (u32Be n).length = 4 := by simp [u32Be]

@[simp] theorem length_u64Be (n : UInt64) : (u64Be n).length = 8 := by simp [u64Be]

theorem ofBe_u32Be {n : ℕ} (h : n < 2 ^ 32) : ofBe (u32Be n) = n := by
  rw [ofBe, u32Be, List.reverse_reverse, ofLeBytes_leBytes h]

theorem ofBe_u64Be (n : UInt64) : UInt64.ofNat (ofBe (u64Be n)) = n := by
  rw [ofBe, u64Be, List.reverse_reverse, ofLeBytes_leBytes n.toNat_lt, UInt64.ofNat_toNat]

theorem tryArray_val {ε : Type} {n : ℕ} (value : Bytes n) (e : ε) :
    tryArray n value.val e = .ok value := by
  rw [tryArray, Bytes.ofSlice?_val]
  rfl

theorem tryArray_u32Be {ε : Type} (n : ℕ) (e : ε) :
    tryArray 4 (u32Be n) e = .ok ⟨u32Be n, length_u32Be n⟩ := tryArray_val ⟨_, _⟩ e

/-- The front of a payload: magic bytes and two lengths. -/
theorem slice_front {ε : Type} {bytes rest : List UInt8} {magic : Bytes 8} {a b : ℕ}
    (hbytes : magic.val ++ (u32Be a ++ (u32Be b ++ rest)) = bytes) :
    slice (ε := ε) bytes 0 8 = .ok magic.val ∧ slice (ε := ε) bytes 8 12 = .ok (u32Be a) ∧
      slice (ε := ε) bytes 12 16 = .ok (u32Be b) ∧ At bytes 16 rest := by
  have h₀ : At bytes 0 _ := .start hbytes.symm
  have h₁ : At bytes 8 _ := h₀.next magic.property
  have h₂ : At bytes 12 _ := h₁.next (length_u32Be _)
  exact ⟨h₀.slice_of magic.property, h₁.slice_of (length_u32Be _), h₂.slice_of (length_u32Be _),
    h₂.next (length_u32Be _)⟩

/-! ## The outer layout -/

structure Format (ε : Type) where
  magic : Bytes 8
  sessionLabel : List UInt8
  maxCiphertextBytes : ℕ
  malformed : ε
  unsupportedVersion : ε
  wrongRecipient : ε
  expired : ε
  invalidKeyAgreement : ε
  authenticationFailed : ε

structure OpenedEnvelope where
  plaintext : List UInt8
  recipientKeyId : String
  expiresAtMs : UInt64
  deriving DecidableEq

section Outer

variable {ε : Type} (crates : Crates) (format : Format ε)

def sessionId (recipientPublic ephemeralPublic : Bytes 32) (expiresAtMs : UInt64) : Bytes 16 :=
  ⟨(crates.sha256 (format.sessionLabel ++ recipientPublic.val ++ ephemeralPublic.val ++
      u64Be expiresAtMs)).val.take 16, by
    rw [List.length_take, (crates.sha256 _).property]
    rfl⟩

def headerBytes (keyId : String) (ephemeralPublic : Bytes 32) (nonce : Bytes 12)
    (expiresAtMs : UInt64) : List UInt8 :=
  format.magic.val ++ (u64Be expiresAtMs ++ (UInt8.ofNat (byteLen keyId) :: (utf8 keyId ++
    (ephemeralPublic.val ++ nonce.val))))

def header (keyId : String) (ephemeralPublic : Bytes 32) (nonce : Bytes 12) (expiresAtMs : UInt64) :
    Except ε (List UInt8) := do
  rejectIf (utf8 keyId = [] ∨ 255 < byteLen keyId ∨ (utf8 keyId).any (!isAsciiGraphic ·))
    format.malformed
  return headerBytes format keyId ephemeralPublic nonce expiresAtMs

def isZero (shared : Bytes 32) : Bool := shared.val.all (· == 0)

def sealEnvelope (aead : Aead crates) (recipientPublic ephemeralSecret : Bytes 32)
    (nonce : Bytes 12) (payload : Except ε (List UInt8)) (expiresAtMs : UInt64) :
    Except ε (List UInt8) := do
  rejectIf (expiresAtMs = 0) format.malformed
  let ephemeralPublic := crates.x25519PublicKey ephemeralSecret
  let shared := crates.diffieHellman ephemeralSecret recipientPublic
  rejectIf (isZero shared) format.invalidKeyAgreement
  let aad ← header format (tunnelPublicKeyId crates recipientPublic) ephemeralPublic nonce
    expiresAtMs
  let session := sessionId crates format recipientPublic ephemeralPublic expiresAtMs
  let key := deriveTunnelKeyHkdf crates shared session ephemeralPublic recipientPublic
  let plaintext ← payload
  let ciphertext := aead.encrypt key nonce plaintext aad
  rejectIf (format.maxCiphertextBytes < ciphertext.length) format.malformed
  return aad ++ (u32Be ciphertext.length ++ ciphertext)

/-- The source's `checked_add`s stay far below `usize::MAX` here. -/
def openEnvelope (recipientSecret : Bytes 32) (expectedRecipientKeyId : String)
    (envelope : List UInt8) (nowMs : UInt64) : Except (Fault ε) OpenedEnvelope := do
  rejectIf (envelope.length < 8 + 8 + 1 + 32 + 12 + 4 + 16) (.error format.malformed)
  let magic ← slice envelope 0 8
  rejectIf (magic ≠ format.magic.val) (.error format.unsupportedVersion)
  let expiry ← slice envelope 8 16
  let expiry ← tryArray 8 expiry format.malformed
  let expiresAtMs := UInt64.ofNat (ofBe expiry.val)
  rejectIf (nowMs ≥ expiresAtMs) (.error format.expired)
  let keyIdLen ← index envelope 16
  let keyIdEnd := 17 + keyIdLen.toNat
  let ephemeralEnd := keyIdEnd + 32
  let nonceEnd := ephemeralEnd + 12
  let lengthEnd := nonceEnd + 4
  rejectIf (lengthEnd > envelope.length) (.error format.malformed)
  let rawKeyId ← slice envelope 17 keyIdEnd
  let keyId ← (fromUtf8 rawKeyId).elim (.error (.error format.malformed)) .ok
  let recipientPublic := crates.x25519PublicKey recipientSecret
  let actualKeyId := tunnelPublicKeyId crates recipientPublic
  rejectIf (keyId ≠ expectedRecipientKeyId ∨ keyId ≠ actualKeyId) (.error format.wrongRecipient)
  let ephemeral ← slice envelope keyIdEnd ephemeralEnd
  let ephemeralPublic ← tryArray 32 ephemeral format.malformed
  let rawNonce ← slice envelope ephemeralEnd nonceEnd
  let nonce ← tryArray 12 rawNonce format.malformed
  let rawLength ← slice envelope nonceEnd lengthEnd
  let length ← tryArray 4 rawLength format.malformed
  let ciphertextLen := ofBe length.val
  rejectIf (ciphertextLen > format.maxCiphertextBytes ∨
    envelope.length ≠ lengthEnd + ciphertextLen) (.error format.malformed)
  let shared := crates.diffieHellman recipientSecret ephemeralPublic
  rejectIf (isZero shared) (.error format.invalidKeyAgreement)
  let session := sessionId crates format recipientPublic ephemeralPublic expiresAtMs
  let key := deriveTunnelKeyHkdf crates shared session ephemeralPublic recipientPublic
  let ciphertext ← slice envelope lengthEnd envelope.length
  let aad ← slice envelope 0 nonceEnd
  let plaintext ← (crates.decrypt key nonce ciphertext aad).elim
    (.error (.error format.authenticationFailed)) .ok
  return ⟨plaintext, actualKeyId, expiresAtMs⟩

theorem sealEnvelope_eq_ok {aead : Aead crates} {recipientPublic ephemeralSecret : Bytes 32}
    {nonce : Bytes 12} {payload : Except ε (List UInt8)} {expiresAtMs : UInt64}
    {envelope : List UInt8}
    (h : sealEnvelope crates format aead recipientPublic ephemeralSecret nonce payload expiresAtMs =
      .ok envelope) :
    let keyId := tunnelPublicKeyId crates recipientPublic
    let ephemeralPublic := crates.x25519PublicKey ephemeralSecret
    let shared := crates.diffieHellman ephemeralSecret recipientPublic
    let aad := headerBytes format keyId ephemeralPublic nonce expiresAtMs
    let key := deriveTunnelKeyHkdf crates shared
      (sessionId crates format recipientPublic ephemeralPublic expiresAtMs) ephemeralPublic
      recipientPublic
    isZero shared = false ∧ byteLen keyId ≤ 255 ∧ ∃ plaintext, payload = .ok plaintext ∧
      plaintext.length + 16 ≤ format.maxCiphertextBytes ∧
      envelope = aad ++ (u32Be (plaintext.length + 16) ++
        aead.encrypt key nonce plaintext aad) := by
  simp only [sealEnvelope, header, bind_eq_ok, rejectIf_eq_ok, exists_and_right, exists_const,
    not_or, Bool.not_eq_true, pure, Except.pure, Except.ok.injEq, aead.length_encrypt, not_lt] at h
  obtain ⟨-, hshared, aad, ⟨⟨-, hlen, -⟩, rfl⟩, plaintext, hpayload, hfits, rfl⟩ := h
  exact ⟨hshared, hlen, plaintext, hpayload, hfits, rfl⟩

theorem length_headerBytes (keyId : String) (ephemeralPublic : Bytes 32) (nonce : Bytes 12)
    (expiresAtMs : UInt64) :
    (headerBytes format keyId ephemeralPublic nonce expiresAtMs).length = 61 + byteLen keyId := by
  simp only [headerBytes, List.length_append, List.length_cons, length_u64Be, format.magic.property,
    ephemeralPublic.property, nonce.property, byteLen]
  omega

theorem openEnvelope_parts {recipientSecret : Bytes 32} {keyId : String}
    {ephemeralPublic : Bytes 32} {nonce : Bytes 12} {expiresAtMs nowMs : UInt64}
    {ciphertext plaintext : List UInt8}
    (hid : keyId = tunnelPublicKeyId crates (crates.x25519PublicKey recipientSecret))
    (hshort : byteLen keyId ≤ 255) (hnow : nowMs < expiresAtMs)
    (hfits : ciphertext.length ≤ format.maxCiphertextBytes)
    (hword : format.maxCiphertextBytes < 2 ^ 32) (htag : 16 ≤ ciphertext.length)
    (hshared : isZero (crates.diffieHellman recipientSecret ephemeralPublic) = false)
    (hplain : crates.decrypt
      (deriveTunnelKeyHkdf crates (crates.diffieHellman recipientSecret ephemeralPublic)
        (sessionId crates format (crates.x25519PublicKey recipientSecret) ephemeralPublic
          expiresAtMs) ephemeralPublic (crates.x25519PublicKey recipientSecret))
      nonce ciphertext (headerBytes format keyId ephemeralPublic nonce expiresAtMs) =
        some plaintext) :
    openEnvelope crates format recipientSecret keyId
        (headerBytes format keyId ephemeralPublic nonce expiresAtMs ++
          (u32Be ciphertext.length ++ ciphertext)) nowMs =
      .ok ⟨plaintext, keyId, expiresAtMs⟩ := by
  generalize henvelope : headerBytes format keyId ephemeralPublic nonce expiresAtMs ++
    (u32Be ciphertext.length ++ ciphertext) = envelope
  have hheader := length_headerBytes format keyId ephemeralPublic nonce expiresAtMs
  have hlen : envelope.length = 65 + byteLen keyId + ciphertext.length := by
    rw [← henvelope]
    simp only [List.length_append, hheader, length_u32Be]
    omega
  have hbyte : (UInt8.ofNat (byteLen keyId)).toNat = byteLen keyId :=
    toNat_ofNat_of_lt (by omega)
  have hbyteLen : (utf8 keyId).length = byteLen keyId := rfl
  have hmagic := format.magic.property
  have hephemeral := ephemeralPublic.property
  have hnonce := nonce.property
  have hlayout : envelope = format.magic.val ++ (u64Be expiresAtMs ++
      ([UInt8.ofNat (byteLen keyId)] ++ (utf8 keyId ++ (ephemeralPublic.val ++ (nonce.val ++
        (u32Be ciphertext.length ++ ciphertext)))))) := by
    rw [← henvelope]
    simp [headerBytes]
  -- what remains behind each part
  have h₀ : At envelope 0 _ := .start hlayout
  have h₁ : At envelope 8 _ := h₀.next hmagic
  have h₂ : At envelope 16 _ := h₁.next (length_u64Be _)
  have h₃ : At envelope 17 _ := h₂.next rfl
  have h₄ : At envelope (17 + byteLen keyId) _ := h₃.next hbyteLen
  have h₅ : At envelope (17 + byteLen keyId + 32) _ := h₄.next hephemeral
  have h₆ : At envelope (17 + byteLen keyId + 32 + 12) _ := h₅.next hnonce
  have h₇ : At envelope (17 + byteLen keyId + 32 + 12 + 4) _ := h₆.next (length_u32Be _)
  have hs₁ : slice (ε := ε) envelope 0 8 = .ok format.magic.val := h₀.slice_of hmagic
  have hs₂ : slice (ε := ε) envelope 8 16 = .ok (u64Be expiresAtMs) :=
    h₁.slice_of (length_u64Be _)
  have hi : index (ε := ε) envelope 16 = .ok (UInt8.ofNat (byteLen keyId)) := h₂.index
  have hs₃ : slice (ε := ε) envelope 17 _ = _ := h₃.slice_of hbyteLen
  have hs₄ : slice (ε := ε) envelope _ _ = _ := h₄.slice_of hephemeral
  have hs₅ : slice (ε := ε) envelope _ _ = _ := h₅.slice_of hnonce
  have hs₆ : slice (ε := ε) envelope _ _ = _ := h₆.slice_of (length_u32Be _)
  have hs₇ : slice (ε := ε) envelope _ _ = .ok ciphertext := h₇.slice_rest
  have hs₈ : slice (ε := ε) envelope 0 (17 + byteLen keyId + 32 + 12) =
      .ok (headerBytes format keyId ephemeralPublic nonce expiresAtMs) := by
    have hstart : At envelope 0 _ := .start henvelope.symm
    have hslice := hstart.slice_of (ε := ε) hheader
    rwa [show 0 + (61 + byteLen keyId) = 17 + byteLen keyId + 32 + 12 by omega] at hslice
  have hexpiry : tryArray 8 (u64Be expiresAtMs) format.malformed =
      .ok ⟨u64Be expiresAtMs, length_u64Be _⟩ := tryArray_val ⟨_, length_u64Be _⟩ _
  have htext : fromUtf8 (utf8 keyId) = some keyId := fromUtf8_eq_some.mpr rfl
  have hlong : ¬ envelope.length < 8 + 8 + 1 + 32 + 12 + 4 + 16 := by omega
  have hroom : ¬ 17 + byteLen keyId + 32 + 12 + 4 > envelope.length := by omega
  have hsize : ¬ (ciphertext.length > format.maxCiphertextBytes ∨
      envelope.length ≠ 17 + byteLen keyId + 32 + 12 + 4 + ciphertext.length) := by omega
  have hword' : ciphertext.length < 2 ^ 32 := by omega
  have hlive : ¬ nowMs ≥ expiresAtMs := UInt64.not_le.mpr hnow
  have hrecipient : ¬ (keyId ≠ keyId ∨
      keyId ≠ tunnelPublicKeyId crates (crates.x25519PublicKey recipientSecret)) := by simp [← hid]
  have hagreed : ¬ isZero (crates.diffieHellman recipientSecret ephemeralPublic) = true := by
    simp [hshared]
  simp only [openEnvelope, bind_eq_ok, rejectIf_eq_ok, exists_and_right, exists_const, hs₁, hs₂, hi,
    Except.ok.injEq, exists_eq_left', hexpiry, hbyte, hs₃, htext, Option.elim_some, hs₄,
    tryArray_val, hs₅, hs₆, tryArray_u32Be, ofBe_u64Be, ofBe_u32Be hword', hs₇, hs₈, hplain, pure,
    Except.pure]
  exact ⟨hlong, fun h => h rfl, hlive, hroom, hrecipient, hsize, hagreed, by rw [← hid]⟩

/-- Whoever holds the recipient's secret gets the payload that was sealed. -/
theorem openEnvelope_sealEnvelope {aead : Aead crates} {recipientSecret ephemeralSecret : Bytes 32}
    {nonce : Bytes 12} {payload : Except ε (List UInt8)} {expiresAtMs nowMs : UInt64}
    {envelope : List UInt8} (hword : format.maxCiphertextBytes < 2 ^ 32)
    (h : sealEnvelope crates format aead (crates.x25519PublicKey recipientSecret) ephemeralSecret
      nonce payload expiresAtMs = .ok envelope) (hnow : nowMs < expiresAtMs) :
    ∃ plaintext, payload = .ok plaintext ∧
      openEnvelope crates format recipientSecret
          (tunnelPublicKeyId crates (crates.x25519PublicKey recipientSecret)) envelope nowMs =
        .ok ⟨plaintext, tunnelPublicKeyId crates (crates.x25519PublicKey recipientSecret),
          expiresAtMs⟩ := by
  obtain ⟨hshared, hshort, plaintext, hpayload, hfits, rfl⟩ := sealEnvelope_eq_ok crates format h
  refine ⟨plaintext, hpayload, ?_⟩
  rw [aead.commutes] at hshared
  rw [aead.commutes ephemeralSecret recipientSecret, ← aead.length_encrypt]
  apply openEnvelope_parts crates format rfl hshort hnow
  · rwa [aead.length_encrypt]
  · exact hword
  · rw [aead.length_encrypt]
    omega
  · exact hshared
  · exact aead.decrypt_encrypt _ _ _ _

end Outer

/-! ## Intake -/

inductive IntakeEnvelopeError where
  | malformed | unsupportedVersion | wrongRecipient | expired | invalidKeyAgreement
  | authenticationFailed | intakeTooLarge | evidenceTooLarge
  deriving DecidableEq, Repr

structure OpenedIntakeEnvelope where
  intake : List UInt8
  requesterEvidence : List UInt8
  recipientKeyId : String
  expiresAtMs : UInt64
  deriving DecidableEq

namespace Intake

def maxIntakeBytes : ℕ := 65536
def maxRequesterEvidenceBytes : ℕ := 262144
def maxIntakeCiphertextBytes : ℕ := maxIntakeBytes + maxRequesterEvidenceBytes + 32

/-- `b"SECSI01\0"` -/
def envelopeMagic : Bytes 8 := ⟨[0x53, 0x45, 0x43, 0x53, 0x49, 0x30, 0x31, 0], rfl⟩
/-- `b"SECSIP1\0"` -/
def payloadMagic : Bytes 8 := ⟨[0x53, 0x45, 0x43, 0x53, 0x49, 0x50, 0x31, 0], rfl⟩

def format : Format IntakeEnvelopeError where
  magic := envelopeMagic
  sessionLabel := utf8 "service.intake-envelope.v1/session" ++ [0]
  maxCiphertextBytes := maxIntakeCiphertextBytes
  malformed := .malformed
  unsupportedVersion := .unsupportedVersion
  wrongRecipient := .wrongRecipient
  expired := .expired
  invalidKeyAgreement := .invalidKeyAgreement
  authenticationFailed := .authenticationFailed

def payload (intake evidence : List UInt8) : Except IntakeEnvelopeError (List UInt8) := do
  rejectIf (intake = [] ∨ maxIntakeBytes < intake.length) .intakeTooLarge
  rejectIf (evidence = [] ∨ maxRequesterEvidenceBytes < evidence.length) .evidenceTooLarge
  return payloadMagic.val ++ (u32Be intake.length ++ (u32Be evidence.length ++
    (intake ++ evidence)))

def readPayload (opened : OpenedEnvelope) :
    Except (Fault IntakeEnvelopeError) OpenedIntakeEnvelope := do
  let plaintext := opened.plaintext
  rejectIf (plaintext.length < 16) (.error .malformed)
  let magic ← slice plaintext 0 8
  rejectIf (magic ≠ payloadMagic.val) (.error .malformed)
  let rawIntakeLen ← slice plaintext 8 12
  let intakeLen ← tryArray 4 rawIntakeLen IntakeEnvelopeError.malformed
  let rawEvidenceLen ← slice plaintext 12 16
  let evidenceLen ← tryArray 4 rawEvidenceLen IntakeEnvelopeError.malformed
  let intakeLen := ofBe intakeLen.val
  let evidenceLen := ofBe evidenceLen.val
  rejectIf (intakeLen = 0 ∨ maxIntakeBytes < intakeLen) (.error .intakeTooLarge)
  rejectIf (evidenceLen = 0 ∨ maxRequesterEvidenceBytes < evidenceLen) (.error .evidenceTooLarge)
  rejectIf (plaintext.length ≠ 16 + intakeLen + evidenceLen) (.error .malformed)
  let intake ← slice plaintext 16 (16 + intakeLen)
  let evidence ← slice plaintext (16 + intakeLen) plaintext.length
  return ⟨intake, evidence, opened.recipientKeyId, opened.expiresAtMs⟩

variable {intake evidence bytes : List UInt8}

theorem payload_eq_ok :
    payload intake evidence = .ok bytes ↔
      (intake ≠ [] ∧ intake.length ≤ maxIntakeBytes) ∧
      (evidence ≠ [] ∧ evidence.length ≤ maxRequesterEvidenceBytes) ∧
      payloadMagic.val ++ (u32Be intake.length ++ (u32Be evidence.length ++
        (intake ++ evidence))) = bytes := by
  simp only [payload, bind_eq_ok, rejectIf_eq_ok, exists_and_right, exists_const, not_or, not_lt,
    pure, Except.pure, Except.ok.injEq, ne_eq]

/-- The ciphertext's bound is exact: sixteen bytes of frame and sixteen of tag. -/
theorem length_le_of_payload (h : payload intake evidence = .ok bytes) :
    bytes.length + 16 ≤ maxIntakeCiphertextBytes := by
  obtain ⟨⟨-, hintake⟩, ⟨-, hevidence⟩, rfl⟩ := payload_eq_ok.mp h
  simp only [List.length_append, payloadMagic.property, length_u32Be, maxIntakeCiphertextBytes]
  omega

theorem readPayload_payload {keyId : String} {expiresAtMs : UInt64}
    (h : payload intake evidence = .ok bytes) :
    readPayload ⟨bytes, keyId, expiresAtMs⟩ = .ok ⟨intake, evidence, keyId, expiresAtMs⟩ := by
  obtain ⟨⟨hi, hintake⟩, ⟨he, hevidence⟩, hbytes⟩ := payload_eq_ok.mp h
  have hi' := List.length_pos_of_ne_nil hi
  have he' := List.length_pos_of_ne_nil he
  have hmagic := payloadMagic.property
  have hlen : bytes.length = 16 + intake.length + evidence.length := by
    rw [← hbytes]
    simp only [List.length_append, hmagic, length_u32Be]
    omega
  simp only [maxIntakeBytes] at hintake
  simp only [maxRequesterEvidenceBytes] at hevidence
  obtain ⟨hs₁, hs₂, hs₃, hrest⟩ := slice_front (ε := IntakeEnvelopeError) hbytes
  have hs₄ : slice (ε := IntakeEnvelopeError) bytes 16 _ = .ok intake := hrest.slice
  have hs₅ : slice (ε := IntakeEnvelopeError) bytes _ _ = .ok evidence := hrest.append.slice_rest
  have hw₁ : ofBe (u32Be intake.length) = intake.length := ofBe_u32Be (by omega)
  have hw₂ : ofBe (u32Be evidence.length) = evidence.length := ofBe_u32Be (by omega)
  simp only [readPayload, bind_eq_ok, rejectIf_eq_ok, exists_and_right, exists_const, hs₁, hs₂, hs₃,
    Except.ok.injEq, exists_eq_left', tryArray_u32Be, hw₁, hw₂, hs₄, hs₅, pure, Except.pure,
    and_true, maxIntakeBytes, maxRequesterEvidenceBytes]
  exact ⟨by omega, fun h => h rfl, by omega, by omega, by omega⟩

end Intake

def sealIntakeEnvelopeV1 (crates : Crates) (aead : Aead crates)
    (recipientPublic ephemeralSecret : Bytes 32) (nonce : Bytes 12)
    (intake requesterEvidence : List UInt8) (expiresAtMs : UInt64) :
    Except IntakeEnvelopeError (List UInt8) :=
  sealEnvelope crates Intake.format aead recipientPublic ephemeralSecret nonce
    (Intake.payload intake requesterEvidence) expiresAtMs

def openIntakeEnvelopeV1 (crates : Crates) (recipientSecret : Bytes 32)
    (expectedRecipientKeyId : String) (envelope : List UInt8) (nowMs : UInt64) :
    Except (Fault IntakeEnvelopeError) OpenedIntakeEnvelope := do
  let opened ← openEnvelope crates Intake.format recipientSecret expectedRecipientKeyId envelope
    nowMs
  Intake.readPayload opened

/-! ## Reference objects -/

inductive ReferenceObjectEnvelopeError where
  | malformed | unsupportedVersion | wrongRecipient | expired | invalidKeyAgreement
  | authenticationFailed | objectTooLarge | evidenceTooLarge | digestMismatch
  deriving DecidableEq, Repr

structure OpenedReferenceObjectEnvelope where
  requestId : String
  idempotencyKey : String
  artifactId : String
  contentHash : Bytes 32
  object : List UInt8
  requesterEvidence : List UInt8
  recipientKeyId : String
  expiresAtMs : UInt64
  deriving DecidableEq

namespace ReferenceObject

def maxReferenceObjectBytes : ℕ := 524288
def maxReferenceEvidenceBytes : ℕ := 262144
def maxReferenceIdentifierBytes : ℕ := 128
def maxReferencePayloadBytes : ℕ :=
  8 + 4 + 4 + 32 + 3 * (1 + maxReferenceIdentifierBytes) + maxReferenceObjectBytes +
    maxReferenceEvidenceBytes
def maxReferenceObjectCiphertextBytes : ℕ := maxReferencePayloadBytes + 16

/-- `b"SECSR01\0"` -/
def envelopeMagic : Bytes 8 := ⟨[0x53, 0x45, 0x43, 0x53, 0x52, 0x30, 0x31, 0], rfl⟩
/-- `b"SECSRP1\0"` -/
def payloadMagic : Bytes 8 := ⟨[0x53, 0x45, 0x43, 0x53, 0x52, 0x50, 0x31, 0], rfl⟩

def format : Format ReferenceObjectEnvelopeError where
  magic := envelopeMagic
  sessionLabel := utf8 "service.reference-object-envelope.v1/session" ++ [0]
  maxCiphertextBytes := maxReferenceObjectCiphertextBytes
  malformed := .malformed
  unsupportedVersion := .unsupportedVersion
  wrongRecipient := .wrongRecipient
  expired := .expired
  invalidKeyAgreement := .invalidKeyAgreement
  authenticationFailed := .authenticationFailed

def identifier (value : String) : Except ReferenceObjectEnvelopeError (List UInt8) := do
  rejectIf (utf8 value = [] ∨ maxReferenceIdentifierBytes < byteLen value ∨
    (utf8 value).any (!isAsciiGraphic ·)) .malformed
  return utf8 value

def item (value : String) : List UInt8 := UInt8.ofNat (byteLen value) :: utf8 value

def payload (crates : Crates) (requestId idempotencyKey artifactId : String)
    (contentHash : Bytes 32) (object evidence : List UInt8) :
    Except ReferenceObjectEnvelopeError (List UInt8) := do
  rejectIf (object = [] ∨ maxReferenceObjectBytes < object.length) .objectTooLarge
  rejectIf (evidence = [] ∨ maxReferenceEvidenceBytes < evidence.length) .evidenceTooLarge
  rejectIf (crates.sha256 object ≠ contentHash) .digestMismatch
  let _ ← identifier requestId
  let _ ← identifier idempotencyKey
  let _ ← identifier artifactId
  return payloadMagic.val ++ (u32Be object.length ++ (u32Be evidence.length ++ (contentHash.val ++
    (item requestId ++ (item idempotencyKey ++ (item artifactId ++ (object ++ evidence)))))))

/-- `bytes.get(start..stop)` -/
def getRange (bytes : List UInt8) (start stop : ℕ) : Option (List UInt8) :=
  if start ≤ stop ∧ stop ≤ bytes.length then some ((bytes.drop start).take (stop - start)) else none

/-- One turn of the loop over the three identifiers: the value and the cursor behind it. -/
def readIdentifier (plaintext : List UInt8) (cursor : ℕ) :
    Except (Fault ReferenceObjectEnvelopeError) (String × ℕ) := do
  let length ← plaintext[cursor]?.elim (.error (.error .malformed)) .ok
  let start := cursor + 1
  let stop := start + length.toNat
  let raw ← (getRange plaintext start stop).elim (.error (.error .malformed)) .ok
  let value ← (fromUtf8 raw).elim (.error (.error .malformed)) .ok
  let _ ← (identifier value).mapError Fault.error
  return (value, stop)

def readPayload (crates : Crates) (opened : OpenedEnvelope) :
    Except (Fault ReferenceObjectEnvelopeError) OpenedReferenceObjectEnvelope := do
  let plaintext := opened.plaintext
  rejectIf (plaintext.length < 8 + 4 + 4 + 32 + 3) (.error .malformed)
  let magic ← slice plaintext 0 8
  rejectIf (magic ≠ payloadMagic.val) (.error .malformed)
  let rawObjectLen ← slice plaintext 8 12
  let objectLen ← tryArray 4 rawObjectLen ReferenceObjectEnvelopeError.malformed
  let rawEvidenceLen ← slice plaintext 12 16
  let evidenceLen ← tryArray 4 rawEvidenceLen ReferenceObjectEnvelopeError.malformed
  let rawHash ← slice plaintext 16 48
  let contentHash ← tryArray 32 rawHash ReferenceObjectEnvelopeError.malformed
  let objectLen := ofBe objectLen.val
  let evidenceLen := ofBe evidenceLen.val
  rejectIf (objectLen = 0 ∨ maxReferenceObjectBytes < objectLen) (.error .objectTooLarge)
  rejectIf (evidenceLen = 0 ∨ maxReferenceEvidenceBytes < evidenceLen) (.error .evidenceTooLarge)
  let (requestId, cursor) ← readIdentifier plaintext 48
  let (idempotencyKey, cursor) ← readIdentifier plaintext cursor
  let (artifactId, cursor) ← readIdentifier plaintext cursor
  let objectEnd := cursor + objectLen
  rejectIf (objectEnd + evidenceLen ≠ plaintext.length) (.error .malformed)
  let object ← slice plaintext cursor objectEnd
  rejectIf (crates.sha256 object ≠ contentHash) (.error .digestMismatch)
  let evidence ← slice plaintext objectEnd plaintext.length
  return ⟨requestId, idempotencyKey, artifactId, contentHash, object, evidence,
    opened.recipientKeyId, opened.expiresAtMs⟩

def IsIdentifier (value : String) : Prop :=
  utf8 value ≠ [] ∧ byteLen value ≤ maxReferenceIdentifierBytes ∧
    (utf8 value).any (!isAsciiGraphic ·) = false

theorem identifier_eq_ok {value : String} {raw : List UInt8} :
    identifier value = .ok raw ↔ IsIdentifier value ∧ utf8 value = raw := by
  simp only [identifier, bind_eq_ok, rejectIf_eq_ok, exists_and_right, exists_const, not_or, not_lt,
    Bool.not_eq_true, pure, Except.pure, Except.ok.injEq, IsIdentifier, ne_eq]

theorem length_item (value : String) : (item value).length = 1 + byteLen value := by
  rw [item, List.length_cons, byteLen, Nat.add_comm]

variable {requestId idempotencyKey artifactId : String} {object evidence bytes : List UInt8}

theorem payload_eq_ok {crates : Crates} {contentHash : Bytes 32} :
    payload crates requestId idempotencyKey artifactId contentHash object evidence = .ok bytes ↔
      (object ≠ [] ∧ object.length ≤ maxReferenceObjectBytes) ∧
      (evidence ≠ [] ∧ evidence.length ≤ maxReferenceEvidenceBytes) ∧
      crates.sha256 object = contentHash ∧ IsIdentifier requestId ∧ IsIdentifier idempotencyKey ∧
      IsIdentifier artifactId ∧
      payloadMagic.val ++ (u32Be object.length ++ (u32Be evidence.length ++ (contentHash.val ++
        (item requestId ++ (item idempotencyKey ++ (item artifactId ++ (object ++ evidence))))))) =
          bytes := by
  simp only [payload, bind_eq_ok, rejectIf_eq_ok, identifier_eq_ok, exists_and_right,
    exists_and_left, exists_const, exists_eq', and_true, not_or, not_lt, not_not, pure, Except.pure,
    Except.ok.injEq, ne_eq]

theorem length_le_of_payload {crates : Crates} {contentHash : Bytes 32}
    (h : payload crates requestId idempotencyKey artifactId contentHash object evidence =
      .ok bytes) : bytes.length + 16 ≤ maxReferenceObjectCiphertextBytes := by
  obtain ⟨⟨-, hobject⟩, ⟨-, hevidence⟩, -, hrequest, hkey, hartifact, rfl⟩ := payload_eq_ok.mp h
  have h₁ := hrequest.2.1
  have h₂ := hkey.2.1
  have h₃ := hartifact.2.1
  simp only [List.length_append, payloadMagic.property, length_u32Be, contentHash.property,
    length_item, maxReferenceObjectCiphertextBytes, maxReferencePayloadBytes]
  omega

theorem readIdentifier_item {plaintext rest : List UInt8} {value : String} {cursor : ℕ}
    (hvalue : IsIdentifier value) (h : At plaintext cursor (item value ++ rest)) :
    readIdentifier plaintext cursor = .ok (value, cursor + 1 + byteLen value) ∧
      At plaintext (cursor + 1 + byteLen value) rest := by
  have hshort : byteLen value ≤ 128 := hvalue.2.1
  have hbyte : (UInt8.ofNat (byteLen value)).toNat = byteLen value := toNat_ofNat_of_lt (by omega)
  have hget : plaintext[cursor]? = some (UInt8.ofNat (byteLen value)) := h.get
  have hvalueAt : At plaintext (cursor + 1) (utf8 value ++ rest) := h.tail
  obtain ⟨hle, hstop, hpart⟩ := slice_eq_ok.mp
    (hvalueAt.slice_of (ε := ReferenceObjectEnvelopeError) (n := byteLen value) rfl)
  have hrange : getRange plaintext (cursor + 1) (cursor + 1 + byteLen value) =
      some (utf8 value) := by
    rw [getRange, if_pos ⟨hle, hstop⟩, hpart]
  have htext : fromUtf8 (utf8 value) = some value := fromUtf8_eq_some.mpr rfl
  have hidentifier : identifier value = .ok (utf8 value) := identifier_eq_ok.mpr ⟨hvalue, rfl⟩
  refine ⟨?_, hvalueAt.next rfl⟩
  simp only [readIdentifier, hget, Option.elim_some, hbyte, hrange, htext, hidentifier,
    Except.mapError, bind, Except.bind, pure, Except.pure]

theorem readPayload_payload {crates : Crates} {contentHash : Bytes 32} {keyId : String}
    {expiresAtMs : UInt64}
    (h : payload crates requestId idempotencyKey artifactId contentHash object evidence =
      .ok bytes) :
    readPayload crates ⟨bytes, keyId, expiresAtMs⟩ = .ok ⟨requestId, idempotencyKey, artifactId,
      contentHash, object, evidence, keyId, expiresAtMs⟩ := by
  obtain ⟨⟨ho, hobject⟩, ⟨he, hevidence⟩, hdigest, hrequest, hkey, hartifact, hbytes⟩ :=
    payload_eq_ok.mp h
  have ho' := List.length_pos_of_ne_nil ho
  have he' := List.length_pos_of_ne_nil he
  have hmagic := payloadMagic.property
  have hhash := contentHash.property
  have hlen : bytes.length = 51 + byteLen requestId + byteLen idempotencyKey + byteLen artifactId +
      object.length + evidence.length := by
    rw [← hbytes]
    simp only [List.length_append, hmagic, length_u32Be, hhash, length_item]
    omega
  simp only [maxReferenceObjectBytes] at hobject
  simp only [maxReferenceEvidenceBytes] at hevidence
  obtain ⟨hs₁, hs₂, hs₃, hrest⟩ := slice_front (ε := ReferenceObjectEnvelopeError) hbytes
  have hs₄ : slice (ε := ReferenceObjectEnvelopeError) bytes 16 48 = _ := hrest.slice_of hhash
  obtain ⟨hr₁, hrest⟩ := readIdentifier_item hrequest (hrest.next hhash)
  obtain ⟨hr₂, hrest⟩ := readIdentifier_item hkey hrest
  obtain ⟨hr₃, hrest⟩ := readIdentifier_item hartifact hrest
  have hs₅ : slice (ε := ReferenceObjectEnvelopeError) bytes _ _ = .ok object := hrest.slice
  have hs₆ : slice (ε := ReferenceObjectEnvelopeError) bytes _ _ = .ok evidence :=
    hrest.append.slice_rest
  have hw₁ : ofBe (u32Be object.length) = object.length := ofBe_u32Be (by omega)
  have hw₂ : ofBe (u32Be evidence.length) = evidence.length := ofBe_u32Be (by omega)
  simp only [readPayload, bind_eq_ok, rejectIf_eq_ok, exists_and_right, exists_const, hs₁, hs₂, hs₃,
    hs₄, Except.ok.injEq, exists_eq_left', tryArray_u32Be, hw₁, hw₂, tryArray_val, hr₁, hr₂, hr₃,
    hs₅, hs₆, pure, Except.pure, and_true, maxReferenceObjectBytes, maxReferenceEvidenceBytes]
  exact ⟨by omega, fun h => h rfl, by omega, by omega, by omega, fun h => h hdigest⟩

end ReferenceObject

def sealReferenceObjectEnvelopeV1 (crates : Crates) (aead : Aead crates)
    (recipientPublic ephemeralSecret : Bytes 32) (nonce : Bytes 12)
    (requestId idempotencyKey artifactId : String) (contentHash : Bytes 32)
    (object requesterEvidence : List UInt8) (expiresAtMs : UInt64) :
    Except ReferenceObjectEnvelopeError (List UInt8) :=
  sealEnvelope crates ReferenceObject.format aead recipientPublic ephemeralSecret nonce
    (ReferenceObject.payload crates requestId idempotencyKey artifactId contentHash object
      requesterEvidence) expiresAtMs

def openReferenceObjectEnvelopeV1 (crates : Crates) (recipientSecret : Bytes 32)
    (expectedRecipientKeyId : String) (envelope : List UInt8) (nowMs : UInt64) :
    Except (Fault ReferenceObjectEnvelopeError) OpenedReferenceObjectEnvelope := do
  let opened ← openEnvelope crates ReferenceObject.format recipientSecret expectedRecipientKeyId
    envelope nowMs
  ReferenceObject.readPayload crates opened

/-! ## Round trips -/

/-- In both formats, what was sealed before its expiry opens to exactly the sealed fields, and no
payload that is accepted has a ciphertext past the bound that is checked after the encryption. -/
theorem sealed_envelopes_round_trip (crates : Crates) (aead : Aead crates)
    (recipientSecret ephemeralSecret : Bytes 32) (nonce : Bytes 12) (expiresAtMs nowMs : UInt64)
    (hnow : nowMs < expiresAtMs) :
    let recipientPublic := crates.x25519PublicKey recipientSecret
    let keyId := tunnelPublicKeyId crates recipientPublic
    (∀ intake evidence envelope,
      sealIntakeEnvelopeV1 crates aead recipientPublic ephemeralSecret nonce intake evidence
        expiresAtMs = .ok envelope →
      openIntakeEnvelopeV1 crates recipientSecret keyId envelope nowMs =
        .ok ⟨intake, evidence, keyId, expiresAtMs⟩) ∧
    (∀ intake evidence plaintext key aad, Intake.payload intake evidence = .ok plaintext →
      (aead.encrypt key nonce plaintext aad).length ≤ Intake.maxIntakeCiphertextBytes) ∧
    (∀ requestId idempotencyKey artifactId contentHash object evidence envelope,
      sealReferenceObjectEnvelopeV1 crates aead recipientPublic ephemeralSecret nonce requestId
        idempotencyKey artifactId contentHash object evidence expiresAtMs = .ok envelope →
      openReferenceObjectEnvelopeV1 crates recipientSecret keyId envelope nowMs =
        .ok ⟨requestId, idempotencyKey, artifactId, contentHash, object, evidence, keyId,
          expiresAtMs⟩) ∧
    ∀ requestId idempotencyKey artifactId contentHash object evidence plaintext key aad,
      ReferenceObject.payload crates requestId idempotencyKey artifactId contentHash object
        evidence = .ok plaintext →
      (aead.encrypt key nonce plaintext aad).length ≤
        ReferenceObject.maxReferenceObjectCiphertextBytes := by
  intro recipientPublic keyId
  refine ⟨?_, ?_, ?_, ?_⟩
  · intro intake evidence envelope hsealed
    obtain ⟨plaintext, hpayload, hopened⟩ :=
      openEnvelope_sealEnvelope crates Intake.format (by decide) hsealed hnow
    exact bind_eq_ok.mpr ⟨_, hopened, Intake.readPayload_payload hpayload⟩
  · intro intake evidence plaintext key aad hpayload
    rw [aead.length_encrypt]
    exact Intake.length_le_of_payload hpayload
  · intro requestId idempotencyKey artifactId contentHash object evidence envelope hsealed
    obtain ⟨plaintext, hpayload, hopened⟩ :=
      openEnvelope_sealEnvelope crates ReferenceObject.format (by decide) hsealed hnow
    exact bind_eq_ok.mpr ⟨_, hopened, ReferenceObject.readPayload_payload hpayload⟩
  · intro requestId idempotencyKey artifactId contentHash object evidence plaintext key aad hpayload
    rw [aead.length_encrypt]
    exact ReferenceObject.length_le_of_payload hpayload

namespace Sample

/-- Stand-ins: a tag of sixteen zeros and one shared secret for all. -/
def tagging : Crates :=
  { Crates.transparent with
    diffieHellman := fun _ _ => .filled 32 1
    decrypt := fun _ _ ciphertext _ => some (ciphertext.take (ciphertext.length - 16)) }

def aead : Aead tagging where
  encrypt _ _ plaintext _ := plaintext ++ List.replicate 16 0
  decrypt_encrypt := fun _ _ _ _ => by simp [tagging]
  length_encrypt := fun _ _ _ _ => by simp
  commutes := fun _ _ => rfl

def object : List UInt8 := [4, 5]

theorem intake_sealed : (sealIntakeEnvelopeV1 tagging aead (tagging.x25519PublicKey (.filled 32 7))
    (.filled 32 8) (.filled 12 9) [1] [2, 3] 2000).isOk = true := by
  decide +kernel

theorem object_sealed : (sealReferenceObjectEnvelopeV1 tagging aead
    (tagging.x25519PublicKey (.filled 32 7)) (.filled 32 8) (.filled 12 9) "r" "i" "a"
    (tagging.sha256 object) object [6] 2000).isOk = true := by
  decide +kernel

theorem exists_of_isOk {ε α : Type} {x : Except ε α} (h : x.isOk = true) : ∃ a, x = .ok a := by
  cases x with
  | error e => cases h
  | ok a => exact ⟨a, rfl⟩

/-- A small intake and a small object are sealed and opened. -/
theorem sample_envelopes_round_trip :
    let keyId := tunnelPublicKeyId tagging (tagging.x25519PublicKey (.filled 32 7))
    (∃ envelope, sealIntakeEnvelopeV1 tagging aead (tagging.x25519PublicKey (.filled 32 7))
        (.filled 32 8) (.filled 12 9) [1] [2, 3] 2000 = .ok envelope ∧
      openIntakeEnvelopeV1 tagging (.filled 32 7) keyId envelope 1999 =
        .ok ⟨[1], [2, 3], keyId, 2000⟩) ∧
    ∃ envelope, sealReferenceObjectEnvelopeV1 tagging aead
        (tagging.x25519PublicKey (.filled 32 7)) (.filled 32 8) (.filled 12 9) "r" "i" "a"
        (tagging.sha256 object) object [6] 2000 = .ok envelope ∧
      openReferenceObjectEnvelopeV1 tagging (.filled 32 7) keyId envelope 1999 =
        .ok ⟨"r", "i", "a", tagging.sha256 object, object, [6], keyId, 2000⟩ := by
  obtain ⟨hintake, -, hobject, -⟩ := sealed_envelopes_round_trip tagging aead (.filled 32 7)
    (.filled 32 8) (.filled 12 9) 2000 1999 (by decide)
  obtain ⟨first, hfirst⟩ := exists_of_isOk intake_sealed
  obtain ⟨second, hsecond⟩ := exists_of_isOk object_sealed
  exact ⟨⟨first, hfirst, hintake _ _ _ hfirst⟩, second, hsecond, hobject _ _ _ _ _ _ _ hsecond⟩

end Sample

end SealedEnvelopes
