import SecsMagik.Bincode
import SecsMagik.ExternalCrates

/-! # Verified call contexts

The result of verification, as the verifier signs it and the router checks it again.
-/
namespace CallContext

open RustStd
open ExternalCrates (Crates)

inductive VerificationError where
  | malformedPacket | expiredClaim | claimTtlExceedsDescriptorMax | invalidSession
  | missingPrototypeProofEnvelope | badPrototypeProofEnvelope | missingTunnelKey | badMac
  | unknownOperation | handlerUnavailable | prototypeOperationNotProductionAuthorized
  | wrongAudience | wrongSubject | wrongOrigin | wrongOperation | wrongResource
  | resourceLockViolation | authorityAmplification | insufficientEvidence | invalidPresentation
  | invalidSignature | notYetValidClaim | unsupportedSignatureSuite | unknownIssuer
  | wrongIssuerKey | wrongTrustRoot | wrongRegistryRoot | wrongRoot | wrongEpoch | stale
  | revoked | notFinal | equivocated | malformedDreggAuthority | unsupportedSuite
  | wrongBinding | missingStatus | missingRevocationRoot | wrongRevocationRoot
  | unsupportedRevocationVerifier | unsupportedBlsThresholdFinality
  | unsupportedRotatedReplayVerifier | missingLiveDreggVerifier
  | missingLiveDreggRevocationVerifier | missingLiveDreggBlsThresholdVerifier
  | missingLiveDreggRotatedReplayVerifier | evidenceTierTooWeak | unsupportedEvidenceKind
  | unsupportedEvidenceTier | unsupportedAuthorityMode | authorityModeDowngrade
  | reservedAuthorityMode | staleDreggRevocationRoot | invalidDreggRevocationProof
  | invalidDreggFinalityQc | unsupportedDreggFinalityCommittee | invalidDreggRotatedProof
  | invalidAdmission | revokedIssuer | revokedCredential | staleRegistryStatus
  | unknownVerifierKey | revokedVerifierKey | expiredVerifierKey | notYetValidVerifierKey
  | untrustedVerifierKey | badCallerProof | unknownCallerKey | revokedCallerKey
  | expiredCallerKey | notYetValidCallerKey | missingCallerRegistry | privacyPolicyViolation
  | overDisclosedPresentation | forbiddenFieldPresent | internalError
  deriving DecidableEq, Repr

def VerificationError.reasonCode : VerificationError → String
  | .malformedPacket => "malformed_packet"
  | .expiredClaim => "expired_claim"
  | .claimTtlExceedsDescriptorMax => "claim_ttl_exceeds_descriptor_max"
  | .invalidSession => "invalid_session"
  | .missingPrototypeProofEnvelope => "missing_prototype_proof_envelope"
  | .badPrototypeProofEnvelope => "bad_prototype_proof_envelope"
  | .missingTunnelKey => "missing_tunnel_key"
  | .badMac => "bad_mac"
  | .unknownOperation => "unknown_operation"
  | .handlerUnavailable => "handler_unavailable"
  | .prototypeOperationNotProductionAuthorized => "prototype_operation_not_production_authorized"
  | .wrongAudience => "wrong_audience"
  | .wrongSubject => "wrong_subject"
  | .wrongOrigin => "wrong_origin"
  | .wrongOperation => "wrong_operation"
  | .wrongResource => "wrong_resource"
  | .resourceLockViolation => "resource_lock_violation"
  | .authorityAmplification => "authority_amplification"
  | .insufficientEvidence => "insufficient_evidence"
  | .invalidPresentation => "invalid_presentation"
  | .invalidSignature => "invalid_signature"
  | .notYetValidClaim => "not_yet_valid_claim"
  | .unsupportedSignatureSuite => "unsupported_signature_suite"
  | .unknownIssuer => "unknown_issuer"
  | .wrongIssuerKey => "wrong_issuer_key"
  | .wrongTrustRoot => "wrong_trust_root"
  | .wrongRegistryRoot => "wrong_registry_root"
  | .wrongRoot => "wrong_root"
  | .wrongEpoch => "wrong_epoch"
  | .stale => "stale"
  | .revoked => "revoked"
  | .notFinal => "not_final"
  | .equivocated => "equivocated"
  | .malformedDreggAuthority => "malformed"
  | .unsupportedSuite => "unsupported_suite"
  | .wrongBinding => "wrong_binding"
  | .missingStatus => "missing_status"
  | .missingRevocationRoot => "missing_revocation_root"
  | .wrongRevocationRoot => "wrong_revocation_root"
  | .unsupportedRevocationVerifier => "unsupported_revocation_verifier"
  | .unsupportedBlsThresholdFinality => "unsupported_bls_threshold_finality"
  | .unsupportedRotatedReplayVerifier => "unsupported_rotated_replay_verifier"
  | .missingLiveDreggVerifier => "missing_live_dregg_verifier"
  | .missingLiveDreggRevocationVerifier => "missing_live_dregg_revocation_verifier"
  | .missingLiveDreggBlsThresholdVerifier => "missing_live_dregg_bls_threshold_verifier"
  | .missingLiveDreggRotatedReplayVerifier => "missing_live_dregg_rotated_replay_verifier"
  | .evidenceTierTooWeak => "evidence_tier_too_weak"
  | .unsupportedEvidenceKind => "unsupported_evidence_kind"
  | .unsupportedEvidenceTier => "unsupported_evidence_tier"
  | .unsupportedAuthorityMode => "unsupported_authority_mode"
  | .authorityModeDowngrade => "authority_mode_downgrade"
  | .reservedAuthorityMode => "reserved_authority_mode"
  | .staleDreggRevocationRoot => "stale_dregg_revocation_root"
  | .invalidDreggRevocationProof => "invalid_dregg_revocation_proof"
  | .invalidDreggFinalityQc => "invalid_dregg_finality_qc"
  | .unsupportedDreggFinalityCommittee => "unsupported_dregg_finality_committee"
  | .invalidDreggRotatedProof => "invalid_dregg_rotated_proof"
  | .invalidAdmission => "invalid_admission"
  | .revokedIssuer => "revoked_issuer"
  | .revokedCredential => "revoked_credential"
  | .staleRegistryStatus => "stale_registry_status"
  | .unknownVerifierKey => "unknown_verifier_key"
  | .revokedVerifierKey => "revoked_verifier_key"
  | .expiredVerifierKey => "expired_verifier_key"
  | .notYetValidVerifierKey => "not_yet_valid_verifier_key"
  | .untrustedVerifierKey => "untrusted_verifier_key"
  | .badCallerProof => "bad_caller_proof"
  | .unknownCallerKey => "unknown_caller_key"
  | .revokedCallerKey => "revoked_caller_key"
  | .expiredCallerKey => "expired_caller_key"
  | .notYetValidCallerKey => "not_yet_valid_caller_key"
  | .missingCallerRegistry => "missing_caller_registry"
  | .privacyPolicyViolation => "privacy_policy_violation"
  | .overDisclosedPresentation => "over_disclosed_presentation"
  | .forbiddenFieldPresent => "forbidden_field_present"
  | .internalError => "internal_error"

/-! ## The clock -/

/-- What an unreadable clock yields. -/
def clockReadFailureSentinel : UInt64 := u64Max

def isClockReadFailure (now : UInt64) : Bool := now == clockReadFailureSentinel

/-! ## Contexts -/

inductive Decision where
  | accepted
  | rejected
  deriving DecidableEq, Repr

inductive AuthenticatorKind where
  | localDevUntrusted | localMac | ed25519Node | ed25519Verifier | ed25519NodeAndVerifier
  | externalAnchor
  deriving DecidableEq, Repr

/-- The index of a variant as bincode writes it. -/
def Decision.index : Decision → ℕ
  | .accepted => 0
  | .rejected => 1

def AuthenticatorKind.index : AuthenticatorKind → ℕ
  | .localDevUntrusted => 0
  | .localMac => 1
  | .ed25519Node => 2
  | .ed25519Verifier => 3
  | .ed25519NodeAndVerifier => 4
  | .externalAnchor => 5

inductive RequiredProofTier where
  | metadataBound | lightClientVerified | recursiveProofCarryingState
  deriving DecidableEq, Repr

def RequiredProofTier.index : RequiredProofTier → ℕ
  | .metadataBound => 0
  | .lightClientVerified => 1
  | .recursiveProofCarryingState => 2

structure ObservedProofMetadata where
  vkId : String
  vkVersion : UInt64
  proofSystem : String
  circuitId : String
  circuitVersion : UInt64
  vkFingerprintAlgorithm : String
  vkFingerprint : String
  publicInputSchemaId : String
  publicInputSchemaHashAlgorithm : String
  publicInputSchemaHash : String
  observedTier : RequiredProofTier
  adapterClaimLabel : Option String
  deriving DecidableEq

structure VerifiedSubject where
  subjectId : String
  keyId : String
  deriving DecidableEq

def verifiedCallContextSchemaVersion : UInt16 := 4

structure VerifiedCallContext where
  schemaVersion : UInt16
  contextId : String
  packetHash : Bytes 32
  sessionId : Bytes 16
  nonce : Bytes 12
  opcode : UInt8
  operation : String
  resource : Option String
  subject : VerifiedSubject
  audience : String
  evidenceSummary : List String
  proofMetadata : Option ObservedProofMetadata
  capabilityResult : String
  credentialResult : String
  issuedAt : UInt64
  expiresAt : UInt64
  descriptorFingerprint : String
  replayScope : String
  handlerId : Option String
  deriving DecidableEq

structure SignedVerifiedCallContext where
  context : VerifiedCallContext
  signerKeyId : String
  authenticatorKind : AuthenticatorKind
  signature : List UInt8
  deriving DecidableEq

/-! ## Signing -/

def ObservedProofMetadata.serialize (m : ObservedProofMetadata) : List UInt8 :=
  Bincode.str m.vkId ++ Bincode.u64 m.vkVersion ++ Bincode.str m.proofSystem ++
    Bincode.str m.circuitId ++ Bincode.u64 m.circuitVersion ++
    Bincode.str m.vkFingerprintAlgorithm ++ Bincode.str m.vkFingerprint ++
    Bincode.str m.publicInputSchemaId ++ Bincode.str m.publicInputSchemaHashAlgorithm ++
    Bincode.str m.publicInputSchemaHash ++ Bincode.variant m.observedTier.index ++
    Bincode.opt Bincode.str m.adapterClaimLabel

/-- `bincode::serialize(&context)` -/
def VerifiedCallContext.serialize (c : VerifiedCallContext) : List UInt8 :=
  Bincode.u16 c.schemaVersion ++ Bincode.str c.contextId ++ c.packetHash.val ++
    c.sessionId.val ++ c.nonce.val ++ [c.opcode] ++ Bincode.str c.operation ++
    Bincode.opt Bincode.str c.resource ++ Bincode.str c.subject.subjectId ++
    Bincode.str c.subject.keyId ++ Bincode.str c.audience ++
    Bincode.vec Bincode.str c.evidenceSummary ++
    Bincode.opt ObservedProofMetadata.serialize c.proofMetadata ++
    Bincode.str c.capabilityResult ++ Bincode.str c.credentialResult ++
    Bincode.u64 c.issuedAt ++ Bincode.u64 c.expiresAt ++ Bincode.str c.descriptorFingerprint ++
    Bincode.str c.replayScope ++ Bincode.opt Bincode.str c.handlerId

def VerifiedCallContext.signEd25519 (crates : Crates) (context : VerifiedCallContext)
    (signerKeyId : String) (secretKey : Bytes 32) (kind : AuthenticatorKind) :
    SignedVerifiedCallContext where
  context := context
  signerKeyId := signerKeyId
  authenticatorKind := kind
  signature := (crates.sign secretKey context.serialize).val

/-- `Signature::from_slice` accepts exactly 64 bytes. -/
def signatureFromSlice (bytes : List UInt8) : Option (Bytes 64) := Bytes.ofSlice? 64 bytes

def SignedVerifiedCallContext.verifyEd25519WithKey (crates : Crates)
    (signed : SignedVerifiedCallContext) (verifyingKey : Bytes 32) (expectedAudience : String)
    (now : UInt64) : Except VerificationError Unit :=
  if signed.context.audience ≠ expectedAudience then .error .wrongAudience
  else if isClockReadFailure now then .error .expiredClaim
  else if now > signed.context.expiresAt then .error .expiredClaim
  else match signatureFromSlice signed.signature with
    | none => .error .invalidSignature
    | some signature =>
      if crates.verify verifyingKey signed.context.serialize signature then .ok ()
      else .error .invalidSignature

structure SignatureHolds (crates : Crates) (signed : SignedVerifiedCallContext)
    (verifyingKey : Bytes 32) (expectedAudience : String) (now : UInt64) : Prop where
  audience : signed.context.audience = expectedAudience
  clock_read : now ≠ clockReadFailureSentinel
  unexpired : now ≤ signed.context.expiresAt
  signature : ∃ signature : Bytes 64, signature.val = signed.signature ∧
    crates.verify verifyingKey signed.context.serialize signature

theorem Bytes.ofSlice?_eq_some {n : ℕ} {bytes : List UInt8} {b : Bytes n} :
    Bytes.ofSlice? n bytes = some b ↔ b.val = bytes := by
  constructor
  · intro h
    simp only [Bytes.ofSlice?] at h
    split at h
    · cases h; rfl
    · cases h
  · rintro rfl
    exact Bytes.ofSlice?_val b

theorem verifyEd25519WithKey_ok_iff {crates : Crates} {signed : SignedVerifiedCallContext}
    {verifyingKey : Bytes 32} {expectedAudience : String} {now : UInt64} :
    signed.verifyEd25519WithKey crates verifyingKey expectedAudience now = .ok () ↔
      SignatureHolds crates signed verifyingKey expectedAudience now := by
  unfold SignedVerifiedCallContext.verifyEd25519WithKey
  constructor
  · intro h
    split_ifs at h with haud hclock hexp
    split at h
    · cases h
    · next signature hsig =>
        split_ifs at h with hverify
        exact ⟨not_not.mp haud, by simpa [isClockReadFailure] using hclock,
          UInt64.not_lt.mp hexp, signature, Bytes.ofSlice?_eq_some.mp hsig, hverify⟩
  · rintro ⟨haud, hclock, hexp, signature, hsig, hverify⟩
    have hslice : signatureFromSlice signed.signature = some signature :=
      Bytes.ofSlice?_eq_some.mpr hsig
    simp [haud, isClockReadFailure, hclock, UInt64.not_lt.mpr hexp, hslice, hverify]

end CallContext
