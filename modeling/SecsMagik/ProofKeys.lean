import SecsMagik.CallContext

/-! # Proof key registry and the metadata gate

Routes may require that a context carries proof metadata bound to a registered verification key.
No proof is verified here: the strongest tier the gate can grant is `metadata_bound`.
-/
namespace ProofKeys

open RustStd
open CallContext (ObservedProofMetadata RequiredProofTier)

inductive ProofKeyLifecycle where
  | active | deprecated | revoked
  deriving DecidableEq, Repr

structure ProofKeyRef where
  vkId : String
  vkVersion : UInt64
  deriving DecidableEq

structure ProofKeyEntry where
  vkId : String
  vkVersion : UInt64
  proofSystem : String
  circuitId : String
  circuitVersion : UInt64
  vkFingerprintAlgorithm : String
  vkFingerprint : String
  publicInputSchemaId : String
  publicInputSchemaHashAlgorithm : String
  publicInputSchemaHash : String
  lifecycle : ProofKeyLifecycle
  notBefore : UInt64
  notAfter : Option UInt64
  allowedTiers : List RequiredProofTier
  supersedes : Option ProofKeyRef
  deprecatedHistoricalOnly : Bool
  claimLabel : String
  deriving DecidableEq

inductive ProofKeyRegistryError where
  | emptyRegistry | missingRequiredField | invalidHashAlgorithm | invalidVkFingerprint
  | invalidPublicInputSchemaHash | invalidValidityWindow | invalidAllowedTier
  | invalidSupersession | overclaimingClaimLabel | duplicateRegistryEntry | invalidJson
  deriving DecidableEq, Repr

def isLowerHexSha256 (value : String) : Bool :=
  byteLen value == 64 &&
    (utf8 value).all fun b => (0x30 ≤ b && b ≤ 0x39) || (0x61 ≤ b && b ≤ 0x66)

def validateEntry (e : ProofKeyEntry) : Except ProofKeyRegistryError Unit :=
  if [e.vkId, e.proofSystem, e.circuitId, e.publicInputSchemaId, e.claimLabel].any (trim · = "") ||
      e.vkVersion == 0 || e.circuitVersion == 0 then
    .error .missingRequiredField
  else if e.vkFingerprintAlgorithm ≠ "sha256" ∨ e.publicInputSchemaHashAlgorithm ≠ "sha256" then
    .error .invalidHashAlgorithm
  else if isLowerHexSha256 e.vkFingerprint = false then .error .invalidVkFingerprint
  else if isLowerHexSha256 e.publicInputSchemaHash = false then
    .error .invalidPublicInputSchemaHash
  else if e.notAfter.any (· ≤ e.notBefore) then .error .invalidValidityWindow
  else if e.allowedTiers.isEmpty || e.allowedTiers.any (· ≠ .metadataBound) then
    .error .invalidAllowedTier
  else if e.supersedes.any fun s => trim s.vkId = "" || s.vkVersion == 0 ||
      (s.vkId = e.vkId && e.vkVersion ≤ s.vkVersion) then
    .error .invalidSupersession
  else if e.claimLabel ∉ ["proof_metadata_bound", "proof_registry_checked"] then
    .error .overclaimingClaimLabel
  else .ok ()

/-- Entries in lookup order; every one passed validation. -/
structure ProofKeyRegistry where
  entries : List ProofKeyEntry
  valid : ∀ e ∈ entries, validateEntry e = .ok ()

inductive ProofGateReason where
  | missingProofKeyRegistryEntry | unknownVerificationKey | proofSystemMismatch
  | proofCircuitMismatch | proofVkFingerprintMismatch | proofPublicInputSchemaMismatch
  | proofKeyDeprecated | proofKeyRevoked | proofKeyNotYetValid | proofKeyExpired
  | proofTierBelowPolicy | proofVerifierNotExecuted
  deriving DecidableEq, Repr

def ProofGateReason.reasonCode : ProofGateReason → String
  | .missingProofKeyRegistryEntry => "missing_proof_key_registry_entry"
  | .unknownVerificationKey => "unknown_verification_key"
  | .proofSystemMismatch => "proof_system_mismatch"
  | .proofCircuitMismatch => "proof_circuit_mismatch"
  | .proofVkFingerprintMismatch => "proof_vk_fingerprint_mismatch"
  | .proofPublicInputSchemaMismatch => "proof_public_input_schema_mismatch"
  | .proofKeyDeprecated => "proof_key_deprecated"
  | .proofKeyRevoked => "proof_key_revoked"
  | .proofKeyNotYetValid => "proof_key_not_yet_valid"
  | .proofKeyExpired => "proof_key_expired"
  | .proofTierBelowPolicy => "proof_tier_below_policy"
  | .proofVerifierNotExecuted => "proof_verifier_not_executed"

def ProofKeyRegistry.matchObserved (registry : ProofKeyRegistry)
    (observed : ObservedProofMetadata) : Except ProofGateReason ProofKeyEntry :=
  match registry.entries.find? fun e =>
      e.vkId = observed.vkId && e.vkVersion = observed.vkVersion with
  | none => .error .unknownVerificationKey
  | some e =>
    if e.proofSystem ≠ observed.proofSystem then .error .proofSystemMismatch
    else if e.circuitId ≠ observed.circuitId ∨ e.circuitVersion ≠ observed.circuitVersion then
      .error .proofCircuitMismatch
    else if e.vkFingerprintAlgorithm ≠ observed.vkFingerprintAlgorithm ∨
        e.vkFingerprint ≠ observed.vkFingerprint then
      .error .proofVkFingerprintMismatch
    else if e.publicInputSchemaId ≠ observed.publicInputSchemaId ∨
        e.publicInputSchemaHashAlgorithm ≠ observed.publicInputSchemaHashAlgorithm ∨
        e.publicInputSchemaHash ≠ observed.publicInputSchemaHash then
      .error .proofPublicInputSchemaMismatch
    else .ok e

structure ProofMetadataRoutePolicy where
  requiredTier : RequiredProofTier
  requireActive : Bool
  deriving DecidableEq

structure ProofMetadataBinding where
  proofRegistryChecked : Bool
  proofMetadataBound : Bool
  claimLabel : String
  vkId : String
  vkVersion : UInt64
  proofSystem : String
  circuitId : String
  circuitVersion : UInt64
  vkFingerprintSha256Prefix : String
  publicInputSchemaId : String
  publicInputSchemaHashSha256Prefix : String
  deriving DecidableEq

def ProofMetadataBinding.redactionSafeSummaryFields (b : ProofMetadataBinding) : List String :=
  ["proof_registry_checked:" ++ boolText b.proofRegistryChecked,
    "proof_metadata_bound:" ++ boolText b.proofMetadataBound,
    "proof_claim_label:" ++ b.claimLabel,
    "proof_vk_id:" ++ b.vkId,
    "proof_vk_version:" ++ decimal b.vkVersion.toNat,
    "proof_system:" ++ b.proofSystem,
    "proof_circuit_id:" ++ b.circuitId,
    "proof_circuit_version:" ++ decimal b.circuitVersion.toNat,
    "proof_vk_fingerprint_sha256_prefix:" ++ b.vkFingerprintSha256Prefix,
    "proof_public_input_schema_id:" ++ b.publicInputSchemaId,
    "proof_public_input_schema_hash_sha256_prefix:" ++ b.publicInputSchemaHashSha256Prefix]

/-- The first 16 characters of a hexadecimal digest. -/
def digestHead (digest : String) : String := String.ofList (digest.toList.take 16)

def evaluateMetadata (registry : ProofKeyRegistry) (evaluatedAt : UInt64)
    (observed : Option ObservedProofMetadata) (requiredTier : RequiredProofTier)
    (requireActive : Bool) : Except ProofGateReason ProofMetadataBinding :=
  if requiredTier ≠ .metadataBound then .error .proofVerifierNotExecuted
  else match observed with
    | none => .error .missingProofKeyRegistryEntry
    | some observed => do
      let e ← registry.matchObserved observed
      if e.lifecycle = .revoked then .error .proofKeyRevoked
      else if e.lifecycle = .deprecated ∧ requireActive then .error .proofKeyDeprecated
      else if evaluatedAt < e.notBefore then .error .proofKeyNotYetValid
      else if e.notAfter.any (· ≤ evaluatedAt) then .error .proofKeyExpired
      else if observed.observedTier ≠ .metadataBound ∨ .metadataBound ∉ e.allowedTiers then
        .error .proofTierBelowPolicy
      else .ok {
        proofRegistryChecked := true
        proofMetadataBound := true
        claimLabel := e.claimLabel
        vkId := e.vkId
        vkVersion := e.vkVersion
        proofSystem := e.proofSystem
        circuitId := e.circuitId
        circuitVersion := e.circuitVersion
        vkFingerprintSha256Prefix := digestHead e.vkFingerprint
        publicInputSchemaId := e.publicInputSchemaId
        publicInputSchemaHashSha256Prefix := digestHead e.publicInputSchemaHash }

end ProofKeys
