import SecsMagik.ReceiverManifest

/-! # Evidence requests and summaries

What the verifier asks an evidence adapter, what an adapter may answer, and the maturity tiers
against which a satisfied summary is judged.
-/
namespace Evidence

open RustStd
open CallContext (VerificationError)
open ReceiverManifest (OperationDescriptor)

inductive EvidenceTier where
  | shapeOnly | localVerified | signedSource | federationCheckpoint | succinctProof
  | recursiveProofCarryingState
  deriving DecidableEq, Repr

namespace EvidenceTier

def asStr : EvidenceTier → String
  | .shapeOnly => "shape_only"
  | .localVerified => "local_verified"
  | .signedSource => "signed_source"
  | .federationCheckpoint => "federation_checkpoint"
  | .succinctProof => "succinct_proof"
  | .recursiveProofCarryingState => "recursive_proof_carrying_state"

def fromStr (value : String) : Except VerificationError EvidenceTier :=
  if value = "shape_only" then .ok .shapeOnly
  else if value = "local_verified" then .ok .localVerified
  else if value = "signed_source" then .ok .signedSource
  else if value = "federation_checkpoint" then .ok .federationCheckpoint
  else if value = "succinct_proof" then .ok .succinctProof
  else if value = "recursive_proof_carrying_state" then .ok .recursiveProofCarryingState
  else .error .unsupportedEvidenceTier

/-- The derived order of the enumeration. -/
def rank : EvidenceTier → ℕ
  | .shapeOnly => 0
  | .localVerified => 1
  | .signedSource => 2
  | .federationCheckpoint => 3
  | .succinctProof => 4
  | .recursiveProofCarryingState => 5

end EvidenceTier

inductive EvidenceSupportStatus where
  | supported | localDev | fixture | reservedUnsupported | unknownUnsupported
  deriving DecidableEq, Repr

namespace EvidenceSupportStatus

def asStr : EvidenceSupportStatus → String
  | .supported => "supported"
  | .localDev => "local_dev"
  | .fixture => "fixture"
  | .reservedUnsupported => "reserved_unsupported"
  | .unknownUnsupported => "unknown_unsupported"

def isSupported (status : EvidenceSupportStatus) : Bool :=
  status = .supported || status = .localDev || status = .fixture

end EvidenceSupportStatus

structure EvidenceMaturityProfile where
  tier : EvidenceTier
  supportStatus : EvidenceSupportStatus
  deriving DecidableEq

def EvidenceMaturityProfile.supportedForPolicy (profile : EvidenceMaturityProfile)
    (requiredTier : EvidenceTier) : Except VerificationError Unit :=
  if profile.supportStatus.isSupported = false then .error .unsupportedEvidenceTier
  else if profile.tier.rank < requiredTier.rank then .error .evidenceTierTooWeak
  else .ok ()

inductive EvidenceKind where
  | prototypeProofEnvelope | localStatic | walletPresentation | membershipCredential
  | provisioningCredential | midnightProof | dreggReceipt | dreggAuthority | cardanoSettlement
  deriving DecidableEq, Repr

namespace EvidenceKind

def asStr : EvidenceKind → String
  | .prototypeProofEnvelope => "prototype-proof-envelope"
  | .localStatic => "local_static"
  | .walletPresentation => "wallet_presentation"
  | .membershipCredential => "membership_credential"
  | .provisioningCredential => "provisioning_credential"
  | .midnightProof => "midnight_proof"
  | .dreggReceipt => "dregg_receipt"
  | .dreggAuthority => "dregg_authority"
  | .cardanoSettlement => "cardano_settlement"

def all : List EvidenceKind :=
  [.prototypeProofEnvelope, .localStatic, .walletPresentation, .membershipCredential,
    .provisioningCredential, .midnightProof, .dreggReceipt, .dreggAuthority, .cardanoSettlement]

def fromLabel (label : String) : Option EvidenceKind := all.find? (·.asStr == label)

def maturityProfile : EvidenceKind → EvidenceMaturityProfile
  | .prototypeProofEnvelope => ⟨.shapeOnly, .localDev⟩
  | .localStatic | .walletPresentation | .dreggReceipt => ⟨.localVerified, .localDev⟩
  | .membershipCredential | .provisioningCredential | .dreggAuthority => ⟨.signedSource, .fixture⟩
  | .cardanoSettlement => ⟨.federationCheckpoint, .reservedUnsupported⟩
  | .midnightProof => ⟨.succinctProof, .reservedUnsupported⟩

theorem rank_le_of_supported {kind : EvidenceKind}
    (h : kind.maturityProfile.supportStatus.isSupported) : kind.maturityProfile.tier.rank ≤ 2 := by
  cases kind <;> revert h <;> decide

end EvidenceKind

/-! ## Inputs of a request -/

def keepNew (deduped : List String) (value : String) : List String :=
  if value ∈ deduped then deduped else deduped ++ [value]

def dedupePreservingOrder (values : List String) : List String := values.foldl keepNew []

theorem foldl_keepNew (kept values : List String) (hkept : kept.Nodup) :
    (values.foldl keepNew kept).Nodup ∧ List.Sublist (values.foldl keepNew kept) (kept ++ values) ∧
      ((kept ++ values).Nodup → values.foldl keepNew kept = kept ++ values) := by
  induction values generalizing kept with
  | nil => simp [hkept]
  | cons value values ih =>
    rw [List.foldl_cons, keepNew]
    by_cases hmem : value ∈ kept
    · rw [if_pos hmem]
      obtain ⟨hnodup, hsub, -⟩ := ih kept hkept
      refine ⟨hnodup, hsub.trans ?_, fun hall => ?_⟩
      · exact (List.sublist_cons_self value values).append_left kept
      · exact absurd rfl ((List.nodup_append.mp hall).2.2 value hmem value List.mem_cons_self)
    · rw [if_neg hmem]
      have hsnoc : (kept ++ [value]).Nodup := by
        rw [← List.concat_eq_append]
        exact hkept.concat hmem
      obtain ⟨hnodup, hsub, hself⟩ := ih _ hsnoc
      rw [List.append_assoc] at hsub hself
      exact ⟨hnodup, hsub, hself⟩

theorem nodup_dedupePreservingOrder (values : List String) : (dedupePreservingOrder values).Nodup :=
  (foldl_keepNew [] values List.nodup_nil).1

theorem dedupePreservingOrder_sublist (values : List String) :
    List.Sublist (dedupePreservingOrder values) values :=
      (foldl_keepNew [] values List.nodup_nil).2.1

theorem dedupePreservingOrder_eq_self {values : List String} :
    dedupePreservingOrder values = values ↔ values.Nodup := by
  constructor
  · intro h
    rw [← h]
    exact nodup_dedupePreservingOrder values
  · exact fun h => (foldl_keepNew [] values List.nodup_nil).2.2 h

structure EvidenceInputs where
  evidenceRefs : List String
  publicInputs : List String
  deriving DecidableEq

namespace EvidenceInputs

def new (evidenceRefs publicInputs : List String) : EvidenceInputs :=
  ⟨dedupePreservingOrder evidenceRefs, publicInputs⟩

def none : EvidenceInputs := ⟨[], []⟩

def isEmpty (inputs : EvidenceInputs) : Bool :=
  inputs.evidenceRefs.isEmpty && inputs.publicInputs.isEmpty

end EvidenceInputs

structure EvidenceRequest where
  acceptedEvidence : List String
  subject : String
  audience : String
  operation : String
  resource : Option String
  evidenceRefs : List String
  publicInputs : List String
  trustedRequestedResource : Option String
  deriving DecidableEq

structure EvidenceSummary where
  kind : EvidenceKind
  subject : String
  audience : String
  operation : String
  resource : Option String
  localDevTestOnly : Bool
  publicProof : Bool
  summaryFields : List String
  deriving DecidableEq

inductive EvidenceResult where
  | satisfied (summary : EvidenceSummary)
  | rejected (error : VerificationError)

structure EvidenceAdapter where
  kind : EvidenceKind
  verify : EvidenceRequest → EvidenceResult

namespace EvidenceRequest

def fromDescriptorWithRefs (d : OperationDescriptor) (subject audience : String)
    (evidenceRefs : List String) : EvidenceRequest where
  acceptedEvidence := d.acceptedEvidence
  subject := subject
  audience := audience
  operation := d.name
  resource := d.payloadSchema
  evidenceRefs := evidenceRefs
  publicInputs := ["opcode:" ++ hexByte d.opcode, "handler_id:" ++ d.handlerId]
  trustedRequestedResource := none

def accepts (request : EvidenceRequest) (kind : EvidenceKind) : Bool :=
  request.acceptedEvidence.contains kind.asStr

/-- One round of the loop over the accepted kinds: the strongest tier so far. -/
def raiseMaturity (required : EvidenceMaturityProfile) (label : String) :
    Except VerificationError EvidenceMaturityProfile :=
  match EvidenceKind.fromLabel label with
  | none => .error .unsupportedEvidenceKind
  | some kind =>
    let profile := kind.maturityProfile
    if profile.supportStatus.isSupported = false then .error .unsupportedEvidenceKind
    else if required.tier.rank < profile.tier.rank then .ok profile
    else .ok required

def requiredMaturityProfile (request : EvidenceRequest) :
    Except VerificationError EvidenceMaturityProfile :=
  request.acceptedEvidence.foldlM raiseMaturity ⟨.shapeOnly, .supported⟩

def validateSatisfiedSummary (request : EvidenceRequest) (summary : EvidenceSummary) :
    Except VerificationError Unit := do
  let required ← request.requiredMaturityProfile
  let accepted := summary.kind.maturityProfile
  if accepted.supportStatus.isSupported = false then .error .unsupportedEvidenceKind
  else accepted.supportedForPolicy required.tier

end EvidenceRequest

namespace EvidenceSummary

/-- The fields of a summary with the subject as given. -/
def fields (summary : EvidenceSummary) (subject : String) : List String :=
  let profile := summary.kind.maturityProfile
  ["evidence_kind:" ++ summary.kind.asStr,
    "accepted_evidence_tier:" ++ profile.tier.asStr,
    "evidence_support_status:" ++ profile.supportStatus.asStr,
    "subject:" ++ subject,
    "audience:" ++ summary.audience,
    "operation:" ++ summary.operation,
    "local_dev_test_only:" ++ boolText summary.localDevTestOnly,
    "public_proof:" ++ boolText summary.publicProof]

def resourceFields (summary : EvidenceSummary) : List String :=
  (summary.resource.map ("resource:" ++ ·)).toList ++ summary.summaryFields

def toContextFields (summary : EvidenceSummary) : List String :=
  summary.fields "[redacted]" ++ summary.resourceFields

def toContextFieldsForPolicy (summary : EvidenceSummary) (requiredTier : EvidenceTier) :
    List String :=
  summary.toContextFields ++ ["policy_required_evidence_tier:" ++ requiredTier.asStr]

/-- The fields the privacy scan sees: the subject is not yet redacted. -/
def toPolicyScanFields (summary : EvidenceSummary) (requiredTier : EvidenceTier) : List String :=
  summary.fields summary.subject ++ ["policy_required_evidence_tier:" ++ requiredTier.asStr] ++
    summary.resourceFields

end EvidenceSummary

end Evidence
