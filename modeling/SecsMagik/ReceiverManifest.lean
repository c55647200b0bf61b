import SecsMagik.CallContext
import SecsMagik.Disclosure

/-! # Receiver-local operation descriptors

The manifest maps each opcode to the receiver's own contract for it. A context carries the
fingerprint of the descriptor it was verified against.
-/
namespace ReceiverManifest

open RustStd
open ExternalCrates (Crates)
open CallContext (VerificationError)
open Disclosure (DisclosurePolicy)

/-! ## Authority modes -/

inductive AuthorityMode where
  | localFixture | signedSource | soloVerifiedReceipt | federationCheckpoint
  | lightClientVerified | recursiveProofCarryingState
  deriving DecidableEq, Repr

namespace AuthorityMode

def asStr : AuthorityMode → String
  | .localFixture => "local_fixture"
  | .signedSource => "signed_source"
  | .soloVerifiedReceipt => "solo_verified_receipt"
  | .federationCheckpoint => "federation_checkpoint"
  | .lightClientVerified => "light_client_verified"
  | .recursiveProofCarryingState => "recursive_proof_carrying_state"

def fromStr (value : String) : Except VerificationError AuthorityMode :=
  if value = "local_fixture" then .ok .localFixture
  else if value = "signed_source" then .ok .signedSource
  else if value = "solo_verified_receipt" then .ok .soloVerifiedReceipt
  else if value = "federation_checkpoint" then .ok .federationCheckpoint
  else if value = "light_client_verified" then .ok .lightClientVerified
  else if value = "recursive_proof_carrying_state" then .ok .recursiveProofCarryingState
  else .error .unsupportedAuthorityMode

def isReserved (mode : AuthorityMode) : Bool :=
  mode = .lightClientVerified || mode = .recursiveProofCarryingState

def satisfiesRequiredMode (mode required : AuthorityMode) : Except VerificationError Unit :=
  if mode.isReserved || required.isReserved then .error .reservedAuthorityMode
  else if mode = required then .ok ()
  else .error .authorityModeDowngrade

/-- The one `authority_mode:` label of a verified summary. -/
def fromVerifiedSummary (fields : List String) : Except VerificationError AuthorityMode :=
  match fields.filterMap (stripPrefix · "authority_mode:") with
  | [label] => fromStr label
  | _ => .error .unsupportedAuthorityMode

end AuthorityMode

structure AuthorityModePolicyDecision where
  observed : AuthorityMode
  required : AuthorityMode
  result : Except VerificationError Unit

namespace AuthorityModePolicyDecision

def evaluate (observed required : AuthorityMode) : AuthorityModePolicyDecision :=
  ⟨observed, required, observed.satisfiesRequiredMode required⟩

def isSatisfied (decision : AuthorityModePolicyDecision) : Bool := decision.result.isOk

def reason (decision : AuthorityModePolicyDecision) : Option String :=
  match decision.result with
  | .ok _ => none
  | .error error => some error.reasonCode

def redactedSummaryFields (decision : AuthorityModePolicyDecision) : List String :=
  ["authority_mode:" ++ decision.observed.asStr,
    "required_authority_mode:" ++ decision.required.asStr,
    "authority_mode_satisfied:" ++ boolText decision.isSatisfied] ++
    (decision.reason.map ("reason:" ++ ·)).toList

end AuthorityModePolicyDecision

/-! ## Descriptors -/

inductive OpcodeRange where
  | reserved | coreStandardized | castaliaStandardCandidate | operatorDefined
  deriving DecidableEq, Repr

def OpcodeRange.classify (opcode : UInt8) : OpcodeRange :=
  if 0x01 ≤ opcode && opcode ≤ 0x0A then .coreStandardized
  else if 0x0B ≤ opcode && opcode ≤ 0x3F then .castaliaStandardCandidate
  else if 0x40 ≤ opcode then .operatorDefined
  else .reserved

inductive TargetKind where
  | legacyCoreExample | localDevProcess | receiverProductionHandler
  deriving DecidableEq, Repr

inductive ReplayScope where
  | sessionOpcodeNonce
  deriving DecidableEq, Repr

structure OutputProfile where
  schemaId : String
  maxOutputBytes : ℕ
  maxExecutionResponseBytes : ℕ
  deriving DecidableEq

structure OperationDescriptor where
  opcode : UInt8
  name : String
  payloadSchema : Option String
  outputProfile : Option OutputProfile
  targetKind : TargetKind
  requiredCredentials : List String
  requiredCapabilities : List String
  acceptedEvidence : List String
  requiredAuthorityMode : Option AuthorityMode
  replayScope : ReplayScope
  maxTtlSeconds : UInt64
  handlerId : String
  devBinding : Bool
  range : OpcodeRange
  disclosurePolicy : DisclosurePolicy
  deriving DecidableEq

def targetKindLabel : TargetKind → String
  | .legacyCoreExample => "legacy_core_example"
  | .localDevProcess => "local_dev_process"
  | .receiverProductionHandler => "receiver_production_handler"

def replayScopeFingerprintLabel : ReplayScope → String
  | .sessionOpcodeNonce => "session_opcode_nonce"

def opcodeRangeLabel : OpcodeRange → String
  | .reserved => "reserved"
  | .coreStandardized => "core_standardized"
  | .castaliaStandardCandidate => "castalia_standard_candidate"
  | .operatorDefined => "operator_defined"

/-- One length-headed line of the canonical descriptor bytes. -/
def fingerprintField (name value : String) : String :=
  name ++ ":" ++ decimal (byteLen value) ++ ":" ++ value ++ "\n"

namespace OperationDescriptor

def fingerprintFields (d : OperationDescriptor) : List String :=
  [fingerprintField "version" "secs-descriptor-fingerprint-v1",
    fingerprintField "opcode" (hexByte d.opcode),
    fingerprintField "operation" d.name,
    fingerprintField "payload_schema" (d.payloadSchema.getD ""),
    fingerprintField "output_profile_present" (boolText d.outputProfile.isSome)] ++
  (match d.outputProfile with
    | none => []
    | some profile =>
      [fingerprintField "output_schema_id" profile.schemaId,
        fingerprintField "output_max_bytes" (decimal profile.maxOutputBytes),
        fingerprintField "output_max_execution_response_bytes"
          (decimal profile.maxExecutionResponseBytes)]) ++
  [fingerprintField "target_kind" (targetKindLabel d.targetKind)] ++
  d.requiredCredentials.map (fingerprintField "required_credential") ++
  d.requiredCapabilities.map (fingerprintField "required_capability") ++
  d.acceptedEvidence.map (fingerprintField "accepted_evidence") ++
  [fingerprintField "required_authority_mode"
      ((d.requiredAuthorityMode.map AuthorityMode.asStr).getD ""),
    fingerprintField "replay_scope" (replayScopeFingerprintLabel d.replayScope),
    fingerprintField "max_ttl_seconds" (decimal d.maxTtlSeconds.toNat),
    fingerprintField "handler_id" d.handlerId,
    fingerprintField "dev_binding" (boolText d.devBinding),
    fingerprintField "range" (opcodeRangeLabel d.range),
    fingerprintField "disclosure_policy_id" d.disclosurePolicy.policyId,
    fingerprintField "disclosure_policy_version"
      (decimal d.disclosurePolicy.policyVersion.toNat)] ++
  d.disclosurePolicy.permissions.map fun p =>
    fingerprintField "disclosure_permission"
      (p.fieldClass.asStr ++ ":" ++ p.surface.asStr ++ ":" ++ p.representation.asStr)

def authorizationFingerprint (crates : Crates) (d : OperationDescriptor) : String :=
  "descriptor:sha256:" ++ lowerHex (crates.sha256 (d.fingerprintFields.flatMap utf8)).val

/-- The four dev or prototype conditions that production refuses. -/
def isDevOrPrototype (d : OperationDescriptor) : Bool :=
  d.devBinding || startsWith d.handlerId "dev/" || startsWith d.name "candidate.dev" ||
    (d.targetKind = .legacyCoreExample && d.acceptedEvidence.contains "prototype-proof-envelope")

end OperationDescriptor

/-- The canonical descriptor of `membership.provision`. -/
def membershipProvisionDescriptor : OperationDescriptor where
  opcode := 0x44
  name := "membership.provision"
  payloadSchema := some "application/json"
  outputProfile := none
  targetKind := .receiverProductionHandler
  requiredCredentials := ["trusted.membership", "wallet.presentation", "dregg.authority"]
  requiredCapabilities := ["membership.provision", "dregg_authority"]
  acceptedEvidence := ["wallet_presentation", "membership_credential", "dregg_authority"]
  requiredAuthorityMode := none
  replayScope := .sessionOpcodeNonce
  maxTtlSeconds := 300
  handlerId := "membership/provision"
  devBinding := false
  range := OpcodeRange.classify 0x44
  disclosurePolicy := .defaultI02

theorem authorizationFingerprint_ne_empty (crates : Crates) (d : OperationDescriptor) :
    d.authorizationFingerprint crates ≠ "" := by
  unfold OperationDescriptor.authorizationFingerprint
  generalize lowerHex (crates.sha256 (d.fingerprintFields.flatMap utf8)).val = digest
  intro h
  have hlist := congrArg (fun s => s.toList.head?) h
  simp at hlist

/-! ## The manifest -/

/-- A map from opcodes to descriptors in which every descriptor sits under its own opcode. -/
structure Manifest where
  descriptors : UInt8 → Option OperationDescriptor
  keyed : ∀ {opcode d}, descriptors opcode = some d → d.opcode = opcode

namespace Manifest

def empty : Manifest := ⟨fun _ => none, by simp⟩

/-- Installing a descriptor replaces the one at its opcode. -/
def withDescriptor (m : Manifest) (d : OperationDescriptor) : Manifest where
  descriptors opcode := if opcode = d.opcode then some d else m.descriptors opcode
  keyed := by
    intro opcode d' h
    split at h
    · next hop => cases h; exact hop.symm
    · exact m.keyed h

def new (descriptors : List OperationDescriptor) : Manifest :=
  descriptors.foldl withDescriptor empty

def lookup (m : Manifest) (opcode : UInt8) : Except VerificationError OperationDescriptor :=
  match m.descriptors opcode with
  | some d => .ok d
  | none => .error .unknownOperation

theorem lookup_ok_iff {m : Manifest} {opcode : UInt8} {d : OperationDescriptor} :
    m.lookup opcode = .ok d ↔ m.descriptors opcode = some d := by
  unfold lookup
  split <;> simp_all

end Manifest

end ReceiverManifest
