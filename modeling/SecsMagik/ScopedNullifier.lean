import SecsMagik.CallContext

/-! # Scoped nullifiers

A context that requires a scoped use names a domain and a commitment in its evidence summary.
Both are stored only as truncated digests.
-/
namespace ScopedNullifier

open RustStd
open ExternalCrates (Crates)
open CallContext (VerifiedCallContext)

inductive ResourceKind where
  | directory | file
  deriving DecidableEq, Repr

def ResourceKind.asStr : ResourceKind → String
  | .directory => "directory"
  | .file => "file"

inductive NullifierReason where
  | duplicateNullifier | domainMismatch | missingScopedNullifier | unsupportedScope
  deriving DecidableEq, Repr

def NullifierReason.asStr : NullifierReason → String
  | .duplicateNullifier => "duplicate_nullifier"
  | .domainMismatch => "nullifier_domain_mismatch"
  | .missingScopedNullifier => "missing_scoped_nullifier"
  | .unsupportedScope => "unsupported_nullifier_scope"

inductive NullifierOutcome where
  | scopedUseRecorded | duplicateNullifier | domainMismatch | missingScopedNullifier
  | unsupportedScope
  deriving DecidableEq, Repr

def NullifierOutcome.asStr : NullifierOutcome → String
  | .scopedUseRecorded => "scoped_use_recorded"
  | .duplicateNullifier => NullifierReason.duplicateNullifier.asStr
  | .domainMismatch => NullifierReason.domainMismatch.asStr
  | .missingScopedNullifier => NullifierReason.missingScopedNullifier.asStr
  | .unsupportedScope => NullifierReason.unsupportedScope.asStr

theorem NullifierOutcome.asStr_inj {a b : NullifierOutcome} : a.asStr = b.asStr ↔ a = b := by
  cases a <;> cases b <;> decide

def ResourceKind.forContext (context : VerifiedCallContext) : Except NullifierReason ResourceKind :=
  if containsStr context.operation "file" then .ok .file
  else if containsStr context.operation "directory" || containsStr context.operation "dir" then
    .ok .directory
  else .error .unsupportedScope

def redactedFingerprint (crates : Crates) (label : String) (bytes : List UInt8) : String :=
  lowerHex ((crates.sha256 (utf8 label ++ [0] ++ bytes)).val.take 12)

/-- The value names no scope of its own. -/
def isGlobalScope (value : String) : Bool :=
  startsWith value "global:" || value = "global" || value = "domainless"

/-- A usage marker that is neither blank nor global. -/
structure NullifierCommitment where
  raw : String
  not_blank : trim raw ≠ ""
  not_global : isGlobalScope raw = false
  deriving DecidableEq

namespace NullifierCommitment

def new (value : String) : Except NullifierReason NullifierCommitment :=
  if hblank : trim value = "" then .error .missingScopedNullifier
  else if hglobal : isGlobalScope value then .error .unsupportedScope
  else .ok ⟨value, hblank, by simpa using hglobal⟩

def fingerprint (crates : Crates) (c : NullifierCommitment) : String :=
  redactedFingerprint crates "nullifier-commitment" (utf8 c.raw)

def storageHash (crates : Crates) (c : NullifierCommitment) : String :=
  redactedFingerprint crates "nullifier-commitment-storage" (utf8 c.raw)

end NullifierCommitment

structure NullifierDomainV1Inputs where
  resourceKind : ResourceKind
  epochOrWindow : String
  issuerOrAuthoritySourceId : String
  rootOrCheckpointId : String
  subjectCommitment : String
  allowanceId : Option String

structure NullifierDomainV1 where
  domainVersion : String
  audience : String
  operation : String
  resourceKind : ResourceKind
  canonicalResourceId : String
  epochOrWindow : String
  issuerOrAuthoritySourceId : String
  rootOrCheckpointId : String
  subjectCommitment : String
  allowanceId : Option String
  deriving DecidableEq

def nullifierDomainVersion : String := "nullifier-domain-v1"

def rejectEmpty (value : String) : Except NullifierReason Unit :=
  if trim value = "" then .error .missingScopedNullifier else .ok ()

def rejectSubjectCommitment (value : String) : Except NullifierReason Unit := do
  rejectEmpty value
  let lower := asciiLower value
  if startsWith lower "wallet:" || startsWith lower "holder:" ||
      startsWith lower "subject_id:" || startsWith lower "credential_id:" then
    .error .unsupportedScope
  else .ok ()

/-- The path segments after `.`, `..` and empty segments are resolved. -/
def resolveSegments (segments : List String) : List String :=
  segments.foldl (fun parts part =>
    if part = "" ∨ part = "." then parts
    else if part = ".." then parts.dropLast
    else parts ++ [part]) []

def canonicalResourceId (resource : String) : Except NullifierReason String :=
  match stripPrefix resource "file://" with
  | none => .error .domainMismatch
  | some rest =>
    if trim rest = "" then .error .missingScopedNullifier
    else
      let path := join (resolveSegments (split rest '/')) "/"
      .ok (if startsWith rest "/" then "file:///" ++ path else "file://" ++ path)

namespace NullifierDomainV1

def fromVerifiedContext (context : VerifiedCallContext) (inputs : NullifierDomainV1Inputs) :
    Except NullifierReason NullifierDomainV1 := do
  let resource ← context.resource.elim (.error .missingScopedNullifier) .ok
  rejectEmpty context.audience
  rejectEmpty context.operation
  rejectEmpty inputs.epochOrWindow
  rejectEmpty inputs.issuerOrAuthoritySourceId
  rejectEmpty inputs.rootOrCheckpointId
  rejectSubjectCommitment inputs.subjectCommitment
  inputs.allowanceId.elim (.ok ()) rejectEmpty
  let canonical ← ScopedNullifier.canonicalResourceId resource
  return {
    domainVersion := nullifierDomainVersion
    audience := context.audience
    operation := context.operation
    resourceKind := inputs.resourceKind
    canonicalResourceId := canonical
    epochOrWindow := inputs.epochOrWindow
    issuerOrAuthoritySourceId := inputs.issuerOrAuthoritySourceId
    rootOrCheckpointId := inputs.rootOrCheckpointId
    subjectCommitment := inputs.subjectCommitment
    allowanceId := inputs.allowanceId }

def canonicalBytes (d : NullifierDomainV1) : List UInt8 :=
  utf8 ("v=" ++ d.domainVersion ++ "|aud=" ++ d.audience ++ "|op=" ++ d.operation ++
    "|kind=" ++ d.resourceKind.asStr ++ "|res=" ++ d.canonicalResourceId ++
    "|epoch=" ++ d.epochOrWindow ++ "|issuer=" ++ d.issuerOrAuthoritySourceId ++
    "|root=" ++ d.rootOrCheckpointId ++ "|subject=" ++ d.subjectCommitment ++
    "|allowance=" ++ d.allowanceId.getD "")

def fingerprint (crates : Crates) (d : NullifierDomainV1) : String :=
  redactedFingerprint crates "nullifier-domain" d.canonicalBytes

end NullifierDomainV1

/-- The first summary field `key:value`. -/
def evidenceValue (context : VerifiedCallContext) (key : String) : Option String :=
  context.evidenceSummary.findSome? (stripPrefix · (key ++ ":"))

def requiredEvidenceValue (context : VerifiedCallContext) (key : String) :
    Except NullifierReason String :=
  (evidenceValue context key).elim (.error .missingScopedNullifier) .ok

/-- The context carries the field `scoped_use_required`. -/
def scopedUseRequired (context : VerifiedCallContext) : Bool :=
  context.evidenceSummary.contains "scoped_use_required"

structure ScopedNullifierEvidence where
  domain : NullifierDomainV1
  commitment : NullifierCommitment
  deriving DecidableEq

def ScopedNullifierEvidence.fromContext (crates : Crates) (context : VerifiedCallContext) :
    Except NullifierReason ScopedNullifierEvidence := do
  let scope := evidenceValue context "nullifier_scope"
  if scope = some "global" ∨ scope = some "domainless" then .error .unsupportedScope
  if scopedUseRequired context = false then .error .missingScopedNullifier
  let commitment ← NullifierCommitment.new (← requiredEvidenceValue context "nullifier_commitment")
  let domain ← NullifierDomainV1.fromVerifiedContext context {
    resourceKind := ← ResourceKind.forContext context
    epochOrWindow := ← requiredEvidenceValue context "nullifier_epoch"
    issuerOrAuthoritySourceId := ← requiredEvidenceValue context "nullifier_issuer"
    rootOrCheckpointId := ← requiredEvidenceValue context "nullifier_root"
    subjectCommitment := ← requiredEvidenceValue context "subject_commitment"
    allowanceId := evidenceValue context "allowance_id" }
  match evidenceValue context "nullifier_domain_fingerprint" with
  | some expected =>
    if expected ≠ domain.fingerprint crates then .error .domainMismatch
    else .ok ⟨domain, commitment⟩
  | none => .ok ⟨domain, commitment⟩

def outcomeField (outcome : NullifierOutcome) : String := "nullifier_outcome:" ++ outcome.asStr

def privacySafeSummary (outcome : NullifierOutcome)
    (domainFingerprint commitmentFingerprint : Option String) : List String :=
  ["scoped_use_enforced:true", "nullifier_domain_version:" ++ nullifierDomainVersion,
    outcomeField outcome] ++
    (domainFingerprint.map ("nullifier_domain_fingerprint:" ++ ·)).toList ++
    (commitmentFingerprint.map ("nullifier_commitment_fingerprint:" ++ ·)).toList

end ScopedNullifier
