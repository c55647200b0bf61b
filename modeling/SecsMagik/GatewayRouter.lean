import SecsMagik.CallerProof
import SecsMagik.ExecutionTransport
import SecsMagik.GatewayMachine
import SecsMagik.NodeRegistration
import SecsMagik.PermissionPolicy
import SecsMagik.ProofKeys

/-! # The configurable router

`routeVerified` takes a signed context through every gate before it starts the handler. The gates
that need only the configuration and the one clock reading come first, as the pure `preflight`;
the rest is a program of ledger statements.
-/
namespace GatewayRouter

open RustStd
open ExternalCrates (Crates)
open CallContext ReceiverManifest ScopedNullifier
open Receipts (Receipt ReceiptEventKind signReceipt)
open Ledger AtomicPrograms GatewayMachine
open VerifierKeys (NodeVerifierIdentity PublicVerifierKeyRegistry)
open ExecutionTransport (ExecutionStatus)
open ProofKeys (ProofKeyRegistry ProofMetadataBinding ProofMetadataRoutePolicy ProofGateReason)

structure DecisionResponse where
  decision : Decision
  reasonCode : Option String
  contextId : Option String
  receiptId : Option String
  deriving DecidableEq

namespace DecisionResponse

def accepted (contextId receiptId : Option String) : DecisionResponse :=
  ⟨.accepted, none, contextId, receiptId⟩

def rejected (reasonCode : String) (contextId receiptId : Option String) : DecisionResponse :=
  ⟨.rejected, some reasonCode, contextId, receiptId⟩

end DecisionResponse

structure ExecutionRouteProjection where
  status : ExecutionStatus
  reasonCode : Option String
  contextId : Option String
  receiptId : Option String
  outputSchema : Option String
  output : Option (List UInt8)
  deriving DecidableEq

structure ConfigurableRouter where
  /-- the handler ids for which a program is registered -/
  programs : String → Bool
  limits : ExecutionLimits
  identity : NodeVerifierIdentity
  verifierKeys : PublicVerifierKeyRegistry
  callerKeys : Option CallerProof.CallerKeyRegistry
  expectedAudience : String
  manifest : Manifest
  permissionPolicy : Option PermissionPolicy.Policy
  evidenceAdapter : Option Evidence.EvidenceAdapter
  proofKeyRegistry : Option ProofKeyRegistry
  proofMetadataPolicies : UInt8 → Option ProofMetadataRoutePolicy

def localPrototypeSignerId : String := "verifier:local-prototype"
def descriptorContextMismatchReason : String := "descriptor_context_mismatch"
def replayDetectedReason : String := "replay_detected"
def replayReservationFailedReason : String := "replay_reservation_failed"

/-! ## The gates of the preflight -/

/-- How a refusal is put on record. -/
inductive RefusalRecord where
  | silent
  | receipt
  | receiptWithSummary (summary : List String)

structure Refusal where
  signed : SignedVerifiedCallContext
  reason : String
  record : RefusalRecord

section Gates

variable (crates : Crates) (router : ConfigurableRouter)

def verifySigner (signed : SignedVerifiedCallContext) (timestamp : UInt64) :
    Except VerificationError Unit :=
  if router.identity.authenticatorKind = .localDevUntrusted then
    router.verifierKeys.verifySignedContext crates signed router.expectedAudience timestamp
  else if signed.authenticatorKind = .localDevUntrusted ∨
      signed.signerKeyId = localPrototypeSignerId then
    .error .untrustedVerifierKey
  else
    router.verifierKeys.verifyProductionSignedContext crates signed router.expectedAudience
      timestamp

def shouldEmitSignedContextReject : VerificationError → Bool
  | .expiredClaim | .wrongAudience | .invalidSignature | .unknownVerifierKey
  | .revokedVerifierKey | .expiredVerifierKey | .notYetValidVerifierKey => true
  | _ => false

def signedContextMatchesActiveManifest (context : VerifiedCallContext) : Bool :=
  match router.manifest.lookup context.opcode with
  | .error _ => false
  | .ok d =>
    if context.descriptorFingerprint = "" ∨
        context.descriptorFingerprint ≠ d.authorizationFingerprint crates then false
    else if saturatingSub context.expiresAt context.issuedAt > d.maxTtlSeconds then false
    else context.operation = d.name && match context.handlerId with
      | some handlerId => handlerId = d.handlerId
      | none => d.outputProfile.isSome

def productionContextUsesDevDescriptor (signed : SignedVerifiedCallContext) : Bool :=
  if router.identity.authenticatorKind = .localDevUntrusted then false
  else match router.manifest.lookup signed.context.opcode with
    | .error _ => true
    | .ok d => d.isDevOrPrototype

def extendSummary (signed : SignedVerifiedCallContext)
    (fields : List String) : SignedVerifiedCallContext :=
  { signed with context := { signed.context with
      evidenceSummary := signed.context.evidenceSummary ++ fields } }

/-- Only node registrations have their payload inspected; the projection joins the summary. -/
def appendRegistrationProjection (signed : SignedVerifiedCallContext) (payload : List UInt8)
    (d : OperationDescriptor) (timestamp : UInt64) : Except Refusal SignedVerifiedCallContext :=
  if signed.context.operation = NodeRegistration.nodeRegistrationOperation then
    match NodeRegistration.validateVerifiedRegistrationRoute crates payload signed.context d
        timestamp with
    | .ok projection => .ok (extendSummary signed projection)
    | .error reason => .error ⟨signed, reason.asStr, .receipt⟩
  else .ok signed

def checkAuthorityMode (signed : SignedVerifiedCallContext) (d : OperationDescriptor) :
    Except Refusal Unit :=
  match d.requiredAuthorityMode with
  | none => .ok ()
  | some required =>
    match AuthorityMode.fromVerifiedSummary signed.context.evidenceSummary with
    | .ok observed =>
      let decision := AuthorityModePolicyDecision.evaluate observed required
      if decision.isSatisfied then .ok ()
      else .error ⟨signed, decision.reason.getD "authority_mode_downgrade",
        .receiptWithSummary decision.redactedSummaryFields⟩
    | .error error => .error ⟨signed, error.reasonCode, .receiptWithSummary
        ["required_authority_mode:" ++ required.asStr, "authority_mode_satisfied:false",
          "reason:" ++ error.reasonCode]⟩

/-- The proof-metadata gate for the opcode, with the binding it grants. -/
def evaluateProofPolicy (context : VerifiedCallContext) (timestamp : UInt64) :
    Except ProofGateReason (Option ProofMetadataBinding) :=
  match router.proofMetadataPolicies context.opcode with
  | none => .ok none
  | some policy =>
    match router.proofKeyRegistry with
    | none => .error .missingProofKeyRegistryEntry
    | some registry =>
      (ProofKeys.evaluateMetadata registry timestamp context.proofMetadata
        policy.requiredTier policy.requireActive).map some

def checkProofMetadata (signed : SignedVerifiedCallContext) (timestamp : UInt64) :
    Except Refusal (Option ProofMetadataBinding) :=
  match evaluateProofPolicy router signed.context timestamp with
  | .ok binding => .ok binding
  | .error reason => .error ⟨signed, reason.reasonCode, .receipt⟩

/-- What a context that passed the preflight is routed with: the registration projection is in
`routed`, the proof binding only in `receiptSigned`. -/
structure Admitted where
  descriptor : OperationDescriptor
  routed : SignedVerifiedCallContext
  receiptSigned : SignedVerifiedCallContext

def withBinding (signed : SignedVerifiedCallContext) :
    Option ProofMetadataBinding → SignedVerifiedCallContext
  | none => signed
  | some binding =>
    extendSummary signed binding.redactionSafeSummaryFields

def checkSigner (signed : SignedVerifiedCallContext) (timestamp : UInt64) : Except Refusal Unit :=
  match verifySigner crates router signed timestamp with
  | .ok _ => .ok ()
  | .error error => .error ⟨signed, error.reasonCode,
      if shouldEmitSignedContextReject error then .receipt else .silent⟩

/-- The active descriptor of a context that matches the manifest. -/
def checkDescriptor (signed : SignedVerifiedCallContext) : Except Refusal OperationDescriptor :=
  if signedContextMatchesActiveManifest crates router signed.context = false then
    .error ⟨signed, descriptorContextMismatchReason, .receipt⟩
  else if productionContextUsesDevDescriptor router signed then
    .error ⟨signed, VerificationError.reasonCode .prototypeOperationNotProductionAuthorized,
      .receipt⟩
  else match router.manifest.lookup signed.context.opcode with
    | .ok d => .ok d
    -- the match above already found a descriptor
    | .error _ => .error ⟨signed, descriptorContextMismatchReason, .receipt⟩

def preflight (signed : SignedVerifiedCallContext) (payload : List UInt8) (timestamp : UInt64) :
    Except Refusal Admitted := do
  checkSigner crates router signed timestamp
  let d ← checkDescriptor crates router signed
  let routed ← appendRegistrationProjection crates signed payload d timestamp
  checkAuthorityMode routed d
  let binding ← checkProofMetadata router routed timestamp
  return ⟨d, routed, withBinding routed binding⟩

def permissionDenial (context : VerifiedCallContext) (timestamp : UInt64) :
    Option PermissionPolicy.DenyReason :=
  match router.permissionPolicy with
  | none => none
  | some policy =>
    match policy.evaluate context.subject.subjectId context.opcode context.operation
        (context.resource.getD "") timestamp with
    | .ok _ => none
    | .error deny => some deny

end Gates

/-! ## What is put on record -/

section Records

variable (crates : Crates) (router : ConfigurableRouter)

def contextReceiptSuffix (context : VerifiedCallContext) : String :=
  context.contextId ++ "-" ++ lowerHex (context.packetHash.val.take 8)

def receiptId (kind : String) (timestamp : UInt64) (context : VerifiedCallContext) : String :=
  "receipt-" ++ kind ++ "-" ++ decimal timestamp.toNat ++ "-" ++ hexByte context.opcode ++ "-" ++
    contextReceiptSuffix context

/-- A receipt that cannot be signed or stored is dropped; the call goes on. -/
def recordSignedReceipt (receipt : Receipt) : Program Unit :=
  match signReceipt crates router.identity receipt with
  | .error _ => pure ()
  | .ok signed => do
    let _ ← recordReceiptWithEmittedEvent signed
    return ()

def recordOperationEvent (eventKind : ReceiptEventKind) (signed : SignedVerifiedCallContext)
    (timestamp : UInt64) (reason : Option String) : Program Unit := do
  let _ ← recordEvent {
    timestamp := asI64 timestamp
    eventKind := eventKind
    packetHash := some signed.context.packetHash
    opcode := some signed.context.opcode
    operation := some signed.context.operation
    handlerId := signed.context.handlerId
    reason := reason }
  return ()

def recordVerifiedRejectReceipt (signed : SignedVerifiedCallContext) (reason : String)
    (timestamp : UInt64) : Program String := do
  let id := receiptId "reject" timestamp signed.context
  recordSignedReceipt crates router (.rejectFromVerifiedContext id signed.context reason timestamp)
  return id

def recordAuthorityModeRejectReceipt (signed : SignedVerifiedCallContext) (reason : String)
    (summary : List String) (timestamp : UInt64) : Program String := do
  let id := receiptId "reject" timestamp signed.context
  recordSignedReceipt crates router
    { Receipt.rejectFromVerifiedContext id signed.context reason timestamp with
      evidenceSummary := summary }
  return id

def recordVerifyReceipt (signed : SignedVerifiedCallContext) (timestamp : UInt64) :
    Program String := do
  let id := receiptId "verify" timestamp signed.context
  recordSignedReceipt crates router (.verifyFromSignedContext crates id signed timestamp)
  recordOperationEvent .packetVerified signed timestamp none
  return id

def recordExecutionReceipt (signed : SignedVerifiedCallContext) (decision : Decision)
    (reason : Option String) (timestamp : UInt64) : Program String := do
  let id := receiptId "execute" timestamp signed.context
  recordSignedReceipt crates router
    (.execution crates id signed.context decision reason timestamp)
  return id

/-- The strict variant for operations with an output profile: `none` when the receipt could not
be built, signed or stored. -/
def recordExecutionReceiptRequired (signed : SignedVerifiedCallContext) (decision : Decision)
    (reason : Option String) (timestamp : UInt64) (outputSchema : Option String)
    (output : Option (List UInt8)) : Program (Option String) :=
  let id := receiptId "execute" timestamp signed.context
  match Receipt.executionWithOutput crates id signed.context decision reason timestamp
      outputSchema output with
  | .error _ => pure none
  | .ok receipt =>
    match signReceipt crates router.identity receipt with
    | .error _ => pure none
    | .ok signed => do
      let stored ← recordReceiptWithEmittedEvent signed
      return stored.map fun _ => id

end Records

/-! ## Routing -/

/-- What a call returns, with the two task-local slots the execution transport reads. -/
structure Routed where
  response : DecisionResponse
  executionStarted : Bool
  projection : Option ExecutionRouteProjection
  deriving DecidableEq

section Route

variable (crates : Crates) (router : ConfigurableRouter)

def refuse (refusal : Refusal) (timestamp : UInt64) : Program Routed := do
  let contextId := some refusal.signed.context.contextId
  match refusal.record with
  | .silent => return ⟨.rejected refusal.reason contextId none, false, none⟩
  | .receipt =>
    let id ← recordVerifiedRejectReceipt crates router refusal.signed refusal.reason timestamp
    recordOperationEvent .packetRejected refusal.signed timestamp (some refusal.reason)
    return ⟨.rejected refusal.reason contextId (some id), false, none⟩
  | .receiptWithSummary summary =>
    let id ← recordAuthorityModeRejectReceipt crates router refusal.signed refusal.reason summary
      timestamp
    recordOperationEvent .packetRejected refusal.signed timestamp (some refusal.reason)
    return ⟨.rejected refusal.reason contextId (some id), false, none⟩

/-- A refusal after the reservation, on record as a failed execution. -/
def refuseExecution (signed : SignedVerifiedCallContext) (reason : String) (timestamp : UInt64) :
    Program Routed := do
  let id ← recordExecutionReceipt crates router signed .rejected (some reason) timestamp
  recordOperationEvent .handlerFailed signed timestamp (some reason)
  return ⟨.rejected reason (some signed.context.contextId) (some id), false, none⟩

def scopedNullifierStorageFailedReason : String := "scoped_nullifier_storage_failed"

/-- The one-use gate; the result is the reason for refusing. -/
def enforceScopedUse (context : VerifiedCallContext) (timestamp : UInt64) :
    Program (Option String) :=
  if scopedUseRequired context then
    match ScopedNullifierEvidence.fromContext crates context with
    | .error reason => pure (some reason.asStr)
    | .ok evidence => do
      match ← recordScopedNullifierUse crates evidence context timestamp with
      | some .recorded => return none
      | some .duplicate => return some NullifierReason.duplicateNullifier.asStr
      | none => return some scopedNullifierStorageFailedReason
  else pure none

/-- The execute receipt, strict for operations with an output profile: `none` is a transport
failure. -/
def recordOutcomeReceipt (d : OperationDescriptor) (signed : SignedVerifiedCallContext)
    (decision : Decision) (reason : Option String) (output : Option (List UInt8))
    (timestamp : UInt64) : Program (Option String) :=
  match d.outputProfile with
  | some profile => recordExecutionReceiptRequired crates router signed decision reason timestamp
      (output.map fun _ => profile.schemaId) output
  | none => do
    let id ← recordExecutionReceipt crates router signed decision reason timestamp
    return some id

def transportFailure (context : VerifiedCallContext) : Routed :=
  ⟨.rejected "execution_transport_failure" (some context.contextId) none, true, none⟩

def postStartExecutionRejection (d : OperationDescriptor) (signed : SignedVerifiedCallContext)
    (reason : String) (timestamp : UInt64) : Program Routed := do
  match ← recordOutcomeReceipt crates router d signed .rejected (some reason) none timestamp with
  | none => return transportFailure signed.context
  | some id =>
    recordOperationEvent .handlerFailed signed timestamp (some reason)
    return ⟨.rejected reason (some signed.context.contextId) (some id), true, none⟩

def handlerLimits (d : OperationDescriptor) : ExecutionLimits :=
  match d.outputProfile with
  | none => router.limits
  | some profile => { router.limits with
      maxOutputBytes := min router.limits.maxOutputBytes profile.maxOutputBytes }

def normalizeHandlerOutcome (d : OperationDescriptor) (limits : ExecutionLimits)
    (outcome : HandlerOutcome) : HandlerOutcome :=
  if outcome.decision = .rejected ∧ outcome.output.isSome then
    .rejected "handler_output_unexpected"
  else if outcome.output.any (limits.maxOutputBytes < ·.length) then .rejected "output_too_large"
  else if d.outputProfile = none ∧ outcome.output.isSome then
    .rejected "handler_output_unexpected"
  else if d.outputProfile.isSome ∧ outcome.decision = .accepted ∧ outcome.output = none then
    .rejected "handler_output_missing"
  else outcome

def executionProjection (context : VerifiedCallContext) (profile : OutputProfile)
    (receiptId : String) (outcome : HandlerOutcome) : ExecutionRouteProjection :=
  match outcome.decision with
  | .accepted => {
      status := .executed
      reasonCode := none
      contextId := some context.contextId
      receiptId := some receiptId
      outputSchema := some profile.schemaId
      output := outcome.output }
  | .rejected => {
      status := .executionRejected
      reasonCode := some (outcome.reason.getD "handler_rejected")
      contextId := some context.contextId
      receiptId := some receiptId
      outputSchema := none
      output := none }

/-- The response of a finished handler run. -/
def outcomeResponse (context : VerifiedCallContext) (d : OperationDescriptor) (id : String)
    (outcome : HandlerOutcome) : Routed :=
  let response := match outcome.decision with
    | .accepted => DecisionResponse.accepted (some context.contextId) (some id)
    | .rejected => DecisionResponse.rejected (outcome.reason.getD "handler_rejected")
        (some context.contextId) (some id)
  ⟨response, true, d.outputProfile.map fun profile =>
    executionProjection context profile id outcome⟩

def outcomeEventKind : Decision → ReceiptEventKind
  | .accepted => .handlerSucceeded
  | .rejected => .handlerFailed

/-- After the handler: the execute receipt, the closing event and the response. -/
def concludeExecution (admitted : Admitted) (outcome : HandlerOutcome) (timestamp : UInt64) :
    Program Routed := do
  match ← recordOutcomeReceipt crates router admitted.descriptor admitted.receiptSigned
      outcome.decision outcome.reason outcome.output timestamp with
  | none => return transportFailure admitted.routed.context
  | some id =>
    recordOperationEvent (outcomeEventKind outcome.decision) admitted.routed timestamp
      outcome.reason
    return outcomeResponse admitted.routed.context admitted.descriptor id outcome

/-- Starting the program registered for a handler id. -/
def startHandler (admitted : Admitted) (handlerId : String) (payload : List UInt8)
    (timestamp : UInt64) : Program Routed := do
  recordOperationEvent .handlerStarted admitted.routed timestamp
    (some ("payload_size:" ++ decimal payload.length))
  let limits := handlerLimits router admitted.descriptor
  let outcome ← Prog.perform (Cmd.execute handlerId admitted.routed.context payload limits)
  let outcome := outcome.getD (.rejected "handler_timeout")
  concludeExecution crates router admitted
    (normalizeHandlerOutcome admitted.descriptor limits outcome) timestamp

def dispatch (admitted : Admitted) (payload : List UInt8) (timestamp : UInt64) :
    Program Routed :=
  let reject := fun reason => postStartExecutionRejection crates router admitted.descriptor
    admitted.receiptSigned reason timestamp
  if router.limits.maxPayloadBytes < payload.length then reject "payload_too_large"
  else match admitted.routed.context.handlerId with
    | none => reject "handler_unavailable"
    | some handlerId =>
      if router.programs handlerId then
        startHandler crates router admitted handlerId payload timestamp
      else reject "handler_unavailable"

/-- Telemetry and the verify receipt, once the reservations are made. -/
def announce (admitted : Admitted) (payload : List UInt8) (timestamp : UInt64) :
    Program Unit := do
  let context := admitted.routed.context
  let _ ← sql (.insertTelemetry ⟨context.opcode, payload.length, context.operation⟩)
  let _ ← recordVerifyReceipt crates router admitted.receiptSigned timestamp
  recordOperationEvent .operationRouted admitted.routed timestamp none

/-- Once the reservation and the scoped use are this call's own: the permission gate and the
handler. -/
def routeOwned (admitted : Admitted) (payload : List UInt8) (timestamp : UInt64) :
    Program Routed := do
  announce crates router admitted payload timestamp
  match permissionDenial router admitted.routed.context timestamp with
  | some deny => refuseExecution crates router admitted.routed deny.code timestamp
  | none => dispatch crates router admitted payload timestamp

def routeReserved (admitted : Admitted) (payload : List UInt8) (timestamp : UInt64) :
    Program Routed := do
  match ← enforceScopedUse crates admitted.routed.context timestamp with
  | some reason => refuseExecution crates router admitted.routed reason timestamp
  | none => routeOwned crates router admitted payload timestamp

def routeAdmitted (admitted : Admitted) (payload : List UInt8) (timestamp : UInt64) :
    Program Routed := do
  let routed := admitted.routed
  match ← reserveReplay routed.context routed.signerKeyId timestamp with
  | none => refuse crates router ⟨routed, replayReservationFailedReason, .receipt⟩ timestamp
  | some .duplicate => refuse crates router ⟨routed, replayDetectedReason, .receipt⟩ timestamp
  | some .reserved => routeReserved crates router admitted payload timestamp

def routeVerified (signed : SignedVerifiedCallContext) (payload : List UInt8) :
    Program Routed := do
  let timestamp ← readClock
  match preflight crates router signed payload timestamp with
  | .error refusal => refuse crates router refusal timestamp
  | .ok admitted => routeAdmitted crates router admitted payload timestamp

end Route

end GatewayRouter
