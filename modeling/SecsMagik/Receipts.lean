import SecsMagik.ScopedNullifier
import SecsMagik.VerifierKeys

/-! # Signed receipts

A receipt records one decision about a context. Its summary is either the context's own or, when
a scoped use is required, a redacted statement of what became of that use.
-/
namespace Receipts

open RustStd
open ExternalCrates (Crates)
open CallContext ScopedNullifier
open VerifierKeys (NodeVerifierIdentity)

def receiptSchemaVersion : UInt16 := 3

def outputDigestDomain : String := "secs-execution-output-v1/digest"

structure ReceiptOutputProjection where
  schemaId : String
  byteCount : UInt64
  digestSha256 : Bytes 32
  deriving DecidableEq

def ReceiptOutputProjection.fromOutput (crates : Crates) (schemaId : String)
    (output : List UInt8) : Except VerificationError ReceiptOutputProjection :=
  if schemaId = "" then .error .internalError
  else
    let byteCount := UInt64.ofNat output.length
    .ok {
      schemaId := schemaId
      byteCount := byteCount
      digestSha256 := crates.sha256 (utf8 outputDigestDomain ++ Bincode.u64 byteCount ++ output) }

inductive ReceiptKind where
  | reject | verify | execute | forward
  deriving DecidableEq, Repr

def ReceiptKind.asStr : ReceiptKind → String
  | .reject => "reject"
  | .verify => "verify"
  | .execute => "execute"
  | .forward => "forward"

def ReceiptKind.index : ReceiptKind → ℕ
  | .reject => 0
  | .verify => 1
  | .execute => 2
  | .forward => 3

inductive ReceiptEventKind where
  | packetReceived | packetRejected | packetVerified | operationDescribed | operationRouted
  | handlerStarted | handlerSucceeded | handlerFailed | receiptEmitted
  deriving DecidableEq, Repr

structure Receipt where
  schemaVersion : UInt16
  receiptId : String
  contextId : Option String
  kind : ReceiptKind
  packetHash : Bytes 32
  sessionId : Bytes 16
  nonce : Bytes 12
  opcode : UInt8
  operation : Option String
  decision : Decision
  reason : Option String
  handlerId : Option String
  timestamp : UInt64
  authenticatorKind : AuthenticatorKind
  signerKeyId : String
  evidenceSummary : List String
  outputProjection : Option ReceiptOutputProjection
  signature : List UInt8
  deriving DecidableEq

/-- What a receipt says about the required scoped use, from its decision and reason alone. -/
def statedOutcome (decision : Decision) (reason : Option String) : NullifierOutcome :=
  match decision, reason with
  | .accepted, none => .scopedUseRecorded
  | .rejected, none => .missingScopedNullifier
  | decision, some reason =>
    if reason = NullifierOutcome.duplicateNullifier.asStr then .duplicateNullifier
    else if reason = NullifierOutcome.domainMismatch.asStr then .domainMismatch
    else if reason = NullifierOutcome.missingScopedNullifier.asStr then .missingScopedNullifier
    else if reason = NullifierOutcome.unsupportedScope.asStr then .unsupportedScope
    else match decision with
      | .rejected => .missingScopedNullifier
      | .accepted => .scopedUseRecorded

def receiptEvidenceSummary (crates : Crates) (context : VerifiedCallContext)
    (decision : Decision) (reason : Option String) : List String :=
  if scopedUseRequired context = false then context.evidenceSummary
  else
    let outcome := statedOutcome decision reason
    match ScopedNullifierEvidence.fromContext crates context with
    | .ok evidence => privacySafeSummary outcome (some (evidence.domain.fingerprint crates))
        (some (evidence.commitment.fingerprint crates))
    | .error _ => privacySafeSummary outcome none none

namespace Receipt

def rejectFromVerifiedContext (receiptId : String) (context : VerifiedCallContext)
    (reason : String) (timestamp : UInt64) : Receipt where
  schemaVersion := receiptSchemaVersion
  receiptId := receiptId
  contextId := some context.contextId
  kind := .reject
  packetHash := context.packetHash
  sessionId := context.sessionId
  nonce := context.nonce
  opcode := context.opcode
  operation := some context.operation
  decision := .rejected
  reason := some reason
  handlerId := context.handlerId
  timestamp := timestamp
  authenticatorKind := .localDevUntrusted
  signerKeyId := ""
  evidenceSummary := []
  outputProjection := none
  signature := []

def verifyFromSignedContext (crates : Crates) (receiptId : String)
    (signed : SignedVerifiedCallContext) (timestamp : UInt64) : Receipt where
  schemaVersion := receiptSchemaVersion
  receiptId := receiptId
  contextId := some signed.context.contextId
  kind := .verify
  packetHash := signed.context.packetHash
  sessionId := signed.context.sessionId
  nonce := signed.context.nonce
  opcode := signed.context.opcode
  operation := some signed.context.operation
  decision := .accepted
  reason := none
  handlerId := signed.context.handlerId
  timestamp := timestamp
  authenticatorKind := signed.authenticatorKind
  signerKeyId := signed.signerKeyId
  evidenceSummary := receiptEvidenceSummary crates signed.context .accepted none
  outputProjection := none
  signature := []

def execution (crates : Crates) (receiptId : String) (context : VerifiedCallContext)
    (decision : Decision) (reason : Option String) (timestamp : UInt64) : Receipt where
  schemaVersion := receiptSchemaVersion
  receiptId := receiptId
  contextId := some context.contextId
  kind := .execute
  packetHash := context.packetHash
  sessionId := context.sessionId
  nonce := context.nonce
  opcode := context.opcode
  operation := some context.operation
  decision := decision
  reason := reason
  handlerId := context.handlerId
  timestamp := timestamp
  authenticatorKind := .localDevUntrusted
  signerKeyId := ""
  evidenceSummary := receiptEvidenceSummary crates context decision reason
  outputProjection := none
  signature := []

/-- An output is projected only together with its schema and an acceptance. -/
def projectOutput (crates : Crates) (decision : Decision) (outputSchema : Option String)
    (output : Option (List UInt8)) : Except VerificationError (Option ReceiptOutputProjection) :=
  match decision, outputSchema, output with
  | .accepted, some schemaId, some output =>
    (ReceiptOutputProjection.fromOutput crates schemaId output).map some
  | _, none, none => .ok none
  | _, _, _ => .error .internalError

def executionWithOutput (crates : Crates) (receiptId : String) (context : VerifiedCallContext)
    (decision : Decision) (reason : Option String) (timestamp : UInt64)
    (outputSchema : Option String) (output : Option (List UInt8)) :
    Except VerificationError Receipt := do
  let projection ← projectOutput crates decision outputSchema output
  return { execution crates receiptId context decision reason timestamp with
    outputProjection := projection }

/-! ## Signing -/

/-- The fields that every schema version signs, from the kind on. -/
def bodyBytes (r : Receipt) : List UInt8 :=
  Bincode.variant r.kind.index ++ r.packetHash.val ++ r.sessionId.val ++ r.nonce.val ++
    [r.opcode] ++ Bincode.opt Bincode.str r.operation ++
    Bincode.variant r.decision.index ++ Bincode.opt Bincode.str r.reason ++
    Bincode.opt Bincode.str r.handlerId ++ Bincode.u64 r.timestamp ++
    Bincode.variant r.authenticatorKind.index ++ Bincode.str r.signerKeyId

def headBytes (r : Receipt) : List UInt8 :=
  Bincode.u16 r.schemaVersion ++ Bincode.str r.receiptId ++ Bincode.opt Bincode.str r.contextId

def projectionBytes (p : ReceiptOutputProjection) : List UInt8 :=
  Bincode.str p.schemaId ++ Bincode.u64 p.byteCount ++ p.digestSha256.val

-- each version ends with the empty signature field
def unsignedV1 (r : Receipt) : List UInt8 := r.headBytes ++ r.bodyBytes ++ Bincode.bytes []

def unsignedV2 (r : Receipt) : List UInt8 :=
  r.headBytes ++ r.bodyBytes ++ Bincode.vec Bincode.str r.evidenceSummary ++ Bincode.bytes []

def unsignedV3 (r : Receipt) : List UInt8 :=
  r.headBytes ++ r.bodyBytes ++ Bincode.vec Bincode.str r.evidenceSummary ++
    Bincode.opt projectionBytes r.outputProjection ++ Bincode.bytes []

def validateOutputProjection (r : Receipt) : Except VerificationError Unit :=
  if r.schemaVersion = 1 ∧ (r.evidenceSummary ≠ [] ∨ r.outputProjection.isSome) then
    .error .internalError
  else if r.schemaVersion = 2 ∧ r.outputProjection.isSome then .error .internalError
  else if r.schemaVersion ≠ 1 ∧ r.schemaVersion ≠ 2 ∧ r.schemaVersion ≠ 3 then
    .error .internalError
  else match r.outputProjection with
    | none => .ok ()
    | some projection =>
      if r.kind ≠ .execute ∨ r.decision ≠ .accepted ∨ r.reason.isSome ∨
          projection.schemaId = "" then
        .error .internalError
      else .ok ()

def signedPayloadBytes (r : Receipt) : Except VerificationError (List UInt8) := do
  r.validateOutputProjection
  if r.schemaVersion = 1 then .ok r.unsignedV1
  else if r.schemaVersion = 2 ∧ r.outputProjection = none then .ok r.unsignedV2
  else if r.schemaVersion = 3 then .ok r.unsignedV3
  else .error .internalError

def signEd25519 (crates : Crates) (r : Receipt) (signerKeyId : String) (secretKey : Bytes 32)
    (kind : AuthenticatorKind) : Except VerificationError Receipt := do
  let unsigned := { r with signerKeyId := signerKeyId, authenticatorKind := kind, signature := [] }
  let bytes ← unsigned.signedPayloadBytes
  return { unsigned with signature := (crates.sign secretKey bytes).val }

end Receipt

def signReceipt (crates : Crates) (identity : NodeVerifierIdentity) (r : Receipt) :
    Except VerificationError Receipt :=
  r.signEd25519 crates identity.signerKeyId identity.signingKey identity.authenticatorKind

end Receipts
