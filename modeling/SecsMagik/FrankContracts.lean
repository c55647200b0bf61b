import SecsMagik.CallContext
import SecsMagik.RawJson
import SecsMagik.StrictJson

/-! # The result contract

The works, results and selectors that the result authority reads, with the checks it makes of them
before it trusts a capture and again when it audits its journal. Every error of these modules is
the one `FrankResultError`, so a check that fails returns `none`.
-/
namespace FrankContracts

open RustStd
open ExternalCrates (Crates)
open CanonicalJson (Json)

/-! ## Texts -/

def sha (crates : Crates) (b : List UInt8) : String := lowerHex (crates.sha256 b).val

/-- `emit`: members in the order of their keys. -/
def emit : Json → List Char :=
  Json.fold Json.writeScalar (JsonText.array id) fun members =>
    JsonText.object id (members.insertionSort (·.1 ≤ ·.1))

def json (v : Json) : List UInt8 := (emit v).flatMap String.utf8EncodeChar

def identifier (s : String) : Bool :=
  let b := utf8 s
  b ≠ [] && b.length ≤ 128 && b.head?.any isAsciiAlphanumeric &&
    b.all fun c => isAsciiAlphanumeric c || (utf8 "._:-").contains c

/-- The check of `digest`; the bytes it returns as well are those the digits spell. -/
def digest (s : String) : Bool := byteLen s = 64 && (utf8 s).all isLowerHexByte

/-! ## Works and results -/

/-- The raw JSON of `fence` is kept as text. -/
structure Binding where
  runId : String
  stepId : String
  attemptId : String
  fence : String
  deriving DecidableEq

def Binding.validate (b : Binding) : Bool :=
  [b.runId, b.stepId, b.attemptId].all identifier && b.fence ≠ "0" &&
    (utf8 b.fence).all isAsciiDigit

structure Work where
  schema : String
  binding : Binding
  actorId : String
  integrationId : String
  route : String
  effectId : String
  operation : String
  scope : String
  inputs : String
  outputTypes : String
  deriving DecidableEq

structure Terminal where
  schema : String
  eventId : String
  binding : Binding
  actorId : String
  integrationId : String
  route : String
  effectId : String
  providerReference : String
  outcome : String
  outputs : String
  deriving DecidableEq

structure Payload where
  schema : String
  workSha256 : String
  result : String
  deriving DecidableEq

namespace Work

def resource (w : Work) : String :=
  "runs/" ++ w.binding.runId ++ "/steps/" ++ w.binding.stepId ++ "/attempts/" ++
    w.binding.attemptId ++ "/effects/" ++ w.effectId

def effect (crates : Crates) (w : Work) : String :=
  sha crates (json (.array ([w.binding.runId, w.binding.stepId, w.binding.attemptId,
    w.binding.fence, w.actorId, w.integrationId, w.route, w.effectId].map .string)))

end Work

/-! ## Selectors and captured documents -/

structure Selector where
  schema : String
  captureId : String
  renewalOf : Option String
  deriving DecidableEq

structure ConnectorSelector where
  schema : String
  effectKey : String
  workSha256 : String
  bodySha256 : String
  payloadSha256 : String
  resource : String
  policySha256 : String
  provenanceSha256 : String
  originalSha256 : String
  integrationId : String
  eventId : String
  renewalOf : Option String
  deriving DecidableEq

structure ConnectorPolicy where
  kind : String
  integrationId : String
  actorId : String
  route : String
  configurationSha256 : String
  artifactSha256 : String
  normalizationSha256 : String
  deriving DecidableEq

structure HermesProvenance where
  kind : String
  sessionId : String
  taskId : String
  promptSha256 : String
  finalResponseSha256 : String
  outputsSha256 : String
  interruption : String
  deriving DecidableEq

structure HermesOriginal where
  finalResponse : String
  deriving DecidableEq

structure Reservation where
  schema : String
  reservationId : String
  workSha256 : String
  configurationSha256 : String
  deriving DecidableEq

/-- The observations are read when a capture is loaded only. -/
structure Receipt where
  schema : String
  reservationId : String
  workSha256 : String
  payloadSha256 : String
  unsignedResultSha256 : String
  producerArtifactSha256 : String
  normalizerSha256 : String
  configurationSha256 : String
  sourceManifestSha256 : String
  operation : String
  outcome : String
  completionKind : String
  deriving DecidableEq

/-- The entries are read when a capture is loaded only. -/
structure Manifest where
  schema : String
  producerArtifactSha256 : String
  normalizerSha256 : String
  configurationSha256 : String
  deriving DecidableEq

/-- `serde_json::to_value`: the members of a map in the order of their keys. -/
def texts (members : List (String × Option String)) : Json :=
  .object (members.map fun m => (m.1, m.2.elim .null .string))

def ConnectorSelector.toValue (s : ConnectorSelector) : Json :=
  texts [("body_sha256", some s.bodySha256), ("effect_key", some s.effectKey),
    ("event_id", some s.eventId), ("integration_id", some s.integrationId),
    ("original_sha256", some s.originalSha256), ("payload_sha256", some s.payloadSha256),
    ("policy_sha256", some s.policySha256), ("provenance_sha256", some s.provenanceSha256),
    ("renewal_of", s.renewalOf), ("resource", some s.resource), ("schema", some s.schema),
    ("work_sha256", some s.workSha256)]

def ConnectorPolicy.toValue (p : ConnectorPolicy) : Json :=
  texts [("actor_id", some p.actorId), ("artifact_sha256", some p.artifactSha256),
    ("configuration_sha256", some p.configurationSha256),
    ("integration_id", some p.integrationId), ("kind", some p.kind),
    ("normalization_sha256", some p.normalizationSha256), ("route", some p.route)]

def HermesProvenance.toValue (p : HermesProvenance) : Json :=
  texts [("final_response_sha256", some p.finalResponseSha256),
    ("interruption", some p.interruption), ("kind", some p.kind),
    ("outputs_sha256", some p.outputsSha256), ("prompt_sha256", some p.promptSha256),
    ("session_id", some p.sessionId), ("task_id", some p.taskId)]

def HermesOriginal.toValue (o : HermesOriginal) : Json :=
  texts [("final_response", some o.finalResponse)]

/-! ## Reading -/

/-- What `serde_json` and `bincode` make of a byte string, type by type. -/
structure Readers where
  /-- the tree the bytes spell, with the members of an object as they come -/
  tree : List UInt8 → Option Json
  /-- what the raw scanner of the contract leaves to the libraries -/
  outside : RawJson.Outside
  work : List UInt8 → Option Work
  payload : List UInt8 → Option Payload
  terminal : List UInt8 → Option Terminal
  /-- `BTreeMap<String, Box<RawValue>>` -/
  object : List UInt8 → Option (List (String × String))
  selector : List UInt8 → Option Selector
  receipt : List UInt8 → Option Receipt
  reservation : List UInt8 → Option Reservation
  manifest : List UInt8 → Option Manifest
  connectorSelector : List UInt8 → Option ConnectorSelector
  connectorPolicy : List UInt8 → Option ConnectorPolicy
  hermesProvenance : List UInt8 → Option HermesProvenance
  hermesOriginal : List UInt8 → Option HermesOriginal
  value : List UInt8 → Option Json
  /-- `bincode`, with the bytes behind the context -/
  signedContext : List UInt8 → Option (CallContext.SignedVerifiedCallContext × List UInt8)

variable (crates : Crates) (readers : Readers)

/-- `contract::metadata` for the type that `read` reads. -/
def metadata {α : Type} (read : List UInt8 → Option α) (b : List UInt8) (max : ℕ) : Option α := do
  let _ ← (StrictJson.strictJson readers.tree b max).toOption
  read b

def rawJson (b : List UInt8) (max : ℕ) : Option Unit :=
  (RawJson.rawJson readers.outside b max).toOption

/-- `ConnectorCapture::canonical` for the type that `read` reads and `toValue` writes. -/
def canonical {α : Type} (read : List UInt8 → Option α) (toValue : α → Json) (raw : List UInt8)
    (max : ℕ) : Option α := do
  rawJson readers raw max
  let value ← read raw
  guard (json (toValue value) = raw)
  return value

def workAndResult (work payload : List UInt8) : Option (Work × Terminal × Payload) := do
  rawJson readers work 1048576
  rawJson readers payload 262144
  let w ← readers.work work
  let p ← readers.payload payload
  let r ← readers.terminal (utf8 p.result)
  guard (w.binding.validate)
  guard (r.binding.validate)
  guard (w.schema = "frank.work.v1" ∧ p.schema = "frank.native-result-payload.v1" ∧
    p.workSha256 = sha crates work ∧ r.schema = "frank.result.v1" ∧ w.binding = r.binding ∧
    w.actorId = r.actorId ∧ w.integrationId = r.integrationId ∧ w.route = r.route ∧
    w.effectId = r.effectId)
  guard ([w.actorId, w.integrationId, w.route, w.effectId, w.operation, r.eventId].all identifier ∧
    w.scope ≠ "" ∧ w.scope.length ≤ 4096 ∧ r.providerReference ≠ "" ∧
    r.providerReference.length ≤ 4096 ∧ r.outcome ∈ ["succeeded", "failed"])
  let _ ← readers.object (utf8 w.inputs)
  let _ ← readers.object (utf8 w.outputTypes)
  let outputs ← readers.object (utf8 r.outputs)
  guard (r.outcome = "failed" → outputs = [])
  return (w, r, p)

/-! ## Stored selectors -/

/-- What both readers of a connector selector ask of its texts. -/
def ConnectorSelector.wellFormed (s : ConnectorSelector) : Bool :=
  s.schema = "frank.connector-result-selector.v1" &&
    [s.effectKey, s.integrationId, s.eventId].all identifier &&
    [s.workSha256, s.bodySha256, s.payloadSha256, s.policySha256, s.provenanceSha256,
      s.originalSha256].all digest

/-- The selector of the first attestation of the capture. -/
def ConnectorSelector.base (s : ConnectorSelector) : ConnectorSelector :=
  { s with renewalOf := none }

/-- `selector.renewal_of.as_deref().unwrap_or("")` -/
def parentOf (renewalOf : Option String) : String := renewalOf.getD ""

def checkStoredSelector (raw : List UInt8) (captureId parent : String) : Option Unit :=
  match metadata readers readers.selector raw 1024 with
  | some selector =>
    guard (selector.schema = "frank.result-capture-selector.v1" ∧
      selector.captureId = captureId ∧ parentOf selector.renewalOf = parent)
  | none => do
    let selector ← canonical readers readers.connectorSelector ConnectorSelector.toValue raw 16384
    guard (selector.wellFormed ∧ parentOf selector.renewalOf = parent)
    guard (sha crates (json selector.base.toValue) = captureId)

end FrankContracts
