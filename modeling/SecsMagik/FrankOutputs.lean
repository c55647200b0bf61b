import SecsMagik.FrankContracts
import SecsMagik.IngressFraming

/-! # Result outputs

An output is a signed packet with its context, the envelope that exports both and the window in
which it may be exported. The journal keeps the bytes of every output and audits them against the
capture they attest.
-/
namespace FrankOutputs

open RustStd WireCodec
open ExternalCrates (Crates Strict)
open CallContext
open CallerProof (ZenithPacket)
open FrankContracts

structure Output where
  envelope : List UInt8
  packet : List UInt8
  context : List UInt8
  issued : UInt64
  expires : UInt64
  deriving DecidableEq

/-! ## Bytes -/

def maxRecord : ℕ := 2 * 1024 * 1024

def maxPacket : ℕ := 262144 + 16384 + 69

def maxContext : ℕ := 65536

def maxEnvelope : ℕ := 1048576

/-- `deserialize` with trailing bytes rejected; the limit on the bytes read is the caller's limit on
the whole input. -/
def readExact {α : Type} (reader : Reader Unit α) (b : List UInt8) : Option α :=
  match reader.run b with
  | .ok (a, []) => some a
  | _ => none

theorem readExact_eq_some {α : Type} {reader : Reader Unit α} {enc : α → List UInt8} {ok : α → Prop}
    (h : Reads reader enc ok) {b : List UInt8} {a : α} :
    readExact reader b = some a ↔ ok a ∧ b = enc a := by
  have hread := h b a []
  rw [List.append_nil] at hread
  rw [← hread, readExact]
  split
  · next a' heq => rw [heq]; simp
  · next hne => exact iff_of_false nofun fun heq => hne a heq

/-- `bincode::serialize(&signed)` -/
def signedBytes (s : SignedVerifiedCallContext) : List UInt8 :=
  s.context.serialize ++ Bincode.str s.signerKeyId ++
    Bincode.variant s.authenticatorKind.index ++ Bincode.bytes s.signature

/-- `Vec<Vec<u8>>` -/
def partsReader : Reader Unit (List (List UInt8)) := do
  let count ← uintLe () 8
  times (counted ()) count

namespace Output

def encode (o : Output) : List UInt8 :=
  Bincode.bytes o.envelope ++ Bincode.bytes o.packet ++ Bincode.bytes o.context ++
    Bincode.u64 o.issued ++ Bincode.u64 o.expires

def reader : Reader Unit Output := do
  let envelope ← counted ()
  let packet ← counted ()
  let context ← counted ()
  let issued ← u64Le ()
  let expires ← u64Le ()
  return ⟨envelope, packet, context, issued, expires⟩

def decode (b : List UInt8) : Option Output := do
  guard (b.length ≤ maxRecord)
  let o ← readExact reader b
  guard (o.encode = b)
  return o

def envelopeHash (crates : Crates) (o : Output) : String := sha crates o.envelope

def window (o : Output) (n : UInt64) : Bool :=
  o.issued ≠ 0 && o.issued < o.expires && o.issued ≤ n && n < o.expires &&
    o.expires - o.issued ≤ 60

/-- The digest of what a receiver refuses to see twice. -/
def replay (crates : Crates) (readers : Readers) (o : Output) : Option String := do
  let (signed, _) ← readers.signedContext o.context
  return sha crates (Bincode.str signed.context.subject.subjectId ++ signed.context.sessionId.val ++
    [signed.context.opcode] ++ signed.context.nonce.val)

def envelopeOf (packet context : List UInt8) : List UInt8 :=
  json (texts [("packet_hex", some (lowerHex packet)),
    ("schema", some "frank.secs-result-envelope.v1"),
    ("signed_context_hex", some (lowerHex context))])

end Output

/-! ## Audit -/

section Audit

variable (crates : Crates) (strict : Strict crates) (readers : Readers)

/-- The checks of a capture made from a local review. -/
def localWork (id : String) (work payload receipt reservation manifest : List UInt8) :
    Option Work := do
  let (w, r, p) ← workAndResult crates readers work payload
  let receipt ← metadata readers readers.receipt receipt 16384
  let reserved ← metadata readers readers.reservation reservation 16384
  let listed ← metadata readers readers.manifest manifest 16384
  guard (id = sha crates reservation ∧ reserved.schema = "frank.local-review.reservation.v1" ∧
    receipt.schema = "frank.local-review.capture.v1" ∧
    listed.schema = "frank.local-review.source-manifest.v1" ∧
    receipt.reservationId = reserved.reservationId ∧ receipt.workSha256 = sha crates work ∧
    reserved.workSha256 = receipt.workSha256 ∧ receipt.payloadSha256 = sha crates payload ∧
    receipt.unsignedResultSha256 = sha crates (utf8 p.result) ∧
    receipt.sourceManifestSha256 = sha crates manifest ∧ receipt.operation = w.operation ∧
    receipt.outcome = r.outcome ∧
    r.providerReference = "local-review:" ++ reserved.reservationId)
  return w

/-- The checks of a capture made from a connector's journal. -/
def connectorWork (id : String)
    (work payload policy body provenance original selector : List UInt8) : Option Work := do
  let (w, r, p) ← workAndResult crates readers work payload
  let policed ← canonical readers readers.connectorPolicy ConnectorPolicy.toValue policy 16384
  let _ ← canonical readers readers.value (fun v => v) body 262144
  let proven ← canonical readers readers.hermesProvenance HermesProvenance.toValue provenance 16384
  let output ← canonical readers readers.hermesOriginal HermesOriginal.toValue original 1048576
  let selected ← canonical readers readers.connectorSelector ConnectorSelector.toValue
    selector 16384
  checkStoredSelector crates readers selector id ""
  guard (selected.renewalOf = none ∧ selected.workSha256 = sha crates work ∧
    selected.payloadSha256 = sha crates payload ∧ selected.policySha256 = sha crates policy ∧
    selected.bodySha256 = sha crates body ∧ selected.provenanceSha256 = sha crates provenance ∧
    selected.originalSha256 = sha crates original ∧ selected.resource = w.resource ∧
    selected.integrationId = r.integrationId ∧ selected.eventId = r.eventId ∧
    utf8 p.result = body ∧ policed.kind = "hermes" ∧ policed.integrationId = w.integrationId ∧
    policed.actorId = w.actorId ∧ policed.route = w.route ∧ r.providerReference = w.effectId ∧
    proven.kind = "hermes" ∧ proven.sessionId = w.effectId ∧ proven.taskId = w.effectId ∧
    proven.interruption = "returned-final-response" ∧
    proven.finalResponseSha256 = sha crates (utf8 output.finalResponse) ∧
    proven.outputsSha256 = sha crates (utf8 r.outputs))
  guard ([policed.configurationSha256, policed.artifactSha256, policed.normalizationSha256,
    proven.promptSha256, proven.finalResponseSha256, proven.outputsSha256].all digest)
  return w

/-- The work a retained original stands for, and the payload it carries. -/
def originalWork (id : String) (original : List UInt8) : Option (Work × List UInt8) := do
  guard (original.length ≤ maxRecord)
  let raw ← readExact partsReader original
  guard (Bincode.vec Bincode.bytes raw = original)
  match raw with
  | [work, payload, receipt, reservation, manifest] => do
    let w ← localWork crates readers id work payload receipt reservation manifest
    return (w, payload)
  | [tag, work, payload, policy, body, provenance, output, selector] => do
    guard (tag = utf8 "frank.connector.capture.v1")
    let w ← connectorWork crates readers id work payload policy body provenance output selector
    return (w, payload)
  | _ => none

/-- The checks of the signed packet in an output for the work `w`. -/
def Output.signedCheck (o : Output) (w : Work) (payload : List UInt8) (publicKey : Bytes 32) :
    Option Unit := do
  guard (o.packet.length ≤ maxPacket ∧ o.context.length ≤ maxContext ∧
    o.envelope.length ≤ maxEnvelope ∧ o.issued ≠ 0 ∧ o.issued < o.expires ∧
    o.expires - o.issued ≤ 60)
  let p ← IngressFraming.deserializeExact o.packet
  let (s, rest) ← readers.signedContext o.context
  guard (rest = [])
  guard (p.serialize = o.packet ∧ signedBytes s = o.context ∧ p.sessionId ≠ Bytes.filled 16 0 ∧
    p.nonce ≠ Bytes.filled 12 0 ∧ p.mac = Bytes.filled 16 0 ∧ p.encryptedPayload = payload ∧
    p.claimTtl = o.expires - o.issued ∧ s.context.schemaVersion = 4 ∧
    s.context.packetHash = crates.sha256 o.packet ∧ s.context.sessionId = p.sessionId ∧
    s.context.nonce = p.nonce ∧ s.context.opcode = p.opcode ∧
    s.context.operation = "frank.result.attest.v1" ∧
    s.context.audience = "frank://result-receiver" ∧ s.context.resource = some w.resource ∧
    s.context.issuedAt = o.issued ∧ s.context.expiresAt = o.expires ∧
    s.context.replayScope = "session:opcode:nonce" ∧
    s.authenticatorKind = .ed25519NodeAndVerifier)
  let signature ← signatureFromSlice s.signature
  guard (strict.verifyStrict publicKey s.context.serialize signature)
  guard (o.envelope = Output.envelopeOf o.packet o.context)

def Output.ledgerCheck (o : Output) (id effect : String) (original : List UInt8)
    (publicKey : Bytes 32) : Option Unit := do
  let (w, payload) ← originalWork crates readers id original
  guard (effect = w.effect crates)
  o.signedCheck crates strict readers w payload publicKey

end Audit

/-! ## Round trips -/

theorem Output.reads_reader : Reads Output.reader Output.encode fun o =>
    o.envelope.length < 256 ^ 8 ∧ o.packet.length < 256 ^ 8 ∧ o.context.length < 256 ^ 8 := by
  refine Reads.congr
    (Reads.bind Output.envelope (reads_counted ()) (fun envelope _ =>
    Reads.bind Output.packet (reads_counted ()) (fun packet _ =>
    Reads.bind Output.context (reads_counted ()) (fun context _ =>
    Reads.bind Output.issued (reads_u64Le ()) (fun issued _ =>
    Reads.bind Output.expires (reads_u64Le ()) (fun expires _ =>
    reads_pure (⟨envelope, packet, context, issued, expires⟩ : Output))
      ?_) ?_) ?_) ?_) ?_) (fun o => ?ok) fun o _ => ?layout
  case ok =>
    constructor
    · rintro ⟨henvelope, hpacket, hcontext, -⟩
      exact ⟨henvelope, hpacket, hcontext⟩
    · rintro ⟨henvelope, hpacket, hcontext⟩
      exact ⟨henvelope, hpacket, hcontext, trivial, trivial, rfl⟩
  case layout => simp [Output.encode]
  -- the output returned last carries each field that was read before
  all_goals grind

theorem Output.length_encode (o : Output) : o.encode.length =
    o.envelope.length + o.packet.length + o.context.length + 40 := by
  simp only [Output.encode, Bincode.bytes, Bincode.usize, Bincode.u64, List.length_append,
    Bincode.length_leBytes]
  omega

theorem Output.decode_eq_some {b : List UInt8} {o : Output} :
    Output.decode b = some o ↔ b.length ≤ maxRecord ∧ b = o.encode := by
  simp only [Output.decode, Option.bind_eq_bind, Option.bind_eq_some_iff, Option.guard_eq_some',
    readExact_eq_some Output.reads_reader, Option.pure_def, Option.some.injEq]
  constructor
  · rintro ⟨-, hlength, o', ⟨-, hb⟩, -, -, rfl⟩
    exact ⟨hlength, hb⟩
  · rintro ⟨hlength, rfl⟩
    have hsize := o.length_encode
    have hmax : maxRecord < 256 ^ 8 := by decide
    exact ⟨(), hlength, o, ⟨⟨by omega, by omega, by omega⟩, rfl⟩, (), rfl, rfl⟩

theorem Output.encode_inj {o o' : Output} (hsize : o.encode.length < 256 ^ 8)
    (h : o.encode = o'.encode) : o = o' := by
  have ho := o.length_encode
  have ho' := o'.length_encode
  rw [h] at hsize ho
  refine (Output.reads_reader.inj ⟨?_, ?_, ?_⟩ ⟨?_, ?_, ?_⟩ (r := []) (s := []) ?_).1
  all_goals first | omega | rw [h]

end FrankOutputs
