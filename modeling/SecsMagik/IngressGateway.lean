import SecsMagik.CallVerifier
import SecsMagik.ExecutionRouting
import SecsMagik.IngressFraming

/-! # The ingress gateway

One connection from its bytes to its answer: the request is decoded, its tunnel opened and its
payload decrypted, the verifier signs a context, and the router takes it from there. Whatever fails
on the way is answered with a recorded rejection.
-/
namespace IngressGateway

open RustStd
open ExternalCrates (Crates)
open CallContext ReceiverManifest Evidence
open CallerProof (ZenithPacket u64Be)
open CallVerifier
open Receipts (Receipt ReceiptEventKind receiptSchemaVersion)
open Ledger AtomicPrograms GatewayMachine GatewayRouter RouterTraces ExecutionTransport
open ExecutionRouting IngressFraming
open VerifierKeys (NodeVerifierIdentity)

/-! ## The tunnel -/

/-- The secrets of the receiver process, as parsed from its environment. -/
structure TunnelSecrets where
  /-- `SECS_TUNNEL_X25519_SECRET_HEX` or its legacy name -/
  handshakeSecret : Option (Bytes 32)
  /-- `SECS_TUNNEL_KEY_HEX` or its legacy name -/
  tunnelKey : Option (Bytes 32)

structure SessionTunnelKey where
  key : Bytes 32
  keyId : String

section Tunnel

variable (crates : Crates) (secrets : TunnelSecrets)

def tunnelPublicKeyId (publicKey : Bytes 32) : String :=
  "tunnel:x25519:" ++ lowerHex ((crates.sha256 publicKey.val).val.take 16)

def deriveTunnelKeyHkdf (sharedSecret : Bytes 32) (sessionId : Bytes 16)
    (clientPublic serverPublic : Bytes 32) : Bytes 32 :=
  crates.hkdf (sessionId.val ++ clientPublic.val ++ serverPublic.val) sharedSecret
    (utf8 "secs-magik tunnel key v1")

def packetAad (packet : ZenithPacket) : List UInt8 :=
  packet.sessionId.val ++ [packet.opcode] ++ u64Be packet.claimTtl

/-- An exchange is contributory unless it ends in the identity, whose bytes are all zero. -/
def deriveSessionTunnelKey (packet : ZenithPacket) (clientPublic : Option (Bytes 32)) :
    Except VerificationError (Option SessionTunnelKey) :=
  match clientPublic with
  | none => .ok none
  | some clientPublic =>
    match secrets.handshakeSecret with
    | none => .error .missingTunnelKey
    | some secret =>
      let serverPublic := crates.x25519PublicKey secret
      let sharedSecret := crates.diffieHellman secret clientPublic
      if sharedSecret = Bytes.filled 32 0 then .error .badMac
      else .ok (some {
        key := deriveTunnelKeyHkdf crates sharedSecret packet.sessionId clientPublic
          serverPublic
        keyId := tunnelPublicKeyId crates serverPublic })

def decryptMachinePayloadWithSessionKey (packet : ZenithPacket) (mode : RuntimeMode)
    (sessionKey : Option (Bytes 32)) : Except String (List UInt8) :=
  match sessionKey.or secrets.tunnelKey with
  | some key =>
    (crates.decrypt key packet.nonce packet.encryptedPayload (packetAad packet)).elim
      (.error "ChaCha20Poly1305 authentication failed") .ok
  | none =>
    if mode.allowsPlaintext then .ok packet.encryptedPayload else .error "missing tunnel key"

end Tunnel

/-! ## Rejections -/

section Rejections

variable (crates : Crates) (router : ConfigurableRouter)

def rejectFromPacket (receiptId : String) (packet : ZenithPacket) (error : VerificationError)
    (timestamp : UInt64) : Receipt where
  schemaVersion := receiptSchemaVersion
  receiptId := receiptId
  contextId := none
  kind := .reject
  packetHash := packetHash crates packet
  sessionId := packet.sessionId
  nonce := packet.nonce
  opcode := packet.opcode
  operation := none
  decision := .rejected
  reason := some error.reasonCode
  handlerId := none
  timestamp := timestamp
  authenticatorKind := .localDevUntrusted
  signerKeyId := ""
  evidenceSummary := []
  outputProjection := none
  signature := []

def packetReceiptSuffix (packet : ZenithPacket) : String :=
  lowerHex (packet.nonce.val.drop 4) ++ "-" ++ lowerHex ((packetHash crates packet).val.take 8)

def recordReject (packet : ZenithPacket) (error : VerificationError) : Program String := do
  let timestamp ← readClock
  let receiptId := "receipt-reject-" ++ decimal timestamp.toNat ++ "-" ++ hexByte packet.opcode ++
    "-" ++ packetReceiptSuffix crates packet
  let receipt := rejectFromPacket crates receiptId packet error timestamp
  recordSignedReceipt crates router receipt
  let _ ← recordEvent {
    timestamp := asI64 timestamp
    eventKind := .packetRejected
    packetHash := some receipt.packetHash
    opcode := some packet.opcode
    operation := none
    handlerId := none
    reason := receipt.reason }
  return receiptId

inductive ReceiverFrame where
  | decision (response : DecisionResponse)
  | execution (response : ExecutionResponse)
  deriving DecidableEq

inductive ReceiverResponseMode where
  | legacyDecision | execution
  deriving DecidableEq, Repr

/-- A response that does not fit into a frame is not written. -/
def writeExecutionResponse (response : ExecutionResponse) : Option ReceiverFrame :=
  match response.encodeFrame maxExecutionResponseBytes with
  | .error _ => none
  | .ok _ => some (.execution response)

def signedOutputProfileVerifierRejection (requestDigest : Bytes 32) (reason : String)
    (receiptId : Option String) : Except VerificationError ExecutionResponse :=
  signExecutionResponse crates router.identity (unsignedResponse router requestDigest {
    status := .verifierRejected
    reasonCode := some reason
    contextId := none
    receiptId := receiptId
    outputSchema := none
    output := none })

def writePostDecodeVerifierRejection (packet : ZenithPacket) (error : VerificationError)
    (requestDigest : Bytes 32) (responseMode : ReceiverResponseMode) :
    Program (Option ReceiverFrame) := do
  let receiptId ← recordReject crates router packet error
  match responseMode with
  | .legacyDecision =>
    return some (.decision (.rejected error.reasonCode none (some receiptId)))
  | .execution =>
    match signedOutputProfileVerifierRejection crates router requestDigest error.reasonCode
        (some receiptId) with
    | .error _ => return none
    | .ok response => return writeExecutionResponse response

/-- The packet that stands for bytes that were no request; `sequence` is what the process-wide
counter gave this connection. -/
def preDecodePacket (sequence : UInt64) : ZenithPacket where
  sessionId := Bytes.filled 16 0
  nonce := ⟨List.replicate 4 0 ++ u64Be sequence, by simp [u64Be, Bincode.leBytes]⟩
  opcode := 0
  proof := []
  claimTtl := 0
  encryptedPayload := []
  mac := Bytes.filled 16 0

def recordPreDecodeReject (sequence : UInt64) : Program String :=
  recordReject crates router (preDecodePacket sequence) .malformedPacket

end Rejections

/-! ## The connection -/

/-- A receiver process: its router, the mode it runs in, its secrets and its size limit. -/
structure Receiver where
  router : ConfigurableRouter
  mode : RuntimeMode
  secrets : TunnelSecrets
  maxWireBytes : UInt64

/-- A request whose envelope and tunnel are in order. -/
structure Opened where
  payload : List UInt8
  tunnelKeyId : Option String

def annotateTunnelKeyId (crates : Crates) (signed : SignedVerifiedCallContext)
    (tunnelKeyId : Option String) (identity : NodeVerifierIdentity) : SignedVerifiedCallContext :=
  match tunnelKeyId with
  | none => signed
  | some keyId => identity.signContext crates { signed.context with
      evidenceSummary := signed.context.evidenceSummary ++ ["tunnel_key_id:" ++ keyId] }

namespace Receiver

variable (crates : Crates) (receiver : Receiver)

def responseMode (packet : ZenithPacket) : ReceiverResponseMode :=
  match receiver.router.manifest.lookup packet.opcode with
  | .ok d => if d.outputProfile.isSome then .execution else .legacyDecision
  | .error _ => .legacyDecision

/-- The checks that come before the verifier reads the clock. -/
def openRequest (request : DecodedIngressRequest) : Except VerificationError Opened := do
  verifyPrototypeEnvelope request.packet
  if receiver.mode = .productionVerified ∧ request.clientEphemeralPublicKey = none then
    .error .missingTunnelKey
  let session ← deriveSessionTunnelKey crates receiver.secrets request.packet
    request.clientEphemeralPublicKey
  let payload ← (decryptMachinePayloadWithSessionKey crates receiver.secrets request.packet
    receiver.mode (session.map (·.key))).mapError fun _ => .badMac
  return ⟨payload, session.map (·.keyId)⟩

/-- A request with evidence goes to the configured adapter, one without is judged on the
descriptor. -/
def verifyRequest (request : DecodedIngressRequest) (payload : List UInt8) (now : UInt64) :
    Except VerificationError SignedVerifiedCallContext :=
  let router := receiver.router
  if request.evidenceInputs.isEmpty = false then
    match router.evidenceAdapter with
    | none => .error .insufficientEvidence
    | some adapter =>
      verifyManifestOperationWithLiveEvidenceAndSignForRuntimeWithIdentityAndCaller crates
        request.packet router.manifest router.expectedAudience now request.evidenceInputs payload
        adapter router.identity receiver.mode router.callerKeys
  else
    verifyManifestOperationAndSignForRuntimeWithIdentityAndCaller crates request.packet
      router.manifest router.expectedAudience now router.identity receiver.mode router.callerKeys

def signedContextFor (request : DecodedIngressRequest) (opened : Opened) (now : UInt64) :
    Except VerificationError SignedVerifiedCallContext := do
  let signed ← receiver.verifyRequest crates request opened.payload now
  return annotateTunnelKeyId crates signed opened.tunnelKeyId receiver.router.identity

def routeRequest (request : DecodedIngressRequest) (signed : SignedVerifiedCallContext)
    (payload : List UInt8) : Program (Option ReceiverFrame) :=
  match receiver.responseMode request.packet with
  | .execution => do
    let response ← routeVerifiedForExecution crates receiver.router signed payload
      request.requestDigest
    return match response with
      | .error _ => none
      | .ok response => writeExecutionResponse response
  | .legacyDecision => do
    let routed ← routeVerified crates receiver.router signed payload
    return some (.decision routed.response)

/-- Everything that follows once a request was decoded. -/
def handleRequest (request : DecodedIngressRequest) : Program (Option ReceiverFrame) :=
  let reject := fun error => writePostDecodeVerifierRejection crates receiver.router request.packet
    error request.requestDigest (receiver.responseMode request.packet)
  match receiver.openRequest crates request with
  | .error error => reject error
  | .ok opened => do
    let now ← readClock
    match receiver.signedContextFor crates request opened now with
    | .error error => reject error
    | .ok signed => receiver.routeRequest crates request signed opened.payload

def handleGatewayConnectionWithLimits (stream : List UInt8) (sequence : UInt64) :
    Program (Option ReceiverFrame) :=
  match readBoundedIngressRequest crates stream receiver.maxWireBytes with
  | .ok none => pure none
  | .ok (some request) => receiver.handleRequest crates request
  | .error _ => do
    let receiptId ← recordPreDecodeReject crates receiver.router sequence
    return some (.decision (.rejected (VerificationError.reasonCode .malformedPacket) none
      (some receiptId)))

end Receiver

/-! ## The context of a request -/

def withTunnelKeyId (context : VerifiedCallContext) (tunnelKeyId : Option String) :
    VerifiedCallContext :=
  { context with evidenceSummary := context.evidenceSummary ++
      (tunnelKeyId.map ("tunnel_key_id:" ++ ·)).toList }

theorem annotateTunnelKeyId_signContext (crates : Crates) (identity : NodeVerifierIdentity)
    (context : VerifiedCallContext) (tunnelKeyId : Option String) :
    annotateTunnelKeyId crates (identity.signContext crates context) tunnelKeyId identity =
      identity.signContext crates (withTunnelKeyId context tunnelKeyId) := by
  cases tunnelKeyId with
  | none => simp [annotateTunnelKeyId, withTunnelKeyId]
  | some keyId => rfl

section

variable {crates : Crates} {receiver : Receiver} {request : DecodedIngressRequest} {opened : Opened}
  {now : UInt64} {signed : SignedVerifiedCallContext}

/-- On the descriptor alone: the summary lists what the descriptor would accept. -/
theorem verifyRequest_plain (hinputs : request.evidenceInputs.isEmpty) :
    receiver.verifyRequest crates request opened.payload now =
      verifyManifestOperationAndSignForRuntimeWithIdentityAndCaller crates request.packet
        receiver.router.manifest receiver.router.expectedAudience now receiver.router.identity
        receiver.mode receiver.router.callerKeys := by
  simp [Receiver.verifyRequest, hinputs]

/-- With evidence: there is an adapter, and the live path ran with it. -/
theorem verifyRequest_live (hinputs : request.evidenceInputs.isEmpty = false)
    (h : receiver.verifyRequest crates request opened.payload now = .ok signed) :
    ∃ adapter, receiver.router.evidenceAdapter = some adapter ∧
      verifyManifestOperationWithLiveEvidenceAndSignForRuntimeWithIdentityAndCaller crates
        request.packet receiver.router.manifest receiver.router.expectedAudience now
        request.evidenceInputs opened.payload adapter receiver.router.identity receiver.mode
        receiver.router.callerKeys = .ok signed := by
  unfold Receiver.verifyRequest at h
  rw [if_pos hinputs] at h
  cases hadapter : receiver.router.evidenceAdapter with
  | none =>
    rw [hadapter] at h
    cases h
  | some adapter =>
    rw [hadapter] at h
    exact ⟨adapter, rfl, h⟩

/-- Whatever the path, the context is issued at the reading for the packet's own descriptor, which
has passed the checks of the runtime paths. -/
theorem issued_of_signedContextFor
    (h : receiver.signedContextFor crates request opened now = .ok signed) :
    ∃ d subject summary resource,
      DescriptorAdmitted crates request.packet receiver.router.manifest now receiver.mode d ∧
      request.packet.claimTtl ≤ d.maxTtlSeconds ∧
      signed = receiver.router.identity.signContext crates (withTunnelKeyId (issuedContext crates
        request.packet d receiver.router.expectedAudience subject summary resource now)
        opened.tunnelKeyId) := by
  obtain ⟨verified, hverified, h⟩ := bind_eq_ok.mp h
  obtain rfl := Except.ok.inj h
  by_cases hinputs : request.evidenceInputs.isEmpty
  · rw [verifyRequest_plain hinputs] at hverified
    obtain ⟨d, subject, context, hd, -, hcontext, rfl⟩ := verifyPlain_eq_ok.mp hverified
    obtain ⟨httl, -, -, rfl⟩ := verifiedContextForDescriptor_eq_ok.mp hcontext
    exact ⟨d, subject, _, none, hd, httl, annotateTunnelKeyId_signContext _ _ _ _⟩
  · obtain ⟨adapter, -, hlive⟩ := verifyRequest_live (by simpa using hinputs) hverified
    obtain ⟨d, subject, context, hd, -, hcontext, rfl⟩ := verifyLive_eq_ok.mp hlive
    obtain ⟨_, summary, resource, -, -, -, hcontext⟩ := evidenceBackedContext_eq_ok.mp hcontext
    obtain ⟨httl, -, -, rfl⟩ := verifiedContextForDescriptor_eq_ok.mp hcontext
    exact ⟨d, subject, summary, resource, hd, httl, annotateTunnelKeyId_signContext _ _ _ _⟩

end

/-! ## What a connection issues -/

/-- A rejection reads the clock and writes audit rows. -/
def Cmd.isRejection (c : Cmd) : Prop := c = .readClock ∨ c.isAudit

theorem recordReject_only {crates : Crates} {router : ConfigurableRouter} {packet : ZenithPacket}
    {error : VerificationError} :
    (recordReject crates router packet error).Only Cmd.isRejection := by
  refine Prog.Only.bind (Prog.only_perform (.inl rfl)) fun timestamp => ?_
  refine ((recordSignedReceipt_only _).mono fun _ => .inr).bind fun _ => ?_
  exact ((recordEvent_only _).mono fun _ => .inr).bind fun _ => trivial

theorem writePostDecodeVerifierRejection_only {crates : Crates} {router : ConfigurableRouter}
    {packet : ZenithPacket} {error : VerificationError} {requestDigest : Bytes 32}
    {responseMode : ReceiverResponseMode} :
    (writePostDecodeVerifierRejection crates router packet error requestDigest responseMode).Only
      Cmd.isRejection := by
  refine recordReject_only.bind fun receiptId => ?_
  cases responseMode with
  | legacyDecision => trivial
  | execution => dsimp only; split <;> trivial

theorem not_execute_of_rejection {c : Cmd} (h : Cmd.isRejection c) : ¬ c.isExecute := by
  rcases h with rfl | haudit
  · simp [GatewayMachine.Cmd.isExecute]
  · exact not_execute_of_audit haudit

section

variable {crates : Crates} {receiver : Receiver} {es : List Step}
  {q : Program (Option ReceiverFrame)}

theorem routeRequest_follows {request : DecodedIngressRequest} {signed : SignedVerifiedCallContext}
    {payload : List UInt8}
    (h : machine.Follows (receiver.routeRequest crates request signed payload) es q) :
    es = [] ∨ ∃ q', machine.Follows
      (routeVerified crates receiver.router signed payload) es q' := by
  unfold Receiver.routeRequest at h
  cases hmode : receiver.responseMode request.packet with
  | legacyDecision =>
    rw [hmode] at h
    exact .inr h.of_bind_done
  | execution =>
    rw [hmode] at h
    obtain ⟨q', h⟩ := h.of_bind_done
    unfold routeVerifiedForExecution at h
    split at h
    · exact .inl h.done_inv.1
    · split at h
      · exact .inl h.done_inv.1
      · exact .inr h.of_bind_done

/-- A connection that was accepted as far as the router: its request, opened, verified at the first
clock reading, and the router's own run behind it. -/
structure Accepted (crates : Crates) (receiver : Receiver) (stream : List UInt8) (es : List Step)
    (request : DecodedIngressRequest) (opened : Opened)
    (signed : SignedVerifiedCallContext) (env : Env)
    (rest : List Step) : Prop where
  decoded : readBoundedIngressRequest crates stream receiver.maxWireBytes = .ok (some request)
  opens : receiver.openRequest crates request = .ok opened
  verified : receiver.signedContextFor crates request opened env.clock = .ok signed
  trace : ∃ w, es = ⟨env, w, .readClock⟩ :: rest
  routed : ∃ q', machine.Follows
    (routeVerified crates receiver.router signed opened.payload) rest q'

theorem connection_cases {stream : List UInt8} {sequence : UInt64}
    (h : machine.Follows (receiver.handleGatewayConnectionWithLimits crates stream sequence) es q) :
    (∀ e ∈ es, Cmd.isRejection e.cmd) ∨
      ∃ request opened signed env rest,
        Accepted crates receiver stream es request opened signed env rest := by
  unfold Receiver.handleGatewayConnectionWithLimits at h
  split at h
  · rw [h.done_inv.1]
    exact .inl (List.forall_mem_nil _)
  · next request hdecoded =>
      unfold Receiver.handleRequest at h
      dsimp only at h
      split at h
      · exact .inl (h.only writePostDecodeVerifierRejection_only)
      · next opened hopened =>
          rw [readClock_bind] at h
          cases h with
          | refl => exact .inl (List.forall_mem_nil _)
          | @step env w _ _ rest _ h =>
            change machine.Follows (match receiver.signedContextFor crates request opened
              env.clock with | .error error => _ | .ok signed => _) rest q at h
            split at h
            · refine .inl (List.forall_mem_cons.mpr ⟨.inl rfl, ?_⟩)
              exact h.only writePostDecodeVerifierRejection_only
            · next signed hsigned =>
                rcases routeRequest_follows h with rfl | hroute
                · exact .inl (List.forall_mem_cons.mpr ⟨.inl rfl, List.forall_mem_nil _⟩)
                · exact .inr ⟨request, opened, signed, env, rest,
                    hdecoded, hopened, hsigned, ⟨w, rfl⟩, hroute⟩
  · exact .inl (h.only (Prog.Only.bind recordReject_only fun _ => trivial))

theorem accepted_of_execute {stream : List UInt8} {sequence : UInt64}
    (h : machine.Follows (receiver.handleGatewayConnectionWithLimits crates stream sequence) es q)
    {e : Step} (he : e ∈ es) (hexec : e.cmd.isExecute) :
    ∃ request opened signed env rest,
      Accepted crates receiver stream es request opened signed env rest ∧ e ∈ rest := by
  rcases connection_cases h with hrejected | ⟨request, opened, signed, env, rest, haccepted⟩
  · exact absurd hexec (not_execute_of_rejection (hrejected e he))
  · refine ⟨request, opened, signed, env, rest, haccepted, ?_⟩
    obtain ⟨w, rfl⟩ := haccepted.trace
    rcases List.mem_cons.mp he with rfl | he
    · cases hexec
    · exact he

end

end IngressGateway
