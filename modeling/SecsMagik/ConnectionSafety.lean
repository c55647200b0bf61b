import SecsMagik.DispatchGates
import SecsMagik.IngressReplay

/-! # Connections served side by side

Any number of connections of one receiver, interleaved at their clock readings, statements and
handlers, under any failures of the ledger: who stands behind a handler that is started.
-/
namespace ConnectionSafety

open RustStd
open ExternalCrates (Crates)
open CallContext ReceiverManifest CallVerifier
open CallerProof (ZenithPacket decodeCallerProof callerCanonicalBytes verifyCallerProof)
open Ledger AtomicPrograms GatewayMachine GatewayRouter RouterTraces IngressFraming IngressGateway
open IngressReplay (Task)

/-! ## The caller behind a handler -/

/-- The packet is signed under a registered key that is active at `now`; the subject is the
key's. -/
def ProvesCaller (crates : Crates) (receiver : Receiver) (packet : ZenithPacket) (now : UInt64)
    (subject : VerifiedSubject) : Prop :=
  ∃ registry parts key, receiver.router.callerKeys = some registry ∧
    decodeCallerProof packet.proof = some parts ∧ registry.get parts.keyId = some key ∧
    key.ensureActiveAt now = .ok () ∧
    crates.verify key.publicKey (callerCanonicalBytes packet.sessionId packet.nonce packet.opcode
      packet.claimTtl packet.encryptedPayload) parts.signature = true ∧
    subject = ⟨key.subjectId, key.keyId⟩

/-- The payload was decrypted under the key of this session, bound to the packet's session, opcode
and lifetime. -/
def Decrypted (crates : Crates) (receiver : Receiver) (request : DecodedIngressRequest)
    (payload : List UInt8) : Prop :=
  ∃ secret clientPublic, receiver.secrets.handshakeSecret = some secret ∧
    request.clientEphemeralPublicKey = some clientPublic ∧
    crates.diffieHellman secret clientPublic ≠ Bytes.filled 32 0 ∧
    crates.decrypt (deriveTunnelKeyHkdf crates (crates.diffieHellman secret clientPublic)
      request.packet.sessionId clientPublic (crates.x25519PublicKey secret)) request.packet.nonce
      request.packet.encryptedPayload (packetAad request.packet) = some payload

section

variable {crates : Crates} {receiver : Receiver} {request : DecodedIngressRequest} {opened : Opened}
  {now : UInt64}

theorem provesCaller_of_runtimeSubject {subject : VerifiedSubject}
    (hmode : receiver.mode = .productionVerified)
    (h : runtimeSubject crates request.packet now receiver.mode receiver.router.callerKeys =
      .ok subject) : ProvesCaller crates receiver request.packet now subject := by
  unfold runtimeSubject at h
  cases hkeys : receiver.router.callerKeys with
  | none =>
    rw [hkeys, hmode] at h
    cases h
  | some registry =>
    rw [hkeys] at h
    obtain ⟨caller, hcaller, h⟩ := bind_eq_ok.mp h
    obtain rfl := Except.ok.inj h
    unfold verifyCallerProof at hcaller
    by_cases hclock : isClockReadFailure now
    · simp [hclock, bind, Except.bind] at hcaller
    · simp only [hclock, Bool.false_eq_true, if_false] at hcaller
      obtain ⟨parts, hparts, hcaller⟩ := bind_eq_ok.mp hcaller
      obtain ⟨key, hkey, hcaller⟩ := bind_eq_ok.mp hcaller
      obtain ⟨_, hactive, hcaller⟩ := bind_eq_ok.mp hcaller
      split_ifs at hcaller with hverify
      obtain rfl := Except.ok.inj hcaller
      exact ⟨registry, parts, key, hkeys, elim_eq_ok.mp hparts, elim_eq_ok.mp hkey, hactive,
        by simpa using hverify, rfl⟩

theorem decrypted_of_openRequest (hmode : receiver.mode = .productionVerified)
    (h : receiver.openRequest crates request = .ok opened) :
    Decrypted crates receiver request opened.payload := by
  unfold Receiver.openRequest at h
  obtain ⟨_, -, h⟩ := bind_eq_ok.mp h
  cases hclient : request.clientEphemeralPublicKey with
  | none => simp [hmode, hclient, bind, Except.bind] at h
  | some clientPublic =>
    simp only [hclient, reduceCtorEq, and_false, if_false] at h
    obtain ⟨session, hsession, h⟩ := bind_eq_ok.mp h
    obtain ⟨payload, hpayload, h⟩ := bind_eq_ok.mp h
    obtain rfl := Except.ok.inj h
    unfold deriveSessionTunnelKey at hsession
    cases hsecret : receiver.secrets.handshakeSecret with
    | none =>
      rw [hsecret] at hsession
      cases hsession
    | some secret =>
      rw [hsecret] at hsession
      dsimp only at hsession
      split_ifs at hsession with hidentity
      obtain rfl := Except.ok.inj hsession
      have hdecrypt := mapError_eq_ok.mp hpayload
      exact ⟨secret, clientPublic, hsecret, hclient, hidentity, elim_eq_ok.mp hdecrypt⟩

/-- The subject of a signed context is the one the verifier found in the packet. -/
theorem subject_of_signedContextFor {signed : SignedVerifiedCallContext}
    (h : receiver.signedContextFor crates request opened now = .ok signed) :
    runtimeSubject crates request.packet now receiver.mode receiver.router.callerKeys =
      .ok signed.context.subject := by
  obtain ⟨verified, hverified, h⟩ := bind_eq_ok.mp h
  obtain rfl := Except.ok.inj h
  by_cases hinputs : request.evidenceInputs.isEmpty
  · rw [verifyRequest_plain hinputs] at hverified
    obtain ⟨d, subject, context, -, hsubject, hcontext, rfl⟩ := verifyPlain_eq_ok.mp hverified
    obtain ⟨-, -, -, rfl⟩ := verifiedContextForDescriptor_eq_ok.mp hcontext
    rw [annotateTunnelKeyId_signContext]
    exact hsubject
  · obtain ⟨adapter, -, hlive⟩ := verifyRequest_live (by simpa using hinputs) hverified
    obtain ⟨d, subject, context, -, hsubject, hcontext, rfl⟩ := verifyLive_eq_ok.mp hlive
    obtain ⟨_, summary, resource, -, -, -, hcontext⟩ := evidenceBackedContext_eq_ok.mp hcontext
    obtain ⟨-, -, -, rfl⟩ := verifiedContextForDescriptor_eq_ok.mp hcontext
    rw [annotateTunnelKeyId_signContext]
    exact hsubject

end

/-- The command starts a handler on what a caller signed and encrypted. -/
structure Rightful (crates : Crates) (receiver : Receiver) (stream : List UInt8) (es : List Step)
    (c : Cmd) (context : VerifiedCallContext) (payload : List UInt8)
    (request : DecodedIngressRequest) (d : OperationDescriptor) : Prop where
  decoded : readBoundedIngressRequest crates stream receiver.maxWireBytes = .ok (some request)
  decrypted : Decrypted crates receiver request payload
  caller : ProvesCaller crates receiver request.packet context.issuedAt context.subject
  found : receiver.router.manifest.lookup request.packet.opcode = .ok d
  production : d.isDevOrPrototype = false
  handler : ∃ limits, c = .execute d.handlerId context payload limits
  packet : context.operation = d.name ∧ context.packetHash = packetHash crates request.packet
  /-- The connection opens with two readings: the caller is judged at the one on arrival, the
  permission at the router's own behind it. -/
  read : ∃ arrival routing rest, es = arrival :: routing :: rest ∧
    (arrival.cmd = .readClock ∧ arrival.env.clock = context.issuedAt) ∧
    routing.cmd = .readClock ∧ ∀ policy, receiver.router.permissionPolicy = some policy →
      policy.evaluate context.subject.subjectId request.packet.opcode d.name
        (context.resource.getD "") routing.env.clock = .ok .allow

theorem connection_rightful {crates : Crates} {receiver : Receiver} {stream : List UInt8}
    {sequence : UInt64} {es : List Step} {q : Program (Option ReceiverFrame)}
    (hmode : receiver.mode = .productionVerified)
    (h : machine.Follows (receiver.handleGatewayConnectionWithLimits crates stream sequence) es q)
    {e : Step} (he : e ∈ es) (hexec : e.cmd.isExecute) :
    ∃ context payload request d,
      Rightful crates receiver stream es e.cmd context payload request d := by
  obtain ⟨request, opened, signed, env, rest, haccepted, hrest⟩ := accepted_of_execute h he hexec
  obtain ⟨w, rfl⟩ := haccepted.trace
  obtain ⟨q', hroute⟩ := haccepted.routed
  obtain ⟨env', w', rest', admitted, rfl, hpassed, hreached⟩ :=
    routeVerified_trace hroute hrest hexec
  have hsubject := subject_of_signedContextFor haccepted.verified
  obtain ⟨d, subject, summary, resource, hd, -, rfl⟩ :=
    issued_of_signedContextFor haccepted.verified
  -- the context the handler got is the signed one, with at most a projection in its summary
  obtain ⟨projection, hrouted⟩ := routed_eq hpassed.projection
  obtain ⟨handlerId, hid, -, hstarted⟩ := hreached.started
  have hpermitted := hreached.permitted
  rw [hrouted] at hid hstarted hpermitted
  obtain rfl : d.handlerId = handlerId := Option.some.inj hid
  refine ⟨_, opened.payload, request, d, haccepted.decoded,
    decrypted_of_openRequest hmode haccepted.opens, provesCaller_of_runtimeSubject hmode hsubject,
    hd.found, (hd.production hmode).1, ⟨_, hstarted⟩, ⟨rfl, rfl⟩, _, _, rest', rfl, ⟨rfl, rfl⟩, rfl,
    fun policy hpolicy => ?_⟩
  exact DispatchGates.permission_allowed hpermitted hpolicy

/-- In every interleaving of connections, the handlers that a production receiver starts serve the
registered caller who signed the packet, on the payload it encrypted, as the manifest and the
permission policy have it. -/
theorem started_handler_rightful (crates : Crates) (receiver : Receiver)
    (hmode : receiver.mode = .productionVerified) {T : Type} [DecidableEq T] (tasks : T → Task)
    (w : Tables) (schedule : List (T × Env)) (t : T) (e : Step) :
    let log := (Pool.run machine (fun t => (tasks t).program crates receiver) w schedule).log
    (t, e) ∈ log → e.cmd.isExecute → ∃ stream sequence context payload request d,
      tasks t = .connection stream sequence ∧
      Rightful crates receiver stream (Pool.eventsOf t log) e.cmd context payload request d := by
  intro log he hexec
  have hfollows := Pool.run_follows (M := machine) (fun t => (tasks t).program crates receiver) w
    schedule t
  have he := Pool.mem_eventsOf.mpr he
  cases htask : tasks t with
  | initSchema =>
    rw [htask] at hfollows
    obtain ⟨q, hinit⟩ := hfollows.of_bind_const
    exact absurd hexec (hinit.only LedgerCalls.initSchema_only e he)
  | connection stream sequence =>
    rw [htask] at hfollows
    obtain ⟨q, hconnection⟩ := hfollows.of_bind_const
    obtain ⟨context, payload, request, d, hrightful⟩ :=
      connection_rightful hmode hconnection he hexec
    exact ⟨stream, sequence, context, payload, request, d, rfl, hrightful⟩

namespace Sample

open IngressEvidence.Sample (receiver stream)
open IngressReplay.Sample (arrivals inTurn arrivals_both_start)

/-- The second arrival of the same bytes is started for the caller who signed them. -/
theorem arrival_rightful :
    ∃ es e context payload request d, e ∈ es ∧
      Rightful .transparent receiver (stream []) es e.cmd context payload request d := by
  obtain ⟨e, he, hexec⟩ := exists_of_startsIn arrivals_both_start (t := true) (by simp)
  obtain ⟨bytes, sequence, context, payload, request, d, htask, hrightful⟩ :=
    started_handler_rightful .transparent receiver rfl arrivals Tables.empty inTurn true e he
      hexec
  obtain ⟨rfl, -⟩ := Task.connection.inj htask
  exact ⟨_, e, context, payload, request, d, Pool.mem_eventsOf.mpr he, hrightful⟩

end Sample

end ConnectionSafety
