import SecsMagik.ConnectionSafety
import SecsMagik.IngressMeaning
import SecsMagik.SealedEnvelopes

/-! # The client

What the client writes for one command, and what a production receiver does with it: the request is
read as it was meant, and a handler that is started for it gets the client's own payload under the
subject of the client's key.
-/
namespace ClientRequests

open RustStd
open ExternalCrates (Crates)
open CallContext (isClockReadFailure)
open CallVerifier (runtimeSubject verifyPrototypeEnvelope)
open CallerProof
open Ledger AtomicPrograms GatewayMachine RouterTraces IngressFraming IngressGateway
open IngressReplay (Task)
open SealedEnvelopes (Aead)

structure CallerIdentity where
  signingKey : Bytes 32
  keyId : String

inductive TunnelMode where
  | plaintext
  | staticKey (key : Bytes 32)
  | sessionKey (serverPublicKey : Bytes 32)
  deriving DecidableEq

structure BuiltPacket where
  packet : ZenithPacket
  clientEphemeralPublicKey : Option (Bytes 32)

/-- What one packet takes from `OsRng`, and `claim_ttl_seconds`. -/
structure Draws where
  sessionId : Bytes 16
  nonce : Bytes 12
  clientSecret : Bytes 32
  claimTtl : UInt64

section

variable {crates : Crates} (aead : Aead crates) (draws : Draws) (identity : CallerIdentity)
  (opcode : UInt8) (payload : List UInt8)

def buildPacketWithTunnelMode (mode : TunnelMode) : BuiltPacket :=
  -- the `mac` is reserved and stays zero
  let packet : ZenithPacket :=
    ⟨draws.sessionId, draws.nonce, opcode, [], draws.claimTtl, [], .filled 16 0⟩
  let encryptPayload := fun key => aead.encrypt key draws.nonce payload (packetAad packet)
  let (wirePayload, clientEphemeralPublicKey) := match mode with
    | .plaintext => (payload, none)
    | .staticKey key => (encryptPayload key, none)
    | .sessionKey serverPublicKey =>
      let clientPublic := crates.x25519PublicKey draws.clientSecret
      let shared := crates.diffieHellman draws.clientSecret serverPublicKey
      (encryptPayload (deriveTunnelKeyHkdf crates shared draws.sessionId clientPublic
        serverPublicKey), some clientPublic)
  let canonical := callerCanonicalBytes draws.sessionId draws.nonce opcode
    draws.claimTtl wirePayload
  let proof := encodeCallerProof identity.keyId (crates.sign identity.signingKey canonical)
  ⟨{ packet with proof := proof, encryptedPayload := wirePayload }, clientEphemeralPublicKey⟩

/-- The bytes that `dispatch_packet` writes. -/
def BuiltPacket.wireBytes (built : BuiltPacket) : Except IngressRequestError (List UInt8) :=
  match built.clientEphemeralPublicKey with
  | some key => encodeIngressRequestV2 (.new built.packet [] [] key)
  | none => .ok built.packet.serialize

end

/-! ## At the receiver -/

theorem encodeCallerProof_injective {keyId keyId' : String} {signature signature' : Bytes 64}
    (h : encodeCallerProof keyId signature = encodeCallerProof keyId' signature') :
    keyId = keyId' := by
  obtain ⟨hkey, -⟩ := List.append_inj' h (signature.property.trans signature'.property.symm)
  obtain ⟨-, hkey⟩ := List.append_inj hkey (by simp)
  exact utf8_injective hkey

/-- A request in session mode is the one that the receiver reads. -/
theorem readBounded_wireBytes {crates : Crates} {maxBytes : UInt64} {packet : ZenithPacket}
    {key : Bytes 32} {bytes : List UInt8}
    (h : BuiltPacket.wireBytes ⟨packet, some key⟩ = .ok bytes)
    (hsize : bytes.length ≤ maxBytes.toNat) :
    readBoundedIngressRequest crates bytes maxBytes =
      .ok (some (received crates bytes (.v2 (.new packet [] [] key)))) := by
  have hfit : InputsFit [] := ⟨by decide, by simp⟩
  have hencode : encodeIngressRequestV2 (.new packet [] [] key) = .ok (ingressRequestV2Magic ++
      ((plainEnvelope packet [] []).bytes ++ key.val)) := encodeIngressRequestV2_of_fits hfit hfit
  obtain rfl := Except.ok.inj (hencode.symm.trans h)
  have hpacket : 16 + packet.serialize.length ≤ maxBytes.toNat := by
    have henvelope := length_le_plainEnvelope packet [] []
    rw [List.length_append, length_magic.2, List.length_append] at hsize
    omega
  have hspelled : Spelled maxBytes _ (.v2 (.new packet [] [] key)) :=
    .v2 (fits_plainEnvelope hfit hfit hpacket)
  have hverdict : SameVerdict crates _ maxBytes := sameVerdict_of_magic
    (by simp [ingressRequestV2Magic]) hsize (.inr (List.prefix_append _ _))
  rwa [SameVerdict, decodeIngressFrame_eq_ok.mpr ⟨hsize, hspelled⟩] at hverdict

section

variable (crates : Crates) (aead : Aead crates) (draws : Draws) (identity : CallerIdentity)
  (opcode : UInt8) (payload : List UInt8) (receiver : Receiver) (secret : Bytes 32)

/-- Both ends derive the key of the session from the same shared secret. -/
theorem decrypt_built :
    let serverPublic := crates.x25519PublicKey secret
    let clientPublic := crates.x25519PublicKey draws.clientSecret
    let packet := (buildPacketWithTunnelMode aead draws identity opcode payload
      (.sessionKey serverPublic)).packet
    crates.decrypt (deriveTunnelKeyHkdf crates (crates.diffieHellman secret clientPublic)
      packet.sessionId clientPublic serverPublic) packet.nonce packet.encryptedPayload
      (packetAad packet) = some payload := by
  intro serverPublic clientPublic packet
  rw [← aead.commutes]
  exact aead.decrypt_encrypt _ _ _ _

/-- In every interleaving, a handler that is started for the bytes of a client in session mode gets
the client's payload, for the opcode it asked for and under the subject of its key. -/
theorem client_served_as_asked (hmode : receiver.mode = .productionVerified)
    (hsecret : receiver.secrets.handshakeSecret = some secret) (bytes : List UInt8)
    (hbytes : (buildPacketWithTunnelMode aead draws identity opcode payload
      (.sessionKey (crates.x25519PublicKey secret))).wireBytes = .ok bytes)
    {T : Type} [DecidableEq T] (tasks : T → Task) (w : Tables) (schedule : List (T × Env)) (t : T)
    (sequence : UInt64) (htask : tasks t = .connection bytes sequence) (e : Step) :
    (t, e) ∈ (Pool.run machine (fun t => (tasks t).program crates receiver) w schedule).log →
    e.cmd.isExecute → ∃ registry key d context limits,
      e.cmd = .execute d.handlerId context payload limits ∧
      receiver.router.manifest.lookup opcode = .ok d ∧
      receiver.router.callerKeys = some registry ∧ registry.get identity.keyId = some key ∧
      key.ensureActiveAt context.issuedAt = .ok () ∧
      context.subject = ⟨key.subjectId, key.keyId⟩ := by
  intro he hexec
  have hfollows := Pool.run_follows (M := machine) (fun t => (tasks t).program crates receiver) w
    schedule t
  rw [htask] at hfollows
  obtain ⟨_, hconnection⟩ := hfollows.of_bind_const
  obtain ⟨context, payload', request, d, hrightful⟩ :=
    ConnectionSafety.connection_rightful hmode hconnection (Pool.mem_eventsOf.mpr he) hexec
  have hsize : bytes.length ≤ receiver.maxWireBytes.toNat := by
    by_contra hlong
    have hdecoded := hrightful.decoded
    rw [readBoundedIngressRequest, if_neg, if_pos (by rw [List.length_take]; omega)] at hdecoded
    · cases hdecoded
    · rw [List.take_eq_nil_iff]
      rintro (h | rfl)
      · cases h
      · exact hlong (Nat.zero_le _)
  obtain rfl : request = _ := Option.some.inj (Except.ok.inj (hrightful.decoded.symm.trans
    (readBounded_wireBytes hbytes hsize)))
  obtain ⟨secret', _, hsecret', hpublic, -, hdecrypt⟩ := hrightful.decrypted
  obtain rfl := Option.some.inj (hsecret.symm.trans hsecret')
  obtain rfl := Option.some.inj hpublic
  obtain rfl := Option.some.inj ((decrypt_built crates aead draws identity opcode payload
    secret).symm.trans hdecrypt)
  obtain ⟨registry, parts, key, hregistry, hparts, hkey, hactive, -, hsubject⟩ := hrightful.caller
  rw [← encodeCallerProof_injective (decodeCallerProof_eq_some.mp hparts).2] at hkey
  obtain ⟨limits, hcmd⟩ := hrightful.handler
  exact ⟨registry, key, d, context, limits, hcmd, hrightful.found, hregistry, hkey, hactive,
    hsubject⟩

/-- The receiver knows the client's key and takes it for active at `now`. -/
structure Knows (crates : Crates) (receiver : Receiver) (identity : CallerIdentity) (now : UInt64)
    (key : CallerKey) : Prop where
  registered : ∃ registry, receiver.router.callerKeys = some registry ∧
    registry.get identity.keyId = some key
  admitted : KeyIdAdmitted identity.keyId
  publicKey : key.publicKey = crates.publicKey identity.signingKey
  clock : isClockReadFailure now = false
  active : key.ensureActiveAt now = .ok ()

theorem runtimeSubject_of_knows {crates : Crates} {receiver : Receiver} {identity : CallerIdentity}
    {now : UInt64} {key : CallerKey} (h : Knows crates receiver identity now key)
    {packet : ZenithPacket} (hproof : packet.proof = encodeCallerProof identity.keyId (crates.sign
      identity.signingKey (callerCanonicalBytes packet.sessionId packet.nonce packet.opcode
        packet.claimTtl packet.encryptedPayload))) :
    runtimeSubject crates packet now receiver.mode receiver.router.callerKeys =
      .ok ⟨key.subjectId, key.keyId⟩ := by
  obtain ⟨registry, hregistry, hkey⟩ := h.registered
  have hdecode : decodeCallerProof packet.proof = some ⟨identity.keyId, crates.sign
      identity.signingKey (callerCanonicalBytes packet.sessionId packet.nonce packet.opcode
        packet.claimTtl packet.encryptedPayload)⟩ :=
    decodeCallerProof_eq_some.mpr ⟨h.admitted, hproof⟩
  unfold runtimeSubject
  rw [hregistry]
  refine bind_eq_ok.mpr ⟨⟨key.subjectId, key.keyId⟩, ?_, rfl⟩
  unfold verifyCallerProof
  simp only [h.clock, Bool.false_eq_true, if_false]
  refine bind_eq_ok.mpr ⟨_, elim_eq_ok.mpr hdecode, bind_eq_ok.mpr ⟨key, elim_eq_ok.mpr hkey,
    bind_eq_ok.mpr ⟨(), h.active, ?_⟩⟩⟩
  simp [h.publicKey, crates.verify_sign]

/-- A receiver that knows the client reads its request, opens it to the client's payload and takes
the caller for the client. -/
theorem client_understood (hsecret : receiver.secrets.handshakeSecret = some secret)
    (httl : draws.claimTtl ≠ 0) (hshared : crates.diffieHellman secret
      (crates.x25519PublicKey draws.clientSecret) ≠ .filled 32 0)
    (bytes : List UInt8) (hbytes : (buildPacketWithTunnelMode aead draws identity opcode payload
      (.sessionKey (crates.x25519PublicKey secret))).wireBytes = .ok bytes)
    (hsize : bytes.length ≤ receiver.maxWireBytes.toNat) (now : UInt64) (key : CallerKey)
    (hknows : Knows crates receiver identity now key) :
    ∃ request, readBoundedIngressRequest crates bytes receiver.maxWireBytes = .ok (some request) ∧
      receiver.openRequest crates request =
        .ok ⟨payload, some (tunnelPublicKeyId crates (crates.x25519PublicKey secret))⟩ ∧
      runtimeSubject crates request.packet now receiver.mode receiver.router.callerKeys =
        .ok ⟨key.subjectId, key.keyId⟩ := by
  let clientPublic := crates.x25519PublicKey draws.clientSecret
  let serverPublic := crates.x25519PublicKey secret
  let packet := (buildPacketWithTunnelMode aead draws identity opcode payload
    (.sessionKey serverPublic)).packet
  have henvelope : verifyPrototypeEnvelope packet = .ok () := by
    have hversion : utf8 callerProofVersion ≠ [] := by decide
    simp [verifyPrototypeEnvelope, packet, buildPacketWithTunnelMode, encodeCallerProof, hversion,
      httl]
  have hsession : deriveSessionTunnelKey crates receiver.secrets packet (some clientPublic) =
      .ok (some ⟨deriveTunnelKeyHkdf crates (crates.diffieHellman secret clientPublic)
        packet.sessionId clientPublic serverPublic, tunnelPublicKeyId crates serverPublic⟩) := by
    unfold deriveSessionTunnelKey
    rw [hsecret]
    exact if_neg hshared
  have hdecrypt := decrypt_built crates aead draws identity opcode payload secret
  refine ⟨_, readBounded_wireBytes hbytes hsize, ?_, runtimeSubject_of_knows hknows rfl⟩
  refine bind_eq_ok.mpr ⟨(), henvelope, ?_⟩
  rw [if_neg fun h => Option.some_ne_none _ h.2]
  refine bind_eq_ok.mpr ⟨_, hsession, bind_eq_ok.mpr ⟨payload, ?_, rfl⟩⟩
  exact mapError_eq_ok.mpr (elim_eq_ok.mpr hdecrypt)

end

namespace Sample

open SealedEnvelopes.Sample (tagging aead)
open IngressEvidence.Sample (receiver)
open VerifierModes.Sample (callerSecret keyIdAdmitted)

def draws : Draws := ⟨.filled 16 2, .filled 12 3, .filled 32 6, 60⟩

def identity : CallerIdentity := ⟨callerSecret, "caller:alpha"⟩

def built : BuiltPacket :=
  buildPacketWithTunnelMode aead draws identity 0x50 [7, 8]
    (.sessionKey (tagging.x25519PublicKey (.filled 32 5)))

def bytes : List UInt8 := built.wireBytes.toOption.getD []

theorem wireBytes_built : built.wireBytes = .ok bytes := by
  decide +kernel

theorem client_starts :
    startsIn (Pool.run machine (fun _ : Unit => (Task.connection bytes 0).program tagging receiver)
      Tables.empty (List.replicate 12 ((), RouterRuns.Sample.env 150))).log = [((), 210)] := by
  decide +kernel

/-- A client's two bytes reach the handler. -/
theorem client_served : ∃ e : Step, ∃ registry key handlerId context limits,
    e.cmd = .execute handlerId context [7, 8] limits ∧
    receiver.router.callerKeys = some registry ∧ registry.get "caller:alpha" = some key ∧
    context.subject = ⟨key.subjectId, key.keyId⟩ := by
  obtain ⟨e, he, hexec⟩ := exists_of_startsIn client_starts (t := ()) (by simp)
  obtain ⟨registry, key, d, context, limits, hcmd, -, hregistry, hkey, -, hsubject⟩ :=
    client_served_as_asked tagging aead draws identity 0x50 [7, 8] receiver (.filled 32 5) rfl rfl
      bytes wireBytes_built (fun _ : Unit => .connection bytes 0) _ _ () 0 rfl e he hexec
  exact ⟨e, registry, key, d.handlerId, context, limits, hcmd, hregistry, hkey, hsubject⟩

/-- The receiver reads them as the client's. -/
theorem client_known :
    ∃ request, readBoundedIngressRequest tagging bytes receiver.maxWireBytes = .ok (some request) ∧
      ∃ opened, receiver.openRequest tagging request = .ok opened ∧ opened.payload = [7, 8] := by
  have hknows : Knows tagging receiver identity 150
      (.active "caller:alpha" "did:example:alpha" callerSecret) :=
    ⟨⟨_, rfl, by decide +kernel⟩, keyIdAdmitted, rfl, rfl, rfl⟩
  obtain ⟨request, hread, hopen, -⟩ := client_understood tagging aead draws identity 0x50 [7, 8]
    receiver (.filled 32 5) rfl (by decide) (by decide) bytes wireBytes_built (by decide +kernel)
    150 _ hknows
  exact ⟨request, hread, _, hopen, rfl⟩

end Sample

end ClientRequests
