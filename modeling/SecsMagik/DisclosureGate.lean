import SecsMagik.IngressReplay

/-! # What the disclosure gate sees

The verifier scans the payload field of a packet as it came. A handler gets what the tunnel opens
the field to, so the gate covers what handlers see on connections that are not encrypted, and on no
others. The library path scans nothing.
-/
namespace DisclosureGate

open RustStd
open ExternalCrates (Crates)
open CallContext ReceiverManifest Evidence
open CallerProof (ZenithPacket)
open CallVerifier Ledger AtomicPrograms GatewayMachine GatewayRouter RouterTraces RouterRuns
open IngressFraming IngressGateway

/-- The scan for handlers accepts the payload under the descriptor's policy. -/
def Passes (crates : Crates) (d : OperationDescriptor) (payload : List UInt8) : Prop :=
  Disclosure.scanJsonBytes crates .handlerContext payload d.disclosurePolicy = .ok ()

instance (crates : Crates) (d : OperationDescriptor) (payload : List UInt8) :
    Decidable (Passes crates d payload) :=
  inferInstanceAs (Decidable (_ = _))

/-- How a packet comes to a handler: over a connection, or through the library, whose caller
verifies it with evidence references and decrypts it with the key of its session. -/
inductive Delivery where
  | connection (stream : List UInt8) (sequence : UInt64)
  | library (packet : ZenithPacket) (sessionKey : Option (Bytes 32)) (subject : String)
      (inputs : EvidenceInputs) (adapter : EvidenceAdapter) (now : UInt64) (signerKeyId : String)
      (secretKey : Bytes 32)

inductive Path where
  | connection | library

namespace Delivery

def program (crates : Crates) (receiver : Receiver) : Delivery → Program Unit
  | .connection stream sequence => do
    let _ ← receiver.handleGatewayConnectionWithLimits crates stream sequence
    return ()
  | .library packet sessionKey subject inputs adapter now signerKeyId secretKey =>
    match decryptMachinePayloadWithSessionKey crates receiver.secrets packet receiver.mode
        sessionKey, verifyManifestOperationWithEvidenceRefsAndInputsAndSign crates packet
          receiver.router.manifest receiver.router.expectedAudience now subject inputs adapter
          signerKeyId secretKey with
    | .ok payload, .ok signed => do
      let _ ← routeVerified crates receiver.router signed payload
      return ()
    | _, _ => return ()

def Brings (crates : Crates) (receiver : Receiver) (packet : ZenithPacket) (payload : List UInt8) :
    Delivery → Prop
  | .connection stream _ => ∃ request opened,
      readBoundedIngressRequest crates stream receiver.maxWireBytes = .ok (some request) ∧
        receiver.openRequest crates request = .ok opened ∧ packet = request.packet ∧
        payload = opened.payload
  | .library sent sessionKey _ _ _ _ _ _ => packet = sent ∧
      decryptMachinePayloadWithSessionKey crates receiver.secrets packet receiver.mode sessionKey =
        .ok payload

def path : Delivery → Path
  | .connection .. => .connection
  | .library .. => .library

/-- The payload is opened with a key: the receiver's own, that of a handshake which the request asks
for, or the session key of the library's caller. -/
def encrypted (crates : Crates) (receiver : Receiver) : Delivery → Bool
  | .connection stream _ => receiver.secrets.tunnelKey.isSome ||
      match readBoundedIngressRequest crates stream receiver.maxWireBytes with
      | .ok (some request) => request.clientEphemeralPublicKey.isSome
      | _ => false
  | .library _ sessionKey .. => (sessionKey.or receiver.secrets.tunnelKey).isSome

end Delivery

section

variable {crates : Crates} {receiver : Receiver} {es : List Step} {e : Step} {handlerId : String}
  {context : VerifiedCallContext} {payload : List UInt8} {limits : ExecutionLimits}

/-- A handler is started on the context and the payload that were routed. -/
theorem routed_to_handler {signed : SignedVerifiedCallContext} {routed : List UInt8}
    {q : Program Routed}
    (h : machine.Follows (routeVerified crates receiver.router signed routed) es q) (he : e ∈ es)
    (hcmd : e.cmd = .execute handlerId context payload limits) :
    payload = routed ∧ context.opcode = signed.context.opcode := by
  have hexec : e.cmd.isExecute := by rw [hcmd]; rfl
  obtain ⟨env, w, rest, admitted, rfl, hpassed, hreached⟩ := routeVerified_trace h he hexec
  obtain ⟨projection, hrouted⟩ := routed_eq hpassed.projection
  obtain ⟨id, -, -, hstarted⟩ := hreached.started
  rw [hcmd] at hstarted
  injection hstarted with _ hcontext hpayload
  refine ⟨hpayload, ?_⟩
  rw [hcontext, hrouted]
  rfl

/-- The scan is run on the field as it came, on both paths of a connection. -/
theorem connection_gated {stream : List UInt8} {sequence : UInt64} {q : Program Unit}
    (h : machine.Follows ((Delivery.connection stream sequence).program crates receiver) es q)
    (he : e ∈ es) (hcmd : e.cmd = .execute handlerId context payload limits) :
    ∃ packet d, (Delivery.connection stream sequence).Brings crates receiver packet payload ∧
      context.opcode = packet.opcode ∧ receiver.router.manifest.lookup packet.opcode = .ok d ∧
      Passes crates d packet.encryptedPayload := by
  obtain ⟨q', h⟩ := h.of_bind_const
  obtain ⟨request, opened, signed, env, rest, haccepted, hrest⟩ :=
    accepted_of_execute h he (by rw [hcmd]; rfl)
  obtain ⟨q', hroute⟩ := haccepted.routed
  obtain ⟨hpayload, hopcode⟩ := routed_to_handler hroute hrest hcmd
  obtain ⟨d, _, _, _, hd, -, hsigned⟩ := issued_of_signedContextFor haccepted.verified
  refine ⟨request.packet, d, ⟨request, opened, haccepted.decoded, haccepted.opens, rfl, hpayload⟩,
    ?_, hd.found, hd.scanned⟩
  rw [hopcode, hsigned]
  rfl

theorem decrypt_plain {secrets : TunnelSecrets} {packet : ZenithPacket} {mode : RuntimeMode}
    {sessionKey : Option (Bytes 32)} (hkey : sessionKey.or secrets.tunnelKey = none)
    (h : decryptMachinePayloadWithSessionKey crates secrets packet mode sessionKey = .ok payload) :
    payload = packet.encryptedPayload := by
  unfold decryptMachinePayloadWithSessionKey at h
  rw [hkey] at h
  dsimp only at h
  split at h
  · exact (Except.ok.inj h).symm
  · cases h

/-- Without a key the field is its own plaintext. -/
theorem payload_of_plain {delivery : Delivery} {packet : ZenithPacket}
    (hplain : delivery.encrypted crates receiver = false)
    (h : delivery.Brings crates receiver packet payload) : payload = packet.encryptedPayload := by
  cases delivery with
  | library sent sessionKey =>
    exact decrypt_plain (by simpa [Delivery.encrypted] using hplain) h.2
  | connection stream sequence =>
    obtain ⟨request, opened, hdecoded, hopened, rfl, rfl⟩ := h
    simp only [Delivery.encrypted, hdecoded, Bool.or_eq_false_iff, Option.isSome_eq_false_iff,
      Option.isNone_iff_eq_none] at hplain
    obtain ⟨htunnel, hclient⟩ := hplain
    obtain ⟨_, -, hopened⟩ := bind_eq_ok.mp hopened
    dsimp only at hopened
    split at hopened
    · cases hopened
    obtain ⟨session, hsession, hopened⟩ := bind_eq_ok.mp hopened
    obtain ⟨body, hbody, hopened⟩ := bind_eq_ok.mp hopened
    obtain rfl := Except.ok.inj hopened
    rw [hclient] at hsession
    obtain rfl := Except.ok.inj hsession
    exact decrypt_plain (by simp [htunnel]) (mapError_eq_ok.mp hbody)

end

/-- On a path the gate covers what handlers see: their payloads have passed the scan under the
policy of the packet's descriptor, and the gate gives a packet the verdict of its plaintext. -/
structure Covered (path : Path) (encrypted : Bool) : Prop where
  seen : ∀ (crates : Crates) (receiver : Receiver) (delivery : Delivery) (es : List Step)
    (q : Program Unit) (e : Step) (handlerId : String) (context : VerifiedCallContext)
    (payload : List UInt8) (limits : ExecutionLimits),
    delivery.path = path → delivery.encrypted crates receiver = encrypted →
    machine.Follows (delivery.program crates receiver) es q → e ∈ es →
    e.cmd = .execute handlerId context payload limits →
    ∃ packet d, delivery.Brings crates receiver packet payload ∧ context.opcode = packet.opcode ∧
      receiver.router.manifest.lookup packet.opcode = .ok d ∧ Passes crates d payload
  alike : ∀ (crates : Crates) (receiver : Receiver) (delivery : Delivery) (packet : ZenithPacket)
    (payload : List UInt8) (d : OperationDescriptor),
    delivery.path = path → delivery.encrypted crates receiver = encrypted →
    delivery.Brings crates receiver packet payload →
    rejectOverDisclosedPacket crates packet d =
      rejectOverDisclosedPacket crates { packet with encryptedPayload := payload } d

theorem covered_of_plain : Covered .connection false where
  seen := by
    intro crates receiver delivery es q e handlerId context payload limits hpath hplain h he hcmd
    cases delivery with
    | library => cases hpath
    | connection stream sequence =>
      obtain ⟨packet, d, hbrings, hopcode, hfound, hscanned⟩ := connection_gated h he hcmd
      rw [← payload_of_plain hplain hbrings] at hscanned
      exact ⟨packet, d, hbrings, hopcode, hfound, hscanned⟩
  alike := by
    intro crates receiver delivery packet payload d hpath hplain hbrings
    rw [payload_of_plain hplain hbrings]

namespace Sample

open VerifierModes.Sample (signedPacket)
open IngressEvidence.Sample (credentialDescriptor receiver)

def masked : Crates :=
  { Crates.transparent with decrypt := fun _ _ ciphertext _ => some (ciphertext.map (· ^^^ 1)) }

/-- A bearer token, which no handler may see. -/
def token : List UInt8 := utf8 "token:abc"

def packet : ZenithPacket := signedPacket masked 0x50 60 (token.map (· ^^^ 1))

def stream : List UInt8 :=
  (encodeIngressRequestV2 ⟨packet, [], [], .filled 32 6⟩).toOption.getD []

/-- A receiver for development, which takes plaintext. -/
def devReceiver : Receiver :=
  { receiver with
    router := { receiver.router with
      identity := { RouterRuns.Sample.identity with authenticatorKind := .localDevUntrusted } }
    mode := .localDevPlaintext
    secrets := ⟨none, none⟩ }

/-- The library's caller verifies with a reference and signs with a key that the router trusts. -/
def library (sessionKey : Option (Bytes 32)) (field : List UInt8) : Delivery :=
  .library (signedPacket masked 0x50 60 field) sessionKey "did:example:alpha"
    ⟨["credential-ref"], []⟩ VerifierModes.grantingAdapter 100 "verifier:node-a" (.filled 32 7)

/-- What a command hands to a handler. -/
def handed : Cmd → Option (List UInt8)
  | .execute _ _ payload _ => some payload
  | _ => none

def events (crates : Crates) (receiver : Receiver) (delivery : Delivery) : List Step :=
  (machine.run (RouterRuns.Sample.env 150) Tables.empty (delivery.program crates receiver)).events

theorem follows_of_handed {crates : Crates} {receiver : Receiver} {delivery : Delivery}
    {payload : List UInt8}
    (h : ∃ e ∈ events crates receiver delivery, handed e.cmd = some payload) :
    ∃ es q e handlerId context limits,
      machine.Follows (delivery.program crates receiver) es q ∧ e ∈ es ∧
        e.cmd = .execute handlerId context payload limits := by
  obtain ⟨⟨env, w, c⟩, he, hpayload⟩ := h
  cases c with
  | execute handlerId context body limits =>
    cases hpayload
    exact ⟨_, _, _, handlerId, context, limits, Machine.run_follows _ _ _, he, rfl⟩
  | readClock | sql => cases hpayload

theorem token_handed : ∃ e ∈ events masked receiver (.connection stream 0),
    handed e.cmd = some token := by
  decide +kernel

theorem token_encrypted : (Delivery.connection stream 0).encrypted masked receiver = true := by
  decide +kernel

theorem library_handed : ∀ sent ∈ [(none, token), (some (.filled 32 4), token.map (· ^^^ 1))],
    ∃ e ∈ events masked devReceiver (library sent.1 sent.2), handed e.cmd = some token := by
  decide +kernel

theorem lookup_credential {opcode : UInt8} {d : OperationDescriptor}
    (h : receiver.router.manifest.lookup opcode = .ok d) : d = credentialDescriptor := by
  have hfound := Manifest.lookup_ok_iff.mp h
  change (if opcode = credentialDescriptor.opcode then some credentialDescriptor else none) = some d
    at hfound
  split at hfound
  · exact (Option.some.inj hfound).symm
  · cases hfound

/-- A token that comes to a handler of the operation is not covered. -/
theorem not_covered {receiver' : Receiver} {delivery : Delivery} {encrypted : Bool}
    (h : ∃ e ∈ events masked receiver' delivery, handed e.cmd = some token)
    (hmanifest : receiver'.router.manifest = receiver.router.manifest)
    (hencrypted : delivery.encrypted masked receiver' = encrypted) :
    ¬ Covered delivery.path encrypted := by
  intro hcovered
  obtain ⟨es, q, e, handlerId, context, limits, hfollows, he, hcmd⟩ := follows_of_handed h
  obtain ⟨packet, d, -, -, hfound, hpasses⟩ :=
    hcovered.seen masked receiver' delivery es q e handlerId context token limits rfl hencrypted
      hfollows he hcmd
  rw [hmanifest] at hfound
  rw [lookup_credential hfound] at hpasses
  exact absurd hpasses (by decide)

end Sample

/-- The gate covers what handlers see on the connections whose payload is not encrypted, and on no
other path. -/
theorem handler_payload_passes_iff (path : Path) (encrypted : Bool) :
    Covered path encrypted ↔ path = .connection ∧ encrypted = false := by
  constructor
  · intro hcovered
    cases path with
    | connection =>
      refine ⟨rfl, Bool.eq_false_iff.mpr ?_⟩
      rintro rfl
      exact Sample.not_covered Sample.token_handed rfl Sample.token_encrypted hcovered
    | library =>
      refine absurd hcovered ?_
      cases encrypted with
      | false =>
        have hhanded := Sample.library_handed _ List.mem_cons_self
        exact Sample.not_covered hhanded rfl rfl
      | true =>
        have hhanded := Sample.library_handed _ (List.mem_cons_of_mem _ List.mem_cons_self)
        exact Sample.not_covered hhanded rfl rfl
  · rintro ⟨rfl, rfl⟩
    exact covered_of_plain

namespace Sample

open VerifierModes.Sample (signedPacket)
open IngressEvidence.Sample (credentialDescriptor receiver)

/-- In production, a handler is started on a bearer token that came through the tunnel. -/
theorem token_reaches_handler :
    receiver.mode = .productionVerified ∧ packet.opcode = credentialDescriptor.opcode ∧
      receiver.router.manifest.lookup packet.opcode = .ok credentialDescriptor ∧
      ∃ es q e handlerId context limits,
        machine.Follows ((Delivery.connection stream 0).program masked receiver) es q ∧ e ∈ es ∧
        e.cmd = .execute handlerId context token limits ∧
        ¬ Passes masked credentialDescriptor token := by
  refine ⟨rfl, rfl, rfl, ?_⟩
  obtain ⟨es, q, e, handlerId, context, limits, hfollows, he, hcmd⟩ :=
    follows_of_handed token_handed
  exact ⟨es, q, e, handlerId, context, limits, hfollows, he, hcmd, by decide⟩

/-- A text that no policy objects to. -/
def note : List UInt8 := utf8 "water the plants"

def noteStream : List UInt8 := (signedPacket .transparent 0x50 60 note).serialize

theorem note_handed : ∃ e ∈ events .transparent devReceiver (.connection noteStream 0),
    handed e.cmd = some note := by
  decide +kernel

/-- Unencrypted, the text reaches its handler and has passed the scan. -/
theorem note_passes :
    ∃ es q e handlerId context limits,
      machine.Follows ((Delivery.connection noteStream 0).program .transparent devReceiver) es
        q ∧ e ∈ es ∧ e.cmd = .execute handlerId context note limits ∧
      Passes .transparent credentialDescriptor note := by
  obtain ⟨es, q, e, handlerId, context, limits, hfollows, he, hcmd⟩ := follows_of_handed note_handed
  have hplain : (Delivery.connection noteStream 0).encrypted .transparent devReceiver =
      false := by decide +kernel
  obtain ⟨packet, d, -, -, hfound, hpasses⟩ :=
    ((handler_payload_passes_iff .connection false).mpr ⟨rfl, rfl⟩).seen .transparent devReceiver
      (.connection noteStream 0) es q e handlerId context note limits rfl hplain hfollows he hcmd
  rw [lookup_credential hfound] at hpasses
  exact ⟨es, q, e, handlerId, context, limits, hfollows, he, hcmd, hpasses⟩

end Sample

end DisclosureGate
