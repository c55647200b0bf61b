import SecsMagik.IngressGateway
import SecsMagik.VerifierModes

/-! # Evidence at ingress

Whether the evidence adapter is asked at all is up to the caller: a request without references and
inputs is judged on its descriptor alone, and the context it gets lists what the descriptor would
have accepted.
-/
namespace IngressEvidence

open RustStd
open ExternalCrates (Crates)
open CallContext ReceiverManifest Evidence CallVerifier IngressFraming IngressGateway

/-- The receiver read the request from its bytes, opened it and signed a context for it. -/
structure Produced (crates : Crates) (receiver : Receiver) (stream : List UInt8)
    (request : DecodedIngressRequest) (opened : Opened) (now : UInt64)
    (signed : SignedVerifiedCallContext) : Prop where
  decoded : readBoundedIngressRequest crates stream receiver.maxWireBytes = .ok (some request)
  opens : receiver.openRequest crates request = .ok opened
  verified : receiver.signedContextFor crates request opened now = .ok signed

/-- What the verifier adds to a summary: the required mode and the key of the tunnel. -/
def annotations (d : OperationDescriptor) (opened : Opened) : List String :=
  (d.requiredAuthorityMode.map fun mode => requiredAuthorityModeHead ++ mode.asStr).toList ++
    (opened.tunnelKeyId.map ("tunnel_key_id:" ++ ·)).toList

/-- The configured adapter was asked about this very request, found it satisfied, and the context
states its answer. -/
def EvidenceBacked (crates : Crates) (receiver : Receiver) (request : DecodedIngressRequest)
    (opened : Opened) (signed : SignedVerifiedCallContext) : Prop :=
  ∃ adapter d trustedResource summary tier,
    receiver.router.evidenceAdapter = some adapter ∧
    receiver.router.manifest.lookup request.packet.opcode = .ok d ∧
    trustedRequestedResourceFromPayload crates opened.payload = .ok trustedResource ∧
    adapter.verify (evidenceRequest receiver.router.expectedAudience d signed.context.subject
      request.evidenceInputs trustedResource) = .satisfied summary ∧
    signed.context.evidenceSummary =
      summary.toContextFieldsForPolicy tier ++ annotations d opened

section

variable {crates : Crates} {receiver : Receiver} {request : DecodedIngressRequest} {opened : Opened}
  {now : UInt64} {signed : SignedVerifiedCallContext}

theorem evidenceBacked_of_inputs (hinputs : request.evidenceInputs.isEmpty = false)
    (h : receiver.signedContextFor crates request opened now = .ok signed) :
    EvidenceBacked crates receiver request opened signed := by
  obtain ⟨verified, hverified, h⟩ := bind_eq_ok.mp h
  obtain rfl := Except.ok.inj h
  obtain ⟨adapter, hadapter, hlive⟩ := verifyRequest_live hinputs hverified
  obtain ⟨d, subject, context, hd, -, hcontext, rfl⟩ := verifyLive_eq_ok.mp hlive
  obtain ⟨trustedResource, fields, resource, htrusted, hfields, -, hcontext⟩ :=
    evidenceBackedContext_eq_ok.mp hcontext
  obtain ⟨-, -, -, rfl⟩ := verifiedContextForDescriptor_eq_ok.mp hcontext
  obtain ⟨summary, required, hsatisfied, -, rfl⟩ := satisfiedSummary_ok hfields
  rw [annotateTunnelKeyId_signContext]
  exact ⟨adapter, d, trustedResource, summary, required.tier, hadapter, hd.found, htrusted,
    hsatisfied, List.append_assoc _ _ _⟩

/-- A summary of evidence ends in the tier the policy asks for, a summary of a descriptor in its
dev binding. -/
theorem descriptorEvidenceSummary_ne (d : OperationDescriptor) (summary : EvidenceSummary)
    (tier : EvidenceTier) :
    descriptorEvidenceSummary d ≠ summary.toContextFieldsForPolicy tier := by
  intro h
  have hlast := congrArg List.getLast? h
  simp only [descriptorEvidenceSummary, EvidenceSummary.toContextFieldsForPolicy,
    List.getLast?_append, List.getLast?_cons_cons, List.getLast?_singleton, Option.some_or] at hlast
  have hhead := congrArg (fun s => s.toList.head?) (Option.some.inj hlast)
  simp at hhead

theorem not_evidenceBacked_of_empty (hinputs : request.evidenceInputs.isEmpty)
    (h : receiver.signedContextFor crates request opened now = .ok signed) :
    ¬ EvidenceBacked crates receiver request opened signed := by
  rintro ⟨adapter, d', trustedResource, summary, tier, -, hfound, -, -, hsummary⟩
  obtain ⟨verified, hverified, h⟩ := bind_eq_ok.mp h
  obtain rfl := Except.ok.inj h
  rw [verifyRequest_plain hinputs] at hverified
  obtain ⟨d, subject, context, hd, -, hcontext, rfl⟩ := verifyPlain_eq_ok.mp hverified
  obtain ⟨-, -, -, rfl⟩ := verifiedContextForDescriptor_eq_ok.mp hcontext
  obtain rfl : d = d' := Except.ok.inj (hd.found.symm.trans hfound)
  rw [annotateTunnelKeyId_signContext] at hsummary
  -- both summaries carry the same annotations
  have hsame : descriptorEvidenceSummary d ++ annotations d opened =
      summary.toContextFieldsForPolicy tier ++ annotations d opened :=
    (List.append_assoc _ _ _).symm.trans hsummary
  exact descriptorEvidenceSummary_ne d summary tier (List.append_cancel_right hsame)

end

/-- A context that was produced rests on the adapter exactly if the request came with evidence. -/
theorem context_evidence_backed_iff (crates : Crates) (receiver : Receiver) (stream : List UInt8)
    (request : DecodedIngressRequest) (opened : Opened) (now : UInt64)
    (signed : SignedVerifiedCallContext)
    (h : Produced crates receiver stream request opened now signed) :
    EvidenceBacked crates receiver request opened signed ↔
      request.evidenceInputs.isEmpty = false := by
  constructor
  · intro hbacked
    by_contra hinputs
    exact not_evidenceBacked_of_empty (by simpa using hinputs) h.verified hbacked
  · intro hinputs
    exact evidenceBacked_of_inputs hinputs h.verified

namespace Sample

open VerifierModes.Sample (callers signedPacket)

def credentialDescriptor : OperationDescriptor :=
  { RouterRuns.Sample.appendDescriptor with acceptedEvidence := ["membership_credential"] }

def receiver : Receiver where
  router := { RouterRuns.Sample.appendReceiver with
    callerKeys := some (callers .transparent)
    evidenceAdapter := some VerifierModes.grantingAdapter
    manifest := .new [credentialDescriptor] }
  mode := .productionVerified
  secrets := ⟨some (.filled 32 5), none⟩
  maxWireBytes := 4096

def packet : CallerProof.ZenithPacket := signedPacket .transparent 0x50 60 []

def stream (evidenceRefs : List String) : List UInt8 :=
  (encodeIngressRequestV2 ⟨packet, evidenceRefs, [], .filled 32 6⟩).toOption.getD []

def request (evidenceRefs : List String) : DecodedIngressRequest where
  packet := packet
  evidenceInputs := ⟨evidenceRefs, []⟩
  versionedRequest := true
  clientEphemeralPublicKey := some (.filled 32 6)
  requestDigest := Crates.transparent.sha256 (stream evidenceRefs)

def opened : Opened :=
  ⟨[], some (tunnelPublicKeyId .transparent (.filled 32 5))⟩

theorem opens (evidenceRefs : List String) :
    receiver.openRequest .transparent (request evidenceRefs) = .ok opened := rfl

theorem verifies {evidenceRefs : List String} {now : UInt64}
    (h : (receiver.verifyRequest .transparent (request evidenceRefs) [] now).isOk) :
    ∃ signed, receiver.signedContextFor .transparent (request evidenceRefs) opened now =
      .ok signed := by
  cases hverified : receiver.verifyRequest .transparent (request evidenceRefs) [] now with
  | error error =>
    rw [hverified] at h
    cases h
  | ok verified => exact ⟨_, bind_eq_ok.mpr ⟨verified, hverified, rfl⟩⟩

/-- An authenticated caller without evidence gets a context for an operation that asks for it. -/
theorem context_without_evidence :
    credentialDescriptor.acceptedEvidence = ["membership_credential"] ∧
      receiver.mode = .productionVerified ∧
      ∃ signed, Produced .transparent receiver (stream []) (request []) opened 100 signed ∧
        receiver.router.manifest.lookup packet.opcode = .ok credentialDescriptor ∧
        ¬ EvidenceBacked .transparent receiver (request []) opened signed := by
  obtain ⟨signed, hsigned⟩ : ∃ signed, receiver.signedContextFor .transparent (request [])
    opened 100 = .ok signed := verifies (by decide +kernel)
  refine ⟨rfl, rfl, signed, ⟨by decide +kernel, opens [], hsigned⟩, rfl, ?_⟩
  exact not_evidenceBacked_of_empty rfl hsigned

/-- With a reference the same caller gets a context that the adapter stands behind. -/
theorem context_with_evidence :
    ∃ signed, Produced .transparent receiver (stream ["credential-ref"])
        (request ["credential-ref"]) opened 100 signed ∧
      EvidenceBacked .transparent receiver (request ["credential-ref"]) opened signed := by
  obtain ⟨signed, hsigned⟩ : ∃ signed, receiver.signedContextFor .transparent
    (request ["credential-ref"]) opened 100 = .ok signed := verifies (by decide +kernel)
  have hproduced : Produced .transparent receiver (stream ["credential-ref"])
      (request ["credential-ref"]) opened 100 signed :=
    ⟨by decide +kernel, opens ["credential-ref"], hsigned⟩
  exact ⟨signed, hproduced, (context_evidence_backed_iff .transparent receiver _ _ _ _ _
    hproduced).mpr rfl⟩

end Sample

end IngressEvidence
