import SecsMagik.CallVerifier
import SecsMagik.CallerProofCodec

/-! # Live evidence in production and in local modes

Production adds two refusals to the live-evidence path. The one for dev and prototype descriptors is
meant for both paths; the one for `membership.provision` was written for the path without evidence
and is met by callers who bring it.
-/
namespace VerifierModes

open RustStd
open ExternalCrates (Crates)
open CallContext ReceiverManifest Evidence CallerProof
open VerifierKeys (NodeVerifierIdentity)
open CallVerifier

/-! ## The tier a descriptor asks for -/

def labelSupported (label : String) : Bool :=
  (EvidenceKind.fromLabel label).any (·.maturityProfile.supportStatus.isSupported)

/-- One round of the loop succeeds for the supported labels, and stays within their tiers. -/
theorem raiseMaturity_of_supported {required : EvidenceMaturityProfile} {label : String}
    (h : labelSupported label) (hrank : required.tier.rank ≤ 2) :
    ∃ raised, EvidenceRequest.raiseMaturity required label = .ok raised ∧ raised.tier.rank ≤ 2 := by
  unfold EvidenceRequest.raiseMaturity
  obtain ⟨kind, hkind, hsupported⟩ : ∃ kind, EvidenceKind.fromLabel label = some kind ∧
      kind.maturityProfile.supportStatus.isSupported := by
    cases hkind : EvidenceKind.fromLabel label with
    | none => simp [labelSupported, hkind] at h
    | some kind => exact ⟨kind, rfl, by simpa [labelSupported, hkind] using h⟩
  rw [hkind]
  have hle := EvidenceKind.rank_le_of_supported hsupported
  simp only [hsupported, Bool.true_eq_false, if_false]
  by_cases hraise : required.tier.rank < kind.maturityProfile.tier.rank
  · exact ⟨kind.maturityProfile, if_pos hraise, hle⟩
  · exact ⟨required, if_neg hraise, hrank⟩

theorem supported_of_raiseMaturity {required raised : EvidenceMaturityProfile} {label : String}
    (h : EvidenceRequest.raiseMaturity required label = .ok raised) : labelSupported label := by
  unfold EvidenceRequest.raiseMaturity at h
  cases hkind : EvidenceKind.fromLabel label with
  | none =>
    rw [hkind] at h
    cases h
  | some kind =>
    rw [hkind] at h
    by_contra hunsupported
    have hstatus : kind.maturityProfile.supportStatus.isSupported = false := by
      simpa [labelSupported, hkind] using hunsupported
    simp only [hstatus, if_true] at h
    cases h

theorem foldlM_raiseMaturity_of_supported {labels : List String}
    (h : ∀ label ∈ labels, labelSupported label) (required : EvidenceMaturityProfile)
    (hrank : required.tier.rank ≤ 2) :
    ∃ raised, labels.foldlM EvidenceRequest.raiseMaturity required = .ok raised ∧
      raised.tier.rank ≤ 2 := by
  induction labels generalizing required with
  | nil => exact ⟨required, rfl, hrank⟩
  | cons label labels ih =>
    obtain ⟨next, hnext, hle⟩ := raiseMaturity_of_supported (h label List.mem_cons_self) hrank
    obtain ⟨raised, hraised, hbound⟩ :=
      ih (fun other hother => h other (List.mem_cons_of_mem _ hother)) next hle
    exact ⟨raised, bind_eq_ok.mpr ⟨next, hnext, hraised⟩, hbound⟩

theorem supported_of_foldlM_raiseMaturity {labels : List String}
    {required raised : EvidenceMaturityProfile}
    (h : labels.foldlM EvidenceRequest.raiseMaturity required = .ok raised) :
    ∀ label ∈ labels, labelSupported label := by
  induction labels generalizing required with
  | nil => simp
  | cons label labels ih =>
    obtain ⟨next, hnext, hrest⟩ := bind_eq_ok.mp h
    intro other hother
    rcases List.mem_cons.mp hother with rfl | hother
    · exact supported_of_raiseMaturity hnext
    · exact ih hrest other hother

/-! ## A request that is granted wherever the evidence counts -/

def grantedSummary : EvidenceSummary where
  kind := .membershipCredential
  subject := "[redacted]"
  audience := "secS://receiver-a"
  operation := "membership.provision"
  resource := none
  localDevTestOnly := false
  publicProof := false
  summaryFields := []

def grantingAdapter : EvidenceAdapter := ⟨.membershipCredential, fun _ => .satisfied grantedSummary⟩

/-- No policy objects to the field, and it claims neither a resource lock nor a mode. -/
def Unremarkable (field : String) : Prop :=
  Disclosure.isHarmless field ∧ field ≠ "resource_lock:verified" ∧
    startsWith field requiredAuthorityModeHead = false

theorem grantedSummary_unremarkable :
    ∀ field ∈ grantedSummary.fields "[redacted]", Unremarkable field := by
  unfold Unremarkable
  decide

theorem tier_unremarkable (tier : EvidenceTier) :
    Unremarkable ("policy_required_evidence_tier:" ++ tier.asStr) := by
  unfold Unremarkable
  cases tier <;> decide

theorem grantedSummary_fields (tier : EvidenceTier) :
    (∀ field ∈ grantedSummary.toPolicyScanFields tier, Unremarkable field) ∧
      ∀ field ∈ grantedSummary.toContextFieldsForPolicy tier, Unremarkable field := by
  have hall : ∀ field ∈ grantedSummary.fields "[redacted]" ++
      ["policy_required_evidence_tier:" ++ tier.asStr], Unremarkable field := by
    intro field hfield
    rcases List.mem_append.mp hfield with hfield | hfield
    · exact grantedSummary_unremarkable field hfield
    · rw [List.mem_singleton.mp hfield]
      exact tier_unremarkable tier
  exact ⟨hall, hall⟩

variable {d : OperationDescriptor}

theorem satisfiedSummary_granting {request : EvidenceRequest}
    (haccepts : request.accepts .membershipCredential)
    (hlabels : ∀ label ∈ request.acceptedEvidence, labelSupported label) :
    ∃ tier, satisfiedSummary d request grantingAdapter =
      .ok (grantedSummary.toContextFieldsForPolicy tier) := by
  obtain ⟨required, hrequired, hrank⟩ :=
    foldlM_raiseMaturity_of_supported hlabels ⟨.shapeOnly, .supported⟩ (by decide)
  have hprofile : request.requiredMaturityProfile = .ok required := hrequired
  have hadapter : rejectAdapterBelowPolicy request grantingAdapter.kind required.tier = .ok () :=
    if_pos haccepts
  have hvalid : request.validateSatisfiedSummary grantedSummary = .ok () := by
    refine bind_eq_ok.mpr ⟨required, hprofile, ?_⟩
    have htier : ¬ (EvidenceKind.membershipCredential.maturityProfile.tier.rank <
        required.tier.rank) := not_lt.mpr hrank
    exact if_neg htier
  obtain ⟨hscanned, hplain⟩ := grantedSummary_fields required.tier
  have hscan : rejectForbiddenEvidenceSummary (grantedSummary.toPolicyScanFields required.tier) d =
      .ok () := mapError_eq_ok.mpr
    (Disclosure.scanStringFields_of_harmless (fun field hfield => (hscanned field hfield).1) _ _)
  have hfields : rejectForbiddenEvidenceSummary
      (grantedSummary.toContextFieldsForPolicy required.tier) d = .ok () :=
    mapError_eq_ok.mpr
      (Disclosure.scanStringFields_of_harmless (fun field hfield => (hplain field hfield).1) _ _)
  refine ⟨required.tier, bind_eq_ok.mpr ⟨required, hprofile, bind_eq_ok.mpr ⟨(), hadapter, ?_⟩⟩⟩
  refine bind_eq_ok.mpr ⟨(), hvalid, bind_eq_ok.mpr ⟨(), hscan, ?_⟩⟩
  exact bind_eq_ok.mpr ⟨(), hfields, rfl⟩

variable {subject : VerifiedSubject} {inputs : EvidenceInputs}

theorem evidenceBackedContext_granting {crates : Crates} {packet : ZenithPacket} {audience : String}
    {now : UInt64} (haccepts : d.acceptedEvidence.contains EvidenceKind.membershipCredential.asStr)
    (hlabels : ∀ label ∈ d.acceptedEvidence, labelSupported label)
    (httl : packet.claimTtl ≤ d.maxTtlSeconds) (hsession : packet.sessionId ≠ Bytes.filled 16 0) :
    ∃ context, evidenceBackedContext crates packet audience now d subject inputs []
      grantingAdapter = .ok context := by
  obtain ⟨tier, hsummary⟩ : ∃ tier, satisfiedSummary d (evidenceRequest audience d subject inputs
      none) grantingAdapter = .ok (grantedSummary.toContextFieldsForPolicy tier) :=
    satisfiedSummary_granting haccepts hlabels
  obtain ⟨-, hplain⟩ := grantedSummary_fields tier
  have hresource : contextResourceFromEvidenceSummary
      (grantedSummary.toContextFieldsForPolicy tier) = .ok none :=
    if_pos fun hlock => (hplain _ hlock).2.1 rfl
  have hmodes := fun field hfield => (hplain field hfield).2.2
  refine ⟨issuedContext crates packet d audience subject
    (grantedSummary.toContextFieldsForPolicy tier) none now, ?_⟩
  exact evidenceBackedContext_eq_ok.mpr ⟨none, _, none, rfl, hsummary, hresource,
    verifiedContextForDescriptor_eq_ok.mpr ⟨httl, hsession, hmodes, rfl⟩⟩

/-! ## A caller's packet -/

namespace Sample

def callerSecret : Bytes 32 := .filled 32 9

def callers (crates : Crates) : CallerKeyRegistry :=
  .fromKeys [.active "caller:alpha" "did:example:alpha" (crates.publicKey callerSecret)]

/-- A packet with the caller's signature over the fields it has. -/
def signedPacket (crates : Crates) (opcode : UInt8) (claimTtl : UInt64) (payload : List UInt8) :
    ZenithPacket where
  sessionId := .filled 16 2
  nonce := .filled 12 3
  opcode := opcode
  proof := encodeCallerProof "caller:alpha" (crates.sign callerSecret
    (callerCanonicalBytes (.filled 16 2) (.filled 12 3) opcode claimTtl payload))
  claimTtl := claimTtl
  encryptedPayload := payload
  mac := .filled 16 0

theorem keyIdAdmitted : KeyIdAdmitted "caller:alpha" := ⟨by decide, by decide⟩

theorem runtimeSubject_signedPacket (crates : Crates) (opcode : UInt8) (claimTtl : UInt64)
    (payload : List UInt8) {now : UInt64} (hclock : isClockReadFailure now = false)
    (mode : RuntimeMode) :
    runtimeSubject crates (signedPacket crates opcode claimTtl payload) now mode
      (some (callers crates)) = .ok ⟨"did:example:alpha", "caller:alpha"⟩ := by
  have hcaller : verifyCallerProof crates (signedPacket crates opcode claimTtl payload)
      (callers crates) now = .ok ⟨"did:example:alpha", "caller:alpha"⟩ :=
    verifyCallerProof_of_signed "did:example:alpha" keyIdAdmitted hclock rfl
  exact bind_eq_ok.mpr ⟨_, hcaller, rfl⟩

theorem proof_signedPacket (crates : Crates) (opcode : UInt8) (claimTtl : UInt64)
    (payload : List UInt8) : (signedPacket crates opcode claimTtl payload).proof ≠ [] := by
  have hversion : utf8 callerProofVersion ≠ [] := by decide
  simp [signedPacket, encodeCallerProof, hversion]

end Sample

/-! ## The two modes -/

section

variable {crates : Crates} {packet : ZenithPacket} {manifest : Manifest} {now : UInt64}
  {d : OperationDescriptor}

/-- Nothing that live evidence can be brought for passes a descriptor without any lifetime. -/
theorem maxTtl_ne_zero_of_accepted {audience : String} {payload : List UInt8}
    {adapter : EvidenceAdapter} {context : VerifiedCallContext} (httl : packet.claimTtl ≠ 0)
    (h : evidenceBackedContext crates packet audience now d subject inputs payload adapter =
      .ok context) : d.maxTtlSeconds ≠ 0 := by
  obtain ⟨_, _, _, -, -, -, h⟩ := evidenceBackedContext_eq_ok.mp h
  have hle := (verifiedContextForDescriptor_eq_ok.mp h).1
  intro hzero
  rw [hzero] at hle
  exact httl (UInt64.le_zero_iff.mp hle)

theorem labels_of_accepted {audience : String} {payload : List UInt8} {adapter : EvidenceAdapter}
    {context : VerifiedCallContext}
    (h : evidenceBackedContext crates packet audience now d subject inputs payload adapter =
      .ok context) : ∀ label ∈ d.acceptedEvidence, labelSupported label := by
  obtain ⟨_, _, _, -, hsummary, -, -⟩ := evidenceBackedContext_eq_ok.mp h
  obtain ⟨_, _, -, hrequired, -⟩ := satisfiedSummary_ok hsummary
  exact supported_of_foldlM_raiseMaturity hrequired

end

/-- On every request for `d` the live-evidence path decides in production as it does in a local
mode, and with the same signed context. -/
def ProductionLikeLocal (crates : Crates) (d : OperationDescriptor) : Prop :=
  ∀ (packet : ZenithPacket) (manifest : Manifest) (audience : String) (now : UInt64)
    (inputs : EvidenceInputs) (payload : List UInt8) (adapter : EvidenceAdapter)
    (identity : NodeVerifierIdentity) (callerKeys : CallerKeyRegistry) (localMode : RuntimeMode),
    localMode ≠ .productionVerified → manifest.lookup packet.opcode = .ok d →
    ∀ signed,
      verifyManifestOperationWithLiveEvidenceAndSignForRuntimeWithIdentityAndCaller crates packet
          manifest audience now inputs payload adapter identity .productionVerified
          (some callerKeys) = .ok signed ↔
        verifyManifestOperationWithLiveEvidenceAndSignForRuntimeWithIdentityAndCaller crates packet
          manifest audience now inputs payload adapter identity localMode
          (some callerKeys) = .ok signed

/-- Some request for `d` can be accepted at all. -/
structure Grantable (d : OperationDescriptor) : Prop where
  lifetime : d.maxTtlSeconds ≠ 0
  labels : ∀ label ∈ d.acceptedEvidence, labelSupported label

theorem productionLikeLocal_of_no_gap (crates : Crates) (hdev : d.isDevOrPrototype = false)
    (hgap : isDescriptorOnlyGap d = false ∨ ¬ Grantable d) :
    ProductionLikeLocal crates d := by
  intro packet manifest audience now inputs payload adapter identity callerKeys localMode hlocal
    hfound signed
  rw [verifyLive_eq_ok, verifyLive_eq_ok]
  constructor
  · rintro ⟨d', subject, context, hd, hsubject, hcontext, hsigned⟩
    exact ⟨d', subject, context, { hd with production := fun hmode => absurd hmode hlocal },
      hsubject, hcontext, hsigned⟩
  · rintro ⟨d', subject, context, hd, hsubject, hcontext, hsigned⟩
    obtain rfl : d = d' := Except.ok.inj (hfound.symm.trans hd.found)
    have hno : isDescriptorOnlyGap d = false := by
      rcases hgap with hgap | hgap
      · exact hgap
      · exact absurd ⟨maxTtl_ne_zero_of_accepted hd.envelope.2 hcontext,
          labels_of_accepted hcontext⟩ hgap
    exact ⟨d, subject, context, { hd with production := fun _ => ⟨hdev, hno⟩ }, hsubject, hcontext,
      hsigned⟩

/-- A request for `d` with a caller's proof, a credential reference and no payload. -/
def provisionCall (crates : Crates) (d : OperationDescriptor) (identity : NodeVerifierIdentity)
    (mode : RuntimeMode) : Except VerificationError SignedVerifiedCallContext :=
  verifyManifestOperationWithLiveEvidenceAndSignForRuntimeWithIdentityAndCaller crates
    (Sample.signedPacket crates d.opcode 1 []) (Manifest.empty.withDescriptor d)
    "secS://receiver-a" 100 ⟨["credential-ref"], []⟩ [] grantingAdapter identity mode
    (some (Sample.callers crates))

theorem lookup_withDescriptor (m : Manifest) (d : OperationDescriptor) :
    (m.withDescriptor d).lookup d.opcode = .ok d := by
  simp [Manifest.lookup, Manifest.withDescriptor]

theorem provisionCall_local (crates : Crates) (identity : NodeVerifierIdentity)
    (hgap : isDescriptorOnlyGap d) (hgrantable : Grantable d) {mode : RuntimeMode}
    (hlocal : mode ≠ .productionVerified) :
    ∃ signed, provisionCall crates d identity mode = .ok signed := by
  have haccepts : d.acceptedEvidence.contains EvidenceKind.membershipCredential.asStr :=
    ((Bool.and_eq_true _ _).mp hgap).2
  have httl : (1 : UInt64) ≤ d.maxTtlSeconds := by
    have hne := hgrantable.lifetime
    rw [UInt64.le_iff_toNat_le]
    have hnat : d.maxTtlSeconds.toNat ≠ 0 := fun h => hne (UInt64.toNat_inj.mp h)
    have hone : (1 : UInt64).toNat = 1 := rfl
    omega
  obtain ⟨context, hcontext⟩ : ∃ context, evidenceBackedContext crates
      (Sample.signedPacket crates d.opcode 1 []) "secS://receiver-a" 100 d
      ⟨"did:example:alpha", "caller:alpha"⟩ ⟨["credential-ref"], []⟩ [] grantingAdapter =
        .ok context :=
    evidenceBackedContext_granting haccepts hgrantable.labels httl
      (show Bytes.filled 16 2 ≠ Bytes.filled 16 0 by decide)
  refine ⟨_, verifyLive_eq_ok.mpr ⟨d, _, context, ?_, ?_, hcontext, rfl⟩⟩
  · exact ⟨rfl, ⟨Sample.proof_signedPacket crates d.opcode 1 [],
      show (1 : UInt64) ≠ 0 by decide⟩,
      lookup_withDescriptor _ d, rfl, fun hmode => absurd hmode hlocal⟩
  · exact Sample.runtimeSubject_signedPacket crates d.opcode 1 [] rfl mode

theorem provisionCall_production (crates : Crates) (identity : NodeVerifierIdentity)
    (hgap : isDescriptorOnlyGap d) (signed : SignedVerifiedCallContext) :
    provisionCall crates d identity .productionVerified ≠ .ok signed := by
  intro h
  obtain ⟨d', subject, context, hd, -⟩ := verifyLive_eq_ok.mp h
  obtain rfl : d = d' := Except.ok.inj ((lookup_withDescriptor _ d).symm.trans hd.found)
  rw [(hd.production rfl).2] at hgap
  cases hgap

def Sample.identity : NodeVerifierIdentity :=
  ⟨"verifier:node-a", .filled 32 7, .ed25519NodeAndVerifier⟩

/-- Production decides as local modes do exactly for the descriptors outside the gap, and for those
in it that accept nothing anyway. -/
theorem production_like_local_iff (crates : Crates) (d : OperationDescriptor)
    (hdev : d.isDevOrPrototype = false) :
    ProductionLikeLocal crates d ↔ isDescriptorOnlyGap d = false ∨ d.maxTtlSeconds = 0 ∨
      ∃ label ∈ d.acceptedEvidence, labelSupported label = false := by
  have hgrantable : ¬ Grantable d ↔
      d.maxTtlSeconds = 0 ∨ ∃ label ∈ d.acceptedEvidence, labelSupported label = false := by
    constructor
    · intro h
      by_contra hno
      push Not at hno
      exact h ⟨hno.1, fun label hlabel => by simpa using hno.2 label hlabel⟩
    · rintro (hzero | ⟨label, hlabel, hunsupported⟩) h
      · exact h.lifetime hzero
      · rw [h.labels label hlabel] at hunsupported
        cases hunsupported
  rw [← hgrantable]
  constructor
  · intro hsame
    by_contra hno
    push Not at hno
    obtain ⟨hgap, hgrants⟩ := hno
    rw [ne_eq, Bool.not_eq_false] at hgap
    obtain ⟨signed, hsigned⟩ : ∃ signed, provisionCall crates d Sample.identity .localDevTunnel =
      .ok signed := provisionCall_local crates Sample.identity hgap hgrants (by decide)
    refine provisionCall_production crates Sample.identity hgap signed ?_
    exact (hsame _ _ _ _ _ _ _ _ _ .localDevTunnel (by decide) (lookup_withDescriptor _ d)
      signed).mpr hsigned
  · exact productionLikeLocal_of_no_gap crates hdev

namespace Sample

/-- The canonical descriptor, its labels supported and its gate no dev gate. -/
theorem membership_provision_shut_out :
    membershipProvisionDescriptor.isDevOrPrototype = false ∧
      (∃ signed, provisionCall .transparent membershipProvisionDescriptor identity
        .localDevTunnel = .ok signed) ∧
      ∀ signed, provisionCall .transparent membershipProvisionDescriptor identity
        .productionVerified ≠ .ok signed := by
  refine ⟨by decide, ?_, ?_⟩
  · exact provisionCall_local _ identity (by decide) ⟨by decide, by decide⟩ (by decide)
  · exact provisionCall_production _ identity (by decide)

def movedDescriptor : OperationDescriptor := { membershipProvisionDescriptor with opcode := 0x55 }

theorem moved_descriptor_like_local :
    movedDescriptor.isDevOrPrototype = false ∧
      ProductionLikeLocal .transparent movedDescriptor :=
  ⟨by decide, (production_like_local_iff .transparent movedDescriptor (by decide)).mpr
    (.inl (by decide))⟩

end Sample

end VerifierModes
