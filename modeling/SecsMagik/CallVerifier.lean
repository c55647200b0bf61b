import SecsMagik.CallerProof
import SecsMagik.Evidence

/-! # The call verifier

From a packet and the receiver's manifest to a signed context. There are three ways there: on the
descriptor alone, with live evidence from the wire, and with evidence references handed to the
library by its caller.
-/
namespace CallVerifier

open RustStd
open ExternalCrates (Crates Json)
open CallContext ReceiverManifest Evidence
open CallerProof (ZenithPacket CallerKeyRegistry verifyCallerProof)
open VerifierKeys (NodeVerifierIdentity)

inductive RuntimeMode where
  | localDevPlaintext | localDevTunnel | productionVerified
  deriving DecidableEq, Repr

def RuntimeMode.allowsPlaintext (mode : RuntimeMode) : Bool := mode = .localDevPlaintext

/-! ## The checks -/

def verifyPrototypeEnvelope (packet : ZenithPacket) : Except VerificationError Unit :=
  if packet.proof.isEmpty then .error .missingPrototypeProofEnvelope
  else if packet.claimTtl = 0 then .error .expiredClaim
  else .ok ()

/-- The descriptor of `membership.provision`, which the production gate refuses by name. -/
def isDescriptorOnlyGap (d : OperationDescriptor) : Bool :=
  d.opcode = 0x44 && d.name = "membership.provision" &&
    d.acceptedEvidence.contains EvidenceKind.walletPresentation.asStr &&
    d.acceptedEvidence.contains EvidenceKind.membershipCredential.asStr

def rejectDescriptorOnlyRuntimeEvidenceGap (d : OperationDescriptor) :
    Except VerificationError Unit :=
  if isDescriptorOnlyGap d then .error .insufficientEvidence else .ok ()

def rejectNonProductionDescriptor (d : OperationDescriptor) (mode : RuntimeMode) :
    Except VerificationError Unit :=
  if mode ≠ .productionVerified then .ok ()
  else if d.isDevOrPrototype then .error .prototypeOperationNotProductionAuthorized
  else rejectDescriptorOnlyRuntimeEvidenceGap d

def rejectAdapterBelowPolicy (request : EvidenceRequest) (kind : EvidenceKind)
    (requiredTier : EvidenceTier) : Except VerificationError Unit :=
  if request.accepts kind then .ok ()
  else if kind.maturityProfile.supportStatus.isSupported = false then
    .error .unsupportedEvidenceKind
  else if kind.maturityProfile.tier.rank < requiredTier.rank then .error .evidenceTierTooWeak
  else .ok ()

def rejectOverDisclosedPayload (crates : Crates) (payload : List UInt8) (d : OperationDescriptor) :
    Except VerificationError Unit :=
  (Disclosure.scanJsonBytes crates .handlerContext payload d.disclosurePolicy).mapError
    fun _ => .overDisclosedPresentation

/-- The scan sees the payload field as it came, encrypted or not. -/
def rejectOverDisclosedPacket (crates : Crates) (packet : ZenithPacket) (d : OperationDescriptor) :
    Except VerificationError Unit :=
  rejectOverDisclosedPayload crates packet.encryptedPayload d

def rejectForbiddenEvidenceSummary (summary : List String) (d : OperationDescriptor) :
    Except VerificationError Unit :=
  (Disclosure.scanStringFields .verifyReceipt summary d.disclosurePolicy).mapError
    fun _ => .forbiddenFieldPresent

def prototypeLocalSubject : String := "prototype.local-dev.subject"

def prototypeSubject : VerifiedSubject := ⟨prototypeLocalSubject, prototypeLocalSubject ++ "#key"⟩

/-- The resource of a summary that a resource lock verified. -/
def contextResourceFromEvidenceSummary (summary : List String) :
    Except VerificationError (Option String) :=
  if "resource_lock:verified" ∉ summary then .ok none
  else match summary.findSome? (stripPrefix · "resource:") with
    | none => .error .resourceLockViolation
    | some "" => .error .wrongResource
    | some value => .ok (some value)

def trustedRequestedResourceFromPayload (crates : Crates) (payload : List UInt8) :
    Except VerificationError (Option String) :=
  if payload.isEmpty then .ok none
  else match crates.jsonValue payload with
    | some (.object members) =>
      match members.lookup "requested_resource" with
      | none => .ok none
      | some (.string "") => .error .authorityAmplification
      | some (.string resource) => .ok (some resource)
      | some _ => .error .authorityAmplification
    | _ => .ok none

/-! ## The context of a verified call -/

def packetHash (crates : Crates) (packet : ZenithPacket) : Bytes 32 :=
  crates.sha256 packet.serialize

/-- `{:?}` of the range -/
def debugRange : OpcodeRange → String
  | .reserved => "Reserved"
  | .coreStandardized => "CoreStandardized"
  | .castaliaStandardCandidate => "CastaliaStandardCandidate"
  | .operatorDefined => "OperatorDefined"

def descriptorEvidenceSummary (d : OperationDescriptor) : List String :=
  d.acceptedEvidence ++
    ["opcode_range:" ++ debugRange d.range, "dev_binding:" ++ boolText d.devBinding]

def replayScopeName : ReplayScope → String
  | .sessionOpcodeNonce => "session:opcode:nonce"

def requiredAuthorityModeHead : String := "required_authority_mode:"

/-- What the verifier states about a packet it accepted at `now`. -/
def issuedContext (crates : Crates) (packet : ZenithPacket) (d : OperationDescriptor)
    (audience : String) (subject : VerifiedSubject) (summary : List String)
    (resource : Option String) (now : UInt64) : VerifiedCallContext where
  schemaVersion := verifiedCallContextSchemaVersion
  contextId := "ctx-v1-" ++ decimal now.toNat ++ "-" ++ hexByte packet.opcode ++ "-" ++
    lowerHex ((packetHash crates packet).val.take 8)
  packetHash := packetHash crates packet
  sessionId := packet.sessionId
  nonce := packet.nonce
  opcode := packet.opcode
  operation := d.name
  resource := resource
  subject := subject
  audience := audience
  evidenceSummary := summary ++
    (d.requiredAuthorityMode.map fun mode => requiredAuthorityModeHead ++ mode.asStr).toList
  proofMetadata := none
  capabilityResult := join d.requiredCapabilities ","
  credentialResult := join d.requiredCredentials ","
  issuedAt := now
  expiresAt := saturatingAdd now packet.claimTtl
  descriptorFingerprint := d.authorizationFingerprint crates
  replayScope := replayScopeName d.replayScope
  handlerId := some d.handlerId

def verifiedContextForDescriptor (crates : Crates) (packet : ZenithPacket)
    (d : OperationDescriptor) (audience : String) (subject : VerifiedSubject)
    (summary : List String) (resource : Option String) (now : UInt64) :
    Except VerificationError VerifiedCallContext :=
  if packet.claimTtl > d.maxTtlSeconds then .error .claimTtlExceedsDescriptorMax
  else if packet.sessionId = Bytes.filled 16 0 then .error .invalidSession
  else if summary.any (startsWith · requiredAuthorityModeHead) then
    .error .unsupportedAuthorityMode
  else .ok (issuedContext crates packet d audience subject summary resource now)

/-! ## The paths -/

section Paths

variable (crates : Crates) (packet : ZenithPacket) (manifest : Manifest) (audience : String)
  (now : UInt64)

def verifyManifestOperation : Except VerificationError VerifiedCallContext := do
  if isClockReadFailure now then .error .expiredClaim
  verifyPrototypeEnvelope packet
  let d ← manifest.lookup packet.opcode
  rejectOverDisclosedPacket crates packet d
  verifiedContextForDescriptor crates packet d audience prototypeSubject
    (descriptorEvidenceSummary d) none now

/-- The checks the runtime paths make on packet and descriptor before they look at the caller. -/
def runtimeDescriptor (mode : RuntimeMode) : Except VerificationError OperationDescriptor := do
  if isClockReadFailure now then .error .expiredClaim
  verifyPrototypeEnvelope packet
  let d ← manifest.lookup packet.opcode
  rejectOverDisclosedPacket crates packet d
  rejectNonProductionDescriptor d mode
  return d

/-- Who is calling: the authenticated caller, or outside production the prototype subject. -/
def runtimeSubject (mode : RuntimeMode) (callerKeys : Option CallerKeyRegistry) :
    Except VerificationError VerifiedSubject :=
  match callerKeys with
  | some registry => do
    let caller ← verifyCallerProof crates packet registry now
    return ⟨caller.subjectId, caller.keyId⟩
  | none => if mode = .productionVerified then .error .missingCallerRegistry
      else .ok prototypeSubject

def verifyManifestOperationForRuntimeWithCaller (mode : RuntimeMode)
    (callerKeys : Option CallerKeyRegistry) : Except VerificationError VerifiedCallContext := do
  let d ← runtimeDescriptor crates packet manifest now mode
  let subject ← runtimeSubject crates packet now mode callerKeys
  verifiedContextForDescriptor crates packet d audience subject (descriptorEvidenceSummary d) none
    now

def verifyManifestOperationAndSignForRuntimeWithIdentityAndCaller
    (identity : NodeVerifierIdentity) (mode : RuntimeMode)
    (callerKeys : Option CallerKeyRegistry) :
    Except VerificationError SignedVerifiedCallContext := do
  let context ← verifyManifestOperationForRuntimeWithCaller crates packet manifest audience now mode
    callerKeys
  return identity.signContext crates context

def evidenceRequest (d : OperationDescriptor) (subject : VerifiedSubject) (inputs : EvidenceInputs)
    (trustedResource : Option String) : EvidenceRequest :=
  let request := EvidenceRequest.fromDescriptorWithRefs d subject.subjectId audience
    inputs.evidenceRefs
  { request with
    publicInputs := request.publicInputs ++ inputs.publicInputs
    trustedRequestedResource := trustedResource }

/-- The summary fields of a request that the adapter finds satisfied. -/
def satisfiedSummary (d : OperationDescriptor) (request : EvidenceRequest)
    (adapter : EvidenceAdapter) : Except VerificationError (List String) := do
  let required ← request.requiredMaturityProfile
  rejectAdapterBelowPolicy request adapter.kind required.tier
  match adapter.verify request with
  | .rejected error => .error error
  | .satisfied summary => do
    request.validateSatisfiedSummary summary
    rejectForbiddenEvidenceSummary (summary.toPolicyScanFields required.tier) d
    let fields := summary.toContextFieldsForPolicy required.tier
    rejectForbiddenEvidenceSummary fields d
    return fields

/-- The part that the two evidence-backed paths share; they differ in the bytes from which they
read the requested resource. -/
def evidenceBackedContext (d : OperationDescriptor) (subject : VerifiedSubject)
    (inputs : EvidenceInputs) (resourcePayload : List UInt8) (adapter : EvidenceAdapter) :
    Except VerificationError VerifiedCallContext := do
  let trustedResource ← trustedRequestedResourceFromPayload crates resourcePayload
  let summary ← satisfiedSummary d (evidenceRequest audience d subject inputs trustedResource)
    adapter
  let resource ← contextResourceFromEvidenceSummary summary
  verifiedContextForDescriptor crates packet d audience subject summary resource now

def verifyManifestOperationWithLiveEvidenceAndSignForRuntimeWithIdentityAndCaller
    (inputs : EvidenceInputs) (trustedPayload : List UInt8) (adapter : EvidenceAdapter)
    (identity : NodeVerifierIdentity) (mode : RuntimeMode)
    (callerKeys : Option CallerKeyRegistry) :
    Except VerificationError SignedVerifiedCallContext := do
  let d ← runtimeDescriptor crates packet manifest now mode
  let subject ← runtimeSubject crates packet now mode callerKeys
  let context ← evidenceBackedContext crates packet audience now d subject inputs trustedPayload
    adapter
  return identity.signContext crates context

/-- The library path: no scan of the payload, and the subject is whoever the caller names. -/
def verifyManifestOperationWithEvidenceRefsAndInputsAndSign (subject : String)
    (inputs : EvidenceInputs) (adapter : EvidenceAdapter) (signerKeyId : String)
    (secretKey : Bytes 32) : Except VerificationError SignedVerifiedCallContext := do
  if isClockReadFailure now then .error .expiredClaim
  verifyPrototypeEnvelope packet
  let d ← manifest.lookup packet.opcode
  let context ← evidenceBackedContext crates packet audience now d ⟨subject, subject ++ "#key"⟩
    inputs packet.encryptedPayload adapter
  return context.signEd25519 crates signerKeyId secretKey .ed25519Verifier

end Paths

/-! ## What an accepted packet has passed -/

theorem verifyPrototypeEnvelope_eq_ok {packet : ZenithPacket} :
    verifyPrototypeEnvelope packet = .ok () ↔ packet.proof ≠ [] ∧ packet.claimTtl ≠ 0 := by
  unfold verifyPrototypeEnvelope
  split_ifs with hproof httl
  · simp_all
  · simp_all
  · simp_all

theorem rejectOverDisclosedPayload_eq_ok {crates : Crates} {payload : List UInt8}
    {d : OperationDescriptor} :
    rejectOverDisclosedPayload crates payload d = .ok () ↔
      Disclosure.scanJsonBytes crates .handlerContext payload d.disclosurePolicy = .ok () :=
  mapError_eq_ok

theorem rejectNonProductionDescriptor_eq_ok {d : OperationDescriptor} {mode : RuntimeMode} :
    rejectNonProductionDescriptor d mode = .ok () ↔
      (mode = .productionVerified → d.isDevOrPrototype = false ∧
        isDescriptorOnlyGap d = false) := by
  unfold rejectNonProductionDescriptor rejectDescriptorOnlyRuntimeEvidenceGap
  split_ifs with hmode hdev hgap
  · simp [hmode]
  · simp_all
  · simp_all
  · simp_all

theorem verifiedContextForDescriptor_eq_ok {crates : Crates} {packet : ZenithPacket}
    {d : OperationDescriptor} {audience : String} {subject : VerifiedSubject}
    {summary : List String} {resource : Option String} {now : UInt64}
    {context : VerifiedCallContext} :
    verifiedContextForDescriptor crates packet d audience subject summary resource now =
        .ok context ↔
      packet.claimTtl ≤ d.maxTtlSeconds ∧ packet.sessionId ≠ Bytes.filled 16 0 ∧
        (∀ field ∈ summary, startsWith field requiredAuthorityModeHead = false) ∧
        context = issuedContext crates packet d audience subject summary resource now := by
  unfold verifiedContextForDescriptor
  split_ifs with httl hsession hmode
  · exact iff_of_false nofun fun h => UInt64.not_le.mpr httl h.1
  · exact iff_of_false nofun fun h => h.2.1 hsession
  · refine iff_of_false nofun fun h => ?_
    obtain ⟨field, hfield, hstarts⟩ := List.any_eq_true.mp hmode
    rw [h.2.2.1 field hfield] at hstarts
    cases hstarts
  · constructor
    · intro h
      refine ⟨UInt64.not_lt.mp httl, hsession, fun field hfield => ?_, (Except.ok.inj h).symm⟩
      by_contra hstarts
      exact hmode (List.any_eq_true.mpr ⟨field, hfield, by simpa using hstarts⟩)
    · intro h
      rw [h.2.2.2]

section

variable {crates : Crates} {packet : ZenithPacket} {manifest : Manifest} {audience : String}
  {now : UInt64} {mode : RuntimeMode} {d : OperationDescriptor}

/-- What the runtime paths have checked once they come to the caller. -/
structure DescriptorAdmitted (crates : Crates) (packet : ZenithPacket) (manifest : Manifest)
    (now : UInt64) (mode : RuntimeMode) (d : OperationDescriptor) : Prop where
  clock_read : isClockReadFailure now = false
  envelope : packet.proof ≠ [] ∧ packet.claimTtl ≠ 0
  found : manifest.lookup packet.opcode = .ok d
  scanned : Disclosure.scanJsonBytes crates .handlerContext packet.encryptedPayload
    d.disclosurePolicy = .ok ()
  production : mode = .productionVerified →
    d.isDevOrPrototype = false ∧ isDescriptorOnlyGap d = false

theorem runtimeDescriptor_eq_ok :
    runtimeDescriptor crates packet manifest now mode = .ok d ↔
      DescriptorAdmitted crates packet manifest now mode d := by
  unfold runtimeDescriptor
  by_cases hclock : isClockReadFailure now
  · exact iff_of_false (by simp [hclock, bind, Except.bind])
      fun h => by simp [h.clock_read] at hclock
  · simp only [hclock, Bool.false_eq_true, if_false]
    constructor
    · intro h
      obtain ⟨_, henvelope, h⟩ := bind_eq_ok.mp h
      obtain ⟨found, hfound, h⟩ := bind_eq_ok.mp h
      obtain ⟨_, hscan, h⟩ := bind_eq_ok.mp h
      obtain ⟨_, hproduction, h⟩ := bind_eq_ok.mp h
      obtain rfl : found = d := Except.ok.inj h
      exact ⟨by simpa using hclock, verifyPrototypeEnvelope_eq_ok.mp henvelope, hfound,
        rejectOverDisclosedPayload_eq_ok.mp hscan,
        rejectNonProductionDescriptor_eq_ok.mp hproduction⟩
    · intro h
      refine bind_eq_ok.mpr ⟨(), ?_, bind_eq_ok.mpr ⟨d, h.found, ?_⟩⟩
      · exact verifyPrototypeEnvelope_eq_ok.mpr h.envelope
      · refine bind_eq_ok.mpr ⟨(), rejectOverDisclosedPayload_eq_ok.mpr h.scanned, ?_⟩
        exact bind_eq_ok.mpr ⟨(), rejectNonProductionDescriptor_eq_ok.mpr h.production, rfl⟩

theorem verifyPlain_eq_ok {identity : NodeVerifierIdentity} {callerKeys : Option CallerKeyRegistry}
    {signed : SignedVerifiedCallContext} :
    verifyManifestOperationAndSignForRuntimeWithIdentityAndCaller crates packet manifest audience
        now identity mode callerKeys = .ok signed ↔
      ∃ d subject context, DescriptorAdmitted crates packet manifest now mode d ∧
        runtimeSubject crates packet now mode callerKeys = .ok subject ∧
        verifiedContextForDescriptor crates packet d audience subject
          (descriptorEvidenceSummary d) none now = .ok context ∧
        signed = identity.signContext crates context := by
  unfold verifyManifestOperationAndSignForRuntimeWithIdentityAndCaller
    verifyManifestOperationForRuntimeWithCaller
  constructor
  · intro h
    obtain ⟨context, h, hsigned⟩ := bind_eq_ok.mp h
    obtain ⟨d, hd, h⟩ := bind_eq_ok.mp h
    obtain ⟨subject, hsubject, hcontext⟩ := bind_eq_ok.mp h
    exact ⟨d, subject, context, runtimeDescriptor_eq_ok.mp hd, hsubject, hcontext,
      (Except.ok.inj hsigned).symm⟩
  · rintro ⟨d, subject, context, hd, hsubject, hcontext, rfl⟩
    refine bind_eq_ok.mpr ⟨context, bind_eq_ok.mpr ⟨d, runtimeDescriptor_eq_ok.mpr hd, ?_⟩, rfl⟩
    exact bind_eq_ok.mpr ⟨subject, hsubject, hcontext⟩

theorem verifyLive_eq_ok {inputs : EvidenceInputs} {trustedPayload : List UInt8}
    {adapter : EvidenceAdapter} {identity : NodeVerifierIdentity}
    {callerKeys : Option CallerKeyRegistry} {signed : SignedVerifiedCallContext} :
    verifyManifestOperationWithLiveEvidenceAndSignForRuntimeWithIdentityAndCaller crates packet
        manifest audience now inputs trustedPayload adapter identity mode callerKeys = .ok signed ↔
      ∃ d subject context, DescriptorAdmitted crates packet manifest now mode d ∧
        runtimeSubject crates packet now mode callerKeys = .ok subject ∧
        evidenceBackedContext crates packet audience now d subject inputs trustedPayload adapter =
          .ok context ∧
        signed = identity.signContext crates context := by
  unfold verifyManifestOperationWithLiveEvidenceAndSignForRuntimeWithIdentityAndCaller
  constructor
  · intro h
    obtain ⟨d, hd, h⟩ := bind_eq_ok.mp h
    obtain ⟨subject, hsubject, h⟩ := bind_eq_ok.mp h
    obtain ⟨context, hcontext, hsigned⟩ := bind_eq_ok.mp h
    exact ⟨d, subject, context, runtimeDescriptor_eq_ok.mp hd, hsubject, hcontext,
      (Except.ok.inj hsigned).symm⟩
  · rintro ⟨d, subject, context, hd, hsubject, hcontext, rfl⟩
    refine bind_eq_ok.mpr ⟨d, runtimeDescriptor_eq_ok.mpr hd,
      bind_eq_ok.mpr ⟨subject, hsubject, ?_⟩⟩
    exact bind_eq_ok.mpr ⟨context, hcontext, rfl⟩

theorem satisfiedSummary_ok {request : EvidenceRequest} {adapter : EvidenceAdapter}
    {fields : List String} (h : satisfiedSummary d request adapter = .ok fields) :
    ∃ summary required, adapter.verify request = .satisfied summary ∧
      request.requiredMaturityProfile = .ok required ∧
      fields = summary.toContextFieldsForPolicy required.tier := by
  obtain ⟨required, hrequired, h⟩ := bind_eq_ok.mp h
  obtain ⟨_, -, h⟩ := bind_eq_ok.mp h
  cases hverify : adapter.verify request with
  | rejected error =>
    rw [hverify] at h
    cases h
  | satisfied summary =>
    rw [hverify] at h
    obtain ⟨_, -, h⟩ := bind_eq_ok.mp h
    obtain ⟨_, -, h⟩ := bind_eq_ok.mp h
    obtain ⟨_, -, h⟩ := bind_eq_ok.mp h
    exact ⟨summary, required, rfl, hrequired, (Except.ok.inj h).symm⟩

theorem evidenceBackedContext_eq_ok {subject : VerifiedSubject} {inputs : EvidenceInputs}
    {resourcePayload : List UInt8} {adapter : EvidenceAdapter} {context : VerifiedCallContext} :
    evidenceBackedContext crates packet audience now d subject inputs resourcePayload adapter =
        .ok context ↔
      ∃ trustedResource summary resource,
        trustedRequestedResourceFromPayload crates resourcePayload = .ok trustedResource ∧
        satisfiedSummary d (evidenceRequest audience d subject inputs trustedResource) adapter =
          .ok summary ∧
        contextResourceFromEvidenceSummary summary = .ok resource ∧
        verifiedContextForDescriptor crates packet d audience subject summary resource now =
          .ok context := by
  constructor
  · intro h
    obtain ⟨trustedResource, htrusted, h⟩ := bind_eq_ok.mp h
    obtain ⟨summary, hsummary, h⟩ := bind_eq_ok.mp h
    obtain ⟨resource, hresource, h⟩ := bind_eq_ok.mp h
    exact ⟨trustedResource, summary, resource, htrusted, hsummary, hresource, h⟩
  · rintro ⟨trustedResource, summary, resource, htrusted, hsummary, hresource, h⟩
    refine bind_eq_ok.mpr ⟨trustedResource, htrusted, bind_eq_ok.mpr ⟨summary, hsummary, ?_⟩⟩
    exact bind_eq_ok.mpr ⟨resource, hresource, h⟩

end

end CallVerifier
