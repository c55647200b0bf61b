import SecsMagik.RouterRuns

/-! # Every gate stands before the handler

Fail-closed dispatch: a call that starts a handler has passed every gate, at its one clock
reading, with its own reservations.
-/
namespace DispatchGates

open RustStd
open ExternalCrates (Crates)
open CallContext ReceiverManifest ScopedNullifier Ledger AtomicPrograms GatewayMachine GatewayRouter
open RouterTraces RouterRuns
open ProofKeys (ProofMetadataBinding)

section

variable {crates : Crates} {router : ConfigurableRouter} {signed : SignedVerifiedCallContext}
  {payload : List UInt8} {timestamp : UInt64} {admitted : Admitted}

/-! ## The gates -/

theorem authority_satisfied {d : OperationDescriptor}
    (h : checkAuthorityMode signed d = .ok ()) {required : AuthorityMode}
    (hrequired : d.requiredAuthorityMode = some required) :
    ∃ observed, AuthorityMode.fromVerifiedSummary signed.context.evidenceSummary = .ok observed ∧
      observed.satisfiesRequiredMode required = .ok () := by
  unfold checkAuthorityMode at h
  rw [hrequired] at h
  simp only at h
  cases hobserved : AuthorityMode.fromVerifiedSummary signed.context.evidenceSummary with
  | error e => rw [hobserved] at h; cases h
  | ok observed =>
    rw [hobserved] at h
    simp only [AuthorityModePolicyDecision.isSatisfied, AuthorityModePolicyDecision.evaluate] at h
    refine ⟨observed, rfl, ?_⟩
    cases hresult : observed.satisfiesRequiredMode required with
    | error e => simp [hresult, Except.isOk, Except.toBool] at h
    | ok u => rfl

theorem proofPolicy_met {context : VerifiedCallContext} {binding : Option ProofMetadataBinding}
    (h : evaluateProofPolicy router context timestamp = .ok binding)
    {policy : ProofKeys.ProofMetadataRoutePolicy}
    (hpolicy : router.proofMetadataPolicies context.opcode = some policy) :
    ∃ registry granted, router.proofKeyRegistry = some registry ∧
      ProofKeys.evaluateMetadata registry timestamp context.proofMetadata policy.requiredTier
        policy.requireActive = .ok granted := by
  unfold evaluateProofPolicy at h
  rw [hpolicy] at h
  simp only at h
  cases hregistry : router.proofKeyRegistry with
  | none => rw [hregistry] at h; cases h
  | some registry =>
    rw [hregistry] at h
    simp only at h
    cases hresult : ProofKeys.evaluateMetadata registry timestamp context.proofMetadata
        policy.requiredTier policy.requireActive with
    | error e => rw [hresult] at h; cases h
    | ok granted => exact ⟨registry, granted, rfl, hresult⟩

theorem permission_allowed {context : VerifiedCallContext}
    (h : permissionDenial router context timestamp = none) {policy : PermissionPolicy.Policy}
    (hpolicy : router.permissionPolicy = some policy) :
    policy.evaluate context.subject.subjectId context.opcode context.operation
      (context.resource.getD "") timestamp = .ok .allow := by
  unfold permissionDenial at h
  rw [hpolicy] at h
  simp only at h
  cases hresult : policy.evaluate context.subject.subjectId context.opcode context.operation
      (context.resource.getD "") timestamp with
  | error deny => rw [hresult] at h; cases h
  | ok decision => cases decision; rfl

theorem production_descriptor {d : OperationDescriptor}
    (h : productionContextUsesDevDescriptor router signed = false)
    (hd : router.manifest.lookup signed.context.opcode = .ok d)
    (hidentity : router.identity.authenticatorKind ≠ .localDevUntrusted) :
    d.isDevOrPrototype = false := by
  unfold productionContextUsesDevDescriptor at h
  rw [if_neg hidentity, hd] at h
  exact h

/-- Everything that held when the step `start` of a call with the steps `es` started a handler:
`timestamp` is the call's only clock reading, `d` the active descriptor of the context's opcode and
`routed` the context with the registration projection appended. -/
structure FailClosed (crates : Crates) (router : ConfigurableRouter)
    (signed : SignedVerifiedCallContext) (payload : List UInt8) (es : List Step) (start : Step)
    (timestamp : UInt64) (d : OperationDescriptor) (routed : SignedVerifiedCallContext) :
    Prop where
  reading : ∃ env w rest, es = ⟨env, w, .readClock⟩ :: rest ∧ env.clock = timestamp ∧
    ∀ x ∈ rest, x.cmd ≠ .readClock
  signature : ∃ key, router.verifierKeys.Trusts signed.signerKeyId timestamp key ∧
    SignatureHolds crates signed key.publicKey router.expectedAudience timestamp
  descriptor : router.manifest.lookup signed.context.opcode = .ok d
  binding : MatchesDescriptor crates signed.context d
  production : router.identity.authenticatorKind ≠ .localDevUntrusted → d.isDevOrPrototype = false
  projection : appendRegistrationProjection crates signed payload d timestamp = .ok routed
  authority : ∀ required, d.requiredAuthorityMode = some required →
    ∃ observed, AuthorityMode.fromVerifiedSummary routed.context.evidenceSummary = .ok observed ∧
      observed.satisfiesRequiredMode required = .ok ()
  proof : ∀ policy, router.proofMetadataPolicies signed.context.opcode = some policy →
    ∃ registry granted, router.proofKeyRegistry = some registry ∧
      ProofKeys.evaluateMetadata registry timestamp signed.context.proofMetadata
        policy.requiredTier policy.requireActive = .ok granted
  reserved : ∃ r ∈ es, Reserves r (replayReservation signed.context signed.signerKeyId timestamp)
  used : scopedUseRequired routed.context →
    ∃ evidence, ScopedNullifierEvidence.fromContext crates routed.context = .ok evidence ∧
      ∃ u ∈ es, RecordsUse u (scopedNullifierUse crates evidence routed.context timestamp)
  permission : ∀ policy, router.permissionPolicy = some policy →
    policy.evaluate signed.context.subject.subjectId signed.context.opcode
      signed.context.operation (signed.context.resource.getD "") timestamp = .ok .allow
  payload_fits : payload.length ≤ router.limits.maxPayloadBytes
  handler : signed.context.handlerId = some d.handlerId ∧ router.programs d.handlerId ∧
    start.cmd = .execute d.handlerId routed.context payload (handlerLimits router d)

/-- Fail-closed dispatch, in every environment: whatever the clock reads, whichever statements
fail and whatever other calls do to the ledger between the steps of this one. -/
theorem handler_starts_only_behind_every_gate (crates : Crates) (router : ConfigurableRouter)
    (signed : SignedVerifiedCallContext) (payload : List UInt8) (es : List Step)
    (q : Program Routed) (h : machine.Follows (routeVerified crates router signed payload) es q)
    (start : Step) (hstart : start ∈ es) (hexec : start.cmd.isExecute) :
    ∃ timestamp d routed,
      FailClosed crates router signed payload es start timestamp d routed := by
  obtain ⟨env, w, rest, admitted, rfl, hpassed, hreached⟩ := routeVerified_trace h hstart hexec
  obtain ⟨_, _, _, hcons, hsteps⟩ := routeVerified_steps h (List.cons_ne_nil _ _)
  cases hcons
  have hbinding := (signedContextMatchesActiveManifest_iff hpassed.descriptor).mp hpassed.manifest
  obtain ⟨projection, hrouted⟩ := routed_eq hpassed.projection
  obtain ⟨binding, hproof, -⟩ := hpassed.proof
  obtain ⟨r, hr, hreserves⟩ := hreached.reserved
  obtain ⟨handlerId, hid, hprogram, hcmd⟩ := hreached.started
  -- the routed context differs from the signed one in its summary only
  have hid' : signed.context.handlerId = some handlerId := by
    rw [hrouted] at hid
    exact hid
  obtain rfl := hbinding.handler handlerId hid'
  refine ⟨env.clock, admitted.descriptor, admitted.routed, ?_⟩
  exact {
    reading := ⟨env, w, rest, rfl, rfl, fun x hx => (hsteps x hx).no_clock⟩
    signature := signature_of_verifySigner hpassed.signer
    descriptor := hpassed.descriptor
    binding := hbinding
    production := production_descriptor hpassed.production hpassed.descriptor
    projection := hpassed.projection
    authority := fun required hrequired => authority_satisfied hpassed.authority hrequired
    proof := fun policy hpolicy => by
      rw [hrouted] at hproof
      exact proofPolicy_met hproof hpolicy
    reserved := by
      rw [hrouted] at hreserves
      exact ⟨r, List.mem_cons_of_mem _ hr, hreserves⟩
    used := fun hrequired => by
      obtain ⟨evidence, hevidence, u, hu, hrecords⟩ := hreached.used hrequired
      exact ⟨evidence, hevidence, u, List.mem_cons_of_mem _ hu, hrecords⟩
    permission := fun policy hpolicy => by
      have hpermitted := hreached.permitted
      rw [hrouted] at hpermitted
      exact permission_allowed hpermitted hpolicy
    payload_fits := hreached.fits
    handler := ⟨hid', hprogram, hcmd⟩ }

/-- A scoped call to the small receiver that does start its handler. -/
theorem append_starts_behind_every_gate :
    let signed := Sample.signed .transparent 3 (Sample.scopedSummary "c") 200
    let router := Sample.receiver .transparent (· = "file/append")
    let es := (machine.run (Sample.env 150) Tables.empty
      (routeVerified .transparent router signed [1, 2])).events
    ∃ start ∈ es, start.cmd.isExecute ∧ ∃ timestamp d routed,
      FailClosed .transparent router signed [1, 2] es start timestamp d routed := by
  intro signed router es
  have hstarts : ∃ start ∈ (machine.run (Sample.env 150) Tables.empty (routeVerified .transparent
      Sample.appendReceiver (Sample.signed .transparent 3 (Sample.scopedSummary "c") 200)
        [1, 2])).events, start.cmd.isExecute := by
    decide +kernel
  obtain ⟨start, hstart, hexec⟩ := hstarts
  exact ⟨start, hstart, hexec, handler_starts_only_behind_every_gate _ _ _ _ _ _
    (Machine.run_follows _ _ _) start hstart hexec⟩

end

end DispatchGates
