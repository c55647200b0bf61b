import SecsMagik.GatewayRouter

/-! # Traces of a routed call

Which commands each part of a call may issue, and what a call must have done before it starts a
handler, whatever other calls do to the ledger in between its steps.
-/
namespace RouterTraces

open RustStd
open ExternalCrates (Crates)
open CallContext ReceiverManifest ScopedNullifier
open Receipts (Receipt ReceiptEventKind signReceipt)
open Ledger AtomicPrograms GatewayMachine GatewayRouter
open VerifierKeys (NodeVerifierIdentity PublicVerifierKey PublicVerifierKeyRegistry)
open ProofKeys (ProofMetadataBinding)

section

variable {crates : Crates} {router : ConfigurableRouter} {signed : SignedVerifiedCallContext}
  {payload : List UInt8} {timestamp : UInt64} {admitted : Admitted}

/-! ## The preflight -/

theorem checkSigner_ok_iff :
    checkSigner crates router signed timestamp = .ok () ↔
      verifySigner crates router signed timestamp = .ok () := by
  unfold checkSigner
  cases verifySigner crates router signed timestamp <;> simp

/-- Whatever the identity of the router, the signer's key is trusted and the signature holds. -/
theorem signature_of_verifySigner (h : verifySigner crates router signed timestamp = .ok ()) :
    ∃ key, router.verifierKeys.Trusts signed.signerKeyId timestamp key ∧
      SignatureHolds crates signed key.publicKey router.expectedAudience timestamp := by
  apply PublicVerifierKeyRegistry.verifySignedContext_ok_iff.mp
  unfold verifySigner at h
  split at h
  · exact h
  · split at h
    · cases h
    · exact PublicVerifierKeyRegistry.verifySignedContext_of_production h

/-- The context is bound to the active descriptor of its opcode. -/
structure MatchesDescriptor (crates : Crates) (context : VerifiedCallContext)
    (d : OperationDescriptor) : Prop where
  fingerprint : context.descriptorFingerprint = d.authorizationFingerprint crates
  operation : context.operation = d.name
  handler : ∀ handlerId, context.handlerId = some handlerId → handlerId = d.handlerId
  unhandled : context.handlerId = none → d.outputProfile.isSome
  ttl : saturatingSub context.expiresAt context.issuedAt ≤ d.maxTtlSeconds

variable {context : VerifiedCallContext} {d : OperationDescriptor}

theorem signedContextMatchesActiveManifest_iff
    (hd : router.manifest.lookup context.opcode = .ok d) :
    signedContextMatchesActiveManifest crates router context = true ↔
      MatchesDescriptor crates context d := by
  unfold signedContextMatchesActiveManifest
  rw [hd]
  simp only
  constructor
  · intro h
    split_ifs at h with hprint httl
    rw [Bool.and_eq_true, decide_eq_true_eq] at h
    refine ⟨?_, h.1, ?_, ?_, UInt64.not_lt.mp httl⟩
    · by_contra hne
      exact hprint (.inr hne)
    · intro handlerId hsome
      have hhandler := h.2
      rw [hsome] at hhandler
      simpa using hhandler
    · intro hnone
      have hprofile := h.2
      rw [hnone] at hprofile
      exact hprofile
  · intro h
    have hprint : ¬ (context.descriptorFingerprint = "" ∨
        context.descriptorFingerprint ≠ d.authorizationFingerprint crates) := by
      rw [h.fingerprint]
      simp [authorizationFingerprint_ne_empty]
    rw [if_neg hprint, if_neg (UInt64.not_lt.mpr h.ttl), Bool.and_eq_true]
    refine ⟨decide_eq_true h.operation, ?_⟩
    cases hid : context.handlerId with
    | none => exact h.unhandled hid
    | some handlerId => exact decide_eq_true (h.handler handlerId hid)

/-- What a successful preflight established, gate by gate. -/
structure Passed (crates : Crates) (router : ConfigurableRouter)
    (signed : SignedVerifiedCallContext) (payload : List UInt8) (timestamp : UInt64)
    (admitted : Admitted) : Prop where
  signer : verifySigner crates router signed timestamp = .ok ()
  manifest : signedContextMatchesActiveManifest crates router signed.context = true
  production : productionContextUsesDevDescriptor router signed = false
  descriptor : router.manifest.lookup signed.context.opcode = .ok admitted.descriptor
  projection : appendRegistrationProjection crates signed payload admitted.descriptor timestamp =
    .ok admitted.routed
  authority : checkAuthorityMode admitted.routed admitted.descriptor = .ok ()
  proof : ∃ binding, evaluateProofPolicy router admitted.routed.context timestamp = .ok binding ∧
    admitted.receiptSigned = withBinding admitted.routed binding

theorem checkDescriptor_ok (h : checkDescriptor crates router signed = .ok d) :
    signedContextMatchesActiveManifest crates router signed.context = true ∧
      productionContextUsesDevDescriptor router signed = false ∧
      router.manifest.lookup signed.context.opcode = .ok d := by
  unfold checkDescriptor at h
  split_ifs at h with hmanifest hproduction
  refine ⟨by simpa using hmanifest, by simpa using hproduction, ?_⟩
  cases hlookup : router.manifest.lookup signed.context.opcode with
  | error e => rw [hlookup] at h; cases h
  | ok d' => rw [hlookup] at h; cases h; rfl

theorem checkProofMetadata_ok {binding : Option ProofMetadataBinding}
    (h : checkProofMetadata router signed timestamp = .ok binding) :
    evaluateProofPolicy router signed.context timestamp = .ok binding := by
  unfold checkProofMetadata at h
  cases hpolicy : evaluateProofPolicy router signed.context timestamp with
  | error e => rw [hpolicy] at h; cases h
  | ok binding' => rw [hpolicy] at h; cases h; rfl

theorem preflight_ok (h : preflight crates router signed payload timestamp = .ok admitted) :
    Passed crates router signed payload timestamp admitted := by
  obtain ⟨_, hsigner, h⟩ := bind_eq_ok.mp h
  obtain ⟨d, hd, h⟩ := bind_eq_ok.mp h
  obtain ⟨routed, hrouted, h⟩ := bind_eq_ok.mp h
  obtain ⟨_, hauthority, h⟩ := bind_eq_ok.mp h
  obtain ⟨binding, hbinding, h⟩ := bind_eq_ok.mp h
  cases h
  obtain ⟨hmanifest, hproduction, hlookup⟩ := checkDescriptor_ok hd
  exact ⟨checkSigner_ok_iff.mp hsigner, hmanifest, hproduction, hlookup, hrouted, hauthority,
    binding, checkProofMetadata_ok hbinding, rfl⟩

theorem preflight_of_passed (h : Passed crates router signed payload timestamp admitted) :
    preflight crates router signed payload timestamp = .ok admitted := by
  obtain ⟨binding, hbinding, hreceipt⟩ := h.proof
  have hdescriptor : checkDescriptor crates router signed = .ok admitted.descriptor := by
    simp [checkDescriptor, h.manifest, h.production, h.descriptor]
  have hproof : checkProofMetadata router admitted.routed timestamp = .ok binding := by
    simp [checkProofMetadata, hbinding]
  refine bind_eq_ok.mpr ⟨(), checkSigner_ok_iff.mpr h.signer, ?_⟩
  refine bind_eq_ok.mpr ⟨_, hdescriptor, ?_⟩
  refine bind_eq_ok.mpr ⟨_, h.projection, ?_⟩
  refine bind_eq_ok.mpr ⟨(), h.authority, ?_⟩
  refine bind_eq_ok.mpr ⟨binding, hproof, ?_⟩
  rw [← hreceipt]
  rfl

theorem routed_eq {routed : SignedVerifiedCallContext}
    (h : appendRegistrationProjection crates signed payload d timestamp = .ok routed) :
    ∃ projection, routed = extendSummary signed projection := by
  unfold appendRegistrationProjection at h
  split at h
  · split at h
    · next projection _ => cases h; exact ⟨projection, rfl⟩
    · cases h
  · cases h
    exact ⟨[], by simp [extendSummary]⟩

/-! ## What the router's programs issue -/

theorem recordSignedReceipt_only (receipt : Receipt) :
    (recordSignedReceipt crates router receipt).Only (·.isAudit) := by
  unfold recordSignedReceipt
  split
  · trivial
  · exact (recordReceiptWithEmittedEvent_only _).bind fun _ => trivial

theorem recordOperationEvent_only (kind : ReceiptEventKind) (reason : Option String) :
    (recordOperationEvent kind signed timestamp reason).Only (·.isAudit) :=
  (recordEvent_only _).bind fun _ => trivial

theorem recordExecutionReceipt_only (decision : Decision) (reason : Option String) :
    (recordExecutionReceipt crates router signed decision reason timestamp).Only (·.isAudit) :=
  (recordSignedReceipt_only _).bind fun _ => trivial

theorem recordExecutionReceiptRequired_only (decision : Decision) (reason schema : Option String)
    (output : Option (List UInt8)) :
    (recordExecutionReceiptRequired crates router signed decision reason timestamp schema
      output).Only (·.isAudit) := by
  unfold recordExecutionReceiptRequired
  simp only
  split
  · trivial
  · split
    · trivial
    · exact (recordReceiptWithEmittedEvent_only _).bind fun _ => trivial

theorem recordOutcomeReceipt_only (d : OperationDescriptor) (decision : Decision)
    (reason : Option String) (output : Option (List UInt8)) :
    (recordOutcomeReceipt crates router d signed decision reason output timestamp).Only
      (·.isAudit) := by
  unfold recordOutcomeReceipt
  split
  · exact recordExecutionReceiptRequired_only _ _ _ _
  · exact (recordExecutionReceipt_only _ _).bind fun _ => trivial

theorem refuse_only (refusal : Refusal) :
    (refuse crates router refusal timestamp).Only (·.isAudit) := by
  obtain ⟨signed, reason, record⟩ := refusal
  cases record with
  | silent => trivial
  | receipt =>
    have hreceipt : (recordVerifiedRejectReceipt crates router signed reason timestamp).Only
        (·.isAudit) := (recordSignedReceipt_only _).bind fun _ => trivial
    exact hreceipt.bind fun _ => (recordOperationEvent_only _ _).bind fun _ => trivial
  | receiptWithSummary summary =>
    have hreceipt : (recordAuthorityModeRejectReceipt crates router signed reason summary
        timestamp).Only (·.isAudit) := (recordSignedReceipt_only _).bind fun _ => trivial
    exact hreceipt.bind fun _ => (recordOperationEvent_only _ _).bind fun _ => trivial

theorem refuseExecution_only (reason : String) :
    (refuseExecution crates router signed reason timestamp).Only (·.isAudit) :=
  (recordExecutionReceipt_only _ _).bind fun _ =>
    (recordOperationEvent_only _ _).bind fun _ => trivial

theorem postStartExecutionRejection_only (d : OperationDescriptor) (reason : String) :
    (postStartExecutionRejection crates router d signed reason timestamp).Only (·.isAudit) := by
  refine (recordOutcomeReceipt_only d _ _ _).bind fun id => ?_
  cases id with
  | none => trivial
  | some id => exact (recordOperationEvent_only _ _).bind fun _ => trivial

theorem concludeExecution_only (outcome : HandlerOutcome) :
    (concludeExecution crates router admitted outcome timestamp).Only (·.isAudit) := by
  refine (recordOutcomeReceipt_only _ _ _ _).bind fun id => ?_
  cases id with
  | none => trivial
  | some id => exact (recordOperationEvent_only _ _).bind fun _ => trivial

theorem recordVerifyReceipt_only :
    (recordVerifyReceipt crates router signed timestamp).Only (·.isAudit) :=
  (recordSignedReceipt_only _).bind fun _ => (recordOperationEvent_only _ _).bind fun _ => trivial

theorem announce_only (admitted : Admitted) :
    (announce crates router admitted payload timestamp).Only (·.isAudit) := by
  unfold announce
  refine Prog.Only.bind (Prog.only_perform rfl) fun _ => ?_
  exact recordVerifyReceipt_only.bind fun _ => recordOperationEvent_only _ _

theorem enforceScopedUse_only (context : VerifiedCallContext) :
    (enforceScopedUse crates context timestamp).Only fun c =>
      ∃ row, c = .sql (.insertScopedUse row) := by
  unfold enforceScopedUse
  split
  · split
    · trivial
    · refine ((recordScopedNullifierUse_only _ _ _ _).mono fun c hc => ⟨_, hc⟩).bind fun _ => ?_
      split <;> trivial
  · trivial

theorem not_audit_of_execute {c : Cmd} (h : c.isExecute) : ¬ c.isAudit := by
  cases c <;> simp_all [Cmd.isExecute, Cmd.isAudit]

/-! ## The trace of a call that starts a handler -/

/-- `e` is the only step among `es` that starts a handler. -/
def SoleExecute (e : Step) (es : List Step) : Prop :=
  ∃ before after, es = before ++ e :: after ∧ ∀ x ∈ before ++ after, ¬ x.cmd.isExecute

theorem SoleExecute.prepend {e : Step} {es pre : List Step} (h : SoleExecute e es)
    (hpre : ∀ x ∈ pre, ¬ x.cmd.isExecute) : SoleExecute e (pre ++ es) := by
  obtain ⟨before, after, rfl, hothers⟩ := h
  refine ⟨pre ++ before, after, by simp, fun x hx => ?_⟩
  rw [List.append_assoc] at hx
  rcases List.mem_append.mp hx with hx | hx
  · exact hpre x hx
  · exact hothers x hx

theorem not_execute_of_audit {c : Cmd} (h : c.isAudit) : ¬ c.isExecute := fun hexec =>
  not_audit_of_execute hexec h

variable {es : List Step} {q : Program Routed}

theorem startHandler_trace {handlerId : String} {e : Step}
    (h : machine.Follows (startHandler crates router admitted handlerId payload timestamp) es q)
    (he : e ∈ es) (hexec : e.cmd.isExecute) :
    e.cmd = .execute handlerId admitted.routed.context payload
      (handlerLimits router admitted.descriptor) ∧ SoleExecute e es := by
  obtain ⟨_, es₁, es₂, rfl, hevent, hrun, he⟩ :=
    h.bind_of_mem (recordOperationEvent_only _ _) he (not_audit_of_execute hexec)
  have hpre : ∀ x ∈ es₁, ¬ x.cmd.isExecute := fun x hx =>
    not_execute_of_audit (hevent.only (recordOperationEvent_only _ _) x hx)
  rw [Prog.perform_bind] at hrun
  cases hrun with
  | refl => cases he
  | @step env w _ _ es₃ _ hconclude =>
    have hpost : ∀ x ∈ es₃, ¬ x.cmd.isExecute := fun x hx =>
      not_execute_of_audit (hconclude.only (concludeExecution_only _) x hx)
    rcases List.mem_cons.mp he with rfl | he
    · refine ⟨rfl, SoleExecute.prepend ⟨[], es₃, rfl, ?_⟩ hpre⟩
      simpa using hpost
    · exact absurd hexec (hpost e he)

theorem dispatch_trace {e : Step}
    (h : machine.Follows (dispatch crates router admitted payload timestamp) es q) (he : e ∈ es)
    (hexec : e.cmd.isExecute) :
    payload.length ≤ router.limits.maxPayloadBytes ∧
      ∃ handlerId, admitted.routed.context.handlerId = some handlerId ∧
        router.programs handlerId ∧
        machine.Follows (startHandler crates router admitted handlerId payload timestamp) es q := by
  have hreject : ∀ reason, ¬ machine.Follows (postStartExecutionRejection crates router
      admitted.descriptor admitted.receiptSigned reason timestamp) es q := fun reason hfollows =>
    not_audit_of_execute hexec (hfollows.only (postStartExecutionRejection_only _ _) e he)
  unfold dispatch at h
  simp only at h
  split at h
  · exact absurd h (hreject _)
  · next hfits =>
      refine ⟨not_lt.mp hfits, ?_⟩
      cases hid : admitted.routed.context.handlerId with
      | none => rw [hid] at h; exact absurd h (hreject _)
      | some handlerId =>
        rw [hid] at h
        simp only at h
        split at h
        · next hprogram => exact ⟨handlerId, rfl, hprogram, h⟩
        · exact absurd h (hreject _)

theorem enforceScopedUse_passed
    (h : machine.Follows (enforceScopedUse crates context timestamp) es (.done none))
    (hrequired : scopedUseRequired context) :
    ∃ evidence, ScopedNullifierEvidence.fromContext crates context = .ok evidence ∧
      ∃ u ∈ es, RecordsUse u (scopedNullifierUse crates evidence context timestamp) := by
  unfold enforceScopedUse at h
  rw [if_pos hrequired] at h
  cases hevidence : ScopedNullifierEvidence.fromContext crates context with
  | error reason => rw [hevidence] at h; cases h.done_inv.2
  | ok evidence =>
    rw [hevidence] at h
    obtain ⟨outcome, es₁, es₂, rfl, hrecord, hend⟩ := h.bind_done
    rcases outcome with - | (- | -)
    · cases hend.done_inv.2
    · obtain ⟨u, hu, hrecords⟩ := recordScopedNullifierUse_recorded hrecord
      exact ⟨evidence, rfl, u, List.mem_append_left _ hu, hrecords⟩
    · cases hend.done_inv.2

/-- What the steps after the preflight established before the handler was started. -/
structure Reached (crates : Crates) (router : ConfigurableRouter) (payload : List UInt8)
    (timestamp : UInt64) (admitted : Admitted) (es : List Step) (e : Step) : Prop where
  reserved : ∃ r ∈ es, Reserves r (replayReservation admitted.routed.context
    admitted.routed.signerKeyId timestamp)
  used : scopedUseRequired admitted.routed.context →
    ∃ evidence, ScopedNullifierEvidence.fromContext crates admitted.routed.context = .ok evidence ∧
      ∃ u ∈ es, RecordsUse u
        (scopedNullifierUse crates evidence admitted.routed.context timestamp)
  permitted : permissionDenial router admitted.routed.context timestamp = none
  fits : payload.length ≤ router.limits.maxPayloadBytes
  started : ∃ handlerId, admitted.routed.context.handlerId = some handlerId ∧
    router.programs handlerId ∧ e.cmd = .execute handlerId admitted.routed.context payload
      (handlerLimits router admitted.descriptor)
  sole : SoleExecute e es

theorem routeAdmitted_trace {e : Step}
    (h : machine.Follows (routeAdmitted crates router admitted payload timestamp) es q)
    (he : e ∈ es) (hexec : e.cmd.isExecute) :
    Reached crates router payload timestamp admitted es e := by
  have hnot : ∀ {c : Cmd}, (PrunesAt timestamp c ∨ c = .sql (.insertReplay (replayReservation
      admitted.routed.context admitted.routed.signerKeyId timestamp))) → ¬ c.isExecute := by
    rintro c (⟨-, rfl⟩ | rfl) <;> simp [Cmd.isExecute]
  obtain ⟨outcome, es₁, es₂, rfl, hreserve, h, he⟩ :=
    h.bind_of_mem (reserveReplay_only _ _ _) he (fun hc => hnot hc hexec)
  have hpre₁ : ∀ x ∈ es₁, ¬ x.cmd.isExecute := fun x hx =>
    hnot (hreserve.only (reserveReplay_only _ _ _) x hx)
  rcases outcome with - | (- | -)
  · exact absurd (h.only (refuse_only _) e he) (not_audit_of_execute hexec)
  · obtain ⟨refusal, es₃, es₄, rfl, huse, h, he⟩ := h.bind_of_mem (enforceScopedUse_only _) he (by
      rintro ⟨row, hrow⟩
      rw [hrow] at hexec
      cases hexec)
    have hpre₂ : ∀ x ∈ es₃, ¬ x.cmd.isExecute := by
      intro x hx
      obtain ⟨row, hrow⟩ := huse.only (enforceScopedUse_only _) x hx
      rw [hrow]
      simp [Cmd.isExecute]
    cases refusal with
    | some reason =>
      exact absurd (h.only (refuseExecution_only _) e he) (not_audit_of_execute hexec)
    | none =>
      obtain ⟨_, es₅, es₆, rfl, hannounce, h, he⟩ :=
        h.bind_of_mem (announce_only _) he (not_audit_of_execute hexec)
      have hpre₃ : ∀ x ∈ es₅, ¬ x.cmd.isExecute := fun x hx =>
        not_execute_of_audit (hannounce.only (announce_only _) x hx)
      cases hpermission : permissionDenial router admitted.routed.context timestamp with
      | some deny =>
        rw [hpermission] at h
        exact absurd (h.only (refuseExecution_only _) e he) (not_audit_of_execute hexec)
      | none =>
        rw [hpermission] at h
        obtain ⟨hfits, handlerId, hid, hprogram, hstart⟩ := dispatch_trace h he hexec
        obtain ⟨hcmd, hsole⟩ := startHandler_trace hstart he hexec
        obtain ⟨r, hr, hreserves⟩ := reserveReplay_reserved hreserve
        refine ⟨⟨r, List.mem_append_left _ hr, hreserves⟩, fun hrequired => ?_, hpermission,
          hfits, ⟨handlerId, hid, hprogram, hcmd⟩,
          ((hsole.prepend hpre₃).prepend hpre₂).prepend hpre₁⟩
        obtain ⟨evidence, hevidence, u, hu, hrecords⟩ := enforceScopedUse_passed huse hrequired
        exact ⟨evidence, hevidence, u,
          List.mem_append_right _ (List.mem_append_left _ hu), hrecords⟩
  · exact absurd (h.only (refuse_only _) e he) (not_audit_of_execute hexec)

/-- What a call may issue once it has read the clock: no second reading, a prune only up to the
reading, which then is not the sentinel, and no reservation but that of its own context. -/
structure AfterReading (context : VerifiedCallContext) (timestamp : UInt64) (c : Cmd) : Prop where
  no_clock : c ≠ .readClock
  prunes : ∀ cutoff, c = .sql (.deleteExpiredReplay cutoff) → PrunesAt timestamp c
  reserves : ∀ row, c = .sql (.insertReplay row) →
    row.key = replayKey context ∧ row.expiresAt = asI64 context.expiresAt

theorem AfterReading.of_audit {c : Cmd} (h : c.isAudit ∨ c.isExecute) :
    AfterReading context timestamp c := by
  refine ⟨?_, ?_, ?_⟩
  · rintro rfl
    simp [Cmd.isAudit, Cmd.isExecute] at h
  · rintro cutoff rfl
    simp [Cmd.isAudit, Cmd.isExecute] at h
  · rintro row rfl
    simp [Cmd.isAudit, Cmd.isExecute] at h

theorem startHandler_only (handlerId : String) :
    (startHandler crates router admitted handlerId payload timestamp).Only fun c =>
      c.isAudit ∨ c.isExecute := by
  refine ((recordOperationEvent_only _ _).mono fun _ => .inl).bind fun _ => ?_
  refine ⟨.inr rfl, fun outcome => ?_⟩
  exact (concludeExecution_only _).mono fun _ => .inl

theorem dispatch_only :
    (dispatch crates router admitted payload timestamp).Only fun c =>
      c.isAudit ∨ c.isExecute := by
  have hreject : ∀ reason, (postStartExecutionRejection crates router admitted.descriptor
      admitted.receiptSigned reason timestamp).Only fun c => c.isAudit ∨ c.isExecute :=
    fun reason => (postStartExecutionRejection_only _ reason).mono fun _ => .inl
  unfold dispatch
  simp only
  split
  · exact hreject _
  · split
    · exact hreject _
    · split
      · exact startHandler_only _
      · exact hreject _

theorem routeOwned_only :
    (routeOwned crates router admitted payload timestamp).Only fun c =>
      c.isAudit ∨ c.isExecute := by
  refine ((announce_only _).mono fun _ => .inl).bind fun _ => ?_
  split
  · exact (refuseExecution_only _).mono fun _ => .inl
  · exact dispatch_only

theorem routeAdmitted_only :
    (routeAdmitted crates router admitted payload timestamp).Only
      (AfterReading admitted.routed.context timestamp) := by
  have haudit : ∀ {c : Cmd}, c.isAudit → AfterReading admitted.routed.context timestamp c :=
    fun h => .of_audit (.inl h)
  refine ((reserveReplay_only _ _ _).mono ?_).bind fun outcome => ?_
  · rintro c (hprune | rfl)
    · refine ⟨?_, fun _ _ => hprune, ?_⟩
      · rw [hprune.2]
        simp
      · rw [hprune.2]
        simp
    · refine ⟨by simp, by simp, ?_⟩
      rintro row ⟨⟩
      exact ⟨rfl, rfl⟩
  rcases outcome with - | (- | -)
  · exact (refuse_only _).mono fun _ => haudit
  · refine ((enforceScopedUse_only _).mono ?_).bind fun refusal => ?_
    · rintro c ⟨row, rfl⟩
      exact ⟨by simp, by simp, by simp⟩
    cases refusal with
    | some reason => exact (refuseExecution_only _).mono fun _ => haudit
    | none => exact routeOwned_only.mono fun _ => .of_audit
  · exact (refuse_only _).mono fun _ => haudit

theorem routeVerified_steps (h : machine.Follows (routeVerified crates router signed payload) es q)
    (hes : es ≠ []) :
    ∃ env w rest, es = ⟨env, w, .readClock⟩ :: rest ∧
      ∀ x ∈ rest, AfterReading signed.context env.clock x.cmd := by
  unfold routeVerified at h
  rw [readClock_bind] at h
  cases h with
  | refl => exact absurd rfl hes
  | @step env w _ _ rest _ h =>
    refine ⟨env, w, rest, rfl, ?_⟩
    have hclock : (machine.exec env w .readClock).1 = env.clock := rfl
    cases hpre : preflight crates router signed payload env.clock with
    | error refusal =>
      simp only [hclock, hpre] at h
      exact h.only ((refuse_only _).mono fun _ haudit => .of_audit (.inl haudit))
    | ok admitted =>
      simp only [hclock, hpre] at h
      obtain ⟨projection, hrouted⟩ := routed_eq (preflight_ok hpre).projection
      -- the projection is no part of the replay key
      intro x hx
      have hstep := h.only routeAdmitted_only x hx
      rw [hrouted] at hstep
      exact ⟨hstep.no_clock, hstep.prunes, hstep.reserves⟩

/-- A call that starts a handler read the clock, passed the preflight at that reading and then
every gate behind it. -/
theorem routeVerified_trace {e : Step}
    (h : machine.Follows (routeVerified crates router signed payload) es q) (he : e ∈ es)
    (hexec : e.cmd.isExecute) :
    ∃ env w rest admitted, es = ⟨env, w, .readClock⟩ :: rest ∧
      Passed crates router signed payload env.clock admitted ∧
      Reached crates router payload env.clock admitted rest e := by
  unfold routeVerified at h
  rw [readClock_bind] at h
  cases h with
  | refl => cases he
  | @step env w _ _ rest _ h =>
    have hclock : (machine.exec env w .readClock).1 = env.clock := rfl
    have he : e ∈ rest := by
      rcases List.mem_cons.mp he with rfl | he
      · cases hexec
      · exact he
    cases hpre : preflight crates router signed payload env.clock with
    | error refusal =>
      simp only [hclock, hpre] at h
      exact absurd (h.only (refuse_only _) e he) (not_audit_of_execute hexec)
    | ok admitted =>
      simp only [hclock, hpre] at h
      exact ⟨env, w, rest, admitted, rfl, preflight_ok hpre, routeAdmitted_trace h he hexec⟩

end

end RouterTraces
