import SecsMagik.OutcomeViews

/-! # The receipts behind the answers

A response names a receipt. The id of a receipt is made of its kind, the second, the opcode, the
context id and a part of the packet hash, and an insert that finds the id taken is only logged.
-/
namespace ReceiptAudit

open RustStd
open ExternalCrates (Crates)
open CallContext ReceiverManifest Receipts Ledger AtomicPrograms UniqueTable GatewayMachine
open GatewayRouter RouterTraces RouterRuns ReceiptRuns HandlerRuns OutcomeViews

/-! ## What backs a response -/

/-- The receipt carries what the response says and what the call was about. -/
structure Carries (r : Receipt) (response : DecisionResponse) (context : VerifiedCallContext) :
    Prop where
  decision : r.decision = response.decision
  reason : r.reason = response.reasonCode
  contextId : r.contextId = some context.contextId
  answered : response.contextId = some context.contextId
  packetHash : r.packetHash = context.packetHash

/-- The receipt that the response names has the id of the kind and was written by this run. -/
def Backed (kind : String) (context : VerifiedCallContext) (now : UInt64)
    (ran : Machine.Ran Cmd Tables Env Routed) : Prop :=
  ∀ id, ran.result.response.receiptId = some id → id = receiptId kind now context ∧
    ∃ r, Written ran.events r ∧ r.receiptId = id ∧ Carries r ran.result.response context

/-- The contexts agree in all that goes into a receipt's id and its reference to the call. -/
structure SameCall (context context' : VerifiedCallContext) : Prop where
  contextId : context.contextId = context'.contextId
  packetHash : context.packetHash = context'.packetHash
  opcode : context.opcode = context'.opcode

variable {context context' : VerifiedCallContext}

theorem SameCall.symm (h : SameCall context context') :
    SameCall context' context := ⟨h.contextId.symm, h.packetHash.symm, h.opcode.symm⟩

theorem SameCall.trans {context context' context'' : VerifiedCallContext}
    (h : SameCall context context') (h' : SameCall context' context'') :
    SameCall context context'' :=
  ⟨h.contextId.trans h'.contextId, h.packetHash.trans h'.packetHash, h.opcode.trans h'.opcode⟩

theorem SameCall.receiptId (h : SameCall context context') (kind : String) (now : UInt64) :
    receiptId kind now context = receiptId kind now context' := by
  unfold GatewayRouter.receiptId contextReceiptSuffix
  rw [h.contextId, h.packetHash, h.opcode]

theorem Backed.congr {kind : String} {now : UInt64} {ran : Machine.Ran Cmd Tables Env Routed}
    (h : Backed kind context now ran) (hsame : SameCall context context') :
    Backed kind context' now ran := by
  intro id hid
  obtain ⟨heq, r, hwritten, hr, hcarries⟩ := h id hid
  refine ⟨heq.trans (hsame.receiptId kind now), r, hwritten, hr, hcarries.decision,
    hcarries.reason, ?_, ?_, hcarries.packetHash.trans hsame.packetHash⟩
  · rw [hcarries.contextId, hsame.contextId]
  · rw [hcarries.answered, hsame.contextId]

theorem Backed.later {kind : String} {context : VerifiedCallContext} {now : UInt64}
    {ran next : Machine.Ran Cmd Tables Env Routed} (h : Backed kind context now next)
    (hresult : ran.result = next.result)
    (hwrites : ∀ r, Written next.events r → Written ran.events r) :
    Backed kind context now ran := by
  intro id hid
  rw [hresult] at hid ⊢
  obtain ⟨heq, r, hwritten, hr⟩ := h id hid
  exact ⟨heq, r, hwrites r hwritten, hr⟩

theorem Backed.prepend {kind : String} {context : VerifiedCallContext} {now : UInt64}
    {ran next : Machine.Ran Cmd Tables Env Routed} {es : List Step}
    (h : Backed kind context now next)
    (hran : ran = ⟨next.result, es ++ next.events, next.world⟩) : Backed kind context now ran := by
  rw [hran]
  exact h.later rfl fun r hr => written_append.mpr (.inr hr)

theorem sameCall_extendSummary (signed : SignedVerifiedCallContext) (fields : List String) :
    SameCall (extendSummary signed fields).context signed.context := ⟨rfl, rfl, rfl⟩

section

variable {crates : Crates} {router : ConfigurableRouter} {signed : SignedVerifiedCallContext}
  {payload : List UInt8} {admitted : Admitted} {env : Env} {w : Tables} {now : UInt64}

theorem sameCall_routed (h : Passed crates router signed payload now admitted) :
    SameCall admitted.routed.context signed.context := by
  obtain ⟨projection, hrouted⟩ := routed_eq h.projection
  rw [hrouted]
  exact sameCall_extendSummary _ _

theorem sameCall_receiptSigned (h : Passed crates router signed payload now admitted) :
    SameCall admitted.receiptSigned.context signed.context := by
  obtain ⟨projection, hrouted⟩ := routed_eq h.projection
  obtain ⟨binding, -, hbinding⟩ := h.proof
  rw [hbinding, hrouted]
  cases binding with
  | none => exact sameCall_extendSummary _ _
  | some binding => exact ⟨rfl, rfl, rfl⟩

variable {refusal : Refusal}

/-- The texts that the gates of the preflight refuse with. -/
inductive GateReason : String → Prop
  | verification (error : VerificationError) : GateReason error.reasonCode
  | registration (reason : NodeRegistration.NodeRegistrationReason) : GateReason reason.asStr
  | proof (reason : ProofKeys.ProofGateReason) : GateReason reason.reasonCode
  | descriptor : GateReason descriptorContextMismatchReason

/-- Each gate refuses the context that it was given, with a text of its own. -/
def Refuses (signed : SignedVerifiedCallContext) (refusal : Refusal) : Prop :=
  refusal.signed = signed ∧ GateReason refusal.reason

theorem checkSigner_refuses (h : checkSigner crates router signed now = .error refusal) :
    Refuses signed refusal := by
  unfold checkSigner at h
  split at h
  · cases h
  · cases h
    exact ⟨rfl, .verification _⟩

theorem checkDescriptor_refuses (h : checkDescriptor crates router signed = .error refusal) :
    Refuses signed refusal := by
  unfold checkDescriptor at h
  split_ifs at h
  · cases h
    exact ⟨rfl, .descriptor⟩
  · cases h
    exact ⟨rfl, .verification .prototypeOperationNotProductionAuthorized⟩
  · split at h
    · cases h
    · cases h
      exact ⟨rfl, .descriptor⟩

variable {d : OperationDescriptor}

theorem appendRegistrationProjection_refuses
    (h : appendRegistrationProjection crates signed payload d now = .error refusal) :
    Refuses signed refusal := by
  unfold appendRegistrationProjection at h
  split at h
  · split at h
    · cases h
    · cases h
      exact ⟨rfl, .registration _⟩
  · cases h

theorem checkAuthorityMode_refuses (h : checkAuthorityMode signed d = .error refusal) :
    Refuses signed refusal := by
  unfold checkAuthorityMode at h
  split at h
  · cases h
  · split at h
    · simp only at h
      split at h
      · cases h
      · cases h
        refine ⟨rfl, ?_⟩
        unfold AuthorityModePolicyDecision.reason
        split
        · exact .verification .authorityModeDowngrade
        · exact .verification _
    · cases h
      exact ⟨rfl, .verification _⟩

theorem checkProofMetadata_refuses (h : checkProofMetadata router signed now = .error refusal) :
    Refuses signed refusal := by
  unfold checkProofMetadata at h
  split at h
  · cases h
  · cases h
    exact ⟨rfl, .proof _⟩

theorem preflight_refuses (h : preflight crates router signed payload now = .error refusal) :
    SameCall refusal.signed.context signed.context ∧ GateReason refusal.reason := by
  have hsame : ∀ fields, Refuses (extendSummary signed fields) refusal →
      SameCall refusal.signed.context signed.context ∧ GateReason refusal.reason := by
    rintro fields ⟨hsigned, hreason⟩
    rw [hsigned]
    exact ⟨sameCall_extendSummary _ _, hreason⟩
  have hfirst : Refuses signed refusal →
      SameCall refusal.signed.context signed.context ∧ GateReason refusal.reason := by
    rintro ⟨hsigned, hreason⟩
    rw [hsigned]
    exact ⟨⟨rfl, rfl, rfl⟩, hreason⟩
  rcases bind_eq_error.mp h with h | ⟨_, -, h⟩
  · exact hfirst (checkSigner_refuses h)
  rcases bind_eq_error.mp h with h | ⟨d, -, h⟩
  · exact hfirst (checkDescriptor_refuses h)
  rcases bind_eq_error.mp h with h | ⟨routed, hrouted, h⟩
  · exact hfirst (appendRegistrationProjection_refuses h)
  obtain ⟨projection, rfl⟩ := routed_eq hrouted
  rcases bind_eq_error.mp h with h | ⟨_, -, h⟩
  · exact hsame _ (checkAuthorityMode_refuses h)
  rcases bind_eq_error.mp h with h | ⟨binding, -, h⟩
  · exact hsame _ (checkProofMetadata_refuses h)
  · cases h

variable {outcome : HandlerOutcome}

theorem outcomeDraft_content {draft : Receipt}
    (h : outcomeDraft crates d signed outcome now = .ok draft) :
    ∃ projection, draft = { Receipt.execution crates (receiptId "execute" now signed.context)
      signed.context outcome.decision outcome.reason now with outputProjection := projection } := by
  unfold outcomeDraft at h
  split at h
  · obtain ⟨projection, -, hdraft⟩ := bind_eq_ok.mp h
    exact ⟨projection, (Except.ok.inj hdraft).symm⟩
  · exact ⟨none, (Except.ok.inj h).symm⟩

/-! ## The stages of a call -/

section Stages

/-- The database takes every receipt whose id is free. -/
def Available (env : Env) : Prop :=
  ∀ r event, env.fails (.insertReceiptWithEvent r event) = false

variable (havailable : Available env)
include havailable

theorem exists_persists {draft : Receipt} (hversion : draft.schemaVersion = 3)
    (hplain : draft.outputProjection = none) (hfree : draft.receiptId ∉ w.receipts.keys) :
    ∃ r, Persists crates router env w draft r := by
  have hsigns : ∃ r, signReceipt crates router.identity draft = .ok r := by
    rw [exists_signReceipt hversion, hplain]
    rintro p ⟨⟩
  obtain ⟨r, hr⟩ := hsigns
  exact ⟨r, hr, havailable _ _, hfree⟩

/-- Both kinds of recorded refusal store a draft and answer with its id. -/
theorem backed_recorded (draft : Receipt) (reason : String) (hversion : draft.schemaVersion = 3)
    (hplain : draft.outputProjection = none)
    (hid : draft.receiptId = receiptId "reject" now signed.context)
    (hfree : receiptId "reject" now signed.context ∉ w.receipts.keys)
    (hcarries : Carries draft (.rejected reason (some signed.context.contextId)
      (some draft.receiptId)) signed.context) {p : Program Routed}
    (hp : p = do
      let id ← (do
        recordSignedReceipt crates router draft
        return draft.receiptId)
      recordOperationEvent .packetRejected signed now (some reason)
      return ⟨.rejected reason (some signed.context.contextId) (some id), false, none⟩) :
    Backed "reject" signed.context now (machine.run env w p) := by
  intro id hresult
  obtain ⟨r, hr⟩ : ∃ r, Persists crates router env w draft r :=
    exists_persists havailable hversion hplain (hid ▸ hfree)
  have hwritten : Written (machine.run env w p).events r := by
    rw [hp]
    refine (written_bind_left fun _ => ?_).mpr ((written_bind_left fun _ => ?_).mpr ?_)
    · exact (recordOperationEvent_noReceipt _ _).bind fun _ => trivial
    · trivial
    · exact written_recordSignedReceipt.mpr hr
  have hanswer : (machine.run env w p).result =
      ⟨.rejected reason (some signed.context.contextId) (some draft.receiptId), false, none⟩ := by
    rw [hp]
    simp only [Machine.run_bind, Prog.pure_eq_done, Machine.run_done]
  rw [hanswer] at hresult ⊢
  cases hresult
  refine ⟨hid, r, hwritten, ?_⟩
  obtain ⟨signature, rfl⟩ := signReceipt_content hr.signs
  exact ⟨rfl, hcarries.decision, hcarries.reason, hcarries.contextId, hcarries.answered,
    hcarries.packetHash⟩

theorem backed_refuse (hfree : receiptId "reject" now refusal.signed.context ∉ w.receipts.keys) :
    Backed "reject" refusal.signed.context now
      (machine.run env w (refuse crates router refusal now)) := by
  obtain ⟨signed, reason, record⟩ := refusal
  let draft := Receipt.rejectFromVerifiedContext (receiptId "reject" now signed.context)
    signed.context reason now
  cases record with
  | silent =>
    intro id hid
    cases hid
  | receipt =>
    exact backed_recorded havailable draft reason rfl rfl rfl hfree ⟨rfl, rfl, rfl, rfl, rfl⟩ rfl
  | receiptWithSummary summary =>
    exact backed_recorded havailable { draft with evidenceSummary := summary } reason rfl rfl rfl
      hfree ⟨rfl, rfl, rfl, rfl, rfl⟩ rfl

theorem backed_refuseExecution {reason : String}
    (hfree : receiptId "execute" now signed.context ∉ w.receipts.keys) :
    Backed "execute" signed.context now
      (machine.run env w (refuseExecution crates router signed reason now)) := by
  intro id hid
  have hresult : (machine.run env w (refuseExecution crates router signed reason now)).result =
      ⟨.rejected reason (some signed.context.contextId)
        (some (receiptId "execute" now signed.context)), false, none⟩ := by
    simp only [refuseExecution, recordExecutionReceipt, Machine.run_bind, Prog.pure_eq_done,
      Machine.run_done]
  rw [hresult] at hid ⊢
  cases hid
  obtain ⟨r, hr⟩ : ∃ r, Persists crates router env w (.execution crates
      (receiptId "execute" now signed.context) signed.context .rejected (some reason) now) r :=
    exists_persists havailable rfl rfl hfree
  have hwritten := written_refuseExecution.mpr hr
  obtain ⟨signature, rfl⟩ := signReceipt_content hr.signs
  exact ⟨rfl, _, hwritten, rfl, rfl, rfl, rfl, rfl, rfl⟩

theorem recordOutcomeReceipt_recorded {id : String}
    (hfree : receiptId "execute" now signed.context ∉ w.receipts.keys)
    (h : (machine.run env w (recordOutcomeReceipt crates router d signed outcome.decision
      outcome.reason outcome.output now)).result = some id) :
    id = receiptId "execute" now signed.context ∧
      ∃ r, Written (machine.run env w (recordOutcomeReceipt crates router d signed
          outcome.decision outcome.reason outcome.output now)).events r ∧ r.receiptId = id ∧
        r.decision = outcome.decision ∧ r.reason = outcome.reason ∧
        r.contextId = some signed.context.contextId ∧ r.packetHash = signed.context.packetHash := by
  obtain ⟨hid, r, hr⟩ : id = receiptId "execute" now signed.context ∧
      ∃ r, executeReceipt crates router d signed outcome now = .ok r := by
    cases hprofile : d.outputProfile with
    | none =>
      have hdraft : outcomeDraft crates d signed outcome now = .ok (.execution crates
          (receiptId "execute" now signed.context) signed.context outcome.decision
            outcome.reason now) := by
        simp only [outcomeDraft, hprofile]
      have hsigns : ∃ r, signReceipt crates router.identity (.execution crates
          (receiptId "execute" now signed.context) signed.context outcome.decision
            outcome.reason now) = .ok r := by
        rw [exists_signReceipt rfl]
        rintro p ⟨⟩
      obtain ⟨r, hr⟩ := hsigns
      simp only [recordOutcomeReceipt, hprofile, recordExecutionReceipt, Machine.run_bind,
        Prog.pure_eq_done, Machine.run_done] at h
      exact ⟨(Option.some.inj h).symm, r, executeReceipt_eq_ok.mpr ⟨_, hdraft, hr⟩⟩
    | some profile =>
      rw [recordOutcomeReceipt_strict hprofile] at h
      cases hr : executeReceipt crates router d signed outcome now with
      | error e =>
        rw [hr] at h
        cases h
      | ok r =>
        rw [hr] at h
        simp only [Machine.run_bind, Prog.pure_eq_done, Machine.run_done] at h
        obtain ⟨_, -, rfl⟩ := Option.map_eq_some_iff.mp h
        exact ⟨rfl, r, rfl⟩
  obtain ⟨draft, hdraft, hsign⟩ := executeReceipt_eq_ok.mp hr
  obtain ⟨hdraftId, -, -⟩ := outcomeDraft_ok hdraft
  have hpersists : Persists crates router env w draft r :=
    ⟨hsign, havailable _ _, hdraftId ▸ hfree⟩
  refine ⟨hid, r, written_recordOutcomeReceipt.mpr ⟨draft, hdraft, hpersists⟩, ?_⟩
  rw [hid, (receiptId_of_executeReceipt hr).1]
  obtain ⟨projection, rfl⟩ := outcomeDraft_content hdraft
  obtain ⟨signature, rfl⟩ := signReceipt_content hsign
  exact ⟨rfl, rfl, rfl, rfl, rfl⟩

/-- Whatever answer follows the execute receipt, it is backed if it tells the outcome. -/
theorem backed_closing (outcome : HandlerOutcome) {context : VerifiedCallContext}
    (event : Program Unit) (answer : String → Routed) {p : Program Routed}
    (hp : p = do
      match ← recordOutcomeReceipt crates router d signed outcome.decision outcome.reason
          outcome.output now with
      | none => return transportFailure context
      | some id => do
        event
        return answer id)
    (hanswer : ∀ id, (answer id).response =
      ⟨outcome.decision, outcome.reason, some context.contextId, some id⟩)
    (hsame : SameCall signed.context context)
    (hfree : receiptId "execute" now context ∉ w.receipts.keys) :
    Backed "execute" context now (machine.run env w p) := by
  rw [← hsame.receiptId] at hfree
  intro id hid
  rw [hp, Machine.run_bind] at hid ⊢
  cases hrecorded : (machine.run env w (recordOutcomeReceipt crates router d signed
      outcome.decision outcome.reason outcome.output now)).result with
  | none =>
    simp only [hrecorded] at hid
    cases hid
  | some recordedId =>
    obtain ⟨hrecordedId, r, hwritten, hr, hdecision, hreason, hcontext, hhash⟩ :=
      recordOutcomeReceipt_recorded havailable hfree hrecorded
    simp only [hrecorded, Machine.run_bind, Prog.pure_eq_done, Machine.run_done, hanswer]
      at hid ⊢
    cases hid
    refine ⟨hrecordedId.trans (hsame.receiptId _ _), r, written_append.mpr (.inl hwritten), hr,
      hdecision, hreason, ?_, rfl, hhash.trans hsame.packetHash⟩
    rw [hcontext, hsame.contextId]

theorem backed_postStartExecutionRejection {reason : String}
    (hfree : receiptId "execute" now signed.context ∉ w.receipts.keys) :
    Backed "execute" signed.context now
      (machine.run env w (postStartExecutionRejection crates router d signed reason now)) :=
  backed_closing havailable (.rejected reason) _ (fun id =>
    ⟨.rejected reason (some signed.context.contextId) (some id), true, none⟩) rfl (fun _ => rfl)
    ⟨rfl, rfl, rfl⟩ hfree

theorem backed_concludeExecution (hexplained : outcome.reason = none ↔ outcome.decision = .accepted)
    (hsame : SameCall admitted.receiptSigned.context admitted.routed.context)
    (hfree : receiptId "execute" now admitted.routed.context ∉ w.receipts.keys) :
    Backed "execute" admitted.routed.context now
      (machine.run env w (concludeExecution crates router admitted outcome now)) := by
  refine backed_closing havailable outcome _ (outcomeResponse admitted.routed.context
    admitted.descriptor · outcome) rfl (fun id => ?_) hsame hfree
  cases hdecision : outcome.decision with
  | accepted =>
    have hreason : outcome.reason = none := hexplained.mpr hdecision
    simp [outcomeResponse, hdecision, DecisionResponse.accepted, hreason]
  | rejected =>
    obtain ⟨reason, hreason⟩ : ∃ reason, outcome.reason = some reason := by
      refine Option.ne_none_iff_exists'.mp fun hnone => ?_
      cases (hexplained.mp hnone).symm.trans hdecision
    simp [outcomeResponse, hdecision, DecisionResponse.rejected, hreason]

end Stages

/-! ## A whole call -/

/-- Whatever handler is started answers with a reason exactly when it rejects. -/
def Explains (d : OperationDescriptor) (env : Env) (es : List Step) : Prop :=
  ∀ e ∈ es, ∀ handlerId context body limits, e.cmd = .execute handlerId context body limits →
    let outcome := normalizeHandlerOutcome d limits
      ((env.handler handlerId context body limits).getD (.rejected "handler_timeout"))
    outcome.reason = none ↔ outcome.decision = .accepted

theorem Explains.of_append {es fs : List Step} (h : Explains d env (es ++ fs)) :
    Explains d env fs :=
  fun e he => h e (List.mem_append_right _ he)

section Call

variable (havailable : Available env)
include havailable

theorem backed_startHandler {handlerId : String}
    (hsame : SameCall admitted.receiptSigned.context admitted.routed.context)
    (hexplains : Explains admitted.descriptor env (machine.run env w
      (startHandler crates router admitted handlerId payload now)).events)
    (hfree : receiptId "execute" now admitted.routed.context ∉ w.receipts.keys) :
    Backed "execute" admitted.routed.context now
      (machine.run env w (startHandler crates router admitted handlerId payload now)) := by
  let opened := machine.run env w (recordOperationEvent .handlerStarted admitted.routed now
    (some ("payload_size:" ++ decimal payload.length)))
  have hreceipts : opened.world.receipts = w.receipts :=
    run_receipts (recordOperationEvent_noReceipt _ _)
  rw [run_startHandler] at hexplains ⊢
  have hexplained := hexplains _ (List.mem_append_right _ List.mem_cons_self) _ _ _ _ rfl
  have hclosed : Backed "execute" admitted.routed.context now (machine.run env opened.world
      (concludeExecution crates router admitted (handlerVerdict router admitted payload env
        handlerId) now)) := by
    apply backed_concludeExecution havailable hexplained hsame
    rwa [hreceipts]
  exact hclosed.later rfl fun r hr => written_append.mpr (.inr (written_cons.mpr (.inr hr)))

theorem backed_routeOwned
    (hsame : SameCall admitted.receiptSigned.context admitted.routed.context)
    (hexplains : Explains admitted.descriptor env (machine.run env w
      (routeOwned crates router admitted payload now)).events)
    (hfree : receiptId "execute" now admitted.routed.context ∉ w.receipts.keys) :
    Backed "execute" admitted.routed.context now
      (machine.run env w (routeOwned crates router admitted payload now)) := by
  have hfree' : receiptId "execute" now admitted.routed.context ∉
      (machine.run env w (announce crates router admitted payload now)).world.receipts.keys :=
    mt (prelude_announce.keys _).mp hfree
  unfold routeOwned at hexplains ⊢
  rw [Machine.run_bind] at hexplains ⊢
  refine Backed.prepend ?_ rfl
  replace hexplains := hexplains.of_append
  cases hpermission : permissionDenial router admitted.routed.context now with
  | some deny => exact backed_refuseExecution havailable hfree'
  | none =>
    rw [hpermission] at hexplains
    by_cases hready : payload.length ≤ router.limits.maxPayloadBytes ∧
        ∃ handlerId, admitted.routed.context.handlerId = some handlerId ∧
          router.programs handlerId
    · obtain ⟨hfits, handlerId, hid, hprogram⟩ := hready
      simp only [dispatch_eq_startHandler hfits hid hprogram] at hexplains ⊢
      exact backed_startHandler havailable hsame hexplains hfree'
    · obtain ⟨reason, -, hdispatch⟩ : ∃ reason ∈ ["payload_too_large", "handler_unavailable"],
          dispatch crates router admitted payload now = _ := dispatch_eq_reject hready
      simp only [hdispatch]
      refine (backed_postStartExecutionRejection havailable ?_).congr hsame
      rwa [hsame.receiptId]

theorem backed_routeReserved
    (hsame : SameCall admitted.receiptSigned.context admitted.routed.context)
    (hexplains : Explains admitted.descriptor env (machine.run env w
      (routeReserved crates router admitted payload now)).events)
    (hfree : receiptId "execute" now admitted.routed.context ∉ w.receipts.keys) :
    Backed "execute" admitted.routed.context now
      (machine.run env w (routeReserved crates router admitted payload now)) := by
  have hreceipts : (machine.run env w (enforceScopedUse crates admitted.routed.context
      now)).world.receipts = w.receipts := run_receipts (enforceScopedUse_noReceipt _)
  rw [← hreceipts] at hfree
  cases huse : (machine.run env w
      (enforceScopedUse crates admitted.routed.context now)).result with
  | some reason =>
    exact (backed_refuseExecution havailable hfree).prepend (run_routeReserved_refused huse)
  | none =>
    rw [run_routeReserved_passed huse] at hexplains
    exact (backed_routeOwned havailable hsame hexplains.of_append hfree).prepend
      (run_routeReserved_passed huse)

end Call

/-- The call passes the preflight and reserves its key. -/
def Admits (crates : Crates) (router : ConfigurableRouter) (signed : SignedVerifiedCallContext)
    (payload : List UInt8) (env : Env) (w : Tables) : Prop :=
  ∃ admitted, preflight crates router signed payload env.clock = .ok admitted ∧
    ReservationGranted env w admitted.routed.context admitted.routed.signerKeyId env.clock

/-- The receipt id that the call will answer with is free before the call, and the handler, if one
is started, answers with a reason exactly when it rejects. -/
structure Auditable (crates : Crates) (router : ConfigurableRouter)
    (signed : SignedVerifiedCallContext) (payload : List UInt8) (env : Env) (w : Tables) :
    Prop where
  refused : ¬ Admits crates router signed payload env w →
    receiptId "reject" env.clock signed.context ∉ w.receipts.keys
  executed : Admits crates router signed payload env w →
    receiptId "execute" env.clock signed.context ∉ w.receipts.keys
  explained : ∀ d, router.manifest.lookup signed.context.opcode = .ok d → Explains d env
    (machine.run env w (routeVerified crates router signed payload)).events

/-- An answer that names a receipt names one that the call itself wrote. -/
theorem backed_routeVerified (havailable : Available env)
    (h : Auditable crates router signed payload env w) :
    ∃ kind, receiptId kind env.clock signed.context ∉ w.receipts.keys ∧
      Backed kind signed.context env.clock
        (machine.run env w (routeVerified crates router signed payload)) := by
  cases hpre : preflight crates router signed payload env.clock with
  | error refusal =>
    have hrefused : ¬ Admits crates router signed payload env w := by
      rintro ⟨admitted, hok, -⟩
      cases hpre.symm.trans hok
    obtain ⟨hsame, -⟩ := preflight_refuses hpre
    have hfree := h.refused hrefused
    refine ⟨"reject", hfree, ?_⟩
    rw [← hsame.receiptId] at hfree
    have hbacked : Backed "reject" signed.context env.clock
        (machine.run env w (refuse crates router refusal env.clock)) :=
      (backed_refuse havailable hfree).congr hsame
    rw [run_routeVerified_refused hpre]
    exact hbacked.later rfl fun r hr => written_cons.mpr (.inr hr)
  | ok admitted =>
    have hpassed := preflight_ok hpre
    have hrouted := sameCall_routed hpassed
    have hexplains := h.explained _ hpassed.descriptor
    have hreceipts : (machine.run env w (reserveReplay admitted.routed.context
        admitted.routed.signerKeyId env.clock)).world.receipts = w.receipts :=
      run_receipts (reserveReplay_noReceipt _ _)
    rw [run_routeVerified_admitted hpre] at hexplains ⊢
    by_cases hgranted : ReservationGranted env w admitted.routed.context
        admitted.routed.signerKeyId env.clock
    · have hfree := h.executed ⟨admitted, hpre, hgranted⟩
      refine ⟨"execute", hfree, ?_⟩
      rw [← hrouted.receiptId, ← hreceipts] at hfree
      have hsame : SameCall admitted.receiptSigned.context admitted.routed.context :=
        (sameCall_receiptSigned hpassed).trans hrouted.symm
      have hrun : machine.run env w (routeAdmitted crates router admitted payload env.clock) =
          _ := run_routeAdmitted_reserved hgranted
      rw [hrun] at hexplains
      have hreserved : Explains admitted.descriptor env _ :=
        Explains.of_append (fun e he => hexplains e (List.mem_cons_of_mem _ he))
      have hbacked := (backed_routeReserved havailable hsame hreserved hfree).congr hrouted
      exact (hbacked.prepend hrun).later rfl fun r hr => written_cons.mpr (.inr hr)
    · have hfree := h.refused (by
        rintro ⟨admitted', hok, hgranted'⟩
        cases hpre.symm.trans hok
        exact hgranted hgranted')
      refine ⟨"reject", hfree, ?_⟩
      rw [← hrouted.receiptId, ← hreceipts] at hfree
      obtain ⟨reason, hrun⟩ : ∃ reason, machine.run env w
          (routeAdmitted crates router admitted payload env.clock) = _ :=
        run_routeAdmitted_refused hgranted
      have hbacked : Backed "reject" admitted.routed.context env.clock
          (machine.run env (machine.run env w (reserveReplay admitted.routed.context
            admitted.routed.signerKeyId env.clock)).world
            (refuse crates router ⟨admitted.routed, reason, .receipt⟩ env.clock)) :=
        backed_refuse havailable hfree
      exact ((hbacked.congr hrouted).prepend hrun).later rfl
        fun r hr => written_cons.mpr (.inr hr)

end

/-! ## Receipts stay -/

theorem receipt_kept {e : Step} {r : Receipt} (hr : r ∈ e.before.receipts.rows) :
    r ∈ (machine.after e).receipts.rows := by
  rcases after_eq e with heq | ⟨statement, -, heq⟩
  · rwa [heq]
  · rw [heq]
    cases statement with
    | insertReceiptWithEvent r' event =>
      simp only [Tables.apply, Tables.insertReceiptWithEvent]
      split
      · exact hr
      · exact Table.mem_insertOrIgnore_of_mem hr
    | applySchema | deleteExpiredReplay | deleteExpiredDevgraph | insertReplay | insertScopedUse
    | insertEvent | insertTelemetry => exact hr

theorem run_receipt_kept {α : Type} {p : Program α} {env : Env} {w : Tables} {r : Receipt}
    (hr : r ∈ w.receipts.rows) : r ∈ (machine.run env w p).world.receipts.rows :=
  (Machine.run_chained env w p).invariant (P := fun w => r ∈ w.receipts.rows)
    (fun _ _ => receipt_kept) hr

theorem mem_of_written {α : Type} {p : Program α} {env : Env} {w : Tables} {r : Receipt}
    (h : Written (machine.run env w p).events r) :
    r ∈ (machine.run env w p).world.receipts.rows := by
  obtain ⟨e, he, hwrites⟩ := h
  obtain ⟨before, after, hes⟩ := List.append_of_mem he
  have hchain : machine.Chained w _ _ := Machine.run_chained env w p
  rw [hes] at hchain
  obtain ⟨w', -, hrest⟩ := hchain.split
  cases hrest with
  | cons hrest =>
    exact hrest.invariant (P := fun w => r ∈ w.receipts.rows) (fun _ _ => receipt_kept)
      hwrites.stored

/-! ## Sequences of calls -/

structure RoutedCall where
  signed : SignedVerifiedCallContext
  payload : List UInt8

def RoutedCall.program (crates : Crates) (router : ConfigurableRouter) (call : RoutedCall) :
    Program Routed :=
  routeVerified crates router call.signed call.payload

abbrev ServedCall := Machine.Served RoutedCall Cmd Tables Env Routed

/-- The receipt that the answer to the call names is in the table and carries the call. -/
def OnRecord (s : ServedCall) (w : Tables) : Prop :=
  ∀ id, s.ran.result.response.receiptId = some id →
    ∃ r ∈ w.receipts.rows, r.receiptId = id ∧ Carries r s.ran.result.response s.call.signed.context

section

variable {crates : Crates} {router : ConfigurableRouter} {w : Tables}
  {calls : List (RoutedCall × Env)}

/-- In a run of calls whose receipt ids are free and whose handlers explain themselves, every
answer that names a receipt names one row of its own, which carries the call. -/
theorem answers_backed_by_own_receipts (havailable : ∀ call ∈ calls, Available call.2)
    (hauditable : ∀ s ∈ machine.serve (RoutedCall.program crates router) w calls,
      Auditable crates router s.call.signed s.call.payload s.env s.before) :
    let served := machine.serve (RoutedCall.program crates router) w calls
    let ledger := (machine.worldAfter (RoutedCall.program crates router) w calls).receipts
    (∀ s ∈ served, ∀ id, s.ran.result.response.receiptId = some id →
      ∃ r, ledger.rows.filter (fun row => row.receiptId = id) = [r] ∧
        Carries r s.ran.result.response s.call.signed.context) ∧
    served.Pairwise fun s t => ∀ id, s.ran.result.response.receiptId = some id →
      t.ran.result.response.receiptId ≠ some id := by
  intro served ledger
  have hbacked : ∀ s ∈ served, ∃ kind,
      receiptId kind s.env.clock s.call.signed.context ∉ s.before.receipts.keys ∧
        Backed kind s.call.signed.context s.env.clock s.ran := by
    intro s hs
    rw [Machine.ran_of_served hs]
    exact backed_routeVerified (havailable _ (Machine.env_of_served hs)) (hauditable s hs)
  have hholds : ∀ s ∈ served, OnRecord s s.ran.world := by
    intro s hs id hid
    obtain ⟨kind, -, hkind⟩ := hbacked s hs
    obtain ⟨-, r, hwritten, hr, hcarries⟩ := hkind id hid
    rw [Machine.ran_of_served hs] at hwritten
    refine ⟨r, ?_, hr, hcarries⟩
    rw [Machine.ran_of_served hs]
    exact mem_of_written hwritten
  have hkeep : ∀ (s : ServedCall) env w c, OnRecord s w →
      OnRecord s (machine.run env w (RoutedCall.program crates router c)).world := by
    intro s env w c h id hid
    obtain ⟨r, hr, hcarries⟩ := h id hid
    exact ⟨r, run_receipt_kept hr, hcarries⟩
  obtain ⟨hend, hpairs⟩ := Machine.serve_lasting hkeep w calls hholds
  constructor
  · intro s hs id hid
    obtain ⟨r, hr, rfl, hcarries⟩ := hend s hs id hid
    exact ⟨r, ledger.filter_key hr, hcarries⟩
  · refine hpairs.imp_of_mem fun {s t} _ ht hfound id hid hid' => ?_
    obtain ⟨kind, hfree, hkind⟩ := hbacked t ht
    obtain ⟨heq, -⟩ := hkind id hid'
    obtain ⟨r, hr, hrid, -⟩ := hfound id hid
    exact hfree ⟨r, hr, hrid.trans heq⟩

end

/-! ## Two refusals in one second -/

namespace Sample

open RouterRuns.Sample (appendReceiver env signed)

def expiredCall : RoutedCall := ⟨signed .transparent 0 [] 120, [1]⟩

def validCall : RoutedCall := ⟨signed .transparent 0 [] 200, [1]⟩

/-- The same refusal twice in one second: both answers name one receipt, and the table has a single
row for them. -/
theorem repeated_refusal_shares_receipt :
    let calls := [(expiredCall, env 150), (expiredCall, env 150)]
    let program := RoutedCall.program .transparent appendReceiver
    (∀ call ∈ calls, Available call.2) ∧
    ∃ id, (machine.serve program Tables.empty calls).map
        (fun s => s.ran.result.response.receiptId) = [some id, some id] ∧
      (machine.worldAfter program Tables.empty calls).receipts.rows.length = 1 := by
  intro calls program
  refine ⟨fun call hcall r event => ?_, receiptId "reject" 150 expiredCall.signed.context, ?_, ?_⟩
  · simp only [calls, List.mem_cons, List.not_mem_nil, or_false, or_self] at hcall
    rw [hcall]
    rfl
  · decide
  · decide

theorem auditable_of_free {call : RoutedCall} {now : UInt64} {w : Tables}
    (hopcode : call.signed.context.opcode = 0x50)
    (hfree : ∀ kind ∈ ["reject", "execute"], ∀ row ∈ w.receipts.rows,
      row.receiptId ≠ receiptId kind now call.signed.context) :
    Auditable .transparent appendReceiver call.signed call.payload (env now) w := by
  refine ⟨fun _ => ?_, fun _ => ?_, fun d hd => ?_⟩
  · rintro ⟨row, hrow, hid⟩
    exact hfree "reject" List.mem_cons_self row hrow hid
  · rintro ⟨row, hrow, hid⟩
    exact hfree "execute" (List.mem_cons_of_mem _ List.mem_cons_self) row hrow hid
  · rw [hopcode] at hd
    cases hd
    -- the handler of this environment succeeds without output, whatever it is asked
    intro e _ handlerId context body limits _
    exact iff_of_true rfl rfl

/-- A refusal and an execution in the next second have a receipt each. -/
theorem later_call_has_its_own_receipt :
    let calls := [(expiredCall, env 150), (validCall, env 151)]
    let program := RoutedCall.program .transparent appendReceiver
    (machine.serve program Tables.empty calls).Pairwise fun s t =>
      ∀ id, s.ran.result.response.receiptId = some id →
        t.ran.result.response.receiptId ≠ some id := by
  intro calls program
  have havailable : ∀ call ∈ calls, Available call.2 := by
    intro call hcall r event
    simp only [calls, List.mem_cons, List.not_mem_nil, or_false] at hcall
    rcases hcall with rfl | rfl <;> rfl
  refine (answers_backed_by_own_receipts havailable fun s hs => ?_).2
  · rcases List.mem_cons.mp hs with rfl | hs
    · exact auditable_of_free rfl fun _ _ _ hrow => nomatch hrow
    · obtain rfl := List.mem_singleton.mp hs
      refine auditable_of_free rfl ?_
      decide

end Sample

end ReceiptAudit
