import SecsMagik.HandlerRuns

/-! # What a call comes to

The gates of a call that runs alone, all of them and nothing else, decide whether its handler is
started; the handler's verdict and the execute receipt then decide the answer.
-/
namespace RouterExactness

open RustStd
open ExternalCrates (Crates)
open CallContext ReceiverManifest ScopedNullifier Ledger AtomicPrograms UniqueTable GatewayMachine
open GatewayRouter RouterTraces RouterRuns ReceiptRuns HandlerRuns
open Receipts (Receipt)

/-- Every gate of the router lets the call pass. -/
structure Open (crates : Crates) (router : ConfigurableRouter) (signed : SignedVerifiedCallContext)
    (payload : List UInt8) (env : Env) (w : Tables) (admitted : Admitted) : Prop where
  preflight : preflight crates router signed payload env.clock = .ok admitted
  reserved : ReservationGranted env w admitted.routed.context admitted.routed.signerKeyId env.clock
  used : scopedUseRequired admitted.routed.context →
    ∃ evidence, UseGranted crates env w admitted.routed.context env.clock evidence
  dispatchable : Dispatchable router admitted.routed.context payload env.clock

section

variable {crates : Crates} {router : ConfigurableRouter} {signed : SignedVerifiedCallContext}
  {payload : List UInt8} {admitted : Admitted} {env : Env} {w : Tables}

/-- The use gate lets a call pass only if it records its use. -/
theorem useGranted_of_passed {context : VerifiedCallContext} {now : UInt64}
    (hrequired : scopedUseRequired context)
    (h : (machine.run env w (enforceScopedUse crates context now)).result = none) :
    ∃ evidence, UseGranted crates env w context now evidence := by
  cases husable : ScopedNullifierEvidence.fromContext crates context with
  | error reason =>
    rw [run_enforceScopedUse_unusable hrequired husable] at h
    cases h
  | ok evidence =>
    rw [run_enforceScopedUse_usable hrequired husable rfl] at h
    dsimp only at h
    refine ⟨evidence, husable, ?_, fun hused => ?_⟩
    · by_contra hfails
      rw [exec_insertScopedUse_fails (by simpa using hfails)] at h
      cases h
    · by_cases hfails : env.fails (.insertScopedUse
        (scopedNullifierUse crates evidence context now))
      · rw [exec_insertScopedUse_fails hfails] at h
        cases h
      · rw [exec_insertScopedUse_used (by simpa using hfails) hused] at h
        cases h

theorem refuse_returns (refusal : Refusal) (now : UInt64) :
    (refuse crates router refusal now).Returns (·.response.decision = .rejected) := by
  obtain ⟨signed, reason, record⟩ := refusal
  cases record with
  | silent => rfl
  | receipt | receiptWithSummary summary => exact .bind fun _ => .bind fun _ => rfl

/-- The run ends in a rejection without a handler. -/
def Refused (ran : Machine.Ran Cmd Tables Env Routed) : Prop :=
  ran.result.response.decision = .rejected ∧ ∀ e ∈ ran.events, ¬ e.cmd.isExecute

theorem refused_of_audit {p : Program Routed} (hp : p.Only (·.isAudit))
    (hreturns : p.Returns (·.response.decision = .rejected)) : Refused (machine.run env w p) :=
  ⟨Machine.run_returns hreturns env w, fun e he =>
    not_execute_of_audit ((Machine.run_follows env w p).only hp e he)⟩

theorem Refused.prepend {ran next : Machine.Ran Cmd Tables Env Routed} {es : List Step}
    (h : Refused next) (hes : ∀ e ∈ es, ¬ e.cmd.isExecute)
    (hran : ran = ⟨next.result, es ++ next.events, next.world⟩) :
    Refused ran := by
  rw [hran]
  exact ⟨h.1, fun e he => (List.mem_append.mp he).elim (hes e) (h.2 e)⟩

/-- A gate that stays shut refuses the call before its handler. -/
theorem refused_of_not_open (h : ∀ admitted, ¬ Open crates router signed payload env w admitted) :
    Refused (machine.run env w (routeVerified crates router signed payload)) := by
  have hclock : ∀ e ∈ [(⟨env, w, .readClock⟩ : Step)], ¬ e.cmd.isExecute := by
    simp [Cmd.isExecute]
  cases hpre : preflight crates router signed payload env.clock with
  | error refusal =>
    exact (refused_of_audit (refuse_only refusal) (refuse_returns refusal _)).prepend hclock
      (run_routeVerified_refused hpre)
  | ok admitted =>
    refine Refused.prepend ?_ hclock (run_routeVerified_admitted hpre)
    have hreserve : ∀ e ∈ (machine.run env w (reserveReplay admitted.routed.context
        admitted.routed.signerKeyId env.clock)).events, ¬ e.cmd.isExecute := by
      intro e he hexec
      refine execute_notMem hexec (reserveReplay_only _ _ _) ?_ he
      rintro c (⟨-, rfl⟩ | rfl) <;> simp [Cmd.isExecute]
    by_cases hreserved : ReservationGranted env w admitted.routed.context
        admitted.routed.signerKeyId env.clock
    · refine Refused.prepend ?_ hreserve (run_routeAdmitted_reserved hreserved)
      have huses : (machine.run env w (reserveReplay admitted.routed.context
          admitted.routed.signerKeyId env.clock)).world.scopedNullifierUses =
            w.scopedNullifierUses := run_reserveReplay_uses
      generalize (machine.run env w (reserveReplay admitted.routed.context
        admitted.routed.signerKeyId env.clock)).world = w' at huses
      have huse : ∀ e ∈ (machine.run env w' (enforceScopedUse crates admitted.routed.context
          env.clock)).events, ¬ e.cmd.isExecute := by
        intro e he hexec
        refine execute_notMem hexec (enforceScopedUse_only _) ?_ he
        rintro c ⟨row, rfl⟩
        simp [Cmd.isExecute]
      cases hresult : (machine.run env w'
          (enforceScopedUse crates admitted.routed.context env.clock)).result with
      | some reason =>
        exact (refused_of_audit (refuseExecution_only reason)
          (refuseExecution_returns reason)).prepend huse (run_routeReserved_refused hresult)
      | none =>
        refine Refused.prepend ?_ huse (run_routeReserved_passed hresult)
        refine run_routeOwned_refused fun hdispatchable =>
          h admitted ⟨hpre, hreserved, ?_, hdispatchable⟩
        intro hrequired
        obtain ⟨evidence, hgranted⟩ := useGranted_of_passed hrequired hresult
        exact ⟨evidence, hgranted.congr huses.symm⟩
    · obtain ⟨reason, hrun⟩ := run_routeAdmitted_refused hreserved
      exact (refused_of_audit (refuse_only _) (refuse_returns _ _)).prepend hreserve hrun

/-- An operation with an output profile is answered positively only on a stored receipt. -/
def Receipted (crates : Crates) (router : ConfigurableRouter) (env : Env) (w : Tables)
    (admitted : Admitted) (outcome : HandlerOutcome) : Prop :=
  admitted.descriptor.outputProfile.isSome → ∃ r, executeReceipt crates router admitted.descriptor
    admitted.receiptSigned outcome env.clock = .ok r ∧ Stores env w r

theorem concludeExecution_accepted_iff {outcome : HandlerOutcome} :
    (machine.run env w (concludeExecution crates router admitted outcome
        env.clock)).result.response.decision = .accepted ↔
      outcome.decision = .accepted ∧ Receipted crates router env w admitted outcome := by
  have hresponse : ∀ id, (outcomeResponse admitted.routed.context admitted.descriptor id
      outcome).response.decision = outcome.decision := by
    intro id
    unfold outcomeResponse
    cases outcome.decision <;> rfl
  cases hprofile : admitted.descriptor.outputProfile with
  | none =>
    simp only [Receipted, hprofile, Option.isSome_none, Bool.false_eq_true, false_implies, and_true]
    unfold concludeExecution recordOutcomeReceipt
    rw [hprofile]
    simp only [Machine.run_bind]
    exact Eq.congr (hresponse _) rfl
  | some profile =>
    by_cases hreceipt : Receipted crates router env w admitted outcome
    · obtain ⟨r, hr, hstores⟩ := hreceipt (by simp [hprofile])
      rw [run_concludeExecution_stored hprofile hr hstores, hresponse, and_iff_left hreceipt]
    · refine iff_of_false ?_ fun haccepted => hreceipt haccepted.2
      unfold concludeExecution
      rw [recordOutcomeReceipt_strict hprofile]
      cases hr : executeReceipt crates router admitted.descriptor admitted.receiptSigned outcome
          env.clock with
      | error error => exact Decision.noConfusion
      | ok r =>
        have hnone : (machine.exec env w
            (.sql (.insertReceiptWithEvent r (emittedEvent r)))).1 = none := by
          by_cases hfails : env.fails (.insertReceiptWithEvent r (emittedEvent r))
          · simp [machine, hfails]
          · have htaken : r.receiptId ∈ w.receipts.keys := by
              by_contra hfree
              exact hreceipt fun _ => ⟨r, hr, by simpa using hfails, hfree⟩
            simp [machine, hfails, Tables.apply, Tables.insertReceiptWithEvent,
              Table.insertOrIgnore_of_mem htaken]
        simp only [recordReceiptWithEmittedEvent, Machine.run_bind, sql_bind, Prog.step_bind,
          Machine.run_step_result, hnone]
        exact Decision.noConfusion

theorem open_accepted_iff (h : Open crates router signed payload env w admitted)
    {handlerId : String} (hid : admitted.routed.context.handlerId = some handlerId) :
    (machine.run env w (routeVerified crates router signed payload)).result.response.decision =
        .accepted ↔
      (handlerVerdict router admitted payload env handlerId).decision = .accepted ∧
        Receipted crates router env w admitted
          (handlerVerdict router admitted payload env handlerId) := by
  obtain ⟨e, he, hcmd⟩ := run_routeVerified_executes h.preflight h.reserved h.used
    h.dispatchable hid
  have hexec : e.cmd.isExecute := by rw [hcmd]; rfl
  obtain ⟨admitted', handlerId', before, w', hpassed, hhandler⟩ := handlerRun_routeVerified hexec he
  obtain rfl : admitted' = admitted :=
    Except.ok.inj ((preflight_of_passed hpassed).symm.trans h.preflight)
  have hstarted := hhandler.started he hexec
  rw [hcmd] at hstarted
  injection hstarted with hsame
  subst hsame
  obtain ⟨es, w₁, hprelude, hrun⟩ := hhandler.concludes
  rw [hrun, concludeExecution_accepted_iff]
  -- what the call did before its handler leaves its execute receipt alone
  refine and_congr_right fun _ => forall_congr' fun _ => exists_congr fun r => ?_
  exact and_congr_right fun hr => HandlerRun.stores_iff hprelude hr

end

/-- A call that runs alone starts its handler exactly if every gate is open. -/
theorem handler_starts_iff (crates : Crates) (router : ConfigurableRouter)
    (signed : SignedVerifiedCallContext) (payload : List UInt8) (env : Env) (w : Tables) :
    (∃ e ∈ (machine.run env w (routeVerified crates router signed payload)).events,
      e.cmd.isExecute) ↔ ∃ admitted, Open crates router signed payload env w admitted := by
  constructor
  · rintro ⟨e, he, hexec⟩
    by_contra hshut
    exact (refused_of_not_open (not_exists.mp hshut)).2 e he hexec
  · rintro ⟨admitted, hopen⟩
    obtain ⟨e, he, hstart⟩ := run_routeVerified_starts hopen.preflight hopen.reserved hopen.used
      hopen.dispatchable
    exact ⟨e, he, isExecute_of_startedFor hstart⟩

/-- It is accepted exactly if every gate is open, the handler's outcome stands after the checks on
it, and its receipt is stored where the operation has an output profile. -/
theorem call_accepted_iff (crates : Crates) (router : ConfigurableRouter)
    (signed : SignedVerifiedCallContext) (payload : List UInt8) (env : Env) (w : Tables) :
    (machine.run env w (routeVerified crates router signed payload)).result.response.decision =
        .accepted ↔
      ∃ admitted handlerId, Open crates router signed payload env w admitted ∧
        admitted.routed.context.handlerId = some handlerId ∧
        (handlerVerdict router admitted payload env handlerId).decision = .accepted ∧
        Receipted crates router env w admitted
          (handlerVerdict router admitted payload env handlerId) := by
  constructor
  · intro haccepted
    obtain ⟨admitted, hopen⟩ : ∃ admitted, Open crates router signed payload env w admitted := by
      by_contra hshut
      have hrejected := (refused_of_not_open (not_exists.mp hshut)).1
      rw [haccepted] at hrejected
      cases hrejected
    obtain ⟨handlerId, hid, -⟩ := hopen.dispatchable.registered
    exact ⟨admitted, handlerId, hopen, hid, (open_accepted_iff hopen hid).mp haccepted⟩
  · rintro ⟨admitted, handlerId, hopen, hid, hverdict⟩
    exact (open_accepted_iff hopen hid).mpr hverdict

end RouterExactness
