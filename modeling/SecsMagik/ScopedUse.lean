import SecsMagik.LedgerCalls

/-! # Scoped uses are one-use

The table of scoped uses is a register from which every key is taken at most once, so no two calls
start a handler on the same scoped use. Taking the key comes before the last gates, and nothing
gives it back when one of those refuses the call.
-/
namespace ScopedUse

open RustStd
open ExternalCrates (Crates)
open CallContext ReceiverManifest ScopedNullifier Ledger AtomicPrograms UniqueTable GatewayMachine
open GatewayRouter RouterTraces RouterRuns LedgerCalls

/-! ## What one call does to the uses -/

section

variable {crates : Crates} {router : ConfigurableRouter} {signed : SignedVerifiedCallContext}
  {payload : List UInt8} {env : Env} {w : Tables} {admitted : Admitted}
  {evidence : ScopedNullifierEvidence}

/-- The call gets as far as recording a use of its own. -/
structure Spends (crates : Crates) (router : ConfigurableRouter)
    (signed : SignedVerifiedCallContext) (payload : List UInt8) (env : Env) (w : Tables)
    (admitted : Admitted) (evidence : ScopedNullifierEvidence) : Prop where
  passed : Passed crates router signed payload env.clock admitted
  reserved : ReservationGranted env w admitted.routed.context admitted.routed.signerKeyId env.clock
  required : scopedUseRequired admitted.routed.context
  granted : UseGranted crates env w admitted.routed.context env.clock evidence

/-- Such a call goes on to the last gates with its row in the table. -/
theorem run_of_spends (h : Spends crates router signed payload env w admitted evidence) :
    ∃ before w', machine.run env w (routeVerified crates router signed payload) =
        (let next := machine.run env w' (routeOwned crates router admitted payload env.clock)
        ⟨next.result, before ++ next.events, next.world⟩) ∧
      (∀ e ∈ before, ¬ e.cmd.isExecute) ∧
      w'.scopedNullifierUses.rows = w.scopedNullifierUses.rows ++
        [scopedNullifierUse crates evidence admitted.routed.context env.clock] := by
  have hgranted : UseGranted crates env (machine.run env w (reserveReplay admitted.routed.context
      admitted.routed.signerKeyId env.clock)).world admitted.routed.context env.clock evidence :=
    h.granted.congr run_reserveReplay_uses
  obtain ⟨hpassed, hrows⟩ := run_enforceScopedUse_granted h.required hgranted
  rw [run_routeVerified_admitted (preflight_of_passed h.passed),
    run_routeAdmitted_reserved h.reserved]
  simp only [run_routeReserved_passed hpassed]
  refine ⟨_ :: (_ ++ _), _, by simp only [List.cons_append, List.append_assoc]; rfl, ?_, ?_⟩
  · intro e he
    rcases List.mem_cons.mp he with rfl | he
    · simp [Cmd.isExecute]
    · rcases List.mem_append.mp he with he | he
      · have hcmd := (Machine.run_follows env w _).only (reserveReplay_only _ _ _) e he
        rcases hcmd with ⟨-, hcmd⟩ | hcmd <;> simp [hcmd, Cmd.isExecute]
      · obtain ⟨row, hcmd⟩ := (Machine.run_follows _ _ _).only (enforceScopedUse_only _) e he
        simp [hcmd, Cmd.isExecute]
  · rw [hrows, run_reserveReplay_uses]

theorem run_uses_of_spends (h : Spends crates router signed payload env w admitted evidence) :
    (machine.run env w
      (routeVerified crates router signed payload)).world.scopedNullifierUses.rows =
      w.scopedNullifierUses.rows ++
        [scopedNullifierUse crates evidence admitted.routed.context env.clock] := by
  obtain ⟨before, w', hrun, -, hrows⟩ := run_of_spends h
  rw [hrun]
  simp only [run_uses_of_audit routeOwned_only, hrows]

theorem run_enforceScopedUse_kept {context : VerifiedCallContext} {now : UInt64}
    (h : ∀ evidence, scopedUseRequired context → ¬ UseGranted crates env w context now evidence) :
    (machine.run env w (enforceScopedUse crates context now)).world = w := by
  by_cases hrequired : scopedUseRequired context
  · cases hevidence : ScopedNullifierEvidence.fromContext crates context with
    | error reason => rw [run_enforceScopedUse_unusable hrequired hevidence]
    | ok evidence =>
      rw [run_enforceScopedUse_usable hrequired hevidence rfl]
      by_cases hfails : env.fails
          (.insertScopedUse (scopedNullifierUse crates evidence context now))
      · rw [exec_insertScopedUse_fails hfails]
      · have hstored : env.fails
            (.insertScopedUse (scopedNullifierUse crates evidence context now)) = false := by
          simpa using hfails
        have hused : (scopedNullifierUse crates evidence context now).key ∈
            w.scopedNullifierUses.keys := by
          by_contra hfree
          exact h evidence hrequired ⟨hevidence, hstored, hfree⟩
        rw [exec_insertScopedUse_used hstored hused]
  · rw [run_enforceScopedUse_unrequired (by simpa using hrequired)]

theorem run_uses_kept
    (h : ∀ admitted evidence, ¬ Spends crates router signed payload env w admitted evidence) :
    (machine.run env w (routeVerified crates router signed payload)).world.scopedNullifierUses =
      w.scopedNullifierUses := by
  have hrefuse : ∀ refusal w', (machine.run env w'
      (refuse crates router refusal env.clock)).world.scopedNullifierUses =
        w'.scopedNullifierUses := fun refusal w' =>
    run_uses_of_audit ((refuse_only refusal).mono fun _ => .inl)
  cases hpre : preflight crates router signed payload env.clock with
  | error refusal =>
    rw [run_routeVerified_refused hpre]
    exact hrefuse refusal w
  | ok admitted =>
    rw [run_routeVerified_admitted hpre]
    by_cases hreserved : ReservationGranted env w admitted.routed.context
        admitted.routed.signerKeyId env.clock
    · rw [run_routeAdmitted_reserved hreserved]
      have huses : (machine.run env w (reserveReplay admitted.routed.context
          admitted.routed.signerKeyId env.clock)).world.scopedNullifierUses =
            w.scopedNullifierUses := run_reserveReplay_uses
      generalize (machine.run env w (reserveReplay admitted.routed.context
        admitted.routed.signerKeyId env.clock)) = reserve at huses
      have hkept : (machine.run env reserve.world
          (enforceScopedUse crates admitted.routed.context env.clock)).world = reserve.world :=
        run_enforceScopedUse_kept fun evidence hrequired hgranted => h admitted evidence
          ⟨preflight_ok hpre, hreserved, hrequired, hgranted.congr huses.symm⟩
      cases hresult : (machine.run env reserve.world
          (enforceScopedUse crates admitted.routed.context env.clock)).result with
      | none =>
        simp only [run_routeReserved_passed hresult, hkept,
          run_uses_of_audit routeOwned_only, huses]
      | some reason =>
        simp only [run_routeReserved_refused hresult, hkept, run_uses_of_audit
          ((refuseExecution_only reason).mono fun _ => .inl), huses]
    · obtain ⟨reason, hrun⟩ := run_routeAdmitted_refused hreserved
      rw [hrun]
      simp only [hrefuse, run_reserveReplay_uses]

theorem run_starts_of_spends (h : Spends crates router signed payload env w admitted evidence)
    (hdispatch : Dispatchable router admitted.routed.context payload env.clock) :
    ∃ e ∈ (machine.run env w (routeVerified crates router signed payload)).events,
      startedFor e.cmd = some admitted.routed.context :=
  run_routeVerified_starts (preflight_of_passed h.passed) h.reserved
    (fun _ => ⟨evidence, h.granted⟩) hdispatch

/-- A call that started no handler left the uses as they were, unless its own use was recorded and
one of the gates behind the use gate refused it: the permission policy, the payload limit or the
lookup of the handler. Then exactly its own row was added. -/
theorem refused_call_spends_at_most_its_own_use (crates : Crates) (router : ConfigurableRouter)
    (signed : SignedVerifiedCallContext) (payload : List UInt8) (env : Env) (w : Tables)
    (hunstarted : ∀ e ∈ (machine.run env w (routeVerified crates router signed payload)).events,
      ¬ e.cmd.isExecute) :
    let after := (machine.run env w (routeVerified crates router signed payload)).world
    ((∀ admitted evidence, ¬ Spends crates router signed payload env w admitted evidence) ∧
      after.scopedNullifierUses = w.scopedNullifierUses) ∨
    ∃ admitted evidence, Spends crates router signed payload env w admitted evidence ∧
      ¬ Dispatchable router admitted.routed.context payload env.clock ∧
      after.scopedNullifierUses.rows = w.scopedNullifierUses.rows ++
        [scopedNullifierUse crates evidence admitted.routed.context env.clock] := by
  intro after
  by_cases hspends : ∃ admitted evidence,
      Spends crates router signed payload env w admitted evidence
  · obtain ⟨admitted, evidence, h⟩ := hspends
    refine .inr ⟨admitted, evidence, h, fun hdispatch => ?_, run_uses_of_spends h⟩
    obtain ⟨e, he, hstart⟩ := run_starts_of_spends h hdispatch
    exact hunstarted e he (isExecute_of_startedFor hstart)
  · push Not at hspends
    exact .inl ⟨hspends, run_uses_kept hspends⟩

end

/-! ## Runs of the small receiver -/

def bareReceiver : ConfigurableRouter := Sample.receiver .transparent fun _ => false

def scopedCall : SignedVerifiedCallContext :=
  Sample.signed .transparent 3 (Sample.scopedSummary "c") 200

def bareRun : Machine.Ran Cmd Tables Env Routed :=
  machine.run (Sample.env 150) Tables.empty
    (routeVerified .transparent bareReceiver scopedCall [1, 2])

theorem bareRun_refused : bareRun.result.response.decision = .rejected ∧
    (∀ e ∈ bareRun.events, ¬ e.cmd.isExecute) ∧
      bareRun.world.scopedNullifierUses.rows ≠ Tables.empty.scopedNullifierUses.rows := by
  decide +kernel

theorem bareReceiver_spends : ∃ admitted evidence, Spends .transparent bareReceiver scopedCall
    [1, 2] (Sample.env 150) Tables.empty admitted evidence := by
  by_contra hnone
  push Not at hnone
  exact bareRun_refused.2.2 (congrArg Table.rows (run_uses_kept hnone))

/-- The call is rejected before any handler, and its use is gone. -/
theorem bareReceiver_spends_use : bareRun.result.response.decision = .rejected ∧
    (∀ e ∈ bareRun.events, ¬ e.cmd.isExecute) ∧
      bareRun.world.scopedNullifierUses.rows ≠ Tables.empty.scopedNullifierUses.rows :=
  bareRun_refused

theorem bareReceiver_spends_one_row :
    ∃ (admitted : Admitted) (evidence : ScopedNullifierEvidence),
      ¬ Dispatchable bareReceiver admitted.routed.context [1, 2] (Sample.env 150).clock ∧
      bareRun.world.scopedNullifierUses.rows = Tables.empty.scopedNullifierUses.rows ++
        [scopedNullifierUse .transparent evidence admitted.routed.context
          (Sample.env 150).clock] := by
  obtain ⟨-, hunstarted, hspent⟩ := bareRun_refused
  unfold bareRun at hunstarted hspent ⊢
  rcases refused_call_spends_at_most_its_own_use .transparent bareReceiver scopedCall [1, 2]
    (Sample.env 150) Tables.empty hunstarted with ⟨-, hkept⟩ | ⟨admitted, evidence, -,
      hundispatched, hrows⟩
  · exact absurd (congrArg Table.rows hkept) hspent
  · exact ⟨admitted, evidence, hundispatched, hrows⟩

/-! ## The register of uses -/

def takesUse (e : Step) : Option ScopedUseKey :=
  match e.cmd with
  | .sql (.insertScopedUse row) =>
    if e.env.fails (.insertScopedUse row) ∨
        row.key ∈ e.before.scopedNullifierUses.rows.map ScopedNullifierUse.key then none
    else some row.key
  | _ => none

theorem uses_after_insert {e : Step} {row : ScopedNullifierUse}
    (hcmd : e.cmd = .sql (.insertScopedUse row)) :
    (machine.after e).scopedNullifierUses =
      if e.env.fails (.insertScopedUse row) then e.before.scopedNullifierUses
      else (e.before.scopedNullifierUses.insertOrIgnore row).2 := by
  obtain ⟨env, w, c⟩ := e
  subst hcmd
  by_cases hfails : env.fails (.insertScopedUse row)
  · simp [Machine.after, machine, hfails]
  · simp [Machine.after, machine, hfails, Tables.apply, Tables.insertScopedUse]

theorem takesUse_eq_some {e : Step} {key : ScopedUseKey} (h : takesUse e = some key) :
    ∃ row, e.cmd = .sql (.insertScopedUse row) ∧ row.key = key ∧
      e.env.fails (.insertScopedUse row) = false ∧ row.key ∉ e.before.scopedNullifierUses.keys := by
  unfold takesUse at h
  split at h
  · next row hcmd =>
      split_ifs at h with hrefused
      push Not at hrefused
      refine ⟨row, hcmd, Option.some.inj h, by simpa using hrefused.1, ?_⟩
      rintro ⟨r, hr, hkey⟩
      exact hrefused.2 (List.mem_map.mpr ⟨r, hr, hkey⟩)
  · cases h

theorem uses_after_of_takes_none {e : Step} (h : takesUse e = none) :
    (machine.after e).scopedNullifierUses = e.before.scopedNullifierUses := by
  by_cases hinsert : ∃ row, e.cmd = .sql (.insertScopedUse row)
  · obtain ⟨row, hcmd⟩ := hinsert
    unfold takesUse at h
    rw [hcmd] at h
    simp only at h
    rw [uses_after_insert hcmd]
    split_ifs at h with hrefused
    by_cases hfails : e.env.fails (.insertScopedUse row)
    · rw [if_pos hfails]
    · have hused : row.key ∈ e.before.scopedNullifierUses.keys := by
        simpa [hfails, Table.keys] using hrefused
      rw [if_neg hfails, Table.insertOrIgnore_of_mem hused]
  · exact uses_after fun row hcmd => hinsert ⟨row, hcmd⟩

/-- The ledger implements the register, whatever command comes next. -/
theorem uses_implement :
    Implements machine (fun w => w.scopedNullifierUses.keys) takesUse where
  take := by
    intro e key htakes
    obtain ⟨row, hcmd, rfl, hstored, hfresh⟩ := takesUse_eq_some htakes
    refine ⟨hfresh, ?_⟩
    simp only [uses_after_insert hcmd, hstored, Bool.false_eq_true, if_false]
    exact Table.keys_insertOrIgnore _ _
  pass := by
    intro e htakes
    simp only [uses_after_of_takes_none htakes]

theorem takesUse_of_records {e : Step} {row : ScopedNullifierUse} (h : RecordsUse e row) :
    takesUse e = some row.key := by
  cases htakes : takesUse e with
  | none =>
    have hstored := h.stored
    rw [uses_after_of_takes_none htakes] at hstored
    exact absurd ⟨row, hstored, rfl⟩ h.fresh
  | some key =>
    obtain ⟨row', hcmd, rfl, -, -⟩ := takesUse_eq_some htakes
    have hrow : row' = row := by
      have hsame := hcmd.symm.trans h.cmd
      injection hsame with hsame
      injection hsame
    rw [hrow]

/-- A call that starts a handler for a context that requires a scoped use took that use's key. -/
theorem taken_by_started_call {crates : Crates} {call : Call} {es : List Step} {q : Program Unit}
    (h : machine.Follows (call.program crates) es q) {e : Step} (he : e ∈ es)
    {context : VerifiedCallContext} (hstart : startedFor e.cmd = some context)
    (hrequired : scopedUseRequired context) :
    ∃ evidence, ScopedNullifierEvidence.fromContext crates context = .ok evidence ∧
      ∃ u ∈ es, takesUse u = some (scopedUseKey crates evidence) := by
  obtain ⟨router, signed, payload, env, w, rest, admitted, -, rfl, rfl, -, hreached⟩ :=
    started_call h he hstart
  obtain ⟨evidence, husable, u, hu, hrecords⟩ := hreached.used hrequired
  exact ⟨evidence, husable, u, List.mem_cons_of_mem _ hu, takesUse_of_records hrecords⟩

theorem uses_never_lost {e : Step} :
    e.before.scopedNullifierUses.rows <+: (machine.after e).scopedNullifierUses.rows := by
  cases htakes : takesUse e with
  | none => rw [uses_after_of_takes_none htakes]
  | some key =>
    obtain ⟨row, hcmd, -, hstored, hfresh⟩ := takesUse_eq_some htakes
    simp only [uses_after_insert hcmd, hstored, Bool.false_eq_true, if_false]
    rw [(Table.insertOrIgnore_of_notMem hfresh).2]
    exact List.prefix_append _ _

/-- Whatever the schedule and the clocks, no two calls start a handler on one scoped use, and a use
once recorded stays. -/
theorem scoped_use_starts_at_most_once (crates : Crates) {T : Type} [DecidableEq T]
    (calls : T → Call) (w : Tables) (schedule : List (T × Env)) :
    let pool := Pool.run machine (fun t => (calls t).program crates) w
    (∀ t t' e e' context context', t ≠ t' →
      (t, e) ∈ (pool schedule).log → (t', e') ∈ (pool schedule).log →
      startedFor e.cmd = some context → startedFor e'.cmd = some context' →
      scopedUseRequired context → scopedUseRequired context' →
      ∃ evidence evidence', ScopedNullifierEvidence.fromContext crates context = .ok evidence ∧
        ScopedNullifierEvidence.fromContext crates context' = .ok evidence' ∧
        scopedUseKey crates evidence ≠ scopedUseKey crates evidence') ∧
    ∀ more, (pool schedule).world.scopedNullifierUses.rows <+:
      (pool (schedule ++ more)).world.scopedNullifierUses.rows := by
  intro pool
  constructor
  · intro t t' e e' context context' hne he he' hstart hstart' hrequired hrequired'
    have hchain := Pool.run_chained (M := machine) (fun t => (calls t).program crates) w schedule
    have htaken : ∀ t e context, (t, e) ∈ (pool schedule).log →
        startedFor e.cmd = some context → scopedUseRequired context →
        ∃ evidence, ScopedNullifierEvidence.fromContext crates context = .ok evidence ∧
          ∃ u, (t, u) ∈ (pool schedule).log ∧ takesUse u = some (scopedUseKey crates evidence) := by
      intro t e context he hstart hrequired
      have hfollows := Pool.run_follows (M := machine) (fun t => (calls t).program crates) w
        schedule t
      obtain ⟨evidence, husable, u, hu, htakes⟩ :=
        taken_by_started_call hfollows (Pool.mem_eventsOf.mpr he) hstart hrequired
      exact ⟨evidence, husable, u, Pool.mem_eventsOf.mp hu, htakes⟩
    obtain ⟨evidence, husable, u, hu, htakes⟩ := htaken t e context he hstart hrequired
    obtain ⟨evidence', husable', u', hu', htakes'⟩ := htaken t' e' context' he' hstart' hrequired'
    have hsteps : (t, u) ≠ (t', u') := fun heq => hne (congrArg Prod.fst heq)
    exact ⟨evidence, evidence', husable, husable',
      uses_implement.takes_ne hchain hu hu' hsteps htakes htakes'⟩
  · intro more
    obtain ⟨es, -, hchain⟩ := Pool.steps_chained (M := machine) (pool schedule) more
    rw [← Pool.run_append] at hchain
    refine hchain.invariant (P := fun w' => (pool schedule).world.scopedNullifierUses.rows <+:
      w'.scopedNullifierUses.rows) (fun e _ hprefix => ?_) List.prefix_rfl
    exact hprefix.trans uses_never_lost

def otherCall : SignedVerifiedCallContext :=
  Sample.signed .transparent 4 (Sample.scopedSummary "d") 200

def twoCalls : Bool → Call
  | false => .route Sample.appendReceiver scopedCall [1, 2]
  | true => .route Sample.appendReceiver otherCall [1, 2]

/-- One call after the other. -/
def inTurn : List (Bool × Env) :=
  List.replicate 12 (false, Sample.env 150) ++ List.replicate 12 (true, Sample.env 150)

theorem twoCalls_start : ∀ t, ∃ entry ∈ (Pool.run machine (fun t => (twoCalls t).program
    .transparent) Tables.empty inTurn).log, entry.1 = t ∧
      (startedFor entry.2.cmd).any scopedUseRequired := by
  decide +kernel

/-- Two scoped calls to the small receiver do both start, and on different uses. -/
theorem appendReceiver_starts_two_uses :
    ∃ schedule e e' context context',
      (false, e) ∈ (Pool.run machine (fun t => (twoCalls t).program .transparent) Tables.empty
        schedule).log ∧
      (true, e') ∈ (Pool.run machine (fun t => (twoCalls t).program .transparent) Tables.empty
        schedule).log ∧
      startedFor e.cmd = some context ∧ startedFor e'.cmd = some context' ∧
      ∃ evidence evidence',
        ScopedNullifierEvidence.fromContext .transparent context = .ok evidence ∧
        ScopedNullifierEvidence.fromContext .transparent context' = .ok evidence' ∧
        scopedUseKey .transparent evidence ≠ scopedUseKey .transparent evidence' := by
  obtain ⟨⟨_, e⟩, he, rfl, hstart⟩ := twoCalls_start false
  obtain ⟨⟨_, e'⟩, he', rfl, hstart'⟩ := twoCalls_start true
  obtain ⟨context, hstart, hrequired⟩ := (Option.any_eq_true _ _).mp hstart
  obtain ⟨context', hstart', hrequired'⟩ := (Option.any_eq_true _ _).mp hstart'
  exact ⟨inTurn, e, e', context, context', he, he', hstart, hstart',
    (scoped_use_starts_at_most_once .transparent twoCalls Tables.empty inTurn).1 false true e e'
      _ _ Bool.false_ne_true he he' hstart hstart' hrequired hrequired'⟩

end ScopedUse
