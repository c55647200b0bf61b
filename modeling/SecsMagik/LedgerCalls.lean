import SecsMagik.RouterRuns

/-! # Many calls on one ledger

Routed calls, through whatever routers, and the two maintenance calls share one ledger. A handler is
started by routed calls only, and a reservation is pruned only up to the reading of the call that
prunes it.
-/
namespace LedgerCalls

open RustStd
open ExternalCrates (Crates)
open CallContext ScopedNullifier Ledger AtomicPrograms UniqueTable GatewayMachine GatewayRouter
open RouterTraces

inductive Call where
  | route (router : ConfigurableRouter) (signed : SignedVerifiedCallContext)
      (payload : List UInt8)
  | prune (now : UInt64)
  | initSchema

namespace Call

def program (crates : Crates) : Call → Program Unit
  | .route router signed payload => do
    let _ ← routeVerified crates router signed payload
    return ()
  | .prune now => do
    let _ ← pruneExpiredReplayReservations now
    return ()
  | .initSchema => do
    let _ ← GatewayMachine.initSchema
    return ()

/-- The time a call goes by when it runs under `env`. -/
def reading (env : Env) : Call → UInt64
  | .prune now => now
  | .route .. | .initSchema => env.clock

end Call

theorem run_route_program (crates : Crates) (env : Env) (w : Tables)
    (router : ConfigurableRouter) (signed : SignedVerifiedCallContext) (payload : List UInt8) :
    (machine.run env w ((Call.route router signed payload).program crates)).events =
        (machine.run env w (routeVerified crates router signed payload)).events ∧
      (machine.run env w ((Call.route router signed payload).program crates)).world =
        (machine.run env w (routeVerified crates router signed payload)).world := by
  simp [Call.program, Machine.run_bind]

section

variable {crates : Crates} {call : Call} {es : List Step} {q : Program Unit}

theorem initSchema_only : initSchema.Only (¬ ·.isExecute) := by
  have hprune : ∀ now, (pruneExpiredReplayReservations now).Only (¬ ·.isExecute) := by
    intro now
    refine (prune_only now).mono ?_
    rintro c ⟨-, rfl⟩
    simp [Cmd.isExecute]
  have hdevgraph : ∀ now,
      (pruneExpiredDevgraphAuthorityReplayReservations now).Only (¬ ·.isExecute) := by
    intro now
    unfold pruneExpiredDevgraphAuthorityReplayReservations
    split
    · trivial
    · split
      · trivial
      · exact Prog.only_perform (by simp [Cmd.isExecute])
  refine Prog.Only.bind (Prog.only_perform (by simp [Cmd.isExecute])) fun affected => ?_
  cases affected with
  | none => trivial
  | some n =>
    refine Prog.Only.bind (Prog.only_perform (by simp [Cmd.isExecute])) fun now => ?_
    exact (hprune now).bind fun _ => (hdevgraph now).bind fun _ => trivial

theorem routed_of_execute (h : machine.Follows (call.program crates) es q) {e : Step} (he : e ∈ es)
    (hexec : e.cmd.isExecute) :
    ∃ router signed payload q', call = .route router signed payload ∧
      machine.Follows (routeVerified crates router signed payload) es q' := by
  obtain ⟨router, signed, payload⟩ | now | - := call
  · obtain ⟨q', hroute⟩ := h.of_bind_const
    exact ⟨router, signed, payload, q', rfl, hroute⟩
  · obtain ⟨q', hprune⟩ := h.of_bind_const
    have hcmd := (hprune.only (prune_only now) e he).2
    rw [hcmd] at hexec
    cases hexec
  · obtain ⟨q', hinit⟩ := h.of_bind_const
    exact absurd hexec (hinit.only initSchema_only e he)

theorem started_call (h : machine.Follows (call.program crates) es q) {e : Step} (he : e ∈ es)
    {context : VerifiedCallContext} (hstart : startedFor e.cmd = some context) :
    ∃ router signed payload env w rest admitted, call = .route router signed payload ∧
      es = ⟨env, w, .readClock⟩ :: rest ∧ admitted.routed.context = context ∧
      Passed crates router signed payload env.clock admitted ∧
      Reached crates router payload env.clock admitted rest e := by
  obtain ⟨router, signed, payload, q', rfl, hroute⟩ :=
    routed_of_execute h he (isExecute_of_startedFor hstart)
  obtain ⟨env, w, rest, admitted, hes, hpassed, hreached⟩ :=
    routeVerified_trace hroute he (isExecute_of_startedFor hstart)
  obtain ⟨handlerId, -, -, hcmd⟩ := hreached.started
  have hcontext : admitted.routed.context = context := by
    rw [hcmd] at hstart
    exact Option.some.inj hstart
  exact ⟨router, signed, payload, env, w, rest, admitted, rfl, hes, hcontext, hpassed, hreached⟩

/-! ## Prunes go by the clock -/

/-- Every prune in the trace has as its cutoff what the same call read from the clock before. -/
def PrunesByClock (es : List Step) : Prop :=
  ∀ before d after, es = before ++ d :: after → ∀ cutoff,
    d.cmd = .sql (.deleteExpiredReplay cutoff) →
      ∃ r ∈ before, r.cmd = .readClock ∧ PrunesAt r.env.clock d.cmd

/-- The trace of a program that reads the clock and then prunes at the reading only. -/
theorem prunesByClock_cons {r : Step} {rest : List Step} (hr : r.cmd = .readClock)
    (hrest : ∀ d ∈ rest, ∀ cutoff, d.cmd = .sql (.deleteExpiredReplay cutoff) →
      PrunesAt r.env.clock d.cmd) : PrunesByClock (r :: rest) := by
  intro before d after hes cutoff hcmd
  cases before with
  | nil =>
    have hd : r = d := (List.cons.inj hes).1
    rw [← hd, hr] at hcmd
    cases hcmd
  | cons r' before =>
    obtain ⟨rfl, rfl⟩ := List.cons.inj hes
    refine ⟨r, List.mem_cons_self, hr, hrest d ?_ cutoff hcmd⟩
    exact List.mem_append_right _ List.mem_cons_self

theorem PrunesByClock.cons {r : Step} {rest : List Step} (h : PrunesByClock rest)
    (hr : ∀ cutoff, r.cmd ≠ .sql (.deleteExpiredReplay cutoff)) : PrunesByClock (r :: rest) := by
  intro before d after hes cutoff hcmd
  cases before with
  | nil =>
    have hd : r = d := (List.cons.inj hes).1
    exact absurd (hd ▸ hcmd) (hr cutoff)
  | cons r' before =>
    obtain ⟨rfl, hrest⟩ := List.cons.inj hes
    obtain ⟨x, hx, hread, hprunes⟩ := h before d after hrest cutoff hcmd
    exact ⟨x, List.mem_cons_of_mem _ hx, hread, hprunes⟩

theorem prunesByClock_nil : PrunesByClock [] := by
  intro before d after hes
  simp at hes

theorem routeVerified_prunesByClock {router : ConfigurableRouter}
    {signed : SignedVerifiedCallContext} {payload : List UInt8} {q : Program Routed}
    (h : machine.Follows (routeVerified crates router signed payload) es q) :
    PrunesByClock es := by
  by_cases hes : es = []
  · rw [hes]
    exact prunesByClock_nil
  · obtain ⟨env, w, rest, rfl, hsteps⟩ := routeVerified_steps h hes
    exact prunesByClock_cons rfl fun d hd => (hsteps d hd).prunes

theorem initSchema_prunesByClock {q : Program (Option Unit)}
    (h : machine.Follows initSchema es q) : PrunesByClock es := by
  have hprunes : ∀ now, (do
      let _ ← pruneExpiredReplayReservations now
      let _ ← pruneExpiredDevgraphAuthorityReplayReservations now
      return some () : Program (Option Unit)).Only fun c =>
        ∀ cutoff, c = .sql (.deleteExpiredReplay cutoff) → PrunesAt now c := by
    intro now
    refine ((prune_only now).mono fun c hc _ _ => hc).bind fun _ => ?_
    refine Prog.Only.bind ?_ fun _ => trivial
    unfold pruneExpiredDevgraphAuthorityReplayReservations
    split
    · trivial
    · split
      · trivial
      · exact Prog.only_perform (by simp)
  unfold initSchema at h
  rw [sql_bind] at h
  cases h with
  | refl => exact prunesByClock_nil
  | @step env w _ _ es _ h =>
    refine PrunesByClock.cons ?_ (by simp)
    cases hreply : (machine.exec env w (.sql .applySchema)).1 with
    | none =>
      rw [hreply] at h
      rw [h.done_inv.1]
      exact prunesByClock_nil
    | some n =>
      rw [hreply] at h
      simp only [readClock_bind] at h
      cases h with
      | refl => exact prunesByClock_nil
      | step h => exact prunesByClock_cons rfl fun d hd => h.only (hprunes _) d hd

theorem prunes_at_reading (h : machine.Follows (call.program crates) es q) {env : Env}
    (henv : ∀ e ∈ es, e.env = env) {d : Step} (hd : d ∈ es) {cutoff : ℤ}
    (hcmd : d.cmd = .sql (.deleteExpiredReplay cutoff)) : PrunesAt (call.reading env) d.cmd := by
  have hclock : PrunesByClock es → PrunesAt env.clock d.cmd := by
    intro hes
    obtain ⟨before, after, rfl⟩ := List.append_of_mem hd
    obtain ⟨r, hr, -, hprunes⟩ := hes before d after rfl cutoff hcmd
    rw [henv r (List.mem_append_left _ hr)] at hprunes
    exact hprunes
  obtain ⟨router, signed, payload⟩ | now | - := call
  · obtain ⟨q', hroute⟩ := h.of_bind_const
    exact hclock (routeVerified_prunesByClock hroute)
  · obtain ⟨q', hprune⟩ := h.of_bind_const
    exact hprune.only (prune_only now) d hd
  · obtain ⟨q', hinit⟩ := h.of_bind_const
    exact hclock (initSchema_prunesByClock hinit)

end

end LedgerCalls
