import SecsMagik.ReceiptRuns

/-! # A call that runs its handler

The run of such a call falls into a prelude, which stores no receipt but the verify receipt, and
the run of the handler with what is recorded after it.
-/
namespace HandlerRuns

open RustStd
open ExternalCrates (Crates)
open CallContext ReceiverManifest ScopedNullifier Receipts Ledger AtomicPrograms UniqueTable
open GatewayMachine GatewayRouter RouterTraces RouterRuns ReceiptRuns

/-! ## Up to the handler -/

/-- The command inserts receipts of the one kind only. -/
def InsertsOnly (kind : ReceiptKind) (c : Cmd) : Prop :=
  ∀ r event, c = .sql (.insertReceiptWithEvent r event) → r.kind = kind

/-- Steps from `w` to `w'` that leave the execute receipts of the present second alone. -/
structure Prelude (now : UInt64) (es : List Step) (w w' : Tables) : Prop where
  inserts : ∀ e ∈ es, InsertsOnly .verify e.cmd
  keys : ∀ context, receiptId "execute" now context ∈ w'.receipts.keys ↔
    receiptId "execute" now context ∈ w.receipts.keys

theorem Prelude.append {now : UInt64} {es fs : List Step} {w w' w'' : Tables}
    (h : Prelude now es w w') (h' : Prelude now fs w' w'') : Prelude now (es ++ fs) w w'' := by
  refine ⟨fun e he => ?_, fun context => (h'.keys context).trans (h.keys context)⟩
  rcases List.mem_append.mp he with he | he
  · exact h.inserts e he
  · exact h'.inserts e he

theorem InsertsOnly.of_noReceipt {kind : ReceiptKind} {c : Cmd} (h : NoReceipt c) :
    InsertsOnly kind c := fun r event hc => absurd hc (h r event)

section

variable {crates : Crates} {router : ConfigurableRouter} {signed : SignedVerifiedCallContext}
  {payload : List UInt8} {admitted : Admitted} {env : Env} {w : Tables} {now : UInt64}

theorem prelude_of_noReceipt {α : Type} {p : Program α} (hp : p.Only NoReceipt) :
    Prelude now (machine.run env w p).events w (machine.run env w p).world := by
  refine ⟨fun e he => .of_noReceipt ((Machine.run_follows env w p).only hp e he), fun _ => ?_⟩
  rw [run_receipts hp]

theorem recordSignedReceipt_inserts (draft : Receipt) :
    (recordSignedReceipt crates router draft).Only (InsertsOnly draft.kind) := by
  unfold recordSignedReceipt
  cases hsign : signReceipt crates router.identity draft with
  | error e => trivial
  | ok r =>
    have hinsert : InsertsOnly draft.kind (.sql (.insertReceiptWithEvent r (emittedEvent r))) := by
      rintro r' event ⟨⟩
      exact (signReceipt_ok hsign).2.1
    refine Prog.Only.bind ?_ fun _ => trivial
    exact (Prog.only_perform hinsert).bind fun _ => trivial

theorem announce_inserts :
    (announce crates router admitted payload now).Only (InsertsOnly .verify) := by
  have hevent : ∀ (kind : ReceiptEventKind) (signed : SignedVerifiedCallContext)
      (reason : Option String), (recordOperationEvent kind signed now reason).Only
        (InsertsOnly .verify) := fun _ _ _ =>
    (recordOperationEvent_noReceipt _ _).mono fun _ => .of_noReceipt
  refine Prog.Only.bind (Prog.only_perform (.of_noReceipt (by simp [NoReceipt]))) fun _ => ?_
  refine Prog.Only.bind ?_ fun _ => hevent _ _ _
  refine (recordSignedReceipt_inserts (verifyDraft crates admitted now)).bind fun _ => ?_
  exact (hevent _ _ _).bind fun _ => trivial

theorem prelude_announce :
    Prelude now (machine.run env w (announce crates router admitted payload now)).events w
      (machine.run env w (announce crates router admitted payload now)).world :=
  ⟨(Machine.run_follows env w _).only announce_inserts,
    fun _ => run_announce_keys (receiptId_verify_ne_execute _ _)⟩

/-- From `w` on, the run of `p` is a prelude and then the run of the handler. -/
structure HandlerRun (crates : Crates) (router : ConfigurableRouter) (payload : List UInt8)
    (env : Env) (w : Tables) (p : Program Routed) (admitted : Admitted) (handlerId : String)
    (before : List Step) (w' : Tables) : Prop where
  prelude : Prelude env.clock before w w'
  run_eq : machine.run env w p =
    let next := machine.run env w'
      (startHandler crates router admitted handlerId payload env.clock)
    ⟨next.result, before ++ next.events, next.world⟩

variable {handlerId : String}

theorem HandlerRun.prepend {p q : Program Routed} {es before : List Step} {w₁ w' : Tables}
    (h : HandlerRun crates router payload env w₁ q admitted handlerId before w')
    (hes : Prelude env.clock es w w₁)
    (hrun : machine.run env w p =
      ⟨(machine.run env w₁ q).result, es ++ (machine.run env w₁ q).events,
        (machine.run env w₁ q).world⟩) :
    HandlerRun crates router payload env w p admitted handlerId (es ++ before) w' := by
  refine ⟨hes.append h.prelude, ?_⟩
  rw [hrun, h.run_eq]
  simp only [List.append_assoc]

theorem execute_notMem {ok : Cmd → Prop} {α : Type} {p : Program α} {e : Step}
    (hexec : e.cmd.isExecute) (hp : p.Only ok) (hok : ∀ c, ok c → ¬ c.isExecute) :
    e ∉ (machine.run env w p).events := fun hmem =>
  hok _ ((Machine.run_follows env w p).only hp e hmem) hexec

section Started

variable {e : Step} (hexec : e.cmd.isExecute)
include hexec

theorem handlerRun_routeOwned
    (he : e ∈ (machine.run env w (routeOwned crates router admitted payload env.clock)).events) :
    ∃ handlerId before w', HandlerRun crates router payload env w
      (routeOwned crates router admitted payload env.clock) admitted handlerId before w' := by
  by_cases hready : Dispatchable router admitted.routed.context payload env.clock
  · obtain ⟨handlerId, hid, hprogram⟩ := hready.registered
    refine ⟨handlerId, (machine.run env w
      (announce crates router admitted payload env.clock)).events, _, prelude_announce, ?_⟩
    unfold routeOwned
    simp only [Machine.run_bind, hready.permitted,
      dispatch_eq_startHandler hready.fits hid hprogram]
  · exact absurd hexec ((run_routeOwned_refused hready).2 e he)

theorem handlerRun_routeReserved
    (he : e ∈ (machine.run env w
      (routeReserved crates router admitted payload env.clock)).events) :
    ∃ handlerId before w', HandlerRun crates router payload env w
      (routeReserved crates router admitted payload env.clock) admitted handlerId before w' := by
  have huse : e ∉ (machine.run env w
      (enforceScopedUse crates admitted.routed.context env.clock)).events := by
    apply execute_notMem hexec (enforceScopedUse_only _)
    rintro c ⟨row, rfl⟩
    simp [Cmd.isExecute]
  cases hresult : (machine.run env w
      (enforceScopedUse crates admitted.routed.context env.clock)).result with
  | some reason =>
    rw [run_routeReserved_refused hresult] at he
    refine absurd ((List.mem_append.mp he).resolve_left huse) ?_
    exact execute_notMem hexec (refuseExecution_only _) fun _ => not_execute_of_audit
  | none =>
    rw [run_routeReserved_passed hresult] at he
    obtain ⟨handlerId, before, w', h⟩ :=
      handlerRun_routeOwned hexec ((List.mem_append.mp he).resolve_left huse)
    exact ⟨handlerId, _, w',
      h.prepend (prelude_of_noReceipt (enforceScopedUse_noReceipt _))
        (run_routeReserved_passed hresult)⟩

theorem handlerRun_routeAdmitted
    (he : e ∈ (machine.run env w
      (routeAdmitted crates router admitted payload env.clock)).events) :
    ∃ handlerId before w', HandlerRun crates router payload env w
      (routeAdmitted crates router admitted payload env.clock) admitted handlerId before w' := by
  have hreserve : e ∉ (machine.run env w (reserveReplay admitted.routed.context
      admitted.routed.signerKeyId env.clock)).events := by
    apply execute_notMem hexec (reserveReplay_only _ _ _)
    rintro c (⟨-, rfl⟩ | rfl) <;> simp [Cmd.isExecute]
  by_cases hgranted : ReservationGranted env w admitted.routed.context
      admitted.routed.signerKeyId env.clock
  · rw [run_routeAdmitted_reserved hgranted] at he
    obtain ⟨handlerId, before, w', h⟩ :=
      handlerRun_routeReserved hexec ((List.mem_append.mp he).resolve_left hreserve)
    exact ⟨handlerId, _, w', h.prepend (prelude_of_noReceipt (reserveReplay_noReceipt _ _))
      (run_routeAdmitted_reserved hgranted)⟩
  · obtain ⟨reason, hrun⟩ : ∃ reason, machine.run env w
        (routeAdmitted crates router admitted payload env.clock) = _ :=
      run_routeAdmitted_refused hgranted
    rw [hrun] at he
    refine absurd ((List.mem_append.mp he).resolve_left hreserve) ?_
    exact execute_notMem hexec (refuse_only _) fun _ => not_execute_of_audit

/-- A call that starts a handler passed the preflight, and its run is cut at the start. -/
theorem handlerRun_routeVerified
    (he : e ∈ (machine.run env w (routeVerified crates router signed payload)).events) :
    ∃ admitted handlerId before w', Passed crates router signed payload env.clock admitted ∧
      HandlerRun crates router payload env w (routeVerified crates router signed payload) admitted
        handlerId before w' := by
  have hclock : e ≠ ⟨env, w, .readClock⟩ := by
    rintro rfl
    cases hexec
  cases hpre : preflight crates router signed payload env.clock with
  | error refusal =>
    rw [run_routeVerified_refused hpre] at he
    refine absurd ((List.mem_cons.mp he).resolve_left hclock) ?_
    exact execute_notMem hexec (refuse_only _) fun _ => not_execute_of_audit
  | ok admitted =>
    have hrun := run_routeVerified_admitted (w := w) hpre
    rw [hrun] at he
    obtain ⟨handlerId, before, w', h⟩ :=
      handlerRun_routeAdmitted hexec ((List.mem_cons.mp he).resolve_left hclock)
    have hread : Prelude env.clock [⟨env, w, .readClock⟩] w w := by
      refine ⟨fun e he => ?_, fun _ => Iff.rfl⟩
      rw [List.mem_singleton.mp he]
      exact .of_noReceipt (by simp [NoReceipt])
    exact ⟨admitted, handlerId, _, w', preflight_ok hpre, h.prepend hread hrun⟩

end Started

/-! ## From the handler on -/

theorem run_startHandler :
    machine.run env w (startHandler crates router admitted handlerId payload now) =
      let opened := machine.run env w (recordOperationEvent .handlerStarted admitted.routed now
        (some ("payload_size:" ++ decimal payload.length)))
      let next := machine.run env opened.world (concludeExecution crates router admitted
        (handlerVerdict router admitted payload env handlerId) now)
      ⟨next.result, opened.events ++ ⟨env, opened.world, .execute handlerId
        admitted.routed.context payload (handlerLimits router admitted.descriptor)⟩ :: next.events,
        next.world⟩ := by
  unfold startHandler
  rw [Machine.run_bind]
  rfl

/-- The execute receipt of an outcome, if it can be drafted and signed. -/
def executeReceipt (crates : Crates) (router : ConfigurableRouter) (d : OperationDescriptor)
    (signed : SignedVerifiedCallContext) (outcome : HandlerOutcome) (now : UInt64) :
    Except VerificationError Receipt := do
  let draft ← outcomeDraft crates d signed outcome now
  signReceipt crates router.identity draft

variable {r : Receipt} {outcome : HandlerOutcome} {d : OperationDescriptor}

theorem executeReceipt_eq_ok :
    executeReceipt crates router d signed outcome now = .ok r ↔
      ∃ draft, outcomeDraft crates d signed outcome now = .ok draft ∧
        signReceipt crates router.identity draft = .ok r := bind_eq_ok

theorem receiptId_of_executeReceipt
    (h : executeReceipt crates router d signed outcome now = .ok r) :
    r.receiptId = receiptId "execute" now signed.context ∧ r.kind = .execute := by
  obtain ⟨draft, hdraft, hsign⟩ := executeReceipt_eq_ok.mp h
  obtain ⟨hid, hkind, -⟩ := signReceipt_ok hsign
  obtain ⟨hid', hkind', -⟩ := outcomeDraft_ok hdraft
  exact ⟨hid.trans hid', hkind.trans hkind'⟩

theorem recordOutcomeReceipt_strict {profile : OutputProfile}
    (hprofile : d.outputProfile = some profile) (outcome : HandlerOutcome) :
    recordOutcomeReceipt crates router d signed outcome.decision outcome.reason outcome.output
        now =
      match executeReceipt crates router d signed outcome now with
      | .error _ => pure none
      | .ok r => do
        let stored ← recordReceiptWithEmittedEvent r
        return stored.map fun _ => receiptId "execute" now signed.context := by
  unfold recordOutcomeReceipt recordExecutionReceiptRequired executeReceipt outcomeDraft
  simp only [hprofile]
  cases Receipt.executionWithOutput crates (receiptId "execute" now signed.context) signed.context
      outcome.decision outcome.reason now (outcome.output.map fun _ => profile.schemaId)
      outcome.output with
  | error e => rfl
  | ok draft => cases signReceipt crates router.identity draft <;> rfl

/-- The ledger takes the signed receipt. -/
structure Stores (env : Env) (w : Tables) (r : Receipt) : Prop where
  stored : env.fails (.insertReceiptWithEvent r (emittedEvent r)) = false
  free : r.receiptId ∉ w.receipts.keys

variable {event : AuditEvent}

theorem exec_insertReceipt_stored (hstored : env.fails (.insertReceiptWithEvent r event) = false)
    (hfree : r.receiptId ∉ w.receipts.keys) :
    (machine.exec env w (.sql (.insertReceiptWithEvent r event))).1 = some 1 := by
  simp [machine, hstored, Tables.apply, Tables.insertReceiptWithEvent,
    (Table.insertOrIgnore_of_notMem hfree).1]

/-- The run hands the receipt to the ledger, whatever becomes of it. -/
def Handed (es : List Step) (r : Receipt) (event : AuditEvent) : Prop :=
  ∃ e ∈ es, e.cmd = .sql (.insertReceiptWithEvent r event)

theorem handed_append {es fs : List Step} :
    Handed (es ++ fs) r event ↔ Handed es r event ∨ Handed fs r event := by
  simp only [Handed, List.mem_append, or_and_right, exists_or]

theorem not_handed {α : Type} {p : Program α} (hp : p.Only NoReceipt) (r : Receipt)
    (event : AuditEvent) : ¬ Handed (machine.run env w p).events r event := by
  rintro ⟨e, he, hcmd⟩
  exact (Machine.run_follows env w p).only hp e he r event hcmd

theorem handed_bind_left {α β : Type} {p : Program α} {f : α → Program β}
    (hf : ∀ a, (f a).Only NoReceipt) :
    Handed (machine.run env w (p >>= f)).events r event ↔
      Handed (machine.run env w p).events r event := by
  rw [Machine.run_bind, handed_append]
  exact or_iff_left (not_handed (hf _) r event)

section Conclude

variable {outcome : HandlerOutcome} {r : Receipt} {profile : OutputProfile}
  (hprofile : admitted.descriptor.outputProfile = some profile)

theorem written_concludeExecution_iff :
    Written (machine.run env w (concludeExecution crates router admitted outcome now)).events r ↔
      executeReceipt crates router admitted.descriptor admitted.receiptSigned outcome now = .ok r ∧
        Stores env w r := by
  rw [written_concludeExecution, executeReceipt_eq_ok]
  constructor
  · rintro ⟨draft, hdraft, hsigns, hstored, hfree⟩
    exact ⟨⟨draft, hdraft, hsigns⟩, hstored, (signReceipt_ok hsigns).1 ▸ hfree⟩
  · rintro ⟨⟨draft, hdraft, hsigns⟩, hstored, hfree⟩
    exact ⟨draft, hdraft, hsigns, hstored, (signReceipt_ok hsigns).1 ▸ hfree⟩

include hprofile

theorem run_concludeExecution_stored
    (hr : executeReceipt crates router admitted.descriptor admitted.receiptSigned outcome now =
      .ok r) (h : Stores env w r) :
    (machine.run env w (concludeExecution crates router admitted outcome now)).result =
      outcomeResponse admitted.routed.context admitted.descriptor r.receiptId outcome := by
  have hid := (receiptId_of_executeReceipt hr).1
  unfold concludeExecution
  rw [recordOutcomeReceipt_strict hprofile, hr]
  simp only [recordReceiptWithEmittedEvent, Machine.run_bind, sql_bind, Prog.step_bind,
    Machine.run_step_result, exec_insertReceipt_stored h.stored h.free]
  rw [hid]
  rfl

/-- The only receipt that is handed to the ledger after the handler is the execute receipt. -/
theorem handed_concludeExecution :
    Handed (machine.run env w (concludeExecution crates router admitted outcome now)).events r
        event ↔
      executeReceipt crates router admitted.descriptor admitted.receiptSigned outcome now =
        .ok r ∧ event = emittedEvent r := by
  refine (handed_bind_left fun id => ?_).trans ?_
  · cases id with
    | none => trivial
    | some id => exact (recordOperationEvent_noReceipt _ _).bind fun _ => trivial
  rw [recordOutcomeReceipt_strict hprofile]
  cases executeReceipt crates router admitted.descriptor admitted.receiptSigned outcome now with
  | error e => simp [Handed]
  | ok r' =>
    refine (handed_bind_left ?_).trans ((handed_bind_left ?_).trans ?_)
    · exact fun _ => trivial
    · exact fun _ => trivial
    constructor
    · rintro ⟨e, he, hcmd⟩
      rw [List.mem_singleton.mp he] at hcmd
      cases hcmd
      exact ⟨rfl, rfl⟩
    · rintro ⟨hsame, rfl⟩
      cases hsame
      exact ⟨_, List.mem_singleton_self _, rfl⟩

end Conclude

/-! ## The whole run -/

namespace HandlerRun

variable {p : Program Routed} {handlerId : String} {before : List Step} {w' : Tables}
  {r : Receipt}

/-- With the handler's answer in hand, what remains is to conclude the execution. -/
theorem concludes (h : HandlerRun crates router payload env w p admitted handlerId before w') :
    ∃ es w₁, Prelude env.clock es w w₁ ∧ machine.run env w p =
      let next := machine.run env w₁ (concludeExecution crates router admitted
        (handlerVerdict router admitted payload env handlerId) env.clock)
      ⟨next.result, es ++ next.events, next.world⟩ := by
  let opened := machine.run env w' (recordOperationEvent .handlerStarted admitted.routed env.clock
    (some ("payload_size:" ++ decimal payload.length)))
  have hopened : Prelude env.clock opened.events w' opened.world :=
    prelude_of_noReceipt (recordOperationEvent_noReceipt _ _)
  have hexecute : Prelude env.clock [⟨env, opened.world, .execute handlerId
      admitted.routed.context payload (handlerLimits router admitted.descriptor)⟩] opened.world
      opened.world := by
    refine ⟨fun e he => ?_, fun _ => Iff.rfl⟩
    rw [List.mem_singleton.mp he]
    exact .of_noReceipt (by simp [NoReceipt])
  refine ⟨_, _, (h.prelude.append hopened).append hexecute, ?_⟩
  rw [h.run_eq, run_startHandler]
  simp [opened]

theorem stores_iff {es : List Step} {w₁ : Tables} (hprelude : Prelude env.clock es w w₁)
    (hr : executeReceipt crates router admitted.descriptor admitted.receiptSigned outcome
      env.clock = .ok r) : Stores env w₁ r ↔ Stores env w r := by
  have hkeys := hprelude.keys admitted.receiptSigned.context
  rw [← (receiptId_of_executeReceipt hr).1] at hkeys
  exact ⟨fun h => ⟨h.stored, mt hkeys.mpr h.free⟩, fun h => ⟨h.stored, mt hkeys.mp h.free⟩⟩

variable (h : HandlerRun crates router payload env w p admitted handlerId before w')
include h

theorem written_execute :
    Written (machine.run env w p).events r ∧ r.kind = .execute ↔
      executeReceipt crates router admitted.descriptor admitted.receiptSigned
        (handlerVerdict router admitted payload env handlerId) env.clock = .ok r ∧
        Stores env w r := by
  obtain ⟨es, w₁, hprelude, hrun⟩ := h.concludes
  rw [hrun, written_append, written_concludeExecution_iff]
  constructor
  · rintro ⟨⟨e, he, hwrites⟩ | ⟨hr, hstores⟩, hkind⟩
    · obtain ⟨event, hcmd⟩ := hwrites.cmd
      rw [hprelude.inserts e he r event hcmd] at hkind
      cases hkind
    · exact ⟨hr, (stores_iff hprelude hr).mp hstores⟩
  · rintro ⟨hr, hstores⟩
    exact ⟨.inr ⟨hr, (stores_iff hprelude hr).mpr hstores⟩, (receiptId_of_executeReceipt hr).2⟩

variable {profile : OutputProfile} (hprofile : admitted.descriptor.outputProfile = some profile)
include hprofile

theorem handed_execute :
    Handed (machine.run env w p).events r event ∧ r.kind = .execute ↔
      executeReceipt crates router admitted.descriptor admitted.receiptSigned
        (handlerVerdict router admitted payload env handlerId) env.clock = .ok r ∧
        event = emittedEvent r := by
  obtain ⟨es, w₁, hprelude, hrun⟩ := h.concludes
  rw [hrun, handed_append, handed_concludeExecution hprofile]
  constructor
  · rintro ⟨⟨e, he, hcmd⟩ | hr, hkind⟩
    · rw [hprelude.inserts e he r event hcmd] at hkind
      cases hkind
    · exact hr
  · rintro ⟨hr, hevent⟩
    exact ⟨.inr ⟨hr, hevent⟩, (receiptId_of_executeReceipt hr).2⟩

theorem result_stored
    (hr : executeReceipt crates router admitted.descriptor admitted.receiptSigned
      (handlerVerdict router admitted payload env handlerId) env.clock = .ok r)
    (hstores : Stores env w r) :
    (machine.run env w p).result = outcomeResponse admitted.routed.context admitted.descriptor
      r.receiptId (handlerVerdict router admitted payload env handlerId) := by
  obtain ⟨es, w₁, hprelude, hrun⟩ := h.concludes
  rw [hrun]
  exact run_concludeExecution_stored hprofile hr ((stores_iff hprelude hr).mpr hstores)

end HandlerRun

theorem SoleExecute.unique {e e' : Step} {es : List Step} (h : SoleExecute e es) (he' : e' ∈ es)
    (hexec : e'.cmd.isExecute) : e' = e := by
  obtain ⟨before, after, rfl, hothers⟩ := h
  by_contra hne
  refine hothers e' ?_ hexec
  rcases List.mem_append.mp he' with h | h
  · exact List.mem_append_left _ h
  · exact List.mem_append_right _ ((List.mem_cons.mp h).resolve_left hne)

/-- Nothing but the gates keeps a call that runs alone from its handler. -/
theorem run_routeVerified_executes
    (hpre : preflight crates router signed payload env.clock = .ok admitted)
    (hreserve : ReservationGranted env w admitted.routed.context admitted.routed.signerKeyId
      env.clock)
    (huse : scopedUseRequired admitted.routed.context →
      ∃ evidence, UseGranted crates env w admitted.routed.context env.clock evidence)
    (hdispatch : Dispatchable router admitted.routed.context payload env.clock)
    (hid : admitted.routed.context.handlerId = some handlerId) :
    ∃ e ∈ (machine.run env w (routeVerified crates router signed payload)).events,
      e.cmd = .execute handlerId admitted.routed.context payload
        (handlerLimits router admitted.descriptor) := by
  obtain ⟨e, he, hstart⟩ := run_routeVerified_starts hpre hreserve huse hdispatch
  refine ⟨e, he, ?_⟩
  have hmem := he
  rw [run_routeVerified_admitted hpre] at hmem
  have hexec : e.cmd.isExecute := isExecute_of_startedFor hstart
  have hrest : e ∈ (machine.run env w
      (routeAdmitted crates router admitted payload env.clock)).events := by
    refine (List.mem_cons.mp hmem).resolve_left ?_
    rintro rfl
    cases hexec
  obtain ⟨handlerId', hid', -, hcmd⟩ :=
    (routeAdmitted_trace (Machine.run_follows env w _) hrest hexec).started
  cases hid.symm.trans hid'
  exact hcmd

theorem HandlerRun.started {before : List Step} {w' : Tables} {e : Step}
    (h : HandlerRun crates router payload env w (routeVerified crates router signed payload)
      admitted handlerId before w')
    (he : e ∈ (machine.run env w (routeVerified crates router signed payload)).events)
    (hexec : e.cmd.isExecute) :
    e.cmd = .execute handlerId admitted.routed.context payload
      (handlerLimits router admitted.descriptor) := by
  obtain ⟨e', he', hcmd⟩ : ∃ e' ∈ (machine.run env w
      (routeVerified crates router signed payload)).events, e'.cmd = .execute handlerId
        admitted.routed.context payload (handlerLimits router admitted.descriptor) := by
    rw [h.run_eq, run_startHandler]
    exact ⟨_, List.mem_append_right _ (List.mem_append_right _ List.mem_cons_self), rfl⟩
  have hexec' : e'.cmd.isExecute := by
    rw [hcmd]
    rfl
  obtain ⟨env', w₁, rest, _, hes, -, hreached⟩ :=
    routeVerified_trace (Machine.run_follows env w _) he hexec
  rw [hes] at he'
  have hrest : e' ∈ rest := by
    refine (List.mem_cons.mp he').resolve_left ?_
    rintro rfl
    cases hexec'
  rw [← SoleExecute.unique hreached.sole hrest hexec', hcmd]

end

end HandlerRuns
