import SecsMagik.Ledger

/-! # The machine the gateway runs on

A routed call is a program of atomic commands: reading the clock, one SQL statement, or running a
handler. A statement that fails leaves the tables as they were.
-/
namespace GatewayMachine

open RustStd
open ExternalCrates (Crates)
open CallContext
open ScopedNullifier (ScopedNullifierEvidence)
open Receipts (Receipt ReceiptEventKind)
open Ledger AtomicPrograms UniqueTable

structure HandlerOutcome where
  decision : Decision
  reason : Option String
  output : Option (List UInt8)
  deriving DecidableEq

namespace HandlerOutcome

def succeeded : HandlerOutcome := ⟨.accepted, none, none⟩

def succeededWithOutput (output : List UInt8) : HandlerOutcome := ⟨.accepted, none, some output⟩

def rejected (reason : String) : HandlerOutcome := ⟨.rejected, some reason, none⟩

end HandlerOutcome

structure ExecutionLimits where
  maxPayloadBytes : ℕ
  maxOutputBytes : ℕ
  handlerTimeout : ℕ
  deriving DecidableEq

inductive Cmd where
  | readClock
  | sql (statement : Statement)
  | execute (handlerId : String) (context : VerifiedCallContext) (payload : List UInt8)
      (limits : ExecutionLimits)
  deriving DecidableEq

/-- A statement answers with the rows it affected, or `none` when it failed; a handler answers
with its outcome, or `none` when it ran into the timeout. -/
@[reducible] def Cmd.Reply : Cmd → Type
  | .readClock => UInt64
  | .sql _ => Option ℕ
  | .execute .. => Option HandlerOutcome

/-- What lies outside the gateway: the wall clock, which statements fail, what handlers do. -/
structure Env where
  clock : UInt64
  fails : Statement → Bool
  handler : String → VerifiedCallContext → List UInt8 → ExecutionLimits → Option HandlerOutcome

def machine : Machine Cmd.Reply Tables Env where
  exec env w
    | .readClock => (env.clock, w)
    | .sql statement => if env.fails statement then (none, w) else w.apply statement
    | .execute handlerId context payload limits => (env.handler handlerId context payload limits, w)

abbrev Program := Prog Cmd.Reply

abbrev Step := Event Cmd Tables Env

def readClock : Program UInt64 := Prog.perform Cmd.readClock

def sql (statement : Statement) : Program (Option ℕ) := Prog.perform (Cmd.sql statement)

@[simp] theorem readClock_bind {α : Type} (f : UInt64 → Program α) :
    (readClock >>= f) = .step Cmd.readClock f := rfl

@[simp] theorem sql_bind {α : Type} (statement : Statement) (f : Option ℕ → Program α) :
    (sql statement >>= f) = .step (Cmd.sql statement) f := rfl

/-! ## The methods of the ledger -/

inductive ReplayReservationOutcome where
  | reserved | duplicate
  deriving DecidableEq, Repr

inductive ScopedNullifierUseOutcome where
  | recorded | duplicate
  deriving DecidableEq, Repr

/-- Under the sentinel of a failed clock read nothing is deleted. -/
def pruneExpiredReplayReservations (now : UInt64) : Program (Option ℕ) :=
  if isClockReadFailure now then pure (some 0)
  else sql (.deleteExpiredReplay (asI64 now))

def pruneExpiredDevgraphAuthorityReplayReservations (now : UInt64) : Program (Option ℕ) :=
  if isClockReadFailure now then pure (some 0)
  else match tryI64 now with
    | none => pure none
    | some cutoff => sql (.deleteExpiredDevgraph cutoff)

def initSchema : Program (Option Unit) := do
  match ← sql .applySchema with
  | none => return none
  | some _ =>
    let now ← readClock
    let _ ← pruneExpiredReplayReservations now
    let _ ← pruneExpiredDevgraphAuthorityReplayReservations now
    return some ()

def reserveReplay (context : VerifiedCallContext) (signerKeyId : String) (reservedAt : UInt64) :
    Program (Option ReplayReservationOutcome) := do
  let _ ← pruneExpiredReplayReservations reservedAt
  match ← sql (.insertReplay (replayReservation context signerKeyId reservedAt)) with
  | none => return none
  | some 0 => return some .duplicate
  | some _ => return some .reserved

def recordScopedNullifierUse (crates : Crates) (evidence : ScopedNullifierEvidence)
    (context : VerifiedCallContext) (recordedAt : UInt64) :
    Program (Option ScopedNullifierUseOutcome) := do
  match ← sql (.insertScopedUse (scopedNullifierUse crates evidence context recordedAt)) with
  | none => return none
  | some 0 => return some .duplicate
  | some _ => return some .recorded

def recordEvent (event : AuditEvent) : Program (Option Unit) := do
  let affected ← sql (.insertEvent event)
  return affected.map fun _ => ()

def emittedEvent (receipt : Receipt) : AuditEvent where
  timestamp := asI64 receipt.timestamp
  eventKind := .receiptEmitted
  packetHash := some receipt.packetHash
  opcode := some receipt.opcode
  operation := receipt.operation
  handlerId := receipt.handlerId
  reason := some receipt.kind.asStr

def recordReceiptWithEmittedEvent (receipt : Receipt) : Program (Option Unit) := do
  let affected ← sql (.insertReceiptWithEvent receipt (emittedEvent receipt))
  return affected.map fun _ => ()

/-! ## What a step does to the reservations and uses -/

/-- The step put `row` into the reservation table, where its key was free. -/
structure Reserves (e : Step) (row : ReplayReservation) : Prop where
  cmd : e.cmd = .sql (.insertReplay row)
  fresh : row.key ∉ e.before.replayReservations.keys
  stored : row ∈ (machine.after e).replayReservations.rows

/-- The step put `row` into the table of scoped uses, where its key was free. -/
structure RecordsUse (e : Step) (row : ScopedNullifierUse) : Prop where
  cmd : e.cmd = .sql (.insertScopedUse row)
  fresh : row.key ∉ e.before.scopedNullifierUses.keys
  stored : row ∈ (machine.after e).scopedNullifierUses.rows

theorem exec_sql_of_reply {env : Env} {w : Tables} {statement : Statement} {n : ℕ}
    (h : (machine.exec env w (.sql statement)).1 = some n) :
    machine.exec env w (.sql statement) = w.apply statement := by
  by_cases hfails : env.fails statement
  · simp [machine, hfails] at h
  · simp [machine, hfails]

theorem reserves_of_reply {env : Env} {w : Tables} {row : ReplayReservation} {n : ℕ}
    (h : (machine.exec env w (.sql (.insertReplay row))).1 = some n) (hn : n ≠ 0) :
    Reserves ⟨env, w, .sql (.insertReplay row)⟩ row := by
  have hexec := exec_sql_of_reply h
  rw [hexec] at h
  obtain ⟨hfresh, hstored⟩ := Table.insertOrIgnore_fresh (Option.some.inj h ▸ hn)
  exact ⟨rfl, hfresh, by rw [Machine.after, hexec]; exact hstored⟩

theorem recordsUse_of_reply {env : Env} {w : Tables} {row : ScopedNullifierUse} {n : ℕ}
    (h : (machine.exec env w (.sql (.insertScopedUse row))).1 = some n) (hn : n ≠ 0) :
    RecordsUse ⟨env, w, .sql (.insertScopedUse row)⟩ row := by
  have hexec := exec_sql_of_reply h
  rw [hexec] at h
  obtain ⟨hfresh, hstored⟩ := Table.insertOrIgnore_fresh (Option.some.inj h ▸ hn)
  exact ⟨rfl, hfresh, by rw [Machine.after, hexec]; exact hstored⟩

theorem after_eq (e : Step) :
    machine.after e = e.before ∨
      ∃ statement, e.cmd = .sql statement ∧ machine.after e = (e.before.apply statement).2 := by
  obtain ⟨env, w, c⟩ := e
  cases c with
  | readClock => exact .inl rfl
  | execute => exact .inl rfl
  | sql statement =>
    by_cases hfails : env.fails statement
    · exact .inl (by simp [Machine.after, machine, hfails])
    · exact .inr ⟨statement, rfl, by simp [Machine.after, machine, hfails]⟩

/-- A reservation disappears only through a prune whose cutoff lies after its expiry. -/
theorem replay_row_lost {e : Step} {row : ReplayReservation}
    (hbefore : row ∈ e.before.replayReservations.rows)
    (hafter : row ∉ (machine.after e).replayReservations.rows) :
    ∃ cutoff, e.cmd = .sql (.deleteExpiredReplay cutoff) ∧ row.expiresAt < cutoff := by
  rcases after_eq e with heq | ⟨statement, hcmd, heq⟩
  · exact absurd (heq ▸ hbefore) hafter
  · rw [heq] at hafter
    cases statement with
    | deleteExpiredReplay cutoff =>
      refine ⟨cutoff, hcmd, ?_⟩
      by_contra hle
      exact hafter (Tables.mem_deleteExpiredReplay.mpr ⟨hbefore, not_lt.mp hle⟩)
    | insertReplay row' => exact absurd (Table.mem_insertOrIgnore_of_mem hbefore) hafter
    | insertReceiptWithEvent receipt event =>
      refine absurd ?_ hafter
      simp only [Tables.apply, Tables.insertReceiptWithEvent]
      split <;> exact hbefore
    | applySchema | deleteExpiredDevgraph | insertScopedUse | insertEvent | insertTelemetry =>
      exact absurd hbefore hafter

/-- Between two reservations of one key lies a prune that deleted the first. -/
theorem pruned_between {w w' : Tables} {es₁ es₂ es₃ : List Step} {e e' : Step}
    {row row' : ReplayReservation}
    (hchain : machine.Chained w (es₁ ++ e :: (es₂ ++ e' :: es₃)) w')
    (he : Reserves e row) (he' : Reserves e' row') (hkey : row.key = row'.key) :
    ∃ d ∈ es₂, ∃ cutoff, d.cmd = .sql (.deleteExpiredReplay cutoff) ∧ row.expiresAt < cutoff := by
  obtain ⟨w₁, -, hrest⟩ := hchain.split
  cases hrest with
  | cons hrest =>
    obtain ⟨w₂, hmid, hlast⟩ := hrest.split
    cases hlast with
    | cons hlast =>
      have hgone : row ∉ e'.before.replayReservations.rows := fun hmem =>
        he'.fresh ⟨row, hmem, hkey⟩
      obtain ⟨d, hd, hbefore, hafter⟩ := hmid.exists_break
        (P := fun w => row ∈ w.replayReservations.rows) he.stored hgone
      exact ⟨d, hd, replay_row_lost hbefore hafter⟩

/-! ## What the ledger methods issue -/

/-- Writes to the audit tables: events, telemetry and receipts. -/
def Cmd.isAudit : Cmd → Bool
  | .sql (.insertEvent _) | .sql (.insertTelemetry _) | .sql (.insertReceiptWithEvent ..) => true
  | _ => false

def Cmd.isExecute : Cmd → Bool
  | .execute .. => true
  | _ => false

def startedFor : Cmd → Option VerifiedCallContext
  | .execute _ context _ _ => some context
  | _ => none

theorem isExecute_of_startedFor {c : Cmd} {context : VerifiedCallContext}
    (h : startedFor c = some context) : c.isExecute := by
  cases c with
  | execute => rfl
  | readClock | sql => cases h

/-- The handlers started in a log: the thread that started each, and the expiry of its context. -/
def startsIn {T : Type} (log : List (T × Step)) : List (T × UInt64) :=
  log.filterMap fun entry => (startedFor entry.2.cmd).map fun context =>
    (entry.1, context.expiresAt)

theorem exists_of_startsIn {T : Type} {log : List (T × Step)} {starts : List (T × UInt64)}
    (h : startsIn log = starts) {t : T} (ht : t ∈ starts.map Prod.fst) :
    ∃ e, (t, e) ∈ log ∧ e.cmd.isExecute := by
  obtain ⟨entry, hentry, rfl⟩ := List.mem_map.mp ht
  rw [← h] at hentry
  obtain ⟨⟨t, e⟩, he, hentry⟩ := List.mem_filterMap.mp hentry
  obtain ⟨context, hstart, hentry⟩ := Option.map_eq_some_iff.mp hentry
  rw [← hentry]
  exact ⟨e, he, isExecute_of_startedFor hstart⟩

/-- The prune that a call with clock reading `now` may issue. -/
def PrunesAt (now : UInt64) (c : Cmd) : Prop :=
  now ≠ clockReadFailureSentinel ∧ c = .sql (.deleteExpiredReplay (asI64 now))

theorem prune_only (now : UInt64) : (pruneExpiredReplayReservations now).Only (PrunesAt now) := by
  unfold pruneExpiredReplayReservations
  split
  · trivial
  · next hclock => exact Prog.only_perform ⟨by simpa [isClockReadFailure] using hclock, rfl⟩

theorem recordEvent_only (event : AuditEvent) : (recordEvent event).Only (·.isAudit) := by
  unfold recordEvent
  exact Prog.Only.bind (Prog.only_perform rfl) fun _ => trivial

theorem recordReceiptWithEmittedEvent_only (receipt : Receipt) :
    (recordReceiptWithEmittedEvent receipt).Only (·.isAudit) := by
  unfold recordReceiptWithEmittedEvent
  exact Prog.Only.bind (Prog.only_perform rfl) fun _ => trivial

theorem reserveReplay_only (context : VerifiedCallContext) (signerKeyId : String)
    (reservedAt : UInt64) :
    (reserveReplay context signerKeyId reservedAt).Only fun c =>
      PrunesAt reservedAt c ∨
        c = .sql (.insertReplay (replayReservation context signerKeyId reservedAt)) := by
  refine ((prune_only reservedAt).mono fun c => .inl).bind fun _ => ?_
  refine (Prog.only_perform (.inr rfl)).bind fun affected => ?_
  split <;> trivial

theorem recordScopedNullifierUse_only (crates : Crates) (evidence : ScopedNullifierEvidence)
    (context : VerifiedCallContext) (recordedAt : UInt64) :
    (recordScopedNullifierUse crates evidence context recordedAt).Only fun c =>
      c = .sql (.insertScopedUse (scopedNullifierUse crates evidence context recordedAt)) := by
  unfold recordScopedNullifierUse
  refine Prog.Only.bind (Prog.only_perform rfl) fun affected => ?_
  split <;> trivial

theorem reserveReplay_reserved {context : VerifiedCallContext} {signerKeyId : String}
    {reservedAt : UInt64} {es : List Step}
    (h : machine.Follows (reserveReplay context signerKeyId reservedAt) es
      (.done (some .reserved))) :
    ∃ e ∈ es, Reserves e (replayReservation context signerKeyId reservedAt) := by
  obtain ⟨_, es₁, es₂, rfl, -, hinsert⟩ := h.bind_done
  rw [sql_bind] at hinsert
  obtain ⟨env, w, es₃, rfl, hend⟩ := hinsert.step_done
  refine ⟨_, List.mem_append_right _ List.mem_cons_self, ?_⟩
  rcases hreply : (machine.exec env w
      (.sql (.insertReplay (replayReservation context signerKeyId reservedAt)))).1 with - | _ | n
  · rw [hreply] at hend
    cases hend.done_inv.2
  · rw [hreply] at hend
    cases hend.done_inv.2
  · exact reserves_of_reply hreply (Nat.succ_ne_zero n)

theorem recordScopedNullifierUse_recorded {crates : Crates} {evidence : ScopedNullifierEvidence}
    {context : VerifiedCallContext} {recordedAt : UInt64} {es : List Step}
    (h : machine.Follows (recordScopedNullifierUse crates evidence context recordedAt) es
      (.done (some .recorded))) :
    ∃ e ∈ es, RecordsUse e (scopedNullifierUse crates evidence context recordedAt) := by
  unfold recordScopedNullifierUse at h
  rw [sql_bind] at h
  obtain ⟨env, w, es', rfl, hend⟩ := h.step_done
  refine ⟨_, List.mem_cons_self, ?_⟩
  rcases hreply : (machine.exec env w
      (.sql (.insertScopedUse (scopedNullifierUse crates evidence context recordedAt)))).1 with
    - | _ | n
  · rw [hreply] at hend
    cases hend.done_inv.2
  · rw [hreply] at hend
    cases hend.done_inv.2
  · exact recordsUse_of_reply hreply (Nat.succ_ne_zero n)

end GatewayMachine
