import SecsMagik.CallContext
import SecsMagik.UniqueTable

/-! # Reservations of portable authorities

Before an authority leaves the node, its session, operation and nonce are reserved in the ledger.
The first version prunes, inserts and selects in three statements of their own, so that calls may
interleave between them; the second does the same in one transaction.
-/
namespace AuthorityLedger

open RustStd
open CallContext (isClockReadFailure clockReadFailureSentinel)
open AtomicPrograms UniqueTable

def authorityReplayScopeV1 : String := "session:operation:nonce"

structure DevgraphAuthorityReplayBindingV1 where
  actorId : String
  audience : String
  expiresAt : UInt64
  idempotencyKeyDigestSha256 : String
  issuedAt : UInt64
  nonce : Bytes 12
  operation : String
  replayScope : String
  receiverPolicyId : String
  receiverPolicyVersion : UInt64
  receiverPolicyDigestSha256 : String
  requestDigestSha256 : String
  resource : String
  secsContextId : String
  secsVerifierKeyId : String
  sessionId : Bytes 16
  walletPresentationDigestSha256 : String
  deriving DecidableEq

/-! ## Rows -/

/-- `UNIQUE(session_id, operation, nonce)` -/
structure ScopeKey where
  sessionId : Bytes 16
  operation : String
  nonce : Bytes 12
  deriving DecidableEq

/-- The columns in which a duplicate has to agree to be an exact one. -/
structure BoundColumns where
  expiresAt : ℤ
  replayScope : String
  actorId : String
  audience : String
  resource : String
  requestDigestSha256 : String
  idempotencyKeyDigestSha256 : String
  receiverPolicyId : String
  receiverPolicyVersion : ℤ
  receiverPolicyDigestSha256 : String
  walletPresentationDigestSha256 : String
  secsContextId : String
  secsVerifierKeyId : String
  issuedAt : ℤ
  deriving DecidableEq

structure Reservation where
  reservedAt : ℤ
  key : ScopeKey
  bound : BoundColumns
  deriving DecidableEq

/-- The row `reserve_devgraph_authority_replay` binds, unless a number exceeds its column. -/
def DevgraphAuthorityReplayBindingV1.row (binding : DevgraphAuthorityReplayBindingV1)
    (reservedAt : UInt64) : Option Reservation := do
  let reservedAt ← tryI64 reservedAt
  let expiresAt ← tryI64 binding.expiresAt
  let issuedAt ← tryI64 binding.issuedAt
  let receiverPolicyVersion ← tryI64 binding.receiverPolicyVersion
  return {
    reservedAt
    key := ⟨binding.sessionId, binding.operation, binding.nonce⟩
    bound := {
      expiresAt
      replayScope := binding.replayScope
      actorId := binding.actorId
      audience := binding.audience
      resource := binding.resource
      requestDigestSha256 := binding.requestDigestSha256
      idempotencyKeyDigestSha256 := binding.idempotencyKeyDigestSha256
      receiverPolicyId := binding.receiverPolicyId
      receiverPolicyVersion
      receiverPolicyDigestSha256 := binding.receiverPolicyDigestSha256
      walletPresentationDigestSha256 := binding.walletPresentationDigestSha256
      secsContextId := binding.secsContextId
      secsVerifierKeyId := binding.secsVerifierKeyId
      issuedAt } }

/-- `PRIMARY KEY(session_id, operation, nonce)` of the second version. -/
structure ScopeKeyV2 where
  sessionId : String
  operation : String
  nonce : String
  deriving DecidableEq

structure ReservationV2 where
  key : ScopeKeyV2
  expiresAt : ℤ
  projection : List UInt8
  deriving DecidableEq

structure Tables where
  reservations : Table Reservation.key
  reservationsV2 : Table ReservationV2.key

def Tables.empty : Tables := ⟨.empty _, .empty _⟩

/-! ## Statements -/

inductive Cmd where
  | readClock
  | deleteExpired (cutoff : ℤ)
  | insert (row : Reservation)
  | select (key : ScopeKey)
  | createV2
  /-- one transaction: delete up to the cutoff, insert or compare, commit -/
  | reserveV2 (cutoff : ℤ) (row : ReservationV2)
  deriving DecidableEq

/-- A statement answers `none` when it failed or found no row. The transaction answers whether the
row was inserted or was there already; otherwise another one has its key. -/
@[reducible] def Cmd.Reply : Cmd → Type
  | .readClock => UInt64
  | .deleteExpired _ => Option ℕ
  | .insert _ => Option ℕ
  | .select _ => Option BoundColumns
  | .createV2 => Option Unit
  | .reserveV2 .. => Option Bool

structure Env where
  clock : UInt64
  fails : Cmd → Bool

namespace Tables

/-- `DELETE FROM devgraph_authority_replay_reservations WHERE expires_at <= ?` -/
def deleteExpired (w : Tables) (cutoff : ℤ) : Option ℕ × Tables :=
  let deleted := w.reservations.deleteWhere (·.bound.expiresAt ≤ cutoff)
  (some deleted.1, { w with reservations := deleted.2 })

/-- `INSERT OR IGNORE`, which also ignores a row that violates the table's `CHECK`. -/
def insert (w : Tables) (row : Reservation) : Option ℕ × Tables :=
  if row.bound.replayScope ≠ authorityReplayScopeV1 then (some 0, w)
  else
    let inserted := w.reservations.insertOrIgnore row
    (some inserted.1, { w with reservations := inserted.2 })

def select (w : Tables) (key : ScopeKey) : Option BoundColumns :=
  (w.reservations.rows.find? (·.key = key)).map Reservation.bound

/-- A transaction that finds another projection under its key is rolled back. -/
def reserveV2 (w : Tables) (cutoff : ℤ) (row : ReservationV2) : Option Bool × Tables :=
  let pruned := (w.reservationsV2.deleteWhere (·.expiresAt ≤ cutoff)).2
  let inserted :=
    if row.key.sessionId.length ≠ 32 ∨ row.key.nonce.length ≠ 32 then (0, pruned)
    else pruned.insertOrIgnore row
  if inserted.1 = 0 then
    match pruned.rows.find? (·.key = row.key) with
    | none => (none, w)
    | some found =>
      if found.projection ≠ row.projection then (some false, w)
      else (some true, { w with reservationsV2 := pruned })
  else (some true, { w with reservationsV2 := inserted.2 })

end Tables

def machine : Machine Cmd.Reply Tables Env where
  exec env w
    | .readClock => (env.clock, w)
    | .deleteExpired cutoff =>
      if env.fails (.deleteExpired cutoff) then (none, w) else w.deleteExpired cutoff
    | .insert row => if env.fails (.insert row) then (none, w) else w.insert row
    | .select key => if env.fails (.select key) then (none, w) else (w.select key, w)
    | .createV2 => if env.fails .createV2 then (none, w) else (some (), w)
    | .reserveV2 cutoff row =>
      if env.fails (.reserveV2 cutoff row) then (none, w) else w.reserveV2 cutoff row

abbrev Program := Prog Cmd.Reply

abbrev Step := Event Cmd Tables Env

def readClock : Program UInt64 := Prog.perform Cmd.readClock

/-! ## The methods of the ledger -/

inductive DevgraphReplayReservationOutcome where
  | reserved | exactDuplicate | scopeConflict
  deriving DecidableEq, Repr

def pruneExpiredDevgraphAuthorityReplayReservations (now : UInt64) : Program (Option ℕ) :=
  if isClockReadFailure now then pure (some 0)
  else match tryI64 now with
    | none => pure none
    | some cutoff => Prog.perform (Cmd.deleteExpired cutoff)

/-- The rows an insert affected decide whether the row that has the key is compared. -/
def reserveRow (row : Reservation) : Program (Option DevgraphReplayReservationOutcome) := do
  match ← (Prog.perform (Cmd.insert row) : Program (Option ℕ)) with
  | none => return none
  | some 1 => return some .reserved
  | some _ =>
    let found ← (Prog.perform (Cmd.select row.key) : Program (Option BoundColumns))
    return found.map fun bound => if bound = row.bound then .exactDuplicate else .scopeConflict

def reserveDevgraphAuthorityReplay (binding : DevgraphAuthorityReplayBindingV1)
    (reservedAt : UInt64) : Program (Option DevgraphReplayReservationOutcome) := do
  match ← pruneExpiredDevgraphAuthorityReplayReservations reservedAt with
  | none => return none
  | some _ =>
    match binding.row reservedAt with
    | none => return none
    | some row => reserveRow row

/-! ## What one statement does to a row -/

variable {row : Reservation}

theorem mem_of_select {w : Tables} {key : ScopeKey} {bound : BoundColumns}
    (h : w.select key = some bound) :
    ∃ row ∈ w.reservations.rows, row.key = key ∧ row.bound = bound := by
  obtain ⟨row, hfind, hbound⟩ := Option.map_eq_some_iff.mp h
  exact ⟨row, List.mem_of_find?_eq_some hfind, by simpa using List.find?_some hfind, hbound⟩

def Cmd.cutoff : Cmd → Option ℤ
  | .deleteExpired cutoff | .reserveV2 cutoff _ => some cutoff
  | .readClock | .insert _ | .select _ | .createV2 => none

/-- No statement but a prune that has come to `expiry` takes `P` away. -/
def KeptUntil (expiry : ℤ) (P : Tables → Prop) : Prop :=
  ∀ e : Step, P e.before → (∀ cutoff, e.cmd.cutoff = some cutoff → cutoff < expiry) →
    P (machine.after e)

theorem row_kept (row : Reservation) :
    KeptUntil row.bound.expiresAt (row ∈ ·.reservations.rows) := by
  intro e hrow hcutoff
  obtain ⟨env, w, cmd⟩ := e
  cases cmd with
  | readClock => exact hrow
  | deleteExpired cutoff =>
    have hlt := hcutoff cutoff rfl
    simp only [Machine.after, machine]
    split_ifs
    · exact hrow
    · exact Table.mem_deleteWhere.mpr ⟨hrow, by simpa using hlt⟩
  | insert new =>
    simp only [Machine.after, machine, Tables.insert]
    split_ifs
    · exact hrow
    · exact hrow
    · exact Table.mem_insertOrIgnore_of_mem hrow
  | select key =>
    simp only [Machine.after, machine]
    split_ifs <;> exact hrow
  | createV2 =>
    simp only [Machine.after, machine]
    split_ifs <;> exact hrow
  | reserveV2 cutoff new =>
    have hkeep : (e : Option Bool × Tables) → e = w.reserveV2 cutoff new →
        e.2.reservations = w.reservations := by
      rintro _ rfl
      simp only [Tables.reserveV2]
      split_ifs <;> (try split) <;> (try split_ifs) <;> rfl
    simp only [Machine.after, machine]
    split_ifs
    · exact hrow
    · rw [hkeep _ rfl]
      exact hrow

/-! ## What a reservation leaves behind -/

/-- How a reservation that did not conflict ended: its last statement left a row with its key and
its columns, and a fresh one found the key free. -/
structure Settled (row : Reservation) (outcome : DevgraphReplayReservationOutcome) (last : Step) :
    Prop where
  held : ∃ found ∈ (machine.after last).reservations.rows,
    found.key = row.key ∧ found.bound = row.bound
  fresh : outcome = .reserved → row.key ∉ last.before.reservations.keys
  no_prune : last.cmd.cutoff = none

theorem settled_of_insert {env : Env} {w : Tables}
    (h : (machine.exec env w (.insert row)).1 = some 1) :
    Settled row .reserved ⟨env, w, .insert row⟩ := by
  simp only [machine, Tables.insert] at h
  split_ifs at h with hfails hscope
  · cases h
  · have hnonzero : (w.reservations.insertOrIgnore row).1 ≠ 0 := by
      rw [Option.some.inj h]
      decide
    obtain ⟨hfresh, hmem⟩ := Table.insertOrIgnore_fresh hnonzero
    refine ⟨⟨row, ?_, rfl, rfl⟩, fun _ => hfresh, rfl⟩
    simp only [Machine.after, machine, Tables.insert, if_neg hfails, if_neg hscope]
    exact hmem

theorem settled_of_select {env : Env} {w : Tables}
    (h : (machine.exec env w (.select row.key)).1 = some row.bound) :
    Settled row .exactDuplicate ⟨env, w, .select row.key⟩ := by
  simp only [machine] at h
  split_ifs at h with hfails
  obtain ⟨found, hfound, hkey, hbound⟩ := mem_of_select h
  refine ⟨⟨found, ?_, hkey, hbound⟩, nofun, rfl⟩
  simp only [Machine.after, machine, if_neg hfails]
  exact hfound

variable {outcome : DevgraphReplayReservationOutcome}

theorem settled_of_reserveRow {es : List Step}
    (h : machine.Follows (reserveRow row) es (.done (some outcome)))
    (hconflict : outcome ≠ .scopeConflict) :
    ∃ front last, es = front ++ [last] ∧ Settled row outcome last := by
  obtain ⟨env, w, rest, rfl, hrest⟩ := h.step_done
  simp only [Prog.bind] at hrest
  split at hrest
  · cases hrest.done_inv.2
  · next hone =>
      obtain ⟨rfl, hdone⟩ := hrest.done_inv
      cases hdone
      exact ⟨[], _, rfl, settled_of_insert hone⟩
  · -- the key was taken, and the row that has it is compared
    obtain ⟨env', w', rest, rfl, hlast⟩ := hrest.step_done
    obtain ⟨rfl, hdone⟩ := hlast.done_inv
    refine ⟨[_], _, rfl, ?_⟩
    obtain ⟨bound, hbound, houtcome⟩ := Option.map_eq_some_iff.mp (Prog.done.inj hdone).symm
    split_ifs at houtcome with heq
    · subst houtcome heq
      exact settled_of_select hbound
    · exact absurd houtcome.symm hconflict

theorem settled_of_reserve {binding : DevgraphAuthorityReplayBindingV1} {reservedAt : UInt64}
    {es : List Step}
    (h : machine.Follows (reserveDevgraphAuthorityReplay binding reservedAt) es
      (.done (some outcome))) (hconflict : outcome ≠ .scopeConflict) :
    ∃ row front last, binding.row reservedAt = some row ∧ es = front ++ [last] ∧
      Settled row outcome last := by
  obtain ⟨pruned, es₁, es₂, rfl, -, h⟩ := h.bind_done
  cases pruned with
  | none => cases h.done_inv.2
  | some n =>
    cases hrow : binding.row reservedAt with
    | none =>
      simp only [hrow] at h
      cases h.done_inv.2
    | some row =>
      simp only [hrow] at h
      obtain ⟨front, last, rfl, hsettled⟩ := settled_of_reserveRow h hconflict
      exact ⟨row, es₁ ++ front, last, rfl, by rw [List.append_assoc], hsettled⟩

/-- A later reservation of a key whose row is still there agrees with that row, and is a
duplicate. -/
theorem Settled.agrees {row found : Reservation} {last : Step} (h : Settled row outcome last)
    (hfound : found ∈ last.before.reservations.rows) (hkey : found.key = row.key) :
    outcome ≠ .reserved ∧ row.bound = found.bound := by
  constructor
  · intro hreserved
    exact h.fresh hreserved ⟨found, hfound, hkey⟩
  · obtain ⟨held, hheld, hheldKey, hbound⟩ := h.held
    have hkept := row_kept found last hfound (by simp [h.no_prune])
    have heq := (machine.after last).reservations.eq_of_key_eq hheld hkept
      (hheldKey.trans hkey.symm)
    rw [← hbound, heq]

/-! ## Rows over a whole run -/

def PrunesAt (now : UInt64) (c : Cmd) : Prop :=
  ∀ cutoff, c.cutoff = some cutoff → now ≠ clockReadFailureSentinel ∧ cutoff = now.toNat

theorem prune_only (now : UInt64) :
    (pruneExpiredDevgraphAuthorityReplayReservations now).Only (PrunesAt now) := by
  unfold pruneExpiredDevgraphAuthorityReplayReservations
  by_cases hclock : isClockReadFailure now
  · rw [if_pos hclock]
    trivial
  · rw [if_neg hclock, tryI64]
    by_cases hlt : now.toNat < 2 ^ 63
    · rw [if_pos hlt]
      apply Prog.only_perform
      intro cutoff hcutoff
      exact ⟨by simpa [isClockReadFailure] using hclock, (Option.some.inj hcutoff).symm⟩
    · rw [if_neg hlt]
      trivial

theorem reserveRow_only (row : Reservation) (now : UInt64) :
    (reserveRow row).Only (PrunesAt now) := by
  refine ⟨nofun, fun affected => ?_⟩
  change Prog.Only _ (match affected with | none => _ | some 1 => _ | some _ => _)
  split
  · trivial
  · trivial
  · exact ⟨nofun, fun _ => trivial⟩

theorem reserve_only (binding : DevgraphAuthorityReplayBindingV1) (now : UInt64) :
    (reserveDevgraphAuthorityReplay binding now).Only (PrunesAt now) := by
  refine (prune_only now).bind fun pruned => ?_
  cases pruned with
  | none => trivial
  | some n =>
    cases binding.row now with
    | none => trivial
    | some row => exact reserveRow_only row now

/-- A call that reads the clock first and deletes by that reading only. -/
def Timed {α : Type} (p : Program α) : Prop :=
  ∃ body : UInt64 → Program α, p = readClock >>= body ∧ ∀ now, (body now).Only (PrunesAt now)

theorem Timed.cutoff_read {α : Type} {p q : Program α} (hp : Timed p) {before after : List Step}
    {d : Step} (h : machine.Follows p (before ++ d :: after) q) {cutoff : ℤ}
    (hcutoff : d.cmd.cutoff = some cutoff) :
    ∃ r ∈ before, r.env.clock ≠ clockReadFailureSentinel ∧ cutoff = r.env.clock.toNat := by
  obtain ⟨body, rfl, hbody⟩ := hp
  rw [readClock, Prog.perform_bind] at h
  cases before with
  | nil =>
    cases h with
    | step h => cases hcutoff
  | cons r before =>
    cases h with
    | step h =>
      refine ⟨_, List.mem_cons_self, h.only (hbody _) d ?_ cutoff hcutoff⟩
      exact List.mem_append_right _ List.mem_cons_self

section Pool

variable {T α : Type} [DecidableEq T] {progs : T → Program α} {w : Tables}
  {schedule : List (T × Env)} {before between after : List (T × Step)}

/-- The clock never goes back, failed readings apart. -/
def ClockOrdered (schedule : List (T × Env)) : Prop :=
  schedule.Pairwise fun x y => x.2.clock ≠ clockReadFailureSentinel →
    y.2.clock ≠ clockReadFailureSentinel → x.2.clock ≤ y.2.clock

instance (schedule : List (T × Env)) : Decidable (ClockOrdered schedule) :=
  inferInstanceAs (Decidable (schedule.Pairwise _))

/-- No statement before an entry of the log deletes beyond the time of that entry. -/
theorem cutoff_le (hprogs : ∀ t, Timed (progs t)) (hclock : ClockOrdered schedule)
    {entry : T × Step} (hlog : (Pool.run machine progs w schedule).log = before ++ entry :: after)
    (hentry : entry.2.env.clock ≠ clockReadFailureSentinel) {d : T × Step} (hd : d ∈ before)
    {cutoff : ℤ} (hcutoff : d.2.cmd.cutoff = some cutoff) : cutoff ≤ entry.2.env.clock.toNat := by
  obtain ⟨front, back, rfl⟩ := List.append_of_mem hd
  have hfollows := Pool.run_follows (M := machine) progs w schedule d.1
  have hevents : Pool.eventsOf d.1 ((front ++ d :: back) ++ entry :: after) =
      Pool.eventsOf d.1 front ++ d.2 :: Pool.eventsOf d.1 (back ++ entry :: after) := by
    simp [Pool.eventsOf]
  rw [hlog, hevents] at hfollows
  obtain ⟨r, hr, hread, rfl⟩ := (hprogs d.1).cutoff_read hfollows hcutoff
  -- the reading and the entry are turns of the schedule, in this order
  have hordered := hclock.sublist (Pool.log_sublist_schedule (M := machine) progs w schedule)
  rw [hlog, List.pairwise_map, List.pairwise_append] at hordered
  have hle := hordered.2.2 (d.1, r)
    (List.mem_append_left _ (Pool.mem_eventsOf.mp hr)) entry List.mem_cons_self hread hentry
  exact Int.ofNat_le.mpr (UInt64.le_iff_toNat_le.mp hle)

/-- What a statement left behind is still there at a later entry before its expiry. -/
theorem lasts {expiry : ℤ} {P : Tables → Prop} (hkept : KeptUntil expiry P)
    (hprogs : ∀ t, Timed (progs t)) (hclock : ClockOrdered schedule) {x entry : T × Step}
    (hlog : (Pool.run machine progs w schedule).log = before ++ x :: (between ++ entry :: after))
    (hx : P (machine.after x.2)) (hentry : entry.2.env.clock ≠ clockReadFailureSentinel)
    (htime : entry.2.env.clock.toNat < expiry) : P entry.2.before := by
  have hchain := Pool.run_chained (M := machine) progs w schedule
  rw [hlog, List.map_append, List.map_cons, List.map_append, List.map_cons] at hchain
  obtain ⟨w₁, -, hchain⟩ := hchain.split
  cases hchain with
  | cons hchain =>
    obtain ⟨w₂, hbetween, hend⟩ := hchain.split
    cases hend with
    | cons hend =>
      refine hbetween.invariant (fun d hd hP => hkept d hP fun cutoff hcutoff => ?_) hx
      obtain ⟨entry', hmem, rfl⟩ := List.mem_map.mp hd
      have hassoc : before ++ x :: (between ++ entry :: after) =
          (before ++ x :: between) ++ entry :: after := by simp
      rw [hassoc] at hlog
      have hle := cutoff_le hprogs hclock hlog hentry
        (List.mem_append_right _ (List.mem_cons_of_mem _ hmem)) hcutoff
      omega

end Pool

end AuthorityLedger
