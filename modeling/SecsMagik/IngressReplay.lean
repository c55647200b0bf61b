import SecsMagik.IngressEvidence
import SecsMagik.ReplayProtection

/-! # Replayed bytes

The expiry of a context is computed when its bytes arrive, and its reservation lives until then. The
same bytes therefore start a handler again once that time has passed, and not before.
-/
namespace IngressReplay

open RustStd
open ExternalCrates (Crates)
open CallContext ReceiverManifest CallVerifier ScopedNullifier Ledger AtomicPrograms GatewayMachine
open GatewayRouter RouterTraces RouterRuns LedgerCalls ReplayProtection IngressFraming
open IngressGateway

/-- What a receiver process does with its ledger: it migrates it at its start and serves
connections. -/
inductive Task where
  | initSchema
  | connection (stream : List UInt8) (sequence : UInt64)

def Task.program (crates : Crates) (receiver : Receiver) : Task → Program Unit
  | .initSchema => do
    let _ ← GatewayMachine.initSchema
    return ()
  | .connection stream sequence => do
    let _ ← receiver.handleGatewayConnectionWithLimits crates stream sequence
    return ()

section

variable {crates : Crates} {receiver : Receiver} {es : List Step}

theorem prunesByClock_of_rejection (h : ∀ e ∈ es, Cmd.isRejection e.cmd) : PrunesByClock es := by
  intro before d after hes cutoff hcmd
  have hd := h d (by rw [hes]; exact List.mem_append_right _ List.mem_cons_self)
  rw [hcmd] at hd
  rcases hd with hd | hd <;> cases hd

theorem Task.prunesByClock {task : Task} {q : Program Unit}
    (h : machine.Follows (task.program crates receiver) es q) : PrunesByClock es := by
  cases task with
  | initSchema =>
    obtain ⟨q', h⟩ := h.of_bind_const
    exact initSchema_prunesByClock h
  | connection stream sequence =>
    obtain ⟨q', h⟩ := h.of_bind_const
    rcases connection_cases h with hrejected | ⟨request, opened, signed, env, rest, haccepted⟩
    · exact prunesByClock_of_rejection hrejected
    · obtain ⟨w, rfl⟩ := haccepted.trace
      obtain ⟨q', hroute⟩ := haccepted.routed
      exact (routeVerified_prunesByClock hroute).cons nofun

/-- The context was issued for the bytes when they arrived, and lives for the packet's own time. -/
structure IssuedOnArrival (crates : Crates) (receiver : Receiver) (stream : List UInt8)
    (es : List Step) (context : VerifiedCallContext) (request : DecodedIngressRequest)
    (d : OperationDescriptor) : Prop where
  decoded : readBoundedIngressRequest crates stream receiver.maxWireBytes = .ok (some request)
  found : receiver.router.manifest.lookup request.packet.opcode = .ok d
  reading : ∃ r ∈ es, r.cmd = .readClock ∧ r.env.clock = context.issuedAt
  expires : context.expiresAt = saturatingAdd context.issuedAt request.packet.claimTtl
  key : replayKey context = ⟨request.packet.sessionId, request.packet.opcode, request.packet.nonce,
    replayScopeName d.replayScope⟩

/-- A connection that starts a handler has issued its context and reserved it. -/
theorem connection_started {stream : List UInt8} {sequence : UInt64} {q : Program Unit}
    (h : machine.Follows ((Task.connection stream sequence).program crates receiver) es q)
    {e : Step}
    (he : e ∈ es) {context : VerifiedCallContext} (hstart : startedFor e.cmd = some context) :
    (∃ request d, IssuedOnArrival crates receiver stream es context request d) ∧
      ∃ r ∈ es, ∃ row, Reserves r row ∧ row.key = replayKey context ∧
        row.expiresAt = asI64 context.expiresAt := by
  obtain ⟨q', h⟩ := h.of_bind_const
  obtain ⟨request, opened, signed, env, rest, haccepted, hrest⟩ :=
    accepted_of_execute h he (isExecute_of_startedFor hstart)
  obtain ⟨w, rfl⟩ := haccepted.trace
  obtain ⟨q', hroute⟩ := haccepted.routed
  obtain ⟨⟨projection, rfl⟩, hintime⟩ := routeVerified_started hroute hrest hstart
  obtain ⟨r, hr, row, hreserves, hkey, hexpires⟩ := hintime.reserved
  obtain ⟨d, subject, summary, resource, hd, -, hsigned⟩ :=
    issued_of_signedContextFor haccepted.verified
  have hreading : env.clock = signed.context.issuedAt := by rw [hsigned]; rfl
  refine ⟨⟨request, d, haccepted.decoded, hd.found, ⟨_, List.mem_cons_self, rfl, hreading⟩, ?_, ?_⟩,
    r, List.mem_cons_of_mem _ hr, row, hreserves, hkey, hexpires⟩
  · rw [hsigned]
    rfl
  · rw [hsigned]
    rfl

theorem connection_starts_le_one {stream : List UInt8} {sequence : UInt64} {q : Program Unit}
    (h : machine.Follows ((Task.connection stream sequence).program crates receiver) es q) :
    (starts es).length ≤ 1 := by
  obtain ⟨q', h⟩ := h.of_bind_const
  by_cases hnone : starts es = []
  · simp [hnone]
  · obtain ⟨e, he⟩ := List.exists_mem_of_ne_nil _ hnone
    obtain ⟨hmem, hexec⟩ := List.mem_filter.mp he
    obtain ⟨request, opened, signed, env, rest, haccepted, -⟩ := accepted_of_execute h hmem hexec
    obtain ⟨w, rfl⟩ := haccepted.trace
    obtain ⟨q', hroute⟩ := haccepted.routed
    have hclock : starts (⟨env, w, .readClock⟩ :: rest) = starts rest := rfl
    rw [hclock]
    exact routeVerified_starts_le_one hroute

theorem IssuedOnArrival.same_key {stream : List UInt8} {es' : List Step}
    {context context' : VerifiedCallContext} {request request' : DecodedIngressRequest}
    {d d' : OperationDescriptor}
    (h : IssuedOnArrival crates receiver stream es context request d)
    (h' : IssuedOnArrival crates receiver stream es' context' request' d') :
    replayKey context = replayKey context' := by
  have hrequest : request = request' :=
    Option.some.inj (Except.ok.inj (h.decoded.symm.trans h'.decoded))
  have hd : d = d' := by
    have hfound := h.found
    rw [hrequest] at hfound
    exact Except.ok.inj (hfound.symm.trans h'.found)
  rw [h.key, h'.key, hrequest, hd]

end

section

variable {crates : Crates} {receiver : Receiver} {T : Type} [DecidableEq T] {tasks : T → Task}
  {w : Tables} {schedule : List (T × Env)}

/-- Of two reservations of one key, the first was deleted by a prune that went by a reading past its
expiry. -/
theorem reading_past_expiry {before mid after : List (T × Step)} {t t' : T} {r r' : Step}
    {row row' : ReplayReservation} {expiresAt : UInt64}
    (hlog : (Pool.run machine (fun t => (tasks t).program crates receiver) w schedule).log =
      before ++ (t, r) :: (mid ++ (t', r') :: after))
    (hreserves : Reserves r row) (hreserves' : Reserves r' row') (hkey : row.key = row'.key)
    (hexpires : row.expiresAt = asI64 expiresAt) (hbound : expiresAt.toNat < 2 ^ 63) :
    ∃ x ∈ (Pool.run machine (fun t => (tasks t).program crates receiver) w schedule).log,
      x.2.env.clock ≠ clockReadFailureSentinel ∧ expiresAt < x.2.env.clock := by
  have hchain := Pool.run_chained (M := machine) (fun t => (tasks t).program crates receiver) w
    schedule
  rw [hlog, List.map_eq_flatMap] at hchain
  obtain ⟨z, hz, d, hd, cutoff, hcmd, hlt⟩ := pruned_in_log (fun entry : T × Step => [entry.2])
    hchain List.mem_cons_self List.mem_cons_self hreserves hreserves' hkey
  rw [List.mem_singleton.mp hd] at hcmd
  have hzlog : z ∈ (Pool.run machine
      (fun t => (tasks t).program crates receiver) w schedule).log := by
    rw [hlog]
    simp only [List.cons_append, List.mem_cons, List.mem_append, List.not_mem_nil, or_false] at hz ⊢
    tauto
  obtain ⟨pre, post, hsplit⟩ := List.append_of_mem hzlog
  obtain ⟨x, hx, hsentinel, hcutoff⟩ := cutoff_read hsplit (fun _ _ => Task.prunesByClock) hcmd
  refine ⟨(z.1, x), by rw [hsplit]; exact List.mem_append_left _ hx, hsentinel, ?_⟩
  rw [hexpires, hcutoff] at hlt
  exact expired_of_cutoff hbound hlt

theorem distinct_arrivals {before mid after : List (T × Step)} {t t' : T} {e e' : Step}
    (hlog : (Pool.run machine (fun t => (tasks t).program crates receiver) w schedule).log =
      before ++ (t, e) :: (mid ++ (t', e') :: after)) {stream : List UInt8} {sequence : UInt64}
    (htask : tasks t = .connection stream sequence) (hexec : e.cmd.isExecute)
    (hexec' : e'.cmd.isExecute) : t ≠ t' := by
  rintro rfl
  have hfollows := Pool.run_follows (M := machine) (fun t => (tasks t).program crates receiver) w
    schedule t
  simp only [htask] at hfollows
  have hone := connection_starts_le_one hfollows
  rw [hlog] at hone
  simp [Pool.eventsOf, starts, hexec, hexec'] at hone
  omega

end

/-- When the same bytes start a handler a second time, they have arrived twice, and the clock has
passed the expiry of one of the two contexts: the time of an arrival plus the lifetime the packet
claims. -/
theorem replayed_bytes_start_after_expiry (crates : Crates) (receiver : Receiver) {T : Type}
    [DecidableEq T] (tasks : T → Task) (w : Tables) (schedule : List (T × Env))
    (hclock : ClockOrdered schedule) (before mid after : List (T × Step)) (t t' : T) (e e' : Step)
    (hlog : (Pool.run machine (fun t => (tasks t).program crates receiver) w schedule).log =
      before ++ (t, e) :: (mid ++ (t', e') :: after))
    (stream : List UInt8) (sequence sequence' : UInt64)
    (htask : tasks t = .connection stream sequence)
    (htask' : tasks t' = .connection stream sequence') (context context' : VerifiedCallContext)
    (hstart : startedFor e.cmd = some context) (hstart' : startedFor e'.cmd = some context')
    (hbound : context.expiresAt.toNat < 2 ^ 63) (hbound' : context'.expiresAt.toNat < 2 ^ 63) :
    t ≠ t' ∧
      (∃ request d, IssuedOnArrival crates receiver stream
        (Pool.eventsOf t (before ++ (t, e) :: (mid ++ [(t', e')]))) context request d) ∧
      (∃ request d, IssuedOnArrival crates receiver stream
        (Pool.eventsOf t' (before ++ (t, e) :: (mid ++ [(t', e')]))) context' request d) ∧
      min context.expiresAt.toNat context'.expiresAt.toNat < e'.env.clock.toNat := by
  have hne := distinct_arrivals hlog htask (isExecute_of_startedFor hstart)
    (isExecute_of_startedFor hstart')
  -- stop the run at the second start
  have hsplit : before ++ (t, e) :: (mid ++ (t', e') :: after) =
      (before ++ (t, e) :: mid) ++ (t', e') :: after := by simp
  obtain ⟨prior, rest, rfl, hstopped⟩ := Pool.exists_run_until (hlog.trans hsplit)
  have hordered := (List.pairwise_append.mp hclock).1
  have hfirst := Pool.run_follows (M := machine)
      (fun t => (tasks t).program crates receiver) w prior t
  have hsecond := Pool.run_follows (M := machine)
    (fun t => (tasks t).program crates receiver) w prior t'
  simp only [htask] at hfirst
  simp only [htask'] at hsecond
  obtain ⟨⟨request, d, hissued⟩, r, hr, row, hreserves, hkey, hexpires⟩ :=
    connection_started hfirst (Pool.mem_eventsOf.mpr (by rw [hstopped]; simp)) hstart
  obtain ⟨⟨request', d', hissued'⟩, r', hr', row', hreserves', hkey', hexpires'⟩ :=
    connection_started hsecond (Pool.mem_eventsOf.mpr (by rw [hstopped]; simp)) hstart'
  have hsame : row.key = row'.key := by
    rw [hkey, hkey']
    exact hissued.same_key hissued'
  have hend : ∀ x ∈ (Pool.run machine (fun t => (tasks t).program crates receiver) w prior).log,
      x.2.env.clock ≠ clockReadFailureSentinel → x.2.env.clock ≤ e'.env.clock := by
    intro x hx hsentinel
    rw [hstopped] at hx
    rcases List.mem_append.mp hx with hx | hx
    · exact ClockOrdered.le_of_before hordered hstopped x hx hsentinel
    · rw [List.mem_singleton.mp hx]
      exact UInt64.le_refl _
  have hentries : (t, r) ≠ (t', r') := fun heq => hne (congrArg Prod.fst heq)
  rw [hstopped] at hissued hissued'
  simp only [List.append_assoc, List.cons_append] at hissued hissued'
  refine ⟨hne, ⟨request, d, hissued⟩, ⟨request', d', hissued'⟩, ?_⟩
  rcases exists_split_of_ne (Pool.mem_eventsOf.mp hr) (Pool.mem_eventsOf.mp hr') hentries with
    ⟨_, _, _, hreserved⟩ | ⟨_, _, _, hreserved⟩
  · obtain ⟨x, hx, hsentinel, hlt⟩ :=
      reading_past_expiry hreserved hreserves hreserves' hsame hexpires hbound
    exact min_lt_of_left_lt (Nat.lt_of_lt_of_le hlt (hend x hx hsentinel))
  · obtain ⟨x, hx, hsentinel, hlt⟩ := reading_past_expiry hreserved hreserves' hreserves hsame.symm
      hexpires' hbound'
    exact min_lt_of_right_lt (Nat.lt_of_lt_of_le hlt (hend x hx hsentinel))

namespace Sample

open IngressEvidence.Sample (receiver stream)

def arrivals : Bool → Task
  | _ => .connection (stream []) 0

/-- One arrival after the other, twelve commands each. -/
def inTurn : List (Bool × Env) :=
  List.replicate 12 (false, RouterRuns.Sample.env 150) ++
    List.replicate 12 (true, RouterRuns.Sample.env 250)

theorem inTurn_ordered : ClockOrdered inTurn := by
  unfold ClockOrdered
  decide

/-- The second arrival starts the handler again, forty seconds after the first context expired. -/
theorem arrivals_both_start :
    startsIn (Pool.run machine (fun t => (arrivals t).program .transparent receiver)
      Tables.empty inTurn).log = [(false, 210), (true, 310)] := by
  decide +kernel

/-- The same bytes start the handler twice, under a clock that never goes back. -/
theorem same_bytes_start_twice :
    ∃ schedule e e', ClockOrdered schedule ∧ arrivals false = arrivals true ∧
      (false, e) ∈ (Pool.run machine (fun t => (arrivals t).program .transparent receiver)
        Tables.empty schedule).log ∧
      (true, e') ∈ (Pool.run machine (fun t => (arrivals t).program .transparent receiver)
        Tables.empty schedule).log ∧
      e.cmd.isExecute ∧ e'.cmd.isExecute := by
  obtain ⟨e, he, hexec⟩ := exists_of_startsIn arrivals_both_start (t := false) (by simp)
  obtain ⟨e', he', hexec'⟩ := exists_of_startsIn arrivals_both_start (t := true) (by simp)
  exact ⟨inTurn, e, e', inTurn_ordered, rfl, he, he', hexec, hexec'⟩

/-- When they do, the first context has expired. -/
theorem arrivals_start_after_expiry :
    ∃ schedule e e' context, (false, e) ∈ (Pool.run machine (fun t => (arrivals t).program
        Crates.transparent receiver) Tables.empty schedule).log ∧
      (true, e') ∈ (Pool.run machine (fun t => (arrivals t).program .transparent receiver)
        Tables.empty schedule).log ∧
      startedFor e.cmd = some context ∧ e'.cmd.isExecute ∧ context.expiresAt = 210 ∧
      210 < e'.env.clock.toNat := by
  obtain ⟨before, ⟨t, e⟩, rest, hlog, -, hfirst, hrest⟩ :=
    List.filterMap_eq_cons_iff.mp arrivals_both_start
  obtain ⟨mid, ⟨t', e'⟩, after, rfl, -, hsecond, -⟩ := List.filterMap_eq_cons_iff.mp hrest
  obtain ⟨context, hstart, hfirst⟩ := Option.map_eq_some_iff.mp hfirst
  obtain ⟨context', hstart', hsecond⟩ := Option.map_eq_some_iff.mp hsecond
  obtain ⟨rfl, hexpires⟩ := Prod.mk.inj hfirst
  obtain ⟨rfl, hexpires'⟩ := Prod.mk.inj hsecond
  have hpast := (replayed_bytes_start_after_expiry .transparent receiver arrivals Tables.empty
    inTurn inTurn_ordered before mid after false true e e' hlog (stream []) 0 0 rfl rfl context
    context' hstart hstart' (by rw [hexpires]; decide) (by rw [hexpires']; decide)).2.2.2
  rw [hexpires, hexpires'] at hpast
  refine ⟨inTurn, e, e', context, ?_, ?_, hstart, isExecute_of_startedFor hstart', hexpires, hpast⟩
  · rw [hlog]
    simp
  · rw [hlog]
    simp

end Sample

/-! ## How an expiry is stored -/

theorem deleted_by_prune_iff {env : Env} {w : Tables} {row : ReplayReservation} {now : UInt64}
    (hrow : row ∈ w.replayReservations.rows) (hclock : now ≠ clockReadFailureSentinel) :
    row ∉ (machine.run env w (pruneExpiredReplayReservations now)).world.replayReservations.rows ↔
      env.fails (.deleteExpiredReplay (asI64 now)) = false ∧ row.expiresAt < asI64 now := by
  have hread : isClockReadFailure now = false := by simpa [isClockReadFailure] using hclock
  rw [run_prune_world]
  by_cases hfails : env.fails (.deleteExpiredReplay (asI64 now))
  · simp [afterPrune, hread, hfails, hrow]
  · simp [afterPrune, hread, hfails, hrow, Tables.mem_deleteExpiredReplay]

/-- A prune leaves a stored reservation alone until its expiry exactly if the cast to a signed
number keeps the order of the two times. -/
theorem reservation_outlives_prune_iff (context : VerifiedCallContext) (signerKeyId : String)
    (reservedAt : UInt64) (w : Tables) (now : UInt64)
    (hrow : replayReservation context signerKeyId reservedAt ∈ w.replayReservations.rows)
    (hclock : now ≠ clockReadFailureSentinel) :
    (∀ env, replayReservation context signerKeyId reservedAt ∉
      (machine.run env w (pruneExpiredReplayReservations now)).world.replayReservations.rows →
        context.expiresAt < now) ↔
      context.expiresAt.toNat < 2 ^ 63 ∨ 2 ^ 63 ≤ now.toNat := by
  have hcast := asI64_lt_asI64 context.expiresAt now
  simp only [deleted_by_prune_iff hrow hclock, UInt64.lt_iff_toNat_lt]
  constructor
  · intro h
    by_contra hupper
    have hbefore := h (RouterRuns.Sample.env now) ⟨rfl, hcast.mpr (.inr (by omega))⟩
    omega
  · rintro hhalves env ⟨-, hdeleted⟩
    have hcases := hcast.mp hdeleted
    omega

namespace Sample

open VerifierModes.Sample (signedPacket)
open IngressEvidence.Sample (credentialDescriptor receiver request opened)

def longDescriptor : OperationDescriptor :=
  { credentialDescriptor with maxTtlSeconds := 0x8000000000000000 }

def longReceiver : Receiver :=
  { receiver with router := { receiver.router with manifest := .new [longDescriptor] } }

def longRequest : DecodedIngressRequest :=
  { request [] with packet := signedPacket .transparent 0x50 0x8000000000000000 [] }

/-- A reservation that was made at 100 for half of all time is gone at 101. -/
theorem long_reservation_pruned :
    ∃ signed, longReceiver.signedContextFor .transparent longRequest opened 100 = .ok signed ∧
      ∃ w, w = (machine.run (RouterRuns.Sample.env 100) Tables.empty
        (reserveReplay signed.context signed.signerKeyId 100)).world ∧
      replayReservation signed.context signed.signerKeyId 100 ∈ w.replayReservations.rows ∧
      replayReservation signed.context signed.signerKeyId 100 ∉ (machine.run
        (RouterRuns.Sample.env 101) w
          (pruneExpiredReplayReservations 101)).world.replayReservations.rows ∧
      ¬ signed.context.expiresAt < 101 := by
  have hexpires : (longReceiver.signedContextFor .transparent longRequest opened
      100).toOption.map (·.context.expiresAt) = some 0x8000000000000064 := by decide +kernel
  obtain ⟨signed, hsigned, hexpires⟩ := Option.map_eq_some_iff.mp hexpires
  have hmem : replayReservation signed.context signed.signerKeyId 100 ∈
      (machine.run (RouterRuns.Sample.env 100) Tables.empty
        (reserveReplay signed.context signed.signerKeyId 100)).world.replayReservations.rows :=
    List.mem_cons_self
  refine ⟨signed, toOption_eq_some.mp hsigned, _, rfl, hmem, ?_, ?_⟩
  · rw [deleted_by_prune_iff hmem (by decide)]
    refine ⟨rfl, ?_⟩
    change asI64 signed.context.expiresAt < _
    rw [hexpires]
    decide
  · rw [hexpires]
    decide

theorem short_reservation_kept :
    ∃ w row, row = replayReservation (RouterRuns.Sample.context .transparent 3 [] 200) "s" 100 ∧
      row ∈ w.replayReservations.rows ∧ ∀ env, row ∈ (machine.run env w
        (pruneExpiredReplayReservations 150)).world.replayReservations.rows := by
  have hmem : replayReservation (RouterRuns.Sample.context .transparent 3 [] 200) "s" 100 ∈
      (machine.run (RouterRuns.Sample.env 100) Tables.empty (reserveReplay
        (RouterRuns.Sample.context .transparent 3 [] 200) "s"
          100)).world.replayReservations.rows := List.mem_cons_self
  refine ⟨_, _, rfl, hmem, fun env => ?_⟩
  by_contra hdeleted
  have hpast : (200 : UInt64) < 150 := (reservation_outlives_prune_iff
    (RouterRuns.Sample.context .transparent 3 [] 200) "s" 100 _ 150 hmem (by decide)).mpr
      (.inl (by decide)) env hdeleted
  exact absurd hpast (by decide)

end Sample

end IngressReplay
