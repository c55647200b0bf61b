import SecsMagik.LedgerCalls

/-! # Replay protection

A reservation blocks its key until a prune deletes it, and a prune deletes what expired before the
reading it goes by. Calls that run one after another therefore never start a handler twice for one
signed context. Calls that interleave may: a reservation can be pruned between the expiry check of
another call and its insert.
-/
namespace ReplayProtection

open RustStd
open ExternalCrates (Crates)
open CallContext ScopedNullifier Ledger AtomicPrograms UniqueTable GatewayMachine GatewayRouter
open RouterTraces RouterRuns LedgerCalls

/-! ## Two reservations of one key -/

/-- Entries of a log that reserve the same key have a prune between them that deleted the first
reservation. -/
theorem pruned_in_log {L : Type} (steps : L → List Step) {w w' : Tables} {before mid after : List L}
    {x y : L} (hchain : machine.Chained w ((before ++ x :: (mid ++ y :: after)).flatMap steps) w')
    {r r' : Step} {row row' : ReplayReservation} (hr : r ∈ steps x) (hr' : r' ∈ steps y)
    (hreserves : Reserves r row) (hreserves' : Reserves r' row') (hkey : row.key = row'.key) :
    ∃ z ∈ x :: mid ++ [y], ∃ d ∈ steps z, ∃ cutoff,
      d.cmd = .sql (.deleteExpiredReplay cutoff) ∧ row.expiresAt < cutoff := by
  obtain ⟨p, s, hx⟩ := List.append_of_mem hr
  obtain ⟨p', s', hy⟩ := List.append_of_mem hr'
  have hflat : (before ++ x :: (mid ++ y :: after)).flatMap steps =
      (before.flatMap steps ++ p) ++ r :: ((s ++ mid.flatMap steps ++ p') ++ r' ::
        (s' ++ after.flatMap steps)) := by
    simp [hx, hy]
  rw [hflat] at hchain
  obtain ⟨d, hd, cutoff, hcmd, hlt⟩ := pruned_between hchain hreserves hreserves' hkey
  rcases List.mem_append.mp hd with hd | hd
  · rcases List.mem_append.mp hd with hd | hd
    · refine ⟨x, by simp, d, ?_, cutoff, hcmd, hlt⟩
      rw [hx]
      exact List.mem_append_right _ (List.mem_cons_of_mem _ hd)
    · obtain ⟨z, hz, hd⟩ := List.mem_flatMap.mp hd
      exact ⟨z, by simp [hz], d, hd, cutoff, hcmd, hlt⟩
  · refine ⟨y, by simp, d, ?_, cutoff, hcmd, hlt⟩
    rw [hy]
    exact List.mem_append_left _ hd

/-- A cutoff from the upper half of the range is negative and deletes no such reservation. -/
theorem expired_of_cutoff {expiresAt now : UInt64} (hexpires : expiresAt.toNat < 2 ^ 63)
    (h : asI64 expiresAt < asI64 now) : expiresAt < now := by
  rw [asI64_lt_asI64] at h
  rw [UInt64.lt_iff_toNat_lt]
  omega

variable {signed : SignedVerifiedCallContext} {router : ConfigurableRouter} {payload : List UInt8}

section

variable {crates : Crates} {call : Call} {es : List Step} {q : Program Unit}

/-- What a call established about time and the reservations before it started a handler on
`signed`. -/
structure StartedInTime (signed : SignedVerifiedCallContext) (es : List Step) : Prop where
  reading : ∃ env w rest, es = ⟨env, w, .readClock⟩ :: rest ∧
    env.clock ≠ clockReadFailureSentinel ∧ env.clock ≤ signed.context.expiresAt
  reserved : ∃ r ∈ es, ∃ row, Reserves r row ∧ row.key = replayKey signed.context ∧
    row.expiresAt = asI64 signed.context.expiresAt

theorem routeVerified_startedInTime {q : Program Routed} {e : Step}
    (h : machine.Follows (routeVerified crates router signed payload) es q) (he : e ∈ es)
    (hexec : e.cmd.isExecute) : StartedInTime signed es := by
  obtain ⟨env, w, rest, admitted, rfl, hpassed, hreached⟩ := routeVerified_trace h he hexec
  obtain ⟨key, -, hsignature⟩ := signature_of_verifySigner hpassed.signer
  obtain ⟨projection, hrouted⟩ := routed_eq hpassed.projection
  obtain ⟨r, hr, hreserves⟩ := hreached.reserved
  refine ⟨⟨env, w, rest, rfl, hsignature.clock_read, hsignature.unexpired⟩, ?_⟩
  rw [hrouted] at hreserves
  exact ⟨r, List.mem_cons_of_mem _ hr, _, hreserves, rfl, rfl⟩

/-- A handler gets the signed context, extended at most by a projection. -/
theorem routeVerified_started {q : Program Routed} {e : Step}
    (h : machine.Follows (routeVerified crates router signed payload) es q) (he : e ∈ es)
    {context : VerifiedCallContext} (hstart : startedFor e.cmd = some context) :
    (∃ projection, context = (extendSummary signed projection).context) ∧
      StartedInTime signed es := by
  have hexec := isExecute_of_startedFor hstart
  refine ⟨?_, routeVerified_startedInTime h he hexec⟩
  obtain ⟨env, w, rest, admitted, -, hpassed, hreached⟩ := routeVerified_trace h he hexec
  obtain ⟨projection, hrouted⟩ := routed_eq hpassed.projection
  obtain ⟨handlerId, -, -, hcmd⟩ := hreached.started
  refine ⟨projection, ?_⟩
  rw [hcmd] at hstart
  rw [← hrouted]
  exact (Option.some.inj hstart).symm

/-- The context a handler gets keeps the replay key and the expiry of the signed one. -/
theorem started_on_signed (h : machine.Follows (call.program crates) es q) {e : Step} (he : e ∈ es)
    {context : VerifiedCallContext} (hstart : startedFor e.cmd = some context) :
    ∃ router signed payload, call = .route router signed payload ∧
      replayKey context = replayKey signed.context ∧
      context.expiresAt = signed.context.expiresAt ∧ StartedInTime signed es := by
  obtain ⟨router, signed, payload, q', rfl, hroute⟩ :=
    routed_of_execute h he (isExecute_of_startedFor hstart)
  obtain ⟨⟨projection, rfl⟩, hintime⟩ := routeVerified_started hroute he hstart
  exact ⟨router, signed, payload, rfl, rfl, rfl, hintime⟩

end

/-! ## Calls one after another -/

/-- The clock of a sequence of calls: readings never decrease, failed readings apart, and no context
expires in the upper half of the range. -/
structure Timeline (calls : List (Call × Env)) : Prop where
  ordered : calls.Pairwise fun x y =>
    x.1.reading x.2 ≠ clockReadFailureSentinel → y.1.reading y.2 ≠ clockReadFailureSentinel →
      x.1.reading x.2 ≤ y.1.reading y.2
  expiries : ∀ x ∈ calls, ∀ router signed payload, x.1 = .route router signed payload →
    signed.context.expiresAt.toNat < 2 ^ 63

section

variable {crates : Crates} {w : Tables} {calls : List (Call × Env)}

theorem Timeline.log_ordered (h : Timeline calls) (crates : Crates) (w : Tables) :
    (machine.runCalls (Call.program crates) w calls).Pairwise fun x y =>
      x.1.reading x.2.1 ≠ clockReadFailureSentinel → y.1.reading y.2.1 ≠ clockReadFailureSentinel →
        x.1.reading x.2.1 ≤ y.1.reading y.2.1 := by
  have hordered := h.ordered
  rw [← Machine.runCalls_calls (M := machine) (Call.program crates) w calls, List.pairwise_map]
    at hordered
  exact hordered

theorem reading_of_started {x : Call × Env × List Step}
    (hx : x ∈ machine.runCalls (Call.program crates) w calls)
    (hcall : x.1 = .route router signed payload) (hstarted : StartedInTime signed x.2.2) :
    x.1.reading x.2.1 ≠ clockReadFailureSentinel ∧
      x.1.reading x.2.1 ≤ signed.context.expiresAt := by
  obtain ⟨env, w', rest, hes, hclock, hunexpired⟩ := hstarted.reading
  have henv := (Machine.runCalls_follows _ _ _ x hx).2 ⟨env, w', .readClock⟩
    (by rw [hes]; exact List.mem_cons_self)
  have hreading : x.1.reading x.2.1 = env.clock := by
    rw [hcall, ← henv]
    rfl
  rw [hreading]
  exact ⟨hclock, hunexpired⟩

section Between

variable {before mid after : List (Call × Env × List Step)} {x y : Call × Env × List Step}
  (hlog : machine.runCalls (Call.program crates) w calls = before ++ x :: (mid ++ y :: after))

include hlog

theorem mem_log_of_between : ∀ z ∈ x :: mid ++ [y],
    z ∈ machine.runCalls (Call.program crates) w calls := by
  intro z hz
  rw [hlog]
  simp only [List.cons_append, List.mem_cons, List.mem_append, List.not_mem_nil, or_false] at hz ⊢
  tauto

/-- Between two calls that reserved the same key lies a call with a reading past the expiry of the
first reservation. -/
theorem exists_pruning_call (h : Timeline calls) {signed signed' : SignedVerifiedCallContext}
    (hcall : x.1 = .route router signed payload) (hstarted : StartedInTime signed x.2.2)
    (hstarted' : StartedInTime signed' y.2.2)
    (hkey : replayKey signed.context = replayKey signed'.context) :
    ∃ z ∈ x :: mid ++ [y], z.1.reading z.2.1 ≠ clockReadFailureSentinel ∧
      signed.context.expiresAt < z.1.reading z.2.1 := by
  have hmem := mem_log_of_between hlog
  obtain ⟨r, hr, row, hreserves, hrow, hexpires⟩ := hstarted.reserved
  obtain ⟨r', hr', row', hreserves', hrow', -⟩ := hstarted'.reserved
  have hsame : row.key = row'.key := by rw [hrow, hrow', hkey]
  obtain ⟨w', hchain⟩ := Machine.runCalls_chained (M := machine) (Call.program crates) w calls
  rw [hlog] at hchain
  obtain ⟨z, hz, d, hd, cutoff, hcmd, hlt⟩ := pruned_in_log
    (fun call : Call × Env × List Step => call.2.2) hchain hr hr' hreserves hreserves' hsame
  -- the prune goes by the reading of its own call
  obtain ⟨⟨_, hfollows⟩, henv⟩ := Machine.runCalls_follows _ _ _ z (hmem z hz)
  obtain ⟨hsentinel, hprune⟩ := prunes_at_reading hfollows henv hd hcmd
  refine ⟨z, hz, hsentinel, ?_⟩
  have hcutoff : cutoff = asI64 (z.1.reading z.2.1) := by
    rw [hcmd] at hprune
    injection hprune with hprune
    injection hprune
  have hbound : signed.context.expiresAt.toNat < 2 ^ 63 := by
    have hcalls := Machine.runCalls_calls (M := machine) (Call.program crates) w calls
    refine h.expiries (x.1, x.2.1) ?_ router signed payload hcall
    rw [← hcalls]
    exact List.mem_map.mpr ⟨x, hmem x (by simp), rfl⟩
  rw [hexpires, hcutoff] at hlt
  exact expired_of_cutoff hbound hlt

/-- The later of two calls that started a handler on one replay key goes by a reading past the
expiry of the earlier one. -/
theorem started_after_expiry (h : Timeline calls) {e e' : Step}
    {context context' : VerifiedCallContext} (he : e ∈ x.2.2) (he' : e' ∈ y.2.2)
    (hstart : startedFor e.cmd = some context) (hstart' : startedFor e'.cmd = some context')
    (hkey : replayKey context = replayKey context') : context.expiresAt < y.1.reading y.2.1 := by
  have hmem := mem_log_of_between hlog
  have hymem := hmem y (by simp)
  obtain ⟨⟨_, hfollows⟩, -⟩ := Machine.runCalls_follows _ _ _ x (hmem x (by simp))
  obtain ⟨⟨_, hfollows'⟩, -⟩ := Machine.runCalls_follows _ _ _ y hymem
  obtain ⟨router, signed, payload, hcall, hsigned, hexpires, hstarted⟩ :=
    started_on_signed hfollows he hstart
  obtain ⟨router', signed', payload', hcall', hsigned', -, hstarted'⟩ :=
    started_on_signed hfollows' he' hstart'
  have hreading := (reading_of_started hymem hcall' hstarted').1
  rw [hsigned, hsigned'] at hkey
  obtain ⟨z, hz, hsentinel, hexpired⟩ := exists_pruning_call hlog h hcall hstarted hstarted' hkey
  rw [hexpires]
  -- and the readings do not decrease on the way to `y`
  rcases List.mem_append.mp hz with hz | hz
  · have hsplit : before ++ x :: (mid ++ y :: after) = (before ++ x :: mid) ++ y :: after := by simp
    have hpairs := h.log_ordered crates w
    rw [hlog, hsplit, List.pairwise_append] at hpairs
    have hle := hpairs.2.2 z (List.mem_append_right _ hz) y List.mem_cons_self hsentinel hreading
    exact UInt64.lt_of_lt_of_le hexpired hle
  · rw [← List.mem_singleton.mp hz]
    exact hexpired

end Between

end

def starts (es : List Step) : List Step := es.filter (·.cmd.isExecute)

theorem starts_of_sole {e : Step} {es : List Step} (h : SoleExecute e es) :
    (starts es).length ≤ 1 := by
  obtain ⟨before, after, rfl, hothers⟩ := h
  have hbefore : starts before = [] :=
    List.filter_eq_nil_iff.mpr fun x hx => hothers x (List.mem_append_left _ hx)
  have hafter : starts after = [] :=
    List.filter_eq_nil_iff.mpr fun x hx => hothers x (List.mem_append_right _ hx)
  rw [starts] at hbefore hafter ⊢
  rw [List.filter_append, hbefore, List.filter_cons, hafter]
  split <;> simp

variable {crates : Crates}

theorem routeVerified_starts_le_one {es : List Step} {q : Program Routed}
    (h : machine.Follows (routeVerified crates router signed payload) es q) :
    (starts es).length ≤ 1 := by
  by_cases hnone : starts es = []
  · simp [hnone]
  · obtain ⟨e, he⟩ := List.exists_mem_of_ne_nil _ hnone
    obtain ⟨hmem, hexec⟩ := List.mem_filter.mp he
    obtain ⟨env, w, rest, admitted, rfl, -, hreached⟩ := routeVerified_trace h hmem hexec
    have hclock : starts (⟨env, w, .readClock⟩ :: rest) = starts rest := rfl
    rw [hclock]
    exact starts_of_sole hreached.sole

theorem starts_le_one {call : Call} {es : List Step} {q : Program Unit}
    (h : machine.Follows (call.program crates) es q) : (starts es).length ≤ 1 := by
  by_cases hnone : starts es = []
  · simp [hnone]
  · obtain ⟨e, he⟩ := List.exists_mem_of_ne_nil _ hnone
    obtain ⟨hmem, hexec⟩ := List.mem_filter.mp he
    obtain ⟨router, signed, payload, q', rfl, hroute⟩ := routed_of_execute h hmem hexec
    exact routeVerified_starts_le_one hroute

/-- Blocks of at most one element, of which no two are inhabited, hold at most one together. -/
theorem length_flatMap_le_one {α β : Type} {f : α → List β} {l : List α}
    (hone : ∀ x ∈ l, (f x).length ≤ 1) (hpairs : l.Pairwise fun x y => f x ≠ [] → f y = []) :
    (l.flatMap f).length ≤ 1 := by
  induction l with
  | nil => simp
  | cons x l ih =>
    rw [List.pairwise_cons] at hpairs
    rw [List.flatMap_cons, List.length_append]
    by_cases hempty : f x = []
    · have hrest := ih (fun y hy => hone y (List.mem_cons_of_mem _ hy)) hpairs.2
      simp only [hempty, List.length_nil]
      omega
    · have hrest : l.flatMap f = [] := List.flatMap_eq_nil_iff.mpr fun y hy =>
        hpairs.1 y hy hempty
      have hx := hone x List.mem_cons_self
      simp only [hrest, List.length_nil]
      omega

def routes (signed : SignedVerifiedCallContext) : Call → Bool
  | .route _ signed' _ => signed' = signed
  | .prune _ | .initSchema => false

def startsOf (signed : SignedVerifiedCallContext) (log : List (Call × Env × List Step)) :
    List Step :=
  (log.filter (routes signed ·.1)).flatMap fun call => starts call.2.2

theorem exists_split_of_pair {α : Type} {x y : α} {l : List α} (h : [x, y].Sublist l) :
    ∃ before mid after, l = before ++ x :: (mid ++ y :: after) := by
  obtain ⟨l₁, l₂, rfl, hx, hy⟩ := List.cons_sublist_iff.mp h
  obtain ⟨before, mid₁, rfl⟩ := List.append_of_mem hx
  obtain ⟨mid₂, after, rfl⟩ := List.append_of_mem (List.singleton_sublist.mp hy)
  exact ⟨before, mid₁ ++ mid₂, after, by simp⟩

theorem exists_started_of_starts {es : List Step} (h : starts es ≠ []) :
    ∃ e ∈ es, ∃ context, startedFor e.cmd = some context := by
  obtain ⟨e, he⟩ := List.exists_mem_of_ne_nil _ h
  obtain ⟨hmem, hexec⟩ := List.mem_filter.mp he
  obtain ⟨env, w, c⟩ := e
  cases c with
  | execute handlerId context payload limits => exact ⟨_, hmem, context, rfl⟩
  | readClock | sql => cases hexec

/-- The second of two calls on one signed context finds it reserved or expired. -/
theorem started_once_on_signed {w : Tables} {calls : List (Call × Env)}
    {before mid after : List (Call × Env × List Step)} {x y : Call × Env × List Step}
    (hlog : machine.runCalls (Call.program crates) w calls = before ++ x :: (mid ++ y :: after))
    (h : Timeline calls) (hx : routes signed x.1) (hy : routes signed y.1)
    (hstarts : starts x.2.2 ≠ []) (hstarts' : starts y.2.2 ≠ []) :
    False := by
  have hmem := mem_log_of_between hlog
  have hymem := hmem y (by simp)
  obtain ⟨e, he, context, hstart⟩ := exists_started_of_starts hstarts
  obtain ⟨e', he', context', hstart'⟩ := exists_started_of_starts hstarts'
  obtain ⟨⟨_, hfollows⟩, -⟩ := Machine.runCalls_follows _ _ _ x (hmem x (by simp))
  obtain ⟨⟨_, hfollows'⟩, -⟩ := Machine.runCalls_follows _ _ _ y hymem
  obtain ⟨_, signed₁, _, hcall, hkey, hexpires, -⟩ := started_on_signed hfollows he hstart
  obtain ⟨_, signed₂, _, hcall', hkey', -, hstarted'⟩ := started_on_signed hfollows' he' hstart'
  have hsigned : signed₁ = signed := by
    rw [hcall] at hx
    exact of_decide_eq_true hx
  have hsigned' : signed₂ = signed := by
    rw [hcall'] at hy
    exact of_decide_eq_true hy
  have hlate : context.expiresAt < y.1.reading y.2.1 :=
    started_after_expiry hlog h he he' hstart hstart' (by rw [hkey, hkey', hsigned, hsigned'])
  have hintime := (reading_of_started hymem hcall' hstarted').2
  rw [hexpires, hsigned] at hlate
  rw [hsigned'] at hintime
  exact UInt64.not_lt.mpr hintime hlate

/-- Sequential calls never start a handler twice for one signed context. On one replay key a second
start comes only after the first context expired. -/
theorem signed_context_starts_once (crates : Crates) (w : Tables) (calls : List (Call × Env))
    (h : Timeline calls) :
    (∀ signed, (startsOf signed
      (machine.runCalls (Call.program crates) w calls)).length ≤ 1) ∧
    (machine.runCalls (Call.program crates) w calls).Pairwise fun x y =>
      ∀ e ∈ x.2.2, ∀ e' ∈ y.2.2, ∀ context context', startedFor e.cmd = some context →
        startedFor e'.cmd = some context' → replayKey context = replayKey context' →
        context.expiresAt < y.1.reading y.2.1 := by
  refine ⟨fun signed => length_flatMap_le_one ?_ ?_, ?_⟩
  · intro x hx
    obtain ⟨⟨_, hfollows⟩, -⟩ := Machine.runCalls_follows _ _ _ x (List.mem_filter.mp hx).1
    exact starts_le_one hfollows
  · rw [List.pairwise_iff_forall_sublist]
    intro x y hxy hstarts
    by_contra hstarts'
    have hx := List.mem_filter.mp (hxy.subset List.mem_cons_self)
    have hy := List.mem_filter.mp (hxy.subset (List.mem_cons_of_mem _ List.mem_cons_self))
    obtain ⟨before, mid, after, hlog⟩ := exists_split_of_pair (hxy.trans List.filter_sublist)
    exact started_once_on_signed hlog h hx.2 hy.2 hstarts hstarts'
  · rw [List.pairwise_iff_forall_sublist]
    intro x y hxy e he e' he' context context' hstart hstart' hkey
    obtain ⟨before, mid, after, hlog⟩ := exists_split_of_pair hxy
    exact started_after_expiry hlog h he he' hstart hstart' hkey

def plainCall (nonce : UInt8) (expiresAt : UInt64) : SignedVerifiedCallContext :=
  Sample.signed .transparent nonce [] expiresAt

/-- Two contexts under one nonce, the second issued when the first has expired. -/
def renewedCalls : List (Call × Env) :=
  [(.route Sample.appendReceiver (plainCall 3 200) [1, 2], Sample.env 150),
    (.route Sample.appendReceiver (plainCall 3 300) [1, 2], Sample.env 250)]

theorem renewedCalls_timeline : Timeline renewedCalls := by
  refine ⟨List.pairwise_pair.mpr fun _ _ => by decide, ?_⟩
  intro x hx router signed payload hcall
  rcases List.mem_pair.mp hx with rfl | rfl
  · cases hcall
    decide
  · cases hcall
    decide

def route (nonce : UInt8) (expiresAt : UInt64) : Program Routed :=
  routeVerified .transparent Sample.appendReceiver (plainCall nonce expiresAt) [1, 2]

theorem renewedCalls_start :
    (∃ e ∈ (machine.run (Sample.env 150) Tables.empty (route 3 200)).events,
      startedFor e.cmd = some (plainCall 3 200).context) ∧
    ∃ e ∈ (machine.run (Sample.env 250)
      (machine.run (Sample.env 150) Tables.empty (route 3 200)).world (route 3 300)).events,
      startedFor e.cmd = some (plainCall 3 300).context := by
  decide +kernel

/-- Both calls start the handler, the second one once the first context has expired. -/
theorem renewedCalls_start_after_expiry :
    ∃ x y e e' context context',
      machine.runCalls (Call.program .transparent) Tables.empty renewedCalls = [x, y] ∧
      e ∈ x.2.2 ∧ e' ∈ y.2.2 ∧ startedFor e.cmd = some context ∧
      startedFor e'.cmd = some context' ∧ replayKey context = replayKey context' ∧
      context.expiresAt < y.1.reading y.2.1 := by
  have hpairs := (signed_context_starts_once .transparent Tables.empty renewedCalls
    renewedCalls_timeline).2
  have hlog : machine.runCalls (Call.program .transparent) Tables.empty renewedCalls =
      [(.route Sample.appendReceiver (plainCall 3 200) [1, 2], Sample.env 150,
          (machine.run (Sample.env 150) Tables.empty (route 3 200)).events),
        (.route Sample.appendReceiver (plainCall 3 300) [1, 2], Sample.env 250,
          (machine.run (Sample.env 250)
            (machine.run (Sample.env 150) Tables.empty (route 3 200)).world
              (route 3 300)).events)] := by
    simp only [renewedCalls, route, Machine.runCalls, run_route_program]
  obtain ⟨hfirst, hsecond⟩ := renewedCalls_start
  -- only that the handler starts is used of the two runs
  generalize (machine.run (Sample.env 250) _ _).events = second at hlog hsecond
  generalize (machine.run (Sample.env 150) _ _).events = first at hlog hfirst
  obtain ⟨e, he, hstart⟩ := hfirst
  obtain ⟨e', he', hstart'⟩ := hsecond
  rw [hlog, List.pairwise_pair] at hpairs
  exact ⟨_, _, e, e', _, _, hlog, he, he', hstart, hstart', rfl,
    hpairs e he e' he' _ _ hstart hstart' rfl⟩

/-! ## Calls that interleave -/

/-- No signed context has its handler started by two calls, and a reservation of a context that was
deleted is not made again. -/
structure ReplaySafe {T : Type} (calls : T → Call) (log : List (T × Step)) : Prop where
  starts_once : ∀ t t' router router' signed payload payload', t ≠ t' →
    calls t = .route router signed payload → calls t' = .route router' signed payload' →
    ∀ e e', (t, e) ∈ log → (t', e') ∈ log → e.cmd.isExecute → ¬ e'.cmd.isExecute
  never_remade : ∀ t t' router router' signed payload payload',
    calls t = .route router signed payload → calls t' = .route router' signed payload' →
    ∀ before mid mid' after r r' row row' pruning,
      log = before ++ (t, r) :: (mid ++ pruning :: (mid' ++ (t', r') :: after)) →
      Reserves r row → Reserves r' row' → row ∈ pruning.2.before.replayReservations.rows →
      row ∈ (machine.after pruning.2).replayReservations.rows

/-- The step about to be taken does not insert a reservation that a prune of the past would have
deleted. -/
def InsertsInTime {T : Type} (s : Pool Cmd.Reply Tables Env T Unit) (t : T) : Prop :=
  ∀ row k, s.threads t = .step (.sql (.insertReplay row)) k → ∀ entry ∈ s.log, ∀ cutoff,
    entry.2.cmd = .sql (.deleteExpiredReplay cutoff) → cutoff ≤ row.expiresAt

theorem exists_split_of_ne {α : Type} {x y : α} {l : List α} (hx : x ∈ l) (hy : y ∈ l)
    (hne : x ≠ y) :
    (∃ before mid after, l = before ++ x :: (mid ++ y :: after)) ∨
      ∃ before mid after, l = before ++ y :: (mid ++ x :: after) := by
  obtain ⟨left, right, rfl⟩ := List.append_of_mem hx
  rcases List.mem_append.mp hy with hy | hy
  · obtain ⟨before, mid, rfl⟩ := List.append_of_mem hy
    exact .inr ⟨before, mid, right, by simp⟩
  · rcases List.mem_cons.mp hy with rfl | hy
    · exact absurd rfl hne
    · obtain ⟨mid, after, rfl⟩ := List.append_of_mem hy
      exact .inl ⟨left, mid, after, rfl⟩

section

variable {crates : Crates} {T : Type} [DecidableEq T] {calls : T → Call} {w : Tables}
  {schedule : List (T × Env)}

variable {row : ReplayReservation}

theorem pending_row {t : T} (hcall : calls t = .route router signed payload) (env : Env)
    {k : Option ℕ → Program Unit}
    (hnext : (Pool.run machine (fun t => (calls t).program crates) w schedule).threads t =
      .step (.sql (.insertReplay row)) k) :
    row.key = replayKey signed.context ∧ row.expiresAt = asI64 signed.context.expiresAt := by
  have hfollows := Pool.run_follows (M := machine) (fun t => (calls t).program crates) w schedule t
  rw [hnext] at hfollows
  simp only [hcall] at hfollows
  obtain ⟨q', hroute⟩ := (hfollows.snoc env w).of_bind_const
  obtain ⟨env', w', rest, hes, hsteps⟩ := routeVerified_steps hroute (by simp)
  have hmem : (⟨env, w, .sql (.insertReplay row)⟩ : Step) ∈
      (⟨env', w', .readClock⟩ : Step) :: rest :=
    hes ▸ List.mem_append_right _ List.mem_cons_self
  rcases List.mem_cons.mp hmem with hfirst | hmem
  · cases hfirst
  · exact (hsteps _ hmem).reserves row rfl

theorem reserved_row {t : T} (hcall : calls t = .route router signed payload) {r : Step}
    (hr : (t, r) ∈ (Pool.run machine (fun t => (calls t).program crates) w schedule).log)
    (hcmd : r.cmd = .sql (.insertReplay row)) :
    row.key = replayKey signed.context ∧ row.expiresAt = asI64 signed.context.expiresAt := by
  obtain ⟨before, after, hlog⟩ := List.append_of_mem hr
  obtain ⟨prior, rest, k, -, -, hnext⟩ := Pool.exists_turn hlog
  obtain ⟨env, w', c⟩ := r
  subst hcmd
  exact pending_row hcall env hnext

theorem started_in_time {t : T} (hcall : calls t = .route router signed payload) {e : Step}
    (he : (t, e) ∈ (Pool.run machine (fun t => (calls t).program crates) w schedule).log)
    (hexec : e.cmd.isExecute) :
    ∃ r row, (t, r) ∈ (Pool.run machine (fun t => (calls t).program crates) w schedule).log ∧
      Reserves r row := by
  have hfollows := Pool.run_follows (M := machine) (fun t => (calls t).program crates) w schedule t
  simp only [hcall] at hfollows
  obtain ⟨q', hroute⟩ := hfollows.of_bind_const
  obtain ⟨r, hr, row, hreserves, -, -⟩ :=
    (routeVerified_startedInTime hroute (Pool.mem_eventsOf.mpr he) hexec).reserved
  exact ⟨r, row, Pool.mem_eventsOf.mp hr, hreserves⟩

variable (hintime : ∀ prior turn rest, schedule = prior ++ turn :: rest →
  InsertsInTime (Pool.run machine (fun t => (calls t).program crates) w prior) turn.1)

include hintime

/-- No prune before an insert would have deleted what is inserted. -/
theorem cutoff_le_of_inserted {before after : List (T × Step)} {t : T} {r : Step}
    (hlog : (Pool.run machine (fun t => (calls t).program crates) w schedule).log =
      before ++ (t, r) :: after) (hcmd : r.cmd = .sql (.insertReplay row)) :
    ∀ entry ∈ before, ∀ cutoff, entry.2.cmd = .sql (.deleteExpiredReplay cutoff) →
      cutoff ≤ row.expiresAt := by
  obtain ⟨prior, rest, k, hschedule, hbefore, hnext⟩ := Pool.exists_turn hlog
  intro entry hentry cutoff hprune
  obtain ⟨env, w', c⟩ := r
  subst hcmd
  exact hintime prior (t, env) rest hschedule row k hnext entry (hbefore ▸ hentry) cutoff hprune

theorem not_reserved_twice {t t' : T} {router router' : ConfigurableRouter}
    {payload payload' : List UInt8} (hcall : calls t = .route router signed payload)
    (hcall' : calls t' = .route router' signed payload') {r r' : Step}
    {row row' : ReplayReservation} {before mid after : List (T × Step)}
    (hlog : (Pool.run machine (fun t => (calls t).program crates) w schedule).log =
      before ++ (t, r) :: (mid ++ (t', r') :: after)) (hreserves : Reserves r row)
    (hreserves' : Reserves r' row') : False := by
  have hrow := reserved_row hcall (by rw [hlog]; simp) hreserves.cmd
  have hrow' := reserved_row hcall' (by rw [hlog]; simp) hreserves'.cmd
  have hchain := Pool.run_chained (M := machine) (fun t => (calls t).program crates) w schedule
  rw [hlog, List.map_eq_flatMap] at hchain
  obtain ⟨z, hz, d, hd, cutoff, hcmd, hlt⟩ := pruned_in_log (fun entry : T × Step => [entry.2])
    hchain List.mem_cons_self List.mem_cons_self hreserves hreserves' (hrow.1.trans hrow'.1.symm)
  rw [List.mem_singleton.mp hd] at hcmd
  have hsplit : before ++ (t, r) :: (mid ++ (t', r') :: after) =
      (before ++ (t, r) :: mid) ++ (t', r') :: after := by simp
  rcases List.mem_append.mp hz with hz | hz
  · have hle := cutoff_le_of_inserted hintime (hlog.trans hsplit) hreserves'.cmd z
      (List.mem_append_right _ hz) cutoff hcmd
    rw [hrow'.2, ← hrow.2] at hle
    omega
  · rw [List.mem_singleton.mp hz, hreserves'.cmd] at hcmd
    cases hcmd

end

/-- In every run in which no insert comes after a prune that would have deleted it, replay
protection holds, whatever the schedule and the clock. -/
theorem interleaved_calls_replay_safe (crates : Crates) {T : Type} [DecidableEq T]
    (calls : T → Call) (w : Tables) (schedule : List (T × Env))
    (hintime : ∀ prior turn rest, schedule = prior ++ turn :: rest →
      InsertsInTime (Pool.run machine (fun t => (calls t).program crates) w prior) turn.1) :
    ReplaySafe calls (Pool.run machine (fun t => (calls t).program crates) w schedule).log where
  starts_once := by
    intro t t' router router' signed payload payload' hne hcall hcall' e e' he he' hexec hexec'
    obtain ⟨r, row, hr, hreserves⟩ := started_in_time hcall he hexec
    obtain ⟨r', row', hr', hreserves'⟩ := started_in_time hcall' he' hexec'
    have hentries : (t, r) ≠ (t', r') := fun heq => hne (congrArg Prod.fst heq)
    rcases exists_split_of_ne hr hr' hentries with ⟨_, _, _, hlog⟩ | ⟨_, _, _, hlog⟩
    · exact not_reserved_twice hintime hcall hcall' hlog hreserves hreserves'
    · exact not_reserved_twice hintime hcall' hcall hlog hreserves' hreserves
  never_remade := by
    intro t t' router router' signed payload payload' hcall hcall' before mid mid' after r r' row
      row' pruning hlog hreserves hreserves' _
    have hsplit : before ++ (t, r) :: (mid ++ pruning :: (mid' ++ (t', r') :: after)) =
        before ++ (t, r) :: ((mid ++ pruning :: mid') ++ (t', r') :: after) := by simp
    exact (not_reserved_twice hintime hcall hcall' (hlog.trans hsplit) hreserves hreserves').elim

/-! ## Prunes and the global clock -/

section

variable {T α : Type} [DecidableEq T] {progs : T → Program α} {w : Tables}
  {schedule : List (T × Env)} {before after : List (T × Step)}

theorem cutoff_read {t : T} {d : Step} {cutoff : ℤ}
    (hlog : (Pool.run machine progs w schedule).log = before ++ (t, d) :: after)
    (hprogs : ∀ es q, machine.Follows (progs t) es q → PrunesByClock es)
    (hcmd : d.cmd = .sql (.deleteExpiredReplay cutoff)) :
    ∃ r, (t, r) ∈ before ∧ r.env.clock ≠ clockReadFailureSentinel ∧ cutoff = asI64 r.env.clock := by
  have hfollows := Pool.run_follows (M := machine) progs w schedule t
  have hevents : Pool.eventsOf t (before ++ (t, d) :: after) =
      Pool.eventsOf t before ++ d :: Pool.eventsOf t after := by
    simp [Pool.eventsOf]
  rw [hlog, hevents] at hfollows
  obtain ⟨r, hr, -, hsentinel, hprune⟩ := hprogs _ _ hfollows _ d _ rfl cutoff hcmd
  refine ⟨r, Pool.mem_eventsOf.mp hr, hsentinel, ?_⟩
  rw [hcmd] at hprune
  injection hprune with hprune
  injection hprune

/-- The clock never goes back, failed readings apart. -/
def ClockOrdered (schedule : List (T × Env)) : Prop :=
  schedule.Pairwise fun x y => x.2.clock ≠ clockReadFailureSentinel →
    y.2.clock ≠ clockReadFailureSentinel → x.2.clock ≤ y.2.clock

/-- A failed reading is above every other one, so only the earlier reading has to be one. -/
theorem ClockOrdered.le_of_before (hclock : ClockOrdered schedule) {entry : T × Step}
    (hlog : (Pool.run machine progs w schedule).log = before ++ entry :: after) :
    ∀ x ∈ before, x.2.env.clock ≠ clockReadFailureSentinel →
      x.2.env.clock ≤ entry.2.env.clock := by
  have hordered := hclock.sublist (Pool.log_sublist_schedule (M := machine) progs w schedule)
  rw [hlog, List.pairwise_map, List.pairwise_append] at hordered
  intro x hx hsentinel
  by_cases hentry : entry.2.env.clock = clockReadFailureSentinel
  · rw [hentry, UInt64.le_iff_toNat_le]
    exact Nat.le_of_lt_succ x.2.env.clock.toNat_lt
  · exact hordered.2.2 x hx entry List.mem_cons_self hsentinel hentry

end

/-- If the clock has not gone back and has not passed the expiry of what is inserted, no prune of
the past would have deleted it. -/
theorem insertsInTime_of_unexpired {T : Type} [DecidableEq T] {calls : T → Call} {w : Tables}
    {prior : List (T × Env)} {turn : T × Env}
    (hroutes : ∀ t, ∃ router signed payload, calls t = .route router signed payload)
    (hclock : ∀ earlier ∈ prior, earlier.2.clock ≤ turn.2.clock)
    (hbound : turn.2.clock.toNat < 2 ^ 63)
    (hunexpired : ∀ row k, (Pool.run machine (fun t => (calls t).program crates) w prior).threads
      turn.1 = .step (.sql (.insertReplay row)) k → asI64 turn.2.clock ≤ row.expiresAt) :
    InsertsInTime (Pool.run machine (fun t => (calls t).program crates) w prior) turn.1 := by
  intro row k hnext entry hentry cutoff hcmd
  have hprunes : ∀ t es q, machine.Follows ((calls t).program crates) es q → PrunesByClock es := by
    intro t es q hfollows
    obtain ⟨router, signed, payload, hcall⟩ := hroutes t
    rw [hcall] at hfollows
    obtain ⟨q', hroute⟩ := hfollows.of_bind_const
    exact routeVerified_prunesByClock hroute
  obtain ⟨before, after, hlog⟩ := List.append_of_mem hentry
  obtain ⟨r, hr, -, hcutoff⟩ := cutoff_read hlog (hprunes entry.1) hcmd
  -- the reading comes from a turn before this one
  have hle : r.env.clock ≤ turn.2.clock := by
    have hsublist := Pool.log_sublist_schedule (M := machine) (fun t => (calls t).program crates) w
      prior
    have hmem : (entry.1, r.env) ∈ prior := by
      refine hsublist.subset (List.mem_map.mpr ⟨(entry.1, r), ?_, rfl⟩)
      rw [hlog]
      exact List.mem_append_left _ hr
    exact hclock _ hmem
  have hnow := hunexpired row k hnext
  rw [UInt64.le_iff_toNat_le] at hle
  rw [asI64_eq, if_pos hbound] at hnow
  rw [hcutoff, asI64_eq, if_pos (by omega)]
  omega

def plainCalls : Bool → Call
  | false => .route Sample.appendReceiver (plainCall 3 200) [1, 2]
  | true => .route Sample.appendReceiver (plainCall 4 200) [1, 2]

theorem plainCalls_insert_in_time (n m : ℕ) (prior : List (Bool × Env)) (turn : Bool × Env)
    (rest : List (Bool × Env))
    (hschedule : List.replicate n (false, Sample.env 150) ++
      List.replicate m (true, Sample.env 150) = prior ++ turn :: rest) :
    InsertsInTime (Pool.run machine (fun t => (plainCalls t).program .transparent)
      Tables.empty prior) turn.1 := by
  have hconstant : ∀ x ∈ prior ++ turn :: rest, x.2.clock = 150 := by
    intro x hx
    rw [← hschedule] at hx
    rcases List.mem_append.mp hx with hx | hx <;> rw [List.eq_of_mem_replicate hx] <;> rfl
  have hturn := hconstant turn (by simp)
  have hcalls : ∀ t, ∃ nonce, plainCalls t =
      .route Sample.appendReceiver (plainCall nonce 200) [1, 2] := by
    intro t
    cases t with
    | false => exact ⟨3, rfl⟩
    | true => exact ⟨4, rfl⟩
  have hrow : ∀ t row k, (Pool.run machine (fun t => (plainCalls t).program .transparent)
      Tables.empty prior).threads t = .step (.sql (.insertReplay row)) k →
        row.expiresAt = asI64 200 := by
    intro t row k hnext
    obtain ⟨nonce, hcall⟩ := hcalls t
    exact (pending_row hcall turn.2 hnext).2
  refine insertsInTime_of_unexpired (fun t => ⟨_, _, _, (hcalls t).choose_spec⟩) ?_
    (by rw [hturn]; decide) ?_
  · intro earlier hearlier
    rw [hturn, hconstant earlier (List.mem_append_left _ hearlier)]
    exact UInt64.le_refl _
  · intro row k hnext
    rw [hrow _ row k hnext, hturn]
    decide

theorem plainCalls_start :
    startsIn (Pool.run machine (fun t => (plainCalls t).program .transparent) Tables.empty
      (List.replicate 11 (false, Sample.env 150) ++ List.replicate 11 (true, Sample.env 150))).log =
        [(false, 200), (true, 200)] := by
  decide +kernel

/-- Both of these calls start their handler, and replay protection holds. -/
theorem plainCalls_replay_safe :
    ∃ schedule e e',
      (false, e) ∈ (Pool.run machine (fun t => (plainCalls t).program .transparent)
        Tables.empty schedule).log ∧
      (true, e') ∈ (Pool.run machine (fun t => (plainCalls t).program .transparent)
        Tables.empty schedule).log ∧
      e.cmd.isExecute ∧ e'.cmd.isExecute ∧
      ReplaySafe plainCalls (Pool.run machine (fun t => (plainCalls t).program .transparent)
        Tables.empty schedule).log := by
  obtain ⟨e, he, hexec⟩ := exists_of_startsIn plainCalls_start (t := false) (by simp)
  obtain ⟨e', he', hexec'⟩ := exists_of_startsIn plainCalls_start (t := true) (by simp)
  exact ⟨_, e, e', he, he', hexec, hexec',
    interleaved_calls_replay_safe .transparent plainCalls Tables.empty _
      (plainCalls_insert_in_time 11 11)⟩

/-! ## The race -/

/-- Three connections: two bring the same signed context, the third brings another one. -/
def racingCalls (router : ConfigurableRouter) (signed other : SignedVerifiedCallContext)
    (payload : List UInt8) : Fin 3 → Call
  | 0 | 1 => .route router signed payload
  | 2 => .route router other payload

/-- The schedule of the race: the first connection reads the clock, the second runs to its end, the
third reads a later clock and prunes, and the first goes on. -/
def raceSchedule (env env' : Env) (n m : ℕ) : List (Fin 3 × Env) :=
  (0, env) :: (List.replicate n (1, env) ++ (2, env') :: (2, env') :: List.replicate m (0, env'))

theorem race_starts_twice :
    startsIn (Pool.run machine (fun t => (racingCalls Sample.appendReceiver (plainCall 3 200)
      (plainCall 4 700) [1, 2] t).program .transparent) Tables.empty
        (raceSchedule (Sample.env 150) (Sample.env 201) 11 10)).log = [(1, 200), (0, 200)] := by
  decide +kernel

/-- Two calls with one signed context both start the handler, though the clock never goes back. -/
theorem appendReceiver_race_starts_twice :
    ∃ schedule : List (Fin 3 × Env), (schedule.map (·.2.clock)).Pairwise (· ≤ ·) ∧
      ¬ ReplaySafe (racingCalls Sample.appendReceiver (plainCall 3 200) (plainCall 4 700) [1, 2])
        (Pool.run machine (fun t => (racingCalls Sample.appendReceiver (plainCall 3 200)
          (plainCall 4 700) [1, 2] t).program .transparent) Tables.empty schedule).log := by
  refine ⟨raceSchedule (Sample.env 150) (Sample.env 201) 11 10, by decide, fun hsafe => ?_⟩
  obtain ⟨e, he, hexec⟩ := exists_of_startsIn race_starts_twice (t := 0) (by simp)
  obtain ⟨e', he', hexec'⟩ := exists_of_startsIn race_starts_twice (t := 1) (by simp)
  exact hsafe.starts_once 0 1 _ _ _ _ _ (by decide) rfl rfl e e' he he' hexec hexec'

end ReplayProtection
