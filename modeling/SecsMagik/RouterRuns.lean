import SecsMagik.RouterTraces

/-! # A call that runs alone

When nothing interferes, the outcome of every stage of a call is determined by its environment
and the tables it finds.
-/
namespace RouterRuns

open RustStd
open ExternalCrates (Crates)
open CallContext ReceiverManifest ScopedNullifier Ledger AtomicPrograms UniqueTable GatewayMachine
open GatewayRouter RouterTraces

section

variable {crates : Crates} {router : ConfigurableRouter} {signed : SignedVerifiedCallContext}
  {payload : List UInt8} {admitted : Admitted} {context : VerifiedCallContext}
  {env : Env} {w : Tables} {now : UInt64}

/-! ## Frames -/

theorem uses_after {e : Step} (h : ∀ row, e.cmd ≠ .sql (.insertScopedUse row)) :
    (machine.after e).scopedNullifierUses = e.before.scopedNullifierUses := by
  rcases after_eq e with heq | ⟨statement, hcmd, heq⟩
  · rw [heq]
  · rw [heq]
    cases statement with
    | insertScopedUse row => exact absurd hcmd (h row)
    | insertReceiptWithEvent receipt event =>
      simp only [Tables.apply, Tables.insertReceiptWithEvent]
      split <;> rfl
    | applySchema | deleteExpiredReplay | deleteExpiredDevgraph | insertReplay | insertEvent
    | insertTelemetry => rfl

theorem run_uses {α : Type} {p : Program α}
    (hp : p.Only fun c => ∀ row, c ≠ .sql (.insertScopedUse row)) :
    (machine.run env w p).world.scopedNullifierUses = w.scopedNullifierUses := by
  refine (Machine.run_chained env w p).invariant
    (P := fun w' => w'.scopedNullifierUses = w.scopedNullifierUses) (fun e he heq => ?_) rfl
  rw [uses_after ((Machine.run_follows env w p).only hp e he), heq]

theorem run_uses_of_audit {α : Type} {p : Program α}
    (hp : p.Only fun c => c.isAudit ∨ c.isExecute) :
    (machine.run env w p).world.scopedNullifierUses = w.scopedNullifierUses := by
  refine run_uses (hp.mono ?_)
  rintro c hc row rfl
  simp [Cmd.isAudit, Cmd.isExecute] at hc

/-! ## The replay reservation -/

def afterPrune (env : Env) (w : Tables) (now : UInt64) : Tables :=
  if isClockReadFailure now ∨ env.fails (.deleteExpiredReplay (asI64 now)) then w
  else (w.deleteExpiredReplay (asI64 now)).2

theorem run_prune_world :
    (machine.run env w (pruneExpiredReplayReservations now)).world = afterPrune env w now := by
  unfold pruneExpiredReplayReservations afterPrune
  by_cases hclock : isClockReadFailure now
  · simp [hclock]
  · by_cases hfails : env.fails (.deleteExpiredReplay (asI64 now))
    · simp [hclock, hfails, sql, Prog.perform, machine]
    · simp [hclock, hfails, sql, Prog.perform, machine, Tables.apply]

/-- The insert finds the key free, after the prune. -/
structure ReservationGranted (env : Env) (w : Tables) (context : VerifiedCallContext)
    (signerKeyId : String) (now : UInt64) : Prop where
  stored : env.fails (.insertReplay (replayReservation context signerKeyId now)) = false
  free : replayKey context ∉ (afterPrune env w now).replayReservations.keys

theorem run_reserveReplay {signerKeyId : String} :
    (machine.run env w (reserveReplay context signerKeyId now)).result = some .reserved ↔
      ReservationGranted env w context signerKeyId now := by
  unfold reserveReplay
  rw [Machine.run_bind]
  simp only [run_prune_world, sql_bind, Machine.run_step_result]
  generalize hrow : replayReservation context signerKeyId now = row
  have hkey : row.key = replayKey context := by rw [← hrow]; rfl
  by_cases hfails : env.fails (.insertReplay row)
  · have hexec : (machine.exec env (afterPrune env w now) (.sql (.insertReplay row))).1 = none := by
      simp [machine, hfails]
    simp only [hexec, Prog.pure_eq_done, Machine.run_done]
    constructor
    · intro h; cases h
    · rintro ⟨hstored, -⟩
      rw [hrow, hfails] at hstored
      cases hstored
  · have hexec : (machine.exec env (afterPrune env w now) (.sql (.insertReplay row))).1 =
        some ((afterPrune env w now).replayReservations.insertOrIgnore row).1 := by
      simp [machine, hfails, Tables.apply, Tables.insertReplay]
    by_cases hmem : row.key ∈ (afterPrune env w now).replayReservations.keys
    · simp only [hexec, Table.insertOrIgnore_count_zero.mpr hmem, Prog.pure_eq_done,
        Machine.run_done]
      constructor
      · intro h; cases h
      · rintro ⟨-, hfree⟩
        exact absurd (hkey ▸ hmem) hfree
    · simp only [hexec, (Table.insertOrIgnore_of_notMem hmem).1, Prog.pure_eq_done,
        Machine.run_done, true_iff]
      exact ⟨by rw [hrow]; simpa using hfails, hkey ▸ hmem⟩

theorem run_reserveReplay_uses {signerKeyId : String} :
    (machine.run env w (reserveReplay context signerKeyId now)).world.scopedNullifierUses =
      w.scopedNullifierUses := by
  refine run_uses ((reserveReplay_only _ _ _).mono ?_)
  rintro c (⟨-, rfl⟩ | rfl) row <;> simp

/-! ## The scoped use -/

def useRefusal : Option ℕ → Option String
  | none => some scopedNullifierStorageFailedReason
  | some 0 => some NullifierReason.duplicateNullifier.asStr
  | some _ => none

theorem run_enforceScopedUse_unrequired (hrequired : scopedUseRequired context = false) :
    machine.run env w (enforceScopedUse crates context now) = ⟨none, [], w⟩ := by
  simp [enforceScopedUse, hrequired]

theorem run_enforceScopedUse_unusable {reason : NullifierReason}
    (hrequired : scopedUseRequired context)
    (h : ScopedNullifierEvidence.fromContext crates context = .error reason) :
    machine.run env w (enforceScopedUse crates context now) = ⟨some reason.asStr, [], w⟩ := by
  simp [enforceScopedUse, hrequired, h]

variable {row : ScopedNullifierUse} {evidence : ScopedNullifierEvidence}

theorem run_enforceScopedUse_usable (hrequired : scopedUseRequired context)
    (h : ScopedNullifierEvidence.fromContext crates context = .ok evidence)
    (hrow : row = scopedNullifierUse crates evidence context now) :
    machine.run env w (enforceScopedUse crates context now) =
      ⟨useRefusal (machine.exec env w (.sql (.insertScopedUse row))).1,
        [⟨env, w, .sql (.insertScopedUse row)⟩],
        (machine.exec env w (.sql (.insertScopedUse row))).2⟩ := by
  unfold enforceScopedUse recordScopedNullifierUse
  simp only [hrequired, if_true, h, ← hrow, sql_bind, Prog.step_bind, Machine.run]
  rcases (machine.exec env w (.sql (.insertScopedUse row))).1 with - | _ | n <;> rfl

/-- The insert finds the use's key free. -/
structure UseGranted (crates : Crates) (env : Env) (w : Tables) (context : VerifiedCallContext)
    (now : UInt64) (evidence : ScopedNullifierEvidence) : Prop where
  usable : ScopedNullifierEvidence.fromContext crates context = .ok evidence
  stored : env.fails (.insertScopedUse (scopedNullifierUse crates evidence context now)) = false
  free : scopedUseKey crates evidence ∉ w.scopedNullifierUses.keys

theorem exec_insertScopedUse_fails (hfails : env.fails (.insertScopedUse row)) :
    machine.exec env w (.sql (.insertScopedUse row)) = (none, w) := by
  simp [machine, hfails]

theorem exec_insertScopedUse_used (hstored : env.fails (.insertScopedUse row) = false)
    (hused : row.key ∈ w.scopedNullifierUses.keys) :
    machine.exec env w (.sql (.insertScopedUse row)) = (some 0, w) := by
  simp [machine, hstored, Tables.apply, Tables.insertScopedUse, Table.insertOrIgnore_of_mem hused]

theorem exec_insertScopedUse_free (hstored : env.fails (.insertScopedUse row) = false)
    (hfree : row.key ∉ w.scopedNullifierUses.keys) :
    (machine.exec env w (.sql (.insertScopedUse row))).1 = some 1 ∧
      (machine.exec env w (.sql (.insertScopedUse row))).2.scopedNullifierUses.rows =
        w.scopedNullifierUses.rows ++ [row] := by
  have hinsert := Table.insertOrIgnore_of_notMem hfree
  simp [machine, hstored, Tables.apply, Tables.insertScopedUse, hinsert.1, hinsert.2]

theorem run_enforceScopedUse_granted (hrequired : scopedUseRequired context)
    (h : UseGranted crates env w context now evidence) :
    (machine.run env w (enforceScopedUse crates context now)).result = none ∧
      (machine.run env w (enforceScopedUse crates context now)).world.scopedNullifierUses.rows =
        w.scopedNullifierUses.rows ++ [scopedNullifierUse crates evidence context now] := by
  rw [run_enforceScopedUse_usable hrequired h.usable rfl]
  obtain ⟨hreply, hrows⟩ := exec_insertScopedUse_free h.stored
    (show (scopedNullifierUse crates evidence context now).key ∉ _ from h.free)
  exact ⟨by rw [hreply]; rfl, hrows⟩

/-! ## The stages one after another -/

theorem run_routeVerified_admitted
    (h : preflight crates router signed payload env.clock = .ok admitted) :
    machine.run env w (routeVerified crates router signed payload) =
      let next := machine.run env w (routeAdmitted crates router admitted payload env.clock)
      ⟨next.result, ⟨env, w, .readClock⟩ :: next.events, next.world⟩ := by
  have hclock : machine.exec env w .readClock = (env.clock, w) := rfl
  simp only [routeVerified, readClock_bind, Machine.run, hclock, h]

theorem run_routeVerified_refused {refusal : Refusal}
    (h : preflight crates router signed payload env.clock = .error refusal) :
    machine.run env w (routeVerified crates router signed payload) =
      let next := machine.run env w (refuse crates router refusal env.clock)
      ⟨next.result, ⟨env, w, .readClock⟩ :: next.events, next.world⟩ := by
  have hclock : machine.exec env w .readClock = (env.clock, w) := rfl
  simp only [routeVerified, readClock_bind, Machine.run, hclock, h]

theorem run_routeAdmitted_reserved (h : ReservationGranted env w admitted.routed.context
      admitted.routed.signerKeyId now) :
    machine.run env w (routeAdmitted crates router admitted payload now) =
      let reserve := machine.run env w
        (reserveReplay admitted.routed.context admitted.routed.signerKeyId now)
      let next := machine.run env reserve.world (routeReserved crates router admitted payload now)
      ⟨next.result, reserve.events ++ next.events, next.world⟩ := by
  unfold routeAdmitted
  simp only [Machine.run_bind, run_reserveReplay.mpr h]

theorem run_routeAdmitted_refused (h : ¬ ReservationGranted env w admitted.routed.context
      admitted.routed.signerKeyId now) :
    ∃ reason, machine.run env w (routeAdmitted crates router admitted payload now) =
      let reserve := machine.run env w
        (reserveReplay admitted.routed.context admitted.routed.signerKeyId now)
      let next := machine.run env reserve.world
        (refuse crates router ⟨admitted.routed, reason, .receipt⟩ now)
      ⟨next.result, reserve.events ++ next.events, next.world⟩ := by
  have hresult := mt run_reserveReplay.mp h
  unfold routeAdmitted
  simp only [Machine.run_bind]
  rcases hreserve : (machine.run env w (reserveReplay admitted.routed.context
      admitted.routed.signerKeyId now)).result with - | (- | -)
  · exact ⟨replayReservationFailedReason, rfl⟩
  · exact absurd hreserve hresult
  · exact ⟨replayDetectedReason, rfl⟩

theorem run_routeReserved_passed
    (h : (machine.run env w (enforceScopedUse crates admitted.routed.context now)).result = none) :
    machine.run env w (routeReserved crates router admitted payload now) =
      let use := machine.run env w (enforceScopedUse crates admitted.routed.context now)
      let next := machine.run env use.world (routeOwned crates router admitted payload now)
      ⟨next.result, use.events ++ next.events, next.world⟩ := by
  unfold routeReserved
  simp only [Machine.run_bind, h]

theorem run_routeReserved_refused {reason : String}
    (h : (machine.run env w (enforceScopedUse crates admitted.routed.context now)).result =
      some reason) :
    machine.run env w (routeReserved crates router admitted payload now) =
      let use := machine.run env w (enforceScopedUse crates admitted.routed.context now)
      let next := machine.run env use.world
        (refuseExecution crates router admitted.routed reason now)
      ⟨next.result, use.events ++ next.events, next.world⟩ := by
  unfold routeReserved
  simp only [Machine.run_bind, h]

/-! ## Reaching the handler -/

/-- The three conditions between the reservations and the handler. -/
structure Dispatchable (router : ConfigurableRouter) (context : VerifiedCallContext)
    (payload : List UInt8) (now : UInt64) : Prop where
  permitted : permissionDenial router context now = none
  fits : payload.length ≤ router.limits.maxPayloadBytes
  registered : ∃ handlerId, context.handlerId = some handlerId ∧ router.programs handlerId

theorem dispatch_eq_startHandler {handlerId : String}
    (hfits : payload.length ≤ router.limits.maxPayloadBytes)
    (hid : admitted.routed.context.handlerId = some handlerId)
    (hprogram : router.programs handlerId) :
    dispatch crates router admitted payload now =
      startHandler crates router admitted handlerId payload now := by
  simp [dispatch, not_lt.mpr hfits, hid, hprogram]

/-- A dispatch that does not start the handler is a rejection after the start. -/
theorem dispatch_eq_reject
    (h : ¬ (payload.length ≤ router.limits.maxPayloadBytes ∧
      ∃ handlerId, admitted.routed.context.handlerId = some handlerId ∧
        router.programs handlerId)) :
    ∃ reason ∈ ["payload_too_large", "handler_unavailable"],
      dispatch crates router admitted payload now =
        postStartExecutionRejection crates router admitted.descriptor admitted.receiptSigned
          reason now := by
  unfold dispatch
  by_cases hfits : payload.length ≤ router.limits.maxPayloadBytes
  · refine ⟨"handler_unavailable", by simp, ?_⟩
    cases hid : admitted.routed.context.handlerId with
    | none => simp [not_lt.mpr hfits]
    | some handlerId =>
      have hprogram : router.programs handlerId = false := by
        by_contra hregistered
        exact h ⟨hfits, handlerId, hid, by simpa using hregistered⟩
      simp [not_lt.mpr hfits, hprogram]
  · exact ⟨"payload_too_large", by simp, by simp [not_le.mp hfits]⟩

theorem run_startHandler_starts (handlerId : String) :
    ∃ e ∈ (machine.run env w
      (startHandler crates router admitted handlerId payload now)).events,
      startedFor e.cmd = some admitted.routed.context := by
  unfold startHandler
  rw [Machine.run_bind]
  exact ⟨_, List.mem_append_right _ List.mem_cons_self, rfl⟩

theorem run_routeOwned_starts
    (h : Dispatchable router admitted.routed.context payload now) :
    ∃ e ∈ (machine.run env w (routeOwned crates router admitted payload now)).events,
      startedFor e.cmd = some admitted.routed.context := by
  obtain ⟨handlerId, hid, hprogram⟩ := h.registered
  unfold routeOwned
  simp only [Machine.run_bind, h.permitted, dispatch_eq_startHandler h.fits hid hprogram]
  obtain ⟨e, he, hstart⟩ := run_startHandler_starts handlerId
  exact ⟨e, List.mem_append_right _ he, hstart⟩

theorem UseGranted.congr {w' : Tables} (h : UseGranted crates env w context now evidence)
    (huses : w'.scopedNullifierUses = w.scopedNullifierUses) :
    UseGranted crates env w' context now evidence :=
  ⟨h.usable, h.stored, huses ▸ h.free⟩

/-- Nothing but the gates keeps an admitted call that runs alone from its handler. -/
theorem run_routeAdmitted_starts
    (hreserve : ReservationGranted env w admitted.routed.context admitted.routed.signerKeyId now)
    (huse : scopedUseRequired admitted.routed.context →
      ∃ evidence, UseGranted crates env w admitted.routed.context now evidence)
    (hdispatch : Dispatchable router admitted.routed.context payload now) :
    ∃ e ∈ (machine.run env w (routeAdmitted crates router admitted payload now)).events,
      startedFor e.cmd = some admitted.routed.context := by
  have hpassed : ∀ w', w'.scopedNullifierUses = w.scopedNullifierUses →
      (machine.run env w' (enforceScopedUse crates admitted.routed.context now)).result =
        none := by
    intro w' huses
    by_cases hrequired : scopedUseRequired admitted.routed.context
    · obtain ⟨evidence, hgranted⟩ := huse hrequired
      exact (run_enforceScopedUse_granted hrequired (hgranted.congr huses)).1
    · rw [run_enforceScopedUse_unrequired (by simpa using hrequired)]
  rw [run_routeAdmitted_reserved hreserve]
  simp only [run_routeReserved_passed (hpassed _ run_reserveReplay_uses)]
  obtain ⟨e, he, hstart⟩ := run_routeOwned_starts hdispatch
  exact ⟨e, List.mem_append_right _ (List.mem_append_right _ he), hstart⟩

theorem run_routeVerified_starts
    (hpre : preflight crates router signed payload env.clock = .ok admitted)
    (hreserve : ReservationGranted env w admitted.routed.context admitted.routed.signerKeyId
      env.clock)
    (huse : scopedUseRequired admitted.routed.context →
      ∃ evidence, UseGranted crates env w admitted.routed.context env.clock evidence)
    (hdispatch : Dispatchable router admitted.routed.context payload env.clock) :
    ∃ e ∈ (machine.run env w (routeVerified crates router signed payload)).events,
      startedFor e.cmd = some admitted.routed.context := by
  obtain ⟨e, he, hstart⟩ := run_routeAdmitted_starts hreserve huse hdispatch
  rw [run_routeVerified_admitted hpre]
  exact ⟨e, List.mem_cons_of_mem _ he, hstart⟩

/-! ## Ending in a refusal -/

theorem refuseExecution_returns (reason : String) :
    (refuseExecution crates router signed reason now).Returns
      (·.response.decision = .rejected) :=
  .bind fun _ => .bind fun _ => rfl

theorem postStartExecutionRejection_returns (d : OperationDescriptor) (reason : String) :
    (postStartExecutionRejection crates router d signed reason now).Returns
      (·.response.decision = .rejected) := by
  refine .bind fun id => ?_
  cases id with
  | none => rfl
  | some id => exact .bind fun _ => rfl

theorem run_routeOwned_refused
    (h : ¬ Dispatchable router admitted.routed.context payload now) :
    (machine.run env w (routeOwned crates router admitted payload now)).result.response.decision =
        .rejected ∧
      ∀ e ∈ (machine.run env w (routeOwned crates router admitted payload now)).events,
        ¬ e.cmd.isExecute := by
  have hshape : (routeOwned crates router admitted payload now).Returns
        (·.response.decision = .rejected) ∧
      (routeOwned crates router admitted payload now).Only (·.isAudit) := by
    unfold routeOwned
    cases hpermission : permissionDenial router admitted.routed.context now with
    | some deny =>
      exact ⟨.bind fun _ => refuseExecution_returns _,
        (announce_only _).bind fun _ => refuseExecution_only _⟩
    | none =>
      have hreject : ∃ reason ∈ ["payload_too_large", "handler_unavailable"],
          dispatch crates router admitted payload now = postStartExecutionRejection crates router
            admitted.descriptor admitted.receiptSigned reason now :=
        dispatch_eq_reject fun hready => h ⟨hpermission, hready.1, hready.2⟩
      obtain ⟨reason, -, hdispatch⟩ := hreject
      simp only [hdispatch]
      exact ⟨.bind fun _ => postStartExecutionRejection_returns _ _,
        (announce_only _).bind fun _ => postStartExecutionRejection_only _ _⟩
  refine ⟨Machine.run_returns hshape.1 env w, fun e he => ?_⟩
  exact not_execute_of_audit ((Machine.run_follows env w _).only hshape.2 e he)

end

/-! ## A small receiver

One operation, no optional gate: a receiver that accepts what its own identity signed. -/

namespace Sample

def appendDescriptor : OperationDescriptor where
  opcode := 0x50
  name := "file.append"
  payloadSchema := none
  outputProfile := none
  targetKind := .receiverProductionHandler
  requiredCredentials := []
  requiredCapabilities := []
  acceptedEvidence := ["local_static"]
  requiredAuthorityMode := none
  replayScope := .sessionOpcodeNonce
  maxTtlSeconds := 600
  handlerId := "file/append"
  devBinding := false
  range := .operatorDefined
  disclosurePolicy := .denyByDefault "p" 1

def identity : VerifierKeys.NodeVerifierIdentity :=
  ⟨"verifier:node-a", Bytes.filled 32 7, .ed25519NodeAndVerifier⟩

def receiver (crates : Crates) (programs : String → Bool) : ConfigurableRouter where
  programs := programs
  limits := ⟨1024, 1024, 30⟩
  identity := identity
  verifierKeys := identity.ownRegistry crates
  callerKeys := none
  expectedAudience := "secS://receiver-a"
  manifest := .new [appendDescriptor]
  permissionPolicy := none
  evidenceAdapter := none
  proofKeyRegistry := none
  proofMetadataPolicies := fun _ => none

def appendReceiver : ConfigurableRouter := receiver .transparent (· = "file/append")

def context (crates : Crates) (nonce : UInt8) (summary : List String) (expiresAt : UInt64) :
    VerifiedCallContext where
  schemaVersion := 4
  contextId := "ctx-1"
  packetHash := Bytes.filled 32 1
  sessionId := Bytes.filled 16 2
  nonce := Bytes.filled 12 nonce
  opcode := 0x50
  operation := "file.append"
  resource := some "file:///notes/a"
  subject := ⟨"did:example:alpha", "caller:alpha"⟩
  audience := "secS://receiver-a"
  evidenceSummary := summary
  proofMetadata := none
  capabilityResult := ""
  credentialResult := ""
  issuedAt := 100
  expiresAt := expiresAt
  descriptorFingerprint := appendDescriptor.authorizationFingerprint crates
  replayScope := "session:opcode:nonce"
  handlerId := some "file/append"

def signed (crates : Crates) (nonce : UInt8) (summary : List String) (expiresAt : UInt64) :
    SignedVerifiedCallContext :=
  identity.signContext crates (context crates nonce summary expiresAt)

def scopedSummary (commitment : String) : List String :=
  ["scoped_use_required", "nullifier_commitment:" ++ commitment, "nullifier_epoch:e",
    "nullifier_issuer:i", "nullifier_root:r", "subject_commitment:s"]

/-- Nothing fails and every handler succeeds. -/
def env (clock : UInt64) : Env := ⟨clock, fun _ => false, fun _ _ _ _ => some .succeeded⟩

end Sample

end RouterRuns
