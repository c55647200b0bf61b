import SecsMagik.RouterRuns

/-! # The receipts of a call

Which receipts a call that runs alone leaves in the ledger: each stage writes its drafts, as far as
they can be signed and their ids are free.
-/
namespace ReceiptRuns

open RustStd
open ExternalCrates (Crates)
open CallContext ReceiverManifest ScopedNullifier Receipts Ledger AtomicPrograms UniqueTable
open GatewayMachine GatewayRouter RouterTraces RouterRuns

/-! ## Receipts in the ledger -/

/-- The step put the receipt into the ledger, where its id was free. -/
structure WritesReceipt (e : Step) (r : Receipt) : Prop where
  cmd : ∃ event, e.cmd = .sql (.insertReceiptWithEvent r event)
  fresh : r.receiptId ∉ e.before.receipts.keys
  stored : r ∈ (machine.after e).receipts.rows

def Written (es : List Step) (r : Receipt) : Prop := ∃ e ∈ es, WritesReceipt e r

def RecordsNewUse (es : List Step) : Prop := ∃ e ∈ es, ∃ row, RecordsUse e row

/-- The receipt that a step puts into the ledger. -/
def written? (e : Step) : Option Receipt :=
  match e.cmd with
  | .sql (.insertReceiptWithEvent r _) =>
    if (∀ row ∈ e.before.receipts.rows, row.receiptId ≠ r.receiptId) ∧
      r ∈ (machine.after e).receipts.rows then some r else none
  | _ => none

theorem written_of_mem {es : List Step} {r : Receipt} (h : r ∈ es.filterMap written?) :
    Written es r := by
  obtain ⟨e, he, hr⟩ := List.mem_filterMap.mp h
  refine ⟨e, he, ?_⟩
  unfold written? at hr
  split at hr
  · next r' event hcmd =>
      split_ifs at hr with hstored
      cases hr
      exact ⟨⟨event, hcmd⟩, fun ⟨row, hrow, hkey⟩ => hstored.1 row hrow hkey, hstored.2⟩
  · cases hr

variable {r : Receipt}

theorem written_append {es fs : List Step} :
    Written (es ++ fs) r ↔ Written es r ∨ Written fs r := by
  simp only [Written, List.mem_append, or_and_right, exists_or]

theorem written_cons {e : Step} {es : List Step} :
    Written (e :: es) r ↔ WritesReceipt e r ∨ Written es r := by
  simp [Written]

theorem recordsNewUse_append {es fs : List Step} :
    RecordsNewUse (es ++ fs) ↔ RecordsNewUse es ∨ RecordsNewUse fs := by
  simp only [RecordsNewUse, List.mem_append, or_and_right, exists_or]

theorem recordsNewUse_cons {e : Step} {es : List Step} :
    RecordsNewUse (e :: es) ↔ (∃ row, RecordsUse e row) ∨ RecordsNewUse es := by
  simp [RecordsNewUse]

theorem writesReceipt_iff {env : Env} {w : Tables} {r r' : Receipt} {event : AuditEvent} :
    WritesReceipt ⟨env, w, .sql (.insertReceiptWithEvent r event)⟩ r' ↔
      r' = r ∧ env.fails (.insertReceiptWithEvent r event) = false ∧
        r.receiptId ∉ w.receipts.keys := by
  constructor
  · rintro ⟨⟨event', hcmd⟩, hfresh, hstored⟩
    have hr : r = r' := by
      injection hcmd with hcmd
      injection hcmd
    subst hr
    refine ⟨rfl, ?_, hfresh⟩
    by_contra hfails
    rw [Bool.not_eq_false] at hfails
    have hsame : machine.after ⟨env, w, .sql (.insertReceiptWithEvent r event)⟩ = w := by
      simp [Machine.after, machine, hfails]
    rw [hsame] at hstored
    exact hfresh ⟨r, hstored, rfl⟩
  · rintro ⟨rfl, hstored, hfresh⟩
    refine ⟨⟨event, rfl⟩, hfresh, ?_⟩
    obtain ⟨hcount, hrows⟩ := Table.insertOrIgnore_of_notMem hfresh
    simp [Machine.after, machine, hstored, Tables.apply, Tables.insertReceiptWithEvent, hcount,
      hrows]

def NoReceipt (c : Cmd) : Prop := ∀ r event, c ≠ .sql (.insertReceiptWithEvent r event)

def NoUse (c : Cmd) : Prop := ∀ row, c ≠ .sql (.insertScopedUse row)

theorem not_written {es : List Step} (h : ∀ e ∈ es, NoReceipt e.cmd) (r : Receipt) :
    ¬ Written es r := by
  rintro ⟨e, he, ⟨event, hcmd⟩, -, -⟩
  exact h e he r event hcmd

theorem not_recordsNewUse {es : List Step} (h : ∀ e ∈ es, NoUse e.cmd) :
    ¬ RecordsNewUse es := by
  rintro ⟨e, he, row, hrecords⟩
  exact h e he row hrecords.cmd

theorem receipts_after {e : Step} (h : NoReceipt e.cmd) :
    (machine.after e).receipts = e.before.receipts := by
  rcases after_eq e with heq | ⟨statement, hcmd, heq⟩
  · rw [heq]
  · rw [heq]
    cases statement with
    | insertReceiptWithEvent r event => exact absurd hcmd (h r event)
    | applySchema | deleteExpiredReplay | deleteExpiredDevgraph | insertReplay | insertScopedUse
    | insertEvent | insertTelemetry => rfl

section

variable {crates : Crates} {router : ConfigurableRouter} {signed : SignedVerifiedCallContext}
  {payload : List UInt8} {admitted : Admitted} {env : Env} {w : Tables} {now : UInt64}

theorem run_receipts {α : Type} {p : Program α} (hp : p.Only NoReceipt) :
    (machine.run env w p).world.receipts = w.receipts := by
  refine (Machine.run_chained env w p).invariant (P := fun w' => w'.receipts = w.receipts)
    (fun e he heq => ?_) rfl
  rw [receipts_after ((Machine.run_follows env w p).only hp e he), heq]

theorem run_not_written {α : Type} {p : Program α} (hp : p.Only NoReceipt) (r : Receipt) :
    ¬ Written (machine.run env w p).events r :=
  not_written ((Machine.run_follows env w p).only hp) r

theorem run_not_recordsNewUse {α : Type} {p : Program α} (hp : p.Only NoUse) :
    ¬ RecordsNewUse (machine.run env w p).events :=
  not_recordsNewUse ((Machine.run_follows env w p).only hp)

theorem noUse_of_audit {c : Cmd} (h : c.isAudit ∨ c.isExecute) : NoUse c := by
  rintro row rfl
  simp [Cmd.isAudit, Cmd.isExecute] at h

theorem recordOperationEvent_noReceipt (kind : ReceiptEventKind) (reason : Option String) :
    (recordOperationEvent kind signed now reason).Only NoReceipt := by
  refine Prog.Only.bind ?_ fun _ => trivial
  exact Prog.Only.bind (Prog.only_perform (by simp [NoReceipt])) fun _ => trivial

theorem reserveReplay_noReceipt (context : VerifiedCallContext) (signerKeyId : String) :
    (reserveReplay context signerKeyId now).Only NoReceipt := by
  refine (reserveReplay_only _ _ _).mono ?_
  rintro c (⟨-, rfl⟩ | rfl) <;> simp [NoReceipt]

theorem reserveReplay_noUse (context : VerifiedCallContext) (signerKeyId : String) :
    (reserveReplay context signerKeyId now).Only NoUse := by
  refine (reserveReplay_only _ _ _).mono ?_
  rintro c (⟨-, rfl⟩ | rfl) <;> simp [NoUse]

theorem enforceScopedUse_noReceipt (context : VerifiedCallContext) :
    (enforceScopedUse crates context now).Only NoReceipt := by
  refine (enforceScopedUse_only _).mono ?_
  rintro c ⟨row, rfl⟩
  simp [NoReceipt]

/-! ## Drafts and what becomes of them -/

variable {identity : VerifierKeys.NodeVerifierIdentity}

theorem signReceipt_content {draft r : Receipt} (h : signReceipt crates identity draft = .ok r) :
    ∃ signature, r = { draft with
      signerKeyId := identity.signerKeyId
      authenticatorKind := identity.authenticatorKind
      signature := signature } := by
  obtain ⟨bytes, -, hr⟩ := bind_eq_ok.mp h
  exact ⟨_, (Except.ok.inj hr).symm⟩

theorem signReceipt_ok {draft r : Receipt} (h : signReceipt crates identity draft = .ok r) :
    r.receiptId = draft.receiptId ∧ r.kind = draft.kind ∧
      r.evidenceSummary = draft.evidenceSummary := by
  obtain ⟨signature, rfl⟩ := signReceipt_content h
  exact ⟨rfl, rfl, rfl⟩

variable {draft : Receipt}

/-- What a draft must be for its output projection, if it has one, to be signed. -/
theorem exists_signReceipt (hversion : draft.schemaVersion = 3) :
    (∃ r, signReceipt crates identity draft = .ok r) ↔
      ∀ p ∈ draft.outputProjection, draft.kind = .execute ∧ draft.decision = .accepted ∧
        draft.reason = none ∧ p.schemaId ≠ "" := by
  let unsigned := { draft with
    signerKeyId := identity.signerKeyId
    authenticatorKind := identity.authenticatorKind
    signature := [] }
  have hbytes : (∃ r, signReceipt crates identity draft = .ok r) ↔
      unsigned.validateOutputProjection = .ok () := by
    constructor
    · rintro ⟨r, hsign⟩
      obtain ⟨bytes, hbytes, -⟩ := bind_eq_ok.mp hsign
      obtain ⟨⟨⟩, hvalid, -⟩ := bind_eq_ok.mp hbytes
      exact hvalid
    · intro hvalid
      have hpayload : unsigned.signedPayloadBytes = .ok unsigned.unsignedV3 := by
        refine bind_eq_ok.mpr ⟨(), hvalid, ?_⟩
        simp [unsigned, hversion]
      exact ⟨_, bind_eq_ok.mpr ⟨_, hpayload, rfl⟩⟩
  rw [hbytes]
  unfold Receipt.validateOutputProjection
  cases hprojection : draft.outputProjection with
  | none => simp [unsigned, hversion]
  | some p => cases hreason : draft.reason <;> simp [unsigned, hversion]

/-- The draft can be signed, and the ledger takes the signed receipt. -/
structure Persists (crates : Crates) (router : ConfigurableRouter) (env : Env) (w : Tables)
    (draft r : Receipt) : Prop where
  signs : signReceipt crates router.identity draft = .ok r
  stored : env.fails (.insertReceiptWithEvent r (emittedEvent r)) = false
  free : draft.receiptId ∉ w.receipts.keys

theorem Persists.congr {w' : Tables} {draft r : Receipt}
    (hkeys : draft.receiptId ∈ w'.receipts.keys ↔ draft.receiptId ∈ w.receipts.keys) :
    Persists crates router env w' draft r ↔ Persists crates router env w draft r :=
  ⟨fun h => ⟨h.signs, h.stored, mt hkeys.mpr h.free⟩,
    fun h => ⟨h.signs, h.stored, mt hkeys.mp h.free⟩⟩

theorem written_insert {α : Type} {r r' : Receipt} {next : Option ℕ → Program α}
    (hnext : ∀ reply, (next reply).Only NoReceipt) :
    Written (machine.run env w
        (sql (.insertReceiptWithEvent r (emittedEvent r)) >>= next)).events r' ↔
      r' = r ∧ env.fails (.insertReceiptWithEvent r (emittedEvent r)) = false ∧
        r.receiptId ∉ w.receipts.keys := by
  rw [sql_bind, Machine.run_step_events, written_cons, writesReceipt_iff]
  exact or_iff_left (run_not_written (hnext _) r')

theorem written_recordSignedReceipt {draft r : Receipt} :
    Written (machine.run env w (recordSignedReceipt crates router draft)).events r ↔
      Persists crates router env w draft r := by
  unfold recordSignedReceipt
  cases hsign : signReceipt crates router.identity draft with
  | error e =>
    refine iff_of_false (not_written (by simp) r) ?_
    rintro ⟨hsigns, -, -⟩
    rw [hsign] at hsigns
    cases hsigns
  | ok signed =>
    obtain ⟨hid, -, -⟩ := signReceipt_ok hsign
    let next : Option ℕ → Program Unit := fun _ => .done ()
    change Written (machine.run env w (sql (.insertReceiptWithEvent signed
      (emittedEvent signed)) >>= next)).events r ↔ _
    have hnext : ∀ reply, (next reply).Only NoReceipt := fun _ => trivial
    rw [written_insert hnext, hid]
    constructor
    · rintro ⟨rfl, hstored, hfree⟩
      exact ⟨hsign, hstored, hfree⟩
    · rintro ⟨hsigns, hstored, hfree⟩
      rw [hsign] at hsigns
      cases hsigns
      exact ⟨rfl, hstored, hfree⟩

theorem run_recordSignedReceipt_keys {id : String} (hid : draft.receiptId ≠ id) :
    id ∈ (machine.run env w (recordSignedReceipt crates router draft)).world.receipts.keys ↔
      id ∈ w.receipts.keys := by
  unfold recordSignedReceipt
  cases hsign : signReceipt crates router.identity draft with
  | error e => rfl
  | ok signed =>
    obtain ⟨hsame, -, -⟩ := signReceipt_ok hsign
    simp only [recordReceiptWithEmittedEvent, sql_bind, Prog.step_bind, Machine.run_step_world,
      Prog.pure_eq_done, Prog.done_bind, Machine.run_done]
    by_cases hfails : env.fails (.insertReceiptWithEvent signed (emittedEvent signed))
    · simp [machine, hfails]
    · by_cases hmem : signed.receiptId ∈ w.receipts.keys
      · simp [machine, hfails, Tables.apply, Tables.insertReceiptWithEvent,
          Table.insertOrIgnore_of_mem hmem]
      · have hkeys := Table.keys_insertOrIgnore w.receipts signed
        have hne : id ≠ signed.receiptId := fun heq => hid (hsame ▸ heq.symm)
        simp [machine, hfails, Tables.apply, Tables.insertReceiptWithEvent,
          (Table.insertOrIgnore_of_notMem hmem).1, hkeys, hne]

theorem written_bind_left {α β : Type} {p : Program α} {f : α → Program β}
    (hf : ∀ a, (f a).Only NoReceipt) :
    Written (machine.run env w (p >>= f)).events r ↔ Written (machine.run env w p).events r := by
  rw [Machine.run_bind, written_append]
  exact or_iff_left (run_not_written (hf _) r)

theorem written_bind_right {α β : Type} {p : Program α} {f : α → Program β}
    (hp : p.Only NoReceipt) :
    Written (machine.run env w (p >>= f)).events r ↔
      Written (machine.run env (machine.run env w p).world
        (f (machine.run env w p).result)).events r := by
  rw [Machine.run_bind, written_append]
  exact or_iff_right (run_not_written hp r)

/-- The execute receipt of a finished execution, before it is signed. -/
def outcomeDraft (crates : Crates) (d : OperationDescriptor) (signed : SignedVerifiedCallContext)
    (outcome : HandlerOutcome) (now : UInt64) : Except VerificationError Receipt :=
  let id := receiptId "execute" now signed.context
  match d.outputProfile with
  | some profile => Receipt.executionWithOutput crates id signed.context outcome.decision
      outcome.reason now (outcome.output.map fun _ => profile.schemaId) outcome.output
  | none => .ok (.execution crates id signed.context outcome.decision outcome.reason now)

theorem written_recordExecutionReceiptRequired {decision : Decision} {reason schema : Option String}
    {output : Option (List UInt8)} :
    Written (machine.run env w (recordExecutionReceiptRequired crates router signed decision reason
        now schema output)).events r ↔
      ∃ draft, Receipt.executionWithOutput crates (receiptId "execute" now signed.context)
        signed.context decision reason now schema output = .ok draft ∧
        Persists crates router env w draft r := by
  unfold recordExecutionReceiptRequired
  cases hdraft : Receipt.executionWithOutput crates (receiptId "execute" now signed.context)
      signed.context decision reason now schema output with
  | error e =>
    refine iff_of_false (not_written (by simp [hdraft]) r) ?_
    rintro ⟨draft, ⟨⟩, -⟩
  | ok draft =>
    -- the strict variant stores the same receipt and only reports more
    have hsame : ∀ r, Written (machine.run env w (recordExecutionReceiptRequired crates router
        signed decision reason now schema output)).events r ↔
          Written (machine.run env w (recordSignedReceipt crates router draft)).events r := by
      intro r
      unfold recordExecutionReceiptRequired recordSignedReceipt
      simp only [hdraft]
      cases signReceipt crates router.identity draft with
      | error e => rfl
      | ok receipt =>
        refine (written_bind_left ?_).trans (written_bind_left ?_).symm
        · exact fun _ => trivial
        · exact fun _ => trivial
    have hwritten := (hsame r).trans written_recordSignedReceipt
    unfold recordExecutionReceiptRequired at hwritten
    rw [hwritten]
    simp

variable {outcome : HandlerOutcome} {d : OperationDescriptor}

theorem written_recordOutcomeReceipt :
    Written (machine.run env w (recordOutcomeReceipt crates router d signed outcome.decision
        outcome.reason outcome.output now)).events r ↔
      ∃ draft, outcomeDraft crates d signed outcome now = .ok draft ∧
        Persists crates router env w draft r := by
  unfold recordOutcomeReceipt outcomeDraft
  cases d.outputProfile with
  | some profile => exact written_recordExecutionReceiptRequired
  | none =>
    refine (written_bind_left ?_).trans ((written_bind_left ?_).trans ?_)
    · exact fun _ => trivial
    · exact fun _ => trivial
    · rw [written_recordSignedReceipt]
      simp

theorem written_refuseExecution {reason : String} :
    Written (machine.run env w (refuseExecution crates router signed reason now)).events r ↔
      Persists crates router env w (.execution crates (receiptId "execute" now signed.context)
        signed.context .rejected (some reason) now) r := by
  refine (written_bind_left fun _ => ?_).trans ((written_bind_left fun _ => ?_).trans ?_)
  · exact (recordOperationEvent_noReceipt _ _).bind fun _ => trivial
  · trivial
  · exact written_recordSignedReceipt

theorem written_postStartExecutionRejection {reason : String} :
    Written (machine.run env w
        (postStartExecutionRejection crates router d signed reason now)).events r ↔
      ∃ draft, outcomeDraft crates d signed (.rejected reason) now = .ok draft ∧
        Persists crates router env w draft r := by
  refine (written_bind_left fun id => ?_).trans ?_
  · cases id with
    | none => trivial
    | some id => exact (recordOperationEvent_noReceipt _ _).bind fun _ => trivial
  · let outcome : HandlerOutcome := .rejected reason
    exact show Written (machine.run env w (recordOutcomeReceipt crates router d signed
      outcome.decision outcome.reason outcome.output now)).events r ↔ _ from
        written_recordOutcomeReceipt

theorem written_concludeExecution :
    Written (machine.run env w
        (concludeExecution crates router admitted outcome now)).events r ↔
      ∃ draft, outcomeDraft crates admitted.descriptor admitted.receiptSigned outcome now =
        .ok draft ∧ Persists crates router env w draft r := by
  refine (written_bind_left fun id => ?_).trans written_recordOutcomeReceipt
  cases id with
  | none => trivial
  | some id => exact (recordOperationEvent_noReceipt _ _).bind fun _ => trivial

/-- What the handler's answer counts as. -/
def handlerVerdict (router : ConfigurableRouter) (admitted : Admitted) (payload : List UInt8)
    (env : Env) (handlerId : String) : HandlerOutcome :=
  let limits := handlerLimits router admitted.descriptor
  normalizeHandlerOutcome admitted.descriptor limits
    ((env.handler handlerId admitted.routed.context payload limits).getD
      (.rejected "handler_timeout"))

theorem written_startHandler {handlerId : String} :
    Written (machine.run env w
        (startHandler crates router admitted handlerId payload now)).events r ↔
      ∃ draft, outcomeDraft crates admitted.descriptor admitted.receiptSigned
        (handlerVerdict router admitted payload env handlerId) now = .ok draft ∧
        Persists crates router env w draft r := by
  let announced := recordOperationEvent .handlerStarted admitted.routed now
    (some ("payload_size:" ++ decimal payload.length))
  have hevent : announced.Only NoReceipt := recordOperationEvent_noReceipt _ _
  have hreceipts : (machine.run env w announced).world.receipts = w.receipts := run_receipts hevent
  refine (written_bind_right hevent).trans ?_
  refine (written_bind_right (Prog.only_perform (by simp [NoReceipt]))).trans ?_
  refine written_concludeExecution.trans (exists_congr fun draft => and_congr_right fun _ => ?_)
  -- running the handler leaves the tables alone
  refine Persists.congr ?_
  change draft.receiptId ∈ (machine.run env w announced).world.receipts.keys ↔ _
  rw [hreceipts]

/-- How a call ends once its reservations are its own: the decision, reason and output of its
execute receipt. -/
def verdict (router : ConfigurableRouter) (admitted : Admitted) (payload : List UInt8) (env : Env)
    (now : UInt64) : HandlerOutcome :=
  match permissionDenial router admitted.routed.context now with
  | some deny => .rejected deny.code
  | none =>
    if router.limits.maxPayloadBytes < payload.length then .rejected "payload_too_large"
    else match admitted.routed.context.handlerId with
      | none => .rejected "handler_unavailable"
      | some handlerId =>
        if router.programs handlerId then handlerVerdict router admitted payload env handlerId
        else .rejected "handler_unavailable"

/-- The execute receipt that records the verdict. A denied call is recorded without the proof
binding and never strictly. -/
def closingDraft (crates : Crates) (router : ConfigurableRouter) (admitted : Admitted)
    (payload : List UInt8) (env : Env) (now : UInt64) : Except VerificationError Receipt :=
  let outcome := verdict router admitted payload env now
  match permissionDenial router admitted.routed.context now with
  | some _ => .ok (.execution crates (receiptId "execute" now admitted.routed.context)
      admitted.routed.context outcome.decision outcome.reason now)
  | none => outcomeDraft crates admitted.descriptor admitted.receiptSigned outcome now

theorem written_dispatch (hpermitted : permissionDenial router admitted.routed.context now = none) :
    Written (machine.run env w (dispatch crates router admitted payload now)).events r ↔
      ∃ draft, closingDraft crates router admitted payload env now = .ok draft ∧
        Persists crates router env w draft r := by
  simp only [closingDraft, verdict, dispatch, hpermitted]
  split
  · exact written_postStartExecutionRejection
  · cases admitted.routed.context.handlerId with
    | none => exact written_postStartExecutionRejection
    | some handlerId =>
      simp only
      split
      · exact written_startHandler
      · exact written_postStartExecutionRejection

theorem outcomeDraft_ok (h : outcomeDraft crates d signed outcome now = .ok draft) :
    draft.receiptId = receiptId "execute" now signed.context ∧ draft.kind = .execute ∧
      draft.evidenceSummary =
        receiptEvidenceSummary crates signed.context outcome.decision outcome.reason := by
  unfold outcomeDraft at h
  cases hprofile : d.outputProfile with
  | none =>
    rw [hprofile] at h
    cases h
    exact ⟨rfl, rfl, rfl⟩
  | some profile =>
    rw [hprofile] at h
    obtain ⟨projection, -, hdraft⟩ := bind_eq_ok.mp h
    cases hdraft
    exact ⟨rfl, rfl, rfl⟩

theorem closingDraft_ok (h : closingDraft crates router admitted payload env now = .ok draft) :
    ∃ context ∈ [admitted.routed.context, admitted.receiptSigned.context],
      draft.receiptId = receiptId "execute" now context ∧ draft.kind = .execute ∧
      draft.evidenceSummary = receiptEvidenceSummary crates context
        (verdict router admitted payload env now).decision
        (verdict router admitted payload env now).reason := by
  unfold closingDraft at h
  cases hpermission : permissionDenial router admitted.routed.context now with
  | some deny =>
    simp only [hpermission] at h
    cases h
    exact ⟨_, List.mem_cons_self, rfl, rfl, rfl⟩
  | none =>
    simp only [hpermission] at h
    exact ⟨_, List.mem_cons_of_mem _ List.mem_cons_self, outcomeDraft_ok h⟩

theorem char_append {head tail : String} {n : ℕ} {c : Char} (h : head.toList[n]? = some c) :
    (head ++ tail).toList[n]? = some c := by
  rw [String.toList_append, List.getElem?_append_left (List.getElem?_eq_some_iff.mp h).1]
  exact h

/-- The kind shows in the id, right behind the common head. -/
theorem receiptId_verify_ne_execute (context context' : VerifiedCallContext) :
    receiptId "verify" now context ≠ receiptId "execute" now context' := by
  have hkind : ∀ (kind : String) (c : Char) (context : VerifiedCallContext),
      ("receipt-" ++ kind).toList[8]? = some c →
        (receiptId kind now context).toList[8]? = some c := by
    intro kind c context h
    exact char_append (char_append (char_append (char_append (char_append (char_append h)))))
  intro h
  have hverify := hkind "verify" 'v' context (by decide)
  have hexecute := hkind "execute" 'e' context' (by decide)
  rw [h, hexecute] at hverify
  cases hverify

def verifyDraft (crates : Crates) (admitted : Admitted) (now : UInt64) : Receipt :=
  .verifyFromSignedContext crates (receiptId "verify" now admitted.receiptSigned.context)
    admitted.receiptSigned now

theorem run_telemetry_receipts (row : TelemetryRow) :
    (machine.run env w (sql (.insertTelemetry row))).world.receipts = w.receipts :=
  run_receipts (Prog.only_perform (by simp [NoReceipt]))

theorem written_announce :
    Written (machine.run env w (announce crates router admitted payload now)).events r ↔
      Persists crates router env w (verifyDraft crates admitted now) r := by
  refine (written_bind_right (Prog.only_perform (by simp [NoReceipt]))).trans ?_
  refine (written_bind_left fun _ => recordOperationEvent_noReceipt _ _).trans ?_
  refine (written_bind_left fun _ => ?_).trans ?_
  · exact (recordOperationEvent_noReceipt _ _).bind fun _ => trivial
  · refine written_recordSignedReceipt.trans (Persists.congr ?_)
    exact iff_of_eq (congrArg (_ ∈ ·.keys) (run_telemetry_receipts _))

/-- An id other than that of the verify receipt is as free after `announce` as before. -/
theorem run_announce_keys {id : String} (hid : (verifyDraft crates admitted now).receiptId ≠ id) :
    id ∈ (machine.run env w (announce crates router admitted payload now)).world.receipts.keys ↔
      id ∈ w.receipts.keys := by
  unfold announce recordVerifyReceipt
  simp only [Machine.run_bind, run_receipts (recordOperationEvent_noReceipt _ _),
    Prog.pure_eq_done, Machine.run_done]
  refine (run_recordSignedReceipt_keys hid).trans ?_
  rw [run_telemetry_receipts]

/-- A call that owns its reservations writes its verify receipt and its closing receipt. -/
theorem written_routeOwned :
    Written (machine.run env w (routeOwned crates router admitted payload now)).events r ↔
      Persists crates router env w (verifyDraft crates admitted now) r ∨
        ∃ draft, closingDraft crates router admitted payload env now = .ok draft ∧
          Persists crates router env w draft r := by
  have hfree : ∀ draft, closingDraft crates router admitted payload env now = .ok draft →
      (Persists crates router env
          (machine.run env w (announce crates router admitted payload now)).world draft r ↔
        Persists crates router env w draft r) := by
    intro draft hdraft
    obtain ⟨context, -, hid, -, -⟩ := closingDraft_ok hdraft
    refine Persists.congr (run_announce_keys ?_)
    rw [hid]
    exact receiptId_verify_ne_execute _ _
  unfold routeOwned
  rw [Machine.run_bind, written_append, written_announce]
  refine or_congr_right ?_
  cases hpermission : permissionDenial router admitted.routed.context now with
  | some deny =>
    have hclosing : closingDraft crates router admitted payload env now =
        .ok (.execution crates (receiptId "execute" now admitted.routed.context)
          admitted.routed.context .rejected (some deny.code) now) := by
      simp only [closingDraft, verdict, hpermission]
      rfl
    refine written_refuseExecution.trans ((hfree _ hclosing).trans ?_)
    simp [hclosing]
  | none =>
    refine (written_dispatch hpermission).trans (exists_congr fun draft => ?_)
    exact and_congr_right fun hdraft => hfree draft hdraft

end

end ReceiptRuns
