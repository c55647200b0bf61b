import SecsMagik.HandlerRuns

/-! # Outcome, receipt and response

For an operation with an output profile the outcome of a handler is seen three times: in the
execute receipt, in the decision response and in the projection that the execution transport
sends.
-/
namespace OutcomeViews

open RustStd
open ExternalCrates (Crates)
open CallContext ReceiverManifest Receipts Ledger AtomicPrograms GatewayMachine GatewayRouter
open RouterTraces RouterRuns ReceiptRuns HandlerRuns

/-! ## What the views say -/

/-- The redacted form of an output: its schema, its length and the digest of its bytes. -/
def redactedOutput (crates : Crates) (profile : OutputProfile) (output : List UInt8) :
    ReceiptOutputProjection where
  schemaId := profile.schemaId
  byteCount := UInt64.ofNat output.length
  digestSha256 := crates.sha256 (utf8 outputDigestDomain ++
    Bincode.u64 (UInt64.ofNat output.length) ++ output)

/-- All views show an execution that was accepted with this output. -/
structure ShowExecuted (crates : Crates) (router : ConfigurableRouter) (profile : OutputProfile)
    (output : List UInt8) (r : Receipt) (response : DecisionResponse)
    (p : ExecutionRouteProjection) : Prop where
  recorded : r.decision = .accepted
  answered : response.decision = .accepted
  status : p.status = .executed
  schema : p.outputSchema = some profile.schemaId
  bytes : p.output = some output
  redacted : r.outputProjection = some (redactedOutput crates profile output)
  bounded : output.length ≤ min router.limits.maxOutputBytes profile.maxOutputBytes

/-- All views show an execution that was rejected, and none shows an output. -/
structure ShowRejected (r : Receipt) (response : DecisionResponse)
    (p : ExecutionRouteProjection) : Prop where
  recorded : r.decision = .rejected
  answered : response.decision = .rejected
  status : p.status = .executionRejected
  schema : p.outputSchema = none
  bytes : p.output = none
  redacted : r.outputProjection = none

/-- The views show what became of the handler's outcome. -/
def Show (crates : Crates) (router : ConfigurableRouter) (profile : OutputProfile)
    (outcome : HandlerOutcome) (r : Receipt) (response : DecisionResponse)
    (p : ExecutionRouteProjection) : Prop :=
  match outcome.decision, outcome.output with
  | .accepted, some output => ShowExecuted crates router profile output r response p
  | _, _ => ShowRejected r response p

/-- The call left one execute receipt, which its response and its projection name, and the three
show the outcome. -/
def ViewsAgree (crates : Crates) (router : ConfigurableRouter) (profile : OutputProfile)
    (outcome : HandlerOutcome) (ran : Machine.Ran Cmd Tables Env Routed) : Prop :=
  ∃ r p, (∀ r', Written ran.events r' ∧ r'.kind = .execute ↔ r' = r) ∧
    ran.result.projection = some p ∧ ran.result.response.receiptId = some r.receiptId ∧
    p.receiptId = some r.receiptId ∧ Show crates router profile outcome r ran.result.response p

/-- An acceptance comes without a reason, the ledger takes the execute receipt it is handed, and
the id of that receipt is not taken. -/
structure Recordable (profile : OutputProfile) (outcome : HandlerOutcome)
    (signed : SignedVerifiedCallContext) (env : Env) (w : Tables) (es : List Step) : Prop where
  unexplained : outcome.decision = .accepted → outcome.reason = none ∧ profile.schemaId ≠ ""
  stored : ∀ r event, Handed es r event → r.kind = .execute →
    env.fails (.insertReceiptWithEvent r event) = false
  free : receiptId "execute" env.clock signed.context ∉ w.receipts.keys

/-! ## Normalised outcomes and their receipts -/

section

variable {crates : Crates} {router : ConfigurableRouter} {signed : SignedVerifiedCallContext}
  {payload : List UInt8} {admitted : Admitted} {env : Env} {w : Tables} {now : UInt64}
  {d : OperationDescriptor} {profile : OutputProfile} {outcome : HandlerOutcome}

/-- A normalised outcome is a rejection without output or an acceptance with one that fits. -/
inductive Normal (limits : ExecutionLimits) (outcome : HandlerOutcome) : Prop
  | rejected : outcome.decision = .rejected → outcome.output = none → Normal limits outcome
  | accepted (output : List UInt8) : outcome.decision = .accepted →
      outcome.output = some output → output.length ≤ limits.maxOutputBytes → Normal limits outcome

theorem normalizeHandlerOutcome_normal (hprofile : d.outputProfile = some profile)
    (limits : ExecutionLimits) (outcome : HandlerOutcome) :
    Normal limits (normalizeHandlerOutcome d limits outcome) := by
  unfold normalizeHandlerOutcome
  split_ifs with hunexpected hlarge hprofileless hmissing
  · exact .rejected rfl rfl
  · exact .rejected rfl rfl
  · exact .rejected rfl rfl
  · exact .rejected rfl rfl
  · cases hdecision : outcome.decision with
    | rejected =>
      refine .rejected hdecision (Option.not_isSome_iff_eq_none.mp fun hsome => ?_)
      exact hunexpected ⟨hdecision, hsome⟩
    | accepted =>
      cases houtput : outcome.output with
      | none => exact absurd ⟨by simp [hprofile], hdecision, houtput⟩ hmissing
      | some output =>
        refine .accepted output hdecision houtput ?_
        simpa [houtput] using hlarge

theorem executeReceipt_rejected (hprofile : d.outputProfile = some profile)
    (hdecision : outcome.decision = .rejected) (houtput : outcome.output = none) :
    ∃ r, executeReceipt crates router d signed outcome now = .ok r ∧ r.decision = .rejected ∧
      r.outputProjection = none := by
  let draft := Receipt.execution crates (receiptId "execute" now signed.context) signed.context
    .rejected outcome.reason now
  have hdraft : outcomeDraft crates d signed outcome now = .ok draft := by
    simp only [outcomeDraft, hprofile, hdecision, houtput]
    rfl
  have hsigns : ∃ r, signReceipt crates router.identity draft = .ok r := by
    rw [exists_signReceipt rfl]
    rintro p ⟨⟩
  obtain ⟨r, hr⟩ := hsigns
  obtain ⟨signature, rfl⟩ := signReceipt_content hr
  exact ⟨_, executeReceipt_eq_ok.mpr ⟨draft, hdraft, hr⟩, rfl, rfl⟩

theorem outcomeDraft_accepted (hprofile : d.outputProfile = some profile) {output : List UInt8}
    (hdecision : outcome.decision = .accepted) (houtput : outcome.output = some output)
    {draft : Receipt} :
    outcomeDraft crates d signed outcome now = .ok draft ↔ profile.schemaId ≠ "" ∧
      draft = { Receipt.execution crates (receiptId "execute" now signed.context) signed.context
        .accepted outcome.reason now with
          outputProjection := some (redactedOutput crates profile output) } := by
  simp only [outcomeDraft, hprofile, hdecision, houtput, Option.map_some]
  unfold Receipt.executionWithOutput Receipt.projectOutput ReceiptOutputProjection.fromOutput
  by_cases hschema : profile.schemaId = ""
  · simp only [if_pos hschema]
    exact iff_of_false nofun fun h => h.1 hschema
  · simp only [if_neg hschema]
    constructor
    · intro h
      exact ⟨hschema, (Except.ok.inj h).symm⟩
    · rintro ⟨-, rfl⟩
      rfl

theorem executeReceipt_accepted (hprofile : d.outputProfile = some profile) {output : List UInt8}
    (hdecision : outcome.decision = .accepted) (houtput : outcome.output = some output) :
    (∃ r, executeReceipt crates router d signed outcome now = .ok r) ↔
      outcome.reason = none ∧ profile.schemaId ≠ "" := by
  simp only [executeReceipt_eq_ok, outcomeDraft_accepted hprofile hdecision houtput]
  constructor
  · rintro ⟨r, draft, ⟨hschema, rfl⟩, hsign⟩
    have hvalid := (exists_signReceipt rfl).mp ⟨r, hsign⟩
    exact ⟨(hvalid _ rfl).2.2.1, hschema⟩
  · rintro ⟨hreason, hschema⟩
    let draft := { Receipt.execution crates (receiptId "execute" now signed.context) signed.context
      .accepted outcome.reason now with
        outputProjection := some (redactedOutput crates profile output) }
    have hsigns : ∃ r, signReceipt crates router.identity draft = .ok r := by
      rw [exists_signReceipt rfl]
      rintro p ⟨⟩
      exact ⟨rfl, rfl, hreason, hschema⟩
    obtain ⟨r, hr⟩ := hsigns
    exact ⟨r, draft, ⟨hschema, rfl⟩, hr⟩

theorem executeReceipt_accepted_content (hprofile : d.outputProfile = some profile)
    {output : List UInt8} (hdecision : outcome.decision = .accepted)
    (houtput : outcome.output = some output) {r : Receipt}
    (h : executeReceipt crates router d signed outcome now = .ok r) :
    r.decision = .accepted ∧ r.outputProjection = some (redactedOutput crates profile output) := by
  obtain ⟨draft, hdraft, hsign⟩ := executeReceipt_eq_ok.mp h
  obtain ⟨-, rfl⟩ := (outcomeDraft_accepted hprofile hdecision houtput).mp hdraft
  obtain ⟨signature, rfl⟩ := signReceipt_content hsign
  exact ⟨rfl, rfl⟩

theorem show_outcomeResponse {context : VerifiedCallContext} {r : Receipt}
    (hprofile : d.outputProfile = some profile) (hnormal : Normal (handlerLimits router d) outcome)
    (hr : executeReceipt crates router d signed outcome now = .ok r) :
    ∃ p, (outcomeResponse context d r.receiptId outcome).projection = some p ∧
      (outcomeResponse context d r.receiptId outcome).response.receiptId = some r.receiptId ∧
      p.receiptId = some r.receiptId ∧
      Show crates router profile outcome r (outcomeResponse context d r.receiptId outcome).response
        p := by
  cases hnormal with
  | rejected hdecision houtput =>
    obtain ⟨r', hr', hrecorded, hredacted⟩ : ∃ r', executeReceipt crates router d signed outcome
        now = .ok r' ∧ _ := executeReceipt_rejected hprofile hdecision houtput
    cases hr.symm.trans hr'
    simp only [outcomeResponse, executionProjection, hprofile, hdecision, Option.map_some, Show]
    exact ⟨_, rfl, rfl, rfl, hrecorded, rfl, rfl, rfl, rfl, hredacted⟩
  | accepted output hdecision houtput hfits =>
    obtain ⟨hrecorded, hredacted⟩ :=
      executeReceipt_accepted_content hprofile hdecision houtput hr
    have hbound : output.length ≤ min router.limits.maxOutputBytes profile.maxOutputBytes := by
      simpa only [handlerLimits, hprofile] using hfits
    simp only [outcomeResponse, executionProjection, hprofile, hdecision, houtput,
      Option.map_some, Show]
    exact ⟨_, rfl, rfl, rfl, hrecorded, rfl, rfl, rfl, rfl, hredacted, hbound⟩

/-- What the preflight adds to a context is no part of its receipt ids. -/
theorem receiptId_receiptSigned (h : Passed crates router signed payload now admitted)
    (kind : String) (timestamp : UInt64) :
    receiptId kind timestamp admitted.receiptSigned.context =
      receiptId kind timestamp signed.context := by
  obtain ⟨projection, hrouted⟩ := routed_eq h.projection
  obtain ⟨binding, -, hbinding⟩ := h.proof
  rw [hbinding, hrouted]
  cases binding <;> rfl

theorem viewsAgree_iff {p : Program Routed} {handlerId : String} {before : List Step}
    {w' : Tables} (hpassed : Passed crates router signed payload env.clock admitted)
    (hrun : HandlerRun crates router payload env w p admitted handlerId before w')
    (hprofile : admitted.descriptor.outputProfile = some profile) :
    ViewsAgree crates router profile (handlerVerdict router admitted payload env handlerId)
        (machine.run env w p) ↔
      Recordable profile (handlerVerdict router admitted payload env handlerId) signed env w
        (machine.run env w p).events := by
  have hid := receiptId_receiptSigned hpassed "execute" env.clock
  have hnormal : Normal (handlerLimits router admitted.descriptor)
      (handlerVerdict router admitted payload env handlerId) :=
    normalizeHandlerOutcome_normal hprofile _ _
  constructor
  · rintro ⟨r, view, hone, -⟩
    obtain ⟨hr, hstores⟩ := hrun.written_execute.mp ((hone r).mpr rfl)
    refine ⟨fun haccepted => ?_, fun r' event hhanded hkind => ?_, ?_⟩
    · cases hnormal with
      | rejected hdecision => cases haccepted.symm.trans hdecision
      | accepted output hdecision houtput =>
        exact (executeReceipt_accepted hprofile hdecision houtput).mp ⟨r, hr⟩
    · obtain ⟨hr', rfl⟩ := (hrun.handed_execute hprofile).mp ⟨hhanded, hkind⟩
      cases hr.symm.trans hr'
      exact hstores.stored
    · rw [← hid, ← (receiptId_of_executeReceipt hr).1]
      exact hstores.free
  · intro h
    obtain ⟨r, hr⟩ : ∃ r, executeReceipt crates router admitted.descriptor admitted.receiptSigned
        (handlerVerdict router admitted payload env handlerId) env.clock = .ok r := by
      cases hnormal with
      | rejected hdecision houtput =>
        obtain ⟨r, hr, -⟩ := executeReceipt_rejected hprofile hdecision houtput
        exact ⟨r, hr⟩
      | accepted output hdecision houtput =>
        exact (executeReceipt_accepted hprofile hdecision houtput).mpr (h.unexplained hdecision)
    have hhanded := (hrun.handed_execute hprofile).mpr ⟨hr, rfl⟩
    have hstores : Stores env w r := by
      refine ⟨h.stored r _ hhanded.1 hhanded.2, ?_⟩
      rw [(receiptId_of_executeReceipt hr).1, hid]
      exact h.free
    obtain ⟨view, hviews⟩ := show_outcomeResponse hprofile hnormal hr
    refine ⟨r, view, fun r' => ?_, ?_⟩
    · rw [hrun.written_execute]
      constructor
      · rintro ⟨hr', -⟩
        exact Except.ok.inj (hr'.symm.trans hr)
      · rintro rfl
        exact ⟨hr, hstores⟩
    · rw [hrun.result_stored hprofile hr hstores]
      exact hviews

/-- The three views of a handler's outcome agree exactly when the outcome can be put on record. -/
theorem views_agree_iff_recordable {handlerId : String} {context : VerifiedCallContext}
    {body : List UInt8} {limits : ExecutionLimits} {e : Step}
    (hstarted : e ∈ (machine.run env w (routeVerified crates router signed payload)).events)
    (hcmd : e.cmd = .execute handlerId context body limits)
    (hd : router.manifest.lookup signed.context.opcode = .ok d)
    (hprofile : d.outputProfile = some profile) :
    let ran := machine.run env w (routeVerified crates router signed payload)
    let outcome := normalizeHandlerOutcome d limits
      ((env.handler handlerId context body limits).getD (.rejected "handler_timeout"))
    ViewsAgree crates router profile outcome ran ↔
      Recordable profile outcome signed env w ran.events := by
  have hexec : e.cmd.isExecute := by
    rw [hcmd]
    rfl
  obtain ⟨admitted, handlerId', before, w', hpassed, hrun⟩ :=
    handlerRun_routeVerified hexec hstarted
  cases hd.symm.trans hpassed.descriptor
  cases hcmd.symm.trans (hrun.started hstarted hexec)
  exact viewsAgree_iff hpassed hrun hprofile

end

/-! ## A receiver with an output profile -/

namespace Sample

open RouterRuns.Sample (appendDescriptor appendReceiver identity)

def noteProfile : OutputProfile := ⟨"note.v1", 8, 512⟩

def noteDescriptor : OperationDescriptor := { appendDescriptor with
  outputProfile := some noteProfile }

def noteReceiver : ConfigurableRouter := { appendReceiver with manifest := .new [noteDescriptor] }

def noteCall : SignedVerifiedCallContext :=
  identity.signContext .transparent { RouterRuns.Sample.context .transparent 0 [] 200 with
    descriptorFingerprint := noteDescriptor.authorizationFingerprint .transparent }

def noteEnv (answer : HandlerOutcome) : Env := ⟨150, fun _ => false, fun _ _ _ _ => some answer⟩

def noteLimits : ExecutionLimits := ⟨1024, 8, 30⟩

def noteRun (answer : HandlerOutcome) : Machine.Ran Cmd Tables Env Routed :=
  machine.run (noteEnv answer) Tables.empty
    (routeVerified .transparent noteReceiver noteCall [1, 2])

/-- An acceptance that comes with an output and a reason. -/
def explained : HandlerOutcome := ⟨.accepted, some "done", some [7]⟩

theorem noteCall_starts : ∀ answer ∈ [explained, .succeededWithOutput [7]],
    ∃ e ∈ (noteRun answer).events,
      e.cmd = .execute "file/append" noteCall.context [1, 2] noteLimits := by
  decide +kernel

/-- It leaves no receipt at all. -/
theorem explained_acceptance_is_lost :
    (∃ e ∈ (noteRun explained).events,
      e.cmd = .execute "file/append" noteCall.context [1, 2] noteLimits) ∧
    ¬ ViewsAgree .transparent noteReceiver noteProfile
      (normalizeHandlerOutcome noteDescriptor noteLimits explained) (noteRun explained) := by
  refine ⟨noteCall_starts _ List.mem_cons_self, ?_⟩
  have hnone : (noteRun explained).result.response.receiptId = none := by decide +kernel
  rintro ⟨r, p, -, -, hnamed, -⟩
  cases hnone.symm.trans hnamed

theorem plain_acceptance_is_recorded :
    ViewsAgree .transparent noteReceiver noteProfile
      (normalizeHandlerOutcome noteDescriptor noteLimits (.succeededWithOutput [7]))
      (noteRun (.succeededWithOutput [7])) := by
  obtain ⟨e, he, hcmd⟩ := noteCall_starts (.succeededWithOutput [7]) (by simp)
  refine (views_agree_iff_recordable he hcmd rfl rfl).mpr ⟨fun _ => ⟨rfl, by decide⟩, ?_, ?_⟩
  · exact fun _ _ _ _ => rfl
  · rintro ⟨row, hrow, -⟩
    cases hrow

end Sample

end OutcomeViews
