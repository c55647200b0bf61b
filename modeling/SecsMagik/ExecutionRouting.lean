import SecsMagik.OutcomeViews

/-! # Routing for execution

`routeVerifiedForExecution` routes a call and turns what became of it into a signed execution
response. By then the handler has run and its receipt is stored, so every check that fails here
loses a result.
-/
namespace ExecutionRouting

open RustStd
open ExternalCrates (Crates)
open CallContext ReceiverManifest
open Receipts (Receipt)
open Ledger AtomicPrograms GatewayMachine GatewayRouter RouterTraces
open ReceiptRuns HandlerRuns OutcomeViews
open VerifierKeys (NodeVerifierIdentity)
open ExecutionTransport

/-! ## The transport of a routed call -/

inductive ExecutionTransportFailure where
  | receiptPersistenceFailed
  deriving DecidableEq, Repr

structure EffectiveExecutionLimits where
  maxPayloadBytes : ℕ
  maxOutputBytes : ℕ
  maxExecutionResponseBytes : ℕ
  handlerTimeout : ℕ
  deriving DecidableEq

/-- The check that `OperationDescriptor::validate` and `for_output_profile` share. -/
def profileUsable (profile : OutputProfile) : Bool :=
  profile.schemaId ≠ "" && profile.maxOutputBytes ≠ 0 && profile.maxExecutionResponseBytes ≠ 0

def validate (d : OperationDescriptor) : Except VerificationError Unit :=
  match d.outputProfile with
  | none => .ok ()
  | some profile => if profileUsable profile then .ok () else .error .internalError

def forOutputProfile (limits : ExecutionLimits) (profile : OutputProfile) :
    Except VerificationError EffectiveExecutionLimits :=
  if profileUsable profile then
    .ok {
      maxPayloadBytes := limits.maxPayloadBytes
      maxOutputBytes := min limits.maxOutputBytes profile.maxOutputBytes
      maxExecutionResponseBytes :=
        min profile.maxExecutionResponseBytes ExecutionTransport.maxExecutionResponseBytes
      handlerTimeout := limits.handlerTimeout }
  else .error .internalError

def signExecutionResponse (crates : Crates) (identity : NodeVerifierIdentity)
    (response : ExecutionResponse) : Except VerificationError ExecutionResponse := do
  let response := { response with
    authenticatorKind := .ed25519Receiver
    signerKeyId := identity.signerKeyId
    signature := Bytes.filled 64 0 }
  let preimage ← response.signaturePreimage.mapError fun _ => .internalError
  return { response with signature := crates.sign identity.signingKey preimage }

section

variable (crates : Crates) (router : ConfigurableRouter)

def unsignedResponse (requestDigest : Bytes 32) (view : ExecutionRouteProjection) :
    ExecutionResponse where
  schemaVersion := executionResponseSchemaVersion
  status := view.status
  reasonCode := view.reasonCode
  requestDigest := requestDigest
  contextId := view.contextId
  receiptId := view.receiptId
  outputSchema := view.outputSchema
  output := view.output
  authenticatorKind := .ed25519Receiver
  signerKeyId := router.identity.signerKeyId
  signature := Bytes.filled 64 0

/-- What a call is reported as: its projection, or else its rejection. -/
def reported (routed : Routed) : Except ExecutionTransportFailure ExecutionRouteProjection :=
  match routed.projection with
  | some projection => .ok projection
  | none =>
    match routed.response.reasonCode with
    | none => .error .receiptPersistenceFailed
    | some reason => .ok {
        status := if routed.executionStarted then .executionRejected else .verifierRejected
        reasonCode := some reason
        contextId := routed.response.contextId
        receiptId := routed.response.receiptId
        outputSchema := none
        output := none }

def sealResponse (profile : OutputProfile) (response : ExecutionResponse) :
    Except ExecutionTransportFailure ExecutionResponse := do
  let response ← (signExecutionResponse crates router.identity response).mapError
    fun _ => .receiptPersistenceFailed
  let effective ← (forOutputProfile router.limits profile).mapError
    fun _ => .receiptPersistenceFailed
  let _ ← (response.encodeFrame effective.maxExecutionResponseBytes).mapError
    fun _ => .receiptPersistenceFailed
  return response

def executionResponse (profile : OutputProfile) (requestDigest : Bytes 32) (routed : Routed) :
    Except ExecutionTransportFailure ExecutionResponse :=
  if routed.response.reasonCode = some "execution_transport_failure" then
    .error .receiptPersistenceFailed
  else do
    let view ← reported routed
    sealResponse crates router profile (unsignedResponse router requestDigest view)

def routeVerifiedForExecution (signed : SignedVerifiedCallContext) (payload : List UInt8)
    (requestDigest : Bytes 32) : Program (Except ExecutionTransportFailure ExecutionResponse) :=
  match router.manifest.lookup signed.context.opcode with
  | .error _ => pure (.error .receiptPersistenceFailed)
  | .ok d =>
    match d.outputProfile with
    | none => pure (.error .receiptPersistenceFailed)
    | some profile => do
      let routed ← routeVerified crates router signed payload
      return executionResponse crates router profile requestDigest routed

end

/-! ## What is sealed -/

variable {sent : ExecutionResponse}

section

variable {crates : Crates} {router : ConfigurableRouter} {profile : OutputProfile}
  {response : ExecutionResponse}

/-- The response is signed by the receiver over its own body. -/
def SignedBy (crates : Crates) (identity : NodeVerifierIdentity) (response : ExecutionResponse) :
    Prop :=
  ∃ preimage, response.signaturePreimage = .ok preimage ∧
    response.signature = crates.sign identity.signingKey preimage

theorem validateState_eq_ok :
    response.validateState = .ok () ↔
      response.schemaVersion = executionResponseSchemaVersion ∧ response.signerKeyId ≠ "" ∧
        response.stateValid ∧ (response.status = .executionRejected →
          response.reasonCode.any isExecutionReason) := by
  unfold ExecutionResponse.validateState
  split_ifs with hversion hsigner hstate hreason
  · exact iff_of_false nofun fun h => hversion h.1
  · exact iff_of_false nofun fun h => h.2.1 hsigner
  · exact iff_of_false nofun fun h => by simp [hstate] at h
  · exact iff_of_false nofun fun h => by simp [h.2.2.2 hreason.1] at hreason
  · refine iff_of_true rfl ⟨not_not.mp hversion, hsigner, by simpa using hstate, fun hstatus => ?_⟩
    by_contra hunlisted
    exact hreason ⟨hstatus, by simpa using hunlisted⟩

theorem signaturePreimage_eq_ok {preimage : List UInt8} :
    response.signaturePreimage = .ok preimage ↔ response.validateState = .ok () ∧
      response.unsignedBytes.length ≤ maxExecutionResponseBodyBytes ∧
      preimage = executionResponseSignatureDomain ++ response.unsignedBytes := by
  unfold ExecutionResponse.signaturePreimage
  simp only [bind_eq_ok, ExecutionResponse.canonicalUnsignedBody_eq_ok]
  constructor
  · rintro ⟨_, ⟨hvalid, -, hlen, rfl⟩, hpreimage⟩
    exact ⟨hvalid, hlen, (Except.ok.inj hpreimage).symm⟩
  · rintro ⟨hvalid, hlen, rfl⟩
    exact ⟨_, ⟨hvalid, ExecutionResponse.lengthsFit_of_length_le hlen, hlen, rfl⟩, rfl⟩

theorem forOutputProfile_eq_ok {limits : ExecutionLimits} {effective : EffectiveExecutionLimits}
    (h : forOutputProfile limits profile = .ok effective) :
    effective.maxExecutionResponseBytes =
      min profile.maxExecutionResponseBytes maxExecutionResponseBytes := by
  unfold forOutputProfile at h
  split at h
  · cases h
    rfl
  · cases h

theorem exists_forOutputProfile (h : profileUsable profile) (limits : ExecutionLimits) :
    ∃ effective, forOutputProfile limits profile = .ok effective := by
  simp [forOutputProfile, h]

theorem sealResponse_eq_ok (husable : profileUsable profile) {requestDigest : Bytes 32}
    {view : ExecutionRouteProjection} :
    let response := unsignedResponse router requestDigest view
    sealResponse crates router profile response = .ok sent ↔
      response.validateState = .ok () ∧ 76 + response.unsignedBytes.length ≤
        min profile.maxExecutionResponseBytes maxExecutionResponseBytes ∧
      sent = { response with
        signature := crates.sign router.identity.signingKey
          (executionResponseSignatureDomain ++ response.unsignedBytes) } := by
  intro response
  obtain ⟨effective, heffective⟩ := exists_forOutputProfile husable router.limits
  have hbound := forOutputProfile_eq_ok heffective
  simp only [sealResponse, signExecutionResponse, bind_eq_ok, mapError_eq_ok, heffective,
    signaturePreimage_eq_ok, ExecutionResponse.encodeFrame_eq_ok, ExecutionResponse.FrameOf]
  constructor
  · rintro ⟨_, ⟨_, ⟨hvalid, -, rfl⟩, hsigned⟩, _, ⟨⟩, _, ⟨-, hlen, rfl⟩, hsent⟩
    cases hsigned
    cases hsent
    rw [ExecutionResponse.length_frameBytes, hbound] at hlen
    change 76 + response.unsignedBytes.length ≤ _ at hlen
    exact ⟨hvalid, by omega, rfl⟩
  · rintro ⟨hvalid, hlen, rfl⟩
    have hbody : response.unsignedBytes.length ≤ maxExecutionResponseBodyBytes := by
      simp only [maxExecutionResponseBytes, maxExecutionResponseBodyBytes] at hlen ⊢
      omega
    refine ⟨_, ⟨_, ⟨hvalid, hbody, rfl⟩, rfl⟩, _, rfl, _, ⟨hvalid, ?_, rfl⟩, rfl⟩
    rw [ExecutionResponse.length_frameBytes, hbound]
    change 76 + response.unsignedBytes.length ≤ _
    omega

/-- What is sealed is signed, carries the output, and has a frame within the bound. -/
theorem sealResponse_sound (husable : profileUsable profile) {requestDigest : Bytes 32}
    {view : ExecutionRouteProjection}
    (h : sealResponse crates router profile (unsignedResponse router requestDigest view) =
      .ok sent) :
    SignedBy crates router.identity sent ∧ sent.output = view.output ∧
      ∃ frame, sent.encodeFrame profile.maxExecutionResponseBytes = .ok frame ∧
        frame.length ≤ profile.maxExecutionResponseBytes := by
  obtain ⟨hvalid, hlen, rfl⟩ := (sealResponse_eq_ok husable).mp h
  -- neither the body nor its validity depends on the signature
  have hbody : (unsignedResponse router requestDigest view).unsignedBytes.length ≤
      maxExecutionResponseBodyBytes := by
    simp only [maxExecutionResponseBytes, maxExecutionResponseBodyBytes] at hlen ⊢
    omega
  refine ⟨⟨_, signaturePreimage_eq_ok.mpr ⟨hvalid, hbody, rfl⟩, rfl⟩, rfl, _,
    ExecutionResponse.encodeFrame_eq_ok.mpr ⟨hvalid, ?_, rfl⟩, ?_⟩
  · rw [ExecutionResponse.length_frameBytes]
    exact hlen
  · rw [ExecutionResponse.length_frameBytes]
    exact hlen.trans (min_le_left _ _)

end

/-! ## Which results are delivered -/

def reportedReason (outcome : HandlerOutcome) : String := outcome.reason.getD "handler_rejected"

/-- The length of the frame that reports an outcome: the fixed part and the texts in it. -/
def frameLength (router : ConfigurableRouter) (profile : OutputProfile) (contextId id : String)
    (outcome : HandlerOutcome) : ℕ :=
  let texts := byteLen contextId + byteLen id + byteLen router.identity.signerKeyId
  match outcome.decision with
  | .accepted => 137 + texts + byteLen profile.schemaId + (outcome.output.getD []).length
  | .rejected => 133 + texts + byteLen (reportedReason outcome)

/-- The receiver's key and the context have names, a rejection is given for a reason of the closed
vocabulary, and the frame fits the profile. -/
structure Deliverable (router : ConfigurableRouter) (profile : OutputProfile)
    (context : VerifiedCallContext) (now : UInt64) (outcome : HandlerOutcome) : Prop where
  keyed : router.identity.signerKeyId ≠ ""
  named : context.contextId ≠ ""
  reason : outcome.decision = .rejected → isExecutionReason (reportedReason outcome)
  fits : frameLength router profile context.contextId (receiptId "execute" now context) outcome ≤
    min profile.maxExecutionResponseBytes maxExecutionResponseBytes

/-- The result reached its caller: a response signed by the receiver, with the output of the
execution, in a frame within the bound of the profile. -/
def Delivered (crates : Crates) (router : ConfigurableRouter) (profile : OutputProfile)
    (outcome : HandlerOutcome) (result : Except ExecutionTransportFailure ExecutionResponse) :
    Prop :=
  ∃ response frame, result = .ok response ∧ SignedBy crates router.identity response ∧
    response.output = outcome.output ∧
    response.encodeFrame profile.maxExecutionResponseBytes = .ok frame ∧
    frame.length ≤ profile.maxExecutionResponseBytes

section

variable {crates : Crates} {router : ConfigurableRouter} {profile : OutputProfile}
  {context : VerifiedCallContext} {id : String} {outcome : HandlerOutcome}
  {limits : ExecutionLimits} {requestDigest : Bytes 32}

theorem length_unsignedBytes (hnormal : Normal limits outcome) :
    76 + (unsignedResponse router requestDigest
        (executionProjection context profile id outcome)).unsignedBytes.length =
      frameLength router profile context.contextId id outcome := by
  have hu16 : ∀ v : UInt16, (Bincode.u16 v).length = 2 := fun v => Bincode.length_leBytes 2 v.toNat
  cases hnormal with
  | rejected hdecision houtput =>
    simp [ExecutionResponse.unsignedBytes, unsignedResponse, executionProjection, hdecision,
      frameLength, Bincode.opt, textBytes, byteLen, reportedReason, requestDigest.property, hu16]
    omega
  | accepted output hdecision houtput =>
    simp [ExecutionResponse.unsignedBytes, unsignedResponse, executionProjection, hdecision,
      houtput, frameLength, Bincode.opt, textBytes, countedBytes, byteLen,
      requestDigest.property, hu16]
    omega

theorem validateState_unsignedResponse (hnormal : Normal limits outcome) (hid : id ≠ "")
    (hschema : profile.schemaId ≠ "") :
    (unsignedResponse router requestDigest
        (executionProjection context profile id outcome)).validateState = .ok () ↔
      router.identity.signerKeyId ≠ "" ∧ context.contextId ≠ "" ∧
        (outcome.decision = .rejected → isExecutionReason (reportedReason outcome)) := by
  have hreason : isExecutionReason (reportedReason outcome) → reportedReason outcome ≠ "" := by
    intro hlisted hempty
    rw [hempty] at hlisted
    exact absurd hlisted (by decide)
  rw [validateState_eq_ok]
  cases hnormal with
  | rejected hdecision houtput =>
    have hstate : (unsignedResponse router requestDigest
        (executionProjection context profile id outcome)).stateValid ↔
          reportedReason outcome ≠ "" ∧ context.contextId ≠ "" := by
      simp [ExecutionResponse.stateValid, unsignedResponse, executionProjection, hdecision, hid,
        isNonempty, reportedReason]
    rw [hstate]
    simp only [unsignedResponse, executionProjection, hdecision, forall_const, Option.any_some,
      true_and]
    constructor
    · rintro ⟨hsigner, ⟨-, hcontext⟩, hlisted⟩
      exact ⟨hsigner, hcontext, hlisted⟩
    · rintro ⟨hsigner, hcontext, hlisted⟩
      exact ⟨hsigner, ⟨hreason hlisted, hcontext⟩, hlisted⟩
  | accepted output hdecision houtput =>
    have hstate : (unsignedResponse router requestDigest
        (executionProjection context profile id outcome)).stateValid ↔
          context.contextId ≠ "" := by
      simp [ExecutionResponse.stateValid, unsignedResponse, executionProjection, hdecision,
        houtput, hid, hschema, isNonempty]
    rw [hstate]
    simp [unsignedResponse, executionProjection, hdecision]

theorem receiptId_ne_empty (kind : String) (now : UInt64) : receiptId kind now context ≠ "" := by
  have hhead : (receiptId kind now context).toList[0]? = some 'r' :=
    char_append (char_append (char_append (char_append (char_append (char_append
      (char_append (by decide)))))))
  intro h
  rw [h] at hhead
  cases hhead

variable {d : OperationDescriptor}

/-- The answer to a recorded execution, once its outcome is not the name of a transport failure. -/
theorem executionResponse_outcomeResponse (hprofile : d.outputProfile = some profile) :
    executionResponse crates router profile requestDigest (outcomeResponse context d id outcome) =
        .ok sent ↔
      (outcome.decision = .rejected → reportedReason outcome ≠ "execution_transport_failure") ∧
        sealResponse crates router profile (unsignedResponse router requestDigest
          (executionProjection context profile id outcome)) = .ok sent := by
  have hview : reported (outcomeResponse context d id outcome) =
      .ok (executionProjection context profile id outcome) := by
    simp [reported, outcomeResponse, hprofile]
  unfold executionResponse
  rw [hview]
  cases hdecision : outcome.decision with
  | accepted =>
    have hreason : (outcomeResponse context d id outcome).response.reasonCode = none := by
      simp [outcomeResponse, hdecision, DecisionResponse.accepted]
    rw [hreason, if_neg (by simp)]
    exact (and_iff_right (by simp)).symm
  | rejected =>
    have hreason : (outcomeResponse context d id outcome).response.reasonCode =
        some (reportedReason outcome) := by
      simp [outcomeResponse, hdecision, DecisionResponse.rejected, reportedReason]
    rw [hreason]
    by_cases hfailure : reportedReason outcome = "execution_transport_failure"
    · rw [if_pos (by rw [hfailure])]
      exact iff_of_false (by simp) fun h => h.1 rfl hfailure
    · rw [if_neg (by simpa using hfailure)]
      exact (and_iff_right fun _ => hfailure).symm

theorem output_executionProjection (hnormal : Normal limits outcome) :
    (executionProjection context profile id outcome).output = outcome.output := by
  cases hnormal with
  | rejected hdecision houtput => simp [executionProjection, hdecision, houtput]
  | accepted output hdecision houtput => simp [executionProjection, hdecision]

theorem exists_executionResponse_iff {context' : VerifiedCallContext} {now : UInt64}
    (husable : profileUsable profile) (hnormal : Normal limits outcome)
    (hprofile : d.outputProfile = some profile)
    (hcontext : context'.contextId = context.contextId) :
    (∃ sent, executionResponse crates router profile requestDigest
        (outcomeResponse context' d (receiptId "execute" now context) outcome) = .ok sent) ↔
      Deliverable router profile context now outcome := by
  let unsigned := unsignedResponse router requestDigest
    (executionProjection context' profile (receiptId "execute" now context) outcome)
  have hschema : profile.schemaId ≠ "" := by
    simp only [profileUsable, Bool.and_eq_true, decide_eq_true_eq] at husable
    exact husable.1.1
  have hvalid : unsigned.validateState = .ok () ↔ _ :=
    validateState_unsignedResponse hnormal (receiptId_ne_empty "execute" now) hschema
  have hlength : 76 + unsigned.unsignedBytes.length = _ := length_unsignedBytes hnormal
  rw [hcontext] at hvalid hlength
  constructor
  · rintro ⟨sent, hsent⟩
    obtain ⟨-, hseal⟩ := (executionResponse_outcomeResponse hprofile).mp hsent
    obtain ⟨hstate, hfits, -⟩ := (sealResponse_eq_ok husable).mp hseal
    obtain ⟨hsigner, hnamed, hreason⟩ := hvalid.mp hstate
    exact ⟨hsigner, hnamed, hreason, hlength ▸ hfits⟩
  · intro h
    have hstate := hvalid.mpr ⟨h.keyed, h.named, h.reason⟩
    have hfits := hlength.symm ▸ h.fits
    have hlisted : outcome.decision = .rejected →
        reportedReason outcome ≠ "execution_transport_failure" := by
      intro hdecision hfailure
      have hreason := h.reason hdecision
      rw [hfailure] at hreason
      exact absurd hreason (by decide)
    exact ⟨_, (executionResponse_outcomeResponse hprofile).mpr
      ⟨hlisted, (sealResponse_eq_ok husable).mpr ⟨hstate, hfits, rfl⟩⟩⟩

theorem delivered_of_ok (husable : profileUsable profile) (hnormal : Normal limits outcome)
    (hprofile : d.outputProfile = some profile)
    (h : executionResponse crates router profile requestDigest
      (outcomeResponse context d id outcome) = .ok sent) :
    Delivered crates router profile outcome (.ok sent) := by
  obtain ⟨-, hseal⟩ := (executionResponse_outcomeResponse hprofile).mp h
  obtain ⟨hsigned, houtput, frame, hframe, hbound⟩ := sealResponse_sound husable hseal
  exact ⟨sent, frame, rfl, hsigned, houtput.trans (output_executionProjection hnormal), hframe,
    hbound⟩

end

section

variable {crates : Crates} {router : ConfigurableRouter} {signed : SignedVerifiedCallContext}
  {payload : List UInt8} {requestDigest : Bytes 32} {env : Env} {w : Tables}
  {d : OperationDescriptor} {profile : OutputProfile}

theorem run_routeVerifiedForExecution (hd : router.manifest.lookup signed.context.opcode = .ok d)
    (hprofile : d.outputProfile = some profile) :
    machine.run env w (routeVerifiedForExecution crates router signed payload requestDigest) =
      let routed := machine.run env w (routeVerified crates router signed payload)
      ⟨executionResponse crates router profile requestDigest routed.result, routed.events,
        routed.world⟩ := by
  unfold routeVerifiedForExecution
  simp only [hd, hprofile, Machine.run_bind, Prog.pure_eq_done, Machine.run_done, List.append_nil]

theorem usable_of_validate (h : validate d = .ok ()) (hprofile : d.outputProfile = some profile) :
    profileUsable profile := by
  unfold validate at h
  rw [hprofile] at h
  by_contra hno
  simp [hno] at h

theorem contextId_routed {admitted : Admitted} {now : UInt64}
    (h : Passed crates router signed payload now admitted) :
    admitted.routed.context.contextId = signed.context.contextId := by
  obtain ⟨projection, hrouted⟩ := routed_eq h.projection
  rw [hrouted]
  rfl

/-- The response to a handler run whose execute receipt is stored. -/
theorem result_of_recorded {e : Step} {r : Receipt} {handlerId : String}
    {context : VerifiedCallContext} {body : List UInt8} {limits : ExecutionLimits}
    (hd : router.manifest.lookup signed.context.opcode = .ok d)
    (hprofile : d.outputProfile = some profile)
    (hstarted : e ∈ (machine.run env w (routeVerified crates router signed payload)).events)
    (hcmd : e.cmd = .execute handlerId context body limits)
    (hpersisted : Written (machine.run env w (routeVerified crates router signed payload)).events r)
    (hkind : r.kind = .execute) :
    let outcome := normalizeHandlerOutcome d limits
      ((env.handler handlerId context body limits).getD (.rejected "handler_timeout"))
    context.contextId = signed.context.contextId ∧
      (machine.run env w (routeVerified crates router signed payload)).result =
        outcomeResponse context d (receiptId "execute" env.clock signed.context) outcome := by
  have hexec : e.cmd.isExecute := by
    rw [hcmd]
    rfl
  obtain ⟨admitted, handlerId', before, w', hpassed, hrun⟩ :=
    handlerRun_routeVerified hexec hstarted
  cases hd.symm.trans hpassed.descriptor
  cases hcmd.symm.trans (hrun.started hstarted hexec)
  obtain ⟨hr, hstores⟩ := hrun.written_execute.mp ⟨hpersisted, hkind⟩
  refine ⟨contextId_routed hpassed, ?_⟩
  rw [hrun.result_stored hprofile hr hstores, (receiptId_of_executeReceipt hr).1,
    receiptId_receiptSigned hpassed]
  rfl

/-- A recorded result reaches the caller exactly when it is deliverable. -/
theorem recorded_result_delivered_iff {e : Step} {r : Receipt} {handlerId : String}
    {context : VerifiedCallContext} {body : List UInt8} {limits : ExecutionLimits}
    (hd : router.manifest.lookup signed.context.opcode = .ok d)
    (hprofile : d.outputProfile = some profile) (haccepted : validate d = .ok ())
    (hstarted : e ∈ (machine.run env w
      (routeVerifiedForExecution crates router signed payload requestDigest)).events)
    (hcmd : e.cmd = .execute handlerId context body limits)
    (hpersisted : Written (machine.run env w
      (routeVerifiedForExecution crates router signed payload requestDigest)).events r)
    (hkind : r.kind = .execute) :
    let outcome := normalizeHandlerOutcome d limits
      ((env.handler handlerId context body limits).getD (.rejected "handler_timeout"))
    Delivered crates router profile outcome (machine.run env w
        (routeVerifiedForExecution crates router signed payload requestDigest)).result ↔
      Deliverable router profile signed.context env.clock outcome := by
  intro outcome
  rw [run_routeVerifiedForExecution hd hprofile] at hstarted hpersisted ⊢
  obtain ⟨hcontext, hresult⟩ := result_of_recorded hd hprofile hstarted hcmd hpersisted hkind
  have husable := usable_of_validate haccepted hprofile
  have hnormal : Normal limits outcome := normalizeHandlerOutcome_normal hprofile _ _
  simp only [hresult]
  rw [← exists_executionResponse_iff husable hnormal hprofile hcontext]
  constructor
  · rintro ⟨sent, frame, hsent, -⟩
    exact ⟨sent, hsent⟩
  · rintro ⟨sent, hsent⟩
    have hdelivered := delivered_of_ok husable hnormal hprofile hsent
    rw [← hsent] at hdelivered
    exact hdelivered

end

/-! ## A result that is lost -/

namespace Sample

open OutcomeViews.Sample

def noteExecution : Program (Except ExecutionTransportFailure ExecutionResponse) :=
  routeVerifiedForExecution .transparent noteReceiver noteCall [1, 2] (Bytes.filled 32 9)

def executionRun (answer : HandlerOutcome) :
    Machine.Ran Cmd Tables Env (Except ExecutionTransportFailure ExecutionResponse) :=
  machine.run (noteEnv answer) Tables.empty noteExecution

theorem executionRun_records :
    ∀ answer ∈ [HandlerOutcome.rejected "handler_exit_failed", .succeededWithOutput [7]],
      (∃ e ∈ (executionRun answer).events,
        e.cmd = .execute "file/append" noteCall.context [1, 2] noteLimits) ∧
      ∃ r ∈ (executionRun answer).events.filterMap written?, r.kind = .execute := by
  decide +kernel

/-- A handler that fails as the shipped process handler does: the rejection is on record, and the
caller gets nothing. -/
theorem exit_failure_is_lost :
    let ran := executionRun (.rejected "handler_exit_failed")
    (∃ e ∈ ran.events, e.cmd = .execute "file/append" noteCall.context [1, 2] noteLimits) ∧
    (∃ r, Written ran.events r ∧ r.kind = .execute) ∧
    ran.result = .error .receiptPersistenceFailed := by
  obtain ⟨hstart, r, hr, hkind⟩ := executionRun_records _ List.mem_cons_self
  exact ⟨hstart, ⟨r, written_of_mem hr, hkind⟩, by decide +kernel⟩

theorem short_output_is_delivered :
    Delivered .transparent noteReceiver noteProfile
      (normalizeHandlerOutcome noteDescriptor noteLimits (.succeededWithOutput [7]))
      (executionRun (.succeededWithOutput [7])).result := by
  obtain ⟨⟨e, he, hcmd⟩, r, hr, hkind⟩ :=
    executionRun_records (.succeededWithOutput [7]) (by simp)
  refine (recorded_result_delivered_iff rfl rfl (by decide) he hcmd (written_of_mem hr) hkind).mpr
    ⟨by decide, by decide, nofun, ?_⟩
  decide

end Sample

end ExecutionRouting
