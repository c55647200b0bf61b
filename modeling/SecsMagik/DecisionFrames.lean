import SecsMagik.CharBoundaries
import SecsMagik.IngressReplay
import SecsMagik.PublicAudit
import SecsMagik.ReceiptAudit

/-! # Decision frames, from the gateway to the client's exit status

The gateway writes one encoded `DecisionResponse`. The router's own reasons and ids always fit into
a frame; the reason of a handler is as long as the handler made it. The client reads at most one
byte more than a frame may have, and exits by what it decodes.
-/
namespace DecisionFrames

open RustStd Bincode
open CallContext (Decision SignedVerifiedCallContext VerificationError VerifiedCallContext)
open WireCodec AtomicPrograms GatewayMachine GatewayRouter RouterTraces IngressGateway
open Ledger (Tables)
open ExternalCrates (Crates)
open CallVerifier (issuedContext)
open IngressFraming (DecodedIngressRequest)
open PublicAudit (byteLen_lowerHex)
open ReceiptAudit

def decisionResponseSchemaVersion : UInt16 := 1
def maxDecisionResponseBytes : ℕ := 1024

structure VersionedResponse where
  schemaVersion : UInt16
  response : DecisionResponse
  deriving DecidableEq

/-- Both constructors of the source set the current version. -/
def versioned (response : DecisionResponse) : VersionedResponse :=
  ⟨decisionResponseSchemaVersion, response⟩

/-! ## Encoding -/

def encode (value : VersionedResponse) : List UInt8 :=
  u16 value.schemaVersion ++ (variant (value.response.decision.index) ++
    (opt str value.response.reasonCode ++ (opt str value.response.contextId ++
      opt str value.response.receiptId)))

def optLen : Option String → ℕ
  | none => 1
  | some text => 9 + byteLen text

def frameLen (response : DecisionResponse) : ℕ :=
  6 + optLen response.reasonCode + optLen response.contextId + optLen response.receiptId

theorem length_opt_str (text : Option String) : (opt str text).length = optLen text := by
  cases text with
  | none => rfl
  | some text =>
    simp only [opt, str, bytes, usize, List.length_cons, List.length_append, length_leBytes,
      optLen, byteLen]
    omega

theorem length_encode (value : VersionedResponse) :
    (encode value).length = frameLen value.response := by
  simp only [encode, u16, variant, List.length_append, length_leBytes, length_opt_str, frameLen]
  omega

/-! ## Decoding -/

def schemaReader : Reader Unit UInt16 := do
  let n ← uintLe () 2
  return UInt16.ofNat n

/-- An index that names no variant is an error. -/
def decisionReader : Reader Unit Decision := do
  let n ← uintLe () 4
  if n = 0 then return .accepted
  else if n = 1 then return .rejected
  else fail ()

def textReader : Reader Unit String := do
  let raw ← counted ()
  textOf () raw

/-- `Option<String>`: any tag besides 0 and 1 is an error. -/
def optionReader : Reader Unit (Option String) := do
  let tag ← byte ()
  if tag = 0 then return none
  else if tag = 1 then do
    let text ← textReader
    return some text
  else fail ()

def responseReader : Reader Unit VersionedResponse := do
  let schemaVersion ← schemaReader
  let decision ← decisionReader
  let reasonCode ← optionReader
  let contextId ← optionReader
  let receiptId ← optionReader
  return ⟨schemaVersion, decision, reasonCode, contextId, receiptId⟩

/-- `bincode::deserialize` leaves what follows the value unread. -/
def decode (frame : List UInt8) : Option VersionedResponse :=
  if frame = [] ∨ maxDecisionResponseBytes < frame.length then none
  else (responseReader.run frame).toOption.map Prod.fst

/-! ## The client -/

/-- `stream.take(limit + 1).read_to_end(..)` -/
def readFrame (written : List UInt8) : List UInt8 := written.take (maxDecisionResponseBytes + 1)

/-- The client that expects a legacy decision: `GatewayResponse::Decision` of the frame. -/
def decodeExpectedGatewayResponse (frame : List UInt8) : Option VersionedResponse :=
  if frame = [] then none else decode frame

/-- The exit status of a decision; none at all counts as an older gateway's silence. -/
def reportDecision : Option VersionedResponse → ℕ
  | some value => if value.response.decision = .accepted then 0 else 1
  | none => 0

/-- What the client makes of a response that the gateway writes. -/
def clientReads (response : DecisionResponse) : Option VersionedResponse :=
  decodeExpectedGatewayResponse (readFrame (encode (versioned response)))

/-- The client has the response itself, and exits with 0 just when it accepts. -/
def ToldTruly (response : DecisionResponse) : Prop :=
  clientReads response = some (versioned response) ∧
    (reportDecision (clientReads response) = 0 ↔ response.decision = .accepted)

theorem run_schemaReader (version : UInt16) (rest : List UInt8) :
    schemaReader.run (u16 version ++ rest) = .ok (version, rest) := by
  have hread := (reads_uintLe () 2 _ version.toNat rest).mpr ⟨version.toNat_lt, rfl⟩
  refine run_bind_eq_ok.mpr ⟨version.toNat, rest, hread, ?_⟩
  rw [UInt16.ofNat_toNat]
  rfl

theorem run_decisionReader (decision : Decision) (rest : List UInt8) :
    decisionReader.run (variant decision.index ++ rest) = .ok (decision, rest) := by
  have hindex : decision.index < 256 ^ 4 := by cases decision <;> decide
  have hread := (reads_uintLe () 4 _ decision.index rest).mpr ⟨hindex, rfl⟩
  refine run_bind_eq_ok.mpr ⟨_, rest, hread, ?_⟩
  cases decision <;> rfl

theorem run_optionReader {text : Option String} (hfits : optLen text ≤ maxDecisionResponseBytes)
    (rest : List UInt8) : optionReader.run (opt str text ++ rest) = .ok (text, rest) := by
  cases text with
  | none =>
    have htag := (reads_byte () (0 :: rest) 0 rest).mpr ⟨trivial, rfl⟩
    exact run_bind_eq_ok.mpr ⟨0, rest, htag, rfl⟩
  | some text =>
    have htag := (reads_byte () (1 :: (str text ++ rest)) 1 (str text ++ rest)).mpr
      ⟨trivial, rfl⟩
    have hshort : (utf8 text).length < 256 ^ 8 := by
      simp only [optLen, maxDecisionResponseBytes, byteLen] at hfits
      omega
    have hraw := (reads_counted () _ (utf8 text) rest).mpr ⟨hshort, rfl⟩
    have htext := (reads_textOf () (utf8 text) rest text rest).mpr ⟨rfl, rfl⟩
    have hread : textReader.run (str text ++ rest) = .ok (text, rest) :=
      run_bind_eq_ok.mpr ⟨utf8 text, rest, hraw, htext⟩
    exact run_bind_eq_ok.mpr ⟨1, str text ++ rest, htag,
      run_bind_eq_ok.mpr ⟨text, rest, hread, rfl⟩⟩

theorem run_responseReader {value : VersionedResponse}
    (hfits : frameLen value.response ≤ maxDecisionResponseBytes) :
    responseReader.run (encode value) = .ok (value, []) := by
  obtain ⟨version, decision, reason, context, receipt⟩ := value
  simp only [frameLen] at hfits
  have hreason := @run_optionReader reason (by omega)
  have hcontext := @run_optionReader context (by omega)
  have hreceipt := @run_optionReader receipt (by omega) []
  rw [List.append_nil] at hreceipt
  refine run_bind_eq_ok.mpr ⟨_, _, run_schemaReader version _, ?_⟩
  refine run_bind_eq_ok.mpr ⟨_, _, run_decisionReader decision _, ?_⟩
  refine run_bind_eq_ok.mpr ⟨_, _, hreason _, ?_⟩
  refine run_bind_eq_ok.mpr ⟨_, _, hcontext _, ?_⟩
  exact run_bind_eq_ok.mpr ⟨_, _, hreceipt, rfl⟩

theorem clientReads_of_le {response : DecisionResponse}
    (h : frameLen response ≤ maxDecisionResponseBytes) :
    clientReads response = some (versioned response) := by
  have hlen : (encode (versioned response)).length = frameLen response := length_encode _
  have hpos : 0 < frameLen response := by
    unfold frameLen
    omega
  have hne : encode (versioned response) ≠ [] := by
    intro hnil
    rw [hnil, List.length_nil] at hlen
    omega
  have hread : readFrame (encode (versioned response)) = encode (versioned response) :=
    List.take_of_length_le (by omega)
  have hbound : ¬ maxDecisionResponseBytes < (encode (versioned response)).length := by omega
  rw [clientReads, hread, decodeExpectedGatewayResponse, if_neg hne, decode,
    if_neg (not_or.mpr ⟨hne, hbound⟩), run_responseReader h]
  rfl

theorem clientReads_of_gt {response : DecisionResponse}
    (h : maxDecisionResponseBytes < frameLen response) : clientReads response = none := by
  have hlen : (readFrame (encode (versioned response))).length = maxDecisionResponseBytes + 1 := by
    rw [readFrame, List.length_take, length_encode]
    exact min_eq_left h
  have hdecode : decode (readFrame (encode (versioned response))) = none :=
    if_pos (.inr (by omega))
  rw [clientReads, decodeExpectedGatewayResponse, hdecode, ite_self]

theorem toldTruly_iff (response : DecisionResponse) :
    ToldTruly response ↔ frameLen response ≤ maxDecisionResponseBytes := by
  constructor
  · intro htold
    by_contra hlong
    have hnone := clientReads_of_gt (Nat.lt_of_not_le hlong)
    rw [htold.1] at hnone
    cases hnone
  · intro hfits
    have hread := clientReads_of_le hfits
    refine ⟨hread, ?_⟩
    rw [hread]
    cases hdecision : response.decision <;> simp [reportDecision, versioned, hdecision]

/-! ## The texts of the router -/

/-- The digits of a clock reading in an id. -/
def digits (now : UInt64) : ℕ := byteLen (decimal now.toNat)

theorem digits_le (now : UInt64) : digits now ≤ 80 :=
  byteLen_decimal_le (k := 20) (by decide) (now.toNat_lt.trans (by decide))

theorem byteLen_hexByte (b : UInt8) : byteLen (hexByte b) = 2 := byteLen_lowerHex [b]

theorem byteLen_hash (hash : Bytes 32) : byteLen (lowerHex (hash.val.take 8)) = 16 := by
  rw [byteLen_lowerHex, List.length_take, hash.property]
  rfl

theorem byteLen_dash : byteLen "-" = 1 := by decide

theorem byteLen_receiptId (kind : String) (now : UInt64) (context : VerifiedCallContext) :
    byteLen (receiptId kind now context) =
      30 + byteLen kind + digits now + byteLen context.contextId := by
  have hhead : byteLen "receipt-" = 8 := by decide
  simp only [receiptId, contextReceiptSuffix, byteLen_append, byteLen_hexByte, byteLen_hash,
    byteLen_dash, hhead, digits]
  omega

/-- The room that a reason of the router itself takes up at most. -/
def Brief (reason : String) : Prop := byteLen reason ≤ 64

instance (reason : String) : Decidable (Brief reason) := inferInstanceAs (Decidable (_ ≤ _))

theorem brief_reasonCode (error : VerificationError) : Brief error.reasonCode := by
  cases error <;> decide

theorem brief_of_gateReason {reason : String} (h : GateReason reason) : Brief reason := by
  cases h with
  | verification error => exact brief_reasonCode error
  | registration reason => cases reason <;> decide
  | proof reason => cases reason <;> decide
  | descriptor => decide

/-- An issued context id spells one clock reading. -/
def ShortId (context : VerifiedCallContext) : Prop := byteLen context.contextId ≤ 107

def Fits (response : DecisionResponse) : Prop := frameLen response ≤ maxDecisionResponseBytes

theorem fits_rejected {reason : String} {context : VerifiedCallContext} {id : Option String}
    (hreason : Brief reason) (hcontext : ShortId context) (hid : ∀ id' ∈ id, byteLen id' ≤ 224) :
    Fits (.rejected reason (some context.contextId) id) := by
  simp only [Fits, frameLen, DecisionResponse.rejected, optLen, maxDecisionResponseBytes]
  unfold Brief at hreason
  unfold ShortId at hcontext
  cases id with
  | none =>
    simp only
    omega
  | some id =>
    have hid := hid id rfl
    simp only
    omega

theorem byteLen_receiptId_le {kind : String} (hkind : byteLen kind ≤ 7) (now : UInt64)
    {context : VerifiedCallContext} (hcontext : ShortId context) :
    byteLen (receiptId kind now context) ≤ 224 := by
  have hnow := digits_le now
  unfold ShortId at hcontext
  rw [byteLen_receiptId]
  omega

/-! ## What a handler adds -/

/-- The reason of a reply that rejects without any output. -/
def replyReason : Option HandlerOutcome → Option String
  | some ⟨.rejected, reason, none⟩ => reason
  | _ => none

/-- The reason that the handler started by a step gives for its rejection. -/
def handlerReason (e : Step) : Option String :=
  match e.cmd with
  | .execute handlerId context payload limits =>
    replyReason (e.env.handler handlerId context payload limits)
  | _ => none

theorem handlerReason_of_not_execute {e : Step} (h : ¬ e.cmd.isExecute) :
    handlerReason e = none := by
  obtain ⟨env, w, c⟩ := e
  cases c with
  | readClock | sql => rfl
  | execute => exact absurd rfl h

/-- The reasons of the started handlers leave room for the `taken` bytes of the rest of a frame. -/
def LeavesRoom (taken : ℕ) (es : List Step) : Prop :=
  ∀ e ∈ es, ∀ reason, handlerReason e = some reason →
    byteLen reason + taken ≤ maxDecisionResponseBytes

theorem leavesRoom_of_not_execute {taken : ℕ} {es : List Step} (h : ∀ e ∈ es, ¬ e.cmd.isExecute) :
    LeavesRoom taken es := by
  intro e he reason hreason
  rw [handlerReason_of_not_execute (h e he)] at hreason
  cases hreason

theorem leavesRoom_clock {taken : ℕ} {env : Env} {w : Tables} {es : List Step} :
    LeavesRoom taken (⟨env, w, .readClock⟩ :: es) ↔ LeavesRoom taken es := by
  have hclock : handlerReason ⟨env, w, .readClock⟩ = none := rfl
  rw [LeavesRoom, List.forall_mem_cons, hclock]
  simp [LeavesRoom]

theorem leavesRoom_append {taken : ℕ} {es fs : List Step} :
    LeavesRoom taken (es ++ fs) ↔ LeavesRoom taken es ∧ LeavesRoom taken fs :=
  List.forall_mem_append

/-- The answer fits into a frame exactly if the handler's reason leaves room for the rest. -/
def Answers (taken : ℕ) (p : Program Routed) : Prop :=
  ∀ es routed, machine.Follows p es (.done routed) → (Fits routed.response ↔ LeavesRoom taken es)

section Judgement

variable {taken : ℕ} {α : Type}

theorem Answers.of_fits {p : Program Routed} (honly : p.Only (¬ ·.isExecute))
    (hfits : p.Returns (Fits ·.response)) : Answers taken p := by
  intro es routed h
  exact iff_of_true (h.returns hfits) (leavesRoom_of_not_execute (h.only honly))

theorem Answers.bind {p : Program α} {f : α → Program Routed} (honly : p.Only (¬ ·.isExecute))
    (hf : ∀ a es, machine.Follows p es (.done a) → Answers taken (f a)) :
    Answers taken (p >>= f) := by
  intro es routed h
  obtain ⟨a, es₁, es₂, rfl, h₁, h₂⟩ := h.bind_done
  rw [hf a es₁ h₁ es₂ routed h₂, leavesRoom_append]
  exact (and_iff_right (leavesRoom_of_not_execute (h₁.only honly))).symm

end Judgement

/-! ## The stages of a call -/

section Stages

variable {crates : Crates} {router : ConfigurableRouter} {signed : SignedVerifiedCallContext}
  {payload : List UInt8} {now : UInt64} {reason : String}

theorem recordSignedReceipt_returns (receipt : Receipts.Receipt) (id : String) :
    (recordSignedReceipt crates router receipt >>= fun _ => pure id).Returns (· = id) :=
  Prog.Returns.bind fun _ => rfl

theorem refuse_fits {refusal : Refusal} (hreason : Brief refusal.reason)
    (hcontext : ShortId refusal.signed.context) :
    (refuse crates router refusal now).Returns (Fits ·.response) := by
  obtain ⟨signed, reason, record⟩ := refusal
  have hid : byteLen (receiptId "reject" now signed.context) ≤ 224 :=
    byteLen_receiptId_le (by decide) now hcontext
  cases record with
  | silent => exact fits_rejected hreason hcontext (by simp)
  | receipt =>
    refine Prog.Returns.bind_of (recordSignedReceipt_returns _ _) fun id hid' => ?_
    exact Prog.Returns.bind fun _ => fits_rejected hreason hcontext (by simpa [hid'] using hid)
  | receiptWithSummary summary =>
    refine Prog.Returns.bind_of (recordSignedReceipt_returns _ _) fun id hid' => ?_
    exact Prog.Returns.bind fun _ => fits_rejected hreason hcontext (by simpa [hid'] using hid)

theorem refuseExecution_fits (hreason : Brief reason) (hcontext : ShortId signed.context) :
    (refuseExecution crates router signed reason now).Returns (Fits ·.response) := by
  have hid : byteLen (receiptId "execute" now signed.context) ≤ 224 :=
    byteLen_receiptId_le (by decide) now hcontext
  refine Prog.Returns.bind_of (recordSignedReceipt_returns _ _) fun id hid' => ?_
  exact Prog.Returns.bind fun _ => fits_rejected hreason hcontext (by simpa [hid'] using hid)

theorem not_execute_of_only {α : Type} {p : Program α} (h : p.Only (·.isAudit)) :
    p.Only (¬ ·.isExecute) := h.mono fun _ => not_execute_of_audit

theorem refuse_answers {taken : ℕ} {refusal : Refusal} (hreason : Brief refusal.reason)
    (hcontext : ShortId refusal.signed.context) :
    Answers taken (refuse crates router refusal now) :=
  .of_fits (not_execute_of_only (refuse_only _)) (refuse_fits hreason hcontext)

theorem refuseExecution_answers {taken : ℕ} (hreason : Brief reason)
    (hcontext : ShortId signed.context) :
    Answers taken (refuseExecution crates router signed reason now) :=
  .of_fits (not_execute_of_only (refuseExecution_only _)) (refuseExecution_fits hreason hcontext)

theorem enforceScopedUse_brief (context : VerifiedCallContext) :
    (enforceScopedUse crates context now).Returns
      fun refusal => ∀ reason ∈ refusal, Brief reason := by
  have hbrief : ∀ reason : ScopedNullifier.NullifierReason, Brief reason.asStr := by
    intro reason
    cases reason <;> decide
  unfold enforceScopedUse
  split
  · split
    · exact fun reason hreason => Option.some.inj hreason ▸ hbrief _
    · refine Prog.Returns.bind fun outcome => ?_
      rcases outcome with - | (- | -)
      · exact fun reason hreason => Option.some.inj hreason ▸ by decide
      · exact fun reason hreason => by cases hreason
      · exact fun reason hreason => Option.some.inj hreason ▸ hbrief _
  · exact fun reason hreason => by cases hreason

/-- The operation has no output profile, and all contexts of the call have the id of `context`. -/
structure Legacy (context : VerifiedCallContext) (admitted : Admitted) : Prop where
  profile : admitted.descriptor.outputProfile = none
  shortId : ShortId context
  routed : admitted.routed.context.contextId = context.contextId
  receipt : admitted.receiptSigned.context.contextId = context.contextId

/-- What a frame with a handler's reason holds besides. -/
def idBytes (now : UInt64) (context : VerifiedCallContext) : ℕ :=
  70 + digits now + 2 * byteLen context.contextId

variable {context : VerifiedCallContext} {admitted : Admitted}

theorem Legacy.shortRouted (h : Legacy context admitted) : ShortId admitted.routed.context := by
  rw [ShortId, h.routed]
  exact h.shortId

theorem Legacy.shortReceipt (h : Legacy context admitted) :
    ShortId admitted.receiptSigned.context := by
  rw [ShortId, h.receipt]
  exact h.shortId

theorem recordOutcomeReceipt_returns {d : ReceiverManifest.OperationDescriptor}
    (hprofile : d.outputProfile = none) (decision : Decision) (reason : Option String)
    (output : Option (List UInt8)) :
    (recordOutcomeReceipt crates router d signed decision reason output now).Returns
      (· = some (receiptId "execute" now signed.context)) := by
  unfold recordOutcomeReceipt
  rw [hprofile]
  exact Prog.Returns.bind_of (recordSignedReceipt_returns _ _) fun id hid => congrArg some hid

theorem postStartExecutionRejection_answers {taken : ℕ} (h : Legacy context admitted)
    (hreason : Brief reason) :
    Answers taken (postStartExecutionRejection crates router admitted.descriptor
      admitted.receiptSigned reason now) := by
  refine .of_fits (not_execute_of_only (postStartExecutionRejection_only _ _)) ?_
  refine Prog.Returns.bind_of (recordOutcomeReceipt_returns h.profile _ _ _) ?_
  rintro _ rfl
  have hid := byteLen_receiptId_le (by decide : byteLen "execute" ≤ 7) now h.shortReceipt
  exact Prog.Returns.bind fun _ => fits_rejected hreason h.shortReceipt (by simpa using hid)

/-- The response of a finished handler run. -/
def answer (admitted : Admitted) (now : UInt64) (outcome : HandlerOutcome) : DecisionResponse :=
  (outcomeResponse admitted.routed.context admitted.descriptor
    (receiptId "execute" now admitted.receiptSigned.context) outcome).response

theorem concludeExecution_returns (h : Legacy context admitted) (outcome : HandlerOutcome) :
    (concludeExecution crates router admitted outcome now).Returns
      (·.response = answer admitted now outcome) := by
  refine Prog.Returns.bind_of (recordOutcomeReceipt_returns h.profile _ _ _) ?_
  rintro _ rfl
  exact Prog.Returns.bind fun _ => rfl

theorem fits_answer_rejected (h : Legacy context admitted) (hreason : Brief reason) :
    Fits (answer admitted now (.rejected reason)) := by
  have hid := byteLen_receiptId_le (by decide : byteLen "execute" ≤ 7) now h.shortReceipt
  exact fits_rejected hreason h.shortRouted (by simpa using hid)

theorem normalizeHandlerOutcome_of_output_none (h : Legacy context admitted)
    (limits : ExecutionLimits) {outcome : HandlerOutcome} (houtput : outcome.output = none) :
    normalizeHandlerOutcome admitted.descriptor limits outcome = outcome := by
  simp [normalizeHandlerOutcome, h.profile, houtput]

theorem normalizeHandlerOutcome_of_output_some (h : Legacy context admitted)
    (limits : ExecutionLimits) {outcome : HandlerOutcome} (houtput : outcome.output.isSome) :
    ∃ reason, Brief reason ∧
      normalizeHandlerOutcome admitted.descriptor limits outcome = .rejected reason := by
  simp only [normalizeHandlerOutcome, h.profile, houtput, and_true, if_true]
  split_ifs
  · exact ⟨_, by decide, rfl⟩
  · exact ⟨_, by decide, rfl⟩
  · exact ⟨_, by decide, rfl⟩

/-- The gateway replaces every outcome that has an output, and every missing one, by a brief
rejection. -/
theorem fits_answer_iff (h : Legacy context admitted) (limits : ExecutionLimits)
    (reply : Option HandlerOutcome) :
    Fits (answer admitted now (normalizeHandlerOutcome admitted.descriptor limits
      (reply.getD (.rejected "handler_timeout")))) ↔
        ∀ reason, replyReason reply = some reason →
          byteLen reason + idBytes now context ≤ maxDecisionResponseBytes := by
  rcases reply with - | ⟨decision, reason, output⟩
  · refine iff_of_true ?_ (by simp [replyReason])
    rw [Option.getD_none, normalizeHandlerOutcome_of_output_none h limits rfl]
    exact fits_answer_rejected h (by decide)
  rw [Option.getD_some]
  cases output with
  | some output =>
    have houtput : (⟨decision, reason, some output⟩ : HandlerOutcome).output.isSome := rfl
    obtain ⟨text, htext, hnormal⟩ := normalizeHandlerOutcome_of_output_some h limits houtput
    rw [hnormal]
    exact iff_of_true (fits_answer_rejected h htext) (by cases decision <;> simp [replyReason])
  | none =>
    rw [normalizeHandlerOutcome_of_output_none h limits rfl]
    have hid := byteLen_receiptId "execute" now admitted.receiptSigned.context
    have hkind : byteLen "execute" = 7 := by decide
    rw [h.receipt, hkind] at hid
    cases decision with
    | accepted =>
      have hnow := digits_le now
      have hshort : byteLen context.contextId ≤ 107 := h.shortId
      refine iff_of_true ?_ (by simp [replyReason])
      simp only [Fits, answer, outcomeResponse, DecisionResponse.accepted, frameLen, optLen,
        h.routed, hid, maxDecisionResponseBytes]
      omega
    | rejected =>
      cases reason with
      | none =>
        have hfits : Fits (answer admitted now ⟨.rejected, none, none⟩) :=
          fits_answer_rejected h (by decide : Brief "handler_rejected")
        exact iff_of_true hfits (by simp [replyReason])
      | some reason =>
        simp only [replyReason, Option.some.injEq, forall_eq', Fits, answer, outcomeResponse,
          DecisionResponse.rejected, frameLen, optLen, h.routed, hid, idBytes, Option.getD_some]
        omega

theorem startHandler_answers (h : Legacy context admitted) (handlerId : String) :
    Answers (idBytes now context)
      (startHandler crates router admitted handlerId payload now) := by
  refine .bind (not_execute_of_only (recordOperationEvent_only _ _)) fun _ _ _ => ?_
  intro es routed hfollows
  obtain ⟨env, w, es', rfl, hconclude⟩ := hfollows.step_done
  have hrest : LeavesRoom (idBytes now context) es' :=
    leavesRoom_of_not_execute (hconclude.only (not_execute_of_only (concludeExecution_only _)))
  rw [hconclude.returns (concludeExecution_returns h _), fits_answer_iff h]
  constructor
  · exact fun hroom => List.forall_mem_cons.mpr ⟨hroom, hrest⟩
  · exact fun hroom => hroom _ List.mem_cons_self

theorem dispatch_answers (h : Legacy context admitted) :
    Answers (idBytes now context) (dispatch crates router admitted payload now) := by
  unfold dispatch
  split
  · exact postStartExecutionRejection_answers h (by decide)
  · split
    · exact postStartExecutionRejection_answers h (by decide)
    · split
      · exact startHandler_answers h _
      · exact postStartExecutionRejection_answers h (by decide)

theorem routeReserved_answers (h : Legacy context admitted) :
    Answers (idBytes now context) (routeReserved crates router admitted payload now) := by
  refine .bind ((enforceScopedUse_only _).mono ?_) fun refusal es huse => ?_
  · rintro c ⟨row, rfl⟩ hexec
    cases hexec
  · cases refusal with
    | some reason =>
      exact refuseExecution_answers (huse.returns (enforceScopedUse_brief _) reason rfl)
        h.shortRouted
    | none =>
      refine .bind (not_execute_of_only (announce_only _)) fun _ _ _ => ?_
      cases hdenial : permissionDenial router admitted.routed.context now with
      | some deny =>
        have hbrief : Brief deny.code := by cases deny <;> decide
        exact refuseExecution_answers hbrief h.shortRouted
      | none => exact dispatch_answers h

theorem routeAdmitted_answers (h : Legacy context admitted) :
    Answers (idBytes now context) (routeAdmitted crates router admitted payload now) := by
  refine .bind ((reserveReplay_only _ _ _).mono ?_) fun outcome _ _ => ?_
  · rintro c (hprune | rfl) hexec
    · rw [hprune.2] at hexec
      cases hexec
    · cases hexec
  · rcases outcome with - | (- | -)
    · exact refuse_answers (by decide : Brief replayReservationFailedReason) h.shortRouted
    · exact routeReserved_answers h
    · exact refuse_answers (by decide : Brief replayDetectedReason) h.shortRouted

theorem routeVerified_answers {es : List Step} {routed : Routed}
    (hprofile : ∀ d, router.manifest.lookup signed.context.opcode = .ok d → d.outputProfile = none)
    (hshort : ShortId signed.context)
    (h : machine.Follows (routeVerified crates router signed payload) es (.done routed)) :
    ∃ env w rest, es = ⟨env, w, .readClock⟩ :: rest ∧
      (Fits routed.response ↔ LeavesRoom (idBytes env.clock signed.context) rest) := by
  unfold routeVerified at h
  rw [readClock_bind] at h
  obtain ⟨env, w, rest, rfl, hroute⟩ := h.step_done
  refine ⟨env, w, rest, rfl, ?_⟩
  have hclock : (machine.exec env w .readClock).1 = env.clock := rfl
  cases hpreflight : preflight crates router signed payload env.clock with
  | error refusal =>
    simp only [hclock, hpreflight] at hroute
    obtain ⟨hsame, hreason⟩ := preflight_refuses hpreflight
    refine refuse_answers (brief_of_gateReason hreason) ?_ _ _ hroute
    rw [ShortId, hsame.contextId]
    exact hshort
  | ok admitted =>
    simp only [hclock, hpreflight] at hroute
    have hpassed := preflight_ok hpreflight
    exact routeAdmitted_answers ⟨hprofile _ hpassed.descriptor, hshort,
      (sameCall_routed hpassed).contextId, (sameCall_receiptSigned hpassed).contextId⟩ _ _ hroute

end Stages

/-! ## A connection -/

section Connection

variable {crates : Crates} {receiver : Receiver} {request : DecodedIngressRequest} {es : List Step}
  {response : DecisionResponse}

/-- The frame is no decision, or one that fits. -/
def FitsFrame (frame : Option ReceiverFrame) : Prop :=
  ∀ response, frame = some (.decision response) → Fits response

theorem writeExecutionResponse_ne (reply : ExecutionTransport.ExecutionResponse) :
    writeExecutionResponse reply ≠ some (.decision response) := by
  unfold writeExecutionResponse
  split <;> simp

theorem recordReject_returns (router : ConfigurableRouter) (packet : CallerProof.ZenithPacket)
    (error : VerificationError) :
    (recordReject crates router packet error).Returns (byteLen · ≤ 132) := by
  refine Prog.Returns.bind fun timestamp => Prog.Returns.bind fun _ => Prog.Returns.bind fun _ => ?_
  have hhead : byteLen "receipt-reject-" = 15 := by decide
  have hnow := digits_le timestamp
  have hnonce : byteLen (lowerHex (packet.nonce.val.drop 4)) = 16 := by
    rw [byteLen_lowerHex, List.length_drop, packet.nonce.property]
  change byteLen (_ ++ packetReceiptSuffix crates packet) ≤ 132
  simp only [packetReceiptSuffix, byteLen_append, byteLen_hexByte, byteLen_hash, byteLen_dash,
    hhead, hnonce]
  unfold digits at hnow
  omega

theorem fits_packetRejection {error : VerificationError} {id : String} (hid : byteLen id ≤ 132) :
    Fits (.rejected error.reasonCode none (some id)) := by
  have hreason : byteLen error.reasonCode ≤ 64 := brief_reasonCode error
  simp only [Fits, frameLen, DecisionResponse.rejected, optLen, maxDecisionResponseBytes]
  omega

theorem writePostDecodeVerifierRejection_fits (router : ConfigurableRouter)
    (packet : CallerProof.ZenithPacket) (error : VerificationError) (requestDigest : Bytes 32)
    (responseMode : ReceiverResponseMode) :
    (writePostDecodeVerifierRejection crates router packet error requestDigest responseMode).Returns
      FitsFrame := by
  refine Prog.Returns.bind_of (recordReject_returns router packet error) fun id hid => ?_
  cases responseMode with
  | legacyDecision =>
    rintro response ⟨⟩
    exact fits_packetRejection hid
  | execution =>
    dsimp only
    split
    · rintro response ⟨⟩
    · exact fun response hframe => absurd hframe (writeExecutionResponse_ne _)

/-- A rejection before the router starts no handler, and its answer fits. -/
theorem fits_iff_of_rejection {taken : ℕ} {p : Program (Option ReceiverFrame)}
    (h : machine.Follows p es (.done (some (.decision response))))
    (honly : p.Only Cmd.isRejection) (hfits : p.Returns FitsFrame) :
    Fits response ↔ LeavesRoom taken es :=
  iff_of_true (h.returns hfits response rfl)
    (leavesRoom_of_not_execute fun e he => not_execute_of_rejection (h.only honly e he))

/-- The digits in the ids of an answer: those of the first clock reading stand in the context id and
again in the receipt id, those of the router's in the receipt id. -/
def clockDigits : List Step → ℕ
  | ⟨arrival, _, .readClock⟩ :: ⟨routing, _, .readClock⟩ :: _ =>
    2 * digits arrival.clock + digits routing.clock
  | _ => 0

theorem issued_id {opened : Opened} {signed : SignedVerifiedCallContext} {now : UInt64}
    (hsigned : receiver.signedContextFor crates request opened now = .ok signed) :
    signed.context.opcode = request.packet.opcode ∧
      byteLen signed.context.contextId = 27 + digits now := by
  obtain ⟨d, subject, summary, resource, -, -, rfl⟩ := issued_of_signedContextFor hsigned
  refine ⟨rfl, ?_⟩
  have hhead : byteLen "ctx-v1-" = 7 := by decide
  change byteLen (issuedContext crates request.packet d receiver.router.expectedAudience subject
    summary resource now).contextId = _
  simp only [issuedContext, byteLen_append, byteLen_hexByte, byteLen_hash, byteLen_dash, hhead,
    digits]
  omega

theorem routeRequest_fits_iff {opened : Opened} {signed : SignedVerifiedCallContext}
    {env : Env} {w : Tables}
    (hsigned : receiver.signedContextFor crates request opened env.clock = .ok signed)
    (h : machine.Follows (receiver.routeRequest crates request signed opened.payload) es
      (.done (some (.decision response)))) :
    Fits response ↔ LeavesRoom (124 + clockDigits (⟨env, w, .readClock⟩ :: es)) es := by
  obtain ⟨hopcode, hid⟩ := issued_id hsigned
  unfold Receiver.routeRequest at h
  cases hmode : receiver.responseMode request.packet with
  | execution =>
    rw [hmode] at h
    obtain ⟨reply, es₁, es₂, -, -, h⟩ := h.bind_done
    cases reply with
    | error => cases h.done_inv.2
    | ok reply => exact absurd (Prog.done.inj h.done_inv.2).symm (writeExecutionResponse_ne reply)
  | legacyDecision =>
    rw [hmode] at h
    obtain ⟨routed, es₁, es₂, rfl, hroute, hdone⟩ := h.bind_done
    obtain ⟨rfl, hresponse⟩ := hdone.done_inv
    cases hresponse
    have hprofile : ∀ d, receiver.router.manifest.lookup signed.context.opcode = .ok d →
        d.outputProfile = none := by
      intro d hd
      rw [hopcode] at hd
      simpa [Receiver.responseMode, hd] using hmode
    have hclock := digits_le env.clock
    have hshort : ShortId signed.context := hid.trans_le (by omega)
    obtain ⟨env', w', rest, rfl, hiff⟩ := routeVerified_answers hprofile hshort hroute
    have htaken : 124 + clockDigits (⟨env, w, .readClock⟩ :: ⟨env', w', .readClock⟩ :: rest) =
        idBytes env'.clock signed.context := by
      simp only [clockDigits, idBytes, hid]
      omega
    rw [List.append_nil, htaken, leavesRoom_clock]
    exact hiff

theorem connection_fits_iff {stream : List UInt8} {sequence : UInt64}
    (h : machine.Follows (receiver.handleGatewayConnectionWithLimits crates stream sequence) es
      (.done (some (.decision response)))) :
    Fits response ↔ LeavesRoom (124 + clockDigits es) es := by
  unfold Receiver.handleGatewayConnectionWithLimits at h
  split at h
  · cases h.done_inv.2
  · next request _ =>
    unfold Receiver.handleRequest at h
    dsimp only at h
    split at h
    · exact fits_iff_of_rejection h writePostDecodeVerifierRejection_only
        (writePostDecodeVerifierRejection_fits _ _ _ _ _)
    · next opened _ =>
      rw [readClock_bind] at h
      obtain ⟨env, w, rest, rfl, hverified⟩ := h.step_done
      have hclock : (machine.exec env w .readClock).1 = env.clock := rfl
      rw [leavesRoom_clock]
      cases hsigned : receiver.signedContextFor crates request opened env.clock with
      | error error =>
        simp only [hclock, hsigned] at hverified
        exact fits_iff_of_rejection hverified writePostDecodeVerifierRejection_only
          (writePostDecodeVerifierRejection_fits _ _ _ _ _)
      | ok signed =>
        simp only [hclock, hsigned] at hverified
        exact routeRequest_fits_iff hsigned hverified
  · refine fits_iff_of_rejection h (Prog.Only.bind recordReject_only fun _ => trivial) ?_
    refine Prog.Returns.bind_of (recordReject_returns _ _ _) fun id hid => ?_
    rintro response ⟨⟩
    exact fits_packetRejection hid

end Connection

/-- Whatever the receiver, the bytes of the connection, the ledger's replies and the interleaving:
the client is told the decision that the gateway wrote just when a handler that was started and
rejects without output gives a reason that is short enough. All other reasons and ids fit. -/
theorem client_told_truly_iff (crates : Crates) (receiver : Receiver) (stream : List UInt8)
    (sequence : UInt64) (es : List Step) (response : DecisionResponse)
    (hwritten : machine.Follows
      (receiver.handleGatewayConnectionWithLimits crates stream sequence) es
      (.done (some (.decision response)))) :
    ToldTruly response ↔ ∀ e ∈ es, ∀ reason, handlerReason e = some reason →
      byteLen reason + clockDigits es ≤ 900 := by
  rw [toldTruly_iff]
  refine (connection_fits_iff hwritten).trans ?_
  refine forall₂_congr fun e _ => forall₂_congr fun reason _ => ?_
  unfold maxDecisionResponseBytes
  omega

/-! ## A handler's reason on its way to the client -/

namespace Sample

open IngressEvidence.Sample (receiver stream)

def rejecting (reason : String) : Env :=
  { RouterRuns.Sample.env 150 with handler := fun _ _ _ _ => some (.rejected reason) }

def connection : Program (Option ReceiverFrame) :=
  receiver.handleGatewayConnectionWithLimits .transparent (stream []) 0

/-- A reason that fills a frame by itself. -/
def longReason : String := String.ofList (List.replicate maxDecisionResponseBytes 'x')

/-- What a run shows: the answer, the reasons of the handlers and the digits of the clock
readings. -/
def shown (ran : Machine.Ran Cmd Tables Env (Option ReceiverFrame)) :
    Option (Decision × Option String) × List String × ℕ :=
  (match ran.result with
    | some (.decision response) => some (response.decision, response.reasonCode)
    | _ => none,
    ran.events.filterMap handlerReason, clockDigits ran.events)

/-- The one handler that is started gives the reason, and both clock readings are 150. -/
theorem shown_run : ∀ reason ∈ ["no", longReason],
    shown (machine.run (rejecting reason) Tables.empty connection) =
      (some (.rejected, some reason), [reason], 9) := by
  decide +kernel

/-- The answer is a rejection for the handler's reason. -/
theorem answered {reason : String} (h : reason ∈ ["no", longReason]) :
    ∃ es response, machine.Follows connection es (.done (some (.decision response))) ∧
      response.decision = .rejected ∧ response.reasonCode = some reason ∧
      es.filterMap handlerReason = [reason] ∧ clockDigits es = 9 := by
  have hfollows := Machine.run_follows (M := machine) (rejecting reason) Tables.empty connection
  obtain ⟨hanswer, hshown⟩ := Prod.mk.inj (shown_run reason h)
  obtain ⟨hreasons, hdigits⟩ := Prod.mk.inj hshown
  split at hanswer
  · next response hresult =>
    rw [hresult] at hfollows
    obtain ⟨hdecision, hreason⟩ := Prod.mk.inj (Option.some.inj hanswer)
    exact ⟨_, response, hfollows, hdecision, hreason, hreasons, hdigits⟩
  · cases hanswer

theorem short_reason_told :
    ∃ es response, machine.Follows
        (receiver.handleGatewayConnectionWithLimits .transparent (stream []) 0) es
        (.done (some (.decision response))) ∧
      es.filterMap handlerReason = ["no"] ∧ response.decision = .rejected ∧ ToldTruly response := by
  obtain ⟨es, response, hfollows, hdecision, -, hreasons, hdigits⟩ := answered List.mem_cons_self
  refine ⟨es, response, hfollows, hreasons, hdecision, ?_⟩
  refine (client_told_truly_iff _ _ _ _ _ _ hfollows).mpr fun e he reason hreason => ?_
  have hmem : reason ∈ ["no"] := hreasons ▸ List.mem_filterMap.mpr ⟨e, he, hreason⟩
  rw [List.mem_singleton.mp hmem, hdigits]
  decide

theorem byteLen_replicate (n : ℕ) : byteLen (String.ofList (List.replicate n 'x')) = n := by
  have hone : (String.utf8EncodeChar 'x').length = 1 := by decide
  rw [byteLen, utf8_eq, String.toList_ofList]
  induction n with
  | zero => rfl
  | succ n ih =>
    rw [List.replicate_succ, List.flatMap_cons, List.length_append, ih, hone, Nat.add_comm]

/-- A response whose reason alone fills a frame is not decoded. -/
theorem clientReads_of_long_reason {response : DecisionResponse} {reason : String}
    (hreason : response.reasonCode = some reason) (h : maxDecisionResponseBytes ≤ byteLen reason) :
    clientReads response = none := by
  apply clientReads_of_gt
  simp only [frameLen, hreason, optLen]
  omega

/-- A rejection whose reason is too long is taken for an older gateway's silence: the client exits
with 0. -/
theorem long_reason_exits_zero :
    ∃ es response, machine.Follows
        (receiver.handleGatewayConnectionWithLimits .transparent (stream []) 0) es
        (.done (some (.decision response))) ∧
      response.decision = .rejected ∧ clientReads response = none ∧
      reportDecision (clientReads response) = 0 := by
  obtain ⟨es, response, hfollows, hdecision, hreason, -⟩ :=
    answered (List.mem_cons_of_mem _ List.mem_cons_self)
  have hnone : clientReads response = none :=
    clientReads_of_long_reason hreason (byteLen_replicate maxDecisionResponseBytes).ge
  refine ⟨es, response, hfollows, hdecision, hnone, ?_⟩
  rw [hnone]
  rfl

end Sample

end DecisionFrames
