import SecsMagik.ReceiptRuns
import SecsMagik.ScopedUse

/-! # What receipts say about scoped uses

A receipt states what became of a required scoped use, but computes it from the decision and the
reason of the call. Here the receipts a call leaves in the ledger are compared with the uses it
recorded.
-/
namespace ReceiptTruth

open RustStd
open ExternalCrates (Crates)
open CallContext ReceiverManifest ScopedNullifier Receipts Ledger AtomicPrograms UniqueTable
open GatewayMachine GatewayRouter RouterTraces RouterRuns ReceiptRuns ScopedUse

section

variable {crates : Crates} {router : ConfigurableRouter} {signed : SignedVerifiedCallContext}
  {payload : List UInt8} {admitted : Admitted} {env : Env} {w : Tables} {now : UInt64}

/-! ## What summaries state -/

section Fields

variable {fields : List String}

theorem evidenceValue_extend (hfields : ∀ field ∈ fields, field.toList.head? = some 'r')
    {key : String} {c : Char} (hkey : key.toList.head? = some c) (hc : 'r' ≠ c) :
    evidenceValue (extendSummary signed fields).context key = evidenceValue signed.context key := by
  have hhead : (key ++ ":").toList.head? = some c := by
    rw [String.toList_append, List.head?_append, hkey]
    rfl
  have hnone : fields.findSome? (stripPrefix · (key ++ ":")) = none := by
    rw [List.findSome?_eq_none_iff]
    exact fun field hfield => stripPrefix_of_head (hfields field hfield) hhead hc
  simp only [evidenceValue, extendSummary, List.findSome?_append, hnone, Option.or_none]

theorem scopedUseRequired_extend (hfields : ∀ field ∈ fields, field.toList.head? = some 'r') :
    scopedUseRequired (extendSummary signed fields).context =
      scopedUseRequired signed.context := by
  have habsent : "scoped_use_required" ∉ fields := by
    intro hmem
    have hhead := hfields _ hmem
    simp at hhead
  simp [scopedUseRequired, extendSummary, List.contains_eq_mem, habsent]

/-- The fields of a registration projection do not touch the scoped evidence. -/
theorem fromContext_extend (hfields : ∀ field ∈ fields, field.toList.head? = some 'r') :
    ScopedNullifierEvidence.fromContext crates (extendSummary signed fields).context =
      ScopedNullifierEvidence.fromContext crates signed.context := by
  have hvalue : ∀ (key : String) (c : Char), key.toList.head? = some c → 'r' ≠ c →
      evidenceValue (extendSummary signed fields).context key =
        evidenceValue signed.context key := fun _ _ hkey hc => evidenceValue_extend hfields hkey hc
  have hscope := hvalue "nullifier_scope" 'n' (by simp) (by decide)
  have hcommitment := hvalue "nullifier_commitment" 'n' (by simp) (by decide)
  have hepoch := hvalue "nullifier_epoch" 'n' (by simp) (by decide)
  have hissuer := hvalue "nullifier_issuer" 'n' (by simp) (by decide)
  have hroot := hvalue "nullifier_root" 'n' (by simp) (by decide)
  have hsubject := hvalue "subject_commitment" 's' (by simp) (by decide)
  have hallowance := hvalue "allowance_id" 'a' (by simp) (by decide)
  have hdomain := hvalue "nullifier_domain_fingerprint" 'n' (by simp) (by decide)
  unfold ScopedNullifierEvidence.fromContext requiredEvidenceValue
  simp only [hscope, hcommitment, hepoch, hissuer, hroot, hsubject, hallowance, hdomain,
    scopedUseRequired_extend hfields]
  rfl

theorem scopedUseRequired_mono (h : scopedUseRequired signed.context) (fields : List String) :
    scopedUseRequired (extendSummary signed fields).context := by
  simp only [scopedUseRequired, List.contains_eq_mem, decide_eq_true_eq] at h
  simp [scopedUseRequired, extendSummary, h]

/-- What the preflight appends has no bearing on the scoped use. -/
theorem passed_context (h : Passed crates router signed payload now admitted) :
    scopedUseRequired admitted.routed.context = scopedUseRequired signed.context ∧
      ScopedNullifierEvidence.fromContext crates admitted.routed.context =
        ScopedNullifierEvidence.fromContext crates signed.context := by
  have hprojection := h.projection
  unfold appendRegistrationProjection at hprojection
  split at hprojection
  · split at hprojection
    · next fields hvalid =>
        rw [← Except.ok.inj hprojection]
        obtain ⟨request, rfl⟩ := NodeRegistration.validateVerifiedRegistrationRoute_ok hvalid
        have hfields : ∀ field ∈ NodeRegistration.registrationProjection crates request,
            field.toList.head? = some 'r' := fun _ hfield =>
          NodeRegistration.registrationProjection_head hfield
        exact ⟨scopedUseRequired_extend hfields, fromContext_extend hfields⟩
    · cases hprojection
  · rw [← Except.ok.inj hprojection]
    exact ⟨rfl, rfl⟩

end Fields

def States (r : Receipt) (outcome : NullifierOutcome) : Prop :=
  outcomeField outcome ∈ r.evidenceSummary

theorem mem_privacySafeSummary {outcome outcome' : NullifierOutcome}
    {domain commitment : Option String} :
    outcomeField outcome ∈ privacySafeSummary outcome' domain commitment ↔ outcome = outcome' := by
  -- the eleventh character tells the fields apart
  have hten : (outcomeField outcome).toList[10]? = some 'o' := char_append (by simp)
  have hother : ∀ {field : String} {c : Char}, field.toList[10]? = some c → c ≠ 'o' →
      outcomeField outcome ≠ field := by
    rintro field c hfield hc rfl
    exact hc (Option.some.inj (hfield.symm.trans hten))
  constructor
  · intro h
    simp only [privacySafeSummary, List.mem_append, List.mem_cons, List.not_mem_nil, or_false,
      Option.mem_toList, Option.map_eq_some_iff] at h
    rcases h with (((h | h | h) | ⟨x, -, h⟩) | ⟨x, -, h⟩)
    · exact absurd h (hother (c := '_') (by simp) (by decide))
    · exact absurd h (hother (c := 'd') (char_append (by simp)) (by decide))
    · exact NullifierOutcome.asStr_inj.mp ((String.append_right_inj _).mp h)
    · exact absurd h.symm (hother (c := 'd') (char_append (by simp)) (by decide))
    · exact absurd h.symm (hother (c := 'c') (char_append (by simp)) (by decide))
  · rintro rfl
    simp [privacySafeSummary]

variable {context : VerifiedCallContext}

theorem mem_receiptEvidenceSummary {decision : Decision} {reason : Option String}
    {outcome : NullifierOutcome} (h : scopedUseRequired context) :
    outcomeField outcome ∈ receiptEvidenceSummary crates context decision reason ↔
      outcome = statedOutcome decision reason := by
  unfold receiptEvidenceSummary
  rw [if_neg (by simp [h])]
  cases ScopedNullifierEvidence.fromContext crates context with
  | ok evidence => exact mem_privacySafeSummary
  | error reason => exact mem_privacySafeSummary

theorem states_of_signed {identity : VerifierKeys.NodeVerifierIdentity} {draft r : Receipt}
    (h : signReceipt crates identity draft = .ok r) (hrequired : scopedUseRequired context)
    {decision : Decision} {reason : Option String}
    (hsummary : draft.evidenceSummary = receiptEvidenceSummary crates context decision reason)
    (outcome : NullifierOutcome) : States r outcome ↔ outcome = statedOutcome decision reason := by
  obtain ⟨-, -, hsame⟩ := signReceipt_ok h
  rw [States, hsame, hsummary]
  exact mem_receiptEvidenceSummary hrequired

/-! ## Stated and recorded outcomes -/

/-- Each verify or execute receipt written in these steps says that a use was recorded exactly if
one was, and that the evidence is missing only if the context has none that is usable. -/
def TellsTruth (crates : Crates) (context : VerifiedCallContext) (es : List Step) : Prop :=
  ∀ r, Written es r → r.kind = .verify ∨ r.kind = .execute →
    (States r .scopedUseRecorded ↔ RecordsNewUse es) ∧
      (States r .missingScopedNullifier →
        ∀ evidence, ScopedNullifierEvidence.fromContext crates context ≠ .ok evidence)

/-- The execute receipt of a call that is refused behind its reservation. -/
def refusalDraft (crates : Crates) (context : VerifiedCallContext) (reason : String)
    (now : UInt64) : Receipt :=
  .execution crates (receiptId "execute" now context) context .rejected (some reason) now

section Drafts

variable (crates : Crates) (router : ConfigurableRouter) (admitted : Admitted)
  (payload : List UInt8) (env : Env) (w : Tables) (now : UInt64)

/-- How a call whose use is stored comes to an execute receipt that does not say so: the permission
policy denies it, its payload is too large, no program is registered for its handler, or the answer
of the handler, as the router normalises it, is a rejection or gives a nullifier reason. -/
inductive Forgets : Receipt → Prop
  | denied {deny : PermissionPolicy.DenyReason}
      (denial : permissionDenial router admitted.routed.context now = some deny) :
      Forgets (refusalDraft crates admitted.routed.context deny.code now)
  | oversized (permitted : permissionDenial router admitted.routed.context now = none)
      (large : router.limits.maxPayloadBytes < payload.length) :
      Forgets (refusalDraft crates admitted.receiptSigned.context "payload_too_large" now)
  | unserved (permitted : permissionDenial router admitted.routed.context now = none)
      (fits : payload.length ≤ router.limits.maxPayloadBytes)
      (unregistered : ¬ ∃ handlerId, admitted.routed.context.handlerId = some handlerId ∧
        router.programs handlerId) :
      Forgets (refusalDraft crates admitted.receiptSigned.context "handler_unavailable" now)
  | answered {handlerId : String} {draft : Receipt}
      (permitted : permissionDenial router admitted.routed.context now = none)
      (fits : payload.length ≤ router.limits.maxPayloadBytes)
      (handler : admitted.routed.context.handlerId = some handlerId)
      (registered : router.programs handlerId)
      (turned : (handlerVerdict router admitted payload env handlerId).decision = .rejected ∨
        ∃ reason : NullifierReason,
          (handlerVerdict router admitted payload env handlerId).reason = some reason.asStr)
      (drafted : outcomeDraft crates admitted.descriptor admitted.receiptSigned
        (handlerVerdict router admitted payload env handlerId) now = .ok draft) :
      Forgets draft

/-- The drafts that misstate the outcome: the evidence is usable and the ledger fails to store the
use, or the use is stored and the receipt forgets it. -/
inductive Misreports : Receipt → Prop
  | useLost {evidence : ScopedNullifierEvidence}
      (usable : ScopedNullifierEvidence.fromContext crates admitted.routed.context = .ok evidence)
      (fails : env.fails (.insertScopedUse
        (scopedNullifierUse crates evidence admitted.routed.context now))) :
      Misreports
        (refusalDraft crates admitted.routed.context scopedNullifierStorageFailedReason now)
  | useForgotten {evidence : ScopedNullifierEvidence} {draft : Receipt}
      (granted : UseGranted crates env w admitted.routed.context now evidence)
      (forgets : Forgets crates router admitted payload env now draft) : Misreports draft

/-- What the receipt of the call's verdict states. -/
def closingOutcome : NullifierOutcome :=
  let outcome := verdict router admitted payload env now
  statedOutcome outcome.decision outcome.reason

end Drafts

theorem statedOutcome_eq_recorded_iff {decision : Decision} {reason : Option String} :
    statedOutcome decision reason = .scopedUseRecorded ↔
      ¬ (decision = .rejected ∨ ∃ name : NullifierReason, reason = some name.asStr) := by
  cases reason with
  | none => cases decision <;> simp [statedOutcome]
  | some text =>
    simp only [statedOutcome]
    split_ifs with hduplicate hdomain hmissing hscope
    · exact iff_of_false (by simp)
        (not_not.mpr (.inr ⟨.duplicateNullifier, congrArg some hduplicate⟩))
    · exact iff_of_false (by simp) (not_not.mpr (.inr ⟨.domainMismatch, congrArg some hdomain⟩))
    · exact iff_of_false (by simp)
        (not_not.mpr (.inr ⟨.missingScopedNullifier, congrArg some hmissing⟩))
    · exact iff_of_false (by simp) (not_not.mpr (.inr ⟨.unsupportedScope, congrArg some hscope⟩))
    · cases decision with
      | rejected => simp
      | accepted =>
        refine iff_of_true rfl (not_or.mpr ⟨by simp, ?_⟩)
        rintro ⟨name, hname⟩
        have htext := Option.some.inj hname
        cases name with
        | duplicateNullifier => exact hduplicate htext
        | domainMismatch => exact hdomain htext
        | missingScopedNullifier => exact hmissing htext
        | unsupportedScope => exact hscope htext

theorem outcomeDraft_rejected (reason : String) :
    outcomeDraft crates admitted.descriptor admitted.receiptSigned (.rejected reason) now =
      .ok (refusalDraft crates admitted.receiptSigned.context reason now) := by
  unfold outcomeDraft
  cases admitted.descriptor.outputProfile <;> rfl

section Verdict

variable (permitted : permissionDenial router admitted.routed.context now = none)

include permitted

theorem closingDraft_permitted :
    closingDraft crates router admitted payload env now = outcomeDraft crates admitted.descriptor
      admitted.receiptSigned (verdict router admitted payload env now) now := by
  simp only [closingDraft, permitted]

theorem verdict_oversized (large : router.limits.maxPayloadBytes < payload.length) :
    verdict router admitted payload env now = .rejected "payload_too_large" := by
  simp only [verdict, permitted, large, if_true]

variable (fits : payload.length ≤ router.limits.maxPayloadBytes)

include fits

theorem verdict_unserved (unregistered : ¬ ∃ handlerId,
    admitted.routed.context.handlerId = some handlerId ∧ router.programs handlerId) :
    verdict router admitted payload env now = .rejected "handler_unavailable" := by
  unfold verdict
  rw [permitted]
  cases hid : admitted.routed.context.handlerId with
  | none => simp [not_lt.mpr fits]
  | some handlerId =>
    have hprogram : ¬ router.programs handlerId := fun h => unregistered ⟨handlerId, hid, h⟩
    simp [not_lt.mpr fits, hprogram]

theorem verdict_served {handlerId : String}
    (handler : admitted.routed.context.handlerId = some handlerId)
    (registered : router.programs handlerId) :
    verdict router admitted payload env now =
      handlerVerdict router admitted payload env handlerId := by
  simp only [verdict, permitted, not_lt.mpr fits, handler, registered, if_true, if_false]

end Verdict

/-- The closing receipt of a call forgets its use exactly if it states another outcome. -/
theorem forgets_iff {draft : Receipt} :
    Forgets crates router admitted payload env now draft ↔
      closingDraft crates router admitted payload env now = .ok draft ∧
        closingOutcome router admitted payload env now ≠ .scopedUseRecorded := by
  rw [closingOutcome, ne_eq, statedOutcome_eq_recorded_iff, not_not]
  constructor
  · intro h
    cases h with
    | denied denial =>
      simp only [closingDraft, verdict, denial]
      exact ⟨rfl, .inl rfl⟩
    | oversized permitted large =>
      rw [closingDraft_permitted permitted, verdict_oversized permitted large]
      exact ⟨outcomeDraft_rejected _, .inl rfl⟩
    | unserved permitted fits unregistered =>
      rw [closingDraft_permitted permitted, verdict_unserved permitted fits unregistered]
      exact ⟨outcomeDraft_rejected _, .inl rfl⟩
    | answered permitted fits handler registered turned drafted =>
      rw [closingDraft_permitted permitted, verdict_served permitted fits handler registered]
      exact ⟨drafted, turned⟩
  · rintro ⟨hclosing, hturned⟩
    cases hdenial : permissionDenial router admitted.routed.context now with
    | some deny =>
      simp only [closingDraft, verdict, hdenial] at hclosing
      cases hclosing
      exact .denied hdenial
    | none =>
      rw [closingDraft_permitted hdenial] at hclosing
      by_cases hfits : payload.length ≤ router.limits.maxPayloadBytes
      · by_cases hserved : ∃ handlerId, admitted.routed.context.handlerId = some handlerId ∧
          router.programs handlerId
        · obtain ⟨handlerId, hid, hprogram⟩ := hserved
          rw [verdict_served hdenial hfits hid hprogram] at hclosing hturned
          exact .answered hdenial hfits hid hprogram hturned hclosing
        · rw [verdict_unserved hdenial hfits hserved, outcomeDraft_rejected] at hclosing
          cases hclosing
          exact .unserved hdenial hfits hserved
      · rw [verdict_oversized hdenial (not_le.mp hfits), outcomeDraft_rejected] at hclosing
        cases hclosing
        exact .oversized hdenial (not_le.mp hfits)

/-- A refusal that records nothing is truthful unless it blames usable evidence. -/
theorem tellsTruth_refusal {reason : String} {es : List Step}
    (hrequired : scopedUseRequired context)
    (hwritten : ∀ r, Written es r ↔
      Persists crates router env w (refusalDraft crates context reason now) r)
    (hnone : ¬ RecordsNewUse es)
    (hstated : statedOutcome .rejected (some reason) ≠ .scopedUseRecorded) :
    TellsTruth crates context es ↔
      ∀ r, Persists crates router env w (refusalDraft crates context reason now) r →
        statedOutcome .rejected (some reason) = .missingScopedNullifier →
        ∀ evidence, ScopedNullifierEvidence.fromContext crates context ≠ .ok evidence := by
  have hstates : ∀ r, Persists crates router env w (refusalDraft crates context reason now) r →
      ∀ outcome, States r outcome ↔ outcome = statedOutcome .rejected (some reason) :=
    fun r hr outcome => states_of_signed hr.signs hrequired rfl outcome
  constructor
  · intro htruth r hr hmissing
    have hkind : r.kind = .execute := (signReceipt_ok hr.signs).2.1
    exact (htruth r ((hwritten r).mpr hr) (.inr hkind)).2 ((hstates r hr _).mpr hmissing.symm)
  · intro h r hr _
    have hpersists := (hwritten r).mp hr
    refine ⟨?_, fun hmissing => h r hpersists ((hstates r hpersists _).mp hmissing).symm⟩
    rw [hstates r hpersists]
    exact iff_of_false (Ne.symm hstated) hnone

/-- A call whose use was recorded is truthful if its closing receipt says so. -/
theorem tellsTruth_recorded {es : List Step}
    (hrequired : scopedUseRequired admitted.routed.context)
    (hrequired' : scopedUseRequired admitted.receiptSigned.context)
    (hwritten : ∀ r, Written es r ↔
      Persists crates router env w (verifyDraft crates admitted now) r ∨
        ∃ draft, closingDraft crates router admitted payload env now = .ok draft ∧
          Persists crates router env w draft r)
    (hrecorded : RecordsNewUse es) :
    TellsTruth crates admitted.routed.context es ↔
      ∀ draft, closingDraft crates router admitted payload env now = .ok draft →
        ∀ r, Persists crates router env w draft r →
          closingOutcome router admitted payload env now = .scopedUseRecorded := by
  have hclosing : ∀ draft, closingDraft crates router admitted payload env now = .ok draft →
      ∀ r, Persists crates router env w draft r → r.kind = .execute ∧ ∀ outcome,
        (States r outcome ↔ outcome = closingOutcome router admitted payload env now) := by
    intro draft hdraft r hr
    obtain ⟨context, hcontext, -, hkind, hsummary⟩ := closingDraft_ok hdraft
    have hcontextRequired : scopedUseRequired context := by
      rcases List.mem_pair.mp hcontext with rfl | rfl
      · exact hrequired
      · exact hrequired'
    exact ⟨(signReceipt_ok hr.signs).2.1.trans hkind,
      states_of_signed hr.signs hcontextRequired hsummary⟩
  constructor
  · intro htruth draft hdraft r hr
    obtain ⟨hkind, hstates⟩ := hclosing draft hdraft r hr
    have hsays := (htruth r ((hwritten r).mpr (.inr ⟨draft, hdraft, hr⟩)) (.inr hkind)).1.mpr
      hrecorded
    exact ((hstates _).mp hsays).symm
  · intro h r hr _
    -- either receipt states that the use was recorded, and nothing else
    have hstates : ∀ outcome, States r outcome ↔ outcome = .scopedUseRecorded := by
      rcases (hwritten r).mp hr with hverify | ⟨draft, hdraft, hpersists⟩
      · exact states_of_signed hverify.signs hrequired' rfl
      · intro outcome
        rw [(hclosing draft hdraft r hpersists).2, h draft hdraft r hpersists]
    rw [hstates, hstates]
    exact ⟨iff_of_true rfl hrecorded, fun hmissing => by cases hmissing⟩

/-- What the use gate recorded is all that is recorded behind the reservation. -/
theorem recordsNewUse_routeReserved :
    RecordsNewUse (machine.run env w (routeReserved crates router admitted payload now)).events ↔
      RecordsNewUse (machine.run env w
        (enforceScopedUse crates admitted.routed.context now)).events := by
  cases hresult : (machine.run env w
    (enforceScopedUse crates admitted.routed.context now)).result with
  | none =>
    rw [run_routeReserved_passed hresult, recordsNewUse_append]
    exact or_iff_left (run_not_recordsNewUse (routeOwned_only.mono fun _ => noUse_of_audit))
  | some reason =>
    rw [run_routeReserved_refused hresult, recordsNewUse_append]
    exact or_iff_left (run_not_recordsNewUse ((refuseExecution_only reason).mono
      fun _ haudit => noUse_of_audit (.inl haudit)))

theorem written_routeReserved_refused {reason : String}
    (h : (machine.run env w (enforceScopedUse crates admitted.routed.context now)).result =
      some reason) (r : Receipt) :
    Written (machine.run env w (routeReserved crates router admitted payload now)).events r ↔
      Persists crates router env w (refusalDraft crates admitted.routed.context reason now) r := by
  have huse : (enforceScopedUse crates admitted.routed.context now).Only NoReceipt :=
    enforceScopedUse_noReceipt _
  rw [run_routeReserved_refused h, written_append, or_iff_right (run_not_written huse r)]
  refine written_refuseExecution.trans (Persists.congr ?_)
  rw [run_receipts huse]

theorem written_routeReserved_passed
    (h : (machine.run env w (enforceScopedUse crates admitted.routed.context now)).result = none)
    (r : Receipt) :
    Written (machine.run env w (routeReserved crates router admitted payload now)).events r ↔
      Persists crates router env w (verifyDraft crates admitted now) r ∨
        ∃ draft, closingDraft crates router admitted payload env now = .ok draft ∧
          Persists crates router env w draft r := by
  have huse : (enforceScopedUse crates admitted.routed.context now).Only NoReceipt :=
    enforceScopedUse_noReceipt _
  have hsame : ∀ draft, Persists crates router env (machine.run env w
      (enforceScopedUse crates admitted.routed.context now)).world draft r ↔
        Persists crates router env w draft r := fun draft =>
    Persists.congr (by rw [run_receipts huse])
  rw [run_routeReserved_passed h, written_append, or_iff_right (run_not_written huse r)]
  refine written_routeOwned.trans ?_
  simp only [hsame]

/-- A use that is refused and not recorded is reported truthfully unless usable evidence is
blamed. -/
theorem tellsTruth_refused {reason : String} {es : List Step} {w' : Tables}
    (hrequired : scopedUseRequired admitted.routed.context)
    (huse : machine.run env w (enforceScopedUse crates admitted.routed.context now) =
      ⟨some reason, es, w'⟩) (hnone : ¬ RecordsNewUse es)
    (hstated : statedOutcome .rejected (some reason) ≠ .scopedUseRecorded) :
    TellsTruth crates admitted.routed.context
        (machine.run env w (routeReserved crates router admitted payload now)).events ↔
      ∀ r, Persists crates router env w
          (refusalDraft crates admitted.routed.context reason now) r →
        statedOutcome .rejected (some reason) = .missingScopedNullifier → ∀ evidence,
          ScopedNullifierEvidence.fromContext crates admitted.routed.context ≠ .ok evidence := by
  apply tellsTruth_refusal hrequired (written_routeReserved_refused (by rw [huse])) _ hstated
  rwa [recordsNewUse_routeReserved, huse]

theorem tellsTruth_unusable {reason : NullifierReason}
    (hrequired : scopedUseRequired admitted.routed.context)
    (hevidence : ScopedNullifierEvidence.fromContext crates admitted.routed.context =
      .error reason) :
    TellsTruth crates admitted.routed.context
      (machine.run env w (routeReserved crates router admitted payload now)).events := by
  rw [tellsTruth_refused hrequired (run_enforceScopedUse_unusable hrequired hevidence)
    (not_recordsNewUse (by simp)) (by cases reason <;> decide)]
  intro r _ _ evidence husable
  rw [hevidence] at husable
  cases husable

theorem tellsTruth_granted {evidence : ScopedNullifierEvidence}
    (hrequired : scopedUseRequired admitted.routed.context)
    (hrequired' : scopedUseRequired admitted.receiptSigned.context)
    (hgranted : UseGranted crates env w admitted.routed.context now evidence) :
    TellsTruth crates admitted.routed.context
        (machine.run env w (routeReserved crates router admitted payload now)).events ↔
      ∀ draft, closingDraft crates router admitted payload env now = .ok draft →
        ∀ r, Persists crates router env w draft r →
          closingOutcome router admitted payload env now = .scopedUseRecorded := by
  have hresult := (run_enforceScopedUse_granted hrequired hgranted).1
  have hrecorded : RecordsNewUse
      (machine.run env w (routeReserved crates router admitted payload now)).events := by
    rw [recordsNewUse_routeReserved, run_enforceScopedUse_usable hrequired hgranted.usable rfl]
    refine ⟨_, List.mem_cons_self, _, recordsUse_of_reply (exec_insertScopedUse_free hgranted.stored
      ?_).1 one_ne_zero⟩
    exact hgranted.free
  exact tellsTruth_recorded hrequired hrequired' (written_routeReserved_passed hresult) hrecorded

section Usable

variable {evidence : ScopedNullifierEvidence}
  (hrequired : scopedUseRequired admitted.routed.context)
  (hevidence : ScopedNullifierEvidence.fromContext crates admitted.routed.context = .ok evidence)

include hrequired hevidence

/-- A use that the ledger failed to store is reported as missing evidence. -/
theorem tellsTruth_useLost
    (hfails : env.fails (.insertScopedUse
      (scopedNullifierUse crates evidence admitted.routed.context now))) :
    TellsTruth crates admitted.routed.context
        (machine.run env w (routeReserved crates router admitted payload now)).events ↔
      ∀ r, ¬ Persists crates router env w
        (refusalDraft crates admitted.routed.context scopedNullifierStorageFailedReason now) r := by
  have huse : machine.run env w (enforceScopedUse crates admitted.routed.context now) =
      ⟨some scopedNullifierStorageFailedReason, [⟨env, w, .sql (.insertScopedUse
        (scopedNullifierUse crates evidence admitted.routed.context now))⟩], w⟩ := by
    rw [run_enforceScopedUse_usable hrequired hevidence rfl, exec_insertScopedUse_fails hfails]
    rfl
  have hstated : statedOutcome .rejected (some scopedNullifierStorageFailedReason) =
      .missingScopedNullifier := by decide
  rw [tellsTruth_refused hrequired huse _ (by decide)]
  rotate_left
  · rw [recordsNewUse_cons]
    rintro (⟨row, hrecords⟩ | hnil)
    · have hrow := takesUse_of_records hrecords
      simp [takesUse, hfails] at hrow
    · exact not_recordsNewUse (by simp) hnil
  constructor
  · intro h r hr
    exact h r hr hstated evidence hevidence
  · intro h r hr
    exact absurd hr (h r)

theorem tellsTruth_duplicate
    (hstored : env.fails (.insertScopedUse
      (scopedNullifierUse crates evidence admitted.routed.context now)) = false)
    (hused : scopedUseKey crates evidence ∈ w.scopedNullifierUses.keys) :
    TellsTruth crates admitted.routed.context
      (machine.run env w (routeReserved crates router admitted payload now)).events := by
  have hkey : (scopedNullifierUse crates evidence admitted.routed.context now).key ∈
      w.scopedNullifierUses.keys := hused
  have huse : machine.run env w (enforceScopedUse crates admitted.routed.context now) =
      ⟨some NullifierReason.duplicateNullifier.asStr, [⟨env, w, .sql (.insertScopedUse
        (scopedNullifierUse crates evidence admitted.routed.context now))⟩], w⟩ := by
    rw [run_enforceScopedUse_usable hrequired hevidence rfl, exec_insertScopedUse_used hstored hkey]
    rfl
  rw [tellsTruth_refused hrequired huse _ (by decide)]
  rotate_left
  · rw [recordsNewUse_cons]
    rintro (⟨row, hrecords⟩ | hnil)
    · have hcmd := hrecords.cmd
      injection hcmd with hcmd
      injection hcmd with hrow
      exact hrecords.fresh (hrow ▸ hkey)
    · exact not_recordsNewUse (by simp) hnil
  intro r _ hmissing
  exact absurd hmissing (by decide)

end Usable

/-- Behind the reservation a call is truthful exactly if no misstating draft gets stored. -/
theorem tellsTruth_routeReserved
    (hrequired : scopedUseRequired admitted.routed.context)
    (hrequired' : scopedUseRequired admitted.receiptSigned.context) :
    TellsTruth crates admitted.routed.context
        (machine.run env w (routeReserved crates router admitted payload now)).events ↔
      ∀ draft, Misreports crates router admitted payload env w now draft →
        ∀ r, ¬ Persists crates router env w draft r := by
  cases hevidence : ScopedNullifierEvidence.fromContext crates admitted.routed.context with
  | error reason =>
    refine iff_of_true (tellsTruth_unusable hrequired hevidence) ?_
    rintro draft (⟨husable, -⟩ | ⟨⟨husable, -, -⟩, hforgets⟩)
    · cases hevidence.symm.trans husable
    · cases hevidence.symm.trans husable
  | ok evidence =>
    by_cases hfails : env.fails (.insertScopedUse
        (scopedNullifierUse crates evidence admitted.routed.context now))
    · rw [tellsTruth_useLost hrequired hevidence hfails]
      constructor
      · rintro h draft (⟨-, -⟩ | ⟨⟨husable, hstored, -⟩, hforgets⟩)
        · exact h
        · cases hevidence.symm.trans husable
          rw [hfails] at hstored
          cases hstored
      · intro h
        exact h _ (.useLost hevidence hfails)
    · have hstored : env.fails (.insertScopedUse (scopedNullifierUse crates evidence
          admitted.routed.context now)) = false := by simpa using hfails
      by_cases hused : scopedUseKey crates evidence ∈ w.scopedNullifierUses.keys
      · refine iff_of_true (tellsTruth_duplicate hrequired hevidence hstored hused) ?_
        rintro draft (⟨husable, hlost⟩ | ⟨⟨husable, -, hfree⟩, hforgets⟩)
        · cases hevidence.symm.trans husable
          exact absurd hlost hfails
        · cases hevidence.symm.trans husable
          exact absurd hused hfree
      · have hgranted : UseGranted crates env w admitted.routed.context now evidence :=
          ⟨hevidence, hstored, hused⟩
        rw [tellsTruth_granted hrequired hrequired' hgranted]
        constructor
        · rintro h draft (⟨husable, hlost⟩ | ⟨-, hforgets⟩) r hr
          · cases hevidence.symm.trans husable
            exact hfails hlost
          · obtain ⟨hclosing, hstated⟩ := forgets_iff.mp hforgets
            exact hstated (h draft hclosing r hr)
        · intro h draft hclosing r hr
          by_contra hstated
          exact h draft (.useForgotten hgranted (forgets_iff.mpr ⟨hclosing, hstated⟩)) r hr

/-! ## Whole calls -/

theorem kind_of_written_refuse {refusal : Refusal} {r : Receipt}
    (h : Written (machine.run env w (refuse crates router refusal now)).events r) :
    r.kind = .reject := by
  have hdraft : ∀ {α : Type} {draft : Receipt} {id : String} {f : String → Program α},
      (∀ id, (f id).Only NoReceipt) → draft.kind = .reject →
      Written (machine.run env w
        ((recordSignedReceipt crates router draft >>= fun _ => pure id) >>= f)).events r →
      r.kind = .reject := by
    intro α draft id f hf hkind hwritten
    have hreturn : ∀ _ : Unit, (pure id : Program String).Only NoReceipt := fun _ => trivial
    have hfirst := (written_bind_left hreturn).mp ((written_bind_left hf).mp hwritten)
    exact (signReceipt_ok (written_recordSignedReceipt.mp hfirst).signs).2.1.trans hkind
  have hevent : ∀ (signed : SignedVerifiedCallContext) (reason : String) (routed : Routed),
      (recordOperationEvent .packetRejected signed now (some reason) >>= fun _ =>
        pure routed).Only NoReceipt := fun _ _ _ =>
    (recordOperationEvent_noReceipt _ _).bind fun _ => trivial
  obtain ⟨signed, reason, record⟩ := refusal
  cases record with
  | silent => exact absurd h (not_written (by simp [refuse]) r)
  | receipt => exact hdraft (fun _ => hevent _ _ _) rfl h
  | receiptWithSummary summary => exact hdraft (fun _ => hevent _ _ _) rfl h

theorem tellsTruth_of_rejects {es : List Step} (h : ∀ r, Written es r → r.kind = .reject) :
    TellsTruth crates context es := by
  intro r hr hkind
  rw [h r hr] at hkind
  rcases hkind with hkind | hkind <;> cases hkind

theorem tellsTruth_append {pre es : List Step} (hreceipts : ∀ e ∈ pre, NoReceipt e.cmd)
    (huses : ∀ e ∈ pre, NoUse e.cmd) :
    TellsTruth crates context (pre ++ es) ↔ TellsTruth crates context es := by
  have hwritten : ∀ r, Written (pre ++ es) r ↔ Written es r := fun r =>
    written_append.trans (or_iff_right (not_written hreceipts r))
  have hrecorded : RecordsNewUse (pre ++ es) ↔ RecordsNewUse es :=
    recordsNewUse_append.trans (or_iff_right (not_recordsNewUse huses))
  simp only [TellsTruth, hwritten, hrecorded]

theorem Misreports.congr {w' : Tables} {draft : Receipt}
    (huses : w'.scopedNullifierUses = w.scopedNullifierUses)
    (h : Misreports crates router admitted payload env w now draft) :
    Misreports crates router admitted payload env w' now draft := by
  cases h with
  | useLost husable hfails => exact .useLost husable hfails
  | useForgotten hgranted hforgets => exact .useForgotten (hgranted.congr huses) hforgets

theorem tellsTruth_routeAdmitted (hpassed : Passed crates router signed payload now admitted)
    (hreserved : ReservationGranted env w admitted.routed.context admitted.routed.signerKeyId now)
    (hrequired : scopedUseRequired signed.context) :
    TellsTruth crates signed.context
        (machine.run env w (routeAdmitted crates router admitted payload now)).events ↔
      ∀ draft, Misreports crates router admitted payload env w now draft →
        ∀ r, ¬ Persists crates router env w draft r := by
  obtain ⟨hsameRequired, hsameEvidence⟩ := passed_context hpassed
  rw [← hsameRequired] at hrequired
  have hrequired' : scopedUseRequired admitted.receiptSigned.context := by
    obtain ⟨binding, -, hreceipt⟩ := hpassed.proof
    rw [hreceipt]
    cases binding with
    | none => exact hrequired
    | some binding => exact scopedUseRequired_mono hrequired _
  have hcontext : ∀ es, TellsTruth crates signed.context es ↔
      TellsTruth crates admitted.routed.context es := fun es => by
    simp only [TellsTruth, hsameEvidence]
  let reserve := reserveReplay admitted.routed.context admitted.routed.signerKeyId now
  have hnoReceipt : reserve.Only NoReceipt := reserveReplay_noReceipt _ _
  have hnoUse : reserve.Only NoUse := reserveReplay_noUse _ _
  have hsteps := Machine.run_follows (M := machine) env w reserve
  have huses : (machine.run env w reserve).world.scopedNullifierUses = w.scopedNullifierUses :=
    run_reserveReplay_uses
  have hreceipts : (machine.run env w reserve).world.receipts = w.receipts :=
    run_receipts hnoReceipt
  -- the reservation changes neither table
  have hpersists : ∀ draft r, Persists crates router env (machine.run env w reserve).world draft r ↔
      Persists crates router env w draft r := fun draft r =>
    Persists.congr (by rw [hreceipts])
  rw [hcontext, run_routeAdmitted_reserved hreserved,
    tellsTruth_append (hsteps.only hnoReceipt) (hsteps.only hnoUse),
    tellsTruth_routeReserved hrequired hrequired']
  constructor
  · intro h draft hdraft r hr
    exact h draft (hdraft.congr huses) r ((hpersists draft r).mpr hr)
  · intro h draft hdraft r hr
    exact h draft (hdraft.congr huses.symm) r ((hpersists draft r).mp hr)

theorem kind_of_written_unreserved {r : Receipt}
    (h : ¬ ReservationGranted env w admitted.routed.context admitted.routed.signerKeyId now)
    (hr : Written (machine.run env w
      (routeAdmitted crates router admitted payload now)).events r) : r.kind = .reject := by
  obtain ⟨reason, hrun⟩ := run_routeAdmitted_refused h
  rw [hrun, written_append] at hr
  rcases hr with hr | hr
  · exact absurd hr (run_not_written (reserveReplay_noReceipt _ _) r)
  · exact kind_of_written_refuse hr

theorem tellsTruth_readClock {es : List Step} :
    TellsTruth crates context (⟨env, w, .readClock⟩ :: es) ↔ TellsTruth crates context es := by
  have hreading : ∀ e ∈ ([⟨env, w, .readClock⟩] : List Step), NoReceipt e.cmd ∧ NoUse e.cmd := by
    simp [NoReceipt, NoUse]
  exact tellsTruth_append (fun e he => (hreading e he).1) fun e he => (hreading e he).2

/-- Receipts are truthful about the scoped use exactly in the calls that store no misstating
draft. -/
theorem receipts_tell_truth_iff (crates : Crates) (router : ConfigurableRouter)
    (signed : SignedVerifiedCallContext) (payload : List UInt8) (env : Env) (w : Tables) :
    (scopedUseRequired signed.context → TellsTruth crates signed.context
      (machine.run env w (routeVerified crates router signed payload)).events) ↔
    ¬ (scopedUseRequired signed.context ∧ ∃ admitted draft r,
      Passed crates router signed payload env.clock admitted ∧
      ReservationGranted env w admitted.routed.context admitted.routed.signerKeyId env.clock ∧
      Misreports crates router admitted payload env w env.clock draft ∧
      Persists crates router env w draft r) := by
  rw [not_and]
  refine imp_congr_right fun hrequired => ?_
  cases hpre : preflight crates router signed payload env.clock with
  | error refusal =>
    rw [run_routeVerified_refused hpre, tellsTruth_readClock]
    refine iff_of_true (tellsTruth_of_rejects fun r hr => kind_of_written_refuse hr) ?_
    rintro ⟨admitted, -, -, hpassed, -, -, -⟩
    cases hpre.symm.trans (preflight_of_passed hpassed)
  | ok admitted =>
    rw [run_routeVerified_admitted hpre, tellsTruth_readClock]
    have hpassed := preflight_ok hpre
    by_cases hreserved : ReservationGranted env w admitted.routed.context
        admitted.routed.signerKeyId env.clock
    · rw [tellsTruth_routeAdmitted hpassed hreserved hrequired]
      constructor
      · rintro h ⟨admitted', draft, r, hpassed', -, hmisreports, hr⟩
        cases hpre.symm.trans (preflight_of_passed hpassed')
        exact h draft hmisreports r hr
      · intro h draft hmisreports r hr
        exact h ⟨admitted, draft, r, hpassed, hreserved, hmisreports, hr⟩
    · refine iff_of_true (tellsTruth_of_rejects fun r hr => ?_) ?_
      · exact kind_of_written_unreserved hreserved hr
      · rintro ⟨admitted', -, -, hpassed', hreserved', -, -⟩
        cases hpre.symm.trans (preflight_of_passed hpassed')
        exact hreserved hreserved'

end

/-! ## A recorded use that the receipt denies -/

section

variable {crates : Crates} {router : ConfigurableRouter} {admitted : Admitted}
  {payload : List UInt8} {env : Env} {w : Tables} {now : UInt64}

theorem signReceipt_plain {identity : VerifierKeys.NodeVerifierIdentity} {draft : Receipt}
    (hversion : draft.schemaVersion = 3) (hplain : draft.outputProjection = none) :
    ∃ r, signReceipt crates identity draft = .ok r := by
  rw [exists_signReceipt hversion, hplain]
  rintro p ⟨⟩

/-- Without a program for the handler, a recorded use is denied by the receipt. -/
theorem misreports_unregistered {evidence : ScopedNullifierEvidence}
    (hgranted : UseGranted crates env w admitted.routed.context now evidence)
    (hpermitted : permissionDenial router admitted.routed.context now = none)
    (hfits : payload.length ≤ router.limits.maxPayloadBytes)
    (hunregistered : ∀ handlerId, router.programs handlerId = false)
    (hstored : ∀ s, env.fails s = false) (hempty : w.receipts.rows = []) :
    ∃ draft r, Misreports crates router admitted payload env w now draft ∧
      Persists crates router env w draft r := by
  have hunserved : ¬ ∃ handlerId, admitted.routed.context.handlerId = some handlerId ∧
      router.programs handlerId := by simp [hunregistered]
  obtain ⟨r, hsigns⟩ : ∃ r, signReceipt crates router.identity (refusalDraft crates
      admitted.receiptSigned.context "handler_unavailable" now) = .ok r := signReceipt_plain rfl rfl
  refine ⟨_, r, .useForgotten hgranted (.unserved hpermitted hfits hunserved), hsigns,
    hstored _, ?_⟩
  rintro ⟨row, hrow, -⟩
  rw [hempty] at hrow
  cases hrow

end

/-- The small receiver without programs stores the use of a call and a receipt that states that the
call had no usable evidence. -/
theorem bareReceiver_denies_recorded_use :
    scopedUseRequired scopedCall.context ∧
      ¬ TellsTruth Crates.transparent scopedCall.context (machine.run (Sample.env 150) Tables.empty
        (routeVerified Crates.transparent bareReceiver scopedCall [1, 2])).events := by
  obtain ⟨admitted, evidence, h⟩ := bareReceiver_spends
  have hrequired : scopedUseRequired scopedCall.context := by decide
  refine ⟨hrequired, ?_⟩
  rw [run_routeVerified_admitted (preflight_of_passed h.passed), tellsTruth_readClock,
    tellsTruth_routeAdmitted h.passed h.reserved hrequired]
  intro htruth
  have hfits : ([1, 2] : List UInt8).length ≤ bareReceiver.limits.maxPayloadBytes := by decide
  have hunregistered : ∀ handlerId, bareReceiver.programs handlerId = false := fun _ => rfl
  obtain ⟨draft, r, hmisreports, hr⟩ := misreports_unregistered h.granted rfl hfits hunregistered
    (fun _ => rfl) rfl
  exact htruth draft hmisreports r hr

end ReceiptTruth
