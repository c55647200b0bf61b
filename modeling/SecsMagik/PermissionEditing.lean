import SecsMagik.JsonText
import SecsMagik.PermissionPolicy

/-! # Editing permissions

An operator edits the policy with `secs-permctl`, which keeps it in a file, or in the browser panel,
which keeps it as a text. The gateway evaluates what either of them leaves.
-/
namespace PermissionPolicy

open RustStd

/-- What `serde_json` reads from a text and writes for a list of records. -/
structure Serde where
  fromStr : String → Option (List PermissionRecord)
  toStringPretty : List PermissionRecord → Option String

/-- Every list is written, as a text that is not blank and reads as the list. -/
def Serde.RoundTrips (serde : Serde) : Prop :=
  ∀ records, ∃ text, serde.toStringPretty records = some text ∧ trim text ≠ "" ∧
    serde.fromStr text = some records

variable (serde : Serde)

/-! ## The gateway -/

inductive FileRead where
  | text (json : String)
  | notFound
  | failed
  deriving DecidableEq

def Policy.fromJsonStr (json : String) : Except PolicyError Policy :=
  if trim json = "" then .error .empty
  else (serde.fromStr json).elim (.error .malformed) Policy.new

def Policy.fromJsonFile : FileRead → Except PolicyError Policy
  | .text json => Policy.fromJsonStr serde json
  | .notFound | .failed => .error .unreadable

/-! ## The command line -/

namespace Permctl

inductive PermctlError where
  | unreadable | malformed | unwritable
  deriving DecidableEq, Repr

def loadRecords : FileRead → Except PermctlError (List PermissionRecord)
  | .text json =>
    if trim json = "" then .ok [] else (serde.fromStr json).elim (.error .malformed) .ok
  | .notFound => .ok []
  | .failed => .error .unreadable

/-- `written` tells whether the file system takes the text. -/
def saveRecords (written : Bool) (records : List PermissionRecord) :
    Except PermctlError FileRead :=
  (serde.toStringPretty records).elim (.error .unwritable) fun json =>
    if written then .ok (.text json) else .error .unwritable

def buildRecord (callerId : String) (opcode : UInt8) (operation resource : String)
    (under deny : Bool) (notBefore notAfter : UInt64) : PermissionRecord where
  callerId := callerId
  opcode := opcode
  operation := operation
  resource := if under then .under resource else .exact resource
  effect := if deny then .deny else .allow
  notBefore := notBefore
  notAfter := notAfter
  status := .active
  authoritySource := .receiverLocal

def grant (records : List PermissionRecord) (record : PermissionRecord) : List PermissionRecord :=
  records ++ [record]

/-- The records after the loop, and how many of them it revoked. -/
def revoke : List PermissionRecord → String → UInt8 → String → String → List PermissionRecord × ℕ
  | [], _, _, _, _ => ([], 0)
  | record :: rest, callerId, opcode, operation, resourceValue =>
    let after := revoke rest callerId opcode operation resourceValue
    if record.callerId = callerId ∧ record.opcode = opcode ∧ record.operation = operation ∧
        record.resource.declaredValue = resourceValue ∧ record.status ≠ .revoked then
      ({ record with status := .revoked } :: after.1, after.2 + 1)
    else (record :: after.1, after.2)

def evaluate (records : List PermissionRecord) (callerId : String) (opcode : UInt8)
    (operation resource : String) (now : UInt64) : Except DenyReason Unit :=
  match Policy.new records with
  | .error _ => .error .noMatchingGrant
  | .ok policy => (policy.evaluate callerId opcode operation resource now).map fun _ => ()

end Permctl

/-! ## The panel

The errors are the texts that the browser shows. -/

namespace Panel

def parse (policyJson : String) : Except String (List PermissionRecord) :=
  if trim policyJson = "" then .ok []
  else (serde.fromStr policyJson).elim
    (.error "policy is not a valid JSON array of permission records") .ok

def dump (records : List PermissionRecord) : Except String String :=
  (serde.toStringPretty records).elim (.error "failed to serialize policy") .ok

def grant (policyJson caller : String) (opcode : UInt8) (operation resource : String)
    (under deny : Bool) (notBefore notAfter : UInt64) : Except String String := do
  let records ← parse serde policyJson
  dump serde (records ++ [{
    callerId := caller
    opcode := opcode
    operation := operation
    resource := if under then .under resource else .exact resource
    effect := if deny then .deny else .allow
    notBefore := notBefore
    notAfter := notAfter
    status := .active
    authoritySource := .receiverLocal }])

def revoke (policyJson caller : String) (opcode : UInt8) (operation resource : String) :
    Except String String := do
  let records ← parse serde policyJson
  dump serde (records.map fun record =>
    if record.callerId = caller ∧ record.opcode = opcode ∧ record.operation = operation ∧
        record.resource.declaredValue = resource then
      { record with status := .revoked }
    else record)

def evaluate (policyJson caller : String) (opcode : UInt8) (operation resource : String)
    (now : UInt64) : Except String String := do
  let records ← parse serde policyJson
  match Policy.new records with
  | .error _ => .error "policy contains an invalid record"
  | .ok policy =>
    match policy.evaluate caller opcode operation resource now with
    | .ok _ => .ok "ALLOW"
    | .error reason => .ok ("DENY:" ++ reason.code)

end Panel

/-! ## Edits -/

inductive Edit where
  | grant (callerId : String) (opcode : UInt8) (operation resource : String) (under deny : Bool)
      (notBefore notAfter : UInt64)
  | revoke (callerId : String) (opcode : UInt8) (operation resourceValue : String)
  deriving DecidableEq

def Edit.apply (records : List PermissionRecord) : Edit → List PermissionRecord
  | grant callerId opcode operation resource under deny notBefore notAfter =>
    Permctl.grant records (Permctl.buildRecord callerId opcode operation resource under deny
      notBefore notAfter)
  | revoke callerId opcode operation resourceValue =>
    (Permctl.revoke records callerId opcode operation resourceValue).1

/-- The commands `grant` and `revoke` of `secs-permctl`, each with what becomes of its write: a
`revoke` that finds nothing to revoke leaves the file as it is. -/
def Permctl.command (file : FileRead) : Edit × Bool → Except PermctlError FileRead
  | (.grant callerId opcode operation resource under deny notBefore notAfter, written) => do
    let records ← loadRecords serde file
    saveRecords serde written (grant records (buildRecord callerId opcode operation resource under
      deny notBefore notAfter))
  | (.revoke callerId opcode operation resourceValue, written) => do
    let records ← loadRecords serde file
    let (updated, revoked) := revoke records callerId opcode operation resourceValue
    if revoked = 0 then .ok file else saveRecords serde written updated

/-- The same edit in the panel. -/
def Panel.command (policyJson : String) : Edit → Except String String
  | .grant callerId opcode operation resource under deny notBefore notAfter =>
    grant serde policyJson callerId opcode operation resource under deny notBefore notAfter
  | .revoke callerId opcode operation resourceValue =>
    revoke serde policyJson callerId opcode operation resourceValue

/-- Commands one after another, up to the first that fails. -/
def Permctl.run (file : FileRead) (edits : List (Edit × Bool)) : Except PermctlError FileRead :=
  edits.foldlM (command serde) file

def Panel.run (policyJson : String) (edits : List Edit) : Except String String :=
  edits.foldlM (command serde) policyJson

/-! ## Verdicts -/

structure Request where
  callerId : String
  opcode : UInt8
  operation : String
  resource : String
  deriving DecidableEq

def Policy.verdict (policy : Policy) (q : Request) (now : UInt64) :
    Except DenyReason PermissionDecision :=
  policy.evaluate q.callerId q.opcode q.operation q.resource now

namespace PermissionRecord

def Concerns (r : PermissionRecord) (q : Request) (now : UInt64) : Prop :=
  r.matchesRequest q.callerId q.opcode q.operation q.resource ∧ r.isApplicable now

def Grants (r : PermissionRecord) (q : Request) (now : UInt64) : Prop :=
  r.effect = .allow ∧ r.Concerns q now

def Denies (r : PermissionRecord) (q : Request) (now : UInt64) : Prop :=
  r.effect = .deny ∧ r.Concerns q now

end PermissionRecord

/-- The records make a policy that allows the request. -/
def Allows (records : List PermissionRecord) (q : Request) (now : UInt64) : Prop :=
  ∃ policy, Policy.new records = .ok policy ∧ policy.verdict q now = .ok .allow

theorem Policy.new_eq_ok {records : List PermissionRecord} {policy : Policy} :
    Policy.new records = .ok policy ↔ policy.records = records := by
  unfold Policy.new
  constructor
  · intro h
    split at h
    · cases h
      rfl
    · cases h
  · intro h
    subst h
    rw [dif_pos policy.valid]

section Verdicts

variable {q : Request} {now : UInt64}

theorem Policy.verdict_eq_allow_iff {policy : Policy} :
    policy.verdict q now = .ok .allow ↔
      (∃ r ∈ policy.records, r.Grants q now) ∧ ∀ r ∈ policy.records, ¬ r.Denies q now := by
  have hdeny : ((policy.records.filter
      (·.matchesRequest q.callerId q.opcode q.operation q.resource)).any
        fun r => r.effect = .deny && r.isApplicable now) ↔
      ∃ r ∈ policy.records, r.Denies q now := by
    simp only [List.any_filter, List.any_eq_true, Bool.and_eq_true, decide_eq_true_eq,
      PermissionRecord.Denies, PermissionRecord.Concerns]
    exact exists_congr fun r => and_congr_right fun _ => and_left_comm
  have hallow : ((policy.records.filter
      (·.matchesRequest q.callerId q.opcode q.operation q.resource)).any
        fun r => r.effect = .allow && r.isApplicable now) ↔
      ∃ r ∈ policy.records, r.Grants q now := by
    simp only [List.any_filter, List.any_eq_true, Bool.and_eq_true, decide_eq_true_eq,
      PermissionRecord.Grants, PermissionRecord.Concerns]
    exact exists_congr fun r => and_congr_right fun _ => and_left_comm
  have hnone : (policy.records.filter
      (·.matchesRequest q.callerId q.opcode q.operation q.resource)).isEmpty →
      ¬ ∃ r ∈ policy.records, r.Grants q now := by
    rw [← hallow, List.isEmpty_iff]
    intro hempty
    simp [hempty]
  unfold Policy.verdict Policy.evaluate
  by_cases hempty : (policy.records.filter
      (·.matchesRequest q.callerId q.opcode q.operation q.resource)).isEmpty
  · simp [hempty, hnone hempty]
  · rw [if_neg hempty]
    by_cases hd : ∃ r ∈ policy.records, r.Denies q now
    · rw [if_pos (hdeny.mpr hd)]
      simpa using fun _ _ _ => hd
    · rw [if_neg (fun h => hd (hdeny.mp h))]
      by_cases ha : ∃ r ∈ policy.records, r.Grants q now
      · rw [if_pos (hallow.mpr ha)]
        simpa [ha] using hd
      · rw [if_neg (fun h => ha (hallow.mp h))]
        simp [ha]

theorem allows_iff {records : List PermissionRecord} (hvalid : ∀ r ∈ records, r.isValid) :
    Allows records q now ↔
      (∃ r ∈ records, r.Grants q now) ∧ ∀ r ∈ records, ¬ r.Denies q now := by
  constructor
  · intro h
    obtain ⟨policy, hnew, hverdict⟩ := h
    obtain rfl := Policy.new_eq_ok.mp hnew
    exact Policy.verdict_eq_allow_iff.mp hverdict
  · intro h
    exact ⟨⟨records, hvalid⟩, Policy.new_eq_ok.mpr rfl, Policy.verdict_eq_allow_iff.mpr h⟩

theorem allows_of_stricter {records stricter : List PermissionRecord}
    (hvalid : ∀ r ∈ records, r.isValid)
    (hgrants : ∀ r ∈ stricter, r.Grants q now → r ∈ records)
    (hdenies : ∀ r ∈ records, r.Denies q now → ∃ r' ∈ stricter, r'.Denies q now)
    (h : Allows stricter q now) : Allows records q now := by
  obtain ⟨policy, hnew, hverdict⟩ := h
  obtain rfl := Policy.new_eq_ok.mp hnew
  obtain ⟨⟨r, hr, hgrant⟩, hno⟩ := Policy.verdict_eq_allow_iff.mp hverdict
  refine (allows_iff hvalid).mpr ⟨⟨r, hgrants r hr hgrant, hgrant⟩, ?_⟩
  intro r hr hdeny
  obtain ⟨r', hr', hdeny'⟩ := hdenies r hr hdeny
  exact hno r' hr' hdeny'

end Verdicts

/-! ## Revoked records -/

section Revoking

variable {records : List PermissionRecord} {callerId operation resourceValue : String}
  {opcode : UInt8}

def PermissionRecord.HasKey (r : PermissionRecord) (callerId : String) (opcode : UInt8)
    (operation resourceValue : String) : Prop :=
  r.callerId = callerId ∧ r.opcode = opcode ∧ r.operation = operation ∧
    r.resource.declaredValue = resourceValue

instance (r : PermissionRecord) : Decidable (r.HasKey callerId opcode operation resourceValue) :=
  inferInstanceAs (Decidable (_ ∧ _ ∧ _ ∧ _))

/-- The loop of the command line and the loop of the panel revoke the same records. -/
theorem Permctl.revoke_eq_map :
    (Permctl.revoke records callerId opcode operation resourceValue).1 =
      records.map fun r =>
        if r.HasKey callerId opcode operation resourceValue then { r with status := .revoked }
        else r := by
  induction records with
  | nil => rfl
  | cons r rest ih =>
    rw [Permctl.revoke, List.map_cons, ← ih]
    by_cases hkey : r.HasKey callerId opcode operation resourceValue
    · by_cases hstatus : r.status = .revoked
      · have hsame : { r with status := .revoked } = r := by rw [← hstatus]
        rw [if_pos hkey, if_neg (fun h => h.2.2.2.2 hstatus), hsame]
      · obtain ⟨hcaller, hopcode, hoperation, hvalue⟩ := hkey
        rw [if_pos ⟨hcaller, hopcode, hoperation, hvalue, hstatus⟩,
          if_pos ⟨hcaller, hopcode, hoperation, hvalue⟩]
    · rw [if_neg hkey, if_neg (fun h => hkey ⟨h.1, h.2.1, h.2.2.1, h.2.2.2.1⟩)]

theorem Permctl.revoke_of_count_zero
    (h : (Permctl.revoke records callerId opcode operation resourceValue).2 = 0) :
    (Permctl.revoke records callerId opcode operation resourceValue).1 = records := by
  induction records with
  | nil => rfl
  | cons r rest ih =>
    rw [Permctl.revoke] at h ⊢
    split at h
    · exact absurd h (Nat.succ_ne_zero _)
    · next hno => rw [if_neg hno, ih h]

theorem not_grants_revoked {r : PermissionRecord} {q : Request} {now : UInt64}
    (h : r.status = .revoked) : ¬ r.Grants q now := by
  intro hgrant
  have happlicable := hgrant.2.2
  simp [PermissionRecord.isApplicable, h] at happlicable

end Revoking

/-! ## What edits do to a verdict -/

section Edits

variable {records : List PermissionRecord} {q : Request} {now : UInt64}

theorem allows_perm (hvalid : ∀ r ∈ records, r.isValid) {reordered : List PermissionRecord}
    (hperm : reordered.Perm records) : Allows reordered q now ↔ Allows records q now := by
  have hvalid' : ∀ r ∈ reordered, r.isValid := fun r hr => hvalid r (hperm.mem_iff.mp hr)
  rw [allows_iff hvalid, allows_iff hvalid']
  simp only [hperm.mem_iff]

theorem allows_of_add_deny (hvalid : ∀ r ∈ records, r.isValid)
    {before after : List PermissionRecord} {deny : PermissionRecord}
    (hrecords : records = before ++ after) (heffect : deny.effect = .deny)
    (h : Allows (before ++ deny :: after) q now) : Allows records q now := by
  refine allows_of_stricter hvalid ?_ ?_ h
  · intro r hr hgrant
    have hne : r ≠ deny := by
      intro heq
      rw [heq] at hgrant
      cases heffect.symm.trans hgrant.1
    rw [hrecords]
    simpa [hne] using hr
  · intro r hr hdeny
    refine ⟨r, ?_, hdeny⟩
    rw [hrecords] at hr
    simp only [List.mem_append, List.mem_cons] at hr ⊢
    exact hr.imp_right .inr

theorem allows_of_revoke_allow (hvalid : ∀ r ∈ records, r.isValid)
    {before after : List PermissionRecord} {allow : PermissionRecord}
    (hrecords : records = before ++ allow :: after) (heffect : allow.effect = .allow)
    (h : Allows (before ++ { allow with status := .revoked } :: after) q now) :
    Allows records q now := by
  refine allows_of_stricter hvalid ?_ ?_ h
  · intro r hr hgrant
    have hne : r ≠ { allow with status := .revoked } := by
      intro heq
      exact not_grants_revoked (by rw [heq]) hgrant
    rw [hrecords]
    simp only [List.mem_append, List.mem_cons, hne, false_or] at hr ⊢
    exact hr.imp_right .inr
  · intro r hr hdeny
    have hne : r ≠ allow := by
      intro heq
      rw [heq] at hdeny
      cases heffect.symm.trans hdeny.1
    refine ⟨r, ?_, hdeny⟩
    rw [hrecords] at hr
    simp only [List.mem_append, List.mem_cons, hne, false_or] at hr ⊢
    exact hr.imp_right .inr

/-- The command revokes all records with a key, so they must all be records that allow. -/
theorem allows_of_revoke (hvalid : ∀ r ∈ records, r.isValid) {callerId : String} {opcode : UInt8}
    {operation resourceValue : String}
    (hkey : ∀ r ∈ records, r.HasKey callerId opcode operation resourceValue →
      r.status = .active → r.effect = .allow)
    (h : Allows ((Edit.revoke callerId opcode operation resourceValue).apply records) q now) :
    Allows records q now := by
  rw [Edit.apply, Permctl.revoke_eq_map] at h
  refine allows_of_stricter hvalid ?_ ?_ h
  · intro r hr hgrant
    obtain ⟨r₀, hr₀, rfl⟩ := List.mem_map.mp hr
    by_cases hkey₀ : r₀.HasKey callerId opcode operation resourceValue
    · rw [if_pos hkey₀] at hgrant
      exact absurd hgrant (not_grants_revoked rfl)
    · rw [if_neg hkey₀]
      exact hr₀
  · intro r hr hdeny
    refine ⟨r, ?_, hdeny⟩
    have hactive : r.status = .active := by
      have happlicable := hdeny.2.2
      simp only [PermissionRecord.isApplicable, Bool.and_eq_true, decide_eq_true_eq] at happlicable
      exact happlicable.1.1.1
    have hno : ¬ r.HasKey callerId opcode operation resourceValue := by
      intro hr'
      cases (hkey r hr hr' hactive).symm.trans hdeny.1
    exact List.mem_map.mpr ⟨r, hr, if_neg hno⟩

end Edits

/-! ## Front ends -/

section FrontEnds

variable {serde : Serde} {records : List PermissionRecord}

theorem Permctl.command_spec (hserde : serde.RoundTrips) {file : FileRead}
    (h : loadRecords serde file = .ok records) (edit : Edit) (written : Bool) :
    (written = false ∧ command serde file (edit, written) = .error .unwritable) ∨
      ∃ file', command serde file (edit, written) = .ok file' ∧
        loadRecords serde file' = .ok (edit.apply records) := by
  have hsave : ∀ records, (written = false ∧ saveRecords serde written records =
        .error .unwritable) ∨ ∃ file', saveRecords serde written records = .ok file' ∧
      loadRecords serde file' = .ok records := by
    intro records
    obtain ⟨json, hwrite, hblank, hread⟩ := hserde records
    rw [saveRecords, hwrite]
    cases written with
    | false => exact .inl ⟨rfl, rfl⟩
    | true => exact .inr ⟨.text json, rfl, by rw [loadRecords, if_neg hblank, hread]; rfl⟩
  cases edit with
  | grant callerId opcode operation resource under deny notBefore notAfter =>
    simp only [command, h, bind, Except.bind]
    exact hsave _
  | revoke callerId opcode operation resourceValue =>
    simp only [command, h, bind, Except.bind]
    by_cases hcount : (revoke records callerId opcode operation resourceValue).2 = 0
    · refine .inr ⟨file, if_pos hcount, ?_⟩
      rw [Edit.apply, revoke_of_count_zero hcount]
      exact h
    · rw [if_neg hcount]
      exact hsave _

/-- A run either ends at a write that failed or keeps up with the edits. -/
theorem Permctl.run_spec (hserde : serde.RoundTrips) {file : FileRead}
    (h : loadRecords serde file = .ok records) (edits : List (Edit × Bool)) :
    ((∃ edit ∈ edits, edit.2 = false) ∧ run serde file edits = .error .unwritable) ∨
      ∃ file', run serde file edits = .ok file' ∧
        loadRecords serde file' = .ok ((edits.map Prod.fst).foldl Edit.apply records) := by
  unfold run
  induction edits generalizing file records with
  | nil => exact .inr ⟨file, rfl, h⟩
  | cons edit edits ih =>
    obtain ⟨edit, written⟩ := edit
    rw [List.foldlM_cons]
    rcases command_spec hserde h edit written with ⟨hwritten, hfails⟩ | ⟨file₁, hfirst, hload⟩
    · rw [hfails]
      exact .inl ⟨⟨_, List.mem_cons_self, hwritten⟩, rfl⟩
    · rw [hfirst]
      refine (ih hload).imp_left fun ⟨⟨other, hother, hwritten⟩, hfails⟩ => ?_
      exact ⟨⟨other, List.mem_cons_of_mem _ hother, hwritten⟩, hfails⟩

theorem Panel.command_spec (hserde : serde.RoundTrips) {text : String}
    (h : parse serde text = .ok records) (edit : Edit) :
    ∃ text', command serde text edit = .ok text' ∧
      parse serde text' = .ok (edit.apply records) := by
  have hdump : ∀ records, ∃ text', dump serde records = .ok text' ∧
      parse serde text' = .ok records := by
    intro records
    obtain ⟨json, hwrite, hblank, hread⟩ := hserde records
    exact ⟨json, by rw [dump, hwrite]; rfl, by rw [parse, if_neg hblank, hread]; rfl⟩
  obtain ⟨text', hwrite, hread⟩ := hdump (edit.apply records)
  refine ⟨text', ?_, hread⟩
  cases edit with
  | grant =>
    simp only [command, grant, h, bind, Except.bind]
    exact hwrite
  | revoke =>
    rw [Edit.apply, Permctl.revoke_eq_map] at hwrite
    simp only [command, revoke, h, bind, Except.bind]
    exact hwrite

theorem Panel.run_spec (hserde : serde.RoundTrips) {text : String}
    (h : parse serde text = .ok records) (edits : List Edit) :
    ∃ text', run serde text edits = .ok text' ∧
      parse serde text' = .ok (edits.foldl Edit.apply records) := by
  unfold run
  induction edits generalizing text records with
  | nil => exact ⟨text, rfl, h⟩
  | cons edit edits ih =>
    obtain ⟨text₁, hfirst, hparse⟩ := command_spec hserde h edit
    rw [List.foldlM_cons, hfirst]
    exact ih hparse

/-- What the command line and the panel print for a verdict. -/
def verdictText : Except DenyReason PermissionDecision → String
  | .ok _ => "ALLOW"
  | .error reason => "DENY:" ++ reason.code

theorem Panel.evaluate_eq {text : String} {policy : Policy} {q : Request} {now : UInt64}
    (h : parse serde text = .ok policy.records) :
    evaluate serde text q.callerId q.opcode q.operation q.resource now =
      .ok (verdictText (policy.verdict q now)) := by
  simp only [evaluate, h, bind, Except.bind, Policy.new_eq_ok.mpr (rfl : policy.records = _)]
  unfold Policy.verdict
  cases policy.evaluate q.callerId q.opcode q.operation q.resource now <;> rfl

theorem Permctl.evaluate_eq {policy : Policy} {q : Request} {now : UInt64} :
    evaluate policy.records q.callerId q.opcode q.operation q.resource now =
      (policy.verdict q now).map fun _ => () := by
  simp only [evaluate, Policy.new_eq_ok.mpr (rfl : policy.records = _)]
  rfl

/-- The gateway reads the records that a front end reads from the same text. -/
theorem Policy.records_of_read {ε : Type} {json : String} {policy : Policy} {e : ε}
    (h : Policy.fromJsonStr serde json = .ok policy)
    (hread : (if trim json = "" then .ok [] else (serde.fromStr json).elim (.error e) .ok) =
      Except.ok records) : policy.records = records := by
  unfold Policy.fromJsonStr at h
  by_cases hblank : trim json = ""
  · rw [if_pos hblank] at h
    cases h
  · rw [if_neg hblank] at h hread
    rw [elim_eq_ok.mp hread] at h
    exact Policy.new_eq_ok.mp h

theorem Policy.records_of_fromJsonFile {file : FileRead} {policy : Policy}
    (h : Policy.fromJsonFile serde file = .ok policy)
    (hload : Permctl.loadRecords serde file = .ok records) : policy.records = records := by
  cases file with
  | text json => exact Policy.records_of_read h hload
  | notFound => cases h
  | failed => cases h

/-- On a file and a text with these records, the front ends print what the gateway decides. -/
def FrontEndsAgree (serde : Serde) (records : List PermissionRecord) (file : FileRead)
    (text : String) (q : Request) (now : UInt64) : Prop :=
  ∀ policy : Policy, policy.records = records →
    (∃ loaded, Permctl.loadRecords serde file = .ok loaded ∧
      Permctl.evaluate loaded q.callerId q.opcode q.operation q.resource now =
        (policy.verdict q now).map fun _ => ()) ∧
    Panel.evaluate serde text q.callerId q.opcode q.operation q.resource now =
      .ok (verdictText (policy.verdict q now)) ∧
    ∀ gateway, Policy.fromJsonFile serde file = .ok gateway ∨
        Policy.fromJsonStr serde text = .ok gateway →
      gateway.verdict q now = policy.verdict q now

theorem frontEndsAgree_of_read {file : FileRead} {text : String}
    (hfile : Permctl.loadRecords serde file = .ok records)
    (htext : Panel.parse serde text = .ok records) (q : Request) (now : UInt64) :
    FrontEndsAgree serde records file text q now := by
  rintro policy rfl
  refine ⟨⟨policy.records, hfile, Permctl.evaluate_eq⟩, Panel.evaluate_eq htext, ?_⟩
  intro gateway hgateway
  have hrecords : gateway.records = policy.records := by
    rcases hgateway with hgateway | hgateway
    · exact Policy.records_of_fromJsonFile hgateway hfile
    · exact Policy.records_of_read hgateway htext
  cases gateway
  cases policy
  cases hrecords
  rfl

end FrontEnds

/-- What a policy decides, what edits can do to it, and that the front ends agree with the gateway:
they edit the same list, unless a file cannot be written, and print what the gateway decides. -/
theorem verdicts (serde : Serde) (hserde : serde.RoundTrips) (records : List PermissionRecord)
    (hvalid : ∀ r ∈ records, r.isValid) (q : Request) (now : UInt64) :
    (Allows records q now ↔
      (∃ r ∈ records, r.Grants q now) ∧ ∀ r ∈ records, ¬ r.Denies q now) ∧
    (∀ reordered, reordered.Perm records → (Allows reordered q now ↔ Allows records q now)) ∧
    (∀ before after deny, records = before ++ after → deny.effect = .deny →
      Allows (before ++ deny :: after) q now → Allows records q now) ∧
    (∀ before after allow, records = before ++ allow :: after → allow.effect = .allow →
      Allows (before ++ { allow with status := .revoked } :: after) q now →
        Allows records q now) ∧
    (∀ callerId opcode operation resourceValue,
      (∀ r ∈ records, r.HasKey callerId opcode operation resourceValue → r.status = .active →
        r.effect = .allow) →
      Allows ((Edit.revoke callerId opcode operation resourceValue).apply records) q now →
        Allows records q now) ∧
    ∀ file text (edits : List (Edit × Bool)), Permctl.loadRecords serde file = .ok records →
      Panel.parse serde text = .ok records →
      ∃ text', Panel.run serde text (edits.map Prod.fst) = .ok text' ∧
        (((∃ edit ∈ edits, edit.2 = false) ∧
            Permctl.run serde file edits = .error .unwritable) ∨
          ∃ file', Permctl.run serde file edits = .ok file' ∧
            FrontEndsAgree serde ((edits.map Prod.fst).foldl Edit.apply records) file' text' q
              now) := by
  refine ⟨allows_iff hvalid, fun _ => allows_perm hvalid, ?_, ?_, ?_, ?_⟩
  · intro before after deny hrecords heffect
    exact allows_of_add_deny hvalid hrecords heffect
  · intro before after allow hrecords heffect
    exact allows_of_revoke_allow hvalid hrecords heffect
  · intro callerId opcode operation resourceValue hkey
    exact allows_of_revoke hvalid hkey
  · intro file text edits hfile htext
    obtain ⟨text', hpanel, hparse⟩ := Panel.run_spec hserde htext (edits.map Prod.fst)
    refine ⟨text', hpanel, (Permctl.run_spec hserde hfile edits).imp_right ?_⟩
    rintro ⟨file', hrun, hload⟩
    exact ⟨file', hrun, frontEndsAgree_of_read hload hparse q now⟩

namespace Sample

open JsonText

/-- The members of a record as `serde_json` writes them. -/
def members (r : PermissionRecord) : List (String × Value) :=
  [("caller_id", .scalar (.text r.callerId)), ("opcode", .scalar (.number r.opcode.toNat)),
    ("operation", .scalar (.text r.operation)),
    ("resource", .record (match r.resource with
      | .exact value => [("kind", .text "exact"), ("value", .text value)]
      | .under head => [("kind", .text "prefix"), ("prefix", .text head)])),
    ("effect", .scalar (.text (match r.effect with | .allow => "allow" | .deny => "deny"))),
    ("not_before", .scalar (.number r.notBefore.toNat)),
    ("not_after", .scalar (.number r.notAfter.toNat)),
    ("status", .scalar (.text (match r.status with | .active => "active" | .revoked => "revoked"))),
    ("authority_source", .scalar (.text (match r.authoritySource with
      | .receiverLocal => "receiver_local"
      | .dreggBacked => "dregg_backed"
      | .dreggAuthority => "dregg_authority")))]

theorem members_injective : Function.Injective members := by
  rintro ⟨c, o, p, resource, effect, nb, na, status, source⟩ ⟨_, _, _, resource', effect', _, _,
    status', source'⟩ h
  simp only [members, List.cons.injEq, Prod.mk.injEq, Value.scalar.injEq, Value.record.injEq,
    Scalar.text.injEq, Scalar.number.injEq, UInt8.toNat_inj, UInt64.toNat_inj, true_and,
    and_true] at h
  obtain ⟨rfl, rfl, rfl, hresource, heffect, rfl, rfl, hstatus, hsource⟩ := h
  obtain rfl : resource = resource' := by cases resource <;> cases resource' <;> simp_all
  obtain rfl : effect = effect' := by cases effect <;> cases effect' <;> simp_all
  obtain rfl : status = status' := by cases status <;> cases status' <;> simp_all
  obtain rfl : source = source' := by cases source <;> cases source' <;> simp_all
  rfl

def text (records : List PermissionRecord) : String :=
  String.ofList (array (object Value.write) (records.map members))

theorem text_injective : Function.Injective text := by
  intro records records' h
  have hstarts : Starts (object Value.write) := fun _ => ⟨_, _, rfl, by simp [isEnd]⟩
  have harray := delimited_array (delimited_object delimited_value) hstarts (records.map members)
    (records'.map members) ',' ',' [] [] (.inl rfl) (.inl rfl) (by rw [String.ofList_injective h])
  exact List.map_injective_iff.mpr members_injective harray.1

/-- Writes JSON without white space, and reads what it writes. -/
noncomputable def compact : Serde := ⟨Function.partialInv text, fun records => some (text records)⟩

theorem compact_roundTrips : compact.RoundTrips := by
  intro records
  refine ⟨text records, rfl, ?_, Function.partialInv_left text_injective records⟩
  -- neither bracket is white space
  have htrim : trimChars (text records).toList = (text records).toList := by
    rw [text, String.toList_ofList, array, trimChars]
    have hopen : isWhitespace '[' = false := by decide
    have hclose : isWhitespace ']' = false := by decide
    simp [hopen, hclose]
  rw [trim, chars_eq, htrim, String.ofList_toList, Ne, ← String.toList_inj, text,
    String.toList_ofList]
  exact List.cons_ne_nil _ _

def reader : PermissionRecord := Permctl.buildRecord "wallet" 0x50 "read" "notes/" true false 10 20

def barred : PermissionRecord :=
  Permctl.buildRecord "wallet" 0x50 "read" "notes/b" false true 10 20

/-- Lifts the ban. -/
def lift : Edit := .revoke "wallet" 0x50 "read" "notes/b"

/-- A reader of the notes, one of which is barred until the ban is lifted in both front ends. -/
theorem reader_allowed :
    Allows [reader, barred] ⟨"wallet", 0x50, "read", "notes/a"⟩ 15 ∧
    ¬ Allows [reader, barred] ⟨"wallet", 0x50, "read", "notes/b"⟩ 15 ∧
    ∃ file text', Permctl.run compact (.text (text [reader, barred])) [(lift, true)] = .ok file ∧
      Panel.run compact (text [reader, barred]) [lift] = .ok text' ∧
      Panel.evaluate compact text' "wallet" 0x50 "read" "notes/b" 15 = .ok "ALLOW" := by
  let verdict := verdicts compact compact_roundTrips [reader, barred] (by decide)
  obtain ⟨json, hwrite, hblank, hread⟩ := compact_roundTrips [reader, barred]
  obtain rfl := Option.some.inj hwrite
  refine ⟨(verdict _ 15).1.mpr ⟨⟨reader, List.mem_cons_self, rfl, by decide, by decide⟩, ?_⟩, ?_,
    ?_⟩
  · intro r hr hdeny
    rcases List.mem_pair.mp hr with rfl | rfl
    · exact absurd hdeny.1 (by decide)
    · exact absurd hdeny.2.1 (by decide)
  · intro hallows
    exact ((verdict _ 15).1.mp hallows).2 barred (by simp) ⟨rfl, by decide, by decide⟩
  · obtain ⟨text', hpanel, hfile⟩ := (verdict ⟨"wallet", 0x50, "read", "notes/b"⟩ 15).2.2.2.2.2
      (.text (text [reader, barred])) (text [reader, barred]) [(lift, true)]
      (by rw [Permctl.loadRecords, if_neg hblank, hread]; rfl)
      (by rw [Panel.parse, if_neg hblank, hread]; rfl)
    rcases hfile with ⟨⟨edit, hedit, hwritten⟩, -⟩ | ⟨file, hrun, hagree⟩
    · rw [List.mem_singleton.mp hedit] at hwritten
      cases hwritten
    · obtain ⟨-, hprints, -⟩ :=
        hagree ⟨[reader, { barred with status := .revoked }], by decide⟩ (by decide)
      exact ⟨file, text', hrun, hpanel, hprints.trans (by decide)⟩

end Sample

end PermissionPolicy
