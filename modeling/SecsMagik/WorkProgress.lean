import SecsMagik.StrictJson

/-! # Workflow and progress payloads

The receiver's side of the workflow contract: a payload is checked, its missing fields are filled
with their defaults, and the records it creates are added to the resources of the request.
-/
namespace WorkProgress

open RustStd
open WireCodec (rejectIf rejectIf_eq_ok)
open CanonicalJson (Json)
open JsonMaps StrictJson
open WorkPolicies (identifier kind)

def invalid : String := "invalid_work_request"

def fields (value : Json) (required : List String) (optional : List (String × Json)) :
    Except String Json := do
  let object ← value.asObject.elim (.error invalid) .ok
  rejectIf ((∃ key ∈ required, key ∉ keys object) ∨
    ∃ key ∈ keys object, key ∉ required ∧ key ∉ keys optional) invalid
  return .object (withDefaults optional object)

def string (value : Json) (field : String) (min max : ℕ) : Except String String := do
  let text ← (value.index field).asStr.elim (.error invalid) .ok
  rejectIf (¬ (min ≤ text.toList.length ∧ text.toList.length ≤ max)) invalid
  return text

def id (value : Json) (field : String) : Except String String := do
  let text ← string value field 1 256
  rejectIf (identifier text = false) invalid
  return text

def array (value : Json) (field : String) (max : ℕ) : Except String (List Json) :=
  ((value.index field).asArray.filter (·.length ≤ max)).elim (.error invalid) .ok

def verdict (value : Json) (field : String) : Except String Unit :=
  rejectIf ((value.index field).asStr ∉
    [some "approved", some "changes_requested", some "not_applicable"]) invalid

def stage (workflow value : String) : Bool :=
  (value ∈ ["backlog", "done", "blocked_waiting_input"] &&
    workflow ∈ ["vibe-ceo.v1", "execution.v1"]) ||
  (if workflow = "vibe-ceo.v1" then
    value ∈ ["planning", "developer_plan_approval", "ceo_plan_approval", "ready", "in_progress",
      "ceo_delivery_approval", "technical_review", "handoff_verification"]
  else if workflow = "execution.v1" then
    value ∈ ["intake", "requirements_normalized", "baseline_captured", "implementing_commit",
      "commit_ready_for_review", "layer_review", "reconciling_ledger", "delivery_packet_ready"]
  else false)

/-- What may follow a host: nothing, or a colon and a 16-bit number. -/
def isPort (port : List Char) : Bool :=
  match port with
  | [] => true
  | ':' :: digits =>
    digits ≠ [] && digits.length ≤ 5 && digits.all (·.isDigit) &&
      digits.foldl (fun n c => 10 * n + (c.toNat - 48)) 0 < 65536
  | _ => false

section

-- whether `std::net::Ipv6Addr` parses a text
variable (isIpv6 : String → Bool)

def evidenceUrl (value : String) : Bool :=
  if value.toList.any fun c => c.toNat ≤ 32 || c = '\\' || c.toNat = 127 then false
  else match (stripPrefix value "https://").or (stripPrefix value "http://") with
    | none => false
    | some rest =>
      match rest.toList.takeWhile (· ∉ ['/', '?', '#']) with
      | '[' :: tail =>
        ']' ∈ tail && isIpv6 (String.ofList (tail.takeWhile (· ≠ ']'))) &&
          isPort (tail.dropWhile (· ≠ ']')).tail
      | authority =>
        let host := authority.takeWhile (· ≠ ':')
        (utf8 (String.ofList host)).all (fun b => isAsciiAlphanumeric b || b ∈ utf8 ".-") &&
          host ≠ [] && isPort (authority.drop host.length)

/-! ## Review records -/

/-- A loop over items that are completed with defaults, checked and collected. -/
def collect {β : Type} (required : List String) (optional : List (String × Json))
    (check : β → Json → Except String β) : List Json → β → Except String (List Json × β)
  | [], state => .ok ([], state)
  | item :: rest, state => do
    let item ← fields item required optional
    let state ← check state item
    let (items, state) ← collect required optional check rest state
    return (item :: items, state)

/-- The body of the loop over the evidence, on the ids seen and the resources. -/
def checkEvidence (state : List String × List String) (e : Json) :
    Except String (List String × List String) := do
  let (ids, resources) := state
  let key ← id e "id"
  rejectIf (key ∈ ids ∨ (e.index "kind").asStr ∉ [some "Artifact", some "ExternalLink"]) invalid
  let title ← string e "title" 0 4096
  let url ← string e "url" 0 4096
  if url = "" then
    rejectIf (title ≠ "") invalid
    return (setInsert key ids, resources)
  else
    rejectIf (e.index "kind" ≠ .string "ExternalLink" ∨ trim title = "" ∨
      evidenceUrl isIpv6 url = false) invalid
    return (setInsert key ids, setInsert ("ExternalLink/" ++ key) resources)

def checkSubject (subject : String) : Except String Unit := do
  if subject ≠ "" then
    let (label, key) ← (splitOnce subject '/').elim (.error invalid) .ok
    rejectIf (¬ (kind label = true ∨ label ∈ ["Requirement", "AcceptanceCriterion"]) ∨
      identifier key = false) invalid

/-- The body of the loop over the requirements, on the ids of the requirements seen. -/
def checkRequirement (ids requirementIds : List String) (r : Json) :
    Except String (List String) := do
  let key ← id r "id"
  rejectIf (key ∈ requirementIds) invalid
  let _ ← string r "title" 1 4096
  let reason ← string r "reason" 0 4096
  let subject ← (r.index "subject").asStr.elim (.error invalid) .ok
  checkSubject subject
  let attached ← array r "evidence_ids" 50
  rejectIf (∃ e ∈ attached, e.asStr.all (· ∉ ids) = true) invalid
  let outcome := (r.index "outcome").asStr
  rejectIf (¬ ((outcome = some "met" ∧ attached ≠ []) ∨
    (outcome = some "excluded" ∧ trim reason ≠ "") ∨ outcome = some "unmet")) invalid
  return setInsert key requirementIds

/-- The body of the loop over the layers, on the layers seen. -/
def checkLayer (layerIds : List String) (l : Json) : Except String (List String) := do
  let key ← (l.index "layer").asStr.elim (.error invalid) .ok
  rejectIf (key ∉ ["product", "architecture", "implementation", "e2e", "design", "ux"] ∨
    key ∈ layerIds) invalid
  verdict l "verdict"
  let reason ← string l "reason" 0 4096
  rejectIf (trim reason = "" ∧ l.index "verdict" = .string "not_applicable") invalid
  return setInsert key layerIds

def recordType (phase : Option String) : Except String String :=
  if phase ∈ [some "developer_plan", some "ceo_plan", some "ceo_delivery", some "resolution"] then
    .ok "Decision"
  else if phase = some "handoff" then .ok "Handoff"
  else if phase ∈ [some "requirements", some "baseline", some "commit", some "technical"] then
    .ok "ReviewPacket"
  else .error invalid

def emptyText : Json := .string ""

def emptyArray : Json := .array []

/-- The value a review leaves: its three lists replaced by the completed ones. -/
def reviewed (v : Json) (evidence requirements layers : List Json) : Json :=
  setMember "layers" (.array layers)
    (setMember "requirements" (.array requirements) (setMember "evidence" (.array evidence) v))

/-- `review` on a value that has all its fields. -/
def reviewFields (v : Json) (resources : List String) : Except String (Json × List String) := do
  let record ← id v "record_id"
  let label ← recordType (v.index "phase").asStr
  verdict v "verdict"
  let _ ← string v "summary" 1 8192
  let evidence ← array v "evidence" 50
  let (evidence, ids, resources) ← collect ["kind", "id"]
    [("title", emptyText), ("url", emptyText)] (checkEvidence isIpv6) evidence
    ([], setInsert (label ++ "/" ++ record) resources)
  let requirements ← array v "requirements" 100
  let (requirements, _) ← collect ["id", "title", "outcome"]
    [("subject", emptyText), ("evidence_ids", emptyArray), ("reason", emptyText)]
    (checkRequirement ids) requirements []
  let layers ← array v "layers" 6
  let (layers, _) ← collect ["layer", "verdict"] [("reason", emptyText)] checkLayer layers []
  return (reviewed v evidence requirements layers, resources)

def review (raw : Json) (resources : List String) : Except String (Json × List String) := do
  let v ← fields raw ["record_id", "phase", "verdict", "summary"]
    [("evidence", emptyArray), ("requirements", emptyArray), ("layers", emptyArray)]
  reviewFields isIpv6 v resources

/-! ## The four operations -/

def assign (raw : Json) : Except String Json := do
  let v ← fields raw ["workflow_id", "reason"] [("stage", .string "backlog")]
  let workflow ← string v "workflow_id" 1 64
  let value ← string v "stage" 1 64
  rejectIf (stage workflow value = false) invalid
  let _ ← string v "reason" 1 4096
  return v

def transition (raw : Json) : Except String Json := do
  let v ← fields raw ["stage"] [("reason", emptyText)]
  let _ ← string v "stage" 1 64
  let _ ← string v "reason" 0 4096
  return v

/-- The review that records a change of progress; `json!` keeps the keys in order. -/
def progressReview (v : Json) : Json :=
  .object [("evidence", v.index "evidence"), ("phase", .string "requirements"),
    ("record_id", v.index "record_id"), ("requirements", v.index "requirements"),
    ("summary", v.index "reason"), ("verdict", .string "approved")]

def progressResult (v r : Json) : Json :=
  .object [("evidence", r.index "evidence"), ("progress", v.index "progress"),
    ("reason", v.index "reason"), ("record_id", r.index "record_id"),
    ("requirements", r.index "requirements")]

def setProgress (raw : Json) (resources : List String) : Except String (Json × List String) := do
  let v ← fields raw ["progress", "reason", "record_id"]
    [("evidence", emptyArray), ("requirements", emptyArray)]
  let known := (v.index "progress").asStr ∈ [some "not_started", some "in_progress", some "done"]
  rejectIf (¬ known) invalid
  let reason ← string v "reason" 1 8192
  rejectIf (trim reason = "") invalid
  let (r, resources) ← review isIpv6 (progressReview v) resources
  return (progressResult v r, resources)

def normalize (op : String) (raw : Json) (resources : List String) :
    Except String (Json × List String) :=
  if op = "workflow.assign" then (assign raw).map (·, resources)
  else if op = "workflow.transition" then (transition raw).map (·, resources)
  else if op = "workflow.review" then review isIpv6 raw resources
  else if op = "progress.set" then setProgress isIpv6 raw resources
  else .error invalid

end

/-! ## Normalizing again -/

theorem fields_eq_ok {value v : Json} {required : List String} {optional : List (String × Json)} :
    fields value required optional = .ok v ↔
      ∃ object, value = .object object ∧ (∀ key ∈ required, key ∈ keys object) ∧
        (∀ key ∈ keys object, key ∈ required ∨ key ∈ keys optional) ∧
        v = .object (withDefaults optional object) := by
  simp only [fields, bind_eq_ok, elim_eq_ok, Json.asObject_eq_some, rejectIf_eq_ok,
    exists_and_right, exists_const, pure, Except.pure, Except.ok.injEq, not_or, not_exists, not_and,
    not_not, ← or_iff_not_imp_left]
  constructor
  · rintro ⟨object, rfl, ⟨hrequired, hknown⟩, rfl⟩
    exact ⟨object, rfl, hrequired, hknown, rfl⟩
  · rintro ⟨object, rfl, hrequired, hknown, rfl⟩
    exact ⟨object, rfl, ⟨hrequired, hknown⟩, rfl⟩

section Fields

variable {required : List String} {optional : List (String × Json)}

theorem fields_again {value v : Json} (h : fields value required optional = .ok v) :
    fields v required optional = .ok v := by
  obtain ⟨object, -, hrequired, hknown, rfl⟩ := fields_eq_ok.mp h
  refine fields_eq_ok.mpr ⟨_, rfl, ?_, ?_, ?_⟩
  · intro key hkey
    exact mem_keys_withDefaults.mpr (.inr (hrequired key hkey))
  · intro key hkey
    rcases mem_keys_withDefaults.mp hkey with hkey | hkey
    · exact .inr hkey
    · exact hknown key hkey
  · rw [withDefaults_withDefaults]

theorem clean_fields {n : ℕ} {value v : Json} (h : fields value required optional = .ok v)
    (hclean : Clean n value)
    (hoptional : ∀ m ∈ optional, m.1 ≠ privateNumber ∧ Clean (n + 1) m.2) : Clean n v := by
  obtain ⟨object, rfl, -, -, rfl⟩ := fields_eq_ok.mp h
  exact hclean.withDefaults hoptional

theorem object_of_fields {value v : Json} (h : fields value required optional = .ok v) :
    ∃ members, v = .object members := by
  obtain ⟨object, -, -, -, hv⟩ := fields_eq_ok.mp h
  exact ⟨_, hv⟩

theorem fields_setMember {v : Json} (h : fields v required optional = .ok v) {key : String}
    (hkey : key ∈ required ∨ key ∈ keys optional) (x : Json) :
    fields (setMember key x v) required optional = .ok (setMember key x v) := by
  obtain ⟨object, rfl, hrequired, hknown, hv⟩ := fields_eq_ok.mp h
  have hoptional : ∀ k ∈ keys optional, k ∈ keys object := by
    intro k hk
    rw [Json.object.inj hv]
    exact mem_keys_withDefaults.mpr (.inl hk)
  refine fields_eq_ok.mpr ⟨_, rfl, ?_, ?_, ?_⟩
  · intro k hk
    exact mem_keys_insert.mpr (.inr (hrequired k hk))
  · intro k hk
    rcases mem_keys_insert.mp hk with rfl | hk
    · exact hkey
    · exact hknown k hk
  · rw [withDefaults_of_present fun k hk => mem_keys_insert.mpr (.inr (hoptional k hk))]
    rfl

variable {β : Type} {check : β → Json → Except String β}

variable {state last : β}

theorem collect_cons_eq_ok {item : Json} {rest items : List Json} :
    collect required optional check (item :: rest) state = .ok (items, last) ↔
      ∃ v next tail, fields item required optional = .ok v ∧ check state v = .ok next ∧
        collect required optional check rest next = .ok (tail, last) ∧ items = v :: tail := by
  simp only [collect, bind_eq_ok, pure, Except.pure, Except.ok.injEq, Prod.mk.injEq, Prod.exists]
  constructor
  · rintro ⟨v, hv, next, hnext, tail, state', hrest, rfl, rfl⟩
    exact ⟨v, next, tail, hv, hnext, hrest, rfl⟩
  · rintro ⟨v, next, tail, hv, hnext, hrest, rfl⟩
    exact ⟨v, hv, next, hnext, tail, last, hrest, rfl, rfl⟩

/-- The collected items go through the loop unchanged, over the same states. -/
theorem collect_again {items out : List Json}
    (h : collect required optional check items state = .ok (out, last)) :
    collect required optional check out state = .ok (out, last) := by
  induction items generalizing out state with
  | nil =>
    cases h
    rfl
  | cons item rest ih =>
    obtain ⟨v, next, tail, hv, hnext, hrest, rfl⟩ := collect_cons_eq_ok.mp h
    exact collect_cons_eq_ok.mpr ⟨v, next, tail, fields_again hv, hnext, ih hrest, rfl⟩

theorem length_collect {items out : List Json}
    (h : collect required optional check items state = .ok (out, last)) :
    out.length = items.length := by
  induction items generalizing out state with
  | nil =>
    cases h
    rfl
  | cons item rest ih =>
    obtain ⟨v, next, tail, -, -, hrest, rfl⟩ := collect_cons_eq_ok.mp h
    rw [List.length_cons, List.length_cons, ih hrest]

theorem clean_collect {n : ℕ} {items out : List Json}
    (h : collect required optional check items state = .ok (out, last))
    (hclean : ∀ v ∈ items, Clean n v)
    (hoptional : ∀ m ∈ optional, m.1 ≠ privateNumber ∧ Clean (n + 1) m.2) :
    ∀ v ∈ out, Clean n v := by
  induction items generalizing out state with
  | nil =>
    cases h
    exact hclean
  | cons item rest ih =>
    obtain ⟨v, next, tail, hv, -, hrest, rfl⟩ := collect_cons_eq_ok.mp h
    rw [List.forall_mem_cons] at hclean ⊢
    exact ⟨clean_fields hv hclean.1 hoptional, ih hrest hclean.2⟩

end Fields

section Congruence

variable {v w : Json} {field : String} (h : v.index field = w.index field)
include h

theorem string_congr (min max : ℕ) : string v field min max = string w field min max := by
  rw [string, string, h]

theorem id_congr : id v field = id w field := by
  rw [id, id, string_congr h]

theorem verdict_congr : verdict v field = verdict w field := by
  rw [verdict, verdict, h]

end Congruence

theorem array_eq_ok {value : Json} {field : String} {max : ℕ} {items : List Json} :
    array value field max = .ok items ↔
      value.index field = .array items ∧ items.length ≤ max := by
  rw [array, elim_eq_ok, Option.filter_eq_some_iff, decide_eq_true_eq]
  apply and_congr_left
  intro _
  cases value.index field <;> simp [Json.asArray]

theorem index_reviewed {v : Json} {evidence requirements layers : List Json} {field : String}
    (h : field ∉ ["evidence", "requirements", "layers"]) :
    (reviewed v evidence requirements layers).index field = v.index field := by
  simp only [List.mem_cons, List.not_mem_nil, or_false, not_or] at h
  rw [reviewed, index_setMember_ne h.2.2, index_setMember_ne h.2.1, index_setMember_ne h.1]

variable {resources resources' : List String} {raw v : Json}

section Review

variable {isIpv6 : String → Bool}

theorem reviewFields_eq_ok {v v' : Json} :
    reviewFields isIpv6 v resources = .ok (v', resources') ↔
      ∃ record, id v "record_id" = .ok record ∧
      ∃ label, recordType (v.index "phase").asStr = .ok label ∧
      ∃ u, verdict v "verdict" = .ok u ∧ ∃ summary, string v "summary" 1 8192 = .ok summary ∧
      ∃ evidence, array v "evidence" 50 = .ok evidence ∧
      ∃ evidence' ids used, collect ["kind", "id"] [("title", emptyText), ("url", emptyText)]
        (checkEvidence isIpv6) evidence ([], setInsert (label ++ "/" ++ record) resources) =
          .ok (evidence', ids, used) ∧
      ∃ requirements, array v "requirements" 100 = .ok requirements ∧
      ∃ requirements' requirementIds, collect ["id", "title", "outcome"]
        [("subject", emptyText), ("evidence_ids", emptyArray), ("reason", emptyText)]
        (checkRequirement ids) requirements [] = .ok (requirements', requirementIds) ∧
      ∃ layers, array v "layers" 6 = .ok layers ∧
      ∃ layers' layerIds, collect ["layer", "verdict"] [("reason", emptyText)] checkLayer layers
        [] = .ok (layers', layerIds) ∧
      reviewed v evidence' requirements' layers' = v' ∧ used = resources' := by
  simp only [reviewFields, bind_eq_ok, pure, Except.pure, Except.ok.injEq, Prod.mk.injEq,
    Prod.exists]

theorem reviewFields_again {members : List (String × Json)} {v' : Json}
    (h : reviewFields isIpv6 (.object members) resources = .ok (v', resources')) :
    reviewFields isIpv6 v' resources = .ok (v', resources') := by
  obtain ⟨record, hrecord, label, hlabel, u, hverdict, summary, hsummary, evidence, hevidence,
    evidence', ids, used, hcollect, requirements, hrequirements, requirements', _, hcollect',
    layers, hlayers, layers', _, hcollect'', rfl, rfl⟩ := reviewFields_eq_ok.mp h
  refine reviewFields_eq_ok.mpr ⟨record, ?_, label, ?_, u, ?_, summary, ?_, evidence', ?_,
    evidence', ids, used, collect_again hcollect, requirements', ?_, requirements', _,
    collect_again hcollect', layers', ?_, layers', _, collect_again hcollect'', ?_, rfl⟩
  · rw [id_congr (index_reviewed (by decide)), hrecord]
  · rw [index_reviewed (by decide), hlabel]
  · rw [verdict_congr (index_reviewed (by decide)), hverdict]
  · rw [string_congr (index_reviewed (by decide)), hsummary]
  · refine array_eq_ok.mpr ⟨?_, ?_⟩
    · rw [reviewed, index_setMember_ne (by decide), index_setMember_ne (by decide),
        index_setMember_self]
    · rw [length_collect hcollect]
      exact (array_eq_ok.mp hevidence).2
  · refine array_eq_ok.mpr ⟨?_, ?_⟩
    · rw [reviewed, index_setMember_ne (by decide), setMember, index_setMember_self]
    · rw [length_collect hcollect']
      exact (array_eq_ok.mp hrequirements).2
  · refine array_eq_ok.mpr ⟨?_, ?_⟩
    · rw [reviewed, setMember, setMember, index_setMember_self]
    · rw [length_collect hcollect'']
      exact (array_eq_ok.mp hlayers).2
  · -- each list is set to what it already is
    rw [reviewed, reviewed, setMember_comm (by decide : "evidence" ≠ "layers"),
      setMember_comm (by decide : "evidence" ≠ "requirements"), setMember_setMember_self,
      setMember_comm (by decide : "requirements" ≠ "layers"), setMember_setMember_self,
      setMember_setMember_self]

theorem review_again (h : review isIpv6 raw resources = .ok (v, resources')) :
    review isIpv6 v resources = .ok (v, resources') := by
  obtain ⟨filled, hfilled, hreview⟩ := bind_eq_ok.mp h
  obtain ⟨members, rfl⟩ := object_of_fields hfilled
  refine bind_eq_ok.mpr ⟨v, ?_, reviewFields_again hreview⟩
  obtain ⟨_, -, _, -, _, -, _, -, _, -, evidence, _, _, -, _, -, requirements, _, -, _, -, layers,
    _, -, rfl, -⟩ := reviewFields_eq_ok.mp hreview
  apply fields_setMember _ (.inr (by decide))
  apply fields_setMember _ (.inr (by decide))
  exact fields_setMember (fields_again hfilled) (.inr (by decide)) _

/-- The review of a change of progress with all its fields. -/
def progressRecord (evidence recordId requirements summary : Json) : Json :=
  .object [("evidence", evidence), ("layers", emptyArray), ("phase", .string "requirements"),
    ("record_id", recordId), ("requirements", requirements), ("summary", summary),
    ("verdict", .string "approved")]

theorem review_progressReview (v : Json) (resources : List String) :
    review isIpv6 (progressReview v) resources =
      reviewFields isIpv6 (progressRecord (v.index "evidence") (v.index "record_id")
        (v.index "requirements") (v.index "reason")) resources := by
  have hfields : fields (progressReview v) ["record_id", "phase", "verdict", "summary"]
      [("evidence", emptyArray), ("requirements", emptyArray), ("layers", emptyArray)] =
        .ok (progressRecord (v.index "evidence") (v.index "record_id") (v.index "requirements")
          (v.index "reason")) := by
    refine fields_eq_ok.mpr ⟨_, rfl, by simp [keys], by simp [keys], ?_⟩
    rw [withDefaults, List.foldl_cons, orInsert_of_mem (by simp [keys]), List.foldl_cons,
      orInsert_of_mem (by simp [keys]), List.foldl_cons, orInsert, if_neg (by simp [keys]),
      insert_cons_of_gt (by decide), insert_cons_of_lt (by decide)]
    rfl
  rw [review, hfields]
  rfl

theorem reviewed_progressRecord (e recordId r summary : Json) (evidence requirements : List Json) :
    reviewed (progressRecord e recordId r summary) evidence requirements [] =
      progressRecord (.array evidence) recordId (.array requirements) summary := by
  simp (disch := decide) only [reviewed, progressRecord, setMember, insert_cons_self,
    insert_cons_of_gt]
  rfl

/-- The review of a change of progress completes its evidence and its requirements. -/
theorem reviewFields_progressRecord {e recordId r summary out : Json}
    (h : reviewFields isIpv6 (progressRecord e recordId r summary) resources =
      .ok (out, resources')) :
    ∃ evidence requirements,
      out = progressRecord (.array evidence) recordId (.array requirements) summary := by
  obtain ⟨_, -, _, -, _, -, _, -, _, -, evidence, _, _, -, _, -, requirements, _, -, layers,
    hlayers, _, _, hcollect, rfl, -⟩ := reviewFields_eq_ok.mp h
  have hnone : layers = [] := (Json.array.inj (array_eq_ok.mp hlayers).1).symm
  rw [hnone] at hcollect
  cases hcollect
  exact ⟨evidence, requirements, reviewed_progressRecord e recordId r summary evidence requirements⟩

theorem setProgress_eq_ok : setProgress isIpv6 raw resources = .ok (v, resources') ↔
    ∃ filled, fields raw ["progress", "reason", "record_id"]
      [("evidence", emptyArray), ("requirements", emptyArray)] = .ok filled ∧
    (filled.index "progress").asStr ∈ [some "not_started", some "in_progress", some "done"] ∧
    ∃ reason, string filled "reason" 1 8192 = .ok reason ∧ trim reason ≠ "" ∧
    ∃ r used, review isIpv6 (progressReview filled) resources = .ok (r, used) ∧
      progressResult filled r = v ∧ used = resources' := by
  simp only [setProgress, bind_eq_ok, rejectIf_eq_ok, not_not, exists_and_right, exists_const, pure,
    Except.pure, Except.ok.injEq, Prod.mk.injEq, Prod.exists, ne_eq]

theorem setProgress_again (h : setProgress isIpv6 raw resources = .ok (v, resources')) :
    setProgress isIpv6 v resources = .ok (v, resources') := by
  obtain ⟨filled, hfilled, hknown, reason, hreason, hblank, record, _, hreview, rfl, rfl⟩ :=
    setProgress_eq_ok.mp h
  rw [review_progressReview] at hreview
  obtain ⟨evidence, requirements, rfl⟩ := reviewFields_progressRecord hreview
  refine setProgress_eq_ok.mpr ⟨progressResult filled (progressRecord (.array evidence)
    (filled.index "record_id") (.array requirements) (filled.index "reason")), ?_, hknown, reason,
    hreason, hblank, _, _, ?_, rfl, rfl⟩
  · refine fields_eq_ok.mpr ⟨_, rfl, by simp [keys], by simp [keys], ?_⟩
    rw [withDefaults_of_present (by simp [keys])]
    rfl
  · rw [review_progressReview]
    exact reviewFields_again hreview

theorem assign_again (h : assign raw = .ok v) : assign v = .ok v := by
  simp only [assign, bind_eq_ok, rejectIf_eq_ok, exists_and_right, exists_const, pure, Except.pure,
    Except.ok.injEq] at h ⊢
  obtain ⟨filled, hfilled, workflow, hworkflow, value, hvalue, hstage, hreason, rfl⟩ := h
  exact ⟨filled, fields_again hfilled, workflow, hworkflow, value, hvalue, hstage, hreason, rfl⟩

theorem transition_again (h : transition raw = .ok v) : transition v = .ok v := by
  simp only [transition, bind_eq_ok, exists_and_right, pure, Except.pure, Except.ok.injEq] at h ⊢
  obtain ⟨filled, hfilled, hstage, hreason, rfl⟩ := h
  exact ⟨filled, fields_again hfilled, hstage, hreason, rfl⟩

theorem normalize_again {op : String}
    (h : normalize isIpv6 op raw resources = .ok (v, resources')) :
    normalize isIpv6 op v resources = .ok (v, resources') := by
  rw [normalize] at h ⊢
  split_ifs at h ⊢ with hassign htransition hreview hprogress
  · obtain ⟨out, hrun, heq⟩ := map_eq_ok.mp h
    obtain ⟨rfl, rfl⟩ := Prod.mk.inj heq
    exact map_eq_ok.mpr ⟨out, assign_again hrun, rfl⟩
  · obtain ⟨out, hrun, heq⟩ := map_eq_ok.mp h
    obtain ⟨rfl, rfl⟩ := Prod.mk.inj heq
    exact map_eq_ok.mpr ⟨out, transition_again hrun, rfl⟩
  · exact review_again h
  · exact setProgress_again h

end Review

theorem isObject_normalize {isIpv6 : String → Bool} {op : String}
    (h : normalize isIpv6 op raw resources = .ok (v, resources')) : v.isObject = true := by
  rw [normalize] at h
  split_ifs at h with hassign htransition hreview hprogress
  · obtain ⟨out, hrun, heq⟩ := map_eq_ok.mp h
    obtain ⟨rfl, rfl⟩ := Prod.mk.inj heq
    obtain ⟨filled, hfilled, -⟩ := bind_eq_ok.mp (assign_again hrun)
    obtain ⟨object, rfl, -⟩ := fields_eq_ok.mp hfilled
    rfl
  · obtain ⟨out, hrun, heq⟩ := map_eq_ok.mp h
    obtain ⟨rfl, rfl⟩ := Prod.mk.inj heq
    obtain ⟨filled, hfilled, -⟩ := bind_eq_ok.mp (transition_again hrun)
    obtain ⟨object, rfl, -⟩ := fields_eq_ok.mp hfilled
    rfl
  · obtain ⟨filled, hfilled, -⟩ := bind_eq_ok.mp (review_again h)
    obtain ⟨object, rfl, -⟩ := fields_eq_ok.mp hfilled
    rfl
  · obtain ⟨filled, hfilled, -⟩ := bind_eq_ok.mp (setProgress_again h)
    obtain ⟨object, rfl, -⟩ := fields_eq_ok.mp hfilled
    rfl

/-! ## Normalized payloads are strict -/

section Clean

variable {isIpv6 : String → Bool} {n : ℕ}

theorem clean_defaults {optional : List (String × Json)} (hn : n ≤ 16)
    (h : ∀ m ∈ optional, m.1 ≠ privateNumber ∧ ((∃ text, m.2 = .string text) ∨ m.2 = emptyArray)) :
    ∀ m ∈ optional, m.1 ≠ privateNumber ∧ Clean n m.2 := by
  intro m hm
  refine ⟨(h m hm).1, ?_⟩
  rcases (h m hm).2 with ⟨text, heq⟩ | heq
  · rw [heq]
    exact clean_string hn text
  · rw [heq]
    exact clean_nil hn

theorem clean_review (hn : n + 3 ≤ 16) (hclean : Clean n raw)
    (h : review isIpv6 raw resources = .ok (v, resources')) : Clean n v := by
  obtain ⟨filled, hfilled, hreview⟩ := bind_eq_ok.mp h
  have hclean := clean_fields hfilled hclean (clean_defaults (by omega) (by
    simp [privateNumber]))
  obtain ⟨_, -, _, -, _, -, _, -, _, hevidence, _, _, _, hcollect, _, hrequirements, _, _,
    hcollect', _, hlayers, _, _, hcollect'', rfl, -⟩ := reviewFields_eq_ok.mp hreview
  have hitems : ∀ {field : String} {max : ℕ} {items : List Json},
      array filled field max = .ok items → ∀ v ∈ items, Clean (n + 2) v := by
    intro field max items hitems
    have hfield := hclean.index (by omega) field
    rw [(array_eq_ok.mp hitems).1] at hfield
    exact (clean_array_iff.mp hfield).2
  refine ((hclean.setMember (by decide) ?_).setMember (by decide) ?_).setMember (by decide) ?_
  · refine clean_array_iff.mpr ⟨by omega, clean_collect hcollect (hitems hevidence) ?_⟩
    exact clean_defaults hn (by simp [privateNumber, emptyText])
  · refine clean_array_iff.mpr ⟨by omega, clean_collect hcollect' (hitems hrequirements) ?_⟩
    exact clean_defaults hn (by simp [privateNumber, emptyText])
  · refine clean_array_iff.mpr ⟨by omega, clean_collect hcollect'' (hitems hlayers) ?_⟩
    exact clean_defaults hn (by simp [privateNumber, emptyText])

theorem clean_setProgress (hn : n + 3 ≤ 16) (hclean : Clean n raw)
    (h : setProgress isIpv6 raw resources = .ok (v, resources')) :
    Clean n v := by
  obtain ⟨filled, hfilled, -, -, -, -, record, _, hreview, rfl, rfl⟩ := setProgress_eq_ok.mp h
  have hfilledClean : Clean n filled := clean_fields hfilled hclean (clean_defaults (by omega) (by
    simp [privateNumber]))
  have hindex : ∀ field, Clean (n + 1) (filled.index field) := hfilledClean.index (by omega)
  have hrecord : Clean n record := by
    refine clean_review hn (clean_object_iff.mpr ⟨by omega, ?_, ?_⟩) hreview
    · show List.Pairwise (· < ·)
        ["evidence", "phase", "record_id", "requirements", "summary", "verdict"]
      decide
    · simp [privateNumber, hindex, clean_string (show n + 1 ≤ 16 by omega)]
  have hindex' : ∀ field, Clean (n + 1) (record.index field) := hrecord.index (by omega)
  refine clean_object_iff.mpr ⟨by omega, ?_, ?_⟩
  · show List.Pairwise (· < ·) ["evidence", "progress", "reason", "record_id", "requirements"]
    decide
  · simp [privateNumber, hindex, hindex']

theorem clean_assign (hn : n < 16) (hclean : Clean n raw) (h : assign raw = .ok v) :
    Clean n v := by
  simp only [assign, bind_eq_ok, rejectIf_eq_ok, exists_and_right, exists_const, pure, Except.pure,
    Except.ok.injEq] at h
  obtain ⟨filled, hfilled, -, -, -, -, -, -, rfl⟩ := h
  exact clean_fields hfilled hclean (clean_defaults hn (by simp [privateNumber]))

theorem clean_transition (hn : n < 16) (hclean : Clean n raw) (h : transition raw = .ok v) :
    Clean n v := by
  simp only [transition, bind_eq_ok, exists_and_right, pure, Except.pure, Except.ok.injEq] at h
  obtain ⟨filled, hfilled, -, -, rfl⟩ := h
  exact clean_fields hfilled hclean (clean_defaults hn (by simp [privateNumber, emptyText]))

theorem clean_normalize {op : String} (hn : n + 3 ≤ 16) (hclean : Clean n raw)
    (h : normalize isIpv6 op raw resources = .ok (v, resources')) : Clean n v := by
  rw [normalize] at h
  split_ifs at h with hassign htransition hreview hprogress
  · obtain ⟨out, hrun, heq⟩ := map_eq_ok.mp h
    obtain ⟨rfl, rfl⟩ := Prod.mk.inj heq
    exact clean_assign (by omega) hclean hrun
  · obtain ⟨out, hrun, heq⟩ := map_eq_ok.mp h
    obtain ⟨rfl, rfl⟩ := Prod.mk.inj heq
    exact clean_transition (by omega) hclean hrun
  · exact clean_review hn hclean h
  · exact clean_setProgress hn hclean h

end Clean

end WorkProgress
