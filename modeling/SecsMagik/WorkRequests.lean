import SecsMagik.WorkProgress
import SecsMagik.WorkSessions

/-! # Work requests

One named request on a work item or an arena: a closed schema, a payload for each operation that is
completed with its defaults, the canonical bytes that are signed and the resources a policy is asked
about.
-/
namespace WorkRequests

open RustStd
open WireCodec (rejectIf rejectIf_eq_ok)
open ExternalCrates (Crates)
open CanonicalJson (Json)
open JsonMaps StrictJson
open WorkPolicies (identifier kind maxSafe WorkRequest)

def invalidArenaRequest : String := "invalid_arena_request"

def reference (v : Json) : Except String String := do
  exact v ["kind", "id", "expected_version"]
  let label ← text v "kind"
  let id ← text v "id"
  rejectIf (kind label = false ∨ identifier id = false) invalidWorkRequest
  let _ ← positive (v.index "expected_version")
  return label ++ "/" ++ id

def arenaReference (v : Json) : Except String String := do
  exact v ["kind", "id", "expected_version"]
  let label ← text v "kind"
  let id ← text v "id"
  rejectIf (label ≠ "Arena" ∨ identifier id = false) "invalid_arena_reference"
  let _ ← positive (v.index "expected_version")
  return "Arena/" ++ id

/-! ## Creating and patching -/

/-- A new item gets the defaults; a patch must change something. -/
def completed (error : String) (defaults : List (String × Json)) (op id : String)
    (fields : List (String × Json)) : Except String (List (String × Json)) :=
  if op = "create" then do
    rejectIf ((fields.lookup "id").bind Json.asStr ≠ some id ∨ "title" ∉ keys fields) error
    return withDefaults defaults fields
  else do
    rejectIf (fields = []) error
    return fields

/-- The fields of a new item or of a patch. -/
def itemFields (error : String) (allowed : List String) (defaults : List (String × Json))
    (valid : String → Json → Bool) (op id : String) (payload : Json) : Except String Json := do
  let fields ← payload.asObject.elim (.error error) .ok
  rejectIf (∃ key ∈ keys fields, key ∉ allowed ∨ (op = "patch" ∧ key = "id")) error
  let fields ← completed error defaults op id fields
  rejectIf (∃ m ∈ fields, valid m.1 m.2 = false) error
  return .object fields

def isIdentifierList (item : Json) : Bool :=
  item.asArray.any fun items => items.all fun i => i.asStr.any identifier

def isSafeInteger : Json → Bool
  | .int n => n.natAbs ≤ maxSafe.toNat
  | _ => false

def validWorkField (key : String) (item : Json) : Bool :=
  if key = "id" then item.asStr.any identifier
  else if key = "title" then item.asStr.any (· ≠ "")
  else if key = "description" then item.asStr.isSome
  else if key = "priority" then isSafeInteger item
  else if key ∈ ["artifact_ids", "external_link_ids"] then isIdentifierList item
  else false

def workItem (op id : String) (payload : Json) : Except String Json :=
  itemFields invalidWorkRequest
    ["id", "title", "description", "priority", "artifact_ids", "external_link_ids"]
    [("description", .string ""), ("priority", .int 0), ("artifact_ids", .array []),
      ("external_link_ids", .array [])]
    validWorkField op id payload

def validArenaField (key : String) (item : Json) : Bool :=
  if key = "id" then item.asStr.any identifier
  else if key = "title" then item.asStr.any fun s => s ≠ "" && s.toList.length ≤ 4096
  else if key = "description" then item.asStr.any fun s => s.toList.length ≤ 32768
  else false

def arenaItem (op id : String) (payload : Json) : Except String Json :=
  itemFields invalidArenaRequest ["id", "title", "description"] [("description", .string "")]
    validArenaField op id payload

/-! ## Payloads that are checked and kept -/

def sessionState (payload : Json) : Except String Unit := do
  exact payload ["state"]
  let state ← text payload "state"
  rejectIf (state ∉ ["open", "done"]) invalidWorkRequest

def statusChange (payload : Json) : Except String Unit := do
  exact payload ["status"]
  let status ← text payload "status"
  rejectIf (status ∉ ["draft", "review", "accepted", "archived"]) invalidWorkRequest

def proposalReject (label : String) (payload : Json) (resources : List String) :
    Except String (List String) := do
  exact payload ["decision_id", "reason"]
  let reason ← text payload "reason"
  let decision ← text payload "decision_id"
  rejectIf (label ≠ "Proposal" ∨ identifier decision = false ∨ trim reason = "" ∨
    reason.toList.length > 8192) invalidWorkRequest
  return setInsert ("Decision/" ++ decision) resources

def proposalAccept (label : String) (payload : Json) (resources : List String) :
    Except String (List String) := do
  rejectIf (label ≠ "Proposal") invalidWorkRequest
  exact payload ["decision_id", "decision_title"]
  let title ← text payload "decision_title"
  rejectIf (title = "") invalidWorkRequest
  let decision ← text payload "decision_id"
  rejectIf (identifier decision = false) invalidWorkRequest
  return setInsert ("Decision/" ++ decision) resources

def proposalConvert (label : String) (payload : Json) (resources : List String) :
    Except String (List String) := do
  rejectIf (label ≠ "Proposal") invalidWorkRequest
  exact payload ["issue_id", "decision_id"]
  let decision ← text payload "decision_id"
  rejectIf (identifier decision = false) invalidWorkRequest
  let issue ← text payload "issue_id"
  rejectIf (identifier issue = false) invalidWorkRequest
  return setInsert ("Issue/" ++ issue) (setInsert ("Decision/" ++ decision) resources)

def expectedKind (label : String) : Except String (List String) :=
  if label = "Project" then .ok ["Initiative"]
  else if label = "Issue" then .ok ["Initiative", "Project"]
  else if label = "Task" then .ok ["Initiative", "Project", "Issue"]
  else .error invalidWorkRequest

/-- One turn of the loop over the previous and the new parent. -/
def parentStep (expected : List String) (payload : Json) (resources : List String) (key : String) :
    Except String (List String) :=
  let parent := payload.index key
  if parent = .null then .ok resources
  else do
    let resource ← reference parent
    let label ← text parent "kind"
    rejectIf (label ∉ expected) invalidWorkRequest
    return setInsert resource resources

/-- The arena a task leaves when it gets a parent. -/
def previousArena (label : String) (payload : Json) (resources : List String) :
    Except String (List String) :=
  if "previous_arena" ∈ keys (payload.asObject.getD []) then do
    exact payload ["previous_parent", "parent", "previous_arena"]
    if payload.index "previous_arena" = .null then return resources
    else
      rejectIf (label ≠ "Task" ∨ payload.index "parent" = .null) invalidWorkRequest
      let arena ← arenaReference (payload.index "previous_arena")
      return setInsert arena resources
  else do
    exact payload ["previous_parent", "parent"]
    return resources

def parentSet (label : String) (payload : Json) (resources : List String) :
    Except String (List String) := do
  let resources ← previousArena label payload resources
  let expected ← expectedKind label
  rejectIf (payload.index "previous_parent" = .null ∧ payload.index "parent" = .null)
    invalidWorkRequest
  ["previous_parent", "parent"].foldlM (parentStep expected payload) resources

def relation (op label : String) (payload : Json) (resources : List String) :
    Except String (List String) := do
  exact payload ["target"]
  let target := payload.index "target"
  let resource ← reference target
  let targetKind ← text target "kind"
  rejectIf (resource ∈ resources ∨
    (startsWith op "blocker." = true ∧ (label ≠ "Task" ∨ targetKind ≠ "Task"))) invalidWorkRequest
  return setInsert resource resources

/-! ## Requests -/

/-- What an operation makes of a payload and of the resources named so far. -/
abbrev Normalizer := Json → List String → Except String (Json × List String)

/-- The payload is checked and no resource is added. -/
def check (checks : Json → Except String Unit) : Normalizer := fun payload resources =>
  (checks payload).map fun _ => (payload, resources)

/-- The payload is completed and no resource is added. -/
def complete (completes : Json → Except String Json) : Normalizer := fun payload resources =>
  (completes payload).map (·, resources)

def keep (adds : Json → List String → Except String (List String)) : Normalizer :=
  fun payload resources => (adds payload resources).map (payload, ·)

section

variable (crates : Crates) (isIpv6 : String → Bool)

/-- The payload as it is signed and the resources of the request. -/
def workPayload (op label id : String) : Normalizer :=
  if op = "session.state" then check sessionState
  else if op ∈ ["create", "patch"] then complete (workItem op id)
  else if op = "status" then check statusChange
  else if op = "session.attach" then WorkSessions.normalize crates
  else if op ∈ ["archive", "restore"] then check (exact · [])
  else if op ∈ ["workflow.assign", "workflow.review", "workflow.transition", "progress.set"] then
    WorkProgress.normalize isIpv6 op
  else if op = "proposal.reject" then keep (proposalReject label)
  else if op = "accept" then keep (proposalAccept label)
  else if op = "convert" then keep (proposalConvert label)
  else if op = "parent.set" then keep (parentSet label)
  else if op ∈ ["dependency.add", "dependency.remove", "blocker.add", "blocker.remove"] then
    keep (relation op label)
  else fun _ _ => .error invalidWorkRequest

/-- The id of a session: the digest of its identity. -/
def isSessionRef (id : String) : Bool :=
  startsWith id "sr-" && byteLen id = 67 && ((utf8 id).drop 3).all isLowerHexByte

def secondVersionOperations : List String :=
  ["progress.set", "restore", "proposal.reject", "session.attach", "session.state"]

def todoOperations : List String := ["create", "patch", "archive", "restore", "progress.set"]

/-- What is checked of the operation, the label and the id before the payload. -/
def checkHeader (v2 : Bool) (op label id : String) : Except String Unit := do
  rejectIf (¬ (kind label = true ∨ (v2 = true ∧ label ∈ ["Todo", "SessionRef"])) ∨
    identifier id = false) invalidWorkRequest
  rejectIf (¬ (label = "SessionRef" ↔ op = "session.state") ∨
    (label = "SessionRef" ∧ isSessionRef id = false)) invalidWorkRequest
  rejectIf ((v2 = true ∧ op = "status") ∨ (v2 = false ∧ op ∈ secondVersionOperations) ∨
    (label = "Todo" ∧ op ∉ todoOperations)) invalidWorkRequest

/-- Only a `create` expects no version. -/
def checkVersion (error op : String) (expected : Json) : Except String Unit :=
  if op = "create" then rejectIf (expected ≠ .null) error
  else (positive expected).map fun _ => ()

/-- The last steps, common to both schemas. -/
def finish (error : String) (value payload : Json) (operation : String) (resources : List String) :
    Except String WorkRequest := do
  let value := setMember "payload" payload value
  let canonical ← (canonical value).mapError fun _ => error
  rejectIf (canonical.length > 65536) "request_too_large"
  return ⟨value, canonical, operation, resources⟩

def parseWork (v2 : Bool) (value : Json) : Except String WorkRequest := do
  let op ← text value "operation"
  let label ← text value "kind"
  let id ← text value "id"
  checkHeader v2 op label id
  checkVersion invalidWorkRequest op (value.index "expected_version")
  rejectIf ((value.index "payload").isObject = false) invalidWorkRequest
  let (payload, resources) ← workPayload crates isIpv6 op label id (value.index "payload")
    [label ++ "/" ++ id]
  finish invalidWorkRequest value payload
    ("devgraph.work." ++ op ++ if v2 then ".v2" else ".v1") resources

/-- One turn of the loop over the previous and the new arena. -/
def memberStep (payload : Json) (resources : List String) (key : String) :
    Except String (List String) :=
  if payload.index key = .null then .ok resources
  else do
    let arena ← arenaReference (payload.index key)
    return setInsert arena resources

def memberSet (payload : Json) (resources : List String) : Except String (List String) := do
  exact payload ["previous_arena", "arena"]
  rejectIf (payload.index "previous_arena" = .null ∧ payload.index "arena" = .null)
    invalidArenaRequest
  ["previous_arena", "arena"].foldlM (memberStep payload) resources

def arenaPayload (op id : String) : Normalizer :=
  if op ∈ ["create", "patch"] then complete (arenaItem op id)
  else if op = "archive" then check (exact · [])
  else if op = "member.set" then keep memberSet
  else fun _ _ => .error invalidArenaRequest

def parseArena (value : Json) : Except String WorkRequest := do
  let op ← text value "operation"
  let label ← text value "kind"
  let id ← text value "id"
  rejectIf (identifier id = false ∨ op ∉ ["create", "patch", "archive", "member.set"])
    invalidArenaRequest
  rejectIf ((op = "member.set" ∧ label ∉ ["Initiative", "Task"]) ∨
    (op ≠ "member.set" ∧ label ≠ "Arena")) invalidArenaRequest
  checkVersion invalidArenaRequest op (value.index "expected_version")
  rejectIf ((value.index "payload").isObject = false) invalidArenaRequest
  let (payload, resources) ← arenaPayload op id (value.index "payload") [label ++ "/" ++ id]
  finish invalidArenaRequest value payload ("devgraph.arena." ++ op ++ ".v1") resources

def requestFields : List String :=
  ["schema", "operation", "kind", "id", "expected_version", "payload"]

/-- `parse` once the bytes are read. -/
def parseValue (value : Json) : Except String WorkRequest := do
  exact value requestFields
  let schema ← text value "schema"
  if schema = "devgraph.arena-request.v1" then parseArena value
  else
    rejectIf (schema ≠ "devgraph.work-request.v2" ∧ schema ≠ "devgraph.work-request.v1")
      invalidWorkRequest
    parseWork crates isIpv6 (schema = "devgraph.work-request.v2") value

def parse (decode : List UInt8 → Option Json) (raw : List UInt8) : Except String WorkRequest := do
  let value ← strictJson decode raw 131072
  parseValue crates isIpv6 value

end

/-! ## Parsing again -/

section

variable {payload out : Json}

section Items

variable {error : String} {allowed : List String} {defaults : List (String × Json)}
  {valid : String → Json → Bool} {op id : String}

theorem completed_eq_ok {fields out : List (String × Json)} :
    completed error defaults op id fields = .ok out ↔
      (op = "create" ∧ (fields.lookup "id").bind Json.asStr = some id ∧ "title" ∈ keys fields ∧
        withDefaults defaults fields = out) ∨ (op ≠ "create" ∧ fields ≠ [] ∧ fields = out) := by
  rw [completed]
  split
  · next h =>
      simp only [bind_eq_ok, rejectIf_eq_ok, not_or, ne_eq, not_not, pure, Except.pure,
        Except.ok.injEq, exists_const, h, true_and, not_true_eq_false, false_and, or_false,
        and_assoc]
  · next h =>
      simp only [bind_eq_ok, rejectIf_eq_ok, pure, Except.pure, Except.ok.injEq, exists_const, h,
        false_and, not_false_eq_true, true_and, false_or, ne_eq]

theorem itemFields_eq_ok :
    itemFields error allowed defaults valid op id payload = .ok out ↔
      ∃ fields fields', payload = .object fields ∧
        (∀ key ∈ keys fields, key ∈ allowed ∧ ¬ (op = "patch" ∧ key = "id")) ∧
        completed error defaults op id fields = .ok fields' ∧
        (∀ m ∈ fields', valid m.1 m.2 = true) ∧ out = .object fields' := by
  simp only [itemFields, bind_eq_ok, elim_eq_ok, Json.asObject_eq_some, rejectIf_eq_ok, pure,
    Except.pure, Except.ok.injEq, exists_const, not_exists, not_and, not_or, not_not,
    Bool.not_eq_false]
  constructor
  · rintro ⟨fields, hpayload, hkeys, fields', hcompleted, hvalid, rfl⟩
    exact ⟨fields, fields', hpayload, hkeys, hcompleted, hvalid, rfl⟩
  · rintro ⟨fields, fields', hpayload, hkeys, hcompleted, hvalid, rfl⟩
    exact ⟨fields, hpayload, hkeys, fields', hcompleted, hvalid, rfl⟩

/-- Defaults are among the allowed keys and leave the id alone, so a completed item is complete. -/
theorem itemFields_again (hallowed : ∀ key ∈ keys defaults, key ∈ allowed)
    (hid : "id" ∉ keys defaults)
    (h : itemFields error allowed defaults valid op id payload = .ok out) :
    itemFields error allowed defaults valid op id out = .ok out := by
  obtain ⟨fields, fields', -, hkeys, hcompleted, hvalid, rfl⟩ := itemFields_eq_ok.mp h
  rcases completed_eq_ok.mp hcompleted with ⟨hop, hsame, htitle, rfl⟩ | ⟨hop, hne, rfl⟩
  · refine itemFields_eq_ok.mpr ⟨_, _, rfl, ?_, ?_, hvalid, rfl⟩
    · intro key hkey
      rcases mem_keys_withDefaults.mp hkey with hkey | hkey
      · exact ⟨hallowed key hkey, fun hpatch => by simp [hop] at hpatch⟩
      · exact hkeys key hkey
    · refine completed_eq_ok.mpr (.inl ⟨hop, ?_, ?_, withDefaults_withDefaults⟩)
      · rw [lookup_withDefaults hid, hsame]
      · exact mem_keys_withDefaults.mpr (.inr htitle)
  · exact itemFields_eq_ok.mpr ⟨_, _, rfl, hkeys, hcompleted, hvalid, rfl⟩

theorem clean_itemFields {n : ℕ} (hclean : Clean n payload)
    (hdefaults : ∀ m ∈ defaults, m.1 ≠ privateNumber ∧ Clean (n + 1) m.2)
    (h : itemFields error allowed defaults valid op id payload = .ok out) : Clean n out := by
  obtain ⟨fields, fields', rfl, -, hcompleted, -, rfl⟩ := itemFields_eq_ok.mp h
  rcases completed_eq_ok.mp hcompleted with ⟨-, -, -, rfl⟩ | ⟨-, -, rfl⟩
  · exact hclean.withDefaults hdefaults
  · exact hclean

theorem isObject_itemFields (h : itemFields error allowed defaults valid op id payload = .ok out) :
    out.isObject = true := by
  obtain ⟨_, _, -, -, -, -, rfl⟩ := itemFields_eq_ok.mp h
  rfl

end Items

theorem workItem_again {op id : String} (h : workItem op id payload = .ok out) :
    workItem op id out = .ok out :=
  itemFields_again (by decide) (by decide) h

theorem arenaItem_again {op id : String} (h : arenaItem op id payload = .ok out) :
    arenaItem op id out = .ok out :=
  itemFields_again (by decide) (by decide) h

theorem clean_workItem {op id : String} (hclean : Clean 1 payload)
    (h : workItem op id payload = .ok out) : Clean 1 out := by
  refine clean_itemFields hclean ?_ h
  have hzero : Clean 2 (.int 0) := ⟨rfl, by decide⟩
  simp [privateNumber, clean_string, clean_nil, hzero]

theorem clean_arenaItem {op id : String} (hclean : Clean 1 payload)
    (h : arenaItem op id payload = .ok out) : Clean 1 out := by
  refine clean_itemFields hclean ?_ h
  simp [privateNumber, clean_string]

section Payloads

/-- A normalizer takes what it has made as it is, and leaves a strict object one. -/
structure Settles (f : Normalizer) : Prop where
  again : ∀ {payload out resources resources'}, f payload resources = .ok (out, resources') →
    f out resources = .ok (out, resources')
  clean : ∀ {payload out resources resources'}, Clean 1 payload →
    f payload resources = .ok (out, resources') → Clean 1 out
  object : ∀ {payload out resources resources'}, payload.isObject = true →
    f payload resources = .ok (out, resources') → out.isObject = true

theorem settles_of_kept {f : Normalizer}
    (hkept : ∀ {payload out resources resources'},
      f payload resources = .ok (out, resources') → payload = out) : Settles f := by
  constructor
  · intro payload out resources resources' h
    obtain rfl := hkept h
    exact h
  · intro payload out resources resources' hclean h
    obtain rfl := hkept h
    exact hclean
  · intro payload out resources resources' hobject h
    obtain rfl := hkept h
    exact hobject

theorem settles_keep (adds : Json → List String → Except String (List String)) :
    Settles (keep adds) := by
  apply settles_of_kept
  intro payload out resources resources' h
  obtain ⟨_, -, heq⟩ := map_eq_ok.mp h
  exact (Prod.mk.inj heq).1

theorem settles_check (checks : Json → Except String Unit) : Settles (check checks) := by
  apply settles_of_kept
  intro payload out resources resources' h
  obtain ⟨_, -, heq⟩ := map_eq_ok.mp h
  exact (Prod.mk.inj heq).1

theorem settles_complete {completes : Json → Except String Json}
    (hagain : ∀ {payload out}, completes payload = .ok out → completes out = .ok out)
    (hclean : ∀ {payload out}, Clean 1 payload → completes payload = .ok out → Clean 1 out)
    (hobject : ∀ {payload out}, completes payload = .ok out → out.isObject = true) :
    Settles (complete completes) := by
  constructor
  · intro payload out resources resources' h
    obtain ⟨v, hv, heq⟩ := map_eq_ok.mp h
    obtain ⟨rfl, rfl⟩ := Prod.mk.inj heq
    exact map_eq_ok.mpr ⟨v, hagain hv, rfl⟩
  · intro payload out resources resources' hpayload h
    obtain ⟨v, hv, heq⟩ := map_eq_ok.mp h
    obtain ⟨rfl, rfl⟩ := Prod.mk.inj heq
    exact hclean hpayload hv
  · intro payload out resources resources' _ h
    obtain ⟨v, hv, heq⟩ := map_eq_ok.mp h
    obtain ⟨rfl, rfl⟩ := Prod.mk.inj heq
    exact hobject hv

theorem settles_error (e : String) : Settles fun _ _ => .error e := ⟨nofun, nofun, nofun⟩

theorem Settles.ite {c : Prop} [Decidable c] {f g : Normalizer} (hf : Settles f) (hg : Settles g) :
    Settles (if c then f else g) := by
  split
  · exact hf
  · exact hg

theorem settles_workPayload (crates : Crates) (isIpv6 : String → Bool) (op label id : String) :
    Settles (workPayload crates isIpv6 op label id) := by
  rw [workPayload]
  refine Settles.ite (settles_check _) ?_
  refine Settles.ite (settles_complete workItem_again clean_workItem isObject_itemFields) ?_
  refine Settles.ite (settles_check _) ?_
  refine Settles.ite ⟨WorkSessions.normalize_again, WorkSessions.clean_normalize (by decide),
    fun _ => WorkSessions.isObject_normalize⟩ ?_
  refine Settles.ite (settles_check _) ?_
  refine Settles.ite ⟨WorkProgress.normalize_again, WorkProgress.clean_normalize (by decide),
    fun _ => WorkProgress.isObject_normalize⟩ ?_
  refine Settles.ite (settles_keep _) ?_
  refine Settles.ite (settles_keep _) ?_
  refine Settles.ite (settles_keep _) ?_
  refine Settles.ite (settles_keep _) ?_
  exact Settles.ite (settles_keep _) (settles_error _)

theorem settles_arenaPayload (op id : String) : Settles (arenaPayload op id) := by
  rw [arenaPayload]
  refine Settles.ite (settles_complete arenaItem_again clean_arenaItem isObject_itemFields) ?_
  refine Settles.ite (settles_check _) ?_
  exact Settles.ite (settles_keep _) (settles_error _)

end Payloads

variable {request : WorkRequest} {operation : String}

/-- `finish` puts the payload in place and writes the request. -/
theorem finish_eq_ok {error : String} {value payload : Json} {resources : List String} :
    finish error value payload operation resources = .ok request ↔
      canonical (setMember "payload" payload value) = .ok request.canonical ∧
        request.canonical.length ≤ 65536 ∧ request.value = setMember "payload" payload value ∧
        request.operation = operation ∧ request.resources = resources := by
  simp only [finish, bind_eq_ok, mapError_eq_ok, rejectIf_eq_ok, gt_iff_lt, not_lt, exists_const,
    pure, Except.pure, Except.ok.injEq]
  constructor
  · rintro ⟨bytes, hbytes, hlength, rfl⟩
    exact ⟨hbytes, hlength, rfl, rfl, rfl⟩
  · rintro ⟨hbytes, hlength, hvalue, hoperation, hresources⟩
    refine ⟨_, hbytes, hlength, ?_⟩
    rw [← hvalue, ← hoperation, ← hresources]

section Again

variable {crates : Crates} {isIpv6 : String → Bool}

theorem text_congr {v w : Json} {key : String} (h : v.index key = w.index key) :
    text v key = text w key := by
  rw [text, text, h]

theorem exact_eq_ok {v : Json} {fields : List String} {u : Unit} :
    exact v fields = .ok u ↔ ∃ members, v = .object members ∧ members.length = fields.length ∧
      ∀ key ∈ fields, key ∈ keys members := by
  simp only [exact, bind_eq_ok, elim_eq_ok, Json.asObject_eq_some, rejectIf_eq_ok, not_or, ne_eq,
    not_not, not_exists, not_and]

theorem exact_setMember {value payload : Json} {u : Unit} (hclean : Clean 0 value)
    (h : exact value requestFields = .ok u) :
    exact (setMember "payload" payload value) requestFields = .ok u := by
  obtain ⟨members, rfl, hlength, hkeys⟩ := exact_eq_ok.mp h
  have hascending := (clean_object_iff.mp hclean).2.1
  refine exact_eq_ok.mpr ⟨_, rfl, ?_, ?_⟩
  · rw [length_insert hascending (hkeys "payload" (by decide)), hlength]
  · intro key hkey
    exact mem_keys_insert.mpr (.inr (hkeys key hkey))

/-- What a settled payload leaves of a request that has been finished. -/
theorem finish_again {f : Normalizer} (hf : Settles f) {error : String}
    {members : List (String × Json)} {payload : Json} {resources resources' : List String}
    (hobject : ((Json.object members).index "payload").isObject = true)
    (hpayload : f ((Json.object members).index "payload") resources = .ok (payload, resources'))
    (h : finish error (.object members) payload operation resources' = .ok request) :
    (request.value.index "payload").isObject = true ∧
    f (request.value.index "payload") resources = .ok (payload, resources') ∧
    finish error request.value payload operation resources' = .ok request := by
  obtain ⟨hbytes, hlength, hvalue, hoperation, hresources⟩ := finish_eq_ok.mp h
  refine ⟨?_, ?_, ?_⟩
  · rw [hvalue, index_setMember_self]
    exact hf.object hobject hpayload
  · rw [hvalue, index_setMember_self]
    exact hf.again hpayload
  · refine finish_eq_ok.mpr ⟨?_, hlength, ?_, hoperation, hresources⟩
    · rw [hvalue, setMember_setMember_self, hbytes]
    · rw [hvalue, setMember_setMember_self]

theorem clean_finish {f : Normalizer} (hf : Settles f) {error : String} {value payload : Json}
    {resources resources' : List String} (hclean : Clean 0 value)
    (hpayload : f (value.index "payload") resources = .ok (payload, resources'))
    (h : finish error value payload operation resources' = .ok request) :
    Clean 0 request.value := by
  rw [(finish_eq_ok.mp h).2.2.1]
  exact hclean.setMember (by decide) (hf.clean (hclean.index (by decide) "payload") hpayload)

theorem index_finish_ne {error key : String} {value payload : Json} {resources : List String}
    (hkey : key ≠ "payload") (h : finish error value payload operation resources = .ok request) :
    request.value.index key = value.index key := by
  rw [(finish_eq_ok.mp h).2.2.1, index_setMember_ne hkey]

/-- What both parsers do, each with its own header check, payload and name of the operation. -/
def Parses (error : String) (header : String → String → String → Prop)
    (normalize : String → String → String → Normalizer) (named : String → String) (value : Json)
    (request : WorkRequest) : Prop :=
  ∃ op, text value "operation" = .ok op ∧ ∃ label, text value "kind" = .ok label ∧
    ∃ id, text value "id" = .ok id ∧ header op label id ∧
      checkVersion error op (value.index "expected_version") = .ok () ∧
      (value.index "payload").isObject = true ∧ ∃ payload resources,
        normalize op label id (value.index "payload") [label ++ "/" ++ id] =
          .ok (payload, resources) ∧
        finish error value payload (named op) resources = .ok request

theorem parseWork_eq_ok {v2 : Bool} {value : Json} :
    parseWork crates isIpv6 v2 value = .ok request ↔
      Parses invalidWorkRequest (fun op label id => checkHeader v2 op label id = .ok ())
        (workPayload crates isIpv6)
        (fun op => "devgraph.work." ++ op ++ if v2 then ".v2" else ".v1") value request := by
  simp only [parseWork, Parses, bind_eq_ok, rejectIf_eq_ok, Bool.not_eq_false, Prod.exists,
    Unique.exists_iff, PUnit.default_eq_unit]

theorem parseArena_eq_ok {value : Json} :
    parseArena value = .ok request ↔
      Parses invalidArenaRequest
        (fun op label id =>
          ¬ (identifier id = false ∨ op ∉ ["create", "patch", "archive", "member.set"]) ∧
          ¬ ((op = "member.set" ∧ label ∉ ["Initiative", "Task"]) ∨
            (op ≠ "member.set" ∧ label ≠ "Arena")))
        (fun op _ id => arenaPayload op id) (fun op => "devgraph.arena." ++ op ++ ".v1") value
        request := by
  simp only [parseArena, Parses, bind_eq_ok, rejectIf_eq_ok, Bool.not_eq_false, Prod.exists,
    Unique.exists_iff, PUnit.default_eq_unit, and_assoc]

namespace Parses

variable {error : String} {header : String → String → String → Prop}
  {normalize : String → String → String → Normalizer} {named : String → String} {value : Json}
  {request : WorkRequest}

theorem finished (h : Parses error header normalize named value request) :
    ∃ payload operation resources,
      finish error value payload operation resources = .ok request := by
  obtain ⟨op, -, _, -, _, -, -, -, -, payload, resources, -, hfinish⟩ := h
  exact ⟨payload, named op, resources, hfinish⟩

theorem again (hsettles : ∀ op label id, Settles (normalize op label id))
    {members : List (String × Json)}
    (h : Parses error header normalize named (.object members) request) :
    Parses error header normalize named request.value request := by
  obtain ⟨op, hop, label, hlabel, id, hid, hheader, hversion, hobject, payload, resources, hpayload,
    hfinish⟩ := h
  obtain ⟨hobject, hpayload, hagain⟩ :=
    finish_again (hsettles op label id) hobject hpayload hfinish
  have hindex : ∀ key, key ≠ "payload" →
      request.value.index key = (Json.object members).index key :=
    fun key hkey => index_finish_ne hkey hfinish
  refine ⟨op, ?_, label, ?_, id, ?_, hheader, ?_, hobject, payload, resources, hpayload, hagain⟩
  · rw [text_congr (hindex "operation" (by decide)), hop]
  · rw [text_congr (hindex "kind" (by decide)), hlabel]
  · rw [text_congr (hindex "id" (by decide)), hid]
  · rw [hindex "expected_version" (by decide), hversion]

theorem clean (hsettles : ∀ op label id, Settles (normalize op label id)) (hclean : Clean 0 value)
    (h : Parses error header normalize named value request) : Clean 0 request.value := by
  obtain ⟨op, -, label, -, id, -, -, -, -, payload, resources, hpayload, hfinish⟩ := h
  exact clean_finish (hsettles op label id) hclean hpayload hfinish

end Parses

/-- Every request comes from `finish`: it is written and within the bound. -/
theorem length_canonical_le {value : Json} (h : parseValue crates isIpv6 value = .ok request) :
    ∃ payload, request.value = setMember "payload" payload value ∧
      canonical request.value = .ok request.canonical ∧ request.canonical.length ≤ 65536 := by
  have hfinished : ∃ error payload operation resources,
      finish error value payload operation resources = .ok request := by
    simp only [parseValue, bind_eq_ok] at h
    obtain ⟨-, -, schema, -, h⟩ := h
    split_ifs at h
    · exact ⟨_, (parseArena_eq_ok.mp h).finished⟩
    · obtain ⟨-, -, hwork⟩ := bind_eq_ok.mp h
      exact ⟨_, (parseWork_eq_ok.mp hwork).finished⟩
  obtain ⟨error, payload, operation, resources, hfinish⟩ := hfinished
  obtain ⟨hbytes, hlength, hvalue, -, -⟩ := finish_eq_ok.mp hfinish
  exact ⟨payload, hvalue, by rw [hvalue, hbytes], hlength⟩

theorem parseValue_again {value : Json} (hclean : Clean 0 value)
    (h : parseValue crates isIpv6 value = .ok request) :
    parseValue crates isIpv6 request.value = .ok request ∧ Clean 0 request.value := by
  obtain ⟨payload, hvalue, -, -⟩ := length_canonical_le h
  have hschema : text request.value "schema" = text value "schema" := by
    apply text_congr
    rw [hvalue, index_setMember_ne (by decide)]
  simp only [parseValue, bind_eq_ok] at h ⊢
  obtain ⟨u, hexact, schema, htext, h⟩ := h
  have hexact' : exact request.value requestFields = .ok u := by
    rw [hvalue]
    exact exact_setMember hclean hexact
  obtain ⟨members, rfl, -, -⟩ := exact_eq_ok.mp hexact
  rw [hschema]
  split_ifs at h with harena
  · have hsettles := fun op (_ : String) id => settles_arenaPayload op id
    have hparses := parseArena_eq_ok.mp h
    refine ⟨⟨u, hexact', schema, htext, ?_⟩, hparses.clean hsettles hclean⟩
    rw [if_pos harena]
    exact parseArena_eq_ok.mpr (hparses.again hsettles)
  · obtain ⟨u', hreject, hwork⟩ := bind_eq_ok.mp h
    have hsettles := settles_workPayload crates isIpv6
    have hparses := parseWork_eq_ok.mp hwork
    refine ⟨⟨u, hexact', schema, htext, ?_⟩, hparses.clean hsettles hclean⟩
    rw [if_neg harena]
    exact bind_eq_ok.mpr ⟨u', hreject, parseWork_eq_ok.mpr (hparses.again hsettles)⟩

/-- Parsing the canonical bytes of an accepted request gives the request again, if the canonical
text of its value is read back as that value. -/
theorem parse_canonical {decode : List UInt8 → Option Json} {raw : List UInt8}
    {request : WorkRequest} (h : parse crates isIpv6 decode raw = .ok request)
    (hdecode : decode request.canonical = some request.value) :
    parse crates isIpv6 decode request.canonical = .ok request := by
  obtain ⟨value, hread, hvalue⟩ := bind_eq_ok.mp h
  obtain ⟨-, -, -, hlength⟩ := length_canonical_le hvalue
  obtain ⟨hagain, hclean⟩ := parseValue_again (clean_of_strictJson hread) hvalue
  refine bind_eq_ok.mpr ⟨request.value, ?_, hagain⟩
  exact strictJson_of_clean (hlength.trans (by decide)) hdecode hclean

end Again

end

namespace Sample

def tree : Json :=
  .object [("expected_version", .int 1), ("id", .string "a"), ("kind", .string "Task"),
    ("operation", .string "workflow.transition"), ("payload", .object [("stage", .string "x")]),
    ("schema", .string "devgraph.work-request.v1")]

def completedTree : Json :=
  .object [("expected_version", .int 1), ("id", .string "a"), ("kind", .string "Task"),
    ("operation", .string "workflow.transition"),
    ("payload", .object [("reason", .string ""), ("stage", .string "x")]),
    ("schema", .string "devgraph.work-request.v1")]

/-- A parser that knows the two texts. -/
def decode (raw : List UInt8) : Option Json := [tree, completedTree].find? (·.bytes = raw)

def request : WorkRequest :=
  ⟨completedTree, (canonical completedTree).toOption.getD [],
    "devgraph.work.workflow.transition.v1", ["Task/a"]⟩

theorem transition_canonical :
    parse Crates.transparent (fun _ => false) decode tree.bytes = .ok request ∧
      request.value ≠ tree ∧ decode request.canonical = some request.value ∧
      parse Crates.transparent (fun _ => false) decode request.canonical = .ok request := by
  have hparse : parse Crates.transparent (fun _ => false) decode tree.bytes = .ok request := by
    decide +kernel
  have hdecode : decode request.canonical = some request.value := by decide +kernel
  exact ⟨hparse, by decide, hdecode, parse_canonical hparse hdecode⟩

end Sample

end WorkRequests
