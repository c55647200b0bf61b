import SecsMagik.PublicAudit
import SecsMagik.WorkRequests

/-! # The vocabulary of requests and policies

A request names its operation and its resources by formatting, a policy reads those of its rules by
splitting. Whatever a parsed request names, a rule may name too.
-/
namespace WorkVocabulary

open RustStd
open WireCodec (rejectIf rejectIf_eq_ok)
open ExternalCrates (Crates)
open CanonicalJson (Json)
open JsonMaps StrictJson WorkPolicies WorkRequests

/-! ## Resources -/

def Ruled (resource : String) : Prop :=
  ∃ label id, (kind label = true ∨ label ∈ ruleLabels) ∧ identifier id = true ∧
    resource = label ++ "/" ++ id

theorem ruled_of_label (label : String) {id : String} (hlabel : label ∈ ruleLabels)
    (hid : identifier id = true) : Ruled (label ++ "/" ++ id) := ⟨label, id, .inr hlabel, hid, rfl⟩

theorem splitOnce_slash {label id : String} (h : '/' ∉ label.toList) :
    splitOnce (label ++ "/" ++ id) '/' = some (label, id) := by
  have hpass : ∀ c ∈ label.toList, decide (c ≠ '/') = true := by
    intro c hc
    rw [decide_eq_true_eq]
    rintro rfl
    exact h hc
  have hlist : (label ++ "/" ++ id).toList = label.toList ++ '/' :: id.toList := by
    rw [String.toList_append, String.toList_append, List.append_assoc]
    rfl
  rw [splitOnce, chars_eq, hlist, List.span_eq_takeWhile_dropWhile,
    List.takeWhile_append_of_pos hpass, List.dropWhile_append_of_pos hpass]
  simp

variable {resource : String}

theorem ruleResource_of_ruled (h : Ruled resource) :
    ∃ label id, splitOnce resource '/' = some (label, id) ∧
      ruleResource label id "exact" = true := by
  obtain ⟨label, id, hlabel, hid, rfl⟩ := h
  have hslash : '/' ∉ label.toList := by
    have hall : ∀ label ∈ ["Proposal", "Initiative", "Project", "Issue", "Task"] ++ ruleLabels,
        '/' ∉ label.toList := by decide
    apply hall label
    rw [List.mem_append]
    exact hlabel.imp_left fun hkind => by simpa [kind] using hkind
  refine ⟨label, id, splitOnce_slash hslash, ?_⟩
  simpa [ruleResource, hid] using hlabel

/-- The resources grew by at most `n`, and by ones that a rule may name. -/
structure Extends (n : ℕ) (resources resources' : List String) : Prop where
  kept : ∀ r ∈ resources, r ∈ resources'
  ruled : ∀ r ∈ resources', r ∈ resources ∨ Ruled r
  length_le : resources'.length ≤ resources.length + n

theorem Extends.refl (n : ℕ) (resources : List String) : Extends n resources resources :=
  ⟨fun _ h => h, fun _ h => .inl h, Nat.le_add_right _ _⟩

theorem Extends.mono {m n : ℕ} {a b : List String} (h : Extends m a b) (hle : m ≤ n) :
    Extends n a b := by
  refine ⟨h.kept, h.ruled, ?_⟩
  have := h.length_le
  omega

theorem Extends.trans {m n : ℕ} {a b c : List String} (hab : Extends m a b) (hbc : Extends n b c) :
    Extends (m + n) a c := by
  refine ⟨fun r hr => hbc.kept r (hab.kept r hr), ?_, ?_⟩
  · intro r hr
    rcases hbc.ruled r hr with hr | hr
    · exact hab.ruled r hr
    · exact .inr hr
  · have h₁ := hab.length_le
    have h₂ := hbc.length_le
    omega

theorem extends_setInsert {r : String} (h : Ruled r) (resources : List String) :
    Extends 1 resources (setInsert r resources) := by
  refine ⟨fun r hr => mem_setInsert.mpr (.inr hr), ?_, length_setInsert_le r resources⟩
  intro r' hr'
  rcases mem_setInsert.mp hr' with rfl | hr'
  · exact .inr h
  · exact .inl hr'

/-! ## Session identities -/

theorem isLowerAlnum_of_hex {b : UInt8} (h : isLowerHexByte b = true) : isLowerAlnum b = true := by
  simp only [isLowerHexByte, isLowerAlnum, isAsciiLowercase, Bool.or_eq_true, Bool.and_eq_true,
    decide_eq_true_eq] at h ⊢
  rcases h with h | ⟨hlow, hhigh⟩
  · exact .inr h
  · exact .inl ⟨hlow, UInt8.le_trans hhigh (by decide)⟩

/-- A digest after a head such as `sr-` is an identifier. -/
theorem identifier_digest {head : String} (hlength : byteLen head ≤ 192)
    (hfirst : (utf8 head).head?.any isLowerAlnum = true)
    (hall : (utf8 head).all fun b => isLowerAlnum b || b == 45) (crates : Crates) (text : String) :
    identifier (head ++ WorkSessions.hexDigestOf crates text) = true := by
  have hhex := PublicAudit.lowerHex_isLowerHex (crates.sha256 (utf8 text)).val
  have hdigest : (utf8 (WorkSessions.hexDigestOf crates text)).length = 64 := by
    have hlen := PublicAudit.byteLen_lowerHex (crates.sha256 (utf8 text)).val
    rw [(crates.sha256 (utf8 text)).property] at hlen
    exact hlen
  have hnonempty : utf8 (WorkSessions.hexDigestOf crates text) ≠ [] := by
    intro hnil
    rw [hnil] at hdigest
    exact absurd hdigest (by decide)
  rw [byteLen] at hlength
  simp only [identifier, utf8_append, Bool.and_eq_true, decide_eq_true_eq, List.all_append,
    List.length_append, List.all_eq_true]
  refine ⟨⟨⟨⟨?_, by omega⟩, ?_⟩, ?_⟩, List.all_eq_true.mp hall, ?_⟩
  · exact List.append_ne_nil_of_right_ne_nil _ hnonempty
  · cases hhead : utf8 head with
    | nil => rw [hhead] at hfirst; exact absurd hfirst (by simp)
    | cons b rest => rw [hhead] at hfirst; exact hfirst
  · rw [List.getLast?_append_of_ne_nil _ hnonempty, List.getLast?_eq_some_getLast hnonempty]
    exact isLowerAlnum_of_hex (hhex _ (List.getLast_mem hnonempty))
  · intro b hb
    rw [isLowerAlnum_of_hex (hhex b hb), Bool.true_or]

theorem identity_eq_ok {crates : Crates} {value : Json} {id : String}
    (h : WorkSessions.identity crates value = .ok id) : identifier id = true := by
  simp only [WorkSessions.identity, bind_eq_ok, pure, Except.pure, Except.ok.injEq] at h
  obtain ⟨-, -, _, -, _, -, _, -, -, -, rfl⟩ := h
  exact identifier_digest (by decide) (by decide) (by decide) _ _

/-! ## What each operation adds -/

section Operations

variable {crates : Crates} {isIpv6 : String → Bool} {payload out : Json}
  {resources resources' : List String}

theorem extends_linkResources {session : String} {link : Json}
    (h : WorkSessions.linkResources crates session link resources = .ok resources') :
    Extends 3 resources resources' := by
  simp only [WorkSessions.linkResources, bind_eq_ok, pure, Except.pure, Except.ok.injEq] at h
  obtain ⟨-, -, -, -, origin, horigin, target, htarget, _, -, _, -, _, -, -, -, _, -, _, -,
    rfl⟩ := h
  have hlink : ∀ text, Ruled ("SessionLink/sl-" ++ WorkSessions.hexDigestOf crates text) := by
    intro text
    have hid := @identifier_digest "sl-" (by decide) (by decide) (by decide) crates text
    refine ⟨"SessionLink", _, .inr (by decide), hid, ?_⟩
    rw [← String.append_assoc]
    rfl
  have horigin := ruled_of_label "SessionRef" (by decide) (identity_eq_ok horigin)
  have htarget := ruled_of_label "SessionRef" (by decide) (identity_eq_ok htarget)
  exact ((extends_setInsert (hlink _) resources).trans (extends_setInsert horigin _)).trans
    (extends_setInsert htarget _)

theorem extends_attach
    (h : WorkSessions.normalize crates payload resources = .ok (out, resources')) :
    Extends 4 resources resources' := by
  obtain ⟨-, -, -, hattach⟩ := WorkSessions.normalize_eq_ok.mp h
  simp only [WorkSessions.attach, bind_eq_ok] at hattach
  obtain ⟨-, -, session, hsession, _, -, _, -, -, -, hlink⟩ := hattach
  have hsession := extends_setInsert
    (ruled_of_label "SessionRef" (by decide) (identity_eq_ok hsession)) resources
  split_ifs at hlink with hnull
  · cases hlink
    exact hsession.mono (by decide)
  · exact hsession.trans (extends_linkResources hlink)

theorem identifier_of_id {value : Json} {field id : String}
    (h : WorkProgress.id value field = .ok id) : identifier id = true := by
  simp only [WorkProgress.id, bind_eq_ok, rejectIf_eq_ok, pure, Except.pure, Except.ok.injEq,
    Bool.not_eq_false, exists_const] at h
  obtain ⟨_, -, hid, rfl⟩ := h
  exact hid

theorem extends_checkEvidence {ids ids' : List String} {e : Json}
    (h : WorkProgress.checkEvidence isIpv6 (ids, resources) e = .ok (ids', resources')) :
    Extends 1 resources resources' := by
  simp only [WorkProgress.checkEvidence, bind_eq_ok] at h
  obtain ⟨key, hkey, -, -, _, -, url, -, h⟩ := h
  split_ifs at h with hurl
  · obtain ⟨-, -, heq⟩ := bind_eq_ok.mp h
    cases heq
    exact Extends.refl 1 resources
  · obtain ⟨-, -, heq⟩ := bind_eq_ok.mp h
    cases heq
    exact extends_setInsert
      (ruled_of_label "ExternalLink" (by decide) (identifier_of_id hkey)) resources

theorem extends_collect {required : List String} {optional : List (String × Json)}
    {items items' : List Json} {ids ids' : List String}
    (h : WorkProgress.collect required optional (WorkProgress.checkEvidence isIpv6) items
      (ids, resources) = .ok (items', ids', resources')) :
    Extends items.length resources resources' := by
  induction items generalizing items' ids resources with
  | nil =>
    cases h
    exact Extends.refl 0 _
  | cons item rest ih =>
    obtain ⟨v, ⟨next, nextResources⟩, tail, -, hcheck, hrest, -⟩ :=
      WorkProgress.collect_cons_eq_ok.mp h
    rw [List.length_cons, Nat.add_comm]
    exact (extends_checkEvidence hcheck).trans (ih hrest)

theorem extends_reviewFields
    (h : WorkProgress.reviewFields isIpv6 payload resources = .ok (out, resources')) :
    Extends 51 resources resources' := by
  obtain ⟨record, hrecord, label, hlabel, _, -, _, -, evidence, hevidence, _, _, _, hcollect, _, -,
    _, _, -, _, -, _, _, -, -, rfl⟩ := WorkProgress.reviewFields_eq_ok.mp h
  have hlabel : label ∈ ruleLabels := by
    rw [WorkProgress.recordType] at hlabel
    split_ifs at hlabel
    all_goals
      cases hlabel
      decide
  have hbound : evidence.length ≤ 50 := (WorkProgress.array_eq_ok.mp hevidence).2
  exact ((extends_setInsert (ruled_of_label label hlabel (identifier_of_id hrecord))
    resources).trans (extends_collect hcollect)).mono (by omega)

theorem extends_progress {op : String}
    (h : WorkProgress.normalize isIpv6 op payload resources = .ok (out, resources')) :
    Extends 51 resources resources' := by
  rw [WorkProgress.normalize] at h
  split_ifs at h with hassign htransition hreview hprogress
  · obtain ⟨_, -, heq⟩ := map_eq_ok.mp h
    cases heq
    exact Extends.refl 51 resources
  · obtain ⟨_, -, heq⟩ := map_eq_ok.mp h
    cases heq
    exact Extends.refl 51 resources
  · obtain ⟨_, -, hreview⟩ := bind_eq_ok.mp h
    exact extends_reviewFields hreview
  · obtain ⟨_, -, -, _, -, -, _, _, hreview, -, rfl⟩ := WorkProgress.setProgress_eq_ok.mp h
    obtain ⟨_, -, hreview⟩ := bind_eq_ok.mp hreview
    exact extends_reviewFields hreview

theorem ruled_reference {v : Json} (h : reference v = .ok resource) :
    Ruled resource := by
  simp only [reference, bind_eq_ok, rejectIf_eq_ok, not_or, Bool.not_eq_false, exists_const, pure,
    Except.pure, Except.ok.injEq] at h
  obtain ⟨-, -, label, -, id, -, ⟨hkind, hid⟩, -, -, rfl⟩ := h
  exact ⟨label, id, .inl hkind, hid, rfl⟩

theorem ruled_arenaReference {v : Json} (h : arenaReference v = .ok resource) : Ruled resource := by
  simp only [arenaReference, bind_eq_ok, rejectIf_eq_ok, not_or, Bool.not_eq_false, exists_const,
    pure, Except.pure, Except.ok.injEq] at h
  obtain ⟨-, -, label, -, id, -, ⟨-, hid⟩, -, -, rfl⟩ := h
  exact ruled_of_label "Arena" (by decide) hid

variable {label : String}

theorem extends_proposalReject (h : proposalReject label payload resources = .ok resources') :
    Extends 1 resources resources' := by
  simp only [proposalReject, bind_eq_ok, rejectIf_eq_ok, not_or, Bool.not_eq_false, exists_const,
    pure, Except.pure, Except.ok.injEq] at h
  obtain ⟨-, -, _, -, decision, -, ⟨-, hid, -⟩, rfl⟩ := h
  exact extends_setInsert (ruled_of_label "Decision" (by decide) hid) resources

theorem extends_proposalAccept (h : proposalAccept label payload resources = .ok resources') :
    Extends 1 resources resources' := by
  simp only [proposalAccept, bind_eq_ok, rejectIf_eq_ok, Bool.not_eq_false, exists_const, pure,
    Except.pure, Except.ok.injEq] at h
  obtain ⟨-, -, -, _, -, -, decision, -, hid, rfl⟩ := h
  exact extends_setInsert (ruled_of_label "Decision" (by decide) hid) resources

theorem extends_proposalConvert (h : proposalConvert label payload resources = .ok resources') :
    Extends 2 resources resources' := by
  simp only [proposalConvert, bind_eq_ok, rejectIf_eq_ok, Bool.not_eq_false, exists_const, pure,
    Except.pure, Except.ok.injEq] at h
  obtain ⟨-, -, -, decision, -, hdecision, issue, -, hissue, rfl⟩ := h
  have hruled : Ruled ("Issue/" ++ issue) := ⟨"Issue", issue, .inl (by decide), hissue, rfl⟩
  exact (extends_setInsert (ruled_of_label "Decision" (by decide) hdecision)
    resources).trans (extends_setInsert hruled _)

theorem extends_parentStep {expected : List String} {key : String}
    (h : parentStep expected payload resources key = .ok resources') :
    Extends 1 resources resources' := by
  simp only [parentStep] at h
  split_ifs at h with hnull
  · cases h
    exact Extends.refl 1 resources
  · simp only [bind_eq_ok, pure, Except.pure, Except.ok.injEq] at h
    obtain ⟨resource, hresource, _, -, -, -, rfl⟩ := h
    exact extends_setInsert (ruled_reference hresource) resources

theorem extends_previousArena (h : previousArena label payload resources = .ok resources') :
    Extends 1 resources resources' := by
  rw [previousArena] at h
  split_ifs at h with hpresent hnull
  · obtain ⟨-, -, heq⟩ := bind_eq_ok.mp h
    cases heq
    exact Extends.refl 1 resources
  · simp only [bind_eq_ok, pure, Except.pure, Except.ok.injEq] at h
    obtain ⟨-, -, -, -, arena, harena, rfl⟩ := h
    exact extends_setInsert (ruled_arenaReference harena) resources
  · obtain ⟨-, -, heq⟩ := bind_eq_ok.mp h
    cases heq
    exact Extends.refl 1 resources

/-- A loop over keys each of which adds at most one resource. -/
theorem extends_foldlM {step : List String → String → Except String (List String)}
    (hstep : ∀ {key resources resources'}, step resources key = .ok resources' →
      Extends 1 resources resources') {ks : List String}
    (h : ks.foldlM step resources = .ok resources') : Extends ks.length resources resources' := by
  induction ks generalizing resources with
  | nil =>
    cases h
    exact Extends.refl 0 _
  | cons key rest ih =>
    rw [List.foldlM_cons] at h
    obtain ⟨next, hnext, hrest⟩ := bind_eq_ok.mp h
    rw [List.length_cons, Nat.add_comm]
    exact (hstep hnext).trans (ih hrest)

theorem extends_parentSet (h : parentSet label payload resources = .ok resources') :
    Extends 3 resources resources' := by
  simp only [parentSet, bind_eq_ok] at h
  obtain ⟨next, hnext, expected, -, -, -, hloop⟩ := h
  exact (extends_previousArena hnext).trans (extends_foldlM extends_parentStep hloop)

theorem extends_relation {op label : String}
    (h : relation op label payload resources = .ok resources') :
    Extends 1 resources resources' := by
  simp only [relation, bind_eq_ok, pure, Except.pure, Except.ok.injEq] at h
  obtain ⟨-, -, resource, hresource, _, -, -, -, rfl⟩ := h
  exact extends_setInsert (ruled_reference hresource) resources

theorem extends_memberSet (h : memberSet payload resources = .ok resources') :
    Extends 2 resources resources' := by
  simp only [memberSet, bind_eq_ok] at h
  obtain ⟨-, -, -, -, hloop⟩ := h
  apply extends_foldlM _ hloop
  intro key resources resources' hstep
  simp only [memberStep] at hstep
  split_ifs at hstep with hnull
  · cases hstep
    exact Extends.refl 1 resources
  · obtain ⟨arena, harena, heq⟩ := bind_eq_ok.mp hstep
    cases heq
    exact extends_setInsert (ruled_arenaReference harena) resources

end Operations

/-! ## What a request names -/

section Requests

variable {crates : Crates} {isIpv6 : String → Bool}

/-- A normalizer adds at most so many resources. -/
def Adds (n : ℕ) (f : Normalizer) : Prop :=
  ∀ payload out resources resources', f payload resources = .ok (out, resources') →
    Extends n resources resources'

theorem Adds.ite {n : ℕ} {c : Prop} [Decidable c] {f g : Normalizer} (hf : Adds n f)
    (hg : Adds n g) : Adds n (if c then f else g) := by
  split
  · exact hf
  · exact hg

theorem adds_check (n : ℕ) (checks : Json → Except String Unit) : Adds n (check checks) := by
  intro payload out resources resources' h
  obtain ⟨_, -, heq⟩ := map_eq_ok.mp h
  cases heq
  exact Extends.refl n resources

theorem adds_complete (n : ℕ) (completes : Json → Except String Json) :
    Adds n (complete completes) := by
  intro payload out resources resources' h
  obtain ⟨_, -, heq⟩ := map_eq_ok.mp h
  cases heq
  exact Extends.refl n resources

theorem adds_keep {m n : ℕ} {adds : Json → List String → Except String (List String)}
    (h : ∀ {payload resources resources'}, adds payload resources = .ok resources' →
      Extends m resources resources') (hle : m ≤ n) : Adds n (keep adds) := by
  intro payload out resources resources' hrun
  obtain ⟨next, hnext, heq⟩ := map_eq_ok.mp hrun
  cases heq
  exact (h hnext).mono hle

theorem adds_error (n : ℕ) (e : String) : Adds n fun _ _ => .error e := by
  intro payload out resources resources' h
  cases h

theorem adds_workPayload (op label id : String) :
    Adds 51 (workPayload crates isIpv6 op label id) := by
  rw [workPayload]
  refine Adds.ite (adds_check 51 _) ?_
  refine Adds.ite (adds_complete 51 _) ?_
  refine Adds.ite (adds_check 51 _) ?_
  refine Adds.ite (fun _ _ _ _ h => (extends_attach h).mono (by decide)) ?_
  refine Adds.ite (adds_check 51 _) ?_
  refine Adds.ite (fun _ _ _ _ => extends_progress) ?_
  refine Adds.ite (adds_keep extends_proposalReject (by decide)) ?_
  refine Adds.ite (adds_keep extends_proposalAccept (by decide)) ?_
  refine Adds.ite (adds_keep extends_proposalConvert (by decide)) ?_
  refine Adds.ite (adds_keep extends_parentSet (by decide)) ?_
  exact Adds.ite (adds_keep extends_relation (by decide)) (adds_error 51 _)

theorem adds_arenaPayload (op id : String) : Adds 51 (arenaPayload op id) := by
  rw [arenaPayload]
  refine Adds.ite (adds_complete 51 _) ?_
  refine Adds.ite (adds_check 51 _) ?_
  exact Adds.ite (adds_keep extends_memberSet (by decide)) (adds_error 51 _)

/-- What a policy has to speak about: a named operation and some resources a rule may name. -/
structure Named (request : WorkRequest) : Prop where
  operation : namedOperation request.operation = true
  ruled : ∀ resource ∈ request.resources, Ruled resource
  nonempty : request.resources ≠ []
  length_le : request.resources.length ≤ 1000

variable {request : WorkRequest}

theorem named_of_extends {first : String} (hfirst : Ruled first)
    (h : Extends 51 [first] request.resources)
    (hoperation : namedOperation request.operation = true) : Named request := by
  refine ⟨hoperation, ?_, ?_, ?_⟩
  · intro resource hresource
    rcases h.ruled resource hresource with hr | hr
    · rwa [List.mem_singleton.mp hr]
    · exact hr
  · exact List.ne_nil_of_mem (h.kept first List.mem_cons_self)
  · exact h.length_le.trans (by simp)

theorem workPayload_unknown {op : String} (h : op ∉ sharedOperations ++ secondVersionOnly)
    (label id : String) :
    workPayload crates isIpv6 op label id = fun _ _ => .error invalidWorkRequest := by
  simp only [sharedOperations, secondVersionOnly, List.cons_append, List.nil_append, List.mem_cons,
    List.not_mem_nil, or_false, not_or] at h
  simp [workPayload, h]

theorem stripSuffix_first (s : String) : stripSuffix (s ++ ".v2") ".v1" = none := by
  have hends : endsWith (s ++ ".v2") ".v1" = false := by
    rw [Bool.eq_false_iff, Ne, endsWith_iff, String.toList_append]
    intro h
    have hlast := List.suffix_or_suffix_of_suffix h (List.suffix_append s.toList ".v2".toList)
    exact absurd hlast (by decide)
  rw [stripSuffix, hends]
  rfl

theorem stripPrefix_arena (rest : String) :
    stripPrefix ("devgraph.work." ++ rest) "devgraph.arena." = none := by
  have hstarts : startsWith ("devgraph.work." ++ rest) "devgraph.arena." = false := by
    rw [startsWith, chars_eq, chars_eq, String.toList_append]
    rfl
  rw [stripPrefix, hstarts]
  rfl

/-- An operation of a work request is read back by the policy. -/
theorem namedOperation_format (op : String) (v2 : Bool) :
    namedOperation ("devgraph.work." ++ op ++ if v2 then ".v2" else ".v1") =
      namedWorkOperation op (if v2 then 2 else 1) := by
  rw [String.append_assoc, namedOperation, stripPrefix_arena, stripPrefix_append]
  cases v2 with
  | false => simp [stripSuffix_append]
  | true => simp [stripSuffix_append, stripSuffix_first]

theorem namedOperation_work {op label id : String} {v2 : Bool} {u : Unit}
    (hknown : op ∈ sharedOperations ++ secondVersionOnly)
    (hheader : checkHeader v2 op label id = .ok u) :
    namedOperation ("devgraph.work." ++ op ++ if v2 then ".v2" else ".v1") = true := by
  have hall : ∀ op ∈ sharedOperations ++ secondVersionOnly, ∀ v2 : Bool,
      ¬ (v2 = true ∧ op = "status") → ¬ (v2 = false ∧ op ∈ secondVersionOperations) →
        namedWorkOperation op (if v2 then 2 else 1) = true := by
    decide
  simp only [checkHeader, bind_eq_ok, rejectIf_eq_ok, not_or] at hheader
  obtain ⟨-, -, -, -, hstatus, hsecond, -⟩ := hheader
  rw [namedOperation_format]
  exact hall op hknown v2 hstatus hsecond

theorem named_parseWork {v2 : Bool} {value : Json}
    (h : parseWork crates isIpv6 v2 value = .ok request) : Named request := by
  obtain ⟨op, -, label, -, id, -, hheader, -, -, payload, resources, hpayload, hfinish⟩ :=
    parseWork_eq_ok.mp h
  obtain ⟨-, -, -, hoperation, rfl⟩ := finish_eq_ok.mp hfinish
  have hknown : op ∈ sharedOperations ++ secondVersionOnly := by
    by_contra hunknown
    rw [workPayload_unknown hunknown] at hpayload
    cases hpayload
  have hfirst : Ruled (label ++ "/" ++ id) := by
    simp only [checkHeader, bind_eq_ok, rejectIf_eq_ok, not_or, not_not,
      Bool.not_eq_false] at hheader
    obtain ⟨-, ⟨hlabel, hid⟩, -⟩ := hheader
    refine ⟨label, id, (or_iff_not_and_not.mpr hlabel).imp_right ?_, hid, rfl⟩
    rintro ⟨-, hlabel⟩
    have hall : ∀ label ∈ ["Todo", "SessionRef"], label ∈ ruleLabels := by decide
    exact hall label hlabel
  refine named_of_extends hfirst (adds_workPayload op label id _ _ _ _ hpayload) ?_
  rw [hoperation]
  exact namedOperation_work hknown hheader

theorem named_parseArena {value : Json} (h : parseArena value = .ok request) : Named request := by
  obtain ⟨op, -, label, -, id, -, ⟨hknown, hkind⟩, -, -, payload, resources, hpayload, hfinish⟩ :=
    parseArena_eq_ok.mp h
  simp only [not_or, not_not, Bool.not_eq_false] at hknown hkind
  obtain ⟨⟨hid, hknown⟩, hmember, hother⟩ := And.intro hknown hkind
  obtain ⟨-, -, -, hoperation, rfl⟩ := finish_eq_ok.mp hfinish
  have hfirst : Ruled (label ++ "/" ++ id) := by
    refine ⟨label, id, ?_, hid, rfl⟩
    by_cases hop : op = "member.set"
    · have hall : ∀ label ∈ ["Initiative", "Task"], kind label = true := by decide
      exact .inl (hall label (by_contra fun hlabel => hmember ⟨hop, hlabel⟩))
    · have hlabel : label = "Arena" := by_contra fun hlabel => hother ⟨hop, hlabel⟩
      rw [hlabel]
      exact .inr (by decide)
  refine named_of_extends hfirst (adds_arenaPayload op id _ _ _ _ hpayload) ?_
  have hall : ∀ op ∈ ["create", "patch", "archive", "member.set"],
      namedOperation ("devgraph.arena." ++ op ++ ".v1") = true := by decide
  rw [hoperation]
  exact hall op hknown

theorem named_parse {decode : List UInt8 → Option Json} {raw : List UInt8}
    (h : parse crates isIpv6 decode raw = .ok request) : Named request := by
  obtain ⟨value, -, hvalue⟩ := bind_eq_ok.mp h
  simp only [parseValue, bind_eq_ok] at hvalue
  obtain ⟨-, -, schema, -, hvalue⟩ := hvalue
  split_ifs at hvalue
  · exact named_parseArena hvalue
  · obtain ⟨-, -, hwork⟩ := bind_eq_ok.mp hvalue
    exact named_parseWork hwork

end Requests

/-! ## The policy of one request -/

def always : GrantValidity := ⟨0, none, by decide, nofun⟩

def exactRule (actor operation resource : String) : WorkRule where
  actorId := actor
  effect := "allow"
  validity := always
  operation := operation
  resource := resource
  resourceMatch := "exact"
  status := "active"

/-- One rule for each resource of a request. -/
def exactPolicy (actor : String) (request : WorkRequest) : WorkPolicy where
  audience := "devgraph://receiver-local"
  policyId := "exact"
  policyVersion := 1
  rules := request.resources.map (exactRule actor request.operation)
  schema := "secs-devgraph-work-policy.v2"
  schemaVersion := 2

section Policy

variable {request : WorkRequest} {digest : String}

theorem applies_exactRule {actor operation resource actor' operation' resource' : String} :
    (exactRule actor operation resource).applies actor' operation' resource' = true ↔
      actor = actor' ∧ operation = operation' ∧ resource' = resource := by
  have hexact : (exactRule actor operation resource).resourceMatch = "exact" := rfl
  simp only [WorkRule.applies, hexact, if_pos, Bool.and_eq_true, decide_eq_true_eq, and_assoc]
  exact and_iff_right rfl

theorem allowsAt_exactRule {actor operation resource : String} {t : UInt64} (h : t ≤ maxSafe) :
    (exactRule actor operation resource).AllowsAt t := by
  refine ⟨rfl, GrantValidity.contains_iff.mpr ⟨h, ?_, nofun⟩⟩
  rw [UInt64.le_iff_toNat_le]
  exact Nat.zero_le _

theorem validate_exactRule (hdigest : hexDigest digest = true) {operation resource : String}
    (hoperation : namedOperation operation = true) (hresource : Ruled resource) :
    (exactRule ("pubkey:sha256:" ++ digest) operation resource).validate 2 = .ok () := by
  obtain ⟨label, id, hsplit, hrule⟩ := ruleResource_of_ruled hresource
  simp [WorkRule.validate, exactRule, stripPrefix_append, hsplit, hdigest, hoperation, hrule,
    rejectIf, bind, Except.bind]

theorem validate_exactPolicy (hnamed : Named request) (hdigest : hexDigest digest = true) :
    (exactPolicy ("pubkey:sha256:" ++ digest) request).validate = .ok () := by
  have hempty : (request.resources.map
      (exactRule ("pubkey:sha256:" ++ digest) request.operation)).isEmpty = false := by
    rw [List.isEmpty_eq_false_iff]
    exact fun h => hnamed.nonempty (List.map_eq_nil_iff.mp h)
  refine WorkPolicy.validate_eq_ok.mpr ⟨?_, ?_⟩
  · have hlabel : safeLabel "exact" 128 = true := by decide
    have hlength := hnamed.length_le
    have hsafe : ¬ (1 : UInt64) > maxSafe := by decide
    simp [exactPolicy, hempty, hlabel, hsafe, hlength]
  · intro rule hrule
    obtain ⟨resource, hresource, rfl⟩ := List.mem_map.mp hrule
    exact validate_exactRule hdigest hnamed.operation (hnamed.ruled resource hresource)

theorem permitted_exactPolicy {actor : String} {now : UInt64} (hnow : now ≤ maxSafe)
    (hresource : resource ∈ request.resources) :
    Permitted (exactPolicy actor request).rules actor request.operation now resource := by
  constructor
  · rintro rule hrule ⟨-, hdeny, -⟩
    obtain ⟨_, -, rfl⟩ := List.mem_map.mp hrule
    exact absurd hdeny (show "allow" ≠ "deny" by decide)
  · refine ⟨exactRule actor request.operation resource, List.mem_map_of_mem hresource, ?_, ?_⟩
    · exact applies_exactRule.mpr ⟨rfl, rfl, rfl⟩
    · exact allowsAt_exactRule hnow

theorem of_permitted_exactPolicy {actor actor' operation resource : String} {now : UInt64}
    (h : Permitted (exactPolicy actor request).rules actor' operation now resource) :
    actor' = actor ∧ operation = request.operation ∧ resource ∈ request.resources := by
  obtain ⟨-, rule, hrule, happlies, -⟩ := h
  obtain ⟨named, hnamed, rfl⟩ := List.mem_map.mp hrule
  obtain ⟨hactor, hoperation, rfl⟩ := applies_exactRule.mp happlies
  exact ⟨hactor.symm, hoperation.symm, hnamed⟩

end Policy

/-- Every parsed request is one that a policy can grant: its operation and its resources may stand
in an exact rule, and for every actor some valid policy grants this request, at any time the clock
can tell, and nothing beyond it. -/
theorem request_grantable {crates : Crates} {isIpv6 : String → Bool}
    {decode : List UInt8 → Option Json} {raw : List UInt8} {request : WorkRequest}
    (h : parse crates isIpv6 decode raw = .ok request) :
    namedOperation request.operation = true ∧
    (∀ resource ∈ request.resources, ∃ label id,
      splitOnce resource '/' = some (label, id) ∧ ruleResource label id "exact" = true) ∧
    request.resources ≠ [] ∧
    ∀ digest, hexDigest digest = true → ∃ policy : WorkPolicy, policy.validate = .ok () ∧
      ∀ actor request' (now lifetime : UInt64), 1 ≤ lifetime.toNat ∧ lifetime.toNat ≤ 3600 →
        now.toNat + lifetime.toNat ≤ maxSafe.toNat → request'.resources ≠ [] →
        ((∃ e, policy.authorizeUntilBounded actor request' now lifetime = .ok e) ↔
          actor = "pubkey:sha256:" ++ digest ∧ request'.operation = request.operation ∧
            ∀ resource ∈ request'.resources, resource ∈ request.resources) := by
  have hnamed := named_parse h
  refine ⟨hnamed.operation, fun resource hresource =>
    ruleResource_of_ruled (hnamed.ruled resource hresource), hnamed.nonempty, ?_⟩
  intro digest hdigest
  have hvalid := validate_exactPolicy hnamed hdigest
  refine ⟨exactPolicy ("pubkey:sha256:" ++ digest) request, hvalid, ?_⟩
  intro actor request' now lifetime hlifetime hrange hnonempty
  constructor
  · rintro ⟨e, he⟩
    obtain ⟨-, hpermitted, -⟩ := authorize_eq_ok hvalid hlifetime he
    obtain ⟨first, hfirst⟩ := List.exists_mem_of_ne_nil _ hnonempty
    obtain ⟨hactor, hoperation, -⟩ := of_permitted_exactPolicy (hpermitted first hfirst)
    exact ⟨hactor, hoperation, fun resource hresource =>
      (of_permitted_exactPolicy (hpermitted resource hresource)).2.2⟩
  · rintro ⟨rfl, hoperation, hresources⟩
    have hnow : now ≤ maxSafe := by
      rw [UInt64.le_iff_toNat_le]
      omega
    have hpermitted : ∀ resource ∈ request'.resources,
        Permitted (exactPolicy ("pubkey:sha256:" ++ digest) request).rules
          ("pubkey:sha256:" ++ digest) request'.operation now resource := by
      intro resource hresource
      rw [hoperation]
      exact permitted_exactPolicy hnow (hresources resource hresource)
    obtain ⟨e, he, -⟩ := authorize_permitted hvalid hlifetime hrange hpermitted
    exact ⟨e, he⟩

namespace Sample

def digest : String := String.ofList (List.replicate 64 'a')

theorem transition_grantable :
    parse Crates.transparent (fun _ => false) WorkRequests.Sample.decode
        WorkRequests.Sample.tree.bytes = .ok WorkRequests.Sample.request ∧
    ∃ policy : WorkPolicy, policy.validate = .ok () ∧
      ∃ e, policy.authorizeUntilBounded ("pubkey:sha256:" ++ digest) WorkRequests.Sample.request
        100 60 = .ok e := by
  have hparse : parse Crates.transparent (fun _ => false) WorkRequests.Sample.decode
      WorkRequests.Sample.tree.bytes = .ok WorkRequests.Sample.request := by decide +kernel
  obtain ⟨-, -, hnonempty, hpolicies⟩ := request_grantable hparse
  obtain ⟨policy, hvalid, hgrants⟩ := hpolicies digest (by decide)
  refine ⟨hparse, policy, hvalid, ?_⟩
  exact (hgrants _ _ 100 60 (by decide) (by decide) hnonempty).mpr ⟨rfl, rfl, fun _ h => h⟩

end Sample

end WorkVocabulary
