import SecsMagik.GrantContract

/-! # Resource selectors and effect rules

A selector picks resources of a service by kind and by object or position in a hierarchy; an effect
rule has one selector for each role of an operation. Whether a selector permits a resource depends
on a snapshot of the provider's state, whose lookups may fail.
-/
namespace ResourceSelectors

open RustStd WireCodec CanonicalJson
open GrantContract (Result text)

structure ResourceRef where
  kind : String
  id : String
  deriving DecidableEq

structure ResourceSnapshot where
  existsRef : String → ResourceRef → Result Bool
  supportsRelation : String → String → Result Bool
  isDescendant : String → String → ResourceRef → ResourceRef → Result Bool

def schema : String := "secs.resource-selector.v1"

def invalid : String := "invalid_resource_selector"

def ResourceRef.validate (r : ResourceRef) : Result Unit := do
  text r.kind
  text r.id

def ResourceRef.toJson (r : ResourceRef) : Json :=
  .object [("kind", .string r.kind), ("id", .string r.id)]

def references (refs : List ResourceRef) (max : ℕ) : Result Unit := do
  rejectIf (refs.isEmpty ∨ max < refs.length) invalid
  forEnumerated (fun before reference => do
    reference.validate
    rejectIf (reference ∈ before) invalid) [] refs

structure Hierarchy where
  relation : String
  roots : List ResourceRef
  includeSelf : Bool
  deriving DecidableEq

namespace Hierarchy

def validate (h : Hierarchy) : Result Unit := do
  text h.relation
  references h.roots 16

def within (h parent : Hierarchy) : Bool :=
  h.relation = parent.relation ∧ (h.includeSelf = false ∨ parent.includeSelf) ∧
    h.roots.all (· ∈ parent.roots)

/-- The loop over the roots. -/
def permitsFrom (service : String) (h : Hierarchy) (resource : ResourceRef)
    (snapshot : ResourceSnapshot) : List ResourceRef → Result Bool
  | [] => .ok false
  | root :: rest => do
    if ← snapshot.existsRef service root then
      if resource = root then
        if h.includeSelf then .ok true else permitsFrom service h resource snapshot rest
      else if ← snapshot.isDescendant service h.relation resource root then .ok true
      else permitsFrom service h resource snapshot rest
    else permitsFrom service h resource snapshot rest

def permits (h : Hierarchy) (service : String) (resource : ResourceRef)
    (snapshot : ResourceSnapshot) : Result Bool := do
  let supported ← snapshot.supportsRelation service h.relation
  rejectIf (supported = false) "unsupported_resource_relation"
  permitsFrom service h resource snapshot h.roots

def toJson (h : Hierarchy) : Json := .object [
  ("relation", .string h.relation), ("roots", .array (h.roots.map ResourceRef.toJson)),
  ("include_self", .bool h.includeSelf)]

end Hierarchy

inductive Selection where
  | all
  | objects (refs : List ResourceRef) (within : Option Hierarchy)
  | descendants (hierarchy : Hierarchy)
  deriving DecidableEq

/-- The comparison of two selections in `ResourceSelector::within`. -/
def Selection.within : Selection → Selection → Bool
  | _, .all => true
  | .all, _ => false
  | .objects refs within, .objects parentRefs parentGuard =>
    refs.all (· ∈ parentRefs) &&
      match within, parentGuard with
      | _, none => true
      | some child, some parent => child.within parent
      | none, some _ => false
  | .objects _ (some child), .descendants hierarchy => child.within hierarchy
  | .descendants child, .descendants parent => child.within parent
  | _, _ => false

/-- The last step of `ResourceSelector::permits`. -/
def Selection.permits (s : Selection) (service : String) (resource : ResourceRef)
    (snapshot : ResourceSnapshot) : Result Bool :=
  match s with
  | .all => .ok true
  | .objects refs within =>
    if resource ∉ refs then .ok false
    else
      match within with
      | some guard => guard.permits service resource snapshot
      | none => .ok true
  | .descendants hierarchy => hierarchy.permits service resource snapshot

def Selection.toJson : Selection → Json
  | .all => .object [("mode", .string "all")]
  | .objects refs within => .object ([
      ("mode", .string "objects"), ("refs", .array (refs.map ResourceRef.toJson))] ++
      within.toList.map fun h => ("within", h.toJson))
  | .descendants hierarchy => .object [
      ("mode", .string "descendants"), ("hierarchy", hierarchy.toJson)]

structure ResourceSelector where
  schema : String
  service : String
  kinds : List String
  selection : Selection
  deriving DecidableEq

namespace ResourceSelector

def validate (s : ResourceSelector) : Result Unit := do
  rejectIf (s.schema ≠ ResourceSelectors.schema ∨ s.kinds.isEmpty ∨ 16 < s.kinds.length) invalid
  text s.service
  forEnumerated (fun before kind => do
    text kind
    rejectIf (kind ∈ before) invalid) [] s.kinds
  match s.selection with
  | .all => .ok ()
  | .objects refs within => do
    references refs 128
    rejectIf (refs.any (·.kind ∉ s.kinds)) invalid
    match within with
    | some guard => guard.validate
    | none => .ok ()
  | .descendants hierarchy => hierarchy.validate

def within (s parent : ResourceSelector) : Result Bool := do
  s.validate
  parent.validate
  if s.service ≠ parent.service ∨ s.kinds.all (· ∈ parent.kinds) = false then return false
  return s.selection.within parent.selection

def permits (s : ResourceSelector) (expectedService : String) (resource : ResourceRef)
    (snapshot : ResourceSnapshot) : Result Bool := do
  s.validate
  text expectedService
  resource.validate
  rejectIf (s.service ≠ expectedService) "wrong_selector_service"
  if resource.kind ∉ s.kinds then return false
  if !(← snapshot.existsRef expectedService resource) then return false
  s.selection.permits expectedService resource snapshot

def toJson (s : ResourceSelector) : Json := .object [
  ("schema", .string s.schema), ("service", .string s.service),
  ("kinds", .array (s.kinds.map .string)), ("selection", s.selection.toJson)]

end ResourceSelector

theorem Hierarchy.within_self (h : Hierarchy) : h.within h := by simp [Hierarchy.within]

theorem Hierarchy.within_trans {a b c : Hierarchy} (h : a.within b) (h' : b.within c) :
    a.within c := by
  simp only [Hierarchy.within, decide_eq_true_eq, List.all_eq_true] at h h' ⊢
  obtain ⟨hrelation, hself, hroots⟩ := h
  obtain ⟨hrelation', hself', hroots'⟩ := h'
  refine ⟨hrelation.trans hrelation', ?_, fun root hroot => hroots' root (hroots root hroot)⟩
  rcases hself with hself | hself
  · exact .inl hself
  · rcases hself' with hself' | hself'
    · rw [hself] at hself'
      cases hself'
    · exact .inr hself'

def Selection.hierarchy? : Selection → Option Hierarchy
  | .all => none
  | .objects _ within => within
  | .descendants hierarchy => some hierarchy

def Selection.refs? : Selection → Option (List ResourceRef)
  | .objects refs _ => some refs
  | _ => none

theorem Selection.within_iff {child parent : Selection} :
    child.within parent ↔
      (∀ parentRefs, parent.refs? = some parentRefs →
        ∃ refs, child.refs? = some refs ∧ ∀ r ∈ refs, r ∈ parentRefs) ∧
      ∀ h, parent.hierarchy? = some h → ∃ g, child.hierarchy? = some g ∧ g.within h := by
  cases parent with
  | all => simp [Selection.within, Selection.refs?, Selection.hierarchy?]
  | descendants hierarchy =>
    cases child with
    | all => simp [Selection.within, Selection.refs?, Selection.hierarchy?]
    | descendants child => simp [Selection.within, Selection.refs?, Selection.hierarchy?]
    | objects refs guard =>
      cases guard <;> simp [Selection.within, Selection.refs?, Selection.hierarchy?]
  | objects parentRefs parentGuard =>
    cases child with
    | all => simp [Selection.within, Selection.refs?]
    | descendants child => simp [Selection.within, Selection.refs?]
    | objects refs guard =>
      cases parentGuard <;> cases guard <;>
        simp [Selection.within, Selection.refs?, Selection.hierarchy?]

theorem Selection.within_trans {a b c : Selection} (h : a.within b) (h' : b.within c) :
    a.within c := by
  obtain ⟨hrefs, hhierarchy⟩ := within_iff.mp h
  obtain ⟨hrefs', hhierarchy'⟩ := within_iff.mp h'
  refine within_iff.mpr ⟨?_, ?_⟩
  · intro cRefs hc
    obtain ⟨bRefs, hb, hbc⟩ := hrefs' cRefs hc
    obtain ⟨aRefs, ha, hab⟩ := hrefs bRefs hb
    exact ⟨aRefs, ha, fun r hr => hbc r (hab r hr)⟩
  · intro hc hguard
    obtain ⟨hb, hbguard, hbc⟩ := hhierarchy' hc hguard
    obtain ⟨ha, haguard, hab⟩ := hhierarchy hb hbguard
    exact ⟨ha, haguard, Hierarchy.within_trans hab hbc⟩

theorem Selection.permits_eq (selection : Selection) (service : String) (resource : ResourceRef)
    (snapshot : ResourceSnapshot) :
    selection.permits service resource snapshot =
      if selection.refs?.all (resource ∈ ·) then
        selection.hierarchy?.elim (.ok true) (·.permits service resource snapshot)
      else .ok false := by
  cases selection with
  | all => rfl
  | descendants hierarchy => rfl
  | objects refs guard =>
    by_cases hmem : resource ∈ refs
    · cases guard <;> simp [Selection.permits, Selection.refs?, Selection.hierarchy?, hmem]
    · simp [Selection.permits, Selection.refs?, hmem]

namespace ResourceSelector

variable {s parent : ResourceSelector}

theorem within_of_valid (hs : s.validate = .ok ()) (hparent : parent.validate = .ok ()) :
    s.within parent = .ok (decide (s.service = parent.service ∧ ∀ k ∈ s.kinds, k ∈ parent.kinds) &&
      s.selection.within parent.selection) := by
  have hcheck : (s.service ≠ parent.service ∨ s.kinds.all (· ∈ parent.kinds) = false) ↔
      ¬ (s.service = parent.service ∧ ∀ k ∈ s.kinds, k ∈ parent.kinds) := by
    rw [not_and_or, ← Bool.not_eq_true, List.all_eq_true]
    simp only [decide_eq_true_eq, ne_eq]
  rw [within, hs, hparent]
  simp only [bind, Except.bind, hcheck]
  by_cases hsame : s.service = parent.service ∧ ∀ k ∈ s.kinds, k ∈ parent.kinds
  · rw [if_neg (not_not.mpr hsame), decide_eq_true hsame, Bool.true_and]
    rfl
  · rw [if_pos hsame, decide_eq_false hsame, Bool.false_and]
    rfl

theorem within_eq_true :
    s.within parent = .ok true ↔
      (s.validate = .ok () ∧ parent.validate = .ok ()) ∧ s.service = parent.service ∧
        (∀ k ∈ s.kinds, k ∈ parent.kinds) ∧ s.selection.within parent.selection := by
  constructor
  · intro h
    have hs := (check_bind_eq_ok.mp h).1
    have hparent := (check_bind_eq_ok.mp (check_bind_eq_ok.mp h).2).1
    rw [within_of_valid hs hparent] at h
    have hboth := Except.ok.inj h
    simp only [Bool.and_eq_true, decide_eq_true_eq, and_assoc] at hboth
    exact ⟨⟨hs, hparent⟩, hboth⟩
  · rintro ⟨⟨hs, hparent⟩, hservice, hkinds, hselection⟩
    rw [within_of_valid hs hparent]
    simp only [hselection, Bool.and_true, decide_eq_true (And.intro hservice hkinds)]

theorem within_self (hs : s.validate = .ok ()) : s.within s = .ok true := by
  refine within_eq_true.mpr ⟨⟨hs, hs⟩, rfl, fun k hk => hk, ?_⟩
  cases s.selection with
  | all => rfl
  | objects refs guard => cases guard <;> simp [Selection.within, Hierarchy.within_self]
  | descendants hierarchy => exact hierarchy.within_self

theorem within_trans {grandparent : ResourceSelector} (h : s.within parent = .ok true)
    (h' : parent.within grandparent = .ok true) : s.within grandparent = .ok true := by
  obtain ⟨⟨hs, -⟩, hservice, hkinds, hselection⟩ := within_eq_true.mp h
  obtain ⟨⟨-, hgrandparent⟩, hservice', hkinds', hselection'⟩ := within_eq_true.mp h'
  exact within_eq_true.mpr ⟨⟨hs, hgrandparent⟩, hservice.trans hservice',
    fun k hk => hkinds' k (hkinds k hk), Selection.within_trans hselection hselection'⟩

end ResourceSelector

/-! ## Effect rules -/

def invalidCompound : String := "invalid_compound_resources"

structure RoleContract where
  name : String
  kinds : List String
  minimum : ℕ
  maximum : ℕ

structure EffectContract where
  service : String
  operation : String
  roles : List RoleContract

structure RoleSelection where
  role : String
  selector : ResourceSelector
  deriving DecidableEq

structure EffectRule where
  service : String
  operation : String
  roles : List RoleSelection
  deriving DecidableEq

structure ResolvedRole where
  role : String
  resources : List ResourceRef

namespace EffectContract

def validate (c : EffectContract) : Result Unit := do
  text c.service
  text c.operation
  rejectIf (c.roles.isEmpty ∨ 16 < c.roles.length ∨ c.roles.all (·.minimum = 0)) invalidCompound
  forEnumerated (fun before role => do
    text role.name
    rejectIf (before.any (·.name = role.name) ∨ role.maximum = 0 ∨ 128 < role.maximum ∨
      role.maximum < role.minimum ∨ role.kinds.isEmpty ∨ 16 < role.kinds.length) invalidCompound
    forEnumerated (fun before kind => do
      text kind
      rejectIf (kind ∈ before) invalidCompound) [] role.kinds) [] c.roles

def validatePlan (c : EffectContract) (effects : List ResolvedRole) : Result Unit := do
  c.validate
  rejectIf (effects.length ≠ c.roles.length) invalidCompound
  forEnumerated (fun before effect => do
    let role ← (c.roles.find? (·.name = effect.role)).elim (.error invalidCompound) .ok
    rejectIf (before.any (·.role = effect.role) ∨ effect.resources.length < role.minimum ∨
      role.maximum < effect.resources.length) invalidCompound
    forEnumerated (fun before target => do
      text target.kind
      text target.id
      rejectIf (target.kind ∉ role.kinds ∨ target ∈ before) invalidCompound) []
      effect.resources) [] effects

end EffectContract

namespace EffectRule

def validate (rule : EffectRule) (contract : EffectContract) : Result Unit := do
  contract.validate
  rejectIf (rule.service ≠ contract.service ∨ rule.operation ≠ contract.operation ∨
    rule.roles.length ≠ contract.roles.length) invalidCompound
  forEnumerated (fun before selection => do
    let role ← (contract.roles.find? (·.name = selection.role)).elim (.error invalidCompound) .ok
    selection.selector.validate
    rejectIf (before.any (·.role = selection.role) ∨
      selection.selector.service ≠ contract.service ∨
      selection.selector.kinds.all (· ∈ role.kinds) = false) invalidCompound) [] rule.roles

/-- The loop over the roles of the narrower rule. -/
def withinRoles (parent : EffectRule) : List RoleSelection → Result Bool
  | [] => .ok true
  | selection :: rest => do
    let previous ← (parent.roles.find? (·.role = selection.role)).elim
      (.error invalidCompound) .ok
    if ← selection.selector.within previous.selector then withinRoles parent rest
    else .ok false

def within (rule parent : EffectRule) (contract : EffectContract) : Result Bool := do
  rule.validate contract
  parent.validate contract
  withinRoles parent rule.roles

/-- The loop over the resources of one effect. -/
def permitsAll (selector : ResourceSelector) (service : String) (snapshot : ResourceSnapshot) :
    List ResourceRef → Result Bool
  | [] => .ok true
  | target :: rest => do
    if ← selector.permits service target snapshot then permitsAll selector service snapshot rest
    else .ok false

/-- The loop over the effects of a plan. -/
def permitsEffects (rule : EffectRule) (service : String) (snapshot : ResourceSnapshot) :
    List ResolvedRole → Result Bool
  | [] => .ok true
  | effect :: rest => do
    let selection ← (rule.roles.find? (·.role = effect.role)).elim (.error invalidCompound) .ok
    if ← permitsAll selection.selector service snapshot effect.resources then
      permitsEffects rule service snapshot rest
    else .ok false

def permits (rule : EffectRule) (contract : EffectContract) (effects : List ResolvedRole)
    (snapshot : ResourceSnapshot) : Result Bool := do
  rule.validate contract
  contract.validatePlan effects
  rule.permitsEffects contract.service snapshot effects

end EffectRule

end ResourceSelectors
