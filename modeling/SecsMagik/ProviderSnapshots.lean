import SecsMagik.Attenuation

/-! # Provider snapshots

The snapshot a provider makes of its current transaction: resources with their ancestors under one
relation, checked before every lookup. Selectors are ordered by narrowing, and narrowing never
permits more, whatever the snapshot.
-/
namespace ProviderSnapshots

open RustStd WireCodec
open GrantContract (Result text)
open ResourceSelectors
open Attenuation (Kept Narrows RuleFails SelectionFails and_eq_true kept_permits kept_selection
  kept_selector permits_of_within selector_permits_eq_true validate_eq_ok)

structure ResourceWitness where
  resource : ResourceRef
  ancestors : List ResourceRef
  deriving DecidableEq

structure ProviderSnapshot where
  service : String
  relation : String
  resources : List ResourceWitness
  deriving DecidableEq

def invalidProviderSnapshot : String := "invalid_provider_snapshot"

namespace ProviderSnapshot

def validate (s : ProviderSnapshot) : Result Unit := do
  text s.service
  text s.relation
  rejectIf (256 < s.resources.length) invalidProviderSnapshot
  forEnumerated (fun before w => do
    text w.resource.kind
    text w.resource.id
    rejectIf (before.any (·.resource = w.resource) ∨ 32 < w.ancestors.length)
      invalidProviderSnapshot
    forEnumerated (fun before a => do
      text a.kind
      text a.id
      rejectIf (a = w.resource ∨ a ∈ before) invalidProviderSnapshot) [] w.ancestors) []
    s.resources

def existsRef (s : ProviderSnapshot) (service : String) (r : ResourceRef) : Result Bool := do
  s.validate
  rejectIf (service ≠ s.service) "wrong_snapshot_service"
  return s.resources.any (·.resource = r)

def supportsRelation (s : ProviderSnapshot) (service relation : String) : Result Bool := do
  s.validate
  return service = s.service && relation = s.relation

def isDescendant (s : ProviderSnapshot) (service relation : String) (r root : ResourceRef) :
    Result Bool := do
  let supported ← s.supportsRelation service relation
  rejectIf (supported = false) "unsupported_resource_relation"
  return (s.resources.find? (·.resource = r)).any (root ∈ ·.ancestors)

def lookups (s : ProviderSnapshot) : ResourceSnapshot :=
  ⟨s.existsRef, s.supportsRelation, s.isDescendant⟩

variable {s : ProviderSnapshot} {service relation : String}

theorem supportsRelation_eq_true :
    s.supportsRelation service relation = .ok true ↔
      s.validate = .ok () ∧ service = s.service ∧ relation = s.relation := by
  rw [supportsRelation, check_bind_eq_ok]
  simp [pure, Except.pure]

theorem answers_of_supported (h : s.supportsRelation service relation = .ok true) :
    (∀ r, ∃ b, s.lookups.existsRef service r = .ok b) ∧
      ∀ r root, ∃ b, s.lookups.isDescendant service relation r root = .ok b := by
  obtain ⟨hvalid, hservice, -⟩ := supportsRelation_eq_true.mp h
  constructor
  · intro r
    refine ⟨s.resources.any (·.resource = r), ?_⟩
    simp [lookups, existsRef, hvalid, hservice, rejectIf, bind, Except.bind, pure, Except.pure]
  · intro r root
    refine ⟨(s.resources.find? (·.resource = r)).any (root ∈ ·.ancestors), ?_⟩
    simp [lookups, isDescendant, h, rejectIf, bind, Except.bind, pure, Except.pure]

end ProviderSnapshot

theorem supported_of_permits {snapshot : ResourceSnapshot} {service : String}
    {resource : ResourceRef} {h : Hierarchy}
    (hpermits : h.permits service resource snapshot = .ok true) :
    snapshot.supportsRelation service h.relation = .ok true := by
  rw [Hierarchy.permits, bind_eq_ok] at hpermits
  obtain ⟨supported, hsupported, hpermits⟩ := hpermits
  have hreject := (check_bind_eq_ok.mp hpermits).1
  rw [rejectIf_eq_ok, Bool.not_eq_false] at hreject
  rw [hsupported, hreject]

/-- Over a provider's snapshot no lookup of the wider selector fails. -/
theorem permits_of_narrower {child parent : ResourceSelector} {service : String}
    {resource : ResourceRef} (s : ProviderSnapshot) (hwithin : child.within parent = .ok true)
    (hpermits : child.permits service resource s.lookups = .ok true) :
    parent.permits service resource s.lookups = .ok true := by
  obtain ⟨⟨-, hparent⟩, hservice, hkinds, hselection⟩ := ResourceSelector.within_eq_true.mp hwithin
  obtain ⟨⟨-, htext, hresource⟩, hexpected, hkind, hexists, hchild⟩ :=
    selector_permits_eq_true.mp hpermits
  obtain ⟨-, hhierarchy⟩ := permits_of_within hselection hchild
  refine selector_permits_eq_true.mpr ⟨⟨hparent, htext, hresource⟩, hservice ▸ hexpected,
    hkinds _ hkind, hexists, ?_⟩
  rcases kept_selection hselection hchild with hkept | ⟨e, -, h, hguard, root, -, hfails⟩
  · exact hkept
  · exfalso
    obtain ⟨g, hgh, hg⟩ := hhierarchy h hguard
    have hrelation : g.relation = h.relation := by
      simp only [Hierarchy.within, decide_eq_true_eq] at hgh
      exact hgh.1
    obtain ⟨hpresent, hbelow⟩ :=
      ProviderSnapshot.answers_of_supported (hrelation ▸ supported_of_permits hg)
    rcases hfails with hfails | hfails
    · obtain ⟨b, hb⟩ := hpresent root
      cases hb.symm.trans hfails
    · obtain ⟨b, hb⟩ := hbelow resource root
      cases hb.symm.trans hfails

/-- Narrowing is a preorder on valid selectors. What a narrower selector permits, a wider one
permits, unless a lookup of one of its roots fails; over a provider's snapshot none does. -/
theorem selectors_soundly_ordered :
    (∀ (child parent : ResourceSelector) (snapshot : ResourceSnapshot) service resource,
      child.within parent = .ok true → child.permits service resource snapshot = .ok true →
      Kept (SelectionFails snapshot service resource parent.selection)
        (parent.permits service resource snapshot)) ∧
    (∀ (child parent : ResourceSelector) (s : ProviderSnapshot) service resource,
      child.within parent = .ok true → child.permits service resource s.lookups = .ok true →
      parent.permits service resource s.lookups = .ok true) ∧
    (∀ s : ResourceSelector, s.validate = .ok () → s.within s = .ok true) ∧
    ∀ a b c : ResourceSelector, a.within b = .ok true → b.within c = .ok true →
      a.within c = .ok true := by
  refine ⟨?_, ?_, ?_, ?_⟩
  · intro child parent snapshot service resource hwithin hpermits
    exact kept_selector hwithin hpermits
  · intro child parent s service resource hwithin hpermits
    exact permits_of_narrower s hwithin hpermits
  · intro s hs
    exact ResourceSelector.within_self hs
  · intro a b c hab hbc
    exact ResourceSelector.within_trans hab hbc

namespace Sample

def folder : ResourceRef := ⟨"folder", "f1"⟩

def note : ResourceRef := ⟨"note", "n1"⟩

def tree : ProviderSnapshot := ⟨"notes", "inside", [⟨folder, []⟩, ⟨note, [folder]⟩]⟩

def below : ResourceSelector :=
  ⟨schema, "notes", ["note"], .descendants ⟨"inside", [folder], false⟩⟩

def oneNote : ResourceSelector :=
  ⟨schema, "notes", ["note"], .objects [note] (some ⟨"inside", [folder], false⟩)⟩

def everything : ResourceSelector := ⟨schema, "notes", ["folder", "note"], .all⟩

theorem sample_ordered :
    (oneNote.within below = .ok true ∧ oneNote.permits "notes" note tree.lookups = .ok true ∧
      below.permits "notes" note tree.lookups = .ok true) ∧
    below.within below = .ok true ∧ oneNote.within everything = .ok true := by
  obtain ⟨-, hprovider, hself, htrans⟩ := selectors_soundly_ordered
  have hnarrow : oneNote.within below = .ok true := by decide
  have hpermits : oneNote.permits "notes" note tree.lookups = .ok true := by decide
  refine ⟨⟨hnarrow, hpermits, hprovider _ _ tree _ _ hnarrow hpermits⟩,
    hself below (by decide), htrans _ _ _ hnarrow (by decide)⟩

end Sample

/-! ## Rules -/

theorem withinRoles_eq_true {parent : EffectRule} {roles : List RoleSelection} :
    parent.withinRoles roles = .ok true ↔ Narrows roles parent.roles := by
  induction roles with
  | nil => simp [EffectRule.withinRoles, Narrows]
  | cons selection rest ih =>
    rw [EffectRule.withinRoles, bind_eq_ok, Narrows, List.forall_mem_cons]
    simp only [elim_eq_ok, and_eq_true, ih, Narrows, ← and_assoc, exists_and_right]

theorem effectRule_within_eq_true {rule parent : EffectRule} {contract : EffectContract} :
    rule.within parent contract = .ok true ↔ rule.validate contract = .ok () ∧
      parent.validate contract = .ok () ∧ Narrows rule.roles parent.roles := by
  rw [EffectRule.within, check_bind_eq_ok, check_bind_eq_ok, withinRoles_eq_true]

theorem narrows_self {contract : EffectContract} {rule : EffectRule}
    (h : rule.validate contract = .ok ()) : Narrows rule.roles rule.roles := by
  have hvalid := validate_eq_ok.mp h
  intro s hs
  obtain ⟨-, -, hselector, -⟩ := hvalid.selections s hs
  exact ⟨s, find?_of_distinct hvalid.distinct hs, ResourceSelector.within_self hselector⟩

theorem narrows_trans {a b c : List RoleSelection} (h : Narrows a b) (h' : Narrows b c) :
    Narrows a c := by
  intro s hs
  obtain ⟨p, hp, hwithin⟩ := h s hs
  obtain ⟨q, hq, hwithin'⟩ := h' p (List.mem_of_find?_eq_some hp)
  have hrole : p.role = s.role := by simpa using List.find?_some hp
  rw [hrole] at hq
  exact ⟨q, hq, ResourceSelector.within_trans hwithin hwithin'⟩

/-- Narrowing is a preorder on the rules of a contract, and a plan that a narrower rule permits for
all its roles at once is permitted by the wider one, unless a lookup fails. -/
theorem effect_rules_soundly_ordered (contract : EffectContract) :
    (∀ (child parent : EffectRule) effects snapshot, child.within parent contract = .ok true →
      child.permits contract effects snapshot = .ok true →
      Kept (RuleFails snapshot contract.service effects parent)
        (parent.permits contract effects snapshot)) ∧
    (∀ rule : EffectRule, rule.validate contract = .ok () → rule.within rule contract = .ok true) ∧
    ∀ a b c : EffectRule, a.within b contract = .ok true → b.within c contract = .ok true →
      a.within c contract = .ok true := by
  simp only [effectRule_within_eq_true]
  refine ⟨?_, ?_, ?_⟩
  · rintro child parent effects snapshot ⟨-, hparent, hnarrows⟩ hpermits
    exact kept_permits hnarrows hparent hpermits
  · intro rule hvalid
    exact ⟨hvalid, hvalid, narrows_self hvalid⟩
  · rintro a b c ⟨ha, -, hab⟩ ⟨-, hc, hbc⟩
    exact ⟨ha, hc, narrows_trans hab hbc⟩

namespace Sample

def reading : EffectContract := ⟨"notes", "read", [⟨"source", ["folder", "note"], 1, 1⟩]⟩

def readRule (selector : ResourceSelector) : EffectRule := ⟨"notes", "read", [⟨"source", selector⟩]⟩

theorem rules_ordered :
    Kept (RuleFails tree.lookups "notes" [⟨"source", [note]⟩] (readRule below))
        ((readRule below).permits reading [⟨"source", [note]⟩] tree.lookups) ∧
      (readRule oneNote).within (readRule everything) reading = .ok true := by
  obtain ⟨hkept, hself, htrans⟩ := effect_rules_soundly_ordered reading
  refine ⟨hkept (readRule oneNote) _ _ _ (by decide) (by decide), ?_⟩
  exact htrans _ (readRule below) _ (by decide) (by decide)

end Sample

end ProviderSnapshots
