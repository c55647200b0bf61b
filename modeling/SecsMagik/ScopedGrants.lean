import SecsMagik.HolderGrants
import SecsMagik.ResourceSelectors

/-! # Version 2: scoped grants

Permissions of version 2 carry one resource selector for each role of their operation.
-/
namespace ScopedGrants

open RustStd WireCodec CanonicalJson
open ExternalCrates (Crates Strict)
open GrantContract (Result text canonical)
open HolderGrants (Version)
open ResourceSelectors

def invalid : String := "invalid_scoped_holder_authority"

structure Permission where
  operation : String
  resource : String
  roles : List RoleSelection
  constraints : Json
  deriving DecidableEq

namespace Permission

def toJson (p : Permission) : Json := .object [
  ("operation", .string p.operation), ("resource", .string p.resource),
  ("roles", .array (p.roles.map fun r =>
    .object [("role", .string r.role), ("selector", r.selector.toJson)])),
  ("constraints", p.constraints)]

def validate (p : Permission) (service : String) : Result Unit := do
  text service
  text p.operation
  text p.resource
  rejectIf (p.roles.isEmpty ∨ 16 < p.roles.length ∨ p.constraints.isObject = false) invalid
  forEnumerated (fun before r => do
    text r.role
    r.selector.validate
    rejectIf (r.selector.service ≠ service ∨ before.any (·.role = r.role)) invalid) [] p.roles
  let _ ← canonical p.toJson
  return ()

def effectRule (p : Permission) (contract : EffectContract) : Result EffectRule := do
  p.validate contract.service
  let rule : EffectRule := ⟨contract.service, p.operation, p.roles⟩
  rule.validate contract
  return rule

/-- Whether each role of `c` narrows the role of that name in `p`. -/
def narrower (c p : Permission) : Result Bool :=
  c.roles.foldlM (fun narrower role =>
    match p.roles.find? (·.role = role.role) with
    | some r => do
      let within ← role.selector.within r.selector
      return narrower && within
    | none => return false) true

/-- Whether `c` narrows one of the parents. -/
def foundIn (c : Permission) (parent : List Permission) : Result Bool :=
  parent.foldlM (fun found p =>
    if c.operation ≠ p.operation ∨ c.resource ≠ p.resource ∨ c.constraints ≠ p.constraints ∨
        c.roles.length ≠ p.roles.length then
      return found
    else do
      let narrower ← c.narrower p
      return found || narrower) false

end Permission

def permissions (p : List Permission) : Result Unit := do
  rejectIf (p.isEmpty ∨ 64 < p.length) invalid
  forEnumerated (fun before r => do
    let first ← r.roles.head?.elim (.error invalid) .ok
    r.validate first.selector.service
    rejectIf (r ∈ before) invalid) [] p
  let _ ← canonical (.array (p.map Permission.toJson))
  return ()

def permissionsWithin (child parent : List Permission) : Result Unit := do
  permissions child
  permissions parent
  child.forM fun c => do
    let found ← c.foundIn parent
    rejectIf (found = false) invalid

def v2 : Version Permission where
  invalid := invalid
  grant := "secs.holder-grant.v2"
  credential := "secs.holder-credential.v2"
  presentation := "secs.holder-presentation.v2"
  grantDomain := "secs.holder-grant.v2/signature"
  credentialDomain := "secs.holder-credential.v2/signature"
  presentationDomain := "secs.holder-presentation.v2/signature"
  permissionJson := Permission.toJson
  permissions service p := do
    p.forM (·.validate service)
    permissions p
  permissionsWithin := permissionsWithin

section V2

variable (crates : Crates) (strict : Strict crates)

def issueGrant := v2.issueGrant crates strict
def verifyGrant := v2.verifyGrant crates strict
def deriveCredential := v2.deriveCredential crates strict
def verifyCredential := v2.verifyCredential crates strict
def present := v2.present crates strict
def verifyPresentation := v2.verifyPresentation crates strict

end V2

/-! ## What the checks establish -/

namespace Permission

/-- The checks on a permission for a service. -/
structure Valid (p : Permission) (service : String) : Prop where
  serviceText : text service = .ok ()
  operation : text p.operation = .ok ()
  resource : text p.resource = .ok ()
  roles : p.roles ≠ [] ∧ p.roles.length ≤ 16
  constraints : p.constraints.isObject
  selectors : ∀ r ∈ p.roles, text r.role = .ok () ∧ r.selector.validate = .ok () ∧
    r.selector.service = service
  distinct : p.roles.Pairwise (·.role ≠ ·.role)
  canonical : GrantContract.Canonical p.toJson

theorem validate_eq_ok {p : Permission} {service : String} :
    p.validate service = .ok () ↔ p.Valid service := by
  have hbody : ∀ (before : List RoleSelection) (r : RoleSelection), (do
      text r.role
      r.selector.validate
      rejectIf (r.selector.service ≠ service ∨ before.any (·.role = r.role)) invalid) = .ok () ↔
      (text r.role = .ok () ∧ r.selector.validate = .ok () ∧ r.selector.service = service) ∧
        ∀ r' ∈ before, r'.role ≠ r.role := by
    intro before r
    rw [check_bind_eq_ok, check_bind_eq_ok, rejectIf_eq_ok]
    simp [and_assoc]
  unfold validate
  simp only [check_bind_eq_ok, rejectIf_eq_ok]
  rw [forEnumerated_nil_eq_ok hbody]
  simp only [bind_eq_ok, GrantContract.canonical_eq_ok]
  constructor
  · rintro ⟨hservice, hoperation, hresource, hshape, ⟨hselectors, hdistinct⟩, b, ⟨hcanonical, _⟩, _⟩
    simp only [List.isEmpty_iff, not_or, Nat.not_lt, Bool.not_eq_false] at hshape
    exact ⟨hservice, hoperation, hresource, ⟨hshape.1, hshape.2.1⟩, hshape.2.2, hselectors,
      hdistinct, hcanonical⟩
  · intro h
    refine ⟨h.serviceText, h.operation, h.resource, ?_, ⟨h.selectors, h.distinct⟩, _,
      ⟨h.canonical, rfl⟩, rfl⟩
    simp only [List.isEmpty_iff, not_or, Nat.not_lt, Bool.not_eq_false]
    exact ⟨h.roles.1, h.roles.2, h.constraints⟩

end Permission

theorem permissions_eq_ok {p : List Permission} :
    permissions p = .ok () ↔
      (p ≠ [] ∧ p.length ≤ 64) ∧
      (∀ r ∈ p, ∃ first, r.roles.head? = some first ∧ r.Valid first.selector.service) ∧
      p.Pairwise (· ≠ ·) ∧ GrantContract.Canonical (.array (p.map Permission.toJson)) := by
  have hbody : ∀ (before : List Permission) (r : Permission), (do
      let first ← r.roles.head?.elim (.error invalid) .ok
      r.validate first.selector.service
      rejectIf (r ∈ before) invalid : Result Unit) = .ok () ↔
      (∃ first, r.roles.head? = some first ∧ r.Valid first.selector.service) ∧
        ∀ r' ∈ before, r' ≠ r := by
    intro before r
    rw [bind_eq_ok]
    constructor
    · rintro ⟨first, hfirst, h⟩
      rw [check_bind_eq_ok, Permission.validate_eq_ok, rejectIf_eq_ok] at h
      refine ⟨⟨first, elim_eq_ok.mp hfirst, h.1⟩, ?_⟩
      rintro r' hr' rfl
      exact h.2 hr'
    · rintro ⟨⟨first, hfirst, hvalid⟩, hbefore⟩
      refine ⟨first, elim_eq_ok.mpr hfirst, ?_⟩
      rw [check_bind_eq_ok, Permission.validate_eq_ok, rejectIf_eq_ok]
      exact ⟨hvalid, fun hmem => hbefore r hmem rfl⟩
  unfold permissions
  simp only [check_bind_eq_ok, rejectIf_eq_ok]
  rw [forEnumerated_nil_eq_ok hbody]
  simp only [bind_eq_ok, GrantContract.canonical_eq_ok, List.isEmpty_iff, not_or, Nat.not_lt]
  constructor
  · rintro ⟨hshape, ⟨hvalid, hdistinct⟩, b, ⟨hcanonical, _⟩, _⟩
    exact ⟨hshape, hvalid, hdistinct, hcanonical⟩
  · rintro ⟨hshape, hvalid, hdistinct, hcanonical⟩
    exact ⟨hshape, ⟨hvalid, hdistinct⟩, _, ⟨hcanonical, rfl⟩, rfl⟩

namespace Permission

theorem narrower_eq_true {c p : Permission} :
    c.narrower p = .ok true ↔
      ∀ role ∈ c.roles, ∃ r, p.roles.find? (·.role = role.role) = some r ∧
        role.selector.within r.selector = .ok true := by
  refine (foldlM_and_eq_true fun narrower role => ?_).trans (and_iff_right rfl)
  cases hfind : p.roles.find? (·.role = role.role) with
  | none => simp [pure, Except.pure]
  | some r =>
    cases hwithin : role.selector.within r.selector with
    | error e => simp [bind, Except.bind, hwithin]
    | ok b => simp [bind, Except.bind, pure, Except.pure, hwithin]

/-- A parent that differs from `c` in its scope only. -/
def Matches (c p : Permission) : Prop :=
  c.operation = p.operation ∧ c.resource = p.resource ∧ c.constraints = p.constraints ∧
    c.roles.length = p.roles.length

instance (c p : Permission) : Decidable (Matches c p) := by
  unfold Matches
  infer_instance

theorem foundIn_eq_true {c : Permission} {parent : List Permission} :
    c.foundIn parent = .ok true ↔
      (∀ p ∈ parent, Matches c p → ∃ b, c.narrower p = .ok b) ∧
        ∃ p ∈ parent, Matches c p ∧ c.narrower p = .ok true := by
  let g : Permission → Result Bool := fun p => if Matches c p then c.narrower p else .ok false
  refine (foldlM_or_eq_true (g := g) fun found p => ?_).trans ?_
  · by_cases hmatch : Matches c p
    · have hdiffer : ¬ (c.operation ≠ p.operation ∨ c.resource ≠ p.resource ∨
          c.constraints ≠ p.constraints ∨ c.roles.length ≠ p.roles.length) := by
        obtain ⟨hoperation, hresource, hconstraints, hroles⟩ := hmatch
        simp [hoperation, hresource, hconstraints, hroles]
      simp only [g, if_pos hmatch, if_neg hdiffer]
      rfl
    · have hdiffer : c.operation ≠ p.operation ∨ c.resource ≠ p.resource ∨
          c.constraints ≠ p.constraints ∨ c.roles.length ≠ p.roles.length := by
        simpa only [Matches, not_and_or] using hmatch
      simp only [g, if_neg hmatch, if_pos hdiffer, Except.map, Bool.or_false]
      rfl
  · refine and_congr (forall₂_congr fun p _ => ?_) ?_
    · by_cases hmatch : Matches c p
      · simp [g, hmatch]
      · simp [g, hmatch]
    · simp only [Bool.false_eq_true, false_or]
      refine exists_congr fun p => and_congr_right fun _ => ?_
      by_cases hmatch : Matches c p
      · simp [g, hmatch]
      · simp [g, hmatch]

end Permission

theorem permissionsWithin_eq_ok {child parent : List Permission} :
    permissionsWithin child parent = .ok () ↔
      permissions child = .ok () ∧ permissions parent = .ok () ∧
        ∀ c ∈ child, c.foundIn parent = .ok true := by
  have hbody : ∀ c : Permission, (do
      let found ← c.foundIn parent
      rejectIf (found = false) invalid) = .ok () ↔ c.foundIn parent = .ok true := by
    intro c
    rw [bind_eq_ok]
    simp only [rejectIf_eq_ok, Bool.not_eq_false]
    constructor
    · rintro ⟨found, hfound, rfl⟩
      exact hfound
    · intro hfound
      exact ⟨true, hfound, rfl⟩
  rw [permissionsWithin, check_bind_eq_ok, check_bind_eq_ok, forM_eq_ok]
  simp only [hbody]

theorem narrower_total {c p : Permission} {service service' : String} (hc : c.Valid service)
    (hp : p.Valid service') : ∃ b, c.narrower p = .ok b := by
  refine foldlM_total (fun narrower role hrole => ?_) true
  cases hfind : p.roles.find? (·.role = role.role) with
  | none => exact ⟨false, rfl⟩
  | some r =>
    have hvalid := (hp.selectors r (List.mem_of_find?_eq_some hfind)).2.1
    simp only [ResourceSelector.within_of_valid (hc.selectors role hrole).2.1 hvalid]
    exact ⟨_, rfl⟩

theorem narrower_self {c : Permission} {service : String} (hc : c.Valid service) :
    c.narrower c = .ok true := by
  refine Permission.narrower_eq_true.mpr fun role hrole => ⟨role, ?_, ?_⟩
  · exact find?_of_distinct hc.distinct hrole
  · exact ResourceSelector.within_self (hc.selectors role hrole).2.1

theorem permissionsWithin_self {p : List Permission} (h : permissions p = .ok ()) :
    permissionsWithin p p = .ok () := by
  obtain ⟨-, hvalid, -⟩ := permissions_eq_ok.mp h
  refine permissionsWithin_eq_ok.mpr ⟨h, h, fun c hc => ?_⟩
  obtain ⟨_, -, hvalid'⟩ := hvalid c hc
  refine Permission.foundIn_eq_true.mpr ⟨?_, c, hc, ⟨rfl, rfl, rfl, rfl⟩, narrower_self hvalid'⟩
  intro r hr _
  obtain ⟨_, -, hr⟩ := hvalid r hr
  exact narrower_total hvalid' hr

end ScopedGrants
