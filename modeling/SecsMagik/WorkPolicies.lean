import SecsMagik.CanonicalJson
import SecsMagik.WireCodec

/-! # Work policies

A receiver's policy lists dated rules that allow or deny an actor an operation on a resource. The
deadline of an authorization is folded over all rules and all requested resources; what it bounds is
the whole time until then, not the moment of the decision alone.
-/
namespace WorkPolicies

open RustStd
open WireCodec (rejectIf rejectIf_eq_ok)
open CanonicalJson (Json)

def maxSafe : UInt64 := 9007199254740991

/-! ## Names -/

def isLowerAlnum (b : UInt8) : Bool := isAsciiLowercase b || isAsciiDigit b

def identifier (s : String) : Bool :=
  let b := utf8 s
  b ≠ [] && b.length ≤ 256 && b.head?.any isLowerAlnum && b.getLast?.any isLowerAlnum &&
    b.all fun b => isLowerAlnum b || b == 45

def kind (s : String) : Bool := s ∈ ["Proposal", "Initiative", "Project", "Issue", "Task"]

def safeLabel (s : String) (max : ℕ) : Bool :=
  s ≠ "" && byteLen s ≤ max && (utf8 s).all fun b => isAsciiAlphanumeric b || b ∈ utf8 "._:-"

def hexDigest (s : String) : Bool := byteLen s = 64 && (utf8 s).all isLowerHexByte

/-- The operations of the second version alone. -/
def secondVersionOnly : List String :=
  ["progress.set", "restore", "proposal.reject", "session.attach", "session.state"]

def sharedOperations : List String :=
  ["create", "patch", "status", "archive", "accept", "convert", "parent.set", "dependency.add",
    "dependency.remove", "blocker.add", "blocker.remove", "workflow.assign", "workflow.review",
    "workflow.transition"]

def namedWorkOperation (s : String) (version : ℕ) : Bool :=
  if version = 2 ∧ s = "status" then false
  else if s ∈ secondVersionOnly then version = 2
  else s ∈ sharedOperations

def namedOperation (s : String) : Bool :=
  match (stripPrefix s "devgraph.arena.").bind (stripSuffix · ".v1") with
  | some operation => operation ∈ ["create", "patch", "archive", "member.set"]
  | none =>
    ((stripPrefix s "devgraph.work.").bind fun s =>
      ((stripSuffix s ".v1").map (·, 1)).or ((stripSuffix s ".v2").map (·, 2))).any
      fun (s, version) => namedWorkOperation s version

/-! ## Validity -/

def invalidGrantValidity : String := "invalid_grant_validity"

/-- The fields are private in the source; the constructors keep the bounds. -/
structure GrantValidity where
  notBefore : UInt64
  notAfter : Option UInt64
  notBefore_le : notBefore ≤ maxSafe
  ordered : ∀ stop ∈ notAfter, notBefore < stop ∧ stop ≤ maxSafe

namespace GrantValidity

def dated (notBefore notAfter : UInt64) : Except String GrantValidity :=
  if h : notBefore ≥ notAfter ∨ notAfter > maxSafe then .error invalidGrantValidity
  else .ok {
    notBefore := notBefore
    notAfter := some notAfter
    notBefore_le := by
      rw [not_or, ge_iff_le, gt_iff_lt, UInt64.not_le, UInt64.not_lt] at h
      exact UInt64.le_trans (UInt64.le_of_lt h.1) h.2
    ordered := by
      rw [not_or, ge_iff_le, gt_iff_lt, UInt64.not_le, UInt64.not_lt] at h
      intro stop hstop
      cases hstop
      exact h }

def untilRevoked (notBefore : UInt64) : Except String GrantValidity :=
  if h : notBefore > maxSafe then .error invalidGrantValidity
  else .ok ⟨notBefore, none, UInt64.not_lt.mp h, nofun⟩

def contains (validity : GrantValidity) (now : UInt64) : Bool :=
  now ≤ maxSafe && validity.notBefore ≤ now && validity.notAfter.all (now < ·)

def containedBy (child parent : GrantValidity) : Bool :=
  child.notBefore ≥ parent.notBefore &&
    match child.notAfter, parent.notAfter with
    | _, none => true
    | some child, some parent => child ≤ parent
    | none, some _ => false

def credentialDeadline (validity : GrantValidity) (now lifetime : UInt64) :
    Except String UInt64 := do
  rejectIf (validity.contains now = false ∨ ¬ (1 ≤ lifetime ∧ lifetime ≤ 3600)) invalidGrantValidity
  let deadline := match validity.notAfter with
    | none => now + lifetime
    | some stop => min stop (now + lifetime)
  rejectIf (deadline > maxSafe) invalidGrantValidity
  return deadline

end GrantValidity

/-! ## Policies -/

structure WorkRule where
  actorId : String
  effect : String
  validity : GrantValidity
  operation : String
  resource : String
  resourceMatch : String
  status : String

structure WorkPolicy where
  audience : String
  policyId : String
  policyVersion : UInt64
  rules : List WorkRule
  schema : String
  schemaVersion : UInt64

structure WorkRequest where
  value : Json
  canonical : List UInt8
  operation : String
  resources : List String
  deriving DecidableEq

def invalidWorkPolicy : String := "invalid_work_policy"
def workPermissionDenied : String := "work_permission_denied"

def ruleLabels : List String :=
  ["Todo", "Decision", "Arena", "ReviewPacket", "Handoff", "ExternalLink", "SessionRef",
    "SessionLink"]

/-- The resource of a rule: a label and an id, or the head of one. -/
def ruleResource (label id resourceMatch : String) : Bool :=
  (kind label || label ∈ ruleLabels) &&
    if resourceMatch = "exact" then identifier id
    else if resourceMatch = "prefix" then
      byteLen id ≤ 256 && (utf8 id).all fun b => isLowerAlnum b || b == 45
    else false

def WorkRule.validate (rule : WorkRule) (schemaVersion : UInt64) : Except String Unit := do
  let actor ← (stripPrefix rule.actorId "pubkey:sha256:").elim (.error invalidWorkPolicy) .ok
  let (label, id) ← (splitOnce rule.resource '/').elim (.error invalidWorkPolicy) .ok
  rejectIf (hexDigest actor = false ∨ namedOperation rule.operation = false ∨
    ruleResource label id rule.resourceMatch = false ∨ rule.effect ∉ ["allow", "deny"] ∨
    rule.status ∉ ["active", "revoked"] ∨
    (schemaVersion = 1 ∧ rule.validity.notAfter.isNone)) invalidWorkPolicy

namespace WorkPolicy

def validate (policy : WorkPolicy) : Except String Unit := do
  rejectIf ((policy.schema, policy.schemaVersion) ∉
      [("secs-devgraph-work-policy.v1", (1 : UInt64)), ("secs-devgraph-work-policy.v2", 2)] ∨
    policy.policyVersion = 0 ∨ policy.policyVersion > maxSafe ∨
    safeLabel policy.policyId 128 = false ∨ policy.audience ≠ "devgraph://receiver-local" ∨
    policy.rules.isEmpty ∨ policy.rules.length > 1000) invalidWorkPolicy
  policy.rules.forM (·.validate policy.schemaVersion)

end WorkPolicy

def WorkRule.applies (rule : WorkRule) (actor operation resource : String) : Bool :=
  rule.status = "active" && rule.actorId = actor && rule.operation = operation &&
    if rule.resourceMatch = "exact" then resource = rule.resource
    else startsWith resource rule.resource

/-- One turn of the inner loop over the bound so far and the longest allowance found. -/
def ruleStep (actor operation resource : String) (now lifetime : UInt64)
    (state : UInt64 × Option UInt64) (rule : WorkRule) :
    Except String (UInt64 × Option UInt64) :=
  let (expires, allowedUntil) := state
  if rule.applies actor operation resource = false ∨ rule.validity.notAfter.any (· ≤ now) then
    .ok state
  else if rule.effect = "deny" then
    if rule.validity.notBefore ≤ now then .error workPermissionDenied
    else .ok (min expires rule.validity.notBefore, allowedUntil)
  else if rule.validity.contains now then do
    let deadline ← rule.validity.credentialDeadline now lifetime
    return (expires, some (max (allowedUntil.getD 0) deadline))
  else .ok state

/-- One turn of the outer loop. -/
def resourceStep (rules : List WorkRule) (actor operation : String) (now lifetime expires : UInt64)
    (resource : String) : Except String UInt64 := do
  let (expires, allowedUntil) ←
    rules.foldlM (ruleStep actor operation resource now lifetime) (expires, none)
  let allowedUntil ← allowedUntil.elim (.error workPermissionDenied) .ok
  return min expires allowedUntil

def WorkPolicy.authorizeUntilBounded (policy : WorkPolicy) (actor : String) (request : WorkRequest)
    (now lifetime : UInt64) : Except String UInt64 := do
  policy.validate
  let expires ← ((checkedAdd now lifetime).filter (· ≤ maxSafe)).elim (.error "invalid_clock") .ok
  request.resources.foldlM
    (resourceStep policy.rules actor request.operation now lifetime) expires

/-! ## What a validated policy says -/

section

variable {rule : WorkRule}

theorem WorkRule.effect_of_validate {version : UInt64} {u : Unit}
    (h : rule.validate version = .ok u) : rule.effect = "allow" ∨ rule.effect = "deny" := by
  simp only [WorkRule.validate, bind_eq_ok, rejectIf_eq_ok, not_or, not_not] at h
  obtain ⟨_, _, _, _, -, -, -, heffect, -⟩ := h
  simpa using heffect

variable {policy : WorkPolicy}

theorem WorkPolicy.validate_eq_ok {u : Unit} :
    policy.validate = .ok u ↔
      ¬ ((policy.schema, policy.schemaVersion) ∉
          [("secs-devgraph-work-policy.v1", (1 : UInt64)), ("secs-devgraph-work-policy.v2", 2)] ∨
        policy.policyVersion = 0 ∨ policy.policyVersion > maxSafe ∨
        safeLabel policy.policyId 128 = false ∨ policy.audience ≠ "devgraph://receiver-local" ∨
        policy.rules.isEmpty ∨ policy.rules.length > 1000) ∧
      ∀ rule ∈ policy.rules, rule.validate policy.schemaVersion = .ok () := by
  simp only [WorkPolicy.validate, bind_eq_ok, rejectIf_eq_ok, forM_eq_ok, exists_and_right,
    exists_const]

def WorkRule.DeniesAt (rule : WorkRule) (t : UInt64) : Prop :=
  rule.effect = "deny" ∧ rule.validity.contains t = true

def WorkRule.AllowsAt (rule : WorkRule) (t : UInt64) : Prop :=
  rule.effect = "allow" ∧ rule.validity.contains t = true

def WorkRule.DeniesAfter (rule : WorkRule) (t : UInt64) : Prop :=
  rule.effect = "deny" ∧ t < rule.validity.notBefore

variable {validity : GrantValidity}

namespace GrantValidity

theorem contains_iff {now : UInt64} :
    validity.contains now = true ↔
      now ≤ maxSafe ∧ validity.notBefore ≤ now ∧ ∀ stop ∈ validity.notAfter, now < stop := by
  simp [contains, and_assoc, Option.all_eq_true]

/-- The end of a credential issued at `now` under a grant. -/
def deadline (validity : GrantValidity) (now lifetime : UInt64) : ℕ :=
  match validity.notAfter with
  | none => now.toNat + lifetime.toNat
  | some stop => min stop.toNat (now.toNat + lifetime.toNat)

theorem le_deadline_iff {now lifetime : UInt64} {x : ℕ} :
    x ≤ validity.deadline now lifetime ↔
      x ≤ now.toNat + lifetime.toNat ∧ ∀ stop ∈ validity.notAfter, x ≤ stop.toNat := by
  unfold deadline
  cases validity.notAfter with
  | none => simp
  | some stop => simp [and_comm]

end GrantValidity

theorem toNat_maxSafe : maxSafe.toNat = 9007199254740991 := rfl

theorem sum_lt_of_contains {now lifetime : UInt64} (h : validity.contains now = true)
    (hlifetime : lifetime.toNat ≤ 3600) : now.toNat + lifetime.toNat < 2 ^ 64 := by
  have hsafe := UInt64.le_iff_toNat_le.mp (GrantValidity.contains_iff.mp h).1
  rw [toNat_maxSafe] at hsafe
  omega

/-- The deadline of a grant in force, which is refused beyond the clock's range. -/
theorem credentialDeadline_eq_ok {now lifetime d : UInt64} (h : validity.contains now = true)
    (hlifetime : 1 ≤ lifetime.toNat ∧ lifetime.toNat ≤ 3600) :
    validity.credentialDeadline now lifetime = .ok d ↔
      d.toNat = validity.deadline now lifetime ∧ d ≤ maxSafe := by
  have hlife : 1 ≤ lifetime ∧ lifetime ≤ 3600 :=
    ⟨UInt64.le_iff_toNat_le.mpr hlifetime.1, UInt64.le_iff_toNat_le.mpr hlifetime.2⟩
  have hsum : (now + lifetime).toNat = now.toNat + lifetime.toNat := by
    rw [UInt64.toNat_add, Nat.mod_eq_of_lt (sum_lt_of_contains h hlifetime.2)]
  have hvalue : (match validity.notAfter with
      | none => now + lifetime
      | some stop => min stop (now + lifetime)).toNat = validity.deadline now lifetime := by
    unfold GrantValidity.deadline
    cases validity.notAfter with
    | none => exact hsum
    | some stop => rw [toNat_min, hsum]
  simp only [GrantValidity.credentialDeadline, bind_eq_ok, rejectIf_eq_ok, h, hlife, pure,
    Except.pure, Except.ok.injEq, exists_const, gt_iff_lt, UInt64.not_lt]
  rw [← hvalue, UInt64.toNat_inj]
  constructor
  · rintro ⟨-, hsafe, rfl⟩
    exact ⟨rfl, hsafe⟩
  · rintro ⟨rfl, hsafe⟩
    exact ⟨by simp, hsafe, rfl⟩

variable {actor operation resource : String} {rules : List WorkRule} {resources : List String}

section Window

variable {now lifetime : UInt64} (hrange : now.toNat + lifetime.toNat ≤ maxSafe.toNat)
  (hlifetime : 1 ≤ lifetime.toNat ∧ lifetime.toNat ≤ 3600)
include hrange hlifetime

/-- Within the clock's range a grant in force always has a deadline. -/
theorem credentialDeadline_of_contains (h : validity.contains now = true) :
    ∃ d, validity.credentialDeadline now lifetime = .ok d ∧
      d.toNat = validity.deadline now lifetime := by
  have hle := (GrantValidity.le_deadline_iff.mp (le_refl (validity.deadline now lifetime))).1
  have hd : (UInt64.ofNat (validity.deadline now lifetime)).toNat =
      validity.deadline now lifetime := by
    rw [toNat_maxSafe] at hrange
    exact UInt64.toNat_ofNat_of_lt (show _ < 2 ^ 64 by omega)
  refine ⟨_, (credentialDeadline_eq_ok h hlifetime).mpr ⟨hd, ?_⟩, hd⟩
  rw [UInt64.le_iff_toNat_le, hd]
  exact hle.trans hrange

omit hrange hlifetime in
theorem contains_of_running (hrange : now.toNat + lifetime.toNat ≤ maxSafe.toNat) :
    validity.contains now = true ↔
      validity.notBefore ≤ now ∧ validity.notAfter.any (· ≤ now) = false := by
  have hsafe : now ≤ maxSafe := by
    rw [UInt64.le_iff_toNat_le]
    omega
  rw [GrantValidity.contains_iff, and_iff_right hsafe]
  apply and_congr_right
  intro _
  cases validity.notAfter <;> simp

/-- An allowance that lasts to a time. -/
def Reaches (allowedUntil : Option UInt64) (x : ℕ) : Prop := ∃ d ∈ allowedUntil, x ≤ d.toNat

omit hrange hlifetime in
theorem reaches_max {a : Option UInt64} {d : UInt64} {x : ℕ} :
    Reaches (some (max (a.getD 0) d)) x ↔ Reaches a x ∨ x ≤ d.toNat := by
  have hmax : ∀ b : UInt64, (max b d).toNat = max b.toNat d.toNat := by
    intro b
    rw [show max b d = if b ≤ d then d else b from rfl]
    split
    · next h => exact (max_eq_right (UInt64.le_iff_toNat_le.mp h)).symm
    · next h => exact (max_eq_left (Nat.le_of_lt (UInt64.lt_iff_toNat_lt.mp
        (UInt64.not_le.mp h)))).symm
  cases a with
  | none => simp [Reaches, hmax]
  | some b => simp [Reaches, hmax]

/-- What one rule does to the bound and to the allowance, unless it forbids. -/
theorem ruleStep_spec (heffect : rule.effect = "allow" ∨ rule.effect = "deny") (e : UInt64)
    (a : Option UInt64)
    (hopen : ¬ (rule.applies actor operation resource = true ∧ rule.DeniesAt now)) :
    ∃ e' a', ruleStep actor operation resource now lifetime (e, a) rule = .ok (e', a') ∧
      (∀ x, x ≤ e'.toNat ↔ x ≤ e.toNat ∧ (rule.applies actor operation resource = true →
        rule.DeniesAfter now → x ≤ rule.validity.notBefore.toNat)) ∧
      ∀ x, Reaches a' x ↔ Reaches a x ∨ (rule.applies actor operation resource = true ∧
        rule.AllowsAt now ∧ x ≤ rule.validity.deadline now lifetime) := by
  by_cases happlies : rule.applies actor operation resource = true
  · by_cases hended : rule.validity.notAfter.any (· ≤ now) = true
    · -- a rule that is over does nothing, now or later
      have hnow : rule.validity.contains now ≠ true := by
        rw [Ne, contains_of_running hrange, hended]
        simp
      have hlater : ¬ rule.DeniesAfter now := by
        rintro ⟨-, hafter⟩
        obtain ⟨stop, hstop, hle⟩ := (Option.any_eq_true _ _).mp hended
        have hbefore := (rule.validity.ordered stop hstop).1
        rw [decide_eq_true_eq, UInt64.le_iff_toNat_le] at hle
        rw [UInt64.lt_iff_toNat_lt] at hafter hbefore
        omega
      refine ⟨e, a, by simp [ruleStep, hended], fun x => ?_, fun x => ?_⟩
      · simp [hlater]
      · simp [WorkRule.AllowsAt, hnow]
    · have hrunning : rule.validity.notAfter.any (· ≤ now) = false := by simpa using hended
      rcases heffect with hallow | hdeny
      · have hne : rule.effect ≠ "deny" := by rw [hallow]; decide
        by_cases hnow : rule.validity.contains now = true
        · obtain ⟨d, hd, hdeadline⟩ := credentialDeadline_of_contains hrange hlifetime hnow
          refine ⟨e, some (max (a.getD 0) d), ?_, fun x => ?_, fun x => ?_⟩
          · simp [ruleStep, happlies, hrunning, hne, hnow, hd, bind, Except.bind, pure, Except.pure]
          · simp [WorkRule.DeniesAfter, hne]
          · rw [reaches_max, hdeadline]
            simp [happlies, WorkRule.AllowsAt, hallow, hnow]
        · refine ⟨e, a, ?_, fun x => ?_, fun x => ?_⟩
          · simp [ruleStep, happlies, hrunning, hne, hnow]
          · simp [WorkRule.DeniesAfter, hne]
          · simp [WorkRule.AllowsAt, hnow]
      · have hne : rule.effect ≠ "allow" := by rw [hdeny]; decide
        have hlater : ¬ rule.validity.notBefore ≤ now := by
          intro hle
          exact hopen ⟨happlies, hdeny, (contains_of_running hrange).mpr ⟨hle, hrunning⟩⟩
        refine ⟨min e rule.validity.notBefore, a, ?_, fun x => ?_, fun x => ?_⟩
        · simp [ruleStep, happlies, hrunning, hdeny, hlater]
        · rw [toNat_min, le_min_iff]
          simp [happlies, WorkRule.DeniesAfter, hdeny, UInt64.not_le.mp hlater]
        · simp [WorkRule.AllowsAt, hne]
  · refine ⟨e, a, by simp [ruleStep, happlies], fun x => ?_, fun x => ?_⟩
    · simp [happlies]
    · simp [happlies]

omit hlifetime in
theorem ruleStep_denied (happlies : rule.applies actor operation resource = true)
    (hdenies : rule.DeniesAt now) (state : UInt64 × Option UInt64) :
    ruleStep actor operation resource now lifetime state rule = .error workPermissionDenied := by
  obtain ⟨hbefore, hrunning⟩ := (contains_of_running hrange).mp hdenies.2
  simp [ruleStep, happlies, hrunning, hdenies.1, hbefore]

/-- The rules let the actor act on the resource at this moment. -/
def Permitted (rules : List WorkRule) (actor operation : String) (now : UInt64)
    (resource : String) : Prop :=
  (∀ rule ∈ rules, ¬ (rule.applies actor operation resource = true ∧ rule.DeniesAt now)) ∧
    ∃ rule ∈ rules, rule.applies actor operation resource = true ∧ rule.AllowsAt now

/-- A time up to which the rules let the actor act on the resource: no rule starts to forbid before
it, and one that allows now lasts to it. -/
def Lasts (rules : List WorkRule) (actor operation : String) (now lifetime : UInt64) (x : ℕ)
    (resource : String) : Prop :=
  (∀ rule ∈ rules, rule.applies actor operation resource = true → rule.DeniesAfter now →
    x ≤ rule.validity.notBefore.toNat) ∧
  ∃ rule ∈ rules, rule.applies actor operation resource = true ∧ rule.AllowsAt now ∧
    x ≤ rule.validity.deadline now lifetime

/-- The run of the inner loop where no rule forbids now. -/
theorem rules_run (heffects : ∀ rule ∈ rules, rule.effect = "allow" ∨ rule.effect = "deny")
    (hopen : ∀ rule ∈ rules, ¬ (rule.applies actor operation resource = true ∧ rule.DeniesAt now))
    (e : UInt64) (a : Option UInt64) :
    ∃ e' a', rules.foldlM (ruleStep actor operation resource now lifetime) (e, a) =
        .ok (e', a') ∧
      (∀ x, x ≤ e'.toNat ↔ x ≤ e.toNat ∧ ∀ rule ∈ rules,
        rule.applies actor operation resource = true → rule.DeniesAfter now →
          x ≤ rule.validity.notBefore.toNat) ∧
      ∀ x, Reaches a' x ↔ Reaches a x ∨ ∃ rule ∈ rules,
        rule.applies actor operation resource = true ∧ rule.AllowsAt now ∧
          x ≤ rule.validity.deadline now lifetime := by
  induction rules generalizing e a with
  | nil => exact ⟨e, a, rfl, by simp, by simp⟩
  | cons rule rules ih =>
    rw [List.forall_mem_cons] at heffects hopen
    obtain ⟨e₁, a₁, hstep, hbound, hreach⟩ :=
      ruleStep_spec hrange hlifetime heffects.1 e a hopen.1
    obtain ⟨e₂, a₂, hrest, hbound', hreach'⟩ := ih heffects.2 hopen.2 e₁ a₁
    refine ⟨e₂, a₂, ?_, fun x => ?_, fun x => ?_⟩
    · rw [List.foldlM_cons, hstep]
      exact hrest
    · rw [hbound', hbound, List.forall_mem_cons, and_assoc]
    · rw [hreach', hreach, List.exists_mem_cons_iff, or_assoc]

theorem rules_run_denied (heffects : ∀ rule ∈ rules, rule.effect = "allow" ∨ rule.effect = "deny")
    (hdenied : ∃ rule ∈ rules, rule.applies actor operation resource = true ∧ rule.DeniesAt now)
    (state : UInt64 × Option UInt64) :
    rules.foldlM (ruleStep actor operation resource now lifetime) state =
      .error workPermissionDenied := by
  induction rules generalizing state with
  | nil => simp at hdenied
  | cons rule rules ih =>
    rw [List.forall_mem_cons] at heffects
    rw [List.foldlM_cons]
    by_cases hrule : rule.applies actor operation resource = true ∧ rule.DeniesAt now
    · rw [ruleStep_denied hrange hrule.1 hrule.2]
      rfl
    · obtain ⟨e, a⟩ := state
      obtain ⟨e', a', hstep, -⟩ := ruleStep_spec hrange hlifetime heffects.1 e a hrule
      rw [hstep]
      exact ih heffects.2 (((List.exists_mem_cons_iff ..).mp hdenied).resolve_left hrule) (e', a')

theorem resourceStep_permitted
    (heffects : ∀ rule ∈ rules, rule.effect = "allow" ∨ rule.effect = "deny")
    (h : Permitted rules actor operation now resource) (e : UInt64) :
    ∃ e', resourceStep rules actor operation now lifetime e resource = .ok e' ∧
      ∀ x, x ≤ e'.toNat ↔ x ≤ e.toNat ∧ Lasts rules actor operation now lifetime x resource := by
  obtain ⟨e₁, a, hrun, hbound, hreach⟩ := rules_run hrange hlifetime heffects h.1 e none
  have hnone : ∀ x, ¬ Reaches none x := by simp [Reaches]
  obtain ⟨rule, hrule, happlies, hallows⟩ := h.2
  obtain ⟨d, rfl, -⟩ : Reaches a 0 :=
    (hreach 0).mpr (.inr ⟨rule, hrule, happlies, hallows, Nat.zero_le _⟩)
  refine ⟨min e₁ d, ?_, fun x => ?_⟩
  · simp [resourceStep, hrun, bind, Except.bind, pure, Except.pure]
  · have hd : x ≤ d.toNat ↔ Reaches (some d) x := by simp [Reaches]
    rw [toNat_min, le_min_iff, hbound, hd, hreach, or_iff_right (hnone x), and_assoc]
    rfl

theorem resourceStep_refused
    (heffects : ∀ rule ∈ rules, rule.effect = "allow" ∨ rule.effect = "deny")
    (h : ¬ Permitted rules actor operation now resource) (e : UInt64) :
    resourceStep rules actor operation now lifetime e resource = .error workPermissionDenied := by
  by_cases hdenied : ∃ rule ∈ rules, rule.applies actor operation resource = true ∧
      rule.DeniesAt now
  · rw [resourceStep, rules_run_denied hrange hlifetime heffects hdenied]
    rfl
  · have hopen : ∀ rule ∈ rules, ¬ (rule.applies actor operation resource = true ∧
        rule.DeniesAt now) := fun rule hrule hdenies => hdenied ⟨rule, hrule, hdenies⟩
    obtain ⟨e₁, a, hrun, -, hreach⟩ := rules_run hrange hlifetime heffects hopen e none
    cases a with
    | none =>
      rw [resourceStep, hrun]
      rfl
    | some d =>
      have hsome : Reaches (some d) 0 := ⟨d, rfl, Nat.zero_le _⟩
      rcases (hreach 0).mp hsome with ⟨_, hnone, -⟩ | ⟨rule, hrule, happlies, hallows, -⟩
      · cases hnone
      · exact absurd ⟨hopen, rule, hrule, happlies, hallows⟩ h

theorem resources_run {actor operation : String}
    (heffects : ∀ rule ∈ rules, rule.effect = "allow" ∨ rule.effect = "deny")
    (h : ∀ resource ∈ resources, Permitted rules actor operation now resource) (e : UInt64) :
    ∃ e', resources.foldlM (resourceStep rules actor operation now lifetime) e = .ok e' ∧
      ∀ x, x ≤ e'.toNat ↔ x ≤ e.toNat ∧
        ∀ resource ∈ resources, Lasts rules actor operation now lifetime x resource := by
  induction resources generalizing e with
  | nil => exact ⟨e, rfl, by simp⟩
  | cons resource resources ih =>
    rw [List.forall_mem_cons] at h
    obtain ⟨e₁, hstep, hbound⟩ := resourceStep_permitted hrange hlifetime heffects h.1 e
    obtain ⟨e₂, hrest, hbound'⟩ := ih h.2 e₁
    refine ⟨e₂, ?_, fun x => ?_⟩
    · rw [List.foldlM_cons, hstep]
      exact hrest
    · rw [hbound', hbound, List.forall_mem_cons, and_assoc]

theorem resources_run_refused {actor operation : String}
    (heffects : ∀ rule ∈ rules, rule.effect = "allow" ∨ rule.effect = "deny")
    (h : ¬ ∀ resource ∈ resources, Permitted rules actor operation now resource) (e : UInt64) :
    resources.foldlM (resourceStep rules actor operation now lifetime) e =
      .error workPermissionDenied := by
  induction resources generalizing e with
  | nil => simp at h
  | cons resource resources ih =>
    rw [List.foldlM_cons]
    by_cases hresource : Permitted rules actor operation now resource
    · obtain ⟨e₁, hstep, -⟩ := resourceStep_permitted hrange hlifetime heffects hresource e
      rw [hstep]
      refine ih (fun hrest => h ?_) e₁
      rw [List.forall_mem_cons]
      exact ⟨hresource, hrest⟩
    · rw [resourceStep_refused hrange hlifetime heffects hresource]
      rfl

end Window

/-! ## The window of an authorization -/

theorem WorkPolicy.effects_of_validate (h : policy.validate = .ok ()) :
    ∀ rule ∈ policy.rules, rule.effect = "allow" ∨ rule.effect = "deny" := fun rule hrule =>
  WorkRule.effect_of_validate ((WorkPolicy.validate_eq_ok.mp h).2 rule hrule)

section Authorize

variable {policy : WorkPolicy} {actor : String} {request : WorkRequest} {now lifetime : UInt64}
  (hvalid : policy.validate = .ok ())
include hvalid

theorem authorize_outOfRange (h : maxSafe.toNat < now.toNat + lifetime.toNat) :
    policy.authorizeUntilBounded actor request now lifetime = .error "invalid_clock" := by
  have hclock : (checkedAdd now lifetime).filter (· ≤ maxSafe) = none := by
    rw [Option.filter_eq_none_iff]
    intro sum hsum
    rw [decide_eq_true_eq, UInt64.le_iff_toNat_le, toNat_of_checkedAdd hsum]
    omega
  rw [WorkPolicy.authorizeUntilBounded, hvalid, hclock]
  rfl

theorem authorize_inRange (h : now.toNat + lifetime.toNat ≤ maxSafe.toNat) :
    ∃ e : UInt64, e.toNat = now.toNat + lifetime.toNat ∧
      policy.authorizeUntilBounded actor request now lifetime = request.resources.foldlM
        (resourceStep policy.rules actor request.operation now lifetime) e := by
  have hadd := checkedAdd_of_lt (a := now) (b := lifetime) (by rw [toNat_maxSafe] at h; omega)
  have hsum := toNat_of_checkedAdd hadd
  have hclock : (checkedAdd now lifetime).filter (· ≤ maxSafe) = some (now + lifetime) := by
    rw [hadd, Option.filter_some, if_pos]
    rw [decide_eq_true_eq, UInt64.le_iff_toNat_le, hsum]
    exact h
  refine ⟨now + lifetime, hsum, ?_⟩
  rw [WorkPolicy.authorizeUntilBounded, hvalid, hclock]
  rfl

variable (hlifetime : 1 ≤ lifetime.toNat ∧ lifetime.toNat ≤ 3600)
include hlifetime

/-- The deadline, by the times that do not pass it. -/
theorem authorize_permitted (hrange : now.toNat + lifetime.toNat ≤ maxSafe.toNat)
    (h : ∀ resource ∈ request.resources,
      Permitted policy.rules actor request.operation now resource) :
    ∃ e, policy.authorizeUntilBounded actor request now lifetime = .ok e ∧
      ∀ x, x ≤ e.toNat ↔ x ≤ now.toNat + lifetime.toNat ∧ ∀ resource ∈ request.resources,
        Lasts policy.rules actor request.operation now lifetime x resource := by
  obtain ⟨start, hstart, hrun⟩ := @authorize_inRange policy actor request now lifetime hvalid hrange
  obtain ⟨e, hresources, hbound⟩ :=
    resources_run hrange hlifetime (WorkPolicy.effects_of_validate hvalid) h start
  rw [hstart] at hbound
  exact ⟨e, hrun.trans hresources, hbound⟩

theorem authorize_refused (hrange : now.toNat + lifetime.toNat ≤ maxSafe.toNat)
    (h : ¬ ∀ resource ∈ request.resources,
      Permitted policy.rules actor request.operation now resource) :
    policy.authorizeUntilBounded actor request now lifetime = .error workPermissionDenied := by
  obtain ⟨start, -, hrun⟩ := @authorize_inRange policy actor request now lifetime hvalid hrange
  exact hrun.trans
    (resources_run_refused hrange hlifetime (WorkPolicy.effects_of_validate hvalid) h start)

/-- An authorization is given in range and where every resource is permitted, and its deadline is
then the one above. -/
theorem authorize_eq_ok {e : UInt64}
    (h : policy.authorizeUntilBounded actor request now lifetime = .ok e) :
    now.toNat + lifetime.toNat ≤ maxSafe.toNat ∧
    (∀ resource ∈ request.resources,
      Permitted policy.rules actor request.operation now resource) ∧
    ∀ x, x ≤ e.toNat ↔ x ≤ now.toNat + lifetime.toNat ∧ ∀ resource ∈ request.resources,
      Lasts policy.rules actor request.operation now lifetime x resource := by
  by_cases hrange : now.toNat + lifetime.toNat ≤ maxSafe.toNat
  · by_cases hpermitted : ∀ resource ∈ request.resources,
        Permitted policy.rules actor request.operation now resource
    · obtain ⟨e', hok, hbound⟩ := authorize_permitted hvalid hlifetime hrange hpermitted
      cases h.symm.trans hok
      exact ⟨hrange, hpermitted, hbound⟩
    · cases h.symm.trans (authorize_refused hvalid hlifetime hrange hpermitted)
  · cases h.symm.trans (authorize_outOfRange hvalid (Nat.lt_of_not_le hrange))

end Authorize

theorem allowsAt_of_lasts {now lifetime t : UInt64} (hallows : rule.AllowsAt now)
    (hsafe : t ≤ maxSafe) (hle : now ≤ t) (h : t.toNat + 1 ≤ rule.validity.deadline now lifetime) :
    rule.AllowsAt t := by
  obtain ⟨-, hbefore, -⟩ := GrantValidity.contains_iff.mp hallows.2
  have hstops := (GrantValidity.le_deadline_iff.mp h).2
  refine ⟨hallows.1, GrantValidity.contains_iff.mpr ⟨hsafe, UInt64.le_trans hbefore hle, ?_⟩⟩
  intro stop hstop
  exact UInt64.lt_iff_toNat_lt.mpr (hstops stop hstop)

theorem not_deniesAt_of_lasts {now t : UInt64} (hnow : ¬ rule.DeniesAt now) (hsafe : now ≤ maxSafe)
    (hle : now ≤ t) (h : rule.DeniesAfter now → t.toNat + 1 ≤ rule.validity.notBefore.toNat) :
    ¬ rule.DeniesAt t := by
  rintro ⟨hdeny, hcontains⟩
  obtain ⟨-, hbefore, hstops⟩ := GrantValidity.contains_iff.mp hcontains
  by_cases hstarted : rule.validity.notBefore ≤ now
  · refine hnow ⟨hdeny, GrantValidity.contains_iff.mpr ⟨hsafe, hstarted, fun stop hstop => ?_⟩⟩
    have hstop' := UInt64.lt_iff_toNat_lt.mp (hstops stop hstop)
    rw [UInt64.le_iff_toNat_le] at hle
    exact UInt64.lt_iff_toNat_lt.mpr (by omega)
  · have hlater := h ⟨hdeny, UInt64.not_le.mp hstarted⟩
    rw [UInt64.le_iff_toNat_le] at hbefore
    omega

theorem eq_of_forall_le_iff {e e' : UInt64} (h : ∀ x, x ≤ e.toNat ↔ x ≤ e'.toNat) : e = e' :=
  UInt64.toNat_inj.mp (le_antisymm ((h _).mp le_rfl) ((h _).mpr le_rfl))

theorem not_permitted_iff {now : UInt64} : ¬ Permitted rules actor operation now resource ↔
      (¬ ∃ rule ∈ rules, rule.applies actor operation resource = true ∧ rule.AllowsAt now) ∨
      ∃ rule ∈ rules, rule.applies actor operation resource = true ∧ rule.DeniesAt now := by
  rw [Permitted, not_and_or, or_comm]
  apply or_congr Iff.rfl
  simp only [not_forall, not_not, exists_prop]

theorem WorkPolicy.validate_perm (hperm : rules.Perm policy.rules) (h : policy.validate = .ok ()) :
    ({ policy with rules := rules } : WorkPolicy).validate = .ok () := by
  have hempty : rules.isEmpty = policy.rules.isEmpty := by
    rw [Bool.eq_iff_iff, List.isEmpty_iff, List.isEmpty_iff, ← List.length_eq_zero_iff,
      hperm.length_eq, List.length_eq_zero_iff]
  rw [WorkPolicy.validate_eq_ok] at h ⊢
  simp only [hempty, hperm.length_eq, hperm.mem_iff]
  exact h

theorem authorize_perm {actor : String} {request : WorkRequest} {now lifetime : UInt64}
    (hvalid : policy.validate = .ok ()) (hlifetime : 1 ≤ lifetime.toNat ∧ lifetime.toNat ≤ 3600)
    (hrules : rules.Perm policy.rules) (hresources : resources.Perm request.resources) :
    ({ policy with rules := rules } : WorkPolicy).authorizeUntilBounded actor
        { request with resources := resources } now lifetime =
      policy.authorizeUntilBounded actor request now lifetime := by
  have hvalid' := WorkPolicy.validate_perm hrules hvalid
  have hpermitted : ∀ resource, Permitted rules actor request.operation now resource ↔
      Permitted policy.rules actor request.operation now resource := by
    simp only [Permitted, hrules.mem_iff, implies_true]
  have hlasts : ∀ x resource, Lasts rules actor request.operation now lifetime x resource ↔
      Lasts policy.rules actor request.operation now lifetime x resource := by
    simp only [Lasts, hrules.mem_iff, implies_true]
  by_cases hrange : now.toNat + lifetime.toNat ≤ maxSafe.toNat
  · by_cases hall : ∀ resource ∈ request.resources,
        Permitted policy.rules actor request.operation now resource
    · have hall' : ∀ resource ∈ resources, Permitted rules actor request.operation now resource :=
        fun resource hresource =>
          (hpermitted resource).mpr (hall resource (hresources.mem_iff.mp hresource))
      obtain ⟨e, hok, hbound⟩ := authorize_permitted hvalid hlifetime hrange hall
      obtain ⟨e', hok', hbound'⟩ := @authorize_permitted { policy with rules := rules } actor
        { request with resources := resources } now lifetime hvalid' hlifetime hrange hall'
      rw [hok, hok']
      congr 1
      apply eq_of_forall_le_iff
      intro x
      rw [hbound, hbound']
      simp only [hlasts, hresources.mem_iff]
    · rw [authorize_refused hvalid hlifetime hrange hall]
      apply authorize_refused hvalid' hlifetime hrange
      intro hall'
      exact hall fun resource hresource =>
        (hpermitted resource).mp (hall' resource (hresources.mem_iff.mpr hresource))
  · rw [authorize_outOfRange hvalid (Nat.lt_of_not_le hrange),
      authorize_outOfRange hvalid' (Nat.lt_of_not_le hrange)]

/-- The whole window that an authorization opens is covered: it is not empty and no longer than the
lifetime, and at every time in it each resource is allowed by a rule in force and forbidden by none.
It is refused just when the clock is out of range or a resource is not permitted now, in whatever
order rules and resources stand. -/
theorem work_policy_window_sound (policy : WorkPolicy) (actor : String) (request : WorkRequest)
    (now lifetime : UInt64) (hvalid : policy.validate = .ok ())
    (hlifetime : lifetime = 60 ∨ lifetime = 120) :
    (∀ e, policy.authorizeUntilBounded actor request now lifetime = .ok e →
      now < e ∧ e.toNat ≤ now.toNat + lifetime.toNat ∧
      ∀ t, now ≤ t → t < e → ∀ resource ∈ request.resources,
        (∃ rule ∈ policy.rules, rule.applies actor request.operation resource = true ∧
          rule.AllowsAt t) ∧
        ∀ rule ∈ policy.rules, rule.applies actor request.operation resource = true →
          ¬ rule.DeniesAt t) ∧
    ((∃ error, policy.authorizeUntilBounded actor request now lifetime = .error error) ↔
      maxSafe.toNat < now.toNat + lifetime.toNat ∨ ∃ resource ∈ request.resources,
        (¬ ∃ rule ∈ policy.rules, rule.applies actor request.operation resource = true ∧
          rule.AllowsAt now) ∨
        ∃ rule ∈ policy.rules, rule.applies actor request.operation resource = true ∧
          rule.DeniesAt now) ∧
    ∀ rules resources, rules.Perm policy.rules → resources.Perm request.resources →
      ({ policy with rules := rules } : WorkPolicy).authorizeUntilBounded actor
          { request with resources := resources } now lifetime =
        policy.authorizeUntilBounded actor request now lifetime := by
  have hbounds : 1 ≤ lifetime.toNat ∧ lifetime.toNat ≤ 3600 := by
    rcases hlifetime with rfl | rfl <;> decide
  refine ⟨fun e hok => ?_, ?_, fun rules resources => authorize_perm hvalid hbounds⟩
  · obtain ⟨hrange, hpermitted, hbound⟩ := authorize_eq_ok hvalid hbounds hok
    obtain ⟨hle, hlasts⟩ := (hbound _).mp le_rfl
    have hsafe : now ≤ maxSafe := UInt64.le_iff_toNat_le.mpr (by omega)
    refine ⟨?_, hle, fun t hnow ht resource hresource => ?_⟩
    · -- every bound that was taken is past the present
      rw [UInt64.lt_iff_toNat_lt]
      refine (hbound (now.toNat + 1)).mpr ⟨by omega, fun resource hresource => ?_⟩
      obtain ⟨rule, hrule, happlies, hallows⟩ := (hpermitted resource hresource).2
      refine ⟨fun other _ _ hafter => UInt64.lt_iff_toNat_lt.mp hafter.2, rule, hrule, happlies,
        hallows, GrantValidity.le_deadline_iff.mpr ⟨by omega, fun stop hstop => ?_⟩⟩
      exact UInt64.lt_iff_toNat_lt.mp ((GrantValidity.contains_iff.mp hallows.2).2.2 stop hstop)
    · have ht' := UInt64.lt_iff_toNat_lt.mp ht
      obtain ⟨hdenials, rule, hrule, happlies, hallows, hdeadline⟩ := hlasts resource hresource
      have hsafe' : t ≤ maxSafe := UInt64.le_iff_toNat_le.mpr (by omega)
      have hlong : t.toNat + 1 ≤ rule.validity.deadline now lifetime := by omega
      refine ⟨⟨rule, hrule, happlies, allowsAt_of_lasts hallows hsafe' hnow hlong⟩, ?_⟩
      intro other hother happlies'
      refine not_deniesAt_of_lasts (fun hdenies => (hpermitted resource hresource).1 other hother
        ⟨happlies', hdenies⟩) hsafe hnow fun hafter => ?_
      have := hdenials other hother happlies' hafter
      omega
  · simp only [← not_permitted_iff]
    constructor
    · rintro ⟨error, herror⟩
      by_contra hnone
      simp only [not_or, not_exists, not_and, not_not, not_lt] at hnone
      obtain ⟨e, hok, -⟩ := authorize_permitted hvalid hbounds hnone.1 hnone.2
      cases herror.symm.trans hok
    · rintro hrefused
      by_cases hrange : now.toNat + lifetime.toNat ≤ maxSafe.toNat
      · obtain ⟨resource, hresource, hnot⟩ := hrefused.resolve_left (Nat.not_lt.mpr hrange)
        exact ⟨_, authorize_refused hvalid hbounds hrange fun hall =>
          hnot (hall resource hresource)⟩
      · exact ⟨_, authorize_outOfRange hvalid (Nat.lt_of_not_le hrange)⟩

end

namespace Sample

def actor : String := "pubkey:sha256:" ++ String.ofList (List.replicate 64 'a')

def rule (effect : String) (validity : GrantValidity) : WorkRule where
  actorId := actor
  effect := effect
  validity := validity
  operation := "devgraph.work.patch.v1"
  resource := "Task/t"
  resourceMatch := "exact"
  status := "active"

def policy : WorkPolicy where
  audience := "devgraph://receiver-local"
  policyId := "p"
  policyVersion := 1
  rules := [rule "allow" ⟨50, some 200, by decide, by simp; decide⟩,
    rule "deny" ⟨130, some 140, by decide, by simp; decide⟩]
  schema := "secs-devgraph-work-policy.v1"
  schemaVersion := 1

def request : WorkRequest := ⟨.null, [], "devgraph.work.patch.v1", ["Task/t"]⟩

theorem policy_valid : policy.validate = .ok () := by decide

theorem sample_window : policy.authorizeUntilBounded actor request 100 60 = .ok 130 := by
  decide

theorem sample_window_sound :
    (100 : UInt64) < 130 ∧ ∀ t : UInt64, 100 ≤ t → t < 130 → ∀ resource ∈ request.resources,
      (∃ rule ∈ policy.rules, rule.applies actor request.operation resource = true ∧
        rule.AllowsAt t) ∧
      ∀ rule ∈ policy.rules, rule.applies actor request.operation resource = true →
        ¬ rule.DeniesAt t := by
  obtain ⟨hwindow, -⟩ := work_policy_window_sound policy actor request 100 60 policy_valid
    (.inl rfl)
  obtain ⟨hpast, -, hsound⟩ := hwindow 130 sample_window
  exact ⟨hpast, hsound⟩

end Sample

end WorkPolicies
