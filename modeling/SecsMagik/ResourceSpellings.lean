import SecsMagik.CallContext
import SecsMagik.PermissionPolicy
import SecsMagik.ResourcePaths

/-! # Spellings of a resource

One-use nullifiers are counted for the canonical form of a resource. Permission records and the
prefix of a delegated token are compared with the resource as the caller spelled it.
-/
namespace ResourceSpellings

open RustStd
open CallContext (VerificationError)
open PermissionPolicy ScopedNullifier

/-- The delegated prefix of a token against the requested resource. -/
def checkDelegatedPrefix : Option String → Option String → Except VerificationError Unit
  | none, _ => .ok ()
  | some _, none => .error .authorityAmplification
  | some head, some requested =>
    if startsWith requested head then .ok () else .error .authorityAmplification

/-- The resource lock of a token; what it gives is the verified lock. -/
def checkResourceLock : Option String → Option String → Except VerificationError (Option String)
  | none, _ => .ok none
  | some _, none => .error .resourceLockViolation
  | some locked, some requested =>
    if requested = locked then .ok (some requested) else .error .resourceLockViolation

/-- The checks of a parsed token that read the requested resource. -/
def checkTokenResource (delegatedResourcePrefix resourceLock requestedResource : Option String) :
    Except VerificationError (Option String) := do
  checkDelegatedPrefix delegatedResourcePrefix requestedResource
  checkResourceLock resourceLock requestedResource

variable {resource other : String}

theorem checkTokenResource_of_scope (head : String) :
    checkTokenResource (some head) none (some resource) =
      if startsWith resource head then .ok none else .error .authorityAmplification := by
  by_cases h : startsWith resource head
  · rw [checkTokenResource, checkDelegatedPrefix, if_pos h, if_pos h]
    rfl
  · rw [checkTokenResource, checkDelegatedPrefix, if_neg h, if_neg h]
    rfl

/-- A resource is told apart from any other by what it starts with. -/
theorem eq_of_startsWith (h : startsWith resource other) (hother : startsWith other resource) :
    resource = other := by
  rw [← String.toList_inj]
  have hprefix : resource.toList <+: other.toList := startsWith_iff.mp hother
  have hlength := (startsWith_iff.mp h).length_le
  exact hprefix.eq_of_length_le hlength

/-- A record that allows one resource alone, at time zero. -/
def exactRecord (resource : String) : PermissionRecord where
  callerId := "caller"
  opcode := 0
  operation := "operation"
  resource := .exact resource
  effect := .allow
  notBefore := 0
  notAfter := 1
  status := .active
  authoritySource := .receiverLocal

def exactPolicy (resource : String) (h : resource ≠ "") : Policy where
  records := [exactRecord resource]
  valid := by
    intro r hr
    rw [List.mem_singleton.mp hr]
    simp [PermissionRecord.isValid, exactRecord, ResourceScope.declaredValue, h]

theorem evaluate_exactPolicy (h : resource ≠ "") (requested : String) :
    (exactPolicy resource h).evaluate "caller" 0 "operation" requested 0 =
      if resource = requested then .ok .allow else .error .noMatchingGrant := by
  by_cases heq : resource = requested <;>
    simp [Policy.evaluate, exactPolicy, exactRecord, PermissionRecord.matchesRequest,
      PermissionRecord.isApplicable, ResourceScope.covers, heq]

/-- Two spellings of one canonical resource get the same verdicts from every policy exactly if they
are one spelling, and the same verdicts from every delegated prefix exactly then. -/
theorem verdicts_agree_iff {canonical : String} (h : canonicalResourceId resource = .ok canonical)
    (hother : canonicalResourceId other = .ok canonical) :
    ((∀ (policy : Policy) (callerId : String) (opcode : UInt8) (operation : String) (now : UInt64),
        policy.evaluate callerId opcode operation resource now =
          policy.evaluate callerId opcode operation other now) ↔
      pathOf resource = pathOf other) ∧
    ((∀ delegatedPrefix : String,
        checkTokenResource (some delegatedPrefix) none (some resource) =
          checkTokenResource (some delegatedPrefix) none (some other)) ↔
      pathOf resource = pathOf other) := by
  obtain ⟨hform, hblank, -⟩ := canonicalResourceId_eq_ok.mp h
  obtain ⟨hotherForm, -, -⟩ := canonicalResourceId_eq_ok.mp hother
  -- Both carry the scheme, so their paths decide whether they are the same string.
  have hpath : pathOf resource = pathOf other ↔ resource = other := by
    constructor
    · intro hsame
      rw [hform, hotherForm, hsame]
    · intro hsame
      rw [hsame]
  rw [hpath]
  constructor
  · constructor
    · intro hagree
      have hne : resource ≠ "" := by
        intro hempty
        rw [hempty] at h
        cases h
      by_contra hdiffer
      have hverdict := hagree (exactPolicy resource hne) "caller" 0 "operation" 0
      rw [evaluate_exactPolicy, evaluate_exactPolicy, if_pos rfl, if_neg hdiffer] at hverdict
      cases hverdict
    · intro hsame policy callerId opcode operation now
      rw [hsame]
  · constructor
    · intro hagree
      have hstarts : ∀ head, startsWith resource head = startsWith other head := by
        intro head
        have hverdict := hagree head
        rw [checkTokenResource_of_scope, checkTokenResource_of_scope] at hverdict
        by_cases hleft : startsWith resource head <;> by_cases hright : startsWith other head <;>
          simp [hleft, hright] at hverdict ⊢
      have hself : ∀ s, startsWith s s := fun s => startsWith_iff.mpr List.prefix_rfl
      apply eq_of_startsWith
      · rw [hstarts]
        exact hself other
      · rw [← hstarts]
        exact hself resource
    · intro hsame head
      rw [hsame]

namespace Sample

def escapingSpelling : String := "file:///srv/data/../secret"

def dodgingSpelling : String := "file:///srv//secret"

def plainSpelling : String := "file:///srv/secret"

theorem spellings_canonical :
    canonicalResourceId escapingSpelling = .ok plainSpelling ∧
      canonicalResourceId dodgingSpelling = .ok plainSpelling ∧
      canonicalResourceId plainSpelling = .ok plainSpelling := by
  decide

theorem dodging_verdicts_differ :
    canonicalResourceId dodgingSpelling = canonicalResourceId plainSpelling ∧
      ¬ ∀ delegatedPrefix : String,
        checkTokenResource (some delegatedPrefix) none (some dodgingSpelling) =
          checkTokenResource (some delegatedPrefix) none (some plainSpelling) := by
  obtain ⟨-, hdodging, hplain⟩ := spellings_canonical
  refine ⟨hdodging.trans hplain.symm, ?_⟩
  rw [(verdicts_agree_iff hdodging hplain).2]
  decide

def directoryPolicy : Policy where
  records := [{ exactRecord "" with resource := .under "file:///srv/data" }]
  valid := by decide

def denyingPolicy : Policy where
  records :=
    [{ exactRecord "" with resource := .under "file:///srv" },
      { exactRecord plainSpelling with effect := .deny }]
  valid := by decide

/-- Dot segments escape a granted prefix and a delegated one; a doubled slash dodges a denial. -/
theorem respelled_secret :
    canonicalResourceId escapingSpelling = canonicalResourceId plainSpelling ∧
      directoryPolicy.evaluate "caller" 0 "operation" escapingSpelling 0 = .ok .allow ∧
      directoryPolicy.evaluate "caller" 0 "operation" plainSpelling 0 = .error .noMatchingGrant ∧
      checkTokenResource (some "file:///srv/data") none (some escapingSpelling) = .ok none ∧
      checkTokenResource (some "file:///srv/data") none (some plainSpelling) =
        .error .authorityAmplification ∧
      canonicalResourceId dodgingSpelling = canonicalResourceId plainSpelling ∧
      denyingPolicy.evaluate "caller" 0 "operation" dodgingSpelling 0 = .ok .allow ∧
      denyingPolicy.evaluate "caller" 0 "operation" plainSpelling 0 = .error .explicitDeny := by
  decide +kernel

end Sample

end ResourceSpellings
