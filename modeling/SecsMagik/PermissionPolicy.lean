import SecsMagik.RustStd

/-! # Receiver-local permissions

A fail-closed, deny-wins evaluation of permission records against caller, opcode, operation,
resource and time.
-/
namespace PermissionPolicy

open RustStd

inductive AuthoritySource where
  | receiverLocal | dreggBacked | dreggAuthority
  deriving DecidableEq, Repr

inductive PermissionStatus where
  | active | revoked
  deriving DecidableEq, Repr

inductive PermissionEffect where
  | allow | deny
  deriving DecidableEq, Repr

inductive ResourceScope where
  | exact (value : String)
  | under (head : String)
  deriving DecidableEq, Repr

namespace ResourceScope

def covers : ResourceScope → String → Bool
  | exact value, resource => value = resource
  | under head, resource => startsWith resource head

def declaredValue : ResourceScope → String
  | exact value => value
  | under head => head

end ResourceScope

structure PermissionRecord where
  callerId : String
  opcode : UInt8
  operation : String
  resource : ResourceScope
  effect : PermissionEffect
  notBefore : UInt64
  notAfter : UInt64
  status : PermissionStatus
  authoritySource : AuthoritySource
  deriving DecidableEq

namespace PermissionRecord

def matchesRequest (r : PermissionRecord) (callerId : String) (opcode : UInt8)
    (operation resource : String) : Bool :=
  r.callerId = callerId && r.opcode = opcode && r.operation = operation &&
    r.resource.covers resource

def isApplicable (r : PermissionRecord) (now : UInt64) : Bool :=
  r.status = .active && r.authoritySource = .receiverLocal && r.notBefore ≤ now &&
    now < r.notAfter

def isValid (r : PermissionRecord) : Bool :=
  r.callerId ≠ "" && r.operation ≠ "" && r.resource.declaredValue ≠ "" && r.notBefore < r.notAfter

end PermissionRecord

inductive PermissionDecision where
  | allow
  deriving DecidableEq, Repr

inductive DenyReason where
  | noMatchingGrant | explicitDeny | revoked | expired | notYetValid | authoritySourceUnsupported
  deriving DecidableEq, Repr

def DenyReason.code : DenyReason → String
  | .noMatchingGrant => "permission_no_matching_grant"
  | .explicitDeny => "permission_explicit_deny"
  | .revoked => "permission_revoked"
  | .expired => "permission_expired"
  | .notYetValid => "permission_not_yet_valid"
  | .authoritySourceUnsupported => "permission_authority_source_unsupported"

inductive PolicyError where
  | empty | malformed | invalidRecord | unreadable
  deriving DecidableEq, Repr

/-- An ordered set of records that all passed validation. -/
structure Policy where
  records : List PermissionRecord
  valid : ∀ r ∈ records, r.isValid

def Policy.new (records : List PermissionRecord) : Except PolicyError Policy :=
  if h : ∀ r ∈ records, r.isValid then .ok ⟨records, h⟩ else .error .invalidRecord

/-- Why one matching record that allows does not apply. -/
def inapplicableReason (r : PermissionRecord) (now : UInt64) : DenyReason :=
  if r.status = .revoked then .revoked
  else if r.authoritySource ≠ .receiverLocal then .authoritySourceUnsupported
  else if r.notAfter ≤ now then .expired
  else if now < r.notBefore then .notYetValid
  else .noMatchingGrant

/-- The loop over matching allow records; a revoked record ends it. -/
def strongestReason (now : UInt64) : DenyReason → List PermissionRecord → DenyReason
  | reason, [] => reason
  | reason, r :: rest =>
    let candidate := inapplicableReason r now
    if candidate = .revoked then .revoked
    else strongestReason now (if reason = .noMatchingGrant then candidate else reason) rest

def mostInformativeInapplicableReason (matching : List PermissionRecord) (now : UInt64) :
    DenyReason :=
  strongestReason now .noMatchingGrant (matching.filter (·.effect = .allow))

def Policy.evaluate (policy : Policy) (callerId : String) (opcode : UInt8)
    (operation resource : String) (now : UInt64) : Except DenyReason PermissionDecision :=
  let matching := policy.records.filter (·.matchesRequest callerId opcode operation resource)
  if matching.isEmpty then .error .noMatchingGrant
  else if matching.any fun r => r.effect = .deny && r.isApplicable now then .error .explicitDeny
  else if matching.any fun r => r.effect = .allow && r.isApplicable now then .ok .allow
  else .error (mostInformativeInapplicableReason matching now)

end PermissionPolicy
