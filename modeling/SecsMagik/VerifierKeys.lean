import SecsMagik.CallContext

/-! # Verifier identities and the public key registry

The receiver holds one registry of verifier keys. A key id that was configured twice is never
trusted, and a key only counts while its status and validity window allow it.
-/
namespace VerifierKeys

open RustStd
open ExternalCrates (Crates)
open CallContext

inductive VerificationKeyStatus where
  | active | revoked | expired | unknown | notYetValid
  deriving DecidableEq, Repr

structure PublicVerifierKey where
  keyId : String
  algorithm : String
  publicKey : Bytes 32
  status : VerificationKeyStatus
  notBefore : Option UInt64
  notAfter : Option UInt64
  revokedAt : Option UInt64
  replacedBy : Option String
  productionAuthority : Bool
  deriving DecidableEq

variable {now : UInt64}

namespace PublicVerifierKey

def active (keyId algorithm : String) (publicKey : Bytes 32) : PublicVerifierKey where
  keyId := keyId
  algorithm := algorithm
  publicKey := publicKey
  status := .active
  notBefore := none
  notAfter := none
  revokedAt := none
  replacedBy := none
  productionAuthority := false

def configuredProductionAuthority (keyId algorithm : String) (publicKey : Bytes 32) :
    PublicVerifierKey :=
  { active keyId algorithm publicKey with productionAuthority := true }

def ensureActiveAt (key : PublicVerifierKey) (now : UInt64) : Except VerificationError Unit :=
  match key.status with
  | .revoked => .error .revokedVerifierKey
  | .expired => .error .expiredVerifierKey
  | .unknown => .error .unknownVerifierKey
  | .notYetValid => .error .notYetValidVerifierKey
  | .active =>
    if key.notBefore.any (now < ·) then .error .notYetValidVerifierKey
    else if key.notAfter.any (· < now) then .error .expiredVerifierKey
    else if key.revokedAt.any (· ≤ now) then .error .revokedVerifierKey
    else .ok ()

structure ActiveAt (key : PublicVerifierKey) (now : UInt64) : Prop where
  status : key.status = .active
  not_before : ∀ t, key.notBefore = some t → t ≤ now
  not_after : ∀ t, key.notAfter = some t → now ≤ t
  not_revoked : ∀ t, key.revokedAt = some t → now < t

theorem ensureActiveAt_ok_iff {key : PublicVerifierKey} :
    key.ensureActiveAt now = .ok () ↔ key.ActiveAt now := by
  unfold ensureActiveAt
  constructor
  · intro h
    split at h <;> try cases h
    next hstatus =>
      split_ifs at h with h₁ h₂ h₃
      refine ⟨hstatus, ?_, ?_, ?_⟩ <;> intro t ht <;> simp_all
  · rintro ⟨hstatus, h₁, h₂, h₃⟩
    have hbefore : key.notBefore.any (now < ·) = false := by
      cases hb : key.notBefore with
      | none => rfl
      | some t => simpa using h₁ t hb
    have hafter : key.notAfter.any (· < now) = false := by
      cases ha : key.notAfter with
      | none => rfl
      | some t => simpa using h₂ t ha
    have hrevoked : key.revokedAt.any (· ≤ now) = false := by
      cases hr : key.revokedAt with
      | none => rfl
      | some t => simpa using h₃ t hr
    simp [hstatus, hbefore, hafter, hrevoked]

end PublicVerifierKey

/-- `keys` holds the last key configured for an id; ids configured more than once are marked. -/
structure PublicVerifierKeyRegistry where
  keys : String → Option PublicVerifierKey
  duplicateKeyIds : String → Bool

namespace PublicVerifierKeyRegistry

def insert (registry : PublicVerifierKeyRegistry) (key : PublicVerifierKey) :
    PublicVerifierKeyRegistry where
  keys id := if id = key.keyId then some key else registry.keys id
  duplicateKeyIds id :=
    registry.duplicateKeyIds id || (id == key.keyId && (registry.keys id).isSome)

def fromKeys (keys : List PublicVerifierKey) : PublicVerifierKeyRegistry :=
  keys.foldl insert ⟨fun _ => none, fun _ => false⟩

/-- The unique active key of an id, as every check of a signature looks it up first. -/
def activeKey (registry : PublicVerifierKeyRegistry) (keyId : String) (now : UInt64) :
    Except VerificationError PublicVerifierKey :=
  match registry.keys keyId with
  | none => .error .unknownVerifierKey
  | some key =>
    if registry.duplicateKeyIds keyId then .error .unknownVerifierKey
    else (key.ensureActiveAt now).map fun _ => key

def verifySignedContext (crates : Crates) (registry : PublicVerifierKeyRegistry)
    (signed : SignedVerifiedCallContext) (expectedAudience : String) (now : UInt64) :
    Except VerificationError Unit := do
  let key ← registry.activeKey signed.signerKeyId now
  signed.verifyEd25519WithKey crates key.publicKey expectedAudience now

def verifyProductionSignedContext (crates : Crates) (registry : PublicVerifierKeyRegistry)
    (signed : SignedVerifiedCallContext) (expectedAudience : String) (now : UInt64) :
    Except VerificationError Unit := do
  let key ← registry.activeKey signed.signerKeyId now
  if key.productionAuthority = false ∨ key.algorithm ≠ "ed25519" ∨
      signed.authenticatorKind ≠ .ed25519NodeAndVerifier then
    .error .untrustedVerifierKey
  else signed.verifyEd25519WithKey crates key.publicKey expectedAudience now

/-- `key` is what the registry trusts under `keyId` at time `now`. -/
structure Trusts (registry : PublicVerifierKeyRegistry) (keyId : String) (now : UInt64)
    (key : PublicVerifierKey) : Prop where
  registered : registry.keys keyId = some key
  unique : registry.duplicateKeyIds keyId = false
  active : key.ActiveAt now

variable {registry : PublicVerifierKeyRegistry}

theorem activeKey_ok_iff {keyId : String} {key : PublicVerifierKey} :
    registry.activeKey keyId now = .ok key ↔ registry.Trusts keyId now key := by
  unfold activeKey
  constructor
  · intro h
    split at h
    · cases h
    · next key' hkey =>
        split_ifs at h with hdup
        cases hactive : key'.ensureActiveAt now with
        | error e => rw [hactive] at h; cases h
        | ok u =>
          rw [hactive] at h
          cases h
          exact ⟨hkey, by simpa using hdup, PublicVerifierKey.ensureActiveAt_ok_iff.mp hactive⟩
  · rintro ⟨hkey, hdup, hactive⟩
    simp [hkey, hdup, PublicVerifierKey.ensureActiveAt_ok_iff.mpr hactive, Except.map]

theorem verifySignedContext_ok_iff {crates : Crates} {signed : SignedVerifiedCallContext}
    {expectedAudience : String} :
    registry.verifySignedContext crates signed expectedAudience now = .ok () ↔
      ∃ key, registry.Trusts signed.signerKeyId now key ∧
        SignatureHolds crates signed key.publicKey expectedAudience now := by
  unfold verifySignedContext
  cases hkey : registry.activeKey signed.signerKeyId now with
  | error e =>
    constructor
    · intro h; cases h
    · rintro ⟨key, htrusts, -⟩
      rw [activeKey_ok_iff.mpr htrusts] at hkey
      cases hkey
  | ok key =>
    have htrusts := activeKey_ok_iff.mp hkey
    constructor
    · intro h
      exact ⟨key, htrusts, verifyEd25519WithKey_ok_iff.mp h⟩
    · rintro ⟨key', htrusts', hsig⟩
      cases htrusts.registered.symm.trans htrusts'.registered
      exact verifyEd25519WithKey_ok_iff.mpr hsig

/-- Production accepts no context that the plain check would refuse. -/
theorem verifySignedContext_of_production {crates : Crates} {signed : SignedVerifiedCallContext}
    {expectedAudience : String}
    (h : registry.verifyProductionSignedContext crates signed expectedAudience now = .ok ()) :
    registry.verifySignedContext crates signed expectedAudience now = .ok () := by
  unfold verifyProductionSignedContext at h
  unfold verifySignedContext
  cases hkey : registry.activeKey signed.signerKeyId now with
  | error e => rw [hkey] at h; cases h
  | ok key =>
    rw [hkey] at h
    change (if _ then _ else _) = _ at h
    split_ifs at h
    exact h

end PublicVerifierKeyRegistry

structure NodeVerifierIdentity where
  signerKeyId : String
  signingKey : Bytes 32
  authenticatorKind : AuthenticatorKind

namespace NodeVerifierIdentity

def publicVerifierKey (crates : Crates) (identity : NodeVerifierIdentity) : PublicVerifierKey :=
  let publicKey := crates.publicKey identity.signingKey
  match identity.authenticatorKind with
  | .localDevUntrusted => .active identity.signerKeyId "ed25519" publicKey
  | _ => .configuredProductionAuthority identity.signerKeyId "ed25519" publicKey

def signContext (crates : Crates) (identity : NodeVerifierIdentity)
    (context : VerifiedCallContext) : SignedVerifiedCallContext :=
  context.signEd25519 crates identity.signerKeyId identity.signingKey identity.authenticatorKind

/-- The registry a router starts with: its own key and no other. -/
def ownRegistry (crates : Crates) (identity : NodeVerifierIdentity) : PublicVerifierKeyRegistry :=
  .fromKeys [identity.publicVerifierKey crates]

end NodeVerifierIdentity

end VerifierKeys
