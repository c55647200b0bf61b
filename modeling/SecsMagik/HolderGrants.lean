import SecsMagik.GrantContract

/-! # Issuing, deriving and presenting

The functions both versions of the grant format share, with the checks each of them makes set out
as one predicate, and version 1 of the format.
-/
namespace HolderGrants

open RustStd WireCodec CanonicalJson
open ExternalCrates (Crates Strict)
open GrantContract

/-- What differs between the versions of the format. -/
structure Version (P : Type) where
  invalid : String
  grant : String
  credential : String
  presentation : String
  grantDomain : String
  credentialDomain : String
  presentationDomain : String
  permissionJson : P → Json
  /-- the check of a grant's permissions, for the grant's service -/
  permissions : String → List P → Result Unit
  permissionsWithin : List P → List P → Result Unit

namespace Version

variable {P : Type} (crates : Crates) (strict : Strict crates) (version : Version P)

def validateGrant (pin : IssuerPin) (c : GrantClaims P) (now : UInt64) : Result Unit := do
  let b ← canonical (c.toJson version.permissionJson)
  rejectIf (maxRootClaims < b.length) version.invalid
  [pin.issuer, pin.keyId, pin.service].forM text
  let _ ← key crates strict pin.publicKey
  let _ ← hex 16 c.grantId
  let _ ← hex 32 c.revision
  let _ ← key crates strict c.holderPublicKey
  hexIfSome c.installationId
  rejectIf (c.schema ≠ version.grant ∨ c.issuer ≠ pin.issuer ∨ c.keyId ≠ pin.keyId ∨
    c.service ≠ pin.service ∨ c.onwardDelegation ∨ c.validity.contains now = false ∨
    ¬ (60 ≤ c.maxCredentialLifetimeSeconds ∧ c.maxCredentialLifetimeSeconds ≤ 3600))
    version.invalid
  version.permissions c.service c.permissions

def issueGrant (pin : IssuerPin) (claims : GrantClaims P) (k : Bytes 32) (now : UInt64) :
    Result (Grant P) := do
  version.validateGrant crates strict pin claims now
  rejectIf (publicKeyHex crates k ≠ pin.publicKey) version.invalid
  let signature ← sign crates version.grantDomain (claims.toJson version.permissionJson) k
  return ⟨claims, signature⟩

def verifyGrant (pin : IssuerPin) (g : Grant P) (now : UInt64) : Result Unit := do
  version.validateGrant crates strict pin g.claims now
  verify crates strict version.grantDomain (g.claims.toJson version.permissionJson) g.signature
    pin.publicKey

def validateCredential (pin : IssuerPin) (c : Credential P) (now : UInt64) : Result Unit := do
  version.verifyGrant crates strict pin c.grant now
  let x := c.claims
  let g := c.grant.claims
  let _ ← hex 16 x.credentialId
  rejectIf (x.schema ≠ version.credential) version.invalid
  let grantDigest ← digest crates (c.grant.toJson version.permissionJson)
  rejectIf (x.grantDigest ≠ grantDigest ∨ x.holderPublicKey ≠ g.holderPublicKey ∨
    now < x.issuedAt ∨ x.expiresAt ≤ now ∨ safeMax < x.expiresAt.toNat ∨
    g.maxCredentialLifetimeSeconds < x.expiresAt - x.issuedAt ∨
    g.validity.contains x.issuedAt = false ∨ g.validity.stop.any (· < x.expiresAt) ∨
    g.installationId.any (some · ≠ x.installationId)) version.invalid
  hexIfSome x.installationId
  version.permissionsWithin x.permissions g.permissions

def deriveCredential (pin : IssuerPin) (grant : Grant P) (permissions : List P)
    (installationId : Option String) (credentialId : String) (issuedAt expiresAt : UInt64)
    (k : Bytes 32) : Result (Credential P) := do
  let grantDigest ← digest crates (grant.toJson version.permissionJson)
  let claims : CredentialClaims P := {
    schema := version.credential
    credentialId, grantDigest
    holderPublicKey := publicKeyHex crates k
    installationId, permissions, issuedAt, expiresAt }
  version.validateCredential crates strict pin ⟨grant, claims, ""⟩ issuedAt
  let signature ← sign crates version.credentialDomain (claims.toJson version.permissionJson) k
  let c : Credential P := ⟨grant, claims, signature⟩
  let _ ← canonical (c.toJson version.permissionJson)
  return c

def verifyCredential (pin : IssuerPin) (c : Credential P) (now : UInt64) : Result Unit := do
  let _ ← canonical (c.toJson version.permissionJson)
  version.validateCredential crates strict pin c now
  verify crates strict version.credentialDomain (c.claims.toJson version.permissionJson)
    c.signature c.claims.holderPublicKey

def present (pin : IssuerPin) (c : Credential P) (call : Json) (nonce : String) (now : UInt64)
    (k : Bytes 32) : Result Proof := do
  version.verifyCredential crates strict pin c now
  rejectIf (publicKeyHex crates k ≠ c.claims.holderPublicKey) version.invalid
  let _ ← hex 16 nonce
  let credentialDigest ← digest crates (c.toJson version.permissionJson)
  let callDigest ← digest crates call
  let limit ← (checkedAdd now 60).elim (.error version.invalid) .ok
  let p : Proof := {
    schema := version.presentation
    credentialDigest, callDigest, nonce
    issuedAt := now
    expiresAt := min limit c.claims.expiresAt
    signature := "" }
  let signature ← sign crates version.presentationDomain (proofClaims p) k
  let p := { p with signature }
  let b ← canonical (presentationJson (c.toJson version.permissionJson) call p.toJson)
  rejectIf (maxPresentation < b.length) version.invalid
  return p

def verifyPresentation (pin : IssuerPin) (c : Credential P) (call : Json) (p : Proof)
    (now : UInt64) : Result Unit := do
  version.verifyCredential crates strict pin c now
  let _ ← hex 16 p.nonce
  rejectIf (p.schema ≠ version.presentation) version.invalid
  let credentialDigest ← digest crates (c.toJson version.permissionJson)
  rejectIf (p.credentialDigest ≠ credentialDigest) version.invalid
  let callDigest ← digest crates call
  rejectIf (p.callDigest ≠ callDigest ∨ p.issuedAt < c.claims.issuedAt ∨ now < p.issuedAt ∨
    p.expiresAt ≤ now ∨ c.claims.expiresAt < p.expiresAt ∨ 60 < p.expiresAt - p.issuedAt)
    version.invalid
  verify crates strict version.presentationDomain (proofClaims p) p.signature
    c.claims.holderPublicKey

/-! ## What the checks establish -/

section Checked

variable {version}

/-- The checks on a grant that do not depend on the time. -/
structure GrantChecked (version : Version P) (pin : IssuerPin) (c : GrantClaims P) : Prop where
  canonical : Canonical (c.toJson version.permissionJson)
  size : (c.toJson version.permissionJson).size ≤ maxRootClaims
  pinText : ∀ s ∈ [pin.issuer, pin.keyId, pin.service], text s = .ok ()
  pinKey : IsKey crates strict pin.publicKey
  grantId : IsHex 16 c.grantId
  revision : IsHex 32 c.revision
  holderKey : IsKey crates strict c.holderPublicKey
  installationId : ∀ i, c.installationId = some i → IsHex 16 i
  schema : c.schema = version.grant
  issuer : c.issuer = pin.issuer
  keyId : c.keyId = pin.keyId
  service : c.service = pin.service
  onwardDelegation : c.onwardDelegation = false
  lifetime : 60 ≤ c.maxCredentialLifetimeSeconds ∧ c.maxCredentialLifetimeSeconds ≤ 3600
  permissions : version.permissions c.service c.permissions = .ok ()

variable {crates strict} {pin : IssuerPin}

variable {now : UInt64}

theorem validateGrant_eq_ok {c : GrantClaims P} :
    version.validateGrant crates strict pin c now = .ok () ↔
      GrantChecked crates strict version pin c ∧ c.validity.contains now := by
  unfold validateGrant
  simp only [bind_eq_ok, canonical_eq_ok, rejectIf_eq_ok, forM_eq_ok, hexIfSome_eq_ok,
    exists_and_right, exists_const, not_or, ne_eq, not_not, Bool.not_eq_true, Bool.not_eq_false,
    and_assoc, exists_and_left, exists_eq_left', Json.length_bytes, Nat.not_lt]
  constructor
  · rintro ⟨hcanonical, hsize, hpin, hpinKey, hgrantId, hrevision, hholder, hinstallation, hschema,
      hissuer, hkeyId, hservice, honward, hvalidity, hmin, hmax, hpermissions⟩
    exact ⟨⟨hcanonical, hsize, hpin, hpinKey, hgrantId, hrevision, hholder, hinstallation, hschema,
      hissuer, hkeyId, hservice, honward, ⟨hmin, hmax⟩, hpermissions⟩, hvalidity⟩
  · rintro ⟨h, hvalidity⟩
    exact ⟨h.canonical, h.size, h.pinText, h.pinKey, h.grantId, h.revision, h.holderKey,
      h.installationId, h.schema, h.issuer, h.keyId, h.service, h.onwardDelegation, hvalidity,
      h.lifetime.1, h.lifetime.2, h.permissions⟩

variable {k : Bytes 32}

theorem issueGrant_eq_ok {claims : GrantClaims P} {g : Grant P} :
    version.issueGrant crates strict pin claims k now = .ok g ↔
      GrantChecked crates strict version pin claims ∧ claims.validity.contains now ∧
        publicKeyHex crates k = pin.publicKey ∧ g.claims = claims ∧
        sign crates version.grantDomain (claims.toJson version.permissionJson) k =
          .ok g.signature := by
  unfold issueGrant
  rw [check_bind_eq_ok, validateGrant_eq_ok, check_bind_eq_ok, rejectIf_eq_ok, bind_eq_ok, not_not]
  constructor
  · rintro ⟨⟨hchecked, hnow⟩, hkey, signature, hsign, hg⟩
    cases hg
    exact ⟨hchecked, hnow, hkey, rfl, hsign⟩
  · rintro ⟨hchecked, hnow, hkey, rfl, hsign⟩
    exact ⟨⟨hchecked, hnow⟩, hkey, g.signature, hsign, rfl⟩

variable (crates strict) in
/-- A grant whose claims pass the checks and whose signature verifies. -/
structure GrantVerified (version : Version P) (pin : IssuerPin) (g : Grant P) : Prop where
  checked : GrantChecked crates strict version pin g.claims
  signature : verify crates strict version.grantDomain (g.claims.toJson version.permissionJson)
    g.signature pin.publicKey = .ok ()

theorem verifyGrant_eq_ok {g : Grant P} :
    version.verifyGrant crates strict pin g now = .ok () ↔
      GrantVerified crates strict version pin g ∧ g.claims.validity.contains now := by
  unfold verifyGrant
  rw [check_bind_eq_ok, validateGrant_eq_ok]
  constructor
  · rintro ⟨⟨hchecked, hnow⟩, hsignature⟩
    exact ⟨⟨hchecked, hsignature⟩, hnow⟩
  · rintro ⟨⟨hchecked, hsignature⟩, hnow⟩
    exact ⟨⟨hchecked, hnow⟩, hsignature⟩

variable (crates strict) in
/-- The checks on a credential that do not depend on the time. -/
structure CredentialChecked (version : Version P) (pin : IssuerPin) (grant : Grant P)
    (x : CredentialClaims P) : Prop where
  granted : GrantVerified crates strict version pin grant
  credentialId : IsHex 16 x.credentialId
  schema : x.schema = version.credential
  grantDigest : digest crates (grant.toJson version.permissionJson) = .ok x.grantDigest
  holderPublicKey : x.holderPublicKey = grant.claims.holderPublicKey
  safe : x.expiresAt.toNat ≤ safeMax
  lifetime : x.expiresAt - x.issuedAt ≤ grant.claims.maxCredentialLifetimeSeconds
  validity : grant.claims.validity.contains x.issuedAt
  stop : ∀ e, grant.claims.validity.stop = some e → x.expiresAt ≤ e
  bound : ∀ i, grant.claims.installationId = some i → some i = x.installationId
  installationId : ∀ i, x.installationId = some i → IsHex 16 i
  permissions : version.permissionsWithin x.permissions grant.claims.permissions = .ok ()

theorem CredentialChecked.contains {grant : Grant P} {x : CredentialClaims P}
    (h : CredentialChecked crates strict version pin grant x) (hissued : x.issuedAt ≤ now)
    (hexpires : now < x.expiresAt) :
    grant.claims.validity.contains now :=
  Validity.contains_of_window h.validity h.stop h.safe hissued hexpires

variable {c : Credential P}

theorem validateCredential_eq_ok :
    version.validateCredential crates strict pin c now = .ok () ↔
      CredentialChecked crates strict version pin c.grant c.claims ∧
        c.claims.issuedAt ≤ now ∧ now < c.claims.expiresAt := by
  unfold validateCredential
  rw [check_bind_eq_ok, verifyGrant_eq_ok]
  simp only [bind_eq_ok, rejectIf_eq_ok, hexIfSome_eq_ok, exists_and_right, exists_const, not_or,
    ne_eq, not_not, Bool.not_eq_true, Bool.not_eq_false, and_assoc, Nat.not_lt, UInt64.not_lt,
    UInt64.not_le, Option.any_eq_false, decide_eq_false_iff_not]
  constructor
  · rintro ⟨hgrant, hnow, hid, hschema, grantDigest, hdigest, rfl, hholder, hissued, hexpires,
      hsafe, hlifetime, hvalidity, hstop, hbound, hinstallation, hpermissions⟩
    exact ⟨⟨hgrant, hid, hschema, hdigest, hholder, hsafe, hlifetime, hvalidity, hstop, hbound,
      hinstallation, hpermissions⟩, hissued, hexpires⟩
  · rintro ⟨h, hissued, hexpires⟩
    exact ⟨h.granted, h.contains hissued hexpires, h.credentialId, h.schema, c.claims.grantDigest,
      h.grantDigest, rfl, h.holderPublicKey, hissued, hexpires, h.safe, h.lifetime, h.validity,
      h.stop, h.bound, h.installationId, h.permissions⟩

theorem deriveCredential_eq_ok {grant : Grant P} {permissions : List P}
    {installationId : Option String} {credentialId : String} {issuedAt expiresAt : UInt64} :
    version.deriveCredential crates strict pin grant permissions installationId credentialId
        issuedAt expiresAt k = .ok c ↔
      c.grant = grant ∧
      c.claims = ⟨version.credential, credentialId, c.claims.grantDigest, publicKeyHex crates k,
        installationId, permissions, issuedAt, expiresAt⟩ ∧
      CredentialChecked crates strict version pin grant c.claims ∧ issuedAt < expiresAt ∧
      sign crates version.credentialDomain (c.claims.toJson version.permissionJson) k =
        .ok c.signature ∧
      Canonical (c.toJson version.permissionJson) := by
  unfold deriveCredential
  simp only [bind_eq_ok, canonical_eq_ok]
  constructor
  · rintro ⟨grantDigest, -, ⟨⟩, hvalid, signature, hsign, b, ⟨hcanonical, -⟩, hc⟩
    obtain ⟨hchecked, -, hlt⟩ := validateCredential_eq_ok.mp hvalid
    cases hc
    exact ⟨rfl, rfl, hchecked, hlt, hsign, hcanonical⟩
  · obtain ⟨grant', claims, signature⟩ := c
    rintro ⟨rfl, hclaims, hchecked, hlt, hsign, hcanonical⟩
    obtain ⟨schema, credentialId', grantDigest, holder, installation, perms, issued, expires⟩ :=
      claims
    cases hclaims
    exact ⟨grantDigest, hchecked.grantDigest, (),
      validateCredential_eq_ok.mpr ⟨hchecked, UInt64.le_refl _, hlt⟩, signature, hsign, _,
      ⟨hcanonical, rfl⟩, rfl⟩

variable (crates strict) in
/-- A credential that passes the checks and whose signature verifies. -/
structure CredentialVerified (version : Version P) (pin : IssuerPin) (c : Credential P) :
    Prop where
  canonical : Canonical (c.toJson version.permissionJson)
  checked : CredentialChecked crates strict version pin c.grant c.claims
  signature : verify crates strict version.credentialDomain
    (c.claims.toJson version.permissionJson) c.signature c.claims.holderPublicKey = .ok ()

theorem verifyCredential_eq_ok :
    version.verifyCredential crates strict pin c now = .ok () ↔
      CredentialVerified crates strict version pin c ∧
        c.claims.issuedAt ≤ now ∧ now < c.claims.expiresAt := by
  unfold verifyCredential
  simp only [bind_eq_ok, canonical_eq_ok]
  constructor
  · rintro ⟨b, ⟨hcanonical, -⟩, ⟨⟩, hvalid, hsignature⟩
    obtain ⟨hchecked, hissued, hexpires⟩ := validateCredential_eq_ok.mp hvalid
    exact ⟨⟨hcanonical, hchecked, hsignature⟩, hissued, hexpires⟩
  · rintro ⟨h, hissued, hexpires⟩
    exact ⟨_, ⟨h.canonical, rfl⟩, (),
      validateCredential_eq_ok.mpr ⟨h.checked, hissued, hexpires⟩, h.signature⟩

variable (crates strict) in
/-- The checks on a proof that do not depend on the time. -/
structure ProofChecked (version : Version P) (c : Credential P) (call : Json) (p : Proof) :
    Prop where
  nonce : IsHex 16 p.nonce
  schema : p.schema = version.presentation
  credentialDigest : digest crates (c.toJson version.permissionJson) = .ok p.credentialDigest
  callDigest : digest crates call = .ok p.callDigest
  issuedAt : c.claims.issuedAt ≤ p.issuedAt
  expiresAt : p.expiresAt ≤ c.claims.expiresAt
  span : p.expiresAt - p.issuedAt ≤ 60
  signature : verify crates strict version.presentationDomain (proofClaims p) p.signature
    c.claims.holderPublicKey = .ok ()

theorem verifyPresentation_eq_ok {call : Json} {p : Proof} :
    version.verifyPresentation crates strict pin c call p now = .ok () ↔
      CredentialVerified crates strict version pin c ∧ ProofChecked crates strict version c call p ∧
        p.issuedAt ≤ now ∧ now < p.expiresAt := by
  unfold verifyPresentation
  rw [check_bind_eq_ok, verifyCredential_eq_ok]
  simp only [bind_eq_ok, rejectIf_eq_ok, exists_and_right, exists_const, not_or, ne_eq, not_not,
    and_assoc, UInt64.not_lt, UInt64.not_le]
  constructor
  · rintro ⟨hc, -, -, hnonce, hschema, _, hdigest, rfl, _, hcall, rfl, hfrom, hissued, hexpires,
      hto, hspan, hsignature⟩
    exact ⟨hc, ⟨hnonce, hschema, hdigest, hcall, hfrom, hto, hspan, hsignature⟩, hissued, hexpires⟩
  · rintro ⟨hc, hp, hissued, hexpires⟩
    exact ⟨hc, UInt64.le_trans hp.issuedAt hissued, UInt64.lt_of_lt_of_le hexpires hp.expiresAt,
      hp.nonce, hp.schema, _, hp.credentialDigest, rfl, _, hp.callDigest, rfl, hp.issuedAt, hissued,
      hexpires, hp.expiresAt, hp.span, hp.signature⟩

theorem present_eq_ok {call : Json} {nonce : String} {p : Proof} :
    version.present crates strict pin c call nonce now k = .ok p ↔
      CredentialVerified crates strict version pin c ∧
      (c.claims.issuedAt ≤ now ∧ now < c.claims.expiresAt) ∧
      publicKeyHex crates k = c.claims.holderPublicKey ∧ IsHex 16 nonce ∧
      digest crates (c.toJson version.permissionJson) = .ok p.credentialDigest ∧
      digest crates call = .ok p.callDigest ∧
      (∃ limit, checkedAdd now 60 = some limit ∧
        p = ⟨version.presentation, p.credentialDigest, p.callDigest, nonce, now,
          min limit c.claims.expiresAt, p.signature⟩) ∧
      sign crates version.presentationDomain (proofClaims p) k = .ok p.signature ∧
      Canonical (presentationJson (c.toJson version.permissionJson) call p.toJson) ∧
      (presentationJson (c.toJson version.permissionJson) call p.toJson).size ≤
        maxPresentation := by
  unfold present
  rw [check_bind_eq_ok, verifyCredential_eq_ok]
  simp only [bind_eq_ok, rejectIf_eq_ok, exists_and_right, exists_const, ne_eq, not_not, and_assoc,
    elim_eq_ok, canonical_eq_ok]
  constructor
  · rintro ⟨hc, hissued, hexpires, hk, hnonce, _, hdigest, _, hcall, limit, hlimit, signature,
      hsign, b, hcanonical, rfl, hsize, hp⟩
    cases hp
    rw [Json.length_bytes, Nat.not_lt] at hsize
    exact ⟨hc, hissued, hexpires, hk, hnonce, hdigest, hcall, ⟨limit, hlimit, rfl⟩, hsign,
      hcanonical, hsize⟩
  · rintro ⟨hc, hissued, hexpires, hk, hnonce, hdigest, hcall, ⟨limit, hlimit, hp⟩, hsign,
      hcanonical, hsize⟩
    obtain ⟨schema, credentialDigest, callDigest, nonce', issued, expires, signature⟩ := p
    cases hp
    refine ⟨hc, hissued, hexpires, hk, hnonce, _, hdigest, _, hcall, limit, hlimit, signature,
      hsign, _, hcanonical, rfl, ?_, rfl⟩
    rw [Json.length_bytes, Nat.not_lt]
    exact hsize

theorem grantVerified_of_issue {claims : GrantClaims P} {g : Grant P}
    (h : version.issueGrant crates strict pin claims k now = .ok g) :
    GrantVerified crates strict version pin g := by
  obtain ⟨hchecked, -, hk, hclaims, hsign⟩ := issueGrant_eq_ok.mp h
  rw [← hclaims] at hchecked hsign
  have hkey : IsKey crates strict (publicKeyHex crates k) := hk ▸ hchecked.pinKey
  refine ⟨hchecked, ?_⟩
  rw [← hk]
  exact verify_of_sign hkey hsign

theorem credentialVerified_of_derive {grant : Grant P} {permissions : List P}
    {installationId : Option String} {credentialId : String} {issuedAt expiresAt : UInt64}
    (h : version.deriveCredential crates strict pin grant permissions installationId credentialId
      issuedAt expiresAt k = .ok c) :
    CredentialVerified crates strict version pin c := by
  obtain ⟨hgrant, hclaims, hchecked, -, hsign, hcanonical⟩ := deriveCredential_eq_ok.mp h
  have hholder : c.claims.holderPublicKey = publicKeyHex crates k :=
    congrArg CredentialClaims.holderPublicKey hclaims
  have hkey : IsKey crates strict (publicKeyHex crates k) := by
    rw [← hholder, hchecked.holderPublicKey]
    exact hchecked.granted.checked.holderKey
  refine ⟨hcanonical, hgrant ▸ hchecked, ?_⟩
  rw [hholder]
  exact verify_of_sign hkey hsign

theorem proofChecked_of_present {call : Json} {nonce : String} {p : Proof}
    (h : version.present crates strict pin c call nonce now k = .ok p) :
    ProofChecked crates strict version c call p := by
  obtain ⟨hc, ⟨hissued, hexpires⟩, hk, hnonce, hdigest, hcall, ⟨limit, hlimit, hp⟩, hsign, -, -⟩ :=
    present_eq_ok.mp h
  have hissuedAt : p.issuedAt = now := congrArg Proof.issuedAt hp
  have hexpiresAt : p.expiresAt = min limit c.claims.expiresAt := congrArg Proof.expiresAt hp
  have hkey : IsKey crates strict (publicKeyHex crates k) := by
    rw [hk, hc.checked.holderPublicKey]
    exact hc.checked.granted.checked.holderKey
  obtain ⟨hto, hspan⟩ := min_checkedAdd_window hlimit hexpires
  refine ⟨?_, congrArg Proof.schema hp, hdigest, hcall, hissuedAt ▸ hissued, hexpiresAt ▸ hto, ?_,
    ?_⟩
  · have hn : p.nonce = nonce := congrArg Proof.nonce hp
    rw [hn]
    exact hnonce
  · rw [hissuedAt, hexpiresAt]
    exact hspan
  · rw [← hk]
    exact verify_of_sign hkey hsign

end Checked

end Version

/-! ## Version 1 -/

structure Node where
  kind : String
  id : String
  deriving DecidableEq

inductive Scope where
  | all
  | paths (roots : List (List Node))
  deriving DecidableEq

namespace Scope

def validate : Scope → Result Unit
  | .all => .ok ()
  | .paths roots => do
    rejectIf (roots.isEmpty ∨ 16 < roots.length) invalid
    forEnumerated (fun before p => do
      rejectIf (p.isEmpty ∨ 32 < p.length ∨ p ∈ before) invalid
      forEnumerated (fun before n => do
        text n.kind
        text n.id
        rejectIf (n ∈ before) invalid) [] p) [] roots

def within : Scope → Scope → Bool
  | _, .all => true
  | .all, .paths _ => false
  | .paths a, .paths b => a.all fun p => b.any fun r => r.isPrefixOf p

def toJson : Scope → Json
  | .all => .object [("mode", .string "all")]
  | .paths roots => .object [("mode", .string "paths"),
      ("roots", .array (roots.map fun p => .array (p.map fun n =>
        .object [("kind", .string n.kind), ("id", .string n.id)])))]

end Scope

structure Permission where
  operation : String
  resource : String
  scope : Scope
  constraints : Json
  deriving DecidableEq

def Permission.toJson (p : Permission) : Json := .object [
  ("operation", .string p.operation), ("resource", .string p.resource),
  ("scope", p.scope.toJson), ("constraints", p.constraints)]

def permissions (p : List Permission) : Result Unit := do
  rejectIf (p.isEmpty ∨ 64 < p.length) invalid
  forEnumerated (fun before r => do
    text r.operation
    text r.resource
    r.scope.validate
    rejectIf (r.constraints.isObject = false ∨ r ∈ before) invalid
    safe r.constraints 8) [] p
  let _ ← canonical (.array (p.map Permission.toJson))
  return ()

def permissionsWithin (child parent : List Permission) : Result Unit := do
  permissions child
  permissions parent
  rejectIf ((child.all fun c => parent.any fun p =>
    c.operation = p.operation ∧ c.resource = p.resource ∧ c.constraints = p.constraints ∧
      c.scope.within p.scope) = false) invalid

/-- The checks on a permission. -/
structure Permission.Valid (r : Permission) : Prop where
  operation : text r.operation = .ok ()
  resource : text r.resource = .ok ()
  scope : r.scope.validate = .ok ()
  object : r.constraints.isObject
  constraints : safe r.constraints 8 = .ok ()

theorem permissions_eq_ok {p : List Permission} :
    permissions p = .ok () ↔
      (p ≠ [] ∧ p.length ≤ 64) ∧ (∀ r ∈ p, r.Valid) ∧ p.Pairwise (· ≠ ·) ∧
        Canonical (.array (p.map Permission.toJson)) := by
  have hbody : ∀ (before : List Permission) (r : Permission), (do
      text r.operation
      text r.resource
      r.scope.validate
      rejectIf (r.constraints.isObject = false ∨ r ∈ before) invalid
      safe r.constraints 8) = .ok () ↔ r.Valid ∧ ∀ r' ∈ before, r' ≠ r := by
    intro before r
    simp only [check_bind_eq_ok, rejectIf_eq_ok, not_or, Bool.not_eq_false]
    constructor
    · rintro ⟨hoperation, hresource, hscope, ⟨hobject, hbefore⟩, hsafe⟩
      refine ⟨⟨hoperation, hresource, hscope, hobject, hsafe⟩, ?_⟩
      rintro r' hr' rfl
      exact hbefore hr'
    · rintro ⟨h, hbefore⟩
      exact ⟨h.operation, h.resource, h.scope, ⟨h.object, fun hmem => hbefore r hmem rfl⟩,
        h.constraints⟩
  unfold permissions
  simp only [check_bind_eq_ok, rejectIf_eq_ok]
  rw [forEnumerated_nil_eq_ok hbody]
  simp only [bind_eq_ok, canonical_eq_ok, List.isEmpty_iff, not_or, Nat.not_lt]
  constructor
  · rintro ⟨hshape, ⟨hvalid, hdistinct⟩, b, ⟨hcanonical, _⟩, _⟩
    exact ⟨hshape, hvalid, hdistinct, hcanonical⟩
  · rintro ⟨hshape, hvalid, hdistinct, hcanonical⟩
    exact ⟨hshape, ⟨hvalid, hdistinct⟩, _, ⟨hcanonical, rfl⟩, rfl⟩

theorem Scope.within_self (scope : Scope) : scope.within scope := by
  cases scope with
  | all => rfl
  | paths roots =>
    simp only [Scope.within, List.all_eq_true, List.any_eq_true]
    intro p hp
    exact ⟨p, hp, List.isPrefixOf_iff_prefix.mpr (List.prefix_refl p)⟩

theorem permissionsWithin_self {p : List Permission} (h : permissions p = .ok ()) :
    permissionsWithin p p = .ok () := by
  rw [permissionsWithin, check_bind_eq_ok, check_bind_eq_ok, rejectIf_eq_ok, Bool.not_eq_false,
    List.all_eq_true]
  refine ⟨h, h, fun r hr => List.any_eq_true.mpr ⟨r, hr, ?_⟩⟩
  simp [r.scope.within_self]

def v1 : Version Permission where
  invalid := invalid
  grant := "secs.holder-grant.v1"
  credential := "secs.holder-credential.v1"
  presentation := "secs.holder-presentation.v1"
  grantDomain := "secs.holder-grant.v1/signature"
  credentialDomain := "secs.holder-credential.v1/signature"
  presentationDomain := "secs.holder-presentation.v1/signature"
  permissionJson := Permission.toJson
  permissions _ := permissions
  permissionsWithin := permissionsWithin

section V1

variable (crates : Crates) (strict : Strict crates)

def issueGrant := v1.issueGrant crates strict
def verifyGrant := v1.verifyGrant crates strict
def deriveCredential := v1.deriveCredential crates strict
def verifyCredential := v1.verifyCredential crates strict
def present := v1.present crates strict
def verifyPresentation := v1.verifyPresentation crates strict

end V1

end HolderGrants
