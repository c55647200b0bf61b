import SecsMagik.GrantShapes
import SecsMagik.ScopedGrants

/-! # Whether an issued grant can be used

A root that issues leaves room for a credential with the same permissions and for its presentation.
The room is enough in bytes for both versions; in nesting it is for version 1, which checks the
constraints eight levels down.
-/
namespace GrantUsability

open RustStd CanonicalJson CanonicalJson.Json
open ExternalCrates (Crates Strict)
open GrantContract
open HolderGrants (Version v1)
open HolderGrants.Version GrantShapes
open ScopedGrants (v2)

/-- Both versions name their records by texts of the same lengths. -/
structure Named {P : Type} (version : Version P) : Prop where
  grant : quotedSize version.grant = 22
  credential : quotedSize version.credential = 27
  presentation : quotedSize version.presentation = 29

theorem named_v1 : Named v1 := ⟨by decide +kernel, by decide +kernel, by decide +kernel⟩

theorem named_v2 : Named v2 := ⟨by decide +kernel, by decide +kernel, by decide +kernel⟩

/-- The bytes of a call for which a presentation always has room. -/
def callRoom : ℕ := 6400

/-- A holder, an installation and times that a grant admits, and a call to present. -/
structure Use (crates : Crates) {P : Type} (g : GrantClaims P) where
  holder : Bytes 32
  installationId : Option String
  credentialId : String
  issuedAt : UInt64
  expiresAt : UInt64
  call : Json
  nonce : String
  presentedAt : UInt64
  holderKey : publicKeyHex crates holder = g.holderPublicKey
  installation : ∀ i, installationId = some i → IsHex 16 i
  bound : ∀ i, g.installationId = some i → some i = installationId
  credential : IsHex 16 credentialId
  nonceHex : IsHex 16 nonce
  valid : g.validity.contains issuedAt
  window : issuedAt < expiresAt
  lifetime : expiresAt - issuedAt ≤ g.maxCredentialLifetimeSeconds
  stop : ∀ e, g.validity.stop = some e → expiresAt ≤ e
  safe : expiresAt.toNat ≤ safeMax
  presented : issuedAt ≤ presentedAt ∧ presentedAt < expiresAt
  callSafe : GrantContract.safe call 1 = .ok ()
  callSize : call.size ≤ callRoom

section

variable {P : Type} {crates : Crates} {strict : Strict crates} {version : Version P}
  {pin : IssuerPin} {grant : Grant P}

namespace Use

variable (strict version pin) in
def derive (use : Use crates grant.claims) (permissions : List P) : Result (Credential P) :=
  version.deriveCredential crates strict pin grant permissions use.installationId use.credentialId
    use.issuedAt use.expiresAt use.holder

variable (strict version pin) in
def present (use : Use crates grant.claims) (c : Credential P) : Result Proof :=
  version.present crates strict pin c use.call use.nonce use.presentedAt use.holder

end Use

variable (strict version pin grant) in
/-- The holder derives a credential with exactly the grant's permissions and presents it. -/
def Usable (use : Use crates grant.claims) : Prop :=
  ∃ c p, use.derive strict version pin grant.claims.permissions = .ok c ∧
    use.present strict version pin c = .ok p

/-! ## Bytes -/

theorem size_grantClaims_ge (hnamed : Named version)
    (h : GrantVerified crates strict version pin grant) :
    469 + (Json.array (grant.claims.permissions.map version.permissionJson)).size ≤
      (grant.claims.toJson version.permissionJson).size := by
  have hschema : quotedSize grant.claims.schema = 22 := by rw [h.checked.schema, hnamed.grant]
  have hid := quotedSize_of_isHex h.checked.grantId
  have hrevision := quotedSize_of_isHex h.checked.revision
  have hholder := quotedSize_of_isHex (isHex_of_isKey h.checked.holderKey)
  have hissuer := two_le_quotedSize grant.claims.issuer
  have hkeyId := two_le_quotedSize grant.claims.keyId
  have hservice := two_le_quotedSize grant.claims.service
  have hinstallation := size_optionJson_bounds h.checked.installationId
  have hvalidity := size_validity_ge grant.claims.validity
  have hlifetime := size_int_pos grant.claims.maxCredentialLifetimeSeconds
  have honward := size_bool_bounds grant.claims.onwardDelegation
  rw [size_grantClaims]
  omega

theorem size_credentialClaims_le (hnamed : Named version) {x : CredentialClaims P}
    (h : CredentialChecked crates strict version pin grant x) (hle : x.issuedAt ≤ x.expiresAt) :
    (x.toJson version.permissionJson).size ≤
      385 + (Json.array (x.permissions.map version.permissionJson)).size := by
  have hschema : quotedSize x.schema = 27 := by rw [h.schema, hnamed.credential]
  have hid := quotedSize_of_isHex h.credentialId
  have hdigest := quotedSize_of_isHex (isHex_of_digest h.grantDigest)
  have hholder : quotedSize x.holderPublicKey = 66 := by
    rw [h.holderPublicKey]
    exact quotedSize_of_isHex (isHex_of_isKey h.granted.checked.holderKey)
  have hinstallation := size_optionJson_bounds h.installationId
  have hexpires := size_int_le h.safe
  have hissued := size_int_le (Nat.le_trans (UInt64.le_iff_toNat_le.mp hle) h.safe)
  rw [size_credentialClaims]
  omega

/-- A grant and a credential under it take less than twice the room of a root. -/
theorem size_credential_le (hnamed : Named version) {c : Credential P}
    (h : CredentialChecked crates strict version pin c.grant c.claims)
    (hle : c.claims.issuedAt ≤ c.claims.expiresAt) (hsignature : IsHex 64 c.signature)
    (hpermissions : (Json.array (c.claims.permissions.map version.permissionJson)).size ≤
      (Json.array (c.grant.claims.permissions.map version.permissionJson)).size) :
    (c.toJson version.permissionJson).size ≤ 2 * maxRootClaims + 233 := by
  have hgrantSignature := quotedSize_of_isHex (isHex_of_verify h.granted.signature)
  have hsignature := quotedSize_of_isHex hsignature
  have hroot := h.granted.checked.size
  have hgrant := size_grantClaims_ge hnamed h.granted
  have hclaims := size_credentialClaims_le hnamed h hle
  rw [size_credential, size_grant]
  omega

/-- The fields of a proof that decide its size. -/
structure ProofFields (version : Version P) (p : Proof) : Prop where
  schema : p.schema = version.presentation
  credentialDigest : IsHex 32 p.credentialDigest
  callDigest : IsHex 32 p.callDigest
  nonce : IsHex 16 p.nonce
  issuedAt : p.issuedAt.toNat ≤ safeMax
  expiresAt : p.expiresAt.toNat ≤ safeMax

theorem size_proofClaims_le (hnamed : Named version) {p : Proof} (h : ProofFields version p) :
    (proofClaims p).size ≤ 310 := by
  have hschema : quotedSize p.schema = 29 := by rw [h.schema, hnamed.presentation]
  have hcredential := quotedSize_of_isHex h.credentialDigest
  have hcall := quotedSize_of_isHex h.callDigest
  have hnonce := quotedSize_of_isHex h.nonce
  have hissued := size_int_le h.issuedAt
  have hexpires := size_int_le h.expiresAt
  rw [size_proofClaims]
  omega

theorem size_proof_le (hnamed : Named version) {p : Proof} (h : ProofFields version p)
    (hsignature : IsHex 64 p.signature) : p.toJson.size ≤ 453 := by
  have hclaims := size_proofClaims_le hnamed h
  have hsignature := quotedSize_of_isHex hsignature
  rw [size_proofClaims] at hclaims
  rw [size_proof]
  omega

/-! ## Nesting -/

theorem safe_grantClaims_of_permissions (h : Canonical (grant.claims.toJson version.permissionJson))
    {depth : ℕ} (hdepth : depth + 2 ≤ 32)
    (hpermissions :
      safe (.array (grant.claims.permissions.map version.permissionJson)) (depth + 1) = .ok ()) :
    safe (grant.claims.toJson version.permissionJson) depth = .ok () := by
  obtain ⟨hvalidity, hlifetime, -⟩ := safe_grantClaims.mp (canonical_iff.mp h).1
  refine safe_grantClaims.mpr ⟨?_, hlifetime, hpermissions⟩
  rw [safe_validity (by omega)] at hvalidity ⊢
  exact hvalidity

/-! ## Deriving -/

theorem exists_credential (hnamed : Named version)
    (hgrant : GrantVerified crates strict version pin grant) (use : Use crates grant.claims)
    {permissions : List P}
    (hwithin : version.permissionsWithin permissions grant.claims.permissions = .ok ())
    (hroot : safe (.array (grant.claims.permissions.map version.permissionJson)) 3 = .ok ())
    (hchild : safe (.array (permissions.map version.permissionJson)) 2 = .ok ())
    (hsize : (Json.array (permissions.map version.permissionJson)).size ≤
      (Json.array (grant.claims.permissions.map version.permissionJson)).size) :
    ∃ c, use.derive strict version pin permissions = .ok c := by
  have hissued : use.issuedAt ≤ use.expiresAt := UInt64.le_of_lt use.window
  have hsafe : use.issuedAt.toNat ≤ safeMax :=
    Nat.le_trans (UInt64.le_iff_toNat_le.mp hissued) use.safe
  have hclaims := safe_grantClaims_of_permissions hgrant.checked.canonical (by decide) hroot
  have hgrantJson : Canonical (grant.toJson version.permissionJson) := by
    have hsignature := quotedSize_of_isHex (isHex_of_verify hgrant.signature)
    have hle := hgrant.checked.size
    rw [canonical_iff, safe_grant, size_grant, hsignature]
    refine ⟨safe_mono hclaims (by decide), ?_⟩
    unfold maxRootClaims at hle
    unfold maxSize
    omega
  obtain ⟨grantDigest, hdigest⟩ := exists_digest crates hgrantJson
  let x : CredentialClaims P := {
    schema := version.credential
    credentialId := use.credentialId
    grantDigest
    holderPublicKey := publicKeyHex crates use.holder
    installationId := use.installationId
    permissions
    issuedAt := use.issuedAt
    expiresAt := use.expiresAt }
  have hchecked : CredentialChecked crates strict version pin grant x :=
    ⟨hgrant, use.credential, rfl, hdigest, use.holderKey, use.safe, use.lifetime, use.valid,
      use.stop, use.bound, use.installation, hwithin⟩
  have hx : safe (x.toJson version.permissionJson) 1 = .ok () :=
    safe_credentialClaims.mpr ⟨hchild, hsafe, use.safe⟩
  have hroot' := hgrant.checked.size
  have hxJson : Canonical (x.toJson version.permissionJson) := by
    have hle := size_credentialClaims_le hnamed hchecked hissued
    have hge := size_grantClaims_ge hnamed hgrant
    have hpermissions : (Json.array (x.permissions.map version.permissionJson)).size ≤
      (Json.array (grant.claims.permissions.map version.permissionJson)).size := hsize
    refine canonical_iff.mpr ⟨safe_mono hx (by decide), ?_⟩
    unfold maxRootClaims at hroot'
    unfold maxSize
    omega
  obtain ⟨signature, hsign⟩ := exists_sign crates hxJson version.credentialDomain
    use.holder
  have hle := size_credential_le (c := ⟨grant, x, signature⟩) hnamed hchecked hissued
    (isHex_of_sign hsign) hsize
  refine ⟨⟨grant, x, signature⟩, deriveCredential_eq_ok.mpr
    ⟨rfl, rfl, hchecked, use.window, hsign, canonical_iff.mpr ⟨?_, ?_⟩⟩⟩
  · refine safe_credential.mpr ⟨safe_grant.mpr hclaims, hx⟩
  · unfold maxRootClaims at hle
    unfold maxSize
    omega

/-! ## Presenting -/

theorem exists_proof (hnamed : Named version) (use : Use crates grant.claims) {permissions : List P}
    {c : Credential P} (hc : use.derive strict version pin permissions = .ok c)
    (hroot : safe (.array (grant.claims.permissions.map version.permissionJson)) 4 = .ok ())
    (hchild : safe (.array (permissions.map version.permissionJson)) 3 = .ok ())
    (hsize : (Json.array (permissions.map version.permissionJson)).size ≤
      (Json.array (grant.claims.permissions.map version.permissionJson)).size) :
    ∃ p, use.present strict version pin c = .ok p := by
  obtain ⟨rfl, hclaims, hchecked, -, hsign, hcanonical⟩ := deriveCredential_eq_ok.mp hc
  have hverified := credentialVerified_of_derive hc
  have hissuedAt : c.claims.issuedAt = use.issuedAt :=
    congrArg CredentialClaims.issuedAt hclaims
  have hexpiresAt : c.claims.expiresAt = use.expiresAt :=
    congrArg CredentialClaims.expiresAt hclaims
  have hpermissions : c.claims.permissions = permissions :=
    congrArg CredentialClaims.permissions hclaims
  have hholder : c.claims.holderPublicKey = publicKeyHex crates use.holder :=
    congrArg CredentialClaims.holderPublicKey hclaims
  have hlt := UInt64.lt_iff_toNat_lt.mp use.presented.2
  have hsafe := use.safe
  have hmax : safeMax = 9007199254740991 := rfl
  have h60 : (60 : UInt64).toNat = 60 := rfl
  obtain ⟨limit, hlimit⟩ : ∃ limit, checkedAdd use.presentedAt 60 = some limit :=
    ⟨_, checkedAdd_of_lt (by omega)⟩
  obtain ⟨credentialDigest, hdigest⟩ := exists_digest crates hcanonical
  have hcall : Canonical use.call := by
    have hle := use.callSize
    refine canonical_iff.mpr ⟨safe_mono use.callSafe (by decide), ?_⟩
    unfold callRoom at hle
    unfold maxSize
    omega
  obtain ⟨callDigest, hcallDigest⟩ := exists_digest crates hcall
  have hexpires : (min limit c.claims.expiresAt).toNat ≤ safeMax := by
    rw [toNat_min, hexpiresAt]
    omega
  have hfields : ∀ signature, ProofFields version ⟨version.presentation, credentialDigest,
      callDigest, use.nonce, use.presentedAt, min limit c.claims.expiresAt, signature⟩ :=
    fun _ => ⟨rfl, isHex_of_digest hdigest, isHex_of_digest hcallDigest, use.nonceHex,
      show use.presentedAt.toNat ≤ safeMax by omega, hexpires⟩
  have hclaimsJson : Canonical (proofClaims ⟨version.presentation, credentialDigest, callDigest,
      use.nonce, use.presentedAt, min limit c.claims.expiresAt, ""⟩) := by
    have hle := size_proofClaims_le hnamed (hfields "")
    refine canonical_iff.mpr
      ⟨(safe_proofClaims (by decide)).mpr ⟨(hfields "").issuedAt, (hfields "").expiresAt⟩, ?_⟩
    unfold maxSize
    omega
  obtain ⟨signature, hproofSign⟩ := exists_sign crates hclaimsJson
    version.presentationDomain use.holder
  have hproofSize := size_proof_le hnamed (hfields signature) (isHex_of_sign hproofSign)
  have hcredentialSize := size_credential_le hnamed hchecked
    (by rw [hissuedAt, hexpiresAt]; exact UInt64.le_of_lt use.window) (isHex_of_sign hsign)
    (by rw [hpermissions]; exact hsize)
  have hcallSize := use.callSize
  have hsizeLe : (presentationJson (c.toJson version.permissionJson) use.call
      (Proof.toJson ⟨version.presentation, credentialDigest, callDigest, use.nonce, use.presentedAt,
        min limit c.claims.expiresAt, signature⟩)).size ≤ maxPresentation := by
    rw [size_presentation]
    unfold maxRootClaims at hcredentialSize
    unfold callRoom at hcallSize
    unfold maxPresentation
    omega
  refine ⟨_, present_eq_ok.mpr ⟨hverified, ?_, hholder.symm, use.nonceHex, hdigest, hcallDigest,
    ⟨limit, hlimit, rfl⟩, hproofSign, canonical_iff.mpr ⟨?_, ?_⟩, hsizeLe⟩⟩
  · rw [hissuedAt, hexpiresAt]
    exact use.presented
  · refine safe_presentation.mpr ⟨safe_credential.mpr ⟨?_, ?_⟩, use.callSafe, ?_⟩
    · exact safe_grant.mpr (safe_grantClaims_of_permissions hchecked.granted.checked.canonical
        (by decide) hroot)
    · refine safe_credentialClaims.mpr ⟨by rw [hpermissions]; exact hchild, ?_, ?_⟩
      · rw [hissuedAt]
        have := UInt64.le_iff_toNat_le.mp use.presented.1
        omega
      · rw [hexpiresAt]
        exact use.safe
    · exact (safe_proof (by decide)).mpr ⟨(hfields signature).issuedAt, hexpires⟩
  · unfold maxPresentation at hsizeLe
    unfold maxSize
    omega

/-- A presentation holds the permissions of the grant four levels down. -/
theorem safe_of_usable {use : Use crates grant.claims} (h : Usable strict version pin grant use) :
    safe (.array (grant.claims.permissions.map version.permissionJson)) 4 = .ok () := by
  obtain ⟨c, p, hc, hp⟩ := h
  obtain ⟨rfl, -⟩ := deriveCredential_eq_ok.mp hc
  obtain ⟨-, -, -, -, -, -, -, -, hcanonical, -⟩ := present_eq_ok.mp hp
  have hcredential := (safe_presentation.mp (canonical_iff.mp hcanonical).1).1
  have hclaims := safe_grant.mp (safe_credential.mp hcredential).1
  exact (safe_grantClaims.mp hclaims).2.2

/-- An issued grant is usable if its permissions are safe four levels down, and not otherwise. -/
theorem usable_iff_safe (hnamed : Named version)
    (hgrant : GrantVerified crates strict version pin grant)
    (hself : version.permissionsWithin grant.claims.permissions grant.claims.permissions = .ok ())
    (use : Use crates grant.claims) :
    Usable strict version pin grant use ↔
      safe (.array (grant.claims.permissions.map version.permissionJson)) 4 = .ok () := by
  constructor
  · exact safe_of_usable
  · intro hsafe
    obtain ⟨c, hc⟩ := exists_credential hnamed hgrant use hself (safe_mono hsafe (by decide))
      (safe_mono hsafe (by decide)) (Nat.le_refl _)
    obtain ⟨p, hp⟩ := exists_proof hnamed use hc hsafe (safe_mono hsafe (by decide)) (Nat.le_refl _)
    exact ⟨c, p, hc, hp⟩

end

/-! ## How deep the permissions of each version nest -/

theorem safe_scope (scope : HolderGrants.Scope) {depth : ℕ} (hdepth : depth ≤ 27) :
    safe scope.toJson depth = .ok () := by
  have hnode : ∀ n : HolderGrants.Node, safe (.object [("kind", .string n.kind),
      ("id", .string n.id)]) (depth + 1 + 1 + 1) = .ok () := by
    intro n
    simp [safe_object, safe_string, show depth + 1 + 1 + 1 + 1 ≤ 32 by omega,
      show depth + 1 + 1 + 1 ≤ 32 by omega]
  cases scope with
  | all =>
    simp [HolderGrants.Scope.toJson, safe_object, safe_string, show depth ≤ 32 by omega,
      show depth + 1 ≤ 32 by omega]
  | paths roots =>
    simp [HolderGrants.Scope.toJson, safe_object, safe_string, safe_array, hnode,
      show depth ≤ 32 by omega, show depth + 1 ≤ 32 by omega, show depth + 1 + 1 ≤ 32 by omega]

theorem safe_permission_v1 {p : HolderGrants.Permission} {depth : ℕ} (hdepth : depth ≤ 26) :
    safe p.toJson depth = .ok () ↔ safe p.constraints (depth + 1) = .ok () := by
  have hscope : safe p.scope.toJson (depth + 1) = .ok () := safe_scope p.scope (by omega)
  simp [HolderGrants.Permission.toJson, safe_object, safe_string, hscope,
    show depth ≤ 32 by omega, show depth + 1 ≤ 32 by omega]

theorem safe_resourceRef (r : ResourceSelectors.ResourceRef) {depth : ℕ} (hdepth : depth ≤ 31) :
    safe r.toJson depth = .ok () := by
  simp [ResourceSelectors.ResourceRef.toJson, safe_object, safe_string,
    show depth ≤ 32 by omega, show depth + 1 ≤ 32 by omega]

theorem safe_hierarchy (h : ResourceSelectors.Hierarchy) {depth : ℕ} (hdepth : depth ≤ 29) :
    safe h.toJson depth = .ok () := by
  have hroots : ∀ r ∈ h.roots, safe r.toJson (depth + 1 + 1) = .ok () :=
    fun r _ => safe_resourceRef r (by omega)
  simp [ResourceSelectors.Hierarchy.toJson, safe_object, safe_string, safe_bool, safe_array,
    show depth ≤ 32 by omega, show depth + 1 ≤ 32 by omega]
  exact hroots

theorem safe_selection (s : ResourceSelectors.Selection) {depth : ℕ} (hdepth : depth ≤ 28) :
    safe s.toJson depth = .ok () := by
  have hguard : ∀ h : ResourceSelectors.Hierarchy, safe h.toJson (depth + 1) = .ok () :=
    fun h => safe_hierarchy h (by omega)
  have hrefs : ∀ r : ResourceSelectors.ResourceRef, safe r.toJson (depth + 1 + 1) = .ok () :=
    fun r => safe_resourceRef r (by omega)
  have h32 : depth ≤ 32 := by omega
  have h31 : depth + 1 ≤ 32 := by omega
  cases s with
  | all => simp [ResourceSelectors.Selection.toJson, safe_object, safe_string, h32, h31]
  | objects refs within =>
    cases within <;>
      simp [ResourceSelectors.Selection.toJson, safe_object, safe_string, safe_array, hguard,
        hrefs, h32, h31]
  | descendants hierarchy =>
    simp [ResourceSelectors.Selection.toJson, safe_object, safe_string, hguard, h32, h31]

theorem safe_selector (s : ResourceSelectors.ResourceSelector) {depth : ℕ} (hdepth : depth ≤ 27) :
    safe s.toJson depth = .ok () := by
  have hselection : safe s.selection.toJson (depth + 1) = .ok () :=
    safe_selection s.selection (by omega)
  simp [ResourceSelectors.ResourceSelector.toJson, safe_object, safe_string, safe_array, hselection,
    show depth ≤ 32 by omega, show depth + 1 ≤ 32 by omega, show depth + 1 + 1 ≤ 32 by omega]

theorem safe_permission_v2 {p : ScopedGrants.Permission} {depth : ℕ} (hdepth : depth ≤ 24) :
    safe p.toJson depth = .ok () ↔ safe p.constraints (depth + 1) = .ok () := by
  have hselectors : ∀ r : ResourceSelectors.RoleSelection,
      safe r.selector.toJson (depth + 1 + 1 + 1) = .ok () :=
    fun r => safe_selector r.selector (by omega)
  simp [ScopedGrants.Permission.toJson, safe_object, safe_string, safe_array, hselectors,
    show depth ≤ 32 by omega, show depth + 1 ≤ 32 by omega, show depth + 1 + 1 ≤ 32 by omega,
    show depth + 1 + 1 + 1 ≤ 32 by omega]

/-! ## Both versions -/

/-- In version 1 every root that issues is usable by its holder, for every installation, window and
call it admits; in version 2 it is if every permission's constraints are safe six levels down, where
a presentation holds them. -/
theorem root_usable_iff (crates : Crates) (strict : Strict crates) :
    (∀ pin claims issuer now grant,
      HolderGrants.issueGrant crates strict pin claims issuer now = .ok grant →
      ∀ use : Use crates grant.claims, Usable strict v1 pin grant use) ∧
    ∀ pin claims issuer now grant,
      ScopedGrants.issueGrant crates strict pin claims issuer now = .ok grant →
      ∀ use : Use crates grant.claims, Usable strict v2 pin grant use ↔
        ∀ p ∈ grant.claims.permissions, safe p.constraints 6 = .ok () := by
  constructor
  · intro pin claims issuer now grant hissue use
    have hgrant := grantVerified_of_issue hissue
    have hpermissions : HolderGrants.permissions grant.claims.permissions = .ok () :=
      hgrant.checked.permissions
    obtain ⟨-, hvalid, -, -⟩ := HolderGrants.permissions_eq_ok.mp hpermissions
    refine (usable_iff_safe named_v1 hgrant (HolderGrants.permissionsWithin_self hpermissions)
      use).mpr (safe_array.mpr ⟨by decide, ?_⟩)
    intro v hv
    obtain ⟨p, hp, rfl⟩ := List.mem_map.mp hv
    exact (safe_permission_v1 (by decide)).mpr (safe_mono (hvalid p hp).constraints (by decide))
  · intro pin claims issuer now grant hissue use
    have hgrant := grantVerified_of_issue hissue
    have hpermissions : ScopedGrants.permissions grant.claims.permissions = .ok () :=
      (check_bind_eq_ok.mp hgrant.checked.permissions).2
    rw [usable_iff_safe named_v2 hgrant (ScopedGrants.permissionsWithin_self hpermissions) use,
      safe_array, and_iff_right (by decide), List.forall_mem_map]
    exact forall₂_congr fun p _ => safe_permission_v2 (by decide)

namespace Sample

def issuerKey : Bytes 32 := Bytes.filled 32 1

def holderKey : Bytes 32 := Bytes.filled 32 2

def pin : IssuerPin :=
  ⟨"castle", "key-1", publicKeyHex .transparent issuerKey, "archive"⟩

def claims {P : Type} (version : Version P) (permissions : List P) : GrantClaims P where
  schema := version.grant
  grantId := lowerHex (Bytes.filled 16 3).val
  revision := lowerHex (Bytes.filled 32 4).val
  issuer := "castle"
  keyId := "key-1"
  service := "archive"
  holderPublicKey := publicKeyHex .transparent holderKey
  installationId := none
  validity := .dated 1000 5000
  maxCredentialLifetimeSeconds := 3600
  onwardDelegation := false
  permissions

section

variable {P : Type} {version : Version P} {permissions : List P}

/-- What issues is a root of the claims handed in. -/
theorem issued (h : (version.issueGrant .transparent .transparent pin
      (claims version permissions) issuerKey 1500).toOption.isSome) :
    ∃ signature, version.issueGrant .transparent .transparent pin
      (claims version permissions) issuerKey 1500 =
        .ok ⟨claims version permissions, signature⟩ := by
  obtain ⟨grant, hgrant⟩ := Option.isSome_iff_exists.mp h
  have hissue := toOption_eq_some.mp hgrant
  obtain ⟨-, -, -, hclaims, -⟩ := issueGrant_eq_ok.mp hissue
  exact ⟨grant.signature, by rw [hissue, ← hclaims]⟩

/-- The holder derives from 1500 to 2500 and presents an empty call at 1600. -/
def use : Use .transparent (claims version permissions) where
  holder := holderKey
  installationId := none
  credentialId := lowerHex (Bytes.filled 16 5).val
  issuedAt := 1500
  expiresAt := 2500
  call := .object []
  nonce := lowerHex (Bytes.filled 16 6).val
  presentedAt := 1600
  holderKey := rfl
  installation := nofun
  bound := nofun
  credential := ⟨_, hex_lowerHex _⟩
  nonceHex := ⟨_, hex_lowerHex _⟩
  valid := show (Validity.dated 1000 5000).contains 1500 by decide
  window := by decide
  lifetime := show (2500 - 1500 : UInt64) ≤ 3600 by decide
  stop := by
    rintro e ⟨⟩
    decide
  safe := by decide
  presented := by decide
  callSafe := by decide
  callSize := by decide +kernel

end

def nested : ℕ → Json
  | 0 => .null
  | n + 1 => .array [nested n]

/-- Constraints as deep as both versions issue and present them. -/
def shallow : Json := .object [("limits", nested 23)]

def deed : HolderGrants.Permission := ⟨"read", "deed", .all, shallow⟩

/-- Reading every deed, with constraints of any shape. -/
def reading (constraints : Json) : ScopedGrants.Permission :=
  ⟨"read", "deed", [⟨"source", ⟨ResourceSelectors.schema, "archive", ["deed"], .all⟩⟩], constraints⟩

/-- Constraints 29 levels deep, the deepest that issue. -/
def deep : Json := .object [("limits", nested 28)]

theorem deep_issued : ∃ signature, ScopedGrants.issueGrant .transparent .transparent pin
    (claims v2 [reading deep]) issuerKey 1500 = .ok ⟨claims v2 [reading deep], signature⟩ :=
  issued (by decide +kernel)

/-- The holder of that grant has no use for it. -/
theorem deep_root_unusable : ∃ grant,
    ScopedGrants.issueGrant .transparent .transparent pin (claims v2 [reading deep])
      issuerKey 1500 = .ok grant ∧
    ∃ use : Use .transparent grant.claims, ¬ Usable Strict.transparent v2 pin grant use := by
  obtain ⟨signature, hissue⟩ := deep_issued
  have hdeep : safe (.array ([reading deep].map v2.permissionJson)) 4 ≠ .ok () := by decide
  exact ⟨_, hissue, use, fun husable => hdeep (safe_of_usable husable)⟩

theorem deed_issued : ∃ signature, HolderGrants.issueGrant .transparent .transparent pin
    (claims v1 [deed]) issuerKey 1500 = .ok ⟨claims v1 [deed], signature⟩ :=
  issued (by decide +kernel)

theorem reading_issued : ∃ signature, ScopedGrants.issueGrant .transparent .transparent
    pin (claims v2 [reading shallow]) issuerKey 1500 =
      .ok ⟨claims v2 [reading shallow], signature⟩ :=
  issued (by decide +kernel)

/-- Roots whose constraints are not too deep are usable in both versions. -/
theorem shallow_roots_usable :
    (∃ grant, HolderGrants.issueGrant .transparent .transparent pin (claims v1 [deed])
        issuerKey 1500 = .ok grant ∧
      ∃ use : Use .transparent grant.claims, Usable Strict.transparent v1 pin grant use) ∧
    ∃ grant, ScopedGrants.issueGrant .transparent .transparent pin
        (claims v2 [reading shallow]) issuerKey 1500 = .ok grant ∧
      ∃ use : Use .transparent grant.claims, Usable Strict.transparent v2 pin grant use := by
  obtain ⟨signature₁, hissue₁⟩ := deed_issued
  obtain ⟨signature₂, hissue₂⟩ := reading_issued
  obtain ⟨hv1, hv2⟩ := root_usable_iff .transparent .transparent
  have hflat : ∀ p ∈ [reading shallow], safe p.constraints 6 = .ok () := by decide
  exact ⟨⟨_, hissue₁, use, hv1 _ _ _ _ _ hissue₁ use⟩,
    ⟨_, hissue₂, use, (hv2 _ _ _ _ _ hissue₂ use).mpr hflat⟩⟩

end Sample

end GrantUsability
