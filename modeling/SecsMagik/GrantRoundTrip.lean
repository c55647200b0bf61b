import SecsMagik.GrantUsability

/-! # Issue, derive and present

Whatever the producers return, the verifiers accept in the window it carries and at no other time.
-/
namespace GrantRoundTrip

open RustStd CanonicalJson
open ExternalCrates (Crates Strict)
open GrantContract
open HolderGrants (Version v1)
open HolderGrants.Version
open ScopedGrants (v2)

/-- What one version's producers return, its verifiers accept for the same issuer exactly while the
validity, the credential or the proof runs. -/
def RoundTrips {P : Type} (crates : Crates) (strict : Strict crates) (version : Version P) : Prop :=
  ∀ pin claims issuer at₀ grant,
    version.issueGrant crates strict pin claims issuer at₀ = .ok grant →
    (∀ now, version.verifyGrant crates strict pin grant now = .ok () ↔
      grant.claims.validity.contains now) ∧
    ∀ permissions installationId credentialId issuedAt expiresAt holder credential,
      version.deriveCredential crates strict pin grant permissions installationId credentialId
        issuedAt expiresAt holder = .ok credential →
      (∀ now, version.verifyCredential crates strict pin credential now = .ok () ↔
        issuedAt ≤ now ∧ now < expiresAt) ∧
      ∀ call nonce at₁ presenter proof,
        version.present crates strict pin credential call nonce at₁ presenter = .ok proof →
        ∀ now, version.verifyPresentation crates strict pin credential call proof now = .ok () ↔
          proof.issuedAt ≤ now ∧ now < proof.expiresAt

theorem roundTrips {P : Type} (crates : Crates) (strict : Strict crates) (version : Version P) :
    RoundTrips crates strict version := by
  intro pin claims issuer at₀ grant hgrant
  constructor
  · intro now
    rw [verifyGrant_eq_ok]
    exact and_iff_right (grantVerified_of_issue hgrant)
  · intro permissions installationId credentialId issuedAt expiresAt holder credential hcredential
    obtain ⟨-, hclaims, -⟩ := deriveCredential_eq_ok.mp hcredential
    have hissued : credential.claims.issuedAt = issuedAt :=
      congrArg CredentialClaims.issuedAt hclaims
    have hexpires : credential.claims.expiresAt = expiresAt :=
      congrArg CredentialClaims.expiresAt hclaims
    have hverified := credentialVerified_of_derive hcredential
    constructor
    · intro now
      rw [verifyCredential_eq_ok, hissued, hexpires]
      exact and_iff_right hverified
    · intro call nonce at₁ presenter proof hproof now
      rw [verifyPresentation_eq_ok, and_iff_right hverified]
      exact and_iff_right (proofChecked_of_present hproof)

/-- Both versions of the format round trip. -/
theorem issue_derive_present_round_trip (crates : Crates) (strict : Strict crates) :
    RoundTrips crates strict v1 ∧ RoundTrips crates strict v2 :=
  ⟨roundTrips crates strict v1, roundTrips crates strict v2⟩

namespace Sample

open GrantUsability GrantUsability.Sample

/-- A proof made at 1600 is accepted at 1630 and no more at 1660. -/
theorem deed_presented : ∃ grant credential proof,
    v1.issueGrant .transparent .transparent pin (claims v1 [deed]) issuerKey 1500 =
      .ok grant ∧
    v1.deriveCredential .transparent .transparent pin grant [deed] none
      (lowerHex (Bytes.filled 16 5).val) 1500 2500 holderKey = .ok credential ∧
    v1.present .transparent .transparent pin credential (.object [])
      (lowerHex (Bytes.filled 16 6).val) 1600 holderKey = .ok proof ∧
    v1.verifyPresentation .transparent .transparent pin credential (.object []) proof
      1630 = .ok () ∧
    v1.verifyPresentation .transparent .transparent pin credential (.object []) proof
      1660 ≠ .ok () := by
  obtain ⟨signature, hissue⟩ := deed_issued
  have hself : v1.permissionsWithin [deed] [deed] = .ok () :=
    HolderGrants.permissionsWithin_self (by decide +kernel)
  have hsafe : safe (.array ([deed].map v1.permissionJson)) 4 = .ok () := by decide +kernel
  obtain ⟨credential, proof, hcredential, hproof⟩ :=
    (usable_iff_safe named_v1 (grantVerified_of_issue hissue) hself use).mpr hsafe
  have hverifies := (((issue_derive_present_round_trip .transparent .transparent).1
    _ _ _ _ _ hissue).2 _ _ _ _ _ _ _ hcredential).2 _ _ _ _ _ hproof
  obtain ⟨-, hclaims, -⟩ := deriveCredential_eq_ok.mp hcredential
  obtain ⟨-, -, -, -, -, -, ⟨limit, hlimit, hp⟩, -⟩ := present_eq_ok.mp hproof
  have hissued : proof.issuedAt = 1600 := congrArg Proof.issuedAt hp
  have hexpires : proof.expiresAt = 1660 := by
    rw [congrArg Proof.expiresAt hp, congrArg CredentialClaims.expiresAt hclaims,
      ← Option.some.inj hlimit]
    rfl
  have hinside : proof.issuedAt ≤ 1630 ∧ 1630 < proof.expiresAt := by
    rw [hissued, hexpires]
    decide
  have houtside : ¬ (proof.issuedAt ≤ 1660 ∧ 1660 < proof.expiresAt) := by
    rw [hissued, hexpires]
    decide
  exact ⟨_, credential, proof, hissue, hcredential, hproof, (hverifies 1630).mpr hinside,
    fun h => houtside ((hverifies 1660).mp h)⟩

end Sample

end GrantRoundTrip
