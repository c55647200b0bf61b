import SecsMagik.GrantUsability
import SecsMagik.HolderSessions

/-! # Session safety and completeness

What each verifier of a session establishes, set out as one predicate that does not depend on the
time and one window; every producer establishes the predicate its verifier asks for.
-/
namespace SessionSafety

open RustStd WireCodec CanonicalJson
open ExternalCrates (Crates Strict)
open GrantContract hiding invalid CredentialClaims Credential
open ScopedGrants (Permission permissionsWithin v2)
open HolderGrants.Version (GrantVerified verifyGrant_eq_ok)
open HolderSessions

variable {now : UInt64} {c : Credential}

section Checked

variable (crates : Crates) (strict : Strict crates)

/-- The checks on a challenge that do not depend on the time. -/
structure Structured (c : Challenge) (context : Context) : Prop where
  canonical : Canonical c.toJson
  texts : ∀ s ∈ [c.issuer, c.keyId, c.service, c.origin, c.audience], text s = .ok ()
  challengeId : IsHex 16 c.challengeId
  requestId : IsHex 16 c.requestId
  nonce : IsHex 32 c.nonce
  parentGrantId : IsHex 16 c.parentGrantId
  parentGrantDigest : IsHex 32 c.parentGrantDigest
  parentRevision : IsHex 32 c.parentRevision
  installationId : IsHex 16 c.installationId
  sessionInstallationId : IsHex 16 c.sessionInstallationId
  holderKey : IsKey crates strict c.holderPublicKey
  sessionKey : IsKey crates strict c.sessionPublicKey
  schema : c.schema = challengeSchema
  origin : c.origin = context.origin
  audience : c.audience = context.audience
  apart : c.holderPublicKey ≠ c.sessionPublicKey
  window : c.issuedAt < c.expiresAt
  safe : c.expiresAt.toNat ≤ safeMax
  deadline : ∃ limit, checkedAdd c.issuedAt 120 = some limit ∧
    c.reviewDeadline = min limit c.expiresAt
  permissions : c.permissions ≠ [] ∧ c.permissions.length ≤ 64
  valid : ∀ p ∈ c.permissions, p.validate c.service = .ok ()

variable {crates strict} {pin : IssuerPin} {parent : Grant Permission} {context : Context}

theorem checkStructure_eq_ok {c : Challenge} :
    checkStructure crates strict c context now = .ok () ↔
      Structured crates strict c context ∧ c.issuedAt ≤ now ∧ now < c.expiresAt := by
  unfold checkStructure
  simp only [bind_eq_ok, canonical_eq_ok, rejectIf_eq_ok, forM_eq_ok, elim_eq_ok, exists_and_right,
    exists_const, not_or, ne_eq, not_not, and_assoc, exists_and_left, exists_eq', true_and,
    Nat.not_lt, UInt64.not_lt, UInt64.not_le, List.isEmpty_iff]
  constructor
  · rintro ⟨hcanonical, htexts, hchallenge, hrequest, hnonce, hgrant, hdigest, hrevision,
      hinstallation, hsessionInstallation, hholder, hsession, hschema, horigin, haudience, hapart,
      _, hissued, hwindow, hexpires, hsafe, limit, hlimit, hdeadline, hsome, hmost, hvalid⟩
    exact ⟨⟨hcanonical, htexts, hchallenge, hrequest, hnonce, hgrant, hdigest, hrevision,
      hinstallation, hsessionInstallation, hholder, hsession, hschema, horigin, haudience, hapart,
      hwindow, hsafe, ⟨limit, hlimit, hdeadline⟩, ⟨hsome, hmost⟩, hvalid⟩, hissued, hexpires⟩
  · rintro ⟨h, hissued, hexpires⟩
    have hnow : now.toNat ≤ safeMax := (UInt64.lt_iff_toNat_lt.mp hexpires).le.trans h.safe
    obtain ⟨limit, hlimit, hdeadline⟩ := h.deadline
    exact ⟨h.canonical, h.texts, h.challengeId, h.requestId, h.nonce, h.parentGrantId,
      h.parentGrantDigest, h.parentRevision, h.installationId, h.sessionInstallationId, h.holderKey,
      h.sessionKey, h.schema, h.origin, h.audience, h.apart, hnow, hissued, h.window, hexpires,
      h.safe, limit, hlimit, hdeadline, h.permissions.1, h.permissions.2, h.valid⟩

variable (crates strict) in
/-- The checks that tie a challenge to its parent grant. -/
structure Bound (pin : IssuerPin) (parent : Grant Permission) (c : Challenge) (context : Context) :
    Prop where
  structured : Structured crates strict c context
  granted : GrantVerified crates strict v2 pin parent
  issuer : c.issuer = pin.issuer
  keyId : c.keyId = pin.keyId
  service : c.service = pin.service
  grantId : c.parentGrantId = parent.claims.grantId
  digest : digest crates (parent.toJson Permission.toJson) = .ok c.parentGrantDigest
  revision : c.parentRevision = parent.claims.revision
  holder : c.holderPublicKey = parent.claims.holderPublicKey
  installation : ∀ i, parent.claims.installationId = some i → i = c.installationId
  validity : parent.claims.validity.contains c.issuedAt
  stop : ∀ e, parent.claims.validity.stop = some e → c.expiresAt ≤ e
  lifetime : c.expiresAt - c.issuedAt ≤ parent.claims.maxCredentialLifetimeSeconds
  permissions : permissionsWithin c.permissions parent.claims.permissions = .ok ()

theorem Bound.contains {c : Challenge} (h : Bound crates strict pin parent c context)
    (hissued : c.issuedAt ≤ now) (hexpires : now < c.expiresAt) :
    parent.claims.validity.contains now :=
  Validity.contains_of_window h.validity h.stop h.structured.safe hissued hexpires

theorem parentBinding_eq_ok {c : Challenge} :
    parentBinding crates strict pin parent c context now = .ok () ↔
      Bound crates strict pin parent c context ∧ c.issuedAt ≤ now ∧ now < c.expiresAt := by
  unfold parentBinding ScopedGrants.verifyGrant
  rw [check_bind_eq_ok, checkStructure_eq_ok, check_bind_eq_ok, verifyGrant_eq_ok]
  simp only [bind_eq_ok, rejectIf_eq_ok, exists_and_right, exists_const, not_or, ne_eq, not_not,
    Bool.not_eq_true, Bool.not_eq_false, and_assoc, UInt64.not_lt, Option.any_eq_false,
    decide_eq_false_iff_not]
  constructor
  · rintro ⟨hstructured, hissued, hexpires, hgrant, _, hissuer, hkeyId, hservice, hgrantId, d,
      hdigest, hd, hrevision, hholder, hinstallation, hvalidity, hstop, hlifetime, hpermissions⟩
    rw [← hd] at hdigest
    exact ⟨⟨hstructured, hgrant, hissuer, hkeyId, hservice, hgrantId, hdigest, hrevision, hholder,
      hinstallation, hvalidity, hstop, hlifetime, hpermissions⟩, hissued, hexpires⟩
  · rintro ⟨h, hissued, hexpires⟩
    exact ⟨h.structured, hissued, hexpires, h.granted, h.contains hissued hexpires, h.issuer,
      h.keyId, h.service, h.grantId, c.parentGrantDigest, h.digest, rfl, h.revision, h.holder,
      h.installation, h.validity, h.stop, h.lifetime, h.permissions⟩

variable (crates strict) in
/-- A session credential whose own checks pass, apart from its parent. -/
structure Verified (pin : IssuerPin) (c : Credential) (context : Context) : Prop where
  canonical : Canonical c.toJson
  structured : Structured crates strict c.claims.challenge context
  credentialId : IsHex 16 c.claims.credentialId
  schema : c.claims.schema = credentialSchema
  digest : GrantContract.digest crates c.claims.challenge.toJson = .ok c.claims.challengeDigest
  issuer : c.claims.challenge.issuer = pin.issuer
  keyId : c.claims.challenge.keyId = pin.keyId
  service : c.claims.challenge.service = pin.service
  signature : verify crates strict credentialDomain c.claims.toJson c.signature pin.publicKey =
    .ok ()

theorem verifyCredential_eq_ok :
    verifyCredential crates strict pin c context now = .ok () ↔
      Verified crates strict pin c context ∧ c.claims.challenge.issuedAt ≤ now ∧
        now < c.claims.challenge.expiresAt := by
  unfold verifyCredential
  simp only [bind_eq_ok, canonical_eq_ok, rejectIf_eq_ok, exists_and_right, exists_const, not_or,
    ne_eq, not_not, and_assoc, exists_and_left, exists_eq', true_and]
  constructor
  · rintro ⟨hcanonical, ⟨_, hstructure⟩, hid, hschema, d, hdigest, hd, hissuer, hkeyId, hservice,
      hsignature⟩
    obtain ⟨hstructured, hissued, hexpires⟩ := checkStructure_eq_ok.mp hstructure
    rw [← hd] at hdigest
    exact ⟨⟨hcanonical, hstructured, hid, hschema, hdigest, hissuer, hkeyId, hservice, hsignature⟩,
      hissued, hexpires⟩
  · rintro ⟨h, hissued, hexpires⟩
    exact ⟨h.canonical, ⟨(), checkStructure_eq_ok.mpr ⟨h.structured, hissued, hexpires⟩⟩,
      h.credentialId, h.schema, c.claims.challengeDigest, h.digest, rfl, h.issuer, h.keyId,
      h.service, h.signature⟩

theorem verifyParent_eq_ok :
    verifyParent crates strict pin parent c context now = .ok () ↔
      Verified crates strict pin c context ∧
        Bound crates strict pin parent c.claims.challenge context ∧
        c.claims.challenge.issuedAt ≤ now ∧ now < c.claims.challenge.expiresAt := by
  unfold verifyParent
  rw [check_bind_eq_ok, verifyCredential_eq_ok, parentBinding_eq_ok]
  constructor
  · rintro ⟨⟨hverified, _⟩, hbound, hwindow⟩
    exact ⟨hverified, hbound, hwindow⟩
  · rintro ⟨hverified, hbound, hwindow⟩
    exact ⟨⟨hverified, hwindow⟩, hbound, hwindow⟩

/-! ## Proofs for single calls -/

/-- The call names the operation and the resource of a permission. -/
def Names (call : Json) (p : Permission) : Prop :=
  (call.index "operation").asStr = some p.operation ∧
    (call.index "resource").asStr = some p.resource

theorem callAllowed_names {call : Json} (h : callAllowed c call = .ok ()) :
    ∃ p ∈ c.claims.challenge.permissions, Names call p := by
  unfold callAllowed at h
  obtain ⟨_, -, h⟩ := bind_eq_ok.mp h
  obtain ⟨object, -, h⟩ := bind_eq_ok.mp h
  rw [rejectIf_eq_ok, not_or, not_or, Bool.not_eq_false, Bool.not_eq_false] at h
  obtain ⟨p, hp, hnames⟩ := List.any_eq_true.mp h.2.2
  obtain ⟨hoperation, hresource⟩ := decide_eq_true_eq.mp hnames
  exact ⟨p, hp, hoperation.symm, hresource.symm⟩

variable (crates strict) in
/-- The checks on a session's proof that do not depend on the time. -/
structure Proved (c : Credential) (call : Json) (p : Proof) : Prop where
  allowed : callAllowed c call = .ok ()
  nonce : IsHex 16 p.nonce
  schema : p.schema = presentationSchema
  credentialDigest : digest crates c.toJson = .ok p.credentialDigest
  callDigest : digest crates call = .ok p.callDigest
  issuedAt : c.claims.challenge.issuedAt ≤ p.issuedAt
  expiresAt : p.expiresAt ≤ c.claims.challenge.expiresAt
  span : p.expiresAt - p.issuedAt ≤ 60
  signature : verify crates strict proofDomain (proofClaims p) p.signature
    c.claims.challenge.sessionPublicKey = .ok ()

theorem verifyPresentation_eq_ok {call : Json} {p : Proof} :
    verifyPresentation crates strict pin parent c call p context now = .ok () ↔
      (Verified crates strict pin c context ∧
        Bound crates strict pin parent c.claims.challenge context) ∧
      Proved crates strict c call p ∧ p.issuedAt ≤ now ∧ now < p.expiresAt := by
  unfold verifyPresentation
  rw [check_bind_eq_ok, verifyParent_eq_ok, check_bind_eq_ok]
  simp only [bind_eq_ok, rejectIf_eq_ok, exists_and_right, exists_const, not_or, ne_eq, not_not,
    and_assoc, UInt64.not_lt, UInt64.not_le]
  constructor
  · rintro ⟨hverified, hbound, _, _, hallowed, hnonce, hschema, d, hdigest, hd, e, hcall, he, hfrom,
      hissued, hexpires, hto, hspan, hsignature⟩
    rw [← hd] at hdigest
    rw [← he] at hcall
    exact ⟨hverified, hbound,
      ⟨hallowed, hnonce, hschema, hdigest, hcall, hfrom, hto, hspan, hsignature⟩, hissued, hexpires⟩
  · rintro ⟨hverified, hbound, hp, hissued, hexpires⟩
    exact ⟨hverified, hbound, UInt64.le_trans hp.issuedAt hissued,
      UInt64.lt_of_lt_of_le hexpires hp.expiresAt, hp.allowed, hp.nonce, hp.schema, _,
      hp.credentialDigest, rfl, _, hp.callDigest, rfl, hp.issuedAt, hissued, hexpires, hp.expiresAt,
      hp.span, hp.signature⟩

/-! ## What the producers establish -/

/-- The issuer ran the parent's checks itself, and signed what it had checked. -/
theorem verified_of_issue {a : Authorization} {id : String} {issuer : Bytes 32}
    (h : issue crates strict pin a id context issuer now = .ok c) :
    c.claims.challenge = a.challenge ∧ Verified crates strict pin c context ∧
      Bound crates strict pin a.parentGrant a.challenge context ∧ a.challenge.issuedAt ≤ now := by
  unfold issue verifyAuthorization reviewChallenge at h
  simp only [bind_eq_ok, rejectIf_eq_ok, canonical_eq_ok, exists_and_right, exists_const, ne_eq,
    not_not, and_assoc, exists_and_left, exists_eq', true_and] at h
  obtain ⟨-, -, ⟨_, hbinding⟩, -, -, -, hid, hissuer, d, hdigest, signature, hsign, hcanonical,
    hc⟩ := h
  obtain ⟨hbound, hissued, -⟩ := parentBinding_eq_ok.mp hbinding
  have hkey : IsKey crates strict (publicKeyHex crates issuer) := by
    rw [hissuer]
    exact hbound.granted.checked.pinKey
  have hsignature := verify_of_sign hkey hsign
  rw [hissuer] at hsignature
  obtain rfl := Except.ok.inj hc
  exact ⟨rfl, ⟨hcanonical, hbound.structured, hid, rfl, hdigest, hbound.issuer, hbound.keyId,
    hbound.service, hsignature⟩, hbound, hissued⟩

theorem authorize_fields {challenge : Challenge} {possession : String} {holder : Bytes 32}
    {a : Authorization}
    (h : authorize crates strict pin parent challenge possession context holder now = .ok a) :
    a.challenge = challenge ∧ a.parentGrant = parent := by
  unfold authorize at h
  simp only [bind_eq_ok] at h
  obtain ⟨_, _, _, _, _, _, _, _, _, _, ha⟩ := h
  obtain rfl := Except.ok.inj ha
  exact ⟨rfl, rfl⟩

theorem proved_of_present {call : Json} {nonce : String} {session : Bytes 32} {p : Proof}
    (h : present crates strict pin c call nonce context now session = .ok p) :
    Proved crates strict c call p := by
  unfold present at h
  rw [check_bind_eq_ok, verifyCredential_eq_ok, check_bind_eq_ok] at h
  simp only [bind_eq_ok, rejectIf_eq_ok, elim_eq_ok, exists_and_right, exists_const, ne_eq, not_not,
    and_assoc] at h
  obtain ⟨hverified, hissued, hexpires, hallowed, hnonce, hsession, d, hdigest, e, hcall, limit,
    hlimit, signature, hsign, _, hp⟩ := h
  have hkey : IsKey crates strict (publicKeyHex crates session) := by
    rw [hsession]
    exact hverified.structured.sessionKey
  have hsignature := verify_of_sign hkey hsign
  rw [hsession] at hsignature
  obtain ⟨hto, hspan⟩ := min_checkedAdd_window hlimit hexpires
  obtain rfl := Except.ok.inj hp
  exact ⟨hallowed, hnonce, rfl, hdigest, hcall, hissued, hto, hspan, hsignature⟩

end Checked

/-! ## Both directions -/

/-- What an accepted presentation is confined to. -/
structure Confined (parent : Grant Permission) (challenge : Challenge) (call : Json) (proof : Proof)
    (now : UInt64) : Prop where
  named : ∃ p ∈ parent.claims.permissions, Names call p
  proofWindow : proof.issuedAt ≤ now ∧ now < proof.expiresAt
  challengeWindow : challenge.issuedAt ≤ proof.issuedAt ∧ proof.expiresAt ≤ challenge.expiresAt
  validity : ∀ t, challenge.issuedAt ≤ t → t < challenge.expiresAt →
    parent.claims.validity.contains t
  lifetime : challenge.expiresAt.toNat ≤
    challenge.issuedAt.toNat + parent.claims.maxCredentialLifetimeSeconds.toNat

/-- A session from the possession proof to the credential. The wallet authorizes under its own pin
and context; the issuer works under `pin` and `context`. -/
structure Exchange (crates : Crates) (strict : Strict crates) (pin : IssuerPin)
    (context : Context) where
  parent : Grant Permission
  challenge : Challenge
  session : Bytes 32
  provedAt : UInt64
  possession : String
  proved : provePossession crates strict challenge session provedAt = .ok possession
  walletPin : IssuerPin
  walletContext : Context
  holder : Bytes 32
  authorizedAt : UInt64
  authorization : Authorization
  authorized : authorize crates strict walletPin parent challenge possession walletContext holder
    authorizedAt = .ok authorization
  credentialId : String
  issuer : Bytes 32
  issuedAt : UInt64
  credential : Credential
  issued : issue crates strict pin authorization credentialId context issuer issuedAt =
    .ok credential

section Directions

variable {crates : Crates} {strict : Strict crates} {pin : IssuerPin} {context : Context}

theorem confined_of_verify {parent : Grant Permission} {call : Json} {proof : Proof}
    (h : verifyPresentation crates strict pin parent c call proof context now = .ok ()) :
    Confined parent c.claims.challenge call proof now := by
  obtain ⟨⟨-, hbound⟩, hproved, hwindow⟩ := verifyPresentation_eq_ok.mp h
  refine ⟨?_, hwindow, ⟨hproved.issuedAt, hproved.expiresAt⟩, fun t => hbound.contains, ?_⟩
  · obtain ⟨p, hp, hoperation, hresource⟩ := callAllowed_names hproved.allowed
    obtain ⟨-, -, hfound⟩ := ScopedGrants.permissionsWithin_eq_ok.mp hbound.permissions
    obtain ⟨-, r, hr, hmatches, -⟩ := ScopedGrants.Permission.foundIn_eq_true.mp (hfound p hp)
    refine ⟨r, hr, ?_, ?_⟩
    · rw [hoperation, hmatches.1]
    · rw [hresource, hmatches.2.1]
  · have hle := UInt64.le_of_lt hbound.structured.window
    have hlifetime := UInt64.le_iff_toNat_le.mp hbound.lifetime
    rw [UInt64.toNat_sub_of_le _ _ hle] at hlifetime
    omega

theorem Exchange.verified (e : Exchange crates strict pin context) :
    e.credential.claims.challenge = e.challenge ∧ Verified crates strict pin e.credential context ∧
      Bound crates strict pin e.parent e.credential.claims.challenge context ∧
      e.challenge.issuedAt ≤ e.issuedAt := by
  obtain ⟨hchallenge, hparent⟩ := authorize_fields e.authorized
  obtain ⟨hclaims, hverified, hbound, hissued⟩ := verified_of_issue e.issued
  rw [hparent, ← hclaims] at hbound
  rw [hchallenge] at hclaims hissued
  exact ⟨hclaims, hverified, hbound, hissued⟩

end Directions

/-- An accepted presentation stays within the parent grant in what it does and when, and a session
that was set up by the producers is accepted for as long as it runs. -/
theorem session_safe_and_complete (crates : Crates) (strict : Strict crates) (pin : IssuerPin)
    (context : Context) :
    (∀ parent credential call proof now,
      verifyPresentation crates strict pin parent credential call proof context now = .ok () →
      Confined parent credential.claims.challenge call proof now) ∧
    ∀ e : Exchange crates strict pin context,
      (∀ now, e.issuedAt ≤ now → now < e.challenge.expiresAt →
        verifyParent crates strict pin e.parent e.credential context now = .ok ()) ∧
      ∀ presenterPin call nonce presenterContext presentedAt session proof,
        present crates strict presenterPin e.credential call nonce presenterContext presentedAt
          session = .ok proof →
        ∀ now, proof.issuedAt ≤ now → now < proof.expiresAt →
          verifyPresentation crates strict pin e.parent e.credential call proof context now =
            .ok () := by
  constructor
  · intro parent credential call proof now h
    exact confined_of_verify h
  · intro e
    obtain ⟨hchallenge, hverified, hbound, hissued⟩ := e.verified
    constructor
    · intro now hfrom hto
      rw [verifyParent_eq_ok, hchallenge]
      rw [hchallenge] at hbound
      exact ⟨hverified, hbound, UInt64.le_trans hissued hfrom, hto⟩
    · intro presenterPin call nonce presenterContext presentedAt session proof hpresent
        now hfrom hto
      exact verifyPresentation_eq_ok.mpr
        ⟨⟨hverified, hbound⟩, proved_of_present hpresent, hfrom, hto⟩

/-! ## A session -/

namespace Sample

open GrantUsability.Sample (pin issuerKey holderKey claims reading shallow)

def sessionKey : Bytes 32 := Bytes.filled 32 7

def context : Context := ⟨"app", "desk"⟩

/-- Reading deeds from 1500 to 2500, to be reviewed by 1620. -/
def challenge (parentDigest : String) : Challenge where
  schema := challengeSchema
  challengeId := lowerHex (Bytes.filled 16 8).val
  requestId := lowerHex (Bytes.filled 16 9).val
  nonce := lowerHex (Bytes.filled 32 10).val
  issuer := "castle"
  keyId := "key-1"
  service := "archive"
  audience := "desk"
  origin := "app"
  parentGrantId := lowerHex (Bytes.filled 16 3).val
  parentGrantDigest := parentDigest
  parentRevision := lowerHex (Bytes.filled 32 4).val
  holderPublicKey := publicKeyHex .transparent holderKey
  installationId := lowerHex (Bytes.filled 16 11).val
  sessionInstallationId := lowerHex (Bytes.filled 16 12).val
  sessionPublicKey := publicKeyHex .transparent sessionKey
  permissions := [reading shallow]
  issuedAt := 1500
  reviewDeadline := 1620
  expiresAt := 2500

def call : Json := .object [
  ("operation", .string "read"), ("resource", .string "deed"), ("parameters", .object [])]

/-- What the parties make of a challenge for the grant, and the times of the proof at the end. -/
def exchange : Result (UInt64 × UInt64) := do
  let parent ← ScopedGrants.issueGrant .transparent .transparent pin
    (claims v2 [reading shallow]) issuerKey 1500
  let digest ← digest .transparent (parent.toJson Permission.toJson)
  let possession ← provePossession .transparent .transparent (challenge digest)
    sessionKey 1510
  let authorization ← authorize .transparent .transparent pin parent (challenge digest)
    possession context holderKey 1520
  let credential ← issue .transparent .transparent pin authorization
    (lowerHex (Bytes.filled 16 13).val) context issuerKey 1530
  let proof ← present .transparent .transparent pin credential call
    (lowerHex (Bytes.filled 16 14).val) context 1600 sessionKey
  return (proof.issuedAt, proof.expiresAt)

theorem exchange_eq : exchange = .ok (1600, 1660) := by
  decide +kernel

/-- A session from 1500 to 2500 holds to its end, and a proof made at 1600 to its own. -/
theorem session_runs : ∃ (e : Exchange .transparent .transparent pin context)
    (proof : Proof),
    verifyParent .transparent .transparent pin e.parent e.credential context 2499 =
      .ok () ∧
    present .transparent .transparent pin e.credential call
      (lowerHex (Bytes.filled 16 14).val) context 1600 sessionKey = .ok proof ∧
    verifyPresentation .transparent .transparent pin e.parent e.credential call proof
      context 1659 = .ok () ∧
    Confined e.parent e.credential.claims.challenge call proof 1659 := by
  obtain ⟨parent, -, hrest⟩ := bind_eq_ok.mp exchange_eq
  obtain ⟨digest, -, hrest⟩ := bind_eq_ok.mp hrest
  obtain ⟨possession, hproved, hrest⟩ := bind_eq_ok.mp hrest
  obtain ⟨authorization, hauthorized, hrest⟩ := bind_eq_ok.mp hrest
  obtain ⟨credential, hissued, hrest⟩ := bind_eq_ok.mp hrest
  obtain ⟨proof, hpresent, htimes⟩ := bind_eq_ok.mp hrest
  obtain ⟨hfrom, hto⟩ := Prod.mk.inj (Except.ok.inj htimes)
  let e : Exchange .transparent .transparent pin context := {
    parent
    challenge := challenge digest
    session := sessionKey
    provedAt := 1510
    possession
    proved := hproved
    walletPin := pin
    walletContext := context
    holder := holderKey
    authorizedAt := 1520
    authorization
    authorized := hauthorized
    credentialId := lowerHex (Bytes.filled 16 13).val
    issuer := issuerKey
    issuedAt := 1530
    credential
    issued := hissued }
  obtain ⟨hsafety, hcomplete⟩ :=
    session_safe_and_complete .transparent .transparent pin context
  have haccepted := (hcomplete e).2 _ _ _ _ _ _ _ hpresent 1659 (hfrom ▸ by decide)
    (hto ▸ by decide)
  exact ⟨e, proof, (hcomplete e).1 2499 (show (1530 : UInt64) ≤ 2499 by decide)
    (show (2499 : UInt64) < 2500 by decide), hpresent, haccepted, hsafety _ _ _ _ _ haccepted⟩

end Sample

end SessionSafety
