import SecsMagik.ScopedGrants

/-! # Holder sessions

A holder of a version 2 grant lets a session key act for a while: the session key proves possession
of a challenge, the holder authorizes it, the issuer turns the authorization into a credential, and
the session key presents that credential for single calls.
-/
namespace HolderSessions

open RustStd WireCodec CanonicalJson
open ExternalCrates (Crates Strict)
open GrantContract hiding invalid CredentialClaims Credential
open ScopedGrants (Permission permissionsWithin v2)
open HolderGrants.Version

def invalid : String := "invalid_holder_session"

def challengeSchema : String := "secs.holder-session-challenge.v1"
def authorizationSchema : String := "secs.holder-session-authorization.v1"
def credentialSchema : String := "secs.holder-session-credential.v1"
def presentationSchema : String := "secs.holder-session-presentation.v1"
def statusSchema : String := "secs.holder-session-status.v1"

def authorizeDomain : String := "secs.holder-session-authorization.v1/signature"
def possessionDomain : String := "secs.holder-session-possession.v1/signature"
def credentialDomain : String := "secs.holder-session-credential.v1/signature"
def proofDomain : String := "secs.holder-session-presentation.v1/signature"
def statusDomain : String := "secs.holder-session-status.v1/signature"

/-! ## Records -/

structure Context where
  origin : String
  audience : String

structure Challenge where
  schema : String
  challengeId : String
  requestId : String
  nonce : String
  issuer : String
  keyId : String
  service : String
  audience : String
  origin : String
  parentGrantId : String
  parentGrantDigest : String
  parentRevision : String
  holderPublicKey : String
  installationId : String
  sessionInstallationId : String
  sessionPublicKey : String
  permissions : List Permission
  issuedAt : UInt64
  reviewDeadline : UInt64
  expiresAt : UInt64

structure Authorization where
  schema : String
  challenge : Challenge
  parentGrant : Grant Permission
  holderSignature : String
  sessionSignature : String

structure CredentialClaims where
  schema : String
  credentialId : String
  challengeDigest : String
  challenge : Challenge

structure Credential where
  claims : CredentialClaims
  signature : String

structure StatusRequest where
  schema : String
  requestId : String
  challengeId : String
  nonce : String
  issuedAt : UInt64
  expiresAt : UInt64
  signature : String

def Challenge.toJson (c : Challenge) : Json := .object [
  ("schema", .string c.schema), ("challenge_id", .string c.challengeId),
  ("request_id", .string c.requestId), ("nonce", .string c.nonce), ("issuer", .string c.issuer),
  ("key_id", .string c.keyId), ("service", .string c.service), ("audience", .string c.audience),
  ("origin", .string c.origin), ("parent_grant_id", .string c.parentGrantId),
  ("parent_grant_digest", .string c.parentGrantDigest),
  ("parent_revision", .string c.parentRevision),
  ("holder_public_key", .string c.holderPublicKey), ("installation_id", .string c.installationId),
  ("session_installation_id", .string c.sessionInstallationId),
  ("session_public_key", .string c.sessionPublicKey),
  ("permissions", .array (c.permissions.map Permission.toJson)),
  ("issued_at", .int c.issuedAt.toNat), ("review_deadline", .int c.reviewDeadline.toNat),
  ("expires_at", .int c.expiresAt.toNat)]

def Authorization.toJson (a : Authorization) : Json := .object [
  ("schema", .string a.schema), ("challenge", a.challenge.toJson),
  ("parent_grant", a.parentGrant.toJson Permission.toJson),
  ("holder_signature", .string a.holderSignature),
  ("session_signature", .string a.sessionSignature)]

def CredentialClaims.toJson (c : CredentialClaims) : Json := .object [
  ("schema", .string c.schema), ("credential_id", .string c.credentialId),
  ("challenge_digest", .string c.challengeDigest), ("challenge", c.challenge.toJson)]

def Credential.toJson (c : Credential) : Json := .object [
  ("claims", c.claims.toJson), ("signature", .string c.signature)]

def statusClaims (p : StatusRequest) : Json := .object [
  ("schema", .string p.schema), ("request_id", .string p.requestId),
  ("challenge_id", .string p.challengeId), ("nonce", .string p.nonce),
  ("issued_at", .int p.issuedAt.toNat), ("expires_at", .int p.expiresAt.toNat)]

/-! ## Producers and verifiers -/

section Functions

variable (crates : Crates) (strict : Strict crates)

/-- `structure` -/
def checkStructure (c : Challenge) (context : Context) (now : UInt64) : Result Unit := do
  let _ ← canonical c.toJson
  [c.issuer, c.keyId, c.service, c.origin, c.audience].forM text
  let _ ← hex 16 c.challengeId
  let _ ← hex 16 c.requestId
  let _ ← hex 32 c.nonce
  let _ ← hex 16 c.parentGrantId
  let _ ← hex 32 c.parentGrantDigest
  let _ ← hex 32 c.parentRevision
  let _ ← hex 16 c.installationId
  let _ ← hex 16 c.sessionInstallationId
  let _ ← key crates strict c.holderPublicKey
  let _ ← key crates strict c.sessionPublicKey
  rejectIf (c.schema ≠ challengeSchema ∨ c.origin ≠ context.origin ∨
    c.audience ≠ context.audience ∨ c.holderPublicKey = c.sessionPublicKey ∨
    safeMax < now.toNat ∨ now < c.issuedAt ∨ c.expiresAt ≤ c.issuedAt ∨ c.expiresAt ≤ now ∨
    safeMax < c.expiresAt.toNat) invalid
  let limit ← (checkedAdd c.issuedAt 120).elim (.error invalid) .ok
  rejectIf (c.reviewDeadline ≠ min limit c.expiresAt ∨ c.permissions.isEmpty ∨
    64 < c.permissions.length) invalid
  c.permissions.forM (·.validate c.service)

def proveStatus (c : Challenge) (nonce : String) (now : UInt64) (session : Bytes 32) :
    Result StatusRequest := do
  checkStructure crates strict c ⟨c.origin, c.audience⟩ now
  let _ ← hex 16 nonce
  rejectIf (publicKeyHex crates session ≠ c.sessionPublicKey) invalid
  let limit ← (checkedAdd now 60).elim (.error invalid) .ok
  let proof : StatusRequest := {
    schema := statusSchema
    requestId := c.requestId
    challengeId := c.challengeId
    nonce
    issuedAt := now
    expiresAt := min limit c.expiresAt
    signature := "" }
  let signature ← sign crates statusDomain (statusClaims proof) session
  return { proof with signature }

def verifyStatus (c : Challenge) (p : StatusRequest) (context : Context) (now : UInt64) :
    Result Unit := do
  checkStructure crates strict c context now
  let _ ← hex 16 p.nonce
  rejectIf (p.schema ≠ statusSchema ∨ p.requestId ≠ c.requestId ∨ p.challengeId ≠ c.challengeId ∨
    p.issuedAt < c.issuedAt ∨ now < p.issuedAt ∨ p.expiresAt ≤ now ∨ c.expiresAt < p.expiresAt ∨
    60 < p.expiresAt - p.issuedAt) invalid
  verify crates strict statusDomain (statusClaims p) p.signature c.sessionPublicKey

def parentBinding (pin : IssuerPin) (parent : Grant Permission) (c : Challenge)
    (context : Context) (now : UInt64) : Result Unit := do
  checkStructure crates strict c context now
  ScopedGrants.verifyGrant crates strict pin parent now
  let g := parent.claims
  rejectIf (c.issuer ≠ pin.issuer ∨ c.keyId ≠ pin.keyId ∨ c.service ≠ pin.service ∨
    c.parentGrantId ≠ g.grantId) invalid
  let parentDigest ← digest crates (parent.toJson Permission.toJson)
  rejectIf (c.parentGrantDigest ≠ parentDigest ∨ c.parentRevision ≠ g.revision ∨
    c.holderPublicKey ≠ g.holderPublicKey ∨ g.installationId.any (· ≠ c.installationId) ∨
    g.validity.contains c.issuedAt = false ∨ g.validity.stop.any (· < c.expiresAt) ∨
    g.maxCredentialLifetimeSeconds < c.expiresAt - c.issuedAt) invalid
  permissionsWithin c.permissions g.permissions

def reviewChallenge (pin : IssuerPin) (parent : Grant Permission) (c : Challenge)
    (context : Context) (now : UInt64) : Result Unit := do
  parentBinding crates strict pin parent c context now
  rejectIf (c.reviewDeadline ≤ now) invalid

def provePossession (c : Challenge) (session : Bytes 32) (now : UInt64) : Result String := do
  checkStructure crates strict c ⟨c.origin, c.audience⟩ now
  rejectIf (publicKeyHex crates session ≠ c.sessionPublicKey ∨ c.reviewDeadline ≤ now) invalid
  sign crates possessionDomain c.toJson session

def authorize (pin : IssuerPin) (parent : Grant Permission) (challenge : Challenge)
    (sessionSignature : String) (context : Context) (holder : Bytes 32) (now : UInt64) :
    Result Authorization := do
  reviewChallenge crates strict pin parent challenge context now
  rejectIf (publicKeyHex crates holder ≠ challenge.holderPublicKey) invalid
  verify crates strict possessionDomain challenge.toJson sessionSignature
    challenge.sessionPublicKey
  let holderSignature ← sign crates authorizeDomain challenge.toJson holder
  let a : Authorization := ⟨authorizationSchema, challenge, parent, holderSignature,
    sessionSignature⟩
  let _ ← canonical a.toJson
  return a

def verifyAuthorization (pin : IssuerPin) (a : Authorization) (context : Context) (now : UInt64) :
    Result Unit := do
  let _ ← canonical a.toJson
  rejectIf (a.schema ≠ authorizationSchema) invalid
  reviewChallenge crates strict pin a.parentGrant a.challenge context now
  verify crates strict authorizeDomain a.challenge.toJson a.holderSignature
    a.challenge.holderPublicKey
  verify crates strict possessionDomain a.challenge.toJson a.sessionSignature
    a.challenge.sessionPublicKey

def issue (pin : IssuerPin) (a : Authorization) (id : String) (context : Context)
    (issuer : Bytes 32) (now : UInt64) : Result Credential := do
  verifyAuthorization crates strict pin a context now
  let _ ← hex 16 id
  rejectIf (publicKeyHex crates issuer ≠ pin.publicKey) invalid
  let challengeDigest ← digest crates a.challenge.toJson
  let claims : CredentialClaims := ⟨credentialSchema, id, challengeDigest, a.challenge⟩
  let signature ← sign crates credentialDomain claims.toJson issuer
  let credential : Credential := ⟨claims, signature⟩
  let _ ← canonical credential.toJson
  return credential

def verifyCredential (pin : IssuerPin) (c : Credential) (context : Context) (now : UInt64) :
    Result Unit := do
  let _ ← canonical c.toJson
  checkStructure crates strict c.claims.challenge context now
  let _ ← hex 16 c.claims.credentialId
  rejectIf (c.claims.schema ≠ credentialSchema) invalid
  let challengeDigest ← digest crates c.claims.challenge.toJson
  rejectIf (c.claims.challengeDigest ≠ challengeDigest ∨ c.claims.challenge.issuer ≠ pin.issuer ∨
    c.claims.challenge.keyId ≠ pin.keyId ∨ c.claims.challenge.service ≠ pin.service) invalid
  verify crates strict credentialDomain c.claims.toJson c.signature pin.publicKey

def verifyParent (pin : IssuerPin) (parent : Grant Permission) (c : Credential)
    (context : Context) (now : UInt64) : Result Unit := do
  verifyCredential crates strict pin c context now
  parentBinding crates strict pin parent c.claims.challenge context now

def callAllowed (c : Credential) (call : Json) : Result Unit := do
  let _ ← canonical call
  let object ← call.asObject.elim (.error invalid) .ok
  rejectIf (object.length ≠ 3 ∨ object.any (·.1 = "parameters") = false ∨
    (c.claims.challenge.permissions.any fun p =>
      some p.operation = (call.index "operation").asStr ∧
        some p.resource = (call.index "resource").asStr) = false) invalid

def present (pin : IssuerPin) (c : Credential) (call : Json) (nonce : String) (context : Context)
    (now : UInt64) (session : Bytes 32) : Result Proof := do
  verifyCredential crates strict pin c context now
  callAllowed c call
  let _ ← hex 16 nonce
  rejectIf (publicKeyHex crates session ≠ c.claims.challenge.sessionPublicKey) invalid
  let credentialDigest ← digest crates c.toJson
  let callDigest ← digest crates call
  let limit ← (checkedAdd now 60).elim (.error invalid) .ok
  let p : Proof := {
    schema := presentationSchema
    credentialDigest, callDigest, nonce
    issuedAt := now
    expiresAt := min limit c.claims.challenge.expiresAt
    signature := "" }
  let signature ← sign crates proofDomain (proofClaims p) session
  let p := { p with signature }
  let _ ← canonical (presentationJson c.toJson call p.toJson)
  return p

def verifyPresentation (pin : IssuerPin) (parent : Grant Permission) (c : Credential) (call : Json)
    (proof : Proof) (context : Context) (now : UInt64) : Result Unit := do
  verifyParent crates strict pin parent c context now
  callAllowed c call
  let _ ← hex 16 proof.nonce
  rejectIf (proof.schema ≠ presentationSchema) invalid
  let credentialDigest ← digest crates c.toJson
  rejectIf (proof.credentialDigest ≠ credentialDigest) invalid
  let callDigest ← digest crates call
  rejectIf (proof.callDigest ≠ callDigest ∨ proof.issuedAt < c.claims.challenge.issuedAt ∨
    now < proof.issuedAt ∨ proof.expiresAt ≤ now ∨
    c.claims.challenge.expiresAt < proof.expiresAt ∨ 60 < proof.expiresAt - proof.issuedAt) invalid
  verify crates strict proofDomain (proofClaims proof) proof.signature
    c.claims.challenge.sessionPublicKey

end Functions

end HolderSessions
