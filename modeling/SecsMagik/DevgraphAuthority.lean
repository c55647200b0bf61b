import SecsMagik.AuthorityLedger
import SecsMagik.Base64Url
import SecsMagik.CanonicalJson
import SecsMagik.PublicAudit
import SecsMagik.VerifierKeys

/-! # The producer of Issue-create authorities

A wallet presents one request under its key. The receiver checks the presentation against its own
policy, signs a portable projection and reserves it before it returns it.
-/
namespace DevgraphAuthority

open RustStd
open ExternalCrates (Crates Strict)
open CallContext (VerificationError AuthenticatorKind isClockReadFailure clockReadFailureSentinel)
open WireCodec (rejectIf)
open VerifierKeys Base64Url AuthorityLedger

inductive DevgraphAuthorityError where
  | malformedRequest | requestTooLarge | invalidIdentifier | emptyTitle | invalidRequest
  | invalidIdempotencyKey | malformedWalletPresentation | walletPresentationTooLarge
  | invalidWalletPresentation | unsupportedSignatureSuite | invalidWalletSignature | wrongActor
  | wrongAudience | wrongOperation | wrongResource | wrongRequestDigest | wrongIdempotencyDigest
  | invalidSession | invalidValidityWindow | notYetValid | expired | clockFailure
  | invalidReceiverPolicy | receiverPolicyTooLarge | receiverPolicyDenied
  | untrustedVerifierIdentity | malformedProjection | projectionTooLarge | wrongProjectionBinding
  | invalidVerifierSignature | replayConflict | replayStorageFailed | internal
  deriving DecidableEq, Repr

abbrev Result := Except DevgraphAuthorityError

def issueCreateOperationV1 : String := "devgraph.issue.create.v1"

def authoritySchemaV1 : String := "secs-devgraph-authority.v1"

def authoritySchemaVersionV1 : UInt64 := 1

def authoritySignatureSuiteV1 : String := "Ed25519"

def issueCreatePolicySchemaV1 : String := "secs-devgraph-issue-create-policy.v1"

def walletPresentationSchemaV1 : String := "devgraph.issue.create.wallet-presentation.v1"

def authorityMaxTtlSecondsV1 : UInt64 := 60

def maxRequestJsonBytesV1 : ℕ := 131072

def maxCanonicalRequestBytesV1 : ℕ := 65536

def walletPresentationMaxJsonBytesV1 : ℕ := 16384

/-! ## Checks of single values -/

def isJsonSafeU64 (value : UInt64) : Bool := value ≤ 9007199254740991

def isCanonicalIdentifier (value : String) : Bool :=
  let endpoint b := isAsciiLowercase b || isAsciiDigit b
  let bytes := utf8 value
  !bytes.isEmpty && bytes.length ≤ 256 && bytes.head?.all endpoint && bytes.getLast?.all endpoint &&
    bytes.all fun b => endpoint b || b = 45

def isCanonicalIssueResource (value : String) : Bool :=
  (stripPrefix value "Issue/").any isCanonicalIdentifier

def validateDigest (value : String) : Result Unit :=
  if byteLen value = 64 ∧ (utf8 value).all isLowerHexByte then .ok ()
  else .error .malformedProjection

/-- A digest after a fixed head, as actor and context ids have it. -/
def isDigestId (head value : String) : Bool :=
  (stripPrefix value head).any fun digest => (validateDigest digest).isOk

def isActorId (value : String) : Bool := isDigestId "pubkey:sha256:" value

def isContextId (value : String) : Bool := isDigestId "ctx:sha256:" value

def isSafeReceiverValue (value : String) (maxLen : ℕ) : Bool :=
  value ≠ "" && byteLen value ≤ maxLen && !value.toList.any isControl && trim value ≠ ""

def isSafeLabel (value : String) (maxLen : ℕ) : Bool :=
  value ≠ "" && byteLen value ≤ maxLen &&
    (utf8 value).all fun b => isAsciiAlphanumeric b || (utf8 "._:-").contains b

def validateTimeWindow (issuedAt expiresAt now : UInt64) : Result Unit := do
  rejectIf (isClockReadFailure now) .clockFailure
  rejectIf (issuedAt ≥ expiresAt ∨ saturatingSub expiresAt issuedAt > authorityMaxTtlSecondsV1)
    .invalidValidityWindow
  rejectIf (now < issuedAt) .notYetValid
  rejectIf (now ≥ expiresAt) .expired

/-! ## Canonical texts and digests -/

def jsonString (value : String) : List Char := JsonText.quote value

def jsonNumber (value : UInt64) : List Char := Nat.toDigits 10 value.toNat

def namesAscend : List String → Bool
  | [] | [_] => true
  | name :: next :: rest => name < next && namesAscend (next :: rest)

def canonicalObject (fields : List (String × List Char)) : Result String :=
  if namesAscend (fields.map Prod.fst) then .ok (String.ofList (JsonText.object id fields))
  else .error .internal

section

variable (crates : Crates)

def domainDigestHex (domain : String) (payload : List UInt8) : String :=
  lowerHex (crates.sha256 (utf8 domain ++ payload)).val

def contextId (walletPresentationDigest policyDigest verifierKeyId : String) : String :=
  "ctx:sha256:" ++ domainDigestHex crates "secs-devgraph-authority.v1/context\x00"
    (utf8 walletPresentationDigest ++ 0 :: utf8 policyDigest ++ 0 :: utf8 verifierKeyId)

def idempotencyKeyDigestSha256 (idempotencyKey : String) : Result String :=
  if byteLen idempotencyKey < 16 ∨ 128 < byteLen idempotencyKey ∨
      ¬ (utf8 idempotencyKey).all fun b => isAsciiAlphanumeric b || (utf8 "._~-").contains b then
    .error .invalidIdempotencyKey
  else .ok (lowerHex (crates.sha256 (utf8 idempotencyKey)).val)

def actorIdForPublicKey (publicKey : Bytes 32) : String :=
  "pubkey:sha256:" ++ lowerHex (crates.sha256 publicKey.val).val

end

/-! ## The request -/

structure DevgraphIssueCreateRequestV1 where
  artifactIds : List String
  description : String
  externalLinkIds : List String
  id : String
  kind : String
  priority : ℤ
  title : String
  deriving DecidableEq

namespace DevgraphIssueCreateRequestV1

def resource (request : DevgraphIssueCreateRequestV1) : String := "Issue/" ++ request.id

def canonicalJson (request : DevgraphIssueCreateRequestV1) : Result String :=
  canonicalObject [
    ("artifact_ids", JsonText.array jsonString request.artifactIds),
    ("description", jsonString request.description),
    ("external_link_ids", JsonText.array jsonString request.externalLinkIds),
    ("id", jsonString request.id),
    ("kind", jsonString request.kind),
    ("priority", CanonicalJson.Json.writeInt request.priority),
    ("title", jsonString request.title)]

def requestDigestSha256 (crates : Crates) (request : DevgraphIssueCreateRequestV1) :
    Result String := do
  let canonical ← request.canonicalJson
  return domainDigestHex crates "devgraph.issue.create.request.v1\x00" (utf8 canonical)

def validate (request : DevgraphIssueCreateRequestV1) : Result Unit := do
  rejectIf (request.kind ≠ "Issue") .invalidRequest
  rejectIf (request.priority < -9007199254740991 ∨ request.priority > 9007199254740991)
    .invalidRequest
  rejectIf (¬ isCanonicalIdentifier request.id ∨
    request.artifactIds.any (! isCanonicalIdentifier ·) ∨
    request.externalLinkIds.any (! isCanonicalIdentifier ·)) .invalidIdentifier
  rejectIf (request.title = "") .emptyTitle

/-- `decode` is what `serde` makes of the bytes. -/
def fromJson (decode : List UInt8 → Option DevgraphIssueCreateRequestV1) (bytes : List UInt8) :
    Result DevgraphIssueCreateRequestV1 := do
  rejectIf (bytes.length > maxRequestJsonBytesV1) .requestTooLarge
  let request ← (decode bytes).elim (.error .malformedRequest) .ok
  request.validate
  let canonical ← request.canonicalJson
  rejectIf (byteLen canonical > maxCanonicalRequestBytesV1) .requestTooLarge
  return request

end DevgraphIssueCreateRequestV1

/-! ## The wallet's presentation -/

structure DevgraphIssueCreateWalletPresentationV1 where
  actorPublicKey : String
  actorSignatureSuite : String
  audience : String
  expiresAt : UInt64
  idempotencyKeyDigestSha256 : String
  issuedAt : UInt64
  nonce : String
  operation : String
  requestDigestSha256 : String
  resource : String
  schema : String
  schemaVersion : UInt64
  sessionId : String
  signature : String
  deriving DecidableEq

structure VerifiedWalletPresentationV1 where
  actorId : String
  sessionId : Bytes 16
  nonce : Bytes 12
  presentationDigestSha256 : String
  issuedAt : UInt64
  expiresAt : UInt64

namespace DevgraphIssueCreateWalletPresentationV1

/-- `decode` is what `serde` makes of the bytes. -/
def fromJson (decode : List UInt8 → Option DevgraphIssueCreateWalletPresentationV1)
    (bytes : List UInt8) : Result DevgraphIssueCreateWalletPresentationV1 := do
  rejectIf (bytes.length > walletPresentationMaxJsonBytesV1) .walletPresentationTooLarge
  (decode bytes).elim (.error .malformedWalletPresentation) .ok

def validateCanonicalNumbers (p : DevgraphIssueCreateWalletPresentationV1) : Result Unit :=
  rejectIf (isJsonSafeU64 p.schemaVersion = false ∨ isJsonSafeU64 p.issuedAt = false ∨
    isJsonSafeU64 p.expiresAt = false) .invalidWalletPresentation

def unsignedFields (p : DevgraphIssueCreateWalletPresentationV1) : List (String × List Char) :=
  [("actor_public_key", jsonString p.actorPublicKey),
    ("actor_signature_suite", jsonString p.actorSignatureSuite),
    ("audience", jsonString p.audience),
    ("expires_at", jsonNumber p.expiresAt),
    ("idempotency_key_digest_sha256", jsonString p.idempotencyKeyDigestSha256),
    ("issued_at", jsonNumber p.issuedAt),
    ("nonce", jsonString p.nonce),
    ("operation", jsonString p.operation),
    ("request_digest_sha256", jsonString p.requestDigestSha256),
    ("resource", jsonString p.resource),
    ("schema", jsonString p.schema),
    ("schema_version", jsonNumber p.schemaVersion),
    ("session_id", jsonString p.sessionId)]

def canonicalUnsignedJson (p : DevgraphIssueCreateWalletPresentationV1) : Result String := do
  p.validateCanonicalNumbers
  canonicalObject p.unsignedFields

def canonicalJson (p : DevgraphIssueCreateWalletPresentationV1) : Result String := do
  p.validateCanonicalNumbers
  canonicalObject (p.unsignedFields ++ [("signature", jsonString p.signature)])

def signaturePreimage (p : DevgraphIssueCreateWalletPresentationV1) : Result (List UInt8) := do
  let unsigned ← p.canonicalUnsignedJson
  return utf8 "devgraph.issue.create.wallet-presentation.v1/signature\x00" ++ utf8 unsigned

def presentationDigestSha256 (crates : Crates) (p : DevgraphIssueCreateWalletPresentationV1) :
    Result String := do
  let canonical ← p.canonicalJson
  return domainDigestHex crates "devgraph.issue.create.wallet-presentation.v1/presentation\x00"
    (utf8 canonical)

def verify {crates : Crates} (strict : Strict crates) (p : DevgraphIssueCreateWalletPresentationV1)
    (audience resource requestDigestSha256 idempotencyKeyDigestSha256 : String) (now : UInt64) :
    Result VerifiedWalletPresentationV1 := do
  p.validateCanonicalNumbers
  validateTimeWindow p.issuedAt p.expiresAt now
  rejectIf (p.schema ≠ walletPresentationSchemaV1 ∨ p.schemaVersion ≠ 1) .invalidWalletPresentation
  rejectIf (p.actorSignatureSuite ≠ authoritySignatureSuiteV1) .unsupportedSignatureSuite
  rejectIf (p.audience ≠ audience) .wrongAudience
  rejectIf (p.operation ≠ issueCreateOperationV1) .wrongOperation
  rejectIf (p.resource ≠ resource) .wrongResource
  rejectIf (p.requestDigestSha256 ≠ requestDigestSha256) .wrongRequestDigest
  rejectIf (p.idempotencyKeyDigestSha256 ≠ idempotencyKeyDigestSha256) .wrongIdempotencyDigest
  validateDigest p.requestDigestSha256
  validateDigest p.idempotencyKeyDigestSha256
  let sessionId ← (decodeBase64urlExact 16 p.sessionId).elim (.error .invalidSession) .ok
  let nonce ← (decodeBase64urlExact 12 p.nonce).elim (.error .invalidWalletPresentation) .ok
  let publicKey ←
    (decodeBase64urlExact 32 p.actorPublicKey).elim (.error .invalidWalletPresentation) .ok
  let signature ← (decodeBase64urlExact 64 p.signature).elim (.error .invalidWalletSignature) .ok
  rejectIf (strict.isPoint publicKey = false) .invalidWalletPresentation
  let preimage ← p.signaturePreimage
  rejectIf (strict.verifyStrict publicKey preimage signature = false) .invalidWalletSignature
  let presentationDigest ← p.presentationDigestSha256 crates
  return {
    actorId := actorIdForPublicKey crates publicKey
    sessionId
    nonce
    presentationDigestSha256 := presentationDigest
    issuedAt := p.issuedAt
    expiresAt := p.expiresAt }

end DevgraphIssueCreateWalletPresentationV1

/-! ## The receiver's policy -/

inductive DevgraphPolicyEffectV1 where
  | allow | deny
  deriving DecidableEq

def DevgraphPolicyEffectV1.asStr : DevgraphPolicyEffectV1 → String
  | .allow => "allow"
  | .deny => "deny"

inductive DevgraphPolicyStatusV1 where
  | active | revoked
  deriving DecidableEq

def DevgraphPolicyStatusV1.asStr : DevgraphPolicyStatusV1 → String
  | .active => "active"
  | .revoked => "revoked"

inductive DevgraphResourceMatchV1 where
  | exactly | prefixed
  deriving DecidableEq

def DevgraphResourceMatchV1.asStr : DevgraphResourceMatchV1 → String
  | .exactly => "exact"
  | .prefixed => "prefix"

structure DevgraphIssueCreatePolicyRuleV1 where
  actorId : String
  effect : DevgraphPolicyEffectV1
  notAfter : UInt64
  notBefore : UInt64
  resource : String
  resourceMatch : DevgraphResourceMatchV1
  status : DevgraphPolicyStatusV1

namespace DevgraphIssueCreatePolicyRuleV1

def canonicalJson (rule : DevgraphIssueCreatePolicyRuleV1) : Result String :=
  canonicalObject [
    ("actor_id", jsonString rule.actorId),
    ("effect", jsonString rule.effect.asStr),
    ("not_after", jsonNumber rule.notAfter),
    ("not_before", jsonNumber rule.notBefore),
    ("resource", jsonString rule.resource),
    ("resource_match", jsonString rule.resourceMatch.asStr),
    ("status", jsonString rule.status.asStr)]

def validate (rule : DevgraphIssueCreatePolicyRuleV1) : Result Unit := do
  rejectIf (isActorId rule.actorId = false ∨ rule.notBefore ≥ rule.notAfter ∨
    isJsonSafeU64 rule.notBefore = false ∨ isJsonSafeU64 rule.notAfter = false)
    .invalidReceiverPolicy
  match rule.resourceMatch with
  | .exactly => rejectIf (isCanonicalIssueResource rule.resource = false) .invalidReceiverPolicy
  | .prefixed =>
    rejectIf (startsWith rule.resource "Issue/" = false ∨ byteLen rule.resource > 262)
      .invalidReceiverPolicy

def matchesRule (rule : DevgraphIssueCreatePolicyRuleV1) (actorId resource : String)
    (now : UInt64) : Bool :=
  rule.actorId = actorId && rule.status = .active && rule.notBefore ≤ now && now < rule.notAfter &&
    match rule.resourceMatch with
    | .exactly => rule.resource = resource
    | .prefixed => startsWith resource rule.resource

end DevgraphIssueCreatePolicyRuleV1

structure DevgraphIssueCreatePolicyV1 where
  audience : String
  operation : String
  policyId : String
  policyVersion : UInt64
  rules : List DevgraphIssueCreatePolicyRuleV1
  schema : String

structure DevgraphReceiverPolicyBindingV1 where
  policyId : String
  policyVersion : UInt64
  policyDigestSha256 : String

namespace DevgraphIssueCreatePolicyV1

def canonicalJson (policy : DevgraphIssueCreatePolicyV1) : Result String := do
  let rules ← policy.rules.mapM DevgraphIssueCreatePolicyRuleV1.canonicalJson
  canonicalObject [
    ("audience", jsonString policy.audience),
    ("operation", jsonString policy.operation),
    ("policy_id", jsonString policy.policyId),
    ("policy_version", jsonNumber policy.policyVersion),
    ("rules", JsonText.array String.toList rules),
    ("schema", jsonString policy.schema)]

def validate (policy : DevgraphIssueCreatePolicyV1) : Result Unit := do
  rejectIf (policy.schema ≠ issueCreatePolicySchemaV1 ∨ policy.operation ≠ issueCreateOperationV1 ∨
    policy.policyVersion = 0 ∨ isJsonSafeU64 policy.policyVersion = false ∨
    isSafeLabel policy.policyId 128 = false ∨ isSafeReceiverValue policy.audience 256 = false ∨
    policy.rules.isEmpty ∨ policy.rules.length > 256) .invalidReceiverPolicy
  policy.rules.forM (·.validate)

def binding (crates : Crates) (policy : DevgraphIssueCreatePolicyV1) :
    Result DevgraphReceiverPolicyBindingV1 := do
  policy.validate
  let canonical ← policy.canonicalJson
  return {
    policyId := policy.policyId
    policyVersion := policy.policyVersion
    policyDigestSha256 :=
      domainDigestHex crates "secs-devgraph-issue-create-policy.v1\x00" (utf8 canonical) }

/-- One turn of the loop of `authorize`. -/
def authorizeStep (actorId resource : String) (now : UInt64) (allowed : Bool)
    (rule : DevgraphIssueCreatePolicyRuleV1) : Result Bool :=
  if rule.matchesRule actorId resource now then
    match rule.effect with
    | .deny => .error .receiverPolicyDenied
    | .allow => .ok true
  else .ok allowed

def authorize (policy : DevgraphIssueCreatePolicyV1) (actorId resource : String) (now : UInt64) :
    Result Unit := do
  policy.validate
  let allowed ← policy.rules.foldlM (authorizeStep actorId resource now) false
  rejectIf (allowed = false) .receiverPolicyDenied

end DevgraphIssueCreatePolicyV1

/-! ## Keys of the registry -/

/-- The checks that both uses of an authority key share. -/
def authorityKey (registry : PublicVerifierKeyRegistry) (keyId : String) (now : UInt64) :
    Except VerificationError PublicVerifierKey := do
  let key ← registry.activeKey keyId now
  rejectIf (key.notAfter.any (· ≤ now) = true) .expiredVerifierKey
  return key

def verifyDevgraphAuthorityV1Signature {crates : Crates} (strict : Strict crates)
    (registry : PublicVerifierKeyRegistry) (signerKeyId : String) (preimage : List UInt8)
    (signature : Bytes 64) (now : UInt64) : Except VerificationError Unit := do
  let key ← authorityKey registry signerKeyId now
  rejectIf (key.productionAuthority = false ∨ key.algorithm ≠ "ed25519") .untrustedVerifierKey
  rejectIf (strict.verifyStrict key.publicKey preimage signature = false) .invalidSignature

def requireDevgraphAuthoritySignerV1 (registry : PublicVerifierKeyRegistry) (signerKeyId : String)
    (signerPublicKey : Bytes 32) (now : UInt64) : Except VerificationError Unit := do
  let key ← authorityKey registry signerKeyId now
  rejectIf (key.productionAuthority = false ∨ key.algorithm ≠ "ed25519" ∨
    key.publicKey ≠ signerPublicKey) .untrustedVerifierKey

/-! ## The projection -/

structure DevgraphAuthorityProjectionV1 where
  actorId : String
  actorSignatureSuite : String
  audience : String
  expiresAt : UInt64
  idempotencyKeyDigestSha256 : String
  issuedAt : UInt64
  nonce : String
  operation : String
  receiverPolicyDigestSha256 : String
  receiverPolicyId : String
  receiverPolicyVersion : UInt64
  replayScope : String
  requestDigestSha256 : String
  resource : String
  schema : String
  schemaVersion : UInt64
  secsContextId : String
  secsVerifierKeyId : String
  secsVerifierSignature : String
  secsVerifierSignatureSuite : String
  sessionId : String
  walletPresentationDigestSha256 : String
  deriving DecidableEq

structure DevgraphAuthorityExpectationsV1 where
  actorId : String
  audience : String
  resource : String
  requestDigestSha256 : String
  idempotencyKeyDigestSha256 : String
  sessionId : Bytes 16
  nonce : Bytes 12
  issuedAt : UInt64
  expiresAt : UInt64
  policy : DevgraphReceiverPolicyBindingV1
  walletPresentationDigestSha256 : String

namespace DevgraphAuthorityProjectionV1

def canonicalJsonWithSignature (p : DevgraphAuthorityProjectionV1) (includeSignature : Bool) :
    Result String := do
  rejectIf (isJsonSafeU64 p.schemaVersion = false ∨ isJsonSafeU64 p.issuedAt = false ∨
    isJsonSafeU64 p.expiresAt = false ∨ isJsonSafeU64 p.receiverPolicyVersion = false)
    .malformedProjection
  canonicalObject ([
    ("actor_id", jsonString p.actorId),
    ("actor_signature_suite", jsonString p.actorSignatureSuite),
    ("audience", jsonString p.audience),
    ("expires_at", jsonNumber p.expiresAt),
    ("idempotency_key_digest_sha256", jsonString p.idempotencyKeyDigestSha256),
    ("issued_at", jsonNumber p.issuedAt),
    ("nonce", jsonString p.nonce),
    ("operation", jsonString p.operation),
    ("receiver_policy_digest_sha256", jsonString p.receiverPolicyDigestSha256),
    ("receiver_policy_id", jsonString p.receiverPolicyId),
    ("receiver_policy_version", jsonNumber p.receiverPolicyVersion),
    ("replay_scope", jsonString p.replayScope),
    ("request_digest_sha256", jsonString p.requestDigestSha256),
    ("resource", jsonString p.resource),
    ("schema", jsonString p.schema),
    ("schema_version", jsonNumber p.schemaVersion),
    ("secs_context_id", jsonString p.secsContextId),
    ("secs_verifier_key_id", jsonString p.secsVerifierKeyId)] ++
    (if includeSignature then
      [("secs_verifier_signature", jsonString p.secsVerifierSignature)] else []) ++ [
    ("secs_verifier_signature_suite", jsonString p.secsVerifierSignatureSuite),
    ("session_id", jsonString p.sessionId),
    ("wallet_presentation_digest_sha256", jsonString p.walletPresentationDigestSha256)])

def signaturePreimage (p : DevgraphAuthorityProjectionV1) : Result (List UInt8) := do
  let unsigned ← p.canonicalJsonWithSignature false
  return utf8 "secs-devgraph-authority.v1/signature\x00" ++ utf8 unsigned

def correlationDigestSha256 (crates : Crates) (p : DevgraphAuthorityProjectionV1) :
    Result String := do
  let canonical ← p.canonicalJsonWithSignature true
  return domainDigestHex crates "secs-devgraph-authority.v1/projection\x00" (utf8 canonical)

def verifyWithRegistry {crates : Crates} (strict : Strict crates)
    (p : DevgraphAuthorityProjectionV1) (registry : PublicVerifierKeyRegistry)
    (expected : DevgraphAuthorityExpectationsV1) (now : UInt64) : Result String := do
  validateTimeWindow p.issuedAt p.expiresAt now
  rejectIf (isSafeReceiverValue expected.audience 256 = false ∨
    isSafeLabel expected.policy.policyId 128 = false ∨ expected.policy.policyVersion = 0 ∨
    isJsonSafeU64 expected.policy.policyVersion = false ∨
    (validateDigest expected.policy.policyDigestSha256).isOk = false) .wrongProjectionBinding
  rejectIf (p.schema ≠ authoritySchemaV1 ∨ p.schemaVersion ≠ authoritySchemaVersionV1 ∨
    p.actorSignatureSuite ≠ authoritySignatureSuiteV1 ∨
    p.secsVerifierSignatureSuite ≠ authoritySignatureSuiteV1 ∨
    p.operation ≠ issueCreateOperationV1 ∨ p.replayScope ≠ authorityReplayScopeV1 ∨
    isActorId p.actorId = false ∨ isCanonicalIssueResource p.resource = false ∨
    isContextId p.secsContextId = false ∨ isSafeLabel p.secsVerifierKeyId 256 = false ∨
    isJsonSafeU64 p.schemaVersion = false ∨ isJsonSafeU64 p.issuedAt = false ∨
    isJsonSafeU64 p.expiresAt = false ∨ isJsonSafeU64 p.receiverPolicyVersion = false)
    .malformedProjection
  [p.idempotencyKeyDigestSha256, p.receiverPolicyDigestSha256, p.requestDigestSha256,
    p.walletPresentationDigestSha256].forM validateDigest
  let sessionId ← (decodeBase64urlExact 16 p.sessionId).elim (.error .malformedProjection) .ok
  let nonce ← (decodeBase64urlExact 12 p.nonce).elim (.error .malformedProjection) .ok
  let signature ←
    (decodeBase64urlExact 64 p.secsVerifierSignature).elim (.error .invalidVerifierSignature) .ok
  rejectIf (p.actorId ≠ expected.actorId ∨ p.audience ≠ expected.audience ∨
    p.resource ≠ expected.resource ∨ p.requestDigestSha256 ≠ expected.requestDigestSha256 ∨
    p.idempotencyKeyDigestSha256 ≠ expected.idempotencyKeyDigestSha256 ∨
    sessionId ≠ expected.sessionId ∨ nonce ≠ expected.nonce ∨ p.issuedAt ≠ expected.issuedAt ∨
    p.expiresAt ≠ expected.expiresAt ∨ p.receiverPolicyId ≠ expected.policy.policyId ∨
    p.receiverPolicyVersion ≠ expected.policy.policyVersion ∨
    p.receiverPolicyDigestSha256 ≠ expected.policy.policyDigestSha256 ∨
    p.walletPresentationDigestSha256 ≠ expected.walletPresentationDigestSha256)
    .wrongProjectionBinding
  let preimage ← p.signaturePreimage
  (verifyDevgraphAuthorityV1Signature strict registry p.secsVerifierKeyId preimage signature
    now).mapError fun _ => .invalidVerifierSignature
  p.correlationDigestSha256 crates

end DevgraphAuthorityProjectionV1

/-! ## The producer -/

inductive DevgraphAuthorityIssueOutcomeV1 where
  | fresh (projection : DevgraphAuthorityProjectionV1)
  | exactRetry (projection : DevgraphAuthorityProjectionV1)
  deriving DecidableEq

namespace DevgraphAuthorityIssueOutcomeV1

def projection : DevgraphAuthorityIssueOutcomeV1 → DevgraphAuthorityProjectionV1
  | .fresh projection | .exactRetry projection => projection

def isExactRetry : DevgraphAuthorityIssueOutcomeV1 → Bool
  | .fresh _ => false
  | .exactRetry _ => true

end DevgraphAuthorityIssueOutcomeV1

/-- One call: what the receiver holds and what the wallet hands in. -/
structure Issuance where
  verifierIdentity : NodeVerifierIdentity
  verifierRegistry : PublicVerifierKeyRegistry
  receiverPolicy : DevgraphIssueCreatePolicyV1
  requestJson : List UInt8
  idempotencyKey : String
  walletPresentationJson : List UInt8

structure Decoders where
  request : List UInt8 → Option DevgraphIssueCreateRequestV1
  presentation : List UInt8 → Option DevgraphIssueCreateWalletPresentationV1

section Issue

variable {crates : Crates} (strict : Strict crates) (decoders : Decoders)

/-- Everything before the reservation: the signed projection and what is reserved for it. -/
def prepare (call : Issuance) (now : UInt64) :
    Result (DevgraphAuthorityProjectionV1 × DevgraphAuthorityReplayBindingV1) := do
  let identity := call.verifierIdentity
  rejectIf (isClockReadFailure now) .clockFailure
  rejectIf (identity.authenticatorKind ≠ .ed25519NodeAndVerifier) .untrustedVerifierIdentity
  (requireDevgraphAuthoritySignerV1 call.verifierRegistry identity.signerKeyId
    (crates.publicKey identity.signingKey) now).mapError fun _ => .untrustedVerifierIdentity
  let request ← DevgraphIssueCreateRequestV1.fromJson decoders.request call.requestJson
  let requestDigestSha256 ← request.requestDigestSha256 crates
  let idempotencyKeyDigestSha256 ← idempotencyKeyDigestSha256 crates call.idempotencyKey
  let presentation ← DevgraphIssueCreateWalletPresentationV1.fromJson decoders.presentation
    call.walletPresentationJson
  call.receiverPolicy.validate
  let verified ← presentation.verify strict call.receiverPolicy.audience request.resource
    requestDigestSha256 idempotencyKeyDigestSha256 now
  call.receiverPolicy.authorize verified.actorId request.resource now
  let policy ← call.receiverPolicy.binding crates
  let projection : DevgraphAuthorityProjectionV1 := {
    actorId := verified.actorId
    actorSignatureSuite := authoritySignatureSuiteV1
    audience := call.receiverPolicy.audience
    expiresAt := verified.expiresAt
    idempotencyKeyDigestSha256
    issuedAt := verified.issuedAt
    nonce := encodeBase64url verified.nonce.val
    operation := issueCreateOperationV1
    receiverPolicyDigestSha256 := policy.policyDigestSha256
    receiverPolicyId := policy.policyId
    receiverPolicyVersion := policy.policyVersion
    replayScope := authorityReplayScopeV1
    requestDigestSha256
    resource := request.resource
    schema := authoritySchemaV1
    schemaVersion := authoritySchemaVersionV1
    secsContextId := contextId crates verified.presentationDigestSha256 policy.policyDigestSha256
      identity.signerKeyId
    secsVerifierKeyId := identity.signerKeyId
    secsVerifierSignature := ""
    secsVerifierSignatureSuite := authoritySignatureSuiteV1
    sessionId := encodeBase64url verified.sessionId.val
    walletPresentationDigestSha256 := verified.presentationDigestSha256 }
  -- the signer's own check of its kind repeats the one above
  let preimage ← projection.signaturePreimage
  let projection := { projection with
    secsVerifierSignature := encodeBase64url (crates.sign identity.signingKey preimage).val }
  let _ ← projection.verifyWithRegistry strict call.verifierRegistry {
    actorId := verified.actorId
    audience := call.receiverPolicy.audience
    resource := request.resource
    requestDigestSha256
    idempotencyKeyDigestSha256
    sessionId := verified.sessionId
    nonce := verified.nonce
    issuedAt := verified.issuedAt
    expiresAt := verified.expiresAt
    policy
    walletPresentationDigestSha256 := verified.presentationDigestSha256 } now
  return (projection, {
    actorId := verified.actorId
    audience := call.receiverPolicy.audience
    expiresAt := verified.expiresAt
    idempotencyKeyDigestSha256
    issuedAt := verified.issuedAt
    nonce := verified.nonce
    operation := issueCreateOperationV1
    replayScope := authorityReplayScopeV1
    receiverPolicyId := policy.policyId
    receiverPolicyVersion := policy.policyVersion
    receiverPolicyDigestSha256 := policy.policyDigestSha256
    requestDigestSha256
    resource := request.resource
    secsContextId := projection.secsContextId
    secsVerifierKeyId := projection.secsVerifierKeyId
    sessionId := verified.sessionId
    walletPresentationDigestSha256 := verified.presentationDigestSha256 })

def issueDevgraphIssueCreateAuthorityV1 (call : Issuance) (now : UInt64) :
    Program (Result DevgraphAuthorityIssueOutcomeV1) :=
  match prepare strict decoders call now with
  | .error e => pure (.error e)
  | .ok (projection, replay) => do
    match ← reserveDevgraphAuthorityReplay replay now with
    | none => return .error .replayStorageFailed
    | some .reserved => return .ok (.fresh projection)
    | some .exactDuplicate => return .ok (.exactRetry projection)
    | some .scopeConflict => return .error .replayConflict

/-- A caller reads the clock and issues at that time. -/
def issueNow (call : Issuance) : Program (Result DevgraphAuthorityIssueOutcomeV1) :=
  readClock >>= issueDevgraphIssueCreateAuthorityV1 strict decoders call

end Issue

/-! ## What a binding determines -/

/-- The projection a binding stands for, before it is signed. -/
def unsignedProjection (b : DevgraphAuthorityReplayBindingV1) : DevgraphAuthorityProjectionV1 where
  actorId := b.actorId
  actorSignatureSuite := authoritySignatureSuiteV1
  audience := b.audience
  expiresAt := b.expiresAt
  idempotencyKeyDigestSha256 := b.idempotencyKeyDigestSha256
  issuedAt := b.issuedAt
  nonce := encodeBase64url b.nonce.val
  operation := b.operation
  receiverPolicyDigestSha256 := b.receiverPolicyDigestSha256
  receiverPolicyId := b.receiverPolicyId
  receiverPolicyVersion := b.receiverPolicyVersion
  replayScope := b.replayScope
  requestDigestSha256 := b.requestDigestSha256
  resource := b.resource
  schema := authoritySchemaV1
  schemaVersion := authoritySchemaVersionV1
  secsContextId := b.secsContextId
  secsVerifierKeyId := b.secsVerifierKeyId
  secsVerifierSignature := ""
  secsVerifierSignatureSuite := authoritySignatureSuiteV1
  sessionId := encodeBase64url b.sessionId.val
  walletPresentationDigestSha256 := b.walletPresentationDigestSha256

section Determined

variable {crates : Crates} {strict : Strict crates} {decoders : Decoders} {call : Issuance}
  {now : UInt64} {projection : DevgraphAuthorityProjectionV1}
  {binding : DevgraphAuthorityReplayBindingV1}

/-- How the projection of a call follows from what it reserves and from its signing key. -/
structure Signed (crates : Crates) (identity : NodeVerifierIdentity)
    (projection : DevgraphAuthorityProjectionV1) (binding : DevgraphAuthorityReplayBindingV1) :
    Prop where
  signer : binding.secsVerifierKeyId = identity.signerKeyId
  signed : ∃ preimage, (unsignedProjection binding).signaturePreimage = .ok preimage ∧
    projection = { unsignedProjection binding with
      secsVerifierSignature := encodeBase64url (crates.sign identity.signingKey preimage).val }

theorem signed_of_prepare (h : prepare strict decoders call now = .ok (projection, binding)) :
    Signed crates call.verifierIdentity projection binding ∧ now ≠ clockReadFailureSentinel := by
  simp only [prepare, bind_eq_ok, pure, Except.pure, Except.ok.injEq, Prod.mk.injEq] at h
  obtain ⟨_, hclock, -, -, -, -, request, -, requestDigest, -, idempotency, -, presentation, -, -,
    -, verified, -, -, -, policy, -, preimage, hpreimage, -, -, rfl, rfl⟩ := h
  refine ⟨⟨rfl, preimage, hpreimage, rfl⟩, ?_⟩
  simpa [isClockReadFailure, WireCodec.rejectIf_eq_ok] using hclock

theorem Signed.eq {identity identity' : NodeVerifierIdentity}
    {projection' : DevgraphAuthorityProjectionV1} (h : Signed crates identity projection binding)
    (h' : Signed crates identity' projection' binding)
    (hkey : identity.signingKey = identity'.signingKey) : projection' = projection := by
  obtain ⟨preimage, hpreimage, rfl⟩ := h.signed
  obtain ⟨preimage', hpreimage', rfl⟩ := h'.signed
  cases hpreimage.symm.trans hpreimage'
  rw [hkey]

end Determined

end DevgraphAuthority
