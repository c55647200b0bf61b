import SecsMagik.Evidence
import SecsMagik.LiveSource

/-! # Receiver-held Dregg authority

Two stores of the receiver answer whether an issuer may authorize an operation on a resource: a
registry of issuer entries and a snapshot of entities and resources. A live answer is mapped into
both.
-/
namespace DreggAuthorities

open RustStd
open ExternalCrates (Crates)
open CallContext (VerificationError)
open WireCodec (rejectIf rejectIf_eq_ok)
open LiveSource

inductive DreggAuthorityStatus where
  | active | revoked
  deriving DecidableEq, Repr

inductive DreggAuthorityRevocationStatus where
  | active | revoked
  deriving DecidableEq, Repr

inductive DreggAuthorityFinalityStatus where
  | final | notFinal | equivocated
  deriving DecidableEq, Repr

inductive DreggAuthorityRevocationVerifierMode where
  | fixtureStatusOnly | expectedRootBinding | liveRevocationVerifierRequired
  deriving DecidableEq, Repr

inductive DreggAuthorityFinalityMode where
  | notRequired | fixtureStatusOnly | blsThresholdRequired | rotatedReplayRequired
  deriving DecidableEq, Repr

structure DreggAuthorityStatusPolicy where
  requireStatus : Bool
  maxStatusAgeSeconds : UInt64
  requireRevocationCheck : Bool
  requireFinality : Bool
  revocationVerifierMode : DreggAuthorityRevocationVerifierMode
  finalityMode : DreggAuthorityFinalityMode
  expectedRevocationRootRef : Option String
  deriving DecidableEq

structure DreggAuthorityEntry where
  issuerId : String
  issuerKeyId : String
  issuerPublicKeyHex : String
  federationId : String
  rootRef : String
  rootFingerprint : String
  epochId : String
  epochNotBefore : UInt64
  epochNotAfter : UInt64
  acceptedAudiences : List String
  acceptedOperations : List String
  acceptedResources : List String
  acceptedSuites : List String
  statusPolicy : DreggAuthorityStatusPolicy
  rootStatus : DreggAuthorityStatus
  issuerStatus : DreggAuthorityStatus
  deriving DecidableEq

structure DreggAuthorityLookup where
  issuerId : String
  issuerKeyId : String
  rootRef : String
  rootFingerprint : String
  epochId : String
  audience : String
  operation : String
  resource : String
  suite : String
  validationTime : UInt64
  statusCheckedAt : Option UInt64
  revocationStatus : Option DreggAuthorityRevocationStatus
  finalityStatus : Option DreggAuthorityFinalityStatus
  attestedRevocationRootRef : Option String
  deriving DecidableEq

inductive DreggAuthorityRegistryError where
  | empty
  | malformed (error : String)
  | invalidEntry (error : String)
  | duplicateIssuer (issuer : String)
  | duplicateEpochRoot (root : String)
  | unreadable (error : String)
  deriving DecidableEq, Repr

def requireTexts (texts : List (String × String)) : Except DreggAuthorityRegistryError Unit :=
  texts.forM fun (field, value) =>
    rejectIf (trim value = "") (.invalidEntry (field ++ " is required"))

def requireValues (lists : List (String × List String)) : Except DreggAuthorityRegistryError Unit :=
  lists.forM fun (field, values) => rejectIf (values.isEmpty ∨ values.any (trim · = ""))
    (.invalidEntry (field ++ " must contain at least one non-empty value"))

/-! ## The registry -/

def validateEntry (entry : DreggAuthorityEntry) : Except DreggAuthorityRegistryError Unit := do
  requireTexts [("issuer_id", entry.issuerId), ("issuer_key_id", entry.issuerKeyId)]
  rejectIf (byteLen entry.issuerPublicKeyHex ≠ 64 ∨
    ¬ (utf8 entry.issuerPublicKeyHex).all isLowerHexByte)
    (.invalidEntry "issuer_public_key_hex must be 32-byte lowercase hex")
  requireTexts [("federation_id", entry.federationId), ("root_ref", entry.rootRef),
    ("root_fingerprint", entry.rootFingerprint), ("epoch_id", entry.epochId)]
  rejectIf (entry.epochNotBefore ≥ entry.epochNotAfter)
    (.invalidEntry "epoch_not_before must be less than epoch_not_after")
  rejectIf (entry.statusPolicy.requireStatus ∧ entry.statusPolicy.maxStatusAgeSeconds = 0)
    (.invalidEntry "max_status_age_seconds is required when status is required")
  rejectIf (entry.statusPolicy.revocationVerifierMode = .expectedRootBinding ∧
    entry.statusPolicy.expectedRevocationRootRef.isNone)
    (.invalidEntry "expected_revocation_root_ref is required for expected_root_binding")
  rejectIf (entry.statusPolicy.requireFinality = false ∧
    (entry.statusPolicy.finalityMode = .blsThresholdRequired ∨
      entry.statusPolicy.finalityMode = .rotatedReplayRequired))
    (.invalidEntry "require_finality is required for live finality verifier modes")
  requireValues [("accepted_audiences", entry.acceptedAudiences),
    ("accepted_operations", entry.acceptedOperations),
    ("accepted_resources", entry.acceptedResources), ("accepted_suites", entry.acceptedSuites)]

def DreggAuthorityEntry.epochRootKey (entry : DreggAuthorityEntry) : String :=
  entry.federationId ++ "|" ++ entry.rootRef ++ "|" ++ entry.epochId

/-- The loop over the entries; `seen` are those before. -/
def validateEntries : List DreggAuthorityEntry → List DreggAuthorityEntry →
    Except DreggAuthorityRegistryError Unit :=
  forEnumerated fun seen entry => do
    validateEntry entry
    rejectIf (entry.issuerId ∈ seen.map (·.issuerId)) (.duplicateIssuer entry.issuerId)
    rejectIf (entry.epochRootKey ∈ seen.map (·.epochRootKey))
      (.duplicateEpochRoot entry.epochRootKey)

structure DreggAuthorityRegistry where
  entries : List DreggAuthorityEntry

def DreggAuthorityRegistry.new (entries : List DreggAuthorityEntry) :
    Except DreggAuthorityRegistryError DreggAuthorityRegistry := do
  rejectIf entries.isEmpty .empty
  validateEntries [] entries
  return ⟨entries⟩

def checkStatus (entry : DreggAuthorityEntry) (lookup : DreggAuthorityLookup) :
    Except VerificationError Unit :=
  if entry.statusPolicy.requireStatus then
    match lookup.statusCheckedAt with
    | none => .error .missingStatus
    | some checkedAt => do
      rejectIf (checkedAt > lookup.validationTime) .stale
      rejectIf (lookup.validationTime - checkedAt > entry.statusPolicy.maxStatusAgeSeconds) .stale
  else .ok ()

def checkRevocation (entry : DreggAuthorityEntry) (lookup : DreggAuthorityLookup) :
    Except VerificationError Unit := do
  if entry.statusPolicy.requireRevocationCheck then
    match lookup.revocationStatus with
    | none => .error .missingStatus
    | some .active => .ok ()
    | some .revoked => .error .revoked
  match entry.statusPolicy.revocationVerifierMode with
  | .fixtureStatusOnly | .liveRevocationVerifierRequired => .ok ()
  | .expectedRootBinding =>
    match entry.statusPolicy.expectedRevocationRootRef, lookup.attestedRevocationRootRef with
    | some expected, some attested => rejectIf (attested ≠ expected) .wrongRevocationRoot
    | _, _ => .error .missingRevocationRoot

def checkFinality (entry : DreggAuthorityEntry) (lookup : DreggAuthorityLookup) :
    Except VerificationError Unit :=
  match entry.statusPolicy.finalityMode with
  | .notRequired | .blsThresholdRequired | .rotatedReplayRequired => .ok ()
  | .fixtureStatusOnly =>
    if entry.statusPolicy.requireFinality then
      match lookup.finalityStatus with
      | some .final => .ok ()
      | none | some .notFinal => .error .notFinal
      | some .equivocated => .error .equivocated
    else .ok ()

def DreggAuthorityRegistry.lookupActivePolicy (registry : DreggAuthorityRegistry)
    (lookup : DreggAuthorityLookup) : Except VerificationError DreggAuthorityEntry := do
  let entry ← (registry.entries.find? (·.issuerId = lookup.issuerId)).elim
    (.error .unknownIssuer) .ok
  rejectIf (entry.issuerKeyId ≠ lookup.issuerKeyId) .wrongIssuerKey
  rejectIf (entry.rootRef ≠ lookup.rootRef ∨ entry.rootFingerprint ≠ lookup.rootFingerprint)
    .wrongRoot
  rejectIf (entry.epochId ≠ lookup.epochId ∨ lookup.validationTime < entry.epochNotBefore ∨
    lookup.validationTime > entry.epochNotAfter) .wrongEpoch
  rejectIf (entry.rootStatus ≠ .active ∨ entry.issuerStatus ≠ .active) .revoked
  checkStatus entry lookup
  checkRevocation entry lookup
  checkFinality entry lookup
  rejectIf (lookup.audience ∉ entry.acceptedAudiences) .wrongAudience
  rejectIf (lookup.operation ∉ entry.acceptedOperations) .wrongOperation
  rejectIf (lookup.resource ∉ entry.acceptedResources) .wrongResource
  rejectIf (lookup.suite ∉ entry.acceptedSuites) .unsupportedSuite
  return entry

/-! ## The snapshot -/

structure DreggAuthoritySnapshotIssuer where
  issuerId : String
  issuerKeyId : String
  trustRootRef : String
  authorityRootRef : String
  acceptedEvidence : List String
  acceptedAudiences : List String
  acceptedOperations : List String
  acceptedResources : List String
  status : DreggAuthorityStatus
  notBefore : UInt64
  notAfter : UInt64
  statusRef : String
  deriving DecidableEq

structure DreggAuthoritySnapshotResource where
  resourceId : String
  resourceKind : String
  controllerEntityId : String
  allowedOperations : List String
  requiredEvidence : List String
  status : DreggAuthorityStatus
  statusRef : String
  deriving DecidableEq

structure DreggAuthoritySnapshot where
  schemaVersion : String
  snapshotId : String
  sourceNodeId : String
  federationId : String
  entityId : String
  namespaceId : String
  entityDisplayName : String
  observedAt : UInt64
  expiresAt : UInt64
  authorityMode : String
  issuers : List DreggAuthoritySnapshotIssuer
  resources : List DreggAuthoritySnapshotResource
  deriving DecidableEq

structure DreggAuthoritySnapshotLookup where
  entityId : String
  namespaceId : String
  issuerId : String
  trustRootRef : String
  authorityRootRef : String
  audience : String
  operation : String
  resource : String
  evidenceKind : String
  validationTime : UInt64
  deriving DecidableEq

structure DreggAuthoritySnapshotDecision where
  entityId : String
  namespaceId : String
  authorityMode : String
  matchedResourceScope : String
  deriving DecidableEq

def resourceScopeMatches (scope resource : String) : Bool :=
  match stripSuffix scope "*" with
  | some head => startsWith resource head
  | none => scope = resource

namespace DreggAuthoritySnapshot

def currentSchemaVersion : String := "secs-dregg-authority-snapshot-v1"

def lookupEntityResourceAuthority (snapshot : DreggAuthoritySnapshot)
    (lookup : DreggAuthoritySnapshotLookup) :
    Except VerificationError DreggAuthoritySnapshotDecision := do
  rejectIf (lookup.validationTime > snapshot.expiresAt ∨
    lookup.validationTime < snapshot.observedAt) .stale
  rejectIf (snapshot.entityId ≠ lookup.entityId ∨ snapshot.namespaceId ≠ lookup.namespaceId)
    .wrongBinding
  let issuer ← (snapshot.issuers.find? (·.issuerId = lookup.issuerId)).elim
    (.error .unknownIssuer) .ok
  rejectIf (issuer.status ≠ .active) .revoked
  rejectIf (issuer.trustRootRef ≠ lookup.trustRootRef) .wrongTrustRoot
  rejectIf (issuer.authorityRootRef ≠ lookup.authorityRootRef) .wrongRoot
  rejectIf (lookup.validationTime < issuer.notBefore ∨ lookup.validationTime > issuer.notAfter)
    .stale
  rejectIf (lookup.audience ∉ issuer.acceptedAudiences) .wrongAudience
  rejectIf (lookup.operation ∉ issuer.acceptedOperations) .wrongOperation
  rejectIf (lookup.evidenceKind ∉ issuer.acceptedEvidence) .insufficientEvidence
  let matchedScope ← (issuer.acceptedResources.find? (resourceScopeMatches · lookup.resource)).elim
    (.error .wrongResource) .ok
  let resource ← (snapshot.resources.find? (·.resourceId = lookup.resource)).elim
    (.error .wrongResource) .ok
  rejectIf (resource.status ≠ .active) .revoked
  rejectIf (resource.controllerEntityId ≠ lookup.entityId) .wrongBinding
  rejectIf (lookup.operation ∉ resource.allowedOperations) .wrongOperation
  rejectIf (lookup.evidenceKind ∉ resource.requiredEvidence) .insufficientEvidence
  return ⟨snapshot.entityId, snapshot.namespaceId, snapshot.authorityMode, matchedScope⟩

variable (debug : String → String)

/-- One issuer of the snapshot against those before; `debug` is `{:?}` of a text. -/
def validateIssuer (seen : List DreggAuthoritySnapshotIssuer)
    (issuer : DreggAuthoritySnapshotIssuer) : Except DreggAuthorityRegistryError Unit := do
  rejectIf (issuer.issuerId ∈ seen.map (·.issuerId)) (.duplicateIssuer issuer.issuerId)
  rejectIf (issuer.issuerKeyId ∈ seen.map (·.issuerKeyId))
    (.invalidEntry ("duplicate Dregg issuer key id " ++ debug issuer.issuerKeyId))
  requireTexts [("issuer_id", issuer.issuerId), ("issuer_key_id", issuer.issuerKeyId),
    ("trust_root_ref", issuer.trustRootRef), ("authority_root_ref", issuer.authorityRootRef),
    ("status_ref", issuer.statusRef)]
  rejectIf (issuer.notBefore ≥ issuer.notAfter)
    (.invalidEntry "issuer not_before must be less than not_after")
  requireValues [("accepted_evidence", issuer.acceptedEvidence),
    ("accepted_audiences", issuer.acceptedAudiences),
    ("accepted_operations", issuer.acceptedOperations),
    ("accepted_resources", issuer.acceptedResources)]

def validateResource (seen : List DreggAuthoritySnapshotResource)
    (resource : DreggAuthoritySnapshotResource) : Except DreggAuthorityRegistryError Unit := do
  rejectIf (resource.resourceId ∈ seen.map (·.resourceId))
    (.invalidEntry ("duplicate Dregg resource id " ++ debug resource.resourceId))
  rejectIf (trim resource.controllerEntityId = "" ∨ resource.allowedOperations.isEmpty ∨
      resource.requiredEvidence.isEmpty)
    (.invalidEntry
      "resources require controller_entity_id, allowed_operations, and required_evidence")

def validate (snapshot : DreggAuthoritySnapshot) : Except DreggAuthorityRegistryError Unit := do
  rejectIf (snapshot.schemaVersion ≠ currentSchemaVersion)
    (.invalidEntry "unsupported Dregg authority snapshot schema_version")
  requireTexts [("snapshot_id", snapshot.snapshotId), ("source_node_id", snapshot.sourceNodeId),
    ("federation_id", snapshot.federationId), ("entity_id", snapshot.entityId),
    ("namespace_id", snapshot.namespaceId), ("authority_mode", snapshot.authorityMode)]
  rejectIf (snapshot.observedAt ≥ snapshot.expiresAt)
    (.invalidEntry "observed_at must be less than expires_at")
  rejectIf (snapshot.authorityMode ≠ "fixture_snapshot")
    (.invalidEntry "unsupported Dregg authority snapshot authority_mode")
  rejectIf (snapshot.issuers.isEmpty ∨ snapshot.resources.isEmpty)
    (.invalidEntry "authority snapshot requires at least one issuer and one resource")
  forEnumerated (validateIssuer debug) [] snapshot.issuers
  forEnumerated (validateResource debug) [] snapshot.resources

end DreggAuthoritySnapshot

/-! ## A live answer as receiver-held authority -/

def mapDreggLiveStatusToAuthorityStatus : DreggLiveSourceStatus → DreggAuthorityStatus
  | .active => .active
  | _ => .revoked

def mappedSnapshot (request : DreggLiveSourceRequest) (response : DreggLiveSourceResponse)
    (federationId namespaceId : String) : DreggAuthoritySnapshot where
  schemaVersion := DreggAuthoritySnapshot.currentSchemaVersion
  snapshotId := response.snapshotGeneration
  sourceNodeId := response.sourceId
  federationId := federationId
  entityId := response.entityRef
  namespaceId := namespaceId
  entityDisplayName := response.entityRef
  observedAt := response.statusObservedAt
  expiresAt := response.validUntil
  authorityMode := "live_castalia_dregg"
  issuers := [{
    issuerId := response.issuerKeyId
    issuerKeyId := response.issuerKeyId
    trustRootRef := response.authorityRootRef
    authorityRootRef := response.authorityRootRef
    acceptedEvidence := ["membership_credential"]
    acceptedAudiences := [request.receiverAudience]
    acceptedOperations := [request.operation]
    acceptedResources := [request.resourceRef]
    status := .active
    notBefore := response.validFrom
    notAfter := response.validUntil
    statusRef := response.redactedSummary }]
  resources := [{
    resourceId := response.resourceRef
    resourceKind := response.resourceRef
    controllerEntityId := response.entityRef
    allowedOperations := [request.operation]
    requiredEvidence := ["membership_credential"]
    status := .active
    statusRef := response.redactedSummary }]

def mappedEntry (request : DreggLiveSourceRequest) (response : DreggLiveSourceResponse)
    (issuerPublicKeyHex federationId : String) : DreggAuthorityEntry where
  issuerId := response.issuerKeyId
  issuerKeyId := response.issuerKeyId
  issuerPublicKeyHex := issuerPublicKeyHex
  federationId := federationId
  rootRef := response.authorityRootRef
  rootFingerprint := response.rootFingerprint
  epochId := response.snapshotGeneration
  epochNotBefore := response.validFrom
  epochNotAfter := response.validUntil
  acceptedAudiences := [request.receiverAudience]
  acceptedOperations := [request.operation]
  acceptedResources := [request.resourceRef]
  acceptedSuites := ["ed25519"]
  statusPolicy := {
    requireStatus := true
    maxStatusAgeSeconds := 300
    requireRevocationCheck := false
    requireFinality := false
    revocationVerifierMode := .fixtureStatusOnly
    finalityMode := .notRequired
    expectedRevocationRootRef := none }
  rootStatus := mapDreggLiveStatusToAuthorityStatus response.rootStatus
  issuerStatus := mapDreggLiveStatusToAuthorityStatus response.issuerStatus

def mapResponseToAuthoritySnapshot (request : DreggLiveSourceRequest)
    (response : DreggLiveSourceResponse) (issuerPublicKeyHex federationId namespaceId : String) :
    Except DreggLiveSourceClientError (DreggAuthoritySnapshot × List DreggAuthorityEntry) := do
  rejectIf (request.contractVersion ≠ dreggLiveSourceContractVersion ∨
    response.contractVersion ≠ dreggLiveSourceContractVersion) .unsupportedContractVersion
  rejectIf (response.entityRef ≠ request.entityRef ∨ response.resourceRef ≠ request.resourceRef)
    .wrongBinding
  rejectIf (response.allAuthorityStatusesActive = false) .revokedOrInactive
  rejectIf (response.duplicatePolicy ≠ .unique) .duplicateAuthorityConflict
  return (mappedSnapshot request response federationId namespaceId,
    [mappedEntry request response issuerPublicKeyHex federationId])

def registryLookup (request : DreggLiveSourceRequest) (response : DreggLiveSourceResponse)
    (revocation : Option DreggAuthorityRevocationStatus)
    (finality : Option DreggAuthorityFinalityStatus) (attested : Option String) :
    DreggAuthorityLookup where
  issuerId := response.issuerKeyId
  issuerKeyId := response.issuerKeyId
  rootRef := response.authorityRootRef
  rootFingerprint := response.rootFingerprint
  epochId := response.snapshotGeneration
  audience := request.receiverAudience
  operation := request.operation
  resource := request.resourceRef
  suite := "ed25519"
  validationTime := request.validationTime
  statusCheckedAt := some response.statusObservedAt
  revocationStatus := revocation
  finalityStatus := finality
  attestedRevocationRootRef := attested

def snapshotLookup (request : DreggLiveSourceRequest) (response : DreggLiveSourceResponse)
    (namespaceId : String) (kind : Evidence.EvidenceKind) : DreggAuthoritySnapshotLookup where
  entityId := request.entityRef
  namespaceId := namespaceId
  issuerId := response.issuerKeyId
  trustRootRef := response.authorityRootRef
  authorityRootRef := response.authorityRootRef
  audience := request.receiverAudience
  operation := request.operation
  resource := request.resourceRef
  evidenceKind := kind.asStr
  validationTime := request.validationTime

theorem requireTexts_eq_ok {texts : List (String × String)} {u : Unit} :
    requireTexts texts = .ok u ↔ ∀ text ∈ texts, trim text.2 ≠ "" := by
  simp only [requireTexts, forM_eq_ok, rejectIf_eq_ok, ne_eq]

theorem requireValues_eq_ok {lists : List (String × List String)} {u : Unit} :
    requireValues lists = .ok u ↔
      ∀ list ∈ lists, list.2 ≠ [] ∧ ∀ value ∈ list.2, trim value ≠ "" := by
  simp only [requireValues, forM_eq_ok, rejectIf_eq_ok, not_or, List.isEmpty_iff, List.any_eq_true,
    decide_eq_true_eq, not_exists, not_and, ne_eq]

/-- A resource lies in the scope that spells it, a trailing star included. -/
theorem resourceScopeMatches_self (resource : String) :
    resourceScopeMatches resource resource = true := by
  unfold resourceScopeMatches stripSuffix
  by_cases hstar : endsWith resource "*"
  · simp [hstar, startsWith, List.take_prefix]
  · simp [hstar]

section Accepted

variable {crates : Crates} {request : DreggLiveSourceRequest} {response : DreggLiveSourceResponse}
  {age : UInt64} {key : DreggLiveSourceTrustedKey} {hex federationId namespaceId : String}

theorem map_of_accepted (h : Accepted crates request response age key) :
    mapResponseToAuthoritySnapshot request response hex federationId namespaceId =
      .ok (mappedSnapshot request response federationId namespaceId,
        [mappedEntry request response hex federationId]) := by
  simp [mapResponseToAuthoritySnapshot, rejectIf, h.version, h.bound, h.active, h.unique, bind,
    Except.bind, pure, Except.pure]

theorem new_of_accepted (h : Accepted crates request response age key)
    (haudience : trim request.receiverAudience ≠ "") (hoperation : trim request.operation ≠ "")
    (hhex : byteLen hex = 64 ∧ (utf8 hex).all isLowerHexByte = true)
    (hfederation : trim federationId ≠ "") :
    DreggAuthorityRegistry.new [mappedEntry request response hex federationId] =
      .ok ⟨[mappedEntry request response hex federationId]⟩ := by
  have htexts := h.required
  simp only [DreggLiveSourceResponse.requiredTexts, List.forall_mem_cons] at htexts
  obtain ⟨-, -, -, hresource, hissuer, hroot, hfingerprint, hgeneration, -, -⟩ := htexts
  rw [h.bound.2] at hresource
  have hwindow := UInt64.not_le.mpr h.window
  have hsuite : trim "ed25519" ≠ "" := by decide
  have hentry : validateEntry (mappedEntry request response hex federationId) = .ok () := by
    simp only [validateEntry, mappedEntry, bind_eq_ok, rejectIf_eq_ok, requireTexts_eq_ok,
      requireValues_eq_ok, exists_and_right, exists_const, List.forall_mem_cons]
    simp [hissuer, hhex, hfederation, hroot, hfingerprint, hgeneration, hwindow, haudience,
      hoperation, hresource, hsuite, rejectIf]
  simp [DreggAuthorityRegistry.new, validateEntries, forEnumerated, hentry, rejectIf, bind,
    Except.bind, pure, Except.pure]

theorem lookupActivePolicy_of_accepted (h : Accepted crates request response age key)
    (hage : age ≤ 300) (revocation : Option DreggAuthorityRevocationStatus)
    (finality : Option DreggAuthorityFinalityStatus) (attested : Option String) :
    DreggAuthorityRegistry.lookupActivePolicy ⟨[mappedEntry request response hex federationId]⟩
        (registryLookup request response revocation finality attested) =
      .ok (mappedEntry request response hex federationId) := by
  have hactive := h.active
  simp only [DreggLiveSourceResponse.allAuthorityStatusesActive, Bool.and_eq_true,
    decide_eq_true_eq] at hactive
  obtain ⟨⟨⟨hissuer, hroot⟩, -⟩, -⟩ := hactive
  have hobserved : ¬ request.validationTime < response.statusObservedAt :=
    UInt64.not_lt.mpr h.observed
  have hfresh : ¬ 300 < request.validationTime - response.statusObservedAt := by
    have := UInt64.le_trans h.fresh hage
    rw [saturatingSub, if_neg hobserved] at this
    exact UInt64.not_lt.mpr this
  have hfrom := UInt64.not_lt.mpr h.valid.1
  have huntil := UInt64.not_lt.mpr h.valid.2
  simp [DreggAuthorityRegistry.lookupActivePolicy, mappedEntry, registryLookup, checkStatus,
    checkRevocation, checkFinality, mapDreggLiveStatusToAuthorityStatus, hissuer, hroot, hobserved,
    hfresh, hfrom, huntil, rejectIf, bind, Except.bind, pure, Except.pure]

/-- The mapped snapshot is refused for its mode alone, and for an observation at its expiry. -/
theorem validate_of_accepted (debug : String → String)
    (h : Accepted crates request response age key)
    (haudience : trim request.receiverAudience ≠ "") (hoperation : trim request.operation ≠ "")
    (hfederation : trim federationId ≠ "") (hnamespace : trim namespaceId ≠ "")
    (hwindow : response.statusObservedAt < response.validUntil) :
    DreggAuthoritySnapshot.validate debug
      { mappedSnapshot request response federationId namespaceId with
        authorityMode := "fixture_snapshot" } = .ok () := by
  have htexts := h.required
  simp only [DreggLiveSourceResponse.requiredTexts, List.forall_mem_cons] at htexts
  obtain ⟨hsource, -, hentity, hresource, hissuer, hroot, -, hgeneration, hsummary, -⟩ := htexts
  rw [h.bound.2] at hresource
  have hobserved := UInt64.not_le.mpr hwindow
  have hvalid := UInt64.not_le.mpr h.window
  have hmode : trim "fixture_snapshot" ≠ "" := by decide
  have hkind : trim "membership_credential" ≠ "" := by decide
  simp only [DreggAuthoritySnapshot.validate, mappedSnapshot, forEnumerated,
    DreggAuthoritySnapshot.validateIssuer, DreggAuthoritySnapshot.validateResource, bind_eq_ok,
    rejectIf_eq_ok, requireTexts_eq_ok, requireValues_eq_ok, exists_and_right, exists_const,
    List.forall_mem_cons]
  simp [hsource, hentity, hresource, hissuer, hroot, hgeneration, hsummary, hfederation, hnamespace,
    haudience, hoperation, hmode, hkind, hobserved, hvalid, rejectIf]

theorem lookupEntityResourceAuthority_of_accepted (h : Accepted crates request response age key) :
    (mappedSnapshot request response federationId namespaceId).lookupEntityResourceAuthority
        (snapshotLookup request response namespaceId .membershipCredential) =
      .ok ⟨request.entityRef, namespaceId, "live_castalia_dregg", request.resourceRef⟩ := by
  have hobserved := UInt64.not_lt.mpr h.observed
  have hfrom := UInt64.not_lt.mpr h.valid.1
  have huntil := UInt64.not_lt.mpr h.valid.2
  simp [DreggAuthoritySnapshot.lookupEntityResourceAuthority, mappedSnapshot, snapshotLookup,
    Evidence.EvidenceKind.asStr, resourceScopeMatches_self, h.bound, hobserved, hfrom, huntil,
    rejectIf, bind, Except.bind, pure, Except.pure]

end Accepted

theorem trustedKey_of_ok {crates : Crates} {request : DreggLiveSourceRequest}
    {response : DreggLiveSourceResponse} {age : UInt64}
    {trustedKey : Option DreggLiveSourceTrustedKey} {decision : DreggLiveSourceDecision}
    (h : validateLiveSourceResponse crates request response age trustedKey = .ok decision) :
    ∃ key, Accepted crates request response age key := by
  cases trustedKey with
  | none => cases h
  | some key => exact ⟨key, validateLiveSourceResponse_eq_ok.mp ⟨decision, h⟩⟩

/-- An accepted live answer becomes authority for what was asked: the registry takes the mapped
entries and finds the policy, and the snapshot, whose mode tells it from a file's, has the rows that
validation asks for and grants the request with evidence of membership. -/
theorem live_answer_authorizes_request (crates : Crates) (request : DreggLiveSourceRequest)
    (response : DreggLiveSourceResponse) (age : UInt64)
    (trustedKey : Option DreggLiveSourceTrustedKey) (decision : DreggLiveSourceDecision)
    (hex federationId namespaceId : String) (debug : String → String)
    (haudience : trim request.receiverAudience ≠ "") (hoperation : trim request.operation ≠ "")
    (hage : age ≤ 300)
    (haccepted : validateLiveSourceResponse crates request response age trustedKey = .ok decision)
    (hhex : byteLen hex = 64 ∧ (utf8 hex).all isLowerHexByte = true)
    (hfederation : trim federationId ≠ "") (hnamespace : trim namespaceId ≠ "") :
    ∃ snapshot entries registry,
      mapResponseToAuthoritySnapshot request response hex federationId namespaceId =
        .ok (snapshot, entries) ∧
      DreggAuthorityRegistry.new entries = .ok registry ∧
      (∀ entry ∈ entries, ∀ revocation finality attested,
        registry.lookupActivePolicy (registryLookup request response revocation finality attested) =
          .ok entry) ∧
      (response.statusObservedAt < response.validUntil →
        DreggAuthoritySnapshot.validate debug
          { snapshot with authorityMode := "fixture_snapshot" } = .ok ()) ∧
      ∃ granted, snapshot.lookupEntityResourceAuthority
        (snapshotLookup request response namespaceId .membershipCredential) = .ok granted := by
  obtain ⟨key, h⟩ := trustedKey_of_ok haccepted
  refine ⟨_, _, _, map_of_accepted h, new_of_accepted h haudience hoperation hhex hfederation, ?_,
    validate_of_accepted debug h haudience hoperation hfederation hnamespace, _,
    lookupEntityResourceAuthority_of_accepted h⟩
  intro entry hentry revocation finality attested
  rw [List.mem_singleton.mp hentry]
  exact lookupActivePolicy_of_accepted h hage revocation finality attested

/-! ## Finality -/

/-- The modes whose verifier the evidence adapter consults after the lookup. -/
def DreggAuthorityFinalityMode.isLive (mode : DreggAuthorityFinalityMode) : Bool :=
  mode = .blsThresholdRequired || mode = .rotatedReplayRequired

theorem new_eq_ok {entries : List DreggAuthorityEntry} {registry : DreggAuthorityRegistry} :
    DreggAuthorityRegistry.new entries = .ok registry ↔
      entries ≠ [] ∧ (∀ entry ∈ entries, validateEntry entry = .ok ()) ∧
        entries.Pairwise (fun a b => a.issuerId ≠ b.issuerId ∧ a.epochRootKey ≠ b.epochRootKey) ∧
        registry = ⟨entries⟩ := by
  have hloop : validateEntries [] entries = .ok () ↔
      (∀ entry ∈ entries, validateEntry entry = .ok ()) ∧ entries.Pairwise
        fun a b => a.issuerId ≠ b.issuerId ∧ a.epochRootKey ≠ b.epochRootKey := by
    refine forEnumerated_nil_eq_ok fun seen entry => ?_
    simp only [check_bind_eq_ok, rejectIf_eq_ok, List.mem_map, not_exists, not_and]
    exact and_congr_right fun _ => forall₂_and.symm
  rw [DreggAuthorityRegistry.new, check_bind_eq_ok, check_bind_eq_ok, rejectIf_eq_ok, hloop,
    List.isEmpty_iff, and_assoc]
  simp only [pure, Except.pure, Except.ok.injEq, ne_eq, eq_comm]

theorem lookupActivePolicy_eq_ok {registry : DreggAuthorityRegistry}
    {lookup : DreggAuthorityLookup} {entry : DreggAuthorityEntry} :
    registry.lookupActivePolicy lookup = .ok entry ↔
      registry.entries.find? (·.issuerId = lookup.issuerId) = some entry ∧
      (entry.issuerKeyId = lookup.issuerKeyId ∧ entry.rootRef = lookup.rootRef ∧
        entry.rootFingerprint = lookup.rootFingerprint ∧ entry.epochId = lookup.epochId) ∧
      (entry.epochNotBefore ≤ lookup.validationTime ∧ lookup.validationTime ≤ entry.epochNotAfter) ∧
      (entry.rootStatus = .active ∧ entry.issuerStatus = .active) ∧
      (checkStatus entry lookup = .ok () ∧ checkRevocation entry lookup = .ok () ∧
        checkFinality entry lookup = .ok ()) ∧
      lookup.audience ∈ entry.acceptedAudiences ∧ lookup.operation ∈ entry.acceptedOperations ∧
      lookup.resource ∈ entry.acceptedResources ∧ lookup.suite ∈ entry.acceptedSuites := by
  rw [DreggAuthorityRegistry.lookupActivePolicy, bind_eq_ok]
  simp only [elim_eq_ok, check_bind_eq_ok, rejectIf_eq_ok, pure, Except.pure, Except.ok.injEq,
    not_or, not_not, ne_eq, UInt64.not_lt, gt_iff_lt]
  constructor
  · rintro ⟨found, hfound, hkey, ⟨hroot, hprint⟩, ⟨hepoch, hfrom, huntil⟩, hactive, hstatus,
      hrevocation, hfinality, haudience, hoperation, hresource, hsuite, rfl⟩
    exact ⟨hfound, ⟨hkey, hroot, hprint, hepoch⟩, ⟨hfrom, huntil⟩, hactive,
      ⟨hstatus, hrevocation, hfinality⟩, haudience, hoperation, hresource, hsuite⟩
  · rintro ⟨hfound, ⟨hkey, hroot, hprint, hepoch⟩, ⟨hfrom, huntil⟩, hactive,
      ⟨hstatus, hrevocation, hfinality⟩, haudience, hoperation, hresource, hsuite⟩
    exact ⟨entry, hfound, hkey, ⟨hroot, hprint⟩, ⟨hepoch, hfrom, huntil⟩, hactive, hstatus,
      hrevocation, hfinality, haudience, hoperation, hresource, hsuite, rfl⟩

/-- A lookup that names the entry, with fresh status and no finality material. -/
def DreggAuthorityEntry.unfinalized (entry : DreggAuthorityEntry)
    (audience operation resource suite : String) : DreggAuthorityLookup where
  issuerId := entry.issuerId
  issuerKeyId := entry.issuerKeyId
  rootRef := entry.rootRef
  rootFingerprint := entry.rootFingerprint
  epochId := entry.epochId
  audience := audience
  operation := operation
  resource := resource
  suite := suite
  validationTime := entry.epochNotBefore
  statusCheckedAt := some entry.epochNotBefore
  revocationStatus := some .active
  finalityStatus := none
  attestedRevocationRootRef := entry.statusPolicy.expectedRevocationRootRef

section Finality

variable {entries : List DreggAuthorityEntry} {registry : DreggAuthorityRegistry}
  {entry : DreggAuthorityEntry} {lookup : DreggAuthorityLookup}

theorem checkStatus_unfinalized (audience operation resource suite : String) :
    checkStatus entry (entry.unfinalized audience operation resource suite) = .ok () := by
  have hage : ¬ entry.statusPolicy.maxStatusAgeSeconds < 0 := UInt64.not_lt_zero
  simp [checkStatus, DreggAuthorityEntry.unfinalized, rejectIf, hage, bind, Except.bind]

theorem checkRevocation_unfinalized (audience operation resource suite : String)
    (hroot : entry.statusPolicy.revocationVerifierMode = .expectedRootBinding →
      entry.statusPolicy.expectedRevocationRootRef ≠ none) :
    checkRevocation entry (entry.unfinalized audience operation resource suite) = .ok () := by
  simp only [checkRevocation, DreggAuthorityEntry.unfinalized, bind, Except.bind, ite_self]
  cases hmode : entry.statusPolicy.revocationVerifierMode with
  | fixtureStatusOnly => rfl
  | liveRevocationVerifierRequired => rfl
  | expectedRootBinding =>
    obtain ⟨root, hroot⟩ := Option.ne_none_iff_exists'.mp (hroot hmode)
    simp [hroot, rejectIf]

theorem openings_of_valid (h : validateEntry entry = .ok ()) :
    entry.epochNotBefore < entry.epochNotAfter ∧
      (entry.statusPolicy.revocationVerifierMode = .expectedRootBinding →
        entry.statusPolicy.expectedRevocationRootRef ≠ none) ∧
      entry.acceptedAudiences ≠ [] ∧ entry.acceptedOperations ≠ [] ∧
      entry.acceptedResources ≠ [] ∧ entry.acceptedSuites ≠ [] := by
  simp only [validateEntry, check_bind_eq_ok, rejectIf_eq_ok, requireTexts_eq_ok,
    requireValues_eq_ok, List.forall_mem_cons, Option.isNone_iff_eq_none, ge_iff_le,
    UInt64.not_le, not_and] at h
  obtain ⟨-, -, -, hepoch, -, hroot, -, haudiences, hoperations, hresources, hsuites, -⟩ := h
  exact ⟨hepoch, hroot, haudiences.1, hoperations.1, hresources.1, hsuites.1⟩

/-- An active entry that asks for no finality is found by a lookup without finality material. -/
theorem exists_lookup_unfinalized (h : DreggAuthorityRegistry.new entries = .ok registry)
    (hmem : entry ∈ entries) (hroot : entry.rootStatus = .active)
    (hissuer : entry.issuerStatus = .active)
    (hmode : entry.statusPolicy.finalityMode = .notRequired) :
    ∃ lookup, lookup.finalityStatus = none ∧ registry.lookupActivePolicy lookup = .ok entry := by
  obtain ⟨-, hvalid, hdistinct, rfl⟩ := new_eq_ok.mp h
  obtain ⟨hepoch, hbinding, haudiences, hoperations, hresources, hsuites⟩ :=
    openings_of_valid (hvalid entry hmem)
  obtain ⟨audience, haudience⟩ := List.exists_mem_of_ne_nil _ haudiences
  obtain ⟨operation, hoperation⟩ := List.exists_mem_of_ne_nil _ hoperations
  obtain ⟨resource, hresource⟩ := List.exists_mem_of_ne_nil _ hresources
  obtain ⟨suite, hsuite⟩ := List.exists_mem_of_ne_nil _ hsuites
  refine ⟨entry.unfinalized audience operation resource suite, rfl, lookupActivePolicy_eq_ok.mpr ?_⟩
  have hfound : entries.find? (·.issuerId = entry.issuerId) = some entry :=
    find?_of_distinct (hdistinct.imp And.left) hmem
  refine ⟨hfound, ⟨rfl, rfl, rfl, rfl⟩, ⟨UInt64.le_refl _, UInt64.le_of_lt hepoch⟩,
    ⟨hroot, hissuer⟩, ⟨checkStatus_unfinalized .., checkRevocation_unfinalized _ _ _ _ hbinding,
    ?_⟩, haudience, hoperation, hresource, hsuite⟩
  rw [checkFinality, hmode]

theorem finality_of_checkFinality (h : checkFinality entry lookup = .ok ())
    (hrequired : entry.statusPolicy.requireFinality = true)
    (hmode : entry.statusPolicy.finalityMode ≠ .notRequired) :
    lookup.finalityStatus = some .final ∨ entry.statusPolicy.finalityMode.isLive := by
  cases hfinality : entry.statusPolicy.finalityMode with
  | notRequired => exact absurd hfinality hmode
  | blsThresholdRequired => exact .inr rfl
  | rotatedReplayRequired => exact .inr rfl
  | fixtureStatusOnly =>
    left
    simp only [checkFinality, hfinality, hrequired, if_true] at h
    cases hstatus : lookup.finalityStatus with
    | none => simp [hstatus] at h
    | some status => cases status <;> simp [hstatus] at h ⊢

/-- Required finality is never skipped exactly when no active entry that requires it is in the mode
`not_required`, which is the mode of an entry that names none. -/
theorem finality_enforced_iff (h : DreggAuthorityRegistry.new entries = .ok registry) :
    (∀ lookup entry, registry.lookupActivePolicy lookup = .ok entry →
      entry.statusPolicy.requireFinality = true →
      lookup.finalityStatus = some .final ∨ entry.statusPolicy.finalityMode.isLive) ↔
    ∀ entry ∈ entries, entry.rootStatus = .active → entry.issuerStatus = .active →
      entry.statusPolicy.requireFinality = true →
      entry.statusPolicy.finalityMode ≠ .notRequired := by
  constructor
  · intro hall entry hmem hroot hissuer hrequired hmode
    obtain ⟨lookup, hnone, hlookup⟩ := exists_lookup_unfinalized h hmem hroot hissuer hmode
    rcases hall lookup entry hlookup hrequired with hfinal | hlive
    · rw [hnone] at hfinal
      cases hfinal
    · rw [hmode] at hlive
      cases hlive
  · intro hmodes lookup entry hlookup hrequired
    obtain ⟨hfound, -, -, ⟨hroot, hissuer⟩, ⟨-, -, hfinality⟩, -⟩ :=
      lookupActivePolicy_eq_ok.mp hlookup
    obtain ⟨-, -, -, rfl⟩ := new_eq_ok.mp h
    have hmem := List.mem_of_find?_eq_some hfound
    exact finality_of_checkFinality hfinality hrequired
      (hmodes entry hmem hroot hissuer hrequired)

end Finality

namespace Sample

open LiveSource.Sample

def keyHex : String := String.ofList (List.replicate 64 'a')

theorem keyHex_ok : byteLen keyHex = 64 ∧ (utf8 keyHex).all isLowerHexByte = true := by
  decide

theorem live_answer_authorizes_sample :
    ∃ snapshot entries registry,
      mapResponseToAuthoritySnapshot request response keyHex "fed" "ns" = .ok (snapshot, entries) ∧
      DreggAuthorityRegistry.new entries = .ok registry ∧
      (∀ entry ∈ entries, ∀ revocation finality attested,
        registry.lookupActivePolicy (registryLookup request response revocation finality attested) =
          .ok entry) ∧
      (response.statusObservedAt < response.validUntil →
        DreggAuthoritySnapshot.validate id
          { snapshot with authorityMode := "fixture_snapshot" } = .ok ()) ∧
      ∃ granted, snapshot.lookupEntityResourceAuthority
        (snapshotLookup request response "ns" .membershipCredential) = .ok granted := by
  obtain ⟨decision, haccepted⟩ := validateLiveSourceResponse_eq_ok.mpr accepted
  exact live_answer_authorizes_request oneMessage request response 60 (some trustedKey) decision
    keyHex "fed" "ns" id (by decide) (by decide) (by decide) haccepted keyHex_ok
    (by decide) (by decide)

/-- The sample answer, observed at the last second of its validity. -/
def lastSecond : DreggLiveSourceResponse :=
  { response with statusObservedAt := 100, validUntil := 100 }

def lastSecondSigned : Crates :=
  { oneMessage with
    verify := fun key message _ =>
      key == .filled 32 0 || message == lastSecond.signaturePayload request
    verify_sign := fun _ _ => by simp [oneMessage] }

theorem lastSecond_accepted : Accepted lastSecondSigned request lastSecond 60 trustedKey where
  version := ⟨rfl, rfl⟩
  required := by decide
  window := by decide
  redacted := by decide
  source := ⟨rfl, rfl, rfl⟩
  signed := ⟨.filled 64 9, rfl, by simp [lastSecondSigned]⟩
  live := rfl
  bound := ⟨rfl, rfl⟩
  issuer := by simp [request, lastSecond, response]
  root := by simp [request]
  unique := rfl
  observed := by decide
  fresh := by decide
  valid := by decide
  active := rfl

/-- The sample answer is accepted, yet its snapshot is refused for its mode, and it grants nothing
with the kind the snapshot's evidence adapter asks for. Observed at the end of its validity, an
accepted answer has a snapshot that no mode makes valid. -/
theorem mapped_snapshot_refused :
    (∃ decision, validateLiveSourceResponse oneMessage request response 60 (some trustedKey) =
      .ok decision) ∧
    (∃ snapshot entries,
      mapResponseToAuthoritySnapshot request response keyHex "fed" "ns" = .ok (snapshot, entries) ∧
      DreggAuthoritySnapshot.validate id snapshot =
        .error (.invalidEntry "unsupported Dregg authority snapshot authority_mode") ∧
      snapshot.lookupEntityResourceAuthority
        (snapshotLookup request response "ns" .dreggAuthority) = .error .insufficientEvidence) ∧
    (∃ decision, validateLiveSourceResponse lastSecondSigned request lastSecond 60
      (some trustedKey) = .ok decision) ∧
    ∃ snapshot entries,
      mapResponseToAuthoritySnapshot request lastSecond keyHex "fed" "ns" =
        .ok (snapshot, entries) ∧
      DreggAuthoritySnapshot.validate id { snapshot with authorityMode := "fixture_snapshot" } =
        .error (.invalidEntry "observed_at must be less than expires_at") := by
  refine ⟨validateLiveSourceResponse_eq_ok.mpr accepted,
    ⟨_, _, map_of_accepted accepted, ?_, ?_⟩,
    validateLiveSourceResponse_eq_ok.mpr lastSecond_accepted,
    _, _, map_of_accepted lastSecond_accepted, ?_⟩
  · decide
  · decide
  · decide

def finalEntry (mode : DreggAuthorityFinalityMode) : DreggAuthorityEntry where
  issuerId := "issuer"
  issuerKeyId := "key"
  issuerPublicKeyHex := keyHex
  federationId := "fed"
  rootRef := "root"
  rootFingerprint := "print"
  epochId := "epoch"
  epochNotBefore := 10
  epochNotAfter := 90
  acceptedAudiences := ["audience"]
  acceptedOperations := ["operation"]
  acceptedResources := ["resource"]
  acceptedSuites := ["suite"]
  statusPolicy := ⟨true, 60, true, true, .fixtureStatusOnly, mode, none⟩
  rootStatus := .active
  issuerStatus := .active

theorem new_finalEntry (mode : DreggAuthorityFinalityMode) :
    DreggAuthorityRegistry.new [finalEntry mode] = .ok ⟨[finalEntry mode]⟩ := by
  have hvalid : ∀ entry ∈ [finalEntry mode], validateEntry entry = .ok () := by
    cases mode <;> decide
  exact new_eq_ok.mpr ⟨List.cons_ne_nil _ _, hvalid, List.pairwise_singleton .., rfl⟩

theorem fixture_finality_enforced :
    DreggAuthorityRegistry.new [finalEntry .fixtureStatusOnly] =
      .ok ⟨[finalEntry .fixtureStatusOnly]⟩ ∧
    ∀ lookup entry, DreggAuthorityRegistry.lookupActivePolicy ⟨[finalEntry .fixtureStatusOnly]⟩
        lookup = .ok entry → entry.statusPolicy.requireFinality = true →
      lookup.finalityStatus = some .final ∨ entry.statusPolicy.finalityMode.isLive := by
  have hnew := new_finalEntry .fixtureStatusOnly
  refine ⟨hnew, (finality_enforced_iff hnew).mpr fun entry hentry _ _ _ => ?_⟩
  rw [List.mem_singleton.mp hentry]
  decide

/-- The constructor accepts the entry, and a lookup that says the grant is not final is answered. -/
theorem required_finality_skipped :
    DreggAuthorityRegistry.new [finalEntry .notRequired] = .ok ⟨[finalEntry .notRequired]⟩ ∧
    (finalEntry .notRequired).statusPolicy.requireFinality = true ∧
    DreggAuthorityRegistry.lookupActivePolicy ⟨[finalEntry .notRequired]⟩
      { (finalEntry .notRequired).unfinalized "audience" "operation" "resource" "suite" with
        finalityStatus := some .notFinal } = .ok (finalEntry .notRequired) ∧
    (finalEntry .notRequired).statusPolicy.finalityMode.isLive = false :=
  ⟨new_finalEntry .notRequired, by decide, by decide, by decide⟩

end Sample

end DreggAuthorities
