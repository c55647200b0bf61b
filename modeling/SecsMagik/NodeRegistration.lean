import SecsMagik.Evidence

/-! # Node registration

The one operation whose payload the router inspects itself. The request must repeat what the
verified context says; what the route learns from it is appended to the context's summary.
-/
namespace NodeRegistration

open RustStd
open ExternalCrates (Crates NodeRegistrationRequestV0)
open CallContext (VerifiedCallContext)
open ReceiverManifest (OperationDescriptor)
open Evidence (EvidenceTier)

def nodeRegistrationOpcode : UInt8 := 0x45
def nodeRegistrationOperation : String := "node.registration.v0"
def nodeRegistrationHandlerId : String := "node_registration/register/v0"
def nodeRegistrationPayloadSchema : String := "secs-node-registration-request-v0"
def nodeRegistrationDisclosurePolicyId : String := "registration_public_directory_v0"
def nodeRegistrationAuthoritySourceId : String := "receiver-held-fixture"

inductive NodeRegistrationReason where
  | malformedPayload | wrongOperation | wrongAudience | wrongResource | manifestMismatch
  | privacyPolicyViolation | insufficientEvidence | unauthorizedSource | missingAuthority
  | staleEvidence | replayDetected
  deriving DecidableEq, Repr

def NodeRegistrationReason.asStr : NodeRegistrationReason → String
  | .malformedPayload => "malformed_registration_payload"
  | .wrongOperation => "wrong_operation"
  | .wrongAudience => "wrong_audience"
  | .wrongResource => "wrong_resource"
  | .manifestMismatch => "manifest_mismatch"
  | .privacyPolicyViolation => "privacy_policy_violation"
  | .insufficientEvidence => "insufficient_evidence"
  | .unauthorizedSource => "unauthorized_source"
  | .missingAuthority => "missing_authority"
  | .staleEvidence => "stale_evidence"
  | .replayDetected => "replay_detected"

structure NodeRegistrationPolicy where
  operation : String
  opcode : UInt8
  audience : String
  resource : String
  descriptorFingerprint : String
  disclosurePolicyId : String
  authoritySourceId : String
  minimumEvidenceTier : EvidenceTier
  maxAgeSeconds : UInt64
  now : UInt64

def NodeRegistrationPolicy.fromDescriptor (crates : Crates) (d : OperationDescriptor)
    (audience resource : String) (now : UInt64) :
    Except NodeRegistrationReason NodeRegistrationPolicy :=
  if d.opcode ≠ nodeRegistrationOpcode ∨ d.name ≠ nodeRegistrationOperation ∨
      d.handlerId ≠ nodeRegistrationHandlerId ∨
      d.payloadSchema ≠ some nodeRegistrationPayloadSchema ∨
      d.disclosurePolicy.policyId ≠ nodeRegistrationDisclosurePolicyId then
    .error .wrongOperation
  else .ok {
    operation := d.name
    opcode := d.opcode
    audience := audience
    resource := resource
    descriptorFingerprint := d.authorizationFingerprint crates
    disclosurePolicyId := d.disclosurePolicy.policyId
    authoritySourceId := nodeRegistrationAuthoritySourceId
    minimumEvidenceTier := .localVerified
    maxAgeSeconds := d.maxTtlSeconds
    now := now }

def requestFieldsMatchNodeResource (request : NodeRegistrationRequestV0) : Bool :=
  match split request.resource ':' with
  | [kind, owner, name, key, endpoint, version] =>
    kind = "node" && owner ≠ "" && name ≠ "" && key = request.nodePublicKeyFingerprint &&
      endpoint = request.endpointHash && version = "v0"
  | _ => false

def verifyNodeRegistration (request : NodeRegistrationRequestV0) (policy : NodeRegistrationPolicy) :
    Except NodeRegistrationReason Unit :=
  if request.operation ≠ policy.operation ∨ request.opcode ≠ policy.opcode then
    .error .wrongOperation
  else if request.audience ≠ policy.audience then .error .wrongAudience
  else if request.resource ≠ policy.resource ∨ requestFieldsMatchNodeResource request = false then
    .error .wrongResource
  else if request.schemaVersion ≠ 0 ∨
      request.descriptorFingerprint ≠ policy.descriptorFingerprint then
    .error .manifestMismatch
  else if request.disclosurePolicyId ≠ policy.disclosurePolicyId ∨
      request.requestedDisclosure.any fun field =>
        field ≠ "public_node_id" && field ≠ "endpoint_hash" then
    .error .privacyPolicyViolation
  else match EvidenceTier.fromStr request.evidenceTier with
    | .error _ => .error .insufficientEvidence
    | .ok tier =>
      if tier ≠ policy.minimumEvidenceTier then .error .insufficientEvidence
      else if request.authoritySourceId ≠ policy.authoritySourceId then
        .error .unauthorizedSource
      else if trim request.evidenceRef = "" ∨
          startsWith request.evidenceRef "fixture:" = false then
        .error .missingAuthority
      -- the subtraction is reached only when it cannot underflow
      else if policy.now < request.issuedAt ∨ request.expiresAt < policy.now ∨
          request.expiresAt < request.issuedAt ∨
          policy.maxAgeSeconds < request.expiresAt - request.issuedAt then
        .error .staleEvidence
      else .ok ()

def digestLabel (crates : Crates) (label value : String) : String :=
  label ++ ":sha256:" ++ lowerHex (crates.sha256 (utf8 value)).val

/-- The summary fields a registration needs, each with the reason for refusing without it. -/
def requiredSummaryFields (request : NodeRegistrationRequestV0) :
    List (String × NodeRegistrationReason) :=
  [("authority_mode:local_fixture", .missingAuthority),
    ("evidence_tier:" ++ request.evidenceTier, .insufficientEvidence),
    ("authority_source_id:" ++ request.authoritySourceId, .unauthorizedSource),
    ("evidence_ref_kind:fixture", .missingAuthority)]

def registrationProjection (crates : Crates) (request : NodeRegistrationRequestV0) : List String :=
  ["registration_scope:local_fixture_only",
    "registration_evidence_tier:" ++ request.evidenceTier,
    "registration_resource_hash:" ++ digestLabel crates "resource" request.resource,
    "registration_disclosure_policy:" ++ request.disclosurePolicyId,
    "registration_schema_version:" ++ decimal request.schemaVersion.toNat]

def validateVerifiedRegistrationRoute (crates : Crates) (payload : List UInt8)
    (context : VerifiedCallContext) (d : OperationDescriptor) (now : UInt64) :
    Except NodeRegistrationReason (List String) := do
  let request ← (crates.registrationRequest payload).elim (.error .malformedPayload) .ok
  let resource ← context.resource.elim (.error .wrongResource) .ok
  let policy ← NodeRegistrationPolicy.fromDescriptor crates d context.audience resource now
  verifyNodeRegistration request policy
  if request.operation ≠ context.operation ∨ request.opcode ≠ context.opcode ∨
      request.audience ≠ context.audience ∨ request.resource ≠ resource ∨
      request.descriptorFingerprint ≠ context.descriptorFingerprint ∨
      request.issuedAt ≠ context.issuedAt ∨ request.expiresAt ≠ context.expiresAt then
    .error .manifestMismatch
  else match (requiredSummaryFields request).find? fun (field, _) =>
      !context.evidenceSummary.contains field with
    | some (_, reason) => .error reason
    | none => .ok (registrationProjection crates request)

theorem registrationProjection_head {crates : Crates} {request : NodeRegistrationRequestV0}
    {field : String} (h : field ∈ registrationProjection crates request) :
    field.toList.head? = some 'r' := by
  simp only [registrationProjection, List.mem_cons, List.not_mem_nil, or_false] at h
  rcases h with rfl | rfl | rfl | rfl | rfl <;> simp

theorem validateVerifiedRegistrationRoute_ok {crates : Crates} {payload : List UInt8}
    {context : VerifiedCallContext} {d : OperationDescriptor} {now : UInt64}
    {fields : List String}
    (h : validateVerifiedRegistrationRoute crates payload context d now = .ok fields) :
    ∃ request, fields = registrationProjection crates request := by
  obtain ⟨request, -, h⟩ := bind_eq_ok.mp h
  obtain ⟨resource, -, h⟩ := bind_eq_ok.mp h
  obtain ⟨policy, -, h⟩ := bind_eq_ok.mp h
  obtain ⟨_, -, h⟩ := bind_eq_ok.mp h
  split_ifs at h
  split at h
  · cases h
  · cases h
    exact ⟨request, rfl⟩

end NodeRegistration
