import SecsMagik.ExternalCrates

/-! # Disclosure policies and the privacy scan

Deny-by-default policies over forbidden field classes, and the scan of payloads and summary
fields for field names a policy does not permit on a surface.
-/
namespace Disclosure

open RustStd
open ExternalCrates (Crates Json)

inductive PrivacySurface where
  | verifyReceipt | rejectReceipt | executeReceipt | readinessStatus | demoProjection | log
  | operatorCli | publicAudit | handlerContext
  deriving DecidableEq, Repr

def PrivacySurface.asStr : PrivacySurface → String
  | .verifyReceipt => "verify_receipt"
  | .rejectReceipt => "reject_receipt"
  | .executeReceipt => "execute_receipt"
  | .readinessStatus => "readiness_status"
  | .demoProjection => "demo_projection"
  | .log => "log"
  | .operatorCli => "operator_cli"
  | .publicAudit => "public_audit"
  | .handlerContext => "handler_context"

inductive ForbiddenFieldClass where
  | walletIdentity | holderIdentity | subjectIdentity | credentialIdentity
  | rawCredentialAttributes | rawProofBytes | witnessPrivateInputs | traceDebugMaterial
  | tokenSecret | sourceAuthToken | issuerPrivateMaterial | stableNullifier | networkMetadata
  deriving DecidableEq, Repr

def ForbiddenFieldClass.asStr : ForbiddenFieldClass → String
  | .walletIdentity => "wallet_identity"
  | .holderIdentity => "holder_identity"
  | .subjectIdentity => "subject_identity"
  | .credentialIdentity => "credential_identity"
  | .rawCredentialAttributes => "raw_credential_attributes"
  | .rawProofBytes => "raw_proof_bytes"
  | .witnessPrivateInputs => "witness_private_inputs"
  | .traceDebugMaterial => "trace_debug_material"
  | .tokenSecret => "token_secret"
  | .sourceAuthToken => "source_auth_token"
  | .issuerPrivateMaterial => "issuer_private_material"
  | .stableNullifier => "stable_nullifier"
  | .networkMetadata => "network_metadata"

inductive DisclosureRepresentation where
  | redactedDigest | redactedPlaceholder | derivedStatus
  deriving DecidableEq, Repr

def DisclosureRepresentation.asStr : DisclosureRepresentation → String
  | .redactedDigest => "redacted_digest"
  | .redactedPlaceholder => "redacted_placeholder"
  | .derivedStatus => "derived_status"

structure DisclosurePermission where
  fieldClass : ForbiddenFieldClass
  surface : PrivacySurface
  representation : DisclosureRepresentation
  deriving DecidableEq

structure DisclosurePolicy where
  policyId : String
  policyVersion : UInt16
  permissions : List DisclosurePermission
  deriving DecidableEq

namespace DisclosurePolicy

def denyByDefault (policyId : String) (policyVersion : UInt16) : DisclosurePolicy :=
  ⟨policyId, policyVersion, []⟩

def withPermission (policy : DisclosurePolicy) (permission : DisclosurePermission) :
    DisclosurePolicy :=
  if permission ∈ policy.permissions then policy
  else { policy with permissions := policy.permissions ++ [permission] }

def defaultI02 : DisclosurePolicy :=
  let classes : List ForbiddenFieldClass :=
    [.walletIdentity, .holderIdentity, .subjectIdentity, .credentialIdentity,
      .rawCredentialAttributes, .rawProofBytes, .witnessPrivateInputs, .traceDebugMaterial,
      .tokenSecret, .sourceAuthToken, .issuerPrivateMaterial, .stableNullifier, .networkMetadata]
  let surfaces : List PrivacySurface :=
    [.verifyReceipt, .rejectReceipt, .executeReceipt, .readinessStatus, .demoProjection, .log,
      .operatorCli, .publicAudit]
  let representations : List DisclosureRepresentation :=
    [.redactedDigest, .redactedPlaceholder, .derivedStatus]
  let permissions := classes.flatMap fun c => surfaces.flatMap fun s =>
    representations.map (⟨c, s, ·⟩)
  permissions.foldl withPermission (denyByDefault "secs-i02-deny-by-default" 1)

def permits (policy : DisclosurePolicy) (fieldClass : ForbiddenFieldClass)
    (surface : PrivacySurface) (representation : DisclosureRepresentation) : Bool :=
  policy.permissions.contains ⟨fieldClass, surface, representation⟩

end DisclosurePolicy

structure PrivacyViolation where
  surface : PrivacySurface
  fieldClass : ForbiddenFieldClass
  field : String
  deriving DecidableEq

def classOfBase (base : String) : Option ForbiddenFieldClass :=
  if base ∈ ["wallet_id", "walletId", "wallet", "wallet_address", "walletAddress"] then
    some .walletIdentity
  else if base ∈ ["holder_id", "holderId", "holder", "holder_did", "holderDid"] then
    some .holderIdentity
  else if base ∈ ["subject_id", "subjectId", "subject", "subject_handle", "subjectHandle",
      "stable_subject_handle"] then
    some .subjectIdentity
  else if base ∈ ["credential_id", "credentialId", "cred_id", "credential_uuid"] then
    some .credentialIdentity
  else if base ∈ ["credential", "credential_payload", "attributes", "claims", "raw_attributes",
      "rawCredentialAttributes"] then
    some .rawCredentialAttributes
  else if base ∈ ["proof", "proof_bytes", "raw_proof", "signature", "sig_bytes",
      "presentation_proof"] then
    some .rawProofBytes
  else if base ∈ ["witness", "private_witness", "secret", "preimage", "nullifier_preimage"] then
    some .witnessPrivateInputs
  else if base ∈ ["trace", "debug_trace", "presentation_trace", "span_payload",
      "backtrace_with_payload"] then
    some .traceDebugMaterial
  else if base ∈ ["token", "bearer", "authorization", "auth_header", "api_key",
      "session_token"] then
    some .tokenSecret
  else if base ∈ ["source_auth_token", "sourceAuthToken", "authority_source_token",
      "upstream_token"] then
    some .sourceAuthToken
  else if base ∈ ["issuer_private_key", "issuer_sk", "issuer_secret", "issuer_private_material",
      "signing_secret"] then
    some .issuerPrivateMaterial
  else if base ∈ ["nullifier", "stable_nullifier", "global_nullifier", "link_secret",
      "linking_tag"] then
    some .stableNullifier
  else if base ∈ ["ip", "ip_address", "remote_addr", "peer_addr", "x_forwarded_for", "user_agent",
      "network_metadata"] then
    some .networkMetadata
  else none

def classifyFieldName (field : String) :
    Option (ForbiddenFieldClass × DisclosureRepresentation) :=
  let representation : DisclosureRepresentation :=
    if endsWith field "_sha256" then .redactedDigest else .derivedStatus
  (classOfBase ((stripSuffix field "_sha256").getD field)).map (·, representation)

def isRedactedMarker (value : String) : Bool :=
  let value := asciiLower value
  containsStr value "[redacted]" || containsStr value "redacted_" ||
    startsWith value "sha256:" || startsWith value "digest:"

def checkFieldName (surface : PrivacySurface) (field : String) (policy : DisclosurePolicy) :
    Except PrivacyViolation Unit :=
  if field = "signature" ∧
      surface ∈ [.verifyReceipt, .rejectReceipt, .executeReceipt, .publicAudit] then .ok ()
  else match classifyFieldName field with
    | none => .ok ()
    | some (fieldClass, representation) =>
      if representation ≠ .redactedDigest ∨
          policy.permits fieldClass surface representation = false then
        .error ⟨surface, fieldClass, field⟩
      else .ok ()

def scanText (surface : PrivacySurface) (text : String) (policy : DisclosurePolicy) :
    Except PrivacyViolation Unit :=
  if containsStr text "I02_SENTINEL_" then .error ⟨surface, .traceDebugMaterial, "sentinel"⟩
  else match splitOnce text ':' with
    | none => .ok ()
    | some (head, rest) =>
      if (classifyFieldName head).isSome ∧ isRedactedMarker rest then .ok ()
      else checkFieldName surface head policy

def scanStringFields (surface : PrivacySurface) (fields : List String)
    (policy : DisclosurePolicy) : Except PrivacyViolation Unit :=
  fields.forM (scanText surface · policy)

/-- A field that no policy objects to: no sentinel, and a name without a class or a value that is
marked as redacted. -/
def isHarmless (text : String) : Bool :=
  containsStr text "I02_SENTINEL_" = false && match splitOnce text ':' with
    | none => true
    | some (head, rest) => (classifyFieldName head).isNone || isRedactedMarker rest

theorem scanText_of_harmless {text : String} (h : isHarmless text) (surface : PrivacySurface)
    (policy : DisclosurePolicy) : scanText surface text policy = .ok () := by
  obtain ⟨hsentinel, hfield⟩ := (Bool.and_eq_true _ _).mp h
  unfold scanText
  rw [if_neg (by simpa using hsentinel)]
  cases hsplit : splitOnce text ':' with
  | none => rfl
  | some parts =>
    obtain ⟨head, rest⟩ := parts
    rw [hsplit] at hfield
    cases hclass : classifyFieldName head with
    | none => simp [hclass, checkFieldName]
    | some found =>
      have hmarker : isRedactedMarker rest := by simpa [hclass] using hfield
      simp [hclass, hmarker]

theorem scanStringFields_of_harmless {fields : List String} (h : ∀ field ∈ fields, isHarmless field)
    (surface : PrivacySurface) (policy : DisclosurePolicy) :
    scanStringFields surface fields policy = .ok () := by
  induction fields with
  | nil => rfl
  | cons field fields ih =>
    have hfirst := scanText_of_harmless (h field List.mem_cons_self) surface policy
    have hrest := ih fun other hother => h other (List.mem_cons_of_mem _ hother)
    exact bind_eq_ok.mpr ⟨(), hfirst, hrest⟩

mutual

def scanValue (surface : PrivacySurface) (policy : DisclosurePolicy) :
    Json → Except PrivacyViolation Unit
  | .object members => scanMembers surface policy members
  | .array items => scanItems surface policy items
  | .string text => scanText surface text policy
  | _ => .ok ()

def scanMembers (surface : PrivacySurface) (policy : DisclosurePolicy) :
    List (String × Json) → Except PrivacyViolation Unit
  | [] => .ok ()
  | (name, nested) :: rest => do
    checkFieldName surface name policy
    scanValue surface policy nested
    scanMembers surface policy rest

def scanItems (surface : PrivacySurface) (policy : DisclosurePolicy) :
    List Json → Except PrivacyViolation Unit
  | [] => .ok ()
  | nested :: rest => do
    scanValue surface policy nested
    scanItems surface policy rest

end

def scanJsonBytes (crates : Crates) (surface : PrivacySurface) (bytes : List UInt8)
    (policy : DisclosurePolicy) : Except PrivacyViolation Unit :=
  if bytes.isEmpty then .ok ()
  else match crates.jsonValue bytes with
    | none => scanText surface (fromUtf8Lossy bytes) policy
    | some value => scanValue surface policy value

end Disclosure
