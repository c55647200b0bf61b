import SecsMagik.WireCodec

/-! # Signed execution responses

The codec of the responses a receiver sends back for an execution: field order, integer width,
option tags and framing are fixed by hand, so that the bytes a receiver signs determine every
field of the response.
-/
namespace ExecutionTransport

open RustStd Bincode WireCodec

def executionResponseSchemaVersion : UInt16 := 1

def executionResponseMagic : List UInt8 := utf8 "SECSEX1" ++ [0]

def maxExecutionResponseBytes : ℕ := 266240

def maxExecutionResponseBodyBytes : ℕ := 266164

def executionResponseSignatureDomain : List UInt8 := utf8 "secs-execution-response-v1/signature"

def handlerOutputMissing : String := "handler_output_missing"

def handlerOutputUnexpected : String := "handler_output_unexpected"

def outputTooLarge : String := "output_too_large"

def executionResponseTooLarge : String := "execution_response_too_large"

inductive ExecutionStatus where
  | verifierRejected | executionRejected | executed
  deriving DecidableEq, Repr

inductive ExecutionAuthenticatorKind where
  | ed25519Receiver
  deriving DecidableEq, Repr

structure ExecutionResponse where
  schemaVersion : UInt16
  status : ExecutionStatus
  reasonCode : Option String
  requestDigest : Bytes 32
  contextId : Option String
  receiptId : Option String
  outputSchema : Option String
  output : Option (List UInt8)
  authenticatorKind : ExecutionAuthenticatorKind
  signerKeyId : String
  signature : Bytes 64
  deriving DecidableEq

inductive ExecutionResponseError where
  | emptyFrame | frameTooLarge | malformedFrame | unknownSchemaVersion | unknownStatus
  | unknownAuthenticator | unknownOptionTag | invalidUtf8 | invalidState | unknownReason
  | responseAuthenticationFailed
  deriving DecidableEq, Repr

/-- The closed vocabulary of reasons an execution may be rejected for. -/
def executionReasons : List String :=
  [handlerOutputMissing, handlerOutputUnexpected, outputTooLarge, executionResponseTooLarge,
    "handler_unavailable", "handler_timeout", "handler_rejected", "payload_too_large",
    "permission_denied", "permission_expired", "permission_revoked",
    "permission_resource_mismatch", "permission_operation_mismatch", "permission_opcode_mismatch",
    "permission_subject_mismatch", "scoped_nullifier_storage_failed", "duplicate_nullifier",
    "missing_scoped_nullifier", "unsupported_nullifier_scope", "nullifier_domain_mismatch",
    "malformed_packet", "expired_claim", "claim_ttl_exceeds_descriptor_max", "invalid_session",
    "missing_prototype_proof_envelope", "bad_prototype_proof_envelope", "missing_tunnel_key",
    "bad_mac", "unknown_operation", "prototype_operation_not_production_authorized",
    "wrong_audience", "wrong_subject", "wrong_origin", "wrong_operation", "wrong_resource",
    "resource_lock_violation", "authority_amplification", "insufficient_evidence",
    "invalid_presentation", "invalid_signature", "not_yet_valid_claim",
    "unsupported_signature_suite", "unknown_issuer", "wrong_issuer_key", "wrong_trust_root",
    "wrong_registry_root", "wrong_root", "wrong_epoch", "stale", "revoked", "not_final",
    "equivocated", "malformed", "unsupported_suite", "wrong_binding", "missing_status",
    "missing_revocation_root", "wrong_revocation_root", "unsupported_revocation_verifier",
    "unsupported_bls_threshold_finality", "unsupported_rotated_replay_verifier",
    "missing_live_dregg_verifier", "missing_live_dregg_revocation_verifier",
    "missing_live_dregg_bls_threshold_verifier", "missing_live_dregg_rotated_replay_verifier",
    "evidence_tier_too_weak", "unsupported_evidence_kind", "unsupported_evidence_tier",
    "unsupported_authority_mode", "authority_mode_downgrade", "reserved_authority_mode",
    "stale_dregg_revocation_root", "invalid_dregg_revocation_proof", "invalid_dregg_finality_qc",
    "unsupported_dregg_finality_committee", "invalid_dregg_rotated_proof", "invalid_admission",
    "revoked_issuer", "revoked_credential", "stale_registry_status", "unknown_verifier_key",
    "revoked_verifier_key", "expired_verifier_key", "not_yet_valid_verifier_key",
    "untrusted_verifier_key", "bad_caller_proof", "unknown_caller_key", "revoked_caller_key",
    "expired_caller_key", "not_yet_valid_caller_key", "missing_caller_registry",
    "privacy_policy_violation", "over_disclosed_presentation", "forbidden_field_present",
    "internal_error"]

def isExecutionReason (value : String) : Bool := executionReasons.contains value

def isNonempty (value : String) : Bool := value ≠ ""

namespace ExecutionResponse

variable (r : ExecutionResponse)

def stateValid : Bool :=
  match r.status with
  | .verifierRejected =>
    r.reasonCode.any isNonempty && r.outputSchema.isNone && r.output.isNone
  | .executionRejected =>
    r.reasonCode.any isNonempty && r.contextId.any isNonempty && r.receiptId.any isNonempty &&
      r.outputSchema.isNone && r.output.isNone
  | .executed =>
    r.reasonCode.isNone && r.contextId.any isNonempty && r.receiptId.any isNonempty &&
      r.outputSchema.any isNonempty && r.output.isSome

def validateState : Except ExecutionResponseError Unit :=
  if r.schemaVersion ≠ executionResponseSchemaVersion then .error .unknownSchemaVersion
  else if r.signerKeyId = "" then .error .invalidState
  else if r.stateValid = false then .error .invalidState
  else if r.status = .executionRejected ∧ r.reasonCode.any isExecutionReason = false then
    .error .unknownReason
  else .ok ()

end ExecutionResponse

/-! ## Writing -/

def encodeLen (len : ℕ) : Except ExecutionResponseError (List UInt8) :=
  if len < 256 ^ 4 then .ok (leBytes 4 len) else .error .frameTooLarge

def encodeRequiredText (value : String) : Except ExecutionResponseError (List UInt8) := do
  let len ← encodeLen (byteLen value)
  return len ++ utf8 value

def encodeOptionalText : Option String → Except ExecutionResponseError (List UInt8)
  | none => .ok [0]
  | some value => do
    let text ← encodeRequiredText value
    return 1 :: text

def encodeOptionalBytes : Option (List UInt8) → Except ExecutionResponseError (List UInt8)
  | none => .ok [0]
  | some value => do
    let len ← encodeLen value.length
    return 1 :: (len ++ value)

def ExecutionStatus.tag : ExecutionStatus → UInt8
  | .verifierRejected => 0
  | .executionRejected => 1
  | .executed => 2

namespace ExecutionResponse

variable (r : ExecutionResponse)

def canonicalUnsignedBody : Except ExecutionResponseError (List UInt8) := do
  r.validateState
  let reasonCode ← encodeOptionalText r.reasonCode
  let contextId ← encodeOptionalText r.contextId
  let receiptId ← encodeOptionalText r.receiptId
  let outputSchema ← encodeOptionalText r.outputSchema
  let output ← encodeOptionalBytes r.output
  let signerKeyId ← encodeRequiredText r.signerKeyId
  let body := u16 r.schemaVersion ++ [r.status.tag] ++ reasonCode ++ r.requestDigest.val ++
    contextId ++ receiptId ++ outputSchema ++ output ++ [1] ++ signerKeyId
  if maxExecutionResponseBodyBytes < body.length then .error .frameTooLarge else .ok body

def signaturePreimage : Except ExecutionResponseError (List UInt8) := do
  let body ← r.canonicalUnsignedBody
  return executionResponseSignatureDomain ++ body

def encodeFrame (effectiveBound : ℕ) : Except ExecutionResponseError (List UInt8) := do
  let body ← r.canonicalUnsignedBody
  let bodyLen ← encodeLen body.length
  let fullLen := executionResponseMagic.length + 4 + body.length + 64
  if min effectiveBound maxExecutionResponseBytes < fullLen then .error .frameTooLarge
  else .ok (executionResponseMagic ++ bodyLen ++ body ++ r.signature.val)

end ExecutionResponse

/-! ## Reading -/

/-- `Err(e)`, as opposed to a panic -/
def err (e : ExecutionResponseError) : Fault ExecutionResponseError := .error e

namespace Cursor

def u8 : Reader (Fault ExecutionResponseError) UInt8 := do
  let raw ← take (err .malformedFrame) 1
  lift (index raw 0)

def u16 : Reader (Fault ExecutionResponseError) UInt16 := do
  let n ← uintLe (err .malformedFrame) 2
  return UInt16.ofNat n

def u32 : Reader (Fault ExecutionResponseError) ℕ := uintLe (err .malformedFrame) 4

/-- A length and that many bytes, the part `required_text` and `optional_bytes` share. -/
def requiredBytes : Reader (Fault ExecutionResponseError) (List UInt8) := do
  let len ← u32
  take (err .malformedFrame) len

def requiredText : Reader (Fault ExecutionResponseError) String := do
  let bytes ← requiredBytes
  textOf (err .invalidUtf8) bytes

/-- What follows the tag byte of an optional field. -/
def afterTag {α : Type} (required : Reader (Fault ExecutionResponseError) α) (tag : UInt8) :
    Reader (Fault ExecutionResponseError) (Option α) :=
  if tag = 0 then pure none
  else if tag = 1 then do
    let value ← required
    return some value
  else fail (err .unknownOptionTag)

def optional {α : Type} (required : Reader (Fault ExecutionResponseError) α) :
    Reader (Fault ExecutionResponseError) (Option α) := do
  let tag ← u8
  afterTag required tag

def optionalText : Reader (Fault ExecutionResponseError) (Option String) := optional requiredText

def optionalBytes : Reader (Fault ExecutionResponseError) (Option (List UInt8)) :=
  optional requiredBytes

def status : Reader (Fault ExecutionResponseError) ExecutionStatus := do
  let tag ← u8
  if tag = 0 then return .verifierRejected
  else if tag = 1 then return .executionRejected
  else if tag = 2 then return .executed
  else fail (err .unknownStatus)

def authenticatorKind : Reader (Fault ExecutionResponseError) ExecutionAuthenticatorKind := do
  let tag ← u8
  if tag = 1 then return .ed25519Receiver else fail (err .unknownAuthenticator)

def schemaVersion : Reader (Fault ExecutionResponseError) UInt16 := do
  let version ← u16
  if version ≠ executionResponseSchemaVersion then fail (err .unknownSchemaVersion)
  else return version

/-- The fields of the body, with the array of the signature still zero. -/
def body : Reader (Fault ExecutionResponseError) ExecutionResponse := do
  let schemaVersion ← schemaVersion
  let status ← status
  let reasonCode ← optionalText
  let requestDigest ← fixed (err .malformedFrame) 32
  let contextId ← optionalText
  let receiptId ← optionalText
  let outputSchema ← optionalText
  let output ← optionalBytes
  let authenticatorKind ← authenticatorKind
  let signerKeyId ← requiredText
  return {
    schemaVersion, status, reasonCode, requestDigest, contextId, receiptId, outputSchema, output,
    authenticatorKind, signerKeyId, signature := Bytes.filled 64 0 }

end Cursor

def ExecutionResponse.decodeFrame (frame : List UInt8) (effectiveBound : ℕ) :
    Except (Fault ExecutionResponseError) ExecutionResponse := do
  rejectIf (frame = []) (err .emptyFrame)
  rejectIf (min effectiveBound maxExecutionResponseBytes < frame.length) (err .frameTooLarge)
  rejectIf (frame.length < 8 + 4 + 64) (err .malformedFrame)
  let magic ← slice frame 0 8
  rejectIf (magic ≠ executionResponseMagic) (err .malformedFrame)
  let raw ← slice frame 8 12
  let declared := ofLeBytes raw
  rejectIf (maxExecutionResponseBodyBytes < declared) (err .frameTooLarge)
  rejectIf (8 + 4 + declared + 64 ≠ frame.length) (err .malformedFrame)
  let body ← slice frame 12 (12 + declared)
  let (response, rest) ← Cursor.body.run body
  rejectIf (rest ≠ []) (err .malformedFrame)
  let tail ← slice frame (12 + declared) frame.length
  let signature ← copyFromSlice 64 tail
  let response := { response with signature := signature }
  response.validateState.mapError err
  return response

/-! ## What the readers accept -/

def textBytes (value : String) : List UInt8 := leBytes 4 (byteLen value) ++ utf8 value

def countedBytes (value : List UInt8) : List UInt8 := leBytes 4 value.length ++ value

namespace Cursor

theorem reads_u8 : Reads u8 (fun b => [b]) (fun _ => True) := by
  refine Reads.convert (fun b : UInt8 => [b]) (reads_take _ 1) (fun raw hraw => ?_)
    (fun _ _ => rfl)
  obtain ⟨b, rfl⟩ := List.length_eq_one_iff.mp hraw
  refine (reads_pure b).congr (fun b' => ?_) fun _ _ => rfl
  simp

theorem reads_u16 : Reads u16 Bincode.u16 (fun _ => True) := by
  refine Reads.convert UInt16.toNat (reads_uintLe _ 2) (fun n hn => ?_) (fun v _ => v.toNat_lt)
  refine (reads_pure (UInt16.ofNat n)).congr (fun v => ?_) fun _ _ => rfl
  constructor
  · rintro rfl
    exact ⟨trivial, UInt16.toNat_ofNat_of_lt' hn⟩
  · rintro ⟨-, rfl⟩
    exact UInt16.ofNat_toNat.symm

theorem reads_requiredBytes :
    Reads requiredBytes countedBytes (fun value => value.length < 256 ^ 4) := by
  refine (Reads.bind List.length (reads_uintLe _ 4) (fun len _ => reads_take _ len)
    fun len value h => h).congr (fun value => ?_) fun _ _ => rfl
  exact ⟨fun h => h.1, fun h => ⟨h, rfl⟩⟩

theorem reads_requiredText :
    Reads requiredText textBytes (fun value => byteLen value < 256 ^ 4) := by
  refine Reads.convert utf8 reads_requiredBytes (fun bytes hbytes => ?_) (fun _ h => h)
  refine (reads_textOf _ bytes).congr (fun value => ?_) fun _ _ => rfl
  constructor
  · rintro rfl; exact ⟨hbytes, rfl⟩
  · exact And.right

section Optional

variable {α : Type} {required : Reader (Fault ExecutionResponseError) α} {enc : α → List UInt8}
  {ok : α → Prop}

def optionTag : Option α → UInt8
  | none => 0
  | some _ => 1

def optionRest (enc : α → List UInt8) : Option α → List UInt8
  | none => []
  | some a => enc a

theorem reads_afterTag (h : Reads required enc ok) (tag : UInt8) :
    Reads (afterTag required tag) (optionRest enc)
      (fun value => optionTag value = tag ∧ ∀ a ∈ value, ok a) := by
  intro bytes value rest
  unfold afterTag
  split
  · next htag =>
    subst htag
    rw [reads_pure none bytes value rest]
    cases value <;> simp [optionTag, optionRest]
  · split
    · next htag =>
      subst htag
      rw [run_bind_eq_ok]
      constructor
      · rintro ⟨a, mid, hread, hpure⟩
        obtain ⟨ha, rfl⟩ := (h _ _ _).mp hread
        obtain ⟨rfl, rfl⟩ := (reads_pure (some a) _ _ _).mp hpure
        exact ⟨⟨rfl, by simpa using ha⟩, rfl⟩
      · rintro ⟨⟨htag, ha⟩, rfl⟩
        cases value with
        | none => cases htag
        | some a => exact ⟨a, rest, (h _ _ _).mpr ⟨ha a rfl, rfl⟩, rfl⟩
    · next hzero hone =>
      constructor
      · intro hfail; cases hfail
      · rintro ⟨⟨rfl, -⟩, -⟩
        cases value
        · exact absurd rfl hzero
        · exact absurd rfl hone

theorem reads_optional (h : Reads required enc ok) :
    Reads (optional required) (Bincode.opt enc) (fun value => ∀ a ∈ value, ok a) := by
  refine (Reads.bind optionTag reads_u8 (fun tag _ => reads_afterTag h tag)
    fun tag value h => h.1).congr (fun value => by simp) fun value _ => ?_
  cases value <;> rfl

end Optional

theorem reads_status : Reads status (fun s => [s.tag]) (fun _ => True) := by
  refine Reads.convert ExecutionStatus.tag reads_u8 (fun tag _ => ?_) fun _ _ => trivial
  intro bytes s rest
  by_cases h₀ : tag = 0
  · subst h₀
    exact (reads_pure ExecutionStatus.verifierRejected bytes s rest).trans
      (and_congr_left' (by cases s <;> decide))
  by_cases h₁ : tag = 1
  · subst h₁
    exact (reads_pure ExecutionStatus.executionRejected bytes s rest).trans
      (and_congr_left' (by cases s <;> decide))
  by_cases h₂ : tag = 2
  · subst h₂
    exact (reads_pure ExecutionStatus.executed bytes s rest).trans
      (and_congr_left' (by cases s <;> decide))
  rw [if_neg h₀, if_neg h₁, if_neg h₂]
  constructor
  · intro hfail; cases hfail
  · rintro ⟨⟨-, rfl⟩, -⟩
    cases s <;> contradiction

theorem reads_authenticatorKind :
    Reads authenticatorKind (fun _ => [1]) (fun _ => True) := by
  refine Reads.convert (fun _ => (1 : UInt8)) reads_u8 (fun tag _ => ?_) fun _ _ => trivial
  intro bytes kind rest
  split
  · next h =>
    subst h
    exact (reads_pure ExecutionAuthenticatorKind.ed25519Receiver bytes kind rest).trans
      (and_congr_left' (by cases kind; decide))
  · next h =>
    constructor
    · intro hfail; cases hfail
    · rintro ⟨⟨-, rfl⟩, -⟩; exact absurd rfl h

theorem reads_schemaVersion :
    Reads schemaVersion Bincode.u16 (· = executionResponseSchemaVersion) := by
  refine Reads.convert id reads_u16 (fun version _ => ?_) fun _ _ => trivial
  refine ((reads_pure version).guard _).congr (fun v => ?_) fun _ _ => rfl
  constructor
  · rintro ⟨h, rfl⟩; exact ⟨not_not.mp h, rfl⟩
  · rintro ⟨h, rfl⟩; exact ⟨not_not.mpr h, rfl⟩

end Cursor

namespace ExecutionResponse

variable (r : ExecutionResponse)

def unsignedBytes : List UInt8 :=
  Bincode.u16 r.schemaVersion ++ ([r.status.tag] ++ (opt textBytes r.reasonCode ++
    (r.requestDigest.val ++ (opt textBytes r.contextId ++ (opt textBytes r.receiptId ++
      (opt textBytes r.outputSchema ++ (opt countedBytes r.output ++ ([1] ++
        textBytes r.signerKeyId))))))))

/-- Every variable field has a length that its head can carry. -/
structure LengthsFit : Prop where
  reasonCode : ∀ value ∈ r.reasonCode, byteLen value < 256 ^ 4
  contextId : ∀ value ∈ r.contextId, byteLen value < 256 ^ 4
  receiptId : ∀ value ∈ r.receiptId, byteLen value < 256 ^ 4
  outputSchema : ∀ value ∈ r.outputSchema, byteLen value < 256 ^ 4
  output : ∀ value ∈ r.output, value.length < 256 ^ 4
  signerKeyId : byteLen r.signerKeyId < 256 ^ 4

end ExecutionResponse

theorem Cursor.reads_body : Reads Cursor.body ExecutionResponse.unsignedBytes (fun r =>
    r.schemaVersion = executionResponseSchemaVersion ∧ r.LengthsFit ∧
      r.signature = Bytes.filled 64 0) := by
  refine Reads.congr
    (Reads.bind ExecutionResponse.schemaVersion reads_schemaVersion (fun version _ =>
    Reads.bind ExecutionResponse.status reads_status (fun status _ =>
    Reads.bind ExecutionResponse.reasonCode (reads_optional reads_requiredText)
      (fun reason _ =>
    Reads.bind ExecutionResponse.requestDigest (reads_fixed (err .malformedFrame) 32)
      (fun digest _ =>
    Reads.bind ExecutionResponse.contextId (reads_optional reads_requiredText) (fun context _ =>
    Reads.bind ExecutionResponse.receiptId (reads_optional reads_requiredText) (fun receipt _ =>
    Reads.bind ExecutionResponse.outputSchema (reads_optional reads_requiredText)
      (fun schema _ =>
    Reads.bind ExecutionResponse.output (reads_optional reads_requiredBytes) (fun output _ =>
    Reads.bind ExecutionResponse.authenticatorKind reads_authenticatorKind (fun kind _ =>
    Reads.bind ExecutionResponse.signerKeyId reads_requiredText (fun signer _ =>
    reads_pure (⟨version, status, reason, digest, context, receipt, schema, output, kind, signer,
      Bytes.filled 64 0⟩ : ExecutionResponse)) ?_) ?_) ?_) ?_) ?_) ?_) ?_) ?_) ?_) ?_)
    (fun r => ?ok) fun r _ => ?layout
  case ok =>
    constructor
    · rintro ⟨hversion, -, hreason, -, hcontext, hreceipt, hschema, houtput, -, hsigner, hr⟩
      exact ⟨hversion, ⟨hreason, hcontext, hreceipt, hschema, houtput, hsigner⟩, by rw [hr]⟩
    · rintro ⟨hversion, ⟨hreason, hcontext, hreceipt, hschema, houtput, hsigner⟩, hsignature⟩
      refine ⟨hversion, trivial, hreason, trivial, hcontext, hreceipt, hschema, houtput, trivial,
        hsigner, ?_⟩
      rw [← hsignature]
  case layout => simp [ExecutionResponse.unsignedBytes]
  -- the response returned last carries each field that was read before
  all_goals grind

/-! ## What the writers produce -/

theorem encodeLen_eq_ok {len : ℕ} {bytes : List UInt8} :
    encodeLen len = .ok bytes ↔ len < 256 ^ 4 ∧ bytes = leBytes 4 len := by
  unfold encodeLen
  split
  · next h => rw [Except.ok.injEq, and_iff_right h, eq_comm]
  · next h =>
    constructor
    · intro h'; cases h'
    · intro h'; exact absurd h'.1 h

theorem encodeRequiredText_eq_ok {value : String} {bytes : List UInt8} :
    encodeRequiredText value = .ok bytes ↔
      byteLen value < 256 ^ 4 ∧ bytes = textBytes value := by
  unfold encodeRequiredText
  simp only [bind_eq_ok, encodeLen_eq_ok]
  constructor
  · rintro ⟨len, ⟨hlen, rfl⟩, h⟩
    cases h
    exact ⟨hlen, rfl⟩
  · rintro ⟨hlen, rfl⟩
    exact ⟨_, ⟨hlen, rfl⟩, rfl⟩

theorem encodeOptionalText_eq_ok {value : Option String} {bytes : List UInt8} :
    encodeOptionalText value = .ok bytes ↔
      (∀ text ∈ value, byteLen text < 256 ^ 4) ∧ bytes = opt textBytes value := by
  cases value with
  | none => simp [encodeOptionalText, opt, eq_comm]
  | some text =>
    simp only [encodeOptionalText, bind_eq_ok, encodeRequiredText_eq_ok]
    constructor
    · rintro ⟨body, ⟨hlen, rfl⟩, h⟩
      cases h
      exact ⟨by simpa using hlen, rfl⟩
    · rintro ⟨hlen, rfl⟩
      exact ⟨_, ⟨hlen text rfl, rfl⟩, rfl⟩

theorem encodeOptionalBytes_eq_ok {value : Option (List UInt8)} {bytes : List UInt8} :
    encodeOptionalBytes value = .ok bytes ↔
      (∀ output ∈ value, output.length < 256 ^ 4) ∧ bytes = opt countedBytes value := by
  cases value with
  | none => simp [encodeOptionalBytes, opt, eq_comm]
  | some output =>
    simp only [encodeOptionalBytes, bind_eq_ok, encodeLen_eq_ok]
    constructor
    · rintro ⟨len, ⟨hlen, rfl⟩, h⟩
      cases h
      exact ⟨by simpa using hlen, rfl⟩
    · rintro ⟨hlen, rfl⟩
      exact ⟨_, ⟨hlen output rfl, rfl⟩, rfl⟩

namespace ExecutionResponse

variable {r : ExecutionResponse} {bound : ℕ} {frame : List UInt8}

theorem canonicalUnsignedBody_eq_ok {body : List UInt8} :
    r.canonicalUnsignedBody = .ok body ↔ r.validateState = .ok () ∧ r.LengthsFit ∧
      body.length ≤ maxExecutionResponseBodyBytes ∧ body = r.unsignedBytes := by
  unfold canonicalUnsignedBody
  simp only [bind_eq_ok, encodeOptionalText_eq_ok, encodeOptionalBytes_eq_ok,
    encodeRequiredText_eq_ok]
  constructor
  · rintro ⟨⟨⟩, hvalid, _, ⟨hreason, rfl⟩, _, ⟨hcontext, rfl⟩, _, ⟨hreceipt, rfl⟩, _,
      ⟨hschema, rfl⟩, _, ⟨houtput, rfl⟩, _, ⟨hsigner, rfl⟩, h⟩
    split at h
    · cases h
    · next hlen =>
      cases h
      exact ⟨hvalid, ⟨hreason, hcontext, hreceipt, hschema, houtput, hsigner⟩,
        Nat.not_lt.mp hlen, by simp [unsignedBytes]⟩
  · rintro ⟨hvalid, ⟨hreason, hcontext, hreceipt, hschema, houtput, hsigner⟩, hlen, rfl⟩
    refine ⟨(), hvalid, _, ⟨hreason, rfl⟩, _, ⟨hcontext, rfl⟩, _, ⟨hreceipt, rfl⟩, _,
      ⟨hschema, rfl⟩, _, ⟨houtput, rfl⟩, _, ⟨hsigner, rfl⟩, ?_⟩
    have hbody : Bincode.u16 r.schemaVersion ++ [r.status.tag] ++ opt textBytes r.reasonCode ++
        r.requestDigest.val ++ opt textBytes r.contextId ++ opt textBytes r.receiptId ++
        opt textBytes r.outputSchema ++ opt countedBytes r.output ++ [1] ++
        textBytes r.signerKeyId = r.unsignedBytes := by simp [unsignedBytes]
    rw [hbody, if_neg (Nat.not_lt.mpr hlen)]

theorem length_optTextBytes_ge {value : Option String} {text : String} (h : text ∈ value) :
    byteLen text ≤ (opt textBytes value).length := by
  obtain rfl := Option.mem_def.mp h
  simp [opt, textBytes, byteLen]
  omega

theorem length_optCountedBytes_ge {value : Option (List UInt8)} {output : List UInt8}
    (h : output ∈ value) : output.length ≤ (opt countedBytes value).length := by
  obtain rfl := Option.mem_def.mp h
  simp [opt, countedBytes]
  omega

/-- A body within the bound has only lengths that its heads can carry. -/
theorem lengthsFit_of_length_le (h : r.unsignedBytes.length ≤ maxExecutionResponseBodyBytes) :
    r.LengthsFit := by
  have hbound : maxExecutionResponseBodyBytes < 256 ^ 4 := by decide
  have hsigner : byteLen r.signerKeyId ≤ (textBytes r.signerKeyId).length := by
    simp [textBytes, byteLen]
  simp only [unsignedBytes, List.length_append] at h
  constructor
  · intro value hvalue
    have := length_optTextBytes_ge hvalue
    omega
  · intro value hvalue
    have := length_optTextBytes_ge hvalue
    omega
  · intro value hvalue
    have := length_optTextBytes_ge hvalue
    omega
  · intro value hvalue
    have := length_optTextBytes_ge hvalue
    omega
  · intro value hvalue
    have := length_optCountedBytes_ge hvalue
    omega
  · omega

def frameBytes (r : ExecutionResponse) : List UInt8 :=
  executionResponseMagic ++ (leBytes 4 r.unsignedBytes.length ++
    (r.unsignedBytes ++ r.signature.val))

theorem length_executionResponseMagic : executionResponseMagic.length = 8 := by decide

theorem length_frameBytes (r : ExecutionResponse) :
    r.frameBytes.length = 76 + r.unsignedBytes.length := by
  simp only [frameBytes, List.length_append, length_executionResponseMagic, length_leBytes,
    r.signature.property]
  omega

/-- The frames of valid states within the bound. -/
def FrameOf (r : ExecutionResponse) (bound : ℕ) (frame : List UInt8) : Prop :=
  r.validateState = .ok () ∧ frame.length ≤ min bound maxExecutionResponseBytes ∧
    frame = r.frameBytes

theorem length_body_le (h : r.frameBytes.length ≤ min bound maxExecutionResponseBytes) :
    r.unsignedBytes.length ≤ maxExecutionResponseBodyBytes := by
  rw [length_frameBytes] at h
  simp only [maxExecutionResponseBytes, maxExecutionResponseBodyBytes] at h ⊢
  omega

theorem encodeFrame_eq_ok : r.encodeFrame bound = .ok frame ↔ FrameOf r bound frame := by
  unfold encodeFrame FrameOf
  simp only [bind_eq_ok, canonicalUnsignedBody_eq_ok, encodeLen_eq_ok]
  constructor
  · rintro ⟨_, ⟨hvalid, -, -, rfl⟩, _, ⟨-, rfl⟩, h⟩
    split at h
    · cases h
    · next hlen =>
      cases h
      refine ⟨hvalid, ?_, by simp [frameBytes]⟩
      simp only [List.length_append, length_leBytes, r.signature.property]
      omega
  · rintro ⟨hvalid, hlen, rfl⟩
    have hbody := length_body_le hlen
    have hsmall : maxExecutionResponseBodyBytes < 256 ^ 4 := by decide
    refine ⟨_, ⟨hvalid, lengthsFit_of_length_le hbody, hbody, rfl⟩, _, ⟨by omega, rfl⟩, ?_⟩
    rw [length_frameBytes] at hlen
    rw [length_executionResponseMagic, if_neg (by omega)]
    simp [frameBytes]

theorem mapError_eq_ok {u : Unit} :
    r.validateState.mapError err = .ok u ↔ r.validateState = .ok () := by
  cases r.validateState <;> simp [Except.mapError]

theorem copyFromSlice_eq_ok {bytes : List UInt8} {signature : Bytes 64} :
    (copyFromSlice 64 bytes : Except (Fault ExecutionResponseError) _) = .ok signature ↔
      signature.val = bytes := by
  unfold copyFromSlice
  split
  · next h =>
    rw [Except.ok.injEq, Subtype.ext_iff]
    exact eq_comm
  · next h =>
    constructor
    · intro h'; cases h'
    · rintro rfl; exact absurd signature.property h

theorem decodeFrame_sound (h : decodeFrame frame bound = .ok r) : FrameOf r bound frame := by
  unfold decodeFrame at h
  simp only [bind_eq_ok, rejectIf_eq_ok, mapError_eq_ok, copyFromSlice_eq_ok, Prod.exists,
    not_not] at h
  obtain ⟨⟨⟩, -, ⟨⟩, hbound, ⟨⟩, -, magic, hmagic, ⟨⟩, rfl, raw, hraw, ⟨⟩, -, ⟨⟩, hlen, body,
    hbody, response, rest, hread, ⟨⟩, rfl, tail, htail, signature, rfl, ⟨⟩, hvalid,
    hresponse⟩ := h
  cases hresponse
  refine ⟨hvalid, Nat.not_lt.mp hbound, ?_⟩
  -- the four slices follow each other without a gap
  obtain ⟨hmagic, -⟩ := drop_eq_of_slice hmagic
  obtain ⟨hraw, hrawlen⟩ := drop_eq_of_slice hraw
  obtain ⟨hbody, hbodylen⟩ := drop_eq_of_slice hbody
  obtain ⟨htail, -⟩ := drop_eq_of_slice htail
  rw [List.drop_zero, hraw, hbody, htail, List.drop_length, List.append_nil] at hmagic
  obtain ⟨-, hfields⟩ := (Cursor.reads_body _ _ _).mp hread
  rw [List.append_nil] at hfields
  have hhead : leBytes 4 response.unsignedBytes.length = raw := by
    rw [← hfields, hbodylen, Nat.add_sub_cancel_left]
    have := leBytes_ofLeBytes raw
    rwa [hrawlen] at this
  rw [hmagic, hfields, ← hhead]
  rfl

theorem schemaVersion_of_valid (h : r.validateState = .ok ()) :
    r.schemaVersion = executionResponseSchemaVersion := by
  unfold validateState at h
  split at h
  · cases h
  · next hversion => exact not_not.mp hversion

theorem run_body (hvalid : r.validateState = .ok ()) (hfit : r.LengthsFit) :
    Cursor.body.run r.unsignedBytes =
      .ok ({ r with signature := Bytes.filled 64 0 }, []) := by
  refine (Cursor.reads_body _ _ _).mpr ⟨⟨schemaVersion_of_valid hvalid, ?_, rfl⟩, ?_⟩
  · exact ⟨hfit.1, hfit.2, hfit.3, hfit.4, hfit.5, hfit.6⟩
  · rw [List.append_nil]
    rfl

theorem decodeFrame_complete (h : FrameOf r bound frame) : decodeFrame frame bound = .ok r := by
  obtain ⟨hvalid, hbound, rfl⟩ := h
  have hbody := length_body_le hbound
  have hlen := length_frameBytes r
  have hsmall : r.unsignedBytes.length < 256 ^ 4 := by
    have : maxExecutionResponseBodyBytes < 256 ^ 4 := by decide
    omega
  have hmagic := length_executionResponseMagic
  have hdeclared := ofLeBytes_leBytes hsmall
  have h₀ : At r.frameBytes 0 (executionResponseMagic ++
      (leBytes 4 r.unsignedBytes.length ++ (r.unsignedBytes ++ r.signature.val))) := .start rfl
  have h₁ : At r.frameBytes 8 _ := h₀.next hmagic
  have h₂ : At r.frameBytes 12 _ := h₁.next (length_leBytes _ _)
  unfold decodeFrame
  simp only [bind_eq_ok, rejectIf_eq_ok, mapError_eq_ok, copyFromSlice_eq_ok, Prod.exists,
    not_not]
  refine ⟨(), ?_, (), Nat.not_lt.mpr hbound, (), by omega, _, h₀.slice_of hmagic, (), rfl, _,
    h₁.slice_of (length_leBytes _ _), (), by rw [hdeclared]; omega, (),
    by rw [hdeclared]; omega, r.unsignedBytes, ?_, _, _,
    run_body hvalid (lengthsFit_of_length_le hbody), (), rfl, r.signature.val, ?_, r.signature,
    rfl, (), hvalid, rfl⟩
  · exact List.ne_nil_of_length_pos (by omega)
  · rw [hdeclared]
    exact h₂.slice
  · rw [hdeclared]
    exact h₂.append.slice_rest

end ExecutionResponse

/-! ## No read leaves the input -/

namespace Cursor

theorem safe_u8 : SafeReader u8 := by
  refine (safeReader_take _ 1).bind fun raw bytes rest h => ?_
  obtain ⟨hraw, -⟩ := (reads_take _ 1 _ _ _).mp h
  obtain ⟨b, rfl⟩ := List.length_eq_one_iff.mp hraw
  exact safeReader_pure b

theorem safe_requiredBytes : SafeReader requiredBytes :=
  (safeReader_uintLe _ 4).bind fun len _ _ _ => safeReader_take _ len

theorem safe_requiredText : SafeReader requiredText :=
  safe_requiredBytes.bind fun bytes _ _ _ => safeReader_textOf _ bytes

theorem safe_optional {α : Type} {required : Reader (Fault ExecutionResponseError) α}
    (h : SafeReader required) : SafeReader (optional required) := by
  refine safe_u8.bind fun tag _ _ _ => ?_
  unfold afterTag
  split_ifs
  · exact safeReader_pure _
  · exact h.bind fun _ _ _ _ => safeReader_pure _
  · exact safeReader_fail _

theorem safe_status : SafeReader status := by
  refine safe_u8.bind fun tag _ _ _ => ?_
  split_ifs
  · exact safeReader_pure _
  · exact safeReader_pure _
  · exact safeReader_pure _
  · exact safeReader_fail _

theorem safe_authenticatorKind : SafeReader authenticatorKind := by
  refine safe_u8.bind fun tag _ _ _ => ?_
  split_ifs
  · exact safeReader_pure _
  · exact safeReader_fail _

theorem safe_schemaVersion : SafeReader schemaVersion := by
  have hu16 : SafeReader u16 := (safeReader_uintLe _ 2).bind fun _ _ _ _ => safeReader_pure _
  refine hu16.bind fun version _ _ _ => ?_
  split_ifs
  · exact safeReader_fail _
  · exact safeReader_pure _

theorem safe_body : SafeReader body := by
  have htext := safe_optional safe_requiredText
  refine safe_schemaVersion.bind fun _ _ _ _ => safe_status.bind fun _ _ _ _ => ?_
  refine htext.bind fun _ _ _ _ => (safeReader_fixed _ 32).bind fun _ _ _ _ => ?_
  refine htext.bind fun _ _ _ _ => htext.bind fun _ _ _ _ => htext.bind fun _ _ _ _ => ?_
  refine (safe_optional safe_requiredBytes).bind fun _ _ _ _ => ?_
  exact safe_authenticatorKind.bind fun _ _ _ _ => safe_requiredText.bind fun _ _ _ _ =>
    safeReader_pure _

end Cursor

theorem neverPanics_mapError {α : Type} (x : Except ExecutionResponseError α) :
    NeverPanics (x.mapError err) := by
  cases x
  · exact neverPanics_error _
  · exact neverPanics_ok _

namespace ExecutionResponse

theorem decodeFrame_neverPanics (frame : List UInt8) (bound : ℕ) :
    NeverPanics (decodeFrame frame bound) := by
  unfold decodeFrame
  refine (neverPanics_rejectIf _).bind fun _ _ => (neverPanics_rejectIf _).bind fun _ _ => ?_
  refine (neverPanics_rejectIf _).bind fun _ hlen => ?_
  rw [rejectIf_eq_ok] at hlen
  rw [slice_of_le (by omega) (by omega)]
  refine (neverPanics_ok _).bind fun _ _ => (neverPanics_rejectIf _).bind fun _ _ => ?_
  rw [slice_of_le (by omega) (by omega)]
  refine (neverPanics_ok _).bind fun raw _ => (neverPanics_rejectIf _).bind fun _ _ => ?_
  refine (neverPanics_rejectIf _).bind fun _ hdeclared => ?_
  rw [rejectIf_eq_ok, not_not] at hdeclared
  rw [slice_of_le (by omega) (by omega)]
  refine (neverPanics_ok _).bind fun body _ => (Cursor.safe_body body).bind fun read _ => ?_
  refine (neverPanics_rejectIf _).bind fun _ _ => ?_
  rw [slice_of_le (by omega) le_rfl]
  refine (neverPanics_ok _).bind fun tail htail => ?_
  have htail : tail.length = 64 := by
    rw [← Except.ok.inj htail, List.length_take, List.length_drop]
    omega
  rw [show copyFromSlice 64 tail = .ok ⟨tail, htail⟩ from dif_pos htail]
  refine (neverPanics_ok _).bind fun _ _ => (neverPanics_mapError _).bind fun _ _ => ?_
  exact neverPanics_ok _

/-- The wire form is canonical: the decoder inverts the encoder and accepts nothing else, the
bytes that are signed determine every other field, and no input makes the decoder panic. -/
theorem wire_form_canonical :
    (∀ (r : ExecutionResponse) (bound : ℕ), r.validateState = .ok () →
      r.frameBytes.length ≤ min bound maxExecutionResponseBytes →
        ∃ frame, r.encodeFrame bound = .ok frame ∧ decodeFrame frame bound = .ok r) ∧
    (∀ (frame : List UInt8) (bound : ℕ) (r : ExecutionResponse),
      decodeFrame frame bound = .ok r → r.encodeFrame bound = .ok frame) ∧
    (∀ (r r' : ExecutionResponse) (body : List UInt8), r.canonicalUnsignedBody = .ok body →
      r'.canonicalUnsignedBody = .ok body → r' = { r with signature := r'.signature }) ∧
    ∀ (frame : List UInt8) (bound : ℕ), NeverPanics (decodeFrame frame bound) := by
  refine ⟨?_, ?_, ?_, decodeFrame_neverPanics⟩
  · intro r bound hvalid hlen
    have hframe : FrameOf r bound r.frameBytes := ⟨hvalid, hlen, rfl⟩
    exact ⟨_, encodeFrame_eq_ok.mpr hframe, decodeFrame_complete hframe⟩
  · intro frame bound r h
    exact encodeFrame_eq_ok.mpr (decodeFrame_sound h)
  · intro r r' body hr hr'
    obtain ⟨hvalid, hfit, -, rfl⟩ := canonicalUnsignedBody_eq_ok.mp hr
    obtain ⟨hvalid', hfit', -, hbody⟩ := canonicalUnsignedBody_eq_ok.mp hr'
    have hread := run_body hvalid' hfit'
    rw [← hbody, run_body hvalid hfit] at hread
    cases r
    cases r'
    cases hread
    rfl

end ExecutionResponse

end ExecutionTransport
