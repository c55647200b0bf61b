import SecsMagik.CallerProofCodec

/-! # Signed answers of a live authority source

A receiver asks a live source about one entity, resource and operation, and takes the answer as its
own authority once the source's signature and the answer's bindings hold. The signature covers the
question as well, so that an answer serves no other one.
-/
namespace LiveSource

open RustStd
open ExternalCrates (Crates)
open WireCodec (rejectIf rejectIf_eq_ok Spells flatMap_inj_of_spells)
open CallerProof

def dreggLiveSourceContractVersion : String := "secs-dregg-live-source-client-v1"

structure DreggLiveSourceRequest where
  contractVersion : String
  receiverAudience : String
  entityRef : String
  resourceRef : String
  operation : String
  opcode : UInt8
  subject : String
  issuerKeyId : Option String
  authorityRootRef : Option String
  validationTime : UInt64
  requestNonce : String
  deriving DecidableEq

inductive DreggLiveSourceStatus where
  | active | degraded | unavailable | revoked | inactive
  deriving DecidableEq, Repr

/-- `{:?}` of the status -/
def DreggLiveSourceStatus.debug : DreggLiveSourceStatus → String
  | .active => "Active"
  | .degraded => "Degraded"
  | .unavailable => "Unavailable"
  | .revoked => "Revoked"
  | .inactive => "Inactive"

inductive DreggLiveSourceDuplicatePolicy where
  | unique | conflict
  deriving DecidableEq, Repr

/-- `{:?}` of the policy -/
def DreggLiveSourceDuplicatePolicy.debug : DreggLiveSourceDuplicatePolicy → String
  | .unique => "Unique"
  | .conflict => "Conflict"

structure DreggLiveSourceResponse where
  contractVersion : String
  sourceId : String
  sourceKeyId : String
  sourceStatus : DreggLiveSourceStatus
  entityRef : String
  resourceRef : String
  issuerKeyId : String
  issuerStatus : DreggLiveSourceStatus
  authorityRootRef : String
  rootFingerprint : String
  rootStatus : DreggLiveSourceStatus
  namespaceStatus : DreggLiveSourceStatus
  resourceStatus : DreggLiveSourceStatus
  statusObservedAt : UInt64
  validFrom : UInt64
  validUntil : UInt64
  snapshotGeneration : String
  duplicatePolicy : DreggLiveSourceDuplicatePolicy
  redactedSummary : String
  responseSignature : List UInt8
  deriving DecidableEq

structure DreggLiveSourceTrustedKey where
  sourceId : String
  sourceKeyId : String
  publicKey : Bytes 32
  active : Bool

structure DreggLiveSourceDecision where
  sourceId : String
  issuerKeyId : String
  authorityRootRef : String
  rootFingerprint : String
  cacheGeneration : String
  redactedSummary : String
  deriving DecidableEq

inductive DreggLiveSourceClientError where
  | unsupportedContractVersion | malformedResponse | sourceUnavailable | transportDisabled
  | missingAuthMaterial | missingSourceTrust | insecureSourceUrl | transportTimeout
  | unauthorizedSource | wrongBinding | wrongRoot | revokedOrInactive
  | duplicateAuthorityConflict | unredactedSummary | futureStatus | staleStatus
  deriving DecidableEq, Repr

/-! ## The signed bytes -/

/-- What the signature covers of the question; an absent reference is spelled like an empty one. -/
def DreggLiveSourceRequest.signedTexts (request : DreggLiveSourceRequest) : List String := [
  request.contractVersion, request.receiverAudience, request.operation,
  decimal request.opcode.toNat, request.entityRef, request.resourceRef, request.subject,
  request.issuerKeyId.getD "", request.authorityRootRef.getD "",
  decimal request.validationTime.toNat, request.requestNonce]

namespace DreggLiveSourceResponse

def signedTexts (response : DreggLiveSourceResponse) : List String := [
  response.contractVersion, response.sourceId, response.sourceKeyId, response.sourceStatus.debug,
  response.entityRef, response.resourceRef, response.issuerKeyId, response.issuerStatus.debug,
  response.authorityRootRef, response.rootFingerprint, response.rootStatus.debug,
  response.namespaceStatus.debug, response.resourceStatus.debug,
  decimal response.statusObservedAt.toNat, decimal response.validFrom.toNat,
  decimal response.validUntil.toNat, response.snapshotGeneration, response.duplicatePolicy.debug,
  response.redactedSummary]

def framed (value : String) : List UInt8 := u64Be (UInt64.ofNat (byteLen value)) ++ utf8 value

def signaturePayload (response : DreggLiveSourceResponse) (request : DreggLiveSourceRequest) :
    List UInt8 :=
  (dreggLiveSourceContractVersion :: request.signedTexts ++ response.signedTexts).flatMap framed

/-! ## Validation -/

def requiredTexts (response : DreggLiveSourceResponse) : List String := [
  response.sourceId, response.sourceKeyId, response.entityRef, response.resourceRef,
  response.issuerKeyId, response.authorityRootRef, response.rootFingerprint,
  response.snapshotGeneration, response.redactedSummary]

def forbiddenInSummary : List String := [
  "bearer ", "authorization:", "token=", "access_token", "private_key", "secret", "raw_proof",
  "signature:"]

def validateRequiredResponseFields (response : DreggLiveSourceResponse) :
    Except DreggLiveSourceClientError Unit := do
  rejectIf (response.requiredTexts.any (trim · = "")) .malformedResponse
  rejectIf (response.validFrom ≥ response.validUntil) .malformedResponse
  rejectIf (forbiddenInSummary.any (containsStr (asciiLower response.redactedSummary) ·))
    .unredactedSummary

def allAuthorityStatusesActive (response : DreggLiveSourceResponse) : Bool :=
  response.issuerStatus = .active && response.rootStatus = .active &&
    response.namespaceStatus = .active && response.resourceStatus = .active

end DreggLiveSourceResponse

open DreggLiveSourceResponse

def verifyLiveSourceSignature (crates : Crates) (request : DreggLiveSourceRequest)
    (response : DreggLiveSourceResponse) (trustedKey : DreggLiveSourceTrustedKey) :
    Except DreggLiveSourceClientError Unit := do
  rejectIf (trustedKey.active = false ∨ trustedKey.sourceId ≠ response.sourceId ∨
    trustedKey.sourceKeyId ≠ response.sourceKeyId) .unauthorizedSource
  let signature ← (Bytes.ofSlice? 64 response.responseSignature).elim
    (.error .unauthorizedSource) .ok
  rejectIf (crates.verify trustedKey.publicKey (response.signaturePayload request) signature =
    false) .unauthorizedSource

def validateLiveSourceResponseSemantics (request : DreggLiveSourceRequest)
    (response : DreggLiveSourceResponse) (maxStatusAgeSeconds : UInt64) :
    Except DreggLiveSourceClientError DreggLiveSourceDecision := do
  rejectIf (response.sourceStatus ≠ .active) .sourceUnavailable
  rejectIf (response.entityRef ≠ request.entityRef ∨ response.resourceRef ≠ request.resourceRef)
    .wrongBinding
  rejectIf (request.issuerKeyId.any (response.issuerKeyId ≠ ·)) .wrongBinding
  rejectIf (request.authorityRootRef.any (response.authorityRootRef ≠ ·)) .wrongRoot
  rejectIf (response.duplicatePolicy ≠ .unique) .duplicateAuthorityConflict
  rejectIf (response.statusObservedAt > request.validationTime) .futureStatus
  rejectIf (saturatingSub request.validationTime response.statusObservedAt > maxStatusAgeSeconds)
    .staleStatus
  rejectIf (request.validationTime < response.validFrom ∨
    request.validationTime > response.validUntil) .staleStatus
  rejectIf (response.allAuthorityStatusesActive = false) .revokedOrInactive
  return {
    sourceId := response.sourceId
    issuerKeyId := response.issuerKeyId
    authorityRootRef := response.authorityRootRef
    rootFingerprint := response.rootFingerprint
    cacheGeneration := response.snapshotGeneration
    redactedSummary := response.redactedSummary }

def validateLiveSourceResponse (crates : Crates) (request : DreggLiveSourceRequest)
    (response : DreggLiveSourceResponse) (maxStatusAgeSeconds : UInt64)
    (trustedKey : Option DreggLiveSourceTrustedKey) :
    Except DreggLiveSourceClientError DreggLiveSourceDecision := do
  let trustedKey ← trustedKey.elim (.error .missingSourceTrust) .ok
  rejectIf (request.contractVersion ≠ dreggLiveSourceContractVersion ∨
    response.contractVersion ≠ dreggLiveSourceContractVersion) .unsupportedContractVersion
  response.validateRequiredResponseFields
  verifyLiveSourceSignature crates request response trustedKey
  validateLiveSourceResponseSemantics request response maxStatusAgeSeconds

/-- What an accepted answer is known to be. -/
structure Accepted (crates : Crates) (request : DreggLiveSourceRequest)
    (response : DreggLiveSourceResponse) (maxStatusAgeSeconds : UInt64)
    (key : DreggLiveSourceTrustedKey) : Prop where
  version : request.contractVersion = dreggLiveSourceContractVersion ∧
    response.contractVersion = dreggLiveSourceContractVersion
  required : ∀ text ∈ response.requiredTexts, trim text ≠ ""
  window : response.validFrom < response.validUntil
  redacted : ∀ word ∈ forbiddenInSummary,
    containsStr (asciiLower response.redactedSummary) word = false
  source : key.active = true ∧ key.sourceId = response.sourceId ∧
    key.sourceKeyId = response.sourceKeyId
  signed : ∃ signature : Bytes 64, signature.val = response.responseSignature ∧
    crates.verify key.publicKey (response.signaturePayload request) signature = true
  live : response.sourceStatus = .active
  bound : response.entityRef = request.entityRef ∧ response.resourceRef = request.resourceRef
  issuer : ∀ id ∈ request.issuerKeyId, response.issuerKeyId = id
  root : ∀ ref ∈ request.authorityRootRef, response.authorityRootRef = ref
  unique : response.duplicatePolicy = .unique
  observed : response.statusObservedAt ≤ request.validationTime
  fresh : saturatingSub request.validationTime response.statusObservedAt ≤ maxStatusAgeSeconds
  valid : response.validFrom ≤ request.validationTime ∧ request.validationTime ≤ response.validUntil
  active : response.allAuthorityStatusesActive = true

section

variable {response : DreggLiveSourceResponse}

theorem validateRequiredResponseFields_eq_ok {u : Unit} :
    response.validateRequiredResponseFields = .ok u ↔
      (∀ text ∈ response.requiredTexts, trim text ≠ "") ∧
      response.validFrom < response.validUntil ∧
      ∀ word ∈ forbiddenInSummary,
        containsStr (asciiLower response.redactedSummary) word = false := by
  simp only [validateRequiredResponseFields, bind_eq_ok, rejectIf_eq_ok, exists_and_right,
    exists_const, List.any_eq_true, decide_eq_true_eq, not_exists, not_and, ge_iff_le,
    UInt64.not_le, Bool.not_eq_true, ne_eq]

variable {request : DreggLiveSourceRequest} {key : DreggLiveSourceTrustedKey}

theorem verifyLiveSourceSignature_eq_ok {crates : Crates} {u : Unit} :
    verifyLiveSourceSignature crates request response key = .ok u ↔
      (key.active = true ∧ key.sourceId = response.sourceId ∧
        key.sourceKeyId = response.sourceKeyId) ∧
      ∃ signature : Bytes 64, signature.val = response.responseSignature ∧
        crates.verify key.publicKey (response.signaturePayload request) signature = true := by
  have hslice : ∀ signature : Bytes 64,
      Bytes.ofSlice? 64 response.responseSignature = some signature ↔
        signature.val = response.responseSignature := by
    intro signature
    constructor
    · intro h
      unfold Bytes.ofSlice? at h
      split_ifs at h
      cases h
      rfl
    · intro h
      rw [← h, Bytes.ofSlice?_val]
  simp only [verifyLiveSourceSignature, bind_eq_ok, rejectIf_eq_ok, elim_eq_ok, hslice,
    exists_and_right, exists_const, not_or, ne_eq, not_not, Bool.not_eq_false]

theorem validateLiveSourceResponse_eq_ok {crates : Crates} {age : UInt64} :
    (∃ decision, validateLiveSourceResponse crates request response age (some key) = .ok decision) ↔
      Accepted crates request response age key := by
  have hany : ∀ (o : Option String) (value : String),
      ¬ o.any (value ≠ ·) = true ↔ ∀ x ∈ o, value = x := by
    intro o value
    cases o <;> simp
  have hsome : (some key).elim (.error .missingSourceTrust) .ok =
      (.ok key : Except DreggLiveSourceClientError _) := rfl
  simp only [validateLiveSourceResponse, hany, hsome, validateLiveSourceResponseSemantics,
    bind_eq_ok, rejectIf_eq_ok, validateRequiredResponseFields_eq_ok,
    verifyLiveSourceSignature_eq_ok, exists_and_right, exists_const, not_or, ne_eq, not_not,
    Except.ok.injEq, exists_eq_left', gt_iff_lt, UInt64.not_lt, Bool.not_eq_false, pure,
    Except.pure]
  constructor
  · rintro ⟨_, h₁, ⟨h₂, h₃, h₄⟩, ⟨h₅, h₆⟩, h₇, h₈, h₉, h₁₀, h₁₁, h₁₂, h₁₃, h₁₄, h₁₅, -⟩
    exact ⟨h₁, h₂, h₃, h₄, h₅, h₆, h₇, h₈, h₉, h₁₀, h₁₁, h₁₂, h₁₃, h₁₄, h₁₅⟩
  · intro h
    exact ⟨_, h.version, ⟨h.required, h.window, h.redacted⟩, ⟨h.source, h.signed⟩, h.live, h.bound,
      h.issuer, h.root, h.unique, h.observed, h.fresh, h.valid, h.active, rfl⟩

/-! ## One answer, one question -/

def Fits (request : DreggLiveSourceRequest) : Prop :=
  ∀ text ∈ request.signedTexts, byteLen text < 2 ^ 64

theorem spells_framed : Spells framed (fun text => text) (byteLen · < 2 ^ 64) := by
  intro x y r s hx hy heq
  simp only [framed, List.append_assoc] at heq
  obtain ⟨hlen, heq⟩ := List.append_inj heq (by simp [u64Be])
  have hbytes : byteLen x = byteLen y := by
    have := congrArg UInt64.toNat (u64Be_injective hlen)
    rwa [UInt64.toNat_ofNat_of_lt' hx, UInt64.toNat_ofNat_of_lt' hy] at this
  obtain ⟨htext, hrest⟩ := List.append_inj heq hbytes
  exact ⟨utf8_injective htext, hrest⟩

theorem signedTexts_of_payload {request request' : DreggLiveSourceRequest} (hfits : Fits request)
    (hfits' : Fits request')
    (h : response.signaturePayload request = response.signaturePayload request') :
    request.signedTexts = request'.signedTexts := by
  simp only [signaturePayload, List.cons_append, List.flatMap_cons, List.flatMap_append] at h
  have hrest := List.append_cancel_left h
  have hlen : request.signedTexts.length = request'.signedTexts.length := rfl
  have hmaps := (flatMap_inj_of_spells spells_framed hlen hfits hfits' hrest).1
  simpa using hmaps

/-- No accepted answer names an empty reference, so an absent one is told from an empty one. -/
theorem Accepted.refs_ne_empty {crates : Crates} {age : UInt64}
    (h : Accepted crates request response age key) :
    request.issuerKeyId ≠ some "" ∧ request.authorityRootRef ≠ some "" := by
  have htrim : trim "" = "" := by decide
  constructor
  · intro hempty
    have hid := h.issuer "" hempty
    exact h.required response.issuerKeyId (by simp [requiredTexts]) (by rw [hid, htrim])
  · intro hempty
    have href := h.root "" hempty
    exact h.required response.authorityRootRef (by simp [requiredTexts]) (by rw [href, htrim])

theorem eq_of_getD_empty {o o' : Option String} (ho : o ≠ some "") (ho' : o' ≠ some "")
    (h : o.getD "" = o'.getD "") : o = o' := by
  cases o with
  | none =>
    cases o' with
    | none => rfl
    | some text => exact absurd (congrArg some h.symm) ho'
  | some text =>
    cases o' with
    | none => exact absurd (congrArg some h) ho
    | some text' => exact congrArg some h

/-- A signed answer that is accepted for two questions, under any age limits, was asked once: the
questions are the same. -/
theorem live_answer_serves_one_request (crates : Crates) (key : DreggLiveSourceTrustedKey)
    (response : DreggLiveSourceResponse) (request request' : DreggLiveSourceRequest)
    (age age' : UInt64) (decision decision' : DreggLiveSourceDecision)
    (hone : ∀ message message' (signature : Bytes 64),
      signature.val = response.responseSignature →
      crates.verify key.publicKey message signature = true →
      crates.verify key.publicKey message' signature = true → message = message')
    (hfits : Fits request) (hfits' : Fits request')
    (haccepted : validateLiveSourceResponse crates request response age (some key) = .ok decision)
    (haccepted' : validateLiveSourceResponse crates request' response age' (some key) =
      .ok decision') : request = request' := by
  have h := validateLiveSourceResponse_eq_ok.mp ⟨decision, haccepted⟩
  have h' := validateLiveSourceResponse_eq_ok.mp ⟨decision', haccepted'⟩
  obtain ⟨signature, hbytes, hverify⟩ := h.signed
  obtain ⟨signature', hbytes', hverify'⟩ := h'.signed
  have hsame : signature' = signature := Subtype.ext (hbytes'.trans hbytes.symm)
  rw [hsame] at hverify'
  have htexts := signedTexts_of_payload hfits hfits' (hone _ _ signature hbytes hverify hverify')
  simp only [DreggLiveSourceRequest.signedTexts, List.cons.injEq, and_true] at htexts
  obtain ⟨hversion, haudience, hoperation, hopcode, hentity, hresource, hsubject, hissuer, hroot,
    htime, hnonce⟩ := htexts
  obtain ⟨issuer_ne, root_ne⟩ := h.refs_ne_empty
  obtain ⟨issuer_ne', root_ne'⟩ := h'.refs_ne_empty
  obtain ⟨v, a, e, r, o, c, s, i, f, t, n⟩ := request
  obtain ⟨v', a', e', r', o', c', s', i', f', t', n'⟩ := request'
  have hopcode : c = c' := UInt8.toNat_inj.mp (decimal_injective hopcode)
  have htime : t = t' := UInt64.toNat_inj.mp (decimal_injective htime)
  have hissuer : i = i' := eq_of_getD_empty issuer_ne issuer_ne' hissuer
  have hroot : f = f' := eq_of_getD_empty root_ne root_ne' hroot
  simp_all

end

namespace Sample

def request : DreggLiveSourceRequest where
  contractVersion := dreggLiveSourceContractVersion
  receiverAudience := "r"
  entityRef := "e"
  resourceRef := "doc"
  operation := "op"
  opcode := 7
  subject := "s"
  issuerKeyId := some "k"
  authorityRootRef := none
  validationTime := 100
  requestNonce := "n"

def response : DreggLiveSourceResponse where
  contractVersion := dreggLiveSourceContractVersion
  sourceId := "src"
  sourceKeyId := "key"
  sourceStatus := .active
  entityRef := "e"
  resourceRef := "doc"
  issuerKeyId := "k"
  issuerStatus := .active
  authorityRootRef := "root"
  rootFingerprint := "f"
  rootStatus := .active
  namespaceStatus := .active
  resourceStatus := .active
  statusObservedAt := 90
  validFrom := 80
  validUntil := 160
  snapshotGeneration := "g"
  duplicatePolicy := .unique
  redactedSummary := "ok"
  responseSignature := List.replicate 64 9

def trustedKey : DreggLiveSourceTrustedKey := ⟨"src", "key", .filled 32 1, true⟩

/-- Stand-ins under which the source's key has signed one message. -/
def oneMessage : Crates :=
  { Crates.transparent with
    publicKey := fun _ => .filled 32 0
    verify := fun key message _ =>
      key == .filled 32 0 || message == response.signaturePayload request
    verify_sign := fun _ _ => by simp }

theorem accepted : Accepted oneMessage request response 60 trustedKey where
  version := ⟨rfl, rfl⟩
  required := by decide
  window := by decide
  redacted := by decide
  source := ⟨rfl, rfl, rfl⟩
  signed := ⟨.filled 64 9, rfl, by simp [oneMessage]⟩
  live := rfl
  bound := ⟨rfl, rfl⟩
  issuer := by simp [request, response]
  root := by simp [request]
  unique := rfl
  observed := by decide
  fresh := by decide
  valid := by decide
  active := rfl

/-- The sample answer is accepted for the sample question, and for any other question it was asked
with that one. -/
theorem sample_answer_serves_one_request :
    (∃ decision, validateLiveSourceResponse oneMessage request response 60 (some trustedKey) =
      .ok decision) ∧
    ∀ request' age decision, Fits request' →
      validateLiveSourceResponse oneMessage request' response age (some trustedKey) = .ok decision →
        request = request' := by
  have haccepted := validateLiveSourceResponse_eq_ok.mpr accepted
  refine ⟨haccepted, fun request' age decision hfits' haccepted' => ?_⟩
  obtain ⟨decision₀, haccepted⟩ := haccepted
  refine live_answer_serves_one_request oneMessage trustedKey response request request' 60 age
    decision₀ decision ?_ ?_ hfits' haccepted haccepted'
  · intro message message' signature _ hverify hverify'
    have hkey : (trustedKey.publicKey == Bytes.filled 32 0) = false := by decide
    simp only [oneMessage, hkey, Bool.false_or, beq_iff_eq] at hverify hverify'
    rw [hverify, hverify']
  · unfold Fits
    decide

end Sample

end LiveSource
