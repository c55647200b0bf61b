import SecsMagik.JsonText
import SecsMagik.ReceiptSignatures
import Mathlib.Data.String.Basic

/-! # Public audit bundles

A redacted projection of the ledger's receipts: each entry carries the hash of the entry before
it, and the root hash covers the hashes of all entries in order. The export builds the chain from
stored rows; the verifier rebuilds each receipt from its entry and checks the chain and the
signatures.
-/
namespace PublicAudit

open RustStd WireCodec
open ExternalCrates (Crates)
open CallContext (Decision AuthenticatorKind)
open Receipts
open JsonText (Scalar Value)

def publicAuditBundleVersionV1 : String := "secs-public-audit-bundle-v1"

def publicAuditChainAlgorithmVersionV1 : String := "secs-public-audit-chain-v1"

def publicAuditBundleVersion : String := "secs-public-audit-bundle-v2"

def publicAuditChainAlgorithmVersion : String := "secs-public-audit-chain-v2"

inductive PublicAuditRedactionPolicy where
  | defaultNoPayloadOrPrivateEvidence
  deriving DecidableEq, Repr

inductive PublicAuditBundleStatus where
  | complete
  deriving DecidableEq, Repr

structure PublicAuditSignerKey where
  signerKeyId : String
  publicKeyHex : String
  deriving DecidableEq

structure PublicAuditChainMetadata where
  algorithmVersion : String
  chainScope : String
  rootHashHex : String
  firstReceiptId : String
  lastReceiptId : String
  receiptCount : ℕ
  complete : Bool
  deriving DecidableEq

structure PublicAuditOutputProjection where
  schemaId : String
  byteCount : UInt64
  digestSha256Hex : String
  deriving DecidableEq

structure PublicAuditReceiptEntry where
  chainIndex : ℕ
  previousEntryHashHex : Option String
  receiptId : String
  schemaVersion : UInt16
  contextId : Option String
  timestamp : UInt64
  kind : String
  decision : String
  reason : Option String
  operation : Option String
  handlerId : Option String
  opcode : UInt8
  packetHashHex : String
  sessionIdHex : String
  nonceHex : String
  authenticatorKind : String
  signerKeyId : String
  signatureHex : String
  evidenceSummary : List String
  outputProjection : Option PublicAuditOutputProjection
  entryHashHex : String
  deriving DecidableEq

structure PublicAuditBundle where
  version : String
  redactionPolicy : PublicAuditRedactionPolicy
  status : PublicAuditBundleStatus
  exportedAt : UInt64
  chain : PublicAuditChainMetadata
  signerKeys : List PublicAuditSignerKey
  receipts : List PublicAuditReceiptEntry
  deriving DecidableEq

/-! ## Hashes -/

def sha256Hex (crates : Crates) (bytes : List UInt8) : String := lowerHex (crates.sha256 bytes).val

def projectionMembers (p : PublicAuditOutputProjection) : List (String × Scalar) :=
  [("schema_id", .text p.schemaId), ("byte_count", .number p.byteCount.toNat),
    ("digest_sha256_hex", .text p.digestSha256Hex)]

/-- The members of an entry in the order of its fields; an absent projection is skipped. -/
def entryMembers (e : PublicAuditReceiptEntry) : List (String × Value) :=
  [("chain_index", .scalar (.number e.chainIndex)),
    ("previous_entry_hash_hex", .scalar (.ofOption e.previousEntryHashHex)),
    ("receipt_id", .scalar (.text e.receiptId)),
    ("schema_version", .scalar (.number e.schemaVersion.toNat)),
    ("context_id", .scalar (.ofOption e.contextId)),
    ("timestamp", .scalar (.number e.timestamp.toNat)),
    ("kind", .scalar (.text e.kind)),
    ("decision", .scalar (.text e.decision)),
    ("reason", .scalar (.ofOption e.reason)),
    ("operation", .scalar (.ofOption e.operation)),
    ("handler_id", .scalar (.ofOption e.handlerId)),
    ("opcode", .scalar (.number e.opcode.toNat)),
    ("packet_hash_hex", .scalar (.text e.packetHashHex)),
    ("session_id_hex", .scalar (.text e.sessionIdHex)),
    ("nonce_hex", .scalar (.text e.nonceHex)),
    ("authenticator_kind", .scalar (.text e.authenticatorKind)),
    ("signer_key_id", .scalar (.text e.signerKeyId)),
    ("signature_hex", .scalar (.text e.signatureHex)),
    ("evidence_summary", .texts e.evidenceSummary)] ++
  (e.outputProjection.map fun p =>
    ("output_projection", Value.record (projectionMembers p))).toList ++
  [("entry_hash_hex", .scalar (.text e.entryHashHex))]

/-- `serde_json::to_string(entry)` -/
def entryJson (e : PublicAuditReceiptEntry) : String :=
  String.ofList (JsonText.object Value.write (entryMembers e))

def entryHashDomain : String := "secs-public-audit-entry-v2/hash"

def entryPreimage (entry : PublicAuditReceiptEntry) (chainVersion : String) : List UInt8 :=
  (if chainVersion = publicAuditChainAlgorithmVersion then utf8 entryHashDomain else []) ++
    utf8 (entryJson { entry with entryHashHex := "" })

def publicAuditEntryHashFor (crates : Crates) (entry : PublicAuditReceiptEntry)
    (chainVersion : String) : String :=
  sha256Hex crates (entryPreimage entry chainVersion)

def publicAuditEntryHash (crates : Crates) (entry : PublicAuditReceiptEntry) : String :=
  publicAuditEntryHashFor crates entry publicAuditChainAlgorithmVersion

def rootPreimage (entries : List PublicAuditReceiptEntry) (bundleVersion chainVersion : String) :
    List UInt8 :=
  utf8 bundleVersion ++
    (if chainVersion = publicAuditChainAlgorithmVersion then utf8 chainVersion else []) ++
    entries.flatMap fun entry => utf8 entry.entryHashHex

def publicAuditRootHashFor (crates : Crates) (entries : List PublicAuditReceiptEntry)
    (bundleVersion chainVersion : String) : String :=
  sha256Hex crates (rootPreimage entries bundleVersion chainVersion)

def publicAuditRootHash (crates : Crates) (entries : List PublicAuditReceiptEntry) : String :=
  publicAuditRootHashFor crates entries publicAuditBundleVersion publicAuditChainAlgorithmVersion

/-! ## Reading an entry back -/

inductive PublicAuditVerificationError where
  | unsupportedBundleVersion | incompleteBundle | receiptCountMismatch | chainEndpointMismatch
  | chainRootMismatch | receiptEntryHashMismatch | receiptChainLinkMismatch | unknownSignerKey
  | invalidSignerPublicKey | invalidReceiptField | invalidReceiptSignature | redactionViolation
  deriving DecidableEq, Repr

def hexNibble (b : UInt8) : Except PublicAuditVerificationError UInt8 :=
  if 48 ≤ b ∧ b ≤ 57 then .ok (b - 48)
  else if 97 ≤ b ∧ b ≤ 102 then .ok (b - 97 + 10)
  else if 65 ≤ b ∧ b ≤ 70 then .ok (b - 65 + 10)
  else .error .invalidReceiptField

/-- The pairs of digits; an odd digit at the end has no pair. -/
def decodePairs : List UInt8 → Except PublicAuditVerificationError (List UInt8)
  | high :: low :: rest => do
    let high ← hexNibble high
    let low ← hexNibble low
    let bytes ← decodePairs rest
    return ((high <<< 4) ||| low) :: bytes
  | _ => .ok []

def decodeHex (value : String) : Except PublicAuditVerificationError (List UInt8) :=
  if byteLen value % 2 ≠ 0 then .error .invalidReceiptField else decodePairs (utf8 value)

def fixedHex (n : ℕ) (value : String) : Except PublicAuditVerificationError (Bytes n) := do
  let bytes ← decodeHex value
  (Bytes.ofSlice? n bytes).elim (.error .invalidReceiptField) .ok

def decisionText : Decision → String
  | .accepted => "accepted"
  | .rejected => "rejected"

def authenticatorText : AuthenticatorKind → String
  | .localDevUntrusted => "local_dev_untrusted"
  | .localMac => "local_mac"
  | .ed25519Node => "ed25519_node"
  | .ed25519Verifier => "ed25519_verifier"
  | .ed25519NodeAndVerifier => "ed25519_node_and_verifier"
  | .externalAnchor => "external_anchor"

/-- The value of an enumeration with this text, the body the `parse_…` functions share. -/
def parseText {α : Type} (all : List α) (text : α → String) (value : String) :
    Except PublicAuditVerificationError α :=
  (all.find? fun a => text a = value).elim (.error .invalidReceiptField) .ok

def parseKind : String → Except PublicAuditVerificationError ReceiptKind :=
  parseText [.reject, .verify, .execute, .forward] ReceiptKind.asStr

def parseDecision : String → Except PublicAuditVerificationError Decision :=
  parseText [.accepted, .rejected] decisionText

def parseAuthenticatorKind : String → Except PublicAuditVerificationError AuthenticatorKind :=
  parseText [.localDevUntrusted, .localMac, .ed25519Node, .ed25519Verifier,
    .ed25519NodeAndVerifier, .externalAnchor] authenticatorText

def toProjection : Option PublicAuditOutputProjection →
    Except PublicAuditVerificationError (Option ReceiptOutputProjection)
  | none => .ok none
  | some p => do
    let digestSha256 ← fixedHex 32 p.digestSha256Hex
    return some ⟨p.schemaId, p.byteCount, digestSha256⟩

def PublicAuditReceiptEntry.toReceipt (e : PublicAuditReceiptEntry) :
    Except PublicAuditVerificationError Receipt := do
  let kind ← parseKind e.kind
  let packetHash ← fixedHex 32 e.packetHashHex
  let sessionId ← fixedHex 16 e.sessionIdHex
  let nonce ← fixedHex 12 e.nonceHex
  let decision ← parseDecision e.decision
  let authenticatorKind ← parseAuthenticatorKind e.authenticatorKind
  let outputProjection ← toProjection e.outputProjection
  let signature ← decodeHex e.signatureHex
  return {
    schemaVersion := e.schemaVersion
    receiptId := e.receiptId
    contextId := e.contextId
    kind, packetHash, sessionId, nonce
    opcode := e.opcode
    operation := e.operation
    decision
    reason := e.reason
    handlerId := e.handlerId
    timestamp := e.timestamp
    authenticatorKind
    signerKeyId := e.signerKeyId
    evidenceSummary := e.evidenceSummary
    outputProjection, signature }

/-! ## The verifier -/

section Verifier

-- `isPoint`: the bytes that `VerifyingKey::from_bytes` takes for a key
variable (crates : Crates) (isPoint : Bytes 32 → Bool)

def verifyingKeyFromHex (value : String) : Except PublicAuditVerificationError (Bytes 32) := do
  let bytes ← fixedHex 32 value
  if isPoint bytes then .ok bytes else .error .invalidSignerPublicKey

def PublicAuditBundle.supportedV1 (b : PublicAuditBundle) : Bool :=
  b.version = publicAuditBundleVersionV1 ∧
    b.chain.algorithmVersion = publicAuditChainAlgorithmVersionV1

def PublicAuditBundle.supportedV2 (b : PublicAuditBundle) : Bool :=
  b.version = publicAuditBundleVersion ∧
    b.chain.algorithmVersion = publicAuditChainAlgorithmVersion

def checkEntryVersion (supportedV1 : Bool) (e : PublicAuditReceiptEntry) :
    Except PublicAuditVerificationError Unit :=
  if supportedV1 then
    rejectIf (¬ (e.schemaVersion = 1 ∨ e.schemaVersion = 2) ∨ e.outputProjection.isSome)
      .unsupportedBundleVersion
  else
    rejectIf (¬ (1 ≤ e.schemaVersion ∧ e.schemaVersion ≤ 3) ∨
        (e.schemaVersion < 3 ∧ e.outputProjection.isSome) ∨
        (e.outputProjection.isSome ∧ (e.kind ≠ "execute" ∨ e.decision ≠ "accepted")))
      .invalidReceiptField

def forbiddenMarkers : List String := ["raw_payload", "raw_private_evidence"]

/-- The body of the loop over the entries; `expectedPrevious` is the hash of the entry before. -/
def verifyEntry (b : PublicAuditBundle) (index : ℕ) (expectedPrevious : Option String)
    (entry : PublicAuditReceiptEntry) : Except PublicAuditVerificationError Unit := do
  checkEntryVersion b.supportedV1 entry
  rejectIf (entry.chainIndex ≠ index) .receiptChainLinkMismatch
  rejectIf (entry.previousEntryHashHex ≠ expectedPrevious) .receiptChainLinkMismatch
  rejectIf (entry.entryHashHex ≠ publicAuditEntryHashFor crates entry b.chain.algorithmVersion)
    .receiptEntryHashMismatch
  rejectIf (forbiddenMarkers.any fun marker => containsStr (entryJson entry) marker)
    .redactionViolation
  let signer ← (b.signerKeys.find? fun signer => signer.signerKeyId = entry.signerKeyId).elim
    (.error .unknownSignerKey) .ok
  let publicKey ← verifyingKeyFromHex isPoint signer.publicKeyHex
  let receipt ← entry.toReceipt
  (receipt.verifyEd25519WithKey crates publicKey).mapError fun _ => .invalidReceiptSignature

def verifyEntries (b : PublicAuditBundle) : ℕ → Option String → List PublicAuditReceiptEntry →
    Except PublicAuditVerificationError Unit
  | _, _, [] => .ok ()
  | index, expectedPrevious, entry :: rest => do
    verifyEntry crates isPoint b index expectedPrevious entry
    verifyEntries b (index + 1) (some entry.entryHashHex) rest

def PublicAuditBundle.verifyLocalPublicAudit (b : PublicAuditBundle) :
    Except PublicAuditVerificationError Unit := do
  rejectIf (b.supportedV1 = false ∧ b.supportedV2 = false) .unsupportedBundleVersion
  rejectIf (b.status ≠ .complete ∨ b.chain.complete = false) .incompleteBundle
  rejectIf (b.chain.receiptCount ≠ b.receipts.length) .receiptCountMismatch
  let first ← b.receipts.head?.elim (.error .incompleteBundle) .ok
  let last ← b.receipts.getLast?.elim (.error .incompleteBundle) .ok
  verifyEntries crates isPoint b 0 none b.receipts
  rejectIf (b.chain.firstReceiptId ≠ first.receiptId ∨ b.chain.lastReceiptId ≠ last.receiptId)
    .chainEndpointMismatch
  rejectIf (b.chain.rootHashHex ≠
      publicAuditRootHashFor crates b.receipts b.version b.chain.algorithmVersion)
    .chainRootMismatch

end Verifier

/-! ## Hexadecimal text -/

theorem utf8EncodeChar_hexDigit {n : ℕ} (h : n < 16) :
    String.utf8EncodeChar (hexDigit n) = [UInt8.ofNat (hexDigit n).toNat] := by
  have hall : ∀ i : Fin 16,
      String.utf8EncodeChar (hexDigit i) = [UInt8.ofNat (hexDigit i).toNat] := by decide
  exact hall ⟨n, h⟩

theorem hexNibble_hexDigit {n : ℕ} (h : n < 16) :
    hexNibble (UInt8.ofNat (hexDigit n).toNat) = .ok (UInt8.ofNat n) := by
  have hall : ∀ i : Fin 16,
      (hexNibble (UInt8.ofNat (hexDigit i).toNat)).toOption = some (UInt8.ofNat i) := by decide
  have hn := hall ⟨n, h⟩
  cases hresult : hexNibble (UInt8.ofNat (hexDigit n).toNat) with
  | error e => simp [hresult, Except.toOption] at hn
  | ok value =>
    simp only [hresult, Except.toOption, Option.some.injEq] at hn
    rw [hn]

theorem nibbles_join (b : UInt8) :
    (UInt8.ofNat (b.toNat / 16) <<< 4) ||| UInt8.ofNat (b.toNat % 16) = b := by
  have hall : ∀ i : Fin 256,
      (UInt8.ofNat (i / 16) <<< 4) ||| UInt8.ofNat (i % 16) = UInt8.ofNat i := by decide +kernel
  have hb := hall ⟨b.toNat, b.toNat_lt⟩
  simpa using hb

theorem utf8_lowerHex (bytes : List UInt8) :
    utf8 (lowerHex bytes) = bytes.flatMap fun b =>
      [UInt8.ofNat (hexDigit (b.toNat / 16)).toNat,
        UInt8.ofNat (hexDigit (b.toNat % 16)).toNat] := by
  rw [utf8_eq, lowerHex, String.toList_ofList, List.flatMap_assoc]
  refine List.flatMap_congr fun b _ => ?_
  have hb := b.toNat_lt
  rw [List.flatMap_cons, List.flatMap_cons, List.flatMap_nil, List.append_nil,
    utf8EncodeChar_hexDigit (by omega), utf8EncodeChar_hexDigit (by omega)]
  rfl

theorem byteLen_lowerHex (bytes : List UInt8) : byteLen (lowerHex bytes) = 2 * bytes.length := by
  rw [byteLen, utf8_lowerHex]
  induction bytes with
  | nil => rfl
  | cons b bytes ih =>
    rw [List.flatMap_cons, List.length_append, ih, List.length_cons]
    simp
    omega

theorem lowerHex_isLowerHex (bytes : List UInt8) :
    ∀ b ∈ utf8 (lowerHex bytes), isLowerHexByte b = true := by
  have hdigit : ∀ i : Fin 16, isLowerHexByte (UInt8.ofNat (hexDigit i).toNat) = true := by decide
  intro b hb
  rw [utf8_lowerHex, List.mem_flatMap] at hb
  obtain ⟨x, -, hb⟩ := hb
  have hx := x.toNat_lt
  simp only [List.mem_cons, List.not_mem_nil, or_false] at hb
  rcases hb with rfl | rfl
  · exact hdigit ⟨x.toNat / 16, by omega⟩
  · exact hdigit ⟨x.toNat % 16, by omega⟩

theorem decodePairs_lowerHex (bytes : List UInt8) :
    decodePairs (utf8 (lowerHex bytes)) = .ok bytes := by
  rw [utf8_lowerHex]
  induction bytes with
  | nil => rfl
  | cons b bytes ih =>
    have hb := b.toNat_lt
    rw [List.flatMap_cons, List.cons_append, List.cons_append, List.nil_append, decodePairs,
      hexNibble_hexDigit (by omega), hexNibble_hexDigit (by omega), ih]
    refine congrArg (fun b => Except.ok (b :: bytes)) (nibbles_join b)

theorem decodeHex_lowerHex (bytes : List UInt8) : decodeHex (lowerHex bytes) = .ok bytes := by
  rw [decodeHex, byteLen_lowerHex, if_neg (by omega), decodePairs_lowerHex]

theorem fixedHex_lowerHex {n : ℕ} (bytes : Bytes n) :
    fixedHex n (lowerHex bytes.val) = .ok bytes := by
  rw [fixedHex, decodeHex_lowerHex]
  exact (congrArg (Option.elim · _ _) (Bytes.ofSlice?_val bytes))

theorem lowerHex_injective : Function.Injective lowerHex := by
  intro a b h
  have ha := decodeHex_lowerHex a
  rw [h, decodeHex_lowerHex] at ha
  exact (Except.ok.inj ha).symm

theorem parseKind_asStr (kind : ReceiptKind) : parseKind kind.asStr = .ok kind := by
  cases kind <;> rfl

theorem parseDecision_text (decision : Decision) :
    parseDecision (decisionText decision) = .ok decision := by
  cases decision <;> rfl

theorem parseAuthenticatorKind_text (kind : AuthenticatorKind) :
    parseAuthenticatorKind (authenticatorText kind) = .ok kind := by
  cases kind <;> rfl

/-! ## What the hashes cover -/

theorem projectionMembers_injective : Function.Injective projectionMembers := by
  intro p q h
  cases p
  cases q
  simp only [projectionMembers, List.cons.injEq, Prod.mk.injEq, Scalar.text.injEq,
    Scalar.number.injEq, true_and, and_true, UInt64.toNat_inj] at h
  obtain ⟨rfl, rfl, rfl⟩ := h
  rfl

theorem entryMembers_injective : Function.Injective entryMembers := by
  intro e f h
  simp only [entryMembers, List.cons_append, List.nil_append, List.cons.injEq, Prod.mk.injEq,
    true_and, Value.scalar.injEq, Value.texts.injEq, Scalar.text.injEq, Scalar.number.injEq,
    UInt64.toNat_inj, UInt16.toNat_inj, UInt8.toNat_inj, JsonText.scalar_ofOption_injective.eq_iff]
    at h
  obtain ⟨h₁, h₂, h₃, h₄, h₅, h₆, h₇, h₈, h₉, h₁₀, h₁₁, h₁₂, h₁₃, h₁₄, h₁₅, h₁₆, h₁₇, h₁₈, h₁₉,
    htail⟩ := h
  have hlast : e.outputProjection = f.outputProjection ∧ e.entryHashHex = f.entryHashHex := by
    cases he : e.outputProjection with
    | none =>
      cases hf : f.outputProjection with
      | none => simpa [he, hf] using htail
      | some q => simp [he, hf] at htail
    | some p =>
      cases hf : f.outputProjection with
      | none => simp [he, hf] at htail
      | some q => simpa [he, hf, projectionMembers_injective.eq_iff] using htail
  cases e
  cases f
  simp_all

theorem entryJson_injective : Function.Injective entryJson := by
  intro e f h
  exact entryMembers_injective
    (JsonText.object_injective JsonText.delimited_value (String.ofList_injective h))

theorem sha256Hex_inj {crates : Crates} {messages : Set (List UInt8)}
    (hinj : Set.InjOn crates.sha256 messages) {a b : List UInt8} (ha : a ∈ messages)
    (hb : b ∈ messages) (h : sha256Hex crates a = sha256Hex crates b) : a = b :=
  hinj ha hb (Subtype.ext (lowerHex_injective h))

theorem length_sha256Hex (crates : Crates) (bytes : List UInt8) :
    (utf8 (sha256Hex crates bytes)).length = 64 := by
  have h := byteLen_lowerHex (crates.sha256 bytes).val
  rwa [(crates.sha256 bytes).property] at h

/-- The messages that verifying a bundle hashes. -/
def PublicAuditBundle.messages (b : PublicAuditBundle) : Set (List UInt8) :=
  insert (rootPreimage b.receipts b.version b.chain.algorithmVersion)
    {m | ∃ e ∈ b.receipts, m = entryPreimage e b.chain.algorithmVersion}

theorem verifyEntries_entryHash {crates : Crates} {isPoint : Bytes 32 → Bool}
    {b : PublicAuditBundle} {entries : List PublicAuditReceiptEntry} {index : ℕ}
    {expectedPrevious : Option String}
    (h : verifyEntries crates isPoint b index expectedPrevious entries = .ok ()) :
    ∀ e ∈ entries, e.entryHashHex = publicAuditEntryHashFor crates e b.chain.algorithmVersion := by
  induction entries generalizing index expectedPrevious with
  | nil => simp
  | cons entry rest ih =>
    simp only [verifyEntries, verifyEntry, bind_eq_ok, rejectIf_eq_ok] at h
    obtain ⟨⟨⟩, ⟨⟨⟩, -, ⟨⟩, -, ⟨⟩, -, ⟨⟩, hhash, -⟩, hrest⟩ := h
    intro e he
    rcases List.mem_cons.mp he with rfl | he
    · exact not_not.mp hhash
    · exact ih hrest e he

theorem entry_eq_of_hash_eq {crates : Crates} {messages : Set (List UInt8)} {version : String}
    (hinj : Set.InjOn crates.sha256 messages) {e f : PublicAuditReceiptEntry}
    (he : entryPreimage e version ∈ messages) (hf : entryPreimage f version ∈ messages)
    (hehash : e.entryHashHex = publicAuditEntryHashFor crates e version)
    (hfhash : f.entryHashHex = publicAuditEntryHashFor crates f version)
    (heq : e.entryHashHex = f.entryHashHex) : e = f := by
  have hpre : entryPreimage e version = entryPreimage f version := by
    refine sha256Hex_inj hinj he hf ?_
    rw [hehash, hfhash] at heq
    exact heq
  have hcleared := entryJson_injective (utf8_injective (List.append_cancel_left hpre))
  calc e = { { e with entryHashHex := "" } with entryHashHex := e.entryHashHex } := rfl
    _ = { { f with entryHashHex := "" } with entryHashHex := f.entryHashHex } := by
      rw [hcleared, heq]
    _ = f := rfl

/-- The hashes of entries that carry their own hash spell the entries. -/
theorem spells_entryHash {crates : Crates} {messages : Set (List UInt8)} {version : String}
    (hinj : Set.InjOn crates.sha256 messages) :
    Spells (fun e : PublicAuditReceiptEntry => utf8 e.entryHashHex) (fun e => e) (fun e =>
      entryPreimage e version ∈ messages ∧
        e.entryHashHex = publicAuditEntryHashFor crates e version) := by
  intro e f r s he hf heq
  have hlength (e : PublicAuditReceiptEntry)
      (h : e.entryHashHex = publicAuditEntryHashFor crates e version) :
      (utf8 e.entryHashHex).length = 64 := by
    rw [h]
    exact length_sha256Hex crates _
  obtain ⟨hhash, hrest⟩ :=
    List.append_inj heq ((hlength e he.2).trans (hlength f hf.2).symm)
  exact ⟨entry_eq_of_hash_eq hinj he.1 hf.1 he.2 hf.2 (utf8_injective hhash), hrest⟩

theorem length_flatMap_of_const {α β : Type} {f : α → List β} {n : ℕ} {xs : List α}
    (h : ∀ x ∈ xs, (f x).length = n) : (xs.flatMap f).length = n * xs.length := by
  induction xs with
  | nil => rfl
  | cons x xs ih =>
    rw [List.flatMap_cons, List.length_append, h x List.mem_cons_self,
      ih fun y hy => h y (List.mem_cons_of_mem x hy), List.length_cons, Nat.mul_succ, Nat.add_comm]

section Verified

variable {crates : Crates} {isPoint : Bytes 32 → Bool}

theorem verifyLocalPublicAudit_eq_ok {b : PublicAuditBundle} :
    b.verifyLocalPublicAudit crates isPoint = .ok () ↔
      (b.supportedV1 ∨ b.supportedV2) ∧ b.chain.complete ∧
        b.chain.receiptCount = b.receipts.length ∧
        (∃ first, b.receipts.head? = some first ∧ ∃ last, b.receipts.getLast? = some last ∧
          verifyEntries crates isPoint b 0 none b.receipts = .ok () ∧
            b.chain.firstReceiptId = first.receiptId ∧ b.chain.lastReceiptId = last.receiptId) ∧
        b.chain.rootHashHex =
          publicAuditRootHashFor crates b.receipts b.version b.chain.algorithmVersion := by
  have hstatus : b.status = .complete := by cases b.status; rfl
  simp only [PublicAuditBundle.verifyLocalPublicAudit, bind_eq_ok, rejectIf_eq_ok, elim_eq_ok,
    hstatus, ne_eq, not_true_eq_false, false_or, Bool.not_eq_false, not_and_or, not_or, not_not]
  constructor
  · rintro ⟨⟨⟩, hversion, ⟨⟩, hcomplete, ⟨⟩, hcount, first, hfirst, last, hlast, ⟨⟩, hentries, ⟨⟩,
      hends, hroot⟩
    exact ⟨hversion, hcomplete, hcount, ⟨first, hfirst, last, hlast, hentries, hends⟩, hroot⟩
  · rintro ⟨hversion, hcomplete, hcount, ⟨first, hfirst, last, hlast, hentries, hends⟩, hroot⟩
    exact ⟨(), hversion, (), hcomplete, (), hcount, first, hfirst, last, hlast, (), hentries, (),
      hends, hroot⟩

theorem supported_versions {b : PublicAuditBundle} (h : b.supportedV1 ∨ b.supportedV2) :
    (b.version = publicAuditBundleVersionV1 ∧
        b.chain.algorithmVersion = publicAuditChainAlgorithmVersionV1) ∨
      (b.version = publicAuditBundleVersion ∧
        b.chain.algorithmVersion = publicAuditChainAlgorithmVersion) := by
  simpa [PublicAuditBundle.supportedV1, PublicAuditBundle.supportedV2] using h

/-- The bundle versions are equally long, so their roots cannot be read for each other. -/
theorem versions_eq_of_rootPreimage_eq {b c : PublicAuditBundle}
    (hb : b.supportedV1 ∨ b.supportedV2) (hc : c.supportedV1 ∨ c.supportedV2)
    (h : rootPreimage b.receipts b.version b.chain.algorithmVersion =
      rootPreimage c.receipts c.version c.chain.algorithmVersion) :
    b.version = c.version ∧ b.chain.algorithmVersion = c.chain.algorithmVersion := by
  have hlength : (utf8 publicAuditBundleVersionV1).length =
      (utf8 publicAuditBundleVersion).length := by decide
  simp only [rootPreimage, List.append_assoc] at h
  rcases supported_versions hb with ⟨hbv, hba⟩ | ⟨hbv, hba⟩
  · rcases supported_versions hc with ⟨hcv, hca⟩ | ⟨hcv, hca⟩
    · exact ⟨hbv.trans hcv.symm, hba.trans hca.symm⟩
    · rw [hbv, hcv] at h
      exact absurd (utf8_injective (List.append_inj h hlength).1) (by decide)
  · rcases supported_versions hc with ⟨hcv, hca⟩ | ⟨hcv, hca⟩
    · rw [hbv, hcv] at h
      exact absurd (utf8_injective (List.append_inj h hlength.symm).1) (by decide)
    · exact ⟨hbv.trans hcv.symm, hba.trans hca.symm⟩

/-- The hashes in a bundle are those of what it lists. -/
structure PublicAuditBundle.Hashed (crates : Crates) (b : PublicAuditBundle) : Prop where
  version : b.supportedV1 ∨ b.supportedV2
  entries : ∀ e ∈ b.receipts,
    e.entryHashHex = publicAuditEntryHashFor crates e b.chain.algorithmVersion
  root : b.chain.rootHashHex =
    publicAuditRootHashFor crates b.receipts b.version b.chain.algorithmVersion

theorem hashed_of_verified {b : PublicAuditBundle}
    (h : b.verifyLocalPublicAudit crates isPoint = .ok ()) : b.Hashed crates := by
  obtain ⟨hversion, -, -, ⟨-, -, -, -, hentries, -⟩, hroot⟩ := verifyLocalPublicAudit_eq_ok.mp h
  exact ⟨hversion, verifyEntries_entryHash hentries, hroot⟩

theorem receipts_eq_of_rootHash_eq {b c : PublicAuditBundle} (hb : b.Hashed crates)
    (hc : c.Hashed crates) (hinj : Set.InjOn crates.sha256 (b.messages ∪ c.messages))
    (hroot : b.chain.rootHashHex = c.chain.rootHashHex) : b.receipts = c.receipts := by
  have hpre : rootPreimage b.receipts b.version b.chain.algorithmVersion =
      rootPreimage c.receipts c.version c.chain.algorithmVersion := by
    refine sha256Hex_inj hinj (.inl (Set.mem_insert _ _)) (.inr (Set.mem_insert _ _)) ?_
    rw [hb.root, hc.root] at hroot
    exact hroot
  obtain ⟨hversion, halgorithm⟩ := versions_eq_of_rootPreimage_eq hb.version hc.version hpre
  have hbok : ∀ e ∈ b.receipts,
      entryPreimage e b.chain.algorithmVersion ∈ b.messages ∪ c.messages ∧
        e.entryHashHex = publicAuditEntryHashFor crates e b.chain.algorithmVersion :=
    fun e he => ⟨.inl (.inr ⟨e, he, rfl⟩), hb.entries e he⟩
  have hcok : ∀ e ∈ c.receipts,
      entryPreimage e b.chain.algorithmVersion ∈ b.messages ∪ c.messages ∧
        e.entryHashHex = publicAuditEntryHashFor crates e b.chain.algorithmVersion := by
    rw [halgorithm]
    exact fun e he => ⟨.inr (.inr ⟨e, he, rfl⟩), hc.entries e he⟩
  rw [hversion, halgorithm] at hpre
  have hhashes := List.append_cancel_left hpre
  have hlength (e : PublicAuditReceiptEntry)
      (h : e.entryHashHex = publicAuditEntryHashFor crates e b.chain.algorithmVersion) :
      (utf8 e.entryHashHex).length = 64 := h ▸ length_sha256Hex crates _
  have hcount : b.receipts.length = c.receipts.length := by
    have h := congrArg List.length hhashes
    rw [length_flatMap_of_const fun e he => hlength e (hbok e he).2,
      length_flatMap_of_const fun e he => hlength e (hcok e he).2] at h
    omega
  have hentries := (flatMap_inj_of_spells (spells_entryHash hinj) (r := []) (s := []) hcount
    hbok hcok (by rw [hhashes])).1
  simpa using hentries

end Verified

end PublicAudit
