import SecsMagik.PublicAudit
import SecsMagik.Ledger
import Mathlib.Data.List.Sort

/-! # Exporting a public audit bundle from the ledger

The receipts of one context are read back from their row, put in order and chained. A bundle made
this way passes the verifier unless a receipt's text holds a forbidden marker, or holds one whose
first letter is a carriage return: the verifier searches the JSON text, and JSON writes a carriage
return with that letter.
-/
namespace PublicAudit

open RustStd WireCodec
open ExternalCrates (Crates)
open CallContext (Decision)
open Receipts
open Ledger (Tables)

inductive PublicAuditExportError where
  | notFound
  | incompleteReceiptChain
  | unknownSignerKey
  | database (message : String)
  deriving DecidableEq, Repr

structure PublicAuditReceiptRow where
  receiptId : String
  schemaVersion : UInt16
  contextId : Option String
  timestamp : UInt64
  kind : String
  packetHash : List UInt8
  sessionId : List UInt8
  nonce : List UInt8
  opcode : UInt8
  operation : Option String
  decision : String
  reason : Option String
  handlerId : Option String
  authenticatorKind : String
  signerKeyId : String
  evidenceSummary : List String
  outputProjection : Option PublicAuditOutputProjection
  signature : List UInt8

/-! ## Rows -/

/-- The columns `output_schema_id`, `output_byte_count` and `output_digest_sha256` of a receipt; a
count that does not fit the signed column is stored as null. -/
def projectionColumns (r : Receipt) : Option String × Option ℤ × Option (List UInt8) :=
  (r.outputProjection.map (·.schemaId), r.outputProjection.bind fun p => tryI64 p.byteCount,
    r.outputProjection.map fun p => p.digestSha256.val)

def requireBlobLen (field : String) (bytes : List UInt8) (expected : ℕ) :
    Except PublicAuditExportError Unit :=
  rejectIf (bytes.length ≠ expected)
    (.database s!"receipt {field} length {bytes.length} does not match expected {expected}")

def outputProjectionFromRow (columns : Option String × Option ℤ × Option (List UInt8))
    (kind decision : String) :
    Except PublicAuditExportError (Option PublicAuditOutputProjection) :=
  match columns with
  | (none, none, none) => .ok none
  | (some schemaId, some byteCount, some digest) => do
    rejectIf (schemaId = "" ∨ kind ≠ "execute" ∨ decision ≠ "accepted")
      (.database "receipt output projection is not valid for this receipt")
    rejectIf (byteCount < 0) (.database "receipt output byte count is negative")
    requireBlobLen "output_digest_sha256" digest 32
    return some ⟨schemaId, asU64 byteCount, lowerHex digest⟩
  | _ => .error (.database "receipt output projection triple is incomplete")

/-- A stored receipt as it is read back. The timestamp went through a signed column; the version
and the opcode fit one, and the summary is stored as JSON and parsed again. -/
def readRow (r : Receipt) : Except PublicAuditExportError PublicAuditReceiptRow := do
  let outputProjection ←
    outputProjectionFromRow (projectionColumns r) r.kind.asStr (decisionText r.decision)
  return {
    receiptId := r.receiptId
    schemaVersion := r.schemaVersion
    contextId := r.contextId
    timestamp := asU64 (asI64 r.timestamp)
    kind := r.kind.asStr
    packetHash := r.packetHash.val
    sessionId := r.sessionId.val
    nonce := r.nonce.val
    opcode := r.opcode
    operation := r.operation
    decision := decisionText r.decision
    reason := r.reason
    handlerId := r.handlerId
    authenticatorKind := authenticatorText r.authenticatorKind
    signerKeyId := r.signerKeyId
    evidenceSummary := r.evidenceSummary
    outputProjection
    signature := r.signature }

def kindRank : ReceiptKind → ℕ
  | .verify => 0
  | .execute => 1
  | .reject => 2
  | .forward => 3

/-- `ORDER BY timestamp ASC, CASE kind … END, receipt_id ASC` -/
def auditOrder (r s : Receipt) : Prop :=
  asI64 r.timestamp < asI64 s.timestamp ∨
    (asI64 r.timestamp = asI64 s.timestamp ∧
      (kindRank r.kind < kindRank s.kind ∨
        (kindRank r.kind = kindRank s.kind ∧ r.receiptId ≤ s.receiptId)))

instance : DecidableRel auditOrder := fun _ _ => inferInstanceAs (Decidable (_ ∨ _))

/-- The receipts of a context in the order of the query. -/
def contextReceipts (w : Tables) (contextId : String) : List Receipt :=
  (w.receipts.rows.filter fun r => r.contextId = some contextId).insertionSort auditOrder

def publicAuditReceiptsForContext (w : Tables) (contextId : String) :
    Except PublicAuditExportError (List PublicAuditReceiptRow) :=
  (contextReceipts w contextId).mapM readRow

/-! ## Bundles -/

section Bundles

variable (crates : Crates)

def unhashedEntry (chainIndex : ℕ) (previousEntryHashHex : Option String)
    (row : PublicAuditReceiptRow) : PublicAuditReceiptEntry where
  chainIndex := chainIndex
  previousEntryHashHex := previousEntryHashHex
  receiptId := row.receiptId
  schemaVersion := row.schemaVersion
  contextId := row.contextId
  timestamp := row.timestamp
  kind := row.kind
  decision := row.decision
  reason := row.reason
  operation := row.operation
  handlerId := row.handlerId
  opcode := row.opcode
  packetHashHex := lowerHex row.packetHash
  sessionIdHex := lowerHex row.sessionId
  nonceHex := lowerHex row.nonce
  authenticatorKind := row.authenticatorKind
  signerKeyId := row.signerKeyId
  signatureHex := lowerHex row.signature
  evidenceSummary := row.evidenceSummary
  outputProjection := row.outputProjection
  entryHashHex := ""

def chainedEntry (chainIndex : ℕ) (previousEntryHashHex : Option String)
    (row : PublicAuditReceiptRow) : PublicAuditReceiptEntry :=
  let entry := unhashedEntry chainIndex previousEntryHashHex row
  { entry with entryHashHex := publicAuditEntryHash crates entry }

/-- The loop that chains the rows. -/
def chainRows : ℕ → Option String → List PublicAuditReceiptRow → List PublicAuditReceiptEntry
  | _, _, [] => []
  | chainIndex, previous, row :: rest =>
    let entry := chainedEntry crates chainIndex previous row
    entry :: chainRows (chainIndex + 1) (some entry.entryHashHex) rest

def sortedSignerKeys (signerKeys : List (String × Bytes 32)) : List PublicAuditSignerKey :=
  (signerKeys.map fun (id, key) => ⟨id, lowerHex key.val⟩).insertionSort
    fun left right => left.signerKeyId ≤ right.signerKeyId

def publicAuditBundleFromRows (contextId : String) (signerKeys : List (String × Bytes 32))
    (exportedAt : UInt64) (rows : List PublicAuditReceiptRow) :
    Except PublicAuditExportError PublicAuditBundle := do
  let signerKeys := sortedSignerKeys signerKeys
  rejectIf (rows = []) .notFound
  rejectIf (rows.any fun row => row.signature = []) .incompleteReceiptChain
  rejectIf (rows.any fun row =>
    !signerKeys.any fun signer => signer.signerKeyId = row.signerKeyId) .unknownSignerKey
  let receipts := chainRows crates 0 none rows
  let first ← receipts.head?.elim (.error .notFound) .ok
  let last ← receipts.getLast?.elim (.error .notFound) .ok
  return {
    version := publicAuditBundleVersion
    redactionPolicy := .defaultNoPayloadOrPrivateEvidence
    status := .complete
    exportedAt
    chain := {
      algorithmVersion := publicAuditChainAlgorithmVersion
      chainScope := s!"context:{contextId}"
      rootHashHex := publicAuditRootHash crates receipts
      firstReceiptId := first.receiptId
      lastReceiptId := last.receiptId
      receiptCount := receipts.length
      complete := true }
    signerKeys
    receipts }

def exportPublicAuditBundleForContext (w : Tables) (contextId : String)
    (signerKeys : List (String × Bytes 32)) (exportedAt : UInt64) :
    Except PublicAuditExportError PublicAuditBundle := do
  let rows ← publicAuditReceiptsForContext w contextId
  publicAuditBundleFromRows crates contextId signerKeys exportedAt rows

def rowPosition (rows : List PublicAuditReceiptRow) (receiptId : String) :
    Except PublicAuditExportError ℕ :=
  (rows.findIdx? fun row => row.receiptId = receiptId).elim (.error .incompleteReceiptChain) .ok

def exportPublicAuditBundleForContextRange (w : Tables) (contextId firstReceiptId
    lastReceiptId : String) (signerKeys : List (String × Bytes 32)) (exportedAt : UInt64) :
    Except PublicAuditExportError PublicAuditBundle := do
  let rows ← publicAuditReceiptsForContext w contextId
  let start ← rowPosition rows firstReceiptId
  let stop ← rowPosition rows lastReceiptId
  rejectIf (stop < start) .incompleteReceiptChain
  publicAuditBundleFromRows crates contextId signerKeys exportedAt
    ((rows.drop start).take (stop + 1 - start))

end Bundles

/-! ## Reading an exported entry -/

section Entries

variable {crates : Crates} {r : Receipt} {row : PublicAuditReceiptRow}

def publicProjection (p : ReceiptOutputProjection) : PublicAuditOutputProjection :=
  ⟨p.schemaId, p.byteCount, lowerHex p.digestSha256.val⟩

theorem projection_of_row {kind decision : String} {p : Option PublicAuditOutputProjection}
    (h : outputProjectionFromRow (projectionColumns r) kind decision = .ok p) :
    p = r.outputProjection.map publicProjection := by
  cases hr : r.outputProjection with
  | none =>
    simp only [projectionColumns, hr, Option.map_none, Option.bind_none,
      outputProjectionFromRow, Except.ok.injEq] at h
    exact h.symm
  | some q =>
    cases hcount : tryI64 q.byteCount with
    | none => simp [projectionColumns, hr, hcount, outputProjectionFromRow] at h
    | some n =>
      simp only [projectionColumns, hr, hcount, Option.map_some, Option.bind_some,
        outputProjectionFromRow, requireBlobLen, bind_eq_ok, rejectIf_eq_ok] at h
      obtain ⟨-, -, -, -, -, -, hp⟩ := h
      rw [← Except.ok.inj hp, asU64_of_tryI64 hcount]
      rfl

theorem kind_of_projection {columns : Option String × Option ℤ × Option (List UInt8)}
    {kind decision : String} {p : PublicAuditOutputProjection}
    (h : outputProjectionFromRow columns kind decision = .ok (some p)) :
    kind = "execute" ∧ decision = "accepted" := by
  unfold outputProjectionFromRow at h
  split at h
  · cases h
  · obtain ⟨⟨⟩, hfields, -⟩ := bind_eq_ok.mp h
    rw [rejectIf_eq_ok, not_or, not_or, not_not, not_not] at hfields
    exact hfields.2
  · cases h

theorem toProjection_map (p : Option ReceiptOutputProjection) :
    toProjection (p.map publicProjection) = .ok p := by
  cases p with
  | none => rfl
  | some p =>
    simp only [Option.map_some, toProjection, publicProjection, fixedHex_lowerHex]
    rfl

theorem toReceipt_chainedEntry (h : readRow r = .ok row) (chainIndex : ℕ)
    (previous : Option String) :
    (chainedEntry crates chainIndex previous row).toReceipt = .ok r := by
  obtain ⟨p, hp, hrow⟩ := bind_eq_ok.mp h
  obtain rfl := Except.ok.inj hrow
  obtain rfl := projection_of_row hp
  simp only [PublicAuditReceiptEntry.toReceipt, chainedEntry, unhashedEntry, parseKind_asStr,
    parseDecision_text, parseAuthenticatorKind_text, fixedHex_lowerHex, decodeHex_lowerHex,
    asU64_asI64, toProjection_map]
  rfl

end Entries

/-! ## Forbidden markers -/

def receiptTexts (r : Receipt) : List String :=
  [r.receiptId, r.signerKeyId] ++ r.contextId.toList ++ r.reason.toList ++ r.operation.toList ++
    r.handlerId.toList ++ r.evidenceSummary ++ (r.outputProjection.map (·.schemaId)).toList

def HoldsMarker (markers : List String) (r : Receipt) : Prop :=
  ∃ text ∈ receiptTexts r, ∃ marker ∈ markers, containsStr text marker

instance (markers : List String) : DecidablePred (HoldsMarker markers) := fun r =>
  inferInstanceAs (Decidable (∃ text ∈ receiptTexts r, ∃ marker ∈ markers, containsStr text marker))

/-- The markers with a carriage return for their first letter. -/
def returnMarkers : List String := ["\raw_payload", "\raw_private_evidence"]

/-- The names of an entry's members and the texts of its enumerations. -/
def fixedTexts : List String :=
  ["chain_index", "previous_entry_hash_hex", "receipt_id", "schema_version", "context_id",
    "timestamp", "kind", "decision", "reason", "operation", "handler_id", "opcode",
    "packet_hash_hex", "session_id_hex", "nonce_hex", "authenticator_kind", "signer_key_id",
    "signature_hex", "evidence_summary", "output_projection", "schema_id", "byte_count",
    "digest_sha256_hex", "entry_hash_hex", "reject", "verify", "execute", "forward", "accepted",
    "rejected", "local_dev_untrusted", "local_mac", "ed25519_node", "ed25519_verifier",
    "ed25519_node_and_verifier", "external_anchor"]

def entryStrings (e : PublicAuditReceiptEntry) : List String :=
  (entryMembers e).flatMap fun m => m.1 :: m.2.strings

theorem not_infix_fixedTexts : ∀ s ∈ fixedTexts, ∀ marker ∈ forbiddenMarkers ++ returnMarkers,
    ¬ containsStr s marker := by
  decide

theorem not_infix_lowerHex_of_ne {c : Char} (hc : ∀ i : Fin 16, c ≠ hexDigit i) {bytes : List UInt8}
    {word : List Char} : ¬ c :: word <:+: (lowerHex bytes).toList := by
  intro h
  have hmem := h.subset List.mem_cons_self
  rw [lowerHex, String.toList_ofList, List.mem_flatMap] at hmem
  obtain ⟨b, -, hmem⟩ := hmem
  have hb := b.toNat_lt
  rcases List.mem_pair.mp hmem with h | h
  · exact hc ⟨b.toNat / 16, by omega⟩ h
  · exact hc ⟨b.toNat % 16, by omega⟩ h

theorem not_infix_lowerHex (bytes : List UInt8) : ∀ marker ∈ forbiddenMarkers ++ returnMarkers,
    ¬ containsStr (lowerHex bytes) marker := by
  intro marker hmarker
  rw [containsStr_iff]
  simp only [forbiddenMarkers, returnMarkers, List.cons_append, List.nil_append, List.mem_cons,
    List.not_mem_nil, or_false] at hmarker
  rcases hmarker with rfl | rfl | rfl | rfl <;> exact not_infix_lowerHex_of_ne (by decide)

/-- Letters and underscores that stand for themselves in JSON. -/
def selfWritten (word : List Char) : Bool :=
  word.all fun c => (c.isAlpha || c == '_') && JsonText.escapeChar c == [c]

/-- A marker occurs in the JSON text of an entry within one of its names or texts, spelled out or
with its first letter taken from the escape of a carriage return. -/
theorem infix_entryJson_iff (word : List Char) (h : selfWritten word)
    (e : PublicAuditReceiptEntry) : 'r' :: word <:+: (entryJson e).toList ↔
      ∃ s ∈ entryStrings e, 'r' :: word <:+: s.toList ∨ '\r' :: word <:+: s.toList := by
  simp only [selfWritten, List.all_eq_true, Bool.and_eq_true, Bool.or_eq_true, beq_iff_eq] at h
  have hself : ∀ c ∈ word, JsonText.escapeChar c = [c] := fun c hc => (h c hc).2
  have hword : JsonText.PlainWord ('r' :: word) := by
    refine ⟨List.cons_ne_nil _ _, ?_⟩
    rw [List.forall_mem_cons]
    exact ⟨.inl (by decide), fun c hc => (h c hc).1⟩
  have hnull : ¬ 'r' :: word <:+: ['n', 'u', 'l', 'l'] := by
    intro hoccurs
    exact absurd (hoccurs.subset List.mem_cons_self) (by decide)
  rw [entryJson, String.toList_ofList, hword.infix_object_iff]
  simp only [hword.infix_value_iff hnull, JsonText.escape_eq, JsonText.infix_escape_iff hself,
    entryStrings, List.mem_flatMap, List.mem_cons]
  constructor
  · rintro ⟨m, hm, h | ⟨s, hs, h⟩⟩
    · exact ⟨m.1, ⟨m, hm, .inl rfl⟩, h⟩
    · exact ⟨s, ⟨m, hm, .inr hs⟩, h⟩
  · rintro ⟨s, ⟨m, hm, rfl | hs⟩, h⟩
    · exact ⟨m, hm, .inl h⟩
    · exact ⟨m, hm, .inr ⟨s, hs, h⟩⟩

theorem redaction_iff (e : PublicAuditReceiptEntry) :
    (forbiddenMarkers.any fun marker => containsStr (entryJson e) marker) ↔
      ∃ s ∈ entryStrings e, ∃ marker ∈ forbiddenMarkers ++ returnMarkers, containsStr s marker := by
  have hpayload := infix_entryJson_iff "aw_payload".toList (by decide) e
  have hevidence := infix_entryJson_iff "aw_private_evidence".toList (by decide) e
  have h₁ : "raw_payload".toList = 'r' :: "aw_payload".toList := by decide
  have h₂ : "raw_private_evidence".toList = 'r' :: "aw_private_evidence".toList := by decide
  have h₃ : "\raw_payload".toList = '\r' :: "aw_payload".toList := by decide
  have h₄ : "\raw_private_evidence".toList = '\r' :: "aw_private_evidence".toList := by decide
  simp only [forbiddenMarkers, returnMarkers, List.any_cons, List.any_nil, Bool.or_false,
    Bool.or_eq_true, containsStr_iff, List.cons_append, List.nil_append, List.mem_cons,
    List.not_mem_nil, or_false, exists_eq_or_imp, exists_eq_left, h₁, h₂, h₃, h₄, hpayload,
    hevidence]
  grind

section Exported

variable {crates : Crates} {r : Receipt} {row : PublicAuditReceiptRow} {chainIndex : ℕ}
  {previous : Option String} {P : String → Prop}

/-- A property of the fixed and of all hexadecimal texts holds of an exported entry's texts
exactly if it holds of the receipt's own. -/
theorem forall_entryStrings_iff (hfixed : ∀ s ∈ fixedTexts, P s)
    (hhex : ∀ bytes, P (lowerHex bytes)) (h : readRow r = .ok row)
    (hprevious : ∀ hash ∈ previous, ∃ bytes, hash = lowerHex bytes) :
    (∀ s ∈ entryStrings (chainedEntry crates chainIndex previous row), P s) ↔
      ∀ s ∈ receiptTexts r, P s := by
  obtain ⟨p, hp, hrow⟩ := bind_eq_ok.mp h
  obtain rfl := Except.ok.inj hrow
  obtain rfl := projection_of_row hp
  have hkind : P r.kind.asStr := hfixed _ (by cases r.kind <;> decide)
  have hdecision : P (decisionText r.decision) := hfixed _ (by cases r.decision <;> decide)
  have hauthenticator : P (authenticatorText r.authenticatorKind) :=
    hfixed _ (by cases r.authenticatorKind <;> decide)
  have hlink : ∀ hash, previous = some hash → P hash := by
    intro hash hhash
    obtain ⟨bytes, rfl⟩ := hprevious hash hhash
    exact hhex bytes
  have hentry (entry) : P (publicAuditEntryHash crates entry) := hhex _
  simp only [fixedTexts, List.forall_mem_cons] at hfixed
  simp only [entryStrings, entryMembers, chainedEntry, unhashedEntry, receiptTexts,
    JsonText.Value.strings, JsonText.strings_text, JsonText.strings_number,
    JsonText.strings_ofOption, List.flatMap_append, List.flatMap_cons, List.flatMap_nil,
    List.forall_mem_append, List.forall_mem_cons, Option.mem_toList]
  cases r.outputProjection with
  | none =>
    simp [hfixed, hhex, hkind, hdecision, hauthenticator, hentry]
    tauto
  | some q =>
    simp [projectionMembers, publicProjection, hfixed, hhex, hkind, hdecision, hauthenticator,
      hentry]
    tauto

theorem redaction_chainedEntry_iff (h : readRow r = .ok row)
    (hprevious : ∀ hash ∈ previous, ∃ bytes, hash = lowerHex bytes) :
    (forbiddenMarkers.any fun marker =>
      containsStr (entryJson (chainedEntry crates chainIndex previous row)) marker) ↔
        HoldsMarker (forbiddenMarkers ++ returnMarkers) r := by
  have hclean : (∀ s ∈ entryStrings (chainedEntry crates chainIndex previous row),
      ∀ marker ∈ forbiddenMarkers ++ returnMarkers, ¬ containsStr s marker) ↔
        ∀ s ∈ receiptTexts r, ∀ marker ∈ forbiddenMarkers ++ returnMarkers,
          ¬ containsStr s marker :=
    forall_entryStrings_iff not_infix_fixedTexts not_infix_lowerHex h hprevious
  rw [redaction_iff, HoldsMarker, ← not_iff_not]
  push Not
  exact hclean

end Exported

/-! ## Supplied keys -/

/-- The key that comes first among those supplied under an id. -/
def firstKey (signerKeys : List (String × Bytes 32)) (id : String) : Option (Bytes 32) :=
  (signerKeys.find? fun signer => signer.1 = id).map (·.2)

/-- Sorting is stable: it does not change which of several equal elements comes first. -/
theorem find?_insertionSort {α : Type} {le : α → α → Prop} [DecidableRel le] {p : α → Bool}
    (hp : ∀ a b, p a → p b → le a b) (l : List α) : (l.insertionSort le).find? p = l.find? p := by
  have hsorted : (l.filter p).Pairwise le := by
    refine List.pairwise_of_forall_mem_list fun a ha b hb => ?_
    exact hp a b (List.mem_filter.mp ha).2 (List.mem_filter.mp hb).2
  have hsublist := (List.sublist_insertionSort hsorted List.filter_sublist).filter p
  have hperm := (List.perm_insertionSort le l).filter p
  rw [List.filter_filter] at hsublist
  simp only [Bool.and_self] at hsublist
  rw [← List.head?_filter, ← List.head?_filter, hsublist.eq_of_length hperm.length_eq.symm]

theorem find?_sortedSignerKeys (signerKeys : List (String × Bytes 32)) (id : String) :
    ((sortedSignerKeys signerKeys).find? fun signer => signer.signerKeyId = id).map
      (·.publicKeyHex) = (firstKey signerKeys id).map fun key => lowerHex key.val := by
  rw [sortedSignerKeys, find?_insertionSort, List.find?_map, firstKey]
  · simp only [Option.map_map]
    rfl
  · intro a b ha hb
    rw [of_decide_eq_true ha, of_decide_eq_true hb]

theorem verifyingKeyFromHex_eq_ok {isPoint : Bytes 32 → Bool} {key bytes : Bytes 32} :
    verifyingKeyFromHex isPoint (lowerHex bytes.val) = .ok key ↔ key = bytes ∧ isPoint bytes := by
  rw [verifyingKeyFromHex, fixedHex_lowerHex]
  by_cases h : isPoint bytes
  · simp [bind, Except.bind, h, eq_comm]
  · simp [bind, Except.bind, h]

/-! ## Verifying an exported chain -/

theorem holdsMarker_append {markers markers' : List String} {r : Receipt} :
    HoldsMarker (markers ++ markers') r ↔ HoldsMarker markers r ∨ HoldsMarker markers' r := by
  simp only [HoldsMarker, List.mem_append, or_and_right, exists_or, and_or_left]

/-- What the verifier asks of an exported receipt. -/
def Passes (crates : Crates) (isPoint : Bytes 32 → Bool) (signerKeys : List (String × Bytes 32))
    (r : Receipt) : Prop :=
  ¬ HoldsMarker (forbiddenMarkers ++ returnMarkers) r ∧
    ∃ key ∈ firstKey signerKeys r.signerKeyId, isPoint key ∧
      r.verifyEd25519WithKey crates key = .ok ()

section Chain

variable {crates : Crates} {isPoint : Bytes 32 → Bool} {signerKeys : List (String × Bytes 32)}
  {b : PublicAuditBundle} {r : Receipt} {row : PublicAuditReceiptRow}

theorem checkEntryVersion_of_valid (hr : readRow r = .ok row)
    (hvalid : r.validateOutputProjection = .ok ()) (chainIndex : ℕ) (previous : Option String) :
    checkEntryVersion false (chainedEntry crates chainIndex previous row) = .ok () := by
  obtain ⟨p, hp, hrow⟩ := bind_eq_ok.mp hr
  obtain rfl := Except.ok.inj hrow
  have hprojection := projection_of_row hp
  rw [checkEntryVersion, if_neg (by decide), rejectIf_eq_ok]
  simp only [chainedEntry, unhashedEntry]
  rcases Receipt.validateOutputProjection_eq_ok hvalid with ⟨h₁, -, hnone⟩ | ⟨h₂, hnone⟩ | h₃
  · simp [h₁, hprojection, hnone]
  · simp [h₂, hprojection, hnone]
  · cases p with
    | none => simp [h₃]
    | some p => simp [h₃, kind_of_projection hp]

theorem verifyEntry_chainedEntry_iff (hversion : b.supportedV1 = false)
    (halgorithm : b.chain.algorithmVersion = publicAuditChainAlgorithmVersion)
    (hkeys : b.signerKeys = sortedSignerKeys signerKeys) (hr : readRow r = .ok row)
    {chainIndex : ℕ} {previous : Option String}
    (hprevious : ∀ hash ∈ previous, ∃ bytes, hash = lowerHex bytes) :
    verifyEntry crates isPoint b chainIndex previous
      (chainedEntry crates chainIndex previous row) = .ok () ↔
        Passes crates isPoint signerKeys r := by
  have hsigner : row.signerKeyId = r.signerKeyId := by
    obtain ⟨p, -, hrow⟩ := bind_eq_ok.mp hr
    rw [← Except.ok.inj hrow]
  have hhash : (chainedEntry crates chainIndex previous row).entryHashHex =
      publicAuditEntryHashFor crates (chainedEntry crates chainIndex previous row)
        b.chain.algorithmVersion := by
    rw [halgorithm]
    rfl
  have hlookup := find?_sortedSignerKeys signerKeys r.signerKeyId
  have hid : (chainedEntry crates chainIndex previous row).signerKeyId = r.signerKeyId := hsigner
  simp only [verifyEntry, hversion, bind_eq_ok, rejectIf_eq_ok, elim_eq_ok, hkeys, hid,
    redaction_chainedEntry_iff hr hprevious, toReceipt_chainedEntry hr]
  constructor
  · rintro ⟨⟨⟩, -, ⟨⟩, -, ⟨⟩, -, ⟨⟩, -, ⟨⟩, hclean, signer, hfind, key, hkey, r', hr', hverify⟩
    obtain rfl := Except.ok.inj hr'
    rw [hfind, Option.map_some, eq_comm, Option.map_eq_some_iff] at hlookup
    obtain ⟨first, hfirst, hhex⟩ := hlookup
    rw [← hhex, verifyingKeyFromHex_eq_ok] at hkey
    obtain ⟨rfl, hpoint⟩ := hkey
    exact ⟨hclean, key, hfirst, hpoint, mapError_eq_ok.mp hverify⟩
  · rintro ⟨hclean, key, hkey, hpoint, hverify⟩
    rw [hkey, Option.map_some, Option.map_eq_some_iff] at hlookup
    obtain ⟨signer, hfind, hhex⟩ := hlookup
    have hvalid := (Receipt.verifyEd25519WithKey_eq_ok.mp hverify).1
    refine ⟨(), checkEntryVersion_of_valid hr hvalid _ _, (), not_not.mpr rfl, (),
      not_not.mpr rfl, (), not_not.mpr hhash, (), hclean, signer, hfind, key, ?_, r, rfl,
      mapError_eq_ok.mpr hverify⟩
    rw [hhex]
    exact verifyingKeyFromHex_eq_ok.mpr ⟨rfl, hpoint⟩

theorem verifyEntries_chainRows_iff (hversion : b.supportedV1 = false)
    (halgorithm : b.chain.algorithmVersion = publicAuditChainAlgorithmVersion)
    (hkeys : b.signerKeys = sortedSignerKeys signerKeys) {receipts : List Receipt}
    {rows : List PublicAuditReceiptRow}
    (hrows : List.Forall₂ (fun r row => readRow r = .ok row) receipts rows)
    (chainIndex : ℕ) (previous : Option String)
    (hprevious : ∀ hash ∈ previous, ∃ bytes, hash = lowerHex bytes) :
    verifyEntries crates isPoint b chainIndex previous
      (chainRows crates chainIndex previous rows) = .ok () ↔
        ∀ r ∈ receipts, Passes crates isPoint signerKeys r := by
  induction hrows generalizing chainIndex previous with
  | nil => simp [chainRows, verifyEntries]
  | @cons r row receipts rows hr _ ih =>
    have hlink : ∀ hash ∈ some (chainedEntry crates chainIndex previous row).entryHashHex,
        ∃ bytes, hash = lowerHex bytes := by
      rintro hash ⟨⟩
      exact ⟨_, rfl⟩
    simp only [chainRows, verifyEntries, bind_eq_ok, List.forall_mem_cons]
    rw [← ih (chainIndex + 1) _ hlink,
      ← verifyEntry_chainedEntry_iff hversion halgorithm hkeys hr hprevious]
    constructor
    · rintro ⟨_, hentry, hrest⟩
      exact ⟨hentry, hrest⟩
    · intro h
      exact ⟨(), h⟩

theorem verify_bundleFromRows_iff {contextId : String} {exportedAt : UInt64}
    {receipts : List Receipt} {rows : List PublicAuditReceiptRow}
    (hrows : List.Forall₂ (fun r row => readRow r = .ok row) receipts rows)
    (h : publicAuditBundleFromRows crates contextId signerKeys exportedAt rows = .ok b) :
    b.verifyLocalPublicAudit crates isPoint = .ok () ↔
      ∀ r ∈ receipts, Passes crates isPoint signerKeys r := by
  simp only [publicAuditBundleFromRows, bind_eq_ok, elim_eq_ok] at h
  obtain ⟨-, -, -, -, -, -, first, hfirst, last, hlast, hb⟩ := h
  have hbundle := Except.ok.inj hb
  have hversion : b.supportedV1 = false := by
    have hne : publicAuditBundleVersion ≠ publicAuditBundleVersionV1 := by decide
    simp [← hbundle, PublicAuditBundle.supportedV1, hne]
  have hchain : verifyEntries crates isPoint b 0 none (chainRows crates 0 none rows) = .ok () ↔
      ∀ r ∈ receipts, Passes crates isPoint signerKeys r :=
    verifyEntries_chainRows_iff hversion (by rw [← hbundle])
      (by rw [← hbundle]) hrows 0 none (by simp)
  rw [verifyLocalPublicAudit_eq_ok, ← hchain]
  constructor
  · rintro ⟨-, -, -, ⟨-, -, -, -, hentries, -⟩, -⟩
    rwa [← hbundle] at hentries ⊢
  · intro hentries
    rw [← hbundle] at hentries ⊢
    exact ⟨.inr (by simp [PublicAuditBundle.supportedV2]), rfl, rfl,
      ⟨first, hfirst, last, hlast, hentries, rfl, rfl⟩, rfl⟩

end Chain

/-! ## Exports -/

section Exports

variable {crates : Crates} {isPoint : Bytes 32 → Bool} {w : Tables} {contextId : String}
  {signerKeys : List (String × Bytes 32)} {exportedAt : UInt64} {b : PublicAuditBundle}

/-- A bundle of all receipts of a context, or of those from one receipt to another. -/
def Exported (crates : Crates) (w : Tables) (contextId : String)
    (signerKeys : List (String × Bytes 32)) (exportedAt : UInt64) (b : PublicAuditBundle) : Prop :=
  exportPublicAuditBundleForContext crates w contextId signerKeys exportedAt = .ok b ∨
    ∃ first last, exportPublicAuditBundleForContextRange crates w contextId first last signerKeys
      exportedAt = .ok b

def exportedReceipts (w : Tables) (b : PublicAuditBundle) : List Receipt :=
  w.receipts.rows.filter fun r => r.receiptId ∈ b.receipts.map (·.receiptId)

theorem forall₂_of_mapM_eq_ok {α β ε : Type} {f : α → Except ε β} {xs : List α} {ys : List β}
    (h : xs.mapM f = .ok ys) : List.Forall₂ (fun x y => f x = .ok y) xs ys := by
  induction xs generalizing ys with
  | nil =>
    obtain rfl : ys = [] := by simpa [pure, Except.pure] using h.symm
    exact .nil
  | cons x xs ih =>
    rw [List.mapM_cons] at h
    obtain ⟨y, hy, h⟩ := bind_eq_ok.mp h
    obtain ⟨ys', hys, h⟩ := bind_eq_ok.mp h
    obtain rfl := Except.ok.inj h
    exact .cons hy (ih hys)

theorem contextReceipts_subset (w : Tables) (contextId : String) :
    contextReceipts w contextId ⊆ w.receipts.rows := fun _ hr =>
  List.mem_of_mem_filter ((List.mem_insertionSort _).mp hr)

theorem Exported.rows (h : Exported crates w contextId signerKeys exportedAt b) :
    ∃ receipts rows, receipts.Sublist (contextReceipts w contextId) ∧
      List.Forall₂ (fun r row => readRow r = .ok row) receipts rows ∧
        publicAuditBundleFromRows crates contextId signerKeys exportedAt rows = .ok b := by
  rcases h with h | ⟨first, last, h⟩
  · obtain ⟨rows, hrows, h⟩ := bind_eq_ok.mp h
    exact ⟨_, rows, .refl _, forall₂_of_mapM_eq_ok hrows, h⟩
  · obtain ⟨rows, hrows, h⟩ := bind_eq_ok.mp h
    obtain ⟨start, -, h⟩ := bind_eq_ok.mp h
    obtain ⟨stop, -, h⟩ := bind_eq_ok.mp h
    obtain ⟨-, -, h⟩ := bind_eq_ok.mp h
    exact ⟨((contextReceipts w contextId).drop start).take (stop + 1 - start), _,
      (List.take_sublist _ _).trans (List.drop_sublist _ _),
      List.forall₂_take _ (List.forall₂_drop _ (forall₂_of_mapM_eq_ok hrows)), h⟩

/-- A field that an entry takes from its receipt, down the chain. -/
theorem map_chainRows {β : Type} {field : PublicAuditReceiptEntry → β} {own : Receipt → β}
    (hfield : ∀ chainIndex previous r row, readRow r = .ok row →
      field (chainedEntry crates chainIndex previous row) = own r)
    {receipts : List Receipt} {rows : List PublicAuditReceiptRow}
    (hrows : List.Forall₂ (fun r row => readRow r = .ok row) receipts rows) (chainIndex : ℕ)
    (previous : Option String) :
    (chainRows crates chainIndex previous rows).map field = receipts.map own := by
  induction hrows generalizing chainIndex previous with
  | nil => rfl
  | cons hr _ ih => rw [chainRows, List.map_cons, List.map_cons, ih, hfield _ _ _ _ hr]

theorem bundleFromRows_eq {rows : List PublicAuditReceiptRow}
    (h : publicAuditBundleFromRows crates contextId signerKeys exportedAt rows = .ok b) :
    b.exportedAt = exportedAt ∧ b.version = publicAuditBundleVersion ∧
      b.chain.algorithmVersion = publicAuditChainAlgorithmVersion ∧
      b.chain.chainScope = s!"context:{contextId}" ∧ b.receipts = chainRows crates 0 none rows ∧
      b.chain.rootHashHex = publicAuditRootHash crates b.receipts := by
  simp only [publicAuditBundleFromRows, bind_eq_ok] at h
  obtain ⟨-, -, -, -, -, -, first, -, last, -, hb⟩ := h
  rw [← Except.ok.inj hb]
  exact ⟨rfl, rfl, rfl, rfl, rfl, rfl⟩

theorem receiptIds_of_bundleFromRows {receipts : List Receipt} {rows : List PublicAuditReceiptRow}
    (hrows : List.Forall₂ (fun r row => readRow r = .ok row) receipts rows)
    (h : publicAuditBundleFromRows crates contextId signerKeys exportedAt rows = .ok b) :
    b.receipts.map (·.receiptId) = receipts.map (·.receiptId) := by
  obtain ⟨-, -, -, -, hreceipts, -⟩ := bundleFromRows_eq h
  rw [hreceipts]
  refine map_chainRows (fun chainIndex previous r row hr => ?_) hrows 0 none
  obtain ⟨_, -, hrow⟩ := bind_eq_ok.mp hr
  rw [← Except.ok.inj hrow]
  rfl

theorem Exported.verify_iff (h : Exported crates w contextId signerKeys exportedAt b) :
    b.verifyLocalPublicAudit crates isPoint = .ok () ↔
      ∀ r ∈ exportedReceipts w b, Passes crates isPoint signerKeys r := by
  obtain ⟨receipts, rows, hsublist, hrows, hbundle⟩ := h.rows
  have hstored : receipts ⊆ w.receipts.rows :=
    List.Subset.trans hsublist.subset (contextReceipts_subset w contextId)
  have hids := receiptIds_of_bundleFromRows hrows hbundle
  have hmem (r : Receipt) : r ∈ exportedReceipts w b ↔ r ∈ receipts := by
    rw [exportedReceipts, hids, List.mem_filter, decide_eq_true_eq, List.mem_map]
    constructor
    · rintro ⟨hr, r', hr', hid⟩
      rwa [← w.receipts.eq_of_key_eq (hstored hr') hr hid]
    · intro hr
      exact ⟨hstored hr, r, hr, rfl⟩
  rw [verify_bundleFromRows_iff hrows hbundle]
  simp only [hmem]

end Exports

namespace Sample

def secret : Bytes 32 := .filled 32 7

/-- The receipt of a handler that gave this reason for its rejection. -/
def handlerReceipt (timestamp : UInt64) (reason : String) : Receipt where
  schemaVersion := 3
  receiptId := "execute-" ++ decimal timestamp.toNat ++ "-16-ctx"
  contextId := some "ctx"
  kind := .execute
  packetHash := .filled 32 1
  sessionId := .filled 16 2
  nonce := .filled 12 3
  opcode := 16
  operation := some "node.status"
  decision := .rejected
  reason := some reason
  handlerId := some "status"
  timestamp := timestamp
  authenticatorKind := .ed25519Node
  signerKeyId := "node"
  evidenceSummary := []
  outputProjection := none
  signature := []

variable (crates : Crates) (timestamp : UInt64) (reason : String)

def signedReceipt : Receipt :=
  { handlerReceipt timestamp reason with
    signature := (crates.sign secret (handlerReceipt timestamp reason).unsignedV3).val }

def signerKeys : List (String × Bytes 32) := [("node", crates.publicKey secret)]

theorem verify_signedReceipt : (signedReceipt crates timestamp reason).verifyEd25519WithKey crates
    (crates.publicKey secret) = .ok () := by
  rw [Receipt.verifyEd25519WithKey_eq_ok]
  exact ⟨rfl, _, rfl, .inl (crates.verify_sign secret _)⟩

/-- Two receipts of the context, in the order they were written. -/
def receipts : List Receipt :=
  [signedReceipt crates 100 reason, signedReceipt crates 101 "handler_timeout"]

def tables : Tables :=
  { Tables.empty with receipts := ⟨receipts crates reason, by
      have hne : "execute-" ++ decimal 100 ++ "-16-ctx" ≠
          "execute-" ++ decimal 101 ++ "-16-ctx" := by
        decide
      simpa [receipts, signedReceipt, handlerReceipt] using hne⟩ }

/-- The bundle that is exported at a time, if one is. -/
def exportAt (exportedAt : UInt64) : Option PublicAuditBundle :=
  (exportPublicAuditBundleForContext crates (tables crates reason) "ctx" (signerKeys crates)
    exportedAt).toOption

variable {crates reason} in
theorem exported {exportedAt : UInt64} {b : PublicAuditBundle}
    (h : b ∈ exportAt crates reason exportedAt) :
    Exported crates (tables crates reason) "ctx" (signerKeys crates) exportedAt b :=
  .inl (toOption_eq_some.mp h)

end Sample

/-- A clean export passes the verifier exactly if the first key supplied under each signer id is
the signer's and no text pairs a carriage return with the rest of a marker; and the root of an
accepted bundle determines its entries. -/
theorem public_audit_chain (crates : Crates) (isPoint : Bytes 32 → Bool) :
    (∀ (w : Tables) (contextId : String) (signerKeys : List (String × Bytes 32))
      (exportedAt : UInt64) (b : PublicAuditBundle),
      Exported crates w contextId signerKeys exportedAt b →
      (∀ r ∈ exportedReceipts w b, ¬ HoldsMarker forbiddenMarkers r) →
      (b.verifyLocalPublicAudit crates isPoint = .ok () ↔
        ∀ r ∈ exportedReceipts w b, ¬ HoldsMarker returnMarkers r ∧
          ∃ key ∈ firstKey signerKeys r.signerKeyId, isPoint key ∧
            r.verifyEd25519WithKey crates key = .ok ())) ∧
    ∀ b c : PublicAuditBundle, b.verifyLocalPublicAudit crates isPoint = .ok () →
      c.verifyLocalPublicAudit crates isPoint = .ok () →
      Set.InjOn crates.sha256 (b.messages ∪ c.messages) →
      b.chain.rootHashHex = c.chain.rootHashHex → b.receipts = c.receipts := by
  refine ⟨?_, fun b c hb hc hinj hroot => receipts_eq_of_rootHash_eq
    (hashed_of_verified hb) (hashed_of_verified hc) hinj hroot⟩
  intro w contextId signerKeys exportedAt b hexported hplain
  rw [hexported.verify_iff]
  refine forall₂_congr fun r hr => and_congr_left fun _ => ?_
  rw [holdsMarker_append, not_or]
  exact and_iff_right (hplain r hr)

namespace Sample

/-- The first reason is `raw_payload` with a carriage return for its first letter. -/
theorem carriage_return_is_redacted :
    ∃ b, Exported .transparent (tables .transparent "\raw_payload") "ctx" (signerKeys .transparent)
        200 b ∧
      (∀ r ∈ exportedReceipts (tables .transparent "\raw_payload") b,
        r.verifyEd25519WithKey .transparent (Crates.transparent.publicKey secret) = .ok () ∧
          ¬ HoldsMarker forbiddenMarkers r) ∧
      b.verifyLocalPublicAudit .transparent (fun _ => true) ≠ .ok () := by
  obtain ⟨b, hb, hreceipts⟩ : ∃ b ∈ exportAt .transparent "\raw_payload" 200, exportedReceipts
      (tables .transparent "\raw_payload") b = receipts .transparent "\raw_payload" := by
    decide +kernel
  refine ⟨b, exported hb, ?_, ?_⟩
  · intro r hr
    rw [hreceipts] at hr
    rcases List.mem_pair.mp hr with rfl | rfl
    · exact ⟨verify_signedReceipt .transparent _ _,
        show ¬ HoldsMarker forbiddenMarkers (handlerReceipt 100 "\raw_payload") by decide⟩
    · exact ⟨verify_signedReceipt .transparent _ _,
        show ¬ HoldsMarker forbiddenMarkers (handlerReceipt 101 "handler_timeout") by decide⟩
  · intro hverify
    have hpasses := (exported hb).verify_iff.mp hverify
      (signedReceipt .transparent 100 "\raw_payload")
      (by rw [hreceipts]; exact List.mem_cons_self)
    exact hpasses.1 (show HoldsMarker _ (handlerReceipt 100 "\raw_payload") by decide)

/-- Digests of two bytes of the message: the first tells the text of a root from that of an entry,
the second is where an entry has its index. -/
def digests : Crates :=
  { Crates.transparent with
    sha256 := fun message => ⟨List.replicate 16 (message[18]?.getD 0) ++
      List.replicate 16 (message[46]?.getD 0), by simp⟩ }

theorem digests_exported : ∃ b ∈ exportAt digests "handler_failed" 200,
    exportedReceipts (tables digests "handler_failed") b = receipts digests "handler_failed" ∧
      (rootPreimage b.receipts b.version b.chain.algorithmVersion)[18]? = some 98 ∧
      b.receipts.map (fun e => ((entryPreimage e b.chain.algorithmVersion)[18]?,
        (entryPreimage e b.chain.algorithmVersion)[46]?)) =
          [(some 101, some 48), (some 101, some 49)] := by
  decide +kernel

theorem injOn_messages {b : PublicAuditBundle} (hb : b ∈ exportAt digests "handler_failed" 200) :
    Set.InjOn digests.sha256 b.messages := by
  obtain ⟨b', hb', -, hroot, hentries⟩ := digests_exported
  cases hb.symm.trans hb'
  obtain ⟨first, rest, hreceipts, hfirst, hrest⟩ := List.map_eq_cons_iff.mp hentries
  obtain ⟨second, rest, rfl, hsecond, hnil⟩ := List.map_eq_cons_iff.mp hrest
  obtain rfl := List.map_eq_nil_iff.mp hnil
  intro m hm m' hm' heq
  have hbytes : m[18]?.getD 0 = m'[18]?.getD 0 ∧ m[46]?.getD 0 = m'[46]?.getD 0 := by
    have hdigest := congrArg Subtype.val heq
    exact ⟨Option.some.inj (congrArg (·[0]?) hdigest), Option.some.inj (congrArg (·[16]?) hdigest)⟩
  simp only [Prod.mk.injEq] at hfirst hsecond
  simp only [PublicAuditBundle.messages, hreceipts, Set.mem_insert_iff, Set.mem_ofPred_eq,
    List.mem_cons, List.not_mem_nil, or_false, exists_eq_or_imp, exists_eq_left] at hm hm' hroot
  rcases hm with rfl | rfl | rfl <;> rcases hm' with rfl | rfl | rfl <;>
    simp [hroot, hfirst, hsecond] at hbytes ⊢

theorem receipts_pass {r : Receipt} (hr : r ∈ receipts digests "handler_failed") :
    Passes digests (fun _ => true) (signerKeys digests) r := by
  rcases List.mem_pair.mp hr with rfl | rfl
  · exact ⟨show ¬ HoldsMarker _ (handlerReceipt 100 "handler_failed") by decide, _, rfl, rfl,
      verify_signedReceipt digests _ _⟩
  · exact ⟨show ¬ HoldsMarker _ (handlerReceipt 101 "handler_timeout") by decide, _, rfl, rfl,
      verify_signedReceipt digests _ _⟩

theorem plain_reason_verifies :
    ∃ b, Exported digests (tables digests "handler_failed") "ctx" (signerKeys digests) 200 b ∧
      b.verifyLocalPublicAudit digests (fun _ => true) = .ok () ∧
      Set.InjOn digests.sha256 b.messages ∧
      ∀ c : PublicAuditBundle, c.verifyLocalPublicAudit digests (fun _ => true) = .ok () →
        c.messages = b.messages → b.chain.rootHashHex = c.chain.rootHashHex →
          b.receipts = c.receipts := by
  obtain ⟨b, hb, hreceipts, -⟩ := digests_exported
  have hpass : ∀ r ∈ exportedReceipts (tables digests "handler_failed") b,
      Passes digests (fun _ => true) (signerKeys digests) r := hreceipts ▸ fun r => receipts_pass
  simp only [Passes, holdsMarker_append, not_or, and_assoc] at hpass
  have hverify := ((public_audit_chain digests fun _ => true).1 _ _ _ _ b (exported hb)
    fun r hr => (hpass r hr).1).mpr fun r hr => by simpa using (hpass r hr).2
  have hinj := injOn_messages hb
  refine ⟨b, exported hb, hverify, hinj, fun c hc hmessages hroot => ?_⟩
  refine (public_audit_chain digests fun _ => true).2 b c hverify hc ?_ hroot
  rwa [hmessages, Set.union_self]

end Sample

end PublicAudit
