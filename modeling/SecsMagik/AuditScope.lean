import SecsMagik.AuditExport

/-! # What the scope of a bundle says

The ledger exports the receipts of one context, each of them once. The verifier checks hashes, links
and signatures; that the receipts belong to the context the scope names, and that none is repeated,
it takes from the root.
-/
namespace PublicAudit

open RustStd
open ExternalCrates (Crates)
open Receipts Ledger

def contextScope (contextId : String) : String := s!"context:{contextId}"

section

variable {crates : Crates} {isPoint : Bytes 32 → Bool} {w : Tables} {contextId : String}
  {signerKeys : List (String × Bytes 32)} {exportedAt : UInt64} {b : PublicAuditBundle}

/-- The ids of a context's receipts are distinct, since the ledger stores no id twice. -/
theorem contextReceipts_nodup (w : Tables) (contextId : String) :
    ((contextReceipts w contextId).map (·.receiptId)).Nodup := by
  have hstored : (w.receipts.rows.map (·.receiptId)).Nodup := w.receipts.unique
  have hfiltered := hstored.sublist ((List.filter_sublist (p := fun r =>
    decide (r.contextId = some contextId))).map _)
  exact ((List.perm_insertionSort auditOrder _).map _).nodup_iff.mpr hfiltered

theorem contextIds_of_bundleFromRows {receipts : List Receipt} {rows : List PublicAuditReceiptRow}
    (hrows : List.Forall₂ (fun r row => readRow r = .ok row) receipts rows)
    (h : publicAuditBundleFromRows crates contextId signerKeys exportedAt rows = .ok b) :
    b.receipts.map (·.contextId) = receipts.map (·.contextId) := by
  obtain ⟨-, -, -, -, hreceipts, -⟩ := bundleFromRows_eq h
  rw [hreceipts]
  refine map_chainRows (fun chainIndex previous r row hr => ?_) hrows 0 none
  obtain ⟨_, -, hrow⟩ := bind_eq_ok.mp hr
  rw [← Except.ok.inj hrow]
  rfl

theorem entryHash_chainRows {rows : List PublicAuditReceiptRow} (chainIndex : ℕ)
    (previous : Option String) : ∀ e ∈ chainRows crates chainIndex previous rows,
      e.entryHashHex = publicAuditEntryHashFor crates e publicAuditChainAlgorithmVersion := by
  induction rows generalizing chainIndex previous with
  | nil => exact List.forall_mem_nil _
  | cons row rows ih =>
    intro e he
    rcases List.mem_cons.mp he with rfl | he
    · rfl
    · exact ih _ _ e he

/-- An export hashes what it lists, and lists receipts of its context, each of them once. -/
theorem Exported.scoped (h : Exported crates w contextId signerKeys exportedAt b) :
    b.Hashed crates ∧ b.chain.chainScope = contextScope contextId ∧
      (∀ e ∈ b.receipts, e.contextId = some contextId) ∧
      (b.receipts.map (·.receiptId)).Nodup := by
  obtain ⟨receipts, rows, hsublist, hrows, hbundle⟩ := h.rows
  have hids := receiptIds_of_bundleFromRows hrows hbundle
  have hcontexts := contextIds_of_bundleFromRows hrows hbundle
  obtain ⟨-, hversion, halgorithm, hscope, hreceipts, hroot⟩ := bundleFromRows_eq hbundle
  refine ⟨⟨.inr (by simp [PublicAuditBundle.supportedV2, hversion, halgorithm]), ?_, ?_⟩, hscope,
    ?_, ?_⟩
  · rw [hreceipts, halgorithm]
    exact entryHash_chainRows 0 none
  · rw [hroot, hversion, halgorithm]
    rfl
  · intro e he
    have hmem := List.mem_map_of_mem (f := (·.contextId)) he
    rw [hcontexts] at hmem
    obtain ⟨r, hr, hcontext⟩ := List.mem_map.mp hmem
    have hfiltered := (List.mem_insertionSort _).mp (hsublist.subset hr)
    rw [← hcontext]
    exact of_decide_eq_true (List.mem_filter.mp hfiltered).2
  · rw [hids]
    exact (contextReceipts_nodup w contextId).sublist (hsublist.map _)

end

/-- A bundle that verifies under the scope and the root of an export lists receipts of the context
that its scope names, each of them once, whoever built it. -/
theorem exported_root_scopes_receipts (crates : Crates) (isPoint : Bytes 32 → Bool) (w : Tables)
    (contextId : String) (signerKeys : List (String × Bytes 32)) (exportedAt : UInt64)
    (exported b : PublicAuditBundle)
    (hexported : Exported crates w contextId signerKeys exportedAt exported)
    (hverified : b.verifyLocalPublicAudit crates isPoint = .ok ())
    (hscope : b.chain.chainScope = exported.chain.chainScope)
    (hroot : b.chain.rootHashHex = exported.chain.rootHashHex)
    (hinj : Set.InjOn crates.sha256 (b.messages ∪ exported.messages)) :
    b.chain.chainScope = contextScope contextId ∧
      (∀ e ∈ b.receipts, e.contextId = some contextId) ∧ (b.receipts.map (·.receiptId)).Nodup := by
  obtain ⟨hhashed, hnamed, hcontexts, hids⟩ := hexported.scoped
  have hreceipts := receipts_eq_of_rootHash_eq (hashed_of_verified hverified) hhashed hinj hroot
  rw [hreceipts]
  exact ⟨hscope.trans hnamed, hcontexts, hids⟩

namespace Sample

/-- Someone lists one receipt twice, under the scope of a context it does not belong to, and the
bundle verifies. -/
theorem repeated_receipt_verifies :
    ∃ b : PublicAuditBundle, b.verifyLocalPublicAudit .transparent (fun _ => true) = .ok () ∧
      b.chain.chainScope = contextScope "other" ∧
      (∀ e ∈ b.receipts, e.contextId = some "ctx") ∧
      b.receipts.map (·.receiptId) = ["execute-100-16-ctx", "execute-100-16-ctx"] := by
  have hbundle : ∃ b ∈ (readRow (signedReceipt .transparent 100 "failed") >>= fun row =>
        publicAuditBundleFromRows .transparent "other" (signerKeys .transparent) 200
          [row, row]).toOption,
      b.chain.chainScope = contextScope "other" ∧ (∀ e ∈ b.receipts, e.contextId = some "ctx") ∧
        b.receipts.map (·.receiptId) = ["execute-100-16-ctx", "execute-100-16-ctx"] := by
    decide +kernel
  obtain ⟨b, hb, hlisted⟩ := hbundle
  obtain ⟨row, hrow, hb⟩ := bind_eq_ok.mp (toOption_eq_some.mp hb)
  refine ⟨b, (verify_bundleFromRows_iff (.cons hrow (.cons hrow .nil)) hb).mpr ?_, hlisted⟩
  intro r hr
  obtain rfl : r = signedReceipt .transparent 100 "failed" := by simpa using hr
  exact ⟨show ¬ HoldsMarker _ (handlerReceipt 100 "failed") by decide, _, rfl, rfl,
    verify_signedReceipt .transparent 100 "failed"⟩

/-- Someone exports two receipts again at a later time and passes the bundle on. -/
theorem export_is_scoped :
    ∃ exported b, Exported digests (tables digests "handler_failed") "ctx" (signerKeys digests) 200
        exported ∧ b ≠ exported ∧ b.verifyLocalPublicAudit digests (fun _ => true) = .ok () ∧
      b.receipts.length = 2 ∧ b.chain.chainScope = contextScope "ctx" ∧
      (∀ e ∈ b.receipts, e.contextId = some "ctx") ∧ (b.receipts.map (·.receiptId)).Nodup := by
  obtain ⟨first, hfirst, -⟩ := digests_exported
  obtain ⟨b, hb, hreceipts, hlength⟩ : ∃ b ∈ exportAt digests "handler_failed" 300,
      exportedReceipts (tables digests "handler_failed") b = receipts digests "handler_failed" ∧
        b.receipts.length = 2 := by decide +kernel
  have hverify : b.verifyLocalPublicAudit digests (fun _ => true) = .ok () :=
    (exported hb).verify_iff.mpr (hreceipts ▸ fun r => receipts_pass)
  obtain ⟨rows, hread, hrows⟩ := bind_eq_ok.mp (toOption_eq_some.mp hfirst)
  obtain ⟨rows', hread', hlater⟩ := bind_eq_ok.mp (toOption_eq_some.mp hb)
  cases hread.symm.trans hread'
  obtain ⟨hstamp, hversion, halgorithm, hscope, hentries, hroot⟩ := bundleFromRows_eq hrows
  obtain ⟨hstamp', hversion', halgorithm', hscope', hentries', hroot'⟩ := bundleFromRows_eq hlater
  have hsame : b.receipts = first.receipts := hentries'.trans hentries.symm
  have hmessages : b.messages = first.messages := by
    rw [PublicAuditBundle.messages, PublicAuditBundle.messages, hsame, hversion, hversion',
      halgorithm, halgorithm']
  have hinj : Set.InjOn digests.sha256 (b.messages ∪ first.messages) := by
    rw [hmessages, Set.union_self]
    exact injOn_messages hfirst
  refine ⟨first, b, exported hfirst, ?_, hverify, hlength, exported_root_scopes_receipts digests
    (fun _ => true) _ _ _ _ first b (exported hfirst) hverify (hscope'.trans hscope.symm) ?_ hinj⟩
  · intro heq
    rw [heq, hstamp] at hstamp'
    exact absurd hstamp' (by decide)
  · rw [hroot, hroot', hsame]

end Sample

end PublicAudit
