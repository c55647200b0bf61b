import SecsMagik.Receipts
import SecsMagik.WireCodec

/-! # Which receipts one signature can stand for

Four byte layouts are signed with the same key and without a domain tag. Three of them start with
their own version number and are told apart by it; the layout from before the version number is
tried for version-one receipts that fill none of the later fields, and its bytes can spell a
receipt of a later layout.
-/
namespace Receipts

open RustStd Bincode WireCodec
open ExternalCrates (Crates)
open CallContext

namespace Receipt

/-- `bincode::serialize(&legacy_receipt_unsigned(receipt))` -/
def legacyUnsigned (r : Receipt) : List UInt8 := str r.receiptId ++ r.bodyBytes ++ bytes []

def legacyFallbackEligible (r : Receipt) : Bool :=
  r.schemaVersion = 1 ∧ r.contextId = none ∧ r.evidenceSummary = [] ∧ r.outputProjection = none

/-- `verifying_key.verify(message, signature)` -/
def checkSignature (crates : Crates) (key : Bytes 32) (message : List UInt8)
    (signature : Bytes 64) : Except VerificationError Unit :=
  if crates.verify key message signature then .ok () else .error .invalidSignature

def verifyEd25519WithKey (crates : Crates) (r : Receipt) (key : Bytes 32) :
    Except VerificationError Unit := do
  r.validateOutputProjection
  let signature ← (Bytes.ofSlice? 64 r.signature).elim (.error .invalidSignature) .ok
  if r.schemaVersion = 1 then
    if crates.verify key r.unsignedV1 signature then .ok ()
    else if r.legacyFallbackEligible = false then .error .invalidSignature
    else checkSignature crates key r.legacyUnsigned signature
  else do
    let bytes ← r.signedPayloadBytes
    checkSignature crates key bytes signature

/-! ## What a receipt's bytes determine -/

/-- A `String` or `Vec` holds fewer elements than a `usize` can count. -/
structure Sized (r : Receipt) : Prop where
  receiptId : byteLen r.receiptId < 256 ^ 8
  contextId : ∀ id ∈ r.contextId, byteLen id < 256 ^ 8
  operation : ∀ text ∈ r.operation, byteLen text < 256 ^ 8
  reason : ∀ text ∈ r.reason, byteLen text < 256 ^ 8
  handlerId : ∀ id ∈ r.handlerId, byteLen id < 256 ^ 8
  signerKeyId : byteLen r.signerKeyId < 256 ^ 8
  evidenceSummary : r.evidenceSummary.length < 256 ^ 8 ∧
    ∀ item ∈ r.evidenceSummary, byteLen item < 256 ^ 8
  outputProjection : ∀ p ∈ r.outputProjection, byteLen p.schemaId < 256 ^ 8

theorem spells_variant {α : Type} (index : α → ℕ) (hindex : ∀ a, index a < 256 ^ 4)
    (hinj : Function.Injective index) :
    Spells (fun a => variant (index a)) (fun a => a) (fun _ => True) :=
  ((spells_leBytes 4).field index fun a _ => hindex a).of_injective hinj

theorem kindIndex_injective : Function.Injective ReceiptKind.index := by
  intro a b h
  cases a <;> cases b <;> first | rfl | cases h

theorem decisionIndex_injective : Function.Injective Decision.index := by
  intro a b h
  cases a <;> cases b <;> first | rfl | cases h

theorem authenticatorIndex_injective : Function.Injective AuthenticatorKind.index := by
  intro a b h
  cases a <;> cases b <;> first | rfl | cases h

/-- The part of a receipt that every layout signs, from the kind on. -/
def bodyView (r : Receipt) :=
  ((((((((((((r.kind, r.packetHash), r.sessionId), r.nonce), r.opcode), r.operation), r.decision),
    r.reason), r.handlerId), r.timestamp), r.authenticatorKind), r.signerKeyId))

theorem spells_bodyBytes : Spells bodyBytes bodyView Sized := by
  have hkind := (spells_variant ReceiptKind.index (by intro a; cases a <;> decide)
    kindIndex_injective).field kind fun r (_ : Sized r) => trivial
  have hdecision := (spells_variant Decision.index (by intro a; cases a <;> decide)
    decisionIndex_injective).field decision fun r (_ : Sized r) => trivial
  have hauthenticator := (spells_variant AuthenticatorKind.index (by intro a; cases a <;> decide)
    authenticatorIndex_injective).field authenticatorKind fun r (_ : Sized r) => trivial
  have hhash := (spells_bytes 32 fun _ => True).field packetHash fun r (_ : Sized r) => trivial
  have hsession := (spells_bytes 16 fun _ => True).field sessionId fun r (_ : Sized r) => trivial
  have hnonce := (spells_bytes 12 fun _ => True).field nonce fun r (_ : Sized r) => trivial
  have hopcode := spells_singleton.field opcode fun r (_ : Sized r) => trivial
  have hoperation := spells_optStr.field operation fun r (h : Sized r) => h.operation
  have hreason := spells_optStr.field reason fun r (h : Sized r) => h.reason
  have hhandler := spells_optStr.field handlerId fun r (h : Sized r) => h.handlerId
  have htimestamp := spells_u64.field timestamp fun r (_ : Sized r) => trivial
  have hsigner := spells_str.field signerKeyId fun r (h : Sized r) => h.signerKeyId
  exact ((((((((((hkind.append hhash).append hsession).append hnonce).append hopcode).append
    hoperation).append hdecision).append hreason).append hhandler).append htimestamp).append
    hauthenticator).append hsigner

theorem spells_headBytes :
    Spells headBytes (fun r => ((r.schemaVersion, r.receiptId), r.contextId)) Sized := by
  have hversion := spells_u16.field schemaVersion fun r (_ : Sized r) => trivial
  have hreceipt := spells_str.field receiptId fun r (h : Sized r) => h.receiptId
  have hcontext := spells_optStr.field contextId fun r (h : Sized r) => h.contextId
  exact (hversion.append hreceipt).append hcontext

theorem spells_projectionBytes :
    Spells projectionBytes (fun p => p) (fun p => byteLen p.schemaId < 256 ^ 8) := by
  have hschema := spells_str.field ReceiptOutputProjection.schemaId
    fun p (h : byteLen p.schemaId < 256 ^ 8) => h
  have hcount := spells_u64.field ReceiptOutputProjection.byteCount
    fun p (_ : byteLen p.schemaId < 256 ^ 8) => trivial
  have hdigest := (spells_bytes 32 fun _ => True).field ReceiptOutputProjection.digestSha256
    fun p (_ : byteLen p.schemaId < 256 ^ 8) => trivial
  intro p q r s hp hq heq
  obtain ⟨hview, hrest⟩ := ((hschema.append hcount).append hdigest) p q r s hp hq heq
  cases p
  cases q
  simp only [Prod.mk.injEq] at hview
  exact ⟨by rw [hview.1.1, hview.1.2, hview.2], hrest⟩

/-- The layout that goes with the receipt's own version. -/
def payload (r : Receipt) : List UInt8 :=
  if r.schemaVersion = 1 then r.unsignedV1
  else if r.schemaVersion = 2 then r.unsignedV2
  else r.unsignedV3

/-- What the validation leaves open to the fields that a layout does not sign. -/
theorem validateOutputProjection_eq_ok {r : Receipt}
    (h : r.validateOutputProjection = .ok ()) :
    (r.schemaVersion = 1 ∧ r.evidenceSummary = [] ∧ r.outputProjection = none) ∨
      (r.schemaVersion = 2 ∧ r.outputProjection = none) ∨ r.schemaVersion = 3 := by
  unfold validateOutputProjection at h
  split at h
  · cases h
  next hone =>
  split at h
  · cases h
  next htwo =>
  split at h
  · cases h
  next hversion =>
  by_cases h₁ : r.schemaVersion = 1
  · have hnone : ¬ (r.evidenceSummary ≠ [] ∨ r.outputProjection.isSome) :=
      fun hsome => hone ⟨h₁, hsome⟩
    rw [not_or, not_not, Option.not_isSome_iff_eq_none] at hnone
    exact .inl ⟨h₁, hnone⟩
  by_cases h₂ : r.schemaVersion = 2
  · have hnone : ¬ r.outputProjection.isSome := fun hsome => htwo ⟨h₂, hsome⟩
    exact .inr (.inl ⟨h₂, Option.not_isSome_iff_eq_none.mp hnone⟩)
  · by_contra hne
    rw [not_or, not_or] at hne
    exact hversion ⟨h₁, h₂, hne.2.2⟩

theorem signedPayloadBytes_of_valid {r : Receipt} (h : r.validateOutputProjection = .ok ()) :
    r.signedPayloadBytes = .ok r.payload := by
  unfold signedPayloadBytes payload
  refine bind_eq_ok.mpr ⟨(), h, ?_⟩
  rcases validateOutputProjection_eq_ok h with ⟨h₁, -, -⟩ | ⟨h₂, hnone⟩ | h₃
  · simp [h₁]
  · simp [h₂, hnone]
  · simp [h₃]

theorem checkSignature_eq_ok {crates : Crates} {key : Bytes 32} {message : List UInt8}
    {signature : Bytes 64} :
    checkSignature crates key message signature = .ok () ↔
      crates.verify key message signature := by
  unfold checkSignature
  split
  · next h => exact iff_of_true rfl h
  · next h => exact iff_of_false nofun h

/-- Acceptance means that one of the receipt's messages carries the signature. -/
theorem verifyEd25519WithKey_eq_ok {crates : Crates} {r : Receipt} {key : Bytes 32} :
    r.verifyEd25519WithKey crates key = .ok () ↔ r.validateOutputProjection = .ok () ∧
      ∃ signature : Bytes 64, signature.val = r.signature ∧
        (crates.verify key r.payload signature ∨
          (r.legacyFallbackEligible ∧ crates.verify key r.legacyUnsigned signature)) := by
  have hslice (signature : Bytes 64) : (Bytes.ofSlice? 64 r.signature).elim
      (.error .invalidSignature) .ok = (.ok signature : Except VerificationError _) ↔
        signature.val = r.signature := by
    unfold Bytes.ofSlice?
    split
    · next h => simp [Subtype.ext_iff, eq_comm]
    · next h =>
      refine iff_of_false nofun ?_
      rintro heq
      exact h (heq ▸ signature.property)
  unfold verifyEd25519WithKey
  rw [bind_eq_ok]
  simp only [bind_eq_ok, hslice]
  constructor
  · rintro ⟨⟨⟩, hvalid, signature, hsignature, h⟩
    refine ⟨hvalid, signature, hsignature, ?_⟩
    by_cases h₁ : r.schemaVersion = 1
    · rw [if_pos h₁] at h
      rw [payload, if_pos h₁]
      by_cases hv1 : crates.verify key r.unsignedV1 signature
      · exact .inl hv1
      rw [if_neg hv1] at h
      by_cases hlegacy : r.legacyFallbackEligible = false
      · rw [if_pos hlegacy] at h
        cases h
      rw [if_neg hlegacy] at h
      exact .inr ⟨Bool.not_eq_false _ ▸ hlegacy, checkSignature_eq_ok.mp h⟩
    · rw [if_neg h₁, signedPayloadBytes_of_valid hvalid] at h
      exact .inl (checkSignature_eq_ok.mp h)
  · rintro ⟨hvalid, signature, hsignature, hmessage⟩
    refine ⟨(), hvalid, signature, hsignature, ?_⟩
    by_cases h₁ : r.schemaVersion = 1
    · rw [if_pos h₁]
      rw [payload, if_pos h₁] at hmessage
      by_cases hv1 : crates.verify key r.unsignedV1 signature
      · rw [if_pos hv1]
      · obtain ⟨hlegacy, hverify⟩ := hmessage.resolve_left hv1
        rw [if_neg hv1, if_neg (by simp [hlegacy])]
        exact checkSignature_eq_ok.mpr hverify
    · have hpayload : crates.verify key r.payload signature := by
        refine hmessage.resolve_right fun hlegacy => h₁ ?_
        have := hlegacy.1
        simp only [legacyFallbackEligible, decide_eq_true_eq] at this
        exact this.1
      rw [if_neg h₁, signedPayloadBytes_of_valid hvalid]
      exact checkSignature_eq_ok.mpr hpayload

/-! ## Layouts against each other -/

/-- Two receipts that agree on what a layout signs, up to the signature itself. -/
theorem eq_of_views {r r' : Receipt}
    (hhead : ((r.schemaVersion, r.receiptId), r.contextId) =
      ((r'.schemaVersion, r'.receiptId), r'.contextId))
    (hbody : r.bodyView = r'.bodyView) (hsummary : r.evidenceSummary = r'.evidenceSummary)
    (hprojection : r.outputProjection = r'.outputProjection)
    (hsignature : r.signature = r'.signature) : r = r' := by
  simp only [bodyView, Prod.mk.injEq] at hhead hbody
  cases r
  cases r'
  simp_all

theorem spells_unsignedV1 : Spells unsignedV1
    (fun r => ((((r.schemaVersion, r.receiptId), r.contextId), r.bodyView), ())) Sized :=
  (spells_headBytes.append spells_bodyBytes).append (spells_const _)

theorem spells_unsignedV2 : Spells unsignedV2
    (fun r => (((((r.schemaVersion, r.receiptId), r.contextId), r.bodyView), r.evidenceSummary),
      ())) Sized := by
  have hsummary := spells_vecStr.field evidenceSummary fun r (h : Sized r) => h.evidenceSummary
  exact ((spells_headBytes.append spells_bodyBytes).append hsummary).append (spells_const _)

theorem spells_unsignedV3 : Spells unsignedV3
    (fun r => ((((((r.schemaVersion, r.receiptId), r.contextId), r.bodyView), r.evidenceSummary),
      r.outputProjection), ())) Sized := by
  have hsummary := spells_vecStr.field evidenceSummary fun r (h : Sized r) => h.evidenceSummary
  have hprojections : Spells (opt projectionBytes) (fun o => o)
      (fun o => ∀ p ∈ o, byteLen p.schemaId < 256 ^ 8) :=
    (spells_opt spells_projectionBytes).congr fun _ => Option.map_id_apply
  have hprojection := hprojections.field outputProjection fun r (h : Sized r) => h.outputProjection
  exact (((spells_headBytes.append spells_bodyBytes).append hsummary).append hprojection).append
    (spells_const _)

theorem spells_legacyUnsigned :
    Spells legacyUnsigned (fun r => ((r.receiptId, r.bodyView), ())) Sized := by
  have hreceipt := spells_str.field receiptId fun r (h : Sized r) => h.receiptId
  exact (hreceipt.append spells_bodyBytes).append (spells_const _)

theorem payload_eq_version_append (r : Receipt) :
    ∃ rest, r.payload = u16 r.schemaVersion ++ (str r.receiptId ++ rest) := by
  unfold payload unsignedV1 unsignedV2 unsignedV3 headBytes
  split_ifs <;> exact ⟨_, by simp only [List.append_assoc]; rfl⟩

theorem schemaVersion_of_payload_eq {r r' : Receipt} (h : r.payload = r'.payload) :
    r.schemaVersion = r'.schemaVersion := by
  obtain ⟨rest, hrest⟩ := payload_eq_version_append r
  obtain ⟨rest', hrest'⟩ := payload_eq_version_append r'
  rw [hrest, hrest'] at h
  exact (spells_u16 _ _ _ _ trivial trivial h).1

theorem unsigned_of_version_one {r : Receipt} (h : r.validateOutputProjection = .ok ())
    (hversion : r.schemaVersion = 1) : r.evidenceSummary = [] ∧ r.outputProjection = none := by
  rcases validateOutputProjection_eq_ok h with h₁ | ⟨h₂, -⟩ | h₃
  · exact h₁.2
  · rw [hversion] at h₂; cases h₂
  · rw [hversion] at h₃; cases h₃

theorem unsigned_of_version_two {r : Receipt} (h : r.validateOutputProjection = .ok ())
    (hversion : r.schemaVersion = 2) : r.outputProjection = none := by
  rcases validateOutputProjection_eq_ok h with ⟨h₁, -⟩ | ⟨-, h₂⟩ | h₃
  · rw [hversion] at h₁; cases h₁
  · exact h₂
  · rw [hversion] at h₃; cases h₃

theorem eq_of_payload_eq {r r' : Receipt} (hsized : Sized r) (hsized' : Sized r')
    (hvalid : r.validateOutputProjection = .ok ()) (hvalid' : r'.validateOutputProjection = .ok ())
    (hsignature : r.signature = r'.signature) (h : r.payload = r'.payload) : r = r' := by
  have hversion := schemaVersion_of_payload_eq h
  unfold payload at h
  rw [← hversion] at h
  by_cases h₁ : r.schemaVersion = 1
  · obtain ⟨hsummary, hnone⟩ := unsigned_of_version_one hvalid h₁
    obtain ⟨hsummary', hnone'⟩ := unsigned_of_version_one hvalid' (hversion ▸ h₁)
    rw [if_pos h₁, if_pos h₁] at h
    have hviews := spells_unsignedV1.inj hsized hsized' h
    obtain ⟨hhead, hbody⟩ := Prod.mk.inj (Prod.mk.inj hviews).1
    exact eq_of_views hhead hbody (hsummary.trans hsummary'.symm) (hnone.trans hnone'.symm)
      hsignature
  by_cases h₂ : r.schemaVersion = 2
  · have hnone := unsigned_of_version_two hvalid h₂
    have hnone' := unsigned_of_version_two hvalid' (hversion ▸ h₂)
    rw [if_neg h₁, if_neg h₁, if_pos h₂, if_pos h₂] at h
    have hviews := spells_unsignedV2.inj hsized hsized' h
    obtain ⟨hheadBody, hsummary⟩ := Prod.mk.inj (Prod.mk.inj hviews).1
    obtain ⟨hhead, hbody⟩ := Prod.mk.inj hheadBody
    exact eq_of_views hhead hbody hsummary (hnone.trans hnone'.symm) hsignature
  · rw [if_neg h₁, if_neg h₁, if_neg h₂, if_neg h₂] at h
    have hviews := spells_unsignedV3.inj hsized hsized' h
    obtain ⟨hrest, hprojection⟩ := Prod.mk.inj (Prod.mk.inj hviews).1
    obtain ⟨hheadBody, hsummary⟩ := Prod.mk.inj hrest
    obtain ⟨hhead, hbody⟩ := Prod.mk.inj hheadBody
    exact eq_of_views hhead hbody hsummary hprojection hsignature

theorem legacyFallbackEligible_iff {r : Receipt} : r.legacyFallbackEligible ↔
    r.schemaVersion = 1 ∧ r.contextId = none ∧ r.evidenceSummary = [] ∧
      r.outputProjection = none := by
  simp [legacyFallbackEligible]

theorem eq_of_legacyUnsigned_eq {r r' : Receipt} (hsized : Sized r) (hsized' : Sized r')
    (heligible : r.legacyFallbackEligible) (heligible' : r'.legacyFallbackEligible)
    (hsignature : r.signature = r'.signature) (h : r.legacyUnsigned = r'.legacyUnsigned) :
    r = r' := by
  obtain ⟨hversion, hcontext, hsummary, hnone⟩ := legacyFallbackEligible_iff.mp heligible
  obtain ⟨hversion', hcontext', hsummary', hnone'⟩ := legacyFallbackEligible_iff.mp heligible'
  have hviews := spells_legacyUnsigned.inj hsized hsized' h
  obtain ⟨hreceipt, hbody⟩ := Prod.mk.inj (Prod.mk.inj hviews).1
  refine eq_of_views ?_ hbody (hsummary.trans hsummary'.symm) (hnone.trans hnone'.symm) hsignature
  rw [hversion, hversion', hcontext, hcontext', hreceipt]

/-- The legacy bytes of one receipt spell another receipt in the layout of its version. -/
def LayoutsMeet (r r' : Receipt) : Prop := r.legacyFallbackEligible ∧ r.legacyUnsigned = r'.payload

instance (r r' : Receipt) : Decidable (LayoutsMeet r r') := inferInstanceAs (Decidable (_ ∧ _))

/-- The version and the absent context make the versioned bytes longer by three. -/
theorem not_layoutsMeet_self (r : Receipt) : ¬ LayoutsMeet r r := by
  rintro ⟨heligible, h⟩
  obtain ⟨hversion, hcontext, -, -⟩ := legacyFallbackEligible_iff.mp heligible
  have hlen := congrArg List.length h
  rw [payload, if_pos hversion] at hlen
  simp only [legacyUnsigned, unsignedV1, headBytes, hcontext, List.length_append, u16, opt,
    length_leBytes, List.length_singleton] at hlen
  omega

/-- Two receipts that one signature verifies are the same exactly when neither spells the other
across the legacy layout. -/
theorem signature_binds_receipt_iff (crates : Crates) (key : Bytes 32) (r r' : Receipt)
    (hsized : Sized r) (hsized' : Sized r') (hsignature : r.signature = r'.signature)
    (hunique : ∀ signature : Bytes 64, signature.val = r.signature →
      ∀ m m', crates.verify key m signature → crates.verify key m' signature → m = m')
    (h : r.verifyEd25519WithKey crates key = .ok ())
    (h' : r'.verifyEd25519WithKey crates key = .ok ()) :
    r = r' ↔ ¬ LayoutsMeet r r' ∧ ¬ LayoutsMeet r' r := by
  constructor
  · rintro rfl
    exact ⟨not_layoutsMeet_self r, not_layoutsMeet_self r⟩
  · rintro ⟨hapart, hapart'⟩
    obtain ⟨hvalid, signature, hval, hmessage⟩ := verifyEd25519WithKey_eq_ok.mp h
    obtain ⟨hvalid', signature', hval', hmessage'⟩ := verifyEd25519WithKey_eq_ok.mp h'
    obtain rfl : signature = signature' :=
      Subtype.ext (hval.trans (hsignature.trans hval'.symm))
    have hunique := hunique signature hval
    rcases hmessage with hpayload | ⟨heligible, hlegacy⟩
    · rcases hmessage' with hpayload' | ⟨heligible', hlegacy'⟩
      · exact eq_of_payload_eq hsized hsized' hvalid hvalid' hsignature
          (hunique _ _ hpayload hpayload')
      · exact absurd ⟨heligible', hunique _ _ hlegacy' hpayload⟩ hapart'
    · rcases hmessage' with hpayload' | ⟨heligible', hlegacy'⟩
      · exact absurd ⟨heligible, hunique _ _ hlegacy hpayload'⟩ hapart
      · exact eq_of_legacyUnsigned_eq hsized hsized' heligible heligible' hsignature
          (hunique _ _ hlegacy hlegacy')

end Receipt

/-! ## A pair that meets -/

namespace Sample

open Receipt

/-- A scheme whose signature tells `message` from every other one. -/
def telling (message : List UInt8) : Crates :=
  { Crates.transparent with
    sign := fun _ m => if m = message then Bytes.filled 64 1 else Bytes.filled 64 0
    verify := fun _ m signature =>
      decide (signature = if m = message then Bytes.filled 64 1 else Bytes.filled 64 0)
    verify_sign := fun _ _ => decide_eq_true rfl }

theorem telling_unique {key : Bytes 32} {message m : List UInt8}
    (h : (telling message).verify key m (Bytes.filled 64 1)) : m = message := by
  have hsign := of_decide_eq_true h
  by_contra hne
  rw [if_neg hne] at hsign
  exact absurd hsign (by decide)

/-- A version-one receipt without an id, signed by a key of six zero bytes. -/
def unnamedReceipt : Receipt where
  schemaVersion := 1
  receiptId := ""
  contextId := none
  kind := .reject
  packetHash := Bytes.filled 32 0
  sessionId := Bytes.filled 16 0
  nonce := ⟨List.replicate 11 0 ++ [1], rfl⟩
  opcode := 0
  operation := none
  decision := .accepted
  reason := none
  handlerId := none
  timestamp := 0
  authenticatorKind := .localDevUntrusted
  signerKeyId := "\x00\x00\x00\x00\x00\x00"
  evidenceSummary := []
  outputProjection := none
  signature := List.replicate 64 1

/-- The receipt its bytes spell in the layout without a version. -/
def spelledReceipt : Receipt :=
  { unnamedReceipt with
    receiptId := "\x00"
    nonce := Bytes.filled 12 0
    operation := some ""
    timestamp := 6 * 2 ^ 48
    signerKeyId := "" }

theorem unnamed_unique (key : Bytes 32) (signature : Bytes 64)
    (hsignature : signature.val = spelledReceipt.signature) (m m' : List UInt8)
    (h : (telling unnamedReceipt.unsignedV1).verify key m signature)
    (h' : (telling unnamedReceipt.unsignedV1).verify key m' signature) : m = m' := by
  obtain rfl : signature = Bytes.filled 64 1 := Subtype.ext hsignature
  rw [telling_unique h, telling_unique h']

theorem spelled_layoutsMeet : LayoutsMeet spelledReceipt unnamedReceipt := by decide +kernel

theorem spelled_sized : Sized spelledReceipt := by
  constructor <;> simp [spelledReceipt, unnamedReceipt] <;> decide

theorem unnamed_sized : Sized unnamedReceipt := by
  constructor <;> simp [unnamedReceipt] <;> decide

theorem telling_verify (key : Bytes 32) (message : List UInt8) :
    (telling message).verify key message (Bytes.filled 64 1) := by
  simp [telling]

theorem unnamed_verifies (key : Bytes 32) : unnamedReceipt.verifyEd25519WithKey
    (telling unnamedReceipt.unsignedV1) key = .ok () :=
  verifyEd25519WithKey_eq_ok.mpr ⟨rfl, Bytes.filled 64 1, rfl, .inl (telling_verify key _)⟩

theorem spelled_verifies (key : Bytes 32) : spelledReceipt.verifyEd25519WithKey
    (telling unnamedReceipt.unsignedV1) key = .ok () := by
  refine verifyEd25519WithKey_eq_ok.mpr ⟨rfl, Bytes.filled 64 1, rfl, .inr ⟨rfl, ?_⟩⟩
  rw [spelled_layoutsMeet.2]
  exact telling_verify key _

/-- One signature verifies two receipts that differ in their ids. -/
theorem unnamed_and_spelled_share_signature :
    ∃ (crates : Crates) (key : Bytes 32) (r r' : Receipt), Sized r ∧ Sized r' ∧
      r.signature = r'.signature ∧
      (∀ signature : Bytes 64, signature.val = r.signature → ∀ m m',
        crates.verify key m signature → crates.verify key m' signature → m = m') ∧
      r.verifyEd25519WithKey crates key = .ok () ∧ r'.verifyEd25519WithKey crates key = .ok () ∧
      r.receiptId ≠ r'.receiptId :=
  ⟨telling unnamedReceipt.unsignedV1, Bytes.filled 32 7, spelledReceipt, unnamedReceipt,
    spelled_sized, unnamed_sized, rfl, unnamed_unique _, spelled_verifies _, unnamed_verifies _,
    by decide⟩

/-- On that pair the condition of `signature_binds_receipt_iff` fails. -/
theorem spelled_eq_unnamed_iff : spelledReceipt = unnamedReceipt ↔
    ¬ LayoutsMeet spelledReceipt unnamedReceipt ∧ ¬ LayoutsMeet unnamedReceipt spelledReceipt :=
  signature_binds_receipt_iff (telling unnamedReceipt.unsignedV1) (Bytes.filled 32 7)
    spelledReceipt unnamedReceipt spelled_sized unnamed_sized rfl (unnamed_unique _)
    (spelled_verifies _) (unnamed_verifies _)

end Sample

end Receipts
