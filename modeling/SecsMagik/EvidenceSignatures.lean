import SecsMagik.CallerProofCodec
import SecsMagik.Evidence

/-! # What evidence signatures bind

Federated credentials, wallet challenges and Dregg receipts are signed over a version line and one
line for each field, which states the length of its value.
-/
namespace EvidenceSignatures

open RustStd
open Evidence (EvidenceKind)
open CallerProof (appendField spells_appendField decimal_injective)

/-- The lines that `append_line` and `append_field` write. -/
def canonicalLines (version : String) (fields : List (String × String)) : List UInt8 :=
  utf8 version ++ utf8 "\n" ++ fields.flatMap fun field => appendField field.1 (utf8 field.2)

inductive FederatedCredentialStatus where
  | active | revoked
  deriving DecidableEq, Repr

def credentialStatusName : FederatedCredentialStatus → String
  | .active => "active"
  | .revoked => "revoked"

structure SecsFederatedCredential where
  credentialId : String
  kind : EvidenceKind
  subject : String
  audience : String
  origin : Option String
  operation : String
  resource : String
  issuerId : String
  issuerKeyId : String
  trustRootRef : String
  registryRootRef : String
  issuedAt : UInt64
  expiresAt : UInt64
  status : FederatedCredentialStatus
  statusRef : String
  signatureSuite : String
  deriving DecidableEq

namespace SecsFederatedCredential

def fields (c : SecsFederatedCredential) : List (String × String) :=
  [("credential_id", c.credentialId), ("kind", c.kind.asStr), ("subject", c.subject),
    ("audience", c.audience), ("origin", c.origin.getD ""), ("operation", c.operation),
    ("resource", c.resource), ("issuer_id", c.issuerId), ("issuer_key_id", c.issuerKeyId),
    ("trust_root_ref", c.trustRootRef), ("registry_root_ref", c.registryRootRef),
    ("issued_at", decimal c.issuedAt.toNat), ("expires_at", decimal c.expiresAt.toNat),
    ("status", credentialStatusName c.status), ("status_ref", c.statusRef),
    ("signature_suite", c.signatureSuite)]

def canonicalBytes (c : SecsFederatedCredential) : List UInt8 :=
  canonicalLines "secs-federated-credential-v1" c.fields

/-- The credential with an absent origin read as an empty one. -/
def withOrigin (c : SecsFederatedCredential) : SecsFederatedCredential :=
  { c with origin := some (c.origin.getD "") }

end SecsFederatedCredential

structure SecsWalletChallenge where
  subject : String
  audience : String
  origin : String
  operation : String
  resource : String
  nonce : String
  issuedAt : UInt64
  expiresAt : UInt64
  signatureSuite : String
  publicKeyRef : String
  deriving DecidableEq

namespace SecsWalletChallenge

def fields (w : SecsWalletChallenge) : List (String × String) :=
  [("subject", w.subject), ("audience", w.audience), ("origin", w.origin),
    ("operation", w.operation), ("resource", w.resource), ("nonce", w.nonce),
    ("issued_at", decimal w.issuedAt.toNat), ("expires_at", decimal w.expiresAt.toNat),
    ("signature_suite", w.signatureSuite), ("public_key_ref", w.publicKeyRef)]

def canonicalBytes (w : SecsWalletChallenge) : List UInt8 :=
  canonicalLines "secs-wallet-challenge-v1" w.fields

end SecsWalletChallenge

structure DreggReceiptFixture where
  evidenceRef : String
  subject : String
  audience : String
  origin : String
  operation : String
  resource : String
  receiptKind : String
  strandRef : String
  sequence : UInt64
  issuedAt : UInt64
  expiresAt : UInt64
  signatureSuite : String
  publicKeyRef : String
  authorPublicKeyBytes : List UInt8
  signatureBytes : List UInt8
  deriving DecidableEq

namespace DreggReceiptFixture

def fields (r : DreggReceiptFixture) : List (String × String) :=
  [("subject", r.subject), ("audience", r.audience), ("origin", r.origin),
    ("operation", r.operation), ("resource", r.resource), ("receipt_kind", r.receiptKind),
    ("strand_ref", r.strandRef), ("sequence", decimal r.sequence.toNat),
    ("issued_at", decimal r.issuedAt.toNat), ("expires_at", decimal r.expiresAt.toNat),
    ("signature_suite", r.signatureSuite), ("public_key_ref", r.publicKeyRef)]

def canonicalBytes (r : DreggReceiptFixture) : List UInt8 :=
  canonicalLines "secs-dregg-receipt-shape-v1" r.fields

/-- The receipt without its reference, its key and its signature, which are not signed. -/
def signedPart (r : DreggReceiptFixture) : DreggReceiptFixture :=
  { r with evidenceRef := "", authorPublicKeyBytes := [], signatureBytes := [] }

end DreggReceiptFixture

/-! ## One format -/

theorem lines_injective {fields fields' : List (String × String)}
    (hnames : fields.map Prod.fst = fields'.map Prod.fst)
    (h : (fields.flatMap fun f => appendField f.1 (utf8 f.2)) =
      fields'.flatMap fun f => appendField f.1 (utf8 f.2)) : fields = fields' := by
  induction fields generalizing fields' with
  | nil =>
    rw [List.map_nil, eq_comm, List.map_eq_nil_iff] at hnames
    exact hnames.symm
  | cons field fields ih =>
    cases fields' with
    | nil => cases hnames
    | cons field' fields' =>
      obtain ⟨hname, hnames⟩ := List.cons.inj hnames
      rw [List.flatMap_cons, List.flatMap_cons, ← hname] at h
      -- the stated length of the first value says where the next line starts
      have hfirst : WireCodec.Spells (appendField field.1) id fun _ => True :=
        spells_appendField field.1 id
      obtain ⟨hvalue, hrest⟩ := hfirst _ _ _ _ trivial trivial h
      rw [ih hnames hrest, Prod.ext hname (utf8_injective hvalue)]

theorem canonicalLines_injective {version : String} {fields fields' : List (String × String)}
    (hnames : fields.map Prod.fst = fields'.map Prod.fst)
    (h : canonicalLines version fields = canonicalLines version fields') : fields = fields' :=
  lines_injective hnames (List.append_cancel_left h)

theorem number_injective {m n : UInt64} (h : decimal m.toNat = decimal n.toNat) : m = n :=
  UInt64.toNat_inj.mp (decimal_injective h)

theorem kind_injective {k k' : EvidenceKind} (h : k.asStr = k'.asStr) : k = k' := by
  cases k <;> cases k' <;> first | rfl | exact absurd h (by decide)

theorem status_injective {s s' : FederatedCredentialStatus}
    (h : credentialStatusName s = credentialStatusName s') : s = s' := by
  cases s <;> cases s' <;> first | rfl | exact absurd h (by decide)

theorem credential_bound {c c' : SecsFederatedCredential}
    (h : c.canonicalBytes = c'.canonicalBytes) : c.withOrigin = c'.withOrigin := by
  have hfields : c.fields = c'.fields := canonicalLines_injective rfl h
  simp only [SecsFederatedCredential.fields, List.cons.injEq, Prod.mk.injEq, true_and,
    and_true] at hfields
  obtain ⟨hid, hkind, hsubject, haudience, horigin, hoperation, hresource, hissuer, hissuerKey,
    htrust, hregistry, hissued, hexpires, hstatus, hstatusRef, hsuite⟩ := hfields
  simp only [SecsFederatedCredential.withOrigin, SecsFederatedCredential.mk.injEq]
  exact ⟨hid, kind_injective hkind, hsubject, haudience, congrArg some horigin, hoperation,
    hresource, hissuer, hissuerKey, htrust, hregistry, number_injective hissued,
    number_injective hexpires, status_injective hstatus, hstatusRef, hsuite⟩

theorem challenge_bound {w w' : SecsWalletChallenge}
    (h : w.canonicalBytes = w'.canonicalBytes) : w = w' := by
  have hfields : w.fields = w'.fields := canonicalLines_injective rfl h
  simp only [SecsWalletChallenge.fields, List.cons.injEq, Prod.mk.injEq, true_and,
    and_true] at hfields
  obtain ⟨hsubject, haudience, horigin, hoperation, hresource, hnonce, hissued, hexpires, hsuite,
    hkey⟩ := hfields
  cases w
  cases w'
  simp only [SecsWalletChallenge.mk.injEq]
  exact ⟨hsubject, haudience, horigin, hoperation, hresource, hnonce, number_injective hissued,
    number_injective hexpires, hsuite, hkey⟩

theorem receipt_bound {r r' : DreggReceiptFixture}
    (h : r.canonicalBytes = r'.canonicalBytes) : r.signedPart = r'.signedPart := by
  have hfields : r.fields = r'.fields := canonicalLines_injective rfl h
  simp only [DreggReceiptFixture.fields, List.cons.injEq, Prod.mk.injEq, true_and,
    and_true] at hfields
  obtain ⟨hsubject, haudience, horigin, hoperation, hresource, hkind, hstrand, hsequence, hissued,
    hexpires, hsuite, hkey⟩ := hfields
  simp only [DreggReceiptFixture.signedPart, DreggReceiptFixture.mk.injEq]
  exact ⟨trivial, hsubject, haudience, horigin, hoperation, hresource, hkind, hstrand,
    number_injective hsequence, number_injective hissued, number_injective hexpires, hsuite, hkey,
    trivial, trivial⟩

/-! ## Three formats -/

/-- The version lines differ in their sixth byte. -/
theorem canonicalLines_ne {version version' : String} {fields fields' : List (String × String)}
    (h : (utf8 version)[5]? ≠ (utf8 version')[5]?) (hlen : 5 < byteLen version)
    (hlen' : 5 < byteLen version') :
    canonicalLines version fields ≠ canonicalLines version' fields' := by
  intro heq
  apply h
  have hbyte := congrArg (·[5]?) heq
  simp only [canonicalLines, List.append_assoc] at hbyte
  rwa [List.getElem?_append_left hlen, List.getElem?_append_left hlen'] at hbyte

/-- Equal signed bytes come from one format and from equal signed fields; an absent origin of a
credential is signed like an empty one. -/
theorem signatures_bind_content_and_kind :
    (∀ c c' : SecsFederatedCredential, c.canonicalBytes = c'.canonicalBytes →
      c.withOrigin = c'.withOrigin) ∧
    (∀ w w' : SecsWalletChallenge, w.canonicalBytes = w'.canonicalBytes → w = w') ∧
    (∀ r r' : DreggReceiptFixture, r.canonicalBytes = r'.canonicalBytes →
      r.signedPart = r'.signedPart) ∧
    (∀ (c : SecsFederatedCredential) (w : SecsWalletChallenge),
      c.canonicalBytes ≠ w.canonicalBytes) ∧
    (∀ (c : SecsFederatedCredential) (r : DreggReceiptFixture),
      c.canonicalBytes ≠ r.canonicalBytes) ∧
    ∀ (w : SecsWalletChallenge) (r : DreggReceiptFixture), w.canonicalBytes ≠ r.canonicalBytes := by
  refine ⟨fun _ _ => credential_bound, fun _ _ => challenge_bound, fun _ _ => receipt_bound,
    ?_, ?_, ?_⟩
  all_goals
    intro x y
    apply canonicalLines_ne
    · decide
    · decide
    · decide

end EvidenceSignatures
