import SecsMagik.CallerProofCodec
import SecsMagik.PublicAudit
import SecsMagik.ReceiverManifest

/-! # Descriptor fingerprints

A context is bound to the fingerprint of the descriptor it was verified against. The fingerprint is
a digest of lines that carry a name and the length of their value, so it determines every field that
an authorization depends on.
-/
namespace ReceiverManifest

open RustStd
open ExternalCrates (Crates)
open Disclosure (DisclosurePermission ForbiddenFieldClass PrivacySurface DisclosureRepresentation)

/-! ## Sections

Lists of values under names, written as one list of named values. -/

section Sections

variable {ν β : Type}

def spread (sections : List (ν × List β)) : List (ν × β) :=
  sections.flatMap fun s => s.2.map (Prod.mk s.1)

theorem spread_cons (name : ν) (values : List β) (sections : List (ν × List β)) :
    spread ((name, values) :: sections) = values.map (Prod.mk name) ++ spread sections :=
  List.flatMap_cons

theorem mem_names_of_mem_spread {sections : List (ν × List β)} {entry : ν × β}
    (h : entry ∈ spread sections) : entry.1 ∈ sections.map Prod.fst := by
  obtain ⟨s, hs, hentry⟩ := List.mem_flatMap.mp h
  obtain ⟨value, -, rfl⟩ := List.mem_map.mp hentry
  exact List.mem_map.mpr ⟨s, hs, rfl⟩

/-- The values stand in front of the first entry with another name. -/
theorem append_named_inj {name : ν} {values values' : List β} {r r' : List (ν × β)}
    (hr : ∀ entry ∈ r, entry.1 ≠ name) (hr' : ∀ entry ∈ r', entry.1 ≠ name)
    (h : values.map (Prod.mk name) ++ r = values'.map (Prod.mk name) ++ r') :
    values = values' ∧ r = r' := by
  induction values generalizing values' with
  | nil =>
    cases values' with
    | nil => exact ⟨rfl, h⟩
    | cons value' values' =>
      rw [List.map_nil, List.nil_append] at h
      exact absurd rfl (hr (name, value') (by rw [h]; exact List.mem_cons_self))
  | cons value values ih =>
    cases values' with
    | nil =>
      rw [List.map_nil, List.nil_append] at h
      exact absurd rfl (hr' (name, value) (by rw [← h]; exact List.mem_cons_self))
    | cons value' values' =>
      obtain ⟨hhead, htail⟩ := List.cons.inj h
      obtain ⟨rfl, hrest⟩ := ih htail
      exact ⟨by rw [(Prod.mk.inj hhead).2], hrest⟩

/-- Sections under distinct names are told apart by the names of the entries. -/
theorem spread_inj {sections sections' : List (ν × List β)}
    (hnames : sections.map Prod.fst = sections'.map Prod.fst)
    (hdistinct : (sections.map Prod.fst).Nodup) (h : spread sections = spread sections') :
    sections = sections' := by
  induction sections generalizing sections' with
  | nil =>
    cases sections' with
    | nil => rfl
    | cons => cases hnames
  | cons s sections ih =>
    cases sections' with
    | nil => cases hnames
    | cons s' sections' =>
      obtain ⟨name, values⟩ := s
      obtain ⟨name', values'⟩ := s'
      obtain ⟨rfl, hrestNames⟩ := List.cons.inj hnames
      obtain ⟨hfresh, hrestDistinct⟩ := List.nodup_cons.mp hdistinct
      have hother : ∀ entry ∈ spread sections, entry.1 ≠ name := by
        intro entry hentry heq
        exact hfresh (heq ▸ mem_names_of_mem_spread hentry)
      have hother' : ∀ entry ∈ spread sections', entry.1 ≠ name := by
        intro entry hentry heq
        rw [hrestNames] at hfresh
        exact hfresh (heq ▸ mem_names_of_mem_spread hentry)
      rw [spread_cons, spread_cons] at h
      obtain ⟨rfl, hrest⟩ := append_named_inj hother hother' h
      rw [ih hrestNames hrestDistinct hrest]

end Sections

/-! ## Lines -/

theorem utf8_fingerprintField (name value : String) :
    utf8 (fingerprintField name value) =
      utf8 name ++ 58 :: (utf8 (decimal (byteLen value)) ++ 58 :: (utf8 value ++ [10])) := by
  have hcolon : String.utf8EncodeChar ':' = [58] := by decide
  have hline : String.utf8EncodeChar '\n' = [10] := by decide
  simp [fingerprintField, utf8_eq, hcolon, hline]

/-- The line of a name without a colon ends where its length says. -/
theorem fingerprintField_inj {name name' value value' : String} {r r' : List UInt8}
    (hname : ∀ b ∈ utf8 name, b ≠ 58) (hname' : ∀ b ∈ utf8 name', b ≠ 58)
    (h : utf8 (fingerprintField name value) ++ r = utf8 (fingerprintField name' value') ++ r') :
    name = name' ∧ value = value' ∧ r = r' := by
  simp only [utf8_fingerprintField, List.append_assoc, List.cons_append, List.nil_append] at h
  obtain ⟨hnames, hrest⟩ := WireCodec.append_stop_inj (p := (· ≠ 58)) hname hname' (by simp)
    (by simp) h
  obtain ⟨hlength, hrest⟩ := WireCodec.append_stop_inj (p := (· ≠ 58))
    (fun b => CallerProof.colon_notMem_decimal _ b) (fun b => CallerProof.colon_notMem_decimal _ b)
    (by simp) (by simp) (List.cons.inj hrest).2
  have hlength : byteLen value = byteLen value' :=
    CallerProof.decimal_injective (utf8_injective hlength)
  obtain ⟨hvalue, hrest⟩ := List.append_inj (List.cons.inj hrest).2 hlength
  exact ⟨utf8_injective hnames, utf8_injective hvalue, (List.cons.inj hrest).2⟩

/-- Lines determine the names and values they were written for. -/
theorem entries_inj {entries entries' : List (String × String)}
    (hnames : ∀ e ∈ entries, ∀ b ∈ utf8 e.1, b ≠ 58)
    (hnames' : ∀ e ∈ entries', ∀ b ∈ utf8 e.1, b ≠ 58)
    (h : entries.flatMap (fun e => utf8 (fingerprintField e.1 e.2)) =
      entries'.flatMap fun e => utf8 (fingerprintField e.1 e.2)) : entries = entries' := by
  have hne : ∀ name value, utf8 (fingerprintField name value) ≠ [] := by
    intro name value
    rw [utf8_fingerprintField]
    simp
  induction entries generalizing entries' with
  | nil =>
    cases entries' with
    | nil => rfl
    | cons e' entries' =>
      rw [List.flatMap_nil, List.flatMap_cons] at h
      exact absurd (List.append_eq_nil_iff.mp h.symm).1 (hne _ _)
  | cons e entries ih =>
    cases entries' with
    | nil =>
      rw [List.flatMap_nil, List.flatMap_cons] at h
      exact absurd (List.append_eq_nil_iff.mp h).1 (hne _ _)
    | cons e' entries' =>
      rw [List.flatMap_cons, List.flatMap_cons] at h
      obtain ⟨hname, hvalue, hrest⟩ := fingerprintField_inj
        (hnames e List.mem_cons_self) (hnames' e' List.mem_cons_self) h
      rw [Prod.ext hname hvalue, ih (fun e he => hnames e (List.mem_cons_of_mem _ he))
        (fun e he => hnames' e (List.mem_cons_of_mem _ he)) hrest]

/-! ## Descriptors -/

def permissionLabel (p : DisclosurePermission) : String :=
  p.fieldClass.asStr ++ ":" ++ p.surface.asStr ++ ":" ++ p.representation.asStr

/-- The values of a descriptor under the names of their lines. -/
def OperationDescriptor.sections (d : OperationDescriptor) : List (String × List String) :=
  [("version", ["secs-descriptor-fingerprint-v1"]),
    ("opcode", [hexByte d.opcode]),
    ("operation", [d.name]),
    ("payload_schema", [d.payloadSchema.getD ""]),
    ("output_profile_present", [boolText d.outputProfile.isSome]),
    ("output_schema_id", (d.outputProfile.map (·.schemaId)).toList),
    ("output_max_bytes", (d.outputProfile.map (decimal ·.maxOutputBytes)).toList),
    ("output_max_execution_response_bytes",
      (d.outputProfile.map (decimal ·.maxExecutionResponseBytes)).toList),
    ("target_kind", [targetKindLabel d.targetKind]),
    ("required_credential", d.requiredCredentials),
    ("required_capability", d.requiredCapabilities),
    ("accepted_evidence", d.acceptedEvidence),
    ("required_authority_mode", [(d.requiredAuthorityMode.map AuthorityMode.asStr).getD ""]),
    ("replay_scope", [replayScopeFingerprintLabel d.replayScope]),
    ("max_ttl_seconds", [decimal d.maxTtlSeconds.toNat]),
    ("handler_id", [d.handlerId]),
    ("dev_binding", [boolText d.devBinding]),
    ("range", [opcodeRangeLabel d.range]),
    ("disclosure_policy_id", [d.disclosurePolicy.policyId]),
    ("disclosure_policy_version", [decimal d.disclosurePolicy.policyVersion.toNat]),
    ("disclosure_permission", d.disclosurePolicy.permissions.map permissionLabel)]

def lineNames : List String :=
  ["version", "opcode", "operation", "payload_schema", "output_profile_present",
    "output_schema_id", "output_max_bytes", "output_max_execution_response_bytes", "target_kind",
    "required_credential", "required_capability", "accepted_evidence", "required_authority_mode",
    "replay_scope", "max_ttl_seconds", "handler_id", "dev_binding", "range",
    "disclosure_policy_id", "disclosure_policy_version", "disclosure_permission"]

theorem names_sections (d : OperationDescriptor) : d.sections.map Prod.fst = lineNames := rfl

theorem nodup_lineNames : lineNames.Nodup := by
  decide

theorem colon_notMem_lineNames : ∀ name ∈ lineNames, ∀ b ∈ utf8 name, b ≠ 58 := by
  have hall : lineNames.all fun name => (utf8 name).all (· ≠ 58) := by decide
  simpa using hall

theorem fingerprintFields_eq (d : OperationDescriptor) :
    d.fingerprintFields = (spread d.sections).map fun e => fingerprintField e.1 e.2 := by
  cases hprofile : d.outputProfile with
  | none =>
    simp [OperationDescriptor.fingerprintFields, OperationDescriptor.sections, spread, hprofile,
      permissionLabel, Function.comp_def]
  | some profile =>
    simp [OperationDescriptor.fingerprintFields, OperationDescriptor.sections, spread, hprofile,
      permissionLabel, Function.comp_def]

theorem sections_inj {d d' : OperationDescriptor}
    (h : d.fingerprintFields.flatMap utf8 = d'.fingerprintFields.flatMap utf8) :
    d.sections = d'.sections := by
  have hcolon : ∀ d : OperationDescriptor, ∀ e ∈ spread d.sections, ∀ b ∈ utf8 e.1, b ≠ 58 := by
    intro d e he
    exact colon_notMem_lineNames e.1 (names_sections d ▸ mem_names_of_mem_spread he)
  rw [fingerprintFields_eq, fingerprintFields_eq, List.flatMap_map, List.flatMap_map] at h
  exact spread_inj rfl nodup_lineNames (entries_inj (hcolon d) (hcolon d') h)

/-! ## Labels -/

/-- Labels are told apart if each is found again among the labels of a list. -/
theorem injective_of_find? {α : Type} {label : α → String} (all : List α)
    (h : ∀ a, all.find? (fun b => label b = label a) = some a) : Function.Injective label := by
  intro a b hab
  have ha := h a
  rw [hab, h b] at ha
  exact (Option.some.inj ha).symm

theorem targetKindLabel_injective : Function.Injective targetKindLabel :=
  injective_of_find? [.legacyCoreExample, .localDevProcess, .receiverProductionHandler]
    fun a => by cases a <;> decide

theorem opcodeRangeLabel_injective : Function.Injective opcodeRangeLabel :=
  injective_of_find? [.reserved, .coreStandardized, .castaliaStandardCandidate, .operatorDefined]
    fun a => by cases a <;> decide

theorem boolText_injective : Function.Injective boolText :=
  injective_of_find? [true, false] fun a => by cases a <;> decide

theorem fieldClass_asStr_injective : Function.Injective ForbiddenFieldClass.asStr :=
  injective_of_find? [.walletIdentity, .holderIdentity, .subjectIdentity, .credentialIdentity,
    .rawCredentialAttributes, .rawProofBytes, .witnessPrivateInputs, .traceDebugMaterial,
    .tokenSecret, .sourceAuthToken, .issuerPrivateMaterial, .stableNullifier, .networkMetadata]
    fun a => by cases a <;> decide

theorem surface_asStr_injective : Function.Injective PrivacySurface.asStr :=
  injective_of_find? [.verifyReceipt, .rejectReceipt, .executeReceipt, .readinessStatus,
    .demoProjection, .log, .operatorCli, .publicAudit, .handlerContext]
    fun a => by cases a <;> decide

theorem representation_asStr_injective : Function.Injective DisclosureRepresentation.asStr :=
  injective_of_find? [.redactedDigest, .redactedPlaceholder, .derivedStatus]
    fun a => by cases a <;> decide

/-- No mode has the empty label, which stands for no mode. -/
theorem modeLabel_injective :
    Function.Injective fun mode : Option AuthorityMode => (mode.map AuthorityMode.asStr).getD "" :=
  injective_of_find? [none, some .localFixture, some .signedSource, some .soloVerifiedReceipt,
    some .federationCheckpoint, some .lightClientVerified, some .recursiveProofCarryingState]
    fun a => by
      cases a with
      | none => decide
      | some mode => cases mode <;> decide

theorem permissionLabel_injective : Function.Injective permissionLabel := by
  have hclass : ∀ c : ForbiddenFieldClass, ∀ x ∈ c.asStr.toList, x ≠ ':' := by
    intro c
    have hall : c.asStr.toList.all (· ≠ ':') := by cases c <;> decide
    simpa using hall
  have hsurface : ∀ c : PrivacySurface, ∀ x ∈ c.asStr.toList, x ≠ ':' := by
    intro c
    have hall : c.asStr.toList.all (· ≠ ':') := by cases c <;> decide
    simpa using hall
  intro p q h
  have hcolon : ":".toList = [':'] := rfl
  have hchars := congrArg String.toList h
  simp only [permissionLabel, String.toList_append, List.append_assoc, hcolon, List.cons_append,
    List.nil_append] at hchars
  obtain ⟨hfirst, hrest⟩ := WireCodec.append_stop_inj (p := (· ≠ ':')) (hclass p.fieldClass)
    (hclass q.fieldClass) (by simp) (by simp) hchars
  obtain ⟨hsecond, hrest⟩ := WireCodec.append_stop_inj (p := (· ≠ ':')) (hsurface p.surface)
    (hsurface q.surface) (by simp) (by simp) (List.cons.inj hrest).2
  have hthird := (List.cons.inj hrest).2
  cases p
  cases q
  simp only [DisclosurePermission.mk.injEq]
  exact ⟨fieldClass_asStr_injective (String.toList_inj.mp hfirst),
    surface_asStr_injective (String.toList_inj.mp hsecond),
    representation_asStr_injective (String.toList_inj.mp hthird)⟩

theorem hexByte_injective : Function.Injective hexByte := by
  intro a b h
  have hlist : [a] = [b] := PublicAudit.lowerHex_injective h
  exact (List.cons.inj hlist).1

/-! ## Faithful fingerprints -/

/-- The lines of a profile determine it, and no profile has none. -/
theorem outputProfile_inj {p p' : Option OutputProfile}
    (hid : (p.map (·.schemaId)).toList = (p'.map (·.schemaId)).toList)
    (houtput : (p.map (decimal ·.maxOutputBytes)).toList =
      (p'.map (decimal ·.maxOutputBytes)).toList)
    (hresponse : (p.map (decimal ·.maxExecutionResponseBytes)).toList =
      (p'.map (decimal ·.maxExecutionResponseBytes)).toList) : p = p' := by
  cases p with
  | none =>
    cases p' with
    | none => rfl
    | some p' => cases hid
  | some p =>
    cases p' with
    | none => cases hid
    | some p' =>
      have hid : p.schemaId = p'.schemaId := (List.cons.inj hid).1
      have houtput := CallerProof.decimal_injective (List.cons.inj houtput).1
      have hresponse := CallerProof.decimal_injective (List.cons.inj hresponse).1
      cases p
      cases p'
      simp only [Option.some.injEq, OutputProfile.mk.injEq]
      exact ⟨hid, houtput, hresponse⟩

theorem eq_of_sections {d d' : OperationDescriptor} (h : d.sections = d'.sections) :
    d.payloadSchema.getD "" = d'.payloadSchema.getD "" ∧
      d' = { d with payloadSchema := d'.payloadSchema } := by
  simp only [OperationDescriptor.sections, List.cons.injEq, Prod.mk.injEq, true_and,
    and_true] at h
  obtain ⟨hopcode, hname, hschema, -, hid, houtput, hresponse, hkind, hcredentials, hcapabilities,
    hevidence, hmode, httl, hhandler, hdev, hrange, hpolicyId, hpolicyVersion,
    hpermissions⟩ := h
  refine ⟨hschema, ?_⟩
  have hprofile := outputProfile_inj hid houtput hresponse
  have hpolicy : d.disclosurePolicy = d'.disclosurePolicy := by
    have hversion := UInt16.toNat_inj.mp (CallerProof.decimal_injective hpolicyVersion)
    have hlist := List.map_injective_iff.mpr permissionLabel_injective hpermissions
    generalize d.disclosurePolicy = p at *
    generalize d'.disclosurePolicy = p' at *
    cases p
    cases p'
    simp only [Disclosure.DisclosurePolicy.mk.injEq]
    exact ⟨hpolicyId, hversion, hlist⟩
  -- there is one replay scope only
  cases d
  cases d'
  simp only [OperationDescriptor.mk.injEq, true_and]
  exact ⟨(hexByte_injective hopcode).symm, hname.symm, hprofile.symm,
    (targetKindLabel_injective hkind).symm, hcredentials.symm, hcapabilities.symm, hevidence.symm,
    (modeLabel_injective hmode).symm,
    (UInt64.toNat_inj.mp (CallerProof.decimal_injective httl)).symm, hhandler.symm,
    (boolText_injective hdev).symm, (opcodeRangeLabel_injective hrange).symm, hpolicy.symm⟩

theorem sections_of_eq {d d' : OperationDescriptor}
    (hschema : d.payloadSchema.getD "" = d'.payloadSchema.getD "")
    (h : d' = { d with payloadSchema := d'.payloadSchema }) : d.sections = d'.sections := by
  rw [h]
  simp only [OperationDescriptor.sections, hschema]

/-- Two descriptors have the same fingerprint exactly if they agree in every field, where no payload
schema and an empty one are the same. -/
theorem authorizationFingerprint_eq_iff (crates : Crates) (d d' : OperationDescriptor)
    (hdigest : Set.InjOn crates.sha256
      {d.fingerprintFields.flatMap utf8, d'.fingerprintFields.flatMap utf8}) :
    d.authorizationFingerprint crates = d'.authorizationFingerprint crates ↔
      d.payloadSchema.getD "" = d'.payloadSchema.getD "" ∧
        d' = { d with payloadSchema := d'.payloadSchema } := by
  constructor
  · intro h
    have hhash : crates.sha256 (d.fingerprintFields.flatMap utf8) =
        crates.sha256 (d'.fingerprintFields.flatMap utf8) :=
      Subtype.ext (PublicAudit.lowerHex_injective ((String.append_right_inj _).mp h))
    exact eq_of_sections (sections_inj (hdigest (.inl rfl) (.inr rfl) hhash))
  · intro h
    have hfields : d.fingerprintFields = d'.fingerprintFields := by
      rw [fingerprintFields_eq d, fingerprintFields_eq d', sections_of_eq h.1 h.2]
    unfold OperationDescriptor.authorizationFingerprint
    rw [hfields]

namespace Sample

/-- Digests that repeat the second digit of the opcode. -/
def digests : Crates :=
  { Crates.transparent with sha256 := fun message => .filled 32 (message[52]?.getD 0) }

def nextOpcode : OperationDescriptor := { membershipProvisionDescriptor with opcode := 0x45 }

theorem opcodes_fingerprinted_apart :
    membershipProvisionDescriptor.authorizationFingerprint digests ≠
      nextOpcode.authorizationFingerprint digests := by
  have hdigest : Set.InjOn digests.sha256
      {membershipProvisionDescriptor.fingerprintFields.flatMap utf8,
        nextOpcode.fingerprintFields.flatMap utf8} := by
    have hne : digests.sha256 (membershipProvisionDescriptor.fingerprintFields.flatMap utf8) ≠
        digests.sha256 (nextOpcode.fingerprintFields.flatMap utf8) := by
      decide
    rw [Set.injOn_pair]
    intro h
    exact absurd h hne
  rw [Ne, authorizationFingerprint_eq_iff digests _ _ hdigest]
  intro h
  have hopcode : (0x45 : UInt8) = 0x44 := congrArg OperationDescriptor.opcode h.2
  exact absurd hopcode (by decide)

end Sample

end ReceiverManifest
