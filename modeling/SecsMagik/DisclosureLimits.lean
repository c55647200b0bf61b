import SecsMagik.WorkDisclosures

/-! # Which requests can be disclosed

The statements about the operation, the version, the key and each part of the request are always
short enough to be displayed. The one about the resources is not: it holds all of them.
-/
namespace WorkDisclosures

open RustStd
open WireCodec (Fault rejectIf rejectIf_eq_ok)
open ExternalCrates (Crates)
open CanonicalJson (Json)
open DevgraphAuthority (idempotencyKeyDigestSha256)
open JsonMaps
open StrictJson (canonicalText isAscii Clean clean_object_iff clean_string strictJson_of_clean)
open WorkPolicies WorkRequests WorkVocabulary

/-! ## Statements that can be displayed -/

def Plain (s : String) : Prop := ∀ c ∈ s.toList, forbidden c = false

instance (s : String) : Decidable (Plain s) := List.decidableBAll _ _

theorem display_iff {s : String} {maximum : ℕ} :
    display s maximum = true ↔ s ≠ "" ∧ byteLen s ≤ maximum ∧ Plain s := by
  simp [display, Plain, and_assoc]

theorem validate_eq_ok {d : Disclosure} :
    d.validate = .ok () ↔ display d.title 160 = true ∧ d.statements ≠ [] ∧
      d.statements.length ≤ 144 ∧ ∀ s ∈ d.statements, display s 512 = true := by
  rw [Disclosure.validate, rejectIf_eq_ok]
  simp [not_or]

theorem plain_append {s t : String} : Plain (s ++ t) ↔ Plain s ∧ Plain t := by
  rw [Plain, String.toList_append, List.forall_mem_append]
  rfl

theorem plain_of_bytes {s : String} (h : ∀ b ∈ utf8 s, 0x20 ≤ b.toNat ∧ b.toNat < 0x7f) :
    Plain s := by
  intro c hc
  obtain ⟨b, tail, henc, hdecode⟩ := decodeChar_encode c []
  rw [utf8_eq] at h
  obtain ⟨hlow, hhigh⟩ := h b (List.mem_flatMap.mpr ⟨c, hc, henc ▸ List.mem_cons_self⟩)
  rw [decodeChar_one (by omega), Prod.mk.injEq, Option.some.injEq] at hdecode
  have hall : ∀ n : Fin 0x7f, 0x20 ≤ n.val → forbidden (Char.ofNat n.val) = false := by decide
  rw [← hdecode.1]
  exact hall ⟨b.toNat, hhigh⟩ hlow

theorem plain_decimal (n : ℕ) : Plain (decimal n) := by
  intro c hc
  rw [decimal, String.toList_ofList] at hc
  have hdigit := Nat.isDigit_of_mem_toDigits (by decide) (by decide) hc
  simp only [Char.isDigit, ge_iff_le, Bool.and_eq_true, decide_eq_true_eq, UInt32.le_iff_toNat_le]
    at hdigit
  obtain ⟨hlow, hhigh⟩ := hdigit
  have hlow : 48 ≤ c.toNat := hlow
  have hhigh : c.toNat ≤ 57 := hhigh
  simp only [forbidden, Bool.or_eq_false_iff, Bool.and_eq_false_iff, decide_eq_false_iff_not]
  omega

theorem plain_lowerHex (bytes : List UInt8) : Plain (lowerHex bytes) := by
  apply plain_of_bytes
  intro b hb
  have hhex := PublicAudit.lowerHex_isLowerHex bytes b hb
  simp only [isLowerHexByte, isAsciiDigit, Bool.or_eq_true, Bool.and_eq_true, decide_eq_true_eq,
    UInt8.le_iff_toNat_le, UInt8.reduceToNat] at hhex
  omega

theorem plain_identifier {id : String} (h : identifier id = true) : Plain id := by
  apply plain_of_bytes
  intro b hb
  simp only [identifier, Bool.and_eq_true, List.all_eq_true] at h
  have hbyte := h.2 b hb
  simp only [isLowerAlnum, isAsciiLowercase, isAsciiDigit, Bool.or_eq_true, Bool.and_eq_true,
    decide_eq_true_eq, UInt8.le_iff_toNat_le, UInt8.reduceToNat, beq_iff_eq] at hbyte
  rcases hbyte with (hbyte | hbyte) | rfl
  · omega
  · omega
  · decide

theorem plain_ruled {resource : String} (h : Ruled resource) : Plain resource := by
  obtain ⟨label, id, hlabel, hid, rfl⟩ := h
  have hall : ∀ label ∈ ["Proposal", "Initiative", "Project", "Issue", "Task"] ++ ruleLabels,
      Plain label := by decide
  have hplain : Plain label := by
    apply hall label
    rw [List.mem_append]
    exact hlabel.imp_left fun hkind => by simpa [kind] using hkind
  exact plain_append.mpr ⟨plain_append.mpr ⟨hplain, by decide⟩, plain_identifier hid⟩

theorem join_cons_cons (part next : String) (parts : List String) :
    join (part :: next :: parts) ", " = part ++ (", " ++ join (next :: parts) ", ") := by
  rw [join, join, ← String.toList_inj]
  simp [String.toList_intercalate, List.intercalate]

theorem plain_join {parts : List String} (h : ∀ part ∈ parts, Plain part) :
    Plain (join parts ", ") := by
  induction parts with
  | nil => exact List.forall_mem_nil _
  | cons part parts ih =>
    obtain ⟨hpart, hparts⟩ := List.forall_mem_cons.mp h
    cases parts with
    | nil => exact hpart
    | cons next parts =>
      rw [join_cons_cons]
      exact plain_append.mpr ⟨hpart, plain_append.mpr ⟨by decide, ih hparts⟩⟩

/-! ## Each statement -/

theorem namedOperation_cases {s : String} (h : namedOperation s = true) :
    (∃ op ∈ ["create", "patch", "archive", "member.set"], s = "devgraph.arena." ++ (op ++ ".v1")) ∨
      ∃ op ∈ sharedOperations ++ secondVersionOnly, ∃ version ∈ [".v1", ".v2"],
        s = "devgraph.work." ++ (op ++ version) := by
  rw [namedOperation] at h
  split at h
  · next operation harena =>
    obtain ⟨rest, hhead, htail⟩ := Option.bind_eq_some_iff.mp harena
    left
    refine ⟨operation, by simpa using h, ?_⟩
    rw [stripPrefix_eq_some hhead, stripSuffix_eq_some htail]
  · right
    obtain ⟨⟨op, version⟩, hread, hnamed⟩ := (Option.any_eq_true _ _).mp h
    obtain ⟨rest, hhead, htail⟩ := Option.bind_eq_some_iff.mp hread
    have hop : op ∈ sharedOperations ++ secondVersionOnly := by
      simp only [namedWorkOperation] at hnamed
      split_ifs at hnamed with hstatus hsecond
      · exact List.mem_append_right _ hsecond
      · exact List.mem_append_left _ (of_decide_eq_true hnamed)
    rw [Option.or_eq_some_iff, Option.map_eq_some_iff, Option.map_eq_some_iff] at htail
    rcases htail with ⟨op', hversion, heq⟩ | ⟨-, op', hversion, heq⟩
    · obtain ⟨rfl, -⟩ := Prod.mk.inj heq
      refine ⟨op', hop, ".v1", by decide, ?_⟩
      rw [stripPrefix_eq_some hhead, stripSuffix_eq_some hversion]
    · obtain ⟨rfl, -⟩ := Prod.mk.inj heq
      refine ⟨op', hop, ".v2", by decide, ?_⟩
      rw [stripPrefix_eq_some hhead, stripSuffix_eq_some hversion]

/-- A label before a text: `display` asks for the length and the code points of the text. -/
theorem display_label {label text : String} {maximum : ℕ} (hne : label ≠ "")
    (hplain : Plain label) :
    display (label ++ text) maximum = true ↔
      byteLen label + byteLen text ≤ maximum ∧ Plain text := by
  have hnonempty : label ++ text ≠ "" := by
    intro hempty
    exact hne (String.append_eq_empty_iff.mp hempty).1
  rw [display_iff, byteLen_append, plain_append]
  exact ⟨fun h => ⟨h.2.1, h.2.2.2⟩, fun h => ⟨hnonempty, h.1, hplain, h.2⟩⟩

theorem display_operation {operation : String} (h : namedOperation operation = true) :
    display ("Operation: " ++ operation) 512 = true := by
  have hname : ∀ op ∈ ["create", "patch", "archive", "member.set"] ++
      (sharedOperations ++ secondVersionOnly), byteLen op ≤ 64 ∧ Plain op := by decide
  have hversion : ∀ version ∈ [".v1", ".v2"], byteLen version ≤ 64 ∧ Plain version := by decide
  have hhead : ∀ head ∈ ["devgraph.arena.", "devgraph.work."], byteLen head ≤ 64 ∧ Plain head := by
    decide
  -- a name has three parts, each short and plain
  have hthree : ∃ head ∈ ["devgraph.arena.", "devgraph.work."], ∃ op ∈
      ["create", "patch", "archive", "member.set"] ++ (sharedOperations ++ secondVersionOnly),
      ∃ version ∈ [".v1", ".v2"], operation = head ++ (op ++ version) := by
    rcases namedOperation_cases h with ⟨op, hop, rfl⟩ | ⟨op, hop, version, hversion, rfl⟩
    · exact ⟨_, by simp, op, List.mem_append_left _ hop, ".v1", by simp, rfl⟩
    · exact ⟨_, by simp, op, List.mem_append_right _ hop, version, hversion, rfl⟩
  obtain ⟨head, hmem, op, hop, version, hmem', rfl⟩ := hthree
  have hlabel : byteLen "Operation: " = 11 := by decide
  obtain ⟨hnameLen, hnamePlain⟩ := hname op hop
  obtain ⟨hversionLen, hversionPlain⟩ := hversion version hmem'
  obtain ⟨hheadLen, hheadPlain⟩ := hhead head hmem
  rw [display_label (by decide) (by decide), byteLen_append, byteLen_append, plain_append,
    plain_append, hlabel]
  exact ⟨by omega, hheadPlain, hnamePlain, hversionPlain⟩

theorem display_resources {resources : List String} (h : ∀ resource ∈ resources, Ruled resource) :
    display ("Resources: " ++ join resources ", ") 512 = true ↔
      byteLen (join resources ", ") ≤ 501 := by
  have hlabel : byteLen "Resources: " = 11 := by decide
  have hplain : Plain (join resources ", ") := by
    apply plain_join
    intro resource hresource
    exact plain_ruled (h resource hresource)
  rw [display_label (by decide) (by decide), hlabel]
  constructor
  · rintro ⟨hlength, -⟩
    omega
  · intro hlength
    exact ⟨by omega, hplain⟩

theorem display_version (value : Json) :
    display ("Expected version: " ++ expectedVersion value) 512 = true := by
  have hlabel : byteLen "Expected version: " = 18 := by decide
  have hnew : byteLen "new" ≤ 80 ∧ Plain "new" := by decide
  have hversion : byteLen (expectedVersion value) ≤ 80 ∧ Plain (expectedVersion value) := by
    rw [expectedVersion]
    split
    · split_ifs with hrange
      · exact ⟨byteLen_decimal_le (k := 20) (by decide) (by omega), plain_decimal _⟩
      · exact hnew
    · exact hnew
  rw [display_label (by decide) (by decide), hlabel]
  exact ⟨by omega, hversion.2⟩

theorem display_digest {crates : Crates} {key digest : String}
    (h : idempotencyKeyDigestSha256 crates key = .ok digest) :
    display ("Idempotency digest: " ++ digest) 512 = true := by
  rw [idempotencyKeyDigestSha256] at h
  split_ifs at h
  obtain rfl := Except.ok.inj h
  have hlabel : byteLen "Idempotency digest: " = 20 := by decide
  rw [display_label (by decide) (by decide), hlabel, PublicAudit.byteLen_lowerHex,
    (crates.sha256 (utf8 key)).property]
  exact ⟨by decide, plain_lowerHex _⟩

theorem display_requestPart {index : ℕ} {part : String} (hindex : index < 1000)
    (hlength : byteLen part ≤ 480) (hplain : Plain part) :
    display (requestPart index part) 512 = true := by
  have hdigits : byteLen (decimal index) ≤ 12 := byteLen_decimal_le (k := 3) (by decide) hindex
  have hhead : byteLen "Request part " = 13 := by decide
  have hcolon : byteLen ": " = 2 := by decide
  unfold requestPart
  rw [String.append_assoc, String.append_assoc, display_label (by decide) (by decide),
    byteLen_append, byteLen_append, plain_append, plain_append]
  exact ⟨by omega, plain_decimal index, by decide, hplain⟩

theorem display_labelled {text : String} {parts : List String} (h : Cuts text parts)
    (hplain : Plain text) {index : ℕ} (hindex : index + parts.length ≤ 1000) :
    ∀ s ∈ labelled index parts, display s 512 = true := by
  induction h generalizing index with
  | nil => exact List.forall_mem_nil _
  | cons nonempty length_le cuts ih =>
    obtain ⟨hpart, hrest⟩ := plain_append.mp hplain
    rw [List.length_cons] at hindex
    rw [labelled, List.forall_mem_cons]
    exact ⟨display_requestPart (by omega) length_le hpart, ih hrest (by omega)⟩

/-! ## Which requests can be disclosed -/

/-- The resources of what is disclosed fit in one statement. -/
theorem resources_fit {request : WorkRequest} {digest : String} {parts : List String}
    (hruled : ∀ resource ∈ request.resources, Ruled resource)
    (hvalid : (disclosed request digest parts).validate = .ok ()) :
    byteLen (join request.resources ", ") ≤ 501 := by
  obtain ⟨-, -, -, hstatements⟩ := validate_eq_ok.mp hvalid
  rw [← display_resources hruled]
  exact hstatements _ (by simp [disclosed, heading])

/-- An accepted request whose text can be displayed is disclosed if and only if its resources fit
in one statement. -/
theorem disclosure_ok_iff {crates : Crates} {isIpv6 : String → Bool}
    {decode : List UInt8 → Option Json} {raw : List UInt8} {request : WorkRequest}
    {key digest text : String} (hparse : parse crates isIpv6 decode raw = .ok request)
    (htext : request.canonical = utf8 text) (hplain : ∀ c ∈ text.toList, forbidden c = false)
    (hkey : idempotencyKeyDigestSha256 crates key = .ok digest) :
    (∃ d, disclosure crates request key = .ok d ∧ d.validate = .ok ()) ↔
      byteLen (join request.resources ", ") ≤ 501 := by
  obtain ⟨text', parts, hshown⟩ := exists_shown hparse hkey
  obtain rfl : text = text' := utf8_injective (htext.symm.trans hshown.canonical)
  have hnamed := named_parse hparse
  constructor
  · rintro ⟨d, hd, hvalid⟩
    obtain ⟨-, rfl⟩ := hshown.eq_ok_iff.mp hd
    exact resources_fit hnamed.ruled hvalid
  · intro hresources
    rw [← display_resources hnamed.ruled] at hresources
    have hvalid : (disclosed request digest parts).validate = .ok () := by
      have htitle : display "Devgraph request" 160 = true := by decide
      apply validate_eq_ok.mpr
      refine ⟨htitle, by simp [disclosed, heading], ?_, ?_⟩
      · rw [disclosed, List.length_append, length_labelled]
        exact Nat.add_le_add_left hshown.length_le 4
      · rw [disclosed, List.forall_mem_append]
        refine ⟨?_, display_labelled hshown.cuts hplain ?_⟩
        · simp only [heading, List.forall_mem_cons]
          exact ⟨display_operation hnamed.operation, hresources, display_version _,
            display_digest hkey, List.forall_mem_nil _⟩
        · have := hshown.length_le
          omega
    exact ⟨_, hshown.eq_ok_iff.mpr ⟨hvalid, rfl⟩, hvalid⟩

namespace Sample

theorem canonical_dependency (a b : String) :
    (dependency a b).canonical = utf8 (String.ofList (dependencyText a b)) := by
  rw [utf8_eq, String.toList_ofList]
  rfl

theorem allowed_of_all {l : List Char} (h : l.all (! forbidden ·)) :
    ∀ c ∈ l, forbidden c = false := by
  simpa using h

theorem parse_short :
    parse .transparent (fun _ => false) (decode "a" "b") (dependency "a" "b").canonical =
      .ok (dependency "a" "b") := by
  decide +kernel

theorem dependency_disclosed :
    byteLen (join (dependency "a" "b").resources ", ") ≤ 501 ∧
      ∃ d, disclosure .transparent (dependency "a" "b") key = .ok d ∧ d.validate = .ok () := by
  have hplain : ∀ c ∈ (String.ofList (dependencyText "a" "b")).toList, forbidden c = false := by
    rw [String.toList_ofList]
    exact allowed_of_all (by decide)
  have hfits : byteLen (join (dependency "a" "b").resources ", ") ≤ 501 := by decide
  have hok := disclosure_ok_iff parse_short (canonical_dependency "a" "b") hplain valid_key
  exact ⟨hfits, hok.mpr hfits⟩

theorem byteLen_longId {c : Char} (hc : c ∈ ['a', 'b']) : byteLen (longId c) = 256 := by
  have hall : ['a', 'b'].all fun c => byteLen (longId c) = 256 := by
    simp only [byteLen, utf8_eq, toList_longId]
    decide +kernel
  exact of_decide_eq_true (List.all_eq_true.mp hall c hc)

/-- A request that is accepted and plain, but whose two resources take 524 bytes. -/
theorem dependency_not_disclosed :
    parse .transparent (fun _ => false) (decode (longId 'a') (longId 'b')) long.canonical =
        .ok long ∧
      idempotencyKeyDigestSha256 .transparent key = .ok digest ∧
      (∃ text, long.canonical = utf8 text ∧
        ∀ c ∈ text.toList, forbidden c = false) ∧
      byteLen (join long.resources ", ") = 524 ∧
      disclosure .transparent long key =
        .error (.error "invalid_disclosure") := by
  have hplain : ∀ c ∈ (String.ofList (dependencyText (longId 'a') (longId 'b'))).toList,
      forbidden c = false := by
    rw [String.toList_ofList]
    simp only [dependencyText, targetText, JsonText.quote, JsonText.escape_eq, toList_longId]
    exact allowed_of_all (by decide +kernel)
  have hlength : byteLen (join long.resources ", ") = 524 := by
    have hjoin : join long.resources ", " =
        "Task/" ++ longId 'a' ++ (", " ++ ("Task/" ++ longId 'b')) := join_cons_cons _ _ _
    have hhead : byteLen "Task/" = 5 := by decide
    have hcomma : byteLen ", " = 2 := by decide
    rw [hjoin, byteLen_append, byteLen_append, byteLen_append, byteLen_append,
      @byteLen_longId 'a' (by simp), @byteLen_longId 'b' (by simp), hhead, hcomma]
  refine ⟨parse_long, valid_key, ⟨_, canonical_dependency _ _, hplain⟩, hlength, ?_⟩
  obtain ⟨text, parts, hshown⟩ := exists_shown parse_long valid_key
  rcases hshown.ok_or_invalid with hok | herror
  · have hfits := resources_fit (named_parse parse_long).ruled (hshown.eq_ok_iff.mp hok).1
    omega
  · exact herror

end Sample

end WorkDisclosures
