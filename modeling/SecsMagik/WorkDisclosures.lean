import SecsMagik.CharBoundaries
import SecsMagik.DevgraphAuthority
import SecsMagik.WorkVocabulary

/-! # The disclosure of a request

What a holder confirms before a credential is presented: a title and statements that describe the
request and then show its canonical text, cut into parts that a statement can hold.
-/
namespace WorkDisclosures

open RustStd
open WireCodec (Fault rejectIf rejectIf_eq_ok)
open ExternalCrates (Crates)
open CanonicalJson (Json)
open JsonMaps
open DevgraphAuthority (idempotencyKeyDigestSha256)
open WorkPolicies WorkRequests WorkVocabulary

/-! ## Statements -/

/-- The code points that `display` forbids: controls and directional formatting. -/
def forbidden (c : Char) : Bool :=
  let n := c.toNat
  n ≤ 0x1f || (0x7f ≤ n && n ≤ 0x9f) || n = 0x061c || (0x200e ≤ n && n ≤ 0x200f) ||
    (0x202a ≤ n && n ≤ 0x202e) || (0x2066 ≤ n && n ≤ 0x2069)

def display (value : String) (maximum : ℕ) : Bool :=
  value ≠ "" && byteLen value ≤ maximum && !value.toList.any forbidden

structure Disclosure where
  title : String
  statements : List String
  deriving DecidableEq

def Disclosure.validate (d : Disclosure) : Except String Unit :=
  rejectIf (display d.title 160 = false ∨ d.statements = [] ∨ d.statements.length > 144 ∨
    d.statements.any (fun s => !display s 512) = true) "invalid_disclosure"

/-- `value["expected_version"].as_u64()`, as text; a version that is no `u64` counts as new. -/
def expectedVersion (value : Json) : String :=
  match value.index "expected_version" with
  | .int n => if 0 ≤ n ∧ n < 2 ^ 64 then decimal n.toNat else "new"
  | _ => "new"

/-- The statements before the parts of the request. -/
def heading (request : WorkRequest) (digest : String) : List String :=
  ["Operation: " ++ request.operation, "Resources: " ++ join request.resources ", ",
    "Expected version: " ++ expectedVersion request.value, "Idempotency digest: " ++ digest]

def requestPart (index : ℕ) (part : String) : String :=
  "Request part " ++ decimal index ++ ": " ++ part

/-- The loop over the text. It may push `room` more parts, the next with number `141 - room`: the
bound of 140 on the number is what makes it end. -/
def pushParts : ℕ → String → List String → Except (Fault String) (List String)
  | 0, text, statements =>
    if text = "" then .ok statements else .error (.error "disclosure_too_large")
  | room + 1, text, statements =>
    if text = "" then .ok statements
    else do
      let stop := boundaryBelow text (min (byteLen text) 480)
      let part ← (strTo text stop).elim (.error .panic) .ok
      let rest ← (strFrom text stop).elim (.error .panic) .ok
      pushParts room rest (statements ++ [requestPart (140 - room) part])

def disclosure (crates : Crates) (request : WorkRequest) (key : String) :
    Except (Fault String) Disclosure := do
  let digest ← (idempotencyKeyDigestSha256 crates key).mapError
    fun _ => .error "invalid_idempotency_key"
  let text ← (fromUtf8 request.canonical).elim (.error (.error "invalid_request_encoding")) .ok
  let statements ← pushParts 140 text (heading request digest)
  let result : Disclosure := ⟨"Devgraph request", statements⟩
  result.validate.mapError .error
  return result

/-! ## The parts of a text -/

def labelled : ℕ → List String → List String
  | _, [] => []
  | index, part :: parts => requestPart index part :: labelled (index + 1) parts

theorem length_labelled (index : ℕ) (parts : List String) :
    (labelled index parts).length = parts.length := by
  induction parts generalizing index with
  | nil => rfl
  | cons part parts ih => rw [labelled, List.length_cons, ih, List.length_cons]

theorem requestPart_injective (index : ℕ) : Function.Injective (requestPart index) := by
  intro part part' h
  unfold requestPart at h
  exact (String.append_right_inj _).mp h

theorem labelled_injective (index : ℕ) : Function.Injective (labelled index) := by
  intro parts parts' h
  induction parts generalizing index parts' with
  | nil =>
    cases parts' with
    | nil => rfl
    | cons part' parts' => cases h
  | cons part parts ih =>
    cases parts' with
    | nil => cases h
    | cons part' parts' =>
      obtain ⟨hpart, hparts⟩ := List.cons.inj h
      rw [requestPart_injective index hpart, ih (index + 1) hparts]

/-- The text cut into parts that a statement can hold. -/
inductive Cuts : String → List String → Prop
  | nil : Cuts "" []
  | cons {part rest : String} {parts : List String} (nonempty : part ≠ "")
      (length_le : byteLen part ≤ 480) (cuts : Cuts rest parts) :
        Cuts (part ++ rest) (part :: parts)

variable {parts : List String} {text : String}

theorem Cuts.join_eq (h : Cuts text parts) :
    String.join parts = text := by
  induction h with
  | nil => rfl
  | cons _ _ _ ih => rw [String.join_cons, ih]

theorem Cuts.byteLen_le (h : Cuts text parts) : byteLen text ≤ 480 * parts.length := by
  induction h with
  | nil => exact Nat.zero_le _
  | cons _ hle _ ih =>
    rw [byteLen_append, List.length_cons]
    omega

theorem Cuts.isCharBoundary (h : Cuts text parts) (n : ℕ) :
    isCharBoundary text (byteLen (String.join (parts.take n))) = true := by
  refine isCharBoundary_iff.mpr ⟨String.join (parts.take n), String.join (parts.drop n), ?_, rfl⟩
  rw [← h.join_eq, ← String.join_append, List.take_append_drop]

/-- A turn of the loop: it cuts off a part, which is the whole text or at least 477 bytes of it. -/
theorem cut_part (h : text ≠ "") :
    ∃ part rest, strTo text (boundaryBelow text (min (byteLen text) 480)) = some part ∧
      strFrom text (boundaryBelow text (min (byteLen text) 480)) = some rest ∧
      text = part ++ rest ∧ part ≠ "" ∧ byteLen part ≤ 480 ∧ byteLen rest ≤ byteLen text - 477 := by
  have hpos := byteLen_pos h
  obtain ⟨part, rest, hpart, hrest, htext, hlength⟩ :=
    cut_of_isCharBoundary (isCharBoundary_boundaryBelow text (min (byteLen text) 480))
  have hle := boundaryBelow_le text (min (byteLen text) 480)
  have hsum : byteLen text = byteLen part + byteLen rest := by
    rw [← byteLen_append, ← htext]
  -- a text that fits is taken whole; of a longer one at most three bytes are put back
  have hcut : byteLen part = byteLen text ∨ 477 ≤ byteLen part := by
    rw [hlength]
    by_cases hfits : byteLen text ≤ 480
    · left
      rw [min_eq_left hfits, boundaryBelow_byteLen]
    · right
      have := sub_three_le_boundaryBelow (min_le_left (byteLen text) 480)
      omega
  refine ⟨part, rest, hpart, hrest, htext, ?_, by omega, by omega⟩
  rintro rfl
  have : byteLen "" = 0 := rfl
  omega

/-- The loop of a text that the remaining parts can hold. -/
theorem pushParts_eq_ok (room : ℕ) (text : String) (statements : List String) (hroom : room ≤ 140)
    (h : byteLen text ≤ 477 * room) :
    ∃ parts, Cuts text parts ∧ parts.length ≤ room ∧
      pushParts room text statements = .ok (statements ++ labelled (141 - room) parts) := by
  induction room generalizing text statements with
  | zero =>
    have hempty : text = "" := by
      by_contra hne
      have := byteLen_pos hne
      omega
    refine ⟨[], hempty ▸ .nil, le_rfl, ?_⟩
    rw [pushParts, if_pos hempty, labelled, List.append_nil]
  | succ room ih =>
    by_cases hempty : text = ""
    · refine ⟨[], hempty ▸ .nil, Nat.zero_le _, ?_⟩
      rw [pushParts, if_pos hempty, labelled, List.append_nil]
    · obtain ⟨part, rest, hpart, hrest, rfl, hne, hle, hlength⟩ := cut_part hempty
      obtain ⟨parts, hcuts, hcount, hloop⟩ := ih rest
        (statements ++ [requestPart (140 - room) part]) (by omega) (by omega)
      refine ⟨part :: parts, .cons hne hle hcuts, Nat.succ_le_succ hcount, ?_⟩
      have hindex : 141 - (room + 1) = 140 - room := by omega
      have hnext : 140 - room + 1 = 141 - room := by omega
      rw [pushParts, if_neg hempty, hindex, labelled, hnext]
      simp only [hpart, hrest, Option.elim_some]
      rw [List.append_assoc] at hloop
      exact hloop

/-! ## Accepted requests -/

def disclosed (request : WorkRequest) (digest : String) (parts : List String) : Disclosure :=
  ⟨"Devgraph request", heading request digest ++ labelled 1 parts⟩

section Accepted

variable {crates : Crates} {isIpv6 : String → Bool} {decode : List UInt8 → Option Json}
  {raw : List UInt8} {request : WorkRequest} {key digest : String}

theorem text_of_parse (h : parse crates isIpv6 decode raw = .ok request) :
    ∃ text, request.canonical = utf8 text ∧ byteLen text ≤ 65536 := by
  obtain ⟨value, -, hvalue⟩ := bind_eq_ok.mp h
  obtain ⟨-, -, hcanonical, hlength⟩ := length_canonical_le hvalue
  obtain ⟨text, -, hbytes⟩ := bind_eq_ok.mp hcanonical
  have htext : request.canonical = utf8 (String.ofList text) := by
    rw [utf8_eq, String.toList_ofList]
    exact (Except.ok.inj hbytes).symm
  exact ⟨String.ofList text, htext, by rwa [byteLen, ← htext]⟩

/-- What the loop pushes for the request, and that only the check of the statements follows. -/
structure Shown (crates : Crates) (request : WorkRequest) (key digest text : String)
    (parts : List String) : Prop where
  canonical : request.canonical = utf8 text
  cuts : Cuts text parts
  length_le : parts.length ≤ 140
  loop : pushParts 140 text (heading request digest) =
    .ok (heading request digest ++ labelled 1 parts)
  checked : disclosure crates request key =
    ((disclosed request digest parts).validate.mapError .error).map
      fun _ => disclosed request digest parts

theorem exists_shown (hparse : parse crates isIpv6 decode raw = .ok request)
    (hkey : idempotencyKeyDigestSha256 crates key = .ok digest) :
    ∃ text parts, Shown crates request key digest text parts := by
  obtain ⟨text, htext, hlength⟩ := text_of_parse hparse
  obtain ⟨parts, hcuts, hcount, hloop⟩ :=
    pushParts_eq_ok 140 text (heading request digest) le_rfl (by omega)
  refine ⟨text, parts, htext, hcuts, hcount, hloop, ?_⟩
  have hdecoded : fromUtf8 request.canonical = some text := fromUtf8_eq_some.mpr htext
  rw [disclosure, hkey, hdecoded]
  simp only [Except.mapError, Option.elim_some, hloop, bind, Except.bind]
  rw [disclosed]
  cases Disclosure.validate ⟨"Devgraph request", heading request digest ++ labelled 1 parts⟩ <;> rfl

theorem Shown.eq_ok_iff (h : Shown crates request key digest text parts) {d : Disclosure} :
    disclosure crates request key = .ok d ↔
      (disclosed request digest parts).validate = .ok () ∧ d = disclosed request digest parts := by
  rw [h.checked]
  cases (disclosed request digest parts).validate with
  | error e => simp [Except.mapError, Except.map]
  | ok u => simp [Except.mapError, Except.map, eq_comm]

/-- Once the loop is done only the check of the statements can fail. -/
theorem Shown.ok_or_invalid (h : Shown crates request key digest text parts) :
    disclosure crates request key = .ok (disclosed request digest parts) ∨
      disclosure crates request key = .error (.error "invalid_disclosure") := by
  rw [h.checked, Disclosure.validate, rejectIf]
  split_ifs
  · exact .inr rfl
  · exact .inl rfl

theorem digest_of_disclosure {d : Disclosure} (h : disclosure crates request key = .ok d) :
    ∃ digest, idempotencyKeyDigestSha256 crates key = .ok digest := by
  obtain ⟨digest, hdigest, -⟩ := bind_eq_ok.mp h
  exact ⟨digest, mapError_eq_ok.mp hdigest⟩

theorem disclosed_injective {request' : WorkRequest} {digest' : String} {parts parts' : List String}
    (h : disclosed request digest parts = disclosed request' digest' parts') : parts = parts' := by
  have hstatements := congrArg Disclosure.statements h
  have hlength : (heading request digest).length = (heading request' digest').length := rfl
  exact labelled_injective 1 (List.append_inj hstatements hlength).2

/-- The disclosure of an accepted request shows every byte of its canonical form, cut between
characters into parts that always suffice; so it tells requests apart. -/
theorem disclosure_shows_request (hparse : parse crates isIpv6 decode raw = .ok request)
    (hkey : idempotencyKeyDigestSha256 crates key = .ok digest) :
    (∃ text parts, request.canonical = utf8 text ∧
      pushParts 140 text (heading request digest) =
        .ok (heading request digest ++ labelled 1 parts) ∧
      (∀ n, isCharBoundary text (byteLen (String.join (parts.take n))) = true) ∧
      utf8 (String.join parts) = request.canonical ∧
      (disclosure crates request key = .ok (disclosed request digest parts) ∨
        disclosure crates request key = .error (.error "invalid_disclosure"))) ∧
    ∀ raw' request' key' d, parse crates isIpv6 decode raw' = .ok request' →
      disclosure crates request key = .ok d → disclosure crates request' key' = .ok d →
        request'.canonical = request.canonical := by
  obtain ⟨text, parts, hshown⟩ := exists_shown hparse hkey
  constructor
  · refine ⟨text, parts, hshown.canonical, hshown.loop, hshown.cuts.isCharBoundary, ?_,
      hshown.ok_or_invalid⟩
    rw [hshown.cuts.join_eq, hshown.canonical]
  · intro raw' request' key' d hparse' hd hd'
    obtain ⟨digest', hkey'⟩ := digest_of_disclosure hd'
    obtain ⟨text', parts', hshown'⟩ := exists_shown hparse' hkey'
    obtain ⟨-, hd⟩ := hshown.eq_ok_iff.mp hd
    obtain ⟨-, hd'⟩ := hshown'.eq_ok_iff.mp hd'
    have hparts : parts' = parts := disclosed_injective (hd'.symm.trans hd)
    rw [hshown'.canonical, hshown.canonical, ← hshown'.cuts.join_eq, ← hshown.cuts.join_eq, hparts]

end Accepted

namespace Sample

/-! A task that comes to wait for another one. -/

def targetTree (b : String) : Json :=
  .object [("expected_version", .int 1), ("id", .string b), ("kind", .string "Task")]

def dependencyTree (a b : String) : Json :=
  .object [("expected_version", .int 1), ("id", .string a), ("kind", .string "Task"),
    ("operation", .string "dependency.add"), ("payload", .object [("target", targetTree b)]),
    ("schema", .string "devgraph.work-request.v1")]

def targetText (b : String) : List Char :=
  JsonText.object id [("expected_version", ['1']), ("id", JsonText.quote b),
    ("kind", JsonText.quote "Task")]

def dependencyText (a b : String) : List Char :=
  JsonText.object id [("expected_version", ['1']), ("id", JsonText.quote a),
    ("kind", JsonText.quote "Task"), ("operation", JsonText.quote "dependency.add"),
    ("payload", JsonText.object id [("target", targetText b)]),
    ("schema", JsonText.quote "devgraph.work-request.v1")]

def dependency (a b : String) : WorkRequest :=
  ⟨dependencyTree a b, (dependencyText a b).flatMap String.utf8EncodeChar,
    "devgraph.work.dependency.add.v1", ["Task/" ++ a, "Task/" ++ b]⟩

/-- A parser that knows the text of the request. -/
def decode (a b : String) (raw : List UInt8) : Option Json :=
  if raw = (dependency a b).canonical then some (dependencyTree a b) else none

def key : String := "0123456789abcdef"

def digest : String := lowerHex (Crates.transparent.sha256 (utf8 key)).val

theorem valid_key : idempotencyKeyDigestSha256 Crates.transparent key = .ok digest := by
  decide

def longId (c : Char) : String := String.ofList (List.replicate 256 c)

theorem toList_longId (c : Char) : (longId c).toList = List.replicate 256 c := String.toList_ofList

def long : WorkRequest := dependency (longId 'a') (longId 'b')

theorem length_long : long.canonical.length = 687 := by
  simp only [long, dependency, dependencyText, targetText, JsonText.quote, JsonText.escape_eq,
    toList_longId]
  decide +kernel

theorem parse_long :
    parse Crates.transparent (fun _ => false) (decode (longId 'a') (longId 'b')) long.canonical =
      .ok long := by
  decide +kernel

/-- A text that does not fit one statement. -/
theorem dependency_shown :
    ∃ text parts, long.canonical = utf8 text ∧ 1 < parts.length ∧
      utf8 (String.join parts) = long.canonical ∧
      pushParts 140 text (heading long digest) =
        .ok (heading long digest ++ labelled 1 parts) := by
  obtain ⟨⟨text, parts, htext, hloop, -, hjoin, -⟩, -⟩ :=
    disclosure_shows_request parse_long valid_key
  obtain ⟨text', parts', hshown⟩ := exists_shown parse_long valid_key
  obtain rfl : text' = text := utf8_injective (hshown.canonical.symm.trans htext)
  have hstatements := Except.ok.inj (hshown.loop.symm.trans hloop)
  obtain rfl : parts' = parts := labelled_injective 1 (List.append_cancel_left hstatements)
  have hlength : byteLen text' = 687 := by
    rw [byteLen, ← htext, length_long]
  have hle := hshown.cuts.byteLen_le
  exact ⟨text', parts', htext, by omega, hjoin, hloop⟩

end Sample

end WorkDisclosures
