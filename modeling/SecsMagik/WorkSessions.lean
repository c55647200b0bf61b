import SecsMagik.ExternalCrates
import SecsMagik.StrictJson

/-! # Session attachments

The payload that attaches a session to a work item. The resources of the request are derived from
the identities it names: the digest of a canonical text stands for each.
-/
namespace WorkSessions

open RustStd
open WireCodec (rejectIf rejectIf_eq_ok)
open ExternalCrates (Crates)
open CanonicalJson (Json)
open JsonMaps StrictJson

def invalid : String := "invalid_work_request"

def fields (value : Json) (required : List String) : Except String Unit := exact value required

def isOpaque (value : String) : Bool :=
  let bytes := utf8 value
  bytes ≠ [] && bytes.length ≤ 256 && bytes.head?.any isAsciiAlphanumeric &&
    bytes.all fun b => isAsciiAlphanumeric b || b ∈ utf8 "._~-"

def isApplication (app : String) : Bool :=
  app ≠ "" && byteLen app ≤ 64 && (utf8 app).head?.any isAsciiLowercase &&
    (utf8 app).all fun b => isAsciiLowercase b || isAsciiDigit b || b == 45

/-! ## Times -/

def number (digits : List UInt8) : ℕ := digits.foldl (fun n b => 10 * n + (b.toNat - 48)) 0

def daysIn (year month : ℕ) : ℕ :=
  let leap := year % 4 = 0 ∧ (year % 100 ≠ 0 ∨ year % 400 = 0)
  if month = 2 then if leap then 29 else 28
  else if month ∈ [4, 6, 9, 11] then 30
  else if month ∈ [1, 3, 5, 7, 8, 10, 12] then 31
  else 0

/-- The body of `utc` once the zone is off. -/
def utcBody (b : List UInt8) : Bool :=
  let part start stop := (b.take stop).drop start
  let parts := [part 0 4, part 5 7, part 8 10, part 11 13, part 14 16, part 17 19]
  let n := parts.map number
  b.all (· < 128) && 19 ≤ b.length && b.length ≤ 26 && b[4]? = some 45 && b[7]? = some 45 &&
    b[10]? = some 84 && b[13]? = some 58 && b[16]? = some 58 && parts.all (·.all isAsciiDigit) &&
    (b.length = 19 || (b[19]? = some 46 && 21 ≤ b.length && (b.drop 20).all isAsciiDigit)) &&
    0 < n[0]! && 0 < n[2]! && n[2]! ≤ daysIn n[0]! n[1]! && n[3]! < 24 && n[4]! < 60 && n[5]! < 60

def utc (value : String) : Bool :=
  ((stripSuffix value "Z").or (stripSuffix value "+00:00")).any fun body => utcBody (utf8 body)

/-! ## Identities -/

section

variable (crates : Crates)

def hexDigestOf (canonical : String) : String := lowerHex (crates.sha256 (utf8 canonical)).val

def identity (value : Json) : Except String String := do
  fields value ["application", "source_instance_id", "external_session_id"]
  let app ← text value "application"
  let source ← text value "source_instance_id"
  let external ← text value "external_session_id"
  rejectIf (isApplication app = false ∨ isOpaque source = false ∨ isOpaque external = false) invalid
  return "sr-" ++ hexDigestOf crates ("\x7b\"application\":\"" ++ app ++
    "\",\"external_session_id\":\"" ++ external ++ "\",\"source_instance_id\":\"" ++ source ++
    "\"\x7d")

/-- The resources of a link between two sessions, of which the attached one is an end. -/
def linkResources (session : String) (link : Json) (resources : List String) :
    Except String (List String) := do
  fields link ["source_instance_id", "event_id", "attempt_id", "relation", "origin", "target",
    "observed_at", "basis"]
  ["source_instance_id", "event_id", "attempt_id"].forM fun key => do
    let value ← text link key
    rejectIf (isOpaque value = false) invalid
  let origin ← identity crates (link.index "origin")
  let target ← identity crates (link.index "target")
  let observed ← text link "observed_at"
  let relation ← text link "relation"
  let basis ← text link "basis"
  rejectIf (origin = target ∨ (session ≠ origin ∧ session ≠ target) ∨ utc observed = false ∨
    relation ∉ ["delegated_to", "forked_from", "uses_runtime"] ∨
    basis ∉ ["declared", "source_observed"]) invalid
  let source ← text link "source_instance_id"
  let event ← text link "event_id"
  let canonical := "[\"" ++ source ++ "\",\"" ++ event ++ "\"]"
  return setInsert ("SessionRef/" ++ target) (setInsert ("SessionRef/" ++ origin)
    (setInsert ("SessionLink/sl-" ++ hexDigestOf crates canonical) resources))

/-- `normalize` on a payload that has its `link`. -/
def attach (value : Json) (resources : List String) : Except String (List String) := do
  fields value ["session", "observed_at", "basis", "link"]
  let session ← identity crates (value.index "session")
  let observed ← text value "observed_at"
  let basis ← text value "basis"
  rejectIf (utc observed = false ∨
    basis ∉ ["inspected", "declared_scope", "source_observed"]) invalid
  let resources := setInsert ("SessionRef/" ++ session) resources
  if value.index "link" = .null then return resources
  else linkResources crates session (value.index "link") resources

def normalize (raw : Json) (resources : List String) : Except String (Json × List String) := do
  let object ← raw.asObject.elim (.error invalid) .ok
  let value := .object (orInsert "link" .null object)
  let resources ← attach crates value resources
  return (value, resources)

end

example : utc "2024-02-29T23:59:59.123456Z" = true := by decide

example : utc "2023-02-29T00:00:00+00:00" = false := by decide

/-! ## Normalizing again -/

section Again

variable {crates : Crates} {raw v : Json} {resources resources' : List String}

theorem normalize_eq_ok :
    normalize crates raw resources = .ok (v, resources') ↔
      ∃ object, raw = .object object ∧ v = .object (orInsert "link" .null object) ∧
        attach crates v resources = .ok resources' := by
  have hobject : ∀ object, raw.asObject = some object ↔ raw = .object object := by
    intro object
    cases raw <;> simp [Json.asObject]
  simp only [normalize, bind_eq_ok, elim_eq_ok, hobject, pure, Except.pure, Except.ok.injEq,
    Prod.mk.injEq]
  constructor
  · rintro ⟨object, rfl, out, hattach, rfl, rfl⟩
    exact ⟨object, rfl, rfl, hattach⟩
  · rintro ⟨object, rfl, rfl, hattach⟩
    exact ⟨object, rfl, resources', hattach, rfl, rfl⟩

theorem normalize_again (h : normalize crates raw resources = .ok (v, resources')) :
    normalize crates v resources = .ok (v, resources') := by
  obtain ⟨object, -, rfl, hattach⟩ := normalize_eq_ok.mp h
  refine normalize_eq_ok.mpr ⟨_, rfl, ?_, hattach⟩
  rw [orInsert_of_mem (mem_keys_orInsert.mpr (.inl rfl))]

theorem isObject_normalize (h : normalize crates raw resources = .ok (v, resources')) :
    v.isObject = true := by
  obtain ⟨_, -, rfl, -⟩ := normalize_eq_ok.mp h
  rfl

theorem clean_normalize {n : ℕ} (hn : n < 16) (hclean : Clean n raw)
    (h : normalize crates raw resources = .ok (v, resources')) : Clean n v := by
  obtain ⟨object, rfl, rfl, -⟩ := normalize_eq_ok.mp h
  rw [orInsert]
  split
  · exact hclean
  · exact hclean.insert (by decide) (clean_null hn)

end Again

end WorkSessions
