import SecsMagik.FrankContracts

/-! # Three canonical writers

The credential module, the result authority and the local administration tool each write canonical
JSON on their own. On the trees that all of them take, they write the text of the JSON
Canonicalization Scheme.
-/
namespace CanonicalWriters

open RustStd
open WireCodec (rejectIf)
open CanonicalJson (Json)
open CanonicalJson.Json (utf16 utf16Char writeScalar writeInt)
open StrictJson (isAscii canonicalText)
open FrankContracts (emit)
open WorkPolicies (maxSafe)

/-! ## The writer of the local administration tool -/

def invalidRequest : String := "invalid_request"

def localScalar : Json → Except String (List Char)
  | .int n => if n.natAbs > maxSafe.toNat then .error invalidRequest else .ok (writeInt n)
  | .float _ => .error invalidRequest
  | v => .ok (writeScalar v)

def localText : Json → ℕ → Except String (List Char) :=
  Json.fold
    (fun v depth => do
      rejectIf (depth > 16) invalidRequest
      localScalar v)
    (fun items depth => do
      rejectIf (depth > 16) invalidRequest
      let items ← items.mapM (· (depth + 1))
      return JsonText.array id items)
    fun members depth => do
      rejectIf (depth > 16) invalidRequest
      let entries ← (members.insertionSort (·.1 ≤ ·.1)).mapM fun m => do
        rejectIf (isAscii m.1 = false) invalidRequest
        let value ← m.2 (depth + 1)
        return (m.1, value)
      return JsonText.object id entries

/-- `canonical` of the tool -/
def localCanonical (v : Json) (depth : ℕ) : Except String (List UInt8) := do
  let text ← localText v depth
  return text.flatMap String.utf8EncodeChar

/-! ## The trees that every writer takes -/

def portableScalar : Json → Bool
  | .int n => n.natAbs ≤ maxSafe.toNat
  | .float _ => false
  | _ => true

/-- Keys are ASCII and every number is an integer that readers represent exactly. -/
def portable : Json → Bool :=
  Json.fold portableScalar (fun items => items.all id) fun members =>
    members.all fun m => isAscii m.1 && m.2

theorem portable_array {items : List Json} :
    portable (.array items) = true ↔ ∀ v ∈ items, portable v = true := by
  rw [portable, Json.fold_array]
  simp

theorem portable_object {members : List (String × Json)} :
    portable (.object members) = true ↔
      ∀ m ∈ members, isAscii m.1 = true ∧ portable m.2 = true := by
  rw [portable, Json.fold_object]
  simp

/-! ## Order of the keys -/

theorem utf16_of_ascii {s : String} (h : isAscii s = true) :
    utf16 s = s.toList.map (·.toNat) := by
  rw [utf16, chars_eq, List.map_eq_flatMap]
  refine List.flatMap_congr fun c hc => ?_
  have hsmall := List.all_eq_true.mp h c hc
  rw [decide_eq_true_eq] at hsmall
  rw [utf16Char, if_pos (by omega)]

theorem map_toNat_lt_iff (cs ds : List Char) :
    cs.map (·.toNat) < ds.map (·.toNat) ↔ cs < ds := by
  induction cs generalizing ds with
  | nil => cases ds <;> simp
  | cons c cs ih =>
    cases ds with
    | nil => simp
    | cons d ds =>
      rw [List.map_cons, List.map_cons, List.cons_lt_cons_iff, List.cons_lt_cons_iff, ih,
        Char.toNat_inj]
      rfl

/-- Bytes, characters and UTF-16 code units put ASCII keys into one order. -/
theorem le_iff_utf16_le {s t : String} (hs : isAscii s = true) (ht : isAscii t = true) :
    s ≤ t ↔ utf16 s ≤ utf16 t := by
  rw [← not_lt, ← not_lt, utf16_of_ascii hs, utf16_of_ascii ht, map_toNat_lt_iff,
    String.lt_iff_toList_lt]

/-! ## Agreement -/

theorem mapM_eq_ok_map {ε α β : Type} {f : α → Except ε β} {g : α → β} {xs : List α}
    (h : ∀ x ∈ xs, f x = .ok (g x)) : xs.mapM f = .ok (xs.map g) := by
  induction xs with
  | nil => rfl
  | cons x xs ih =>
    obtain ⟨hx, hxs⟩ := List.forall_mem_cons.mp h
    rw [List.mapM_cons, hx, ih hxs]
    rfl

theorem sort_map {α : Type} (f : Json → α) (members : List (String × Json)) :
    (members.map fun m => (m.1, f m.2)).insertionSort (·.1 ≤ ·.1) =
      (members.insertionSort (·.1 ≤ ·.1)).map fun m => (m.1, f m.2) := by
  refine (List.map_insertionSort _ _ _ _ fun m _ m' _ => ?_).symm
  rfl

variable {members : List (String × Json)} {n : ℕ}

theorem write_object (h : ∀ m ∈ members, isAscii m.1 = true) :
    (Json.object members).write =
      JsonText.object id ((members.insertionSort (·.1 ≤ ·.1)).map fun m => (m.1, m.2.write)) := by
  rw [Json.write_object]
  refine congrArg _ (List.map_insertionSort _ _ _ _ fun m hm m' hm' => ?_).symm
  exact le_iff_utf16_le (h m hm) (h m' hm')

theorem writers_agree {v : Json} (hportable : portable v = true) (hdepth : n + v.height ≤ 16) :
    canonicalText v = .ok v.write ∧ emit v = v.write ∧ localText v n = .ok v.write := by
  have hshallow : ∀ {k : ℕ}, k ≤ 16 → rejectIf (k > 16) invalidRequest = .ok () :=
    fun h => if_neg (Nat.not_lt.mpr h)
  induction v using Json.induct generalizing n with
  | null | bool b | string text =>
    refine ⟨rfl, rfl, ?_⟩
    simp only [localText, Json.fold, hshallow (Nat.le_of_add_right_le hdepth)]
    rfl
  | float text => cases hportable
  | int i =>
    have hsafe : i.natAbs ≤ maxSafe.toNat := of_decide_eq_true hportable
    refine ⟨if_pos hsafe, rfl, ?_⟩
    simp only [localText, Json.fold, hshallow (Nat.le_of_add_right_le hdepth)]
    exact if_neg (Nat.not_lt.mpr hsafe)
  | array items ih =>
    obtain ⟨hn, hitems⟩ := Json.add_height_array_le_iff.mp hdepth
    rw [portable_array] at hportable
    have hall := fun v hv => ih v hv (hportable v hv) (hitems v hv)
    refine ⟨?_, ?_, ?_⟩
    · rw [canonicalText, Json.fold_array, List.mapM_map, Json.write_array]
      exact congrArg (·.map (JsonText.array id)) (mapM_eq_ok_map fun v hv => (hall v hv).1)
    · rw [emit, Json.fold_array, Json.write_array]
      exact congrArg _ (List.map_congr_left fun v hv => (hall v hv).2.1)
    · rw [localText, Json.fold_array, hshallow hn, List.mapM_map, Json.write_array]
      exact congrArg (·.map (JsonText.array id)) (mapM_eq_ok_map fun v hv => (hall v hv).2.2)
  | object members ih =>
    obtain ⟨hn, hmembers⟩ := Json.add_height_object_le_iff.mp hdepth
    rw [portable_object] at hportable
    have hall : ∀ m ∈ members.insertionSort (·.1 ≤ ·.1), isAscii m.1 = true ∧
        canonicalText m.2 = .ok m.2.write ∧ emit m.2 = m.2.write ∧
        localText m.2 (n + 1) = .ok m.2.write := by
      intro m hm
      rw [List.mem_insertionSort] at hm
      exact ⟨(hportable m hm).1, ih m hm (hportable m hm).2 (hmembers m hm)⟩
    rw [write_object fun m hm => (hportable m hm).1]
    refine ⟨?_, ?_, ?_⟩
    · rw [canonicalText, Json.fold_object, sort_map, List.mapM_map,
        mapM_eq_ok_map (g := fun m => (m.1, m.2.write))]
      · rfl
      · intro m hm
        change (do rejectIf (isAscii m.1 = false) _; let value ← canonicalText m.2; _) = _
        rw [(hall m hm).1, (hall m hm).2.1]
        rfl
    · rw [emit, Json.fold_object, sort_map]
      refine congrArg _ (List.map_congr_left fun m hm => ?_)
      exact congrArg _ (hall m hm).2.2.1
    · rw [localText, Json.fold_object, hshallow hn, sort_map, List.mapM_map,
        mapM_eq_ok_map (g := fun m => (m.1, m.2.write))]
      · rfl
      · intro m hm
        change (do rejectIf (isAscii m.1 = false) _; let value ← localText m.2 (n + 1); _) = _
        rw [(hall m hm).1, (hall m hm).2.2.2]
        rfl

/-- On a tree of ASCII keys and safe integers that nests at most 16 deep, the three writers return
the bytes of the canonicalization scheme. -/
theorem canonical_writers_agree (v : Json) (hportable : portable v = true)
    (hdepth : v.height ≤ 16) :
    StrictJson.canonical v = .ok v.bytes ∧ FrankContracts.json v = v.bytes ∧
      localCanonical v 0 = .ok v.bytes := by
  obtain ⟨hserver, hauthority, htool⟩ := @writers_agree 0 v hportable (by omega)
  refine ⟨?_, ?_, ?_⟩
  · rw [StrictJson.canonical, hserver]
    rfl
  · rw [FrankContracts.json, hauthority]
    rfl
  · rw [localCanonical, htool]
    rfl

namespace Sample

def grant : Json :=
  .object [("scope", .array [.string "é", .int (-3)]), ("id", .null), ("at", .object [])]

theorem grant_written_alike :
    StrictJson.canonical grant = .ok grant.bytes ∧ FrankContracts.json grant = grant.bytes ∧
      localCanonical grant 0 = .ok grant.bytes :=
  canonical_writers_agree grant (by decide) (by decide)

end Sample

end CanonicalWriters
