import SecsMagik.JsonMaps
import SecsMagik.WorkPolicies

/-! # Strict JSON

The trees a receiver reads from a request: no duplicate keys, no fractions, integers that every
reader represents exactly, and bounded nesting. The canonical writer of the credential module goes
with them.
-/
namespace StrictJson

open RustStd
open WireCodec (rejectIf rejectIf_eq_ok)
open CanonicalJson (Json)
open JsonMaps
open WorkPolicies (maxSafe)

def privateNumber : String := "$serde_json::private::Number"

/-! ## Reading -/

def strictScalar : Json → Option Json
  | .int n => if n.natAbs > maxSafe.toNat then none else some (.int n)
  | .float _ => none
  | v => some v

/-- The loop of `visit_map`. -/
def strictMember (fields : List (String × Json)) (m : String × Option Json) :
    Option (List (String × Json)) :=
  m.2.bind fun value =>
    if m.1 = privateNumber ∨ m.1 ∈ keys fields then none else some (insert m.1 value fields)

/-- The visitor of `StrictValue`. -/
def strictValue : Json → Option Json :=
  Json.fold strictScalar (fun items => (items.mapM id).map .array)
    fun members => (members.foldlM strictMember []).map .object

def depth : Json → ℕ → Bool :=
  Json.fold (fun _ n => n ≤ 16) (fun items n => n ≤ 16 && items.all (· (n + 1)))
    fun members n => n ≤ 16 && members.all (·.2 (n + 1))

/-- `decode` is the tree the bytes spell, with the members of an object as they come. -/
def strictJson (decode : List UInt8 → Option Json) (raw : List UInt8) (maximum : ℕ) :
    Except String Json := do
  rejectIf (raw.length > maximum) "json_too_large"
  let value ← ((decode raw).bind strictValue).elim (.error "invalid_json") .ok
  rejectIf (depth value 0 = false) "invalid_json"
  return value

/-! ## Writing -/

def isAscii (s : String) : Bool := s.toList.all (·.toNat < 128)

def canonicalScalar : Json → Except String (List Char)
  | .int n =>
    if n.natAbs ≤ maxSafe.toNat then .ok (Json.writeInt n) else .error "invalid_canonical_number"
  | .float _ => .error "invalid_canonical_number"
  | v => .ok (Json.writeScalar v)

/-- `append` -/
def canonicalText : Json → Except String (List Char) :=
  Json.fold canonicalScalar
    (fun items => do
      let items ← items.mapM id
      return JsonText.array id items)
    fun members => do
      let members ← (members.insertionSort (·.1 ≤ ·.1)).mapM fun m => do
        rejectIf (isAscii m.1 = false) "non_ascii_field"
        let value ← m.2
        return (m.1, value)
      return JsonText.object id members

def canonical (value : Json) : Except String (List UInt8) := do
  let text ← canonicalText value
  return text.flatMap String.utf8EncodeChar

/-! ## Members -/

def invalidWorkRequest : String := "invalid_work_request"

def text (v : Json) (key : String) : Except String String :=
  (v.index key).asStr.elim (.error invalidWorkRequest) .ok

def positive : Json → Except String ℕ
  | .int n =>
    if 1 ≤ n ∧ n ≤ maxSafe.toNat then .ok n.toNat else .error invalidWorkRequest
  | _ => .error invalidWorkRequest

def exact (v : Json) (fields : List String) : Except String Unit := do
  let object ← v.asObject.elim (.error invalidWorkRequest) .ok
  rejectIf (object.length ≠ fields.length ∨ ∃ key ∈ fields, key ∉ keys object) invalidWorkRequest

/-- `v[key] = x` for an object. -/
def setMember (key : String) (x : Json) : Json → Json
  | .object members => .object (insert key x members)
  | v => v

/-! ## What has been read strictly -/

theorem strictValue_array (items : List Json) :
    strictValue (.array items) = (items.mapM strictValue).map .array := by
  rw [strictValue, Json.fold_array, List.mapM_map]
  rfl

theorem strictValue_object (members : List (String × Json)) :
    strictValue (.object members) =
      ((members.map fun m => (m.1, strictValue m.2)).foldlM strictMember []).map .object := by
  rw [strictValue, Json.fold_object]

theorem mapM_eq_some {α β : Type} {f : α → Option β} {xs : List α} {ys : List β} :
    xs.mapM f = some ys ↔ List.Forall₂ (fun x y => f x = some y) xs ys := by
  induction xs generalizing ys with
  | nil => simp [eq_comm]
  | cons x xs ih =>
    simp only [List.mapM_cons, Option.bind_eq_bind, Option.pure_def, Option.bind_eq_some_iff,
      Option.some.injEq, ih, List.forall₂_cons_left_iff]
    constructor
    · rintro ⟨y, hy, rest, hrest, rfl⟩
      exact ⟨y, rest, hy, hrest, rfl⟩
    · rintro ⟨y, rest, hy, hrest, rfl⟩
      exact ⟨y, hy, rest, hrest, rfl⟩

theorem map_eq_ok {ε α β : Type} {x : Except ε α} {f : α → β} {b : β} :
    x.map f = .ok b ↔ ∃ a, x = .ok a ∧ f a = b := by
  cases x with
  | error e => simp [Except.map]
  | ok a => simp [Except.map]

/-- A tree that strict reading leaves as it is. -/
def Strict (v : Json) : Prop := strictValue v = some v

theorem strict_array_iff {items : List Json} :
    Strict (.array items) ↔ ∀ v ∈ items, Strict v := by
  rw [Strict, strictValue_array, Option.map_eq_some_iff]
  constructor
  · rintro ⟨read, hread, heq⟩
    cases heq
    have hsame := mapM_eq_some.mp hread
    rw [List.forall₂_same] at hsame
    exact hsame
  · intro h
    exact ⟨items, mapM_eq_some.mpr (List.forall₂_same.mpr h), rfl⟩

/-- What the loop over the members keeps of the fields read so far and of those to come. -/
theorem foldlM_strictMember {members : List (String × Option Json)}
    {fields result : List (String × Json)} (h : members.foldlM strictMember fields = some result)
    (hfields : Ascending fields) :
    Ascending result ∧ ∀ m ∈ result, m ∈ fields ∨
      (m.1 ≠ privateNumber ∧ (m.1, some m.2) ∈ members) := by
  induction members generalizing fields with
  | nil =>
    cases h
    exact ⟨hfields, fun m hm => .inl hm⟩
  | cons entry rest ih =>
    obtain ⟨key, read⟩ := entry
    rw [List.foldlM_cons, Option.bind_eq_bind, Option.bind_eq_some_iff] at h
    obtain ⟨next, hnext, hrest⟩ := h
    simp only [strictMember, Option.bind_eq_some_iff, Option.ite_none_left_eq_some, not_or,
      Option.some.injEq] at hnext
    obtain ⟨value, rfl, ⟨hprivate, -⟩, rfl⟩ := hnext
    obtain ⟨hascending, hmem⟩ := ih hrest (ascending_insert hfields)
    refine ⟨hascending, ?_⟩
    intro m hm
    rcases hmem m hm with h | ⟨hne, h⟩
    · rcases mem_insert h with rfl | h
      · exact .inr ⟨hprivate, List.mem_cons_self⟩
      · exact .inl h
    · exact .inr ⟨hne, List.mem_cons_of_mem _ h⟩

theorem foldlM_strictMember_of_ascending {fields members : List (String × Json)}
    (hascending : Ascending (fields ++ members)) (hkeys : ∀ m ∈ members, m.1 ≠ privateNumber) :
    (members.map fun m => (m.1, some m.2)).foldlM strictMember fields =
      some (fields ++ members) := by
  induction members generalizing fields with
  | nil => simp
  | cons m rest ih =>
    have hlt : ∀ k ∈ keys fields, k < m.1 := by
      intro k hk
      have hpair := hascending
      rw [Ascending, keys, List.map_append, List.pairwise_append] at hpair
      exact hpair.2.2 k hk m.1 List.mem_cons_self
    have hnew : m.1 ∉ keys fields := fun h => lt_irrefl _ (hlt _ h)
    have hstep : strictMember fields (m.1, some m.2) = some (fields ++ [m]) := by
      rw [strictMember, Option.bind_some, if_neg (not_or.mpr ⟨hkeys m List.mem_cons_self, hnew⟩),
        insert_of_lt hlt]
    rw [List.map_cons, List.foldlM_cons, hstep]
    have hrest := @ih (fields ++ [m])
      (by rwa [List.append_assoc, List.singleton_append])
      fun m' hm' => hkeys m' (List.mem_cons_of_mem _ hm')
    rwa [List.append_assoc, List.singleton_append] at hrest

theorem strict_of_strictValue {v : Json} : ∀ {read : Json}, strictValue v = some read →
    Strict read := by
  induction v using Json.induct with
  | null =>
    rintro _ ⟨⟩
    rfl
  | bool b =>
    rintro _ ⟨⟩
    rfl
  | string text =>
    rintro _ ⟨⟩
    rfl
  | float text => simp [strictValue, Json.fold, strictScalar]
  | int n =>
    intro read h
    have hread : read = .int n := by
      simp only [strictValue, Json.fold, strictScalar, Option.ite_none_left_eq_some,
        Option.some.injEq] at h
      exact h.2.symm
    rw [hread] at h ⊢
    exact h
  | array items ih =>
    intro read h
    rw [strictValue_array, Option.map_eq_some_iff] at h
    obtain ⟨out, hout, rfl⟩ := h
    rw [strict_array_iff]
    intro v hv
    obtain ⟨i, hi, rfl⟩ := List.getElem_of_mem hv
    have hforall := mapM_eq_some.mp hout
    have hi' : i < items.length := hforall.length_eq ▸ hi
    exact ih _ (List.getElem_mem hi') (List.forall₂_iff_get.mp hforall |>.2 i hi' hi)
  | object members ih =>
    intro read h
    rw [strictValue_object, Option.map_eq_some_iff] at h
    obtain ⟨fields, hfields, rfl⟩ := h
    obtain ⟨hascending, hmem⟩ := foldlM_strictMember hfields List.Pairwise.nil
    have hread : ∀ m ∈ fields, m.1 ≠ privateNumber ∧ strictValue m.2 = some m.2 := by
      intro m hm
      rcases hmem m hm with h | ⟨hne, h⟩
      · exact absurd h List.not_mem_nil
      · obtain ⟨m', hm', heq⟩ := List.mem_map.mp h
        obtain ⟨-, hvalue⟩ := Prod.mk.inj heq
        exact ⟨hne, ih m' hm' hvalue⟩
    have hsame : (fields.map fun m => (m.1, strictValue m.2)) =
        fields.map fun m => (m.1, some m.2) :=
      List.map_congr_left fun m hm => by rw [(hread m hm).2]
    rw [Strict, strictValue_object, hsame,
      @foldlM_strictMember_of_ascending [] _ hascending fun m hm => (hread m hm).1]
    rfl

variable {members : List (String × Json)}

theorem strict_object_iff :
    Strict (.object members) ↔
      Ascending members ∧ ∀ m ∈ members, m.1 ≠ privateNumber ∧ Strict m.2 := by
  constructor
  · intro h
    rw [Strict, strictValue_object, Option.map_eq_some_iff] at h
    obtain ⟨fields, hfields, heq⟩ := h
    cases heq
    obtain ⟨hascending, hmem⟩ := foldlM_strictMember hfields List.Pairwise.nil
    refine ⟨hascending, ?_⟩
    intro m hm
    rcases hmem m hm with h | ⟨hne, h⟩
    · exact absurd h List.not_mem_nil
    · obtain ⟨m', -, heq⟩ := List.mem_map.mp h
      exact ⟨hne, strict_of_strictValue (Prod.mk.inj heq).2⟩
  · rintro ⟨hascending, hmembers⟩
    have hsame : (members.map fun m => (m.1, strictValue m.2)) =
        members.map fun m => (m.1, some m.2) :=
      List.map_congr_left fun m hm => by rw [(hmembers m hm).2]
    rw [Strict, strictValue_object, hsame,
      @foldlM_strictMember_of_ascending [] _ hascending fun m hm => (hmembers m hm).1]
    rfl

theorem depth_iff (v : Json) (n : ℕ) : depth v n = true ↔ n + v.height ≤ 16 := by
  induction v using Json.induct generalizing n with
  | null | bool | int | float | string => simp [depth, Json.height, Json.fold]
  | array items ih =>
    rw [Json.add_height_array_le_iff, depth, Json.fold_array]
    simp only [Bool.and_eq_true, decide_eq_true_eq, List.all_map, List.all_eq_true,
      Function.comp_apply]
    exact and_congr_right fun _ => forall₂_congr fun v hv => ih v hv (n + 1)
  | object members ih =>
    rw [Json.add_height_object_le_iff, depth, Json.fold_object]
    simp only [Bool.and_eq_true, decide_eq_true_eq, List.all_map, List.all_eq_true,
      Function.comp_apply]
    exact and_congr_right fun _ => forall₂_congr fun m hm => ih m hm (n + 1)

/-! ## Trees at a depth of a strict tree -/

structure Clean (n : ℕ) (v : Json) : Prop where
  strict : Strict v
  shallow : n + v.height ≤ 16

variable {n : ℕ}

theorem clean_array_iff {items : List Json} :
    Clean n (.array items) ↔ n ≤ 16 ∧ ∀ v ∈ items, Clean (n + 1) v := by
  constructor
  · rintro ⟨hstrict, hshallow⟩
    obtain ⟨hn, hitems⟩ := Json.add_height_array_le_iff.mp hshallow
    exact ⟨hn, fun v hv => ⟨strict_array_iff.mp hstrict v hv, hitems v hv⟩⟩
  · rintro ⟨hn, hitems⟩
    exact ⟨strict_array_iff.mpr fun v hv => (hitems v hv).strict,
      Json.add_height_array_le_iff.mpr ⟨hn, fun v hv => (hitems v hv).shallow⟩⟩

theorem clean_object_iff :
    Clean n (.object members) ↔
      n ≤ 16 ∧ Ascending members ∧ ∀ m ∈ members, m.1 ≠ privateNumber ∧ Clean (n + 1) m.2 := by
  constructor
  · rintro ⟨hstrict, hshallow⟩
    obtain ⟨hn, hdeep⟩ := Json.add_height_object_le_iff.mp hshallow
    obtain ⟨hascending, hmembers⟩ := strict_object_iff.mp hstrict
    exact ⟨hn, hascending, fun m hm => ⟨(hmembers m hm).1, (hmembers m hm).2, hdeep m hm⟩⟩
  · rintro ⟨hn, hascending, hmembers⟩
    exact ⟨strict_object_iff.mpr ⟨hascending, fun m hm =>
      ⟨(hmembers m hm).1, (hmembers m hm).2.strict⟩⟩,
      Json.add_height_object_le_iff.mpr ⟨hn, fun m hm => (hmembers m hm).2.shallow⟩⟩

theorem clean_null (hn : n ≤ 16) : Clean n .null := ⟨rfl, hn⟩

theorem clean_string (hn : n ≤ 16) (text : String) : Clean n (.string text) := ⟨rfl, hn⟩

theorem clean_nil (hn : n ≤ 16) : Clean n (.array []) :=
  clean_array_iff.mpr ⟨hn, by simp⟩

theorem Clean.index {v : Json} (h : Clean n v) (hn : n < 16) (name : String) :
    Clean (n + 1) (v.index name) := by
  cases v with
  | object members =>
    cases hlookup : members.lookup name with
    | none =>
      rw [Json.index, hlookup]
      exact clean_null hn
    | some x =>
      rw [Json.index, hlookup]
      exact ((clean_object_iff.mp h).2.2 _ (mem_of_lookup hlookup)).2
  | null | bool | int | float | string | array => exact clean_null hn

theorem Clean.insert (h : Clean n (.object members)) {key : String} (hkey : key ≠ privateNumber)
    {x : Json} (hx : Clean (n + 1) x) :
    Clean n (.object (insert key x members)) := by
  obtain ⟨hn, hascending, hmembers⟩ := clean_object_iff.mp h
  refine clean_object_iff.mpr ⟨hn, ascending_insert hascending, ?_⟩
  intro m hm
  rcases mem_insert hm with rfl | hm
  · exact ⟨hkey, hx⟩
  · exact hmembers m hm

theorem Clean.withDefaults {members defaults : List (String × Json)} (h : Clean n (.object members))
    (hdefaults : ∀ m ∈ defaults, m.1 ≠ privateNumber ∧ Clean (n + 1) m.2) :
    Clean n (.object (withDefaults defaults members)) := by
  obtain ⟨hn, hascending, hmembers⟩ := clean_object_iff.mp h
  refine clean_object_iff.mpr ⟨hn, ascending_withDefaults hascending, ?_⟩
  intro m hm
  rcases mem_withDefaults hm with hm | hm
  · exact hdefaults m hm
  · exact hmembers m hm

@[simp] theorem index_setMember_self (key : String) (x : Json) (members : List (String × Json)) :
    (setMember key x (.object members)).index key = x := by
  rw [setMember, Json.index, lookup_insert_self, Option.getD_some]

theorem index_setMember_ne {key key' : String} (h : key' ≠ key) (x v : Json) :
    (setMember key x v).index key' = v.index key' := by
  cases v with
  | object members => rw [setMember, Json.index, lookup_insert_ne h, Json.index]
  | null | bool | int | float | string | array => rfl

theorem setMember_setMember_self (key : String) (x y v : Json) :
    setMember key x (setMember key y v) = setMember key x v := by
  cases v with
  | object members => rw [setMember, setMember, setMember, insert_insert_self]
  | null | bool | int | float | string | array => rfl

theorem setMember_comm {key key' : String} (h : key ≠ key') (x y v : Json) :
    setMember key x (setMember key' y v) = setMember key' y (setMember key x v) := by
  cases v with
  | object members => rw [setMember, setMember, setMember, setMember, insert_comm h]
  | null | bool | int | float | string | array => rfl

theorem Clean.setMember {v : Json} (h : Clean n v) {key : String} (hkey : key ≠ privateNumber)
    {x : Json} (hx : Clean (n + 1) x) : Clean n (setMember key x v) := by
  cases v with
  | object members => exact h.insert hkey hx
  | null | bool | int | float | string | array => exact h

variable {decode : List UInt8 → Option Json}

theorem strictJson_eq_ok {raw : List UInt8} {maximum : ℕ} {value : Json} :
    strictJson decode raw maximum = .ok value ↔
      raw.length ≤ maximum ∧ (decode raw).bind strictValue = some value ∧ value.height ≤ 16 := by
  simp only [strictJson, bind_eq_ok, rejectIf_eq_ok, elim_eq_ok, exists_and_right, exists_const,
    gt_iff_lt, not_lt, Bool.not_eq_false, depth_iff, Nat.zero_add, pure, Except.pure,
    Except.ok.injEq]
  constructor
  · rintro ⟨hlength, v, hread, hheight, rfl⟩
    exact ⟨hlength, hread, hheight⟩
  · rintro ⟨hlength, hread, hheight⟩
    exact ⟨hlength, value, hread, hheight, rfl⟩

theorem clean_of_strictJson {raw : List UInt8} {maximum : ℕ} {value : Json}
    (h : strictJson decode raw maximum = .ok value) : Clean 0 value := by
  obtain ⟨-, hread, hheight⟩ := strictJson_eq_ok.mp h
  obtain ⟨tree, -, htree⟩ := Option.bind_eq_some_iff.mp hread
  exact ⟨strict_of_strictValue htree, by rwa [Nat.zero_add]⟩

theorem strictJson_of_clean {raw : List UInt8} {maximum : ℕ} {value : Json}
    (hlength : raw.length ≤ maximum) (hdecode : decode raw = some value) (h : Clean 0 value) :
    strictJson decode raw maximum = .ok value := by
  refine strictJson_eq_ok.mpr ⟨hlength, ?_, by simpa using h.shallow⟩
  rw [hdecode]
  exact h.strict

end StrictJson
