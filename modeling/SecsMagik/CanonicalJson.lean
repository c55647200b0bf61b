import SecsMagik.JsonText
import Mathlib.Data.List.Lex
import Mathlib.Data.List.Sort

/-! # Canonical JSON

A JSON tree, the text the JSON Canonicalization Scheme gives it, and two measures of that text:
how deep it nests and how many bytes it takes.
-/
namespace CanonicalJson

open RustStd

/-- `serde_json::Value`. A number is an integer or has the text that is written for it; an object
lists the entries of its map. -/
inductive Json where
  | null
  | bool (b : Bool)
  | int (n : ℤ)
  | float (text : String)
  | string (text : String)
  | array (items : List Json)
  | object (members : List (String × Json))

namespace Json

/-- Induction over a tree; containers assume the claim for their children. -/
theorem induct {motive : Json → Prop} (null : motive .null) (bool : ∀ b, motive (.bool b))
    (int : ∀ n, motive (.int n)) (float : ∀ text, motive (.float text))
    (string : ∀ text, motive (.string text))
    (array : ∀ items, (∀ v ∈ items, motive v) → motive (.array items))
    (object : ∀ members, (∀ m ∈ members, motive m.2) → motive (.object members)) (v : Json) :
    motive v := by
  refine @Json.rec motive (fun items => ∀ v ∈ items, motive v)
    (fun members => ∀ m ∈ members, motive m.2) (fun m => motive m.2)
    null bool int float string array object ?_ ?_ ?_ ?_ ?_ v
  · simp
  · intro v rest hv hrest w hw
    rcases List.mem_cons.mp hw with rfl | hw
    · exact hv
    · exact hrest w hw
  · simp
  · intro m rest hm hrest w hw
    rcases List.mem_cons.mp hw with rfl | hw
    · exact hm
    · exact hrest w hw
  · intro k v hv
    exact hv

def isObject : Json → Bool
  | .object _ => true
  | _ => false

def asObject : Json → Option (List (String × Json))
  | .object members => some members
  | _ => none

theorem asObject_eq_some {v : Json} {members : List (String × Json)} :
    v.asObject = some members ↔ v = .object members := by
  cases v <;> simp [asObject]

def asStr : Json → Option String
  | .string text => some text
  | _ => none

def asArray : Json → Option (List Json)
  | .array items => some items
  | _ => none

/-- A number that was written as a float is none. -/
def asU64 : Json → Option UInt64
  | .int n => if 0 ≤ n ∧ n < 2 ^ 64 then some (UInt64.ofNat n.toNat) else none
  | _ => none

/-- `value[name]`, which is null where there is no such member. -/
def index (name : String) : Json → Json
  | .object members => (members.lookup name).getD .null
  | _ => .null

section Fold

variable {α : Type} (scalar : Json → α) (array : List α → α) (object : List (String × α) → α)

mutual

/-- The value of a tree from the values of its children. -/
def fold : Json → α
  | .array items => array (foldItems items)
  | .object members => object (foldMembers members)
  | v => scalar v

def foldItems : List Json → List α
  | [] => []
  | v :: rest => fold v :: foldItems rest

def foldMembers : List (String × Json) → List (String × α)
  | [] => []
  | (key, v) :: rest => (key, fold v) :: foldMembers rest

end

theorem foldItems_eq (items : List Json) :
    foldItems scalar array object items = items.map (fold scalar array object) := by
  induction items with
  | nil => rw [foldItems, List.map_nil]
  | cons v rest ih => rw [foldItems, ih, List.map_cons]

theorem foldMembers_eq (members : List (String × Json)) :
    foldMembers scalar array object members =
      members.map fun m => (m.1, fold scalar array object m.2) := by
  induction members with
  | nil => rw [foldMembers, List.map_nil]
  | cons m rest ih => rw [foldMembers, ih, List.map_cons]

theorem fold_array (items : List Json) :
    fold scalar array object (.array items) = array (items.map (fold scalar array object)) := by
  rw [fold, foldItems_eq]

theorem fold_object (members : List (String × Json)) :
    fold scalar array object (.object members) =
      object (members.map fun m => (m.1, fold scalar array object m.2)) := by
  rw [fold, foldMembers_eq]

end Fold

/-! ## Nesting -/

/-- How deep containers nest; scalars and empty containers count nothing. -/
def height : Json → ℕ :=
  fold (fun _ => 0) (fun hs => hs.foldr (fun h deepest => max (h + 1) deepest) 0)
    (fun hs => hs.foldr (fun h deepest => max (h.2 + 1) deepest) 0)

theorem foldr_max_le_iff {α : Type} (f : α → ℕ) (xs : List α) {bound : ℕ} :
    xs.foldr (fun x deepest => max (f x + 1) deepest) 0 ≤ bound ↔ ∀ x ∈ xs, f x + 1 ≤ bound := by
  induction xs with
  | nil => simp
  | cons x xs ih => rw [List.foldr_cons, max_le_iff, ih, List.forall_mem_cons]

/-- A tree that starts at some depth ends within a bound if its children do, one level down. -/
theorem add_height_array_le_iff {items : List Json} {depth bound : ℕ} :
    depth + (Json.array items).height ≤ bound ↔
      depth ≤ bound ∧ ∀ v ∈ items, depth + 1 + v.height ≤ bound := by
  have hchildren : (Json.array items).height ≤ bound - depth ↔
      ∀ v ∈ items, v.height + 1 ≤ bound - depth := by
    rw [height, fold_array, List.foldr_map]
    exact foldr_max_le_iff height items
  constructor
  · intro h
    refine ⟨by omega, fun v hv => ?_⟩
    have := hchildren.mp (by omega) v hv
    omega
  · rintro ⟨hdepth, hitems⟩
    have := hchildren.mpr fun v hv => by have := hitems v hv; omega
    omega

theorem add_height_object_le_iff {members : List (String × Json)} {depth bound : ℕ} :
    depth + (Json.object members).height ≤ bound ↔
      depth ≤ bound ∧ ∀ m ∈ members, depth + 1 + m.2.height ≤ bound := by
  have hchildren : (Json.object members).height ≤ bound - depth ↔
      ∀ m ∈ members, m.2.height + 1 ≤ bound - depth := by
    rw [height, fold_object, List.foldr_map]
    exact foldr_max_le_iff (fun m : String × Json => m.2.height) members
  constructor
  · intro h
    refine ⟨by omega, fun m hm => ?_⟩
    have := hchildren.mp (by omega) m hm
    omega
  · rintro ⟨hdepth, hmembers⟩
    have := hchildren.mpr fun m hm => by have := hmembers m hm; omega
    omega

/-! ## Text -/

def writeInt (n : ℤ) : List Char :=
  if n < 0 then '-' :: Nat.toDigits 10 n.natAbs else Nat.toDigits 10 n.natAbs

def writeScalar : Json → List Char
  | .bool b => if b then "true".toList else "false".toList
  | .int n => writeInt n
  | .float text => text.toList
  | .string text => JsonText.quote text
  | .null | .array _ | .object _ => "null".toList

def utf16Char (c : Char) : List ℕ :=
  if c.toNat < 0x10000 then [c.toNat]
  else [0xD800 + (c.toNat - 0x10000) / 0x400, 0xDC00 + (c.toNat - 0x10000) % 0x400]

def utf16 (s : String) : List ℕ := (chars s).flatMap utf16Char

/-- Canonical text: members sorted by the UTF-16 code units of their keys. -/
def write : Json → List Char :=
  fold writeScalar (JsonText.array id) fun members =>
    JsonText.object id (members.insertionSort fun m m' => utf16 m.1 ≤ utf16 m'.1)

theorem write_array (items : List Json) :
    (Json.array items).write = JsonText.array id (items.map write) := by
  rw [write, fold_array]

theorem write_object (members : List (String × Json)) :
    (Json.object members).write =
      JsonText.object id ((members.map fun m => (m.1, m.2.write)).insertionSort
        fun m m' => utf16 m.1 ≤ utf16 m'.1) := by
  rw [write, fold_object]

def bytes (v : Json) : List UInt8 := v.write.flatMap String.utf8EncodeChar

/-! ## Size -/

def textSize (text : List Char) : ℕ := (text.flatMap String.utf8EncodeChar).length

@[irreducible] def quotedSize (s : String) : ℕ := textSize (JsonText.quote s)

def containerSize (entries : List ℕ) : ℕ := max 2 (1 + (entries.map (· + 1)).sum)

/-- The bytes of the canonical text, counted without writing it. -/
@[irreducible] def size : Json → ℕ :=
  fold (fun v => textSize (writeScalar v)) containerSize fun members =>
    containerSize (members.map fun m => quotedSize m.1 + 1 + m.2)

@[simp] theorem textSize_nil : textSize [] = 0 := rfl

@[simp] theorem textSize_append (a b : List Char) :
    textSize (a ++ b) = textSize a + textSize b := by
  rw [textSize, List.flatMap_append, List.length_append]
  rfl

theorem textSize_cons (c : Char) (text : List Char) :
    textSize (c :: text) = c.utf8Size + textSize text := by
  rw [textSize, List.flatMap_cons, List.length_append, String.length_utf8EncodeChar]
  rfl

theorem size_array (items : List Json) :
    (Json.array items).size = containerSize (items.map size) := by
  rw [size, fold_array]

theorem size_object (members : List (String × Json)) :
    (Json.object members).size =
      containerSize (members.map fun m => quotedSize m.1 + 1 + m.2.size) := by
  rw [size, fold_object, List.map_map]
  rfl

theorem textSize_tail {α : Type} (write : α → List Char) (rest : List α) :
    textSize (rest.flatMap fun a => ',' :: write a) =
      ((rest.map fun a => textSize (write a)).map (· + 1)).sum := by
  induction rest with
  | nil => rfl
  | cons a rest ih =>
    have hcomma : ','.utf8Size = 1 := rfl
    rw [List.flatMap_cons, textSize_append, textSize_cons, ih, hcomma]
    simp only [List.map_cons, List.sum_cons]
    omega

theorem textSize_items {α : Type} (write : α → List Char) (values : List α) :
    textSize (JsonText.items write values) + 2 =
      containerSize (values.map fun a => textSize (write a)) := by
  cases values with
  | nil => rfl
  | cons a rest =>
    rw [JsonText.items, textSize_append, textSize_tail, containerSize]
    simp only [List.map_cons, List.sum_cons]
    omega

theorem textSize_array {α : Type} (write : α → List Char) (values : List α) :
    textSize (JsonText.array write values) =
      containerSize (values.map fun a => textSize (write a)) := by
  have hopen : '['.utf8Size = 1 := rfl
  have hclose : textSize [']'] = 1 := rfl
  rw [← textSize_items, JsonText.array, textSize_cons, textSize_append, hopen, hclose]
  omega

theorem textSize_object {α : Type} (write : α → List Char) (members : List (String × α)) :
    textSize (JsonText.object write members) =
      containerSize (members.map fun m => quotedSize m.1 + 1 + textSize (write m.2)) := by
  have hopen : '\x7b'.utf8Size = 1 := rfl
  have hclose : textSize ['\x7d'] = 1 := rfl
  have hmember : ∀ m : String × α,
      textSize (JsonText.member write m) = quotedSize m.1 + 1 + textSize (write m.2) := by
    intro m
    have hcolon : ':'.utf8Size = 1 := rfl
    rw [JsonText.member, textSize_append, textSize_cons, hcolon, quotedSize]
    omega
  simp only [← hmember]
  rw [← textSize_items, JsonText.object, textSize_cons, textSize_append, hopen, hclose]
  omega

theorem containerSize_perm {entries entries' : List ℕ} (h : entries.Perm entries') :
    containerSize entries = containerSize entries' := by
  rw [containerSize, containerSize, (h.map _).sum_nat]

theorem textSize_write (v : Json) : textSize v.write = v.size := by
  induction v using Json.induct with
  | null | bool b | int n | float text | string text =>
    rw [size]
    rfl
  | array items ih =>
    rw [write_array, textSize_array, size_array, List.map_map]
    exact congrArg containerSize (List.map_congr_left ih)
  | object members ih =>
    have hperm := List.perm_insertionSort
      (fun m m' : String × List Char => utf16 m.1 ≤ utf16 m'.1)
      (members.map fun m => (m.1, m.2.write))
    rw [write_object, textSize_object, size_object, containerSize_perm (hperm.map _),
      List.map_map]
    refine congrArg containerSize (List.map_congr_left fun m hm => ?_)
    exact congrArg (quotedSize m.1 + 1 + ·) (ih m hm)

theorem length_bytes (v : Json) : v.bytes.length = v.size := textSize_write v

@[simp] theorem size_null : Json.null.size = 4 := by with_unfolding_all decide

theorem size_bool_bounds (b : Bool) : 4 ≤ (Json.bool b).size ∧ (Json.bool b).size ≤ 5 := by
  cases b <;> with_unfolding_all decide

@[simp] theorem size_string (s : String) : (Json.string s).size = quotedSize s := by
  rw [size, quotedSize]
  rfl

theorem textSize_of_ascii {text : List Char} (h : ∀ c ∈ text, c.utf8Size = 1) :
    textSize text = text.length := by
  induction text with
  | nil => rfl
  | cons c text ih =>
    obtain ⟨hc, htext⟩ := List.forall_mem_cons.mp h
    rw [textSize_cons, hc, ih htext, List.length_cons]
    omega

theorem utf8Size_of_lt {c : Char} (h : c.toNat < 128) : c.utf8Size = 1 := by
  rw [Char.utf8Size_eq_one_iff, UInt32.le_iff_toNat_le]
  exact Nat.le_of_lt_succ h

theorem quotedSize_of_plain {s : String} (h : ∀ c ∈ s.toList, JsonText.escapeChar c = [c]) :
    quotedSize s = byteLen s + 2 := by
  have hescape : JsonText.escape s = s.toList := by
    rw [JsonText.escape_eq, List.flatMap_congr h, List.flatMap_singleton']
  have hquote : '"'.utf8Size = 1 := rfl
  have hclose : textSize ['"'] = 1 := rfl
  rw [quotedSize, JsonText.quote, hescape, textSize_cons, textSize_append, hquote, hclose, byteLen,
    utf8_eq, textSize]
  omega

theorem two_le_quotedSize (s : String) : 2 ≤ quotedSize s := by
  have hquote : '"'.utf8Size = 1 := rfl
  have hclose : textSize ['"'] = 1 := rfl
  rw [quotedSize, JsonText.quote, textSize_cons, textSize_append, hquote, hclose]
  omega

theorem size_object_of_keys {members : List (String × Json)} {keys : List String} {n : ℕ}
    (hn : (keys.map (quotedSize · + 2)).sum = n) (hkeys : members.map Prod.fst = keys)
    (hne : members ≠ []) :
    (Json.object members).size = 1 + n + (members.map fun m => m.2.size).sum := by
  have hsplit : ∀ members : List (String × Json),
      ((members.map fun m => quotedSize m.1 + 1 + m.2.size).map (· + 1)).sum =
        ((members.map Prod.fst).map (quotedSize · + 2)).sum +
          (members.map fun m => m.2.size).sum := by
    intro members
    induction members with
    | nil => rfl
    | cons m rest ih =>
      simp only [List.map_cons, List.sum_cons, ih]
      omega
  have hpos : 2 ≤ n := by
    obtain ⟨m, rest, rfl⟩ := List.exists_cons_of_ne_nil hne
    rw [← hn, ← hkeys]
    simp only [List.map_cons, List.sum_cons]
    omega
  rw [size_object, containerSize, hsplit, hkeys, hn]
  omega

theorem size_int_bounds {n digits : ℕ} (hdigits : 0 < digits) (h : n < 10 ^ digits) :
    1 ≤ (Json.int n).size ∧ (Json.int n).size ≤ digits := by
  have hascii : ∀ c ∈ Nat.toDigits 10 n, c.utf8Size = 1 := by
    intro c hc
    have hdigit := Nat.isDigit_of_mem_toDigits (by decide) (by decide) hc
    simp only [Char.isDigit, Bool.and_eq_true, decide_eq_true_eq, ge_iff_le,
      UInt32.le_iff_toNat_le] at hdigit
    exact utf8Size_of_lt (Nat.lt_of_le_of_lt hdigit.2 (by decide))
  have hwrite : writeInt n = Nat.toDigits 10 n := by
    rw [writeInt, if_neg (by omega)]
    rfl
  have hsize : (Json.int n).size = (Nat.toDigits 10 n).length := by
    rw [← textSize_write, ← textSize_of_ascii hascii, ← hwrite]
    rfl
  rw [hsize]
  exact ⟨Nat.length_toDigits_pos, (Nat.length_toDigits_le_iff (by decide) hdigits).mpr h⟩

/-! ## Equality -/

mutual

def beq : Json → Json → Bool
  | .null, .null => true
  | .bool a, .bool b => a == b
  | .int a, .int b => a == b
  | .float a, .float b => a == b
  | .string a, .string b => a == b
  | .array items, .array items' => beqItems items items'
  | .object members, .object members' => beqMembers members members'
  | _, _ => false

def beqItems : List Json → List Json → Bool
  | [], [] => true
  | v :: rest, v' :: rest' => beq v v' && beqItems rest rest'
  | _, _ => false

def beqMembers : List (String × Json) → List (String × Json) → Bool
  | [], [] => true
  | (key, v) :: rest, (key', v') :: rest' => key == key' && beq v v' && beqMembers rest rest'
  | _, _ => false

end

theorem beqItems_iff {items items' : List Json} (h : ∀ v ∈ items, ∀ v', beq v v' ↔ v = v') :
    beqItems items items' ↔ items = items' := by
  induction items generalizing items' with
  | nil => cases items' <;> simp [beqItems]
  | cons v rest ih =>
    obtain ⟨hv, hrest⟩ := List.forall_mem_cons.mp h
    cases items' with
    | nil => simp [beqItems]
    | cons v' rest' => simp [beqItems, hv v', ih hrest]

theorem beqMembers_iff {members members' : List (String × Json)}
    (h : ∀ m ∈ members, ∀ v', beq m.2 v' ↔ m.2 = v') :
    beqMembers members members' ↔ members = members' := by
  induction members generalizing members' with
  | nil => cases members' <;> simp [beqMembers]
  | cons m rest ih =>
    obtain ⟨hm, hrest⟩ := List.forall_mem_cons.mp h
    cases members' with
    | nil => simp [beqMembers]
    | cons m' rest' => simp [beqMembers, hm m'.2, ih hrest, Prod.ext_iff]

theorem beq_iff (v v' : Json) : beq v v' ↔ v = v' := by
  induction v using Json.induct generalizing v' with
  | null | bool a | int a | float a | string a => cases v' <;> simp [beq]
  | array items ih =>
    cases v' with
    | array items' => simp [beq, beqItems_iff ih]
    | null | bool a | int a | float a | string a | object members' => simp [beq]
  | object members ih =>
    cases v' with
    | object members' => simp [beq, beqMembers_iff ih]
    | null | bool a | int a | float a | string a | array items' => simp [beq]

instance : DecidableEq Json := fun v v' => decidable_of_iff _ (beq_iff v v')

end Json

end CanonicalJson
