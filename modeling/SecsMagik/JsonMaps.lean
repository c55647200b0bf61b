import Mathlib.Data.List.Sort
import Mathlib.Data.String.Basic

/-! # Ordered maps

Maps from strings as lists of entries in ascending order of their keys, and ordered sets of strings.
An entry is found and replaced in one pass, so most laws hold of any list of entries.
-/
namespace JsonMaps

variable {α : Type}

def keys (members : List (String × α)) : List String := members.map Prod.fst

/-- `BTreeMap::insert` -/
def insert (key : String) (x : α) : List (String × α) → List (String × α)
  | [] => [(key, x)]
  | m :: rest =>
    if key < m.1 then (key, x) :: m :: rest
    else if key = m.1 then (key, x) :: rest
    else m :: insert key x rest

/-- `BTreeMap::entry(key).or_insert(x)` -/
def orInsert (key : String) (x : α) (members : List (String × α)) : List (String × α) :=
  if key ∈ keys members then members else insert key x members

def Ascending (members : List (String × α)) : Prop := (keys members).Pairwise (· < ·)

section Laws

variable {key key' : String} {x y : α} {members : List (String × α)}

@[simp] theorem keys_nil : keys ([] : List (String × α)) = [] := rfl

@[simp] theorem keys_cons (m : String × α) : keys (m :: members) = m.1 :: keys members := rfl

theorem insert_nil : insert key x [] = [(key, x)] := rfl

theorem insert_cons (m : String × α) (rest : List (String × α)) :
    insert key x (m :: rest) =
      if key < m.1 then (key, x) :: m :: rest
      else if key = m.1 then (key, x) :: rest
      else m :: insert key x rest := rfl

theorem insert_cons_self (rest : List (String × α)) :
    insert key x ((key, y) :: rest) = (key, x) :: rest := by
  rw [insert_cons, if_neg (lt_irrefl _), if_pos rfl]

theorem insert_cons_of_lt (h : key < key') (rest : List (String × α)) :
    insert key x ((key', y) :: rest) = (key, x) :: (key', y) :: rest := if_pos h

theorem insert_cons_of_gt (h : key' < key) (rest : List (String × α)) :
    insert key x ((key', y) :: rest) = (key', y) :: insert key x rest := by
  rw [insert_cons, if_neg h.not_gt, if_neg h.ne']

theorem mem_keys_insert :
    key' ∈ keys (insert key x members) ↔ key' = key ∨ key' ∈ keys members := by
  induction members with
  | nil => simp [insert_nil]
  | cons m rest ih =>
    rw [insert_cons]
    split_ifs with hlt heq
    · simp
    · subst heq
      simp
    · rw [keys_cons, keys_cons, List.mem_cons, List.mem_cons, ih]
      tauto

theorem mem_insert {m : String × α} (h : m ∈ insert key x members) :
    m = (key, x) ∨ m ∈ members := by
  induction members with
  | nil => exact .inl (List.mem_singleton.mp h)
  | cons m' rest ih =>
    rw [insert_cons] at h
    split_ifs at h with hlt heq
    · exact List.mem_cons.mp h
    · exact (List.mem_cons.mp h).imp_right (List.mem_cons_of_mem _)
    · rcases List.mem_cons.mp h with rfl | h
      · exact .inr List.mem_cons_self
      · exact (ih h).imp_right (List.mem_cons_of_mem _)

theorem lookup_insert_self : (insert key x members).lookup key = some x := by
  induction members with
  | nil => simp [insert_nil]
  | cons m rest ih =>
    rw [insert_cons]
    split_ifs with hlt heq
    · simp
    · simp
    · rw [List.lookup_cons, beq_false_of_ne heq]
      exact ih

theorem lookup_insert_ne (h : key' ≠ key) :
    (insert key x members).lookup key' = members.lookup key' := by
  have hne : (key' == key) = false := beq_false_of_ne h
  induction members with
  | nil => simp [insert_nil, h]
  | cons m rest ih =>
    rw [insert_cons]
    split_ifs with hlt heq
    · rw [List.lookup_cons, hne]
    · rw [List.lookup_cons, hne, List.lookup_cons, ← heq, hne]
    · rw [List.lookup_cons, List.lookup_cons, ih]

theorem insert_insert_self : insert key x (insert key y members) = insert key x members := by
  induction members with
  | nil => simp [insert_nil, insert_cons]
  | cons m rest ih =>
    rw [insert_cons, insert_cons]
    split_ifs with hlt heq
    · simp [insert_cons]
    · simp [insert_cons]
    · rw [insert_cons, if_neg hlt, if_neg heq, ih]

theorem insert_comm (h : key ≠ key') :
    insert key x (insert key' y members) = insert key' y (insert key x members) := by
  induction members with
  | nil =>
    rcases lt_or_gt_of_ne h with hlt | hlt
    · simp [insert_nil, insert_cons, hlt, hlt.not_gt, h.symm]
    · simp [insert_nil, insert_cons, hlt, hlt.not_gt, h]
  | cons m rest ih => grind [insert_cons]

theorem mem_of_lookup (h : members.lookup key = some x) : (key, x) ∈ members := by
  induction members with
  | nil => simp at h
  | cons m rest ih =>
    rw [List.lookup_cons] at h
    by_cases heq : key = m.1
    · simp only [heq, BEq.rfl, Option.some.injEq] at h
      rw [heq, ← h]
      exact List.mem_cons_self
    · rw [beq_false_of_ne heq] at h
      exact List.mem_cons_of_mem _ (ih h)

theorem ascending_insert (h : Ascending members) : Ascending (insert key x members) := by
  induction members with
  | nil => simp [insert_nil, Ascending]
  | cons m rest ih =>
    obtain ⟨hhead, hrest⟩ := List.pairwise_cons.mp h
    rw [insert_cons]
    split_ifs with hlt heq
    · apply List.pairwise_cons.mpr
      refine ⟨?_, h⟩
      intro k hk
      rcases List.mem_cons.mp hk with rfl | hk
      · exact hlt
      · exact hlt.trans (hhead k hk)
    · subst heq
      exact List.pairwise_cons.mpr ⟨hhead, hrest⟩
    · apply List.pairwise_cons.mpr
      refine ⟨?_, ih hrest⟩
      intro k hk
      rcases mem_keys_insert.mp hk with rfl | hk
      · exact lt_of_le_of_ne (not_lt.mp hlt) (Ne.symm heq)
      · exact hhead k hk

theorem length_insert (hordered : Ascending members) (h : key ∈ keys members) :
    (insert key x members).length = members.length := by
  induction members with
  | nil => simp at h
  | cons m rest ih =>
    obtain ⟨hhead, hrest⟩ := List.pairwise_cons.mp hordered
    rcases List.mem_cons.mp h with heq | h
    · obtain ⟨k, y⟩ := m
      have heq : key = k := heq
      rw [heq, insert_cons_self]
      rfl
    · rw [insert_cons_of_gt (hhead key h), List.length_cons, ih hrest h, List.length_cons]

theorem insert_of_lt (h : ∀ k ∈ keys members, k < key) :
    insert key x members = members ++ [(key, x)] := by
  induction members with
  | nil => rfl
  | cons m rest ih =>
    rw [insert_cons_of_gt (h m.1 List.mem_cons_self), List.cons_append,
      ih fun k hk => h k (List.mem_cons_of_mem _ hk)]

theorem orInsert_of_mem (h : key ∈ keys members) : orInsert key x members = members := if_pos h

theorem mem_keys_orInsert :
    key' ∈ keys (orInsert key x members) ↔ key' = key ∨ key' ∈ keys members := by
  rw [orInsert]
  split
  · next h =>
      constructor
      · exact Or.inr
      · rintro (rfl | h')
        · exact h
        · exact h'
  · exact mem_keys_insert

theorem mem_orInsert {m : String × α} (h : m ∈ orInsert key x members) :
    m = (key, x) ∨ m ∈ members := by
  rw [orInsert] at h
  split at h
  · exact .inr h
  · exact mem_insert h

theorem lookup_orInsert_ne (h : key' ≠ key) :
    (orInsert key x members).lookup key' = members.lookup key' := by
  rw [orInsert]
  split
  · rfl
  · exact lookup_insert_ne h

theorem ascending_orInsert (h : Ascending members) : Ascending (orInsert key x members) := by
  rw [orInsert]
  split
  · exact h
  · exact ascending_insert h

end Laws

/-! ## Defaults -/

/-- The entries that are missing, one after another. -/
def withDefaults (defaults members : List (String × α)) : List (String × α) :=
  defaults.foldl (fun members m => orInsert m.1 m.2 members) members

section Defaults

variable {defaults members : List (String × α)}

theorem mem_keys_withDefaults {key : String} :
    key ∈ keys (withDefaults defaults members) ↔ key ∈ keys defaults ∨ key ∈ keys members := by
  induction defaults generalizing members with
  | nil => simp [withDefaults]
  | cons m rest ih =>
    rw [withDefaults, List.foldl_cons, ← withDefaults, ih, mem_keys_orInsert, keys_cons,
      List.mem_cons]
    tauto

theorem withDefaults_of_present (h : ∀ key ∈ keys defaults, key ∈ keys members) :
    withDefaults defaults members = members := by
  induction defaults with
  | nil => rfl
  | cons m rest ih =>
    rw [withDefaults, List.foldl_cons, orInsert_of_mem (h m.1 List.mem_cons_self), ← withDefaults]
    exact ih fun key hkey => h key (List.mem_cons_of_mem _ hkey)

theorem withDefaults_withDefaults :
    withDefaults defaults (withDefaults defaults members) = withDefaults defaults members :=
  withDefaults_of_present fun _ h => mem_keys_withDefaults.mpr (.inl h)

theorem mem_withDefaults {m : String × α} (h : m ∈ withDefaults defaults members) :
    m ∈ defaults ∨ m ∈ members := by
  induction defaults generalizing members with
  | nil => exact .inr h
  | cons d rest ih =>
    rw [withDefaults, List.foldl_cons, ← withDefaults] at h
    rcases ih h with h | h
    · exact .inl (List.mem_cons_of_mem _ h)
    · rcases mem_orInsert h with rfl | h
      · exact .inl List.mem_cons_self
      · exact .inr h

theorem ascending_withDefaults (h : Ascending members) :
    Ascending (withDefaults defaults members) := by
  induction defaults generalizing members with
  | nil => exact h
  | cons m rest ih =>
    rw [withDefaults, List.foldl_cons, ← withDefaults]
    exact ih (ascending_orInsert h)

theorem lookup_withDefaults {key : String} (h : key ∉ keys defaults) :
    (withDefaults defaults members).lookup key = members.lookup key := by
  induction defaults generalizing members with
  | nil => rfl
  | cons m rest ih =>
    rw [keys_cons, List.mem_cons, not_or] at h
    rw [withDefaults, List.foldl_cons, ← withDefaults, ih h.2, lookup_orInsert_ne h.1]

end Defaults

/-! ## Sets -/

/-- `BTreeSet::insert` -/
def setInsert (x : String) (set : List String) : List String :=
  if x ∈ set then set else set.orderedInsert (· ≤ ·) x

theorem mem_setInsert {x y : String} {set : List String} :
    y ∈ setInsert x set ↔ y = x ∨ y ∈ set := by
  rw [setInsert]
  split
  · next h =>
      constructor
      · exact Or.inr
      · rintro (rfl | h')
        · exact h
        · exact h'
  · exact List.mem_orderedInsert _

theorem length_setInsert_le (x : String) (set : List String) :
    (setInsert x set).length ≤ set.length + 1 := by
  rw [setInsert]
  split
  · exact Nat.le_succ _
  · rw [List.orderedInsert_length]

end JsonMaps
