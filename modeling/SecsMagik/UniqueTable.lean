import Mathlib.Data.List.Nodup
import Mathlib.Data.List.Pairwise
import Mathlib.Data.Set.Insert
import SecsMagik.AtomicPrograms

/-! # Tables with a unique index

`INSERT OR IGNORE` and `DELETE … WHERE` on a table whose key columns are declared UNIQUE. A table
from which nothing is deleted implements a register in which every key is taken at most once.
-/
namespace UniqueTable

variable {Row Key : Type} {key : Row → Key}

/-- Rows in insertion order; no two rows share a key. -/
structure Table (key : Row → Key) where
  rows : List Row
  unique : (rows.map key).Nodup

namespace Table

def empty (key : Row → Key) : Table key := ⟨[], List.nodup_nil⟩

def keys (t : Table key) : Set Key := {k | ∃ row ∈ t.rows, key row = k}

theorem eq_of_key_eq (t : Table key) {r r' : Row} (hr : r ∈ t.rows) (hr' : r' ∈ t.rows)
    (hkey : key r = key r') : r = r' :=
  List.inj_on_of_nodup_map t.unique hr hr' hkey

theorem filter_key (t : Table key) [DecidableEq Key] {r : Row} (hr : r ∈ t.rows) :
    t.rows.filter (fun r' => key r' = key r) = [r] := by
  have hnodup : (t.rows.filter fun r' => key r' = key r).Nodup := (t.unique.of_map key).filter _
  rw [← List.perm_singleton, List.perm_ext_iff_of_nodup hnodup (List.nodup_singleton r)]
  intro r'
  rw [List.mem_filter, List.mem_singleton, decide_eq_true_eq]
  constructor
  · rintro ⟨hr', hkey⟩
    exact t.eq_of_key_eq hr' hr hkey
  · rintro rfl
    exact ⟨hr, rfl⟩

/-- `DELETE FROM t WHERE p`: the number of rows deleted and the rest of the table. -/
def deleteWhere (t : Table key) (p : Row → Bool) : ℕ × Table key :=
  (t.rows.countP p, ⟨t.rows.filter (fun r => !p r), t.unique.sublist (List.filter_sublist.map key)⟩)

theorem mem_deleteWhere {t : Table key} {p : Row → Bool} {r : Row} :
    r ∈ (t.deleteWhere p).2.rows ↔ r ∈ t.rows ∧ p r = false := by
  simp [deleteWhere]

variable [DecidableEq Key]

/-- `INSERT OR IGNORE INTO t`: the number of rows inserted and the new table. -/
def insertOrIgnore (t : Table key) (row : Row) : ℕ × Table key :=
  if h : key row ∈ t.rows.map key then (0, t)
  else (1, ⟨t.rows ++ [row], by
    rw [List.map_append, List.nodup_append]
    exact ⟨t.unique, List.nodup_singleton _, by simpa using h⟩⟩)

theorem insertOrIgnore_of_mem {t : Table key} {row : Row} (h : key row ∈ t.keys) :
    t.insertOrIgnore row = (0, t) := by
  obtain ⟨r, hr, hkey⟩ := h
  exact dif_pos (List.mem_map.mpr ⟨r, hr, hkey⟩)

theorem insertOrIgnore_of_notMem {t : Table key} {row : Row} (h : key row ∉ t.keys) :
    (t.insertOrIgnore row).1 = 1 ∧ (t.insertOrIgnore row).2.rows = t.rows ++ [row] := by
  have hmem : key row ∉ t.rows.map key := fun hm => h (by simpa [keys] using hm)
  simp [insertOrIgnore, hmem]

theorem insertOrIgnore_count_zero {t : Table key} {row : Row} :
    (t.insertOrIgnore row).1 = 0 ↔ key row ∈ t.keys := by
  by_cases h : key row ∈ t.keys
  · simp [insertOrIgnore_of_mem h, h]
  · simp [insertOrIgnore_of_notMem h, h]

theorem insertOrIgnore_fresh {t : Table key} {row : Row} (h : (t.insertOrIgnore row).1 ≠ 0) :
    key row ∉ t.keys ∧ row ∈ (t.insertOrIgnore row).2.rows := by
  have hfresh : key row ∉ t.keys := fun hmem => h (insertOrIgnore_count_zero.mpr hmem)
  refine ⟨hfresh, ?_⟩
  simp [(insertOrIgnore_of_notMem hfresh).2]

theorem mem_insertOrIgnore_of_mem {t : Table key} {row r : Row} (hr : r ∈ t.rows) :
    r ∈ (t.insertOrIgnore row).2.rows := by
  by_cases h : key row ∈ t.keys
  · simpa [insertOrIgnore_of_mem h] using hr
  · simp [(insertOrIgnore_of_notMem h).2, hr]

theorem keys_insertOrIgnore (t : Table key) (row : Row) :
    (t.insertOrIgnore row).2.keys = insert (key row) t.keys := by
  by_cases h : key row ∈ t.keys
  · rw [insertOrIgnore_of_mem h, Set.insert_eq_of_mem h]
  · ext k
    simp only [keys, (insertOrIgnore_of_notMem h).2, List.mem_append, List.mem_singleton,
      Set.mem_insert_iff, Set.mem_ofPred_eq, or_and_right, exists_or, exists_eq_left]
    rw [or_comm, eq_comm (a := k)]

end Table

/-! ## The register -/

section Register

variable {K : Type}

/-- A register hands out every key at most once: from `used`, the keys `ks` were taken. -/
inductive Taken : Set K → List K → Set K → Prop
  | refl (used) : Taken used [] used
  | take {used k ks used'} : k ∉ used → Taken (insert k used) ks used' → Taken used (k :: ks) used'

theorem Taken.fresh {used used' : Set K} {ks : List K} (h : Taken used ks used') :
    ks.Nodup ∧ ∀ k ∈ ks, k ∉ used := by
  induction h with
  | refl => simp
  | @take used k ks used' hk _ ih =>
    refine ⟨List.nodup_cons.mpr ⟨fun hmem => ih.2 k hmem (Set.mem_insert k used), ih.1⟩, ?_⟩
    intro k' hk'
    rcases List.mem_cons.mp hk' with rfl | hk'
    · exact hk
    · exact fun hused => ih.2 k' hk' (Set.mem_insert_of_mem k hused)

open AtomicPrograms

variable {Cmd World Env : Type} {Reply : Cmd → Type}

/-- Every step of the machine either takes one fresh key of the register or leaves it alone. -/
structure Implements (M : Machine Reply World Env) (used : World → Set K)
    (takes : Event Cmd World Env → Option K) : Prop where
  take : ∀ e k, takes e = some k →
    k ∉ used e.before ∧ used (M.after e) = insert k (used e.before)
  pass : ∀ e, takes e = none → used (M.after e) = used e.before

/-- A chain of machine steps is a run of the register. -/
theorem Implements.taken {M : Machine Reply World Env} {used : World → Set K}
    {takes : Event Cmd World Env → Option K} (h : Implements M used takes) {w w' : World}
    {es : List (Event Cmd World Env)} (hes : M.Chained w es w') :
    Taken (used w) (es.filterMap takes) (used w') := by
  induction hes with
  | nil w => exact .refl _
  | @cons e es w' _ ih =>
    cases htakes : takes e with
    | none =>
      rw [List.filterMap_cons_none htakes, ← h.pass e htakes]
      exact ih
    | some k =>
      obtain ⟨hfresh, hused⟩ := h.take e k htakes
      rw [List.filterMap_cons_some htakes]
      exact .take hfresh (hused ▸ ih)

/-- Two entries of a log never take the same key. -/
theorem Implements.takes_ne {M : Machine Reply World Env} {used : World → Set K}
    {takes : Event Cmd World Env → Option K} (h : Implements M used takes) {L : Type}
    {log : List (L × Event Cmd World Env)} {w w' : World}
    (hlog : M.Chained w (log.map Prod.snd) w') {x y : L × Event Cmd World Env} (hx : x ∈ log)
    (hy : y ∈ log) (hne : x ≠ y) {k k' : K} (hk : takes x.2 = some k)
    (hk' : takes y.2 = some k') : k ≠ k' := by
  have hnodup := (h.taken hlog).fresh.1
  rw [List.Nodup, List.filterMap_map, List.pairwise_filterMap] at hnodup
  have hsymm : Std.Symm fun a b : L × Event Cmd World Env =>
      ∀ c, (takes ∘ Prod.snd) a = some c → ∀ c', (takes ∘ Prod.snd) b = some c' → c ≠ c' := by
    constructor
    intro a b hab c hc c' hc'
    exact (hab c' hc' c hc).symm
  exact hnodup.forall hx hy hne k hk k' hk'

end Register

end UniqueTable
