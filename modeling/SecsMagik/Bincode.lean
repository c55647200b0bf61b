import SecsMagik.RustStd

/-! # The bincode encoding

Little-endian fixed-width integers, `u64` length heads, one tag byte for `Option` and a `u32`
variant index for enumerations; the fields of a structure follow each other without separators.
-/
namespace Bincode

open RustStd

/-- The `k` low bytes of `n`, least significant first. -/
def leBytes : ℕ → ℕ → List UInt8
  | 0, _ => []
  | k + 1, n => UInt8.ofNat (n % 256) :: leBytes k (n / 256)

/-- The number a byte string spells, least significant byte first. -/
def ofLeBytes : List UInt8 → ℕ
  | [] => 0
  | b :: rest => b.toNat + 256 * ofLeBytes rest

@[simp] theorem length_leBytes (k n : ℕ) : (leBytes k n).length = k := by
  induction k generalizing n with
  | zero => rfl
  | succ k ih => rw [leBytes, List.length_cons, ih]

theorem ofLeBytes_leBytes {k n : ℕ} (h : n < 256 ^ k) : ofLeBytes (leBytes k n) = n := by
  induction k generalizing n with
  | zero => rw [Nat.pow_zero] at h; exact (Nat.lt_one_iff.mp h).symm
  | succ k ih =>
    have hquot : n / 256 < 256 ^ k := Nat.div_lt_of_lt_mul (by rwa [Nat.pow_succ'] at h)
    rw [leBytes, ofLeBytes, ih hquot, UInt8.toNat_ofNat', Nat.mod_eq_of_lt (by omega)]
    omega

theorem ofLeBytes_lt (bytes : List UInt8) : ofLeBytes bytes < 256 ^ bytes.length := by
  induction bytes with
  | nil => exact Nat.one_pos
  | cons b rest ih =>
    have := b.toNat_lt
    rw [ofLeBytes, List.length_cons, Nat.pow_succ']
    omega

theorem leBytes_ofLeBytes (bytes : List UInt8) :
    leBytes bytes.length (ofLeBytes bytes) = bytes := by
  induction bytes with
  | nil => rfl
  | cons b rest ih =>
    have := b.toNat_lt
    have hlow : (b.toNat + 256 * ofLeBytes rest) % 256 = b.toNat := by omega
    have hhigh : (b.toNat + 256 * ofLeBytes rest) / 256 = ofLeBytes rest := by omega
    rw [List.length_cons, ofLeBytes, leBytes, hlow, hhigh, ih, UInt8.ofNat_toNat]

theorem leBytes_inj {k m n : ℕ} (hm : m < 256 ^ k) (hn : n < 256 ^ k)
    (h : leBytes k m = leBytes k n) : m = n := by
  rw [← ofLeBytes_leBytes hm, h, ofLeBytes_leBytes hn]

def u16 (n : UInt16) : List UInt8 := leBytes 2 n.toNat

def u64 (n : UInt64) : List UInt8 := leBytes 8 n.toNat

/-- A length or `usize`, written as a `u64`. -/
def usize (n : ℕ) : List UInt8 := leBytes 8 n

/-- The index of an enumeration's variant. -/
def variant (n : ℕ) : List UInt8 := leBytes 4 n

def bytes (b : List UInt8) : List UInt8 := usize b.length ++ b

def str (s : String) : List UInt8 := bytes (utf8 s)

def opt {α : Type} (enc : α → List UInt8) : Option α → List UInt8
  | none => [0]
  | some a => 1 :: enc a

def vec {α : Type} (enc : α → List UInt8) (items : List α) : List UInt8 :=
  usize items.length ++ items.flatMap enc

end Bincode
