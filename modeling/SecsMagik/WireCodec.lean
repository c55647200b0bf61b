import SecsMagik.Bincode
import SecsMagik.Utf8

/-! # Readers and writers of byte strings

A cursor over a byte string is the list of bytes not read yet. `Reads p enc ok` says that the
reader `p` accepts exactly the strings that start with `enc a` for some `a` with `ok a`, returns
that `a` and leaves what follows. `Spells enc view ok` says of a writer that its bytes determine
`view` and where they end.
-/
namespace WireCodec

open RustStd Bincode

/-! ## Results that may panic -/

/-- How a computation stops without a result: with an error, or by a panic. -/
inductive Fault (ε : Type) where
  | error (e : ε)
  | panic
  deriving DecidableEq

variable {ε α β σ : Type}

/-- `&bytes[start..stop]` -/
def slice (bytes : List UInt8) (start stop : ℕ) : Except (Fault ε) (List UInt8) :=
  if start ≤ stop ∧ stop ≤ bytes.length then .ok ((bytes.drop start).take (stop - start))
  else .error .panic

/-- `bytes[i]` -/
def index (bytes : List UInt8) (i : ℕ) : Except (Fault ε) UInt8 :=
  match bytes[i]? with
  | some b => .ok b
  | none => .error .panic

/-- `array.copy_from_slice(bytes)` for an array of `n` bytes -/
def copyFromSlice (n : ℕ) (bytes : List UInt8) : Except (Fault ε) (Bytes n) :=
  if h : bytes.length = n then .ok ⟨bytes, h⟩ else .error .panic

def NeverPanics (x : Except (Fault ε) α) : Prop := x ≠ .error .panic

theorem neverPanics_ok (a : α) : NeverPanics (.ok a : Except (Fault ε) α) := nofun

theorem neverPanics_error (e : ε) : NeverPanics (.error (.error e) : Except (Fault ε) α) := nofun

theorem NeverPanics.bind {x : Except (Fault ε) α} {f : α → Except (Fault ε) β}
    (hx : NeverPanics x) (hf : ∀ a, x = .ok a → NeverPanics (f a)) : NeverPanics (x >>= f) := by
  cases x with
  | error fault => exact fun h => hx (congrArg Except.error (Except.error.inj h))
  | ok a => exact hf a rfl

theorem slice_eq_ok {bytes out : List UInt8} {start stop : ℕ} :
    (slice bytes start stop : Except (Fault ε) _) = .ok out ↔
      start ≤ stop ∧ stop ≤ bytes.length ∧ (bytes.drop start).take (stop - start) = out := by
  unfold slice
  split
  · next h => simp [h]
  · next h =>
      constructor
      · intro h'; cases h'
      · rintro ⟨h₁, h₂, -⟩; exact absurd ⟨h₁, h₂⟩ h

/-- A slice is the front of what starts at its start; the rest starts at its end. -/
theorem drop_eq_of_slice {bytes out : List UInt8} {start stop : ℕ}
    (h : (slice bytes start stop : Except (Fault ε) _) = .ok out) :
    bytes.drop start = out ++ bytes.drop stop ∧ out.length = stop - start := by
  obtain ⟨hle, hstop, rfl⟩ := slice_eq_ok.mp h
  constructor
  · have hdrop : bytes.drop stop = (bytes.drop start).drop (stop - start) := by
      rw [List.drop_drop, Nat.add_sub_cancel' hle]
    rw [hdrop, List.take_append_drop]
  · rw [List.length_take, List.length_drop]
    omega

theorem slice_of_le {bytes : List UInt8} {start stop : ℕ} (h : start ≤ stop)
    (h' : stop ≤ bytes.length) :
    (slice bytes start stop : Except (Fault ε) _) =
      .ok ((bytes.drop start).take (stop - start)) := if_pos ⟨h, h'⟩

/-- What remains at a position. -/
structure At (b : List UInt8) (p : ℕ) (l : List UInt8) : Prop where
  le : p ≤ b.length
  drop : b.drop p = l

namespace At

variable {b l v r : List UInt8} {p : ℕ}

theorem start (h : b = l) : At b 0 l := ⟨Nat.zero_le _, h⟩

theorem get (h : At b p l) : b[p]? = l.head? := by
  rw [← h.drop, List.head?_drop]

theorem length (h : At b p l) : p + l.length = b.length := by
  have hle := h.le
  rw [← h.drop, List.length_drop]
  omega

theorem append (h : At b p (v ++ r)) : At b (p + v.length) r := by
  have hlength := h.length
  rw [List.length_append] at hlength
  constructor
  · omega
  · rw [← List.drop_drop, h.drop, List.drop_left]

theorem tail {c : UInt8} (h : At b p (c :: l)) : At b (p + 1) l := append (v := [c]) h

theorem slice (h : At b p (v ++ r)) :
    (slice b p (p + v.length) : Except (Fault ε) _) = .ok v := by
  rw [slice_of_le (Nat.le_add_right _ _) h.append.le, h.drop, Nat.add_sub_cancel_left,
    List.take_left]

theorem next {n : ℕ} (h : At b p (v ++ r)) (hv : v.length = n) : At b (p + n) r := hv ▸ h.append

theorem slice_of {n : ℕ} (h : At b p (v ++ r)) (hv : v.length = n) :
    (WireCodec.slice b p (p + n) : Except (Fault ε) _) = .ok v := hv ▸ h.slice

theorem slice_rest (h : At b p l) :
    (WireCodec.slice b p b.length : Except (Fault ε) _) = .ok l := by
  rw [slice_of_le h.le le_rfl, ← List.length_drop, List.take_length, h.drop]

theorem index {c : UInt8} (h : At b p (c :: l)) : (index b p : Except (Fault ε) _) = .ok c := by
  rw [WireCodec.index, h.get]
  rfl

end At

/-- `if c { return Err(e) }` -/
def rejectIf (c : Prop) [Decidable c] (e : ε) : Except ε Unit := if c then .error e else .ok ()

theorem rejectIf_eq_ok {c : Prop} [Decidable c] {e : ε} {u : Unit} :
    rejectIf c e = .ok u ↔ ¬ c := by
  unfold rejectIf
  split
  · next h =>
    constructor
    · intro h'; cases h'
    · intro h'; exact absurd h h'
  · next h => exact ⟨fun _ => h, fun _ => rfl⟩

theorem neverPanics_rejectIf {c : Prop} [Decidable c] (e : ε) :
    NeverPanics (rejectIf c (Fault.error e)) := by
  unfold rejectIf
  split
  · exact neverPanics_error e
  · exact neverPanics_ok ()

/-! ## Readers -/

abbrev Reader (ε : Type) := StateT (List UInt8) (Except ε)

def Reads (p : Reader ε α) (enc : α → List UInt8) (ok : α → Prop) : Prop :=
  ∀ bytes a rest, p.run bytes = .ok (a, rest) ↔ ok a ∧ bytes = enc a ++ rest

def fail (e : ε) : Reader ε α := fun _ => .error e

theorem run_bind_eq_ok {p : Reader ε α} {q : α → Reader ε β} {bytes : List UInt8} {b : β}
    {rest : List UInt8} : (p >>= q).run bytes = .ok (b, rest) ↔
      ∃ a mid, p.run bytes = .ok (a, mid) ∧ (q a).run mid = .ok (b, rest) := by
  rw [StateT.run_bind, bind_eq_ok, Prod.exists]

section Reads

variable {p : Reader ε α} {enc : α → List UInt8} {ok : α → Prop}

theorem reads_pure (a : α) : Reads (pure a : Reader ε α) (fun _ => []) (· = a) := by
  intro bytes a' rest
  rw [StateT.run_pure]
  constructor
  · intro h
    cases h
    exact ⟨rfl, rfl⟩
  · rintro ⟨rfl, rfl⟩
    rfl

theorem reads_fail (e : ε) (enc : α → List UInt8) :
    Reads (fail e : Reader ε α) enc (fun _ => False) := by
  intro bytes a rest
  constructor
  · intro h; cases h
  · rintro ⟨h, -⟩; exact h.elim

/-- One field after another: the value read last carries the field read first. -/
theorem Reads.bind {q : α → Reader ε β} {encRest : β → List UInt8} {okRest : α → β → Prop}
    (get : β → α) (hp : Reads p enc ok) (hq : ∀ a, ok a → Reads (q a) encRest (okRest a))
    (hget : ∀ a b, okRest a b → get b = a) :
    Reads (p >>= q) (fun b => enc (get b) ++ encRest b)
      (fun b => ok (get b) ∧ okRest (get b) b) := by
  intro bytes b rest
  rw [run_bind_eq_ok]
  constructor
  · rintro ⟨a, mid, hread, hrest⟩
    obtain ⟨ha, rfl⟩ := (hp _ _ _).mp hread
    obtain ⟨hb, rfl⟩ := (hq a ha _ _ _).mp hrest
    obtain rfl := hget a b hb
    exact ⟨⟨ha, hb⟩, (List.append_assoc _ _ _).symm⟩
  · rintro ⟨⟨ha, hb⟩, rfl⟩
    refine ⟨get b, encRest b ++ rest, (hp _ _ _).mpr ⟨ha, List.append_assoc _ _ _⟩, ?_⟩
    exact (hq _ ha _ _ _).mpr ⟨hb, rfl⟩

theorem Reads.guard {c : Prop} [Decidable c] (e : ε) (hp : Reads p enc ok) :
    Reads (if c then fail e else p) enc (fun a => ¬ c ∧ ok a) := by
  by_cases hc : c
  · simpa [hc] using reads_fail e enc
  · simpa [hc] using hp

theorem Reads.congr {enc' : α → List UInt8} {ok' : α → Prop} (hp : Reads p enc ok)
    (hok : ∀ a, ok a ↔ ok' a) (henc : ∀ a, ok a → enc a = enc' a) : Reads p enc' ok' := by
  intro bytes a rest
  rw [hp, hok a]
  exact and_congr_right fun ha => by rw [henc a ((hok a).mpr ha)]

/-- A value read and then converted, where `get` undoes the conversion. -/
theorem Reads.convert {f : α → Reader ε β} {okOut : β → Prop} (get : β → α)
    (hp : Reads p enc ok)
    (hf : ∀ a, ok a → Reads (f a) (fun _ => []) (fun b => okOut b ∧ get b = a))
    (hok : ∀ b, okOut b → ok (get b)) :
    Reads (p >>= f) (fun b => enc (get b)) okOut := by
  refine (Reads.bind get hp hf fun a b h => h.2).congr ?_ fun b _ => List.append_nil _
  intro b
  exact ⟨fun h => h.2.1, fun h => ⟨hok b h, h, rfl⟩⟩

/-- What a reader accepts is delimited: the front determines the value and its end. -/
theorem Reads.inj (hp : Reads p enc ok) {a b : α} {r s : List UInt8} (ha : ok a) (hb : ok b)
    (h : enc a ++ r = enc b ++ s) : a = b ∧ r = s := by
  have hread := (hp (enc a ++ r) a r).mpr ⟨ha, rfl⟩
  rw [h, (hp (enc b ++ s) b s).mpr ⟨hb, rfl⟩] at hread
  cases hread
  exact ⟨rfl, rfl⟩

end Reads

/-- A computation that reads nothing. -/
def lift (x : Except ε α) : Reader ε α := fun bytes => x.map fun a => (a, bytes)

theorem reads_lift (x : Except ε α) : Reads (lift x) (fun _ => []) (fun a => x = .ok a) := by
  cases x with
  | error e => exact (reads_fail e _).congr (fun a => by simp) fun _ _ => rfl
  | ok a => exact (reads_pure a).congr (fun b => by simp [eq_comm]) fun _ _ => rfl

/-- `cursor.take(n)`, where a cursor that runs short reports `e`. -/
def take (e : ε) (n : ℕ) : Reader ε (List UInt8) := fun bytes =>
  if n ≤ bytes.length then .ok (bytes.take n, bytes.drop n) else .error e

theorem reads_take (e : ε) (n : ℕ) :
    Reads (take e n) (fun value => value) (fun value => value.length = n) := by
  intro bytes value rest
  rw [show (take e n).run bytes = if n ≤ bytes.length then .ok (bytes.take n, bytes.drop n)
    else .error e from rfl]
  split
  · next h =>
    constructor
    · intro heq
      cases heq
      exact ⟨List.length_take_of_le h, (List.take_append_drop n bytes).symm⟩
    · rintro ⟨rfl, rfl⟩
      rw [List.take_left, List.drop_left]
  · next h =>
    constructor
    · intro heq; cases heq
    · rintro ⟨rfl, rfl⟩
      exact absurd (List.length_append ▸ Nat.le_add_right _ _) h

/-- A little-endian integer of `k` bytes. -/
def uintLe (e : ε) (k : ℕ) : Reader ε ℕ := do
  let raw ← take e k
  return ofLeBytes raw

theorem reads_uintLe (e : ε) (k : ℕ) : Reads (uintLe e k) (leBytes k) (· < 256 ^ k) := by
  refine Reads.convert (leBytes k) (reads_take e k) (fun raw hraw => ?_)
    (fun n _ => length_leBytes k n)
  refine (reads_pure (ofLeBytes raw)).congr (fun n => ?_) fun _ _ => rfl
  subst hraw
  constructor
  · rintro rfl
    exact ⟨ofLeBytes_lt raw, leBytes_ofLeBytes raw⟩
  · rintro ⟨hn, hraw⟩
    rw [← hraw, ofLeBytes_leBytes hn]

/-- `cursor.take(n)` converted to an array of `n` bytes. -/
def fixed (e : ε) (n : ℕ) : Reader ε (Bytes n) := do
  let raw ← take e n
  match Bytes.ofSlice? n raw with
  | some value => return value
  | none => fail e

theorem reads_fixed (e : ε) (n : ℕ) :
    Reads (fixed e n) (fun value => value.val) (fun _ => True) := by
  refine Reads.convert (fun value : Bytes n => value.val) (reads_take e n) (fun raw hraw => ?_)
    (fun value _ => value.property)
  rw [show Bytes.ofSlice? n raw = some ⟨raw, hraw⟩ from dif_pos hraw]
  refine (reads_pure _).congr (fun value => ?_) fun _ _ => rfl
  constructor
  · rintro rfl; exact ⟨trivial, rfl⟩
  · rintro ⟨-, rfl⟩; rfl

def textOf (e : ε) (bytes : List UInt8) : Reader ε String :=
  match fromUtf8 bytes with
  | some text => pure text
  | none => fail e

theorem reads_textOf (e : ε) (bytes : List UInt8) :
    Reads (textOf e bytes) (fun _ => []) (fun text => utf8 text = bytes) := by
  unfold textOf
  split
  · next text h =>
    obtain rfl := fromUtf8_eq_some.mp h
    exact (reads_pure text).congr (fun _ => utf8_injective.eq_iff.symm) fun _ _ => rfl
  · next h =>
    refine (reads_fail e _).congr (fun text => ?_) fun _ _ => rfl
    constructor
    · exact False.elim
    · intro htext
      rw [fromUtf8_eq_some.mpr htext.symm] at h
      cases h

def byte (e : ε) : Reader ε UInt8 := do
  let n ← uintLe e 1
  return UInt8.ofNat n

theorem reads_byte (e : ε) : Reads (byte e) (fun b => [b]) (fun _ => True) := by
  refine (Reads.convert UInt8.toNat (reads_uintLe e 1) (fun n hn => ?_)
    (fun b _ => b.toNat_lt)).congr (fun _ => Iff.rfl) fun b _ => ?_
  · refine (reads_pure (UInt8.ofNat n)).congr (fun b => ?_) fun _ _ => rfl
    constructor
    · rintro rfl
      exact ⟨trivial, toNat_ofNat_of_lt hn⟩
    · rintro ⟨-, rfl⟩
      exact UInt8.ofNat_toNat.symm
  · have hb : b.toNat % 256 = b.toNat := Nat.mod_eq_of_lt b.toNat_lt
    simp [leBytes, hb]

def u64Le (e : ε) : Reader ε UInt64 := do
  let n ← uintLe e 8
  return UInt64.ofNat n

theorem reads_u64Le (e : ε) : Reads (u64Le e) u64 (fun _ => True) := by
  refine Reads.convert UInt64.toNat (reads_uintLe e 8) (fun n hn => ?_) (fun v _ => v.toNat_lt)
  refine (reads_pure (UInt64.ofNat n)).congr (fun v => ?_) fun _ _ => rfl
  constructor
  · rintro rfl
    exact ⟨trivial, UInt64.toNat_ofNat_of_lt' hn⟩
  · rintro ⟨-, rfl⟩
    exact UInt64.ofNat_toNat.symm

/-- A `Vec<u8>`: a length of eight bytes and that many bytes. -/
def counted (e : ε) : Reader ε (List UInt8) := do
  let len ← uintLe e 8
  take e len

theorem reads_counted (e : ε) :
    Reads (counted e) Bincode.bytes (fun value => value.length < 256 ^ 8) := by
  refine (Reads.bind List.length (reads_uintLe e 8) (fun len _ => reads_take e len)
    fun len value h => h).congr (fun value => ?_) fun value _ => rfl
  exact and_iff_left rfl

def times (p : Reader ε α) : ℕ → Reader ε (List α)
  | 0 => pure []
  | n + 1 => do
    let a ← p
    let rest ← times p n
    return a :: rest

theorem Reads.times {p : Reader ε α} {enc : α → List UInt8} {ok : α → Prop} (hp : Reads p enc ok)
    (n : ℕ) : Reads (times p n) (fun values => values.flatMap enc)
      (fun values => values.length = n ∧ ∀ a ∈ values, ok a) := by
  induction n with
  | zero =>
    refine (reads_pure []).congr (fun values => ?_) fun values h => by rw [h]; rfl
    constructor
    · rintro rfl
      exact ⟨rfl, by simp⟩
    · exact fun h => List.eq_nil_of_length_eq_zero h.1
  | succ n ih =>
    intro bytes values rest
    rw [WireCodec.times, run_bind_eq_ok]
    constructor
    · rintro ⟨a, mid, hread, hrest⟩
      obtain ⟨tail, mid', htail, hpure⟩ := run_bind_eq_ok.mp hrest
      obtain ⟨rfl, rfl⟩ := (reads_pure (a :: tail) _ _ _).mp hpure
      obtain ⟨ha, rfl⟩ := (hp _ _ _).mp hread
      obtain ⟨⟨hlength, hok⟩, rfl⟩ := (ih _ _ _).mp htail
      refine ⟨⟨by rw [List.length_cons, hlength], List.forall_mem_cons.mpr ⟨ha, hok⟩⟩, ?_⟩
      simp
    · rintro ⟨⟨hlength, hok⟩, rfl⟩
      cases values with
      | nil => cases hlength
      | cons a tail =>
        rw [List.forall_mem_cons] at hok
        refine ⟨a, tail.flatMap enc ++ rest, (hp _ _ _).mpr ⟨hok.1, ?_⟩, run_bind_eq_ok.mpr
          ⟨tail, rest, (ih _ _ _).mpr ⟨⟨Nat.succ.inj hlength, hok.2⟩, rfl⟩, rfl⟩⟩
        simp

/-! ## Readers that never panic -/

def SafeReader (p : Reader (Fault ε) α) : Prop := ∀ bytes, NeverPanics (p.run bytes)

section SafeReader

variable {p : Reader (Fault ε) α}

theorem safeReader_pure (a : α) : SafeReader (pure a : Reader (Fault ε) α) :=
  fun _ => neverPanics_ok _

theorem safeReader_fail (e : ε) : SafeReader (fail (Fault.error e) : Reader (Fault ε) α) :=
  fun _ => neverPanics_error e

theorem SafeReader.bind {q : α → Reader (Fault ε) β} (hp : SafeReader p)
    (hq : ∀ a bytes rest, p.run bytes = .ok (a, rest) → SafeReader (q a)) :
    SafeReader (p >>= q) := by
  intro bytes
  rw [StateT.run_bind]
  exact (hp bytes).bind fun ⟨a, rest⟩ h => hq a bytes rest h rest

theorem safeReader_take (e : ε) (n : ℕ) : SafeReader (take (Fault.error e) n) := by
  intro bytes
  rw [show (take (Fault.error e) n).run bytes = if n ≤ bytes.length then
    .ok (bytes.take n, bytes.drop n) else .error (.error e) from rfl]
  split
  · exact neverPanics_ok _
  · exact neverPanics_error e

theorem safeReader_uintLe (e : ε) (k : ℕ) : SafeReader (uintLe (Fault.error e) k) :=
  (safeReader_take e k).bind fun _ _ _ _ => safeReader_pure _

theorem safeReader_fixed (e : ε) (n : ℕ) : SafeReader (fixed (Fault.error e) n) := by
  refine (safeReader_take e n).bind fun raw _ _ _ => ?_
  split
  · exact safeReader_pure _
  · exact safeReader_fail e

theorem safeReader_textOf (e : ε) (bytes : List UInt8) :
    SafeReader (textOf (Fault.error e) bytes) := by
  unfold textOf
  split
  · exact safeReader_pure _
  · exact safeReader_fail e

end SafeReader

/-! ## Writers -/

variable {τ : Type}

/-- Writers of bytes, or of any other symbols. -/
def Spells (enc : σ → List τ) (view : σ → α) (ok : σ → Prop) : Prop :=
  ∀ x y r s, ok x → ok y → enc x ++ r = enc y ++ s → view x = view y ∧ r = s

section Spells

variable {enc : σ → List τ} {view : σ → α} {ok : σ → Prop}

theorem Spells.inj (h : Spells enc view ok) {x y : σ} (hx : ok x) (hy : ok y)
    (heq : enc x = enc y) : view x = view y :=
  (h x y [] [] hx hy (by rw [heq])).1

theorem Spells.append {enc' : σ → List τ} {view' : σ → β} (h : Spells enc view ok)
    (h' : Spells enc' view' ok) :
    Spells (fun x => enc x ++ enc' x) (fun x => (view x, view' x)) ok := by
  intro x y r s hx hy heq
  simp only [List.append_assoc] at heq
  obtain ⟨hview, heq⟩ := h x y _ _ hx hy heq
  obtain ⟨hview', hrest⟩ := h' x y _ _ hx hy heq
  exact ⟨Prod.ext hview hview', hrest⟩

theorem Spells.field {ρ : Type} {okField : ρ → Prop} (get : ρ → σ) (h : Spells enc view ok)
    (hok : ∀ x, okField x → ok (get x)) :
    Spells (fun x => enc (get x)) (fun x => view (get x)) okField := by
  intro x y r s hx hy heq
  exact h (get x) (get y) r s (hok x hx) (hok y hy) heq

theorem spells_bytes (n : ℕ) (ok : Bytes n → Prop) :
    Spells (fun value : Bytes n => value.val) (fun value => value) ok := by
  intro x y r s _ _ heq
  obtain ⟨hval, hrest⟩ := List.append_inj heq (x.property.trans y.property.symm)
  exact ⟨Subtype.ext hval, hrest⟩

theorem spells_leBytes (k : ℕ) : Spells (leBytes k) (fun n => n) (· < 256 ^ k) := by
  intro m n r s hm hn heq
  obtain ⟨hval, hrest⟩ := List.append_inj heq (by rw [length_leBytes, length_leBytes])
  exact ⟨leBytes_inj hm hn hval, hrest⟩

theorem spells_const (symbols : List τ) : Spells (fun _ : σ => symbols) (fun _ => ()) ok := by
  intro x y r s _ _ heq
  exact ⟨rfl, List.append_cancel_left heq⟩

/-- Symbols with a property that end at the first symbol without it. -/
theorem append_stop_inj {p : τ → Prop} {a b r s : List τ} {c d : τ} (ha : ∀ x ∈ a, p x)
    (hb : ∀ x ∈ b, p x) (hc : ¬ p c) (hd : ¬ p d) (h : a ++ c :: r = b ++ d :: s) :
    a = b ∧ c :: r = d :: s := by
  induction a generalizing b with
  | nil =>
    cases b with
    | nil => exact ⟨rfl, h⟩
    | cons y b => exact absurd (hb y List.mem_cons_self) ((List.cons.inj h).1 ▸ hc)
  | cons x a ih =>
    cases b with
    | nil => exact absurd (ha x List.mem_cons_self) ((List.cons.inj h).1 ▸ hd)
    | cons y b =>
      obtain ⟨rfl, htail⟩ := List.cons.inj h
      obtain ⟨rfl, hrest⟩ := ih (fun z hz => ha z (List.mem_cons_of_mem _ hz))
        (fun z hz => hb z (List.mem_cons_of_mem _ hz)) htail
      exact ⟨rfl, hrest⟩

theorem spells_counted (k : ℕ) : Spells (fun bytes => leBytes k bytes.length ++ bytes)
    (fun bytes => bytes) (fun bytes => bytes.length < 256 ^ k) := by
  intro x y r s hx hy heq
  simp only [List.append_assoc] at heq
  obtain ⟨hlen, heq⟩ := spells_leBytes k x.length y.length _ _ hx hy heq
  exact List.append_inj heq hlen

/-- A view may be recovered from an injective image of it. -/
theorem Spells.of_injective {f : α → β} (h : Spells enc (fun x => f (view x)) ok)
    (hf : Function.Injective f) : Spells enc view ok := by
  intro x y r s hx hy heq
  obtain ⟨hview, hrest⟩ := h x y r s hx hy heq
  exact ⟨hf hview, hrest⟩

theorem Spells.congr {view' : σ → α} (h : Spells enc view ok) (hview : ∀ x, view x = view' x) :
    Spells enc view' ok := by
  intro x y r s hx hy heq
  rw [← hview x, ← hview y]
  exact h x y r s hx hy heq

/-! ### The bincode writers -/

theorem spells_singleton : Spells (fun b : UInt8 => [b]) (fun b => b) (fun _ => True) := by
  intro x y r s _ _ heq
  obtain ⟨hb, hrest⟩ := List.cons.inj heq
  exact ⟨hb, hrest⟩

theorem spells_u16 : Spells u16 (fun n => n) (fun _ => True) :=
  ((spells_leBytes 2).field UInt16.toNat fun n _ => n.toNat_lt).of_injective
    fun _ _ => UInt16.toNat_inj.mp

theorem spells_u64 : Spells u64 (fun n => n) (fun _ => True) :=
  ((spells_leBytes 8).field UInt64.toNat fun n _ => n.toNat_lt).of_injective
    fun _ _ => UInt64.toNat_inj.mp

theorem spells_str : Spells str (fun s => s) (fun s => byteLen s < 256 ^ 8) :=
  ((spells_counted 8).field utf8 fun _ h => h).of_injective utf8_injective

theorem spells_opt {enc : σ → List UInt8} (h : Spells enc view ok) :
    Spells (opt enc) (Option.map view) (fun value => ∀ a ∈ value, ok a) := by
  intro x y r s hx hy heq
  cases x with
  | none =>
    cases y with
    | none => exact ⟨rfl, List.append_cancel_left heq⟩
    | some b => exact absurd (List.cons.inj heq).1 (by decide)
  | some a =>
    cases y with
    | none => exact absurd (List.cons.inj heq).1 (by decide)
    | some b =>
      obtain ⟨hview, hrest⟩ := h a b r s (hx a rfl) (hy b rfl) (List.cons.inj heq).2
      exact ⟨congrArg some hview, hrest⟩

theorem spells_optStr :
    Spells (opt str) (fun o => o) (fun o => ∀ text ∈ o, byteLen text < 256 ^ 8) :=
  (spells_opt spells_str).congr fun _ => Option.map_id_apply

theorem flatMap_inj_of_spells (h : Spells enc view ok) :
    ∀ {xs ys : List σ} {r s : List τ}, xs.length = ys.length → (∀ x ∈ xs, ok x) →
      (∀ y ∈ ys, ok y) → xs.flatMap enc ++ r = ys.flatMap enc ++ s →
        xs.map view = ys.map view ∧ r = s := by
  intro xs
  induction xs with
  | nil =>
    intro ys r s hlen _ _ heq
    obtain rfl := List.eq_nil_of_length_eq_zero hlen.symm
    exact ⟨rfl, heq⟩
  | cons x xs ih =>
    intro ys r s hlen hxs hys heq
    cases ys with
    | nil => cases hlen
    | cons y ys =>
      simp only [List.flatMap_cons, List.append_assoc] at heq
      obtain ⟨hview, heq⟩ := h x y _ _ (hxs x (by simp)) (hys y (by simp)) heq
      obtain ⟨hviews, hrest⟩ := ih (Nat.succ.inj hlen) (fun z hz => hxs z (by simp [hz]))
        (fun z hz => hys z (by simp [hz])) heq
      exact ⟨by rw [List.map_cons, List.map_cons, hview, hviews], hrest⟩

theorem spells_vec {enc : σ → List UInt8} (h : Spells enc view ok) :
    Spells (vec enc) (List.map view)
      (fun items => items.length < 256 ^ 8 ∧ ∀ item ∈ items, ok item) := by
  intro x y r s hx hy heq
  simp only [vec, usize, List.append_assoc] at heq
  obtain ⟨hlen, heq⟩ := spells_leBytes 8 x.length y.length _ _ hx.1 hy.1 heq
  exact flatMap_inj_of_spells h hlen hx.2 hy.2 heq

theorem spells_vecStr : Spells (vec str) (fun items => items)
    (fun items => items.length < 256 ^ 8 ∧ ∀ item ∈ items, byteLen item < 256 ^ 8) :=
  (spells_vec spells_str).congr List.map_id

end Spells

end WireCodec
