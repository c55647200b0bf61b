import Mathlib.Data.List.Basic
import Mathlib.Data.UInt
import Mathlib.Tactic.NormNum

/-! # Integers, byte arrays and text of the Rust standard library

Fixed arrays are byte lists that carry their length; text operations work on the characters of
a `String`, and sizes are counted in UTF-8 bytes as `str::len` does.
-/
namespace RustStd

/-- `[u8; n]` -/
abbrev Bytes (n : ℕ) := {bytes : List UInt8 // bytes.length = n}

/-- `[b; n]` -/
def Bytes.filled (n : ℕ) (b : UInt8) : Bytes n := ⟨List.replicate n b, List.length_replicate⟩

/-- `<[u8; n]>::try_from(slice)` -/
def Bytes.ofSlice? (n : ℕ) (bytes : List UInt8) : Option (Bytes n) :=
  if h : bytes.length = n then some ⟨bytes, h⟩ else none

@[simp] theorem Bytes.ofSlice?_val {n : ℕ} (bytes : Bytes n) :
    Bytes.ofSlice? n bytes.val = some bytes := by
  simp [ofSlice?, bytes.property]

/-- Schemas come as a name and a version, compared part by part. -/
instance instLawfulBEqSchema : LawfulBEq (String × UInt64) := inferInstance

/-! ## Integers -/

def u64Max : UInt64 := 0xFFFFFFFFFFFFFFFF

/-- `u64::saturating_add` -/
def saturatingAdd (a b : UInt64) : UInt64 :=
  if a.toNat + b.toNat < 2 ^ 64 then a + b else u64Max

/-- `u64::saturating_sub` -/
def saturatingSub (a b : UInt64) : UInt64 := if a < b then 0 else a - b

/-- `u64::checked_add` -/
def checkedAdd (a b : UInt64) : Option UInt64 :=
  if a.toNat + b.toNat < 2 ^ 64 then some (a + b) else none

/-- `x as i64`: the same 64 bits read in two's complement. -/
def asI64 (x : UInt64) : ℤ := x.toBitVec.toInt

/-- `x as u64`: the same 64 bits read as a natural number. -/
def asU64 (x : ℤ) : UInt64 := ⟨BitVec.ofInt 64 x⟩

@[simp] theorem asU64_asI64 (x : UInt64) : asU64 (asI64 x) = x := by
  rw [asU64, asI64, BitVec.ofInt_toInt]

/-- `i64::try_from(x).ok()` -/
def tryI64 (x : UInt64) : Option ℤ := if x.toNat < 2 ^ 63 then some x.toNat else none

theorem asI64_eq (x : UInt64) :
    asI64 x = if x.toNat < 2 ^ 63 then (x.toNat : ℤ) else (x.toNat : ℤ) - 2 ^ 64 := by
  rw [asI64, BitVec.toInt_eq_toNat_cond]
  have hx : x.toBitVec.toNat = x.toNat := rfl
  have hiff : 2 * x.toNat < 2 ^ 64 ↔ x.toNat < 2 ^ 63 := by omega
  simp only [hx, hiff]
  rfl

theorem asU64_of_tryI64 {x : UInt64} {n : ℤ} (h : tryI64 x = some n) : asU64 n = x := by
  unfold tryI64 at h
  split at h
  · next hlt =>
    obtain rfl := Option.some.inj h
    have hx := asU64_asI64 x
    rwa [asI64_eq, if_pos hlt] at hx
  · cases h

theorem toNat_of_checkedAdd {a b c : UInt64} (h : checkedAdd a b = some c) :
    c.toNat = a.toNat + b.toNat := by
  unfold checkedAdd at h
  split at h
  · next hlt =>
      obtain rfl := Option.some.inj h
      rw [UInt64.toNat_add, Nat.mod_eq_of_lt hlt]
  · cases h

theorem checkedAdd_of_lt {a b : UInt64} (h : a.toNat + b.toNat < 2 ^ 64) :
    checkedAdd a b = some (a + b) := if_pos h

theorem toNat_min (a b : UInt64) : (min a b).toNat = min a.toNat b.toNat := by
  change (if a ≤ b then a else b).toNat = _
  by_cases h : a ≤ b
  · rw [if_pos h]
    have := UInt64.le_iff_toNat_le.mp h
    omega
  · rw [if_neg h]
    have := UInt64.lt_iff_toNat_lt.mp (UInt64.not_le.mp h)
    omega

/-- A window of at most `span` that starts at `start` and ends no later than `finish`. -/
theorem min_checkedAdd_window {start span finish limit : UInt64}
    (hlimit : checkedAdd start span = some limit) (hlt : start < finish) :
    min limit finish ≤ finish ∧ min limit finish - start ≤ span := by
  have hlt := UInt64.lt_iff_toNat_lt.mp hlt
  have hend : (min limit finish).toNat = min (start.toNat + span.toNat) finish.toNat := by
    rw [toNat_min, toNat_of_checkedAdd hlimit]
  constructor
  · rw [UInt64.le_iff_toNat_le, hend]
    omega
  · have hle : start ≤ min limit finish := by
      rw [UInt64.le_iff_toNat_le, hend]
      omega
    rw [UInt64.le_iff_toNat_le, UInt64.toNat_sub_of_le _ _ hle, hend]
    omega

/-- Casting keeps the order within each half of the range; every number of the upper half comes
out below every number of the lower half. -/
theorem asI64_lt_asI64 (x y : UInt64) :
    asI64 x < asI64 y ↔
      (x.toNat < y.toNat ∧ (y.toNat < 2 ^ 63 ∨ 2 ^ 63 ≤ x.toNat)) ∨
        (2 ^ 63 ≤ x.toNat ∧ y.toNat < 2 ^ 63) := by
  have hx := x.toNat_lt
  have hy := y.toNat_lt
  rw [asI64_eq, asI64_eq]
  split <;> split <;> omega

/-! ## Text -/

/-- `str::as_bytes` -/
def utf8 (s : String) : List UInt8 := s.toByteArray.data.toList

theorem utf8_eq (s : String) : utf8 s = s.toList.flatMap String.utf8EncodeChar := by
  rw [utf8, ← String.utf8Encode_toList, List.utf8Encode, List.data_toByteArray]

theorem utf8_append (s t : String) : utf8 (s ++ t) = utf8 s ++ utf8 t := by
  rw [utf8_eq, utf8_eq, utf8_eq, String.toList_append, List.flatMap_append]

/-- `str::len` -/
def byteLen (s : String) : ℕ := (utf8 s).length

/-- The character a continuation of `n` at the head of a byte string spells. -/
def scalar (bits : ℕ) (continuation : List UInt8) : Char :=
  Char.ofNat (continuation.foldl (fun acc b => acc * 64 + b.toNat % 64) bits)

def isContinuation (b : UInt8) : Bool := 0x80 ≤ b && b ≤ 0xBF

/-- The second bytes that a three or four byte sequence starting with `b` admits. -/
def admitsSecond (b second : UInt8) : Bool :=
  if b = 0xE0 then 0xA0 ≤ second && second ≤ 0xBF
  else if b = 0xED then 0x80 ≤ second && second ≤ 0x9F
  else if b = 0xF0 then 0x90 ≤ second && second ≤ 0xBF
  else if b = 0xF4 then 0x80 ≤ second && second ≤ 0x8F
  else isContinuation second

/-- One step of UTF-8 decoding: a character, or `none` for the longest invalid start, with the
number of bytes it takes. -/
def decodeChar (b : UInt8) (rest : List UInt8) : Option Char × ℕ :=
  if b < 0x80 then (some (Char.ofNat b.toNat), 1)
  else if 0xC2 ≤ b && b ≤ 0xDF then
    match rest with
    | b₁ :: _ => if isContinuation b₁ then (some (scalar (b.toNat % 32) [b₁]), 2) else (none, 1)
    | [] => (none, 1)
  else if 0xE0 ≤ b && b ≤ 0xEF then
    match rest with
    | b₁ :: rest =>
      if admitsSecond b b₁ then
        match rest with
        | b₂ :: _ =>
          if isContinuation b₂ then (some (scalar (b.toNat % 16) [b₁, b₂]), 3) else (none, 2)
        | [] => (none, 2)
      else (none, 1)
    | [] => (none, 1)
  else if 0xF0 ≤ b && b ≤ 0xF4 then
    match rest with
    | b₁ :: rest =>
      if admitsSecond b b₁ then
        match rest with
        | b₂ :: rest =>
          if isContinuation b₂ then
            match rest with
            | b₃ :: _ =>
              if isContinuation b₃ then (some (scalar (b.toNat % 8) [b₁, b₂, b₃]), 4)
              else (none, 3)
            | [] => (none, 3)
          else (none, 2)
        | [] => (none, 2)
      else (none, 1)
    | [] => (none, 1)
  else (none, 1)

/-- Decoding by steps; every step takes at least one byte, so the length bounds the steps. -/
def decodeChars : ℕ → List UInt8 → List (Option Char)
  | 0, _ => []
  | _, [] => []
  | fuel + 1, b :: rest =>
    let (c, taken) := decodeChar b rest
    c :: decodeChars fuel ((b :: rest).drop taken)

/-- `str::chars` -/
def chars (s : String) : List Char := (decodeChars (utf8 s).length (utf8 s)).reduceOption

/-- `String::from_utf8_lossy` -/
def fromUtf8Lossy (bytes : List UInt8) : String :=
  String.ofList ((decodeChars bytes.length bytes).map (·.getD (Char.ofNat 0xFFFD)))

/-- `std::str::from_utf8(bytes).ok()` -/
def fromUtf8 (bytes : List UInt8) : Option String :=
  ((decodeChars bytes.length bytes).mapM id).map String.ofList

def startsWith (s head : String) : Bool := (chars head).isPrefixOf (chars s)

/-- `str::strip_prefix` -/
def stripPrefix (s head : String) : Option String :=
  if startsWith s head then some (String.ofList ((chars s).drop (chars head).length)) else none

def containsChar (s : String) (c : Char) : Bool := (chars s).contains c

def isInfixOf (needle : List Char) : List Char → Bool
  | [] => needle.isEmpty
  | c :: rest => needle.isPrefixOf (c :: rest) || isInfixOf needle rest

/-- `str::contains(&str)` -/
def containsStr (s needle : String) : Bool := isInfixOf (chars needle) (chars s)

def endsWith (s tail : String) : Bool := (chars tail).isSuffixOf (chars s)

/-- `str::strip_suffix` -/
def stripSuffix (s tail : String) : Option String :=
  if endsWith s tail then
    some (String.ofList ((chars s).take ((chars s).length - (chars tail).length)))
  else none

/-- `str::split_once(char)` -/
def splitOnce (s : String) (c : Char) : Option (String × String) :=
  match (chars s).span (· ≠ c) with
  | (_, []) => none
  | (before, _ :: after) => some (String.ofList before, String.ofList after)

/-- `str::split(char)` -/
def split (s : String) (c : Char) : List String := ((chars s).splitOn c).map String.ofList

/-- `[&str]::join` -/
def join (parts : List String) (separator : String) : String := separator.intercalate parts

/-- `char::is_whitespace` -/
def isWhitespace (c : Char) : Bool :=
  let n := c.toNat
  (9 ≤ n && n ≤ 13) || n == 0x20 || n == 0x85 || n == 0xA0 || n == 0x1680 ||
    (0x2000 ≤ n && n ≤ 0x200A) || n == 0x2028 || n == 0x2029 || n == 0x202F || n == 0x205F ||
    n == 0x3000

def trimChars (cs : List Char) : List Char :=
  ((cs.dropWhile isWhitespace).reverse.dropWhile isWhitespace).reverse

/-- `str::trim` -/
def trim (s : String) : String := String.ofList (trimChars (chars s))

/-- `u8::is_ascii_digit` -/
def isAsciiDigit (b : UInt8) : Bool := 48 ≤ b && b ≤ 57

/-- `u8::is_ascii_lowercase` -/
def isAsciiLowercase (b : UInt8) : Bool := 97 ≤ b && b ≤ 122

/-- `u8::is_ascii_alphanumeric` -/
def isAsciiAlphanumeric (b : UInt8) : Bool :=
  isAsciiDigit b || isAsciiLowercase b || (65 ≤ b && b ≤ 90)

/-- The digits of lower-case hexadecimal text. -/
def isLowerHexByte (b : UInt8) : Bool := isAsciiDigit b || (97 ≤ b && b ≤ 102)

/-- `char::is_control` -/
def isControl (c : Char) : Bool := c.toNat < 0x20 || (0x7f ≤ c.toNat && c.toNat ≤ 0x9f)

/-- `str::to_ascii_lowercase` -/
def asciiLower (s : String) : String := String.ofList ((chars s).map Char.toLower)

/-- `{:x}` of one hexadecimal digit -/
def hexDigit (n : ℕ) : Char := if n < 10 then Char.ofNat (48 + n) else Char.ofNat (87 + n)

theorem hexDigit_injective {m n : ℕ} (hm : m < 16) (hn : n < 16)
    (h : hexDigit m = hexDigit n) : m = n := by
  have hall : ∀ i j : Fin 16, hexDigit i = hexDigit j → i = j := by decide
  exact Fin.mk.inj (hall ⟨m, hm⟩ ⟨n, hn⟩ h)

/-- `{:02x}` -/
def hexByte (b : UInt8) : String :=
  String.ofList [hexDigit (b.toNat / 16), hexDigit (b.toNat % 16)]

def lowerHex (bytes : List UInt8) : String :=
  String.ofList (bytes.flatMap fun b => [hexDigit (b.toNat / 16), hexDigit (b.toNat % 16)])

/-- `to_string` of an unsigned integer -/
def decimal (n : ℕ) : String := String.ofList (Nat.toDigits 10 n)

def boolText (b : Bool) : String := if b then "true" else "false"

theorem toOption_eq_some {ε α : Type} {x : Except ε α} {a : α} :
    x.toOption = some a ↔ x = .ok a := by
  cases x <;> simp [Except.toOption]

/-- `?` on a result: what follows succeeds only if the result did. -/
theorem bind_eq_ok {ε α β : Type} {x : Except ε α} {f : α → Except ε β} {b : β} :
    (x >>= f) = .ok b ↔ ∃ a, x = .ok a ∧ f a = .ok b := by
  cases x with
  | error e =>
    constructor
    · intro h; cases h
    · rintro ⟨a, h, -⟩; cases h
  | ok a =>
    constructor
    · intro h; exact ⟨a, rfl, h⟩
    · rintro ⟨a', h, hf⟩; cases h; exact hf

theorem bind_eq_error {ε α β : Type} {x : Except ε α} {f : α → Except ε β} {e : ε} :
    (x >>= f) = .error e ↔ x = .error e ∨ ∃ a, x = .ok a ∧ f a = .error e := by
  cases x <;> simp [bind, Except.bind]

/-- `ok_or(e)?` -/
theorem elim_eq_ok {α ε : Type} {o : Option α} {e : ε} {a : α} :
    o.elim (.error e) .ok = (.ok a : Except ε α) ↔ o = some a := by
  cases o <;> simp

theorem mapError_eq_ok {ε ε' α : Type} {f : ε → ε'} {x : Except ε α} {a : α} :
    x.mapError f = .ok a ↔ x = .ok a := by
  cases x <;> simp [Except.mapError]

/-! ## Loops -/

section Loops

variable {α ε : Type}

/-- `check()?` before the rest -/
theorem check_bind_eq_ok {β : Type} {check : Except ε Unit} {f : Unit → Except ε β} {b : β} :
    (check >>= f) = .ok b ↔ check = .ok () ∧ f () = .ok b := by
  rw [bind_eq_ok]
  constructor
  · rintro ⟨⟨⟩, hcheck, hf⟩
    exact ⟨hcheck, hf⟩
  · rintro ⟨hcheck, hf⟩
    exact ⟨(), hcheck, hf⟩

/-- `for x in xs { f(x)? }` -/
theorem forM_eq_ok {f : α → Except ε Unit} {xs : List α} {u : Unit} :
    xs.forM f = .ok u ↔ ∀ x ∈ xs, f x = .ok () := by
  induction xs with
  | nil => exact ⟨fun _ => List.forall_mem_nil _, fun _ => rfl⟩
  | cons x xs ih =>
    rw [List.forall_mem_cons, ← ih]
    exact check_bind_eq_ok

/-- `for (i, x) in xs.iter().enumerate()`; the body sees `xs[..i]` and `x`. -/
def forEnumerated (body : List α → α → Except ε Unit) : List α → List α → Except ε Unit
  | _, [] => .ok ()
  | before, x :: rest => do
    body before x
    forEnumerated body (before ++ [x]) rest

/-- A loop whose body checks each item by itself and against the items before it. -/
theorem forEnumerated_eq_ok {body : List α → α → Except ε Unit} {P : α → Prop} {R : α → α → Prop}
    (hbody : ∀ before x, body before x = .ok () ↔ P x ∧ ∀ y ∈ before, R y x)
    {before xs : List α} :
    forEnumerated body before xs = .ok () ↔
      (∀ x ∈ xs, P x) ∧ xs.Pairwise R ∧ ∀ y ∈ before, ∀ x ∈ xs, R y x := by
  induction xs generalizing before with
  | nil => simp [forEnumerated]
  | cons x xs ih =>
    rw [forEnumerated, check_bind_eq_ok, hbody, ih]
    simp only [List.forall_mem_cons, List.pairwise_cons, List.forall_mem_append]
    constructor
    · rintro ⟨⟨hx, hbefore⟩, hxs, hpair, hbefore', hx', -⟩
      exact ⟨⟨hx, hxs⟩, ⟨hx', hpair⟩, fun y hy => ⟨hbefore y hy, hbefore' y hy⟩⟩
    · rintro ⟨⟨hx, hxs⟩, ⟨hx', hpair⟩, hbefore⟩
      exact ⟨⟨hx, fun y hy => (hbefore y hy).1⟩, hxs, hpair, fun y hy => (hbefore y hy).2, hx',
        List.forall_mem_nil _⟩

theorem forEnumerated_nil_eq_ok {body : List α → α → Except ε Unit} {P : α → Prop}
    {R : α → α → Prop} (hbody : ∀ before x, body before x = .ok () ↔ P x ∧ ∀ y ∈ before, R y x)
    {xs : List α} :
    forEnumerated body [] xs = .ok () ↔ (∀ x ∈ xs, P x) ∧ xs.Pairwise R := by
  rw [forEnumerated_eq_ok hbody]
  simp

/-- A loop that keeps `all &= …`. -/
theorem foldlM_and_eq_true {f : Bool → α → Except ε Bool} {Q : α → Prop}
    (hstep : ∀ all x, f all x = .ok true ↔ all = true ∧ Q x) {all : Bool} {xs : List α} :
    xs.foldlM f all = .ok true ↔ all = true ∧ ∀ x ∈ xs, Q x := by
  induction xs generalizing all with
  | nil => simp [pure, Except.pure]
  | cons x xs ih =>
    rw [List.foldlM_cons, bind_eq_ok, List.forall_mem_cons]
    constructor
    · rintro ⟨b, hb, hrest⟩
      obtain ⟨rfl, hxs⟩ := ih.mp hrest
      obtain ⟨hall, hx⟩ := (hstep all x).mp hb
      exact ⟨hall, hx, hxs⟩
    · rintro ⟨hall, hx, hxs⟩
      exact ⟨true, (hstep all x).mpr ⟨hall, hx⟩, ih.mpr ⟨rfl, hxs⟩⟩

/-- A loop that keeps `any |= …`; it goes on to the end, so every step has to succeed. -/
theorem foldlM_or_eq_true {f : Bool → α → Except ε Bool} {g : α → Except ε Bool}
    (hstep : ∀ any x, f any x = (g x).map (any || ·)) {any : Bool} {xs : List α} :
    xs.foldlM f any = .ok true ↔
      (∀ x ∈ xs, ∃ b, g x = .ok b) ∧ (any = true ∨ ∃ x ∈ xs, g x = .ok true) := by
  induction xs generalizing any with
  | nil => simp [pure, Except.pure]
  | cons x xs ih =>
    rw [List.foldlM_cons, hstep, List.forall_mem_cons]
    cases hx : g x with
    | error e => simp [Except.map, bind, Except.bind]
    | ok b =>
      change xs.foldlM f (any || b) = .ok true ↔ _
      rw [ih]
      simp only [Except.ok.injEq, exists_eq', true_and, List.exists_mem_cons_iff, hx,
        Bool.or_eq_true, or_assoc]

theorem foldlM_total {β : Type} {f : β → α → Except ε β} {xs : List α}
    (hstep : ∀ acc, ∀ x ∈ xs, ∃ b, f acc x = .ok b) (acc : β) : ∃ b, xs.foldlM f acc = .ok b := by
  induction xs generalizing acc with
  | nil => exact ⟨acc, rfl⟩
  | cons x xs ih =>
    obtain ⟨b, hb⟩ := hstep acc x List.mem_cons_self
    obtain ⟨c, hc⟩ := ih (fun acc y hy => hstep acc y (List.mem_cons_of_mem _ hy)) b
    exact ⟨c, by rw [List.foldlM_cons, hb]; exact hc⟩

theorem find?_of_distinct {κ : Type} [DecidableEq κ] {key : α → κ} {xs : List α}
    (hdistinct : xs.Pairwise (key · ≠ key ·)) {x : α} (hx : x ∈ xs) :
    xs.find? (key · = key x) = some x := by
  induction xs with
  | nil => cases hx
  | cons y ys ih =>
    obtain ⟨hy, hys⟩ := List.pairwise_cons.mp hdistinct
    rcases List.mem_cons.mp hx with rfl | hx
    · simp
    · rw [List.find?_cons_of_neg, ih hys hx]
      simpa using hy x hx

end Loops

end RustStd
