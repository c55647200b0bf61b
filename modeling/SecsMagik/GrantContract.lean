import SecsMagik.CanonicalJson
import SecsMagik.PublicAudit

/-! # Holder grants and credentials

An issuer signs a grant for one holder key; the holder derives credentials with permissions within
the grant's and presents them for single calls. Both versions of the format share this code: a
`Version` carries what differs between them.
-/
namespace GrantContract

open RustStd WireCodec CanonicalJson
open ExternalCrates (Crates Strict)
open PublicAudit (fixedHex)

abbrev Result (α : Type) := Except String α

def maxSize : ℕ := 131072

def maxRootClaims : ℕ := 61440

/-- The largest integer a double holds exactly. -/
def safeMax : ℕ := 9007199254740991

/-- The room of a presentation: credential, call and proof. -/
def maxPresentation : ℕ := 130000

def invalid : String := "invalid_holder_authority"

/-! ## Text, keys and values -/

def isTextByte (b : UInt8) : Bool := 33 ≤ b && b ≤ 126 && b ≠ 42

def text (s : String) : Result Unit :=
  rejectIf (s = "" ∨ 256 < byteLen s ∨ (utf8 s).all isTextByte = false) invalid

def isHexByte (b : UInt8) : Bool := (48 ≤ b && b ≤ 57) || (97 ≤ b && b ≤ 102)

def hex (n : ℕ) (s : String) : Result (Bytes n) := do
  rejectIf (byteLen s ≠ n * 2 ∨ (utf8 s).all isHexByte = false) invalid
  (fixedHex n s).mapError fun _ => invalid

/-- `if let Some(i) = id { hex::<16>(i)?; }` -/
def hexIfSome : Option String → Result Unit
  | none => .ok ()
  | some i => do
    let _ ← hex 16 i
    return ()

mutual

def safe (v : Json) (depth : ℕ) : Result Unit := do
  rejectIf (32 < depth) invalid
  match v with
  | .int n => rejectIf (¬ (-(safeMax : ℤ) ≤ n ∧ n ≤ safeMax)) invalid
  | .float _ => .error invalid
  | .array items => safeItems items (depth + 1)
  | .object members => do
    rejectIf (members.any (·.1 = "$serde_json::private::Number")) invalid
    safeMembers members (depth + 1)
  | .null | .bool _ | .string _ => .ok ()

def safeItems : List Json → ℕ → Result Unit
  | [], _ => .ok ()
  | v :: rest, depth => do
    safe v depth
    safeItems rest depth

def safeMembers : List (String × Json) → ℕ → Result Unit
  | [], _ => .ok ()
  | (_, v) :: rest, depth => do
    safe v depth
    safeMembers rest depth

end

def canonical (v : Json) : Result (List UInt8) := do
  safe v 0
  let b := v.bytes
  rejectIf (maxSize < b.length) invalid
  return b

/-! ## What the checks establish -/

variable {s : String}

theorem hex_eq_ok {n : ℕ} {bytes : Bytes n} (h : hex n s = .ok bytes) :
    byteLen s = n * 2 ∧ (utf8 s).all isHexByte := by
  unfold hex at h
  rw [check_bind_eq_ok, rejectIf_eq_ok] at h
  simpa using h.1

def IsHex (n : ℕ) (s : String) : Prop := ∃ bytes, hex n s = .ok bytes

theorem hexIfSome_eq_ok {id : Option String} {u : Unit} :
    hexIfSome id = .ok u ↔ ∀ i, id = some i → IsHex 16 i := by
  cases id with
  | none => simp [hexIfSome]
  | some i =>
    simp only [hexIfSome, bind_eq_ok, Option.some.injEq, forall_eq', IsHex]
    exact exists_congr fun bytes => and_iff_left rfl

theorem isHexByte_hexDigit {n : ℕ} (h : n < 16) : isHexByte (UInt8.ofNat (hexDigit n).toNat) := by
  have hall : ∀ i : Fin 16, isHexByte (UInt8.ofNat (hexDigit i).toNat) := by decide
  exact hall ⟨n, h⟩

theorem hex_lowerHex {n : ℕ} (bytes : Bytes n) : hex n (lowerHex bytes.val) = .ok bytes := by
  unfold hex
  rw [check_bind_eq_ok, rejectIf_eq_ok, mapError_eq_ok]
  refine ⟨?_, PublicAudit.fixedHex_lowerHex bytes⟩
  rw [PublicAudit.byteLen_lowerHex, PublicAudit.utf8_lowerHex, bytes.property]
  have hdigits : (bytes.val.flatMap fun b =>
      [UInt8.ofNat (hexDigit (b.toNat / 16)).toNat,
        UInt8.ofNat (hexDigit (b.toNat % 16)).toNat]).all isHexByte := by
    rw [List.all_eq_true]
    intro d hd
    obtain ⟨b, -, hd⟩ := List.mem_flatMap.mp hd
    have hb := b.toNat_lt
    rcases List.mem_pair.mp hd with rfl | rfl
    · exact isHexByte_hexDigit (by omega)
    · exact isHexByte_hexDigit (by omega)
  rw [hdigits]
  simp [mul_comm]

/-- Numbers are integers a double holds exactly, and no key is the private one of `serde_json`. -/
def Plain : Json → Prop :=
  Json.fold
    (fun | .int n => -(safeMax : ℤ) ≤ n ∧ n ≤ safeMax
         | .float _ => False
         | _ => True)
    (fun items => ∀ plain ∈ items, plain)
    (fun members => ∀ m ∈ members, m.1 ≠ "$serde_json::private::Number" ∧ m.2)

theorem plain_array {items : List Json} : Plain (.array items) ↔ ∀ v ∈ items, Plain v := by
  rw [Plain, Json.fold_array]
  exact List.forall_mem_map

theorem plain_object {members : List (String × Json)} :
    Plain (.object members) ↔
      ∀ m ∈ members, m.1 ≠ "$serde_json::private::Number" ∧ Plain m.2 := by
  rw [Plain, Json.fold_object]
  exact List.forall_mem_map

theorem safeItems_eq_ok {items : List Json} {depth : ℕ} :
    safeItems items depth = .ok () ↔ ∀ v ∈ items, safe v depth = .ok () := by
  induction items with
  | nil => simp [safeItems]
  | cons v rest ih => rw [safeItems, check_bind_eq_ok, ih, List.forall_mem_cons]

theorem safeMembers_eq_ok {members : List (String × Json)} {depth : ℕ} :
    safeMembers members depth = .ok () ↔ ∀ m ∈ members, safe m.2 depth = .ok () := by
  induction members with
  | nil => simp [safeMembers]
  | cons m rest ih => rw [safeMembers, check_bind_eq_ok, ih, List.forall_mem_cons]

variable {v : Json}

theorem safe_eq_ok {depth : ℕ} :
    safe v depth = .ok () ↔ depth + v.height ≤ 32 ∧ Plain v := by
  induction v using Json.induct generalizing depth with
  | null | bool b | string s | float s =>
    simp [safe, check_bind_eq_ok, rejectIf_eq_ok, Json.height, Plain, Json.fold]
  | int n => simp [safe, check_bind_eq_ok, rejectIf_eq_ok, Json.height, Plain, Json.fold]
  | array items ih =>
    have hitems : safeItems items (depth + 1) = .ok () ↔
        ∀ v ∈ items, depth + 1 + v.height ≤ 32 ∧ Plain v := by
      rw [safeItems_eq_ok]
      exact forall₂_congr fun v hv => ih v hv
    simp only [safe, check_bind_eq_ok, rejectIf_eq_ok, Nat.not_lt]
    rw [hitems, Json.add_height_array_le_iff, plain_array, forall₂_and]
    exact and_assoc.symm
  | object members ih =>
    have hmembers : safeMembers members (depth + 1) = .ok () ↔
        ∀ m ∈ members, depth + 1 + m.2.height ≤ 32 ∧ Plain m.2 := by
      rw [safeMembers_eq_ok]
      exact forall₂_congr fun m hm => ih m hm
    simp only [safe, check_bind_eq_ok, rejectIf_eq_ok, Nat.not_lt]
    rw [hmembers, Json.add_height_object_le_iff, plain_object, forall₂_and, forall₂_and]
    simp only [List.any_eq_true, decide_eq_true_eq, not_exists, not_and]
    constructor
    · rintro ⟨hdepth, hkeys, hheights, hplain⟩
      exact ⟨⟨hdepth, hheights⟩, hkeys, hplain⟩
    · rintro ⟨⟨hdepth, hheights⟩, hkeys, hplain⟩
      exact ⟨hdepth, hkeys, hheights, hplain⟩

/-- A value with a canonical form: shallow enough, plain and not too long. -/
structure Canonical (v : Json) : Prop where
  height : v.height ≤ 32
  plain : Plain v
  size : v.size ≤ maxSize

theorem canonical_eq_ok {b : List UInt8} :
    canonical v = .ok b ↔ Canonical v ∧ v.bytes = b := by
  unfold canonical
  simp only [check_bind_eq_ok, rejectIf_eq_ok, Json.length_bytes, safe_eq_ok, Nat.zero_add,
    Nat.not_lt]
  constructor
  · rintro ⟨⟨hheight, hplain⟩, hsize, hb⟩
    exact ⟨⟨hheight, hplain, hsize⟩, Except.ok.inj hb⟩
  · rintro ⟨⟨hheight, hplain, hsize⟩, rfl⟩
    exact ⟨⟨hheight, hplain⟩, hsize, rfl⟩

/-! ## Digests and signatures -/

section Signatures

variable (crates : Crates) (strict : Strict crates)

def key (s : String) : Result (Bytes 32) := do
  let bytes ← hex 32 s
  rejectIf (strict.isPoint bytes = false) invalid
  rejectIf (strict.isWeak bytes) invalid
  return bytes

def digest (v : Json) : Result String := do
  let b ← canonical v
  return lowerHex (crates.sha256 b).val

def transcript (domain : String) (v : Json) : Result (List UInt8) := do
  let b ← canonical v
  return utf8 domain ++ 0 :: b

/-- `hex::encode(k.verifying_key().to_bytes())` -/
def publicKeyHex (k : Bytes 32) : String := lowerHex (crates.publicKey k).val

def sign (domain : String) (v : Json) (k : Bytes 32) : Result String := do
  let t ← transcript domain v
  return lowerHex (crates.sign k t).val

def verify (domain : String) (v : Json) (s k : String) : Result Unit := do
  let k ← key crates strict k
  let t ← transcript domain v
  let s ← hex 64 s
  rejectIf (strict.verifyStrict k t s = false) invalid

def IsKey (s : String) : Prop := ∃ bytes, key crates strict s = .ok bytes

variable {crates strict}

theorem digest_eq_ok :
    digest crates v = .ok s ↔ Canonical v ∧ lowerHex (crates.sha256 v.bytes).val = s := by
  unfold digest
  rw [bind_eq_ok]
  constructor
  · rintro ⟨b, hb, hs⟩
    obtain ⟨hv, rfl⟩ := canonical_eq_ok.mp hb
    exact ⟨hv, Except.ok.inj hs⟩
  · rintro ⟨hv, rfl⟩
    exact ⟨v.bytes, canonical_eq_ok.mpr ⟨hv, rfl⟩, rfl⟩

variable {domain : String}

theorem transcript_eq_ok {t : List UInt8} :
    transcript domain v = .ok t ↔ Canonical v ∧ utf8 domain ++ 0 :: v.bytes = t := by
  unfold transcript
  rw [bind_eq_ok]
  constructor
  · rintro ⟨b, hb, ht⟩
    obtain ⟨hv, rfl⟩ := canonical_eq_ok.mp hb
    exact ⟨hv, Except.ok.inj ht⟩
  · rintro ⟨hv, rfl⟩
    exact ⟨v.bytes, canonical_eq_ok.mpr ⟨hv, rfl⟩, rfl⟩

theorem sign_eq_ok {k : Bytes 32} :
    sign crates domain v k = .ok s ↔
      Canonical v ∧ lowerHex (crates.sign k (utf8 domain ++ 0 :: v.bytes)).val = s := by
  unfold sign
  rw [bind_eq_ok]
  constructor
  · rintro ⟨t, ht, hs⟩
    obtain ⟨hv, rfl⟩ := transcript_eq_ok.mp ht
    exact ⟨hv, Except.ok.inj hs⟩
  · rintro ⟨hv, rfl⟩
    exact ⟨_, transcript_eq_ok.mpr ⟨hv, rfl⟩, rfl⟩

variable (crates) in
theorem exists_digest (h : Canonical v) : ∃ s, digest crates v = .ok s :=
  ⟨_, digest_eq_ok.mpr ⟨h, rfl⟩⟩

variable (crates) in
theorem exists_sign (h : Canonical v) (domain : String) (k : Bytes 32) :
    ∃ s, sign crates domain v k = .ok s :=
  ⟨_, sign_eq_ok.mpr ⟨h, rfl⟩⟩

theorem key_publicKeyHex {k bytes : Bytes 32} :
    key crates strict (publicKeyHex crates k) = .ok bytes ↔
      strict.isWeak (crates.publicKey k) = false ∧ crates.publicKey k = bytes := by
  unfold key publicKeyHex
  rw [hex_lowerHex]
  simp only [bind, Except.bind, rejectIf, strict.isPoint_publicKey]
  cases hweak : strict.isWeak (crates.publicKey k) <;> simp [pure, Except.pure]

theorem verify_of_sign {k : Bytes 32} (hkey : IsKey crates strict (publicKeyHex crates k))
    (hsign : sign crates domain v k = .ok s) :
    verify crates strict domain v s (publicKeyHex crates k) = .ok () := by
  obtain ⟨hv, rfl⟩ := sign_eq_ok.mp hsign
  obtain ⟨bytes, hkey⟩ := hkey
  obtain ⟨hweak, rfl⟩ := key_publicKeyHex.mp hkey
  unfold verify
  rw [hkey, transcript_eq_ok.mpr ⟨hv, rfl⟩]
  simp only [bind, Except.bind]
  rw [hex_lowerHex]
  have hverifies := strict.verifyStrict_sign k (utf8 domain ++ 0 :: v.bytes) hweak
  simp [rejectIf, hverifies]

theorem isHex_of_digest (h : digest crates v = .ok s) : IsHex 32 s := by
  obtain ⟨-, rfl⟩ := digest_eq_ok.mp h
  exact ⟨_, hex_lowerHex _⟩

theorem isHex_of_sign {k : Bytes 32} (h : sign crates domain v k = .ok s) : IsHex 64 s := by
  obtain ⟨-, rfl⟩ := sign_eq_ok.mp h
  exact ⟨_, hex_lowerHex _⟩

theorem isHex_of_isKey (h : IsKey crates strict s) : IsHex 32 s := by
  obtain ⟨bytes, h⟩ := h
  obtain ⟨bytes', hhex, -⟩ := bind_eq_ok.mp h
  exact ⟨bytes', hhex⟩

theorem isHex_of_verify {s k : String} (h : verify crates strict domain v s k = .ok ()) :
    IsHex 64 s := by
  obtain ⟨_, -, h⟩ := bind_eq_ok.mp h
  obtain ⟨_, -, h⟩ := bind_eq_ok.mp h
  obtain ⟨bytes, hhex, -⟩ := bind_eq_ok.mp h
  exact ⟨bytes, hhex⟩

end Signatures

/-! ## Records -/

structure IssuerPin where
  issuer : String
  keyId : String
  publicKey : String
  service : String

inductive Validity where
  | dated (notBefore notAfter : UInt64)
  | untilRevoked (notBefore : UInt64)
  deriving DecidableEq

namespace Validity

def contains (now : UInt64) : Validity → Bool
  | .dated notBefore notAfter => notBefore ≤ now && now < notAfter && notAfter.toNat ≤ safeMax
  | .untilRevoked notBefore => notBefore ≤ now && now.toNat ≤ safeMax

/-- `end` -/
def stop : Validity → Option UInt64
  | .dated _ notAfter => some notAfter
  | .untilRevoked _ => none

def toJson : Validity → Json
  | .dated notBefore notAfter => .object [
      ("schema", .string "castalia.grant-validity.v1"), ("mode", .string "dated"),
      ("not_before", .int notBefore.toNat), ("not_after", .int notAfter.toNat)]
  | .untilRevoked notBefore => .object [
      ("schema", .string "castalia.grant-validity.v1"), ("mode", .string "until_revoked"),
      ("not_before", .int notBefore.toNat)]

/-- Validity at one time goes on to the end of any window that starts there and ends in time. -/
theorem contains_of_window {v : Validity} {start finish now : UInt64} (hstart : v.contains start)
    (hstop : ∀ e, v.stop = some e → finish ≤ e) (hsafe : finish.toNat ≤ safeMax)
    (hle : start ≤ now) (hlt : now < finish) : v.contains now := by
  rw [UInt64.le_iff_toNat_le] at hle
  rw [UInt64.lt_iff_toNat_lt] at hlt
  cases v with
  | dated notBefore notAfter =>
    have hfinish := UInt64.le_iff_toNat_le.mp (hstop notAfter rfl)
    simp only [contains, Bool.and_eq_true, decide_eq_true_eq, UInt64.le_iff_toNat_le,
      UInt64.lt_iff_toNat_lt] at hstart ⊢
    omega
  | untilRevoked notBefore =>
    simp only [contains, Bool.and_eq_true, decide_eq_true_eq, UInt64.le_iff_toNat_le] at hstart ⊢
    omega

end Validity

structure GrantClaims (P : Type) where
  schema : String
  grantId : String
  revision : String
  issuer : String
  keyId : String
  service : String
  holderPublicKey : String
  installationId : Option String
  validity : Validity
  maxCredentialLifetimeSeconds : UInt64
  onwardDelegation : Bool
  permissions : List P

structure Grant (P : Type) where
  claims : GrantClaims P
  signature : String

structure CredentialClaims (P : Type) where
  schema : String
  credentialId : String
  grantDigest : String
  holderPublicKey : String
  installationId : Option String
  permissions : List P
  issuedAt : UInt64
  expiresAt : UInt64

structure Credential (P : Type) where
  grant : Grant P
  claims : CredentialClaims P
  signature : String

structure Proof where
  schema : String
  credentialDigest : String
  callDigest : String
  nonce : String
  issuedAt : UInt64
  expiresAt : UInt64
  signature : String

/-- `Option<String>` -/
def optionJson : Option String → Json
  | none => .null
  | some s => .string s

section ToJson

variable {P : Type} (permissionJson : P → Json)

def GrantClaims.toJson (c : GrantClaims P) : Json := .object [
  ("schema", .string c.schema), ("grant_id", .string c.grantId), ("revision", .string c.revision),
  ("issuer", .string c.issuer), ("key_id", .string c.keyId), ("service", .string c.service),
  ("holder_public_key", .string c.holderPublicKey),
  ("installation_id", optionJson c.installationId), ("validity", c.validity.toJson),
  ("max_credential_lifetime_seconds", .int c.maxCredentialLifetimeSeconds.toNat),
  ("onward_delegation", .bool c.onwardDelegation),
  ("permissions", .array (c.permissions.map permissionJson))]

def Grant.toJson (g : Grant P) : Json := .object [
  ("claims", g.claims.toJson permissionJson), ("signature", .string g.signature)]

def CredentialClaims.toJson (c : CredentialClaims P) : Json := .object [
  ("schema", .string c.schema), ("credential_id", .string c.credentialId),
  ("grant_digest", .string c.grantDigest), ("holder_public_key", .string c.holderPublicKey),
  ("installation_id", optionJson c.installationId),
  ("permissions", .array (c.permissions.map permissionJson)),
  ("issued_at", .int c.issuedAt.toNat), ("expires_at", .int c.expiresAt.toNat)]

def Credential.toJson (c : Credential P) : Json := .object [
  ("grant", c.grant.toJson permissionJson), ("claims", c.claims.toJson permissionJson),
  ("signature", .string c.signature)]

end ToJson

def proofClaims (p : Proof) : Json := .object [
  ("schema", .string p.schema), ("credential_digest", .string p.credentialDigest),
  ("call_digest", .string p.callDigest), ("nonce", .string p.nonce),
  ("issued_at", .int p.issuedAt.toNat), ("expires_at", .int p.expiresAt.toNat)]

def Proof.toJson (p : Proof) : Json := .object [
  ("schema", .string p.schema), ("credential_digest", .string p.credentialDigest),
  ("call_digest", .string p.callDigest), ("nonce", .string p.nonce),
  ("issued_at", .int p.issuedAt.toNat), ("expires_at", .int p.expiresAt.toNat),
  ("signature", .string p.signature)]

def presentationJson (credential call proof : Json) : Json := .object [
  ("credential", credential), ("call", call), ("proof", proof)]

end GrantContract
