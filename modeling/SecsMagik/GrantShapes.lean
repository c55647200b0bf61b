import SecsMagik.HolderGrants
import Mathlib.Tactic.Ring

/-! # How deep and how long the signed records are

The size and the nesting of a grant, a credential and a presentation in terms of the permissions
they carry.
-/
namespace GrantShapes

open RustStd WireCodec CanonicalJson CanonicalJson.Json GrantContract

/-! ## Nesting -/

variable {depth : ℕ}

theorem safe_string {s : String} : safe (.string s) depth = .ok () ↔ depth ≤ 32 := by
  rw [safe_eq_ok]
  simp [Json.height, Plain, Json.fold]

theorem safe_bool {b : Bool} : safe (.bool b) depth = .ok () ↔ depth ≤ 32 := by
  rw [safe_eq_ok]
  simp [Json.height, Plain, Json.fold]

theorem safe_int {n depth : ℕ} : safe (.int n) depth = .ok () ↔ depth ≤ 32 ∧ n ≤ safeMax := by
  rw [safe_eq_ok]
  simp only [Json.height, Plain, Json.fold, Nat.add_zero]
  omega

theorem safe_optionJson {id : Option String} :
    safe (optionJson id) depth = .ok () ↔ depth ≤ 32 := by
  rw [safe_eq_ok]
  cases id <;> simp [optionJson, Json.height, Plain, Json.fold]

theorem safe_array {items : List Json} :
    safe (.array items) depth = .ok () ↔
      depth ≤ 32 ∧ ∀ v ∈ items, safe v (depth + 1) = .ok () := by
  simp only [safe_eq_ok, add_height_array_le_iff, plain_array, and_assoc, forall₂_and]

theorem safe_object {members : List (String × Json)} :
    safe (.object members) depth = .ok () ↔
      depth ≤ 32 ∧ ∀ m ∈ members,
        m.1 ≠ "$serde_json::private::Number" ∧ safe m.2 (depth + 1) = .ok () := by
  simp only [safe_eq_ok, add_height_object_le_iff, plain_object, and_assoc, forall₂_and]
  constructor
  · rintro ⟨hdepth, hheights, hkeys, hplain⟩
    exact ⟨hdepth, hkeys, hheights, hplain⟩
  · rintro ⟨hdepth, hkeys, hheights, hplain⟩
    exact ⟨hdepth, hheights, hkeys, hplain⟩

theorem safe_mono {v : Json} {depth depth' : ℕ} (h : safe v depth' = .ok ())
    (hle : depth ≤ depth') : safe v depth = .ok () := by
  rw [safe_eq_ok] at h ⊢
  exact ⟨by omega, h.2⟩

theorem safe_depth {v : Json} (h : safe v depth = .ok ()) : depth ≤ 32 := by
  have := (safe_eq_ok.mp h).1
  omega

theorem canonical_iff {v : Json} : Canonical v ↔ safe v 0 = .ok () ∧ v.size ≤ maxSize := by
  rw [safe_eq_ok, Nat.zero_add]
  constructor
  · intro h
    exact ⟨⟨h.height, h.plain⟩, h.size⟩
  · rintro ⟨⟨hheight, hplain⟩, hsize⟩
    exact ⟨hheight, hplain, hsize⟩

section Records

variable {P : Type} {pj : P → Json}

theorem safe_validity {v : Validity} (hdepth : depth + 1 ≤ 32) :
    safe v.toJson depth = .ok () ↔
      match v with
      | .dated notBefore notAfter => notBefore.toNat ≤ safeMax ∧ notAfter.toNat ≤ safeMax
      | .untilRevoked notBefore => notBefore.toNat ≤ safeMax := by
  cases v <;> simp [Validity.toJson, safe_object, safe_string, safe_int, hdepth] <;> omega

theorem safe_grantClaims {c : GrantClaims P} :
    safe (c.toJson pj) depth = .ok () ↔
      safe c.validity.toJson (depth + 1) = .ok () ∧
        c.maxCredentialLifetimeSeconds.toNat ≤ safeMax ∧
        safe (.array (c.permissions.map pj)) (depth + 1) = .ok () := by
  simp [GrantClaims.toJson, safe_object, safe_string, safe_int, safe_bool, safe_optionJson]
  constructor
  · rintro ⟨_, _, hvalidity, ⟨_, hlifetime⟩, _, hpermissions⟩
    exact ⟨hvalidity, hlifetime, hpermissions⟩
  · rintro ⟨hvalidity, hlifetime, hpermissions⟩
    have := safe_depth hvalidity
    exact ⟨by omega, by omega, hvalidity, ⟨by omega, hlifetime⟩, by omega, hpermissions⟩

theorem safe_grant {g : Grant P} :
    safe (g.toJson pj) depth = .ok () ↔ safe (g.claims.toJson pj) (depth + 1) = .ok () := by
  simp [Grant.toJson, safe_object, safe_string]
  constructor
  · rintro ⟨_, hclaims, _⟩
    exact hclaims
  · intro hclaims
    have := safe_depth hclaims
    exact ⟨by omega, hclaims, by omega⟩

theorem safe_credentialClaims {c : CredentialClaims P} :
    safe (c.toJson pj) depth = .ok () ↔
      safe (.array (c.permissions.map pj)) (depth + 1) = .ok () ∧
        c.issuedAt.toNat ≤ safeMax ∧ c.expiresAt.toNat ≤ safeMax := by
  simp [CredentialClaims.toJson, safe_object, safe_string, safe_int, safe_optionJson]
  constructor
  · rintro ⟨_, _, hpermissions, ⟨_, hissued⟩, _, hexpires⟩
    exact ⟨hpermissions, hissued, hexpires⟩
  · rintro ⟨hpermissions, hissued, hexpires⟩
    have := safe_depth hpermissions
    exact ⟨by omega, by omega, hpermissions, ⟨by omega, hissued⟩, by omega, hexpires⟩

theorem safe_credential {c : Credential P} :
    safe (c.toJson pj) depth = .ok () ↔
      safe (c.grant.toJson pj) (depth + 1) = .ok () ∧
        safe (c.claims.toJson pj) (depth + 1) = .ok () := by
  simp [Credential.toJson, safe_object, safe_string]
  constructor
  · rintro ⟨_, hgrant, hclaims, _⟩
    exact ⟨hgrant, hclaims⟩
  · rintro ⟨hgrant, hclaims⟩
    have := safe_depth hgrant
    exact ⟨by omega, hgrant, hclaims, by omega⟩

theorem safe_proofClaims {p : Proof} (hdepth : depth + 1 ≤ 32) :
    safe (proofClaims p) depth = .ok () ↔
      p.issuedAt.toNat ≤ safeMax ∧ p.expiresAt.toNat ≤ safeMax := by
  simp [proofClaims, safe_object, safe_string, safe_int]
  omega

theorem safe_proof {p : Proof} (hdepth : depth + 1 ≤ 32) :
    safe p.toJson depth = .ok () ↔ p.issuedAt.toNat ≤ safeMax ∧ p.expiresAt.toNat ≤ safeMax := by
  simp [Proof.toJson, safe_object, safe_string, safe_int]
  omega

theorem safe_presentation {credential call proof : Json} :
    safe (presentationJson credential call proof) depth = .ok () ↔
      safe credential (depth + 1) = .ok () ∧ safe call (depth + 1) = .ok () ∧
        safe proof (depth + 1) = .ok () := by
  simp [presentationJson, safe_object]
  intro hcredential _ _
  have := safe_depth hcredential
  omega

end Records

/-! ## Size -/

/-- A character that is written in hexadecimal digits only is one of them. -/
theorem isHexByte_of_utf8EncodeChar {c : Char}
    (h : ∀ b ∈ String.utf8EncodeChar c, isHexByte b) :
    c.toNat < 128 ∧ isHexByte (UInt8.ofNat c.toNat) := by
  by_cases hascii : c.val.toNat ≤ 0x7f
  · refine ⟨Nat.lt_succ_of_le hascii, h _ ?_⟩
    rw [String.utf8EncodeChar, if_pos hascii]
    exact List.mem_singleton.mpr rfl
  · -- every longer encoding ends in a continuation byte
    have hlast : UInt8.ofNat (c.val.toNat % 64 + 128) ∈ String.utf8EncodeChar c := by
      rw [String.utf8EncodeChar, if_neg hascii]
      split_ifs <;> simp
    have hall : ∀ n : Fin 64, isHexByte (UInt8.ofNat (n + 128)) = false := by decide
    have hfalse := hall ⟨c.val.toNat % 64, Nat.mod_lt _ (by decide)⟩
    rw [h _ hlast] at hfalse
    cases hfalse

theorem escapeChar_of_isHexByte {c : Char} (hascii : c.toNat < 128)
    (h : isHexByte (UInt8.ofNat c.toNat)) : JsonText.escapeChar c = [c] := by
  have hall : ∀ n : Fin 128, isHexByte (UInt8.ofNat n) →
      JsonText.escapeChar (Char.ofNat n) = [Char.ofNat n] := by decide
  have hc := hall ⟨c.toNat, hascii⟩ h
  rwa [Char.ofNat_toNat] at hc

theorem quotedSize_of_isHex {n : ℕ} {s : String} (h : IsHex n s) : quotedSize s = 2 * n + 2 := by
  obtain ⟨bytes, h⟩ := h
  obtain ⟨hlen, hdigits⟩ := hex_eq_ok h
  rw [utf8_eq] at hdigits
  rw [quotedSize_of_plain, hlen]
  · omega
  · intro c hc
    have hc' : ∀ b ∈ String.utf8EncodeChar c, isHexByte b := by
      intro b hb
      exact List.all_eq_true.mp hdigits b (List.mem_flatMap.mpr ⟨c, hc, hb⟩)
    obtain ⟨hascii, hbyte⟩ := isHexByte_of_utf8EncodeChar hc'
    exact escapeChar_of_isHexByte hascii hbyte

theorem size_optionJson_bounds {id : Option String} (h : ∀ i, id = some i → IsHex 16 i) :
    4 ≤ (optionJson id).size ∧ (optionJson id).size ≤ 34 := by
  cases id with
  | none => simp [optionJson]
  | some i => simp [optionJson, quotedSize_of_isHex (h i rfl)]

theorem size_int_pos (n : UInt64) : 1 ≤ (Json.int n.toNat).size := by
  have hlt := n.toNat_lt
  exact (size_int_bounds (by decide) (show n.toNat < 10 ^ 20 by omega)).1

theorem size_int_le {n : ℕ} (h : n ≤ safeMax) : (Json.int n).size ≤ 16 := by
  unfold safeMax at h
  exact (size_int_bounds (by decide) (show n < 10 ^ 16 by omega)).2

/-- The text is written between quotes as it is. -/
def isPlain (text : String) : Bool :=
  text.toList.all fun c => JsonText.escapeChar c == [c]

theorem quotedSize_of_isPlain {text : String} (h : isPlain text) :
    quotedSize text = byteLen text + 2 :=
  quotedSize_of_plain fun c hc => beq_iff_eq.mp (List.all_eq_true.mp h c hc)

theorem sum_quotedSize {keys : List String} (h : keys.all isPlain) :
    (keys.map (quotedSize · + 2)).sum = (keys.map (byteLen · + 4)).sum := by
  refine congrArg List.sum (List.map_congr_left fun key hkey => ?_)
  rw [quotedSize_of_isPlain (List.all_eq_true.mp h key hkey)]

theorem size_validity_ge (v : Validity) : 77 ≤ v.toJson.size := by
  have hschema : quotedSize "castalia.grant-validity.v1" = 28 := quotedSize_of_isPlain rfl
  cases v with
  | dated notBefore notAfter =>
    have hkeys : (["schema", "mode", "not_before", "not_after"].map (quotedSize · + 2)).sum =
        45 := sum_quotedSize rfl
    have hmode : quotedSize "dated" = 7 := quotedSize_of_isPlain rfl
    have hbefore := size_int_pos notBefore
    have hafter := size_int_pos notAfter
    rw [Validity.toJson, size_object_of_keys hkeys rfl (List.cons_ne_nil _ _)]
    simp only [List.map_cons, List.map_nil, List.sum_cons, List.sum_nil, size_string]
    omega
  | untilRevoked notBefore =>
    have hkeys : (["schema", "mode", "not_before"].map (quotedSize · + 2)).sum = 32 :=
      sum_quotedSize rfl
    have hmode : quotedSize "until_revoked" = 15 := quotedSize_of_isPlain rfl
    have hbefore := size_int_pos notBefore
    rw [Validity.toJson, size_object_of_keys hkeys rfl (List.cons_ne_nil _ _)]
    simp only [List.map_cons, List.map_nil, List.sum_cons, List.sum_nil, size_string]
    omega

section Records

variable {P : Type} {pj : P → Json}

theorem size_grantClaims (c : GrantClaims P) :
    (c.toJson pj).size = 189 + quotedSize c.schema + quotedSize c.grantId + quotedSize c.revision +
      quotedSize c.issuer + quotedSize c.keyId + quotedSize c.service +
      quotedSize c.holderPublicKey + (optionJson c.installationId).size + c.validity.toJson.size +
      (Json.int c.maxCredentialLifetimeSeconds.toNat).size + (Json.bool c.onwardDelegation).size +
      (Json.array (c.permissions.map pj)).size := by
  have hkeys : (["schema", "grant_id", "revision", "issuer", "key_id", "service",
      "holder_public_key", "installation_id", "validity", "max_credential_lifetime_seconds",
      "onward_delegation", "permissions"].map (quotedSize · + 2)).sum = 188 := sum_quotedSize rfl
  rw [GrantClaims.toJson, size_object_of_keys hkeys rfl (List.cons_ne_nil _ _)]
  simp only [List.map_cons, List.map_nil, List.sum_cons, List.sum_nil, size_string]
  ring

theorem size_grant (g : Grant P) :
    (g.toJson pj).size = 24 + (g.claims.toJson pj).size + quotedSize g.signature := by
  have hkeys : (["claims", "signature"].map (quotedSize · + 2)).sum = 23 := sum_quotedSize rfl
  rw [Grant.toJson, size_object_of_keys hkeys rfl (List.cons_ne_nil _ _)]
  simp only [List.map_cons, List.map_nil, List.sum_cons, List.sum_nil, size_string]
  ring

theorem size_credentialClaims (c : CredentialClaims P) :
    (c.toJson pj).size = 126 + quotedSize c.schema + quotedSize c.credentialId +
      quotedSize c.grantDigest + quotedSize c.holderPublicKey + (optionJson c.installationId).size +
      (Json.array (c.permissions.map pj)).size + (Json.int c.issuedAt.toNat).size +
      (Json.int c.expiresAt.toNat).size := by
  have hkeys : (["schema", "credential_id", "grant_digest", "holder_public_key", "installation_id",
      "permissions", "issued_at", "expires_at"].map (quotedSize · + 2)).sum = 125 :=
    sum_quotedSize rfl
  rw [CredentialClaims.toJson, size_object_of_keys hkeys rfl (List.cons_ne_nil _ _)]
  simp only [List.map_cons, List.map_nil, List.sum_cons, List.sum_nil, size_string]
  ring

theorem size_credential (c : Credential P) :
    (c.toJson pj).size = 33 + (c.grant.toJson pj).size + (c.claims.toJson pj).size +
      quotedSize c.signature := by
  have hkeys : (["grant", "claims", "signature"].map (quotedSize · + 2)).sum = 32 :=
    sum_quotedSize rfl
  rw [Credential.toJson, size_object_of_keys hkeys rfl (List.cons_ne_nil _ _)]
  simp only [List.map_cons, List.map_nil, List.sum_cons, List.sum_nil, size_string]
  ring

theorem size_proofClaims (p : Proof) :
    (proofClaims p).size = 83 + quotedSize p.schema + quotedSize p.credentialDigest +
      quotedSize p.callDigest + quotedSize p.nonce + (Json.int p.issuedAt.toNat).size +
      (Json.int p.expiresAt.toNat).size := by
  have hkeys : (["schema", "credential_digest", "call_digest", "nonce", "issued_at",
      "expires_at"].map (quotedSize · + 2)).sum = 82 := sum_quotedSize rfl
  rw [proofClaims, size_object_of_keys hkeys rfl (List.cons_ne_nil _ _)]
  simp only [List.map_cons, List.map_nil, List.sum_cons, List.sum_nil, size_string]
  ring

theorem size_proof (p : Proof) :
    p.toJson.size = 96 + quotedSize p.schema + quotedSize p.credentialDigest +
      quotedSize p.callDigest + quotedSize p.nonce + (Json.int p.issuedAt.toNat).size +
      (Json.int p.expiresAt.toNat).size + quotedSize p.signature := by
  have hkeys : (["schema", "credential_digest", "call_digest", "nonce", "issued_at", "expires_at",
      "signature"].map (quotedSize · + 2)).sum = 95 := sum_quotedSize rfl
  rw [Proof.toJson, size_object_of_keys hkeys rfl (List.cons_ne_nil _ _)]
  simp only [List.map_cons, List.map_nil, List.sum_cons, List.sum_nil, size_string]
  ring

theorem size_presentation (credential call proof : Json) :
    (presentationJson credential call proof).size =
      32 + credential.size + call.size + proof.size := by
  have hkeys : (["credential", "call", "proof"].map (quotedSize · + 2)).sum = 31 :=
    sum_quotedSize rfl
  rw [presentationJson, size_object_of_keys hkeys rfl (List.cons_ne_nil _ _)]
  simp only [List.map_cons, List.map_nil, List.sum_cons, List.sum_nil]
  ring

end Records

end GrantShapes
