import SecsMagik.RustStd

/-! # Functions of external crates

`sha2`, `ed25519_dalek`, `x25519_dalek`, `hkdf`, `chacha20poly1305` and `serde_json` are not part
of the repository. The model takes them as one record of functions with the laws their
documentation states.
-/
namespace ExternalCrates

open RustStd

/-- `serde_json::Value`; objects list their members in key order, without repeated keys. -/
inductive Json where
  | null
  | bool (b : Bool)
  | number (text : String)
  | string (text : String)
  | array (items : List Json)
  | object (members : List (String × Json))

/-- The JSON payload of a node registration, as `serde` decodes it. -/
structure NodeRegistrationRequestV0 where
  schemaVersion : UInt16
  operation : String
  opcode : UInt8
  requestId : String
  audience : String
  resource : String
  nodePublicKeyFingerprint : String
  endpointHash : String
  authoritySourceId : String
  evidenceRef : String
  evidenceTier : String
  descriptorFingerprint : String
  disclosurePolicyId : String
  issuedAt : UInt64
  expiresAt : UInt64
  requestedDisclosure : List String
  deriving DecidableEq

structure Crates where
  /-- `Sha256::digest` -/
  sha256 : List UInt8 → Bytes 32
  /-- `VerifyingKey::from(&SigningKey::from_bytes(secret))` -/
  publicKey : Bytes 32 → Bytes 32
  sign : Bytes 32 → List UInt8 → Bytes 64
  verify : Bytes 32 → List UInt8 → Bytes 64 → Bool
  verify_sign : ∀ secret message, verify (publicKey secret) message (sign secret message)
  /-- `PublicKey::from(&StaticSecret::from(secret))` -/
  x25519PublicKey : Bytes 32 → Bytes 32
  /-- `StaticSecret::from(secret).diffie_hellman(&public)` -/
  diffieHellman : Bytes 32 → Bytes 32 → Bytes 32
  /-- `Hkdf::<Sha256>::new(Some(salt), secret)` expanded to 32 bytes for `info` -/
  hkdf : List UInt8 → Bytes 32 → List UInt8 → Bytes 32
  /-- `ChaCha20Poly1305::decrypt` for key, nonce, ciphertext and associated data -/
  decrypt : Bytes 32 → Bytes 12 → List UInt8 → List UInt8 → Option (List UInt8)
  /-- `serde_json::from_slice::<Value>` -/
  jsonValue : List UInt8 → Option Json
  /-- `serde_json::from_slice::<NodeRegistrationRequestV0>` -/
  registrationRequest : List UInt8 → Option NodeRegistrationRequestV0

/-- What `ed25519_dalek` adds for callers that refuse weak keys. -/
structure Strict (crates : Crates) where
  /-- the bytes `VerifyingKey::from_bytes` takes for a key -/
  isPoint : Bytes 32 → Bool
  isWeak : Bytes 32 → Bool
  verifyStrict : Bytes 32 → List UInt8 → Bytes 64 → Bool
  isPoint_publicKey : ∀ secret, isPoint (crates.publicKey secret)
  verifyStrict_sign : ∀ secret message, isWeak (crates.publicKey secret) = false →
    verifyStrict (crates.publicKey secret) message (crates.sign secret message)

/-- A checksum of 32 bytes, lowest byte first. -/
def checksum (bytes : List UInt8) : Bytes 32 :=
  let sum := bytes.foldl (fun sum b => (257 * sum + b.toNat + 1) % 2 ^ 256) 0
  ⟨(List.range 32).map fun i => UInt8.ofNat (sum / 2 ^ (8 * i)), by simp⟩

/-- Transparent stand-ins on which the model can be run: digests are checksums, a signature spells
its key and the digest of the message, and nothing is encrypted. -/
def Crates.transparent : Crates where
  sha256 := checksum
  publicKey := id
  sign secret message := ⟨secret.val ++ (checksum message).val, by
    rw [List.length_append, secret.property, (checksum message).property]⟩
  verify key message signature :=
    signature.val == key.val ++ (checksum message).val
  verify_sign := fun _ _ => by simp
  x25519PublicKey := id
  diffieHellman _ client := client
  hkdf salt secret info := checksum (salt ++ secret.val ++ info)
  decrypt _ _ ciphertext _ := some ciphertext
  jsonValue _ := none
  registrationRequest _ := none

/-- Every key is a point and none is weak. -/
def Strict.transparent : Strict Crates.transparent where
  isPoint _ := true
  isWeak _ := false
  verifyStrict := Crates.transparent.verify
  isPoint_publicKey := fun _ => rfl
  verifyStrict_sign := fun secret message _ => Crates.transparent.verify_sign secret message

end ExternalCrates
