import SecsMagik.VerifierKeys

/-! # Caller proof of origin

The packet as it travels, the canonical bytes a caller signs, and the receiver-held registry the
proof is checked against. The packet names a key; it never supplies one.
-/
namespace CallerProof

open RustStd
open ExternalCrates (Crates)
open CallContext
open VerifierKeys (VerificationKeyStatus)

structure ZenithPacket where
  sessionId : Bytes 16
  nonce : Bytes 12
  opcode : UInt8
  proof : List UInt8
  claimTtl : UInt64
  encryptedPayload : List UInt8
  mac : Bytes 16
  deriving DecidableEq

/-- `bincode::serialize(&packet)` -/
def ZenithPacket.serialize (p : ZenithPacket) : List UInt8 :=
  p.sessionId.val ++ p.nonce.val ++ [p.opcode] ++ Bincode.bytes p.proof ++
    Bincode.u64 p.claimTtl ++ Bincode.bytes p.encryptedPayload ++ p.mac.val

/-- `u64::to_be_bytes` -/
def u64Be (n : UInt64) : List UInt8 := (Bincode.leBytes 8 n.toNat).reverse

/-! ## The envelope in the packet's proof field -/

def callerProofVersion : String := "secs-caller-proof-v1"

def maxCallerKeyIdLen : ℕ := 256

def appendField (name : String) (value : List UInt8) : List UInt8 :=
  utf8 name ++ utf8 ":" ++ utf8 (decimal value.length) ++ utf8 ":" ++ value ++ utf8 "\n"

def callerCanonicalBytes (sessionId : Bytes 16) (nonce : Bytes 12) (opcode : UInt8)
    (claimTtl : UInt64) (encryptedPayload : List UInt8) : List UInt8 :=
  utf8 callerProofVersion ++ utf8 "\n" ++ appendField "session_id" sessionId.val ++
    appendField "nonce" nonce.val ++ appendField "opcode" [opcode] ++
    appendField "claim_ttl" (u64Be claimTtl) ++ appendField "encrypted_payload" encryptedPayload

structure CallerProofParts where
  keyId : String
  signature : Bytes 64
  deriving DecidableEq

def encodeCallerProof (keyId : String) (signature : Bytes 64) : List UInt8 :=
  utf8 callerProofVersion ++ utf8 "\n" ++ (Bincode.leBytes 2 (byteLen keyId)).reverse ++
    utf8 keyId ++ signature.val

/-- `<[u8]>::strip_prefix` -/
def stripBytes (head bytes : List UInt8) : Option (List UInt8) :=
  if head.isPrefixOf bytes then some (bytes.drop head.length) else none

/-- What follows the version line. -/
def decodeParts : List UInt8 → Option CallerProofParts
  | hi :: lo :: rest =>
    let keyIdLen := hi.toNat * 256 + lo.toNat
    if keyIdLen = 0 ∨ maxCallerKeyIdLen < keyIdLen then none
    else if rest.length ≠ keyIdLen + 64 then none
    else do
      let keyId ← fromUtf8 (rest.take keyIdLen)
      let signature ← Bytes.ofSlice? 64 (rest.drop keyIdLen)
      return ⟨keyId, signature⟩
  | _ => none

def decodeCallerProof (proof : List UInt8) : Option CallerProofParts := do
  let rest ← stripBytes (utf8 callerProofVersion) proof
  let rest ← stripBytes (utf8 "\n") rest
  decodeParts rest

/-! ## The receiver's registry -/

structure CallerKey where
  keyId : String
  subjectId : String
  algorithm : String
  publicKey : Bytes 32
  status : VerificationKeyStatus
  notBefore : Option UInt64
  notAfter : Option UInt64
  revokedAt : Option UInt64
  deriving DecidableEq

namespace CallerKey

def active (keyId subjectId : String) (publicKey : Bytes 32) : CallerKey where
  keyId := keyId
  subjectId := subjectId
  algorithm := "ed25519"
  publicKey := publicKey
  status := .active
  notBefore := none
  notAfter := none
  revokedAt := none

def ensureActiveAt (key : CallerKey) (now : UInt64) : Except VerificationError Unit :=
  match key.status with
  | .revoked => .error .revokedCallerKey
  | .expired => .error .expiredCallerKey
  | .unknown => .error .unknownCallerKey
  | .notYetValid => .error .notYetValidCallerKey
  | .active =>
    if key.notBefore.any (now < ·) then .error .notYetValidCallerKey
    else if key.notAfter.any (· < now) then .error .expiredCallerKey
    else if key.revokedAt.any (· ≤ now) then .error .revokedCallerKey
    else .ok ()

end CallerKey

structure AuthenticatedCaller where
  subjectId : String
  keyId : String
  deriving DecidableEq

structure CallerKeyRegistry where
  keys : String → Option CallerKey
  duplicateKeyIds : String → Bool

namespace CallerKeyRegistry

def insert (registry : CallerKeyRegistry) (key : CallerKey) : CallerKeyRegistry where
  keys id := if id = key.keyId then some key else registry.keys id
  duplicateKeyIds id :=
    registry.duplicateKeyIds id || (id == key.keyId && (registry.keys id).isSome)

def fromKeys (keys : List CallerKey) : CallerKeyRegistry :=
  keys.foldl insert ⟨fun _ => none, fun _ => false⟩

def get (registry : CallerKeyRegistry) (keyId : String) : Option CallerKey :=
  if registry.duplicateKeyIds keyId then none else registry.keys keyId

end CallerKeyRegistry

def verifyCallerProof (crates : Crates) (packet : ZenithPacket) (registry : CallerKeyRegistry)
    (now : UInt64) : Except VerificationError AuthenticatedCaller := do
  if isClockReadFailure now then .error .expiredClaim
  let parts ← (decodeCallerProof packet.proof).elim (.error .badCallerProof) .ok
  let key ← (registry.get parts.keyId).elim (.error .unknownCallerKey) .ok
  key.ensureActiveAt now
  let canonical := callerCanonicalBytes packet.sessionId packet.nonce packet.opcode
    packet.claimTtl packet.encryptedPayload
  if crates.verify key.publicKey canonical parts.signature = false then .error .badCallerProof
  else .ok ⟨key.subjectId, key.keyId⟩

end CallerProof
