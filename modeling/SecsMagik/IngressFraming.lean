import SecsMagik.CallerProof
import SecsMagik.Evidence
import SecsMagik.WireCodec

/-! # Ingress frames

A request travels as a bare packet or as a versioned envelope, told apart by the first eight
bytes. Two decoders read it: the one of the core crate, and the receiver's bounded reader, which
hands envelopes to the first and reads bare packets itself.
-/
namespace IngressFraming

open RustStd WireCodec
open ExternalCrates (Crates)
open CallerProof (ZenithPacket)
open Evidence (EvidenceInputs dedupePreservingOrder dedupePreservingOrder_eq_self)

/-- The bytes of `SECSRQ1` and a null. -/
def ingressRequestV1Magic : List UInt8 := [83, 69, 67, 83, 82, 81, 49, 0]

/-- The bytes of `SECSRQ2` and a null. -/
def ingressRequestV2Magic : List UInt8 := [83, 69, 67, 83, 82, 81, 50, 0]

def maxEvidenceInputs : ℕ := 16

def maxEvidenceInputBytes : ℕ := 512

inductive IngressRequestError where
  | frameTooLarge | malformed | tooManyEvidenceInputs | evidenceInputTooLarge
  deriving DecidableEq, Repr

structure IngressRequestV1 where
  packet : ZenithPacket
  evidenceRefs : List String
  publicInputs : List String
  deriving DecidableEq

def IngressRequestV1.new (packet : ZenithPacket) (evidenceRefs publicInputs : List String) :
    IngressRequestV1 :=
  ⟨packet, dedupePreservingOrder evidenceRefs, publicInputs⟩

structure IngressRequestV2 where
  packet : ZenithPacket
  evidenceRefs : List String
  publicInputs : List String
  clientEphemeralPublicKey : Bytes 32
  deriving DecidableEq

def IngressRequestV2.new (packet : ZenithPacket) (evidenceRefs publicInputs : List String)
    (clientEphemeralPublicKey : Bytes 32) : IngressRequestV2 :=
  ⟨packet, dedupePreservingOrder evidenceRefs, publicInputs, clientEphemeralPublicKey⟩

inductive IngressFrame where
  | legacy (packet : ZenithPacket)
  | v1 (request : IngressRequestV1)
  | v2 (request : IngressRequestV2)
  deriving DecidableEq

/-! ## Encoding -/

def validateInputs (inputs : List String) : Except IngressRequestError Unit := do
  rejectIf (maxEvidenceInputs < inputs.length) .tooManyEvidenceInputs
  rejectIf (inputs.any fun input => maxEvidenceInputBytes < byteLen input) .evidenceInputTooLarge

def pushLen (len : ℕ) : List UInt8 := Bincode.leBytes 8 len

def pushStringVec (values : List String) : List UInt8 :=
  pushLen values.length ++ values.flatMap fun value => pushLen (byteLen value) ++ utf8 value

/-- What both envelopes write between the magic and the end of the inputs. -/
def envelopeBytes (packetBytes : List UInt8) (evidenceRefs publicInputs : List String) :
    List UInt8 :=
  pushLen packetBytes.length ++ packetBytes ++ pushStringVec evidenceRefs ++
    pushStringVec publicInputs

def encodeIngressRequestV1 (r : IngressRequestV1) : Except IngressRequestError (List UInt8) := do
  validateInputs r.evidenceRefs
  validateInputs r.publicInputs
  return ingressRequestV1Magic ++
    envelopeBytes r.packet.serialize r.evidenceRefs r.publicInputs

def encodeIngressRequestV2 (r : IngressRequestV2) : Except IngressRequestError (List UInt8) := do
  validateInputs r.evidenceRefs
  validateInputs r.publicInputs
  return ingressRequestV2Magic ++
    envelopeBytes r.packet.serialize r.evidenceRefs r.publicInputs ++
      r.clientEphemeralPublicKey.val

/-! ## The packet reader of `bincode` -/

/-- The fields of a packet with fixed-width integers, as `serde` derives it. -/
def packetReader : Reader Unit ZenithPacket := do
  let sessionId ← fixed () 16
  let nonce ← fixed () 12
  let opcode ← byte ()
  let proof ← counted ()
  let claimTtl ← u64Le ()
  let encryptedPayload ← counted ()
  let mac ← fixed () 16
  return ⟨sessionId, nonce, opcode, proof, claimTtl, encryptedPayload, mac⟩

/-- `bincode::deserialize::<ZenithPacket>`, with the bytes behind the packet that it ignores. -/
def deserialize (bytes : List UInt8) : Option (ZenithPacket × List UInt8) :=
  (packetReader.run bytes).toOption

/-- The same with trailing bytes rejected. The limit on the bytes read is the caller's limit on
the whole input. -/
def deserializeExact (bytes : List UInt8) : Option ZenithPacket :=
  match deserialize bytes with
  | some (packet, []) => some packet
  | _ => none

/-! ## Decoding in the core crate -/

def readLen : Reader IngressRequestError ℕ := uintLe .malformed 8

def readString : Reader IngressRequestError String := do
  let len ← readLen
  if maxEvidenceInputBytes < len then fail .evidenceInputTooLarge
  else do
    let bytes ← take .malformed len
    textOf .malformed bytes

def readStringVec : Reader IngressRequestError (List String) := do
  let count ← readLen
  if maxEvidenceInputs < count then fail .tooManyEvidenceInputs else times readString count

/-- The parts of an envelope; `padding` is what the packet reader left over of the bytes that the
envelope gives to the packet, and no decoder looks at it. -/
structure Envelope where
  packet : ZenithPacket
  padding : List UInt8
  evidenceRefs : List String
  publicInputs : List String
  deriving DecidableEq

def readPacket (packetLen : ℕ) : Reader IngressRequestError (ZenithPacket × List UInt8) := do
  let bytes ← take .malformed packetLen
  lift ((deserialize bytes).elim (.error .malformed) .ok)

/-- The part that the two branches of `decode_ingress_frame` share. The packet starts behind the
magic and its own length, sixteen bytes into the frame. -/
def readEnvelope (maxFrameBytes : UInt64) : Reader IngressRequestError Envelope := do
  let packetLen ← readLen
  if maxFrameBytes.toNat < packetLen ∨ 2 ^ 64 ≤ 16 + packetLen then fail .frameTooLarge
  else do
    let (packet, padding) ← readPacket packetLen
    let evidenceRefs ← readStringVec
    let publicInputs ← readStringVec
    return ⟨packet, padding, evidenceRefs, publicInputs⟩

def readV1 (maxFrameBytes : UInt64) : Reader IngressRequestError IngressFrame := do
  let e ← readEnvelope maxFrameBytes
  return .v1 (.new e.packet e.evidenceRefs e.publicInputs)

def readV2 (maxFrameBytes : UInt64) : Reader IngressRequestError IngressFrame := do
  let e ← readEnvelope maxFrameBytes
  let key ← fixed .malformed 32
  return .v2 (.new e.packet e.evidenceRefs e.publicInputs key)

/-- `if offset != bytes.len()` at the end of an envelope -/
def toEnd (reader : Reader IngressRequestError IngressFrame) (bytes : List UInt8) :
    Except IngressRequestError IngressFrame := do
  let (frame, rest) ← reader.run bytes
  rejectIf (rest ≠ []) .malformed
  return frame

def decodeIngressFrame (bytes : List UInt8) (maxFrameBytes : UInt64) :
    Except IngressRequestError IngressFrame :=
  if maxFrameBytes.toNat < bytes.length then .error .frameTooLarge
  else if ingressRequestV2Magic.isPrefixOf bytes then
    toEnd (readV2 maxFrameBytes) (bytes.drop ingressRequestV2Magic.length)
  else if ingressRequestV1Magic.isPrefixOf bytes = false then
    match deserialize bytes with
    | some (packet, _) => .ok (.legacy packet)
    | none => .error .malformed
  else toEnd (readV1 maxFrameBytes) (bytes.drop ingressRequestV1Magic.length)

/-! ## The receiver's bounded reader -/

inductive IngressReadError where
  | wireFrameTooLarge (limit : UInt64)
  | logicalFrameTooLarge (field : String) (declaredLen : ℕ) (limit : UInt64)
  | malformedPacket
  deriving DecidableEq, Repr

structure DecodedIngressRequest where
  packet : ZenithPacket
  evidenceInputs : EvidenceInputs
  versionedRequest : Bool
  clientEphemeralPublicKey : Option (Bytes 32)
  requestDigest : Bytes 32
  deriving DecidableEq

def readLeU64 (bytes : List UInt8) (offset : ℕ) : Option ℕ :=
  if offset + 8 ≤ bytes.length then some (Bincode.ofLeBytes ((bytes.drop offset).take 8)) else none

def rejectDeclaredLen (field : String) (declaredLen : ℕ) (maxWireBytes : UInt64) :
    Except IngressReadError Unit :=
  rejectIf (maxWireBytes.toNat < declaredLen) (.logicalFrameTooLarge field declaredLen maxWireBytes)

/-- The length of the proof stands behind session, nonce and opcode; the length of the payload
behind the proof and the time to live. -/
def rejectHugeDeclaredVecLengths (wireBytes : List UInt8) (maxWireBytes : UInt64) :
    Except IngressReadError Unit :=
  match readLeU64 wireBytes 29 with
  | none => .ok ()
  | some proofLen => do
    rejectDeclaredLen "proof" proofLen maxWireBytes
    rejectIf (2 ^ 64 ≤ 29 + 8 + proofLen + 8)
      (.logicalFrameTooLarge "proof" proofLen maxWireBytes)
    match readLeU64 wireBytes (29 + 8 + proofLen + 8) with
    | none => .ok ()
    | some payloadLen => rejectDeclaredLen "encrypted_payload" payloadLen maxWireBytes

section Receiver

variable (crates : Crates)

def decodedVersioned (wireBytes : List UInt8) :
    Except IngressRequestError IngressFrame → UInt64 →
      Except IngressReadError (Option DecodedIngressRequest)
  | .ok (.v1 r), _ => .ok (some {
      packet := r.packet
      evidenceInputs := .new r.evidenceRefs r.publicInputs
      versionedRequest := true
      clientEphemeralPublicKey := none
      requestDigest := crates.sha256 wireBytes })
  | .ok (.v2 r), _ => .ok (some {
      packet := r.packet
      evidenceInputs := .new r.evidenceRefs r.publicInputs
      versionedRequest := true
      clientEphemeralPublicKey := some r.clientEphemeralPublicKey
      requestDigest := crates.sha256 wireBytes })
  | .ok (.legacy packet), _ => .ok (some {
      packet := packet
      evidenceInputs := .none
      versionedRequest := false
      clientEphemeralPublicKey := none
      requestDigest := crates.sha256 wireBytes })
  | .error .malformed, _ => .error .malformedPacket
  | .error _, maxWireBytes =>
    .error (.logicalFrameTooLarge "ingress_request" wireBytes.length maxWireBytes)

/-- The reader after the stream has ended: it takes at most one byte more than the limit. -/
def readBoundedIngressRequest (stream : List UInt8) (maxWireBytes : UInt64) :
    Except IngressReadError (Option DecodedIngressRequest) :=
  let wireBytes := stream.take (maxWireBytes.toNat + 1)
  if wireBytes = [] then .ok none
  else if maxWireBytes.toNat < wireBytes.length then .error (.wireFrameTooLarge maxWireBytes)
  else if ingressRequestV1Magic.isPrefixOf wireBytes ∨ ingressRequestV2Magic.isPrefixOf wireBytes
  then decodedVersioned crates wireBytes (decodeIngressFrame wireBytes maxWireBytes) maxWireBytes
  else do
    rejectHugeDeclaredVecLengths wireBytes maxWireBytes
    match deserializeExact wireBytes with
    | none => .error .malformedPacket
    | some packet => .ok (some {
        packet := packet
        evidenceInputs := .none
        versionedRequest := false
        clientEphemeralPublicKey := none
        requestDigest := crates.sha256 wireBytes })

end Receiver

/-! ## What the readers accept -/

/-- A `Vec` holds fewer elements than a `usize` can count. -/
structure Sized (p : ZenithPacket) : Prop where
  proof : p.proof.length < 256 ^ 8
  encryptedPayload : p.encryptedPayload.length < 256 ^ 8

theorem reads_packetReader : Reads packetReader ZenithPacket.serialize Sized := by
  refine Reads.congr
    (Reads.bind ZenithPacket.sessionId (reads_fixed () 16) (fun session _ =>
    Reads.bind ZenithPacket.nonce (reads_fixed () 12) (fun nonce _ =>
    Reads.bind ZenithPacket.opcode (reads_byte ()) (fun opcode _ =>
    Reads.bind ZenithPacket.proof (reads_counted ()) (fun proof _ =>
    Reads.bind ZenithPacket.claimTtl (reads_u64Le ()) (fun ttl _ =>
    Reads.bind ZenithPacket.encryptedPayload (reads_counted ()) (fun payload _ =>
    Reads.bind ZenithPacket.mac (reads_fixed () 16) (fun mac _ =>
    reads_pure (⟨session, nonce, opcode, proof, ttl, payload, mac⟩ : ZenithPacket))
      ?_) ?_) ?_) ?_) ?_) ?_) ?_) (fun p => ?ok) fun p _ => ?layout
  case ok =>
    constructor
    · rintro ⟨-, -, -, hproof, -, hpayload, -⟩
      exact ⟨hproof, hpayload⟩
    · rintro ⟨hproof, hpayload⟩
      exact ⟨trivial, trivial, trivial, hproof, trivial, hpayload, trivial, rfl⟩
  case layout => simp [ZenithPacket.serialize]
  -- the packet returned last carries each field that was read before
  all_goals grind

theorem deserialize_eq_some {bytes : List UInt8} {p : ZenithPacket} {rest : List UInt8} :
    deserialize bytes = some (p, rest) ↔ Sized p ∧ bytes = p.serialize ++ rest := by
  rw [← reads_packetReader bytes p rest, deserialize]
  cases packetReader.run bytes <;> simp [Except.toOption]

theorem deserializeExact_eq_some {bytes : List UInt8} {p : ZenithPacket} :
    deserializeExact bytes = some p ↔ Sized p ∧ bytes = p.serialize := by
  have hexact : deserializeExact bytes = some p ↔ deserialize bytes = some (p, []) := by
    unfold deserializeExact
    split
    · next q h => rw [h]; simp
    · next h =>
      refine iff_of_false nofun fun hp => h p hp
  rw [hexact, deserialize_eq_some, List.append_nil]

/-- The inputs the encoders and the decoders admit. -/
structure InputsFit (inputs : List String) : Prop where
  count : inputs.length ≤ maxEvidenceInputs
  size : ∀ input ∈ inputs, byteLen input ≤ maxEvidenceInputBytes

theorem validateInputs_eq_ok {inputs : List String} :
    validateInputs inputs = .ok () ↔ InputsFit inputs := by
  simp only [validateInputs, bind_eq_ok, rejectIf_eq_ok, List.any_eq_true, decide_eq_true_eq,
    not_exists, not_and, not_lt]
  exact ⟨fun ⟨_, hcount, hsize⟩ => ⟨hcount, hsize⟩, fun h => ⟨(), h.count, h.size⟩⟩

theorem reads_readString : Reads readString (fun value => pushLen (byteLen value) ++ utf8 value)
    (fun value => byteLen value ≤ maxEvidenceInputBytes) := by
  have htext (len : ℕ) : Reads (do
      let bytes ← take IngressRequestError.malformed len
      textOf .malformed bytes) utf8 (fun value => byteLen value = len) :=
    Reads.convert utf8 (reads_take _ len) (fun bytes hbytes => (reads_textOf _ bytes).congr
      (fun value => ⟨fun h => ⟨by rw [byteLen, h, hbytes], h⟩, fun h => h.2⟩) fun _ _ => rfl)
      fun _ h => h
  refine (Reads.bind byteLen (reads_uintLe IngressRequestError.malformed 8)
    (fun len _ => (htext len).guard .evidenceInputTooLarge) fun len value h => h.2).congr
    (fun value => ?_) fun _ _ => rfl
  constructor
  · rintro ⟨-, hfits, -⟩
    exact Nat.not_lt.mp hfits
  · intro hfits
    refine ⟨lt_of_le_of_lt hfits (by decide), Nat.not_lt.mpr hfits, rfl⟩

theorem reads_readStringVec : Reads readStringVec pushStringVec InputsFit := by
  refine (Reads.bind List.length (reads_uintLe IngressRequestError.malformed 8)
    (fun count _ => (reads_readString.times count).guard .tooManyEvidenceInputs)
    fun count values h => h.2.1).congr (fun values => ?_) fun _ _ => rfl
  constructor
  · rintro ⟨-, hcount, -, hsize⟩
    exact ⟨Nat.not_lt.mp hcount, hsize⟩
  · rintro ⟨hcount, hsize⟩
    exact ⟨lt_of_le_of_lt hcount (by decide), Nat.not_lt.mpr hcount, rfl, hsize⟩

theorem reads_readPacket (packetLen : ℕ) :
    Reads (readPacket packetLen) (fun v => v.1.serialize ++ v.2)
      (fun v => Sized v.1 ∧ (v.1.serialize ++ v.2).length = packetLen) := by
  refine Reads.convert (fun v : ZenithPacket × List UInt8 => v.1.serialize ++ v.2)
    (reads_take _ packetLen) (fun bytes hbytes => (reads_lift _).congr (fun v => ?_)
    fun _ _ => rfl) fun v h => h.2
  rw [elim_eq_ok, deserialize_eq_some]
  constructor
  · rintro ⟨hsized, rfl⟩
    exact ⟨⟨hsized, hbytes⟩, rfl⟩
  · rintro ⟨⟨hsized, -⟩, rfl⟩
    exact ⟨hsized, rfl⟩

def Envelope.bytes (e : Envelope) : List UInt8 :=
  envelopeBytes (e.packet.serialize ++ e.padding) e.evidenceRefs e.publicInputs

structure Envelope.Fits (e : Envelope) (maxFrameBytes : UInt64) : Prop where
  sized : Sized e.packet
  packetLen : (e.packet.serialize ++ e.padding).length ≤ maxFrameBytes.toNat
  offset : 16 + (e.packet.serialize ++ e.padding).length < 2 ^ 64
  evidenceRefs : InputsFit e.evidenceRefs
  publicInputs : InputsFit e.publicInputs

theorem reads_readEnvelope (maxFrameBytes : UInt64) :
    Reads (readEnvelope maxFrameBytes) Envelope.bytes (Envelope.Fits · maxFrameBytes) := by
  refine Reads.congr
    (Reads.bind (fun e => (e.packet.serialize ++ e.padding).length)
      (reads_uintLe IngressRequestError.malformed 8) (fun packetLen _ => Reads.guard .frameTooLarge
    (Reads.bind (fun e => (e.packet, e.padding)) (reads_readPacket packetLen) (fun v _ =>
    Reads.bind Envelope.evidenceRefs reads_readStringVec (fun refs _ =>
    Reads.bind Envelope.publicInputs reads_readStringVec (fun inputs _ =>
    reads_pure (⟨v.1, v.2, refs, inputs⟩ : Envelope)) ?_) ?_) ?_)) ?_)
    (fun e => ?ok) fun e _ => ?layout
  case ok =>
    constructor
    · rintro ⟨-, hbound, ⟨hsized, -⟩, hrefs, hinputs, -⟩
      rw [not_or, Nat.not_lt, Nat.not_le] at hbound
      exact ⟨hsized, hbound.1, hbound.2, hrefs, hinputs⟩
    · rintro ⟨hsized, hlen, hoffset, hrefs, hinputs⟩
      refine ⟨by omega, ?_, ⟨hsized, rfl⟩, hrefs, hinputs, rfl⟩
      rw [not_or, Nat.not_lt, Nat.not_le]
      exact ⟨hlen, hoffset⟩
  case layout => simp [Envelope.bytes, envelopeBytes, pushLen]
  all_goals grind

/-! ## The frames a byte string spells -/

/-- What the core decoder makes of a byte string. -/
inductive Spelled (maxFrameBytes : UInt64) : List UInt8 → IngressFrame → Prop
  | legacy {p : ZenithPacket} {rest : List UInt8} (hsized : Sized p)
      (hv1 : ¬ ingressRequestV1Magic <+: p.serialize ++ rest)
      (hv2 : ¬ ingressRequestV2Magic <+: p.serialize ++ rest) :
      Spelled maxFrameBytes (p.serialize ++ rest) (.legacy p)
  | v1 {e : Envelope} (hfits : e.Fits maxFrameBytes) :
      Spelled maxFrameBytes (ingressRequestV1Magic ++ e.bytes)
        (.v1 (.new e.packet e.evidenceRefs e.publicInputs))
  | v2 {e : Envelope} {key : Bytes 32} (hfits : e.Fits maxFrameBytes) :
      Spelled maxFrameBytes (ingressRequestV2Magic ++ (e.bytes ++ key.val))
        (.v2 (.new e.packet e.evidenceRefs e.publicInputs key))

section Decoder

variable {maxFrameBytes : UInt64} {bytes : List UInt8} {frame : IngressFrame}

theorem toEnd_eq_ok {reader : Reader IngressRequestError IngressFrame} :
    toEnd reader bytes = .ok frame ↔ reader.run bytes = .ok (frame, []) := by
  simp only [toEnd, bind_eq_ok, rejectIf_eq_ok, ne_eq, not_not, Prod.exists]
  constructor
  · rintro ⟨frame', rest, hread, -, rfl, hframe⟩
    rw [hread, ← Except.ok.inj hframe]
  · intro hread
    exact ⟨frame, [], hread, (), rfl, rfl⟩

theorem toEnd_readV1 : toEnd (readV1 maxFrameBytes) bytes = .ok frame ↔
    ∃ e : Envelope, e.Fits maxFrameBytes ∧ bytes = e.bytes ∧
      frame = .v1 (.new e.packet e.evidenceRefs e.publicInputs) := by
  rw [toEnd_eq_ok, readV1, run_bind_eq_ok]
  constructor
  · rintro ⟨e, rest, hread, hpure⟩
    obtain ⟨rfl, rfl⟩ := (reads_pure _ _ _ _).mp hpure
    obtain ⟨hfits, hbytes⟩ := (reads_readEnvelope maxFrameBytes _ _ _).mp hread
    exact ⟨e, hfits, by simpa using hbytes, rfl⟩
  · rintro ⟨e, hfits, rfl, rfl⟩
    exact ⟨e, [], (reads_readEnvelope maxFrameBytes _ _ _).mpr ⟨hfits, (List.append_nil _).symm⟩,
      rfl⟩

theorem toEnd_readV2 : toEnd (readV2 maxFrameBytes) bytes = .ok frame ↔
    ∃ (e : Envelope) (key : Bytes 32), e.Fits maxFrameBytes ∧ bytes = e.bytes ++ key.val ∧
      frame = .v2 (.new e.packet e.evidenceRefs e.publicInputs key) := by
  rw [toEnd_eq_ok, readV2, run_bind_eq_ok]
  constructor
  · rintro ⟨e, rest, hread, hrest⟩
    obtain ⟨key, last, hkey, hpure⟩ := run_bind_eq_ok.mp hrest
    obtain ⟨rfl, rfl⟩ := (reads_pure _ _ _ _).mp hpure
    obtain ⟨-, rfl⟩ := (reads_fixed _ 32 _ _ _).mp hkey
    obtain ⟨hfits, hbytes⟩ := (reads_readEnvelope maxFrameBytes _ _ _).mp hread
    exact ⟨e, key, hfits, by simpa using hbytes, rfl⟩
  · rintro ⟨e, key, hfits, rfl, rfl⟩
    refine ⟨e, key.val, (reads_readEnvelope maxFrameBytes _ _ _).mpr ⟨hfits, rfl⟩,
      run_bind_eq_ok.mpr ⟨key, [], (reads_fixed _ 32 _ _ _).mpr ⟨trivial, ?_⟩, rfl⟩⟩
    exact (List.append_nil _).symm

/-- The two magics are of one length and differ, so no frame starts with both. -/
theorem not_prefix_both {rest : List UInt8} :
    ¬ ingressRequestV2Magic <+: ingressRequestV1Magic ++ rest := by
  rintro ⟨tail, h⟩
  exact absurd (List.append_inj h rfl).1 (by decide)

theorem decodeIngressFrame_eq_ok : decodeIngressFrame bytes maxFrameBytes = .ok frame ↔
    bytes.length ≤ maxFrameBytes.toNat ∧ Spelled maxFrameBytes bytes frame := by
  unfold decodeIngressFrame
  by_cases hsize : maxFrameBytes.toNat < bytes.length
  · rw [if_pos hsize]
    exact iff_of_false nofun fun h => absurd h.1 (Nat.not_le.mpr hsize)
  rw [if_neg hsize, and_iff_right (Nat.not_lt.mp hsize)]
  by_cases hv2 : ingressRequestV2Magic.isPrefixOf bytes
  · rw [if_pos hv2, toEnd_readV2]
    obtain ⟨tail, rfl⟩ := List.isPrefixOf_iff_prefix.mp hv2
    rw [List.drop_left]
    constructor
    · rintro ⟨e, key, hfits, rfl, rfl⟩
      exact .v2 hfits
    · generalize hbytes : ingressRequestV2Magic ++ tail = all
      rintro (⟨-, -, hnot⟩ | ⟨-⟩ | ⟨hfits⟩)
      · exact absurd ⟨tail, hbytes⟩ hnot
      · exact absurd ⟨tail, hbytes⟩ not_prefix_both
      · exact ⟨_, _, hfits, List.append_cancel_left hbytes, rfl⟩
  rw [if_neg hv2]
  rw [List.isPrefixOf_iff_prefix] at hv2
  by_cases hv1 : ingressRequestV1Magic.isPrefixOf bytes = false
  · rw [if_pos hv1]
    have hv1 : ¬ ingressRequestV1Magic <+: bytes := by
      rw [← List.isPrefixOf_iff_prefix, hv1]
      exact Bool.false_ne_true
    constructor
    · intro h
      cases hread : deserialize bytes with
      | none => rw [hread] at h; cases h
      | some v =>
        obtain ⟨p, rest⟩ := v
        rw [hread] at h
        obtain ⟨hsized, rfl⟩ := deserialize_eq_some.mp hread
        rw [← Except.ok.inj h]
        exact .legacy hsized hv1 hv2
    · rintro (⟨hsized, -, -⟩ | ⟨-⟩ | ⟨-⟩)
      · rw [deserialize_eq_some.mpr ⟨hsized, rfl⟩]
      · exact absurd (List.prefix_append _ _) hv1
      · exact absurd (List.prefix_append _ _) hv2
  · rw [if_neg hv1, toEnd_readV1]
    rw [Bool.not_eq_false, List.isPrefixOf_iff_prefix] at hv1
    obtain ⟨tail, rfl⟩ := hv1
    rw [List.drop_left]
    constructor
    · rintro ⟨e, hfits, rfl, rfl⟩
      exact .v1 hfits
    · generalize hbytes : ingressRequestV1Magic ++ tail = all
      rintro (⟨-, hnot, -⟩ | ⟨hfits⟩ | ⟨-⟩)
      · exact absurd ⟨tail, hbytes⟩ hnot
      · exact ⟨_, hfits, List.append_cancel_left hbytes, rfl⟩
      · exact absurd (List.prefix_append _ _) (hbytes ▸ hv2)

end Decoder

/-! ## Round trips -/

section RoundTrip

variable {maxFrameBytes : UInt64}

def plainEnvelope (packet : ZenithPacket) (evidenceRefs publicInputs : List String) : Envelope :=
  ⟨packet, [], evidenceRefs, publicInputs⟩

theorem length_serialize (p : ZenithPacket) :
    p.serialize.length = 69 + p.proof.length + p.encryptedPayload.length := by
  have hsession := p.sessionId.property
  have hnonce := p.nonce.property
  have hmac := p.mac.property
  simp only [ZenithPacket.serialize, Bincode.bytes, Bincode.usize, Bincode.u64,
    List.length_append, Bincode.length_leBytes, List.length_singleton]
  omega

theorem sized_of_length_le {p : ZenithPacket} (h : p.serialize.length ≤ maxFrameBytes.toNat) :
    Sized p := by
  have hmax := maxFrameBytes.toNat_lt
  rw [length_serialize] at h
  constructor <;> omega

/-- Within a frame that the limit admits, the lengths of a plain envelope fit. -/
theorem fits_plainEnvelope {packet : ZenithPacket} {evidenceRefs publicInputs : List String}
    (hrefs : InputsFit evidenceRefs) (hinputs : InputsFit publicInputs)
    (hlength : 16 + packet.serialize.length ≤ maxFrameBytes.toNat) :
    (plainEnvelope packet evidenceRefs publicInputs).Fits maxFrameBytes := by
  have hmax := maxFrameBytes.toNat_lt
  have hpacket : (plainEnvelope packet evidenceRefs publicInputs).packet.serialize ++
      (plainEnvelope packet evidenceRefs publicInputs).padding = packet.serialize :=
    List.append_nil _
  refine ⟨sized_of_length_le (le_trans (Nat.le_add_left _ 16) hlength), ?_, ?_, hrefs, hinputs⟩
  · rw [hpacket]; omega
  · rw [hpacket]; omega

theorem length_magic : ingressRequestV1Magic.length = 8 ∧ ingressRequestV2Magic.length = 8 :=
  ⟨rfl, rfl⟩

theorem length_le_plainEnvelope (packet : ZenithPacket) (evidenceRefs publicInputs : List String) :
    8 + packet.serialize.length ≤ (plainEnvelope packet evidenceRefs
      publicInputs).bytes.length := by
  simp only [plainEnvelope, Envelope.bytes, envelopeBytes, pushLen, List.append_nil,
    List.length_append, Bincode.length_leBytes]
  omega

theorem encodeIngressRequestV1_of_fits {r : IngressRequestV1} (hrefs : InputsFit r.evidenceRefs)
    (hinputs : InputsFit r.publicInputs) : encodeIngressRequestV1 r =
      .ok (ingressRequestV1Magic ++
        (plainEnvelope r.packet r.evidenceRefs r.publicInputs).bytes) := by
  rw [encodeIngressRequestV1, validateInputs_eq_ok.mpr hrefs, validateInputs_eq_ok.mpr hinputs]
  simp only [Envelope.bytes, plainEnvelope, List.append_nil]
  rfl

theorem encodeIngressRequestV2_of_fits {r : IngressRequestV2} (hrefs : InputsFit r.evidenceRefs)
    (hinputs : InputsFit r.publicInputs) : encodeIngressRequestV2 r =
      .ok (ingressRequestV2Magic ++
        ((plainEnvelope r.packet r.evidenceRefs r.publicInputs).bytes ++
          r.clientEphemeralPublicKey.val)) := by
  rw [encodeIngressRequestV2, validateInputs_eq_ok.mpr hrefs, validateInputs_eq_ok.mpr hinputs]
  simp only [Envelope.bytes, plainEnvelope, List.append_nil, ← List.append_assoc]
  rfl

theorem prefix_serialize_iff {magic : List UInt8} (hmagic : magic.length = 8) (p : ZenithPacket) :
    magic <+: p.serialize ↔ p.sessionId.val.take 8 = magic := by
  have hsession := p.sessionId.property
  have hsplit : p.serialize.take 8 = p.sessionId.val.take 8 := by
    simp only [ZenithPacket.serialize, List.append_assoc]
    exact List.take_append_of_le_length (by omega)
  rw [List.prefix_iff_eq_take, hmagic, hsplit, eq_comm]

/-- The decoder returns what an encoder was given. A bare packet is read as one unless the first
half of its session id happens to be a magic. -/
theorem ingress_framing_round_trip (maxFrameBytes : UInt64) :
    (∀ r : IngressRequestV1, InputsFit r.evidenceRefs → InputsFit r.publicInputs →
      r.evidenceRefs.Nodup → ∃ bytes, encodeIngressRequestV1 r = .ok bytes ∧
        (bytes.length ≤ maxFrameBytes.toNat →
          decodeIngressFrame bytes maxFrameBytes = .ok (.v1 r))) ∧
    (∀ r : IngressRequestV2, InputsFit r.evidenceRefs → InputsFit r.publicInputs →
      r.evidenceRefs.Nodup → ∃ bytes, encodeIngressRequestV2 r = .ok bytes ∧
        (bytes.length ≤ maxFrameBytes.toNat →
          decodeIngressFrame bytes maxFrameBytes = .ok (.v2 r))) ∧
    ∀ p : ZenithPacket, p.serialize.length ≤ maxFrameBytes.toNat →
      (decodeIngressFrame p.serialize maxFrameBytes = .ok (.legacy p) ↔
        p.sessionId.val.take 8 ≠ ingressRequestV1Magic ∧
          p.sessionId.val.take 8 ≠ ingressRequestV2Magic) := by
  refine ⟨?_, ?_, ?_⟩
  · intro r hrefs hinputs hnodup
    refine ⟨_, encodeIngressRequestV1_of_fits hrefs hinputs, fun hlength => ?_⟩
    have hpacket := length_le_plainEnvelope r.packet r.evidenceRefs r.publicInputs
    have hbytes := hlength
    rw [List.length_append, length_magic.1] at hbytes
    have hfits : (plainEnvelope r.packet r.evidenceRefs r.publicInputs).Fits maxFrameBytes :=
      fits_plainEnvelope hrefs hinputs (by omega)
    have hframe : IngressRequestV1.new r.packet r.evidenceRefs r.publicInputs = r := by
      rw [IngressRequestV1.new, dedupePreservingOrder_eq_self.mpr hnodup]
    have hspelled : Spelled maxFrameBytes _ (.v1 (.new r.packet r.evidenceRefs r.publicInputs)) :=
      .v1 hfits
    rw [hframe] at hspelled
    exact decodeIngressFrame_eq_ok.mpr ⟨hlength, hspelled⟩
  · intro r hrefs hinputs hnodup
    refine ⟨_, encodeIngressRequestV2_of_fits hrefs hinputs, fun hlength => ?_⟩
    have hpacket := length_le_plainEnvelope r.packet r.evidenceRefs r.publicInputs
    have hbytes := hlength
    rw [List.length_append, length_magic.2, List.length_append] at hbytes
    have hfits : (plainEnvelope r.packet r.evidenceRefs r.publicInputs).Fits maxFrameBytes :=
      fits_plainEnvelope hrefs hinputs (by omega)
    have hframe : IngressRequestV2.new r.packet r.evidenceRefs r.publicInputs
        r.clientEphemeralPublicKey = r := by
      rw [IngressRequestV2.new, dedupePreservingOrder_eq_self.mpr hnodup]
    have hspelled : Spelled maxFrameBytes _ (.v2 (.new r.packet r.evidenceRefs r.publicInputs
        r.clientEphemeralPublicKey)) :=
      .v2 hfits
    rw [hframe] at hspelled
    exact decodeIngressFrame_eq_ok.mpr ⟨hlength, hspelled⟩
  · intro p hlength
    rw [decodeIngressFrame_eq_ok, and_iff_right hlength, ne_eq, ne_eq,
      ← prefix_serialize_iff length_magic.1, ← prefix_serialize_iff length_magic.2]
    constructor
    · intro h
      generalize hbytes : p.serialize = bytes at h ⊢
      cases h with
      | legacy _ hv1 hv2 => exact ⟨hv1, hv2⟩
    · rintro ⟨hv1, hv2⟩
      rw [← List.append_nil p.serialize] at hv1 hv2 ⊢
      exact .legacy (sized_of_length_le hlength) hv1 hv2

end RoundTrip

namespace Sample

/-- A packet that lives 24 seconds, with a session id that starts like an envelope of 69 packet
bytes and a proof that spells the rest of such a packet, no references and one input. -/
def disguised : ZenithPacket where
  sessionId := ⟨ingressRequestV1Magic ++ Bincode.leBytes 8 69, rfl⟩
  nonce := .filled 12 0
  opcode := 16
  proof := List.replicate 56 0 ++ Bincode.leBytes 8 1
  claimTtl := 24
  encryptedPayload := []
  mac := .filled 16 0

/-- The packet that is read out of its nonce, opcode and proof. -/
def extracted : ZenithPacket where
  sessionId := ⟨List.replicate 12 0 ++ [16, 64, 0, 0], rfl⟩
  nonce := .filled 12 0
  opcode := 0
  proof := []
  claimTtl := 0
  encryptedPayload := []
  mac := .filled 16 0

theorem bare_packet_read_as_envelope : decodeIngressFrame disguised.serialize 4096 =
    .ok (.v1 ⟨extracted, [], [String.ofList (List.replicate 24 (Char.ofNat 0))]⟩) := by
  decide +kernel

def requestV1 : IngressRequestV1 := ⟨extracted, ["wallet-ref", "credential-ref"], ["origin"]⟩

def requestV2 : IngressRequestV2 := ⟨extracted, ["wallet-ref"], [], .filled 32 9⟩

theorem inputsFit : InputsFit requestV1.evidenceRefs ∧ InputsFit requestV1.publicInputs ∧
    InputsFit requestV2.evidenceRefs ∧ InputsFit requestV2.publicInputs := by
  simp only [← validateInputs_eq_ok]
  decide

theorem sample_requests_round_trip :
    (∃ bytes, encodeIngressRequestV1 requestV1 = .ok bytes ∧
      decodeIngressFrame bytes 4096 = .ok (.v1 requestV1)) ∧
    (∃ bytes, encodeIngressRequestV2 requestV2 = .ok bytes ∧
      decodeIngressFrame bytes 4096 = .ok (.v2 requestV2)) ∧
    decodeIngressFrame extracted.serialize 4096 = .ok (.legacy extracted) := by
  obtain ⟨hv1, hv2, hlegacy⟩ := ingress_framing_round_trip 4096
  refine ⟨?_, ?_, ?_⟩
  · obtain ⟨bytes, hbytes, hdecode⟩ := hv1 requestV1 inputsFit.1 inputsFit.2.1 (by decide)
    refine ⟨bytes, hbytes, hdecode ?_⟩
    have hlength : (encodeIngressRequestV1 requestV1).toOption.map List.length = some 155 := by
      decide +kernel
    rw [hbytes] at hlength
    exact (Option.some.inj hlength).le.trans (by decide)
  · obtain ⟨bytes, hbytes, hdecode⟩ := hv2 requestV2 inputsFit.2.2.1 inputsFit.2.2.2 (by decide)
    refine ⟨bytes, hbytes, hdecode ?_⟩
    have hlength : (encodeIngressRequestV2 requestV2).toOption.map List.length = some 151 := by
      decide +kernel
    rw [hbytes] at hlength
    exact (Option.some.inj hlength).le.trans (by decide)
  · exact (hlegacy extracted (by decide)).mpr (by decide)

end Sample

end IngressFraming
