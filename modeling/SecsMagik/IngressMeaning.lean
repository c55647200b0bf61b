import SecsMagik.IngressFraming

/-! # One meaning per ingress byte string

The receiver's reader and the core decoder agree on a byte string, and the string is what an
encoder writes for the frame they find, unless it has slack: bytes behind a bare packet, bytes
that an envelope gives to its packet and the packet does not use, or a reference listed twice.
-/
namespace IngressFraming

open RustStd WireCodec
open ExternalCrates (Crates)
open CallerProof (ZenithPacket)
open Evidence (EvidenceInputs dedupePreservingOrder dedupePreservingOrder_eq_self
  nodup_dedupePreservingOrder dedupePreservingOrder_sublist)

def encodeFrame : IngressFrame → Except IngressRequestError (List UInt8)
  | .legacy p => .ok p.serialize
  | .v1 r => encodeIngressRequestV1 r
  | .v2 r => encodeIngressRequestV2 r

/-- What the receiver keeps of a frame. -/
def received (crates : Crates) (bytes : List UInt8) : IngressFrame → DecodedIngressRequest
  | .legacy p => ⟨p, .none, false, none, crates.sha256 bytes⟩
  | .v1 r => ⟨r.packet, ⟨r.evidenceRefs, r.publicInputs⟩, true, none, crates.sha256 bytes⟩
  | .v2 r => ⟨r.packet, ⟨r.evidenceRefs, r.publicInputs⟩, true, some r.clientEphemeralPublicKey,
      crates.sha256 bytes⟩

/-- Both reject, or both accept the same frame. -/
def SameVerdict (crates : Crates) (bytes : List UInt8) (maxBytes : UInt64) : Prop :=
  match decodeIngressFrame bytes maxBytes with
  | .error _ => ∃ e, readBoundedIngressRequest crates bytes maxBytes = .error e
  | .ok frame =>
    readBoundedIngressRequest crates bytes maxBytes = .ok (some (received crates bytes frame))

/-- All bytes given to the packet belong to it, and no reference is listed twice. -/
def Envelope.Plain (e : Envelope) : Prop := e.padding = [] ∧ e.evidenceRefs.Nodup

/-- A byte string that says more than the frame read from it. -/
def Slack (maxBytes : UInt64) (bytes : List UInt8) : Prop :=
  (∃ p rest, Sized p ∧ rest ≠ [] ∧ bytes = p.serialize ++ rest ∧
    ¬ ingressRequestV1Magic <+: bytes ∧ ¬ ingressRequestV2Magic <+: bytes) ∨
  ∃ e : Envelope, e.Fits maxBytes ∧ ¬ e.Plain ∧
    (bytes = ingressRequestV1Magic ++ e.bytes ∨
      ∃ key : Bytes 32, bytes = ingressRequestV2Magic ++ (e.bytes ++ key.val))

/-! ## The receiver's own checks -/

section Receiver

variable {crates : Crates} {maxBytes : UInt64} {bytes : List UInt8}

theorem readLeU64_append {front rest : List UInt8} {n : ℕ} (h : n < 256 ^ 8) :
    readLeU64 (front ++ (Bincode.leBytes 8 n ++ rest)) front.length = some n := by
  have hlength : (Bincode.leBytes 8 n).length = 8 := Bincode.length_leBytes 8 n
  have htake : (Bincode.leBytes 8 n ++ rest).take 8 = Bincode.leBytes 8 n := by
    rw [List.take_append_of_le_length hlength.ge, List.take_of_length_le hlength.le]
  rw [readLeU64, if_pos, List.drop_left, htake, Bincode.ofLeBytes_leBytes h]
  rw [List.length_append, List.length_append, hlength]
  omega

/-- The lengths that stand before the two vectors of a packet, as `bincode` comes to read them. -/
def proofLenReader : Reader Unit ℕ := do
  let _ ← fixed () 16
  let _ ← fixed () 12
  let _ ← byte ()
  uintLe () 8

@[inherit_doc proofLenReader] def payloadLenReader : Reader Unit ℕ := do
  let _ ← fixed () 16
  let _ ← fixed () 12
  let _ ← byte ()
  let _ ← counted ()
  let _ ← u64Le ()
  uintLe () 8

section Lengths

variable (session : Bytes 16) (nonce : Bytes 12) (opcode : UInt8) (proof : List UInt8)
  (ttl : UInt64) (rest : List UInt8)

theorem readLeU64_proof {n : ℕ} (h : n < 256 ^ 8) :
    readLeU64 (session.val ++ (nonce.val ++ ([opcode] ++ (Bincode.leBytes 8 n ++ rest)))) 29 =
      some n := by
  have hhead : (session.val ++ nonce.val ++ [opcode]).length = 29 := by
    rw [List.length_append, List.length_append, session.property, nonce.property]
    rfl
  rw [← hhead, ← List.append_assoc, ← List.append_assoc]
  exact readLeU64_append h

theorem readLeU64_payload {n : ℕ} (h : n < 256 ^ 8) :
    readLeU64 (session.val ++ (nonce.val ++ ([opcode] ++ (Bincode.bytes proof ++
      (Bincode.u64 ttl ++ (Bincode.leBytes 8 n ++ rest)))))) (29 + 8 + proof.length + 8) =
      some n := by
  have hbody : (session.val ++ nonce.val ++ [opcode] ++ Bincode.bytes proof ++
      Bincode.u64 ttl).length = 29 + 8 + proof.length + 8 := by
    simp only [List.length_append, session.property, nonce.property, List.length_singleton,
      Bincode.bytes, Bincode.usize, Bincode.u64, Bincode.length_leBytes]
    omega
  rw [← hbody]
  simp only [← List.append_assoc]
  rw [List.append_assoc]
  exact readLeU64_append h

end Lengths

theorem proofLenReader_run {len : ℕ} {rest : List UInt8}
    (h : proofLenReader.run bytes = .ok (len, rest)) : readLeU64 bytes 29 = some len := by
  simp only [proofLenReader, run_bind_eq_ok] at h
  obtain ⟨session, _, hsession, nonce, _, hnonce, opcode, _, hopcode, hlen⟩ := h
  obtain ⟨-, rfl⟩ := (reads_fixed () 16 _ _ _).mp hsession
  obtain ⟨-, rfl⟩ := (reads_fixed () 12 _ _ _).mp hnonce
  obtain ⟨-, rfl⟩ := (reads_byte () _ _ _).mp hopcode
  obtain ⟨hbound, rfl⟩ := (reads_uintLe () 8 _ _ _).mp hlen
  exact readLeU64_proof session nonce opcode rest hbound

/-- The payload's length is read behind a proof of the length that was read before. -/
theorem payloadLenReader_run {len : ℕ} {rest : List UInt8}
    (h : payloadLenReader.run bytes = .ok (len, rest)) : ∃ proofLen,
      readLeU64 bytes 29 = some proofLen ∧
        readLeU64 bytes (29 + 8 + proofLen + 8) = some len := by
  simp only [payloadLenReader, run_bind_eq_ok] at h
  obtain ⟨session, _, hsession, nonce, _, hnonce, opcode, _, hopcode, proof, _, hproof, ttl, _,
    httl, hlen⟩ := h
  obtain ⟨-, rfl⟩ := (reads_fixed () 16 _ _ _).mp hsession
  obtain ⟨-, rfl⟩ := (reads_fixed () 12 _ _ _).mp hnonce
  obtain ⟨-, rfl⟩ := (reads_byte () _ _ _).mp hopcode
  obtain ⟨hsized, rfl⟩ := (reads_counted () _ _ _).mp hproof
  obtain ⟨-, rfl⟩ := (reads_u64Le () _ _ _).mp httl
  obtain ⟨hbound, rfl⟩ := (reads_uintLe () 8 _ _ _).mp hlen
  refine ⟨proof.length, ?_, readLeU64_payload session nonce opcode proof ttl rest hbound⟩
  rw [Bincode.bytes, List.append_assoc]
  exact readLeU64_proof session nonce opcode _ hsized

/-- A whole packet within the limit declares no length beyond it. -/
theorem rejectHuge_serialize {p : ZenithPacket} (h : p.serialize.length ≤ maxBytes.toNat) :
    rejectHugeDeclaredVecLengths p.serialize maxBytes = .ok () := by
  have hmax := maxBytes.toNat_lt
  have hsized := sized_of_length_le h
  rw [length_serialize] at h
  have hbytes : p.serialize = p.sessionId.val ++ (p.nonce.val ++ ([p.opcode] ++
      (Bincode.bytes p.proof ++ (Bincode.u64 p.claimTtl ++
        (Bincode.leBytes 8 p.encryptedPayload.length ++ (p.encryptedPayload ++ p.mac.val)))))) := by
    simp [ZenithPacket.serialize, Bincode.bytes, Bincode.usize]
  have hproof : readLeU64 p.serialize 29 = some p.proof.length := by
    rw [hbytes, Bincode.bytes, List.append_assoc]
    exact readLeU64_proof _ _ _ _ hsized.proof
  have hpayload : readLeU64 p.serialize (29 + 8 + p.proof.length + 8) =
      some p.encryptedPayload.length := by
    rw [hbytes]
    exact readLeU64_payload _ _ _ _ _ _ hsized.encryptedPayload
  simp only [rejectHugeDeclaredVecLengths, hproof, hpayload, rejectDeclaredLen, bind_eq_ok,
    rejectIf_eq_ok]
  exact ⟨(), by omega, (), by omega, by omega⟩

/-- No packet within the limit is refused for a length it declares, no length beyond the limit is
left for `bincode`, and nothing is read behind the end of the input. -/
theorem declared_lengths_checked (maxBytes : UInt64) :
    (∀ p : ZenithPacket, p.serialize.length ≤ maxBytes.toNat →
      rejectHugeDeclaredVecLengths p.serialize maxBytes = .ok ()) ∧
    (∀ bytes, rejectHugeDeclaredVecLengths bytes maxBytes = .ok () →
      (∀ len rest, proofLenReader.run bytes = .ok (len, rest) → len ≤ maxBytes.toNat) ∧
      ∀ len rest, payloadLenReader.run bytes = .ok (len, rest) → len ≤ maxBytes.toNat) ∧
    ∀ bytes offset len, readLeU64 bytes offset = some len → offset + 8 ≤ bytes.length := by
  refine ⟨fun p => rejectHuge_serialize, ?_, ?_⟩
  · intro bytes h
    constructor
    · intro len rest hrun
      simp only [rejectHugeDeclaredVecLengths, proofLenReader_run hrun, rejectDeclaredLen,
        bind_eq_ok, rejectIf_eq_ok] at h
      obtain ⟨_, hlen, -⟩ := h
      exact Nat.not_lt.mp hlen
    · intro len rest hrun
      obtain ⟨proofLen, hproof, hpayload⟩ := payloadLenReader_run hrun
      simp only [rejectHugeDeclaredVecLengths, hproof, hpayload, rejectDeclaredLen, bind_eq_ok,
        rejectIf_eq_ok] at h
      obtain ⟨_, -, _, -, hlen⟩ := h
      exact Nat.not_lt.mp hlen
  · intro bytes offset len h
    by_contra hshort
    rw [readLeU64, if_neg hshort] at h
    cases h

theorem newInputs_dedupe (evidenceRefs publicInputs : List String) :
    EvidenceInputs.new (dedupePreservingOrder evidenceRefs) publicInputs =
      ⟨dedupePreservingOrder evidenceRefs, publicInputs⟩ := by
  rw [EvidenceInputs.new, dedupePreservingOrder_eq_self.mpr (nodup_dedupePreservingOrder _)]

/-- Envelopes are read by the core decoder on both sides. -/
theorem sameVerdict_of_magic (hne : bytes ≠ []) (hsize : bytes.length ≤ maxBytes.toNat)
    (hmagic : ingressRequestV1Magic <+: bytes ∨ ingressRequestV2Magic <+: bytes) :
    SameVerdict crates bytes maxBytes := by
  have htake : bytes.take (maxBytes.toNat + 1) = bytes := List.take_of_length_le (by omega)
  have hread : readBoundedIngressRequest crates bytes maxBytes =
      decodedVersioned crates bytes (decodeIngressFrame bytes maxBytes) maxBytes := by
    rw [readBoundedIngressRequest, htake, if_neg hne, if_neg (Nat.not_lt.mpr hsize), if_pos]
    simpa only [List.isPrefixOf_iff_prefix] using hmagic
  unfold SameVerdict
  cases hdecode : decodeIngressFrame bytes maxBytes with
  | error e => cases e <;> exact ⟨_, by rw [hread, hdecode]; rfl⟩
  | ok frame =>
    obtain ⟨-, hspelled⟩ := decodeIngressFrame_eq_ok.mp hdecode
    rw [hread, hdecode]
    cases hspelled with
    | legacy _ hv1 hv2 => exact absurd hmagic (not_or.mpr ⟨hv1, hv2⟩)
    | v1 _ =>
      simp only [decodedVersioned, received, IngressRequestV1.new, newInputs_dedupe]
    | v2 _ =>
      simp only [decodedVersioned, received, IngressRequestV2.new, newInputs_dedupe]

theorem readBounded_bare (hne : bytes ≠ []) (hsize : bytes.length ≤ maxBytes.toNat)
    (hv1 : ¬ ingressRequestV1Magic <+: bytes) (hv2 : ¬ ingressRequestV2Magic <+: bytes)
    {result : Option DecodedIngressRequest} :
    readBoundedIngressRequest crates bytes maxBytes = .ok result ↔
      ∃ p, bytes = p.serialize ∧ result = some (received crates bytes (.legacy p)) := by
  have htake : bytes.take (maxBytes.toNat + 1) = bytes := List.take_of_length_le (by omega)
  have hmagic : ¬ (ingressRequestV1Magic.isPrefixOf bytes = true ∨
      ingressRequestV2Magic.isPrefixOf bytes = true) := by
    rw [List.isPrefixOf_iff_prefix, List.isPrefixOf_iff_prefix, not_or]
    exact ⟨hv1, hv2⟩
  rw [readBoundedIngressRequest, htake, if_neg hne, if_neg (Nat.not_lt.mpr hsize), if_neg hmagic,
    bind_eq_ok]
  constructor
  · rintro ⟨⟨⟩, -, h⟩
    cases hread : deserializeExact bytes with
    | none => rw [hread] at h; cases h
    | some p =>
      rw [hread] at h
      exact ⟨p, (deserializeExact_eq_some.mp hread).2, (Except.ok.inj h).symm⟩
  · rintro ⟨p, rfl, rfl⟩
    refine ⟨(), rejectHuge_serialize hsize, ?_⟩
    rw [deserializeExact_eq_some.mpr ⟨sized_of_length_le hsize, rfl⟩]
    rfl

end Receiver

/-! ## The encoders -/

section Encoders

variable {maxBytes : UInt64} {e : Envelope}

/-- The bytes of an envelope are those of a plain one only if it is plain. -/
theorem plain_of_bytes_eq {packet : ZenithPacket} {evidenceRefs publicInputs : List String}
    (hfits : e.Fits maxBytes)
    (hplain : (plainEnvelope packet evidenceRefs publicInputs).Fits maxBytes)
    {r s : List UInt8}
    (h : (plainEnvelope packet evidenceRefs publicInputs).bytes ++ r = e.bytes ++ s) :
    e = plainEnvelope packet evidenceRefs publicInputs :=
  ((reads_readEnvelope maxBytes).inj hplain hfits h).1.symm

theorem fits_plain (hfits : e.Fits maxBytes) {evidenceRefs : List String}
    (hrefs : InputsFit evidenceRefs) :
    (plainEnvelope e.packet evidenceRefs e.publicInputs).Fits maxBytes := by
  have hlength : (e.packet.serialize ++ []).length ≤ (e.packet.serialize ++ e.padding).length := by
    simp
  exact ⟨hfits.sized, hlength.trans hfits.packetLen,
    lt_of_le_of_lt (Nat.add_le_add_left hlength 16) hfits.offset, hrefs, hfits.publicInputs⟩

theorem plain_iff {evidenceRefs : List String} (hfits : e.Fits maxBytes)
    (hrefs : InputsFit evidenceRefs) (hdedupe : evidenceRefs = dedupePreservingOrder e.evidenceRefs)
    {r : List UInt8} :
    (plainEnvelope e.packet evidenceRefs e.publicInputs).bytes ++ r = e.bytes ++ r ↔
      e.Plain := by
  constructor
  · intro h
    have hplain := plain_of_bytes_eq hfits (fits_plain hfits hrefs) h
    refine ⟨by rw [hplain]; rfl, dedupePreservingOrder_eq_self.mp ?_⟩
    rw [← hdedupe, hplain]
    rfl
  · rintro ⟨hpadding, hnodup⟩
    rw [hdedupe, dedupePreservingOrder_eq_self.mpr hnodup, Envelope.bytes, Envelope.bytes, hpadding]
    rfl

theorem inputsFit_dedupe {inputs : List String} (h : InputsFit inputs) :
    InputsFit (dedupePreservingOrder inputs) := by
  have hsub := dedupePreservingOrder_sublist inputs
  exact ⟨hsub.length_le.trans h.count, fun input hinput => h.size input (hsub.subset hinput)⟩

theorem encodeFrame_v1_iff (hfits : e.Fits maxBytes) :
    encodeFrame (.v1 (.new e.packet e.evidenceRefs e.publicInputs)) =
      .ok (ingressRequestV1Magic ++ e.bytes) ↔ e.Plain := by
  have hrefs := inputsFit_dedupe hfits.evidenceRefs
  rw [encodeFrame, encodeIngressRequestV1_of_fits hrefs hfits.publicInputs, Except.ok.injEq,
    List.append_cancel_left_eq]
  have hplain := plain_iff hfits hrefs rfl (r := [])
  rw [List.append_nil, List.append_nil] at hplain
  exact hplain

theorem encodeFrame_v2_iff (hfits : e.Fits maxBytes) {key : Bytes 32} :
    encodeFrame (.v2 (.new e.packet e.evidenceRefs e.publicInputs key)) =
      .ok (ingressRequestV2Magic ++ (e.bytes ++ key.val)) ↔ e.Plain := by
  have hrefs := inputsFit_dedupe hfits.evidenceRefs
  rw [encodeFrame, encodeIngressRequestV2_of_fits hrefs hfits.publicInputs, Except.ok.injEq,
    List.append_cancel_left_eq]
  exact plain_iff hfits hrefs rfl

end Encoders

section Verdicts

variable {crates : Crates} {maxBytes : UInt64} {bytes : List UInt8}

theorem encodes_iff_of_magic (hsize : bytes.length ≤ maxBytes.toNat)
    (hmagic : ingressRequestV1Magic <+: bytes ∨ ingressRequestV2Magic <+: bytes) :
    (∀ frame, decodeIngressFrame bytes maxBytes = .ok frame → encodeFrame frame = .ok bytes) ↔
      ¬ Slack maxBytes bytes := by
  constructor
  · rintro hencode (⟨p, rest, -, -, -, hv1, hv2⟩ | ⟨e, hfits, hslack, rfl | ⟨key, rfl⟩⟩)
    · exact absurd hmagic (not_or.mpr ⟨hv1, hv2⟩)
    · exact hslack ((encodeFrame_v1_iff hfits).mp
        (hencode _ (decodeIngressFrame_eq_ok.mpr ⟨hsize, .v1 hfits⟩)))
    · exact hslack ((encodeFrame_v2_iff hfits).mp
        (hencode _ (decodeIngressFrame_eq_ok.mpr ⟨hsize, .v2 hfits⟩)))
  · intro hslack frame hdecode
    obtain ⟨-, hspelled⟩ := decodeIngressFrame_eq_ok.mp hdecode
    cases hspelled with
    | legacy _ hv1 hv2 => exact absurd hmagic (not_or.mpr ⟨hv1, hv2⟩)
    | @v1 e hfits =>
      refine (encodeFrame_v1_iff hfits).mpr (by_contra fun hplain => hslack ?_)
      exact .inr ⟨e, hfits, hplain, .inl rfl⟩
    | @v2 e key hfits =>
      refine (encodeFrame_v2_iff hfits).mpr (by_contra fun hplain => hslack ?_)
      exact .inr ⟨e, hfits, hplain, .inr ⟨key, rfl⟩⟩

/-- Without a magic, slack is what stands behind the packet. -/
theorem slack_iff_of_bare (hv1 : ¬ ingressRequestV1Magic <+: bytes)
    (hv2 : ¬ ingressRequestV2Magic <+: bytes) :
    Slack maxBytes bytes ↔ ∃ p rest, Sized p ∧ rest ≠ [] ∧ bytes = p.serialize ++ rest := by
  constructor
  · rintro (⟨p, rest, hsized, hrest, hbytes, -⟩ | ⟨e, -, -, rfl | ⟨key, rfl⟩⟩)
    · exact ⟨p, rest, hsized, hrest, hbytes⟩
    · exact absurd (List.prefix_append _ _) hv1
    · exact absurd (List.prefix_append _ _) hv2
  · rintro ⟨p, rest, hsized, hrest, hbytes⟩
    exact .inl ⟨p, rest, hsized, hrest, hbytes, hv1, hv2⟩

theorem sameVerdict_of_bare (hne : bytes ≠ []) (hsize : bytes.length ≤ maxBytes.toNat)
    (hv1 : ¬ ingressRequestV1Magic <+: bytes) (hv2 : ¬ ingressRequestV2Magic <+: bytes)
    (hslack : ¬ Slack maxBytes bytes) :
    SameVerdict crates bytes maxBytes ∧
      ∀ frame, decodeIngressFrame bytes maxBytes = .ok frame → encodeFrame frame = .ok bytes := by
  rw [slack_iff_of_bare hv1 hv2] at hslack
  have hread : ∀ frame, decodeIngressFrame bytes maxBytes = .ok frame →
      ∃ p, frame = .legacy p ∧ bytes = p.serialize := by
    intro frame hdecode
    obtain ⟨-, hspelled⟩ := decodeIngressFrame_eq_ok.mp hdecode
    cases hspelled with
    | @legacy p rest hsized _ _ =>
      by_cases hrest : rest = []
      · exact ⟨p, rfl, by rw [hrest, List.append_nil]⟩
      · exact absurd ⟨p, rest, hsized, hrest, rfl⟩ hslack
    | v1 _ => exact absurd (List.prefix_append _ _) hv1
    | v2 _ => exact absurd (List.prefix_append _ _) hv2
  constructor
  · unfold SameVerdict
    cases hdecode : decodeIngressFrame bytes maxBytes with
    | ok frame =>
      obtain ⟨p, rfl, hbytes⟩ := hread frame hdecode
      exact (readBounded_bare hne hsize hv1 hv2).mpr ⟨p, hbytes, rfl⟩
    | error e =>
      cases hreceiver : readBoundedIngressRequest crates bytes maxBytes with
      | error e' => exact ⟨e', rfl⟩
      | ok result =>
        obtain ⟨p, hbytes, -⟩ := (readBounded_bare hne hsize hv1 hv2).mp hreceiver
        have hspelled : Spelled maxBytes (p.serialize ++ []) (.legacy p) := by
          rw [hbytes] at hsize hv1 hv2
          rw [← List.append_nil p.serialize] at hv1 hv2
          exact .legacy (sized_of_length_le hsize) hv1 hv2
        rw [List.append_nil, ← hbytes] at hspelled
        rw [decodeIngressFrame_eq_ok.mpr ⟨hsize, hspelled⟩] at hdecode
        cases hdecode
  · intro frame hdecode
    obtain ⟨p, rfl, hbytes⟩ := hread frame hdecode
    rw [hbytes]
    rfl

end Verdicts

/-- On every byte string within the limit, the receiver and the core decoder agree and the string
is the encoding of what they read, exactly if it has no slack. -/
theorem one_meaning_iff_no_slack (crates : Crates) (maxBytes : UInt64) (bytes : List UInt8)
    (hne : bytes ≠ []) (hsize : bytes.length ≤ maxBytes.toNat) :
    (SameVerdict crates bytes maxBytes ∧
      ∀ frame, decodeIngressFrame bytes maxBytes = .ok frame → encodeFrame frame = .ok bytes) ↔
        ¬ Slack maxBytes bytes := by
  by_cases hmagic : ingressRequestV1Magic <+: bytes ∨ ingressRequestV2Magic <+: bytes
  · rw [and_iff_right (sameVerdict_of_magic hne hsize hmagic)]
    exact encodes_iff_of_magic hsize hmagic
  obtain ⟨hv1, hv2⟩ := not_or.mp hmagic
  refine ⟨fun h hslack => ?_, sameVerdict_of_bare hne hsize hv1 hv2⟩
  obtain ⟨p, rest, hsized, hrest, rfl⟩ := (slack_iff_of_bare hv1 hv2).mp hslack
  have hbytes := h.2 _ (decodeIngressFrame_eq_ok.mpr ⟨hsize, .legacy hsized hv1 hv2⟩)
  exact hrest (List.self_eq_append_right.mp (Except.ok.inj hbytes))

namespace Sample

/-- An envelope with three unused packet bytes and one reference listed twice. -/
def padded : Envelope := ⟨extracted, [1, 2, 3], ["wallet-ref", "wallet-ref"], []⟩

def plain : Envelope := plainEnvelope extracted ["wallet-ref"] []

/-- A bare packet with a byte behind it is refused by one reader and read by the other, and two
envelopes are read as one request. -/
theorem slack_is_read :
    (readBoundedIngressRequest .transparent (extracted.serialize ++ [7]) 4096 =
        .error .malformedPacket ∧
      decodeIngressFrame (extracted.serialize ++ [7]) 4096 = .ok (.legacy extracted)) ∧
    (padded.bytes ≠ plain.bytes ∧
      decodeIngressFrame (ingressRequestV1Magic ++ padded.bytes) 4096 =
        .ok (.v1 ⟨extracted, ["wallet-ref"], []⟩) ∧
      decodeIngressFrame (ingressRequestV1Magic ++ plain.bytes) 4096 =
        .ok (.v1 ⟨extracted, ["wallet-ref"], []⟩)) := by
  decide +kernel

theorem bare_packet_has_no_slack : ¬ Slack 4096 extracted.serialize := by
  have hdecode : decodeIngressFrame extracted.serialize 4096 = .ok (.legacy extracted) := by
    decide
  have hreceiver : readBoundedIngressRequest .transparent extracted.serialize 4096 =
      .ok (some (received .transparent extracted.serialize (.legacy extracted))) := by
    decide +kernel
  refine (one_meaning_iff_no_slack .transparent 4096 extracted.serialize (by decide)
    (by decide)).mp ⟨?_, fun frame hframe => ?_⟩
  · unfold SameVerdict
    rw [hdecode]
    exact hreceiver
  · rw [hdecode] at hframe
    rw [← Except.ok.inj hframe]
    rfl

end Sample

end IngressFraming
