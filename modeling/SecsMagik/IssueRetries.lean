import SecsMagik.DevgraphAuthority

/-! # Retries of an issuance

Calls of the producer interleave statement by statement. While a reservation lasts, every call under
its session and nonce that returns after it returns the same projection, as a retry.
-/
namespace IssueRetries

open RustStd
open ExternalCrates (Crates Strict)
open CallContext (clockReadFailureSentinel isClockReadFailure)
open AtomicPrograms VerifierKeys Base64Url AuthorityLedger DevgraphAuthority

/-! ## What a row says of its binding -/

theorem eq_of_tryI64 {x y : UInt64} {n : ℤ} (hx : tryI64 x = some n) (hy : tryI64 y = some n) :
    x = y := by
  rw [← asU64_of_tryI64 hx, asU64_of_tryI64 hy]

theorem tryI64_eq_some {x : UInt64} {n : ℤ} (h : tryI64 x = some n) : n = x.toNat := by
  rw [tryI64] at h
  split_ifs at h
  exact (Option.some.inj h).symm

theorem row_eq_some {binding : DevgraphAuthorityReplayBindingV1} {now : UInt64} {row : Reservation}
    (h : binding.row now = some row) :
    row.key = ⟨binding.sessionId, binding.operation, binding.nonce⟩ ∧
      row.bound.expiresAt = binding.expiresAt.toNat := by
  simp only [DevgraphAuthorityReplayBindingV1.row, Option.bind_eq_bind, Option.bind_eq_some_iff,
    Option.pure_def, Option.some.injEq] at h
  obtain ⟨_, -, expiresAt, hexpires, _, -, _, -, rfl⟩ := h
  exact ⟨rfl, tryI64_eq_some hexpires⟩

theorem binding_eq_of_rows {b b' : DevgraphAuthorityReplayBindingV1} {now now' : UInt64}
    {row row' : Reservation} (h : b.row now = some row) (h' : b'.row now' = some row')
    (hkey : row.key = row'.key) (hbound : row.bound = row'.bound) : b = b' := by
  simp only [DevgraphAuthorityReplayBindingV1.row, Option.bind_eq_bind, Option.bind_eq_some_iff,
    Option.pure_def, Option.some.injEq] at h h'
  obtain ⟨_, -, _, hexpires, _, hissued, _, hversion, rfl⟩ := h
  obtain ⟨_, -, _, hexpires', _, hissued', _, hversion', rfl⟩ := h'
  simp only [ScopeKey.mk.injEq, BoundColumns.mk.injEq] at hkey hbound
  obtain ⟨hsession, hoperation, hnonce⟩ := hkey
  obtain ⟨rfl, hscope, hactor, haudience, hresource, hrequest, hidempotency, hpolicy, rfl, hdigest,
    hpresentation, hcontext, hsigner, rfl⟩ := hbound
  have hexpires := eq_of_tryI64 hexpires hexpires'
  have hissued := eq_of_tryI64 hissued hissued'
  have hversion := eq_of_tryI64 hversion hversion'
  cases b
  cases b'
  simp_all

/-! ## What a call that returns a projection has done -/

section Calls

variable {crates : Crates} {strict : Strict crates} {decoders : Decoders}

theorem timed_issueNow (call : Issuance) : Timed (issueNow strict decoders call) := by
  refine ⟨_, rfl, ?_⟩
  intro now
  rw [issueDevgraphIssueCreateAuthorityV1]
  split
  · trivial
  · apply (reserve_only _ now).bind
    intro outcome
    cases outcome with
    | none => trivial
    | some outcome => cases outcome <;> trivial

/-- What stands behind a projection that was returned. -/
structure Issued (crates : Crates) (call : Issuance) (outcome : DevgraphAuthorityIssueOutcomeV1)
    (binding : DevgraphAuthorityReplayBindingV1) (row : Reservation) (last : Step) : Prop where
  signed : Signed crates call.verifierIdentity outcome.projection binding
  bound : ∃ now, binding.row now = some row
  settled : Settled row (if outcome.isExactRetry then .exactDuplicate else .reserved) last

theorem issued_of_follows {call : Issuance} {es : List Step}
    {outcome : DevgraphAuthorityIssueOutcomeV1}
    (h : machine.Follows (issueNow strict decoders call) es (.done (.ok outcome))) :
    ∃ binding row front last, es = front ++ [last] ∧
      Issued crates call outcome binding row last := by
  obtain ⟨now, es₁, es₂, rfl, -, h⟩ := h.bind_done
  rw [issueDevgraphIssueCreateAuthorityV1] at h
  split at h
  · cases h.done_inv.2
  · next projection binding hprepare =>
      obtain ⟨hsigned, -⟩ := signed_of_prepare hprepare
      obtain ⟨reservation, es₃, es₄, rfl, hreserve, h⟩ := h.bind_done
      have hends : ∀ {reservation}, machine.Follows (reserveDevgraphAuthorityReplay binding now) es₃
          (.done (some reservation)) → reservation ≠ .scopeConflict →
            ∃ row front last, binding.row now = some row ∧ es₁ ++ es₃ = front ++ [last] ∧
              Settled row reservation last := by
        intro reservation hreserve hconflict
        obtain ⟨row, front, last, hrow, rfl, hsettled⟩ := settled_of_reserve hreserve hconflict
        exact ⟨row, es₁ ++ front, last, hrow, by rw [List.append_assoc], hsettled⟩
      rcases reservation with _ | _ | _ | _
      · cases h.done_inv.2
      · obtain ⟨rfl, hdone⟩ := h.done_inv
        cases hdone
        obtain ⟨row, front, last, hrow, hes, hsettled⟩ := hends hreserve (by decide)
        rw [List.append_nil]
        exact ⟨binding, row, front, last, hes, hsigned, ⟨now, hrow⟩, hsettled⟩
      · obtain ⟨rfl, hdone⟩ := h.done_inv
        cases hdone
        obtain ⟨row, front, last, hrow, hes, hsettled⟩ := hends hreserve (by decide)
        rw [List.append_nil]
        exact ⟨binding, row, front, last, hes, hsigned, ⟨now, hrow⟩, hsettled⟩
      · cases h.done_inv.2

theorem encode_injective {n : ℕ} {a b : Bytes n}
    (h : encodeBase64url a.val = encodeBase64url b.val) : a = b := by
  have ha := decode_of_encode a
  rw [h, decode_of_encode b] at ha
  exact (Option.some.inj ha).symm

/-- Projections that agree in session, operation and nonce are reserved under one key. -/
theorem key_eq_of_projections {call call' : Issuance} {p q : DevgraphAuthorityIssueOutcomeV1}
    {b b' : DevgraphAuthorityReplayBindingV1} {row row' : Reservation} {last last' : Step}
    (h : Issued crates call p b row last) (h' : Issued crates call' q b' row' last')
    (hsession : q.projection.sessionId = p.projection.sessionId)
    (hoperation : q.projection.operation = p.projection.operation)
    (hnonce : q.projection.nonce = p.projection.nonce) : row.key = row'.key := by
  obtain ⟨_, hrow⟩ := h.bound
  obtain ⟨_, hrow'⟩ := h'.bound
  obtain ⟨_, -, hp⟩ := h.signed.signed
  obtain ⟨_, -, hq⟩ := h'.signed.signed
  rw [hp, hq] at hsession hoperation hnonce
  have hsession : b'.sessionId = b.sessionId := encode_injective hsession
  have hoperation : b'.operation = b.operation := hoperation
  have hnonce : b'.nonce = b.nonce := encode_injective hnonce
  rw [(row_eq_some hrow).1, (row_eq_some hrow').1, hsession, hoperation, hnonce]

end Calls

/-! ## Runs -/

section Runs

variable {crates : Crates} {strict : Strict crates} {decoders : Decoders} {T : Type} [DecidableEq T]
  {calls : T → Issuance} {w : Tables} {prior between : List (T × Env)} {t u : T} {env : Env}
  {p q : DevgraphAuthorityIssueOutcomeV1}

def after (strict : Strict crates) (decoders : Decoders) (calls : T → Issuance) (w : Tables)
    (schedule : List (T × Env)) :
    Pool Cmd.Reply Tables Env T (Result DevgraphAuthorityIssueOutcomeV1) :=
  Pool.run machine (fun t => issueNow strict decoders (calls t)) w schedule

/-- A call that is open before a turn of its own makes a statement in it. -/
theorem last_turn {schedule : List (T × Env)}
    (hopen : ∀ r, (after strict decoders calls w schedule).threads u ≠ .done r) :
    ∃ e : Step, e.env = env ∧ (after strict decoders calls w (schedule ++ [(u, env)])).log =
      (after strict decoders calls w schedule).log ++ [(u, e)] := by
  cases hthread : (after strict decoders calls w schedule).threads u with
  | done r => exact absurd hthread (hopen r)
  | step cmd k =>
    refine ⟨⟨env, (after strict decoders calls w schedule).world, cmd⟩, rfl, ?_⟩
    have hstep : Pool.step machine (after strict decoders calls w schedule) (u, env) = _ :=
      Pool.step_of_step hthread
    rw [after, Pool.run_append, List.foldl_cons, List.foldl_nil]
    exact congrArg Pool.log hstep

theorem eventsOf_snoc (log : List (T × Step)) (e : Step) :
    Pool.eventsOf u (log ++ [(u, e)]) = Pool.eventsOf u log ++ [e] := by
  simp [Pool.eventsOf]

theorem issued_in_log {schedule : List (T × Env)} {outcome : DevgraphAuthorityIssueOutcomeV1}
    (h : (after strict decoders calls w schedule).threads t = .done (.ok outcome)) :
    ∃ binding row front last, Pool.eventsOf t (after strict decoders calls w schedule).log =
      front ++ [last] ∧ Issued crates (calls t) outcome binding row last := by
  have hfollows := Pool.run_follows (M := machine) (fun t => issueNow strict decoders (calls t)) w
    schedule t
  rw [← after, h] at hfollows
  exact issued_of_follows hfollows

/-- A projection that was returned is the only one for its session, operation and nonce until it
expires: every call that returns after it, at an earlier time than its expiry, returns the same
projection as a retry. Calls under one key id have one signing key. -/
theorem issuance_single_valued
    (hclock : ClockOrdered (prior ++ between ++ [(u, env)]))
    (hkeys : ∀ s s', (calls s).verifierIdentity.signerKeyId =
      (calls s').verifierIdentity.signerKeyId →
        (calls s).verifierIdentity.signingKey = (calls s').verifierIdentity.signingKey)
    (hp : (after strict decoders calls w prior).threads t = .done (.ok p))
    (hopen : ∀ r, (after strict decoders calls w (prior ++ between)).threads u ≠ .done r)
    (hq : (after strict decoders calls w (prior ++ between ++ [(u, env)])).threads u =
      .done (.ok q))
    (hsession : q.projection.sessionId = p.projection.sessionId)
    (hoperation : q.projection.operation = p.projection.operation)
    (hnonce : q.projection.nonce = p.projection.nonce)
    (htime : env.clock < p.projection.expiresAt) :
    q.projection = p.projection ∧ q.isExactRetry = true := by
  obtain ⟨b, row, front, last, hevents, hissued⟩ := issued_in_log hp
  obtain ⟨b', row', front', last', hevents', hissued'⟩ := issued_in_log hq
  obtain ⟨e, henv, hlog⟩ := last_turn (w := w) hopen
  -- the second call ends with the last statement of the run
  have hlast : last' = e := by
    rw [hlog, eventsOf_snoc] at hevents'
    exact (List.append_singleton_inj.mp hevents').2.symm
  subst hlast
  -- the first one's last statement stands before it in the log
  obtain ⟨more, hmore, -⟩ := Pool.steps_chained (M := machine)
    (after strict decoders calls w prior) between
  have hmem : (t, last) ∈ (after strict decoders calls w prior).log := by
    rw [← Pool.mem_eventsOf, hevents]
    exact List.mem_append_right _ List.mem_cons_self
  obtain ⟨before, rest, hbefore⟩ := List.append_of_mem hmem
  have hfull : (after strict decoders calls w (prior ++ between ++ [(u, env)])).log =
      before ++ (t, last) :: ((rest ++ more) ++ (u, last') :: []) := by
    rw [hlog]
    nth_rewrite 1 [after]
    rw [Pool.run_append, ← after, hmore, hbefore]
    simp
  -- so the row the first call left is still there
  obtain ⟨found, hfound, hfoundKey, hfoundBound⟩ := hissued.settled.held
  obtain ⟨_, hrow⟩ := hissued.bound
  obtain ⟨_, hrow'⟩ := hissued'.bound
  have hexpiry : found.bound.expiresAt = p.projection.expiresAt.toNat := by
    obtain ⟨_, -, hprojection⟩ := hissued.signed.signed
    rw [hfoundBound, (row_eq_some hrow).2, hprojection]
    rfl
  have hkept : found ∈ last'.before.reservations.rows := by
    apply lasts (row_kept found) (fun s => timed_issueNow (calls s)) hclock hfull hfound
    · rw [henv]
      -- the sentinel is the last time of all, so nothing expires after it
      intro hsentinel
      rw [hsentinel] at htime
      exact absurd (p.projection.expiresAt.toNat_lt) (not_lt.mpr (UInt64.lt_iff_toNat_lt.mp htime))
    · rw [hexpiry, henv]
      exact Int.ofNat_lt.mpr (UInt64.lt_iff_toNat_lt.mp htime)
  have hkey := key_eq_of_projections hissued hissued' hsession hoperation hnonce
  obtain ⟨hretry, hbound⟩ := hissued'.settled.agrees hkept (hfoundKey.trans hkey)
  have hbinding : b = b' := binding_eq_of_rows hrow hrow' hkey (hfoundBound.symm.trans hbound.symm)
  subst hbinding
  refine ⟨hissued.signed.eq hissued'.signed (hkeys t u ?_), ?_⟩
  · rw [← hissued.signed.signer, hissued'.signed.signer]
  · by_contra hfresh
    rw [if_neg hfresh] at hretry
    exact hretry rfl

end Runs

/-! ## A presentation handed in twice -/

namespace Sample

def crates : Crates := { Crates.transparent with
  sha256 := fun _ => Bytes.filled 32 0
  sign := fun secret _ => ⟨secret.val ++ secret.val, by rw [List.length_append, secret.property]⟩
  verify := fun _ _ _ => true
  verify_sign := fun _ _ => rfl }

def strict : Strict crates where
  isPoint _ := true
  isWeak _ := false
  verifyStrict _ _ _ := true
  isPoint_publicKey := fun _ => rfl
  verifyStrict_sign := fun _ _ _ => rfl

def digest : String := lowerHex (Bytes.filled 32 0).val

def request : DevgraphIssueCreateRequestV1 := ⟨[], "", [], "a", "Issue", 0, "t"⟩

def presentation : DevgraphIssueCreateWalletPresentationV1 where
  actorPublicKey := encodeBase64url (Bytes.filled 32 7).val
  actorSignatureSuite := "Ed25519"
  audience := "devgraph"
  expiresAt := 50
  idempotencyKeyDigestSha256 := digest
  issuedAt := 5
  nonce := encodeBase64url (Bytes.filled 12 3).val
  operation := issueCreateOperationV1
  requestDigestSha256 := digest
  resource := "Issue/a"
  schema := walletPresentationSchemaV1
  schemaVersion := 1
  sessionId := encodeBase64url (Bytes.filled 16 4).val
  signature := encodeBase64url (Bytes.filled 64 5).val

def rule : DevgraphIssueCreatePolicyRuleV1 :=
  ⟨"pubkey:sha256:" ++ digest, .allow, 1000, 0, "Issue/a", .exactly, .active⟩

def policy : DevgraphIssueCreatePolicyV1 where
  audience := "devgraph"
  operation := issueCreateOperationV1
  policyId := "p"
  policyVersion := 1
  rules := [rule]
  schema := issueCreatePolicySchemaV1

/-- Identities that differ in their key, each with a registry of its own. -/
def call (key : UInt8) : Issuance :=
  let identity : NodeVerifierIdentity := ⟨"k", Bytes.filled 32 key, .ed25519NodeAndVerifier⟩
  ⟨identity, identity.ownRegistry crates, policy, [], "abcdefghijklmnop", []⟩

def decoders : Decoders := ⟨fun _ => some request, fun _ => some presentation⟩

def binding : DevgraphAuthorityReplayBindingV1 where
  actorId := "pubkey:sha256:" ++ digest
  audience := "devgraph"
  expiresAt := 50
  idempotencyKeyDigestSha256 := digest
  issuedAt := 5
  nonce := Bytes.filled 12 3
  operation := issueCreateOperationV1
  replayScope := authorityReplayScopeV1
  receiverPolicyId := "p"
  receiverPolicyVersion := 1
  receiverPolicyDigestSha256 := digest
  requestDigestSha256 := digest
  resource := "Issue/a"
  secsContextId := "ctx:sha256:" ++ digest
  secsVerifierKeyId := "k"
  sessionId := Bytes.filled 16 4
  walletPresentationDigestSha256 := digest

def projection (key : UInt8) : DevgraphAuthorityProjectionV1 :=
  { unsignedProjection binding with
    secsVerifierSignature := encodeBase64url (crates.sign (Bytes.filled 32 key) []).val }

def works (now : UInt64) : Env := ⟨now, fun _ => false⟩

def calls (first second : UInt8) : Bool → Issuance
  | false => call first
  | true => call second

def firstCall : List (Bool × Env) := [(false, works 10), (false, works 10), (false, works 10)]

def secondCall : List (Bool × Env) := [(true, works 11), (true, works 11), (true, works 11)]

/-- The second call reads the clock later and reserves first. -/
def overtaking : List (Bool × Env) :=
  [(false, works 10)] ++ secondCall ++ [(false, works 11), (false, works 11), (false, works 11)]

def ended (first second : UInt8) (schedule : List (Bool × Env)) (t : Bool) :
    Option (Result DevgraphAuthorityIssueOutcomeV1) :=
  ((after strict decoders (calls first second) .empty schedule).threads t).value?

theorem ended_eq :
    (ended 1 1 firstCall false = some (.ok (.fresh (projection 1))) ∧
      ended 1 1 (firstCall ++ secondCall) true = none ∧
      ended 1 1 (firstCall ++ secondCall ++ [(true, works 11)]) true =
        some (.ok (.exactRetry (projection 1)))) ∧
    (ended 1 1 overtaking false = some (.ok (.exactRetry (projection 1))) ∧
      ended 1 1 overtaking true = some (.ok (.fresh (projection 1)))) ∧
    ended 1 2 firstCall false = some (.ok (.fresh (projection 1))) ∧
      ended 1 2 (firstCall ++ secondCall ++ [(true, works 11)]) true =
        some (.ok (.exactRetry (projection 2))) := by
  decide +kernel

theorem retried_single_valued : ∃ p q : DevgraphAuthorityIssueOutcomeV1,
    (after strict decoders (calls 1 1) .empty firstCall).threads false = .done (.ok p) ∧
      (after strict decoders (calls 1 1) .empty
        (firstCall ++ secondCall ++ [(true, works 11)])).threads true = .done (.ok q) ∧
      q.projection = p.projection ∧ q.isExactRetry = true := by
  obtain ⟨⟨hfirst, hopen, hsecond⟩, -⟩ := ended_eq
  have hfirst := Prog.value?_eq_some.mp hfirst
  have hsecond := Prog.value?_eq_some.mp hsecond
  refine ⟨_, _, hfirst, hsecond, ?_⟩
  apply issuance_single_valued (w := .empty) (t := false) _ _ hfirst _ hsecond rfl rfl rfl
  · decide
  · decide
  · intro s s' _
    cases s <;> cases s' <;> rfl
  · intro r hended
    have hended := Prog.value?_eq_some.mpr hended
    rw [← ended, hopen] at hended
    cases hended

/-- A call that reads the clock later may be the first to reserve, and then it is not a retry; and a
retry under another key of the same id is signed with that key. -/
theorem issuance_not_single_valued :
    (ClockOrdered overtaking ∧
      (after strict decoders (calls 1 1) .empty overtaking).threads false =
        .done (.ok (.exactRetry (projection 1))) ∧
      (after strict decoders (calls 1 1) .empty overtaking).threads true =
        .done (.ok (.fresh (projection 1)))) ∧
    (ClockOrdered (firstCall ++ secondCall ++ [(true, works 11)]) ∧
      (after strict decoders (calls 1 2) .empty firstCall).threads false =
        .done (.ok (.fresh (projection 1))) ∧
      (after strict decoders (calls 1 2) .empty
        (firstCall ++ secondCall ++ [(true, works 11)])).threads true =
          .done (.ok (.exactRetry (projection 2))) ∧
      (projection 2).sessionId = (projection 1).sessionId ∧
      (projection 2).operation = (projection 1).operation ∧
      (projection 2).nonce = (projection 1).nonce ∧ projection 2 ≠ projection 1) ∧
    (11 : UInt64) < (projection 1).expiresAt := by
  obtain ⟨-, ⟨hretried, hfresh⟩, hfirst, hsecond⟩ := ended_eq
  refine ⟨⟨by decide, Prog.value?_eq_some.mp hretried, Prog.value?_eq_some.mp hfresh⟩, ⟨by decide,
    Prog.value?_eq_some.mp hfirst, Prog.value?_eq_some.mp hsecond, rfl, rfl, rfl, ?_⟩, by decide⟩
  intro heq
  have hsignature := congrArg DevgraphAuthorityProjectionV1.secsVerifierSignature heq
  have hsigned := congrArg Subtype.val (encode_injective hsignature)
  exact absurd (congrArg List.head? hsigned) (by decide)

end Sample

end IssueRetries
