import Mathlib.Algebra.Order.BigOperators.Group.List
import Mathlib.Data.List.Chain
import SecsMagik.FrankExchange

/-! # Runs of the result journal

Processes hold the lock in turn; each of their calls may end, fail or stop at any command. The
sealed time never goes back, and the history of every capture only grows at its end.
-/
namespace FrankRuns

open RustStd AtomicPrograms ProgramLogic
open ExternalCrates (Crates Strict)
open FrankContracts (Readers)
open FrankOutputs (Output)
open FrankJournal FrankExchange
open WorkPolicies (maxSafe)

/-- A call that was started, and how far it got. -/
abbrev Exchange : Type := Turn Reply Journal Env Call (Option (List UInt8) × Session)

/-- Calls that hold the lock one after another. -/
def Exchanges (crates : Crates) (strict : Strict crates) (readers : Readers) (w : Journal)
    (turns : List Exchange) : Prop :=
  InTurn machine (exchangeProgram crates strict readers) w turns

/-- The call of this turn returned the envelope. -/
def Returned (turn : Exchange) (envelope : List UInt8) : Prop :=
  ∃ s, turn.left = .done (some envelope, s)

section

variable {limits : Limits} {call : Call}

section Times

variable {crates : Crates} {strict : Strict crates} {readers : Readers}

theorem turn_spec {allows : Call → Journal → Cmd → Env → Prop}
    (hrespected : limits.Respected allows) {w : Journal} {turns : List Exchange}
    (h : Exchanges crates strict readers w turns)
    (hallowed : ∀ turn ∈ turns, ∀ e ∈ turn.events, allows turn.call e.before e.cmd e.env) :
    ∀ turn ∈ turns,
      (∀ e ∈ turn.events, Guarantee crates strict readers limits turn.call e) ∧
      ∀ envelope, Returned turn envelope →
        ∃ n out t row, Exported turn.call envelope turn.world n out t row := by
  have hcall : ∀ (call : Call) (w : Journal), wp machine (allows call)
      (Guarantee crates strict readers limits call)
      (exchangeProgram crates strict readers call)
      (fun r w => ∀ envelope, r.1 = some envelope →
        ∃ n out t row, Exported call envelope w n out t row) w := by
    intro call w
    refine wp_mono (Setting.runs_exchange
      (S := ⟨crates, strict, readers, limits, allows, hrespected, call⟩)) fun r w hr => ?_
    intro envelope henvelope
    rw [henvelope] at hr
    exact hr
  intro turn hturn
  obtain ⟨hevents, hdone⟩ := h.holds hcall hallowed turn hturn
  refine ⟨hevents, ?_⟩
  rintro envelope ⟨s, hs⟩
  exact hdone _ hs envelope rfl

/-! ## Sealed times -/

def Later (f f' : File) : Prop :=
  ∀ t n, f = .ready t → t.highWater = asI64 n →
    ∃ t' n', f' = .ready t' ∧ t'.highWater = asI64 n' ∧ n ≤ n'

theorem later_refl (f : File) : Later f f := fun t n hf hn => ⟨t, n, hf, hn, UInt64.le_refl n⟩

theorem later_trans {f f' f'' : File} (h : Later f f') (h' : Later f' f'') : Later f f'' := by
  intro t n hf hn
  obtain ⟨t', n', hf', hn', hle⟩ := h t n hf hn
  obtain ⟨t'', n'', hf'', hn'', hle'⟩ := h' t' n' hf' hn'
  exact ⟨t'', n'', hf'', hn'', UInt64.le_trans hle hle'⟩

theorem asI64_injective : Function.Injective asI64 :=
  Function.LeftInverse.injective asU64_asI64

theorem later_of_seals {u u' : Tables} {floor : UInt64} (h : Seals crates call u floor u')
    {n : UInt64} (hn : u.highWater = asI64 n) :
    u'.highWater = asI64 floor ∧ n ≤ floor := by
  obtain ⟨ledger, hledger, hle, rfl⟩ := h
  have hfloor := (shows_of_snapshot hledger).floor
  rw [hn] at hfloor
  exact ⟨rfl, asI64_injective hfloor ▸ hle⟩

theorem highWater_of_produces {t u : Tables} {ledger : Ledger} {out : Output}
    (h : Produces crates readers limits call t ledger out u) :
    u.highWater = t.highWater := by
  cases h with
  | resumed => rfl
  | attested => rfl
  | renewed => rfl

theorem later_of_changes {f f' : File} (h : Changes crates strict readers limits call f f') :
    Later f f' := by
  rcases h with rfl | hmoves
  · exact later_refl _
  · cases hmoves with
    | cut => exact fun t n hf => nomatch hf
    | bootstrap => exact fun t n hf => nomatch hf
    | commit hcommits =>
      rintro t n hf hn
      obtain rfl := File.ready.inj hf
      cases hcommits with
      | reseal _ _ _ hseals =>
        obtain ⟨hwater, hle⟩ := later_of_seals hseals hn
        exact ⟨_, _, rfl, hwater, hle⟩
      | produce _ _ hout _ _ _ hseals =>
        obtain ⟨hwater, hle⟩ := later_of_seals hseals ((highWater_of_produces hout).trans hn)
        exact ⟨_, _, rfl, hwater, hle⟩

def anything : Limits := ⟨fun _ _ => True, fun _ => True, fun _ _ _ => trivial,
  fun _ _ _ => trivial⟩

theorem anything_respected : anything.Respected fun _ _ _ _ => True :=
  ⟨fun _ _ => trivial, fun _ _ _ _ _ => trivial⟩

theorem exchange_spec {w : Journal} {turns : List Exchange}
    (h : Exchanges crates strict readers w turns) : ∀ turn ∈ turns,
      (∀ e ∈ turn.events, Changes crates strict readers anything turn.call e.before.file
        (machine.after e).file) ∧
      ∀ envelope, Returned turn envelope →
        ∃ n out t row, Exported turn.call envelope turn.world n out t row :=
  fun turn hturn =>
    have hspec := turn_spec anything_respected h (fun _ _ _ _ => trivial) turn hturn
    ⟨fun e he => changes_of_guarantee (hspec.1 e he), hspec.2⟩

/-- A preorder that every change respects holds from the start of a turn to its end, and from there
to the start of every later turn. -/
theorem related_turns {R : File → File → Prop} (hrefl : ∀ f, R f f)
    (htrans : ∀ {a b c}, R a b → R b c → R a c)
    (hchanges : ∀ {call f f'}, Changes crates strict readers anything call f f' → R f f')
    {w : Journal} {turns : List Exchange} (h : Exchanges crates strict readers w turns) :
    (∀ turn ∈ turns, R turn.start.file turn.world.file) ∧
      turns.Pairwise fun a b => R a.world.file b.start.file := by
  have hturn : ∀ turn ∈ turns, R turn.start.file turn.world.file := by
    intro turn hmem
    have hevents := (exchange_spec h turn hmem).1
    exact (related_of_chained (R := fun w w' => R w.file w'.file) (fun w => hrefl w.file) htrans
      (h.chained_turn turn hmem) fun e he => hchanges (hevents e he)).1
  exact ⟨hturn, (h.ordered (R := fun w w' => R w.file w'.file) (fun w => hrefl w.file) htrans
    hturn).2⟩

/-- Every envelope leaves within its window, at a clock reading that is sealed at that moment, and
no later envelope leaves at an earlier reading. -/
theorem exported_at_sealed_time {w : Journal} {turns : List Exchange}
    (h : Exchanges crates strict readers w turns) :
    (∀ turn ∈ turns, ∀ envelope, Returned turn envelope →
      ∃ (n : UInt64) (out : Output) (t : Tables), turn.world.reading = some n ∧
        turn.world.file = .ready t ∧ t.highWater = asI64 n ∧
        (∃ row ∈ t.records, row.selector = turn.call.selector ∧ row.record = out.encode) ∧
        envelope = out.envelope ∧ out.issued ≤ n ∧ n < out.expires) ∧
    turns.Pairwise fun earlier later => ∀ envelope envelope' n n',
      Returned earlier envelope → Returned later envelope' →
      earlier.world.reading = some n → later.world.reading = some n' → n ≤ n' := by
  obtain ⟨hturn, hlater⟩ := related_turns later_refl later_trans later_of_changes h
  refine ⟨?_, (List.Pairwise.and_mem.mp hlater).imp ?_⟩
  · intro turn hmem envelope henvelope
    obtain ⟨n, out, t, row, hout⟩ := (exchange_spec h turn hmem).2 envelope henvelope
    have hwindow := hout.window
    simp only [Output.window, Bool.and_eq_true, decide_eq_true_eq] at hwindow
    exact ⟨n, out, t, hout.reading, hout.file, hout.highWater,
      ⟨row, hout.kept, hout.selects.1, hout.record⟩, hout.envelope, hwindow.1.1.2, hwindow.1.2⟩
  · intro earlier later hpair envelope envelope' n n' henvelope henvelope' hn hn'
    obtain ⟨hearlier, hmem, hsealed⟩ := hpair
    obtain ⟨m, out, t, row, hout⟩ := (exchange_spec h earlier hearlier).2 envelope henvelope
    obtain ⟨m', out', t', row', hout'⟩ := (exchange_spec h later hmem).2 envelope' henvelope'
    obtain rfl := Option.some.inj (hout.reading.symm.trans hn)
    obtain rfl := Option.some.inj (hout'.reading.symm.trans hn')
    -- the time sealed by the earlier call is still sealed, or a later one is
    obtain ⟨t'', k, hfile, hwater, hle⟩ :=
      later_trans hsealed (hturn later hmem) t m hout.file hout.highWater
    obtain rfl := File.ready.inj (hfile.symm.trans hout'.file)
    rw [hout'.highWater] at hwater
    exact asI64_injective hwater ▸ hle

end Times

end

namespace Sample

def crates : Crates where
  sha256 _ := Bytes.filled 32 7
  publicKey := id
  sign _ _ := Bytes.filled 64 1
  verify _ _ _ := true
  verify_sign := fun _ _ => rfl
  x25519PublicKey := id
  diffieHellman _ client := client
  hkdf _ _ _ := Bytes.filled 32 0
  decrypt _ _ ciphertext _ := some ciphertext
  jsonValue _ := none
  registrationRequest _ := none

def strict : Strict crates where
  isPoint _ := true
  isWeak _ := false
  verifyStrict _ _ _ := true
  isPoint_publicKey := fun _ => rfl
  verifyStrict_sign := fun _ _ _ => rfl

def signed : CallContext.SignedVerifiedCallContext where
  context := {
    schemaVersion := 4
    contextId := "context"
    packetHash := Bytes.filled 32 0
    sessionId := Bytes.filled 16 1
    nonce := Bytes.filled 12 1
    opcode := 64
    operation := "frank.result.attest.v1"
    resource := none
    subject := ⟨"subject", "key"⟩
    audience := "frank://result-receiver"
    evidenceSummary := []
    proofMetadata := none
    capabilityResult := ""
    credentialResult := ""
    issuedAt := 10
    expiresAt := 20
    descriptorFingerprint := ""
    replayScope := "session:opcode:nonce"
    handlerId := none }
  signerKeyId := "key"
  authenticatorKind := .ed25519NodeAndVerifier
  signature := []

def readers : Readers where
  tree _ := none
  outside := ⟨fun _ => none, fun _ => none⟩
  work _ := none
  payload _ := none
  terminal _ := none
  object _ := none
  selector _ := none
  receipt _ := none
  reservation _ := none
  manifest _ := none
  connectorSelector _ := none
  connectorPolicy _ := none
  hermesProvenance _ := none
  hermesOriginal _ := none
  value _ := none
  signedContext _ := some (signed, [])

def call : Call := ⟨.attest, [1], ⟨"effect", "capture", [2]⟩, "", Bytes.filled 32 3,
  Bytes.filled 32 4⟩

def out : Output := ⟨[5], [6], [7], 10, 20⟩

def env : Env := ⟨10, true, none, fun _ => true, fun _ => some out⟩

def attested : Exchange :=
  .alone machine (exchangeProgram crates strict readers) env ⟨.absent, none, none⟩ call

theorem attested_exchanges :
    Exchanges crates strict readers ⟨.absent, none, none⟩ [attested] :=
  inTurn_alone machine (exchangeProgram crates strict readers) env ⟨.absent, none, none⟩ call

theorem attested_returned : Returned attested [5] := by
  have hresult : (machine.run env ⟨.absent, none, none⟩
      (exchangeProgram crates strict readers call)).result.1 = some [5] := by decide
  exact ⟨_, congrArg Prog.done (Prod.ext hresult rfl)⟩

theorem attested_at_sealed_time : ∃ turns : List Exchange,
    Exchanges crates strict readers ⟨.absent, none, none⟩ turns ∧
    (∃ turn ∈ turns, Returned turn [5]) ∧
    ∀ turn ∈ turns, ∀ envelope, Returned turn envelope →
      ∃ (n : UInt64) (out : Output) (t : Tables), turn.world.reading = some n ∧
        turn.world.file = .ready t ∧ t.highWater = asI64 n ∧
        (∃ row ∈ t.records, row.selector = turn.call.selector ∧ row.record = out.encode) ∧
        envelope = out.envelope ∧ out.issued ≤ n ∧ n < out.expires :=
  ⟨[attested], attested_exchanges, ⟨attested, List.mem_singleton_self _, attested_returned⟩,
    (exported_at_sealed_time attested_exchanges).1⟩

end Sample

/-! ## Histories -/

section Histories

variable {crates : Crates} {strict : Strict crates} {readers : Readers}

/-- The records of a capture, in the order in which they were added. -/
def Tables.history (t : Tables) (id : String) : List AttestationRow :=
  t.records.filter (·.capture = id)

/-- A history starts at the empty parent, every other record renews its predecessor, and there are
sixteen at most. -/
structure History (rows : List AttestationRow) : Prop where
  root : ∃ first rest, rows = first :: rest ∧ first.parent = ""
  renews : rows.IsChain fun prior next => next.parent = prior.envelopeHash
  short : rows.length ≤ 16

structure Linear (t : Tables) : Prop where
  effects : (t.captures.map CaptureRow.effect).Nodup
  ids : (t.captures.map CaptureRow.id).Nodup
  selectors : (t.records.map AttestationRow.selector).Nodup
  captured : ∀ row ∈ t.records, row.capture ∈ t.captures.map CaptureRow.id
  history : ∀ kept ∈ t.captures, History (Tables.history t kept.id)
  small : ∀ row ∈ t.records, row.size ≤ maxLogical

theorem linear_initial : Linear .initial := by
  constructor <;> simp [Tables.initial]

theorem isChain_next {α : Type} {R : α → α → Prop} {xs : List α} (h : xs.IsChain R) {x : α}
    (hx : x ∈ xs) : (∃ y ∈ xs, R x y) ∨ xs.getLast? = some x := by
  induction h with
  | nil => cases hx
  | singleton a => exact .inr (congrArg some (List.mem_singleton.mp hx).symm)
  | @cons_cons a b rest hab _ ih =>
    rcases List.mem_cons.mp hx with rfl | hx
    · exact .inl ⟨b, by simp, hab⟩
    · rcases ih hx with ⟨y, hy, hxy⟩ | hlast
      · exact .inl ⟨y, List.mem_cons_of_mem _ hy, hxy⟩
      · exact .inr (by rw [List.getLast?_cons_cons]; exact hlast)

/-- A record that renews a record without a successor extends the history at its end. -/
theorem History.append {rows : List AttestationRow} (h : History rows)
    {prior row : AttestationRow} (hprior : prior ∈ rows) (hrow : row.parent = prior.envelopeHash)
    (hfree : ∀ other ∈ rows, other.parent ≠ row.parent) (hshort : rows.length < 16) :
    History (rows ++ [row]) := by
  obtain ⟨first, rest, hrows, hroot⟩ := h.root
  refine ⟨⟨first, rest ++ [row], by rw [hrows]; rfl, hroot⟩, ?_,
    by rw [List.length_append]; exact hshort⟩
  rw [List.isChain_append]
  refine ⟨h.renews, List.isChain_singleton row, ?_⟩
  rcases isChain_next h.renews hprior with ⟨other, hother, hnext⟩ | hlast
  · exact absurd (hnext.trans hrow.symm) (hfree other hother)
  · intro last hmem next hnext
    obtain rfl := Option.some.inj (hlast.symm.trans hmem)
    obtain rfl := Option.some.inj hnext
    exact hrow

/-- Of the rows of a capture, an added row is the last or none at all. -/
theorem history_append (t : Tables) (row : AttestationRow) (kept : List CaptureRow) (id : String) :
    Tables.history { t with captures := kept, records := t.records ++ [row] } id =
      Tables.history t id ++ if row.capture = id then [row] else [] := by
  by_cases h : row.capture = id
  · simp [Tables.history, h]
  · simp [Tables.history, h]

theorem history_eq_nil {t : Tables} (h : Linear t) {id : String}
    (hid : id ∉ t.captures.map CaptureRow.id) : Tables.history t id = [] := by
  rw [Tables.history, List.filter_eq_nil_iff]
  intro row hrow hcapture
  rw [decide_eq_true_eq] at hcapture
  exact hid (hcapture ▸ h.captured row hrow)

theorem row_capture (call : Call) (out : Output) (replay : String) :
    (call.row crates out replay).capture = call.capture.id := rfl

/-- A transaction keeps the histories linear, as long as its rows fit. -/
theorem linear_of_produces {t u : Tables} {ledger : Ledger} {out : Output} (h : Linear t)
    (hledger : Shows t ledger) (hout : Produces crates readers limits call t ledger out u)
    (hsmall : ∀ row ∈ u.records, row.size ≤ maxLogical) : Linear u := by
  cases hout with
  | resumed => exact h
  | @attested replay _ hparent _ heffect hid hadds =>
    have hnil := history_eq_nil h hid
    refine ⟨?_, ?_, ?_, ?_, ?_, hsmall⟩
    · simpa using List.Nodup.concat heffect h.effects
    · simpa using List.Nodup.concat hid h.ids
    · simpa [Call.row] using List.Nodup.concat hadds.selector h.selectors
    · intro row hrow
      rw [List.map_append, List.mem_append]
      rcases List.mem_append.mp hrow with hrow | hrow
      · exact .inl (h.captured row hrow)
      · rw [List.mem_singleton.mp hrow]
        exact .inr (List.mem_singleton_self _)
    · intro kept hkept
      rw [history_append, row_capture]
      rcases List.mem_append.mp hkept with hkept | hkept
      · have hne : call.capture.id ≠ kept.id := fun heq =>
          hid (heq ▸ List.mem_map_of_mem hkept)
        rw [if_neg hne, List.append_nil]
        exact h.history kept hkept
      · obtain rfl := List.mem_singleton.mp hkept
        rw [hnil, if_pos rfl]
        exact ⟨⟨_, [], rfl, hparent⟩, List.isChain_singleton _, by simp⟩
  | @renewed replay prior _ _ hretained hshort hprior hhash hadds =>
    refine ⟨h.effects, h.ids, ?_, ?_, ?_, hsmall⟩
    · simpa [Call.row] using List.Nodup.concat hadds.selector h.selectors
    · intro row hrow
      rcases List.mem_append.mp hrow with hrow | hrow
      · exact h.captured row hrow
      · rw [List.mem_singleton.mp hrow]
        have hmem := hledger.captures.mem_iff.mp (List.mem_of_find?_eq_some hretained)
        exact List.mem_map_of_mem hmem
    · intro kept hkept
      rw [history_append, row_capture]
      by_cases hid : call.capture.id = kept.id
      · have hperm : (ledger.ofCapture kept.id).Perm (Tables.history t kept.id) :=
          hledger.records.filter _
        rw [hid] at hprior hshort
        rw [if_pos hid]
        refine (h.history kept hkept).append (hperm.mem_iff.mp hprior) hhash.symm ?_ ?_
        · intro other hother hsame
          have hmem := List.mem_filter.mp hother
          refine hadds.edge (List.mem_map.mpr ⟨other, hmem.1, ?_⟩)
          rw [AttestationRow.edge, hid, of_decide_eq_true hmem.2, hsame]
          rfl
        · rwa [← hperm.length_eq]
      · rw [if_neg hid, List.append_nil]
        exact h.history kept hkept

theorem small_of_seals {u u' : Tables} {floor : UInt64} (h : Seals crates call u floor u') :
    ∀ row ∈ u.records, row.size ≤ maxLogical := by
  intro row hrow
  obtain ⟨ledger, hledger, -, -⟩ := h
  have hshows := shows_of_snapshot hledger
  have hle := List.single_le_sum (fun _ _ => Nat.zero_le _) _
    (List.mem_map_of_mem (f := AttestationRow.size) hrow)
  have hbytes := hshows.bytes
  have hmax := hshows.bytes_le
  omega

theorem linear_of_commits {t t' : Tables} (h : Linear t)
    (hcommits : Commits crates strict readers limits call t t') : Linear t' := by
  cases hcommits with
  | reseal _ _ _ hseals =>
    obtain ⟨ledger, -, -, rfl⟩ := hseals
    exact ⟨h.effects, h.ids, h.selectors, h.captured, h.history, h.small⟩
  | produce hsnapshot _ hout _ _ _ hseals =>
    have hu := linear_of_produces h (shows_of_snapshot hsnapshot) hout (small_of_seals hseals)
    obtain ⟨ledger, -, -, rfl⟩ := hseals
    exact ⟨hu.effects, hu.ids, hu.selectors, hu.captured, hu.history, hu.small⟩

/-! ## Files -/

def recordsOf : File → List AttestationRow
  | .ready t => t.records
  | .absent | .unfinished => []

def capturesOf : File → List CaptureRow
  | .ready t => t.captures
  | .absent | .unfinished => []

/-- No row has been changed or removed. -/
def Extends (f f' : File) : Prop :=
  recordsOf f <+: recordsOf f' ∧ capturesOf f <+: capturesOf f'

theorem extends_refl (f : File) : Extends f f := ⟨List.prefix_refl _, List.prefix_refl _⟩

theorem extends_trans {f f' f'' : File} (h : Extends f f') (h' : Extends f' f'') : Extends f f'' :=
  ⟨h.1.trans h'.1, h.2.trans h'.2⟩

/-- A row that a change adds has the selector of the call, which no row had before. -/
theorem records_of_changes {f f' : File} (h : Changes crates strict readers limits call f f') :
    Extends f f' ∧ (recordsOf f' = recordsOf f ∨
      call.mode ≠ .resume ∧ (∀ row ∈ recordsOf f, row.selector ≠ call.selector) ∧
        ∃ out replay, recordsOf f' = recordsOf f ++ [call.row crates out replay]) := by
  rcases h with rfl | hmoves
  · exact ⟨extends_refl _, .inl rfl⟩
  · cases hmoves with
    | cut => exact ⟨extends_refl _, .inl rfl⟩
    | bootstrap => exact ⟨extends_refl _, .inl rfl⟩
    | commit hcommits =>
      cases hcommits with
      | reseal _ _ _ hseals =>
        obtain ⟨ledger, -, -, rfl⟩ := hseals
        exact ⟨extends_refl _, .inl rfl⟩
      | produce _ _ hout _ _ _ hseals =>
        obtain ⟨ledger, -, -, rfl⟩ := hseals
        cases hout with
        | resumed => exact ⟨extends_refl _, .inl rfl⟩
        | attested hmode _ _ _ _ hadds =>
          refine ⟨⟨List.prefix_append _ _, List.prefix_append _ _⟩, .inr ⟨?_, ?_, _, _, rfl⟩⟩
          · rw [hmode]; exact nofun
          · exact fun row hrow hsame => hadds.selector (hsame ▸ List.mem_map_of_mem hrow)
        | renewed hmode _ _ _ _ _ hadds =>
          refine ⟨⟨List.prefix_append _ _, List.prefix_refl _⟩, .inr ⟨?_, ?_, _, _, rfl⟩⟩
          · rw [hmode]; exact nofun
          · exact fun row hrow hsame => hadds.selector (hsame ▸ List.mem_map_of_mem hrow)

theorem linear_of_changes {f f' : File} (h : Changes crates strict readers limits call f f')
    (hf : ∀ t, f = .ready t → Linear t) :
    ∀ t, f' = .ready t → Linear t := by
  rcases h with rfl | hmoves
  · exact hf
  · cases hmoves with
    | cut => exact nofun
    | bootstrap =>
      intro t ht
      obtain rfl := File.ready.inj ht
      exact linear_initial
    | commit hcommits =>
      intro t ht
      obtain rfl := File.ready.inj ht
      exact linear_of_commits (hf _ rfl) hcommits

section Turns

variable {w : Journal} {turns : List Exchange}

def LinearFile (w : Journal) : Prop := ∀ t, w.file = .ready t → Linear t

theorem linear_of_exchanges (h : Exchanges crates strict readers w turns) (hw : w.file = .absent) :
    ∀ turn ∈ turns, (∀ e ∈ turn.events, LinearFile (machine.after e)) ∧ LinearFile turn.world := by
  have hstep : ∀ turn ∈ turns, ∀ e ∈ turn.events,
      LinearFile e.before → LinearFile (machine.after e) :=
    fun turn hturn e he => linear_of_changes ((exchange_spec h turn hturn).1 e he)
  have hrelated : ∀ turn ∈ turns, (LinearFile turn.start → LinearFile turn.world) ∧
      ∀ e ∈ turn.events, LinearFile turn.start → LinearFile e.before := by
    intro turn hturn
    have hchain := related_of_chained (R := fun w w' => LinearFile w → LinearFile w') (fun _ => id)
      (fun hab hbc ha => hbc (hab ha)) (h.chained_turn turn hturn) (hstep turn hturn)
    exact ⟨hchain.1, hchain.2.1⟩
  have hbetween := h.invariant (J := LinearFile) (fun turn hturn => (hrelated turn hturn).1)
    fun t ht => nomatch hw.symm.trans ht
  intro turn hturn
  obtain ⟨hstart, hworld⟩ := hbetween turn hturn
  exact ⟨fun e he => hstep turn hturn e he ((hrelated turn hturn).2 e he hstart), hworld⟩

theorem added_in_turn (h : Exchanges crates strict readers w turns) {turn : Exchange}
    (hturn : turn ∈ turns) {row : AttestationRow} (hstart : row ∉ recordsOf turn.start.file)
    (hworld : row ∈ recordsOf turn.world.file) :
    turn.call.mode ≠ .resume ∧ row.selector = turn.call.selector ∧
      ∀ other ∈ recordsOf turn.start.file, other.selector ≠ turn.call.selector := by
  have hevents := (exchange_spec h turn hturn).1
  obtain ⟨e, he, hbefore, hafter⟩ := (h.chained_turn turn hturn).exists_break
    (P := fun w => row ∉ recordsOf w.file) hstart (not_not.mpr hworld)
  rcases (records_of_changes (hevents e he)).2 with hsame | ⟨hmode, hfree, out, replay, hadds⟩
  · rw [hsame] at hafter
    exact absurd hbefore hafter
  · rw [hadds, not_not] at hafter
    have hrow : row = turn.call.row crates out replay := by
      rcases List.mem_append.mp hafter with hmem | hmem
      · exact absurd hmem hbefore
      · exact List.mem_singleton.mp hmem
    have hextends := (related_of_chained (R := fun w w' => Extends w.file w'.file)
      (fun w => extends_refl w.file) extends_trans (h.chained_turn turn hturn)
      fun e he => (records_of_changes (hevents e he)).1).2.1 e he
    refine ⟨hmode, by rw [hrow]; rfl, ?_⟩
    intro other hother
    exact hfree other (hextends.1.subset hother)

/-- Histories are linear, rows only come in, and a resumed envelope is the one that the call which
added the record of that selector has made. -/
theorem history_linear_stable (h : Exchanges crates strict readers w turns)
    (hw : w.file = .absent) :
    (∀ turn ∈ turns, ∀ e ∈ turn.events, ∀ t, (machine.after e).file = .ready t → Linear t) ∧
    ((turns.flatMap Turn.events).map fun e => (machine.after e).file).Pairwise Extends ∧
    ∀ before turn after envelope, turns = before ++ turn :: after →
      turn.call.mode = .resume → Returned turn envelope →
      ∃ maker ∈ before, maker.call.mode ≠ .resume ∧ maker.call.selector = turn.call.selector ∧
        (∀ row ∈ recordsOf maker.start.file, row.selector ≠ turn.call.selector) ∧
        (∃ row ∈ recordsOf maker.world.file, ∃ out : Output, row.selector = turn.call.selector ∧
          row.record = out.encode ∧ envelope = out.envelope) ∧
        ∀ envelope', Returned maker envelope' → envelope' = envelope := by
  refine ⟨fun turn hturn => (linear_of_exchanges h hw turn hturn).1, ?_, ?_⟩
  · obtain ⟨w', hchained⟩ := h.chained
    have hpairs := (related_of_chained (R := fun w w' => Extends w.file w'.file)
      (fun w => extends_refl w.file) extends_trans hchained ?_).2.2
    · rw [List.pairwise_map] at hpairs ⊢
      exact hpairs
    · intro e he
      obtain ⟨turn, hturn, he⟩ := List.mem_flatMap.mp he
      exact (records_of_changes ((exchange_spec h turn hturn).1 e he)).1
  · rintro before turn after envelope rfl hmode henvelope
    have hturn : turn ∈ before ++ turn :: after := by simp
    obtain ⟨n, out, t, row, hout⟩ := (exchange_spec h turn hturn).2 envelope henvelope
    have hworld : row ∈ recordsOf turn.world.file := by rw [hout.file]; exact hout.kept
    -- a call that resumes adds no record
    have hstart : row ∈ recordsOf turn.start.file := by
      by_contra hnew
      exact (added_in_turn h hturn hnew hworld).1 hmode
    obtain ⟨maker, hmaker, hbefore, hafter⟩ := h.exists_turn_before
      (P := fun w => row ∈ recordsOf w.file) (by rw [hw]; exact List.not_mem_nil) hstart
    have hmem : maker ∈ before ++ turn :: after := List.mem_append_left _ hmaker
    obtain ⟨hmakes, hselector, hfree⟩ := added_in_turn h hmem hbefore hafter
    have hsame : maker.call.selector = turn.call.selector := hselector.symm.trans hout.selects.1
    refine ⟨maker, hmaker, hmakes, hsame, fun other hother => hsame ▸ hfree other hother,
      ⟨row, hafter, out, hout.selects.1, hout.record, hout.envelope⟩, ?_⟩
    intro envelope' henvelope'
    obtain ⟨n', out', t', row', hout'⟩ := (exchange_spec h maker hmem).2 envelope' henvelope'
    rw [hout'.file] at hafter
    have hlinear := (linear_of_exchanges h hw maker hmem).2 t' hout'.file
    have hrows : row' = row := List.inj_on_of_nodup_map hlinear.selectors hout'.kept hafter
      (hout'.selects.1.trans hselector.symm)
    have hencode : out'.encode = out.encode := by rw [← hout'.record, hrows, hout.record]
    have hsize : out'.encode.length < 256 ^ 8 := by
      have hsmall := hlinear.small row' hout'.kept
      have hmax : maxLogical < 256 ^ 8 := by decide
      rw [AttestationRow.size, hout'.record] at hsmall
      omega
    rw [hout'.envelope, hout.envelope, FrankOutputs.Output.encode_inj hsize hencode]

end Turns

end Histories

theorem Sample.attested_linear_stable : ∃ turns : List Exchange,
    Exchanges Sample.crates Sample.strict Sample.readers ⟨.absent, none, none⟩ turns ∧
    (∃ turn ∈ turns, Returned turn [5]) ∧
    (∀ turn ∈ turns, ∀ e ∈ turn.events, ∀ t, (machine.after e).file = .ready t → Linear t) ∧
    ((turns.flatMap Turn.events).map fun e => (machine.after e).file).Pairwise Extends :=
  have h := history_linear_stable Sample.attested_exchanges rfl
  ⟨[Sample.attested], Sample.attested_exchanges,
    ⟨Sample.attested, List.mem_singleton_self _, Sample.attested_returned⟩, h.1, h.2.1⟩

end FrankRuns
