import SecsMagik.FrankJournal

/-! # What an exchange does

Whatever the clock, the guards, the outputs and the faults of a call are, it moves the durable
tables by whole commits: the time it has observed is sealed over the rows that were there, or over
these rows and the one attestation it has made. An envelope leaves only when the last clock reading
is the sealed one.
-/
namespace FrankExchange

open RustStd AtomicPrograms ProgramLogic
open ExternalCrates (Crates Strict)
open FrankContracts (Readers)
open FrankOutputs (Output)
open FrankJournal
open WorkPolicies (maxSafe)

/-! ## Commits -/

/-- What a group of runs says about the outputs that are made in them and the floors that are sealed
in them. -/
structure Limits where
  made : Call → Output → Prop
  sealable : UInt64 → Prop
  clock : ∀ n, n ≠ 0 → n ≤ maxSafe → sealable n
  issued : ∀ call out, made call out → sealable out.issued

theorem Limits.sealable_max {limits : Limits} {a b : UInt64} (ha : limits.sealable a)
    (hb : b ≠ 0 → limits.sealable b) : limits.sealable (max a b) := by
  change limits.sealable (ite (a ≤ b) b a)
  by_cases h : a ≤ b
  · rw [if_pos h]
    by_cases hzero : b = 0
    · have hsame : a = b := UInt64.le_antisymm h (hzero ▸ UInt64.zero_le)
      exact hsame ▸ ha
    · exact hb hzero
  · rw [if_neg h]
    exact ha

/-- The environments under which the limits hold. A call that finds the first floor and reads no
time has nothing else to seal. -/
structure Limits.Respected (limits : Limits)
    (allows : Call → Journal → Cmd → Env → Prop) : Prop where
  make : ∀ {call w floor env out}, allows call w (.make floor) env → env.make floor = some out →
    limits.made call out
  blind : ∀ {call w env t}, allows call w .readClock env → w.reading = none → w.file = .ready t →
    t.highWater = 0 → env.clock = 0 ∨ maxSafe < env.clock → limits.sealable 0

section Commits

variable (crates : Crates) (strict : Strict crates) (readers : Readers) (limits : Limits)
  (call : Call)

def Seals (u : Tables) (floor : UInt64) (u' : Tables) : Prop :=
  ∃ ledger, u.snapshot = some ledger ∧ ledger.floor ≤ floor ∧
    u' = { u with
      highWater := asI64 floor
      sealBytes := (crates.sign call.key
        (Ledger.message crates { ledger with floor := floor } call.configuration)).val }

/-- A row that is added is new under every key of its table. -/
structure Adds (t : Tables) (ledger : Ledger) (out : Output) (replay : String) : Prop where
  made : limits.made call out
  replayed : out.replay crates readers = some replay
  room : ledger.records.length < maxRows
  fits : call.charge crates out replay ledger ≤ maxLogical - ledger.bytes
  selector : call.selector ∉ t.records.map AttestationRow.selector
  envelopeHash : out.envelopeHash crates ∉ t.records.map AttestationRow.envelopeHash
  replay : replay ∉ t.records.map AttestationRow.replay
  edge : (call.capture.id, call.parent) ∉ t.records.map AttestationRow.edge

def Call.Selects (row : AttestationRow) : Prop :=
  row.selector = call.selector ∧ row.capture = call.capture.id ∧ row.parent = call.parent

/-- The output of a transaction and the rows it leaves, mode by mode. -/
inductive Produces (t : Tables) (ledger : Ledger) (out : Output) : Tables → Prop
  | resumed {row} : call.mode = .resume → row ∈ t.records → Call.Selects call row →
      row.record = out.encode → Produces t ledger out t
  | attested {replay} : call.mode = .attest → call.parent = "" → call.retained ledger = none →
      call.capture.effect ∉ t.captures.map CaptureRow.effect →
      call.capture.id ∉ t.captures.map CaptureRow.id →
      Adds crates readers limits call t ledger out replay →
      Produces t ledger out { t with
        captures := t.captures ++ [call.capture]
        records := t.records ++ [call.row crates out replay] }
  | renewed {replay prior} : call.mode = .renew → call.parent ≠ "" →
      call.retained ledger = some call.capture →
      (ledger.ofCapture call.capture.id).length < 16 → prior ∈ ledger.ofCapture call.capture.id →
      prior.envelopeHash = call.parent →
      Adds crates readers limits call t ledger out replay →
      Produces t ledger out { t with records := t.records ++ [call.row crates out replay] }

/-- One commit, over tables that have passed the audit. -/
inductive Commits (t : Tables) : Tables → Prop
  | reseal {ledger fresh floor t'} : t.snapshot = some ledger →
      ledger.check crates strict readers fresh call.key call.configuration = some () →
      limits.sealable floor → Seals crates call t floor t' → Commits t t'
  | produce {ledger fresh out u floor t'} : t.snapshot = some ledger →
      ledger.check crates strict readers fresh call.key call.configuration = some () →
      Produces crates readers limits call t ledger out u → out.window floor →
      floor ≠ 0 → floor ≤ maxSafe → Seals crates call u floor t' → Commits t t'

inductive Moves : File → File → Prop
  | cut : Moves .absent .unfinished
  | bootstrap : Moves .absent (.ready .initial)
  | commit {t t'} : Commits crates strict readers limits call t t' → Moves (.ready t) (.ready t')

def Changes (f f' : File) : Prop := f' = f ∨ Moves crates strict readers limits call f f'

/-- What every command of a call is good for: it commits over audited tables, or changes the file in
no other way than by creating it. -/
def Guarantee (e : Event Cmd Journal Env) : Prop :=
  match e.cmd with
  | .commit => ∃ t u, e.before.file = .ready t ∧ e.before.working = some u ∧
      Commits crates strict readers limits call t u
  | _ => Changes crates strict readers limits call e.before.file (machine.after e).file

/-- The envelope of a kept output, exported at the sealed time `n`. -/
structure Exported (envelope : List UInt8) (w : Journal) (n : UInt64) (out : Output) (t : Tables)
    (row : AttestationRow) : Prop where
  reading : w.reading = some n
  file : w.file = .ready t
  highWater : t.highWater = asI64 n
  inRange : n ≠ 0 ∧ n ≤ maxSafe
  window : out.window n
  kept : row ∈ t.records
  selects : Call.Selects call row
  record : row.record = out.encode
  envelope : envelope = out.envelope

end Commits

/-- A commit lands or leaves the file as it is. -/
theorem changes_of_guarantee {crates : Crates} {strict : Strict crates} {readers : Readers}
    {limits : Limits} {call : Call} {e : Event Cmd Journal Env}
    (h : Guarantee crates strict readers limits call e) :
    Changes crates strict readers limits call e.before.file (machine.after e).file := by
  obtain ⟨env, before, cmd⟩ := e
  cases cmd with
  | commit =>
    obtain ⟨t, u, hfile, hworking, hcommits⟩ := h
    change before.file = .ready t at hfile
    change before.working = some u at hworking
    have hland : Changes crates strict readers limits call before.file (.ready u) :=
      .inr (hfile ▸ .commit hcommits)
    simp only [Machine.after, machine, exec, hworking]
    cases env.fault with
    | none => exact hland
    | some fault =>
      cases fault with
      | refused => exact .inl rfl
      | aborted => exact .inl rfl
      | unreported => exact hland
  | _ => exact h

/-! ## Snapshots -/

structure Shows (t : Tables) (ledger : Ledger) : Prop where
  captures : ledger.captures.Perm t.captures
  records : ledger.records.Perm t.records
  sealBytes : ledger.sealBytes = t.sealBytes
  floor : asI64 ledger.floor = t.highWater
  floor_le : ledger.floor ≤ maxSafe
  few : t.captures.length ≤ maxRows ∧ t.records.length ≤ maxRows
  bytes : ledger.bytes = (t.captures.map CaptureRow.size).sum +
    (t.records.map AttestationRow.size).sum
  bytes_le : ledger.bytes ≤ maxLogical

theorem asU64_of_range {x : ℤ} (h : 0 ≤ x ∧ x ≤ maxSafe.toNat) :
    asI64 (asU64 x) = x ∧ asU64 x ≤ maxSafe := by
  obtain ⟨n, rfl⟩ := Int.eq_ofNat_of_zero_le h.1
  have hmax : maxSafe.toNat = 9007199254740991 := rfl
  have hle : n ≤ maxSafe.toNat := Int.ofNat_le.mp h.2
  have hsize : UInt64.size = 2 ^ 64 := rfl
  have hnat : (UInt64.ofNat n).toNat = n := UInt64.toNat_ofNat_of_lt' (by omega)
  have hcast : asI64 (UInt64.ofNat n) = n := by rw [asI64_eq, hnat, if_pos (by omega)]
  rw [← hcast, asU64_asI64]
  exact ⟨hcast.symm ▸ rfl, by rw [UInt64.le_iff_toNat_le, hnat]; exact hle⟩

variable {ledger : Ledger} {t : Tables}

theorem shows_of_snapshot (h : t.snapshot = some ledger) :
    Shows t ledger := by
  simp only [Tables.snapshot, Option.bind_eq_bind, Option.bind_eq_some_iff, Option.guard_eq_some',
    Option.pure_def, Option.some.injEq] at h
  obtain ⟨-, hfew, -, hrange, -, hbytes, rfl⟩ := h
  obtain ⟨hfloor, hmax⟩ := asU64_of_range hrange
  have hcaptures := List.perm_insertionSort (fun a b : CaptureRow => utf8 a.effect ≤ utf8 b.effect)
    t.captures
  have hrecords := List.perm_insertionSort (fun a b : AttestationRow => a.selector ≤ b.selector)
    t.records
  exact ⟨hcaptures, hrecords, rfl, hfloor, hmax, hfew,
    congrArg₂ (· + ·) (hcaptures.map _).sum_nat (hrecords.map _).sum_nat, hbytes⟩

/-! ## Statements -/

section Statements

variable {w : Journal} {env : Env}

theorem update_file (effect : Tables → Option Tables) : (update env w effect).2.file = w.file := by
  unfold update
  split
  · rfl
  · split
    · rfl
    · rfl
    · rfl
    · split <;> rfl

theorem update_true {effect : Tables → Option Tables} (h : (update env w effect).1 = true) :
    ∃ t t', w.working = some t ∧ effect t = some t' ∧
      (update env w effect).2 = { w with working := some t' } := by
  unfold update at h ⊢
  cases hw : w.working with
  | none => simp [hw] at h
  | some t =>
    simp only [hw] at h ⊢
    cases hf : env.fault with
    | some fault => cases fault <;> simp [hf] at h
    | none =>
      simp only [hf] at h ⊢
      cases he : effect t with
      | none => simp [he] at h
      | some t' => exact ⟨t, t', rfl, he, rfl⟩

theorem rollback_file (env : Env) (w : Journal) : (exec env w .rollback).2.file = w.file := by
  simp only [exec]
  split
  · rfl
  · split <;> rfl

theorem connect_ready (h : w.file = .ready t) (create : Bool) :
    (connect env w create).2 = w := by
  unfold connect
  split
  · rfl
  · rw [h]

end Statements

/-! ## Specifications -/

structure Setting where
  crates : Crates
  strict : Strict crates
  readers : Readers
  limits : Limits
  allows : Call → Journal → Cmd → Env → Prop
  respected : limits.Respected allows
  call : Call

namespace Setting

variable (S : Setting)

def Guarantee (e : Event Cmd Journal Env) : Prop :=
  FrankExchange.Guarantee S.crates S.strict S.readers S.limits S.call e

/-- What holds whenever the call gives up: the floor that it would seal may be sealed. -/
def Kept (s : Session) : Prop := s.audited = true → S.limits.sealable s.floor

def Runs {α : Type} (x : Step α) (post : α → Session → Journal → Prop) (s : Session)
    (w : Journal) : Prop :=
  Leads machine (S.allows S.call) S.Guarantee (fun s _ => S.Kept s) x post s w

variable {S} {s : Session} {w : Journal}

variable {post : Unit → Session → Journal → Prop}

theorem runs_ensure {c : Cmd} {hc : Reply c = Bool} (hkept : S.Kept s)
    (hkeeps : ∀ env, S.Guarantee ⟨env, w, c⟩)
    (hpost : ∀ env, (hc ▸ (exec env w c).1 : Bool) = true → post () s (exec env w c).2) :
    S.Runs (ensure c hc) post s w :=
  Leads.bind (Leads.perform fun env _ => ⟨hkeeps env, Leads.require hkept (hpost env)⟩)

variable {out : Output}

theorem runs_guard (hkept : S.Kept s) (hpost : post () s w) :
    S.Runs (ensure (.guard out) rfl) post s w :=
  runs_ensure hkept (fun _ => .inl rfl) fun _ _ => hpost

theorem runs_physical (hkept : S.Kept s) (hpost : post () s w) :
    S.Runs (ensure .physical rfl) post s w :=
  runs_ensure hkept (fun _ => .inl rfl) fun _ _ => hpost

theorem runs_begin (hkept : S.Kept s)
    (hpost : ∀ t, w.file = .ready t → post () s { w with working := some t }) :
    S.Runs (ensure .begin rfl) post s w := by
  refine runs_ensure hkept (fun env => .inl ?_) fun env hdone => ?_
  · simp only [Machine.after, machine, exec]
    split
    · split <;> rfl
    · rfl
  · simp only [exec] at hdone ⊢
    split at hdone
    · next t hfile hworking =>
        cases hf : env.fault with
        | some fault => cases fault <;> simp [hf] at hdone
        | none => simpa [hfile, hworking, hf] using hpost t hfile
    · simp at hdone

theorem runs_snapshot {u : Tables} {post : Ledger → Session → Journal → Prop} (hkept : S.Kept s)
    (hworking : w.working = some u)
    (hpost : ∀ ledger, u.snapshot = some ledger → post ledger s w) :
    S.Runs snapshot post s w := by
  refine Leads.bind (Leads.perform fun env _ => ?_)
  have hfile : (exec env w .select).2.file = w.file := by
    simp only [exec]
    split <;> rfl
  refine ⟨.inl hfile, Leads.bind (Leads.expect hkept fun t ht => ?_)⟩
  have hsame : t = u ∧ (machine.exec env w .select).2 = w := by
    simp only [machine, exec] at ht ⊢
    cases hf : env.fault with
    | some fault => cases fault <;> simp [hf] at ht
    | none =>
      simp only [hf, hworking, Option.some.injEq] at ht
      exact ⟨ht.symm, rfl⟩
  obtain ⟨rfl, hw⟩ := hsame
  refine Leads.expect hkept fun ledger hledger => ?_
  rw [hw]
  exact hpost ledger hledger

theorem runs_update {c : Cmd} {hc : Reply c = Bool} {effect : Tables → Option Tables} {u : Tables}
    (hkept : S.Kept s) (hworking : w.working = some u) (hkeeps : ∀ env, S.Guarantee ⟨env, w, c⟩)
    (hreply : ∀ env, (hc ▸ (exec env w c).1 : Bool) = (update env w effect).1)
    (hworld : ∀ env, (exec env w c).2 = (update env w effect).2)
    (hpost : ∀ u', effect u = some u' → post () s { w with working := some u' }) :
    S.Runs (ensure c hc) post s w := by
  refine runs_ensure hkept hkeeps fun env hdone => ?_
  rw [hreply] at hdone
  obtain ⟨t, u', ht, heffect, hw⟩ := update_true hdone
  obtain rfl : t = u := Option.some.inj (ht.symm.trans hworking)
  rw [hworld, hw]
  exact hpost u' heffect

theorem runs_saveFloor {floor : UInt64} {u : Tables} (hkept : S.Kept s)
    (hworking : w.working = some u)
    (hpost : ∀ u', Seals S.crates S.call u floor u' → post () s { w with working := some u' }) :
    S.Runs (saveFloor S.crates S.call floor) post s w := by
  refine Leads.bind (runs_snapshot hkept hworking fun ledger hledger => ?_)
  refine Leads.bind (Leads.require hkept fun hfloor => ?_)
  refine runs_update hkept hworking (fun _ => .inl (update_file _)) (fun _ => rfl) (fun _ => rfl)
    fun u' hu' => ?_
  exact hpost u' ⟨ledger, hledger, of_decide_eq_true hfloor, (Option.some.inj hu').symm⟩

/-- A commit may take effect although it reports a failure. -/
theorem runs_commit {t u : Tables} (hkept : S.Kept s) (hfile : w.file = .ready t)
    (hworking : w.working = some u)
    (hcommits : Commits S.crates S.strict S.readers S.limits S.call t u)
    (hpost : ∀ w', w'.file = .ready u → post () s w') :
    S.Runs (ensure .commit rfl) post s w := by
  refine runs_ensure hkept (fun _ => ⟨t, u, hfile, hworking, hcommits⟩) fun env hdone => hpost _ ?_
  simp only [exec, hworking] at hdone ⊢
  cases hf : env.fault with
  | none => rfl
  | some fault => cases fault <;> simp [hf] at hdone

structure Good (s : Session) (n : UInt64) : Prop where
  working : s.failed = false
  ne_zero : n ≠ 0
  le_maxSafe : n ≤ maxSafe
  floor_le : s.floor ≤ n

theorem runs_sample {post : UInt64 → Session → Journal → Prop}
    (hbad : ∀ env, S.allows S.call w .readClock env → ¬ Good s env.clock → S.Kept s)
    (hgood : ∀ n, Good s n → post n { s with floor := n } { w with reading := some n }) :
    S.Runs sample post s w := by
  refine Leads.bind (Leads.perform fun env henv => ⟨.inl rfl, ?_⟩)
  change S.Runs (sampled env.clock) post s { w with reading := some env.clock }
  refine Leads.bind (Leads.read ?_)
  by_cases h : s.failed = true ∨ env.clock = 0 ∨ maxSafe < env.clock ∨ env.clock < s.floor
  · have hkept := hbad env henv fun hgood => by
      rcases h with h | h | h | h
      · rw [hgood.working] at h
        cases h
      · exact hgood.ne_zero h
      · exact UInt64.not_lt.mpr hgood.le_maxSafe h
      · exact UInt64.not_lt.mpr hgood.floor_le h
    rw [if_pos h]
    exact Leads.bind (Leads.write (Leads.fail hkept))
  · rw [if_neg h]
    rw [not_or, not_or, not_or, UInt64.not_lt, UInt64.not_lt] at h
    obtain ⟨hfailed, hzero, hmax, hfloor⟩ := h
    exact Leads.bind (Leads.write (Leads.pure
      (hgood env.clock ⟨eq_false_of_ne_true hfailed, hzero, hmax, hfloor⟩)))

theorem Good.kept {n : UInt64} (h : Good s n) : S.Kept { s with floor := n } :=
  fun _ => S.limits.clock n h.ne_zero h.le_maxSafe

/-! ### The transaction -/

theorem runs_resumed {post : Output → Session → Journal → Prop} (hmode : S.call.mode = .resume)
    (hkept : S.Kept s) (hledger : Shows t ledger)
    (hpost : ∀ out, Produces S.crates S.readers S.limits S.call t ledger out t → post out s w) :
    S.Runs (resumed S.call ledger) post s w := by
  refine Leads.bind (Leads.require hkept fun _ => ?_)
  refine Leads.bind (Leads.expect hkept fun row hrow => ?_)
  refine Leads.expect hkept fun out hout => hpost out ?_
  have hmem := hledger.records.mem_iff.mp (List.mem_of_find?_eq_some hrow)
  have hselects := List.find?_some hrow
  rw [decide_eq_true_eq] at hselects
  exact .resumed hmode hmem hselects (FrankOutputs.Output.decode_eq_some.mp hout).2

inductive Admitted (call : Call) (ledger : Ledger) : Prop
  | attest : call.mode = .attest → call.parent = "" → call.retained ledger = none →
      ledger.records.length < maxRows → Admitted call ledger
  | renew {prior} : call.mode = .renew → call.parent ≠ "" → (call.retained ledger).isSome →
      ledger.records.length < maxRows → (ledger.ofCapture call.capture.id).length < 16 →
      prior ∈ ledger.ofCapture call.capture.id → prior.envelopeHash = call.parent →
      Admitted call ledger

theorem runs_admitted (hmode : S.call.mode ≠ .resume) (hkept : S.Kept s)
    (hpost : Admitted S.call ledger → post () s w) : S.Runs (admitted S.call ledger) post s w := by
  refine Leads.bind (Leads.require hkept fun hroom => ?_)
  rw [decide_eq_true_eq] at hroom
  change S.Runs (ite _ _ _) post s w
  by_cases hattest : S.call.mode = .attest
  · rw [if_pos hattest]
    refine Leads.require hkept fun h => hpost ?_
    rw [decide_eq_true_eq, Option.isNone_iff_eq_none] at h
    exact .attest hattest h.1 h.2 hroom.2
  · rw [if_neg hattest]
    have hrenew : S.call.mode = .renew := by
      cases h : S.call.mode with
      | attest => exact absurd h hattest
      | resume => exact absurd h hmode
      | renew => rfl
    refine Leads.bind (Leads.require hkept fun hparent => ?_)
    refine Leads.bind (Leads.require hkept fun hshort => ?_)
    refine Leads.bind (Leads.expect hkept fun prior hprior => ?_)
    refine Leads.bind (Leads.require hkept fun _ => ?_)
    refine Leads.bind (Leads.expect hkept fun old _ => runs_guard hkept (hpost ?_))
    rw [decide_eq_true_eq] at hparent hshort
    have hhash := List.find?_some hprior
    rw [decide_eq_true_eq] at hhash
    exact .renew hrenew hparent.2 hparent.1 hroom.2 hshort (List.mem_of_find?_eq_some hprior) hhash

theorem insertCapture_eq_some {t u : Tables} {row : CaptureRow} :
    t.insertCapture row = some u ↔
      (row.effect ∉ t.captures.map CaptureRow.effect ∧ row.id ∉ t.captures.map CaptureRow.id) ∧
        { t with captures := t.captures ++ [row] } = u := by
  simp only [Tables.insertCapture, Option.bind_eq_bind, Option.bind_eq_some_iff,
    Option.guard_eq_some', Option.pure_def, Option.some.injEq, exists_const]

theorem insertRecord_eq_some {t u : Tables} {row : AttestationRow} :
    t.insertRecord row = some u ↔
      (row.selector ∉ t.records.map AttestationRow.selector ∧
        row.envelopeHash ∉ t.records.map AttestationRow.envelopeHash ∧
        row.replay ∉ t.records.map AttestationRow.replay ∧
        row.edge ∉ t.records.map AttestationRow.edge) ∧
        { t with records := t.records ++ [row] } = u := by
  simp only [Tables.insertRecord, Option.bind_eq_bind, Option.bind_eq_some_iff,
    Option.guard_eq_some', Option.pure_def, Option.some.injEq, exists_const]

/-- The rows of a transaction that has made its output. -/
theorem produces_of_admitted {replay : String} {kept : List CaptureRow}
    (hadmitted : Admitted S.call ledger) (hsame : (S.call.retained ledger).all (· = S.call.capture))
    (hadds : Adds S.crates S.readers S.limits S.call t ledger out replay)
    (hcaptures : if (S.call.retained ledger).isNone then
        (S.call.capture.effect ∉ t.captures.map CaptureRow.effect ∧
          S.call.capture.id ∉ t.captures.map CaptureRow.id) ∧
            kept = t.captures ++ [S.call.capture]
      else kept = t.captures) :
    Produces S.crates S.readers S.limits S.call t ledger out
      { t with captures := kept, records := t.records ++ [S.call.row S.crates out replay] } := by
  cases hadmitted with
  | attest hmode hparent hnone hroom =>
    rw [hnone] at hcaptures
    obtain ⟨⟨heffect, hid⟩, rfl⟩ := hcaptures
    exact .attested hmode hparent hnone heffect hid hadds
  | renew hmode hparent hsome hroom hshort hprior hhash =>
    obtain ⟨row, hrow⟩ := Option.isSome_iff_exists.mp hsome
    rw [hrow] at hcaptures hsame
    obtain rfl : row = S.call.capture := by simpa using hsame
    obtain rfl : kept = t.captures := hcaptures
    exact .renewed hmode hparent hrow hshort hprior hhash hadds

theorem Admitted.room {call : Call} (h : Admitted call ledger) :
    ledger.records.length < maxRows := by
  cases h with
  | attest _ _ _ hroom => exact hroom
  | renew _ _ _ hroom => exact hroom

theorem runs_recorded {post : Output → Session → Journal → Prop} (hkept : S.Kept s)
    (hworking : w.working = some t) (hadmitted : Admitted S.call ledger)
    (hsame : (S.call.retained ledger).all (· = S.call.capture))
    (hpost : ∀ out u s' w', S.Kept s' → w'.file = w.file →
      w'.working = some u → Produces S.crates S.readers S.limits S.call t ledger out u →
      post out s' w') :
    S.Runs (recorded S.crates S.readers S.call ledger) post s w := by
  refine Leads.bind (runs_sample (fun _ _ _ => hkept) fun n hgood => ?_)
  refine Leads.bind (Leads.perform fun env henv => ⟨.inl rfl, ?_⟩)
  refine Leads.bind (Leads.expect hgood.kept fun out hout => ?_)
  have hmade := S.respected.make henv hout
  refine Leads.bind (Leads.read (Leads.bind (Leads.write ?_)))
  have hfloor : S.limits.sealable (max n out.issued) :=
    Limits.sealable_max (S.limits.clock n hgood.ne_zero hgood.le_maxSafe) fun _ =>
      S.limits.issued _ out hmade
  have hkept : S.Kept { s with floor := max n out.issued } := fun _ => hfloor
  refine Leads.bind (runs_guard hkept ?_)
  refine Leads.bind (Leads.expect hkept fun replay hreplay => ?_)
  refine Leads.bind (Leads.require hkept fun hfits => ?_)
  rw [decide_eq_true_eq] at hfits
  -- the capture is inserted exactly when none is retained
  have hrecord : ∀ kept : List CaptureRow,
      (if (S.call.retained ledger).isNone then
        (S.call.capture.effect ∉ t.captures.map CaptureRow.effect ∧
          S.call.capture.id ∉ t.captures.map CaptureRow.id) ∧
            kept = t.captures ++ [S.call.capture]
      else kept = t.captures) →
      S.Runs (do ensure (.insertRecord (S.call.row S.crates out replay)) rfl; return out) post
        { s with floor := max n out.issued }
          ⟨w.file, some { t with captures := kept }, some n⟩ := by
    intro kept hcaptures
    refine Leads.bind (runs_update hkept rfl (fun _ => .inl (update_file _)) (fun _ => rfl)
      (fun _ => rfl) ?_)
    intro u hu
    obtain ⟨⟨hselector, hhash, hreplay', hedge⟩, rfl⟩ := insertRecord_eq_some.mp hu
    refine Leads.pure (hpost _ _ _ _ hkept rfl rfl ?_)
    exact produces_of_admitted hadmitted hsame
      ⟨hmade, hreplay, hadmitted.room, hfits, hselector, hhash, hreplay', hedge⟩ hcaptures
  refine Leads.bind (Leads.whenever (fun hnone => ?_) fun hsome => ?_)
  · refine runs_update hkept hworking (fun _ => .inl (update_file _)) (fun _ => rfl) (fun _ => rfl)
      fun u hu => ?_
    obtain ⟨hfresh, rfl⟩ := insertCapture_eq_some.mp hu
    exact hrecord _ (by rw [if_pos hnone]; exact ⟨hfresh, rfl⟩)
  · have hrun := hrecord t.captures (by rw [hsome]; rfl)
    rw [← hworking] at hrun
    exact hrun

theorem runs_produced {post : Output → Session → Journal → Prop} (hkept : S.Kept s)
    (hworking : w.working = some t) (hledger : Shows t ledger)
    (hsame : (S.call.retained ledger).all (· = S.call.capture))
    (hpost : ∀ out u s' w', S.Kept s' → w'.file = w.file →
      w'.working = some u → Produces S.crates S.readers S.limits S.call t ledger out u →
      post out s' w') :
    S.Runs (produced S.crates S.readers S.call ledger) post s w := by
  change S.Runs (ite _ _ _) post s w
  by_cases hmode : S.call.mode = .resume
  · rw [if_pos hmode]
    exact runs_resumed hmode hkept hledger fun out hout =>
      hpost out t s w hkept rfl hworking hout
  · rw [if_neg hmode]
    exact Leads.bind (runs_admitted hmode hkept fun hadmitted =>
      runs_recorded hkept hworking hadmitted hsame hpost)

/-- The output is kept in the durable tables, under the floor `persisted`. -/
structure Held (S : Setting) (out : Output) (persisted : UInt64) (w : Journal) (t : Tables)
    (row : AttestationRow) : Prop where
  file : w.file = .ready t
  highWater : t.highWater = asI64 persisted
  kept : row ∈ t.records
  selects : Call.Selects S.call row
  record : row.record = out.encode

theorem exists_row_of_produces {t u : Tables}
    (h : Produces S.crates S.readers S.limits S.call t ledger out u) :
    ∃ row ∈ u.records, Call.Selects S.call row ∧ row.record = out.encode := by
  cases h with
  | resumed _ hmem hselects hrecord => exact ⟨_, hmem, hselects, hrecord⟩
  | attested => exact ⟨_, List.mem_append_right _ (List.mem_singleton_self _), ⟨rfl, rfl, rfl⟩, rfl⟩
  | renewed => exact ⟨_, List.mem_append_right _ (List.mem_singleton_self _), ⟨rfl, rfl, rfl⟩, rfl⟩

theorem runs_operation {fresh : Bool} {post : Output → Session → Journal → Prop}
    (hreading : w.reading = none)
    (hpost : ∀ out s' w' t row, S.Kept s' → Held S out s'.floor w' t row → post out s' w') :
    S.Runs (operation S.crates S.strict S.readers S.call fresh) post .new w := by
  have hnew : S.Kept .new := fun h => nomatch h
  refine Leads.bind (runs_begin hnew fun t hfile => ?_)
  refine Leads.bind (runs_snapshot hnew rfl fun ledger hsnapshot => ?_)
  have hledger := shows_of_snapshot hsnapshot
  refine Leads.bind (Leads.expect hnew fun _ hcheck => ?_)
  refine Leads.bind (Leads.read (Leads.bind (Leads.write ?_)))
  refine Leads.bind (runs_sample (fun env henv hbad _ => ?_) fun n hgood => ?_)
  · -- a failed first reading leaves the floor that was there
    by_cases hzero : ledger.floor = 0
    · have hwater : t.highWater = 0 := by rw [← hledger.floor, hzero]; rfl
      have hclock : env.clock = 0 ∨ maxSafe < env.clock := by
        by_contra hclock
        rw [not_or, UInt64.not_lt] at hclock
        exact hbad ⟨rfl, hclock.1, hclock.2, by rw [hzero]; exact UInt64.zero_le⟩
      rw [hzero]
      exact S.respected.blind henv hreading hfile hwater hclock
    · exact S.limits.clock _ hzero hledger.floor_le
  refine Leads.bind (Leads.require hgood.kept fun hsame => ?_)
  refine Leads.bind (runs_produced hgood.kept rfl hledger hsame ?_)
  intro out u s' w' hkept hw' hu hout
  refine Leads.bind (runs_guard hkept ?_)
  refine Leads.bind (runs_sample (fun _ _ _ => hkept) fun n' hgood' => ?_)
  refine Leads.bind (Leads.require hgood'.kept fun hwindow => ?_)
  refine Leads.bind (runs_saveFloor hgood'.kept hu fun u' hseals => ?_)
  have hcommits : Commits S.crates S.strict S.readers S.limits S.call t u' :=
    .produce hsnapshot hcheck hout hwindow hgood'.ne_zero hgood'.le_maxSafe hseals
  refine Leads.bind (runs_commit hgood'.kept (hw'.trans hfile) rfl hcommits fun w'' hw'' => ?_)
  refine Leads.bind (Leads.read (Leads.bind (Leads.write (Leads.pure ?_))))
  obtain ⟨row, hrow, hselects, hrecord⟩ := exists_row_of_produces hout
  obtain ⟨ledger', -, -, rfl⟩ := hseals
  exact hpost out _ w'' _ row hgood'.kept ⟨hw'', rfl, hrow, hselects, hrecord⟩

/-! ### After the transaction -/

theorem runs_rollback (hpost : ∀ w', post () s w') :
    S.Runs rollback post s w :=
  Leads.bind (Leads.perform fun env _ => ⟨.inl (rollback_file env w), Leads.pure (hpost _)⟩)

theorem runs_resealed {fresh : Bool} {floor : UInt64} (hkept : S.Kept s)
    (hfloor : S.limits.sealable floor) (hpost : ∀ w', post () s w') :
    S.Runs (resealed S.crates S.strict S.readers S.call fresh floor) post s w := by
  refine Leads.bind (runs_begin hkept fun t hfile => ?_)
  refine Leads.bind (runs_snapshot hkept rfl fun ledger hsnapshot => ?_)
  have hledger := shows_of_snapshot hsnapshot
  refine Leads.bind (Leads.expect hkept fun _ hcheck => ?_)
  refine Leads.bind (runs_saveFloor hkept rfl fun u' hseals => ?_)
  have hsealable : S.limits.sealable (max floor ledger.floor) :=
    Limits.sealable_max hfloor fun hne => S.limits.clock _ hne hledger.floor_le
  exact runs_commit hkept hfile rfl (.reseal hsnapshot hcheck hsealable hseals) fun w' _ => hpost w'

/-- A failed call stays within its guarantee, whether or not its time is sealed. -/
theorem runs_recover {fresh : Bool} (hkept : S.Kept s)
    (hpost : ∀ s' w', S.Kept s' → post () s' w') :
    S.Runs (recover S.crates S.strict S.readers S.call fresh) post s w := by
  refine Leads.bind (Leads.perform fun env _ => ⟨.inl (rollback_file env w), ?_⟩)
  refine Leads.bind (Leads.read ?_)
  refine Leads.whenever (fun hcond => ?_) fun _ => hpost _ _ hkept
  have haudited : s.audited = true :=
    (Bool.and_eq_true_iff.mp (Bool.and_eq_true_iff.mp hcond).1).1
  refine Leads.bind (Leads.attempt (runs_resealed hkept (hkept haudited) fun w' => ?_) ?_)
  · exact Leads.whenever (fun h => nomatch h) fun _ => hpost _ _ hkept
  · intro s' w' hkept'
    exact Leads.whenever (fun _ => runs_rollback fun w'' => hpost _ _ hkept') fun h => nomatch h

theorem runs_advanced {persisted now : UInt64} {row : AttestationRow} (hkept : S.Kept s)
    (hsealable : S.limits.sealable now) (hheld : Held S out persisted w t row)
    (hpost : ∀ w' t', Held S out now w' t' row → post () s w') :
    S.Runs (advanced S.crates S.strict S.readers S.call persisted now) post s w := by
  refine Leads.bind (runs_begin hkept fun t' hfile => ?_)
  obtain rfl : t' = t := File.ready.inj (hfile.symm.trans hheld.file)
  refine Leads.bind (runs_snapshot hkept rfl fun ledger hsnapshot => ?_)
  refine Leads.bind (Leads.expect hkept fun _ hcheck => ?_)
  refine Leads.bind (Leads.require hkept fun _ => ?_)
  refine Leads.bind (runs_saveFloor hkept rfl fun u' hseals => ?_)
  refine runs_commit hkept hfile rfl (.reseal hsnapshot hcheck hsealable hseals) fun w' hw' => ?_
  obtain ⟨ledger', -, -, rfl⟩ := hseals
  exact hpost w' _ ⟨hw', rfl, hheld.kept, hheld.selects, hheld.record⟩

theorem runs_reopened {persisted now : UInt64} {row : AttestationRow} (hkept : S.Kept s)
    (hsealable : S.limits.sealable now) (hheld : Held S out persisted w t row)
    (hpost : ∀ w' t', Held S out now w' t' row → post () s w') :
    S.Runs (reopened S.crates S.strict S.readers S.call persisted now) post s w := by
  refine Leads.bind (Leads.perform fun env _ => ?_)
  have hsame : (machine.exec env w (.connect false)).2 = w := connect_ready hheld.file false
  refine ⟨.inl (congrArg Journal.file hsame), ?_⟩
  rw [hsame]
  refine Leads.bind (Leads.expect hkept fun _ _ => ?_)
  refine Leads.bind (Leads.attempt (runs_advanced hkept hsealable hheld fun w' t' hheld' => ?_) ?_)
  · refine Leads.bind (Leads.whenever (fun h => nomatch h) fun _ => ?_)
    refine Leads.bind (Leads.perform fun env _ => ⟨.inl rfl, ?_⟩)
    refine Leads.bind (Leads.expect hkept fun _ _ => Leads.require hkept fun _ => ?_)
    exact hpost _ t' ⟨hheld'.file, hheld'.highWater, hheld'.kept, hheld'.selects, hheld'.record⟩
  · -- a failed transaction ends the call once the connection is closed
    intro s' w' hkept'
    refine Leads.bind (Leads.whenever (fun _ => runs_rollback fun w'' => ?_) fun h => nomatch h)
    refine Leads.bind (Leads.perform fun env _ => ⟨.inl rfl, ?_⟩)
    exact Leads.bind (Leads.expect hkept' fun _ h => nomatch h)

theorem runs_exported {post : List UInt8 → Session → Journal → Prop}
    (hpost : ∀ n s' w' t row, Exported S.call out.envelope w' n out t row →
      post out.envelope s' w') (turns : ℕ) :
    ∀ {persisted : UInt64} {s : Session} {w : Journal} {t : Tables} {row : AttestationRow},
      S.Kept s → Held S out persisted w t row →
      S.Runs (exported S.crates S.strict S.readers S.call out turns persisted) post s w := by
  induction turns with
  | zero =>
    intro persisted s w t row hkept _
    exact Leads.fail hkept
  | succ turns ih =>
    intro persisted s w t row hkept hheld
    refine Leads.bind (runs_physical hkept ?_)
    refine Leads.bind (runs_guard hkept ?_)
    refine Leads.bind (runs_sample (fun _ _ _ => hkept) fun now hgood => ?_)
    change S.Runs (ite _ _ _) post _ _
    by_cases hnow : now = persisted
    · rw [if_pos hnow]
      refine Leads.bind (Leads.require hgood.kept fun hwindow => Leads.pure ?_)
      subst hnow
      exact hpost now _ _ t row ⟨rfl, hheld.file, hheld.highWater,
        ⟨hgood.ne_zero, hgood.le_maxSafe⟩, hwindow, hheld.kept, hheld.selects, hheld.record, rfl⟩
    · rw [if_neg hnow]
      have hsealable := S.limits.clock now hgood.ne_zero hgood.le_maxSafe
      have hheld : Held S out persisted { w with reading := some now } t row :=
        ⟨hheld.file, hheld.highWater, hheld.kept, hheld.selects, hheld.record⟩
      refine Leads.bind (runs_reopened hgood.kept hsealable hheld fun w' t' hheld' => ?_)
      exact Leads.bind (Leads.require hgood.kept fun _ => ih hgood.kept hheld')

/-! ### The call -/

theorem changes_connect {env : Env} {create : Bool} :
    Changes S.crates S.strict S.readers S.limits S.call w.file (connect env w create).2.file := by
  unfold connect
  split
  · exact .inl rfl
  · cases hfile : w.file with
    | unfinished => exact .inl hfile
    | ready t => exact .inl hfile
    | absent =>
      by_cases hcreate : create = false
      · rw [if_pos hcreate]
        exact .inl hfile
      · rw [if_neg hcreate]
        cases env.fault with
        | none => exact .inr .bootstrap
        | some fault =>
          cases fault with
          | refused => exact .inl hfile
          | aborted => exact .inr .cut
          | unreported => exact .inr .bootstrap

theorem connect_reading {env : Env} {create : Bool} :
    (connect env w create).2.reading = w.reading := by
  unfold connect
  split
  · rfl
  · split
    · split
      · rfl
      · split <;> rfl
    · rfl
    · rfl

theorem runs_exchange : S.Runs (exchange S.crates S.strict S.readers S.call)
    (fun envelope _ w => ∃ n out t row, Exported S.call envelope w n out t row) .new w := by
  have hnew : S.Kept .new := fun h => nomatch h
  have hlock : ∀ env, S.Guarantee ⟨env, w, .lock⟩ := by
    intro env
    refine .inl ?_
    simp only [Machine.after, machine, exec]
    split <;> rfl
  refine Leads.bind (runs_ensure hnew hlock fun env hheld => ?_)
  have hlocked : (exec env w .lock).2 = ⟨w.file, none, none⟩ := by
    have hheld : env.held = true := hheld
    simp [exec, hheld]
  rw [hlocked]
  refine Leads.bind (Leads.perform fun env _ => ⟨changes_connect, ?_⟩)
  have hreading : (machine.exec env ⟨w.file, none, none⟩
      (.connect (S.call.mode = .attest))).2.reading = none := connect_reading
  refine Leads.bind (Leads.expect hnew fun fresh _ => ?_)
  refine Leads.bind (Leads.attempt (runs_operation hreading fun out s w t row hkept hheld => ?_) ?_)
  · refine Leads.bind (Leads.whenever (fun h => nomatch h) fun _ => ?_)
    refine Leads.bind (Leads.perform fun env _ => ⟨.inl rfl, ?_⟩)
    refine Leads.bind (Leads.expect hkept fun out' hout' => ?_)
    obtain rfl : out = out' := Option.some.inj hout'
    refine Leads.bind (Leads.require hkept fun _ => Leads.bind (Leads.read ?_))
    exact runs_exported (fun n s w t row hexported => ⟨n, out, t, row, hexported⟩) 3 hkept
      ⟨hheld.file, hheld.highWater, hheld.kept, hheld.selects, hheld.record⟩
  · intro s w hkept
    refine Leads.bind (Leads.whenever (fun _ => runs_recover hkept fun s w hkept => ?_)
      fun h => nomatch h)
    refine Leads.bind (Leads.perform fun env _ => ⟨.inl rfl, ?_⟩)
    exact Leads.bind (Leads.expect hkept fun _ h => nomatch h)

end Setting

end FrankExchange
