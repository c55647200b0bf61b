import Mathlib.Data.List.Sort
import SecsMagik.FrankOutputs
import SecsMagik.ProgramLogic

/-! # The private result journal

One transaction looks a capture up, attests or renews it at most once and seals the whole journal
with the clock it has seen; the envelope leaves only after the connection is closed and the last
clock reading is sealed. A failed call seals the time it observed over what was there before.
-/
namespace FrankJournal

open RustStd AtomicPrograms ProgramLogic
open ExternalCrates (Crates Strict)
open CallContext (signatureFromSlice)
open FrankContracts (Readers digest checkStoredSelector)
open FrankOutputs (Output)
open WorkPolicies (maxSafe)

inductive FrankResultMode where
  | attest | resume | renew
  deriving DecidableEq

/-! ## Tables -/

structure CaptureRow where
  effect : String
  id : String
  original : List UInt8
  deriving DecidableEq

structure AttestationRow where
  selector : List UInt8
  capture : String
  parent : String
  envelopeHash : String
  record : List UInt8
  replay : String
  deriving DecidableEq

def AttestationRow.edge (row : AttestationRow) : String × String := (row.capture, row.parent)

def maxRows : ℕ := 32

def maxLogical : ℕ := 32 * 1024 * 1024

/-- The three tables; `meta` has the one row that the schema inserts. Rows stand in the order of
their insertion. -/
structure Tables where
  highWater : ℤ
  sealBytes : List UInt8
  captures : List CaptureRow
  records : List AttestationRow
  deriving DecidableEq

namespace Tables

def initial : Tables := ⟨0, [], [], []⟩

/-- `effect` is the primary key and `id` is unique. -/
def insertCapture (t : Tables) (row : CaptureRow) : Option Tables := do
  guard (row.effect ∉ t.captures.map CaptureRow.effect ∧ row.id ∉ t.captures.map CaptureRow.id)
  return { t with captures := t.captures ++ [row] }

/-- `selector` is the primary key; the envelope's hash, the replay identity and the pair of capture
and parent are unique. -/
def insertRecord (t : Tables) (row : AttestationRow) : Option Tables := do
  guard (row.selector ∉ t.records.map AttestationRow.selector ∧
    row.envelopeHash ∉ t.records.map AttestationRow.envelopeHash ∧
    row.replay ∉ t.records.map AttestationRow.replay ∧
    row.edge ∉ t.records.map AttestationRow.edge)
  return { t with records := t.records ++ [row] }

end Tables

/-! ## Ledgers -/

structure Ledger where
  floor : UInt64
  sealBytes : List UInt8
  captures : List CaptureRow
  records : List AttestationRow
  bytes : ℕ

def CaptureRow.size (row : CaptureRow) : ℕ :=
  byteLen row.effect + byteLen row.id + row.original.length

def AttestationRow.size (row : AttestationRow) : ℕ :=
  row.selector.length + byteLen row.capture + byteLen row.parent + byteLen row.envelopeHash +
    row.record.length + byteLen row.replay

def Tables.snapshot (t : Tables) : Option Ledger := do
  guard (t.captures.length ≤ maxRows ∧ t.records.length ≤ maxRows)
  guard (0 ≤ t.highWater ∧ t.highWater ≤ maxSafe.toNat)
  let captures := t.captures.insertionSort fun a b => utf8 a.effect ≤ utf8 b.effect
  let records := t.records.insertionSort fun a b => a.selector ≤ b.selector
  let bytes := (captures.map CaptureRow.size).sum + (records.map AttestationRow.size).sum
  guard (bytes ≤ maxLogical)
  return ⟨asU64 t.highWater, t.sealBytes, captures, records, bytes⟩

section Check

variable (crates : Crates) (strict : Strict crates) (readers : Readers)

namespace Ledger

def captureBytes (row : CaptureRow) : List UInt8 :=
  Bincode.str row.effect ++ Bincode.str row.id ++ Bincode.bytes row.original

def recordBytes (row : AttestationRow) : List UInt8 :=
  Bincode.bytes row.selector ++ Bincode.str row.capture ++ Bincode.str row.parent ++
    Bincode.str row.envelopeHash ++ Bincode.bytes row.record ++ Bincode.str row.replay

def message (ledger : Ledger) (configuration : Bytes 32) : List UInt8 :=
  utf8 "frank.result.private-ledger.v1\x00" ++ configuration.val ++
    (crates.sha256 ([1] ++ Bincode.u64 ledger.floor ++ Bincode.vec captureBytes ledger.captures ++
      Bincode.vec recordBytes ledger.records)).val

/-- The body of the loop over the records. -/
def recordCheck (ledger : Ledger) (key : Bytes 32) (row : AttestationRow) : Option Unit := do
  checkStoredSelector crates readers row.selector row.capture row.parent
  guard (digest row.envelopeHash ∧ digest row.replay ∧ (row.parent ≠ "" → digest row.parent))
  let kept ← ledger.captures.find? (·.id = row.capture)
  let out ← Output.decode row.record
  out.ledgerCheck crates strict readers row.capture kept.effect kept.original (crates.publicKey key)
  guard (out.envelopeHash crates = row.envelopeHash ∧ out.replay crates readers = some row.replay ∧
    out.issued ≤ ledger.floor)

/-- `children.get(&(id, parent))` -/
def child (ledger : Ledger) (id parent : String) : Option String :=
  (ledger.records.find? fun row => row.capture = id ∧ row.parent = parent).map
    AttestationRow.envelopeHash

/-- The loop over the hashes of one capture. It stops when more than sixteen are visited, so that
seventeen turns are enough. -/
def walk (ledger : Ledger) (id : String) : ℕ → String → List String → Option (List String)
  | 0, _, _ => none
  | turns + 1, current, visited =>
    if current ∈ visited ∨ 16 ≤ visited.length then none
    else match ledger.child id current with
      | some next => ledger.walk id turns next (current :: visited)
      | none => some (current :: visited)

def ofCapture (ledger : Ledger) (id : String) : List AttestationRow :=
  ledger.records.filter (·.capture = id)

def chainCheck (ledger : Ledger) (id : String) : Option Unit := do
  let root ← ledger.child id ""
  let visited ← ledger.walk id 17 root []
  guard (visited.length = (ledger.ofCapture id).length)

/-- The maps and sets that the source fills while it walks are unique keys here. -/
def check (ledger : Ledger) (fresh : Bool) (key configuration : Bytes 32) : Option Unit :=
  if fresh ∧ ledger.floor = 0 ∧ ledger.sealBytes = [] ∧ ledger.captures = [] ∧
      ledger.records = [] then some ()
  else do
    let signature ← signatureFromSlice ledger.sealBytes
    guard (strict.verifyStrict (crates.publicKey key)
      (ledger.message crates configuration) signature)
    guard (ledger.floor ≠ 0)
    guard (∀ row ∈ ledger.captures, digest row.effect ∧ digest row.id)
    guard ((ledger.captures.map CaptureRow.effect).Nodup ∧
      (ledger.captures.map CaptureRow.id).Nodup)
    guard (∀ row ∈ ledger.records, ledger.recordCheck crates strict readers key row = some ())
    guard ((ledger.records.map AttestationRow.selector).Nodup ∧
      (ledger.records.map AttestationRow.replay).Nodup ∧
      (ledger.records.map AttestationRow.envelopeHash).Nodup ∧
      (ledger.records.map AttestationRow.edge).Nodup)
    guard (∀ row ∈ ledger.captures, ledger.chainCheck row.id = some ())

end Ledger

end Check

/-! ## Statements -/

/-- How a statement fails: without effect, with the loss of the open transaction, or after it took
effect. -/
inductive Fault where
  | refused | aborted | unreported
  deriving DecidableEq

/-- The database and its marker; a bootstrap that was cut short leaves a file no call accepts. -/
inductive File where
  | absent | unfinished
  | ready (tables : Tables)
  deriving DecidableEq

/-- What is durable, the open transaction, and the last clock reading of the call that holds the
lock. -/
structure Journal where
  file : File
  working : Option Tables
  reading : Option UInt64

inductive Cmd where
  | lock
  | connect (create : Bool)
  | begin
  | select
  | insertCapture (row : CaptureRow)
  | insertRecord (row : AttestationRow)
  | updateMeta (floor : UInt64) (sealBytes : List UInt8)
  | commit
  | rollback
  | close
  | physical
  | readClock
  | guard (out : Output)
  | make (floor : UInt64)

def Reply : Cmd → Type
  | .connect _ => Option Bool
  | .select => Option Tables
  | .readClock => UInt64
  | .make _ => Option Output
  | .lock | .begin | .insertCapture _ | .insertRecord _ | .updateMeta _ _ | .commit | .rollback
  | .close | .physical | .guard _ => Bool

/-- `held` is the outcome of the checks of held files, directories and locks. -/
structure Env where
  clock : UInt64
  held : Bool
  fault : Option Fault
  guard : Output → Bool
  make : UInt64 → Option Output

/-- A statement that changes the open transaction; `effect` is `none` when a constraint fails. -/
def update (env : Env) (w : Journal) (effect : Tables → Option Tables) : Bool × Journal :=
  match w.working with
  | none => (false, w)
  | some t => match env.fault with
    | some .refused => (false, w)
    | some .aborted => (false, { w with working := none })
    | some .unreported => (false, { w with working := effect t <|> some t })
    | none => match effect t with
      | none => (false, w)
      | some t' => (true, { w with working := some t' })

/-- `fresh` is reported when the call itself created the file. -/
def connect (env : Env) (w : Journal) (create : Bool) : Option Bool × Journal :=
  if env.held = false then (none, w)
  else match w.file with
    | .absent =>
      if create = false then (none, w)
      else match env.fault with
        | some .refused => (none, w)
        | some .aborted => (none, { w with file := .unfinished })
        | some .unreported => (none, { w with file := .ready .initial })
        | none => (some true, { w with file := .ready .initial })
    | .unfinished => (none, w)
    | .ready _ => (if env.fault = none then some false else none, w)

def exec (env : Env) (w : Journal) : (c : Cmd) → Reply c × Journal
  -- whoever takes the lock finds no transaction of an earlier holder
  | .lock => (env.held, if env.held then ⟨w.file, none, none⟩ else w)
  | .connect create => connect env w create
  | .begin => match w.file, w.working with
    | .ready t, none => match env.fault with
      | none => (true, { w with working := some t })
      | some .unreported => (false, { w with working := some t })
      | some .refused | some .aborted => (false, w)
    | _, _ => (false, w)
  | .select => match env.fault with
    | none => (w.working, w)
    | some .aborted => (none, { w with working := none })
    | some .refused | some .unreported => (none, w)
  | .insertCapture row => update env w (·.insertCapture row)
  | .insertRecord row => update env w (·.insertRecord row)
  | .updateMeta floor sealBytes => update env w fun t =>
    some { t with highWater := asI64 floor, sealBytes := sealBytes }
  | .commit => match w.working with
    | none => (false, w)
    | some t => match env.fault with
      | none => (true, { w with file := .ready t, working := none })
      | some .refused => (false, w)
      | some .aborted => (false, { w with working := none })
      | some .unreported => (false, { w with file := .ready t, working := none })
  | .rollback => match w.working with
    | none => (false, w)
    | some _ => match env.fault with
      | none => (true, { w with working := none })
      | some .refused => (false, w)
      | some .aborted | some .unreported => (false, { w with working := none })
  | .close => (env.fault.isNone, { w with working := none })
  | .physical => (env.held, w)
  | .readClock => (env.clock, { w with reading := some env.clock })
  | .guard out => (env.guard out, w)
  | .make floor => (env.make floor, w)

def machine : Machine Reply Journal Env := ⟨exec⟩

/-! ## The exchange -/

/-- The cells of `Clock` and the two flags of the call. -/
structure Session where
  floor : UInt64
  failed : Bool
  audited : Bool
  committed : Bool

def Session.new : Session := ⟨0, false, false, false⟩

/-- The capture as `StoredCapture` shows it, and the other arguments of a call. -/
structure Call where
  mode : FrankResultMode
  selector : List UInt8
  capture : CaptureRow
  parent : String
  key : Bytes 32
  configuration : Bytes 32

abbrev Step (α : Type) : Type := Act Reply Session α

/-- A statement whose failure ends the call. -/
def ensure (c : Cmd) (h : Reply c = Bool) : Step Unit := do
  let done ← Act.perform c
  Act.require (h ▸ done)

/-- A rollback whose outcome is ignored. -/
def rollback : Step Unit := do
  let _ ← Act.perform Cmd.rollback
  return ()

/-- What `sample` makes of the reading `n`. -/
def sampled (n : UInt64) : Step UInt64 := do
  let s ← Act.read
  if s.failed ∨ n = 0 ∨ maxSafe < n ∨ n < s.floor then do
    Act.write { s with failed := true }
    Act.fail
  else do
    Act.write { s with floor := n }
    return n

def sample : Step UInt64 := do
  let n : UInt64 ← Act.perform Cmd.readClock
  sampled n

def snapshot : Step Ledger := do
  let t : Option Tables ← Act.perform Cmd.select
  let t ← Act.expect t
  Act.expect t.snapshot

section Exchange

variable (crates : Crates) (strict : Strict crates) (readers : Readers) (call : Call)

def saveFloor (floor : UInt64) : Step Unit := do
  let state ← snapshot
  Act.require (state.floor ≤ floor)
  let signature := crates.sign call.key
    (Ledger.message crates { state with floor := floor } call.configuration)
  ensure (.updateMeta floor signature.val) rfl

namespace Call

def retained (ledger : Ledger) : Option CaptureRow :=
  ledger.captures.find? (·.effect = call.capture.effect)

def existing (ledger : Ledger) : Option AttestationRow :=
  ledger.records.find? fun row =>
    row.selector = call.selector ∧ row.capture = call.capture.id ∧ row.parent = call.parent

def row (out : Output) (replay : String) : AttestationRow where
  selector := call.selector
  capture := call.capture.id
  parent := call.parent
  envelopeHash := out.envelopeHash crates
  record := out.encode
  replay := replay

/-- What the call adds to the logical size. -/
def charge (out : Output) (replay : String) (ledger : Ledger) : ℕ :=
  (call.row crates out replay).size +
    if (call.retained ledger).isNone then call.capture.size else 0

end Call

/-- `Resume` reads the record of its selector. -/
def resumed (ledger : Ledger) : Step Output := do
  Act.require (call.retained ledger).isSome
  let row ← Act.expect (call.existing ledger)
  Act.expect (Output.decode row.record)

/-- The conditions of `Attest` and `Renew`. -/
def admitted (ledger : Ledger) : Step Unit := do
  Act.require ((call.existing ledger).isNone ∧ ledger.records.length < maxRows)
  if call.mode = .attest then
    Act.require (call.parent = "" ∧ (call.retained ledger).isNone)
  else do
    Act.require ((call.retained ledger).isSome ∧ call.parent ≠ "")
    let chain := ledger.ofCapture call.capture.id
    Act.require (chain.length < 16)
    let prior ← Act.expect (chain.find? (·.envelopeHash = call.parent))
    Act.require (chain.all (·.parent ≠ call.parent))
    let old ← Act.expect (Output.decode prior.record)
    ensure (.guard old) rfl

/-- `make`, and the rows that keep its output. -/
def recorded (ledger : Ledger) : Step Output := do
  let n ← sample
  let made : Option Output ← Act.perform (Cmd.make n)
  let out ← Act.expect made
  let s ← Act.read
  Act.write { s with floor := max s.floor out.issued }
  ensure (.guard out) rfl
  let replay ← Act.expect (out.replay crates readers)
  Act.require (call.charge crates out replay ledger ≤ maxLogical - ledger.bytes)
  Act.whenever (call.retained ledger).isNone (ensure (.insertCapture call.capture) rfl)
  ensure (.insertRecord (call.row crates out replay)) rfl
  return out

def produced (ledger : Ledger) : Step Output :=
  if call.mode = .resume then resumed call ledger
  else do
    admitted call ledger
    recorded crates readers call ledger

def operation (fresh : Bool) : Step Output := do
  ensure .begin rfl
  let ledger ← snapshot
  Act.expect (ledger.check crates strict readers fresh call.key call.configuration)
  let s ← Act.read
  Act.write { s with floor := ledger.floor, audited := true }
  let _ ← sample
  Act.require ((call.retained ledger).all (· = call.capture))
  let out ← produced crates readers call ledger
  ensure (.guard out) rfl
  let finalTime ← sample
  Act.require (out.window finalTime)
  saveFloor crates call finalTime
  ensure .commit rfl
  let s ← Act.read
  Act.write { s with committed := true }
  return out

/-- The transaction that keeps the time a failed call has observed. -/
def resealed (fresh : Bool) (floor : UInt64) : Step Unit := do
  ensure .begin rfl
  let prior ← snapshot
  Act.expect (prior.check crates strict readers fresh call.key call.configuration)
  saveFloor crates call (max floor prior.floor)
  ensure .commit rfl

def recover (fresh : Bool) : Step Unit := do
  let rolledBack : Bool ← Act.perform Cmd.rollback
  let s ← Act.read
  Act.whenever (s.audited && rolledBack && !s.committed) do
    let saved ← Act.attempt (resealed crates strict readers call fresh s.floor)
    Act.whenever saved.isNone rollback

/-- The transaction that seals a clock reading made after the close. -/
def advanced (persisted now : UInt64) : Step Unit := do
  ensure .begin rfl
  let prior ← snapshot
  Act.expect (prior.check crates strict readers false call.key call.configuration)
  Act.require (prior.floor = persisted)
  saveFloor crates call now
  ensure .commit rfl

/-- The transaction on a connection of its own. -/
def reopened (persisted now : UInt64) : Step Unit := do
  let connected : Option Bool ← Act.perform (Cmd.connect false)
  let _ ← Act.expect connected
  let saved ← Act.attempt (advanced crates strict readers call persisted now)
  Act.whenever saved.isNone rollback
  let closed : Bool ← Act.perform Cmd.close
  Act.expect saved
  Act.require closed

def exported (out : Output) : ℕ → UInt64 → Step (List UInt8)
  | 0, _ => Act.fail
  | turns + 1, persisted => do
    ensure .physical rfl
    ensure (.guard out) rfl
    let now ← sample
    if now = persisted then do
      Act.require (out.window now)
      return out.envelope
    else do
      reopened crates strict readers call persisted now
      Act.require (out.window now)
      exported out turns now

def exchange : Step (List UInt8) := do
  ensure .lock rfl
  let connected : Option Bool ← Act.perform (Cmd.connect (call.mode = .attest))
  let fresh ← Act.expect connected
  let operated ← Act.attempt (operation crates strict readers call fresh)
  Act.whenever operated.isNone (recover crates strict readers call fresh)
  let closed : Bool ← Act.perform Cmd.close
  let out ← Act.expect operated
  Act.require closed
  let s ← Act.read
  exported crates strict readers call out 3 s.floor

/-- A whole call: its result and the cells it leaves. -/
def exchangeProgram : Prog Reply (Option (List UInt8) × Session) :=
  exchange crates strict readers call .new

end Exchange

end FrankJournal
