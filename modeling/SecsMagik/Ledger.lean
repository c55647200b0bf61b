import SecsMagik.Receipts
import SecsMagik.UniqueTable

/-! # The ledger tables

The SQLite tables the router writes, and what one statement does to them. Timestamps are stored
in signed 64-bit columns.
-/
namespace Ledger

open RustStd
open ExternalCrates (Crates)
open CallContext ScopedNullifier
open Receipts (Receipt ReceiptEventKind)
open UniqueTable

/-- `UNIQUE(session_id, opcode, nonce, replay_scope)` -/
structure ReplayKey where
  sessionId : Bytes 16
  opcode : UInt8
  nonce : Bytes 12
  replayScope : String
  deriving DecidableEq

structure ReplayReservation where
  reservedAt : ℤ
  expiresAt : ℤ
  key : ReplayKey
  packetHash : Bytes 32
  contextId : String
  signerKeyId : String
  deriving DecidableEq

/-- `UNIQUE(domain_fingerprint, commitment_storage_hash)` -/
structure ScopedUseKey where
  domainFingerprint : String
  commitmentStorageHash : String
  deriving DecidableEq

structure ScopedNullifierUse where
  recordedAt : ℤ
  key : ScopedUseKey
  commitmentFingerprint : String
  contextId : String
  operation : String
  resourceKind : ResourceKind
  domainVersion : String
  deriving DecidableEq

/-- The columns of a portable-authority reservation that pruning and its unique index read. -/
structure DevgraphReservation where
  expiresAt : ℤ
  sessionId : Bytes 16
  operation : String
  nonce : Bytes 12
  deriving DecidableEq

def DevgraphReservation.key (r : DevgraphReservation) : Bytes 16 × String × Bytes 12 :=
  (r.sessionId, r.operation, r.nonce)

structure AuditEvent where
  timestamp : ℤ
  eventKind : ReceiptEventKind
  packetHash : Option (Bytes 32)
  opcode : Option UInt8
  operation : Option String
  handlerId : Option String
  reason : Option String
  deriving DecidableEq

structure TelemetryRow where
  opcode : UInt8
  payloadSize : ℕ
  operation : String
  deriving DecidableEq

structure Tables where
  events : List AuditEvent
  receipts : Table Receipt.receiptId
  replayReservations : Table ReplayReservation.key
  devgraphReservations : Table DevgraphReservation.key
  scopedNullifierUses : Table ScopedNullifierUse.key
  telemetry : List TelemetryRow

def Tables.empty : Tables where
  events := []
  receipts := .empty _
  replayReservations := .empty _
  devgraphReservations := .empty _
  scopedNullifierUses := .empty _
  telemetry := []

/-! ## Rows -/

def replayKey (context : VerifiedCallContext) : ReplayKey :=
  ⟨context.sessionId, context.opcode, context.nonce, context.replayScope⟩

/-- The row `reserve_replay` binds for a context. -/
def replayReservation (context : VerifiedCallContext) (signerKeyId : String)
    (reservedAt : UInt64) : ReplayReservation where
  reservedAt := asI64 reservedAt
  expiresAt := asI64 context.expiresAt
  key := replayKey context
  packetHash := context.packetHash
  contextId := context.contextId
  signerKeyId := signerKeyId

def scopedUseKey (crates : Crates) (evidence : ScopedNullifierEvidence) : ScopedUseKey :=
  ⟨evidence.domain.fingerprint crates, evidence.commitment.storageHash crates⟩

/-- The row `record_scoped_nullifier_use` binds. -/
def scopedNullifierUse (crates : Crates) (evidence : ScopedNullifierEvidence)
    (context : VerifiedCallContext) (recordedAt : UInt64) : ScopedNullifierUse where
  recordedAt := asI64 recordedAt
  key := scopedUseKey crates evidence
  commitmentFingerprint := evidence.commitment.fingerprint crates
  contextId := context.contextId
  operation := context.operation
  resourceKind := evidence.domain.resourceKind
  domainVersion := evidence.domain.domainVersion

/-! ## Statements -/

inductive Statement where
  | applySchema
  | deleteExpiredReplay (cutoff : ℤ)
  | deleteExpiredDevgraph (cutoff : ℤ)
  | insertReplay (row : ReplayReservation)
  | insertScopedUse (row : ScopedNullifierUse)
  | insertEvent (event : AuditEvent)
  | insertTelemetry (row : TelemetryRow)
  | insertReceiptWithEvent (receipt : Receipt) (event : AuditEvent)
  deriving DecidableEq

namespace Tables

/-- `DELETE FROM replay_reservations WHERE expires_at < ?` -/
def deleteExpiredReplay (w : Tables) (cutoff : ℤ) : Option ℕ × Tables :=
  let deleted := w.replayReservations.deleteWhere (·.expiresAt < cutoff)
  (some deleted.1, { w with replayReservations := deleted.2 })

/-- `DELETE FROM devgraph_authority_replay_reservations WHERE expires_at <= ?` -/
def deleteExpiredDevgraph (w : Tables) (cutoff : ℤ) : Option ℕ × Tables :=
  let deleted := w.devgraphReservations.deleteWhere (·.expiresAt ≤ cutoff)
  (some deleted.1, { w with devgraphReservations := deleted.2 })

def insertReplay (w : Tables) (row : ReplayReservation) : Option ℕ × Tables :=
  let inserted := w.replayReservations.insertOrIgnore row
  (some inserted.1, { w with replayReservations := inserted.2 })

def insertScopedUse (w : Tables) (row : ScopedNullifierUse) : Option ℕ × Tables :=
  let inserted := w.scopedNullifierUses.insertOrIgnore row
  (some inserted.1, { w with scopedNullifierUses := inserted.2 })

def insertEvent (w : Tables) (event : AuditEvent) : Option ℕ × Tables :=
  (some 1, { w with events := w.events ++ [event] })

def insertTelemetry (w : Tables) (row : TelemetryRow) : Option ℕ × Tables :=
  (some 1, { w with telemetry := w.telemetry ++ [row] })

/-- One transaction: a receipt id that is already taken fails the plain `INSERT` and nothing of
the transaction remains. -/
def insertReceiptWithEvent (w : Tables) (receipt : Receipt) (event : AuditEvent) :
    Option ℕ × Tables :=
  let inserted := w.receipts.insertOrIgnore receipt
  if inserted.1 = 0 then (none, w)
  else (some 1, { w with receipts := inserted.2, events := w.events ++ [event] })

/-- The rows affected, or `none` for a violated constraint, and the tables after a statement. -/
def apply (w : Tables) : Statement → Option ℕ × Tables
  | .applySchema => (some 0, w)
  | .deleteExpiredReplay cutoff => w.deleteExpiredReplay cutoff
  | .deleteExpiredDevgraph cutoff => w.deleteExpiredDevgraph cutoff
  | .insertReplay row => w.insertReplay row
  | .insertScopedUse row => w.insertScopedUse row
  | .insertEvent event => w.insertEvent event
  | .insertTelemetry row => w.insertTelemetry row
  | .insertReceiptWithEvent receipt event => w.insertReceiptWithEvent receipt event

theorem mem_deleteExpiredReplay {w : Tables} {cutoff : ℤ} {row : ReplayReservation} :
    row ∈ (w.deleteExpiredReplay cutoff).2.replayReservations.rows ↔
      row ∈ w.replayReservations.rows ∧ cutoff ≤ row.expiresAt := by
  simp [deleteExpiredReplay, Table.mem_deleteWhere]

end Tables

end Ledger
