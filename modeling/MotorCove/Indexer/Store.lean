import Mathlib.Data.List.Sort
import MotorCove.Table
import MotorCove.Indexer.Projections

/-!
# The projection store

The tables of one deployment and every operation of the store on them. An
operation that runs in a transaction keeps the tables when it fails; some
failures then change the runtime status. Hashes are stored in lower case and
looked up as given. Clock columns, which nothing reads, are left out, and a
JSON column holds a value of its shape or a text that does not parse.
-/

set_option autoImplicit false

namespace MotorCove.Indexer
open MotorCove.Text MotorCove.Fallible

structure BlockRow where
  blockHash : String
  blockNumber : ℕ
  parentHash : String
  blockTimestamp : ℕ
  isCanonical : Bool
  scanComplete : Bool
  logScopeHash : String
  observedLogCount : ℕ
  observedLogDigest : String
  deriving DecidableEq, Repr

structure EventRow where
  blockNumber : ℕ
  blockHash : String
  transactionHash : String
  transactionIndex : ℕ
  logIndex : ℕ
  contractAddress : String
  topicsJson : JsonText (List String)
  data : String
  rawEnvelopeDigest : String
  decodedJson : JsonText NormalizedEvent
  decoderVersion : String
  sourceRecordDigest : Option String
  deriving DecidableEq, Repr

/-- The raw log of a row, without topics where their text does not parse. -/
def EventRow.toEnvelope (r : EventRow) : Envelope where
  blockNumber := r.blockNumber
  blockHash := r.blockHash
  transactionHash := r.transactionHash
  transactionIndex := r.transactionIndex
  logIndex := r.logIndex
  contractAddress := r.contractAddress
  topics := r.topicsJson.parse?.getD []
  data := r.data

theorem before_rows {a b : EventRow} : Before a.toEnvelope b.toEnvelope ↔
    a.blockNumber < b.blockNumber ∨ a.blockNumber = b.blockNumber ∧
      (a.transactionIndex < b.transactionIndex ∨ a.transactionIndex = b.transactionIndex ∧
        a.logIndex ≤ b.logIndex) := Iff.rfl

/-- The event that a row is read back as. -/
def EventRow.ordered? (r : EventRow) : Option OrderedEvent :=
  match r.topicsJson.parse?, r.decodedJson.parse? with
  | some _, some event => some { r.toEnvelope with event }
  | _, _ => none

def EventRow.key (r : EventRow) : String × ℕ := (r.blockHash, r.logIndex)

inductive ProjectionStatus where
  | uninitialized
  | syncing
  | current
  | stale
  | rebuildRequired
  | rebuilding
  | recoveryRequired
  deriving DecidableEq, Repr

structure RuntimeStatus where
  projectionStatus : ProjectionStatus
  recoveryReason : Option String
  lastObservedHead : Option ℕ
  lastEligibleHead : Option ℕ
  deriving DecidableEq, Repr

/-- The checkpoint's block and hash are null together. -/
structure Checkpoint where
  lastScanned : Option (ℕ × String)
  projectorVersion : String
  projectionBuildId : String
  logScopeHash : String
  deriving DecidableEq, Repr

structure Database where
  scanStartBlock : ℕ
  indexedBlocks : Table BlockRow BlockRow.blockHash
  chainEvents : Table EventRow EventRow.key
  projections : Projections
  checkpoint : Checkpoint
  runtimeStatus : RuntimeStatus

inductive CommitFaultPoint where
  | beforeBegin
  | afterEventWrites
  | beforeCommit
  | afterCommit
  deriving DecidableEq, Repr

structure ProjectionMaintenanceOptions where
  supportedProjectorVersions : List String
  allowLogScopeChange : Bool
  allowReindexRecovery : Bool

structure SqliteProjectionStore where
  collectionAddress : String
  logScopeHash : String
  commitFaultHook : CommitFaultPoint → Bool
  sourceScopeChanged : Bool
  allowReindexRecovery : Bool

/-- The constructor. -/
def SqliteProjectionStore.open (collectionAddress logScopeHash : String)
    (commitFaultHook : CommitFaultPoint → Bool) (maintenance : Option ProjectionMaintenanceOptions)
    (db : Database) : Except StoreError SqliteProjectionStore := do
  let supported := maintenance.any fun m =>
    m.supportedProjectorVersions.contains db.checkpoint.projectorVersion
  let projectorMatches := db.checkpoint.projectorVersion = projectorVersion ∨ supported = true
  let scopeMatches := db.checkpoint.logScopeHash = logScopeHash ∨
    (maintenance.any fun m => m.allowLogScopeChange) = true
  failIf (¬projectorMatches ∨ ¬scopeMatches)
    (if maintenance.isSome then .maintenanceContractUnsupported else .projectionContractMismatch)
  .ok { collectionAddress, logScopeHash, commitFaultHook
        sourceScopeChanged := db.checkpoint.logScopeHash ≠ logScopeHash
        allowReindexRecovery := maintenance.any fun m => m.allowReindexRecovery }

def registered (scanStartBlock : ℕ) (projectionBuildId logScopeHash : String) : Database where
  scanStartBlock := scanStartBlock
  indexedBlocks := .empty _
  chainEvents := .empty _
  projections := noProjections
  checkpoint := ⟨none, projectorVersion, projectionBuildId, logScopeHash⟩
  runtimeStatus := ⟨.uninitialized, none, none, none⟩

/-- The conditions most queries share. -/
def BlockRow.canonical (b : BlockRow) : Bool := b.isCanonical && b.scanComplete

def checkpoint (db : Database) : Except StoreError (Option BlockHeader) :=
  match db.checkpoint.lastScanned with
  | none => .ok none
  | some (number, hash) =>
    match db.indexedBlocks.rows.find? fun b => b.blockHash = hash ∧ b.canonical = true with
    | none => .error .checkpointBlockMissing
    | some block => .ok (some ⟨number, hash, block.parentHash, block.blockTimestamp⟩)

def Database.setStatus (db : Database) (status : RuntimeStatus) : Database :=
  { db with runtimeStatus := status }

def markRecoveryRequired (reason : String) (db : Database) : Database :=
  db.setStatus { db.runtimeStatus with
    projectionStatus := .recoveryRequired, recoveryReason := some reason }

def markStale (reason : String) (db : Database) : Database :=
  if db.runtimeStatus.projectionStatus = .recoveryRequired then db
  else db.setStatus { db.runtimeStatus with
    projectionStatus := .stale, recoveryReason := some reason }

def headChecks (head eligibleHead : ℕ) : List (String × Bool) :=
  [("runtime_head_check", safeInteger head), ("runtime_eligible_head_check", safeInteger eligibleHead)]

def observe (head eligibleHead : ℕ) (db : Database) : Except StoreError Database := do
  checkAll (headChecks head eligibleHead)
  let status := db.runtimeStatus.projectionStatus
  .ok (db.setStatus { db.runtimeStatus with
    projectionStatus := if status = .uninitialized ∨ status = .stale then .syncing else status
    lastObservedHead := some head
    lastEligibleHead := some eligibleHead })

def markCurrent (observedHead eligibleHead : ℕ) (db : Database) : Except StoreError Database :=
  let status := db.runtimeStatus.projectionStatus
  if status = .current ∨ status = .stale ∨ status = .syncing then do
    checkAll (headChecks observedHead eligibleHead)
    .ok (db.setStatus ⟨.current, none, some observedHead, some eligibleHead⟩)
  else .ok db

def hasCanonicalBlock (number : ℕ) (hash : String) (db : Database) : Bool :=
  db.indexedBlocks.rows.any fun b =>
    b.blockNumber = number ∧ b.blockHash = lower hash ∧ b.canonical = true

def completeReindexRecovery (store : SqliteProjectionStore) (targetNumber : ℕ)
    (targetHash : String) (db : Database) : Except StoreError Database := do
  failIf (store.allowReindexRecovery = false) .reindexMaintenanceRequired
  match db.checkpoint.lastScanned with
  | none => .error .reindexCatchupIncomplete
  | some (number, _) =>
    failIf (number < targetNumber ∨ hasCanonicalBlock targetNumber targetHash db = false)
      .reindexCatchupIncomplete
    .ok (db.setStatus { db.runtimeStatus with projectionStatus := .syncing, recoveryReason := none })

/-- Journal order; events of one block compare by transaction and log. -/
def sortEvents (events : List OrderedEvent) : List OrderedEvent :=
  events.insertionSort fun a b => Before a.toEnvelope b.toEnvelope

section
variable (evidenceDigest : Evidence → String)

/-- `UPDATE indexed_blocks SET is_canonical=1,scan_complete=1`, and the unique
index on the numbers of canonical blocks. -/
def recanonicalize (hash : String) (db : Database) : Except StoreError Database := do
  failIf (∃ b ∈ db.indexedBlocks.rows, b.blockHash = hash ∧ b.isCanonical = false ∧
    ∃ c ∈ db.indexedBlocks.rows, c.isCanonical = true ∧ c.blockNumber = b.blockNumber)
    (.constraint "indexed_blocks_canonical_number")
  .ok { db with
    indexedBlocks := db.indexedBlocks.update
      (fun b => if b.blockHash = hash then { b with isCanonical := true, scanComplete := true }
        else b)
      (fun b => by split <;> rfl) }

def BlockRow.checks (b : BlockRow) : List (String × Bool) :=
  [("indexed_block_number_check", safeInteger b.blockNumber),
    ("indexed_block_timestamp_check", safeInteger b.blockTimestamp),
    ("indexed_block_log_count_check", safeInteger b.observedLogCount),
    ("indexed_block_hash_check", hexLength b.blockHash 64)]

def insertBlock (row : BlockRow) (db : Database) : Except StoreError Database := do
  checkAll row.checks
  failIf (row.isCanonical = true ∧
    ∃ b ∈ db.indexedBlocks.rows, b.isCanonical = true ∧ b.blockNumber = row.blockNumber)
    (.constraint "indexed_blocks_canonical_number")
  match db.indexedBlocks.insert? row with
  | none => .error (.constraint "indexed_blocks_pk")
  | some indexedBlocks => .ok { db with indexedBlocks }

def blockRow (store : SqliteProjectionStore) (header : BlockHeader)
    (blockEvents : List OrderedEvent) : BlockRow where
  blockHash := lower header.hash
  blockNumber := header.number
  parentHash := lower header.parentHash
  blockTimestamp := header.timestamp
  isCanonical := true
  scanComplete := true
  logScopeHash := store.logScopeHash
  observedLogCount := blockEvents.length
  observedLogDigest := observedLogDigest evidenceDigest (blockEvents.map OrderedEvent.toEnvelope)

/-- One header of a commit, with the set of blocks that became canonical again. -/
def commitHeader (store : SqliteProjectionStore) (events : List OrderedEvent)
    (state : Database × List String) (header : BlockHeader) :
    Except StoreError (Database × List String) := do
  let (db, recanonicalized) := state
  let blockEvents := sortEvents (events.filter fun e => e.blockNumber = header.number)
  let row := blockRow evidenceDigest store header blockEvents
  match db.indexedBlocks.find? header.hash with
  | some existing =>
    failIf (existing.observedLogCount ≠ row.observedLogCount
      ∨ existing.observedLogDigest ≠ row.observedLogDigest
      ∨ existing.logScopeHash ≠ store.logScopeHash
      ∨ existing.parentHash ≠ header.parentHash) .completedBlockContentMismatch
    if existing.isCanonical = true then .ok (db, recanonicalized)
    else do
      let db ← recanonicalize (lower header.hash) db
      .ok (db, lower header.hash :: recanonicalized)
  | none => do
    let db ← insertBlock row db
    .ok (db, recanonicalized)

def eventRow (ordered : OrderedEvent) : EventRow where
  blockNumber := ordered.blockNumber
  blockHash := lower ordered.blockHash
  transactionHash := lower ordered.transactionHash
  transactionIndex := ordered.transactionIndex
  logIndex := ordered.logIndex
  contractAddress := lower ordered.contractAddress
  topicsJson := .json (ordered.topics.map lower)
  data := lower ordered.data
  decodedJson := .json ordered.event
  rawEnvelopeDigest := rawEnvelopeDigest evidenceDigest ordered.toEnvelope
  decoderVersion := decoderVersion
  sourceRecordDigest := some (sourceRecordDigest evidenceDigest ordered)

@[simp] theorem toEnvelope_eventRow (ordered : OrderedEvent) :
    (eventRow evidenceDigest ordered).toEnvelope = eventEnvelope ordered.toEnvelope := rfl

@[simp] theorem ordered?_eventRow (ordered : OrderedEvent) :
    (eventRow evidenceDigest ordered).ordered? =
      some { eventEnvelope ordered.toEnvelope with event := ordered.event } := rfl

def EventRow.checks (r : EventRow) : List (String × Bool) :=
  [("event_block_number_check", safeInteger r.blockNumber),
    ("event_tx_index_check", safeInteger r.transactionIndex),
    ("event_log_index_check", safeInteger r.logIndex),
    ("event_contract_address_check", hexLength r.contractAddress 40),
    ("event_block_hash_check", hexLength r.blockHash 64),
    ("event_tx_hash_check", hexLength r.transactionHash 64)]

def insertEvent (row : EventRow) (db : Database) : Except StoreError Database := do
  checkAll row.checks
  match db.chainEvents.insert? row with
  | none => .error (.constraint "chain_events_pk")
  | some chainEvents => .ok { db with chainEvents }

def applyToTables (store : SqliteProjectionStore) (ordered : OrderedEvent) (db : Database) :
    Except StoreError Database := do
  let projections ← applyEvent store.collectionAddress ordered db.projections
  .ok { db with projections }

def recordEvent (store : SqliteProjectionStore) (ordered : OrderedEvent) (applyExisting : Bool)
    (db : Database) : Except StoreError Database := do
  let row := eventRow evidenceDigest ordered
  match db.chainEvents.find? (ordered.blockHash, ordered.logIndex) with
  | some existing =>
    failIf (existing.rawEnvelopeDigest ≠ row.rawEnvelopeDigest
      ∨ existing.decodedJson ≠ row.decodedJson
      ∨ existing.decoderVersion ≠ row.decoderVersion
      ∨ existing.sourceRecordDigest ≠ row.sourceRecordDigest) .eventIdentityContentMismatch
    if applyExisting = true then applyToTables store ordered db else .ok db
  | none => do
    let db ← insertEvent row db
    applyToTables store ordered db

def setCheckpoint (header : BlockHeader) (db : Database) : Except StoreError Database := do
  checkAll [("checkpoint_block_check", safeInteger header.number),
    ("checkpoint_hash_check", hexLength (lower header.hash) 64)]
  .ok { db with checkpoint := { db.checkpoint with
    lastScanned := some (header.number, lower header.hash) } }

def recordEvents (store : SqliteProjectionStore) (recanonicalized : List String)
    (events : List OrderedEvent) (db : Database) : Except StoreError Database :=
  events.foldlM (fun db ordered => recordEvent evidenceDigest store ordered
    (recanonicalized.contains (lower ordered.blockHash)) db) db

/-- The body of the transaction. -/
def commitTransaction (store : SqliteProjectionStore) (headers : List BlockHeader)
    (events : List OrderedEvent) (checkpoint : BlockHeader) (db : Database) :
    Except StoreError Database := do
  failIf (db.runtimeStatus.projectionStatus = .recoveryRequired ∧
      store.allowReindexRecovery = false)
    (.recoveryRequired (db.runtimeStatus.recoveryReason.getD "UNKNOWN"))
  let (db, recanonicalized) ←
    headers.foldlM (commitHeader evidenceDigest store events) (db, [])
  let db ← recordEvents evidenceDigest store recanonicalized events db
  failIf (store.commitFaultHook .afterEventWrites = true) .fault
  let db ← setCheckpoint checkpoint db
  failIf (store.commitFaultHook .beforeCommit = true) .fault
  .ok db

def commit (store : SqliteProjectionStore) (headers : List BlockHeader)
    (events : List OrderedEvent) (checkpoint : BlockHeader) (db : Database) :
    Except StoreError Unit × Database :=
  if store.commitFaultHook .beforeBegin = true then (.error .fault, db)
  else
    match commitTransaction evidenceDigest store headers events checkpoint db with
    | .ok db =>
      (if store.commitFaultHook .afterCommit = true then .error .fault else .ok (), db)
    | .error (.commitIntegrity ordered cause) =>
      (.error (.commitIntegrity ordered cause), markRecoveryRequired "PROJECTOR_INTEGRITY" db)
    | .error e => (.error e, db)

end

def markReindexStarted (store : SqliteProjectionStore) (reason : String) (db : Database) :
    Database :=
  if store.allowReindexRecovery = true ∧ db.runtimeStatus.projectionStatus = .recoveryRequired then
    db
  else db.setStatus { db.runtimeStatus with
    projectionStatus := .rebuildRequired, recoveryReason := some reason }

def previousBlock (blockNumber : ℕ) (blocks : List BlockRow) : Option BlockRow :=
  ((blocks.filter fun b => b.canonical && decide (b.blockNumber < blockNumber)).insertionSort
    fun a b => b.blockNumber ≤ a.blockNumber).head?

def rewindFrom (store : SqliteProjectionStore) (blockNumber : ℕ) (db : Database) : Database :=
  let indexedBlocks := db.indexedBlocks.update
    (fun b => if blockNumber ≤ b.blockNumber ∧ b.isCanonical = true then
      { b with isCanonical := false } else b)
    (fun b => by split <;> rfl)
  let previous := previousBlock blockNumber indexedBlocks.rows
  markReindexStarted store "REINDEX_REQUESTED" { db with
    indexedBlocks
    checkpoint := { db.checkpoint with
      lastScanned := previous.map fun b => (b.blockNumber, b.blockHash) } }

section
variable (evidenceDigest : Evidence → String)

/-- An event row can be read back, and its digests agree with its content. -/
def intactRow (r : EventRow) : Bool :=
  match r.ordered? with
  | none => false
  | some ordered =>
    r.decoderVersion = decoderVersion ∧
      r.rawEnvelopeDigest = rawEnvelopeDigest evidenceDigest ordered.toEnvelope ∧
      r.sourceRecordDigest = some (sourceRecordDigest evidenceDigest ordered)

def blockEvents (hash : String) (db : Database) : List EventRow :=
  (db.chainEvents.rows.filter fun e => e.blockHash = hash).insertionSort fun a b =>
    a.transactionIndex < b.transactionIndex ∨
      a.transactionIndex = b.transactionIndex ∧ a.logIndex ≤ b.logIndex

def hasSourceContentMismatch (db : Database) : Bool :=
  (db.chainEvents.rows.any fun r => !intactRow evidenceDigest r) ||
    (db.indexedBlocks.rows.filter BlockRow.scanComplete).any fun b =>
      let events := blockEvents b.blockHash db
      decide (b.observedLogCount < events.length) ||
        (decide (events.length = b.observedLogCount) &&
          observedLogDigest evidenceDigest (events.map fun e => e.toEnvelope) !=
            b.observedLogDigest)

def requiresSourceRefresh (store : SqliteProjectionStore) (db : Database) : Bool :=
  store.sourceScopeChanged || hasSourceContentMismatch evidenceDigest db

def deleteSource (store : SqliteProjectionStore) (db : Database) : Database :=
  markReindexStarted store "SOURCE_REFRESH_REINDEX_REQUESTED" { db with
    chainEvents := .empty _
    indexedBlocks := .empty _
    checkpoint := { db.checkpoint with lastScanned := none } }

def prepareForReindex (store : SqliteProjectionStore) (blockNumber : ℕ)
    (verifiedBackupId : Option String) (db : Database) : Except StoreError Database := do
  if requiresSourceRefresh evidenceDigest store db = true then do
    failIf (verifiedBackupId.getD "" = "") .sourceRefreshArchiveRequired
    failIf (db.scanStartBlock ≠ blockNumber) .sourceRefreshMustStartAtDeployment
    .ok (deleteSource store db)
  else .ok (rewindFrom store blockNumber db)

/-- One block of the rebuild source, with the block below it. -/
def verifyBlock (db : Database) (expectedNumber : ℕ) (previous : Option BlockRow)
    (block : BlockRow) : Except StoreError Unit := do
  failIf (block.blockNumber ≠ expectedNumber ∨
    (previous.any fun p => block.parentHash != p.blockHash) = true)
    (.rebuildSourceIncomplete "canonical continuity")
  let rows := blockEvents block.blockHash db
  failIf (∃ r ∈ rows, r.ordered? = none) (.rebuildSourceIncomplete "event encoding")
  failIf (rows.length ≠ block.observedLogCount
    ∨ observedLogDigest evidenceDigest (rows.map fun e => e.toEnvelope) ≠ block.observedLogDigest
    ∨ (rows.any fun r => !intactRow evidenceDigest r) = true)
    (.rebuildSourceIncomplete "event evidence")

def verifyBlocks (db : Database) (expectedNumber : ℕ) (previous : Option BlockRow) :
    List BlockRow → Except StoreError Unit
  | [] => .ok ()
  | block :: rest => do
    verifyBlock evidenceDigest db expectedNumber previous block
    verifyBlocks db (expectedNumber + 1) (some block) rest

/-- The canonical blocks up to a number, in the order of their numbers. -/
def canonicalBlocks (last : ℕ) (db : Database) : List BlockRow :=
  (db.indexedBlocks.rows.filter fun b => b.canonical && decide (b.blockNumber ≤ last)).insertionSort
    fun a b => a.blockNumber ≤ b.blockNumber

def verifyRebuildSource (db : Database) : Except StoreError Unit :=
  match db.checkpoint.lastScanned with
  | none =>
    failIf (∃ b ∈ db.indexedBlocks.rows, b.isCanonical = true)
      (.rebuildSourceIncomplete "checkpoint coverage")
  | some (number, hash) => do
    let blocks := canonicalBlocks number db
    failIf (number < db.scanStartBlock ∨ blocks.length ≠ number - db.scanStartBlock + 1
      ∨ blocks.head?.map BlockRow.blockNumber ≠ some db.scanStartBlock
      ∨ blocks.getLast?.map BlockRow.blockHash ≠ some hash)
      (.rebuildSourceIncomplete "canonical coverage")
    verifyBlocks evidenceDigest db db.scanStartBlock none blocks

/-- The event rows of the canonical blocks in journal order. -/
def canonicalRows (db : Database) : List EventRow :=
  (db.chainEvents.rows.filter fun e => db.indexedBlocks.rows.any fun b =>
    b.blockHash = e.blockHash ∧ b.canonical = true).insertionSort fun a b =>
      Before a.toEnvelope b.toEnvelope

def canonicalEvents (db : Database) : List OrderedEvent :=
  (canonicalRows db).filterMap EventRow.ordered?

/-- One row of a rebuild: its columns are parsed, then its event is applied. -/
def applyRow (collectionAddress : String) (projections : Projections) (r : EventRow) :
    Except StoreError Projections :=
  match r.ordered? with
  | none => .error .jsonSyntax
  | some ordered => applyEvent collectionAddress ordered projections

/-- The transaction of a rebuild: the projection tables are emptied and filled again. -/
def rebuildTransaction (store : SqliteProjectionStore) (projectionBuildId : String)
    (preserveRecoveryBarrier : Bool) (db : Database) : Except StoreError (ℕ × Database) := do
  let rows := canonicalRows db
  let projections ← rows.foldlM (applyRow store.collectionAddress) noProjections
  let db := { db with
    projections
    checkpoint := { db.checkpoint with
      projectorVersion := projectorVersion, projectionBuildId, logScopeHash := store.logScopeHash } }
  .ok (rows.length,
    if preserveRecoveryBarrier = true then db
    else db.setStatus { db.runtimeStatus with
      projectionStatus := .current, recoveryReason := none })

def rebuildFromJournal (store : SqliteProjectionStore) (projectionBuildId : String)
    (db : Database) : Except StoreError ℕ × Database :=
  let preserveRecoveryBarrier := store.allowReindexRecovery &&
    db.runtimeStatus.projectionStatus == .recoveryRequired
  let result := do
    verifyRebuildSource evidenceDigest db
    rebuildTransaction store projectionBuildId preserveRecoveryBarrier db
  match result with
  | .ok (events, db) => (.ok events, db)
  | .error (.rebuildSourceIncomplete detail) =>
    (.error (.rebuildSourceIncomplete detail), markRecoveryRequired "REBUILD_SOURCE_INCOMPLETE" db)
  | .error e => (.error e, markRecoveryRequired "REBUILD_FAILED" db)

variable {evidenceDigest}

theorem recanonicalize_ok {hash : String} {db db' : Database} (h : recanonicalize hash db = .ok db') :
    ∃ t : Table BlockRow BlockRow.blockHash, db' = { db with indexedBlocks := t } ∧
      t.rows = db.indexedBlocks.rows.map fun b =>
        if b.blockHash = hash then { b with isCanonical := true, scanComplete := true } else b := by
  simp only [recanonicalize, failIf_bind_ok, Except.ok.injEq] at h
  exact ⟨_, h.2.symm, rfl⟩

theorem insertBlock_ok {row : BlockRow} {db db' : Database} (h : insertBlock row db = .ok db') :
    (∀ b ∈ db.indexedBlocks.rows, b.blockHash ≠ row.blockHash) ∧
      ∃ t : Table BlockRow BlockRow.blockHash, db' = { db with indexedBlocks := t } ∧
        t.rows = db.indexedBlocks.rows ++ [row] := by
  simp only [insertBlock, failIf_ok, exists_const, bind_ok] at h
  obtain ⟨_, _, _, h⟩ := h
  split at h
  · cases h
  · rename_i t ht
    obtain ⟨hnew, hrows⟩ := Table.insert?_some.mp ht
    exact ⟨hnew, t, (Except.ok.inj h).symm, hrows⟩

theorem commitHeader_ok {store : SqliteProjectionStore} {events : List OrderedEvent}
    {db db' : Database} {rc rc' : List String} {header : BlockHeader}
    (h : commitHeader evidenceDigest store events (db, rc) header = .ok (db', rc')) :
    (∃ b ∈ db.indexedBlocks.rows, b.blockHash = header.hash ∧ b.isCanonical = true ∧
      db' = db ∧ rc' = rc) ∨
    (∃ b ∈ db.indexedBlocks.rows, b.blockHash = header.hash ∧ b.isCanonical = false ∧
      rc' = lower header.hash :: rc ∧ recanonicalize (lower header.hash) db = .ok db') ∨
    ((∀ b ∈ db.indexedBlocks.rows, b.blockHash ≠ header.hash) ∧ rc' = rc ∧
      insertBlock (blockRow evidenceDigest store header
        (sortEvents (events.filter fun e => e.blockNumber = header.number))) db = .ok db') := by
  simp only [commitHeader] at h
  split at h
  · rename_i b hb
    obtain ⟨hmem, hhash⟩ := Table.find?_some.mp hb
    simp only [failIf_bind_ok] at h
    obtain ⟨_, h⟩ := h
    split at h
    · rename_i hc
      obtain ⟨rfl, rfl⟩ := Prod.mk.inj (Except.ok.inj h)
      exact .inl ⟨b, hmem, hhash, hc, rfl, rfl⟩
    · rename_i hc
      obtain ⟨db₁, hr, he⟩ := bind_ok.mp h
      obtain ⟨rfl, rfl⟩ := Prod.mk.inj (Except.ok.inj he)
      exact .inr (.inl ⟨b, hmem, hhash, Bool.not_eq_true _ ▸ hc, rfl, hr⟩)
  · rename_i hnone
    obtain ⟨db₁, hr, he⟩ := bind_ok.mp h
    obtain ⟨rfl, rfl⟩ := Prod.mk.inj (Except.ok.inj he)
    exact .inr (.inr ⟨Table.find?_none.mp hnone, rfl, hr⟩)

theorem applyToTables_ok {store : SqliteProjectionStore} {ordered : OrderedEvent}
    {db db' : Database} : applyToTables store ordered db = .ok db' ↔
      ∃ p, applyEvent store.collectionAddress ordered db.projections = .ok p ∧
        db' = { db with projections := p } := by
  simp only [applyToTables, bind_ok, Except.ok.injEq]
  exact exists_congr fun p => and_congr_right fun _ => eq_comm

/-- An event finds its row, and is applied again when asked; or it adds a row
and is applied. -/
theorem recordEvent_ok {store : SqliteProjectionStore} {ordered : OrderedEvent} {again : Bool}
    {db db' : Database} (h : recordEvent evidenceDigest store ordered again db = .ok db') :
    (∃ r ∈ db.chainEvents.rows, r.key = (ordered.blockHash, ordered.logIndex) ∧
      (again = true ∧ applyToTables store ordered db = .ok db' ∨ again = false ∧ db' = db)) ∨
    ((∀ r ∈ db.chainEvents.rows, r.key ≠ (ordered.blockHash, ordered.logIndex)) ∧
      ∃ t : Table EventRow EventRow.key,
        t.rows = db.chainEvents.rows ++ [eventRow evidenceDigest ordered] ∧
        applyToTables store ordered { db with chainEvents := t } = .ok db') := by
  simp only [recordEvent] at h
  split at h
  · rename_i r hr
    obtain ⟨hmem, hkey⟩ := Table.find?_some.mp hr
    simp only [failIf_bind_ok] at h
    obtain ⟨_, h⟩ := h
    refine .inl ⟨r, hmem, hkey, ?_⟩
    split at h
    · rename_i ha
      exact .inl ⟨ha, h⟩
    · rename_i ha
      exact .inr ⟨Bool.not_eq_true _ ▸ ha, (Except.ok.inj h).symm⟩
  · rename_i hnone
    refine .inr ⟨Table.find?_none.mp hnone, ?_⟩
    obtain ⟨db₁, hi, happly⟩ := bind_ok.mp h
    simp only [insertEvent, bind_ok] at hi
    obtain ⟨_, _, hi⟩ := hi
    split at hi
    · cases hi
    · rename_i t ht
      obtain rfl := Except.ok.inj hi
      exact ⟨t, (Table.insert?_some.mp ht).2, happly⟩

theorem setCheckpoint_ok {header : BlockHeader} {db db' : Database}
    (h : setCheckpoint header db = .ok db') : db' = { db with checkpoint := { db.checkpoint with
      lastScanned := some (header.number, lower header.hash) } } := by
  simp only [setCheckpoint, bind_ok, Except.ok.injEq] at h
  obtain ⟨_, _, h⟩ := h
  exact h.symm

theorem commitTransaction_ok {store : SqliteProjectionStore} {headers : List BlockHeader}
    {events : List OrderedEvent} {header : BlockHeader} {db db' : Database}
    (h : commitTransaction evidenceDigest store headers events header db = .ok db') :
    ∃ db₁ rc db₂,
      headers.foldlM (commitHeader evidenceDigest store events) (db, []) = .ok (db₁, rc) ∧
      recordEvents evidenceDigest store rc events db₁ = .ok db₂ ∧
      db' = { db₂ with checkpoint := { db₂.checkpoint with
        lastScanned := some (header.number, lower header.hash) } } := by
  simp only [commitTransaction, failIf_ok, exists_const, bind_ok, Except.ok.injEq,
    Prod.exists] at h
  obtain ⟨_, db₁, rc, hheaders, db₂, hevents, _, db₃, hcheckpoint, _, rfl⟩ := h
  exact ⟨db₁, rc, db₂, hheaders, hevents, setCheckpoint_ok hcheckpoint⟩

theorem commit_cases {store : SqliteProjectionStore} {headers : List BlockHeader}
    {events : List OrderedEvent} {header : BlockHeader} {db db' : Database}
    {result : Except StoreError Unit}
    (h : commit evidenceDigest store headers events header db = (result, db')) :
    commitTransaction evidenceDigest store headers events header db = .ok db' ∨
      ∃ status, db' = db.setStatus status := by
  unfold commit at h
  split at h
  · obtain ⟨_, rfl⟩ := Prod.mk.inj h
    exact .inr ⟨db.runtimeStatus, rfl⟩
  · split at h
    · rename_i hc
      obtain ⟨_, rfl⟩ := Prod.mk.inj h
      exact .inl hc
    · obtain ⟨_, rfl⟩ := Prod.mk.inj h
      exact .inr ⟨_, rfl⟩
    · obtain ⟨_, rfl⟩ := Prod.mk.inj h
      exact .inr ⟨db.runtimeStatus, rfl⟩

theorem commit_ok {store : SqliteProjectionStore} {headers : List BlockHeader}
    {events : List OrderedEvent} {header : BlockHeader} {db db' : Database} {u : Unit}
    (h : commit evidenceDigest store headers events header db = (.ok u, db')) :
    commitTransaction evidenceDigest store headers events header db = .ok db' := by
  unfold commit at h
  split at h
  · cases h
  · split at h
    · rename_i hc
      obtain ⟨_, rfl⟩ := Prod.mk.inj h
      exact hc
    · cases h
    · cases h

theorem commitHeader_frame {store : SqliteProjectionStore} {events : List OrderedEvent}
    {state state' : Database × List String} {header : BlockHeader}
    (h : commitHeader evidenceDigest store events state header = .ok state') :
    state'.1 = { state.1 with indexedBlocks := state'.1.indexedBlocks } := by
  rcases commitHeader_ok h with ⟨_, _, _, _, hdb, _⟩ | ⟨_, _, _, _, _, hr⟩ | ⟨_, _, hi⟩
  · rw [hdb]
  · obtain ⟨_, hdb, _⟩ := recanonicalize_ok hr
    rw [hdb]
  · obtain ⟨_, _, hdb, _⟩ := insertBlock_ok hi
    rw [hdb]

theorem commitHeaders_frame {store : SqliteProjectionStore} {events : List OrderedEvent}
    {state state' : Database × List String} {headers : List BlockHeader}
    (h : headers.foldlM (commitHeader evidenceDigest store events) state = .ok state') :
    state'.1 = { state.1 with indexedBlocks := state'.1.indexedBlocks } := by
  apply foldlM_invariant _ (fun s => s.1 = { state.1 with indexedBlocks := s.1.indexedBlocks })
    _ headers state state' rfl h
  intro header s t hs ht
  rw [commitHeader_frame ht, hs]

theorem recordEvent_frame {store : SqliteProjectionStore} {ordered : OrderedEvent}
    {again : Bool} {db db' : Database}
    (h : recordEvent evidenceDigest store ordered again db = .ok db') :
    db' = { db with chainEvents := db'.chainEvents, projections := db'.projections } := by
  rcases recordEvent_ok h with ⟨_, _, _, ⟨_, happly⟩ | ⟨_, hdb⟩⟩ | ⟨_, _, _, happly⟩
  · obtain ⟨_, _, hdb⟩ := applyToTables_ok.mp happly
    rw [hdb]
  · rw [hdb]
  · obtain ⟨_, _, hdb⟩ := applyToTables_ok.mp happly
    rw [hdb]

theorem recordEvents_frame {store : SqliteProjectionStore} {rc : List String}
    {events : List OrderedEvent} {db db' : Database}
    (h : recordEvents evidenceDigest store rc events db = .ok db') :
    db' = { db with chainEvents := db'.chainEvents, projections := db'.projections } := by
  apply foldlM_invariant _
    (fun s => s = { db with chainEvents := s.chainEvents, projections := s.projections })
    _ events db db' rfl h
  intro ordered s t hs ht
  rw [recordEvent_frame ht, hs]

/-- A transaction that commits touches the three tables and the checkpoint's block. -/
theorem commitTransaction_frame {store : SqliteProjectionStore} {headers : List BlockHeader}
    {events : List OrderedEvent} {header : BlockHeader} {db db' : Database}
    (h : commitTransaction evidenceDigest store headers events header db = .ok db') :
    db' = { db with
      indexedBlocks := db'.indexedBlocks
      chainEvents := db'.chainEvents
      projections := db'.projections
      checkpoint := { db.checkpoint with
        lastScanned := some (header.number, lower header.hash) } } := by
  obtain ⟨db₁, rc, db₂, hheaders, hevents, hdb⟩ := commitTransaction_ok h
  have h₁ : db₁ = { db with indexedBlocks := db₁.indexedBlocks } := commitHeaders_frame hheaders
  have h₂ := recordEvents_frame hevents
  rw [hdb, h₂, h₁]

/-- Whatever comes of a commit, the deployment and the contract of the rows stay. -/
theorem commit_kept (store : SqliteProjectionStore) (headers : List BlockHeader)
    (events : List OrderedEvent) (header : BlockHeader) (db : Database) :
    (commit evidenceDigest store headers events header db).2.scanStartBlock = db.scanStartBlock ∧
      ∃ lastScanned, (commit evidenceDigest store headers events header db).2.checkpoint =
        { db.checkpoint with lastScanned } := by
  rcases commit_cases (Prod.mk.eta (p := commit evidenceDigest store headers events header db)).symm
    with h | ⟨status, hdb⟩
  · rw [commitTransaction_frame h]
    exact ⟨rfl, _, rfl⟩
  · rw [hdb]
    exact ⟨rfl, _, rfl⟩

variable (evidenceDigest) in
/-- A rebuild touches the projections, the contract columns and the status only. -/
theorem rebuildFromJournal_kept (store : SqliteProjectionStore) (projectionBuildId : String)
    (db : Database) : ∃ p c status,
      (rebuildFromJournal evidenceDigest store projectionBuildId db).2 =
        { db with projections := p, checkpoint := c, runtimeStatus := status } ∧
      c.lastScanned = db.checkpoint.lastScanned := by
  simp only [rebuildFromJournal]
  split
  · rename_i events db' hr
    obtain ⟨_, _, hr⟩ := bind_ok.mp hr
    simp only [rebuildTransaction, bind_ok, Except.ok.injEq, Prod.mk.injEq] at hr
    obtain ⟨p, _, _, rfl⟩ := hr
    split
    · exact ⟨_, _, _, rfl, rfl⟩
    · exact ⟨_, _, _, rfl, rfl⟩
  · exact ⟨_, _, _, rfl, rfl⟩
  · exact ⟨_, _, _, rfl, rfl⟩

end
end MotorCove.Indexer
