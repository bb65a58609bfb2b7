import MotorCove.Indexer.Store

/-!
# The read model

Queries over the tables of one deployment. Each is answered in one transaction
together with the provenance of the projection, which an uninitialized
deployment does not have. A height that a query casts to text is the number it
denotes.
-/

set_option autoImplicit false

namespace MotorCove.Indexer
open MotorCove.Text MotorCove.Fallible

inductive ReaderError where
  | readModelUninitialized
  | sourceAuditRangeInvalid
  | sourceAuditRangeTooLarge
  deriving DecidableEq, Repr

structure ProjectionProvenance where
  indexedBlockNumber : ℕ
  indexedBlockHash : String
  projectorVersion : String
  projectionBuildId : String
  logScopeHash : String
  deriving DecidableEq, Repr

structure ReadSnapshot (α : Type) where
  data : α
  provenance : ProjectionProvenance

def readProvenance (db : Database) : Except ReaderError ProjectionProvenance :=
  match db.checkpoint.lastScanned with
  | none => .error .readModelUninitialized
  | some (number, hash) => .ok
      { indexedBlockNumber := number
        indexedBlockHash := hash
        projectorVersion := db.checkpoint.projectorVersion
        projectionBuildId := db.checkpoint.projectionBuildId
        logScopeHash := db.checkpoint.logScopeHash }

def snapshot {α : Type} (query : Except ReaderError α) (db : Database) :
    Except ReaderError (ReadSnapshot α) := do
  let data ← query
  let provenance ← readProvenance db
  .ok ⟨data, provenance⟩

structure SourceAuditBlock where
  blockNumber : ℕ
  blockHash : String
  parentHash : String
  scanComplete : Bool
  logScopeHash : String
  observedLogCount : ℕ
  observedLogDigest : String
  events : List Envelope
  deriving DecidableEq, Repr

def sourceAuditBlock (db : Database) (b : BlockRow) : SourceAuditBlock where
  blockNumber := b.blockNumber
  blockHash := b.blockHash
  parentHash := b.parentHash
  scanComplete := b.scanComplete
  logScopeHash := b.logScopeHash
  observedLogCount := b.observedLogCount
  observedLogDigest := b.observedLogDigest
  events := (blockEvents b.blockHash db).map fun r => r.toEnvelope

/-- The canonical rows of a range of heights in their order. -/
def canonicalRange (fromBlock toBlock : ℕ) (db : Database) : List BlockRow :=
  (db.indexedBlocks.rows.filter fun b =>
    b.isCanonical && decide (fromBlock ≤ b.blockNumber ∧ b.blockNumber ≤ toBlock)).insertionSort
      fun a b => a.blockNumber ≤ b.blockNumber

def sourceAuditRange (fromBlock toBlock : ℕ) (db : Database) :
    Except ReaderError (ReadSnapshot (List SourceAuditBlock)) :=
  snapshot (do
    failIf (toBlock < fromBlock ∨ maxSafeInteger < toBlock) .sourceAuditRangeInvalid
    failIf (1000 < toBlock - fromBlock) .sourceAuditRangeTooLarge
    .ok ((canonicalRange fromBlock toBlock db).map (sourceAuditBlock db))) db

theorem snapshot_ok {α : Type} {query : Except ReaderError α} {db : Database}
    {result : ReadSnapshot α} : snapshot query db = .ok result ↔
      query = .ok result.data ∧ readProvenance db = .ok result.provenance := by
  simp only [snapshot, bind_ok, Except.ok.injEq]
  constructor
  · rintro ⟨data, hquery, provenance, hprovenance, rfl⟩
    exact ⟨hquery, hprovenance⟩
  · rintro ⟨hquery, hprovenance⟩
    exact ⟨_, hquery, _, hprovenance, rfl⟩

theorem canonicalRange_mem {fromBlock toBlock : ℕ} {db : Database} {b : BlockRow} :
    b ∈ canonicalRange fromBlock toBlock db ↔
      b ∈ db.indexedBlocks.rows ∧ b.isCanonical = true ∧
        fromBlock ≤ b.blockNumber ∧ b.blockNumber ≤ toBlock := by
  rw [canonicalRange, List.mem_insertionSort, List.mem_filter, Bool.and_eq_true,
    decide_eq_true_eq]

theorem sourceAuditRange_ok {fromBlock toBlock : ℕ} {db : Database}
    {result : ReadSnapshot (List SourceAuditBlock)}
    (h : sourceAuditRange fromBlock toBlock db = .ok result) :
    result.data = (canonicalRange fromBlock toBlock db).map (sourceAuditBlock db) := by
  have hquery := (snapshot_ok.mp h).1
  simp only [failIf_bind_ok, Except.ok.injEq] at hquery
  exact hquery.2.2.symm

theorem readProvenance_exists {db : Database} {number : ℕ} {hash : String}
    (h : db.checkpoint.lastScanned = some (number, hash)) :
    ∃ provenance, readProvenance db = .ok provenance ∧ provenance.indexedBlockNumber = number ∧
      provenance.logScopeHash = db.checkpoint.logScopeHash := by
  rw [readProvenance, h]
  exact ⟨_, rfl, rfl, rfl⟩

theorem sourceAuditRange_exists {fromBlock toBlock number : ℕ} {hash : String} {db : Database}
    (hcheckpoint : db.checkpoint.lastScanned = some (number, hash)) (hle : fromBlock ≤ toBlock)
    (hsafe : toBlock ≤ maxSafeInteger) (hrange : toBlock - fromBlock ≤ 1000) :
    ∃ result, sourceAuditRange fromBlock toBlock db = .ok result := by
  obtain ⟨provenance, hprovenance, _⟩ := readProvenance_exists hcheckpoint
  refine ⟨⟨(canonicalRange fromBlock toBlock db).map (sourceAuditBlock db), provenance⟩,
    snapshot_ok.mpr ⟨?_, hprovenance⟩⟩
  simp only [failIf_bind_ok, and_true]
  omega

end MotorCove.Indexer
