import Mathlib.Data.List.Chain
import Mathlib.Data.List.Range
import MotorCove.Indexer.Store

/-!
# Coverage of the canonical chain

A block hash names a block: its height, its parent and its events, on every
fork. Under that reading the canonical rows form one chain from the scan start
to the checkpoint, and the stored events are those of the stored blocks. A
commit extends the chain, a rewind cuts it, a source refresh empties it.
-/

set_option autoImplicit false

namespace MotorCove.Indexer
open MotorCove.Text MotorCove.Fallible

/-- An event as its row gives it back. -/
def lowered (e : OrderedEvent) : OrderedEvent :=
  { eventEnvelope e.toEnvelope with event := e.event }

/-- What block hashes name, in lower case. A block lists each log once. -/
structure Blocks where
  number : String → ℕ
  parentHash : String → String
  events : String → List OrderedEvent
  located : ∀ h, ∀ e ∈ events h, e.blockNumber = number h ∧ e.blockHash = h ∧ lowered e = e
  sorted : ∀ h, (events h).Pairwise fun a b => Before a.toEnvelope b.toEnvelope
  distinct : ∀ h, ((events h).map fun e => e.logIndex).Nodup

/-- A header is the block its hash names. -/
def Blocks.Names (B : Blocks) (header : BlockHeader) : Prop :=
  header.number = B.number (lower header.hash) ∧
    lower header.parentHash = B.parentHash (lower header.hash)

def Blocks.batchEvents (B : Blocks) (headers : List BlockHeader) : List OrderedEvent :=
  headers.flatMap fun header => B.events (lower header.hash)

section
variable (evidenceDigest : Evidence → String) (B : Blocks)

def Blocks.rows (h : String) : List EventRow := (B.events h).map (eventRow evidenceDigest)

structure RowNamed (b : BlockRow) : Prop where
  number : b.blockNumber = B.number b.blockHash
  parentHash : b.parentHash = B.parentHash b.blockHash
  scanComplete : b.scanComplete = true
  count : b.observedLogCount = (B.events b.blockHash).length
  digest : b.observedLogDigest =
    observedLogDigest evidenceDigest ((B.events b.blockHash).map OrderedEvent.toEnvelope)
  lower : lower b.blockHash = b.blockHash

/-- Every block row is what its hash names, and the event rows are exactly the
events of the block rows. -/
structure Stored (db : Database) : Prop where
  named : ∀ b ∈ db.indexedBlocks.rows, RowNamed evidenceDigest B b
  events : ∀ r, r ∈ db.chainEvents.rows ↔
    ∃ b ∈ db.indexedBlocks.rows, r ∈ B.rows evidenceDigest b.blockHash

/-- The canonical rows in order: one per height from the scan start, linked by
their hashes, up to the checkpoint. -/
structure Spine (chain : List BlockRow) (db : Database) : Prop where
  canonical : ∀ b, b ∈ chain ↔ b ∈ db.indexedBlocks.rows ∧ b.isCanonical = true
  numbers : chain.map BlockRow.blockNumber = List.range' db.scanStartBlock chain.length
  linked : chain.IsChain fun a b => b.parentHash = a.blockHash
  checkpoint : db.checkpoint.lastScanned =
    chain.getLast?.map fun b => (b.blockNumber, b.blockHash)

structure Covered (chain : List BlockRow) (db : Database) : Prop extends
  Stored evidenceDigest B db, Spine chain db

/-- What a rebuild and the next commits rest on: a row of an abandoned fork may
have lost events, and no event stands without its block. -/
structure Grounded (chain : List BlockRow) (db : Database) : Prop extends Spine chain db where
  named : ∀ b ∈ db.indexedBlocks.rows, RowNamed evidenceDigest B b
  events : ∀ r ∈ db.chainEvents.rows,
    ∃ b ∈ db.indexedBlocks.rows, r ∈ B.rows evidenceDigest b.blockHash
  complete : ∀ b ∈ chain, ∀ r ∈ B.rows evidenceDigest b.blockHash, r ∈ db.chainEvents.rows

end

section
variable {evidenceDigest : Evidence → String} {B : Blocks}

theorem covered_registered (scanStartBlock : ℕ) (projectionBuildId logScopeHash : String) :
    Covered evidenceDigest B [] (registered scanStartBlock projectionBuildId logScopeHash) where
  named := fun _ h => nomatch h
  events := fun _ => by simp [registered]
  canonical := fun _ => by simp [registered]
  numbers := rfl
  linked := .nil
  checkpoint := rfl

@[simp] theorem key_eventRow (e : OrderedEvent) :
    (eventRow evidenceDigest e).key = (lower e.blockHash, e.logIndex) := rfl

theorem Blocks.eq_of_logIndex {h : String} {a b : OrderedEvent} (ha : a ∈ B.events h)
    (hb : b ∈ B.events h) (hlog : a.logIndex = b.logIndex) : a = b :=
  List.inj_on_of_nodup_map (B.distinct h) ha hb hlog

theorem Blocks.mem_rows {h : String} {r : EventRow} :
    r ∈ B.rows evidenceDigest h ↔ ∃ e ∈ B.events h, eventRow evidenceDigest e = r :=
  List.mem_map

theorem Blocks.rows_hash {h : String} {r : EventRow} (hr : r ∈ B.rows evidenceDigest h) :
    r.blockHash = h := by
  obtain ⟨e, he, rfl⟩ := Blocks.mem_rows.mp hr
  obtain ⟨_, rfl, hlow⟩ := B.located h e he
  exact congrArg (fun e => e.blockHash) hlow

theorem Blocks.nodup_rows (h : String) : (B.rows evidenceDigest h).Nodup := by
  have hkeys : ((B.rows evidenceDigest h).map fun r => r.logIndex).Nodup := by
    rw [Blocks.rows, List.map_map]
    exact B.distinct h
  exact List.Nodup.of_map _ hkeys

variable {chain : List BlockRow} {db : Database} {start : ℕ}

theorem sorted_of_numbers
    (h : chain.map BlockRow.blockNumber = List.range' start chain.length) :
    chain.Pairwise fun a b => a.blockNumber < b.blockNumber := by
  have hs : (chain.map BlockRow.blockNumber).Pairwise (· < ·) := by
    rw [h]
    exact List.pairwise_lt_range' 1 (by decide)
  exact List.pairwise_map.mp hs

theorem eq_of_numbers (h : chain.map BlockRow.blockNumber = List.range' start chain.length)
    {a b : BlockRow} (ha : a ∈ chain) (hb : b ∈ chain) (hn : a.blockNumber = b.blockNumber) :
    a = b := by
  have hnodup : (chain.map BlockRow.blockNumber).Nodup := by
    rw [h]
    exact List.nodup_range'
  exact List.inj_on_of_nodup_map hnodup ha hb hn

theorem nodup_of_numbers (h : chain.map BlockRow.blockNumber = List.range' start chain.length) :
    chain.Nodup :=
  (sorted_of_numbers h).imp fun hlt => by
    rintro rfl
    exact lt_irrefl _ hlt

theorem Spine.number_lt (h : Spine chain db) {b : BlockRow} (hb : b ∈ chain) :
    db.scanStartBlock ≤ b.blockNumber ∧ b.blockNumber < db.scanStartBlock + chain.length := by
  have hn : b.blockNumber ∈ chain.map BlockRow.blockNumber := List.mem_map_of_mem hb
  rw [h.numbers, List.mem_range'_1] at hn
  exact hn

theorem Spine.sorted (h : Spine chain db) :
    chain.Pairwise fun a b => a.blockNumber < b.blockNumber := sorted_of_numbers h.numbers

theorem Spine.eq_of_number (h : Spine chain db) {a b : BlockRow} (ha : a ∈ chain) (hb : b ∈ chain)
    (hn : a.blockNumber = b.blockNumber) : a = b := eq_of_numbers h.numbers ha hb hn

theorem Spine.nodup (h : Spine chain db) : chain.Nodup := nodup_of_numbers h.numbers

theorem Spine.checkpoint_number (h : Spine chain db) {n : ℕ} {hash : String}
    (hc : db.checkpoint.lastScanned = some (n, hash)) :
    chain ≠ [] ∧ n + 1 = db.scanStartBlock + chain.length := by
  rw [h.checkpoint] at hc
  obtain ⟨b, hb, he⟩ := Option.map_eq_some_iff.mp hc
  obtain ⟨rfl, rfl⟩ := Prod.mk.inj he
  obtain ⟨init, rfl⟩ := List.getLast?_eq_some_iff.mp hb
  refine ⟨by simp, ?_⟩
  have hn := h.numbers
  rw [List.length_append, List.length_singleton, List.map_append, ← List.range'_append_1] at hn
  have hlast := (List.append_inj hn (by simp)).2
  simp only [List.map_singleton, List.range'_one, List.cons.injEq, and_true] at hlast
  simp only [List.length_append, List.length_singleton]
  omega

theorem Covered.grounded (h : Covered evidenceDigest B chain db) :
    Grounded evidenceDigest B chain db where
  toSpine := h.toSpine
  named := h.named
  events := fun r hr => (h.events r).mp hr
  complete := fun b hb r hr => (h.events r).mpr ⟨b, ((h.canonical b).mp hb).1, hr⟩

theorem Grounded.canonical_iff (h : Grounded evidenceDigest B chain db) {b : BlockRow} :
    b ∈ db.indexedBlocks.rows ∧ b.canonical = true ↔ b ∈ chain := by
  rw [h.canonical]
  constructor
  · rintro ⟨hb, hcan⟩
    exact ⟨hb, (Bool.and_eq_true_iff.mp hcan).1⟩
  · rintro ⟨hb, hcan⟩
    exact ⟨hb, Bool.and_eq_true_iff.mpr ⟨hcan, (h.named b hb).scanComplete⟩⟩

theorem Grounded.of_eq {db' : Database} (h : Grounded evidenceDigest B chain db)
    (hstart : db'.scanStartBlock = db.scanStartBlock)
    (hblocks : db'.indexedBlocks = db.indexedBlocks) (hevents : db'.chainEvents = db.chainEvents)
    (hcheckpoint : db'.checkpoint.lastScanned = db.checkpoint.lastScanned) :
    Grounded evidenceDigest B chain db' := by
  constructor
  · constructor
    · rw [hblocks]
      exact h.canonical
    · rw [hstart]
      exact h.numbers
    · exact h.linked
    · rw [hcheckpoint]
      exact h.checkpoint
  · rw [hblocks]
    exact h.named
  · rw [hblocks, hevents]
    exact h.events
  · rw [hevents]
    exact h.complete

theorem Grounded.setStatus (h : Grounded evidenceDigest B chain db) (status : RuntimeStatus) :
    Grounded evidenceDigest B chain (db.setStatus status) := h.of_eq rfl rfl rfl rfl

end
end MotorCove.Indexer
