import MotorCove.Indexer.Commits

/-!
# Rewinds and refreshes cut the chain

A rewind keeps the chain below a height; the rows above it stay as rows of an
abandoned fork, with their events. A source refresh deletes every row.
-/

set_option autoImplicit false

namespace MotorCove.Indexer
open MotorCove.Text MotorCove.Fallible

section
variable {evidenceDigest : Evidence → String} {B : Blocks} {chain : List BlockRow} {db : Database}

theorem Covered.of_eq {db' : Database} (h : Covered evidenceDigest B chain db)
    (hstart : db'.scanStartBlock = db.scanStartBlock)
    (hblocks : db'.indexedBlocks = db.indexedBlocks) (hevents : db'.chainEvents = db.chainEvents)
    (hcheckpoint : db'.checkpoint.lastScanned = db.checkpoint.lastScanned) :
    Covered evidenceDigest B chain db' := by
  constructor
  · constructor
    · rw [hblocks]
      exact h.named
    · rw [hblocks, hevents]
      exact h.events
  · exact (h.grounded.of_eq hstart hblocks hevents hcheckpoint).toSpine

theorem Spine.mem_take (h : Spine chain db) (blockNumber : ℕ) {b : BlockRow} :
    b ∈ chain.take (blockNumber - db.scanStartBlock) ↔ b ∈ chain ∧ b.blockNumber < blockNumber := by
  have htake : ∀ b ∈ chain.take (blockNumber - db.scanStartBlock), b.blockNumber < blockNumber := by
    intro b hb
    have hn : b.blockNumber ∈ (chain.map BlockRow.blockNumber).take
        (blockNumber - db.scanStartBlock) := by
      rw [← List.map_take]
      exact List.mem_map_of_mem hb
    have hlen : 0 < blockNumber - db.scanStartBlock := by
      have := List.length_pos_of_mem hb
      rw [List.length_take] at this
      omega
    rw [h.numbers] at hn
    rcases Nat.le_total chain.length (blockNumber - db.scanStartBlock) with hle | hle
    · rw [List.take_range'_of_length_le hle, List.mem_range'_1] at hn
      omega
    · rw [List.take_range'_of_length_ge hle, List.mem_range'_1] at hn
      omega
  have hdrop : ∀ b ∈ chain.drop (blockNumber - db.scanStartBlock),
      blockNumber ≤ b.blockNumber := by
    intro b hb
    have hn : b.blockNumber ∈ (chain.map BlockRow.blockNumber).drop
        (blockNumber - db.scanStartBlock) := by
      rw [← List.map_drop]
      exact List.mem_map_of_mem hb
    rw [h.numbers, List.drop_range', List.mem_range'_1] at hn
    omega
  constructor
  · intro hb
    exact ⟨List.mem_of_mem_take hb, htake b hb⟩
  · rintro ⟨hb, hlt⟩
    rw [← List.take_append_drop (blockNumber - db.scanStartBlock) chain] at hb
    rcases List.mem_append.mp hb with hb | hb
    · exact hb
    · have := hdrop b hb
      omega

theorem previousBlock_eq {start blockNumber : ℕ} {blocks : List BlockRow}
    (hnumbers : chain.map BlockRow.blockNumber = List.range' start chain.length)
    (hnodup : blocks.Nodup)
    (hblocks : ∀ b, b ∈ blocks ∧ b.canonical = true ∧ b.blockNumber < blockNumber ↔ b ∈ chain) :
    previousBlock blockNumber blocks = chain.getLast? := by
  have hsort : (blocks.filter fun b => b.canonical && decide (b.blockNumber < blockNumber)
      ).insertionSort (fun a b => b.blockNumber ≤ a.blockNumber) = chain.reverse := by
    refine insertionSort_eq (r := fun a b : BlockRow => b.blockNumber ≤ a.blockNumber)
      (fun a b => Nat.le_total _ _) (fun a b c h₁ h₂ => Nat.le_trans h₂ h₁) (hnodup.filter _)
      (List.nodup_reverse.mpr (nodup_of_numbers hnumbers)) (fun b => ?_) ?_ ?_
    · simp only [List.mem_filter, Bool.and_eq_true, decide_eq_true_eq, List.mem_reverse, hblocks]
    · rw [List.pairwise_reverse]
      exact (sorted_of_numbers hnumbers).imp fun hlt => Nat.le_of_lt hlt
    · intro a ha b hb h₁ h₂
      exact eq_of_numbers hnumbers (List.mem_reverse.mp ha) (List.mem_reverse.mp hb)
        (Nat.le_antisymm h₂ h₁)
  rw [previousBlock, hsort, List.head?_reverse]

/-- A rewound row differs from its old row in its canonical mark only. -/
def rewound (blockNumber : ℕ) (b : BlockRow) : BlockRow :=
  if blockNumber ≤ b.blockNumber ∧ b.isCanonical = true then { b with isCanonical := false } else b

@[simp] theorem rewound_blockHash (n : ℕ) (b : BlockRow) :
    (rewound n b).blockHash = b.blockHash := by
  unfold rewound
  split <;> rfl

theorem rewound_named {n : ℕ} {b : BlockRow} (h : RowNamed evidenceDigest B b) :
    RowNamed evidenceDigest B (rewound n b) := by
  unfold rewound
  split
  · exact ⟨h.number, h.parentHash, h.scanComplete, h.count, h.digest, h.lower⟩
  · exact h

/-- A rewound row is canonical when it was and is below the height; then it is its old row. -/
theorem rewound_canonical {n : ℕ} {b c : BlockRow} (h : rewound n b = c) :
    c.isCanonical = true ↔ b = c ∧ b.isCanonical = true ∧ b.blockNumber < n := by
  subst h
  unfold rewound
  split
  · rename_i hcond
    constructor
    · intro h
      cases h
    · rintro ⟨_, _, hlt⟩
      omega
  · rename_i hcond
    constructor
    · intro hc
      exact ⟨rfl, hc, by_contra fun hle => hcond ⟨Nat.le_of_not_lt hle, hc⟩⟩
    · rintro ⟨_, hc, _⟩
      exact hc

theorem markReindexStarted_eq (store : SqliteProjectionStore) (reason : String) (db : Database) :
    ∃ status, markReindexStarted store reason db = db.setStatus status := by
  unfold markReindexStarted
  split
  · exact ⟨db.runtimeStatus, rfl⟩
  · exact ⟨_, rfl⟩

theorem rewindFrom_eq (store : SqliteProjectionStore) (blockNumber : ℕ) (db : Database) :
    ∃ t : Table BlockRow BlockRow.blockHash, ∃ status,
      t.rows = db.indexedBlocks.rows.map (rewound blockNumber) ∧
      rewindFrom store blockNumber db = { db with
        indexedBlocks := t
        checkpoint := { db.checkpoint with
          lastScanned := (previousBlock blockNumber t.rows).map fun b =>
            (b.blockNumber, b.blockHash) }
        runtimeStatus := status } := by
  obtain ⟨status, hstatus⟩ := markReindexStarted_eq store "REINDEX_REQUESTED" _
  exact ⟨_, status, rfl, hstatus⟩

/-- The rows below a height are grounded, whatever stands above. -/
structure GroundedBelow (evidenceDigest : Evidence → String) (B : Blocks) (blockNumber : ℕ)
    (chain : List BlockRow) (db : Database) : Prop where
  named : ∀ b ∈ db.indexedBlocks.rows, RowNamed evidenceDigest B b
  events : ∀ r ∈ db.chainEvents.rows,
    ∃ b ∈ db.indexedBlocks.rows, r ∈ B.rows evidenceDigest b.blockHash
  canonical : ∀ b, b ∈ chain ↔
    (b ∈ db.indexedBlocks.rows ∧ b.isCanonical = true) ∧ b.blockNumber < blockNumber
  numbers : chain.map BlockRow.blockNumber = List.range' db.scanStartBlock chain.length
  linked : chain.IsChain fun a b => b.parentHash = a.blockHash
  complete : ∀ b ∈ chain, ∀ r ∈ B.rows evidenceDigest b.blockHash, r ∈ db.chainEvents.rows

theorem Grounded.below (h : Grounded evidenceDigest B chain db) (blockNumber : ℕ) :
    GroundedBelow evidenceDigest B blockNumber (chain.take (blockNumber - db.scanStartBlock)) db where
  named := h.named
  events := h.events
  canonical := fun b => by rw [h.mem_take, h.canonical]
  numbers := by
    rw [List.map_take, h.numbers, List.length_take]
    rcases Nat.le_total chain.length (blockNumber - db.scanStartBlock) with hle | hle
    · rw [List.take_range'_of_length_le hle, Nat.min_eq_right hle]
    · rw [List.take_range'_of_length_ge hle, Nat.min_eq_left hle]
  linked := h.linked.take _
  complete := fun b hb => h.complete b (List.mem_of_mem_take hb)

theorem GroundedBelow.rewindFrom {blockNumber : ℕ}
    (h : GroundedBelow evidenceDigest B blockNumber chain db) (store : SqliteProjectionStore) :
    Grounded evidenceDigest B chain (rewindFrom store blockNumber db) := by
  obtain ⟨t, status, ht, heq⟩ := rewindFrom_eq store blockNumber db
  rw [heq]
  have hmem : ∀ c, c ∈ t.rows ↔ ∃ b ∈ db.indexedBlocks.rows, rewound blockNumber b = c := by
    intro c
    rw [ht, List.mem_map]
  have hnamed : ∀ b ∈ t.rows, RowNamed evidenceDigest B b := by
    intro c hc
    obtain ⟨b, hb, rfl⟩ := (hmem c).mp hc
    exact rewound_named (h.named b hb)
  have hcanonical : ∀ c, c ∈ chain ↔ c ∈ t.rows ∧ c.isCanonical = true := by
    intro c
    rw [h.canonical, hmem]
    constructor
    · rintro ⟨⟨hc, hcan⟩, hlt⟩
      have heq : rewound blockNumber c = c := if_neg fun hcond => by omega
      exact ⟨⟨c, hc, heq⟩, hcan⟩
    · rintro ⟨⟨b, hb, hrew⟩, hcan⟩
      obtain ⟨rfl, hbcan, hlt⟩ := (rewound_canonical hrew).mp hcan
      exact ⟨⟨hb, hbcan⟩, hlt⟩
  constructor
  · constructor
    · exact hcanonical
    · exact h.numbers
    · exact h.linked
    · have hprevious : previousBlock blockNumber t.rows = chain.getLast? := by
        refine previousBlock_eq h.numbers t.nodup_rows fun b => ?_
        rw [hcanonical]
        constructor
        · rintro ⟨hb, hc, _⟩
          exact ⟨hb, (Bool.and_eq_true_iff.mp hc).1⟩
        · rintro ⟨hb, hc⟩
          have hlt := ((h.canonical b).mp ((hcanonical b).mpr ⟨hb, hc⟩)).2
          exact ⟨hb, Bool.and_eq_true_iff.mpr ⟨hc, (hnamed b hb).scanComplete⟩, hlt⟩
      exact congrArg (Option.map fun b => (b.blockNumber, b.blockHash)) hprevious
  · exact hnamed
  · intro r hr
    obtain ⟨b, hb, hrow⟩ := h.events r hr
    exact ⟨rewound blockNumber b, (hmem _).mpr ⟨b, hb, rfl⟩, rewound_blockHash _ b ▸ hrow⟩
  · exact h.complete

theorem covered_rewindFrom (h : Covered evidenceDigest B chain db) (store : SqliteProjectionStore)
    (blockNumber : ℕ) : Covered evidenceDigest B (chain.take (blockNumber - db.scanStartBlock))
      (rewindFrom store blockNumber db) := by
  have hgrounded := (h.grounded.below blockNumber).rewindFrom store
  refine ⟨⟨hgrounded.named, fun r => ⟨hgrounded.events r, ?_⟩⟩, hgrounded.toSpine⟩
  obtain ⟨t, status, ht, heq⟩ := rewindFrom_eq store blockNumber db
  rw [heq]
  rintro ⟨c, hc, hr⟩
  obtain ⟨b, hb, rfl⟩ := List.mem_map.mp (ht ▸ hc)
  exact (h.events r).mpr ⟨b, hb, rewound_blockHash _ b ▸ hr⟩

theorem covered_deleteSource (store : SqliteProjectionStore) :
    Covered evidenceDigest B [] (deleteSource store db) := by
  obtain ⟨status, heq⟩ := markReindexStarted_eq store "SOURCE_REFRESH_REINDEX_REQUESTED" _
  rw [deleteSource, heq]
  constructor
  · constructor
    · intro b hb
      cases hb
    · intro r
      simp [Database.setStatus]
  · constructor
    · intro b
      simp [Database.setStatus]
    · rfl
    · exact .nil
    · rfl

/-- A preparation rewinds or refreshes; the chain that is left is a first part of the chain. -/
theorem covered_prepareForReindex {store : SqliteProjectionStore} {blockNumber : ℕ}
    {verifiedBackupId : Option String} {db' : Database} (h : Covered evidenceDigest B chain db)
    (hprepare : prepareForReindex evidenceDigest store blockNumber verifiedBackupId db = .ok db') :
    ∃ n, Covered evidenceDigest B (chain.take n) db' := by
  unfold prepareForReindex at hprepare
  split at hprepare
  · simp only [failIf_bind_ok, Except.ok.injEq] at hprepare
    obtain ⟨_, _, rfl⟩ := hprepare
    exact ⟨0, covered_deleteSource store⟩
  · obtain rfl := Except.ok.inj hprepare
    exact ⟨_, covered_rewindFrom h store blockNumber⟩

theorem grounded_commit {store : SqliteProjectionStore} {headers : List BlockHeader}
    {events : List OrderedEvent} {last : BlockHeader} {db' : Database}
    (h : Grounded evidenceDigest B chain db) (hbatch : Extends B db headers events)
    (hlast : headers.getLast? = some last)
    (hcommit : commitTransaction evidenceDigest store headers events last db = .ok db') :
    Extended evidenceDigest B store chain db headers events db' ∧
      ∃ added : List BlockRow, added.map BlockRow.blockHash = headers.map (lower ·.hash) ∧
        Grounded evidenceDigest B (chain ++ added) db' ∧
        applyEvents store.collectionAddress events db.projections = .ok db'.projections := by
  have hext := commitTransaction_extended h.toSpine h.named
    (fun r hr => let ⟨_, _, hb⟩ := h.events r hr; ⟨_, hb⟩) hbatch hlast hcommit
  obtain ⟨added, hadded, hspine⟩ := hext.spine
  refine ⟨hext, added, hadded, ⟨hspine, hext.named, fun r hr => ?_, fun b hb r hr => ?_⟩, ?_⟩
  · rcases (hext.stored r).mp hr with hr | ⟨x, hx, hr⟩
    · obtain ⟨b, hb, hrow⟩ := h.events r hr
      obtain ⟨c, hc, hhash⟩ := (hext.known _).mpr (.inl ⟨b, hb, rfl⟩)
      exact ⟨c, hc, hhash ▸ hrow⟩
    · obtain ⟨c, hc, hhash⟩ := (hext.known _).mpr (.inr ⟨x, hx, rfl⟩)
      exact ⟨c, hc, hhash ▸ hr⟩
  · rcases List.mem_append.mp hb with hb | hb
    · exact (hext.stored r).mpr (.inl (h.complete b hb r hr))
    · have hhash : b.blockHash ∈ headers.map (lower ·.hash) := hadded ▸ List.mem_map_of_mem hb
      obtain ⟨x, hx, hxb⟩ := List.mem_map.mp hhash
      exact (hext.stored r).mpr (.inr ⟨x, hx, hxb ▸ hr⟩)
  · -- an event whose row is stored has its block stored, so every event is applied
    have hall : appliedByCommit evidenceDigest store headers events db = events := by
      rw [hext.applied, List.filter_eq_self]
      intro e he
      simp only [decide_eq_true_eq]
      by_contra hno
      push Not at hno
      obtain ⟨hnone, hrow⟩ := hno
      obtain ⟨b, hb, hr⟩ := h.events _ hrow
      exact hnone b hb (Blocks.rows_hash hr).symm
    exact hall ▸ hext.projections

theorem covered_commit {store : SqliteProjectionStore} {headers : List BlockHeader}
    {events : List OrderedEvent} {last : BlockHeader} {db' : Database}
    (h : Covered evidenceDigest B chain db) (hbatch : Extends B db headers events)
    (hlast : headers.getLast? = some last)
    (hcommit : commitTransaction evidenceDigest store headers events last db = .ok db') :
    ∃ added : List BlockRow, added.map BlockRow.blockHash = headers.map (lower ·.hash) ∧
      Covered evidenceDigest B (chain ++ added) db' ∧
      applyEvents store.collectionAddress events db.projections = .ok db'.projections := by
  obtain ⟨hext, added, hadded, hgrounded, happlied⟩ :=
    grounded_commit h.grounded hbatch hlast hcommit
  refine ⟨added, hadded, ⟨⟨hext.named, fun r => ⟨hgrounded.events r, ?_⟩⟩, hgrounded.toSpine⟩,
    happlied⟩
  rintro ⟨c, hc, hr⟩
  rcases (hext.known _).mp ⟨c, hc, rfl⟩ with ⟨b, hb, hhash⟩ | ⟨x, hx, hhash⟩
  · exact (hext.stored r).mpr (.inl ((h.events r).mpr ⟨b, hb, hhash ▸ hr⟩))
  · exact (hext.stored r).mpr (.inr ⟨x, hx, hhash ▸ hr⟩)

end
end MotorCove.Indexer
