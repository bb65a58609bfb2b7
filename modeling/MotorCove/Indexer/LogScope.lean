import MotorCove.Indexer.Replay

/-!
# One log scope

A store commits blocks under one log scope and notes it in their rows. A store
of another scope is opened for a reindex only, which then deletes every row and
starts again. So the rows have the scope of the checkpoint in every state, and
a reader can tell the blocks that were scanned under the scope it knows.
-/

set_option autoImplicit false

namespace MotorCove.Indexer
open MotorCove.Text MotorCove.Fallible

/-- The states of one deployment's store, with the log scope in force. A store
for a reindex is opened on the state it prepares. -/
inductive InScope (evidenceDigest : Evidence → String) (B : Blocks) (collectionAddress : String) :
    String → Database → Prop where
  | registered (scanStartBlock : ℕ) (projectionBuildId logScopeHash : String) :
      InScope evidenceDigest B collectionAddress logScopeHash
        (registered scanStartBlock projectionBuildId logScopeHash)
  | commit {db : Database} {store : SqliteProjectionStore} {headers : List BlockHeader}
      {events : List OrderedEvent} {last : BlockHeader}
      (h : InScope evidenceDigest B collectionAddress store.logScopeHash db)
      (hstore : store.collectionAddress = collectionAddress)
      (hbatch : Extends B db headers events) (hlast : headers.getLast? = some last) :
      InScope evidenceDigest B collectionAddress store.logScopeHash
        (commit evidenceDigest store headers events last db).2
  | rewind {db : Database} {store : SqliteProjectionStore}
      (h : InScope evidenceDigest B collectionAddress store.logScopeHash db)
      (hstore : store.collectionAddress = collectionAddress)
      (blockNumber : ℕ) (projectionBuildId : String) :
      InScope evidenceDigest B collectionAddress store.logScopeHash
        (rebuildFromJournal evidenceDigest store projectionBuildId
          (rewindFrom store blockNumber db)).2
  | prepare {db db' : Database} {store : SqliteProjectionStore} {logScopeHash : String}
      {hook : CommitFaultPoint → Bool} {maintenance : Option ProjectionMaintenanceOptions}
      {blockNumber : ℕ} {verifiedBackupId : Option String}
      (h : InScope evidenceDigest B collectionAddress logScopeHash db)
      (hopen : SqliteProjectionStore.open collectionAddress store.logScopeHash hook maintenance db =
        .ok store)
      (hprepare : prepareForReindex evidenceDigest store blockNumber verifiedBackupId db = .ok db')
      (projectionBuildId : String) :
      InScope evidenceDigest B collectionAddress store.logScopeHash
        (rebuildFromJournal evidenceDigest store projectionBuildId db').2

section
variable {evidenceDigest : Evidence → String} {B : Blocks} {collectionAddress scope : String}
  {db db' : Database} {store : SqliteProjectionStore}

theorem open_ok {logScopeHash : String} {hook : CommitFaultPoint → Bool}
    {maintenance : Option ProjectionMaintenanceOptions}
    (h : SqliteProjectionStore.open collectionAddress logScopeHash hook maintenance db =
      .ok store) :
    store.collectionAddress = collectionAddress ∧ store.logScopeHash = logScopeHash ∧
      store.sourceScopeChanged = decide (db.checkpoint.logScopeHash ≠ logScopeHash) := by
  simp only [SqliteProjectionStore.open, failIf_bind_ok, Except.ok.injEq] at h
  obtain ⟨_, rfl⟩ := h
  exact ⟨rfl, rfl, rfl⟩

theorem InScope.reachable (h : InScope evidenceDigest B collectionAddress scope db) :
    Reachable evidenceDigest B collectionAddress db := by
  induction h with
  | registered scanStartBlock projectionBuildId logScopeHash =>
    exact .registered scanStartBlock projectionBuildId logScopeHash
  | commit _ hstore hbatch hlast ih => exact .commit ih hstore hbatch hlast
  | rewind _ hstore blockNumber projectionBuildId ih =>
    exact .rewind ih hstore blockNumber projectionBuildId
  | prepare _ hopen hprepare projectionBuildId ih =>
    exact .prepare ih (open_ok hopen).1 hprepare projectionBuildId

structure Scoped (scope : String) (db : Database) : Prop where
  rows : ∀ b ∈ db.indexedBlocks.rows, b.logScopeHash = scope
  checkpoint : db.checkpoint.logScopeHash = scope

theorem unflagged_scope {b b' : BlockRow} (h : unflagged b' = unflagged b) :
    b'.logScopeHash = b.logScopeHash := by
  have hscope : (unflagged b').logScopeHash = (unflagged b).logScopeHash := by rw [h]
  exact hscope

theorem Scoped.commit (h : Scoped store.logScopeHash db) (headers : List BlockHeader)
    (events : List OrderedEvent) (last : BlockHeader) :
    Scoped store.logScopeHash (commit evidenceDigest store headers events last db).2 := by
  rcases commit_cases (Prod.mk.eta (p := Indexer.commit evidenceDigest store headers events last
    db)).symm with hcommit | ⟨status, hdb⟩
  · constructor
    · intro b hb
      have hgrown := commitTransaction_grown (P := fun b => b.logScopeHash = store.logScopeHash)
        (fun _ _ hsame hb => (unflagged_scope hsame).trans hb) (fun _ _ => rfl) hcommit
      rcases hgrown b hb with ⟨b₀, hb₀, hsame⟩ | hnew
      · exact (unflagged_scope hsame).trans (h.rows b₀ hb₀)
      · exact hnew
    · rw [commitTransaction_frame hcommit]
      exact h.checkpoint
  · rw [hdb]
    exact ⟨h.rows, h.checkpoint⟩

/-- A rebuild that succeeds notes its own scope; one that fails changes none. -/
theorem rebuildFromJournal_scope (store : SqliteProjectionStore) (projectionBuildId : String)
    (db : Database) :
    let result := rebuildFromJournal evidenceDigest store projectionBuildId db
    result.2.indexedBlocks = db.indexedBlocks ∧
      (∀ n, result.1 = .ok n → result.2.checkpoint.logScopeHash = store.logScopeHash) ∧
      (∀ e, result.1 = .error e → result.2.checkpoint = db.checkpoint) := by
  simp only [rebuildFromJournal]
  split
  · rename_i events db' hr
    obtain ⟨_, _, hr⟩ := bind_ok.mp hr
    simp only [rebuildTransaction, bind_ok, Except.ok.injEq, Prod.mk.injEq] at hr
    obtain ⟨p, _, _, rfl⟩ := hr
    split
    · exact ⟨rfl, fun _ _ => rfl, by rintro _ ⟨⟩⟩
    · exact ⟨rfl, fun _ _ => rfl, by rintro _ ⟨⟩⟩
  · exact ⟨rfl, by rintro _ ⟨⟩, fun _ _ => rfl⟩
  · exact ⟨rfl, by rintro _ ⟨⟩, fun _ _ => rfl⟩

theorem rebuild_prepared {blockNumber : ℕ} {verifiedBackupId : Option String}
    (h : Reachable evidenceDigest B collectionAddress db)
    (hstore : store.collectionAddress = collectionAddress)
    (hprepare : prepareForReindex evidenceDigest store blockNumber verifiedBackupId db = .ok db')
    (projectionBuildId : String) :
    ∃ n, (rebuildFromJournal evidenceDigest store projectionBuildId db').1 = .ok n := by
  obtain ⟨chain, hchain⟩ := reachable_projected h
  obtain ⟨n, hn⟩ := covered_prepareForReindex hchain.covered hprepare
  have hall := hchain.projections
  rw [← List.take_append_drop n chain, Blocks.chainEvents_append] at hall
  obtain ⟨p, hp, _⟩ := (foldlM_append_ok _ _ _ _ _).mp hall
  subst hstore
  obtain ⟨db₁, heq, _⟩ := rebuildFromJournal_ok hn store projectionBuildId hp
  rw [heq]
  exact ⟨_, rfl⟩

theorem Scoped.rewindFrom (h : Scoped scope db) (store : SqliteProjectionStore)
    (blockNumber : ℕ) : Scoped scope (rewindFrom store blockNumber db) := by
  obtain ⟨t, status, ht, hdb⟩ := rewindFrom_eq store blockNumber db
  rw [hdb]
  constructor
  · intro b hb
    change b ∈ t.rows at hb
    rw [ht] at hb
    obtain ⟨c, hc, rfl⟩ := List.mem_map.mp hb
    have hscope : (rewound blockNumber c).logScopeHash = c.logScopeHash := by
      unfold rewound
      split <;> rfl
    exact hscope.trans (h.rows c hc)
  · exact h.checkpoint

theorem Scoped.prepare {blockNumber : ℕ} {verifiedBackupId : Option String}
    {hook : CommitFaultPoint → Bool} {maintenance : Option ProjectionMaintenanceOptions}
    (h : Scoped scope db)
    (hopen : SqliteProjectionStore.open collectionAddress store.logScopeHash hook maintenance db =
      .ok store)
    (hprepare : prepareForReindex evidenceDigest store blockNumber verifiedBackupId db = .ok db') :
    ∀ b ∈ db'.indexedBlocks.rows, b.logScopeHash = store.logScopeHash := by
  unfold prepareForReindex at hprepare
  split at hprepare
  · simp only [failIf_bind_ok, Except.ok.injEq] at hprepare
    obtain ⟨_, _, rfl⟩ := hprepare
    obtain ⟨status, hdb⟩ := markReindexStarted_eq store "SOURCE_REFRESH_REINDEX_REQUESTED"
      { db with
        chainEvents := .empty _
        indexedBlocks := .empty _
        checkpoint := { db.checkpoint with lastScanned := none } }
    intro b hb
    rw [deleteSource, hdb] at hb
    exact absurd hb List.not_mem_nil
  · -- without a refresh the scope has not changed
    rename_i hrefresh
    obtain rfl := Except.ok.inj hprepare
    rw [requiresSourceRefresh, (open_ok hopen).2.2, Bool.or_eq_true, decide_eq_true_eq,
      not_or, not_not] at hrefresh
    rw [← hrefresh.1, h.checkpoint]
    exact (h.rewindFrom store blockNumber).rows

theorem InScope.scoped (h : InScope evidenceDigest B collectionAddress scope db) :
    Scoped scope db := by
  induction h with
  | registered scanStartBlock projectionBuildId logScopeHash =>
    exact ⟨fun b hb => absurd hb List.not_mem_nil, rfl⟩
  | commit _ _ _ _ ih => exact ih.commit _ _ _
  | @rewind db store _ _ blockNumber projectionBuildId ih =>
    have hrewound := ih.rewindFrom store blockNumber
    obtain ⟨hblocks, hok, herror⟩ := rebuildFromJournal_scope store projectionBuildId
      (Indexer.rewindFrom store blockNumber db)
    constructor
    · rw [hblocks]
      exact hrewound.rows
    · cases hresult : (rebuildFromJournal evidenceDigest store projectionBuildId
          (Indexer.rewindFrom store blockNumber db)).1 with
      | ok n => exact hok n hresult
      | error e =>
        rw [herror e hresult]
        exact hrewound.checkpoint
  | @prepare db db' store _ _ _ _ _ hrun hopen hprepare projectionBuildId ih =>
    obtain ⟨hblocks, hok, _⟩ := rebuildFromJournal_scope store projectionBuildId db'
    constructor
    · rw [hblocks]
      exact ih.prepare hopen hprepare
    · obtain ⟨n, hn⟩ := rebuild_prepared hrun.reachable (open_ok hopen).1 hprepare
        projectionBuildId
      exact hok n hn

end

end MotorCove.Indexer
