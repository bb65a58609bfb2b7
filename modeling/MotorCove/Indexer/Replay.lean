import MotorCove.Indexer.Rebuild

/-!
# A commit takes effect once

A commit that fails before its transaction is committed leaves every table as
it was. One that succeeded leaves a row for each of its headers and events, and
as long as the blocks stay canonical these rows stay what they are: the same
commit then finds all of them and changes none. It finds them by the hashes as
they are given, while the rows hold them in lower case.
-/

set_option autoImplicit false

namespace MotorCove.Indexer
open MotorCove.Text MotorCove.Fallible

/-- The checks of the schema on the hashes that rows are found by. -/
structure HashesChecked (db : Database) : Prop where
  blocks : ∀ b ∈ db.indexedBlocks.rows, hexLength b.blockHash 64 = true
  events : ∀ r ∈ db.chainEvents.rows, hexLength r.blockHash 64 = true

structure SameRows (db db' : Database) : Prop where
  indexedBlocks : db'.indexedBlocks = db.indexedBlocks
  chainEvents : db'.chainEvents = db.chainEvents
  projections : db'.projections = db.projections

def Database.IsCanonical (db : Database) (hash : String) : Prop :=
  ∃ b ∈ db.indexedBlocks.rows, b.blockHash = hash ∧ b.isCanonical = true

structure BatchStored (headers : List BlockHeader) (events : List OrderedEvent) (db : Database) :
    Prop where
  blocks : ∀ x ∈ headers, ∃ b ∈ db.indexedBlocks.rows, b.blockHash = lower x.hash
  events : ∀ e ∈ events, ∃ r ∈ db.chainEvents.rows, r.key = (lower e.blockHash, e.logIndex)

/-- A block row apart from the flags that rewinds and commits change. -/
def unflagged (b : BlockRow) : BlockRow := { b with isCanonical := true, scanComplete := true }

/-- Every source row is still there, but for the flags of a block. -/
structure KeepsSource (db db' : Database) : Prop where
  blocks : ∀ b ∈ db.indexedBlocks.rows, ∃ b' ∈ db'.indexedBlocks.rows, unflagged b' = unflagged b
  events : ∀ r ∈ db.chainEvents.rows, r ∈ db'.chainEvents.rows

theorem KeepsSource.refl (db : Database) : KeepsSource db db :=
  ⟨fun b hb => ⟨b, hb, rfl⟩, fun _ hr => hr⟩

theorem KeepsSource.trans {a b c : Database} (h : KeepsSource a b) (h' : KeepsSource b c) :
    KeepsSource a c := by
  constructor
  · intro x hx
    obtain ⟨y, hy, hyx⟩ := h.blocks x hx
    obtain ⟨z, hz, hzy⟩ := h'.blocks y hy
    exact ⟨z, hz, hzy.trans hyx⟩
  · exact fun r hr => h'.events r (h.events r hr)

section
variable (evidenceDigest : Evidence → String)

/-- What the operations of the store, opened in any way, do to the tables. -/
inductive StoreStep : Database → Database → Prop where
  | commit (store : SqliteProjectionStore) (headers : List BlockHeader)
      (events : List OrderedEvent) (header : BlockHeader) (db : Database) :
      StoreStep db (commit evidenceDigest store headers events header db).2
  | rewindFrom (store : SqliteProjectionStore) (blockNumber : ℕ) (db : Database) :
      StoreStep db (rewindFrom store blockNumber db)
  | prepareForReindex {store : SqliteProjectionStore} {blockNumber : ℕ}
      {verifiedBackupId : Option String} {db db' : Database}
      (h : prepareForReindex evidenceDigest store blockNumber verifiedBackupId db = .ok db') :
      StoreStep db db'
  | rebuildFromJournal (store : SqliteProjectionStore) (projectionBuildId : String)
      (db : Database) :
      StoreStep db (rebuildFromJournal evidenceDigest store projectionBuildId db).2
  | status (db : Database) (status : RuntimeStatus) : StoreStep db (db.setStatus status)

/-- A run of the store in which the rows of a batch are not deleted. -/
inductive Since (headers : List BlockHeader) (events : List OrderedEvent) :
    Database → Database → Prop where
  | refl (db : Database) : Since headers events db db
  | step {db m db' : Database} (h : Since headers events db m)
      (hstep : StoreStep evidenceDigest m db') (hstored : BatchStored headers events db') :
      Since headers events db db'

variable {evidenceDigest} {store : SqliteProjectionStore} {headers : List BlockHeader}
  {events : List OrderedEvent} {db db' : Database}

theorem insertBlock_hexLength {row : BlockRow} (h : insertBlock row db = .ok db') :
    hexLength row.blockHash 64 = true := by
  obtain ⟨_, hchecks, _⟩ := bind_ok.mp h
  exact checkAll_ok.mp hchecks ("indexed_block_hash_check", hexLength row.blockHash 64)
    (by simp [BlockRow.checks])

theorem insertEvent_ok {row : EventRow} (h : insertEvent row db = .ok db') :
    hexLength row.blockHash 64 = true ∧ (∀ r ∈ db.chainEvents.rows, r.key ≠ row.key) ∧
      ∃ t : Table EventRow EventRow.key, db' = { db with chainEvents := t } ∧
        t.rows = db.chainEvents.rows ++ [row] := by
  obtain ⟨_, hchecks, h⟩ := bind_ok.mp h
  refine ⟨checkAll_ok.mp hchecks ("event_block_hash_check", hexLength row.blockHash 64)
    (by simp [EventRow.checks]), ?_⟩
  split at h
  · cases h
  · rename_i t ht
    obtain ⟨hnew, hrows⟩ := Table.insert?_some.mp ht
    exact ⟨hnew, t, (Except.ok.inj h).symm, hrows⟩

theorem keepsSource_map {t : Table BlockRow BlockRow.blockHash} {f : BlockRow → BlockRow}
    (hf : ∀ b, unflagged (f b) = unflagged b)
    (hrows : t.rows = db.indexedBlocks.rows.map f) (hevents : db'.chainEvents = db.chainEvents)
    (hblocks : db'.indexedBlocks = t) : KeepsSource db db' ∧ (HashesChecked db → HashesChecked db') := by
  have hmem : ∀ b ∈ db'.indexedBlocks.rows, ∃ c ∈ db.indexedBlocks.rows, f c = b := by
    intro b hb
    rw [hblocks, hrows] at hb
    exact List.mem_map.mp hb
  constructor
  · constructor
    · intro b hb
      refine ⟨f b, ?_, hf b⟩
      rw [hblocks, hrows]
      exact List.mem_map_of_mem hb
    · rw [hevents]
      exact fun _ hr => hr
  · intro h
    constructor
    · intro b hb
      obtain ⟨c, hc, rfl⟩ := hmem b hb
      have hash : (unflagged (f c)).blockHash = (unflagged c).blockHash := by rw [hf c]
      exact hash ▸ h.blocks c hc
    · rw [hevents]
      exact h.events

theorem commitHeader_keeps {state state' : Database × List String} {header : BlockHeader}
    (h : commitHeader evidenceDigest store events state header = .ok state') :
    KeepsSource state.1 state'.1 ∧ (HashesChecked state.1 → HashesChecked state'.1) := by
  rcases commitHeader_ok h with ⟨_, _, _, _, hdb, _⟩ | ⟨_, _, _, _, _, hr⟩ | ⟨_, _, hi⟩
  · rw [hdb]
    exact ⟨.refl _, id⟩
  · obtain ⟨t, hdb, hrows⟩ := recanonicalize_ok hr
    rw [hdb]
    refine keepsSource_map (fun b => ?_) hrows rfl rfl
    split <;> rfl
  · have hhex := insertBlock_hexLength hi
    obtain ⟨_, t, hdb, hrows⟩ := insertBlock_ok hi
    rw [hdb]
    constructor
    · constructor
      · intro b hb
        refine ⟨b, ?_, rfl⟩
        show b ∈ t.rows
        rw [hrows]
        exact List.mem_append_left _ hb
      · exact fun _ hr => hr
    · intro hchecked
      constructor
      · intro b hb
        change b ∈ t.rows at hb
        rw [hrows] at hb
        rcases List.mem_append.mp hb with hb | hb
        · exact hchecked.blocks b hb
        · rw [List.mem_singleton.mp hb]
          exact hhex
      · exact hchecked.events

theorem applyToTables_keeps {ordered : OrderedEvent}
    (h : applyToTables store ordered db = .ok db') :
    KeepsSource db db' ∧ (HashesChecked db → HashesChecked db') := by
  obtain ⟨p, _, rfl⟩ := applyToTables_ok.mp h
  exact ⟨⟨fun b hb => ⟨b, hb, rfl⟩, fun _ hr => hr⟩, fun hc => ⟨hc.blocks, hc.events⟩⟩

theorem recordEvent_keeps {ordered : OrderedEvent} {again : Bool}
    (h : recordEvent evidenceDigest store ordered again db = .ok db') :
    KeepsSource db db' ∧ (HashesChecked db → HashesChecked db') := by
  simp only [recordEvent] at h
  split at h
  · simp only [failIf_bind_ok] at h
    obtain ⟨_, h⟩ := h
    split at h
    · exact applyToTables_keeps h
    · rw [← Except.ok.inj h]
      exact ⟨.refl _, id⟩
  · obtain ⟨db₁, hi, happly⟩ := bind_ok.mp h
    obtain ⟨hhex, _, t, rfl, hrows⟩ := insertEvent_ok hi
    obtain ⟨hkeeps, hchecked⟩ := applyToTables_keeps happly
    have hmem : ∀ r, r ∈ t.rows ↔ r ∈ db.chainEvents.rows ∨ r = eventRow evidenceDigest ordered := by
      intro r
      rw [hrows, List.mem_append, List.mem_singleton]
    have hinsert : KeepsSource db { db with chainEvents := t } :=
      ⟨fun b hb => ⟨b, hb, rfl⟩, fun r hr => (hmem r).mpr (.inl hr)⟩
    constructor
    · exact hinsert.trans hkeeps
    · intro hc
      apply hchecked
      constructor
      · exact hc.blocks
      · intro r hr
        rcases (hmem r).mp hr with hr | rfl
        · exact hc.events r hr
        · exact hhex

theorem commit_keeps (store : SqliteProjectionStore) (headers : List BlockHeader)
    (events : List OrderedEvent) (header : BlockHeader) (db : Database) :
    KeepsSource db (commit evidenceDigest store headers events header db).2 ∧
      (HashesChecked db → HashesChecked (commit evidenceDigest store headers events header db).2) := by
  rcases commit_cases (Prod.mk.eta (p := commit evidenceDigest store headers events header db)).symm
    with h | ⟨status, hdb⟩
  · obtain ⟨db₁, rc, db₂, hheaders, hevents, hdb⟩ := commitTransaction_ok h
    have h₁ := foldlM_invariant _
      (fun s => KeepsSource db s.1 ∧ (HashesChecked db → HashesChecked s.1))
      (fun _ _ _ hs ht => ⟨hs.1.trans (commitHeader_keeps ht).1,
        fun hc => (commitHeader_keeps ht).2 (hs.2 hc)⟩)
      headers _ _ ⟨.refl _, id⟩ hheaders
    have h₂ := foldlM_invariant _
      (fun s => KeepsSource db s ∧ (HashesChecked db → HashesChecked s))
      (fun _ _ _ hs ht => ⟨hs.1.trans (recordEvent_keeps ht).1,
        fun hc => (recordEvent_keeps ht).2 (hs.2 hc)⟩)
      events _ _ h₁ hevents
    rw [hdb]
    exact ⟨⟨h₂.1.blocks, h₂.1.events⟩, fun hc => ⟨(h₂.2 hc).blocks, (h₂.2 hc).events⟩⟩
  · rw [hdb]
    exact ⟨⟨fun b hb => ⟨b, hb, rfl⟩, fun _ hr => hr⟩, fun hc => ⟨hc.blocks, hc.events⟩⟩

theorem rewindFrom_keeps (store : SqliteProjectionStore) (blockNumber : ℕ) (db : Database) :
    KeepsSource db (rewindFrom store blockNumber db) ∧
      (HashesChecked db → HashesChecked (rewindFrom store blockNumber db)) := by
  obtain ⟨t, status, ht, hdb⟩ := rewindFrom_eq store blockNumber db
  rw [hdb]
  apply keepsSource_map _ ht
  · rfl
  · rfl
  · intro b
    unfold rewound
    split <;> rfl

theorem StoreStep.cases (h : StoreStep evidenceDigest db db') :
    (KeepsSource db db' ∨ db'.indexedBlocks.rows = [] ∧ db'.chainEvents.rows = []) ∧ (HashesChecked db → HashesChecked db') := by
  cases h with
  | commit store headers events header =>
    obtain ⟨hkeeps, hchecked⟩ := commit_keeps store headers events header db
    exact ⟨.inl hkeeps, hchecked⟩
  | rewindFrom store blockNumber =>
    obtain ⟨hkeeps, hchecked⟩ := rewindFrom_keeps store blockNumber db
    exact ⟨.inl hkeeps, hchecked⟩
  | @prepareForReindex store blockNumber _ _ _ hprepare =>
    unfold Indexer.prepareForReindex at hprepare
    split at hprepare
    · simp only [failIf_bind_ok] at hprepare
      obtain rfl := Except.ok.inj hprepare.2.2
      obtain ⟨status, hdb⟩ := markReindexStarted_eq store "SOURCE_REFRESH_REINDEX_REQUESTED"
        { db with
          chainEvents := .empty _
          indexedBlocks := .empty _
          checkpoint := { db.checkpoint with lastScanned := none } }
      rw [deleteSource, hdb]
      constructor
      · exact .inr ⟨rfl, rfl⟩
      · intro _
        exact ⟨fun b hb => absurd hb List.not_mem_nil, fun r hr => absurd hr List.not_mem_nil⟩
    · obtain rfl := Except.ok.inj hprepare
      obtain ⟨hkeeps, hchecked⟩ := rewindFrom_keeps store blockNumber db
      exact ⟨.inl hkeeps, hchecked⟩
  | rebuildFromJournal store projectionBuildId =>
    obtain ⟨p, c, status, hdb, _⟩ :=
      rebuildFromJournal_kept evidenceDigest store projectionBuildId db
    rw [hdb]
    exact ⟨.inl ⟨fun b hb => ⟨b, hb, rfl⟩, fun _ hr => hr⟩, fun hc => ⟨hc.blocks, hc.events⟩⟩
  | status status =>
    exact ⟨.inl ⟨fun b hb => ⟨b, hb, rfl⟩, fun _ hr => hr⟩, fun hc => ⟨hc.blocks, hc.events⟩⟩

theorem Since.keeps (h : Since evidenceDigest headers events db db') (hchecked : HashesChecked db) :
    (KeepsSource db db' ∨ headers = [] ∧ events = []) ∧ HashesChecked db' := by
  induction h with
  | refl => exact ⟨.inl (.refl _), hchecked⟩
  | step _ hstep hstored ih =>
    obtain ⟨hbefore, hbeforeChecked⟩ := ih
    obtain ⟨hkeeps, hafter⟩ := hstep.cases
    refine ⟨?_, hafter hbeforeChecked⟩
    rcases hkeeps with hkeeps | ⟨hblocks, hevents⟩
    · exact hbefore.imp_left fun hb => hb.trans hkeeps
    · -- a batch without rows is empty
      right
      rw [List.eq_nil_iff_forall_not_mem, List.eq_nil_iff_forall_not_mem]
      constructor
      · intro x hx
        obtain ⟨b, hb, _⟩ := hstored.blocks x hx
        rw [hblocks] at hb
        exact absurd hb List.not_mem_nil
      · intro e he
        obtain ⟨r, hr, _⟩ := hstored.events e he
        rw [hevents] at hr
        exact absurd hr List.not_mem_nil

/-- Each block row is an old one but for its flags, or has a property of new rows. -/
def Grown (P : BlockRow → Prop) (db db' : Database) : Prop :=
  ∀ b' ∈ db'.indexedBlocks.rows,
    (∃ b ∈ db.indexedBlocks.rows, unflagged b' = unflagged b) ∨ P b'

theorem Grown.refl (P : BlockRow → Prop) (db : Database) : Grown P db db :=
  fun b hb => .inl ⟨b, hb, rfl⟩

theorem Grown.trans {P : BlockRow → Prop} (hP : ∀ b b', unflagged b' = unflagged b → P b → P b')
    {a b c : Database} (h : Grown P a b) (h' : Grown P b c) : Grown P a c := by
  intro z hz
  rcases h' z hz with ⟨y, hy, hzy⟩ | hnew
  · rcases h y hy with ⟨x, hx, hyx⟩ | hnew
    · exact .inl ⟨x, hx, hzy.trans hyx⟩
    · exact .inr (hP y z hzy hnew)
  · exact .inr hnew

theorem commitHeader_grown {P : BlockRow → Prop} {state state' : Database × List String}
    {header : BlockHeader}
    (hnew : ∀ blockEvents, P (blockRow evidenceDigest store header blockEvents))
    (h : commitHeader evidenceDigest store events state header = .ok state') :
    Grown P state.1 state'.1 := by
  intro b hb
  rcases commitHeader_ok h with ⟨_, _, _, _, hdb, _⟩ | ⟨_, _, _, _, _, hr⟩ | ⟨_, _, hi⟩
  · exact .inl ⟨b, hdb ▸ hb, rfl⟩
  · obtain ⟨t, hdb, hrows⟩ := recanonicalize_ok hr
    rw [hdb] at hb
    change b ∈ t.rows at hb
    rw [hrows] at hb
    obtain ⟨c, hc, rfl⟩ := List.mem_map.mp hb
    left
    refine ⟨c, hc, ?_⟩
    split <;> rfl
  · obtain ⟨_, t, hdb, hrows⟩ := insertBlock_ok hi
    rw [hdb] at hb
    change b ∈ t.rows at hb
    rw [hrows] at hb
    rcases List.mem_append.mp hb with hb | hb
    · exact .inl ⟨b, hb, rfl⟩
    · right
      rw [List.mem_singleton.mp hb]
      exact hnew _

theorem commitTransaction_grown {P : BlockRow → Prop} {header : BlockHeader}
    (hP : ∀ b b', unflagged b' = unflagged b → P b → P b')
    (hnew : ∀ x blockEvents, P (blockRow evidenceDigest store x blockEvents))
    (h : commitTransaction evidenceDigest store headers events header db = .ok db') :
    Grown P db db' := by
  obtain ⟨db₁, rc, db₂, hheaders, hevents, hdb⟩ := commitTransaction_ok h
  have hgrown := foldlM_invariant _ (fun s => Grown P db s.1)
    (fun _ x _ hs ht => Grown.trans hP hs (commitHeader_grown (hnew x) ht)) headers _ _
    (Grown.refl P db) hheaders
  intro b hb
  rw [hdb] at hb
  change b ∈ db₂.indexedBlocks.rows at hb
  rw [recordEvents_frame hevents] at hb
  exact hgrown b hb

def ParentLower (b : BlockRow) : Prop := lower b.parentHash = b.parentHash

theorem parentLower_unflagged (b b' : BlockRow) (h : unflagged b' = unflagged b)
    (hb : ParentLower b) : ParentLower b' := by
  have hparent : (unflagged b').parentHash = (unflagged b).parentHash := by rw [h]
  unfold ParentLower
  rw [show b'.parentHash = b.parentHash from hparent]
  exact hb

theorem parentLower_blockRow (header : BlockHeader) (blockEvents : List OrderedEvent) :
    ParentLower (blockRow evidenceDigest store header blockEvents) := by
  show lower (lower header.parentHash) = lower header.parentHash
  exact lower_lower header.parentHash

structure Filed (evidenceDigest : Evidence → String) (store : SqliteProjectionStore)
    (events : List OrderedEvent) (header : BlockHeader) (b : BlockRow) : Prop where
  count : b.observedLogCount =
    (sortEvents (events.filter fun e => e.blockNumber = header.number)).length
  digest : b.observedLogDigest = observedLogDigest evidenceDigest
    ((sortEvents (events.filter fun e => e.blockNumber = header.number)).map
      OrderedEvent.toEnvelope)
  scope : b.logScopeHash = store.logScopeHash

/-- The row of a header. Its parent hash is the header's when the row was there
before the commit; a new row has it in lower case. -/
structure RowOf (evidenceDigest : Evidence → String) (store : SqliteProjectionStore)
    (db₀ : Database) (events : List OrderedEvent) (header : BlockHeader) (b : BlockRow) :
    Prop where
  hash : b.blockHash = lower header.hash
  filed : Filed evidenceDigest store events header b
  parent : b.parentHash = header.parentHash ↔ lower header.parentHash = header.parentHash ∨
    ∃ b₀ ∈ db₀.indexedBlocks.rows, b₀.blockHash = header.hash

theorem RowOf.congr {db₀ : Database} {header : BlockHeader} {b b' : BlockRow}
    (h : RowOf evidenceDigest store db₀ events header b) (hb : unflagged b' = unflagged b) :
    RowOf evidenceDigest store db₀ events header b' := by
  have hhash : (unflagged b').blockHash = (unflagged b).blockHash := by rw [hb]
  have hcount : (unflagged b').observedLogCount = (unflagged b).observedLogCount := by rw [hb]
  have hdigest : (unflagged b').observedLogDigest = (unflagged b).observedLogDigest := by rw [hb]
  have hscope : (unflagged b').logScopeHash = (unflagged b).logScopeHash := by rw [hb]
  have hparent : (unflagged b').parentHash = (unflagged b).parentHash := by rw [hb]
  change b'.parentHash = b.parentHash at hparent
  constructor
  · exact hhash.trans h.hash
  · exact ⟨hcount.trans h.filed.count, hdigest.trans h.filed.digest, hscope.trans h.filed.scope⟩
  · rw [hparent]
    exact h.parent

/-- A header that finds a row passes when the row is filed for it and names its parent. -/
theorem commitHeader_found {rc : List String} {header : BlockHeader} {b : BlockRow}
    (hb : b ∈ db.indexedBlocks.rows) (hhash : b.blockHash = header.hash)
    {state' : Database × List String} :
    commitHeader evidenceDigest store events (db, rc) header = .ok state' ↔
      Filed evidenceDigest store events header b ∧ b.parentHash = header.parentHash ∧
        (if b.isCanonical = true then .ok (db, rc)
          else do
            let db ← recanonicalize (lower header.hash) db
            .ok (db, lower header.hash :: rc) : Except StoreError _) = .ok state' := by
  have hfind : db.indexedBlocks.find? header.hash = some b := Table.find?_some.mpr ⟨hb, hhash⟩
  simp only [commitHeader, hfind]
  rw [failIf_bind_ok]
  simp only [blockRow, not_or, not_not]
  constructor
  · rintro ⟨⟨hcount, hdigest, hscope, hparent⟩, h⟩
    exact ⟨⟨hcount, hdigest, hscope⟩, hparent, h⟩
  · rintro ⟨hfiled, hparent, h⟩
    exact ⟨⟨hfiled.count, hfiled.digest, hfiled.scope, hparent⟩, h⟩

theorem commitHeader_row {db₀ : Database} {state state' : Database × List String}
    {header : BlockHeader} (hkeeps : KeepsSource db₀ state.1) (hgrown : Grown ParentLower db₀ state.1)
    (hchecked : HashesChecked state.1)
    (h : commitHeader evidenceDigest store events state header = .ok state') :
    ∃ b ∈ state'.1.indexedBlocks.rows, RowOf evidenceDigest store db₀ events header b := by
  obtain ⟨db, rc⟩ := state
  by_cases hknown : ∃ b ∈ db.indexedBlocks.rows, b.blockHash = header.hash
  · obtain ⟨b, hb, hhash⟩ := hknown
    obtain ⟨hfiled, hparent, _⟩ := (commitHeader_found hb hhash).mp h
    obtain ⟨b', hb', hsame⟩ := (commitHeader_keeps h).1.blocks b hb
    have hlower := lower_of_hexLength (hchecked.blocks b hb)
    have hrow : RowOf evidenceDigest store db₀ events header b := by
      constructor
      · rw [← hhash, hlower]
      · exact hfiled
      · constructor
        · intro _
          rcases hgrown b hb with ⟨b₀, hb₀, hsame₀⟩ | hlow
          · right
            have hhash₀ : (unflagged b).blockHash = (unflagged b₀).blockHash := by rw [hsame₀]
            exact ⟨b₀, hb₀, hhash₀.symm.trans hhash⟩
          · left
            rw [← hparent]
            exact hlow
        · exact fun _ => hparent
    exact ⟨b', hb', hrow.congr hsame⟩
  · rcases commitHeader_ok h with ⟨b, hb, hhash, _⟩ | ⟨b, hb, hhash, _⟩ | ⟨_, _, hi⟩
    · exact absurd ⟨b, hb, hhash⟩ hknown
    · exact absurd ⟨b, hb, hhash⟩ hknown
    · obtain ⟨_, t, hdb, hrows⟩ := insertBlock_ok hi
      refine ⟨blockRow evidenceDigest store header
        (sortEvents (events.filter fun e => e.blockNumber = header.number)), ?_,
        rfl, ⟨rfl, rfl, rfl⟩, ?_⟩
      · rw [hdb]
        show _ ∈ t.rows
        rw [hrows]
        exact List.mem_append_right _ (List.mem_singleton_self _)
      · constructor
        · exact fun hlow => .inl hlow
        · rintro (hlow | ⟨b₀, hb₀, hhash⟩)
          · exact hlow
          · -- a row of this hash would still be there
            obtain ⟨b, hb, hsame⟩ := hkeeps.blocks b₀ hb₀
            have hhash' : (unflagged b).blockHash = (unflagged b₀).blockHash := by rw [hsame]
            exact absurd ⟨b, hb, hhash'.trans hhash⟩ hknown

structure Noted (evidenceDigest : Evidence → String) (ordered : OrderedEvent) (r : EventRow) :
    Prop where
  rawEnvelopeDigest : r.rawEnvelopeDigest = (eventRow evidenceDigest ordered).rawEnvelopeDigest
  decodedJson : r.decodedJson = .json ordered.event
  decoderVersion : r.decoderVersion = decoderVersion
  sourceRecordDigest : r.sourceRecordDigest = (eventRow evidenceDigest ordered).sourceRecordDigest

theorem recordEvent_found {ordered : OrderedEvent} {again : Bool} {r : EventRow}
    (hr : r ∈ db.chainEvents.rows) (hkey : r.key = (ordered.blockHash, ordered.logIndex)) :
    recordEvent evidenceDigest store ordered again db = .ok db' ↔
      Noted evidenceDigest ordered r ∧
        (if again = true then applyToTables store ordered db else .ok db) = .ok db' := by
  have hfind : db.chainEvents.find? (ordered.blockHash, ordered.logIndex) = some r :=
    Table.find?_some.mpr ⟨hr, hkey⟩
  simp only [recordEvent, hfind, failIf_bind_ok, not_or, not_not]
  constructor
  · rintro ⟨⟨hraw, hevent, hdecoder, hsource⟩, h⟩
    exact ⟨⟨hraw, hevent, hdecoder, hsource⟩, h⟩
  · rintro ⟨hnoted, h⟩
    exact ⟨⟨hnoted.rawEnvelopeDigest, hnoted.decodedJson, hnoted.decoderVersion,
      hnoted.sourceRecordDigest⟩, h⟩

theorem recordEvent_row {ordered : OrderedEvent} {again : Bool} (hchecked : HashesChecked db)
    (h : recordEvent evidenceDigest store ordered again db = .ok db') :
    ∃ r ∈ db'.chainEvents.rows, r.key = (lower ordered.blockHash, ordered.logIndex) ∧
      Noted evidenceDigest ordered r := by
  by_cases hknown : ∃ r ∈ db.chainEvents.rows, r.key = (ordered.blockHash, ordered.logIndex)
  · obtain ⟨r, hr, hkey⟩ := hknown
    obtain ⟨hnoted, _⟩ := (recordEvent_found hr hkey).mp h
    refine ⟨r, (recordEvent_keeps h).1.events r hr, ?_, hnoted⟩
    have hhash : r.blockHash = ordered.blockHash := congrArg Prod.fst hkey
    rw [hkey, ← hhash, lower_of_hexLength (hchecked.events r hr)]
  · rcases recordEvent_ok h with ⟨r, hr, hkey, _⟩ | ⟨_, t, hrows, happly⟩
    · exact absurd ⟨r, hr, hkey⟩ hknown
    · refine ⟨eventRow evidenceDigest ordered, ?_, rfl, ⟨rfl, rfl, rfl, rfl⟩⟩
      apply (applyToTables_keeps happly).1.events
      show _ ∈ t.rows
      rw [hrows]
      exact List.mem_append_right _ (List.mem_singleton_self _)

theorem commitTransaction_rows {header : BlockHeader} (hchecked : HashesChecked db)
    (h : commitTransaction evidenceDigest store headers events header db = .ok db') :
    (∀ x ∈ headers, ∃ b ∈ db'.indexedBlocks.rows,
      RowOf evidenceDigest store db events x b) ∧
    (∀ e ∈ events, ∃ r ∈ db'.chainEvents.rows,
      r.key = (lower e.blockHash, e.logIndex) ∧ Noted evidenceDigest e r) ∧ HashesChecked db' := by
  obtain ⟨db₁, rc, db₂, hheaders, hevents, hdb⟩ := commitTransaction_ok h
  obtain ⟨⟨hkeeps₁, _, hchecked₁⟩, hrows₁⟩ := foldlM_mem
    (R := fun s t : Database × List String =>
      KeepsSource s.1 t.1 ∧ Grown ParentLower s.1 t.1 ∧ (HashesChecked s.1 → HashesChecked t.1))
    (fun s => ⟨.refl _, .refl _ _, id⟩)
    (fun s t u hst htu => ⟨hst.1.trans htu.1, hst.2.1.trans parentLower_unflagged htu.2.1,
      htu.2.2 ∘ hst.2.2⟩)
    (fun s a t hstep => ⟨(commitHeader_keeps hstep).1,
      commitHeader_grown (parentLower_blockRow a) hstep, (commitHeader_keeps hstep).2⟩) hheaders
  obtain ⟨⟨hkeeps₂, hchecked₂⟩, hrows₂⟩ := foldlM_mem
    (R := fun s t : Database => KeepsSource s t ∧ (HashesChecked s → HashesChecked t))
    (fun s => ⟨.refl _, id⟩)
    (fun s t u hst htu => ⟨hst.1.trans htu.1, htu.2 ∘ hst.2⟩)
    (fun s a t hstep => recordEvent_keeps hstep) hevents
  rw [hdb]
  refine ⟨fun x hx => ?_, fun e he => ?_, ?_⟩
  · obtain ⟨s, t, ⟨hkeeps, hgrown, hc⟩, hstep, ⟨hafter, _, _⟩⟩ := hrows₁ x hx
    obtain ⟨b, hb, hrow⟩ := commitHeader_row hkeeps hgrown (hc hchecked) hstep
    obtain ⟨b', hb', hsame⟩ := (hafter.trans hkeeps₂).blocks b hb
    exact ⟨b', hb', hrow.congr hsame⟩
  · obtain ⟨s, t, ⟨_, hc⟩, hstep, ⟨hafter, _⟩⟩ := hrows₂ e he
    obtain ⟨r, hr, hkey, hnoted⟩ := recordEvent_row (hc (hchecked₁ hchecked)) hstep
    exact ⟨r, hafter.events r hr, hkey, hnoted⟩
  · have hchecked' := hchecked₂ (hchecked₁ hchecked)
    exact ⟨hchecked'.blocks, hchecked'.events⟩

/-- A batch is found again by the hashes as it gives them: they are in lower
case, as is the hash of a parent that the first commit writes. -/
structure Repeatable (db₀ : Database) (headers : List BlockHeader) (events : List OrderedEvent) :
    Prop where
  headers : ∀ x ∈ headers, lower x.hash = x.hash ∧ (lower x.parentHash = x.parentHash ∨
    ∃ b₀ ∈ db₀.indexedBlocks.rows, b₀.blockHash = x.hash)
  events : ∀ e ∈ events, lower e.blockHash = e.blockHash

theorem commitHeader_again {db₀ : Database} {rc : List String} {x : BlockHeader} {b : BlockRow}
    (hb : b ∈ db.indexedBlocks.rows) (hrow : RowOf evidenceDigest store db₀ events x b)
    (hchecked : HashesChecked db) (hcanonical : db.IsCanonical (lower x.hash))
    (state' : Database × List String) :
    commitHeader evidenceDigest store events (db, rc) x = .ok state' ↔
      (lower x.hash = x.hash ∧ (lower x.parentHash = x.parentHash ∨
        ∃ b₀ ∈ db₀.indexedBlocks.rows, b₀.blockHash = x.hash)) ∧ state' = (db, rc) := by
  by_cases hlow : lower x.hash = x.hash
  · obtain ⟨c, hc, hhash, hflag⟩ := hcanonical
    obtain rfl := Table.eq_of_key hc hb (hhash.trans hrow.hash.symm)
    rw [commitHeader_found hb (hrow.hash.trans hlow), hrow.parent, if_pos hflag, Except.ok.injEq,
      eq_comm (a := (db, rc))]
    constructor
    · rintro ⟨_, hparent, hstate⟩
      exact ⟨⟨hlow, hparent⟩, hstate⟩
    · rintro ⟨⟨_, hparent⟩, hstate⟩
      exact ⟨hrow.filed, hparent, hstate⟩
  · constructor
    · intro h
      rcases commitHeader_ok h with ⟨c, hc, hhash, _⟩ | ⟨c, hc, hhash, _⟩ | ⟨_, _, hi⟩
      · exact absurd (hhash ▸ lower_of_hexLength (hchecked.blocks c hc)) hlow
      · exact absurd (hhash ▸ lower_of_hexLength (hchecked.blocks c hc)) hlow
      · -- the row is there under the hash in lower case
        exact absurd hrow.hash ((insertBlock_ok hi).1 b hb)
    · rintro ⟨⟨hlow', _⟩, _⟩
      exact absurd hlow' hlow

theorem recordEvent_again {e : OrderedEvent} {r : EventRow} (hr : r ∈ db.chainEvents.rows)
    (hkey : r.key = (lower e.blockHash, e.logIndex)) (hnoted : Noted evidenceDigest e r)
    (hchecked : HashesChecked db) (db' : Database) :
    recordEvent evidenceDigest store e false db = .ok db' ↔
      lower e.blockHash = e.blockHash ∧ db' = db := by
  by_cases hlow : lower e.blockHash = e.blockHash
  · rw [recordEvent_found hr (hlow ▸ hkey), if_neg Bool.false_ne_true, Except.ok.injEq,
      eq_comm (a := db)]
    constructor
    · rintro ⟨_, hdb⟩
      exact ⟨hlow, hdb⟩
    · rintro ⟨_, hdb⟩
      exact ⟨hnoted, hdb⟩
  · constructor
    · intro h
      simp only [recordEvent] at h
      split at h
      · rename_i c hc
        obtain ⟨hmem, hraw⟩ := Table.find?_some.mp hc
        have hhash : c.blockHash = e.blockHash := congrArg Prod.fst hraw
        exact absurd (hhash ▸ lower_of_hexLength (hchecked.events c hmem)) hlow
      · obtain ⟨_, hi, _⟩ := bind_ok.mp h
        exact absurd hkey ((insertEvent_ok hi).2.1 r hr)
    · rintro ⟨hlow', _⟩
      exact absurd hlow' hlow

theorem commitTransaction_iff {header : BlockHeader} :
    commitTransaction evidenceDigest store headers events header db = .ok db' ↔
      ¬(db.runtimeStatus.projectionStatus = .recoveryRequired ∧
        store.allowReindexRecovery = false) ∧
      (∃ state db₂, headers.foldlM (commitHeader evidenceDigest store events) (db, []) =
          .ok state ∧
        recordEvents evidenceDigest store state.2 events state.1 = .ok db₂ ∧
        setCheckpoint header db₂ = .ok db') ∧
      store.commitFaultHook .afterEventWrites = false ∧
      store.commitFaultHook .beforeCommit = false := by
  simp only [commitTransaction, failIf_ok, exists_const, bind_ok, Except.ok.injEq,
    Bool.not_eq_true]
  constructor
  · rintro ⟨hstatus, state, hheaders, db₂, hevents, hafter, db₃, hcheckpoint, hbefore, rfl⟩
    exact ⟨hstatus, ⟨state, db₂, hheaders, hevents, hcheckpoint⟩, hafter, hbefore⟩
  · rintro ⟨hstatus, ⟨state, db₂, hheaders, hevents, hcheckpoint⟩, hafter, hbefore⟩
    exact ⟨hstatus, state, hheaders, db₂, hevents, hafter, db', hcheckpoint, hbefore, rfl⟩

theorem commit_ok_iff {header : BlockHeader} :
    commit evidenceDigest store headers events header db = (.ok (), db') ↔
      commitTransaction evidenceDigest store headers events header db = .ok db' ∧
      store.commitFaultHook .beforeBegin = false ∧ store.commitFaultHook .afterCommit = false := by
  unfold commit
  by_cases hbegin : store.commitFaultHook .beforeBegin = true
  · simp [hbegin]
  · rw [if_neg hbegin]
    by_cases hafter : store.commitFaultHook .afterCommit = true
    · split <;> simp_all
    · split <;> simp_all

theorem setCheckpoint_ok_iff {header : BlockHeader} : setCheckpoint header db = .ok db' ↔
    checkAll [("checkpoint_block_check", safeInteger header.number),
      ("checkpoint_hash_check", hexLength (lower header.hash) 64)] = .ok () ∧
    db' = { db with checkpoint := { db.checkpoint with
      lastScanned := some (header.number, lower header.hash) } } := by
  simp only [setCheckpoint, bind_ok, Except.ok.injEq]
  constructor
  · rintro ⟨_, hchecks, hdb⟩
    exact ⟨hchecks, hdb.symm⟩
  · rintro ⟨hchecks, hdb⟩
    exact ⟨(), hchecks, hdb.symm⟩

theorem Since.rows {db₀ db₁ db₂ : Database} (hchecked : HashesChecked db₁)
    (hsince : Since evidenceDigest headers events db₁ db₂)
    (hblocks : ∀ x ∈ headers, ∃ b ∈ db₁.indexedBlocks.rows,
      RowOf evidenceDigest store db₀ events x b)
    (hevents : ∀ e ∈ events, ∃ r ∈ db₁.chainEvents.rows,
      r.key = (lower e.blockHash, e.logIndex) ∧ Noted evidenceDigest e r) :
    (∀ x ∈ headers, ∃ b ∈ db₂.indexedBlocks.rows,
      RowOf evidenceDigest store db₀ events x b) ∧
    (∀ e ∈ events, ∃ r ∈ db₂.chainEvents.rows,
      r.key = (lower e.blockHash, e.logIndex) ∧ Noted evidenceDigest e r) := by
  rcases (hsince.keeps hchecked).1 with hkeeps | ⟨rfl, rfl⟩
  · constructor
    · intro x hx
      obtain ⟨b, hb, hrow⟩ := hblocks x hx
      obtain ⟨b', hb', hsame⟩ := hkeeps.blocks b hb
      exact ⟨b', hb', hrow.congr hsame⟩
    · intro e he
      obtain ⟨r, hr, hnoted⟩ := hevents e he
      exact ⟨r, hkeeps.events r hr, hnoted⟩
  · exact ⟨fun x hx => absurd hx List.not_mem_nil, fun e he => absurd he List.not_mem_nil⟩

theorem commitSteps_again {db₀ : Database} (hchecked : HashesChecked db)
    (hblocks : ∀ x ∈ headers, ∃ b ∈ db.indexedBlocks.rows,
      RowOf evidenceDigest store db₀ events x b)
    (hevents : ∀ e ∈ events, ∃ r ∈ db.chainEvents.rows,
      r.key = (lower e.blockHash, e.logIndex) ∧ Noted evidenceDigest e r)
    (hcanonical : ∀ x ∈ headers, db.IsCanonical (lower x.hash)) (db' : Database) :
    (∃ state, headers.foldlM (commitHeader evidenceDigest store events) (db, []) = .ok state ∧
      recordEvents evidenceDigest store state.2 events state.1 = .ok db') ↔
      Repeatable db₀ headers events ∧ db' = db := by
  have hheaders : ∀ state,
      headers.foldlM (commitHeader evidenceDigest store events) (db, []) = .ok state ↔
        (∀ x ∈ headers, lower x.hash = x.hash ∧ (lower x.parentHash = x.parentHash ∨
          ∃ b₀ ∈ db₀.indexedBlocks.rows, b₀.blockHash = x.hash)) ∧ state = (db, []) := by
    apply foldlM_fixed
    intro x hx
    obtain ⟨b, hb, hrow⟩ := hblocks x hx
    exact commitHeader_again hb hrow hchecked (hcanonical x hx)
  have hrecords : ∀ db', recordEvents evidenceDigest store [] events db = .ok db' ↔
      (∀ e ∈ events, lower e.blockHash = e.blockHash) ∧ db' = db := by
    apply foldlM_fixed
    intro e he
    obtain ⟨r, hr, hkey, hnoted⟩ := hevents e he
    exact recordEvent_again hr hkey hnoted hchecked
  constructor
  · rintro ⟨state, hstate, hdb⟩
    obtain ⟨hP, rfl⟩ := (hheaders state).mp hstate
    obtain ⟨hQ, rfl⟩ := (hrecords db').mp hdb
    exact ⟨⟨hP, hQ⟩, rfl⟩
  · rintro ⟨hrepeatable, rfl⟩
    exact ⟨(db', []), (hheaders _).mpr ⟨hrepeatable.headers, rfl⟩,
      (hrecords _).mpr ⟨hrepeatable.events, rfl⟩⟩

/-- A commit that was made succeeds again, and changes no row, exactly when its
batch can be repeated. -/
theorem commit_again {header : BlockHeader} {db₀ db₁ db₂ : Database}
    (hchecked : HashesChecked db₀)
    (hfirst : commit evidenceDigest store headers events header db₀ = (.ok (), db₁))
    (hsince : Since evidenceDigest headers events db₁ db₂)
    (hcanonical : ∀ x ∈ headers, db₂.IsCanonical (lower x.hash))
    (hstatus : db₂.runtimeStatus.projectionStatus ≠ .recoveryRequired) :
    (∃ db₃, commit evidenceDigest store headers events header db₂ = (.ok (), db₃) ∧
      SameRows db₂ db₃) ↔ Repeatable db₀ headers events := by
  obtain ⟨htransaction, hhooks⟩ := commit_ok_iff.mp hfirst
  obtain ⟨hblocks₁, hevents₁, hchecked₁⟩ := commitTransaction_rows hchecked htransaction
  obtain ⟨hblocks, hevents⟩ := hsince.rows hchecked₁ hblocks₁ hevents₁
  obtain ⟨_, ⟨_, _, _, _, hcheckpoint⟩, hhooks'⟩ := commitTransaction_iff.mp htransaction
  have hchecks := (setCheckpoint_ok_iff.mp hcheckpoint).1
  have hsteps := commitSteps_again (hsince.keeps hchecked₁).2 hblocks hevents hcanonical
  constructor
  · rintro ⟨db₃, hcommit, _⟩
    obtain ⟨_, ⟨state, db', hheaders, hrecords, _⟩, _⟩ :=
      commitTransaction_iff.mp (commit_ok_iff.mp hcommit).1
    exact ((hsteps db').mp ⟨state, hheaders, hrecords⟩).1
  · intro hrepeatable
    obtain ⟨state, hheaders, hrecords⟩ := (hsteps db₂).mpr ⟨hrepeatable, rfl⟩
    refine ⟨_, commit_ok_iff.mpr ⟨commitTransaction_iff.mpr ⟨?_, ⟨state, db₂, hheaders, hrecords,
      setCheckpoint_ok_iff.mpr ⟨hchecks, rfl⟩⟩, hhooks'⟩, hhooks⟩, ⟨rfl, rfl, rfl⟩⟩
    exact fun h => hstatus h.1

/-- What a commit leaves that did not take effect: the status asks for recovery
when an event did not fit the projections. -/
def failedCommit (db : Database) : StoreError → Database
  | .commitIntegrity _ _ => markRecoveryRequired "PROJECTOR_INTEGRITY" db
  | _ => db

theorem commit_failed {header : BlockHeader} {e : StoreError}
    (hcommit : commit evidenceDigest store headers events header db = (.error e, db'))
    (hbefore : store.commitFaultHook .beforeBegin = true ∨
      ∀ t, commitTransaction evidenceDigest store headers events header db ≠ .ok t) :
    db' = failedCommit db e := by
  unfold commit at hcommit
  split at hcommit
  · obtain ⟨he, rfl⟩ := Prod.mk.inj hcommit
    obtain rfl := Except.error.inj he
    rfl
  · rename_i hbegin
    split at hcommit
    · rename_i t ht
      exact absurd ht (hbefore.resolve_left hbegin t)
    · obtain ⟨he, rfl⟩ := Prod.mk.inj hcommit
      obtain rfl := Except.error.inj he
      rfl
    · rename_i e' hnot _
      obtain ⟨he, rfl⟩ := Prod.mk.inj hcommit
      obtain rfl := Except.error.inj he
      cases e' with
      | commitIntegrity ordered cause => exact absurd rfl (hnot ordered cause)
      | _ => rfl

/-- A commit takes effect whole or not at all, and taken again it changes
nothing, exactly when its batch can be repeated. -/
theorem commit_atomic_and_repeated (evidenceDigest : Evidence → String)
    (store : SqliteProjectionStore) (headers : List BlockHeader) (events : List OrderedEvent)
    (header : BlockHeader) :
    (∀ db e db', commit evidenceDigest store headers events header db = (.error e, db') →
      store.commitFaultHook .beforeBegin = true ∨
        (∀ t, commitTransaction evidenceDigest store headers events header db ≠ .ok t) →
      db' = failedCommit db e) ∧
    (∀ db₀ db₁ db₂, HashesChecked db₀ →
      commit evidenceDigest store headers events header db₀ = (.ok (), db₁) →
      Since evidenceDigest headers events db₁ db₂ →
      (∀ x ∈ headers, db₂.IsCanonical (lower x.hash)) →
      db₂.runtimeStatus.projectionStatus ≠ .recoveryRequired →
      ((∃ db₃, commit evidenceDigest store headers events header db₂ = (.ok (), db₃) ∧
        SameRows db₂ db₃) ↔ Repeatable db₀ headers events)) := by
  constructor
  · intro db e db' hcommit hbefore
    exact commit_failed hcommit hbefore
  · intro db₀ db₁ db₂ hchecked hfirst hsince hcanonical hstatus
    exact commit_again hchecked hfirst hsince hcanonical hstatus

end

/-! A mint, an event that does not fit, and a block whose hash has upper-case digits. -/

theorem hashesChecked_fresh : HashesChecked fresh :=
  ⟨fun _ hb => absurd hb List.not_mem_nil, fun _ hr => absurd hr List.not_mem_nil⟩

theorem commitMint_run :
    (commit mintDigest plainStore [mintBlock] [mint] mintBlock fresh).1 = .ok () ∧
    (∃ b ∈ (commitMint fresh).indexedBlocks.rows,
      b.blockHash = hex 64 1 ∧ b.isCanonical = true) ∧
    (commitMint fresh).runtimeStatus.projectionStatus ≠ .recoveryRequired := by
  decide +kernel

theorem commit_mint_first : commit mintDigest plainStore [mintBlock] [mint] mintBlock fresh =
    (.ok (), commitMint fresh) := by
  apply Prod.ext commitMint_run.1
  rw [commitMint]

def completedMint : OrderedEvent := { mint with event := .saleCompleted "1" }

def commitCompletedMint (db : Database) : Except StoreError Unit × Database :=
  commit mintDigest plainStore [mintBlock] [completedMint] mintBlock db

def completedMintError : StoreError :=
  .commitIntegrity completedMint (.integrity .sale "1" "SaleCompleted" "SaleCreated")

theorem commitCompletedMint_fresh :
    commitCompletedMint fresh = (.error completedMintError, (commitCompletedMint fresh).2) := by
  have herror : (commitCompletedMint fresh).1 = .error completedMintError := by decide +kernel
  rw [← herror]

theorem commitTransaction_completedMint (t : Database) :
    commitTransaction mintDigest plainStore [mintBlock] [completedMint] mintBlock fresh ≠
      .ok t := by
  intro ht
  have hok : commitCompletedMint fresh = (.ok (), t) := commit_ok_iff.mpr ⟨ht, rfl, rfl⟩
  rw [commitCompletedMint_fresh] at hok
  cases congrArg Prod.fst hok

theorem commit_atomic_and_repeated_mint :
    (commitCompletedMint fresh).2 = failedCommit fresh completedMintError ∧
    ∃ db₃, commit mintDigest plainStore [mintBlock] [mint] mintBlock (commitMint fresh) =
        (.ok (), db₃) ∧ SameRows (commitMint fresh) db₃ := by
  constructor
  · exact (commit_atomic_and_repeated mintDigest plainStore [mintBlock] [completedMint]
      mintBlock).1 fresh completedMintError (commitCompletedMint fresh).2
      commitCompletedMint_fresh (.inr commitTransaction_completedMint)
  · apply ((commit_atomic_and_repeated mintDigest plainStore [mintBlock] [mint] mintBlock).2
      fresh (commitMint fresh) (commitMint fresh) hashesChecked_fresh commit_mint_first (.refl _) ?_
      commitMint_run.2.2).mpr
    · constructor
      · intro x hx
        obtain rfl := List.mem_singleton.mp hx
        exact ⟨lower_hex 64 1, .inl (lower_hex 64 0)⟩
      · intro e he
        obtain rfl := List.mem_singleton.mp he
        exact lower_hex 64 1
    · intro x hx
      obtain rfl := List.mem_singleton.mp hx
      exact (lower_hex 64 1).symm ▸ commitMint_run.2.1

def upperCaseBlock : BlockHeader :=
  ⟨5, String.ofList ('0' :: 'x' :: List.replicate 64 'A'), hex 64 0, 1000⟩

def commitUpperCase (db : Database) : Except StoreError Unit × Database :=
  commit mintDigest plainStore [upperCaseBlock] [] upperCaseBlock db

theorem commitUpperCase_run : (commitUpperCase fresh).1 = .ok () ∧
    (∃ b ∈ (commitUpperCase fresh).2.indexedBlocks.rows,
      b.blockHash = lower upperCaseBlock.hash ∧ b.isCanonical = true) ∧
    (commitUpperCase fresh).2.runtimeStatus.projectionStatus ≠ .recoveryRequired ∧
    (commitUpperCase (commitUpperCase fresh).2).1 ≠ .ok () := by
  decide +kernel

theorem commitUpperCase_fresh : commitUpperCase fresh = (.ok (), (commitUpperCase fresh).2) := by
  rw [← commitUpperCase_run.1]

theorem commit_upperCase_not_repeated : ¬∀ (evidenceDigest : Evidence → String)
    (store : SqliteProjectionStore) (headers : List BlockHeader) (events : List OrderedEvent)
    (header : BlockHeader) (db₀ db₁ db₂ : Database), HashesChecked db₀ →
      commit evidenceDigest store headers events header db₀ = (.ok (), db₁) →
      Since evidenceDigest headers events db₁ db₂ →
      (∀ x ∈ headers, db₂.IsCanonical (lower x.hash)) →
      db₂.runtimeStatus.projectionStatus ≠ .recoveryRequired →
      ∃ db₃, commit evidenceDigest store headers events header db₂ = (.ok (), db₃) ∧
        SameRows db₂ db₃ := by
  intro hall
  obtain ⟨db₃, hagain, _⟩ := hall mintDigest plainStore [upperCaseBlock] [] upperCaseBlock
    fresh (commitUpperCase fresh).2 (commitUpperCase fresh).2 hashesChecked_fresh
    commitUpperCase_fresh (.refl _)
    (fun x hx => List.mem_singleton.mp hx ▸ commitUpperCase_run.2.1) commitUpperCase_run.2.2.1
  exact commitUpperCase_run.2.2.2 (congrArg Prod.fst hagain)

end MotorCove.Indexer
