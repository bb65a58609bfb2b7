import MotorCove.Indexer.FixedChain
import MotorCove.Maintenance.ProjectionRuns

/-!
# A reindex that is cut and run again

Until its rewind a reindex leaves the tables of its start; from then on they are
those below its first block, with rows of the chain above. A replay folds them,
and the end of the run fixes how far they reach. Nothing depends on where the
attempts before were cut.
-/

set_option autoImplicit false

namespace MotorCove.Maintenance
open MotorCove.Crashes MotorCove.Effects MotorCove.Fallible MotorCove.Histories MotorCove.Indexer
  MotorCove.Text

/-- What a reindex is about: the deployment, the names and the timestamps of its
blocks, the chain as it stands, the first block, and the store at the start. -/
structure Reindex where
  evidenceDigest : Evidence → String
  config : Config
  blocks : Blocks
  timestamp : String → ℕ
  chain : FixedChain
  fromBlock : ℕ
  db₀ : Database
  chain₀ : List BlockRow

/-- An attempt at a reindex from a block, on the chain as it stands. -/
structure Reruns {σ : Type} (F : FixedChain) (B : Blocks) (timestamp : String → ℕ)
    (fromBlock : ℕ) (a : Attempt σ) : Prop where
  operation : a.operation = .reindex fromBlock
  serves : F.Serves B timestamp a.host.chain

namespace Reindex
variable (X : Reindex)

def target : ℕ := X.chain.target X.config.finality X.config.indexingDepth

def targetHash : String := (X.chain.block X.target).hash

def kept : List BlockRow := X.chain₀.take (X.fromBlock - X.config.scanStartBlock)

structure Starts : Prop where
  covered : Covered X.evidenceDigest X.blocks X.chain₀ X.db₀
  stamped : Stamped X.timestamp X.db₀.checkpoint.logScopeHash X.db₀
  scanStartBlock : X.db₀.scanStartBlock = X.config.scanStartBlock

/-- The tables once rewound: the rows kept, with rows of the chain above. -/
structure Regrown (added : List BlockRow) (db : Database) : Prop where
  covered : Covered X.evidenceDigest X.blocks (X.kept ++ added) db
  holds : X.chain.Holds X.target added
  stamped : Stamped X.timestamp X.config.logScopeHash db
  scanStartBlock : db.scanStartBlock = X.config.scanStartBlock

structure Replayed (added : List BlockRow) (db : Database) : Prop extends X.Regrown added db where
  projections : applyEvents X.config.nftAddress (X.blocks.chainEvents (X.kept ++ added))
    noProjections = .ok db.projections

structure Complete (added : List BlockRow) (db : Database) : Prop extends
    X.Replayed added db where
  reached : X.target < db.scanStartBlock + (X.kept ++ added).length
  canonical : hasCanonicalBlock X.target X.targetHash db = true

/-- The marker of this reindex, with the target of the chain. -/
structure Marks (m : MaintenanceMarker) : Prop where
  type : m.operationType = .reindexProjection
  reindexFromBlock : m.reindexFromBlock = some (Nat.repr X.fromBlock)
  targetBlock : m.targetBlock = some (Nat.repr X.target)
  targetHash : m.targetHash = some X.targetHash

def Markers (P : MaintenanceMarker → Prop) (s : Site) : Prop :=
  ∀ m, s.marker = some m ∨ s.currentMarker = some m → P m

/-- Any site between two steps. -/
structure Interrupted (s : Site) : Prop where
  markers : Markers X.Marks s
  tables : ((∃ status, s.db = X.db₀.setStatus status) ∧
      Markers (fun m => m.projectionPhase ≠ some .catchingUp) s) ∨
    ∃ added, X.Regrown added s.db

def Rewound (s : Site) : Prop := Markers X.Marks s ∧ ∃ added, X.Regrown added s.db

def CatchingUp (s : Site) : Prop := Markers X.Marks s ∧ ∃ added, X.Replayed added s.db

def Finished (s : Site) : Prop := Markers X.Marks s ∧ ∃ added, X.Complete added s.db

def Hosted {σ : Type} (host : Host σ) : Prop :=
  X.chain.Serves X.blocks X.timestamp host.chain

variable {X} {s : Site} {added : List BlockRow} {db db' : Database} {m : MaintenanceMarker}
  {P Q : MaintenanceMarker → Prop}

theorem Markers.withCurrent (h : Markers P s) (hm : P m) :
    Markers P { s with currentMarker := some m } := by
  rintro m' (hmarker | hcurrent)
  · exact h m' (.inl hmarker)
  · cases hcurrent
    exact hm

theorem Markers.withMarker (h : Markers P s) (hm : P m) :
    Markers P { s with marker := some m } := by
  rintro m' (hmarker | hcurrent)
  · cases hmarker
    exact hm
  · exact h m' (.inr hcurrent)

theorem Markers.withoutMarker (h : Markers P s) : Markers P { s with marker := none } := by
  rintro m' (hmarker | hcurrent)
  · cases hmarker
  · exact h m' (.inr hcurrent)

theorem Markers.withoutCurrent (h : Markers P s) : Markers P { s with currentMarker := none } := by
  rintro m' (hmarker | hcurrent)
  · exact h m' (.inl hmarker)
  · cases hcurrent

theorem Rewound.interrupted (h : X.Rewound s) : X.Interrupted s := ⟨h.1, .inr h.2⟩

theorem CatchingUp.rewound (h : X.CatchingUp s) : X.Rewound s :=
  ⟨h.1, h.2.imp fun _ hdb => hdb.toRegrown⟩

theorem Finished.interrupted (h : X.Finished s) : X.Interrupted s :=
  ⟨h.1, .inr (h.2.imp fun _ hdb => hdb.toRegrown)⟩

theorem Interrupted.withMarkers (h : X.Interrupted s) (hm : X.Marks m)
    (hphase : Markers (fun m => m.projectionPhase ≠ some .catchingUp) s →
      m.projectionPhase ≠ some .catchingUp) :
    X.Interrupted { s with currentMarker := some m } ∧
      X.Interrupted { s with currentMarker := some m, marker := some m } := by
  have hcurrent := h.markers.withCurrent hm
  refine ⟨⟨hcurrent, ?_⟩, ⟨hcurrent.withMarker hm, ?_⟩⟩
  · refine h.tables.imp_left fun hstart => ⟨hstart.1, ?_⟩
    exact hstart.2.withCurrent (hphase hstart.2)
  · refine h.tables.imp_left fun hstart => ⟨hstart.1, ?_⟩
    exact (hstart.2.withCurrent (hphase hstart.2)).withMarker (hphase hstart.2)

theorem Regrown.setStatus (h : X.Regrown added db) (status : RuntimeStatus) :
    X.Regrown added (db.setStatus status) :=
  ⟨h.covered.setStatus status, h.holds, h.stamped, h.scanStartBlock⟩

theorem Replayed.setStatus (h : X.Replayed added db) (status : RuntimeStatus) :
    X.Replayed added (db.setStatus status) :=
  ⟨h.toRegrown.setStatus status, h.projections⟩

theorem Interrupted.setStatus (h : X.Interrupted s) {call : StoreCall} {status : RuntimeStatus}
    (hdb : db = s.db.setStatus status) : X.Interrupted (s.called call db) := by
  refine ⟨h.markers, ?_⟩
  rcases h.tables with ⟨⟨status₀, hstart⟩, hphases⟩ | ⟨added, hregrown⟩
  · refine .inl ⟨⟨status, ?_⟩, hphases⟩
    show db = X.db₀.setStatus status
    rw [hdb, hstart]
    rfl
  · exact .inr ⟨added, hdb ▸ hregrown.setStatus status⟩

/-- The preparation rewinds the tables of the start, or those of an attempt
before, to the same rows. -/
theorem Interrupted.prepared (hstarts : X.Starts) (h : X.Interrupted s)
    {store : SqliteProjectionStore} (hopened : ReindexOpened X.config X.fromBlock store s.db)
    {verifiedBackupId : Option String}
    (hprepare : prepareForReindex X.evidenceDigest store X.fromBlock verifiedBackupId s.db =
      .ok db) : ∃ added, X.Regrown added db := by
  rcases h.tables with ⟨⟨status, hstart⟩, _⟩ | ⟨added, hregrown⟩
  · have hcovered : Covered X.evidenceDigest X.blocks X.chain₀ s.db :=
      hstart ▸ hstarts.covered.setStatus status
    have hscan : s.db.scanStartBlock = X.config.scanStartBlock := by
      rw [hstart]
      exact hstarts.scanStartBlock
    have hstamped : s.db.checkpoint.logScopeHash = X.config.logScopeHash →
        Stamped X.timestamp X.config.logScopeHash s.db := by
      intro hsame
      rw [hstart] at hsame ⊢
      rw [← hsame]
      exact hstarts.stamped
    obtain ⟨htake, hstamps, hkept⟩ :=
      prepareForReindex_take hcovered hstamped hopened.changed hprepare
    refine ⟨[], ?_, nofun, hstamps, hkept.trans hscan⟩
    rw [List.append_nil, Reindex.kept, ← hscan]
    exact htake
  · obtain ⟨htake, hstamps, hkept⟩ :=
      prepareForReindex_take hregrown.covered (fun _ => hregrown.stamped) hopened.changed hprepare
    refine ⟨added.take (X.fromBlock - X.config.scanStartBlock - X.kept.length), ?_,
      hregrown.holds.take _, hstamps, hkept.trans hregrown.scanStartBlock⟩
    rw [hregrown.scanStartBlock, List.take_append] at htake
    have hall : X.kept.take (X.fromBlock - X.config.scanStartBlock) = X.kept := by
      apply List.take_of_length_le
      rw [Reindex.kept, List.length_take]
      omega
    rw [hall] at htake
    exact htake

theorem Rewound.replayed (h : X.Rewound s) {store : SqliteProjectionStore}
    (hstore : ReindexStore X.config store) {projectionBuildId : String} {preserve : Bool}
    {events : ℕ}
    (hrebuild : rebuildTransaction store projectionBuildId preserve s.db = .ok (events, db)) :
    ∃ added, X.Replayed added db := by
  obtain ⟨added, hregrown⟩ := h.2
  obtain ⟨hprojected, hblocks, hscan⟩ := rebuildTransaction_projected hregrown.covered hrebuild
  rw [hstore.collection] at hprojected
  refine ⟨added, ⟨hprojected.covered, hregrown.holds, ?_, hscan.trans hregrown.scanStartBlock⟩,
    hprojected.projections⟩
  intro b hb
  rw [hblocks] at hb
  exact hregrown.stamped b hb

theorem Replayed.wrote {σ : Type} {reader : ChainReader σ} {store : SqliteProjectionStore}
    (h : X.Replayed added db) (hserves : X.chain.Serves X.blocks X.timestamp reader)
    (hstore : ReindexStore X.config store)
    (hwrote : Wrote X.evidenceDigest store reader X.config.scanStartBlock (some X.target) db db') :
    ∃ added, X.Replayed added db' := by
  rw [← h.scanStartBlock] at hwrote
  obtain ⟨more, hmore, hprojected⟩ :=
    hserves.projected ⟨h.covered, h.projections⟩ hstore.collection hwrote
  rw [List.append_assoc] at hprojected
  exact ⟨added ++ more, ⟨hprojected.covered, h.holds.append hmore,
    hwrote.stamped hserves.stamps hstore.scope h.stamped,
    hwrote.scanStartBlock.trans h.scanStartBlock⟩, hprojected.projections⟩

theorem Replayed.complete (h : X.Replayed added db) {header : Option BlockHeader}
    (hheader : checkpoint db = .ok header) (hreached : X.target < heightOf header)
    (hcanonical : hasCanonicalBlock X.target X.targetHash db = true) : X.Complete added db := by
  refine ⟨h, ?_, hcanonical⟩
  have hlast := checkpoint_ok hheader
  cases header with
  | none => simp [heightOf] at hreached
  | some c =>
    have hnumber := (h.covered.toSpine.checkpoint_number hlast).2
    simp only [heightOf, Option.map_some, Option.getD_some] at hreached
    omega

variable {σ : Type} {host : Host σ}

theorem value_target : value (Nat.repr X.target).toList = X.target := value_repr _

theorem steps (hstarts : X.Starts) (hhost : X.Hosted host) :
    ReindexSteps X.evidenceDigest X.config host X.fromBlock X.Marks X.Interrupted X.Interrupted
      X.Rewound X.CatchingUp X.Finished := by
  constructor
  case ofA => exact fun _ => id
  case ofB => exact fun _ => Rewound.interrupted
  case ofC => exact fun _ h => h.rewound.interrupted
  case resumed =>
    intro s m h hm hphase
    rcases h.tables with hstart | hregrown
    · exact absurd hphase (hstart.2 m (.inr hm))
    · exact ⟨h.markers, hregrown⟩
  case archived =>
    intro s m backupId h hm
    have hmarks := h.markers m (.inr hm)
    exact h.withMarkers ⟨hmarks.type, hmarks.reindexFromBlock, hmarks.targetBlock,
      hmarks.targetHash⟩ fun hphases => hphases m (.inr hm)
  case preparing =>
    intro s m h hm _
    have hmarks := h.markers m (.inr hm)
    exact h.withMarkers ⟨hmarks.type, hmarks.reindexFromBlock, hmarks.targetBlock,
      hmarks.targetHash⟩ fun _ => nofun
  case prepared =>
    exact fun s store _ db h hopened hprepare => ⟨h.markers, h.prepared hstarts hopened hprepare⟩
  case rebuilt =>
    exact fun s store barrier id events db hstore h _ hrebuild =>
      ⟨h.1, h.replayed hstore hrebuild⟩
  case rebuildFailed => exact fun s reason h => h.setStatus rfl
  case catchingUp =>
    intro s m h hm
    have hmarks := h.1 m (.inr hm)
    have hnew : X.Marks { m with projectionPhase := some .catchingUp } :=
      ⟨hmarks.type, hmarks.reindexFromBlock, hmarks.targetBlock, hmarks.targetHash⟩
    exact ⟨⟨h.1.withCurrent hnew, h.2⟩, ⟨(h.1.withCurrent hnew).withMarker hnew, h.2⟩⟩
  case ingested =>
    intro store m targetBlock hstore hmarks hblock turn s h
    obtain ⟨added, hreplayed⟩ := h.2
    obtain rfl : Nat.repr X.target = targetBlock :=
      Option.some.inj (hmarks.targetBlock.symm.trans hblock)
    rw [value_target]
    constructor
    · have hwrote := ingestRange_wrote X.evidenceDigest store host.chain X.config.batchSize
        X.config.scanStartBlock X.config.indexingDepth (some X.target) X.config.finality
        ⟨host.chainAt turn, s.db, []⟩
      exact ⟨h.1, hreplayed.wrote hhost hstore hwrote⟩
    · obtain ⟨status, hdb⟩ := ingestToObservation_eq host.chain X.config.batchSize
        X.config.indexingDepth X.config.finality ⟨host.chainAt turn, s.db, []⟩
      rw [hdb]
      exact ⟨h.1, added, hreplayed.setStatus status⟩
  case completed =>
    intro s store m targetBlock targetHash header db _ h hmarks hblock hhash hheader hreached
      hcanonical hcompleted
    obtain ⟨added, hreplayed⟩ := h.2
    obtain rfl : Nat.repr X.target = targetBlock :=
      Option.some.inj (hmarks.targetBlock.symm.trans hblock)
    obtain rfl : X.targetHash = targetHash := Option.some.inj (hmarks.targetHash.symm.trans hhash)
    rw [value_target] at hreached hcanonical hcompleted
    have hcomplete := hreplayed.complete hheader hreached hcanonical
    obtain ⟨status, hdb⟩ := completeReindexRecovery_eq hcompleted
    have hfinished : X.Finished (s.called (.completeReindexRecovery m) db) := by
      refine ⟨h.1, added, ?_⟩
      show X.Complete added db
      rw [hdb]
      exact ⟨hreplayed.setStatus status, hcomplete.reached, hcomplete.canonical⟩
    exact ⟨hfinished.interrupted, hfinished⟩

variable (X) in
def Resolved (existing : Option MaintenanceMarker) (recovery : ProjectionRecovery) : Prop :=
  recovery.reindexFromBlock = some (Nat.repr X.fromBlock) ∧ (existing = none →
    recovery.targetBlock = some (Nat.repr X.target) ∧ recovery.targetHash = some X.targetHash)

theorem resolves (hhost : X.Hosted host) :
    Resolves (reindexOptions X.evidenceDigest X.config host X.fromBlock) X.Resolved := by
  intro existing s
  cases existing with
  | some m =>
    refine (reindex_resolves (some m) s).mono ?_ fun _ _ => id
    exact fun recovery s' h => ⟨h.1, h.2.1, nofun⟩
  | none =>
    refine holds_bind (holds_bind (holds_ask (fun turn observation hanswer => ?_) fun _ _ _ => rfl))
    have htarget : ∀ header ∈ observation.eligibleHead, header.number = X.target := by
      have hends := hhost.target_ends X.config.finality X.config.indexingDepth
        ⟨host.chainAt turn, s.db, []⟩
      unfold Ends at hends
      split at hends
      · rename_i found _ hrun
        rw [hrun] at hanswer
        obtain rfl := Except.ok.inj hanswer
        exact hends
      · rename_i hrun
        rw [hrun] at hanswer
        cases hanswer
    split
    · exact holds_refuse rfl
    · rename_i eligibleHead hsome
      rw [htarget eligibleHead hsome]
      refine holds_bind (holds_readBlock (fun _ first _ => ?_) fun _ => rfl)
      refine holds_bind (holds_readBlock (fun turn block hread => ?_) fun _ => rfl)
      have hanswered : Answers (host.chain.getBlock X.target) block := ⟨_, hread⟩
      refine holds_bind (holds_refuseIf (fun _ => holds_pure (holds_pure ?_)) fun _ => rfl)
      refine ⟨rfl, rfl, fun _ => ⟨?_, ?_⟩⟩
      · show some (Nat.repr block.number) = _
        rw [hhost.number _ _ hanswered]
      · show some block.hash = _
        rw [hhost.block _ _ hanswered]
        rfl

theorem Interrupted.withoutCurrent (h : X.Interrupted s) :
    X.Interrupted { s with currentMarker := none } :=
  ⟨h.markers.withoutCurrent, h.tables.imp_left fun hstart => ⟨hstart.1, hstart.2.withoutCurrent⟩⟩

/-- The marker of an admission is the reindex's, in the phase of the one before. -/
theorem Interrupted.prepared_marks (h : X.Interrupted s) {admission : Admission}
    (hadmitted : Admitted X.config (reindexOptions X.evidenceDigest X.config host X.fromBlock)
      X.Resolved s admission) (operationId : String) :
    X.Marks (preparedMarker X.config (reindexOptions X.evidenceDigest X.config host X.fromBlock)
      operationId admission) := by
  cases hmarker : s.marker with
  | none =>
    obtain ⟨_, hfrom, htarget⟩ := hadmitted.fresh hmarker
    exact ⟨rfl, hfrom, (htarget rfl).1, (htarget rfl).2⟩
  | some m =>
    have hmarks := h.markers m (.inl hmarker)
    cases htransition : admission.transition with
    | true =>
      have hrebuild := (hadmitted.transition m hmarker htransition).1
      rw [hmarks.type] at hrebuild
      cases hrebuild
    | false =>
      obtain ⟨_, _, _, hfrom, hblock, hhash⟩ := hadmitted.resumed m hmarker htransition
      exact ⟨rfl, hfrom.symm.trans hmarks.reindexFromBlock, hblock.symm.trans hmarks.targetBlock,
        hhash.symm.trans hmarks.targetHash⟩

theorem carries (hstarts : X.Starts) (hhost : X.Hosted host) (h : X.Interrupted s) :
    Carries X.config (reindexOptions X.evidenceDigest X.config host X.fromBlock) X.Resolved s
      X.Interrupted X.Finished where
  start := h.withoutCurrent
  prepared := by
    intro admission operationId hadmitted
    refine (h.withMarkers (h.prepared_marks hadmitted operationId) fun hphases => ?_).1
    intro hphase
    obtain ⟨m, hexisting, hm⟩ := Option.bind_eq_some_iff.mp hphase
    rw [hadmitted.existing] at hexisting
    exact hphases m (.inl hexisting) hm
  written := by
    intro s m hs hm
    refine ⟨hs.markers.withMarker (hs.markers m (.inr hm)), ?_⟩
    exact hs.tables.imp_left fun hstart => ⟨hstart.1, hstart.2.withMarker (hstart.2 m (.inr hm))⟩
  failed := by
    intro s m _ message hs hm _
    have hmarks := hs.markers m (.inr hm)
    refine ⟨hs.markers.withMarker ⟨hmarks.type, hmarks.reindexFromBlock, hmarks.targetBlock,
      hmarks.targetHash⟩, ?_⟩
    exact hs.tables.imp_left fun hstart => ⟨hstart.1, hstart.2.withMarker (hstart.2 m (.inr hm))⟩
  activated := by
    intro s m hs hm
    have hmarks := hs.markers m (.inr hm)
    have hactive : X.Marks m.activated :=
      ⟨hmarks.type, hmarks.reindexFromBlock, hmarks.targetBlock, hmarks.targetHash⟩
    exact (hs.withMarkers hactive fun hphases => hphases m (.inr hm)).1
  raised := by
    intro s reason hs
    obtain ⟨status, hdb⟩ := barAgain_eq reason s.db
    exact hs.setStatus hdb
  run := by
    intro admission operationId s' _ hs' _ _ hcurrent
    exact (steps hstarts hhost).run_holds hs' hcurrent (hs'.markers _ (.inr hcurrent))
      admission.barrier
  ran := fun _ => Finished.interrupted
  cleared := by
    intro s hs
    exact ⟨hs.1.withoutMarker, .inr (hs.2.imp fun _ hdb => hdb.toRegrown)⟩

theorem reindex_holds (hstarts : X.Starts) (hhost : X.Hosted host) (h : X.Interrupted s) :
    Holds (reindex X.evidenceDigest X.config host X.fromBlock) s
      (fun _ s' => X.Interrupted s' ∧ s'.marker = none ∧ ∃ added, X.Complete added s'.db)
      fun _ s' => X.Interrupted s' := by
  have hcarries := carries hstarts hhost h
  refine holds_bind (holds_refuseIf (fun _ => ?_) fun _ => h)
  refine holds_bind (holds_answer (fun _ => ?_) fun _ => h)
  refine (hcarries.runProjectionMaintenance_holds (resolves hhost)).mono ?_ fun _ _ => id
  rintro _ _ ⟨s', hs', rfl⟩
  exact ⟨hcarries.cleared s' hs', rfl, hs'.2⟩

theorem attempt_interrupted (hstarts : X.Starts) {a : Attempt σ}
    (ha : Reruns X.chain X.blocks X.timestamp X.fromBlock a)
    (h : X.Interrupted s) : X.Interrupted (a.run X.evidenceDigest X.config s) := by
  unfold Attempt.run Attempt.program
  rw [ha.operation]
  exact ((reindex_holds hstarts ha.serves h).mono (fun _ _ h => h.1) fun _ _ h => h).final 0

theorem runAttempts_interrupted (hstarts : X.Starts) {attempts : List (Attempt σ)}
    (hattempts : ∀ a ∈ attempts, Reruns X.chain X.blocks X.timestamp X.fromBlock a) (h : X.Interrupted s) :
    X.Interrupted (runAttempts X.evidenceDigest X.config attempts s) := by
  induction attempts generalizing s with
  | nil => exact h
  | cons a attempts ih =>
    obtain ⟨ha, hrest⟩ := List.forall_mem_cons.mp hattempts
    exact ih hrest (attempt_interrupted hstarts ha h)

theorem succeeds_complete (hstarts : X.Starts) {a : Attempt σ}
    (ha : Reruns X.chain X.blocks X.timestamp X.fromBlock a)
    (h : X.Interrupted s) {result : String × ℕ} {m : Machine Site}
    (hrun : (a.program X.evidenceDigest X.config).run ⟨0, s⟩ = .ok result m) :
    m.disk.marker = none ∧ ∃ added, X.Complete added m.disk.db := by
  unfold Attempt.program at hrun
  rw [ha.operation] at hrun
  have hends := reindex_holds hstarts ha.serves h 0
  unfold Ends at hends
  rw [hrun] at hends
  exact ⟨hends.2.1, hends.2.2⟩

theorem Complete.added_eq {added' : List BlockRow} (h : X.Complete added db)
    (h' : X.Complete added' db') : added = added' := by
  rw [FixedChain.added_eq h.covered h.stamped h.holds h.reached,
    FixedChain.added_eq h'.covered h'.stamped h'.holds h'.reached, h.scanStartBlock,
    h'.scanStartBlock]

end Reindex

/-- The same canonical rows of blocks and events, the same projections. -/
structure SameProjection (db db' : Database) : Prop where
  blocks : ∀ b, b ∈ db.indexedBlocks.rows ∧ b.canonical = true ↔
    b ∈ db'.indexedBlocks.rows ∧ b.canonical = true
  events : ∀ r, (r ∈ db.chainEvents.rows ∧
      ∃ b ∈ db.indexedBlocks.rows, b.canonical = true ∧ b.blockHash = r.blockHash) ↔
    r ∈ db'.chainEvents.rows ∧
      ∃ b ∈ db'.indexedBlocks.rows, b.canonical = true ∧ b.blockHash = r.blockHash
  journal : canonicalEvents db = canonicalEvents db'
  projections : db.projections = db'.projections

theorem Reindex.Complete.same {X : Reindex} {added added' : List BlockRow} {db db' : Database}
    (h : X.Complete added db) (h' : X.Complete added' db') : SameProjection db db' := by
  obtain rfl := h.added_eq h'
  have hcanonical : ∀ {db : Database}, X.Complete added db → ∀ b,
      b ∈ db.indexedBlocks.rows ∧ b.canonical = true ↔ b ∈ X.kept ++ added :=
    fun hdb _ => hdb.covered.grounded.canonical_iff
  have hevents : ∀ {db : Database}, X.Complete added db → ∀ r, (r ∈ db.chainEvents.rows ∧
      ∃ b ∈ db.indexedBlocks.rows, b.canonical = true ∧ b.blockHash = r.blockHash) ↔
      ∃ b ∈ X.kept ++ added, r ∈ X.blocks.rows X.evidenceDigest b.blockHash := by
    intro db hdb r
    constructor
    · rintro ⟨hr, b, hb, hcan, hhash⟩
      obtain ⟨c, _, hc⟩ := (hdb.covered.events r).mp hr
      have hb' := (hcanonical hdb b).mp ⟨hb, hcan⟩
      refine ⟨b, hb', ?_⟩
      rw [hhash, Blocks.rows_hash hc]
      exact hc
    · rintro ⟨b, hb, hr⟩
      obtain ⟨hrow, hcan⟩ := (hcanonical hdb b).mpr hb
      exact ⟨(hdb.covered.events r).mpr ⟨b, hrow, hr⟩, b, hrow, hcan, (Blocks.rows_hash hr).symm⟩
  constructor
  · exact fun b => (hcanonical h b).trans (hcanonical h' b).symm
  · exact fun r => (hevents h r).trans (hevents h' r).symm
  · rw [h.covered.grounded.canonicalEvents_eq, h'.covered.grounded.canonicalEvents_eq]
  · exact Except.ok.inj (h.projections.symm.trans h'.projections)

/-- However often a reindex was cut before, on a chain that stands still the run
that succeeds ends as one that was never cut. -/
theorem reindex_resumes_exactly {σ τ : Type} (evidenceDigest : Evidence → String) (B : Blocks)
    (timestamp : String → ℕ) (F : FixedChain) (config : Config) (fromBlock : ℕ) {db₀ : Database}
    (hstart : Ingested evidenceDigest B timestamp config.scanStartBlock db₀)
    {attempts : List (Attempt σ)} {last : Attempt σ} {once : Attempt τ}
    (hattempts : ∀ a ∈ attempts, Reruns F B timestamp fromBlock a)
    (hlast : Reruns F B timestamp fromBlock last) (honce : Reruns F B timestamp fromBlock once)
    {result result' : String × ℕ} {m m' : Machine Site}
    (hsucceeds : (last.program evidenceDigest config).run
      ⟨0, runAttempts evidenceDigest config attempts ⟨db₀, none, none, []⟩⟩ = .ok result m)
    (huncut : (once.program evidenceDigest config).run ⟨0, ⟨db₀, none, none, []⟩⟩ =
      .ok result' m') :
    let target := F.target config.finality config.indexingDepth
    SameProjection m.disk.db m'.disk.db ∧
    applyEvents config.nftAddress (canonicalEvents m.disk.db) noProjections =
      .ok m.disk.db.projections ∧
    (∃ number hash, m.disk.db.checkpoint.lastScanned = some (number, hash) ∧ target ≤ number) ∧
    hasCanonicalBlock target (F.block target).hash m.disk.db = true ∧
    m.disk.marker = none ∧
    ∀ marker, (runAttempts evidenceDigest config attempts ⟨db₀, none, none, []⟩).marker =
      some marker → marker.targetBlock = some (Nat.repr target) ∧
        marker.targetHash = some (F.block target).hash := by
  obtain ⟨chain₀, hcovered⟩ := hstart.covered
  let X : Reindex := ⟨evidenceDigest, config, B, timestamp, F, fromBlock, db₀, chain₀⟩
  have hstarts : X.Starts := ⟨hcovered, hstart.stamped, hstart.scanStartBlock_eq⟩
  have hfresh : X.Interrupted ⟨db₀, none, none, []⟩ := by
    refine ⟨?_, .inl ⟨⟨db₀.runtimeStatus, rfl⟩, ?_⟩⟩
    · rintro m (hm | hm) <;> cases hm
    · rintro m (hm | hm) <;> cases hm
  have hcut := Reindex.runAttempts_interrupted hstarts hattempts hfresh
  obtain ⟨hnone, added, hcomplete⟩ := Reindex.succeeds_complete hstarts hlast hcut hsucceeds
  obtain ⟨_, added', hcomplete'⟩ := Reindex.succeeds_complete hstarts honce hfresh huncut
  refine ⟨hcomplete.same hcomplete', ?_, ?_, hcomplete.canonical, hnone, fun marker hmarker => ?_⟩
  · rw [hcomplete.covered.grounded.canonicalEvents_eq]
    exact hcomplete.projections
  · cases hlast : m.disk.db.checkpoint.lastScanned with
    | none =>
      have hnil := hcomplete.covered.checkpoint
      rw [hlast, eq_comm, Option.map_eq_none_iff, List.getLast?_eq_none_iff] at hnil
      obtain ⟨b, hb, hfound⟩ := List.any_eq_true.mp hcomplete.canonical
      have hmem := hcomplete.covered.grounded.canonical_iff.mp
        ⟨hb, (of_decide_eq_true hfound).2.2⟩
      rw [hnil] at hmem
      cases hmem
    | some c =>
      obtain ⟨number, hash⟩ := c
      have hnumber := (hcomplete.covered.toSpine.checkpoint_number hlast).2
      have hreached := hcomplete.reached
      exact ⟨number, hash, rfl, show X.target ≤ number by omega⟩
  · have hmarks := hcut.markers marker (.inl hmarker)
    exact ⟨hmarks.targetBlock, hmarks.targetHash⟩

def mintConfig : Config := { localConfig with
  nftAddress := hex 40 3, logScopeHash := hex 64 9, scanStartBlock := 5 }

def mintReindex (operation : ℕ → Outcome String) : Attempt Unit :=
  ⟨.reindex 5, { localHost "" operation with chain := mintChain }⟩

def mintFixed : FixedChain := ⟨fun _ => mintBlock, mintBlock, mintBlock⟩

theorem mintReindex_reruns (operation : ℕ → Outcome String) :
    Reruns mintFixed mintBlocks (fun _ => 1000) 5 (mintReindex operation) where
  operation := rfl
  serves := by
    have hblock : ∀ n header, Answers (mintChain.getBlock n) header → header = mintBlock :=
      fun n header hanswer => List.mem_singleton.mp (listedChain_block hanswer).1
    have hhead : ∀ header, Answers mintChain.getHead header → header = mintBlock := by
      rintro header ⟨s, hs⟩
      exact (Except.ok.inj hs).symm
    refine ⟨mintChain_honest, ?_, hblock, hhead, by rintro _ ⟨⟩⟩
    intro n header hanswer
    rw [hblock n header hanswer]
    rfl

def succeeded {ε σ α : Type} : EStateM.Result ε σ α → Bool
  | .ok .. => true
  | .error .. => false

theorem exists_of_succeeded {ε σ α : Type} {r : EStateM.Result ε σ α} (h : succeeded r = true) :
    ∃ a s, r = .ok a s := by
  cases r with
  | ok a s => exact ⟨a, s, rfl⟩
  | error e s => cases h

/-- The second run of a reindex cut in its catch-up ends as a first run. -/
theorem reindex_resumes_exactly_mint :
    let cut := mintReindex fun turn => if turn = 22 then .doneThen .crash else .done
    let whole := mintReindex fun _ => .done
    let fresh : Site := ⟨registered 5 "a" (hex 64 9), none, none, []⟩
    ∃ result m result' m',
      (whole.program mintDigest mintConfig).run
        ⟨0, runAttempts mintDigest mintConfig [cut] fresh⟩ = .ok result m ∧
      (whole.program mintDigest mintConfig).run ⟨0, fresh⟩ = .ok result' m' ∧
      SameProjection m.disk.db m'.disk.db := by
  intro cut whole fresh
  obtain ⟨result, m, hm⟩ := exists_of_succeeded (show succeeded
    ((whole.program mintDigest mintConfig).run
      ⟨0, runAttempts mintDigest mintConfig [cut] fresh⟩) = true by decide +kernel)
  obtain ⟨result', m', hm'⟩ := exists_of_succeeded (show succeeded
    ((whole.program mintDigest mintConfig).run ⟨0, fresh⟩) = true by decide +kernel)
  have hcut : ∀ a ∈ [cut], Reruns mintFixed mintBlocks (fun _ => 1000) 5 a := by
    intro a ha
    rw [List.mem_singleton.mp ha]
    exact mintReindex_reruns _
  exact ⟨result, m, result', m', hm, hm',
    (reindex_resumes_exactly mintDigest mintBlocks (fun _ => 1000) mintFixed mintConfig 5
      (.registered "a" (hex 64 9)) hcut (mintReindex_reruns _) (mintReindex_reruns _) hm hm').1⟩

end MotorCove.Maintenance
