import MotorCove.Maintenance.SourceArchive

/-!
# Source rows go only behind their archive

Until the catch-up has begun, a marker that names a backup names one that holds
every source row of the site. The one call that deletes rows finds the marker,
its backup and the verification in place.
-/

set_option autoImplicit false

namespace MotorCove.Maintenance.Archive
open MotorCove.Crashes MotorCove.Effects MotorCove.Fallible MotorCove.Histories MotorCove.Indexer
  MotorCove.Text

section
variable {σ Rest α : Type}

def Destroys (before after : Database) : Prop :=
  (∃ r ∈ before.chainEvents.rows, r ∉ after.chainEvents.rows) ∨
    ∃ b ∈ before.indexedBlocks.rows, ∀ b' ∈ after.indexedBlocks.rows, b'.blockHash ≠ b.blockHash

theorem not_destroys {before after : Database} (h : KeepsSource before after) :
    ¬Destroys before after := by
  rintro (⟨r, hr, hgone⟩ | ⟨b, hb, hgone⟩)
  · exact hgone (h.events r hr)
  · obtain ⟨b', hb', hsame⟩ := h.blocks b hb
    have hhash : (unflagged b').blockHash = (unflagged b).blockHash := by rw [hsame]
    exact hgone b' hb' hhash

/-- A marker that asks for no archive. -/
def Free (m : MaintenanceMarker) : Prop :=
  m.backupId = none ∨ m.projectionPhase = some .catchingUp

def Bears (s : Site) (m : MaintenanceMarker) : Prop := s.marker = some m ∨ s.currentMarker = some m

/-- The marker names the backup of an earlier one, and is as free. -/
structure Continues (m m₀ : MaintenanceMarker) : Prop where
  backupId : m.backupId = m₀.backupId
  phase : m₀.projectionPhase = some .catchingUp → m.projectionPhase = some .catchingUp

def Inherits (s : Site) (m : MaintenanceMarker) : Prop :=
  Free m ∨ ∃ m₀, Bears s m₀ ∧ Continues m m₀

/-- The calls keep the source, and add to it only under markers that are free. -/
structure Moves (s s' : Site) : Prop where
  calls : ∃ calls, s'.calls = s.calls ++ calls ∧ ∀ t ∈ calls, KeepsSource t.before t.after
  markers : ∀ m, Bears s' m → Inherits s m
  source : KeepsSource s'.db s.db ∨ ∀ m, Bears s' m → Free m

variable {s s' s'' : Site}

theorem Continues.refl (m : MaintenanceMarker) : Continues m m := ⟨rfl, id⟩

theorem Inherits.of_bears {m : MaintenanceMarker} (h : Bears s m) : Inherits s m :=
  .inr ⟨m, h, .refl m⟩

theorem Moves.of_markers (hdb : s'.db = s.db) (hcalls : s'.calls = s.calls)
    (hmarkers : ∀ m, Bears s' m → Inherits s m) : Moves s s' := by
  refine ⟨⟨[], ?_, fun _ ht => absurd ht List.not_mem_nil⟩, hmarkers, .inl ?_⟩
  · rw [hcalls, List.append_nil]
  · rw [hdb]
    exact .refl _

theorem Moves.refl (s : Site) : Moves s s :=
  .of_markers rfl rfl fun _ => .of_bears

theorem Continues.free {m m₀ : MaintenanceMarker} (h : Continues m m₀) (hfree : Free m₀) :
    Free m := by
  rcases hfree with hnone | hcatching
  · exact .inl (h.backupId.trans hnone)
  · exact .inr (h.phase hcatching)

theorem Continues.trans {m m₁ m₀ : MaintenanceMarker} (h : Continues m m₁)
    (h' : Continues m₁ m₀) : Continues m m₀ :=
  ⟨h.backupId.trans h'.backupId, fun hphase => h.phase (h'.phase hphase)⟩

theorem Inherits.trans {m m' : MaintenanceMarker} (h : Continues m m') (h' : Inherits s m') :
    Inherits s m := by
  rcases h' with hfree | ⟨m₀, hm₀, hcontinues⟩
  · exact .inl (h.free hfree)
  · exact .inr ⟨m₀, hm₀, h.trans hcontinues⟩

theorem Moves.trans (h : Moves s s') (h' : Moves s' s'') : Moves s s'' := by
  constructor
  · obtain ⟨calls, hcalls, hkeeps⟩ := h.calls
    obtain ⟨calls', hcalls', hkeeps'⟩ := h'.calls
    refine ⟨calls ++ calls', ?_, fun t ht => ?_⟩
    · rw [hcalls', hcalls, List.append_assoc]
    · rcases List.mem_append.mp ht with ht | ht
      · exact hkeeps t ht
      · exact hkeeps' t ht
  · intro m hm
    rcases h'.markers m hm with hfree | ⟨m', hm', hcontinues⟩
    · exact .inl hfree
    · exact .trans hcontinues (h.markers m' hm')
  · rcases h'.source with hsource' | hfree'
    · rcases h.source with hsource | hfree
      · exact .inl (hsource'.trans hsource)
      · right
        intro m hm
        rcases h'.markers m hm with hfree' | ⟨m', hm', hcontinues⟩
        · exact hfree'
        · exact hcontinues.free (hfree m' hm')
    · exact .inr hfree'

theorem Moves.called {call : StoreCall} {db : Database} (h : KeepsSource s.db db)
    (hsource : KeepsSource db s.db ∨ ∀ m, Bears s m → Free m) : Moves s (s.called call db) where
  calls := by
    refine ⟨[⟨s.db, call, db⟩], rfl, fun t ht => ?_⟩
    rw [List.mem_singleton.mp ht]
    exact h
  markers := fun _ => .of_bears
  source := hsource

theorem keepsSource_of_same {db db' : Database} (hblocks : db'.indexedBlocks = db.indexedBlocks)
    (hevents : db'.chainEvents = db.chainEvents) : KeepsSource db db' ∧ KeepsSource db' db := by
  constructor
  · exact ⟨fun b hb => ⟨b, hblocks ▸ hb, rfl⟩, fun r hr => hevents ▸ hr⟩
  · exact ⟨fun b hb => ⟨b, hblocks ▸ hb, rfl⟩, fun r hr => hevents ▸ hr⟩

theorem Moves.called_same {call : StoreCall} {db : Database}
    (hblocks : db.indexedBlocks = s.db.indexedBlocks) (hevents : db.chainEvents = s.db.chainEvents) :
    Moves s (s.called call db) :=
  .called (keepsSource_of_same hblocks hevents).1 (.inl (keepsSource_of_same hblocks hevents).2)

/-- Until the catch-up, the backup of a marker holds every source row. -/
def Covered (d : ArchiveSite Rest) (m : MaintenanceMarker) : Prop :=
  Free m ∨ ∃ backupId db rest, m.backupId = some backupId ∧
    (d.backups backupId).database = some (.database db rest) ∧ KeepsSource d.site.db db

/-- What the deletion of source rows needs: a marker of a reindex from the start,
and its verified backup with every row. -/
def Backed (platform : Platform (FileContent Rest)) (paths : EnvironmentPaths) (n : Note Rest) :
    Prop :=
  ∃ m backupId backup db rest, n.marker = some m ∧ m.operationType = .reindexProjection ∧
    m.reindexFromBlock = some (Nat.repr n.call.before.scanStartBlock) ∧
    m.backupId = some backupId ∧
    verifyMaintenanceBackup platform paths n.backups backupId
      ⟨m.operationId, .sourceRefreshArchive⟩ = .ok backup ∧
    backup.database = .database db rest ∧ KeepsSource n.call.before db

/-- The invariant of the runs. -/
structure Archived (platform : Platform (FileContent Rest)) (paths : EnvironmentPaths)
    (d : ArchiveSite Rest) : Prop where
  notes : ∀ n ∈ d.notes, Destroys n.call.before n.call.after → Backed platform paths n
  covered : ∀ m, Bears d.site m → Covered d m

variable {platform : Platform (FileContent Rest)} {paths : EnvironmentPaths}
  {d : ArchiveSite Rest}

theorem moved_self (d : ArchiveSite Rest) : d.moved d.site = d := by
  simp [ArchiveSite.moved]

theorem Covered.of_same {d' : ArchiveSite Rest} {m m₀ : MaintenanceMarker} (h : Covered d m₀)
    (hbackups : d'.backups = d.backups) (hsource : KeepsSource d'.site.db d.site.db)
    (hcontinues : Continues m m₀) : Covered d' m := by
  rcases h with hfree | ⟨backupId, db, rest, hid, hdatabase, hkeeps⟩
  · exact .inl (hcontinues.free hfree)
  · refine .inr ⟨backupId, db, rest, hcontinues.backupId.trans hid, ?_, hsource.trans hkeeps⟩
    rw [hbackups]
    exact hdatabase

theorem Archived.moved (h : Archived platform paths d) (hmoves : Moves d.site s') :
    Archived platform paths (d.moved s') := by
  constructor
  · obtain ⟨calls, hcalls, hkeeps⟩ := hmoves.calls
    intro n hn hdestroys
    rcases List.mem_append.mp hn with hn | hn
    · exact h.notes n hn hdestroys
    · rw [hcalls, List.drop_left] at hn
      obtain ⟨t, ht, rfl⟩ := List.mem_map.mp hn
      exact absurd hdestroys (not_destroys (hkeeps t ht))
  · intro m hm
    rcases hmoves.source with hsource | hfree
    · rcases hmoves.markers m hm with hfree | ⟨m₀, hm₀, hcontinues⟩
      · exact .inl hfree
      · exact (h.covered m₀ hm₀).of_same rfl hsource hcontinues
    · exact .inl (hfree m hm)

theorem Archived.onSite {x : Operation α} {P : α → Site → Prop}
    {E : Failure String → ArchiveSite Rest → Prop} (h : Archived platform paths d)
    (hx : Holds x d.site (fun a s' => Moves d.site s' ∧ P a s') fun _ s' => Moves d.site s')
    (hE : ∀ failure d', Archived platform paths d' → E failure d') :
    Holds (Archive.onSite x) d
      (fun a d' => Archived platform paths d' ∧ d'.backups = d.backups ∧ P a d'.site) E := by
  apply holds_within
  refine hx.mono (fun a s' hs' => ?_) fun failure s' hs' => hE failure _ (h.moved hs')
  exact ⟨h.moved hs'.1, rfl, hs'.2⟩

end

section
variable {σ α : Type} {evidenceDigest : Evidence → String} {config : Config} {host : Host σ}
  {s : Site} {store : SqliteProjectionStore}

theorem Moves.marked (marker current : Option MaintenanceMarker)
    (hmarker : ∀ m, marker = some m → Inherits s m)
    (hcurrent : ∀ m, current = some m → Inherits s m) :
    Moves s { s with marker := marker, currentMarker := current } := by
  apply Moves.of_markers
  · rfl
  · rfl
  · rintro m (hm | hm)
    · exact hmarker m hm
    · exact hcurrent m hm

theorem Moves.withCurrent {m : MaintenanceMarker} (h : Inherits s m) :
    Moves s { s with currentMarker := some m } := by
  apply Moves.marked s.marker
  · exact fun m hm => .of_bears (.inl hm)
  · rintro _ ⟨⟩
    exact h

theorem Moves.withMarker {m : MaintenanceMarker} (h : Inherits s m) :
    Moves s { s with marker := some m } := by
  apply Moves.marked _ s.currentMarker
  · rintro _ ⟨⟩
    exact h
  · exact fun m hm => .of_bears (.inr hm)

theorem failMarker_moves {P : α → Site → Prop} (message : String) :
    Holds (failMarker host message : Operation α) s P fun _ s' => Moves s s' := by
  refine holds_bind (holds_look ?_)
  split
  · rename_i current old hboth
    obtain ⟨hcurrent, _⟩ := Prod.mk.inj hboth
    have hmoves : Moves s { s with marker := some (current.failedWith message) } :=
      .withMarker (.inr ⟨current, .inr hcurrent, rfl, id⟩)
    exact holds_bind (holds_act_of (fun _ => holds_refuse hmoves) (fun _ _ => hmoves)
      fun _ => .refl s)
  · exact holds_refuse (.refl s)

theorem raiseBarrier_moves (barrier : Option (Option String)) :
    Holds (raiseBarrier host barrier) s (fun _ s' => Moves s s' ∧ True) fun _ s' => Moves s s' := by
  cases barrier with
  | none => exact holds_pure ⟨.refl s, trivial⟩
  | some reason =>
    have hmoves : Moves s (s.called (.raiseBarrier reason) (barAgain reason s.db)) := by
      apply Moves.called_same
      · unfold barAgain
        split <;> rfl
      · unfold barAgain
        split <;> rfl
    unfold raiseBarrier
    exact holds_act_of (fun _ => ⟨hmoves, trivial⟩) (fun _ _ => hmoves) fun _ => .refl s

theorem publishMarker_moves {m : MaintenanceMarker} (h : Inherits s m) :
    Holds (publishMarker host m) s
      (fun _ s' => Moves s s' ∧ s' = { s with currentMarker := some m, marker := some m })
      fun _ s' => Moves s s' := by
  have hboth : Moves s { s with currentMarker := some m, marker := some m } := by
    apply Moves.marked
    · rintro _ ⟨⟩
      exact h
    · rintro _ ⟨⟩
      exact h
  exact holds_bind (holds_setCurrentMarker (holds_act_of (fun _ => ⟨hboth, rfl⟩)
    (fun _ _ => hboth) fun _ => .withCurrent h))

theorem clearMarker_moves :
    Holds (attempt (clearMarker host) fun message => failMarker host message) s
      (fun _ s' => Moves s s' ∧ True) fun _ s' => Moves s s' := by
  have hcleared : Moves s { s with marker := none } := by
    apply Moves.marked _ s.currentMarker
    · exact fun _ => nofun
    · exact fun m hm => .of_bears (.inr hm)
  refine holds_attempt (holds_act_of (fun _ => ⟨hcleared, trivial⟩)
    (fun _ => caught_of hcleared fun message => ?_) (caught_of (.refl s) fun message => ?_))
  · exact (failMarker_moves message).mono (fun _ _ => id) fun _ _ => hcleared.trans
  · exact failMarker_moves message

theorem startOperation_moves {σ Rest : Type} {host : ArchiveHost σ Rest} {admission : Admission}
    {prepared : MaintenanceMarker} (hcurrent : s.currentMarker = some prepared) :
    Holds (startOperation host admission prepared) s
      (fun _ s' => Moves s s' ∧ s'.currentMarker = some prepared) fun _ s' => Moves s s' := by
  have hwritten : Moves s { s with marker := some prepared } :=
    .withMarker (.of_bears (.inr hcurrent))
  have hfail := fun s' (hs' : Moves s s') => caught_of
    (P := fun (_ : Unit) s' => Moves s s' ∧ s'.currentMarker = some prepared)
    (E := fun _ s' => Moves s s') hs' fun message =>
      (@failMarker_moves _ _ host.toHost _ _ message).mono (fun _ _ => id)
        fun _ _ => hs'.trans
  refine holds_attempt ?_
  split
  · exact holds_bind (holds_act_of
      (fun _ => holds_answer (fun _ => ⟨hwritten, hcurrent⟩) (hfail _ hwritten))
      (fun _ => hfail _ hwritten) (hfail _ (.refl s)))
  · exact holds_answer (fun _ => ⟨.refl s, hcurrent⟩) (hfail _ (.refl s))

theorem updateMarker_moves {f : MaintenanceMarker → MaintenanceMarker} {m : MaintenanceMarker}
    (hm : s.currentMarker = some m) (h : Inherits s (f m)) :
    Holds (updateMarker host f) s
      (fun _ s' => Moves s s' ∧
        s' = { s with currentMarker := some (f m), marker := some (f m) })
      fun _ s' => Moves s s' := by
  refine holds_bind (holds_look ?_)
  rw [hm]
  exact publishMarker_moves h

theorem rebuildTransaction_same {id : String} {preserve : Bool} {events : ℕ} {db db' : Database}
    (h : rebuildTransaction store id preserve db = .ok (events, db')) :
    db'.indexedBlocks = db.indexedBlocks ∧ db'.chainEvents = db.chainEvents := by
  simp only [rebuildTransaction, bind_ok, Except.ok.injEq, Prod.mk.injEq] at h
  obtain ⟨_, _, _, rfl⟩ := h
  split
  · exact ⟨rfl, rfl⟩
  · exact ⟨rfl, rfl⟩

theorem runRebuild_moves {operationType : OperationType} {barrier : Option (Option String)} :
    Holds (runRebuild evidenceDigest config host store operationType barrier) s
      (fun _ s' => Moves s s' ∧ s'.currentMarker = s.currentMarker) fun _ s' => Moves s s' := by
  refine runRebuild_holds (C := fun s' => Moves s s' ∧ s'.currentMarker = s.currentMarker)
    (J := fun s' => Moves s s') (.refl s) (fun _ => And.left) (fun id events db _ hrebuild => ?_) ?_
  · obtain ⟨hblocks, hevents⟩ := rebuildTransaction_same hrebuild
    exact ⟨.called_same hblocks hevents, rfl⟩
  · exact fun s' reason hs' => hs'.trans (.called_same rfl rfl)

theorem keepsSource_setStatus (db : Database) (status : RuntimeStatus) :
    KeepsSource db (db.setStatus status) :=
  ⟨fun b hb => ⟨b, hb, rfl⟩, fun _ hr => hr⟩

variable (evidenceDigest) in
theorem keepsSource_requests (store : SqliteProjectionStore) (db₀ : Database) :
    KeptByRequests evidenceDigest store (KeepsSource db₀) where
  recoveryRequired := fun _ _ _ h => h.trans (keepsSource_setStatus _ _)
  observe := by
    intro head eligibleHead db db' h hobserve
    simp only [observe, bind_ok, Except.ok.injEq] at hobserve
    obtain ⟨_, _, rfl⟩ := hobserve
    exact h.trans (keepsSource_setStatus _ _)
  markCurrent := by
    intro observedHead eligibleHead db db' h hmark
    simp only [markCurrent] at hmark
    split at hmark
    · simp only [bind_ok, Except.ok.injEq] at hmark
      obtain ⟨_, _, rfl⟩ := hmark
      exact h.trans (keepsSource_setStatus _ _)
    · obtain rfl := Except.ok.inj hmark
      exact h
  commit := fun headers events header db h => h.trans (commit_keeps store headers events header db).1

theorem catchUp_moves {target : ℕ} (hfree : ∀ m, Bears s m → Free m) :
    Holds (catchUpToReindexTarget evidenceDigest config host store target) s
      (fun _ s' => Moves s s' ∧ True) fun _ s' => Moves s s' := by
  refine holds_bind (holds_readStoreCheckpoint (fun before _ => ?_) fun _ => .refl s)
  have hkeeps : KeepsIngest evidenceDigest config host store target
      fun s' => Moves s s' ∧ ∀ m, Bears s' m → Free m := by
    rintro turn s' ⟨hmoves, hfree'⟩
    have hrange : Keeps (KeepsSource s'.db) (ingestRange evidenceDigest store host.chain
        config.batchSize config.scanStartBlock config.indexingDepth (some target)
        config.finality) :=
      keeps_ingestRange (keepsSource_requests evidenceDigest store s'.db) _ _ _ _ _
    have hingest := hrange ⟨host.chainAt turn, s'.db, []⟩ (.refl _)
    have hobserve := keeps_ingestToObservation (keepsSource_requests evidenceDigest store s'.db)
      host.chain config.batchSize config.indexingDepth config.finality
      ⟨host.chainAt turn, s'.db, []⟩ (.refl _)
    exact ⟨⟨hmoves.trans (.called (ends_final.mp hingest) (.inr hfree')), hfree'⟩,
      ⟨hmoves.trans (.called (ends_final.mp hobserve) (.inr hfree')), hfree'⟩⟩
  exact (catchUpFrom_holds hkeeps (fun _ => And.left) ⟨.refl s, hfree⟩).mono
    (fun _ _ h => ⟨h.1, trivial⟩) fun _ _ => id

end

section
variable {σ Rest : Type} {evidenceDigest : Evidence → String}
  {platform : Platform (FileContent Rest)} {config : Config} {host : ArchiveHost σ Rest}
  {d : ArchiveSite Rest} {m : MaintenanceMarker} {fromBlock : ℕ}

theorem Archived.stored (h : Archived platform config.environment d) {backupId : String}
    {directory : BackupDirectory (FileContent Rest)} (hfree : isTaken (d.backups backupId) = false) :
    Archived platform config.environment
      { d with backups := Function.update d.backups backupId directory } := by
  constructor
  · exact h.notes
  · intro m hm
    rcases h.covered m hm with hm | ⟨id, db, rest, hid, hdatabase, hkeeps⟩
    · exact .inl hm
    · have hne : id ≠ backupId := by
        rintro rfl
        rw [isTaken, hdatabase] at hfree
        simp at hfree
      refine .inr ⟨id, db, rest, hid, ?_, hkeeps⟩
      show (Function.update d.backups backupId directory id).database = _
      rw [Function.update_of_ne hne]
      exact hdatabase

theorem backupSource_holds (h : Archived platform config.environment d) :
    Holds (backupSource platform config host m) d
      (fun backupId d' => Archived platform config.environment d' ∧ d'.site = d.site ∧
        ∃ rest, (d'.backups backupId).database = some (.database d.site.db rest))
      fun _ d' => Archived platform config.environment d' := by
  -- A backup that is made is of the tables as they are.
  have hmade : ∀ turn result, backupEnvironment platform config.environment
      (copying (host.backup turn) d.site.db) (files host turn d.site) (archiveOptions m) =
        .ok result → ∃ rest, result.directory.database = some (.database d.site.db rest) := by
    intro turn result hresult
    obtain ⟨_, snapshot, hproduced⟩ := backupEnvironment_ok hresult
    have hcopied := hproduced.copied
    simp only [copying] at hcopied
    cases hrest : (host.backup turn).copied with
    | error e =>
      rw [hrest] at hcopied
      cases hcopied
    | ok rest =>
      rw [hrest] at hcopied
      have hbytes : FileContent.database d.site.db rest = snapshot.bytes := Except.ok.inj hcopied
      rw [hproduced.result]
      exact ⟨rest, congrArg some hbytes.symm⟩
  apply holds_perform_of (Q := fun result => Archived platform config.environment result.2 ∧
    result.2.site = d.site ∧ ∀ backupId, result.1 = .ok backupId →
      ∃ rest, (result.2.backups backupId).database = some (.database d.site.db rest))
  · intro turn
    split
    · exact ⟨h, rfl, by rintro _ ⟨⟩⟩
    · rename_i made hresult
      split
      · exact ⟨h, rfl, by rintro _ ⟨⟩⟩
      · rename_i hfree
        refine ⟨h.stored (by simpa using hfree), rfl, ?_⟩
        rintro _ ⟨⟩
        obtain ⟨rest, hrest⟩ := hmade turn made hresult
        refine ⟨rest, ?_⟩
        show (Function.update d.backups made.backupId made.directory made.backupId).database = _
        rw [Function.update_self]
        exact hrest
  · exact fun backupId _ hQ => ⟨hQ.1, hQ.2.1, hQ.2.2 backupId rfl⟩
  · exact fun _ _ hQ => hQ.1
  · exact fun _ _ _ _ hQ => hQ.1
  · exact fun _ _ _ => h

theorem verifyArchive_holds {backupId : String} :
    Holds (verifyArchive platform config host m backupId) d
      (fun _ d' => d' = d ∧ ∃ backup, verifyMaintenanceBackup platform config.environment d.backups
        backupId ⟨m.operationId, .sourceRefreshArchive⟩ = .ok backup)
      fun _ d' => d' = d := by
  refine holds_ask (fun turn _ hanswer => ?_) fun _ _ _ => rfl
  obtain ⟨_, _, hanswer⟩ := bind_ok.mp hanswer
  obtain ⟨backup, hverify, _⟩ := bind_ok.mp hanswer
  refine ⟨rfl, backup, ?_⟩
  cases hresult : verifyMaintenanceBackup platform config.environment d.backups backupId
      ⟨m.operationId, .sourceRefreshArchive⟩ with
  | error e =>
    rw [hresult] at hverify
    cases hverify
  | ok verified =>
    rw [hresult] at hverify
    exact congrArg Except.ok (Except.ok.inj hverify)

/-- The operation of a reindex is running under the marker `m`. -/
structure Running (platform : Platform (FileContent Rest)) (paths : EnvironmentPaths)
    (fromBlock : ℕ) (m : MaintenanceMarker) (d : ArchiveSite Rest) : Prop where
  archived : Archived platform paths d
  current : d.site.currentMarker = some m
  operationType : m.operationType = .reindexProjection
  reindexFromBlock : m.reindexFromBlock = some (Nat.repr fromBlock)

def Verified (platform : Platform (FileContent Rest)) (paths : EnvironmentPaths)
    (m : MaintenanceMarker) (backupId : String) (d : ArchiveSite Rest) : Prop :=
  m.backupId = some backupId ∧ ∃ backup, verifyMaintenanceBackup platform paths d.backups backupId
    ⟨m.operationId, .sourceRefreshArchive⟩ = .ok backup

theorem nonEmpty_some {text : Option String} {t : String} (h : nonEmpty text = some t) :
    text = some t := by
  unfold nonEmpty at h
  exact (Option.filter_eq_some_iff.mp h).1

theorem archiveSource_holds (h : Running platform config.environment fromBlock m d)
    (hphase : m.projectionPhase ≠ some .catchingUp) :
    Holds (archiveSource platform config host m) d
      (fun backupId d' => ∃ m', Running platform config.environment fromBlock m' d' ∧
        m'.projectionPhase ≠ some .catchingUp ∧ d'.site.db = d.site.db ∧
        Verified platform config.environment m' backupId d')
      fun _ d' => Archived platform config.environment d' := by
  unfold archiveSource
  split
  · rename_i backupId hbackup
    refine holds_bind (verifyArchive_holds.mono ?_ fun _ _ hd => hd ▸ h.archived)
    rintro _ _ ⟨rfl, hverified⟩
    exact holds_pure ⟨m, h, hphase, rfl, nonEmpty_some hbackup, hverified⟩
  · refine holds_bind ((backupSource_holds h.archived).mono ?_ fun _ _ => id)
    rintro backupId d₀ ⟨h₁, hsite, rest, hdatabase⟩
    refine holds_bind (verifyArchive_holds.mono ?_ fun _ _ hd => hd ▸ h₁)
    rintro _ d₁ ⟨rfl, hverified⟩
    -- The new name is covered by the backup just made.
    have hcovered : ∀ marker, (marker = some { m with backupId := some backupId } ∨
        marker = d₁.site.marker) → Archived platform config.environment
          (d₁.moved { d₁.site with
            currentMarker := some { m with backupId := some backupId }, marker := marker }) := by
      intro marker hmarker
      constructor
      · intro n hn
        simp only [ArchiveSite.moved, List.drop_length, List.map_nil, List.append_nil] at hn
        exact h₁.notes n hn
      · have hnew : Covered (d₁.moved { d₁.site with
            currentMarker := some { m with backupId := some backupId }, marker := marker })
            { m with backupId := some backupId } :=
          .inr ⟨backupId, d.site.db, rest, rfl, hdatabase, hsite ▸ .refl _⟩
        rintro m' (hm' | hm')
        · rcases hmarker with rfl | rfl
          · obtain rfl := Option.some.inj hm'
            exact hnew
          · exact (h₁.covered m' (.inl hm')).of_same rfl (.refl _) (.refl m')
        · obtain rfl := Option.some.inj hm'
          exact hnew
    have hcurrent : d₁.site.currentMarker = some m := hsite ▸ h.current
    have hdb : d₁.site.db = d.site.db := congrArg Site.db hsite
    refine holds_bind (holds_within ?_)
    refine holds_bind (holds_look ?_)
    rw [hcurrent]
    refine holds_bind (holds_setCurrentMarker (holds_act_of (fun _ => ?_) (fun _ _ => ?_)
      fun _ => ?_))
    · exact holds_pure ⟨{ m with backupId := some backupId },
        ⟨hcovered _ (.inl rfl), rfl, h.operationType, h.reindexFromBlock⟩, hphase,
        hdb, rfl, hverified⟩
    · exact hcovered _ (.inl rfl)
    · exact hcovered _ (.inr rfl)

/-- A deletion is of the whole source, from its start, behind the backup given. -/
theorem prepareForReindex_cases {store : SqliteProjectionStore} {verifiedBackupId : Option String}
    {db db' : Database}
    (h : prepareForReindex evidenceDigest store fromBlock verifiedBackupId db = .ok db') :
    KeepsSource db db' ∧ KeepsSource db' db ∨
      (∃ backupId, verifiedBackupId = some backupId) ∧ db.scanStartBlock = fromBlock ∧
        db'.chainEvents.rows = [] ∧ db'.indexedBlocks.rows = [] := by
  unfold prepareForReindex at h
  split at h
  · simp only [failIf_bind_ok, ne_eq, not_not, Except.ok.injEq] at h
    obtain ⟨hbackup, hstart, rfl⟩ := h
    right
    refine ⟨?_, hstart, ?_, ?_⟩
    · cases verifiedBackupId with
      | none => exact absurd rfl hbackup
      | some backupId => exact ⟨backupId, rfl⟩
    · unfold deleteSource markReindexStarted
      split <;> rfl
    · unfold deleteSource markReindexStarted
      split <;> rfl
  · obtain rfl := Except.ok.inj h
    left
    refine ⟨(rewindFrom_keeps store fromBlock db).1, ?_⟩
    obtain ⟨t, status, ht, hdb⟩ := rewindFrom_eq store fromBlock db
    rw [hdb]
    constructor
    · intro b hb
      change b ∈ t.rows at hb
      rw [ht] at hb
      obtain ⟨b₀, hb₀, rfl⟩ := List.mem_map.mp hb
      refine ⟨b₀, hb₀, ?_⟩
      unfold rewound
      split <;> rfl
    · exact fun r hr => hr

theorem Running.prepared (h : Running platform config.environment fromBlock m d)
    (hmarker : d.site.marker = some m) {store : SqliteProjectionStore}
    {verifiedBackupId : Option String}
    (hphase : m.projectionPhase ≠ some .catchingUp)
    (hverified : ∀ backupId, verifiedBackupId = some backupId →
      Verified platform config.environment m backupId d) {db : Database}
    (hprepare : prepareForReindex evidenceDigest store fromBlock verifiedBackupId d.site.db =
      .ok db) :
    Running platform config.environment fromBlock m
      (d.moved (d.site.called (.prepareForReindex fromBlock) db)) := by
  rcases prepareForReindex_cases hprepare with ⟨hkeeps, hsource⟩ | ⟨⟨backupId, hbackup⟩, hstart,
    hevents, hblocks⟩
  · exact ⟨h.archived.moved (.called hkeeps (.inl hsource)), h.current, h.operationType,
      h.reindexFromBlock⟩
  · obtain ⟨hid, backup, hverify⟩ := hverified backupId hbackup
    have hgone : KeepsSource db d.site.db := by
      constructor
      · intro b hb
        rw [hblocks] at hb
        exact absurd hb List.not_mem_nil
      · intro r hr
        rw [hevents] at hr
        exact absurd hr List.not_mem_nil
    refine ⟨⟨?_, ?_⟩, h.current, h.operationType, h.reindexFromBlock⟩
    · intro n hn hdestroys
      rcases List.mem_append.mp hn with hn | hn
      · exact h.archived.notes n hn hdestroys
      · simp only [Site.called, List.drop_left, List.map_cons, List.map_nil,
          List.mem_singleton] at hn
        subst hn
        rcases h.archived.covered m (.inl hmarker) with (hnone | hcatching) | ⟨id, source, rest,
          hsame, hdatabase, hkeeps⟩
        · rw [hnone] at hid
          cases hid
        · exact absurd hcatching hphase
        · obtain rfl := Option.some.inj (hsame.symm.trans hid)
          obtain ⟨hverify', _⟩ := verifyMaintenanceBackup_ok.mp hverify
          obtain ⟨_, hbytes, _⟩ := verifyBackup_ok.mp hverify'
          exact ⟨m, id, backup, source, rest, hmarker, h.operationType,
            hstart ▸ h.reindexFromBlock, hid, hverify,
            Option.some.inj (hbytes.symm.trans hdatabase), hkeeps⟩
    · intro m' hm'
      exact (h.archived.covered m' hm').of_same rfl hgone (.refl m')

theorem Running.updated (h : Running platform config.environment fromBlock m d)
    {f : MaintenanceMarker → MaintenanceMarker} (htype : (f m).operationType = m.operationType)
    (hfrom : (f m).reindexFromBlock = m.reindexFromBlock) (hcontinues : Continues (f m) m) :
    Holds (onSite (updateMarker host.toHost f)) d
      (fun _ d' => Running platform config.environment fromBlock (f m) d' ∧
        d'.site.marker = some (f m) ∧ d'.site.db = d.site.db ∧ d'.backups = d.backups)
      fun _ d' => Archived platform config.environment d' := by
  have hinherits : Inherits d.site (f m) := .inr ⟨m, .inr h.current, hcontinues⟩
  refine (h.archived.onSite (updateMarker_moves h.current hinherits) fun _ _ => id).mono ?_
    fun _ _ => id
  rintro _ d' ⟨harchived, hbackups, hsite⟩
  rw [hsite]
  exact ⟨⟨harchived, by rw [hsite], htype.trans h.operationType, hfrom.trans h.reindexFromBlock⟩,
    rfl, rfl, hbackups⟩

theorem prepareSource_holds (h : Running platform config.environment fromBlock m d)
    {store : SqliteProjectionStore} :
    Holds (prepareSource evidenceDigest platform config host fromBlock store m) d
      (fun _ d' => ∃ m', Running platform config.environment fromBlock m' d')
      fun _ d' => Archived platform config.environment d' := by
  unfold prepareSource
  split
  · exact holds_pure ⟨m, h⟩
  · rename_i hphase
    -- The call, once the phase is recorded.
    have hprepare : ∀ {m₁ : MaintenanceMarker} {d₁ : ArchiveSite Rest}
        {verifiedBackupId : Option String},
        Running platform config.environment fromBlock m₁ d₁ →
        m₁.projectionPhase ≠ some .catchingUp →
        (∀ backupId, verifiedBackupId = some backupId →
          Verified platform config.environment m₁ backupId d₁) →
        Holds (do
          onSite (updateMarker host.toHost fun m => { m with projectionPhase := some .preparing })
          onSite (callStore config host.toHost (.prepareForReindex fromBlock)
            (prepareForReindex evidenceDigest store fromBlock verifiedBackupId))) d₁
          (fun _ d' => ∃ m', Running platform config.environment fromBlock m' d')
          fun _ d' => Archived platform config.environment d' := by
      intro m₁ d₁ verifiedBackupId h₁ hphase₁ hverified
      refine holds_bind ((h₁.updated rfl rfl ⟨rfl, fun hcatching => absurd hcatching hphase₁⟩).mono ?_ fun _ _ => id)
      rintro _ d₂ ⟨h₂, hmarker, hdb, hbackups⟩
      have hverified₂ : ∀ backupId, verifiedBackupId = some backupId →
          Verified platform config.environment { m₁ with projectionPhase := some .preparing }
            backupId d₂ := by
        intro backupId hid
        obtain ⟨hsame, backup, hverify⟩ := hverified backupId hid
        exact ⟨hsame, backup, hbackups ▸ hverify⟩
      have hcalled : ∀ db, prepareForReindex evidenceDigest store fromBlock verifiedBackupId
          d₂.site.db = .ok db → Running platform config.environment fromBlock
            { m₁ with projectionPhase := some .preparing }
            (d₂.moved (d₂.site.called (.prepareForReindex fromBlock) db)) :=
        fun db hdb => h₂.prepared hmarker (fun hcatching => nomatch hcatching) hverified₂ hdb
      refine holds_within (holds_callStore (fun db hdb => ?_) (fun db _ hdb => ?_) fun _ => ?_)
      · exact ⟨_, hcalled db hdb⟩
      · exact (hcalled db hdb).archived
      · rw [moved_self]
        exact h₂.archived
    refine holds_bind (holds_look ?_)
    split
    · refine holds_bind ((archiveSource_holds h hphase).mono ?_ fun _ _ => id)
      rintro backupId d₁ ⟨m₁, h₁, hphase₁, _, hverified⟩
      refine holds_bind (holds_pure (hprepare h₁ hphase₁ ?_))
      rintro _ ⟨⟩
      exact hverified
    · exact holds_bind (holds_pure (hprepare h hphase fun _ hid => nomatch hid))

theorem replaySource_holds (h : Running platform config.environment fromBlock m d)
    {store : SqliteProjectionStore} {marker : MaintenanceMarker} {target : ℕ} {targetHash : String}
    {barrier : Option (Option String)} :
    Holds (replaySource evidenceDigest config host store marker target targetHash barrier) d
      (fun _ d' => Archived platform config.environment d')
      fun _ d' => Archived platform config.environment d' := by
  unfold replaySource
  refine holds_bind ((h.archived.onSite runRebuild_moves fun _ _ => id).mono ?_ fun _ _ => id)
  rintro events d₁ ⟨h₁, _, hcurrent⟩
  have hrunning : Running platform config.environment fromBlock m d₁ :=
    ⟨h₁, hcurrent.trans h.current, h.operationType, h.reindexFromBlock⟩
  refine holds_bind ((hrunning.updated rfl rfl ⟨rfl, fun _ => rfl⟩).mono ?_ fun _ _ => id)
  rintro _ d₂ ⟨h₂, hmarker, _⟩
  have hfree : ∀ m', Bears d₂.site m' → Free m' := by
    rintro m' (hm' | hm')
    · obtain rfl := Option.some.inj (hmarker.symm.trans hm')
      exact .inr rfl
    · obtain rfl := Option.some.inj (h₂.current.symm.trans hm')
      exact .inr rfl
  refine holds_bind ((h₂.archived.onSite (catchUp_moves hfree) fun _ _ => id).mono ?_
    fun _ _ => id)
  rintro _ d₃ ⟨h₃, _⟩
  have hread : Holds (readStoreCheckpoint config) d₃.site
      (fun _ s' => Moves d₃.site s' ∧ True) fun _ s' => Moves d₃.site s' :=
    holds_readStoreCheckpoint (fun _ _ => ⟨.refl _, trivial⟩) fun _ => .refl _
  refine holds_bind ((h₃.onSite hread fun _ _ => id).mono ?_ fun _ _ => id)
  rintro checkpoint d₄ ⟨h₄, _⟩
  refine holds_bind (holds_look (holds_bind (holds_refuseIf (fun _ => ?_) fun _ => h₄)))
  have hcompleted : ∀ db, completeReindexRecovery store target targetHash d₄.site.db = .ok db →
      Moves d₄.site (d₄.site.called (.completeReindexRecovery marker) db) := by
    intro db hdb
    obtain ⟨status, rfl⟩ := completeReindexRecovery_eq hdb
    exact .called_same rfl rfl
  have hcall : Holds (callStore config host.toHost (.completeReindexRecovery marker)
      (completeReindexRecovery store target targetHash)) d₄.site
      (fun _ s' => Moves d₄.site s' ∧ True) fun _ s' => Moves d₄.site s' :=
    holds_callStore (fun db hdb => ⟨hcompleted db hdb, trivial⟩)
      (fun db _ hdb => hcompleted db hdb) fun _ => .refl _
  refine holds_bind ((h₄.onSite hcall fun _ _ => id).mono ?_ fun _ _ => id)
  rintro _ d₅ ⟨h₅, _⟩
  exact holds_pure h₅

theorem runReindex_holds (h : Running platform config.environment fromBlock m d)
    {barrier : Option (Option String)} :
    Holds (runReindex evidenceDigest platform config host fromBlock barrier) d
      (fun _ d' => Archived platform config.environment d')
      fun _ d' => Archived platform config.environment d' := by
  unfold runReindex
  refine holds_bind (holds_look ?_)
  rw [h.current]
  dsimp only
  split
  · have hopen : Holds (openStore config ⟨["0"], decide (fromBlock = config.scanStartBlock), true⟩)
        d.site (fun _ s' => Moves d.site s' ∧ s' = d.site) fun _ s' => Moves d.site s' :=
      holds_openStore (fun _ _ => ⟨.refl _, rfl⟩) fun _ => .refl _
    refine holds_bind ((h.archived.onSite hopen fun _ _ => id).mono ?_ fun _ _ => id)
    rintro store d₁ ⟨h₁, _, hsite⟩
    have hrunning : Running platform config.environment fromBlock m d₁ :=
      ⟨h₁, hsite ▸ h.current, h.operationType, h.reindexFromBlock⟩
    refine holds_bind ((prepareSource_holds hrunning).mono ?_ fun _ _ => id)
    rintro _ d₂ ⟨m₂, h₂⟩
    exact replaySource_holds h₂
  · exact holds_refuse h.archived

theorem runActive_holds {options : ProjectionOptions ℕ} {admission : Admission}
    {operationId : String} {barrier : Option (Option String)}
    (h : Archived platform config.environment d)
    (hcurrent : d.site.currentMarker = some (preparedMarker config options operationId admission))
    (htype : options.operationType = .reindexProjection)
    (hfrom : admission.recovery.reindexFromBlock = some (Nat.repr fromBlock)) :
    Holds (runActive host (preparedMarker config options operationId admission) barrier
      (runReindex evidenceDigest platform config host fromBlock)) d
      (fun _ d' => Archived platform config.environment d')
      fun _ d' => Archived platform config.environment d' := by
  unfold runActive
  have hverify : Holds (ask fun turn _ => host.verifyDatabase turn) d.site
      (fun _ s' => Moves d.site s' ∧ s' = d.site) fun _ s' => Moves d.site s' :=
    holds_answer (fun _ => ⟨.refl _, rfl⟩) fun _ => .refl _
  refine holds_bind ((h.onSite hverify fun _ _ => id).mono ?_ fun _ _ => id)
  rintro _ d₁ ⟨h₁, _, hsite⟩
  have hcurrent₁ := hsite ▸ hcurrent
  have hinherits : Inherits d₁.site
      { preparedMarker config options operationId admission with stage := .active } :=
    .inr ⟨_, .inr hcurrent₁, rfl, id⟩
  refine holds_bind ((h₁.onSite (publishMarker_moves hinherits) fun _ _ => id).mono ?_
    fun _ _ => id)
  rintro _ d₂ ⟨h₂, _, hsite₂⟩
  have hrunning : Running platform config.environment fromBlock
      { preparedMarker config options operationId admission with stage := .active } d₂ :=
    ⟨h₂, by rw [hsite₂], htype, hfrom⟩
  refine holds_bind ((runReindex_holds hrunning).mono ?_ fun _ _ => id)
  rintro result d₃ h₃
  have hcheck : Holds (checkPostcondition barrier) d₃.site
      (fun _ s' => Moves d₃.site s' ∧ True) fun _ s' => Moves d₃.site s' :=
    holds_bind (holds_look (holds_refuseIf (fun _ => ⟨.refl _, trivial⟩) fun _ => .refl _))
  refine holds_bind ((h₃.onSite hcheck fun _ _ => id).mono ?_ fun _ _ => id)
  rintro _ d₄ ⟨h₄, _⟩
  exact holds_pure h₄

theorem preparedMarker_inherits {options : ProjectionOptions ℕ} {admission : Admission}
    {operationId : String} {s : Site} (h : admission.existing = s.marker) :
    Inherits s (preparedMarker config options operationId admission) := by
  cases hmarker : s.marker with
  | none =>
    left
    left
    simp only [preparedMarker, h, hmarker, Option.bind_none]
    rfl
  | some m₀ =>
    cases hbackup : nonEmpty m₀.backupId with
    | none =>
      left
      left
      simp only [preparedMarker, h, hmarker, Option.bind_some, hbackup]
    | some backupId =>
      right
      refine ⟨m₀, .inl hmarker, ?_, fun hphase => ?_⟩
      · show nonEmpty (admission.existing.bind fun m => m.backupId) = m₀.backupId
        rw [h, hmarker]
        exact hbackup.trans (nonEmpty_some hbackup).symm
      · simp only [preparedMarker, h, hmarker, Option.bind_some, hphase]

theorem runProjectionMaintenance_holds (h : Archived platform config.environment d) :
    Holds (runProjectionMaintenance config host
      (reindexOptions evidenceDigest config host.toHost fromBlock)
      (runReindex evidenceDigest platform config host fromBlock)) d
      (fun _ d' => Archived platform config.environment d')
      fun _ d' => Archived platform config.environment d' := by
  unfold runProjectionMaintenance
  have hclear : Holds (setCurrentMarker none) d.site
      (fun _ s' => Moves d.site s' ∧ True) fun _ s' => Moves d.site s' := by
    apply holds_setCurrentMarker
    refine ⟨Moves.marked d.site.marker _ (fun m hm => .of_bears (.inl hm)) ?_, trivial⟩
    exact fun _ => nofun
  refine holds_bind ((h.onSite hclear fun _ _ => id).mono ?_ fun _ _ => id)
  rintro _ d₁ ⟨h₁, _⟩
  have hadmission : Holds (checkAdmission config host.toHost
      (reindexOptions evidenceDigest config host.toHost fromBlock)) d₁.site
      (fun admission s' => Moves d₁.site s' ∧ s' = d₁.site ∧ Admitted config
        (reindexOptions evidenceDigest config host.toHost fromBlock)
        (Targeted host.toHost fromBlock) d₁.site admission) fun _ s' => Moves d₁.site s' :=
    (checkAdmission_holds reindex_resolves d₁.site).mono
      (fun _ _ hs => ⟨hs.1 ▸ .refl _, hs⟩) fun _ _ hs => hs ▸ .refl _
  refine holds_bind ((h₁.onSite hadmission fun _ _ => id).mono ?_ fun _ _ => id)
  rintro admission d₂ ⟨h₂, _, hsite, hadmitted⟩
  have hfresh : Holds (randomUUID host.toHost) d₂.site
      (fun _ s' => Moves d₂.site s' ∧ s' = d₂.site) fun _ s' => Moves d₂.site s' :=
    holds_answer (fun _ => ⟨.refl _, rfl⟩) fun _ => .refl _
  refine holds_bind ((h₂.onSite hfresh fun _ _ => id).mono ?_ fun _ _ => id)
  rintro fresh d₃ ⟨h₃, _, hsite₃⟩
  generalize (if admission.transition = true then fresh
    else (admission.existing.map fun m => m.operationId).getD fresh) = operationId
  have hexisting : admission.existing = d₃.site.marker := by
    rw [hsite₃, hsite]
    exact hadmitted.existing
  have hcurrent : Holds (setCurrentMarker (some (preparedMarker config
      (reindexOptions evidenceDigest config host.toHost fromBlock) operationId admission)))
      d₃.site (fun _ s' => Moves d₃.site s' ∧ s'.currentMarker = some (preparedMarker config
        (reindexOptions evidenceDigest config host.toHost fromBlock) operationId admission))
      fun _ s' => Moves d₃.site s' :=
    holds_setCurrentMarker ⟨.withCurrent (preparedMarker_inherits hexisting), rfl⟩
  refine holds_bind ((h₃.onSite hcurrent fun _ _ => id).mono ?_ fun _ _ => id)
  rintro _ d₄ ⟨h₄, _, hcurrent₄⟩
  refine holds_bind ((h₄.onSite (startOperation_moves hcurrent₄) fun _ _ => id).mono ?_
    fun _ _ => id)
  rintro _ d₅ ⟨h₅, _, hcurrent₅⟩
  -- What the failure of the run leaves.
  have hfail : ∀ {P : ℕ → ArchiveSite Rest → Prop} message d',
      Archived platform config.environment d' → Holds (do
        onSite (raiseBarrier host.toHost admission.barrier)
        onSite (failMarker host.toHost message) : ArchiveOperation Rest ℕ) d' P
        fun _ d'' => Archived platform config.environment d'' := by
    intro P message d' h'
    refine holds_bind ((h'.onSite (raiseBarrier_moves admission.barrier) fun _ _ => id).mono ?_
      fun _ _ => id)
    rintro _ d'' ⟨h'', _⟩
    exact holds_within ((failMarker_moves message).mono (fun _ _ => id) fun _ _ => h''.moved)
  obtain ⟨_, hfrom, _⟩ := hadmitted.resolved
  refine holds_bind (holds_attempt ((runActive_holds h₅ hcurrent₅ rfl hfrom).mono ?_
    fun failure d' h' => caught_of h' (fun message => hfail message d' h') failure))
  rintro result d₆ h₆
  refine holds_bind ((h₆.onSite clearMarker_moves fun _ _ => id).mono ?_ fun _ _ => id)
  rintro _ d₇ ⟨h₇, _⟩
  exact holds_pure h₇

theorem reindex_holds (h : Archived platform config.environment d) :
    Holds (reindex evidenceDigest platform config host fromBlock) d
      (fun _ d' => Archived platform config.environment d')
      fun _ d' => Archived platform config.environment d' := by
  unfold reindex
  refine holds_bind (holds_refuseIf (fun _ => ?_) fun _ => h)
  have hverify : Holds (ask fun turn _ => host.verifyDeployment turn) d.site
      (fun _ s' => Moves d.site s' ∧ True) fun _ s' => Moves d.site s' :=
    holds_answer (fun _ => ⟨.refl _, trivial⟩) fun _ => .refl _
  refine holds_bind ((h.onSite hverify fun _ _ => id).mono ?_ fun _ _ => id)
  rintro _ d₁ ⟨h₁, _⟩
  exact runProjectionMaintenance_holds h₁

end

section
variable {σ : Type} {evidenceDigest : Evidence → String} {config : Config} {host : Host σ}

theorem rebuild_moves (s₀ : Site) :
    Carries config (rebuildOptions evidenceDigest config host)
      (fun _ recovery => recovery = noRecovery) s₀ (Moves s₀) (Moves s₀) where
  start := by
    apply Moves.marked s₀.marker
    · exact fun m hm => .of_bears (.inl hm)
    · exact fun _ => nofun
  prepared := fun admission operationId hadmitted =>
    .withCurrent (preparedMarker_inherits hadmitted.existing)
  written := fun s m h hm => h.trans (.withMarker (.of_bears (.inr hm)))
  failed := fun s m _ _ h hm _ => h.trans (.withMarker (.inr ⟨m, .inr hm, rfl, id⟩))
  activated := fun s m h hm => h.trans (.withCurrent (.inr ⟨m, .inr hm, rfl, id⟩))
  raised := by
    intro s reason h
    apply h.trans (.called_same _ _)
    · unfold barAgain
      split <;> rfl
    · unfold barAgain
      split <;> rfl
  run := by
    intro admission operationId s _ hs _ _ _
    refine holds_bind (holds_openStore (fun store _ => ?_) fun _ => hs)
    exact runRebuild_moves.mono (fun _ _ h => hs.trans h.1) fun _ _ => hs.trans
  ran := fun _ => id
  cleared := by
    intro s h
    apply h.trans (Moves.marked _ s.currentMarker _ _)
    · exact fun _ => nofun
    · exact fun m hm => .of_bears (.inr hm)

end

section
variable {σ Rest : Type} {evidenceDigest : Evidence → String}
  {platform : Platform (FileContent Rest)} {paths : EnvironmentPaths} {d : ArchiveSite Rest}

theorem rebuild_holds {config : Config} {host : Host σ} (h : Archived platform paths d) :
    Holds (onSite (rebuild evidenceDigest config host)) d
      (fun _ d' => Archived platform paths d') fun _ d' => Archived platform paths d' := by
  have hrebuild : Holds (rebuild evidenceDigest config host) d.site
      (fun _ s' => Moves d.site s' ∧ True) fun _ s' => Moves d.site s' := by
    refine ((rebuild_moves d.site).runProjectionMaintenance_holds rebuild_resolves).mono ?_
      fun _ _ => id
    rintro _ _ ⟨s, hs, rfl⟩
    refine ⟨hs.trans (Moves.marked _ s.currentMarker (fun _ => nofun) ?_), trivial⟩
    exact fun m hm => .of_bears (.inr hm)
  exact (h.onSite hrebuild fun _ _ => id).mono (fun _ _ hd => hd.1) fun _ _ => id

theorem Archived.run (h : Archived platform paths d) (event : ArchiveEvent σ Rest) :
    Archived platform paths (event.run evidenceDigest platform paths d) := by
  cases event with
  | attempt config operation host =>
    cases operation with
    | rebuild => exact (rebuild_holds h).final 0
    | reindex fromBlock =>
      have hreindex : Holds (reindex evidenceDigest platform { config with environment := paths }
          host fromBlock) d (fun _ d' => Archived platform paths d')
          fun _ d' => Archived platform paths d' := reindex_holds h
      exact hreindex.final 0
  | written db =>
    simp only [ArchiveEvent.run]
    split
    · rename_i hnone
      constructor
      · exact h.notes
      · rintro m (hm | hm)
        · rw [hnone] at hm
          cases hm
        · cases hm
    · exact h

end

/-- Whenever a maintenance operation deletes a source row, its durable marker is
that of a reindex from the first block, and names a backup that is verified for
this operation and holds every source row. -/
theorem source_destroyed_behind_archive {σ Rest : Type} (evidenceDigest : Evidence → String)
    (platform : Platform (FileContent Rest)) (paths : EnvironmentPaths) (db : Database)
    (backups : String → BackupDirectory (FileContent Rest)) (events : List (ArchiveEvent σ Rest)) :
    let d := runEvents evidenceDigest platform paths events ⟨⟨db, none, none, []⟩, backups, []⟩
    ∀ n ∈ d.notes, Destroys n.call.before n.call.after → Backed platform paths n := by
  intro d
  have hrun : ∀ (events : List (ArchiveEvent σ Rest)) (d : ArchiveSite Rest),
      Archived platform paths d →
      Archived platform paths (runEvents evidenceDigest platform paths events d) := by
    intro events
    induction events with
    | nil => exact fun _ => id
    | cons event rest ih => exact fun d h => ih _ (h.run event)
  apply (hrun events _ _).notes
  constructor
  · exact fun _ hn => absurd hn List.not_mem_nil
  · rintro m (hm | hm)
    · cases hm
    · cases hm

end MotorCove.Maintenance.Archive
