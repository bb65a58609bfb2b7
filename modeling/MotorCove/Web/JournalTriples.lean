import MotorCove.Web.JournalRules

/-!
# What the journal's operations do

One triple for each operation of the journal. A save leads to the entry at its
next revision, in storage or, over a volatile entry, in the tab's memory.
-/

set_option autoImplicit false

namespace MotorCove.Web
open MotorCove.Asynchrony

theorem isVolatile_congr {j j' : LocalStorageJournal}
    (h : j'.volatileEntries = j.volatileEntries) (id : String) :
    IsVolatile j' id ↔ IsVolatile j id := by
  simp [IsVolatile, LocalStorageJournal.volatile?, h]

theorem isVolatile_of_mem {j : LocalStorageJournal} {entry : JournalEntry}
    (h : entry ∈ j.volatileEntries) : IsVolatile j entry.clientOperationId := by
  simp only [IsVolatile, LocalStorageJournal.volatile?, List.find?_isSome]
  exact ⟨entry, h, by simp⟩

theorem volatile?_some {j : LocalStorageJournal} {id : String} {entry : JournalEntry}
    (h : j.volatile? id = some entry) :
    entry ∈ j.volatileEntries ∧ entry.clientOperationId = id := by
  constructor
  · exact List.mem_of_find?_eq_some h
  · simpa using List.find?_some h

section
variable {α : Type} {key : α → String}

theorem mem_setIn {a b : α} {l : List α} (h : b ∈ LocalStorageJournal.setIn key a l) :
    b = a ∨ b ∈ l := by
  induction l with
  | nil => simpa [LocalStorageJournal.setIn] using h
  | cons first rest ih =>
    unfold LocalStorageJournal.setIn at h
    split at h
    · rcases List.mem_cons.mp h with rfl | h
      · exact .inl rfl
      · exact .inr (List.mem_cons_of_mem _ h)
    · rcases List.mem_cons.mp h with rfl | h
      · exact .inr List.mem_cons_self
      · exact (ih h).imp_right (List.mem_cons_of_mem _)

theorem setIn_keys (a : α) (l : List α) (id : String) :
    (∃ b ∈ LocalStorageJournal.setIn key a l, key b = id) ↔ id = key a ∨ ∃ b ∈ l, key b = id := by
  induction l with
  | nil => simp [LocalStorageJournal.setIn, eq_comm]
  | cons first rest ih =>
    unfold LocalStorageJournal.setIn
    split
    · rename_i heq
      simp only [List.exists_mem_cons_iff, heq]
      tauto
    · simp only [List.exists_mem_cons_iff, ih]
      tauto

end

theorem isVolatile_setVolatile (j : LocalStorageJournal) (entry : JournalEntry) (id : String) :
    IsVolatile (j.setVolatile entry) id ↔ id = entry.clientOperationId ∨ IsVolatile j id := by
  simpa [IsVolatile, LocalStorageJournal.volatile?, LocalStorageJournal.setVolatile] using
    @setIn_keys _ JournalEntry.clientOperationId entry j.volatileEntries id

namespace Rules
variable {R : Rules} {run : Run} {E : Surroundings Answer Moment}

/-- The surroundings are within what the rules say of them. -/
structure Fits (R : Rules) (E : Surroundings Answer Moment) : Prop where
  storage : R.healthy → ∀ m, E.moments m → m.getItem = none ∧ m.setItem = none
  inspections : R.traced → ∀ entry transactionHash mode (answer : InspectedTransaction),
    R.Sound entry → E.answers (.inspectTransaction entry transactionHash mode)
      (Except.ok answer : Except JsError InspectedTransaction) → R.proves entry.intent answer
  observations : R.traced → ∀ saleId deploymentId transactionHash blockNumber blockHash logIndex
    (observation : FundingObservation), E.answers (.observeFunding saleId deploymentId
      transactionHash blockNumber blockHash logIndex)
      (Except.ok observation : Except JsError FundingObservation) →
    projectionOf observation = .reflected →
    R.confirms saleId deploymentId transactionHash blockHash logIndex observation.projectionBuildId

theorem Fits.reads (hE : R.Fits E) {m : Moment} (hm : E.moments m) {s : State}
    (h : (R.discipline run E).inv s) (deploymentId : String) :
    (R.discipline run E).quiet s (loadDurable deploymentId m s).2 ∧
      (R.discipline run E).inv (loadDurable deploymentId m s).2 := by
  obtain ⟨hwrite, hvolatile, -⟩ := loadDurable_memory deploymentId m s
  have hstorage := loadDurable_storage deploymentId m s
  refine ⟨⟨hstorage, ?_, ?_⟩, ?_, ?_, ?_, ?_⟩
  · exact fun _ id hid => (isVolatile_congr hvolatile id).mpr hid
  · exact fun _ id hid => .inr ((isVolatile_congr hvolatile id).mp hid)
  · rw [hstorage]
    exact h.1
  · rw [hvolatile]
    exact h.2.sound
  · rw [hvolatile]
    exact h.2.later
  · intro hhealthy
    rw [loadDurable_readable _ _ _ (hE.storage hhealthy m hm).1 (h.1.readable hhealthy _)]
    obtain ⟨hwriteIssues, hissues⟩ := h.2.calm hhealthy
    refine ⟨hwriteIssues, fun d => ?_⟩
    by_cases hd : d = deploymentId
    · simp [LocalStorageJournal.setIssues, hd]
    · simp [LocalStorageJournal.setIssues, hd, hissues]

structure Current (R : Rules) (deploymentId clientOperationId : String) (entry : JournalEntry)
    (s : State) : Prop where
  id : entry.clientOperationId = clientOperationId
  deployment : entry.deploymentId = deploymentId
  sound : R.Sound entry
  started : R.Started entry
  place : R.healthy → IsVolatile s.2 clientOperationId ∨ entry ∈ rows s.1 deploymentId

/-- Where storage works the entry is in it, or a volatile one is in its place. -/
def Known (R : Rules) (entry : JournalEntry) (s : State) : Prop :=
  R.healthy → IsVolatile s.2 entry.clientOperationId ∨ R.Stored entry s.1

theorem find_current {m : Moment} {s : State} (h : (R.discipline run E).inv s)
    {deploymentId id : String} {entry : JournalEntry}
    (hfound : (find deploymentId id m s).1 = some entry) :
    R.Current deploymentId id entry (find deploymentId id m s).2 := by
  have hid : entry.clientOperationId = id := by simpa using List.find?_some hfound
  have hstate : (find deploymentId id m s).2 = (loadDurable deploymentId m s).2 := rfl
  have hvolatile := (loadDurable_memory deploymentId m s).2.1
  rw [hstate]
  rcases mem_load deploymentId m s (List.mem_of_find?_eq_some hfound) with hrow | ⟨hmem, hdep⟩
  · exact ⟨hid, h.1.filed.own _ _ hrow, h.1.sound _ _ hrow, h.1.started _ _ hrow,
      fun _ => .inr (by rwa [loadDurable_storage])⟩
  · refine ⟨hid, hdep, h.2.sound _ hmem, fun hattempt => ?_, fun _ => .inl ?_⟩
    · exact le_trans (by omega) (h.2.later _ hmem hattempt)
    · rw [isVolatile_congr hvolatile]
      exact hid ▸ isVolatile_of_mem hmem

theorem find_isSome {m : Moment} {s : State} (hm : m.getItem = none) {deploymentId id : String}
    (hreadable : Readable s.1 deploymentId) {row : JournalEntry}
    (hrow : row ∈ rows s.1 deploymentId) (hid : row.clientOperationId = id)
    (hvolatile : ¬ IsVolatile s.2 id) : (find deploymentId id m s).1.isSome := by
  have hloaded := loadDurable_readable deploymentId m s hm hreadable
  simp only [find, load, hloaded, List.find?_isSome, withVolatile, List.mem_append,
    List.mem_filter]
  refine ⟨row, .inl ⟨hrow, ?_⟩, by simpa using hid⟩
  simp only [List.mem_map, List.mem_filter, decide_not, Bool.not_eq_true', decide_eq_false_iff_not]
  rintro ⟨entry, ⟨hentry, -⟩, heq⟩
  exact hvolatile (hid ▸ heq ▸ isVolatile_of_mem hentry)

section
variable {A : State → Prop} {F : JsError → State → Prop}

theorem Relies.stored {before after : State} (h : R.Relies run before after)
    (hinv : (R.discipline run E).inv before) {entry : JournalEntry}
    (hstored : R.Stored entry before.1) : R.Stored entry after.1 :=
  hstored.grown (h.grown hinv.1)

theorem stored_stable (entry : JournalEntry) :
    (R.discipline run E).Stable fun s => R.Stored entry s.1 :=
  fun _ _ hinv hrely hstored => hrely.stored hinv hstored

theorem known_stable (entry : JournalEntry) :
    (R.discipline run E).Stable fun s => R.Known entry s :=
  fun _ _ hinv hrely hknown hhealthy => (hknown hhealthy).imp (hrely.volatile hhealthy _)
    (hrely.stored hinv)

/-- Neither the others nor a quiet act of the run's own make it false. -/
structure Steady (R : Rules) (run : Run) (E : Surroundings Answer Moment) (P : State → Prop) :
    Prop where
  stable : (R.discipline run E).Stable P
  quiet : ∀ {a b}, (R.discipline run E).quiet a b → P a → P b

theorem Steady.and {P Q : State → Prop} (hP : R.Steady run E P) (hQ : R.Steady run E Q) :
    R.Steady run E fun s => P s ∧ Q s :=
  ⟨hP.stable.and hQ.stable, fun h hs => ⟨hP.quiet h hs.1, hQ.quiet h hs.2⟩⟩

theorem steady_const {p : Prop} : R.Steady run E fun _ => p := ⟨stable_const, fun _ h => h⟩

theorem known_steady (entry : JournalEntry) : R.Steady run E fun s => R.Known entry s :=
  ⟨known_stable entry, fun hquiet hknown hhealthy =>
    (hknown hhealthy).imp (hquiet.2.volatile hhealthy _) fun h => hquiet.1.symm ▸ h⟩

theorem find_triple (hE : R.Fits E) (hA : R.Steady run E A) (deploymentId id : String) :
    Triple (R.discipline run E) (fun s => A s) (Async.access (find deploymentId id))
      (fun found s => A s ∧ ∀ entry, found = some entry → R.Current deploymentId id entry s) F := by
  apply Triple.access
  intro m s hm hinv hAs
  obtain ⟨hquiet, hinv'⟩ := hE.reads hm hinv deploymentId
  exact ⟨hquiet, hinv', hA.quiet hquiet hAs, fun entry hfound => find_current hinv hfound⟩

theorem latest_triple (hE : R.Fits E) (hA : R.Steady run E A) {entry : JournalEntry}
    (hsound : R.Sound entry) (hstarted : R.Started entry) :
    Triple (R.discipline run E) (fun s => A s ∧ R.Known entry s)
      (Async.access (latestEntry entry))
      (fun current s => A s ∧ R.Current entry.deploymentId entry.clientOperationId current s)
      F := by
  apply Triple.access
  rintro m s hm hinv ⟨hAs, hknown⟩
  obtain ⟨hquiet, hinv'⟩ := hE.reads hm hinv entry.deploymentId
  refine ⟨hquiet, hinv', hA.quiet hquiet hAs, ?_⟩
  cases hfound : (find entry.deploymentId entry.clientOperationId m s).1 with
  | some current =>
    have hcurrent := find_current hinv hfound
    simpa [latestEntry, hfound] using hcurrent
  | none =>
    have hlatest : (latestEntry entry m s).1 = entry := by simp [latestEntry, hfound]
    rw [hlatest]
    refine ⟨rfl, rfl, hsound, hstarted, fun hhealthy => .inl ?_⟩
    have hmemory := (loadDurable_memory entry.deploymentId m s).2.1
    change IsVolatile (loadDurable entry.deploymentId m s).2.2 _
    rw [isVolatile_congr hmemory]
    by_contra hvolatile
    obtain ⟨row, hrow, hid, -⟩ := (hknown hhealthy).resolve_left hvolatile
    have hsome := find_isSome (hE.storage hhealthy m hm).1 (hinv.1.readable hhealthy _) hrow hid
      hvolatile
    simp [hfound] at hsome

end

/-- What may be written over the row of its operation: what a run makes of the
row that it read, or the first row of an attempt. -/
def Writable (R : Rules) (run : Run) (next : JournalEntry) (storage : LocalStorage) : Prop :=
  (∃ older, older.clientOperationId = next.clientOperationId ∧
    older.deploymentId = next.deploymentId ∧ older.version = next.version ∧
    R.Stored older storage ∧ run.Replaces older next) ∨
  (R.attempts run.uuid ∧ ∃ context action createdAt, run.task = .submit context action ∧
    next = preparing run.uuid context action createdAt)

theorem writable_stable (next : JournalEntry) :
    (R.discipline run E).Stable fun s => R.healthy → R.Writable run next s.1 := by
  intro a b hinv hrely hwritable hhealthy
  rcases hwritable hhealthy with ⟨older, hid, hdep, hversion, hstored, hreplaces⟩ | hnew
  · exact .inl ⟨older, hid, hdep, hversion, hrely.stored hinv hstored, hreplaces⟩
  · exact .inr hnew

theorem Stored.row_eq {storage : LocalStorage} (hfiled : Filed storage)
    {older row : JournalEntry} (h : R.Stored older storage)
    (hrow : row? storage older.deploymentId older.clientOperationId = some row)
    (hversion : row.version = older.version) : row = older := by
  obtain ⟨newer, hnewer, hid, hlater⟩ := h
  have heq : row = newer := by
    rw [hfiled.row?_iff.mpr ⟨hnewer, hid⟩] at hrow
    exact (Option.some_inj.mp hrow).symm
  rcases hlater with h | ⟨hlt, -⟩
  · exact heq.trans h
  · rw [heq] at hversion
    omega

theorem Shared.overwrites {before after : LocalStorage} (h : R.Shared before)
    {row : JournalEntry} (hover : Overwrites before after row) (hsound : R.Sound row) :
    R.Shared after where
  filed := hover.filed h.filed
  sound deploymentId other hother := by
    rcases hover.mem hother with ⟨rfl, -⟩ | ⟨hmem, -⟩
    · exact hsound
    · exact h.sound _ _ hmem
  started deploymentId other hother := by
    rcases hover.mem hother with ⟨rfl, -⟩ | ⟨hmem, -⟩
    · intro _
      simp [JournalEntry.version, hover.revision]
    · exact h.started _ _ hmem
  readable hhealthy _ := hover.readable_after (h.readable hhealthy _)

theorem Writable.writes {before after : LocalStorage} (hshared : R.Shared before)
    {next : JournalEntry} (hsound : R.Sound next)
    (hwritable : R.healthy → R.Writable run next before)
    (hversion : currentRevision (row? before next.deploymentId next.clientOperationId) =
      next.version)
    (h : Overwrites before after (next.after next.version)) :
    R.Writes run before after ∧ R.Shared after ∧ R.Stored (next.after next.version) after := by
  refine ⟨.inr ⟨_, h, hsound.after _, ?_, ?_⟩, hshared.overwrites h (hsound.after _),
    ⟨_, h.row_mem, rfl, .inl rfl⟩⟩
  · intro hhealthy row hrow
    rw [show row? before next.deploymentId next.clientOperationId = some row from hrow] at hversion
    have hrowversion : row.version = next.version := hversion
    rcases hwritable hhealthy with ⟨older, hid, hdep, hold, hstored, hreplaces⟩ |
      ⟨hattempt, context, action, createdAt, -, rfl⟩
    · have hplace : row? before older.deploymentId older.clientOperationId = some row := by
        rw [hid, hdep]
        exact hrow
      have heq := hstored.row_eq hshared.filed hplace (by omega)
      exact heq ▸ hreplaces.after _
    · obtain ⟨hmem, hid⟩ := row?_some hrow
      have hstarted := hshared.started _ _ hmem (hid.symm ▸ hattempt)
      have hzero : row.version = 0 := hrowversion
      omega
  · intro hhealthy hnone
    rcases hwritable hhealthy with ⟨older, hid, hdep, -, ⟨row, hrow, hrowid, -⟩, -⟩ |
      ⟨-, context, action, createdAt, htask, rfl⟩
    · have hsome := hshared.filed.row?_iff.mpr ⟨hrow, hrowid⟩
      rw [hid, hdep] at hsome
      exact absurd (hnone.symm.trans hsome) (by simp)
    · exact ⟨context, action, createdAt, htask, rfl⟩

/-- Where storage works only a conflict can be got over. -/
def Throws (R : Rules) (error : JsError) : Prop :=
  R.healthy → error = revisionConflict ∨
    (error.message ≠ revisionConflict.message ∧ storageWriteUnavailable error = false)

theorem checked_triple {P : State → Prop} (entry : JournalEntry) :
    Triple (R.discipline run E) P (checked entry) (fun parsed s => parsed = entry ∧ P s)
      (fun error s => R.Throws error ∧ P s) := by
  unfold checked
  split
  · rename_i parsed hparsed
    unfold parseEntry at hparsed
    split at hparsed
    · cases hparsed
      exact Triple.pure fun _ _ h => ⟨rfl, h⟩
    · cases hparsed
  · rename_i error herror
    unfold parseEntry at herror
    split at herror
    · cases herror
    · cases herror
      exact Triple.throw fun _ _ h => ⟨fun _ => .inr (by decide), h⟩

section
variable {A B : State → Prop} {F : JsError → State → Prop} {next : JournalEntry}

theorem persist_triple (hE : R.Fits E) (hsound : R.Sound next)
    (hA : R.Steady run E A) (hB : R.Steady run E B)
    (hover : ∀ before after : State, R.Shared before.1 → A before →
      Overwrites before.1 after.1 (next.after next.version) →
      R.Remembers run before.2 after.2 → B after) :
    Triple (R.discipline run E) (fun s => A s ∧ (R.healthy → R.Writable run next s.1))
      (locked (persist next (saveCandidate next)))
      (fun outcome s =>
        (∀ stored, outcome = .ok stored → stored = next.after next.version ∧ B s ∧
          R.Stored stored s.1) ∧
        (∀ error, outcome = .error error → A s ∧ (R.healthy → error = revisionConflict))) F := by
  have hcandidate : ∀ m j current entry, saveCandidate next m j current = some entry →
      entry.clientOperationId = next.clientOperationId ∧
        entry.deploymentId = next.deploymentId := by
    intro m j current entry hentry
    unfold saveCandidate at hentry
    split at hentry
    · cases hentry
      exact ⟨rfl, rfl⟩
    · cases hentry
  apply Triple.exchange
  · exact hA.stable.and (writable_stable next)
  · intro outcome a b hinv hrely hQ
    refine ⟨fun stored h => ?_, fun error h => ?_⟩
    · obtain ⟨heq, hBa, hstored⟩ := hQ.1 stored h
      exact ⟨heq, hB.stable a b hinv hrely hBa, hrely.stored hinv hstored⟩
    · obtain ⟨hAa, herror⟩ := hQ.2 error h
      exact ⟨hA.stable a b hinv hrely hAa, herror⟩
  · intro s h
    cases h
  · intro s h
    cases h
  · rintro m s hm hinv ⟨hAs, hwritable⟩
    obtain ⟨hquiet, hinv'⟩ := hE.reads hm hinv next.deploymentId
    cases hpersist : persist next (saveCandidate next) m s with
    | mk outcome s' =>
      obtain ⟨hmemory, ⟨error, rfl, hsame, hconflict⟩ | ⟨j, entry, hentry, rfl, hover'⟩⟩ :=
        persist_cases hcandidate hpersist
      · have hs' : s' = (loadDurable next.deploymentId m s).2 :=
          Prod.ext (by rw [hsame, loadDurable_storage]) hmemory
        subst hs'
        refine ⟨Discipline.quiet_grants _ hquiet, hinv', ?_, ?_⟩
        · rintro _ ⟨⟩
        rintro _ ⟨⟩
        refine ⟨hA.quiet hquiet hAs, fun hhealthy => ?_⟩
        obtain ⟨hget, hset⟩ := hE.storage hhealthy m hm
        exact hconflict hget hset (hinv.1.readable hhealthy _)
      · unfold saveCandidate at hentry
        split at hentry
        · rename_i hversion
          cases hentry
          rw [hversion] at hover'
          obtain ⟨hwrites, hshared, hstored⟩ :=
            Writable.writes hinv.1 hsound hwritable hversion hover'
          refine ⟨⟨hwrites, hmemory ▸ hquiet.2⟩, ⟨hshared, hmemory ▸ hinv'.2⟩, ?_, ?_⟩
          · rintro _ ⟨⟩
            rw [hversion]
            exact ⟨rfl, hover s s' hinv.1 hAs hover' (hmemory ▸ hquiet.2), hstored⟩
          · rintro _ ⟨⟩
        · cases hentry

/-- What is known of a stored entry: where it is, and that an attempt's first two
revisions are in storage. -/
structure Saved (R : Rules) (B : State → Prop) (next stored : JournalEntry) (s : State) :
    Prop where
  eq : stored = next.after next.version
  after : B s
  known : R.Known stored s
  first : R.attempts next.clientOperationId → next.version < 2 → R.Stored stored s.1

theorem saved_stable (hB : R.Steady run E B) (stored : JournalEntry) :
    (R.discipline run E).Stable (R.Saved B next stored) := by
  intro a b hinv hrely h
  exact ⟨h.eq, hB.stable a b hinv hrely h.after, known_stable stored a b hinv hrely h.known,
    fun hattempt hversion => hrely.stored hinv (h.first hattempt hversion)⟩

theorem Memory.deleteWriteIssue {j : LocalStorageJournal} (h : R.Memory j) (id : String) :
    R.Memory (j.deleteWriteIssue id) where
  sound := h.sound
  later := h.later
  calm hhealthy := by
    obtain ⟨hwrite, hissues⟩ := h.calm hhealthy
    exact ⟨by simp [LocalStorageJournal.deleteWriteIssue, hwrite], hissues⟩

theorem Memory.setVolatile {j : LocalStorageJournal} (h : R.Memory j) {entry : JournalEntry}
    (hsound : R.Sound entry) (hlater : R.attempts entry.clientOperationId → 2 ≤ entry.version) :
    R.Memory (j.setVolatile entry) where
  sound other hother := by
    rcases mem_setIn hother with rfl | hmem
    · exact hsound
    · exact h.sound other hmem
  later other hother := by
    rcases mem_setIn hother with rfl | hmem
    · exact hlater
    · exact h.later other hmem
  calm := h.calm

theorem Remembers.of_volatile {j j' : LocalStorageJournal}
    (h : j'.volatileEntries = j.volatileEntries) : R.Remembers run j j' :=
  ⟨fun _ id hid => (isVolatile_congr h id).mpr hid,
    fun _ id hid => .inr ((isVolatile_congr h id).mp hid)⟩

/-- A volatile entry takes the place of one that was there, or is the run's own. -/
theorem Remembers.setVolatile {j : LocalStorageJournal} {entry : JournalEntry}
    (h : R.healthy → entry.clientOperationId = run.uuid ∨ IsVolatile j entry.clientOperationId) :
    R.Remembers run j (j.setVolatile entry) where
  volatile _ id hid := (isVolatile_setVolatile j entry id).mpr (.inr hid)
  own hhealthy id hid := by
    rcases (isVolatile_setVolatile j entry id).mp hid with rfl | hid
    · exact h hhealthy
    · exact .inr hid

theorem storageWriteError_triple (hA : R.Steady run E A) (error : JsError)
    (hhealthy : ¬ R.healthy) :
    Triple (R.discipline run E) (fun s => A s) (storageWriteError next error)
      (fun (_ : JournalEntry) _ => False) (fun error s => R.Throws error ∧ A s) := by
  apply Triple.attempt
  intro m s _ hinv hAs
  refine ⟨⟨rfl, Remembers.of_volatile rfl⟩, ⟨hinv.1, hinv.2.sound, hinv.2.later, ?_⟩, ?_, ?_⟩
  · exact fun h => absurd h hhealthy
  · rintro _ ⟨⟩
  · intro _ _
    exact ⟨fun h => absurd h hhealthy, hA.quiet (a := s) ⟨rfl, Remembers.of_volatile rfl⟩ hAs⟩

theorem settleWrite_triple (hA : R.Steady run E A) {outcome : Except JsError JournalEntry}
    {Q : JournalEntry → State → Prop} :
    Triple (R.discipline run E)
      (fun s => (∀ stored, outcome = .ok stored → Q stored s) ∧
        (∀ error, outcome = .error error → A s ∧ (R.healthy → error = revisionConflict)))
      (settleWrite next outcome) Q (fun error s => R.Throws error ∧ A s) := by
  cases outcome with
  | ok stored => exact Triple.pure fun _ _ h => h.1 stored rfl
  | error error =>
    unfold settleWrite
    simp only
    split
    · apply Triple.throw
      intro s _ h
      obtain ⟨hA, hconflict⟩ := h.2 error rfl
      exact ⟨fun hhealthy => .inl (hconflict hhealthy), hA⟩
    · rename_i hmessage
      by_cases hhealthy : R.healthy
      · intro start s _ _ h
        have hconflict := (h.2 error rfl).2 hhealthy
        exact absurd (.inl (by rw [hconflict])) hmessage
      · exact ((storageWriteError_triple hA error hhealthy).pre fun s _ h => (h.2 error rfl).1).post
          fun _ _ _ h => h.elim

theorem deleteWriteIssue_triple {stored : JournalEntry}
    {Q : JournalEntry → State → Prop} {id : String}
    (hQ : ∀ s, Q stored s → Q stored (s.1, s.2.deleteWriteIssue id)) :
    Triple (R.discipline run E) (Q stored)
      (Async.access (fun _ s => ((), s.1, s.2.deleteWriteIssue id)) >>= fun _ =>
        (pure stored : Program JournalEntry)) Q F := by
  apply Triple.bind (M := fun _ s => Q stored s)
  · apply Triple.access
    intro m s _ hinv h
    exact ⟨⟨rfl, Remembers.of_volatile rfl⟩, ⟨hinv.1, hinv.2.deleteWriteIssue _⟩, hQ s h⟩
  · intro _
    exact Triple.pure fun _ _ h => h

theorem saveOverVolatile_triple (hsound : R.Sound next) (hB : R.Steady run E B)
    (hsame : ∀ s, A s → B s)
    {volatile : JournalEntry} (hlater : R.attempts next.clientOperationId → 2 ≤ volatile.version) :
    Triple (R.discipline run E) (fun s => A s ∧ IsVolatile s.2 next.clientOperationId)
      (saveOverVolatile next volatile) (R.Saved B next) (fun error s => R.Throws error ∧ A s) := by
  apply Triple.attempt
  rintro m s _ hinv ⟨hA, hvolatile⟩
  split
  · refine ⟨Discipline.quiet_refl _ _, hinv, ?_, ?_⟩
    · rintro _ ⟨⟩
    · rintro _ ⟨⟩
      exact ⟨fun _ => .inl rfl, hA⟩
  · rename_i hversion
    have hversion : next.version = volatile.version := not_not.mp hversion
    have hremembers : R.Remembers run s.2 (s.2.setVolatile (next.after next.version)) :=
      Remembers.setVolatile fun _ => .inr hvolatile
    refine ⟨⟨rfl, hremembers⟩, ⟨hinv.1, ?_⟩, ?_, ?_⟩
    · apply hinv.2.setVolatile (hsound.after _)
      intro hattempt
      have := hlater hattempt
      simp only [version_after]
      omega
    · rintro _ ⟨⟩
      refine ⟨rfl, hB.quiet (a := s) ⟨rfl, hremembers⟩ (hsame _ hA), fun _ => .inl ?_,
        fun hattempt hlt => ?_⟩
      · exact (isVolatile_setVolatile _ _ _).mpr (.inl rfl)
      · have := hlater hattempt
        omega
    · rintro _ ⟨⟩

theorem save_triple (hE : R.Fits E) (hsound : R.Sound next)
    (hA : R.Steady run E A) (hB : R.Steady run E B) (hsame : ∀ s, A s → B s)
    (hover : ∀ before after : State, R.Shared before.1 → A before →
      Overwrites before.1 after.1 (next.after next.version) →
      R.Remembers run before.2 after.2 → B after) :
    Triple (R.discipline run E) (fun s => A s ∧ (R.healthy →
        IsVolatile s.2 next.clientOperationId ∨ R.Writable run next s.1))
      (save next) (R.Saved B next) (fun error s => R.Throws error ∧ A s) := by
  unfold save
  apply Triple.bind ((checked_triple next).weaken (fun _ _ h => h) (fun _ _ _ h => h)
    fun _ _ _ h => ⟨h.1, h.2.1⟩)
  intro parsed
  apply Triple.assume
  rintro rfl
  apply Triple.bind (M := fun volatile s => volatile = s.2.volatile? parsed.clientOperationId ∧
    (A s ∧ (R.healthy → IsVolatile s.2 parsed.clientOperationId ∨ R.Writable run parsed s.1)) ∧
      R.Memory s.2)
  · exact Triple.access fun m s _ hinv h => ⟨Discipline.quiet_refl _ _, hinv, rfl, h, hinv.2⟩
  intro found
  cases found with
  | some volatile =>
    by_cases hlater : R.attempts parsed.clientOperationId → 2 ≤ volatile.version
    · apply (saveOverVolatile_triple hsound hB hsame hlater).pre
      rintro s _ ⟨hfound, ⟨hA, -⟩, -⟩
      exact ⟨hA, by simp [IsVolatile, ← hfound]⟩
    · rintro start s _ _ ⟨hfound, -, hmemory⟩
      obtain ⟨hmem, hid⟩ := volatile?_some hfound.symm
      exact absurd (fun hattempt => hmemory.later _ hmem (hid.symm ▸ hattempt)) hlater
  | none =>
    apply Triple.bind ((persist_triple hE hsound hA hB hover).pre ?_)
    · intro outcome
      apply Triple.bind (M := R.Saved B parsed)
      · apply (settleWrite_triple hA).pre
        intro s _ h
        refine ⟨fun stored hstored => ?_, h.2⟩
        obtain ⟨heq, hBs, hplace⟩ := h.1 stored hstored
        exact ⟨heq, hBs, fun _ => .inr hplace, fun _ _ => hplace⟩
      · intro stored
        apply deleteWriteIssue_triple
        intro s h
        exact ⟨h.eq, hB.quiet (a := s) ⟨rfl, Remembers.of_volatile rfl⟩ h.after, h.known, h.first⟩
    · rintro s _ ⟨hnone, ⟨hA, hwritable⟩, -⟩
      refine ⟨hA, fun hhealthy => (hwritable hhealthy).resolve_left ?_⟩
      simp [IsVolatile, ← hnone]

theorem saveVolatile_triple (hA : R.Steady run E A) (hsound : R.Sound next)
    (hstarted : R.Started next)
    (hown : R.healthy → next.clientOperationId = run.uuid) :
    Triple (R.discipline run E) (fun s => A s) (saveVolatile next)
      (fun stored s => stored = next.after next.version ∧ A s ∧
        IsVolatile s.2 next.clientOperationId) (fun error s => R.Throws error ∧ A s) := by
  unfold saveVolatile
  apply Triple.bind (checked_triple next)
  intro parsed
  apply Triple.assume
  rintro rfl
  apply Triple.access
  intro m s _ hinv hAs
  have hlater : R.attempts parsed.clientOperationId →
      2 ≤ (parsed.after parsed.version).version := by
    intro hattempt
    have := hstarted hattempt
    simp only [version_after]
    omega
  have hmemory := hinv.2.setVolatile (hsound.after parsed.version) hlater
  have hremembers : R.Remembers run s.2 (s.2.setVolatile (parsed.after parsed.version)) :=
    Remembers.setVolatile fun hhealthy => .inl (hown hhealthy)
  refine ⟨⟨rfl, hremembers.trans (Remembers.of_volatile rfl)⟩, ⟨hinv.1, hmemory.sound,
    hmemory.later, hmemory.calm⟩, rfl, hA.quiet (a := s) ⟨rfl,
    hremembers.trans (Remembers.of_volatile rfl)⟩ hAs, ?_⟩
  exact (isVolatile_setVolatile _ _ _).mpr (.inl rfl)

theorem spread_sound {durable volatile : JournalEntry} (hdurable : R.Sound durable)
    (hvolatile : R.Sound volatile) (hsale : durable.saleId = volatile.saleId)
    (htoken : durable.tokenId = volatile.tokenId)
    (hno : durable.projectionTransactionHash = none) (m : Moment) :
    R.Sound (durable.spread m volatile) := by
  have hintent : (durable.spread m volatile).intent = volatile.intent := by
    simp [JournalEntry.intent, JournalEntry.spread, hsale, htoken]
  constructor
  · rw [hintent]
    exact hvolatile.intent
  · intro htraced
    obtain ⟨hreverted, hsuccess⟩ := hvolatile.vouched htraced
    constructor
    · intro hstatus
      obtain ⟨inclusion, hproves, hshows, hreceipt⟩ := hreverted hstatus
      refine ⟨inclusion, hintent ▸ hproves, ⟨?_, ?_, ?_⟩, ?_⟩
      · simp [JournalEntry.spread, hshows.1]
      · simp [JournalEntry.spread, hshows.2]
      · simp [JournalEntry.spread, hshows.3]
      · simp [JournalEntry.spread, hreceipt]
    · intro hstatus
      obtain ⟨inclusion, logIndex, buyer, amountWei, hproves, hshows, hreceipt, hevent⟩ :=
        hsuccess hstatus
      refine ⟨inclusion, logIndex, buyer, amountWei, hintent ▸ hproves, ⟨?_, ?_, ?_⟩, ?_, ?_⟩
      · simp [JournalEntry.spread, hshows.1]
      · simp [JournalEntry.spread, hshows.2]
      · simp [JournalEntry.spread, hshows.3]
      · simp [JournalEntry.spread, hreceipt]
      · intro haction
        obtain ⟨l, b, a, hl, hb, ha, hlog, hbuyer, hamount⟩ := hevent haction
        refine ⟨l, b, a, hl, hb, ha, ?_, ?_, ?_⟩
        · simp [JournalEntry.spread, hlog]
        · simp [JournalEntry.spread, hbuyer]
        · simp [JournalEntry.spread, hamount]
  · intro htraced hreflected
    cases hobservation : volatile.projectionObservation with
    | none =>
      -- a durable observation comes with the hash of its transaction
      simp only [JournalEntry.spread, hobservation, spreadKey_none] at hreflected
      obtain ⟨_, _, _, _, _, _, hhash, -⟩ := hdurable.confirmed htraced hreflected.2
      rw [hno] at hhash
      cases hhash
    | some observation =>
      simp only [JournalEntry.spread, hobservation, spreadKey_some] at hreflected
      obtain ⟨saleId, transactionHash, blockHash, logIndex, buildId, hsaleId, hhash, hblock, hlog,
        hdeployment, hbuild, hconfirms⟩ :=
        hvolatile.confirmed htraced (hobservation.trans hreflected)
      refine ⟨saleId, transactionHash, blockHash, logIndex, buildId, ?_, ?_, ?_, ?_, ?_, ?_,
        hconfirms⟩
      · simp [JournalEntry.spread, hsaleId]
      · simp [JournalEntry.spread, hhash]
      · simp [JournalEntry.spread, hblock]
      · simp [JournalEntry.spread, hlog]
      · simp [JournalEntry.spread, hdeployment]
      · simp [JournalEntry.spread, hbuild]

theorem rebase_cases {m : Moment} {durable : Option JournalEntry}
    {volatile entry : JournalEntry}
    (h : rebaseUniqueVolatileEvidence m durable volatile = some entry) :
    ∃ row, durable = some row ∧ row.saleId = volatile.saleId ∧ row.tokenId = volatile.tokenId ∧
      row.projectionTransactionHash = none ∧ entry = { row.spread m volatile with
        revision := row.revision
        verificationRequestId := volatile.verificationRequestId
        verificationAvailability := volatile.verificationAvailability
        lastErrorCategory := volatile.lastErrorCategory } := by
  cases durable with
  | none => cases h
  | some row =>
    unfold rebaseUniqueVolatileEvidence at h
    simp only at h
    split at h
    · cases h
    · rename_i hguard
      push Not at hguard
      obtain ⟨hsame, hno, -⟩ := hguard
      cases h
      simp only [sameOperationIntent, Bool.and_eq_true, decide_eq_true_eq, ne_eq,
        Bool.not_eq_false] at hsame
      obtain ⟨⟨⟨⟨⟨⟨-, hsale⟩, htoken⟩, -⟩, -⟩, -⟩, -⟩ := hsame
      simp only [hasTransactionEvidence, ne_eq, Bool.not_eq_true, Bool.or_eq_false_iff,
        Option.isSome_eq_false_iff, Option.isNone_iff_eq_none] at hno
      exact ⟨row, rfl, hsale, htoken, hno.1.2, rfl⟩

theorem retryCandidate_cases {m : Moment} {j : LocalStorageJournal}
    {current : Option JournalEntry} {entry : JournalEntry}
    (h : retryCandidate next m j current = some entry) :
    entry = next ∨ rebaseUniqueVolatileEvidence m current next = some entry := by
  unfold retryCandidate at h
  split at h
  · cases h
    exact .inl rfl
  · exact .inr h

/-- What a retry writes: the volatile entry, or its evidence over a row without any. -/
theorem retryCandidate_sound {m : Moment} {j : LocalStorageJournal}
    {current : Option JournalEntry} {entry : JournalEntry}
    (hcurrent : ∀ row, current = some row → R.Sound row) (hsound : R.Sound next)
    (h : retryCandidate next m j current = some entry) : R.Sound entry := by
  rcases retryCandidate_cases h with rfl | hrebase
  · exact hsound
  · obtain ⟨row, hrow, hsale, htoken, hno, rfl⟩ := rebase_cases hrebase
    exact (spread_sound (hcurrent row hrow) hsound hsale htoken hno m).congr rfl rfl rfl rfl

theorem persist_retry_triple (hE : R.Fits E) (hhealthy : ¬ R.healthy) (hsound : R.Sound next) :
    Triple (R.discipline run E) (fun _ => True) (locked (persist next (retryCandidate next)))
      (fun outcome _ => ∀ stored, outcome = .ok stored → R.Sound stored ∧ R.Started stored ∧
        stored.clientOperationId = next.clientOperationId ∧
        stored.deploymentId = next.deploymentId) F := by
  have hcandidate : ∀ m j current entry, retryCandidate next m j current = some entry →
      entry.clientOperationId = next.clientOperationId ∧
        entry.deploymentId = next.deploymentId := by
    intro m j current entry h
    rcases retryCandidate_cases h with rfl | hrebase
    · exact ⟨rfl, rfl⟩
    · obtain ⟨row, -, -, -, -, rfl⟩ := rebase_cases hrebase
      exact ⟨rfl, rfl⟩
  apply Triple.exchange stable_const
  · exact fun outcome => stable_const
  · intro s h
    cases h
  · intro s h
    cases h
  · intro m s hm hinv _
    obtain ⟨hquiet, hinv'⟩ := hE.reads hm hinv next.deploymentId
    cases hpersist : persist next (retryCandidate next) m s with
    | mk outcome s' =>
      obtain ⟨hmemory, ⟨error, rfl, hsame, -⟩ | ⟨j, entry, hentry, rfl, hover⟩⟩ :=
        persist_cases hcandidate hpersist
      · refine ⟨⟨.inl hsame, hmemory ▸ hquiet.2⟩, ⟨by rw [hsame]; exact hinv.1,
          hmemory ▸ hinv'.2⟩, ?_⟩
        rintro _ ⟨⟩
      · obtain ⟨hid, hdep⟩ := hcandidate _ _ _ _ hentry
        have hentrySound := retryCandidate_sound
          (fun row hrow => hinv.1.sound _ _ (row?_some hrow).1) hsound hentry
        refine ⟨⟨.inr ⟨_, hover, hentrySound.after _, fun h => absurd h hhealthy,
          fun h => absurd h hhealthy⟩, hmemory ▸ hquiet.2⟩,
          ⟨hinv.1.overwrites hover (hentrySound.after _), hmemory ▸ hinv'.2⟩, ?_⟩
        rintro _ ⟨⟩
        exact ⟨hentrySound.after _, fun _ => by simp, hid, hdep⟩

theorem retry_triple (hE : R.Fits E) (hhealthy : ¬ R.healthy) (hsound : R.Sound next) :
    Triple (R.discipline run E) (fun _ => True) (retryDurableSave next)
      (fun stored _ => R.Sound stored ∧ R.Started stored ∧
        stored.clientOperationId = next.clientOperationId ∧
        stored.deploymentId = next.deploymentId) (fun _ _ => True) := by
  unfold retryDurableSave
  apply Triple.bind ((checked_triple (P := fun _ => True) next).weaken (fun _ _ h => h)
    (fun _ _ _ h => h) fun _ _ _ _ => trivial)
  intro parsed
  apply Triple.assume
  rintro rfl
  apply Triple.bind (M := fun _ _ => True)
  · exact Triple.access fun m s _ hinv _ => ⟨Discipline.quiet_refl _ _, hinv, trivial⟩
  intro found
  cases found with
  | none =>
    apply (save_triple (A := fun _ => True) (B := fun _ => True) hE hsound steady_const
      steady_const (fun _ h => h) fun _ _ _ _ _ _ => trivial).weaken
    · exact fun s _ _ => ⟨trivial, fun h => absurd h hhealthy⟩
    · rintro _ s _ ⟨rfl, -, -, -⟩
      exact ⟨hsound.after _, fun _ => by simp, rfl, rfl⟩
    · exact fun _ _ _ _ => trivial
  | some volatile =>
    simp only
    split
    · exact Triple.throw fun _ _ _ => trivial
    · apply Triple.bind (persist_retry_triple hE hhealthy hsound)
      intro outcome
      apply Triple.bind ((settleWrite_triple (A := fun _ => True) steady_const
        (Q := fun stored _ => R.Sound stored ∧ R.Started stored ∧
          stored.clientOperationId = parsed.clientOperationId ∧
          stored.deploymentId = parsed.deploymentId)).weaken
        (fun s _ h => ⟨h, fun _ _ => ⟨trivial, fun h => absurd h hhealthy⟩⟩)
        (fun _ _ _ h => h) fun _ _ _ _ => trivial)
      intro stored
      apply Triple.bind (M := fun _ _ => R.Sound stored ∧ R.Started stored ∧
          stored.clientOperationId = parsed.clientOperationId ∧
          stored.deploymentId = parsed.deploymentId)
      · apply Triple.access
        intro m s _ hinv hstored
        refine ⟨⟨rfl, fun h => absurd h hhealthy, fun h => absurd h hhealthy⟩,
          ⟨hinv.1, ?_, ?_, fun h => absurd h hhealthy⟩, hstored⟩
        · exact fun entry hentry => hinv.2.sound entry (List.mem_of_mem_filter hentry)
        · exact fun entry hentry => hinv.2.later entry (List.mem_of_mem_filter hentry)
      · intro _
        exact Triple.pure fun _ _ h => h

end

end Rules

end MotorCove.Web
