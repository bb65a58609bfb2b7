import Mathlib.Data.List.Nodup
import Mathlib.Data.List.ReduceOption
import MotorCove.Web.Submission

/-!
# Rows

What loading finds, and what one write does to the texts: a row replaces the row
of its operation, one revision later, and the other rows are carried over.
-/

set_option autoImplicit false

namespace MotorCove.Web
open MotorCove.Asynchrony

def rows (storage : LocalStorage) (deploymentId : String) : List JournalEntry :=
  ((storage deploymentId).map JournalText.entries).getD []

def row? (storage : LocalStorage) (deploymentId clientOperationId : String) :
    Option JournalEntry :=
  (rows storage deploymentId).find? fun row => row.clientOperationId = clientOperationId

def Readable (storage : LocalStorage) (deploymentId : String) : Prop :=
  ∀ text ∈ storage deploymentId, text.issues deploymentId = []

/-- A tab's memory but for what it has read. -/
def SameMemory (j j' : LocalStorageJournal) : Prop :=
  j'.writeIssues = j.writeIssues ∧ j'.volatileEntries = j.volatileEntries ∧
    j'.volatileBaseRevisions = j.volatileBaseRevisions

section
variable (deploymentId : String) (m : Moment) (s : State)

@[simp] theorem loadDurable_storage : (loadDurable deploymentId m s).2.1 = s.1 := by
  unfold loadDurable
  split
  · rfl
  · split <;> rfl

theorem loadDurable_memory : SameMemory s.2 (loadDurable deploymentId m s).2.2 := by
  unfold loadDurable
  split
  · exact ⟨rfl, rfl, rfl⟩
  · split <;> exact ⟨rfl, rfl, rfl⟩

theorem mem_rows_of_loadDurable {row : JournalEntry}
    (h : row ∈ (loadDurable deploymentId m s).1) : row ∈ rows s.1 deploymentId := by
  unfold loadDurable at h
  split at h
  · exact absurd h List.not_mem_nil
  · split at h
    · exact absurd h List.not_mem_nil
    · rename_i text htext
      simpa [rows, htext] using h

theorem loadDurable_clean (h : (loadDurable deploymentId m s).2.2.issues deploymentId = []) :
    (loadDurable deploymentId m s).1 = rows s.1 deploymentId ∧ Readable s.1 deploymentId := by
  unfold loadDurable at h ⊢
  split at h
  · simp [LocalStorageJournal.setIssues] at h
  · split at h
    · rename_i hnone
      simp [rows, Readable, hnone]
    · rename_i text htext
      simp only [LocalStorageJournal.setIssues, Function.update_self] at h
      simp [rows, Readable, htext, h]

theorem loadDurable_readable (hm : m.getItem = none) (h : Readable s.1 deploymentId) :
    loadDurable deploymentId m s =
      (rows s.1 deploymentId, s.1, s.2.setIssues deploymentId []) := by
  unfold loadDurable
  rw [hm]
  cases htext : s.1 deploymentId with
  | none => simp [rows, htext]
  | some text => simp [rows, htext, h text htext]

theorem mem_load {row : JournalEntry} (h : row ∈ (load deploymentId m s).1) :
    row ∈ rows s.1 deploymentId ∨
      row ∈ s.2.volatileEntries ∧ row.deploymentId = deploymentId := by
  simp only [load, withVolatile, List.mem_append, List.mem_filter] at h
  rcases h with h | h
  · exact .inl (mem_rows_of_loadDurable deploymentId m s h.1)
  · rw [(loadDurable_memory deploymentId m s).2.1] at h
    exact .inr ⟨h.1, by simpa using h.2⟩

end

theorem row?_some {storage : LocalStorage} {deploymentId id : String} {row : JournalEntry}
    (h : row? storage deploymentId id = some row) :
    row ∈ rows storage deploymentId ∧ row.clientOperationId = id := by
  constructor
  · exact List.mem_of_find?_eq_some h
  · simpa using List.find?_some h

/-- One write: the row stands one revision above the row that it replaces. -/
structure Overwrites (before after : LocalStorage) (row : JournalEntry) : Prop where
  readable : Readable before row.deploymentId
  revision : row.revision =
    some (currentRevision (row? before row.deploymentId row.clientOperationId) + 1)
  text : after = Function.update before row.deploymentId (some (.array
    (((rows before row.deploymentId).filter fun other =>
      other.clientOperationId ≠ row.clientOperationId) ++ [row] |>.map .ok)))

theorem entries_map_ok (l : List JournalEntry) :
    (JournalText.array (l.map .ok)).entries = l := by
  induction l with
  | nil => rfl
  | cons row rest ih =>
    have htail : (rest.map (Except.ok (ε := List String))).filterMap Except.toOption = rest := ih
    simp [JournalText.entries, Except.toOption, htail]

theorem issues_map_ok (deploymentId : String) (l : List JournalEntry) :
    (JournalText.array (l.map .ok)).issues deploymentId = [] := by
  simp only [JournalText.issues]
  rw [List.reduceOption_eq_nil_iff]
  refine ⟨l.length, ?_⟩
  rw [List.eq_replicate_iff]
  constructor
  · simp
  · intro issue hissue
    obtain ⟨i, hi, rfl⟩ := List.mem_mapIdx.mp hissue
    simp [entryIssue]

section
variable {before after : LocalStorage} {row : JournalEntry}

theorem Overwrites.rows_self (h : Overwrites before after row) :
    rows after row.deploymentId = (rows before row.deploymentId).filter
      (fun other => other.clientOperationId ≠ row.clientOperationId) ++ [row] := by
  rw [h.text]
  simp only [rows, Function.update_self, Option.map_some, Option.getD_some]
  exact entries_map_ok _

theorem Overwrites.rows_other (h : Overwrites before after row) {deploymentId : String}
    (hne : deploymentId ≠ row.deploymentId) :
    rows after deploymentId = rows before deploymentId := by
  rw [h.text]
  simp [rows, hne]

theorem Overwrites.mem (h : Overwrites before after row) {deploymentId : String}
    {other : JournalEntry} (hother : other ∈ rows after deploymentId) :
    (other = row ∧ deploymentId = row.deploymentId) ∨ (other ∈ rows before deploymentId ∧
      (deploymentId = row.deploymentId → other.clientOperationId ≠ row.clientOperationId)) := by
  by_cases hdep : deploymentId = row.deploymentId
  · subst hdep
    rw [h.rows_self, List.mem_append, List.mem_filter, List.mem_singleton] at hother
    rcases hother with ⟨hmem, hne⟩ | rfl
    · exact .inr ⟨hmem, fun _ => by simpa using hne⟩
    · exact .inl ⟨rfl, rfl⟩
  · rw [h.rows_other hdep] at hother
    exact .inr ⟨hother, fun heq => absurd heq hdep⟩

theorem Overwrites.row_mem (h : Overwrites before after row) :
    row ∈ rows after row.deploymentId := by
  rw [h.rows_self]
  simp

theorem Overwrites.carried (h : Overwrites before after row) {deploymentId : String}
    {other : JournalEntry} (hother : other ∈ rows before deploymentId)
    (hne : deploymentId = row.deploymentId → other.clientOperationId ≠ row.clientOperationId) :
    other ∈ rows after deploymentId := by
  by_cases hdep : deploymentId = row.deploymentId
  · subst hdep
    rw [h.rows_self]
    exact List.mem_append_left _ (List.mem_filter.mpr ⟨hother, by simpa using hne rfl⟩)
  · rwa [h.rows_other hdep]

theorem Overwrites.readable_after (h : Overwrites before after row) {deploymentId : String}
    (hreadable : Readable before deploymentId) : Readable after deploymentId := by
  intro text htext
  by_cases hdep : deploymentId = row.deploymentId
  · subst hdep
    rw [h.text, Function.update_self, Option.mem_some_iff] at htext
    rw [← htext]
    exact issues_map_ok _ _
  · rw [h.text, Function.update_of_ne hdep] at htext
    exact hreadable text htext

end

/-- What runs under the lock throws and leaves the texts as they are, or writes
what the candidate became. -/
theorem persist_cases {parsed : JournalEntry}
    {candidate : Moment → LocalStorageJournal → Option JournalEntry → Option JournalEntry}
    (hcandidate : ∀ m j current entry, candidate m j current = some entry →
      entry.clientOperationId = parsed.clientOperationId ∧
        entry.deploymentId = parsed.deploymentId) {m : Moment} {s s' : State}
    {outcome : Except JsError JournalEntry}
    (h : persist parsed candidate m s = (outcome, s')) :
    s'.2 = (loadDurable parsed.deploymentId m s).2.2 ∧
    ((∃ error, outcome = .error error ∧ s'.1 = s.1 ∧
        (m.getItem = none → m.setItem = none → Readable s.1 parsed.deploymentId →
          error = revisionConflict)) ∨
      ∃ j entry, candidate m j (row? s.1 parsed.deploymentId parsed.clientOperationId) =
          some entry ∧
        outcome = .ok (entry.after (currentRevision
          (row? s.1 parsed.deploymentId parsed.clientOperationId))) ∧
        Overwrites s.1 s'.1 (entry.after (currentRevision
          (row? s.1 parsed.deploymentId parsed.clientOperationId)))) := by
  have hstorage := loadDurable_storage parsed.deploymentId m s
  have hclean := loadDurable_clean parsed.deploymentId m s
  have hissues : m.getItem = none → Readable s.1 parsed.deploymentId →
      (loadDurable parsed.deploymentId m s).2.2.issues parsed.deploymentId = [] := by
    intro hget hread
    rw [loadDurable_readable _ _ _ hget hread]
    simp [LocalStorageJournal.setIssues]
  unfold persist at h
  simp only at h
  split at h
  · rename_i hunavailable
    obtain ⟨rfl, rfl⟩ := Prod.mk.inj h
    refine ⟨rfl, .inl ⟨_, rfl, hstorage, fun hget _ hread => ?_⟩⟩
    simp [hissues hget hread] at hunavailable
  · split at h
    · rename_i hne
      obtain ⟨rfl, rfl⟩ := Prod.mk.inj h
      exact ⟨rfl, .inl ⟨_, rfl, hstorage, fun hget _ hread => absurd (hissues hget hread) hne⟩⟩
    · rename_i hnil
      obtain ⟨hrows, hread⟩ := hclean (not_not.mp hnil)
      rw [hrows] at h
      split at h
      · obtain ⟨rfl, rfl⟩ := Prod.mk.inj h
        exact ⟨rfl, .inl ⟨_, rfl, hstorage, fun _ _ _ => rfl⟩⟩
      · rename_i entry hentry
        obtain ⟨hid, hdep⟩ := hcandidate _ _ _ _ hentry
        split at h
        · rename_i message hset
          obtain ⟨rfl, rfl⟩ := Prod.mk.inj h
          refine ⟨rfl, .inl ⟨_, rfl, hstorage, fun _ hnone => ?_⟩⟩
          rw [hnone] at hset
          cases hset
        · obtain ⟨rfl, rfl⟩ := Prod.mk.inj h
          refine ⟨rfl, .inr ⟨_, entry, hentry, rfl, ?_⟩⟩
          constructor
          · exact hdep ▸ hread
          · simp [JournalEntry.after, row?, hid, hdep]
          · simp [JournalEntry.after, row?, hid, hdep]

/-- No operation has two rows, and each row stands under its own deployment. -/
structure Filed (storage : LocalStorage) : Prop where
  unique : ∀ deploymentId, ((rows storage deploymentId).map JournalEntry.clientOperationId).Nodup
  own : ∀ deploymentId, ∀ row ∈ rows storage deploymentId, row.deploymentId = deploymentId

theorem Filed.row?_iff {storage : LocalStorage} (h : Filed storage) {deploymentId id : String}
    {row : JournalEntry} : row? storage deploymentId id = some row ↔
      row ∈ rows storage deploymentId ∧ row.clientOperationId = id := by
  constructor
  · exact row?_some
  · rintro ⟨hmem, rfl⟩
    have hunique := h.unique deploymentId
    unfold row?
    generalize rows storage deploymentId = l at hmem hunique
    induction l with
    | nil => exact absurd hmem List.not_mem_nil
    | cons first rest ih =>
      rw [List.map_cons, List.nodup_cons] at hunique
      rcases List.mem_cons.mp hmem with rfl | hrest
      · simp
      · have hne : first.clientOperationId ≠ row.clientOperationId := by
          intro heq
          exact hunique.1 (heq ▸ List.mem_map_of_mem hrest)
        rw [List.find?_cons_of_neg (by simpa using hne)]
        exact ih hrest hunique.2

theorem Overwrites.filed {before after : LocalStorage} {row : JournalEntry}
    (h : Overwrites before after row) (hbefore : Filed before) : Filed after := by
  constructor
  · intro deploymentId
    by_cases hdep : deploymentId = row.deploymentId
    · subst hdep
      rw [h.rows_self, List.map_append, List.nodup_append]
      refine ⟨((hbefore.unique _).sublist (List.filter_sublist.map _)), by simp, ?_⟩
      intro id hid other hother heq
      obtain ⟨carried, hcarried, rfl⟩ := List.mem_map.mp hid
      have hne := (List.mem_filter.mp hcarried).2
      simp only [List.map_cons, List.map_nil, List.mem_singleton] at hother
      simp [heq, hother] at hne
    · rw [h.rows_other hdep]
      exact hbefore.unique deploymentId
  · intro deploymentId other hother
    rcases h.mem hother with ⟨rfl, rfl⟩ | ⟨hmem, -⟩
    · rfl
    · exact hbefore.own deploymentId other hmem

/-- The same row, or one that was written over it, as `keeps` says. -/
def Later (keeps : JournalEntry → JournalEntry → Prop) (older newer : JournalEntry) : Prop :=
  newer = older ∨ (older.version < newer.version ∧ keeps older newer)

theorem Later.trans {keeps : JournalEntry → JournalEntry → Prop}
    (hkeeps : ∀ a b c, keeps a b → keeps b c → keeps a c) {a b c : JournalEntry}
    (hab : Later keeps a b) (hbc : Later keeps b c) : Later keeps a c := by
  rcases hab with rfl | ⟨hlt, hab⟩
  · exact hbc
  · rcases hbc with rfl | ⟨hlt', hbc⟩
    · exact .inr ⟨hlt, hab⟩
    · exact .inr ⟨lt_trans hlt hlt', hkeeps _ _ _ hab hbc⟩

/-- A row is later in the one storage than in the other. -/
def Grown (keeps : JournalEntry → JournalEntry → Prop) (before after : LocalStorage) : Prop :=
  ∀ deploymentId, ∀ row ∈ rows before deploymentId, ∃ newer ∈ rows after deploymentId,
    newer.clientOperationId = row.clientOperationId ∧ Later keeps row newer

theorem Grown.refl {keeps : JournalEntry → JournalEntry → Prop} (storage : LocalStorage) :
    Grown keeps storage storage :=
  fun _ row hrow => ⟨row, hrow, rfl, .inl rfl⟩

theorem Grown.trans {keeps : JournalEntry → JournalEntry → Prop}
    (hkeeps : ∀ a b c, keeps a b → keeps b c → keeps a c) {a b c : LocalStorage}
    (hab : Grown keeps a b) (hbc : Grown keeps b c) : Grown keeps a c := by
  intro deploymentId row hrow
  obtain ⟨newer, hnewer, hid, hlater⟩ := hab deploymentId row hrow
  obtain ⟨newest, hnewest, hid', hlater'⟩ := hbc deploymentId newer hnewer
  exact ⟨newest, hnewest, hid'.trans hid, hlater.trans hkeeps hlater'⟩

theorem Overwrites.grown {keeps : JournalEntry → JournalEntry → Prop}
    {before after : LocalStorage} {row : JournalEntry} (h : Overwrites before after row)
    (hfiled : Filed before) (hkeeps : ∀ older, row? before row.deploymentId
      row.clientOperationId = some older → keeps older row) : Grown keeps before after := by
  intro deploymentId older holder
  by_cases hsame : deploymentId = row.deploymentId ∧
      older.clientOperationId = row.clientOperationId
  · obtain ⟨rfl, hid⟩ := hsame
    have hrow := hfiled.row?_iff.mpr ⟨holder, hid⟩
    refine ⟨row, h.row_mem, hid.symm, .inr ⟨?_, hkeeps older hrow⟩⟩
    have hrevision := h.revision
    rw [hrow] at hrevision
    simp [JournalEntry.version, hrevision, currentRevision]
  · exact ⟨older, h.carried holder fun hdep hid => hsame ⟨hdep, hid⟩, rfl, .inl rfl⟩

end MotorCove.Web
