import MotorCove.Maintenance.Reset

/-!
# Runs of reset and recovery

Over any sequence of resets and recoveries, each cut anywhere, generated files
are deleted only under a marker of a reset whose chain was reset, and such a
marker stays until all of them are gone.
-/

set_option autoImplicit false

namespace MotorCove.Maintenance.Reset
open MotorCove.Crashes MotorCove.Effects MotorCove.Traces

/-- The durable marker, and the operations known to have reset the chain. -/
structure Memory where
  marker : Option MaintenanceMarker
  chainsReset : List String

def remember : Memory → Effect → Memory
  | memory, .wrote marker => { memory with marker := some marker }
  | memory, .cleared => { memory with marker := none }
  | memory, .chainReset operationId =>
    { memory with chainsReset := operationId :: memory.chainsReset }
  | memory, .removed _ => memory

def Clears (marker : MaintenanceMarker) : Prop :=
  marker.operationType = .reset ∧ chainIsReset marker = true

instance (marker : MaintenanceMarker) : Decidable (Clears marker) := by
  unfold Clears
  exact inferInstance

/-- Only generated entries are deleted, and only under a marker that says the
chain was reset; it says so only after the chain was. -/
def Permits (memory : Memory) : Effect → Prop
  | .wrote marker => marker.operationType = .reset ∧
    (chainIsReset marker = true → marker.operationId ∈ memory.chainsReset)
  | .removed entry => entry.isGenerated = true ∧
    ∃ marker, memory.marker = some marker ∧ Clears marker
  | _ => True

def resetMonitor : Monitor Memory Effect := ⟨remember, Permits⟩

def Disk.memory (start : Disk) : Memory :=
  ⟨start.marker, start.marker.toList.filterMap fun marker =>
    if Clears marker then some marker.operationId else none⟩

def Disk.after (start disk : Disk) : Memory := disk.trace.foldl remember start.memory

section
variable (paths : EnvironmentPaths) (contractVersion : String)

structure Ours (marker : MaintenanceMarker) : Prop where
  environmentId : marker.environmentId = paths.environmentId
  targetDatabase : marker.targetDatabase = paths.databasePath
  expectedSchemaContract : marker.expectedSchemaContract = contractVersion

structure Sound (start disk : Disk) : Prop where
  accepted : resetMonitor.Accepts start.memory disk.trace
  marker : (start.after disk).marker = disk.marker
  ours : ∀ m, disk.marker = some m → m.operationType = .reset → Ours paths contractVersion m
  backed : ∀ m, disk.marker = some m → Clears m →
    m.operationId ∈ (start.after disk).chainsReset
  /-- Once something was deleted, no marker but of a reset is there, and none
  only when nothing generated is left. -/
  swept : (∃ e, Effect.removed e ∈ disk.trace) →
    (∀ m, disk.marker = some m → m.operationType = .reset) ∧
      (disk.marker = none → ∀ e ∈ disk.entries, e.isGenerated = false)
  kept : ∀ e, e.isGenerated = false → (e ∈ disk.entries ↔ e ∈ start.entries)

end

section
variable {paths : EnvironmentPaths} {contractVersion : String} {start disk : Disk}
  {marker : MaintenanceMarker}

theorem Entry.isGenerated_of_isDatabase {entry : Entry} (h : entry.isDatabase = true) :
    entry.isGenerated = true := by
  have hmem : entry ∈ [Entry.databasePath, .databaseWal, .databaseShm] :=
    List.contains_iff_mem.mp h
  simp only [List.mem_cons, List.not_mem_nil, or_false] at hmem
  rcases hmem with rfl | rfl | rfl
  · rfl
  · rfl
  · rfl

theorem accepts_snoc {effect : Effect} (h : resetMonitor.Accepts start.memory disk.trace)
    (heffect : Permits (start.after disk) effect) :
    resetMonitor.Accepts start.memory (disk.trace ++ [effect]) :=
  (accepts_append _ _ _ _).mpr ⟨h, heffect, trivial⟩

theorem Sound.wrote {m : MaintenanceMarker} (h : Sound paths contractVersion start disk)
    (hreset : m.operationType = .reset) (hours : Ours paths contractVersion m)
    (hbacked : chainIsReset m = true → m.operationId ∈ (start.after disk).chainsReset) :
    Sound paths contractVersion start
      { disk with marker := some m, trace := disk.trace ++ [.wrote m] } where
  accepted := accepts_snoc h.accepted ⟨hreset, hbacked⟩
  marker := by simp [Disk.after, remember]
  ours := by
    rintro _ ⟨⟩ _
    exact hours
  backed := by
    rintro _ ⟨⟩ hclears
    simpa [Disk.after, remember] using hbacked hclears.2
  swept := by
    intro _
    refine ⟨?_, fun hnone => ?_⟩
    · rintro _ ⟨⟩
      exact hreset
    · cases hnone
  kept := h.kept

theorem Sound.chainReset (h : Sound paths contractVersion start disk) (operationId : String) :
    Sound paths contractVersion start
      { disk with trace := disk.trace ++ [.chainReset operationId] } where
  accepted := accepts_snoc h.accepted trivial
  marker := by simpa [Disk.after, remember] using h.marker
  ours := h.ours
  backed := by
    intro m hm hclears
    have hbacked := h.backed m hm hclears
    simp only [Disk.after, List.foldl_append, List.foldl_cons, List.foldl_nil, remember] at hbacked ⊢
    exact List.mem_cons_of_mem _ hbacked
  swept := by
    rintro ⟨e, he⟩
    exact h.swept ⟨e, by simpa using he⟩
  kept := h.kept

theorem Sound.removed (h : Sound paths contractVersion start disk)
    (hmarker : disk.marker = some marker) (hclears : Clears marker) {entry : Entry}
    (hgenerated : entry.isGenerated = true) :
    Sound paths contractVersion start { disk with
      entries := disk.entries.filter (· ≠ entry)
      trace := disk.trace ++ [.removed entry] } where
  accepted := accepts_snoc h.accepted
    ⟨hgenerated, marker, h.marker.trans hmarker, hclears⟩
  marker := by simpa [Disk.after, remember] using h.marker
  ours := h.ours
  backed := by simpa [Disk.after, remember] using h.backed
  swept := by
    intro _
    refine ⟨fun m hm => ?_, fun hnone => ?_⟩
    · obtain rfl := Option.some.inj (hmarker.symm.trans hm)
      exact hclears.1
    · rw [hmarker] at hnone
      cases hnone
  kept := by
    intro e he
    rw [← h.kept e he, List.mem_filter]
    refine and_iff_left (decide_eq_true ?_)
    rintro rfl
    rw [hgenerated] at he
    cases he

/-- A marker is cleared when nothing generated is left, or before anything was deleted. -/
theorem Sound.cleared (h : Sound paths contractVersion start disk)
    (hswept : (∃ e, Effect.removed e ∈ disk.trace) →
      ∀ e ∈ disk.entries, e.isGenerated = false) :
    Sound paths contractVersion start
      { disk with marker := none, trace := disk.trace ++ [.cleared] } where
  accepted := accepts_snoc h.accepted trivial
  marker := by simp [Disk.after, remember]
  ours := by
    intro m hm
    cases hm
  backed := by
    intro m hm
    cases hm
  swept := by
    rintro ⟨e, he⟩
    refine ⟨fun m hm => ?_, fun _ => hswept ⟨e, by simpa using he⟩⟩
    cases hm
  kept := h.kept

theorem Sound.others (h : Sound paths contractVersion start disk)
    (hmarker : disk.marker = some marker) (hother : marker.operationType ≠ .reset)
    (left : List Entry) :
    Sound paths contractVersion start { disk with
      entries := (disk.entries.filter fun entry => !entry.isDatabase) ++
        left.filter Entry.isDatabase } where
  accepted := h.accepted
  marker := h.marker
  ours := h.ours
  backed := h.backed
  swept := fun hremoved => absurd ((h.swept hremoved).1 marker hmarker) hother
  kept := by
    intro e he
    rw [← h.kept e he, List.mem_append, List.mem_filter, List.mem_filter]
    have hdatabase : e.isDatabase = false := by
      by_contra hne
      rw [Entry.isGenerated_of_isDatabase (Bool.eq_true_of_not_eq_false hne)] at he
      cases he
    simp [hdatabase]

variable {world : World}

/-- The failure of a step can be recorded in this marker. -/
def Recordable (paths : EnvironmentPaths) (contractVersion : String) (start : Disk)
    (marker : MaintenanceMarker) (disk : Disk) : Prop :=
  Sound paths contractVersion start disk ∧
    (chainIsReset marker = true → marker.operationId ∈ (start.after disk).chainsReset)

theorem Recordable.wrote {m : MaintenanceMarker}
    (h : Recordable paths contractVersion start marker disk) (hreset : m.operationType = .reset)
    (hours : Ours paths contractVersion m)
    (hbacked : chainIsReset m = true → m.operationId ∈ (start.after disk).chainsReset) :
    Recordable paths contractVersion start marker
      { disk with marker := some m, trace := disk.trace ++ [.wrote m] } := by
  refine ⟨h.1.wrote hreset hours hbacked, fun hchain => ?_⟩
  simpa [Disk.after, remember] using h.2 hchain

theorem holds_owning {α : Type} {step : Maintain α} {P : α → Disk → Prop}
    (hreset : marker.operationType = .reset) (hours : Ours paths contractVersion marker)
    (h : Holds step disk P fun _ => Recordable paths contractVersion start marker) :
    Holds (owning world marker step) disk P fun _ => Sound paths contractVersion start := by
  refine holds_attempt (h.mono (fun _ _ => id) fun failure d hd =>
    caught_of hd.1 (fun message => ?_) failure)
  have hfailed : Sound paths contractVersion start { d with
      marker := some { marker with stage := .failed, lastError := some message }
      trace := d.trace ++ [.wrote { marker with stage := .failed, lastError := some message }] } :=
    hd.1.wrote hreset ⟨hours.1, hours.2, hours.3⟩ hd.2
  exact holds_bind (holds_act_of (fun _ => holds_refuse hfailed) (fun _ _ => hfailed)
    fun _ => hd.1)

/-- What a deletion keeps, and what its failures leave. -/
structure Sweeps (world : World) (J : Disk → Prop) (E : Failure String → Disk → Prop) :
    Prop where
  removed : ∀ disk entry, J disk → entry.isGenerated = true → J { disk with
    entries := disk.entries.filter (· ≠ entry), trace := disk.trace ++ [.removed entry] }
  fails : ∀ disk turn failure, J disk → world.operation turn = .doneThen failure ∨
    world.operation turn = .undone failure → E failure disk
  asks : ∀ disk turn failure, J disk → world.verifyResetDestructivePaths turn = .error failure ∨
    world.readReports turn = .error failure → E failure disk

section
variable {J : Disk → Prop} {E : Failure String → Disk → Prop} (hsweeps : Sweeps world J E)
include hsweeps

theorem rmSync_holds (h : J disk) {entry : Entry} (hgenerated : entry.isGenerated = true) :
    Holds (rmSync world entry) disk (fun _ d => J d ∧
      ∀ e, e ∈ d.entries ↔ e ∈ disk.entries ∧ e ≠ entry) E := by
  have hremoved := hsweeps.removed disk entry h hgenerated
  exact holds_act (fun _ _ => ⟨hremoved, by simp⟩)
    (fun turn failure hfails => hsweeps.fails _ turn failure hremoved (.inl hfails))
    fun turn failure hfails => hsweeps.fails _ turn failure h (.inr hfails)

theorem removeTargets_holds {list : List Entry} (h : J disk)
    (hlist : ∀ entry ∈ list, entry.isGenerated = true) :
    Holds (removeTargets world list) disk (fun _ d => J d ∧
      ∀ e ∈ d.entries, e ∈ disk.entries ∧ e ∉ list) E := by
  induction list generalizing disk with
  | nil => exact holds_pure ⟨h, fun e he => ⟨he, List.not_mem_nil⟩⟩
  | cons target rest ih =>
    have hrest : ∀ entry ∈ rest, entry.isGenerated = true :=
      fun entry hentry => hlist entry (List.mem_cons_of_mem _ hentry)
    refine holds_bind (holds_look ?_)
    split
    · refine holds_bind ((rmSync_holds hsweeps h (hlist target List.mem_cons_self)).mono
        (fun _ d₁ h₁ => ?_) fun _ _ => id)
      obtain ⟨h₁, hentries⟩ := h₁
      refine holds_bind ((ih h₁ hrest).mono (fun _ d₂ h₂ => ?_) fun _ _ => id)
      refine holds_pure ⟨h₂.1, fun e he => ?_⟩
      obtain ⟨hold, hnot⟩ := h₂.2 e he
      obtain ⟨hold, hne⟩ := (hentries e).mp hold
      exact ⟨hold, fun hmem => (List.mem_cons.mp hmem).elim hne hnot⟩
    · rename_i habsent
      refine (ih h hrest).mono (fun _ d₂ h₂ => ⟨h₂.1, fun e he => ?_⟩) fun _ _ => id
      obtain ⟨hold, hnot⟩ := h₂.2 e he
      refine ⟨hold, fun hmem => (List.mem_cons.mp hmem).elim ?_ hnot⟩
      rintro rfl
      exact habsent (List.contains_iff_mem.mpr hold)

theorem removeReports_holds {list : List String} (h : J disk) :
    Holds (removeReports world list) disk (fun _ d => J d ∧
      ∀ e ∈ d.entries, e ∈ disk.entries ∧ ∀ entry ∈ list, e ≠ .report entry) E := by
  induction list generalizing disk with
  | nil => exact holds_pure ⟨h, fun e he => ⟨he, by simp⟩⟩
  | cons entry rest ih =>
    refine holds_bind ((rmSync_holds hsweeps h rfl).mono (fun _ d₁ h₁ => ?_) fun _ _ => id)
    obtain ⟨h₁, hentries⟩ := h₁
    refine holds_bind ((ih h₁).mono (fun _ d₂ h₂ => ?_) fun _ _ => id)
    refine holds_pure ⟨h₂.1, fun e he => ?_⟩
    obtain ⟨hold, hnot⟩ := h₂.2 e he
    obtain ⟨hold, hne⟩ := (hentries e).mp hold
    exact ⟨hold, List.forall_mem_cons.mpr ⟨hne, hnot⟩⟩

theorem clearResetGeneratedState_holds (h : J disk) :
    Holds (clearResetGeneratedState world) disk
      (fun _ d => J d ∧ ∀ e ∈ d.entries, e.isGenerated = false) E := by
  have htargets : ∀ entry ∈ targets, entry.isGenerated = true := by
    intro entry hentry
    rw [Entry.isGenerated, List.contains_iff_mem.mpr hentry, Bool.true_or]
  refine holds_bind (holds_ask (fun _ _ _ => ?_)
    fun turn failure hfails => hsweeps.asks _ turn failure h (.inl hfails))
  refine holds_bind ((removeTargets_holds hsweeps h htargets).mono (fun removed d₁ h₁ => ?_)
    fun _ _ => id)
  obtain ⟨h₁, htaken⟩ := h₁
  refine holds_bind (holds_ask (fun _ _ _ => ?_)
    fun turn failure hfails => hsweeps.asks _ turn failure h₁ (.inr hfails))
  refine holds_bind (holds_look ?_)
  refine holds_bind ((removeReports_holds hsweeps h₁).mono (fun reports d₂ h₂ => ?_)
    fun _ _ => id)
  refine holds_pure ⟨h₂.1, fun e he => ?_⟩
  obtain ⟨hold, hnot⟩ := h₂.2 e he
  have hreport : e.report? = none := by
    cases hreport : e.report? with
    | none => rfl
    | some entry =>
      have hsame : e = .report entry := by
        cases e <;> simp_all [Entry.report?]
      exact absurd hsame (hnot entry (List.mem_filterMap.mpr ⟨e, hold, hreport⟩))
  have hcontains : targets.contains e = false :=
    Bool.eq_false_iff.mpr fun hcontains =>
      (htaken e hold).2 (List.contains_iff_mem.mp hcontains)
  rw [Entry.isGenerated, hcontains, hreport]
  rfl

end
/-- The state of a deletion under way, for the operation that records its failure. -/
def Sweeping (paths : EnvironmentPaths) (contractVersion : String) (start : Disk)
    (marker : MaintenanceMarker) (disk : Disk) : Prop :=
  Recordable paths contractVersion start marker disk ∧
    ∃ m, disk.marker = some m ∧ Clears m

theorem sweeping_sweeps : Sweeps world (Sweeping paths contractVersion start marker)
    fun _ => Recordable paths contractVersion start marker where
  removed := by
    rintro d entry ⟨⟨hsound, hbacked⟩, m, hm, hclears⟩ hgenerated
    refine ⟨⟨hsound.removed hm hclears hgenerated, fun hchain => ?_⟩, m, hm, hclears⟩
    simpa [Disk.after, remember] using hbacked hchain
  fails := fun _ _ _ h _ => h.1
  asks := fun _ _ _ h _ => h.1

theorem clearMaintenanceMarker_holds
    (h : Recordable paths contractVersion start marker disk)
    (hgone : ∀ e ∈ disk.entries, e.isGenerated = false) :
    Holds (clearMaintenanceMarker world) disk (fun _ => Sound paths contractVersion start)
      fun _ => Recordable paths contractVersion start marker := by
  refine holds_bind (holds_look ?_)
  split
  · have hcleared := h.1.cleared fun _ => hgone
    have hready : Recordable paths contractVersion start marker _ :=
      ⟨hcleared, fun hchain => by simpa [Disk.after, remember] using h.2 hchain⟩
    exact holds_act_of (fun _ => hcleared) (fun _ _ => hready) fun _ => h
  · exact holds_pure h.1

theorem acquireLocksUnless_holds {Q : Disk → Prop} (locksAlreadyHeld : Bool) (h : Q disk) :
    Holds (acquireLocksUnless world locksAlreadyHeld) disk (fun _ d => d = disk) fun _ => Q := by
  unfold acquireLocksUnless
  split
  · exact holds_pure rfl
  · exact holds_ask (fun _ _ _ => rfl) fun _ _ _ => h

theorem acquireBootstrapOwnership_holds {Q : Disk → Prop} (h : Q disk) :
    Holds (acquireBootstrapOwnership world) disk (fun _ d => d = disk) fun _ => Q := by
  refine holds_bind (holds_look ?_)
  split
  · exact holds_ask (fun _ _ _ => rfl) fun _ _ _ => h
  · exact holds_pure rfl

theorem resetEnvironment_holds (h : Sound paths contractVersion start disk) (operationId : String)
    (confirmed locksAlreadyHeld : Bool) :
    Holds (resetEnvironment world paths contractVersion operationId confirmed locksAlreadyHeld)
      disk (fun _ => Sound paths contractVersion start)
      fun _ => Sound paths contractVersion start := by
  have hours : Ours paths contractVersion (resetMarker paths contractVersion operationId) :=
    ⟨rfl, rfl, rfl⟩
  refine holds_bind (holds_refuseIf (fun _ => ?_) fun _ => h)
  refine holds_bind (holds_ask (fun _ _ _ => ?_) fun _ _ _ => h)
  refine holds_bind ((acquireLocksUnless_holds locksAlreadyHeld h).mono ?_ fun _ _ => id)
  rintro _ _ rfl
  refine holds_bind (holds_ask (fun _ _ _ => ?_) fun _ _ _ => h)
  have hprepared := h.wrote (m := resetMarker paths contractVersion operationId) rfl hours
    (fun hchain => by cases hchain)
  refine holds_bind (holds_act_of (fun _ => ?_) (fun _ _ => hprepared) fun _ => h)
  -- the chain: its failure is recorded in the prepared marker
  refine holds_bind ((holds_owning (P := fun _ d => Sound paths contractVersion start d ∧
    operationId ∈ (start.after d).chainsReset) rfl hours ?_).mono (fun _ d₁ h₁ => ?_) fun _ _ => id)
  · have hreset := hprepared.chainReset operationId
    refine holds_act_of (fun _ => ⟨hreset, ?_⟩) (fun _ _ => ⟨hreset, fun hchain => by cases hchain⟩)
      fun _ => ⟨hprepared, fun hchain => by cases hchain⟩
    simp [Disk.after, remember]
  obtain ⟨h₁, hdone⟩ := h₁
  -- the deletion
  have hrecordable : ∀ {d : Disk} {m : MaintenanceMarker}, Sound paths contractVersion start d →
      operationId ∈ (start.after d).chainsReset → m.operationId = operationId →
      Recordable paths contractVersion start m d :=
    fun hsound hbacked hid => ⟨hsound, fun _ => hid ▸ hbacked⟩
  refine holds_bind ((holds_owning (P := fun _ d => Sound paths contractVersion start d ∧
    operationId ∈ (start.after d).chainsReset ∧ ∀ e ∈ d.entries, e.isGenerated = false)
    rfl ⟨rfl, rfl, rfl⟩ ?_).mono (fun removed d₂ h₂ => ?_) fun _ _ => id)
  · have hready := hrecordable (m := { resetMarker paths contractVersion operationId with
      stage := .chainReset, resetPhase := some .chainReset }) h₁ hdone rfl
    have hwrote := hready.wrote (m := { resetMarker paths contractVersion operationId with
      stage := .chainReset, resetPhase := some .chainReset }) rfl ⟨rfl, rfl, rfl⟩ fun _ => hdone
    refine holds_bind (holds_act_of (fun _ => ?_) (fun _ _ => hwrote) fun _ => hready)
    exact (clearResetGeneratedState_holds sweeping_sweeps ⟨hwrote, _, rfl, rfl, rfl⟩).mono
      (fun _ _ h => ⟨h.1.1.1, h.1.1.2 rfl, h.2⟩) fun _ _ => id
  obtain ⟨h₂, hdone₂, hgone⟩ := h₂
  -- the end: a marker that could not be cleared is written again
  have hready := hrecordable (m := { resetMarker paths contractVersion operationId with
    stage := .localStateCleared, resetPhase := some .localStateCleared }) h₂ hdone₂ rfl
  have hwrote := hready.wrote (m := { resetMarker paths contractVersion operationId with
    stage := .localStateCleared, resetPhase := some .localStateCleared }) rfl ⟨rfl, rfl, rfl⟩
    fun _ => hdone₂
  exact holds_bind ((holds_owning rfl ⟨rfl, rfl, rfl⟩ (holds_bind (holds_act_of
    (fun _ => clearMaintenanceMarker_holds hwrote hgone) (fun _ _ => hwrote)
    fun _ => hready))).mono (fun _ _ h₃ => holds_pure h₃) fun _ _ => id)

theorem recoverReset_holds (h : Sound paths contractVersion start disk)
    (hmarker : disk.marker = some marker) (hreset : marker.operationType = .reset) :
    Holds (recoverReset world paths contractVersion marker) disk
      (fun _ => Sound paths contractVersion start)
      fun _ => Sound paths contractVersion start := by
  refine holds_bind (holds_refuseIf (fun _ => ?_) fun _ => h)
  split
  · exact holds_pure h
  · rename_i hphase
    have hours := h.ours marker hmarker hreset
    have hclears : Clears marker := ⟨hreset, Bool.eq_true_of_not_eq_false hphase⟩
    have hready : Recordable paths contractVersion start marker disk :=
      ⟨h, fun _ => h.backed marker hmarker hclears⟩
    refine holds_owning hreset hours (holds_bind ((clearResetGeneratedState_holds sweeping_sweeps
      ⟨hready, marker, hmarker, hclears⟩).mono (fun removed d₁ h₁ => ?_) fun _ _ => id))
    obtain ⟨⟨hready₁, -⟩, hgone⟩ := h₁
    have hwrote := hready₁.wrote (m := { marker with
      stage := .localStateCleared, resetPhase := some .localStateCleared }) hreset
      ⟨hours.1, hours.2, hours.3⟩ fun _ => hready₁.2 hclears.2
    refine holds_bind (holds_act_of (fun _ => ?_) (fun _ _ => hwrote) fun _ => hready₁)
    exact holds_bind ((clearMaintenanceMarker_holds hwrote hgone).mono
      (fun _ _ h₂ => holds_pure h₂) fun _ _ => id)

theorem recoverOther_holds (h : Sound paths contractVersion start disk)
    (hmarker : disk.marker = some marker) (hother : marker.operationType ≠ .reset) :
    Holds (recoverOther world marker) disk (fun _ => Sound paths contractVersion start)
      fun _ => Sound paths contractVersion start := by
  have hothers := h.others hmarker hother
  refine holds_bind (holds_act_of (fun turn => ?_) (fun turn _ => hothers _) fun _ => h)
  refine holds_bind (holds_ask (fun _ _ _ => ?_) fun _ _ _ => hothers _)
  split
  · refine holds_bind (holds_bind (holds_look ?_))
    have hcleared := (hothers (world.databaseLeft turn)).cleared fun hremoved =>
      absurd ((h.swept hremoved).1 marker hmarker) hother
    split
    · exact holds_act_of (fun _ => holds_pure hcleared) (fun _ _ => hcleared)
        fun _ => hothers _
    · exact holds_pure (holds_pure (hothers _))
  · exact holds_pure (hothers _)

theorem recoverEnvironment_holds (h : Sound paths contractVersion start disk) (complete : Bool) :
    Holds (recoverEnvironment world paths contractVersion complete) disk
      (fun _ => Sound paths contractVersion start)
      fun _ => Sound paths contractVersion start := by
  refine holds_bind (holds_ask (fun _ _ _ => ?_) fun _ _ _ => h)
  split
  · refine holds_bind (holds_look ?_)
    split
    · exact holds_pure h
    · exact holds_pure h
  · refine holds_bind ((acquireBootstrapOwnership_holds h).mono ?_ fun _ _ => id)
    rintro _ _ rfl
    refine holds_bind (holds_ask (fun _ _ _ => ?_) fun _ _ _ => h)
    refine holds_bind (holds_look ?_)
    split
    · exact holds_pure h
    · rename_i marker hmarker
      split
      · exact holds_pure h
      · exact holds_pure h
      · rename_i hreset
        exact recoverReset_holds h hmarker hreset
      · rename_i hmigrate
        exact recoverOther_holds h hmarker (by simp [hmigrate])
      · rename_i hrestore
        exact recoverOther_holds h hmarker (by simp [hrestore])

/-- Recovery leaves everything as it is while the chain is not known to be reset. -/
theorem recoverEnvironment_prepared (hmarker : disk.marker = some marker)
    (hreset : marker.operationType = .reset) (hphase : chainIsReset marker = false)
    (complete : Bool) :
    Holds (recoverEnvironment world paths contractVersion complete) disk (fun _ d => d = disk)
      fun _ d => d = disk := by
  refine holds_bind (holds_ask (fun _ _ _ => ?_) fun _ _ _ => rfl)
  split
  · refine holds_bind (holds_look ?_)
    split
    · exact holds_pure rfl
    · exact holds_pure rfl
  · refine holds_bind ((acquireBootstrapOwnership_holds (Q := fun d => d = disk) rfl).mono ?_
      fun _ _ => id)
    rintro _ _ rfl
    refine holds_bind (holds_ask (fun _ _ _ => ?_) fun _ _ _ => rfl)
    refine holds_bind (holds_look ?_)
    simp only [hmarker, hreset]
    refine holds_bind (holds_refuseIf (fun _ => ?_) fun _ => rfl)
    rw [if_pos hphase]
    exact holds_pure rfl

/-- Nothing fails. -/
structure Calm (world : World) : Prop where
  operation : ∀ turn, world.operation turn = .done
  verifyOwnedEnvironment : ∀ turn, world.verifyOwnedEnvironment turn = .ok ()
  verifyResetDestructivePaths : ∀ turn, world.verifyResetDestructivePaths turn = .ok ()
  acquireBootstrapOwnership : ∀ turn, world.acquireBootstrapOwnership turn = .ok ()
  acquireMaintenanceLocks : ∀ turn, world.acquireMaintenanceLocks turn = .ok ()
  readReports : ∀ turn, world.readReports turn = .ok ()

theorem Calm.sweeps (h : Calm world) :
    Sweeps world (fun d => d.marker = some marker) fun _ _ => False where
  removed := fun _ _ hmarker _ => hmarker
  fails := by
    intro _ turn failure _ hfails
    rw [h.operation turn] at hfails
    rcases hfails with hfails | hfails
    · cases hfails
    · cases hfails
  asks := by
    intro _ turn failure _ hfails
    rw [h.verifyResetDestructivePaths turn, h.readReports turn] at hfails
    rcases hfails with hfails | hfails
    · cases hfails
    · cases hfails

/-- When nothing fails, recovery deletes what is left of the generated files,
then the marker. -/
theorem recoverEnvironment_calm (h : Calm world) (hmarker : disk.marker = some marker)
    (hclears : Clears marker) (hours : Ours paths contractVersion marker) :
    Holds (recoverEnvironment world paths contractVersion true) disk
      (fun result d => (∃ removed, result = .recovered marker.operationId removed) ∧
        d.marker = none ∧ ∀ e ∈ d.entries, e.isGenerated = false)
      fun _ _ => False := by
  obtain ⟨hreset, hphase⟩ := hclears
  refine holds_bind (holds_ask_ok h.verifyOwnedEnvironment ?_)
  rw [if_neg (by decide)]
  refine holds_bind (holds_bind (holds_look ?_))
  simp only [hmarker, hreset, Option.any_some, beq_self_eq_true, if_true]
  refine holds_ask_ok h.acquireBootstrapOwnership (holds_bind
    (holds_ask_ok h.acquireMaintenanceLocks (holds_bind (holds_look ?_))))
  simp only [hmarker, hreset]
  refine holds_bind (holds_refuseIf (fun _ => ?_) ?_)
  · rw [if_neg (by simp [hphase])]
    refine holds_attempt (Holds.mono (holds_bind ((clearResetGeneratedState_holds h.sweeps
      hmarker).mono (fun removed d₁ h₁ => ?_) fun _ _ => id)) (fun _ _ => id)
      fun _ _ hfalse => hfalse.elim)
    refine holds_bind (holds_act_done h.operation fun _ => holds_bind (holds_bind (holds_look ?_)))
    simp only [Option.isSome_some, if_true]
    exact holds_act_done h.operation fun _ => holds_pure ⟨⟨removed, rfl⟩, rfl, h₁.2⟩
  · rintro (hne | hne | hne)
    · exact hne hours.environmentId
    · exact hne hours.targetDatabase
    · exact hne hours.expectedSchemaContract

end

section
variable (paths : EnvironmentPaths) (contractVersion : String)

def Disk.initial (entries : List Entry) (marker : Option MaintenanceMarker) : Disk :=
  ⟨entries, marker, []⟩

/-- What resets and recoveries of one release leave, each cut off anywhere. -/
inductive Reaches (start : Disk) : Disk → Prop where
  | start : Reaches start start
  | reset {disk : Disk} (h : Reaches start disk) (world : World) (operationId : String)
      (confirmed locksAlreadyHeld : Bool) (turn : ℕ) :
      Reaches start (finalState (resetEnvironment world paths contractVersion operationId confirmed
        locksAlreadyHeld) ⟨turn, disk⟩).disk
  | recover {disk : Disk} (h : Reaches start disk) (world : World) (complete : Bool) (turn : ℕ) :
      Reaches start (finalState (recoverEnvironment world paths contractVersion complete)
        ⟨turn, disk⟩).disk

structure CrashSafe (start disk : Disk) : Prop where
  /-- Each deletion is of a generated entry, under a durable marker of a reset that
  says that the chain was reset, which no marker says before it was. -/
  ordered : resetMonitor.Accepts start.memory disk.trace
  marked : ∀ gone left, Effect.removed gone ∈ disk.trace → left ∈ start.entries →
    left.isGenerated = true → left ∈ disk.entries →
    ∃ m, disk.marker = some m ∧ m.operationType = .reset
  prepared : ∀ world complete m, disk.marker = some m → m.operationType = .reset →
    chainIsReset m = false → Holds (recoverEnvironment world paths contractVersion complete) disk
      (fun _ d => d = disk) fun _ d => d = disk
  recovers : ∀ world m, Calm world → disk.marker = some m → Clears m →
    Holds (recoverEnvironment world paths contractVersion true) disk
      (fun result d => (∃ removed, result = .recovered m.operationId removed) ∧
        d.marker = none ∧ ∀ e ∈ d.entries, e.isGenerated = false)
      fun _ _ => False
  kept : ∀ e, e.isGenerated = false → (e ∈ disk.entries ↔ e ∈ start.entries)

variable {paths contractVersion} {start disk : Disk}

theorem Sound.initial {entries : List Entry} {marker : Option MaintenanceMarker}
    (hours : ∀ m, marker = some m → m.operationType = .reset → Ours paths contractVersion m) :
    Sound paths contractVersion (.initial entries marker) (.initial entries marker) where
  accepted := trivial
  marker := rfl
  ours := hours
  backed := by
    intro m hm hclears
    obtain rfl : marker = some m := hm
    simp [Disk.after, Disk.initial, Disk.memory, hclears]
  swept := by
    rintro ⟨e, he⟩
    cases he
  kept := fun _ _ => Iff.rfl

theorem Reaches.sound (h : Reaches paths contractVersion start disk)
    (hstart : Sound paths contractVersion start start) : Sound paths contractVersion start disk := by
  induction h with
  | start => exact hstart
  | reset _ _ operationId confirmed locksAlreadyHeld turn ih =>
    exact (resetEnvironment_holds ih operationId confirmed locksAlreadyHeld).final turn
  | recover _ _ complete turn ih => exact (recoverEnvironment_holds ih complete).final turn

theorem Sound.crashSafe (h : Sound paths contractVersion start disk) :
    CrashSafe paths contractVersion start disk where
  ordered := h.accepted
  marked := by
    intro gone left hgone _ hgenerated hleft
    obtain ⟨hreset, hswept⟩ := h.swept ⟨gone, hgone⟩
    cases hmarker : disk.marker with
    | none =>
      have hnot := hswept hmarker left hleft
      rw [hgenerated] at hnot
      cases hnot
    | some m => exact ⟨m, rfl, hreset m hmarker⟩
  prepared := fun _ complete _ hmarker hreset hphase =>
    recoverEnvironment_prepared hmarker hreset hphase complete
  recovers := fun _ m hcalm hmarker hclears =>
    recoverEnvironment_calm hcalm hmarker hclears (h.ours m hmarker hclears.1)
  kept := h.kept

/-- Reset is safe over any sequence of resets and recoveries, cut off anywhere:
a marker of a reset found at the start is one of this environment and release. -/
theorem reset_crash_safe {entries : List Entry} {marker : Option MaintenanceMarker}
    (hours : ∀ m, marker = some m → m.operationType = .reset → Ours paths contractVersion m)
    (h : Reaches paths contractVersion (.initial entries marker) disk) :
    CrashSafe paths contractVersion (.initial entries marker) disk :=
  (h.sound (.initial hours)).crashSafe

/-! A reset that crashes between two deletions. -/

def crashing : World where
  operation := fun turn => if turn = 8 then .undone .crash else .done
  resetChain := fun _ => .done
  verifyOwnedEnvironment := fun _ => .ok ()
  verifyResetDestructivePaths := fun _ => .ok ()
  acquireBootstrapOwnership := fun _ => .ok ()
  acquireMaintenanceLocks := fun _ => .ok ()
  readReports := fun _ => .ok ()
  databaseLeft := fun _ => []
  recoverOther := fun _ => .ok true

def crashed : Disk := (finalState (resetEnvironment crashing ⟨"local", "motorcove.sqlite"⟩ "1"
  "operation" true false) ⟨0, .initial [.databasePath, .deploymentPath, .ownerPath] none⟩).disk

theorem reset_crash_safe_crashed :
    Effect.removed .databasePath ∈ crashed.trace ∧ Entry.deploymentPath ∈ crashed.entries ∧
      ∃ m, crashed.marker = some m ∧ m.operationType = .reset := by
  have hours : ∀ m, none = some m → m.operationType = .reset →
      Ours ⟨"local", "motorcove.sqlite"⟩ "1" m := by
    intro m hm
    cases hm
  exact ⟨by decide, by decide, (reset_crash_safe hours
    (.reset .start crashing "operation" true false 0)).marked .databasePath .deploymentPath
    (by decide) (by decide) (by decide) (by decide)⟩

end
end MotorCove.Maintenance.Reset
