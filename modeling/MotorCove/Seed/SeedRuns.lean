import MotorCove.Seed.SubmitOnce

/-!
# Whole histories of the chain-seed journal

Processes open the journal, call and end in any order, each over the file the
last one left. What one call keeps, every history keeps.
-/

set_option autoImplicit false

namespace MotorCove.Seed
open MotorCove.Effects

variable {replies : ℕ → Reply}

structure OwnerSound (o : Owner) : Prop where
  recorded : Recorded o.file o.log
  process : ∀ data, o.journal = some data → Sound (o.process data)

theorem Recorded.ended {file : Option ChainSeedJournalData} {log : List Act} (h : Recorded file log)
    (s intent : String) (result : Except Failure ChainSeedReceipt) :
    Recorded file (log ++ [.ended s intent result]) where
  once := by
    intro t
    rw [List.countP_append, List.countP_singleton]
    exact h.once t
  file := fun t reply ht => h.file t reply (by simpa using ht)

theorem Sound.ended {p : Process} (h : Sound p) (s intent : String)
    (result : Except Failure ChainSeedReceipt) :
    Sound { p with log := p.log ++ [.ended s intent result] } where
  recorded := h.recorded.ended s intent result
  behind := h.behind
  memory := fun t reply ht => h.memory t reply (by simpa using ht)

theorem step_transaction {o : Owner} {data : ChainSeedJournalData} (hdata : o.journal = some data)
    {s intent : String} {P : ChainSeedReceipt → Process → Prop} {E : Failure → Process → Prop}
    (h : Ends (transaction replies s intent) (o.process data) P E) :
    ∃ result p journal, o.step replies (.transaction s intent) =
        ⟨p.file, p.turn, p.log ++ [.ended s intent result], journal⟩ ∧
      (journal = none ∨ journal = some p.data) ∧
      ((∃ receipt, result = .ok receipt ∧ P receipt p) ∨ ∃ e, result = .error e ∧ E e p) := by
  unfold Ends at h
  simp only [Owner.step, hdata]
  split at h
  · rename_i receipt p hrun
    rw [hrun]
    exact ⟨_, p, _, rfl, .inr rfl, .inl ⟨receipt, rfl, h⟩⟩
  · rename_i e p hrun
    rw [hrun]
    cases e with
    | crash => exact ⟨_, p, _, rfl, .inl rfl, .inr ⟨_, rfl, h⟩⟩
    | error message cause => exact ⟨_, p, _, rfl, .inr rfl, .inr ⟨_, rfl, h⟩⟩

/-- From one state of the owner to a later one: the file only grows. -/
structure Onward (o o' : Owner) : Prop where
  sound : OwnerSound o'
  file : ∀ f, o.file = some f → ∃ f', o'.file = some f' ∧ Below f f'

theorem Onward.refl {o : Owner} (h : OwnerSound o) : Onward o o :=
  ⟨h, fun f hf => ⟨f, hf, Below.refl f⟩⟩

theorem Onward.trans {o₁ o₂ o₃ : Owner} (h : Onward o₁ o₂) (h' : Onward o₂ o₃) : Onward o₁ o₃ := by
  refine ⟨h'.sound, fun f hf => ?_⟩
  obtain ⟨f₂, hf₂, hbelow₂⟩ := h.file f hf
  obtain ⟨f₃, hf₃, hbelow₃⟩ := h'.file f₂ hf₂
  exact ⟨f₃, hf₃, hbelow₂.trans hbelow₃⟩

theorem Advanced.onward {o : Owner} {data : ChainSeedJournalData} {s intent : String} {p : Process}
    (hsound : Sound (o.process data)) (h : Advanced s (o.process data) p)
    (result : Except Failure ChainSeedReceipt) {journal : Option ChainSeedJournalData}
    (hjournal : journal = none ∨ journal = some p.data) :
    Onward o ⟨p.file, p.turn, p.log ++ [.ended s intent result], journal⟩ where
  sound := by
    refine ⟨h.sound.recorded.ended s intent result, fun data' hdata' => ?_⟩
    rcases hjournal with rfl | rfl
    · cases hdata'
    · cases hdata'
      exact h.sound.ended s intent result
  file := by
    intro f hf
    rcases h.file with hfile | ⟨f', hfile, hbelow, _⟩
    · exact ⟨f, hfile.trans hf, Below.refl f⟩
    · exact ⟨f', hfile, (hsound.behind f hf).trans hbelow⟩

theorem Recorded.fresh {log : List Act} (h : Recorded none log) (s : String) (reply : SubmitReply) :
    .submitted s reply ∉ log := by
  intro hmem
  obtain ⟨_, _, hfile, _⟩ := h.file s reply hmem
  cases hfile

variable (replies) in
theorem openJournal_onward {o : Owner} (h : OwnerSound o) (identity : OpenJournalIdentity) :
    Onward o (openJournal replies identity o) := by
  unfold openJournal
  split
  · rename_i f hf
    split
    · refine ⟨⟨h.recorded, fun data hdata => ?_⟩, fun f hf => ⟨f, hf, Below.refl f⟩⟩
      obtain rfl := Option.some.inj hdata
      refine ⟨h.recorded, fun f' hf' => ?_, fun s reply hs => ?_⟩
      · obtain rfl := Option.some.inj (hf.symm.trans hf')
        exact Below.refl f
      · obtain ⟨f', step, hf', hstep, hresolved⟩ := h.recorded.file s reply hs
        obtain rfl := Option.some.inj (hf.symm.trans hf')
        exact ⟨step, hstep, hresolved⟩
    · exact ⟨⟨h.recorded, nofun⟩, fun f hf => ⟨f, hf, Below.refl f⟩⟩
  · rename_i hf
    have hfresh := (hf ▸ h.recorded).fresh
    have hsound : Sound (o.process identity.fresh) := by
      refine ⟨h.recorded, fun f hf' => ?_, fun s reply hs => absurd hs (hfresh s reply)⟩
      cases hf.symm.trans hf'
    have hends := save_ends replies "" hsound
    unfold Ends at hends
    split at hends
    · rename_i p hrun
      rw [hrun]
      refine ⟨⟨hends.1.sound.recorded, fun data hdata => ?_⟩, fun f hf' => ?_⟩
      · obtain rfl := Option.some.inj hdata
        exact hends.1.sound
      · cases hf.symm.trans hf'
    · rename_i p hrun
      rw [hrun]
      refine ⟨⟨hends.1.sound.recorded, nofun⟩, fun f hf' => ?_⟩
      cases hf.symm.trans hf'

variable (replies) in
theorem step_onward {o : Owner} (h : OwnerSound o) (event : Event) :
    Onward o (o.step replies event) := by
  cases event with
  | opened identity => exact openJournal_onward replies h identity
  | exited => exact ⟨⟨h.recorded, nofun⟩, fun f hf => ⟨f, hf, Below.refl f⟩⟩
  | transaction s intent =>
    cases hdata : o.journal with
    | none =>
      have hstay : o.step replies (.transaction s intent) = o := by simp only [Owner.step, hdata]
      rw [hstay]
      exact Onward.refl h
    | some data =>
      have hsound := h.process data hdata
      obtain ⟨result, p, journal, hstep, hjournal, hend⟩ :=
        step_transaction hdata (transaction_ends replies hsound s intent)
      rw [hstep]
      rcases hend with ⟨receipt, _, hadvanced, _⟩ | ⟨e, _, hadvanced⟩
      · exact hadvanced.onward hsound result hjournal
      · exact hadvanced.onward hsound result hjournal

variable (replies) in
theorem run_onward {o : Owner} (h : OwnerSound o) (events : List Event) :
    Onward o (o.run replies events) := by
  induction events generalizing o with
  | nil => exact Onward.refl h
  | cons event events ih =>
    have hstep := step_onward replies h event
    exact hstep.trans (ih hstep.sound)

theorem ownerSound_unopened : OwnerSound unopened :=
  ⟨⟨fun _ => Nat.zero_le _, nofun⟩, nofun⟩

def RefusedIn (s : String) (data : ChainSeedJournalData) : Prop :=
  ∃ step, data.steps s = some step ∧ step.Refused

/-- Refused in the file, and in the memory of a process if one runs. -/
structure RefusedBy (s : String) (o : Owner) : Prop where
  sound : OwnerSound o
  file : ∃ f, o.file = some f ∧ RefusedIn s f
  memory : ∀ data, o.journal = some data → RefusedIn s data

/-- The act neither submits the step nor returns from a call about it. -/
def Quiet (s : String) (act : Act) : Prop :=
  act.submits s = false ∧ ∀ intent receipt, act ≠ .ended s intent (.ok receipt)

theorem transaction_refusedBy {o : Owner} {s t intent : String} (h : RefusedBy s o)
    {data : ChainSeedJournalData} (hdata : o.journal = some data) :
    RefusedBy s (o.step replies (.transaction t intent)) ∧
      ∃ more, (o.step replies (.transaction t intent)).log = o.log ++ more ∧
        ∀ act ∈ more, Quiet s act := by
  have hsound := h.sound.process data hdata
  have honward := step_onward replies h.sound (.transaction t intent)
  obtain ⟨f, hf, hrefusedf⟩ := h.file
  obtain ⟨step, hmem, hrefused⟩ := h.memory data hdata
  by_cases hts : t = s
  · subst hts
    obtain ⟨result, p, journal, hstep, hjournal, hend⟩ := step_transaction hdata
      (transaction_refused replies hsound hmem hrefused intent)
    rw [hstep] at honward ⊢
    rcases hend with ⟨_, _, hfalse⟩ | ⟨e, rfl, hadvanced, hmemory, hfile⟩
    · exact hfalse.elim
    obtain ⟨more, hlog, hmore⟩ := hadvanced.log
    refine ⟨⟨honward.sound, ?_, fun data' hdata' => ?_⟩, more ++ [.ended t intent (.error e)],
      by rw [hlog, List.append_assoc]; rfl, fun act hact => ?_⟩
    · rcases hfile with hfile | ⟨f', step', hf', hstep', hrefused'⟩
      · exact ⟨f, hfile.trans hf, hrefusedf⟩
      · exact ⟨f', hf', step', hstep', hrefused'⟩
    · rcases hjournal with rfl | rfl
      · cases hdata'
      · cases hdata'
        exact hmemory
    · rcases List.mem_append.mp hact with hact | hact
      · cases hmem.symm.trans (hmore act hact).1
      · rw [List.mem_singleton.mp hact]
        exact ⟨rfl, by rintro _ _ ⟨⟩⟩
  · -- a call about another step: this one is carried over as it is
    obtain ⟨result, p, journal, hstep, hjournal, hend⟩ := step_transaction hdata
      (transaction_ends replies hsound t intent)
    have hadvanced : Advanced t (o.process data) p := by
      rcases hend with ⟨_, _, hadvanced, _⟩ | ⟨_, _, hadvanced⟩
      · exact hadvanced
      · exact hadvanced
    rw [hstep] at honward ⊢
    obtain ⟨more, hlog, hmore⟩ := hadvanced.log
    have hsame := hadvanced.others s (Ne.symm hts)
    refine ⟨⟨honward.sound, ?_, fun data' hdata' => ?_⟩, more ++ [.ended t intent result],
      by rw [hlog, List.append_assoc]; rfl, fun act hact => ?_⟩
    · rcases hadvanced.file with hfile | ⟨f', hf', _, hothers⟩
      · exact ⟨f, hfile.trans hf, hrefusedf⟩
      · exact ⟨f', hf', step, (hothers s (Ne.symm hts)).trans hmem, hrefused⟩
    · rcases hjournal with rfl | rfl
      · cases hdata'
      · cases hdata'
        exact ⟨step, hsame.trans hmem, hrefused⟩
    · rcases List.mem_append.mp hact with hact | hact
      · have hsubmits := (hmore act hact).2
        cases act with
        | submitted u reply =>
          obtain rfl : u = t := by simpa [Act.submits] using hsubmits
          exact ⟨by simpa [Act.submits] using hts, by rintro _ _ ⟨⟩⟩
        | ended _ _ _ => simp [Act.submits] at hsubmits
      · rw [List.mem_singleton.mp hact]
        refine ⟨rfl, fun intent' receipt heq => hts ?_⟩
        cases heq
        rfl

variable (replies) in
theorem step_refusedBy {o : Owner} {s : String} (h : RefusedBy s o) (event : Event) :
    RefusedBy s (o.step replies event) ∧ ∃ more, (o.step replies event).log = o.log ++ more ∧
      ∀ act ∈ more, Quiet s act := by
  have hsilent : ∃ more, o.log = o.log ++ more ∧ ∀ act ∈ more, Quiet s act :=
    ⟨[], (List.append_nil _).symm, nofun⟩
  cases event with
  | exited => exact ⟨⟨⟨h.sound.recorded, nofun⟩, h.file, nofun⟩, hsilent⟩
  | opened identity =>
    have hsound := (openJournal_onward replies h.sound identity).sound
    obtain ⟨f, hf, hrefused⟩ := h.file
    change RefusedBy s (openJournal replies identity o) ∧
      ∃ more, (openJournal replies identity o).log = o.log ++ more ∧ _
    unfold openJournal at hsound ⊢
    split
    · rename_i f' hf'
      obtain rfl := Option.some.inj (hf.symm.trans hf')
      rw [hf'] at hsound
      split
      · rename_i hmatches
        simp only [hmatches, if_true] at hsound
        refine ⟨⟨?_, ⟨f, hf, hrefused⟩, fun data hdata => ?_⟩, hsilent⟩
        · simpa [hf] using hsound
        · obtain rfl := Option.some.inj hdata
          exact hrefused
      · exact ⟨⟨⟨h.sound.recorded, nofun⟩, ⟨f, hf, hrefused⟩, nofun⟩, hsilent⟩
    · rename_i hnone
      cases hf.symm.trans hnone
  | transaction t intent =>
    cases hdata : o.journal with
    | none =>
      have hstay : o.step replies (.transaction t intent) = o := by simp only [Owner.step, hdata]
      rw [hstay]
      exact ⟨h, hsilent⟩
    | some data => exact transaction_refusedBy h hdata

theorem run_refusedBy {o : Owner} {s : String} (h : RefusedBy s o) (events : List Event) :
    ∃ more, (o.run replies events).log = o.log ++ more ∧ ∀ act ∈ more, Quiet s act := by
  induction events generalizing o with
  | nil => exact ⟨[], (List.append_nil _).symm, nofun⟩
  | cons event events ih =>
    obtain ⟨hnext, more, hlog, hmore⟩ := step_refusedBy replies h event
    obtain ⟨more', hlog', hmore'⟩ := ih hnext
    refine ⟨more ++ more', ?_, fun act hact => ?_⟩
    · change ((o.step replies event).run replies events).log = _
      rw [hlog', hlog, List.append_assoc]
    · rcases List.mem_append.mp hact with hact | hact
      · exact hmore act hact
      · exact hmore' act hact

/-- Of a state of the journal's owner: what its log shows, what the file has
for later processes, and what any next call can do. -/
structure SubmittedOnce (replies : ℕ → Reply) (o : Owner) : Prop where
  once : ∀ s, o.log.countP (Act.submits s) ≤ 1
  resolved : ∀ s reply, .submitted s reply ∈ o.log →
    (∃ f step, o.file = some f ∧ f.steps s = some step ∧ Resolved reply step) ∧
      ∀ data, o.journal = some data → ∃ step, data.steps s = some step ∧ Resolved reply step
  /-- Refused once no process runs, refused in every later one. -/
  refused : ∀ s f, o.file = some f → RefusedIn s f → ∀ events,
    ∃ more, (Owner.run replies { o with journal := none } events).log = o.log ++ more ∧
      ∀ act ∈ more, Quiet s act
  kept : ∀ events s f step, o.file = some f → f.steps s = some step →
    ∃ f' step', (o.run replies events).file = some f' ∧ f'.steps s = some step' ∧
      Extends step step'
  called : ∀ s intent data, o.journal = some data →
    Ends (transaction replies s intent) (o.process data)
      (fun receipt p => Confirmed s intent receipt p ∧
        (∀ f step, o.file = some f → f.steps s = some step → step.intent = intent) ∧
        ∀ f step recorded, p.file = some f → f.steps s = some step →
          step.receipt = some recorded → recorded.agrees receipt = true)
      fun _ _ => True

/-- In every state of every history of processes over one journal file,
whatever the environment answers and wherever processes crash. -/
theorem submitted_once (replies : ℕ → Reply) (events : List Event) :
    SubmittedOnce replies (unopened.run replies events) := by
  have hsound := (run_onward replies ownerSound_unopened events).sound
  generalize unopened.run replies events = o at hsound
  constructor
  · exact hsound.recorded.once
  · exact fun s reply hs => ⟨hsound.recorded.file s reply hs,
      fun data hdata => (hsound.process data hdata).memory s reply hs⟩
  · intro s f hf hrefused later
    exact run_refusedBy (o := { o with journal := none })
      ⟨⟨hsound.recorded, nofun⟩, ⟨f, hf, hrefused⟩, nofun⟩ later
  · intro later s f step hf hstep
    obtain ⟨f', hf', hbelow⟩ := (run_onward replies hsound later).file f hf
    obtain ⟨step', hstep', hextends⟩ := hbelow s step hstep
    exact ⟨f', step', hf', hstep', hextends⟩
  · intro s intent data hdata
    have hp := hsound.process data hdata
    refine (transaction_ends replies hp s intent).mono ?_ fun _ _ _ => trivial
    rintro receipt p ⟨hadvanced, hconfirmed, hintent⟩
    refine ⟨hconfirmed, fun f step hf hstep => ?_, fun f step recorded hf hstep hrecorded => ?_⟩
    · obtain ⟨step', hstep', hextends⟩ := hp.behind f hf s step hstep
      exact hextends.intent.symm.trans (hintent step' hstep').1
    · obtain ⟨_, step', recorded', hstep', _, hrecorded', hagrees⟩ := hconfirmed
      obtain ⟨step'', hstep'', hextends⟩ := hadvanced.sound.behind f hf s step hstep
      obtain rfl := Option.some.inj (hstep'.symm.trans hstep'')
      obtain rfl := Option.some.inj ((hextends.receipt recorded hrecorded).symm.trans hrecorded')
      exact hagrees

end MotorCove.Seed
