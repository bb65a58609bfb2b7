import MotorCove.Seed.ChainSeedJournal

/-!
# Every step is submitted at most once

The memory of a process is never behind the file, and a step is in the file
before it is submitted. So whatever fails, a later process finds the step: with
the returned hash, or refused for ever.
-/

set_option autoImplicit false

namespace MotorCove.Seed
open MotorCove.Effects MotorCove.Text

variable {replies : ℕ → Reply}

def ChainSeedStep.Refused (step : ChainSeedStep) : Prop :=
  step.status = .prepared ∨ step.status = .unknown

/-- The step knows what its submission returned, or is refused. -/
def Resolved (reply : SubmitReply) (step : ChainSeedStep) : Prop :=
  (∃ hash, reply = .returned hash ∧ step.transactionHash = some hash) ∨ step.Refused

structure Extends (old new : ChainSeedStep) : Prop where
  intent : new.intent = old.intent
  unknown : old.status = .unknown → new.status = .unknown
  hash : ∀ hash, old.transactionHash = some hash → new.transactionHash = some hash
  receipt : ∀ receipt, old.receipt = some receipt → new.receipt = some receipt

theorem Extends.refl (step : ChainSeedStep) : Extends step step :=
  ⟨rfl, id, fun _ => id, fun _ => id⟩

theorem Extends.trans {a b c : ChainSeedStep} (h : Extends a b) (h' : Extends b c) : Extends a c where
  intent := h'.intent.trans h.intent
  unknown := fun ha => h'.unknown (h.unknown ha)
  hash := fun hash ha => h'.hash hash (h.hash hash ha)
  receipt := fun receipt ha => h'.receipt receipt (h.receipt receipt ha)

/-- Every step of the first journal is in the second, which extends it. -/
def Below (old new : ChainSeedJournalData) : Prop :=
  ∀ s step, old.steps s = some step → ∃ step', new.steps s = some step' ∧ Extends step step'

theorem Below.refl (data : ChainSeedJournalData) : Below data data :=
  fun _ step h => ⟨step, h, Extends.refl step⟩

theorem Below.trans {a b c : ChainSeedJournalData} (h : Below a b) (h' : Below b c) : Below a c := by
  intro s step hs
  obtain ⟨step₁, hs₁, he₁⟩ := h s step hs
  obtain ⟨step₂, hs₂, he₂⟩ := h' s step₁ hs₁
  exact ⟨step₂, hs₂, he₁.trans he₂⟩

/-- What holds of the file and the log whether or not a process runs. -/
structure Recorded (file : Option ChainSeedJournalData) (log : List Act) : Prop where
  once : ∀ s, log.countP (Act.submits s) ≤ 1
  file : ∀ s reply, .submitted s reply ∈ log →
    ∃ f step, file = some f ∧ f.steps s = some step ∧ Resolved reply step

/-- What holds of a process between two requests. -/
structure Sound (p : Process) : Prop where
  recorded : Recorded p.file p.log
  behind : ∀ f, p.file = some f → Below f p.data
  memory : ∀ s reply, .submitted s reply ∈ p.log →
    ∃ step, p.data.steps s = some step ∧ Resolved reply step

/-- A part of a call about `s` only extends what there is, and submits nothing
but `s`, if that was not in the journal. -/
structure Advanced (s : String) (p p' : Process) : Prop where
  sound : Sound p'
  below : Below p.data p'.data
  file : p'.file = p.file ∨ ∃ f, p'.file = some f ∧ Below p.data f ∧
    ∀ t, t ≠ s → f.steps t = p.data.steps t
  others : ∀ t, t ≠ s → p'.data.steps t = p.data.steps t
  log : ∃ more, p'.log = p.log ++ more ∧
    ∀ act ∈ more, p.data.steps s = none ∧ act.submits s = true

theorem unlogged (s : String) (p : Process) : ∃ more, p.log = p.log ++ more ∧
    ∀ act ∈ more, p.data.steps s = none ∧ act.submits s = true :=
  ⟨[], (List.append_nil _).symm, nofun⟩

theorem Advanced.refl {s : String} {p : Process} (h : Sound p) : Advanced s p p :=
  ⟨h, Below.refl _, .inl rfl, fun _ _ => rfl, unlogged s p⟩

theorem Advanced.trans {s : String} {p₁ p₂ p₃ : Process} (h : Advanced s p₁ p₂)
    (h' : Advanced s p₂ p₃) : Advanced s p₁ p₃ where
  sound := h'.sound
  below := h.below.trans h'.below
  file := by
    rcases h'.file with hfile | ⟨f, hfile, hbelow, hothers⟩
    · rw [hfile]
      exact h.file
    · exact .inr ⟨f, hfile, h.below.trans hbelow, fun t ht => (hothers t ht).trans (h.others t ht)⟩
  others := fun t ht => (h'.others t ht).trans (h.others t ht)
  log := by
    obtain ⟨more, hlog, hmore⟩ := h.log
    obtain ⟨more', hlog', hmore'⟩ := h'.log
    refine ⟨more ++ more', by rw [hlog', hlog, List.append_assoc], fun act hact => ?_⟩
    rcases List.mem_append.mp hact with hact | hact
    · exact hmore act hact
    · obtain ⟨hnone, hsubmits⟩ := hmore' act hact
      refine ⟨?_, hsubmits⟩
      cases hstep : p₁.data.steps s with
      | none => rfl
      | some step =>
        obtain ⟨_, hs, _⟩ := h.below s step hstep
        rw [hnone] at hs
        cases hs

variable {s : String} {p : Process}

theorem Sound.saved (h : Sound p) (n : ℕ) :
    Advanced s p { p with turn := n, file := some p.data } where
  sound := by
    refine ⟨⟨h.recorded.once, fun t reply ht => ?_⟩, ?_, h.memory⟩
    · obtain ⟨step, hstep, hresolved⟩ := h.memory t reply ht
      exact ⟨p.data, step, rfl, hstep, hresolved⟩
    · intro f hf
      obtain rfl := Option.some.inj hf
      exact Below.refl _
  below := Below.refl _
  file := .inr ⟨p.data, rfl, Below.refl _, fun _ _ => rfl⟩
  others := fun _ _ => rfl
  log := unlogged s p

theorem Sound.waited (h : Sound p) (n : ℕ) : Advanced s p { p with turn := n } :=
  ⟨⟨h.recorded, h.behind, h.memory⟩, Below.refl _, .inl rfl, fun _ _ => rfl, unlogged s p⟩

variable (replies) in
/-- A save renames the file or leaves it; if it returns, it has renamed it. -/
theorem save_ends (s : String) (h : Sound p) :
    Ends (save replies) p
      (fun _ p' => Advanced s p p' ∧ p'.data = p.data ∧ p'.log = p.log ∧ p'.file = some p.data)
      fun _ p' => Advanced s p p' ∧ p'.data = p.data ∧ p'.log = p.log ∧
        (p'.file = p.file ∨ p'.file = some p.data) := by
  simp only [Ends, EStateM.run, save]
  cases (replies p.turn).save with
  | renamed => exact ⟨h.saved _, rfl, rfl, rfl⟩
  | renamedThenCrash => exact ⟨h.saved _, rfl, rfl, .inr rfl⟩
  | failed message => exact ⟨h.waited _, rfl, rfl, .inl rfl⟩
  | crash => exact ⟨h.waited _, rfl, rfl, .inl rfl⟩

theorem waitForReceipt_ends (h : Sound p) (hash : Hex) :
    Ends (waitForReceipt replies hash) p (fun _ p' => Advanced s p p' ∧ p'.data = p.data)
      fun _ p' => Advanced s p p' := by
  simp only [Ends, EStateM.run, waitForReceipt]
  cases (replies p.turn).receipt with
  | returned receipt => exact ⟨h.waited _, rfl⟩
  | threw message => exact h.waited _
  | crash => exact h.waited _

theorem attempt_ends {α : Type} {x : Journal α} {handle : String → Journal α}
    {P : α → Process → Prop} {E : Failure → Process → Prop}
    (h : Ends x p P fun e p' => E e p' ∧ ∀ message, Ends (handle message) p' P E) :
    Ends (attempt x handle) p P E := by
  rw [attempt, ends_tryCatch]
  refine h.mono (fun _ _ h => h) fun e p' he => ?_
  cases e with
  | crash => exact he.1
  | error message cause => exact he.2 message

/-- Memory takes a new version of the step, which extends the old one and is
true to its submission. -/
theorem Sound.setStep (h : Sound p) (step : ChainSeedStep)
    (hextends : ∀ old, p.data.steps s = some old → Extends old step)
    (hresolved : ∀ reply, .submitted s reply ∈ p.log → Resolved reply step) :
    Advanced s p { p with
      data := { p.data with steps := Function.update p.data.steps s (some step) } } := by
  have hbelow : Below p.data
      { p.data with steps := Function.update p.data.steps s (some step) } := by
    intro t old ht
    by_cases hts : t = s
    · subst hts
      exact ⟨step, Function.update_self .., hextends old ht⟩
    · exact ⟨old, (Function.update_of_ne hts ..).trans ht, Extends.refl old⟩
  refine ⟨⟨h.recorded, fun f hf => (h.behind f hf).trans hbelow, ?_⟩, hbelow, .inl rfl,
    fun t ht => Function.update_of_ne ht .., unlogged s p⟩
  intro t reply ht
  by_cases hts : t = s
  · subst hts
    exact ⟨step, Function.update_self .., hresolved reply ht⟩
  · obtain ⟨old, hold, hres⟩ := h.memory t reply ht
    exact ⟨old, (Function.update_of_ne hts ..).trans hold, hres⟩

/-- The three refusals: the step becomes unknown, is saved, and the call fails. -/
theorem refusal_ends {α : Type} (h : Sound p) {step refused : ChainSeedStep} {code : String}
    (hstep : p.data.steps s = some step) (hextends : Extends step refused)
    (hunknown : refused.status = .unknown) {P : α → Process → Prop} :
    Ends (do setStep s refused; save replies; fail code s none : Journal α) p P fun _ p' =>
      Advanced s p p' ∧ p'.log = p.log ∧ p'.data.steps s = some refused ∧
        (p'.file = p.file ∨ ∃ f, p'.file = some f ∧ f.steps s = some refused) := by
  have hset : Advanced s p { p with
      data := { p.data with steps := Function.update p.data.steps s (some refused) } } := by
    refine h.setStep _ (fun old hold => ?_) fun _ _ => .inr (.inr hunknown)
    obtain rfl := Option.some.inj (hstep.symm.trans hold)
    exact hextends
  rw [ends_bind, setStep, ends_modify, ends_bind]
  refine (save_ends replies s hset.sound).mono ?_ ?_
  · rintro _ p' ⟨hsaved, hdata, hlog, hfile⟩
    refine ends_throw.mpr ⟨hset.trans hsaved, hlog, ?_, .inr ⟨_, hfile, ?_⟩⟩
    · rw [hdata]
      exact Function.update_self ..
    · exact Function.update_self ..
  · rintro _ p' ⟨hsaved, hdata, hlog, hfile⟩
    refine ⟨hset.trans hsaved, hlog, ?_, hfile.imp_right fun hfile => ⟨_, hfile, ?_⟩⟩
    · rw [hdata]
      exact Function.update_self ..
    · exact Function.update_self ..

/-- What a normal return of the call promises of the journal. -/
def Confirmed (s intent : String) (receipt : ChainSeedReceipt) (p : Process) : Prop :=
  receipt.outcome = .success ∧ ∃ step recorded, p.data.steps s = some step ∧ step.intent = intent ∧
    step.receipt = some recorded ∧ recorded.agrees receipt = true

theorem agrees_self (receipt : ChainSeedReceipt) : receipt.agrees receipt = true := by
  simp [ChainSeedReceipt.agrees]

theorem recordReceipt_ends (h : Sound p) {step : ChainSeedStep} {receipt : ChainSeedReceipt}
    (hstep : p.data.steps s = some step) (hopen : ¬step.Refused) :
    Ends (recordReceipt replies s step receipt) p
      (fun _ p' => Advanced s p p' ∧ ∃ step' recorded, p'.data.steps s = some step' ∧
        step'.intent = step.intent ∧ step'.receipt = some recorded ∧ recorded.agrees receipt = true)
      fun _ p' => Advanced s p p' := by
  obtain ⟨_, hknown⟩ := not_or.mp hopen
  unfold recordReceipt
  cases hreceipt : step.receipt with
  | some recorded =>
    simp only
    split
    · rename_i hagrees
      exact ends_pure.mpr ⟨Advanced.refl h, step, recorded, hstep, rfl, hreceipt, hagrees⟩
    · have hextends : Extends step { step with
          status := .unknown
          receipt := some recorded
          failureCategory := some .receiptChanged
          error := some "Previously verified receipt changed" } :=
        ⟨rfl, fun _ => rfl, fun _ => id, fun _ => hreceipt.symm.trans⟩
      exact (refusal_ends h hstep hextends rfl).mono (fun _ _ h => h) fun _ _ h => h.1
  | none =>
    have hset := h.setStep (s := s) ({ step with
        receipt := some receipt
        status := .verified
        failureCategory := none
        error := none }) ?_ ?_
    · simp only
      rw [ends_bind, setStep, ends_modify]
      refine (save_ends replies s hset.sound).mono ?_ fun _ _ h => hset.trans h.1
      rintro _ p' ⟨hsaved, hdata, _, _⟩
      have hstep' : p'.data.steps s = some { step with
          receipt := some receipt
          status := .verified
          failureCategory := none
          error := none } := by
        rw [hdata]
        exact Function.update_self ..
      exact ⟨hset.trans hsaved, _, receipt, hstep', rfl, rfl, agrees_self receipt⟩
    · intro old hold
      obtain rfl := Option.some.inj (hstep.symm.trans hold)
      refine ⟨rfl, fun hunknown => absurd hunknown hknown, fun _ => id, fun r hr => ?_⟩
      rw [hreceipt] at hr
      cases hr
    · intro reply hreply
      obtain ⟨old, hold, hresolved⟩ := h.memory s reply hreply
      obtain rfl := Option.some.inj (hstep.symm.trans hold)
      rcases hresolved with hash | hrefused
      · exact .inl hash
      · exact absurd hrefused hopen

theorem confirmStep_ends (h : Sound p) {step : ChainSeedStep} (hstep : p.data.steps s = some step)
    (hprepared : step.status ≠ .prepared) :
    Ends (confirmStep replies s step) p
      (fun receipt p' => Advanced s p p' ∧ Confirmed s step.intent receipt p' ∧
        step.status ≠ .unknown)
      fun _ p' => Advanced s p p' := by
  unfold confirmStep
  split
  · exact ends_throw.mpr (Advanced.refl h)
  · rename_i hknown
    split
    · exact ends_throw.mpr (Advanced.refl h)
    · rename_i hash _
      rw [ends_bind]
      refine (waitForReceipt_ends (s := s) h hash).mono ?_ fun _ _ h => h
      rintro receipt p₁ ⟨hwaited, hdata⟩
      rw [ends_bind]
      refine (recordReceipt_ends hwaited.sound (hdata ▸ hstep)
        (not_or.mpr ⟨hprepared, hknown⟩)).mono ?_ fun _ _ h => hwaited.trans h
      rintro _ p₂ ⟨hrecorded, step', recorded, hstep', hintent, hreceipt, hagrees⟩
      split
      · rename_i hsuccess
        exact ends_pure.mpr ⟨hwaited.trans hrecorded, ⟨hsuccess, step', recorded, hstep', hintent,
          hreceipt, hagrees⟩, hknown⟩
      · exact ends_throw.mpr (hwaited.trans hrecorded)

theorem submit_ends :
    Ends (submit replies s) p
      (fun hash p' => p' = { p with
        turn := p.turn + 1
        log := p.log ++ [.submitted s (.returned hash)] })
      fun _ p' => ∃ reply, p' = { p with
        turn := p.turn + 1
        log := p.log ++ [.submitted s reply] } := by
  simp only [Ends, EStateM.run, submit]
  cases (replies p.turn).submit with
  | returned hash => rfl
  | threw message => exact ⟨_, rfl⟩
  | crash => exact ⟨_, rfl⟩

/-- The step is prepared in the file and was never submitted: it is submitted now. -/
theorem Advanced.submitted {p₀ : Process} (h : Advanced s p₀ p) (hnone : p₀.data.steps s = none)
    {step : ChainSeedStep} (hfile : p.file = some p.data) (hstep : p.data.steps s = some step)
    (hprepared : step.status = .prepared) (hnew : ∀ reply, .submitted s reply ∉ p.log) (n : ℕ)
    (reply : SubmitReply) :
    Advanced s p₀ { p with turn := n, log := p.log ++ [.submitted s reply] } where
  sound := by
    have hmem : ∀ t r, Act.submitted t r ∈ p.log ++ [.submitted s reply] →
        Act.submitted t r ∈ p.log ∨ t = s := by
      intro t r ht
      rcases List.mem_append.mp ht with ht | ht
      · exact .inl ht
      · cases List.mem_singleton.mp ht
        exact .inr rfl
    refine ⟨⟨fun t => ?_, fun t r ht => ?_⟩, h.sound.behind, fun t r ht => ?_⟩
    · change (p.log ++ [Act.submitted s reply]).countP (Act.submits t) ≤ 1
      rw [List.countP_append, List.countP_singleton]
      by_cases hts : t = s
      · subst hts
        have hzero : p.log.countP (Act.submits t) = 0 := by
          rw [List.countP_eq_zero]
          intro act hact hsubmits
          cases act with
          | submitted u r =>
            obtain rfl : u = t := by simpa [Act.submits] using hsubmits
            exact hnew r hact
          | ended _ _ _ => simp [Act.submits] at hsubmits
        rw [hzero]
        split <;> omega
      · have hother : Act.submits t (Act.submitted s reply) = false := by
          simpa [Act.submits] using fun h => hts h.symm
        simpa [hother] using h.sound.recorded.once t
    · rcases hmem t r ht with ht | rfl
      · exact h.sound.recorded.file t r ht
      · exact ⟨p.data, step, hfile, hstep, .inr (.inl hprepared)⟩
    · rcases hmem t r ht with ht | rfl
      · exact h.sound.memory t r ht
      · exact ⟨step, hstep, .inr (.inl hprepared)⟩
  below := h.below
  file := h.file
  others := h.others
  log := by
    obtain ⟨more, hlog, hmore⟩ := h.log
    refine ⟨more ++ [.submitted s reply], by rw [hlog, List.append_assoc], fun act hact => ?_⟩
    rcases List.mem_append.mp hact with hact | hact
    · exact hmore act hact
    · rw [List.mem_singleton.mp hact]
      exact ⟨hnone, by simp [Act.submits]⟩

theorem Sound.unsubmitted (h : Sound p) (hnone : p.data.steps s = none) (reply : SubmitReply) :
    .submitted s reply ∉ p.log := by
  intro hmem
  obtain ⟨step, hstep, _⟩ := h.memory s reply hmem
  rw [hnone] at hstep
  cases hstep

theorem Sound.setSubmitted (h : Sound p) (step new : ChainSeedStep) {hash : Hex}
    (hstep : p.data.steps s = some step) (hextends : Extends step new)
    (hhash : new.transactionHash = some hash)
    (honly : ∀ reply, .submitted s reply ∈ p.log → reply = .returned hash) :
    Advanced s p { p with
      data := { p.data with steps := Function.update p.data.steps s (some new) } } := by
  refine h.setStep _ (fun old hold => ?_) fun reply hreply => .inl ⟨hash, honly reply hreply, hhash⟩
  obtain rfl := Option.some.inj (hstep.symm.trans hold)
  exact hextends

theorem submitStep_ends (h : Sound p) (hnone : p.data.steps s = none) (intent : String) :
    Ends (submitStep replies s intent) p
      (fun step p' => Advanced s p p' ∧ p'.data.steps s = some step ∧ step.status = .submitted ∧
        step.intent = intent)
      fun _ p' => Advanced s p p' := by
  have hnew := h.unsubmitted hnone
  have hprepare := h.setStep (s := s) (⟨intent, .prepared, none, none, none, none⟩)
    (fun old hold => by rw [hnone] at hold; cases hold) fun reply hreply => absurd hreply (hnew reply)
  rw [submitStep, ends_bind, setStep, ends_modify, ends_bind]
  refine (save_ends replies s hprepare.sound).mono ?_ fun _ _ h => hprepare.trans h.1
  rintro _ p₁ ⟨hsaved, hdata₁, hlog₁, hfile₁⟩
  have h₁ := hprepare.trans hsaved
  have hstep₁ : p₁.data.steps s = some ⟨intent, .prepared, none, none, none, none⟩ := by
    rw [hdata₁]
    exact Function.update_self ..
  have hsubmitted := h₁.submitted hnone (hfile₁.trans (congrArg some hdata₁.symm)) hstep₁ rfl
    (fun reply => by rw [hlog₁]; exact hnew reply) (p₁.turn + 1)
  rw [ends_bind]
  refine attempt_ends (submit_ends.mono ?_ ?_)
  · -- the hash is known: memory takes it before the file does
    rintro hash _ rfl
    have h₂ := hsubmitted (.returned hash)
    have honly : ∀ reply, Act.submitted s reply ∈ p₁.log ++ [Act.submitted s (.returned hash)] →
        reply = .returned hash := by
      intro reply hreply
      rcases List.mem_append.mp hreply with hreply | hreply
      · rw [hlog₁] at hreply
        exact absurd hreply (hnew reply)
      · cases List.mem_singleton.mp hreply
        rfl
    have hset := h₂.sound.setSubmitted _ ⟨intent, .submitted, some hash, none, none, none⟩
      hstep₁ ⟨rfl, nofun, nofun, nofun⟩ rfl honly
    have h₃ := h₂.trans hset
    rw [ends_bind, setStep, ends_modify, ends_bind]
    refine attempt_ends ((save_ends replies s hset.sound).mono ?_ ?_)
    · rintro _ p₄ ⟨hsaved₄, hdata₄, _, _⟩
      refine ends_pure.mpr ⟨h₃.trans hsaved₄, ?_, rfl, rfl⟩
      rw [hdata₄]
      exact Function.update_self ..
    · rintro _ p₄ ⟨hsaved₄, hdata₄, hlog₄, _⟩
      have h₄ := h₃.trans hsaved₄
      refine ⟨h₄, fun message => ?_⟩
      have hset₄ := h₄.sound.setSubmitted ⟨intent, .submitted, some hash, none, none, none⟩
        (⟨intent, .submitted, some hash, none, some .postSubmitPersistenceFailure,
          some message⟩) (by rw [hdata₄]; exact Function.update_self ..)
        ⟨rfl, nofun, fun _ => id, nofun⟩ rfl (by rw [hlog₄]; exact honly)
      rw [ends_bind, setStep, ends_modify, ends_bind]
      refine attempt_ends ((save_ends replies s hset₄.sound).mono ?_ ?_)
      · rintro _ p₅ ⟨hsaved₅, _⟩
        exact ends_throw.mpr ((h₄.trans hset₄).trans hsaved₅)
      · rintro _ p₅ ⟨hsaved₅, _⟩
        exact ⟨(h₄.trans hset₄).trans hsaved₅,
          fun _ => ends_throw.mpr ((h₄.trans hset₄).trans hsaved₅)⟩
  · -- the outcome of the submission is unknown, in memory at least
    rintro _ _ ⟨reply, rfl⟩
    have h₂ := hsubmitted reply
    refine ⟨h₂, fun message => ?_⟩
    have hextends : Extends ⟨intent, .prepared, none, none, none, none⟩
        ⟨intent, .unknown, none, none, some .submitOutcomeUnknown, some message⟩ :=
      ⟨rfl, nofun, nofun, nofun⟩
    exact (refusal_ends h₂.sound hstep₁ hextends rfl).mono (fun _ _ h => h)
      fun _ _ h => h₂.trans h.1

variable (replies) in
theorem transaction_ends (h : Sound p) (s intent : String) :
    Ends (transaction replies s intent) p
      (fun receipt p' => Advanced s p p' ∧ Confirmed s intent receipt p' ∧
        ∀ step, p.data.steps s = some step → step.intent = intent ∧ ¬step.Refused)
      fun _ p' => Advanced s p p' := by
  rw [transaction, ends_bind, ends_get]
  split
  · exact ends_throw.mpr (Advanced.refl h)
  · split
    · rename_i hnone
      rw [ends_bind]
      refine (submitStep_ends h hnone intent).mono ?_ fun _ _ h => h
      rintro step p₁ ⟨h₁, hstep, hstatus, rfl⟩
      refine (confirmStep_ends h₁.sound hstep (by simp [hstatus])).mono ?_ fun _ _ h => h₁.trans h
      rintro receipt p₂ ⟨h₂, hconfirmed, _⟩
      refine ⟨h₁.trans h₂, hconfirmed, fun old hold => ?_⟩
      rw [hnone] at hold
      cases hold
    · rename_i step hstep
      split
      · exact ends_throw.mpr (Advanced.refl h)
      · rename_i hintent
        obtain rfl := not_not.mp hintent
        split
        · have hextends : Extends step { step with
              status := .unknown
              failureCategory := some .preparedWithoutHash
              error := some
                "Process stopped after PREPARED before a transaction hash was journaled" } :=
            ⟨rfl, fun _ => rfl, fun _ => id, fun _ => id⟩
          exact (refusal_ends h hstep hextends rfl).mono (fun _ _ h => h) fun _ _ h => h.1
        · rename_i hprepared
          refine (confirmStep_ends h hstep hprepared).mono ?_ fun _ _ h => h
          rintro receipt p₁ ⟨h₁, hconfirmed, hknown⟩
          refine ⟨h₁, hconfirmed, fun old hold => ?_⟩
          obtain rfl := Option.some.inj (hstep.symm.trans hold)
          exact ⟨rfl, not_or.mpr ⟨hprepared, hknown⟩⟩

variable (replies) in
theorem transaction_refused (h : Sound p) {step : ChainSeedStep}
    (hstep : p.data.steps s = some step) (hrefused : step.Refused) (intent : String) :
    Ends (transaction replies s intent) p (fun _ _ => False) fun _ p' => Advanced s p p' ∧
      (∃ step', p'.data.steps s = some step' ∧ step'.Refused) ∧
      (p'.file = p.file ∨ ∃ f step', p'.file = some f ∧ f.steps s = some step' ∧ step'.Refused) := by
  have hstay : Advanced s p p ∧ (∃ step', p.data.steps s = some step' ∧ step'.Refused) ∧
      (p.file = p.file ∨ ∃ f step', p.file = some f ∧ f.steps s = some step' ∧ step'.Refused) :=
    ⟨Advanced.refl h, ⟨step, hstep, hrefused⟩, .inl rfl⟩
  rw [transaction, ends_bind, ends_get]
  split
  · exact ends_throw.mpr hstay
  · rw [hstep]
    simp only
    split
    · exact ends_throw.mpr hstay
    · split
      · have hextends : Extends step { step with
            status := .unknown
            failureCategory := some .preparedWithoutHash
            error := some
              "Process stopped after PREPARED before a transaction hash was journaled" } :=
          ⟨rfl, fun _ => rfl, fun _ => id, fun _ => id⟩
        refine (refusal_ends h hstep hextends rfl).mono (fun _ _ h => h) ?_
        rintro _ p' ⟨hadvanced, _, hstep', hfile⟩
        refine ⟨hadvanced, ⟨_, hstep', .inr rfl⟩, hfile.imp_right ?_⟩
        rintro ⟨f, hf, hfstep⟩
        exact ⟨f, _, hf, hfstep, .inr rfl⟩
      · rename_i hprepared
        have hunknown := hrefused.resolve_left hprepared
        rw [confirmStep, if_pos hunknown]
        exact ends_throw.mpr hstay

end MotorCove.Seed
