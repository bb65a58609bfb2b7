import MotorCove.Web.FallbackQueues

/-!
# Runs of the promise queues

Over any infinite run the callers of a name take their turns one at a time and
in the order of their arrival; in a fair run each of them does.
-/

set_option autoImplicit false

namespace MotorCove.Web
open MotorCove.Promises

section
variable {ε α : Type}

/-- Caller `i` in one step. -/
inductive Moves (i : ℕ) (released : List ℕ) : Label ε α → Caller ε α → Caller ε α → Prop where
  | stays {l : Label ε α} (hbegins : l ≠ .begins i) (hsettles : ∀ outcome, l ≠ .settles i outcome)
      (c : Caller ε α) : Moves i released l c c
  | begins {c : Caller ε α} (hwaiting : c.phase = .waiting) (hturn : c.turn.Fulfilled released) :
      Moves i released (.begins i) c { c with phase := .running }
  | settles {c : Caller ε α} (hrunning : c.phase = .running) (outcome : Except ε α) :
      Moves i released (.settles i outcome) c { c with phase := .settled outcome }

theorem enqueue_kept {q : Queues ε α} {i : ℕ} {c : Caller ε α} (hc : q.At i c)
    (name : FallbackName) (wait : Bool) : (q.enqueue name wait).At i c := by
  unfold Queues.enqueue
  split
  · exact at_append.mpr (.inl hc)
  · exact at_append.mpr (.inl hc)

theorem setPhase_moves {q : Queues ε α} {i j : ℕ} {c : Caller ε α} (hc : q.At i c)
    (phase : Phase ε α) :
    (q.setPhase j phase).At i (if j = i then { c with phase } else c) :=
  at_setPhase.mpr ⟨c, hc, rfl⟩

theorem Step.moves {q q' : Queues ε α} {l : Label ε α} (h : Step q l q') {i : ℕ}
    {c : Caller ε α} (hc : q.At i c) : ∃ d, q'.At i d ∧ Moves i q.released l c d := by
  cases h with
  | arrives call =>
    rw [arrive_eq]
    exact ⟨c, enqueue_kept hc _ _, .stays (by simp) (by simp) c⟩
  | @begins j e he hwaiting hturn =>
    refine ⟨_, setPhase_moves hc .running, ?_⟩
    by_cases hij : j = i
    · subst hij
      obtain rfl := hc.unique he
      rw [if_pos rfl]
      exact .begins hwaiting hturn
    · rw [if_neg hij]
      exact .stays (by simp [hij]) (by simp) c
  | @settles j e he hrunning outcome =>
    refine ⟨_, setPhase_moves hc (.settled outcome), ?_⟩
    by_cases hij : j = i
    · subst hij
      obtain rfl := hc.unique he
      rw [if_pos rfl]
      exact .settles hrunning outcome
    · rw [if_neg hij]
      exact .stays (by simp) (by simp [hij]) c
  | idle => exact ⟨c, hc, .stays (by simp) (by simp) c⟩

theorem Step.running {q q' : Queues ε α} {i : ℕ} {outcome : Except ε α}
    (h : Step q (.settles i outcome) q') : ∃ c, q.At i c ∧ c.phase = .running := by
  cases h with
  | settles hc hrunning _ => exact ⟨_, hc, hrunning⟩

theorem enqueue_arrived (q : Queues ε α) (name : FallbackName) (wait : Bool) :
    ∃ c, (q.enqueue name wait).At q.callers.length c ∧ c.name = name ∧
      (c.phase = .refused ∧ wait = false ∧ q.tails name ≠ none ∨
        c.phase = .waiting ∧ (wait = true ∨ q.tails name = none)) := by
  unfold Queues.enqueue
  split
  · rename_i hbusy
    exact ⟨_, at_append.mpr (.inr ⟨rfl, rfl⟩), rfl,
      .inl ⟨rfl, hbusy.2, Option.isSome_iff_ne_none.mp hbusy.1⟩⟩
  · rename_i hfree
    refine ⟨_, at_append.mpr (.inr ⟨rfl, rfl⟩), rfl, .inr ⟨rfl, ?_⟩⟩
    cases wait with
    | true => exact .inl rfl
    | false =>
      right
      simpa using hfree

theorem at_enqueue {q : Queues ε α} {name : FallbackName} {wait : Bool} {i : ℕ}
    {d : Caller ε α} (hd : (q.enqueue name wait).At i d) : q.At i d ∨ i = q.callers.length := by
  unfold Queues.enqueue at hd
  split at hd
  · exact (at_append.mp hd).imp_right And.left
  · exact (at_append.mp hd).imp_right And.left

theorem Step.unsettled {q q' : Queues ε α} {l : Label ε α} (h : Step q l q') {i : ℕ}
    {d : Caller ε α} (hd : q'.At i d) (hnew : ¬∃ c, q.At i c) (outcome : Except ε α) :
    d.phase ≠ .settled outcome := by
  have hphase : ∀ (j : ℕ) (phase : Phase ε α), ¬(q.setPhase j phase).At i d := by
    intro j phase hd
    obtain ⟨c, hc, _⟩ := at_setPhase.mp hd
    exact hnew ⟨c, hc⟩
  cases h with
  | arrives call =>
    rw [arrive_eq] at hd
    rcases at_enqueue hd with hd' | rfl
    · exact absurd ⟨d, hd'⟩ hnew
    · obtain ⟨c, hc, -, hstands⟩ := enqueue_arrived q call.name call.waits
      obtain rfl := hc.unique hd
      rcases hstands with ⟨hrefused, _⟩ | ⟨hwaiting, _⟩
      · simp [hrefused]
      · simp [hwaiting]
  | begins _ _ _ => exact absurd hd (hphase _ _)
  | settles _ _ outcome' => exact absurd hd (hphase _ _)
  | idle => exact absurd ⟨d, hd⟩ hnew

section
variable {i : ℕ} {released : List ℕ} {l : Label ε α} {c d : Caller ε α}

theorem Moves.name (h : Moves i released l c d) : d.name = c.name := by
  cases h with
  | stays _ _ => rfl
  | begins _ _ => rfl
  | settles _ _ => rfl

theorem Moves.begun (h : Moves i released l c d) (hc : c.phase.Begun) : d.phase.Begun := by
  cases h with
  | stays _ _ => exact hc
  | begins _ _ => trivial
  | settles _ _ => trivial

theorem Moves.accepted (h : Moves i released l c d) (hc : c.phase.Accepted) :
    d.phase.Accepted := by
  cases h with
  | stays _ _ => exact hc
  | begins _ _ => trivial
  | settles _ _ => trivial

theorem Moves.finished (h : Moves i released l c d) (hc : c.phase.Finished) :
    d = c := by
  cases h with
  | stays _ _ => rfl
  | begins hwaiting _ =>
    rw [hwaiting] at hc
    exact hc.elim
  | settles hrunning _ =>
    rw [hrunning] at hc
    exact hc.elim

theorem Moves.of_begins (h : Moves i released (.begins i) c d) :
    c.phase = .waiting ∧ c.turn.Fulfilled released ∧ d.phase = .running := by
  cases h with
  | stays hbegins _ => exact absurd rfl hbegins
  | begins hwaiting hturn => exact ⟨hwaiting, hturn, rfl⟩

theorem Moves.of_settles {outcome : Except ε α} (h : Moves i released (.settles i outcome) c d) :
    d.phase = .settled outcome := by
  cases h with
  | stays _ hsettles => exact absurd rfl (hsettles outcome)
  | settles _ _ => rfl

theorem Moves.begins_or (h : Moves i released l c d) (hc : ¬c.phase.Begun) (hd : d.phase.Begun) :
    l = .begins i := by
  cases h with
  | stays _ _ => exact absurd hd hc
  | begins _ _ => rfl
  | settles hrunning _ => exact absurd (hrunning ▸ trivial) hc

theorem Moves.settles_or {outcome : Except ε α} (h : Moves i released l c d)
    (hc : c.phase ≠ .settled outcome) (hd : d.phase = .settled outcome) :
    l = .settles i outcome := by
  cases h with
  | stays _ _ => exact absurd hd hc
  | begins _ _ => cases hd
  | settles _ outcome' =>
    injection hd with hd
    rw [hd]

end

abbrev QueueRun (ε α : Type) := Run (Queues.empty : Queues ε α) Step

theorem QueueRun.orderly (ρ : QueueRun ε α) (n : ℕ) : Orderly (ρ.state n) :=
  ρ.invariant orderly_empty (fun _ _ _ h => h.step) n

/-- A caller keeps its place and its name, its admission and its beginning; one
that has finished stays as it is. -/
theorem QueueRun.later (ρ : QueueRun ε α) {m n i : ℕ} {c : Caller ε α} (hmn : m ≤ n)
    (hc : (ρ.state m).At i c) : ∃ d, (ρ.state n).At i d ∧ d.name = c.name ∧
      (c.phase.Accepted → d.phase.Accepted) ∧ (c.phase.Begun → d.phase.Begun) ∧
      (c.phase.Finished → d = c) := by
  refine ρ.stable (P := fun q => ∃ d, q.At i d ∧ d.name = c.name ∧
    (c.phase.Accepted → d.phase.Accepted) ∧ (c.phase.Begun → d.phase.Begun) ∧
    (c.phase.Finished → d = c)) ?_ hmn ⟨c, hc, rfl, id, id, fun _ => rfl⟩
  rintro q l q' ⟨d, hd, hname, haccepted, hbegun, hfinished⟩ hstep
  obtain ⟨e, he, hmoves⟩ := hstep.moves hd
  refine ⟨e, he, hmoves.name.trans hname, fun h => hmoves.accepted (haccepted h),
    fun h => hmoves.begun (hbegun h), fun h => ?_⟩
  obtain rfl := hfinished h
  exact hmoves.finished h

/-- Jobs of fulfilled promises run, and operations resolve or reject. -/
structure Fair (ρ : QueueRun ε α) : Prop where
  jobs : ∀ n i c, (ρ.state n).At i c → c.phase = .waiting →
    c.turn.Fulfilled (ρ.state n).released → ∃ m, n ≤ m ∧ ρ.label m = .begins i
  operations : ∀ n i c, (ρ.state n).At i c → c.phase = .running →
    ∃ m outcome, n ≤ m ∧ ρ.label m = .settles i outcome

structure Serialised (ρ : QueueRun ε α) : Prop where
  oneRunning : ∀ n i j c d, (ρ.state n).At i c → (ρ.state n).At j d → c.phase = .running →
    d.phase = .running → c.name = d.name → i = j
  /-- No caller begins twice, and none before one that arrived earlier. -/
  inOrder : ∀ m n i j c d, m < n → ρ.label m = .begins i → ρ.label n = .begins j →
    (ρ.state m).At i c → (ρ.state n).At j d → c.name = d.name → i < j
  /-- A caller has the outcome of its own operation and no other. -/
  ownOutcome : ∀ n i c outcome, (ρ.state n).At i c →
    (c.phase = .settled outcome ↔ ∃ m, m < n ∧ ρ.label m = .settles i outcome)
  /-- Who does not wait is refused exactly while an earlier caller has not finished. -/
  refused : ∀ n call, ρ.label n = .arrives call →
    ∃ c, (ρ.state (n + 1)).At (ρ.state n).callers.length c ∧ c.name = call.name ∧
      (c.phase = .refused ∧ call.waits = false ∧
          (∃ i d, (ρ.state n).At i d ∧ d.name = call.name ∧ ¬d.phase.Finished) ∨
        c.phase = .waiting ∧ (call.waits = true ∨
          ∀ i d, (ρ.state n).At i d → d.name = call.name → d.phase.Finished))
  vacant : ∀ n name, (∀ i c, (ρ.state n).At i c → c.name = name → c.phase.Finished) →
    (ρ.state n).tails name = none
  served : Fair ρ → ∀ n i c, (ρ.state n).At i c → c.phase = .waiting →
    ∃ m k outcome, n ≤ m ∧ m < k ∧ ρ.label m = .begins i ∧ ρ.label k = .settles i outcome

variable (ρ : QueueRun ε α)

theorem QueueRun.begins_at {n i : ℕ} (h : ρ.label n = .begins i) {c : Caller ε α}
    (hc : (ρ.state n).At i c) : c.phase = .waiting ∧ c.turn.Fulfilled (ρ.state n).released ∧
      ∃ d, (ρ.state (n + 1)).At i d ∧ d.name = c.name ∧ d.phase = .running := by
  obtain ⟨d, hd, hmoves⟩ := (ρ.step_at n).moves hc
  rw [h] at hmoves
  obtain ⟨hwaiting, hturn, hrunning⟩ := hmoves.of_begins
  exact ⟨hwaiting, hturn, d, hd, hmoves.name, hrunning⟩

theorem QueueRun.oneRunning {n i j : ℕ} {c d : Caller ε α} (hc : (ρ.state n).At i c)
    (hd : (ρ.state n).At j d) (hc' : c.phase = .running) (hd' : d.phase = .running)
    (hname : c.name = d.name) : i = j := by
  have h := ρ.orderly n
  rcases Nat.lt_trichotomy i j with hij | hij | hij
  · have hfinished := h.begun j d hd (hd' ▸ trivial) i c hij hc hname
    rw [hc'] at hfinished
    exact hfinished.elim
  · exact hij
  · have hfinished := h.begun i c hc (hc' ▸ trivial) j d hij hd hname.symm
    rw [hd'] at hfinished
    exact hfinished.elim

theorem QueueRun.inOrder {m n i j : ℕ} {c d : Caller ε α} (hmn : m < n)
    (hi : ρ.label m = .begins i) (hj : ρ.label n = .begins j) (hc : (ρ.state m).At i c)
    (hd : (ρ.state n).At j d) (hname : c.name = d.name) : i < j := by
  obtain ⟨-, -, e, he, hename, hrunning⟩ := ρ.begins_at hi hc
  obtain ⟨f, hf, hfname, -, hbegun, -⟩ := ρ.later hmn he
  have hbegun : f.phase.Begun := hbegun (hrunning ▸ trivial)
  have hwaiting := (ρ.begins_at hj hd).1
  rcases Nat.lt_trichotomy i j with hij | rfl | hji
  · exact hij
  · obtain rfl := hf.unique hd
    rw [hwaiting] at hbegun
    exact hbegun.elim
  · have hfinished := (ρ.orderly n).begun i f hf hbegun j d hji hd
      (hname.symm.trans (hfname.trans hename).symm)
    rw [hwaiting] at hfinished
    exact hfinished.elim

theorem QueueRun.settled_of_label {m n i : ℕ} {c : Caller ε α} {outcome : Except ε α}
    (hmn : m < n) (hlabel : ρ.label m = .settles i outcome) (hc : (ρ.state n).At i c) :
    c.phase = .settled outcome := by
  have hstep := ρ.step_at m
  rw [hlabel] at hstep
  obtain ⟨e, he, _⟩ := hstep.running
  obtain ⟨d, hd, hmoves⟩ := hstep.moves he
  have hsettled := hmoves.of_settles
  obtain ⟨f, hf, -, -, -, hkept⟩ := ρ.later hmn hd
  obtain rfl := hf.unique hc
  rw [hkept (hsettled ▸ trivial)]
  exact hsettled

theorem QueueRun.ownOutcome {n i : ℕ} {c : Caller ε α} {outcome : Except ε α}
    (hc : (ρ.state n).At i c) :
    c.phase = .settled outcome ↔ ∃ m, m < n ∧ ρ.label m = .settles i outcome := by
  constructor
  · intro hsettled
    have hstart : ¬∃ d, (ρ.state 0).At i d ∧ d.phase = .settled outcome := by
      rw [ρ.start_eq]
      rintro ⟨d, hd, _⟩
      exact absurd hd.lt (Nat.not_lt_zero i)
    obtain ⟨k, -, hkn, hbefore, d, hd, hd'⟩ := ρ.exists_change
      (P := fun q => ∃ d, q.At i d ∧ d.phase = .settled outcome) (Nat.zero_le n) hstart
      ⟨c, hc, hsettled⟩
    refine ⟨k, hkn, ?_⟩
    have hstep := ρ.step_at k
    by_cases hold : ∃ e, (ρ.state k).At i e
    · obtain ⟨e, he⟩ := hold
      obtain ⟨d', hd'', hmoves⟩ := hstep.moves he
      obtain rfl := hd.unique hd''
      exact hmoves.settles_or (fun h => hbefore ⟨e, he, h⟩) hd'
    · exact absurd hd' (hstep.unsettled hd hold outcome)
  · rintro ⟨m, hmn, hlabel⟩
    exact ρ.settled_of_label hmn hlabel hc

/-- A name has an entry exactly while one of its callers has not finished. -/
theorem Orderly.free_iff {q : Queues ε α} (h : Orderly q) (name : FallbackName) :
    q.tails name = none ↔ ∀ i c, q.At i c → c.name = name → c.phase.Finished := by
  constructor
  · exact h.vacant name
  · intro hall
    cases hfound : q.tails name with
    | none => rfl
    | some p =>
      obtain ⟨i, c, hc, hname, _, hunfinished, _⟩ := h.entry name p hfound
      exact absurd (hall i c hc hname) hunfinished

theorem QueueRun.refused {n : ℕ} {call : Call} (hlabel : ρ.label n = .arrives call) :
    ∃ c, (ρ.state (n + 1)).At (ρ.state n).callers.length c ∧ c.name = call.name ∧
      (c.phase = .refused ∧ call.waits = false ∧
          (∃ i d, (ρ.state n).At i d ∧ d.name = call.name ∧ ¬d.phase.Finished) ∨
        c.phase = .waiting ∧ (call.waits = true ∨
          ∀ i d, (ρ.state n).At i d → d.name = call.name → d.phase.Finished)) := by
  have hnext : ρ.state (n + 1) = (ρ.state n).enqueue call.name call.waits := by
    have hstep := ρ.step_at n
    rw [hlabel] at hstep
    rw [← arrive_eq]
    generalize ρ.state (n + 1) = q' at hstep
    cases hstep
    rfl
  have hfree := (ρ.orderly n).free_iff call.name
  rw [hnext]
  obtain ⟨c, hc, hname, hstands⟩ := enqueue_arrived (ρ.state n) call.name call.waits
  refine ⟨c, hc, hname, ?_⟩
  rcases hstands with ⟨hrefused, hwait, hbusy⟩ | ⟨hwaiting, hfound⟩
  · left
    rw [ne_eq, hfree] at hbusy
    push Not at hbusy
    exact ⟨hrefused, hwait, hbusy⟩
  · exact .inr ⟨hwaiting, hfound.imp_right hfree.mp⟩

section
variable {ρ} (hfair : Fair ρ)
include hfair

theorem Fair.settles {n i : ℕ} {c : Caller ε α} (hc : (ρ.state n).At i c)
    (hrunning : c.phase = .running) : ∃ m outcome, n ≤ m ∧ ρ.label m = .settles i outcome ∧
      ∃ d, (ρ.state (m + 1)).At i d ∧ d.phase.Finished := by
  obtain ⟨m, outcome, hnm, hlabel⟩ := hfair.operations n i c hc hrunning
  obtain ⟨d, hd, _⟩ := ρ.later (Nat.le_trans hnm (Nat.le_succ m)) hc
  refine ⟨m, outcome, hnm, hlabel, d, hd, ?_⟩
  rw [ρ.settled_of_label (Nat.lt_succ_self m) hlabel hd]
  trivial

omit hfair in
/-- When each of the callers before `i` finishes, they all have at some moment. -/
theorem QueueRun.all_finish {i : ℕ} (hbefore : ∀ j, j < i → ∀ n c, (ρ.state n).At j c →
    ∃ m, n ≤ m ∧ ∃ d, (ρ.state m).At j d ∧ d.phase.Finished) {n : ℕ}
    (hpresent : i ≤ (ρ.state n).callers.length) :
    ∃ m, n ≤ m ∧ ∀ j d, j < i → (ρ.state m).At j d → d.phase.Finished := by
  induction i with
  | zero => exact ⟨n, Nat.le_refl n, fun _ _ hj => absurd hj (Nat.not_lt_zero _)⟩
  | succ i ih =>
    obtain ⟨m, hnm, hall⟩ := ih (fun j hj => hbefore j (Nat.lt_succ_of_lt hj))
      (Nat.le_of_succ_le hpresent)
    have hi : (ρ.state n).At i (ρ.state n).callers[i] := List.getElem?_eq_getElem hpresent
    obtain ⟨c, hc, _⟩ := ρ.later hnm hi
    obtain ⟨m', hmm', d, hd, hfinished⟩ := hbefore i (Nat.lt_succ_self i) m c hc
    refine ⟨m', Nat.le_trans hnm hmm', fun j e hj he => ?_⟩
    rcases Nat.lt_succ_iff_lt_or_eq.mp hj with hj | rfl
    · have hj' : (ρ.state n).At j (ρ.state n).callers[j] := List.getElem?_eq_getElem (by omega)
      obtain ⟨f, hf, _⟩ := ρ.later hnm hj'
      have hf' := hall j f hj hf
      obtain ⟨g, hg, -, -, -, hkept⟩ := ρ.later hmm' hf
      obtain rfl := hg.unique he
      rw [hkept hf']
      exact hf'
    · obtain rfl := hd.unique he
      exact hfinished

theorem Fair.begins {i : ℕ} (hbefore : ∀ j, j < i → ∀ n c, (ρ.state n).At j c →
    ∃ m, n ≤ m ∧ ∃ d, (ρ.state m).At j d ∧ d.phase.Finished) {n : ℕ} {c : Caller ε α}
    (hc : (ρ.state n).At i c) (hwaiting : c.phase = .waiting) :
    ∃ m, n ≤ m ∧ ρ.label m = .begins i := by
  obtain ⟨m, hnm, hall⟩ := ρ.all_finish hbefore (Nat.le_of_lt hc.lt)
  obtain ⟨d, hd, hname, haccepted, -, -⟩ := ρ.later hnm hc
  have haccepted : d.phase.Accepted := haccepted (hwaiting ▸ trivial)
  by_cases hbegun : d.phase.Begun
  · have hnot : ¬∃ e, (ρ.state n).At i e ∧ e.phase.Begun := by
      rintro ⟨e, he, he'⟩
      obtain rfl := hc.unique he
      rw [hwaiting] at he'
      exact he'
    obtain ⟨k, hnk, -, hbefore', e, he, he'⟩ := ρ.exists_change
      (P := fun q => ∃ e, q.At i e ∧ e.phase.Begun) hnm hnot ⟨d, hd, hbegun⟩
    obtain ⟨f, hf, _⟩ := ρ.later hnk hc
    obtain ⟨e', he'', hmoves⟩ := (ρ.step_at k).moves hf
    obtain rfl := he.unique he''
    exact ⟨k, hnk, hmoves.begins_or (fun h => hbefore' ⟨f, hf, h⟩) he'⟩
  · have hwaiting' : d.phase = .waiting := by
      cases hphase : d.phase with
      | waiting => rfl
      | refused =>
        rw [hphase] at haccepted
        exact haccepted.elim
      | running => exact absurd (hphase ▸ trivial) hbegun
      | settled _ => exact absurd (hphase ▸ trivial) hbegun
    have hturn := ((ρ.orderly m).turn_fulfilled i d hd haccepted).mpr
      fun j e hj he _ => hall j e hj he
    obtain ⟨k, hmk, hlabel⟩ := hfair.jobs m i d hd hwaiting' hturn
    exact ⟨k, Nat.le_trans hnm hmk, hlabel⟩

/-- In a fair run a caller that waits begins and settles, once those before it finish. -/
theorem Fair.serves {i : ℕ} (hbefore : ∀ j, j < i → ∀ n c, (ρ.state n).At j c →
    ∃ m, n ≤ m ∧ ∃ d, (ρ.state m).At j d ∧ d.phase.Finished) {n : ℕ} {c : Caller ε α}
    (hc : (ρ.state n).At i c) (hwaiting : c.phase = .waiting) :
    ∃ m k outcome, n ≤ m ∧ m < k ∧ ρ.label m = .begins i ∧ ρ.label k = .settles i outcome ∧
      ∃ d, (ρ.state (k + 1)).At i d ∧ d.phase.Finished := by
  obtain ⟨m, hnm, hbegins⟩ := hfair.begins hbefore hc hwaiting
  obtain ⟨d, hd, _⟩ := ρ.later hnm hc
  obtain ⟨-, -, e, he, -, hrunning⟩ := ρ.begins_at hbegins hd
  obtain ⟨k, outcome, hmk, hsettles, hend⟩ := hfair.settles he hrunning
  exact ⟨m, k, outcome, hnm, hmk, hbegins, hsettles, hend⟩

theorem Fair.finishes (i : ℕ) : ∀ n c, (ρ.state n).At i c →
    ∃ m, n ≤ m ∧ ∃ d, (ρ.state m).At i d ∧ d.phase.Finished := by
  induction i using Nat.strongRecOn with
  | ind i ih =>
    intro n c hc
    cases hphase : c.phase with
    | refused => exact ⟨n, Nat.le_refl n, c, hc, hphase ▸ trivial⟩
    | settled outcome => exact ⟨n, Nat.le_refl n, c, hc, hphase ▸ trivial⟩
    | running =>
      obtain ⟨m, _, hnm, -, hend⟩ := hfair.settles hc hphase
      exact ⟨m + 1, Nat.le_trans hnm (Nat.le_succ m), hend⟩
    | waiting =>
      obtain ⟨m, k, _, hnm, hmk, -, -, hend⟩ := hfair.serves ih hc hphase
      exact ⟨k + 1, by omega, hend⟩

end

/-- The promise queues serialise the callers of each name, in every run. -/
theorem queues_serialise : Serialised ρ where
  oneRunning := fun _ _ _ _ _ => ρ.oneRunning
  inOrder := fun _ _ _ _ _ _ => ρ.inOrder
  ownOutcome := fun _ _ _ _ => ρ.ownOutcome
  refused := fun _ _ => ρ.refused
  vacant := fun n name => ((ρ.orderly n).free_iff name).mpr
  served := by
    intro hfair n i c hc hwaiting
    obtain ⟨m, k, outcome, hnm, hmk, hbegins, hsettles, -⟩ :=
      hfair.serves (fun j _ => hfair.finishes j) hc hwaiting
    exact ⟨m, k, outcome, hnm, hmk, hbegins, hsettles⟩

end

/-! Three callers of one name: the first rejects, the second does not wait and is
refused, the third takes its turn after the first. -/

/-- What a label does, where its step is possible. -/
def Queues.after {ε α : Type} (q : Queues ε α) : Label ε α → Queues ε α
  | .arrives call => q.arrive call
  | .begins i => q.setPhase i .running
  | .settles i outcome => q.callers[i]?.elim q fun c => q.leave i c outcome
  | .idle => q

def crossedLabels : List (Label String Unit) :=
  [.arrives (.run "d" "a" false), .begins 0, .arrives (.run "d" "a" false),
    .arrives (.run "d" "a" true), .settles 0 (.error "receipt unavailable"), .begins 2,
    .settles 2 (.ok ())]

def crossedState (n : ℕ) : Queues String Unit :=
  (crossedLabels.take n).foldl Queues.after .empty

theorem crossedState_later (n : ℕ) : crossedState (n + 7) = crossedState 7 := by
  have hall : crossedLabels.take (n + 7) = crossedLabels.take 7 := by
    rw [List.take_of_length_le (Nat.le_add_left 7 n), List.take_of_length_le (Nat.le_refl 7)]
  rw [crossedState, hall]
  rfl

def crossedRun : QueueRun String Unit where
  state := crossedState
  label := fun n => crossedLabels.getD n .idle
  start_eq := rfl
  step_at := fun n => match n with
    | 0 => .arrives _ _
    | 1 => .begins rfl rfl trivial
    | 2 => .arrives _ _
    | 3 => .arrives _ _
    | 4 => .settles (show (crossedState 4).At 0 _ from rfl) rfl _
    | 5 => .begins rfl rfl ⟨trivial, List.mem_singleton.mpr rfl⟩
    | 6 => .settles (show (crossedState 6).At 2 _ from rfl) rfl _
    | n + 7 => by
      show Step (crossedState (n + 7)) .idle (crossedState (n + 1 + 7))
      rw [crossedState_later, crossedState_later]
      exact .idle _

/-- Who waits or runs, moment by moment. -/
theorem crossedState_unfinished : ∀ n < 8, ∀ p ∈ (crossedState n).callers.zipIdx,
    (p.1.phase = .waiting → p.2 = 0 ∧ n ≤ 1 ∨ p.2 = 2 ∧ n ≤ 5) ∧
      (p.1.phase = .running → p.2 = 0 ∧ n ≤ 4 ∨ p.2 = 2 ∧ n ≤ 6) := by
  decide

theorem crossedRun_fair : Fair crossedRun := by
  have hcallers : ∀ n i c, (crossedState n).At i c →
      (c.phase = .waiting → i = 0 ∧ n ≤ 1 ∨ i = 2 ∧ n ≤ 5) ∧
        (c.phase = .running → i = 0 ∧ n ≤ 4 ∨ i = 2 ∧ n ≤ 6) := by
    intro n i c hc
    rcases Nat.lt_or_ge n 8 with hn | hn
    · exact crossedState_unfinished n hn (c, i) (List.mem_zipIdx_iff_getElem?.mpr hc)
    · obtain ⟨k, rfl⟩ := Nat.exists_eq_add_of_le' hn
      rw [show k + 8 = (k + 1) + 7 from rfl, crossedState_later] at hc
      have hlast := crossedState_unfinished 7 (by decide) (c, i)
        (List.mem_zipIdx_iff_getElem?.mpr hc)
      exact ⟨fun h => absurd (hlast.1 h) (by omega), fun h => absurd (hlast.2 h) (by omega)⟩
  constructor
  · intro n i c hc hwaiting _
    rcases (hcallers n i c hc).1 hwaiting with ⟨rfl, hn⟩ | ⟨rfl, hn⟩
    · exact ⟨1, hn, rfl⟩
    · exact ⟨5, hn, rfl⟩
  · intro n i c hc hrunning
    rcases (hcallers n i c hc).2 hrunning with ⟨rfl, hn⟩ | ⟨rfl, hn⟩
    · exact ⟨4, _, hn, rfl⟩
    · exact ⟨6, _, hn, rfl⟩

/-- The third caller is served after the first has rejected and the second was refused. -/
theorem queues_serialise_crossed :
    Serialised crossedRun ∧
      (crossedRun.state 7).callers.map (fun c => c.phase) =
        [.settled (.error "receipt unavailable"), .refused, .settled (.ok ())] ∧
      ∃ m k outcome, 4 ≤ m ∧ m < k ∧ crossedRun.label m = .begins 2 ∧
        crossedRun.label k = .settles 2 outcome :=
  ⟨queues_serialise crossedRun, rfl, (queues_serialise crossedRun).served crossedRun_fair 4 2 _ rfl rfl⟩

end MotorCove.Web
