import Mathlib.Logic.Function.Basic
import MotorCove.Promises

/-!
# The promise queues

Without `navigator.locks` the browser serialises the callers of a name by
chained promises: each takes its turn when the tail it found is fulfilled, and
leaves its own tail for the next. A step is what one caller does without
interruption; the jobs of fulfilled promises and the ends of the operations may
come at any later moment, in any order.
-/

set_option autoImplicit false

namespace MotorCove.Web
open MotorCove.Promises

def key (deploymentId : String) : String := "motorcove:journal:v1:" ++ deploymentId

def lockKey (deploymentId : String) : String := key deploymentId ++ ":write"

def nameFor (deploymentId clientOperationId : String) : String :=
  "motorcove:transaction-observation:v1:" ++ deploymentId ++ ":" ++ clientOperationId

/-- A name in one of the two maps of promises. -/
inductive FallbackName where
  | fallbackQueues (name : String)
  | fallbackTails (name : String)
  deriving DecidableEq, Repr

/-- Where a caller stands: `refused` has the answer `acquired: false`, and an
operation that settled gives its caller the result or the rejection. -/
inductive Phase (ε α : Type) where
  | refused
  | waiting
  | running
  | settled (outcome : Except ε α)
  deriving DecidableEq

structure Caller (ε α : Type) where
  name : FallbackName
  turn : Promise
  tail : Promise
  phase : Phase ε α

/-- The callers in the order of their arrival, the maps, and the callers whose
pending promise was released. -/
structure Queues (ε α : Type) where
  callers : List (Caller ε α)
  tails : FallbackName → Option Promise
  released : List ℕ

section
variable {ε α : Type}

def Queues.empty : Queues ε α := ⟨[], fun _ => none, []⟩

/-- The synchronous part of an arrival, up to `await`. -/
def Queues.enqueue (name : FallbackName) (wait : Bool) (q : Queues ε α) : Queues ε α :=
  if (q.tails name).isSome = true ∧ wait = false then
    { q with callers := q.callers ++ [⟨name, .resolved, .resolved, .refused⟩] }
  else
    let turn := (q.tails name).getD .resolved
    let pending := Promise.deferred q.callers.length
    let tail := turn.andThen pending
    { q with
      callers := q.callers ++ [⟨name, turn, tail, .waiting⟩]
      tails := Function.update q.tails name (some tail) }

/-- The caller that arrived as the `i`-th. -/
def Queues.At (q : Queues ε α) (i : ℕ) (c : Caller ε α) : Prop := q.callers[i]? = some c

def withWriteLock (deploymentId : String) (q : Queues ε α) : Queues ε α :=
  q.enqueue (.fallbackQueues (lockKey deploymentId)) true

def BrowserTransactionObservationCoordinator.run (deploymentId clientOperationId : String)
    (wait : Bool) (q : Queues ε α) : Queues ε α :=
  q.enqueue (.fallbackTails (nameFor deploymentId clientOperationId)) wait

def Queues.setPhase (i : ℕ) (phase : Phase ε α) (q : Queues ε α) : Queues ε α :=
  { q with callers := q.callers.modify i fun c => { c with phase } }

/-- The `finally` block: release, and drop the tail if it is still the last. -/
def Queues.leave (i : ℕ) (c : Caller ε α) (outcome : Except ε α) (q : Queues ε α) : Queues ε α :=
  { q.setPhase i (.settled outcome) with
    tails := if q.tails c.name = some c.tail then Function.update q.tails c.name none else q.tails
    released := i :: q.released }

inductive Call where
  | withWriteLock (deploymentId : String)
  | run (deploymentId clientOperationId : String) (wait : Bool)
  deriving DecidableEq, Repr

def Call.name : Call → FallbackName
  | .withWriteLock deploymentId => .fallbackQueues (lockKey deploymentId)
  | .run deploymentId clientOperationId _ => .fallbackTails (nameFor deploymentId clientOperationId)

def Call.waits : Call → Bool
  | .withWriteLock _ => true
  | .run _ _ wait => wait

def Queues.arrive (q : Queues ε α) : Call → Queues ε α
  | .withWriteLock deploymentId => withWriteLock deploymentId q
  | .run deploymentId clientOperationId wait =>
    BrowserTransactionObservationCoordinator.run deploymentId clientOperationId wait q

theorem arrive_eq (q : Queues ε α) (call : Call) :
    q.arrive call = q.enqueue call.name call.waits := by
  cases call <;> rfl

inductive Label (ε α : Type) where
  | arrives (call : Call)
  | begins (i : ℕ)
  | settles (i : ℕ) (outcome : Except ε α)
  | idle

inductive Step : Queues ε α → Label ε α → Queues ε α → Prop where
  | arrives (q : Queues ε α) (call : Call) : Step q (.arrives call) (q.arrive call)
  | begins {q : Queues ε α} {i : ℕ} {c : Caller ε α} (hc : q.At i c)
      (hwaiting : c.phase = .waiting) (hturn : c.turn.Fulfilled q.released) :
      Step q (.begins i) (q.setPhase i .running)
  | settles {q : Queues ε α} {i : ℕ} {c : Caller ε α} (hc : q.At i c)
      (hrunning : c.phase = .running) (outcome : Except ε α) :
      Step q (.settles i outcome) (q.leave i c outcome)
  | idle (q : Queues ε α) : Step q .idle q

def Phase.Finished : Phase ε α → Prop
  | .refused => True
  | .settled _ => True
  | _ => False

def Phase.Begun : Phase ε α → Prop
  | .running => True
  | .settled _ => True
  | _ => False

def Phase.Accepted : Phase ε α → Prop
  | .refused => False
  | _ => True

theorem at_append {l : List (Caller ε α)} {c d : Caller ε α} {i : ℕ} :
    (l ++ [c])[i]? = some d ↔ l[i]? = some d ∨ i = l.length ∧ d = c := by
  by_cases hi : i < l.length
  · rw [List.getElem?_append_left hi]
    constructor
    · exact .inl
    · rintro (h | ⟨rfl, _⟩)
      · exact h
      · omega
  · rw [List.getElem?_append_right (Nat.le_of_not_lt hi)]
    have hnone : l[i]? = none := List.getElem?_eq_none (Nat.le_of_not_lt hi)
    rcases Nat.eq_or_lt_of_le (Nat.le_of_not_lt hi) with rfl | hlt
    · simp [eq_comm]
    · have hsub : i - l.length ≠ 0 := by omega
      rw [hnone, List.getElem?_eq_none (by simp; omega)]
      simp
      omega

theorem at_setPhase {q : Queues ε α} {i j : ℕ} {phase : Phase ε α} {d : Caller ε α} :
    (q.setPhase i phase).At j d ↔
      ∃ c, q.At j c ∧ d = if i = j then { c with phase } else c := by
  rw [Queues.At, Queues.setPhase, List.getElem?_modify]
  simp only [Option.map_eq_map, Option.map_eq_some_iff]
  exact exists_congr fun c => and_congr_right fun _ => by split <;> exact eq_comm

/-- The turn of caller `i`: the tail of the last caller let in before it, or
already resolved when every caller before it had finished. -/
def Queues.TurnOf (q : Queues ε α) (i : ℕ) (c : Caller ε α) : Prop :=
  (c.turn = .resolved ∧
    ∀ j d, j < i → q.At j d → d.name = c.name → d.phase.Finished) ∨
  ∃ j d, j < i ∧ q.At j d ∧ d.name = c.name ∧ d.phase.Accepted ∧ c.turn = d.tail ∧
    ∀ k e, j < k → k < i → q.At k e → e.name = c.name → ¬e.phase.Accepted

structure Orderly (q : Queues ε α) : Prop where
  tail : ∀ i c, q.At i c → c.phase.Accepted → c.tail = c.turn.andThen (.deferred i)
  turn : ∀ i c, q.At i c → c.phase.Accepted → q.TurnOf i c
  released : ∀ i c, q.At i c → c.phase.Accepted →
    (i ∈ q.released ↔ c.phase.Finished)
  fresh : ∀ i ∈ q.released, i < q.callers.length
  begun : ∀ i c, q.At i c → c.phase.Begun →
    ∀ j d, j < i → q.At j d → d.name = c.name → d.phase.Finished
  entry : ∀ name p, q.tails name = some p → ∃ (i : ℕ) (c : Caller ε α), q.At i c ∧ c.name = name ∧
    c.phase.Accepted ∧ ¬c.phase.Finished ∧ c.tail = p ∧
      ∀ j d, i < j → q.At j d → d.name = name → ¬d.phase.Accepted
  vacant : ∀ name, q.tails name = none →
    ∀ i c, q.At i c → c.name = name → c.phase.Finished

theorem Phase.finished_of_not_accepted {phase : Phase ε α} (h : ¬phase.Accepted) :
    phase.Finished := by
  cases phase with
  | refused => trivial
  | waiting => exact absurd trivial h
  | running => exact absurd trivial h
  | settled _ => trivial

theorem Phase.Begun.accepted {phase : Phase ε α} (h : phase.Begun) : phase.Accepted := by
  cases phase with
  | refused => exact h
  | waiting => trivial
  | running => trivial
  | settled _ => trivial

theorem Orderly.turn_fulfilled {q : Queues ε α} (h : Orderly q) (i : ℕ) :
    ∀ c, q.At i c → c.phase.Accepted → (c.turn.Fulfilled q.released ↔
      ∀ j d, j < i → q.At j d → d.name = c.name → d.phase.Finished) := by
  induction i using Nat.strongRecOn with
  | ind i ih =>
    intro c hc haccepted
    rcases h.turn i c hc haccepted with ⟨hturn, hall⟩ | ⟨j, d, hji, hd, hname, hd', hturn, hbetween⟩
    · rw [hturn]
      exact iff_of_true trivial hall
    · rw [hturn, h.tail j d hd hd', fulfilled_andThen, fulfilled_deferred, ih j hji d hd hd',
        h.released j d hd hd', hname]
      constructor
      · rintro ⟨hbefore, hfinished⟩ k e hki he hek
        rcases Nat.lt_trichotomy k j with hkj | rfl | hjk
        · exact hbefore k e hkj he hek
        · obtain rfl := Option.some.inj (hd.symm.trans he)
          exact hfinished
        · exact Phase.finished_of_not_accepted (hbetween k e hjk hki he hek)
      · intro hall
        exact ⟨fun k e hkj => hall k e (Nat.lt_trans hkj hji), hall j d hji hd hname⟩

theorem orderly_empty : Orderly (Queues.empty : Queues ε α) where
  tail := by simp [Queues.empty, Queues.At]
  turn := by simp [Queues.empty, Queues.At]
  released := by simp [Queues.empty, Queues.At]
  fresh := by simp [Queues.empty]
  begun := by simp [Queues.empty, Queues.At]
  entry := by simp [Queues.empty]
  vacant := by simp [Queues.empty, Queues.At]

theorem Queues.At.lt {q : Queues ε α} {i : ℕ} {c : Caller ε α} (h : q.At i c) :
    i < q.callers.length :=
  (List.getElem?_eq_some_iff.mp h).1

theorem Queues.At.unique {q : Queues ε α} {i : ℕ} {c d : Caller ε α} (h : q.At i c)
    (h' : q.At i d) : c = d :=
  Option.some.inj (h.symm.trans h')

theorem Orderly.refuse {q : Queues ε α} (h : Orderly q) (c : Caller ε α)
    (hc : c.phase = .refused) : Orderly { q with callers := q.callers ++ [c] } := by
  have hat : ∀ {i d}, Queues.At { q with callers := q.callers ++ [c] } i d →
      q.At i d ∨ ¬d.phase.Accepted := by
    intro i d hd
    rcases at_append.mp hd with hd | ⟨_, rfl⟩
    · exact .inl hd
    · exact .inr (hc ▸ id)
  have hold : ∀ {i d}, q.At i d → Queues.At { q with callers := q.callers ++ [c] } i d :=
    fun hd => at_append.mpr (.inl hd)
  have hall : ∀ {n : ℕ} {name : FallbackName},
      (∀ j d, j < n → q.At j d → d.name = name → d.phase.Finished) →
      ∀ j d, j < n → Queues.At { q with callers := q.callers ++ [c] } j d → d.name = name →
        d.phase.Finished := by
    intro n name hbefore j d hj hd hname
    rcases hat hd with hd | hd
    · exact hbefore j d hj hd hname
    · exact Phase.finished_of_not_accepted hd
  constructor
  · intro i d hd hd'
    exact h.tail i d ((hat hd).resolve_right (not_not_intro hd')) hd'
  · intro i d hd hd'
    rcases h.turn i d ((hat hd).resolve_right (not_not_intro hd')) hd' with
      ⟨hturn, hbefore⟩ | ⟨j, e, hji, he, hname, he', hturn, hbetween⟩
    · exact .inl ⟨hturn, hall hbefore⟩
    · refine .inr ⟨j, e, hji, hold he, hname, he', hturn, fun k f hjk hki hf hfd => ?_⟩
      rcases hat hf with hf | hf
      · exact hbetween k f hjk hki hf hfd
      · exact hf
  · intro i d hd hd'
    exact h.released i d ((hat hd).resolve_right (not_not_intro hd')) hd'
  · intro i hi
    rw [List.length_append]
    exact Nat.lt_add_right _ (h.fresh i hi)
  · intro i d hd hbegun
    exact hall (h.begun i d ((hat hd).resolve_right (not_not_intro hbegun.accepted)) hbegun)
  · intro name p hp
    obtain ⟨i, d, hd, hname, hd', hunfinished, htail, hafter⟩ := h.entry name p hp
    refine ⟨i, d, hold hd, hname, hd', hunfinished, htail, fun j e hij he hname' => ?_⟩
    rcases hat he with he | he
    · exact hafter j e hij he hname'
    · exact he
  · intro name hnone i d hd hname
    rcases hat hd with hd | hd
    · exact h.vacant name hnone i d hd hname
    · exact Phase.finished_of_not_accepted hd

theorem Orderly.accept {q : Queues ε α} (h : Orderly q) {c : Caller ε α}
    (hphase : c.phase = .waiting) (hturn : c.turn = (q.tails c.name).getD .resolved)
    (htail : c.tail = c.turn.andThen (.deferred q.callers.length)) :
    Orderly { q with
      callers := q.callers ++ [c]
      tails := Function.update q.tails c.name (some c.tail) } := by
  have hold : ∀ {i d}, i < q.callers.length → (q.callers ++ [c])[i]? = some d → q.At i d := by
    intro i d hi hd
    rcases at_append.mp hd with hd | ⟨rfl, _⟩
    · exact hd
    · omega
  have hkept : ∀ {i d}, q.At i d → (q.callers ++ [c])[i]? = some d :=
    fun hd => at_append.mpr (.inl hd)
  have hlast : (q.callers ++ [c])[q.callers.length]? = some c := at_append.mpr (.inr ⟨rfl, rfl⟩)
  have hcases : ∀ {i d}, (q.callers ++ [c])[i]? = some d →
      q.At i d ∨ i = q.callers.length ∧ d = c := at_append.mp
  constructor
  · intro i d hd hd'
    rcases hcases hd with hd | ⟨rfl, rfl⟩
    · exact h.tail i d hd hd'
    · exact htail
  · intro i d hd hd'
    rcases hcases hd with hd | ⟨rfl, rfl⟩
    · rcases h.turn i d hd hd' with ⟨hturn, hbefore⟩ | ⟨j, e, hji, he, hname, he', hturn, hbetween⟩
      · exact .inl ⟨hturn, fun j e hj he => hbefore j e hj (hold (Nat.lt_trans hj hd.lt) he)⟩
      · exact .inr ⟨j, e, hji, hkept he, hname, he', hturn,
          fun k f hjk hki hf => hbetween k f hjk hki (hold (Nat.lt_trans hki hd.lt) hf)⟩
    · cases hfound : q.tails d.name with
      | none =>
        rw [hfound] at hturn
        exact .inl ⟨hturn, fun j e hj he hname => h.vacant d.name hfound j e (hold hj he) hname⟩
      | some p =>
        rw [hfound] at hturn
        obtain ⟨j, e, he, hname, he', _, htail', hafter⟩ := h.entry d.name p hfound
        exact .inr ⟨j, e, he.lt, hkept he, hname, he', hturn.trans htail'.symm,
          fun k f hjk hk hf => hafter k f hjk (hold hk hf)⟩
  · intro i d hd hd'
    rcases hcases hd with hd | ⟨rfl, rfl⟩
    · exact h.released i d hd hd'
    · rw [hphase]
      exact iff_of_false (fun hi => Nat.lt_irrefl _ (h.fresh _ hi)) id
  · intro i hi
    rw [List.length_append]
    exact Nat.lt_add_right _ (h.fresh i hi)
  · intro i d hd hbegun j e hj he
    rcases hcases hd with hd | ⟨rfl, rfl⟩
    · exact h.begun i d hd hbegun j e hj (hold (Nat.lt_trans hj hd.lt) he)
    · rw [hphase] at hbegun
      exact hbegun.elim
  · intro name p hp
    by_cases hname : name = c.name
    · subst hname
      obtain rfl : c.tail = p := by simpa using hp
      refine ⟨_, c, hlast, rfl, by rw [hphase]; trivial, by rw [hphase]; exact id, rfl,
        fun j d hj hd => ?_⟩
      rcases hcases hd with hd | ⟨rfl, _⟩
      · exact absurd hd.lt (Nat.lt_asymm hj)
      · omega
    · obtain ⟨i, d, hd, hname', hd', hunfinished, htail', hafter⟩ :=
        h.entry name p (by simpa [hname] using hp)
      refine ⟨i, d, hkept hd, hname', hd', hunfinished, htail', fun j e hij he hename => ?_⟩
      rcases hcases he with he | ⟨_, rfl⟩
      · exact hafter j e hij he hename
      · exact absurd hename.symm hname
  · intro name hnone i d hd hdname
    have hname : name ≠ c.name := by
      rintro rfl
      simp at hnone
    rcases hcases hd with hd | ⟨_, rfl⟩
    · exact h.vacant name (by simpa [hname] using hnone) i d hd hdname
    · exact absurd hdname.symm hname

theorem Orderly.enqueue {q : Queues ε α} (h : Orderly q) (name : FallbackName) (wait : Bool) :
    Orderly (q.enqueue name wait) := by
  unfold Queues.enqueue
  split
  · exact h.refuse _ rfl
  · exact h.accept rfl rfl rfl

/-- The same caller later on: let in or not as before, and finished if it was. -/
structure Caller.Later (c d : Caller ε α) : Prop where
  name : d.name = c.name
  turn : d.turn = c.turn
  tail : d.tail = c.tail
  accepted : d.phase.Accepted ↔ c.phase.Accepted
  finished : c.phase.Finished → d.phase.Finished

theorem Caller.Later.refl (c : Caller ε α) : c.Later c := ⟨rfl, rfl, rfl, Iff.rfl, id⟩

structure Queues.Later (q q' : Queues ε α) : Prop where
  length : q'.callers.length = q.callers.length
  back : ∀ j d, q'.At j d → ∃ c, q.At j c ∧ c.Later d
  forth : ∀ j c, q.At j c → ∃ d, q'.At j d ∧ c.Later d

theorem later_setPhase {q : Queues ε α} {i : ℕ} {c : Caller ε α} (hc : q.At i c)
    (haccepted : c.phase.Accepted) (hunfinished : ¬c.phase.Finished) {phase : Phase ε α}
    (hphase : phase.Accepted) : q.Later (q.setPhase i phase) := by
  have hlater : ∀ j e, q.At j e → e.Later (if i = j then { e with phase } else e) := by
    intro j e he
    by_cases hij : i = j
    · subst hij
      obtain rfl := hc.unique he
      rw [if_pos rfl]
      exact ⟨rfl, rfl, rfl, iff_of_true hphase haccepted, fun h => absurd h hunfinished⟩
    · rw [if_neg hij]
      exact .refl e
  constructor
  · simp [Queues.setPhase]
  · intro j d hd
    obtain ⟨e, he, rfl⟩ := at_setPhase.mp hd
    exact ⟨e, he, hlater j e he⟩
  · intro j e he
    exact ⟨_, at_setPhase.mpr ⟨e, he, rfl⟩, hlater j e he⟩

theorem Queues.Later.before {q q' : Queues ε α} (h : q.Later q') {n : ℕ} {name : FallbackName}
    (hbefore : ∀ j d, j < n → q.At j d → d.name = name → d.phase.Finished) :
    ∀ j d, j < n → q'.At j d → d.name = name → d.phase.Finished := by
  intro j d hj hd hname
  obtain ⟨c, hc, hlater⟩ := h.back j d hd
  exact hlater.finished (hbefore j c hj hc (hlater.name ▸ hname))

theorem Orderly.tail_later {q q' : Queues ε α} (h : Orderly q) (hq : q.Later q') (i : ℕ)
    (d : Caller ε α) (hd : q'.At i d) (hd' : d.phase.Accepted) :
    d.tail = d.turn.andThen (.deferred i) := by
  obtain ⟨c, hc, hlater⟩ := hq.back i d hd
  rw [hlater.tail, hlater.turn]
  exact h.tail i c hc (hlater.accepted.mp hd')

theorem Orderly.turn_later {q q' : Queues ε α} (h : Orderly q) (hq : q.Later q') (i : ℕ)
    (d : Caller ε α) (hd : q'.At i d) (hd' : d.phase.Accepted) : q'.TurnOf i d := by
  obtain ⟨c, hc, hlater⟩ := hq.back i d hd
  unfold Queues.TurnOf
  rw [hlater.turn, hlater.name]
  rcases h.turn i c hc (hlater.accepted.mp hd') with
    ⟨hturn, hbefore⟩ | ⟨j, e, hji, he, hname, he', hturn, hbetween⟩
  · exact .inl ⟨hturn, hq.before hbefore⟩
  · obtain ⟨f, hf, hlater'⟩ := hq.forth j e he
    refine .inr ⟨j, f, hji, hf, hlater'.name.trans hname, hlater'.accepted.mpr he',
      hturn.trans hlater'.tail.symm, fun k g hjk hki hg hgname => ?_⟩
    obtain ⟨g', hg', hlater''⟩ := hq.back k g hg
    rw [hlater''.accepted]
    exact hbetween k g' hjk hki hg' (hlater''.name ▸ hgname)

/-- An entry stands for the last caller let in, as long as that has not finished. -/
theorem Orderly.entry_later {q q' : Queues ε α} (hq : q.Later q') {name : FallbackName}
    {p : Promise} {i : ℕ} {c : Caller ε α} (hc : q.At i c) (hname : c.name = name)
    (hc' : c.phase.Accepted) (htail : c.tail = p)
    (hafter : ∀ j d, i < j → q.At j d → d.name = name → ¬d.phase.Accepted)
    (hunfinished : ∀ d, q'.At i d → ¬d.phase.Finished) :
    ∃ (i : ℕ) (c : Caller ε α), q'.At i c ∧ c.name = name ∧ c.phase.Accepted ∧
      ¬c.phase.Finished ∧ c.tail = p ∧
        ∀ j d, i < j → q'.At j d → d.name = name → ¬d.phase.Accepted := by
  obtain ⟨d, hd, hlater⟩ := hq.forth i c hc
  refine ⟨i, d, hd, hlater.name.trans hname, hlater.accepted.mpr hc', hunfinished d hd,
    hlater.tail.trans htail, fun j e hij he hename => ?_⟩
  obtain ⟨e', he', hlater'⟩ := hq.back j e he
  rw [hlater'.accepted]
  exact hafter j e' hij he' (hlater'.name ▸ hename)

theorem Orderly.begin {q : Queues ε α} (h : Orderly q) {i : ℕ} {c : Caller ε α} (hc : q.At i c)
    (hwaiting : c.phase = .waiting) (hturn : c.turn.Fulfilled q.released) :
    Orderly (q.setPhase i .running) := by
  have haccepted : c.phase.Accepted := hwaiting ▸ trivial
  have hunfinished : ¬c.phase.Finished := hwaiting ▸ id
  have hq : q.Later (q.setPhase i .running) := later_setPhase hc haccepted hunfinished trivial
  have hfinished : ∀ {j d e}, q.At j e → (q.setPhase i .running).At j d →
      (d.phase.Finished ↔ e.phase.Finished) ∧ (d.phase.Begun → i = j ∨ e.phase.Begun) := by
    intro j d e he hd
    obtain ⟨e', he', rfl⟩ := at_setPhase.mp hd
    obtain rfl := he.unique he'
    by_cases hij : i = j
    · subst hij
      obtain rfl := hc.unique he
      rw [if_pos rfl]
      exact ⟨iff_of_false id hunfinished, fun _ => .inl rfl⟩
    · rw [if_neg hij]
      exact ⟨Iff.rfl, .inr⟩
  constructor
  · exact h.tail_later hq
  · exact h.turn_later hq
  · intro j d hd hd'
    obtain ⟨e, he, hlater⟩ := hq.back j d hd
    rw [(hfinished he hd).1]
    exact h.released j e he (hlater.accepted.mp hd')
  · intro j hj
    rw [hq.length]
    exact h.fresh j hj
  · intro j d hd hbegun
    obtain ⟨e, he, hlater⟩ := hq.back j d hd
    rw [hlater.name]
    apply hq.before
    rcases (hfinished he hd).2 hbegun with rfl | hbegun
    · obtain rfl := hc.unique he
      exact (h.turn_fulfilled i c hc haccepted).mp hturn
    · exact h.begun j e he hbegun
  · intro name p hp
    obtain ⟨j, e, he, hname, he', hunfinished', htail, hafter⟩ := h.entry name p hp
    exact Orderly.entry_later hq he hname he' htail hafter fun d hd =>
      (hfinished he hd).1.not.mpr hunfinished'
  · intro name hnone j d hd hname
    obtain ⟨e, he, hlater⟩ := hq.back j d hd
    exact hlater.finished (h.vacant name hnone j e he (hlater.name ▸ hname))

theorem Orderly.leave {q : Queues ε α} (h : Orderly q) {i : ℕ} {c : Caller ε α} (hc : q.At i c)
    (hrunning : c.phase = .running) (outcome : Except ε α) : Orderly (q.leave i c outcome) := by
  have haccepted : c.phase.Accepted := hrunning ▸ trivial
  have hunfinished : ¬c.phase.Finished := hrunning ▸ id
  have hbefore := h.begun i c hc (hrunning ▸ trivial)
  have hq : q.Later (q.leave i c outcome) := by
    obtain ⟨hlength, hback, hforth⟩ : q.Later (q.setPhase i (.settled outcome)) :=
      later_setPhase hc haccepted hunfinished trivial
    exact ⟨hlength, hback, hforth⟩
  have hfinished : ∀ {j d e}, q.At j e → (q.leave i c outcome).At j d →
      (d.phase.Finished ↔ j = i ∨ e.phase.Finished) ∧ (d.phase.Begun → e.phase.Begun) := by
    intro j d e he hd
    obtain ⟨e', he', rfl⟩ := at_setPhase.mp hd
    obtain rfl := he.unique he'
    by_cases hij : i = j
    · subst hij
      obtain rfl := hc.unique he
      rw [if_pos rfl]
      exact ⟨iff_of_true trivial (.inl rfl), fun _ => hrunning ▸ trivial⟩
    · rw [if_neg hij]
      exact ⟨by simp [Ne.symm hij], id⟩
  have hlast : ∀ {name p}, (q.leave i c outcome).tails name = some p →
      q.tails name = some p ∧ ¬(c.name = name ∧ c.tail = p) := by
    intro name p hp
    simp only [Queues.leave] at hp
    split at hp
    · by_cases hname : name = c.name
      · subst hname
        simp at hp
      · rw [Function.update_of_ne hname] at hp
        exact ⟨hp, fun hsame => hname hsame.1.symm⟩
    · rename_i hother
      refine ⟨hp, ?_⟩
      rintro ⟨rfl, rfl⟩
      exact hother hp
  constructor
  · exact h.tail_later hq
  · exact h.turn_later hq
  · intro j d hd hd'
    obtain ⟨e, he, hlater⟩ := hq.back j d hd
    rw [(hfinished he hd).1, ← h.released j e he (hlater.accepted.mp hd')]
    exact List.mem_cons
  · intro j hj
    rw [hq.length]
    rcases List.mem_cons.mp hj with rfl | hj
    · exact hc.lt
    · exact h.fresh j hj
  · intro j d hd hbegun
    obtain ⟨e, he, hlater⟩ := hq.back j d hd
    rw [hlater.name]
    exact hq.before (h.begun j e he ((hfinished he hd).2 hbegun))
  · intro name p hp
    obtain ⟨hp, hother⟩ := hlast hp
    obtain ⟨j, e, he, hname, he', hunfinished', htail, hafter⟩ := h.entry name p hp
    refine Orderly.entry_later hq he hname he' htail hafter fun d hd => ?_
    rw [(hfinished he hd).1]
    rintro (rfl | hfinished')
    · obtain rfl := hc.unique he
      exact hother ⟨hname, htail⟩
    · exact hunfinished' hfinished'
  · intro name hnone j d hd hname
    obtain ⟨e, he, hlater⟩ := hq.back j d hd
    rw [(hfinished he hd).1]
    have hename := hlater.name ▸ hname
    cases hfound : q.tails name with
    | none => exact .inr (h.vacant name hfound j e he hename)
    | some p =>
      -- the entry is gone, so it was this caller's, the last let in
      obtain ⟨rfl, rfl⟩ : c.name = name ∧ c.tail = p := by
        by_contra hother
        simp only [Queues.leave] at hnone
        split at hnone
        · rename_i hmine
          by_cases hsame : name = c.name
          · subst hsame
            exact hother ⟨rfl, Option.some.inj (hmine.symm.trans hfound)⟩
          · rw [Function.update_of_ne hsame, hfound] at hnone
            cases hnone
        · rw [hfound] at hnone
          cases hnone
      obtain ⟨k, f, hf, _, hf', _, htail, hafter⟩ := h.entry _ _ hfound
      rw [h.tail k f hf hf', h.tail i c hc haccepted] at htail
      obtain rfl : k = i := by
        injection htail with _ hid
        injection hid
      rcases Nat.lt_trichotomy j k with hjk | rfl | hkj
      · exact .inr (hbefore j e hjk he hename)
      · exact .inl rfl
      · exact .inr (Phase.finished_of_not_accepted (hafter j e hkj he hename))

theorem Orderly.step {q q' : Queues ε α} {l : Label ε α} (h : Orderly q) (hstep : Step q l q') :
    Orderly q' := by
  cases hstep with
  | arrives call =>
    rw [arrive_eq]
    exact h.enqueue _ _
  | begins hc hwaiting hturn => exact h.begin hc hwaiting hturn
  | settles hc hrunning outcome => exact h.leave hc hrunning outcome
  | idle => exact h

end
end MotorCove.Web
