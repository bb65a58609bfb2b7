import MotorCove.Traces
import MotorCove.Indexer.IngestRun
import MotorCove.Indexer.Rebuild

/-!
# What a call publishes and commits

When a call publishes CURRENT, the checkpoint should be the eligible head it
read last; when it commits, the batch should extend the checkpoint block by
block. The publication after a commit and every check of a batch hold for all
answers. The early exit compares no hash and no checkpoint, and the numbers of
the headers after the first are compared with nothing.
-/

set_option autoImplicit false

namespace MotorCove.Indexer
open MotorCove.Text MotorCove.Fallible MotorCove.Effects MotorCove.Traces

def latestTarget : Option ProjectionTargetObservation → Act → Option ProjectionTargetObservation
  | _, .target observation => some observation
  | latest, _ => latest

/-- A publication is of the store's checkpoint, and the checkpoint is the
eligible head of the target read last. The store keeps hashes in lower case. -/
def PublishesCheckpoint (latest : Option ProjectionTargetObservation) : Act → Prop
  | .markCurrent _ eligibleHead found =>
    ∃ observation head number hash, latest = some observation ∧
      observation.eligibleHead = some head ∧
      found.checkpoint.lastScanned = some (number, hash) ∧
      number = head.number ∧ hash = lower head.hash ∧ eligibleHead = number
  | _ => True

def currentMonitor : Monitor (Option ProjectionTargetObservation) Act :=
  ⟨latestTarget, PublishesCheckpoint⟩

def CurrentIsCheckpoint (acts : List Act) : Prop := currentMonitor.Accepts none acts

theorem reads_latestTarget {reads : List Act} (hreads : ∀ a ∈ reads, a.isRead = true)
    (latest : Option ProjectionTargetObservation) : reads.foldl latestTarget latest = latest := by
  refine foldl_unnoted currentMonitor (fun a ha s => ?_) latest
  have hread := hreads a ha
  cases a with
  | target _ => cases hread
  | attempt _ _ => rfl
  | block _ _ => rfl
  | commit _ _ _ _ => rfl
  | markCurrent _ _ _ => rfl

theorem reads_current {reads : List Act} (hreads : ∀ a ∈ reads, a.isRead = true)
    (latest : Option ProjectionTargetObservation) : currentMonitor.Accepts latest reads := by
  refine accepts_free currentMonitor (fun a ha s => ?_) latest
  have hread := hreads a ha
  cases a with
  | markCurrent _ _ _ => cases hread
  | target _ => trivial
  | attempt _ _ => trivial
  | block _ _ => trivial
  | commit _ _ _ _ => trivial

theorem checkpoint_ok {db : Database} {header : Option BlockHeader}
    (h : checkpoint db = .ok header) :
    db.checkpoint.lastScanned = header.map fun c => (c.number, c.hash) := by
  unfold checkpoint at h
  split at h
  · rename_i hnone
    obtain rfl := Except.ok.inj h
    exact hnone
  · rename_i number hash hsome
    split at h
    · cases h
    · obtain rfl := Except.ok.inj h
      exact hsome

/-- The early exit publishes the checkpoint exactly when it is there with the
hash of the eligible head; the numbers then agree. -/
theorem earlyExit_current {db : Database} {startBlock : ℕ} {maximumTarget : Option ℕ}
    {header : Option BlockHeader} {observation : ProjectionTargetObservation}
    {eligibleHead : BlockHeader} {observedHead : ℕ} (hcheckpoint : checkpoint db = .ok header)
    (hearly : EarlyExit startBlock maximumTarget header observation eligibleHead)
    (status : RuntimeStatus) :
    CurrentIsCheckpoint [.target observation,
        .markCurrent observedHead eligibleHead.number (db.setStatus status)] ↔
      ∃ c ∈ header, c.hash = lower eligibleHead.hash := by
  have hlast := checkpoint_ok hcheckpoint
  constructor
  · rintro ⟨_, ⟨_, head, number, hash, hsame, heligible, hscanned, _, hhash, _⟩, _⟩
    obtain rfl := Option.some.inj hsame
    obtain rfl := Option.some.inj (hearly.eligible.symm.trans heligible)
    obtain ⟨c, hc, hpair⟩ := Option.map_eq_some_iff.mp (hlast.symm.trans hscanned)
    exact ⟨c, hc, (congrArg Prod.snd hpair).trans hhash⟩
  · rintro ⟨c, hc, hhash⟩
    obtain rfl := Option.mem_def.mp hc
    have hnumber : c.number = eligibleHead.number := by
      have hbehind := hearly.behind c rfl
      have hpast := hearly.past
      simp only [rangeStart] at hpast
      omega
    exact ⟨trivial, ⟨observation, eligibleHead, c.number, c.hash, rfl, hearly.eligible, hlast,
      hnumber, hhash, hnumber.symm⟩, trivial⟩

theorem publishes_current {evidenceDigest : Evidence → String} {store : SqliteProjectionStore}
    {headers : List BlockHeader} {events : List OrderedEvent} {header : BlockHeader}
    {found : Database} {post : List Act} (latest : Option ProjectionTargetObservation)
    (hok : (commit evidenceDigest store headers events header found).1 = .ok ())
    (hpost : Publishes header (commit evidenceDigest store headers events header found).2 post) :
    currentMonitor.Accepts latest post := by
  cases hpost with
  | silent => trivial
  | read latest' => exact ⟨trivial, trivial⟩
  | current status heligible hnumber hhash =>
    have hcommit := commit_ok (Prod.ext hok rfl)
    obtain ⟨_, _, _, _, _, hdb⟩ := commitTransaction_ok hcommit
    refine ⟨trivial, ⟨_, _, header.number, lower header.hash, rfl, heligible, ?_, hnumber.symm, ?_,
      hnumber⟩, trivial⟩
    · exact congrArg (fun db : Database => db.checkpoint.lastScanned) hdb
    · rw [hhash]

theorem batchCourse_current {σ : Type} {evidenceDigest : Evidence → String}
    {store : SqliteProjectionStore} {chain : ChainReader σ} {header : Option BlockHeader}
    {eligibleTarget first span : ℕ} {w w' : World σ} {observation : ProjectionTargetObservation}
    (hacts : w.acts = [.target observation]) (hbatch : BatchCourse evidenceDigest store chain header
      eligibleTarget first span w w') : CurrentIsCheckpoint w'.acts := by
  cases hbatch with
  | stopped acts hread hwent =>
    rw [hwent.1, hacts]
    exact ⟨trivial, reads_current hread _⟩
  | @committed skipped post headers events last header status _ hskipped hchecked hacts' _ hpost =>
    have hreads : ∀ a ∈ skipped ++ .attempt first last :: blockActs first headers,
        a.isRead = true := by
      intro a ha
      rcases List.mem_append.mp ha with ha | ha
      · exact hskipped a ha
      · rcases List.mem_cons.mp ha with rfl | ha
        · rfl
        · exact blockActs_isRead _ _ a ha
    rw [hacts', hacts, List.append_assoc, CurrentIsCheckpoint, List.singleton_append, accepts_cons,
      accepts_append]
    refine ⟨trivial, reads_current hreads _, trivial, ?_⟩
    rcases hpost with rfl | ⟨_, hok, hpost⟩
    · trivial
    · exact publishes_current _ hok hpost

section
variable {σ : Type} (evidenceDigest : Evidence → String) (store : SqliteProjectionStore)
  (chain : ChainReader σ)

def callActs (batchSize startBlock indexingDepth : ℕ) (maximumTarget : Option ℕ)
    (finality : Finality) (s : σ) (db : Database) : List Act :=
  (finalState (ingestRange evidenceDigest store chain batchSize startBlock indexingDepth
    maximumTarget finality) ⟨s, db, []⟩).acts

/-- A call publishes CURRENT for its checkpoint exactly when an early exit, if
the call takes it, finds the hash of the eligible head in the checkpoint. -/
theorem current_iff (batchSize startBlock indexingDepth : ℕ) (maximumTarget : Option ℕ)
    (finality : Finality) (s : σ) (db : Database) :
    CurrentIsCheckpoint (callActs evidenceDigest store chain batchSize startBlock indexingDepth
        maximumTarget finality s db) ↔
      ∀ observation head header,
        (callActs evidenceDigest store chain batchSize startBlock indexingDepth maximumTarget
          finality s db).head? = some (.target observation) →
        checkpoint db = .ok header →
        EarlyExit startBlock maximumTarget header observation head →
        ∃ c ∈ header, c.hash = lower head.hash := by
  have hcourse := ingestRange_course evidenceDigest store chain batchSize startBlock indexingDepth
    maximumTarget finality ⟨s, db, []⟩
  unfold callActs
  generalize finalState (ingestRange evidenceDigest store chain batchSize startBlock indexingDepth
    maximumTarget finality) ⟨s, db, []⟩ = w' at hcourse ⊢
  cases hcourse with
  | unread hwent =>
    rw [hwent.1]
    exact iff_of_true trivial nofun
  | idle hwent hnot =>
    rw [hwent.1]
    refine iff_of_true ⟨trivial, trivial⟩ fun observation head header hread hcheckpoint hearly => ?_
    obtain rfl : _ = observation := by simpa using hread
    exact absurd hearly (hnot header head hcheckpoint)
  | published hcheckpoint hearly hwent =>
    rw [hwent.1]
    refine (earlyExit_current hcheckpoint hearly _).trans ⟨fun hfound => ?_, fun h => ?_⟩
    · intro observation head header hread hcheckpoint' hearly'
      obtain rfl : _ = observation := by simpa using hread
      obtain rfl := Except.ok.inj (hcheckpoint.symm.trans hcheckpoint')
      obtain rfl := Option.some.inj (hearly.eligible.symm.trans hearly'.eligible)
      exact hfound
    · exact h _ _ _ rfl hcheckpoint hearly
  | @scanned observation eligibleHead header span w₁ hcheckpoint heligible hspan hwent hbatch =>
    have hacts : w₁.acts = [.target observation] := hwent.1
    refine iff_of_true (batchCourse_current hacts hbatch) ?_
    intro observation' head header' hread hcheckpoint' hearly
    have hfirst : w'.acts.head? = some (.target observation) := by
      cases hbatch with
      | stopped acts hread hwent' => simp [hwent'.1, hacts]
      | committed hskipped hchecked hacts' hdb hpost => simp [hacts', hacts]
    obtain rfl : observation = observation' := by simpa [hfirst] using hread
    obtain rfl := Except.ok.inj (hcheckpoint.symm.trans hcheckpoint')
    obtain rfl := Option.some.inj (heligible.symm.trans hearly.eligible)
    have hpast := hearly.past
    have huncut := hearly.uncut
    omega

end

/-! A chain whose head is below the scan start. -/

def shortHead : BlockHeader := ⟨3, "0x3", "0x2", 30⟩

def shortChain : ChainReader Unit where
  getHead := fun s => (.ok shortHead, s)
  getFinalizedHead := none
  getBlock := fun _ s => (.ok shortHead, s)
  getEvents := fun _ s => (.ok [], s)

theorem shortChain_acts : callActs (fun _ => "") plainStore shortChain 100 5 0 none .immediate ()
    (registered 5 "a" "b") = [.target ⟨shortHead, some shortHead⟩,
      .markCurrent 3 3 { registered 5 "a" "b" with
        runtimeStatus := ⟨.syncing, none, some 3, some 3⟩ }] := by
  rfl

/-- CURRENT is published without a checkpoint. -/
theorem published_without_checkpoint : ¬CurrentIsCheckpoint
    (callActs (fun _ => "") plainStore shortChain 100 5 0 none .immediate ()
      (registered 5 "a" "b")) := by
  rw [shortChain_acts]
  rintro ⟨_, ⟨_, _, _, _, _, _, hscanned, _⟩, _⟩
  cases hscanned

end MotorCove.Indexer
