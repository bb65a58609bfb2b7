import MotorCove.Indexer.Publication

/-!
# The batches a call commits

When a call commits, the batch should extend the checkpoint block by block, up
to the eligible head and the maximum. Every check of a batch holds for all
answers; only the numbers of the headers after the first are compared with
nothing, so the batch is exact when the reader answered with the numbers asked.
-/

set_option autoImplicit false

namespace MotorCove.Indexer
open MotorCove.Text MotorCove.Fallible MotorCove.Effects MotorCove.Traces

/-- The batch extends the previous checkpoint, or begins at the start block. -/
structure ExactBatch (startBlock : ℕ) (maximumTarget : Option ℕ) (eligibleHead : BlockHeader)
    (previous : Option BlockHeader) (headers : List BlockHeader) (events : List OrderedEvent)
    (header : BlockHeader) : Prop where
  nonempty : headers ≠ []
  numbers : headers.map BlockHeader.number =
    List.range' (rangeStart startBlock previous) headers.length
  eligible : ∀ x ∈ headers, x.number ≤ eligibleHead.number
  maximum : ∀ maximum ∈ maximumTarget, ∀ x ∈ headers, x.number ≤ maximum
  parent : ∀ c ∈ previous, ∀ x ∈ headers.head?, x.parentHash = c.hash
  linked : headers.IsChain fun a b => b.parentHash = a.hash
  final : headers.getLast? = some header
  located : ∀ e ∈ events, ∃ x ∈ headers, e.blockNumber = x.number ∧ e.blockHash = x.hash
  sorted : events.Pairwise fun a b => Before a.toEnvelope b.toEnvelope

def Act.OnCommit (P : List BlockHeader → List OrderedEvent → BlockHeader → Database → Prop) :
    Act → Prop
  | .commit headers events header found => P headers events header found
  | _ => True

/-- A commit is of an exact batch, after the store's checkpoint and up to the
eligible head read before. -/
def CommitsBatch (startBlock : ℕ) (maximumTarget : Option ℕ)
    (latest : Option ProjectionTargetObservation) (act : Act) : Prop :=
  act.OnCommit fun headers events header found =>
    ∃ observation head previous, latest = some observation ∧
      observation.eligibleHead = some head ∧ checkpoint found = .ok previous ∧
      ExactBatch startBlock maximumTarget head previous headers events header

def batchMonitor (startBlock : ℕ) (maximumTarget : Option ℕ) :
    Monitor (Option ProjectionTargetObservation) Act :=
  ⟨latestTarget, CommitsBatch startBlock maximumTarget⟩

def CommitsExact (startBlock : ℕ) (maximumTarget : Option ℕ) (acts : List Act) : Prop :=
  (batchMonitor startBlock maximumTarget).Accepts none acts

/-- The reads of headers in the attempt under way, with the numbers asked. -/
def attemptReads : List (ℕ × BlockHeader) → Act → List (ℕ × BlockHeader)
  | _, .attempt .. => []
  | reads, .block asked answer => reads ++ [(asked, answer)]
  | reads, _ => reads

/-- At a commit, the attempt's answers have the numbers asked. -/
def AnswersNumbers (reads : List (ℕ × BlockHeader)) (act : Act) : Prop :=
  act.OnCommit fun _ _ _ _ => ∀ r ∈ reads, r.2.number = r.1

def answerMonitor : Monitor (List (ℕ × BlockHeader)) Act := ⟨attemptReads, AnswersNumbers⟩

/-- The reader answered each read of a committed range with the number asked. -/
def AnsweredAsAsked (acts : List Act) : Prop := answerMonitor.Accepts [] acts

def Act.isCommit : Act → Bool
  | .commit .. => true
  | _ => false

theorem onCommit_free {acts : List Act} (hacts : ∀ a ∈ acts, a.isCommit = false)
    {P : List BlockHeader → List OrderedEvent → BlockHeader → Database → Prop} :
    ∀ a ∈ acts, a.OnCommit P := by
  intro a ha
  have hno := hacts a ha
  cases a with
  | commit _ _ _ _ => cases hno
  | target _ => trivial
  | attempt _ _ => trivial
  | block _ _ => trivial
  | markCurrent _ _ _ => trivial

theorem isRead_isCommit {acts : List Act} (hreads : ∀ a ∈ acts, a.isRead = true) :
    ∀ a ∈ acts, a.isCommit = false := by
  intro a ha
  have hread := hreads a ha
  cases a with
  | commit _ _ _ _ => cases hread
  | target _ => rfl
  | attempt _ _ => rfl
  | block _ _ => rfl
  | markCurrent _ _ _ => rfl

theorem publishes_isCommit {header : BlockHeader} {db : Database} {post : List Act}
    (hpost : Publishes header db post) : ∀ a ∈ post, a.isCommit = false := by
  cases hpost with
  | silent => simp
  | read latest => simp [Act.isCommit]
  | current status _ _ _ => simp [Act.isCommit]

theorem blockActs_reads (number : ℕ) (headers : List BlockHeader) (reads : List (ℕ × BlockHeader)) :
    (blockActs number headers).foldl attemptReads reads =
      reads ++ (List.range' number headers.length).zip headers := by
  induction headers generalizing number reads with
  | nil => simp [blockActs]
  | cons header rest ih =>
    rw [blockActs, List.foldl_cons, ih, List.length_cons, List.range'_succ, List.zip_cons_cons]
    simp [attemptReads]

theorem numbered_iff (number : ℕ) (headers : List BlockHeader) :
    (∀ r ∈ (List.range' number headers.length).zip headers, r.2.number = r.1) ↔
      headers.map BlockHeader.number = List.range' number headers.length := by
  induction headers generalizing number with
  | nil => simp
  | cons header rest ih =>
    rw [List.length_cons, List.range'_succ, List.zip_cons_cons, List.forall_mem_cons, ih,
      List.map_cons, List.cons.injEq]

theorem headerByNumber_mem {headers : List BlockHeader} {number : ℕ} {hash : String}
    (h : headerByNumber headers number = some hash) :
    ∃ x ∈ headers, number = x.number ∧ hash = x.hash := by
  obtain ⟨x, hfound, rfl⟩ := Option.map_eq_some_iff.mp h
  have hnumber := List.find?_some hfound
  have hmem := List.mem_of_find?_eq_some hfound
  exact ⟨x, List.mem_reverse.mp hmem, (of_decide_eq_true hnumber).symm, rfl⟩

theorem sortEvents_sorted (events : List OrderedEvent) :
    (sortEvents events).Pairwise fun a b => Before a.toEnvelope b.toEnvelope := by
  have : Std.Total fun a b : OrderedEvent => Before a.toEnvelope b.toEnvelope :=
    ⟨fun _ _ => before_total _ _⟩
  have : IsTrans OrderedEvent fun a b => Before a.toEnvelope b.toEnvelope :=
    ⟨fun _ _ _ => before_trans⟩
  exact List.pairwise_insertionSort _ events

/-- A batch that passed the checks is exact when its headers have the numbers
asked for. -/
theorem checked_exact {σ : Type} {chain : ChainReader σ} {previous : Option BlockHeader}
    {startBlock span last : ℕ} {maximumTarget : Option ℕ} {eligibleHead header : BlockHeader}
    {headers : List BlockHeader} {events : List OrderedEvent}
    (hspan : rangeStart startBlock previous + span ≤ rangeTarget maximumTarget eligibleHead.number)
    (hchecked : Checked chain previous (rangeStart startBlock previous) span headers events last
      header) :
    ExactBatch startBlock maximumTarget eligibleHead previous headers (sortEvents events) header ↔
      headers.map BlockHeader.number =
        List.range' (rangeStart startBlock previous) headers.length := by
  refine ⟨ExactBatch.numbers, fun hnumbers => ?_⟩
  have hlength := hchecked.length
  have hupper := hchecked.upper
  have hle := rangeTarget_le maximumTarget eligibleHead.number
  have hbelow : ∀ x ∈ headers, x.number ≤ rangeTarget maximumTarget eligibleHead.number := by
    intro x hx
    have hmem : x.number ∈ List.range' (rangeStart startBlock previous) headers.length :=
      hnumbers ▸ List.mem_map_of_mem hx
    rw [List.mem_range'_1] at hmem
    omega
  constructor
  · rintro rfl
    cases hchecked.final
  · exact hnumbers
  · exact fun x hx => (hbelow x hx).trans hle.1
  · exact fun maximum hmaximum x hx => (hbelow x hx).trans (hle.2 maximum hmaximum)
  · exact hchecked.parent
  · exact hchecked.linked
  · exact hchecked.final
  · exact fun e he => headerByNumber_mem (hchecked.located e he)
  · exact sortEvents_sorted events

theorem batchCourse_exact {σ : Type} {evidenceDigest : Evidence → String}
    {store : SqliteProjectionStore} {chain : ChainReader σ} {startBlock span : ℕ}
    {maximumTarget : Option ℕ} {previous : Option BlockHeader} {eligibleHead : BlockHeader}
    {w w' : World σ} {observation : ProjectionTargetObservation}
    (hacts : w.acts = [.target observation])
    (heligible : observation.eligibleHead = some eligibleHead)
    (hcheckpoint : checkpoint w.db = .ok previous)
    (hspan : rangeStart startBlock previous + span ≤ rangeTarget maximumTarget eligibleHead.number)
    (hbatch : BatchCourse evidenceDigest store chain previous eligibleHead.number
      (rangeStart startBlock previous) span w w') :
    CommitsExact startBlock maximumTarget w'.acts ↔ AnsweredAsAsked w'.acts := by
  have hfree : ∀ {acts : List Act}, (∀ a ∈ acts, a.isCommit = false) → ∀ latest reads,
      (batchMonitor startBlock maximumTarget).Accepts latest acts ∧
        answerMonitor.Accepts reads acts :=
    fun hno _ _ => ⟨accepts_free _ (fun a ha _ => onCommit_free hno a ha) _,
      accepts_free _ (fun a ha _ => onCommit_free hno a ha) _⟩
  cases hbatch with
  | stopped acts hread hwent =>
    rw [hwent.1, hacts]
    have hno := hfree (isRead_isCommit hread) (some observation) []
    exact iff_of_true ⟨trivial, hno.1⟩ ⟨trivial, hno.2⟩
  | @committed skipped post headers events last header status _ hskipped hchecked hacts' _ hpost =>
    have hreads : ∀ a ∈ skipped ++ .attempt (rangeStart startBlock previous) last ::
        blockActs (rangeStart startBlock previous) headers, a.isRead = true := by
      intro a ha
      rcases List.mem_append.mp ha with ha | ha
      · exact hskipped a ha
      · rcases List.mem_cons.mp ha with rfl | ha
        · rfl
        · exact blockActs_isRead _ _ a ha
    have hpost' : ∀ a ∈ post, a.isCommit = false := by
      rcases hpost with rfl | ⟨_, _, hpost⟩
      · simp
      · exact publishes_isCommit hpost
    have hread := hfree (isRead_isCommit hreads) (some observation) []
    have hlatest := reads_latestTarget hreads (some observation)
    have hanswers : (skipped ++ .attempt (rangeStart startBlock previous) last ::
        blockActs (rangeStart startBlock previous) headers).foldl attemptReads [] =
        (List.range' (rangeStart startBlock previous) headers.length).zip headers := by
      rw [List.foldl_append, List.foldl_cons, blockActs_reads]
      rfl
    have hexact := checked_exact hspan hchecked
    rw [← numbered_iff] at hexact
    rw [hacts', hacts, List.append_assoc, List.singleton_append]
    constructor
    · intro hcommits
      obtain ⟨-, hcommits⟩ := hcommits
      obtain ⟨⟨observation', head', previous', hsame, hhead, hfound, hbatch⟩, -⟩ :=
        ((accepts_append _ _ _ _).mp hcommits).2
      obtain rfl := Option.some.inj (hlatest.symm.trans hsame)
      obtain rfl := Option.some.inj (heligible.symm.trans hhead)
      obtain rfl := Except.ok.inj (hcheckpoint.symm.trans hfound)
      refine ⟨trivial, (accepts_append _ _ _ _).mpr ⟨hread.2, ?_, (hfree hpost' none _).2⟩⟩
      intro r hr
      exact hexact.mp hbatch r (hanswers ▸ hr)
    · intro hasked
      obtain ⟨-, hasked⟩ := hasked
      obtain ⟨-, hnumbers, -⟩ := (accepts_append _ _ _ _).mp hasked
      refine ⟨trivial, (accepts_append _ _ _ _).mpr ⟨hread.1, ?_, (hfree hpost' _ []).1⟩⟩
      refine ⟨observation, eligibleHead, previous, hlatest, heligible, hcheckpoint, ?_⟩
      exact hexact.mpr fun r hr => hnumbers r (hanswers.symm ▸ hr)

section
variable {σ : Type} (evidenceDigest : Evidence → String) (store : SqliteProjectionStore)
  (chain : ChainReader σ)

/-- Each batch a call commits is an exact extension of the checkpoint exactly
when the reader answered each read of a committed range with the number asked. -/
theorem commits_iff (batchSize startBlock indexingDepth : ℕ) (maximumTarget : Option ℕ)
    (finality : Finality) (s : σ) (db : Database) :
    CommitsExact startBlock maximumTarget (callActs evidenceDigest store chain batchSize startBlock
        indexingDepth maximumTarget finality s db) ↔
      AnsweredAsAsked (callActs evidenceDigest store chain batchSize startBlock indexingDepth
        maximumTarget finality s db) := by
  have hcourse := ingestRange_course evidenceDigest store chain batchSize startBlock indexingDepth
    maximumTarget finality ⟨s, db, []⟩
  unfold callActs
  generalize finalState (ingestRange evidenceDigest store chain batchSize startBlock indexingDepth
    maximumTarget finality) ⟨s, db, []⟩ = w' at hcourse ⊢
  cases hcourse with
  | unread hwent =>
    rw [hwent.1]
    exact iff_of_true trivial trivial
  | idle hwent _ =>
    rw [hwent.1]
    exact iff_of_true ⟨trivial, trivial⟩ ⟨trivial, trivial⟩
  | published _ _ hwent =>
    rw [hwent.1]
    exact iff_of_true ⟨trivial, trivial, trivial⟩ ⟨trivial, trivial, trivial⟩
  | @scanned observation eligibleHead previous span w₁ hcheckpoint heligible hspan hwent hbatch =>
    obtain ⟨hacts, status, hdb⟩ := hwent
    have hcheckpoint₁ : checkpoint w₁.db = .ok previous := hdb ▸ hcheckpoint
    exact batchCourse_exact hacts heligible hcheckpoint₁ hspan hbatch

end

/-! A reader that answers the read of block 6 with a header numbered 9. -/

def skippingHead : BlockHeader := ⟨6, "0x6", "0x5", 60⟩

def skippingChain : ChainReader Unit where
  getHead := fun s => (.ok skippingHead, s)
  getFinalizedHead := none
  getBlock := fun number s =>
    (.ok (if number = 5 then ⟨5, "0x5", "0x4", 50⟩ else ⟨9, "0x6", "0x5", 60⟩), s)
  getEvents := fun _ s => (.ok [], s)

def skippingHeaders : List BlockHeader := [⟨5, "0x5", "0x4", 50⟩, ⟨9, "0x6", "0x5", 60⟩]

theorem skipping_fetched (w : World Unit) :
    (fetchRange skippingChain 5 1).run w = .ok (skippingHeaders, [], 6)
      { w with acts := ((w.acts ++ [.attempt 5 6]) ++ [.block 5 ⟨5, "0x5", "0x4", 50⟩]) ++
        [.block 6 ⟨9, "0x6", "0x5", 60⟩] } := by
  rw [fetchRange]
  rfl

/-- The headers committed after blocks 5 and 6 were asked for have numbers 5 and 9. -/
theorem committed_skipping : ¬CommitsExact 5 none
    (callActs (fun _ => "") plainStore skippingChain 2 5 0 none .immediate ()
      (registered 5 "a" "b")) := by
  let w : World Unit := ⟨(), { registered 5 "a" "b" with
    runtimeStatus := ⟨.syncing, none, some 6, some 6⟩ }, [.target ⟨skippingHead, some skippingHead⟩]⟩
  let w₁ : World Unit := { w with acts := ((w.acts ++ [.attempt 5 6]) ++
    [.block 5 ⟨5, "0x5", "0x4", 50⟩]) ++ [.block 6 ⟨9, "0x6", "0x5", 60⟩] }
  have hbatch : callActs (fun _ => "") plainStore skippingChain 2 5 0 none .immediate ()
      (registered 5 "a" "b") = (finalState (ingestBatch (fun _ => "") plainStore skippingChain
        .immediate 0 none 6 5 1) w).acts := by
    rfl
  have hno : ∀ w₂ : World Unit, w₂.acts = w₁.acts ++ [.commit skippingHeaders []
      ⟨9, "0x6", "0x5", 60⟩ w₁.db] → ¬CommitsExact 5 none w₂.acts := by
    intro w₂ hacts
    rw [hacts]
    rintro ⟨-, -, -, -, ⟨_, _, _, _, _, _, hexact⟩, -⟩
    have hnumbers := hexact.numbers
    simp only [skippingHeaders, List.map_cons, List.map_nil, List.length_cons, List.length_nil,
      List.range'_succ, List.range'_zero, List.cons.injEq, and_true] at hnumbers
    omega
  rw [hbatch]
  refine (ends_final (Q := fun w' : World Unit => ¬CommitsExact 5 none w'.acts)).mp ?_
  rw [ingestBatch, ends_bind]
  unfold Ends
  rw [skipping_fetched w]
  show Ends (commitRange (fun _ => "") plainStore skippingHeaders [] ⟨9, "0x6", "0x5", 60⟩ >>=
    fun _ => pure ()) w₁ (fun _ w₂ => ¬CommitsExact 5 none w₂.acts)
      fun _ w₂ => ¬CommitsExact 5 none w₂.acts
  rw [ends_bind]
  exact (commitRange_went skippingHeaders [] _ w₁).mono (fun _ w₂ h => hno w₂ h.1)
    fun _ w₂ h => hno w₂ h.1

end MotorCove.Indexer
