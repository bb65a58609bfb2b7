import MotorCove.Indexer.IngestKept
import MotorCove.Indexer.CanonicalCoverage

/-!
# The shrinking range

The loop of a call asks for the events of a range and halves the range when the
reader fails in a way it retries. Its attempts are listed here one by one, each
with the headers it read and the answer to them, whatever the reader answers;
then what the rest of the call makes of the range that was answered.
-/

set_option autoImplicit false

namespace MotorCove.Indexer
open MotorCove.Text MotorCove.Fallible MotorCove.Effects

/-- One pass of the loop over `first` to `first + span`. -/
structure Attempt where
  span : ℕ
  headers : List BlockHeader
  answer : Except ChainError (List OrderedEvent)

section
variable {σ : Type}

def World.attempting (w : World σ) (first span : ℕ) : World σ :=
  { w with acts := w.acts ++ [.attempt first (first + span)] }

/-- The passes that got an answer, in order: each reads the headers of its own
range and asks for their events, in the state the pass before left. -/
inductive Attempts (chain : ChainReader σ) (first : ℕ) : World σ → List Attempt → World σ → Prop
  | done (w : World σ) : Attempts chain first w [] w
  | pass {w w₁ w₂ : World σ} {attempt : Attempt} {rest : List Attempt}
      (hheaders : (readHeaders chain first (attempt.span + 1)).run
        (w.attempting first attempt.span) = .ok attempt.headers w₁)
      (hanswer : (chain.getEvents attempt.headers w₁.chain).1 = attempt.answer)
      (hrest : Attempts chain first
        { w₁ with chain := (chain.getEvents attempt.headers w₁.chain).2 } rest w₂) :
      Attempts chain first w (attempt :: rest) w₂

def ChainError.isRetried (error : ChainError) : Bool :=
  error.isTransportFailure || error.isRangeLimitFailure

def Attempt.Retried (attempt : Attempt) : Prop :=
  ∃ e, attempt.answer = .error e ∧ e.isRetried = true

structure Halving (span : ℕ) (spans : List ℕ) : Prop where
  start : spans.head? = some span
  half : spans.IsChain fun a b => b = a / 2
  decreasing : spans.Pairwise fun a b => b < a

/-- How the loop ends. Only its last attempt was not retried. -/
inductive LoopEnd (chain : ChainReader σ) (first span : ℕ) (w : World σ) :
    Except IngestError (List BlockHeader × List OrderedEvent × ℕ) → World σ → Prop
  | fetched {retried : List Attempt} {last : Attempt} {events : List OrderedEvent} {w' : World σ}
      (hattempts : Attempts chain first w (retried ++ [last]) w')
      (hhalving : Halving span ((retried ++ [last]).map Attempt.span))
      (hretried : ∀ attempt ∈ retried, attempt.Retried) (hanswer : last.answer = .ok events) :
      LoopEnd chain first span w (.ok (last.headers, events, first + last.span)) w'
  | rethrown {retried : List Attempt} {last : Attempt} {e : ChainError} {w' : World σ}
      (hattempts : Attempts chain first w (retried ++ [last]) w')
      (hhalving : Halving span ((retried ++ [last]).map Attempt.span))
      (hretried : ∀ attempt ∈ retried, attempt.Retried) (hanswer : last.answer = .error e)
      (hother : e.isRetried = false) : LoopEnd chain first span w (.error (.chain e)) w'
  | exhausted {retried : List Attempt} {last : Attempt} {e : ChainError} {w' : World σ}
      (hattempts : Attempts chain first w (retried ++ [last]) w')
      (hhalving : Halving span ((retried ++ [last]).map Attempt.span))
      (hretried : ∀ attempt ∈ retried, attempt.Retried) (hanswer : last.answer = .error e)
      (hretry : e.isRetried = true) (hone : last.span = 0) :
      LoopEnd chain first span w
        (.error (if e.isTransportFailure = true then .transportUnavailable "event range" e
          else .chain e)) w'
  | unread {retried : List Attempt} {span' : ℕ} {e : IngestError} {w₁ w' : World σ}
      (hattempts : Attempts chain first w retried w₁)
      (hhalving : Halving span (retried.map Attempt.span ++ [span']))
      (hretried : ∀ attempt ∈ retried, attempt.Retried)
      (hheaders : (readHeaders chain first (span' + 1)).run (w₁.attempting first span') =
        .error e w') : LoopEnd chain first span w (.error e) w'

theorem Halving.single (span : ℕ) : Halving span [span] :=
  ⟨rfl, .singleton _, List.pairwise_singleton _ _⟩

theorem Halving.cons {span : ℕ} {spans : List ℕ} (hspan : span ≠ 0)
    (h : Halving (span / 2) spans) : Halving span (span :: spans) := by
  have hlt : span / 2 < span := Nat.div_lt_self (Nat.pos_of_ne_zero hspan) (by decide)
  obtain ⟨hstart, hhalf, hdecreasing⟩ := h
  cases spans with
  | nil => cases hstart
  | cons next rest =>
    obtain rfl := Option.some.inj hstart
    refine ⟨rfl, .cons_cons rfl hhalf, List.pairwise_cons.mpr ⟨fun b hb => ?_, hdecreasing⟩⟩
    rcases List.mem_cons.mp hb with rfl | hb
    · exact hlt
    · exact ((List.pairwise_cons.mp hdecreasing).1 b hb).trans hlt

theorem LoopEnd.retry {chain : ChainReader σ} {first span : ℕ} {w w₁ w' : World σ}
    {headers : List BlockHeader} {e : ChainError}
    {r : Except IngestError (List BlockHeader × List OrderedEvent × ℕ)}
    (hheaders : (readHeaders chain first (span + 1)).run (w.attempting first span) =
      .ok headers w₁)
    (hanswer : (chain.getEvents headers w₁.chain).1 = .error e) (hretry : e.isRetried = true)
    (hspan : span ≠ 0)
    (h : LoopEnd chain first (span / 2)
      { w₁ with chain := (chain.getEvents headers w₁.chain).2 } r w') :
    LoopEnd chain first span w r w' := by
  have hall : ∀ {retried : List Attempt}, (∀ attempt ∈ retried, attempt.Retried) →
      ∀ attempt ∈ (⟨span, headers, .error e⟩ : Attempt) :: retried, attempt.Retried := by
    intro retried hretried attempt hmem
    rcases List.mem_cons.mp hmem with rfl | hmem
    · exact ⟨e, rfl, hretry⟩
    · exact hretried attempt hmem
  have hpass : ∀ {attempts : List Attempt} {w₂ : World σ}, Attempts chain first
      { w₁ with chain := (chain.getEvents headers w₁.chain).2 } attempts w₂ →
      Attempts chain first w (⟨span, headers, .error e⟩ :: attempts) w₂ :=
    fun hattempts => .pass hheaders hanswer hattempts
  have hsnoc : ∀ {retried : List Attempt} {last : Attempt} {w₂ : World σ}, Attempts chain first
      { w₁ with chain := (chain.getEvents headers w₁.chain).2 } (retried ++ [last]) w₂ →
      Attempts chain first w ((⟨span, headers, .error e⟩ :: retried) ++ [last]) w₂ := hpass
  cases h with
  | fetched hattempts hhalving hretried hlast =>
    exact .fetched (hsnoc hattempts) (hhalving.cons hspan) (hall hretried) hlast
  | rethrown hattempts hhalving hretried hlast hother =>
    exact .rethrown (hsnoc hattempts) (hhalving.cons hspan) (hall hretried)
      hlast hother
  | exhausted hattempts hhalving hretried hlast hretry' hone =>
    exact .exhausted (hsnoc hattempts) (hhalving.cons hspan) (hall hretried)
      hlast hretry' hone
  | unread hattempts hhalving hretried hheaders' =>
    exact .unread (hpass hattempts) (hhalving.cons hspan) (hall hretried) hheaders'

theorem fetchRange_ends {chain : ChainReader σ} (first span : ℕ) (w : World σ) :
    Ends (fetchRange chain first span) w (fun r w' => LoopEnd chain first span w (.ok r) w')
      fun e w' => LoopEnd chain first span w (.error e) w' := by
  induction span using Nat.strongRecOn generalizing w with
  | ind span ih =>
    rw [fetchRange, ends_bind, ends_note, ends_bind]
    refine (ends_run (readHeaders chain first (span + 1)) (w.attempting first span)).mono
      (fun headers w₁ hheaders => ?_) fun e w₁ hheaders => ?_
    · rw [ends_bind, ends_ask]
      have honce : ∀ answer, (chain.getEvents headers w₁.chain).1 = answer →
          Attempts chain first w ([] ++ [⟨span, headers, answer⟩])
            { w₁ with chain := (chain.getEvents headers w₁.chain).2 } :=
        fun _ hanswer => .pass hheaders hanswer (.done _)
      split
      · rename_i events hevents
        exact ends_pure.mpr (.fetched (honce _ hevents) (.single span) nofun rfl)
      · rename_i e he
        split
        · rename_i hother
          refine ends_throw.mpr (.rethrown (honce _ he) (.single span) nofun rfl ?_)
          simp [ChainError.isRetried, hother]
        · rename_i hretry
          have hretry : e.isRetried = true := by
            rw [ChainError.isRetried]
            grind
          split
          · rename_i hspan
            have hend : LoopEnd chain first span w
                (.error (if e.isTransportFailure = true then .transportUnavailable "event range" e
                  else .chain e)) { w₁ with chain := (chain.getEvents headers w₁.chain).2 } :=
              .exhausted (honce _ he) (.single span) nofun rfl hretry hspan
            split
            · rename_i htransport
              rw [if_pos htransport] at hend
              exact ends_throw.mpr hend
            · rename_i htransport
              rw [if_neg htransport] at hend
              exact ends_throw.mpr hend
          · rename_i hspan
            have hlt : span / 2 < span := Nat.div_lt_self (Nat.pos_of_ne_zero hspan) (by decide)
            exact (ih (span / 2) hlt _).mono
              (fun _ _ h => h.retry hheaders he hretry hspan)
              fun _ _ h => h.retry hheaders he hretry hspan
    · exact .unread (.done w) (.single span) nofun hheaders

theorem fetchRange_db {chain : ChainReader σ} (first span : ℕ) (w : World σ) :
    Ends (fetchRange chain first span) w (fun _ w' => w'.db = w.db) fun _ w' => w'.db = w.db :=
  keeps_fetchRange (I := fun db => db = w.db) first span w rfl

theorem fetchRange_fetched {chain : ChainReader σ} (first span : ℕ) (w : World σ) :
    Ends (fetchRange chain first span) w
      (fun r _ => Fetched chain first span r.1 r.2.1 r.2.2) fun _ _ => True :=
  (fetchRange_went first span w).mono (fun _ _ h => h.choose_spec.2.2) fun _ _ _ => trivial

def Numbered (chain : ChainReader σ) : Prop :=
  ∀ number header, Answers (chain.getBlock number) header → header.number = number

theorem Read.last_number {chain : ChainReader σ} (hnumbered : Numbered chain) {first : ℕ}
    {headers : List BlockHeader} (hread : Read chain first headers) {header : BlockHeader}
    (hlast : headers.getLast? = some header) : header.number + 1 = first + headers.length := by
  induction headers generalizing first with
  | nil => cases hlast
  | cons x rest ih =>
    rw [Read, List.length_cons, List.range'_succ] at hread
    cases hread with
    | cons hx hrest =>
      cases rest with
      | nil =>
        obtain rfl := Option.some.inj hlast
        show x.number + 1 = first + 1
        rw [hnumbered first x hx]
      | cons y rest =>
        have hnext := ih hrest (by simpa using hlast)
        simp only [List.length_cons] at hnext ⊢
        omega

/-- The checkpoint is the block `last`, and a call that reads it starts at the
block after. -/
structure CheckpointAt (startBlock last : ℕ) (headers : List BlockHeader) (db : Database) :
    Prop where
  scanned : ∃ header, headers.getLast? = some header ∧
    db.checkpoint.lastScanned = some (last, lower header.hash)
  next : ∀ previous, checkpoint db = .ok previous → rangeStart startBlock previous = last + 1

theorem CheckpointAt.of_scanned {startBlock last : ℕ} {headers : List BlockHeader}
    {header : BlockHeader} {db : Database} (hfinal : headers.getLast? = some header)
    (hscanned : db.checkpoint.lastScanned = some (last, lower header.hash)) :
    CheckpointAt startBlock last headers db := by
  refine ⟨⟨header, hfinal, hscanned⟩, fun previous hprevious => ?_⟩
  have hlast := checkpoint_ok hprevious
  rw [hscanned] at hlast
  cases previous with
  | none => cases hlast
  | some c =>
    obtain ⟨hnumber, _⟩ := Prod.mk.inj (Option.some.inj hlast)
    rw [rangeStart, ← hnumber]

variable {evidenceDigest : Evidence → String} {store : SqliteProjectionStore}
  {chain : ChainReader σ}

theorem commit_scanned {headers : List BlockHeader} {events : List OrderedEvent}
    {header : BlockHeader} {db : Database}
    (hcommit : (commit evidenceDigest store headers events header db).1 = .ok ()) :
    (commit evidenceDigest store headers events header db).2.checkpoint.lastScanned =
      some (header.number, lower header.hash) :=
  congrArg (fun db : Database => db.checkpoint.lastScanned)
    (commitTransaction_frame (commit_ok (Prod.ext hcommit rfl)))

theorem commit_scanned_or_status {headers : List BlockHeader} {events : List OrderedEvent}
    {header : BlockHeader} {db : Database} :
    (∃ status, (commit evidenceDigest store headers events header db).2 = db.setStatus status) ∨
      (commit evidenceDigest store headers events header db).2.checkpoint.lastScanned =
        some (header.number, lower header.hash) := by
  rcases commit_cases (Prod.mk.eta (p := commit evidenceDigest store headers events header db)).symm
    with h | h
  · right
    exact congrArg (fun db : Database => db.checkpoint.lastScanned) (commitTransaction_frame h)
  · exact .inl h

/-- The rest of a call whose loop gave the range up to `last`: it commits this
range or leaves every table but the status as it was. -/
theorem ingestBatch_fetched (hnumbered : Numbered chain) (finality : Finality)
    (indexingDepth startBlock : ℕ) (checkpoint : Option BlockHeader)
    (eligibleTarget first span : ℕ) {w w₁ : World σ} {headers : List BlockHeader}
    {events : List OrderedEvent} {last : ℕ}
    (hloop : (fetchRange chain first span).run w = .ok (headers, events, last) w₁)
    (hfetched : Fetched chain first span headers events last) (hdb : w₁.db = w.db) :
    Ends (ingestBatch evidenceDigest store chain finality indexingDepth checkpoint eligibleTarget
        first span) w
      (fun _ w' => CheckpointAt startBlock last headers w'.db)
      fun _ w' => (∃ status, w'.db = w.db.setStatus status) ∨
        CheckpointAt startBlock last headers w'.db := by
  have hstop : ∀ {acts w₂}, Went w₁ acts w₂ → (∃ status, w₂.db = w.db.setStatus status) ∨
      CheckpointAt startBlock last headers w₂.db := by
    intro acts w₂ h
    obtain ⟨status, hstatus⟩ := h.2
    exact .inl ⟨status, by rw [hstatus, hdb]⟩
  rw [ingestBatch, ends_bind, ends_of_ok hloop]
  simp only
  rw [ends_bind]
  refine verifyHeaders_went.mono (fun _ w₂ h₂ => ?_) fun _ _ h => hstop h
  obtain ⟨rfl, -⟩ := h₂
  rw [ends_bind]
  refine verifyEvents_went.mono (fun _ w₃ h₃ => ?_) fun _ _ h => hstop h
  obtain ⟨rfl, -⟩ := h₃
  split
  · exact ends_throw.mpr (hstop (Went.refl _))
  · rename_i header hfinal
    have hnumber : header.number = last := by
      have hlast := hfetched.read.last_number hnumbered hfinal
      have hlength := hfetched.length
      have hlower := hfetched.lower
      omega
    have hat : ∀ {db : Database}, db.checkpoint.lastScanned =
        some (header.number, lower header.hash) → CheckpointAt startBlock last headers db :=
      fun h => .of_scanned hfinal (hnumber ▸ h)
    rw [ends_bind]
    refine readChain_went ((call_went _ _).mono (fun anchor w₄ h₄ => ?_) fun _ _ h _ => hstop h)
    obtain ⟨hwent, _⟩ := h₄
    split
    · exact requireRecovery_went.mono (fun _ _ h => h) fun _ _ h => hstop (hwent.trans h)
    · rw [ends_bind]
      refine (commitRange_went headers (sortEvents events) header w₄).mono (fun _ w₅ h₅ => ?_)
        fun _ w₅ h₅ => ?_
      · obtain ⟨-, hdb₅, hok⟩ := h₅
        have hscanned := hdb₅ ▸ commit_scanned hok
        split
        · have hkept : ∀ {acts w₆}, Went w₅ acts w₆ →
              CheckpointAt startBlock last headers w₆.db := by
            intro acts w₆ h
            obtain ⟨status, hstatus⟩ := h.2
            rw [hstatus]
            exact hat hscanned
          exact (publishLatest_went finality indexingDepth header w₅).mono
            (fun _ _ h => hkept h.choose_spec.1) fun _ _ h => .inr (hkept h.choose_spec.1)
        · exact ends_pure.mpr (hat hscanned)
      · obtain ⟨-, hdb₅⟩ := h₅
        rw [hdb₅]
        rcases commit_scanned_or_status with ⟨status, hstatus⟩ | hscanned
        · obtain ⟨status₄, hdb₄⟩ := hwent.2
          left
          exact ⟨status, by rw [hstatus, hdb₄, hdb]; rfl⟩
        · exact .inr (hat hscanned)

end

/-- The distance of the first range a call tries: a batch, or up to the target. -/
def initialSpan (batchSize first target : ℕ) : ℕ :=
  (if first + batchSize - 1 < target then first + batchSize - 1 else target) - first

section
variable {σ : Type} (evidenceDigest : Evidence → String) (store : SqliteProjectionStore)
  {chain : ChainReader σ}

/-- With a range to scan, the loop makes finitely many attempts over shrinking
ranges. It ends with the headers and events of one of them, which the call then
commits or drops; or it throws, and so does the call, with the tables as they were. -/
theorem range_shrinks (hnumbered : Numbered chain) {batchSize : ℕ} (hbatchSize : 1 ≤ batchSize)
    (startBlock indexingDepth : ℕ) (maximumTarget : Option ℕ) (finality : Finality)
    (checkpoint : Option BlockHeader) (head eligibleTarget : ℕ)
    (hrange : rangeStart startBlock checkpoint ≤ rangeTarget maximumTarget eligibleTarget)
    (w : World σ) :
    let first := rangeStart startBlock checkpoint
    let span := initialSpan batchSize first (rangeTarget maximumTarget eligibleTarget)
    let rest := ingestUpTo evidenceDigest store chain batchSize startBlock indexingDepth
      maximumTarget finality checkpoint head eligibleTarget
    span < batchSize ∧ first + span ≤ rangeTarget maximumTarget eligibleTarget ∧
      Ends (fetchRange chain first span) w
        (fun r w₁ => LoopEnd chain first span w (.ok r) w₁ ∧
          Fetched chain first span r.1 r.2.1 r.2.2 ∧ w₁.db = w.db ∧
          Ends rest w (fun _ w' => CheckpointAt startBlock r.2.2 r.1 w'.db)
            fun _ w' => (∃ status, w'.db = w.db.setStatus status) ∨
              CheckpointAt startBlock r.2.2 r.1 w'.db)
        fun e w₁ => LoopEnd chain first span w (.error e) w₁ ∧ w₁.db = w.db ∧
          rest.run w = .error e w₁ := by
  intro first span rest
  have hspan : span < batchSize ∧ first + span ≤ rangeTarget maximumTarget eligibleTarget := by
    show initialSpan _ _ _ < _ ∧ first + initialSpan _ _ _ ≤ _
    unfold initialSpan
    split
    · omega
    · omega
  have hrest : rest = ingestBatch evidenceDigest store chain finality indexingDepth checkpoint
      eligibleTarget first span := by
    show ingestUpTo _ _ _ _ _ _ _ _ _ _ _ = _
    unfold ingestUpTo
    simp only
    rw [if_neg, if_neg (Nat.not_lt.mpr hrange)]
    · rfl
    · rintro ⟨c, hc, hlt⟩
      obtain rfl := Option.mem_def.mp hc
      simp only [rangeStart] at hrange
      omega
  refine ⟨hspan.1, hspan.2, ?_⟩
  refine ((fetchRange_ends first span w).and ((fetchRange_fetched first span w).and
    ((fetchRange_db first span w).and (ends_run _ w)))).mono
    (fun r w₁ h => ?_) fun e w₁ h => ?_
  · obtain ⟨hend, hfetched, hdb, hloop⟩ := h
    refine ⟨hend, hfetched, hdb, ?_⟩
    rw [hrest]
    exact ingestBatch_fetched hnumbered finality indexingDepth startBlock checkpoint eligibleTarget
      first span hloop hfetched hdb
  · obtain ⟨hend, -, hdb, hloop⟩ := h
    refine ⟨hend, hdb, ?_⟩
    rw [hrest]
    exact run_bind_error hloop

end

/-! A reader that gives the events of one block at a time only. -/

def limitedChain : ChainReader Unit where
  getHead := fun s => (.ok ⟨6, hex 64 6, hex 64 5, 60⟩, s)
  getFinalizedHead := none
  getBlock := fun number s => (.ok ⟨number, hex 64 number, hex 64 (number - 1), 10 * number⟩, s)
  getEvents := fun headers s => (if headers.length = 1 then .ok []
    else .error (.thrown ⟨none, some "block range limit exceeded", none⟩), s)

theorem limitedChain_numbered : Numbered limitedChain := by
  rintro number header ⟨s, hs⟩
  obtain rfl := Except.ok.inj hs
  rfl

theorem range_shrinks_limited :
    Ends (fetchRange limitedChain 5 1) ⟨(), registered 5 "a" "b", []⟩
      (fun r w₁ => LoopEnd limitedChain 5 1 ⟨(), registered 5 "a" "b", []⟩ (.ok r) w₁)
      fun _ w₁ => w₁.db = registered 5 "a" "b" :=
  (range_shrinks mintDigest plainStore limitedChain_numbered (show 1 ≤ 2 by decide) 5 0
    none .immediate none 6 6 (by decide) ⟨(), registered 5 "a" "b", []⟩).2.2.mono
    (fun _ _ h => h.1) fun _ _ h => h.2.1

end MotorCove.Indexer
