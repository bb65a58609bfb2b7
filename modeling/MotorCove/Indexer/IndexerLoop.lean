import MotorCove.Indexer.CatchUp

/-!
# The indexer's loop

The service polls until it is asked to stop. A poll that fails for the transport
marks the projections stale and is repeated after a delay that doubles up to a
maximum; any other error ends the loop. The chain moves on between polls.

Once the chain stands still, successful polls bring the tables to the target,
whatever failures come between them.
-/

set_option autoImplicit false

namespace MotorCove.Indexer
open MotorCove.Text MotorCove.Fallible MotorCove.Effects
open MotorCove.Chain (Address Deployment VehicleNFT)

structure IndexerLoopOptions where
  once : Bool
  baseDelayMs : ℕ
  maximumDelayMs : ℕ
  deriving DecidableEq, Repr

/-- The options of the service, with the defaults of the delays. -/
def IndexerLoopOptions.service (once : Bool) : IndexerLoopOptions := ⟨once, 1000, 8000⟩

/-- What the loop meets in one turn: the answers of `shouldStop` before and after
the poll, and what becomes of the chain during the wait. -/
structure Turn (σ : Type) where
  stopBefore : Bool
  stopAfter : Bool
  meanwhile : σ → σ

inductive LoopResult where
  | polling (retryDelayMs : ℕ)
  | returned
  | threw (error : IngestError)
  deriving DecidableEq, Repr

/-- A run of the loop: whether each poll succeeded, and the waits after them. -/
structure LoopRun (σ : Type) where
  world : Indexer.World σ
  polls : List Bool
  waits : List ℕ
  ended : LoopResult

/-- The message of a `ChainTransportUnavailableError`. -/
def IngestError.transportMessage : IngestError → Option String
  | .transportUnavailable operation _ => some ("CHAIN_TRANSPORT_UNAVAILABLE: " ++ operation)
  | _ => none

section
variable {σ : Type}

def World.later (w : Indexer.World σ) (meanwhile : σ → σ) : Indexer.World σ :=
  { w with chain := meanwhile w.chain }

def World.marked (w : Indexer.World σ) (reason : String) : Indexer.World σ :=
  { w with db := markStale reason w.db }

def LoopRun.after (rest : LoopRun σ) (succeeded : Bool) (wait : ℕ) : LoopRun σ :=
  { rest with polls := succeeded :: rest.polls, waits := wait :: rest.waits }

/-- The loop through the turns it is given, from a delay on. -/
def runIndexerLoop (options : IndexerLoopOptions) (poll : Ingest σ Unit) :
    List (Turn σ) → ℕ → Indexer.World σ → LoopRun σ
  | [], retryDelayMs, w => ⟨w, [], [], .polling retryDelayMs⟩
  | turn :: turns, retryDelayMs, w =>
    if turn.stopBefore = true then ⟨w, [], [], .returned⟩
    else
      match poll.run w with
      | .ok () w =>
        if options.once = true ∨ turn.stopAfter = true then ⟨w, [true], [], .returned⟩
        else (runIndexerLoop options poll turns options.baseDelayMs
          (w.later turn.meanwhile)).after true options.baseDelayMs
      | .error error w =>
        match error.transportMessage with
        | none => ⟨w, [false], [], .threw error⟩
        | some reason =>
          if options.once = true then ⟨w.marked reason, [false], [], .threw error⟩
          else if turn.stopAfter = true then ⟨w.marked reason, [false], [], .returned⟩
          else (runIndexerLoop options poll turns (min (retryDelayMs * 2) options.maximumDelayMs)
            ((w.marked reason).later turn.meanwhile)).after false retryDelayMs

/-- The delays after polls, when `failures` failures in a row came before. -/
def delays (base maximum : ℕ) : ℕ → List Bool → List ℕ
  | _, [] => []
  | _, true :: polls => base :: delays base maximum 0 polls
  | failures, false :: polls =>
    min (base * 2^failures) maximum :: delays base maximum (failures + 1) polls

theorem min_double (base maximum failures : ℕ) :
    min (min (base * 2^failures) maximum * 2) maximum = min (base * 2^(failures + 1)) maximum := by
  rw [pow_succ, ← mul_assoc]
  omega

theorem waits_eq {options : IndexerLoopOptions} {poll : Ingest σ Unit} {turns : List (Turn σ)}
    {w : Indexer.World σ} {retryDelayMs failures : ℕ}
    (hbase : options.baseDelayMs ≤ options.maximumDelayMs)
    (hdelay : retryDelayMs = min (options.baseDelayMs * 2^failures) options.maximumDelayMs) :
    let run := runIndexerLoop options poll turns retryDelayMs w
    run.waits = (delays options.baseDelayMs options.maximumDelayMs failures run.polls).take
      run.waits.length := by
  induction turns generalizing w retryDelayMs failures with
  | nil => rfl
  | cons turn turns ih =>
    simp only [runIndexerLoop]
    split
    · rfl
    · split
      · split
        · rfl
        · simp only [LoopRun.after, delays, List.length_cons, List.take_succ_cons]
          exact congrArg _ (ih (by rw [pow_zero, mul_one, min_eq_left hbase]))
      · split
        · rfl
        · split
          · rfl
          · split
            · rfl
            · simp only [LoopRun.after, delays, List.length_cons, List.take_succ_cons]
              rw [← hdelay]
              exact congrArg _ (ih (by rw [hdelay, min_double]))

theorem polls_nil {options : IndexerLoopOptions} {poll : Ingest σ Unit} {turns : List (Turn σ)}
    {w : Indexer.World σ} {retryDelayMs : ℕ}
    (h : (runIndexerLoop options poll turns retryDelayMs w).polls = []) :
    (runIndexerLoop options poll turns retryDelayMs w).world = w := by
  cases turns with
  | nil => rfl
  | cons turn turns =>
    simp only [runIndexerLoop] at h ⊢
    split at h
    · rename_i hstop
      rw [if_pos hstop]
    · split at h
      · split at h <;> simp [LoopRun.after] at h
      · split at h
        · simp at h
        · split at h
          · simp at h
          · split at h <;> simp [LoopRun.after] at h

end

section
variable {σ : Type} {evidenceDigest : Evidence → String} {store : SqliteProjectionStore}
  {reader : ChainReader σ} {F : FixedChain} {B : Blocks} {finality : Finality}
  {indexingDepth batchSize : ℕ} {d : Deployment} {render : Address → String}

/-- What a run of the loop has done since the tables it began with. -/
structure LoopRun.Did (F : FixedChain) (evidenceDigest : Evidence → String) (B : Blocks)
    (store : SqliteProjectionStore) (target : ℕ) (options : IndexerLoopOptions) (db : Database)
    (run : LoopRun σ) : Prop extends F.Keeps evidenceDigest B store target db run.world.db where
  throws : ∀ e, run.ended = .threw e → options.once = true ∧ e.Unavailable
  scanned : target < nextBlock run.world.db ∨
    nextBlock db + run.polls.count true ≤ nextBlock run.world.db
  current : run.polls.getLast? = some true → target < nextBlock run.world.db →
    db.runtimeStatus.projectionStatus.Scans →
    run.world.db.runtimeStatus.projectionStatus = .current

theorem FixedChain.Follows.marked {target : ℕ} {db : Database}
    (h : F.Follows evidenceDigest B store target db) (reason : String) :
    F.Keeps evidenceDigest B store target db (markStale reason db) := by
  have hstale : ProjectionStatus.Scans .stale := .inr (.inr (.inr rfl))
  unfold markStale
  split
  · exact ⟨h, rfl, le_rfl, fun _ => rfl, id⟩
  · exact h.keeps (.inl hstale) fun _ => hstale

theorem FixedChain.Follows.did {target : ℕ} {options : IndexerLoopOptions} {w : Indexer.World σ}
    (h : F.Follows evidenceDigest B store target w.db) {ended : LoopResult}
    (hended : ∀ e, ended ≠ .threw e) :
    LoopRun.Did F evidenceDigest B store target options w.db ⟨w, [], [], ended⟩ where
  toKeeps := ⟨h, rfl, le_rfl, fun _ => rfl, id⟩
  throws := fun e he => absurd he (hended e)
  scanned := .inr le_rfl
  current := by
    intro hlast
    cases hlast

theorem LoopRun.Did.after {target : ℕ} {options : IndexerLoopOptions} {db db₁ : Database}
    {rest : LoopRun σ} (hkeeps : F.Keeps evidenceDigest B store target db db₁)
    (hrest : rest.Did F evidenceDigest B store target options db₁) {succeeded : Bool}
    (hnil : rest.polls = [] → rest.world.db = db₁)
    (hpoll : succeeded = true → F.Advances evidenceDigest B store target target db db₁)
    (waits : List ℕ) : LoopRun.Did F evidenceDigest B store target options db
      ⟨rest.world, succeeded :: rest.polls, waits, rest.ended⟩ where
  toKeeps := hkeeps.trans hrest.toKeeps
  throws := hrest.throws
  scanned := by
    rcases hrest.scanned with hreached | hcount
    · exact .inl hreached
    · show target < nextBlock rest.world.db ∨
        nextBlock db + (succeeded :: rest.polls).count true ≤ nextBlock rest.world.db
      cases succeeded with
      | false =>
        have hle := hkeeps.next_le
        rw [List.count_cons_of_ne (by decide)]
        omega
      | true =>
        have hnext := (hpoll rfl).next
        have hle₁ := hkeeps.next_le
        have hle₂ := hrest.next_le
        rw [List.count_cons_self]
        by_cases hlow : nextBlock db ≤ target
        · have hlt := hnext hlow
          omega
        · omega
  current := by
    intro hlast hreached hfree
    change (succeeded :: rest.polls).getLast? = some true at hlast
    cases hpolls : rest.polls with
    | nil =>
      rw [hpolls] at hlast
      obtain rfl : succeeded = true := Option.some.inj hlast
      change target < nextBlock rest.world.db at hreached
      show rest.world.db.runtimeStatus.projectionStatus = .current
      rw [hnil hpolls] at hreached ⊢
      exact (hpoll rfl).current hreached rfl hfree
    | cons p ps =>
      rw [hpolls, List.getLast?_cons_cons, ← hpolls] at hlast
      exact hrest.current hlast hreached (hkeeps.free hfree)

variable (hrender : ∀ a, lower (render a) = address a)
  (hcollection : lower store.collectionAddress = address d.nft)
  (hfault : ∀ point, store.commitFaultHook point = false)
  (hhonest : Honest B reader) (havailable : F.Available reader) (hlinked : F.Linked B)
  (hreaches : F.Reaches finality indexingDepth) (hbatchSize : 1 ≤ batchSize)

include hrender hcollection hfault hhonest havailable hlinked hreaches hbatchSize

theorem runIndexerLoop_did {options : IndexerLoopOptions} {startBlock : ℕ}
    (hexec : Executes d render B startBlock) (turns : List (Turn σ)) (retryDelayMs : ℕ)
    {w : Indexer.World σ} (hstart : w.db.scanStartBlock = startBlock)
    (hfollows : F.Follows evidenceDigest B store (F.target finality indexingDepth) w.db) :
    (runIndexerLoop options (ingestRange evidenceDigest store reader batchSize startBlock
      indexingDepth none finality) turns retryDelayMs w).Did F evidenceDigest B store
        (F.target finality indexingDepth) options w.db := by
  induction turns generalizing w retryDelayMs with
  | nil => exact hfollows.did (by simp)
  | cons turn turns ih =>
    have htarget : rangeTarget none (F.target finality indexingDepth) =
        F.target finality indexingDepth := rfl
    have hpoll := ingestRange_does hrender hcollection hfault hhonest havailable hlinked hreaches
      hbatchSize htarget (w := w) (hstart ▸ hexec) hfollows
    rw [hstart] at hpoll
    simp only [runIndexerLoop]
    split
    · exact hfollows.did (by simp)
    · unfold Does Ends at hpoll
      split at hpoll
      · rename_i w₁ hrun
        have hadvances : F.Advances evidenceDigest B store (F.target finality indexingDepth)
          (F.target finality indexingDepth) w.db w₁.db := hpoll
        rw [hrun]
        simp only
        split
        · have hdone : LoopRun.Did F evidenceDigest B store (F.target finality indexingDepth)
              options w₁.db (⟨w₁, [], [], .returned⟩ : LoopRun σ) :=
            hadvances.follows.did (by simp)
          exact hdone.after hadvances.toKeeps (fun _ => rfl) (fun _ => hadvances) _
        · have hrest := ih options.baseDelayMs (w := w₁.later turn.meanwhile)
            (hadvances.start.trans hstart) hadvances.follows
          exact hrest.after hadvances.toKeeps (fun hnil => by rw [polls_nil hnil]; rfl)
            (fun _ => hadvances) _
      · rename_i error w₁ hrun
        obtain ⟨⟨_, operation, cause, rfl⟩, hkeeps⟩ := hpoll
        rw [hrun]
        simp only [IngestError.transportMessage]
        generalize "CHAIN_TRANSPORT_UNAVAILABLE: " ++ operation = reason
        have hmarked := hkeeps.trans (hkeeps.follows.marked reason)
        have hstop : ∀ ended : LoopResult,
            (∀ e, ended = .threw e → options.once = true ∧ e.Unavailable) →
            LoopRun.Did F evidenceDigest B store (F.target finality indexingDepth) options w.db
              (⟨w₁.marked reason, [false], [], ended⟩ : LoopRun σ) := fun ended hended =>
          ⟨hmarked, hended, .inr hmarked.next_le, fun h => absurd h (by simp)⟩
        split
        · rename_i honce
          exact hstop _ fun e h => ⟨honce, operation, cause, (LoopResult.threw.inj h).symm⟩
        · split
          · exact hstop _ fun e h => absurd h (by simp)
          · have hrest := ih (min (retryDelayMs * 2) options.maximumDelayMs)
              (w := (w₁.marked reason).later turn.meanwhile) (hmarked.start.trans hstart)
              hmarked.follows
            exact hrest.after hmarked (fun hnil => by rw [polls_nil hnil]; rfl)
              (fun h => absurd h (by simp)) _

end

def FixedChain.eventsTo (F : FixedChain) (B : Blocks) (first target : ℕ) : List OrderedEvent :=
  (List.range' first (target + 1 - first)).flatMap fun n => B.events (lower (F.block n).hash)

theorem FixedChain.Follows.showsTarget {evidenceDigest : Evidence → String}
    {store : SqliteProjectionStore} {F : FixedChain} {B : Blocks} {target : ℕ} {db : Database}
    {d : Deployment} {render : Address → String}
    (h : F.Follows evidenceDigest B store target db) (hlinked : F.Linked B)
    (hhead : target ≤ F.head.number) (hscanned : target < nextBlock db)
    (hrender : ∀ a, lower (render a) = address a)
    (hcollection : lower store.collectionAddress = address d.nft)
    (hexec : Executes d render B db.scanStartBlock) :
    ∃ w, RunsTo d render (F.eventsTo B db.scanStartBlock target) w ∧
      ShowsWorld d w db.projections := by
  obtain ⟨chain, hfolded⟩ := h.folded
  have hspine := hfolded.grounded.toSpine
  have hnext := hspine.nextBlock_eq
  have hlength : chain.length = target + 1 - db.scanStartBlock := by
    cases hlast : db.checkpoint.lastScanned with
    | none =>
      rw [nextBlock, hlast] at hnext hscanned
      have hempty : chain.length = 0 := by
        change db.scanStartBlock = db.scanStartBlock + chain.length at hnext
        omega
      change target < db.scanStartBlock at hscanned
      omega
    | some last =>
      have hnumber := (hspine.checkpoint_number hlast).2
      have hbelow := (h.checkpoint _ _ hlast).1
      omega
  obtain ⟨w, hruns⟩ := hfolded.grounded.runs hexec
  have hevents : B.chainEvents chain = F.eventsTo B db.scanStartBlock target := by
    rw [Blocks.chainEvents_hashes, h.hashes hlinked hhead hfolded.grounded, hlength, List.flatMap_map]
    rfl
  exact ⟨w, hevents ▸ hruns, hfolded.showsWorld hrender hcollection hruns⟩

/-- On a chain that stands still, with a client that answers or is out of reach,
the loop ends by an error only for the transport and only when it polls once.
Its waits double from failure to failure. As many successful polls as there are
blocks to scan bring the tables to the target, and once there a last successful
poll says that they are current. -/
theorem runIndexerLoop_catches_up {σ : Type} {evidenceDigest : Evidence → String}
    {store : SqliteProjectionStore} {reader : ChainReader σ} {F : FixedChain} {B : Blocks}
    {finality : Finality} {indexingDepth batchSize : ℕ} {d : Deployment}
    {render : Address → String}
    (hrender : ∀ a, lower (render a) = address a)
    (hcollection : lower store.collectionAddress = address d.nft)
    (hfault : ∀ point, store.commitFaultHook point = false)
    (hhonest : Honest B reader) (havailable : F.Available reader) (hlinked : F.Linked B)
    (hreaches : F.Reaches finality indexingDepth) (hbatchSize : 1 ≤ batchSize)
    {db : Database} (hexec : Executes d render B db.scanStartBlock)
    (hscope : InScope evidenceDigest B store.collectionAddress store.logScopeHash db)
    {status : RuntimeStatus} (hscans : status.projectionStatus.Scans)
    (hcheckpoint : ∀ number hash, db.checkpoint.lastScanned = some (number, hash) →
      number ≤ F.target finality indexingDepth ∧ hash = lower (F.block number).hash)
    {options : IndexerLoopOptions} (hdelays : options.baseDelayMs ≤ options.maximumDelayMs)
    (turns : List (Turn σ)) (chain : σ) (acts : List Act) :
    let run := runIndexerLoop options (ingestRange evidenceDigest store reader batchSize
      db.scanStartBlock indexingDepth none finality) turns options.baseDelayMs
      ⟨chain, db.setStatus status, acts⟩
    let db' := run.world.db
    (∀ e, run.ended = .threw e → options.once = true ∧ e.Unavailable) ∧
      run.waits = (delays options.baseDelayMs options.maximumDelayMs 0 run.polls).take
        run.waits.length ∧
      nextBlock db ≤ nextBlock db' ∧
      (F.target finality indexingDepth + 1 - nextBlock db ≤ run.polls.count true →
        (∃ w, RunsTo d render (F.eventsTo B db.scanStartBlock (F.target finality indexingDepth))
          w ∧ ShowsWorld d w db'.projections) ∧
        (run.polls.getLast? = some true → db'.runtimeStatus.projectionStatus = .current)) := by
  intro run db'
  obtain ⟨rows, hprojected⟩ := reachable_projected hscope.reachable
  have hfollows : F.Follows evidenceDigest B store (F.target finality indexingDepth)
      (db.setStatus status) :=
    ⟨⟨rows, (hprojected.setStatus status).folded⟩,
      ⟨hscope.scoped.rows, hscope.scoped.checkpoint⟩, .inl hscans, hcheckpoint⟩
  have hdid : run.Did F evidenceDigest B store (F.target finality indexingDepth) options
      (db.setStatus status) :=
    runIndexerLoop_did hrender hcollection hfault hhonest havailable hlinked hreaches hbatchSize
      hexec turns options.baseDelayMs (w := ⟨chain, db.setStatus status, acts⟩) rfl hfollows
  have hle : nextBlock db ≤ nextBlock db' := hdid.next_le
  refine ⟨hdid.throws, waits_eq hdelays (by rw [pow_zero, mul_one, min_eq_left hdelays]), hle, ?_⟩
  intro hcount
  have hreached : F.target finality indexingDepth < nextBlock db' := by
    rcases hdid.scanned with h | h
    · exact h
    · change nextBlock db + run.polls.count true ≤ nextBlock db' at h
      -- as many blocks as polls, unless the target was scanned before the first
      by_cases hlow : nextBlock db ≤ F.target finality indexingDepth
      · omega
      · omega
  have hstart : db'.scanStartBlock = db.scanStartBlock := hdid.start
  refine ⟨?_, fun hlast => hdid.current hlast hreached hscans⟩
  rw [← hstart] at hexec ⊢
  exact hdid.follows.showsTarget hlinked (hlinked.target_le finality indexingDepth) hreached
    hrender hcollection hexec

/-! A chain with one block, the listing and its funding, and one poll of it. -/

def fundedChain : FixedChain := ⟨fun _ => fundedHeader, fundedHeader, fundedHeader⟩

def fundedReader : ChainReader Unit where
  getHead := fun s => (.ok fundedHeader, s)
  getFinalizedHead := some fun s => (.ok fundedHeader, s)
  getBlock := fun number s => (if number = 0 then .ok fundedHeader
    else .error (.thrown ⟨some "BlockNotFoundError", none, none⟩), s)
  getEvents := fun headers s => (.ok (fundedBlocks.batchEvents headers), s)

theorem fundedBlocks_names : fundedBlocks.Names fundedHeader := ⟨rfl, lower_hex 64 0⟩

theorem fundedReader_honest : Honest fundedBlocks fundedReader := by
  have hblock : ∀ n header, Answers (fundedReader.getBlock n) header →
      n = 0 ∧ header = fundedHeader := by
    rintro n header ⟨s, hs⟩
    simp only [fundedReader] at hs
    split at hs
    · rename_i hn
      exact ⟨hn, (Except.ok.inj hs).symm⟩
    · cases hs
  constructor
  · intro n header h
    obtain ⟨rfl, rfl⟩ := hblock n header h
    rfl
  · intro n header h
    obtain ⟨rfl, rfl⟩ := hblock n header h
    exact fundedBlocks_names
  · rintro headers events ⟨s, hs⟩
    obtain rfl := Except.ok.inj hs
    have hlowered : (fundedBlocks.batchEvents headers).map lowered =
        (fundedBlocks.batchEvents headers).map id := by
      apply List.map_congr_left
      intro e he
      obtain ⟨x, _, hx⟩ := List.mem_flatMap.mp he
      exact (fundedBlocks.located _ e hx).2.2
    rw [hlowered, List.map_id]

theorem fundedReader_available : fundedChain.Available fundedReader where
  head := fun _ => .inl rfl
  finalized := ⟨_, rfl, fun _ => .inl rfl⟩
  block := by
    intro n hn s
    left
    exact if_pos (Nat.le_zero.mp hn)
  events := by
    intro headers s
    refine .inl ⟨_, rfl, fun e he => ?_⟩
    obtain ⟨x, _, hx⟩ := List.mem_flatMap.mp he
    change e ∈ (if lower x.hash = hex 64 1 then fundedEvents else []) at hx
    split at hx
    · exact fundedEvents_fit e hx
    · cases hx

theorem fundedChain_linked : fundedChain.Linked fundedBlocks where
  parent := fun n hn => absurd hn (Nat.not_lt_zero n)
  number := fun _ hn => (Nat.le_zero.mp hn).symm
  names := fun _ _ => fundedBlocks_names
  fits := fun _ _ => fundedHeader_fits
  head := rfl
  finalized := rfl
  finalized_le := le_rfl

theorem runIndexerLoop_catches_up_funded :
    let run := runIndexerLoop (.service false) (ingestRange mintDigest fundedStore fundedReader
      10 0 0 none .immediate) [⟨false, true, id⟩] 1000
      ⟨(), (registered 0 "a" (hex 64 9)).setStatus ⟨.uninitialized, none, none, none⟩, []⟩
    (∀ e, run.ended = .threw e → false = true ∧ e.Unavailable) ∧
      run.waits = (delays 1000 8000 0 run.polls).take run.waits.length ∧
      nextBlock (registered 0 "a" (hex 64 9)) ≤ nextBlock run.world.db ∧
      (1 - nextBlock (registered 0 "a" (hex 64 9)) ≤ run.polls.count true →
        (∃ w, RunsTo Chain.localDeployment address (fundedChain.eventsTo fundedBlocks 0 0) w ∧
          ShowsWorld Chain.localDeployment w run.world.db.projections) ∧
        (run.polls.getLast? = some true →
          run.world.db.runtimeStatus.projectionStatus = .current)) := by
  have hscope : InScope mintDigest fundedBlocks fundedStore.collectionAddress
      fundedStore.logScopeHash (registered 0 "a" (hex 64 9)) := .registered 0 "a" (hex 64 9)
  have hcollection : lower fundedStore.collectionAddress = address Chain.localDeployment.nft :=
    lower_address 2
  have hfault : ∀ point, fundedStore.commitFaultHook point = false := fun _ => rfl
  have hreaches : fundedChain.Reaches .immediate 0 := Nat.zero_le _
  have hcheckpoint : ∀ number hash, (registered 0 "a" (hex 64 9)).checkpoint.lastScanned =
      some (number, hash) → number ≤ fundedChain.target .immediate 0 ∧
        hash = lower (fundedChain.block number).hash :=
    fun _ _ h => absurd h (by simp [registered])
  have hdelays : (IndexerLoopOptions.service false).baseDelayMs ≤
      (IndexerLoopOptions.service false).maximumDelayMs := by decide
  have hbatchSize : 1 ≤ 10 := by decide
  exact runIndexerLoop_catches_up lower_address hcollection hfault fundedReader_honest
    fundedReader_available fundedChain_linked hreaches hbatchSize fundedBlocks_executes
    hscope (.inl rfl) hcheckpoint hdelays [⟨false, true, id⟩] () []

end MotorCove.Indexer
