import MotorCove.Indexer.Coverage
import MotorCove.Indexer.Ingest

/-!
# The courses of a call

What one call of `ingestRange` can do, whatever the reader answers: stop
without a write, publish the target it read, or hand one batch to the store and
then, at most, publish. Every claim about a call follows from this list.
-/

set_option autoImplicit false

namespace MotorCove.Indexer
open MotorCove.Text MotorCove.Fallible MotorCove.Effects

section
variable {σ α : Type}

/-- The call noted `acts` and changed nothing but the status. -/
def Went (w : World σ) (acts : List Act) (w' : World σ) : Prop :=
  w'.acts = w.acts ++ acts ∧ ∃ status, w'.db = w.db.setStatus status

theorem Went.refl (w : World σ) : Went w [] w :=
  ⟨(List.append_nil _).symm, w.db.runtimeStatus, rfl⟩

theorem Went.trans {w w' w'' : World σ} {acts acts' : List Act} (h : Went w acts w')
    (h' : Went w' acts' w'') : Went w (acts ++ acts') w'' := by
  obtain ⟨hacts, status, hdb⟩ := h
  obtain ⟨hacts', status', hdb'⟩ := h'
  exact ⟨by rw [hacts', hacts, List.append_assoc], status', by rw [hdb', hdb]; rfl⟩

def Act.isRead : Act → Bool
  | .attempt .. => true
  | .block .. => true
  | _ => false

def blockActs : ℕ → List BlockHeader → List Act
  | _, [] => []
  | number, header :: rest => .block number header :: blockActs (number + 1) rest

theorem blockActs_isRead (number : ℕ) (headers : List BlockHeader) :
    ∀ a ∈ blockActs number headers, a.isRead = true := by
  induction headers generalizing number with
  | nil =>
    intro a ha
    cases ha
  | cons header rest ih =>
    intro a ha
    rcases List.mem_cons.mp ha with rfl | ha
    · rfl
    · exact ih (number + 1) a ha

theorem ends_note {act : Act} {w : World σ} {P : Unit → World σ → Prop}
    {E : IngestError → World σ → Prop} :
    Ends (note act) w P E ↔ P () { w with acts := w.acts ++ [act] } := Iff.rfl

theorem ends_ask {read : σ → Except ChainError α × σ} {w : World σ}
    {P : Except ChainError α → World σ → Prop} {E : IngestError → World σ → Prop} :
    Ends (ask read) w P E ↔ P (read w.chain).1 { w with chain := (read w.chain).2 } := Iff.rfl

/-- An answer is one the reader gives in some state of its own. -/
def Answers (read : σ → Except ChainError α × σ) (a : α) : Prop := ∃ s, (read s).1 = .ok a

theorem call_went (read : σ → Except ChainError α × σ) (w : World σ) :
    Ends (call read) w (fun a w' => Went w [] w' ∧ Answers read a) fun _ w' => Went w [] w' := by
  rw [call, ends_bind, ends_ask]
  split
  · rename_i a ha
    exact ends_pure.mpr ⟨Went.refl w, w.chain, ha⟩
  · exact ends_throw.mpr (Went.refl w)

theorem readChain_went {operation : String} {read : Ingest σ α} {w : World σ}
    {P : α → World σ → Prop} {E : IngestError → World σ → Prop}
    (h : Ends read w P fun _ w' => ∀ e, E e w') : Ends (readChain operation read) w P E := by
  rw [readChain, ends_tryCatch]
  refine h.mono (fun _ _ ha => ha) fun e w' he => ?_
  split
  · split
    · exact ends_throw.mpr (he _)
    · exact ends_throw.mpr (he _)
  · exact ends_throw.mpr (he _)

theorem update_went {f : Database → Except StoreError Database} {w : World σ}
    (hf : ∀ db db', f db = .ok db' → ∃ status, db' = db.setStatus status) :
    Ends (update f : Ingest σ Unit) w (fun _ w' => Went w [] w') fun _ w' => Went w [] w' := by
  simp only [Ends, update, EStateM.run]
  cases hdb : f w.db with
  | ok db =>
    exact ⟨(List.append_nil _).symm, hf _ _ hdb⟩
  | error e => exact Went.refl w

theorem markRecoveryRequired_went (reason : String) (w : World σ) :
    Went w [] { w with db := markRecoveryRequired reason w.db } :=
  ⟨(List.append_nil _).symm, _, rfl⟩

theorem requireRecovery_went {reason detail : String} {w : World σ} {P : α → World σ → Prop} :
    Ends (requireRecovery reason detail : Ingest σ α) w P fun _ w' => Went w [] w' := by
  rw [requireRecovery, ends_bind, ends_modify, ends_throw]
  exact markRecoveryRequired_went reason w

theorem observe_status {head eligibleHead : ℕ} {db db' : Database}
    (h : observe head eligibleHead db = .ok db') : ∃ status, db' = db.setStatus status := by
  simp only [observe, bind_ok, Except.ok.injEq] at h
  obtain ⟨_, _, rfl⟩ := h
  exact ⟨_, rfl⟩

theorem markCurrent_status {observedHead eligibleHead : ℕ} {db db' : Database}
    (h : markCurrent observedHead eligibleHead db = .ok db') :
    ∃ status, db' = db.setStatus status := by
  simp only [markCurrent] at h
  split at h
  · obtain ⟨_, _, h⟩ := bind_ok.mp h
    obtain rfl := Except.ok.inj h
    exact ⟨_, rfl⟩
  · obtain rfl := Except.ok.inj h
    exact ⟨db.runtimeStatus, rfl⟩

end

section
variable {σ : Type} {evidenceDigest : Evidence → String} {store : SqliteProjectionStore}
  {chain : ChainReader σ}

theorem readProjectionTarget_went (finality : Finality) (indexingDepth : ℕ) (w : World σ) :
    Ends (readProjectionTarget chain finality indexingDepth) w (fun _ w' => Went w [] w')
      fun _ w' => Went w [] w' := by
  have hcall : ∀ (read : σ → Except ChainError BlockHeader × σ) (w' : World σ), Went w [] w' →
      Ends (call read) w' (fun _ w'' => Went w [] w'') fun _ w'' => Went w [] w'' :=
    fun read w' hw => (call_went read w').mono (fun _ _ h => hw.trans h.1) fun _ _ h => hw.trans h
  unfold readProjectionTarget
  split
  · exact ends_throw.mpr (Went.refl w)
  · rw [ends_bind]
    refine (hcall chain.getHead w (Went.refl w)).mono (fun observedHead w₁ h₁ => ?_) fun _ _ h => h
    cases finality with
    | immediate =>
      simp only
      split
      · exact ends_pure.mpr h₁
      · split
        · exact ends_pure.mpr h₁
        · rw [ends_bind]
          exact (hcall _ w₁ h₁).mono (fun _ _ h => ends_pure.mpr h) fun _ _ h => h
    | rpcFinalized =>
      simp only
      split
      · exact ends_throw.mpr h₁
      · rw [ends_bind]
        refine (hcall _ w₁ h₁).mono (fun eligibleHead w₂ h₂ => ?_) fun _ _ h => h
        split
        · exact ends_throw.mpr h₂
        · rw [ends_bind]
          refine (hcall _ w₂ h₂).mono (fun canonicalAtHeight w₃ h₃ => ?_) fun _ _ h => h
          split
          · exact ends_throw.mpr h₃
          · exact ends_pure.mpr h₃

theorem readTarget_went (finality : Finality) (indexingDepth : ℕ) (operation : String)
    (w : World σ) : Ends (readTarget chain finality indexingDepth operation) w
      (fun observation w' => Went w [.target observation] w') fun _ w' => Went w [] w' := by
  rw [readTarget, ends_bind, ends_tryCatch]
  have hread : Ends (readChain operation (readProjectionTarget chain finality indexingDepth)) w
      (fun _ w' => Went w [] w') fun _ w' => Went w [] w' :=
    readChain_went ((readProjectionTarget_went finality indexingDepth w).mono (fun _ _ h => h)
      fun _ _ h _ => h)
  refine hread.mono (fun observation w' h => ?_) fun e w' h => ?_
  · rw [ends_bind, ends_note, ends_pure]
    exact h.trans ⟨rfl, w'.db.runtimeStatus, rfl⟩
  · split
    · rw [ends_bind, ends_modify, ends_throw]
      exact h.trans (markRecoveryRequired_went _ w')
    · exact ends_throw.mpr h

theorem readCheckpoint_went (w : World σ) : Ends (readCheckpoint : Ingest σ _) w
    (fun header w' => w' = w ∧ checkpoint w.db = .ok header) fun _ w' => w' = w := by
  rw [readCheckpoint, ends_bind, ends_get]
  split
  · rename_i header h
    exact ends_pure.mpr ⟨rfl, h⟩
  · exact ends_throw.mpr rfl

theorem verifyCheckpoint_went (finality : Finality) (header : Option BlockHeader) (w : World σ) :
    Ends (verifyCheckpoint chain finality header) w (fun _ w' => Went w [] w')
      fun _ w' => Went w [] w' := by
  cases header with
  | none => exact ends_pure.mpr (Went.refl w)
  | some header =>
    have hread : Went w [] { w with chain := (chain.getBlock header.number w.chain).2 } :=
      Went.refl w
    rw [verifyCheckpoint, ends_bind, ends_ask]
    split
    · split
      · exact ends_throw.mpr hread
      · split
        · exact ends_throw.mpr hread
        · exact requireRecovery_went
    · split
      · exact requireRecovery_went
      · exact ends_pure.mpr hread

theorem publish_went (observedHead eligibleHead : ℕ) (w : World σ) :
    Ends (publish observedHead eligibleHead) w
      (fun _ w' => Went w [.markCurrent observedHead eligibleHead w.db] w')
      fun _ w' => Went w [.markCurrent observedHead eligibleHead w.db] w' := by
  rw [publish, ends_bind, ends_get, ends_bind, ends_note]
  have hnoted : Went w [.markCurrent observedHead eligibleHead w.db]
      { w with acts := w.acts ++ [.markCurrent observedHead eligibleHead w.db] } :=
    ⟨rfl, w.db.runtimeStatus, rfl⟩
  exact (update_went fun _ _ => markCurrent_status).mono (fun _ _ h => hnoted.trans h)
    fun _ _ h => hnoted.trans h

/-- The headers are the answers to reads of consecutive numbers. -/
def Read (chain : ChainReader σ) (number : ℕ) (headers : List BlockHeader) : Prop :=
  List.Forall₂ (fun n header => Answers (chain.getBlock n) header)
    (List.range' number headers.length) headers

theorem readHeaders_went (number count : ℕ) (w : World σ) :
    Ends (readHeaders chain number count) w
      (fun headers w' => Went w (blockActs number headers) w' ∧ headers.length = count ∧
        Read chain number headers)
      fun _ w' => ∃ acts, Went w acts w' ∧ ∀ a ∈ acts, a.isRead = true := by
  induction count generalizing number w with
  | zero => exact ends_pure.mpr ⟨Went.refl w, rfl, .nil⟩
  | succ count ih =>
    rw [readHeaders, ends_bind]
    refine readChain_went ((call_went (chain.getBlock number) w).mono (fun header w₁ h₁ => ?_)
      fun _ w₁ h₁ _ => ⟨[], h₁, nofun⟩)
    have hnoted : Went w [.block number header]
        { w₁ with acts := w₁.acts ++ [.block number header] } :=
      h₁.1.trans ⟨rfl, w₁.db.runtimeStatus, rfl⟩
    rw [ends_bind, ends_note, ends_bind]
    refine (ih (number + 1) _).mono (fun rest w₂ h₂ => ?_) fun _ w₂ h₂ => ?_
    · obtain ⟨hwent, hlength, hread⟩ := h₂
      refine ends_pure.mpr ⟨hnoted.trans hwent, by rw [List.length_cons, hlength], ?_⟩
      rw [Read, List.length_cons, List.range'_succ]
      exact .cons h₁.2 hread
    · obtain ⟨acts, hwent, hread⟩ := h₂
      refine ⟨.block number header :: acts, hnoted.trans hwent, fun a ha => ?_⟩
      rcases List.mem_cons.mp ha with rfl | ha
      · rfl
      · exact hread a ha

/-- The loop ends with the headers and events of its last attempt. -/
structure Fetched (chain : ChainReader σ) (first span : ℕ) (headers : List BlockHeader)
    (events : List OrderedEvent) (last : ℕ) : Prop where
  lower : first ≤ last
  upper : last ≤ first + span
  length : headers.length = last - first + 1
  read : Read chain first headers
  answered : Answers (chain.getEvents headers) events

theorem fetchRange_went (first span : ℕ) (w : World σ) :
    Ends (fetchRange chain first span) w
      (fun r w' => ∃ skipped, (∀ a ∈ skipped, a.isRead = true) ∧
        Went w (skipped ++ .attempt first r.2.2 :: blockActs first r.1) w' ∧
        Fetched chain first span r.1 r.2.1 r.2.2)
      fun _ w' => ∃ acts, (∀ a ∈ acts, a.isRead = true) ∧ Went w acts w' := by
  induction span using Nat.strongRecOn generalizing w with
  | ind span ih =>
    rw [fetchRange, ends_bind, ends_note, ends_bind]
    have hnoted : Went w [.attempt first (first + span)]
        { w with acts := w.acts ++ [.attempt first (first + span)] } :=
      ⟨rfl, w.db.runtimeStatus, rfl⟩
    refine (readHeaders_went first (span + 1) _).mono (fun headers w₁ h₁ => ?_) fun _ w₁ h₁ => ?_
    · obtain ⟨hwent, hlength, hread⟩ := h₁
      have hacts := hnoted.trans hwent
      have hreads : ∀ a ∈ [.attempt first (first + span)] ++ blockActs first headers,
          a.isRead = true := by
        intro a ha
        rcases List.mem_cons.mp ha with rfl | ha
        · rfl
        · exact blockActs_isRead _ _ a ha
      rw [ends_bind, ends_ask]
      split
      · rename_i events hevents
        refine ends_pure.mpr ⟨[], fun a ha => absurd ha List.not_mem_nil, hacts, ?_⟩
        exact ⟨Nat.le_add_right _ _, le_refl _, by simp [hlength], hread, w₁.chain, hevents⟩
      · split
        · exact ends_throw.mpr ⟨_, hreads, hacts⟩
        · split
          · split
            · exact ends_throw.mpr ⟨_, hreads, hacts⟩
            · exact ends_throw.mpr ⟨_, hreads, hacts⟩
          · rename_i hspan
            have hlt : span / 2 < span := Nat.div_lt_self (Nat.pos_of_ne_zero hspan) (by decide)
            refine (ih (span / 2) hlt _).mono (fun r w₂ h₂ => ?_) fun _ w₂ h₂ => ?_
            · obtain ⟨skipped, hskipped, hwent₂, hfetched⟩ := h₂
              refine ⟨[.attempt first (first + span)] ++ blockActs first headers ++ skipped, ?_, ?_,
                ?_⟩
              · intro a ha
                rcases List.mem_append.mp ha with ha | ha
                · exact hreads a ha
                · exact hskipped a ha
              · rw [List.append_assoc]
                exact hacts.trans hwent₂
              · have hupper := hfetched.upper
                exact { hfetched with upper := by omega }
            · obtain ⟨acts, hread₂, hwent₂⟩ := h₂
              refine ⟨_, fun a ha => ?_, hacts.trans hwent₂⟩
              rcases List.mem_append.mp ha with ha | ha
              · exact hreads a ha
              · exact hread₂ a ha
    · obtain ⟨acts, hwent, hread⟩ := h₁
      refine ⟨_, fun a ha => ?_, hnoted.trans hwent⟩
      rcases List.mem_cons.mp ha with rfl | ha
      · rfl
      · exact hread a ha

theorem verifyHeaders_went {checkpoint : Option BlockHeader} {first : ℕ}
    {headers : List BlockHeader} {w : World σ} :
    Ends (verifyHeaders checkpoint first headers) w
      (fun _ w' => w' = w ∧ headers.head?.map BlockHeader.number = some first ∧
        (∀ c ∈ checkpoint, ∀ x ∈ headers.head?, x.parentHash = c.hash) ∧
        headers.IsChain fun a b => b.parentHash = a.hash)
      fun _ w' => Went w [] w' := by
  unfold verifyHeaders
  split
  · exact requireRecovery_went
  · rename_i hfirst
    split
    · exact requireRecovery_went
    · rename_i hparent
      split
      · exact requireRecovery_went
      · rename_i hlinked
        refine ends_pure.mpr ⟨rfl, not_not.mp hfirst, ?_, not_not.mp hlinked⟩
        intro c hc x hx
        by_contra hne
        exact hparent ⟨c, hc, x, hx, hne⟩

theorem verifyEvents_went {headers : List BlockHeader} {events : List OrderedEvent}
    {w : World σ} : Ends (verifyEvents headers events) w
      (fun _ w' => w' = w ∧ ∀ e ∈ events, headerByNumber headers e.blockNumber = some e.blockHash)
      fun _ w' => Went w [] w' := by
  unfold verifyEvents
  split
  · exact requireRecovery_went
  · rename_i hno
    refine ends_pure.mpr ⟨rfl, fun e he => ?_⟩
    by_contra hne
    exact hno ⟨e, he, hne⟩

theorem commitRange_went (headers : List BlockHeader) (events : List OrderedEvent)
    (header : BlockHeader) (w : World σ) :
    Ends (commitRange evidenceDigest store headers events header) w
      (fun _ w' => w'.acts = w.acts ++ [.commit headers events header w.db] ∧
        w'.db = (commit evidenceDigest store headers events header w.db).2 ∧
        (commit evidenceDigest store headers events header w.db).1 = .ok ())
      fun _ w' => w'.acts = w.acts ++ [.commit headers events header w.db] ∧
        w'.db = (commit evidenceDigest store headers events header w.db).2 := by
  rw [commitRange, ends_bind, ends_get, ends_bind, ends_note, ends_bind, ends_modify]
  split
  · rename_i hok
    exact ends_pure.mpr ⟨rfl, rfl, hok⟩
  · exact ends_throw.mpr ⟨rfl, rfl⟩

/-- After a commit up to the eligible head: nothing, another reading of the
target, or the publication of a target that is the block committed last. -/
inductive Publishes (header : BlockHeader) (db : Database) : List Act → Prop where
  | silent : Publishes header db []
  | read (latest : ProjectionTargetObservation) : Publishes header db [.target latest]
  | current {latest : ProjectionTargetObservation} {eligibleHead : BlockHeader}
      (status : RuntimeStatus) (heligible : latest.eligibleHead = some eligibleHead)
      (hnumber : eligibleHead.number = header.number) (hhash : eligibleHead.hash = header.hash) :
      Publishes header db [.target latest,
        .markCurrent latest.observedHead.number eligibleHead.number (db.setStatus status)]

theorem publishLatest_went (finality : Finality) (indexingDepth : ℕ) (header : BlockHeader)
    (w : World σ) : Ends (publishLatest chain finality indexingDepth header) w
      (fun _ w' => ∃ acts, Went w acts w' ∧ Publishes header w.db acts)
      fun _ w' => ∃ acts, Went w acts w' ∧ Publishes header w.db acts := by
  rw [publishLatest, ends_bind]
  refine (readTarget_went finality indexingDepth _ w).mono (fun latest w₁ h₁ => ?_)
    fun _ w₁ h₁ => ⟨[], h₁, .silent⟩
  have hread : ∃ acts, Went w acts w₁ ∧ Publishes header w.db acts := ⟨_, h₁, .read latest⟩
  split
  · exact ends_pure.mpr hread
  · rename_i eligibleHead heligible
    split
    · rename_i hsame
      obtain ⟨status, hdb⟩ := h₁.2
      have hcurrent : ∀ w₂, Went w₁ [.markCurrent latest.observedHead.number eligibleHead.number
          w₁.db] w₂ → ∃ acts, Went w acts w₂ ∧ Publishes header w.db acts := by
        intro w₂ h₂
        refine ⟨_, h₁.trans h₂, ?_⟩
        rw [hdb]
        exact .current status heligible hsame.1 hsame.2
      exact (publish_went _ _ w₁).mono (fun _ w₂ h₂ => hcurrent w₂ h₂) fun _ w₂ h₂ => hcurrent w₂ h₂
    · exact ends_pure.mpr hread

/-- A batch that passed every check, with the number asked for its last block. -/
structure Checked (chain : ChainReader σ) (checkpoint : Option BlockHeader) (first span : ℕ)
    (headers : List BlockHeader) (events : List OrderedEvent) (last : ℕ) (header : BlockHeader) :
    Prop extends Fetched chain first span headers events last where
  start : headers.head?.map BlockHeader.number = some first
  parent : ∀ c ∈ checkpoint, ∀ x ∈ headers.head?, x.parentHash = c.hash
  linked : headers.IsChain fun a b => b.parentHash = a.hash
  located : ∀ e ∈ sortEvents events, headerByNumber headers e.blockNumber = some e.blockHash
  final : headers.getLast? = some header

/-- The call up to its end, from the reading of the range on. -/
inductive BatchCourse (evidenceDigest : Evidence → String) (store : SqliteProjectionStore)
    (chain : ChainReader σ) (checkpoint : Option BlockHeader) (eligibleTarget first span : ℕ)
    (w w' : World σ) : Prop where
  | stopped (acts : List Act) (hread : ∀ a ∈ acts, a.isRead = true) (hwent : Went w acts w')
  | committed {skipped post : List Act} {headers : List BlockHeader} {events : List OrderedEvent}
      {last : ℕ} {header : BlockHeader} {status status' : RuntimeStatus}
      (hskipped : ∀ a ∈ skipped, a.isRead = true)
      (hchecked : Checked chain checkpoint first span headers events last header)
      (hacts : w'.acts = w.acts ++ (skipped ++ .attempt first last :: blockActs first headers) ++
        .commit headers (sortEvents events) header (w.db.setStatus status) :: post)
      (hdb : w'.db = (commit evidenceDigest store headers (sortEvents events) header
        (w.db.setStatus status)).2.setStatus status')
      (hpost : post = [] ∨ header.number = eligibleTarget ∧
        (commit evidenceDigest store headers (sortEvents events) header
          (w.db.setStatus status)).1 = .ok () ∧
        Publishes header (commit evidenceDigest store headers (sortEvents events) header
          (w.db.setStatus status)).2 post)

theorem ingestBatch_course (finality : Finality) (indexingDepth : ℕ)
    (checkpoint : Option BlockHeader) (eligibleTarget first span : ℕ) (w : World σ) :
    Ends (ingestBatch evidenceDigest store chain finality indexingDepth checkpoint eligibleTarget
        first span) w
      (fun _ w' => BatchCourse evidenceDigest store chain checkpoint eligibleTarget first span w w')
      fun _ w' =>
        BatchCourse evidenceDigest store chain checkpoint eligibleTarget first span w w' := by
  rw [ingestBatch, ends_bind]
  refine (fetchRange_went first span w).mono (fun r w₁ h₁ => ?_) fun _ w₁ h₁ => ?_
  · obtain ⟨headers, events, last⟩ := r
    obtain ⟨skipped, hskipped, hwent, hfetched⟩ := h₁
    have hreads : ∀ a ∈ skipped ++ .attempt first last :: blockActs first headers,
        a.isRead = true := by
      intro a ha
      rcases List.mem_append.mp ha with ha | ha
      · exact hskipped a ha
      · rcases List.mem_cons.mp ha with rfl | ha
        · rfl
        · exact blockActs_isRead _ _ a ha
    have hstop : ∀ w₂, Went w₁ [] w₂ →
        BatchCourse evidenceDigest store chain checkpoint eligibleTarget first span w w₂ :=
      fun w₂ h₂ => .stopped _ hreads ((List.append_nil _).symm ▸ hwent.trans h₂ :)
    simp only
    rw [ends_bind]
    refine verifyHeaders_went.mono (fun _ w₂ h₂ => ?_) fun _ w₂ h₂ => hstop w₂ h₂
    obtain ⟨rfl, hstart, hparent, hlinked⟩ := h₂
    rw [ends_bind]
    refine verifyEvents_went.mono (fun _ w₃ h₃ => ?_) fun _ w₃ h₃ => hstop w₃ h₃
    obtain ⟨rfl, hlocated⟩ := h₃
    split
    · exact ends_throw.mpr (hstop _ (Went.refl _))
    · rename_i header hfinal
      have hchecked : Checked chain checkpoint first span headers events last header :=
        ⟨hfetched, hstart, hparent, hlinked, hlocated, hfinal⟩
      rw [ends_bind]
      refine readChain_went ((call_went _ _).mono (fun anchor w₄ h₄ => ?_)
        fun _ w₄ h₄ _ => hstop w₄ h₄)
      obtain ⟨hwent₄, _⟩ := h₄
      have hall := hwent.trans hwent₄
      rw [List.append_nil] at hall
      split
      · exact requireRecovery_went.mono (fun _ _ h => h) fun _ w₅ h₅ => hstop w₅ (hwent₄.trans h₅)
      · rw [ends_bind]
        obtain ⟨hacts₄, status, hdb₄⟩ := hall
        have hsame : ∀ {db₁ : Database} (db₂ : Database), db₁ = db₂ →
            db₁ = db₂.setStatus db₂.runtimeStatus := fun _ h => h
        refine (commitRange_went headers (sortEvents events) header w₄).mono (fun _ w₅ h₅ => ?_)
          fun _ w₅ h₅ => ?_
        · obtain ⟨hacts₅, hdb₅, hok⟩ := h₅
          rw [hdb₄] at hacts₅ hdb₅ hok
          rw [hacts₄] at hacts₅
          split
          · rename_i heligible
            have hdone : ∀ w₆, (∃ acts, Went w₅ acts w₆ ∧ Publishes header w₅.db acts) →
                BatchCourse evidenceDigest store chain checkpoint eligibleTarget first span w
                  w₆ := by
              rintro w₆ ⟨post, ⟨hacts₆, status', hdb₆⟩, hpost⟩
              rw [hdb₅] at hdb₆ hpost
              refine .committed hskipped hchecked ?_ hdb₆ (.inr ⟨heligible, hok, hpost⟩)
              rw [hacts₆, hacts₅, List.append_assoc]
              rfl
            exact (publishLatest_went finality indexingDepth header w₅).mono
              (fun _ w₆ h₆ => hdone w₆ h₆) fun _ w₆ h₆ => hdone w₆ h₆
          · exact ends_pure.mpr (.committed hskipped hchecked hacts₅ (hsame _ hdb₅) (.inl rfl))
        · obtain ⟨hacts₅, hdb₅⟩ := h₅
          rw [hdb₄] at hacts₅ hdb₅
          rw [hacts₄] at hacts₅
          exact .committed hskipped hchecked hacts₅ (hsame _ hdb₅) (.inl rfl)
  · obtain ⟨acts, hread, hwent⟩ := h₁
    exact .stopped acts hread hwent

end

/-- Nothing is left to scan: the eligible head, not cut by a maximum, is below
the block to scan next, and no checkpoint exceeds it. -/
structure EarlyExit (startBlock : ℕ) (maximumTarget : Option ℕ) (checkpoint : Option BlockHeader)
    (observation : ProjectionTargetObservation) (eligibleHead : BlockHeader) : Prop where
  eligible : observation.eligibleHead = some eligibleHead
  storable : ∀ c ∈ headChecks observation.observedHead.number eligibleHead.number, c.2 = true
  behind : ∀ c ∈ checkpoint, c.number ≤ eligibleHead.number
  past : eligibleHead.number < rangeStart startBlock checkpoint
  uncut : rangeTarget maximumTarget eligibleHead.number = eligibleHead.number

section
variable {σ : Type} {evidenceDigest : Evidence → String} {store : SqliteProjectionStore}
  {chain : ChainReader σ}

/-- What a whole call does. -/
inductive Course (evidenceDigest : Evidence → String) (store : SqliteProjectionStore)
    (chain : ChainReader σ) (startBlock : ℕ) (maximumTarget : Option ℕ) (w w' : World σ) :
    Prop where
  | unread (hwent : Went w [] w')
  | idle {observation : ProjectionTargetObservation} (hwent : Went w [.target observation] w')
      (hnot : ∀ header eligibleHead, checkpoint w.db = .ok header →
        ¬EarlyExit startBlock maximumTarget header observation eligibleHead)
  | published {observation : ProjectionTargetObservation} {eligibleHead : BlockHeader}
      {header : Option BlockHeader} {status : RuntimeStatus}
      (hcheckpoint : checkpoint w.db = .ok header)
      (hearly : EarlyExit startBlock maximumTarget header observation eligibleHead)
      (hwent : Went w [.target observation, .markCurrent observation.observedHead.number
        eligibleHead.number (w.db.setStatus status)] w')
  | scanned {observation : ProjectionTargetObservation} {eligibleHead : BlockHeader}
      {header : Option BlockHeader} {span : ℕ} {w₁ : World σ}
      (hcheckpoint : checkpoint w.db = .ok header)
      (heligible : observation.eligibleHead = some eligibleHead)
      (hspan : rangeStart startBlock header + span ≤ rangeTarget maximumTarget eligibleHead.number)
      (hwent : Went w [.target observation] w₁)
      (hbatch : BatchCourse evidenceDigest store chain header eligibleHead.number
        (rangeStart startBlock header) span w₁ w')

theorem rangeTarget_le (maximumTarget : Option ℕ) (eligibleTarget : ℕ) :
    rangeTarget maximumTarget eligibleTarget ≤ eligibleTarget ∧
      ∀ maximum ∈ maximumTarget, rangeTarget maximumTarget eligibleTarget ≤ maximum := by
  cases maximumTarget with
  | none => exact ⟨le_refl _, nofun⟩
  | some maximum =>
    simp only [rangeTarget, Option.mem_def, Option.some.injEq, forall_eq']
    split
    · omega
    · omega

theorem update_observe_went (head eligibleHead : ℕ) (w : World σ) :
    Ends (update (observe head eligibleHead) : Ingest σ Unit) w
      (fun _ w' => Went w [] w' ∧ ∀ c ∈ headChecks head eligibleHead, c.2 = true)
      fun _ w' => Went w [] w' ∧ ¬∀ c ∈ headChecks head eligibleHead, c.2 = true := by
  simp only [Ends, update, EStateM.run]
  cases hdb : observe head eligibleHead w.db with
  | ok db =>
    refine ⟨⟨(List.append_nil _).symm, observe_status hdb⟩, ?_⟩
    simp only [observe, bind_ok, checkAll_ok, exists_const] at hdb
    exact hdb.1
  | error e =>
    refine ⟨Went.refl w, fun hall => ?_⟩
    have hchecks := checkAll_ok (u := ()).mpr hall
    simp only [observe, hchecks, ok_bind] at hdb
    cases hdb

theorem ingestUpTo_course {batchSize startBlock indexingDepth : ℕ} {maximumTarget : Option ℕ}
    {finality : Finality} {header : Option BlockHeader}
    {observation : ProjectionTargetObservation} {eligibleHead : BlockHeader} {w w₁ : World σ}
    (hbatchSize : ¬batchSize < 1) (hcheckpoint : checkpoint w.db = .ok header)
    (heligible : observation.eligibleHead = some eligibleHead)
    (hstorable : ∀ c ∈ headChecks observation.observedHead.number eligibleHead.number, c.2 = true)
    (hw₁ : Went w [.target observation] w₁) :
    Ends (ingestUpTo evidenceDigest store chain batchSize startBlock indexingDepth maximumTarget
        finality header observation.observedHead.number eligibleHead.number) w₁
      (fun _ w' => Course evidenceDigest store chain startBlock maximumTarget w w')
      fun _ w' => Course evidenceDigest store chain startBlock maximumTarget w w' := by
  have hidle : ∀ w', Went w₁ [] w' →
      ¬EarlyExit startBlock maximumTarget header observation eligibleHead →
      Course evidenceDigest store chain startBlock maximumTarget w w' := by
    intro w' h hnot
    refine .idle (hw₁.trans h) fun header' eligibleHead' hcheckpoint' hearly => ?_
    obtain rfl := Except.ok.inj (hcheckpoint.symm.trans hcheckpoint')
    obtain rfl := Option.some.inj (heligible.symm.trans hearly.eligible)
    exact hnot hearly
  have hle := (rangeTarget_le maximumTarget eligibleHead.number).1
  unfold ingestUpTo
  simp only
  split
  · rename_i hexceeds
    obtain ⟨c, hc, hlt⟩ := hexceeds
    refine requireRecovery_went.mono (fun _ _ h => h) fun _ w' h => hidle w' h fun hearly => ?_
    have hbehind := hearly.behind c hc
    have huncut := hearly.uncut
    omega
  · rename_i hexceeds
    split
    · rename_i hpast
      split
      · rename_i huncut
        have hearly : EarlyExit startBlock maximumTarget header observation eligibleHead := by
          refine ⟨heligible, hstorable, fun c hc => ?_, by omega, huncut⟩
          by_contra hlt
          exact hexceeds ⟨c, hc, by omega⟩
        obtain ⟨status, hdb⟩ := hw₁.2
        have hdone : ∀ w', Went w₁ [.markCurrent observation.observedHead.number
            eligibleHead.number w₁.db] w' →
            Course evidenceDigest store chain startBlock maximumTarget w w' := by
          intro w' h
          have hall := hw₁.trans h
          rw [hdb] at hall
          exact .published hcheckpoint hearly hall
        exact (publish_went _ _ w₁).mono (fun _ w' h => hdone w' h) fun _ w' h => hdone w' h
      · rename_i huncut
        exact ends_pure.mpr (hidle w₁ (Went.refl w₁) fun hearly => huncut hearly.uncut)
    · rename_i hpast
      have hspan : rangeStart startBlock header +
          ((if rangeStart startBlock header + batchSize - 1 <
              rangeTarget maximumTarget eligibleHead.number then
            rangeStart startBlock header + batchSize - 1
          else rangeTarget maximumTarget eligibleHead.number) - rangeStart startBlock header) ≤
          rangeTarget maximumTarget eligibleHead.number := by
        split
        · omega
        · omega
      exact (ingestBatch_course finality indexingDepth header eligibleHead.number _ _ w₁).mono
        (fun _ w' h => .scanned hcheckpoint heligible hspan hw₁ h)
        fun _ w' h => .scanned hcheckpoint heligible hspan hw₁ h

variable (evidenceDigest store chain) in
theorem ingestRange_course (batchSize startBlock indexingDepth : ℕ) (maximumTarget : Option ℕ)
    (finality : Finality) (w : World σ) :
    Course evidenceDigest store chain startBlock maximumTarget w
      (finalState (ingestRange evidenceDigest store chain batchSize startBlock indexingDepth
        maximumTarget finality) w) := by
  rw [← ends_final (Q := fun w' =>
    Course evidenceDigest store chain startBlock maximumTarget w w'), ingestRange]
  split
  · exact ends_throw.mpr (.unread (Went.refl w))
  · rename_i hbatchSize
    rw [ends_bind]
    refine (readCheckpoint_went w).mono (fun header w₁ h₁ => ?_) fun _ w₁ h₁ => ?_
    · obtain ⟨rfl, hcheckpoint⟩ := h₁
      rw [ends_bind]
      refine (verifyCheckpoint_went finality header w₁).mono (fun _ w₂ h₂ => ?_)
        fun _ w₂ h₂ => .unread h₂
      rw [ends_bind]
      refine (readTarget_went finality indexingDepth _ w₂).mono (fun observation w₃ h₃ => ?_)
        fun _ w₃ h₃ => .unread (h₂.trans h₃)
      have hread := h₂.trans h₃
      simp only
      rw [ends_bind]
      refine (update_observe_went _ _ w₃).mono (fun _ w₄ h₄ => ?_) fun _ w₄ h₄ => ?_
      · obtain ⟨hwent, hstorable⟩ := h₄
        have hobserved := hread.trans hwent
        split
        · rename_i hnone
          have hnot : ∀ header' eligibleHead, checkpoint w₁.db = .ok header' →
              ¬EarlyExit startBlock maximumTarget header' observation eligibleHead := by
            intro _ _ _ hearly
            have heligible := hearly.eligible
            rw [hnone] at heligible
            cases heligible
          split
          · exact requireRecovery_went.mono (fun _ _ h => h)
              fun _ w₅ h₅ => .idle (hobserved.trans h₅) hnot
          · exact ends_pure.mpr (.idle hobserved hnot)
        · rename_i eligibleHead heligible
          rw [heligible] at hstorable
          exact ingestUpTo_course hbatchSize hcheckpoint heligible hstorable hobserved
      · obtain ⟨hwent, hstorable⟩ := h₄
        refine .idle (hread.trans hwent) fun _ eligibleHead _ hearly => hstorable ?_
        rw [hearly.eligible]
        exact hearly.storable
    · subst h₁
      exact .unread (Went.refl w₁)

/-- What a whole call does to the tables: another status, or one batch. -/
inductive Wrote (evidenceDigest : Evidence → String) (store : SqliteProjectionStore)
    (chain : ChainReader σ) (startBlock : ℕ) (maximumTarget : Option ℕ) (db db' : Database) :
    Prop where
  | nothing {status : RuntimeStatus} (hdb : db' = db.setStatus status)
  | batch {previous : Option BlockHeader} {span last : ℕ} {headers : List BlockHeader}
      {events : List OrderedEvent} {header : BlockHeader} {status status' : RuntimeStatus}
      (hcheckpoint : checkpoint db = .ok previous)
      (hspan : ∀ maximum ∈ maximumTarget, rangeStart startBlock previous + span ≤ maximum)
      (hchecked : Checked chain previous (rangeStart startBlock previous) span headers events last
        header)
      (hdb : db' = (commit evidenceDigest store headers (sortEvents events) header
        (db.setStatus status)).2.setStatus status')

variable (evidenceDigest store chain) in
theorem ingestRange_wrote (batchSize startBlock indexingDepth : ℕ) (maximumTarget : Option ℕ)
    (finality : Finality) (w : World σ) :
    Wrote evidenceDigest store chain startBlock maximumTarget w.db
      (finalState (ingestRange evidenceDigest store chain batchSize startBlock indexingDepth
        maximumTarget finality) w).db := by
  have hcourse := ingestRange_course evidenceDigest store chain batchSize startBlock
    indexingDepth maximumTarget finality w
  generalize finalState (ingestRange evidenceDigest store chain batchSize startBlock
    indexingDepth maximumTarget finality) w = w' at hcourse ⊢
  have hnothing : ∀ {acts : List Act}, Went w acts w' →
      Wrote evidenceDigest store chain startBlock maximumTarget w.db w'.db := by
    intro acts hwent
    obtain ⟨_, status, hdb⟩ := hwent
    exact .nothing hdb
  cases hcourse with
  | unread hwent => exact hnothing hwent
  | idle hwent _ => exact hnothing hwent
  | published _ _ hwent => exact hnothing hwent
  | scanned hcheckpoint _ hspan hwent hbatch =>
    cases hbatch with
    | stopped acts _ hwent' => exact hnothing (hwent.trans hwent')
    | committed _ hchecked _ hdb _ =>
      obtain ⟨_, status₁, hdb₁⟩ := hwent
      rw [hdb₁] at hdb
      exact .batch hcheckpoint (fun maximum hmax => hspan.trans ((rangeTarget_le _ _).2 maximum hmax))
        hchecked hdb

end
end MotorCove.Indexer
