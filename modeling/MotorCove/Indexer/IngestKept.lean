import MotorCove.Indexer.IngestRun

/-!
# What a call keeps

A property of the tables that every request of a call to its store keeps is
kept by the whole call, wherever it stops.
-/

set_option autoImplicit false

namespace MotorCove.Indexer
open MotorCove.Text MotorCove.Fallible MotorCove.Effects

/-- The reasons `ingestRange` records. -/
def ingestReasons : List String :=
  ["FINALIZED_BLOCK_HASH_CHANGED", "CHECKPOINT_BLOCK_UNAVAILABLE", "CHECKPOINT_HASH_CHANGED",
    "CHECKPOINT_EXCEEDS_ELIGIBLE_TARGET", "RANGE_START_MISMATCH",
    "CHECKPOINT_PARENT_DISCONTINUITY", "PARENT_DISCONTINUITY", "LOG_BLOCK_HASH_MISMATCH",
    "RANGE_ANCHOR_CHANGED"]

/-- The requests a call makes keep the property. -/
structure KeptByRequests (evidenceDigest : Evidence → String) (store : SqliteProjectionStore)
    (I : Database → Prop) : Prop where
  recoveryRequired : ∀ reason ∈ ingestReasons, ∀ db, I db → I (markRecoveryRequired reason db)
  observe : ∀ head eligibleHead db db', I db → observe head eligibleHead db = .ok db' → I db'
  markCurrent : ∀ observedHead eligibleHead db db', I db →
    markCurrent observedHead eligibleHead db = .ok db' → I db'
  commit : ∀ headers events header db, I db →
    I (commit evidenceDigest store headers events header db).2

section
variable {σ α β : Type} {I : Database → Prop}

/-- The program keeps the property, however it ends. -/
def Keeps (I : Database → Prop) (x : Ingest σ α) : Prop :=
  ∀ w, I w.db → Ends x w (fun _ w' => I w'.db) fun _ w' => I w'.db

theorem keeps_pure (a : α) : Keeps I (pure a : Ingest σ α) := fun _ h => h

theorem keeps_throw (e : IngestError) : Keeps I (throw e : Ingest σ α) := fun _ h => h

theorem keeps_bind {x : Ingest σ α} {f : α → Ingest σ β} (hx : Keeps I x)
    (hf : ∀ a, Keeps I (f a)) : Keeps I (x >>= f) := by
  intro w hw
  rw [ends_bind]
  exact (hx w hw).mono (fun a w' h => hf a w' h) fun _ _ h => h

theorem keeps_tryCatch {x : Ingest σ α} {handle : IngestError → Ingest σ α} (hx : Keeps I x)
    (hhandle : ∀ e, Keeps I (handle e)) : Keeps I (tryCatch x handle) := by
  intro w hw
  rw [ends_tryCatch]
  exact (hx w hw).mono (fun _ _ h => h) fun e w' h => hhandle e w' h

theorem keeps_note (act : Act) : Keeps I (note act : Ingest σ Unit) := fun _ h => h

theorem keeps_ask (read : σ → Except ChainError α × σ) : Keeps I (ask read) := fun _ h => h

theorem keeps_call (read : σ → Except ChainError α × σ) : Keeps I (call read) := by
  refine keeps_bind (keeps_ask read) fun answer => ?_
  cases answer with
  | ok a => exact keeps_pure a
  | error e => exact keeps_throw _

theorem keeps_readChain {operation : String} {read : Ingest σ α} (h : Keeps I read) :
    Keeps I (readChain operation read) := by
  refine keeps_tryCatch h fun e => ?_
  split
  · split
    · exact keeps_throw _
    · exact keeps_throw _
  · exact keeps_throw _

theorem keeps_update {f : Database → Except StoreError Database}
    (h : ∀ db db', I db → f db = .ok db' → I db') : Keeps I (update f : Ingest σ Unit) := by
  intro w hw
  simp only [Ends, update, EStateM.run]
  cases hdb : f w.db with
  | ok db => exact h _ _ hw hdb
  | error e => exact hw

end

section
variable {σ α : Type} {evidenceDigest : Evidence → String} {store : SqliteProjectionStore}
  {chain : ChainReader σ} {I : Database → Prop} (h : KeptByRequests evidenceDigest store I)
include h

theorem keeps_requireRecovery {reason : String} (hreason : reason ∈ ingestReasons)
    (detail : String) : Keeps I (requireRecovery reason detail : Ingest σ α) :=
  keeps_bind (fun w hw => h.recoveryRequired reason hreason w.db hw) fun _ => keeps_throw _

omit h in
theorem keeps_readProjectionTarget (finality : Finality) (indexingDepth : ℕ) :
    Keeps I (readProjectionTarget chain finality indexingDepth) := by
  unfold readProjectionTarget
  split
  · exact keeps_throw _
  · refine keeps_bind (keeps_call _) fun observedHead => ?_
    cases finality with
    | immediate =>
      simp only
      split
      · exact keeps_pure _
      · split
        · exact keeps_pure _
        · exact keeps_bind (keeps_call _) fun _ => keeps_pure _
    | rpcFinalized =>
      simp only
      split
      · exact keeps_throw _
      · refine keeps_bind (keeps_call _) fun eligibleHead => ?_
        split
        · exact keeps_throw _
        · refine keeps_bind (keeps_call _) fun canonicalAtHeight => ?_
          split
          · exact keeps_throw _
          · exact keeps_pure _

theorem keeps_readTarget (finality : Finality) (indexingDepth : ℕ) (operation : String) :
    Keeps I (readTarget chain finality indexingDepth operation) := by
  refine keeps_bind (keeps_tryCatch
    (keeps_readChain (keeps_readProjectionTarget finality indexingDepth)) fun e => ?_)
    fun observation => keeps_bind (keeps_note _) fun _ => keeps_pure _
  split
  · exact keeps_bind (fun w hw => h.recoveryRequired _ (by decide) w.db hw) fun _ => keeps_throw _
  · exact keeps_throw _

omit h in
theorem keeps_readCheckpoint : Keeps I (readCheckpoint : Ingest σ _) := by
  intro w hw
  rw [readCheckpoint, ends_bind, ends_get]
  split
  · exact ends_pure.mpr hw
  · exact ends_throw.mpr hw

theorem keeps_verifyCheckpoint (finality : Finality) (header : Option BlockHeader) :
    Keeps I (verifyCheckpoint chain finality header) := by
  cases header with
  | none => exact keeps_pure _
  | some header =>
    refine keeps_bind (keeps_ask _) fun answer => ?_
    cases answer with
    | error e =>
      simp only
      split
      · exact keeps_throw _
      · split
        · exact keeps_throw _
        · exact keeps_requireRecovery h (by split <;> decide) _
    | ok canonical =>
      simp only
      split
      · exact keeps_requireRecovery h (by split <;> decide) _
      · exact keeps_pure _

theorem keeps_publish (observedHead eligibleHead : ℕ) :
    Keeps I (publish observedHead eligibleHead : Ingest σ Unit) := by
  intro w hw
  rw [publish, ends_bind, ends_get, ends_bind, ends_note]
  exact keeps_update (h.markCurrent observedHead eligibleHead) _ hw

omit h in
theorem keeps_readHeaders (number count : ℕ) : Keeps I (readHeaders chain number count) := by
  induction count generalizing number with
  | zero => exact keeps_pure _
  | succ count ih =>
    exact keeps_bind (keeps_readChain (keeps_call _)) fun header =>
      keeps_bind (keeps_note _) fun _ => keeps_bind (ih (number + 1)) fun _ => keeps_pure _

omit h in
theorem keeps_fetchRange (first span : ℕ) : Keeps I (fetchRange chain first span) := by
  induction span using Nat.strongRecOn with
  | ind span ih =>
    rw [fetchRange]
    refine keeps_bind (keeps_note _) fun _ => keeps_bind (keeps_readHeaders _ _) fun headers =>
      keeps_bind (keeps_ask _) fun answer => ?_
    cases answer with
    | ok events => exact keeps_pure _
    | error e =>
      simp only
      split
      · exact keeps_throw _
      · split
        · split
          · exact keeps_throw _
          · exact keeps_throw _
        · rename_i hspan
          exact ih (span / 2) (Nat.div_lt_self (Nat.pos_of_ne_zero hspan) (by decide))

theorem keeps_verifyHeaders (checkpoint : Option BlockHeader) (first : ℕ)
    (headers : List BlockHeader) :
    Keeps I (verifyHeaders checkpoint first headers : Ingest σ Unit) := by
  unfold verifyHeaders
  split
  · exact keeps_requireRecovery h (by decide) _
  · split
    · exact keeps_requireRecovery h (by decide) _
    · split
      · exact keeps_requireRecovery h (by decide) _
      · exact keeps_pure _

theorem keeps_verifyEvents (headers : List BlockHeader) (events : List OrderedEvent) :
    Keeps I (verifyEvents headers events : Ingest σ Unit) := by
  unfold verifyEvents
  split
  · exact keeps_requireRecovery h (by decide) _
  · exact keeps_pure _

theorem keeps_commitRange (headers : List BlockHeader) (events : List OrderedEvent)
    (header : BlockHeader) :
    Keeps I (commitRange evidenceDigest store headers events header : Ingest σ Unit) := by
  intro w hw
  have hcommitted := h.commit headers events header w.db hw
  exact (commitRange_went headers events header w).mono (fun _ _ hw' => hw'.2.1 ▸ hcommitted)
    fun _ _ hw' => hw'.2 ▸ hcommitted

theorem keeps_ingestBatch (finality : Finality) (indexingDepth : ℕ)
    (checkpoint : Option BlockHeader) (eligibleTarget first span : ℕ) :
    Keeps I (ingestBatch evidenceDigest store chain finality indexingDepth checkpoint
      eligibleTarget first span) := by
  refine keeps_bind (keeps_fetchRange _ _) fun (headers, events, last) =>
    keeps_bind (keeps_verifyHeaders h _ _ _) fun _ => keeps_bind (keeps_verifyEvents h _ _) fun _ => ?_
  split
  · exact keeps_throw _
  · refine keeps_bind (keeps_readChain (keeps_call _)) fun anchor => ?_
    split
    · exact keeps_requireRecovery h (by decide) _
    · refine keeps_bind (keeps_commitRange h _ _ _) fun _ => ?_
      split
      · refine keeps_bind (keeps_readTarget h _ _ _) fun latest => ?_
        split
        · exact keeps_pure _
        · split
          · exact keeps_publish h _ _
          · exact keeps_pure _
      · exact keeps_pure _

theorem keeps_ingestUpTo (batchSize startBlock indexingDepth : ℕ) (maximumTarget : Option ℕ)
    (finality : Finality) (checkpoint : Option BlockHeader) (head eligibleTarget : ℕ) :
    Keeps I (ingestUpTo evidenceDigest store chain batchSize startBlock indexingDepth maximumTarget
      finality checkpoint head eligibleTarget) := by
  unfold ingestUpTo
  simp only
  split
  · exact keeps_requireRecovery h (by decide) _
  · split
    · split
      · exact keeps_publish h _ _
      · exact keeps_pure _
    · exact keeps_ingestBatch h _ _ _ _ _ _

theorem keeps_ingestRange (batchSize startBlock indexingDepth : ℕ) (maximumTarget : Option ℕ)
    (finality : Finality) :
    Keeps I (ingestRange evidenceDigest store chain batchSize startBlock indexingDepth
      maximumTarget finality) := by
  unfold ingestRange
  split
  · exact keeps_throw _
  · refine keeps_bind keeps_readCheckpoint fun checkpoint =>
      keeps_bind (keeps_verifyCheckpoint h _ _) fun _ =>
      keeps_bind (keeps_readTarget h _ _ _) fun observation =>
      keeps_bind (keeps_update (h.observe _ _)) fun _ => ?_
    split
    · split
      · exact keeps_requireRecovery h (by decide) _
      · exact keeps_pure _
    · exact keeps_ingestUpTo h _ _ _ _ _ _ _ _

end
end MotorCove.Indexer
