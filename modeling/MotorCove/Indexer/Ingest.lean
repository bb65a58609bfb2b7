import MotorCove.Effects
import MotorCove.Indexer.Store

/-!
# Ingesting a range

One call of `ingestRange` against a chain reader whose answers are arbitrary:
the reader is any machine that answers each request and moves on, so two reads
may come from two forks. The call notes what it reads and what it asks of the
store, each request with the tables as they are at that moment.
-/

set_option autoImplicit false

namespace MotorCove.Indexer
open MotorCove.Text MotorCove.Fallible MotorCove.Effects

structure ErrorText where
  name : Option String
  message : Option String
  shortMessage : Option String
  deriving DecidableEq, Repr

inductive ChainError where
  | thrown (text : ErrorText)
  | causedBy (text : ErrorText) (cause : ChainError)
  deriving DecidableEq, Repr

def ChainError.text : ChainError → ErrorText
  | .thrown text => text
  | .causedBy text _ => text

def transportErrorNames : List String :=
  ["ChainDisconnectedError", "HttpRequestError", "ProviderDisconnectedError", "SocketClosedError",
    "TimeoutError", "WebSocketRequestError"]

/-- `/phrase/i.test(text)` for a phrase without letters in upper case. -/
def mentions (phrase text : String) : Bool :=
  (lower text).toList.tails.any fun rest => phrase.toList.isPrefixOf rest

def transportPhrases : List String :=
  ["time out", "timed out", "econnrefused", "econnreset", "enotfound", "fetch failed",
    "network error"]

def ErrorText.isTransport (text : ErrorText) : Bool :=
  text.name.any transportErrorNames.contains ||
    text.message.any fun message => transportPhrases.any fun phrase => mentions phrase message

def ChainError.isTransportFailure : ChainError → Bool
  | .thrown text => text.isTransport
  | .causedBy text cause => text.isTransport || cause.isTransportFailure

def isLineTerminator (c : Char) : Bool :=
  c == '\n' || c == '\r' || c.toNat == 0x2028 || c.toNat == 0x2029

/-- `/range.?limit/i.test(text)`. Without the flag `u` the dot takes one UTF-16 unit,
which a character from U+10000 on is not. -/
def mentionsRangeLimit (text : String) : Bool :=
  (lower text).toList.tails.any fun rest => "range".toList.isPrefixOf rest &&
    ("limit".toList.isPrefixOf (rest.drop 5) ||
      (((rest.drop 5).head?.any fun c => c.toNat < 0x10000 && !isLineTerminator c) &&
        "limit".toList.isPrefixOf (rest.drop 6)))

def ChainError.isRangeLimitFailure (error : ChainError) : Bool :=
  let message := " ".intercalate
    ([error.text.message, error.text.shortMessage].filterMap id)
  mentionsRangeLimit message ||
    ["too many blocks", "too many results", "response size", "limit exceeded"].any fun phrase =>
      mentions phrase message

def ChainError.isBlockNotFound (error : ChainError) : Bool :=
  error.text.name == some "BlockNotFoundError"

inductive IngestError where
  | chain (cause : ChainError)
  | transportUnavailable (operation : String) (cause : ChainError)
  | indexBatchSizeInvalid
  | publicIndexingDepthUnsupported
  | providerCapabilityUnavailable
  | finalizedHeadExceedsObservedHead
  | finalizedBlockHashChanged
  | recoveryRequired (detail : String)
  | rangeEmpty
  | store (cause : StoreError)
  deriving DecidableEq, Repr

/-- An error whose message is `FINALIZED_BLOCK_HASH_CHANGED`. -/
def IngestError.isFinalizedBlockHashChanged : IngestError → Bool
  | .finalizedBlockHashChanged => true
  | .chain cause => cause.text.message == some "FINALIZED_BLOCK_HASH_CHANGED"
  | _ => false

structure ChainReader (σ : Type) where
  getHead : σ → Except ChainError BlockHeader × σ
  getFinalizedHead : Option (σ → Except ChainError BlockHeader × σ)
  getBlock : ℕ → σ → Except ChainError BlockHeader × σ
  getEvents : List BlockHeader → σ → Except ChainError (List OrderedEvent) × σ

inductive Finality where
  | immediate
  | rpcFinalized
  deriving DecidableEq, Repr

structure ProjectionTargetObservation where
  observedHead : BlockHeader
  eligibleHead : Option BlockHeader
  deriving DecidableEq, Repr

/-- What a call does, in order; a request to the store carries the tables it finds. -/
inductive Act where
  | target (observation : ProjectionTargetObservation)
  | attempt (first last : ℕ)
  | block (asked : ℕ) (answer : BlockHeader)
  | commit (headers : List BlockHeader) (events : List OrderedEvent) (checkpoint : BlockHeader)
      (found : Database)
  | markCurrent (observedHead eligibleHead : ℕ) (found : Database)

structure World (σ : Type) where
  chain : σ
  db : Database
  acts : List Act

abbrev Ingest (σ : Type) := EStateM IngestError (World σ)

section
variable {σ α : Type}

def note (act : Act) : Ingest σ Unit :=
  modify fun w => { w with acts := w.acts ++ [act] }

/-- A request to the chain reader, with its answer or its error. -/
def ask (read : σ → Except ChainError α × σ) : Ingest σ (Except ChainError α) := fun w =>
  .ok (read w.chain).1 { w with chain := (read w.chain).2 }

def call (read : σ → Except ChainError α × σ) : Ingest σ α := do
  match ← ask read with
  | .ok a => pure a
  | .error e => throw (.chain e)

/-- An operation of the store that changes nothing when it fails. -/
def update (f : Database → Except StoreError Database) : Ingest σ Unit := fun w =>
  match f w.db with
  | .ok db => .ok () { w with db }
  | .error e => .error (.store e) w

/-- `store.markRecoveryRequired`, then an error. -/
def requireRecovery (reason detail : String) : Ingest σ α := do
  modify fun w : World σ => { w with db := markRecoveryRequired reason w.db }
  throw (.recoveryRequired detail)

def readChain (operation : String) (read : Ingest σ α) : Ingest σ α :=
  tryCatch read fun error =>
    match error with
    | .chain cause =>
      if cause.isTransportFailure = true then throw (.transportUnavailable operation cause)
      else throw error
    | _ => throw error

end

section
variable {σ : Type} (evidenceDigest : Evidence → String) (store : SqliteProjectionStore)
  (chain : ChainReader σ)

def readProjectionTarget (finality : Finality) (indexingDepth : ℕ) :
    Ingest σ ProjectionTargetObservation :=
  if finality = .rpcFinalized ∧ indexingDepth ≠ 0 then throw .publicIndexingDepthUnsupported
  else do
    let observedHead ← call chain.getHead
    match finality with
    | .immediate =>
      if observedHead.number < indexingDepth then pure ⟨observedHead, none⟩
      else if indexingDepth = 0 then pure ⟨observedHead, some observedHead⟩
      else do
        let eligibleHead ← call (chain.getBlock (observedHead.number - indexingDepth))
        pure ⟨observedHead, some eligibleHead⟩
    | .rpcFinalized =>
      match chain.getFinalizedHead with
      | none => throw .providerCapabilityUnavailable
      | some getFinalizedHead => do
        let eligibleHead ← call getFinalizedHead
        if observedHead.number < eligibleHead.number then throw .finalizedHeadExceedsObservedHead
        else do
          let canonicalAtHeight ← call (chain.getBlock eligibleHead.number)
          if canonicalAtHeight.hash ≠ eligibleHead.hash then throw .finalizedBlockHashChanged
          else pure ⟨observedHead, some eligibleHead⟩

def readTarget (finality : Finality) (indexingDepth : ℕ) (operation : String) :
    Ingest σ ProjectionTargetObservation := do
  let observation ← tryCatch
    (readChain operation (readProjectionTarget chain finality indexingDepth)) fun error => do
      if error.isFinalizedBlockHashChanged = true then
        modify fun w : World σ => { w with
          db := markRecoveryRequired "FINALIZED_BLOCK_HASH_CHANGED" w.db }
        throw error
      else throw error
  note (.target observation)
  pure observation

def readCheckpoint : Ingest σ (Option BlockHeader) := do
  let w ← get
  match checkpoint w.db with
  | .ok header => pure header
  | .error e => throw (.store e)

/-- The checkpoint's block is still on the chain. -/
def verifyCheckpoint (finality : Finality) : Option BlockHeader → Ingest σ Unit
  | none => pure ()
  | some checkpoint => do
    match ← ask (chain.getBlock checkpoint.number) with
    | .error e =>
      if e.isBlockNotFound = false ∧ e.isTransportFailure = true then
        throw (.transportUnavailable "checkpoint block" e)
      else if e.isBlockNotFound = false then throw (.chain e)
      else
        requireRecovery (if finality = .rpcFinalized then "FINALIZED_BLOCK_HASH_CHANGED"
          else "CHECKPOINT_BLOCK_UNAVAILABLE") "checkpoint block unavailable"
    | .ok canonical =>
      if canonical.hash ≠ checkpoint.hash then
        requireRecovery (if finality = .rpcFinalized then "FINALIZED_BLOCK_HASH_CHANGED"
          else "CHECKPOINT_HASH_CHANGED") "checkpoint hash changed"
      else pure ()

/-- `store.markCurrent`. -/
def publish (observedHead eligibleHead : ℕ) : Ingest σ Unit := do
  let w ← get
  note (.markCurrent observedHead eligibleHead w.db)
  update (markCurrent observedHead eligibleHead)

def readHeaders : ℕ → ℕ → Ingest σ (List BlockHeader)
  | _, 0 => pure []
  | number, count + 1 => do
    let header ← readChain ("block " ++ Nat.repr number) (call (chain.getBlock number))
    note (.block number header)
    let rest ← readHeaders (number + 1) count
    pure (header :: rest)

/-- The loop over shrinking ranges, with `last = first + span`. -/
def fetchRange (first span : ℕ) : Ingest σ (List BlockHeader × List OrderedEvent × ℕ) := do
  note (.attempt first (first + span))
  let headers ← readHeaders chain first (span + 1)
  match ← ask (chain.getEvents headers) with
  | .ok events => pure (headers, events, first + span)
  | .error e =>
    if e.isTransportFailure = false ∧ e.isRangeLimitFailure = false then throw (.chain e)
    else if h : span = 0 then
      if e.isTransportFailure = true then throw (.transportUnavailable "event range" e)
      else throw (.chain e)
    else fetchRange first (span / 2)
termination_by span
decreasing_by exact Nat.div_lt_self (Nat.pos_of_ne_zero h) (by decide)

/-- The headers start at `first`, on the checkpoint, and are linked. -/
def verifyHeaders (checkpoint : Option BlockHeader) (first : ℕ) (headers : List BlockHeader) :
    Ingest σ Unit :=
  if headers.head?.map BlockHeader.number ≠ some first then
    requireRecovery "RANGE_START_MISMATCH" "range start mismatch"
  else if ∃ c ∈ checkpoint, ∃ x ∈ headers.head?, x.parentHash ≠ c.hash then
    requireRecovery "CHECKPOINT_PARENT_DISCONTINUITY" "checkpoint parent discontinuity"
  else if ¬headers.IsChain fun a b => b.parentHash = a.hash then
    requireRecovery "PARENT_DISCONTINUITY" "parent discontinuity"
  else pure ()

/-- The map from numbers to hashes; a later header of a number replaces an earlier one. -/
def headerByNumber (headers : List BlockHeader) (number : ℕ) : Option String :=
  (headers.reverse.find? fun x => x.number = number).map BlockHeader.hash

def verifyEvents (headers : List BlockHeader) (events : List OrderedEvent) : Ingest σ Unit :=
  if ∃ e ∈ events, headerByNumber headers e.blockNumber ≠ some e.blockHash then
    requireRecovery "LOG_BLOCK_HASH_MISMATCH" "log block hash mismatch"
  else pure ()

/-- `store.commit`. -/
def commitRange (headers : List BlockHeader) (events : List OrderedEvent)
    (checkpoint : BlockHeader) : Ingest σ Unit := do
  let w ← get
  note (.commit headers events checkpoint w.db)
  modify fun w => { w with db := (commit evidenceDigest store headers events checkpoint w.db).2 }
  match (commit evidenceDigest store headers events checkpoint w.db).1 with
  | .ok () => pure ()
  | .error e => throw (.store e)

/-- The currentness after a commit up to the eligible head. -/
def publishLatest (finality : Finality) (indexingDepth : ℕ) (last : BlockHeader) :
    Ingest σ Unit := do
  let latest ← readTarget chain finality indexingDepth "latest projection target"
  match latest.eligibleHead with
  | none => pure ()
  | some eligibleHead =>
    if eligibleHead.number = last.number ∧ eligibleHead.hash = last.hash then
      publish latest.observedHead.number eligibleHead.number
    else pure ()

def ingestBatch (finality : Finality) (indexingDepth : ℕ) (checkpoint : Option BlockHeader)
    (eligibleTarget first span : ℕ) : Ingest σ Unit := do
  let (headers, events, last) ← fetchRange chain first span
  verifyHeaders checkpoint first headers
  let orderedEvents := sortEvents events
  verifyEvents headers orderedEvents
  match headers.getLast? with
  | none => throw .rangeEmpty
  | some header => do
    let anchor ← readChain ("range anchor " ++ Nat.repr last) (call (chain.getBlock last))
    if anchor.hash ≠ header.hash then
      requireRecovery "RANGE_ANCHOR_CHANGED" "range anchor changed"
    else do
      commitRange evidenceDigest store headers orderedEvents header
      if header.number = eligibleTarget then publishLatest chain finality indexingDepth header
      else pure ()

def rangeTarget (maximumTarget : Option ℕ) (eligibleTarget : ℕ) : ℕ :=
  match maximumTarget with
  | none => eligibleTarget
  | some maximum => if maximum < eligibleTarget then maximum else eligibleTarget

def rangeStart (startBlock : ℕ) (checkpoint : Option BlockHeader) : ℕ :=
  match checkpoint with
  | none => startBlock
  | some checkpoint => checkpoint.number + 1

def ingestUpTo (batchSize startBlock indexingDepth : ℕ) (maximumTarget : Option ℕ)
    (finality : Finality) (checkpoint : Option BlockHeader) (head eligibleTarget : ℕ) :
    Ingest σ Unit :=
  let target := rangeTarget maximumTarget eligibleTarget
  let first := rangeStart startBlock checkpoint
  if ∃ c ∈ checkpoint, target < c.number then
    requireRecovery "CHECKPOINT_EXCEEDS_ELIGIBLE_TARGET"
      "checkpoint exceeds eligible indexing target"
  else if target < first then
    if target = eligibleTarget then publish head eligibleTarget else pure ()
  else
    let last := if first + batchSize - 1 < target then first + batchSize - 1 else target
    ingestBatch evidenceDigest store chain finality indexingDepth checkpoint eligibleTarget first
      (last - first)

def ingestRange (batchSize startBlock indexingDepth : ℕ) (maximumTarget : Option ℕ)
    (finality : Finality) : Ingest σ Unit :=
  if batchSize < 1 then throw .indexBatchSizeInvalid
  else do
    let checkpoint ← readCheckpoint
    verifyCheckpoint chain finality checkpoint
    let observation ← readTarget chain finality indexingDepth "projection target"
    let head := observation.observedHead.number
    update (observe head ((observation.eligibleHead.map BlockHeader.number).getD head))
    match observation.eligibleHead with
    | none =>
      if checkpoint.isSome then
        requireRecovery "CHECKPOINT_EXCEEDS_ELIGIBLE_TARGET"
          "checkpoint exceeds eligible indexing target"
      else pure ()
    | some eligibleHead =>
      ingestUpTo evidenceDigest store chain batchSize startBlock indexingDepth maximumTarget
        finality checkpoint head eligibleHead.number

end
end MotorCove.Indexer
