import Mathlib.Data.List.Basic
import MotorCove.Text
import MotorCove.Triples
import MotorCove.Web.Model

/-!
# The browser's journal

The tabs of a browser share the texts in local storage, one for each deployment.
Each tab has its own view of what went wrong and its volatile entries, which it
keeps in place of rows that it could not write. A row is written under the
deployment's lock, and only over the revision it was read at.
-/

set_option autoImplicit false

namespace MotorCove.Web
open MotorCove.Asynchrony

/-- What `JSON.parse` makes of a text. An element of an array is an entry, or
fails the schema with these messages. -/
inductive JournalText where
  | unparsable (message : String)
  | notArray
  | array (candidates : List (Except (List String) JournalEntry))

/-- The texts by the deployment that their key names. -/
abbrev LocalStorage := String → Option JournalText

inductive JournalLoadReason where
  | corruptStorage
  | invalidEntry
  | storageUnavailable
  deriving DecidableEq, Repr

structure JournalLoadIssue where
  deploymentId : String
  reason : JournalLoadReason
  detail : String
  deriving DecidableEq, Repr

/-- What one tab keeps. The volatile entries stand in the order in which they
were first set. -/
structure LocalStorageJournal where
  issues : String → List JournalLoadIssue
  writeIssues : List (String × JournalLoadIssue)
  volatileEntries : List JournalEntry
  volatileBaseRevisions : String → Option ℕ

def LocalStorageJournal.new : LocalStorageJournal := ⟨fun _ => [], [], [], fun _ => none⟩

abbrev State := LocalStorage × LocalStorageJournal

abbrev Program (α : Type) := Async Answer JsError Moment State α

namespace LocalStorageJournal

/-- `Map.set`: a known key keeps its place. -/
def setIn {α : Type} (key : α → String) (a : α) : List α → List α
  | [] => [a]
  | b :: rest => if key b = key a then a :: rest else b :: setIn key a rest

def volatile? (j : LocalStorageJournal) (id : String) : Option JournalEntry :=
  j.volatileEntries.find? fun entry => entry.clientOperationId = id

def setVolatile (j : LocalStorageJournal) (entry : JournalEntry) : LocalStorageJournal :=
  { j with volatileEntries := setIn JournalEntry.clientOperationId entry j.volatileEntries }

def setIssues (j : LocalStorageJournal) (deploymentId : String) (issues : List JournalLoadIssue) :
    LocalStorageJournal :=
  { j with issues := Function.update j.issues deploymentId issues }

def setWriteIssue (j : LocalStorageJournal) (id : String) (issue : JournalLoadIssue) :
    LocalStorageJournal :=
  { j with writeIssues := setIn Prod.fst (id, issue) j.writeIssues }

def deleteWriteIssue (j : LocalStorageJournal) (id : String) : LocalStorageJournal :=
  { j with writeIssues := j.writeIssues.filter fun issue => issue.1 ≠ id }

/-- The volatile entry and its base give way to the row. -/
def dropVolatile (j : LocalStorageJournal) (id : String) : LocalStorageJournal :=
  { j with
    volatileEntries := j.volatileEntries.filter fun entry => entry.clientOperationId ≠ id
    volatileBaseRevisions := Function.update j.volatileBaseRevisions id none }

end LocalStorageJournal

def JournalText.entries : JournalText → List JournalEntry
  | .array candidates => candidates.filterMap Except.toOption
  | _ => []

def entryIssue (deploymentId : String) (index : ℕ) :
    Except (List String) JournalEntry → Option JournalLoadIssue
  | .ok _ => none
  | .error messages => some ⟨deploymentId, .invalidEntry,
      "Entry " ++ Nat.repr index ++ ": " ++ String.intercalate "; " messages⟩

def JournalText.issues (deploymentId : String) : JournalText → List JournalLoadIssue
  | .unparsable message => [⟨deploymentId, .corruptStorage, message⟩]
  | .notArray => [⟨deploymentId, .invalidEntry, "Journal root must be an array."⟩]
  | .array candidates => (candidates.mapIdx (entryIssue deploymentId)).reduceOption

def loadDurable (deploymentId : String) (m : Moment) (s : State) : List JournalEntry × State :=
  match m.getItem with
  | some message =>
    ([], s.1, s.2.setIssues deploymentId [⟨deploymentId, .storageUnavailable, message⟩])
  | none =>
    match s.1 deploymentId with
    | none => ([], s.1, s.2.setIssues deploymentId [])
    | some text => (text.entries, s.1, s.2.setIssues deploymentId (text.issues deploymentId))

def withVolatile (deploymentId : String) (durable : List JournalEntry) (j : LocalStorageJournal) :
    List JournalEntry :=
  let volatile := j.volatileEntries.filter fun entry => entry.deploymentId = deploymentId
  durable.filter (fun entry => entry.clientOperationId ∉
    volatile.map JournalEntry.clientOperationId) ++ volatile

def load (deploymentId : String) (m : Moment) (s : State) : List JournalEntry × State :=
  let loaded := loadDurable deploymentId m s
  (withVolatile deploymentId loaded.1 loaded.2.2, loaded.2)

def loadIssues (deploymentId : String) (s : State) : List JournalLoadIssue :=
  s.2.issues deploymentId ++
    (s.2.writeIssues.map Prod.snd).filter fun issue => issue.deploymentId = deploymentId

def sameOperationIntent (left right : JournalEntry) : Bool :=
  left.clientOperationId = right.clientOperationId &&
    left.deploymentId = right.deploymentId &&
    left.chainId = right.chainId &&
    Text.lower left.account = Text.lower right.account &&
    left.protocolVersion = right.protocolVersion &&
    left.action = right.action &&
    left.saleId = right.saleId &&
    left.tokenId = right.tokenId &&
    Text.lower left.intendedContract = Text.lower right.intendedContract &&
    Text.lower left.intendedCalldata = Text.lower right.intendedCalldata &&
    left.valueWei = right.valueWei &&
    left.walletRequestStartedAt = right.walletRequestStartedAt

/-- Any of the hashes, the receipt, the association or the event is there. A
stored text is never empty, so a value that is there is true. -/
def hasTransactionEvidence (entry : JournalEntry) : Bool :=
  entry.currentTxHash.isSome || entry.originalTxHash.isSome || entry.receiptStatus.isSome ||
    entry.receiptBlockHash.isSome || entry.association.isSome ||
    entry.projectionTransactionHash.isSome || entry.eventLogIndex.isSome

/-- One key of `{ ...durable, ...volatile }`. A volatile entry in which the key holds
`undefined` hides the durable row's value, and one that lacks the key does not. -/
def spreadKey {α : Type} (m : Moment) (key : String) (durable volatile : Option α) : Option α :=
  volatile.or (if m.holdsUndefined key then none else durable)

@[simp] theorem spreadKey_some {α : Type} (m : Moment) (key : String) (durable : Option α)
    (value : α) : spreadKey m key durable (some value) = some value := rfl

theorem spreadKey_none {α : Type} (m : Moment) (key : String) (durable : Option α) (value : α) :
    spreadKey m key durable none = some value ↔
      m.holdsUndefined key = false ∧ durable = some value := by
  simp [spreadKey]

@[simp] theorem spreadKey_self {α : Type} (m : Moment) (key : String) (value : Option α) :
    spreadKey m key value value = value := by
  cases value <;> simp [spreadKey]

/-- `{ ...durable, ...volatile }`. -/
def JournalEntry.spread (m : Moment) (durable volatile : JournalEntry) : JournalEntry where
  schemaVersion := volatile.schemaVersion
  clientOperationId := volatile.clientOperationId
  revision := spreadKey m "revision" durable.revision volatile.revision
  retryOf := spreadKey m "retryOf" durable.retryOf volatile.retryOf
  createdAt := volatile.createdAt
  updatedAt := volatile.updatedAt
  deploymentId := volatile.deploymentId
  chainId := volatile.chainId
  account := volatile.account
  protocolVersion := volatile.protocolVersion
  action := volatile.action
  saleId := spreadKey m "saleId" durable.saleId volatile.saleId
  tokenId := spreadKey m "tokenId" durable.tokenId volatile.tokenId
  intendedContract := volatile.intendedContract
  intendedCalldata := volatile.intendedCalldata
  calldataSummary := volatile.calldataSummary
  valueWei := volatile.valueWei
  walletRequestStartedAt := spreadKey m "walletRequestStartedAt"
    durable.walletRequestStartedAt volatile.walletRequestStartedAt
  originalTxHash := spreadKey m "originalTxHash" durable.originalTxHash volatile.originalTxHash
  currentTxHash := spreadKey m "currentTxHash" durable.currentTxHash volatile.currentTxHash
  nonce := spreadKey m "nonce" durable.nonce volatile.nonce
  receiptStatus := spreadKey m "receiptStatus" durable.receiptStatus volatile.receiptStatus
  receiptBlockNumber :=
    spreadKey m "receiptBlockNumber" durable.receiptBlockNumber volatile.receiptBlockNumber
  receiptBlockHash :=
    spreadKey m "receiptBlockHash" durable.receiptBlockHash volatile.receiptBlockHash
  finalityStatus := spreadKey m "finalityStatus" durable.finalityStatus volatile.finalityStatus
  finalizedHeadNumber :=
    spreadKey m "finalizedHeadNumber" durable.finalizedHeadNumber volatile.finalizedHeadNumber
  finalizedHeadHash :=
    spreadKey m "finalizedHeadHash" durable.finalizedHeadHash volatile.finalizedHeadHash
  finalizedAt := spreadKey m "finalizedAt" durable.finalizedAt volatile.finalizedAt
  eventLogIndex := spreadKey m "eventLogIndex" durable.eventLogIndex volatile.eventLogIndex
  eventBuyer := spreadKey m "eventBuyer" durable.eventBuyer volatile.eventBuyer
  eventAmountWei := spreadKey m "eventAmountWei" durable.eventAmountWei volatile.eventAmountWei
  evidenceSource := spreadKey m "evidenceSource" durable.evidenceSource volatile.evidenceSource
  association := spreadKey m "association" durable.association volatile.association
  replacementKind := spreadKey m "replacementKind" durable.replacementKind volatile.replacementKind
  lastVerifiedAt := spreadKey m "lastVerifiedAt" durable.lastVerifiedAt volatile.lastVerifiedAt
  verificationRequestId :=
    spreadKey m "verificationRequestId" durable.verificationRequestId volatile.verificationRequestId
  verificationAvailability := spreadKey m "verificationAvailability"
    durable.verificationAvailability volatile.verificationAvailability
  projectionObservation :=
    spreadKey m "projectionObservation" durable.projectionObservation volatile.projectionObservation
  projectionTransactionHash := spreadKey m "projectionTransactionHash"
    durable.projectionTransactionHash volatile.projectionTransactionHash
  projectionBlockHash :=
    spreadKey m "projectionBlockHash" durable.projectionBlockHash volatile.projectionBlockHash
  projectionLogIndex :=
    spreadKey m "projectionLogIndex" durable.projectionLogIndex volatile.projectionLogIndex
  projectionDeploymentId := spreadKey m "projectionDeploymentId"
    durable.projectionDeploymentId volatile.projectionDeploymentId
  projectionBuildId :=
    spreadKey m "projectionBuildId" durable.projectionBuildId volatile.projectionBuildId
  walletRequestOutcome :=
    spreadKey m "walletRequestOutcome" durable.walletRequestOutcome volatile.walletRequestOutcome
  walletRequestOutcomeAt := spreadKey m "walletRequestOutcomeAt"
    durable.walletRequestOutcomeAt volatile.walletRequestOutcomeAt
  status := volatile.status
  lastErrorCategory :=
    spreadKey m "lastErrorCategory" durable.lastErrorCategory volatile.lastErrorCategory

def rebaseUniqueVolatileEvidence (m : Moment) (durable : Option JournalEntry)
    (volatile : JournalEntry) : Option JournalEntry :=
  match durable with
  | none => none
  | some durable =>
    if sameOperationIntent durable volatile = false ∨ hasTransactionEvidence durable = true ∨
        hasTransactionEvidence volatile = false then none
    else some { durable.spread m volatile with
      revision := durable.revision
      verificationRequestId := volatile.verificationRequestId
      verificationAvailability := volatile.verificationAvailability
      lastErrorCategory := volatile.lastErrorCategory }

def revisionConflict : JsError := newError "JOURNAL_REVISION_CONFLICT"

def storageInvalid : JsError := newError "JOURNAL_STORAGE_INVALID"

/-- The revision that a row is compared at. -/
def currentRevision (current : Option JournalEntry) : ℕ := (current.map JournalEntry.version).getD 0

/-- The entry at the revision after `version`. -/
def JournalEntry.after (entry : JournalEntry) (version : ℕ) : JournalEntry :=
  { entry with revision := some (version + 1) }

@[simp] theorem version_after (entry : JournalEntry) (version : ℕ) :
    (entry.after version).version = version + 1 := rfl

/-- What runs under the lock: `candidate` says what to write over the current row. -/
def persist (parsed : JournalEntry)
    (candidate : Moment → LocalStorageJournal → Option JournalEntry → Option JournalEntry)
    (m : Moment) (s : State) : Except JsError JournalEntry × State :=
  let loaded := loadDurable parsed.deploymentId m s
  let issues := loaded.2.2.issues parsed.deploymentId
  if issues.any fun issue => issue.reason = .storageUnavailable then
    (.error (newError "JOURNAL_STORAGE_UNAVAILABLE"), loaded.2)
  else if issues ≠ [] then (.error storageInvalid, loaded.2)
  else
    let current := loaded.1.find? fun item => item.clientOperationId = parsed.clientOperationId
    match candidate m loaded.2.2 current with
    | none => (.error revisionConflict, loaded.2)
    | some entry =>
      let persisted := entry.after (currentRevision current)
      let entries := loaded.1.filter fun item =>
        item.clientOperationId ≠ parsed.clientOperationId
      match m.setItem with
      | some message => (.error (newError message), loaded.2)
      | none => (.ok persisted, Function.update s.1 parsed.deploymentId
          (some (.array ((entries ++ [persisted]).map .ok))), loaded.2.2)

/-- The lock is awaited, and then the outcome of what ran under it. -/
def locked {α : Type} (operation : Moment → State → α × State) : Program α :=
  Async.request .writeLock >>= fun _ => Async.access operation >>= fun outcome =>
    Async.request .settled >>= fun _ => pure outcome

def checked (entry : JournalEntry) : Program JournalEntry :=
  match parseEntry entry with
  | .ok parsed => pure parsed
  | .error error => throw error

def storageWriteError (entry : JournalEntry) (error : JsError) : Program JournalEntry :=
  Async.attempt fun _ s =>
    (.error (newError ("JOURNAL_STORAGE_UNAVAILABLE: " ++ error.message)), s.1,
      s.2.setWriteIssue entry.clientOperationId
        ⟨entry.deploymentId, .storageUnavailable, error.message⟩)

/-- The outcome of `persist`, outside the lock. -/
def settleWrite (parsed : JournalEntry) : Except JsError JournalEntry → Program JournalEntry
  | .ok stored => pure stored
  | .error error =>
    if error.message = revisionConflict.message ∨ error.message = storageInvalid.message then
      throw error
    else storageWriteError parsed error

def saveCandidate (parsed : JournalEntry) (_ : Moment) (_ : LocalStorageJournal)
    (current : Option JournalEntry) : Option JournalEntry :=
  if currentRevision current = parsed.version then some parsed else none

def retryCandidate (parsed : JournalEntry) (m : Moment) (j : LocalStorageJournal)
    (current : Option JournalEntry) : Option JournalEntry :=
  if currentRevision current = (j.volatileBaseRevisions parsed.clientOperationId).getD 0 then
    some parsed
  else rebaseUniqueVolatileEvidence m current parsed

/-- While a row is volatile, a save replaces the volatile entry. -/
def saveOverVolatile (parsed volatile : JournalEntry) : Program JournalEntry :=
  Async.attempt fun _ s =>
    if parsed.version ≠ volatile.version then (.error revisionConflict, s)
    else
      let stored := parsed.after parsed.version
      (.ok stored, s.1, s.2.setVolatile stored)

def save (entry : JournalEntry) : Program JournalEntry := do
  let parsed ← checked entry
  let volatile ← Async.access fun _ s => (s.2.volatile? parsed.clientOperationId, s)
  match volatile with
  | some volatile => saveOverVolatile parsed volatile
  | none =>
    let outcome ← locked (persist parsed (saveCandidate parsed))
    let stored ← settleWrite parsed outcome
    Async.access fun _ s => ((), s.1, s.2.deleteWriteIssue parsed.clientOperationId)
    pure stored

def retryDurableSave (entry : JournalEntry) : Program JournalEntry := do
  let parsed ← checked entry
  let volatile ← Async.access fun _ s => (s.2.volatile? parsed.clientOperationId, s)
  match volatile with
  | none => save parsed
  | some volatile =>
    if parsed.version ≠ volatile.version then throw revisionConflict
    else
      let outcome ← locked (persist parsed (retryCandidate parsed))
      let stored ← settleWrite parsed outcome
      Async.access fun _ s => ((), s.1, (s.2.dropVolatile parsed.clientOperationId).deleteWriteIssue
        parsed.clientOperationId)
      pure stored

def saveVolatile (entry : JournalEntry) : Program JournalEntry := do
  let parsed ← checked entry
  Async.access fun _ s =>
    let base := (s.2.volatileBaseRevisions parsed.clientOperationId).getD parsed.version
    let stored := parsed.after parsed.version
    (stored, s.1, { s.2.setVolatile stored with
      volatileBaseRevisions :=
        Function.update s.2.volatileBaseRevisions parsed.clientOperationId (some base) })

end MotorCove.Web
