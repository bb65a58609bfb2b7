import MotorCove.Web.LocalStorageJournal

/-!
# Recovery

A recheck reads what the chain says of an operation's transaction, and then what
the marketplace's projection says of its event, into the operation's row. Each
run marks the row with an id of its own, and gives up when another run has
marked it since.
-/

set_option autoImplicit false

namespace MotorCove.Web
open MotorCove.Asynchrony

inductive RecoveryResult where
  | hashRequired
  | pending
  | reverted
  | included
  | syncing
  | reflected
  | inconsistent
  | rejectedCandidate (reason : String)
  | replacementHashRequired
  | superseded
  | unavailable (reason : String)
  deriving DecidableEq, Repr

def find (deploymentId clientOperationId : String) (m : Moment) (s : State) :
    Option JournalEntry × State :=
  let loaded := load deploymentId m s
  (loaded.1.find? fun candidate => candidate.clientOperationId = clientOperationId, loaded.2)

def latestEntry (entry : JournalEntry) (m : Moment) (s : State) : JournalEntry × State :=
  let found := find entry.deploymentId entry.clientOperationId m s
  (found.1.getD entry, found.2)

def storageWriteUnavailable (error : JsError) : Bool :=
  error.name = "QuotaExceededError" || error.name = "SecurityError" ||
    "JOURNAL_STORAGE_UNAVAILABLE".toList.isPrefixOf error.message.toList

def now (m : Moment) (s : State) : String × State := (m.now, s)

def storageUnavailable (deploymentId : String) (_ : Moment) (s : State) : Bool × State :=
  ((loadIssues deploymentId s).any fun issue => issue.reason = .storageUnavailable, s)

/-- What an update does when its write throws. -/
def recoverWrite (entry next : JournalEntry) (error : JsError) : Program (JournalEntry × Bool) :=
  if error.message = revisionConflict.message then do
    let latest ← Async.access (latestEntry entry)
    pure (latest, false)
  else if storageWriteUnavailable error then do
    let stored ← saveVolatile next
    pure (stored, true)
  else throw error

/-- The entry that is in the journal afterwards, and whether the values went into it. -/
def update (entry : JournalEntry) (values : JournalEntry → JournalEntry)
    (verificationRequestId : Option String) : Program (JournalEntry × Bool) := do
  let current ← Async.access (latestEntry entry)
  if verificationRequestId.isSome ∧ current.verificationRequestId ≠ verificationRequestId then
    pure (current, false)
  else
    let time ← Async.access now
    let next := { values current with updatedAt := time }
    let retry ← Async.access (storageUnavailable entry.deploymentId)
    tryCatch (do
      let stored ← Async.awaited .settled (if retry then retryDurableSave next else save next)
      pure (stored, true)) (recoverWrite entry next)

def conclude (verifying : JournalEntry) (uuid : String)
    (values : String → JournalEntry → JournalEntry) (result : RecoveryResult) :
    Program RecoveryResult := do
  let time ← Async.access now
  let updated ← Async.awaited .settled (update verifying (values time) (some uuid))
  pure (if updated.2 then result else .superseded)

def sameReceipt (verifying : JournalEntry) (inclusion : Inclusion) : Bool :=
  verifying.currentTxHash.map Text.lower = some (Text.lower inclusion.transactionHash) &&
    verifying.receiptBlockNumber = some (Nat.repr inclusion.blockNumber) &&
    verifying.receiptBlockHash.map Text.lower = some (Text.lower inclusion.blockHash)

def finalityValues (time : String) : FinalityProof → JournalEntry → JournalEntry
  | .finalized headNumber headHash, current => { current with
      finalityStatus := some .finalized
      finalizedHeadNumber := some (Nat.repr headNumber)
      finalizedHeadHash := some headHash
      finalizedAt := some time }
  | .unfinalized, current => { current with
      finalityStatus := some .unfinalized
      finalizedHeadNumber := none
      finalizedHeadHash := none
      finalizedAt := none }
  | .unknown, current => { current with
      finalityStatus := some .unknown
      finalizedHeadNumber := none
      finalizedHeadHash := none
      finalizedAt := none }

/-- A finality that is already known of this receipt stays. An observation that
fails says nothing. -/
def finalityFields (observesFinality : Bool) (verifying : JournalEntry) (inclusion : Inclusion) :
    Program (JournalEntry → JournalEntry) :=
  if observesFinality = false then pure id
  else if sameReceipt verifying inclusion ∧ verifying.finalityStatus = some .finalized then
    pure fun current => { current with finalityStatus := some .finalized }
  else do
    let answer : Except JsError FinalityProof ← Async.request
      (Request.observeFinality verifying inclusion.blockNumber inclusion.blockHash)
    let time ← Async.access now
    pure (finalityValues time (answer.toOption.getD .unknown))

/-- How the hash came to be the operation's. A candidate was supplied by the user. -/
def associated (verifying : JournalEntry) (candidateHash : Option String)
    (current : JournalEntry) : JournalEntry :=
  { current with
    association := some (if candidateHash.isSome then .intentMatch
      else verifying.association.getD .exactSubmission)
    evidenceSource := some (if candidateHash.isSome then .userSupplied
      else verifying.evidenceSource.getD .walletReturned) }

/-- The hash that was verified becomes the original one, unless there was one. -/
def withOriginal (verifying : JournalEntry) (verifiedHash : String) (current : JournalEntry) :
    JournalEntry :=
  { current with
    originalTxHash := if verifying.originalTxHash.isSome then current.originalTxHash
      else some verifiedHash }

def pendingValues (verifying : JournalEntry) (verifiedHash : String)
    (candidateHash : Option String) (time : String) (current : JournalEntry) : JournalEntry :=
  { withOriginal verifying verifiedHash (associated verifying candidateHash current) with
    currentTxHash := some verifiedHash
    status := .submitted
    verificationAvailability := some .available
    lastVerifiedAt := some time
    lastErrorCategory := some "RECEIPT_NOT_AVAILABLE" }

def includedValues (verifying : JournalEntry) (verifiedHash : String)
    (candidateHash : Option String) (receiptStatus : ReceiptStatus) (inclusion : Inclusion)
    (finality : JournalEntry → JournalEntry) (time : String) (current : JournalEntry) :
    JournalEntry :=
  { finality (withOriginal verifying verifiedHash (associated verifying candidateHash current)) with
    currentTxHash := some inclusion.transactionHash
    receiptStatus := some receiptStatus
    receiptBlockNumber := some (Nat.repr inclusion.blockNumber)
    receiptBlockHash := some inclusion.blockHash
    replacementKind := if inclusion.repriced then some .repriced else current.replacementKind
    status := match receiptStatus with
      | .success => .includedSuccess
      | .reverted => .includedReverted
    verificationAvailability := some .available
    lastVerifiedAt := some time
    lastErrorCategory := none }

/-- Another event, block or transaction than the projection was observed for. -/
def projectionIdentityChanged (verifying : JournalEntry) (inclusion : Inclusion)
    (logIndex : ℕ) : Bool :=
  verifying.projectionTransactionHash ≠ some inclusion.transactionHash ||
    verifying.projectionBlockHash ≠ some inclusion.blockHash ||
    verifying.projectionLogIndex ≠ some logIndex ||
    verifying.projectionDeploymentId ≠ some verifying.deploymentId

def clearedProjection (current : JournalEntry) : JournalEntry :=
  { current with
    projectionObservation := none
    projectionTransactionHash := none
    projectionBlockHash := none
    projectionLogIndex := none
    projectionDeploymentId := none
    projectionBuildId := none }

def fundingValues (verifying : JournalEntry) (verifiedHash : String)
    (candidateHash : Option String) (inclusion : Inclusion) (logIndex : ℕ) (buyer : String)
    (amountWei : ℕ) (finality : JournalEntry → JournalEntry) (time : String)
    (current : JournalEntry) : JournalEntry :=
  let evidence := { includedValues verifying verifiedHash candidateHash .success inclusion finality
      time current with
    eventLogIndex := some logIndex
    eventBuyer := some buyer
    eventAmountWei := some (Nat.repr amountWei) }
  if projectionIdentityChanged verifying inclusion logIndex then clearedProjection evidence
  else evidence

def projectionOf (observation : FundingObservation) : ProjectionObservation :=
  match observation.coverage with
  | .notReached => .notReached
  | .unverifiable => .unverifiable
  | .scanned =>
    if observation.matched ∧ observation.consistent then .reflected else .inconsistent

def projectionValues (deploymentId : String) (inclusion : Inclusion) (logIndex : ℕ)
    (observation : FundingObservation) (time : String) (current : JournalEntry) : JournalEntry :=
  { current with
    projectionObservation := some (projectionOf observation)
    projectionTransactionHash := some inclusion.transactionHash
    projectionBlockHash := some inclusion.blockHash
    projectionLogIndex := some logIndex
    projectionDeploymentId := some deploymentId
    projectionBuildId := some observation.projectionBuildId
    lastVerifiedAt := some time
    verificationAvailability := some .available
    lastErrorCategory := if projectionOf observation = .inconsistent then
      some "PROJECTION_EVIDENCE_MISMATCH" else none }

/-- The page shows a funding as reflected for as long as the projection was
observed for the receipt and the event that the row holds. -/
def isProjectionCurrentlyReflected (entry : JournalEntry) : Bool :=
  entry.status = .includedSuccess && entry.receiptStatus = some .success &&
    entry.projectionObservation = some .reflected &&
    entry.projectionTransactionHash = entry.currentTxHash &&
    entry.projectionBlockHash = entry.receiptBlockHash &&
    entry.projectionLogIndex = entry.eventLogIndex &&
    entry.projectionDeploymentId = some entry.deploymentId &&
    entry.projectionBuildId.any (· ≠ "")

def projectionResult : ProjectionObservation → RecoveryResult
  | .reflected => .reflected
  | .notReached => .syncing
  | _ => .inconsistent

/-- The observation, and the update with it, are tried together. -/
def observeProjection (evidence : JournalEntry) (uuid saleId : String) (inclusion : Inclusion)
    (logIndex : ℕ) : Program RecoveryResult :=
  tryCatch (do
    let answer : Except JsError FundingObservation ← Async.request
      (Request.observeFunding saleId evidence.deploymentId inclusion.transactionHash
        (Nat.repr inclusion.blockNumber) inclusion.blockHash logIndex)
    match answer with
    | .error error => throw error
    | .ok observation =>
      conclude evidence uuid (projectionValues evidence.deploymentId inclusion logIndex observation)
        (projectionResult (projectionOf observation))) fun error =>
    conclude evidence uuid (fun _ current => { current with
      verificationAvailability := some .unavailable
      lastErrorCategory := some "PROJECTION_OBSERVATION_UNAVAILABLE" }) (.unavailable error.message)

def recordFunding (uuid : String) (observesFinality : Bool) (verifying : JournalEntry)
    (verifiedHash : String) (candidateHash : Option String) (inclusion : Inclusion)
    (logIndex : ℕ) (buyer : String) (amountWei : ℕ) (finality : JournalEntry → JournalEntry) :
    Program RecoveryResult := do
  let time ← Async.access now
  let recorded ← Async.awaited .settled (update verifying
    (fundingValues verifying verifiedHash candidateHash inclusion logIndex buyer amountWei finality
      time) (some uuid))
  if recorded.2 = false then pure .superseded
  else
    match recorded.1.saleId with
    | none => conclude recorded.1 uuid (fun _ current => { current with
        projectionObservation := some .inconsistent
        lastErrorCategory := some "FUNDING_SALE_ID_MISSING" }) .inconsistent
    | some saleId =>
      if observesFinality ∧ recorded.1.chainId ≠ 31337 ∧
          recorded.1.finalityStatus ≠ some .finalized then pure .included
      else observeProjection recorded.1 uuid saleId inclusion logIndex

def recordSuccess (uuid : String) (observesFinality : Bool) (verifying : JournalEntry)
    (verifiedHash : String) (candidateHash : Option String) (inclusion : Inclusion)
    (event : Option (ℕ × String × ℕ)) (finality : JournalEntry → JournalEntry) :
    Program RecoveryResult :=
  if verifying.action ≠ "FUND_SALE" then
    conclude verifying uuid (fun time current =>
      { includedValues verifying verifiedHash candidateHash .success inclusion finality time
          current with
        projectionObservation := none }) .included
  else
    match event with
    | none => conclude verifying uuid (fun time current => { current with
        verificationAvailability := some .available
        lastVerifiedAt := some time
        lastErrorCategory := some "FUNDING_EVENT_EVIDENCE_MISSING" }) .inconsistent
    | some (logIndex, buyer, amountWei) =>
      recordFunding uuid observesFinality verifying verifiedHash candidateHash inclusion logIndex
        buyer amountWei finality

/-- The event of a receipt, when all three of its values are there. -/
def eventOf (logIndex : Option ℕ) (buyer : Option String) (amountWei : Option ℕ) :
    Option (ℕ × String × ℕ) :=
  logIndex.bind fun l => buyer.bind fun b => amountWei.map fun a => (l, b, a)

def replacementText : ReplacementKind → String
  | .repriced => "REPRICED"
  | .cancelled => "CANCELLED"
  | .differentCall => "DIFFERENT_CALL"

def recordInspection (uuid : String) (observesFinality : Bool) (verifying : JournalEntry)
    (verifiedHash : String) (candidateHash : Option String) :
    InspectedTransaction → Program RecoveryResult
  | .replacementHashRequired _ _ =>
    conclude verifying uuid (fun _ current => { current with
      verificationAvailability := some .unavailable
      lastErrorCategory := some "REPLACEMENT_HASH_REQUIRED" }) .replacementHashRequired
  | .unavailable _ reason =>
    conclude verifying uuid (fun _ current => { current with
      verificationAvailability := some .unavailable
      lastErrorCategory := some reason }) (.unavailable reason)
  | .intentMismatch _ reason =>
    conclude verifying uuid (fun time current => { current with
      verificationAvailability := some .available
      lastVerifiedAt := some time
      lastErrorCategory := some ("CANDIDATE_REJECTED:" ++ reason) }) (.rejectedCandidate reason)
  | .noncanonical _ =>
    conclude verifying uuid (fun time current => { current with
      status := .orphaned
      projectionObservation := some .inconsistent
      verificationAvailability := some .available
      lastVerifiedAt := some time
      lastErrorCategory := some "RECEIPT_BLOCK_NONCANONICAL" }) .inconsistent
  | .replacedOrCancelled _ replacementHash kind =>
    conclude verifying uuid (fun time current => { current with
      currentTxHash := some replacementHash
      replacementKind := some kind
      status := .replacedOrCancelled
      projectionObservation := some .inconsistent
      verificationAvailability := some .available
      lastVerifiedAt := some time
      lastErrorCategory := some ("TRANSACTION_" ++ replacementText kind) }) .inconsistent
  | .pending _ =>
    conclude verifying uuid (pendingValues verifying verifiedHash candidateHash) .pending
  | .includedReverted inclusion => do
    let finality ← finalityFields observesFinality verifying inclusion
    conclude verifying uuid
      (includedValues verifying verifiedHash candidateHash .reverted inclusion finality) .reverted
  | .includedSuccess inclusion logIndex buyer amountWei => do
    let finality ← finalityFields observesFinality verifying inclusion
    recordSuccess uuid observesFinality verifying verifiedHash candidateHash inclusion
      (eventOf logIndex buyer amountWei) finality

/-- `crypto.randomUUID()` gives the run its `uuid`, and the chain reader may
observe finality or not. -/
def resumeJournalEntry (uuid : String) (observesFinality : Bool) (requestedEntry : JournalEntry)
    (candidateHash : Option String) (mode : Mode) : Program RecoveryResult := do
  let entry ← Async.access (latestEntry requestedEntry)
  match candidateHash.or (entry.currentTxHash.or entry.originalTxHash) with
  | none =>
    let _ ← Async.awaited .settled (update entry (fun current => { current with
      status := .unknown
      verificationAvailability := some .available
      lastErrorCategory := some "HASH_REQUIRED_FROM_WALLET_ACTIVITY" }) none)
    pure .hashRequired
  | some verifiedHash =>
    let verifying ← Async.awaited .settled (update entry (fun current => { current with
      verificationAvailability := some .verifying
      verificationRequestId := some uuid }) none)
    let answer : Except JsError InspectedTransaction ← Async.request
      (Request.inspectTransaction verifying.1 verifiedHash mode)
    match answer with
    | .error error => throw error
    | .ok inspected =>
      recordInspection uuid observesFinality verifying.1 verifiedHash candidateHash inspected

/-- What the observer in a tab does for an entry, when the lock of the
operation's observation is acquired. -/
def recheck (uuid : String) (observesFinality : Bool) (deploymentId clientOperationId : String)
    (candidateHash : Option String) (mode : Mode) : Program (Option RecoveryResult) := do
  let acquired : Bool ← Async.request Request.observationLock
  if acquired = true then
    let current ← Async.access (find deploymentId clientOperationId)
    match current with
    | none => pure none
    | some current =>
      let result ← Async.awaited .settled
        (resumeJournalEntry uuid observesFinality current candidateHash mode)
      pure (some result)
  else pure none

end MotorCove.Web
