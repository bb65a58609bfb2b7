import MotorCove.Web.Recovery

/-!
# Submission

An operation is written into the journal before the wallet is asked for it, and
the wallet's answer is written over what was written before, also where a
recheck has rewritten the row in the meantime.
-/

set_option autoImplicit false

namespace MotorCove.Web
open MotorCove.Asynchrony

structure SubmissionContext where
  deploymentId : String
  chainId : ℕ
  account : String
  protocolVersion : String

structure SubmissionAction where
  name : String
  saleId : Option ℕ
  tokenId : Option ℕ
  value : ℕ
  contract : String
  calldata : String
  retryOf : Option String

inductive SubmissionResult where
  | submitted (hash clientOperationId : String)
  | submittedNonDurable (hash clientOperationId : String)
  | rejected (clientOperationId : String) (durable : Bool)
  | failed (message clientOperationId : String)
  | unknown (clientOperationId : String) (durable : Bool)
  deriving DecidableEq, Repr

def contains (needle text : String) : Bool :=
  (Text.lower text).toList.tails.any fun rest => needle.toList.isPrefixOf rest

def rejectedByUser (error : JsError) : Bool :=
  error.code = some 4001 || error.name = "UserRejectedRequestError" ||
    contains "user rejected" error.message || contains "user denied" error.message

def sameSubmissionIntent (left right : JournalEntry) : Bool :=
  left.clientOperationId = right.clientOperationId &&
    left.deploymentId = right.deploymentId &&
    left.chainId = right.chainId &&
    left.account = right.account &&
    left.protocolVersion = right.protocolVersion &&
    left.action = right.action &&
    left.saleId = right.saleId &&
    left.tokenId = right.tokenId &&
    left.intendedContract = right.intendedContract &&
    left.intendedCalldata = right.intendedCalldata &&
    left.valueWei = right.valueWei

def sameImmutableIntent (entry : JournalEntry) (context : SubmissionContext)
    (action : SubmissionAction) : Bool :=
  Text.lower entry.deploymentId = Text.lower context.deploymentId &&
    entry.chainId = context.chainId &&
    Text.lower entry.account = Text.lower context.account &&
    entry.protocolVersion = context.protocolVersion &&
    entry.action = action.name &&
    entry.saleId = action.saleId.map Nat.repr &&
    entry.tokenId = action.tokenId.map Nat.repr &&
    Text.lower entry.intendedContract = Text.lower action.contract &&
    Text.lower entry.intendedCalldata = Text.lower action.calldata &&
    entry.valueWei = Nat.repr action.value

def attemptStillOwnsIntent (entry : JournalEntry) : Bool :=
  entry.status ∈ [.preparing, .awaitingWallet, .submitted, .unknown, .includedSuccess, .orphaned]

def sameWalletRequest (left right : JournalEntry) : Bool :=
  sameSubmissionIntent left right && left.walletRequestStartedAt.isSome &&
    left.walletRequestStartedAt = right.walletRequestStartedAt

def rebasedHash (submitted current : JournalEntry) : JournalEntry :=
  { current with
    updatedAt := submitted.updatedAt
    originalTxHash := submitted.originalTxHash
    currentTxHash := submitted.currentTxHash
    evidenceSource := submitted.evidenceSource
    association := submitted.association
    status := .submitted
    verificationAvailability := none
    verificationRequestId := none
    lastErrorCategory := none }

/-- The returned hash meets a newer row. -/
def rebaseReturnedHash (submitted : JournalEntry) (error : JsError) : Program JournalEntry := do
  let found ← Async.access (find submitted.deploymentId submitted.clientOperationId)
  match found with
  | none => throw error
  | some current =>
    if sameSubmissionIntent current submitted = false then throw error
    else
      match submitted.currentTxHash.or submitted.originalTxHash,
        current.currentTxHash.or current.originalTxHash with
      | none, _ => throw error
      | some returnedHash, some durableHash =>
        if Text.lower durableHash ≠ Text.lower returnedHash then throw error
        else pure current
      | some _, none => Async.awaited .settled (save (rebasedHash submitted current))

def persistReturnedHash (submitted : JournalEntry) : Program JournalEntry :=
  tryCatch (Async.awaited .settled (save submitted)) fun error =>
    if error.message ≠ revisionConflict.message then throw error
    else rebaseReturnedHash submitted error

def mergeWalletOutcome (outcome : WalletRequestOutcome) (outcomeAt : String)
    (current : JournalEntry) : JournalEntry :=
  let merged := { current with
    updatedAt := outcomeAt
    walletRequestOutcome := some outcome
    walletRequestOutcomeAt := some outcomeAt }
  if hasTransactionEvidence current then merged
  else
    match outcome with
    | .rejected => { merged with
        status := .rejected
        lastErrorCategory := some "WALLET_REJECTED" }
    | .unknown => { merged with
        status := .unknown
        lastErrorCategory := some "SUBMISSION_UNKNOWN" }

/-- The row of the wallet request, as a load finds it. -/
def findWalletRequest (awaitingWallet : JournalEntry) (m : Moment) (s : State) :
    Option JournalEntry × State :=
  let found := find awaitingWallet.deploymentId awaitingWallet.clientOperationId m s
  (found.1.filter fun current => sameWalletRequest current awaitingWallet, found.2)

/-- The attempts that are left to write the outcome into the row. -/
def attemptOutcome (awaitingWallet : JournalEntry) (outcome : WalletRequestOutcome)
    (outcomeAt : String) : ℕ → JournalEntry → Program Bool
  | 0, _ => do
    let current ← Async.access (findWalletRequest awaitingWallet)
    match current with
    | none => pure false
    | some current =>
      let _ ← saveVolatile (mergeWalletOutcome outcome outcomeAt current)
      pure false
  | attempts + 1, candidate =>
    tryCatch (do
      let _ ← Async.awaited .settled (save candidate)
      pure true) fun error => do
        let current ← Async.access (findWalletRequest awaitingWallet)
        if error.message ≠ revisionConflict.message then
          let _ ← saveVolatile (mergeWalletOutcome outcome outcomeAt (current.getD candidate))
          pure false
        else
          match current with
          | none => pure false
          | some current =>
            attemptOutcome awaitingWallet outcome outcomeAt attempts
              (mergeWalletOutcome outcome outcomeAt current)

def persistWalletOutcome (awaitingWallet : JournalEntry) (outcome : WalletRequestOutcome) :
    Program Bool := do
  let outcomeAt ← Async.access now
  attemptOutcome awaitingWallet outcome outcomeAt 3
    (mergeWalletOutcome outcome outcomeAt awaitingWallet)

/-- The row of a new attempt, under the id that `crypto.randomUUID()` gave it. -/
def preparing (uuid : String) (context : SubmissionContext) (action : SubmissionAction)
    (createdAt : String) : JournalEntry where
  schemaVersion := 1
  clientOperationId := uuid
  revision := some 0
  retryOf := action.retryOf
  createdAt := createdAt
  updatedAt := createdAt
  deploymentId := context.deploymentId
  chainId := context.chainId
  account := context.account
  protocolVersion := context.protocolVersion
  action := action.name
  saleId := action.saleId.map Nat.repr
  tokenId := action.tokenId.map Nat.repr
  intendedContract := action.contract
  intendedCalldata := action.calldata
  calldataSummary := action.name
  valueWei := Nat.repr action.value
  walletRequestStartedAt := none
  originalTxHash := none
  currentTxHash := none
  nonce := none
  receiptStatus := none
  receiptBlockNumber := none
  receiptBlockHash := none
  finalityStatus := none
  finalizedHeadNumber := none
  finalizedHeadHash := none
  finalizedAt := none
  eventLogIndex := none
  eventBuyer := none
  eventAmountWei := none
  evidenceSource := none
  association := none
  replacementKind := none
  lastVerifiedAt := none
  verificationRequestId := none
  verificationAvailability := none
  projectionObservation := none
  projectionTransactionHash := none
  projectionBlockHash := none
  projectionLogIndex := none
  projectionDeploymentId := none
  projectionBuildId := none
  walletRequestOutcome := none
  walletRequestOutcomeAt := none
  status := .preparing
  lastErrorCategory := none

def awaiting (base : JournalEntry) (updatedAt startedAt : String) : JournalEntry :=
  { base with
    updatedAt := updatedAt
    walletRequestStartedAt := some startedAt
    status := .awaitingWallet }

def returned (awaitingWallet : JournalEntry) (hash updatedAt : String) : JournalEntry :=
  { awaitingWallet with
    updatedAt := updatedAt
    originalTxHash := some hash
    currentTxHash := some hash
    evidenceSource := some .walletReturned
    association := some .exactSubmission
    status := .submitted }

def operationContextChanged : JsError := newError "OPERATION_CONTEXT_CHANGED"

def contextStillCurrent (m : Moment) (s : State) : Bool × State := (m.contextStillCurrent, s)

def requireContext : Program Unit := do
  let current ← Async.access contextStillCurrent
  if current then pure () else throw operationContextChanged

def answered {α : Type} : Except JsError α → Program α
  | .ok a => pure a
  | .error error => throw error

def simulate : Program Unit := do
  requireContext
  let answer : Except JsError Unit ← Async.request Request.simulate
  answered answer
  requireContext

def failBeforeSubmit (entry : JournalEntry) (category message : String) :
    Program SubmissionResult := do
  let time ← Async.access now
  let _ ← Async.awaited .settled (save { entry with
    updatedAt := time
    status := .failedBeforeSubmit
    lastErrorCategory := some category })
  pure (.failed message entry.clientOperationId)

/-- The nonce cannot erase the hash that is already there. -/
def enrich (submitted : JournalEntry) (hash : String) : Program Unit :=
  tryCatch (do
    let answer : Except JsError ℕ ← Async.request (Request.readNonce hash)
    let nonce ← answered answer
    let current ← Async.access (latestEntry submitted)
    let time ← Async.access now
    let _ ← Async.awaited .settled (save { current with
      updatedAt := time
      nonce := some nonce })
    pure ()) fun _ => pure ()

def recordReturned (awaitingWallet : JournalEntry) (hash : String) : Program SubmissionResult := do
  let time ← Async.access now
  let submitted := returned awaitingWallet hash time
  let persisted ← Async.caught (Async.awaited .settled (persistReturnedHash submitted))
  match persisted with
  | .error _ =>
    let stored ← saveVolatile submitted
    pure (.submittedNonDurable hash stored.clientOperationId)
  | .ok stored =>
    enrich stored hash
    pure (.submitted hash stored.clientOperationId)

def recordRefused (awaitingWallet : JournalEntry) (error : JsError) :
    Program SubmissionResult := do
  let rejected := rejectedByUser error
  let durable ← Async.awaited .settled
    (persistWalletOutcome awaitingWallet (if rejected then .rejected else .unknown))
  pure (if rejected then .rejected awaitingWallet.clientOperationId durable
    else .unknown awaitingWallet.clientOperationId durable)

def requestWallet (awaitingWallet : JournalEntry) : Program SubmissionResult := do
  let current ← Async.access contextStillCurrent
  if current = false then
    failBeforeSubmit awaitingWallet operationContextChanged.message operationContextChanged.message
  else
    let verified : Except JsError Unit ← Async.request Request.verifyBeforeSubmit
    match verified with
    | .error _ =>
      failBeforeSubmit awaitingWallet "OPERATION_ENVIRONMENT_MISMATCH"
        "OPERATION_ENVIRONMENT_MISMATCH"
    | .ok _ =>
      let current ← Async.access contextStillCurrent
      if current = false then
        failBeforeSubmit awaitingWallet operationContextChanged.message
          operationContextChanged.message
      else
        let answer : Except JsError String ← Async.request Request.submit
        match answer with
        | .error error => recordRefused awaitingWallet error
        | .ok hash => recordReturned awaitingWallet hash

def attemptWallet (base : JournalEntry) : Program SubmissionResult := do
  let simulated ← Async.caught simulate
  match simulated with
  | .error error =>
    failBeforeSubmit base
      (if error.message = operationContextChanged.message then operationContextChanged.message
        else "CHAIN_PRECONDITION_FAILED") error.message
  | .ok _ =>
    let updatedAt ← Async.access now
    let startedAt ← Async.access now
    let awaitingWallet ← Async.awaited .settled (save (awaiting base updatedAt startedAt))
    requestWallet awaitingWallet

def submitOwnedOperation (uuid : String) (context : SubmissionContext)
    (action : SubmissionAction) : Program SubmissionResult := do
  let entries ← Async.access (load context.deploymentId)
  if entries.any fun entry => sameImmutableIntent entry context action &&
      attemptStillOwnsIntent entry then
    throw (newError "OPERATION_ATTEMPT_UNRESOLVED")
  else
    let createdAt ← Async.access now
    let base ← Async.awaited .settled (save (preparing uuid context action createdAt))
    attemptWallet base

def submitOperation (uuid : String) (context : SubmissionContext) (action : SubmissionAction) :
    Program SubmissionResult := do
  let acquired : Bool ← Async.request Request.intentLock
  if acquired = true then Async.awaited .settled (submitOwnedOperation uuid context action)
  else throw (newError "OPERATION_ALREADY_IN_FLIGHT")

end MotorCove.Web
