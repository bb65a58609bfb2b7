import Mathlib.Data.Nat.Notation
import MotorCove.Async

/-!
# Journal entries and what is observed of a transaction

An entry is what the browser keeps of one wallet operation. The answers of the
chain reader and of the funding observation are read into it. The surroundings
of a program are the answers it awaits and, at each of its acts, the time, the
context and the errors that local storage throws.
-/

set_option autoImplicit false

namespace MotorCove.Web

inductive TransactionObservation where
  | idle
  | preparing
  | awaitingWallet
  | rejected
  | failedBeforeSubmit
  | submitted
  | includedSuccess
  | includedReverted
  | unknown
  | replacedOrCancelled
  | orphaned
  deriving DecidableEq, Repr

inductive ReceiptStatus where
  | success
  | reverted
  deriving DecidableEq, Repr

inductive FinalityStatus where
  | unfinalized
  | finalized
  | unknown
  deriving DecidableEq, Repr

inductive EvidenceSource where
  | walletReturned
  | userSupplied
  deriving DecidableEq, Repr

inductive Association where
  | exactSubmission
  | intentMatch
  deriving DecidableEq, Repr

inductive ReplacementKind where
  | repriced
  | cancelled
  | differentCall
  deriving DecidableEq, Repr

inductive VerificationAvailability where
  | verifying
  | available
  | unavailable
  deriving DecidableEq, Repr

inductive ProjectionObservation where
  | notReached
  | reflected
  | inconsistent
  | unverifiable
  deriving DecidableEq, Repr

inductive WalletRequestOutcome where
  | rejected
  | unknown
  deriving DecidableEq, Repr

/-- An absent key and a key that holds `undefined` are both `none`; only
`rebaseUniqueVolatileEvidence` tells them apart. -/
structure JournalEntry where
  schemaVersion : ℕ
  clientOperationId : String
  revision : Option ℕ
  retryOf : Option String
  createdAt : String
  updatedAt : String
  deploymentId : String
  chainId : ℕ
  account : String
  protocolVersion : String
  action : String
  saleId : Option String
  tokenId : Option String
  intendedContract : String
  intendedCalldata : String
  calldataSummary : String
  valueWei : String
  walletRequestStartedAt : Option String
  originalTxHash : Option String
  currentTxHash : Option String
  nonce : Option ℕ
  receiptStatus : Option ReceiptStatus
  receiptBlockNumber : Option String
  receiptBlockHash : Option String
  finalityStatus : Option FinalityStatus
  finalizedHeadNumber : Option String
  finalizedHeadHash : Option String
  finalizedAt : Option String
  eventLogIndex : Option ℕ
  eventBuyer : Option String
  eventAmountWei : Option String
  evidenceSource : Option EvidenceSource
  association : Option Association
  replacementKind : Option ReplacementKind
  lastVerifiedAt : Option String
  verificationRequestId : Option String
  verificationAvailability : Option VerificationAvailability
  projectionObservation : Option ProjectionObservation
  projectionTransactionHash : Option String
  projectionBlockHash : Option String
  projectionLogIndex : Option ℕ
  projectionDeploymentId : Option String
  projectionBuildId : Option String
  walletRequestOutcome : Option WalletRequestOutcome
  walletRequestOutcomeAt : Option String
  status : TransactionObservation
  lastErrorCategory : Option String
  deriving DecidableEq, Repr

/-- The `revision ?? 0` that writes compare. -/
def JournalEntry.version (entry : JournalEntry) : ℕ := entry.revision.getD 0

def isHexChar (c : Char) : Bool :=
  c.isDigit || ('a' ≤ c && c ≤ 'f') || ('A' ≤ c && c ≤ 'F')

/-- What follows the prefix `0x`, when it is hexadecimal. -/
def hexDigits? (s : String) : Option (List Char) :=
  match s.toList with
  | '0' :: 'x' :: digits => if digits.all isHexChar then some digits else none
  | _ => none

def isAddress (s : String) : Bool := (hexDigits? s).any (·.length == 40)

def isBytes32 (s : String) : Bool := (hexDigits? s).any (·.length == 64)

def isCalldata (s : String) : Bool := (hexDigits? s).any (·.length % 2 == 0)

def isUnsignedInteger (s : String) : Bool :=
  s == "0" || (s.toList.all Char.isDigit && s.toList.head?.any (· != '0'))

def isNonempty (s : String) : Bool := s != ""

def digitsBelow (cs : List Char) (bound : ℕ) : Bool :=
  cs.all Char.isDigit && Nat.ofDigitChars 10 cs 0 < bound

def daysInMonth (year month : ℕ) : ℕ :=
  if month = 2 then if year % 4 = 0 ∧ (year % 100 ≠ 0 ∨ year % 400 = 0) then 29 else 28
  else if month ∈ [4, 6, 9, 11] then 30
  else if 1 ≤ month ∧ month ≤ 12 then 31
  else 0

def isSeconds : List Char → Bool
  | [] => true
  | [':', s₁, s₂] => digitsBelow [s₁, s₂] 60
  | ':' :: s₁ :: s₂ :: '.' :: fraction =>
    digitsBelow [s₁, s₂] 60 && !fraction.isEmpty && fraction.all Char.isDigit
  | _ => false

/-- An ISO 8601 time in UTC, as the schema's `datetime` takes it. -/
def isDatetime (s : String) : Bool :=
  match s.toList with
  | y₁ :: y₂ :: y₃ :: y₄ :: '-' :: m₁ :: m₂ :: '-' :: d₁ :: d₂ :: 'T' :: h₁ :: h₂ :: ':' ::
      n₁ :: n₂ :: rest =>
    let year := [y₁, y₂, y₃, y₄]
    let day := Nat.ofDigitChars 10 [d₁, d₂] 0
    year.all Char.isDigit && [m₁, m₂, d₁, d₂].all Char.isDigit && 1 ≤ day &&
      day ≤ daysInMonth (Nat.ofDigitChars 10 year 0) (Nat.ofDigitChars 10 [m₁, m₂] 0) &&
      digitsBelow [h₁, h₂] 24 && digitsBelow [n₁, n₂] 60 &&
      rest.getLast? == some 'Z' && isSeconds rest.dropLast
  | _ => false

/-- The values that `journalEntrySchema` refines, each with its check. -/
def JournalEntry.checks (e : JournalEntry) : List Bool :=
  [e.schemaVersion == 1, isNonempty e.clientOperationId, e.retryOf.all isNonempty,
    isDatetime e.createdAt, isDatetime e.updatedAt, isBytes32 e.deploymentId,
    isAddress e.account, isNonempty e.protocolVersion, isNonempty e.action,
    e.saleId.all isUnsignedInteger, e.tokenId.all isUnsignedInteger,
    isAddress e.intendedContract, isCalldata e.intendedCalldata, isNonempty e.calldataSummary,
    isUnsignedInteger e.valueWei, e.walletRequestStartedAt.all isDatetime,
    e.originalTxHash.all isBytes32, e.currentTxHash.all isBytes32,
    e.receiptBlockNumber.all isUnsignedInteger, e.receiptBlockHash.all isBytes32,
    e.finalizedHeadNumber.all isUnsignedInteger, e.finalizedHeadHash.all isBytes32,
    e.finalizedAt.all isDatetime, e.eventBuyer.all isAddress,
    e.eventAmountWei.all isUnsignedInteger, e.lastVerifiedAt.all isDatetime,
    e.verificationRequestId.all isNonempty, e.projectionTransactionHash.all isBytes32,
    e.projectionBlockHash.all isBytes32, e.projectionDeploymentId.all isBytes32,
    e.projectionBuildId.all isNonempty, e.walletRequestOutcomeAt.all isDatetime,
    e.lastErrorCategory.all isNonempty]

def JournalEntry.wellFormed (e : JournalEntry) : Bool := e.checks.all id

structure JsError where
  name : String
  message : String
  code : Option ℕ
  deriving DecidableEq, Repr

def newError (message : String) : JsError := ⟨"Error", message, none⟩

/-- `journalEntrySchema.parse`. -/
def parseEntry (entry : JournalEntry) : Except JsError JournalEntry :=
  if entry.wellFormed then .ok entry else .error ⟨"ZodError", "", none⟩

structure Inclusion where
  transactionHash : String
  blockNumber : ℕ
  blockHash : String
  /-- `replacementKind` is `REPRICED`. -/
  repriced : Bool
  deriving DecidableEq, Repr

inductive InspectedTransaction where
  | pending (transactionHash : String)
  | includedReverted (inclusion : Inclusion)
  | includedSuccess (inclusion : Inclusion) (logIndex : Option ℕ) (buyer : Option String)
      (amountWei : Option ℕ)
  | replacedOrCancelled (transactionHash replacementHash : String)
      (replacementKind : ReplacementKind)
  | noncanonical (transactionHash : String)
  | intentMismatch (transactionHash reason : String)
  | replacementHashRequired (transactionHash : String) (nonce : ℕ)
  | unavailable (transactionHash reason : String)
  deriving DecidableEq, Repr

inductive FinalityProof where
  | finalized (headNumber : ℕ) (headHash : String)
  | unfinalized
  | unknown
  deriving DecidableEq, Repr

inductive Coverage where
  | notReached
  | scanned
  | unverifiable
  deriving DecidableEq, Repr

/-- The parts of a funding observation that are read. -/
structure FundingObservation where
  coverage : Coverage
  /-- `eventLookup` is `MATCHED`. -/
  matched : Bool
  /-- `projectionEffect` is `CONSISTENT`. -/
  consistent : Bool
  projectionBuildId : String
  deriving DecidableEq, Repr

inductive Mode where
  | automatic
  | manual
  deriving DecidableEq, Repr

inductive Request where
  /-- The call is made. -/
  | called
  /-- Its turn of the deployment's write lock. -/
  | writeLock
  /-- The promise awaited has settled. -/
  | settled
  /-- Whether the lock of an intent is acquired. -/
  | intentLock
  /-- Whether the lock of an operation's observation is acquired. -/
  | observationLock
  | simulate
  | verifyBeforeSubmit
  | submit
  | readNonce (hash : String)
  | inspectTransaction (entry : JournalEntry) (transactionHash : String) (mode : Mode)
  | observeFinality (entry : JournalEntry) (blockNumber : ℕ) (blockHash : String)
  | observeFunding (saleId deploymentId observeTxHash observeBlockNumber observeBlockHash : String)
      (observeLogIndex : ℕ)

def Answer : Request → Type
  | .simulate | .verifyBeforeSubmit => Except JsError Unit
  | .submit => Except JsError String
  | .readNonce _ => Except JsError ℕ
  | .inspectTransaction .. => Except JsError InspectedTransaction
  | .observeFinality .. => Except JsError FinalityProof
  | .observeFunding .. => Except JsError FundingObservation
  | .intentLock | .observationLock => Bool
  | _ => Unit

/-- What a synchronous act finds around it. -/
structure Moment where
  now : String
  contextStillCurrent : Bool
  /-- The error that `localStorage.getItem` throws. -/
  getItem : Option String
  /-- The error that `localStorage.setItem` throws. -/
  setItem : Option String
  /-- Whether a volatile entry holds `undefined` under a key that is `none` in it. -/
  holdsUndefined : String → Bool

end MotorCove.Web
