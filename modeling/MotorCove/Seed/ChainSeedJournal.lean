import MotorCove.Effects
import MotorCove.Text

/-!
# The chain-seed journal

One process owns the journal: it opens the file, keeps the data in memory and
changes it there before each save. A save renames a temporary file over the
old one, so it takes effect as a whole or not at all. What the environment
does at each turn is arbitrary: a save, a submission or a wait may fail, and
the process may crash before or after any of them.
-/

set_option autoImplicit false

namespace MotorCove.Seed
open MotorCove.Text

inductive ChainSeedStepStatus where
  | prepared
  | submitted
  | verified
  | unknown
  deriving DecidableEq, Repr

inductive ReceiptOutcome where
  | success
  | reverted
  deriving DecidableEq, Repr

inductive FailureCategory where
  | submitOutcomeUnknown
  | postSubmitPersistenceFailure
  | preparedWithoutHash
  | receiptChanged
  deriving DecidableEq, Repr

/-- The text `0x` followed by the digits. -/
structure Hex where
  digits : String
  deriving DecidableEq, Repr

structure ChainSeedReceipt where
  transactionHash : Hex
  blockNumber : String
  blockHash : Hex
  contractAddress : Option String
  outcome : ReceiptOutcome
  deriving DecidableEq, Repr

structure ChainSeedStep where
  intent : String
  status : ChainSeedStepStatus
  transactionHash : Option Hex
  receipt : Option ChainSeedReceipt
  failureCategory : Option FailureCategory
  error : Option String
  deriving DecidableEq, Repr

structure ChainSeedJournalData where
  environmentId : String
  chainId : ℕ
  account : String
  deploymentId : Hex
  steps : String → Option ChainSeedStep

structure OpenJournalIdentity where
  environmentId : String
  chainId : ℕ
  account : String
  newDeploymentId : Hex

/-- A call ends with an error of the program, or with the process. -/
inductive Failure where
  | crash
  | error (message : String) (cause : Option String)
  deriving DecidableEq, Repr

inductive SaveReply where
  | renamed
  | renamedThenCrash
  | failed (message : String)
  | crash
  deriving DecidableEq, Repr

inductive SubmitReply where
  | returned (hash : Hex)
  | threw (message : String)
  | crash
  deriving DecidableEq, Repr

inductive ReceiptReply where
  | returned (receipt : ChainSeedReceipt)
  | threw (message : String)
  | crash
  deriving DecidableEq, Repr

/-- What happens at one turn, by the kind of request made there. -/
structure Reply where
  save : SaveReply
  submit : SubmitReply
  receipt : ReceiptReply

/-- The invocations of `submit` and the ends of the calls, in order. -/
inductive Act where
  | submitted (stepId : String) (reply : SubmitReply)
  | ended (stepId intent : String) (result : Except Failure ChainSeedReceipt)
  deriving DecidableEq

def Act.submits (stepId : String) : Act → Bool
  | .submitted s _ => s = stepId
  | .ended _ _ _ => false

/-- A process with its memory, over the file that outlives it. -/
structure Process where
  file : Option ChainSeedJournalData
  turn : ℕ
  log : List Act
  data : ChainSeedJournalData

abbrev Journal := EStateM Failure Process

variable (replies : ℕ → Reply)

def save : Journal Unit := fun p =>
  match (replies p.turn).save with
  | .renamed => .ok () { p with turn := p.turn + 1, file := some p.data }
  | .renamedThenCrash => .error .crash { p with turn := p.turn + 1, file := some p.data }
  | .failed message => .error (.error message none) { p with turn := p.turn + 1 }
  | .crash => .error .crash { p with turn := p.turn + 1 }

def submit (stepId : String) : Journal Hex := fun p =>
  let p' := { p with
    turn := p.turn + 1
    log := p.log ++ [.submitted stepId (replies p.turn).submit] }
  match (replies p.turn).submit with
  | .returned hash => .ok hash p'
  | .threw message => .error (.error message none) p'
  | .crash => .error .crash p'

def waitForReceipt (_hash : Hex) : Journal ChainSeedReceipt := fun p =>
  match (replies p.turn).receipt with
  | .returned receipt => .ok receipt { p with turn := p.turn + 1 }
  | .threw message => .error (.error message none) { p with turn := p.turn + 1 }
  | .crash => .error .crash { p with turn := p.turn + 1 }

/-- `try`/`catch`: a crash is not caught. -/
def attempt {α : Type} (x : Journal α) (handle : String → Journal α) : Journal α :=
  tryCatch x fun failure =>
    match failure with
    | .crash => throw .crash
    | .error message _ => handle message

def setStep (stepId : String) (step : ChainSeedStep) : Journal Unit :=
  modify fun p => { p with
    data := { p.data with steps := Function.update p.data.steps stepId (some step) } }

def fail {α : Type} (code stepId : String) (cause : Option String) : Journal α :=
  throw (.error (code ++ ": " ++ stepId) cause)

/-- The members every object inherits: `steps[stepId]` finds them and none has the intent. -/
def inherited : List String :=
  ["constructor", "__defineGetter__", "__defineSetter__", "hasOwnProperty", "__lookupGetter__",
    "__lookupSetter__", "isPrototypeOf", "propertyIsEnumerable", "toString", "valueOf",
    "__proto__", "toLocaleString"]

/-- The part of `transaction` for a step not yet in the journal. -/
def submitStep (stepId intent : String) : Journal ChainSeedStep := do
  let prepared : ChainSeedStep := ⟨intent, .prepared, none, none, none, none⟩
  setStep stepId prepared
  save replies
  let transactionHash ← attempt (submit replies stepId) fun message => do
    setStep stepId { prepared with
      status := .unknown
      failureCategory := some .submitOutcomeUnknown
      error := some message }
    save replies
    fail "CHAIN_SEED_AMBIGUOUS" stepId none
  let submitted := { prepared with transactionHash := some transactionHash, status := .submitted }
  setStep stepId submitted
  attempt (save replies) fun message => do
    setStep stepId { submitted with
      failureCategory := some .postSubmitPersistenceFailure
      error := some message }
    attempt (save replies) fun persistenceError =>
      fail "CHAIN_SEED_POST_SUBMIT_PERSISTENCE_FAILED" stepId (some persistenceError)
    fail "CHAIN_SEED_POST_SUBMIT_PERSISTENCE_RECOVERED" stepId (some message)
  pure submitted

/-- The part of `transaction` for a step found without a hash. -/
def refusePrepared {α : Type} (stepId : String) (step : ChainSeedStep) : Journal α := do
  setStep stepId { step with
    status := .unknown
    failureCategory := some .preparedWithoutHash
    error := some "Process stopped after PREPARED before a transaction hash was journaled" }
  save replies
  fail "CHAIN_SEED_AMBIGUOUS" stepId none

def ChainSeedReceipt.agrees (recorded receipt : ChainSeedReceipt) : Bool :=
  recorded.blockNumber = receipt.blockNumber ∧ recorded.blockHash = receipt.blockHash ∧
    recorded.outcome = receipt.outcome ∧
    recorded.contractAddress.map lower = receipt.contractAddress.map lower

def recordReceipt (stepId : String) (step : ChainSeedStep) (receipt : ChainSeedReceipt) :
    Journal Unit :=
  match step.receipt with
  | some recorded =>
    if recorded.agrees receipt = true then pure ()
    else do
      setStep stepId { step with
        status := .unknown
        failureCategory := some .receiptChanged
        error := some "Previously verified receipt changed" }
      save replies
      fail "CHAIN_SEED_RECEIPT_CHANGED" stepId none
  | none => do
    setStep stepId { step with
      receipt := some receipt
      status := .verified
      failureCategory := none
      error := none }
    save replies

/-- The part of `transaction` for a step with a hash. -/
def confirmStep (stepId : String) (step : ChainSeedStep) : Journal ChainSeedReceipt :=
  if step.status = .unknown then fail "CHAIN_SEED_AMBIGUOUS" stepId none
  else
    match step.transactionHash with
    | none => fail "CHAIN_SEED_JOURNAL_INVALID" stepId none
    | some hash => do
      let receipt ← waitForReceipt replies hash
      recordReceipt replies stepId step receipt
      if receipt.outcome = .success then pure receipt
      else fail "CHAIN_SEED_REVERTED" stepId none

def transaction (stepId intent : String) : Journal ChainSeedReceipt := do
  let p ← get
  if stepId ∈ inherited then fail "CHAIN_SEED_INTENT_MISMATCH" stepId none
  else
    match p.data.steps stepId with
    | none => do
      let step ← submitStep replies stepId intent
      confirmStep replies stepId step
    | some step =>
      if step.intent ≠ intent then fail "CHAIN_SEED_INTENT_MISMATCH" stepId none
      else if step.status = .prepared then refusePrepared replies stepId step
      else confirmStep replies stepId step

/-- The file, and the journal of the process while one runs. -/
structure Owner where
  file : Option ChainSeedJournalData
  turn : ℕ
  log : List Act
  journal : Option ChainSeedJournalData

inductive Event where
  | opened (identity : OpenJournalIdentity)
  | transaction (stepId intent : String)
  | exited

def Owner.process (o : Owner) (data : ChainSeedJournalData) : Process :=
  ⟨o.file, o.turn, o.log, data⟩

def ChainSeedJournalData.matches (data : ChainSeedJournalData) (identity : OpenJournalIdentity) :
    Bool :=
  data.environmentId = identity.environmentId ∧ data.chainId = identity.chainId ∧
    lower data.account = lower identity.account

def OpenJournalIdentity.fresh (identity : OpenJournalIdentity) : ChainSeedJournalData :=
  ⟨identity.environmentId, identity.chainId, identity.account, identity.newDeploymentId,
    fun _ => none⟩

/-- A new process opens the journal; the memory of an earlier one is lost. -/
def openJournal (identity : OpenJournalIdentity) (o : Owner) : Owner :=
  match o.file with
  | some data =>
    if data.matches identity = true then { o with journal := some data }
    else { o with journal := none }
  | none =>
    match (save replies).run (o.process identity.fresh) with
    | .ok _ p => ⟨p.file, p.turn, p.log, some p.data⟩
    | .error _ p => ⟨p.file, p.turn, p.log, none⟩

def Owner.step (o : Owner) : Event → Owner
  | .opened identity => openJournal replies identity o
  | .exited => { o with journal := none }
  | .transaction stepId intent =>
    match o.journal with
    | none => o
    | some data =>
      match (transaction replies stepId intent).run (o.process data) with
      | .ok receipt p =>
        ⟨p.file, p.turn, p.log ++ [.ended stepId intent (.ok receipt)], some p.data⟩
      | .error .crash p => ⟨p.file, p.turn, p.log ++ [.ended stepId intent (.error .crash)], none⟩
      | .error e p => ⟨p.file, p.turn, p.log ++ [.ended stepId intent (.error e)], some p.data⟩

def Owner.run (o : Owner) (events : List Event) : Owner :=
  events.foldl (Owner.step replies) o

def unopened : Owner := ⟨none, 0, [], none⟩

end MotorCove.Seed
