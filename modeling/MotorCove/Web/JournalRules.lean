import MotorCove.Web.Browser
import MotorCove.Web.JournalRows

/-!
# The rules of the journal

What every row and every volatile entry says, what a write keeps of the row that
it replaces, and what the runs of a browser may rely on. Where storage works,
the row that is replaced is the one that was read.
-/

set_option autoImplicit false

namespace MotorCove.Web
open MotorCove.Asynchrony

structure Intent where
  deploymentId : String
  chainId : ℕ
  account : String
  protocolVersion : String
  action : String
  saleId : Option String
  tokenId : Option String
  intendedContract : String
  intendedCalldata : String
  valueWei : String
  deriving DecidableEq, Repr, Inhabited

def JournalEntry.intent (entry : JournalEntry) : Intent where
  deploymentId := entry.deploymentId
  chainId := entry.chainId
  account := entry.account
  protocolVersion := entry.protocolVersion
  action := entry.action
  saleId := entry.saleId
  tokenId := entry.tokenId
  intendedContract := entry.intendedContract
  intendedCalldata := entry.intendedCalldata
  valueWei := entry.valueWei

/-- What is known of the operation's transaction. -/
structure Evidence where
  originalTxHash : Option String
  currentTxHash : Option String
  receiptStatus : Option ReceiptStatus
  receiptBlockNumber : Option String
  receiptBlockHash : Option String
  eventLogIndex : Option ℕ
  eventBuyer : Option String
  eventAmountWei : Option String
  evidenceSource : Option EvidenceSource
  association : Option Association
  replacementKind : Option ReplacementKind
  projectionObservation : Option ProjectionObservation
  projectionTransactionHash : Option String
  projectionBlockHash : Option String
  projectionLogIndex : Option ℕ
  projectionDeploymentId : Option String
  projectionBuildId : Option String
  deriving DecidableEq, Repr

def JournalEntry.evidence (entry : JournalEntry) : Evidence where
  originalTxHash := entry.originalTxHash
  currentTxHash := entry.currentTxHash
  receiptStatus := entry.receiptStatus
  receiptBlockNumber := entry.receiptBlockNumber
  receiptBlockHash := entry.receiptBlockHash
  eventLogIndex := entry.eventLogIndex
  eventBuyer := entry.eventBuyer
  eventAmountWei := entry.eventAmountWei
  evidenceSource := entry.evidenceSource
  association := entry.association
  replacementKind := entry.replacementKind
  projectionObservation := entry.projectionObservation
  projectionTransactionHash := entry.projectionTransactionHash
  projectionBlockHash := entry.projectionBlockHash
  projectionLogIndex := entry.projectionLogIndex
  projectionDeploymentId := entry.projectionDeploymentId
  projectionBuildId := entry.projectionBuildId

structure JournalEntry.Shows (entry : JournalEntry) (inclusion : Inclusion) : Prop where
  transactionHash : entry.currentTxHash = some inclusion.transactionHash
  blockNumber : entry.receiptBlockNumber = some (Nat.repr inclusion.blockNumber)
  blockHash : entry.receiptBlockHash = some inclusion.blockHash

/-- What a browser's runs are held to. Storage may be `healthy`, and the evidence
in the rows may be `traced` to answers. -/
structure Rules where
  healthy : Prop
  traced : Prop
  /-- What each operation of a deployment is for. -/
  intents : String → String → Intent
  /-- The ids of this browser's submissions. -/
  attempts : String → Prop
  /-- What a transaction for an intent has been inspected as. -/
  proves : Intent → InspectedTransaction → Prop
  /-- The sales, deployments, transactions, blocks and logs that were observed to
  be reflected, and the projection build that they were observed in. -/
  confirms : String → String → String → String → ℕ → String → Prop

namespace Rules
variable (R : Rules)

structure Vouched (entry : JournalEntry) : Prop where
  reverted : entry.status = .includedReverted → ∃ inclusion,
    R.proves entry.intent (.includedReverted inclusion) ∧ entry.Shows inclusion ∧
      entry.receiptStatus = some .reverted
  success : entry.status = .includedSuccess → ∃ inclusion logIndex buyer amountWei,
    R.proves entry.intent (.includedSuccess inclusion logIndex buyer amountWei) ∧
      entry.Shows inclusion ∧ entry.receiptStatus = some .success ∧
      (entry.action = "FUND_SALE" → ∃ l b a, logIndex = some l ∧ buyer = some b ∧
        amountWei = some a ∧ entry.eventLogIndex = some l ∧ entry.eventBuyer = some b ∧
          entry.eventAmountWei = some (Nat.repr a))

/-- A reflected row names the event that was observed, and the build. -/
def Confirmed (entry : JournalEntry) : Prop :=
  entry.projectionObservation = some .reflected →
    ∃ saleId transactionHash blockHash logIndex buildId,
      entry.saleId = some saleId ∧ entry.projectionTransactionHash = some transactionHash ∧
      entry.projectionBlockHash = some blockHash ∧ entry.projectionLogIndex = some logIndex ∧
      entry.projectionDeploymentId = some entry.deploymentId ∧
      entry.projectionBuildId = some buildId ∧
      R.confirms saleId entry.deploymentId transactionHash blockHash logIndex buildId

structure Sound (entry : JournalEntry) : Prop where
  intent : entry.intent = R.intents entry.deploymentId entry.clientOperationId
  vouched : R.traced → R.Vouched entry
  confirmed : R.traced → R.Confirmed entry

variable {R} in
theorem Sound.congr {entry entry' : JournalEntry} (h : R.Sound entry)
    (hid : entry'.clientOperationId = entry.clientOperationId)
    (hintent : entry'.intent = entry.intent) (hevidence : entry'.evidence = entry.evidence)
    (hstatus : entry'.status = entry.status) : R.Sound entry' := by
  have hdeployment : entry'.deploymentId = entry.deploymentId :=
    congrArg Intent.deploymentId hintent
  have haction : entry'.action = entry.action := congrArg Intent.action hintent
  have hsale : entry'.saleId = entry.saleId := congrArg Intent.saleId hintent
  simp only [JournalEntry.evidence, Evidence.mk.injEq] at hevidence
  obtain ⟨-, hcurrent, hreceipt, hnumber, hhash, hlog, hbuyer, hamount, -, -, -, hprojection,
    hprojectionTx, hprojectionBlock, hprojectionLog, hprojectionDeployment, hprojectionBuild⟩ :=
    hevidence
  constructor
  · rw [hintent, hdeployment, hid]
    exact h.intent
  · intro htraced
    obtain ⟨hreverted, hsuccess⟩ := h.vouched htraced
    constructor
    · intro hstatus'
      obtain ⟨inclusion, hproves, hshows, hreceipt'⟩ := hreverted (hstatus ▸ hstatus')
      exact ⟨inclusion, hintent ▸ hproves, ⟨hcurrent.trans hshows.1, hnumber.trans hshows.2,
        hhash.trans hshows.3⟩, hreceipt.trans hreceipt'⟩
    · intro hstatus'
      obtain ⟨inclusion, logIndex, buyer, amountWei, hproves, hshows, hreceipt', hevent⟩ :=
        hsuccess (hstatus ▸ hstatus')
      refine ⟨inclusion, logIndex, buyer, amountWei, hintent ▸ hproves, ⟨hcurrent.trans hshows.1,
        hnumber.trans hshows.2, hhash.trans hshows.3⟩, hreceipt.trans hreceipt', ?_⟩
      rw [haction, hlog, hbuyer, hamount]
      exact hevent
  · intro htraced
    unfold Confirmed
    rw [hprojection, hprojectionTx, hprojectionBlock, hprojectionLog, hprojectionDeployment,
      hprojectionBuild, hdeployment, hsale]
    exact h.confirmed htraced

variable {R} in
theorem Sound.after {entry : JournalEntry} (h : R.Sound entry) (version : ℕ) :
    R.Sound (entry.after version) := h.congr rfl rfl rfl rfl

def Started (entry : JournalEntry) : Prop :=
  R.attempts entry.clientOperationId → 1 ≤ entry.version

end Rules

/-- What a newer row has of an older one. -/
structure Retains (older newer : JournalEntry) : Prop where
  intent : newer.intent = older.intent
  createdAt : newer.createdAt = older.createdAt
  retryOf : newer.retryOf = older.retryOf
  started : ∀ time, older.walletRequestStartedAt = some time →
    newer.walletRequestStartedAt = some time
  original : ∀ hash, older.originalTxHash = some hash → newer.originalTxHash = some hash
  current : older.currentTxHash.isSome → newer.currentTxHash.isSome
  receipt : older.receiptStatus.isSome → newer.receiptStatus.isSome
  nonce : older.nonce.isSome → newer.nonce.isSome
  outcome : older.walletRequestOutcome.isSome → newer.walletRequestOutcome.isSome

theorem Retains.trans {a b c : JournalEntry} (hab : Retains a b) (hbc : Retains b c) :
    Retains a c where
  intent := hbc.intent.trans hab.intent
  createdAt := hbc.createdAt.trans hab.createdAt
  retryOf := hbc.retryOf.trans hab.retryOf
  started time h := hbc.started time (hab.started time h)
  original hash h := hbc.original hash (hab.original hash h)
  current h := hbc.current (hab.current h)
  receipt h := hbc.receipt (hab.receipt h)
  nonce h := hbc.nonce (hab.nonce h)
  outcome h := hbc.outcome (hab.outcome h)

def Task.isRecheck : Task → Bool
  | .submit _ _ => false
  | .recheck .. => true

inductive FinalityFields : (JournalEntry → JournalEntry) → Prop where
  | unobserved : FinalityFields id
  | known : FinalityFields fun row => { row with finalityStatus := some .finalized }
  | observed (time : String) (proof : FinalityProof) : FinalityFields (finalityValues time proof)

/-- What the programs make of a row: a submission as its wallet request goes on, and
the recheck under an id as it is answered. -/
inductive Revision (uuid : String) : (JournalEntry → JournalEntry) → Prop where
  | awaiting (updatedAt startedAt : String) :
      Revision uuid fun row => awaiting row updatedAt startedAt
  | returned (hash updatedAt : String) : Revision uuid fun row => returned row hash updatedAt
  | rebased (awaitingWallet : JournalEntry) (hash updatedAt : String) :
      Revision uuid (rebasedHash (MotorCove.Web.returned awaitingWallet hash updatedAt))
  | outcome (outcome : WalletRequestOutcome) (outcomeAt : String) :
      Revision uuid (mergeWalletOutcome outcome outcomeAt)
  | failed (category : String) : Revision uuid fun row => { row with
      status := .failedBeforeSubmit
      lastErrorCategory := some category }
  | nonce (nonce : ℕ) : Revision uuid fun row => { row with nonce := some nonce }
  | hashRequired : Revision uuid fun row => { row with
      status := .unknown
      verificationAvailability := some .available
      lastErrorCategory := some "HASH_REQUIRED_FROM_WALLET_ACTIVITY" }
  | verifying : Revision uuid fun row => { row with
      verificationAvailability := some .verifying
      verificationRequestId := some uuid }
  | verified {values : JournalEntry → JournalEntry} (h : ∀ row, ∃ availability verifiedAt category,
      values row = { row with
        verificationAvailability := availability
        lastVerifiedAt := verifiedAt
        lastErrorCategory := category }) : Revision uuid values
  | noncanonical (time : String) : Revision uuid fun row => { row with
      status := .orphaned
      projectionObservation := some .inconsistent
      verificationAvailability := some .available
      lastVerifiedAt := some time
      lastErrorCategory := some "RECEIPT_BLOCK_NONCANONICAL" }
  | replaced (replacementHash : String) (kind : ReplacementKind) (time : String) :
      Revision uuid fun row => { row with
        currentTxHash := some replacementHash
        replacementKind := some kind
        status := .replacedOrCancelled
        projectionObservation := some .inconsistent
        verificationAvailability := some .available
        lastVerifiedAt := some time
        lastErrorCategory := some ("TRANSACTION_" ++ replacementText kind) }
  | pending (verifying : JournalEntry) (verifiedHash : String) (candidateHash : Option String)
      (time : String) : Revision uuid (pendingValues verifying verifiedHash candidateHash time)
  | reverted (verifying : JournalEntry) (verifiedHash : String) (candidateHash : Option String)
      (inclusion : Inclusion) {finality : JournalEntry → JournalEntry}
      (hfinality : FinalityFields finality) (time : String) :
      Revision uuid (includedValues verifying verifiedHash candidateHash .reverted inclusion
        finality time)
  | succeeded (verifying : JournalEntry) (verifiedHash : String) (candidateHash : Option String)
      (inclusion : Inclusion) {finality : JournalEntry → JournalEntry}
      (hfinality : FinalityFields finality) (time : String) :
      Revision uuid fun row => { includedValues verifying verifiedHash candidateHash .success
        inclusion finality time row with projectionObservation := none }
  | funded (verifying : JournalEntry) (verifiedHash : String) (candidateHash : Option String)
      (inclusion : Inclusion) (logIndex : ℕ) (buyer : String) (amountWei : ℕ)
      {finality : JournalEntry → JournalEntry} (hfinality : FinalityFields finality)
      (time : String) :
      Revision uuid (fundingValues verifying verifiedHash candidateHash inclusion logIndex buyer
        amountWei finality time)
  | unmatched : Revision uuid fun row => { row with
      projectionObservation := some .inconsistent
      lastErrorCategory := some "FUNDING_SALE_ID_MISSING" }
  | projected (deploymentId : String) (inclusion : Inclusion) (logIndex : ℕ)
      (observation : FundingObservation) (time : String) :
      Revision uuid (projectionValues deploymentId inclusion logIndex observation time)

/-- One row is what a program makes of the other, but for its time and its revision. -/
def Revised (uuid : String) (older newer : JournalEntry) : Prop :=
  ∃ values, Revision uuid values ∧ newer = { values older with
    updatedAt := newer.updatedAt
    revision := newer.revision }

/-- What a run makes of a row. The mark of another run stays only together with
the original hash, and a recheck writes evidence only under its own mark. -/
structure Run.Replaces (run : Run) (older newer : JournalEntry) : Prop
    extends Retains older newer where
  revised : Revised run.uuid older newer
  mark : newer.verificationRequestId = none ∨ newer.verificationRequestId = some run.uuid ∨
    (newer.verificationRequestId = older.verificationRequestId ∧
      newer.originalTxHash = older.originalTxHash)
  fenced : run.task.isRecheck = true → older.verificationRequestId = some run.uuid ∨
    newer.evidence = older.evidence

theorem Revision.revised {uuid : String} {values : JournalEntry → JournalEntry}
    (h : Revision uuid values) (row : JournalEntry) : Revised uuid row (values row) :=
  ⟨values, h, rfl⟩

theorem Run.Replaces.after {run : Run} {older newer : JournalEntry}
    (h : run.Replaces older newer) (version : ℕ) : run.Replaces older (newer.after version) where
  toRetains := ⟨h.intent, h.createdAt, h.retryOf, h.started, h.original, h.current, h.receipt,
    h.nonce, h.outcome⟩
  revised := by
    obtain ⟨values, hvalues, heq⟩ := h.revised
    refine ⟨values, hvalues, ?_⟩
    rw [heq]
    rfl
  mark := h.mark
  fenced := h.fenced

theorem Run.Replaces.touched {run : Run} {older newer : JournalEntry}
    (h : run.Replaces older newer) (time : String) :
    run.Replaces older { newer with updatedAt := time } where
  toRetains := ⟨h.intent, h.createdAt, h.retryOf, h.started, h.original, h.current, h.receipt,
    h.nonce, h.outcome⟩
  revised := by
    obtain ⟨values, hvalues, heq⟩ := h.revised
    refine ⟨values, hvalues, ?_⟩
    rw [heq]
  mark := h.mark
  fenced := h.fenced

def Run.Starts (run : Run) (row : JournalEntry) : Prop :=
  ∃ context action createdAt, run.task = .submit context action ∧
    row = (preparing run.uuid context action createdAt).after 0

/-- The row of a wallet request, as the submission has written it. -/
def requested (uuid : String) (context : SubmissionContext) (action : SubmissionAction)
    (createdAt updatedAt startedAt : String) : JournalEntry :=
  (awaiting ((preparing uuid context action createdAt).after 0) updatedAt startedAt).after 1

def IsVolatile (j : LocalStorageJournal) (clientOperationId : String) : Prop :=
  (j.volatile? clientOperationId).isSome

/-- The rows that bear a mark bore it before, with the same original hash. -/
def MarkKept (mark : String) (before after : LocalStorage) : Prop :=
  ∀ deploymentId, ∀ row ∈ rows after deploymentId, row.verificationRequestId = some mark →
    ∃ older ∈ rows before deploymentId, older.clientOperationId = row.clientOperationId ∧
      older.verificationRequestId = some mark ∧ older.originalTxHash = row.originalTxHash

theorem MarkKept.refl (mark : String) (storage : LocalStorage) : MarkKept mark storage storage :=
  fun _ row hrow hmark => ⟨row, hrow, rfl, hmark, rfl⟩

theorem MarkKept.trans {mark : String} {a b c : LocalStorage} (hab : MarkKept mark a b)
    (hbc : MarkKept mark b c) : MarkKept mark a c := by
  intro deploymentId row hrow hmark
  obtain ⟨older, holder, hid, holdmark, hhash⟩ := hbc deploymentId row hrow hmark
  obtain ⟨oldest, holdest, hid', holdestmark, hhash'⟩ := hab deploymentId older holder holdmark
  exact ⟨oldest, holdest, hid'.trans hid, holdestmark, hhash'.trans hhash⟩

namespace Rules
variable (R : Rules)

structure Shared (storage : LocalStorage) : Prop where
  filed : Filed storage
  sound : ∀ deploymentId, ∀ row ∈ rows storage deploymentId, R.Sound row
  started : ∀ deploymentId, ∀ row ∈ rows storage deploymentId, R.Started row
  readable : R.healthy → ∀ deploymentId, Readable storage deploymentId

structure Memory (j : LocalStorageJournal) : Prop where
  sound : ∀ entry ∈ j.volatileEntries, R.Sound entry
  later : ∀ entry ∈ j.volatileEntries, R.attempts entry.clientOperationId → 2 ≤ entry.version
  calm : R.healthy → j.writeIssues = [] ∧ ∀ deploymentId, j.issues deploymentId = []

/-- The row is there, or one that was written over it. -/
def Stored (entry : JournalEntry) (storage : LocalStorage) : Prop :=
  ∃ row ∈ rows storage entry.deploymentId, row.clientOperationId = entry.clientOperationId ∧
    Later (fun older newer => R.healthy → Retains older newer) entry row

/-- What one act does to the texts. -/
def Writes (run : Run) (before after : LocalStorage) : Prop :=
  after = before ∨ ∃ row, Overwrites before after row ∧ R.Sound row ∧
    (R.healthy → ∀ older, row? before row.deploymentId row.clientOperationId = some older →
      run.Replaces older row) ∧
    (R.healthy → row? before row.deploymentId row.clientOperationId = none → run.Starts row)

/-- What one act does to the volatile entries of its tab. -/
structure Remembers (run : Run) (before after : LocalStorageJournal) : Prop where
  volatile : R.healthy → ∀ id, IsVolatile before id → IsVolatile after id
  own : R.healthy → ∀ id, IsVolatile after id → id = run.uuid ∨ IsVolatile before id

/-- What a run relies on while it waits. -/
structure Relies (run : Run) (before after : State) : Prop where
  shared : R.Shared before.1 → R.Shared after.1
  memory : R.Memory before.2 → R.Memory after.2
  grown : R.Shared before.1 →
    Grown (fun older newer => R.healthy → Retains older newer) before.1 after.1
  mark : R.healthy → MarkKept run.uuid before.1 after.1
  volatile : R.healthy → ∀ id, IsVolatile before.2 id → IsVolatile after.2 id
  own : R.healthy → IsVolatile after.2 run.uuid → IsVolatile before.2 run.uuid

/-- The wallet is asked only for a submission whose row is stored. -/
def Asked (run : Run) (storage : LocalStorage) : Prop :=
  ∃ context action createdAt updatedAt startedAt, run.task = .submit context action ∧
    R.Stored (requested run.uuid context action createdAt updatedAt startedAt) storage

variable {R} {run : Run}

theorem Remembers.refl (j : LocalStorageJournal) : R.Remembers run j j :=
  ⟨fun _ _ h => h, fun _ _ h => .inr h⟩

theorem Remembers.trans {a b c : LocalStorageJournal} (hab : R.Remembers run a b)
    (hbc : R.Remembers run b c) : R.Remembers run a c where
  volatile h id hid := hbc.volatile h id (hab.volatile h id hid)
  own h id hid := (hbc.own h id hid).elim .inl fun hb => hab.own h id hb

theorem Relies.refl (s : State) : R.Relies run s s :=
  ⟨id, id, fun _ => Grown.refl _, fun _ => MarkKept.refl _ _, fun _ _ h => h, fun _ h => h⟩

theorem Relies.trans {a b c : State} (hab : R.Relies run a b) (hbc : R.Relies run b c) :
    R.Relies run a c where
  shared h := hbc.shared (hab.shared h)
  memory h := hbc.memory (hab.memory h)
  grown h := (hab.grown h).trans (fun _ _ _ hab hbc h => (hab h).trans (hbc h))
    (hbc.grown (hab.shared h))
  mark h := (hab.mark h).trans (hbc.mark h)
  volatile h id hid := hbc.volatile h id (hab.volatile h id hid)
  own h hid := hab.own h (hbc.own h hid)

theorem Stored.grown {entry : JournalEntry} {before after : LocalStorage}
    (h : R.Stored entry before)
    (hgrown : Grown (fun older newer => R.healthy → Retains older newer) before after) :
    R.Stored entry after := by
  obtain ⟨row, hrow, hid, hlater⟩ := h
  obtain ⟨newer, hnewer, hid', hlater'⟩ := hgrown entry.deploymentId row hrow
  exact ⟨newer, hnewer, hid'.trans hid,
    hlater.trans (fun _ _ _ hab hbc h => (hab h).trans (hbc h)) hlater'⟩

theorem Writes.grown {before after : LocalStorage} (h : R.Writes run before after)
    (hfiled : Filed before) :
    Grown (fun older newer => R.healthy → Retains older newer) before after := by
  rcases h with rfl | ⟨row, hrow, -, hold, -⟩
  · exact Grown.refl _
  · exact hrow.grown hfiled fun older holder hhealthy => (hold hhealthy older holder).toRetains

theorem Writes.mark {before after : LocalStorage} (h : R.Writes run before after)
    (hhealthy : R.healthy) {mark : String} (hmark : mark ≠ run.uuid) :
    MarkKept mark before after := by
  rcases h with rfl | ⟨row, hrow, -, hold, hnew⟩
  · exact MarkKept.refl _ _
  · intro deploymentId other hother hothermark
    rcases hrow.mem hother with ⟨rfl, rfl⟩ | ⟨hmem, -⟩
    · cases hfound : row? before other.deploymentId other.clientOperationId with
      | none =>
        obtain ⟨_, _, _, -, rfl⟩ := hnew hhealthy hfound
        cases hothermark
      | some older =>
        obtain ⟨hmem, hid⟩ := row?_some hfound
        rcases (hold hhealthy older hfound).mark with h | h | ⟨h, hhash⟩
        · simp [h] at hothermark
        · rw [h, Option.some_inj] at hothermark
          exact absurd hothermark.symm hmark
        · exact ⟨older, hmem, hid, h ▸ hothermark, hhash.symm⟩
    · exact ⟨other, hmem, rfl, hothermark, rfl⟩

theorem Writes.relies {other : Run} (hne : other.uuid ≠ run.uuid) {before after : State}
    (h : R.Writes run before.1 after.1) (hremembers : R.Remembers run before.2 after.2)
    (hshared : R.Shared after.1) (hmemory : R.Memory after.2) : R.Relies other before after where
  shared _ := hshared
  memory _ := hmemory
  grown hbefore := h.grown hbefore.filed
  mark hhealthy := h.mark hhealthy hne
  volatile hhealthy id hid := hremembers.volatile hhealthy id hid
  own hhealthy hid := (hremembers.own hhealthy _ hid).resolve_left hne

theorem Writes.relies_elsewhere {other : Run} (hne : other.uuid ≠ run.uuid)
    {before after : LocalStorage} (h : R.Writes run before after) (hshared : R.Shared after)
    (j : LocalStorageJournal) : R.Relies other (before, j) (after, j) where
  shared _ := hshared
  memory := id
  grown hbefore := h.grown hbefore.filed
  mark hhealthy := h.mark hhealthy hne
  volatile _ _ := id
  own _ := id

variable (R run) in
def discipline (E : Surroundings Answer Moment) : Discipline E State where
  rely := R.Relies run
  inv s := R.Shared s.1 ∧ R.Memory s.2
  quiet before after := after.1 = before.1 ∧ R.Remembers run before.2 after.2
  grants before after := R.Writes run before.1 after.1 ∧ R.Remembers run before.2 after.2
  permits request s := request = .submit → R.Asked run s.1
  rely_inv h hrely := ⟨hrely.shared h.1, hrely.memory h.2⟩
  quiet_refl _ := ⟨rfl, Remembers.refl _⟩
  quiet_trans hab hbc := ⟨hbc.1.trans hab.1, hab.2.trans hbc.2⟩
  quiet_grants h := ⟨.inl h.1, h.2⟩

end Rules

end MotorCove.Web
