import Mathlib.Logic.Function.Basic
import Mathlib.Tactic.Tauto
import MotorCove.Indexer.Projectors

/-!
# The projection tables

The rows of `sales`, `payment_claims` and `token_ownership` of one deployment
by their keys, the checks each row must pass, and the upserts that applying an
event performs. An upsert rewrites only the columns its conflict clause names.
-/

set_option autoImplicit false

namespace MotorCove.Indexer
open MotorCove.Text MotorCove.Fallible

/-- Why an operation of the store fails. -/
inductive StoreError where
  | deploymentNotRegistered
  | projectionContractMismatch
  | maintenanceContractUnsupported
  | checkpointBlockMissing
  | reindexMaintenanceRequired
  | reindexCatchupIncomplete
  | recoveryRequired (reason : String)
  | completedBlockContentMismatch
  | eventIdentityContentMismatch
  | commitIntegrity (ordered : OrderedEvent) (cause : ProjectorError)
  | projector (message : String)
  | ownershipProjectionMissingOwner
  | constraint (name : String)
  | sourceRefreshArchiveRequired
  | sourceRefreshMustStartAtDeployment
  | rebuildSourceIncomplete (detail : String)
  | jsonSyntax
  | fault
  deriving DecidableEq, Repr

structure SaleRow where
  saleId : String
  collectionAddress : String
  tokenId : String
  seller : String
  allowedBuyer : String
  buyer : Option String
  priceWei : String
  status : SaleStatus
  fundedAt : Option Cell
  expiresAt : Option Cell
  createdBlock : ℕ
  updatedBlock : ℕ
  lastEventBlockHash : String
  lastEventLogIndex : ℕ
  tokenReclaimed : Bool
  deriving DecidableEq, Repr

structure PaymentRow where
  saleId : String
  beneficiary : String
  amountWei : String
  kind : ClaimKind
  status : ClaimStatus
  withdrawalRecipient : Option String
  creationBlockHash : String
  creationLogIndex : ℕ
  withdrawalBlockHash : Option String
  withdrawalLogIndex : Option ℕ
  deriving DecidableEq, Repr

structure OwnershipRow where
  collectionAddress : String
  tokenId : String
  owner : String
  lastTransferBlockHash : String
  lastTransferLogIndex : ℕ
  updatedBlock : ℕ
  deriving DecidableEq, Repr

@[ext] structure Projections where
  sales : String → Option SaleRow
  paymentClaims : String → Option PaymentRow
  tokenOwnership : String × String → Option OwnershipRow

def noProjections : Projections := ⟨fun _ => none, fun _ => none, fun _ => none⟩

/-- The first check of a row that fails names the constraint. -/
def checkAll : List (String × Bool) → Except StoreError Unit
  | [] => .ok ()
  | (name, holds) :: rest => if holds then checkAll rest else .error (.constraint name)

def SaleRow.checks (r : SaleRow) : List (String × Bool) :=
  [("sale_id_check", canonicalUint256 r.saleId false),
    ("sale_token_id_check", canonicalUint256 r.tokenId false),
    ("sale_price_check", canonicalUint256 r.priceWei true),
    ("sale_collection_check", hexLength r.collectionAddress 40),
    ("sale_seller_check", hexLength r.seller 40),
    ("sale_allowed_buyer_check", hexLength r.allowedBuyer 40),
    ("sale_buyer_check", r.buyer.all fun buyer => hexLength buyer 40),
    ("sale_created_block_check", safeInteger r.createdBlock),
    ("sale_updated_block_check", safeInteger r.updatedBlock),
    ("sale_log_index_check", safeInteger r.lastEventLogIndex)]

def PaymentRow.checks (r : PaymentRow) : List (String × Bool) :=
  [("claim_sale_id_check", canonicalUint256 r.saleId false),
    ("claim_amount_check", canonicalUint256 r.amountWei true),
    ("claim_beneficiary_check", hexLength r.beneficiary 40),
    ("claim_creation_log_check", safeInteger r.creationLogIndex)]

def OwnershipRow.checks (r : OwnershipRow) : List (String × Bool) :=
  [("ownership_token_id_check", canonicalUint256 r.tokenId false),
    ("ownership_collection_check", hexLength r.collectionAddress 40),
    ("ownership_owner_check", hexLength r.owner 40),
    ("ownership_log_index_check", safeInteger r.lastTransferLogIndex),
    ("ownership_block_check", safeInteger r.updatedBlock)]

/-- The row after `INSERT … ON CONFLICT DO UPDATE` with the proposed row. -/
def mergeSale (proposed : SaleRow) : Option SaleRow → SaleRow
  | none => proposed
  | some row => { row with
      buyer := proposed.buyer
      status := proposed.status
      fundedAt := proposed.fundedAt
      expiresAt := proposed.expiresAt
      updatedBlock := proposed.updatedBlock
      lastEventBlockHash := proposed.lastEventBlockHash
      lastEventLogIndex := proposed.lastEventLogIndex
      tokenReclaimed := proposed.tokenReclaimed }

def mergePayment (proposed : PaymentRow) : Option PaymentRow → PaymentRow
  | none => proposed
  | some row => { row with
      status := proposed.status
      withdrawalRecipient := proposed.withdrawalRecipient
      withdrawalBlockHash := proposed.withdrawalBlockHash
      withdrawalLogIndex := proposed.withdrawalLogIndex }

def mergeOwnership (proposed : OwnershipRow) : Option OwnershipRow → OwnershipRow
  | none => proposed
  | some row => { row with
      owner := proposed.owner
      lastTransferBlockHash := proposed.lastTransferBlockHash
      lastTransferLogIndex := proposed.lastTransferLogIndex
      updatedBlock := proposed.updatedBlock }

def upsertSale (proposed : SaleRow) (p : Projections) : Except StoreError Projections := do
  checkAll proposed.checks
  let row := mergeSale proposed (p.sales proposed.saleId)
  checkAll row.checks
  .ok { p with sales := Function.update p.sales proposed.saleId (some row) }

def upsertPayment (proposed : PaymentRow) (p : Projections) : Except StoreError Projections := do
  checkAll proposed.checks
  let row := mergePayment proposed (p.paymentClaims proposed.saleId)
  checkAll row.checks
  .ok { p with paymentClaims := Function.update p.paymentClaims proposed.saleId (some row) }

def upsertOwnership (proposed : OwnershipRow) (p : Projections) :
    Except StoreError Projections := do
  let key := (proposed.collectionAddress, proposed.tokenId)
  checkAll proposed.checks
  let row := mergeOwnership proposed (p.tokenOwnership key)
  checkAll row.checks
  .ok { p with tokenOwnership := Function.update p.tokenOwnership key (some row) }

def SaleRow.projection (r : SaleRow) : SaleProjection where
  saleId := r.saleId
  tokenId := r.tokenId
  seller := r.seller
  allowedBuyer := r.allowedBuyer
  buyer := r.buyer
  priceWei := r.priceWei
  fundedAt := r.fundedAt.map Cell.text
  expiresAt := r.expiresAt.map Cell.text
  status := r.status
  tokenReclaimed := r.tokenReclaimed

def PaymentRow.projection (r : PaymentRow) : PaymentProjection where
  saleId := r.saleId
  beneficiary := r.beneficiary
  amountWei := r.amountWei
  kind := r.kind
  status := r.status
  recipient := r.withdrawalRecipient

/-- A projector's own error class carries the event it failed at. -/
def atEvent {α : Type} (ordered : OrderedEvent) : Except ProjectorError α → Except StoreError α
  | .ok a => .ok a
  | .error (.failure message) => .error (.projector message)
  | .error cause => .error (.commitIntegrity ordered cause)

/-- `Number(text)` bound to an integer column: not a number is stored as null. -/
def timeCell (text : Option String) : Option Cell := (text.bind number).map Cell.ofDouble

def saleRow (collectionAddress : String) (ordered : OrderedEvent) (current : Option SaleRow)
    (next : SaleProjection) : SaleRow where
  saleId := next.saleId
  collectionAddress := lower collectionAddress
  tokenId := next.tokenId
  seller := lower next.seller
  allowedBuyer := lower next.allowedBuyer
  buyer := next.buyer.map lower
  priceWei := next.priceWei
  status := next.status
  fundedAt := timeCell next.fundedAt
  expiresAt := timeCell next.expiresAt
  createdBlock := (current.map SaleRow.createdBlock).getD ordered.blockNumber
  updatedBlock := ordered.blockNumber
  lastEventBlockHash := lower ordered.blockHash
  lastEventLogIndex := ordered.logIndex
  tokenReclaimed := next.tokenReclaimed

def paymentRow (ordered : OrderedEvent) (current : Option PaymentRow) (next : PaymentProjection) :
    PaymentRow where
  saleId := next.saleId
  beneficiary := lower next.beneficiary
  amountWei := next.amountWei
  kind := next.kind
  status := next.status
  withdrawalRecipient := next.recipient.map lower
  creationBlockHash := lower ((current.map PaymentRow.creationBlockHash).getD ordered.blockHash)
  creationLogIndex := (current.map PaymentRow.creationLogIndex).getD ordered.logIndex
  withdrawalBlockHash := if next.status = .withdrawn then some (lower ordered.blockHash) else none
  withdrawalLogIndex := if next.status = .withdrawn then some ordered.logIndex else none

def applyOwnership (ordered : OrderedEvent) (tokenId : String) (p : Projections) :
    Except StoreError Projections := do
  let collection := lower ordered.contractAddress
  let current := p.tokenOwnership (collection, tokenId)
  match projectOwnership (current.map OwnershipRow.owner) ordered.event with
  | none => .error .ownershipProjectionMissingOwner
  | some owner =>
    failIf (owner = "") .ownershipProjectionMissingOwner
    upsertOwnership ⟨collection, tokenId, lower owner, lower ordered.blockHash, ordered.logIndex,
      ordered.blockNumber⟩ p

def applyPayment (ordered : OrderedEvent) (saleId : String) (p : Projections) :
    Except StoreError Projections := do
  let current := p.paymentClaims saleId
  let next ← atEvent ordered (projectPayment (current.map PaymentRow.projection) ordered.event)
  match next with
  | none => .ok p
  | some next => upsertPayment (paymentRow ordered current next) p

def applySale (collectionAddress : String) (ordered : OrderedEvent) (saleId : String)
    (p : Projections) : Except StoreError Projections := do
  let current := p.sales saleId
  let next ← atEvent ordered (projectSale (current.map SaleRow.projection) ordered.event)
  match next with
  | none => .ok p
  | some next => upsertSale (saleRow collectionAddress ordered current next) p

/-- The store's `applyEvent`. -/
def applyEvent (collectionAddress : String) (ordered : OrderedEvent) (p : Projections) :
    Except StoreError Projections :=
  match ordered.event with
  | .transfer tokenId _ _ => applyOwnership ordered tokenId p
  | event =>
    match event.saleId? with
    | none => .ok p
    | some saleId => do
      let p ← applyPayment ordered saleId p
      applySale collectionAddress ordered saleId p

def applyEvents (collectionAddress : String) (events : List OrderedEvent) (p : Projections) :
    Except StoreError Projections :=
  events.foldlM (fun p ordered => applyEvent collectionAddress ordered p) p

theorem checkAll_ok {checks : List (String × Bool)} {u : Unit} :
    checkAll checks = .ok u ↔ ∀ c ∈ checks, c.2 = true := by
  induction checks with
  | nil => simp [checkAll]
  | cons c rest ih =>
    obtain ⟨name, holds⟩ := c
    cases holds with
    | false => simp [checkAll]
    | true => simp [checkAll, ih]

def SaleRow.Valid (r : SaleRow) : Prop := ∀ c ∈ r.checks, c.2 = true

def PaymentRow.Valid (r : PaymentRow) : Prop := ∀ c ∈ r.checks, c.2 = true

def OwnershipRow.Valid (r : OwnershipRow) : Prop := ∀ c ∈ r.checks, c.2 = true

structure Projections.Valid (p : Projections) : Prop where
  sales : ∀ k r, p.sales k = some r → r.Valid
  paymentClaims : ∀ k r, p.paymentClaims k = some r → r.Valid
  tokenOwnership : ∀ k r, p.tokenOwnership k = some r → r.Valid

theorem valid_noProjections : noProjections.Valid where
  sales := fun _ _ h => nomatch h
  paymentClaims := fun _ _ h => nomatch h
  tokenOwnership := fun _ _ h => nomatch h

theorem mergeSale_valid {proposed : SaleRow} {current : Option SaleRow} (h : proposed.Valid)
    (hc : ∀ r, current = some r → r.Valid) : (mergeSale proposed current).Valid := by
  cases current with
  | none => exact h
  | some r =>
    have hr := hc r rfl
    simp only [SaleRow.Valid, SaleRow.checks, List.forall_mem_cons, List.not_mem_nil,
      IsEmpty.forall_iff, implies_true, and_true, mergeSale] at h hr ⊢
    tauto

theorem mergePayment_valid {proposed : PaymentRow} {current : Option PaymentRow}
    (h : proposed.Valid) (hc : ∀ r, current = some r → r.Valid) :
    (mergePayment proposed current).Valid := by
  cases current with
  | none => exact h
  | some r => exact hc r rfl

theorem mergeOwnership_valid {proposed : OwnershipRow} {current : Option OwnershipRow}
    (h : proposed.Valid) (hc : ∀ r, current = some r → r.Valid) :
    (mergeOwnership proposed current).Valid := by
  cases current with
  | none => exact h
  | some r =>
    have hr := hc r rfl
    simp only [OwnershipRow.Valid, OwnershipRow.checks, List.forall_mem_cons, List.not_mem_nil,
      IsEmpty.forall_iff, implies_true, and_true, mergeOwnership] at h hr ⊢
    tauto

theorem valid_update {κ ρ : Type} [DecidableEq κ] {f : κ → Option ρ} {P : ρ → Prop}
    (h : ∀ k r, f k = some r → P r) (key : κ) {row : ρ} (hrow : P row) :
    ∀ k r, Function.update f key (some row) k = some r → P r := by
  intro k r hk
  by_cases hkey : k = key
  · subst hkey
    rw [Function.update_self] at hk
    exact Option.some.inj hk ▸ hrow
  · rw [Function.update_of_ne hkey] at hk
    exact h k r hk

section
variable {p p' : Projections}

theorem upsertSale_ok (hp : p.Valid) {proposed : SaleRow} :
    upsertSale proposed p = .ok p' ↔ proposed.Valid ∧ p' = { p with
      sales := Function.update p.sales proposed.saleId
        (some (mergeSale proposed (p.sales proposed.saleId))) } := by
  simp only [upsertSale, bind_ok, checkAll_ok, exists_const, Except.ok.injEq]
  constructor
  · rintro ⟨h, _, rfl⟩
    exact ⟨h, rfl⟩
  · rintro ⟨h, rfl⟩
    exact ⟨h, mergeSale_valid h (hp.sales _), rfl⟩

theorem upsertPayment_ok (hp : p.Valid) {proposed : PaymentRow} :
    upsertPayment proposed p = .ok p' ↔ proposed.Valid ∧ p' = { p with
      paymentClaims := Function.update p.paymentClaims proposed.saleId
        (some (mergePayment proposed (p.paymentClaims proposed.saleId))) } := by
  simp only [upsertPayment, bind_ok, checkAll_ok, exists_const, Except.ok.injEq]
  constructor
  · rintro ⟨h, _, rfl⟩
    exact ⟨h, rfl⟩
  · rintro ⟨h, rfl⟩
    exact ⟨h, mergePayment_valid h (hp.paymentClaims _), rfl⟩

theorem upsertOwnership_ok (hp : p.Valid) {proposed : OwnershipRow} :
    upsertOwnership proposed p = .ok p' ↔ proposed.Valid ∧ p' = { p with
      tokenOwnership := Function.update p.tokenOwnership
        (proposed.collectionAddress, proposed.tokenId)
        (some (mergeOwnership proposed
          (p.tokenOwnership (proposed.collectionAddress, proposed.tokenId)))) } := by
  simp only [upsertOwnership, bind_ok, checkAll_ok, exists_const, Except.ok.injEq]
  constructor
  · rintro ⟨h, _, rfl⟩
    exact ⟨h, rfl⟩
  · rintro ⟨h, rfl⟩
    exact ⟨h, mergeOwnership_valid h (hp.tokenOwnership _), rfl⟩

theorem atEvent_ok {α : Type} {ordered : OrderedEvent} {x : Except ProjectorError α} {a : α} :
    atEvent ordered x = .ok a ↔ x = .ok a := by
  match x with
  | .ok b => simp [atEvent]
  | .error (.failure message) => simp [atEvent]
  | .error (.integrity ..) => simp [atEvent]

theorem applyPayment_ok {ordered : OrderedEvent} {saleId : String} :
    applyPayment ordered saleId p = .ok p' ↔
      ∃ next, projectPayment ((p.paymentClaims saleId).map PaymentRow.projection) ordered.event =
          .ok next ∧
        (next = none ∧ p' = p ∨ ∃ claim, next = some claim ∧
          upsertPayment (paymentRow ordered (p.paymentClaims saleId) claim) p = .ok p') := by
  simp only [applyPayment, bind_ok, atEvent_ok]
  refine exists_congr fun next => and_congr_right fun _ => ?_
  cases next with
  | none => simp [eq_comm]
  | some claim => simp

theorem applySale_ok {collectionAddress : String} {ordered : OrderedEvent} {saleId : String} :
    applySale collectionAddress ordered saleId p = .ok p' ↔
      ∃ next, projectSale ((p.sales saleId).map SaleRow.projection) ordered.event = .ok next ∧
        (next = none ∧ p' = p ∨ ∃ sale, next = some sale ∧
          upsertSale (saleRow collectionAddress ordered (p.sales saleId) sale) p = .ok p') := by
  simp only [applySale, bind_ok, atEvent_ok]
  refine exists_congr fun next => and_congr_right fun _ => ?_
  cases next with
  | none => simp [eq_comm]
  | some sale => simp

theorem applyPayment_valid {ordered : OrderedEvent} {saleId : String} (hp : p.Valid)
    (h : applyPayment ordered saleId p = .ok p') : p'.Valid := by
  obtain ⟨_, _, ⟨_, rfl⟩ | ⟨claim, _, hu⟩⟩ := applyPayment_ok.mp h
  · exact hp
  · obtain ⟨hv, rfl⟩ := (upsertPayment_ok hp).mp hu
    exact ⟨hp.sales, valid_update hp.paymentClaims _
      (mergePayment_valid hv (hp.paymentClaims _)), hp.tokenOwnership⟩

theorem applySale_valid {collectionAddress : String} {ordered : OrderedEvent} {saleId : String}
    (hp : p.Valid) (h : applySale collectionAddress ordered saleId p = .ok p') : p'.Valid := by
  obtain ⟨_, _, ⟨_, rfl⟩ | ⟨sale, _, hu⟩⟩ := applySale_ok.mp h
  · exact hp
  · obtain ⟨hv, rfl⟩ := (upsertSale_ok hp).mp hu
    exact ⟨valid_update hp.sales _ (mergeSale_valid hv (hp.sales _)), hp.paymentClaims,
      hp.tokenOwnership⟩

theorem applyOwnership_ok {ordered : OrderedEvent} {tokenId src dst : String}
    (he : ordered.event = .transfer tokenId src dst) :
    applyOwnership ordered tokenId p = .ok p' ↔ dst ≠ "" ∧
      upsertOwnership ⟨lower ordered.contractAddress, tokenId, lower dst, lower ordered.blockHash,
        ordered.logIndex, ordered.blockNumber⟩ p = .ok p' := by
  simp [applyOwnership, he, projectOwnership]

theorem applyEvent_transfer (hp : p.Valid) {collectionAddress : String} {ordered : OrderedEvent}
    {tokenId src dst : String} (he : ordered.event = .transfer tokenId src dst) :
    applyEvent collectionAddress ordered p = .ok p' ↔ dst ≠ "" ∧ ∃ row : OwnershipRow,
      row = ⟨lower ordered.contractAddress, tokenId, lower dst, lower ordered.blockHash,
        ordered.logIndex, ordered.blockNumber⟩ ∧ row.Valid ∧ p' = { p with
          tokenOwnership := Function.update p.tokenOwnership (row.collectionAddress, row.tokenId)
            (some (mergeOwnership row
              (p.tokenOwnership (row.collectionAddress, row.tokenId)))) } := by
  unfold applyEvent
  rw [he]
  simp [applyOwnership_ok he, upsertOwnership_ok hp]

theorem applyEvent_sale {collectionAddress saleId : String} {ordered : OrderedEvent}
    (he : ordered.event.saleId? = some saleId) :
    applyEvent collectionAddress ordered p = .ok p' ↔
      ∃ p₁, applyPayment ordered saleId p = .ok p₁ ∧
        applySale collectionAddress ordered saleId p₁ = .ok p' := by
  unfold applyEvent
  split
  · rename_i hevent
    rw [hevent] at he
    cases he
  · rw [he]
    exact bind_ok

theorem applyEvent_upsertSale (hp : p.Valid) {collectionAddress saleId : String}
    {ordered : OrderedEvent} {next : SaleProjection}
    (he : ordered.event.saleId? = some saleId)
    (hpayment : ∀ current, projectPayment current ordered.event = .ok none)
    (hnext : projectSale ((p.sales saleId).map SaleRow.projection) ordered.event = .ok (some next))
    (hvalid : (saleRow collectionAddress ordered (p.sales saleId) next).Valid) :
    applyEvent collectionAddress ordered p = .ok { p with
      sales := Function.update p.sales next.saleId (some (mergeSale
        (saleRow collectionAddress ordered (p.sales saleId) next) (p.sales next.saleId))) } :=
  (applyEvent_sale he).mpr ⟨p, applyPayment_ok.mpr ⟨none, hpayment _, .inl ⟨rfl, rfl⟩⟩,
    applySale_ok.mpr ⟨some next, hnext, .inr ⟨next, rfl, (upsertSale_ok hp).mpr ⟨hvalid, rfl⟩⟩⟩⟩

theorem applyEvent_upsertPayment (hp : p.Valid) {collectionAddress saleId : String}
    {ordered : OrderedEvent} {next : PaymentProjection}
    (he : ordered.event.saleId? = some saleId)
    (hnext : projectPayment ((p.paymentClaims saleId).map PaymentRow.projection) ordered.event =
      .ok (some next))
    (hsale : ∀ current, projectSale current ordered.event = .ok none)
    (hvalid : (paymentRow ordered (p.paymentClaims saleId) next).Valid) :
    applyEvent collectionAddress ordered p = .ok { p with
      paymentClaims := Function.update p.paymentClaims next.saleId (some (mergePayment
        (paymentRow ordered (p.paymentClaims saleId) next) (p.paymentClaims next.saleId))) } :=
  (applyEvent_sale he).mpr ⟨_, applyPayment_ok.mpr ⟨some next, hnext,
      .inr ⟨next, rfl, (upsertPayment_ok hp).mpr ⟨hvalid, rfl⟩⟩⟩,
    applySale_ok.mpr ⟨none, hsale _, .inl ⟨rfl, rfl⟩⟩⟩

theorem applyEvent_valid {collectionAddress : String} {ordered : OrderedEvent} (hp : p.Valid)
    (h : applyEvent collectionAddress ordered p = .ok p') : p'.Valid := by
  cases hs : ordered.event.saleId? with
  | none =>
    cases he : ordered.event with
    | transfer tokenId src dst =>
      obtain ⟨_, row, _, hv, rfl⟩ := (applyEvent_transfer hp he).mp h
      exact ⟨hp.sales, hp.paymentClaims, valid_update hp.tokenOwnership _
        (mergeOwnership_valid hv (hp.tokenOwnership _))⟩
    | _ =>
      rw [he] at hs
      cases hs
  | some saleId =>
    obtain ⟨p₁, h₁, h₂⟩ := (applyEvent_sale hs).mp h
    exact applySale_valid (applyPayment_valid hp h₁) h₂

theorem applyEvents_valid {collectionAddress : String} {events : List OrderedEvent} (hp : p.Valid)
    (h : applyEvents collectionAddress events p = .ok p') : p'.Valid :=
  foldlM_invariant _ Projections.Valid (fun _ _ _ hs ht => applyEvent_valid hs ht) events p p' hp h

end

end MotorCove.Indexer
