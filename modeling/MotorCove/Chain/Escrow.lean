import MotorCove.Chain.Solidity

/-!
# The escrow contract

Every entry point of the contract as a function on one world: the contract's
storage and balance, the block timestamp, the token contract's state and the
logs of the run. A revert is an error and leaves the caller's world in place.
The token is any contract with the two methods the escrow calls; what a
recipient does when it is called is a parameter of each entry point.
-/

set_option autoImplicit false

namespace MotorCove.Chain
open MotorCove.Fallible

inductive SaleStatus where
  | none
  | listed
  | funded
  | completed
  | cancelled
  | expired
  deriving DecidableEq, Repr

inductive ClaimKind where
  | none
  | sellerProceeds
  | buyerRefund
  deriving DecidableEq, Repr

inductive ClaimStatus where
  | none
  | claimable
  | withdrawn
  deriving DecidableEq, Repr

structure Sale where
  tokenId : Uint256
  seller : Address
  allowedBuyer : Address
  buyer : Address
  priceWei : Uint256
  fundedAt : Uint64
  expiresAt : Uint64
  status : SaleStatus
  tokenReclaimed : Bool
  deriving DecidableEq, Repr

structure PaymentClaim where
  beneficiary : Address
  amountWei : Uint256
  kind : ClaimKind
  status : ClaimStatus
  deriving DecidableEq, Repr

structure PendingReceipt where
  seller : Address
  tokenId : Uint256
  active : Bool
  deriving DecidableEq, Repr

structure Transfer where
  src : Address
  dst : Address
  tokenId : Uint256
  deriving DecidableEq, Repr

/-- The logs an indexer reads: the token's `Transfer` and the escrow's events. -/
inductive Log where
  | transfer (t : Transfer)
  | saleCreated (saleId tokenId : Uint256) (seller allowedBuyer : Address) (priceWei : Uint256)
  | saleFunded (saleId : Uint256) (buyer : Address) (amountWei : Uint256)
      (fundedAt expiresAt : Uint64)
  | saleCompleted (saleId tokenId : Uint256) (buyer : Address)
  | saleCancelled (saleId tokenId : Uint256) (seller : Address)
  | saleExpired (saleId tokenId : Uint256) (buyer : Address)
  | paymentClaimCreated (saleId : Uint256) (beneficiary : Address) (amountWei : Uint256)
      (kind : ClaimKind)
  | paymentWithdrawn (saleId : Uint256) (beneficiary recipient : Address) (amountWei : Uint256)
      (kind : ClaimKind)
  | tokenReclaimed (saleId tokenId : Uint256) (recipient : Address)
  deriving DecidableEq, Repr

/-- A call of `onERC721Received` that a token contract makes on `dst`. -/
structure Received where
  operator : Address
  src : Address
  dst : Address
  tokenId : Uint256
  deriving DecidableEq, Repr

structure TokenResult (S : Type) where
  state : S
  transfers : List Transfer
  received : Option Received

/-- A token contract with state `S`: the methods of `IERC721` the escrow uses,
and `perform`, the calls `Op` that other accounts make on it. -/
structure IERC721 (S Op : Type) where
  ownerOf : S → Uint256 → Except Revert Address
  safeTransferFrom : Address → Address → Address → Uint256 → S → Except Revert (TokenResult S)
  perform : Address → Op → S → Except Revert (TokenResult S)

/-- The two contract addresses and the escrow's immutables, with what its
constructor checked. -/
structure Deployment where
  escrow : Address
  nft : Address
  fundingPeriodSeconds : Uint64
  escrow_ne_zero : escrow ≠ 0
  nft_ne_zero : nft ≠ 0
  period_ne_zero : fundingPeriodSeconds ≠ 0

/-- `payments` is the ether that the contract sent, in order. -/
structure World (S : Type) where
  entered : Bool
  saleCount : Uint256
  totalLiability : Uint256
  sales : Uint256 → Sale
  claims : Uint256 → PaymentClaim
  custodySaleId : Uint256 → Uint256
  pendingReceipt : PendingReceipt
  balance : ℕ
  payments : List (Address × Uint256)
  timestamp : ℕ
  token : S
  logs : List Log

def noSale : Sale := ⟨0, 0, 0, 0, 0, 0, 0, .none, false⟩

def noClaim : PaymentClaim := ⟨0, 0, .none, .none⟩

def noReceipt : PendingReceipt := ⟨0, 0, false⟩

/-- Storage after the constructor. The address may hold ether before. -/
def deployed {S : Type} (token : S) (balance timestamp : ℕ) : World S where
  entered := false
  saleCount := 0
  totalLiability := 0
  sales := fun _ => noSale
  claims := fun _ => noClaim
  custodySaleId := fun _ => 0
  pendingReceipt := noReceipt
  balance := balance
  payments := []
  timestamp := timestamp
  token := token
  logs := []

variable {S Op : Type}

def World.setSale (w : World S) (saleId : Uint256) (sale : Sale) : World S :=
  { w with sales := Function.update w.sales saleId sale }

def World.setClaim (w : World S) (saleId : Uint256) (claim : PaymentClaim) : World S :=
  { w with claims := Function.update w.claims saleId claim }

def World.setCustody (w : World S) (tokenId saleId : Uint256) : World S :=
  { w with custodySaleId := Function.update w.custodySaleId tokenId saleId }

def World.emit (w : World S) (log : Log) : World S :=
  { w with logs := w.logs ++ [log] }

/-- What a recipient does with the world while it is called. -/
abbrev React (S : Type) := World S → Except Revert (World S)

def nonReentrant (body : World S → Except Revert (World S)) (w : World S) :
    Except Revert (World S) := do
  failIf (w.entered = true) .reentrantCall
  let w ← body { w with entered := true }
  .ok { w with entered := false }

def requireSale (saleId : Uint256) (w : World S) : Except Revert Sale :=
  if (w.sales saleId).status = .none then .error .saleNotFound else .ok (w.sales saleId)

def requireState (sale : Sale) (expected : SaleStatus) : Except Revert Unit :=
  failIf (sale.status ≠ expected) .invalidSaleState

def checkLiability (w : World S) : Except Revert Unit :=
  failIf (w.balance < w.totalLiability.val) .liabilityInvariantBroken

def getSale (saleId : Uint256) (w : World S) : Except Revert Sale :=
  requireSale saleId w

def getPaymentClaim (saleId : Uint256) (w : World S) : Except Revert PaymentClaim := do
  let _ ← requireSale saleId w
  .ok (w.claims saleId)

/-- The escrow's own receiver hook, called by `sender`. -/
def onERC721Received (d : Deployment) (sender operator src : Address) (tokenId : Uint256)
    (w : World S) : Except Revert (World S) := do
  failIf (sender ≠ d.nft ∨ operator ≠ d.escrow ∨ w.pendingReceipt.active = false
    ∨ src ≠ w.pendingReceipt.seller ∨ tokenId ≠ w.pendingReceipt.tokenId) .unexpectedNftTransfer
  .ok { w with pendingReceipt := noReceipt }

/-- The token's new state and logs take effect, then the receiver is called:
the escrow through its hook, any other receiver through `react`. -/
def applyToken (d : Deployment) (react : React S) (r : TokenResult S) (w : World S) :
    Except Revert (World S) :=
  let w := { w with token := r.state, logs := w.logs ++ r.transfers.map .transfer }
  match r.received with
  | none => .ok w
  | some x =>
    if x.dst = d.escrow then onERC721Received d d.nft x.operator x.src x.tokenId w
    else react w

def nftSafeTransferFrom (d : Deployment) (nft : IERC721 S Op) (react : React S)
    (src dst : Address) (tokenId : Uint256) (w : World S) : Except Revert (World S) := do
  let r ← nft.safeTransferFrom d.escrow src dst tokenId w.token
  applyToken d react r w

def createSale (d : Deployment) (nft : IERC721 S Op) (react : React S) (sender : Address)
    (tokenId priceWei : Uint256) (allowedBuyer : Address) (w : World S) :
    Except Revert (World S) := do
  failIf (priceWei = 0) .invalidPrice
  failIf (allowedBuyer = 0) .zeroAddress
  failIf (allowedBuyer = sender) .sellerCannotBuy
  let owner ← nft.ownerOf w.token tokenId
  failIf (owner ≠ sender) .notTokenOwner
  failIf (w.custodySaleId tokenId ≠ 0) .tokenAlreadyInCustody
  let w ← nftSafeTransferFrom d nft react sender d.escrow tokenId
    { w with pendingReceipt := ⟨sender, tokenId, true⟩ }
  failIf (w.pendingReceipt.active = true) .unexpectedNftTransfer
  let saleId ← checkedAdd w.saleCount 1
  .ok (((({ w with saleCount := saleId }).setSale saleId
      ⟨tokenId, sender, allowedBuyer, 0, priceWei, 0, 0, .listed, false⟩).setCustody
        tokenId saleId).emit (.saleCreated saleId tokenId sender allowedBuyer priceWei))

def fundSale (d : Deployment) (sender : Address) (value saleId : Uint256) (w : World S) :
    Except Revert (World S) := do
  let sale ← requireSale saleId w
  requireState sale .listed
  failIf (sender = sale.seller) .sellerCannotBuy
  failIf (sender ≠ sale.allowedBuyer) .notAllowedBuyer
  failIf (value ≠ sale.priceWei) .incorrectPayment
  let fundedAt : Uint64 := Fin.ofNat _ w.timestamp
  let expiresAt ← checkedAdd fundedAt d.fundingPeriodSeconds
  let totalLiability ← checkedAdd w.totalLiability value
  let w := (({ w with totalLiability }).setSale saleId
    { sale with buyer := sender, fundedAt, expiresAt, status := .funded }).emit
      (.saleFunded saleId sender value fundedAt expiresAt)
  checkLiability w
  .ok w

def completeSale (d : Deployment) (nft : IERC721 S Op) (react : React S) (sender : Address)
    (saleId : Uint256) (w : World S) : Except Revert (World S) := do
  let sale ← requireSale saleId w
  requireState sale .funded
  failIf (sender ≠ sale.buyer) .unauthorized
  failIf (sale.expiresAt.val ≤ w.timestamp) .deadlinePassed
  let w := ((((w.setSale saleId { sale with status := .completed }).setCustody
    sale.tokenId 0).setClaim saleId
      ⟨sale.seller, sale.priceWei, .sellerProceeds, .claimable⟩).emit
        (.saleCompleted saleId sale.tokenId sale.buyer)).emit
          (.paymentClaimCreated saleId sale.seller sale.priceWei .sellerProceeds)
  let w ← nftSafeTransferFrom d nft react d.escrow sale.buyer sale.tokenId w
  checkLiability w
  .ok w

def cancelSale (sender : Address) (saleId : Uint256) (w : World S) :
    Except Revert (World S) := do
  let sale ← requireSale saleId w
  requireState sale .listed
  failIf (sender ≠ sale.seller) .unauthorized
  .ok ((w.setSale saleId { sale with status := .cancelled }).emit
    (.saleCancelled saleId sale.tokenId sale.seller))

def expireSale (saleId : Uint256) (w : World S) : Except Revert (World S) := do
  let sale ← requireSale saleId w
  requireState sale .funded
  failIf (w.timestamp < sale.expiresAt.val) .deadlineNotReached
  let w := (((w.setSale saleId { sale with status := .expired }).setClaim saleId
    ⟨sale.buyer, sale.priceWei, .buyerRefund, .claimable⟩).emit
      (.saleExpired saleId sale.tokenId sale.buyer)).emit
        (.paymentClaimCreated saleId sale.buyer sale.priceWei .buyerRefund)
  checkLiability w
  .ok w

/-- `recipient.call{value: amount}("")`: the transfer fails when the contract
does not hold the amount or the recipient rejects it. -/
def pay (react : React S) (recipient : Address) (amount : Uint256) (w : World S) :
    Except Revert (World S) :=
  if w.balance < amount.val then .error .paymentTransferFailed
  else
    match react { w with
        balance := w.balance - amount.val, payments := w.payments ++ [(recipient, amount)] } with
    | .ok w => .ok w
    | .error _ => .error .paymentTransferFailed

def withdrawPayment (d : Deployment) (react : React S) (sender : Address) (saleId : Uint256)
    (recipient : Address) (w : World S) : Except Revert (World S) := do
  let claim := w.claims saleId
  failIf (claim.status ≠ .claimable) .claimNotAvailable
  failIf (sender ≠ claim.beneficiary) .unauthorized
  failIf (recipient = 0 ∨ recipient = d.escrow) .invalidRecipient
  let totalLiability ← checkedSub w.totalLiability claim.amountWei
  let w := ({ w with totalLiability }).setClaim saleId { claim with status := .withdrawn }
  let w ← pay react recipient claim.amountWei w
  -- `claim` is a storage pointer: the event reads it again after the call
  let claim := w.claims saleId
  let w := w.emit
    (.paymentWithdrawn saleId claim.beneficiary recipient claim.amountWei claim.kind)
  checkLiability w
  .ok w

def reclaimToken (d : Deployment) (nft : IERC721 S Op) (react : React S) (sender : Address)
    (saleId : Uint256) (recipient : Address) (w : World S) : Except Revert (World S) := do
  let sale ← requireSale saleId w
  failIf (sender ≠ sale.seller) .unauthorized
  failIf (sale.status ≠ .cancelled ∧ sale.status ≠ .expired) .invalidSaleState
  failIf (sale.tokenReclaimed = true) .tokenAlreadyInCustody
  failIf (recipient = 0 ∨ recipient = d.escrow) .invalidRecipient
  let w := (w.setSale saleId { sale with tokenReclaimed := true }).setCustody sale.tokenId 0
  let w ← nftSafeTransferFrom d nft react d.escrow recipient sale.tokenId w
  .ok (w.emit (.tokenReclaimed saleId (w.sales saleId).tokenId recipient))

@[simp] theorem requireSale_ok {saleId : Uint256} {w : World S} {sale : Sale} :
    requireSale saleId w = .ok sale ↔ (w.sales saleId).status ≠ .none ∧ w.sales saleId = sale := by
  unfold requireSale
  split <;> simp_all

@[simp] theorem requireSale_error {saleId : Uint256} {w : World S} {e : Revert} :
    requireSale saleId w = .error e ↔ (w.sales saleId).status = .none ∧ .saleNotFound = e := by
  unfold requireSale
  split <;> simp_all

theorem nonReentrant_ok {body : World S → Except Revert (World S)} {w w' : World S}
    (h : nonReentrant body w = .ok w') :
    w.entered = false ∧ ∃ w₁, body { w with entered := true } = .ok w₁ ∧
      w' = { w₁ with entered := false } := by
  simp only [nonReentrant, failIf_bind_ok, Bool.not_eq_true] at h
  obtain ⟨hw, h⟩ := h
  obtain ⟨w₁, hb, hr⟩ := bind_ok.mp h
  exact ⟨hw, w₁, hb, (Except.ok.inj hr).symm⟩

theorem onERC721Received_ok {d : Deployment} {sender operator src : Address} {tokenId : Uint256}
    {w w' : World S} (h : onERC721Received d sender operator src tokenId w = .ok w') :
    sender = d.nft ∧ operator = d.escrow ∧ w.pendingReceipt = ⟨src, tokenId, true⟩ ∧
      w' = { w with pendingReceipt := noReceipt } := by
  simp only [onERC721Received, failIf_bind_ok, not_or, not_not, Bool.not_eq_false] at h
  obtain ⟨⟨hs, ho, ha, hf, ht⟩, hr⟩ := h
  refine ⟨hs, ho, ?_, (Except.ok.inj hr).symm⟩
  rw [hf, ht, ← ha]

/-- A token call changes the token's state and appends its transfers; then the
escrow's hook clears the receipt, or the receiver reacts, or nobody is called. -/
theorem applyToken_ok {d : Deployment} {react : React S} {r : TokenResult S} {w w' : World S}
    (h : applyToken d react r w = .ok w') :
    (r.received = none ∧
      w' = { w with token := r.state, logs := w.logs ++ r.transfers.map .transfer }) ∨
    (∃ x, r.received = some x ∧ x.dst = d.escrow ∧ x.operator = d.escrow ∧
      w.pendingReceipt = ⟨x.src, x.tokenId, true⟩ ∧
      w' = { w with token := r.state, logs := w.logs ++ r.transfers.map .transfer,
                    pendingReceipt := noReceipt }) ∨
    (∃ x, r.received = some x ∧ x.dst ≠ d.escrow ∧
      react { w with token := r.state, logs := w.logs ++ r.transfers.map .transfer } = .ok w') := by
  unfold applyToken at h
  split at h
  · rename_i hr
    exact .inl ⟨hr, (Except.ok.inj h).symm⟩
  · rename_i x hr
    split at h
    · rename_i hd
      obtain ⟨_, ho, hp, hw⟩ := onERC721Received_ok h
      exact .inr (.inl ⟨x, hr, hd, ho, hp, hw⟩)
    · rename_i hd
      exact .inr (.inr ⟨x, hr, hd, h⟩)

theorem nftSafeTransferFrom_ok {d : Deployment} {nft : IERC721 S Op} {react : React S}
    {src dst : Address} {tokenId : Uint256} {w w' : World S}
    (h : nftSafeTransferFrom d nft react src dst tokenId w = .ok w') :
    ∃ r, nft.safeTransferFrom d.escrow src dst tokenId w.token = .ok r ∧
      applyToken d react r w = .ok w' :=
  bind_ok.mp h

theorem createSale_ok {d : Deployment} {nft : IERC721 S Op} {react : React S} {sender : Address}
    {tokenId priceWei : Uint256} {allowedBuyer : Address} {w w' : World S}
    (h : createSale d nft react sender tokenId priceWei allowedBuyer w = .ok w') :
    priceWei ≠ 0 ∧ allowedBuyer ≠ 0 ∧ allowedBuyer ≠ sender ∧
    nft.ownerOf w.token tokenId = .ok sender ∧ w.custodySaleId tokenId = 0 ∧
    ∃ w₁ saleId,
      nftSafeTransferFrom d nft react sender d.escrow tokenId
        { w with pendingReceipt := ⟨sender, tokenId, true⟩ } = .ok w₁ ∧
      w₁.pendingReceipt.active = false ∧ saleId.val = w₁.saleCount.val + 1 ∧
      w' = ((({ w₁ with saleCount := saleId }).setSale saleId
        ⟨tokenId, sender, allowedBuyer, 0, priceWei, 0, 0, .listed, false⟩).setCustody
          tokenId saleId).emit (.saleCreated saleId tokenId sender allowedBuyer priceWei) := by
  simp only [createSale, failIf_ok, exists_const, bind_ok, checkedAdd_ok, Except.ok.injEq, not_not,
    Bool.not_eq_true] at h
  obtain ⟨hp, hb, hs, owner, ho, rfl, hc, w₁, hw₁, ha, saleId, hid, rfl⟩ := h
  exact ⟨hp, hb, hs, ho, hc, w₁, saleId, hw₁, ha, by simpa using hid, rfl⟩

theorem fundSale_ok {d : Deployment} {sender : Address} {value saleId : Uint256} {w w' : World S}
    (h : fundSale d sender value saleId w = .ok w') :
    (w.sales saleId).status = .listed ∧ sender ≠ (w.sales saleId).seller ∧
    sender = (w.sales saleId).allowedBuyer ∧ value = (w.sales saleId).priceWei ∧
    ∃ expiresAt totalLiability,
      expiresAt.val = (Fin.ofNat (2^64) w.timestamp).val + d.fundingPeriodSeconds.val ∧
      totalLiability.val = w.totalLiability.val + value.val ∧
      totalLiability.val ≤ w.balance ∧
      w' = (({ w with totalLiability }).setSale saleId
        { w.sales saleId with
          buyer := sender, fundedAt := Fin.ofNat _ w.timestamp, expiresAt,
          status := .funded }).emit
        (.saleFunded saleId sender value (Fin.ofNat _ w.timestamp) expiresAt) := by
  simp only [fundSale, requireState, checkLiability, failIf_ok, exists_const, bind_ok, requireSale_ok,
    checkedAdd_ok, Except.ok.injEq, not_not, not_lt] at h
  obtain ⟨sale, ⟨_, rfl⟩, hl, hs, hb, hv, expiresAt, he, total, ht, hle, rfl⟩ := h
  exact ⟨hl, hs, hb, hv, expiresAt, total, he, ht, hle, rfl⟩

theorem completeSale_ok {d : Deployment} {nft : IERC721 S Op} {react : React S} {sender : Address}
    {saleId : Uint256} {w w' : World S}
    (h : completeSale d nft react sender saleId w = .ok w') :
    (w.sales saleId).status = .funded ∧ sender = (w.sales saleId).buyer ∧
    w.timestamp < (w.sales saleId).expiresAt.val ∧
    nftSafeTransferFrom d nft react d.escrow (w.sales saleId).buyer (w.sales saleId).tokenId
      (((((w.setSale saleId { w.sales saleId with status := .completed }).setCustody
        (w.sales saleId).tokenId 0).setClaim saleId
          ⟨(w.sales saleId).seller, (w.sales saleId).priceWei, .sellerProceeds, .claimable⟩).emit
            (.saleCompleted saleId (w.sales saleId).tokenId (w.sales saleId).buyer)).emit
              (.paymentClaimCreated saleId (w.sales saleId).seller (w.sales saleId).priceWei
                .sellerProceeds)) = .ok w' ∧
    w'.totalLiability.val ≤ w'.balance := by
  simp only [completeSale, requireState, checkLiability, failIf_ok, exists_const, bind_ok, requireSale_ok,
    Except.ok.injEq, not_not, not_le, not_lt] at h
  obtain ⟨sale, ⟨_, rfl⟩, hf, hs, ht, w₁, hw, hle, rfl⟩ := h
  exact ⟨hf, hs, ht, hw, hle⟩

theorem cancelSale_ok {sender : Address} {saleId : Uint256} {w w' : World S}
    (h : cancelSale sender saleId w = .ok w') :
    (w.sales saleId).status = .listed ∧ sender = (w.sales saleId).seller ∧
    w' = (w.setSale saleId { w.sales saleId with status := .cancelled }).emit
      (.saleCancelled saleId (w.sales saleId).tokenId (w.sales saleId).seller) := by
  simp only [cancelSale, requireState, failIf_ok, exists_const, bind_ok, requireSale_ok,
    Except.ok.injEq, not_not] at h
  obtain ⟨sale, ⟨_, rfl⟩, hl, hs, rfl⟩ := h
  exact ⟨hl, hs, rfl⟩

theorem expireSale_ok {saleId : Uint256} {w w' : World S} (h : expireSale saleId w = .ok w') :
    (w.sales saleId).status = .funded ∧ (w.sales saleId).expiresAt.val ≤ w.timestamp ∧
    w.totalLiability.val ≤ w.balance ∧
    w' = (((w.setSale saleId { w.sales saleId with status := .expired }).setClaim saleId
      ⟨(w.sales saleId).buyer, (w.sales saleId).priceWei, .buyerRefund, .claimable⟩).emit
        (.saleExpired saleId (w.sales saleId).tokenId (w.sales saleId).buyer)).emit
          (.paymentClaimCreated saleId (w.sales saleId).buyer (w.sales saleId).priceWei
            .buyerRefund) := by
  simp only [expireSale, requireState, checkLiability, failIf_ok, exists_const, bind_ok, requireSale_ok,
    Except.ok.injEq, not_not, not_lt] at h
  obtain ⟨sale, ⟨_, rfl⟩, hf, ht, hle, rfl⟩ := h
  exact ⟨hf, ht, hle, rfl⟩

theorem pay_ok {react : React S} {recipient : Address} {amount : Uint256} {w w' : World S} :
    pay react recipient amount w = .ok w' ↔
      amount.val ≤ w.balance ∧ react { w with
        balance := w.balance - amount.val
        payments := w.payments ++ [(recipient, amount)] } = .ok w' := by
  unfold pay
  split
  · rename_i h
    simp [Nat.not_le.mpr h]
  · rename_i h
    split <;> rename_i hr <;> simp [hr, Nat.not_lt.mp h]

theorem withdrawPayment_ok {d : Deployment} {react : React S} {sender : Address}
    {saleId : Uint256} {recipient : Address} {w w' : World S}
    (h : withdrawPayment d react sender saleId recipient w = .ok w') :
    (w.claims saleId).status = .claimable ∧ sender = (w.claims saleId).beneficiary ∧
    recipient ≠ 0 ∧ recipient ≠ d.escrow ∧
    ∃ totalLiability w₁,
      (w.claims saleId).amountWei.val ≤ w.totalLiability.val ∧
      totalLiability.val = w.totalLiability.val - (w.claims saleId).amountWei.val ∧
      (w.claims saleId).amountWei.val ≤ w.balance ∧
      react (({ w with
          totalLiability, balance := w.balance - (w.claims saleId).amountWei.val
          payments := w.payments ++ [(recipient, (w.claims saleId).amountWei)] }).setClaim saleId
        { w.claims saleId with status := .withdrawn }) = .ok w₁ ∧
      w₁.totalLiability.val ≤ w₁.balance ∧
      w' = w₁.emit (.paymentWithdrawn saleId (w₁.claims saleId).beneficiary recipient
        (w₁.claims saleId).amountWei (w₁.claims saleId).kind) := by
  simp only [withdrawPayment, checkLiability, failIf_ok, exists_const, bind_ok, checkedSub_ok, pay_ok,
    Except.ok.injEq, not_not, not_or, not_lt] at h
  obtain ⟨hc, hs, ⟨h0, he⟩, total, ⟨hle, ht⟩, w₁, ⟨hb, hr⟩, hl, rfl⟩ := h
  exact ⟨hc, hs, h0, he, total, w₁, hle, ht, hb, hr, hl, rfl⟩

theorem reclaimToken_ok {d : Deployment} {nft : IERC721 S Op} {react : React S} {sender : Address}
    {saleId : Uint256} {recipient : Address} {w w' : World S}
    (h : reclaimToken d nft react sender saleId recipient w = .ok w') :
    sender = (w.sales saleId).seller ∧
    ((w.sales saleId).status = .cancelled ∨ (w.sales saleId).status = .expired) ∧
    (w.sales saleId).tokenReclaimed = false ∧ recipient ≠ 0 ∧ recipient ≠ d.escrow ∧
    ∃ w₁,
      nftSafeTransferFrom d nft react d.escrow recipient (w.sales saleId).tokenId
        ((w.setSale saleId { w.sales saleId with tokenReclaimed := true }).setCustody
          (w.sales saleId).tokenId 0) = .ok w₁ ∧
      w' = w₁.emit (.tokenReclaimed saleId (w₁.sales saleId).tokenId recipient) := by
  simp only [reclaimToken, failIf_ok, exists_const, bind_ok, requireSale_ok, Except.ok.injEq, not_not,
    not_or, not_and, Bool.not_eq_true] at h
  obtain ⟨sale, ⟨_, rfl⟩, hs, hst, hr, ⟨h0, he⟩, w₁, hw, rfl⟩ := h
  refine ⟨hs, ?_, hr, h0, he, w₁, hw, rfl⟩
  by_cases hcan : (w.sales saleId).status = .cancelled
  · exact .inl hcan
  · exact .inr (hst hcan)

end MotorCove.Chain
