import MotorCove.Fallible
import MotorCove.Indexer.Events

/-!
# The projectors

How one event changes the projected sale, payment claim and owner. A projector
answers with a fresh projection, or with nothing when it returns the current
one as it is; an event that does not fit the current projection is an error.
-/

set_option autoImplicit false

namespace MotorCove.Indexer
open MotorCove.Text MotorCove.Fallible

inductive SaleStatus where
  | listed
  | funded
  | completed
  | cancelled
  | expired
  deriving DecidableEq, Repr

inductive ClaimStatus where
  | claimable
  | withdrawn
  deriving DecidableEq, Repr

structure SaleProjection where
  saleId : String
  tokenId : String
  seller : String
  allowedBuyer : String
  buyer : Option String
  priceWei : String
  fundedAt : Option String
  expiresAt : Option String
  status : SaleStatus
  tokenReclaimed : Bool
  deriving DecidableEq, Repr

structure PaymentProjection where
  saleId : String
  beneficiary : String
  amountWei : String
  kind : ClaimKind
  status : ClaimStatus
  recipient : Option String
  deriving DecidableEq, Repr

inductive Entity where
  | sale
  | paymentClaim
  deriving DecidableEq, Repr

/-- `integrity` is the projectors' own error class, `failure` a plain error. -/
inductive ProjectorError where
  | integrity (entity : Entity) (entityId eventKind missingPrerequisite : String)
  | failure (message : String)
  deriving DecidableEq, Repr

def projectOwnership (current : Option String) : NormalizedEvent → Option String
  | .transfer _ _ dst => some dst
  | _ => current

def projectPayment (current : Option PaymentProjection) (event : NormalizedEvent) :
    Except ProjectorError (Option PaymentProjection) :=
  match event with
  | .paymentClaimCreated saleId beneficiary amountWei claimKind =>
    match current with
    | some _ => .error (.failure ("Claim for sale " ++ saleId ++ " already exists"))
    | none => .ok (some ⟨saleId, beneficiary, amountWei, claimKind, .claimable, none⟩)
  | .paymentWithdrawn saleId recipient =>
    match current with
    | none => .error (.integrity .paymentClaim saleId event.kind "PaymentClaimCreated")
    | some current =>
      if current.saleId ≠ saleId then
        .error (.integrity .paymentClaim saleId event.kind ("claim " ++ saleId))
      else if current.status ≠ .claimable then .error (.failure "Claim already withdrawn")
      else .ok (some { current with status := .withdrawn, recipient := some recipient })
  | _ => .ok none

/-- The events that need the sale to exist share this check. -/
def requireSale (current : Option SaleProjection) (event : NormalizedEvent) (saleId : String) :
    Except ProjectorError SaleProjection :=
  match current with
  | none => .error (.integrity .sale saleId event.kind "SaleCreated")
  | some current =>
    if saleId ≠ current.saleId then
      .error (.integrity .sale saleId event.kind ("sale " ++ saleId))
    else .ok current

def projectSale (current : Option SaleProjection) (event : NormalizedEvent) :
    Except ProjectorError (Option SaleProjection) :=
  match event with
  | .saleCreated saleId tokenId seller allowedBuyer priceWei =>
    match current with
    | some _ => .error (.failure ("Sale " ++ saleId ++ " already exists"))
    | none =>
      .ok (some ⟨saleId, tokenId, seller, allowedBuyer, none, priceWei, none, none, .listed, false⟩)
  | .saleFunded saleId buyer _ fundedAt expiresAt => do
    let current ← requireSale current event saleId
    failIf (current.status ≠ .listed) (.failure "SaleFunded requires LISTED")
    failIf (lower buyer ≠ lower current.allowedBuyer)
      (.integrity .sale saleId event.kind "allowedBuyer")
    .ok (some { current with
      buyer := some buyer, fundedAt := some fundedAt, expiresAt := some expiresAt,
      status := .funded })
  | .saleCompleted saleId => do
    let current ← requireSale current event saleId
    failIf (current.status ≠ .funded) (.failure "SaleCompleted requires FUNDED")
    .ok (some { current with status := .completed })
  | .saleCancelled saleId => do
    let current ← requireSale current event saleId
    failIf (current.status ≠ .listed) (.failure "SaleCancelled requires LISTED")
    .ok (some { current with status := .cancelled })
  | .saleExpired saleId => do
    let current ← requireSale current event saleId
    failIf (current.status ≠ .funded) (.failure "SaleExpired requires FUNDED")
    .ok (some { current with status := .expired })
  | .tokenReclaimed saleId _ _ => do
    let current ← requireSale current event saleId
    failIf (current.status ≠ .cancelled ∧ current.status ≠ .expired)
      (.failure "TokenReclaimed requires terminal return state")
    .ok (some { current with tokenReclaimed := true })
  | .paymentClaimCreated .. => .ok none
  | .paymentWithdrawn .. => .ok none
  | .transfer .. => .ok none

end MotorCove.Indexer
