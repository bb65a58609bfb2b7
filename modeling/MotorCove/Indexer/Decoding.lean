import MotorCove.Chain.Solvency
import MotorCove.Indexer.Projections

/-!
# From logs to the journal

The decoder turns each log of the contracts into an event with its place in
the chain. Numbers become decimal texts; an address becomes the text that the
chain client prints, of which only the lower case is known. The views say what
the projection of a sale, a claim and a token should show.
-/

set_option autoImplicit false

namespace MotorCove.Indexer
open MotorCove.Text
open MotorCove.Chain (Address Deployment Log Uint256 Uint64)

def text {n : ℕ} (value : Fin n) : String := Nat.repr value.val

def address (a : Address) : String := hex 40 a.val

/-- `null` for the zero address. -/
def addressOrNull (a : Address) : Option String := if a = 0 then none else some (address a)

def textOrNull (n : Uint64) : Option String := if n = 0 then none else some (text n)

def decodeKind (kind : Chain.ClaimKind) : ClaimKind :=
  if kind = .sellerProceeds then .sellerProceeds else .buyerRefund

/-- The decoder, with the chain client's rendering of addresses. -/
def decode (render : Address → String) : Log → NormalizedEvent
  | .transfer t => .transfer (text t.tokenId) (render t.src) (render t.dst)
  | .saleCreated saleId tokenId seller allowedBuyer priceWei =>
    .saleCreated (text saleId) (text tokenId) (render seller) (render allowedBuyer) (text priceWei)
  | .saleFunded saleId buyer amountWei fundedAt expiresAt =>
    .saleFunded (text saleId) (render buyer) (text amountWei) (text fundedAt) (text expiresAt)
  | .saleCompleted saleId _ _ => .saleCompleted (text saleId)
  | .saleCancelled saleId _ _ => .saleCancelled (text saleId)
  | .saleExpired saleId _ _ => .saleExpired (text saleId)
  | .paymentClaimCreated saleId beneficiary amountWei kind =>
    .paymentClaimCreated (text saleId) (render beneficiary) (text amountWei) (decodeKind kind)
  | .paymentWithdrawn saleId _ recipient _ _ => .paymentWithdrawn (text saleId) (render recipient)
  | .tokenReclaimed saleId tokenId recipient =>
    .tokenReclaimed (text saleId) (text tokenId) (render recipient)

def emitter (d : Deployment) : Log → Address
  | .transfer _ => d.nft
  | _ => d.escrow

/-- Where a log was mined. Block numbers and log indexes are safe integers. -/
structure Place extends Envelope where
  blockNumber_safe : blockNumber < 2^53
  logIndex_safe : logIndex < 2^53

def orderedEvent (d : Deployment) (render : Address → String) (place : ℕ → Place) (i : ℕ)
    (log : Log) : OrderedEvent :=
  { (place i).toEnvelope with
    contractAddress := render (emitter d log)
    event := decode render log }

def journal (d : Deployment) (render : Address → String) (place : ℕ → Place) (logs : List Log) :
    List OrderedEvent :=
  logs.mapIdx (orderedEvent d render place)

theorem journal_concat (d : Deployment) (render : Address → String) (place : ℕ → Place)
    (logs : List Log) (log : Log) : journal d render place (logs ++ [log]) =
      journal d render place logs ++ [orderedEvent d render place logs.length log] :=
  List.mapIdx_concat

def saleStatus : Chain.SaleStatus → Option SaleStatus
  | .none => none
  | .listed => some .listed
  | .funded => some .funded
  | .completed => some .completed
  | .cancelled => some .cancelled
  | .expired => some .expired

def claimStatus : Chain.ClaimStatus → Option ClaimStatus
  | .none => none
  | .claimable => some .claimable
  | .withdrawn => some .withdrawn

def saleView (saleId : Uint256) (sale : Chain.Sale) : Option SaleProjection :=
  (saleStatus sale.status).map fun status =>
    { saleId := text saleId
      tokenId := text sale.tokenId
      seller := address sale.seller
      allowedBuyer := address sale.allowedBuyer
      buyer := addressOrNull sale.buyer
      priceWei := text sale.priceWei
      fundedAt := textOrNull sale.fundedAt
      expiresAt := textOrNull sale.expiresAt
      status := status
      tokenReclaimed := sale.tokenReclaimed }

/-- The contract keeps no recipient: the view leaves that column out. -/
def claimView (saleId : Uint256) (claim : Chain.PaymentClaim) : Option PaymentProjection :=
  (claimStatus claim.status).map fun status =>
    { saleId := text saleId
      beneficiary := address claim.beneficiary
      amountWei := text claim.amountWei
      kind := decodeKind claim.kind
      status := status
      recipient := none }

/-- The receiver of the last transfer of a token, zero when there is none. -/
def lastOwner (logs : List Log) (tokenId : Uint256) : Address :=
  logs.foldl (fun owner log =>
    match log with
    | .transfer t => if t.tokenId = tokenId then t.dst else owner
    | _ => owner) 0

theorem text_inj {n : ℕ} {a b : Fin n} : text a = text b ↔ a = b := by
  rw [text, text, repr_injective, Fin.ext_iff]

theorem canonicalUint256_text (n : Uint256) : canonicalUint256 (text n) false = true :=
  canonicalUint256_repr n.isLt nofun

theorem canonicalUint256_pos (n : Uint256) :
    canonicalUint256 (text n) true = true ↔ n ≠ 0 := by
  constructor
  · rintro h rfl
    revert h
    decide +kernel
  · intro h
    refine canonicalUint256_repr n.isLt fun _ => Nat.pos_of_ne_zero fun h0 => h (Fin.ext h0)

theorem hexLength_address (a : Address) : hexLength (address a) 40 = true := hexLength_hex 40 a.val

@[simp] theorem lower_address (a : Address) : lower (address a) = address a := lower_hex 40 a.val

theorem lastOwner_concat (logs : List Log) (log : Log) (tokenId : Uint256) :
    lastOwner (logs ++ [log]) tokenId =
      match log with
      | .transfer t => if t.tokenId = tokenId then t.dst else lastOwner logs tokenId
      | _ => lastOwner logs tokenId := by
  simp only [lastOwner, List.foldl_append, List.foldl_cons, List.foldl_nil]

end MotorCove.Indexer
