import MotorCove.Indexer.Schema

/-!
# Events and their evidence

The events the decoder yields, with their place in the chain, and the evidence
the store keeps for each: a digest of the raw envelope and one of the whole
record. The digest function is a parameter, and so is everything a digest says.
-/

set_option autoImplicit false

namespace MotorCove.Indexer
open MotorCove.Text

inductive ClaimKind where
  | sellerProceeds
  | buyerRefund
  deriving DecidableEq, Repr

inductive NormalizedEvent where
  | saleCreated (saleId tokenId seller allowedBuyer priceWei : String)
  | saleFunded (saleId buyer amountWei fundedAt expiresAt : String)
  | saleCompleted (saleId : String)
  | saleCancelled (saleId : String)
  | saleExpired (saleId : String)
  | paymentClaimCreated (saleId beneficiary amountWei : String) (claimKind : ClaimKind)
  | paymentWithdrawn (saleId recipient : String)
  | tokenReclaimed (saleId tokenId recipient : String)
  | transfer (tokenId src dst : String)
  deriving DecidableEq, Repr

def NormalizedEvent.kind : NormalizedEvent → String
  | .saleCreated .. => "SaleCreated"
  | .saleFunded .. => "SaleFunded"
  | .saleCompleted .. => "SaleCompleted"
  | .saleCancelled .. => "SaleCancelled"
  | .saleExpired .. => "SaleExpired"
  | .paymentClaimCreated .. => "PaymentClaimCreated"
  | .paymentWithdrawn .. => "PaymentWithdrawn"
  | .tokenReclaimed .. => "TokenReclaimed"
  | .transfer .. => "Transfer"

/-- The sale an event belongs to; a `Transfer` has none. -/
def NormalizedEvent.saleId? : NormalizedEvent → Option String
  | .saleCreated saleId .. => some saleId
  | .saleFunded saleId .. => some saleId
  | .saleCompleted saleId => some saleId
  | .saleCancelled saleId => some saleId
  | .saleExpired saleId => some saleId
  | .paymentClaimCreated saleId .. => some saleId
  | .paymentWithdrawn saleId .. => some saleId
  | .tokenReclaimed saleId .. => some saleId
  | .transfer .. => none

/-- Where a raw log stands in the chain, and its content. -/
structure Envelope where
  blockNumber : ℕ
  blockHash : String
  transactionHash : String
  transactionIndex : ℕ
  logIndex : ℕ
  contractAddress : String
  topics : List String
  data : String
  deriving DecidableEq, Repr

structure OrderedEvent extends Envelope where
  event : NormalizedEvent
  deriving DecidableEq, Repr

structure BlockHeader where
  number : ℕ
  hash : String
  parentHash : String
  timestamp : ℕ
  deriving DecidableEq, Repr

/-- A text column read with `JSON.parse`: a value as `stringify` writes it, or a
text that is no JSON. -/
inductive JsonText (α : Type) where
  | json (value : α)
  | malformed (text : String)
  deriving DecidableEq, Repr

def JsonText.parse? {α : Type} : JsonText α → Option α
  | .json value => some value
  | .malformed _ => none

def decoderVersion : String := "motorcove-events-v2"

def projectorVersion : String := "2"

def eventEnvelope (ordered : Envelope) : Envelope :=
  { ordered with
    blockHash := lower ordered.blockHash
    transactionHash := lower ordered.transactionHash
    contractAddress := lower ordered.contractAddress
    topics := ordered.topics.map lower
    data := lower ordered.data }

/-- The values that are digested. -/
inductive Evidence where
  | envelope (e : Envelope)
  | envelopes (es : List Envelope)
  | record (envelope : Envelope) (decoded : NormalizedEvent) (decoderVersion : String)
  deriving DecidableEq, Repr

section
variable (evidenceDigest : Evidence → String)

def rawEnvelopeDigest (ordered : Envelope) : String :=
  evidenceDigest (.envelope (eventEnvelope ordered))

def observedLogDigest (events : List Envelope) : String :=
  evidenceDigest (.envelopes (events.map eventEnvelope))

def sourceRecordDigest (ordered : OrderedEvent) : String :=
  evidenceDigest (.record (eventEnvelope ordered.toEnvelope) ordered.event decoderVersion)

end

/-- Position in the journal: block, then transaction, then log. -/
def Before (a b : Envelope) : Prop :=
  a.blockNumber < b.blockNumber ∨ a.blockNumber = b.blockNumber ∧
    (a.transactionIndex < b.transactionIndex ∨ a.transactionIndex = b.transactionIndex ∧
      a.logIndex ≤ b.logIndex)

instance (a b : Envelope) : Decidable (Before a b) :=
  inferInstanceAs (Decidable (_ ∨ _))

theorem before_total (a b : Envelope) : Before a b ∨ Before b a := by
  unfold Before
  omega

theorem before_trans {a b c : Envelope} (h₁ : Before a b) (h₂ : Before b c) : Before a c := by
  unfold Before at *
  omega

@[simp] theorem eventEnvelope_eventEnvelope (e : Envelope) :
    eventEnvelope (eventEnvelope e) = eventEnvelope e := by
  simp [eventEnvelope, List.map_map, Function.comp_def]

end MotorCove.Indexer
