import MotorCove.Indexer.SalesReader
import MotorCove.Indexer.Uint256

/-!
# Observing a funding

The reader is asked whether the funding of a sale is where a receipt says it
is. It answers from one snapshot: how far the scan has come, whether the named
block is canonical, what is stored at the named log, and whether the sale's row
bears out the event that was found.
-/

set_option autoImplicit false

namespace MotorCove.Indexer
open MotorCove.Text MotorCove.Fallible
open MotorCove.Indexer.Uint256 (parseUint256)

structure FundingObservationSelector where
  transactionHash : String
  blockNumber : String
  blockHash : String
  logIndex : ℕ
  deriving DecidableEq, Repr

inductive ObservationError where
  | uint256 (message : String)
  | blockNumberUnsafe
  | reader (error : ReaderError)
  deriving DecidableEq, Repr

/-- The clock columns of the runtime status. -/
structure RuntimeClocks where
  lastHeadAdvancedAt : Option String
  lastObservedAt : Option String
  lastRpcSuccessAt : Option String
  workerHeartbeatAt : Option String

/-- What the reader knows beside the tables of the projection: its deployment
and its clock, in milliseconds when it shows a time. -/
structure ReadContext where
  escrowAddress : String
  catalogId : String → String → Option String
  clocks : RuntimeClocks
  now : Option ℤ
  parseDate : String → Option ℤ
  heartbeatStaleAfterMs : ℤ

inductive ObservationFreshness where
  | fresh
  | stale
  | unknown
  deriving DecidableEq, Repr

structure SystemRecord extends RuntimeStatus, RuntimeClocks where
  observationFreshness : ObservationFreshness
  observationAgeSeconds : Option ℤ
  lagBlocks : Option ℕ

section
variable (context : ReadContext)

/-- The age of the worker's last heartbeat; one from the future has none. -/
def heartbeatAge : Option ℤ := do
  let text ← context.clocks.workerHeartbeatAt.filter (· ≠ "")
  let heartbeat ← context.parseDate text
  let now ← context.now
  if heartbeat ≤ now then some (now - heartbeat) else none

def observationFreshness : ObservationFreshness :=
  match heartbeatAge context with
  | none => .unknown
  | some age => if context.heartbeatStaleAfterMs < age then .stale else .fresh

def readSystemRecord (provenance : ProjectionProvenance) (db : Database) : SystemRecord where
  toRuntimeStatus := db.runtimeStatus
  toRuntimeClocks := context.clocks
  observationFreshness := observationFreshness context
  observationAgeSeconds := (heartbeatAge context).map (· / 1000)
  lagBlocks :=
    if observationFreshness context ≠ .fresh then none
    else db.runtimeStatus.lastEligibleHead.map (· - provenance.indexedBlockNumber)

structure ClaimRecord where
  beneficiary : String
  amountWei : String
  kind : ClaimKind
  status : ClaimStatus
  deriving DecidableEq, Repr

structure SaleRecord extends SaleProjection where
  metadataAvailable : Bool
  catalogId : Option String
  claim : Option ClaimRecord
  deriving DecidableEq, Repr

/-- The joined columns of the claim, when none of them is empty. -/
def claimRecord (row : Option PaymentRow) : Option ClaimRecord :=
  (row.filter fun r => r.beneficiary ≠ "" ∧ r.amountWei ≠ "").map fun r =>
    ⟨r.beneficiary, r.amountWei, r.kind, r.status⟩

def mapSale (row : SaleRow) (claim : Option PaymentRow) (catalogId : Option String) :
    SaleRecord where
  toSaleProjection := row.projection
  metadataAvailable := catalogId.any (· ≠ "")
  catalogId := catalogId
  claim := claimRecord claim

def readSale (saleId : String) (db : Database) : Option SaleRecord :=
  (db.projections.sales saleId).map fun row =>
    mapSale row (db.projections.paymentClaims saleId)
      (context.catalogId row.collectionAddress row.tokenId)

end

structure SaleFundedDecoded where
  saleId : String
  buyer : String
  amountWei : String
  fundedAt : String
  expiresAt : String
  deriving DecidableEq, Repr

def parseSaleFunded : JsonText NormalizedEvent → Option SaleFundedDecoded
  | .json (.saleFunded saleId buyer amountWei fundedAt expiresAt) =>
    some ⟨saleId, buyer, amountWei, fundedAt, expiresAt⟩
  | _ => none

structure FundingMatchedEvent extends SaleFundedDecoded where
  transactionHash : String
  blockNumber : ℕ
  blockHash : String
  logIndex : ℕ
  emitter : String
  deriving DecidableEq, Repr

inductive FundingCoverage where
  | notReached
  | scanned
  | unverifiable
  deriving DecidableEq, Repr

inductive EventLookup where
  | notFound
  | matched
  | noncanonical
  | selectorMismatch
  deriving DecidableEq, Repr

inductive ProjectionEffect where
  | notAssessed
  | consistent
  | inconsistent
  deriving DecidableEq, Repr

structure ObservedHeader where
  blockNumber : ℕ
  blockHash : String
  canonical : Bool
  scanComplete : Bool
  deriving DecidableEq, Repr

structure FundingObservation where
  requestEcho : FundingObservationSelector
  coverage : FundingCoverage
  observedHeaderAtRequestedHeight : Option ObservedHeader
  eventLookup : EventLookup
  matchedEvent : Option FundingMatchedEvent
  projectionEffect : ProjectionEffect
  deriving DecidableEq, Repr

structure FundingObservationRecord where
  sale : Option SaleRecord
  freshness : SystemRecord
  observation : FundingObservation

def canonicalAtHeight (requestedBlock : ℕ) (db : Database) : Option BlockRow :=
  db.indexedBlocks.rows.find? fun b => b.blockNumber = requestedBlock ∧ b.isCanonical = true

def requestedIdentity (selector : FundingObservationSelector) (db : Database) : Option BlockRow :=
  db.indexedBlocks.find? (lower selector.blockHash)

/-- The named block is canonical and scanned, at the named height and in the
scope of the checkpoint. -/
def exactCanonical (provenance : ProjectionProvenance) (requestedBlock : ℕ)
    (identity : Option BlockRow) : Bool :=
  identity.any fun b => decide (b.blockNumber = requestedBlock) && b.isCanonical &&
    b.scanComplete && decide (b.logScopeHash = provenance.logScopeHash)

def fundingCoverage (provenance : ProjectionProvenance) (requestedBlock : ℕ)
    (identity : Option BlockRow) : FundingCoverage :=
  if provenance.indexedBlockNumber < requestedBlock then .notReached
  else if exactCanonical provenance requestedBlock identity = true then .scanned
  else .unverifiable

def observedHeader (b : BlockRow) : ObservedHeader :=
  ⟨b.blockNumber, b.blockHash, b.isCanonical, b.scanComplete⟩

/-- A known block that is not the canonical one at the named height. -/
def isNoncanonical (selector : FundingObservationSelector) (atHeight identity : Option BlockRow) :
    Bool :=
  identity.any fun b => !b.isCanonical ||
    decide ((atHeight.map fun c => lower c.blockHash) ≠ some (lower selector.blockHash))

def selectorMismatch (escrowAddress saleId : String) (selector : FundingObservationSelector)
    (requestedBlock : ℕ) (event : EventRow) (decoded : SaleFundedDecoded) : Bool :=
  decide (lower event.transactionHash ≠ lower selector.transactionHash) ||
    decide (event.blockNumber ≠ requestedBlock) ||
    decide (lower event.contractAddress ≠ lower escrowAddress) ||
    decide (decoded.saleId ≠ saleId)

def matchedEvent (event : EventRow) (decoded : SaleFundedDecoded) : FundingMatchedEvent :=
  { decoded with
    transactionHash := event.transactionHash
    blockNumber := event.blockNumber
    blockHash := event.blockHash
    logIndex := event.logIndex
    emitter := event.contractAddress }

/-- The stored event, if it is the funding that was asked for. -/
def matchEvent (escrowAddress saleId : String) (selector : FundingObservationSelector)
    (requestedBlock : ℕ) (event : EventRow) : Option FundingMatchedEvent :=
  match parseSaleFunded event.decodedJson with
  | none => none
  | some decoded =>
    if selectorMismatch escrowAddress saleId selector requestedBlock event decoded = true then none
    else some (matchedEvent event decoded)

def lookupEvent (escrowAddress saleId : String) (selector : FundingObservationSelector)
    (requestedBlock : ℕ) (db : Database) : EventLookup × Option FundingMatchedEvent :=
  match db.chainEvents.find? (lower selector.blockHash, selector.logIndex) with
  | none => (.notFound, none)
  | some event =>
    match matchEvent escrowAddress saleId selector requestedBlock event with
    | none => (.selectorMismatch, none)
    | some matched => (.matched, some matched)

def allowedStatus (status : SaleStatus) : Bool :=
  status == .funded || status == .completed || status == .expired

def consistentSale (sale : SaleRecord) (matched : FundingMatchedEvent) : Bool :=
  allowedStatus sale.status && (sale.status != .funded || sale.claim.isNone) &&
    decide (sale.saleId = matched.saleId) &&
    decide (sale.buyer.map lower = some (lower matched.buyer)) &&
    decide (sale.priceWei = matched.amountWei) &&
    decide (sale.fundedAt = some matched.fundedAt) &&
    decide (sale.expiresAt = some matched.expiresAt)

def projectionEffect (sale : Option SaleRecord) : Option FundingMatchedEvent → ProjectionEffect
  | none => .notAssessed
  | some matched =>
    if (sale.any fun sale => consistentSale sale matched) = true then .consistent else .inconsistent

section
variable (context : ReadContext) (saleId : String) (selector : FundingObservationSelector)

def fundingObservation (requestedBlock : ℕ) (provenance : ProjectionProvenance) (db : Database) :
    FundingObservation :=
  let atHeight := canonicalAtHeight requestedBlock db
  let identity := requestedIdentity selector db
  let coverage := fundingCoverage provenance requestedBlock identity
  let found :=
    if isNoncanonical selector atHeight identity = true then (.noncanonical, none)
    else if coverage = .scanned then
      lookupEvent context.escrowAddress saleId selector requestedBlock db
    else (.notFound, none)
  { requestEcho := selector
    coverage := coverage
    observedHeaderAtRequestedHeight := atHeight.map observedHeader
    eventLookup := found.1
    matchedEvent := found.2
    projectionEffect := projectionEffect (readSale context saleId db) found.2 }

def readFunding (requestedBlock : ℕ) (db : Database) :
    Except ReaderError FundingObservationRecord := do
  let provenance ← readProvenance db
  .ok
    { sale := readSale context saleId db
      freshness := readSystemRecord context provenance db
      observation := fundingObservation context saleId selector requestedBlock provenance db }

def observeFunding (db : Database) :
    Except ObservationError (ReadSnapshot FundingObservationRecord) := do
  let _ ← (parseUint256 saleId "saleId").mapError .uint256
  let requestedBlock ← (parseUint256 selector.blockNumber "observeBlockNumber").mapError .uint256
  failIf (maxSafeInteger < requestedBlock) .blockNumberUnsafe
  (snapshot (readFunding context saleId selector requestedBlock db) db).mapError .reader

end

end MotorCove.Indexer
