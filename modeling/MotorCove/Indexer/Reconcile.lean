import MotorCove.Audits
import MotorCove.Indexer.SalesReader
import MotorCove.Json

/-!
# Reconciliation

The projected rows of a deployment against the contracts' answers at the block
of its checkpoint. Sales, claims and owners are compared in passes that share
one list of differences. A read that fails ends the comparison, and the list
records why. Every read is made at most once, so the provider is one answer for
each.
-/

set_option autoImplicit false

namespace MotorCove.Indexer.Reconcile
open MotorCove.Effects MotorCove.Text

structure ProjectedSale where
  saleId : String
  tokenId : String
  seller : String
  allowedBuyer : Option String
  buyer : Option String
  priceWei : String
  fundedAt : Option String
  expiresAt : Option String
  status : String
  tokenReclaimed : ℤ
  deriving DecidableEq, Repr

structure ProjectedClaim where
  saleId : String
  beneficiary : String
  amountWei : String
  kind : String
  status : String
  deriving DecidableEq, Repr

structure ProjectedOwner where
  collectionAddress : String
  tokenId : String
  owner : String
  deriving DecidableEq, Repr

/-- The rows of one deployment, as the schema's keys and checks allow them. -/
structure Projection where
  sales : Table ProjectedSale ProjectedSale.saleId
  claims : Table ProjectedClaim ProjectedClaim.saleId
  owners : Table ProjectedOwner fun r => (r.collectionAddress, r.tokenId)
  sale_id_check : ∀ r ∈ sales.rows, canonicalUint256 r.saleId false = true
  ownership_collection_check : ∀ r ∈ owners.rows, hexLength r.collectionAddress 40 = true

structure ChainBlock where
  number : ℕ
  hash : String
  deriving DecidableEq, Repr

structure ChainSale where
  tokenId : ℕ
  seller : String
  allowedBuyer : String
  buyer : String
  priceWei : ℕ
  fundedAt : ℕ
  expiresAt : ℕ
  status : ℕ
  tokenReclaimed : Bool
  deriving DecidableEq, Repr

structure ChainClaim where
  beneficiary : String
  amountWei : ℕ
  kind : ℕ
  status : ℕ
  deriving DecidableEq, Repr

/-- What the provider answers to each read, in the order of the reads. -/
structure ChainAnswers where
  head : Except String ChainBlock
  before : Except String ChainBlock
  saleCount : Except String ℕ
  getSale : ℕ → Except String ChainSale
  getPaymentClaim : ℕ → Except String ChainClaim
  nextTokenId : Except String ℕ
  ownerOf : ℕ → Except String String
  after : Except String ChainBlock
  publicationHead : Except String ChainBlock

structure Manifest where
  deploymentId : String
  nftAddress : String
  deriving DecidableEq, Repr

def statuses : List String := ["NONE", "LISTED", "FUNDED", "COMPLETED", "CANCELLED", "EXPIRED"]

def claimKinds : List String := ["NONE", "SELLER_PROCEEDS", "BUYER_REFUND"]

def claimStatuses : List String := ["NONE", "CLAIMABLE", "WITHDRAWN"]

def zeroAddress : String := "0x0000000000000000000000000000000000000000"

inductive SaleField where
  | tokenId
  | seller
  | allowedBuyer
  | buyer
  | priceWei
  | fundedAt
  | expiresAt
  | status
  | tokenReclaimed
  deriving DecidableEq, Repr

def SaleField.all : List SaleField :=
  [.tokenId, .seller, .allowedBuyer, .buyer, .priceWei, .fundedAt, .expiresAt, .status,
    .tokenReclaimed]

theorem SaleField.mem_all (field : SaleField) : field ∈ SaleField.all := by
  cases field <;> decide

/-- A text, or `null`. -/
def nullable : Option String → Primitive
  | none => .null
  | some s => .str s

def ProjectedSale.get (r : ProjectedSale) : SaleField → Primitive
  | .tokenId => .str r.tokenId
  | .seller => .str r.seller
  | .allowedBuyer => nullable r.allowedBuyer
  | .buyer => nullable r.buyer
  | .priceWei => .str r.priceWei
  | .fundedAt => nullable r.fundedAt
  | .expiresAt => nullable r.expiresAt
  | .status => .str r.status
  | .tokenReclaimed => .num r.tokenReclaimed

/-- The values that a row has for the chain's sale. A status beyond the known
ones has no text. -/
def expectedSale (chainSale : ChainSale) : SaleField → Primitive
  | .tokenId => .str (Nat.repr chainSale.tokenId)
  | .seller => .str (lower chainSale.seller)
  | .allowedBuyer => .str (lower chainSale.allowedBuyer)
  | .buyer => if chainSale.buyer = zeroAddress then .null else .str (lower chainSale.buyer)
  | .priceWei => .str (Nat.repr chainSale.priceWei)
  | .fundedAt => if chainSale.fundedAt = 0 then .null else .str (Nat.repr chainSale.fundedAt)
  | .expiresAt => if chainSale.expiresAt = 0 then .null else .str (Nat.repr chainSale.expiresAt)
  | .status =>
    match statuses[chainSale.status]? with
    | some status => .str status
    | none => .undefined
  | .tokenReclaimed => .num (if chainSale.tokenReclaimed then 1 else 0)

/-- A claim as the passes compare it: a kind or a status that is not known is
left out of its JSON text. -/
structure PaymentClaim where
  beneficiary : String
  amountWei : String
  kind : Option String
  status : Option String
  deriving DecidableEq, Repr

def ProjectedClaim.toPaymentClaim (r : ProjectedClaim) : PaymentClaim :=
  ⟨r.beneficiary, r.amountWei, some r.kind, some r.status⟩

def expectedClaim (chainClaim : ChainClaim) : Option PaymentClaim :=
  if chainClaim.status = 0 then none
  else some
    { beneficiary := lower chainClaim.beneficiary
      amountWei := Nat.repr chainClaim.amountWei
      kind := claimKinds[chainClaim.kind]?
      status := claimStatuses[chainClaim.status]? }

inductive Difference where
  | missingSale (saleId : String)
  | extraSale (saleId : String) (projected : ProjectedSale)
  | saleField (saleId : String) (field : SaleField) (projected chain : Primitive)
  | paymentClaim (saleId : String) (projected chain : Option PaymentClaim)
  | extraPaymentClaim (saleId : String) (projected : PaymentClaim)
  | unexpectedCollection (collectionAddress tokenId projected : String)
  | currentOwner (collectionAddress tokenId : String) (projected chain : Option String)
  | extraOwner (collectionAddress tokenId projected : String)
  | error (message : String)
  deriving DecidableEq, Repr

/-- The difference has an `error` property. -/
def Difference.hasError : Difference → Bool
  | .error _ => true
  | _ => false

inductive Comparison where
  | match
  | mismatch
  | unverifiable
  deriving DecidableEq, Repr

inductive Freshness where
  | headUnknown
  | current
  | projectionLagging
  deriving DecidableEq, Repr

structure PaymentClaimsScope where
  firstSaleId : Option String
  lastSaleId : Option String
  projectedRows : Option ℕ
  coverage : String
  deriving DecidableEq, Repr

structure Progress where
  head : Option ChainBlock
  differences : List Difference
  lastSaleId : Option String
  lastTokenId : Option String
  paymentClaimsScope : PaymentClaimsScope
  deriving DecidableEq, Repr

def Progress.start : Progress := ⟨none, [], none, none, ⟨none, none, none, "UNVERIFIED"⟩⟩

def Progress.hasKnownMismatch (s : Progress) : Bool := s.differences.any fun d => !d.hasError

abbrev Run := EStateM String Progress

def push (found : List Difference) : Run Unit :=
  modify fun s => { s with differences := s.differences ++ found }

/-- A map with texts as keys, in the order of their insertion. -/
abbrev Entries (ρ : Type) := Table (String × ρ) Prod.fst

def Entries.ofList {ρ : Type} (entries : List (String × ρ)) : Entries ρ :=
  entries.foldl Table.set (Table.empty Prod.fst)

def Entries.get {ρ : Type} (projected : Entries ρ) (id : String) : Option ρ :=
  (projected.find? id).map Prod.snd

def Entries.remove {ρ : Type} (projected : Entries ρ) (id : String) : Entries ρ :=
  projected.delete fun entry => entry.1 = id

section
variable {ρ : Type} [DecidableEq ρ]

/-- The projected entry of an id against the one read from the chain. -/
def compareEntry (expected : ℕ → Except String (Option ρ))
    (difference : String → Option ρ → Option ρ → Difference) (projected : Entries ρ) (id : ℕ) :
    Run Unit := do
  let chainEntry ← answer (expected id)
  let projectedEntry := projected.get (Nat.repr id)
  push (if projectedEntry ≠ chainEntry then
    [difference (Nat.repr id) projectedEntry chainEntry] else [])

/-- The pass over a range of ids. An entry that no id takes is an extra row. -/
def compareEntries (expected : ℕ → Except String (Option ρ))
    (difference : String → Option ρ → Option ρ → Difference)
    (extraRow : String → ρ → Difference) (ids : List ℕ) (projected : Entries ρ) : Run Unit := do
  let rest ← ids.foldlM (fun projected id => do
    compareEntry expected difference projected id
    pure (projected.remove (Nat.repr id))) projected
  push (rest.rows.map fun entry => extraRow entry.1 entry.2)

end

/-- `ORDER BY length(sale_id), sale_id`. -/
def bySaleId {ρ : Type} (saleId : ρ → String) (rows : List ρ) : List ρ :=
  rows.insertionSort fun a b => (saleId a).length < (saleId b).length ∨
    (saleId a).length = (saleId b).length ∧ leChars (saleId a).toList (saleId b).toList = true

/-- `ORDER BY collection_address, CAST(token_id AS INTEGER)`. -/
def byToken (rows : List ProjectedOwner) : List ProjectedOwner :=
  let integer (r : ProjectedOwner) : ℕ := min (value r.tokenId.toList) (2^63 - 1)
  rows.insertionSort fun a b =>
    a.collectionAddress ≠ b.collectionAddress ∧
        leChars a.collectionAddress.toList b.collectionAddress.toList = true ∨
      a.collectionAddress = b.collectionAddress ∧ integer a ≤ integer b

/-- `saleId < 1n || saleId > saleCount`, for the `BigInt` of a canonical text. -/
def outOfRange (saleCount : ℕ) (projected : ProjectedSale) : Bool :=
  let saleId := value projected.saleId.toList
  saleId < 1 || saleCount < saleId

def compareSale (chain : ChainAnswers) (projected : ProjectedSale) : Run Unit := do
  let chainSale ← answer (chain.getSale (value projected.saleId.toList))
  push ((SaleField.all.filter fun field => projected.get field ≠ expectedSale chainSale field).map
    fun field => .saleField (Nat.repr (value projected.saleId.toList)) field (projected.get field)
      (expectedSale chainSale field))

def compareSales (chain : ChainAnswers) (sales : List ProjectedSale) (saleCount : ℕ) :
    Run Unit := do
  push (((List.range' 1 saleCount).filter fun saleId =>
    Nat.repr saleId ∉ sales.map ProjectedSale.saleId).map fun saleId =>
      .missingSale (Nat.repr saleId))
  push ((sales.filter (outOfRange saleCount)).map fun projected =>
    .extraSale (Nat.repr (value projected.saleId.toList)) projected)
  (sales.filter fun projected => !outOfRange saleCount projected).forM (compareSale chain)

def projectedClaims (claims : List ProjectedClaim) : Entries PaymentClaim :=
  .ofList (claims.map fun r => (r.saleId, r.toPaymentClaim))

def compareClaims (chain : ChainAnswers) (claims : List ProjectedClaim) (saleCount : ℕ) :
    Run Unit :=
  compareEntries (fun id => (chain.getPaymentClaim id).map expectedClaim) .paymentClaim
    .extraPaymentClaim (List.range' 1 saleCount) (projectedClaims claims)

/-- The owners of the collection's tokens. -/
def projectedOwners (collectionAddress : String) (owners : List ProjectedOwner) :
    Entries String :=
  .ofList ((owners.filter fun r => lower r.collectionAddress = collectionAddress).map
    fun r => (r.tokenId, r.owner))

def compareOwners (chain : ChainAnswers) (collectionAddress : String)
    (owners : List ProjectedOwner) (nextTokenId : ℕ) : Run Unit := do
  push ((owners.filter fun r => lower r.collectionAddress ≠ collectionAddress).map fun r =>
    .unexpectedCollection (lower r.collectionAddress) r.tokenId r.owner)
  compareEntries (fun id => (chain.ownerOf id).map fun owner => some (lower owner))
    (.currentOwner collectionAddress) (.extraOwner collectionAddress)
    (List.range' 1 (nextTokenId - 1)) (projectedOwners collectionAddress owners)

def setSaleScope (saleCount projectedRows : ℕ) : Run Unit :=
  modify fun s =>
    let lastSaleId := if saleCount = 0 then none else some (Nat.repr saleCount)
    { s with
      lastSaleId := lastSaleId
      paymentClaimsScope :=
        { firstSaleId := if saleCount = 0 then none else some "1"
          lastSaleId := lastSaleId
          projectedRows := some projectedRows
          coverage := "CANONICAL_SALE_RANGE_AND_EXTRA_ROWS" } }

def setTokenScope (nextTokenId : ℕ) : Run Unit :=
  modify fun s => { s with
    lastTokenId := if nextTokenId = 1 then none else some (toString ((nextTokenId : ℤ) - 1)) }

def compareSaleRange (chain : ChainAnswers) (projection : Projection) : Run Unit := do
  let sales := bySaleId ProjectedSale.saleId projection.sales.rows
  let claims := bySaleId ProjectedClaim.saleId projection.claims.rows
  let saleCount ← answer chain.saleCount
  throwIf (maxSafeInteger < saleCount) "RECONCILIATION_SCOPE_TOO_LARGE"
  setSaleScope saleCount claims.length
  compareSales chain sales saleCount
  compareClaims chain claims saleCount

def compareTokenRange (chain : ChainAnswers) (manifest : Manifest) (projection : Projection) :
    Run Unit := do
  let owners := byToken projection.owners.rows
  let nextTokenId ← answer chain.nextTokenId
  throwIf (maxSafeInteger < nextTokenId - 1) "RECONCILIATION_SCOPE_TOO_LARGE"
  setTokenScope nextTokenId
  compareOwners chain (lower manifest.nftAddress) owners nextTokenId

def compareAnchored (chain : ChainAnswers) (manifest : Manifest) (blockHash : String)
    (projection : Projection) : Run Unit := do
  let before ← answer chain.before
  throwIf (before.hash ≠ blockHash) "ANCHOR_HASH_MISMATCH"
  compareSaleRange chain projection
  compareTokenRange chain manifest projection
  let after ← answer chain.after
  throwIf (after.hash ≠ blockHash) "ANCHOR_CHANGED_DURING_READ"

/-- A read that failed, and the verdict it leaves. -/
def recordFailure (message : String) : Run Comparison := do
  let s ← get
  push [.error message]
  pure (if s.hasKnownMismatch then .mismatch else .unverifiable)

def observe (chain : ChainAnswers) (manifest : Manifest) (blockHash : String)
    (projection : Projection) : Run Comparison :=
  tryCatch (do
    let head ← answer chain.head
    modify fun s => { s with head := some head }
    compareAnchored chain manifest blockHash projection
    let s ← get
    pure (if s.hasKnownMismatch then .mismatch else .match)) recordFailure

def publish (chain : ChainAnswers) (comparison : Comparison) :
    Run (Comparison × Option ChainBlock) := do
  let s ← get
  match s.head with
  | none => pure (comparison, none)
  | some _ =>
    tryCatch (do
      let publicationHead ← answer chain.publicationHead
      pure (comparison, some publicationHead)) fun message => do
        let comparison ← recordFailure message
        pure (comparison, none)

structure SalesScope where
  firstSaleId : Option String
  lastSaleId : Option String
  deriving DecidableEq, Repr

structure TokenOwnershipScope where
  firstTokenId : String
  lastTokenId : Option String
  deriving DecidableEq, Repr

structure Report where
  deploymentId : String
  comparison : Comparison
  freshness : Freshness
  blockNumber : ℕ
  blockHash : String
  projectorVersion : String
  projectionBuildId : String
  logScopeHash : String
  sales : SalesScope
  paymentClaims : PaymentClaimsScope
  tokenOwnership : TokenOwnershipScope
  differences : List Difference
  deriving DecidableEq, Repr

def freshness (blockNumber : ℕ) (blockHash : String) : Option ChainBlock → Freshness
  | none => .headUnknown
  | some publicationHead =>
    if publicationHead.number = blockNumber ∧ publicationHead.hash = blockHash then .current
    else .projectionLagging

def reconcile (chain : ChainAnswers) (manifest : Manifest) (checkpoint : Option Checkpoint)
    (projection : Projection) : Except String Report :=
  match checkpoint.bind fun c => c.lastScanned.map fun block => (c, block) with
  | none => .error "READ_MODEL_UNINITIALIZED"
  | some (c, blockNumber, blockHash) =>
    match (do
      let comparison ← observe chain manifest blockHash projection
      publish chain comparison : Run _).run .start with
    | .error message _ => .error message
    | .ok (comparison, publicationHead) s => .ok
        { deploymentId := manifest.deploymentId
          comparison := comparison
          freshness := freshness blockNumber blockHash publicationHead
          blockNumber := blockNumber
          blockHash := blockHash
          projectorVersion := c.projectorVersion
          projectionBuildId := c.projectionBuildId
          logScopeHash := c.logScopeHash
          sales := ⟨if s.lastSaleId.isNone then none else some "1", s.lastSaleId⟩
          paymentClaims := s.paymentClaimsScope
          tokenOwnership := ⟨"1", s.lastTokenId⟩
          differences := s.differences }

end MotorCove.Indexer.Reconcile
