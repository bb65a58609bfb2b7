import MotorCove.Chain.Liveness
import MotorCove.Indexer.Deadlines
import MotorCove.Indexer.FundingObservation
import MotorCove.Indexer.Progress

/-!
# What an observation of a funding proves

On every fork the events are the logs of a run of the contracts. In a store
that follows such a chain, a match says that the canonical chain has the funding
at the named place and that the sale's row bears it out; and whatever the chain
has at or below the checkpoint is matched.
-/

set_option autoImplicit false

namespace MotorCove.Indexer
open MotorCove.Text MotorCove.Fallible
open MotorCove.Chain (Address Deployment Log Uint256 Uint64 VehicleNFT)
open MotorCove.Indexer.Uint256 (parseUint256 parseUint256_ok)

section
variable {d : Deployment} {render : Address → String} {events : List OrderedEvent}
  {w : Chain.World VehicleNFT}

theorem decode_saleFunded {log : Log} {saleId buyer amountWei fundedAt expiresAt : String}
    (h : decode render log = .saleFunded saleId buyer amountWei fundedAt expiresAt) :
    ∃ (s : Uint256) (account : Address) (amount : Uint256) (funded expires : Uint64),
      log = .saleFunded s account amount funded expires ∧ saleId = text s ∧
        buyer = render account ∧ amountWei = text amount ∧ fundedAt = text funded ∧
          expiresAt = text expires := by
  cases log with
  | saleFunded s account amount funded expires =>
    injection h with h₁ h₂ h₃ h₄ h₅
    exact ⟨s, account, amount, funded, expires, rfl, h₁.symm, h₂.symm, h₃.symm, h₄.symm, h₅.symm⟩
  | _ => cases h

theorem parseSaleFunded_json {event : NormalizedEvent} {decoded : SaleFundedDecoded}
    (h : parseSaleFunded (.json event) = some decoded) :
    event = .saleFunded decoded.saleId decoded.buyer decoded.amountWei decoded.fundedAt
      decoded.expiresAt := by
  cases event with
  | saleFunded saleId buyer amountWei fundedAt expiresAt =>
    obtain rfl := Option.some.inj h
    rfl
  | _ => cases h

/-- The events of one fork leave the times of each funding as they were logged. -/
theorem readsBack_of_mem {collectionAddress saleId buyer amountWei : String}
    {fundedAt expiresAt : ℕ} {p : Projections} (happly : applyEvents collectionAddress events noProjections = .ok p)
    {e : OrderedEvent} (he : e ∈ events)
    (hevent : e.event =
      .saleFunded saleId buyer amountWei (Nat.repr fundedAt) (Nat.repr expiresAt))
    (hfunded : Exact fundedAt) (hexpires : Exact expiresAt) :
    ReadsBack p saleId fundedAt expiresAt := by
  obtain ⟨before, after, rfl⟩ := List.append_of_mem he
  obtain ⟨p₁, _, hrest⟩ := (foldlM_append_ok _ _ _ _ _).mp happly
  obtain ⟨p₂, hstep, hafter⟩ := bind_ok.mp hrest
  obtain ⟨r, hr, hid, hstatus, hf, hx⟩ := applyEvent_funded hevent hstep
  have hnow : ReadsBack p₂ saleId fundedAt expiresAt :=
    ⟨r, hr, hid, hstatus, by rw [hf]; exact map_text_timeCell.mpr hfunded,
      by rw [hx]; exact map_text_timeCell.mpr hexpires⟩
  exact hnow.applyEvents hfunded hexpires hafter

theorem allowedStatus_of {sale : Chain.Sale} {r : SaleRow}
    (h : sale.status = .funded ∨ sale.status = .completed ∨ sale.status = .expired)
    (hstatus : saleStatus sale.status = some r.status) : allowedStatus r.status = true := by
  rcases h with hs | hs | hs
  · rw [hs] at hstatus
    rw [← Option.some.inj hstatus]
    rfl
  · rw [hs] at hstatus
    rw [← Option.some.inj hstatus]
    rfl
  · rw [hs] at hstatus
    rw [← Option.some.inj hstatus]
    rfl

variable (hrender : ∀ a, lower (render a) = address a)
include hrender

theorem RunsTo.consistent (hruns : RunsTo d render events w) {collectionAddress : String}
    (hcollection : lower collectionAddress = address d.nft) {p : Projections}
    (happly : applyEvents collectionAddress events noProjections = .ok p)
    {e : OrderedEvent} (he : e ∈ events) {decoded : SaleFundedDecoded}
    (hdecoded : parseSaleFunded (.json e.event) = some decoded) :
    ∃ r, p.sales decoded.saleId = some r ∧
      ∀ (catalogId : Option String) (matched : FundingMatchedEvent),
        matched.toSaleFundedDecoded = decoded →
          consistentSale (mapSale r (p.paymentClaims decoded.saleId) catalogId) matched = true := by
  have hsolvent := hruns.solvent
  have htold := hruns.told
  have hexpires := hruns.expires
  -- the tables show the contract's state
  obtain ⟨_, p', hp', hshown⟩ := hruns.shown hrender hcollection
  obtain rfl := Except.ok.inj (hp'.symm.trans happly)
  obtain ⟨place, hevents⟩ := hruns.events
  -- the event is a funding log of the run
  obtain ⟨i, log, hlog, rfl⟩ := mem_journal (hevents ▸ he)
  obtain ⟨_, _, _, _, _⟩ := decoded
  have hdecode : decode render log = _ := parseSaleFunded_json hdecoded
  obtain ⟨s, account, amount, funded, expires, rfl, rfl, rfl, rfl, rfl, rfl⟩ :=
    decode_saleFunded hdecode
  have hsale := htold.fundedAs hlog
  -- its sale has a row
  have hpresent := hshown.sales s
  cases hr : p'.sales (text s) with
  | none =>
    rw [hr] at hpresent
    exact absurd hpresent hsale.listed
  | some r =>
    rw [hr] at hpresent
    have hrow := hpresent.2
    have hsafe : funded.val < 2^53 := hsale.fundedAt ▸ hrow.safe
    have htimes := readsBack_of_mem happly he hdecode (exact_of_lt hsafe)
      (exact_of_lt (hsale.expiresAt ▸ hexpires s))
    obtain ⟨r', hr', _, _, hfundedAt, hexpiresAt⟩ := htimes
    obtain rfl := Option.some.inj (hr.symm.trans hr')
    refine ⟨r, rfl, fun catalogId matched hmatched => ?_⟩
    have hclaim : r.status = .funded → p'.paymentClaims (text s) = none := by
      intro hstatus
      have hclaims := hshown.claims s
      cases hc : p'.paymentClaims (text s) with
      | none => rfl
      | some c =>
        rw [hc] at hclaims
        have hshows := hrow.status
        rcases hsolvent.settled s hclaims.1 with hsettled | hsettled
        · rw [hsettled, hstatus] at hshows
          cases hshows
        · rw [hsettled, hstatus] at hshows
          cases hshows
    have hbuyer : r.buyer.map lower = some (lower (render account)) := by
      rw [hrow.buyer, hsale.buyer, addressOrNull, if_neg hsale.buyer_ne_zero, hrender]
      simp
    have hopen : (r.status != .funded ||
        (claimRecord (p'.paymentClaims (text s))).isNone) = true := by
      by_cases hstatus : r.status = .funded
      · rw [hclaim hstatus]
        simp [claimRecord]
      · simp [hstatus]
    unfold consistentSale
    rw [show matched.saleId = text s from congrArg SaleFundedDecoded.saleId hmatched,
      show matched.buyer = render account from congrArg SaleFundedDecoded.buyer hmatched,
      show matched.amountWei = text amount from congrArg SaleFundedDecoded.amountWei hmatched,
      show matched.fundedAt = text funded from congrArg SaleFundedDecoded.fundedAt hmatched,
      show matched.expiresAt = text expires from congrArg SaleFundedDecoded.expiresAt hmatched]
    simp only [Bool.and_eq_true, decide_eq_true_eq]
    exact ⟨⟨⟨⟨⟨⟨allowedStatus_of hsale.status hrow.status, hopen⟩, hrow.saleId⟩, hbuyer⟩,
      hrow.priceWei.trans (by rw [hsale.priceWei])⟩, hfundedAt⟩, hexpiresAt⟩

end

section
variable {context : ReadContext} {saleId : String} {selector : FundingObservationSelector}
  {requestedBlock : ℕ} {provenance : ProjectionProvenance} {db : Database}

theorem observeFunding_ok {r : ReadSnapshot FundingObservationRecord} :
    observeFunding context saleId selector db = .ok r ↔
      (∃ s, s < 2^256 ∧ saleId = Nat.repr s) ∧ ∃ requestedBlock provenance,
        selector.blockNumber = Nat.repr requestedBlock ∧ requestedBlock ≤ maxSafeInteger ∧
          readProvenance db = .ok provenance ∧
          r = ⟨⟨readSale context saleId db, readSystemRecord context provenance db,
            fundingObservation context saleId selector requestedBlock provenance db⟩,
            provenance⟩ := by
  simp only [observeFunding, bind_ok, mapError_ok, failIf_ok, exists_const, parseUint256_ok,
    snapshot_ok, readFunding, Except.ok.injEq, not_lt]
  constructor
  · rintro ⟨s, ⟨hs, hsale⟩, requestedBlock, ⟨_, hblock⟩, hsafe, ⟨_, hread, hdata⟩, hprovenance⟩
    obtain rfl := Except.ok.inj (hread.symm.trans hprovenance)
    exact ⟨⟨s, hs, hsale⟩, requestedBlock, _, hblock, hsafe, hread, by rw [hdata]⟩
  · rintro ⟨⟨s, hs, hsale⟩, requestedBlock, provenance, hblock, hsafe, hread, rfl⟩
    have hmax : maxSafeInteger < 2^256 := by decide
    exact ⟨s, ⟨hs, hsale⟩, requestedBlock, ⟨by omega, hblock⟩, hsafe, ⟨provenance, hread, rfl⟩,
      hread⟩

theorem selectorMismatch_false {escrowAddress : String} {event : EventRow}
    {decoded : SaleFundedDecoded} :
    selectorMismatch escrowAddress saleId selector requestedBlock event decoded = false ↔
      lower event.transactionHash = lower selector.transactionHash ∧
        event.blockNumber = requestedBlock ∧ lower event.contractAddress = lower escrowAddress ∧
        decoded.saleId = saleId := by
  simp only [selectorMismatch, ne_eq, decide_not, Bool.or_eq_false_iff, Bool.not_eq_false',
    decide_eq_true_eq, and_assoc]

/-- The event that a match rests on. -/
structure Found (context : ReadContext) (saleId : String) (selector : FundingObservationSelector)
    (requestedBlock : ℕ) (db : Database) (event : EventRow) (decoded : SaleFundedDecoded) :
    Prop where
  stored : event ∈ db.chainEvents.rows
  key : event.key = (lower selector.blockHash, selector.logIndex)
  parsed : parseSaleFunded event.decodedJson = some decoded
  selected : selectorMismatch context.escrowAddress saleId selector requestedBlock event decoded =
    false

theorem lookupEvent_found {event : EventRow} {decoded : SaleFundedDecoded}
    (h : Found context saleId selector requestedBlock db event decoded) :
    lookupEvent context.escrowAddress saleId selector requestedBlock db =
      (.matched, some (matchedEvent event decoded)) := by
  have hfind := Table.find?_some.mpr ⟨h.stored, h.key⟩
  simp [lookupEvent, hfind, matchEvent, h.parsed, h.selected]

theorem lookupEvent_matched
    (h : (lookupEvent context.escrowAddress saleId selector requestedBlock db).1 = .matched) :
    ∃ event decoded, Found context saleId selector requestedBlock db event decoded := by
  unfold lookupEvent at h
  split at h
  · cases h
  · rename_i event hfind
    obtain ⟨hstored, hkey⟩ := Table.find?_some.mp hfind
    unfold matchEvent at h
    split at h
    · cases h
    · rename_i matched hmatch
      split at hmatch
      · cases hmatch
      · rename_i decoded hparsed
        split at hmatch
        · cases hmatch
        · rename_i hselected
          exact ⟨event, decoded, hstored, hkey, hparsed, Bool.not_eq_true _ ▸ hselected⟩

theorem fundingObservation_matched
    (h : (fundingObservation context saleId selector requestedBlock provenance db).eventLookup =
      .matched) :
    fundingCoverage provenance requestedBlock (requestedIdentity selector db) = .scanned ∧
      ∃ event decoded, Found context saleId selector requestedBlock db event decoded ∧
        (fundingObservation context saleId selector requestedBlock provenance db).projectionEffect =
          projectionEffect (readSale context saleId db) (some (matchedEvent event decoded)) := by
  simp only [fundingObservation] at h ⊢
  split at h
  · cases h
  · rename_i hcanonical
    split at h
    · rename_i hscanned
      obtain ⟨event, decoded, hfound⟩ := lookupEvent_matched h
      refine ⟨hscanned, event, decoded, hfound, ?_⟩
      rw [if_neg hcanonical, if_pos hscanned, lookupEvent_found hfound]
    · cases h

theorem fundingObservation_found {event : EventRow} {decoded : SaleFundedDecoded}
    (hcanonical : isNoncanonical selector (canonicalAtHeight requestedBlock db)
      (requestedIdentity selector db) = false)
    (hscanned : fundingCoverage provenance requestedBlock (requestedIdentity selector db) =
      .scanned)
    (hfound : Found context saleId selector requestedBlock db event decoded) :
    (fundingObservation context saleId selector requestedBlock provenance db).eventLookup =
      .matched := by
  simp only [fundingObservation, hcanonical, hscanned, Bool.false_eq_true, if_false, if_true,
    lookupEvent_found hfound]

end

section
variable {evidenceDigest : Evidence → String} {B : Blocks} {chain : List BlockRow} {db : Database}
  {selector : FundingObservationSelector} {requestedBlock : ℕ} {provenance : ProjectionProvenance}

structure CanonicalAt (selector : FundingObservationSelector) (requestedBlock : ℕ) (db : Database)
    (b : BlockRow) : Prop where
  stored : b ∈ db.indexedBlocks.rows
  canonical : b.canonical = true
  number : b.blockNumber = requestedBlock
  hash : b.blockHash = lower selector.blockHash

theorem CanonicalAt.isCanonical {b : BlockRow} (h : CanonicalAt selector requestedBlock db b) :
    b.isCanonical = true ∧ b.scanComplete = true := Bool.and_eq_true_iff.mp h.canonical

theorem CanonicalAt.identity {b : BlockRow} (h : CanonicalAt selector requestedBlock db b) :
    requestedIdentity selector db = some b :=
  Table.find?_some.mpr ⟨h.stored, h.hash⟩

theorem CanonicalAt.scanned {b : BlockRow} (h : CanonicalAt selector requestedBlock db b)
    (hscope : b.logScopeHash = provenance.logScopeHash)
    (hreached : requestedBlock ≤ provenance.indexedBlockNumber) :
    fundingCoverage provenance requestedBlock (requestedIdentity selector db) = .scanned := by
  obtain ⟨hcanonical, hcomplete⟩ := h.isCanonical
  have hexact : exactCanonical provenance requestedBlock (some b) = true := by
    simp [exactCanonical, h.number, hcanonical, hcomplete, hscope]
  rw [fundingCoverage, if_neg (by omega), h.identity, if_pos hexact]

theorem fundingCoverage_scanned
    (h : fundingCoverage provenance requestedBlock (requestedIdentity selector db) = .scanned) :
    requestedBlock ≤ provenance.indexedBlockNumber ∧
      ∃ b, CanonicalAt selector requestedBlock db b := by
  unfold fundingCoverage at h
  split at h
  · cases h
  · rename_i hreached
    split at h
    · rename_i hexact
      cases hidentity : requestedIdentity selector db with
      | none =>
        rw [hidentity] at hexact
        cases hexact
      | some b =>
        rw [hidentity] at hexact
        obtain ⟨hstored, hhash⟩ := Table.find?_some.mp hidentity
        simp only [exactCanonical, Option.any_some, Bool.and_eq_true, decide_eq_true_eq] at hexact
        obtain ⟨⟨⟨hnumber, hcanonical⟩, hcomplete⟩, _⟩ := hexact
        exact ⟨by omega, b, hstored, Bool.and_eq_true_iff.mpr ⟨hcanonical, hcomplete⟩, hnumber,
          hhash⟩
    · cases h

theorem canonicalAt_setStatus {b : BlockRow} {status : RuntimeStatus} :
    CanonicalAt selector requestedBlock (db.setStatus status) b ↔
      CanonicalAt selector requestedBlock db b :=
  ⟨fun h => ⟨h.stored, h.canonical, h.number, h.hash⟩,
    fun h => ⟨h.stored, h.canonical, h.number, h.hash⟩⟩

theorem CanonicalAt.not_noncanonical {b : BlockRow} (h : CanonicalAt selector requestedBlock db b)
    (hspine : Spine chain db) :
    isNoncanonical selector (canonicalAtHeight requestedBlock db) (requestedIdentity selector db) =
      false := by
  have hmem := (hspine.canonical b).mpr ⟨h.stored, h.isCanonical.1⟩
  have hheight : canonicalAtHeight requestedBlock db = some b := by
    cases hfind : canonicalAtHeight requestedBlock db with
    | none =>
      have hno := List.find?_eq_none.mp hfind b h.stored
      simp [h.number, h.isCanonical.1] at hno
    | some c =>
      have hc : c.blockNumber = requestedBlock ∧ c.isCanonical = true := by
        simpa using List.find?_some hfind
      have hcmem := (hspine.canonical c).mpr ⟨List.mem_of_find?_eq_some hfind, hc.2⟩
      rw [hspine.eq_of_number hcmem hmem (hc.1.trans h.number.symm)]
  rw [hheight, h.identity]
  simp [isNoncanonical, h.isCanonical.1, h.hash]

end

/-- The chain has the funding where the selector says: in the canonical block of
that height and hash, not above the checkpoint, at that log of that transaction. -/
def HasFunding (d : Deployment) (B : Blocks) (saleId : String)
    (selector : FundingObservationSelector) (db : Database) : Prop :=
  ∃ requestedBlock number hash b, selector.blockNumber = Nat.repr requestedBlock ∧
    db.checkpoint.lastScanned = some (number, hash) ∧ requestedBlock ≤ number ∧
    CanonicalAt selector requestedBlock db b ∧
    ∃ e ∈ B.events b.blockHash, e.logIndex = selector.logIndex ∧
      e.transactionHash = lower selector.transactionHash ∧ e.contractAddress = address d.escrow ∧
      ∃ decoded, parseSaleFunded (.json e.event) = some decoded ∧ decoded.saleId = saleId

section
variable {evidenceDigest : Evidence → String} {B : Blocks} {chain : List BlockRow} {db : Database}
  {context : ReadContext} {saleId : String} {selector : FundingObservationSelector}
  {requestedBlock : ℕ} {provenance : ProjectionProvenance} {d : Deployment}
  {render : Address → String}

theorem readProvenance_ok (h : readProvenance db = .ok provenance) :
    db.checkpoint.lastScanned =
        some (provenance.indexedBlockNumber, provenance.indexedBlockHash) ∧
      provenance.logScopeHash = db.checkpoint.logScopeHash := by
  unfold readProvenance at h
  split at h
  · cases h
  · rename_i number hash hlast
    obtain rfl := Except.ok.inj h
    exact ⟨hlast, rfl⟩

theorem Covered.found (h : Covered evidenceDigest B chain db) {event : EventRow}
    {decoded : SaleFundedDecoded}
    (hfound : Found context saleId selector requestedBlock db event decoded) :
    ∃ e ∈ B.events (lower selector.blockHash), event = eventRow evidenceDigest e := by
  obtain ⟨b, _, hrow⟩ := (h.events event).mp hfound.stored
  obtain ⟨e, he, rfl⟩ := Blocks.mem_rows.mp hrow
  have hhash : b.blockHash = lower selector.blockHash :=
    (Blocks.rows_hash hrow).symm.trans (congrArg Prod.fst hfound.key)
  exact ⟨e, hhash ▸ he, rfl⟩

theorem mem_chainEvents {b : BlockRow} (hb : b ∈ chain) {e : OrderedEvent}
    (he : e ∈ B.events b.blockHash) : e ∈ B.chainEvents chain :=
  List.mem_flatMap.mpr ⟨b, hb, he⟩

theorem Blocks.transactionHash_lower {hash : String} {e : OrderedEvent} (he : e ∈ B.events hash) :
    lower e.transactionHash = e.transactionHash :=
  congrArg (fun e => e.transactionHash) (B.located hash e he).2.2

theorem Blocks.contractAddress_lower {hash : String} {e : OrderedEvent} (he : e ∈ B.events hash) :
    lower e.contractAddress = e.contractAddress :=
  congrArg (fun e => e.contractAddress) (B.located hash e he).2.2

theorem Covered.holds (h : Covered evidenceDigest B chain db)
    (hescrow : lower context.escrowAddress = address d.escrow)
    (hblock : selector.blockNumber = Nat.repr requestedBlock)
    (hread : readProvenance db = .ok provenance)
    (hscanned : fundingCoverage provenance requestedBlock (requestedIdentity selector db) =
      .scanned) {event : EventRow} {decoded : SaleFundedDecoded}
    (hfound : Found context saleId selector requestedBlock db event decoded) :
    HasFunding d B saleId selector db := by
  obtain ⟨hreached, b, hcanonical⟩ := fundingCoverage_scanned hscanned
  obtain ⟨e, he, rfl⟩ := h.found hfound
  obtain ⟨htransaction, _, hcontract, hsale⟩ := selectorMismatch_false.mp hfound.selected
  refine ⟨requestedBlock, _, _, b, hblock, (readProvenance_ok hread).1, hreached, hcanonical, e,
    hcanonical.hash ▸ he, congrArg Prod.snd hfound.key, ?_, ?_, decoded, hfound.parsed, hsale⟩
  · have hlower : lower (lower e.transactionHash) = lower selector.transactionHash := htransaction
    rwa [lower_lower, Blocks.transactionHash_lower he] at hlower
  · have hlower : lower (lower e.contractAddress) = lower context.escrowAddress := hcontract
    rwa [lower_lower, Blocks.contractAddress_lower he, hescrow] at hlower

theorem Covered.stored (h : Covered evidenceDigest B chain db) {b : BlockRow}
    (hcanonical : CanonicalAt selector requestedBlock db b) {e : OrderedEvent}
    (he : e ∈ B.events b.blockHash) (hlog : e.logIndex = selector.logIndex)
    (htransaction : e.transactionHash = lower selector.transactionHash)
    (hescrow : lower context.escrowAddress = e.contractAddress) {decoded : SaleFundedDecoded}
    (hparsed : parseSaleFunded (.json e.event) = some decoded) (hsale : decoded.saleId = saleId) :
    Found context saleId selector requestedBlock db (eventRow evidenceDigest e) decoded where
  stored := (h.events _).mpr ⟨b, hcanonical.stored, Blocks.mem_rows.mpr ⟨e, he, rfl⟩⟩
  key := by
    have hhash := (B.located _ e he).2.1
    rw [key_eventRow, hhash, (h.named b hcanonical.stored).lower, hcanonical.hash, hlog]
  parsed := hparsed
  selected := by
    have hnumber : e.blockNumber = requestedBlock := by
      rw [(B.located _ e he).1, ← (h.named b hcanonical.stored).number, hcanonical.number]
    refine selectorMismatch_false.mpr ⟨?_, hnumber, ?_, hsale⟩
    · show lower (lower e.transactionHash) = lower selector.transactionHash
      rw [lower_lower, Blocks.transactionHash_lower he, htransaction]
    · show lower (lower e.contractAddress) = lower context.escrowAddress
      rw [lower_lower, Blocks.contractAddress_lower he, hescrow]

theorem RunsTo.numbers {events : List OrderedEvent} {w : Chain.World VehicleNFT}
    (h : RunsTo d render events w) {e : OrderedEvent} (he : e ∈ events)
    {decoded : SaleFundedDecoded} (hparsed : parseSaleFunded (.json e.event) = some decoded) :
    e.blockNumber < 2^53 ∧ ∃ s : Uint256, decoded.saleId = text s := by
  obtain ⟨place, rfl⟩ := h.events
  obtain ⟨i, log, _, rfl⟩ := mem_journal he
  refine ⟨(place i).blockNumber_safe, ?_⟩
  have hdecode : decode render log = _ := parseSaleFunded_json hparsed
  obtain ⟨s, _, _, _, _, _, hsale, _⟩ := decode_saleFunded hdecode
  exact ⟨s, hsale⟩

theorem Projected.consistent {collectionAddress : String}
    (h : Projected evidenceDigest B collectionAddress chain db)
    (hrender : ∀ a, lower (render a) = address a)
    (hcollection : lower collectionAddress = address d.nft)
    (hexec : Executes d render B db.scanStartBlock) {event : EventRow}
    {decoded : SaleFundedDecoded}
    (hscanned : fundingCoverage provenance requestedBlock (requestedIdentity selector db) =
      .scanned)
    (hfound : Found context saleId selector requestedBlock db event decoded) :
    projectionEffect (readSale context saleId db) (some (matchedEvent event decoded)) =
      .consistent := by
  obtain ⟨_, b, hcanonical⟩ := fundingCoverage_scanned hscanned
  obtain ⟨e, he, rfl⟩ := h.covered.found hfound
  have hchain := (h.covered.toSpine.canonical b).mpr ⟨hcanonical.stored, hcanonical.isCanonical.1⟩
  have hmem : e ∈ B.chainEvents chain := mem_chainEvents hchain (hcanonical.hash ▸ he)
  obtain ⟨w, hruns⟩ := h.covered.grounded.runs hexec
  obtain ⟨r, hr, hconsistent⟩ := hruns.consistent hrender hcollection h.projections
    hmem hfound.parsed
  obtain ⟨_, _, _, hsale⟩ := selectorMismatch_false.mp hfound.selected
  rw [hsale] at hr hconsistent
  have hread : readSale context saleId db = some (mapSale r (db.projections.paymentClaims saleId)
      (context.catalogId r.collectionAddress r.tokenId)) := by
    rw [readSale, hr]
    rfl
  rw [hread, projectionEffect]
  exact if_pos (hconsistent _ (matchedEvent (eventRow evidenceDigest e) decoded) rfl)

end

/-- An observation of any store reached by commits, rewinds, rebuilds and reindexes
over a chain that runs the contracts, in any runtime status. -/
theorem funding_observed {evidenceDigest : Evidence → String} {B : Blocks}
    {collectionAddress scope : String} {db : Database} {d : Deployment}
    {render : Address → String} {context : ReadContext}
    (hrender : ∀ a, lower (render a) = address a)
    (hcollection : lower collectionAddress = address d.nft)
    (hescrow : lower context.escrowAddress = address d.escrow)
    (hexec : Executes d render B db.scanStartBlock)
    (h : InScope evidenceDigest B collectionAddress scope db) (status : RuntimeStatus)
    (saleId : String) (selector : FundingObservationSelector) :
    let result := observeFunding context saleId selector (db.setStatus status)
    ((∃ r, result = .ok r ∧ r.data.observation.coverage = .scanned ∧
        r.data.observation.eventLookup = .matched) ↔ HasFunding d B saleId selector db) ∧
      ∀ r, result = .ok r →
        (r.data.observation.eventLookup = .matched →
          r.data.observation.projectionEffect = .consistent) ∧
        (∀ requestedBlock, selector.blockNumber = Nat.repr requestedBlock →
          r.provenance.indexedBlockNumber < requestedBlock →
            r.data.observation.coverage = .notReached ∧
              r.data.observation.eventLookup ≠ .matched) ∧
        ((∀ b ∈ db.indexedBlocks.rows, b.blockHash = lower selector.blockHash →
          b.isCanonical = false) → r.data.observation.eventLookup ≠ .matched) := by
  intro result
  obtain ⟨chain, hprojected⟩ := reachable_projected h.reachable
  have hstatus := hprojected.setStatus status
  have hcovered := hstatus.covered
  refine ⟨⟨?_, ?_⟩, ?_⟩
  · rintro ⟨r, hr, hscanned, hmatched⟩
    obtain ⟨_, requestedBlock, provenance, hblock, _, hread, rfl⟩ := observeFunding_ok.mp hr
    obtain ⟨_, event, decoded, hfound, _⟩ := fundingObservation_matched hmatched
    obtain ⟨n, number, hash, b, hn, hlast, hreached, hcanonical, hevent⟩ :=
      hcovered.holds hescrow hblock hread hscanned hfound
    exact ⟨n, number, hash, b, hn, hlast, hreached, canonicalAt_setStatus.mp hcanonical, hevent⟩
  · rintro ⟨requestedBlock, number, hash, b, hblock, hlast, hreached, hcanonical, e, he, hlog,
      htransaction, hcontract, decoded, hparsed, hsale⟩
    replace hcanonical : CanonicalAt selector requestedBlock (db.setStatus status) b :=
      canonicalAt_setStatus.mpr hcanonical
    have hchain := (hcovered.toSpine.canonical b).mpr
      ⟨hcanonical.stored, hcanonical.isCanonical.1⟩
    obtain ⟨_, hruns⟩ := hcovered.grounded.runs hexec
    obtain ⟨hsafe, s, hid⟩ := hruns.numbers (mem_chainEvents hchain he) hparsed
    have hnumber : e.blockNumber = requestedBlock := by
      rw [(B.located _ e he).1, ← (hcovered.named b hcanonical.stored).number, hcanonical.number]
    have hmax : requestedBlock ≤ maxSafeInteger := by
      rw [hnumber] at hsafe
      exact of_decide_eq_true (safeInteger_iff.mpr hsafe)
    have hlast' : (db.setStatus status).checkpoint.lastScanned = some (number, hash) := hlast
    obtain ⟨provenance, hread, hindexed, hscope⟩ := readProvenance_exists hlast'
    have hrow : b.logScopeHash = provenance.logScopeHash := by
      rw [hscope]
      exact (h.scoped.rows b hcanonical.stored).trans h.scoped.checkpoint.symm
    have hscanned := hcanonical.scanned hrow (hindexed ▸ hreached)
    have hfound : Found context saleId selector requestedBlock (db.setStatus status)
        (eventRow evidenceDigest e) decoded :=
      hcovered.stored hcanonical he hlog htransaction (hescrow.trans hcontract.symm) hparsed hsale
    refine ⟨_, observeFunding_ok.mpr ⟨⟨s.val, s.isLt, hsale.symm.trans hid⟩, requestedBlock,
      provenance, hblock, hmax, hread, rfl⟩, hscanned, ?_⟩
    exact fundingObservation_found (hcanonical.not_noncanonical hcovered.toSpine) hscanned hfound
  · intro r hr
    obtain ⟨_, requestedBlock, provenance, hblock, _, hread, rfl⟩ := observeFunding_ok.mp hr
    refine ⟨fun hmatched => ?_, fun number hnumber habove => ?_, fun horphan hmatched => ?_⟩
    · obtain ⟨hscanned, event, decoded, hfound, heffect⟩ := fundingObservation_matched hmatched
      exact heffect.trans (hstatus.consistent hrender hcollection hexec hscanned hfound)
    · obtain rfl := repr_injective.mp (hblock.symm.trans hnumber)
      have hcoverage : fundingCoverage provenance requestedBlock
          (requestedIdentity selector (db.setStatus status)) = .notReached := if_pos habove
      refine ⟨hcoverage, fun hmatched => ?_⟩
      cases hcoverage.symm.trans (fundingObservation_matched hmatched).1
    · obtain ⟨_, b, hcanonical⟩ := fundingCoverage_scanned (fundingObservation_matched hmatched).1
      have hfalse := horphan b hcanonical.stored hcanonical.hash
      rw [hcanonical.isCanonical.1] at hfalse
      cases hfalse

def localContext : ReadContext where
  escrowAddress := address 1
  catalogId := fun _ _ => none
  clocks := ⟨none, none, none, none⟩
  now := none
  parseDate := fun _ => none
  heartbeatStaleAfterMs := 30000

def fundingSelector : FundingObservationSelector := ⟨hex 64 2, "0", hex 64 1, 3⟩

theorem fundingSelector_holds :
    HasFunding Chain.localDeployment fundedBlocks "1" fundingSelector fundedDatabase.val := by
  obtain ⟨_, _, row, hhash, hprojected⟩ := fundedDatabase.property
  have hcovered := hprojected.covered
  obtain ⟨hstored, hcanonical⟩ := (hcovered.canonical row).mp (List.mem_singleton_self row)
  have hnamed := hcovered.named row hstored
  have hrow : CanonicalAt fundingSelector 0 fundedDatabase.val row :=
    ⟨hstored, Bool.and_eq_true_iff.mpr ⟨hcanonical, hnamed.scanComplete⟩, hnamed.number,
      hhash.trans (lower_hex 64 1).symm⟩
  have hlast : fundedDatabase.val.checkpoint.lastScanned = some (0, hex 64 1) := by
    rw [hcovered.checkpoint, ← hhash]
    exact congrArg (fun n => some (n, row.blockHash)) hnamed.number
  have hevent : ∃ e ∈ fundedEvents, e.logIndex = 3 ∧ e.transactionHash = hex 64 2 ∧
      e.contractAddress = address 1 ∧ parseSaleFunded (.json e.event) =
        some ⟨"1", address 4, "5", "1", "3601"⟩ := by
    decide +kernel
  obtain ⟨e, he, hlog, htransaction, hcontract, hparsed⟩ := hevent
  have hblock : fundedBlocks.events row.blockHash = fundedEvents := by
    rw [hhash, ← fundedBlocks_events, fundedHeader, lower_hex]
  refine ⟨0, 0, hex 64 1, row, rfl, hlast, le_rfl, hrow, e, hblock ▸ he, hlog, ?_, hcontract, _,
    hparsed, rfl⟩
  exact htransaction.trans (lower_hex 64 2).symm

theorem funding_observed_local :
    ∃ r, observeFunding localContext "1" fundingSelector
        (fundedDatabase.val.setStatus ⟨.stale, none, none, none⟩) = .ok r ∧
      r.data.observation.coverage = .scanned ∧ r.data.observation.eventLookup = .matched ∧
      r.data.observation.projectionEffect = .consistent := by
  obtain ⟨hscope, hstart, _⟩ := fundedDatabase.property
  have hexec : Executes Chain.localDeployment address fundedBlocks
      fundedDatabase.val.scanStartBlock := by
    rw [hstart]
    exact fundedBlocks_executes
  have hcollection : lower fundedStore.collectionAddress = address Chain.localDeployment.nft :=
    lower_address 2
  have hescrow : lower localContext.escrowAddress = address Chain.localDeployment.escrow :=
    lower_address 1
  obtain ⟨hiff, hconsistent⟩ := funding_observed lower_address hcollection hescrow hexec hscope
    ⟨.stale, none, none, none⟩ "1" fundingSelector
  obtain ⟨r, hr, hscanned, hmatched⟩ := hiff.mpr fundingSelector_holds
  exact ⟨r, hr, hscanned, hmatched, (hconsistent r hr).1 hmatched⟩

end MotorCove.Indexer
