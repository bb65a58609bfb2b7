import MotorCove.Chain.Lifecycle
import MotorCove.Chain.Liveness
import MotorCove.Indexer.Agreement
import MotorCove.Indexer.Rebuild

/-!
# Stores over a chain that runs the contracts

On every fork the events are the logs of a run of the contracts. A store that
follows such a chain through commits, rewinds and reindexes shows, at its
checkpoint, the state in which that run leaves the contracts.
-/

set_option autoImplicit false

namespace MotorCove.Indexer
open MotorCove.Text MotorCove.Fallible
open MotorCove.Chain (Address Deployment Log Uint256 Step VehicleNFT VehicleOp Solvent)

/-- A run of the contracts ends in the world, and its logs are the events. Its
times are safe integers. -/
structure RunsTo (d : Deployment) (render : Address → String) (events : List OrderedEvent)
    (w : Chain.World VehicleNFT) : Prop where
  run : ∃ (owner : Address) (balance timestamp : ℕ) (steps : List (Step d VehicleOp)),
    0 < timestamp ∧ w = Chain.run d Chain.vehicleNFT steps
      (Chain.deployed (VehicleNFT.deployed owner) balance timestamp)
  time : w.timestamp < 2^53
  expires : ∀ s, (w.sales s).expiresAt.val < 2^53
  events : ∃ place : ℕ → Place, events = (journal d render place w.logs).map lowered

/-- The blocks run the contracts on every fork from the scan start. -/
def Executes (d : Deployment) (render : Address → String) (B : Blocks) (scanStartBlock : ℕ) :
    Prop :=
  ∀ hashes : List String, hashes.IsChain (fun a b => B.parentHash b = a) →
    hashes.map B.number = List.range' scanStartBlock hashes.length →
      ∃ w, RunsTo d render (hashes.flatMap B.events) w

/-- The tables answer as the contracts do. The contract keeps no recipient of a claim. -/
structure ShowsWorld (d : Deployment) (w : Chain.World VehicleNFT) (p : Projections) : Prop where
  sales : ∀ s, (p.sales (text s)).map SaleRow.projection =
    (Chain.getSale s w).toOption.bind (saleView s)
  paymentClaims : ∀ s, (p.paymentClaims (text s)).map
      (fun r => { r.projection with recipient := none }) =
    (Chain.getPaymentClaim s w).toOption.bind (claimView s)
  tokenOwnership : ∀ t, (p.tokenOwnership (address d.nft, text t)).map OwnershipRow.owner =
    (w.token.ownerOf t).toOption.map address

section
variable {d : Deployment} {render : Address → String} {events : List OrderedEvent}
  {w : Chain.World VehicleNFT}

theorem mem_journal {place : ℕ → Place} {logs : List Log} {e : OrderedEvent}
    (he : e ∈ (journal d render place logs).map lowered) :
    ∃ i, ∃ log ∈ logs, e = lowered (orderedEvent d render place i log) := by
  obtain ⟨_, hmem, rfl⟩ := List.mem_map.mp he
  obtain ⟨i, hi, rfl⟩ := List.mem_mapIdx.mp hmem
  exact ⟨i, logs[i], List.getElem_mem hi, rfl⟩

theorem saleRow_congr {c c' : String} (h : lower c = lower c') : saleRow c = saleRow c' := by
  funext ordered current next
  simp only [saleRow, h]

theorem applyEvents_congr {c c' : String} (h : lower c = lower c') :
    applyEvents c = applyEvents c' := by
  have hsale : applySale c = applySale c' := by
    funext ordered saleId p
    simp only [applySale, saleRow_congr h]
  funext events p
  simp only [applyEvents, applyEvent, hsale]

theorem RunsTo.solvent (h : RunsTo d render events w) : Solvent w := by
  obtain ⟨owner, balance, timestamp, steps, _, rfl⟩ := h.run
  exact Chain.solvent_run d Chain.vehicleNFT (VehicleNFT.deployed owner) balance timestamp steps

theorem RunsTo.told (h : RunsTo d render events w) : Chain.Told d w := by
  obtain ⟨owner, balance, timestamp, steps, _, rfl⟩ := h.run
  exact Chain.told_run d Chain.vehicleNFT (VehicleNFT.deployed owner) balance timestamp steps

/-- The events of a run apply without an error, and the tables then show its end. -/
theorem RunsTo.shown (h : RunsTo d render events w) (hrender : ∀ a, lower (render a) = address a)
    {collectionAddress : String} (hcollection : lower collectionAddress = address d.nft) :
    Logged w ∧ ∃ p, applyEvents collectionAddress events noProjections = .ok p ∧
      Shown d w.sales w.claims w.logs p := by
  obtain ⟨place, rfl⟩ := h.events
  have htime := h.time
  obtain ⟨owner, balance, timestamp, steps, hpositive, rfl⟩ := h.run
  have htracks : Tracks d render place _ _ := tracks_run hrender steps
    (Chain.deployed (VehicleNFT.deployed owner) balance timestamp)
  obtain ⟨p, hp, hshown⟩ := htracks.refines rfl
    (Chain.solvent_deployed (VehicleNFT.deployed owner) balance timestamp) hpositive htime
    refines_deployed
  rw [applyEvents_congr (hcollection.trans (hrender d.nft).symm)]
  exact ⟨htracks.logged fun _ => rfl, p, applyEvents_lowered.mpr hp, hshown⟩

end

section
variable {evidenceDigest : Evidence → String} {B : Blocks} {chain : List BlockRow} {db : Database}
  {d : Deployment} {render : Address → String} {collectionAddress : String}

theorem Blocks.chainEvents_hashes (chain : List BlockRow) :
    B.chainEvents chain = (chain.map BlockRow.blockHash).flatMap B.events := by
  rw [List.flatMap_map]
  rfl

theorem Grounded.hashes (h : Grounded evidenceDigest B chain db) :
    (chain.map BlockRow.blockHash).IsChain (fun a b => B.parentHash b = a) ∧
      (chain.map BlockRow.blockHash).map B.number = List.range' db.scanStartBlock chain.length := by
  have hnamed : ∀ b ∈ chain, RowNamed evidenceDigest B b :=
    fun b hb => h.named b ((h.canonical b).mp hb).1
  constructor
  · rw [List.isChain_map]
    exact h.linked.imp_of_mem_imp fun a b _ hb hl => (hnamed b hb).parentHash.symm.trans hl
  · rw [List.map_map, ← h.numbers]
    apply List.map_congr_left
    intro b hb
    exact (hnamed b hb).number.symm

theorem Grounded.runs (h : Grounded evidenceDigest B chain db)
    (hexec : Executes d render B db.scanStartBlock) :
    ∃ w, RunsTo d render (B.chainEvents chain) w := by
  obtain ⟨hlinked, hnumbers⟩ := h.hashes
  rw [Blocks.chainEvents_hashes]
  apply hexec _ hlinked
  rw [hnumbers, List.length_map]

theorem Folded.showsWorld (h : Folded evidenceDigest B collectionAddress chain db)
    (hrender : ∀ a, lower (render a) = address a)
    (hcollection : lower collectionAddress = address d.nft) {w : Chain.World VehicleNFT}
    (hruns : RunsTo d render (B.chainEvents chain) w) : ShowsWorld d w db.projections := by
  obtain ⟨hlogged, p, hp, hshown⟩ := hruns.shown hrender hcollection
  have hsame : db.projections = p := Except.ok.inj (h.projections.symm.trans hp)
  rw [hsame]
  exact ⟨fun s => hshown.sale_eq s (hruns.expires s), hshown.claim_eq hruns.solvent,
    hshown.owner_eq hlogged⟩

/-- In every state of a store the canonical rows lead up to the checkpoint, and
the tables answer as the contracts do after a run with the events of those rows. -/
theorem store_shows_contracts (hrender : ∀ a, lower (render a) = address a)
    (hcollection : lower collectionAddress = address d.nft)
    (hexec : Executes d render B db.scanStartBlock)
    (h : Reachable evidenceDigest B collectionAddress db) :
    ∃ (chain : List BlockRow) (w : Chain.World VehicleNFT),
      Spine chain db ∧ RunsTo d render (B.chainEvents chain) w ∧
        ShowsWorld d w db.projections := by
  obtain ⟨chain, hprojected⟩ := reachable_projected h
  obtain ⟨w, hruns⟩ := hprojected.folded.grounded.runs hexec
  exact ⟨chain, w, hprojected.covered.toSpine, hruns,
    hprojected.folded.showsWorld hrender hcollection hruns⟩

end

/-! A listing and its funding in one block. -/

def listedAndFunded : List (Step Chain.localDeployment VehicleOp) :=
  Chain.binding ++ Chain.listing ++ Chain.funding

def fundedHeader : BlockHeader := ⟨0, hex 64 1, hex 64 0, 1000⟩

theorem mod_safe (i : ℕ) : i % 1000 < 2^53 := by omega

def blockPlace (i : ℕ) : Place where
  blockNumber := 0
  blockHash := hex 64 1
  transactionHash := hex 64 2
  transactionIndex := 0
  logIndex := i % 1000
  contractAddress := ""
  topics := []
  data := ""
  blockNumber_safe := Nat.two_pow_pos 53
  logIndex_safe := mod_safe i

def fundedEvent (i : ℕ) (contractAddress : String) (event : NormalizedEvent) : OrderedEvent :=
  { (blockPlace i).toEnvelope with contractAddress, event }

def fundedEvents : List OrderedEvent :=
  [fundedEvent 0 (address 2) (.transfer "1" (address 0) (address 3)),
    fundedEvent 1 (address 2) (.transfer "1" (address 3) (address 1)),
    fundedEvent 2 (address 1) (.saleCreated "1" "1" (address 3) (address 4) "5"),
    fundedEvent 3 (address 1) (.saleFunded "1" (address 4) "5" "1" "3601")]

theorem lowered_fundedEvent (i : ℕ) (a : Address) (event : NormalizedEvent) :
    lowered (fundedEvent i (address a) event) = fundedEvent i (address a) event := by
  have haddress : lower (address a) = address a := lower_address a
  have hhash (n : ℕ) : lower (hex 64 n) = hex 64 n := lower_hex 64 n
  have hempty : lower "" = "" := lower_of_forall fun c hc => absurd hc List.not_mem_nil
  simp [lowered, eventEnvelope, fundedEvent, blockPlace, hhash, haddress, hempty]

theorem fundedLogs : (Chain.run Chain.localDeployment Chain.vehicleNFT listedAndFunded
    (Chain.deployed (VehicleNFT.deployed 3) 0 1)).logs =
      [.transfer ⟨0, 3, 1⟩, .transfer ⟨3, 1, 1⟩, .saleCreated 1 1 3 4 5,
        .saleFunded 1 4 5 1 3601] := by
  decide +kernel

theorem fundedEvents_eq : fundedEvents = (journal Chain.localDeployment address blockPlace
    (Chain.run Chain.localDeployment Chain.vehicleNFT listedAndFunded
      (Chain.deployed (VehicleNFT.deployed 3) 0 1)).logs).map lowered := by
  have hjournal : journal Chain.localDeployment address blockPlace
      [.transfer ⟨0, 3, 1⟩, .transfer ⟨3, 1, 1⟩, .saleCreated 1 1 3 4 5,
        .saleFunded 1 4 5 1 3601] = fundedEvents := rfl
  rw [fundedLogs, hjournal, fundedEvents]
  simp only [List.map_cons, List.map_nil, lowered_fundedEvent]

theorem fundedEvents_located : ∀ e ∈ fundedEvents,
    e.blockNumber = 0 ∧ e.blockHash = hex 64 1 ∧ lowered e = e := by
  intro e he
  rw [fundedEvents_eq] at he
  obtain ⟨i, log, _, rfl⟩ := mem_journal he
  refine ⟨rfl, lower_hex 64 1, ?_⟩
  simp [lowered]

def fundedBlocks : Blocks where
  number := fun _ => 0
  parentHash := fun _ => hex 64 0
  events := fun h => if h = hex 64 1 then fundedEvents else []
  located := by
    intro h e he
    split at he
    · rename_i hh
      rw [hh]
      exact fundedEvents_located e he
    · exact absurd he List.not_mem_nil
  sorted := by
    intro h
    split
    · show fundedEvents.Pairwise _
      decide +kernel
    · exact .nil
  distinct := by
    intro h
    split
    · show (fundedEvents.map _).Nodup
      decide +kernel
    · exact List.nodup_nil

theorem fundedBlocks_events : fundedBlocks.events (lower fundedHeader.hash) = fundedEvents := by
  have hlower : lower fundedHeader.hash = hex 64 1 := lower_hex 64 1
  rw [hlower]
  show (if hex 64 1 = hex 64 1 then fundedEvents else []) = fundedEvents
  rw [if_pos rfl]

theorem fundedEvents_run : RunsTo Chain.localDeployment address fundedEvents
    (Chain.run Chain.localDeployment Chain.vehicleNFT listedAndFunded
      (Chain.deployed (VehicleNFT.deployed 3) 0 1)) where
  run := ⟨3, 0, 1, listedAndFunded, by decide, rfl⟩
  time := by decide +kernel
  expires := by
    intro s
    change (Function.update (Function.update (fun _ => Chain.noSale) 1
      (⟨1, 3, 4, 0, 5, 0, 0, .listed, false⟩ : Chain.Sale)) 1
        (⟨1, 3, 4, 4, 5, 1, 3601, .funded, false⟩ : Chain.Sale) s).expiresAt.val < 2^53
    by_cases hs : s = 1
    · rw [hs, Function.update_self]
      decide
    · rw [Function.update_of_ne hs, Function.update_of_ne hs]
      decide
  events := ⟨blockPlace, fundedEvents_eq⟩

theorem deployed_run : RunsTo Chain.localDeployment address []
    (Chain.deployed (VehicleNFT.deployed 3) 0 1) where
  run := ⟨3, 0, 1, [], by decide, rfl⟩
  time := by decide
  expires := fun _ => Nat.two_pow_pos 53
  events := ⟨blockPlace, rfl⟩

theorem fundedBlocks_executes : Executes Chain.localDeployment address fundedBlocks 0 := by
  intro hashes _ hnumbers
  cases hashes with
  | nil => exact ⟨_, deployed_run⟩
  | cons hash rest =>
    cases rest with
    | nil =>
      rw [List.flatMap_singleton]
      by_cases hfunded : hash = hex 64 1
      · have hevents : fundedBlocks.events hash = fundedEvents := if_pos hfunded
        rw [hevents]
        exact ⟨_, fundedEvents_run⟩
      · have hevents : fundedBlocks.events hash = [] := if_neg hfunded
        rw [hevents]
        exact ⟨_, deployed_run⟩
    | cons next rest =>
      -- every block is at height 0
      have hheights : (0 : ℕ) = 1 := by
        have htail := (List.cons.inj hnumbers).2
        exact (List.cons.inj htail).1
      cases hheights

def fundedStore : SqliteProjectionStore := { plainStore with collectionAddress := address 2 }

theorem fundedBatch_extends (projectionBuildId logScopeHash : String) :
    Extends fundedBlocks (registered 0 projectionBuildId logScopeHash) [fundedHeader]
      fundedEvents where
  names := by
    intro x hx
    rw [List.mem_singleton.mp hx]
    exact ⟨rfl, lower_hex 64 0⟩
  numbers := rfl
  linked := .singleton _
  parent := fun _ _ h => absurd h (by simp [registered])
  events := by
    have hlowered : fundedEvents.map lowered = fundedEvents.map id :=
      List.map_congr_left fun e he => (fundedEvents_located e he).2.2
    rw [hlowered, List.map_id, Blocks.batchEvents, List.flatMap_singleton, fundedBlocks_events]

theorem store_shows_contracts_funded : ∃ db,
    db = (commit mintDigest fundedStore [fundedHeader] fundedEvents fundedHeader
      (registered 0 "a" (hex 64 9))).2 ∧
    ∃ (chain : List BlockRow) (w : Chain.World VehicleNFT), Spine chain db ∧
      RunsTo Chain.localDeployment address (fundedBlocks.chainEvents chain) w ∧
        ShowsWorld Chain.localDeployment w db.projections := by
  generalize hdb : (commit mintDigest fundedStore [fundedHeader] fundedEvents fundedHeader
    (registered 0 "a" (hex 64 9))).2 = db
  have hexec : Executes Chain.localDeployment address fundedBlocks db.scanStartBlock := by
    rw [← hdb, (commit_kept _ _ _ _ _).1]
    exact fundedBlocks_executes
  have hreachable : Reachable mintDigest fundedBlocks (address 2) db := by
    rw [← hdb]
    exact .commit (.registered 0 "a" (hex 64 9)) rfl (fundedBatch_extends "a" (hex 64 9)) rfl
  exact ⟨db, rfl, store_shows_contracts lower_address (lower_address 2) hexec hreachable⟩

end MotorCove.Indexer
