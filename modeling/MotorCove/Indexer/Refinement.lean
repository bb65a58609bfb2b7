import MotorCove.Indexer.Decoding

/-!
# The projection refines the contracts

What the projection tables show of a sale, a claim and a token after the logs
so far, and how each log keeps that agreement with the contract state that
emitted it.
-/

set_option autoImplicit false

namespace MotorCove.Indexer
open MotorCove.Text MotorCove.Fallible
open MotorCove.Chain (Address Deployment Log Uint256 Uint64 World)

def cellOrNull (n : Uint64) : Option Cell := if n = 0 then none else some (.integer n.val)

/-- The row of a sale shows the sale. A deadline from `2^53` on is left out:
the column does not hold it exactly. -/
structure ShowsSale (saleId : Uint256) (sale : Chain.Sale) (r : SaleRow) : Prop where
  saleId : r.saleId = text saleId
  tokenId : r.tokenId = text sale.tokenId
  seller : r.seller = address sale.seller
  allowedBuyer : r.allowedBuyer = address sale.allowedBuyer
  buyer : r.buyer = addressOrNull sale.buyer
  priceWei : r.priceWei = text sale.priceWei
  status : saleStatus sale.status = some r.status
  safe : sale.fundedAt.val < 2^53
  fundedAt : r.fundedAt = cellOrNull sale.fundedAt
  expiresAt : sale.expiresAt.val < 2^53 → r.expiresAt = cellOrNull sale.expiresAt
  tokenReclaimed : r.tokenReclaimed = sale.tokenReclaimed

structure ShowsClaim (saleId : Uint256) (claim : Chain.PaymentClaim) (r : PaymentRow) : Prop where
  saleId : r.saleId = text saleId
  beneficiary : r.beneficiary = address claim.beneficiary
  amountWei : r.amountWei = text claim.amountWei
  kind : r.kind = decodeKind claim.kind
  status : claimStatus claim.status = some r.status

/-- A row that shows the entry, or no row for an entry that does not exist. -/
def Present {σ ρ : Type} (absent : Prop) (shows' : σ → ρ → Prop) (entry : σ) : Option ρ → Prop
  | none => absent
  | some r => ¬absent ∧ shows' entry r

structure Shown (d : Deployment) (sales : Uint256 → Chain.Sale)
    (claims : Uint256 → Chain.PaymentClaim) (logs : List Log) (p : Projections) : Prop where
  sales : ∀ s, Present ((sales s).status = .none) (ShowsSale s) (sales s) (p.sales (text s))
  claims : ∀ s, Present ((claims s).status = .none) (ShowsClaim s) (claims s)
    (p.paymentClaims (text s))
  owners : ∀ t, (p.tokenOwnership (address d.nft, text t)).map OwnershipRow.owner =
    addressOrNull (lastOwner logs t)

theorem shown_deployed (d : Deployment) :
    Shown d (fun _ => Chain.noSale) (fun _ => Chain.noClaim) [] noProjections where
  sales := fun _ => rfl
  claims := fun _ => rfl
  owners := fun _ => rfl

/-- What holds for one key after a write holds for all keys: the others are untouched. -/
theorem present_update {σ ρ : Type} (absent : σ → Prop) {shows' : Uint256 → σ → ρ → Prop}
    {entries : Uint256 → σ} {rows : String → Option ρ} {saleId : Uint256} {entry : σ} {row : ρ}
    (h : ∀ s, Present (absent (entries s)) (shows' s) (entries s) (rows (text s)))
    (hpresent : ¬absent entry) (hshows : shows' saleId entry row) (s : Uint256) :
    Present (absent (Function.update entries saleId entry s)) (shows' s)
      (Function.update entries saleId entry s)
      (Function.update rows (text saleId) (some row) (text s)) := by
  by_cases hs : s = saleId
  · subst hs
    rw [Function.update_self, Function.update_self]
    exact ⟨hpresent, hshows⟩
  · have ht : text s ≠ text saleId := fun he => hs (text_inj.mp he)
    rw [Function.update_of_ne hs, Function.update_of_ne ht]
    exact h s

/-- Times below `2^53` survive the column and come back as they were. -/
theorem timeCell_textOrNull {n : Uint64} (h : n.val < 2^53) :
    timeCell (textOrNull n) = cellOrNull n := by
  by_cases h0 : n = 0
  · simp [textOrNull, cellOrNull, timeCell, h0]
  · have h63 : n.val < 2^63 := by omega
    simp only [textOrNull, cellOrNull, h0, if_false, timeCell, Option.bind_some, text, number_repr,
      toDouble_of_lt h, Option.map_some, Cell.ofDouble, if_pos h63]

theorem map_text_cellOrNull (n : Uint64) : (cellOrNull n).map Cell.text = textOrNull n := by
  by_cases h0 : n = 0 <;> simp [cellOrNull, textOrNull, h0, Cell.text, text]

theorem requireSale_shown {saleId : Uint256} {sale : Chain.Sale} {r : SaleRow}
    (hshows : ShowsSale saleId sale r) (event : NormalizedEvent) :
    requireSale (some r.projection) event (text saleId) = .ok r.projection := by
  have hid : ¬text saleId ≠ r.projection.saleId := by
    rw [ne_eq, not_not]
    exact hshows.saleId.symm
  simp only [requireSale, if_neg hid]

theorem ShowsSale.times {saleId : Uint256} {sale : Chain.Sale} {r : SaleRow}
    (hshows : ShowsSale saleId sale r) :
    timeCell r.projection.fundedAt = cellOrNull sale.fundedAt ∧
      (sale.expiresAt.val < 2^53 → timeCell r.projection.expiresAt = cellOrNull sale.expiresAt) := by
  refine ⟨?_, fun he => ?_⟩
  · change timeCell (r.fundedAt.map Cell.text) = _
    rw [hshows.fundedAt, map_text_cellOrNull, timeCell_textOrNull hshows.safe]
  · change timeCell (r.expiresAt.map Cell.text) = _
    rw [hshows.expiresAt he, map_text_cellOrNull, timeCell_textOrNull he]

theorem ShowsSale.lower_buyer {saleId : Uint256} {sale : Chain.Sale} {r : SaleRow}
    (hshows : ShowsSale saleId sale r) :
    r.projection.buyer.map lower = addressOrNull sale.buyer := by
  change r.buyer.map lower = _
  rw [hshows.buyer]
  by_cases h0 : sale.buyer = 0 <;> simp [addressOrNull, h0]

theorem ShowsSale.projection_status {saleId : Uint256} {sale : Chain.Sale} {r : SaleRow}
    (hshows : ShowsSale saleId sale r) {status : SaleStatus}
    (hs : saleStatus sale.status = some status) : r.projection.status = status :=
  Option.some.inj (hshows.status.symm.trans hs)

section Events
variable {d : Deployment} {render : Address → String} (hrender : ∀ a, lower (render a) = address a)
variable {ordered : OrderedEvent} (hblock : ordered.blockNumber < 2^53)
  (hlog : ordered.logIndex < 2^53)
variable {sales : Uint256 → Chain.Sale} {claims : Uint256 → Chain.PaymentClaim} {logs : List Log}
variable {p : Projections} (hp : p.Valid) (h : Shown d sales claims logs p)

include hrender hblock hlog hp h

theorem shown_transfer {t : Chain.Transfer} (hdst : t.dst ≠ 0)
    (hevent : ordered.event = decode render (.transfer t))
    (hcontract : ordered.contractAddress = render d.nft) :
    ∃ p', applyEvent (render d.nft) ordered p = .ok p' ∧
      Shown d sales claims (logs ++ [.transfer t]) p' := by
  have hne : render t.dst ≠ "" := by
    intro he
    have hl := hexLength_address t.dst
    rw [← hrender, he] at hl
    revert hl
    decide +kernel
  have hvalid : OwnershipRow.Valid ⟨address d.nft, text t.tokenId, address t.dst,
      lower ordered.blockHash, ordered.logIndex, ordered.blockNumber⟩ := by
    simp only [OwnershipRow.Valid, OwnershipRow.checks, List.forall_mem_cons, List.not_mem_nil,
      IsEmpty.forall_iff, implies_true, and_true]
    exact ⟨canonicalUint256_text _, hexLength_address _, hexLength_address _,
      safeInteger_iff.mpr hlog, safeInteger_iff.mpr hblock⟩
  have happly : applyEvent (render d.nft) ordered p = .ok _ := (applyEvent_transfer hp hevent).mpr
    ⟨hne, _, rfl, by rwa [hcontract, hrender, hrender], rfl⟩
  refine ⟨_, happly, h.sales, h.claims, fun t' => ?_⟩
  rw [hcontract, hrender, lastOwner_concat]
  change Option.map OwnershipRow.owner (Function.update p.tokenOwnership
    (address d.nft, text t.tokenId) _ (address d.nft, text t')) =
      addressOrNull (if t.tokenId = t' then t.dst else lastOwner logs t')
  by_cases ht : t.tokenId = t'
  · subst ht
    simp only [Function.update_self, Option.map_some, if_true, addressOrNull, hdst, if_false]
    cases p.tokenOwnership (address d.nft, text t.tokenId) <;> simp [mergeOwnership, hrender]
  · have hkey : (address d.nft, text t') ≠ (address d.nft, text t.tokenId) := by
      intro he
      exact ht (text_inj.mp (Prod.mk.inj he).2).symm
    rw [Function.update_of_ne hkey, if_neg ht]
    exact h.owners t'

omit hp h in
theorem saleRow_valid {saleId : Uint256} {sale sale' : Chain.Sale} {r : SaleRow} (hr : r.Valid)
    (hshows : ShowsSale saleId sale r) {next : SaleProjection} (hid : next.saleId = r.saleId)
    (htoken : next.tokenId = r.tokenId) (hseller : next.seller = r.seller)
    (hallowed : next.allowedBuyer = r.allowedBuyer) (hprice : next.priceWei = r.priceWei)
    (hbuyer : next.buyer.map lower = addressOrNull sale'.buyer) :
    (saleRow (render d.nft) ordered (some r) next).Valid := by
  simp only [SaleRow.Valid, SaleRow.checks, List.forall_mem_cons, List.not_mem_nil,
    IsEmpty.forall_iff, implies_true, and_true, saleRow, Option.map_some, Option.getD_some] at hr ⊢
  obtain ⟨h₁, h₂, h₃, _, _, _, _, h₈, _, _⟩ := hr
  rw [hid, htoken, hprice, hseller, hallowed, hrender, hshows.seller, hshows.allowedBuyer,
    lower_address, lower_address, hbuyer]
  refine ⟨h₁, h₂, h₃, hexLength_address _, hexLength_address _, hexLength_address _, ?_, h₈,
    safeInteger_iff.mpr hblock, safeInteger_iff.mpr hlog⟩
  by_cases h0 : sale'.buyer = 0 <;> simp [addressOrNull, h0, hexLength_address]

theorem shown_sale {saleId : Uint256} {sale' : Chain.Sale} {log : Log}
    (hid : ordered.event.saleId? = some (text saleId))
    (hpayment : ∀ current, projectPayment current ordered.event = .ok none)
    (howner : ∀ t, lastOwner (logs ++ [log]) t = lastOwner logs t)
    (hold : (sales saleId).status ≠ .none)
    (hstep : ∀ r, ShowsSale saleId (sales saleId) r → ∃ next,
      projectSale (some r.projection) ordered.event = .ok (some next) ∧
      next.saleId = r.saleId ∧ next.tokenId = r.tokenId ∧ next.seller = r.seller ∧
      next.allowedBuyer = r.allowedBuyer ∧ next.priceWei = r.priceWei ∧
      next.buyer.map lower = addressOrNull sale'.buyer ∧
      saleStatus sale'.status = some next.status ∧ sale'.fundedAt.val < 2^53 ∧
      timeCell next.fundedAt = cellOrNull sale'.fundedAt ∧
      (sale'.expiresAt.val < 2^53 → timeCell next.expiresAt = cellOrNull sale'.expiresAt) ∧
      next.tokenReclaimed = sale'.tokenReclaimed)
    (hsame : sale'.tokenId = (sales saleId).tokenId ∧ sale'.seller = (sales saleId).seller ∧
      sale'.allowedBuyer = (sales saleId).allowedBuyer ∧
      sale'.priceWei = (sales saleId).priceWei) :
    ∃ p', applyEvent (render d.nft) ordered p = .ok p' ∧
      Shown d (Function.update sales saleId sale') claims (logs ++ [log]) p' := by
  have hpresent := h.sales saleId
  cases hr : p.sales (text saleId) with
  | none =>
    rw [hr] at hpresent
    exact absurd hpresent hold
  | some r =>
    rw [hr] at hpresent
    have hshows := hpresent.2
    obtain ⟨next, hnext, h₁, h₂, h₃, h₄, h₅, hbuyer, hstatus, hsafe, hfunded, hexpires,
      hreclaimed⟩ := hstep r hshows
    have hvalid : (saleRow (render d.nft) ordered (some r) next).Valid :=
      saleRow_valid hrender hblock hlog (hp.sales _ r hr) hshows h₁ h₂ h₃ h₄ h₅ hbuyer
    have happly := applyEvent_upsertSale hp hid hpayment (by rwa [hr]) (by rwa [hr])
    refine ⟨_, happly, fun s => ?_, h.claims, fun t => ?_⟩
    · have hkey : next.saleId = text saleId := h₁.trans hshows.saleId
      simp only [saleRow, hr, hkey]
      have hne : ¬sale'.status = .none := by
        intro h0
        rw [h0] at hstatus
        cases hstatus
      refine present_update (fun sale : Chain.Sale => sale.status = .none) h.sales hne ?_ s
      exact {
        saleId := hshows.saleId
        tokenId := hshows.tokenId.trans (by rw [hsame.1])
        seller := hshows.seller.trans (by rw [hsame.2.1])
        allowedBuyer := hshows.allowedBuyer.trans (by rw [hsame.2.2.1])
        buyer := hbuyer
        priceWei := hshows.priceWei.trans (by rw [hsame.2.2.2])
        status := hstatus
        safe := hsafe
        fundedAt := hfunded
        expiresAt := hexpires
        tokenReclaimed := hreclaimed }
    · rw [howner]
      exact h.owners t

theorem shown_saleCreated {saleId tokenId priceWei : Uint256} {seller allowedBuyer : Address}
    (hevent : ordered.event =
      decode render (.saleCreated saleId tokenId seller allowedBuyer priceWei))
    (hprice : priceWei ≠ 0) (hnew : (sales saleId).status = .none) :
    ∃ p', applyEvent (render d.nft) ordered p = .ok p' ∧
      Shown d (Function.update sales saleId
          ⟨tokenId, seller, allowedBuyer, 0, priceWei, 0, 0, .listed, false⟩) claims
        (logs ++ [.saleCreated saleId tokenId seller allowedBuyer priceWei]) p' := by
  have hnone : p.sales (text saleId) = none := by
    have hpresent := h.sales saleId
    cases hr : p.sales (text saleId) with
    | none => rfl
    | some r =>
      rw [hr] at hpresent
      exact absurd hnew hpresent.1
  have hid : ordered.event.saleId? = some (text saleId) := by rw [hevent]; rfl
  have hpayment : ∀ current, projectPayment current ordered.event = .ok none := by
    intro current
    rw [hevent]
    rfl
  have hnext : projectSale ((p.sales (text saleId)).map SaleRow.projection) ordered.event =
      .ok (some ⟨text saleId, text tokenId, render seller, render allowedBuyer, none,
        text priceWei, none, none, .listed, false⟩) := by
    rw [hevent, hnone]
    rfl
  have hvalid : (saleRow (render d.nft) ordered (p.sales (text saleId)) ⟨text saleId, text tokenId,
      render seller, render allowedBuyer, none, text priceWei, none, none, .listed,
      false⟩).Valid := by
    simp only [SaleRow.Valid, SaleRow.checks, List.forall_mem_cons, List.not_mem_nil,
      IsEmpty.forall_iff, implies_true, and_true, saleRow, hnone, hrender]
    exact ⟨canonicalUint256_text _, canonicalUint256_text _, (canonicalUint256_pos _).mpr hprice,
      hexLength_address _, hexLength_address _, hexLength_address _, rfl,
      safeInteger_iff.mpr hblock, safeInteger_iff.mpr hblock, safeInteger_iff.mpr hlog⟩
  refine ⟨_, applyEvent_upsertSale hp hid hpayment hnext hvalid, fun s => ?_, h.claims,
    fun t => ?_⟩
  · simp only [hnone, mergeSale, saleRow, hrender]
    refine present_update (fun sale : Chain.Sale => sale.status = .none) h.sales (by simp) ?_ s
    exact ⟨rfl, rfl, rfl, rfl, rfl, rfl, rfl, Nat.two_pow_pos 53, rfl, fun _ => rfl, rfl⟩
  · rw [lastOwner_concat]
    exact h.owners t

theorem shown_saleFunded {saleId amountWei : Uint256} {buyer : Address}
    {fundedAt expiresAt : Uint64}
    (hevent : ordered.event = decode render (.saleFunded saleId buyer amountWei fundedAt expiresAt))
    (hlisted : (sales saleId).status = .listed) (hbuyer : buyer = (sales saleId).allowedBuyer)
    (hb0 : buyer ≠ 0) (hf0 : fundedAt ≠ 0) (he0 : expiresAt ≠ 0) (hsafe : fundedAt.val < 2^53) :
    ∃ p', applyEvent (render d.nft) ordered p = .ok p' ∧
      Shown d (Function.update sales saleId { sales saleId with
          buyer, fundedAt, expiresAt, status := .funded }) claims
        (logs ++ [.saleFunded saleId buyer amountWei fundedAt expiresAt]) p' := by
  refine shown_sale hrender hblock hlog hp h (by rw [hevent]; rfl)
    (fun current => by rw [hevent]; rfl) (fun t => lastOwner_concat _ _ t) (by simp [hlisted])
    (fun r hshows => ?_) ⟨rfl, rfl, rfl, rfl⟩
  have hstatus : r.projection.status = .listed := hshows.projection_status (by rw [hlisted]; rfl)
  have hallowed : lower (render buyer) = lower r.projection.allowedBuyer := by
    change _ = lower r.allowedBuyer
    rw [hrender, hshows.allowedBuyer, lower_address, hbuyer]
  refine ⟨{ r.projection with
    buyer := some (render buyer), fundedAt := some (text fundedAt),
    expiresAt := some (text expiresAt), status := .funded }, ?_, rfl, rfl, rfl, rfl, rfl, ?_, rfl,
    hsafe, ?_, fun he => ?_, hshows.tokenReclaimed⟩
  · rw [hevent]
    simp [projectSale, decode, requireSale_shown hshows, hstatus, hallowed, failIf]
  · simp [addressOrNull, hb0, hrender]
  · have ht := timeCell_textOrNull hsafe
    rwa [textOrNull, if_neg hf0] at ht
  · have ht := timeCell_textOrNull he
    rwa [textOrNull, if_neg he0] at ht

theorem shown_saleMoved {saleId : Uint256} {log : Log} {status : Chain.SaleStatus}
    {reclaimed : Bool} {next : SaleStatus} (hold : (sales saleId).status ≠ .none)
    (hid : (decode render log).saleId? = some (text saleId))
    (hpayment : ∀ current, projectPayment current (decode render log) = .ok none)
    (hevent : ordered.event = decode render log)
    (howner : ∀ t, lastOwner (logs ++ [log]) t = lastOwner logs t)
    (hnext : saleStatus status = some next)
    (hstep : ∀ r, ShowsSale saleId (sales saleId) r →
      projectSale (some r.projection) (decode render log) = .ok (some { r.projection with
        status := next, tokenReclaimed := reclaimed })) :
    ∃ p', applyEvent (render d.nft) ordered p = .ok p' ∧
      Shown d (Function.update sales saleId { sales saleId with
        status, tokenReclaimed := reclaimed }) claims (logs ++ [log]) p' := by
  refine shown_sale hrender hblock hlog hp h (by rwa [hevent])
    (fun current => by rw [hevent, hpayment]) howner hold (fun r hshows => ?_) ⟨rfl, rfl, rfl, rfl⟩
  exact ⟨{ r.projection with status := next, tokenReclaimed := reclaimed },
    by rw [hevent]; exact hstep r hshows, rfl, rfl, rfl, rfl, rfl, hshows.lower_buyer, hnext,
    hshows.safe, hshows.times.1, hshows.times.2, rfl⟩

theorem shown_statusMoved {saleId : Uint256} {log : Log} {status : Chain.SaleStatus}
    {old next : SaleStatus} (hold : saleStatus (sales saleId).status = some old)
    (hid : (decode render log).saleId? = some (text saleId))
    (hpayment : ∀ current, projectPayment current (decode render log) = .ok none)
    (hevent : ordered.event = decode render log)
    (howner : ∀ t, lastOwner (logs ++ [log]) t = lastOwner logs t)
    (hnext : saleStatus status = some next)
    (hstep : ∀ current : SaleProjection, current.saleId = text saleId → current.status = old →
      projectSale (some current) (decode render log) = .ok (some { current with status := next })) :
    ∃ p', applyEvent (render d.nft) ordered p = .ok p' ∧
      Shown d (Function.update sales saleId { sales saleId with status }) claims (logs ++ [log])
        p' := by
  refine shown_saleMoved hrender hblock hlog hp h (fun h0 => ?_) hid hpayment hevent howner hnext
    (fun r hshows => ?_)
  · rw [h0] at hold
    cases hold
  · have hreclaimed : r.projection.tokenReclaimed = (sales saleId).tokenReclaimed :=
      hshows.tokenReclaimed
    rw [hstep r.projection hshows.saleId (hshows.projection_status hold), ← hreclaimed]

theorem shown_saleCompleted {saleId tokenId : Uint256} {buyer : Address}
    (hevent : ordered.event = decode render (.saleCompleted saleId tokenId buyer))
    (hfunded : (sales saleId).status = .funded) :
    ∃ p', applyEvent (render d.nft) ordered p = .ok p' ∧
      Shown d (Function.update sales saleId { sales saleId with status := .completed }) claims
        (logs ++ [.saleCompleted saleId tokenId buyer]) p' := by
  refine shown_statusMoved hrender hblock hlog hp h (by rw [hfunded]; rfl) rfl (fun _ => rfl)
    hevent (fun t => lastOwner_concat _ _ t) rfl (fun current hid hs => ?_)
  simp [decode, projectSale, requireSale, hid, hs, failIf]

theorem shown_saleCancelled {saleId tokenId : Uint256} {seller : Address}
    (hevent : ordered.event = decode render (.saleCancelled saleId tokenId seller))
    (hlisted : (sales saleId).status = .listed) :
    ∃ p', applyEvent (render d.nft) ordered p = .ok p' ∧
      Shown d (Function.update sales saleId { sales saleId with status := .cancelled }) claims
        (logs ++ [.saleCancelled saleId tokenId seller]) p' := by
  refine shown_statusMoved hrender hblock hlog hp h (by rw [hlisted]; rfl) rfl (fun _ => rfl)
    hevent (fun t => lastOwner_concat _ _ t) rfl (fun current hid hs => ?_)
  simp [decode, projectSale, requireSale, hid, hs, failIf]

theorem shown_saleExpired {saleId tokenId : Uint256} {buyer : Address}
    (hevent : ordered.event = decode render (.saleExpired saleId tokenId buyer))
    (hfunded : (sales saleId).status = .funded) :
    ∃ p', applyEvent (render d.nft) ordered p = .ok p' ∧
      Shown d (Function.update sales saleId { sales saleId with status := .expired }) claims
        (logs ++ [.saleExpired saleId tokenId buyer]) p' := by
  refine shown_statusMoved hrender hblock hlog hp h (by rw [hfunded]; rfl) rfl (fun _ => rfl)
    hevent (fun t => lastOwner_concat _ _ t) rfl (fun current hid hs => ?_)
  simp [decode, projectSale, requireSale, hid, hs, failIf]

theorem shown_tokenReclaimed {saleId tokenId : Uint256} {recipient : Address}
    (hevent : ordered.event = decode render (.tokenReclaimed saleId tokenId recipient))
    (hstatus : (sales saleId).status = .cancelled ∨ (sales saleId).status = .expired) :
    ∃ p', applyEvent (render d.nft) ordered p = .ok p' ∧
      Shown d (Function.update sales saleId { sales saleId with tokenReclaimed := true }) claims
        (logs ++ [.tokenReclaimed saleId tokenId recipient]) p' := by
  have hnext : ∃ next, saleStatus (sales saleId).status = some next ∧
      (next = .cancelled ∨ next = .expired) := by
    rcases hstatus with hs | hs <;> rw [hs]
    · exact ⟨.cancelled, rfl, .inl rfl⟩
    · exact ⟨.expired, rfl, .inr rfl⟩
  obtain ⟨next, hnext, hreturned⟩ := hnext
  refine shown_saleMoved hrender hblock hlog hp h ?_ rfl (fun _ => rfl) hevent
    (fun t => lastOwner_concat _ _ t) hnext (fun r hshows => ?_)
  · rcases hstatus with hs | hs <;> simp [hs]
  · have hs := hshows.projection_status hnext
    have hfree : ¬(r.projection.status ≠ .cancelled ∧ r.projection.status ≠ .expired) := by
      rw [hs]
      rcases hreturned with rfl | rfl <;> simp
    simp only [projectSale, decode, requireSale_shown hshows, ok_bind, failIf_neg _ hfree, hs.symm]

omit hblock in
theorem shown_paymentClaimCreated {saleId amountWei : Uint256} {beneficiary : Address}
    {kind : Chain.ClaimKind}
    (hevent : ordered.event = decode render (.paymentClaimCreated saleId beneficiary amountWei kind))
    (hamount : amountWei ≠ 0) (hnew : (claims saleId).status = .none) :
    ∃ p', applyEvent (render d.nft) ordered p = .ok p' ∧
      Shown d sales (Function.update claims saleId ⟨beneficiary, amountWei, kind, .claimable⟩)
        (logs ++ [.paymentClaimCreated saleId beneficiary amountWei kind]) p' := by
  have hnone : p.paymentClaims (text saleId) = none := by
    have hpresent := h.claims saleId
    cases hr : p.paymentClaims (text saleId) with
    | none => rfl
    | some r =>
      rw [hr] at hpresent
      exact absurd hnew hpresent.1
  have hid : ordered.event.saleId? = some (text saleId) := by rw [hevent]; rfl
  have hnext : projectPayment ((p.paymentClaims (text saleId)).map PaymentRow.projection)
      ordered.event = .ok (some ⟨text saleId, render beneficiary, text amountWei, decodeKind kind,
        .claimable, none⟩) := by
    rw [hevent, hnone]
    rfl
  have hsale : ∀ current, projectSale current ordered.event = .ok none := by
    intro current
    rw [hevent]
    rfl
  have hvalid : (paymentRow ordered (p.paymentClaims (text saleId)) ⟨text saleId,
      render beneficiary, text amountWei, decodeKind kind, .claimable, none⟩).Valid := by
    simp only [PaymentRow.Valid, PaymentRow.checks, List.forall_mem_cons, List.not_mem_nil,
      IsEmpty.forall_iff, implies_true, and_true, paymentRow, hnone, hrender]
    exact ⟨canonicalUint256_text _, (canonicalUint256_pos _).mpr hamount, hexLength_address _,
      safeInteger_iff.mpr hlog⟩
  refine ⟨_, applyEvent_upsertPayment hp hid hnext hsale hvalid, h.sales, fun s => ?_, fun t => ?_⟩
  · simp only [hnone, mergePayment, paymentRow, hrender]
    refine present_update (fun claim : Chain.PaymentClaim => claim.status = .none) h.claims
      (by simp) ?_ s
    exact ⟨rfl, rfl, rfl, rfl, rfl⟩
  · rw [lastOwner_concat]
    exact h.owners t

omit hrender hblock hlog in
theorem shown_paymentWithdrawn {saleId amountWei : Uint256} {beneficiary recipient : Address}
    {kind : Chain.ClaimKind}
    (hevent : ordered.event =
      decode render (.paymentWithdrawn saleId beneficiary recipient amountWei kind))
    (hclaimable : (claims saleId).status = .claimable) :
    ∃ p', applyEvent (render d.nft) ordered p = .ok p' ∧
      Shown d sales (Function.update claims saleId { claims saleId with status := .withdrawn })
        (logs ++ [.paymentWithdrawn saleId beneficiary recipient amountWei kind]) p' := by
  have hpresent := h.claims saleId
  cases hr : p.paymentClaims (text saleId) with
  | none =>
    rw [hr] at hpresent
    rw [hpresent] at hclaimable
    cases hclaimable
  | some r =>
    rw [hr] at hpresent
    have hshows := hpresent.2
    have hstatus : r.status = .claimable := by
      have hs := hshows.status
      rw [hclaimable] at hs
      exact (Option.some.inj hs).symm
    have hid : ordered.event.saleId? = some (text saleId) := by rw [hevent]; rfl
    have hnext : projectPayment ((p.paymentClaims (text saleId)).map PaymentRow.projection)
        ordered.event = .ok (some { r.projection with
          status := .withdrawn, recipient := some (render recipient) }) := by
      rw [hevent, hr]
      simp [decode, projectPayment, PaymentRow.projection, hshows.saleId, hstatus]
    have hsale : ∀ current, projectSale current ordered.event = .ok none := by
      intro current
      rw [hevent]
      rfl
    have hr' := hp.paymentClaims _ r hr
    have hvalid : (paymentRow ordered (p.paymentClaims (text saleId)) { r.projection with
        status := .withdrawn, recipient := some (render recipient) }).Valid := by
      simp only [PaymentRow.Valid, PaymentRow.checks, List.forall_mem_cons, List.not_mem_nil,
        IsEmpty.forall_iff, implies_true, and_true, paymentRow, hr, PaymentRow.projection,
        hshows.beneficiary, lower_address, Option.map_some, Option.getD_some] at hr' ⊢
      exact hr'
    refine ⟨_, applyEvent_upsertPayment hp hid hnext hsale hvalid, h.sales, fun s => ?_,
      fun t => ?_⟩
    · simp only [hr, mergePayment, paymentRow, PaymentRow.projection, hshows.saleId]
      refine present_update (fun claim : Chain.PaymentClaim => claim.status = .none) h.claims
        (by simp) ?_ s
      exact ⟨rfl, hshows.beneficiary, hshows.amountWei, hshows.kind, rfl⟩
    · rw [lastOwner_concat]
      exact h.owners t

end Events

end MotorCove.Indexer
