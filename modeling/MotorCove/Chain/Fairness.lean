import Mathlib.Algebra.Ring.Nat
import MotorCove.Chain.Movements

/-!
# Fair exchange

Seen from one sale, every movement takes one of seven steps or leaves the sale
alone. The steps fix how often the record shows money accepted, money paid and
the token sent, and whose calls these were: the side that gets the token never
names the recipient of the money.
-/

set_option autoImplicit false

namespace MotorCove.Chain
open MotorCove.Fallible MotorCove.Histories

variable {S Op : Type}

def Entry.accepts (s : Uint256) : Entry Op → Bool
  | .called _ _ (.fundSale saleId) _ _ => saleId = s
  | _ => false

def Entry.completes (s : Uint256) : Entry Op → Bool
  | .called _ _ (.completeSale saleId) _ _ => saleId = s
  | _ => false

/-- Who had ether paid out for the sale, and so named its recipient. -/
def Entry.paidBy (s : Uint256) : Entry Op → Option Address
  | .called sender _ (.withdrawPayment saleId _) _ _ => if saleId = s then some sender else none
  | _ => none

/-- Who had the sale's token sent out of custody: the caller of the
completion, or the one who named a recipient to reclaim it. -/
def Entry.sentBy (s : Uint256) : Entry Op → Option Address
  | .called sender _ (.completeSale saleId) _ _ => if saleId = s then some sender else none
  | .called sender _ (.reclaimToken saleId _) _ _ => if saleId = s then some sender else none
  | _ => none

def Entry.inflow : Entry Op → ℕ
  | .called _ value (.fundSale _) _ _ => value.val
  | .forced amount => amount
  | _ => 0

def Entry.outflow : Entry Op → ℕ
  | .called _ _ (.withdrawPayment saleId _) _ claims => (claims saleId).amountWei.val
  | _ => 0

/-- The payments that fairness asks of a call, to whom and how much. -/
def Entry.pays : Entry Op → List (Address × Uint256)
  | .called _ _ (.withdrawPayment saleId recipient) _ claims =>
    [(recipient, (claims saleId).amountWei)]
  | _ => []

/-- The transfers out of custody that fairness asks of a call. -/
def Entry.asks (d : Deployment) : Entry Op → List Transfer
  | .called _ _ (.completeSale saleId) sales _ =>
    [⟨d.escrow, (sales saleId).buyer, (sales saleId).tokenId⟩]
  | .called _ _ (.reclaimToken saleId recipient) sales _ =>
    [⟨d.escrow, recipient, (sales saleId).tokenId⟩]
  | _ => []

def Entry.leaves (d : Deployment) : Entry Op → List Transfer
  | .sent t => if t.src = d.escrow then [t] else []
  | _ => []

def Entry.sales? : Entry Op → Option (Uint256 → Sale)
  | .called _ _ _ sales _ => some sales
  | _ => none

/-- What fairness to a sale asks of a call, by the sale and the claim it found. -/
structure FairCall (s : Uint256) (sender : Address) (value : Uint256) (message : Message Op)
    (sale : Sale) (claim : PaymentClaim) : Prop where
  fund : message = .fundSale s →
    sale.status = .listed ∧ sender = sale.allowedBuyer ∧ value = sale.priceWei
  complete : message = .completeSale s → sale.status = .funded ∧ sender = sale.buyer
  withdraw : ∀ recipient, message = .withdrawPayment s recipient →
    claim.amountWei = sale.priceWei ∧ (sale.status = .completed ∧ sender = sale.seller ∨
      sale.status = .expired ∧ sender = sale.buyer)
  reclaim : ∀ recipient, message = .reclaimToken s recipient →
    sender = sale.seller ∧ (sale.status = .cancelled ∨ sale.status = .expired)

def Entry.Fair (s : Uint256) : Entry Op → Prop
  | .called sender value message sales claims =>
    FairCall s sender value message (sales s) (claims s)
  | _ => True

def SaleStatus.final : SaleStatus → Bool
  | .completed => true
  | .cancelled => true
  | .expired => true
  | _ => false

/-- What a sale keeps from one moment to a later one. -/
structure Lasting (sale sale' : Sale) : Prop where
  final : sale.status.final = true → sale'.status = sale.status
  terms : sale.status ≠ .none → sale'.status ≠ .none ∧ sale'.seller = sale.seller ∧
    sale'.allowedBuyer = sale.allowedBuyer ∧ sale'.tokenId = sale.tokenId ∧
    sale'.priceWei = sale.priceWei

def Listed (record : List (Entry Op)) (sale : Sale) : Prop :=
  ∃ value sales claims, .called sale.seller value
    (.createSale sale.tokenId sale.priceWei sale.allowedBuyer) sales claims ∈ record

/-- Fairness of a recorded run to a sale. `lasting` compares the sales every
call found, in order, and the sales at the end. -/
structure FairSale (s : Uint256) (w : World (Recorded S Op)) : Prop where
  acceptedOnce : w.token.record.countP (fun e => e.accepts s) ≤ 1
  paidOnce : w.token.record.countP (fun e => (e.paidBy s).isSome) ≤ 1
  sentOnce : w.token.record.countP (fun e => (e.sentBy s).isSome) ≤ 1
  fair : ∀ e ∈ w.token.record, e.Fair s
  completed : (w.sales s).status = .completed ↔ ∃ e ∈ w.token.record, e.completes s = true
  apart : ∀ e ∈ w.token.record, ∀ f ∈ w.token.record, ∀ a ∈ e.sentBy s, ∀ b ∈ f.paidBy s, a ≠ b
  lasting : (w.token.record.filterMap Entry.sales? ++ [w.sales]).Pairwise
    fun past later => Lasting (past s) (later s)
  created : (w.sales s).status ≠ .none → Listed w.token.record (w.sales s)

/-- Fairness of a recorded run that began with `balance`: ether enters and
leaves, to the recipients named, and tokens leave custody, by the calls fairness
names and no others. -/
structure FairRecord (d : Deployment) (balance : ℕ) (w : World (Recorded S Op)) : Prop where
  sale : ∀ s, FairSale s w
  money : w.balance + (w.token.record.map Entry.outflow).sum =
    balance + (w.token.record.map Entry.inflow).sum
  payments : w.payments = w.token.record.flatMap Entry.pays
  delivered : w.token.record.flatMap (Entry.leaves d) = w.token.record.flatMap (Entry.asks d)

theorem Lasting.refl (sale : Sale) : Lasting sale sale :=
  ⟨fun _ => rfl, fun h => ⟨h, rfl, rfl, rfl, rfl⟩⟩

theorem Lasting.trans {sale sale' sale'' : Sale} (h : Lasting sale sale')
    (h' : Lasting sale' sale'') : Lasting sale sale'' := by
  constructor
  · intro hfinal
    have hkept := h.final hfinal
    rw [h'.final (hkept ▸ hfinal), hkept]
  · intro hsome
    obtain ⟨hsome', hseller, hbuyer, htoken, hprice⟩ := h.terms hsome
    obtain ⟨hsome'', hseller', hbuyer', htoken', hprice'⟩ := h'.terms hsome'
    exact ⟨hsome'', hseller'.trans hseller, hbuyer'.trans hbuyer, htoken'.trans htoken,
      hprice'.trans hprice⟩

theorem Lasting.of_open {sale sale' : Sale} (hopen : sale.status.final = false)
    (hsome : sale'.status ≠ .none) (hseller : sale'.seller = sale.seller)
    (hbuyer : sale'.allowedBuyer = sale.allowedBuyer) (htoken : sale'.tokenId = sale.tokenId)
    (hprice : sale'.priceWei = sale.priceWei) : Lasting sale sale' :=
  ⟨fun h => by simp [hopen] at h, fun _ => ⟨hsome, hseller, hbuyer, htoken, hprice⟩⟩

def Message.sale? : Message Op → Option Uint256
  | .fundSale saleId => some saleId
  | .completeSale saleId => some saleId
  | .cancelSale saleId => some saleId
  | .expireSale saleId => some saleId
  | .withdrawPayment saleId _ => some saleId
  | .reclaimToken saleId _ => some saleId
  | _ => none

def Entry.sale? : Entry Op → Option Uint256
  | .called _ _ message _ _ => message.sale?
  | _ => none

/-- What the movements do to one sale and its claim. -/
inductive SaleStep (d : Deployment) (s : Uint256) (w : World (Recorded S Op)) :
    List (Entry Op) → Sale → PaymentClaim → Prop where
  | listed {tokenId priceWei : Uint256} {seller allowedBuyer : Address}
      (hnone : (w.sales s).status = .none) (hseller : IsParty d seller)
      (hbuyer : allowedBuyer ≠ seller)
      (hlisted : Listed w.token.record
        ⟨tokenId, seller, allowedBuyer, 0, priceWei, 0, 0, .listed, false⟩) :
      SaleStep d s w [] ⟨tokenId, seller, allowedBuyer, 0, priceWei, 0, 0, .listed, false⟩
        (w.claims s)
  | accepted {sender : Address} {value : Uint256} {fundedAt expiresAt : Uint64}
      (hsender : IsParty d sender) (hstatus : (w.sales s).status = .listed)
      (hseller : sender ≠ (w.sales s).seller) (hbuyer : sender = (w.sales s).allowedBuyer)
      (hvalue : value = (w.sales s).priceWei) :
      SaleStep d s w [.called sender value (.fundSale s) w.sales w.claims]
        { w.sales s with buyer := sender, fundedAt, expiresAt, status := .funded } (w.claims s)
  | completed {sender : Address} {value : Uint256} (hstatus : (w.sales s).status = .funded)
      (hsender : sender = (w.sales s).buyer) :
      SaleStep d s w [.called sender value (.completeSale s) w.sales w.claims,
          .sent ⟨d.escrow, (w.sales s).buyer, (w.sales s).tokenId⟩]
        { w.sales s with status := .completed }
        ⟨(w.sales s).seller, (w.sales s).priceWei, .sellerProceeds, .claimable⟩
  | cancelled {sender : Address} {value : Uint256} (hstatus : (w.sales s).status = .listed) :
      SaleStep d s w [.called sender value (.cancelSale s) w.sales w.claims]
        { w.sales s with status := .cancelled } (w.claims s)
  | expired {sender : Address} {value : Uint256} (hstatus : (w.sales s).status = .funded) :
      SaleStep d s w [.called sender value (.expireSale s) w.sales w.claims]
        { w.sales s with status := .expired }
        ⟨(w.sales s).buyer, (w.sales s).priceWei, .buyerRefund, .claimable⟩
  | paid {sender recipient : Address} {value : Uint256}
      (hstatus : (w.claims s).status = .claimable) (hsender : sender = (w.claims s).beneficiary) :
      SaleStep d s w [.called sender value (.withdrawPayment s recipient) w.sales w.claims]
        (w.sales s) { w.claims s with status := .withdrawn }
  | reclaimed {sender recipient : Address} {value : Uint256}
      (hsender : sender = (w.sales s).seller)
      (hstatus : (w.sales s).status = .cancelled ∨ (w.sales s).status = .expired)
      (hreclaimed : (w.sales s).tokenReclaimed = false) :
      SaleStep d s w [.called sender value (.reclaimToken s recipient) w.sales w.claims,
          .sent ⟨d.escrow, recipient, (w.sales s).tokenId⟩]
        { w.sales s with tokenReclaimed := true } (w.claims s)
  | untouched {entries : List (Entry Op)} (hother : ∀ e ∈ entries, e.sale? ≠ some s) :
      SaleStep d s w entries (w.sales s) (w.claims s)

/-- A sale above the count does not exist; a listing takes the next number. -/
def Unlisted (w : World S) : Prop := ∀ s, w.saleCount.val < s.val → (w.sales s).status = .none

section
variable {d : Deployment} {nft : IERC721 S Op} {w w' : World (Recorded S Op)}
variable {entries : List (Entry Op)}

/-- A movement that writes one sale and one claim steps that sale and no other. -/
theorem SaleStep.of_write {saleId : Uint256} {sale : Sale} {claim : PaymentClaim}
    (hsale : ∀ e ∈ entries, ∀ s ∈ e.sale?, s = saleId)
    (hstep : SaleStep d saleId w entries sale claim)
    (hsales : w'.sales = Function.update w.sales saleId sale)
    (hclaims : w'.claims = Function.update w.claims saleId claim) (s : Uint256) :
    SaleStep d s w entries (w'.sales s) (w'.claims s) := by
  rw [hsales, hclaims]
  by_cases hs : s = saleId
  · subst hs
    rw [Function.update_self, Function.update_self]
    exact hstep
  · rw [Function.update_of_ne hs, Function.update_of_ne hs]
    exact .untouched fun e he h => hs (hsale e he s h)

theorem moved_saleStep (hw : Unlisted w) (h : Moved d nft w entries w') (s : Uint256) :
    SaleStep d s w entries (w'.sales s) (w'.claims s) := by
  have hsales : ∀ saleId, w.sales = Function.update w.sales saleId (w.sales saleId) :=
    fun saleId => (Function.update_eq_self saleId w.sales).symm
  have hclaims : ∀ saleId, w.claims = Function.update w.claims saleId (w.claims saleId) :=
    fun saleId => (Function.update_eq_self saleId w.claims).symm
  cases h with
  | @listed saleId tokenId priceWei value seller allowedBuyer sales claims hid hseller hbuyer
      hcalled =>
    have hnone := hw saleId (by omega)
    refine .of_write (by simp) (.listed hnone hseller hbuyer ⟨value, sales, claims, hcalled⟩) rfl ?_ s
    exact hclaims _
  | accepted hsender hstatus hseller hbuyer hvalue =>
    refine .of_write ?_ (.accepted hsender hstatus hseller hbuyer hvalue) rfl ?_ s
    · simp [Entry.sale?, Message.sale?]
    · exact hclaims _
  | completed hstatus hsender _ =>
    refine .of_write ?_ (.completed hstatus hsender) rfl rfl s
    simp [Entry.sale?, Message.sale?]
  | cancelled hstatus _ =>
    refine .of_write ?_ (.cancelled hstatus) rfl ?_ s
    · simp [Entry.sale?, Message.sale?]
    · exact hclaims _
  | expired hstatus =>
    refine .of_write ?_ (.expired hstatus) rfl rfl s
    simp [Entry.sale?, Message.sale?]
  | paid hstatus hsender _ =>
    refine .of_write ?_ (.paid hstatus hsender) ?_ rfl s
    · simp [Entry.sale?, Message.sale?]
    · exact hsales _
  | reclaimed hsender hstatus hreclaimed _ =>
    refine .of_write ?_ (.reclaimed hsender hstatus hreclaimed) rfl ?_ s
    · simp [Entry.sale?, Message.sale?]
    · exact hclaims _
  | @begun sender value message hidle =>
    refine .untouched ?_
    cases message <;> simp_all [Message.idle, Entry.sale?, Message.sale?]
  | received _ _ => exact .untouched (by simp [Entry.sale?])
  | tokenCall _ _ => exact .untouched nofun
  | forced amount => exact .untouched (by simp [Entry.sale?])
  | aside _ _ _ _ => exact .untouched nofun

theorem SaleStep.lasting {s : Uint256} {sale : Sale} {claim : PaymentClaim}
    (h : SaleStep d s w entries sale claim) : Lasting (w.sales s) sale := by
  cases h with
  | listed hnone _ _ _ =>
    exact ⟨fun h => by simp [hnone, SaleStatus.final] at h, fun h => absurd hnone h⟩
  | accepted _ hstatus _ _ _ =>
    exact .of_open (by simp [hstatus, SaleStatus.final]) (by simp) rfl rfl rfl rfl
  | completed hstatus _ =>
    exact .of_open (by simp [hstatus, SaleStatus.final]) (by simp) rfl rfl rfl rfl
  | cancelled hstatus =>
    exact .of_open (by simp [hstatus, SaleStatus.final]) (by simp) rfl rfl rfl rfl
  | expired hstatus =>
    exact .of_open (by simp [hstatus, SaleStatus.final]) (by simp) rfl rfl rfl rfl
  | reclaimed _ _ _ => exact ⟨fun _ => rfl, fun h => ⟨h, rfl, rfl, rfl, rfl⟩⟩
  | paid _ _ => exact .refl _
  | untouched _ => exact .refl _

theorem moved_balance (h : Moved d nft w entries w') :
    w'.balance + (entries.map Entry.outflow).sum = w.balance + (entries.map Entry.inflow).sum := by
  cases h with
  | paid _ _ hamount => exact Nat.sub_add_cancel hamount
  | @begun sender value message hidle =>
    cases message <;> simp_all [Message.idle, Entry.outflow, Entry.inflow, World.note]
  | accepted _ _ _ _ _ => rfl
  | forced _ => rfl
  | listed _ _ _ _ => rfl
  | completed _ _ _ => rfl
  | cancelled _ _ => rfl
  | expired _ => rfl
  | reclaimed _ _ _ _ => rfl
  | received _ _ => rfl
  | tokenCall _ _ => rfl
  | aside _ _ _ _ => rfl

theorem moved_payments (h : Moved d nft w entries w') :
    w'.payments = w.payments ++ entries.flatMap Entry.pays := by
  cases h with
  | paid _ _ _ => rfl
  | @begun sender value message hidle =>
    cases message <;> simp_all [Message.idle, Entry.pays, World.note]
  | accepted _ _ _ _ _ => exact (List.append_nil _).symm
  | forced _ => exact (List.append_nil _).symm
  | listed _ _ _ _ => exact (List.append_nil _).symm
  | completed _ _ _ => exact (List.append_nil _).symm
  | cancelled _ _ => exact (List.append_nil _).symm
  | expired _ => exact (List.append_nil _).symm
  | reclaimed _ _ _ _ => exact (List.append_nil _).symm
  | received _ _ => exact (List.append_nil _).symm
  | tokenCall _ _ => exact (List.append_nil _).symm
  | aside _ _ _ _ => exact (List.append_nil _).symm

/-- The escrow makes exactly the transfers out of custody its calls ask for. -/
theorem moved_delivered (h : Moved d nft w entries w') :
    entries.flatMap (Entry.leaves d) = entries.flatMap (Entry.asks d) := by
  cases h with
  | completed _ _ _ => simp [Entry.leaves, Entry.asks]
  | reclaimed _ _ _ _ => simp [Entry.leaves, Entry.asks]
  | received hsrc _ => simp [Entry.leaves, Entry.asks, hsrc]
  | @begun sender value message hidle =>
    cases message <;> simp_all [Message.idle, Entry.leaves, Entry.asks]
  | accepted _ _ _ _ _ => rfl
  | forced _ => rfl
  | listed _ _ _ _ => rfl
  | cancelled _ _ => rfl
  | expired _ => rfl
  | paid _ _ _ => rfl
  | tokenCall _ _ => rfl
  | aside _ _ _ _ => rfl

theorem moved_sales (h : Moved d nft w entries w') :
    ∀ sales ∈ entries.filterMap Entry.sales?, sales = w.sales := by
  cases h <;> simp [Entry.sales?]

theorem moved_unlisted (h : Moved d nft w entries w') (hw : Unlisted w) : Unlisted w' := by
  have hwrite : ∀ {saleId : Uint256} {sale : Sale}, (w.sales saleId).status ≠ .none →
      w'.saleCount = w.saleCount → w'.sales = Function.update w.sales saleId sale →
      Unlisted w' := by
    intro saleId sale hsale hcount hsales s hs
    rw [hcount] at hs
    have hne : s ≠ saleId := by
      rintro rfl
      exact hsale (hw s hs)
    rw [hsales, Function.update_of_ne hne]
    exact hw s hs
  cases h with
  | @listed saleId tokenId priceWei value seller allowedBuyer sales claims hid _ hbuyer _ =>
    intro s hs
    change saleId.val < s.val at hs
    have hne : s ≠ saleId := by
      rintro rfl
      exact lt_irrefl _ hs
    change (Function.update w.sales saleId _ s).status = .none
    rw [Function.update_of_ne hne]
    exact hw s (by omega)
  | accepted _ hstatus _ _ _ => exact hwrite (by simp [hstatus]) rfl rfl
  | completed hstatus _ _ => exact hwrite (by simp [hstatus]) rfl rfl
  | cancelled hstatus _ => exact hwrite (by simp [hstatus]) rfl rfl
  | expired hstatus => exact hwrite (by simp [hstatus]) rfl rfl
  | reclaimed _ hstatus _ _ =>
    exact hwrite (by rcases hstatus with h | h <;> simp [h]) rfl rfl
  | paid _ _ _ => exact hw
  | begun _ => exact hw
  | received _ _ => exact hw
  | tokenCall _ _ => exact hw
  | forced _ => exact hw
  | aside _ _ _ _ => exact hw

end

/-- How often ether was accepted for a sale, by its status. -/
def Sale.fundings (sale : Sale) : ℕ :=
  if sale.status = .funded ∨ sale.status = .completed ∨ sale.status = .expired then 1 else 0

def Sale.completions (sale : Sale) : ℕ :=
  if sale.status = .completed then 1 else 0

def Sale.deliveries (sale : Sale) : ℕ :=
  if sale.status = .completed ∨ sale.tokenReclaimed = true then 1 else 0

def PaymentClaim.payments (claim : PaymentClaim) : ℕ :=
  if claim.status = .withdrawn then 1 else 0

def Sale.Sender (sale : Sale) (a : Address) : Prop :=
  sale.status = .completed ∧ a = sale.buyer ∨ sale.tokenReclaimed = true ∧ a = sale.seller

def PaymentClaim.Payer (claim : PaymentClaim) (a : Address) : Prop :=
  claim.status = .withdrawn ∧ a = claim.beneficiary

/-- What the fields of a sale and its claim say of one another. -/
structure Coherent (sale : Sale) (claim : PaymentClaim) : Prop where
  claim : claim.status ≠ .none → claim.amountWei = sale.priceWei ∧
    (sale.status = .completed ∧ claim.beneficiary = sale.seller ∨
      sale.status = .expired ∧ claim.beneficiary = sale.buyer)
  reclaimed : sale.tokenReclaimed = true → sale.status = .cancelled ∨ sale.status = .expired
  buyer : sale.status = .funded ∨ sale.status = .completed ∨ sale.status = .expired →
    sale.buyer ≠ sale.seller

/-- What a sale and its claim say about the record so far. -/
structure Ledger (s : Uint256) (record : List (Entry Op)) (sale : Sale) (claim : PaymentClaim) :
    Prop where
  accepted : record.countP (fun e => e.accepts s) = sale.fundings
  completed : record.countP (fun e => e.completes s) = sale.completions
  sent : record.countP (fun e => (e.sentBy s).isSome) = sale.deliveries
  paid : record.countP (fun e => (e.paidBy s).isSome) = claim.payments
  sender : ∀ e ∈ record, ∀ a ∈ e.sentBy s, sale.Sender a
  payer : ∀ e ∈ record, ∀ a ∈ e.paidBy s, claim.Payer a
  created : sale.status ≠ .none → Listed record sale
  coherent : Coherent sale claim

theorem ledger_start (s : Uint256) : Ledger s ([] : List (Entry Op)) noSale noClaim where
  accepted := rfl
  completed := rfl
  sent := rfl
  paid := rfl
  sender := nofun
  payer := nofun
  created := fun h => absurd rfl h
  coherent := ⟨fun h => absurd rfl h, nofun, by simp [noSale]⟩

theorem Coherent.unreclaimed {sale : Sale} {claim : PaymentClaim} (h : Coherent sale claim)
    (hcancelled : sale.status ≠ .cancelled) (hexpired : sale.status ≠ .expired) :
    sale.tokenReclaimed = false := by
  by_contra hrec
  rcases h.reclaimed (Bool.not_eq_false _ ▸ hrec) with hst | hst
  · exact hcancelled hst
  · exact hexpired hst

theorem Coherent.unclaimed {sale : Sale} {claim : PaymentClaim} (h : Coherent sale claim)
    (hcompleted : sale.status ≠ .completed) (hexpired : sale.status ≠ .expired) :
    claim.status = .none := by
  by_contra hc
  rcases (h.claim hc).2 with ⟨hst, _⟩ | ⟨hst, _⟩
  · exact hcompleted hst
  · exact hexpired hst

section
variable {s : Uint256} {record entries : List (Entry Op)} {sale sale' : Sale}
variable {claim claim' : PaymentClaim}

/-- The listing of a sale, once in the record, stays there for a sale on the same terms. -/
theorem Listed.append (h : Listed record sale) (hseller : sale'.seller = sale.seller)
    (hbuyer : sale'.allowedBuyer = sale.allowedBuyer) (htoken : sale'.tokenId = sale.tokenId)
    (hprice : sale'.priceWei = sale.priceWei) : Listed (record ++ entries) sale' := by
  obtain ⟨value, sales, claims, hcalled⟩ := h
  refine ⟨value, sales, claims, List.mem_append_left _ ?_⟩
  rw [hseller, hbuyer, htoken, hprice]
  exact hcalled

/-- The record grows by a movement: the counts by what its entries count, and
what was said of the sender and the payer stays said. -/
theorem Ledger.extend (h : Ledger s record sale claim)
    (haccepted : sale.fundings + entries.countP (fun e => e.accepts s) = sale'.fundings)
    (hcompleted : sale.completions + entries.countP (fun e => e.completes s) = sale'.completions)
    (hsent : sale.deliveries + entries.countP (fun e => (e.sentBy s).isSome) = sale'.deliveries)
    (hpaid : claim.payments + entries.countP (fun e => (e.paidBy s).isSome) = claim'.payments)
    (hsender : ∀ a, sale.Sender a → sale'.Sender a)
    (hsender' : ∀ e ∈ entries, ∀ a ∈ e.sentBy s, sale'.Sender a)
    (hpayer : ∀ a, claim.Payer a → claim'.Payer a)
    (hpayer' : ∀ e ∈ entries, ∀ a ∈ e.paidBy s, claim'.Payer a)
    (hcreated : sale'.status ≠ .none → Listed (record ++ entries) sale')
    (hcoherent : Coherent sale' claim') : Ledger s (record ++ entries) sale' claim' where
  accepted := by rw [List.countP_append, h.accepted, haccepted]
  completed := by rw [List.countP_append, h.completed, hcompleted]
  sent := by rw [List.countP_append, h.sent, hsent]
  paid := by rw [List.countP_append, h.paid, hpaid]
  sender := by
    intro e he a ha
    rcases List.mem_append.mp he with he | he
    · exact hsender a (h.sender e he a ha)
    · exact hsender' e he a ha
  payer := by
    intro e he a ha
    rcases List.mem_append.mp he with he | he
    · exact hpayer a (h.payer e he a ha)
    · exact hpayer' e he a ha
  created := hcreated
  coherent := hcoherent

theorem Ledger.untouched (h : Ledger s record sale claim)
    (hother : ∀ e ∈ entries, e.sale? ≠ some s) : Ledger s (record ++ entries) sale claim := by
  have hsilent : ∀ e ∈ entries, e.accepts s = false ∧ e.completes s = false ∧
      e.sentBy s = none ∧ e.paidBy s = none := by
    intro e he
    have hne := hother e he
    rcases e with ⟨sender, value, message, sales, claims⟩ | t | amount
    · cases message <;>
        simp_all [Entry.sale?, Message.sale?, Entry.accepts, Entry.completes, Entry.sentBy,
          Entry.paidBy]
    · exact ⟨rfl, rfl, rfl, rfl⟩
    · exact ⟨rfl, rfl, rfl, rfl⟩
  have hcount : ∀ p : Entry Op → Bool, (∀ e ∈ entries, p e = false) → entries.countP p = 0 :=
    fun p hp => List.countP_eq_zero.mpr fun e he => by simp [hp e he]
  refine h.extend ?_ ?_ ?_ ?_ (fun _ ha => ha) ?_ (fun _ ha => ha) ?_ ?_ h.coherent
  · rw [hcount _ fun e he => (hsilent e he).1, Nat.add_zero]
  · rw [hcount _ fun e he => (hsilent e he).2.1, Nat.add_zero]
  · rw [hcount _ fun e he => by rw [(hsilent e he).2.2.1, Option.isSome_none], Nat.add_zero]
  · rw [hcount _ fun e he => by rw [(hsilent e he).2.2.2, Option.isSome_none], Nat.add_zero]
  · intro e he a ha
    rw [(hsilent e he).2.2.1] at ha
    cases ha
  · intro e he a ha
    rw [(hsilent e he).2.2.2] at ha
    cases ha
  · exact fun hsome => (h.created hsome).append rfl rfl rfl rfl

theorem Ledger.listed {tokenId priceWei : Uint256} {seller allowedBuyer : Address}
    (h : Ledger s record sale claim) (hnone : sale.status = .none)
    (hlisted : Listed record ⟨tokenId, seller, allowedBuyer, 0, priceWei, 0, 0, .listed, false⟩) :
    Ledger s (record ++ []) ⟨tokenId, seller, allowedBuyer, 0, priceWei, 0, 0, .listed, false⟩
      claim := by
  have hopen := h.coherent.unreclaimed (by simp [hnone]) (by simp [hnone])
  have hclaim := h.coherent.unclaimed (by simp [hnone]) (by simp [hnone])
  refine h.extend ?_ ?_ ?_ rfl ?_ nofun (fun _ ha => ha) nofun ?_ ⟨?_, nofun, ?_⟩
  · simp [Sale.fundings, hnone]
  · simp [Sale.completions, hnone]
  · simp [Sale.deliveries, hnone, hopen]
  · simp [Sale.Sender, hnone, hopen]
  · exact fun _ => hlisted.append rfl rfl rfl rfl
  · simp [hclaim]
  · simp

theorem Ledger.fund {sender : Address} {value : Uint256} {sales : Uint256 → Sale}
    {claims : Uint256 → PaymentClaim} {fundedAt expiresAt : Uint64}
    (h : Ledger s record sale claim) (hstatus : sale.status = .listed)
    (hseller : sender ≠ sale.seller) :
    Ledger s (record ++ [.called sender value (.fundSale s) sales claims])
      { sale with buyer := sender, fundedAt, expiresAt, status := .funded } claim := by
  have hopen := h.coherent.unreclaimed (by simp [hstatus]) (by simp [hstatus])
  have hclaim := h.coherent.unclaimed (by simp [hstatus]) (by simp [hstatus])
  refine h.extend ?_ ?_ ?_ rfl ?_ ?_ (fun _ ha => ha) ?_ ?_ ⟨?_, ?_, fun _ => hseller⟩
  · simp [Sale.fundings, hstatus, Entry.accepts]
  · simp [Sale.completions, hstatus, Entry.completes]
  · simp [Sale.deliveries, hstatus, hopen, Entry.sentBy]
  · simp [Sale.Sender, hstatus, hopen]
  · simp [Entry.sentBy]
  · simp [Entry.paidBy]
  · exact fun _ => (h.created (by simp [hstatus])).append rfl rfl rfl rfl
  · simp [hclaim]
  · simp [hopen]

theorem Ledger.complete {sender : Address} {value : Uint256} {sales : Uint256 → Sale}
    {claims : Uint256 → PaymentClaim} {t : Transfer} (h : Ledger s record sale claim)
    (hstatus : sale.status = .funded) (hsender : sender = sale.buyer) :
    Ledger s (record ++ [.called sender value (.completeSale s) sales claims, .sent t])
      { sale with status := .completed }
      ⟨sale.seller, sale.priceWei, .sellerProceeds, .claimable⟩ := by
  have hopen := h.coherent.unreclaimed (by simp [hstatus]) (by simp [hstatus])
  have hclaim := h.coherent.unclaimed (by simp [hstatus]) (by simp [hstatus])
  have hbuyer := h.coherent.buyer (.inl hstatus)
  refine h.extend ?_ ?_ ?_ ?_ ?_ ?_ ?_ ?_ ?_ ⟨?_, ?_, fun _ => hbuyer⟩
  · simp [Sale.fundings, hstatus, Entry.accepts]
  · simp [Sale.completions, hstatus, Entry.completes]
  · simp [Sale.deliveries, hstatus, hopen, Entry.sentBy]
  · simp [PaymentClaim.payments, hclaim, Entry.paidBy]
  · simp [Sale.Sender, hstatus, hopen]
  · simp [Sale.Sender, Entry.sentBy, hsender]
  · simp [PaymentClaim.Payer, hclaim]
  · simp [Entry.paidBy]
  · exact fun _ => (h.created (by simp [hstatus])).append rfl rfl rfl rfl
  · simp
  · simp [hopen]

theorem Ledger.cancel {sender : Address} {value : Uint256} {sales : Uint256 → Sale}
    {claims : Uint256 → PaymentClaim} (h : Ledger s record sale claim)
    (hstatus : sale.status = .listed) :
    Ledger s (record ++ [.called sender value (.cancelSale s) sales claims])
      { sale with status := .cancelled } claim := by
  have hopen := h.coherent.unreclaimed (by simp [hstatus]) (by simp [hstatus])
  have hclaim := h.coherent.unclaimed (by simp [hstatus]) (by simp [hstatus])
  refine h.extend ?_ ?_ ?_ rfl ?_ ?_ (fun _ ha => ha) ?_ ?_ ⟨?_, ?_, ?_⟩
  · simp [Sale.fundings, hstatus, Entry.accepts]
  · simp [Sale.completions, hstatus, Entry.completes]
  · simp [Sale.deliveries, hstatus, hopen, Entry.sentBy]
  · simp [Sale.Sender, hstatus, hopen]
  · simp [Entry.sentBy]
  · simp [Entry.paidBy]
  · exact fun _ => (h.created (by simp [hstatus])).append rfl rfl rfl rfl
  · simp [hclaim]
  · simp
  · simp

theorem Ledger.expire {sender : Address} {value : Uint256} {sales : Uint256 → Sale}
    {claims : Uint256 → PaymentClaim} (h : Ledger s record sale claim)
    (hstatus : sale.status = .funded) :
    Ledger s (record ++ [.called sender value (.expireSale s) sales claims])
      { sale with status := .expired }
      ⟨sale.buyer, sale.priceWei, .buyerRefund, .claimable⟩ := by
  have hopen := h.coherent.unreclaimed (by simp [hstatus]) (by simp [hstatus])
  have hclaim := h.coherent.unclaimed (by simp [hstatus]) (by simp [hstatus])
  have hbuyer := h.coherent.buyer (.inl hstatus)
  refine h.extend ?_ ?_ ?_ ?_ ?_ ?_ ?_ ?_ ?_ ⟨?_, ?_, fun _ => hbuyer⟩
  · simp [Sale.fundings, hstatus, Entry.accepts]
  · simp [Sale.completions, hstatus, Entry.completes]
  · simp [Sale.deliveries, hstatus, hopen, Entry.sentBy]
  · simp [PaymentClaim.payments, hclaim, Entry.paidBy]
  · simp [Sale.Sender, hstatus, hopen]
  · simp [Entry.sentBy]
  · simp [PaymentClaim.Payer, hclaim]
  · simp [Entry.paidBy]
  · exact fun _ => (h.created (by simp [hstatus])).append rfl rfl rfl rfl
  · simp
  · simp

theorem Ledger.withdraw {sender recipient : Address} {value : Uint256} {sales : Uint256 → Sale}
    {claims : Uint256 → PaymentClaim} (h : Ledger s record sale claim)
    (hstatus : claim.status = .claimable) (hsender : sender = claim.beneficiary) :
    Ledger s (record ++ [.called sender value (.withdrawPayment s recipient) sales claims]) sale
      { claim with status := .withdrawn } := by
  have hclaim := h.coherent.claim (by simp [hstatus])
  refine h.extend rfl rfl rfl ?_ (fun _ ha => ha) ?_ ?_ ?_ ?_
    ⟨fun _ => hclaim, h.coherent.reclaimed, h.coherent.buyer⟩
  · simp [PaymentClaim.payments, hstatus, Entry.paidBy]
  · simp [Entry.sentBy]
  · simp [PaymentClaim.Payer, hstatus]
  · simp [PaymentClaim.Payer, Entry.paidBy, hsender]
  · exact fun hsome => (h.created hsome).append rfl rfl rfl rfl

theorem Ledger.reclaim {sender recipient : Address} {value : Uint256} {sales : Uint256 → Sale}
    {claims : Uint256 → PaymentClaim} {t : Transfer} (h : Ledger s record sale claim)
    (hstatus : sale.status = .cancelled ∨ sale.status = .expired)
    (hopen : sale.tokenReclaimed = false) (hsender : sender = sale.seller) :
    Ledger s (record ++ [.called sender value (.reclaimToken s recipient) sales claims, .sent t])
      { sale with tokenReclaimed := true } claim := by
  have hne : sale.status ≠ .completed := by rcases hstatus with h | h <;> simp [h]
  refine h.extend rfl rfl ?_ rfl ?_ ?_ (fun _ ha => ha) ?_ ?_
    ⟨h.coherent.claim, fun _ => hstatus, h.coherent.buyer⟩
  · simp [Sale.deliveries, hne, hopen, Entry.sentBy]
  · simp [Sale.Sender, hne, hopen]
  · simp [Sale.Sender, Entry.sentBy, hsender]
  · simp [Entry.paidBy]
  · exact fun hsome => (h.created hsome).append rfl rfl rfl rfl

end

section
variable {d : Deployment} {s : Uint256} {w : World (Recorded S Op)} {entries : List (Entry Op)}
variable {sale : Sale} {claim : PaymentClaim}

theorem ledger_step (h : Ledger s w.token.record (w.sales s) (w.claims s))
    (hstep : SaleStep d s w entries sale claim) :
    Ledger s (w.token.record ++ entries) sale claim := by
  cases hstep with
  | listed hnone _ _ hlisted => exact h.listed hnone hlisted
  | accepted _ hstatus hseller _ _ => exact h.fund hstatus hseller
  | completed hstatus hsender => exact h.complete hstatus hsender
  | cancelled hstatus => exact h.cancel hstatus
  | expired hstatus => exact h.expire hstatus
  | paid hstatus hsender => exact h.withdraw hstatus hsender
  | reclaimed hsender hstatus hopen => exact h.reclaim hstatus hopen hsender
  | untouched hother => exact h.untouched hother

theorem saleStep_fair (h : Ledger s w.token.record (w.sales s) (w.claims s))
    (hstep : SaleStep d s w entries sale claim) : ∀ e ∈ entries, e.Fair s := by
  cases hstep with
  | listed _ _ _ _ => exact nofun
  | accepted _ hstatus _ hbuyer hvalue =>
    simp only [List.mem_singleton, forall_eq]
    exact ⟨fun _ => ⟨hstatus, hbuyer, hvalue⟩, nofun, nofun, nofun⟩
  | completed hstatus hsender =>
    simp only [List.mem_cons, List.not_mem_nil, or_false, forall_eq_or_imp, forall_eq]
    exact ⟨⟨nofun, fun _ => ⟨hstatus, hsender⟩, nofun, nofun⟩, trivial⟩
  | cancelled _ =>
    simp only [List.mem_singleton, forall_eq]
    exact ⟨nofun, nofun, nofun, nofun⟩
  | expired _ =>
    simp only [List.mem_singleton, forall_eq]
    exact ⟨nofun, nofun, nofun, nofun⟩
  | paid hstatus hsender =>
    simp only [List.mem_singleton, forall_eq]
    refine ⟨nofun, nofun, fun _ _ => ?_, nofun⟩
    rw [hsender]
    obtain ⟨hamount, hside⟩ := h.coherent.claim (by simp [hstatus])
    exact ⟨hamount, hside⟩
  | reclaimed hsender hstatus _ =>
    simp only [List.mem_cons, List.not_mem_nil, or_false, forall_eq_or_imp, forall_eq]
    exact ⟨⟨nofun, nofun, nofun, fun _ _ => ⟨hsender, hstatus⟩⟩, trivial⟩
  | untouched hother =>
    rintro (⟨sender, value, message, sales, claims⟩ | t | amount) he
    · have hne : message.sale? ≠ some s := hother _ he
      constructor
      · rintro rfl
        exact absurd rfl hne
      · rintro rfl
        exact absurd rfl hne
      · rintro recipient rfl
        exact absurd rfl hne
      · rintro recipient rfl
        exact absurd rfl hne
    · trivial
    · trivial

end

/-- The side that had the token sent out did not name the recipient of the money. -/
theorem Ledger.apart {s : Uint256} {record : List (Entry Op)} {sale : Sale}
    {claim : PaymentClaim} (h : Ledger s record sale claim) {e f : Entry Op}
    (he : e ∈ record) (hf : f ∈ record) {a b : Address} (ha : a ∈ e.sentBy s)
    (hb : b ∈ f.paidBy s) : a ≠ b := by
  obtain ⟨hwithdrawn, rfl⟩ := h.payer f hf b hb
  obtain ⟨_, hclaim⟩ := h.coherent.claim (by simp [hwithdrawn])
  rcases h.sender e he a ha with ⟨hst, rfl⟩ | ⟨hrec, rfl⟩
  · rcases hclaim with ⟨_, hben⟩ | ⟨hst', _⟩
    · rw [hben]
      exact h.coherent.buyer (.inr (.inl hst))
    · simp [hst] at hst'
  · rcases hclaim with ⟨hst', _⟩ | ⟨hst', hben⟩
    · rcases h.coherent.reclaimed hrec with hst | hst <;> simp [hst] at hst'
    · rw [hben]
      exact (h.coherent.buyer (.inr (.inr hst'))).symm

/-- What the movements keep of the whole world and its record. -/
structure Faithful (d : Deployment) (balance : ℕ) (w : World (Recorded S Op)) : Prop where
  unlisted : Unlisted w
  ledger : ∀ s, Ledger s w.token.record (w.sales s) (w.claims s)
  fair : ∀ s, ∀ e ∈ w.token.record, e.Fair s
  lasting : ∀ s, (w.token.record.filterMap Entry.sales? ++ [w.sales]).Pairwise
    fun past later => Lasting (past s) (later s)
  money : w.balance + (w.token.record.map Entry.outflow).sum =
    balance + (w.token.record.map Entry.inflow).sum
  payments : w.payments = w.token.record.flatMap Entry.pays
  delivered : w.token.record.flatMap (Entry.leaves d) = w.token.record.flatMap (Entry.asks d)

theorem faithful_deployed (d : Deployment) (token : S) (balance timestamp : ℕ) :
    @Faithful S Op d balance (deployed ⟨token, []⟩ balance timestamp) where
  unlisted := fun _ _ => rfl
  ledger := ledger_start
  fair := nofun
  lasting := fun _ => List.pairwise_singleton _ _
  money := rfl
  payments := rfl
  delivered := rfl

/-- A list that ends in `a` grows by copies of `a` and by a later `b`. -/
theorem pairwise_grown {α : Type} {R : α → α → Prop} (hrefl : ∀ a, R a a)
    (htrans : ∀ a b c, R a b → R b c → R a c) {past new : List α} {a b : α}
    (h : (past ++ [a]).Pairwise R) (hnew : ∀ x ∈ new, x = a) (hab : R a b) :
    (past ++ new ++ [b]).Pairwise R := by
  obtain ⟨hpast, _, hlast⟩ := List.pairwise_append.mp h
  have hlast : ∀ x ∈ past, R x a := fun x hx => hlast x hx a (List.mem_singleton.mpr rfl)
  have hequal : new.Pairwise R := by
    refine List.pairwise_of_forall_mem_list fun x hx y hy => ?_
    rw [hnew x hx, hnew y hy]
    exact hrefl a
  refine List.pairwise_append.mpr ⟨List.pairwise_append.mpr ⟨hpast, hequal, ?_⟩,
    List.pairwise_singleton _ _, ?_⟩
  · intro x hx y hy
    rw [hnew y hy]
    exact hlast x hx
  · intro x hx y hy
    rw [List.mem_singleton.mp hy]
    rcases List.mem_append.mp hx with hx | hx
    · exact htrans x a b (hlast x hx) hab
    · rw [hnew x hx]
      exact hab

theorem faithful_moved {d : Deployment} {nft : IERC721 S Op} {balance : ℕ}
    {w w' : World (Recorded S Op)} {entries : List (Entry Op)} (h : Faithful d balance w)
    (hmoved : Moved d nft w entries w') : Faithful d balance w' := by
  have hrecord := moved_record hmoved
  have hstep := moved_saleStep h.unlisted hmoved
  refine ⟨moved_unlisted hmoved h.unlisted, fun s => ?_, fun s e he => ?_, fun s => ?_, ?_, ?_, ?_⟩
  · rw [hrecord]
    exact ledger_step (h.ledger s) (hstep s)
  · rw [hrecord] at he
    rcases List.mem_append.mp he with he | he
    · exact h.fair s e he
    · exact saleStep_fair (h.ledger s) (hstep s) e he
  · rw [hrecord, List.filterMap_append]
    exact pairwise_grown (fun sales => Lasting.refl (sales s)) (fun _ _ _ h h' => h.trans h')
      (h.lasting s) (moved_sales hmoved) (hstep s).lasting
  · have hmoney := h.money
    have hmovement := moved_balance hmoved
    rw [hrecord, List.map_append, List.map_append, List.sum_append, List.sum_append]
    omega
  · rw [hrecord, List.flatMap_append, ← h.payments, moved_payments hmoved]
  · rw [hrecord, List.flatMap_append, List.flatMap_append, h.delivered, moved_delivered hmoved]

theorem Faithful.fairSale {d : Deployment} {balance : ℕ} {w : World (Recorded S Op)}
    (h : Faithful d balance w) (s : Uint256) : FairSale s w := by
  have hledger := h.ledger s
  constructor
  · rw [hledger.accepted, Sale.fundings]
    split <;> omega
  · rw [hledger.paid, PaymentClaim.payments]
    split <;> omega
  · rw [hledger.sent, Sale.deliveries]
    split <;> omega
  · exact h.fair s
  · rw [← List.countP_pos_iff, hledger.completed, Sale.completions]
    split <;> simp_all
  · exact fun e he f hf a ha b hb => hledger.apart he hf ha hb
  · exact h.lasting s
  · exact hledger.created

/-- Every run, with the record kept beside it, is fair to every sale. The token
contract is arbitrary, and so are callers, arguments, times, forced ether and
the recipients' reactions. -/
theorem exchange_fair (d : Deployment) (nft : IERC721 S Op) (token : S)
    (balance timestamp : ℕ) (steps : List (Step d Op)) :
    let w := runRecorded d nft steps (deployed ⟨token, []⟩ balance timestamp)
    w.forget = run d nft steps (deployed token balance timestamp) ∧ FairRecord d balance w := by
  intro w
  have hfaithful : Faithful d balance w :=
    (reaches_run d nft steps _).invariant (fun _ _ _ h hmoved => faithful_moved h hmoved)
      (faithful_deployed d token balance timestamp)
  exact ⟨runRecorded_forget d nft steps _, hfaithful.fairSale, hfaithful.money,
    hfaithful.payments, hfaithful.delivered⟩

end MotorCove.Chain
