import MotorCove.Chain.Transactions

/-!
# Solvency of the escrow

The recorded liability is the sum of what is still owed: the price of each
funded sale and the amount of each claim not yet withdrawn. It moves between
the two sums when a sale settles and leaves when a claim is paid. The balance
covers it whatever the token, the recipients and forced ether do.
-/

set_option autoImplicit false

namespace MotorCove.Chain
open MotorCove.Fallible

variable {S Op : Type}

def Sale.due (s : Sale) : ℕ := if s.status = .funded then s.priceWei.val else 0

def PaymentClaim.due (c : PaymentClaim) : ℕ := if c.status = .claimable then c.amountWei.val else 0

/-- Everything the escrow owes: to funded sales and to open claims. -/
def obligations (w : World S) : ℕ := ∑ s, (w.sales s).due + ∑ s, (w.claims s).due

structure Solvent (w : World S) : Prop where
  liability : w.totalLiability.val = obligations w
  covered : w.totalLiability.val ≤ w.balance
  unlisted : ∀ s, w.saleCount.val < s.val → (w.sales s).status = .none
  settled : ∀ s, (w.claims s).status ≠ .none →
    (w.sales s).status = .completed ∨ (w.sales s).status = .expired

theorem solvent_deployed (token : S) (balance timestamp : ℕ) :
    Solvent (deployed token balance timestamp) where
  liability := by
    simp [obligations, deployed, noSale, noClaim, Sale.due, PaymentClaim.due]
  covered := Nat.zero_le _
  unlisted := fun _ _ => rfl
  settled := fun _ h => absurd rfl h

/-- Only the sales, the claims, the count, the liability and the balance matter. -/
theorem Solvent.of_eq {w w' : World S} (h : Solvent w) (hc : w'.saleCount = w.saleCount)
    (ht : w'.totalLiability = w.totalLiability) (hs : w'.sales = w.sales)
    (hcl : w'.claims = w.claims) (hb : w.balance ≤ w'.balance) : Solvent w' where
  liability := by
    rw [ht, h.liability, obligations, obligations, hs, hcl]
  covered := by
    rw [ht]
    exact le_trans h.covered hb
  unlisted := by
    rw [hc, hs]
    exact h.unlisted
  settled := by
    rw [hcl, hs]
    exact h.settled

theorem obligations_write (w : World S) (saleId : Uint256) (sale : Sale) (claim : PaymentClaim) :
    obligations ((w.setSale saleId sale).setClaim saleId claim) +
        (w.sales saleId).due + (w.claims saleId).due =
      obligations w + sale.due + claim.due := by
  have hs := sum_comp_update Sale.due w.sales saleId sale
  have hc := sum_comp_update PaymentClaim.due w.claims saleId claim
  simp only [obligations, World.setSale, World.setClaim]
  omega

theorem setClaim_self (w : World S) (saleId : Uint256) :
    w.setClaim saleId (w.claims saleId) = w := by
  simp [World.setClaim]

theorem obligations_setSale (w : World S) (saleId : Uint256) (sale : Sale) :
    obligations (w.setSale saleId sale) + (w.sales saleId).due = obligations w + sale.due := by
  have h := obligations_write w saleId sale (w.claims saleId)
  rw [show w.claims saleId = (w.setSale saleId sale).claims saleId from rfl, setClaim_self] at h
  omega

theorem Solvent.claim_none {w : World S} (h : Solvent w) {s : Uint256}
    (hc : (w.sales s).status ≠ .completed) (he : (w.sales s).status ≠ .expired) :
    (w.claims s).status = .none := by
  by_contra hne
  rcases h.settled s hne with h | h
  · exact hc h
  · exact he h

section Messages
variable {d : Deployment} {nft : IERC721 S Op} {react : React S} {w w' : World S}

theorem solvent_applyToken (hreact : ∀ w w', Solvent w → react w = .ok w' → Solvent w')
    {r : TokenResult S} (h : Solvent w) (hw : applyToken d react r w = .ok w') : Solvent w' := by
  rcases applyToken_ok hw with ⟨_, rfl⟩ | ⟨x, _, _, _, _, rfl⟩ | ⟨x, _, _, hr⟩
  · exact h.of_eq rfl rfl rfl rfl le_rfl
  · exact h.of_eq rfl rfl rfl rfl le_rfl
  · refine hreact _ _ ?_ hr
    exact h.of_eq rfl rfl rfl rfl le_rfl

theorem solvent_nftSafeTransferFrom
    (hreact : ∀ w w', Solvent w → react w = .ok w' → Solvent w') {src dst : Address}
    {tokenId : Uint256} (h : Solvent w)
    (hw : nftSafeTransferFrom d nft react src dst tokenId w = .ok w') : Solvent w' := by
  obtain ⟨r, _, hr⟩ := nftSafeTransferFrom_ok hw
  exact solvent_applyToken hreact h hr

theorem solvent_createSale (hreact : ∀ w w', Solvent w → react w = .ok w' → Solvent w')
    {sender : Address} {tokenId priceWei : Uint256} {allowedBuyer : Address} (h : Solvent w)
    (hw : createSale d nft react sender tokenId priceWei allowedBuyer w = .ok w') :
    Solvent w' := by
  obtain ⟨_, _, _, _, _, w₁, saleId, htransfer, _, hid, rfl⟩ := createSale_ok hw
  have h₁ : Solvent w₁ := by
    refine solvent_nftSafeTransferFrom hreact ?_ htransfer
    exact h.of_eq rfl rfl rfl rfl le_rfl
  have hnew : (w₁.sales saleId).status = .none := h₁.unlisted saleId (by omega)
  have hsum := obligations_setSale w₁ saleId
    ⟨tokenId, sender, allowedBuyer, 0, priceWei, 0, 0, .listed, false⟩
  constructor
  · have := h₁.liability
    simp only [Sale.due, hnew, reduceCtorEq, if_false] at hsum
    change w₁.totalLiability.val = obligations (w₁.setSale saleId _)
    omega
  · exact h₁.covered
  · intro s hs
    have hs' : saleId.val < s.val := hs
    have hne : s ≠ saleId := by
      rintro rfl
      omega
    change (Function.update w₁.sales saleId _ s).status = .none
    rw [Function.update_of_ne hne]
    exact h₁.unlisted s (by omega)
  · intro s hs
    have hne : s ≠ saleId := by
      rintro rfl
      exact hs (h₁.claim_none (by simp [hnew]) (by simp [hnew]))
    change (Function.update w₁.sales saleId _ s).status = _ ∨
      (Function.update w₁.sales saleId _ s).status = _
    rw [Function.update_of_ne hne]
    exact h₁.settled s hs

/-- One sale changes status and one claim may be opened with it: the count and
the shape of the other sales stay. -/
theorem Solvent.write (h : Solvent w) (saleId : Uint256) (sale : Sale) (claim : PaymentClaim)
    (hold : (w.sales saleId).status ≠ .none)
    (hclaim : claim.status ≠ .none → sale.status = .completed ∨ sale.status = .expired)
    (hsales : w'.sales = Function.update w.sales saleId sale)
    (hclaims : w'.claims = Function.update w.claims saleId claim)
    (hcount : w'.saleCount = w.saleCount)
    (hliability : w'.totalLiability.val + (w.sales saleId).due + (w.claims saleId).due =
      w.totalLiability.val + sale.due + claim.due)
    (hcovered : w'.totalLiability.val ≤ w'.balance) : Solvent w' where
  liability := by
    have hsum := obligations_write w saleId sale claim
    have heq : obligations w' = obligations ((w.setSale saleId sale).setClaim saleId claim) := by
      simp only [obligations, hsales, hclaims, World.setSale, World.setClaim]
    have := h.liability
    omega
  covered := hcovered
  unlisted := by
    intro s hs
    rw [hcount] at hs
    have hne : s ≠ saleId := by
      rintro rfl
      exact hold (h.unlisted s hs)
    rw [hsales, Function.update_of_ne hne]
    exact h.unlisted s hs
  settled := by
    intro s hs
    rw [hsales]
    rw [hclaims] at hs
    by_cases hne : s = saleId
    · subst hne
      rw [Function.update_self] at hs ⊢
      exact hclaim hs
    · rw [Function.update_of_ne hne] at hs ⊢
      exact h.settled s hs

theorem solvent_fundSale {sender : Address} {value saleId : Uint256} (h : Solvent w)
    (hw : fundSale d sender value saleId { w with balance := w.balance + value.val } = .ok w') :
    Solvent w' := by
  obtain ⟨hl, _, _, hv, expiresAt, total, _, ht, hle, rfl⟩ := fundSale_ok hw
  change (w.sales saleId).status = .listed at hl
  change value = (w.sales saleId).priceWei at hv
  have hnone := h.claim_none (s := saleId) (by simp [hl]) (by simp [hl])
  refine h.write saleId _ (w.claims saleId) (by simp [hl])
    (by simp [hnone]) rfl (by simp [World.setSale, World.emit]) rfl ?_ hle
  simp only [Sale.due, PaymentClaim.due, hl, hnone, reduceCtorEq, if_false, if_true]
  change total.val = w.totalLiability.val + value.val at ht
  change total.val + 0 + 0 = w.totalLiability.val + (w.sales saleId).priceWei.val + 0
  rw [← hv]
  omega

theorem Solvent.settled_sale (h : Solvent w) {saleId : Uint256} {status : SaleStatus}
    {beneficiary : Address} {kind : ClaimKind} (hf : (w.sales saleId).status = .funded)
    (hst : status = .completed ∨ status = .expired)
    (hsales : w'.sales = Function.update w.sales saleId { w.sales saleId with status })
    (hclaims : w'.claims = Function.update w.claims saleId
      ⟨beneficiary, (w.sales saleId).priceWei, kind, .claimable⟩)
    (hcount : w'.saleCount = w.saleCount) (htotal : w'.totalLiability = w.totalLiability)
    (hbalance : w'.balance = w.balance) : Solvent w' := by
  have hnone := h.claim_none (s := saleId) (by simp [hf]) (by simp [hf])
  have hne : status ≠ .funded := by rcases hst with rfl | rfl <;> simp
  refine h.write saleId _ _ (by simp [hf]) (fun _ => hst) hsales hclaims hcount ?_ ?_
  · simp only [Sale.due, PaymentClaim.due, hf, hnone, hne, htotal, reduceCtorEq, if_false, if_true]
    omega
  · rw [htotal, hbalance]
    exact h.covered

theorem Solvent.withdrawn_claim (h : Solvent w) {saleId : Uint256}
    (hc : (w.claims saleId).status = .claimable) (hsales : w'.sales = w.sales)
    (hclaims : w'.claims = Function.update w.claims saleId
      { w.claims saleId with status := .withdrawn })
    (hcount : w'.saleCount = w.saleCount)
    (hle : (w.claims saleId).amountWei.val ≤ w.totalLiability.val)
    (htotal : w'.totalLiability.val = w.totalLiability.val - (w.claims saleId).amountWei.val)
    (hbalance : w'.balance = w.balance - (w.claims saleId).amountWei.val) : Solvent w' := by
  have hsettled := h.settled saleId (by simp [hc])
  have hcovered := h.covered
  refine h.write saleId (w.sales saleId) { w.claims saleId with status := .withdrawn }
    (by rcases hsettled with h | h <;> simp [h]) (fun _ => hsettled) (by simpa using hsales)
    hclaims hcount ?_ (by omega)
  simp only [PaymentClaim.due, hc, reduceCtorEq, if_false, if_true]
  omega

theorem Solvent.reclaimed_sale (h : Solvent w) {saleId : Uint256}
    (hst : (w.sales saleId).status = .cancelled ∨ (w.sales saleId).status = .expired)
    (hsales : w'.sales = Function.update w.sales saleId
      { w.sales saleId with tokenReclaimed := true })
    (hclaims : w'.claims = w.claims) (hcount : w'.saleCount = w.saleCount)
    (htotal : w'.totalLiability = w.totalLiability) (hbalance : w'.balance = w.balance) :
    Solvent w' := by
  refine h.write saleId { w.sales saleId with tokenReclaimed := true } (w.claims saleId)
    (by rcases hst with h | h <;> simp [h]) (fun hne => h.settled saleId hne) hsales
    (by simpa using hclaims) hcount ?_ ?_
  · simp only [Sale.due, htotal]
  · rw [htotal, hbalance]
    exact h.covered

theorem solvent_completeSale (hreact : ∀ w w', Solvent w → react w = .ok w' → Solvent w')
    {sender : Address} {saleId : Uint256} (h : Solvent w)
    (hw : completeSale d nft react sender saleId w = .ok w') : Solvent w' := by
  obtain ⟨hf, _, _, htransfer, _⟩ := completeSale_ok hw
  refine solvent_nftSafeTransferFrom hreact ?_ htransfer
  exact h.settled_sale hf (.inl rfl) rfl rfl rfl rfl rfl

theorem solvent_cancelSale {sender : Address} {saleId : Uint256} (h : Solvent w)
    (hw : cancelSale sender saleId w = .ok w') : Solvent w' := by
  obtain ⟨hl, _, rfl⟩ := cancelSale_ok hw
  have hnone := h.claim_none (s := saleId) (by simp [hl]) (by simp [hl])
  refine h.write saleId _ (w.claims saleId) (by simp [hl])
    (by simp [hnone]) rfl (by simp [World.setSale, World.emit]) rfl ?_ h.covered
  simp only [Sale.due, hl, reduceCtorEq, if_false]
  rfl

theorem solvent_expireSale {saleId : Uint256} (h : Solvent w)
    (hw : expireSale saleId w = .ok w') : Solvent w' := by
  obtain ⟨hf, _, _, rfl⟩ := expireSale_ok hw
  exact h.settled_sale hf (.inr rfl) rfl rfl rfl rfl rfl

theorem solvent_withdrawPayment (hreact : ∀ w w', Solvent w → react w = .ok w' → Solvent w')
    {sender : Address} {saleId : Uint256} {recipient : Address} (h : Solvent w)
    (hw : withdrawPayment d react sender saleId recipient w = .ok w') : Solvent w' := by
  obtain ⟨hc, _, _, _, total, w₁, hle, ht, _, hr, _, rfl⟩ := withdrawPayment_ok hw
  refine (hreact _ _ ?_ hr).of_eq rfl rfl rfl rfl le_rfl
  exact h.withdrawn_claim hc rfl rfl rfl hle ht rfl

theorem solvent_reclaimToken (hreact : ∀ w w', Solvent w → react w = .ok w' → Solvent w')
    {sender : Address} {saleId : Uint256} {recipient : Address} (h : Solvent w)
    (hw : reclaimToken d nft react sender saleId recipient w = .ok w') : Solvent w' := by
  obtain ⟨_, hst, _, _, _, w₁, htransfer, rfl⟩ := reclaimToken_ok hw
  refine (solvent_nftSafeTransferFrom hreact ?_ htransfer).of_eq rfl rfl rfl rfl le_rfl
  exact h.reclaimed_sale hst rfl rfl rfl rfl rfl

theorem solvent_nonReentrant {body : World S → Except Revert (World S)} {w₀ : World S}
    (hbody : ∀ w', body { w₀ with entered := true } = .ok w' → Solvent w')
    (hw : nonReentrant body w₀ = .ok w') : Solvent w' := by
  obtain ⟨_, w₁, hb, rfl⟩ := nonReentrant_ok hw
  exact (hbody w₁ hb).of_eq rfl rfl rfl rfl le_rfl

theorem solvent_dispatch {sender : Address} {value : Uint256} {message : Message Op}
    (hreact : ∀ w w', Solvent w → react w = .ok w' → Solvent w') (h : Solvent w)
    (hw : dispatch d nft sender value message react w = .ok w') : Solvent w' := by
  have he : Solvent { w with entered := true } := h.of_eq rfl rfl rfl rfl le_rfl
  have hd := dispatch_ok hw
  cases message with
  | createSale tokenId priceWei allowedBuyer =>
    exact solvent_nonReentrant (fun _ hb => solvent_createSale hreact he hb) hd
  | fundSale saleId => exact solvent_nonReentrant (fun _ hb => solvent_fundSale he hb) hd
  | completeSale saleId =>
    exact solvent_nonReentrant (fun _ hb => solvent_completeSale hreact he hb) hd
  | cancelSale saleId => exact solvent_nonReentrant (fun _ hb => solvent_cancelSale he hb) hd
  | expireSale saleId => exact solvent_nonReentrant (fun _ hb => solvent_expireSale he hb) hd
  | withdrawPayment saleId recipient =>
    exact solvent_nonReentrant (fun _ hb => solvent_withdrawPayment hreact he hb) hd
  | reclaimToken saleId recipient =>
    exact solvent_nonReentrant (fun _ hb => solvent_reclaimToken hreact he hb) hd
  | onERC721Received operator src tokenId =>
    obtain ⟨_, _, _, rfl⟩ := onERC721Received_ok hd
    exact h.of_eq rfl rfl rfl rfl le_rfl
  | token op =>
    obtain ⟨r, _, hr⟩ := hd
    exact solvent_applyToken hreact h hr

end Messages

theorem solvent_kept (d : Deployment) (nft : IERC721 S Op) :
    Kept d nft fun w w' => Solvent w → Solvent w' where
  refl := fun _ h => h
  trans := fun _ _ _ h₁ h₂ h => h₂ (h₁ h)
  force := fun _ _ h => h.of_eq rfl rfl rfl rfl (Nat.le_add_right _ _)
  message := fun _ _ _ _ hreact _ _ hw h =>
    solvent_dispatch (fun w w' h hr => hreact w w' hr h) h hw

theorem solvent_run (d : Deployment) (nft : IERC721 S Op) (token : S) (balance timestamp : ℕ)
    (steps : List (Step d Op)) : Solvent (run d nft steps (deployed token balance timestamp)) :=
  run_kept (solvent_kept d nft) (fun _ _ h => h.of_eq rfl rfl rfl rfl le_rfl) steps _
    (solvent_deployed token balance timestamp)

/-- In every state of every run the recorded liability is exactly what funded
sales and open claims are owed, and the balance covers it. The token contract
is arbitrary, and so are callers, arguments, times, forced ether and the
recipients' reactions. -/
theorem escrow_solvency (d : Deployment) (nft : IERC721 S Op) (token : S)
    (balance timestamp : ℕ) (steps : List (Step d Op)) :
    let w := run d nft steps (deployed token balance timestamp)
    w.totalLiability.val =
        ∑ s with (w.sales s).status = .funded, (w.sales s).priceWei.val +
        ∑ s with (w.claims s).status = .claimable, (w.claims s).amountWei.val ∧
      w.totalLiability.val ≤ w.balance := by
  intro w
  have h : Solvent w := solvent_run d nft token balance timestamp steps
  refine ⟨?_, h.covered⟩
  rw [h.liability, Finset.sum_filter, Finset.sum_filter]
  rfl

end MotorCove.Chain
