import MotorCove.Chain.Transactions

/-!
# The logs of a sale tell its record

A sale is logged in the step that writes it, before anyone else is called. What
the logs tell of a sale, from its listing to its settlement, is what its record
says, whatever the token, the recipients and later calls do.
-/

set_option autoImplicit false

namespace MotorCove.Chain

variable {S Op : Type}

def Log.tells? : Log → Option Uint256
  | .saleCreated saleId .. | .saleFunded saleId .. | .saleCompleted saleId ..
  | .saleCancelled saleId .. | .saleExpired saleId .. | .paymentClaimCreated saleId .. =>
    some saleId
  | _ => none

def World.lifecycle (w : World S) (saleId : Uint256) : List Log :=
  w.logs.filter fun log => log.tells? = some saleId

def Sale.lifecycle (saleId : Uint256) (sale : Sale) : List Log :=
  let created := .saleCreated saleId sale.tokenId sale.seller sale.allowedBuyer sale.priceWei
  let funded := .saleFunded saleId sale.buyer sale.priceWei sale.fundedAt sale.expiresAt
  match sale.status with
  | .none => []
  | .listed => [created]
  | .cancelled => [created, .saleCancelled saleId sale.tokenId sale.seller]
  | .funded => [created, funded]
  | .completed => [created, funded, .saleCompleted saleId sale.tokenId sale.buyer,
      .paymentClaimCreated saleId sale.seller sale.priceWei .sellerProceeds]
  | .expired => [created, funded, .saleExpired saleId sale.tokenId sale.buyer,
      .paymentClaimCreated saleId sale.buyer sale.priceWei .buyerRefund]

def SaleStatus.wasFunded (status : SaleStatus) : Prop :=
  status = .funded ∨ status = .completed ∨ status = .expired

structure FundedFor (d : Deployment) (sale : Sale) : Prop where
  buyer : sale.buyer = sale.allowedBuyer
  buyer_ne_zero : sale.buyer ≠ 0
  expiresAt : sale.expiresAt.val = sale.fundedAt.val + d.fundingPeriodSeconds.val

structure Told (d : Deployment) (w : World S) : Prop where
  unlisted : ∀ s, w.saleCount.val < s.val → (w.sales s).status = .none
  lifecycle : ∀ s, w.lifecycle s = (w.sales s).lifecycle s
  funded : ∀ s, (w.sales s).status.wasFunded → FundedFor d (w.sales s)

theorem told_deployed (d : Deployment) (token : S) (balance timestamp : ℕ) :
    Told d (deployed token balance timestamp) where
  unlisted := fun _ _ => rfl
  lifecycle := fun _ => rfl
  funded := by
    rintro s (h | h | h) <;> cases h

section Writes
variable {d : Deployment} {w w' : World S} {saleId : Uint256}

theorem World.lifecycle_append {added : List Log} (hlogs : w'.logs = w.logs ++ added)
    (s : Uint256) :
    w'.lifecycle s = w.lifecycle s ++ added.filter fun log => log.tells? = some s := by
  rw [World.lifecycle, hlogs, List.filter_append]
  rfl

theorem Told.of_eq (h : Told d w) {added : List Log} (hcount : w'.saleCount = w.saleCount)
    (hsales : w'.sales = w.sales) (hlogs : w'.logs = w.logs ++ added)
    (hadded : ∀ log ∈ added, log.tells? = none) : Told d w' where
  unlisted := by
    rw [hcount, hsales]
    exact h.unlisted
  lifecycle := by
    intro s
    have hnone : (added.filter fun log => log.tells? = some s) = [] := by
      rw [List.filter_eq_nil_iff]
      intro log hlog
      simp [hadded log hlog]
    rw [World.lifecycle_append hlogs, hnone, List.append_nil, hsales]
    exact h.lifecycle s
  funded := by
    rw [hsales]
    exact h.funded

theorem Told.same (h : Told d w) (hcount : w'.saleCount = w.saleCount)
    (hsales : w'.sales = w.sales) (hlogs : w'.logs = w.logs) : Told d w' :=
  h.of_eq hcount hsales (hlogs.trans (List.append_nil _).symm)
    fun _ hlog => absurd hlog List.not_mem_nil

variable (saleId) in
theorem Told.write (h : Told d w) {sale : Sale} {added : List Log}
    (hunlisted : ∀ s : Uint256, w'.saleCount.val < s.val → w.saleCount.val < s.val ∧ s ≠ saleId)
    (hsales : w'.sales = Function.update w.sales saleId sale)
    (hlogs : w'.logs = w.logs ++ added) (hadded : ∀ log ∈ added, log.tells? = some saleId)
    (htells : sale.lifecycle saleId = (w.sales saleId).lifecycle saleId ++ added)
    (hfunded : sale.status.wasFunded → FundedFor d sale) : Told d w' where
  unlisted := by
    intro s hlt
    obtain ⟨hlt, hne⟩ := hunlisted s hlt
    rw [hsales, Function.update_of_ne hne]
    exact h.unlisted s hlt
  lifecycle := by
    intro s
    rw [World.lifecycle_append hlogs, hsales, h.lifecycle s]
    by_cases hs : s = saleId
    · have hall : (added.filter fun log => log.tells? = some s) = added := by
        rw [List.filter_eq_self]
        intro log hlog
        simp [hadded log hlog, hs]
      rw [hall, hs, Function.update_self, htells]
    · have hnone : (added.filter fun log => log.tells? = some s) = [] := by
        rw [List.filter_eq_nil_iff]
        intro log hlog
        simp [hadded log hlog, Ne.symm hs]
      rw [hnone, List.append_nil, Function.update_of_ne hs]
  funded := by
    intro s
    rw [hsales]
    by_cases hs : s = saleId
    · rw [hs, Function.update_self]
      exact hfunded
    · rw [Function.update_of_ne hs]
      exact h.funded s

theorem Told.ne_of_lt (h : Told d w) (hold : (w.sales saleId).status ≠ .none) {s : Uint256}
    (hlt : w.saleCount.val < s.val) : w.saleCount.val < s.val ∧ s ≠ saleId := by
  refine ⟨hlt, ?_⟩
  rintro rfl
  exact hold (h.unlisted s hlt)

end Writes

section Messages
variable {d : Deployment} {nft : IERC721 S Op} {react : React S} {w w' : World S}

theorem Told.emit (h : Told d w) {log : Log} (hlog : log.tells? = none) : Told d (w.emit log) :=
  h.of_eq rfl rfl rfl fun _ hmem => List.mem_singleton.mp hmem ▸ hlog

theorem told_applyToken (hreact : ∀ w w', Told d w → react w = .ok w' → Told d w')
    {r : TokenResult S} (h : Told d w) (hw : applyToken d react r w = .ok w') : Told d w' := by
  have hmoved : Told d
      { w with token := r.state, logs := w.logs ++ r.transfers.map .transfer } := by
    refine h.of_eq rfl rfl rfl fun log hlog => ?_
    obtain ⟨t, _, rfl⟩ := List.mem_map.mp hlog
    rfl
  rcases applyToken_ok hw with ⟨_, rfl⟩ | ⟨_, _, _, _, _, rfl⟩ | ⟨_, _, _, hr⟩
  · exact hmoved
  · exact hmoved.same rfl rfl rfl
  · exact hreact _ _ hmoved hr

theorem told_nftSafeTransferFrom (hreact : ∀ w w', Told d w → react w = .ok w' → Told d w')
    {src dst : Address} {tokenId : Uint256} (h : Told d w)
    (hw : nftSafeTransferFrom d nft react src dst tokenId w = .ok w') : Told d w' := by
  obtain ⟨_, _, happly⟩ := nftSafeTransferFrom_ok hw
  exact told_applyToken hreact h happly

theorem told_createSale (hreact : ∀ w w', Told d w → react w = .ok w' → Told d w')
    {sender : Address} {tokenId priceWei : Uint256} {allowedBuyer : Address} (h : Told d w)
    (hw : createSale d nft react sender tokenId priceWei allowedBuyer w = .ok w') :
    Told d w' := by
  obtain ⟨_, _, _, _, _, w₁, saleId, htransfer, _, hid, rfl⟩ := createSale_ok hw
  have hpending : Told d { w with pendingReceipt := ⟨sender, tokenId, true⟩ } := h.same rfl rfl rfl
  have h₁ := told_nftSafeTransferFrom hreact hpending htransfer
  have hnone : (w₁.sales saleId).status = .none := h₁.unlisted saleId (by omega)
  refine h₁.write saleId ?_ rfl rfl ?_ ?_ ?_
  · intro s hlt
    change saleId.val < s.val at hlt
    refine ⟨by omega, ?_⟩
    rintro rfl
    exact lt_irrefl _ hlt
  · intro log hlog
    rw [List.mem_singleton.mp hlog]
    rfl
  · rw [Sale.lifecycle, Sale.lifecycle, hnone]
    rfl
  · rintro (hs | hs | hs) <;> cases hs

theorem told_fundSale {sender : Address} {value saleId : Uint256} (hsender : sender ≠ 0)
    (h : Told d w) (hw : fundSale d sender value saleId w = .ok w') : Told d w' := by
  obtain ⟨hlisted, _, hbuyer, hprice, expiresAt, _, hexpires, _, _, rfl⟩ := fundSale_ok hw
  refine h.write saleId (fun s => h.ne_of_lt (by simp [hlisted])) rfl rfl ?_ ?_ ?_
  · intro log hlog
    rw [List.mem_singleton.mp hlog]
    rfl
  · rw [Sale.lifecycle, Sale.lifecycle, hlisted, hprice]
    rfl
  · intro _
    exact ⟨hbuyer, hsender, hexpires⟩

theorem Told.settle (h : Told d w) {saleId : Uint256} {status : SaleStatus}
    {settled : Log} {beneficiary : Address} {kind : ClaimKind}
    (hfunded : (w.sales saleId).status = .funded) (hcount : w'.saleCount = w.saleCount)
    (hsales : w'.sales = Function.update w.sales saleId { w.sales saleId with status })
    (hlogs : w'.logs = w.logs ++ [settled, .paymentClaimCreated saleId beneficiary
      (w.sales saleId).priceWei kind])
    (hsettled : status = .completed ∧
        settled = .saleCompleted saleId (w.sales saleId).tokenId (w.sales saleId).buyer ∧
        beneficiary = (w.sales saleId).seller ∧ kind = .sellerProceeds ∨
      status = .expired ∧
        settled = .saleExpired saleId (w.sales saleId).tokenId (w.sales saleId).buyer ∧
        beneficiary = (w.sales saleId).buyer ∧ kind = .buyerRefund) : Told d w' := by
  have hfor := h.funded saleId (.inl hfunded)
  refine h.write saleId (fun s hlt => ?_) hsales hlogs ?_ ?_ fun _ =>
    ⟨hfor.buyer, hfor.buyer_ne_zero, hfor.expiresAt⟩
  · rw [hcount] at hlt
    exact h.ne_of_lt (by simp [hfunded]) hlt
  · intro log hlog
    rcases List.mem_pair.mp hlog with rfl | rfl
    · rcases hsettled with ⟨_, rfl, _⟩ | ⟨_, rfl, _⟩
      · rfl
      · rfl
    · rfl
  · rcases hsettled with ⟨rfl, rfl, rfl, rfl⟩ | ⟨rfl, rfl, rfl, rfl⟩
    · rw [Sale.lifecycle, Sale.lifecycle, hfunded]
      rfl
    · rw [Sale.lifecycle, Sale.lifecycle, hfunded]
      rfl

theorem told_completeSale (hreact : ∀ w w', Told d w → react w = .ok w' → Told d w')
    {sender : Address} {saleId : Uint256} (h : Told d w)
    (hw : completeSale d nft react sender saleId w = .ok w') : Told d w' := by
  obtain ⟨hfunded, _, _, htransfer, _⟩ := completeSale_ok hw
  refine told_nftSafeTransferFrom hreact ?_ htransfer
  exact h.settle hfunded rfl rfl (List.append_assoc _ _ _) (.inl ⟨rfl, rfl, rfl, rfl⟩)

theorem told_cancelSale {sender : Address} {saleId : Uint256} (h : Told d w)
    (hw : cancelSale sender saleId w = .ok w') : Told d w' := by
  obtain ⟨hlisted, _, rfl⟩ := cancelSale_ok hw
  refine h.write saleId (fun s => h.ne_of_lt (by simp [hlisted])) rfl rfl ?_ ?_ ?_
  · intro log hlog
    rw [List.mem_singleton.mp hlog]
    rfl
  · rw [Sale.lifecycle, Sale.lifecycle, hlisted]
    rfl
  · rintro (hs | hs | hs) <;> cases hs

theorem told_expireSale {saleId : Uint256} (h : Told d w) (hw : expireSale saleId w = .ok w') :
    Told d w' := by
  obtain ⟨hfunded, _, _, rfl⟩ := expireSale_ok hw
  exact h.settle hfunded rfl rfl (List.append_assoc _ _ _) (.inr ⟨rfl, rfl, rfl, rfl⟩)

theorem told_withdrawPayment (hreact : ∀ w w', Told d w → react w = .ok w' → Told d w')
    {sender : Address} {saleId : Uint256} {recipient : Address} (h : Told d w)
    (hw : withdrawPayment d react sender saleId recipient w = .ok w') : Told d w' := by
  obtain ⟨_, _, _, _, _, w₁, _, _, _, hr, _, rfl⟩ := withdrawPayment_ok hw
  refine Told.emit (hreact _ _ ?_ hr) rfl
  exact h.same rfl rfl rfl

theorem told_reclaimToken (hreact : ∀ w w', Told d w → react w = .ok w' → Told d w')
    {sender : Address} {saleId : Uint256} {recipient : Address} (h : Told d w)
    (hw : reclaimToken d nft react sender saleId recipient w = .ok w') : Told d w' := by
  obtain ⟨_, hstatus, _, _, _, w₁, htransfer, rfl⟩ := reclaimToken_ok hw
  have hold : (w.sales saleId).status ≠ .none := by
    rcases hstatus with hs | hs <;> simp [hs]
  refine Told.emit (told_nftSafeTransferFrom hreact ?_ htransfer) rfl
  refine h.write saleId (fun s => h.ne_of_lt hold) rfl (List.append_nil _).symm
    (fun _ hlog => absurd hlog List.not_mem_nil) (List.append_nil _).symm fun hwas => ?_
  have hfor := h.funded saleId hwas
  exact ⟨hfor.buyer, hfor.buyer_ne_zero, hfor.expiresAt⟩

theorem told_nonReentrant {body : World S → Except Revert (World S)} {w₀ : World S}
    (hbody : ∀ w', body { w₀ with entered := true } = .ok w' → Told d w')
    (hw : nonReentrant body w₀ = .ok w') : Told d w' := by
  obtain ⟨_, w₁, hb, rfl⟩ := nonReentrant_ok hw
  exact (hbody w₁ hb).same rfl rfl rfl

theorem told_dispatch {sender : Address} {value : Uint256} {message : Message Op}
    (hsender : sender ≠ 0) (hreact : ∀ w w', Told d w → react w = .ok w' → Told d w')
    (h : Told d w) (hw : dispatch d nft sender value message react w = .ok w') : Told d w' := by
  have he : Told d { w with entered := true } := h.same rfl rfl rfl
  have hpaid : Told d { w with balance := w.balance + value.val, entered := true } :=
    h.same rfl rfl rfl
  have hd := dispatch_ok hw
  cases message with
  | createSale tokenId priceWei allowedBuyer =>
    exact told_nonReentrant (fun _ hb => told_createSale hreact he hb) hd
  | fundSale saleId => exact told_nonReentrant (fun _ hb => told_fundSale hsender hpaid hb) hd
  | completeSale saleId => exact told_nonReentrant (fun _ hb => told_completeSale hreact he hb) hd
  | cancelSale saleId => exact told_nonReentrant (fun _ hb => told_cancelSale he hb) hd
  | expireSale saleId => exact told_nonReentrant (fun _ hb => told_expireSale he hb) hd
  | withdrawPayment saleId recipient =>
    exact told_nonReentrant (fun _ hb => told_withdrawPayment hreact he hb) hd
  | reclaimToken saleId recipient =>
    exact told_nonReentrant (fun _ hb => told_reclaimToken hreact he hb) hd
  | onERC721Received operator src tokenId =>
    obtain ⟨_, _, _, rfl⟩ := onERC721Received_ok hd
    exact h.same rfl rfl rfl
  | token op =>
    obtain ⟨r, _, hr⟩ := hd
    exact told_applyToken hreact h hr

end Messages

theorem told_run (d : Deployment) (nft : IERC721 S Op) (token : S) (balance timestamp : ℕ)
    (steps : List (Step d Op)) : Told d (run d nft steps (deployed token balance timestamp)) :=
  run_invariant (Told d) (fun _ _ h => h.same rfl rfl rfl) (fun _ _ h => h.same rfl rfl rfl)
    (fun sender _ _ _ hreact _ _ h hw => told_dispatch sender.ne_zero hreact h hw)
    steps _ (told_deployed d token balance timestamp)

/-- In every state of every run, over any token and any recipients, the logs of a
sale are exactly those that lead to its record, each once and in order; a sale
that was funded was funded by its allowed buyer, for the funding period. -/
theorem sale_lifecycle_logged (d : Deployment) (nft : IERC721 S Op) (token : S)
    (balance timestamp : ℕ) (steps : List (Step d Op)) (saleId : Uint256) :
    let w := run d nft steps (deployed token balance timestamp)
    (w.logs.filter fun log => log.tells? = some saleId) = (w.sales saleId).lifecycle saleId ∧
      ((w.sales saleId).status.wasFunded → FundedFor d (w.sales saleId)) := by
  have htold := told_run d nft token balance timestamp steps
  exact ⟨htold.lifecycle saleId, htold.funded saleId⟩

/-- A sale that was funded in this way, and at most settled since. -/
structure FundedAs (sale : Sale) (buyer : Address) (amountWei : Uint256)
    (fundedAt expiresAt : Uint64) : Prop where
  status : sale.status.wasFunded
  buyer_ne_zero : buyer ≠ 0
  buyer : sale.buyer = buyer
  priceWei : sale.priceWei = amountWei
  fundedAt : sale.fundedAt = fundedAt
  expiresAt : sale.expiresAt = expiresAt

theorem FundedAs.listed {sale : Sale} {buyer : Address} {amountWei : Uint256}
    {fundedAt expiresAt : Uint64} (h : FundedAs sale buyer amountWei fundedAt expiresAt) :
    sale.status ≠ .none := by
  rcases h.status with hs | hs | hs <;> simp [hs]

theorem Told.fundedAs {d : Deployment} {w : World S} (h : Told d w) {saleId amountWei : Uint256}
    {buyer : Address} {fundedAt expiresAt : Uint64}
    (hlog : Log.saleFunded saleId buyer amountWei fundedAt expiresAt ∈ w.logs) :
    FundedAs (w.sales saleId) buyer amountWei fundedAt expiresAt := by
  have hmem : Log.saleFunded saleId buyer amountWei fundedAt expiresAt ∈ w.lifecycle saleId :=
    List.mem_filter.mpr ⟨hlog, by simp [Log.tells?]⟩
  rw [h.lifecycle saleId] at hmem
  have hsale : (w.sales saleId).status.wasFunded ∧ buyer = (w.sales saleId).buyer ∧
      amountWei = (w.sales saleId).priceWei ∧ fundedAt = (w.sales saleId).fundedAt ∧
        expiresAt = (w.sales saleId).expiresAt := by
    cases hstatus : (w.sales saleId).status <;>
      simp_all [Sale.lifecycle, SaleStatus.wasFunded]
  obtain ⟨hwas, rfl, rfl, rfl, rfl⟩ := hsale
  exact ⟨hwas, (h.funded saleId hwas).buyer_ne_zero, rfl, rfl, rfl, rfl⟩

end MotorCove.Chain
