import Mathlib.Algebra.Order.BigOperators.Group.Finset
import MotorCove.Chain.Custody
import MotorCove.Chain.Fairness
import MotorCove.Chain.LiabilityCheck

/-!
# Escrowed value is never locked

In every reachable state the guards of settlement, withdrawal and reclaim let
the right caller through: solvency makes the payments and the liability check
pass, custody makes the token transfers pass. A call that goes through delivers
what it is for before the recipient acts, and the recipient cannot undo it.
What a recipient rejects changes nothing, so every alternative stays open.
-/

set_option autoImplicit false

namespace MotorCove.Chain
open MotorCove.Fallible MotorCove.Histories

section Parties
variable {S Op : Type} {d : Deployment} {nft : IERC721 S Op}

def IsParty.caller {a : Address} (h : IsParty d a) : Caller d :=
  ⟨a, h.ne_zero, h.ne_escrow, h.ne_nft⟩

/-- The seller, the buyer and the beneficiary of a sale are accounts that can call. -/
structure Parties (d : Deployment) (sale : Sale) (claim : PaymentClaim) : Prop where
  seller : sale.status ≠ .none → IsParty d sale.seller
  buyer : sale.status = .funded ∨ sale.status = .completed ∨ sale.status = .expired →
    IsParty d sale.buyer
  beneficiary : claim.status ≠ .none → IsParty d claim.beneficiary

theorem saleStep_parties {s : Uint256} {w : World (Recorded S Op)} {entries : List (Entry Op)}
    {sale : Sale} {claim : PaymentClaim} (h : Parties d (w.sales s) (w.claims s))
    (hstep : SaleStep d s w entries sale claim) : Parties d sale claim := by
  cases hstep with
  | listed _ hseller _ _ => exact ⟨fun _ => hseller, by simp, h.beneficiary⟩
  | accepted hsender hstatus _ _ _ =>
    exact ⟨fun _ => h.seller (by simp [hstatus]), fun _ => hsender, h.beneficiary⟩
  | completed hstatus _ =>
    have hseller := h.seller (by simp [hstatus])
    exact ⟨fun _ => hseller, fun _ => h.buyer (.inl hstatus), fun _ => hseller⟩
  | cancelled hstatus =>
    exact ⟨fun _ => h.seller (by simp [hstatus]), by simp, h.beneficiary⟩
  | expired hstatus =>
    have hbuyer := h.buyer (.inl hstatus)
    exact ⟨fun _ => h.seller (by simp [hstatus]), fun _ => hbuyer, fun _ => hbuyer⟩
  | paid hstatus _ => exact ⟨h.seller, h.buyer, fun _ => h.beneficiary (by simp [hstatus])⟩
  | reclaimed _ _ _ => exact ⟨h.seller, h.buyer, h.beneficiary⟩
  | untouched _ => exact h

variable (d nft) in
theorem parties_run (token : S) (balance timestamp : ℕ) (steps : List (Step d Op)) (s : Uint256) :
    let w := run d nft steps (deployed token balance timestamp)
    Parties d (w.sales s) (w.claims s) := by
  have h := (reaches_run d nft steps (deployed ⟨token, []⟩ balance timestamp)).invariant
    (P := fun w => Unlisted w ∧ ∀ s, Parties d (w.sales s) (w.claims s))
    (fun _ _ _ hw hmoved => ⟨moved_unlisted hmoved hw.1,
      fun s => saleStep_parties (hw.2 s) (moved_saleStep hw.1 hmoved s)⟩)
    ⟨fun _ _ => rfl, fun s => ⟨fun h => absurd rfl h, by simp [deployed, noSale],
      fun h => absurd rfl h⟩⟩
  have hforget := runRecorded_forget d nft steps (deployed ⟨token, []⟩ balance timestamp)
  intro w
  have hw : w = (runRecorded d nft steps (deployed ⟨token, []⟩ balance timestamp)).forget :=
    hforget.symm
  rw [hw]
  exact h.2 s

theorem entered_kept (d : Deployment) (nft : IERC721 S Op) :
    Kept d nft fun w w' => w'.entered = w.entered where
  refl := fun _ => rfl
  trans := fun _ _ _ h h' => h'.trans h
  force := fun _ _ => rfl
  message := by
    intro sender value message react hreact w w' hw
    have hguard : ∀ {body : World S → Except Revert (World S)} (w₀ : World S),
        w₀.entered = w.entered → nonReentrant body w₀ = .ok w' → w'.entered = w.entered := by
      intro body w₀ hw₀ hbody
      obtain ⟨hfree, _, _, rfl⟩ := nonReentrant_ok hbody
      exact hfree.symm.trans hw₀
    have hd := dispatch_ok hw
    cases message with
    | onERC721Received operator src tokenId =>
      obtain ⟨_, _, _, rfl⟩ := onERC721Received_ok hd
      rfl
    | token op =>
      obtain ⟨r, _, hr⟩ := hd
      rcases applyToken_ok hr with ⟨_, rfl⟩ | ⟨_, _, _, _, _, rfl⟩ | ⟨_, _, _, hr⟩
      · rfl
      · rfl
      · have h := hreact _ _ hr
        exact h
    | createSale tokenId priceWei allowedBuyer => exact hguard _ rfl hd
    | fundSale saleId =>
      exact hguard { w with balance := w.balance + value.val } rfl hd
    | completeSale saleId => exact hguard _ rfl hd
    | cancelSale saleId => exact hguard _ rfl hd
    | expireSale saleId => exact hguard _ rfl hd
    | withdrawPayment saleId recipient => exact hguard _ rfl hd
    | reclaimToken saleId recipient => exact hguard _ rfl hd

variable (d nft) in
theorem entered_run (token : S) (balance timestamp : ℕ) (steps : List (Step d Op)) :
    (run d nft steps (deployed token balance timestamp)).entered = false :=
  run_kept (entered_kept d nft) (fun _ _ => rfl) steps _

/-- What nothing changes while a guarded call is running. -/
structure Frozen (w w' : World S) : Prop where
  sales : w'.sales = w.sales
  claims : w'.claims = w.claims
  custodySaleId : w'.custodySaleId = w.custodySaleId
  totalLiability : w'.totalLiability = w.totalLiability

theorem Frozen.refl (w : World S) : Frozen w w := ⟨rfl, rfl, rfl, rfl⟩

theorem Frozen.trans {w w₁ w₂ : World S} (h : Frozen w w₁) (h' : Frozen w₁ w₂) : Frozen w w₂ :=
  ⟨h'.sales.trans h.sales, h'.claims.trans h.claims, h'.custodySaleId.trans h.custodySaleId,
    h'.totalLiability.trans h.totalLiability⟩

theorem frozen_kept (d : Deployment) (nft : IERC721 S Op) :
    Kept d nft fun w w' => w.entered = true → w'.entered = true ∧ Frozen w w' where
  refl := fun w h => ⟨h, .refl w⟩
  trans := by
    intro w w₁ w₂ h h' hentered
    obtain ⟨hentered₁, hfrozen⟩ := h hentered
    obtain ⟨hentered₂, hfrozen'⟩ := h' hentered₁
    exact ⟨hentered₂, hfrozen.trans hfrozen'⟩
  force := fun _ _ h => ⟨h, rfl, rfl, rfl, rfl⟩
  message := by
    intro sender value message react hreact w w' hw hentered
    have hguard : ∀ {body : World S → Except Revert (World S)} (w₀ : World S),
        w₀.entered = w.entered → nonReentrant body w₀ = .ok w' → False := by
      intro body w₀ hw₀ hbody
      obtain ⟨hfree, _⟩ := nonReentrant_ok hbody
      rw [hw₀, hentered] at hfree
      cases hfree
    have hd := dispatch_ok hw
    cases message with
    | onERC721Received operator src tokenId =>
      obtain ⟨_, _, _, rfl⟩ := onERC721Received_ok hd
      exact ⟨hentered, rfl, rfl, rfl, rfl⟩
    | token op =>
      obtain ⟨r, _, hr⟩ := hd
      rcases applyToken_ok hr with ⟨_, rfl⟩ | ⟨_, _, _, _, _, rfl⟩ | ⟨_, _, _, hr⟩
      · exact ⟨hentered, rfl, rfl, rfl, rfl⟩
      · exact ⟨hentered, rfl, rfl, rfl, rfl⟩
      · obtain ⟨hentered', hfrozen⟩ := hreact _ _ hr hentered
        exact ⟨hentered', hfrozen.sales, hfrozen.claims, hfrozen.custodySaleId,
          hfrozen.totalLiability⟩
    | createSale tokenId priceWei allowedBuyer => exact (hguard _ rfl hd).elim
    | fundSale saleId =>
      exact (hguard { w with balance := w.balance + value.val } rfl hd).elim
    | completeSale saleId => exact (hguard _ rfl hd).elim
    | cancelSale saleId => exact (hguard _ rfl hd).elim
    | expireSale saleId => exact (hguard _ rfl hd).elim
    | withdrawPayment saleId recipient => exact (hguard _ rfl hd).elim
    | reclaimToken saleId recipient => exact (hguard _ rfl hd).elim

theorem frozen_reaction (reaction : List (Call d Op)) {w : World S} (h : w.entered = true) :
    Frozen w (execAll d nft reaction w) :=
  (execAll_kept (frozen_kept d nft) reaction w h).2

end Parties

section Enabled
variable {S Op : Type} {d : Deployment} {nft : IERC721 S Op}

/-- A recipient that accepts, after calls that keep the escrow solvent. -/
def Accepting (react : React S) : Prop := ∀ w, Solvent w → ∃ w', react w = .ok w' ∧ Solvent w'

theorem respond_accepting (reaction : List (Call d Op)) :
    Accepting (respond true fun w => execAll d nft reaction w) :=
  fun w hw => ⟨_, rfl, execAll_kept (solvent_kept d nft) reaction w hw⟩

def Succeeds (d : Deployment) (nft : IERC721 S Op) (c : Call d Op) (w : World S) : Prop :=
  ∃ w', exec d nft c w = .ok w'

/-- The call goes through and leaves a world as `P` says. -/
def Achieves (d : Deployment) (nft : IERC721 S Op) (c : Call d Op) (w : World S)
    (P : World S → Prop) : Prop :=
  ∃ w', exec d nft c w = .ok w' ∧ P w'

theorem Succeeds.achieves {c : Call d Op} {w : World S} {P : World S → Prop}
    (h : Succeeds d nft c w) (hP : ∀ w', exec d nft c w = .ok w' → P w') :
    Achieves d nft c w P := by
  obtain ⟨w', hw'⟩ := h
  exact ⟨w', hw', hP w' hw'⟩

/-- Outside a call, an entry point that takes no ether returns iff its body does. -/
theorem succeeds_iff {sender : Caller d} {message : Message Op} {accepts : Bool}
    {reaction : List (Call d Op)} {w : World S} (body : React S → World S → Except Revert (World S))
    (hfree : w.entered = false)
    (hbody : ∀ react, dispatch d nft sender.address 0 message react w = nonReentrant (body react) w) :
    Succeeds d nft (.call sender 0 message accepts reaction) w ↔
      ∃ w₁, body (respond accepts fun w => execAll d nft reaction w)
        { w with entered := true } = .ok w₁ := by
  simp only [Succeeds, exec, hbody]
  constructor
  · rintro ⟨_, h⟩
    obtain ⟨_, w₁, h, _⟩ := nonReentrant_ok h
    exact ⟨w₁, h⟩
  · rintro ⟨w₁, h⟩
    refine ⟨{ w₁ with entered := false }, ?_⟩
    rw [nonReentrant, failIf_neg _ (by simp [hfree]), ok_bind, h, ok_bind]

theorem expireSale_enabled {w : World S} {saleId : Uint256} (h : Solvent w)
    (hf : (w.sales saleId).status = .funded) :
    (∃ w', expireSale saleId w = .ok w') ↔ (w.sales saleId).expiresAt.val ≤ w.timestamp := by
  constructor
  · rintro ⟨w', hw⟩
    exact (expireSale_ok hw).2.1
  · intro ht
    refine exists_ok fun e he => ?_
    have hcovered := Nat.not_lt.mpr h.covered
    simp [expireSale, requireState, checkLiability, World.setSale, World.setClaim, World.emit,
      bind_error, hf, Nat.not_lt.mpr ht, hcovered] at he

/-- The payment is covered, and the recipient's calls leave the balance covered. -/
theorem withdrawPayment_enabled {react : React S} (hreact : Accepting react) {w : World S}
    {saleId : Uint256} {recipient : Address} (h : Solvent w)
    (hc : (w.claims saleId).status = .claimable) (h0 : recipient ≠ 0) (he : recipient ≠ d.escrow) :
    ∃ w', withdrawPayment d react (w.claims saleId).beneficiary saleId recipient w = .ok w' := by
  have hdue : (w.claims saleId).amountWei.val ≤ w.totalLiability.val := by
    have hterm : (w.claims saleId).due ≤ ∑ s, (w.claims s).due :=
      Finset.single_le_sum (f := fun s => (w.claims s).due) (fun _ _ => Nat.zero_le _)
        (Finset.mem_univ saleId)
    rw [PaymentClaim.due, if_pos hc] at hterm
    rw [h.liability, obligations]
    omega
  obtain ⟨total, htotal⟩ : ∃ total, checkedSub w.totalLiability (w.claims saleId).amountWei =
      .ok total := ⟨_, if_pos hdue⟩
  have hval := (checkedSub_ok.mp htotal).2
  have hpaid : Solvent (({ w with
      totalLiability := total
      balance := w.balance - (w.claims saleId).amountWei.val
      payments := w.payments ++ [(recipient, (w.claims saleId).amountWei)] }).setClaim saleId
        { w.claims saleId with status := .withdrawn }) :=
    h.withdrawn_claim hc rfl rfl rfl hdue hval rfl
  obtain ⟨w₁, hr, h₁⟩ := hreact _ hpaid
  have hpay := (pay_ok (w := ({ w with totalLiability := total }).setClaim saleId
    { w.claims saleId with status := .withdrawn })).mpr ⟨le_trans hdue h.covered, hr⟩
  refine exists_ok fun e hfail => ?_
  have hcovered := Nat.not_lt.mpr h₁.covered
  simp [withdrawPayment, checkLiability, World.emit, bind_error, hc, h0, he, htotal, hpay,
    hcovered] at hfail

end Enabled

section Delivery
variable {d : Deployment} {react : React VehicleNFT} {w : World VehicleNFT}

/-- The escrow moves its own token out: it is the owner, and the veto is only for others. -/
theorem VehicleNFT.safeTransferFrom_owner {v : VehicleNFT} {dst : Address} {t : Uint256}
    (hb : v.motorCoveEscrow = d.escrow) (ho : v.owners t = d.escrow) (h0 : dst ≠ 0) :
    v.safeTransferFrom d.escrow d.escrow dst t =
      .ok ⟨v.moved dst t, [⟨d.escrow, dst, t⟩], some ⟨d.escrow, d.escrow, dst, t⟩⟩ := by
  have hne := d.escrow_ne_zero
  simp [VehicleNFT.safeTransferFrom, VehicleNFT.transferFrom, VehicleNFT.update,
    VehicleNFT.baseUpdate, VehicleNFT.checkAuthorized, VehicleNFT.isAuthorized, VehicleNFT.moved,
    failIf, h0, hb, ho, hne]

theorem delivers (hreact : Accepting react) (h : Solvent w) {dst : Address} {t : Uint256}
    (hb : w.token.motorCoveEscrow = d.escrow) (ho : w.token.owners t = d.escrow) (h0 : dst ≠ 0)
    (hd : dst ≠ d.escrow) :
    ∃ w', nftSafeTransferFrom d vehicleNFT react d.escrow dst t w = .ok w' ∧ Solvent w' := by
  obtain ⟨w', hr, hw'⟩ := hreact { w with
    token := w.token.moved dst t
    logs := w.logs ++ [.transfer ⟨d.escrow, dst, t⟩] } (h.of_eq rfl rfl rfl rfl le_rfl)
  have hsend : vehicleNFT.safeTransferFrom d.escrow d.escrow dst t w.token = _ :=
    VehicleNFT.safeTransferFrom_owner hb ho h0
  refine ⟨w', ?_, hw'⟩
  rw [nftSafeTransferFrom, hsend, ok_bind, applyToken]
  simp only [hd, if_false]
  exact hr

theorem completeSale_enabled (hreact : Accepting react) (h : Solvent w)
    (hb : w.token.motorCoveEscrow = d.escrow) {saleId : Uint256}
    (hf : (w.sales saleId).status = .funded) (hbuyer : IsParty d (w.sales saleId).buyer)
    (hheld : w.token.owners (w.sales saleId).tokenId = d.escrow) :
    (∃ w', completeSale d vehicleNFT react (w.sales saleId).buyer saleId w = .ok w') ↔
      w.timestamp < (w.sales saleId).expiresAt.val := by
  constructor
  · rintro ⟨w', hw⟩
    exact (completeSale_ok hw).2.2.1
  · intro ht
    obtain ⟨w', hw, h'⟩ := delivers hreact (w := ((((w.setSale saleId
      { w.sales saleId with status := .completed }).setCustody (w.sales saleId).tokenId 0).setClaim
        saleId ⟨(w.sales saleId).seller, (w.sales saleId).priceWei, .sellerProceeds, .claimable⟩).emit
          (.saleCompleted saleId (w.sales saleId).tokenId (w.sales saleId).buyer)).emit
            (.paymentClaimCreated saleId (w.sales saleId).seller (w.sales saleId).priceWei
              .sellerProceeds))
      (h.settled_sale hf (.inl rfl) rfl rfl rfl rfl rfl) hb hheld hbuyer.ne_zero hbuyer.ne_escrow
    have hcovered := Nat.not_lt.mpr h'.covered
    refine exists_ok fun e he => ?_
    simp [completeSale, requireState, checkLiability, bind_error, hf, Nat.not_le.mpr ht, hw,
      hcovered] at he

theorem reclaimToken_enabled (hreact : Accepting react) (h : Solvent w)
    (hb : w.token.motorCoveEscrow = d.escrow) {saleId : Uint256}
    (hst : (w.sales saleId).status = .cancelled ∨ (w.sales saleId).status = .expired)
    (hrec : (w.sales saleId).tokenReclaimed = false)
    (hheld : w.token.owners (w.sales saleId).tokenId = d.escrow) {recipient : Address}
    (h0 : recipient ≠ 0) (hd : recipient ≠ d.escrow) :
    ∃ w', reclaimToken d vehicleNFT react (w.sales saleId).seller saleId recipient w = .ok w' := by
  obtain ⟨w', hw, _⟩ := delivers hreact (w := (w.setSale saleId
    { w.sales saleId with tokenReclaimed := true }).setCustody (w.sales saleId).tokenId 0)
    (h.reclaimed_sale hst rfl rfl rfl rfl rfl) hb hheld h0 hd
  refine exists_ok fun e he => ?_
  simp [reclaimToken, bind_error, hrec, h0, hd, hw] at he
  rcases hst with hst | hst <;> simp [hst] at he

end Delivery

section Effects
variable {d : Deployment} {reaction : List (Call d VehicleOp)} {w w' : World VehicleNFT}
variable {s : Uint256}

/-- The token was the buyer's in `given`, where the buyer's calls ran, and the
seller's claim to the price stands after them. -/
structure Completed (d : Deployment) (reaction : List (Call d VehicleOp)) (s : Uint256)
    (w given w' : World VehicleNFT) : Prop where
  owner : given.token.owners (w.sales s).tokenId = (w.sales s).buyer
  reached : w' = { execAll d vehicleNFT reaction given with entered := false }
  sale : w'.sales s = { w.sales s with status := .completed }
  claim : w'.claims s =
    ⟨(w.sales s).seller, (w.sales s).priceWei, .sellerProceeds, .claimable⟩

structure Expired (s : Uint256) (w w' : World VehicleNFT) : Prop where
  sale : w'.sales s = { w.sales s with status := .expired }
  claim : w'.claims s = ⟨(w.sales s).buyer, (w.sales s).priceWei, .buyerRefund, .claimable⟩
  token : w'.token = w.token
  balance : w'.balance = w.balance

/-- The amount had left the escrow for the recipient in `paid`, where the
recipient's calls ran, and the claim stays closed after them. -/
structure Withdrawn (d : Deployment) (reaction : List (Call d VehicleOp)) (s : Uint256)
    (recipient : Address) (w paid w' : World VehicleNFT) : Prop where
  balance : paid.balance + (w.claims s).amountWei.val = w.balance
  payment : paid.payments = w.payments ++ [(recipient, (w.claims s).amountWei)]
  reached : w' = { (execAll d vehicleNFT reaction paid).emit (.paymentWithdrawn s
    (w.claims s).beneficiary recipient (w.claims s).amountWei (w.claims s).kind) with
      entered := false }
  claim : w'.claims s = { w.claims s with status := .withdrawn }
  liability : w'.totalLiability.val + (w.claims s).amountWei.val = w.totalLiability.val

/-- The token was the recipient's in `given`, where its calls ran, and the
escrow lists it for no sale after them. -/
structure Returned (d : Deployment) (reaction : List (Call d VehicleOp)) (s : Uint256)
    (recipient : Address) (w given w' : World VehicleNFT) : Prop where
  owner : given.token.owners (w.sales s).tokenId = recipient
  reached : w' = { (execAll d vehicleNFT reaction given).emit (.tokenReclaimed s
    (w.sales s).tokenId recipient) with entered := false }
  sale : w'.sales s = { w.sales s with tokenReclaimed := true }
  custody : w'.custodySaleId (w.sales s).tokenId = 0

/-- A token the escrow sent out was there before the recipient's calls ran, and
these change no sale while the escrow waits for them. -/
theorem sent_of_ok {src dst : Address} {tokenId : Uint256} {accepts : Bool}
    (hd : dst ≠ d.escrow) (hentered : w.entered = true)
    (h : nftSafeTransferFrom d vehicleNFT (respond accepts fun w => execAll d vehicleNFT reaction w)
      src dst tokenId w = .ok w') :
    ∃ given, given.token.owners tokenId = dst ∧ w' = execAll d vehicleNFT reaction given ∧
      Frozen w w' := by
  obtain ⟨r, hr, happly⟩ := nftSafeTransferFrom_ok h
  obtain ⟨_, _, _, _, rfl⟩ := VehicleNFT.safeTransferFrom_ok hr
  rcases applyToken_ok happly with ⟨hx, _⟩ | ⟨x, hx, hdst, _⟩ | ⟨x, hx, _, hreact⟩
  · cases hx
  · cases hx
    exact absurd hdst hd
  · have hcalls := respond_ok hreact
    refine ⟨_, Function.update_self tokenId dst w.token.owners, hcalls, ?_⟩
    have hfrozen := @frozen_reaction _ _ d vehicleNFT reaction
      (w.withToken ⟨w.token.moved dst tokenId, [⟨src, dst, tokenId⟩], some x⟩) hentered
    rw [hcalls]
    exact ⟨hfrozen.sales, hfrozen.claims, hfrozen.custodySaleId, hfrozen.totalLiability⟩

theorem completed_of_ok {sender : Caller d} {value : Uint256} {accepts : Bool}
    (h : exec d vehicleNFT (.call sender value (.completeSale s) accepts reaction) w = .ok w') :
    ∃ given, Completed d reaction s w given w' := by
  rw [exec] at h
  obtain ⟨_, w₁, hbody, rfl⟩ := nonReentrant_ok (dispatch_ok h)
  obtain ⟨_, hsender, _, htransfer, _⟩ := completeSale_ok hbody
  have hbuyer : (w.sales s).buyer ≠ d.escrow := fun h => sender.ne_escrow (hsender.trans h)
  obtain ⟨given, howner, hcalls, hfrozen⟩ := sent_of_ok hbuyer rfl htransfer
  have hsales : w₁.sales = Function.update w.sales s { w.sales s with status := .completed } :=
    hfrozen.sales
  have hclaims : w₁.claims = Function.update w.claims s
      ⟨(w.sales s).seller, (w.sales s).priceWei, .sellerProceeds, .claimable⟩ := hfrozen.claims
  refine ⟨given, howner, ?_, ?_, ?_⟩
  · rw [hcalls]
  · show w₁.sales s = _
    rw [hsales, Function.update_self]
  · show w₁.claims s = _
    rw [hclaims, Function.update_self]

theorem expired_of_ok {sender : Caller d} {accepts : Bool}
    (h : exec d vehicleNFT (.call sender 0 (.expireSale s) accepts reaction) w = .ok w') :
    Expired s w w' := by
  rw [exec] at h
  obtain ⟨_, w₁, hbody, rfl⟩ := nonReentrant_ok (dispatch_ok h)
  obtain ⟨_, _, _, rfl⟩ := expireSale_ok hbody
  exact ⟨Function.update_self s _ w.sales, Function.update_self s _ w.claims, rfl, rfl⟩

theorem withdrawn_of_ok {sender : Caller d} {recipient : Address} {accepts : Bool}
    (h : exec d vehicleNFT (.call sender 0 (.withdrawPayment s recipient) accepts reaction) w =
      .ok w') : ∃ paid, Withdrawn d reaction s recipient w paid w' := by
  rw [exec] at h
  obtain ⟨_, w₁, hbody, rfl⟩ := nonReentrant_ok (dispatch_ok h)
  obtain ⟨_, _, _, _, total, w₂, hle, htotal, hbalance, hreact, _, rfl⟩ := withdrawPayment_ok hbody
  have hcalls := respond_ok hreact
  have hfrozen := @frozen_reaction _ _ d vehicleNFT reaction
    (({ w with
      entered := true, totalLiability := total
      balance := w.balance - (w.claims s).amountWei.val
      payments := w.payments ++ [(recipient, (w.claims s).amountWei)] }).setClaim s
        { w.claims s with status := .withdrawn }) rfl
  have hclaims : w₂.claims = Function.update w.claims s
      { w.claims s with status := .withdrawn } := by
    rw [hcalls]
    exact hfrozen.claims
  have hclaim : w₂.claims s = { w.claims s with status := .withdrawn } := by
    rw [hclaims, Function.update_self]
  have hliability : w₂.totalLiability = total := by
    rw [hcalls]
    exact hfrozen.totalLiability
  have hdue : (w.claims s).amountWei.val ≤ w.totalLiability.val := hle
  have hleft : total.val = w.totalLiability.val - (w.claims s).amountWei.val := htotal
  refine ⟨({ w with
      entered := true, totalLiability := total
      balance := w.balance - (w.claims s).amountWei.val
      payments := w.payments ++ [(recipient, (w.claims s).amountWei)] }).setClaim s
        { w.claims s with status := .withdrawn }, ?_, rfl, ?_, hclaim, ?_⟩
  · exact Nat.sub_add_cancel hbalance
  · rw [hclaim, hcalls]
  · show w₂.totalLiability.val + (w.claims s).amountWei.val = w.totalLiability.val
    rw [hliability, hleft]
    exact Nat.sub_add_cancel hdue

theorem returned_of_ok {sender : Caller d} {recipient : Address} {accepts : Bool}
    (h : exec d vehicleNFT (.call sender 0 (.reclaimToken s recipient) accepts reaction) w =
      .ok w') : ∃ given, Returned d reaction s recipient w given w' := by
  rw [exec] at h
  obtain ⟨_, w₁, hbody, rfl⟩ := nonReentrant_ok (dispatch_ok h)
  obtain ⟨_, _, _, _, hne, w₂, htransfer, rfl⟩ := reclaimToken_ok hbody
  obtain ⟨given, howner, hcalls, hfrozen⟩ := sent_of_ok hne rfl htransfer
  have hsales : w₂.sales = Function.update w.sales s { w.sales s with tokenReclaimed := true } :=
    hfrozen.sales
  have hcustody : w₂.custodySaleId = Function.update w.custodySaleId (w.sales s).tokenId 0 :=
    hfrozen.custodySaleId
  have hsale : w₂.sales s = { w.sales s with tokenReclaimed := true } := by
    rw [hsales, Function.update_self]
  refine ⟨given, howner, ?_, hsale, ?_⟩
  · rw [hsale, hcalls]
  · show w₂.custodySaleId (w.sales s).tokenId = 0
    rw [hcustody, Function.update_self]

end Effects

section Undelivered
variable {d : Deployment} {w w' : World VehicleNFT}

/-- The token or the ether of the call does not arrive: the token contract
refuses the seller's token, or the recipient rejects what is sent to it. -/
inductive Undelivered (d : Deployment) (w : World VehicleNFT) : Call d VehicleOp → Prop where
  | listing {sender : Caller d} {value tokenId priceWei : Uint256} {allowedBuyer : Address}
      {accepts : Bool} {reaction : List (Call d VehicleOp)}
      (hrefused : ∀ r, w.token.safeTransferFrom d.escrow sender.address d.escrow tokenId ≠ .ok r) :
      Undelivered d w (.call sender value (.createSale tokenId priceWei allowedBuyer) accepts reaction)
  | completion {sender : Caller d} {value saleId : Uint256} {reaction : List (Call d VehicleOp)} :
      Undelivered d w (.call sender value (.completeSale saleId) false reaction)
  | payment {sender : Caller d} {value saleId : Uint256} {recipient : Address}
      {reaction : List (Call d VehicleOp)} :
      Undelivered d w (.call sender value (.withdrawPayment saleId recipient) false reaction)
  | reclaim {sender : Caller d} {value saleId : Uint256} {recipient : Address}
      {reaction : List (Call d VehicleOp)} :
      Undelivered d w (.call sender value (.reclaimToken saleId recipient) false reaction)

theorem rejected_transfer {calls : World VehicleNFT → World VehicleNFT} {src dst : Address}
    {tokenId : Uint256} (hd : dst ≠ d.escrow)
    (h : nftSafeTransferFrom d vehicleNFT (respond false calls) src dst tokenId w = .ok w') :
    False := by
  obtain ⟨r, hr, happly⟩ := nftSafeTransferFrom_ok h
  obtain ⟨_, _, _, _, rfl⟩ := VehicleNFT.safeTransferFrom_ok hr
  rcases applyToken_ok happly with ⟨hx, _⟩ | ⟨x, hx, hdst, _⟩ | ⟨_, _, _, hreact⟩
  · cases hx
  · cases hx
    exact hd hdst
  · simp [respond] at hreact

theorem Undelivered.reverts {c : Call d VehicleOp} (h : Undelivered d w c) :
    exec d vehicleNFT c w ≠ .ok w' := by
  intro hexec
  cases h with
  | listing hrefused =>
    rw [exec] at hexec
    obtain ⟨_, _, hbody, _⟩ := nonReentrant_ok (dispatch_ok hexec)
    obtain ⟨_, _, _, _, _, _, _, htransfer, _⟩ := createSale_ok hbody
    obtain ⟨r, hr, _⟩ := nftSafeTransferFrom_ok htransfer
    exact hrefused r hr
  | @completion sender =>
    rw [exec] at hexec
    obtain ⟨_, _, hbody, _⟩ := nonReentrant_ok (dispatch_ok hexec)
    obtain ⟨_, hsender, _, htransfer, _⟩ := completeSale_ok hbody
    exact rejected_transfer (hsender ▸ sender.ne_escrow) htransfer
  | payment =>
    rw [exec] at hexec
    obtain ⟨_, _, hbody, _⟩ := nonReentrant_ok (dispatch_ok hexec)
    obtain ⟨_, _, _, _, _, _, _, _, _, hr, _⟩ := withdrawPayment_ok hbody
    simp [respond] at hr
  | reclaim =>
    rw [exec] at hexec
    obtain ⟨_, _, hbody, _⟩ := nonReentrant_ok (dispatch_ok hexec)
    obtain ⟨_, _, _, _, hne, _, htransfer, _⟩ := reclaimToken_ok hbody
    exact rejected_transfer hne htransfer

theorem Undelivered.unchanged {c : Call d VehicleOp} (h : Undelivered d w c) :
    step d vehicleNFT w (.transact c) = w ∧ execAll d vehicleNFT [c] w = w := by
  cases hexec : exec d vehicleNFT c w with
  | ok w' => exact absurd hexec h.reverts
  | error e => simp [step, execAll, hexec]

end Undelivered

/-- No value is stuck in `w`. At every time a funded sale can be completed by
its buyer or expired by anyone, and never both; an open claim can be withdrawn
and an unsold token reclaimed to every recipient that accepts. The liability
check stops nothing, and a delivery that fails reverts and costs nothing. -/
structure NeverLocked (d : Deployment) (w : World VehicleNFT) : Prop where
  complete : ∀ s, (w.sales s).status = .funded →
    ∃ buyer : Caller d, buyer.address = (w.sales s).buyer ∧ ∀ t reaction,
      (t < (w.sales s).expiresAt.val →
        Achieves d vehicleNFT (.call buyer 0 (.completeSale s) true reaction)
          { w with timestamp := t } fun w' =>
            ∃ given, Completed d reaction s { w with timestamp := t } given w') ∧
      ((w.sales s).expiresAt.val ≤ t →
        ¬Succeeds d vehicleNFT (.call buyer 0 (.completeSale s) true reaction)
          { w with timestamp := t })
  expire : ∀ s, (w.sales s).status = .funded →
    ∀ (sender : Caller d) (t : ℕ) (accepts : Bool) (reaction : List (Call d VehicleOp)),
      ((w.sales s).expiresAt.val ≤ t →
        Achieves d vehicleNFT (.call sender 0 (.expireSale s) accepts reaction)
          { w with timestamp := t } (Expired s { w with timestamp := t })) ∧
      (t < (w.sales s).expiresAt.val →
        ¬Succeeds d vehicleNFT (.call sender 0 (.expireSale s) accepts reaction)
          { w with timestamp := t })
  withdraw : ∀ s, (w.claims s).status = .claimable →
    ∃ beneficiary : Caller d, beneficiary.address = (w.claims s).beneficiary ∧
      ∀ recipient, recipient ≠ 0 → recipient ≠ d.escrow → ∀ reaction,
        Achieves d vehicleNFT (.call beneficiary 0 (.withdrawPayment s recipient) true reaction) w
          fun w' => ∃ paid, Withdrawn d reaction s recipient w paid w'
  reclaim : ∀ s, (w.sales s).status = .cancelled ∨ (w.sales s).status = .expired →
    (w.sales s).tokenReclaimed = false →
    ∃ seller : Caller d, seller.address = (w.sales s).seller ∧
      ∀ recipient, recipient ≠ 0 → recipient ≠ d.escrow → ∀ reaction,
        Achieves d vehicleNFT (.call seller 0 (.reclaimToken s recipient) true reaction) w
          fun w' => ∃ given, Returned d reaction s recipient w given w'
  liability : ∀ c : Call d VehicleOp, NeverBroken d c w
  failed : ∀ (c : Call d VehicleOp) (w₁ : World VehicleNFT), Undelivered d w₁ c →
    ¬Succeeds d vehicleNFT c w₁ ∧ step d vehicleNFT w₁ (.transact c) = w₁ ∧
      execAll d vehicleNFT [c] w₁ = w₁

/-- In every reachable state in which the token is bound to the escrow, no
escrowed value is locked. Sales may have been listed before the binding. -/
theorem never_locked (d : Deployment) (owner : Address) (balance timestamp : ℕ)
    (steps : List (Step d VehicleOp))
    (hbound : (run d vehicleNFT steps
      (deployed (VehicleNFT.deployed owner) balance timestamp)).token.motorCoveEscrow = d.escrow) :
    NeverLocked d (run d vehicleNFT steps
      (deployed (VehicleNFT.deployed owner) balance timestamp)) := by
  have hsolvent := solvent_run d vehicleNFT (VehicleNFT.deployed owner) balance timestamp steps
  have hcustody := custody_run steps (custody_deployed d owner balance timestamp)
  have hparties := parties_run d vehicleNFT (VehicleNFT.deployed owner) balance
    timestamp steps
  have hfree := entered_run d vehicleNFT (VehicleNFT.deployed owner) balance
    timestamp steps
  generalize run d vehicleNFT steps (deployed (VehicleNFT.deployed owner) balance timestamp) = w
    at hsolvent hcustody hparties hfree hbound
  constructor
  · intro s hf
    have hbuyer := (hparties s).buyer (.inl hf)
    have henabled : ∀ t reaction, Succeeds d vehicleNFT
        (.call hbuyer.caller 0 (.completeSale s) true reaction) { w with timestamp := t } ↔
          t < (w.sales s).expiresAt.val := by
      intro t reaction
      refine (succeeds_iff (w := { w with timestamp := t })
        (fun react => completeSale d vehicleNFT react _ s) hfree fun _ => rfl).trans ?_
      refine completeSale_enabled (w := { w with timestamp := t, entered := true })
        (respond_accepting reaction) ?_ hbound hf hbuyer (hcustody.held s (.inr (.inl hf))).1
      exact hsolvent.of_eq rfl rfl rfl rfl le_rfl
    refine ⟨hbuyer.caller, rfl, fun t reaction => ⟨fun ht => ?_, fun ht hsucceeds => ?_⟩⟩
    · exact ((henabled t reaction).mpr ht).achieves fun w' => completed_of_ok
    · exact absurd ((henabled t reaction).mp hsucceeds) (Nat.not_lt.mpr ht)
  · intro s hf sender t accepts reaction
    have henabled : Succeeds d vehicleNFT (.call sender 0 (.expireSale s) accepts reaction)
        { w with timestamp := t } ↔ (w.sales s).expiresAt.val ≤ t := by
      refine (succeeds_iff (w := { w with timestamp := t }) (fun _ => expireSale s) hfree
        fun _ => rfl).trans ?_
      refine expireSale_enabled (w := { w with timestamp := t, entered := true }) ?_ hf
      exact hsolvent.of_eq rfl rfl rfl rfl le_rfl
    refine ⟨fun ht => ?_, fun ht hsucceeds => ?_⟩
    · exact (henabled.mpr ht).achieves fun w' => expired_of_ok
    · exact absurd (henabled.mp hsucceeds) (Nat.not_le.mpr ht)
  · intro s hc
    have hbeneficiary := (hparties s).beneficiary (by simp [hc])
    refine ⟨hbeneficiary.caller, rfl, fun recipient h0 he reaction => ?_⟩
    refine Succeeds.achieves ?_ fun w' => withdrawn_of_ok
    refine (succeeds_iff (fun react => withdrawPayment d react _ s recipient) hfree
      fun _ => rfl).mpr ?_
    refine withdrawPayment_enabled (w := { w with entered := true }) (respond_accepting reaction)
      ?_ hc h0 he
    exact hsolvent.of_eq rfl rfl rfl rfl le_rfl
  · intro s hst hrec
    have hseller := (hparties s).seller (by rcases hst with h | h <;> simp [h])
    refine ⟨hseller.caller, rfl, fun recipient h0 he reaction => ?_⟩
    refine Succeeds.achieves ?_ fun w' => returned_of_ok
    refine (succeeds_iff (fun react => reclaimToken d vehicleNFT react _ s recipient) hfree
      fun _ => rfl).mpr ?_
    refine reclaimToken_enabled (w := { w with entered := true }) (respond_accepting reaction)
      ?_ hbound hst hrec (hcustody.held s (.inr (.inr ⟨hst, hrec⟩))).1 h0 he
    exact hsolvent.of_eq rfl rfl rfl rfl le_rfl
  · exact fun c => neverBroken c hsolvent
  · exact fun c w₁ h => ⟨fun ⟨_, hw'⟩ => h.reverts hw', h.unchanged⟩

def localBuyer : Caller localDeployment := ⟨4, by decide, by decide, by decide⟩

def funding : List (Step localDeployment VehicleOp) :=
  [.transact (.call localBuyer 5 (.fundSale 1) true [])]

theorem never_locked_funded :
    let w := run localDeployment vehicleNFT (binding ++ listing ++ funding)
      (deployed (VehicleNFT.deployed 3) 0 1)
    (w.sales 1).status = .funded ∧ (w.sales 1).expiresAt = 3601 ∧ NeverLocked localDeployment w :=
  ⟨rfl, rfl, never_locked localDeployment 3 0 1 (binding ++ listing ++ funding) rfl⟩

end MotorCove.Chain
