import MotorCove.Chain.Solvency

/-!
# The liability check never fails

Every entry point ends with a check that the balance covers the liability. It
runs on solvent worlds only, at any depth of reentrant calls, so no call ever
reverts by it.
-/

set_option autoImplicit false

namespace MotorCove.Chain
open MotorCove.Fallible

variable {S Op : Type}

section Congruence
variable {d : Deployment} {nft : IERC721 S Op} {r₁ r₂ : React S} {w : World S}

theorem applyToken_congr (hr : ∀ w, Solvent w → r₁ w = r₂ w) {r : TokenResult S} (h : Solvent w) :
    applyToken d r₁ r w = applyToken d r₂ r w := by
  unfold applyToken
  split
  · rfl
  · split
    · rfl
    · exact hr _ (h.of_eq rfl rfl rfl rfl le_rfl)

theorem nftSafeTransferFrom_congr (hr : ∀ w, Solvent w → r₁ w = r₂ w) {src dst : Address}
    {tokenId : Uint256} (h : Solvent w) :
    nftSafeTransferFrom d nft r₁ src dst tokenId w = nftSafeTransferFrom d nft r₂ src dst tokenId w :=
  bind_congr_ok fun _ _ => applyToken_congr hr h

theorem createSale_congr (hr : ∀ w, Solvent w → r₁ w = r₂ w) {sender : Address}
    {tokenId priceWei : Uint256} {allowedBuyer : Address} (h : Solvent w) :
    createSale d nft r₁ sender tokenId priceWei allowedBuyer w =
      createSale d nft r₂ sender tokenId priceWei allowedBuyer w := by
  have hpending : Solvent { w with pendingReceipt := ⟨sender, tokenId, true⟩ } :=
    h.of_eq rfl rfl rfl rfl le_rfl
  simp only [createSale, nftSafeTransferFrom_congr hr hpending]

theorem completeSale_congr (hr : ∀ w, Solvent w → r₁ w = r₂ w) {sender : Address}
    {saleId : Uint256} (h : Solvent w) :
    completeSale d nft r₁ sender saleId w = completeSale d nft r₂ sender saleId w := by
  refine bind_congr_ok fun sale hsale => bind_congr_ok fun _ hf => ?_
  obtain ⟨_, rfl⟩ := requireSale_ok.mp hsale
  have hfunded : (w.sales saleId).status = .funded := by simpa [requireState] using hf
  refine bind_congr_ok fun _ _ => bind_congr_ok fun _ _ => ?_
  exact bind_congr_left
    (nftSafeTransferFrom_congr hr (h.settled_sale hfunded (.inl rfl) rfl rfl rfl rfl rfl))

theorem pay_congr {recipient : Address} {amount : Uint256}
    (h : r₁ { w with
        balance := w.balance - amount.val, payments := w.payments ++ [(recipient, amount)] } =
      r₂ { w with
        balance := w.balance - amount.val, payments := w.payments ++ [(recipient, amount)] }) :
    pay r₁ recipient amount w = pay r₂ recipient amount w := by
  rw [pay, pay, h]

theorem withdrawPayment_congr (hr : ∀ w, Solvent w → r₁ w = r₂ w) {sender : Address}
    {saleId : Uint256} {recipient : Address} (h : Solvent w) :
    withdrawPayment d r₁ sender saleId recipient w =
      withdrawPayment d r₂ sender saleId recipient w := by
  refine bind_congr_ok fun _ hc => bind_congr_ok fun _ _ => bind_congr_ok fun _ _ =>
    bind_congr_ok fun total htotal => ?_
  have hclaimable : (w.claims saleId).status = .claimable := by simpa using hc
  obtain ⟨hle, hval⟩ := checkedSub_ok.mp htotal
  refine bind_congr_left (pay_congr (hr _ ?_))
  exact h.withdrawn_claim hclaimable rfl rfl rfl hle hval rfl

theorem reclaimToken_congr (hr : ∀ w, Solvent w → r₁ w = r₂ w) {sender : Address}
    {saleId : Uint256} {recipient : Address} (h : Solvent w) :
    reclaimToken d nft r₁ sender saleId recipient w =
      reclaimToken d nft r₂ sender saleId recipient w := by
  refine bind_congr_ok fun sale hsale => bind_congr_ok fun _ _ => bind_congr_ok fun _ hst =>
    bind_congr_ok fun _ _ => bind_congr_ok fun _ _ => ?_
  obtain ⟨_, rfl⟩ := requireSale_ok.mp hsale
  have hover : (w.sales saleId).status = .cancelled ∨ (w.sales saleId).status = .expired := by
    by_contra hne
    exact failIf_ok.mp hst (not_or.mp hne)
  exact bind_congr_left
    (nftSafeTransferFrom_congr hr (h.reclaimed_sale hover rfl rfl rfl rfl rfl))

theorem nonReentrant_congr {body₁ body₂ : World S → Except Revert (World S)}
    (h : body₁ { w with entered := true } = body₂ { w with entered := true }) :
    nonReentrant body₁ w = nonReentrant body₂ w := by
  rw [nonReentrant, nonReentrant, h]

/-- What recipients do matters in solvent worlds only: they are called in no other. -/
theorem dispatch_congr (hr : ∀ w, Solvent w → r₁ w = r₂ w) {sender : Address} {value : Uint256}
    {message : Message Op} (h : Solvent w) :
    dispatch d nft sender value message r₁ w = dispatch d nft sender value message r₂ w := by
  have he : Solvent { w with entered := true, balance := w.balance + value.val } :=
    h.of_eq rfl rfl rfl rfl (Nat.le_add_right _ _)
  refine bind_congr_ok fun _ _ => ?_
  cases message with
  | createSale tokenId priceWei allowedBuyer => exact nonReentrant_congr (createSale_congr hr he)
  | completeSale saleId => exact nonReentrant_congr (completeSale_congr hr he)
  | withdrawPayment saleId recipient => exact nonReentrant_congr (withdrawPayment_congr hr he)
  | reclaimToken saleId recipient => exact nonReentrant_congr (reclaimToken_congr hr he)
  | fundSale saleId => rfl
  | cancelSale saleId => rfl
  | expireSale saleId => rfl
  | onERC721Received operator src tokenId => rfl
  | token op =>
    refine bind_congr_ok fun r _ => applyToken_congr hr ?_
    exact h.of_eq rfl rfl rfl rfl (Nat.le_add_right _ _)

end Congruence

section Sound
variable {d : Deployment} {react : React VehicleNFT} {w : World VehicleNFT}

theorem checkedAdd_sound {n : ℕ} {a b : Fin n} :
    checkedAdd a b ≠ .error .liabilityInvariantBroken := by
  unfold checkedAdd
  split <;> simp

/-! The token contract has none of the escrow's own errors. -/

theorem VehicleNFT.update_sound {v : VehicleNFT} {dst auth : Address} {tokenId : Uint256} :
    update dst tokenId auth v ≠ .error .liabilityInvariantBroken := by
  intro h
  simp only [update, baseUpdate, checkAuthorized, bind_error, failIf_error, reduceCtorEq, and_false,
    false_or, or_false, exists_const] at h
  obtain ⟨_, _, h⟩ := h
  split at h
  · cases h
  · split at h
    · cases h
    · split at h <;> cases h

theorem VehicleNFT.transferFrom_sound {v : VehicleNFT} {sender src dst : Address}
    {tokenId : Uint256} : v.transferFrom sender src dst tokenId ≠ .error .liabilityInvariantBroken := by
  intro h
  simp [transferFrom, bind_error, update_sound] at h

theorem VehicleNFT.safeTransferFrom_sound {v : VehicleNFT} {sender src dst : Address}
    {tokenId : Uint256} :
    v.safeTransferFrom sender src dst tokenId ≠ .error .liabilityInvariantBroken := by
  intro h
  simp [safeTransferFrom, bind_error, transferFrom_sound] at h

theorem VehicleNFT.ownerOf_sound {v : VehicleNFT} {tokenId : Uint256} :
    v.ownerOf tokenId ≠ .error .liabilityInvariantBroken := by
  unfold ownerOf
  split <;> simp

theorem VehicleNFT.perform_sound {v : VehicleNFT} {sender : Address} {op : VehicleOp} :
    v.perform sender op ≠ .error .liabilityInvariantBroken := by
  intro h
  cases op with
  | mint recipient =>
    simp [perform, mint, onlyOwner, bind_error, update_sound, checkedAdd_sound] at h
  | transferFrom src dst tokenId => exact transferFrom_sound h
  | safeTransferFrom src dst tokenId => exact safeTransferFrom_sound h
  | setEscrow escrow => simp [perform, quiet, setEscrow, onlyOwner, bind_error] at h
  | approve spender tokenId => simp [perform, quiet, approve, bind_error, ownerOf_sound] at h
  | setApprovalForAll operator approved =>
    simp [perform, quiet, setApprovalForAll, bind_error] at h
  | transferOwnership newOwner =>
    simp [perform, quiet, transferOwnership, onlyOwner, bind_error] at h
  | renounceOwnership => simp [perform, quiet, renounceOwnership, onlyOwner, bind_error] at h

/-- A recipient that keeps the escrow solvent and has no error of the escrow's own. -/
structure Harmless (react : React VehicleNFT) : Prop where
  solvent : ∀ w w', Solvent w → react w = .ok w' → Solvent w'
  sound : ∀ w, react w ≠ .error .liabilityInvariantBroken

theorem Solvent.check_sound (h : Solvent w) :
    ¬checkLiability w = .error .liabilityInvariantBroken := by
  simpa [checkLiability] using h.covered

theorem applyToken_sound (hreact : Harmless react) {r : TokenResult VehicleNFT} :
    applyToken d react r w ≠ .error .liabilityInvariantBroken := by
  unfold applyToken
  split
  · simp
  · split
    · simp [onERC721Received, bind_error]
    · exact hreact.sound _

theorem nftSafeTransferFrom_sound (hreact : Harmless react) {src dst : Address}
    {tokenId : Uint256} :
    nftSafeTransferFrom d vehicleNFT react src dst tokenId w ≠ .error .liabilityInvariantBroken := by
  intro h
  rcases bind_error.mp h with h | ⟨r, _, h⟩
  · exact VehicleNFT.safeTransferFrom_sound h
  · exact applyToken_sound hreact h

theorem createSale_sound (hreact : Harmless react) {sender : Address} {tokenId priceWei : Uint256}
    {allowedBuyer : Address} :
    createSale d vehicleNFT react sender tokenId priceWei allowedBuyer w ≠
      .error .liabilityInvariantBroken := by
  intro h
  have howner : vehicleNFT.ownerOf w.token tokenId ≠ .error .liabilityInvariantBroken :=
    VehicleNFT.ownerOf_sound
  simp [createSale, bind_error, howner, nftSafeTransferFrom_sound hreact, checkedAdd_sound] at h

theorem fundSale_sound (h : Solvent w) {sender : Address} {value saleId : Uint256} :
    fundSale d sender value saleId { w with balance := w.balance + value.val } ≠
      .error .liabilityInvariantBroken := by
  intro he
  simp [fundSale, requireState, checkLiability, World.setSale, World.emit, bind_error,
    checkedAdd_sound, checkedAdd_ok] at he
  obtain ⟨_, _, _, _, _, _, _, total, htotal, hcheck⟩ := he
  have hlt := (failIf_error.mp hcheck).1
  have := h.covered
  omega

theorem completeSale_sound (hreact : Harmless react) (h : Solvent w) {sender : Address}
    {saleId : Uint256} :
    completeSale d vehicleNFT react sender saleId w ≠ .error .liabilityInvariantBroken := by
  intro he
  simp only [completeSale, requireState, bind_error, requireSale_error, requireSale_ok, failIf_error,
    failIf_ok, nftSafeTransferFrom_sound hreact, reduceCtorEq, and_false, false_or, or_false,
    exists_const] at he
  obtain ⟨_, ⟨_, rfl⟩, hf, _, _, w₁, htransfer, hcheck⟩ := he
  refine (solvent_nftSafeTransferFrom hreact.solvent ?_ htransfer).check_sound hcheck
  exact h.settled_sale (not_not.mp hf) (.inl rfl) rfl rfl rfl rfl rfl

theorem cancelSale_sound {sender : Address} {saleId : Uint256} :
    cancelSale sender saleId w ≠ .error .liabilityInvariantBroken := by
  simp [cancelSale, requireState, bind_error]

theorem expireSale_sound (h : Solvent w) {saleId : Uint256} :
    expireSale saleId w ≠ .error .liabilityInvariantBroken := by
  intro he
  simp only [expireSale, requireState, bind_error, requireSale_error, requireSale_ok, failIf_error,
    failIf_ok, reduceCtorEq, and_false, false_or, or_false, exists_const] at he
  obtain ⟨_, ⟨_, rfl⟩, hf, _, hcheck⟩ := he
  refine Solvent.check_sound ?_ hcheck
  exact h.settled_sale (not_not.mp hf) (.inr rfl) rfl rfl rfl rfl rfl

theorem withdrawPayment_sound (hreact : Harmless react) (h : Solvent w) {sender : Address}
    {saleId : Uint256} {recipient : Address} :
    withdrawPayment d react sender saleId recipient w ≠ .error .liabilityInvariantBroken := by
  intro he
  have hsub : ∀ {a b : Uint256}, checkedSub a b ≠ .error .liabilityInvariantBroken := by
    intro a b
    unfold checkedSub
    split <;> simp
  have hpay : ∀ {recipient : Address} {amount : Uint256} {w : World VehicleNFT},
      pay react recipient amount w ≠ .error .liabilityInvariantBroken := by
    intro recipient amount w
    unfold pay
    split
    · simp
    · split <;> simp
  simp only [withdrawPayment, bind_error, failIf_error, failIf_ok, hsub, hpay, reduceCtorEq, and_false,
    false_or, or_false, exists_const] at he
  obtain ⟨hc, _, _, total, htotal, w₁, hpaid, hcheck⟩ := he
  obtain ⟨hle, hval⟩ := checkedSub_ok.mp htotal
  have h₁ : Solvent w₁ := by
    refine hreact.solvent _ _ ?_ (pay_ok.mp hpaid).2
    exact h.withdrawn_claim (not_not.mp hc) rfl rfl rfl hle hval rfl
  refine Solvent.check_sound ?_ hcheck
  exact h₁.of_eq rfl rfl rfl rfl le_rfl

theorem reclaimToken_sound (hreact : Harmless react) {sender : Address} {saleId : Uint256}
    {recipient : Address} :
    reclaimToken d vehicleNFT react sender saleId recipient w ≠
      .error .liabilityInvariantBroken := by
  simp [reclaimToken, bind_error, nftSafeTransferFrom_sound hreact]

theorem nonReentrant_sound {body : World VehicleNFT → Except Revert (World VehicleNFT)}
    (h : body { w with entered := true } ≠ .error .liabilityInvariantBroken) :
    nonReentrant body w ≠ .error .liabilityInvariantBroken := by
  simp [nonReentrant, bind_error, h]

theorem dispatch_sound (hreact : Harmless react) (h : Solvent w) {sender : Address}
    {value : Uint256} {message : Message VehicleOp} :
    dispatch d vehicleNFT sender value message react w ≠ .error .liabilityInvariantBroken := by
  intro hfail
  rcases bind_error.mp hfail with hfail | ⟨_, _, hfail⟩
  · cases (failIf_error.mp hfail).2
  have hentered : Solvent { w with entered := true } := h.of_eq rfl rfl rfl rfl le_rfl
  have he : Solvent { w with entered := true, balance := w.balance + value.val } :=
    h.of_eq rfl rfl rfl rfl (Nat.le_add_right _ _)
  cases message with
  | createSale tokenId priceWei allowedBuyer =>
    exact nonReentrant_sound (createSale_sound hreact) hfail
  | fundSale saleId => exact nonReentrant_sound (fundSale_sound hentered) hfail
  | completeSale saleId => exact nonReentrant_sound (completeSale_sound hreact he) hfail
  | cancelSale saleId => exact nonReentrant_sound cancelSale_sound hfail
  | expireSale saleId => exact nonReentrant_sound (expireSale_sound he) hfail
  | withdrawPayment saleId recipient =>
    exact nonReentrant_sound (withdrawPayment_sound hreact he) hfail
  | reclaimToken saleId recipient => exact nonReentrant_sound (reclaimToken_sound hreact) hfail
  | onERC721Received operator src tokenId => simp [onERC721Received, bind_error] at hfail
  | token op =>
    rcases bind_error.mp hfail with hfail | ⟨r, _, hfail⟩
    · exact VehicleNFT.perform_sound hfail
    · exact applyToken_sound hreact hfail

end Sound

section Depth
variable (d : Deployment)

/-- The recipient of the call is called in `w₁`: what it does there, and nowhere
else, can decide the outcome. -/
def Hands (sender : Address) (value : Uint256) (message : Message VehicleOp)
    (w w₁ : World VehicleNFT) : Prop :=
  ∃ r₁ r₂ : React VehicleNFT, (∀ w', w' ≠ w₁ → r₁ w' = r₂ w') ∧
    dispatch d vehicleNFT sender value message r₁ w ≠ dispatch d vehicleNFT sender value message r₂ w

mutual
/-- Neither the call nor any call of its recipient reverts by the liability check. -/
def NeverBroken : Call d VehicleOp → World VehicleNFT → Prop
  | .forceEther _, _ => True
  | .call sender value message accepts reaction, w =>
    exec d vehicleNFT (.call sender value message accepts reaction) w ≠
        .error .liabilityInvariantBroken ∧
      ∀ w₁, Hands d sender.address value message w w₁ → NeverBrokenAll reaction w₁

def NeverBrokenAll : List (Call d VehicleOp) → World VehicleNFT → Prop
  | [], _ => True
  | c :: cs, w => NeverBroken c w ∧ NeverBrokenAll cs (execAll d vehicleNFT [c] w)
end

variable {d}

theorem respond_harmless (accepts : Bool) (reaction : List (Call d VehicleOp)) :
    Harmless (respond accepts fun w => execAll d vehicleNFT reaction w) where
  solvent := by
    intro w w' h hr
    rw [respond_ok hr]
    exact execAll_kept (solvent_kept d vehicleNFT) reaction w h
  sound := by
    intro w
    unfold respond
    split <;> simp

theorem Hands.solvent {sender : Address} {value : Uint256} {message : Message VehicleOp}
    {w w₁ : World VehicleNFT} (hands : Hands d sender value message w w₁) (h : Solvent w) :
    Solvent w₁ := by
  obtain ⟨r₁, r₂, hsame, hdiffer⟩ := hands
  by_contra hne
  refine hdiffer (dispatch_congr (fun w' hw' => hsame w' ?_) h)
  rintro rfl
  exact hne hw'

mutual
theorem neverBroken : ∀ (c : Call d VehicleOp) {w : World VehicleNFT}, Solvent w → NeverBroken d c w
  | .forceEther _, _, _ => by
    rw [NeverBroken]
    trivial
  | .call sender value message accepts reaction, w, h => by
    rw [NeverBroken]
    constructor
    · rw [exec]
      exact dispatch_sound (respond_harmless accepts reaction) h
    · intro w₁ hands
      exact neverBrokenAll reaction (hands.solvent h)

theorem neverBrokenAll :
    ∀ (cs : List (Call d VehicleOp)) {w : World VehicleNFT}, Solvent w → NeverBrokenAll d cs w
  | [], _, _ => by
    rw [NeverBrokenAll]
    trivial
  | c :: cs, w, h => by
    rw [NeverBrokenAll]
    constructor
    · exact neverBroken c h
    · exact neverBrokenAll cs (execAll_kept (solvent_kept d vehicleNFT) [c] w h)
end

end Depth

end MotorCove.Chain
