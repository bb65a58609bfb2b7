import MotorCove.Chain.Transactions

/-!
# Custody of tokens

A sale holds its token from listing until completion or reclaim, and the
escrow's own table names that sale for the token. Once the token contract is
bound to an escrow that owns nothing, no other token can reach it: the veto of
the token stops every account, the receipt handshake stops every other path.
-/

set_option autoImplicit false

namespace MotorCove.Chain
open MotorCove.Fallible

def Sale.InCustody (s : Sale) : Prop :=
  s.status = .listed ∨ s.status = .funded ∨
    ((s.status = .cancelled ∨ s.status = .expired) ∧ s.tokenReclaimed = false)

/-- The custody invariant between entry points. With `strict` the token is
bound to the escrow and the escrow owns no token without a sale. -/
structure Custody (d : Deployment) (strict : Prop) (w : World VehicleNFT) : Prop where
  held : ∀ s, (w.sales s).InCustody →
    w.token.owners (w.sales s).tokenId = d.escrow ∧ w.custodySaleId (w.sales s).tokenId = s
  tracked : ∀ t, w.custodySaleId t ≠ 0 →
    (w.sales (w.custodySaleId t)).InCustody ∧ (w.sales (w.custodySaleId t)).tokenId = t
  numbered : ∀ s, (w.sales s).status ≠ .none → s ≠ 0 ∧ s.val ≤ w.saleCount.val
  unreclaimed : ∀ s, (w.sales s).status = .listed ∨ (w.sales s).status = .funded →
    (w.sales s).tokenReclaimed = false
  idle : w.pendingReceipt.active = false
  approvals : ∀ t, w.token.owners t = d.escrow ∨ w.token.owners t = 0 →
    w.token.tokenApprovals t = 0
  operators : ∀ a b, a = d.escrow ∨ a = 0 → w.token.operatorApprovals a b = false
  bound : strict → w.token.motorCoveEscrow = d.escrow
  noStray : strict → ∀ t, w.token.owners t = d.escrow → w.custodySaleId t ≠ 0

theorem Sale.InCustody.listed {s : Sale} (h : s.InCustody) : s.status ≠ .none := by
  rcases h with h | h | ⟨h | h, _⟩ <;> simp [h]

theorem custody_deployed (d : Deployment) (owner : Address) (balance timestamp : ℕ) :
    Custody d False (deployed (VehicleNFT.deployed owner) balance timestamp) where
  held := fun _ h => absurd rfl h.listed
  tracked := fun _ h => absurd rfl h
  numbered := fun _ h => absurd rfl h
  unreclaimed := fun _ _ => rfl
  idle := rfl
  approvals := fun _ _ => rfl
  operators := fun _ _ _ => rfl
  bound := False.elim
  noStray := False.elim

variable {d : Deployment} {strict : Prop} {w w' : World VehicleNFT}

theorem Custody.of_eq (h : Custody d strict w) (hs : w'.sales = w.sales)
    (hc : w'.custodySaleId = w.custodySaleId) (hn : w'.saleCount = w.saleCount)
    (hp : w'.pendingReceipt = w.pendingReceipt) (ht : w'.token = w.token) :
    Custody d strict w' := by
  obtain ⟨h₁, h₂, h₃, h₄, h₅, h₆, h₇, h₈, h₉⟩ := h
  constructor <;> simpa only [hs, hc, hn, hp, ht]

theorem Custody.not_authorized (h : Custody d strict w) {a : Address} (h0 : a ≠ 0)
    (he : a ≠ d.escrow) {t : Uint256} (ht : w.token.owners t = d.escrow ∨ w.token.owners t = 0) :
    ¬w.token.Authorized a t := by
  rintro (ho | ho | ho)
  · rcases ht with ht | ht
    · exact he (ho ▸ ht)
    · exact h0 (ho ▸ ht)
  · rw [h.operators _ _ ht] at ho
    cases ho
  · exact h0 (ho ▸ h.approvals t ht)

/-- A token that the escrow does not own passes to `dst`, which is not the
escrow when the token contract is bound to it. -/
theorem Custody.moved (h : Custody d strict w) {t : Uint256} {dst : Address}
    (ht : w.token.owners t ≠ d.escrow) (hd : strict → dst ≠ d.escrow)
    (hs : w'.sales = w.sales) (hc : w'.custodySaleId = w.custodySaleId)
    (hn : w'.saleCount = w.saleCount) (hp : w'.pendingReceipt = w.pendingReceipt)
    (ho : w'.token.owners = Function.update w.token.owners t dst)
    (ha : ∀ x, w'.token.tokenApprovals x = w.token.tokenApprovals x ∨
      (x = t ∧ w'.token.tokenApprovals x = 0))
    (ha' : w.token.owners t ≠ 0 → w'.token.tokenApprovals t = 0)
    (hop : w'.token.operatorApprovals = w.token.operatorApprovals)
    (hb : w'.token.motorCoveEscrow = w.token.motorCoveEscrow) : Custody d strict w' where
  held := by
    intro s hin
    rw [hs] at hin ⊢
    have hh := h.held s hin
    have hne : (w.sales s).tokenId ≠ t := by
      rintro rfl
      exact ht hh.1
    rw [ho, hc, Function.update_of_ne hne]
    exact hh
  tracked := by
    rw [hs, hc]
    exact h.tracked
  numbered := by
    rw [hs, hn]
    exact h.numbered
  unreclaimed := by
    rw [hs]
    exact h.unreclaimed
  idle := by
    rw [hp]
    exact h.idle
  approvals := by
    intro x hx
    by_cases hxt : x = t
    · subst hxt
      by_cases hz : w.token.owners x = 0
      · rcases ha x with hax | ⟨_, hax⟩
        · rw [hax]
          exact h.approvals x (.inr hz)
        · exact hax
      · exact ha' hz
    · rw [ho, Function.update_of_ne hxt] at hx
      rcases ha x with hax | ⟨hax, _⟩
      · rw [hax]
        exact h.approvals x hx
      · exact absurd hax hxt
  operators := by
    rw [hop]
    exact h.operators
  bound := by
    rw [hb]
    exact h.bound
  noStray := by
    intro hstrict x hx
    rw [ho] at hx
    by_cases hxt : x = t
    · subst hxt
      rw [Function.update_self] at hx
      exact absurd hx (hd hstrict)
    · rw [Function.update_of_ne hxt] at hx
      rw [hc]
      exact h.noStray hstrict x hx

theorem Custody.take (h : Custody d strict w) {t saleId : Uint256} {sale : Sale}
    (ht : w.token.owners t ≠ d.escrow) (hid : saleId.val = w.saleCount.val + 1)
    (hsale : sale.tokenId = t) (hlisted : sale.status = .listed)
    (hrec : sale.tokenReclaimed = false) (hs : w'.sales = Function.update w.sales saleId sale)
    (hc : w'.custodySaleId = Function.update w.custodySaleId t saleId)
    (hn : w'.saleCount = saleId) (hp : w'.pendingReceipt.active = false)
    (ho : w'.token.owners = Function.update w.token.owners t d.escrow)
    (ha : ∀ x, x ≠ t → w'.token.tokenApprovals x = w.token.tokenApprovals x)
    (ha' : w'.token.tokenApprovals t = 0)
    (hop : w'.token.operatorApprovals = w.token.operatorApprovals)
    (hb : w'.token.motorCoveEscrow = w.token.motorCoveEscrow) : Custody d strict w' where
  held := by
    intro s hin
    rw [hs] at hin ⊢
    by_cases hne : s = saleId
    · subst hne
      rw [Function.update_self, ho, hc, hsale, Function.update_self, Function.update_self]
      exact ⟨rfl, rfl⟩
    · rw [Function.update_of_ne hne] at hin ⊢
      have hh := h.held s hin
      have hnt : (w.sales s).tokenId ≠ t := by
        rintro rfl
        exact ht hh.1
      rw [ho, hc, Function.update_of_ne hnt, Function.update_of_ne hnt]
      exact hh
  tracked := by
    intro x hx
    rw [hc] at hx ⊢
    rw [hs]
    by_cases hxt : x = t
    · subst hxt
      rw [Function.update_self, Function.update_self]
      exact ⟨.inl hlisted, hsale⟩
    · rw [Function.update_of_ne hxt] at hx ⊢
      have htr := h.tracked x hx
      have hnum := h.numbered _ htr.1.listed
      have hne : w.custodySaleId x ≠ saleId := by
        intro he
        rw [he] at hnum
        omega
      rw [Function.update_of_ne hne]
      exact htr
  numbered := by
    intro s hst
    rw [hs] at hst
    rw [hn]
    by_cases hne : s = saleId
    · subst hne
      refine ⟨fun h0 => ?_, le_rfl⟩
      have hz : s.val = 0 := congrArg Fin.val h0
      omega
    · rw [Function.update_of_ne hne] at hst
      have hnum := h.numbered s hst
      exact ⟨hnum.1, by omega⟩
  unreclaimed := by
    intro s hst
    rw [hs] at hst ⊢
    by_cases hne : s = saleId
    · subst hne
      rw [Function.update_self]
      exact hrec
    · rw [Function.update_of_ne hne] at hst ⊢
      exact h.unreclaimed s hst
  idle := hp
  approvals := by
    intro x hx
    by_cases hxt : x = t
    · rw [hxt]
      exact ha'
    · rw [ho, Function.update_of_ne hxt] at hx
      rw [ha x hxt]
      exact h.approvals x hx
  operators := by
    rw [hop]
    exact h.operators
  bound := by
    rw [hb]
    exact h.bound
  noStray := by
    intro hstrict x hx
    rw [hc]
    by_cases hxt : x = t
    · subst hxt
      rw [Function.update_self]
      intro h0
      have hz : saleId.val = 0 := congrArg Fin.val h0
      omega
    · rw [ho, Function.update_of_ne hxt] at hx
      rw [Function.update_of_ne hxt]
      exact h.noStray hstrict x hx

/-- Completion and reclaim: the sale gives its token up, the table forgets it,
and the token passes to an account that is not the escrow. -/
theorem Custody.release (h : Custody d strict w) {saleId : Uint256} {sale : Sale} {dst : Address}
    (hin : (w.sales saleId).InCustody) (hout : ¬sale.InCustody)
    (hd : dst ≠ d.escrow) (h0 : dst ≠ 0) (hs : w'.sales = Function.update w.sales saleId sale)
    (hc : w'.custodySaleId = Function.update w.custodySaleId (w.sales saleId).tokenId 0)
    (hn : w'.saleCount = w.saleCount) (hp : w'.pendingReceipt = w.pendingReceipt)
    (ho : w'.token.owners = Function.update w.token.owners (w.sales saleId).tokenId dst)
    (ha : ∀ x, x ≠ (w.sales saleId).tokenId →
      w'.token.tokenApprovals x = w.token.tokenApprovals x)
    (hop : w'.token.operatorApprovals = w.token.operatorApprovals)
    (hb : w'.token.motorCoveEscrow = w.token.motorCoveEscrow) : Custody d strict w' where
  held := by
    intro s hs'
    rw [hs] at hs' ⊢
    by_cases hne : s = saleId
    · subst hne
      rw [Function.update_self] at hs'
      exact absurd hs' hout
    · rw [Function.update_of_ne hne] at hs' ⊢
      have hh := h.held s hs'
      have hnt : (w.sales s).tokenId ≠ (w.sales saleId).tokenId := by
        intro he
        rw [he, (h.held saleId hin).2] at hh
        exact hne hh.2.symm
      rw [ho, hc, Function.update_of_ne hnt, Function.update_of_ne hnt]
      exact hh
  tracked := by
    intro x hx
    rw [hc] at hx ⊢
    rw [hs]
    by_cases hxt : x = (w.sales saleId).tokenId
    · subst hxt
      rw [Function.update_self] at hx
      exact absurd rfl hx
    · rw [Function.update_of_ne hxt] at hx ⊢
      have htr := h.tracked x hx
      have hne : w.custodySaleId x ≠ saleId := by
        intro he
        rw [he] at htr
        exact hxt htr.2.symm
      rw [Function.update_of_ne hne]
      exact htr
  numbered := by
    intro s hst'
    rw [hs] at hst'
    rw [hn]
    by_cases hne : s = saleId
    · rw [hne]
      exact h.numbered saleId hin.listed
    · rw [Function.update_of_ne hne] at hst'
      exact h.numbered s hst'
  unreclaimed := by
    intro s hst'
    rw [hs] at hst' ⊢
    by_cases hne : s = saleId
    · subst hne
      rw [Function.update_self] at hst' ⊢
      rcases hst' with hl | hf
      · exact absurd (.inl hl) hout
      · exact absurd (.inr (.inl hf)) hout
    · rw [Function.update_of_ne hne] at hst' ⊢
      exact h.unreclaimed s hst'
  idle := by
    rw [hp]
    exact h.idle
  approvals := by
    intro x hx
    by_cases hxt : x = (w.sales saleId).tokenId
    · rw [ho, hxt, Function.update_self] at hx
      rcases hx with hx | hx
      · exact absurd hx hd
      · exact absurd hx h0
    · rw [ho, Function.update_of_ne hxt] at hx
      rw [ha x hxt]
      exact h.approvals x hx
  operators := by
    rw [hop]
    exact h.operators
  bound := by
    rw [hb]
    exact h.bound
  noStray := by
    intro hstrict x hx
    rw [hc]
    by_cases hxt : x = (w.sales saleId).tokenId
    · rw [ho, hxt, Function.update_self] at hx
      exact absurd hx hd
    · rw [ho, Function.update_of_ne hxt] at hx
      rw [Function.update_of_ne hxt]
      exact h.noStray hstrict x hx

/-- Funding, cancelling and expiry: the sale changes status and stays in custody. -/
theorem Custody.restatus (h : Custody d strict w) {saleId : Uint256} (sale : Sale)
    (hin : (w.sales saleId).InCustody) (hin' : sale.InCustody)
    (hid : sale.tokenId = (w.sales saleId).tokenId) (hrec : sale.tokenReclaimed = false)
    (hs : w'.sales = Function.update w.sales saleId sale)
    (hc : w'.custodySaleId = w.custodySaleId) (hn : w'.saleCount = w.saleCount)
    (hp : w'.pendingReceipt = w.pendingReceipt) (ht : w'.token = w.token) :
    Custody d strict w' where
  held := by
    intro s hs'
    rw [hs] at hs' ⊢
    rw [ht, hc]
    by_cases hne : s = saleId
    · subst hne
      rw [Function.update_self, hid]
      exact h.held s hin
    · rw [Function.update_of_ne hne] at hs' ⊢
      exact h.held s hs'
  tracked := by
    intro x hx
    rw [hc] at hx ⊢
    rw [hs]
    have htr := h.tracked x hx
    by_cases hne : w.custodySaleId x = saleId
    · rw [hne] at htr ⊢
      rw [Function.update_self]
      exact ⟨hin', hid.trans htr.2⟩
    · rw [Function.update_of_ne hne]
      exact htr
  numbered := by
    intro s hst
    rw [hs] at hst
    rw [hn]
    by_cases hne : s = saleId
    · rw [hne]
      exact h.numbered saleId hin.listed
    · rw [Function.update_of_ne hne] at hst
      exact h.numbered s hst
  unreclaimed := by
    intro s hst
    rw [hs] at hst ⊢
    by_cases hne : s = saleId
    · subst hne
      rw [Function.update_self]
      exact hrec
    · rw [Function.update_of_ne hne] at hst ⊢
      exact h.unreclaimed s hst
  idle := by
    rw [hp]
    exact h.idle
  approvals := by
    rw [ht]
    exact h.approvals
  operators := by
    rw [ht]
    exact h.operators
  bound := by
    rw [ht]
    exact h.bound
  noStray := by
    rw [ht, hc]
    exact h.noStray

section Messages
variable {react : React VehicleNFT}

/-- No receipt is pending, so a token notice reaches an outside receiver or
nobody: the escrow's hook refuses it. -/
theorem custody_applyToken
    (hreact : ∀ w w', Custody d strict w → react w = .ok w' → Custody d strict w')
    {r : TokenResult VehicleNFT} (hidle : w.pendingReceipt.active = false)
    (h : ∀ logs, Custody d strict { w with token := r.state, logs := logs })
    (hw : applyToken d react r w = .ok w') : Custody d strict w' := by
  rcases applyToken_ok hw with ⟨_, rfl⟩ | ⟨x, _, _, _, hp, _⟩ | ⟨x, _, _, hr⟩
  · exact h _
  · rw [hp] at hidle
    cases hidle
  · exact hreact _ _ (h _) hr

theorem moved_approvals (v : VehicleNFT) (dst : Address) (t x : Uint256) :
    (v.moved dst t).tokenApprovals x = v.tokenApprovals x ∨
      (x = t ∧ (v.moved dst t).tokenApprovals x = 0) := by
  simp only [VehicleNFT.moved]
  split
  · by_cases h : x = t
    · subst h
      exact .inr ⟨rfl, Function.update_self ..⟩
    · exact .inl (Function.update_of_ne h _ _)
  · exact .inl rfl

theorem moved_approvals_self {v : VehicleNFT} {dst : Address} {t : Uint256}
    (h : v.owners t ≠ 0) : (v.moved dst t).tokenApprovals t = 0 := by
  simp [VehicleNFT.moved, h]

theorem moved_approvals_of_ne {v : VehicleNFT} {dst : Address} {t x : Uint256} (h : x ≠ t) :
    (v.moved dst t).tokenApprovals x = v.tokenApprovals x :=
  (moved_approvals v dst t x).resolve_right fun hx => h hx.1

theorem custody_token
    (hreact : ∀ w w', Custody d strict w → react w = .ok w' → Custody d strict w')
    (sender : Caller d) {op : VehicleOp} {r : TokenResult VehicleNFT} (h : Custody d strict w)
    (hop : vehicleNFT.perform sender.address op w.token = .ok r)
    (hw : applyToken d react r w = .ok w') : Custody d strict w' := by
  refine custody_applyToken hreact h.idle (fun logs => ?_) hw
  rcases VehicleNFT.perform_cases hop with ⟨src, dst, t, x, h0, hadm, hauth, _, _, rfl⟩ |
      ⟨recipient, next, h0, hadm, hfree, rfl⟩ | ⟨v', rfl, hown, hbind, happ, hops⟩
  · -- a transfer: nobody but the escrow moves its tokens or sends tokens to it
    have hmine : w.token.owners t ≠ d.escrow := fun ht =>
      h.not_authorized sender.ne_zero sender.ne_escrow (.inl ht) (hauth sender.ne_zero)
    refine h.moved hmine (fun hstrict hd => ?_) rfl rfl rfl rfl rfl
      (moved_approvals _ _ _) moved_approvals_self rfl rfl
    have hb := h.bound hstrict
    exact sender.ne_escrow ((hadm (hb ▸ d.escrow_ne_zero) (hd.trans hb.symm)).trans hb)
  · have hmine : w.token.owners w.token.nextTokenId ≠ d.escrow := by
      rw [hfree]
      exact d.escrow_ne_zero.symm
    refine h.moved hmine (fun hstrict hd => ?_) rfl rfl rfl rfl rfl
      (moved_approvals { w.token with nextTokenId := next } _ _)
      (fun hz => absurd hfree hz) rfl rfl
    have hb := h.bound hstrict
    exact d.escrow_ne_zero ((hadm (hb ▸ d.escrow_ne_zero) (hd.trans hb.symm)).trans hb).symm
  · refine ⟨?_, h.tracked, h.numbered, h.unreclaimed, h.idle, ?_, ?_, ?_, ?_⟩
    · intro s hs
      have hh := h.held s hs
      exact ⟨(congrFun hown _).trans hh.1, hh.2⟩
    · intro t ht
      change v'.owners t = _ ∨ v'.owners t = _ at ht
      rw [hown] at ht
      rcases happ t with ha | ⟨hz, hs | hs | hs⟩
      · exact ha.trans (h.approvals t ht)
      · exact absurd hs sender.ne_zero
      · exact absurd (.inl hs) (h.not_authorized sender.ne_zero sender.ne_escrow ht)
      · exact absurd (.inr (.inl hs)) (h.not_authorized sender.ne_zero sender.ne_escrow ht)
    · intro a b ha
      have hne : a ≠ sender.address := by
        rintro rfl
        rcases ha with ha | ha
        · exact sender.ne_escrow ha
        · exact sender.ne_zero ha
      change v'.operatorApprovals a b = false
      rw [hops a hne]
      exact h.operators a b ha
    · intro hstrict
      have hb := h.bound hstrict
      rcases hbind with hv | hv
      · exact hv.trans hb
      · exact absurd (hb ▸ hv) d.escrow_ne_zero
    · intro hstrict t ht
      exact h.noStray hstrict t ((congrFun hown t).symm.trans ht)

/-- The handshake: the receipt is pending only while the token passes from the
seller to the escrow, and the escrow's own hook clears it. -/
theorem custody_createSale (sender : Caller d) {tokenId priceWei : Uint256}
    {allowedBuyer : Address} (h : Custody d strict w)
    (hw : createSale d vehicleNFT react sender.address tokenId priceWei allowedBuyer w = .ok w') :
    Custody d strict w' := by
  obtain ⟨_, _, _, howner, _, w₁, saleId, htransfer, hidle, hid, rfl⟩ := createSale_ok hw
  obtain ⟨hz, ho⟩ := VehicleNFT.ownerOf_ok.mp howner
  obtain ⟨r, hr, happly⟩ := nftSafeTransferFrom_ok htransfer
  obtain ⟨_, _, _, _, rfl⟩ := VehicleNFT.safeTransferFrom_ok hr
  have hmine : w.token.owners tokenId ≠ d.escrow := ho ▸ sender.ne_escrow
  rcases applyToken_ok happly with ⟨hx, _⟩ | ⟨x, _, _, _, _, rfl⟩ | ⟨x, hx, hne, _⟩
  · cases hx
  · exact h.take hmine hid rfl rfl rfl rfl rfl rfl rfl rfl
      (fun x hx => moved_approvals_of_ne hx) (moved_approvals_self (ho ▸ hz)) rfl rfl
  · cases hx
    exact absurd rfl hne

theorem custody_fundSale {sender : Address} {value saleId : Uint256} (h : Custody d strict w)
    (hw : fundSale d sender value saleId w = .ok w') : Custody d strict w' := by
  obtain ⟨hl, _, _, _, expiresAt, total, _, _, _, rfl⟩ := fundSale_ok hw
  exact h.restatus { w.sales saleId with
      buyer := sender, fundedAt := Fin.ofNat _ w.timestamp, expiresAt, status := .funded }
    (.inl hl) (.inr (.inl rfl)) rfl (h.unreclaimed saleId (.inl hl)) rfl rfl rfl rfl rfl

theorem custody_cancelSale {sender : Address} {saleId : Uint256} (h : Custody d strict w)
    (hw : cancelSale sender saleId w = .ok w') : Custody d strict w' := by
  obtain ⟨hl, _, rfl⟩ := cancelSale_ok hw
  have hr := h.unreclaimed saleId (.inl hl)
  exact h.restatus { w.sales saleId with status := .cancelled } (.inl hl)
    (.inr (.inr ⟨.inl rfl, hr⟩)) rfl hr rfl rfl rfl rfl rfl

theorem custody_expireSale {saleId : Uint256} (h : Custody d strict w)
    (hw : expireSale saleId w = .ok w') : Custody d strict w' := by
  obtain ⟨hf, _, _, rfl⟩ := expireSale_ok hw
  have hr := h.unreclaimed saleId (.inr hf)
  exact h.restatus { w.sales saleId with status := .expired } (.inr (.inl hf))
    (.inr (.inr ⟨.inr rfl, hr⟩)) rfl hr rfl rfl rfl rfl rfl

theorem custody_send
    (hreact : ∀ w w', Custody d strict w → react w = .ok w' → Custody d strict w')
    {w₀ : World VehicleNFT} {saleId : Uint256} (sale : Sale) {dst : Address}
    (hw : nftSafeTransferFrom d vehicleNFT react d.escrow dst (w.sales saleId).tokenId w₀ =
      .ok w') (h : Custody d strict w) (hin : (w.sales saleId).InCustody)
    (hout : ¬sale.InCustody) (hd : dst ≠ d.escrow)
    (hs : w₀.sales = Function.update w.sales saleId sale)
    (hc : w₀.custodySaleId = Function.update w.custodySaleId (w.sales saleId).tokenId 0)
    (hn : w₀.saleCount = w.saleCount) (hp : w₀.pendingReceipt = w.pendingReceipt)
    (ht : w₀.token = w.token) : Custody d strict w' := by
  obtain ⟨r, hr, happly⟩ := nftSafeTransferFrom_ok hw
  obtain ⟨h0, _, _, _, rfl⟩ := VehicleNFT.safeTransferFrom_ok hr
  refine custody_applyToken hreact (hp ▸ h.idle) (fun logs => ?_) happly
  exact h.release hin hout hd h0 hs hc hn hp (by rw [ht]; rfl)
    (fun x hx => by rw [ht]; exact moved_approvals_of_ne hx) (by rw [ht]; rfl) (by rw [ht]; rfl)

theorem custody_completeSale
    (hreact : ∀ w w', Custody d strict w → react w = .ok w' → Custody d strict w')
    (sender : Caller d) {saleId : Uint256} (h : Custody d strict w)
    (hw : completeSale d vehicleNFT react sender.address saleId w = .ok w') :
    Custody d strict w' := by
  obtain ⟨hf, hsender, _, htransfer, _⟩ := completeSale_ok hw
  refine custody_send hreact { w.sales saleId with status := .completed } htransfer h
    (.inr (.inl hf)) ?_ ?_ rfl rfl rfl rfl rfl
  · simp [Sale.InCustody]
  · exact hsender ▸ sender.ne_escrow

theorem custody_reclaimToken
    (hreact : ∀ w w', Custody d strict w → react w = .ok w' → Custody d strict w')
    {sender : Address} {saleId : Uint256} {recipient : Address} (h : Custody d strict w)
    (hw : reclaimToken d vehicleNFT react sender saleId recipient w = .ok w') :
    Custody d strict w' := by
  obtain ⟨_, hst, hrec, _, hne, w₁, htransfer, rfl⟩ := reclaimToken_ok hw
  have h₁ : Custody d strict w₁ := by
    refine custody_send hreact { w.sales saleId with tokenReclaimed := true } htransfer h
      (.inr (.inr ⟨hst, hrec⟩)) ?_ hne rfl rfl rfl rfl rfl
    rcases hst with h | h <;> simp [Sale.InCustody, h]
  exact h₁.of_eq rfl rfl rfl rfl rfl

theorem custody_withdrawPayment
    (hreact : ∀ w w', Custody d strict w → react w = .ok w' → Custody d strict w')
    {sender : Address} {saleId : Uint256} {recipient : Address} (h : Custody d strict w)
    (hw : withdrawPayment d react sender saleId recipient w = .ok w') : Custody d strict w' := by
  obtain ⟨_, _, _, _, total, w₁, _, _, _, hr, _, rfl⟩ := withdrawPayment_ok hw
  refine (hreact _ _ ?_ hr).of_eq rfl rfl rfl rfl rfl
  exact h.of_eq rfl rfl rfl rfl rfl

theorem custody_nonReentrant {body : World VehicleNFT → Except Revert (World VehicleNFT)}
    (hbody : ∀ w₁, body { w with entered := true } = .ok w₁ → Custody d strict w₁)
    (hw : nonReentrant body w = .ok w') : Custody d strict w' := by
  obtain ⟨_, w₁, hb, rfl⟩ := nonReentrant_ok hw
  exact (hbody w₁ hb).of_eq rfl rfl rfl rfl rfl

theorem custody_dispatch
    (hreact : ∀ w w', Custody d strict w → react w = .ok w' → Custody d strict w')
    (sender : Caller d) {value : Uint256} {message : Message VehicleOp} (h : Custody d strict w)
    (hw : dispatch d vehicleNFT sender.address value message react w = .ok w') :
    Custody d strict w' := by
  have he : Custody d strict { w with entered := true } := h.of_eq rfl rfl rfl rfl rfl
  have hd := dispatch_ok hw
  cases message with
  | createSale tokenId priceWei allowedBuyer =>
    exact custody_nonReentrant (fun _ hb => custody_createSale sender he hb) hd
  | fundSale saleId =>
    have hv : Custody d strict { w with entered := true, balance := w.balance + value.val } :=
      h.of_eq rfl rfl rfl rfl rfl
    exact custody_nonReentrant (fun _ hb => custody_fundSale hv hb) hd
  | completeSale saleId =>
    exact custody_nonReentrant (fun _ hb => custody_completeSale hreact sender he hb) hd
  | cancelSale saleId => exact custody_nonReentrant (fun _ hb => custody_cancelSale he hb) hd
  | expireSale saleId => exact custody_nonReentrant (fun _ hb => custody_expireSale he hb) hd
  | withdrawPayment saleId recipient =>
    exact custody_nonReentrant (fun _ hb => custody_withdrawPayment hreact he hb) hd
  | reclaimToken saleId recipient =>
    exact custody_nonReentrant (fun _ hb => custody_reclaimToken hreact he hb) hd
  | onERC721Received operator src tokenId =>
    obtain ⟨hs, _⟩ := onERC721Received_ok hd
    exact absurd hs sender.ne_nft
  | token op =>
    obtain ⟨r, hop, hr⟩ := hd
    exact custody_token hreact sender h hop hr

end Messages

theorem custody_run (steps : List (Step d VehicleOp)) (h : Custody d strict w) :
    Custody d strict (run d vehicleNFT steps w) :=
  run_invariant (Custody d strict)
    (fun _ _ h => h.of_eq rfl rfl rfl rfl rfl)
    (fun _ _ h => h.of_eq rfl rfl rfl rfl rfl)
    (fun sender _ _ _ hreact _ _ h hw => custody_dispatch hreact sender h hw)
    steps w h

/-- From the moment the token is bound to an escrow that owns nothing, the
tokens of the escrow are exactly those of the sales in custody, one sale each. -/
theorem custody_bijection (d : Deployment) (owner : Address) (balance timestamp : ℕ)
    (before after : List (Step d VehicleOp))
    (hbound : (run d vehicleNFT before
      (deployed (VehicleNFT.deployed owner) balance timestamp)).token.motorCoveEscrow = d.escrow)
    (hempty : ∀ t, (run d vehicleNFT before
      (deployed (VehicleNFT.deployed owner) balance timestamp)).token.ownerOf t ≠ .ok d.escrow) :
    let w := run d vehicleNFT (before ++ after)
      (deployed (VehicleNFT.deployed owner) balance timestamp)
    (∀ t, w.token.ownerOf t = .ok d.escrow ↔
        ∃! s, (w.sales s).tokenId = t ∧ (w.sales s).InCustody) ∧
      (∀ s, (w.sales s).InCustody → w.custodySaleId (w.sales s).tokenId = s) ∧
      (∀ t, w.token.ownerOf t ≠ .ok d.escrow → w.custodySaleId t = 0) ∧
      w.pendingReceipt.active = false := by
  intro w
  have h₀ : Custody d False _ := custody_run before (custody_deployed d owner balance timestamp)
  have hstrict : Custody d True w := by
    rw [show w = run d vehicleNFT after _ from run_append d vehicleNFT before after _]
    refine custody_run after { h₀ with bound := fun _ => hbound, noStray := fun _ t ht => ?_ }
    exact absurd (VehicleNFT.ownerOf_ok.mpr ⟨d.escrow_ne_zero, ht⟩) (hempty t)
  have howner : ∀ t, w.token.ownerOf t = .ok d.escrow ↔ w.token.owners t = d.escrow := fun t =>
    VehicleNFT.ownerOf_ok.trans (and_iff_right d.escrow_ne_zero)
  refine ⟨fun t => ?_, fun s hs => (hstrict.held s hs).2, fun t ht => ?_, hstrict.idle⟩
  · rw [howner]
    constructor
    · intro ht
      obtain ⟨hin, hid⟩ := hstrict.tracked t (hstrict.noStray trivial t ht)
      refine ⟨w.custodySaleId t, ⟨hid, hin⟩, ?_⟩
      rintro s ⟨rfl, hs⟩
      exact (hstrict.held s hs).2.symm
    · rintro ⟨s, ⟨rfl, hs⟩, _⟩
      exact (hstrict.held s hs).1
  · by_contra hne
    obtain ⟨hin, hid⟩ := hstrict.tracked t hne
    have hh := (hstrict.held _ hin).1
    rw [hid] at hh
    exact ht ((howner t).mpr hh)

/-- A deployment with small addresses, and the account that deployed its token. -/
def localDeployment : Deployment where
  escrow := 1
  nft := 2
  fundingPeriodSeconds := 3600
  escrow_ne_zero := by decide
  nft_ne_zero := by decide
  period_ne_zero := by decide

def localOwner : Caller localDeployment := ⟨3, by decide, by decide, by decide⟩

def binding : List (Step localDeployment VehicleOp) :=
  [.transact (.call localOwner 0 (.token (.setEscrow 1)) true [])]

def listing : List (Step localDeployment VehicleOp) :=
  [.transact (.call localOwner 0 (.token (.mint 3)) true []),
    .transact (.call localOwner 0 (.token (.approve 1 1)) true []),
    .transact (.call localOwner 0 (.createSale 1 5 4) true [])]

theorem custody_bijection_listing :
    let w := run localDeployment vehicleNFT (binding ++ listing)
      (deployed (VehicleNFT.deployed 3) 0 1)
    w.token.ownerOf 1 = .ok localDeployment.escrow ∧
      (∃! s, (w.sales s).tokenId = 1 ∧ (w.sales s).InCustody) ∧
      w.pendingReceipt.active = false := by
  have h := custody_bijection localDeployment 3 0 1 binding listing rfl (fun t h => by cases h)
  have howner : (run localDeployment vehicleNFT (binding ++ listing)
      (deployed (VehicleNFT.deployed 3) 0 1)).token.ownerOf 1 = .ok localDeployment.escrow := rfl
  exact ⟨howner, (h.1 1).mp howner, h.2.2.2⟩

end MotorCove.Chain
