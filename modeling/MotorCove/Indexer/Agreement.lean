import MotorCove.Chain.Custody
import MotorCove.Indexer.Refinement

/-!
# Contract and projection agree on every run

Logs leave a call in an order that differs from the order of its writes: a
withdrawal and a reclaim write first, call out, and log last. While the guard
is held a nested call can only move tokens, so the writes that wait for their
log stay as they are.
-/

set_option autoImplicit false

namespace MotorCove.Indexer
open MotorCove.Text MotorCove.Fallible
open MotorCove.Chain (Address Deployment Log Uint256 Uint64 World React VehicleNFT VehicleOp
  TokenResult Caller Message Step Solvent)

/-- The journal of the logs applies without error and shows the contract's state. -/
def Refines (d : Deployment) (render : Address → String) (place : ℕ → Place)
    (sales : Uint256 → Chain.Sale) (claims : Uint256 → Chain.PaymentClaim) (logs : List Log) :
    Prop :=
  ∃ p, applyEvents (render d.nft) (journal d render place logs) noProjections = .ok p ∧
    Shown d sales claims logs p

/-- The owner of each token is the receiver of its last transfer. -/
def Logged (w : World VehicleNFT) : Prop := ∀ t, w.token.owners t = lastOwner w.logs t

section
variable {d : Deployment} {render : Address → String} {place : ℕ → Place}
variable {sales sales' : Uint256 → Chain.Sale} {claims claims' : Uint256 → Chain.PaymentClaim}
variable {logs : List Log}

theorem refines_deployed :
    Refines d render place (fun _ => Chain.noSale) (fun _ => Chain.noClaim) [] :=
  ⟨noProjections, rfl, shown_deployed d⟩

theorem Refines.emit (h : Refines d render place sales claims logs) {log : Log}
    (hstep : ∀ ordered p, ordered.blockNumber < 2^53 → ordered.logIndex < 2^53 →
      ordered.event = decode render log → ordered.contractAddress = render (emitter d log) →
      Projections.Valid p → Shown d sales claims logs p →
      ∃ p', applyEvent (render d.nft) ordered p = .ok p' ∧
        Shown d sales' claims' (logs ++ [log]) p') :
    Refines d render place sales' claims' (logs ++ [log]) := by
  obtain ⟨p, hp, hshown⟩ := h
  obtain ⟨p', hp', hshown'⟩ := hstep (orderedEvent d render place logs.length log) p
    (place logs.length).blockNumber_safe (place logs.length).logIndex_safe rfl rfl
    (applyEvents_valid valid_noProjections hp) hshown
  refine ⟨p', ?_, hshown'⟩
  rw [journal_concat, applyEvents, foldlM_append_ok]
  refine ⟨p, hp, ?_⟩
  simpa using hp'

variable (hrender : ∀ a, lower (render a) = address a)
include hrender

theorem Refines.transfers (h : Refines d render place sales claims logs)
    (ts : List Chain.Transfer) (hts : ∀ t ∈ ts, t.dst ≠ 0) :
    Refines d render place sales claims (logs ++ ts.map .transfer) := by
  induction ts generalizing logs with
  | nil => simpa using h
  | cons t ts ih =>
    have ht : Refines d render place sales claims (logs ++ [.transfer t]) :=
      h.emit fun ordered p hb hl he hc hp hs =>
        shown_transfer hrender hb hl hp hs (hts t List.mem_cons_self) he hc
    have hrest := ih ht fun x hx => hts x (List.mem_cons_of_mem t hx)
    rwa [List.map_cons, ← List.singleton_append, ← List.append_assoc]

end

section Calls
variable (d : Deployment) (render : Address → String) (place : ℕ → Place)

/-- One call, nested or not. Under the guard only tokens move. -/
structure Tracks (w w' : World VehicleNFT) : Prop where
  time : w.timestamp ≤ w'.timestamp
  guarded : w.entered = true → w'.entered = true ∧ w'.sales = w.sales ∧ w'.claims = w.claims ∧
    ∃ ts : List Chain.Transfer, (∀ t ∈ ts, t.dst ≠ 0) ∧ w'.logs = w.logs ++ ts.map .transfer
  solvent : Solvent w → Solvent w'
  logged : Logged w → Logged w'
  free : w.entered = false → w'.entered = false
  refines : w.entered = false → Solvent w → 0 < w.timestamp → w'.timestamp < 2^53 →
    Refines d render place w.sales w.claims w.logs → Refines d render place w'.sales w'.claims w'.logs

variable {d render place} {w w' w'' : World VehicleNFT}

theorem Tracks.refl : Tracks d render place w w where
  time := le_rfl
  guarded := fun h => ⟨h, rfl, rfl, [], by simp, by simp⟩
  solvent := id
  logged := id
  free := id
  refines := fun _ _ _ _ h => h

theorem Tracks.trans (h₁ : Tracks d render place w w') (h₂ : Tracks d render place w' w'') :
    Tracks d render place w w'' where
  time := le_trans h₁.time h₂.time
  guarded := by
    intro he
    obtain ⟨he', hs', hc', ts, hts, hl'⟩ := h₁.guarded he
    obtain ⟨he'', hs'', hc'', us, hus, hl''⟩ := h₂.guarded he'
    refine ⟨he'', hs''.trans hs', hc''.trans hc', ts ++ us, ?_, ?_⟩
    · intro t ht
      rcases List.mem_append.mp ht with ht | ht
      · exact hts t ht
      · exact hus t ht
    · rw [hl'', hl', List.map_append, List.append_assoc]
  solvent := fun h => h₂.solvent (h₁.solvent h)
  logged := fun h => h₂.logged (h₁.logged h)
  free := fun h => h₂.free (h₁.free h)
  refines := fun he hs h0 ht h => h₂.refines (h₁.free he) (h₁.solvent hs)
    (lt_of_lt_of_le h0 h₁.time) ht
    (h₁.refines he hs h0 (lt_of_le_of_lt h₂.time ht) h)

theorem Tracks.of_eq (ht : w.timestamp ≤ w'.timestamp) (he : w'.entered = w.entered)
    (hc : w'.saleCount = w.saleCount) (hl : w'.totalLiability = w.totalLiability)
    (hs : w'.sales = w.sales) (hcl : w'.claims = w.claims) (hb : w.balance ≤ w'.balance)
    (htok : w'.token = w.token) (hlogs : w'.logs = w.logs) : Tracks d render place w w' where
  time := ht
  guarded := fun h => ⟨he.trans h, hs, hcl, [], by simp, by simp [hlogs]⟩
  solvent := fun h => h.of_eq hc hl hs hcl hb
  logged := by
    intro h t
    rw [htok, hlogs]
    exact h t
  free := he.trans
  refines := by
    intro _ _ _ _ h
    rw [hs, hcl, hlogs]
    exact h

theorem Logged.moved (h : Logged w) {t : Uint256} {src dst : Address}
    (ho : w'.token.owners = Function.update w.token.owners t dst)
    (hlogs : w'.logs = w.logs ++ [.transfer ⟨src, dst, t⟩]) : Logged w' := by
  intro x
  rw [ho, hlogs, lastOwner_concat]
  change Function.update w.token.owners t dst x = if t = x then dst else lastOwner w.logs x
  by_cases hx : x = t
  · subst hx
    rw [Function.update_self, if_pos rfl]
  · rw [Function.update_of_ne hx, if_neg (Ne.symm hx)]
    exact h x

variable (hrender : ∀ a, lower (render a) = address a)
variable {react : React VehicleNFT}
variable (hreact : ∀ w w', react w = .ok w' → Tracks d render place w w')

include hrender hreact

theorem tracks_applyToken {r : TokenResult VehicleNFT} (hdst : ∀ t ∈ r.transfers, t.dst ≠ 0)
    (hlogged : Logged w →
      Logged { w with token := r.state, logs := w.logs ++ r.transfers.map .transfer })
    (hw : Chain.applyToken d react r w = .ok w') : Tracks d render place w w' := by
  have hmoved : Tracks d render place w
      { w with token := r.state, logs := w.logs ++ r.transfers.map .transfer } := {
    time := le_rfl
    guarded := fun he => ⟨he, rfl, rfl, r.transfers, hdst, rfl⟩
    solvent := fun h => h.of_eq rfl rfl rfl rfl le_rfl
    logged := hlogged
    free := id
    refines := fun _ _ _ _ h => h.transfers hrender r.transfers hdst }
  rcases Chain.applyToken_ok hw with ⟨_, rfl⟩ | ⟨_, _, _, _, _, rfl⟩ | ⟨_, _, _, hr⟩
  · exact hmoved
  · exact hmoved.trans (.of_eq le_rfl rfl rfl rfl rfl rfl le_rfl rfl rfl)
  · exact hmoved.trans (hreact _ _ hr)

theorem tracks_nftSafeTransferFrom {src dst : Address} {tokenId : Uint256}
    (hw : Chain.nftSafeTransferFrom d Chain.vehicleNFT react src dst tokenId w = .ok w') :
    Tracks d render place w w' := by
  obtain ⟨r, hr, happly⟩ := Chain.nftSafeTransferFrom_ok hw
  obtain ⟨h0, _, _, _, rfl⟩ := VehicleNFT.safeTransferFrom_ok hr
  refine tracks_applyToken hrender hreact (fun t ht => ?_) (fun h => ?_) happly
  · rw [List.mem_singleton.mp ht]
    exact h0
  · exact h.moved rfl rfl

theorem tracks_token {sender : Address} {op : VehicleOp} {r : TokenResult VehicleNFT}
    (hop : Chain.vehicleNFT.perform sender op w.token = .ok r)
    (hw : Chain.applyToken d react r w = .ok w') : Tracks d render place w w' := by
  rcases VehicleNFT.perform_cases hop with ⟨_, _, _, _, h0, _, _, _, _, rfl⟩ |
      ⟨_, _, h0, _, _, rfl⟩ | ⟨v', rfl, hown, _, _, _⟩
  · refine tracks_applyToken hrender hreact (fun t ht => ?_) (fun h => h.moved rfl rfl) hw
    rw [List.mem_singleton.mp ht]
    exact h0
  · refine tracks_applyToken hrender hreact (fun t ht => ?_) (fun h => h.moved rfl rfl) hw
    rw [List.mem_singleton.mp ht]
    exact h0
  · refine tracks_applyToken hrender hreact (by simp) (fun h t => ?_) hw
    simpa [hown] using h t

end Calls

section EntryPoints
variable (d : Deployment) (render : Address → String) (place : ℕ → Place)

/-- The body of an entry point, which runs under the guard. -/
structure Performs (w w' : World VehicleNFT) : Prop where
  time : w.timestamp ≤ w'.timestamp
  logged : Logged w → Logged w'
  refines : Solvent w → 0 < w.timestamp → w'.timestamp < 2^53 →
    Refines d render place w.sales w.claims w.logs → Refines d render place w'.sales w'.claims w'.logs

variable {d render place} {w w' : World VehicleNFT}
variable (hrender : ∀ a, lower (render a) = address a)

theorem Logged.emit (h : Logged w) {log : Log} (ht : w'.token = w.token)
    (hlogs : w'.logs = w.logs ++ [log])
    (hlog : ∀ t, lastOwner (w.logs ++ [log]) t = lastOwner w.logs t) : Logged w' := by
  intro t
  rw [ht, hlogs, hlog]
  exact h t

include hrender

theorem performs_fundSale {sender : Address} {value saleId : Uint256} (hsender : sender ≠ 0)
    (hw : Chain.fundSale d sender value saleId w = .ok w') : Performs d render place w w' := by
  obtain ⟨hlisted, _, hbuyer, _, expiresAt, total, hexpires, _, _, rfl⟩ := Chain.fundSale_ok hw
  refine ⟨le_rfl, fun h => h.emit rfl rfl fun t => lastOwner_concat _ _ t, fun _ h0 ht h => ?_⟩
  have hnow : (Fin.ofNat (2^64) w.timestamp).val = w.timestamp :=
    Nat.mod_eq_of_lt (lt_trans ht (by norm_num))
  refine h.emit fun ordered p hb hl he _ hp hs =>
    shown_saleFunded hrender hb hl hp hs he hlisted hbuyer hsender ?_ ?_ ?_
  · intro hz
    rw [hz] at hnow
    change 0 = w.timestamp at hnow
    omega
  · intro hz
    rw [hz] at hexpires
    change 0 = _ at hexpires
    omega
  · rw [hnow]
    exact ht

theorem performs_cancelSale {sender : Address} {saleId : Uint256}
    (hw : Chain.cancelSale sender saleId w = .ok w') : Performs d render place w w' := by
  obtain ⟨hlisted, _, rfl⟩ := Chain.cancelSale_ok hw
  refine ⟨le_rfl, fun h => h.emit rfl rfl fun t => lastOwner_concat _ _ t, fun _ _ _ h => ?_⟩
  exact h.emit fun ordered p hb hl he _ hp hs =>
    shown_saleCancelled hrender hb hl hp hs he hlisted

omit hrender in
theorem Shown.price_ne_zero {sales : Uint256 → Chain.Sale} {claims : Uint256 → Chain.PaymentClaim}
    {logs : List Log} {p : Projections} (h : Shown d sales claims logs p) (hp : p.Valid)
    (saleId : Uint256) (hold : (sales saleId).status ≠ .none) : (sales saleId).priceWei ≠ 0 := by
  have hpresent := h.sales saleId
  cases hr : p.sales (text saleId) with
  | none =>
    rw [hr] at hpresent
    exact absurd hpresent hold
  | some r =>
    rw [hr] at hpresent
    have hprice := hp.sales _ r hr ("sale_price_check", canonicalUint256 r.priceWei true)
      (by simp [SaleRow.checks])
    rw [hpresent.2.priceWei] at hprice
    exact (canonicalUint256_pos _).mp hprice

/-- A settled sale opens its claim with the same call: two logs, in this order. -/
theorem Refines.settle {sales : Uint256 → Chain.Sale} {claims : Uint256 → Chain.PaymentClaim}
    {logs : List Log} {saleId : Uint256} {beneficiary : Address} {kind : Chain.ClaimKind}
    {status : Chain.SaleStatus} {settled : Log} (h : Refines d render place sales claims logs)
    (hstatus : status ≠ .none) (hnew : (claims saleId).status = .none)
    (hsettled : ∀ ordered p, ordered.blockNumber < 2^53 → ordered.logIndex < 2^53 →
      ordered.event = decode render settled → Projections.Valid p → Shown d sales claims logs p →
      ∃ p', applyEvent (render d.nft) ordered p = .ok p' ∧
        Shown d (Function.update sales saleId { sales saleId with status }) claims
          (logs ++ [settled]) p') :
    Refines d render place (Function.update sales saleId { sales saleId with status })
      (Function.update claims saleId ⟨beneficiary, (sales saleId).priceWei, kind, .claimable⟩)
      (logs ++ [settled] ++
        [.paymentClaimCreated saleId beneficiary (sales saleId).priceWei kind]) := by
  have h₁ := h.emit fun ordered p hb hl he _ hp hs => hsettled ordered p hb hl he hp hs
  refine h₁.emit fun ordered p hb hl he _ hp hs => ?_
  have hprice := hs.price_ne_zero hp saleId (by rwa [Function.update_self])
  rw [Function.update_self] at hprice
  exact shown_paymentClaimCreated hrender hl hp hs he hprice hnew

theorem performs_expireSale {saleId : Uint256} (hw : Chain.expireSale saleId w = .ok w') :
    Performs d render place w w' := by
  obtain ⟨hfunded, _, _, rfl⟩ := Chain.expireSale_ok hw
  refine ⟨le_rfl, fun h => ?_, fun hsolvent _ _ h => ?_⟩
  · have h₁ : Logged (w.emit (.saleExpired saleId (w.sales saleId).tokenId
        (w.sales saleId).buyer)) := h.emit rfl rfl fun t => lastOwner_concat _ _ t
    exact h₁.emit rfl rfl fun t => lastOwner_concat _ _ t
  · exact h.settle hrender (by simp) (hsolvent.claim_none (by simp [hfunded]) (by simp [hfunded]))
      fun ordered p hb hl he hp hs => shown_saleExpired hrender hb hl hp hs he hfunded

section Nested
variable {react : React VehicleNFT}
variable (hreact : ∀ w w', react w = .ok w' → Tracks d render place w w')

include hreact

theorem performs_completeSale (hentered : w.entered = true) {sender : Address} {saleId : Uint256}
    (hw : Chain.completeSale d Chain.vehicleNFT react sender saleId w = .ok w') :
    Performs d render place w w' := by
  obtain ⟨hfunded, _, _, htransfer, _⟩ := Chain.completeSale_ok hw
  have ht := tracks_nftSafeTransferFrom hrender hreact htransfer
  obtain ⟨_, hs, hc, ts, hts, hl⟩ := ht.guarded hentered
  refine ⟨ht.time, fun h => ht.logged ?_, fun hsolvent _ _ h => ?_⟩
  · have h₁ : Logged (w.emit (.saleCompleted saleId (w.sales saleId).tokenId
        (w.sales saleId).buyer)) := h.emit rfl rfl fun t => lastOwner_concat _ _ t
    exact h₁.emit rfl rfl fun t => lastOwner_concat _ _ t
  · rw [hs, hc, hl]
    refine Refines.transfers hrender ?_ ts hts
    exact h.settle hrender (by simp) (hsolvent.claim_none (by simp [hfunded]) (by simp [hfunded]))
      fun ordered p hb hl he hp hs => shown_saleCompleted hrender hb hl hp hs he hfunded

/-- The token comes in first; the sale is written and logged after it. -/
theorem performs_createSale (hentered : w.entered = true) {sender : Address}
    {tokenId priceWei : Uint256} {allowedBuyer : Address}
    (hw : Chain.createSale d Chain.vehicleNFT react sender tokenId priceWei allowedBuyer w =
      .ok w') : Performs d render place w w' := by
  obtain ⟨hprice, _, _, _, _, w₁, saleId, htransfer, _, hid, rfl⟩ := Chain.createSale_ok hw
  have ht := tracks_nftSafeTransferFrom hrender hreact htransfer
  obtain ⟨_, hs, hc, ts, hts, hl⟩ := ht.guarded hentered
  refine ⟨ht.time, fun h => ?_, fun hsolvent _ _ h => ?_⟩
  · exact (ht.logged h).emit rfl rfl fun t => lastOwner_concat _ _ t
  · have hsolvent₁ : Solvent w₁ := ht.solvent (hsolvent.of_eq rfl rfl rfl rfl le_rfl)
    have h₁ : Refines d render place w₁.sales w₁.claims w₁.logs := by
      rw [hs, hc, hl]
      exact Refines.transfers hrender h ts hts
    exact h₁.emit fun ordered p hb hl he _ hp hs =>
      shown_saleCreated hrender hb hl hp hs he hprice (hsolvent₁.unlisted saleId (by omega))

theorem performs_withdrawPayment (hentered : w.entered = true) {sender : Address}
    {saleId : Uint256} {recipient : Address}
    (hw : Chain.withdrawPayment d react sender saleId recipient w = .ok w') :
    Performs d render place w w' := by
  obtain ⟨hclaimable, _, _, _, total, w₁, _, _, _, hr, _, rfl⟩ := Chain.withdrawPayment_ok hw
  have ht := hreact _ _ hr
  obtain ⟨_, hs, hc, ts, hts, hl⟩ := ht.guarded hentered
  refine ⟨ht.time, fun h => ?_, fun _ _ _ h => ?_⟩
  · have h₁ : Logged w₁ := ht.logged h
    exact h₁.emit rfl rfl fun t => lastOwner_concat _ _ t
  · have h₁ := Refines.transfers hrender h ts hts
    change Refines d render place w₁.sales w₁.claims (w₁.logs ++ [_])
    rw [hs, hc, hl]
    exact h₁.emit fun ordered p _ _ he _ hp hs => shown_paymentWithdrawn hp hs he hclaimable

theorem performs_reclaimToken (hentered : w.entered = true) {sender : Address}
    {saleId : Uint256} {recipient : Address}
    (hw : Chain.reclaimToken d Chain.vehicleNFT react sender saleId recipient w = .ok w') :
    Performs d render place w w' := by
  obtain ⟨_, hstatus, _, _, _, w₁, htransfer, rfl⟩ := Chain.reclaimToken_ok hw
  have ht := tracks_nftSafeTransferFrom hrender hreact htransfer
  obtain ⟨_, hs, hc, ts, hts, hl⟩ := ht.guarded hentered
  refine ⟨ht.time, fun h => ?_, fun _ _ _ h => ?_⟩
  · have h₁ : Logged w₁ := ht.logged h
    exact h₁.emit rfl rfl fun t => lastOwner_concat _ _ t
  · have h₁ := Refines.transfers hrender h ts hts
    change Refines d render place w₁.sales w₁.claims (w₁.logs ++ [_])
    rw [hs, hc, hl]
    exact h₁.emit fun ordered p hb hl he _ hp hs =>
      shown_tokenReclaimed hrender hb hl hp hs he hstatus

end Nested

omit hrender in
/-- An entry point that received `value` runs its body under the guard. -/
theorem tracks_nonReentrant (value : ℕ)
    {body : World VehicleNFT → Except Chain.Revert (World VehicleNFT)}
    (hsolvent : Solvent w → Solvent w')
    (hbody : ∀ w₁, body { w with balance := w.balance + value, entered := true } = .ok w₁ →
      Performs d render place { w with balance := w.balance + value, entered := true } w₁)
    (hw : Chain.nonReentrant body { w with balance := w.balance + value } = .ok w') :
    Tracks d render place w w' := by
  obtain ⟨hentered, w₁, hb, rfl⟩ := Chain.nonReentrant_ok hw
  have h := hbody w₁ hb
  exact {
    time := h.time
    guarded := fun he => absurd (he.symm.trans hentered) (by simp)
    solvent := hsolvent
    logged := h.logged
    free := fun _ => rfl
    refines := fun _ hs h0 ht hr => h.refines (hs.of_eq rfl rfl rfl rfl (Nat.le_add_right _ _)) h0 ht hr }

theorem tracks_message (sender : Caller d) {value : Uint256} {message : Message VehicleOp}
    {react : React VehicleNFT} (hreact : ∀ w w', react w = .ok w' → Tracks d render place w w')
    (hw : Chain.dispatch d Chain.vehicleNFT sender.address value message react w = .ok w') :
    Tracks d render place w w' := by
  have hsolvent : Solvent w → Solvent w' := fun h =>
    Chain.solvent_dispatch (fun w₁ w₂ h₁ hr => (hreact w₁ w₂ hr).solvent h₁) h hw
  have hd := Chain.dispatch_ok hw
  cases message with
  | createSale tokenId priceWei allowedBuyer =>
    exact tracks_nonReentrant 0 hsolvent
      (fun _ hb => performs_createSale hrender hreact rfl hb) hd
  | fundSale saleId =>
    exact tracks_nonReentrant value.val hsolvent
      (fun _ hb => performs_fundSale hrender sender.ne_zero hb) hd
  | completeSale saleId =>
    exact tracks_nonReentrant 0 hsolvent
      (fun _ hb => performs_completeSale hrender hreact rfl hb) hd
  | cancelSale saleId =>
    exact tracks_nonReentrant 0 hsolvent (fun _ hb => performs_cancelSale hrender hb) hd
  | expireSale saleId =>
    exact tracks_nonReentrant 0 hsolvent (fun _ hb => performs_expireSale hrender hb) hd
  | withdrawPayment saleId recipient =>
    exact tracks_nonReentrant 0 hsolvent
      (fun _ hb => performs_withdrawPayment hrender hreact rfl hb) hd
  | reclaimToken saleId recipient =>
    exact tracks_nonReentrant 0 hsolvent
      (fun _ hb => performs_reclaimToken hrender hreact rfl hb) hd
  | onERC721Received operator src tokenId =>
    obtain ⟨_, _, _, rfl⟩ := Chain.onERC721Received_ok hd
    exact .of_eq le_rfl rfl rfl rfl rfl rfl le_rfl rfl rfl
  | token op =>
    obtain ⟨r, hop, hr⟩ := hd
    exact tracks_token hrender hreact hop hr

theorem tracks_run (steps : List (Step d VehicleOp)) (w : World VehicleNFT) :
    Tracks d render place w (Chain.run d Chain.vehicleNFT steps w) := by
  have hkept : Chain.Kept d Chain.vehicleNFT (Tracks d render place) := {
    refl := fun _ => .refl
    trans := fun _ _ _ h₁ h₂ => h₁.trans h₂
    force := fun w n => .of_eq le_rfl rfl rfl rfl rfl rfl (Nat.le_add_right _ _) rfl rfl
    message := fun sender _ _ _ hreact _ _ hw => tracks_message hrender sender hreact hw }
  exact Chain.run_kept hkept
    (fun w n => .of_eq (Nat.le_add_right _ _) rfl rfl rfl rfl rfl le_rfl rfl rfl) steps w

end EntryPoints

theorem Shown.sale_eq {d : Deployment} {w : World VehicleNFT} {p : Projections}
    (h : Shown d w.sales w.claims w.logs p) (saleId : Uint256)
    (hexpires : (w.sales saleId).expiresAt.val < 2^53) :
    (p.sales (text saleId)).map SaleRow.projection =
      (Chain.getSale saleId w).toOption.bind (saleView saleId) := by
  have hpresent := h.sales saleId
  cases hr : p.sales (text saleId) with
  | none =>
    rw [hr] at hpresent
    have hnone : (w.sales saleId).status = .none := hpresent
    simp [Chain.getSale, Chain.requireSale, hnone, Except.toOption]
  | some r =>
    rw [hr] at hpresent
    have hsale : ¬(w.sales saleId).status = .none := hpresent.1
    have hshows := hpresent.2
    simp only [Chain.getSale, Chain.requireSale, hsale, if_false, Except.toOption, saleView,
      Option.bind_some, hshows.status, Option.map_some, SaleRow.projection, hshows.saleId,
      hshows.tokenId, hshows.seller, hshows.allowedBuyer, hshows.buyer, hshows.priceWei,
      hshows.fundedAt, hshows.expiresAt hexpires, map_text_cellOrNull, hshows.tokenReclaimed]

theorem Shown.claim_eq {d : Deployment} {w : World VehicleNFT} {p : Projections}
    (h : Shown d w.sales w.claims w.logs p) (hsolvent : Solvent w) (saleId : Uint256) :
    (p.paymentClaims (text saleId)).map (fun r => { r.projection with recipient := none }) =
      (Chain.getPaymentClaim saleId w).toOption.bind (claimView saleId) := by
  have hpresent := h.claims saleId
  cases hr : p.paymentClaims (text saleId) with
  | none =>
    rw [hr] at hpresent
    have hnone : (w.claims saleId).status = .none := hpresent
    by_cases hsale : (w.sales saleId).status = .none <;>
      simp [Chain.getPaymentClaim, Chain.requireSale, hsale, hnone, Except.toOption, claimView,
        claimStatus]
  | some r =>
    rw [hr] at hpresent
    have hsale : ¬(w.sales saleId).status = .none := by
      rcases hsolvent.settled saleId hpresent.1 with hs | hs <;> simp [hs]
    have hshows := hpresent.2
    simp [Chain.getPaymentClaim, Chain.requireSale, hsale, Except.toOption, claimView,
      hshows.status, PaymentRow.projection, hshows.saleId, hshows.beneficiary, hshows.amountWei,
      hshows.kind]

theorem Shown.owner_eq {d : Deployment} {w : World VehicleNFT} {p : Projections}
    (h : Shown d w.sales w.claims w.logs p) (hlogged : Logged w) (tokenId : Uint256) :
    (p.tokenOwnership (address d.nft, text tokenId)).map OwnershipRow.owner =
      (w.token.ownerOf tokenId).toOption.map address := by
  rw [h.owners, ← hlogged tokenId, addressOrNull, VehicleNFT.ownerOf]
  split <;> rfl

/-- On every run the journal of the emitted logs applies without an error, and
the tables then answer as the contracts do. The chain client prints an address
in some letter case. -/
theorem projection_refines (d : Deployment) (owner : Address) (balance timestamp : ℕ)
    (render : Address → String) (hrender : ∀ a, lower (render a) = address a)
    (place : ℕ → Place) (steps : List (Step d VehicleOp)) (hpositive : 0 < timestamp)
    (htime : (Chain.run d Chain.vehicleNFT steps
      (Chain.deployed (VehicleNFT.deployed owner) balance timestamp)).timestamp < 2^53)
    (hexpires : ∀ s, ((Chain.run d Chain.vehicleNFT steps
      (Chain.deployed (VehicleNFT.deployed owner) balance timestamp)).sales s).expiresAt.val <
        2^53) :
    let w := Chain.run d Chain.vehicleNFT steps
      (Chain.deployed (VehicleNFT.deployed owner) balance timestamp)
    ∃ p, applyEvents (render d.nft) (journal d render place w.logs) noProjections = .ok p ∧
      (∀ s, (p.sales (text s)).map SaleRow.projection =
        (Chain.getSale s w).toOption.bind (saleView s)) ∧
      (∀ s, (p.paymentClaims (text s)).map (fun r => { r.projection with recipient := none }) =
        (Chain.getPaymentClaim s w).toOption.bind (claimView s)) ∧
      ∀ t, (p.tokenOwnership (address d.nft, text t)).map OwnershipRow.owner =
        (w.token.ownerOf t).toOption.map address := by
  intro w
  have h : Tracks d render place _ w := tracks_run hrender steps _
  have hsolvent := Chain.solvent_deployed (VehicleNFT.deployed owner) balance timestamp
  obtain ⟨p, hp, hshown⟩ := h.refines rfl hsolvent hpositive htime refines_deployed
  have hlogged : Logged w := h.logged fun _ => rfl
  exact ⟨p, hp, fun s => hshown.sale_eq s (hexpires s), hshown.claim_eq (h.solvent hsolvent),
    hshown.owner_eq hlogged⟩

def localPlace (i : ℕ) : Place where
  blockNumber := 7
  blockHash := "0x7"
  transactionHash := "0x70"
  transactionIndex := 0
  logIndex := i % 1000
  contractAddress := ""
  topics := []
  data := "0x"
  blockNumber_safe := by norm_num
  logIndex_safe := lt_trans (Nat.mod_lt i (by norm_num)) (by norm_num)

theorem projection_refines_listing : ∃ p,
    applyEvents (address 2) (journal Chain.localDeployment address localPlace
      (Chain.run Chain.localDeployment Chain.vehicleNFT (Chain.binding ++ Chain.listing)
        (Chain.deployed (VehicleNFT.deployed 3) 0 1)).logs) noProjections = .ok p ∧
    (p.sales "1").map SaleRow.projection = some ⟨"1", "1", address 3, address 4, none, "5", none,
      none, .listed, false⟩ ∧
    (p.tokenOwnership (address 2, "1")).map OwnershipRow.owner = some (address 1) := by
  obtain ⟨p, hp, hs, _, ho⟩ := projection_refines Chain.localDeployment 3 0 1 address
    (fun a => lower_hex 40 a.val) localPlace (Chain.binding ++ Chain.listing) (by norm_num)
    (show 1 < 2^53 by norm_num) (fun s => by
      change (Function.update (fun _ => Chain.noSale) 1 (⟨1, 3, 4, 0, 5, 0, 0, .listed, false⟩ :
        Chain.Sale) s).expiresAt.val < 2^53
      by_cases h1 : s = 1
      · subst h1
        exact Nat.two_pow_pos 53
      · rw [Function.update_of_ne h1]
        exact Nat.two_pow_pos 53)
  exact ⟨p, hp, hs 1, ho 1⟩

end MotorCove.Indexer
