import MotorCove.Histories
import MotorCove.Chain.Recording

/-!
# The movements of the escrow

A call changes the escrow in a few single movements, between which others may
act: a sale is listed, money is accepted or paid out, a token is sent out, a
sale is settled. Each movement names the entries it adds to the record. Every
recorded run is a history of such movements, whatever reenters.
-/

set_option autoImplicit false

namespace MotorCove.Chain
open MotorCove.Fallible MotorCove.Histories

variable {S Op : Type}

/-- Not an address of the system: an account that can make calls. -/
structure IsParty (d : Deployment) (a : Address) : Prop where
  ne_zero : a ≠ 0
  ne_escrow : a ≠ d.escrow
  ne_nft : a ≠ d.nft

theorem Caller.isParty {d : Deployment} (c : Caller d) : IsParty d c.address :=
  ⟨c.ne_zero, c.ne_escrow, c.ne_nft⟩

def World.withToken (w : World S) (r : TokenResult S) : World S :=
  { w with token := r.state, logs := w.logs ++ r.transfers.map .transfer }

/-- Messages that move neither the money nor the token of an existing sale. -/
def Message.idle : Message Op → Bool
  | .createSale _ _ _ => true
  | .onERC721Received _ _ _ => true
  | .token _ => true
  | _ => false

/-- One movement, with what the code checked before it and all it changes. -/
inductive Moved (d : Deployment) (nft : IERC721 S Op) :
    World (Recorded S Op) → List (Entry Op) → World (Recorded S Op) → Prop where
  | begun {w : World (Recorded S Op)} {sender : Address} {value : Uint256} {message : Message Op}
      (hidle : message.idle = true) :
      Moved d nft w [.called sender value message w.sales w.claims]
        (w.note (.called sender value message w.sales w.claims))
  | listed {w : World (Recorded S Op)} {saleId tokenId priceWei value : Uint256}
      {seller allowedBuyer : Address} {sales : Uint256 → Sale} {claims : Uint256 → PaymentClaim}
      (hid : saleId.val = w.saleCount.val + 1) (hseller : IsParty d seller)
      (hbuyer : allowedBuyer ≠ seller)
      (hcalled : .called seller value (.createSale tokenId priceWei allowedBuyer) sales claims ∈
        w.token.record) :
      Moved d nft w [] (((({ w with saleCount := saleId }).setSale saleId
        ⟨tokenId, seller, allowedBuyer, 0, priceWei, 0, 0, .listed, false⟩).setCustody
          tokenId saleId).emit (.saleCreated saleId tokenId seller allowedBuyer priceWei))
  | accepted {w : World (Recorded S Op)} {saleId value totalLiability : Uint256} {sender : Address}
      {fundedAt expiresAt : Uint64} (hsender : IsParty d sender)
      (hstatus : (w.sales saleId).status = .listed) (hseller : sender ≠ (w.sales saleId).seller)
      (hbuyer : sender = (w.sales saleId).allowedBuyer)
      (hvalue : value = (w.sales saleId).priceWei) :
      Moved d nft w [.called sender value (.fundSale saleId) w.sales w.claims]
        ((({ w.note (.called sender value (.fundSale saleId) w.sales w.claims) with
            balance := w.balance + value.val, totalLiability }).setSale saleId
          { w.sales saleId with buyer := sender, fundedAt, expiresAt, status := .funded }).emit
            (.saleFunded saleId sender value fundedAt expiresAt))
  | completed {w : World (Recorded S Op)} {saleId value : Uint256} {sender : Address}
      {r : TokenResult S} (hstatus : (w.sales saleId).status = .funded)
      (hsender : sender = (w.sales saleId).buyer)
      (hsend : nft.safeTransferFrom d.escrow d.escrow (w.sales saleId).buyer
        (w.sales saleId).tokenId w.token.token = .ok r) :
      Moved d nft w
        [.called sender value (.completeSale saleId) w.sales w.claims,
          .sent ⟨d.escrow, (w.sales saleId).buyer, (w.sales saleId).tokenId⟩]
        ((((((w.setSale saleId { w.sales saleId with status := .completed }).setCustody
          (w.sales saleId).tokenId 0).setClaim saleId
            ⟨(w.sales saleId).seller, (w.sales saleId).priceWei, .sellerProceeds, .claimable⟩).emit
              (.saleCompleted saleId (w.sales saleId).tokenId (w.sales saleId).buyer)).emit
                (.paymentClaimCreated saleId (w.sales saleId).seller (w.sales saleId).priceWei
                  .sellerProceeds)).withToken (r.recorded (w.token.record ++
          [.called sender value (.completeSale saleId) w.sales w.claims] ++
          [.sent ⟨d.escrow, (w.sales saleId).buyer, (w.sales saleId).tokenId⟩])))
  | cancelled {w : World (Recorded S Op)} {saleId value : Uint256} {sender : Address}
      (hstatus : (w.sales saleId).status = .listed) (hsender : sender = (w.sales saleId).seller) :
      Moved d nft w [.called sender value (.cancelSale saleId) w.sales w.claims]
        (((w.note (.called sender value (.cancelSale saleId) w.sales w.claims)).setSale saleId
          { w.sales saleId with status := .cancelled }).emit
            (.saleCancelled saleId (w.sales saleId).tokenId (w.sales saleId).seller))
  | expired {w : World (Recorded S Op)} {saleId value : Uint256} {sender : Address}
      (hstatus : (w.sales saleId).status = .funded) :
      Moved d nft w [.called sender value (.expireSale saleId) w.sales w.claims]
        (((((w.note (.called sender value (.expireSale saleId) w.sales w.claims)).setSale saleId
          { w.sales saleId with status := .expired }).setClaim saleId
          ⟨(w.sales saleId).buyer, (w.sales saleId).priceWei, .buyerRefund, .claimable⟩).emit
            (.saleExpired saleId (w.sales saleId).tokenId (w.sales saleId).buyer)).emit
              (.paymentClaimCreated saleId (w.sales saleId).buyer (w.sales saleId).priceWei
                .buyerRefund))
  | paid {w : World (Recorded S Op)} {saleId value totalLiability : Uint256}
      {sender recipient : Address} (hstatus : (w.claims saleId).status = .claimable)
      (hsender : sender = (w.claims saleId).beneficiary)
      (hamount : (w.claims saleId).amountWei.val ≤ w.balance) :
      Moved d nft w [.called sender value (.withdrawPayment saleId recipient) w.sales w.claims]
        (({ w.note (.called sender value (.withdrawPayment saleId recipient) w.sales w.claims) with
            totalLiability, balance := w.balance - (w.claims saleId).amountWei.val
            payments := w.payments ++ [(recipient, (w.claims saleId).amountWei)] }).setClaim saleId
          { w.claims saleId with status := .withdrawn })
  | reclaimed {w : World (Recorded S Op)} {saleId value : Uint256} {sender recipient : Address}
      {r : TokenResult S} (hsender : sender = (w.sales saleId).seller)
      (hstatus : (w.sales saleId).status = .cancelled ∨ (w.sales saleId).status = .expired)
      (hreclaimed : (w.sales saleId).tokenReclaimed = false)
      (hsend : nft.safeTransferFrom d.escrow d.escrow recipient (w.sales saleId).tokenId
        w.token.token = .ok r) :
      Moved d nft w
        [.called sender value (.reclaimToken saleId recipient) w.sales w.claims,
          .sent ⟨d.escrow, recipient, (w.sales saleId).tokenId⟩]
        (((w.setSale saleId { w.sales saleId with tokenReclaimed := true }).setCustody
          (w.sales saleId).tokenId 0).withToken (r.recorded (w.token.record ++
          [.called sender value (.reclaimToken saleId recipient) w.sales w.claims] ++
          [.sent ⟨d.escrow, recipient, (w.sales saleId).tokenId⟩])))
  | received {w : World (Recorded S Op)} {src : Address} {tokenId : Uint256} {r : TokenResult S}
      (hsrc : src ≠ d.escrow)
      (hsend : nft.safeTransferFrom d.escrow src d.escrow tokenId w.token.token = .ok r) :
      Moved d nft w [.sent ⟨src, d.escrow, tokenId⟩]
        (w.withToken (r.recorded (w.token.record ++ [.sent ⟨src, d.escrow, tokenId⟩])))
  | tokenCall {w : World (Recorded S Op)} {sender : Address} {op : Op} {r : TokenResult S}
      (hsender : sender ≠ d.escrow) (hcall : nft.perform sender op w.token.token = .ok r) :
      Moved d nft w [] (w.withToken (r.recorded w.token.record))
  | forced {w : World (Recorded S Op)} (amount : ℕ) :
      Moved d nft w [.forced amount]
        ({ w with balance := w.balance + amount }.note (.forced amount))
  | aside {w : World (Recorded S Op)} (entered : Bool) (logs : List Log)
      (pendingReceipt : PendingReceipt) (timestamp : ℕ) :
      Moved d nft w [] { w with entered, logs, pendingReceipt, timestamp }

section Messages
variable {d : Deployment} {nft : IERC721 S Op} {react : React (Recorded S Op)}
variable {w w' : World (Recorded S Op)}

theorem moved_record {entries : List (Entry Op)} (h : Moved d nft w entries w') :
    w'.token.record = w.token.record ++ entries := by
  cases h with
  | completed _ _ _ => exact List.append_assoc _ _ _
  | reclaimed _ _ _ _ => exact List.append_assoc _ _ _
  | begun _ => rfl
  | listed _ _ _ _ => exact (List.append_nil _).symm
  | accepted _ _ _ _ _ => rfl
  | cancelled _ _ => rfl
  | expired _ => rfl
  | paid _ _ _ => rfl
  | received _ _ => rfl
  | tokenCall _ _ => exact (List.append_nil _).symm
  | forced _ => rfl
  | aside _ _ _ _ => exact (List.append_nil _).symm

theorem reaches_record (h : Reaches (Moved d nft) w w') {e : Entry Op}
    (he : e ∈ w.token.record) : e ∈ w'.token.record := by
  refine h.invariant (P := fun w => e ∈ w.token.record) (fun w₁ entries w₂ hw₁ hmoved => ?_) he
  rw [moved_record hmoved]
  exact List.mem_append_left _ hw₁

theorem recording_safeTransferFrom_ok {src dst : Address} {tokenId : Uint256}
    {s : Recorded S Op} {r' : TokenResult (Recorded S Op)}
    (h : (recording nft).safeTransferFrom d.escrow src dst tokenId s = .ok r') :
    ∃ r, nft.safeTransferFrom d.escrow src dst tokenId s.token = .ok r ∧
      r' = r.recorded (s.record ++ [.sent ⟨src, dst, tokenId⟩]) :=
  map_ok.mp h

theorem recording_perform_ok {sender : Address} {op : Op} {s : Recorded S Op}
    {r' : TokenResult (Recorded S Op)} (h : (recording nft).perform sender op s = .ok r') :
    ∃ r, nft.perform sender op s.token = .ok r ∧ r' = r.recorded s.record :=
  map_ok.mp h

/-- A movement that ends in a token call leads on to whatever the receiver does. -/
theorem reaches_applyToken {w₀ : World (Recorded S Op)} {r : TokenResult (Recorded S Op)}
    (hreact : ∀ w w', react w = .ok w' → Reaches (Moved d nft) w w')
    (hmoved : Reaches (Moved d nft) w₀ (w.withToken r)) (hw : applyToken d react r w = .ok w') :
    Reaches (Moved d nft) w₀ w' := by
  rcases applyToken_ok hw with ⟨_, rfl⟩ | ⟨x, _, _, _, _, rfl⟩ | ⟨x, _, _, hr⟩
  · exact hmoved
  · exact hmoved.trans (.of_step (.aside (w.withToken r).entered (w.withToken r).logs noReceipt
      (w.withToken r).timestamp))
  · exact hmoved.trans (hreact _ _ hr)

theorem reaches_createSale
    (hreact : ∀ w w', react w = .ok w' → Reaches (Moved d nft) w w') {sender : Address}
    {tokenId priceWei value : Uint256} {allowedBuyer : Address} {sales : Uint256 → Sale}
    {claims : Uint256 → PaymentClaim} (hsender : IsParty d sender)
    (hcalled : .called sender value (.createSale tokenId priceWei allowedBuyer) sales claims ∈
      w.token.record)
    (hw : createSale d (recording nft) react sender tokenId priceWei allowedBuyer w = .ok w') :
    Reaches (Moved d nft) w w' := by
  obtain ⟨_, _, hbuyer, _, _, w₁, saleId, htransfer, _, hid, rfl⟩ := createSale_ok hw
  obtain ⟨r', hr', happly⟩ := nftSafeTransferFrom_ok htransfer
  obtain ⟨r, hr, rfl⟩ := recording_safeTransferFrom_ok hr'
  have hpending : Reaches (Moved d nft) w { w with pendingReceipt := ⟨sender, tokenId, true⟩ } :=
    .of_step (.aside w.entered w.logs ⟨sender, tokenId, true⟩ w.timestamp)
  have hreceived := hpending.trans (.of_step (.received hsender.ne_escrow hr))
  have hreached := reaches_applyToken hreact hreceived happly
  exact hreached.trans (.of_step (.listed hid hsender hbuyer (reaches_record hreached hcalled)))

/-- The payment is in the escrow when the code runs; the movement takes both together. -/
theorem reaches_fundSale {sender : Address} {value saleId : Uint256} (hsender : IsParty d sender)
    (hw : fundSale d sender value saleId
      { w.note (.called sender value (.fundSale saleId) w.sales w.claims) with
        balance := w.balance + value.val } = .ok w') :
    Reaches (Moved d nft) w w' := by
  obtain ⟨hl, hs, hb, hv, expiresAt, total, _, _, _, rfl⟩ := fundSale_ok hw
  exact .of_step (Moved.accepted (w := w) hsender hl hs hb hv)

theorem reaches_completeSale
    (hreact : ∀ w w', react w = .ok w' → Reaches (Moved d nft) w w') {sender : Address}
    {saleId value : Uint256}
    (hw : completeSale d (recording nft) react sender saleId
      (w.note (.called sender value (.completeSale saleId) w.sales w.claims)) = .ok w') :
    Reaches (Moved d nft) w w' := by
  obtain ⟨hf, hs, _, htransfer, _⟩ := completeSale_ok hw
  obtain ⟨r', hr', happly⟩ := nftSafeTransferFrom_ok htransfer
  obtain ⟨r, hr, rfl⟩ := recording_safeTransferFrom_ok hr'
  exact reaches_applyToken hreact (.of_step (Moved.completed (w := w) hf hs hr)) happly

theorem reaches_cancelSale {sender : Address} {saleId value : Uint256}
    (hw : cancelSale sender saleId
      (w.note (.called sender value (.cancelSale saleId) w.sales w.claims)) = .ok w') :
    Reaches (Moved d nft) w w' := by
  obtain ⟨hl, hs, rfl⟩ := cancelSale_ok hw
  exact .of_step (Moved.cancelled (w := w) hl hs)

theorem reaches_expireSale {sender : Address} {saleId value : Uint256}
    (hw : expireSale saleId
      (w.note (.called sender value (.expireSale saleId) w.sales w.claims)) = .ok w') :
    Reaches (Moved d nft) w w' := by
  obtain ⟨hf, _, _, rfl⟩ := expireSale_ok hw
  exact .of_step (Moved.expired (w := w) hf)

theorem reaches_withdrawPayment
    (hreact : ∀ w w', react w = .ok w' → Reaches (Moved d nft) w w') {sender : Address}
    {saleId value : Uint256} {recipient : Address}
    (hw : withdrawPayment d react sender saleId recipient
      (w.note (.called sender value (.withdrawPayment saleId recipient) w.sales w.claims)) =
        .ok w') :
    Reaches (Moved d nft) w w' := by
  obtain ⟨hc, hs, _, _, total, w₁, _, _, hb, hr, _, rfl⟩ := withdrawPayment_ok hw
  have hpaid : Reaches (Moved d nft) w _ :=
    .of_step (@Moved.paid _ _ d nft w _ value total _ recipient hc hs hb)
  have hreached := hpaid.trans (hreact _ _ hr)
  exact hreached.trans (.of_step (.aside w₁.entered _ w₁.pendingReceipt w₁.timestamp))

theorem reaches_reclaimToken
    (hreact : ∀ w w', react w = .ok w' → Reaches (Moved d nft) w w') {sender : Address}
    {saleId value : Uint256} {recipient : Address}
    (hw : reclaimToken d (recording nft) react sender saleId recipient
      (w.note (.called sender value (.reclaimToken saleId recipient) w.sales w.claims)) =
        .ok w') :
    Reaches (Moved d nft) w w' := by
  obtain ⟨hs, hst, hrec, _, _, w₁, htransfer, rfl⟩ := reclaimToken_ok hw
  obtain ⟨r', hr', happly⟩ := nftSafeTransferFrom_ok htransfer
  obtain ⟨r, hr, rfl⟩ := recording_safeTransferFrom_ok hr'
  have hsent := reaches_applyToken hreact
    (.of_step (Moved.reclaimed (w := w) hs hst hrec hr)) happly
  exact hsent.trans (.of_step (.aside w₁.entered _ w₁.pendingReceipt w₁.timestamp))

theorem reaches_nonReentrant
    {body : World (Recorded S Op) → Except Revert (World (Recorded S Op))}
    {w₀ : World (Recorded S Op)}
    (hbody : ∀ w', body { w₀ with entered := true } = .ok w' →
      Reaches (Moved d nft) { w with entered := true } w')
    (hw : nonReentrant body w₀ = .ok w') : Reaches (Moved d nft) w w' := by
  obtain ⟨_, w₁, hb, rfl⟩ := nonReentrant_ok hw
  have hentered : Reaches (Moved d nft) w { w with entered := true } :=
    .of_step (.aside true w.logs w.pendingReceipt w.timestamp)
  exact (hentered.trans (hbody w₁ hb)).trans
    (.of_step (.aside false w₁.logs w₁.pendingReceipt w₁.timestamp))

theorem reaches_dispatch (hreact : ∀ w w', react w = .ok w' → Reaches (Moved d nft) w w')
    {sender : Address} {value : Uint256} {message : Message Op} (hsender : IsParty d sender)
    (hw : dispatch d (recording nft) sender value message react
      (w.note (.called sender value message w.sales w.claims)) = .ok w') :
    Reaches (Moved d nft) w w' := by
  have hd := dispatch_ok hw
  have hbegun : message.idle = true →
      Reaches (Moved d nft) w (w.note (.called sender value message w.sales w.claims)) :=
    fun hidle => .of_step (.begun hidle)
  cases message with
  | createSale tokenId priceWei allowedBuyer =>
    refine (hbegun rfl).trans (reaches_nonReentrant (fun w₁ hb => ?_) hd)
    exact reaches_createSale hreact hsender (List.mem_append_right _ (List.mem_singleton.mpr rfl)) hb
  | fundSale saleId =>
    exact reaches_nonReentrant
      (fun _ hb => reaches_fundSale (w := { w with entered := true }) hsender hb) hd
  | completeSale saleId =>
    exact reaches_nonReentrant
      (fun _ hb => reaches_completeSale (w := { w with entered := true }) hreact hb) hd
  | cancelSale saleId =>
    exact reaches_nonReentrant
      (fun _ hb => reaches_cancelSale (w := { w with entered := true }) hb) hd
  | expireSale saleId =>
    exact reaches_nonReentrant
      (fun _ hb => reaches_expireSale (w := { w with entered := true }) hb) hd
  | withdrawPayment saleId recipient =>
    exact reaches_nonReentrant
      (fun _ hb => reaches_withdrawPayment (w := { w with entered := true }) hreact hb) hd
  | reclaimToken saleId recipient =>
    exact reaches_nonReentrant
      (fun _ hb => reaches_reclaimToken (w := { w with entered := true }) hreact hb) hd
  | onERC721Received operator src tokenId =>
    obtain ⟨_, _, _, rfl⟩ := onERC721Received_ok hd
    exact (hbegun rfl).trans (.of_step (.aside w.entered w.logs noReceipt w.timestamp))
  | token op =>
    obtain ⟨r', hop', hr⟩ := hd
    obtain ⟨r, hop, rfl⟩ := recording_perform_ok hop'
    refine (hbegun rfl).trans (reaches_applyToken hreact ?_ hr)
    exact .of_step (.tokenCall hsender.ne_escrow hop)

end Messages

section Runs
variable {d : Deployment} {nft : IERC721 S Op}

mutual
/-- By induction on the call and its reactions, which run inside a movement's call. -/
theorem reaches_exec : ∀ (c : Call d Op) (w w' : World (Recorded S Op)),
    execRecorded d nft c w = .ok w' → Reaches (Moved d nft) w w'
  | .forceEther amount, w, w', hw => by
    rw [execRecorded] at hw
    exact Except.ok.inj hw ▸ .of_step (.forced amount)
  | .call sender value message accepts reaction, w, w', hw => by
    rw [execRecorded] at hw
    refine reaches_dispatch (fun w₁ w₂ hr => ?_) sender.isParty hw
    rw [respond_ok hr]
    exact reaches_execAll reaction w₁

theorem reaches_execAll : ∀ (cs : List (Call d Op)) (w : World (Recorded S Op)),
    Reaches (Moved d nft) w (execAllRecorded d nft cs w)
  | [], w => by
    rw [execAllRecorded]
    exact .refl _ w
  | c :: cs, w => by
    rw [execAllRecorded]
    split
    · rename_i w' hw
      exact (reaches_exec c w w' hw).trans (reaches_execAll cs w')
    · exact reaches_execAll cs w
end

theorem reaches_step (w : World (Recorded S Op)) (s : Step d Op) :
    Reaches (Moved d nft) w (stepRecorded d nft w s) := by
  cases s with
  | advance seconds =>
    exact .of_step (.aside w.entered w.logs w.pendingReceipt (w.timestamp + seconds))
  | transact c =>
    rw [stepRecorded]
    split
    · rename_i w' hw
      exact reaches_exec c w w' hw
    · exact .refl _ w

variable (d nft)

theorem reaches_run (steps : List (Step d Op)) (w : World (Recorded S Op)) :
    Reaches (Moved d nft) w (runRecorded d nft steps w) := by
  induction steps generalizing w with
  | nil => exact .refl _ w
  | cons s steps ih => exact (reaches_step w s).trans (ih (stepRecorded d nft w s))

end Runs
end MotorCove.Chain
