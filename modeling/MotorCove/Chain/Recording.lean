import MotorCove.Chain.Transactions

/-!
# Recorded runs

A record is kept beside the token contract's state while the same escrow code
runs: each call that returns, with its sender, its ether, its message and the
sales and claims it found; each transfer the escrow asks the token contract
for; each forced amount. Forgetting the record gives the run itself.
-/

set_option autoImplicit false

namespace MotorCove.Chain
open MotorCove.Fallible

/-- A call is entered where it starts, so before the calls of its recipients. -/
inductive Entry (Op : Type) where
  | called (sender : Address) (value : Uint256) (message : Message Op)
      (sales : Uint256 → Sale) (claims : Uint256 → PaymentClaim)
  | sent (t : Transfer)
  | forced (amount : ℕ)

structure Recorded (S Op : Type) where
  token : S
  record : List (Entry Op)

variable {S Op : Type}

def TokenResult.recorded (r : TokenResult S) (record : List (Entry Op)) :
    TokenResult (Recorded S Op) :=
  ⟨⟨r.state, record⟩, r.transfers, r.received⟩

/-- The same token contract, with each transfer made by the escrow entered. -/
def recording (nft : IERC721 S Op) : IERC721 (Recorded S Op) Op where
  ownerOf s tokenId := nft.ownerOf s.token tokenId
  safeTransferFrom sender src dst tokenId s :=
    (nft.safeTransferFrom sender src dst tokenId s.token).map fun r =>
      r.recorded (s.record ++ [.sent ⟨src, dst, tokenId⟩])
  perform sender op s := (nft.perform sender op s.token).map fun r => r.recorded s.record

def World.note (w : World (Recorded S Op)) (e : Entry Op) : World (Recorded S Op) :=
  { w with token := ⟨w.token.token, w.token.record ++ [e]⟩ }

def World.forget (w : World (Recorded S Op)) : World S :=
  { w with token := w.token.token }

mutual
def execRecorded (d : Deployment) (nft : IERC721 S Op) :
    Call d Op → World (Recorded S Op) → Except Revert (World (Recorded S Op))
  | .forceEther amount, w => .ok ({ w with balance := w.balance + amount }.note (.forced amount))
  | .call sender value message accepts reaction, w =>
    dispatch d (recording nft) sender.address value message
      (respond accepts fun w => execAllRecorded d nft reaction w)
      (w.note (.called sender.address value message w.sales w.claims))

/-- A reverted call leaves no entry, and neither do the calls made in it. -/
def execAllRecorded (d : Deployment) (nft : IERC721 S Op) :
    List (Call d Op) → World (Recorded S Op) → World (Recorded S Op)
  | [], w => w
  | c :: cs, w =>
    match execRecorded d nft c w with
    | .ok w' => execAllRecorded d nft cs w'
    | .error _ => execAllRecorded d nft cs w
end

def stepRecorded (d : Deployment) (nft : IERC721 S Op) (w : World (Recorded S Op)) :
    Step d Op → World (Recorded S Op)
  | .advance seconds => { w with timestamp := w.timestamp + seconds }
  | .transact c =>
    match execRecorded d nft c w with
    | .ok w' => w'
    | .error _ => w

def runRecorded (d : Deployment) (nft : IERC721 S Op) (steps : List (Step d Op))
    (w : World (Recorded S Op)) : World (Recorded S Op) :=
  steps.foldl (stepRecorded d nft) w

/-- What `f'` does to a recorded world, `f` does to the world without the record. -/
def Forgets (f' : World (Recorded S Op) → Except Revert (World (Recorded S Op)))
    (f : World S → Except Revert (World S)) : Prop :=
  ∀ w, (f' w).map World.forget = f w.forget

section Entrypoints
variable {d : Deployment} {nft : IERC721 S Op} {react' : React (Recorded S Op)} {react : React S}

theorem applyToken_forgets (hreact : Forgets react' react) (r : TokenResult S)
    (record : List (Entry Op)) :
    Forgets (applyToken d react' (r.recorded record)) (applyToken d react r) := by
  intro w
  unfold applyToken
  rcases hreceived : r.received with _ | x
  · simp only [TokenResult.recorded, hreceived]
    rfl
  · simp only [TokenResult.recorded, hreceived]
    by_cases hdst : x.dst = d.escrow
    · rw [if_pos hdst, if_pos hdst]
      exact map_bind_congr rfl fun _ => rfl
    · rw [if_neg hdst, if_neg hdst]
      exact hreact _

theorem nftSafeTransferFrom_forgets (hreact : Forgets react' react) (src dst : Address)
    (tokenId : Uint256) :
    Forgets (nftSafeTransferFrom d (recording nft) react' src dst tokenId)
      (nftSafeTransferFrom d nft react src dst tokenId) := by
  intro w
  simp only [nftSafeTransferFrom, recording, map_bind]
  exact map_bind_congr rfl fun r => applyToken_forgets hreact r _ w

theorem createSale_forgets (hreact : Forgets react' react) (sender : Address)
    (tokenId priceWei : Uint256) (allowedBuyer : Address) :
    Forgets (createSale d (recording nft) react' sender tokenId priceWei allowedBuyer)
      (createSale d nft react sender tokenId priceWei allowedBuyer) := by
  intro w
  refine map_bind_congr rfl fun _ => map_bind_congr rfl fun _ => map_bind_congr rfl fun _ => ?_
  refine map_bind_congr rfl fun owner => map_bind_congr rfl fun _ => map_bind_congr rfl fun _ => ?_
  refine map_bind_forget (nftSafeTransferFrom_forgets hreact _ _ _ _) fun w₁ => ?_
  exact map_bind_congr rfl fun _ => map_bind_congr rfl fun _ => rfl

theorem fundSale_forgets (sender : Address) (value saleId : Uint256) :
    @Forgets S Op (fundSale d sender value saleId)
      (fundSale d sender value saleId) := by
  intro w
  refine map_bind_congr rfl fun sale => map_bind_congr rfl fun _ => map_bind_congr rfl fun _ => ?_
  refine map_bind_congr rfl fun _ => map_bind_congr rfl fun _ => map_bind_congr rfl fun _ => ?_
  exact map_bind_congr rfl fun _ => map_bind_congr rfl fun _ => rfl

theorem completeSale_forgets (hreact : Forgets react' react) (sender : Address)
    (saleId : Uint256) :
    Forgets (completeSale d (recording nft) react' sender saleId)
      (completeSale d nft react sender saleId) := by
  intro w
  refine map_bind_congr rfl fun sale => map_bind_congr rfl fun _ => map_bind_congr rfl fun _ => ?_
  refine map_bind_congr rfl fun _ => ?_
  refine map_bind_forget (nftSafeTransferFrom_forgets hreact _ _ _ _) fun w₁ => ?_
  exact map_bind_congr rfl fun _ => rfl

theorem cancelSale_forgets (sender : Address) (saleId : Uint256) :
    @Forgets S Op (cancelSale sender saleId) (cancelSale sender saleId) := by
  intro w
  refine map_bind_congr rfl fun sale => map_bind_congr rfl fun _ => ?_
  exact map_bind_congr rfl fun _ => rfl

theorem expireSale_forgets (saleId : Uint256) :
    @Forgets S Op (expireSale saleId) (expireSale saleId) := by
  intro w
  refine map_bind_congr rfl fun sale => map_bind_congr rfl fun _ => ?_
  exact map_bind_congr rfl fun _ => map_bind_congr rfl fun _ => rfl

theorem pay_forgets (hreact : Forgets react' react) (recipient : Address) (amount : Uint256) :
    Forgets (pay react' recipient amount) (pay react recipient amount) := by
  intro w
  unfold pay
  by_cases hbalance : w.balance < amount.val
  · have hforget : w.forget.balance < amount.val := hbalance
    rw [if_pos hbalance, if_pos hforget]
    rfl
  · have hforget : ¬w.forget.balance < amount.val := hbalance
    rw [if_neg hbalance, if_neg hforget]
    have h : (react' { w with
          balance := w.balance - amount.val
          payments := w.payments ++ [(recipient, amount)] }).map World.forget =
        react { w.forget with
          balance := w.forget.balance - amount.val
          payments := w.forget.payments ++ [(recipient, amount)] } := hreact _
    rw [← h]
    cases react' { w with
        balance := w.balance - amount.val
        payments := w.payments ++ [(recipient, amount)] } with
    | error e => rfl
    | ok w₁ => rfl

theorem withdrawPayment_forgets (hreact : Forgets react' react) (sender : Address)
    (saleId : Uint256) (recipient : Address) :
    Forgets (withdrawPayment d react' sender saleId recipient)
      (withdrawPayment d react sender saleId recipient) := by
  intro w
  refine map_bind_congr rfl fun _ => map_bind_congr rfl fun _ => map_bind_congr rfl fun _ => ?_
  refine map_bind_congr rfl fun total => ?_
  refine map_bind_forget (pay_forgets hreact _ _ _) fun w₁ => ?_
  exact map_bind_congr rfl fun _ => rfl

theorem reclaimToken_forgets (hreact : Forgets react' react) (sender : Address)
    (saleId : Uint256) (recipient : Address) :
    Forgets (reclaimToken d (recording nft) react' sender saleId recipient)
      (reclaimToken d nft react sender saleId recipient) := by
  intro w
  refine map_bind_congr rfl fun sale => map_bind_congr rfl fun _ => map_bind_congr rfl fun _ => ?_
  refine map_bind_congr rfl fun _ => map_bind_congr rfl fun _ => ?_
  exact map_bind_forget (nftSafeTransferFrom_forgets hreact _ _ _ _) fun w₁ => rfl

theorem nonReentrant_forgets {body' : World (Recorded S Op) → Except Revert (World (Recorded S Op))}
    {body : World S → Except Revert (World S)} (hbody : Forgets body' body) :
    Forgets (nonReentrant body') (nonReentrant body) := by
  intro w
  refine map_bind_congr rfl fun _ => ?_
  exact map_bind_forget (hbody _) fun w₁ => rfl

theorem dispatch_forgets (hreact : Forgets react' react) (sender : Address) (value : Uint256)
    (message : Message Op) :
    Forgets (dispatch d (recording nft) sender value message react')
      (dispatch d nft sender value message react) := by
  intro w
  refine map_bind_congr rfl fun _ => ?_
  cases message with
  | createSale tokenId priceWei allowedBuyer =>
    exact nonReentrant_forgets (createSale_forgets hreact _ _ _ _) _
  | fundSale saleId => exact nonReentrant_forgets (fundSale_forgets _ _ _) _
  | completeSale saleId => exact nonReentrant_forgets (completeSale_forgets hreact _ _) _
  | cancelSale saleId => exact nonReentrant_forgets (cancelSale_forgets _ _) _
  | expireSale saleId => exact nonReentrant_forgets (expireSale_forgets _) _
  | withdrawPayment saleId recipient =>
    exact nonReentrant_forgets (withdrawPayment_forgets hreact _ _ _) _
  | reclaimToken saleId recipient =>
    exact nonReentrant_forgets (reclaimToken_forgets hreact _ _ _) _
  | onERC721Received operator src tokenId => exact map_bind_congr rfl fun _ => rfl
  | token op =>
    simp only [recording, map_bind]
    exact map_bind_congr rfl fun r => applyToken_forgets hreact r _ _

end Entrypoints

section Runs
variable (d : Deployment) (nft : IERC721 S Op)

theorem respond_forgets (accepts : Bool) {calls' : World (Recorded S Op) → World (Recorded S Op)}
    {calls : World S → World S} (h : ∀ w, (calls' w).forget = calls w.forget) :
    Forgets (respond accepts calls') (respond accepts calls) := by
  intro w
  unfold respond
  cases accepts with
  | true => exact congrArg Except.ok (h w)
  | false => rfl

mutual
/-- By induction on the call and its reactions; the code never reads the record. -/
theorem execRecorded_forgets :
    ∀ c : Call d Op, Forgets (execRecorded d nft c) (exec d nft c)
  | .forceEther amount => by
    intro w
    rw [execRecorded, exec]
    rfl
  | .call sender value message accepts reaction => by
    intro w
    rw [execRecorded, exec]
    exact dispatch_forgets
      (respond_forgets accepts fun w => execAllRecorded_forget reaction w) _ _ _ _

theorem execAllRecorded_forget : ∀ (cs : List (Call d Op)) (w : World (Recorded S Op)),
    (execAllRecorded d nft cs w).forget = execAll d nft cs w.forget
  | [], w => by
    rw [execAllRecorded, execAll]
  | c :: cs, w => by
    have h := execRecorded_forgets c w
    rw [execAllRecorded, execAll, ← h]
    cases execRecorded d nft c w with
    | error e => exact execAllRecorded_forget cs w
    | ok w' => exact execAllRecorded_forget cs w'
end

theorem stepRecorded_forget (w : World (Recorded S Op)) (s : Step d Op) :
    (stepRecorded d nft w s).forget = step d nft w.forget s := by
  cases s with
  | advance seconds => rfl
  | transact c =>
    have h := execRecorded_forgets d nft c w
    rw [stepRecorded, step, ← h]
    cases execRecorded d nft c w with
    | error e => rfl
    | ok w' => rfl

theorem runRecorded_forget (steps : List (Step d Op)) (w : World (Recorded S Op)) :
    (runRecorded d nft steps w).forget = run d nft steps w.forget := by
  induction steps generalizing w with
  | nil => rfl
  | cons s steps ih =>
    have h := ih (stepRecorded d nft w s)
    rw [stepRecorded_forget] at h
    exact h

end Runs
end MotorCove.Chain
