import MotorCove.Chain.VehicleNFT

/-!
# Transactions and callbacks

A call names its sender, the ether it carries, its message, and what the
recipient of a token or a payment does when it is called in turn: accept or
reject, after any further calls of its own. Those calls may re-enter the
system at any depth; a reverted one changes nothing. A run is a list of
top-level calls at times that never decrease.
-/

set_option autoImplicit false

namespace MotorCove.Chain
open MotorCove.Fallible

/-- An account that signs calls. The two contracts only act by their code and
the zero address never does. -/
structure Caller (d : Deployment) where
  address : Address
  ne_zero : address ≠ 0
  ne_escrow : address ≠ d.escrow
  ne_nft : address ≠ d.nft

inductive Message (Op : Type) where
  | createSale (tokenId priceWei : Uint256) (allowedBuyer : Address)
  | fundSale (saleId : Uint256)
  | completeSale (saleId : Uint256)
  | cancelSale (saleId : Uint256)
  | expireSale (saleId : Uint256)
  | withdrawPayment (saleId : Uint256) (recipient : Address)
  | reclaimToken (saleId : Uint256) (recipient : Address)
  | onERC721Received (operator src : Address) (tokenId : Uint256)
  | token (op : Op)

/-- A call with the reaction of its recipient, or ether forced into the escrow. -/
inductive Call (d : Deployment) (Op : Type) where
  | call (sender : Caller d) (value : Uint256) (message : Message Op) (accepts : Bool)
      (reaction : List (Call d Op))
  | forceEther (amount : ℕ)

variable {S Op : Type}

def Message.payable : Message Op → Bool
  | .fundSale _ => true
  | _ => false

/-- The ether of a payable call is in the escrow before its code runs. -/
def dispatch (d : Deployment) (nft : IERC721 S Op) (sender : Address) (value : Uint256)
    (message : Message Op) (react : React S) (w : World S) : Except Revert (World S) := do
  failIf (value ≠ 0 ∧ message.payable = false) .nonPayable
  let w := { w with balance := w.balance + value.val }
  match message with
  | .createSale tokenId priceWei allowedBuyer =>
    nonReentrant (createSale d nft react sender tokenId priceWei allowedBuyer) w
  | .fundSale saleId => nonReentrant (fundSale d sender value saleId) w
  | .completeSale saleId => nonReentrant (completeSale d nft react sender saleId) w
  | .cancelSale saleId => nonReentrant (cancelSale sender saleId) w
  | .expireSale saleId => nonReentrant (expireSale saleId) w
  | .withdrawPayment saleId recipient =>
    nonReentrant (withdrawPayment d react sender saleId recipient) w
  | .reclaimToken saleId recipient =>
    nonReentrant (reclaimToken d nft react sender saleId recipient) w
  | .onERC721Received operator src tokenId => onERC721Received d sender operator src tokenId w
  | .token op => do
    let r ← nft.perform sender op w.token
    applyToken d react r w

def respond (accepts : Bool) (calls : World S → World S) : React S :=
  fun w => if accepts then .ok (calls w) else .error .erc721InvalidReceiver

mutual
def exec (d : Deployment) (nft : IERC721 S Op) : Call d Op → World S → Except Revert (World S)
  | .forceEther amount, w => .ok { w with balance := w.balance + amount }
  | .call sender value message accepts reaction, w =>
    dispatch d nft sender.address value message
      (respond accepts fun w => execAll d nft reaction w) w

/-- Calls made one after the other; a reverted one leaves the world as it was. -/
def execAll (d : Deployment) (nft : IERC721 S Op) : List (Call d Op) → World S → World S
  | [], w => w
  | c :: cs, w =>
    match exec d nft c w with
    | .ok w' => execAll d nft cs w'
    | .error _ => execAll d nft cs w
end

inductive Step (d : Deployment) (Op : Type) where
  | advance (seconds : ℕ)
  | transact (c : Call d Op)

def step (d : Deployment) (nft : IERC721 S Op) (w : World S) : Step d Op → World S
  | .advance seconds => { w with timestamp := w.timestamp + seconds }
  | .transact c =>
    match exec d nft c w with
    | .ok w' => w'
    | .error _ => w

def run (d : Deployment) (nft : IERC721 S Op) (steps : List (Step d Op)) (w : World S) : World S :=
  steps.foldl (step d nft) w

theorem run_append (d : Deployment) (nft : IERC721 S Op) (xs ys : List (Step d Op))
    (w : World S) : run d nft (xs ++ ys) w = run d nft ys (run d nft xs w) :=
  List.foldl_append

/-- Only `fundSale` receives ether; every other message runs on the world as it is. -/
theorem dispatch_ok {d : Deployment} {nft : IERC721 S Op} {sender : Address} {value : Uint256}
    {message : Message Op} {react : React S} {w w' : World S}
    (h : dispatch d nft sender value message react w = .ok w') :
    match message with
    | .createSale tokenId priceWei allowedBuyer =>
      nonReentrant (createSale d nft react sender tokenId priceWei allowedBuyer) w = .ok w'
    | .fundSale saleId =>
      nonReentrant (fundSale d sender value saleId)
        { w with balance := w.balance + value.val } = .ok w'
    | .completeSale saleId => nonReentrant (completeSale d nft react sender saleId) w = .ok w'
    | .cancelSale saleId => nonReentrant (cancelSale sender saleId) w = .ok w'
    | .expireSale saleId => nonReentrant (expireSale saleId) w = .ok w'
    | .withdrawPayment saleId recipient =>
      nonReentrant (withdrawPayment d react sender saleId recipient) w = .ok w'
    | .reclaimToken saleId recipient =>
      nonReentrant (reclaimToken d nft react sender saleId recipient) w = .ok w'
    | .onERC721Received operator src tokenId =>
      onERC721Received d sender operator src tokenId w = .ok w'
    | .token op => ∃ r, nft.perform sender op w.token = .ok r ∧ applyToken d react r w = .ok w' := by
  simp only [dispatch, failIf_bind_ok, not_and] at h
  obtain ⟨hv, h⟩ := h
  cases message with
  | fundSale saleId => exact h
  | token op =>
    have h0 : value = 0 := by_contra fun hne => hv hne rfl
    subst h0
    exact bind_ok.mp h
  | _ =>
    have h0 : value = 0 := by_contra fun hne => hv hne rfl
    subst h0
    exact h

theorem respond_ok {accepts : Bool} {calls : World S → World S} {w w' : World S}
    (h : respond accepts calls w = .ok w') : w' = calls w := by
  unfold respond at h
  split at h
  · exact (Except.ok.inj h).symm
  · cases h

section Rules
variable (d : Deployment) (nft : IERC721 S Op) (R : World S → World S → Prop)

/-- What a relation must satisfy to hold across every call: it is kept by
forced ether, and by one message whenever the recipient's reaction keeps it. -/
structure Kept : Prop where
  refl : ∀ w, R w w
  trans : ∀ w₁ w₂ w₃, R w₁ w₂ → R w₂ w₃ → R w₁ w₃
  force : ∀ (w : World S) (amount : ℕ), R w { w with balance := w.balance + amount }
  message : ∀ (sender : Caller d) (value : Uint256) (message : Message Op) (react : React S),
    (∀ w w', react w = .ok w' → R w w') →
    ∀ w w', dispatch d nft sender.address value message react w = .ok w' → R w w'

variable {d nft R}

mutual
/-- One call keeps the relation, by induction on the call and its reactions. -/
theorem exec_kept (h : Kept d nft R) :
    ∀ (c : Call d Op) (w w' : World S), exec d nft c w = .ok w' → R w w'
  | .forceEther amount, w, w', hw => by
    rw [exec] at hw
    exact Except.ok.inj hw ▸ h.force w amount
  | .call sender value message accepts reaction, w, w', hw => by
    rw [exec] at hw
    refine h.message sender value message _ (fun w₁ w₂ hr => ?_) w w' hw
    rw [respond_ok hr]
    exact execAll_kept h reaction w₁

theorem execAll_kept (h : Kept d nft R) :
    ∀ (cs : List (Call d Op)) (w : World S), R w (execAll d nft cs w)
  | [], w => by
    rw [execAll]
    exact h.refl w
  | c :: cs, w => by
    rw [execAll]
    split
    · rename_i w' hw
      exact h.trans _ _ _ (exec_kept h c w w' hw) (execAll_kept h cs w')
    · exact execAll_kept h cs w
end

theorem step_kept (h : Kept d nft R)
    (htime : ∀ (w : World S) (n : ℕ), R w { w with timestamp := w.timestamp + n })
    (w : World S) (s : Step d Op) : R w (step d nft w s) := by
  cases s with
  | advance n => exact htime w n
  | transact c =>
    rw [step]
    split
    · rename_i w' hw
      exact exec_kept h c w w' hw
    · exact h.refl w

theorem run_kept (h : Kept d nft R)
    (htime : ∀ (w : World S) (n : ℕ), R w { w with timestamp := w.timestamp + n })
    (steps : List (Step d Op)) (w : World S) : R w (run d nft steps w) := by
  induction steps generalizing w with
  | nil => exact h.refl w
  | cons s steps ih => exact h.trans _ _ _ (step_kept h htime w s) (ih _)

/-- The unary form: an invariant that forced ether, time and every message keep. -/
theorem run_invariant (P : World S → Prop)
    (hforce : ∀ w n, P w → P { w with balance := w.balance + n })
    (htime : ∀ w n, P w → P { w with timestamp := w.timestamp + n })
    (hmessage : ∀ (sender : Caller d) (value : Uint256) (message : Message Op) (react : React S),
      (∀ w w', P w → react w = .ok w' → P w') →
      ∀ w w', P w → dispatch d nft sender.address value message react w = .ok w' → P w')
    (steps : List (Step d Op)) (w : World S) (hw : P w) : P (run d nft steps w) := by
  have h : Kept d nft (fun w w' => P w → P w') := {
    refl := fun _ h => h
    trans := fun _ _ _ h₁ h₂ h => h₂ (h₁ h)
    force := fun w n h => hforce w n h
    message := fun sender value message react hr w w' hw h =>
      hmessage sender value message react (fun w w' h hw => hr w w' hw h) w w' h hw }
  exact run_kept h (fun w n h => htime w n h) steps w hw

end Rules
end MotorCove.Chain
