import MotorCove.Chain.Escrow

/-!
# The vehicle token

`VehicleNFT` over its two base contracts. The base token contract keeps an
owner, an approval and operators for each token; the override of `update`
refuses a transfer to the bound escrow unless the escrow itself asks for it.
Owner address zero stands for a token that was never minted.
-/

set_option autoImplicit false

namespace MotorCove.Chain
open MotorCove.Fallible

structure VehicleNFT where
  owners : Uint256 → Address
  tokenApprovals : Uint256 → Address
  operatorApprovals : Address → Address → Bool
  owner : Address
  nextTokenId : Uint256
  motorCoveEscrow : Address

/-- The external calls that change the token contract. -/
inductive VehicleOp where
  | mint (recipient : Address)
  | setEscrow (escrow : Address)
  | approve (spender : Address) (tokenId : Uint256)
  | setApprovalForAll (operator : Address) (approved : Bool)
  | transferFrom (src dst : Address) (tokenId : Uint256)
  | safeTransferFrom (src dst : Address) (tokenId : Uint256)
  | transferOwnership (newOwner : Address)
  | renounceOwnership
  deriving DecidableEq, Repr

namespace VehicleNFT

def deployed (developmentOwner : Address) : VehicleNFT where
  owners := fun _ => 0
  tokenApprovals := fun _ => 0
  operatorApprovals := fun _ _ => false
  owner := developmentOwner
  nextTokenId := 1
  motorCoveEscrow := 0

def ownerOf (v : VehicleNFT) (tokenId : Uint256) : Except Revert Address :=
  if v.owners tokenId = 0 then .error .erc721NonexistentToken else .ok (v.owners tokenId)

def onlyOwner (v : VehicleNFT) (sender : Address) : Except Revert Unit :=
  failIf (sender ≠ v.owner) .ownableUnauthorizedAccount

def isAuthorized (v : VehicleNFT) (owner spender : Address) (tokenId : Uint256) : Bool :=
  spender ≠ 0 ∧
    (owner = spender ∨ v.operatorApprovals owner spender = true ∨ v.tokenApprovals tokenId = spender)

def checkAuthorized (v : VehicleNFT) (owner spender : Address) (tokenId : Uint256) :
    Except Revert Unit :=
  if v.isAuthorized owner spender tokenId then .ok ()
  else if owner = 0 then .error .erc721NonexistentToken
  else .error .erc721InsufficientApproval

/-- The base contract's transfer, mint and ownership write. -/
def baseUpdate (dst : Address) (tokenId : Uint256) (auth : Address) (v : VehicleNFT) :
    Except Revert (VehicleNFT × Address) := do
  let src := v.owners tokenId
  let _ ← (if auth = 0 then .ok () else v.checkAuthorized src auth tokenId : Except Revert Unit)
  let approvals :=
    if src ≠ 0 then Function.update v.tokenApprovals tokenId 0 else v.tokenApprovals
  .ok ({ v with owners := Function.update v.owners tokenId dst, tokenApprovals := approvals }, src)

def update (dst : Address) (tokenId : Uint256) (auth : Address) (v : VehicleNFT) :
    Except Revert (VehicleNFT × Address) := do
  failIf (v.motorCoveEscrow ≠ 0 ∧ dst = v.motorCoveEscrow ∧ auth ≠ v.motorCoveEscrow)
    .unauthorizedEscrowTransfer
  baseUpdate dst tokenId auth v

def transferFrom (sender src dst : Address) (tokenId : Uint256) (v : VehicleNFT) :
    Except Revert (TokenResult VehicleNFT) := do
  failIf (dst = 0) .erc721InvalidReceiver
  let (v, previousOwner) ← update dst tokenId sender v
  failIf (previousOwner ≠ src) .erc721IncorrectOwner
  .ok ⟨v, [⟨previousOwner, dst, tokenId⟩], none⟩

def safeTransferFrom (sender src dst : Address) (tokenId : Uint256) (v : VehicleNFT) :
    Except Revert (TokenResult VehicleNFT) := do
  let r ← transferFrom sender src dst tokenId v
  .ok { r with received := some ⟨sender, src, dst, tokenId⟩ }

def mint (sender recipient : Address) (v : VehicleNFT) :
    Except Revert (TokenResult VehicleNFT) := do
  onlyOwner v sender
  failIf (recipient = 0) .erc721InvalidReceiver
  let tokenId := v.nextTokenId
  let next ← checkedAdd v.nextTokenId 1
  let (v, previousOwner) ← update recipient tokenId 0 { v with nextTokenId := next }
  failIf (previousOwner ≠ 0) .erc721InvalidSender
  .ok ⟨v, [⟨previousOwner, recipient, tokenId⟩], some ⟨sender, 0, recipient, tokenId⟩⟩

def setEscrow (sender escrow : Address) (v : VehicleNFT) : Except Revert VehicleNFT := do
  onlyOwner v sender
  failIf (escrow = 0) .invalidEscrow
  failIf (v.motorCoveEscrow ≠ 0) .escrowAlreadyBound
  .ok { v with motorCoveEscrow := escrow }

def approve (sender spender : Address) (tokenId : Uint256) (v : VehicleNFT) :
    Except Revert VehicleNFT := do
  let owner ← v.ownerOf tokenId
  failIf (sender ≠ 0 ∧ owner ≠ sender ∧ v.operatorApprovals owner sender = false)
    .erc721InvalidApprover
  .ok { v with tokenApprovals := Function.update v.tokenApprovals tokenId spender }

def setApprovalForAll (sender operator : Address) (approved : Bool) (v : VehicleNFT) :
    Except Revert VehicleNFT := do
  failIf (operator = 0) .erc721InvalidOperator
  let operators := Function.update (v.operatorApprovals sender) operator approved
  .ok { v with operatorApprovals := Function.update v.operatorApprovals sender operators }

def transferOwnership (sender newOwner : Address) (v : VehicleNFT) : Except Revert VehicleNFT := do
  onlyOwner v sender
  failIf (newOwner = 0) .ownableInvalidOwner
  .ok { v with owner := newOwner }

def renounceOwnership (sender : Address) (v : VehicleNFT) : Except Revert VehicleNFT := do
  onlyOwner v sender
  .ok { v with owner := 0 }

/-- A call that moves no token and calls nobody. -/
def quiet (r : Except Revert VehicleNFT) : Except Revert (TokenResult VehicleNFT) := do
  let v ← r
  .ok ⟨v, [], none⟩

def perform (sender : Address) (op : VehicleOp) (v : VehicleNFT) :
    Except Revert (TokenResult VehicleNFT) :=
  match op with
  | .mint recipient => mint sender recipient v
  | .setEscrow escrow => quiet (setEscrow sender escrow v)
  | .approve spender tokenId => quiet (approve sender spender tokenId v)
  | .setApprovalForAll operator approved => quiet (setApprovalForAll sender operator approved v)
  | .transferFrom src dst tokenId => transferFrom sender src dst tokenId v
  | .safeTransferFrom src dst tokenId => safeTransferFrom sender src dst tokenId v
  | .transferOwnership newOwner => quiet (transferOwnership sender newOwner v)
  | .renounceOwnership => quiet (renounceOwnership sender v)

end VehicleNFT

def vehicleNFT : IERC721 VehicleNFT VehicleOp where
  ownerOf := VehicleNFT.ownerOf
  safeTransferFrom := VehicleNFT.safeTransferFrom
  perform := VehicleNFT.perform

namespace VehicleNFT

theorem ownerOf_ok {v : VehicleNFT} {tokenId : Uint256} {a : Address} :
    v.ownerOf tokenId = .ok a ↔ a ≠ 0 ∧ v.owners tokenId = a := by
  unfold ownerOf
  split <;> simp_all
  · rintro ha h
    exact ha h.symm
  · rintro rfl
    assumption

/-- The state after `tokenId` passed to `dst`. -/
def moved (v : VehicleNFT) (dst : Address) (tokenId : Uint256) : VehicleNFT :=
  { v with
    owners := Function.update v.owners tokenId dst
    tokenApprovals := if v.owners tokenId ≠ 0 then Function.update v.tokenApprovals tokenId 0
      else v.tokenApprovals }

/-- `auth` may move the token: it is owner, operator or approved. -/
def Authorized (v : VehicleNFT) (auth : Address) (tokenId : Uint256) : Prop :=
  v.owners tokenId = auth ∨ v.operatorApprovals (v.owners tokenId) auth = true ∨
    v.tokenApprovals tokenId = auth

/-- The veto of the override: only the escrow moves a token to the escrow. -/
def Admitted (v : VehicleNFT) (dst auth : Address) : Prop :=
  v.motorCoveEscrow ≠ 0 → dst = v.motorCoveEscrow → auth = v.motorCoveEscrow

theorem update_ok {v v' : VehicleNFT} {dst auth previous : Address} {tokenId : Uint256}
    (h : update dst tokenId auth v = .ok (v', previous)) :
    v.Admitted dst auth ∧ (auth ≠ 0 → v.Authorized auth tokenId) ∧
      previous = v.owners tokenId ∧ v' = v.moved dst tokenId := by
  simp only [update, failIf_bind_ok, not_and, not_not] at h
  obtain ⟨hv, h⟩ := h
  simp only [baseUpdate, bind_ok, Except.ok.injEq, Prod.mk.injEq] at h
  obtain ⟨_, ha, rfl, rfl⟩ := h
  refine ⟨hv, fun h0 => ?_, rfl, rfl⟩
  rw [if_neg h0] at ha
  unfold checkAuthorized at ha
  split at ha
  · rename_i hauth
    simp only [isAuthorized, decide_eq_true_eq] at hauth
    exact hauth.2
  · split at ha <;> cases ha

theorem transferFrom_ok {sender src dst : Address} {tokenId : Uint256} {v : VehicleNFT}
    {r : TokenResult VehicleNFT} (h : transferFrom sender src dst tokenId v = .ok r) :
    dst ≠ 0 ∧ v.Admitted dst sender ∧ (sender ≠ 0 → v.Authorized sender tokenId) ∧
      src = v.owners tokenId ∧ r = ⟨v.moved dst tokenId, [⟨src, dst, tokenId⟩], none⟩ := by
  simp only [transferFrom, failIf_ok, exists_const, bind_ok, Except.ok.injEq, not_not,
    Prod.exists] at h
  obtain ⟨h0, v', previous, hu, rfl, rfl⟩ := h
  obtain ⟨ha, hs, hp, rfl⟩ := update_ok hu
  exact ⟨h0, ha, hs, hp, rfl⟩

theorem safeTransferFrom_ok {sender src dst : Address} {tokenId : Uint256} {v : VehicleNFT}
    {r : TokenResult VehicleNFT} (h : safeTransferFrom sender src dst tokenId v = .ok r) :
    dst ≠ 0 ∧ v.Admitted dst sender ∧ (sender ≠ 0 → v.Authorized sender tokenId) ∧
      src = v.owners tokenId ∧
      r = ⟨v.moved dst tokenId, [⟨src, dst, tokenId⟩], some ⟨sender, src, dst, tokenId⟩⟩ := by
  obtain ⟨r', hr, h⟩ := bind_ok.mp h
  obtain ⟨h0, ha, hs, hp, rfl⟩ := transferFrom_ok hr
  exact ⟨h0, ha, hs, hp, (Except.ok.inj h).symm⟩

theorem mint_ok {sender recipient : Address} {v : VehicleNFT} {r : TokenResult VehicleNFT}
    (h : mint sender recipient v = .ok r) :
    recipient ≠ 0 ∧ v.Admitted recipient 0 ∧ v.owners v.nextTokenId = 0 ∧
      ∃ next, r = ⟨{ v with nextTokenId := next }.moved recipient v.nextTokenId,
        [⟨0, recipient, v.nextTokenId⟩], some ⟨sender, 0, recipient, v.nextTokenId⟩⟩ := by
  simp only [mint, onlyOwner, failIf_ok, exists_const, bind_ok, Except.ok.injEq, not_not,
    Prod.exists] at h
  obtain ⟨_, h0, next, _, v', previous, hu, rfl, rfl⟩ := h
  obtain ⟨ha, _, hp, rfl⟩ := update_ok hu
  exact ⟨h0, ha, hp.symm, next, rfl⟩

/-- A call moves one token, mints one, or moves none. In the last case the
binding is set once, a token's approval changes only at the word of its owner
or an operator, and a sender sets its own operators. -/
theorem perform_cases {sender : Address} {op : VehicleOp} {v : VehicleNFT}
    {r : TokenResult VehicleNFT} (h : perform sender op v = .ok r) :
    (∃ src dst tokenId x, dst ≠ 0 ∧ v.Admitted dst sender ∧
      (sender ≠ 0 → v.Authorized sender tokenId) ∧ src = v.owners tokenId ∧
      (x = none ∨ x = some ⟨sender, src, dst, tokenId⟩) ∧
      r = ⟨v.moved dst tokenId, [⟨src, dst, tokenId⟩], x⟩) ∨
    (∃ recipient next, recipient ≠ 0 ∧ v.Admitted recipient 0 ∧ v.owners v.nextTokenId = 0 ∧
      r = ⟨{ v with nextTokenId := next }.moved recipient v.nextTokenId,
        [⟨0, recipient, v.nextTokenId⟩], some ⟨sender, 0, recipient, v.nextTokenId⟩⟩) ∨
    (∃ v', r = ⟨v', [], none⟩ ∧ v'.owners = v.owners ∧
      (v'.motorCoveEscrow = v.motorCoveEscrow ∨ v.motorCoveEscrow = 0) ∧
      (∀ t, v'.tokenApprovals t = v.tokenApprovals t ∨
        (v.owners t ≠ 0 ∧ (sender = 0 ∨ v.owners t = sender ∨
          v.operatorApprovals (v.owners t) sender = true))) ∧
      (∀ a, a ≠ sender → v'.operatorApprovals a = v.operatorApprovals a)) := by
  cases op with
  | mint recipient =>
    obtain ⟨h0, ha, hp, next, rfl⟩ := mint_ok h
    exact .inr (.inl ⟨recipient, next, h0, ha, hp, rfl⟩)
  | transferFrom src dst tokenId =>
    obtain ⟨h0, ha, hs, hp, rfl⟩ := transferFrom_ok h
    exact .inl ⟨src, dst, tokenId, none, h0, ha, hs, hp, .inl rfl, rfl⟩
  | safeTransferFrom src dst tokenId =>
    obtain ⟨h0, ha, hs, hp, rfl⟩ := safeTransferFrom_ok h
    exact .inl ⟨src, dst, tokenId, _, h0, ha, hs, hp, .inr rfl, rfl⟩
  | setEscrow escrow =>
    simp only [perform, quiet, setEscrow, onlyOwner, failIf_ok, exists_const, bind_ok,
      Except.ok.injEq, not_not] at h
    obtain ⟨v', ⟨_, _, hb, rfl⟩, rfl⟩ := h
    exact .inr (.inr ⟨_, rfl, rfl, .inr hb, fun _ => .inl rfl, fun _ _ => rfl⟩)
  | approve spender tokenId =>
    simp only [perform, quiet, approve, failIf_ok, exists_const, bind_ok, Except.ok.injEq,
      not_and, ownerOf_ok] at h
    obtain ⟨v', ⟨owner, ⟨h0, rfl⟩, hs, rfl⟩, rfl⟩ := h
    refine .inr (.inr ⟨_, rfl, rfl, .inl rfl, fun t => ?_, fun _ _ => rfl⟩)
    by_cases ht : t = tokenId
    · subst ht
      refine .inr ⟨h0, ?_⟩
      by_cases hz : sender = 0
      · exact .inl hz
      by_cases ho : v.owners t = sender
      · exact .inr (.inl ho)
      · exact .inr (.inr (by simpa using hs hz ho))
    · exact .inl (Function.update_of_ne ht _ _)
  | setApprovalForAll operator approved =>
    simp only [perform, quiet, setApprovalForAll, failIf_ok, exists_const, bind_ok,
      Except.ok.injEq] at h
    obtain ⟨v', ⟨_, rfl⟩, rfl⟩ := h
    exact .inr (.inr ⟨_, rfl, rfl, .inl rfl, fun _ => .inl rfl,
      fun a ha => Function.update_of_ne ha _ _⟩)
  | transferOwnership newOwner =>
    simp only [perform, quiet, transferOwnership, onlyOwner, failIf_ok, exists_const, bind_ok,
      Except.ok.injEq] at h
    obtain ⟨v', ⟨_, _, rfl⟩, rfl⟩ := h
    exact .inr (.inr ⟨_, rfl, rfl, .inl rfl, fun _ => .inl rfl, fun _ _ => rfl⟩)
  | renounceOwnership =>
    simp only [perform, quiet, renounceOwnership, onlyOwner, failIf_ok, exists_const, bind_ok,
      Except.ok.injEq] at h
    obtain ⟨v', ⟨_, rfl⟩, rfl⟩ := h
    exact .inr (.inr ⟨_, rfl, rfl, .inl rfl, fun _ => .inl rfl, fun _ _ => rfl⟩)

end VehicleNFT
end MotorCove.Chain
