import Mathlib.Algebra.BigOperators.Group.Finset.Basic
import Mathlib.Data.Fintype.Basic
import Mathlib.Data.Fintype.BigOperators
import MotorCove.Fallible

/-!
# Fixed-width values and checked arithmetic

Values of the contract language are bounded naturals. Addition and
subtraction stop with a panic at the bounds, as compiled code does since
version 0.8. A mapping is a total function, and a total over all keys of a
mapping changes at an update by the updated entry alone.
-/

set_option autoImplicit false

namespace MotorCove.Chain
open MotorCove.Fallible

abbrev Address := Fin (2^160)
abbrev Uint256 := Fin (2^256)
abbrev Uint64 := Fin (2^64)

instance address_neZero : @NeZero ℕ Zero.ofOfNat0 (2^160) := ⟨by decide⟩

instance uint256_neZero : @NeZero ℕ Zero.ofOfNat0 (2^256) := ⟨by decide⟩

instance uint64_neZero : @NeZero ℕ Zero.ofOfNat0 (2^64) := ⟨by decide⟩

/-- Why a call reverts: the custom errors of the contracts, the checks of the
token base contract, and what the virtual machine itself reports. -/
inductive Revert where
  | zeroAddress
  | saleNotFound
  | invalidSaleState
  | notTokenOwner
  | invalidPrice
  | tokenAlreadyInCustody
  | sellerCannotBuy
  | notAllowedBuyer
  | incorrectPayment
  | unauthorized
  | deadlinePassed
  | deadlineNotReached
  | invalidRecipient
  | claimNotAvailable
  | paymentTransferFailed
  | unexpectedNftTransfer
  | liabilityInvariantBroken
  | reentrantCall
  | invalidEscrow
  | escrowAlreadyBound
  | unauthorizedEscrowTransfer
  | ownableUnauthorizedAccount
  | ownableInvalidOwner
  | erc721InvalidReceiver
  | erc721InvalidSender
  | erc721IncorrectOwner
  | erc721NonexistentToken
  | erc721InsufficientApproval
  | erc721InvalidApprover
  | erc721InvalidOperator
  | nonPayable
  | panic
  deriving DecidableEq, Repr

def checkedAdd {n : ℕ} (a b : Fin n) : Except Revert (Fin n) :=
  if h : a.val + b.val < n then .ok ⟨a.val + b.val, h⟩ else .error .panic

def checkedSub {n : ℕ} (a b : Fin n) : Except Revert (Fin n) :=
  if b.val ≤ a.val then .ok ⟨a.val - b.val, lt_of_le_of_lt (Nat.sub_le _ _) a.isLt⟩
  else .error .panic

theorem checkedAdd_ok {n : ℕ} {a b c : Fin n} :
    checkedAdd a b = .ok c ↔ c.val = a.val + b.val := by
  unfold checkedAdd
  split
  · simp only [Except.ok.injEq, Fin.ext_iff]
    exact eq_comm
  · have := c.isLt
    simp only [reduceCtorEq, false_iff]
    omega

theorem checkedSub_ok {n : ℕ} {a b c : Fin n} :
    checkedSub a b = .ok c ↔ b.val ≤ a.val ∧ c.val = a.val - b.val := by
  unfold checkedSub
  split
  · rename_i h
    simp only [Except.ok.injEq, Fin.ext_iff, h, true_and]
    exact eq_comm
  · rename_i h
    simp [h]

/-- A total over a mapping after one write: the old entry leaves, the new one
enters, and every other entry counts as before. -/
theorem sum_update {ι : Type*} [Fintype ι] [DecidableEq ι] (f : ι → ℕ) (i : ι) (b : ℕ) :
    ∑ x, Function.update f i b x + f i = ∑ x, f x + b := by
  rw [Finset.sum_update_of_mem (Finset.mem_univ i),
    ← Finset.sum_sdiff (Finset.subset_univ {i}) (f := f)]
  simp only [Finset.sum_singleton]
  omega

theorem sum_comp_update {ι α : Type*} [Fintype ι] [DecidableEq ι] (g : α → ℕ) (f : ι → α)
    (i : ι) (a : α) :
    ∑ x, g (Function.update f i a x) + g (f i) = ∑ x, g (f x) + g a := by
  have h := sum_update (fun x => g (f x)) i (g a)
  have hf : (fun x => g (Function.update f i a x)) = Function.update (fun x => g (f x)) i (g a) :=
    Function.comp_update g f i a
  rw [← hf] at h
  exact h

end MotorCove.Chain
