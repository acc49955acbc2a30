/-
Functions of time that change in steps, and their sums.

The steps are numbered, and each has a time stamp; from its stamp on, until that of the next, the
value of the step is in force. At any time this is the value of the last step that is not in the
future. What is summed is the value in force at every point of a half-open interval, so that an
interval on which one step is in force contributes its value times its length.
-/
import Mathlib.Algebra.BigOperators.Intervals
import Mathlib.Algebra.Order.BigOperators.Group.Finset
import Mathlib.Data.Nat.Find

set_option autoImplicit false

namespace StepFunction

variable {stamp value : ℕ → ℕ} {n k a b c t : ℕ}

/-- The last step up to `n` whose stamp is not after `t`. -/
def current (stamp : ℕ → ℕ) (n t : ℕ) : ℕ := Nat.findGreatest (fun k => stamp k ≤ t) n

/-- A step is current from its stamp on until the next one. -/
theorem current_eq (hk : k ≤ n) (hstamp : stamp k ≤ t) (hnext : ∀ j, k < j → j ≤ n → t < stamp j) :
    current stamp n t = k := by
  refine Nat.findGreatest_eq_iff.mpr ⟨hk, fun _ => hstamp, fun j hj hjn hle => ?_⟩
  have hlt := hnext j hj hjn
  omega

/-- The values in force over an interval, added up. -/
def total (stamp value : ℕ → ℕ) (n a b : ℕ) : ℕ :=
  ∑ t ∈ Finset.Ico a b, value (current stamp n t)

/-- Two intervals that meet add up. -/
theorem total_add (hab : a ≤ b) (hbc : b ≤ c) :
    total stamp value n a b + total stamp value n b c = total stamp value n a c :=
  Finset.sum_Ico_consecutive _ hab hbc

/-- A longer interval has a larger sum. -/
theorem total_anti (hab : a ≤ b) (hbc : b ≤ c) :
    total stamp value n b c ≤ total stamp value n a c := by
  rw [← total_add hab hbc]
  exact Nat.le_add_left _ _

/-- **One step.** Over an interval on which one step is in force, the sum is its value times the
length. -/
theorem total_step (hk : k ≤ n) (hstamp : stamp k ≤ a)
    (hnext : ∀ j, k < j → j ≤ n → b ≤ stamp j) :
    total stamp value n a b = value k * (b - a) := by
  have hconst : ∀ t ∈ Finset.Ico a b, value (current stamp n t) = value k := by
    intro t ht
    obtain ⟨hat, htb⟩ := Finset.mem_Ico.mp ht
    rw [current_eq hk (hstamp.trans hat) fun j hj hjn => htb.trans_le (hnext j hj hjn)]
  rw [total, Finset.sum_const_nat hconst, Nat.card_Ico, Nat.mul_comm]

/-- Walking one step back. -/
theorem total_back (hk : k + 1 ≤ n) (hmono : ∀ i j, i ≤ j → j ≤ n → stamp i ≤ stamp j)
    (ha : stamp k ≤ a) (hab : a ≤ stamp (k + 1)) (hc : stamp (k + 1) ≤ c) :
    total stamp value n (stamp (k + 1)) c + value k * (stamp (k + 1) - a)
      = total stamp value n a c := by
  have hstep : total stamp value n a (stamp (k + 1)) = value k * (stamp (k + 1) - a) :=
    total_step (by omega) ha fun j hj hjn => hmono (k + 1) j hj hjn
  rw [← hstep, Nat.add_comm, total_add hab hc]

end StepFunction
