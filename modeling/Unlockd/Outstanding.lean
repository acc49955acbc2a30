/-
A loan that is live owes something.

Whether a repayment settles a loan is decided on the amount, rounded once; what it takes off the
loan is the amount scaled down, rounded again. At an index above one ray the two can disagree:
an amount just below the debt can scale to the whole of it, and leaves a loan that is active
and owes nothing. `Leaves` says that an amount keeps clear of that. As long as every partial
repayment and every redemption does, each live loan owes a positive amount. A repayment that
covers the debt and goes through closes the loan.
-/
import Unlockd.Lifecycle

set_option autoImplicit false

namespace Unlockd

open Outcome FixedPoint LendPoolLoan

/-! ## Amounts that leave a debt -/

/-- An amount taken off a loan at an index leaves more than half of a scaled unit. -/
def LoanData.Leaves (l : LoanData) (amount index : ℕ) : Prop :=
  amount * RAY + index / 2 < l.scaledAmount * index

instance (l : LoanData) (amount index : ℕ) : Decidable (l.Leaves amount index) :=
  inferInstanceAs (Decidable (_ < _))

/-- That is just when the amount, scaled down, is less than the loan. -/
theorem LoanData.leaves_iff {l : LoanData} {amount index n : ℕ}
    (hn : rayDiv amount index = .ok n) : l.Leaves amount index ↔ n < l.scaledAmount := by
  obtain ⟨hpos, rfl⟩ := rayDiv_spec hn
  unfold LoanData.Leaves divHalfUp
  rw [Nat.div_lt_iff_lt_mul hpos]

/-- A repayment that does not settle its loan leaves a debt, and so does a redemption. -/
def Call.LeavesDebt {D : Deployment} (s : State) : Call D → Prop
  | .repay nftAsset nftTokenId amount =>
      let loan := s.loanOn nftAsset nftTokenId
      let index := s.nextIndex loan.reserveAsset
      amount < loan.outstanding index → loan.Leaves amount index
  | .redeem nftAsset nftTokenId amount _ =>
      let loan := s.loanOn nftAsset nftTokenId
      loan.Leaves amount (s.nextIndex loan.reserveAsset)
  | _ => True

instance {D : Deployment} (s : State) (c : Call D) : Decidable (c.LeavesDebt s) := by
  cases c <;> unfold Call.LeavesDebt <;> infer_instance

/-- The same of an action: only calls take debt off a loan. -/
def leavesDebt {D : Deployment} (s : State) : Action D → Prop
  | .call _ _ c => c.LeavesDebt s
  | _ => True

/-- The operations of the pool and of the market, all but a sale through the adapter, none of
which strands a loan. -/
def leavesDebtNoSale {D : Deployment} (s : State) (a : Action D) : Prop :=
  noSale s a ∧ leavesDebt s a

section Owing

variable {D : Deployment} {allowed : State → Action D → Prop} {s s' : State}

/-! ## Live loans owe something -/

/-- A live loan has a scaled amount. -/
def Owing (l : LoanData) : Prop := l.live → 0 < l.scaledAmount

/-- **Step lemma.** A call that strands no loan leaves a record owing something. -/
theorem Turned.owing {c : Call D} {l r : LoanData} (hc : c.LeavesDebt s) (h : Owing l)
    (ht : Turned D s c l r) : Owing r := by
  have dead : ∀ {l' : LoanData}, l'.state = .Repaid ∨ l'.state = .Defaulted → Owing l' := by
    intro l' hl' hlive
    rcases hl' with hs | hs <;> rcases hlive with hx | hx <;> rw [hs] at hx <;> cases hx
  cases ht with
  | opened hn h0 => exact fun _ => Nat.pos_of_ne_zero h0
  | enlarged hl hactive => exact fun _ => Nat.add_pos_left (h (.inl hactive)) _
  | reduced hl hactive hlt hn =>
    -- the amount scales to less than the loan, so something is left
    subst hl
    have hless := (LoanData.leaves_iff hn).mp (hc hlt)
    exact fun _ => Nat.sub_pos_of_lt hless
  | firstBid hl hactive => exact fun _ => h (.inl hactive)
  | outbid hl hauction => exact fun _ => h (.inr hauction)
  | redeemed hl hauction hn =>
    subst hl
    have hless := (LoanData.leaves_iff hn).mp hc
    exact fun _ => Nat.sub_pos_of_lt hless
  | repaid => exact dead (.inl rfl)
  | liquidated => exact dead (.inr rfl)
  | boughtOut => exact dead (.inr rfl)
  | sold => exact dead (.inr rfl)
  | handed => exact h

/-- **Run lemma.** -/
theorem Reachable.owing (hr : Reachable D allowed s)
    (hallowed : ∀ s a, allowed s a → leavesDebt s a) (id : ℕ) :
    Owing (s.lendPoolLoan.loans id) := by
  refine Reachable.everyLoan (P := fun _ => Owing) (fun _ hlive => ?_) (fun _ _ _ _ _ hl => hl)
    (fun _ _ _ _ _ _ _ hc hl hturned => hturned.owing (hallowed _ _ hc) hl) hr id
  rcases hlive with hx | hx <;> cases hx

/-- At an index of at least one ray a scaled amount is never read as less than itself. -/
theorem le_outstanding (l : LoanData) {index : ℕ} (hray : RAY ≤ index) :
    l.scaledAmount ≤ l.outstanding index := by
  unfold LoanData.outstanding
  rw [Nat.mul_comm]
  exact le_divHalfUp_mul RAY_pos hray _

/-- A loan with a scaled amount is reported to owe something. -/
theorem getLoanReserveBorrowAmount_pos (h : Books D s) {id b : ℕ}
    (hpos : 0 < (s.lendPoolLoan.loans id).scaledAmount)
    (hinit : (s.lendPool.reserves (s.lendPoolLoan.loans id).reserveAsset).uTokenAddress ≠ 0)
    (hb : s.getLoanReserveBorrowAmount id = .ok b) : 0 < b := by
  obtain ⟨index, hle, rfl, -⟩ := getLoanReserveBorrowAmount_read rfl hb
  exact hpos.trans_le (le_outstanding _ ((h.indices _ hinit).2.trans hle))

end Owing

/-! ## What a repayment does -/

section Closing

variable {D : Deployment} {s s' : State} {sender : Address}

/-- A repayment or a redemption that does not leave a debt, and goes through, strands its loan:
it stays live and has no scaled amount. -/
theorem strands_of_not_leavesDebt {c : Call D} (hc : ¬ c.LeavesDebt s) :
    Returns (s.perform D sender c) (fun s' => ∃ id,
      (s'.lendPoolLoan.loans id).live ∧ (s'.lendPoolLoan.loans id).scaledAmount = 0) := by
  cases c with
  | repay nftAsset nftTokenId amount =>
    obtain ⟨hlt, hall⟩ := Classical.not_imp.mp hc
    refine Returns.check fun _ => State.fst_spec (State._repay_account.imp fun p hp => ?_)
    obtain ⟨loan, Rs, L, T, b, n, -, rfl, hb, -, -, ha, ⟨hpos, -, hactive⟩, hL, -, -⟩ := hp
    rw [ha.updated.nextIndex] at hb hL
    rw [State.RepaidOn, if_pos (hb ▸ hlt)] at hL
    obtain ⟨-, m, hm, -, -, rfl⟩ := updateLoan_taken hL hpos
    refine ⟨s.lendPoolLoan.getCollateralLoanId nftAsset nftTokenId, ?_⟩
    rw [ha.loans, setLoan_self]
    exact ⟨.inl hactive, Nat.sub_eq_zero_of_le (not_lt.mp (mt (LoanData.leaves_iff hm).mpr hall))⟩
  | redeem nftAsset nftTokenId amount bidFine =>
    refine Returns.check fun _ => State.fst_spec (State.executeRedeem_account.imp fun p hp => ?_)
    obtain ⟨loan, Rs, L, T, fine, -, rfl, ha, -, hL, -⟩ := hp
    rw [ha.updated.nextIndex] at hL
    obtain ⟨-, m, hm, -, -, rfl⟩ := redeemLoan_ok hL
    refine ⟨s.lendPoolLoan.getCollateralLoanId nftAsset nftTokenId, ?_⟩
    rw [ha.loans, setLoan_self]
    exact ⟨.inl rfl, Nat.sub_eq_zero_of_le (not_lt.mp (mt (LoanData.leaves_iff hm).mpr hc))⟩
  | _ => exact absurd trivial hc

/-- A full repayment that goes through closes the loan and gives the token to the borrower. -/
theorem repay_closes (h : Books D s) {nftAsset : Address} {nftTokenId amount : ℕ}
    (hamount : (s.loanOn nftAsset nftTokenId).outstanding
      (s.nextIndex (s.loanOn nftAsset nftTokenId).reserveAsset) ≤ amount) :
    Returns (s.perform D sender (.repay nftAsset nftTokenId amount)) (fun s' =>
      (s'.lendPoolLoan.loans (s.lendPoolLoan.getCollateralLoanId nftAsset nftTokenId)).state
        = .Repaid ∧
      (s'.erc721 nftAsset).ownerOf nftTokenId = (s.loanOn nftAsset nftTokenId).borrower) := by
  refine Returns.check fun _ => State.fst_spec (State._repay_account.imp fun p hp => ?_)
  obtain ⟨loan, Rs, L, T, b, n, hid, rfl, hb, -, -, ha, -, hL, -, howner⟩ := hp
  rw [ha.updated.nextIndex] at hb hL
  have hfull : ¬ amount < b := by
    rw [hb]
    exact not_lt.mpr hamount
  obtain ⟨-, -, hcollection, -⟩ := h.loans.held hid
  rw [State.RepaidOn, if_neg hfull] at hL
  obtain ⟨-, hL⟩ := require_bind_eq_ok.mp hL
  have howned := howner hfull
  rw [hcollection] at howned
  refine ⟨?_, howned⟩
  rw [ha.loans, releaseCollateral_loans hL, setLoan_self]

end Closing

end Unlockd
