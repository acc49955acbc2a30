/-
What the vault pays for an amount.

The reserves in WETH are held as shares of a vault. To pay an amount out, the pool turns it into
shares at the price of a share, rounded half up, and the vault pays for them, rounded down. Both
roundings together give at least the amount when the first one went up, and less when it went down;
they give the amount itself when what the first one added is worth less than one part.

How the vault rounds is outside the repository: it is the hypothesis `PaysFloor`, the documented
conversion of such a vault.
-/
import Unlockd.Protocol
import Unlockd.Accounts

set_option autoImplicit false

namespace Unlockd

open Outcome Transfers FixedPoint

/-- The vault pays for shares what they are worth at its price, rounded down. -/
def Deployment.PaysFloor (D : Deployment) : Prop :=
  ∀ v shares, D.valueOf v shares = shares * v.pricePerShare / WAD

/-- The shares for an amount are worth at least that: it was rounded up, or not at all. -/
def SharesCover (pricePerShare amount : ℕ) : Prop :=
  amount * WAD % pricePerShare = 0 ∨ pricePerShare ≤ 2 * (amount * WAD % pricePerShare)

/-- The shares for an amount are worth just that: what it was rounded up by is less than one
part. -/
def SharesMeet (pricePerShare amount : ℕ) : Prop :=
  amount * WAD % pricePerShare = 0 ∨ pricePerShare ≤ 2 * (amount * WAD % pricePerShare) ∧
    pricePerShare - amount * WAD % pricePerShare < WAD

/-- At a price of one every amount is met, and no other condition is needed. -/
theorem sharesMeet_WAD (amount : ℕ) : SharesMeet WAD amount := .inl (Nat.mul_mod_left amount WAD)

namespace State

variable {D : Deployment} {s : State} {asset uToken : Address} {amount shares value : ℕ}

/-- What was drawn is what the vault pays for the shares of the amount. -/
theorem Drawn.worth (hfloor : D.PaysFloor)
    (h : Drawn D s.yVault D.weth uToken amount shares value) :
    0 < s.yVault.pricePerShare ∧ value = divHalfUp (amount * WAD) s.yVault.pricePerShare
      * s.yVault.pricePerShare / WAD := by
  obtain ⟨hshares, -, hvalue⟩ := h.weth rfl
  obtain ⟨hprice, rfl⟩ := unitDiv_spec hshares
  exact ⟨hprice, hvalue.trans (hfloor _ _)⟩

theorem Drawn.le_iff (hfloor : D.PaysFloor)
    (h : Drawn D s.yVault D.weth uToken amount shares value) :
    amount ≤ value ↔ SharesCover s.yVault.pricePerShare amount := by
  obtain ⟨hprice, rfl⟩ := h.worth hfloor
  exact le_worth_iff hprice (by decide)

theorem Drawn.eq_iff (hfloor : D.PaysFloor)
    (h : Drawn D s.yVault D.weth uToken amount shares value) :
    value = amount ↔ SharesMeet s.yVault.pricePerShare amount := by
  obtain ⟨hprice, rfl⟩ := h.worth hfloor
  exact worth_eq_iff hprice (by decide)

end State

/-- What a borrower is paid is the amount just when it is in WETH and the shares meet it: of any
other asset nothing is drawn. -/
theorem State.Drawn.paid_iff {D : Deployment} {s : State} {asset uToken : Address}
    {amount shares value : ℕ} (hfloor : D.PaysFloor) (hpos : 0 < amount)
    (h : Drawn D s.yVault asset uToken amount shares value) :
    value = amount ↔ asset = D.weth ∧ SharesMeet s.yVault.pricePerShare amount := by
  by_cases hweth : asset = D.weth
  · subst hweth
    rw [h.eq_iff hfloor]
    exact ⟨fun hmeet => ⟨rfl, hmeet⟩, fun hboth => hboth.2⟩
  · rw [(h.other hweth).2]
    exact ⟨fun hz => absurd hz (Nat.ne_of_lt hpos), fun hboth => absurd hboth.1 hweth⟩

/-- **What the vault covers.** A withdrawal from the vault yields at least the amount just when the
shares cover it. So a depositor is paid the amount burned out of what the vault yielded, with
nothing added from the uToken, just when they cover it; and a borrower is paid the amount minted as
debt just when they meet it. -/
theorem vault_covers {D : Deployment} {s : State} (hfloor : D.PaysFloor) :
    (∀ caller uToken amount s' value,
      s.withdrawReserves D caller D.weth uToken amount = .ok (s', value) →
      (amount ≤ value ↔ SharesCover s.yVault.pricePerShare amount)) ∧
    (∀ initiator receiver amount s' n,
      s.executeWithdraw D initiator D.weth amount receiver = .ok (s', n) → ∃ value,
      Posted [⟨D.weth, D.yVaultWETH, (s.lendPool.reserves D.weth).uTokenAddress, value⟩,
        ⟨D.weth, (s.lendPool.reserves D.weth).uTokenAddress, receiver, n⟩] s.erc20 s'.erc20 ∧
      (n ≤ value ↔ SharesCover s.yVault.pricePerShare n)) ∧
    ∀ initiator asset nftAsset nftTokenId onBehalfOf amount s',
      s._borrow D initiator asset amount nftAsset nftTokenId onBehalfOf = .ok s' → ∃ value,
      Posted ((if s.lendPoolLoan.getCollateralLoanId nftAsset nftTokenId = 0 then []
          else s.listingRefund D nftAsset nftTokenId) ++
        (State.outOfVault D asset (s.lendPool.reserves asset).uTokenAddress value ++
          [⟨asset, (s.lendPool.reserves asset).uTokenAddress, initiator, value⟩]))
        s.erc20 s'.erc20 ∧
      Minted D.lendPool asset initiator onBehalfOf amount (s.nextIndex asset) s.debtTokens
        s'.debtTokens ∧
      (value = amount ↔ asset = D.weth ∧ SharesMeet s.yVault.pricePerShare amount) := by
  refine ⟨fun caller uToken amount s' value hok => ?_, fun initiator receiver amount s' n hok => ?_,
    fun initiator asset nftAsset nftTokenId onBehalfOf amount s' hok => ?_⟩
  · obtain ⟨E, shares, -, hdrawn, -⟩ := State.withdrawReserves_posted.ok hok
    exact hdrawn.le_iff hfloor
  · obtain ⟨Rs, shares, value, ha, hdrawn⟩ := State.executeWithdraw_account.ok hok
    have hpaid := ha.payments
    rw [State.outOfVault, onlyIf_of rfl] at hpaid
    exact ⟨value, hpaid, hdrawn.le_iff hfloor⟩
  · obtain ⟨Rs, L, T, shares, value, ha, ⟨hpos, -, -⟩, -, hminted, hdrawn⟩ :=
      State._borrow_account.ok hok
    rw [ha.updated.nextIndex, ← ha.debts] at hminted
    exact ⟨value, ha.payments, hminted, hdrawn.paid_iff hfloor hpos⟩

/-- The vault of the larger deployment rounds down. -/
theorem Deployment.larger_paysFloor : Deployment.larger.PaysFloor := fun _ _ => rfl

/-- The larger deployment, with a share at a price of one and a half. -/
def State.largerDear : State := State.larger .weth9 [.event (.setPricePerShare (15 * 10 ^ 17))]

/-- At a price of one and a half a borrower of 4 WETH is paid just that. -/
theorem vault_covers_sample : ∃ s',
    State.largerDear._borrow .larger 100 10 (4 * WAD) 40 7 100 = .ok s' ∧
    Posted [⟨10, Deployment.larger.yVaultWETH, 20, 4 * WAD⟩, ⟨10, 20, 100, 4 * WAD⟩]
      State.largerDear.erc20 s'.erc20 := by
  obtain ⟨s', hok⟩ : ∃ s', State.largerDear._borrow .larger 100 10 (4 * WAD) 40 7 100 = .ok s' :=
    exists_ok_of_raised (by decide +kernel)
  have hfree : State.largerDear.lendPoolLoan.getCollateralLoanId 40 7 = 0 := by decide +kernel
  have huToken : (State.largerDear.lendPool.reserves 10).uTokenAddress = 20 := by decide +kernel
  have hprice : State.largerDear.yVault.pricePerShare = 15 * 10 ^ 17 := by decide +kernel
  generalize State.largerDear = s at *
  obtain ⟨value, hpaid, -, hiff⟩ := (vault_covers Deployment.larger_paysFloor).2.2 _ _ _ _ _ _ _ hok
  obtain rfl : value = 4 * WAD :=
    hiff.mpr ⟨rfl, by unfold SharesMeet; rw [hprice]; decide +kernel⟩
  rw [if_pos hfree, huToken] at hpaid
  exact ⟨s', hok, hpaid⟩

/-- **The vault can fall short.** At a price of one and a half, a share is worth more than what 2
WETH are rounded to: who borrows them owes them in full and is paid one part less, and who withdraws
them gets nothing. -/
theorem vault_falls_short : Reachable .larger (anyAction .larger) State.largerDear ∧
    (∃ s', State.largerDear.perform .larger 100 (.borrow 10 (2 * WAD) 40 7 100) = .ok s' ∧
      (State.largerDear.erc20 10).balanceOf 100 + (2 * WAD - 1) = (s'.erc20 10).balanceOf 100 ∧
      (s'.debtTokens 10).scaledBalanceOf 100 = 2 * WAD) ∧
    raised (State.largerDear.perform .larger 101 (.withdraw 10 (2 * WAD) 101))
      = some (.transferAmountExceedsBalance 20) := by
  refine ⟨State.larger_reachable _ _, ⟨_, State.perform_after (Deployment.larger_isUser 0)
    (by decide +kernel), ?_⟩, by decide +kernel⟩
  exact ⟨by decide +kernel, by decide +kernel⟩

end Unlockd
