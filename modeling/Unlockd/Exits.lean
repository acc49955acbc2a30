/-
The exits of an auction: what redeeming asks for, and who is paid in the two others.

A redemption repays part of the debt. How much it may be is fixed by two bounds: the least is the
debt less what is safe at the current price, capped at that price, and the most is half-way from the
least to the whole. The bounds are reckoned with a subtraction that fails when the price has risen
far enough for the whole debt to be safe, so that the borrower who needs no redemption is denied it;
and where the cap bites the loan that is left need not be safe.

The price of a token is in ether, the debt in the asset of the reserve. Redeeming and buying out
compare the two as they stand, and are right about every debt just when a token is worth the same
number of either.

In a liquidation and in a buyout the pool is where all payments meet. It passes on what it takes in
and gives up the bid it held; the account of both is exact for every holder.
-/
import Unlockd.Lifecycle
import Unlockd.Health

set_option autoImplicit false

namespace Unlockd

open Outcome FixedPoint Transfers

/-! ## The bounds of a redemption -/

/-- The debt that is safe on a token of some value: its value at the threshold, over the safe health
factor. -/
def safeDebt (value liquidationThreshold safeHealthFactor : ℕ) : Except Error ℕ := do
  let threshold ← percentMul value liquidationThreshold
  wadDiv threshold safeHealthFactor

/-- `calculateOptimalMinRedeemValue` for a token of some value. -/
def minRedeemOf (value borrowAmount liquidationThreshold safeHealthFactor : ℕ) :
    Except Error ℕ := do
  let safe ← safeDebt value liquidationThreshold safeHealthFactor
  let minRedeemValue ← checkedSub borrowAmount safe
  return if value < minRedeemValue then value else minRedeemValue

/-- The least amount exists when the debt is no less than what is safe; it is the difference, capped
at the value. -/
theorem minRedeemOf_eq_ok {v b t h m : ℕ} :
    minRedeemOf v b t h = .ok m ↔ ∃ safe, safeDebt v t h = .ok safe ∧ safe ≤ b ∧
      m = min v (b - safe) := by
  unfold minRedeemOf
  rw [bind_eq_ok]
  refine exists_congr fun safe => and_congr_right fun _ => ?_
  rw [bind_eq_ok]
  constructor
  · rintro ⟨d, hd, hm⟩
    obtain ⟨hle, rfl⟩ := checkedSub_eq_ok.mp hd
    refine ⟨hle, ?_⟩
    rw [← Except.ok.inj hm, min_def]
    split <;> split <;> omega
  · rintro ⟨hle, rfl⟩
    refine ⟨b - safe, checkedSub_eq_ok.mpr ⟨hle, rfl⟩, congrArg Except.ok ?_⟩
    rw [min_def]
    split <;> split <;> omega

/-- The most that may be repaid is half-way between the least and the whole debt. -/
theorem calculateOptimalMaxRedeemValue_eq {b m : ℕ} (hfits : b * RAY ≤ maxUint256) (hle : m ≤ b) :
    calculateOptimalMaxRedeemValue b m = .ok ((b + m) / 2) := by
  have habove : (b - m) * WAD + 2 * WAD / 2 ≤ maxUint256 := by
    rcases Nat.eq_zero_or_pos b with rfl | hb
    · rw [Nat.zero_sub, Nat.zero_mul]
      decide
    · have hle₁ : (b - m) * WAD ≤ b * WAD := Nat.mul_le_mul_right WAD (Nat.sub_le b m)
      have hle₂ : 1 * WAD ≤ b * WAD := Nat.mul_le_mul_right WAD hb
      have hle₃ : b * (2 * WAD) ≤ b * RAY := Nat.mul_le_mul_left b (by decide)
      have hhalf : 2 * WAD / 2 = WAD := Nat.mul_div_cancel_left WAD (by decide)
      have hexpand : b * (2 * WAD) = b * WAD + b * WAD := by ring
      rw [hhalf]
      exact le_trans (by omega) (hle₃.trans hfits)
  have hhalf : wadDiv (b - m) (2 * WAD) = .ok ((b - m + 1) / 2) := by
    rw [wadDiv, unitDiv_ok (by decide) (by decide) (Nat.le_sub_of_add_le habove),
      divHalfUp_two_units _ (by decide)]
  unfold calculateOptimalMaxRedeemValue
  rw [checkedSub_eq_ok.mpr ⟨hle, rfl⟩, ok_bind, hhalf, ok_bind]
  exact checkedSub_eq_ok.mpr ⟨by omega, by omega⟩

namespace State

variable {D : Deployment} {s s₁ : State} {nftAsset initiator onBehalfOf : Address}
  {tokenId amount bidFine : ℕ}

/-- The configuration of the token of a loan. -/
def loanConfig (s : State) (nftAsset : Address) (tokenId : ℕ) : BitVec 256 :=
  s.lendPool.nftConfig (s.loanOn nftAsset tokenId).nftAsset (s.loanOn nftAsset tokenId).nftTokenId

/-- The prices and the debt that an exit looks at. -/
def exitPrices (s : State) (nftAsset : Address) (tokenId : ℕ) : Except Error (ℕ × ℕ × ℕ) :=
  s.calculateLoanLiquidatePrice (s.lendPoolLoan.getCollateralLoanId nftAsset tokenId)
    (s.loanOn nftAsset tokenId).reserveAsset (s.loanOn nftAsset tokenId).nftAsset
    (s.loanOn nftAsset tokenId).nftTokenId (s.loanConfig nftAsset tokenId)

/-- The fine that an exit looks at. -/
def exitFine (s : State) (nftAsset : Address) (tokenId : ℕ) : Except Error (ℕ × ℕ) :=
  s.calculateLoanBidFine (s.loanOn nftAsset tokenId).reserveAsset (s.loanConfig nftAsset tokenId)
    (s.loanOn nftAsset tokenId)

/-- The debt that is safe on a token at its current price. -/
def safeDebtOn (s : State) (nftAsset : Address) (tokenId : ℕ) : Except Error ℕ :=
  safeDebt (s.nftPrices nftAsset tokenId) (getLiquidationThreshold (s.loanConfig nftAsset tokenId))
    s.lendPool.safeHealthFactor

/-- The debt of a loan, and how much of it is safe, once its reserve is up to date. -/
def debtAndSafe (s : State) (nftAsset : Address) (tokenId : ℕ) : Except Error (ℕ × ℕ) := do
  let s₁ ← s.updateState (s.loanOn nftAsset tokenId).reserveAsset
  let prices ← s₁.exitPrices nftAsset tokenId
  let safe ← s₁.safeDebtOn nftAsset tokenId
  return (prices.1, safe)

/-- The checks of `executeRedeem` on the amount and on the fine, in the state it makes them in. -/
def redeemAccepts (s : State) (nftAsset : Address) (tokenId amount bidFine : ℕ) :
    Except Error ℕ :=
  s.validateRedeemAmount (s.loanOn nftAsset tokenId) (s.loanConfig nftAsset tokenId)
    (s.lendPoolLoan.getCollateralLoanId nftAsset tokenId) nftAsset tokenId amount bidFine

/-- The least amount is that for the price of the token. -/
theorem calculateOptimalMinRedeemValue_eq {b t h : ℕ} :
    s.calculateOptimalMinRedeemValue b nftAsset tokenId t h
      = s.getNFTPrice nftAsset tokenId >>= fun value => minRedeemOf value b t h := by
  unfold calculateOptimalMinRedeemValue minRedeemOf safeDebt
  simp only [bind_assoc]

/-- The price of a token is not zero. -/
theorem getNFTPrice_eq_ok {price : ℕ} : s.getNFTPrice nftAsset tokenId = .ok price ↔
    s.nftPrices nftAsset tokenId ≠ 0 ∧ s.nftPrices nftAsset tokenId = price := by
  unfold getNFTPrice
  rw [require_bind_eq_ok]
  exact and_congr_right fun _ => ⟨Except.ok.inj, congrArg _⟩

theorem calculateOptimalMinRedeemValue_eq_ok {b t h m : ℕ} :
    s.calculateOptimalMinRedeemValue b nftAsset tokenId t h = .ok m ↔
      s.nftPrices nftAsset tokenId ≠ 0 ∧
      minRedeemOf (s.nftPrices nftAsset tokenId) b t h = .ok m := by
  rw [calculateOptimalMinRedeemValue_eq, bind_eq_ok]
  constructor
  · rintro ⟨price, hprice, hm⟩
    obtain ⟨hpriced, rfl⟩ := getNFTPrice_eq_ok.mp hprice
    exact ⟨hpriced, hm⟩
  · rintro ⟨hpriced, hm⟩
    exact ⟨_, getNFTPrice_eq_ok.mpr ⟨hpriced, rfl⟩, hm⟩

/-- **What a redemption accepts**, in whole numbers. -/
theorem redeemAccepts_iff {fine : ℕ} :
    s.redeemAccepts nftAsset tokenId amount bidFine = .ok fine ↔ ∃ prices fines safe,
      s.exitPrices nftAsset tokenId = .ok prices ∧ s.exitFine nftAsset tokenId = .ok fines ∧
      s.safeDebtOn nftAsset tokenId = .ok safe ∧
      (fine = fines.2 ∧ fine ≤ bidFine) ∧ s.nftPrices nftAsset tokenId ≠ 0 ∧ safe ≤ prices.1 ∧
      min (s.nftPrices nftAsset tokenId) (prices.1 - safe) ≤ amount ∧
      amount ≤ (prices.1 + min (s.nftPrices nftAsset tokenId) (prices.1 - safe)) / 2 := by
  unfold redeemAccepts validateRedeemAmount
  rw [bind_eq_ok]
  refine exists_congr fun prices => ?_
  constructor
  · rintro ⟨hprices, h⟩
    obtain ⟨fines, hfines, h⟩ := bind_eq_ok.mp h
    obtain ⟨hfine, h⟩ := require_bind_eq_ok.mp h
    obtain ⟨least, hleast, h⟩ := bind_eq_ok.mp h
    obtain ⟨hge, h⟩ := require_bind_eq_ok.mp h
    obtain ⟨most, hmost, h⟩ := bind_eq_ok.mp h
    obtain ⟨hle, h⟩ := require_bind_eq_ok.mp h
    obtain rfl := Except.ok.inj h
    have hfits := getLoanReserveBorrowAmount_fits (calculateLoanLiquidatePrice_spec.ok hprices)
    obtain ⟨hpriced, hleast⟩ := calculateOptimalMinRedeemValue_eq_ok.mp hleast
    obtain ⟨safe, hsafe, hcovered, rfl⟩ := minRedeemOf_eq_ok.mp hleast
    rw [calculateOptimalMaxRedeemValue_eq hfits
      ((Nat.min_le_right _ _).trans (Nat.sub_le _ _))] at hmost
    obtain rfl := Except.ok.inj hmost
    exact ⟨fines, safe, hprices, hfines, hsafe, ⟨rfl, hfine⟩, hpriced, hcovered, hge, hle⟩
  · rintro ⟨fines, safe, hprices, hfines, hsafe, ⟨rfl, hfine⟩, hpriced, hcovered, hge, hle⟩
    have hfits := getLoanReserveBorrowAmount_fits (calculateLoanLiquidatePrice_spec.ok hprices)
    refine ⟨hprices, bind_eq_ok.mpr ⟨fines, hfines, require_bind_eq_ok.mpr ⟨hfine, ?_⟩⟩⟩
    refine bind_eq_ok.mpr ⟨_, calculateOptimalMinRedeemValue_eq_ok.mpr ⟨hpriced,
      minRedeemOf_eq_ok.mpr ⟨safe, hsafe, hcovered, rfl⟩⟩, require_bind_eq_ok.mpr ⟨hge, ?_⟩⟩
    refine bind_eq_ok.mpr ⟨_, calculateOptimalMaxRedeemValue_eq hfits
      ((Nat.min_le_right _ _).trans (Nat.sub_le _ _)), require_bind_eq_ok.mpr ⟨hle, rfl⟩⟩

/-- There is room for a redemption: the prices can be had, the debt is no less than what is safe at
the current price, and it is more, or at least two. -/
def RedeemHasRoom (s : State) (nftAsset : Address) (tokenId : ℕ) : Prop :=
  ∃ prices fines safe, s.exitPrices nftAsset tokenId = .ok prices ∧
    s.exitFine nftAsset tokenId = .ok fines ∧ s.safeDebtOn nftAsset tokenId = .ok safe ∧
    s.nftPrices nftAsset tokenId ≠ 0 ∧ (safe < prices.1 ∨ safe = prices.1 ∧ 2 ≤ prices.1)

/-- Some amount, with some fine, is accepted just when there is room. -/
theorem redeemAccepts_some :
    (∃ amount bidFine fine, 0 < amount ∧ s.redeemAccepts nftAsset tokenId amount bidFine = .ok fine)
      ↔ s.RedeemHasRoom nftAsset tokenId := by
  simp only [redeemAccepts_iff]
  constructor
  · rintro ⟨amount, bidFine, fine, hpos, prices, fines, safe, hprices, hfines, hsafe, -, hpriced,
      hcovered, -, hle⟩
    have hcap := Nat.min_le_right (s.nftPrices nftAsset tokenId) (prices.1 - safe)
    exact ⟨prices, fines, safe, hprices, hfines, hsafe, hpriced, by omega⟩
  · rintro ⟨prices, fines, safe, hprices, hfines, hsafe, hpriced, hroom⟩
    have hcap := Nat.min_le_right (s.nftPrices nftAsset tokenId) (prices.1 - safe)
    -- the most is accepted
    exact ⟨_, fines.2, fines.2, by omega, prices, fines, safe, hprices, hfines, hsafe,
      ⟨rfl, le_rfl⟩, hpriced, by omega, by omega, le_rfl⟩

/-- A redemption that goes through has had its amount accepted. -/
theorem executeRedeem_accepted : Returns (s.executeRedeem D initiator nftAsset tokenId
    amount bidFine)
    (fun p => ∃ s₁ fine, s.updateState (s.loanOn nftAsset tokenId).reserveAsset = .ok s₁ ∧
      0 < amount ∧ s₁.redeemAccepts nftAsset tokenId amount bidFine = .ok fine ∧
      p.2 = amount + fine) := by
  refine Returns.check fun _ => Returns.step fun _ hvalid => Returns.check fun _ => ?_
  refine Sat.bind (updateState_spec.and (Sat.returned _)).returns fun s₁ h₁ => ?_
  obtain ⟨⟨Rs, U, rfl, -⟩, hupd⟩ := h₁
  obtain ⟨_, -, hvalid⟩ := bind_eq_ok.mp hvalid
  obtain ⟨-, hvalid⟩ := require_bind_eq_ok.mp hvalid
  refine Returns.step fun fine hfine => ?_
  -- what follows only moves things, and returns the amount with the fine
  refine Returns.step fun _ _ => Returns.step fun _ _ => Returns.step fun _ _ => ?_
  refine Returns.step fun _ _ => Returns.step fun _ _ => Returns.step fun _ _ => ?_
  exact Returns.step fun _ _ => ⟨_, fine, hupd, require_eq_ok.mp hvalid, hfine, rfl⟩

end State

/-- The larger deployment with a loan of 30 WETH in auction, and then another price of its token. -/
def State.largerRepriced (price : ℕ) : State :=
  State.larger .weth9 (largerLoan ++ largerAuction ++ [.configure (.setNFTPrice 40 7 price)])

/-- **What a redemption leaves.** The amount is part of the debt. What remains of it is safe at the
current price, unless the least amount is capped at that price; then the amount is no less than the
price. -/
theorem redeem_leaves_safe {D : Deployment} {s : State} {initiator nftAsset : Address}
    {tokenId amount bidFine : ℕ} {p : State × ℕ}
    (hok : s.executeRedeem D initiator nftAsset tokenId amount bidFine = .ok p) :
    ∃ b safe, s.debtAndSafe nftAsset tokenId = .ok (b, safe) ∧ amount ≤ b ∧
      (b ≤ safe + s.nftPrices nftAsset tokenId → b - amount ≤ safe) ∧
      (safe + s.nftPrices nftAsset tokenId < b → s.nftPrices nftAsset tokenId ≤ amount) := by
  obtain ⟨s₁, fine, hupd, -, haccepts, -⟩ := State.executeRedeem_accepted.ok hok
  obtain ⟨prices, fines, safe, hprices, -, hsafe, -, -, hcovered, hge, hle⟩ :=
    State.redeemAccepts_iff.mp haccepts
  have hsame : s₁.nftPrices = s.nftPrices := by
    obtain ⟨Rs, U, rfl, -⟩ := State.updateState_spec.ok hupd
    rfl
  rw [hsame] at hge hle
  refine ⟨prices.1, safe, ?_, ?_, fun hcap => ?_, fun hcap => ?_⟩
  · rw [State.debtAndSafe, hupd, ok_bind, hprices, ok_bind, hsafe]
    rfl
  · have hcap := Nat.min_le_right (s.nftPrices nftAsset tokenId) (prices.1 - safe)
    omega
  · rw [min_eq_right (by omega)] at hge
    omega
  · rw [min_eq_left (by omega)] at hge
    exact hge

/-- At a price of 30 WETH a redemption of 10 leaves 20 WETH of debt, of which 24 are safe. -/
theorem redeem_leaves_safe_sample : ∃ p,
    (State.largerRepriced (30 * WAD)).executeRedeem .larger 100 40 7 (10 * WAD) (2 * WAD) = .ok p ∧
    (State.largerRepriced (30 * WAD)).debtAndSafe 40 7 = .ok (30 * WAD, 24 * WAD) ∧
    30 * WAD - 10 * WAD ≤ 24 * WAD := by
  obtain ⟨p, hok⟩ : ∃ p, (State.largerRepriced (30 * WAD)).executeRedeem .larger 100 40 7 (10 * WAD)
      (2 * WAD) = .ok p := exists_ok_of_raised (by decide +kernel)
  have hsafe : (State.largerRepriced (30 * WAD)).debtAndSafe 40 7 = .ok (30 * WAD, 24 * WAD) :=
    eq_ok_of_toOption (by decide +kernel)
  have hprice : (State.largerRepriced (30 * WAD)).nftPrices 40 7 = 30 * WAD := by decide +kernel
  generalize State.largerRepriced (30 * WAD) = s at *
  obtain ⟨b, safe, hbounds, -, hleaves, -⟩ := redeem_leaves_safe hok
  obtain ⟨rfl, rfl⟩ := Prod.mk.inj (Except.ok.inj (hsafe.symm.trans hbounds))
  exact ⟨p, hok, hsafe, hleaves (by rw [hprice]; decide)⟩

/-- **A redeemed loan can be unsafe.** At a price of 10 WETH a redemption of 10 goes through, in
WETH at a price of one. It leaves 20 WETH of debt, of which 8 are safe. -/
theorem redeem_leaves_unsafe :
    Reachable .larger (anyAction .larger) (State.largerRepriced (10 * WAD)) ∧
    (State.largerRepriced (10 * WAD)).getAssetPrice 10 = WAD ∧
    (State.largerRepriced (10 * WAD)).reserveUnit 10 = .ok WAD ∧
    (∃ p, (State.largerRepriced (10 * WAD)).executeRedeem .larger 100 40 7 (10 * WAD) (2 * WAD)
      = .ok p) ∧
    (State.largerRepriced (10 * WAD)).debtAndSafe 40 7 = .ok (30 * WAD, 8 * WAD) ∧
    8 * WAD < 30 * WAD - 10 * WAD := by
  exact ⟨State.larger_reachable _ _, by decide +kernel, eq_ok_of_toOption (by decide +kernel),
    exists_ok_of_raised (by decide +kernel), eq_ok_of_toOption (by decide +kernel), by decide⟩

/-! ## Units -/

/-- The price of a buyout for a token of some value: `executeBuyout` takes the value in ether. -/
def State.buyoutPriceAt (s : State) (onBehalfOf : Address) (borrowAmount value : ℕ) :
    Except Error ℕ := do
  let lockeyDiscount ← percentMul value s.lockeyDiscount
  return s.buyoutPrice onBehalfOf borrowAmount value lockeyDiscount

/-- The least amount of a redemption tells the value of a token: without a threshold nothing is
safe, and a debt that is high enough is capped at the value. -/
theorem minRedeemOf_cap {v b : ℕ} (hle : v ≤ b) : minRedeemOf v b 0 WAD = .ok v := by
  have hsafe : safeDebt v 0 WAD = .ok 0 := by
    refine bind_eq_ok.mpr ⟨0, if_pos (.inr rfl), ?_⟩
    rw [wadDiv, unitDiv_ok (by decide) (by decide) (by rw [Nat.zero_mul]; exact Nat.zero_le _),
      Nat.zero_mul, divHalfUp_zero]
  refine minRedeemOf_eq_ok.mpr ⟨0, hsafe, Nat.zero_le b, ?_⟩
  rw [Nat.sub_zero, min_eq_left hle]

/-- **Ether and the asset of the reserve.** Let `price` be what a token is worth in ether, and
`value` what `calculateNftCollateralData` makes of it in the asset of a loan. The least amount of a
redemption, for every debt, threshold and safe health factor, and the price of a buyout, for every
buyer and debt, are those of the value just when both numbers are the same; what a buyout charges is
the price reckoned in ether. -/
theorem units_agree_iff {D : Deployment} {allowed : State → Action D → Prop} {s : State}
    (hr : Reachable D allowed s) {nftAsset : Address} {tokenId price value : ℕ}
    (hcollateral : s.calculateNftCollateralData (s.loanOn nftAsset tokenId).reserveAsset nftAsset
      tokenId = .ok (price, value)) :
    (((∀ b t h, s.calculateOptimalMinRedeemValue b nftAsset tokenId t h = minRedeemOf value b t h) ∧
        ∀ onBehalfOf b, s.buyoutPriceAt onBehalfOf b price = s.buyoutPriceAt onBehalfOf b value) ↔
      value = price) ∧
    ∀ initiator onBehalfOf s',
      s.executeBuyout D initiator nftAsset tokenId onBehalfOf = .ok s' → ∃ b charged ts,
        s.buyoutPriceAt onBehalfOf b price = .ok charged ∧
        Posted (s.listingRefund D nftAsset tokenId ++
          (⟨(s.loanOn nftAsset tokenId).reserveAsset, initiator, D.lendPool, charged⟩ :: ts))
          s.erc20 s'.erc20 := by
  have hprice : s.getNFTPrice nftAsset tokenId = .ok price := by
    obtain ⟨price₁, hprice, hvalue⟩ := bind_eq_ok.mp hcollateral
    have hsame : price₁ = price := by
      split at hvalue
      · exact congrArg Prod.fst (Except.ok.inj hvalue)
      · obtain ⟨v, -, hvalue⟩ := bind_eq_ok.mp hvalue
        exact congrArg Prod.fst (Except.ok.inj hvalue)
    rwa [hsame] at hprice
  have hleast : ∀ b t h, s.calculateOptimalMinRedeemValue b nftAsset tokenId t h
      = minRedeemOf price b t h := fun b t h => by
    rw [State.calculateOptimalMinRedeemValue_eq, hprice, ok_bind]
  refine ⟨⟨fun hagree => ?_, fun hsame => ?_⟩, fun initiator onBehalfOf s' hok => ?_⟩
  · -- a debt above both, of which nothing is safe
    have hcap := hagree.1 (max value price) 0 WAD
    rw [hleast, minRedeemOf_cap (le_max_right _ _), minRedeemOf_cap (le_max_left _ _)] at hcap
    exact (Except.ok.inj hcap).symm
  · subst hsame
    exact ⟨hleast, fun _ _ => rfl⟩
  · obtain ⟨loan, Rs, L, T, b, charged, fine, left, hid, rfl, -, -, ha, ⟨s₁, hterms⟩, -, -⟩ :=
      State.executeBuyout_account.ok hok
    obtain ⟨-, -, hasset, htoken⟩ := (Reachable.books hr).loans.held hid
    obtain ⟨nftPrice, discounted, hnft, hdiscounted, rfl⟩ := hterms.priced
    have hpaid := ha.payments
    rw [hasset, htoken] at hnft hpaid
    obtain rfl : price = nftPrice := Except.ok.inj (hprice.symm.trans hnft)
    refine ⟨b, _, _, ?_, hpaid⟩
    rw [State.buyoutPriceAt, hdiscounted]
    rfl

/-- In WETH, with 18 decimals and at a price of one, the value of a token of 30 ether is the same
number; the least amount of a redemption and the price of a buyout are those of that value. -/
theorem units_agree_iff_sample : ∃ value,
    (State.largerRepriced (30 * WAD)).calculateNftCollateralData
      ((State.largerRepriced (30 * WAD)).loanOn 40 7).reserveAsset 40 7 = .ok (30 * WAD, value) ∧
    (State.largerRepriced (30 * WAD)).calculateOptimalMinRedeemValue (30 * WAD) 40 7 8000 WAD
      = minRedeemOf value (30 * WAD) 8000 WAD ∧
    (State.largerRepriced (30 * WAD)).buyoutPriceAt 104 (30 * WAD) (30 * WAD)
      = (State.largerRepriced (30 * WAD)).buyoutPriceAt 104 (30 * WAD) value := by
  have hr : Reachable .larger (anyAction .larger) (State.largerRepriced (30 * WAD)) :=
    State.larger_reachable _ _
  have hcollateral : (State.largerRepriced (30 * WAD)).calculateNftCollateralData
      ((State.largerRepriced (30 * WAD)).loanOn 40 7).reserveAsset 40 7
      = .ok (30 * WAD, 30 * WAD) := eq_ok_of_toOption (by decide +kernel)
  generalize State.largerRepriced (30 * WAD) = s at *
  have hsame := (units_agree_iff hr hcollateral).1.mpr rfl
  exact ⟨30 * WAD, hcollateral, hsame.1 _ _ _, hsame.2 _ _⟩

/-- A reserve of six decimals, at a price of one ether for a whole unit. A debt of 30 units is in
auction on a token of 30 ether. -/
def largerSixDecimals : List (Action .larger) :=
  [.configure (.initReserve 16 24 106 12 6 (Deployment.larger_isProxy 4 (by decide))),
    .configure (.setBorrowingFlagOnReserve 16 true),
    .configure (.updateUTokenManagers 16 1 true Deployment.larger_lendPool),
    .configure (.updateTokenManagers 16 1 true Deployment.larger_lendPool),
    .call 100 Deployment.larger_borrower (.borrow 16 (30 * 10 ^ 6) 40 7 100),
    .configure (.setNFTPrice 40 7 (30 * WAD)),
    .call 103 Deployment.larger_bidder (.auction 40 7 (40 * 10 ^ 6) 103)]

/-- The fresh deployment, where somebody has sent shares of the vault to the account of the second
uToken: liquidity is measured in those shares, for reserves of every asset. -/
def State.donated : State :=
  { State.sample .weth9 with yVault := ⟨fun a => if a = 24 then WAD else 0, WAD⟩ }

def State.sixDecimals : State := State.donated.after .larger (largerSetup ++ largerSixDecimals)

/-- **Ether is taken for units of the reserve.** The debt of 30 units, of six decimals, is compared
with the price in wei. The least amount of a redemption should be 6 units, and fails instead; and a
buyout, which should cost 30 units, takes 30 · 10¹⁸. -/
theorem units_go_astray :
    Reachable .larger (anyAction .larger) State.sixDecimals ∧
    (State.sixDecimals.loanOn 40 7).state = .Auction ∧
    State.sixDecimals.calculateNftCollateralData (State.sixDecimals.loanOn 40 7).reserveAsset 40 7
      = .ok (30 * WAD, 30 * 10 ^ 6) ∧
    minRedeemOf (30 * 10 ^ 6) (30 * 10 ^ 6) 8000 WAD = .ok (6 * 10 ^ 6) ∧
    State.sixDecimals.calculateOptimalMinRedeemValue (30 * 10 ^ 6) 40 7 8000 WAD
      ≠ minRedeemOf (30 * 10 ^ 6) (30 * 10 ^ 6) 8000 WAD ∧
    State.sixDecimals.buyoutPriceAt 104 (30 * 10 ^ 6) (30 * 10 ^ 6) = .ok (30 * 10 ^ 6) ∧
    ∃ s', State.sixDecimals.executeBuyout .larger 104 40 7 104 = .ok s' ∧
      (s'.erc20 16).balanceOf 104 + 30 * WAD = (State.sixDecimals.erc20 16).balanceOf 104 := by
  have hreach : Reachable .larger (anyAction .larger) State.sixDecimals :=
    Reachable.after (.start ⟨rfl, rfl, rfl, fun _ => ⟨rfl, fun _ => rfl⟩, fun _ _ => rfl,
      fun _ _ => rfl, fun _ _ => rfl⟩) _ fun _ _ _ => trivial
  have hmin : minRedeemOf (30 * 10 ^ 6) (30 * 10 ^ 6) 8000 WAD = .ok (6 * 10 ^ 6) :=
    eq_ok_of_toOption (by decide +kernel)
  have hnone : (State.sixDecimals.calculateOptimalMinRedeemValue (30 * 10 ^ 6) 40 7 8000
      WAD).toOption = none := by decide +kernel
  refine ⟨hreach, by decide +kernel, eq_ok_of_toOption (by decide +kernel), hmin, fun heq => ?_,
    eq_ok_of_toOption (by decide +kernel), ?_⟩
  · rw [heq, hmin] at hnone
    cases hnone
  · have hpaid : ((State.sixDecimals.executeBuyout .larger 104 40 7 104).toOption.map fun s =>
        (s.erc20 16).balanceOf 104 + 30 * WAD)
        = some ((State.sixDecimals.erc20 16).balanceOf 104) := by decide +kernel
    obtain ⟨s', hok⟩ : ∃ s', State.sixDecimals.executeBuyout .larger 104 40 7 104 = .ok s' :=
      exists_ok_of_raised (by decide +kernel)
    rw [hok] at hpaid
    exact ⟨s', hok, Option.some.inj hpaid⟩

/-! ## Who is paid in the other two exits -/

section Settlement

variable {D : Deployment} {s s' : State} {initiator nftAsset : Address} {tokenId : ℕ}

/-- A loan in auction has a bidder. -/
theorem Reachable.bidder {allowed : State → Action D → Prop} (hr : Reachable D allowed s) (id : ℕ) :
    (s.lendPoolLoan.loans id).state = .Auction → (s.lendPoolLoan.loans id).bidderAddress ≠ 0 := by
  refine Reachable.everyLoan (P := fun _ l => l.state = .Auction → l.bidderAddress ≠ 0)
    (fun _ => nofun) (fun _ _ _ _ _ h => h) (fun _ _ _ _ _ _ _ _ h hturned => ?_) hr id
  cases hturned with
  | enlarged | reduced | handed => exact h
  | firstBid _ _ hto => exact fun _ => hto
  | outbid _ _ hto => exact fun _ => hto
  | opened | redeemed | repaid | liquidated | boughtOut | sold => exact nofun

/-- What a liquidation pays out: what the bid leaves over the debt goes to the borrower. -/
def liquidatePayouts (D : Deployment) (loan : LoanData) (b : ℕ) :
    List (Transfer Address Address) :=
  [⟨loan.reserveAsset, D.lendPool, loan.borrower, loan.bidPrice - b⟩]

/-- What a buyout pays out: the bid back to its bidder and the fine to the first one, as far as the
price goes, if there is a bid; the whole rest to the borrower. -/
def buyoutPayouts (D : Deployment) (loan : LoanData) (price b fine : ℕ) :
    List (Transfer Address Address) :=
  if loan.bidderAddress ≠ 0 then
    [⟨loan.reserveAsset, D.lendPool, loan.bidderAddress, loan.bidPrice⟩,
      ⟨loan.reserveAsset, D.lendPool, loan.firstBidderAddress, min fine (price - b)⟩,
      ⟨loan.reserveAsset, D.lendPool, loan.borrower, price - b - min fine (price - b)⟩]
  else [⟨loan.reserveAsset, D.lendPool, loan.borrower, price - b⟩]

/-- The payments of an exit in which the initiator pays some amount: the bid on the listing of the
loan goes back, the debt goes to the uToken and, in WETH, on into the vault. -/
def State.exitPayments (D : Deployment) (s : State) (initiator nftAsset : Address)
    (tokenId paid b : ℕ) (payouts : List (Transfer Address Address)) :
    List (Transfer Address Address) :=
  let loan := s.loanOn nftAsset tokenId
  let uToken := (s.lendPool.reserves loan.reserveAsset).uTokenAddress
  s.listingRefund D nftAsset tokenId ++
    (⟨loan.reserveAsset, initiator, D.lendPool, paid⟩ ::
      ⟨loan.reserveAsset, D.lendPool, uToken, b⟩ ::
        (State.intoVault D loan.reserveAsset uToken b ++ payouts))

/-- An exit has settled: the debt that was burnt is what the loan owed, and it is what the uToken
was paid; every payment is one of those listed; and what the pool holds is less by the bid of the
loan, and more by what is paid out to the pool itself. -/
structure ExitSettled (D : Deployment) (s s' : State) (initiator nftAsset : Address)
    (tokenId paid b : ℕ) (payouts : List (Transfer Address Address)) : Prop where
  owed : b = (s.loanOn nftAsset tokenId).outstanding
    (s.nextIndex (s.loanOn nftAsset tokenId).reserveAsset)
  burnt : Burnt D.lendPool (s.loanOn nftAsset tokenId).reserveAsset
    (s.loanOn nftAsset tokenId).borrower b
    (s.nextIndex (s.loanOn nftAsset tokenId).reserveAsset) s.debtTokens s'.debtTokens
  payments : Posted (s.exitPayments D initiator nftAsset tokenId paid b payouts) s.erc20 s'.erc20
  pool : ∀ r, (s'.erc20 r).balanceOf D.lendPool + (s.loanOn nftAsset tokenId).escrow r
    = (s.erc20 r).balanceOf D.lendPool
      + received (s.listingRefund D nftAsset tokenId ++ payouts) r D.lendPool

/-- The pool passes on what it takes in. What it pays out beyond that comes out of its own. -/
theorem State.exitPayments_pool {paid b kept : ℕ} {payouts : List (Transfer Address Address)}
    (htotal : b + total payouts = paid + kept) (hinitiator : initiator ≠ D.lendPool)
    (hproxy : D.isProxy (s.lendPool.reserves (s.loanOn nftAsset tokenId).reserveAsset).uTokenAddress
      = true)
    (hsrc : ∀ t ∈ payouts, t.asset = (s.loanOn nftAsset tokenId).reserveAsset ∧
      t.src = D.lendPool)
    (h : Posted (s.exitPayments D initiator nftAsset tokenId paid b payouts) s.erc20 s'.erc20)
    (r : Address) :
    (s'.erc20 r).balanceOf D.lendPool
        + (if r = (s.loanOn nftAsset tokenId).reserveAsset then kept else 0)
      = (s.erc20 r).balanceOf D.lendPool
        + received (s.listingRefund D nftAsset tokenId ++ payouts) r D.lendPool := by
  have huToken : (s.lendPool.reserves (s.loanOn nftAsset tokenId).reserveAsset).uTokenAddress
      ≠ D.lendPool := fun he => by
    rw [he, D.proxy_ne_lendPool] at hproxy
    cases hproxy
  have hmarket : sent (s.listingRefund D nftAsset tokenId) r D.lendPool = 0 := by
    refine sent_eq_zero _ fun t ht => ?_
    rw [State.listingRefund_src t ht]
    exact D.lendPool_ne_debtMarket.symm
  have hvault : sent (State.intoVault D (s.loanOn nftAsset tokenId).reserveAsset
        (s.lendPool.reserves (s.loanOn nftAsset tokenId).reserveAsset).uTokenAddress b) r D.lendPool
        = 0 ∧
      received (State.intoVault D (s.loanOn nftAsset tokenId).reserveAsset
        (s.lendPool.reserves (s.loanOn nftAsset tokenId).reserveAsset).uTokenAddress b) r D.lendPool
        = 0 := by
    unfold State.intoVault onlyIf
    split
    · simp [huToken, D.yVault_ne_lendPool]
    · exact ⟨rfl, rfl⟩
  have hpool := h r D.lendPool
  unfold State.exitPayments at hpool
  dsimp only at hpool
  rw [sent_append, sent_cons, sent_cons, sent_append, hmarket, hvault.1, sent_eq_total hsrc,
    received_append, received_cons, received_cons, received_append, hvault.2] at hpool
  rw [received_append]
  by_cases hasset : r = (s.loanOn nftAsset tokenId).reserveAsset
  · simp only [hasset, hinitiator, huToken, and_false, and_self, if_true, if_false] at hpool ⊢
    omega
  · simp only [hasset, Ne.symm hasset, false_and, if_false] at hpool ⊢
    omega

/-- A loan that is bought out keeps its bid in the pool only if it has one. -/
theorem LoanData.escrow_of_exit {loan : LoanData} (hwell : loan.WellFormed) (hlive : loan.live)
    (hbidder : loan.state = .Auction → loan.bidderAddress ≠ 0) (r : Address) :
    loan.escrow r = if r = loan.reserveAsset then
      if loan.bidderAddress ≠ 0 then loan.bidPrice else 0 else 0 := by
  unfold LoanData.escrow
  rcases hlive with hactive | hauction
  · obtain ⟨-, hnobody, -⟩ := hwell.noBid hactive
    simp [hactive, hnobody]
  · rw [if_pos (hbidder hauction)]
    exact if_congr ⟨fun hx => hx.2.symm, fun hx => ⟨hauction, hx.symm⟩⟩ rfl rfl

/-- The loan on a token is live, and records the token. -/
theorem Books.loanOn (h : Books D s)
    (hid : s.lendPoolLoan.getCollateralLoanId nftAsset tokenId ≠ 0) :
    (s.loanOn nftAsset tokenId).live ∧ (s.loanOn nftAsset tokenId).nftAsset = nftAsset ∧
      (s.loanOn nftAsset tokenId).nftTokenId = tokenId :=
  (h.loans.held hid).2

/-- **Liquidations settle.** -/
theorem executeLiquidate_settled {allowed : State → Action D → Prop} (hr : Reachable D allowed s)
    (hinitiator : initiator ≠ D.lendPool) {amount : ℕ} {p : State × ℕ}
    (hok : s.executeLiquidate D initiator nftAsset tokenId amount = .ok p) :
    ∃ b, ExitSettled D s p.1 initiator nftAsset tokenId
      (b - (s.loanOn nftAsset tokenId).bidPrice) b
      (liquidatePayouts D (s.loanOn nftAsset tokenId) b) := by
  have hbooks := Reachable.books hr
  obtain ⟨loan, Rs, L, T, b, hid, hloan, hb, ha, -, hL, hburnt⟩ :=
    State.executeLiquidate_account.ok hok
  obtain rfl : loan = s.loanOn nftAsset tokenId := hloan
  obtain ⟨hlive, hasset, htoken⟩ := hbooks.loanOn hid
  have hpayments := ha.payments
  rw [hasset, htoken] at hpayments
  rw [← ha.debts, ha.updated.nextIndex] at hburnt
  rw [ha.updated.nextIndex] at hb
  have hposted : Posted (s.exitPayments D initiator nftAsset tokenId
      (b - (s.loanOn nftAsset tokenId).bidPrice) b
      (liquidatePayouts D (s.loanOn nftAsset tokenId) b)) s.erc20 p.1.erc20 := by
    refine hpayments.congr (fun k a => ?_) fun k a => ?_
    · simp only [State.exitPayments, liquidatePayouts, sent_append, sent_cons, sent_nil]
      rw [sent_onlyIf _ _ _ fun hx => ?_, sent_onlyIf _ _ _ fun hx => ?_]
      · simp only [sent_cons, sent_nil, Nat.add_zero]
      · exact Nat.eq_zero_of_not_pos hx
      · exact Nat.eq_zero_of_not_pos hx
    · simp only [State.exitPayments, liquidatePayouts, received_append, received_cons, received_nil]
      rw [received_onlyIf _ _ _ fun hx => ?_, received_onlyIf _ _ _ fun hx => ?_]
      · simp only [received_cons, received_nil, Nat.add_zero]
      · exact Nat.eq_zero_of_not_pos hx
      · exact Nat.eq_zero_of_not_pos hx
  refine ⟨b, hb, hburnt, hposted, fun r => ?_⟩
  have hauction : (s.loanOn nftAsset tokenId).state = .Auction := (require_bind_eq_ok.mp hL).1
  have htotal : b + total (liquidatePayouts D (s.loanOn nftAsset tokenId) b)
      = b - (s.loanOn nftAsset tokenId).bidPrice + (s.loanOn nftAsset tokenId).bidPrice := by
    unfold liquidatePayouts total
    simp only [List.map_cons, List.map_nil, List.sum_cons, List.sum_nil]
    omega
  rw [LoanData.escrow_of_auction hauction]
  refine State.exitPayments_pool htotal hinitiator
    (hbooks.proxies _ (Reachable.backed hr hlive)) (fun t ht => ?_) hposted r
  rw [List.mem_singleton.mp ht]
  exact ⟨rfl, rfl⟩

/-- What a buyout pays to the bidders and the borrower, as it was paid and as it is listed. -/
theorem buyoutPayouts_net (loan : LoanData) {price b fine left : ℕ}
    (hleft : left = if loan.bidderAddress ≠ 0 then price - b - fine else price - b)
    (k a : Address) :
    sent (State.buyoutPayments D loan (price - b) fine ++
        onlyIf (left ≠ 0) ⟨loan.reserveAsset, D.lendPool, loan.borrower, left⟩) k a
      = sent (buyoutPayouts D loan price b fine) k a ∧
    received (State.buyoutPayments D loan (price - b) fine ++
        onlyIf (left ≠ 0) ⟨loan.reserveAsset, D.lendPool, loan.borrower, left⟩) k a
      = received (buyoutPayouts D loan price b fine) k a := by
  have hlast : ¬ left ≠ 0 → left = 0 := not_not.mp
  have hfine : ¬ (fine ≤ price - b ∨ price - b > 0) → min fine (price - b) = 0 := fun hx => by omega
  rw [sent_append, received_append, sent_onlyIf _ _ _ hlast, received_onlyIf _ _ _ hlast]
  unfold State.buyoutPayments buyoutPayouts
  by_cases hbidder : loan.bidderAddress ≠ 0
  · rw [if_pos hbidder] at hleft ⊢
    rw [if_pos hbidder, sent_cons, received_cons, sent_onlyIf _ _ _ hfine,
      received_onlyIf _ _ _ hfine]
    have hrest : left = price - b - min fine (price - b) := by omega
    rw [← hrest]
    simp only [sent_cons, sent_nil, received_cons, received_nil, Nat.add_zero, Nat.add_assoc,
      and_self]
  · rw [if_neg hbidder] at hleft ⊢
    rw [if_neg hbidder, hleft, sent_nil, received_nil, Nat.zero_add, Nat.zero_add]
    exact ⟨rfl, rfl⟩

/-- **Buyouts settle.** -/
theorem executeBuyout_settled {allowed : State → Action D → Prop} (hr : Reachable D allowed s)
    (hinitiator : initiator ≠ D.lendPool) {onBehalfOf : Address}
    (hok : s.executeBuyout D initiator nftAsset tokenId onBehalfOf = .ok s') :
    ∃ s₁ b price fine,
      s.BuyoutTerms s₁ onBehalfOf (s.loanOn nftAsset tokenId) b price fine ∧
      ExitSettled D s s' initiator nftAsset tokenId price b
        (buyoutPayouts D (s.loanOn nftAsset tokenId) price b fine) := by
  have hbooks := Reachable.books hr
  obtain ⟨loan, Rs, L, T, b, price, fine, left, hid, hloan, hb, hleft, ha,
    ⟨s₁, hterms⟩, -, hburnt⟩ :=
    State.executeBuyout_account.ok hok
  obtain rfl : loan = s.loanOn nftAsset tokenId := hloan
  obtain ⟨hlive, hasset, htoken⟩ := hbooks.loanOn hid
  have hpayments := ha.payments
  rw [hasset, htoken] at hpayments
  rw [← ha.debts, ha.updated.nextIndex] at hburnt
  rw [ha.updated.nextIndex] at hb
  have hposted : Posted (s.exitPayments D initiator nftAsset tokenId price b
      (buyoutPayouts D (s.loanOn nftAsset tokenId) price b fine)) s.erc20 s'.erc20 := by
    refine hpayments.congr (fun k a => ?_) fun k a => ?_
    · have hnet := (buyoutPayouts_net (D := D) _ hleft k a).1
      simp only [State.exitPayments, sent_append, sent_cons] at hnet ⊢
      rw [hnet]
    · have hnet := (buyoutPayouts_net (D := D) _ hleft k a).2
      simp only [State.exitPayments, received_append, received_cons] at hnet ⊢
      rw [hnet]
  refine ⟨s₁, b, price, fine, hterms, hb, hburnt, hposted, fun r => ?_⟩
  have hcovers := hterms.covers
  -- the price less the debt is what the fine and the borrower share
  have htotal : b + total (buyoutPayouts D (s.loanOn nftAsset tokenId) price b fine)
      = price + if (s.loanOn nftAsset tokenId).bidderAddress ≠ 0 then
        (s.loanOn nftAsset tokenId).bidPrice else 0 := by
    unfold buyoutPayouts total
    split <;> simp only [List.map_cons, List.map_nil, List.sum_cons, List.sum_nil] <;> omega
  have hbidder : (s.loanOn nftAsset tokenId).state = .Auction →
    (s.loanOn nftAsset tokenId).bidderAddress ≠ 0 := Reachable.bidder hr _
  have hwell : (s.loanOn nftAsset tokenId).WellFormed := hbooks.loans.wellFormed _
  rw [LoanData.escrow_of_exit hwell hlive hbidder]
  refine State.exitPayments_pool htotal hinitiator
    (hbooks.proxies _ (Reachable.backed hr hlive)) (fun t ht => ?_) hposted r
  unfold buyoutPayouts at ht
  split at ht <;> simp only [List.mem_cons, List.not_mem_nil, or_false] at ht
  · rcases ht with rfl | rfl | rfl <;> exact ⟨rfl, rfl⟩
  · rw [ht]
    exact ⟨rfl, rfl⟩

/-- **Both exits settle to the last unit.** In every reachable state, a liquidation and a buyout
that go through burn what the loan owes and pay it to the uToken. In a liquidation the initiator
pays what the bid lacks of the debt, and the borrower gets what it has over. In a buyout the price
covers the debt, the bid goes back to its bidder, the first bidder gets the fine as far as the price
goes, and the borrower the rest. What the pool holds is less by the bid it kept for the loan, and
more by what it is paid itself. -/
theorem exits_settle {allowed : State → Action D → Prop} (hr : Reachable D allowed s)
    (houtside : D.isUser initiator) :
    (∀ amount p, s.executeLiquidate D initiator nftAsset tokenId amount = .ok p →
      ∃ b, ExitSettled D s p.1 initiator nftAsset tokenId
        (b - (s.loanOn nftAsset tokenId).bidPrice) b
        (liquidatePayouts D (s.loanOn nftAsset tokenId) b)) ∧
    ∀ onBehalfOf s', s.executeBuyout D initiator nftAsset tokenId onBehalfOf = .ok s' →
      ∃ s₁ b price fine,
        s.BuyoutTerms s₁ onBehalfOf (s.loanOn nftAsset tokenId) b price fine ∧
        ExitSettled D s s' initiator nftAsset tokenId price b
          (buyoutPayouts D (s.loanOn nftAsset tokenId) price b fine) :=
  ⟨fun _ _ hok => executeLiquidate_settled hr houtside.ne_lendPool hok,
    fun _ _ hok => executeBuyout_settled hr houtside.ne_lendPool hok⟩

end Settlement

/-- In the larger deployment user 104 buys out a loan with a bid of 40 WETH, which the pool held. -/
theorem exits_settle_sample : ∃ s',
    (State.largerRepriced (30 * WAD)).executeBuyout .larger 104 40 7 104 = .ok s' ∧
    (s'.erc20 10).balanceOf Deployment.larger.lendPool + 40 * WAD
      = ((State.largerRepriced (30 * WAD)).erc20 10).balanceOf Deployment.larger.lendPool := by
  have hr : Reachable .larger (anyAction .larger) (State.largerRepriced (30 * WAD)) :=
    State.larger_reachable _ _
  obtain ⟨s', hok⟩ : ∃ s', (State.largerRepriced (30 * WAD)).executeBuyout .larger 104 40 7 104
      = .ok s' := exists_ok_of_raised (by decide +kernel)
  have hescrow : ((State.largerRepriced (30 * WAD)).loanOn 40 7).escrow 10 = 40 * WAD := by
    decide +kernel
  have hpayees : ((State.largerRepriced (30 * WAD)).loanOn 40 7).bidderAddress ≠ 1 ∧
      ((State.largerRepriced (30 * WAD)).loanOn 40 7).firstBidderAddress ≠ 1 ∧
      ((State.largerRepriced (30 * WAD)).loanOn 40 7).borrower ≠ 1 := by decide +kernel
  have hlisting : (State.largerRepriced (30 * WAD)).listingRefund .larger 40 7 = [] := by
    decide +kernel
  generalize State.largerRepriced (30 * WAD) = s at *
  obtain ⟨s₁, b, price, fine, -, hsettled⟩ :=
    (exits_settle hr (Deployment.larger_isUser 4)).2 104 s' hok
  have hpool := hsettled.pool 10
  rw [hescrow, hlisting, List.nil_append, received_eq_zero _ fun t ht => ?_] at hpool
  · exact ⟨s', hok, hpool⟩
  · unfold buyoutPayouts at ht
    split at ht <;> simp only [List.mem_cons, List.not_mem_nil, or_false] at ht
    · rcases ht with rfl | rfl | rfl
      · exact hpayees.1
      · exact hpayees.2.1
      · exact hpayees.2.2
    · rw [ht]
      exact hpayees.2.2

/-- **The pool can be among those who are paid.** A bid is made on behalf of the pool. A buyout
gives it back to the pool, and what the pool holds is not less by the bid. -/
theorem pool_pays_itself : ∃ s s', Reachable .larger (anyAction .larger) s ∧
    Deployment.larger.isUser 104 ∧ s.executeBuyout .larger 104 40 7 104 = .ok s' ∧
    (s.loanOn 40 7).reserveAsset = 10 ∧ (s.loanOn 40 7).escrow 10 = 40 * WAD ∧
    (s'.erc20 10).balanceOf Deployment.larger.lendPool + (s.loanOn 40 7).escrow 10
      ≠ (s.erc20 10).balanceOf Deployment.larger.lendPool := by
  have hreach := State.larger_reachable .weth9 (largerLoan ++
    [.configure (.setNFTPrice 40 7 (30 * WAD)),
      .call 103 (Deployment.larger_isUser 3) (.auction 40 7 (40 * WAD) 1)])
  have hok := State.perform_after (s := State.larger .weth9 (largerLoan ++
    [.configure (.setNFTPrice 40 7 (30 * WAD)),
      .call 103 (Deployment.larger_isUser 3) (.auction 40 7 (40 * WAD) 1)]))
    (Deployment.larger_isUser 4) (c := .buyout 40 7 104) (by decide +kernel)
  obtain ⟨-, hok⟩ := require_bind_eq_ok.mp hok
  exact ⟨_, _, hreach, Deployment.larger_isUser 4, hok, by decide +kernel, by decide +kernel,
    by decide +kernel⟩

end Unlockd
