/-
When a loan may be seized.

Three calls take the token of a loan away from its borrower: a first bid, a buyout, and a sale
through the adapter. Each looks at the price of the token once more. The first bid compares the debt
with the collateral at its threshold; the other two compare the health factor, a quotient of two
rounded numbers, with one whole. Here each of the three checks is a predicate on the state, with the
lemma that the call makes it, and all are brought down to one inequality in whole numbers,
`Underwater`: without a division, and exact to the last place.
-/
import Unlockd.MarketAccounts

set_option autoImplicit false

namespace Unlockd

open Outcome FixedPoint

/-! ## The health factor -/

/-- A loan is under water: its collateral at the threshold is worth no more than the debt, up to
half of the last place of the health factor. -/
def Underwater (totalCollateral totalDebt liquidationThreshold : ℕ) : Prop :=
  2 * (divHalfUp (totalCollateral * liquidationThreshold) PERCENTAGE_FACTOR * WAD)
    < (2 * WAD + 1) * totalDebt

/-- Collateral that is worth less than the debt at its threshold is under water. -/
theorem Underwater.of_lt {c d t : ℕ} (h : divHalfUp (c * t) PERCENTAGE_FACTOR < d) :
    Underwater c d t := by
  have hwad : divHalfUp (c * t) PERCENTAGE_FACTOR * WAD ≤ d * WAD := Nat.mul_le_mul_right WAD h.le
  have hsplit : (2 * WAD + 1) * d = 2 * (d * WAD) + d := by ring
  unfold Underwater
  omega

/-- What is under water has a debt, and at the threshold no collateral of twice as much. -/
theorem Underwater.bounds {c d t : ℕ} (h : Underwater c d t) :
    0 < d ∧ divHalfUp (c * t) PERCENTAGE_FACTOR < 2 * d := by
  unfold Underwater at h
  have hd : 0 < d := Nat.pos_of_ne_zero fun hz => by simp [hz] at h
  refine ⟨hd, Nat.lt_of_not_le fun hle => ?_⟩
  have hcovered : 2 * d * WAD ≤ divHalfUp (c * t) PERCENTAGE_FACTOR * WAD :=
    Nat.mul_le_mul_right WAD hle
  have hdebt : d ≤ d * WAD := Nat.le_mul_of_pos_right d (by decide)
  have hsplit : (2 * WAD + 1) * d = 2 * (d * WAD) + d := by ring
  have hdouble : 2 * d * WAD = 2 * (d * WAD) := by ring
  omega

/-- **The health factor without division.** Of a debt that was read off an index, the health factor
goes through and is at most one whole just when the loan is under water. -/
theorem calculateHealthFactor_le_iff {c d t : ℕ} (hfits : d * RAY ≤ maxUint256) :
    (∃ f, calculateHealthFactorFromBalances c d t = .ok f ∧
      f ≤ HEALTH_FACTOR_LIQUIDATION_THRESHOLD) ↔ Underwater c d t := by
  unfold calculateHealthFactorFromBalances HEALTH_FACTOR_LIQUIDATION_THRESHOLD
  constructor
  · rintro ⟨f, hf, hle⟩
    split at hf
    · -- without a debt the factor is the largest number
      obtain rfl := Except.ok.inj hf
      exact absurd hle (by decide)
    · obtain ⟨T, hT, hf⟩ := bind_eq_ok.mp hf
      obtain ⟨hd, rfl⟩ := unitDiv_spec hf
      obtain rfl := unitMul_spec hT
      exact (divHalfUp_le_iff hd WAD).mp hle
  · intro h
    obtain ⟨hd, hcovered⟩ := h.bounds
    have hne : d ≠ 0 := Nat.ne_of_gt hd
    have hhalf : d / 2 ≤ d := Nat.div_le_self d 2
    have hround : c * t + 10000 / 2 < divHalfUp (c * t) 10000 * 10000 + 10000 :=
      lt_divHalfUp_mul (c * t) (by decide)
    have hproduct : c * t + 10000 / 2 ≤ d * 20000 := by
      rw [show PERCENTAGE_FACTOR = 10000 from rfl] at hcovered
      omega
    have hquotient : divHalfUp (c * t) PERCENTAGE_FACTOR * WAD + d / 2 ≤ d * (2 * WAD + 1) := by
      have hwad := Nat.mul_le_mul_right WAD hcovered.le
      have hexpand : d * (2 * WAD + 1) = 2 * d * WAD + d := by ring
      omega
    -- nothing overflows, as the debt was read off an index
    have hT : percentMul c t = .ok (divHalfUp (c * t) PERCENTAGE_FACTOR) :=
      unitMul_ok (Nat.le_sub_of_add_le
        (hproduct.trans ((Nat.mul_le_mul_left d (by decide)).trans hfits)))
    have hf : wadDiv (divHalfUp (c * t) PERCENTAGE_FACTOR) d
        = .ok (divHalfUp (divHalfUp (c * t) PERCENTAGE_FACTOR * WAD) d) :=
      unitDiv_ok (by decide) hne (Nat.le_sub_of_add_le
        (hquotient.trans ((Nat.mul_le_mul_left d (by decide)).trans hfits)))
    refine ⟨_, ?_, (divHalfUp_le_iff hd WAD).mpr h⟩
    rw [if_neg hne, hT, ok_bind, hf]

/-- A loan-to-value ratio has two bytes. -/
theorem getLtv_le (c : BitVec 256) : getLtv c ≤ 65535 := by
  unfold getLtv getField
  rw [BitVec.toNat_ushiftRight, Nat.shiftRight_zero, BitVec.toNat_and]
  exact Nat.and_le_right.trans (by decide)

namespace State

variable {D : Deployment} {s s₁ : State} {nftAsset reserveAsset : Address} {tokenId : ℕ}

/-- What a loan is reported to owe is far below the largest number. -/
theorem getLoanReserveBorrowAmount_fits {id b : ℕ} (hb : s.getLoanReserveBorrowAmount id = .ok b) :
    b * RAY ≤ maxUint256 := by
  unfold getLoanReserveBorrowAmount at hb
  dsimp only at hb
  split at hb
  · rw [← Except.ok.inj hb, Nat.zero_mul]
    exact Nat.zero_le _
  · obtain ⟨j, -, hb⟩ := bind_eq_ok.mp hb
    exact unitMul_fits (by decide) hb

/-! ## The three checks -/

/-- The check that `executeAuction` makes of a first bid. -/
def AuctionPermitted (s : State) (nftAsset : Address) (tokenId : ℕ) : Prop :=
  let loanId := s.lendPoolLoan.getCollateralLoanId nftAsset tokenId
  let loanData := s.loanOn nftAsset tokenId
  ∃ s₁ prices, s.updateState loanData.reserveAsset = .ok s₁ ∧
    s₁.calculateLoanLiquidatePrice loanId loanData.reserveAsset loanData.nftAsset
      loanData.nftTokenId (s.lendPool.nftConfig loanData.nftAsset loanData.nftTokenId)
        = .ok prices ∧
    prices.1 > prices.2.1

/-- The check that `executeBuyout` makes of the health factor. -/
def BuyoutPermitted (s : State) (nftAsset : Address) (tokenId : ℕ) : Prop :=
  let loanId := s.lendPoolLoan.getCollateralLoanId nftAsset tokenId
  let loanData := s.loanOn nftAsset tokenId
  ∃ s₁ health, s.updateState loanData.reserveAsset = .ok s₁ ∧
    s₁.calculateLoanData loanData.reserveAsset loanData.nftAsset loanData.nftTokenId
      (s.lendPool.nftConfig loanData.nftAsset loanData.nftTokenId) loanId = .ok health ∧
    health.2.2 ≤ HEALTH_FACTOR_LIQUIDATION_THRESHOLD

/-- The check that the adapter makes of the health factor. -/
def SalePermitted (s : State) (nftAsset reserveAsset : Address) (tokenId : ℕ) : Prop :=
  ∃ s₁, s.updateReserveState reserveAsset = .ok s₁ ∧
    s₁._validateLoanHealthFactor nftAsset tokenId = .ok ()

/-- A first bid goes through only where it is permitted. -/
theorem executeAuction_permitted {initiator onBehalfOf : Address} {bidPrice : ℕ}
    (hactive : (s.loanOn nftAsset tokenId).state = .Active) :
    Returns (s.executeAuction D initiator nftAsset tokenId bidPrice onBehalfOf)
      (fun _ => s.AuctionPermitted nftAsset tokenId) := by
  refine Returns.check fun _ => Returns.check fun _ => Returns.check fun _ => ?_
  refine Returns.step fun _ _ => Returns.step fun s₁ hs₁ => Returns.step fun prices hprices => ?_
  refine Returns.step fun _ hbid => Sat.mono (Sat.returned _) (fun _ _ => ?_) fun _ _ => trivial
  unfold validateBidPrice at hbid
  rw [if_pos (by exact hactive)] at hbid
  exact ⟨s₁, prices, hs₁, hprices, (require_bind_eq_ok.mp hbid).1⟩

/-- A buyout goes through only where it is permitted. -/
theorem executeBuyout_permitted {initiator onBehalfOf : Address} :
    Returns (s.executeBuyout D initiator nftAsset tokenId onBehalfOf)
      (fun _ => s.BuyoutPermitted nftAsset tokenId) := by
  refine Returns.check fun _ => Returns.check fun _ => Returns.step fun _ _ => ?_
  refine Returns.step fun s₁ hs₁ => Returns.step fun health hhealth => Returns.check fun hle => ?_
  exact (Sat.returned _).mono (fun _ _ => ⟨s₁, health, hs₁, hhealth, hle⟩) fun _ _ => trivial

/-- A sale goes through only where it is permitted. -/
theorem liquidateReservoir_permitted {caller module : Address} {sale : Sale D}
    {expectedLiquidateAmount : ℕ} :
    Returns (s.liquidateReservoir D caller nftAsset reserveAsset tokenId module sale
        expectedLiquidateAmount)
      (fun _ => s.SalePermitted nftAsset reserveAsset tokenId) := by
  refine Returns.check fun _ => Returns.check fun _ => Returns.step fun s₁ hs₁ => ?_
  refine Returns.step fun _ _ => Returns.step fun _ hhealth => ?_
  exact (Sat.returned _).mono (fun _ _ => ⟨s₁, hs₁, hhealth⟩) fun _ _ => trivial

/-! ## What they come to -/

/-- The collateral depends on the prices and the decimals of the reserve alone. -/
theorem calculateNftCollateralData_congr {s' : State} (hnft : s'.nftPrices = s.nftPrices)
    (hprice : s'.getAssetPrice = s.getAssetPrice)
    (hconfiguration : (s'.lendPool.reserves reserveAsset).configuration
      = (s.lendPool.reserves reserveAsset).configuration) :
    s'.calculateNftCollateralData reserveAsset nftAsset tokenId
      = s.calculateNftCollateralData reserveAsset nftAsset tokenId := by
  unfold calculateNftCollateralData getNFTPrice inReserve reserveUnit
  rw [hnft, hprice, hconfiguration]

/-- Bringing a reserve up to date leaves every collateral as it was. -/
theorem updateReserveState_collateral {asset : Address}
    (h : s.updateReserveState asset = .ok s₁) :
    s₁.calculateNftCollateralData reserveAsset nftAsset tokenId
      = s.calculateNftCollateralData reserveAsset nftAsset tokenId := by
  obtain ⟨-, Rs, U, rfl, hupd⟩ := updateReserveState_spec.ok h
  exact calculateNftCollateralData_congr rfl rfl (hupd.configuration reserveAsset)

/-- Naming another reserve leaves the debt of a loan, and the index it is burnt at, as they were. -/
theorem updateReserveState_elsewhere (h : s.updateReserveState reserveAsset = .ok s₁)
    (hne : (s.loanOn nftAsset tokenId).reserveAsset ≠ reserveAsset) :
    s₁.getLoanReserveBorrowAmount (s₁.lendPoolLoan.getCollateralLoanId nftAsset tokenId)
      = s.getLoanReserveBorrowAmount (s.lendPoolLoan.getCollateralLoanId nftAsset tokenId) := by
  obtain ⟨-, Rs, U, rfl, hupd⟩ := State.updateReserveState_spec.ok h
  have hother : Rs (s.loanOn nftAsset tokenId).reserveAsset
      = s.lendPool.reserves (s.loanOn nftAsset tokenId).reserveAsset := hupd.1 _ hne
  unfold State.loanOn at hother
  unfold State.getLoanReserveBorrowAmount
  simp only [State.withReserves, State.withUTokens, hother]

/-- The debt of a loan there is goes through where it can be stated in ether too. -/
theorem debtOfLoan_eq_ok {id b : ℕ} (hid : id ≠ 0) : s.debtOfLoan reserveAsset id = .ok b ↔
    ∃ debtInETH, s.calculateNftDebtData reserveAsset id = .ok (debtInETH, b) := by
  unfold debtOfLoan
  rw [if_neg hid]
  constructor
  · intro h
    obtain ⟨debt, hdebt, h⟩ := bind_eq_ok.mp h
    obtain rfl := Except.ok.inj h
    exact ⟨debt.1, hdebt⟩
  · rintro ⟨debtInETH, hdebt⟩
    rw [hdebt, ok_bind]
    rfl

/-- That is where the product with the price of the reserve fits. -/
theorem calculateNftDebtData_iff {id b unit : ℕ} (hunit : s.reserveUnit reserveAsset = .ok unit) :
    (∃ debtInETH, s.calculateNftDebtData reserveAsset id = .ok (debtInETH, b)) ↔
      s.getLoanReserveBorrowAmount id = .ok b ∧ b * s.getAssetPrice reserveAsset ≤ maxUint256 := by
  have hpos : unit ≠ 0 := by
    obtain ⟨-, rfl⟩ := checkedPow_eq_ok.mp hunit
    exact (Nat.pow_pos (by decide)).ne'
  unfold calculateNftDebtData
  rw [hunit, ok_bind]
  constructor
  · rintro ⟨debtInETH, h⟩
    obtain ⟨debt, hdebt, h⟩ := bind_eq_ok.mp h
    obtain ⟨amount, hamount, h⟩ := bind_eq_ok.mp h
    obtain ⟨_, -, h⟩ := bind_eq_ok.mp h
    obtain ⟨-, rfl⟩ := Prod.mk.inj (Except.ok.inj h)
    exact ⟨hdebt, (checkedMul_eq_ok.mp hamount).1⟩
  · rintro ⟨hdebt, hfits⟩
    have hdiv : checkedDiv (b * s.getAssetPrice reserveAsset) unit
        = .ok (b * s.getAssetPrice reserveAsset / unit) := checkedDiv_eq_ok.mpr ⟨hpos, rfl⟩
    refine ⟨b * s.getAssetPrice reserveAsset / unit, ?_⟩
    rw [hdebt, ok_bind, checkedMul_eq_ok.mpr ⟨hfits, rfl⟩, ok_bind, hdiv, ok_bind]
    rfl

/-- The debt that is stated in ether is the debt of the loan. -/
theorem debtOfLoan_debt {id b : ℕ} (hid : id ≠ 0) (h : s.debtOfLoan reserveAsset id = .ok b) :
    s.getLoanReserveBorrowAmount id = .ok b := by
  obtain ⟨debtInETH, hdata⟩ := (debtOfLoan_eq_ok hid).mp h
  obtain ⟨unit, hunit, -⟩ := bind_eq_ok.mp hdata
  exact ((calculateNftDebtData_iff hunit).mp ⟨debtInETH, hdata⟩).1

/-- The health factor of a debt on a token at its price of today, as `calculateLoanData` computes
it. -/
def healthFactorOf (s : State) (asset nftAsset : Address) (tokenId : ℕ) (nftConfig : BitVec 256)
    (debt : ℕ) : Except Error ℕ := do
  let collateral ← s.calculateNftCollateralData asset nftAsset tokenId
  calculateHealthFactorFromBalances collateral.2 debt (getLiquidationThreshold nftConfig)

/-- Whenever `calculateLoanData` returns, that is the health factor it returns. -/
theorem calculateLoanData_healthFactor {nftConfig : BitVec 256} {id : ℕ} {health : ℕ × ℕ × ℕ}
    (h : s.calculateLoanData reserveAsset nftAsset tokenId nftConfig id = .ok health) :
    s.healthFactorOf reserveAsset nftAsset tokenId nftConfig health.2.1 = .ok health.2.2 := by
  obtain ⟨debt, -, h⟩ := bind_eq_ok.mp h
  obtain ⟨collateral, hcollateral, h⟩ := bind_eq_ok.mp h
  obtain ⟨f, hf, h⟩ := bind_eq_ok.mp h
  obtain rfl := Except.ok.inj h
  exact bind_eq_ok.mpr ⟨collateral, hcollateral, hf⟩

/-- It is at most one whole just when the collateral can be priced and the loan is under water. -/
theorem healthFactorOf_le_iff {nftConfig : BitVec 256} {b : ℕ} (hfits : b * RAY ≤ maxUint256) :
    (∃ f, s.healthFactorOf reserveAsset nftAsset tokenId nftConfig b = .ok f ∧
      f ≤ HEALTH_FACTOR_LIQUIDATION_THRESHOLD) ↔
    ∃ collateral, s.calculateNftCollateralData reserveAsset nftAsset tokenId = .ok collateral ∧
      Underwater collateral.2 b (getLiquidationThreshold nftConfig) := by
  constructor
  · rintro ⟨f, hf, hle⟩
    obtain ⟨collateral, hcollateral, hf⟩ := bind_eq_ok.mp hf
    exact ⟨collateral, hcollateral, (calculateHealthFactor_le_iff hfits).mp ⟨f, hf, hle⟩⟩
  · rintro ⟨collateral, hcollateral, hunder⟩
    obtain ⟨f, hf, hle⟩ := (calculateHealthFactor_le_iff hfits).mpr hunder
    exact ⟨f, bind_eq_ok.mpr ⟨collateral, hcollateral, hf⟩, hle⟩

/-- What the buyout sees of the health of a loan, in whole numbers. -/
theorem calculateLoanData_le_iff {nftConfig : BitVec 256} {id b : ℕ} (hid : id ≠ 0)
    (hb : s.getLoanReserveBorrowAmount id = .ok b) :
    (∃ health, s.calculateLoanData reserveAsset nftAsset tokenId nftConfig id = .ok health ∧
      health.2.2 ≤ HEALTH_FACTOR_LIQUIDATION_THRESHOLD) ↔
    s.debtOfLoan reserveAsset id = .ok b ∧
    ∃ collateral, s.calculateNftCollateralData reserveAsset nftAsset tokenId = .ok collateral ∧
      Underwater collateral.2 b (getLiquidationThreshold nftConfig) := by
  rw [← healthFactorOf_le_iff (getLoanReserveBorrowAmount_fits hb)]
  constructor
  · rintro ⟨health, hhealth, hle⟩
    have hf := calculateLoanData_healthFactor hhealth
    obtain ⟨debt, hdebt, hhealth⟩ := bind_eq_ok.mp hhealth
    obtain rfl := Except.ok.inj (hb.symm.trans (debtOfLoan_debt hid hdebt))
    obtain ⟨_, -, hhealth⟩ := bind_eq_ok.mp hhealth
    obtain ⟨_, -, hhealth⟩ := bind_eq_ok.mp hhealth
    obtain rfl := Except.ok.inj hhealth
    exact ⟨hdebt, _, hf, hle⟩
  · rintro ⟨hdebt, f, hf, hle⟩
    obtain ⟨collateral, hcollateral, hf⟩ := bind_eq_ok.mp hf
    exact ⟨(collateral.2, b, f), bind_eq_ok.mpr ⟨b, hdebt, bind_eq_ok.mpr ⟨collateral, hcollateral,
      bind_eq_ok.mpr ⟨f, hf, rfl⟩⟩⟩, hle⟩

/-- What the first bid sees of it: the debt, and the collateral at the threshold. -/
theorem calculateLoanLiquidatePrice_threshold {nftConfig : BitVec 256} {id : ℕ}
    (hasset : reserveAsset ≠ 0) :
    Returns (s.calculateLoanLiquidatePrice id reserveAsset nftAsset tokenId nftConfig)
      (fun prices => s.getLoanReserveBorrowAmount id = .ok prices.1 ∧ ∃ collateral,
        s.calculateNftCollateralData reserveAsset nftAsset tokenId = .ok collateral ∧
        prices.2.1 = divHalfUp (collateral.2 * getLiquidationThreshold nftConfig)
          PERCENTAGE_FACTOR) := by
  refine Returns.step fun b hb => Returns.step fun price hprice => ?_
  refine Returns.step fun inReserve hinReserve => Returns.step fun threshold hthreshold => ?_
  refine Returns.step fun _ _ => Returns.step fun _ _ => ?_
  refine ⟨hb, (price, inReserve), ?_, unitMul_spec hthreshold⟩
  unfold calculateNftCollateralData
  rw [hprice, ok_bind, if_neg hasset, hinReserve]
  rfl

/-- What the adapter sees of the health of a loan: its collateral can be priced and its debt read,
and unless the loan is in auction it is under water. -/
theorem _validateLoanHealthFactor_passed
    (hid : s.lendPoolLoan.getCollateralLoanId nftAsset tokenId ≠ 0)
    (h : s._validateLoanHealthFactor nftAsset tokenId = .ok ()) :
    ∃ collateral b, s.calculateNftCollateralData (s.loanOn nftAsset tokenId).reserveAsset nftAsset
        tokenId = .ok collateral ∧
      s.getLoanReserveBorrowAmount (s.lendPoolLoan.getCollateralLoanId nftAsset tokenId) = .ok b ∧
      ((s.loanOn nftAsset tokenId).state = .Active → Underwater collateral.2 b
        (getLiquidationThreshold (s.lendPool.nftConfig nftAsset tokenId))) := by
  obtain ⟨data, hdata, h⟩ := bind_eq_ok.mp h
  have hle := require_eq_ok.mp h
  unfold getNftDebtData at hdata
  dsimp only at hdata
  rw [if_neg hid] at hdata
  obtain ⟨collateral, hcollateral, hdata⟩ := bind_eq_ok.mp hdata
  obtain ⟨b, hb, hdata⟩ := bind_eq_ok.mp hdata
  obtain ⟨_, -, hdata⟩ := bind_eq_ok.mp hdata
  obtain ⟨f, hf, hdata⟩ := bind_eq_ok.mp hdata
  obtain rfl := Except.ok.inj hdata
  refine ⟨collateral, b, hcollateral, hb, fun hactive => ?_⟩
  unfold reportedHealthFactor at hf
  rw [if_pos (by exact hactive)] at hf
  exact (calculateHealthFactor_le_iff (getLoanReserveBorrowAmount_fits hb)).mp ⟨f, hf, hle⟩

/-- For an active loan under water the adapter needs no more than that the borrowing power can be
computed too. -/
theorem _validateLoanHealthFactor_of {collateral : ℕ × ℕ} {b : ℕ}
    (hid : s.lendPoolLoan.getCollateralLoanId nftAsset tokenId ≠ 0)
    (hactive : (s.loanOn nftAsset tokenId).state = .Active)
    (hpriced : s.calculateNftCollateralData (s.loanOn nftAsset tokenId).reserveAsset nftAsset
      tokenId = .ok collateral)
    (hb : s.getLoanReserveBorrowAmount (s.lendPoolLoan.getCollateralLoanId nftAsset tokenId)
      = .ok b)
    (hltv : collateral.2 * getLtv (s.lendPool.nftConfig nftAsset tokenId)
      ≤ maxUint256 - PERCENTAGE_FACTOR / 2)
    (hunder : Underwater collateral.2 b
      (getLiquidationThreshold (s.lendPool.nftConfig nftAsset tokenId))) :
    s._validateLoanHealthFactor nftAsset tokenId = .ok () := by
  obtain ⟨f, hf, hle⟩ :=
    (calculateHealthFactor_le_iff (getLoanReserveBorrowAmount_fits hb)).mpr hunder
  have hloan : s.lendPoolLoan.getLoan (s.lendPoolLoan.getCollateralLoanId nftAsset tokenId)
      = s.loanOn nftAsset tokenId := rfl
  have hreported : reportedHealthFactor (s.loanOn nftAsset tokenId) collateral.2 b
      (getLiquidationThreshold (s.lendPool.nftConfig nftAsset tokenId)) = .ok f :=
    (if_pos hactive).trans hf
  unfold _validateLoanHealthFactor getNftDebtData calculateAvailableBorrows percentMul
  dsimp only
  rw [if_neg hid, hloan, hpriced, ok_bind, hb, ok_bind, unitMul_ok hltv, ok_bind]
  change (reportedHealthFactor _ _ _ _ >>= _) >>= _ = _
  rw [hreported]
  exact require_eq_ok.mpr hle

end State

/-! ## The three tests agree

The first bid compares amounts, the buyout and a new borrow compare the health factor with one
whole, the one from below and the other from above. Both come from one number, the collateral at
its threshold. -/

section Agreement

variable {totalCollateral totalDebt liquidationThreshold covered healthFactor : ℕ}

/-- The health factor in closed form. -/
theorem calculateHealthFactor_spec (hdebt : 0 < totalDebt)
    (hcovered : percentMul totalCollateral liquidationThreshold = .ok covered)
    (hf : calculateHealthFactorFromBalances totalCollateral totalDebt liquidationThreshold
      = .ok healthFactor) : healthFactor = divHalfUp (covered * WAD) totalDebt := by
  unfold calculateHealthFactorFromBalances at hf
  rw [if_neg (Nat.ne_of_gt hdebt), hcovered, ok_bind] at hf
  exact (unitDiv_spec hf).2

/-- What a debt exceeds gives a health factor of at most one whole. -/
theorem healthFactor_le_of_lt (hdebt : 0 < totalDebt) (h : covered < totalDebt) :
    divHalfUp (covered * WAD) totalDebt ≤ HEALTH_FACTOR_LIQUIDATION_THRESHOLD := by
  rw [divHalfUp_le_iff hdebt]
  have hwad : covered * WAD ≤ totalDebt * WAD := Nat.mul_le_mul_right WAD h.le
  have hexpand : (2 * HEALTH_FACTOR_LIQUIDATION_THRESHOLD + 1) * totalDebt
      = 2 * (totalDebt * WAD) + totalDebt := by
    unfold HEALTH_FACTOR_LIQUIDATION_THRESHOLD
    ring
  omega

/-- What covers a debt gives a health factor of at least one whole. -/
theorem le_healthFactor_of_le (hdebt : 0 < totalDebt) (h : totalDebt ≤ covered) :
    HEALTH_FACTOR_LIQUIDATION_THRESHOLD ≤ divHalfUp (covered * WAD) totalDebt := by
  rw [le_divHalfUp_iff hdebt]
  have hwad : totalDebt * WAD ≤ covered * WAD := Nat.mul_le_mul_right WAD h
  have hcomm : HEALTH_FACTOR_LIQUIDATION_THRESHOLD * totalDebt = totalDebt * WAD :=
    Nat.mul_comm _ _
  omega

/-- How the amounts and the health factor compare. -/
structure TestsAgree (totalDebt covered healthFactor : ℕ) : Prop where
  buyout : totalDebt > covered → healthFactor ≤ HEALTH_FACTOR_LIQUIDATION_THRESHOLD
  auction : healthFactor < HEALTH_FACTOR_LIQUIDATION_THRESHOLD → totalDebt > covered
  borrow : healthFactor > HEALTH_FACTOR_LIQUIDATION_THRESHOLD →
    ¬ totalDebt > covered ∧ ¬ healthFactor ≤ HEALTH_FACTOR_LIQUIDATION_THRESHOLD

theorem testsAgree (hdebt : 0 < totalDebt)
    (hcovered : percentMul totalCollateral liquidationThreshold = .ok covered)
    (hf : calculateHealthFactorFromBalances totalCollateral totalDebt liquidationThreshold
      = .ok healthFactor) : TestsAgree totalDebt covered healthFactor := by
  have hspec := calculateHealthFactor_spec hdebt hcovered hf
  refine ⟨fun h => ?_, fun h => ?_, fun h => ⟨fun hlt => ?_, Nat.not_le.mpr h⟩⟩
  · rw [hspec]
    exact healthFactor_le_of_lt hdebt h
  · apply Nat.lt_of_not_le
    intro hle
    have hone := le_healthFactor_of_le hdebt hle
    rw [← hspec] at hone
    exact absurd h (Nat.not_lt.mpr hone)
  · have hle := healthFactor_le_of_lt hdebt hlt
    rw [← hspec] at hle
    exact absurd h (Nat.not_lt.mpr hle)

end Agreement

namespace State

variable {s : State} {asset nftAsset onBehalfOf : Address} {tokenId loanId amount : ℕ}
  {nftConfig : BitVec 256} {prices health : ℕ × ℕ × ℕ}

/-- What the first bid and the buyout look at is the collateral of the loan and its debt. -/
theorem tests_of_loan (hid : loanId ≠ 0) (hasset : asset ≠ 0)
    (hprices : s.calculateLoanLiquidatePrice loanId asset nftAsset tokenId nftConfig = .ok prices)
    (hhealth : s.calculateLoanData asset nftAsset tokenId nftConfig loanId = .ok health) :
    percentMul health.1 (getLiquidationThreshold nftConfig) = .ok prices.2.1 ∧
      calculateHealthFactorFromBalances health.1 prices.1 (getLiquidationThreshold nftConfig)
        = .ok health.2.2 := by
  obtain ⟨b, hb, hprices⟩ := bind_eq_ok.mp hprices
  obtain ⟨price, hprice, hprices⟩ := bind_eq_ok.mp hprices
  obtain ⟨inReserve, hinReserve, hprices⟩ := bind_eq_ok.mp hprices
  obtain ⟨covered, hcovered, hprices⟩ := bind_eq_ok.mp hprices
  obtain ⟨_, -, hprices⟩ := bind_eq_ok.mp hprices
  obtain ⟨_, -, hprices⟩ := bind_eq_ok.mp hprices
  obtain rfl := Except.ok.inj hprices
  have hcollateral : s.calculateNftCollateralData asset nftAsset tokenId
      = .ok (price, inReserve) := by
    unfold calculateNftCollateralData
    rw [hprice, ok_bind, if_neg hasset, hinReserve]
    rfl
  obtain ⟨debt, hdebt, hhealth⟩ := bind_eq_ok.mp hhealth
  obtain rfl := Except.ok.inj (hb.symm.trans (debtOfLoan_debt hid hdebt))
  rw [hcollateral, ok_bind] at hhealth
  obtain ⟨f, hf, hhealth⟩ := bind_eq_ok.mp hhealth
  obtain rfl := Except.ok.inj hhealth
  exact ⟨hcovered, hf⟩

/-- A borrow passes only with a health factor above one whole. -/
theorem validateBorrow_healthy :
    Returns (s.validateBorrow asset amount nftAsset tokenId onBehalfOf loanId) (fun _ =>
      ∃ health, s.calculateLoanData asset nftAsset tokenId (s.lendPool.nftConfig nftAsset tokenId)
        loanId = .ok health ∧ health.2.2 > HEALTH_FACTOR_LIQUIDATION_THRESHOLD) := by
  refine Returns.check fun _ => Returns.check fun _ => Returns.check fun _ => ?_
  refine Returns.step fun _ _ => Returns.check fun _ => Returns.check fun _ => ?_
  refine Returns.check fun _ => Returns.check fun _ => Returns.check fun _ => ?_
  refine Returns.check fun _ => Returns.check fun _ => Returns.check fun _ => ?_
  refine Returns.step fun health hhealth => Returns.check fun _ => Returns.check fun hlt => ?_
  exact (Sat.returned _).mono (fun _ _ => ⟨health, hhealth, hlt⟩) fun _ _ => trivial

end State

/-- **The three health tests agree.** For every collateral, every debt and every threshold: what the
first bid takes the buyout takes too, what has a health factor below one whole the first bid takes,
and above one whole, where alone a borrow passes, neither does. And these are the numbers that the
three look at, for every loan in every state. -/
theorem health_tests_agree :
    (∀ totalCollateral totalDebt liquidationThreshold covered healthFactor, 0 < totalDebt →
      percentMul totalCollateral liquidationThreshold = .ok covered →
      calculateHealthFactorFromBalances totalCollateral totalDebt liquidationThreshold
        = .ok healthFactor →
      TestsAgree totalDebt covered healthFactor) ∧
    ∀ (s : State) (asset nftAsset : Address) (tokenId loanId : ℕ) (prices health : ℕ × ℕ × ℕ),
      loanId ≠ 0 → asset ≠ 0 →
      s.calculateLoanLiquidatePrice loanId asset nftAsset tokenId
        (s.lendPool.nftConfig nftAsset tokenId) = .ok prices →
      s.calculateLoanData asset nftAsset tokenId (s.lendPool.nftConfig nftAsset tokenId) loanId
        = .ok health →
      0 < prices.1 →
      TestsAgree prices.1 prices.2.1 health.2.2 ∧
        ∀ amount onBehalfOf,
          s.validateBorrow asset amount nftAsset tokenId onBehalfOf loanId = .ok () →
          ¬ prices.1 > prices.2.1 ∧ ¬ health.2.2 ≤ HEALTH_FACTOR_LIQUIDATION_THRESHOLD := by
  refine ⟨fun c d t covered f hd hcovered hf => testsAgree hd hcovered hf, ?_⟩
  intro s asset nftAsset tokenId loanId prices health hid hasset hprices hhealth hdebt
  obtain ⟨hcovered, hf⟩ := State.tests_of_loan hid hasset hprices hhealth
  have hagree := testsAgree hdebt hcovered hf
  refine ⟨hagree, fun amount onBehalfOf hborrow => ?_⟩
  obtain ⟨health', hhealth', hlt⟩ := State.validateBorrow_healthy.ok hborrow
  obtain rfl := Except.ok.inj (hhealth.symm.trans hhealth')
  exact hagree.borrow hlt

/-- At the boundary: collateral of 201 at a threshold of 50% is rounded up to 101, and covers a debt
of 101; one of 200 does not. -/
theorem health_tests_agree_boundary :
    TestsAgree 101 101 (10 ^ 18) ∧ TestsAgree 101 100 990099009900990099 :=
  ⟨health_tests_agree.1 201 101 5000 101 (10 ^ 18) (by decide) rfl rfl,
    health_tests_agree.1 200 101 5000 100 990099009900990099 (by decide) rfl rfl⟩

end Unlockd
