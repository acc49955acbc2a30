/-
Interest: what the indices do over time, and what the views show of it.

A growth factor is one ray or more and multiplies an index of one ray or more, so that
rounding never hides growth: the index stays as it is exactly when the factor is one ray. From
this one fact come the invariant of the indices over every run of reserve operations and
the exact condition under which the views agree with the next update.
-/
import Unlockd.Cancellation

set_option autoImplicit false

namespace Unlockd

open Outcome FixedPoint

/-! ## Growth factors -/

section Growth

variable {rate last now f a b : ℕ}

/-- The linear factor is one ray exactly when the interest rounds down to nothing. -/
theorem linear_eq_RAY_iff (h : calculateLinearInterest rate last now = .ok f) :
    f = RAY ↔ rate * (now - last) < SECONDS_PER_YEAR := by
  obtain ⟨-, rfl⟩ := calculateLinearInterest_spec h
  rw [Nat.add_eq_right]
  exact Nat.div_eq_zero_iff_lt (by decide)

/-- The compounded factor is one ray exactly when no time has passed or the rate is less than one
part of a ray in a second. -/
theorem compounded_eq_RAY_iff (h : calculateCompoundedInterest rate last now = .ok f) :
    f = RAY ↔ now = last ∨ rate < SECONDS_PER_YEAR := by
  obtain ⟨hle, hsame, more, hf, hmore⟩ := calculateCompoundedInterest_spec h
  constructor
  · intro hray
    by_contra hnot
    obtain ⟨hne, hrate⟩ := not_or.mp hnot
    have hpos : 0 < rate / SECONDS_PER_YEAR := Nat.div_pos (not_lt.mp hrate) (by decide)
    have hgrow : 0 < rate / SECONDS_PER_YEAR * (now - last) := Nat.mul_pos hpos (by omega)
    omega
  · rintro (heq | hrate)
    · exact hsame heq
    · rw [hf, hmore hrate, Nat.div_eq_of_lt hrate]
      simp

/-- An index of one ray or more stays as it is exactly under a factor of one ray. -/
theorem rayMul_eq_iff (hf : RAY ≤ f) (ha : RAY ≤ a) (h : rayMul f a = .ok b) : b = a ↔ f = RAY := by
  rw [rayMul_spec h]
  constructor
  · intro heq
    by_contra hne
    have hlt := lt_divHalfUp_mul_of_lt RAY_pos (Nat.lt_of_le_of_ne hf (Ne.symm hne)) ha
    omega
  · rintro rfl
    rw [Nat.mul_comm]
    exact divHalfUp_mul_self a RAY_pos

end Growth

/-! ## The views and the update -/

/-- When the two views read what the next update stores. Both charge the same interest under a
positive liquidity rate; without one the view of the debt still compounds, which shows unless the
borrow rate compounds to nothing. In the block of the last update the views charge nothing, and
the update charges for the time by which a time stamp beyond its type lags behind. -/
def ReserveData.ViewsAgree (R : ReserveData) (now : ℕ) : Prop :=
  if R.lastUpdateTimestamp = uint40 now then
    now = R.lastUpdateTimestamp ∨ R.currentLiquidityRate = 0 ∨
      (R.currentLiquidityRate * (now - R.lastUpdateTimestamp) < SECONDS_PER_YEAR ∧
        R.currentVariableBorrowRate < SECONDS_PER_YEAR)
  else R.currentLiquidityRate ≠ 0 ∨ R.currentVariableBorrowRate < SECONDS_PER_YEAR

instance (R : ReserveData) (now : ℕ) : Decidable (R.ViewsAgree now) := by
  unfold ReserveData.ViewsAgree
  infer_instance

namespace ReserveData

variable {R : ReserveData} {scaledVariableDebt now i j income debt : ℕ}

/-- In the block of the last update. -/
theorem viewsAgree_of_current (hli : RAY ≤ R.liquidityIndex) (hbi : RAY ≤ R.variableBorrowIndex)
    (hdebt : scaledVariableDebt ≠ 0) (hcurrent : R.lastUpdateTimestamp = uint40 now)
    (hi : R.NextLiquidityIndex now i) (hj : R.NextBorrowIndex scaledVariableDebt now j) :
    (R.liquidityIndex = i ∧ R.variableBorrowIndex = j) ↔ R.ViewsAgree now := by
  rw [ViewsAgree, if_pos hcurrent]
  by_cases hz : R.currentLiquidityRate = 0
  · rw [hi.1 hz, hj.1 (.inl hz)]
    simp [hz]
  · obtain ⟨f, hf, hfi⟩ := hi.2 hz
    obtain ⟨g, hg, hgj⟩ := hj.2 hz hdebt
    have hlinear := (rayMul_eq_iff (RAY_le_linear hf) hli hfi).trans (linear_eq_RAY_iff hf)
    have hcompound := (rayMul_eq_iff (RAY_le_compounded hg) hbi hgj).trans
      (compounded_eq_RAY_iff hg)
    rw [eq_comm, hlinear, eq_comm, hcompound]
    constructor
    · rintro ⟨hgrowth, hsame | hrate⟩
      · exact .inl hsame
      · exact .inr (.inr ⟨hgrowth, hrate⟩)
    · rintro (hsame | hzero | ⟨hgrowth, hrate⟩)
      · refine ⟨?_, .inl hsame⟩
        rw [hsame, Nat.sub_self, Nat.mul_zero]
        decide
      · exact absurd hzero hz
      · exact ⟨hgrowth, .inr hrate⟩

/-- In a later block. -/
theorem viewsAgree_of_stale (hli : RAY ≤ R.liquidityIndex) (hbi : RAY ≤ R.variableBorrowIndex)
    (hdebt : scaledVariableDebt ≠ 0) (hlast : R.lastUpdateTimestamp < 2 ^ 40)
    (hstale : R.lastUpdateTimestamp ≠ uint40 now)
    (hi : R.NextLiquidityIndex now i) (hj : R.NextBorrowIndex scaledVariableDebt now j)
    (hincome : R.getNormalizedIncome now = .ok income)
    (hview : R.getNormalizedDebt now = .ok debt) :
    (income = i ∧ debt = j) ↔ R.ViewsAgree now := by
  rw [ViewsAgree, if_neg hstale]
  have hne : now ≠ R.lastUpdateTimestamp := by
    rintro rfl
    exact hstale (uint40_of_lt hlast).symm
  obtain ⟨f, hf, hfi⟩ := bind_eq_ok.mp ((if_neg hstale).symm.trans hincome)
  obtain ⟨g, hg, hgj⟩ := bind_eq_ok.mp ((if_neg hstale).symm.trans hview)
  by_cases hz : R.currentLiquidityRate = 0
  · -- the view compounds the debt, the update does not
    have hsame : income = R.liquidityIndex := by
      refine (rayMul_eq_iff (RAY_le_linear hf) hli hfi).mpr ((linear_eq_RAY_iff hf).mpr ?_)
      rw [hz, Nat.zero_mul]
      decide
    rw [hi.1 hz, hj.1 (.inl hz), rayMul_eq_iff (RAY_le_compounded hg) hbi hgj,
      compounded_eq_RAY_iff hg]
    simp [hsame, hz, hne]
  · -- both compute the same factors
    obtain ⟨f', hf', hfi'⟩ := hi.2 hz
    obtain ⟨g', hg', hgj'⟩ := hj.2 hz hdebt
    obtain rfl := Except.ok.inj (hf.symm.trans hf')
    obtain rfl := Except.ok.inj (hg.symm.trans hg')
    rw [hfi] at hfi'
    rw [hgj] at hgj'
    exact ⟨fun _ => .inl hz, fun _ => ⟨Except.ok.inj hfi', Except.ok.inj hgj'⟩⟩

/-- **The views against the update.** They read what the update stores exactly when `ViewsAgree`. -/
theorem views_eq_iff (hli : RAY ≤ R.liquidityIndex) (hbi : RAY ≤ R.variableBorrowIndex)
    (hdebt : scaledVariableDebt ≠ 0) (hlast : R.lastUpdateTimestamp < 2 ^ 40)
    (hi : R.NextLiquidityIndex now i) (hj : R.NextBorrowIndex scaledVariableDebt now j)
    (hincome : R.getNormalizedIncome now = .ok income)
    (hview : R.getNormalizedDebt now = .ok debt) :
    (income = i ∧ debt = j) ↔ R.ViewsAgree now := by
  -- in the block of the last update the views read what is stored, later on they compute
  by_cases hcurrent : R.lastUpdateTimestamp = uint40 now
  · obtain rfl := Except.ok.inj ((if_pos hcurrent).symm.trans hincome)
    obtain rfl := Except.ok.inj ((if_pos hcurrent).symm.trans hview)
    exact viewsAgree_of_current hli hbi hdebt hcurrent hi hj
  · exact viewsAgree_of_stale hli hbi hdebt hlast hcurrent hi hj hincome hview

end ReserveData

/-! ## What the views show -/

section Views

variable {D : Deployment} {s s' : State}

/-- The same state at another time. -/
def State.atTime (s : State) (now : ℕ) : State := { s with blockTimestamp := now }

/-- **The interest a view shows.** In every reachable state and at every time from the last update
on, the two views of a reserve with debt read the indices that the update then stores if and only
if the reserve meets `ViewsAgree`. -/
theorem views_show_interest_charged (hr : Reachable D (anyAction D) s) {r : Address}
    (hinit : (s.lendPool.reserves r).uTokenAddress ≠ 0)
    (hdebt : (s.debtTokens r).scaledTotalSupply ≠ 0) {now : ℕ}
    (hupdate : (s.atTime now).updateState r = .ok s') {income debt : ℕ}
    (hincome : (s.lendPool.reserves r).getNormalizedIncome now = .ok income)
    (hview : (s.lendPool.reserves r).getNormalizedDebt now = .ok debt) :
    (income = (s'.lendPool.reserves r).liquidityIndex ∧
      debt = (s'.lendPool.reserves r).variableBorrowIndex) ↔
    (s.lendPool.reserves r).ViewsAgree now := by
  have h := Reachable.books hr
  obtain ⟨hli, hbi⟩ := h.indices r hinit
  obtain ⟨Rs, U, rfl, hupdated⟩ := State.updateState_spec.ok hupdate
  obtain ⟨i, j, hR, hi, hj⟩ := hupdated.indices
  have hstored : (((s.atTime now).withReserves Rs).withUTokens U).lendPool.reserves r
      = (s.lendPool.reserves r).withIndices i j now := hR
  rw [hstored]
  exact ReserveData.views_eq_iff hli hbi hdebt (h.stamps r).2 hi hj hincome hview

/-- A loan in the small deployment, some time after it was taken out. -/
def State.sampleLoan (reserveFactor : ℕ) : State :=
  (State.sample .weth9).after .sample (sampleSetup reserveFactor ++ sampleListing.take 2)

theorem State.sampleLoan_reachable (reserveFactor : ℕ) :
    Reachable .sample (anyAction .sample) (State.sampleLoan reserveFactor) :=
  Reachable.after (.start (State.sample_genesis .weth9)) _ fun _ _ _ => trivial

/-- With a reserve factor of 10% the views read what the update stores. -/
theorem views_show_interest_charged_sample :
    ∃ s', ((State.sampleLoan 1000).atTime 1001000).updateState 10 = .ok s' ∧
      (s'.lendPool.reserves 10).liquidityIndex = 1000001284246575342465753424 ∧
      (s'.lendPool.reserves 10).variableBorrowIndex = 1000047565819174515679000000 := by
  obtain ⟨s', hupdate⟩ : ∃ s', ((State.sampleLoan 1000).atTime 1001000).updateState 10 = .ok s' :=
    exists_ok_of_raised (by decide +kernel)
  have hincome : ((State.sampleLoan 1000).lendPool.reserves 10).getNormalizedIncome 1001000
      = .ok 1000001284246575342465753424 := by decide +kernel
  have hview : ((State.sampleLoan 1000).lendPool.reserves 10).getNormalizedDebt 1001000
      = .ok 1000047565819174515679000000 := by decide +kernel
  have hiff := views_show_interest_charged (State.sampleLoan_reachable 1000) (by decide +kernel)
    (by decide +kernel) hupdate hincome hview
  obtain ⟨hi, hj⟩ := hiff.mpr (by decide +kernel)
  exact ⟨s', hupdate, hi.symm, hj.symm⟩

/-- With a reserve factor of 100% there is no liquidity rate, and the view shows a debt that the
update does not charge. -/
theorem views_disagree_sample :
    Reachable .sample (anyAction .sample) (State.sampleLoan 10000) ∧
    ((State.sampleLoan 10000).lendPool.reserves 10).uTokenAddress ≠ 0 ∧
    ((State.sampleLoan 10000).debtTokens 10).scaledTotalSupply = 30 * WAD ∧
    ((State.sampleLoan 10000).lendPool.reserves 10).lastUpdateTimestamp = 1000 ∧
    (State.sampleLoan 10000).blockTimestamp = 1001000 ∧
    ((State.sampleLoan 10000).lendPool.reserves 10).getNormalizedDebt 1001000
      = .ok 1000047565819174515679000000 ∧
    ∃ s', (State.sampleLoan 10000).updateState 10 = .ok s' ∧
      (s'.lendPool.reserves 10).variableBorrowIndex = RAY := by
  refine ⟨State.sampleLoan_reachable 10000, by decide +kernel, by decide +kernel, by decide +kernel,
    by decide +kernel, by decide +kernel, ?_⟩
  obtain ⟨s', hupdate⟩ : ∃ s', (State.sampleLoan 10000).updateState 10 = .ok s' :=
    exists_ok_of_raised (by decide +kernel)
  have hstored : ((State.sampleLoan 10000).updateState 10).toOption.map
      (fun s' => (s'.lendPool.reserves 10).variableBorrowIndex) = some RAY := by decide +kernel
  rw [hupdate] at hstored
  exact ⟨s', hupdate, Option.some.inj hstored⟩

end Views

/-! ## No underflow -/

/-- The error is not that of a subtraction below zero. -/
def Error.Sufficient (e : Error) : Prop := e ≠ .arithmeticUnderflow

theorem unitMul_sufficient {u a b : ℕ} :
    Sat (unitMul u a b) (fun c => unitMul u a b = .ok c) Error.Sufficient := by
  refine Sat.self (Q := fun _ => True) ?_
  unfold unitMul
  exact Sat.ite (fun _ => trivial) fun _ => Sat.bind (Sat.require fun _ => nofun) fun _ _ => trivial

theorem unitDiv_sufficient {u a b : ℕ} :
    Sat (unitDiv u a b) (fun _ => True) Error.Sufficient :=
  Sat.bind (Sat.require fun _ => nofun) fun _ _ =>
    Sat.bind (Sat.require fun _ => nofun) fun _ _ => trivial

theorem checkedSub_sufficient {a b : ℕ} (h : b ≤ a) :
    Sat (checkedSub a b) (fun _ => True) Error.Sufficient :=
  Sat.bind (Sat.require fun hn => absurd h hn) fun _ _ => trivial

namespace ReserveData

variable {R : ReserveData} {scaledVariableDebt now : ℕ}

theorem accrueDebt_sufficient (h : R.lastUpdateTimestamp ≤ now) :
    Sat (R.accrueDebt now) (fun _ => True) Error.Sufficient := by
  refine Sat.bind (P := fun _ => True) ?_ fun g _ => ?_
  · refine Sat.bind (checkedSub_sufficient h) fun _ _ => Sat.ite (fun _ => trivial) fun _ => ?_
    exact Sat.bind unitMul_sufficient fun _ _ => Sat.bind unitMul_sufficient fun _ _ => trivial
  · refine Sat.bind unitMul_sufficient fun _ _ => ?_
    exact Sat.bind (Sat.require fun _ => nofun) fun _ _ => trivial

/-- The time since an update that is not in the future is not negative. -/
theorem _updateIndexes_sufficient (h : R.lastUpdateTimestamp ≤ now) :
    Sat (R._updateIndexes scaledVariableDebt now) (fun _ => True) Error.Sufficient := by
  refine Sat.bind (P := fun _ => True) (Sat.applyIf (fun _ => ?_) fun _ => trivial)
    fun _ _ => trivial
  refine Sat.bind (P := fun _ => True) (Sat.bind (checkedSub_sufficient h) fun _ _ => trivial)
    fun f _ => ?_
  refine Sat.bind unitMul_sufficient fun _ _ => ?_
  refine Sat.bind (Sat.require fun _ => nofun) fun _ _ => ?_
  exact Sat.applyIf (fun _ => accrueDebt_sufficient h) fun _ => trivial

/-- Debt at a larger index is no smaller. -/
theorem amountToMint_sufficient {index index' : ℕ} (h : index ≤ index') :
    Sat (R.amountToMint scaledVariableDebt index index')
      (fun m => R.amountToMint scaledVariableDebt index index' = .ok m) Error.Sufficient := by
  refine Sat.self (Q := fun _ => True) (Sat.ite (fun _ => trivial) fun _ => ?_)
  refine Sat.bind unitMul_sufficient fun a ha => Sat.bind unitMul_sufficient fun b hb => ?_
  -- rounding is monotone, so the difference is not negative
  have hab : a ≤ b := by
    rw [unitMul_spec ha, unitMul_spec hb]
    exact divHalfUp_mono (Nat.mul_le_mul_left _ h) _
  exact Sat.bind (checkedSub_sufficient hab) fun _ _ => unitMul_sufficient.imp fun _ _ => trivial

end ReserveData

/-! ## Two updates in one block -/

theorem checkedSub_self (a : ℕ) : checkedSub a a = .ok 0 :=
  checkedSub_eq_ok.mpr ⟨le_rfl, (Nat.sub_self a).symm⟩

/-- In no time there is no growth. -/
theorem linear_same (rate now : ℕ) : calculateLinearInterest rate now now = .ok RAY := by
  refine bind_eq_ok.mpr ⟨0, checkedSub_self now, ?_⟩
  rw [Nat.mul_zero, Nat.zero_div, Nat.zero_add]
  rfl

theorem compounded_same (rate now : ℕ) : calculateCompoundedInterest rate now now = .ok RAY :=
  bind_eq_ok.mpr ⟨0, checkedSub_self now, rfl⟩

/-- A factor of one ray goes through and changes nothing. -/
theorem rayMul_RAY {a : ℕ} (ha : a ≤ maxUint128) : rayMul RAY a = .ok a := by
  have hbound : RAY * a ≤ maxUint256 - RAY / 2 :=
    (Nat.mul_le_mul_left RAY ha).trans (by decide)
  rw [rayMul, unitMul_ok hbound, Nat.mul_comm, divHalfUp_mul_self a RAY_pos]

namespace ReserveData

variable {R : ReserveData} {scaledVariableDebt now : ℕ}

/-- A reserve that is current is updated to itself. -/
theorem _updateIndexes_of_current (hs : Clocked.Sound ⟨now, R⟩)
    (hcurrent : R.lastUpdateTimestamp = now) (scaledVariableDebt : ℕ) :
    R._updateIndexes scaledVariableDebt now = .ok R := by
  have hstamp : { R with lastUpdateTimestamp := uint40 now } = R := by
    rw [uint40_of_lt (hcurrent ▸ hs.stamp_lt), ← hcurrent]
  have hlinear :
      calculateLinearInterest R.currentLiquidityRate R.lastUpdateTimestamp now = .ok RAY :=
    hcurrent ▸ linear_same _ _
  have hcompound : calculateCompoundedInterest R.currentVariableBorrowRate R.lastUpdateTimestamp now
      = .ok RAY := hcurrent ▸ compounded_same _ _
  have haccrueDebt : R.accrueDebt now = .ok R := by
    refine bind_eq_ok.mpr ⟨RAY, hcompound, bind_eq_ok.mpr ⟨_, rayMul_RAY hs.fits.2, ?_⟩⟩
    exact require_bind_eq_ok.mpr ⟨hs.fits.2, rfl⟩
  have haccrue : R.accrue scaledVariableDebt now = .ok R := by
    refine bind_eq_ok.mpr ⟨RAY, hlinear, bind_eq_ok.mpr ⟨_, rayMul_RAY hs.fits.1, ?_⟩⟩
    refine require_bind_eq_ok.mpr ⟨hs.fits.1, ?_⟩
    unfold applyIf
    split
    · exact haccrueDebt
    · rfl
  refine bind_eq_ok.mpr ⟨R, ?_, congrArg Except.ok hstamp⟩
  unfold applyIf
  split
  · exact haccrue
  · rfl

/-- Without growth of the index there is nothing to mint. -/
theorem amountToMint_same {index amount : ℕ}
    (h : R.amountToMint scaledVariableDebt index index = .ok amount) : amount = 0 := by
  unfold amountToMint at h
  simp only at h
  split at h
  · exact (Except.ok.inj h).symm
  · obtain ⟨a, ha, h⟩ := bind_eq_ok.mp h
    obtain ⟨b, hb, h⟩ := bind_eq_ok.mp h
    obtain ⟨d, hd, h⟩ := bind_eq_ok.mp h
    obtain rfl := Except.ok.inj (ha.symm.trans hb)
    obtain ⟨-, rfl⟩ := checkedSub_eq_ok.mp hd
    rw [unitMul_spec h, Nat.sub_self, Nat.zero_mul, divHalfUp_zero]

/-- And this can be computed where the debt can. -/
theorem amountToMint_of_debt {index total : ℕ} (h : rayMul scaledVariableDebt index = .ok total) :
    R.amountToMint scaledVariableDebt index index = .ok 0 := by
  unfold amountToMint
  dsimp only
  split
  · rfl
  · rw [h, ok_bind, ok_bind, checkedSub_self, ok_bind]
    exact unitMul_zero_left _ _

/-- What one update can mint, a second can compute: nothing. -/
theorem amountToMint_again {index index' amount : ℕ}
    (h : R.amountToMint scaledVariableDebt index index' = .ok amount) :
    R.amountToMint scaledVariableDebt index' index' = .ok 0 := by
  unfold amountToMint at h
  simp only at h
  split at h
  · rename_i hzero
    unfold amountToMint
    exact if_pos hzero
  · obtain ⟨a, -, h⟩ := bind_eq_ok.mp h
    obtain ⟨b, hb, -⟩ := bind_eq_ok.mp h
    exact amountToMint_of_debt hb

end ReserveData

namespace State

variable {s s' : State} {asset : Address}

/-- Writing a reserve back as it is changes nothing. -/
theorem setReserve_self (s : State) (asset : Address) :
    s.setReserve asset (s.lendPool.reserves asset) = s := by
  unfold setReserve
  rw [Function.update_eq_self]

theorem setUToken_self (s : State) (asset : Address) : s.setUToken asset (s.uTokens asset) = s := by
  unfold setUToken
  rw [Function.update_eq_self]

/-- An update that leaves the reserve as it is and mints nothing changes nothing. -/
theorem updateState_unchanged (hsame : (s.lendPool.reserves asset)._updateIndexes
      (s.debtTokens asset).scaledTotalSupply s.blockTimestamp = .ok (s.lendPool.reserves asset))
    (hmint : (s.lendPool.reserves asset).amountToMint (s.debtTokens asset).scaledTotalSupply
      (s.lendPool.reserves asset).variableBorrowIndex
      (s.lendPool.reserves asset).variableBorrowIndex = .ok 0) : s.updateState asset = .ok s := by
  refine bind_eq_ok.mpr ⟨_, hsame, ?_⟩
  rw [setReserve_self]
  refine bind_eq_ok.mpr ⟨0, hmint, bind_eq_ok.mpr ⟨_, if_pos rfl, ?_⟩⟩
  exact congrArg Except.ok (setUToken_self s asset)

/-- **A second update changes nothing.** A reserve that is current is left as it is, and nothing
is minted. -/
theorem updateState_of_current (hs : Clocked.Sound ⟨s.blockTimestamp, s.lendPool.reserves asset⟩)
    (hcurrent : (s.lendPool.reserves asset).lastUpdateTimestamp = s.blockTimestamp)
    (h : s.updateState asset = .ok s') : s' = s := by
  obtain ⟨R, hR, h⟩ := bind_eq_ok.mp h
  obtain rfl := Except.ok.inj ((ReserveData._updateIndexes_of_current hs hcurrent _).symm.trans hR)
  rw [setReserve_self] at h
  obtain ⟨m, hm, h⟩ := bind_eq_ok.mp h
  obtain rfl := ReserveData.amountToMint_same hm
  obtain ⟨u, hu, h⟩ := bind_eq_ok.mp h
  obtain rfl := Except.ok.inj ((if_pos rfl).symm.trans hu)
  exact (Except.ok.inj h).symm.trans (setUToken_self s asset)

/-- Right after the first update the second goes through. -/
theorem updateState_again (hs : Clocked.Sound ⟨s.blockTimestamp, s.lendPool.reserves asset⟩)
    (htime : s.blockTimestamp < 2 ^ 40) (h : s.updateState asset = .ok s') :
    s'.updateState asset = .ok s' := by
  obtain ⟨R, hR, h⟩ := bind_eq_ok.mp h
  obtain ⟨m, hm, h⟩ := bind_eq_ok.mp h
  obtain ⟨u, hu, h⟩ := bind_eq_ok.mp h
  obtain rfl := Except.ok.inj h
  have hself : ((s.setReserve asset R).setUToken asset u).lendPool.reserves asset = R :=
    Function.update_self _ _ _
  rw [show (s.setReserve asset R).lendPool.reserves asset = R from hself] at hm
  have hcurrent : R.lastUpdateTimestamp = s.blockTimestamp := by
    obtain ⟨i, j, rfl, -, -⟩ := ReserveData._updateIndexes_spec.ok hR
    exact uint40_of_lt htime
  have hagain := ReserveData._updateIndexes_of_current (hs.op (.updateIndexes _ hR)) hcurrent
    (s.debtTokens asset).scaledTotalSupply
  apply updateState_unchanged
  · rw [hself]
    exact hagain
  · rw [hself]
    exact ReserveData.amountToMint_again hm

/-- **No update underflows.** Neither the time since the last update nor the debt accrued for the
treasury is negative. -/
theorem updateState_sufficient (hs : Clocked.Sound ⟨s.blockTimestamp, s.lendPool.reserves asset⟩) :
    Sat (s.updateState asset) (fun _ => True) Error.Sufficient := by
  refine Sat.bind (Sat.self (ReserveData._updateIndexes_sufficient hs.stamp_le)) fun R hR => ?_
  have hindex := (ReserveData.Op.updateIndexes _ hR).grown.variableBorrowIndex_le
  have hself : (s.setReserve asset R).lendPool.reserves asset = R := Function.update_self _ _ _
  refine Sat.bind (ReserveData.amountToMint_sufficient (hself.symm ▸ hindex)) fun m _ => ?_
  refine Sat.bind (P := fun _ => True) (Sat.ite (fun _ => trivial) fun _ => ?_) fun _ _ => trivial
  refine Sat.bind unitDiv_sufficient fun _ _ => ?_
  exact Sat.bind (Sat.require fun _ => nofun) fun _ _ => trivial

end State

/-! ## Runs -/

section Runs

variable {D : Deployment} {allowed : State → Action D → Prop} {s : State} {asset : Address}

/-- The reserve under an asset, at the current time. -/
def State.clocked (s : State) (asset : Address) : Clocked :=
  ⟨s.blockTimestamp, s.lendPool.reserves asset⟩

/-- **The protocol refines its reserves.** Each reserve that has been set up is in a run of
its own. -/
theorem Reachable.clocked (h : Reachable D allowed s) :
    (s.lendPool.reserves asset).uTokenAddress ≠ 0 → (s.clocked asset).Reachable := by
  induction h with
  | start g =>
    intro hinit
    rw [g.reserves] at hinit
    exact absurd rfl hinit
  | @next s s' hr hst ih =>
    intro hinit
    obtain ⟨_, _, _, _, hstepped⟩ := Reachable.stepped hr hst
    have hstamp := (Reachable.books hr).stamps asset
    by_cases h0 : (s.lendPool.reserves asset).uTokenAddress = 0
    · obtain ⟨u, ir, R, hR, hop⟩ := hstepped.opened asset h0 hinit
      have hfresh : Clocked.Fresh ⟨s'.blockTimestamp, R⟩ :=
        ⟨_, u, ir, hR, hstamp.1.trans hstepped.clock, hstamp.2⟩
      exact .next (.start hfresh) (.op (hop _))
    · have hrun := Clocked.run_of_ops (hstepped.reserves asset h0)
      exact .next ((ih h0).run hrun) (.tick hstepped.clock)

/-- **The indices are in order.** In every run of a reserve that starts with `init`, both
indices are at least one ray and never fall, the time stamp is not in the future, and no update
underflows. While block times fit the type of the time stamp, a second update in a block, right
after the first or later, leaves the reserve as it is and mints nothing. -/
theorem indices_in_order (hr : (s.clocked asset).Reachable) :
    (RAY ≤ (s.lendPool.reserves asset).liquidityIndex ∧
      RAY ≤ (s.lendPool.reserves asset).variableBorrowIndex) ∧
    (s.lendPool.reserves asset).lastUpdateTimestamp ≤ s.blockTimestamp ∧
    (∀ c, Clocked.Run (s.clocked asset) c →
      (s.lendPool.reserves asset).liquidityIndex ≤ c.reserve.liquidityIndex ∧
      (s.lendPool.reserves asset).variableBorrowIndex ≤ c.reserve.variableBorrowIndex) ∧
    s.updateState asset ≠ .error .arithmeticUnderflow ∧
    (s.blockTimestamp < 2 ^ 40 → ∀ s₁, s.updateState asset = .ok s₁ →
      s₁.updateState asset = .ok s₁ ∧
      ∀ s₂ : State, Clocked.Run (s₁.clocked asset) (s₂.clocked asset) →
        s₂.blockTimestamp = s₁.blockTimestamp →
        ∀ s₃, s₂.updateState asset = .ok s₃ → s₃ = s₂) := by
  have hs := Clocked.Reachable.sound hr
  refine ⟨⟨hs.liquidityIndex, hs.variableBorrowIndex⟩, hs.stamp_le, fun c hrun => hrun.indices_le,
    fun hx => (State.updateState_sufficient hs).error hx rfl, fun htime s₁ h₁ =>
    ⟨State.updateState_again hs htime h₁, fun s₂ hrun hsame s₃ h₃ => ?_⟩⟩
  obtain ⟨Rs, U, rfl, hupdated⟩ := State.updateState_spec.ok h₁
  have hr₁ : Clocked.Reachable ⟨s.blockTimestamp, Rs asset⟩ :=
    .next hr (.op (.updateIndexes _ hupdated.2))
  have hs₂ := Clocked.Reachable.sound (hr₁.run hrun)
  obtain ⟨i, j, hR, -, -⟩ := hupdated.indices
  have hcurrent : (s₂.lendPool.reserves asset).lastUpdateTimestamp = uint40 s.blockTimestamp :=
    hrun.stamp.2 hsame (congrArg ReserveData.lastUpdateTimestamp hR)
  refine State.updateState_of_current hs₂ ?_ h₃
  rw [hcurrent, uint40_of_lt htime]
  exact hsame.symm

/-- In the small deployment the second update of a block leaves the state as the first left it. -/
theorem indices_in_order_sample :
    ∃ s₁, (State.sampleLoan 1000).updateState 10 = .ok s₁ ∧ s₁ ≠ State.sampleLoan 1000 ∧
      s₁.updateState 10 = .ok s₁ := by
  have hclocked : ((State.sampleLoan 1000).clocked 10).Reachable :=
    Reachable.clocked (State.sampleLoan_reachable 1000) (by decide +kernel)
  obtain ⟨s₁, h₁⟩ : ∃ s₁, (State.sampleLoan 1000).updateState 10 = .ok s₁ :=
    exists_ok_of_raised (by decide +kernel)
  have hindex : ((State.sampleLoan 1000).updateState 10).toOption.map
      (fun s₁ => (s₁.lendPool.reserves 10).liquidityIndex) = some 1000001284246575342465753424 := by
    decide +kernel
  rw [h₁] at hindex
  refine ⟨s₁, h₁, fun heq => ?_,
    ((indices_in_order hclocked).2.2.2.2 (by decide +kernel) s₁ h₁).1⟩
  rw [heq] at hindex
  revert hindex
  decide +kernel

/-- A loan in the small deployment, more than 2 ^ 40 seconds later. -/
def State.sampleLate : State :=
  (State.sample .weth9).after .sample
    (sampleSetup 1000 ++ sampleListing.take 1 ++ [.event (.tick (2 ^ 40))])

/-- The liquidity index, and the scaled balance of the treasury. -/
def State.interestOf (s : State) (asset : Address) : ℕ × ℕ :=
  ((s.lendPool.reserves asset).liquidityIndex,
    (s.uTokens asset).scaledBalanceOf (s.uTokens asset).treasury)

/-- At a time that no longer fits the type of the time stamp, the stamp lags behind the block, and a
second update in the same block charges interest again and mints again. -/
theorem second_update_charges_late :
    (State.sampleLate.clocked 10).Reachable ∧ State.sampleLate.blockTimestamp = 2 ^ 40 + 1000 ∧
    (State.sampleLate.updateState 10).toOption.map (·.interestOf 10)
      = some (2412044042520547945205479452, 1765931454340959076576) ∧
    (State.sampleLate.updateState 10 >>= (·.updateState 10)).toOption.map (·.interestOf 10)
      = some (5817956463058866903887408519, 1042002695948455070335784) := by
  have hreach : Reachable .sample (anyAction .sample) State.sampleLate :=
    Reachable.after (.start (State.sample_genesis .weth9)) _ fun _ _ _ => trivial
  exact ⟨Reachable.clocked hreach (by decide +kernel), by decide +kernel, by decide +kernel,
    by decide +kernel⟩

end Runs

end Unlockd
