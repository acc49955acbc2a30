/-
A reserve as a machine of its own.

Whatever the protocol does to a reserve it does through the operations of `ReserveLogic`: it
brings the indices up to date, sets the rates, or cumulates to the liquidity index; the
configurator changes only the settings. A run of a reserve starts where `init` leaves it and takes
such operations while time passes. Its invariant is proved here once, from what one operation
does, and the protocol inherits it along the runs of its reserves.
-/
import Unlockd.ReserveLogic
import Unlockd.Lib.Machine

set_option autoImplicit false

namespace Unlockd

open Outcome FixedPoint

/-! ## Operations -/

/-- One operation on a reserve at the time `now`. -/
inductive ReserveData.Op (now : ℕ) (R : ReserveData) : ReserveData → Prop
  | updateIndexes (scaledVariableDebt : ℕ) {R' : ReserveData} :
      R._updateIndexes scaledVariableDebt now = .ok R' → Op now R R'
  | setRates (rates : ℕ × ℕ) {R' : ReserveData} : R.setRates rates = .ok R' → Op now R R'
  | cumulateToLiquidityIndex (totalLiquidity amount : ℕ) {R' : ReserveData} :
      R.cumulateToLiquidityIndex totalLiquidity amount = .ok R' → Op now R R'
  | configure (configuration : BitVec 256) (interestRateAddress : Address) :
      Op now R { R with configuration := configuration, interestRateAddress := interestRateAddress }

/-- What the configurator makes of a reserve: it changes the settings, or sets the reserve up. -/
inductive ReserveData.Configured (R : ReserveData) : ReserveData → Prop
  | settings (configuration : BitVec 256) (interestRateAddress : Address) : Configured R
      { R with configuration := configuration, interestRateAddress := interestRateAddress }
  | opened (uTokenAddress interestRateAddress : Address) (configuration : BitVec 256)
      {R₁ : ReserveData} :
      R.init uTokenAddress interestRateAddress = .ok R₁ →
      Configured R { R₁ with configuration := configuration }

/-- A reserve is set up, and its settings are changed. -/
def ReserveData.Opens (R R' : ReserveData) : Prop :=
  ∃ (uTokenAddress interestRateAddress : Address) (R₁ : ReserveData),
    R.init uTokenAddress interestRateAddress = .ok R₁ ∧ ∀ now, R₁.Op now R'

/-- Any number of operations in one block. -/
abbrev ReserveData.Ops (now : ℕ) : ReserveData → ReserveData → Prop :=
  Relation.ReflTransGen (ReserveData.Op now)

/-- What operations at the time `now` do to the indices and the time stamp: no index falls, and a
new time stamp is `now`. -/
structure ReserveData.Grown (now : ℕ) (R R' : ReserveData) : Prop where
  uTokenAddress : R'.uTokenAddress = R.uTokenAddress
  liquidityIndex_le : R.liquidityIndex ≤ R'.liquidityIndex
  variableBorrowIndex_le : R.variableBorrowIndex ≤ R'.variableBorrowIndex
  stamp : R'.lastUpdateTimestamp = R.lastUpdateTimestamp ∨ R'.lastUpdateTimestamp = uint40 now

namespace ReserveData

variable {now : ℕ} {R R' R'' : ReserveData}

theorem Grown.refl (now : ℕ) (R : ReserveData) : R.Grown now R := ⟨rfl, le_rfl, le_rfl, .inl rfl⟩

theorem Grown.trans (h : R.Grown now R') (h' : R'.Grown now R'') : R.Grown now R'' where
  uTokenAddress := h'.uTokenAddress.trans h.uTokenAddress
  liquidityIndex_le := h.liquidityIndex_le.trans h'.liquidityIndex_le
  variableBorrowIndex_le := h.variableBorrowIndex_le.trans h'.variableBorrowIndex_le
  stamp := by
    rcases h'.stamp with hs | hs
    · rw [hs]
      exact h.stamp
    · exact .inr hs

/-- Cumulating multiplies the liquidity index by a factor of at least one ray. -/
theorem cumulateToLiquidityIndex_spec {totalLiquidity amount : ℕ}
    (h : R.cumulateToLiquidityIndex totalLiquidity amount = .ok R') :
    ∃ i, R' = { R with liquidityIndex := i } ∧ R.liquidityIndex ≤ i ∧ i ≤ maxUint128 := by
  obtain ⟨a, -, h⟩ := bind_eq_ok.mp h
  obtain ⟨t, -, h⟩ := bind_eq_ok.mp h
  obtain ⟨ratio, -, h⟩ := bind_eq_ok.mp h
  obtain ⟨i, hi, h⟩ := bind_eq_ok.mp h
  obtain ⟨hfits, h⟩ := require_bind_eq_ok.mp h
  exact ⟨i, (Except.ok.inj h).symm, le_rayMul (Nat.le_add_left _ _) hi, hfits⟩

/-- **Step lemma.** -/
theorem Op.grown (h : R.Op now R') : R.Grown now R' := by
  cases h with
  | updateIndexes scaledVariableDebt h =>
    obtain ⟨i, j, rfl, hi, hj⟩ := _updateIndexes_spec.ok h
    exact ⟨rfl, hi.le, hj.le, .inr rfl⟩
  | setRates rates h =>
    rw [setRates_eq h]
    exact ⟨rfl, le_rfl, le_rfl, .inl rfl⟩
  | cumulateToLiquidityIndex totalLiquidity amount h =>
    obtain ⟨i, rfl, hi, -⟩ := cumulateToLiquidityIndex_spec h
    exact ⟨rfl, hi, le_rfl, .inl rfl⟩
  | configure configuration interestRateAddress => exact ⟨rfl, le_rfl, le_rfl, .inl rfl⟩

/-- **Run lemma**, within a block. -/
theorem Ops.grown (h : R.Ops now R') : R.Grown now R' := by
  induction h with
  | refl => exact .refl now R
  | tail _ h ih => exact ih.trans h.grown

/-- What `init` leaves. -/
theorem init_eq {uTokenAddress interestRateAddress : Address}
    (h : R.init uTokenAddress interestRateAddress = .ok R') : R.uTokenAddress = 0 ∧ R' = { R with
      liquidityIndex := RAY
      variableBorrowIndex := RAY
      uTokenAddress := uTokenAddress
      interestRateAddress := interestRateAddress } := by
  obtain ⟨hfree, h⟩ := require_bind_eq_ok.mp h
  exact ⟨hfree, (Except.ok.inj h).symm⟩

/-- The configurator sets no rate. -/
theorem Configured.rates (h : R.Configured R') : R'.currentLiquidityRate = R.currentLiquidityRate ∧
    R'.currentVariableBorrowRate = R.currentVariableBorrowRate := by
  cases h with
  | settings configuration interestRateAddress => exact ⟨rfl, rfl⟩
  | opened u ir configuration h =>
    obtain ⟨-, rfl⟩ := init_eq h
    exact ⟨rfl, rfl⟩

/-- Nor does it bring a reserve up to date. -/
theorem Configured.lastUpdateTimestamp (h : R.Configured R') :
    R'.lastUpdateTimestamp = R.lastUpdateTimestamp := by
  cases h with
  | settings configuration interestRateAddress => rfl
  | opened u ir configuration h =>
    obtain ⟨-, rfl⟩ := init_eq h
    rfl

/-- A reserve that has been set up is only given other settings. -/
theorem Configured.op (h : R.Configured R') (hinit : R.uTokenAddress ≠ 0) (now : ℕ) :
    R.Op now R' := by
  cases h with
  | settings configuration interestRateAddress => exact .configure _ _
  | opened u ir configuration h => exact absurd (init_eq h).1 hinit

/-- A reserve that has not been set up stays that way or is set up now. -/
theorem Configured.opens (h : R.Configured R') (h0 : R.uTokenAddress = 0)
    (h1 : R'.uTokenAddress ≠ 0) : R.Opens R' := by
  cases h with
  | settings configuration interestRateAddress => exact absurd h0 h1
  | opened u ir configuration h => exact ⟨u, ir, _, h, fun _ => .configure _ _⟩

/-- The indices fit their type. -/
def Fits (R : ReserveData) : Prop :=
  R.liquidityIndex ≤ maxUint128 ∧ R.variableBorrowIndex ≤ maxUint128

theorem _updateIndexes_fits {scaledVariableDebt : ℕ} (hfits : R.Fits)
    (h : R._updateIndexes scaledVariableDebt now = .ok R') : R'.Fits := by
  obtain ⟨R₁, h₁, h⟩ := bind_eq_ok.mp h
  obtain rfl := Except.ok.inj h
  change R₁.Fits
  unfold applyIf at h₁
  split at h₁
  · obtain ⟨f, -, h₁⟩ := bind_eq_ok.mp h₁
    obtain ⟨i, -, h₁⟩ := bind_eq_ok.mp h₁
    obtain ⟨hi, h₁⟩ := require_bind_eq_ok.mp h₁
    unfold applyIf at h₁
    split at h₁
    · obtain ⟨g, -, h₁⟩ := bind_eq_ok.mp h₁
      obtain ⟨j, -, h₁⟩ := bind_eq_ok.mp h₁
      obtain ⟨hj, h₁⟩ := require_bind_eq_ok.mp h₁
      obtain rfl := Except.ok.inj h₁
      exact ⟨hi, hj⟩
    · obtain rfl := Except.ok.inj h₁
      exact ⟨hi, hfits.2⟩
  · obtain rfl := Except.ok.inj h₁
    exact hfits

/-- Every operation checks that the indices it writes fit. -/
theorem Op.fits (h : R.Op now R') (hfits : R.Fits) : R'.Fits := by
  cases h with
  | updateIndexes scaledVariableDebt h => exact _updateIndexes_fits hfits h
  | setRates rates h =>
    rw [setRates_eq h]
    exact hfits
  | cumulateToLiquidityIndex totalLiquidity amount h =>
    obtain ⟨i, rfl, -, hi⟩ := cumulateToLiquidityIndex_spec h
    exact ⟨hi, hfits.2⟩
  | configure configuration interestRateAddress => exact hfits

end ReserveData

/-! ## Runs -/

/-- A reserve and the time. -/
structure Clocked where
  now : ℕ
  reserve : ReserveData

namespace Clocked

/-- A reserve that `init` has just set up; its time stamp is not in the future. -/
def Fresh (c : Clocked) : Prop :=
  ∃ (R : ReserveData) (uTokenAddress interestRateAddress : Address),
    R.init uTokenAddress interestRateAddress = .ok c.reserve ∧
      R.lastUpdateTimestamp ≤ c.now ∧ R.lastUpdateTimestamp < 2 ^ 40

/-- An operation at the current time, or time that passes. -/
inductive Step : Clocked → Clocked → Prop
  | op {now : ℕ} {R R' : ReserveData} : R.Op now R' → Step ⟨now, R⟩ ⟨now, R'⟩
  | tick {now now' : ℕ} {R : ReserveData} : now ≤ now' → Step ⟨now, R⟩ ⟨now', R⟩

/-- The states of a reserve in runs that start with `init`. -/
abbrev Reachable : Clocked → Prop := Machine.Reachable Fresh Step

abbrev Run : Clocked → Clocked → Prop := Relation.ReflTransGen Step

/-- **The invariant of a reserve.** Its indices are at least one ray and fit, and so does its time
stamp, which is not in the future. -/
structure Sound (c : Clocked) : Prop where
  liquidityIndex : RAY ≤ c.reserve.liquidityIndex
  variableBorrowIndex : RAY ≤ c.reserve.variableBorrowIndex
  fits : c.reserve.Fits
  stamp_le : c.reserve.lastUpdateTimestamp ≤ c.now
  stamp_lt : c.reserve.lastUpdateTimestamp < 2 ^ 40

variable {c c' : Clocked} {now : ℕ} {R R' : ReserveData}

theorem Fresh.sound (h : c.Fresh) : c.Sound := by
  obtain ⟨R, u, ir, hinit, hle, hlt⟩ := h
  obtain ⟨-, hR⟩ := ReserveData.init_eq hinit
  have hfits : RAY ≤ maxUint128 := by decide
  exact ⟨by rw [hR], by rw [hR], by rw [hR]; exact ⟨hfits, hfits⟩, by rw [hR]; exact hle,
    by rw [hR]; exact hlt⟩

theorem Sound.op (h : Sound ⟨now, R⟩) (hop : R.Op now R') : Sound ⟨now, R'⟩ where
  liquidityIndex := h.liquidityIndex.trans hop.grown.liquidityIndex_le
  variableBorrowIndex := h.variableBorrowIndex.trans hop.grown.variableBorrowIndex_le
  fits := hop.fits h.fits
  stamp_le := by
    rcases hop.grown.stamp with hs | hs <;> simp only [hs]
    · exact h.stamp_le
    · exact uint40_le now
  stamp_lt := by
    rcases hop.grown.stamp with hs | hs <;> simp only [hs]
    · exact h.stamp_lt
    · exact uint40_lt now

/-- **Step lemma.** -/
theorem Sound.step (h : c.Sound) (hst : Step c c') : c'.Sound := by
  cases hst with
  | op hop => exact h.op hop
  | tick hle => exact ⟨h.liquidityIndex, h.variableBorrowIndex, h.fits,
      h.stamp_le.trans hle, h.stamp_lt⟩

/-- **Every reserve in a run is sound.** -/
theorem Reachable.sound (h : c.Reachable) : c.Sound :=
  Machine.Reachable.invariant (fun c (hf : Fresh c) => hf.sound)
    (fun c c' _ hs (hst : Step c c') => hs.step hst) h

theorem Step.indices_le (h : Step c c') : c.reserve.liquidityIndex ≤ c'.reserve.liquidityIndex ∧
    c.reserve.variableBorrowIndex ≤ c'.reserve.variableBorrowIndex := by
  cases h with
  | op hop => exact ⟨hop.grown.liquidityIndex_le, hop.grown.variableBorrowIndex_le⟩
  | tick hle => exact ⟨le_rfl, le_rfl⟩

/-- Neither index falls in a run. -/
theorem Run.indices_le (h : Run c c') : c.reserve.liquidityIndex ≤ c'.reserve.liquidityIndex ∧
    c.reserve.variableBorrowIndex ≤ c'.reserve.variableBorrowIndex := by
  induction h with
  | refl => exact ⟨le_rfl, le_rfl⟩
  | tail _ hst ih => exact ⟨ih.1.trans hst.indices_le.1, ih.2.trans hst.indices_le.2⟩

/-- Time does not run backwards, and within one block a current time stamp stays current. -/
theorem Run.stamp (h : Run c c') : c.now ≤ c'.now ∧
    (c'.now = c.now → c.reserve.lastUpdateTimestamp = uint40 c.now →
      c'.reserve.lastUpdateTimestamp = uint40 c.now) := by
  induction h with
  | refl => exact ⟨le_rfl, fun _ hs => hs⟩
  | tail _ hst ih =>
    cases hst with
    | op hop =>
      refine ⟨ih.1, fun hnow hs => ?_⟩
      rcases hop.grown.stamp with hstamp | hstamp
      · exact hstamp.trans (ih.2 hnow hs)
      · exact hstamp.trans (congrArg uint40 hnow)
    | tick hle => exact ⟨ih.1.trans hle, fun hnow hs => ih.2 (by simp only at *; omega) hs⟩

/-- Operations of one block are a run. -/
theorem run_of_ops (h : R.Ops now R') : Run ⟨now, R⟩ ⟨now, R'⟩ := by
  induction h with
  | refl => exact .refl
  | tail _ hop ih => exact ih.tail (.op hop)

end Clocked

end Unlockd
