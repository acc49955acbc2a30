/-
The arithmetic libraries: `WadRayMath.sol`, `PercentageMath.sol` and `MathUtils.sol`.

Every operation checks its own overflow bound against `type(uint256).max` and reverts
beyond it. Below the bound each is one half-up division, so the specification lemmas
(`rayMul_spec` and its kin) hand every result over to the fixed-point library and no
later proof looks at a division again.
-/
import Unlockd.DataTypes
import Unlockd.Lib.FixedPoint
import Unlockd.Lib.Outcome

set_option autoImplicit false

namespace Unlockd

open Outcome FixedPoint

/-! ## `WadRayMath` -/

def WAD : ℕ := 10 ^ 18
def RAY : ℕ := 10 ^ 27
def HALF_RAY : ℕ := RAY / 2
def WAD_RAY_RATIO : ℕ := 10 ^ 9

/-- `a * b` in a format with unit `u`, half up; the shape shared by `wadMul` and `rayMul`. -/
def unitMul (u a b : ℕ) : Except Error ℕ :=
  if a = 0 ∨ b = 0 then .ok 0
  else do
    require (a ≤ (maxUint256 - u / 2) / b) Error.MATH_MULTIPLICATION_OVERFLOW
    return (a * b + u / 2) / u

/-- `a / b` in a format with unit `u`, half up; the shape shared by `wadDiv`, `rayDiv`
and `percentDiv`. -/
def unitDiv (u a b : ℕ) : Except Error ℕ := do
  require (b ≠ 0) Error.MATH_DIVISION_BY_ZERO
  require (a ≤ (maxUint256 - b / 2) / u) Error.MATH_MULTIPLICATION_OVERFLOW
  return (a * u + b / 2) / b

def wadMul (a b : ℕ) : Except Error ℕ := unitMul WAD a b
def wadDiv (a b : ℕ) : Except Error ℕ := unitDiv WAD a b
def rayMul (a b : ℕ) : Except Error ℕ := unitMul RAY a b
def rayDiv (a b : ℕ) : Except Error ℕ := unitDiv RAY a b

def wadToRay (a : ℕ) : Except Error ℕ := do
  require (a * WAD_RAY_RATIO ≤ maxUint256) Error.MATH_MULTIPLICATION_OVERFLOW
  return a * WAD_RAY_RATIO

/-! ## `PercentageMath` -/

def PERCENTAGE_FACTOR : ℕ := 10000
def ONE_PERCENT : ℕ := 100

def percentMul (value percentage : ℕ) : Except Error ℕ := unitMul PERCENTAGE_FACTOR value percentage
def percentDiv (value percentage : ℕ) : Except Error ℕ := unitDiv PERCENTAGE_FACTOR value percentage

/-! ## Checked arithmetic -/

/-- `a - b`, which reverts below zero. -/
def checkedSub (a b : ℕ) : Except Error ℕ := do
  require (b ≤ a) Error.arithmeticUnderflow
  return a - b

/-- `a / b`, rounded down; division by zero reverts. -/
def checkedDiv (a b : ℕ) : Except Error ℕ := do
  require (b ≠ 0) Error.divisionByZero
  return a / b

/-- `a * b`, which reverts beyond the largest number. -/
def checkedMul (a b : ℕ) : Except Error ℕ := do
  require (a * b ≤ maxUint256) Error.arithmeticOverflow
  return a * b

/-- `a ** b`, which reverts beyond the largest number. -/
def checkedPow (a b : ℕ) : Except Error ℕ := do
  require (a ^ b ≤ maxUint256) Error.arithmeticOverflow
  return a ^ b

/-! ## `MathUtils` -/

/-- `365 days`. -/
def SECONDS_PER_YEAR : ℕ := 31536000

/-- Interest of a rate over the time since the last update, linearly: the growth factor. -/
def calculateLinearInterest (rate lastUpdateTimestamp blockTimestamp : ℕ) : Except Error ℕ := do
  let timeDifference ← checkedSub blockTimestamp lastUpdateTimestamp
  return rate * timeDifference / SECONDS_PER_YEAR + RAY

/-- Interest of a rate over the time since the last update, compounded by the second up to
the third binomial term: the growth factor. -/
def calculateCompoundedInterest (rate lastUpdateTimestamp currentTimestamp : ℕ) :
    Except Error ℕ := do
  let exp ← checkedSub currentTimestamp lastUpdateTimestamp
  if exp = 0 then return RAY
  else
    let expMinusOne := exp - 1
    let expMinusTwo := if exp > 2 then exp - 2 else 0
    let ratePerSecond := rate / SECONDS_PER_YEAR
    let basePowerTwo ← rayMul ratePerSecond ratePerSecond
    let basePowerThree ← rayMul basePowerTwo ratePerSecond
    let secondTerm := exp * expMinusOne * basePowerTwo / 2
    let thirdTerm := exp * expMinusOne * expMinusTwo * basePowerThree / 6
    return RAY + ratePerSecond * exp + secondTerm + thirdTerm

/-! ## What the operations compute -/

theorem RAY_pos : 0 < RAY := by decide

theorem unitMul_spec {u a b c : ℕ} (h : unitMul u a b = .ok c) : c = divHalfUp (a * b) u := by
  unfold unitMul at h
  split at h
  · rename_i h0
    have hz : a * b = 0 := by rcases h0 with rfl | rfl <;> simp
    rw [hz, divHalfUp_zero]
    exact (Except.ok.inj h).symm
  · obtain ⟨-, h⟩ := require_bind_eq_ok.mp h
    exact (Except.ok.inj h).symm

theorem unitDiv_spec {u a b c : ℕ} (h : unitDiv u a b = .ok c) :
    0 < b ∧ c = divHalfUp (a * u) b := by
  obtain ⟨h0, h⟩ := require_bind_eq_ok.mp h
  obtain ⟨-, h⟩ := require_bind_eq_ok.mp h
  exact ⟨Nat.pos_of_ne_zero h0, (Except.ok.inj h).symm⟩

theorem rayMul_spec {a b c : ℕ} (h : rayMul a b = .ok c) : c = divHalfUp (a * b) RAY :=
  unitMul_spec h

theorem rayDiv_spec {a b c : ℕ} (h : rayDiv a b = .ok c) : 0 < b ∧ c = divHalfUp (a * RAY) b :=
  unitDiv_spec h

/-- Nothing times a factor is nothing. -/
theorem unitMul_zero_left (u b : ℕ) : unitMul u 0 b = .ok 0 := if_pos (.inl rfl)

/-- A product that fits goes through. -/
theorem unitMul_ok {u a b : ℕ} (h : a * b ≤ maxUint256 - u / 2) :
    unitMul u a b = .ok (divHalfUp (a * b) u) := by
  unfold unitMul
  split
  · rename_i hz
    rw [Nat.mul_eq_zero.mpr hz, divHalfUp_zero]
  · rename_i hnz
    have hb : 0 < b := Nat.pos_of_ne_zero (not_or.mp hnz).2
    exact require_bind_eq_ok.mpr ⟨(Nat.le_div_iff_mul_le hb).mpr h, rfl⟩

/-- And no other does. -/
theorem unitMul_eq_ok {u a b c : ℕ} :
    unitMul u a b = .ok c ↔ a * b ≤ maxUint256 - u / 2 ∧ c = divHalfUp (a * b) u := by
  constructor
  · intro h
    refine ⟨?_, unitMul_spec h⟩
    unfold unitMul at h
    split at h
    · rename_i hz
      rw [Nat.mul_eq_zero.mpr hz]
      exact Nat.zero_le _
    · rename_i hnz
      obtain ⟨hle, -⟩ := require_bind_eq_ok.mp h
      exact (Nat.le_div_iff_mul_le (Nat.pos_of_ne_zero (not_or.mp hnz).2)).mp hle
  · rintro ⟨hfits, rfl⟩
    exact unitMul_ok hfits

/-- A quotient that fits goes through. -/
theorem unitDiv_ok {u a b : ℕ} (hu : 0 < u) (hb : b ≠ 0) (h : a * u ≤ maxUint256 - b / 2) :
    unitDiv u a b = .ok (divHalfUp (a * u) b) :=
  require_bind_eq_ok.mpr
    ⟨hb, require_bind_eq_ok.mpr ⟨(Nat.le_div_iff_mul_le hu).mpr h, rfl⟩⟩

/-- A product that went through is far below the largest number. -/
theorem unitMul_fits {u a b c : ℕ} (hu : u ≤ maxUint256) (h : unitMul u a b = .ok c) :
    c * u ≤ maxUint256 := by
  unfold unitMul at h
  split at h
  · rw [← Except.ok.inj h, Nat.zero_mul]
    exact Nat.zero_le _
  · rename_i hnz
    obtain ⟨hle, h⟩ := require_bind_eq_ok.mp h
    obtain rfl := Except.ok.inj h
    have hb : 0 < b := Nat.pos_of_ne_zero (not_or.mp hnz).2
    have hfits := (Nat.le_div_iff_mul_le hb).mp hle
    have hhalf : u / 2 ≤ maxUint256 := (Nat.div_le_self u 2).trans hu
    have hround := Nat.div_mul_le_self (a * b + u / 2) u
    omega

/-- The arithmetic raises only errors of its own. -/
theorem unitMul_benign {u a b : ℕ} : Sat (unitMul u a b) (fun c => unitMul u a b = .ok c)
    Error.Benign := by
  refine Sat.self (Q := fun _ => True) ?_
  unfold unitMul
  exact Sat.ite (fun _ => trivial) fun _ => Sat.bind (Sat.require fun _ => trivial)
    fun _ _ => trivial

theorem unitDiv_benign {u a b : ℕ} : Sat (unitDiv u a b) (fun c => unitDiv u a b = .ok c)
    Error.Benign :=
  Sat.self (Q := fun _ => True) <| Sat.bind (Sat.require fun _ => trivial) fun _ _ =>
    Sat.bind (Sat.require fun _ => trivial) fun _ _ => trivial

theorem checkedSub_benign {a b : ℕ} : Sat (checkedSub a b) (fun c => b ≤ a ∧ c = a - b)
    Error.Benign :=
  Sat.bind (Sat.require fun _ => trivial) fun _ h => ⟨h, rfl⟩

theorem checkedSub_eq_ok {a b c : ℕ} : checkedSub a b = .ok c ↔ b ≤ a ∧ c = a - b := by
  rw [checkedSub, require_bind_eq_ok]
  exact and_congr_right fun _ => ⟨fun h => (Except.ok.inj h).symm, fun h => congrArg _ h.symm⟩

theorem checkedMul_eq_ok {a b c : ℕ} : checkedMul a b = .ok c ↔ a * b ≤ maxUint256 ∧ a * b = c := by
  unfold checkedMul
  rw [require_bind_eq_ok]
  exact and_congr_right fun _ => ⟨Except.ok.inj, congrArg _⟩

theorem checkedPow_eq_ok {a b c : ℕ} : checkedPow a b = .ok c ↔ a ^ b ≤ maxUint256 ∧ a ^ b = c := by
  unfold checkedPow
  rw [require_bind_eq_ok]
  exact and_congr_right fun _ => ⟨Except.ok.inj, congrArg _⟩

theorem checkedDiv_eq_ok {a b c : ℕ} : checkedDiv a b = .ok c ↔ b ≠ 0 ∧ a / b = c := by
  unfold checkedDiv
  rw [require_bind_eq_ok]
  exact and_congr_right fun _ => ⟨Except.ok.inj, congrArg _⟩

/-- The linear factor in closed form. -/
theorem calculateLinearInterest_spec {rate last now f : ℕ}
    (h : calculateLinearInterest rate last now = .ok f) :
    last ≤ now ∧ f = rate * (now - last) / SECONDS_PER_YEAR + RAY := by
  obtain ⟨d, hd, h⟩ := bind_eq_ok.mp h
  obtain ⟨hle, rfl⟩ := checkedSub_eq_ok.mp hd
  exact ⟨hle, (Except.ok.inj h).symm⟩

/-- The compounded factor in closed form: one ray, the linear term, and two terms that only
add to it. -/
theorem calculateCompoundedInterest_spec {rate last now f : ℕ}
    (h : calculateCompoundedInterest rate last now = .ok f) :
    last ≤ now ∧ (now = last → f = RAY) ∧
      ∃ more, f = RAY + rate / SECONDS_PER_YEAR * (now - last) + more ∧
        (rate < SECONDS_PER_YEAR → more = 0) := by
  obtain ⟨d, hd, h⟩ := bind_eq_ok.mp h
  obtain ⟨hle, rfl⟩ := checkedSub_eq_ok.mp hd
  refine ⟨hle, ?_⟩
  split at h
  · rename_i h0
    obtain rfl := Except.ok.inj h
    exact ⟨fun _ => rfl, 0, by rw [h0]; simp, fun _ => rfl⟩
  · rename_i h0
    obtain ⟨p2, hp2, h⟩ := bind_eq_ok.mp h
    obtain ⟨p3, hp3, h⟩ := bind_eq_ok.mp h
    obtain rfl := Except.ok.inj h
    refine ⟨fun heq => absurd (by omega) h0, _, Nat.add_assoc _ _ _, fun hr => ?_⟩
    have hz : rate / SECONDS_PER_YEAR = 0 := Nat.div_eq_of_lt hr
    have h2 : p2 = 0 := by rw [rayMul_spec hp2, hz]; simp
    have h3 : p3 = 0 := by rw [rayMul_spec hp3, h2]; simp
    simp [h2, h3]

theorem calculateLinearInterest_benign {rate last now : ℕ} :
    Sat (calculateLinearInterest rate last now)
      (fun f => calculateLinearInterest rate last now = .ok f) Error.Benign :=
  Sat.self (Q := fun _ => True) <| Sat.bind checkedSub_benign fun _ _ => trivial

theorem calculateCompoundedInterest_benign {rate last now : ℕ} :
    Sat (calculateCompoundedInterest rate last now)
      (fun f => calculateCompoundedInterest rate last now = .ok f) Error.Benign := by
  refine Sat.self (Q := fun _ => True) (Sat.bind checkedSub_benign fun _ _ => ?_)
  refine Sat.ite (fun _ => trivial) fun _ => ?_
  exact Sat.bind unitMul_benign fun _ _ => Sat.bind unitMul_benign fun _ _ => trivial

/-- Both growth factors are at least one ray. -/
theorem RAY_le_linear {rate last now f : ℕ} (h : calculateLinearInterest rate last now = .ok f) :
    RAY ≤ f := by
  rw [(calculateLinearInterest_spec h).2]; exact Nat.le_add_left _ _

theorem RAY_le_compounded {rate last now f : ℕ}
    (h : calculateCompoundedInterest rate last now = .ok f) : RAY ≤ f := by
  obtain ⟨-, -, more, rfl, -⟩ := calculateCompoundedInterest_spec h
  omega

/-- A growth factor never shrinks what it multiplies. -/
theorem le_rayMul {f a b : ℕ} (hf : RAY ≤ f) (h : rayMul f a = .ok b) : a ≤ b := by
  rw [rayMul_spec h]; exact le_divHalfUp_mul RAY_pos hf a

/-! ## Scaling by an index -/

/-- **Scaling round trip.** An amount that is scaled up by an index of at least one ray and down
again comes back to the last digit, and nothing overflows as long as the product leaves room for the
halves that are added. An amount that is scaled down first comes back within half an index, in
rays, and one half. -/
theorem scaling_round_trip (S a i : ℕ) :
    (RAY ≤ i →
      (∀ r, (rayMul S i >>= fun q => rayDiv q i) = .ok r → r = S) ∧
      (S * i + HALF_RAY + i / 2 ≤ maxUint256 →
        (rayMul S i >>= fun q => rayDiv q i) = .ok S)) ∧
    ∀ b, (rayDiv a i >>= fun q => rayMul q i) = .ok b →
      |(b : ℚ) - a| ≤ (i : ℚ) / (2 * RAY) + 1 / 2 := by
  constructor
  · intro hray
    have hback := divHalfUp_scale_unscale S RAY_pos hray
    constructor
    · intro r hr
      obtain ⟨q, hq, hr⟩ := bind_eq_ok.mp hr
      rw [(rayDiv_spec hr).2, rayMul_spec hq, hback]
    · intro hfits
      have hproduct : S * i ≤ maxUint256 - RAY / 2 := by
        unfold HALF_RAY at hfits
        omega
      have hquotient : divHalfUp (S * i) RAY * RAY ≤ maxUint256 - i / 2 := by
        have hle := divHalfUp_mul_le (S * i) RAY
        unfold HALF_RAY at hfits
        omega
      rw [rayMul, unitMul_ok hproduct, ok_bind, rayDiv,
        unitDiv_ok RAY_pos (Nat.ne_of_gt (RAY_pos.trans_le hray)) hquotient, hback]
  · intro b hb
    obtain ⟨q, hq, hb⟩ := bind_eq_ok.mp hb
    obtain ⟨hpos, hq⟩ := rayDiv_spec hq
    rw [rayMul_spec hb, hq]
    exact abs_unscale_scale a hpos RAY_pos

/-- At an index of one ray and a third, seven ether come back to the last wei. At an index of three
rays, ten wei come back as nine. -/
theorem scaling_round_trip_sample :
    (rayMul (7 * WAD) (RAY + RAY / 3) >>= fun q => rayDiv q (RAY + RAY / 3)) = .ok (7 * WAD) ∧
    (rayDiv 10 (3 * RAY) >>= fun q => rayMul q (3 * RAY)) = .ok 9 ∧
    |((9 : ℕ) : ℚ) - (10 : ℕ)| ≤ ((3 * RAY : ℕ) : ℚ) / (2 * RAY) + 1 / 2 := by
  have hdown : (rayDiv 10 (3 * RAY) >>= fun q => rayMul q (3 * RAY)) = .ok 9 := by rfl
  obtain ⟨-, hbound⟩ := scaling_round_trip 0 10 (3 * RAY)
  obtain ⟨hup, -⟩ := scaling_round_trip (7 * WAD) 0 (RAY + RAY / 3)
  exact ⟨(hup (by decide)).2 (by decide), hdown, hbound 9 hdown⟩

end Unlockd
