/-
A pool that is lent out.

Suppliers own shares of a pool, borrowers owe shares of a debt, and a share of each kind is worth
its index. The pool is covered when what it can pay out and what it is owed make up for the shares
of the suppliers. Two things can upset this: amounts that move, which are turned into shares with
rounding, and interest, which the two sides bear at different rates. The rules here say how many
shares each of them may leave uncovered. For the interest, the condition is that the suppliers are
promised no more on all of the pool than what is left to them of the interest on its lent part, and
rates by utilization meet it.
-/
import Mathlib.Algebra.Order.Field.Basic
import Mathlib.Tactic.Linarith
import Mathlib.Tactic.Ring

set_option autoImplicit false

namespace LentPool

variable {𝕜 : Type*} [Field 𝕜] [LinearOrder 𝕜]

/-- The shares on both sides of a pool, what a share of each is worth, and what can be paid out. -/
structure Pool (𝕜 : Type*) where
  supply : 𝕜
  index : 𝕜
  debt : 𝕜
  debtIndex : 𝕜
  available : 𝕜

namespace Pool

/-- What the suppliers are to get. -/
def claims (p : Pool 𝕜) : 𝕜 := p.supply * p.index

/-- What the borrowers owe. -/
def owed (p : Pool 𝕜) : 𝕜 := p.debt * p.debtIndex

/-- What there is to pay the suppliers from. -/
def funds (p : Pool 𝕜) : 𝕜 := p.available + p.owed

/-- **All shares but `k` are covered.** -/
def Covered (k : 𝕜) (p : Pool 𝕜) : Prop := (p.supply - k) * p.index ≤ p.funds

variable {p p' : Pool 𝕜} {k k' d : 𝕜}

/-- More to pay from does no harm. -/
theorem Covered.funded (h : p.Covered k) (hs : p'.supply = p.supply) (hi : p'.index = p.index)
    (hf : p.funds ≤ p'.funds) : p'.Covered k := by
  unfold Covered
  rw [hs, hi]
  exact le_trans h hf

variable [IsStrictOrderedRing 𝕜]

theorem Covered.weaken (h : p.Covered k) (hi : 0 ≤ p.index) (hk : k ≤ k') : p.Covered k' := by
  have hless : (p.supply - k') * p.index ≤ (p.supply - k) * p.index :=
    mul_le_mul_of_nonneg_right (sub_le_sub_left hk _) hi
  exact hless.trans h

/-- **Amounts.** The claims grow with the funds, up to `d` shares that rounding gives away. -/
theorem Covered.moved (h : p.Covered k) (hi : p'.index = p.index)
    (hmoved : p.funds + p'.claims ≤ p'.funds + p.claims + d * p.index) : p'.Covered (k + d) := by
  unfold Covered claims at *
  rw [hi] at hmoved ⊢
  have hexpand : (p'.supply - (k + d)) * p.index
      = p'.supply * p.index - k * p.index - d * p.index := by ring
  have hbefore : (p.supply - k) * p.index = p.supply * p.index - k * p.index := sub_mul _ _ _
  rw [hexpand]
  linarith

/-- **Interest.** The suppliers get interest at `x`, the borrowers bear it at `y`, and the part `ρ`
of what the borrowers bear is given out as new shares. -/
theorem Covered.accrued {x y ρ e₀ e₁ e₂ e₃ : 𝕜} (h : p.Covered k) (hk : 0 ≤ k) (hx : 0 ≤ x)
    (hρ : 0 ≤ ρ) (hρ' : ρ ≤ 1) (he₀ : 0 ≤ e₀) (he₁ : 0 ≤ e₁) (he₃ : 0 ≤ e₃)
    (hsupply : 0 ≤ p.supply) (havailable : 0 ≤ p'.available) (howed : 0 ≤ p.owed)
    (hindex : p'.index ≤ p.index * (1 + x) + e₀) (hone : 1 ≤ p'.index)
    (hdebt : p.owed + y * p.owed ≤ p'.owed + e₁) (hgrown : p.owed ≤ p'.owed)
    (hclaims : p'.claims ≤ p.supply * p'.index + ρ * (p'.owed - p.owed) + e₂ * p'.index)
    (hrates : x * p.funds ≤ (1 - ρ) * (y * p.owed) + e₃)
    (hsame : p'.available = p.available) :
    p'.Covered (k + (p.supply * e₀ + e₁ + e₂ + e₃)) := by
  have hexpand : (p'.supply - (k + (p.supply * e₀ + e₁ + e₂ + e₃))) * p'.index
      = p'.claims - k * p'.index - e₂ * p'.index - (p.supply * e₀ + e₁ + e₃) * p'.index := by
    unfold claims
    ring
  -- the errors are in tokens, and a share is worth at least one
  have herrors : p.supply * e₀ + e₁ + e₃ ≤ (p.supply * e₀ + e₁ + e₃) * p'.index :=
    le_mul_of_one_le_right (by positivity) hone
  have hshare : ρ * (p'.owed - p.owed) ≤ p'.owed - p.owed :=
    mul_le_of_le_one_left (sub_nonneg.mpr hgrown) hρ'
  unfold Covered
  rw [hexpand]
  have hfunds' : p'.funds = p'.available + p'.owed := rfl
  rcases le_total p.supply k with hle | hle
  · -- nothing needed to be covered
    have hnone : p.supply * p'.index ≤ k * p'.index :=
      mul_le_mul_of_nonneg_right hle (zero_le_one.trans hone)
    have hnonneg : 0 ≤ p.supply * e₀ := by positivity
    linarith
  · have hfunds : p.funds = p.available + p.owed := rfl
    have hstep : (p.supply - k) * p'.index ≤ (p.supply - k) * (p.index * (1 + x) + e₀) :=
      mul_le_mul_of_nonneg_left hindex (sub_nonneg.mpr hle)
    have hgrow : (p.supply - k) * p.index * (1 + x) ≤ p.funds * (1 + x) :=
      mul_le_mul_of_nonneg_right h (by linarith)
    have hround : (p.supply - k) * e₀ ≤ p.supply * e₀ :=
      mul_le_mul_of_nonneg_right (by linarith) he₀
    have hleft : (1 - ρ) * (y * p.owed) ≤ (1 - ρ) * (p'.owed - p.owed + e₁) :=
      mul_le_mul_of_nonneg_left (by linarith) (sub_nonneg.mpr hρ')
    have herror : (1 - ρ) * e₁ ≤ e₁ := mul_le_of_le_one_left he₁ (by linarith)
    have hsplit : (p.supply - k) * (p.index * (1 + x) + e₀)
        = (p.supply - k) * p.index * (1 + x) + (p.supply - k) * e₀ := by ring
    have hsplit' : (1 - ρ) * (p'.owed - p.owed + e₁)
        = p'.owed - p.owed - ρ * (p'.owed - p.owed) + (1 - ρ) * e₁ := by ring
    have hunsplit : (p.supply - k) * p'.index = p.supply * p'.index - k * p'.index := sub_mul _ _ _
    linarith

/-- **Utilization.** Of all funds, the part that is lent is the debt, up to what the debt `d` that
the part was computed from is too large, and up to the rounding of the part. -/
theorem utilized_le {a d u w δ ε : 𝕜} (ha : 0 ≤ a) (hw : 0 ≤ w) (hδ : 0 ≤ δ) (hpos : 0 < a + d)
    (hu : u * (a + d) ≤ d + ε * (a + d)) (hd : d ≤ w + δ) (hd' : 0 ≤ d) :
    u * (a + w) ≤ w + δ + ε * (a + w) := by
  -- both sides times the funds that the part was computed from
  have hcross : u * (a + w) * (a + d) ≤ (w + δ + ε * (a + w)) * (a + d) := by
    have hfirst : u * (a + d) * (a + w) ≤ (d + ε * (a + d)) * (a + w) :=
      mul_le_mul_of_nonneg_right hu (add_nonneg ha hw)
    have hexcess : a * (d - w) ≤ a * δ := mul_le_mul_of_nonneg_left (by linarith) ha
    have hrest : 0 ≤ δ * d := mul_nonneg hδ hd'
    have hleft : u * (a + w) * (a + d) = u * (a + d) * (a + w) := by ring
    have hright : (w + δ + ε * (a + w)) * (a + d)
        = (d + ε * (a + d)) * (a + w) - a * (d - w) + a * δ + δ * d := by ring
    rw [hleft, hright]
    linarith
  exact le_of_mul_le_mul_right hcross hpos

end Pool

end LentPool
