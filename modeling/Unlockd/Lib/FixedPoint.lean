/-
Half-up fixed-point arithmetic over the natural numbers.

A fixed-point format is a positive unit `u`: the real `x` is stored as the
natural nearest `x * u`. Its product and its quotient are both one division that
rounds half up, so a single operation, `divHalfUp`, carries the whole theory:
`a * b` in the format is `divHalfUp (a * b) u`, and `a / b` in the format is
`divHalfUp (a * u) b`.

What is proved about it is what a ledger in such a format rests on: the error is
at most half of the divisor, the operation is monotone, a factor of at least one
unit never shrinks a value, and scaling up by an index of at least one unit and
back down is the identity (`divHalfUp_scale_unscale`).
-/
import Mathlib.Algebra.Order.Field.Rat
import Mathlib.Tactic.FieldSimp
import Mathlib.Tactic.Ring
import Mathlib.Tactic.Linarith

set_option autoImplicit false

namespace FixedPoint

/-- `n / d`, rounded half up. -/
def divHalfUp (n d : ℕ) : ℕ := (n + d / 2) / d

/-! ## The error bound -/

/-- The rounded quotient is at most half a divisor above the exact one. -/
theorem divHalfUp_mul_le (n d : ℕ) : divHalfUp n d * d ≤ n + d / 2 :=
  Nat.div_mul_le_self _ _

/-- The rounded quotient is less than a divisor below the shifted numerator. -/
theorem lt_divHalfUp_mul (n : ℕ) {d : ℕ} (hd : 0 < d) :
    n + d / 2 < divHalfUp n d * d + d := by
  have h := Nat.lt_div_mul_add hd (a := n + d / 2)
  simpa only [divHalfUp] using h

/-- The value `q` is the rounded quotient as soon as it meets the two bounds. -/
theorem divHalfUp_eq_of_bounds {n d q : ℕ} (hle : q * d ≤ n + d / 2)
    (hlt : n + d / 2 < q * d + d) : divHalfUp n d = q := by
  have hd : 0 < d := by omega
  refine Nat.div_eq_of_lt_le hle ?_
  rw [Nat.add_mul, Nat.one_mul]
  exact hlt

/-- **Half up, without division.** The rounded quotient is at most `q` just when the exact one is
less than half above `q`. -/
theorem divHalfUp_le_iff {n d : ℕ} (hd : 0 < d) (q : ℕ) :
    divHalfUp n d ≤ q ↔ 2 * n < (2 * q + 1) * d := by
  have hexpand : (2 * q + 1) * d = 2 * (q * d) + d := by ring
  have hsucc : (q + 1) * d = q * d + d := by ring
  unfold divHalfUp
  rw [← Nat.lt_succ_iff, Nat.div_lt_iff_lt_mul hd, hexpand, Nat.succ_eq_add_one, hsucc]
  omega

/-- The rounded quotient is at least `q` just when the exact one is at most half below `q`. -/
theorem le_divHalfUp_iff {n d : ℕ} (hd : 0 < d) (q : ℕ) :
    q ≤ divHalfUp n d ↔ 2 * (q * d) ≤ 2 * n + d := by
  unfold divHalfUp
  rw [Nat.le_div_iff_mul_le hd]
  omega

/-- The rounded quotient is within half a divisor of the exact one. -/
theorem divHalfUp_within (n : ℕ) {d : ℕ} (hd : 0 < d) :
    2 * (divHalfUp n d * d) ≤ 2 * n + d ∧ 2 * n ≤ 2 * (divHalfUp n d * d) + d := by
  constructor
  · exact (le_divHalfUp_iff hd _).mp le_rfl
  · have hlt := (divHalfUp_le_iff hd (n := n) _).mp le_rfl
    rw [Nat.add_mul, Nat.mul_assoc, Nat.one_mul] at hlt
    exact hlt.le

/-- As fractions, the two are within one half. -/
theorem divHalfUp_le_div (n : ℕ) {d : ℕ} (hd : 0 < d) : (divHalfUp n d : ℚ) ≤ n / d + 1 / 2 := by
  have hle : (2 * (divHalfUp n d * d) : ℚ) ≤ 2 * n + d := by
    exact_mod_cast (divHalfUp_within n hd).1
  have hpos : (0 : ℚ) < d := by exact_mod_cast hd
  rw [div_add_div _ _ hpos.ne' two_ne_zero, le_div_iff₀ (by positivity)]
  linarith

@[inherit_doc divHalfUp_le_div]
theorem div_le_divHalfUp (n : ℕ) {d : ℕ} (hd : 0 < d) : (n / d : ℚ) ≤ divHalfUp n d + 1 / 2 := by
  have hle : (2 * n : ℚ) ≤ 2 * (divHalfUp n d * d) + d := by
    exact_mod_cast (divHalfUp_within n hd).2
  have hpos : (0 : ℚ) < d := by exact_mod_cast hd
  rw [div_le_iff₀ hpos]
  linarith

/-! ## Order -/

theorem divHalfUp_mono {n m : ℕ} (h : n ≤ m) (d : ℕ) : divHalfUp n d ≤ divHalfUp m d :=
  Nat.div_le_div_right (Nat.add_le_add_right h _)

/-- A larger divisor leaves a smaller quotient. -/
theorem divHalfUp_anti (n : ℕ) {d d' : ℕ} (hd : 0 < d) (h : d ≤ d') :
    divHalfUp n d' ≤ divHalfUp n d := by
  rw [divHalfUp_le_iff (hd.trans_le h)]
  calc 2 * n < (2 * divHalfUp n d + 1) * d := (divHalfUp_le_iff hd _).mp le_rfl
    _ ≤ (2 * divHalfUp n d + 1) * d' := Nat.mul_le_mul_left _ h

/-- The larger of two quotients is rounded to the larger number. -/
theorem divHalfUp_cross_mono {n d n' d' : ℕ} (hd : 0 < d) (hd' : 0 < d')
    (h : n * d' ≤ n' * d) : divHalfUp n d ≤ divHalfUp n' d' := by
  rw [divHalfUp_le_iff hd]
  have hbelow : 2 * n' < (2 * divHalfUp n' d' + 1) * d' := (divHalfUp_le_iff hd' _).mp le_rfl
  generalize 2 * divHalfUp n' d' + 1 = q at hbelow ⊢
  apply Nat.lt_of_mul_lt_mul_right (a := d')
  calc 2 * n * d' = 2 * (n * d') := by ring
    _ ≤ 2 * (n' * d) := Nat.mul_le_mul_left 2 h
    _ = 2 * n' * d := by ring
    _ < q * d' * d := Nat.mul_lt_mul_of_pos_right hbelow hd
    _ = q * d * d' := by ring

/-- A whole number of divisors is not rounded at all. -/
@[simp] theorem divHalfUp_mul_self (q : ℕ) {d : ℕ} (hd : 0 < d) : divHalfUp (q * d) d = q :=
  divHalfUp_eq_of_bounds (Nat.le_add_right _ _) (by omega)

@[simp] theorem divHalfUp_zero (d : ℕ) : divHalfUp 0 d = 0 := by
  rcases Nat.eq_zero_or_pos d with rfl | hd
  · simp [divHalfUp]
  · simpa using divHalfUp_mul_self 0 hd

/-- From half a divisor on, something is left. -/
theorem divHalfUp_pos_iff {n d : ℕ} (hd : 0 < d) : 0 < divHalfUp n d ↔ d ≤ 2 * n := by
  have hone := le_divHalfUp_iff hd 1 (n := n)
  omega

theorem divHalfUp_le_self (n : ℕ) {d : ℕ} (hd : 0 < d) : divHalfUp n d ≤ n := by
  rw [divHalfUp_le_iff hd]
  calc 2 * n < (2 * n + 1) * 1 := by omega
    _ ≤ (2 * n + 1) * d := Nat.mul_le_mul_left _ hd

/-- Dividing by two units is halving, up. -/
theorem divHalfUp_two_units (n : ℕ) {u : ℕ} (hu : 0 < u) :
    divHalfUp (n * u) (2 * u) = (n + 1) / 2 := by
  unfold divHalfUp
  rw [Nat.mul_div_cancel_left u (by decide), ← Nat.succ_mul, Nat.succ_eq_add_one,
    Nat.mul_div_mul_right _ _ hu]

/-- A growth factor of at least one unit never shrinks a value. -/
theorem le_divHalfUp_mul {c u : ℕ} (hu : 0 < u) (hc : u ≤ c) (a : ℕ) :
    a ≤ divHalfUp (c * a) u := by
  calc a = divHalfUp (a * u) u := (divHalfUp_mul_self a hu).symm
    _ ≤ divHalfUp (c * a) u := divHalfUp_mono (by rw [Nat.mul_comm c]; gcongr) u

/-- A factor of at most one unit never grows a value. -/
theorem divHalfUp_mul_le_self {c u : ℕ} (hu : 0 < u) (hc : c ≤ u) (a : ℕ) :
    divHalfUp (a * c) u ≤ a := by
  calc divHalfUp (a * c) u ≤ divHalfUp (a * u) u := divHalfUp_mono (Nat.mul_le_mul_left a hc) u
    _ = a := divHalfUp_mul_self a hu

/-- A whole number of divisors passes through the rounding. -/
theorem divHalfUp_mul_add (q n : ℕ) {d : ℕ} (hd : 0 < d) :
    divHalfUp (d * q + n) d = q + divHalfUp n d := by
  unfold divHalfUp
  rw [Nat.add_assoc, Nat.mul_add_div hd]

/-- A growth factor above one unit by at least one part in `u` strictly grows every
value of at least one unit: the growth is `k * a / u ≥ 1`, which no rounding hides. -/
theorem lt_divHalfUp_mul_of_lt {c u a : ℕ} (hu : 0 < u) (hc : u < c) (ha : u ≤ a) :
    a < divHalfUp (c * a) u := by
  have hgrow : (a + 1) * u ≤ c * a := by nlinarith
  calc a + 1 = divHalfUp ((a + 1) * u) u := (divHalfUp_mul_self _ hu).symm
    _ ≤ divHalfUp (c * a) u := divHalfUp_mono hgrow u

/-! ## Scaling by an index

A ledger that stores `s` and reads `s * i / u` off an index `i` of at least one
unit loses nothing: unscaling the reading gives `s` back. -/

/-- The reading of `s` at index `i`, scaled back up, is within half a unit of `s * i`. -/
theorem scale_bounds (s i : ℕ) {u : ℕ} (hu : 0 < u) :
    divHalfUp (s * i) u * u ≤ s * i + u / 2 ∧ s * i + u / 2 < divHalfUp (s * i) u * u + u :=
  ⟨divHalfUp_mul_le _ _, lt_divHalfUp_mul _ hu⟩

/-- **Scaling round trip.** For every index of at least one unit, unscaling what
scaling produced gives the original back. The half-unit error of the first rounding is
at most half an index, which the second rounding absorbs; at an even unit and an index of
exactly one unit the two halves would add up to a whole, and there the first rounding is
exact. -/
theorem divHalfUp_scale_unscale (s : ℕ) {i u : ℕ} (hu : 0 < u) (hi : u ≤ i) :
    divHalfUp (divHalfUp (s * i) u * u) i = s := by
  -- at `i = u` nothing is rounded; above it the two halves stay below one whole
  rcases Nat.eq_or_lt_of_le hi with rfl | hlt
  · rw [divHalfUp_mul_self s hu, divHalfUp_mul_self s hu]
  · obtain ⟨hle, hge⟩ := scale_bounds s i hu
    exact divHalfUp_eq_of_bounds (by omega) (by omega)

/-- **The other way round** the two errors add up: half an index of the first rounding, brought up
to half an index in units, and half a unit of the second. -/
theorem abs_unscale_scale (a : ℕ) {i u : ℕ} (hi : 0 < i) (hu : 0 < u) :
    |(divHalfUp (divHalfUp (a * u) i * i) u : ℚ) - a| ≤ (i : ℚ) / (2 * u) + 1 / 2 := by
  obtain ⟨hle, hge⟩ := divHalfUp_within (a * u) hi
  obtain ⟨hle', hge'⟩ := divHalfUp_within (divHalfUp (a * u) i * i) hu
  generalize divHalfUp (divHalfUp (a * u) i * i) u = b at hle' hge'
  -- in parts of a unit, and twice over, so that no half is left
  have habove : 2 * (b * u) ≤ 2 * (a * u) + (i + u) := by omega
  have hbelow : 2 * (a * u) ≤ 2 * (b * u) + (i + u) := by omega
  have habove' : (2 * (b * u) : ℚ) ≤ 2 * (a * u) + (i + u) := by exact_mod_cast habove
  have hbelow' : (2 * (a * u) : ℚ) ≤ 2 * (b * u) + (i + u) := by exact_mod_cast hbelow
  have hpos : (0 : ℚ) < 2 * u := by positivity
  have hsum : (i : ℚ) / (2 * u) + 1 / 2 = (i + u) / (2 * u) := by field_simp
  rw [hsum, abs_le, le_div_iff₀ hpos, neg_le, le_div_iff₀ hpos]
  constructor
  · linarith
  · linarith

/-- Whoever can read an amount has what it scales down to. -/
theorem unscale_le {a s i u : ℕ} (hu : 0 < u) (hi : u ≤ i) (ha : a ≤ divHalfUp (s * i) u) :
    divHalfUp (a * u) i ≤ s := by
  calc divHalfUp (a * u) i
      ≤ divHalfUp (divHalfUp (s * i) u * u) i := divHalfUp_mono (Nat.mul_le_mul_right u ha) i
    _ = s := divHalfUp_scale_unscale s hu hi

/-! ## Exchanging at a price

An amount `a` is exchanged for shares at a price `p` of a share, rounded half up, and the shares
are exchanged back, rounded down. Whether the amount comes back depends on the remainder of the
first division: below half a price the shares fall short, above it they are too many. -/

/-- The rounded quotient and the remainder make up the numerator, and a divisor more when it was
rounded up. -/
theorem divHalfUp_mul_add_mod (n : ℕ) {d : ℕ} (hd : 0 < d) :
    divHalfUp n d * d + n % d = n + if 2 * (n % d) < d then 0 else d := by
  have hmod := Nat.mod_lt n hd
  have hdiv : d * (n / d) + n % d = n := Nat.div_add_mod n d
  split
  · have hq : divHalfUp n d = n / d := by
      refine divHalfUp_eq_of_bounds ?_ ?_ <;> rw [Nat.mul_comm] <;> omega
    rw [hq, Nat.mul_comm]
    omega
  · have hq : divHalfUp n d = n / d + 1 := by
      refine divHalfUp_eq_of_bounds ?_ ?_ <;> rw [Nat.add_mul, Nat.mul_comm] <;> omega
    rw [hq, Nat.add_mul, Nat.mul_comm]
    omega

/-- What rounding half up adds to the numerator: negative where the quotient is rounded down. -/
def gain (n d : ℕ) : ℤ := if 2 * (n % d) < d then -(n % d : ℕ) else d - (n % d : ℕ)

/-- **The gain** makes the rounded quotient exact. -/
theorem divHalfUp_mul_eq (n : ℕ) {d : ℕ} (hd : 0 < d) :
    ((divHalfUp n d * d : ℕ) : ℤ) = n + gain n d := by
  have hround := divHalfUp_mul_add_mod n hd
  unfold gain
  split at hround <;> rename_i hhalf
  · rw [if_pos hhalf]
    omega
  · rw [if_neg hhalf]
    omega

/-- **Down and up again.** A value is taken at a share of `d` parts in `u` and brought back up. What
comes back exceeds the value by what the gain of the first rounding comes to in full. -/
theorem divHalfUp_share_back (s : ℕ) {d u : ℕ} (hd : 0 < d) (hu : 0 < u) :
    divHalfUp (divHalfUp (d * s) u * u) d ≤ s + divHalfUp (gain (d * s) u).toNat d ∧
      (0 ≤ gain (d * s) u →
        divHalfUp (divHalfUp (d * s) u * u) d = s + divHalfUp (gain (d * s) u).toNat d) := by
  have hexact := divHalfUp_mul_eq (d * s) hu
  constructor
  · rw [← divHalfUp_mul_add s _ hd]
    apply divHalfUp_mono
    omega
  · intro hnonneg
    rw [← divHalfUp_mul_add s _ hd]
    apply congrArg (fun n => divHalfUp n d)
    omega

/-- What comes back exceeds the value by at most one unit. -/
theorem divHalfUp_share_back_le (s : ℕ) {d u : ℕ} (hd : 0 < d) (hu : 0 < u) :
    divHalfUp (divHalfUp (d * s) u * u) d ≤ s + u := by
  have hback := (divHalfUp_share_back s hd hu).1
  have hgain : (gain (d * s) u).toNat ≤ u := by
    unfold gain
    split <;> omega
  have hself := divHalfUp_le_self (gain (d * s) u).toNat hd
  omega

/-- The shares bought are worth the amount at least when it was rounded up, or not at all. -/
theorem le_worth_iff {a p u : ℕ} (hp : 0 < p) (hu : 0 < u) :
    a ≤ divHalfUp (a * u) p * p / u ↔ a * u % p = 0 ∨ p ≤ 2 * (a * u % p) := by
  have hshares := divHalfUp_mul_add_mod (a * u) hp
  have hmod := Nat.mod_lt (a * u) hp
  rw [Nat.le_div_iff_mul_le hu]
  split at hshares <;> omega

/-- **Handing an amount on.** An amount is scaled down and added to what is there; the amount can be
read off the sum unless nothing was there and the division left a remainder below half an index
but above half a unit. -/
theorem le_reading_iff {a g i u : ℕ} (hu : 0 < u) (hi : u ≤ i) :
    a ≤ divHalfUp ((g + divHalfUp (a * u) i) * i) u ↔
      g ≠ 0 ∨ 2 * (a * u % i) ≤ u ∨ i ≤ 2 * (a * u % i) := by
  have hscaled := divHalfUp_mul_add_mod (a * u) (hu.trans_le hi)
  have hexpand : (g + divHalfUp (a * u) i) * i = g * i + divHalfUp (a * u) i * i := by ring
  have hmod := Nat.mod_lt (a * u) (hu.trans_le hi)
  rw [le_divHalfUp_iff hu, hexpand]
  rcases Nat.eq_zero_or_pos g with rfl | hg
  · rw [Nat.zero_mul]
    split at hscaled <;> omega
  · have hone : i ≤ g * i := Nat.le_mul_of_pos_left i hg
    split at hscaled <;> omega

/-- What can be read is such an amount as a whole. -/
theorem reading_hands_on (s : ℕ) {i u : ℕ} (hu : 0 < u) (hi : u ≤ i) :
    2 * (divHalfUp (s * i) u * u % i) ≤ u ∨ i ≤ 2 * (divHalfUp (s * i) u * u % i) := by
  have hread : divHalfUp (s * i) u
      ≤ divHalfUp ((0 + divHalfUp (divHalfUp (s * i) u * u) i) * i) u := by
    rw [divHalfUp_scale_unscale s hu hi, Nat.zero_add]
  exact ((le_reading_iff hu hi).mp hread).resolve_left fun h => h rfl

/-- They are worth just the amount when what it was rounded up by is less than one part. -/
theorem worth_eq_iff {a p u : ℕ} (hp : 0 < p) (hu : 0 < u) :
    divHalfUp (a * u) p * p / u = a ↔
      a * u % p = 0 ∨ p ≤ 2 * (a * u % p) ∧ p - a * u % p < u := by
  have hshares := divHalfUp_mul_add_mod (a * u) hp
  have hmod := Nat.mod_lt (a * u) hp
  have hle := Nat.le_div_iff_mul_le hu (x := a) (y := divHalfUp (a * u) p * p)
  have hlt := Nat.div_lt_iff_lt_mul hu (x := divHalfUp (a * u) p * p) (y := a + 1)
  rw [Nat.add_mul, Nat.one_mul] at hlt
  split at hshares <;> omega

end FixedPoint
