/-
Accounts that are kept at an index.

An account stores a scaled amount and is read at an index `i` of at least one unit `u`. What is paid
in is scaled down by the index and added, what is paid out is scaled down and taken off, and no more
is paid out than is read. Each of the three operations rounds half up, so that an operation can be
worth a little more or a little less to the owner of the account than what it moves.

The account keeps a book of this. What is paid out, plus what is left, is what was paid in plus what
the roundings gained (`Run.book`), and no operation gains more than half an index (`Run.le`). At an
index of one unit nothing is rounded. At every larger index something can be gained
(`exists_profit`): some amount scales down with a remainder of just over half an index, because the
remainders are the multiples of the common divisor of unit and index.
-/
import Unlockd.Lib.FixedPoint
import Mathlib.Data.Int.GCD
import Mathlib.Logic.Relation
import Mathlib.Tactic.LinearCombination
import Mathlib.Tactic.Zify

set_option autoImplicit false

namespace ScaledAccount

open FixedPoint

/-- What an account stores, what has been paid in and out, how many operations there were, and what
their roundings have gained. -/
structure Account where
  scaled : ℕ
  deposited : ℕ
  withdrawn : ℕ
  operations : ℕ
  gained : ℤ

/-- An account that nothing has happened to. -/
def Account.opened : Account := ⟨0, 0, 0, 0, 0⟩

namespace Account

variable (u i : ℕ)

/-- Pay an amount in. -/
def deposit (c : Account) (a : ℕ) : Account where
  scaled := c.scaled + divHalfUp (a * u) i
  deposited := c.deposited + a
  withdrawn := c.withdrawn
  operations := c.operations + 1
  gained := c.gained + gain (a * u) i

/-- Pay an amount out. -/
def withdraw (c : Account) (a : ℕ) : Account where
  scaled := c.scaled - divHalfUp (a * u) i
  deposited := c.deposited
  withdrawn := c.withdrawn + a
  operations := c.operations + 1
  gained := c.gained - gain (a * u) i

section Fields

variable {u i} (c : Account) (a : ℕ)

@[simp] theorem deposit_scaled : (c.deposit u i a).scaled = c.scaled + divHalfUp (a * u) i := rfl
@[simp] theorem deposit_deposited : (c.deposit u i a).deposited = c.deposited + a := rfl
@[simp] theorem deposit_withdrawn : (c.deposit u i a).withdrawn = c.withdrawn := rfl
@[simp] theorem deposit_operations : (c.deposit u i a).operations = c.operations + 1 := rfl
@[simp] theorem deposit_gained : (c.deposit u i a).gained = c.gained + gain (a * u) i := rfl
@[simp] theorem withdraw_scaled : (c.withdraw u i a).scaled = c.scaled - divHalfUp (a * u) i := rfl
@[simp] theorem withdraw_deposited : (c.withdraw u i a).deposited = c.deposited := rfl
@[simp] theorem withdraw_withdrawn : (c.withdraw u i a).withdrawn = c.withdrawn + a := rfl
@[simp] theorem withdraw_operations : (c.withdraw u i a).operations = c.operations + 1 := rfl
@[simp] theorem withdraw_gained : (c.withdraw u i a).gained = c.gained - gain (a * u) i := rfl

end Fields

/-- What is read off the account. -/
def balance (c : Account) : ℕ := divHalfUp (c.scaled * i) u

/-- One operation: no more is paid out than can be read. -/
inductive Step : Account → Account → Prop
  | deposit (c : Account) (a : ℕ) : Step c (c.deposit u i a)
  | withdraw (c : Account) (a : ℕ) : a ≤ c.balance u i → Step c (c.withdraw u i a)

/-- Any number of operations. -/
abbrev Run : Account → Account → Prop := Relation.ReflTransGen (Step u i)

end Account

variable {u i : ℕ} {c c' : Account}

/-! ## The book of an account -/

/-- Half an index is the most that is gained or lost. -/
theorem two_mul_gain_le {i : ℕ} (hi : 0 < i) (n : ℕ) :
    2 * gain n i ≤ i ∧ -(i : ℤ) ≤ 2 * gain n i := by
  have hmod := Nat.mod_lt n hi
  unfold gain
  split <;> omega

namespace Account

/-- What was paid in, and what it gained, is what is left and what was paid out. -/
def Booked (u i : ℕ) (c : Account) : Prop :=
  (i * c.scaled + u * c.withdrawn : ℤ) = u * c.deposited + c.gained

/-- The gains are limited by the number of operations. -/
def Limited (i : ℕ) (c : Account) : Prop := 2 * c.gained ≤ i * c.operations

theorem Step.booked (hu : 0 < u) (hi : u ≤ i) (h : Step u i c c') (hc : c.Booked u i) :
    c'.Booked u i := by
  unfold Booked at hc ⊢
  cases h with
  | deposit a =>
    have hexact := divHalfUp_mul_eq (a * u) (hu.trans_le hi)
    rw [deposit_scaled, deposit_withdrawn, deposit_deposited, deposit_gained]
    push_cast at hexact ⊢
    linear_combination hc + hexact
  | withdraw a hread =>
    have hexact := divHalfUp_mul_eq (a * u) (hu.trans_le hi)
    have hcovered : divHalfUp (a * u) i ≤ c.scaled := unscale_le hu hi hread
    rw [withdraw_scaled, withdraw_withdrawn, withdraw_deposited, withdraw_gained,
      Nat.cast_sub hcovered]
    push_cast at hexact ⊢
    linear_combination hc - hexact

theorem Step.limited (hi : 0 < i) (h : Step u i c c') (hc : c.Limited i) : c'.Limited i := by
  unfold Limited at hc ⊢
  cases h with
  | deposit a =>
    have hgain := (two_mul_gain_le hi (a * u)).1
    rw [deposit_gained, deposit_operations]
    push_cast
    linarith
  | withdraw a hread =>
    have hgain := (two_mul_gain_le hi (a * u)).2
    rw [withdraw_gained, withdraw_operations]
    push_cast
    linarith

/-- **The book.** Over every run, what was paid out and what is left is what was paid in and what
the roundings gained. -/
theorem Run.book (hu : 0 < u) (hi : u ≤ i) (h : Run u i .opened c) : c.Booked u i := by
  induction h with
  | refl => simp [Booked, opened]
  | tail _ hstep ih => exact hstep.booked hu hi ih

theorem Run.limited (hi : 0 < i) (h : Run u i .opened c) : c.Limited i := by
  induction h with
  | refl => simp [Limited, opened]
  | tail _ hstep ih => exact hstep.limited hi ih

/-- **The limit.** What is paid out exceeds what is paid in by at most half an index for each
operation, and by less if something is left. -/
theorem Run.le (hu : 0 < u) (hi : u ≤ i) (h : Run u i .opened c) :
    2 * (u * c.withdrawn) + 2 * (i * c.scaled) ≤ 2 * (u * c.deposited) + i * c.operations := by
  have hbook := Run.book hu hi h
  have hlimit := Run.limited (hu.trans_le hi) h
  unfold Booked at hbook
  unfold Limited at hlimit
  zify
  linarith

/-- Where the roundings have gained nothing, no more is paid out than was paid in. -/
theorem Run.fair (hu : 0 < u) (hi : u ≤ i) (h : Run u i .opened c) (hgained : c.gained ≤ 0) :
    c.withdrawn ≤ c.deposited := by
  have hbook := Run.book hu hi h
  unfold Booked at hbook
  have hle : (u * c.withdrawn : ℤ) ≤ u * c.deposited := by
    have hscaled : (0 : ℤ) ≤ i * c.scaled := by positivity
    linarith
  exact Nat.le_of_mul_le_mul_left (by exact_mod_cast hle) hu

/-! ## An index of one unit -/

theorem gain_mul_self (a : ℕ) {u : ℕ} (hu : 0 < u) : gain (a * u) u = 0 := by
  unfold gain
  rw [Nat.mul_mod_left, if_pos (by omega)]
  rfl

/-- At an index of one unit nothing is gained. -/
theorem Run.gained_unit (hu : 0 < u) (h : Run u u .opened c) : c.gained = 0 := by
  induction h with
  | refl => rfl
  | tail _ hstep ih =>
    cases hstep with
    | deposit a => rw [deposit_gained, ih, gain_mul_self a hu, add_zero]
    | withdraw a _ => rw [withdraw_gained, ih, gain_mul_self a hu, sub_zero]

end Account

/-! ## A larger index -/

/-- Some amount scales down with a remainder of at least half an index, but so that it gains half a
unit. -/
theorem exists_remainder (hu : 0 < u) (hi : u < i) :
    ∃ a, i ≤ 2 * (a * u % i) ∧ 2 * (a * u % i) + u ≤ 2 * i := by
  -- the remainders are the multiples of the common divisor; the one in the middle will do
  have hd : 0 < Nat.gcd u i := Nat.gcd_pos_of_pos_left i hu
  have hlt : Nat.gcd u i < i := (Nat.gcd_le_left i hu).trans_lt hi
  obtain ⟨m, -, hm⟩ := Nat.exists_mul_mod_eq_gcd hlt
  obtain ⟨r, hr⟩ := Nat.gcd_dvd_left u i
  obtain ⟨q, hq⟩ := Nat.gcd_dvd_right u i
  generalize Nat.gcd u i = d at *
  have hrq : r < q := Nat.lt_of_mul_lt_mul_left (by rw [← hr, ← hq]; exact hi)
  have hone : 1 < q := Nat.lt_of_mul_lt_mul_left (by rw [← hq, Nat.mul_one]; exact hlt)
  have hmiddle : m * ((q + 1) / 2) * u % i = d * ((q + 1) / 2) := by
    calc m * ((q + 1) / 2) * u % i = u * m * ((q + 1) / 2) % i := by congr 1; ring
      _ = d * ((q + 1) / 2) % i := by rw [← hm, Nat.mod_mul_mod]
      _ = d * ((q + 1) / 2) := Nat.mod_eq_of_lt (by
          rw [hq]
          exact Nat.mul_lt_mul_of_pos_left (by omega) hd)
  refine ⟨m * ((q + 1) / 2), ?_⟩
  rw [hmiddle, hq, hr]
  constructor
  · calc d * q ≤ d * (2 * ((q + 1) / 2)) := Nat.mul_le_mul_left d (by omega)
      _ = 2 * (d * ((q + 1) / 2)) := by ring
  · calc 2 * (d * ((q + 1) / 2)) + d * r = d * (2 * ((q + 1) / 2) + r) := by ring
      _ ≤ d * (2 * q) := Nat.mul_le_mul_left d (by omega)
      _ = 2 * (d * q) := by ring

/-- An amount that gains half a unit reads as more than it is. -/
theorem lt_reading (hu : 0 < u) {a : ℕ} (hi : 0 < i) (hhalf : i ≤ 2 * (a * u % i))
    (hunit : 2 * (a * u % i) + u ≤ 2 * i) : a < divHalfUp (divHalfUp (a * u) i * i) u := by
  have hround := divHalfUp_mul_add_mod (a * u) hi
  rw [if_neg (by omega)] at hround
  have hsucc : (a + 1) * u = a * u + u := Nat.succ_mul a u
  apply Nat.lt_of_succ_le
  rw [le_divHalfUp_iff hu, Nat.succ_eq_add_one, hsucc]
  omega

/-- **A profit.** At every index above one unit there is an amount that, paid in, reads as more. -/
theorem exists_profit (hu : 0 < u) (hi : u < i) :
    ∃ a, a < divHalfUp (divHalfUp (a * u) i * i) u := by
  obtain ⟨a, hhalf, hunit⟩ := exists_remainder hu hi
  exact ⟨a, lt_reading hu (hu.trans hi) hhalf hunit⟩

end ScaledAccount
