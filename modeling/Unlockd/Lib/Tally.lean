/-
Tallies over a table of records.

A table is a function from keys to records together with the finite set of keys
in use. A *tally* is the sum of a weight over those records: the number of records of
a kind, or the total of a field. A component that keeps a running total of a table has
to move it by the difference of the weights whenever it rewrites one record; the
lemmas here say exactly that, so that keeping a total in step with its table is one
equation for each rewrite.
-/
import Mathlib.Algebra.BigOperators.Group.Finset.Piecewise
import Mathlib.Algebra.Order.BigOperators.Group.Finset

set_option autoImplicit false

namespace Tally

variable {ι α M : Type*}

/-- The sum of `weight` over the records in use. -/
def tally [AddCommMonoid M] (ids : Finset ι) (weight : α → M) (table : ι → α) : M :=
  ∑ i ∈ ids, weight (table i)

section Sum

variable [DecidableEq ι] [AddCommMonoid M] {ids : Finset ι} (weight : α → M) (table : ι → α)

/-- Rewriting a record that is not in use changes no tally. -/
theorem tally_update_of_notMem {i : ι} (hi : i ∉ ids) (x : α) :
    tally ids weight (Function.update table i x) = tally ids weight table := by
  unfold tally
  refine Finset.sum_congr rfl fun j hj => ?_
  rw [Function.update_of_ne (by rintro rfl; exact hi hj)]

/-- Taking a fresh key into use adds the weight of its record. -/
theorem tally_insert {i : ι} (hi : i ∉ ids) (x : α) :
    tally (insert i ids) weight (Function.update table i x) = weight x
      + tally ids weight table := by
  rw [tally, Finset.sum_insert hi, Function.update_self]
  exact congrArg (weight x + ·) (tally_update_of_notMem weight table hi x)

/-- Rewriting a record in use moves the tally by the difference of the two weights,
stated without subtraction. -/
theorem tally_update {i : ι} (hi : i ∈ ids) (x : α) :
    tally ids weight (Function.update table i x) + weight (table i)
      = tally ids weight table + weight x := by
  have hsplit : ids = insert i (ids.erase i) := (Finset.insert_erase hi).symm
  have hnew := tally_insert weight table (Finset.notMem_erase i ids) x
  have hold := tally_insert weight table (Finset.notMem_erase i ids) (table i)
  rw [← hsplit] at hnew hold
  rw [Function.update_eq_self] at hold
  rw [hnew, hold]
  ac_rfl

end Sum

/-- The weight of one record in use is at most the tally. -/
theorem weight_le_tally [AddCommMonoid M] [PartialOrder M] [CanonicallyOrderedAdd M]
    [IsOrderedAddMonoid M] {ids : Finset ι} (weight : α → M) (table : ι → α) {i : ι}
    (hi : i ∈ ids) :
    weight (table i) ≤ tally ids weight table :=
  Finset.single_le_sum (f := fun j => weight (table j)) (fun _ _ => zero_le) hi

/-- A tally of a weight that counts the records of a kind is their number. -/
theorem tally_ite_one (ids : Finset ι) (p : α → Prop) [DecidablePred p] (table : ι → α) :
    tally ids (fun a => if p a then 1 else 0) table = (ids.filter fun i => p (table i)).card :=
  (Finset.card_filter _ _).symm

/-- A tally of a weight restricted to the records of a kind is the sum over them. -/
theorem tally_ite [AddCommMonoid M] (ids : Finset ι) (p : α → Prop) [DecidablePred p]
    (weight : α → M) (table : ι → α) :
    tally ids (fun a => if p a then weight a else 0) table
      = ∑ i ∈ ids.filter (fun i => p (table i)), weight (table i) :=
  (Finset.sum_filter _ _).symm

/-! ## Totals kept beside accounts -/

section Covers

variable [DecidableEq ι] {total n : ℕ} {account : ι → ℕ} {i : ι}

/-- A total covers accounts when it is at least the sum of any finitely many. -/
def Covers (total : ℕ) (account : ι → ℕ) : Prop := ∀ S : Finset ι, ∑ i ∈ S, account i ≤ total

omit [DecidableEq ι] in
theorem Covers.le (h : Covers total account) (i : ι) : account i ≤ total := by
  simpa using h {i}

omit [DecidableEq ι] in
theorem Covers.none : Covers 0 fun _ : ι => 0 := fun S => by simp

/-- The sum over accounts, one of them rewritten, within a sum that counts that one. -/
theorem sum_update_le (S : Finset ι) (account : ι → ℕ) (i : ι) (x : ℕ) :
    (∑ j ∈ S, Function.update account i x j) + account i ≤ (∑ j ∈ insert i S, account j) + x := by
  have hmoved : ∑ j ∈ insert i S, Function.update account i x j + account i
      = ∑ j ∈ insert i S, account j + x :=
    tally_update (fun n : ℕ => n) account (Finset.mem_insert_self i S) x
  have hsub : ∑ j ∈ S, Function.update account i x j
      ≤ ∑ j ∈ insert i S, Function.update account i x j :=
    Finset.sum_le_sum_of_subset (Finset.subset_insert i S)
  omega

/-- What is put on an account is added to the total. -/
theorem Covers.credit (h : Covers total account) (i : ι) (n : ℕ) :
    Covers (total + n) (Function.update account i (account i + n)) := by
  intro S
  have hsum := sum_update_le S account i (account i + n)
  have hle := h (insert i S)
  omega

/-- What is taken off an account is taken off the total. -/
theorem Covers.debit (h : Covers total account) (hn : n ≤ account i) :
    Covers (total - n) (Function.update account i (account i - n)) := by
  intro S
  have hsum := sum_update_le S account i (account i - n)
  have hle := h (insert i S)
  omega

end Covers

/-- A credit takes nothing from anybody. -/
theorem le_credit [DecidableEq ι] (account : ι → ℕ) (i : ι) (n : ℕ) (j : ι) :
    account j ≤ Function.update account i (account i + n) j := by
  rw [Function.update_apply]
  split
  · rename_i hj
    rw [hj]
    exact Nat.le_add_right _ _
  · exact le_rfl

/-- What is spent of one allowance is off their sum, over keys that leave out only empty ones. -/
theorem sum_spent_add_le [DecidableEq ι] {S : Finset ι} {allowance : ι → ℕ} {i : ι} {n : ℕ}
    (hn : n ≤ allowance i) (hi : i ∉ S → allowance i = 0) :
    (∑ j ∈ S, Function.update allowance i (allowance i - n) j) + n ≤ ∑ j ∈ S, allowance j := by
  by_cases hiS : i ∈ S
  · have hmoved : ∑ j ∈ S, Function.update allowance i (allowance i - n) j + allowance i
        = ∑ j ∈ S, allowance j + (allowance i - n) :=
      tally_update (fun n : ℕ => n) allowance hiS (allowance i - n)
    omega
  · have hzero : n = 0 := by
      have := hi hiS
      omega
    subst hzero
    rw [Nat.sub_zero, Function.update_eq_self]
    exact le_rfl

section AddsUp

variable {total total' : ℕ} {account : ι → ℕ} {i : ι}

/-- A total adds up accounts when it is their sum: all but finitely many are empty. -/
def AddsUp (total : ℕ) (account : ι → ℕ) : Prop :=
  ∃ S : Finset ι, (∀ i ∉ S, account i = 0) ∧ ∑ i ∈ S, account i = total

theorem AddsUp.none : AddsUp 0 fun _ : ι => 0 := ⟨∅, fun _ _ => rfl, rfl⟩

/-- It is then the sum over any finitely many that leave out none but empty ones. -/
theorem AddsUp.sum_eq (h : AddsUp total account) {S : Finset ι} (hS : ∀ i ∉ S, account i = 0) :
    ∑ i ∈ S, account i = total := by
  classical
  obtain ⟨T, hT, rfl⟩ := h
  have hleft : ∑ i ∈ S, account i = ∑ i ∈ S ∪ T, account i :=
    Finset.sum_subset Finset.subset_union_left fun i _ hi => hS i hi
  have hright : ∑ i ∈ T, account i = ∑ i ∈ S ∪ T, account i :=
    Finset.sum_subset Finset.subset_union_right fun i _ hi => hT i hi
  rw [hleft, hright]

theorem AddsUp.covers (h : AddsUp total account) : Covers total account := by
  classical
  obtain ⟨T, hT, rfl⟩ := h
  intro S
  calc ∑ i ∈ S, account i ≤ ∑ i ∈ S ∪ T, account i :=
        Finset.sum_le_sum_of_subset Finset.subset_union_left
    _ = ∑ i ∈ T, account i :=
        (Finset.sum_subset Finset.subset_union_right fun i _ hi => hT i hi).symm

/-- When one account is rewritten, the total moves by the difference. -/
theorem AddsUp.update [DecidableEq ι] (h : AddsUp total account) {x : ℕ}
    (hx : total' + account i = total + x) : AddsUp total' (Function.update account i x) := by
  obtain ⟨S, hS, rfl⟩ := h
  have hinsert : ∑ j ∈ insert i S, account j = ∑ j ∈ S, account j :=
    AddsUp.sum_eq ⟨S, hS, rfl⟩ fun j hj => hS j fun hjS => hj (Finset.mem_insert_of_mem hjS)
  have hmoved : ∑ j ∈ insert i S, Function.update account i x j + account i
      = ∑ j ∈ insert i S, account j + x :=
    tally_update (fun n : ℕ => n) account (Finset.mem_insert_self i S) x
  refine ⟨insert i S, fun j hj => ?_, by omega⟩
  rw [Function.update_of_ne (by rintro rfl; exact hj (Finset.mem_insert_self _ _))]
  exact hS j fun hjS => hj (Finset.mem_insert_of_mem hjS)

theorem AddsUp.credit [DecidableEq ι] (h : AddsUp total account) (i : ι) (n : ℕ) :
    AddsUp (total + n) (Function.update account i (account i + n)) :=
  h.update (by omega)

theorem AddsUp.debit [DecidableEq ι] (h : AddsUp total account) {n : ℕ} (hn : n ≤ account i) :
    AddsUp (total - n) (Function.update account i (account i - n)) := by
  have hle : account i ≤ total := h.covers.le i
  exact h.update (by omega)

/-- What goes from one account to another, or to itself, leaves the total. -/
theorem AddsUp.moved [DecidableEq ι] (h : AddsUp total account) {n : ℕ} {j : ι}
    (hn : n ≤ account i) :
    AddsUp total (Function.update (Function.update account i (account i - n)) j
      (Function.update account i (account i - n) j + n)) := by
  have hle : n ≤ total := hn.trans (h.covers.le i)
  have hmoved := (h.debit hn).credit j n
  rwa [Nat.sub_add_cancel hle] at hmoved

end AddsUp

end Tally
