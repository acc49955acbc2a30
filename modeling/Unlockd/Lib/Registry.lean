/-
Registries: tables of records with an index of the live ones.

A registry hands out a fresh identifier for each record it opens and never forgets a
record. Some records are *live*; each live record is found under its key, and a key
holds at most one. A registry is `Coherent` when its index says exactly that.

Every change a component makes to a registry is one `Move`: it leaves it alone, it
opens a record under a free key, or it rewrites the record a key holds, which either stays
live under the same key or is closed for good. A move is described by the record it
takes out of the books and the one it puts in, so that whatever total is kept beside the
registry stays right as soon as it moves by the difference of the two (`Move.keeps`), and
whatever funds back it still do when they move by at least as much (`Move.covers`).
-/
import Mathlib.Algebra.GroupWithZero.Nat
import Unlockd.Lib.Tally

set_option autoImplicit false

/-- Records by identifier, the identifiers handed out, and the index of live records:
`0` is no identifier. -/
structure Registry (K R : Type*) where
  ids : Finset ℕ
  records : ℕ → R
  index : K → ℕ

namespace Registry

open Tally

variable {K R : Type*}

/-- The record a key holds. -/
def held (reg : Registry K R) (k : K) : Option R :=
  if reg.index k = 0 then none else some (reg.records (reg.index k))

/-- The total of a weight over all records ever opened. -/
def total {M : Type*} [AddCommMonoid M] (reg : Registry K R) (weight : R → M) : M :=
  tally reg.ids weight reg.records

/-- Without records there is nothing to weigh. -/
theorem total_eq_zero {M : Type*} [AddCommMonoid M] {reg : Registry K R} (h : reg.ids = ∅)
    (weight : R → M) : reg.total weight = 0 := by
  rw [total, tally, h, Finset.sum_empty]

/-- The weight of a record that may be absent. -/
def weigh {M : Type*} [Zero M] (weight : R → M) (r : Option R) : M := r.elim 0 weight

@[simp] theorem weigh_none {M : Type*} [Zero M] (weight : R → M) : weigh weight none = 0 := rfl

@[simp] theorem weigh_some {M : Type*} [Zero M] (weight : R → M) (r : R) :
    weigh weight (some r) = weight r := rfl

theorem held_eq_some {reg : Registry K R} {k : K} {r : R} :
    reg.held k = some r ↔ reg.index k ≠ 0 ∧ reg.records (reg.index k) = r := by
  unfold held
  split <;> simp [*]

theorem held_eq_none {reg : Registry K R} {k : K} : reg.held k = none ↔ reg.index k = 0 := by
  unfold held
  split <;> simp [*]

/-! ## Coherence -/

/-- The index finds a record under a key exactly when the record is live and has that key. -/
structure Coherent (live : R → Prop) (key : R → K) (reg : Registry K R) : Prop where
  zero_notMem : 0 ∉ reg.ids
  index_iff : ∀ k id, id ≠ 0 →
    (reg.index k = id ↔ id ∈ reg.ids ∧ live (reg.records id) ∧ key (reg.records id) = k)

section Coherent

variable {live : R → Prop} {key : R → K} {reg : Registry K R}

theorem Coherent.mem (h : Coherent live key reg) {k : K} (hk : reg.index k ≠ 0) :
    reg.index k ∈ reg.ids :=
  ((h.index_iff k _ hk).mp rfl).1

/-- The record a key holds is live and has that key. -/
theorem Coherent.held_live (h : Coherent live key reg) {k : K} {r : R}
    (hr : reg.held k = some r) : live r ∧ key r = k := by
  obtain ⟨hk, rfl⟩ := held_eq_some.mp hr
  exact ((h.index_iff k _ hk).mp rfl).2

/-- A live record is the one its key holds. -/
theorem Coherent.held_of_live (h : Coherent live key reg) {id : ℕ} (hid : id ∈ reg.ids)
    (hl : live (reg.records id)) : reg.held (key (reg.records id)) = some (reg.records id) := by
  have hne : id ≠ 0 := by rintro rfl; exact h.zero_notMem hid
  have hix : reg.index (key (reg.records id)) = id := (h.index_iff _ id hne).mpr ⟨hid, hl, rfl⟩
  exact held_eq_some.mpr ⟨by rw [hix]; exact hne, by rw [hix]⟩

/-- One held record weighs at most the total. -/
theorem Coherent.weight_le {M : Type*} [AddCommMonoid M] [PartialOrder M] [CanonicallyOrderedAdd M]
    [IsOrderedAddMonoid M] (h : Coherent live key reg) (weight : R → M) {k : K} {r : R}
    (hr : reg.held k = some r) : weight r ≤ reg.total weight := by
  obtain ⟨hk, rfl⟩ := held_eq_some.mp hr
  exact weight_le_tally weight reg.records (h.mem hk)

end Coherent

/-! ## Moves -/

section Move

variable [DecidableEq K] (live : R → Prop) [DecidablePred live] (key : R → K)

/-- One change of a registry, with the record it takes out of the books and the record it
puts in. -/
inductive Move (reg reg' : Registry K R) : Option R → Option R → Prop
  | idle : reg' = reg → Move reg reg' none none
  | enter {id : ℕ} {r : R} : id ≠ 0 → id ∉ reg.ids → reg.index (key r) = 0 → live r →
      reg' = ⟨insert id reg.ids, Function.update reg.records id r,
        Function.update reg.index (key r) id⟩ →
      Move reg reg' none (some r)
  | rewrite {r₀ r : R} : reg.held (key r) = some r₀ →
      reg' = ⟨reg.ids, Function.update reg.records (reg.index (key r)) r,
        Function.update reg.index (key r) (if live r then reg.index (key r) else 0)⟩ →
      Move reg reg' (some r₀) (some r)

variable {live key} {reg reg' : Registry K R} {old new : Option R}

/-- What a key holds before the move that rewrites it is the record taken out. -/
theorem Move.held_old (m : Move live key reg reg' old new) {r : R} (hr : new = some r) :
    reg.held (key r) = old := by
  cases m with
  | idle => exact absurd hr (by simp)
  | enter _ _ hfree => obtain rfl := Option.some.inj hr; exact held_eq_none.mpr hfree
  | rewrite hheld => obtain rfl := Option.some.inj hr; exact hheld

/-- A move changes what one key holds: the new record if it is live, nothing if it is not. -/
theorem Move.held_new (m : Move live key reg reg' old new) (h : Coherent live key reg) (k : K) :
    reg'.held k = new.elim (reg.held k)
      fun r => if key r = k then (if live r then some r else none) else reg.held k := by
  cases m with
  | idle he => subst he; rfl
  | @enter id r hid hfresh hfree hl he =>
      subst he
      -- the identifier is fresh, so no other key points at it
      by_cases hk : key r = k
      · subst hk; simp [held, hl, hid]
      · have hne : reg.index k ≠ 0 → reg.index k ≠ id := fun h0 heq => hfresh (heq ▸ h.mem h0)
        simp only [held, Function.update_of_ne (Ne.symm hk), Option.elim, hk, if_false]
        split
        · rfl
        · rw [Function.update_of_ne (hne ‹_›)]
  | @rewrite r₀ r hheld he =>
      subst he
      -- the rewritten record has the key `key r`, so no other key points at it
      obtain ⟨hix, hrec⟩ := held_eq_some.mp hheld
      by_cases hk : key r = k
      · subst hk
        by_cases hl : live r <;> simp [held, hl, hix]
      · have hne : reg.index k ≠ reg.index (key r) := by
          intro heq
          have hkey := ((h.index_iff (key r) _ hix).mp rfl).2.2
          exact hk (hkey.symm.trans ((h.index_iff k _ hix).mp heq).2.2)
        simp [held, hk, Function.update_of_ne (Ne.symm hk), Function.update_of_ne hne]

/-- **Coherence is an invariant of moves.** -/
theorem Move.coherent (m : Move live key reg reg' old new) (h : Coherent live key reg) :
    Coherent live key reg' := by
  cases m with
  | idle he => subst he; exact h
  | @enter id r hid hfresh hfree hl he =>
      subst he
      refine ⟨by simp [h.zero_notMem, hid.symm], fun k j hj => ?_⟩
      -- for the fresh identifier only its own key counts, for the others nothing has changed
      by_cases hji : j = id
      · subst hji
        by_cases hk : k = key r
        · subst hk; simp [hl]
        · have hno : reg.index k ≠ j := fun heq => hfresh (((h.index_iff k j hj).mp heq).1)
          simp [Function.update_of_ne hk, hno, Ne.symm hk]
      · by_cases hk : k = key r
        · subst hk
          have hno := (h.index_iff (key r) j hj).not.mp (by rw [hfree]; exact Ne.symm hj)
          simpa [Function.update_of_ne hji, hji, Ne.symm hji] using hno
        · simpa [Function.update_of_ne hk, Function.update_of_ne hji, hji] using h.index_iff k j hj
  | @rewrite r₀ r hheld he =>
      subst he
      obtain ⟨hix, hrec⟩ := held_eq_some.mp hheld
      have hold := (h.index_iff (key r) _ hix).mp rfl
      refine ⟨h.zero_notMem, fun k j hj => ?_⟩
      -- under the key itself the new record decides, and under others the rewritten one never was
      by_cases hk : k = key r
      · subst hk
        by_cases hji : j = reg.index (key r)
        · subst hji
          by_cases hl : live r <;> simp [hl, hold.1, hix.symm]
        · have hno := (h.index_iff (key r) j hj).not.mp (Ne.symm hji)
          simp only [Function.update_self, Function.update_of_ne hji]
          refine ⟨fun heq => ?_, fun hr => absurd hr hno⟩
          split at heq
          · exact absurd heq.symm hji
          · exact absurd heq.symm hj
      · by_cases hji : j = reg.index (key r)
        · subst hji
          have hno : reg.index k ≠ reg.index (key r) := fun heq =>
            hk (((h.index_iff k _ hix).mp heq).2.2.symm.trans hold.2.2)
          simp [Function.update_of_ne hk, hno, Ne.symm hk]
        · simpa [Function.update_of_ne hk, Function.update_of_ne hji] using h.index_iff k j hj

/-- A record that is no longer live is never changed again. -/
theorem Move.closed (m : Move live key reg reg' old new) (h : Coherent live key reg) {id : ℕ}
    (hid : id ∈ reg.ids) (hc : ¬ live (reg.records id)) :
    id ∈ reg'.ids ∧ reg'.records id = reg.records id := by
  cases m with
  | idle he => subst he; exact ⟨hid, rfl⟩
  | @enter j r _ hfresh _ _ he =>
      subst he
      have hne : id ≠ j := by rintro rfl; exact hfresh hid
      exact ⟨Finset.mem_insert_of_mem hid, Function.update_of_ne hne _ _⟩
  | @rewrite r₀ r hheld he =>
      subst he
      obtain ⟨hix, -⟩ := held_eq_some.mp hheld
      have hne : id ≠ reg.index (key r) := by
        rintro rfl; exact hc ((h.index_iff _ _ hix).mp rfl).2.1
      exact ⟨hid, Function.update_of_ne hne _ _⟩

/-- A live record that a move changes is the record taken out, and what it becomes is the
record put in. -/
theorem Move.changed (m : Move live key reg reg' old new) (h : Coherent live key reg) {id : ℕ}
    (hid : id ∈ reg.ids) (hl : live (reg.records id)) (hne : reg'.records id ≠ reg.records id) :
    old = some (reg.records id) ∧ new = some (reg'.records id) := by
  cases m with
  | idle he => subst he; exact absurd rfl hne
  | @enter j r _ hfresh _ _ he =>
      subst he
      have hij : id ≠ j := by rintro rfl; exact hfresh hid
      exact absurd (Function.update_of_ne hij _ _) hne
  | @rewrite r₀ r hheld he =>
      subst he
      obtain ⟨-, rfl⟩ := held_eq_some.mp hheld
      by_cases hij : id = reg.index (key r)
      · subst hij
        exact ⟨rfl, congrArg some (by simp only [Function.update_self])⟩
      · exact absurd (Function.update_of_ne hij _ _) hne

/-! ## Books kept beside a registry -/

/-- A move changes a total by the difference of the weights of the two records. -/
theorem Move.total_add {M : Type*} [AddCommMonoid M] (m : Move live key reg reg' old new)
    (h : Coherent live key reg) (weight : R → M) :
    reg'.total weight + weigh weight old = reg.total weight + weigh weight new := by
  cases m with
  | idle he => subst he; rfl
  | enter _ hfresh _ _ he =>
      subst he
      simp only [total, weigh_none, weigh_some, add_zero, tally_insert weight reg.records hfresh]
      exact add_comm _ _
  | rewrite hheld he =>
      subst he
      obtain ⟨hix, rfl⟩ := held_eq_some.mp hheld
      exact tally_update weight reg.records (h.mem hix) _

/-- **Double entry.** A balance that equals a total of the registry still does after a move,
as soon as it moves by the difference of the weights. -/
theorem Move.keeps {M : Type*} [AddCancelCommMonoid M] (m : Move live key reg reg' old new)
    (h : Coherent live key reg) {weight : R → M} {balance balance' : M}
    (hb : balance = reg.total weight)
    (hm : balance' + weigh weight old = balance + weigh weight new) :
    balance' = reg'.total weight := by
  refine add_right_cancel (b := weigh weight old) ?_
  rw [hm, hb, m.total_add h]

/-- **Solvency.** Funds that cover a total of the registry still do after a move that pays
out at most what the records release. -/
theorem Move.covers {M : Type*} [AddCommMonoid M] [PartialOrder M] [IsOrderedCancelAddMonoid M]
    (m : Move live key reg reg' old new) (h : Coherent live key reg) {weight : R → M}
    {funds funds' : M} (hf : reg.total weight ≤ funds)
    (hm : funds + weigh weight new ≤ funds' + weigh weight old) :
    reg'.total weight ≤ funds' := by
  refine le_of_add_le_add_right (a := weigh weight old) ?_
  calc reg'.total weight + weigh weight old = reg.total weight + weigh weight new :=
    m.total_add h weight
    _ ≤ funds + weigh weight new := by gcongr
    _ ≤ funds' + weigh weight old := hm

/-- **Surplus.** Funds that move by no less than what the records release leave no smaller
surplus over the total. -/
theorem Move.surplus_le (m : Move live key reg reg' old new) (h : Coherent live key reg)
    {weight : R → ℕ} {funds funds' : ℕ}
    (hm : funds + weigh weight new ≤ funds' + weigh weight old) :
    funds - reg.total weight ≤ funds' - reg'.total weight := by
  have htotal := m.total_add h weight
  omega

end Move

end Registry
