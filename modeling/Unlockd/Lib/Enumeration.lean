/-
Lists that enumerate a set.

A program that wants to walk over the keys of a mapping keeps them in a list beside it. The list
is right when it holds every element of the set once and nothing else; which order it holds them
in does not matter. An element is added at the end. It is taken out by writing the last element
over it and dropping the end of the list, which permutes what is left.

Where a list only grows, each element can also be told its place. The place is then what tells
members from others, but for the element at place zero, of which the list itself has to be asked.
-/
import Mathlib.Data.List.Nodup
import Mathlib.Data.Set.Insert
import Mathlib.Logic.Function.Basic

set_option autoImplicit false

namespace Enumeration

variable {α : Type*} {l l' : List α} {S : Set α}

/-- The list holds every element of the set once, and nothing else. -/
structure Enumerates (l : List α) (S : Set α) : Prop where
  nodup : l.Nodup
  mem_iff : ∀ a, a ∈ l ↔ a ∈ S

theorem Enumerates.empty : Enumerates ([] : List α) ∅ :=
  ⟨List.nodup_nil, fun _ => iff_of_false List.not_mem_nil fun h => h⟩

/-- A new element at the end. -/
theorem Enumerates.push (h : Enumerates l S) {a : α} (ha : a ∉ S) :
    Enumerates (l ++ [a]) (insert a S) := by
  constructor
  · apply List.Nodup.append h.nodup (List.nodup_singleton a)
    intro b hb hba
    rw [List.mem_singleton.mp hba] at hb
    exact ha ((h.mem_iff a).mp hb)
  · intro b
    rw [List.mem_append, List.mem_singleton, h.mem_iff, Set.mem_insert_iff]
    exact or_comm

/-- The order does not matter. -/
theorem Enumerates.perm (h : Enumerates l S) (hp : l'.Perm l) : Enumerates l' S := by
  constructor
  · rw [hp.nodup_iff]
    exact h.nodup
  · intro b
    rw [hp.mem_iff]
    exact h.mem_iff b

theorem Enumerates.erase [DecidableEq α] (h : Enumerates l S) (a : α) :
    Enumerates (l.erase a) (S \ {a}) := by
  constructor
  · exact h.nodup.erase a
  · intro b
    rw [h.nodup.mem_erase_iff, h.mem_iff, Set.mem_sdiff, Set.mem_singleton_iff]
    exact and_comm

/-! ## Taking an element out -/

/-- Write the last element over the one at an index, unless it is the last itself, and drop the
end of the list. -/
def swapPop (l : List α) (i : ℕ) : List α :=
  if i ≠ l.length - 1 then
    match l[l.length - 1]? with
    | some last => (l.set i last).dropLast
    | none => l.dropLast
  else l.dropLast

/-- Take the first occurrence of an element out of a list, if there is one. -/
def swapRemove [DecidableEq α] (l : List α) (a : α) : List α :=
  match l.findIdx? (· = a) with
  | some i => swapPop l i
  | none => l

/-- At the index of an element that others follow. -/
theorem swapPop_append (pre rest : List α) (a last : α) :
    swapPop (pre ++ a :: (rest ++ [last])) pre.length = pre ++ last :: rest := by
  have hlen : (pre ++ a :: (rest ++ [last])).length - 1 = pre.length + (rest.length + 1) := by
    rw [List.length_append, List.length_cons, List.length_append, List.length_singleton]
    omega
  have hlast : (pre ++ a :: (rest ++ [last]))[pre.length + (rest.length + 1)]? = some last := by
    rw [List.getElem?_append_right (by omega), Nat.add_sub_cancel_left, List.getElem?_cons_succ,
      List.getElem?_append_right le_rfl, Nat.sub_self, List.getElem?_cons_zero]
  unfold swapPop
  rw [if_pos (by omega), hlen, hlast]
  show (List.set _ _ _).dropLast = _
  rw [List.set_append_right _ _ le_rfl, Nat.sub_self, List.set_cons_zero, ← List.cons_append,
    ← List.append_assoc, List.dropLast_concat]

/-- At the index of the last element. -/
theorem swapPop_concat (pre : List α) (a : α) : swapPop (pre ++ [a]) pre.length = pre := by
  unfold swapPop
  rw [if_neg (by simp), List.dropLast_concat]

/-- **Taking out an element** leaves the others, in some order. -/
theorem swapRemove_perm [DecidableEq α] {a : α} (ha : a ∈ l) :
    (swapRemove l a).Perm (l.erase a) := by
  obtain ⟨pre, rest, rfl, hpre⟩ := List.eq_append_cons_of_mem ha
  have hfind : (pre ++ a :: rest).findIdx? (· = a) = some pre.length := by
    rw [List.findIdx?_append, List.findIdx?_cons]
    have hnone : pre.findIdx? (fun b => decide (b = a)) = none := by
      rw [List.findIdx?_eq_none_iff]
      intro b hb
      exact decide_eq_false fun hba => hpre (hba ▸ hb)
    rw [hnone]
    simp
  unfold swapRemove
  rw [hfind, List.erase_append_right _ hpre, List.erase_cons_head]
  show (swapPop _ _).Perm _
  -- the element is the last one, or another is written over it
  rcases List.eq_nil_or_concat rest with rfl | ⟨mid, last, rfl⟩
  · rw [swapPop_concat, List.append_nil]
  · rw [List.concat_eq_append, swapPop_append]
    exact List.Perm.append_left pre (List.perm_append_singleton last mid).symm

/-- **Taking an element out of an enumeration.** -/
theorem Enumerates.swapRemove [DecidableEq α] (h : Enumerates l S) {a : α} (ha : a ∈ S) :
    Enumerates (swapRemove l a) (S \ {a}) :=
  (h.erase a).perm (swapRemove_perm ((h.mem_iff a).mpr ha))

/-! ## Elements that know their place -/

variable [Zero α] {n : ℕ} {entry : ℕ → α} {index : α → ℕ}

/-- The first `n` entries are the elements of the set, and each element is told its place. What has
not been written is zero, and zero is no element. -/
structure Indexes (n : ℕ) (entry : ℕ → α) (index : α → ℕ) (S : Set α) : Prop where
  mem : ∀ i, i < n → entry i ∈ S
  index_entry : ∀ i, i < n → index (entry i) = i
  exists_entry : ∀ a, a ∈ S → ∃ i, i < n ∧ entry i = a
  entry_outside : ∀ i, n ≤ i → entry i = 0
  index_outside : ∀ a, a ∉ S → index a = 0

theorem Indexes.empty : Indexes 0 (fun _ => (0 : α)) (fun _ => 0) ∅ where
  mem _ h := absurd h (Nat.not_lt_zero _)
  index_entry _ h := absurd h (Nat.not_lt_zero _)
  exists_entry _ h := h.elim
  entry_outside _ _ := rfl
  index_outside _ _ := rfl

/-- No two entries are equal. -/
theorem Indexes.inj (h : Indexes n entry index S) {i j : ℕ} (hi : i < n) (hj : j < n)
    (heq : entry i = entry j) : i = j := by
  rw [← h.index_entry i hi, heq, h.index_entry j hj]

/-- The entries enumerate the set. -/
theorem Indexes.enumerates (h : Indexes n entry index S) :
    Enumerates ((List.range n).map entry) S := by
  constructor
  · apply List.Nodup.map_on _ List.nodup_range
    intro i hi j hj heq
    exact h.inj (List.mem_range.mp hi) (List.mem_range.mp hj) heq
  · intro a
    rw [List.mem_map]
    constructor
    · rintro ⟨i, hi, rfl⟩
      exact h.mem i (List.mem_range.mp hi)
    · intro ha
      obtain ⟨i, hi, heq⟩ := h.exists_entry a ha
      exact ⟨i, List.mem_range.mpr hi, heq⟩

/-- **The test for members.** Its place tells an element from what is none, unless that is place
zero; there the entry has to be looked at. -/
theorem Indexes.mem_iff (h : Indexes n entry index S) {a : α} (ha : a ≠ 0) :
    (index a ≠ 0 ∨ entry 0 = a) ↔ a ∈ S := by
  constructor
  · rintro (hindex | hentry)
    · by_contra hout
      exact hindex (h.index_outside a hout)
    · rcases Nat.eq_zero_or_pos n with hn | hn
      · -- nothing has been written to place zero
        rw [h.entry_outside 0 (by omega)] at hentry
        exact absurd hentry.symm ha
      · rw [← hentry]
        exact h.mem 0 hn
  · intro hmem
    obtain ⟨i, hi, rfl⟩ := h.exists_entry a hmem
    rcases Nat.eq_zero_or_pos i with rfl | hpos
    · exact .inr rfl
    · left
      rw [h.index_entry i hi]
      omega

/-- **A new element** gets the next place. -/
theorem Indexes.push [DecidableEq α] (h : Indexes n entry index S) {a : α} (ha : a ∉ S) :
    Indexes (n + 1) (Function.update entry n a) (Function.update index a n) (insert a S) := by
  have hne : ∀ i, i < n → entry i ≠ a := fun i hi heq => ha (heq ▸ h.mem i hi)
  constructor
  · intro i hi
    rcases Nat.lt_succ_iff_lt_or_eq.mp hi with hlt | rfl
    · rw [Function.update_of_ne (by omega)]
      exact Set.mem_insert_of_mem a (h.mem i hlt)
    · rw [Function.update_self]
      exact Set.mem_insert a S
  · intro i hi
    rcases Nat.lt_succ_iff_lt_or_eq.mp hi with hlt | rfl
    · have hentry : Function.update entry n a i = entry i := Function.update_of_ne (by omega) _ _
      rw [hentry, Function.update_of_ne (hne i hlt), h.index_entry i hlt]
    · rw [Function.update_self, Function.update_self]
  · intro b hb
    rcases Set.mem_insert_iff.mp hb with rfl | hb
    · exact ⟨n, by omega, Function.update_self _ _ _⟩
    · obtain ⟨i, hi, heq⟩ := h.exists_entry b hb
      refine ⟨i, by omega, ?_⟩
      rw [Function.update_of_ne (by omega), heq]
  · intro i hi
    rw [Function.update_of_ne (by omega), h.entry_outside i (by omega)]
  · intro b hb
    have hba : b ≠ a := fun heq => hb (heq ▸ Set.mem_insert a S)
    rw [Function.update_of_ne hba, h.index_outside b fun hmem => hb (Set.mem_insert_of_mem a hmem)]

end Enumeration
