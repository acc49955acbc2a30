/-
Cabinets: registries that also count their live records.

A cabinet files its records by key and keeps two counters beside them, one for each group
of records and one for each member and group. Its invariant, `Kept`, is that the index
is coherent and that both counters are the true numbers of live records.

The rules below are one for each thing a component does with a record: file a fresh one
(`Turn.file`), revise one in place (`Turn.revise`), hand one over to another member
(`Turn.handOver`), and close one (`Turn.close`). Each rule asks for the new counters
pointwise and gives a `Turn`, a move that keeps the invariant (`Turn.kept`).
-/
import Unlockd.Lib.Registry

set_option autoImplicit false

/-- A registry with its two counters. -/
structure Cabinet (K G U R : Type*) where
  registry : Registry K R
  perGroup : G → ℕ
  perMember : U → G → ℕ

namespace Cabinet

open Registry

variable {K G U R : Type*}

/-- How records are filed: which are live, and the key, the group and the member of each. -/
structure Filing (K G U R : Type*) where
  live : R → Prop
  [decLive : DecidablePred live]
  key : R → K
  group : R → G
  member : R → U

attribute [instance] Filing.decLive

variable [DecidableEq G] [DecidableEq U]

/-- Counts a live record of a group. -/
def Filing.inGroup (F : Filing K G U R) (g : G) (r : R) : ℕ :=
  if F.live r ∧ F.group r = g then 1 else 0

/-- Counts a live record of a member in a group. -/
def Filing.ofMember (F : Filing K G U R) (u : U) (g : G) (r : R) : ℕ :=
  if F.live r ∧ F.member r = u ∧ F.group r = g then 1 else 0

/-- The index is coherent and the counters are right. -/
structure Kept (F : Filing K G U R) (c : Cabinet K G U R) : Prop where
  coherent : Coherent F.live F.key c.registry
  perGroup_eq : ∀ g, c.perGroup g = c.registry.total (F.inGroup g)
  perMember_eq : ∀ u g, c.perMember u g = c.registry.total (F.ofMember u g)

/-- A cabinet into which nothing has been filed. -/
theorem Kept.blank (F : Filing K G U R) {c : Cabinet K G U R} (hids : c.registry.ids = ∅)
    (hindex : ∀ k, c.registry.index k = 0) (hg : ∀ g, c.perGroup g = 0)
    (hm : ∀ u g, c.perMember u g = 0) : Kept F c where
  coherent := ⟨by simp [hids], fun k id hid => by simp [hids, hindex, Ne.symm hid]⟩
  perGroup_eq g := (hg g).trans (total_eq_zero hids _).symm
  perMember_eq u g := (hm u g).trans (total_eq_zero hids _).symm

section Counters

variable {F : Filing K G U R} {c : Cabinet K G U R} {k : K} {r : R}

/-- The group of a record that is held has a count of at least one. -/
theorem Kept.one_le_perGroup (h : Kept F c) (hr : c.registry.held k = some r) :
    1 ≤ c.perGroup (F.group r) := by
  rw [h.perGroup_eq]
  refine le_trans ?_ (h.coherent.weight_le (F.inGroup (F.group r)) hr)
  simp [Filing.inGroup, (h.coherent.held_live hr).1]

/-- So has its member. -/
theorem Kept.one_le_perMember (h : Kept F c) (hr : c.registry.held k = some r) :
    1 ≤ c.perMember (F.member r) (F.group r) := by
  rw [h.perMember_eq]
  refine le_trans ?_ (h.coherent.weight_le (F.ofMember (F.member r) (F.group r)) hr)
  simp [Filing.ofMember, (h.coherent.held_live hr).1]

/-- The count of a group is the number of its live records. -/
theorem Kept.perGroup_card (h : Kept F c) (g : G) : c.perGroup g =
    (c.registry.ids.filter fun id => F.live (c.registry.records id) ∧
      F.group (c.registry.records id) = g).card := by
  rw [h.perGroup_eq]
  exact Tally.tally_ite_one c.registry.ids (fun r => F.live r ∧ F.group r = g) c.registry.records

/-- The count of a member in a group is the number of its live records there. -/
theorem Kept.perMember_card (h : Kept F c) (u : U) (g : G) : c.perMember u g =
    (c.registry.ids.filter fun id => F.live (c.registry.records id) ∧
      F.member (c.registry.records id) = u ∧ F.group (c.registry.records id) = g).card := by
  rw [h.perMember_eq]
  exact Tally.tally_ite_one c.registry.ids
    (fun r => F.live r ∧ F.member r = u ∧ F.group r = g) c.registry.records

end Counters

variable [DecidableEq K]

/-- A move of the registry on which both counters move by the difference. -/
structure Turn (F : Filing K G U R) (c c' : Cabinet K G U R) (old new : Option R) : Prop where
  move : Move F.live F.key c.registry c'.registry old new
  perGroup : ∀ g, c'.perGroup g + weigh (F.inGroup g) old = c.perGroup g + weigh (F.inGroup g) new
  perMember : ∀ u g, c'.perMember u g + weigh (F.ofMember u g) old
    = c.perMember u g + weigh (F.ofMember u g) new

variable {F : Filing K G U R} {c c' : Cabinet K G U R} {old new : Option R}

/-- **The invariant of a cabinet is kept by every turn.** -/
theorem Turn.kept (t : Turn F c c' old new) (h : Kept F c) : Kept F c' where
  coherent := t.move.coherent h.coherent
  perGroup_eq g := t.move.keeps h.coherent (h.perGroup_eq g) (t.perGroup g)
  perMember_eq u g := t.move.keeps h.coherent (h.perMember_eq u g) (t.perMember u g)

theorem Turn.idle (F : Filing K G U R) (c : Cabinet K G U R) : Turn F c c none none :=
  ⟨.idle rfl, fun _ => rfl, fun _ _ => rfl⟩

/-! ## The four turns -/

/-- Filing a fresh record counts it. -/
theorem Turn.file {id : ℕ} {r : R} (hid : id ≠ 0) (hfresh : id ∉ c.registry.ids)
    (hfree : c.registry.index (F.key r) = 0) (hl : F.live r)
    (hreg : c'.registry = ⟨insert id c.registry.ids, Function.update c.registry.records id r,
      Function.update c.registry.index (F.key r) id⟩)
    (hg : ∀ g, c'.perGroup g = if g = F.group r then c.perGroup g + 1 else c.perGroup g)
    (hm : ∀ u g, c'.perMember u g
      = if u = F.member r ∧ g = F.group r then c.perMember u g + 1 else c.perMember u g) :
    Turn F c c' none (some r) := by
  refine ⟨.enter hid hfresh hfree hl hreg, fun g => ?_, fun u g => ?_⟩
  · rw [hg]
    by_cases h : g = F.group r
    · subst h; simp [Filing.inGroup, hl]
    · simp [Filing.inGroup, h, Ne.symm h]
  · rw [hm]
    by_cases h : u = F.member r ∧ g = F.group r
    · obtain ⟨rfl, rfl⟩ := h; simp [Filing.ofMember, hl]
    · have h' : ¬ (F.member r = u ∧ F.group r = g) := fun hx => h ⟨hx.1.symm, hx.2.symm⟩
      simp [Filing.ofMember, h, h']

section Rewrite

variable {r₀ r : R} (h : Kept F c) (hheld : c.registry.held (F.key r) = some r₀)
include h hheld

/-- Revising a live record in place, in its group and with its member, changes no count. -/
theorem Turn.revise (hl : F.live r) (hgroup : F.group r = F.group r₀)
    (hmember : F.member r = F.member r₀)
    (hreg : c'.registry = ⟨c.registry.ids,
      Function.update c.registry.records (c.registry.index (F.key r)) r, c.registry.index⟩)
    (hg : c'.perGroup = c.perGroup) (hm : c'.perMember = c.perMember) :
    Turn F c c' (some r₀) (some r) := by
  have hl₀ := (h.coherent.held_live hheld).1
  refine ⟨.rewrite hheld ?_, fun g => ?_, fun u g => ?_⟩
  · rw [hreg, if_pos hl, Function.update_eq_self]
  · simp [Filing.inGroup, hl, hl₀, hgroup, hg]
  · simp [Filing.ofMember, hl, hl₀, hgroup, hmember, hm]

/-- Handing a live record over moves its count from the old member to the new one, also when
they are the same. -/
theorem Turn.handOver (hl : F.live r) (hgroup : F.group r = F.group r₀)
    (hreg : c'.registry = ⟨c.registry.ids,
      Function.update c.registry.records (c.registry.index (F.key r)) r, c.registry.index⟩)
    (hg : c'.perGroup = c.perGroup) {taken : U → G → ℕ}
    (ht : ∀ u g, taken u g
      = if u = F.member r₀ ∧ g = F.group r₀ then c.perMember u g - 1 else c.perMember u g)
    (hm : ∀ u g, c'.perMember u g
      = if u = F.member r ∧ g = F.group r₀ then taken u g + 1 else taken u g) :
    Turn F c c' (some r₀) (some r) := by
  have hl₀ := (h.coherent.held_live hheld).1
  have hone := h.one_le_perMember hheld
  refine ⟨.rewrite hheld ?_, fun g => ?_, fun u g => ?_⟩
  · rw [hreg, if_pos hl, Function.update_eq_self]
  · simp [Filing.inGroup, hl, hl₀, hgroup, hg]
  · simp only [weigh_some, Filing.ofMember, hl, hl₀, hgroup, true_and, hm, ht]
    -- in the group of the record the old member loses one and the new one gains one
    by_cases hc : g = F.group r₀
    · subst hc
      by_cases hu : u = F.member r₀ <;> by_cases hv : u = F.member r
      · subst hu; rw [← hv]; simp; omega
      · subst hu; simp [hv, Ne.symm hv]; omega
      · subst hv; simp [hu, Ne.symm hu]
      · simp [hu, hv, Ne.symm hu, Ne.symm hv]
    · simp [hc, Ne.symm hc]

/-- Closing a record takes it off both counts. -/
theorem Turn.close (hc : ¬ F.live r)
    (hreg : c'.registry = ⟨c.registry.ids,
      Function.update c.registry.records (c.registry.index (F.key r)) r,
      Function.update c.registry.index (F.key r) 0⟩)
    (hg : ∀ g, c'.perGroup g = if g = F.group r₀ then c.perGroup g - 1 else c.perGroup g)
    (hm : ∀ u g, c'.perMember u g
      = if u = F.member r₀ ∧ g = F.group r₀ then c.perMember u g - 1 else c.perMember u g) :
    Turn F c c' (some r₀) (some r) := by
  have hl₀ := (h.coherent.held_live hheld).1
  have hgone := h.one_le_perGroup hheld
  have hmone := h.one_le_perMember hheld
  refine ⟨.rewrite hheld (by rw [hreg, if_neg hc]), fun g => ?_, fun u g => ?_⟩
  · rw [hg]
    by_cases hx : g = F.group r₀
    · subst hx; simp [Filing.inGroup, hc, hl₀]; omega
    · simp [Filing.inGroup, hc, hx, Ne.symm hx]
  · rw [hm]
    by_cases hx : u = F.member r₀ ∧ g = F.group r₀
    · obtain ⟨rfl, rfl⟩ := hx; simp [Filing.ofMember, hc, hl₀]; omega
    · have hx' : ¬ (F.member r₀ = u ∧ F.group r₀ = g) := fun hy => hx ⟨hy.1.symm, hy.2.symm⟩
      simp [Filing.ofMember, hc, hx, hx']

end Rewrite

end Cabinet
