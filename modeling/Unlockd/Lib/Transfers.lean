/-
Lists of transfers, and what they do to balances.

An operation that moves several assets between several holders is described by the list of
its transfers. What it does to a balance depends on the list alone: the sum of what the
holder received goes on, the sum of what it sent comes off. `Booked` says that two tables
of balances differ by just that, so that a sequence of payments is read off as one equation
for every asset and every holder.
-/
import Mathlib.Algebra.Ring.Nat
import Mathlib.Algebra.BigOperators.Group.List.Basic

set_option autoImplicit false

namespace Transfers

variable {K A : Type*}

/-- `amount` of an asset goes from one holder to another. -/
structure Transfer (K A : Type*) where
  asset : K
  src : A
  dst : A
  amount : ℕ

/-- A transfer that is made only in some case. -/
def onlyIf (c : Prop) [Decidable c] (t : Transfer K A) : List (Transfer K A) :=
  if c then [t] else []

@[simp] theorem onlyIf_of {c : Prop} [Decidable c] (hc : c) (t : Transfer K A) :
    onlyIf c t = [t] := if_pos hc

@[simp] theorem onlyIf_of_not {c : Prop} [Decidable c] (hc : ¬ c) (t : Transfer K A) :
    onlyIf c t = [] := if_neg hc

theorem mem_onlyIf {c : Prop} [Decidable c] {t t' : Transfer K A} :
    t' ∈ onlyIf c t ↔ c ∧ t' = t := by
  by_cases hc : c
  · rw [onlyIf_of hc, List.mem_singleton, iff_and_self]
    exact fun _ => hc
  · rw [onlyIf_of_not hc, List.mem_nil_iff, false_iff]
    exact fun h => hc h.1

/-- The same transfers, of assets under other names. -/
def relabel {K' : Type*} (f : K → K') (ts : List (Transfer K A)) : List (Transfer K' A) :=
  ts.map fun t => ⟨f t.asset, t.src, t.dst, t.amount⟩

variable [DecidableEq K] [DecidableEq A]

/-- What a holder sends of an asset. -/
def sent (ts : List (Transfer K A)) (k : K) (a : A) : ℕ :=
  (ts.map fun t => if t.asset = k ∧ t.src = a then t.amount else 0).sum

/-- What a holder receives of an asset. -/
def received (ts : List (Transfer K A)) (k : K) (a : A) : ℕ :=
  (ts.map fun t => if t.asset = k ∧ t.dst = a then t.amount else 0).sum

section Sums

variable (t : Transfer K A) (ts ts' : List (Transfer K A)) (k : K) (a : A)

@[simp] theorem sent_nil : sent ([] : List (Transfer K A)) k a = 0 := rfl

@[simp] theorem received_nil : received ([] : List (Transfer K A)) k a = 0 := rfl

@[simp] theorem sent_cons : sent (t :: ts) k a
    = (if t.asset = k ∧ t.src = a then t.amount else 0) + sent ts k a := by
  simp [sent]

@[simp] theorem received_cons : received (t :: ts) k a
    = (if t.asset = k ∧ t.dst = a then t.amount else 0) + received ts k a := by
  simp [received]

@[simp] theorem sent_append : sent (ts ++ ts') k a = sent ts k a + sent ts' k a := by
  simp [sent]

@[simp] theorem received_append :
    received (ts ++ ts') k a = received ts k a + received ts' k a := by
  simp [received]

/-- Nobody among the senders of a list has sent anything by it. -/
theorem sent_eq_zero {ts : List (Transfer K A)} {a : A} (h : ∀ t ∈ ts, t.src ≠ a) :
    sent ts k a = 0 := by
  induction ts with
  | nil => rfl
  | cons t ts ih =>
    rw [sent_cons, if_neg fun hx => h t List.mem_cons_self hx.2, Nat.zero_add]
    exact ih fun t' ht' => h t' (List.mem_cons_of_mem t ht')

/-- Who is not among the payees of a list has received nothing by it. -/
theorem received_eq_zero {ts : List (Transfer K A)} {a : A} (h : ∀ t ∈ ts, t.dst ≠ a) :
    received ts k a = 0 := by
  induction ts with
  | nil => rfl
  | cons t ts ih =>
    rw [received_cons, if_neg fun hx => h t List.mem_cons_self hx.2, Nat.zero_add]
    exact ih fun t' ht' => h t' (List.mem_cons_of_mem t ht')

/-- A transfer that is left out only when it is of nothing might as well be made. -/
theorem sent_onlyIf {c : Prop} [Decidable c] (t : Transfer K A) (h : ¬ c → t.amount = 0) :
    sent (onlyIf c t) k a = sent [t] k a := by
  by_cases hc : c
  · rw [onlyIf_of hc]
  · rw [onlyIf_of_not hc, sent_cons, h hc, ite_self, sent_nil]

@[inherit_doc sent_onlyIf]
theorem received_onlyIf {c : Prop} [Decidable c] (t : Transfer K A) (h : ¬ c → t.amount = 0) :
    received (onlyIf c t) k a = received [t] k a := by
  by_cases hc : c
  · rw [onlyIf_of hc]
  · rw [onlyIf_of_not hc, received_cons, h hc, ite_self, received_nil]

/-- What a list of transfers comes to. -/
def total (ts : List (Transfer K A)) : ℕ := (ts.map Transfer.amount).sum

/-- One holder's transfers of one asset: it has sent all there is. -/
theorem sent_eq_total {ts : List (Transfer K A)} {k : K} {a : A}
    (h : ∀ t ∈ ts, t.asset = k ∧ t.src = a) (k' : K) :
    sent ts k' a = if k' = k then total ts else 0 := by
  induction ts with
  | nil => exact (ite_self 0).symm
  | cons t ts ih =>
    obtain ⟨hasset, hsrc⟩ := h t List.mem_cons_self
    rw [sent_cons, ih fun t' ht' => h t' (List.mem_cons_of_mem t ht'), hasset, hsrc]
    by_cases hk : k' = k
    · rw [if_pos hk, if_pos hk, if_pos ⟨hk.symm, rfl⟩]
      rfl
    · rw [if_neg hk, if_neg hk, if_neg fun hx => hk hx.1.symm]

end Sums

/-- Two tables of balances differ by a list of transfers. -/
def Booked (ts : List (Transfer K A)) (b b' : K → A → ℕ) : Prop :=
  ∀ k a, b' k a + sent ts k a = b k a + received ts k a

namespace Booked

variable {ts ts' : List (Transfer K A)} {b b' b'' : K → A → ℕ}

theorem nil (b : K → A → ℕ) : Booked [] b b := fun _ _ => rfl

/-- Transfers one after the other. -/
theorem append (h : Booked ts b b') (h' : Booked ts' b' b'') : Booked (ts ++ ts') b b'' := by
  intro k a
  have h₁ := h k a
  have h₂ := h' k a
  rw [sent_append, received_append]
  omega

/-- A list says the same as another of balances just when it nets the same for every asset and every
holder. -/
theorem iff_net (h : Booked ts b b') :
    Booked ts' b b' ↔ ∀ k a, sent ts k a + received ts' k a = sent ts' k a + received ts k a := by
  refine forall_congr' fun k => forall_congr' fun a => ?_
  have hka := h k a
  omega

/-- Lists that net the same for each holder say the same of balances. -/
theorem congr (h : Booked ts b b') (hsent : ∀ k a, sent ts k a = sent ts' k a)
    (hreceived : ∀ k a, received ts k a = received ts' k a) : Booked ts' b b' := by
  refine h.iff_net.mpr fun k a => ?_
  rw [hsent, hreceived]

/-- Who is paid shows in the balances: with another payee a list says the same only if the payment
is of nothing. -/
theorem payee_iff {k : K} {src dst dst' : A} {n : ℕ} (h : Booked (⟨k, src, dst, n⟩ :: ts) b b') :
    Booked (⟨k, src, dst', n⟩ :: ts) b b' ↔ n = 0 ∨ dst = dst' := by
  constructor
  · intro h'
    have hpaid := h k dst
    have hpaid' := h' k dst
    rw [sent_cons, received_cons] at hpaid hpaid'
    dsimp only at hpaid hpaid'
    rw [if_pos (show k = k ∧ dst = dst from ⟨rfl, rfl⟩)] at hpaid
    by_cases heq : dst = dst'
    · exact .inr heq
    · rw [if_neg (show ¬ (k = k ∧ dst' = dst) from fun hx => heq hx.2.symm)] at hpaid'
      refine .inl ?_
      omega
  · rintro (rfl | rfl)
    · intro k' a
      have hka := h k' a
      rw [sent_cons, received_cons] at hka ⊢
      simpa using hka
    · exact h

end Booked

/-! ## One holder

Some transfers are between a holder and an issuer, whose own balance does not follow them. The
account of the holder is right all the same. -/

/-- What a holder has of each asset differs by its part in a list of transfers. -/
def BookedFor (a : A) (ts : List (Transfer K A)) (b b' : K → ℕ) : Prop :=
  ∀ k, b' k + sent ts k a = b k + received ts k a

namespace BookedFor

variable {a : A} {ts ts' : List (Transfer K A)} {b b' b'' : K → ℕ}

theorem append (h : BookedFor a ts b b') (h' : BookedFor a ts' b' b'') :
    BookedFor a (ts ++ ts') b b'' := by
  intro k
  have h₁ := h k
  have h₂ := h' k
  rw [sent_append, received_append]
  omega

/-- A holder keeps what it had just when it sends of each asset what it receives of it. -/
theorem kept_iff (h : BookedFor a ts b b') :
    (∀ k, b' k = b k) ↔ ∀ k, sent ts k a = received ts k a := by
  refine forall_congr' fun k => ?_
  have hk := h k
  omega

variable {k : K} {src mid dst : A} {n : ℕ}

/-- What is passed on might as well be sent to whom it is passed on to. -/
theorem relayed (h : BookedFor a (⟨k, src, mid, n⟩ :: ⟨k, mid, dst, n⟩ :: ts) b b') :
    BookedFor a (⟨k, src, dst, n⟩ :: ts) b b' := by
  intro k'
  have hk := h k'
  simp only [sent_cons, received_cons] at hk ⊢
  omega

@[inherit_doc relayed]
theorem relayed_last (h : BookedFor a (ts ++ [⟨k, src, mid, n⟩] ++ [⟨k, mid, dst, n⟩]) b b') :
    BookedFor a (ts ++ [⟨k, src, dst, n⟩]) b b' := by
  intro k'
  have hk := h k'
  simp only [sent_append, received_append, sent_cons, received_cons, sent_nil,
    received_nil] at hk ⊢
  omega

end BookedFor

/-! ## Other names for the assets -/

section Relabel

variable {K' : Type*} [DecidableEq K'] {f : K → K'} {ts : List (Transfer K A)} {a : A}

theorem sent_relabel (hf : Function.Injective f) (k : K) :
    sent (relabel f ts) (f k) a = sent ts k a := by
  unfold sent relabel
  simp only [List.map_map, Function.comp_def, hf.eq_iff]

theorem received_relabel (hf : Function.Injective f) (k : K) :
    received (relabel f ts) (f k) a = received ts k a := by
  unfold received relabel
  simp only [List.map_map, Function.comp_def, hf.eq_iff]

omit [DecidableEq K] in
/-- Of an asset that is no other's new name nothing is sent. -/
theorem sent_relabel_of_ne {k' : K'} (hk : ∀ k, f k ≠ k') : sent (relabel f ts) k' a = 0 := by
  unfold sent relabel
  simp only [List.map_map, Function.comp_def, hk, false_and, if_false, List.map_const',
    List.sum_replicate, nsmul_zero]

omit [DecidableEq K] in
@[inherit_doc sent_relabel_of_ne]
theorem received_relabel_of_ne {k' : K'} (hk : ∀ k, f k ≠ k') :
    received (relabel f ts) k' a = 0 := by
  unfold received relabel
  simp only [List.map_map, Function.comp_def, hk, false_and, if_false, List.map_const',
    List.sum_replicate, nsmul_zero]

end Relabel

end Transfers
