/-
Histories: runs that remember what was done.

A run of a labelled transition system leaves a log, one entry for each step, with the
states before and after it. Statements about what has happened so far are statements about
the log. The rules here are the induction over a history, that every run has one, the
accounting rule (when no step adds more to a reading than its entry says, a whole history
adds no more than the sum over its log) and the rule for conditions: when a step keeps a property
just where its entry meets a condition, the property holds all along just where all entries
meet it. Where steps are computed, a list of actions leaves a log that can be computed too.
-/
import Unlockd.Lib.Machine
import Mathlib.Algebra.BigOperators.Group.List.Basic
import Mathlib.Algebra.Ring.Nat

set_option autoImplicit false

namespace Machine

variable {σ α : Type*}

/-- One step as it stands in the log. -/
structure Entry (σ α : Type*) where
  before : σ
  action : α
  after : σ

/-- `History step s₀ log s`: a run from `s₀` to `s` that left `log`, its last entry first. -/
inductive History (step : σ → α → σ → Prop) (s₀ : σ) : List (Entry σ α) → σ → Prop
  | start : History step s₀ [] s₀
  | next {log : List (Entry σ α)} {s s' : σ} {a : α} : History step s₀ log s → step s a s' →
      History step s₀ (⟨s, a, s'⟩ :: log) s'

/-- The sum of a quantity over a log. -/
def total (f : Entry σ α → ℕ) (log : List (Entry σ α)) : ℕ := (log.map f).sum

@[simp] theorem total_nil (f : Entry σ α → ℕ) : total f [] = 0 := rfl

@[simp] theorem total_cons (f : Entry σ α → ℕ) (e : Entry σ α) (log : List (Entry σ α)) :
    total f (e :: log) = f e + total f log := by
  simp [total]

namespace History

variable {step : σ → α → σ → Prop} {s₀ s : σ} {log : List (Entry σ α)}

/-- **Invariant rule for histories.** -/
theorem invariant {P : List (Entry σ α) → σ → Prop} (hstart : P [] s₀)
    (hnext : ∀ log s a s', History step s₀ log s → P log s → step s a s' →
      P (⟨s, a, s'⟩ :: log) s')
    (h : History step s₀ log s) : P log s := by
  induction h with
  | start => exact hstart
  | next hr hst ih => exact hnext _ _ _ _ hr ih hst

/-- A history is a run. -/
theorem run (h : History step s₀ log s) :
    Relation.ReflTransGen (fun s s' => ∃ a, step s a s') s₀ s := by
  induction h with
  | start => exact .refl
  | next _ hst ih => exact ih.tail ⟨_, hst⟩

/-- Every reachable state has a history. -/
theorem ofReachable {init : σ → Prop} (h : Reachable init (fun s s' => ∃ a, step s a s') s) :
    ∃ s₀ log, init s₀ ∧ History step s₀ log s := by
  induction h with
  | start hi => exact ⟨_, [], hi, .start⟩
  | next _ hst ih =>
    obtain ⟨s₀, log, hi, hlog⟩ := ih
    obtain ⟨a, ha⟩ := hst
    exact ⟨s₀, _, hi, hlog.next ha⟩

/-- **Accounting rule.** When each step adds to a reading at most what its entry gains, less what
it loses, a history adds at most the totals. -/
theorem account_le {f : σ → ℕ} {gain loss : Entry σ α → ℕ}
    (hstep : ∀ log s a s', History step s₀ log s → step s a s' →
      f s' + loss ⟨s, a, s'⟩ ≤ f s + gain ⟨s, a, s'⟩)
    (h : History step s₀ log s) : f s + total loss log ≤ f s₀ + total gain log := by
  induction h with
  | start => exact Nat.le_refl _
  | next hr hst ih =>
    have hs := hstep _ _ _ _ hr hst
    rw [total_cons, total_cons]
    omega

/-- **Rule for conditions.** When every step from a state with a property keeps it just where its
entry meets a condition, the property holds after every step just where every entry meets it. -/
theorem always_iff {P : σ → Prop} {Q : Entry σ α → Prop} (hstart : P s₀)
    (hstep : ∀ log s a s', History step s₀ log s → P s → step s a s' → (P s' ↔ Q ⟨s, a, s'⟩))
    (h : History step s₀ log s) : (∀ e ∈ log, P e.after) ↔ ∀ e ∈ log, Q e := by
  -- the property also has to hold in the state that the next step is taken from
  have hlast : ((∀ e ∈ log, P e.after) ↔ ∀ e ∈ log, Q e) ∧ ((∀ e ∈ log, P e.after) → P s) := by
    induction h with
    | start => exact ⟨by simp, fun _ => hstart⟩
    | next hr hst ih =>
      obtain ⟨hiff, hlast⟩ := ih
      simp only [List.forall_mem_cons]
      refine ⟨?_, fun hP => hP.1⟩
      constructor
      · rintro ⟨hafter, hP⟩
        exact ⟨(hstep _ _ _ _ hr (hlast hP) hst).mp hafter, hiff.mp hP⟩
      · rintro ⟨hQ, hall⟩
        have hP := hiff.mpr hall
        exact ⟨(hstep _ _ _ _ hr (hlast hP) hst).mpr hQ, hP⟩
  exact hlast.1

end History

/-! ## Computed steps -/

section Record

variable {ε : Type*} {run : σ → α → Except ε σ}

/-- The log that a list of actions leaves, on top of an earlier one; it ends where one fails. -/
def record (run : σ → α → Except ε σ) (s : σ) (log : List (Entry σ α)) :
    List α → List (Entry σ α)
  | [] => log
  | a :: rest =>
    match run s a with
    | .ok s' => record run s' (⟨s, a, s'⟩ :: log) rest
    | .error _ => log

/-- **A list of actions that goes through** leaves the record of a history. -/
theorem History.record {step : σ → α → σ → Prop} {s₀ s s' : σ} {log : List (Entry σ α)}
    (hs : History step s₀ log s) (actions : List α)
    (hstep : ∀ a ∈ actions, ∀ s s', run s a = .ok s' → step s a s')
    (hrun : actions.foldlM run s = .ok s') :
    History step s₀ (record run s log actions) s' ∧
      (Machine.record run s log actions).map Entry.action
        = actions.reverse ++ log.map Entry.action := by
  induction actions generalizing s log with
  | nil =>
    obtain rfl := Except.ok.inj hrun
    exact ⟨hs, rfl⟩
  | cons a rest ih =>
    rw [List.foldlM_cons] at hrun
    rw [Machine.record]
    cases ha : run s a with
    | error e =>
      rw [ha] at hrun
      cases hrun
    | ok s₁ =>
      rw [ha] at hrun
      have hnext := hs.next (hstep a List.mem_cons_self s s₁ ha)
      obtain ⟨hlog, hactions⟩ :=
        ih hnext (fun b hb => hstep b (List.mem_cons_of_mem a hb)) hrun
      refine ⟨hlog, ?_⟩
      rw [hactions, List.reverse_cons, List.append_assoc]
      rfl

end Record

end Machine
