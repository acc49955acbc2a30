/-
Transition systems: runs, invariants, and what a run preserves.

A system is an initial predicate and a step relation. The rules here package the one
induction that every statement about runs needs: an inductive invariant holds in every
reachable state, what each step preserves a whole run preserves, and a system with fewer
steps reaches no other states.
-/
import Mathlib.Logic.Relation
import Mathlib.Order.Defs.PartialOrder

set_option autoImplicit false

namespace Machine

variable {σ : Type*}

/-- The states a run can be in: it starts in an initial state and takes steps. -/
inductive Reachable (init : σ → Prop) (step : σ → σ → Prop) : σ → Prop
  | start {s : σ} : init s → Reachable init step s
  | next {s s' : σ} : Reachable init step s → step s s' → Reachable init step s'

variable {init : σ → Prop} {step : σ → σ → Prop}

/-- **Invariant rule.** What holds initially and is preserved by every step from a
reachable state holds in every reachable state. -/
theorem Reachable.invariant {P : σ → Prop} (hinit : ∀ s, init s → P s)
    (hstep : ∀ s s', Reachable init step s → P s → step s s' → P s') {s : σ}
    (hs : Reachable init step s) : P s := by
  induction hs with
  | start h => exact hinit _ h
  | next hr h ih => exact hstep _ _ hr ih h

/-- A system with fewer steps reaches fewer states. -/
theorem Reachable.mono {step' : σ → σ → Prop} (h : ∀ s s', step s s' → step' s s') {s : σ}
    (hs : Reachable init step s) : Reachable init step' s := by
  induction hs with
  | start hi => exact .start hi
  | next _ hst ih => exact .next ih (h _ _ hst)

/-- So does a system that starts in fewer. -/
theorem Reachable.ofFewer {init' : σ → Prop} (h : ∀ s, init s → init' s) {s : σ}
    (hs : Reachable init step s) : Reachable init' step s := by
  induction hs with
  | start hi => exact .start (h _ hi)
  | next _ hst ih => exact .next ih hst

/-- A run from a reachable state ends in a reachable state. -/
theorem Reachable.run {s s' : σ} (hs : Reachable init step s)
    (hrun : Relation.ReflTransGen step s s') : Reachable init step s' := by
  induction hrun with
  | refl => exact hs
  | tail _ h ih => exact .next ih h

/-- **Simulation rule.** When every step of a system, read through `f`, is a run of another, the
states it reaches are states that the other reaches. -/
theorem Reachable.simulated {τ : Type*} {init' : τ → Prop} {step' : τ → τ → Prop} {f : σ → τ}
    (hinit : ∀ s, init s → init' (f s))
    (hstep : ∀ s s', Reachable init step s → step s s' →
      Relation.ReflTransGen step' (f s) (f s')) {s : σ} (hs : Reachable init step s) :
    Reachable init' step' (f s) := by
  induction hs with
  | start hi => exact .start (hinit _ hi)
  | next hr hst ih => exact ih.run (hstep _ _ hr hst)

/-- A property of states that no step destroys is not destroyed by a run. -/
theorem run_stable {P : σ → Prop} (hstep : ∀ s s', Reachable init step s → P s → step s s' → P s')
    {s s' : σ} (hs : Reachable init step s) (hrun : Relation.ReflTransGen step s s') (h : P s) :
    P s' := by
  induction hrun with
  | refl => exact h
  | tail hr hst ih => exact hstep _ _ (hs.run hr) ih hst

/-- A reading that no step lowers is not lowered by a run. -/
theorem run_le {β : Type*} [Preorder β] {f : σ → β}
    (hstep : ∀ s s', Reachable init step s → step s s' → f s ≤ f s') {s s' : σ}
    (hs : Reachable init step s) (hrun : Relation.ReflTransGen step s s') : f s ≤ f s' := by
  induction hrun with
  | refl => exact le_refl _
  | tail hr hst ih => exact le_trans ih (hstep _ _ (hs.run hr) hst)

end Machine
