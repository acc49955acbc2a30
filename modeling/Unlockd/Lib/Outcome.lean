/-
Pre- and postconditions of computations that return a value or revert with an error.

`Sat x Q E` says of `x : Except ε α` that a returned value satisfies `Q` and a raised
error satisfies `E`. It is the usual Hoare triple with an exceptional postcondition; the
precondition is whatever is in the context. One rule for each way a computation is put
together is enough to walk through a program line by line, and `Sat.ok` and
`Sat.error` read the result off at the end.
-/
import Mathlib.Tactic.TypeStar

set_option autoImplicit false

namespace Outcome

universe u
variable {ε : Type u} {α β : Type u}

/-- A returned value satisfies `Q`; a raised error satisfies `E`. -/
def Sat (x : Except ε α) (Q : α → Prop) (E : ε → Prop) : Prop :=
  match x with
  | .ok a => Q a
  | .error e => E e

/-- Stop with the error `e` unless the condition holds. -/
def require (c : Prop) [Decidable c] (e : ε) : Except ε PUnit.{u+1} :=
  if c then .ok ⟨⟩ else .error e

/-- Run `x` on `a` when the condition holds, and leave `a` as it is otherwise. -/
def applyIf (c : Prop) [Decidable c] (x : α → Except ε α) (a : α) : Except ε α :=
  if c then x a else .ok a

/-! ## Reading a triple -/

theorem Sat.ok {x : Except ε α} {Q : α → Prop} {E : ε → Prop} {a : α} (h : Sat x Q E)
    (hx : x = .ok a) : Q a := by
  subst hx; exact h

theorem Sat.error {x : Except ε α} {Q : α → Prop} {E : ε → Prop} {e : ε} (h : Sat x Q E)
    (hx : x = .error e) : E e := by
  subst hx; exact h

/-- Two triples about one computation hold together. -/
theorem Sat.and {x : Except ε α} {Q Q' : α → Prop} {E E' : ε → Prop} (h : Sat x Q E)
    (h' : Sat x Q' E') : Sat x (fun a => Q a ∧ Q' a) (fun e => E e ∧ E' e) := by
  cases x <;> exact ⟨h, h'⟩

theorem Sat.mono {x : Except ε α} {Q Q' : α → Prop} {E E' : ε → Prop} (h : Sat x Q E)
    (hQ : ∀ a, Q a → Q' a) (hE : ∀ e, E e → E' e) : Sat x Q' E' := by
  cases x with
  | ok a => exact hQ a h
  | error e => exact hE e h

/-- Weaken the postcondition of a returned value. -/
theorem Sat.imp {x : Except ε α} {Q Q' : α → Prop} {E : ε → Prop} (h : Sat x Q E)
    (hQ : ∀ a, Q a → Q' a) : Sat x Q' E :=
  h.mono hQ fun _ he => he

/-- What is known of the errors alone, together with the value itself. -/
theorem Sat.self {x : Except ε α} {Q : α → Prop} {E : ε → Prop} (h : Sat x Q E) :
    Sat x (fun a => x = .ok a) E := by
  cases x with
  | ok a => exact rfl
  | error e => exact h

/-- Of any computation it is known that what it returns it returns. -/
theorem Sat.returned (x : Except ε α) : Sat x (fun a => x = .ok a) (fun _ => True) := by
  cases x with
  | ok a => exact rfl
  | error e => trivial

/-! ## The rules -/

theorem Sat.bind {x : Except ε α} {f : α → Except ε β} {P : α → Prop} {Q : β → Prop}
    {E : ε → Prop} (hx : Sat x P E) (hf : ∀ a, P a → Sat (f a) Q E) : Sat (x >>= f) Q E := by
  cases x with
  | ok a => exact hf a hx
  | error e => exact hx

/-- The same, when the first computation raises fewer errors than are allowed. -/
theorem Sat.andThen {x : Except ε α} {f : α → Except ε β} {P : α → Prop} {Q : β → Prop}
    {E E' : ε → Prop} (hx : Sat x P E') (hE : ∀ e, E' e → E e) (hf : ∀ a, P a → Sat (f a) Q E) :
    Sat (x >>= f) Q E :=
  Sat.bind (hx.mono (fun _ h => h) hE) hf

/-- A check either passes, with its condition known from there on, or raises its error. -/
theorem Sat.require {c : Prop} [Decidable c] {e : ε} {E : ε → Prop} (he : ¬ c → E e) :
    Sat (require c e) (fun _ => c) E := by
  unfold Outcome.require
  split
  · assumption
  · exact he ‹_›

theorem Sat.applyIf {c : Prop} [Decidable c] {x : α → Except ε α} {a : α} {Q : α → Prop}
    {E : ε → Prop} (hx : c → Sat (x a) Q E) (ha : ¬ c → Q a) : Sat (applyIf c x a) Q E := by
  unfold Outcome.applyIf
  split
  · exact hx ‹_›
  · exact ha ‹_›

theorem Sat.ite {c : Prop} [Decidable c] {x y : Except ε α} {Q : α → Prop} {E : ε → Prop}
    (hx : c → Sat x Q E) (hy : ¬ c → Sat y Q E) : Sat (if c then x else y) Q E := by
  split
  · exact hx ‹_›
  · exact hy ‹_›

/-! ## Results alone

Where it does not matter how a computation fails, its specification is about what it returns. -/

/-- `Returns x Q`: what `x` returns, if it returns, satisfies `Q`. -/
abbrev Returns (x : Except ε α) (Q : α → Prop) : Prop := Sat x Q fun _ => True

theorem Sat.returns {x : Except ε α} {Q : α → Prop} {E : ε → Prop} (h : Sat x Q E) :
    Returns x Q :=
  h.mono (fun _ hq => hq) fun _ _ => trivial

/-- A step of a computation whose result is remembered as such. -/
theorem Returns.step {x : Except ε α} {f : α → Except ε β} {Q : β → Prop}
    (hf : ∀ a, x = .ok a → Returns (f a) Q) : Returns (x >>= f) Q :=
  Sat.bind (Sat.returned x) hf

/-- A check that has passed. -/
theorem Returns.check {c : Prop} [Decidable c] {e : ε} {f : PUnit.{u+1} → Except ε β} {Q : β → Prop}
    (hf : c → Returns (f ⟨⟩) Q) : Returns (Outcome.require c e >>= f) Q :=
  Sat.bind (Sat.require fun _ => trivial) fun _ hc => hf hc

/-- **Invariant rule for loops** over a list: what every round keeps, the loop keeps. -/
theorem Returns.foldlM {f : β → α → Except ε β} {P : β → Prop} {l : List α} {b : β}
    (hf : ∀ a ∈ l, ∀ b, P b → Returns (f b a) P) (hb : P b) : Returns (l.foldlM f b) P := by
  induction l generalizing b with
  | nil => exact hb
  | cons a rest ih =>
    rw [List.foldlM_cons]
    refine Sat.bind (hf a List.mem_cons_self b hb) fun b' hb' => ?_
    exact ih (fun a' ha' => hf a' (List.mem_cons_of_mem a ha')) hb'

/-! ## Errors alone

Where it does not matter what a computation returns, its specification is about how it fails. -/

/-- `Fails x E`: what `x` raises, if it fails, satisfies `E`. -/
abbrev Fails (x : Except ε α) (E : ε → Prop) : Prop := Sat x (fun _ => True) E

theorem Sat.fails {x : Except ε α} {Q : α → Prop} {E : ε → Prop} (h : Sat x Q E) : Fails x E :=
  h.imp fun _ _ => trivial

/-- A step of a computation whose result is remembered as such. -/
theorem Fails.step {x : Except ε α} {f : α → Except ε β} {E : ε → Prop} (hx : Fails x E)
    (hf : ∀ a, x = .ok a → Fails (f a) E) : Fails (x >>= f) E :=
  Sat.bind hx.self hf

/-- A check that raises an allowed error. -/
theorem Fails.check {c : Prop} [Decidable c] {e : ε} {f : PUnit.{u+1} → Except ε β} {E : ε → Prop}
    (he : ¬ c → E e) (hf : c → Fails (f ⟨⟩) E) : Fails (Outcome.require c e >>= f) E :=
  Sat.bind (Sat.require he) fun _ hc => hf hc

/-! ## Computing with successful runs -/

@[simp] theorem require_eq_ok {c : Prop} [Decidable c] {e : ε} {u : PUnit} :
    require c e = .ok u ↔ c := by
  unfold require; split <;> simp [*]

theorem require_of {c : Prop} [Decidable c] {e : ε} (h : c) : require c e = .ok ⟨⟩ :=
  if_pos h

/-- A computation that goes on after `x` succeeds exactly when `x` does and the rest does. -/
theorem bind_eq_ok {x : Except ε α} {f : α → Except ε β} {b : β} :
    (x >>= f) = .ok b ↔ ∃ a, x = .ok a ∧ f a = .ok b := by
  cases x <;> simp [Bind.bind, Except.bind]

/-- A computation that starts with a check succeeds exactly when the check passes and the
rest succeeds. -/
theorem require_bind_eq_ok {c : Prop} [Decidable c] {e : ε} {f : PUnit.{u+1} → Except ε β} {b : β} :
    (require c e >>= f) = .ok b ↔ c ∧ f ⟨⟩ = .ok b := by
  unfold require; split <;> simp [*, Bind.bind, Except.bind]

/-- Two computations that begin alike agree when they agree on all that the beginning returns. -/
theorem bind_congr_ok {x : Except ε α} {f g : α → Except ε β} (h : ∀ a, x = .ok a → f a = g a) :
    (x >>= f) = (x >>= g) := by
  cases x with
  | ok a => exact h a rfl
  | error e => rfl

/-- The error that a computation raises, if any. -/
def raised : Except ε α → Option ε
  | .ok _ => none
  | .error e => some e

/-- A computation that raises no error returns. -/
theorem exists_ok_of_raised {x : Except ε α} (h : raised x = none) : ∃ a, x = .ok a := by
  cases x with
  | ok a => exact ⟨a, rfl⟩
  | error e => cases h

/-- What a computation returns can be read off. -/
theorem eq_ok_of_toOption {x : Except ε α} {a : α} (h : x.toOption = some a) : x = .ok a := by
  cases x with
  | ok b => exact congrArg _ (Option.some.inj h)
  | error e => cases h

/-- So can the error it raises. -/
theorem eq_error_of_raised {x : Except ε α} {e : ε} (h : raised x = some e) : x = .error e := by
  cases x with
  | ok a => cases h
  | error e' => exact congrArg _ (Option.some.inj h)

@[simp] theorem ok_bind (a : α) (f : α → Except ε β) : (Except.ok a >>= f) = f a := rfl

end Outcome
