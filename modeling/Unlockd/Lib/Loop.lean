/-
Loops that count, and arrays whose bounds are checked.

A loop runs over the indices below a length. Its counter is a number of some width, so that adding
one to the largest gives zero. As long as the length is itself a number of that width, the loop
runs once for each index and ends; a longer one is counted through from the start again, and as
long as no round fails it never ends. How long a loop may run is a bound on the number of its
rounds, so that a loop that never ends exhausts every bound.

Most loops read one array and fill another of the same length. What they compute is then one entry
for each that is read, in the same order. If the array to be filled is empty, the first round
already fails.
-/
import Unlockd.Lib.Outcome
import Mathlib.Data.List.Basic

set_option autoImplicit false

namespace Loop

open Outcome

universe u

variable {ε σ τ α β : Type u}

/-! ## The loop -/

/-- One round for each index below the length, in order. -/
def forLoop (length : ℕ) (body : ℕ → σ → Except ε σ) (s : σ) : Except ε σ :=
  (List.range length).foldlM (fun s i => body i s) s

/-- The same loop as it is run, with a counter of a given modulus: `none` if the number of rounds
exceeds the bound. -/
def counting (modulus length : ℕ) (body : ℕ → σ → Except ε σ) :
    ℕ → ℕ → σ → Option (Except ε σ)
  | 0, _, _ => none
  | bound + 1, i, s =>
      if i < length then
        match body i s with
        | .ok s' => counting modulus length body bound ((i + 1) % modulus) s'
        | .error e => some (.error e)
      else some (.ok s)

variable {modulus length : ℕ} {body : ℕ → σ → Except ε σ}

/-- The loop from some index on. -/
theorem counting_range (h : length < modulus) {n i : ℕ} (hi : i + n = length) {bound : ℕ}
    (hbound : n < bound) (s : σ) : counting modulus length body bound i s
      = some ((List.range' i n).foldlM (fun s i => body i s) s) := by
  induction n generalizing i bound s with
  | zero =>
    obtain ⟨bound, rfl⟩ := Nat.exists_eq_add_of_lt hbound
    rw [Nat.zero_add, counting, if_neg (by omega)]
    rfl
  | succ n ih =>
    obtain ⟨bound, rfl⟩ : ∃ b, bound = b + 1 := ⟨bound - 1, by omega⟩
    rw [counting, if_pos (by omega), List.range'_succ, List.foldlM_cons]
    -- the counter is below the length, so that adding one does not wrap
    have hwrap : (i + 1) % modulus = i + 1 := Nat.mod_eq_of_lt (by omega)
    cases body i s with
    | ok s' =>
      rw [hwrap]
      exact ih (by omega) (by omega) s'
    | error e => rfl

/-- **A loop that ends.** If the length is a number of the counter's width, the loop runs once for
each index. -/
theorem counting_eq (h : length < modulus) {bound : ℕ} (hbound : length < bound) (s : σ) :
    counting modulus length body bound 0 s = some (forLoop length body s) := by
  rw [counting_range h (Nat.zero_add length) hbound s, forLoop, List.range_eq_range']

/-- **A loop that does not end.** If the length is no number of the counter's width, and no round
fails, then no bound is large enough. -/
theorem counting_forever (hpos : 0 < modulus) (h : modulus ≤ length) {P : σ → Prop}
    (hbody : ∀ i, i < modulus → ∀ s, P s → ∃ s', body i s = .ok s' ∧ P s') (bound : ℕ) {i : ℕ}
    (hi : i < modulus) {s : σ} (hs : P s) : counting modulus length body bound i s = none := by
  induction bound generalizing i s with
  | zero => rfl
  | succ bound ih =>
    obtain ⟨s', hs', hP⟩ := hbody i hi s hs
    rw [counting, if_pos (by omega), hs']
    exact ih (Nat.mod_lt _ hpos) hP

/-- **Invariant rule for loops.** -/
theorem Sat.forLoop {P : σ → Prop} {E : ε → Prop}
    (hbody : ∀ i, i < length → ∀ s, P s → Sat (body i s) P E) {s : σ} (hs : P s) :
    Sat (forLoop length body s) P E := by
  unfold Loop.forLoop
  have hrange : ∀ i ∈ List.range length, i < length := fun i hi => List.mem_range.mp hi
  generalize List.range length = indices at hrange
  induction indices generalizing s with
  | nil => exact hs
  | cons i rest ih =>
    rw [List.foldlM_cons]
    refine Sat.bind (hbody i (hrange i List.mem_cons_self) s hs) fun s' hs' => ?_
    exact ih hs' fun j hj => hrange j (List.mem_cons_of_mem i hj)

/-- A loop fails as soon as its first round does. -/
theorem forLoop_fails (hpos : 0 < length) {s : σ} {e : ε} (hbody : body 0 s = .error e) :
    forLoop length body s = .error e := by
  obtain ⟨n, rfl⟩ := Nat.exists_eq_succ_of_ne_zero (Nat.pos_iff_ne_zero.mp hpos)
  unfold forLoop
  rw [List.range_succ_eq_map, List.foldlM_cons, hbody]
  rfl

/-- **A loop on two values at once** returns what two loops return, if each round does. -/
theorem forLoop_pair (body₁ : ℕ → σ → Except ε σ) (body₂ : ℕ → τ → Except ε τ)
    {both : ℕ → σ × τ → Except ε (σ × τ)}
    (hboth : ∀ i p q, both i p = .ok q ↔ body₁ i p.1 = .ok q.1 ∧ body₂ i p.2 = .ok q.2)
    {p q : σ × τ} : forLoop length both p = .ok q ↔
      forLoop length body₁ p.1 = .ok q.1 ∧ forLoop length body₂ p.2 = .ok q.2 := by
  unfold forLoop
  generalize List.range length = indices
  induction indices generalizing p with
  | nil =>
    simp only [List.foldlM_nil]
    constructor
    · intro h
      obtain rfl := Except.ok.inj h
      exact ⟨rfl, rfl⟩
    · rintro ⟨h₁, h₂⟩
      exact congrArg _ (Prod.ext (Except.ok.inj h₁) (Except.ok.inj h₂))
  | cons i rest ih =>
    simp only [List.foldlM_cons, bind_eq_ok]
    constructor
    · rintro ⟨r, hr, hq⟩
      obtain ⟨h₁, h₂⟩ := (hboth i p r).mp hr
      obtain ⟨hq₁, hq₂⟩ := ih.mp hq
      exact ⟨⟨r.1, h₁, hq₁⟩, r.2, h₂, hq₂⟩
    · rintro ⟨⟨r₁, h₁, hq₁⟩, r₂, h₂, hq₂⟩
      exact ⟨(r₁, r₂), (hboth i p (r₁, r₂)).mpr ⟨h₁, h₂⟩, ih.mpr ⟨hq₁, hq₂⟩⟩

/-! ## Arrays -/

/-- Read an element, unless the index is beyond the array. -/
def read (outOfBounds : ε) (xs : List α) (i : ℕ) : Except ε α :=
  match xs[i]? with
  | some x => .ok x
  | none => .error outOfBounds

/-- Change an element in place, unless the index is beyond the array. -/
def modify (outOfBounds : ε) (xs : List α) (i : ℕ) (change : α → Except ε α) :
    Except ε (List α) := do
  let x ← read outOfBounds xs i
  let x ← change x
  return xs.set i x

variable {outOfBounds : ε} {xs : List α} {i : ℕ}

theorem read_eq_ok {x : α} : read outOfBounds xs i = .ok x ↔ xs[i]? = some x := by
  unfold read
  cases xs[i]? with
  | some y => exact ⟨fun h => congrArg _ (Except.ok.inj h), fun h => congrArg _ (Option.some.inj h)⟩
  | none => exact ⟨fun h => (nomatch h), fun h => (nomatch h)⟩

/-- Within the bounds nothing is raised. -/
theorem exists_read (outOfBounds : ε) (hi : i < xs.length) : ∃ x, read outOfBounds xs i = .ok x :=
  ⟨xs[i], read_eq_ok.mpr (List.getElem?_eq_getElem hi)⟩

theorem Sat.read {E : ε → Prop} (hi : i < xs.length) :
    Sat (read outOfBounds xs i) (fun x => xs[i]? = some x) E := by
  obtain ⟨x, hx⟩ := exists_read outOfBounds hi
  rw [hx]
  exact read_eq_ok.mp hx

/-- Beyond them the read fails. -/
theorem read_beyond (hi : xs.length ≤ i) : read outOfBounds xs i = .error outOfBounds := by
  unfold read
  rw [List.getElem?_eq_none hi]

theorem modify_beyond {change : α → Except ε α} (hi : xs.length ≤ i) :
    modify outOfBounds xs i change = .error outOfBounds := by
  unfold modify
  rw [read_beyond hi]
  rfl

theorem modify_eq_ok {change : α → Except ε α} {xs' : List α} :
    modify outOfBounds xs i change = .ok xs' ↔
      ∃ x y, xs[i]? = some x ∧ change x = .ok y ∧ xs' = xs.set i y := by
  unfold modify
  rw [bind_eq_ok]
  refine exists_congr fun x => ?_
  rw [read_eq_ok, bind_eq_ok]
  constructor
  · rintro ⟨hx, y, hy, h⟩
    exact ⟨y, hx, hy, (Except.ok.inj h).symm⟩
  · rintro ⟨y, hx, hy, rfl⟩
    exact ⟨hx, y, hy, rfl⟩

/-- A change within the bounds keeps the length, and fails only where it fails itself. -/
theorem Sat.modify {change : α → Except ε α} {E : ε → Prop} (hi : i < xs.length)
    (hchange : ∀ x, Fails (change x) E) :
    Sat (modify outOfBounds xs i change) (fun xs' => xs'.length = xs.length) E := by
  obtain ⟨x, hx⟩ := exists_read outOfBounds hi
  unfold Loop.modify
  rw [hx, ok_bind]
  refine Sat.bind (hchange x) fun y _ => ?_
  exact List.length_set

/-- A loop that reads an array runs over its elements. -/
theorem forLoop_read {xs : List α} {step : σ → α → Except ε σ} (s : σ) :
    forLoop xs.length (fun i s => read outOfBounds xs i >>= step s) s = xs.foldlM step s := by
  unfold forLoop
  rw [List.range_eq_range']
  -- the elements before the index have been read, the others are still to come
  suffices h : ∀ (rest pre : List α) (s : σ), (List.range' pre.length rest.length).foldlM
      (fun s i => read outOfBounds (pre ++ rest) i >>= step s) s = rest.foldlM step s from h xs [] s
  intro rest
  induction rest with
  | nil => exact fun _ _ => rfl
  | cons x rest ih =>
    intro pre s
    have hx : read outOfBounds (pre ++ x :: rest) pre.length = .ok x := by
      rw [read_eq_ok, List.getElem?_append_right (Nat.le_refl _), Nat.sub_self,
        List.getElem?_cons_zero]
    rw [List.length_cons, List.range'_succ, List.foldlM_cons, List.foldlM_cons, hx, ok_bind]
    refine bind_congr_ok fun s' _ => ?_
    have hnext := ih (pre ++ [x]) s'
    rwa [List.append_assoc, List.singleton_append, List.length_append, List.length_singleton]
      at hnext

/-- A loop that reads an array and uses each element for two values. -/
theorem forLoop_read_pair {xs : List α} (f : ℕ → α → σ → Except ε σ)
    (g : ℕ → α → τ → Except ε τ) {p q : σ × τ} :
    forLoop xs.length (fun i p => do
        let x ← read outOfBounds xs i
        let a ← f i x p.1
        let b ← g i x p.2
        return (a, b)) p = .ok q ↔
      forLoop xs.length (fun i s => read outOfBounds xs i >>= fun x => f i x s) p.1 = .ok q.1 ∧
        forLoop xs.length (fun i s => read outOfBounds xs i >>= fun x => g i x s) p.2
          = .ok q.2 := by
  refine forLoop_pair _ _ fun i p q => ?_
  cases read outOfBounds xs i with
  | error e => exact ⟨fun h => (nomatch h), fun h => (nomatch h.1)⟩
  | ok x =>
    rw [ok_bind, ok_bind, ok_bind, bind_eq_ok]
    constructor
    · rintro ⟨a, ha, h⟩
      obtain ⟨b, hb, h⟩ := bind_eq_ok.mp h
      obtain rfl := Except.ok.inj h
      exact ⟨ha, hb⟩
    · rintro ⟨ha, hb⟩
      exact ⟨q.1, ha, bind_eq_ok.mpr ⟨q.2, hb, rfl⟩⟩

/-- **A loop that fills an array** of the length of the one it reads makes one entry of each
element, in the same order. -/
theorem forLoop_fill {xs : List α} (outOfBounds : ε) (entry : α → β → Except ε β) (blank : β) :
    forLoop xs.length (fun i ys => read outOfBounds xs i >>= fun x =>
        modify outOfBounds ys i (entry x)) (List.replicate xs.length blank)
      = xs.mapM fun x => entry x blank := by
  unfold forLoop
  rw [List.range_eq_range']
  -- the entries before the index have been made, the others are blank
  suffices h : ∀ (rest pre : List α) (done : List β), done.length = pre.length →
      (List.range' pre.length rest.length).foldlM (fun ys i => read outOfBounds (pre ++ rest) i >>=
          fun x => modify outOfBounds ys i (entry x)) (done ++ List.replicate rest.length blank)
        = (done ++ ·) <$> rest.mapM (fun x => entry x blank) by
    refine (h xs [] [] rfl).trans ?_
    cases xs.mapM (fun x => entry x blank) <;> rfl
  intro rest
  induction rest with
  | nil =>
    intro pre done _
    rw [List.mapM_nil]
    rfl
  | cons x rest ih =>
    intro pre done hdone
    have hx : read outOfBounds (pre ++ x :: rest) pre.length = .ok x := by
      rw [read_eq_ok, List.getElem?_append_right (Nat.le_refl _), Nat.sub_self,
        List.getElem?_cons_zero]
    have hblank : read outOfBounds (done ++ blank :: List.replicate rest.length blank) pre.length
        = .ok blank := by
      rw [read_eq_ok, ← hdone, List.getElem?_append_right (Nat.le_refl _), Nat.sub_self,
        List.getElem?_cons_zero]
    rw [List.length_cons, List.range'_succ, List.replicate_succ, List.foldlM_cons, List.mapM_cons,
      hx, ok_bind, modify, hblank, ok_bind]
    cases entry x blank with
    | error e => rfl
    | ok y =>
      have hset : (done ++ blank :: List.replicate rest.length blank).set pre.length y
          = (done ++ [y]) ++ List.replicate rest.length blank := by
        rw [← hdone, List.set_append_right _ _ (Nat.le_refl _), Nat.sub_self, List.set_cons_zero,
          List.append_assoc, List.singleton_append]
      have hnext := ih (pre ++ [x]) (done ++ [y]) (by
        rw [List.length_append, List.length_append, hdone]
        rfl)
      rw [List.append_assoc, List.singleton_append, List.length_append, List.length_singleton]
        at hnext
      rw [ok_bind]
      change List.foldlM _ (List.set _ _ _) _ = _
      rw [hset, hnext]
      cases rest.mapM (fun x => entry x blank) with
      | error e => rfl
      | ok ys => exact congrArg Except.ok (List.append_assoc done [y] ys)

/-! ## One entry for each element -/

variable {l : List α} {f : α → Except ε β}

/-- Making entries fails only where one of them fails. -/
theorem Fails.mapM {E : ε → Prop} (hf : ∀ a ∈ l, Fails (f a) E) : Fails (l.mapM f) E := by
  induction l with
  | nil =>
    rw [List.mapM_nil]
    trivial
  | cons a rest ih =>
    rw [List.mapM_cons]
    refine Sat.bind (hf a List.mem_cons_self) fun b _ => ?_
    refine Sat.bind (ih fun a' ha' => hf a' (List.mem_cons_of_mem a ha')) fun bs _ => ?_
    trivial

/-- Where none of them fails, all are made. -/
theorem exists_mapM (hf : ∀ a ∈ l, ∃ b, f a = .ok b) : ∃ bs, l.mapM f = .ok bs := by
  have hnever : Fails (l.mapM f) fun _ => False := by
    refine Fails.mapM fun a ha => ?_
    obtain ⟨b, hb⟩ := hf a ha
    rw [hb]
    trivial
  cases hmap : l.mapM f with
  | ok bs => exact ⟨bs, rfl⟩
  | error e => exact (hnever.error hmap).elim

/-- What each entry remembers of its element is remembered in the same order. -/
theorem map_mapM {γ : Type u} {g : β → γ} {k : α → γ} (hf : ∀ a, Returns (f a) fun b => g b = k a) :
    Returns (l.mapM f) fun bs => bs.map g = l.map k := by
  induction l with
  | nil =>
    rw [List.mapM_nil]
    exact rfl
  | cons a rest ih =>
    rw [List.mapM_cons]
    refine Sat.bind (hf a) fun b hb => Sat.bind ih fun bs hbs => ?_
    exact congrArg₂ List.cons hb hbs

end Loop
