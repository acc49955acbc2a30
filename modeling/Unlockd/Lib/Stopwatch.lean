/-
Stopwatches: how long a switch has been on.

A system with a clock has a switch that is turned on and off, each time in no time. The log
of a run says how long the switch has been on since a moment `t`: the time that passed in the
steps before which it was on. The same log lists the spans from one turning on to the next
turning off.

A moment at which the switch was off lies in no span, so that the time since then is made up
of whole spans. Whoever remembers the last span only, has the whole time just if the others
since then were empty.
-/
import Unlockd.Lib.History

set_option autoImplicit false

namespace Machine

variable {σ α : Type*} (clock : σ → ℕ) (active : σ → Bool)

/-- What a step spends with the switch on, not counting the time before `t`. -/
def spent (t : ℕ) (e : Entry σ α) : ℕ :=
  if active e.before = true then clock e.after - max (clock e.before) t else 0

/-- The time since `t` with the switch on. -/
def timeOn (t : ℕ) (log : List (Entry σ α)) : ℕ := total (spent clock active t) log

/-- When the switch was last turned on. -/
def turnedOn : List (Entry σ α) → ℕ
  | [] => 0
  | e :: log => if active e.before = false ∧ active e.after
      = true then clock e.before else turnedOn log

/-- The spans that are over, the last one first. -/
def spans : List (Entry σ α) → List (ℕ × ℕ)
  | [] => []
  | e :: log =>
    if active e.before = true ∧ active e.after = false then
      (turnedOn clock active log, clock e.before) :: spans log
    else spans log

/-- The switch is off at first. In no run does time go backwards, and switching takes none. -/
structure Stopwatch (step : σ → α → σ → Prop) (s₀ : σ) : Prop where
  off : active s₀ = false
  forward : ∀ {log s a s'}, History step s₀ log s → step s a s' → clock s ≤ clock s'
  instant : ∀ {log s a s'}, History step s₀ log s → step s a s' → active s ≠ active s' →
    clock s' = clock s

variable {clock active} {step : σ → α → σ → Prop} {s₀ s s' : σ} {a : α} {t : ℕ}
  {log : List (Entry σ α)}

/-! ## What a step adds -/

theorem turnedOn_cons_on (e : Entry σ α) (hb : active e.before = false)
    (ha : active e.after = true) :
    turnedOn clock active (e :: log) = clock e.before := if_pos ⟨hb, ha⟩

theorem turnedOn_cons_same (e : Entry σ α) (h : active e.before = active e.after) :
    turnedOn clock active (e :: log) = turnedOn clock active log := by
  refine if_neg ?_
  rintro ⟨hb, ha⟩
  rw [hb, ha] at h
  cases h

theorem spans_cons_off (e : Entry σ α) (hb : active e.before = true) (ha : active e.after = false) :
    spans clock active (e :: log) = (turnedOn clock active log,
      clock e.before) :: spans clock active log :=
  if_pos ⟨hb, ha⟩

theorem spans_cons_kept (e : Entry σ α) (h : active e.before = true → active e.after = true) :
    spans clock active (e :: log) = spans clock active log := by
  refine if_neg ?_
  rintro ⟨hb, ha⟩
  rw [h hb] at ha
  cases ha

/-! ## Spans -/

/-- The switch is on since a moment in the past. -/
theorem History.turnedOn_le (hc : Stopwatch clock active step s₀)
    (h : History step s₀ log s) (hon : active s = true) : turnedOn clock active log ≤ clock s := by
  induction h with
  | start =>
    rw [hc.off] at hon
    cases hon
  | @next log s s' a hr hst ih =>
    cases hs : active s with
    | false =>
      rw [turnedOn_cons_on ⟨s, a, s'⟩ hs hon]
      exact hc.forward hr hst
    | true =>
      rw [turnedOn_cons_same ⟨s, a, s'⟩ (hs.trans hon.symm)]
      exact (ih hs).trans (hc.forward hr hst)

/-- Spans start before they stop, and both in the past. -/
theorem History.spans_le (hc : Stopwatch clock active step s₀)
    (h : History step s₀ log s) : ∀ p ∈ spans clock active log, p.1 ≤ p.2 ∧ p.2 ≤ clock s := by
  induction h with
  | start =>
    intro p hp
    cases hp
  | @next log s s' a hr hst ih =>
    have hle := hc.forward hr hst
    have hold : ∀ p ∈ spans clock active log, p.1 ≤ p.2 ∧ p.2 ≤ clock s' := by
      intro p hp
      obtain ⟨h₁, h₂⟩ := ih p hp
      exact ⟨h₁, h₂.trans hle⟩
    by_cases hover : active s = true ∧ active s' = false
    · rw [spans_cons_off ⟨s, a, s'⟩ hover.1 hover.2]
      intro p hp
      rcases List.mem_cons.mp hp with rfl | hp
      · exact ⟨hr.turnedOn_le hc hover.1, hle⟩
      · exact hold p hp
    · rw [spans_cons_kept ⟨s, a, s'⟩ fun hb => by simpa [hb] using hover]
      exact hold

/-- **The time on is the time of the spans**, and of the one that lasts. -/
theorem History.timeOn_eq (hc : Stopwatch clock active step s₀)
    (h : History step s₀ log s) (t : ℕ) :
    timeOn clock active t log = ((spans clock active log).map fun p => p.2 - max p.1 t).sum +
      if active s = true then clock s - max (turnedOn clock active log) t else 0 := by
  induction h with
  | start =>
    rw [if_neg (by simp [hc.off])]
    rfl
  | @next log s s' a hr hst ih =>
    have hle := hc.forward hr hst
    have hsum : timeOn clock active t (⟨s, a, s'⟩ :: log)
        = spent clock active t ⟨s, a, s'⟩ + timeOn clock active t log := total_cons _ _ _
    rw [hsum, ih]
    cases hs : active s with
    | false =>
      have hspent : spent clock active t ⟨s, a, s'⟩ = 0 := if_neg (by simp [hs])
      rw [hspent, spans_cons_kept ⟨s, a, s'⟩ (by simp [hs])]
      cases hs' : active s' with
      | false => simp
      | true =>
        -- turned on just now
        have hnow := hc.instant hr hst (by simp [hs, hs'])
        rw [turnedOn_cons_on ⟨s, a, s'⟩ hs hs', if_neg Bool.false_ne_true, if_pos rfl]
        dsimp only
        omega
    | true =>
      have hspent : spent clock active t ⟨s, a, s'⟩ = clock s' - max (clock s) t := if_pos hs
      have hsince := hr.turnedOn_le hc hs
      rw [hspent, if_pos rfl]
      cases hs' : active s' with
      | false =>
        -- the span that lasted is over
        have hnow := hc.instant hr hst (by simp [hs, hs'])
        rw [spans_cons_off ⟨s, a, s'⟩ hs hs', List.map_cons, List.sum_cons,
          if_neg Bool.false_ne_true]
        dsimp only
        omega
      | true =>
        rw [spans_cons_kept ⟨s, a, s'⟩ fun _ => hs',
          turnedOn_cons_same ⟨s, a, s'⟩ (hs.trans hs'.symm), if_pos rfl]
        omega

/-! ## Moments outside the spans -/

variable (clock active) in
/-- The moment `t` is past, and lies in no span. -/
structure Outside (t : ℕ) (log : List (Entry σ α)) (s : σ) : Prop where
  past : t ≤ clock s
  ended : ∀ p ∈ spans clock active log, p.2 ≤ t ∨ t ≤ p.1
  lasting : active s = true → t ≤ turnedOn clock active log

/-- Now, if the switch is off. -/
theorem History.outside_now (hc : Stopwatch clock active step s₀)
    (h : History step s₀ log s) (hs : active s = false) : Outside clock active (clock s) log s where
  past := Nat.le_refl _
  ended p hp := .inl (h.spans_le hc p hp).2
  lasting hon := by
    rw [hs] at hon
    cases hon

/-- Once outside, always outside. -/
theorem Outside.next (hc : Stopwatch clock active step s₀) (hr : History step s₀ log s)
    (ho : Outside clock active t log s) (hst : step s a s') : Outside clock active t
    (⟨s, a, s'⟩ :: log) s' where
  past := ho.past.trans (hc.forward hr hst)
  ended p hp := by
    by_cases hover : active s = true ∧ active s' = false
    · rw [spans_cons_off ⟨s, a, s'⟩ hover.1 hover.2] at hp
      rcases List.mem_cons.mp hp with rfl | hp
      · exact .inr (ho.lasting hover.1)
      · exact ho.ended p hp
    · rw [spans_cons_kept ⟨s, a, s'⟩ fun hb => by simpa [hb] using hover] at hp
      exact ho.ended p hp
  lasting hs' := by
    cases hs : active s with
    | false =>
      rw [turnedOn_cons_on ⟨s, a, s'⟩ hs hs']
      exact ho.past
    | true =>
      rw [turnedOn_cons_same ⟨s, a, s'⟩ (hs.trans hs'.symm)]
      exact ho.lasting hs

/-- What a span counts since `t`: all of it or nothing. -/
def counted (t : ℕ) (p : ℕ × ℕ) : ℕ := if t ≤ p.1 then p.2 - p.1 else 0

/-- Since a moment outside the spans, the time on is that of whole spans. -/
theorem Outside.timeOn_eq (hc : Stopwatch clock active step s₀)
    (h : History step s₀ log s) (ho : Outside clock active t log s) (hs : active s = false) :
    timeOn clock active t log = ((spans clock active log).map (counted t)).sum := by
  have hspan : ∀ p ∈ spans clock active log, p.2 - max p.1 t = counted t p := by
    intro p hp
    have hle := (h.spans_le hc p hp).1
    have hout := ho.ended p hp
    unfold counted
    split <;> omega
  rw [h.timeOn_eq hc t, if_neg (by simp [hs]), Nat.add_zero, List.map_congr_left hspan]

/-- What the last span counts. -/
def lastCounted (t : ℕ) : List (ℕ × ℕ) → ℕ
  | [] => 0
  | p :: _ => counted t p

/-- The last span counts no more than all do. -/
theorem Outside.lastCounted_le (hc : Stopwatch clock active step s₀)
    (h : History step s₀ log s) (ho : Outside clock active t log s) (hs : active s = false) :
    lastCounted t (spans clock active log) ≤ timeOn clock active t log := by
  rw [ho.timeOn_eq hc h hs]
  cases spans clock active log with
  | nil => exact Nat.le_refl _
  | cons p rest =>
    rw [List.map_cons, List.sum_cons]
    exact Nat.le_add_right _ _

/-- **The last span is the whole time** just where the others since `t` are empty. -/
theorem Outside.lastCounted_eq_iff (hc : Stopwatch clock active step s₀)
    (h : History step s₀ log s) (ho : Outside clock active t log s) (hs : active s = false) :
    lastCounted t (spans clock active log) = timeOn clock active t log ↔
      ∀ p ∈ (spans clock active log).tail, t ≤ p.1 → p.1 = p.2 := by
  have hle := h.spans_le hc
  rw [ho.timeOn_eq hc h hs]
  generalize spans clock active log = ps at hle
  cases ps with
  | nil => simp [lastCounted]
  | cons p rest =>
    have hzero : ∀ q ∈ rest, counted t q = 0 ↔ (t ≤ q.1 → q.1 = q.2) := by
      intro q hq
      have hq := (hle q (List.mem_cons_of_mem _ hq)).1
      unfold counted
      split <;> omega
    rw [List.map_cons, List.sum_cons, lastCounted, List.tail_cons]
    constructor
    · intro heq q hq
      have hsum : (rest.map (counted t)).sum = 0 := by omega
      exact (hzero q hq).mp (List.sum_eq_zero_iff_forall_eq_nat.mp hsum _ (List.mem_map_of_mem hq))
    · intro hall
      have hsum : (rest.map (counted t)).sum = 0 := by
        refine List.sum_eq_zero_iff_forall_eq_nat.mpr fun n hn => ?_
        obtain ⟨q, hq, rfl⟩ := List.mem_map.mp hn
        exact (hzero q hq).mpr (hall q hq)
      omega

end Machine
