/-
What a supplier sees of her money.

The balance of a uToken is what is stored of it, read at the income of the reserve in the block of
the reading. As long as the holder does nothing and has allowed nobody to do it for her, the balance
never falls: neither what others do nor the time between two updates takes anything of it.
-/
import Unlockd.ReserveSolvency
import Unlockd.Rates

set_option autoImplicit false

namespace Unlockd

open Outcome FixedPoint

/-! ## The income of a reserve -/

namespace ReserveData

variable {R : ReserveData} {now now' income : ℕ}

/-- The index of a reserve and the interest since its last update. -/
def grown (R : ReserveData) (now : ℕ) : ℕ :=
  divHalfUp ((R.currentLiquidityRate * (now - R.lastUpdateTimestamp) / SECONDS_PER_YEAR + RAY)
    * R.liquidityIndex) RAY

theorem grown_mono (R : ReserveData) (h : now ≤ now') : R.grown now ≤ R.grown now' := by
  have htime := Nat.sub_le_sub_right h R.lastUpdateTimestamp
  have hinterest := Nat.div_le_div_right (c := SECONDS_PER_YEAR)
    (Nat.mul_le_mul_left R.currentLiquidityRate htime)
  exact divHalfUp_mono (Nat.mul_le_mul_right _ (Nat.add_le_add_right hinterest RAY)) RAY

/-- No interest, no growth. -/
theorem grown_eq_index (h : R.currentLiquidityRate * (now - R.lastUpdateTimestamp) = 0) :
    R.grown now = R.liquidityIndex := by
  rw [grown, h, Nat.zero_div, Nat.zero_add, Nat.mul_comm]
  exact divHalfUp_mul_self _ RAY_pos

/-- At the time stamp. -/
theorem grown_current (h : R.lastUpdateTimestamp = now) : R.grown now = R.liquidityIndex :=
  grown_eq_index (by rw [h, Nat.sub_self, Nat.mul_zero])

/-- What balances are read at. -/
theorem getNormalizedIncome_eq_grown (hnow : now < 2 ^ 40)
    (h : R.getNormalizedIncome now = .ok income) : income = R.grown now := by
  unfold getNormalizedIncome at h
  split at h
  · rename_i hcurrent
    rw [grown_current (hcurrent.trans (uint40_of_lt hnow))]
    exact (Except.ok.inj h).symm
  · obtain ⟨f, hf, h⟩ := bind_eq_ok.mp h
    obtain ⟨-, rfl⟩ := calculateLinearInterest_spec hf
    exact rayMul_spec h

/-- An update stores it. -/
theorem NextLiquidityIndex.eq_grown {i : ℕ} (h : R.NextLiquidityIndex now i) : i = R.grown now := by
  by_cases hrate : R.currentLiquidityRate = 0
  · rw [grown_eq_index (by rw [hrate, Nat.zero_mul])]
    exact h.1 hrate
  · obtain ⟨f, hf, hi⟩ := h.2 hrate
    obtain ⟨-, rfl⟩ := calculateLinearInterest_spec hf
    exact rayMul_spec hi

end ReserveData

/-- What the balances of the uToken of `r` are read at. -/
def State.income (s : State) (r : Address) : ℕ := (s.lendPool.reserves r).grown s.blockTimestamp

theorem State.uTokenBalanceOf_eq {s : State} {r u : Address} {b : ℕ}
    (htime : s.blockTimestamp < 2 ^ 40) (h : s.uTokenBalanceOf r u = .ok b) :
    b = divHalfUp ((s.uTokens r).scaledBalanceOf u * s.income r) RAY := by
  obtain ⟨income, hincome, h⟩ := bind_eq_ok.mp h
  rw [State.income, ← ReserveData.getNormalizedIncome_eq_grown htime hincome]
  exact rayMul_spec h

/-! ## What a step does to it -/

section Steps

variable {D : Deployment} {s s' : State} {r : Address}

/-- Bringing a reserve up to date leaves its income. -/
theorem Renewed.grown {R : ReserveData} {supply : ℕ} (h : Renewed s r R supply)
    (htime : s.blockTimestamp < 2 ^ 40) : R.grown s.blockTimestamp = s.income r := by
  cases h with
  | left => rfl
  | updated hi =>
    rw [ReserveData.grown_current (uint40_of_lt htime)]
    exact hi.eq_grown

/-- New rates leave it if they are as of the block. -/
theorem income_of_call (hr : ∃ R supply, Renewed s r R supply ∧ ∃ x y, s'.lendPool.reserves r
      = { R with currentLiquidityRate := x, currentVariableBorrowRate := y })
    (htimely : Timely s s') (hclock : s'.blockTimestamp = s.blockTimestamp)
    (htime : s.blockTimestamp < 2 ^ 40) : s'.income r = s.income r := by
  obtain ⟨R, supply, hrenewed, x, y, hR⟩ := hr
  rw [← hrenewed.grown htime, State.income, hclock]
  have hindex : (s'.lendPool.reserves r).liquidityIndex = R.liquidityIndex := by rw [hR]
  have hstamp : (s'.lendPool.reserves r).lastUpdateTimestamp = R.lastUpdateTimestamp := by rw [hR]
  rcases htimely r with ⟨hrate, -⟩ | hcurrent
  · have hsame : R.currentLiquidityRate = (s.lendPool.reserves r).currentLiquidityRate := by
      cases hrenewed <;> rfl
    unfold ReserveData.grown
    rw [hindex, hstamp, hrate, hsame]
  · rw [hclock, uint40_of_lt htime] at hcurrent
    rw [ReserveData.grown_current hcurrent, ReserveData.grown_current (hstamp.symm.trans hcurrent),
      hindex]

/-- Settings leave it, and time lets it grow. -/
theorem Administered.income_le (h : Administered D s s')
    (hinit : (s.lendPool.reserves r).uTokenAddress ≠ 0) : s.income r ≤ s'.income r := by
  have hconfigured := h.reserves r
  have hsame (now : ℕ) :
      (s'.lendPool.reserves r).grown now = (s.lendPool.reserves r).grown now := by
    generalize s'.lendPool.reserves r = R' at hconfigured
    cases hconfigured with
    | settings => rfl
    | opened u ir x hopened => exact absurd (ReserveData.init_eq hopened).1 hinit
  rw [State.income, State.income, hsame]
  exact ReserveData.grown_mono _ h.clock

end Steps

/-! ## Runs -/

/-- No rates are set of a reserve that is not current, unless it is brought up to date first. -/
def onTime {D : Deployment} (c : Chain) : ChainAction D → Prop
  | .protocol a => prompt c.protocol a
  | _ => True

section Runs

variable {D : Deployment} {c c' : Chain} {r u : Address}

theorem Chain.clock_le (hr : ReachableChain D sparing c) {action : ChainAction D}
    (hok : c.execute D action = .ok c') :
    c.protocol.blockTimestamp ≤ c'.protocol.blockTimestamp := by
  by_cases ha : ∃ a, action = .protocol a
  · obtain ⟨a, rfl⟩ := ha
    obtain ⟨s', hs', rfl⟩ := Chain.ofProtocol_eq_ok.mp hok
    obtain ⟨_, _, _, _, hstepped⟩ := execute_stepped hr.sound.books hs'
    exact hstepped.clock
  · exact ((Chain.execute_aside (not_exists.mp ha)).ok hok).blockTimestamp.ge

/-- **Step lemma.** No step on time lowers the income of a reserve. -/
theorem Chain.income_le (hr : ReachableChain D sparing c) {action : ChainAction D}
    (ha : onTime c action) (hok : c.execute D action = .ok c')
    (hinit : (c.protocol.lendPool.reserves r).uTokenAddress ≠ 0)
    (htime : c.protocol.blockTimestamp < 2 ^ 40) : c.protocol.income r ≤ c'.protocol.income r := by
  have hb := hr.sound.books
  by_cases haction : ∃ a, action = .protocol a
  · obtain ⟨a, rfl⟩ := haction
    obtain ⟨s', hs', rfl⟩ := Chain.ofProtocol_eq_ok.mp hok
    cases a with
    | call sender outside call =>
      obtain ⟨R, supply, hmoved⟩ := ((perform_supplies call).ok hs').moved (hr.any.addsUp r)
      have hclock : s'.blockTimestamp = c.protocol.blockTimestamp := by
        obtain ⟨_, _, _, _, heffect, -⟩ := (perform_spec hb outside call).ok hs'
        exact heffect.blockTimestamp
      have htimely : Timely c.protocol s' :=
        execute_timely (a := .call sender outside call) hb ha hs'
      exact (income_of_call ⟨R, supply, hmoved.renewed, hmoved.rates⟩ htimely hclock htime).ge
    | configure setting => exact ((configure_spec hb setting).ok hs').income_le hinit
    | event e =>
      obtain rfl := Except.ok.inj hs'
      exact (happen_administered hb e).income_le hinit
  · have haside := (Chain.execute_aside (not_exists.mp haction)).ok hok
    unfold State.income
    rw [haside.lendPool, haside.blockTimestamp]

/-- A reserve that was set up stays so. -/
theorem Chain.initialised (hr : ReachableChain D sparing c) {action : ChainAction D}
    (hok : c.execute D action = .ok c')
    (hinit : (c.protocol.lendPool.reserves r).uTokenAddress ≠ 0) :
    (c'.protocol.lendPool.reserves r).uTokenAddress ≠ 0 := by
  by_cases ha : ∃ a, action = .protocol a
  · obtain ⟨a, rfl⟩ := ha
    obtain ⟨s', hs', rfl⟩ := Chain.ofProtocol_eq_ok.mp hok
    obtain ⟨_, _, _, _, hstepped⟩ := execute_stepped hr.sound.books hs'
    exact (hstepped.reserves r hinit).grown.uTokenAddress.trans_ne hinit
  · have haside := (Chain.execute_aside (not_exists.mp ha)).ok hok
    rw [haside.lendPool]
    exact hinit

/-- A run in which `u` does nothing and rates are set on time. -/
def Rest (D : Deployment) (u : Address) : Chain → Chain → Prop :=
  Relation.ReflTransGen (ChainStep D fun c action => without u c action ∧ onTime c action)

/-- **Run lemma.** -/
theorem Rest.income_le (hr : ReachableChain D sparing c) (hrun : Rest D u c c')
    (hinit : (c.protocol.lendPool.reserves r).uTokenAddress ≠ 0) :
    c.protocol.blockTimestamp ≤ c'.protocol.blockTimestamp ∧
      (c'.protocol.blockTimestamp < 2 ^ 40 → c.protocol.income r ≤ c'.protocol.income r) := by
  suffices h : ReachableChain D sparing c' ∧ (c'.protocol.lendPool.reserves r).uTokenAddress ≠ 0 ∧
      c.protocol.blockTimestamp ≤ c'.protocol.blockTimestamp ∧
      (c'.protocol.blockTimestamp < 2 ^ 40 → c.protocol.income r ≤ c'.protocol.income r) from
    h.2.2
  induction hrun with
  | refl => exact ⟨hr, hinit, le_rfl, fun _ => le_rfl⟩
  | tail _ hst ih =>
    obtain ⟨hr', hinit', hclock, hle⟩ := ih
    obtain ⟨action, ⟨⟨hsparing, -⟩, honTime⟩, hok⟩ := hst
    have hlater := Chain.clock_le hr' hok
    refine ⟨hr'.next hsparing hok, Chain.initialised hr' hok hinit', hclock.trans hlater,
      fun htime => ?_⟩
    have htime' := hlater.trans_lt htime
    exact (hle htime').trans (Chain.income_le hr' honTime hok hinit' htime')

/-- **A supplier who does nothing sees her balance grow, or stay.** Over every run in which `u` does
nothing herself, rescues spare the escrow and rates are set on time, whoever deposits, withdraws,
borrows, repays, sells, liquidates or administers in it, the balance that the uToken of a reserve
shows for her at the end is no less than it was, provided that nobody may spend for her. -/
theorem supplier_balance_never_falls (hr : ReachableChain D sparing c)
    (hinit : (c.protocol.lendPool.reserves r).uTokenAddress ≠ 0)
    (hnone : ∀ x, c.uTokenAllowance r u x = 0) (hrun : Rest D u c c')
    (htime : c'.protocol.blockTimestamp < 2 ^ 40) {before after : ℕ}
    (hbefore : c.protocol.uTokenBalanceOf r u = .ok before)
    (hafter : c'.protocol.uTokenBalanceOf r u = .ok after) : before ≤ after := by
  obtain ⟨hclock, hincome⟩ := Rest.income_le (r := r) hr hrun hinit
  have hrun' : Relation.ReflTransGen (ChainStep D (without u)) c c' :=
    hrun.lift id fun _ _ ⟨action, ha, hok⟩ => ⟨action, ha.1, hok⟩
  have hkept : HolderKept r u ∅ c c' := (hr.holder (fun x _ => hnone x) hrun').2
  have hscaled := hkept.balance
  rw [Finset.sum_empty, Finset.sum_empty, Nat.add_zero, Nat.add_zero] at hscaled
  rw [State.uTokenBalanceOf_eq (hclock.trans_lt htime) hbefore,
    State.uTokenBalanceOf_eq htime hafter]
  exact divHalfUp_mono (Nat.mul_le_mul hscaled (hincome htime)) RAY

end Runs

/-- User 101 has supplied, user 100 has borrowed and waits; then the loan is paid back in part. -/
def Chain.samplePaid : Chain :=
  Chain.sampleLater.andThen .sample
    (.call 100 Deployment.sample_borrower (.repay 40 7 (10 * WAD)))

/-- The supplier has earned something. -/
theorem supplier_balance_never_falls_sample : ∃ before after,
    Chain.sampleLent.protocol.uTokenBalanceOf 10 101 = .ok before ∧
    Chain.samplePaid.protocol.uTokenBalanceOf 10 101 = .ok after ∧
    before ≤ after ∧ after ≠ before := by
  have hbefore : Chain.sampleLent.protocol.uTokenBalanceOf 10 101 = .ok 1000000000000000000000 :=
    eq_ok_of_toOption (by decide +kernel)
  have hafter : Chain.samplePaid.protocol.uTokenBalanceOf 10 101 = .ok 1000001284246575342466 :=
    eq_ok_of_toOption (by decide +kernel)
  have hsupplied : ChainTaken .sample sparing .sampleOpened (.protocol sampleSupply)
      (Chain.sampleOpened.andThen .sample sampleSupply) := Chain.andThen_taken (by decide +kernel)
  have hlent : ChainTaken .sample sparing (Chain.sampleOpened.andThen .sample sampleSupply)
      (.protocol sampleBorrow) .sampleLent := Chain.andThen_taken (by decide +kernel)
  have hreachable : ReachableChain .sample sparing .sampleLent :=
    (Chain.sampleOpened_reachable.next hsupplied.1 hsupplied.2).next hlent.1 hlent.2
  have hne : (100 : Address) ≠ 101 := by decide
  have hrun : Rest .sample 101 Chain.sampleLent Chain.samplePaid :=
    .tail (.single ⟨.protocol (.event (.tick 1000000)), ⟨⟨trivial, id⟩, trivial⟩,
        (Chain.andThen_taken (by decide +kernel)).2⟩)
      ⟨.protocol (.call 100 Deployment.sample_borrower (.repay 40 7 (10 * WAD))),
        ⟨⟨trivial, hne⟩, trivial⟩, (Chain.andThen_taken (by decide +kernel)).2⟩
  exact ⟨_, _, hbefore, hafter, supplier_balance_never_falls hreachable (by decide +kernel)
    (fun _ => rfl) hrun (by decide +kernel) hbefore hafter, by decide⟩

end Unlockd
