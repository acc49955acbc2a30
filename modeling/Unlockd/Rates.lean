/-
Rates: when they are set, and what they describe.

A rate is charged from the time stamp of its reserve on, so a new rate must be written under a
current time stamp or it is charged for time that passed before it was set. Every operation
sees to that by itself except the two that set rates of a reserve they have not brought up to
date. The rates themselves are computed before the tokens move, for the liquidity that will be
there afterwards; in each of the eight operations of the pool they fit what is there in the
end.
-/
import Unlockd.Interest

set_option autoImplicit false

namespace Unlockd

open Outcome Registry LendPoolLoan DebtMarket

variable {D : Deployment} {s s' s'' : State}

/-! ## When rates are set -/

/-- A step that sets no rates of a reserve that is not current, except after bringing it up to
date. -/
def prompt (s : State) : Action D → Prop
  | .call _ _ c => c.Prompt s
  | _ => True

/-- A step changes a rate of a reserve. -/
def Reprices (s s' : State) (r : Address) : Prop :=
  (s'.lendPool.reserves r).currentLiquidityRate ≠ (s.lendPool.reserves r).currentLiquidityRate ∨
    (s'.lendPool.reserves r).currentVariableBorrowRate
      ≠ (s.lendPool.reserves r).currentVariableBorrowRate

/-- **Step lemma.** -/
theorem execute_timely (h : Books D s) {a : Action D} (ha : prompt s a)
    (hs : s.execute D a = .ok s') :
    Timely s s' := by
  cases a with
  | call sender outside c =>
    obtain ⟨_, _, _, _, -, -, htimely⟩ := (perform_spec h outside c).ok hs
    exact htimely ha
  | configure setting => exact ((configure_spec h setting).ok hs).timely
  | event e =>
    obtain rfl := Except.ok.inj hs
    exact (happen_administered h e).timely

/-- Time does not run backwards. -/
theorem clock_le_of_run (hr : Reachable D (anyAction D) s) (hrun : Run D (anyAction D) s s') :
    s.blockTimestamp ≤ s'.blockTimestamp := by
  refine Machine.run_le (fun t t' ht hst => ?_) hr hrun
  obtain ⟨_, _, _, _, hstepped⟩ := Reachable.stepped ht hst
  exact hstepped.clock

/-- The time stamp of a reserve does not go back while block times fit it. -/
theorem stamp_le_of_run (hr : Reachable D (anyAction D) s) (hrun : Run D (anyAction D) s s')
    (htime : s'.blockTimestamp < 2 ^ 40) (r : Address) :
    (s.lendPool.reserves r).lastUpdateTimestamp ≤ (s'.lendPool.reserves r).lastUpdateTimestamp := by
  induction hrun with
  | refl => exact le_rfl
  | @tail t t' hrun hst ih =>
    have ht := Machine.Reachable.run hr hrun
    obtain ⟨_, _, _, _, hstepped⟩ := Reachable.stepped ht hst
    have hfits : t.blockTimestamp < 2 ^ 40 := hstepped.clock.trans_lt htime
    refine (ih hfits).trans ?_
    rcases hstepped.stamp r with hstamp | hstamp
    · exact hstamp.ge
    · rw [hstamp, uint40_of_lt hfits]
      exact ((Reachable.books ht).stamps r).1

/-- **Rates are charged from when they were set.** In every run of prompt steps, a step that changes
a rate of a reserve leaves its time stamp at the current block; and in no later state of the run is
the time stamp, from which that rate is charged on, before the block of the change. -/
theorem rates_set_on_time (hr : Reachable D prompt s) (hst : Step D prompt s s') {r : Address}
    (hreprices : Reprices s s' r) :
    (s'.lendPool.reserves r).lastUpdateTimestamp = uint40 s'.blockTimestamp ∧
    (s'.blockTimestamp < 2 ^ 40 →
      (s'.lendPool.reserves r).lastUpdateTimestamp = s'.blockTimestamp) ∧
    ∀ s'', Run D prompt s' s'' → s''.blockTimestamp < 2 ^ 40 →
      s'.blockTimestamp ≤ (s''.lendPool.reserves r).lastUpdateTimestamp := by
  obtain ⟨a, ha, hexecute⟩ := hst
  have hstamp : (s'.lendPool.reserves r).lastUpdateTimestamp = uint40 s'.blockTimestamp := by
    rcases execute_timely (Reachable.books hr) ha hexecute r with ⟨hlr, hbr⟩ | hx
    · exact absurd hreprices (not_or.mpr ⟨not_not.mpr hlr, not_not.mpr hbr⟩)
    · exact hx
  refine ⟨hstamp, fun htime => hstamp.trans (uint40_of_lt htime), fun s'' hrun htime => ?_⟩
  have hr' : Reachable D (anyAction D) s' := .next (Reachable.any hr) ⟨a, trivial, hexecute⟩
  have hrun' := Run.any hrun
  have hfits := (clock_le_of_run hr' hrun').trans_lt htime
  calc s'.blockTimestamp = (s'.lendPool.reserves r).lastUpdateTimestamp :=
        (hstamp.trans (uint40_of_lt hfits)).symm
    _ ≤ (s''.lendPool.reserves r).lastUpdateTimestamp := stamp_le_of_run hr' hrun' htime r

instance (s s' : State) (r : Address) : Decidable (Reprices s s' r) :=
  inferInstanceAs (Decidable (_ ∨ _))

/-- In the small deployment a deposit some time after the loan changes the rates, on time. -/
theorem rates_set_on_time_sample :
    ∃ s', (State.sampleLoan 1000).perform .sample 101 (.deposit 10 (50 * WAD) 101) = .ok s' ∧
      (s'.lendPool.reserves 10).lastUpdateTimestamp = 1001000 := by
  have hreach : Reachable .sample prompt (State.sampleLoan 1000) :=
    Reachable.after (.start (State.sample_genesis .weth9)) _
      (by simp [sampleSetup, sampleListing, prompt, Call.Prompt])
  obtain ⟨s', hdeposit⟩ :
      ∃ s', (State.sampleLoan 1000).perform .sample 101 (.deposit 10 (50 * WAD) 101) = .ok s' :=
    exists_ok_of_raised (by decide +kernel)
  have hread :
      ((State.sampleLoan 1000).perform .sample 101 (.deposit 10 (50 * WAD) 101)).toOption.map
      (fun s' => (decide (Reprices (State.sampleLoan 1000) s' 10), s'.blockTimestamp))
      = some (true, 1001000) := by decide +kernel
  rw [hdeposit] at hread
  obtain ⟨hreprices, htime⟩ := Prod.mk.inj (Option.some.inj hread)
  have hstep : Step .sample prompt (State.sampleLoan 1000) s' :=
    ⟨.call 101 (by decide) (.deposit 10 (50 * WAD) 101), trivial, hdeposit⟩
  have hontime := rates_set_on_time hreach hstep (of_decide_eq_true hreprices)
  rw [htime] at hontime
  exact ⟨s', hdeposit, hontime.2.1 (by decide)⟩

/-- Some time after the loan was taken out the price of a vault share has doubled. -/
def State.sampleYield : State :=
  (State.sample .weth9).after .sample
    (sampleSetup 1000 ++ sampleListing.take 2 ++ [.event (.setPricePerShare (2 * WAD))])

/-- Anyone can set new rates of a reserve that is a million seconds behind. -/
theorem rates_set_late_sample :
    Reachable .sample (anyAction .sample) State.sampleYield ∧ Deployment.sample.isUser 103 ∧
    (State.sampleYield.perform .sample 103 (.updateReserveInterestRates 10)).toOption.map
      (fun s' => (decide (Reprices State.sampleYield s' 10), s'.blockTimestamp,
        (s'.lendPool.reserves 10).lastUpdateTimestamp)) = some (true, 1001000, 1000) :=
  ⟨Reachable.after (.start (State.sample_genesis .weth9)) _ fun _ _ _ => trivial, by decide,
    by decide +kernel⟩

/-! ## What the rates describe -/

/-- The reserve that an operation of the pool prices. -/
def Call.pricedReserve (s : State) : Call D → Option Address
  | .deposit asset _ _ => some asset
  | .withdraw asset _ _ => some asset
  | .borrow asset _ _ _ _ => some asset
  | .repay a t _ | .auction a t _ _ | .redeem a t _ _ | .liquidate a t _ | .buyout a t _ =>
      some (s.lendPoolLoan.getLoan (s.lendPoolLoan.getCollateralLoanId a t)).reserveAsset
  | _ => none

/-- Each of the eight operations leaves rates that describe its reserve. -/
theorem perform_setsRates (h : Books D s) {sender : Address} (hs : D.isUser sender) {c : Call D}
    {asset : Address} (hc : c.pricedReserve s = some asset)
    (hdone : s.perform D sender c = .ok s') :
    SetsRates D s s' asset := by
  -- pause and returned values apart, each is the last part of what is known of the operation
  have ofPool : ∀ {x : Except Error State},
      Sat x (fun s' => SetsRates D s s' asset) (Error.Expected D s) →
      s.whenNotPaused x = .ok s' → SetsRates D s s' asset :=
    fun hx hok => hx.ok (require_bind_eq_ok.mp hok).2
  cases c with
  | deposit a amount onBehalfOf =>
    obtain rfl := Option.some.inj hc
    exact ofPool ((State.executeDeposit_conducted h hs).imp fun _ hd => hd.2) hdone
  | withdraw a amount receiver =>
    obtain rfl := Option.some.inj hc
    exact ofPool (State.fst_spec ((State.executeWithdraw_conducted h).imp fun _ hd => hd.2)) hdone
  | borrow a amount nftAsset nftTokenId onBehalfOf =>
    obtain rfl := Option.some.inj hc
    exact ofPool ((State._borrow_conducted h).imp fun _ hd => hd.2) hdone
  | repay nftAsset nftTokenId amount =>
    obtain rfl := Option.some.inj hc
    exact ofPool (State.fst_spec ((State._repay_conducted h hs).imp fun _ hd => hd.2)) hdone
  | auction nftAsset nftTokenId bidPrice onBehalfOf =>
    obtain rfl := Option.some.inj hc
    exact ofPool ((State.executeAuction_conducted h hs).imp fun _ hd => hd.2) hdone
  | redeem nftAsset nftTokenId amount bidFine =>
    obtain rfl := Option.some.inj hc
    exact ofPool (State.fst_spec ((State.executeRedeem_conducted h hs).imp fun _ hd => hd.2)) hdone
  | liquidate nftAsset nftTokenId amount =>
    obtain rfl := Option.some.inj hc
    exact ofPool (State.fst_spec ((State.executeLiquidate_conducted h hs).imp
      fun _ hd => hd.2)) hdone
  | buyout nftAsset nftTokenId onBehalfOf =>
    obtain rfl := Option.some.inj hc
    exact ofPool ((State.executeBuyout_conducted h hs).imp fun _ hd => hd.2) hdone
  | _ => cases hc

/-- Setting rates that already describe the reserve changes nothing. -/
theorem RatesDescribe.unchanged {asset : Address} (hd : RatesDescribe s asset)
    (h : s.updateReserveInterestRates asset = .ok s') : s' = s := by
  obtain ⟨-, h⟩ := require_bind_eq_ok.mp h
  obtain ⟨-, h⟩ := require_bind_eq_ok.mp h
  obtain ⟨rates, hrates, h⟩ := bind_eq_ok.mp h
  obtain ⟨R, hR, hstore⟩ := bind_eq_ok.mp h
  obtain ⟨available, havailable⟩ : ∃ available,
      s.getAvailableLiquidity (s.lendPool.reserves asset).uTokenAddress = .ok available := by
    obtain ⟨_, -, hliquidity⟩ := bind_eq_ok.mp hrates
    obtain ⟨available, havailable, -⟩ := bind_eq_ok.mp hliquidity
    exact ⟨available, havailable⟩
  -- the rates asked for are the ones in force, so the reserve is stored as it was
  have hsame := Except.ok.inj ((hd available havailable).symm.trans hrates)
  rw [← hsame] at hR
  rw [← Except.ok.inj hstore, ReserveData.setRates_eq hR]
  exact State.setReserve_self s asset

/-- **The rates describe the reserve.** With a vault that neither gains nor loses, each of the eight
operations of the pool on the WETH reserve leaves the rates its strategy computes for the available
liquidity and the debt as they are in the end; setting the rates once more changes nothing. -/
theorem rates_describe_reserve (hr : Reachable D (anyAction D) s) (hexact : D.Exact)
    (hprice : s.yVault.pricePerShare = WAD) {sender : Address} (hs : D.isUser sender) {c : Call D}
    (hc : c.pricedReserve s = some D.weth) (hdone : s.perform D sender c = .ok s') :
    (∀ available debt,
      s'.getAvailableLiquidity (s'.lendPool.reserves D.weth).uTokenAddress = .ok available →
      rayMul (s'.debtTokens D.weth).scaledTotalSupply
        (s'.lendPool.reserves D.weth).variableBorrowIndex = .ok debt →
      (s'.interestRates (s'.lendPool.reserves D.weth).interestRateAddress).calculateInterestRates
          available debt
          (ReserveConfiguration.getReserveFactor (s'.lendPool.reserves D.weth).configuration)
        = .ok ((s'.lendPool.reserves D.weth).currentLiquidityRate,
            (s'.lendPool.reserves D.weth).currentVariableBorrowRate)) ∧
    ∀ s'', s'.updateReserveInterestRates D.weth = .ok s'' → s'' = s' := by
  have hdescribe := perform_setsRates (Reachable.books hr) hs hc hdone hexact hprice rfl
  refine ⟨fun available debt havailable hdebt => ?_, fun s'' h => hdescribe.unchanged h⟩
  obtain ⟨debt', hdebt', hliquidity⟩ := bind_eq_ok.mp (hdescribe available havailable)
  obtain ⟨available', havailable', htake⟩ := bind_eq_ok.mp hliquidity
  obtain ⟨rest, hrest, hrates⟩ := bind_eq_ok.mp htake
  obtain rfl := Except.ok.inj (hdebt.symm.trans hdebt')
  obtain rfl := Except.ok.inj (havailable.symm.trans havailable')
  obtain rfl : available = rest := (checkedSub_eq_ok.mp hrest).2.symm
  exact hrates

/-- In the small deployment, a deposit over a standing loan leaves nothing to set. -/
theorem rates_describe_reserve_sample :
    ∃ s', (State.sampleLoan 1000).perform .sample 101 (.deposit 10 (50 * WAD) 101) = .ok s' ∧
      ∀ s'', s'.updateReserveInterestRates 10 = .ok s'' → s'' = s' := by
  have hreach : Reachable .sample (anyAction .sample) (State.sampleLoan 1000) :=
    Reachable.after (.start (State.sample_genesis .weth9)) _ fun _ _ _ => trivial
  obtain ⟨s', hdeposit⟩ :
      ∃ s', (State.sampleLoan 1000).perform .sample 101 (.deposit 10 (50 * WAD) 101) = .ok s' :=
    exists_ok_of_raised (by decide +kernel)
  exact ⟨s', hdeposit, (rates_describe_reserve hreach ⟨fun _ _ => rfl, fun _ _ => rfl⟩
    (by decide +kernel) (by decide) rfl hdeposit).2⟩

end Unlockd
