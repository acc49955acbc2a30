/-
The accounts of suppliers.

A supplier is credited a scaled amount for a deposit and debited one for a withdrawal, and reads her
balance off what is left. Each of the three is rounded half up on its own. Reading and scaling down
again is exact, so a supplier who withdraws her whole balance is left with nothing, provided that
the index at which the balance is read is the one at which the reserve burns. Scaling down and
reading again is not exact, and within a block, where the index stays what it is, a supplier can
gain by it; the book of `ScaledAccount` says how much.
-/
import Unlockd.Interest
import Unlockd.Withdrawals
import Unlockd.Liquidity
import Unlockd.Lib.ScaledAccount

set_option autoImplicit false

namespace Unlockd

open Outcome FixedPoint ScaledAccount

namespace State

variable {D : Deployment} {s s₁ s' : State} {asset user receiver : Address} {amount : ℕ}

/-! ## What a deposit and a withdrawal do to an account -/

/-- Bringing a reserve up to date mints to the treasury, and to nobody else. -/
theorem updateState_scaledBalanceOf (h : s.updateState asset = .ok s')
    (huser : user ≠ (s.uTokens asset).treasury) :
    (s'.uTokens asset).scaledBalanceOf user = (s.uTokens asset).scaledBalanceOf user := by
  obtain ⟨R, -, h⟩ := bind_eq_ok.mp h
  obtain ⟨n, -, h⟩ := bind_eq_ok.mp h
  obtain ⟨u, hu, h⟩ := bind_eq_ok.mp h
  obtain rfl := Except.ok.inj h
  show (Function.update s.uTokens asset u asset).scaledBalanceOf user = _
  rw [Function.update_self]
  unfold UToken.mintToTreasury at hu
  split at hu
  · -- nothing has accrued to the treasury
    rw [← Except.ok.inj hu]
    rfl
  · obtain ⟨m, -, hu⟩ := bind_eq_ok.mp hu
    obtain ⟨-, hu⟩ := require_bind_eq_ok.mp hu
    rw [← Except.ok.inj hu]
    exact Function.update_of_ne huser _ _

/-- A reserve is brought up to date and gets new rates, within a block. -/
structure Dealt (s s₁ s' : State) (asset : Address) : Prop where
  updated : s.updateState asset = .ok s₁
  time : s'.blockTimestamp = s.blockTimestamp
  priced : ∃ rates, (s₁.lendPool.reserves asset).setRates rates
    = .ok (s'.lendPool.reserves asset)

theorem Dealt.index (h : Dealt s s₁ s' asset) :
    (s'.lendPool.reserves asset).liquidityIndex = (s₁.lendPool.reserves asset).liquidityIndex := by
  obtain ⟨rates, hrates⟩ := h.priced
  rw [ReserveData.setRates_eq hrates]

/-- **A deposit** credits the receiver with what the amount scales down to. -/
theorem executeDeposit_dealt {initiator : Address} :
    Returns (s.executeDeposit D initiator asset amount user) (fun s' => ∃ s₁, Dealt s s₁ s' asset ∧
      (s'.uTokens asset).scaledBalanceOf user = (s₁.uTokens asset).scaledBalanceOf user
        + divHalfUp (amount * RAY) (s₁.lendPool.reserves asset).liquidityIndex) := by
  refine Returns.check fun _ => Returns.check fun _ => Returns.step fun _ _ => ?_
  refine Returns.step fun s₁ h₁ => ?_
  refine Sat.bind updateInterestRates_spec.returns fun s₂ h₂ => ?_
  obtain ⟨Rs, rfl, -, rates, -, hrates⟩ := h₂
  refine Sat.bind safeTransferFrom_posted fun s₃ h₃ => ?_
  obtain ⟨E, rfl, -⟩ := h₃
  refine Returns.step fun s₄ h₄ => ?_
  refine depositReserves_posted.imp fun s₅ h₅ => ?_
  obtain ⟨E', rfl, -⟩ := h₅
  -- the uToken mints, at the index that the reserve was brought up to
  obtain ⟨u, hu, h₄⟩ := bind_eq_ok.mp h₄
  obtain rfl := Except.ok.inj h₄
  obtain ⟨m, hm, hu⟩ := bind_eq_ok.mp hu
  obtain ⟨-, hu⟩ := require_bind_eq_ok.mp hu
  obtain ⟨-, hu⟩ := require_bind_eq_ok.mp hu
  have htime : s₁.blockTimestamp = s.blockTimestamp := by
    obtain ⟨_, _, rfl, -⟩ := updateState_spec.ok h₁
    rfl
  refine ⟨s₁, ⟨h₁, htime, rates, hrates⟩, ?_⟩
  show (Function.update s₁.uTokens asset u asset).scaledBalanceOf user = _
  have hindex : m = divHalfUp (amount * RAY) (Rs asset).liquidityIndex := (rayDiv_spec hm).2
  rw [ReserveData.setRates_eq hrates] at hindex
  rw [Function.update_self, ← Except.ok.inj hu, ← hindex]
  exact Function.update_self _ _ _

/-- What a withdrawal of `paid` does to the account of the user. -/
structure Debited (s s₁ s' : State) (asset user : Address) (paid : ℕ) : Prop where
  dealt : Dealt s s₁ s' asset
  covered : divHalfUp (paid * RAY) (s₁.lendPool.reserves asset).liquidityIndex
    ≤ (s₁.uTokens asset).scaledBalanceOf user
  scaled : (s'.uTokens asset).scaledBalanceOf user = (s₁.uTokens asset).scaledBalanceOf user
    - divHalfUp (paid * RAY) (s₁.lendPool.reserves asset).liquidityIndex

/-- **A withdrawal** debits the user with what the amount scales down to; it is at most her balance,
and the largest number stands for that. -/
theorem executeWithdraw_debited :
    Returns (s.executeWithdraw D user asset amount receiver) (fun p => ∃ s₁ balance,
      (s.lendPool.reserves asset).uTokenAddress ≠ 0 ∧
      s.uTokenBalanceOf asset user = .ok balance ∧ p.2 ≤ balance ∧
      p.2 = (if amount = maxUint256 then balance else amount) ∧
      Debited s s₁ p.1 asset user p.2) := by
  refine Returns.check fun _ => Returns.check fun hopen => Returns.step fun balance hbalance => ?_
  refine Returns.step fun _ hvalid => Returns.step fun s₁ h₁ => ?_
  obtain ⟨-, hvalid⟩ := require_bind_eq_ok.mp hvalid
  obtain ⟨hle, -⟩ := require_bind_eq_ok.mp hvalid
  refine Sat.bind updateInterestRates_spec.returns fun s₂ h₂ => ?_
  obtain ⟨Rs, rfl, -, rates, -, hrates⟩ := h₂
  refine Sat.bind withdrawReserves_posted fun p h₃ => ?_
  obtain ⟨s₃, value⟩ := p
  obtain ⟨E, n, hs₃, -⟩ := h₃
  obtain rfl := hs₃
  refine Returns.step fun s₄ h₄ => ?_
  -- the uToken burns, at the same index
  obtain ⟨m, hm, h₄⟩ := bind_eq_ok.mp h₄
  obtain ⟨-, h₄⟩ := require_bind_eq_ok.mp h₄
  obtain ⟨u, hu, h₄⟩ := bind_eq_ok.mp h₄
  obtain ⟨e, -, h₄⟩ := bind_eq_ok.mp h₄
  obtain rfl := Except.ok.inj h₄
  obtain ⟨-, hu⟩ := require_bind_eq_ok.mp hu
  obtain ⟨hcovered, hu⟩ := require_bind_eq_ok.mp hu
  have htime : s₁.blockTimestamp = s.blockTimestamp := by
    obtain ⟨_, _, rfl, -⟩ := updateState_spec.ok h₁
    rfl
  have hindex : m = divHalfUp (_ * RAY) (Rs asset).liquidityIndex := (rayDiv_spec hm).2
  rw [ReserveData.setRates_eq hrates] at hindex
  refine ⟨s₁, balance, hopen, hbalance, hle, rfl, ⟨h₁, htime, rates, hrates⟩, ?_, ?_⟩
  · rw [← hindex]
    exact hcovered
  · show (Function.update s₁.uTokens asset u asset).scaledBalanceOf user = _
    rw [Function.update_self, ← Except.ok.inj hu, ← hindex]
    exact Function.update_self _ _ _

/-! ## Withdrawing everything -/

/-- The time stamp of the reserve reads as the current block only in the block of the last update;
it has 40 bits, so there would be a second such block after 2 ^ 40 seconds. -/
def StampExact (s : State) (asset : Address) : Prop :=
  (s.lendPool.reserves asset).lastUpdateTimestamp = uint40 s.blockTimestamp →
    (s.lendPool.reserves asset).lastUpdateTimestamp = s.blockTimestamp

instance (s : State) (asset : Address) : Decidable (s.StampExact asset) :=
  inferInstanceAs (Decidable (_ → _))

/-- The income that balances are read at is the index that the reserve is brought up to. -/
theorem Updated.income_eq {Rs : Address → ReserveData} {income : ℕ} (h : s.Updated asset Rs)
    (hstamp : s.StampExact asset)
    (hincome : (s.lendPool.reserves asset).getNormalizedIncome s.blockTimestamp = .ok income) :
    income = (Rs asset).liquidityIndex := by
  rcases h.income_or hincome with hnew | ⟨hcurrent, rfl⟩
  · exact hnew
  obtain ⟨i, j, hR, hi, -⟩ := h.indices
  rw [hR]
  show _ = i
  by_cases hz : (s.lendPool.reserves asset).currentLiquidityRate = 0
  · exact (hi.1 hz).symm
  · -- the block of the last update: no time, no interest
    obtain ⟨f, hf, hindex⟩ := hi.2 hz
    rw [hstamp hcurrent, linear_same] at hf
    obtain rfl := Except.ok.inj hf
    rw [rayMul_spec hindex, Nat.mul_comm, divHalfUp_mul_self _ RAY_pos]

/-- **Nothing is left.** Whoever withdraws the whole balance, other than the treasury, burns the
whole scaled balance, however long ago the reserve was brought up to date and whatever its rate. -/
theorem withdraw_all_burns_all {p : State × ℕ} (hs : IndicesSound s.lendPool.reserves)
    (huser : user ≠ (s.uTokens asset).treasury) (hstamp : s.StampExact asset)
    (hok : s.executeWithdraw D user asset maxUint256 receiver = .ok p) :
    divHalfUp (p.2 * RAY) (p.1.lendPool.reserves asset).liquidityIndex
        = (s.uTokens asset).scaledBalanceOf user ∧
      (p.1.uTokens asset).scaledBalanceOf user = 0 := by
  obtain ⟨s₁, balance, hopen, hbalance, -, hpaid, hdebited⟩ := executeWithdraw_debited.ok hok
  rw [if_pos rfl] at hpaid
  obtain ⟨income, hincome, hbalance⟩ := bind_eq_ok.mp hbalance
  obtain ⟨Rs, U, hs₁, hupdated⟩ := updateState_spec.ok hdebited.dealt.updated
  have hindex : (s₁.lendPool.reserves asset).liquidityIndex = income := by
    rw [hupdated.income_eq hstamp hincome, hs₁]
    rfl
  have hray : RAY ≤ income := by
    obtain ⟨i, j, hR, hi, -⟩ := hupdated.indices
    rw [hupdated.income_eq hstamp hincome, hR]
    exact (hs asset hopen).1.trans hi.le
  -- the balance was read and is burnt at one index, of at least one ray
  have hwhole : divHalfUp (p.2 * RAY) income = (s.uTokens asset).scaledBalanceOf user := by
    rw [hpaid, rayMul_spec hbalance]
    exact divHalfUp_scale_unscale _ RAY_pos hray
  refine ⟨by rw [hdebited.dealt.index, hindex]; exact hwhole, ?_⟩
  rw [hdebited.scaled, hindex, hwhole, updateState_scaledBalanceOf hdebited.dealt.updated huser,
    Nat.sub_self]

/-- A deposit of ten WETH by user 102 after the loan, and some time. -/
def largerSupplied (seconds : ℕ) : State :=
  .larger .weth9 (largerLoan ++
    [.call 102 Deployment.larger_depositor (.deposit 10 (10 * WAD) 102),
    .event (.tick seconds)])

theorem largerSupplied_reachable (seconds : ℕ) :
    Reachable .larger (anyAction .larger) (largerSupplied seconds) :=
  State.larger_reachable _ _

/-- Three years later user 102 withdraws all she has. -/
theorem withdraw_all_burns_all_sample :
    ∃ p, (largerSupplied 100000000).executeWithdraw .larger 102 10 maxUint256 102 = .ok p ∧
      (p.1.uTokens 10).scaledBalanceOf 102 = 0 := by
  obtain ⟨p, hok⟩ := exists_ok_of_raised
    (x := (largerSupplied 100000000).executeWithdraw .larger 102 10 maxUint256 102)
    (by decide +kernel)
  have hs : IndicesSound (largerSupplied 100000000).lendPool.reserves :=
    (Reachable.books (largerSupplied_reachable _)).indices
  have huser : (102 : Address) ≠ ((largerSupplied 100000000).uTokens 10).treasury := by
    decide +kernel
  have hstamp : (largerSupplied 100000000).StampExact 10 := by decide +kernel
  generalize largerSupplied 100000000 = s at *
  exact ⟨p, hok, (withdraw_all_burns_all hs huser hstamp hok).2⟩

/-- **And after 2 ^ 40 seconds something is**: the time stamp reads as the current block, so that
she is paid her balance at the old index, while the reserve burns at the new one. -/
theorem withdraw_all_leaves_rest :
    Reachable .larger (anyAction .larger) (largerSupplied (2 ^ 40)) ∧
    (102 : Address) ≠ ((largerSupplied (2 ^ 40)).uTokens 10).treasury ∧
    ((largerSupplied (2 ^ 40)).executeWithdraw .larger 102 10 maxUint256 102).toOption.map
        (fun p => ((p.1.uTokens 10).scaledBalanceOf 102, p.2))
      = some (6059926239235209328, 10 * WAD) :=
  ⟨largerSupplied_reachable _, by decide +kernel, by decide +kernel⟩

/-! ## Dealing within a block -/

/-- The reserve is current, so that its index stays what it is for the block. -/
structure Current (s : State) (asset : Address) (index : ℕ) : Prop where
  sound : Clocked.Sound ⟨s.blockTimestamp, s.lendPool.reserves asset⟩
  stamp : (s.lendPool.reserves asset).lastUpdateTimestamp = s.blockTimestamp
  index : (s.lendPool.reserves asset).liquidityIndex = index

variable {index : ℕ}

/-- Bringing it up to date changes nothing, and new rates leave it current. -/
theorem Current.dealt (h : s.Current asset index) (hd : Dealt s s₁ s' asset) :
    s₁ = s ∧ s'.Current asset index := by
  obtain rfl := updateState_of_current h.sound h.stamp hd.updated
  obtain ⟨rates, hrates⟩ := hd.priced
  have hreserve := ReserveData.setRates_eq hrates
  refine ⟨rfl, ⟨?_, ?_, ?_⟩⟩
  · rw [hd.time, hreserve]
    exact ⟨h.sound.liquidityIndex, h.sound.variableBorrowIndex, h.sound.fits, h.sound.stamp_le,
      h.sound.stamp_lt⟩
  · rw [hd.time, hreserve]
    exact h.stamp
  · rw [hreserve]
    exact h.index

/-- Balances are read at its index. -/
theorem Current.balance {balance : ℕ} (h : s.Current asset index)
    (hb : s.uTokenBalanceOf asset user = .ok balance) :
    balance = divHalfUp ((s.uTokens asset).scaledBalanceOf user * index) RAY := by
  have hstamp : (s.lendPool.reserves asset).lastUpdateTimestamp = uint40 s.blockTimestamp := by
    rw [uint40_of_lt (h.stamp ▸ h.sound.stamp_lt), h.stamp]
  rw [uTokenBalanceOf_current hstamp hb, h.index]

/-- Deposits and withdrawals of one user at one reserve, what they have moved in and out, and how
many there were. -/
inductive Deals (D : Deployment) (user asset : Address) (start : State) :
    State → ℕ → ℕ → ℕ → Prop
  | start : Deals D user asset start start 0 0 0
  | deposit {s s' : State} {deposited withdrawn operations amount : ℕ} :
      Deals D user asset start s deposited withdrawn operations →
      s.executeDeposit D user asset amount user = .ok s' →
      Deals D user asset start s' (deposited + amount) withdrawn (operations + 1)
  | withdraw {s s' : State} {deposited withdrawn operations amount paid : ℕ} {receiver : Address} :
      Deals D user asset start s deposited withdrawn operations →
      s.executeWithdraw D user asset amount receiver = .ok (s', paid) →
      Deals D user asset start s' deposited (withdrawn + paid) (operations + 1)

/-- The account of the user is that of the state. -/
structure Kept (s : State) (user asset : Address) (index deposited withdrawn operations : ℕ)
    (c : ScaledAccount.Account) : Prop where
  current : s.Current asset index
  run : ScaledAccount.Account.Run RAY index .opened c
  scaled : (s.uTokens asset).scaledBalanceOf user = c.scaled
  deposited : deposited = c.deposited
  withdrawn : withdrawn = c.withdrawn
  operations : operations = c.operations

variable {deposited withdrawn operations : ℕ} {c : ScaledAccount.Account}

/-- A deposit of the protocol is one of the account. -/
theorem Kept.deposit (hc : s.Kept user asset index deposited withdrawn operations c)
    (hok : s.executeDeposit D user asset amount user = .ok s') :
    s'.Kept user asset index (deposited + amount) withdrawn (operations + 1)
      (c.deposit RAY index amount) := by
  obtain ⟨s₁, hdealt, hscaled⟩ := executeDeposit_dealt.ok hok
  obtain ⟨rfl, hcurrent⟩ := hc.current.dealt hdealt
  refine ⟨hcurrent, hc.run.tail (.deposit c amount), ?_, ?_, ?_, ?_⟩
  · rw [hscaled, hc.scaled, hc.current.index, ScaledAccount.Account.deposit_scaled]
  · rw [hc.deposited, ScaledAccount.Account.deposit_deposited]
  · rw [hc.withdrawn, ScaledAccount.Account.deposit_withdrawn]
  · rw [hc.operations, ScaledAccount.Account.deposit_operations]

/-- And so is a withdrawal: no more is paid out than the account reads. -/
theorem Kept.withdraw {p : State × ℕ}
    (hc : s.Kept user asset index deposited withdrawn operations c)
    (hok : s.executeWithdraw D user asset amount receiver = .ok p) :
    p.1.Kept user asset index deposited (withdrawn + p.2) (operations + 1)
      (c.withdraw RAY index p.2) := by
  obtain ⟨s₁, balance, -, hbalance, hle, -, hdebited⟩ := executeWithdraw_debited.ok hok
  obtain ⟨rfl, hcurrent⟩ := hc.current.dealt hdebited.dealt
  rw [hc.current.balance hbalance, hc.scaled] at hle
  refine ⟨hcurrent, hc.run.tail (.withdraw c p.2 hle), ?_, ?_, ?_, ?_⟩
  · rw [hdebited.scaled, hc.scaled, hc.current.index, ScaledAccount.Account.withdraw_scaled]
  · rw [hc.deposited, ScaledAccount.Account.withdraw_deposited]
  · rw [hc.withdrawn, ScaledAccount.Account.withdraw_withdrawn]
  · rw [hc.operations, ScaledAccount.Account.withdraw_operations]

/-- **The dealings refine an account.** Within a block, the deposits and withdrawals of a user are
those of an account at the index of the reserve. -/
theorem Deals.kept {start : State} (hcurrent : start.Current asset index)
    (hempty : (start.uTokens asset).scaledBalanceOf user = 0)
    (h : Deals D user asset start s deposited withdrawn operations) :
    ∃ c, s.Kept user asset index deposited withdrawn operations c := by
  induction h with
  | start => exact ⟨.opened, hcurrent, .refl, hempty, rfl, rfl, rfl⟩
  | deposit _ hok ih =>
    obtain ⟨c, hc⟩ := ih
    exact ⟨_, hc.deposit hok⟩
  | withdraw _ hok ih =>
    obtain ⟨c, hc⟩ := ih
    exact ⟨_, hc.withdraw hok⟩

/-- **What rounding is worth to a supplier.** In a block with an index of at least one ray, a user
with nothing in the reserve withdraws at most half an index for each operation more than she
deposits, and no more than she deposits if the index is one ray. At every larger index there is an
amount for which she does get more: she deposits it and withdraws her balance. -/
theorem suppliers_gain_little {start : State} (hcurrent : start.Current asset index)
    (hempty : (start.uTokens asset).scaledBalanceOf user = 0) :
    (∀ s deposited withdrawn operations,
      Deals D user asset start s deposited withdrawn operations →
      2 * (RAY * withdrawn) ≤ 2 * (RAY * deposited) + index * operations ∧
        (index = RAY → withdrawn ≤ deposited)) ∧
    (RAY < index → ∃ amount, ∀ s', start.executeDeposit D user asset amount user = .ok s' →
      ∀ receiver p, s'.executeWithdraw D user asset maxUint256 receiver = .ok p →
        amount < p.2) := by
  have hray : RAY ≤ index := hcurrent.index ▸ hcurrent.sound.liquidityIndex
  constructor
  · intro s deposited withdrawn operations h
    obtain ⟨c, hc⟩ := h.kept hcurrent hempty
    have hlimit := ScaledAccount.Account.Run.le RAY_pos hray hc.run
    rw [hc.deposited, hc.withdrawn, hc.operations]
    refine ⟨by omega, ?_⟩
    rintro rfl
    exact ScaledAccount.Account.Run.fair RAY_pos le_rfl hc.run
      (ScaledAccount.Account.Run.gained_unit RAY_pos hc.run).le
  · -- what the account gains from one deposit and withdrawal, she does
    intro hlt
    obtain ⟨amount, hprofit⟩ := exists_profit RAY_pos hlt
    refine ⟨amount, fun s' hdeposit receiver p hwithdraw => ?_⟩
    obtain ⟨s₁, hdealt, hscaled⟩ := executeDeposit_dealt.ok hdeposit
    obtain ⟨rfl, hcurrent'⟩ := hcurrent.dealt hdealt
    obtain ⟨_, balance, -, hbalance, -, hpaid, -⟩ := executeWithdraw_debited.ok hwithdraw
    rw [hempty, Nat.zero_add, hcurrent.index] at hscaled
    rw [if_pos rfl, hcurrent'.balance hbalance, hscaled] at hpaid
    rw [hpaid]
    exact hprofit

/-- The same, and in the last block the reserve has been brought up to date. -/
def largerBlock : State :=
  .larger .weth9 (largerLoan ++
    [.call 102 Deployment.larger_depositor (.deposit 10 (10 * WAD) 102),
    .event (.tick 100000000), .call 101 Deployment.larger_supplier (.deposit 10 WAD 101)])

theorem largerBlock_reachable : Reachable .larger (anyAction .larger) largerBlock :=
  State.larger_reachable _ _

/-- Its index is just above one ray. -/
theorem largerBlock_current : largerBlock.Current 10 1000139882427141398528839729 where
  sound := Clocked.Reachable.sound (Reachable.clocked largerBlock_reachable (by decide +kernel))
  stamp := by decide +kernel
  index := by decide +kernel

/-- User 103 has nothing in it, deposits 32174 wei, and withdraws all she reads: one wei more. -/
theorem largerBlock_deals : ∃ s, Deals .larger 103 10 largerBlock s 32174 32175 2 := by
  have hpaid : (largerBlock.executeDeposit .larger 103 10 32174 103 >>= fun s =>
      s.executeWithdraw .larger 103 10 maxUint256 103).toOption.map Prod.snd = some 32175 := by
    decide +kernel
  obtain ⟨p, hp, hpaid⟩ := Option.map_eq_some_iff.mp hpaid
  obtain ⟨s, hs, hp⟩ := bind_eq_ok.mp (eq_ok_of_toOption hp)
  have hdeals := (Deals.start.deposit hs).withdraw (show _ = Except.ok (p.1, p.2) from hp)
  rw [hpaid] at hdeals
  exact ⟨p.1, hdeals⟩

/-- It is within the limit. -/
theorem suppliers_gain_little_sample :
    ∃ s, Deals .larger 103 10 largerBlock s 32174 32175 2 ∧
      2 * (RAY * 32175) ≤ 2 * (RAY * 32174) + 1000139882427141398528839729 * 2 := by
  obtain ⟨s, hdeals⟩ := largerBlock_deals
  have hempty : (largerBlock.uTokens 10).scaledBalanceOf 103 = 0 := by decide +kernel
  exact ⟨s, hdeals, ((suppliers_gain_little largerBlock_current hempty).1 s _ _ _ hdeals).1⟩

/-- **A supplier can gain**, at an index of just above one ray. -/
theorem supplier_can_gain :
    Reachable .larger (anyAction .larger) largerBlock ∧
    largerBlock.Current 10 1000139882427141398528839729 ∧
    (largerBlock.uTokens 10).scaledBalanceOf 103 = 0 ∧
    ∃ s deposited withdrawn operations,
      Deals .larger 103 10 largerBlock s deposited withdrawn operations ∧
        deposited < withdrawn := by
  obtain ⟨s, hdeals⟩ := largerBlock_deals
  exact ⟨largerBlock_reachable, largerBlock_current, by decide +kernel, s, _, _, _, hdeals,
    by decide⟩

end State

end Unlockd
