/-
Withdrawals in ether.

The gateway withdraws in its own name: the uTokens of the caller are transferred to it, and it hands
them back to the pool. The transfer scales the amount down by the index, rounding half up, and the
pool lets the gateway withdraw no more than its balance, which is the scaled amount read back, again
rounded. So an amount that the caller could withdraw herself may not survive the detour. Which ones
do depends on one remainder, and on whether the gateway held any uTokens before.

Apart from the balance of the account that withdraws, a withdrawal does not look at the balances of
uTokens at all. This is what lets it be carried over from one account to the other.
-/
import Unlockd.WETHGateway
import Unlockd.Accounts

set_option autoImplicit false

namespace Unlockd

open Outcome FixedPoint

/-! ## Withdrawals and the balances of uTokens -/

/-- Two uTokens with the same treasury and the same managers. -/
def UToken.SameRoles (u v : UToken) : Prop :=
  v.treasury = u.treasury ∧ v.uTokenManagers = u.uTokenManagers

theorem UToken.SameRoles.symm {u v : UToken} (h : u.SameRoles v) : v.SameRoles u :=
  ⟨h.1.symm, h.2.symm⟩

/-- Minting to the treasury goes through for one as for the other, and takes nothing from anybody.
-/
theorem UToken.mintToTreasury_carried {u v u' : UToken} {amount index : ℕ} (h : u.SameRoles v)
    (hok : u.mintToTreasury amount index = .ok u') :
    ∃ v', v.mintToTreasury amount index = .ok v' ∧ u'.SameRoles v' ∧
      ∀ a, v.scaledBalanceOf a ≤ v'.scaledBalanceOf a := by
  unfold mintToTreasury at hok ⊢
  split at hok
  · obtain rfl := Except.ok.inj hok
    exact ⟨v, if_pos ‹_›, h, fun _ => le_rfl⟩
  · obtain ⟨n, hn, hok⟩ := bind_eq_ok.mp hok
    obtain ⟨hto, hok⟩ := require_bind_eq_ok.mp hok
    obtain rfl := Except.ok.inj hok
    rw [if_neg ‹_›, hn, ok_bind]
    refine ⟨_, require_bind_eq_ok.mpr ⟨h.1 ▸ hto, rfl⟩, h, fun a => ?_⟩
    dsimp only
    by_cases ha : a = v.treasury
    · rw [ha, Function.update_self]
      exact Nat.le_add_right _ _
    · rw [Function.update_of_ne ha]

namespace State

variable {D : Deployment} {s s' t : State} {asset uToken src dst receiver : Address} {amount : ℕ}
  {U : Address → UToken}

/-- Bringing a reserve up to date goes through whatever the balances of the uTokens are. -/
theorem updateState_carried (h : ∀ r, (s.uTokens r).SameRoles (U r))
    (hok : s.updateState asset = .ok s') :
    ∃ V, (s.withUTokens U).updateState asset = .ok (s'.withUTokens V) ∧
      (∀ r, (s'.uTokens r).SameRoles (V r)) ∧
      ∀ a, (U asset).scaledBalanceOf a ≤ (V asset).scaledBalanceOf a := by
  obtain ⟨R, hR, hok⟩ := bind_eq_ok.mp hok
  obtain ⟨n, hn, hok⟩ := bind_eq_ok.mp hok
  obtain ⟨u, hu, hok⟩ := bind_eq_ok.mp hok
  obtain rfl := Except.ok.inj hok
  obtain ⟨v, hv, hroles, hle⟩ := UToken.mintToTreasury_carried (h asset) hu
  refine ⟨Function.update U asset v, ?_, fun r => ?_, fun a => ?_⟩
  · exact bind_eq_ok.mpr ⟨R, hR, bind_eq_ok.mpr ⟨n, hn, bind_eq_ok.mpr ⟨v, hv, rfl⟩⟩⟩
  · show (Function.update s.uTokens asset u r).SameRoles (Function.update U asset v r)
    by_cases hr : r = asset
    · rw [hr, Function.update_self, Function.update_self]
      exact hroles
    · rw [Function.update_of_ne hr, Function.update_of_ne hr]
      exact h r
  · rw [Function.update_self]
    exact hle a

/-- The rates do not depend on them. -/
theorem updateInterestRates_carried {added taken : ℕ}
    (hok : s.updateInterestRates asset uToken added taken = .ok s') :
    (s.withUTokens U).updateInterestRates asset uToken added taken = .ok (s'.withUTokens U) := by
  obtain ⟨rates, hrates, hok⟩ := bind_eq_ok.mp hok
  obtain ⟨R, hR, hok⟩ := bind_eq_ok.mp hok
  obtain rfl := Except.ok.inj hok
  exact bind_eq_ok.mpr ⟨rates, hrates, bind_eq_ok.mpr ⟨R, hR, rfl⟩⟩

/-- A payment does not depend on them either. -/
theorem safeTransfer_carried (hok : s.safeTransfer asset src dst amount = .ok s') :
    (s.withUTokens U).safeTransfer asset src dst amount = .ok (s'.withUTokens U) := by
  obtain ⟨e, he, hok⟩ := bind_eq_ok.mp hok
  obtain rfl := Except.ok.inj hok
  exact bind_eq_ok.mpr ⟨e, he, rfl⟩

/-- Nor do the reserves in the vault. -/
theorem withdrawReserves_carried {caller : Address} {value : ℕ}
    (h : (s.uTokens asset).SameRoles (U asset))
    (hok : s.withdrawReserves D caller asset uToken amount = .ok (s', value)) :
    (s.withUTokens U).withdrawReserves D caller asset uToken amount
      = .ok (s'.withUTokens U, value) := by
  obtain ⟨hmanager, hok⟩ := require_bind_eq_ok.mp hok
  refine require_bind_eq_ok.mpr ⟨h.2 ▸ hmanager, ?_⟩
  split at hok
  · rename_i hweth
    rw [if_pos hweth]
    obtain ⟨n, hn, hok⟩ := bind_eq_ok.mp hok
    obtain ⟨hle, hok⟩ := require_bind_eq_ok.mp hok
    obtain ⟨s₁, hpaid, hok⟩ := bind_eq_ok.mp hok
    obtain ⟨rfl, rfl⟩ := Prod.mk.inj (Except.ok.inj hok)
    refine bind_eq_ok.mpr ⟨n, hn, require_bind_eq_ok.mpr ⟨hle, bind_eq_ok.mpr
      ⟨s₁.withUTokens U, safeTransfer_carried hpaid, rfl⟩⟩⟩
  · rename_i hweth
    rw [if_neg hweth]
    obtain ⟨rfl, rfl⟩ := Prod.mk.inj (Except.ok.inj hok)
    rfl

/-- A burn goes through for any account that has what it burns. -/
theorem burnUToken_carried {user user' : Address} {index : ℕ}
    (hok : s.burnUToken asset uToken user receiver amount index = .ok s') (huser : user' ≠ 0)
    (hcovered : divHalfUp (amount * RAY) index ≤ (U asset).scaledBalanceOf user') :
    ∃ t, (s.withUTokens U).burnUToken asset uToken user' receiver amount index = .ok t := by
  obtain ⟨n, hn, hok⟩ := bind_eq_ok.mp hok
  obtain ⟨hpos, hok⟩ := require_bind_eq_ok.mp hok
  obtain ⟨u, -, hpaid⟩ := bind_eq_ok.mp hok
  rw [← (rayDiv_spec hn).2] at hcovered
  obtain ⟨e, he, -⟩ := bind_eq_ok.mp hpaid
  exact ⟨_, bind_eq_ok.mpr ⟨n, hn, require_bind_eq_ok.mpr ⟨hpos, bind_eq_ok.mpr ⟨_,
    require_bind_eq_ok.mpr ⟨huser, require_bind_eq_ok.mpr ⟨hcovered, rfl⟩⟩,
    bind_eq_ok.mpr ⟨e, he, rfl⟩⟩⟩⟩⟩

/-- **The index of the view.** The income that balances are read at is the index that the reserve is
brought up to, or the stored one if the time stamp reads as the current block. -/
theorem Updated.income_or {Rs : Address → ReserveData} {income : ℕ} (h : s.Updated asset Rs)
    (hincome : (s.lendPool.reserves asset).getNormalizedIncome s.blockTimestamp = .ok income) :
    income = (Rs asset).liquidityIndex ∨
      (s.lendPool.reserves asset).lastUpdateTimestamp = uint40 s.blockTimestamp ∧
        income = (s.lendPool.reserves asset).liquidityIndex := by
  obtain ⟨i, j, hR, hi, -⟩ := h.indices
  rw [hR]
  show income = i ∨ _
  unfold ReserveData.getNormalizedIncome at hincome
  split at hincome
  · rename_i hcurrent
    exact .inr ⟨hcurrent, (Except.ok.inj hincome).symm⟩
  left
  obtain ⟨f, hf, hincome⟩ := bind_eq_ok.mp hincome
  by_cases hz : (s.lendPool.reserves asset).currentLiquidityRate = 0
  · -- no rate, no interest
    obtain ⟨-, hf⟩ := calculateLinearInterest_spec hf
    rw [hz, Nat.zero_mul, Nat.zero_div, Nat.zero_add] at hf
    rw [hi.1 hz, rayMul_spec hincome, hf, Nat.mul_comm, divHalfUp_mul_self _ RAY_pos]
  · obtain ⟨f', hf', hi'⟩ := hi.2 hz
    obtain rfl := Except.ok.inj (hf.symm.trans hf')
    exact Except.ok.inj (hincome.symm.trans hi')

/-- The index that a withdrawal burns at is no smaller than the income before. -/
theorem Updated.income_le {Rs : Address → ReserveData} {income : ℕ} (h : s.Updated asset Rs)
    (hincome : (s.lendPool.reserves asset).getNormalizedIncome s.blockTimestamp = .ok income) :
    income ≤ (Rs asset).liquidityIndex := by
  rcases h.income_or hincome with hnew | ⟨-, hstored⟩
  · exact hnew.le
  · obtain ⟨i, j, hR, hi, -⟩ := h.indices
    rw [hstored, hR]
    exact hi.le

/-- The steps of a withdrawal, of an amount that is not the largest number. -/
structure WithdrawalSteps (D : Deployment) (s : State) (user asset : Address) (amount : ℕ)
    (receiver : Address) (income : ℕ) (s₁ s₂ s₃ s₄ : State) (value : ℕ) : Prop where
  target : receiver ≠ 0
  initialised : (s.lendPool.reserves asset).uTokenAddress ≠ 0
  valid : ∃ balance, s.uTokenBalanceOf asset user = .ok balance ∧ s.validateWithdraw asset
    (s.lendPool.reserves asset).uTokenAddress amount balance = .ok ⟨⟩
  updated : s.updateState asset = .ok s₁
  priced : s₁.updateInterestRates asset (s.lendPool.reserves asset).uTokenAddress 0 amount = .ok s₂
  drawn : s₂.withdrawReserves D D.lendPool asset (s.lendPool.reserves asset).uTokenAddress amount
    = .ok (s₃, value)
  burnt : s₃.burnUToken asset (s.lendPool.reserves asset).uTokenAddress user receiver amount
    (s₃.lendPool.reserves asset).liquidityIndex = .ok s₄
  index : income ≤ (s₃.lendPool.reserves asset).liquidityIndex

theorem executeWithdraw_steps {user : Address} {income : ℕ} {p : State × ℕ}
    (hmax : amount ≠ maxUint256)
    (hincome : (s.lendPool.reserves asset).getNormalizedIncome s.blockTimestamp = .ok income)
    (hok : s.executeWithdraw D user asset amount receiver = .ok p) :
    ∃ s₁ s₂ s₃ s₄ value, WithdrawalSteps D s user asset amount receiver income s₁ s₂ s₃
      s₄ value := by
  obtain ⟨hto, hok⟩ := require_bind_eq_ok.mp hok
  obtain ⟨huToken, hok⟩ := require_bind_eq_ok.mp hok
  obtain ⟨b, hb, hok⟩ := bind_eq_ok.mp hok
  rw [if_neg hmax] at hok
  obtain ⟨_, hvalid, hok⟩ := bind_eq_ok.mp hok
  obtain ⟨s₁, h₁, hok⟩ := bind_eq_ok.mp hok
  obtain ⟨s₂, h₂, hok⟩ := bind_eq_ok.mp hok
  obtain ⟨⟨s₃, value⟩, h₃, hok⟩ := bind_eq_ok.mp hok
  obtain ⟨s₄, h₄, -⟩ := bind_eq_ok.mp hok
  refine ⟨s₁, s₂, s₃, s₄, value, hto, huToken, ⟨b, hb, hvalid⟩, h₁, h₂, h₃, h₄, ?_⟩
  -- the index at the end is the one the reserve was brought up to
  obtain ⟨Rs, U₁, rfl, hupd⟩ := updateState_spec.ok h₁
  obtain ⟨Rs', rfl, -, rates, -, hrates⟩ := updateInterestRates_spec.ok h₂
  obtain ⟨E, n, hs₃, -⟩ := withdrawReserves_posted.ok h₃
  obtain rfl := hs₃
  show income ≤ (Rs' asset).liquidityIndex
  rw [ReserveData.setRates_eq hrates]
  exact hupd.income_le hincome

/-- **Carrying a withdrawal over.** If one account can withdraw an amount, then so can another in a
state with other balances of uTokens, if it can read the amount off its balance and has what the
amount scales down to. -/
theorem executeWithdraw_carried {user user' : Address} {income balance : ℕ} {p : State × ℕ}
    (h : ∀ r, (s.uTokens r).SameRoles (U r)) (hmax : amount ≠ maxUint256)
    (hok : s.executeWithdraw D user asset amount receiver = .ok p) (huser : user' ≠ 0)
    (hincome : (s.lendPool.reserves asset).getNormalizedIncome s.blockTimestamp = .ok income)
    (hpos : 0 < income)
    (hbalance : rayMul ((U asset).scaledBalanceOf user') income = .ok balance)
    (hread : amount ≤ balance)
    (hcovered : divHalfUp (amount * RAY) income ≤ (U asset).scaledBalanceOf user') :
    ∃ p', (s.withUTokens U).executeWithdraw D user' asset amount receiver = .ok p' := by
  obtain ⟨s₁, s₂, s₃, s₄, value, c⟩ := executeWithdraw_steps hmax hincome hok
  obtain ⟨V, hV, hroles, hgrown⟩ := updateState_carried h c.updated
  have hroles₂ : (s₂.uTokens asset).SameRoles (V asset) := by
    obtain ⟨Rs', rfl, -⟩ := updateInterestRates_spec.ok c.priced
    exact hroles asset
  obtain ⟨t, ht⟩ := burnUToken_carried (U := V) c.burnt huser
    ((divHalfUp_anti _ hpos c.index).trans (hcovered.trans (hgrown user')))
  refine ⟨(t, amount), require_bind_eq_ok.mpr ⟨c.target,
    require_bind_eq_ok.mpr ⟨c.initialised, ?_⟩⟩⟩
  refine bind_eq_ok.mpr ⟨balance, bind_eq_ok.mpr ⟨income, hincome, hbalance⟩, ?_⟩
  rw [if_neg hmax]
  refine bind_eq_ok.mpr ⟨⟨⟩, ?_, bind_eq_ok.mpr ⟨_, hV, bind_eq_ok.mpr
    ⟨_, updateInterestRates_carried c.priced, bind_eq_ok.mpr
    ⟨_, withdrawReserves_carried hroles₂ c.drawn, bind_eq_ok.mpr ⟨t, ht, rfl⟩⟩⟩⟩⟩
  obtain ⟨b, -, hvalid⟩ := c.valid
  obtain ⟨hsome, hvalid⟩ := require_bind_eq_ok.mp hvalid
  obtain ⟨-, hvalid⟩ := require_bind_eq_ok.mp hvalid
  exact require_bind_eq_ok.mpr ⟨hsome, require_bind_eq_ok.mpr ⟨hread, hvalid⟩⟩

end State

/-! ## Handing uTokens to the gateway -/

/-- An account that held a scaled balance can read an amount off its balance once it has been handed
that amount at an index. -/
def ReadsBack (held amount index : ℕ) : Prop :=
  (held + divHalfUp (amount * RAY) index) * index ≤ maxUint256 - RAY / 2 ∧
    (held ≠ 0 ∨ 2 * (amount * RAY % index) ≤ RAY ∨ index ≤ 2 * (amount * RAY % index))

instance (held amount index : ℕ) : Decidable (ReadsBack held amount index) :=
  inferInstanceAs (Decidable (_ ∧ _))

namespace State

variable {s t : State} {asset src dst : Address} {amount : ℕ}

/-- What a transfer of uTokens does: the scaled amount changes hands, and all else stays. -/
structure HandedOver (s t : State) (asset src dst : Address) (amountScaled : ℕ) : Prop where
  state : t = s.withUTokens t.uTokens
  roles : ∀ r, (s.uTokens r).SameRoles (t.uTokens r)
  held : (t.uTokens asset).scaledBalanceOf dst
    = (s.uTokens asset).scaledBalanceOf dst + amountScaled
  sender : src ≠ 0
  notPaused : s.lendPool.paused = false

theorem transferUToken_handedOver {income : ℕ} (hne : src ≠ dst)
    (hincome : (s.lendPool.reserves asset).getNormalizedIncome s.blockTimestamp = .ok income)
    (hok : s.transferUToken asset src dst amount = .ok t) :
    HandedOver s t asset src dst (divHalfUp (amount * RAY) income) := by
  obtain ⟨i, hi, hok⟩ := bind_eq_ok.mp hok
  obtain rfl := Except.ok.inj (hincome.symm.trans hi)
  obtain ⟨_, -, hok⟩ := bind_eq_ok.mp hok
  obtain ⟨_, -, hok⟩ := bind_eq_ok.mp hok
  obtain ⟨n, hn, hok⟩ := bind_eq_ok.mp hok
  obtain ⟨u, hu, hok⟩ := bind_eq_ok.mp hok
  obtain ⟨hpaused, hok⟩ := require_bind_eq_ok.mp hok
  obtain rfl := Except.ok.inj hok
  obtain ⟨hto, hu⟩ := require_bind_eq_ok.mp hu
  obtain ⟨-, hu⟩ := require_bind_eq_ok.mp hu
  obtain rfl := Except.ok.inj hu
  obtain rfl := (rayDiv_spec hn).2
  refine ⟨rfl, fun r => ?_, ?_, hto.1, hpaused⟩
  · by_cases hr : r = asset
    · subst hr
      simp [setUToken, UToken.SameRoles]
    · simp [setUToken, hr, UToken.SameRoles]
  · simp [setUToken, hne.symm]

/-- **The balance of the receiver** covers the amount just when the amount can be read back. -/
theorem HandedOver.covered_iff {income : ℕ} (hray : RAY ≤ income)
    (hincome : (s.lendPool.reserves asset).getNormalizedIncome s.blockTimestamp = .ok income)
    (h : HandedOver s t asset src dst (divHalfUp (amount * RAY) income)) :
    (∃ b, t.uTokenBalanceOf asset dst = .ok b ∧ amount ≤ b) ↔
      ReadsBack ((s.uTokens asset).scaledBalanceOf dst) amount income := by
  have hsame : (t.lendPool.reserves asset).getNormalizedIncome t.blockTimestamp = .ok income := by
    rw [h.state]
    exact hincome
  have hbalance : t.uTokenBalanceOf asset dst
      = rayMul ((s.uTokens asset).scaledBalanceOf dst + divHalfUp
        (amount * RAY) income) income := by
    rw [uTokenBalanceOf, hsame, ok_bind, h.held]
  rw [hbalance, ReadsBack, ← le_reading_iff RAY_pos hray]
  constructor
  · rintro ⟨b, hb, hle⟩
    obtain ⟨hfits, rfl⟩ := unitMul_eq_ok.mp hb
    exact ⟨hfits, hle⟩
  · rintro ⟨hfits, hle⟩
    exact ⟨_, unitMul_ok hfits, hle⟩

/-- An amount that can be read off a balance can be handed over, if the pool is not paused and no
number overflows. -/
theorem transferUToken_ok {income balance : ℕ} (hray : RAY ≤ income)
    (hincome : (s.lendPool.reserves asset).getNormalizedIncome s.blockTimestamp = .ok income)
    (hbalance : s.uTokenBalanceOf asset src = .ok balance) (hle : amount ≤ balance)
    (hends : src ≠ 0 ∧ dst ≠ 0) (hpaused : s.lendPool.paused = false)
    (hdst : (s.uTokens asset).scaledBalanceOf dst * income ≤ maxUint256 - RAY / 2)
    (hscaled : amount * RAY ≤ maxUint256 - income / 2) :
    ∃ t, s.transferUToken asset src dst amount = .ok t := by
  rw [uTokenBalanceOf, hincome, ok_bind] at hbalance
  have hcovered := unscale_le RAY_pos hray ((unitMul_eq_ok.mp hbalance).2 ▸ hle)
  refine ⟨_, bind_eq_ok.mpr ⟨income, hincome, bind_eq_ok.mpr ⟨balance, hbalance, bind_eq_ok.mpr
    ⟨_, unitMul_ok hdst, bind_eq_ok.mpr ⟨_, ?_, bind_eq_ok.mpr ⟨_, require_bind_eq_ok.mpr
    ⟨hends, require_bind_eq_ok.mpr ⟨hcovered, rfl⟩⟩, require_bind_eq_ok.mpr ⟨hpaused, rfl⟩⟩⟩⟩⟩⟩⟩
  exact unitDiv_ok RAY_pos (Nat.ne_of_gt (RAY_pos.trans_le hray)) hscaled

section HandingOver

variable {D : Deployment} {gateway : Address} {income balance : ℕ}
  (hincome : (s.lendPool.reserves asset).getNormalizedIncome s.blockTimestamp = .ok income)
  (hray : RAY ≤ income)
  (hread : rayMul ((s.uTokens asset).scaledBalanceOf src) income = .ok balance)
  (hle : amount ≤ balance) (hmax : amount ≠ maxUint256) (hne : src ≠ gateway)

include hincome hray hread hle hmax hne

/-- What the receiver of uTokens can withdraw, the sender could have withdrawn to it, and it can be
read off the balance of the receiver. -/
theorem withdraw_of_handedOver (ht : s.transferUToken asset src gateway amount = .ok t) {s' : State}
    (hok : t.perform D gateway (.withdraw asset amount gateway) = .ok s') :
    (∃ s', s.perform D src (.withdraw asset amount gateway) = .ok s') ∧
      ∃ b, t.uTokenBalanceOf asset gateway = .ok b ∧ amount ≤ b := by
  obtain ⟨-, hok⟩ := require_bind_eq_ok.mp hok
  obtain ⟨q, hq, -⟩ := bind_eq_ok.mp hok
  have hover := transferUToken_handedOver hne hincome ht
  have hincome' : (t.lendPool.reserves asset).getNormalizedIncome t.blockTimestamp
      = .ok income := by
    rw [hover.state]
    exact hincome
  have hcovered : divHalfUp (amount * RAY) income ≤ (s.uTokens asset).scaledBalanceOf src :=
    unscale_le RAY_pos hray ((unitMul_eq_ok.mp hread).2 ▸ hle)
  constructor
  · -- back to the sender
    have hback : s = t.withUTokens s.uTokens := by
      rw [hover.state]
      rfl
    obtain ⟨p', hp'⟩ := executeWithdraw_carried (U := s.uTokens) (fun r => (hover.roles r).symm)
      hmax hq hover.sender hincome' (RAY_pos.trans_le hray) hread hle hcovered
    rw [← hback] at hp'
    exact ⟨p'.1, require_bind_eq_ok.mpr ⟨hover.notPaused, bind_eq_ok.mpr ⟨p', hp', rfl⟩⟩⟩
  · obtain ⟨_, _, _, _, _, c⟩ := executeWithdraw_steps hmax hincome' hq
    obtain ⟨b, hb, hvalid⟩ := c.valid
    obtain ⟨-, hvalid⟩ := require_bind_eq_ok.mp hvalid
    exact ⟨b, hb, (require_bind_eq_ok.mp hvalid).1⟩

/-- What can be read back, the receiver of uTokens can withdraw if the sender could have. -/
theorem handedOver_of_withdraw (hgateway : gateway ≠ 0) {s' : State}
    (hok : s.perform D src (.withdraw asset amount gateway) = .ok s')
    (hreads : ReadsBack ((s.uTokens asset).scaledBalanceOf gateway) amount income) :
    ∃ t, s.transferUToken asset src gateway amount = .ok t ∧
      ∃ t', t.perform D gateway (.withdraw asset amount gateway) = .ok t' := by
  obtain ⟨hpaused, hok⟩ := require_bind_eq_ok.mp hok
  obtain ⟨q, hq, -⟩ := bind_eq_ok.mp hok
  obtain ⟨_, _, s₃, _, _, c⟩ := executeWithdraw_steps hmax hincome hq
  obtain ⟨n, hn, hburnt⟩ := bind_eq_ok.mp c.burnt
  obtain ⟨-, hburnt⟩ := require_bind_eq_ok.mp hburnt
  obtain ⟨_, hburnt, -⟩ := bind_eq_ok.mp hburnt
  obtain ⟨huser, -⟩ := require_bind_eq_ok.mp hburnt
  -- the receiver's balance fits before as well, and so does the amount at the smaller index
  have hdst : (s.uTokens asset).scaledBalanceOf gateway * income ≤ maxUint256 - RAY / 2 :=
    (Nat.mul_le_mul_right income (Nat.le_add_right _ _)).trans hreads.1
  have hscaled : amount * RAY ≤ maxUint256 - income / 2 := by
    obtain ⟨-, hn⟩ := require_bind_eq_ok.mp hn
    obtain ⟨hfits, -⟩ := require_bind_eq_ok.mp hn
    refine ((Nat.le_div_iff_mul_le RAY_pos).mp hfits).trans ?_
    exact Nat.sub_le_sub_left (Nat.div_le_div_right c.index) _
  have hbalance : s.uTokenBalanceOf asset src = .ok balance := by
    rwa [uTokenBalanceOf, hincome, ok_bind]
  obtain ⟨t, ht⟩ := transferUToken_ok hray hincome hbalance hle ⟨huser, hgateway⟩ hpaused hdst
    hscaled
  have hover := transferUToken_handedOver hne hincome ht
  obtain ⟨b, hb, hread'⟩ := (hover.covered_iff hray hincome).mpr hreads
  have hb' : rayMul ((t.uTokens asset).scaledBalanceOf gateway) income = .ok b := by
    rw [hover.state] at hb
    obtain ⟨i, hi, hb⟩ := bind_eq_ok.mp hb
    obtain rfl := Except.ok.inj (hincome.symm.trans hi)
    exact hb
  obtain ⟨p', hp'⟩ := executeWithdraw_carried hover.roles hmax hq hgateway hincome
    (RAY_pos.trans_le hray) hb' hread' (by rw [hover.held]; exact Nat.le_add_left _ _)
  rw [← hover.state] at hp'
  refine ⟨t, ht, p'.1, require_bind_eq_ok.mpr ⟨?_, bind_eq_ok.mpr ⟨p', hp', rfl⟩⟩⟩
  rw [hover.state]
  exact hpaused

end HandingOver

end State

/-! ## The call of the gateway -/

section Gateway

variable {D : Deployment} {G : Gateways D} {w : World} {sender : Address}
  {amount balance income : ℕ}

/-- The amount that `withdrawETH` moves, for a caller with some balance. -/
def amountToWithdraw (amount balance : ℕ) : ℕ :=
  if amount = maxUint256 then balance else amount

theorem amountToWithdraw_le (h : amount = maxUint256 ∨ amount ≤ balance) :
    amountToWithdraw amount balance ≤ balance := by
  unfold amountToWithdraw
  split
  · exact le_rfl
  · exact h.resolve_left ‹_›

/-- Balances are far below the largest number. -/
theorem amountToWithdraw_ne_max {scaled : ℕ} (hbalance : rayMul scaled income = .ok balance)
    (h : amount = maxUint256 ∨ amount ≤ balance) : amountToWithdraw amount balance
      ≠ maxUint256 := by
  have hfits := unitMul_fits (by decide) hbalance
  have hle := amountToWithdraw_le h
  intro heq
  rw [heq] at hle
  have hmul : maxUint256 * RAY ≤ maxUint256 := (Nat.mul_le_mul_right RAY hle).trans hfits
  revert hmul
  decide

/-- The gateway hands over the uTokens and withdraws. -/
theorem withdrawUWETH_ok_iff (hbalance : w.protocol.uTokenBalanceOf D.weth sender = .ok balance)
    (hallowance : amountToWithdraw amount balance
      ≤ w.uTokenAllowance D.weth sender G.wethGateway) :
    (∃ p, w.withdrawUWETH G sender amount = .ok p) ↔
      ∃ t, w.protocol.transferUToken D.weth sender G.wethGateway (amountToWithdraw amount balance)
          = .ok t ∧
        ∃ s', t.perform D G.wethGateway
          (.withdraw D.weth (amountToWithdraw amount balance) G.wethGateway) = .ok s' := by
  constructor
  · rintro ⟨p, hok⟩
    obtain ⟨b, hb, hok⟩ := bind_eq_ok.mp hok
    obtain rfl := Except.ok.inj (hbalance.symm.trans (inProtocol_eq_ok.mp hb))
    obtain ⟨w₁, hw₁, hok⟩ := bind_eq_ok.mp hok
    obtain ⟨w₂, hw₂, -⟩ := bind_eq_ok.mp hok
    obtain ⟨t, ht, hw₁⟩ := bind_eq_ok.mp hw₁
    obtain ⟨-, hw₁⟩ := require_bind_eq_ok.mp hw₁
    obtain rfl := Except.ok.inj hw₁
    obtain ⟨s', hs', -⟩ := bind_eq_ok.mp hw₂
    exact ⟨t, inProtocol_eq_ok.mp ht, s', inProtocol_eq_ok.mp hs'⟩
  · rintro ⟨t, ht, s', hs'⟩
    exact ⟨_, bind_eq_ok.mpr ⟨balance, inProtocol_eq_ok.mpr hbalance, bind_eq_ok.mpr ⟨_,
      bind_eq_ok.mpr ⟨t, inProtocol_eq_ok.mpr ht, require_bind_eq_ok.mpr ⟨hallowance, rfl⟩⟩,
      bind_eq_ok.mpr ⟨_, bind_eq_ok.mpr ⟨s', inProtocol_eq_ok.mpr hs', rfl⟩, rfl⟩⟩⟩⟩

/-- **Withdrawing in ether.** For every caller and every amount up to her balance, or the largest
number: once the uTokens have been handed over, the balance of the gateway covers the amount just
when it can be read back; and the gateway can withdraw it just when, besides, the caller could have
withdrawn it to the gateway herself. -/
theorem withdrawUWETH_iff
    (hincome : (w.protocol.lendPool.reserves D.weth).getNormalizedIncome w.protocol.blockTimestamp
      = .ok income) (hray : RAY ≤ income)
    (hbalance : w.protocol.uTokenBalanceOf D.weth sender = .ok balance)
    (hamount : amount = maxUint256 ∨ amount ≤ balance) (hsender : sender ≠ G.wethGateway)
    (hallowance : amountToWithdraw amount balance
      ≤ w.uTokenAllowance D.weth sender G.wethGateway) :
    (∀ t, w.protocol.transferUToken D.weth sender G.wethGateway (amountToWithdraw amount balance)
        = .ok t →
      ((∃ b, t.uTokenBalanceOf D.weth G.wethGateway = .ok b ∧
          amountToWithdraw amount balance ≤ b) ↔
        ReadsBack ((w.protocol.uTokens D.weth).scaledBalanceOf G.wethGateway)
          (amountToWithdraw amount balance) income)) ∧
    ((∃ p, w.withdrawUWETH G sender amount = .ok p) ↔
      (∃ s', w.protocol.perform D sender
        (.withdraw D.weth (amountToWithdraw amount balance) G.wethGateway) = .ok s') ∧
      ReadsBack ((w.protocol.uTokens D.weth).scaledBalanceOf G.wethGateway)
        (amountToWithdraw amount balance) income) := by
  have hread : rayMul ((w.protocol.uTokens D.weth).scaledBalanceOf sender) income
    = .ok balance := by
    rwa [State.uTokenBalanceOf, hincome, ok_bind] at hbalance
  have hle := amountToWithdraw_le hamount
  have hmax := amountToWithdraw_ne_max hread hamount
  refine ⟨fun t ht => (State.transferUToken_handedOver hsender hincome ht).covered_iff hray hincome,
    ?_⟩
  rw [withdrawUWETH_ok_iff hbalance hallowance]
  constructor
  · rintro ⟨t, ht, s', hs'⟩
    obtain ⟨hdirect, hcovered⟩ := State.withdraw_of_handedOver hincome hray hread hle hmax hsender
      ht hs'
    have hover := State.transferUToken_handedOver hsender hincome ht
    exact ⟨hdirect, (hover.covered_iff hray hincome).mp hcovered⟩
  · rintro ⟨⟨s', hs'⟩, hreads⟩
    exact State.handedOver_of_withdraw hincome hray hread hle hmax hsender G.wethGateway_isUser.1
      hs' hreads

/-- The whole balance can always be handed on, as far as the numbers fit. -/
theorem readsBack_whole {scaled : ℕ} (hray : RAY ≤ income)
    (hbalance : rayMul scaled income = .ok balance) :
    ReadsBack 0 (amountToWithdraw maxUint256 balance) income := by
  obtain ⟨hfits, rfl⟩ := unitMul_eq_ok.mp hbalance
  rw [amountToWithdraw, if_pos rfl]
  refine ⟨?_, .inr (reading_hands_on scaled RAY_pos hray)⟩
  rw [divHalfUp_scale_unscale scaled RAY_pos hray, Nat.zero_add]
  exact hfits

end Gateway

/-- A deposit of 1000 WETH, three years after a loan of 30 was taken out. -/
def State.largerYears : State :=
  State.larger .weth9 (largerLoan ++ [.event (.tick 100000000)])

theorem State.largerYears_income : (State.largerYears.lendPool.reserves 10).getNormalizedIncome
    State.largerYears.blockTimestamp = .ok 1000142694063926940639269406 := by decide +kernel

theorem State.largerYears_balance :
    State.largerYears.uTokenBalanceOf 10 101 = .ok 1000142694063926940639 :=
  eq_ok_of_toOption (by decide +kernel)

/-- One WETH can be withdrawn in ether. -/
theorem withdrawUWETH_iff_sample :
    ∃ p, (World.around State.largerYears).withdrawUWETH .larger 101 WAD = .ok p := by
  have hincome := State.largerYears_income
  have hbalance := State.largerYears_balance
  have hdirect : ∃ s', State.largerYears.perform .larger 101 (.withdraw 10 WAD 110) = .ok s' :=
    exists_ok_of_raised (by decide +kernel)
  have hheld : (State.largerYears.uTokens 10).scaledBalanceOf 110 = 0 := by decide +kernel
  generalize State.largerYears = s at *
  have hallowance : amountToWithdraw WAD 1000142694063926940639 ≤ maxUint256 := by decide
  refine (withdrawUWETH_iff (G := .larger) (w := .around s) hincome (by decide) hbalance
    (.inr (by decide)) (by decide) hallowance).2.mpr ⟨hdirect, ?_⟩
  show ReadsBack ((s.uTokens 10).scaledBalanceOf 110) WAD 1000142694063926940639269406
  rw [hheld]
  decide +kernel

/-- **A withdrawal in ether can be refused.** A few wei more than one WETH are well below the
balance of user 101, and she could withdraw them herself; through the gateway she cannot. -/
theorem withdrawUWETH_refused :
    Reachable .larger (anyAction .larger) State.largerYears ∧
    State.largerYears.uTokenBalanceOf 10 101 = .ok 1000142694063926940639 ∧
    (∃ s', State.largerYears.perform .larger 101 (.withdraw 10 (WAD + 3630) 110) = .ok s') ∧
    raised ((World.around State.largerYears).withdrawUWETH .larger 101 (WAD + 3630))
      = some (.reverted .VL_NOT_ENOUGH_AVAILABLE_USER_BALANCE) := by
  exact ⟨State.larger_reachable _ _, State.largerYears_balance,
    exists_ok_of_raised (by decide +kernel), by decide +kernel⟩

end Unlockd
