/-
Deactivation.

What is inactive can not be used: an inactive reserve pays no deposit out, and a loan whose
collection or token is inactive can not be repaid. Nothing should therefore be deactivated while
it is in use. The configurator guards two of its three entry points. A collection is in use while
a loan is counted on it, and that count is exact. Of a reserve the guard asks the uToken, whose
proxy does not answer its own admin, so that no reserve is ever deactivated, used or not. Single
tokens are deactivated without any guard.

What is in use stays active in every run just where no token with a live loan is deactivated. The
other operations do no harm: what is inactive and not in use is not taken into use.
-/
import Unlockd.Parameters
import Unlockd.Consent
import Unlockd.Outstanding

set_option autoImplicit false

namespace Unlockd

open Outcome Machine Tally NftConfiguration

/-! ## Debt covers debts -/

namespace DebtToken

variable {d d' : DebtToken} {caller initiator onBehalfOf user : Address} {amount index : ℕ}

/-- Minting puts the same on the account and on the total. -/
theorem mint_adds (h : d.mint caller initiator onBehalfOf amount index = .ok d') :
    ∃ n, d'.scaledTotalSupply = d.scaledTotalSupply + n ∧ d'.scaledBalanceOf
      = Function.update d.scaledBalanceOf onBehalfOf (d.scaledBalanceOf onBehalfOf + n) := by
  obtain ⟨-, h⟩ := require_bind_eq_ok.mp h
  obtain ⟨d₁, hd₁, h⟩ := bind_eq_ok.mp h
  obtain ⟨n, -, h⟩ := bind_eq_ok.mp h
  obtain ⟨-, h⟩ := require_bind_eq_ok.mp h
  obtain ⟨-, h⟩ := require_bind_eq_ok.mp h
  obtain rfl := Except.ok.inj h
  refine ⟨n, ?_⟩
  unfold applyIf at hd₁
  split at hd₁
  · obtain ⟨-, hd₁⟩ := require_bind_eq_ok.mp hd₁
    obtain rfl := Except.ok.inj hd₁
    exact ⟨rfl, rfl⟩
  · obtain rfl := Except.ok.inj hd₁
    exact ⟨rfl, rfl⟩

/-- Burning takes the same off both, and never nothing. -/
theorem burn_takes (h : d.burn caller user amount index = .ok d') :
    ∃ n, n ≠ 0 ∧ n ≤ d.scaledBalanceOf user ∧
      d'.scaledTotalSupply = d.scaledTotalSupply - n ∧ d'.scaledBalanceOf
        = Function.update d.scaledBalanceOf user (d.scaledBalanceOf user - n) := by
  obtain ⟨-, h⟩ := require_bind_eq_ok.mp h
  obtain ⟨n, -, h⟩ := bind_eq_ok.mp h
  obtain ⟨hn, h⟩ := require_bind_eq_ok.mp h
  obtain ⟨-, h⟩ := require_bind_eq_ok.mp h
  obtain ⟨hle, h⟩ := require_bind_eq_ok.mp h
  obtain rfl := Except.ok.inj h
  exact ⟨n, hn, hle, rfl, rfl⟩

end DebtToken

/-- The total debt to every reserve covers the debts of all accounts. -/
def DebtsCovered (T : Address → DebtToken) : Prop :=
  ∀ r, Covers (T r).scaledTotalSupply (T r).scaledBalanceOf

section Tokens

variable {caller reserve initiator onBehalfOf user : Address} {amount index : ℕ}
  {T T' : Address → DebtToken}

theorem Minted.covered (h : Minted caller reserve initiator onBehalfOf amount index T T')
    (hT : DebtsCovered T) : DebtsCovered T' := by
  obtain ⟨d, hd, rfl⟩ := h
  obtain ⟨n, htotal, hbalance⟩ := DebtToken.mint_adds hd
  intro r
  by_cases hr : r = reserve
  · subst hr
    rw [Function.update_self, htotal, hbalance]
    exact (hT r).credit onBehalfOf n
  · rw [Function.update_of_ne hr]
    exact hT r

theorem Burnt.covered (h : Burnt caller reserve user amount index T T') (hT : DebtsCovered T) :
    DebtsCovered T' := by
  obtain ⟨d, hd, rfl⟩ := h
  obtain ⟨n, -, hle, htotal, hbalance⟩ := DebtToken.burn_takes hd
  intro r
  by_cases hr : r = reserve
  · subst hr
    rw [Function.update_self, htotal, hbalance]
    exact (hT r).debit hle
  · rw [Function.update_of_ne hr]
    exact hT r

/-- Where there is no debt, none can be burnt. -/
theorem Burnt.owed (h : Burnt caller reserve user amount index T T') (hT : DebtsCovered T) :
    (T reserve).scaledTotalSupply ≠ 0 := by
  obtain ⟨d, hd, -⟩ := h
  obtain ⟨n, hn, hle, -, -⟩ := DebtToken.burn_takes hd
  have hcover := (hT reserve).le user
  omega

theorem Burnt.apart (h : Burnt caller reserve user amount index T T') {r : Address}
    (hr : r ≠ reserve) : T' r = T r := by
  obtain ⟨d, -, rfl⟩ := h
  exact Function.update_of_ne hr _ _

theorem Minted.apart (h : Minted caller reserve initiator onBehalfOf amount index T T')
    {r : Address} (hr : r ≠ reserve) : T' r = T r := by
  obtain ⟨d, -, rfl⟩ := h
  exact Function.update_of_ne hr _ _

end Tokens

section Calls

variable {D : Deployment} {s s' : State} {sender : Address} {c : Call D}
  {T : Address → DebtToken}

/-- Every call keeps the debts covered. -/
theorem DebtTurned.covered (h : DebtTurned D s sender c T) (hs : DebtsCovered s.debtTokens) :
    DebtsCovered T := by
  cases h with
  | kept => exact hs
  | burnt _ hburnt => exact hburnt.covered hs
  | borrowed hminted => exact hminted.covered hs
  | transferred _ _ hburnt hminted => exact hminted.covered (hburnt.covered hs)
  | @delegated asset delegatee amount =>
    intro r
    rw [State.approveDelegation_scaledBalanceOf]
    by_cases hr : r = asset
    · subst hr
      simpa [State.approveDelegation, State.setDebtToken] using hs r
    · simpa [State.approveDelegation, State.setDebtToken, hr] using hs r

/-- Where there is no debt, only a borrow makes some. -/
theorem DebtTurned.idle (h : DebtTurned D s sender c T) (hs : DebtsCovered s.debtTokens)
    {r : Address} (hdebt : (s.debtTokens r).scaledTotalSupply = 0) :
    (T r).scaledTotalSupply = 0 ∨
      ∃ amount nftAsset nftTokenId onBehalfOf, c = .borrow r amount nftAsset nftTokenId
        onBehalfOf := by
  cases h with
  | kept => exact .inl hdebt
  | burnt _ hburnt =>
    refine .inl ?_
    rw [hburnt.apart fun hr => hburnt.owed hs (hr ▸ hdebt)]
    exact hdebt
  | @borrowed asset _ _ _ _ _ _ hminted =>
    by_cases hr : r = asset
    · subst hr
      exact .inr ⟨_, _, _, _, rfl⟩
    · refine .inl ?_
      rw [hminted.apart hr]
      exact hdebt
  | transferred _ _ hburnt hminted =>
    -- debt is handed over only where there is some
    have howed := hburnt.owed hs
    refine .inl ?_
    rw [hminted.apart fun hr => howed (hr ▸ hdebt), hburnt.apart fun hr => howed (hr ▸ hdebt)]
    exact hdebt
  | @delegated asset delegatee amount =>
    refine .inl ?_
    by_cases hr : r = asset
    · subst hr
      simpa [State.approveDelegation, State.setDebtToken] using hdebt
    · simpa [State.approveDelegation, State.setDebtToken, hr] using hdebt

end Calls

/-! ## The flag of a word -/

theorem active_masks : Bitfield.Masks ACTIVE_MASK IS_ACTIVE_START_BIT_POSITION 1 :=
  NftField.masks .active

theorem getActive_setActive (flag : Bool) (c : BitVec 256) : getActive
    (setActive flag c) = flag := by
  rw [getActive_eq, setActive_values, Function.update_self]
  cases flag <;> rfl

/-- Writing another number leaves the flag alone. -/
theorem getActive_setField {mask : BitVec 256} {start width maxValid value : ℕ} {err : Error}
    {c c' : BitVec 256} (hm : Bitfield.Masks mask start width)
    (hapart : start + width ≤ IS_ACTIVE_START_BIT_POSITION ∨
      IS_ACTIVE_START_BIT_POSITION + 1 ≤ start) (hmax : maxValid < 2 ^ width)
    (h : setField mask start maxValid err value c = .ok c') : getActive c' = getActive c := by
  obtain ⟨hle, h⟩ := require_bind_eq_ok.mp h
  obtain rfl := Except.ok.inj h
  exact Bitfield.flag_write_apart hm active_masks (by decide) hapart (by omega) c

/-- Setting another flag leaves it alone. -/
theorem getActive_setFlag {mask : BitVec 256} {start : ℕ} (hm : Bitfield.Masks mask start 1)
    (hapart : IS_ACTIVE_START_BIT_POSITION + 1 ≤ start) (flag : Bool) (c : BitVec 256) :
    getActive (setFlag mask start flag c) = getActive c := by
  rw [setFlag_eq_write]
  refine Bitfield.flag_write_apart hm active_masks (by decide) (.inr hapart) ?_ c
  cases flag <;> decide

theorem getActive_setFrozen (flag : Bool) (c : BitVec 256) :
    getActive (setFrozen flag c) = getActive c :=
  getActive_setFlag (NftField.masks .frozen) (by decide) flag c

theorem reserveFactor_masks : Bitfield.Masks ReserveConfiguration.RESERVE_FACTOR_MASK
    ReserveConfiguration.RESERVE_FACTOR_START_BIT_POSITION 16 := by decide +kernel

/-! ## Settings -/

section Settings

variable {D : Deployment} {s s' : State}

/-- No reserve was deactivated, and nothing was deposited, borrowed or paid back. -/
structure ReservesKept (s s' : State) : Prop where
  active : ∀ r, getActive (s.lendPool.reserves r).configuration = true →
    getActive (s'.lendPool.reserves r).configuration = true
  supplies : ∀ r, (s'.uTokens r).scaledTotalSupply = (s.uTokens r).scaledTotalSupply
  debts : ∀ r, (s'.debtTokens r).scaledTotalSupply = (s.debtTokens r).scaledTotalSupply ∧
    (s'.debtTokens r).scaledBalanceOf = (s.debtTokens r).scaledBalanceOf

theorem ReservesKept.ofEq (hR : s'.lendPool.reserves = s.lendPool.reserves)
    (hU : s'.uTokens = s.uTokens) (hT : s'.debtTokens = s.debtTokens) : ReservesKept s s' := by
  refine ⟨fun r hr => ?_, fun r => by rw [hU], fun r => by rw [hT]; exact ⟨rfl, rfl⟩⟩
  rw [hR]
  exact hr

theorem ReservesKept.trans {s'' : State} (h : ReservesKept s s') (h' : ReservesKept s' s'') :
    ReservesKept s s'' where
  active r hr := h'.active r (h.active r hr)
  supplies r := (h'.supplies r).trans (h.supplies r)
  debts r := ⟨(h'.debts r).1.trans (h.debts r).1, (h'.debts r).2.trans (h.debts r).2⟩

/-- A reserve is given another configuration. -/
theorem ReservesKept.ofReserve {asset : Address} {R : ReserveData}
    (h : getActive (s.lendPool.reserves asset).configuration = true →
      getActive R.configuration = true) : ReservesKept s (s.setReserve asset R) := by
  refine ⟨fun r hr => ?_, fun _ => rfl, fun _ => ⟨rfl, rfl⟩⟩
  by_cases heq : r = asset
  · subst heq
    simp only [State.setReserve, Function.update_self]
    exact h hr
  · simp only [State.setReserve, Function.update_of_ne heq]
    exact hr

theorem configureReserve_kept {asset : Address} {change : BitVec 256 → Except Error (BitVec 256)}
    (h : ∀ c c', change c = .ok c' → getActive c = true → getActive c' = true) :
    Returns (s.configureReserve asset change) (ReservesKept s) :=
  Returns.step fun c hc => .ofReserve (h _ c hc)

/-- A uToken is given another treasury, or other managers. -/
theorem ReservesKept.ofUToken {asset : Address} {u : UToken}
    (h : u.scaledTotalSupply = (s.uTokens asset).scaledTotalSupply) :
    ReservesKept s (s.setUToken asset u) := by
  refine ⟨fun _ hr => hr, fun r => ?_, fun _ => ⟨rfl, rfl⟩⟩
  by_cases heq : r = asset
  · subst heq
    simpa only [State.setUToken, Function.update_self] using h
  · simp only [State.setUToken, Function.update_of_ne heq]

/-- **Every setting**: that which would deactivate a reserve does not go through. -/
theorem configure_kept {setting : Setting D} :
    Returns (s.configure D setting) (ReservesKept s) := by
  cases setting with
  | initReserve asset uToken treasury interestRate decimals proxy =>
    refine Returns.check fun _ => Returns.step fun R hR => Returns.step fun c hc => ?_
    have hkept : ReservesKept s
        (s.setUToken asset { s.uTokens asset with treasury := treasury }) := .ofUToken rfl
    refine hkept.trans (.ofReserve fun _ => ?_)
    exact (getActive_setFrozen false _).trans (getActive_setActive true c)
  | setActiveFlagOnReserve asset flag =>
    refine (Sat.returned _).returns.imp fun s' hok => ?_
    obtain ⟨-, hok⟩ := State.setActiveFlagOnReserve_on hok
    refine (configureReserve_kept fun c c' hc _ => ?_).ok hok
    obtain rfl := Except.ok.inj hc
    exact getActive_setActive true c
  | setBorrowingFlagOnReserve asset flag =>
    change Returns (s.configureReserve asset fun c =>
      .ok (ReserveConfiguration.setBorrowingEnabled flag c)) _
    refine configureReserve_kept fun c c' hc hactive => ?_
    obtain rfl := Except.ok.inj hc
    exact (getActive_setFlag (by decide +kernel) (by decide) flag c).trans hactive
  | setFreezeFlagOnReserve asset flag =>
    change Returns (s.configureReserve asset fun c => .ok (setFrozen flag c)) _
    refine configureReserve_kept fun c c' hc hactive => ?_
    obtain rfl := Except.ok.inj hc
    exact (getActive_setFrozen flag c).trans hactive
  | setReserveFactor asset reserveFactor =>
    refine configureReserve_kept fun c c' hc hactive => ?_
    exact (getActive_setField reserveFactor_masks (by decide) (by decide) hc).trans
      hactive
  | setReserveInterestRateAddress => exact Returns.check fun _ => .ofReserve fun hr => hr
  | configInterestRate => exact Returns.step fun _ _ => .ofEq rfl rfl rfl
  | setTreasuryAddress => exact Returns.check fun _ => .ofUToken rfl
  | updateUTokenManagers => exact Returns.check fun _ => .ofUToken rfl
  | updateTokenManagers asset manager flag inside =>
    refine Returns.check fun _ => ⟨fun _ hr => hr, fun _ => rfl, fun r => ?_⟩
    by_cases heq : r = asset
    · subst heq
      simp [State.setDebtToken]
    · simp [State.setDebtToken, heq]
  | initNft => exact Returns.check fun _ => Returns.check fun _ => .ofEq rfl rfl rfl
  | setPoolPause val =>
    change ReservesKept s (s.setPause val)
    unfold State.setPause
    split_ifs <;> exact .ofEq rfl rfl rfl
  | updateSafeHealthFactor => exact Returns.check fun _ => .ofEq rfl rfl rfl
  | updateMarketAdapters => exact Returns.check fun _ => .ofEq rfl rfl rfl
  | updateLiquidators => exact Returns.check fun _ => .ofEq rfl rfl rfl
  | updateModules => exact Returns.check fun _ => .ofEq rfl rfl rfl
  | setDeltaBidPercent => exact Returns.check fun _ => .ofEq rfl rfl rfl
  | setAuthorizedAddress => exact Returns.check fun _ => .ofEq rfl rfl rfl
  | _ => exact ReservesKept.ofEq rfl rfl rfl

end Settings

/-! ## What is in use -/

/-- Whatever is in use is active: a reserve while anything is deposited in it or owed to it, a
collection and a token while a live loan is on them. -/
structure Unlocked (s : State) : Prop where
  reserves : ∀ r, getActive (s.lendPool.reserves r).configuration = false →
    (s.uTokens r).scaledTotalSupply = 0 ∧ (s.debtTokens r).scaledTotalSupply = 0
  collections : ∀ id, id ≠ 0 → (s.lendPoolLoan.loans id).live →
    getActive (s.lendPool.nfts (s.lendPoolLoan.loans id).nftAsset).configuration = true
  tokens : ∀ id, id ≠ 0 → (s.lendPoolLoan.loans id).live →
    getActive (s.lendPool.nftConfig (s.lendPoolLoan.loans id).nftAsset
      (s.lendPoolLoan.loans id).nftTokenId) = true

/-- `UToken.totalSupply`. -/
def State.uTokenTotalSupply (s : State) (asset : Address) : Except Error ℕ := do
  if (s.uTokens asset).scaledTotalSupply = 0 then return 0
  else
    let income ← (s.lendPool.reserves asset).getNormalizedIncome s.blockTimestamp
    rayMul (s.uTokens asset).scaledTotalSupply income

/-- `DebtToken.totalSupply`. -/
def State.debtTotalSupply (s : State) (asset : Address) : Except Error ℕ := do
  let debt ← (s.lendPool.reserves asset).getNormalizedDebt s.blockTimestamp
  rayMul (s.debtTokens asset).scaledTotalSupply debt

section Supplies

variable {D : Deployment} {s : State} {asset : Address} {n : ℕ}

/-- What is scaled up from nothing is nothing, and nothing else is. -/
theorem rayMul_eq_zero_iff {scaled index : ℕ} (hray : RAY ≤ index)
    (h : rayMul scaled index = .ok n) : n = 0 ↔ scaled = 0 := by
  have hle : scaled ≤ n := by
    rw [rayMul_spec h, Nat.mul_comm]
    exact FixedPoint.le_divHalfUp_mul RAY_pos hray scaled
  constructor
  · intro hn
    omega
  · intro hscaled
    rw [rayMul_spec h, hscaled, Nat.zero_mul, FixedPoint.divHalfUp_zero]

/-- **The supply of a uToken is zero** just where its scaled supply is. -/
theorem uTokenTotalSupply_eq_zero_iff (h : Books D s)
    (hinit : (s.lendPool.reserves asset).uTokenAddress ≠ 0)
    (hok : s.uTokenTotalSupply asset = .ok n) :
    n = 0 ↔ (s.uTokens asset).scaledTotalSupply = 0 := by
  unfold State.uTokenTotalSupply at hok
  split at hok
  · rename_i hzero
    exact iff_of_true (Except.ok.inj hok).symm hzero
  obtain ⟨income, hincome, hok⟩ := bind_eq_ok.mp hok
  refine rayMul_eq_zero_iff ?_ hok
  have hray := (h.indices asset hinit).1
  unfold ReserveData.getNormalizedIncome at hincome
  split at hincome
  · obtain rfl := Except.ok.inj hincome
    exact hray
  · obtain ⟨f, hf, hincome⟩ := bind_eq_ok.mp hincome
    exact hray.trans (le_rayMul (RAY_le_linear hf) hincome)

/-- **The debt to a reserve is zero** just where its scaled debt is. -/
theorem debtTotalSupply_eq_zero_iff (h : Books D s)
    (hinit : (s.lendPool.reserves asset).uTokenAddress ≠ 0)
    (hok : s.debtTotalSupply asset = .ok n) :
    n = 0 ↔ (s.debtTokens asset).scaledTotalSupply = 0 := by
  obtain ⟨debt, hdebt, hok⟩ := bind_eq_ok.mp hok
  exact rayMul_eq_zero_iff
    ((h.indices asset hinit).2.trans (ReserveData.le_getNormalizedDebt hdebt)) hok

end Supplies

section Use

variable {D : Deployment} {s s' : State} {sender asset nftAsset onBehalfOf : Address}
  {amount nftTokenId : ℕ}

/-- A borrow finds its reserve, the collection and the token active. -/
theorem validateBorrow_active {loanId : ℕ} :
    Returns (s.validateBorrow asset amount nftAsset nftTokenId onBehalfOf loanId) (fun _ =>
      getActive (s.lendPool.reserves asset).configuration = true ∧
      getActive (s.lendPool.nfts nftAsset).configuration = true ∧
      getActive (s.lendPool.nftConfig nftAsset nftTokenId) = true) := by
  refine Returns.check fun _ => Returns.check fun _ => Returns.check fun _ => ?_
  refine Returns.step fun _ _ => Returns.check fun hreserve => Returns.check fun _ => ?_
  refine Returns.check fun _ => Returns.check fun hcollection => Returns.check fun _ => ?_
  refine Returns.check fun htoken => (Sat.returned _).returns.imp fun _ _ => ?_
  exact ⟨hreserve, hcollection, htoken⟩

@[inherit_doc validateBorrow_active]
theorem borrow_active :
    Returns (s.perform D sender (.borrow asset amount nftAsset nftTokenId onBehalfOf)) (fun _ =>
      getActive (s.lendPool.reserves asset).configuration = true ∧
      getActive (s.lendPool.nfts nftAsset).configuration = true ∧
      getActive (s.lendPool.nftConfig nftAsset nftTokenId) = true) := by
  refine Returns.check fun _ => Returns.check fun _ => ?_
  refine Sat.bind State.updateState_posted fun s₁ h₁ => ?_
  obtain ⟨Rs, U, rfl, hupd, -⟩ := h₁
  refine Sat.bind validateBorrow_active fun _ hactive => ?_
  refine (Sat.returned _).returns.imp fun _ _ => ?_
  obtain ⟨hreserve, hnft⟩ := hactive
  refine ⟨?_, hnft⟩
  rw [← hupd.configuration asset]
  exact hreserve

/-- A loan that is live after a call was live before, on the same token, or the call borrowed on
it. -/
theorem Turned.onToken {c : Call D} {l r : LoanData} (ht : Turned D s c l r) (hlive : r.live) :
    (l.live ∧ r.nftAsset = l.nftAsset ∧ r.nftTokenId = l.nftTokenId) ∨
      ∃ asset amount onBehalfOf, c = .borrow asset amount r.nftAsset r.nftTokenId onBehalfOf := by
  cases ht with
  | opened => exact .inr ⟨_, _, _, rfl⟩
  | enlarged _ hactive => exact .inl ⟨.inl hactive, rfl, rfl⟩
  | reduced _ hactive => exact .inl ⟨.inl hactive, rfl, rfl⟩
  | firstBid _ hactive => exact .inl ⟨.inl hactive, rfl, rfl⟩
  | outbid _ hauction => exact .inl ⟨.inr hauction, rfl, rfl⟩
  | redeemed _ hauction => exact .inl ⟨.inr hauction, rfl, rfl⟩
  | handed => exact .inl ⟨hlive, rfl, rfl⟩
  | repaid => rcases hlive with hx | hx <;> cases hx
  | liquidated => rcases hlive with hx | hx <;> cases hx
  | boughtOut => rcases hlive with hx | hx <;> cases hx
  | sold => rcases hlive with hx | hx <;> cases hx

/-- **Every call** leaves what is in use active. -/
theorem perform_unlocked (h : Books D s) (hs : DebtsCovered s.debtTokens) (hu : Unlocked s)
    (c : Call D) : Returns (s.perform D sender c) Unlocked := by
  refine (Sat.returned _).returns.imp fun s' hok => ?_
  have hkeeps := (perform_keepsSettings h c).ok hok
  have hdebts := (perform_debtTurned h c).ok hok
  have hloans := (perform_turned h c).ok hok
  have hborrow : ∀ {asset nftAsset onBehalfOf : Address} {amount nftTokenId : ℕ},
      c = .borrow asset amount nftAsset nftTokenId onBehalfOf →
      getActive (s.lendPool.reserves asset).configuration = true ∧
      getActive (s.lendPool.nfts nftAsset).configuration = true ∧
      getActive (s.lendPool.nftConfig nftAsset nftTokenId) = true := by
    rintro _ _ _ _ _ rfl
    exact borrow_active.ok hok
  have hpool := hkeeps.pool
  unfold State.OnlyReserves at hpool
  have hnfts : ∀ id, id ≠ 0 → (s'.lendPoolLoan.loans id).live →
      getActive (s'.lendPool.nfts (s'.lendPoolLoan.loans id).nftAsset).configuration = true ∧
      getActive (s'.lendPool.nftConfig (s'.lendPoolLoan.loans id).nftAsset
        (s'.lendPoolLoan.loans id).nftTokenId) = true := by
    intro id hid hlive
    rw [hpool]
    rcases hloans with hsame | ⟨j, r, hL, hturned⟩
    · rw [hsame] at hlive ⊢
      exact ⟨hu.collections id hid hlive, hu.tokens id hid hlive⟩
    rw [hL] at hlive ⊢
    by_cases hj : id = j
    · subst hj
      rw [Function.update_self] at hlive ⊢
      rcases hturned.onToken hlive with ⟨hbefore, ha, ht⟩ | ⟨_, _, _, hc⟩
      · rw [ha, ht]
        exact ⟨hu.collections id hid hbefore, hu.tokens id hid hbefore⟩
      · exact (hborrow hc).2
    · rw [Function.update_of_ne hj] at hlive ⊢
      exact ⟨hu.collections id hid hlive, hu.tokens id hid hlive⟩
  refine ⟨fun r hr => ?_, fun id hid hl => (hnfts id hid hl).1, fun id hid hl =>
    (hnfts id hid hl).2⟩
  rw [hkeeps.configurations] at hr
  obtain ⟨hsupply, hdebt⟩ := hu.reserves r hr
  rw [hkeeps.idle r hr hdebt]
  refine ⟨hsupply, ?_⟩
  rcases hdebts.idle hs hdebt with hnone | ⟨_, _, _, _, hc⟩
  · exact hnone
  · rw [(hborrow hc).1] at hr
    cases hr

/-- An event touches neither reserves nor their tokens. -/
theorem happen_kept (e : Event) : ReservesKept s (s.happen e) := by
  cases e with
  | mintNft asset dst tokenId =>
    unfold State.happen
    dsimp only
    split <;> exact .ofEq rfl rfl rfl
  | _ => exact ReservesKept.ofEq rfl rfl rfl

theorem ReservesKept.covered (h : ReservesKept s s') (hs : DebtsCovered s.debtTokens) :
    DebtsCovered s'.debtTokens := by
  intro r
  rw [(h.debts r).1, (h.debts r).2]
  exact hs r

/-- **The debts are covered in every reachable state.** -/
theorem Reachable.debtsCovered {allowed : State → Action D → Prop} (hr : Reachable D allowed s) :
    DebtsCovered s.debtTokens := by
  refine Machine.Reachable.invariant (P := fun t => DebtsCovered t.debtTokens)
    (fun t g r => ?_) (fun t t' ht hs hst => ?_) hr
  · obtain ⟨htotal, hbalances⟩ := g.debts r
    rw [htotal, funext hbalances]
    exact .none
  · obtain ⟨a, -, ha⟩ := hst
    cases a with
    | call sender outside c => exact ((perform_debtTurned (Reachable.books ht) c).ok ha).covered hs
    | configure setting => exact (configure_kept.ok ha).covered hs
    | event e =>
      obtain rfl := Except.ok.inj ha
      exact (happen_kept e).covered hs

end Use

/-! ## Words of collections and tokens -/

section Words

variable {D : Deployment} {s s' : State}

/-- Nothing but words of collections and tokens has changed, and no collection with a loan counted
on it was deactivated. -/
structure OnlyWords (s s' : State) : Prop where
  reserves : s'.lendPool.reserves = s.lendPool.reserves
  uTokens : s'.uTokens = s.uTokens
  debtTokens : s'.debtTokens = s.debtTokens
  lendPoolLoan : s'.lendPoolLoan = s.lendPoolLoan
  collections : ∀ a, s.lendPoolLoan.nftTotalCollateral a ≠ 0 →
    getActive (s.lendPool.nfts a).configuration = true →
    getActive (s'.lendPool.nfts a).configuration = true

theorem OnlyWords.refl (s : State) : OnlyWords s s := ⟨rfl, rfl, rfl, rfl, fun _ _ h => h⟩

theorem OnlyWords.trans {s'' : State} (h : OnlyWords s s') (h' : OnlyWords s' s'') :
    OnlyWords s s'' where
  reserves := h'.reserves.trans h.reserves
  uTokens := h'.uTokens.trans h.uTokens
  debtTokens := h'.debtTokens.trans h.debtTokens
  lendPoolLoan := h'.lendPoolLoan.trans h.lendPoolLoan
  collections a ha hactive := by
    refine h'.collections a ?_ (h.collections a ha hactive)
    rw [h.lendPoolLoan]
    exact ha

theorem configureToken_onlyWords {asset : Address} {tokenId : ℕ}
    {change : BitVec 256 → Except Error (BitVec 256)} :
    Returns (s.configureToken D asset tokenId change) (OnlyWords s) :=
  Returns.step fun _ _ => ⟨rfl, rfl, rfl, rfl, fun _ _ h => h⟩

theorem configureTokens_onlyWords {tokens : List (Address × ℕ)}
    {change : BitVec 256 → BitVec 256} :
    Returns (s.configureTokens D tokens change) (OnlyWords s) := by
  refine Returns.foldlM (P := OnlyWords s) (fun token _ t ht => ?_) (.refl s)
  exact configureToken_onlyWords.imp fun _ h => ht.trans h

/-- A collection is given another word. -/
theorem OnlyWords.ofCollection {asset : Address} {word : BitVec 256}
    (h : s.lendPoolLoan.nftTotalCollateral asset ≠ 0 →
      getActive (s.lendPool.nfts asset).configuration = true → getActive word = true) :
    OnlyWords s (s.setNft asset { s.lendPool.nfts asset with configuration := word }) := by
  refine ⟨rfl, rfl, rfl, rfl, fun a ha hactive => ?_⟩
  by_cases heq : a = asset
  · subst heq
    simp only [State.setNft, State.setPool, Function.update_self]
    exact h ha hactive
  · simp only [State.setNft, State.setPool, Function.update_of_ne heq]
    exact hactive

/-- **Every entry point for words** changes nothing else. -/
theorem operate_onlyWords {o : Operation D} (ho : ∀ a packed, o ≠ .action a packed) :
    Returns (s.operate D o) (OnlyWords s) := by
  cases o with
  | action a packed => exact absurd rfl (ho a packed)
  | configureNftsAsCollateral oracle collateralData =>
    refine Returns.check fun _ => Returns.foldlM (P := OnlyWords s)
      (fun input _ t ht => ?_) (.refl s)
    refine Sat.bind configureToken_onlyWords fun t' ht' => ?_
    refine Returns.check fun _ => Returns.check fun _ => Returns.check fun _ => ?_
    exact (ht.trans ht').trans ⟨rfl, rfl, rfl, rfl, fun _ _ h => h⟩
  | configureNftAsAuction => exact configureToken_onlyWords
  | batchConfigNft inputs =>
    refine Returns.foldlM (P := OnlyWords s) (fun input _ t ht => ?_) (.refl s)
    exact configureToken_onlyWords.imp fun _ h => ht.trans h
  | setActiveFlagOnNft asset flag =>
    refine Sat.ite (fun _ => Returns.step fun _ hguard => ?_) fun hflag => ?_
    · exact OnlyWords.ofCollection fun hcount _ => absurd (require_eq_ok.mp hguard) hcount
    · refine OnlyWords.ofCollection fun _ _ => ?_
      rw [getActive_setActive]
      exact Bool.not_eq_false flag ▸ hflag
  | setFreezeFlagOnNft asset flag =>
    exact OnlyWords.ofCollection fun _ hactive => (getActive_setFrozen flag _).trans hactive
  | setActiveFlagOnNftByTokenId => exact Returns.check fun _ => configureTokens_onlyWords
  | setFreezeFlagOnNftByTokenId => exact Returns.check fun _ => configureTokens_onlyWords
  | setNftRedeemThreshold => exact configureToken_onlyWords
  | setNftMinBidFine => exact configureToken_onlyWords

/-- The flag of any token after flags were set. -/
theorem configureTokens_active (tokens : List (Address × ℕ)) (flag : Bool) (asset : Address)
    (tokenId : ℕ) : Returns (s.configureTokens D tokens (setActive flag)) (fun s' =>
      getActive (s'.lendPool.nftConfig asset tokenId) = if (asset, tokenId) ∈ tokens then flag
        else getActive (s.lendPool.nftConfig asset tokenId)) := by
  unfold State.configureTokens
  induction tokens generalizing s with
  | nil => exact rfl
  | cons first rest ih =>
    rw [List.foldlM_cons]
    refine Sat.bind (configureToken_word asset tokenId) fun t ht => ih.imp fun s' hs' => ?_
    obtain ⟨c, hc, hword⟩ := ht
    obtain rfl := Except.ok.inj hc
    rw [hs', hword]
    by_cases hrest : (asset, tokenId) ∈ rest
    · rw [if_pos hrest, if_pos (List.mem_cons_of_mem _ hrest)]
    rw [if_neg hrest]
    by_cases hfirst : (asset, tokenId) = first
    · subst hfirst
      rw [if_pos ⟨rfl, rfl⟩, if_pos List.mem_cons_self]
      exact getActive_setActive flag _
    · rw [if_neg fun h => hfirst (Prod.ext h.1 h.2),
        if_neg fun h => (List.mem_cons.mp h).elim hfirst hrest]

theorem keptByWrites_active : KeptByWrites fun c => getActive c = true where
  collateral _ _ _ hactive := hactive
  auction _ _ _ _ _ hc := (packAuction_sound hc).2.2.trans
  frozen flag c := (getActive_setFrozen flag c).trans
  redeemThreshold _ _ _ hc :=
    (getActive_setField (NftField.masks .redeemThreshold) (by decide) (by decide) hc).trans
  minBidFine _ _ _ hc :=
    (getActive_setField (NftField.masks .minBidFine) (by decide) (by decide) hc).trans

/-- **Every operation** leaves an active token active, unless it is one that deactivates it. -/
theorem operate_tokens (h : Books D s) (o : Operation D) {asset : Address} {tokenId : ℕ}
    (hs : getActive (s.lendPool.nftConfig asset tokenId) = true)
    (hspared : ∀ assets tokenIds, o = .setActiveFlagOnNftByTokenId assets tokenIds false →
      (asset, tokenId) ∉ assets.zip tokenIds) :
    Returns (s.operate D o) (fun s' => getActive (s'.lendPool.nftConfig asset tokenId) = true) := by
  refine operate_keeps keptByWrites_active h o hs ?_ ?_
  · intro inputs _
    refine Returns.foldlM
      (P := fun s' : State => getActive (s'.lendPool.nftConfig asset tokenId) = true)
      (fun input _ t ht => ?_) hs
    exact configureToken_keeps (P := fun c => getActive c = true)
      (fun _ _ hc _ => (ConfigNftInput.pack_sound hc).2.2.2) ht
  · intro assets tokenIds flag ho
    refine (configureTokens_active _ flag asset tokenId).imp fun s' hs' => ?_
    rw [hs']
    split
    · rename_i hmem
      cases flag with
      | true => rfl
      | false => exact absurd hmem (hspared assets tokenIds ho)
    · exact hs

end Words

/-! ## Runs -/

/-- What keeps an operation from locking what is in use: of the tokens that are deactivated, none
has a live loan. -/
def Operation.Spares {D : Deployment} (s : State) : Operation D → Prop
  | .setActiveFlagOnNftByTokenId assets tokenIds false =>
      ∀ id, id ≠ 0 → (s.lendPoolLoan.loans id).live →
        (s.lendPoolLoan.loans id).key ∉ assets.zip tokenIds
  | _ => True

section Runs

variable {D : Deployment} {s s' s₀ : State} {asset : Address}
  {log : List (Entry State (Operation D))}

/-- Where no reserve was deactivated, no word either, and no loan opened, all is as before. -/
theorem Unlocked.kept (hu : Unlocked s) (hr : ReservesKept s s') (hw : WordsKept s s')
    (hL : s'.lendPoolLoan.loans = s.lendPoolLoan.loans) : Unlocked s' := by
  refine ⟨fun r hoff => ?_, fun id hid hlive => ?_, fun id hid hlive => ?_⟩
  · rw [hr.supplies, (hr.debts r).1]
    refine hu.reserves r (Bool.eq_false_iff.mpr fun hon => ?_)
    rw [hr.active r hon] at hoff
    cases hoff
  · rw [hL] at hlive ⊢
    exact hw.collections _ (hu.collections id hid hlive)
  · rw [hL] at hlive ⊢
    rw [hw.tokens]
    exact hu.tokens id hid hlive

/-- **Every action** leaves what is in use active. -/
theorem execute_unlocked (h : Books D s) (hs : DebtsCovered s.debtTokens) (hu : Unlocked s)
    {a : Action D} (packed : a.writesWord = false) :
    Returns (s.execute D a) Unlocked := by
  refine (Sat.returned _).returns.imp fun s' hok => ?_
  have hwords := (execute_words h packed).ok hok
  have hloans : (∀ sender outside c, a ≠ .call sender outside c) →
      s'.lendPoolLoan.loans = s.lendPoolLoan.loans := by
    intro hcall
    rcases execute_turned h hok with hsame | ⟨sender, outside, c, _, _, heq, -⟩
    · exact hsame
    · exact absurd heq (hcall sender outside c)
  cases a with
  | call sender outside c => exact (perform_unlocked h hs hu c).ok hok
  | configure setting =>
    exact hu.kept (configure_kept.ok hok) hwords (hloans fun _ _ _ heq => by cases heq)
  | event e =>
    obtain rfl := Except.ok.inj hok
    exact hu.kept (happen_kept e) hwords (hloans fun _ _ _ heq => by cases heq)

/-- **Every entry point for words** leaves what is in use active, if it spares it. -/
theorem operate_spared (h : Books D s) (hu : Unlocked s) {o : Operation D}
    (ho : ∀ a packed, o ≠ .action a packed) (hspared : o.Spares s) :
    Returns (s.operate D o) Unlocked := by
  refine (Sat.returned _).returns.imp fun s' hok => ?_
  have hwords := (operate_onlyWords ho).ok hok
  refine ⟨fun r hoff => ?_, fun id hid hlive => ?_, fun id hid hlive => ?_⟩
  · rw [hwords.reserves] at hoff
    rw [hwords.uTokens, hwords.debtTokens]
    exact hu.reserves r hoff
  · rw [hwords.lendPoolLoan] at hlive ⊢
    refine hwords.collections _ ?_ (hu.collections id hid hlive)
    -- a live loan is counted on its collection
    have hmem : id ∈ s.lendPoolLoan.registry.ids := by
      refine Finset.mem_Ico.mpr ⟨Nat.one_le_iff_ne_zero.mpr hid, Nat.lt_of_not_le fun hle => ?_⟩
      rw [h.loans.fresh id hle] at hlive
      rcases hlive with hx | hx <;> cases hx
    have hcount := h.loans.kept.one_le_perGroup (h.loans.coherent.held_of_live hmem hlive)
    exact Nat.one_le_iff_ne_zero.mp hcount
  · rw [hwords.lendPoolLoan] at hlive ⊢
    refine (operate_tokens h o (hu.tokens id hid hlive) ?_).ok hok
    rintro assets tokenIds rfl
    exact hspared id hid hlive

/-- **Step lemma.** What is in use stays active just where the operation spares it. -/
theorem operate_unlocked (h : Books D s) (hs : DebtsCovered s.debtTokens) (hu : Unlocked s)
    (o : Operation D) : Returns (s.operate D o) (fun s' => Unlocked s' ↔ o.Spares s) := by
  by_cases hact : ∃ a packed, o = .action a packed
  · obtain ⟨a, packed, rfl⟩ := hact
    exact (execute_unlocked h hs hu packed).imp fun s' hs' => iff_of_true hs' trivial
  · have ho : ∀ a packed, o ≠ .action a packed := fun a packed heq => hact ⟨a, packed, heq⟩
    refine (Sat.returned _).returns.imp fun s' hok => ?_
    refine ⟨fun hu' => ?_, fun hspared => (operate_spared h hu ho hspared).ok hok⟩
    have hloans := ((operate_onlyWords ho).ok hok).lendPoolLoan
    cases o with
    | action a packed => exact absurd rfl (ho a packed)
    | setActiveFlagOnNftByTokenId assets tokenIds flag =>
      cases flag with
      | true => trivial
      | false =>
        intro id hid hlive hmem
        have hactive := hu'.tokens id hid (by rw [hloans]; exact hlive)
        obtain ⟨-, hok⟩ := require_bind_eq_ok.mp hok
        unfold LoanData.key at hmem
        rw [hloans, (configureTokens_active _ false _ _).ok hok, if_pos hmem] at hactive
        cases hactive
    | _ => trivial

/-- **What is in use stays active, if it is spared.** In any run of operations on a fresh
deployment, after every operation the reserves with deposits or debt, and the collections and tokens
with live loans, are active, just where every operation spares them: no token with a live loan is
deactivated. -/
theorem deactivation_spares_what_is_used (g : Genesis D s₀)
    (hempty : ∀ r, (s₀.uTokens r).scaledTotalSupply = 0) (h : History (Operated D) s₀ log s) :
    (∀ e ∈ log, Unlocked e.after) ↔ ∀ e ∈ log, e.action.Spares e.before := by
  have hstart : Unlocked s₀ := by
    refine ⟨fun r _ => ⟨hempty r, (g.debts r).1⟩, fun id _ hlive => ?_, fun id _ hlive => ?_⟩
    all_goals
      rw [g.loans] at hlive
      rcases hlive with hx | hx <;> cases hx
  refine History.always_iff (P := Unlocked)
    (Q := fun e : Entry State (Operation D) => e.action.Spares e.before) hstart ?_ h
  intro log s o s' hlog hu hst
  have hr := g.operated hlog
  exact (operate_unlocked hr.books hr.debtsCovered hu o).ok hst

end Runs

/-! ## The small deployment -/

/-- The small deployment with a loan on the token 7. -/
def State.sampleOperated : State :=
  (State.sample .weth9).operated .sample (sampleLoan 1440 2880)

/-- The token 8 of the same collection is deactivated. -/
def sampleSparing : Operation .sample := .setActiveFlagOnNftByTokenId [40] [8] false

/-- In the small deployment a token without a loan is deactivated, and nothing that is in use is
locked. -/
theorem deactivation_spares_what_is_used_sample : ∃ log,
    History (Operated .sample) (State.sample .weth9) log
      (State.sampleOperated.operated .sample [sampleSparing]) ∧
    log.map Entry.action = sampleSparing :: (sampleLoan 1440 2880).reverse ∧
    ∀ e ∈ log, Unlocked e.after := by
  have hok : raised ((sampleLoan 1440 2880).foldlM (State.operate .sample) (State.sample .weth9))
      = none := by decide +kernel
  have hnext : Operated .sample State.sampleOperated sampleSparing
      (State.sampleOperated.operated .sample [sampleSparing]) :=
    State.operate_operated (by decide +kernel)
  obtain ⟨log, hlog, hactions⟩ := State.operated_history hok
  have hg := State.sample_genesis .weth9
  refine ⟨_, hlog.next hnext, congrArg _ hactions, ?_⟩
  refine (deactivation_spares_what_is_used hg (fun _ => rfl) (hlog.next hnext)).mpr ?_
  intro e he
  rcases List.mem_cons.mp he with rfl | he
  · -- there is one loan, and it is on the token 7
    intro id hid hlive hmem
    have hlast : State.sampleOperated.lendPoolLoan.loanIdTracker = 2 := by decide +kernel
    have hone : id = 1 := by
      by_contra hne
      have hle : State.sampleOperated.lendPoolLoan.loanIdTracker ≤ id := by omega
      rw [(hg.operated hlog).books.loans.fresh id hle] at hlive
      rcases hlive with hx | hx <;> cases hx
    subst hone
    revert hmem
    decide +kernel
  · have hmem : e.action ∈ log.map Entry.action := List.mem_map_of_mem he
    rw [hactions, List.mem_reverse] at hmem
    rcases List.mem_append.mp hmem with hmem | hmem
    · rcases List.mem_append.mp hmem with hmem | hmem
      · obtain ⟨a, packed, ha⟩ := exists_action_of_mem_operations hmem
        rw [ha]
        trivial
      · rw [List.mem_singleton.mp hmem]
        trivial
    · obtain ⟨a, packed, ha⟩ := exists_action_of_mem_operations hmem
      rw [ha]
      trivial

/-- The collateral of the loan is deactivated. -/
def sampleLocking : List (Operation .sample) :=
  sampleLoan 1440 2880 ++ [.setActiveFlagOnNftByTokenId [40] [7] false]

/-- **What is in use can be deactivated.** No loan is looked for on a token. Then user 100 cannot
repay its loan. -/
theorem deactivation_can_lock : ∃ log s,
    Genesis .sample (State.sample .weth9) ∧
    (∀ r, ((State.sample .weth9).uTokens r).scaledTotalSupply = 0) ∧
    History (Operated .sample) (State.sample .weth9) log s ∧
    log.map Entry.action = sampleLocking.reverse ∧
    (s.lendPoolLoan.loans 1).state = .Active ∧ (s.lendPoolLoan.loans 1).key = (40, 7) ∧
    getActive (s.lendPool.nftConfig 40 7) = false ∧ ¬ Unlocked s ∧
    raised (s.perform .sample 100 (.repay 40 7 (40 * WAD))) = some .VL_NO_ACTIVE_NFT := by
  have hok : raised (sampleLocking.foldlM (State.operate .sample)
    (State.sample .weth9)) = none := by
    decide +kernel
  obtain ⟨log, hlog, hactions⟩ := State.operated_history hok
  refine ⟨log, _, State.sample_genesis .weth9, fun _ => rfl, hlog, hactions, by decide +kernel,
    by decide +kernel, by decide +kernel, fun hu => ?_, by decide +kernel⟩
  have hactive := hu.tokens 1 (by decide) (by decide +kernel)
  revert hactive
  decide +kernel

end Unlockd
