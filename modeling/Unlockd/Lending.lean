/-
Debt that is repaid can be lent again.

A reserve lends what its uToken holds in the vault. Every way to pay a debt off should put the
amount burnt there, and a borrow take the amount minted from there, so that what can be lent
and what is owed change together except where depositors come and go. With a vault that pays
one to one this is an equation for each call, and a sum along a run. All of them satisfy it
but the liquidation through the adapter, which pays the uToken and leaves the money with it.
-/
import Unlockd.Consent

set_option autoImplicit false

namespace Unlockd

open Outcome Machine LendPoolLoan

/-! ## What is reported -/

/-- What `getAvailableLiquidity` reports of a uToken, where that does not overflow. -/
def State.availableLiquidity (s : State) (uToken : Address) : ℕ :=
  FixedPoint.divHalfUp (s.yVault.shares uToken * s.yVault.pricePerShare) WAD

theorem State.getAvailableLiquidity_eq {s : State} {uToken : Address} {n : ℕ}
    (h : s.getAvailableLiquidity uToken = .ok n) : n = s.availableLiquidity uToken :=
  unitMul_spec h

/-- At a price of one, shares are worth their number. -/
theorem State.availableLiquidity_of_par {s : State} (hpar : s.yVault.pricePerShare = WAD)
    (uToken : Address) : s.availableLiquidity uToken = s.yVault.shares uToken := by
  unfold State.availableLiquidity
  rw [hpar]
  exact FixedPoint.divHalfUp_mul_self _ (by decide)

/-! ## What a call moves -/

section Amounts

variable {D : Deployment}

/-- What the loan on a token owes once its reserve is up to date. -/
def State.owedOn (s : State) (nftAsset : Address) (tokenId : ℕ) : ℕ :=
  (s.loanOn nftAsset tokenId).outstanding (s.nextIndex (s.loanOn nftAsset tokenId).reserveAsset)

/-- What a call deposits into a reserve. -/
def Call.deposits (r : Address) : Call D → ℕ
  | .deposit asset amount _ => if asset = r then amount else 0
  | _ => 0

/-- What a call by `sender` withdraws from a reserve, as `withdraw` returns it. -/
def Call.withdraws (s : State) (sender r : Address) : Call D → ℕ
  | .withdraw asset amount receiver =>
      if asset = r then
        match s.executeWithdraw D sender asset amount receiver with
        | .ok p => p.2
        | .error _ => 0
      else 0
  | _ => 0

/-- The debt to a reserve that a borrow mints. -/
def Call.mints (r : Address) : Call D → ℕ
  | .borrow asset amount _ _ _ => if asset = r then amount else 0
  | _ => 0

/-- The token whose loan a call pays off, in part or in full. -/
def Call.paysOff : Call D → Option (Address × ℕ)
  | .repay nftAsset tokenId _ => some (nftAsset, tokenId)
  | .redeem nftAsset tokenId _ _ => some (nftAsset, tokenId)
  | .liquidate nftAsset tokenId _ => some (nftAsset, tokenId)
  | .buyout nftAsset tokenId _ => some (nftAsset, tokenId)
  | .liquidateReservoir nftAsset _ tokenId _ _ _ => some (nftAsset, tokenId)
  | _ => none

/-- How much it pays off: what is sent, up to the debt; what a redemption names; or all of it. -/
def Call.payoff (s : State) : Call D → ℕ
  | .repay nftAsset tokenId amount =>
      if amount < s.owedOn nftAsset tokenId then amount else s.owedOn nftAsset tokenId
  | .redeem _ _ amount _ => amount
  | .liquidate nftAsset tokenId _ => s.owedOn nftAsset tokenId
  | .buyout nftAsset tokenId _ => s.owedOn nftAsset tokenId
  | .liquidateReservoir nftAsset reserveAsset tokenId _ _ _ =>
      match s.saleDebt nftAsset reserveAsset tokenId with
      | .ok b => b
      | .error _ => 0
  | _ => 0

/-- The debt to a reserve that a call burns. -/
def Call.burns (s : State) (r : Address) (c : Call D) : ℕ :=
  match c.paysOff with
  | some k => if (s.loanOn k.1 k.2).reserveAsset = r then c.payoff s else 0
  | none => 0

end Amounts

/-! ## What a call does to the vault -/

section Vault

variable {D : Deployment} {s s' : State} {sender : Address}

/-- A call has paid a loan off: its payoff is burnt, and it is in the vault, if it came through the
pool. -/
structure PaidOff (D : Deployment) (s s' : State) (c : Call D) (loan : LoanData) : Prop where
  burnt : ∃ caller index,
    Burnt caller loan.reserveAsset loan.borrower (c.payoff s) index s.debtTokens s'.debtTokens
  vault : s'.yVault = if c.isSale = true then s.yVault
    else State.credited D s.yVault loan.reserveAsset
      (s.lendPool.reserves loan.reserveAsset).uTokenAddress (c.payoff s)

/-- **Every way out.** -/
theorem perform_paidOff {c : Call D} {k : Address × ℕ} (hc : c.paysOff = some k) :
    Returns (s.perform D sender c) (fun s' => PaidOff D s s' c (s.loanOn k.1 k.2)) := by
  cases c with
  | repay nftAsset nftTokenId amount =>
    obtain rfl := Option.some.inj hc
    refine Returns.check fun _ => State.fst_spec (State._repay_account.imp fun p hp => ?_)
    obtain ⟨loan, Rs, L, T, b, n, -, rfl, hb, hn, -, ha, -, -, hburnt, -⟩ := hp
    rw [ha.updated.nextIndex] at hb
    subst hb hn
    rw [← ha.debts] at hburnt
    exact ⟨⟨_, _, hburnt⟩, ha.vault⟩
  | redeem nftAsset nftTokenId amount bidFine =>
    obtain rfl := Option.some.inj hc
    refine Returns.check fun _ => State.fst_spec (State.executeRedeem_account.imp fun p hp => ?_)
    obtain ⟨loan, Rs, L, T, fine, -, rfl, ha, -, -, hburnt⟩ := hp
    rw [← ha.debts] at hburnt
    exact ⟨⟨_, _, hburnt⟩, ha.vault⟩
  | liquidate nftAsset nftTokenId amount =>
    obtain rfl := Option.some.inj hc
    refine Returns.check fun _ => State.fst_spec (State.executeLiquidate_account.imp fun p hp => ?_)
    obtain ⟨loan, Rs, L, T, b, -, rfl, hb, ha, -, -, hburnt⟩ := hp
    rw [ha.updated.nextIndex] at hb
    subst hb
    rw [← ha.debts] at hburnt
    exact ⟨⟨_, _, hburnt⟩, ha.vault⟩
  | buyout nftAsset nftTokenId onBehalfOf =>
    obtain rfl := Option.some.inj hc
    refine Returns.check fun _ => State.executeBuyout_account.imp fun s' hs' => ?_
    obtain ⟨loan, Rs, L, T, b, _, _, _, -, rfl, hb, -, ha, -, -, hburnt⟩ := hs'
    rw [ha.updated.nextIndex] at hb
    subst hb
    rw [← ha.debts] at hburnt
    exact ⟨⟨_, _, hburnt⟩, ha.vault⟩
  | liquidateReservoir nftAsset reserveAsset tokenId module sale expectedLiquidateAmount =>
    obtain rfl := Option.some.inj hc
    refine State.liquidateReservoir_account.imp fun s' hs' => ?_
    obtain ⟨Rs, L, T, b, _, _, ha⟩ := hs'
    have hpayoff : (Call.liquidateReservoir (D := D) nftAsset reserveAsset tokenId module sale
        expectedLiquidateAmount).payoff s = b := by
      simp only [Call.payoff, ha.amount]
    refine ⟨⟨D.reservoirAdapter,
      (Rs (s.loanOn nftAsset tokenId).reserveAsset).variableBorrowIndex, ?_⟩, ha.vault⟩
    rw [hpayoff, ha.debts]
    exact ha.burnt
  | _ => cases hc

/-- Something is burnt. -/
theorem PaidOff.pos {c : Call D} {loan : LoanData} (h : PaidOff D s s' c loan) :
    0 < c.payoff s := by
  obtain ⟨caller, index, d, hd, -⟩ := h.burnt
  obtain ⟨-, hd⟩ := require_bind_eq_ok.mp hd
  obtain ⟨n, hn, hd⟩ := bind_eq_ok.mp hd
  obtain ⟨hn0, -⟩ := require_bind_eq_ok.mp hd
  refine Nat.pos_of_ne_zero fun hz => hn0 ?_
  rw [(rayDiv_spec hn).2, hz, Nat.zero_mul, FixedPoint.divHalfUp_zero]

/-- The vault after a call, with what came in and what went out of the WETH reserve: it is as it
was, or reserves were deposited, or they were withdrawn. -/
inductive VaultTurned (D : Deployment) (s : State) : ℕ → ℕ → YVault → Prop
  | kept : VaultTurned D s 0 0 s.yVault
  | credited (asset : Address) (amount : ℕ) :
      VaultTurned D s (if asset = D.weth then amount else 0) 0
        (State.credited D s.yVault asset (s.lendPool.reserves asset).uTokenAddress amount)
  | debited (asset : Address) (amount shares value : ℕ) :
      State.Drawn D s.yVault asset (s.lendPool.reserves asset).uTokenAddress amount shares value →
      VaultTurned D s 0 (if asset = D.weth then amount else 0)
        (State.debited s.yVault (s.lendPool.reserves asset).uTokenAddress shares)

/-- **Every call, on the vault.** What is deposited and what is burnt through the pool goes in; what
is withdrawn and what is minted comes out. -/
theorem perform_vaultTurned (h : Books D s) (c : Call D) :
    Returns (s.perform D sender c) (fun s' => VaultTurned D s
      (c.deposits D.weth + if c.isSale = true then 0 else c.burns s D.weth)
      (c.withdraws s sender D.weth + c.mints D.weth) s'.yVault) := by
  cases hk : c.paysOff with
  | some k =>
    refine (perform_paidOff hk).imp fun s' hs' => ?_
    have hburns : c.burns s D.weth
        = if (s.loanOn k.1 k.2).reserveAsset = D.weth then c.payoff s else 0 := by
      rw [Call.burns, hk]
    have hnone : c.withdraws s sender D.weth = 0 ∧ c.mints D.weth = 0 ∧ c.deposits D.weth = 0 := by
      cases c with
      | deposit => cases hk
      | withdraw => cases hk
      | borrow => cases hk
      | _ => exact ⟨rfl, rfl, rfl⟩
    rw [hnone.1, hnone.2.1, hnone.2.2, hburns, hs'.vault, Nat.zero_add]
    by_cases hsale : c.isSale = true
    · rw [if_pos hsale, if_pos hsale]
      exact .kept
    · rw [if_neg hsale, if_neg hsale]
      exact .credited _ _
  | none =>
    -- what is left are the two calls of depositors, the borrow, and calls that move nothing
    have htotal : (if c.isSale = true then 0 else c.burns s D.weth) = 0 := by
      rw [Call.burns, hk]
      split <;> rfl
    rw [htotal, Nat.add_zero]
    by_cases hplain : c.isPlain = true
    · refine (perform_plain h hplain).imp fun s' hs' => ?_
      rw [hs'.yVault]
      cases c with
      | deposit => cases hplain
      | withdraw => cases hplain
      | borrow => cases hplain
      | _ => exact .kept
    cases c with
    | deposit asset amount onBehalfOf =>
      refine Returns.check fun _ => State.executeDeposit_account.imp fun s' hs' => ?_
      obtain ⟨Rs, ha⟩ := hs'
      rw [ha.vault]
      exact .credited asset amount
    | withdraw asset amount receiver =>
      refine Returns.check fun _ => State.fst_spec ?_
      refine (State.executeWithdraw_account.and (Sat.returned _)).returns.imp fun p hp => ?_
      obtain ⟨⟨Rs, _, _, ha, hdrawn⟩, hreturned⟩ := hp
      rw [ha.vault]
      simp only [Call.withdraws, hreturned, Call.mints, Call.deposits]
      exact .debited asset _ _ _ hdrawn
    | borrow asset amount nftAsset nftTokenId onBehalfOf =>
      refine Returns.check fun _ => State._borrow_account.imp fun s' hs' => ?_
      obtain ⟨Rs, L, T, _, _, ha, -, -, -, hdrawn⟩ := hs'
      rw [ha.vault]
      simp only [Call.withdraws, Call.mints, Call.deposits, Nat.zero_add]
      exact .debited asset _ _ _ hdrawn
    | auction nftAsset nftTokenId bidPrice onBehalfOf =>
      refine Returns.check fun _ => State.executeAuction_account.imp fun s' hs' => ?_
      obtain ⟨loan, Rs, L, b, -, -, -, ha, -⟩ := hs'
      rw [ha.vault]
      exact .kept
    | buy nftAsset tokenId onBehalfOf amount =>
      refine State.buy_account.imp fun s' hs' => ?_
      obtain ⟨-, -, -, Rs, L, T, ha, -⟩ := hs'
      rw [ha.vault]
      exact .kept
    | bid nftAsset tokenId bidPrice onBehalfOf =>
      refine State.bid_account.imp fun s' hs' => ?_
      obtain ⟨-, -, ⟨-, -, Rs, L, T, ha, -⟩ | ⟨-, honly, -⟩⟩ := hs'
      · rw [ha.vault]
        exact .kept
      · rw [honly.yVault]
        exact .kept
    | claim nftAsset tokenId onBehalfOf =>
      refine State.claim_account.imp fun s' hs' => ?_
      obtain ⟨-, -, -, Rs, L, T, ha, -⟩ := hs'
      rw [ha.vault]
      exact .kept
    | approveDelegation asset delegatee amount => exact .kept
    | repay => cases hk
    | redeem => cases hk
    | liquidate => cases hk
    | buyout => cases hk
    | liquidateReservoir => cases hk
    | _ => exact absurd rfl hplain

/-- No call changes the price of a share, or touches shares of another holder than the uToken of the
WETH reserve. -/
theorem VaultTurned.frame {inn out : ℕ} {v : YVault} (h : VaultTurned D s inn out v) :
    v.pricePerShare = s.yVault.pricePerShare ∧
    ∀ u, u ≠ (s.lendPool.reserves D.weth).uTokenAddress → v.shares u = s.yVault.shares u := by
  cases h with
  | kept => exact ⟨rfl, fun u _ => rfl⟩
  | credited asset amount =>
    unfold State.credited
    by_cases hw : asset = D.weth
    · rw [if_pos hw, hw]
      exact ⟨rfl, fun u hu => Function.update_of_ne hu _ _⟩
    · rw [if_neg hw]
      exact ⟨rfl, fun u _ => rfl⟩
  | debited asset amount shares value hdrawn =>
    refine ⟨rfl, fun u hu => ?_⟩
    unfold State.debited
    by_cases hw : asset = D.weth
    · rw [hw]
      exact Function.update_of_ne hu _ _
    · -- of another asset nothing is drawn
      obtain ⟨rfl, -⟩ := hdrawn.other hw
      simp

/-- With a vault that pays one to one, the shares of the WETH reserve are counted in the asset. -/
theorem VaultTurned.shares {inn out : ℕ} {v : YVault} (h : VaultTurned D s inn out v)
    (hexact : D.Exact) (hpar : s.yVault.pricePerShare = WAD) :
    v.shares (s.lendPool.reserves D.weth).uTokenAddress + out
      = s.yVault.shares (s.lendPool.reserves D.weth).uTokenAddress + inn := by
  cases h with
  | kept => rfl
  | credited asset amount =>
    unfold State.credited
    by_cases hw : asset = D.weth
    · rw [if_pos hw, if_pos hw, hexact.sharesFor, hw]
      exact Function.update_self _ _ _
    · rw [if_neg hw, if_neg hw]
  | debited asset amount shares value hdrawn =>
    unfold State.debited
    by_cases hw : asset = D.weth
    · obtain ⟨hn, hle, -⟩ := hdrawn.weth hw
      rw [hpar] at hn
      obtain rfl := wadDiv_wad hn
      rw [hw] at hle
      rw [if_pos hw, hw]
      simp only [Function.update_self]
      exact Nat.sub_add_cancel hle
    · obtain ⟨rfl, -⟩ := hdrawn.other hw
      simp [hw]

/-! ## What can be lent -/

/-- A liquidation through the adapter of a loan in WETH. -/
def Call.SellsWeth (s : State) : Call D → Prop
  | .liquidateReservoir nftAsset _ tokenId _ _ _ =>
      (s.loanOn nftAsset tokenId).reserveAsset = D.weth
  | _ => False

/-- A call has changed the available liquidity of the WETH reserve by what it deposited and burnt,
and by what it withdrew and minted. -/
def Relends (D : Deployment) (s : State) (sender : Address) (c : Call D) (s' : State) : Prop :=
  s'.availableLiquidity (s.lendPool.reserves D.weth).uTokenAddress
      + (c.withdraws s sender D.weth + c.mints D.weth)
    = s.availableLiquidity (s.lendPool.reserves D.weth).uTokenAddress
      + (c.deposits D.weth + c.burns s D.weth)

/-- **Which calls do.** All but the liquidation through the adapter of a loan in WETH. -/
theorem relends_iff (h : Books D s) (hexact : D.Exact) (hpar : s.yVault.pricePerShare = WAD)
    {c : Call D} (hok : s.perform D sender c = .ok s') :
    s'.yVault.pricePerShare = WAD ∧ (Relends D s sender c s' ↔ ¬ c.SellsWeth s) := by
  have hturned := (perform_vaultTurned h c).ok hok
  have hpar' := hturned.frame.1.trans hpar
  have hshares := hturned.shares hexact hpar
  refine ⟨hpar', ?_⟩
  unfold Relends
  rw [State.availableLiquidity_of_par hpar, State.availableLiquidity_of_par hpar']
  by_cases hsale : c.isSale = true
  · rw [if_pos hsale] at hshares
    cases c with
    | liquidateReservoir nftAsset reserveAsset tokenId module sale expectedLiquidateAmount =>
      -- the payoff is positive, and does not reach the vault
      have hpos := ((perform_paidOff (D := D) rfl).ok hok).pos
      unfold Call.SellsWeth Call.burns Call.paysOff
      dsimp only
      by_cases hw : (s.loanOn nftAsset tokenId).reserveAsset = D.weth
      · rw [if_pos hw]
        simp only [hw, not_true, iff_false]
        omega
      · rw [if_neg hw]
        simp only [hw, not_false_eq_true, iff_true]
        exact hshares
    | _ => cases hsale
  · rw [if_neg hsale] at hshares
    refine ⟨fun _ hsells => hsale ?_, fun _ => hshares⟩
    cases c with
    | liquidateReservoir => rfl
    | _ => exact absurd hsells id

/-- Actions that keep the price of a share, and do not sell a loan in WETH. -/
def relending (s : State) : Action D → Prop
  | .call _ _ c => ¬ c.SellsWeth s
  | .event (.setPricePerShare _) => False
  | _ => True

/-- An amount of the calls in a log. -/
def ofCall (f : State → Address → Call D → ℕ) (e : Entry State (Action D)) : ℕ :=
  match e.action with
  | .call sender _ c => f e.before sender c
  | _ => 0

/-- Around the protocol, nothing but the price of a share changes the vault. -/
theorem happen_yVault {e : Event} (he : ∀ price, e ≠ .setPricePerShare price) :
    (s.happen e).yVault = s.yVault := by
  cases e with
  | mintNft asset dst tokenId =>
    unfold State.happen
    dsimp only
    split <;> rfl
  | setPricePerShare price => exact absurd rfl (he price)
  | _ => rfl

/-- **Step lemma.** Over and above the equation, such an action keeps the price of a share. -/
theorem Taken.relends (h : Books D s) (hexact : D.Exact) (hpar : s.yVault.pricePerShare = WAD)
    {a : Action D} (hst : Taken D relending s a s') : s'.yVault.pricePerShare = WAD ∧
      s'.availableLiquidity (s.lendPool.reserves D.weth).uTokenAddress
          + (ofCall (fun s sender c => c.withdraws s sender D.weth) ⟨s, a, s'⟩
            + ofCall (fun _ _ c => c.mints D.weth) ⟨s, a, s'⟩)
        = s.availableLiquidity (s.lendPool.reserves D.weth).uTokenAddress
          + (ofCall (fun _ _ c => c.deposits D.weth) ⟨s, a, s'⟩
            + ofCall (fun s _ c => c.burns s D.weth) ⟨s, a, s'⟩) := by
  obtain ⟨hallowed, ha⟩ := hst
  cases a with
  | call sender outside c =>
    obtain ⟨hpar', hiff⟩ := relends_iff h hexact hpar ha
    exact ⟨hpar', hiff.mpr hallowed⟩
  | configure setting =>
    have hv := ((configure_framed setting).ok ha).yVault
    refine ⟨by rw [hv]; exact hpar, ?_⟩
    unfold State.availableLiquidity
    rw [hv]
    rfl
  | event e =>
    obtain rfl := Except.ok.inj ha
    have hv : (s.happen e).yVault = s.yVault := by
      refine happen_yVault fun price he => ?_
      subst he
      exact hallowed
    refine ⟨by rw [hv]; exact hpar, ?_⟩
    unfold State.availableLiquidity
    rw [hv]
    rfl

/-- **Run lemma.** What can be lent changes by deposits and withdrawals, and by what is minted and
burnt. -/
theorem lendable_along {allowed : State → Action D → Prop} {s₀ : State}
    {log : List (Entry State (Action D))} (hr : Reachable D allowed s₀) (hexact : D.Exact)
    (hpar : s₀.yVault.pricePerShare = WAD)
    (hinit : (s₀.lendPool.reserves D.weth).uTokenAddress ≠ 0)
    (h : History (Taken D relending) s₀ log s) :
    s.availableLiquidity (s₀.lendPool.reserves D.weth).uTokenAddress
        + (total (ofCall fun s sender c => c.withdraws s sender D.weth) log
          + total (ofCall fun _ _ c => c.mints D.weth) log)
      = s₀.availableLiquidity (s₀.lendPool.reserves D.weth).uTokenAddress
        + (total (ofCall fun _ _ c => c.deposits D.weth) log
          + total (ofCall fun s _ c => c.burns s D.weth) log) := by
  have key : s.yVault.pricePerShare = WAD ∧ Reachable D (anyAction D) s ∧
      (s.lendPool.reserves D.weth).uTokenAddress = (s₀.lendPool.reserves D.weth).uTokenAddress ∧
      s.availableLiquidity (s₀.lendPool.reserves D.weth).uTokenAddress
          + (total (ofCall fun s sender c => c.withdraws s sender D.weth) log
            + total (ofCall fun _ _ c => c.mints D.weth) log)
        = s₀.availableLiquidity (s₀.lendPool.reserves D.weth).uTokenAddress
          + (total (ofCall fun _ _ c => c.deposits D.weth) log
            + total (ofCall fun s _ c => c.burns s D.weth) log) := by
    refine h.invariant (P := fun log s => s.yVault.pricePerShare = WAD ∧
      Reachable D (anyAction D) s ∧
      (s.lendPool.reserves D.weth).uTokenAddress = (s₀.lendPool.reserves D.weth).uTokenAddress ∧
      s.availableLiquidity (s₀.lendPool.reserves D.weth).uTokenAddress
          + (total (ofCall fun s sender c => c.withdraws s sender D.weth) log
            + total (ofCall fun _ _ c => c.mints D.weth) log)
        = s₀.availableLiquidity (s₀.lendPool.reserves D.weth).uTokenAddress
          + (total (ofCall fun _ _ c => c.deposits D.weth) log
            + total (ofCall fun s _ c => c.burns s D.weth) log)) ⟨hpar, hr.any, rfl, rfl⟩
      fun log t a t' _ ih hst => ?_
    obtain ⟨hpar, hreach, hu, hsum⟩ := ih
    obtain ⟨hpar', hstep⟩ := hst.relends (Reachable.books hreach) hexact hpar
    have hany : Step D (anyAction D) t t' := ⟨a, trivial, hst.2⟩
    have hu' := Reachable.opened_kept hreach hany (r := D.weth) (by rw [hu]; exact hinit)
    refine ⟨hpar', .next hreach hany, hu'.trans hu, ?_⟩
    rw [hu] at hstep
    simp only [total_cons]
    omega
  exact key.2.2.2

/-- **Debt repaid can be lent again.** With a vault that pays one to one, in every reachable state,
the call of any account burns what it pays off a loan, and mints what it borrows; the available
liquidity of the WETH reserve, which is what `getAvailableLiquidity` reports, changes by what the
call deposits and burns and by what it withdraws and mints, except, always, in a liquidation
through the adapter of a loan in WETH. Along any log without these it changes by the totals. -/
theorem repaid_is_lendable {allowed : State → Action D → Prop} (hr : Reachable D allowed s)
    (hexact : D.Exact) (hpar : s.yVault.pricePerShare = WAD) :
    (∀ uToken n, s.getAvailableLiquidity uToken = .ok n → n = s.availableLiquidity uToken) ∧
    (∀ sender c s', s.perform D sender c = .ok s' →
      (∀ k, c.paysOff = some k → ∃ caller index, Burnt caller (s.loanOn k.1 k.2).reserveAsset
        (s.loanOn k.1 k.2).borrower (c.payoff s) index s.debtTokens s'.debtTokens) ∧
      (∀ asset amount nftAsset nftTokenId onBehalfOf,
        c = .borrow asset amount nftAsset nftTokenId onBehalfOf → ∃ index, Minted D.lendPool asset
          sender onBehalfOf amount index s.debtTokens s'.debtTokens) ∧
      (Relends D s sender c s' ↔ ¬ c.SellsWeth s)) ∧
    ((s.lendPool.reserves D.weth).uTokenAddress ≠ 0 → ∀ log s',
      History (Taken D relending) s log s' →
      s'.availableLiquidity (s.lendPool.reserves D.weth).uTokenAddress
          + (total (ofCall fun s sender c => c.withdraws s sender D.weth) log
            + total (ofCall fun _ _ c => c.mints D.weth) log)
        = s.availableLiquidity (s.lendPool.reserves D.weth).uTokenAddress
          + (total (ofCall fun _ _ c => c.deposits D.weth) log
            + total (ofCall fun s _ c => c.burns s D.weth) log)) := by
  refine ⟨fun _ _ => State.getAvailableLiquidity_eq, fun sender c s' hok => ⟨?_, ?_, ?_⟩,
    fun hinit log s' hlog => lendable_along hr hexact hpar hinit hlog⟩
  · intro k hk
    exact ((perform_paidOff hk).ok hok).burnt
  · rintro asset amount nftAsset nftTokenId onBehalfOf rfl
    have hminted : Returns (s.perform D sender (.borrow asset amount nftAsset
      nftTokenId onBehalfOf))
        fun s' => ∃ index, Minted D.lendPool asset sender onBehalfOf amount index s.debtTokens
          s'.debtTokens := by
      refine Returns.check fun _ => State._borrow_account.imp fun s' hs' => ?_
      obtain ⟨Rs, L, T, _, _, ha, -, -, hminted, -⟩ := hs'
      rw [ha.debts]
      exact ⟨_, hminted⟩
    exact hminted.ok hok
  · exact (relends_iff (Reachable.books hr) hexact hpar hok).2

theorem Deployment.sample_exact : Deployment.sample.Exact :=
  ⟨fun _ _ => rfl, fun _ _ => rfl⟩

/-- In the small deployment what user 100 repays can be lent again. -/
theorem repaid_is_lendable_sample : ∃ s', State.sampleListed.perform .sample 100
      (.repay 40 7 (10 * WAD)) = .ok s' ∧
    Relends .sample .sampleListed 100 (.repay 40 7 (10 * WAD)) s' := by
  have hok := State.perform_after (s := State.sampleListed) Deployment.sample_borrower
    (c := .repay 40 7 (10 * WAD)) (by decide +kernel)
  have hlendable := repaid_is_lendable (Reachable.after (.start (State.sample_genesis .weth9))
    (sampleSetup 1000 ++ sampleListing) fun _ _ _ => trivial) Deployment.sample_exact
    (by decide +kernel)
  exact ⟨_, hok, ((hlendable.2.1 _ _ _ hok).2.2).mpr id⟩

/-- The loan of user 100 is unhealthy, and 104 may sell it through the module 105. -/
def sampleUnhealthy : List (Action .sample) :=
  [.call 100 Deployment.sample_borrower (.borrow 10 (30 * WAD) 40 7 100),
    .configure (.setNFTPrice 40 7 (30 * WAD)),
    .configure (.updateLiquidators 104 true),
    .configure (.updateModules 105 true),
    .configure (.updateMarketAdapters 4 true (.inr (.inr (.inr (.inl rfl)))))]

def State.sampleUnhealthy : State :=
  (State.sample .weth9).after .sample (sampleSetup 1000 ++ Unlockd.sampleUnhealthy)

/-- The token is sold to account 107 for 35 WETH. -/
def sampleSale : Call .sample :=
  .liquidateReservoir 40 10 7 105
    ⟨107, [⟨10, 105, 4, 35 * WAD, 105, Deployment.sample_isUser 5⟩]⟩ 0

/-- **Debt repaid can lie idle.** The sale pays off a debt of 30 WETH. The uToken receives them, and
keeps them: not a wei more can be lent. -/
theorem repaid_debt_can_lie_idle : ∃ s s', Reachable .sample (anyAction .sample) s ∧
    s.yVault.pricePerShare = WAD ∧ s.perform .sample 104 sampleSale = .ok s' ∧
    sampleSale.burns s 10 = 30 * WAD ∧
    (s.getAvailableLiquidity 20).toOption = some (970 * WAD) ∧
    (s'.getAvailableLiquidity 20).toOption = some (970 * WAD) ∧
    (s'.erc20 10).balanceOf 20 = (s.erc20 10).balanceOf 20 + 30 * WAD ∧
    ¬ Relends .sample s 104 sampleSale s' := by
  have hok := State.perform_after (s := State.sampleUnhealthy) (Deployment.sample_isUser 4)
    (c := sampleSale) (by decide +kernel)
  refine ⟨_, _, Reachable.after (.start (State.sample_genesis .weth9))
    (sampleSetup 1000 ++ Unlockd.sampleUnhealthy) fun _ _ _ => trivial, by decide +kernel, hok,
    by decide +kernel, by decide +kernel, by decide +kernel, by decide +kernel, ?_⟩
  unfold Relends
  decide +kernel

end Vault

end Unlockd
