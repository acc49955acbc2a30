/-
Debt and consent.

Debt can be put on an account by a borrow in its name, which consumes an allowance the account
has given, and by a purchase on the debt market, where the account to be charged is an argument
of the call and nothing is asked of it. What the debt tokens record of consent is therefore
accounted for along the log of a run: the amounts minted in the name of another never exceed
what that other has approved. For purchases there is consent only where every buyer and every
bidder acts for itself, and then the log of the run shows the bid that a claim rests on.
-/
import Unlockd.Lifecycle

set_option autoImplicit false

namespace Unlockd

open Outcome Machine LendPoolLoan

/-! ## One debt token -/

namespace DebtToken

variable {d d' : DebtToken} {caller initiator onBehalfOf user : Address} {amount index : ℕ}

/-- Minting: debt for one account, and the allowance of the initiator if that is another. -/
theorem mint_ok (h : d.mint caller initiator onBehalfOf amount index = .ok d') :
    onBehalfOf ≠ 0 ∧
    (∀ u, u ≠ onBehalfOf → d'.scaledBalanceOf u = d.scaledBalanceOf u) ∧
    (initiator = onBehalfOf → d'.borrowAllowance = d.borrowAllowance) ∧
    (initiator ≠ onBehalfOf → amount ≤ d.borrowAllowance onBehalfOf initiator ∧
      d'.borrowAllowance = update₂ d.borrowAllowance onBehalfOf initiator
        (d.borrowAllowance onBehalfOf initiator - amount)) := by
  obtain ⟨-, h⟩ := require_bind_eq_ok.mp h
  obtain ⟨d₁, hd₁, h⟩ := bind_eq_ok.mp h
  obtain ⟨n, -, h⟩ := bind_eq_ok.mp h
  obtain ⟨-, h⟩ := require_bind_eq_ok.mp h
  obtain ⟨hto, h⟩ := require_bind_eq_ok.mp h
  obtain rfl := Except.ok.inj h
  unfold applyIf at hd₁
  by_cases heq : initiator = onBehalfOf
  · rw [if_neg (not_not.mpr heq)] at hd₁
    obtain rfl := Except.ok.inj hd₁
    exact ⟨hto, fun u hu => Function.update_of_ne hu _ _, fun _ => rfl, fun hne => absurd heq hne⟩
  · rw [if_pos heq] at hd₁
    obtain ⟨hle, hd₁⟩ := require_bind_eq_ok.mp hd₁
    obtain rfl := Except.ok.inj hd₁
    exact ⟨hto, fun u hu => Function.update_of_ne hu _ _, fun he => absurd he heq,
      fun _ => ⟨hle, rfl⟩⟩

/-- Burning: no balance grows, and no allowance changes. -/
theorem burn_ok (h : d.burn caller user amount index = .ok d') :
    (∀ u, d'.scaledBalanceOf u ≤ d.scaledBalanceOf u) ∧ d'.borrowAllowance = d.borrowAllowance := by
  obtain ⟨-, h⟩ := require_bind_eq_ok.mp h
  obtain ⟨n, -, h⟩ := bind_eq_ok.mp h
  obtain ⟨-, h⟩ := require_bind_eq_ok.mp h
  obtain ⟨-, h⟩ := require_bind_eq_ok.mp h
  obtain ⟨-, h⟩ := require_bind_eq_ok.mp h
  obtain rfl := Except.ok.inj h
  refine ⟨fun u => ?_, rfl⟩
  by_cases hu : u = user
  · subst hu
    simp only [Function.update_self]
    exact Nat.sub_le _ _
  · simp only [Function.update_of_ne hu, le_refl]

end DebtToken

/-! ## All debt tokens -/

/-- The debt of an account to a reserve grows, over and above interest. -/
def Charged (r v : Address) (T T' : Address → DebtToken) : Prop :=
  (T r).scaledBalanceOf v < (T' r).scaledBalanceOf v

section Tokens

variable {caller reserve initiator onBehalfOf user : Address} {amount index : ℕ}
  {T T' : Address → DebtToken}

/-- Burning charges nobody. -/
theorem Burnt.not_charged (h : Burnt caller reserve user amount index T T') (r v : Address) :
    ¬ Charged r v T T' := by
  obtain ⟨d, hd, rfl⟩ := h
  unfold Charged
  by_cases hr : r = reserve
  · subst hr
    rw [Function.update_self]
    exact not_lt.mpr ((DebtToken.burn_ok hd).1 v)
  · rw [Function.update_of_ne hr]
    exact lt_irrefl _

theorem Burnt.borrowAllowance (h : Burnt caller reserve user amount index T T') (r : Address) :
    (T' r).borrowAllowance = (T r).borrowAllowance := by
  obtain ⟨d, hd, rfl⟩ := h
  by_cases hr : r = reserve
  · subst hr
    rw [Function.update_self]
    exact (DebtToken.burn_ok hd).2
  · rw [Function.update_of_ne hr]

/-- Minting charges one account, to one reserve. -/
theorem Minted.charged (h : Minted caller reserve initiator onBehalfOf amount index T T')
    {r v : Address} (hc : Charged r v T T') : r = reserve ∧ v = onBehalfOf ∧ v ≠ 0 := by
  obtain ⟨d, hd, rfl⟩ := h
  obtain ⟨hto, hothers, -⟩ := DebtToken.mint_ok hd
  unfold Charged at hc
  by_cases hr : r = reserve
  · subst hr
    rw [Function.update_self] at hc
    by_cases hv : v = onBehalfOf
    · exact ⟨rfl, hv, hv ▸ hto⟩
    · rw [hothers v hv] at hc
      exact absurd hc (lt_irrefl _)
  · rw [Function.update_of_ne hr] at hc
    exact absurd hc (lt_irrefl _)

/-- Minted for the initiator itself, debt costs no allowance. -/
theorem Minted.borrowAllowance_self (h : Minted caller reserve user user amount index T T')
    (r : Address) : (T' r).borrowAllowance = (T r).borrowAllowance := by
  obtain ⟨d, hd, rfl⟩ := h
  by_cases hr : r = reserve
  · subst hr
    rw [Function.update_self]
    exact (DebtToken.mint_ok hd).2.2.1 rfl
  · rw [Function.update_of_ne hr]

/-- Minted in the name of another, it takes its amount off the allowance of the initiator, which
covers it; no other allowance changes. -/
theorem Minted.borrowAllowance (h : Minted caller reserve initiator onBehalfOf amount index T T')
    (r v i : Address) : (T' r).borrowAllowance v i
        + (if r = reserve ∧ v = onBehalfOf ∧ i = initiator ∧ i ≠ v then amount else 0)
      = (T r).borrowAllowance v i := by
  by_cases heq : initiator = onBehalfOf
  · subst heq
    rw [h.borrowAllowance_self r, if_neg]
    · rfl
    · rintro ⟨-, hv, hi, hne⟩
      exact hne (hi.trans hv.symm)
  obtain ⟨d, hd, rfl⟩ := h
  obtain ⟨hle, hallowance⟩ := (DebtToken.mint_ok hd).2.2.2 heq
  by_cases hr : r = reserve
  · subst hr
    rw [Function.update_self, hallowance, update₂_apply]
    by_cases hvi : v = onBehalfOf ∧ i = initiator
    · obtain ⟨rfl, rfl⟩ := hvi
      rw [if_pos ⟨rfl, rfl⟩, if_pos ⟨rfl, rfl, rfl, heq⟩]
      exact Nat.sub_add_cancel hle
    · rw [if_neg hvi, if_neg fun hx => hvi ⟨hx.2.1, hx.2.2.1⟩]
      rfl
  · rw [Function.update_of_ne hr, if_neg fun hx => hr hx.1]
    rfl

end Tokens

/-! ## What a call does to them -/

/-- The account a call of the debt market charges. -/
def Call.charges {D : Deployment} : Call D → Option Address
  | .buy _ _ onBehalfOf _ => some onBehalfOf
  | .bid _ _ _ onBehalfOf => some onBehalfOf
  | .claim _ _ onBehalfOf => some onBehalfOf
  | _ => none

/-- Whether a call borrows from a reserve. -/
def Call.borrows {D : Deployment} : Call D → Bool
  | .borrow .. => true
  | _ => false

theorem State.approveDelegation_scaledBalanceOf {s : State} {asset caller delegatee : Address}
    {amount : ℕ} (r : Address) :
    ((s.approveDelegation asset caller delegatee amount).debtTokens r).scaledBalanceOf
      = (s.debtTokens r).scaledBalanceOf := by
  by_cases hr : r = asset <;> simp [approveDelegation, setDebtToken, hr]

theorem State.approveDelegation_borrowAllowance {s : State} {asset caller delegatee : Address}
    {amount : ℕ} (r v i : Address) :
    ((s.approveDelegation asset caller delegatee amount).debtTokens r).borrowAllowance v i
      = if r = asset ∧ v = caller ∧ i = delegatee then amount
        else (s.debtTokens r).borrowAllowance v i := by
  by_cases hr : r = asset
  · subst hr
    simp [approveDelegation, setDebtToken, update₂_apply]
  · simp [approveDelegation, setDebtToken, hr]

/-- The ways a call by `sender` changes the debt tokens. -/
inductive DebtTurned (D : Deployment) (s : State) (sender : Address) :
    Call D → (Address → DebtToken) → Prop
  | kept {c : Call D} : c.borrows = false → DebtTurned D s sender c s.debtTokens
  | burnt {c : Call D} {caller reserve user : Address} {amount index : ℕ}
      {T : Address → DebtToken} : c.borrows = false →
      Burnt caller reserve user amount index s.debtTokens T → DebtTurned D s sender c T
  | borrowed {asset nftAsset onBehalfOf : Address} {amount nftTokenId index : ℕ}
      {T : Address → DebtToken} :
      Minted D.lendPool asset sender onBehalfOf amount index s.debtTokens T →
      DebtTurned D s sender (.borrow asset amount nftAsset nftTokenId onBehalfOf) T
  | transferred {c : Call D} {reserve seller onBehalfOf : Address} {amount index : ℕ}
      {T₁ T : Address → DebtToken} : c.charges = some onBehalfOf → c.borrows = false →
      Burnt D.debtMarket reserve seller amount index s.debtTokens T₁ →
      Minted D.debtMarket reserve onBehalfOf onBehalfOf amount index T₁ T →
      DebtTurned D s sender c T
  | delegated {asset delegatee : Address} {amount : ℕ} :
      DebtTurned D s sender (.approveDelegation asset delegatee amount)
        (s.approveDelegation asset sender delegatee amount).debtTokens

section Calls

variable {D : Deployment} {s s' : State} {sender : Address}

/-- **Every call.** It changes the debt tokens in one of the ways listed. -/
theorem perform_debtTurned (h : Books D s) (c : Call D) :
    Returns (s.perform D sender c) (fun s' => DebtTurned D s sender c s'.debtTokens) := by
  by_cases hplain : c.isPlain = true
  · refine (perform_plain h hplain).imp fun s' hs' => ?_
    rw [hs'.debtTokens]
    refine .kept ?_
    cases c with
    | borrow => exact absurd hplain Bool.false_ne_true
    | _ => rfl
  cases c with
  | deposit asset amount onBehalfOf =>
    refine Returns.check fun _ => State.executeDeposit_account.imp fun s' hs' => ?_
    obtain ⟨Rs, ha⟩ := hs'
    rw [ha.debts]
    exact .kept rfl
  | withdraw asset amount receiver =>
    refine Returns.check fun _ => State.fst_spec (State.executeWithdraw_account.imp fun p hp => ?_)
    obtain ⟨Rs, _, _, ha, -⟩ := hp
    rw [ha.debts]
    exact .kept rfl
  | borrow asset amount nftAsset nftTokenId onBehalfOf =>
    refine Returns.check fun _ => State._borrow_account.imp fun s' hs' => ?_
    obtain ⟨Rs, L, T, _, _, ha, -, -, hminted, -⟩ := hs'
    rw [ha.debts]
    exact .borrowed hminted
  | repay nftAsset nftTokenId amount =>
    refine Returns.check fun _ => State.fst_spec (State._repay_account.imp fun p hp => ?_)
    obtain ⟨loan, Rs, L, T, b, n, -, -, -, -, -, ha, -, -, hburnt, -⟩ := hp
    rw [ha.debts]
    exact .burnt rfl hburnt
  | auction nftAsset nftTokenId bidPrice onBehalfOf =>
    refine Returns.check fun _ => State.executeAuction_account.imp fun s' hs' => ?_
    obtain ⟨loan, Rs, L, b, -, -, -, ha, -⟩ := hs'
    rw [ha.debts]
    exact .kept rfl
  | redeem nftAsset nftTokenId amount bidFine =>
    refine Returns.check fun _ => State.fst_spec (State.executeRedeem_account.imp fun p hp => ?_)
    obtain ⟨loan, Rs, L, T, fine, -, -, ha, -, -, hburnt⟩ := hp
    rw [ha.debts]
    exact .burnt rfl hburnt
  | liquidate nftAsset nftTokenId amount =>
    refine Returns.check fun _ => State.fst_spec (State.executeLiquidate_account.imp fun p hp => ?_)
    obtain ⟨loan, Rs, L, T, b, -, -, -, ha, -, -, hburnt⟩ := hp
    rw [ha.debts]
    exact .burnt rfl hburnt
  | buyout nftAsset nftTokenId onBehalfOf =>
    refine Returns.check fun _ => State.executeBuyout_account.imp fun s' hs' => ?_
    obtain ⟨loan, Rs, L, T, b, _, _, _, -, -, -, -, ha, -, -, hburnt⟩ := hs'
    rw [ha.debts]
    exact .burnt rfl hburnt
  | buy nftAsset tokenId onBehalfOf amount =>
    refine State.buy_account.imp fun s' hs' => ?_
    obtain ⟨-, -, -, Rs, L, T, ha, hover⟩ := hs'
    obtain ⟨T₁, hburnt, hminted⟩ := hover.debts
    rw [ha.debts]
    exact .transferred rfl rfl hburnt hminted
  | bid nftAsset tokenId bidPrice onBehalfOf =>
    refine State.bid_account.imp fun s' hs' => ?_
    obtain ⟨-, -, ⟨-, -, Rs, L, T, ha, hover⟩ | ⟨-, honly, -⟩⟩ := hs'
    · obtain ⟨T₁, hburnt, hminted⟩ := hover.debts
      rw [ha.debts]
      exact .transferred rfl rfl hburnt hminted
    · rw [honly.debtTokens]
      exact .kept rfl
  | claim nftAsset tokenId onBehalfOf =>
    refine State.claim_account.imp fun s' hs' => ?_
    obtain ⟨-, -, -, Rs, L, T, ha, hover⟩ := hs'
    obtain ⟨T₁, hburnt, hminted⟩ := hover.debts
    rw [ha.debts]
    exact .transferred rfl rfl hburnt hminted
  | liquidateReservoir nftAsset reserveAsset tokenId module sale expectedLiquidateAmount =>
    refine State.liquidateReservoir_account.imp fun s' hs' => ?_
    obtain ⟨Rs, L, T, _, _, _, ha⟩ := hs'
    rw [ha.debts]
    exact .burnt rfl ha.burnt
  | approveDelegation asset delegatee amount => exact .delegated
  | _ => exact absurd rfl hplain

/-- Where the listing `d` under an identifier comes from: it was there before the call, or it has
no bid, or the call was the bid on it that it shows. -/
def ListedBy (s : State) (c : Call D) (id : ℕ) (d : DebtMarketListing) : Prop :=
  d = s.debtMarket.marketListings id ∨ d.bidderAddress = 0 ∨
    ∃ nftAsset tokenId, c = .bid nftAsset tokenId d.bidPrice d.bidderAddress ∧
      s.debtMarket.getDebtId nftAsset tokenId = id

/-- **Every call, on the listings.** It can be told of every open one where it comes from. -/
theorem perform_listings (h : Books D s) (c : Call D) :
    Returns (s.perform D sender c) (fun s' => ∀ id, (s'.debtMarket.marketListings id).isOpen →
      ListedBy s c id (s'.debtMarket.marketListings id)) := by
  have same : ∀ {s' : State}, s.debtMarket.NoneNew s'.debtMarket → ∀ id,
      (s'.debtMarket.marketListings id).isOpen →
      ListedBy s c id (s'.debtMarket.marketListings id) := fun hn id hid => .inl (hn id hid)
  by_cases hplain : c.isPlain = true
  · refine (perform_plain h hplain).imp fun s' hs' id hid => ?_
    rcases hs'.listings id hid with heq | hz
    · exact .inl heq
    · exact .inr (.inl hz)
  cases c with
  | deposit asset amount onBehalfOf =>
    refine Returns.check fun _ => State.executeDeposit_account.imp fun s' hs' => ?_
    obtain ⟨Rs, ha⟩ := hs'
    exact same ha.listings
  | withdraw asset amount receiver =>
    refine Returns.check fun _ => State.fst_spec (State.executeWithdraw_account.imp fun p hp => ?_)
    obtain ⟨Rs, _, _, ha, -⟩ := hp
    exact same ha.listings
  | borrow asset amount nftAsset nftTokenId onBehalfOf =>
    refine Returns.check fun _ => State._borrow_account.imp fun s' hs' => ?_
    obtain ⟨Rs, L, T, _, _, ha, -⟩ := hs'
    exact same ha.listings
  | repay nftAsset nftTokenId amount =>
    refine Returns.check fun _ => State.fst_spec (State._repay_account.imp fun p hp => ?_)
    obtain ⟨loan, Rs, L, T, b, n, -, -, -, -, -, ha, -⟩ := hp
    exact same ha.listings
  | auction nftAsset nftTokenId bidPrice onBehalfOf =>
    refine Returns.check fun _ => State.executeAuction_account.imp fun s' hs' => ?_
    obtain ⟨loan, Rs, L, b, -, -, -, ha, -⟩ := hs'
    exact same ha.listings
  | redeem nftAsset nftTokenId amount bidFine =>
    refine Returns.check fun _ => State.fst_spec (State.executeRedeem_account.imp fun p hp => ?_)
    obtain ⟨loan, Rs, L, T, fine, -, -, ha, -⟩ := hp
    exact same ha.listings
  | liquidate nftAsset nftTokenId amount =>
    refine Returns.check fun _ => State.fst_spec (State.executeLiquidate_account.imp fun p hp => ?_)
    obtain ⟨loan, Rs, L, T, b, -, -, -, ha, -⟩ := hp
    exact same ha.listings
  | buyout nftAsset nftTokenId onBehalfOf =>
    refine Returns.check fun _ => State.executeBuyout_account.imp fun s' hs' => ?_
    obtain ⟨loan, Rs, L, T, b, _, _, _, -, -, -, -, ha, -⟩ := hs'
    exact same ha.listings
  | buy nftAsset tokenId onBehalfOf amount =>
    refine State.buy_account.imp fun s' hs' => ?_
    obtain ⟨-, -, hsold, -⟩ := hs'
    exact same hsold.noneNew
  | bid nftAsset tokenId bidPrice onBehalfOf =>
    refine State.bid_account.imp fun s' hs' id hid => ?_
    obtain ⟨-, -, ⟨-, hsold, -⟩ | ⟨-, -, hbid⟩⟩ := hs'
    · exact same hsold.noneNew id hid
    · by_cases heq : id = s.debtMarket.getDebtId nftAsset tokenId
      · subst heq
        refine .inr (.inr ⟨nftAsset, tokenId, ?_, rfl⟩)
        rw [hbid, DebtMarket.setListing_self]
      · refine .inl ?_
        rw [hbid]
        exact Function.update_of_ne heq _ _
  | claim nftAsset tokenId onBehalfOf =>
    refine State.claim_account.imp fun s' hs' => ?_
    obtain ⟨-, -, hsold, -⟩ := hs'
    exact same hsold.noneNew
  | liquidateReservoir nftAsset reserveAsset tokenId module sale expectedLiquidateAmount =>
    refine State.liquidateReservoir_account.imp fun s' hs' => ?_
    obtain ⟨Rs, L, T, _, _, _, ha⟩ := hs'
    exact same ha.listings
  | approveDelegation asset delegatee amount => exact same (.refl _)
  | _ => exact absurd rfl hplain

/-- What no setting changes: the loans, the balances of every token, and the vault. -/
structure Framed (s s' : State) : Prop where
  blockTimestamp : s'.blockTimestamp = s.blockTimestamp
  loans : s'.lendPoolLoan.loans = s.lendPoolLoan.loans
  debtTokens : ∀ r, (s'.debtTokens r).scaledBalanceOf = (s.debtTokens r).scaledBalanceOf ∧
    (s'.debtTokens r).scaledTotalSupply = (s.debtTokens r).scaledTotalSupply ∧
    (s'.debtTokens r).borrowAllowance = (s.debtTokens r).borrowAllowance
  uTokens : ∀ r, (s'.uTokens r).scaledBalanceOf = (s.uTokens r).scaledBalanceOf ∧
    (s'.uTokens r).scaledTotalSupply = (s.uTokens r).scaledTotalSupply
  erc20 : s'.erc20 = s.erc20
  yVault : s'.yVault = s.yVault

/-- The parts are unchanged themselves. -/
theorem Framed.ofEq (ht : s'.blockTimestamp = s.blockTimestamp)
    (hl : s'.lendPoolLoan = s.lendPoolLoan) (hd : s'.debtTokens = s.debtTokens)
    (hu : s'.uTokens = s.uTokens) (he : s'.erc20 = s.erc20) (hv : s'.yVault = s.yVault) :
    Framed s s' := by
  refine ⟨ht, by rw [hl], fun r => ?_, fun r => ?_, he, hv⟩
  · rw [hd]
    exact ⟨rfl, rfl, rfl⟩
  · rw [hu]
    exact ⟨rfl, rfl⟩

/-- A uToken gets another treasury or manager. -/
theorem Framed.ofUToken {asset : Address} {u : UToken}
    (hb : u.scaledBalanceOf = (s.uTokens asset).scaledBalanceOf)
    (hs : u.scaledTotalSupply = (s.uTokens asset).scaledTotalSupply) :
    Framed s (s.setUToken asset u) := by
  refine ⟨rfl, rfl, fun r => ⟨rfl, rfl, rfl⟩, fun r => ?_, rfl, rfl⟩
  by_cases hr : r = asset
  · subst hr
    simp [State.setUToken, hb, hs]
  · simp [State.setUToken, hr]

/-- **Every setting.** -/
theorem configure_framed (setting : Setting D) : Returns (s.configure D setting) (Framed s) := by
  cases setting with
  | updateTokenManagers asset manager flag inside =>
    refine Returns.check fun _ => ?_
    refine ⟨rfl, rfl, fun r => ?_, fun r => ⟨rfl, rfl⟩, rfl, rfl⟩
    by_cases hr : r = asset
    · subst hr
      simp [State.setDebtToken]
    · simp [State.setDebtToken, hr]
  | initReserve asset uToken treasury interestRate decimals proxy =>
    refine Returns.check fun _ => Returns.step fun reserve _ => Returns.step fun _ _ => ?_
    have hu : Framed s (s.setUToken asset { s.uTokens asset with treasury := treasury }) :=
      .ofUToken rfl rfl
    exact ⟨rfl, rfl, hu.debtTokens, hu.uTokens, rfl, rfl⟩
  | setActiveFlagOnReserve asset flag =>
    refine Sat.ite (fun _ => Returns.step fun _ _ => ?_) fun _ => ?_
    · exact Returns.step fun _ _ => .ofEq rfl rfl rfl rfl rfl rfl
    · exact Returns.step fun _ _ => .ofEq rfl rfl rfl rfl rfl rfl
  | initNft asset uNft proxy =>
    exact Returns.check fun _ => Returns.check fun _ => .ofEq rfl rfl rfl rfl rfl rfl
  | setPoolPause val =>
    change Framed s (s.setPause val)
    unfold State.setPause
    split_ifs <;> exact .ofEq rfl rfl rfl rfl rfl rfl
  | setBorrowingFlagOnReserve => exact Returns.step fun _ _ => .ofEq rfl rfl rfl rfl rfl rfl
  | setFreezeFlagOnReserve => exact Returns.step fun _ _ => .ofEq rfl rfl rfl rfl rfl rfl
  | setReserveFactor => exact Returns.step fun _ _ => .ofEq rfl rfl rfl rfl rfl rfl
  | configInterestRate => exact Returns.step fun _ _ => .ofEq rfl rfl rfl rfl rfl rfl
  | setReserveInterestRateAddress => exact Returns.check fun _ => .ofEq rfl rfl rfl rfl rfl rfl
  | setTreasuryAddress => exact Returns.check fun _ => .ofUToken rfl rfl
  | updateSafeHealthFactor => exact Returns.check fun _ => .ofEq rfl rfl rfl rfl rfl rfl
  | updateUTokenManagers => exact Returns.check fun _ => .ofUToken rfl rfl
  | updateMarketAdapters =>
    exact Returns.check fun _ => ⟨rfl, rfl, fun r => ⟨rfl, rfl, rfl⟩, fun r => ⟨rfl, rfl⟩, rfl, rfl⟩
  | updateLiquidators => exact Returns.check fun _ => .ofEq rfl rfl rfl rfl rfl rfl
  | updateModules => exact Returns.check fun _ => .ofEq rfl rfl rfl rfl rfl rfl
  | setDeltaBidPercent => exact Returns.check fun _ => .ofEq rfl rfl rfl rfl rfl rfl
  | setAuthorizedAddress => exact Returns.check fun _ => .ofEq rfl rfl rfl rfl rfl rfl
  | _ => exact .ofEq rfl rfl rfl rfl rfl rfl

/-- No event changes the debt tokens. -/
theorem happen_debtTokens (e : Event) : (s.happen e).debtTokens = s.debtTokens := by
  cases e with
  | mintNft asset dst tokenId =>
    unfold State.happen
    dsimp only
    split <;> rfl
  | _ => rfl

end Calls

/-! ## The log -/

/-- Whether a purchase of a position or a bid for one is made in the name of the caller. -/
def Action.isForItself {D : Deployment} : Action D → Bool
  | .call sender _ (.buy _ _ onBehalfOf _) => onBehalfOf = sender
  | .call sender _ (.bid _ _ _ onBehalfOf) => onBehalfOf = sender
  | _ => true

def forItself {D : Deployment} (_ : State) (a : Action D) : Prop := a.isForItself = true

/-- What an action borrows from reserve `r` in the name of `v`, another account than the borrowing
`i`. -/
def Action.borrowedFor {D : Deployment} (r v i : Address) : Action D → ℕ
  | .call sender _ (.borrow asset amount _ _ onBehalfOf) =>
      if r = asset ∧ v = onBehalfOf ∧ i = sender ∧ i ≠ v then amount else 0
  | _ => 0

/-- The allowance an action gives to `i`, to borrow from reserve `r` in the name of `v`. -/
def Action.approvedBy {D : Deployment} (r v i : Address) : Action D → ℕ
  | .call sender _ (.approveDelegation asset delegatee amount) =>
      if r = asset ∧ v = sender ∧ i = delegatee then amount else 0
  | _ => 0

section Log

variable {D : Deployment} {allowed : State → Action D → Prop} {s₀ s s' : State}
  {log : List (Entry State (Action D))} {r v i : Address}

/-- **Step lemma.** Borrowing in the name of another is paid from the allowance, and only an
approval raises it. -/
theorem execute_borrowAllowance (h : Books D s) {a : Action D} (ha : s.execute D a = .ok s') :
    (s'.debtTokens r).borrowAllowance v i + a.borrowedFor r v i
      ≤ (s.debtTokens r).borrowAllowance v i + a.approvedBy r v i := by
  cases a with
  | configure setting =>
    rw [(((configure_framed setting).ok ha).debtTokens r).2.2]
    exact Nat.le_refl _
  | event e =>
    obtain rfl := Except.ok.inj ha
    rw [happen_debtTokens]
    exact Nat.le_refl _
  | call sender outside c =>
    have hturned := (perform_debtTurned h c).ok ha
    generalize hT : s'.debtTokens = T at hturned
    -- what does not borrow takes nothing off
    have hzero : c.borrows = false → (Action.call sender outside c).borrowedFor r v i = 0 := by
      intro hc
      cases c with
      | borrow => exact absurd hc (Bool.noConfusion ·)
      | _ => rfl
    cases hturned with
    | kept hc =>
      rw [hzero hc]
      exact Nat.le_add_right _ _
    | burnt hc hburnt =>
      rw [hzero hc, hburnt.borrowAllowance r]
      exact Nat.le_add_right _ _
    | transferred _ hc hburnt hminted =>
      -- a position is minted for the account that initiates the minting
      rw [hzero hc, hminted.borrowAllowance_self r, hburnt.borrowAllowance r]
      exact Nat.le_add_right _ _
    | borrowed hminted =>
      have heq := hminted.borrowAllowance r v i
      rw [← heq]
      exact Nat.le_add_right _ _
    | @delegated asset delegatee amount =>
      rw [hzero rfl, Nat.add_zero]
      rw [State.approveDelegation_borrowAllowance]
      unfold Action.approvedBy
      dsimp only
      split
      · exact Nat.le_add_left _ _
      · exact Nat.le_add_right _ _

/-- **Run lemma.** What has been borrowed in the name of an account by another never exceeds what
it had approved. -/
theorem borrowed_le_approved (g : Genesis D s₀) (h : History (Taken D allowed) s₀ log s)
    (r v i : Address) : (s.debtTokens r).borrowAllowance v i + total (fun e =>
      e.action.borrowedFor r v i) log
      ≤ (s₀.debtTokens r).borrowAllowance v i + total (fun e => e.action.approvedBy r v i) log := by
  refine h.account_le (f := fun s => (s.debtTokens r).borrowAllowance v i)
    fun log s a s' hlog hst => ?_
  exact execute_borrowAllowance (Reachable.books (Reachable.ofHistory g hlog)) hst.2

/-- `v` itself made the bid that stands on the listing under an identifier. -/
def OwnBid (log : List (Entry State (Action D))) (v : Address) (id price : ℕ) : Prop :=
  ∃ e ∈ log, ∃ outside nftAsset tokenId,
    e.action = .call v outside (.bid nftAsset tokenId price v) ∧
    e.before.debtMarket.getDebtId nftAsset tokenId = id

/-- Every bid that stands on an open listing has been made by its bidder. -/
def BidsOwned (log : List (Entry State (Action D))) (s : State) : Prop :=
  ∀ id, (s.debtMarket.marketListings id).isOpen →
    (s.debtMarket.marketListings id).bidderAddress ≠ 0 →
    OwnBid log (s.debtMarket.marketListings id).bidderAddress id
      (s.debtMarket.marketListings id).bidPrice

theorem OwnBid.later {e : Entry State (Action D)} {id price : ℕ} (h : OwnBid log v id price) :
    OwnBid (e :: log) v id price := by
  obtain ⟨e', he', hbid⟩ := h
  exact ⟨e', List.mem_cons_of_mem e he', hbid⟩

/-- **Step lemma.** -/
theorem BidsOwned.step (hb : Books D s) (h : BidsOwned log s) {a : Action D}
    (hst : Taken D forItself s a s') : BidsOwned (⟨s, a, s'⟩ :: log) s' := by
  intro id hopen hbid
  have keep : s'.debtMarket.marketListings = s.debtMarket.marketListings →
      OwnBid (⟨s, a, s'⟩ :: log) (s'.debtMarket.marketListings id).bidderAddress id
        (s'.debtMarket.marketListings id).bidPrice := by
    intro hsame
    rw [hsame] at hopen hbid ⊢
    exact (h id hopen hbid).later
  have idle : Administered D s s' →
      s'.debtMarket.marketListings = s.debtMarket.marketListings := fun hadmin => by
    cases hadmin.listings.move with
    | idle he => exact congrArg Registry.records he
  obtain ⟨hitself, ha⟩ := hst
  cases a with
  | configure setting => exact keep (idle ((configure_spec hb setting).ok ha))
  | event e =>
    obtain rfl := Except.ok.inj ha
    exact keep (idle (happen_administered hb e))
  | call sender outside c =>
    rcases (perform_listings hb c).ok ha id hopen with hsame | hzero | ⟨nftAsset, tokenId, rfl, hid⟩
    · rw [hsame] at hopen hbid ⊢
      exact (h id hopen hbid).later
    · exact absurd hzero hbid
    · -- the bid just made, in the name of the account that made it
      generalize (s'.debtMarket.marketListings id).bidderAddress = bidder at hitself ⊢
      obtain rfl : bidder = sender := of_decide_eq_true hitself
      exact ⟨_, List.mem_cons_self, outside, nftAsset, tokenId, rfl, hid⟩

/-- **Run lemma.** -/
theorem bids_owned (g : Genesis D s₀) (h : History (Taken D forItself) s₀ log s) :
    BidsOwned log s := by
  refine h.invariant (P := BidsOwned) (fun id _ hbid => ?_) fun log s a s' hlog ih hst => ?_
  · rw [g.listings] at hbid
    exact absurd rfl hbid
  · exact ih.step (Reachable.books (Reachable.ofHistory g hlog)) hst

/-- `v` consented to debt to reserve `r` that a call of `sender` puts on it: it is the caller, or
it made the bid whose position is claimed, or what the caller has borrowed in its name, this time
included, is within what it has approved. -/
def Consented (s₀ : State) (log : List (Entry State (Action D))) (s : State) (sender r v : Address)
    (c : Call D) : Prop :=
  v = sender ∨
  (∃ nftAsset tokenId, c = .claim nftAsset tokenId v ∧
    OwnBid log v (s.debtMarket.getDebtId nftAsset tokenId)
      (s.listingOn nftAsset tokenId).bidPrice) ∨
  ∃ amount nftAsset nftTokenId, c = .borrow r amount nftAsset nftTokenId v ∧
    total (fun e => e.action.borrowedFor r v sender) log + amount
      ≤ (s₀.debtTokens r).borrowAllowance v sender + total (fun e =>
        e.action.approvedBy r v sender) log

/-- **No debt without consent.** In runs in which everyone who buys a position, or bids for one,
does so for itself, debt is put on an account by calls alone, and only with its consent. -/
theorem no_debt_without_consent (g : Genesis D s₀) (h : History (Taken D forItself) s₀ log s)
    {a : Action D} (hst : Taken D forItself s a s') (hc : Charged r v s.debtTokens s'.debtTokens) :
    ∃ sender outside c, a = .call sender outside c ∧ Consented s₀ log s sender r v c := by
  have hb : Books D s := Reachable.books (Reachable.ofHistory g h)
  obtain ⟨hitself, ha⟩ := hst
  cases a with
  | configure setting =>
    unfold Charged at hc
    rw [(((configure_framed setting).ok ha).debtTokens r).1] at hc
    exact absurd hc (lt_irrefl _)
  | event e =>
    obtain rfl := Except.ok.inj ha
    unfold Charged at hc
    rw [happen_debtTokens] at hc
    exact absurd hc (lt_irrefl _)
  | call sender outside c =>
    refine ⟨sender, outside, c, rfl, ?_⟩
    have hturned := (perform_debtTurned hb c).ok ha
    generalize s'.debtTokens = T at hturned hc
    cases hturned with
    | kept => exact absurd hc (lt_irrefl _)
    | burnt _ hburnt => exact absurd hc (hburnt.not_charged r v)
    | delegated =>
      unfold Charged at hc
      rw [State.approveDelegation_scaledBalanceOf] at hc
      exact absurd hc (lt_irrefl _)
    | @borrowed asset nftAsset onBehalfOf amount nftTokenId index _ hminted =>
      obtain ⟨rfl, rfl, -⟩ := hminted.charged hc
      by_cases hself : v = sender
      · exact .inl hself
      · -- the minting takes its amount off the allowance, which had that much
        have hleft := hminted.borrowAllowance r v sender
        rw [if_pos ⟨rfl, rfl, rfl, Ne.symm hself⟩] at hleft
        have hlog := borrowed_le_approved g h r v sender
        exact .inr (.inr ⟨amount, nftAsset, nftTokenId, rfl, by omega⟩)
    | @transferred _ reserve seller onBehalfOf amount index T₁ _ hcharges _ hburnt hminted =>
      have hcharged : Charged r v T₁ T := by
        have hle := hburnt.not_charged r v
        unfold Charged at hc hle ⊢
        omega
      obtain ⟨-, rfl, hv⟩ := hminted.charged hcharged
      cases c with
      | buy nftAsset tokenId onBehalfOf amount =>
        obtain rfl := Option.some.inj hcharges
        exact .inl (of_decide_eq_true hitself)
      | bid nftAsset tokenId bidPrice onBehalfOf =>
        obtain rfl := Option.some.inj hcharges
        exact .inl (of_decide_eq_true hitself)
      | claim nftAsset tokenId onBehalfOf =>
        obtain rfl := Option.some.inj hcharges
        obtain ⟨hid, hwon, -⟩ := State.claim_account.ok ha
        refine .inr (.inl ⟨nftAsset, tokenId, rfl, ?_⟩)
        have hown := bids_owned g h (s.debtMarket.getDebtId nftAsset tokenId)
          (hb.listings.held hid).2.1
        rw [hwon] at hv ⊢
        exact hown hv
      | _ => cases hcharges

/-- The state in which the debt of user 100 is listed, and nobody has bid. -/
def State.sampleListed : State :=
  (State.sample .weth9).after .sample (sampleSetup 1000 ++ sampleListing)

/-- In the small deployment user 102 buys the position for itself. -/
theorem no_debt_without_consent_sample : ∃ s₀ log sender outside c,
    Action.call (D := .sample) 102 (by decide) (.buy 40 7 102 (5 * WAD)) = .call sender outside c ∧
    Consented s₀ log .sampleListed sender 10 102 c := by
  have hall : ∀ a ∈ sampleSetup 1000 ++ sampleListing, a.isForItself = true := by decide
  obtain ⟨log, hlog, -⟩ : ∃ log, History (Taken .sample forItself) (State.sample .weth9) log
      .sampleListed ∧ _ := State.after_history (fun a ha _ => hall a ha) (by decide +kernel)
  have hst : Taken .sample forItself State.sampleListed
      (.call 102 (by decide) (.buy 40 7 102 (5 * WAD)))
      (State.sampleListed.after .sample [.call 102 (by decide) (.buy 40 7 102 (5 * WAD))]) :=
    ⟨rfl, State.execute_after (by decide +kernel)⟩
  exact ⟨_, log, no_debt_without_consent (State.sample_genesis .weth9) hlog hst
    (by unfold Charged; decide +kernel)⟩

/-- **Debt without consent.** User 102 buys the position in the name of user 101, who has not
approved it to borrow anything and does nothing itself, and owes the debt from then on. -/
theorem debt_without_consent : ∃ s₀ log s s' outside, Genesis .sample s₀ ∧
    History (Taken .sample (anyAction .sample)) s₀ log s ∧
    s.execute .sample (.call 102 outside (.buy 40 7 101 (5 * WAD))) = .ok s' ∧
    Charged 10 101 s.debtTokens s'.debtTokens ∧
    (s₀.debtTokens 10).borrowAllowance 101 102 = 0 ∧
    total (fun e => e.action.approvedBy 10 101 102) log = 0 := by
  obtain ⟨log, hlog, hactions⟩ : ∃ log, History (Taken .sample (anyAction .sample))
      (State.sample .weth9) log .sampleListed ∧ _ :=
    State.after_history (fun _ _ _ => trivial) (by decide +kernel)
  refine ⟨State.sample .weth9, log, State.sampleListed, _, by decide, State.sample_genesis .weth9,
    hlog, State.execute_after (by decide +kernel), ?_, rfl, ?_⟩
  · unfold Charged
    decide +kernel
  · unfold total
    have hmap : log.map (fun e => e.action.approvedBy 10 101 102)
        = (log.map Entry.action).map (Action.approvedBy 10 101 102) := by
      rw [List.map_map]
      rfl
    rw [hmap, hactions]
    rfl

end Log

end Unlockd
