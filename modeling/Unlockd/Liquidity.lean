/-
Where the money of a reserve is, and where it is looked for.

A deposit leaves its money in the vault if the asset is WETH, and with the uToken otherwise.
Everything that asks what a reserve has left to give, asks `getAvailableLiquidity`, and that
counts shares of the vault. The two agree on the WETH reserve: what is deposited there can be
withdrawn, and a borrow pays what it mints. Of any other reserve nothing is ever reported, so
that its deposits are not to be withdrawn and nothing is lent.
-/
import Unlockd.Lending
import Unlockd.Interest

set_option autoImplicit false

namespace Unlockd

open Outcome Machine Transfers LendPoolLoan

/-! ## Proxies -/

section Proxies

variable {D : Deployment} {s s' : State}

/-- The proxy of a new reserve is newly deployed: it belongs to no reserve, and has no shares. -/
def deploysProxies (s : State) : Action D → Prop
  | .configure (.initReserve _ uToken _ _ _ _) =>
      (∀ r, (s.lendPool.reserves r).uTokenAddress ≠ uToken) ∧ s.yVault.shares uToken = 0
  | _ => True

/-- A setting names the uToken of a reserve only where it sets the reserve up. -/
def Named (setting : Setting D) (s s' : State) : Prop :=
  ∀ r, (s'.lendPool.reserves r).uTokenAddress = (s.lendPool.reserves r).uTokenAddress ∨
    ∃ uToken treasury interestRate decimals proxy,
      setting = .initReserve r uToken treasury interestRate decimals proxy ∧
      (s'.lendPool.reserves r).uTokenAddress = uToken

theorem Named.ofEq {setting : Setting D} (h : s'.lendPool.reserves = s.lendPool.reserves) :
    Named setting s s' := by
  intro r
  rw [h]
  exact .inl rfl

theorem Named.ofSetReserve {setting : Setting D} {asset : Address} {R : ReserveData}
    (h : R.uTokenAddress = (s.lendPool.reserves asset).uTokenAddress) :
    Named setting s (s.setReserve asset R) := by
  intro r
  refine .inl ?_
  by_cases hr : r = asset
  · subst hr
    simp only [State.setReserve, Function.update_self]
    exact h
  · simp only [State.setReserve, Function.update_of_ne hr]

theorem configure_named (setting : Setting D) :
    Returns (s.configure D setting) (Named setting s) := by
  cases setting with
  | initReserve asset uToken treasury interestRate decimals proxy =>
    refine Returns.check fun _ => Returns.step fun reserve hreserve => Returns.step fun _ _ => ?_
    have hu : reserve.uTokenAddress = uToken := by
      obtain ⟨-, h⟩ := require_bind_eq_ok.mp hreserve
      obtain rfl := Except.ok.inj h
      rfl
    intro r
    by_cases hr : r = asset
    · subst hr
      refine .inr ⟨uToken, treasury, interestRate, decimals, proxy, rfl, ?_⟩
      simp only [State.setReserve, Function.update_self]
      exact hu
    · refine .inl ?_
      simp only [State.setReserve, Function.update_of_ne hr]
      rfl
  | setActiveFlagOnReserve asset flag =>
    refine Sat.ite (fun _ => Returns.step fun _ _ => ?_) fun _ => ?_
    · exact Returns.step fun _ _ => .ofSetReserve rfl
    · exact Returns.step fun _ _ => .ofSetReserve rfl
  | setBorrowingFlagOnReserve => exact Returns.step fun _ _ => .ofSetReserve rfl
  | setFreezeFlagOnReserve => exact Returns.step fun _ _ => .ofSetReserve rfl
  | setReserveFactor => exact Returns.step fun _ _ => .ofSetReserve rfl
  | setReserveInterestRateAddress => exact Returns.check fun _ => .ofSetReserve rfl
  | initNft asset uNft proxy =>
    exact Returns.check fun _ => Returns.check fun _ => .ofEq rfl
  | setPoolPause val =>
    change Named _ s (s.setPause val)
    unfold State.setPause
    split_ifs <;> exact .ofEq rfl
  | configInterestRate => exact Returns.step fun _ _ => .ofEq rfl
  | setTreasuryAddress => exact Returns.check fun _ => .ofEq rfl
  | updateSafeHealthFactor => exact Returns.check fun _ => .ofEq rfl
  | updateUTokenManagers => exact Returns.check fun _ => .ofEq rfl
  | updateTokenManagers => exact Returns.check fun _ => .ofEq rfl
  | updateMarketAdapters => exact Returns.check fun _ => .ofEq rfl
  | updateLiquidators => exact Returns.check fun _ => .ofEq rfl
  | updateModules => exact Returns.check fun _ => .ofEq rfl
  | setDeltaBidPercent => exact Returns.check fun _ => .ofEq rfl
  | setAuthorizedAddress => exact Returns.check fun _ => .ofEq rfl
  | _ => exact .ofEq rfl

/-- The uTokens of reserves are different, and but for that of WETH they have no shares. -/
structure Proxied (D : Deployment) (s : State) : Prop where
  distinct : ∀ r r', (s.lendPool.reserves r).uTokenAddress ≠ 0 →
    (s.lendPool.reserves r).uTokenAddress = (s.lendPool.reserves r').uTokenAddress → r = r'
  shares : ∀ r, r ≠ D.weth → (s.lendPool.reserves r).uTokenAddress ≠ 0 →
    s.yVault.shares (s.lendPool.reserves r).uTokenAddress = 0

/-- **Step lemma.** -/
theorem Proxied.step (hb : Books D s) (h : Proxied D s) {a : Action D}
    (hst : Taken D deploysProxies s a s') : Proxied D s' := by
  obtain ⟨hallowed, ha⟩ := hst
  cases a with
  | call sender outside c =>
    obtain ⟨_, _, _, _, heffect, -⟩ := (perform_spec hb outside c).ok ha
    have hu : ∀ r, (s'.lendPool.reserves r).uTokenAddress
        = (s.lendPool.reserves r).uTokenAddress := fun r => (heffect.reserves r).grown.uTokenAddress
    refine ⟨fun r r' hr heq => ?_, fun r hne hr => ?_⟩
    · rw [hu] at hr
      rw [hu, hu] at heq
      exact h.distinct r r' hr heq
    · -- the only shares that move are those of the uToken of WETH, which is another
      rw [hu] at hr ⊢
      have hframe := ((perform_vaultTurned hb c).ok ha).frame
      rw [hframe.2 _ fun heq => hne (h.distinct r D.weth hr heq)]
      exact h.shares r hne hr
  | event e =>
    obtain rfl := Except.ok.inj ha
    have hR : (s.happen e).lendPool = s.lendPool ∧
      (s.happen e).yVault.shares = s.yVault.shares := by
      cases e with
      | mintNft asset dst tokenId =>
        unfold State.happen
        dsimp only
        split <;> exact ⟨rfl, rfl⟩
      | _ => exact ⟨rfl, rfl⟩
    refine ⟨fun r r' hr heq => ?_, fun r hne hr => ?_⟩
    · rw [hR.1] at hr heq
      exact h.distinct r r' hr heq
    · rw [hR.1] at hr ⊢
      rw [hR.2]
      exact h.shares r hne hr
  | configure setting =>
    have hv := ((configure_framed setting).ok ha).yVault
    have hnamed := (configure_named setting).ok ha
    refine ⟨fun r r' hr heq => ?_, fun r hne hr => ?_⟩
    · rcases hnamed r with hu | ⟨uToken, _, _, _, _, rfl, hu⟩ <;>
      rcases hnamed r' with hu' | ⟨uToken', _, _, _, _, hset, hu'⟩
      · rw [hu] at hr
        rw [hu, hu'] at heq
        exact h.distinct r r' hr heq
      · subst hset
        rw [hu, hu'] at heq
        exact absurd heq (hallowed.1 r)
      · rw [hu, hu'] at heq
        exact absurd heq.symm (hallowed.1 r')
      · exact (Setting.initReserve.inj hset).1
    · rw [hv]
      rcases hnamed r with hu | ⟨uToken, _, _, _, _, rfl, hu⟩
      · rw [hu] at hr ⊢
        exact h.shares r hne hr
      · rw [hu]
        exact hallowed.2

/-- **Run lemma.** -/
theorem Reachable.proxied (hr : Reachable D deploysProxies s) : Proxied D s := by
  refine Machine.Reachable.invariant (P := Proxied D) (fun t g => ?_)
    (fun t t' ht ih hst => ?_) hr
  · refine ⟨fun r _ hr => ?_, fun r _ hr => ?_⟩
    · rw [g.reserves] at hr
      exact absurd rfl hr
    · rw [g.reserves] at hr
      exact absurd rfl hr
  · obtain ⟨a, ha⟩ := hst
    exact ih.step (Reachable.books ht) ha

end Proxies

/-! ## Reported and in place -/

section Reported

variable {D : Deployment} {s s' : State} {asset : Address}

/-- The funds `executeDepositYearn` has put in place for a reserve: what its shares are worth if the
asset is WETH, which the vault takes, and otherwise what the uToken holds of it. -/
def State.inPlace (D : Deployment) (s : State) (r : Address) : ℕ :=
  if r = D.weth then
    FixedPoint.divHalfUp
      (s.yVault.shares (s.lendPool.reserves r).uTokenAddress * s.yVault.pricePerShare) WAD
  else (s.erc20 r).balanceOf (s.lendPool.reserves r).uTokenAddress

/-- Of any other reserve than that of WETH nothing is reported. -/
theorem Proxied.availableLiquidity (h : Proxied D s) (hne : asset ≠ D.weth)
    (hinit : (s.lendPool.reserves asset).uTokenAddress ≠ 0) :
    s.availableLiquidity (s.lendPool.reserves asset).uTokenAddress = 0 := by
  unfold State.availableLiquidity
  rw [h.shares asset hne hinit, Nat.zero_mul, FixedPoint.divHalfUp_zero]

/-- **What is reported is what is in place** just where the asset is WETH or there is nothing. -/
theorem Proxied.reports_iff (h : Proxied D s)
    (hinit : (s.lendPool.reserves asset).uTokenAddress ≠ 0) :
    s.availableLiquidity (s.lendPool.reserves asset).uTokenAddress = s.inPlace D asset ↔
      asset = D.weth ∨ (s.erc20 asset).balanceOf (s.lendPool.reserves asset).uTokenAddress = 0 := by
  unfold State.inPlace
  by_cases hw : asset = D.weth
  · rw [if_pos hw]
    exact ⟨fun _ => .inl hw, fun _ => rfl⟩
  · rw [if_neg hw, h.availableLiquidity hw hinit]
    constructor
    · intro hz
      exact .inr hz.symm
    · rintro (heq | hz)
      · exact absurd heq hw
      · exact hz.symm

/-! ## What is taken out is reported -/

/-- What is withdrawn is something, and no more than is reported. -/
theorem State.executeWithdraw_available {initiator receiver : Address} {amount : ℕ} :
    Returns (s.executeWithdraw D initiator asset amount receiver) (fun p =>
      0 < p.2 ∧ p.2 ≤ s.availableLiquidity (s.lendPool.reserves asset).uTokenAddress) := by
  refine Returns.check fun _ => Returns.check fun _ => Returns.step fun b _ => ?_
  generalize (if amount = maxUint256 then b else amount) = n
  refine Sat.bind (P := fun _ => 0 < n ∧
    n ≤ s.availableLiquidity (s.lendPool.reserves asset).uTokenAddress) ?_ fun _ hn => ?_
  · refine Returns.check fun h0 => Returns.check fun _ => Returns.check fun _ => ?_
    refine Returns.step fun l hl => (Sat.require fun _ => trivial).imp fun _ hle => ?_
    rw [State.getAvailableLiquidity_eq hl] at hle
    exact ⟨Nat.pos_of_ne_zero h0, hle⟩
  refine Returns.step fun _ _ => Returns.step fun _ _ => Returns.step fun p _ => ?_
  exact Returns.step fun _ _ => hn

/-- The same of what is borrowed. -/
theorem State._borrow_available {initiator nftAsset onBehalfOf : Address} {amount nftTokenId : ℕ} :
    Returns (s._borrow D initiator asset amount nftAsset nftTokenId onBehalfOf) (fun _ =>
      0 < amount ∧ amount ≤ s.availableLiquidity (s.lendPool.reserves asset).uTokenAddress) := by
  refine Returns.check fun _ => Sat.bind updateState_spec.returns fun s₁ h₁ => ?_
  obtain ⟨Rs, U, rfl, hupd⟩ := h₁
  refine Sat.bind validateBorrow_spec.returns fun _ hv => ?_
  have hu : (((s.withReserves Rs).withUTokens U).lendPool.reserves asset).uTokenAddress
    = (s.lendPool.reserves asset).uTokenAddress := hupd.uTokenAddress
  refine Returns.step fun l hl => Returns.check fun hle => ?_
  rw [hu] at hl
  have hn : 0 < amount ∧
      amount ≤ s.availableLiquidity (s.lendPool.reserves asset).uTokenAddress := by
    rw [State.getAvailableLiquidity_eq hl] at hle
    exact ⟨hv.2.1, hle⟩
  refine Returns.step fun _ _ => Returns.step fun _ _ => Returns.step fun _ _ => ?_
  refine Returns.step fun p _ => ?_
  exact (Sat.returned _).imp fun _ _ => hn

/-- **Nothing comes out** of a reserve of another asset than WETH: no withdrawal and no borrow goes
through. -/
theorem Proxied.closed (h : Proxied D s) (hne : asset ≠ D.weth)
    (hinit : (s.lendPool.reserves asset).uTokenAddress ≠ 0) (sender : Address) (amount : ℕ) :
    (∀ receiver s', s.perform D sender (.withdraw asset amount receiver) ≠ .ok s') ∧
    ∀ nftAsset nftTokenId onBehalfOf s',
      s.perform D sender (.borrow asset amount nftAsset nftTokenId onBehalfOf) ≠ .ok s' := by
  have hnone := h.availableLiquidity hne hinit
  constructor
  · intro receiver s' hok
    obtain ⟨-, hok⟩ := require_bind_eq_ok.mp hok
    obtain ⟨n, hpos, hle⟩ := (State.fst_spec (Q := fun _ => ∃ n, 0 < n ∧
      n ≤ s.availableLiquidity (s.lendPool.reserves asset).uTokenAddress)
      (State.executeWithdraw_available.imp fun p hp => ⟨p.2, hp⟩)).ok hok
    omega
  · intro nftAsset nftTokenId onBehalfOf s' hok
    obtain ⟨-, hok⟩ := require_bind_eq_ok.mp hok
    obtain ⟨hpos, hle⟩ := State._borrow_available.ok hok
    omega

/-! ## What a borrow pays -/

/-- The vault pays out what it is asked for. -/
def State.PaysOut (D : Deployment) (s : State) (amount : ℕ) : Prop :=
  ∀ shares, wadDiv amount s.yVault.pricePerShare = .ok shares →
    D.valueOf s.yVault shares = amount

/-- **A borrow of WETH pays what it mints.** The vault pays the uToken, and the uToken the caller,
the amount for which debt is minted; besides them only the bid on a listing goes back. -/
theorem borrow_pays {sender nftAsset onBehalfOf : Address} {amount nftTokenId : ℕ}
    (hout : s.PaysOut D amount) :
    Returns (s.perform D sender (.borrow D.weth amount nftAsset nftTokenId onBehalfOf)) (fun s' =>
      (∃ index, Minted D.lendPool D.weth sender onBehalfOf amount index s.debtTokens
        s'.debtTokens) ∧
      Posted ((if s.lendPoolLoan.getCollateralLoanId nftAsset nftTokenId = 0 then []
          else s.listingRefund D nftAsset nftTokenId) ++
        [⟨D.weth, D.yVaultWETH, (s.lendPool.reserves D.weth).uTokenAddress, amount⟩,
          ⟨D.weth, (s.lendPool.reserves D.weth).uTokenAddress, sender, amount⟩])
        s.erc20 s'.erc20) := by
  refine Returns.check fun _ => State._borrow_account.imp fun s' hs' => ?_
  obtain ⟨Rs, L, T, shares, value, ha, -, -, hminted, hdrawn⟩ := hs'
  obtain ⟨hn, -, hvalue⟩ := hdrawn.weth rfl
  rw [hout _ hn] at hvalue
  subst hvalue
  have hposted := ha.payments
  rw [State.outOfVault, onlyIf_of rfl] at hposted
  rw [ha.debts]
  exact ⟨⟨_, hminted⟩, hposted⟩

end Reported

/-! ## A deposit can be withdrawn

A deposit into a reserve that has lent nothing leaves everything a withdrawal asks for: a liquidity
rate of zero, so that no interest accrues, rates that do not depend on the liquidity, and the money
in the vault. -/

namespace Erc20

variable {e e' : Erc20} {caller src dst : Address} {amount : ℕ}

theorem le_balance_move : amount ≤ (e.move src dst amount).balanceOf dst := by
  unfold move
  simp only [Function.update_self]
  exact Nat.le_add_left _ _

/-- What has been received is there. -/
theorem transferFrom_received (h : e.transferFrom caller src dst amount = .ok e') :
    e'.kind = e.kind ∧ (e.kind = .openZeppelin → src ≠ 0 ∧ dst ≠ 0) ∧
      amount ≤ e'.balanceOf dst := by
  obtain ⟨e₁, h₁, h⟩ := bind_eq_ok.mp h
  obtain ⟨hz, h₁⟩ := require_bind_eq_ok.mp h₁
  obtain ⟨-, h₁⟩ := require_bind_eq_ok.mp h₁
  obtain rfl := Except.ok.inj h₁
  have hmoved : amount ≤ (e.move src dst amount).balanceOf dst := le_balance_move
  unfold spendAllowance at h
  dsimp only at h
  split at h
  · obtain rfl := Except.ok.inj h
    exact ⟨rfl, hz, hmoved⟩
  · obtain ⟨-, h⟩ := require_bind_eq_ok.mp h
    obtain rfl := Except.ok.inj h
    exact ⟨rfl, hz, hmoved⟩

/-- A transfer that is covered goes through. -/
theorem transfer_of_le (hz : e.kind = .openZeppelin → caller ≠ 0 ∧ dst ≠ 0)
    (h : amount ≤ e.balanceOf caller) : e.transfer caller dst amount = .ok
    (e.move caller dst amount) := by
  unfold transfer _transfer
  rw [require_of hz, ok_bind, require_of h, ok_bind]
  rfl

end Erc20

namespace InterestRate

variable {ir : InterestRate} {available reserveFactor : ℕ} {rates : ℕ × ℕ}

/-- Without debt the liquidity does not matter. -/
theorem calculateInterestRates_noDebt (available' : ℕ) :
    ir.calculateInterestRates available 0 reserveFactor
      = ir.calculateInterestRates available' 0 reserveFactor := rfl

/-- Nobody pays interest, so nobody earns any. -/
theorem liquidityRate_noDebt (h : ir.calculateInterestRates available 0 reserveFactor = .ok rates) :
    rates.1 = 0 := by
  obtain ⟨u, hu, h⟩ := bind_eq_ok.mp h
  obtain ⟨r, hr, h⟩ := bind_eq_ok.mp h
  obtain ⟨o, ho, h⟩ := bind_eq_ok.mp h
  obtain rfl : 0 = o := Except.ok.inj ho
  obtain ⟨g, hg, h⟩ := bind_eq_ok.mp h
  obtain rfl : 0 = g := Except.ok.inj hg
  obtain ⟨share, hshare, h⟩ := bind_eq_ok.mp h
  obtain ⟨l, hl, h⟩ := bind_eq_ok.mp h
  obtain rfl : 0 = l := Except.ok.inj hl
  obtain rfl := Except.ok.inj h
  rfl

end InterestRate

/-- A smaller numerator overflows no sooner. -/
theorem unitDiv_of_le {u a a' b c : ℕ} (h : unitDiv u a b = .ok c) (hle : a' ≤ a) :
    ∃ c', unitDiv u a' b = .ok c' := by
  obtain ⟨hb, h⟩ := require_bind_eq_ok.mp h
  obtain ⟨hfits, -⟩ := require_bind_eq_ok.mp h
  unfold unitDiv
  rw [require_of hb, ok_bind, require_of (hle.trans hfits), ok_bind]
  exact ⟨_, rfl⟩

namespace State

variable {D : Deployment} {s s' : State} {asset holder receiver : Address} {amount : ℕ}

/-- A reserve that is current, earns nothing and has lent nothing is up to date. -/
theorem updateState_idle (hrate : (s.lendPool.reserves asset).currentLiquidityRate = 0)
    (hstamp : (s.lendPool.reserves asset).lastUpdateTimestamp = uint40 s.blockTimestamp)
    (hdebt : (s.debtTokens asset).scaledTotalSupply = 0) : s.updateState asset = .ok s := by
  apply updateState_unchanged
  · unfold ReserveData._updateIndexes applyIf
    rw [hrate, if_neg (Nat.lt_irrefl 0), ok_bind, ← hstamp]
    rfl
  · rw [hdebt]
    exact ReserveData.amountToMint_of_debt (unitMul_zero_left _ _)

/-- What a withdrawal of up to `amount` by `holder` will find after a deposit that bought the
reserve `bought` shares at `price`. -/
structure Withdrawable (D : Deployment) (s : State) (holder : Address) (amount price bought : ℕ) :
    Prop where
  holder_ne_zero : holder ≠ 0
  opened : (s.lendPool.reserves D.weth).uTokenAddress ≠ 0
  active : getActive (s.lendPool.reserves D.weth).configuration = true
  manager : (s.uTokens D.weth).uTokenManagers D.lendPool = true
  rate : (s.lendPool.reserves D.weth).currentLiquidityRate = 0
  stamp : (s.lendPool.reserves D.weth).lastUpdateTimestamp = uint40 s.blockTimestamp
  debt : (s.debtTokens D.weth).scaledTotalSupply = 0
  rates : ∀ available, (s.interestRates
    (s.lendPool.reserves D.weth).interestRateAddress).calculateInterestRates available 0
      (ReserveConfiguration.getReserveFactor (s.lendPool.reserves D.weth).configuration)
    = .ok (0, (s.lendPool.reserves D.weth).currentVariableBorrowRate)
  fits : (s.lendPool.reserves D.weth).currentVariableBorrowRate ≤ maxUint128
  kind : (s.erc20 D.weth).kind = .openZeppelin → D.yVaultWETH ≠ 0
  funds : amount ≤ (s.erc20 D.weth).balanceOf D.yVaultWETH
  price_eq : s.yVault.pricePerShare = price
  shares : bought ≤ s.yVault.shares (s.lendPool.reserves D.weth).uTokenAddress
  scaled : ∃ m, rayDiv amount (s.lendPool.reserves D.weth).liquidityIndex = .ok m ∧ m ≠ 0 ∧
    m ≤ (s.uTokens D.weth).scaledBalanceOf holder

/-- The rates a reserve without debt gets. -/
theorem Priced.noDebt {uToken : Address} {added taken : ℕ} {Rs : Address → ReserveData}
    (h : s.Priced asset uToken added taken Rs)
    (hdebt : (s.debtTokens asset).scaledTotalSupply = 0) :
    ∃ rate, Rs asset = { s.lendPool.reserves asset with
        currentLiquidityRate := 0, currentVariableBorrowRate := rate } ∧ rate ≤ maxUint128 ∧
      ∀ available, (s.interestRates
        (s.lendPool.reserves asset).interestRateAddress).calculateInterestRates available 0
          (ReserveConfiguration.getReserveFactor (s.lendPool.reserves asset).configuration)
        = .ok (0, rate) := by
  obtain ⟨-, rates, hrates, hR⟩ := h
  obtain ⟨d, hd, hrates⟩ := bind_eq_ok.mp hrates
  rw [hdebt] at hd
  obtain rfl : 0 = d := Except.ok.inj hd
  obtain ⟨l, -, hrates⟩ := bind_eq_ok.mp hrates
  obtain ⟨left, -, hrates⟩ := bind_eq_ok.mp hrates
  have hzero := InterestRate.liquidityRate_noDebt hrates
  have hstored := ReserveData.setRates_eq hR
  obtain ⟨-, hR⟩ := require_bind_eq_ok.mp hR
  obtain ⟨hfits, -⟩ := require_bind_eq_ok.mp hR
  refine ⟨rates.2, by rw [hstored, hzero], hfits, fun available => ?_⟩
  rw [InterestRate.calculateInterestRates_noDebt left, hrates, ← hzero]

/-- Minting uTokens: the scaled amount is something, and the account has it. -/
theorem mintUToken_received {user : Address} {index : ℕ} :
    Returns (s.mintUToken asset user amount index) (fun s' => ∃ U m, s' = s.withUTokens U ∧
      rayDiv amount index = .ok m ∧ m ≠ 0 ∧ m ≤ (U asset).scaledBalanceOf user) := by
  refine Returns.step fun u hu => ?_
  obtain ⟨m, hm, hu⟩ := bind_eq_ok.mp hu
  obtain ⟨hm0, hu⟩ := require_bind_eq_ok.mp hu
  obtain ⟨-, hu⟩ := require_bind_eq_ok.mp hu
  refine ⟨_, m, rfl, hm, hm0, ?_⟩
  rw [← Except.ok.inj hu]
  simp only [Function.update_self]
  exact Nat.le_add_left _ _

/-- A deposit into the vault leaves the amount there, and the shares with the uToken. -/
theorem depositReserves_received {caller uToken : Address} :
    Returns (s.depositReserves D caller D.weth uToken amount) (fun s' => ∃ E v,
      s' = (s.withErc20 E).withYVault v ∧ (s.uTokens D.weth).uTokenManagers caller = true ∧
      ((E D.weth).kind = .openZeppelin → D.yVaultWETH ≠ 0) ∧
      amount ≤ (E D.weth).balanceOf D.yVaultWETH ∧ v.pricePerShare = s.yVault.pricePerShare ∧
      D.sharesFor s.yVault amount ≤ v.shares uToken) := by
  refine Returns.check fun hmanager => Sat.applyIf (fun _ => ?_) fun hno => absurd rfl hno
  refine Returns.step fun e _ => Returns.step fun s₁ h₁ => ?_
  obtain ⟨e', he', h₁⟩ := bind_eq_ok.mp h₁
  obtain rfl := Except.ok.inj h₁
  obtain ⟨hkind, hz, hfunds⟩ := Erc20.transferFrom_received he'
  refine ⟨_, _, rfl, hmanager, ?_, ?_, rfl, ?_⟩
  · rw [Function.update_self, hkind]
    exact fun h => (hz h).2
  · rw [Function.update_self]
    exact hfunds
  · simp only [Function.update_self]
    exact Nat.le_add_left _ _

/-- **What a deposit leaves.** -/
theorem executeDeposit_withdrawable {initiator : Address}
    (hdebt : (s.debtTokens D.weth).scaledTotalSupply = 0) :
    Returns (s.executeDeposit D initiator D.weth amount holder)
      (fun s' => s'.lendPool.paused = s.lendPool.paused ∧
        s'.Withdrawable D holder amount s.yVault.pricePerShare (D.sharesFor s.yVault amount)) := by
  refine Returns.check fun hto => Returns.check fun hinit => ?_
  refine Sat.bind (P := fun _ =>
    getActive (s.lendPool.reserves D.weth).configuration = true) ?_ fun _ hactive => ?_
  · refine Returns.check fun _ => Returns.check fun hactive => ?_
    exact (Sat.require fun _ => trivial).imp fun _ _ => hactive
  refine Sat.bind updateState_spec.returns fun s₁ h₁ => ?_
  obtain ⟨Rs, U, rfl, hupd⟩ := h₁
  refine Sat.bind updateInterestRates_spec.returns fun s₂ h₂ => ?_
  obtain ⟨Rs', rfl, hpriced⟩ := h₂
  obtain ⟨rate, hR, hfits, hrates⟩ := hpriced.noDebt hdebt
  obtain ⟨i, j, hR₀, -, -⟩ := hupd.indices
  refine Sat.bind safeTransferFrom_posted fun s₃ h₃ => ?_
  obtain ⟨E, rfl, -⟩ := h₃
  refine Sat.bind mintUToken_received fun s₄ h₄ => ?_
  obtain ⟨U', m, rfl, hm⟩ := h₄
  refine depositReserves_received.imp fun s₅ h₅ => ?_
  obtain ⟨E', v, rfl, hmanager, hkind, hfunds, hprice, hshares⟩ := h₅
  -- the reserve at the end: brought up to date, with its new rates
  have hread : Rs' D.weth = { (s.lendPool.reserves D.weth).withIndices i j s.blockTimestamp with
      currentLiquidityRate := 0, currentVariableBorrowRate := rate } := by
    rw [hR]
    show ({ Rs D.weth with
      currentLiquidityRate := 0, currentVariableBorrowRate := rate } : ReserveData) = _
    rw [hR₀]
  have hrates' : ∀ available, (s.interestRates (Rs
    D.weth).interestRateAddress).calculateInterestRates
      available 0 (ReserveConfiguration.getReserveFactor (Rs D.weth).configuration)
      = .ok (0, rate) := hrates
  rw [hR₀] at hrates'
  have hu : (Rs' D.weth).uTokenAddress = (s.lendPool.reserves D.weth).uTokenAddress := by
    rw [hread]
    rfl
  refine ⟨rfl, hto, ?_, ?_, hmanager, ?_, ?_, hdebt, ?_, ?_, hkind, hfunds, hprice, ?_, m, hm⟩
  · show (Rs' D.weth).uTokenAddress ≠ 0
    rw [hu]
    exact hinit
  · show getActive (Rs' D.weth).configuration = true
    rw [hread]
    exact hactive
  · show (Rs' D.weth).currentLiquidityRate = 0
    rw [hread]
  · show (Rs' D.weth).lastUpdateTimestamp = uint40 s.blockTimestamp
    rw [hread]
    rfl
  · show ∀ available, (s.interestRates (Rs' D.weth).interestRateAddress).calculateInterestRates
      available 0 (ReserveConfiguration.getReserveFactor (Rs' D.weth).configuration)
      = .ok (0, (Rs' D.weth).currentVariableBorrowRate)
    rw [hread]
    exact hrates'
  · show (Rs' D.weth).currentVariableBorrowRate ≤ maxUint128
    rw [hread]
    exact hfits
  · show D.sharesFor s.yVault amount ≤ v.shares (Rs' D.weth).uTokenAddress
    rw [hu]
    exact hshares

/-! ### The withdrawal, step by step -/

/-- The vault gives back `n` for a deposit of `amount` at `price`: the shares it costs are bought by
the deposit, and those bought are worth it. -/
def Redeems (D : Deployment) (price amount n : ℕ) : Prop :=
  ∀ v : YVault, v.pricePerShare = price →
    ∃ shares, wadDiv n price = .ok shares ∧ shares ≤ D.sharesFor v amount ∧
      (∀ v' : YVault, v'.pricePerShare = price → D.valueOf v' shares = n) ∧
      n ≤ FixedPoint.divHalfUp (D.sharesFor v amount * price) WAD

/-- An exact vault does so at par. -/
theorem redeems_of_exact {D : Deployment} {amount n m : ℕ} (h : D.Exact) (hm : wadDiv n WAD = .ok m)
    (hle : n ≤ amount) : Redeems D WAD amount n := by
  intro v _
  refine ⟨n, ?_, ?_, fun v' _ => h.valueOf v' n, ?_⟩
  · rw [hm, wadDiv_wad hm]
  · rw [h.sharesFor]
    exact hle
  · rw [h.sharesFor, FixedPoint.divHalfUp_mul_self _ (by decide)]
    exact hle

section Withdrawal

variable {price bought n l : ℕ} (h : s.Withdrawable D holder amount price bought)

include h

theorem Withdrawable.setRates :
    (s.lendPool.reserves D.weth).setRates
        (0, (s.lendPool.reserves D.weth).currentVariableBorrowRate)
      = .ok (s.lendPool.reserves D.weth) := by
  have hrate := h.rate
  unfold ReserveData.setRates
  rw [require_of (Nat.zero_le _), ok_bind, require_of h.fits, ok_bind, ← hrate]
  rfl

/-- What the shares bought are worth is reported. -/
theorem Withdrawable.le_available
    (hl : s.getAvailableLiquidity (s.lendPool.reserves D.weth).uTokenAddress = .ok l)
    (hn : n ≤ FixedPoint.divHalfUp (bought * price) WAD) : n ≤ l := by
  rw [getAvailableLiquidity_eq hl]
  refine hn.trans (FixedPoint.divHalfUp_mono ?_ _)
  rw [h.price_eq]
  exact Nat.mul_le_mul_right _ h.shares

/-- The rates are those of a reserve without debt, and stay. -/
theorem Withdrawable.updateInterestRates
    (hl : s.getAvailableLiquidity (s.lendPool.reserves D.weth).uTokenAddress = .ok l)
    (hnl : n ≤ l) : s.updateInterestRates D.weth (s.lendPool.reserves D.weth).uTokenAddress 0 n
      = .ok s := by
  have hrates : s.ratesFor D.weth (s.lendPool.reserves D.weth).uTokenAddress 0 n
      = .ok (0, (s.lendPool.reserves D.weth).currentVariableBorrowRate) := by
    unfold ratesFor
    dsimp only
    rw [h.debt, hl]
    have hdebt : rayMul 0 (s.lendPool.reserves D.weth).variableBorrowIndex = .ok 0 := rfl
    have hleft : checkedSub (l + 0) n = .ok (l + 0 - n) := by
      unfold checkedSub
      rw [require_of (by omega), ok_bind]
      rfl
    rw [hdebt, ok_bind, ok_bind, hleft, ok_bind]
    exact h.rates _
  unfold State.updateInterestRates
  rw [hrates, ok_bind, h.setRates, ok_bind, setReserve_self]
  rfl

/-- The money comes out of the vault. -/
theorem Withdrawable.withdrawReserves {k : ℕ} (hk : wadDiv n price = .ok k) (hkb : k ≤ bought)
    (hv : ∀ v : YVault, v.pricePerShare = price → D.valueOf v k = n) (hn : n ≤ amount) :
    ∃ E v, s.withdrawReserves D D.lendPool D.weth (s.lendPool.reserves D.weth).uTokenAddress n
        = .ok ((s.withErc20 E).withYVault v, n) ∧
      n ≤ (E D.weth).balanceOf (s.lendPool.reserves D.weth).uTokenAddress ∧
      (E D.weth).kind = (s.erc20 D.weth).kind := by
  have hpaid : (s.erc20 D.weth).transfer D.yVaultWETH (s.lendPool.reserves D.weth).uTokenAddress n
      = .ok ((s.erc20 D.weth).move D.yVaultWETH (s.lendPool.reserves D.weth).uTokenAddress n) :=
    Erc20.transfer_of_le (fun hk => ⟨h.kind hk, h.opened⟩) (hn.trans h.funds)
  refine ⟨Function.update s.erc20 D.weth ((s.erc20 D.weth).move D.yVaultWETH
    (s.lendPool.reserves D.weth).uTokenAddress n),
    debited s.yVault (s.lendPool.reserves D.weth).uTokenAddress k, ?_, ?_, ?_⟩
  · unfold State.withdrawReserves vaultWithdraw safeTransfer
    rw [require_of h.manager, ok_bind, if_pos rfl, h.price_eq, hk, ok_bind,
      require_of (hkb.trans h.shares), ok_bind, hv _ h.price_eq]
    exact bind_eq_ok.mpr ⟨_, bind_eq_ok.mpr ⟨_, hpaid, rfl⟩, rfl⟩
  · rw [Function.update_self]
    exact Erc20.le_balance_move
  · rw [Function.update_self]
    rfl

/-- **What is ready to be withdrawn can be.** -/
theorem Withdrawable.withdraw {b k : ℕ} (hk : wadDiv n price = .ok k) (hkb : k ≤ bought)
    (hv : ∀ v : YVault, v.pricePerShare = price → D.valueOf v k = n)
    (hworth : n ≤ FixedPoint.divHalfUp (bought * price) WAD) (hn : n ≤ amount) (hn0 : 0 < n)
    (hmax : n ≠ maxUint256) (hb : s.uTokenBalanceOf D.weth holder = .ok b) (hnb : n ≤ b)
    (hl : s.getAvailableLiquidity (s.lendPool.reserves D.weth).uTokenAddress = .ok l)
    (hscaled : ∀ m, rayDiv n (s.lendPool.reserves D.weth).liquidityIndex = .ok m → m ≠ 0 ∧
      m ≤ (s.uTokens D.weth).scaledBalanceOf holder)
    (hto : receiver ≠ 0) :
    ∃ s', s.executeWithdraw D holder D.weth n receiver = .ok (s', n) := by
  have hnl := h.le_available hl hworth
  have hvalid : s.validateWithdraw D.weth (s.lendPool.reserves D.weth).uTokenAddress n b
      = .ok () := by
    unfold validateWithdraw
    rw [require_of (Nat.ne_of_gt hn0), ok_bind, require_of hnb, ok_bind, require_of h.active,
      ok_bind, hl, ok_bind, require_of hnl]
  obtain ⟨E, v, hdrawn, hfunds, hkind⟩ := h.withdrawReserves hk hkb hv hn
  -- the uTokens are burnt
  obtain ⟨m₀, hm₀, -⟩ := h.scaled
  obtain ⟨m, hm⟩ := unitDiv_of_le hm₀ hn
  obtain ⟨hm0, hmle⟩ := hscaled m hm
  obtain ⟨u, hu⟩ : ∃ u, (s.uTokens D.weth)._burn holder m = .ok u := by
    unfold UToken._burn
    rw [require_of h.holder_ne_zero, ok_bind, require_of hmle, ok_bind]
    exact ⟨_, rfl⟩
  -- and the receiver is paid
  have hpaid : (E D.weth).transfer (s.lendPool.reserves D.weth).uTokenAddress receiver n
      = .ok ((E D.weth).move (s.lendPool.reserves D.weth).uTokenAddress receiver n) :=
    Erc20.transfer_of_le (fun _ => ⟨h.opened, hto⟩) hfunds
  obtain ⟨s', hs'⟩ : ∃ s', ((s.withErc20 E).withYVault v).burnUToken D.weth
      (s.lendPool.reserves D.weth).uTokenAddress holder receiver n
      (s.lendPool.reserves D.weth).liquidityIndex = .ok s' := by
    unfold burnUToken safeTransfer
    rw [show rayDiv n _ = .ok m from hm, ok_bind, require_of hm0, ok_bind]
    refine ⟨_, bind_eq_ok.mpr ⟨u, hu, bind_eq_ok.mpr ⟨_, hpaid, rfl⟩⟩⟩
  refine ⟨s', ?_⟩
  unfold executeWithdraw
  dsimp only
  rw [require_of hto, ok_bind, require_of h.opened, ok_bind, hb, ok_bind, if_neg hmax, hvalid,
    ok_bind, updateState_idle h.rate h.stamp h.debt, ok_bind, h.updateInterestRates hl hnl, ok_bind,
    hdrawn, ok_bind]
  exact bind_eq_ok.mpr ⟨s', hs', rfl⟩

end Withdrawal

end State

section Reachable

variable {D : Deployment} {s s' : State} {sender holder receiver r : Address} {amount b l : ℕ}

/-- An up-to-date reserve reads its balances at the stored index. -/
theorem State.uTokenBalanceOf_current
    (hstamp : (s.lendPool.reserves r).lastUpdateTimestamp = uint40 s.blockTimestamp)
    (h : s.uTokenBalanceOf r holder = .ok b) :
    b = FixedPoint.divHalfUp
      ((s.uTokens r).scaledBalanceOf holder * (s.lendPool.reserves r).liquidityIndex) RAY := by
  unfold State.uTokenBalanceOf ReserveData.getNormalizedIncome at h
  rw [if_pos hstamp] at h
  exact rayMul_spec h

/-- What would overflow is no amount. -/
theorem ne_max_of_rayDiv {n i m : ℕ} (h : rayDiv n i = .ok m) : n ≠ maxUint256 := by
  obtain ⟨-, h⟩ := require_bind_eq_ok.mp h
  obtain ⟨hfits, -⟩ := require_bind_eq_ok.mp h
  have hlt : (maxUint256 - i / 2) / RAY < maxUint256 :=
    calc (maxUint256 - i / 2) / RAY ≤ maxUint256 / RAY := Nat.div_le_div_right (Nat.sub_le _ _)
      _ < maxUint256 := by decide
  omega

/-- **A deposit can be withdrawn.** After a deposit into the WETH reserve while nothing is borrowed,
its receiver can withdraw all of it that did not get lost to the rounding of its balance. -/
theorem deposit_withdrawn (h : Books D s) (hs : D.isUser sender)
    (hdebt : (s.debtTokens D.weth).scaledTotalSupply = 0)
    (hok : s.perform D sender (.deposit D.weth amount holder) = .ok s')
    (hb : s'.uTokenBalanceOf D.weth holder = .ok b)
    (hl : s'.getAvailableLiquidity (s'.lendPool.reserves D.weth).uTokenAddress = .ok l)
    (hredeems : State.Redeems D s.yVault.pricePerShare amount (min amount b))
    (hto : receiver ≠ 0) :
    ∃ s'', s'.perform D holder (.withdraw D.weth (min amount b) receiver) = .ok s'' ∧
      Posted [⟨D.weth, D.yVaultWETH, (s'.lendPool.reserves D.weth).uTokenAddress, min amount b⟩,
        ⟨D.weth, (s'.lendPool.reserves D.weth).uTokenAddress, receiver, min amount b⟩]
        s'.erc20 s''.erc20 := by
  obtain ⟨_, _, _, _, heffect, -⟩ := (perform_spec h hs _).ok hok
  obtain ⟨hopen, hok⟩ := require_bind_eq_ok.mp hok
  obtain ⟨hpaused, hready⟩ := (State.executeDeposit_withdrawable hdebt).ok hok
  have hindex := ((heffect.books h).indices D.weth hready.opened).1
  obtain ⟨k, hk, hkb, hv, hworth⟩ := hredeems s.yVault rfl
  -- the holder has the uTokens that the deposit minted, and so no less than `n` when unscaled
  obtain ⟨m₀, hm₀, hm₀0, hm₀le⟩ := hready.scaled
  have hbal := State.uTokenBalanceOf_current hready.stamp hb
  have hpos : 0 < b := by
    have hle := FixedPoint.le_divHalfUp_mul (by decide : 0 < RAY) hindex
      ((s'.uTokens D.weth).scaledBalanceOf holder)
    rw [Nat.mul_comm, ← hbal] at hle
    omega
  have hamount : amount ≠ 0 := by
    rintro rfl
    exact hm₀0 (by rw [(rayDiv_spec hm₀).2, Nat.zero_mul, FixedPoint.divHalfUp_zero])
  have hscaled : ∀ m, rayDiv (min amount b) (s'.lendPool.reserves D.weth).liquidityIndex = .ok m →
      m ≠ 0 ∧ m ≤ (s'.uTokens D.weth).scaledBalanceOf holder := by
    intro m hm
    have hball : FixedPoint.divHalfUp (b * RAY) (s'.lendPool.reserves D.weth).liquidityIndex
        = (s'.uTokens D.weth).scaledBalanceOf holder := by
      rw [hbal]
      exact FixedPoint.divHalfUp_scale_unscale _ (by decide) hindex
    rw [(rayDiv_spec hm).2]
    constructor
    · rcases Nat.le_total amount b with hle | hle
      · rw [Nat.min_eq_left hle, ← (rayDiv_spec hm₀).2]
        exact hm₀0
      · rw [Nat.min_eq_right hle, hball]
        omega
    · rw [← hball]
      exact FixedPoint.divHalfUp_mono (Nat.mul_le_mul_right _ (Nat.min_le_right _ _)) _
  obtain ⟨m, hm⟩ := unitDiv_of_le hm₀ (Nat.min_le_left amount b)
  obtain ⟨s'', hs''⟩ := hready.withdraw hk hkb hv hworth (Nat.min_le_left _ _)
    (by omega) (ne_max_of_rayDiv hm) hb (Nat.min_le_right _ _) hl hscaled hto
  obtain ⟨_, _, _, haccount, hdrawn⟩ := State.executeWithdraw_account.ok hs''
  refine ⟨s'', ?_, ?_⟩
  · show s'.whenNotPaused _ = _
    unfold State.whenNotPaused
    rw [require_of (hpaused.trans hopen), ok_bind, hs'']
    rfl
  · obtain ⟨hk', -, rfl⟩ := hdrawn.weth rfl
    rw [hready.price_eq, hk] at hk'
    obtain rfl := Except.ok.inj hk'
    have hposted := haccount.payments
    rw [State.outOfVault, onlyIf_of rfl, hv _ hready.price_eq] at hposted
    exact hposted

/-- **Reported liquidity is where the money is only for WETH.** Of an initialised reserve what is
reported is what is in place just where its asset is WETH or its uToken holds none of the asset.
From a reserve of another asset nothing can be withdrawn or borrowed. Of WETH a deposit can be
withdrawn, from a vault that gives back what was put in, and a borrow pays the caller what it mints,
from a vault that pays out what it is asked for. -/
theorem liquidity_is_reported (hr : Reachable D deploysProxies s)
    (hinit : (s.lendPool.reserves r).uTokenAddress ≠ 0) :
    (∀ l, s.getAvailableLiquidity (s.lendPool.reserves r).uTokenAddress = .ok l →
      (l = s.inPlace D r ↔
        r = D.weth ∨ (s.erc20 r).balanceOf (s.lendPool.reserves r).uTokenAddress = 0)) ∧
    (r ≠ D.weth → ∀ sender amount,
      (∀ receiver s', s.perform D sender (.withdraw r amount receiver) ≠ .ok s') ∧
      ∀ nftAsset nftTokenId onBehalfOf s',
        s.perform D sender (.borrow r amount nftAsset nftTokenId onBehalfOf) ≠ .ok s') ∧
    (r = D.weth → ∀ sender amount,
      (∀ holder receiver b l s', D.isUser sender → (s.debtTokens r).scaledTotalSupply = 0 →
        s.perform D sender (.deposit r amount holder) = .ok s' →
        s'.uTokenBalanceOf r holder = .ok b →
        s'.getAvailableLiquidity (s'.lendPool.reserves r).uTokenAddress = .ok l →
        State.Redeems D s.yVault.pricePerShare amount (min amount b) → receiver ≠ 0 →
        ∃ s'', s'.perform D holder (.withdraw r (min amount b) receiver) = .ok s'' ∧
          Posted [⟨r, D.yVaultWETH, (s'.lendPool.reserves r).uTokenAddress, min amount b⟩,
            ⟨r, (s'.lendPool.reserves r).uTokenAddress, receiver, min amount b⟩]
            s'.erc20 s''.erc20) ∧
      ∀ nftAsset nftTokenId onBehalfOf s', s.PaysOut D amount →
        s.perform D sender (.borrow r amount nftAsset nftTokenId onBehalfOf) = .ok s' →
        (∃ index, Minted D.lendPool r sender onBehalfOf amount index s.debtTokens
          s'.debtTokens) ∧
        Posted ((if s.lendPoolLoan.getCollateralLoanId nftAsset nftTokenId = 0 then []
            else s.listingRefund D nftAsset nftTokenId) ++
          [⟨r, D.yVaultWETH, (s.lendPool.reserves r).uTokenAddress, amount⟩,
            ⟨r, (s.lendPool.reserves r).uTokenAddress, sender, amount⟩])
          s.erc20 s'.erc20) := by
  have hp := hr.proxied
  refine ⟨fun l hl => ?_, fun hne sender amount => hp.closed hne hinit sender amount,
    fun hweth sender amount => ⟨?_, ?_⟩⟩
  · rw [State.getAvailableLiquidity_eq hl]
    exact hp.reports_iff hinit
  · subst hweth
    intro holder receiver b l s' hs hdebt hok hb hl hredeems hto
    exact deposit_withdrawn (Reachable.books hr) hs hdebt hok hb hl hredeems hto
  · subst hweth
    intro nftAsset nftTokenId onBehalfOf s' hout hok
    exact (borrow_pays hout).ok hok

/-- The WETH reserve. -/
def State.sampleWeth : State :=
  (State.sample .openZeppelin).after .sample [.configure (.initReserve 10 20 6 12 18 rfl)]

/-- Beside it the reserve of another token. -/
def State.sampleReserves : State :=
  (State.sampleWeth.after .sample [.configure (.initReserve 13 21 6 12 18
    Deployment.sample_isProxy)]).after .sample
    [.configure (.updateUTokenManagers 10 1 true Deployment.sample_lendPool),
      .configure (.updateUTokenManagers 13 1 true Deployment.sample_lendPool)]

theorem State.sampleReserves_reachable :
    Reachable .sample deploysProxies State.sampleReserves := by
  have hfresh := State.sample_genesis .openZeppelin
  have hweth : (State.sample .openZeppelin).execute .sample
      (.configure (.initReserve 10 20 6 12 18 rfl)) = .ok State.sampleWeth :=
    State.execute_after (by decide +kernel)
  have hone : Reachable .sample deploysProxies State.sampleWeth := by
    refine .next (.start hfresh)
      ⟨.configure (.initReserve 10 20 6 12 18 rfl), ⟨fun r => ?_, rfl⟩, hweth⟩
    show (0 : ℕ) ≠ 20
    decide
  have hproxies : deploysProxies State.sampleWeth
      (.configure (.initReserve 13 21 6 12 18 Deployment.sample_isProxy) : Action .sample) := by
    refine ⟨fun r => ?_, by decide +kernel⟩
    -- the one reserve there is has the other proxy
    have hnamed := (configure_named (D := .sample) (.initReserve 10 20 6 12 18 rfl)).ok hweth
    rcases hnamed r with h | ⟨uToken, _, _, _, _, hset, h⟩
    · rw [h]
      show (0 : ℕ) ≠ 21
      decide
    · rw [h, ← (Setting.initReserve.inj hset).2.1]
      decide
  refine Reachable.after (.next hone ⟨_, hproxies, State.execute_after (by decide +kernel)⟩) _ ?_
  intro a ha s
  simp only [List.mem_cons, List.not_mem_nil, or_false] at ha
  rcases ha with rfl | rfl <;> trivial

/-- In the small deployment user 101 deposits WETH and can withdraw it. -/
theorem liquidity_is_reported_sample : ∃ s' s'',
    State.sampleReserves.perform .sample 101 (.deposit 10 (5 * WAD) 101) = .ok s' ∧
    s'.perform .sample 101 (.withdraw 10 (5 * WAD) 102) = .ok s'' := by
  have hok := State.perform_after (s := State.sampleReserves) (Deployment.sample_isUser 1)
    (c := .deposit 10 (5 * WAD) 101) (by decide +kernel)
  obtain ⟨-, -, hweth⟩ := liquidity_is_reported (r := 10) State.sampleReserves_reachable
    (by decide +kernel)
  obtain ⟨s'', hs'', -⟩ := (hweth rfl 101 (5 * WAD)).1 101 102 (5 * WAD) (5 * WAD) _
    (Deployment.sample_isUser 1) (by decide +kernel) hok
    (eq_ok_of_toOption (by decide +kernel)) (eq_ok_of_toOption (by decide +kernel))
    (State.redeems_of_exact Deployment.sample_exact (m := 5 * WAD)
      (eq_ok_of_toOption (by decide +kernel)) (Nat.min_le_left _ _)) (by decide)
  exact ⟨_, s'', hok, hs''⟩

/-- **Money can lie where nobody looks.** User 101 deposits another token than WETH into its active
reserve, of which nothing is borrowed. The uToken holds the deposit, but nothing is reported, and
the deposit cannot be withdrawn. -/
theorem deposit_can_be_stuck : ∃ s', Reachable .sample deploysProxies s' ∧
    State.sampleReserves.perform .sample 101 (.deposit 13 (5 * WAD) 101) = .ok s' ∧
    getActive (s'.lendPool.reserves 13).configuration = true ∧
    (s'.debtTokens 13).scaledTotalSupply = 0 ∧
    (s'.uTokenBalanceOf 13 101).toOption = some (5 * WAD) ∧
    s'.inPlace .sample 13 = 5 * WAD ∧
    (s'.getAvailableLiquidity (s'.lendPool.reserves 13).uTokenAddress).toOption = some 0 ∧
    raised (s'.perform .sample 101 (.withdraw 13 (5 * WAD) 101))
      = some .LP_RESERVES_WITHOUT_ENOUGH_LIQUIDITY := by
  refine ⟨_, Reachable.next State.sampleReserves_reachable
      ⟨.call 101 (Deployment.sample_isUser 1) (.deposit 13 (5 * WAD) 101), trivial, ?_⟩,
    State.perform_after (Deployment.sample_isUser 1) (by decide +kernel), ?_, ?_, ?_, ?_, ?_, ?_⟩
  · exact State.execute_after (by decide +kernel)
  all_goals decide +kernel

end Reachable

end Unlockd
