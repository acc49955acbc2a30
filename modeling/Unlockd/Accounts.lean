/-
What each operation does, to the last token.

`Effect` says of an operation as much as the books need: bounds on the funds of two contracts.
An `Account` is exact. It names the storage of the loan contract and the debt tokens the
operation left, the vault, and every payment in the order in which it was made, so that the
balance of any holder in any asset is read off as one equation. Each operation is walked
through once; statements about who was paid, what was burnt or minted and what went in or
out of the vault are then about its account.
-/
import Unlockd.PoolEffect
import Unlockd.Lib.Transfers

set_option autoImplicit false

namespace Unlockd

open Outcome Transfers LendPoolLoan

/-! ## Listings -/

/-- Every listing that is open was there before: listings are closed, and none is new. -/
def DebtMarket.NoneNew (M M' : DebtMarket) : Prop :=
  ∀ id, (M'.marketListings id).isOpen → M'.marketListings id = M.marketListings id

theorem DebtMarket.NoneNew.refl (M : DebtMarket) : M.NoneNew M := fun _ _ => rfl

/-- Every listing that is open was there before, or has no bid yet. -/
def DebtMarket.NoBidNew (M M' : DebtMarket) : Prop :=
  ∀ id, (M'.marketListings id).isOpen →
    M'.marketListings id = M.marketListings id ∨ (M'.marketListings id).bidderAddress = 0

theorem DebtMarket.NoneNew.noBidNew {M M' : DebtMarket} (h : M.NoneNew M') : M.NoBidNew M' :=
  fun id hid => .inl (h id hid)

/-- A listing is opened without a bid. -/
theorem DebtMarket.NoBidNew.opened {M M' : DebtMarket} {d : DebtMarketListing}
    (m : ListingMove M M' none (some d)) (hd : d.bidderAddress = 0) : M.NoBidNew M' := by
  intro j _
  cases m.turn.move with
  | @enter id _ _ _ _ _ he =>
    have hread : M'.marketListings = Function.update M.marketListings id d :=
      congrArg Registry.records he
    rw [hread]
    by_cases hij : j = id
    · subst hij
      rw [Function.update_self]
      exact .inr hd
    · exact .inl (Function.update_of_ne hij _ _)

/-- One listing has been closed. -/
theorem DebtMarket.NoneNew.close {M M' : DebtMarket} {id : ℕ} {d : DebtMarketListing}
    (h : M'.marketListings = Function.update M.marketListings id d) (hd : ¬ d.isOpen) :
    M.NoneNew M' := by
  intro j hj
  rw [h] at hj ⊢
  by_cases hij : j = id
  · subst hij
    rw [Function.update_self] at hj
    exact absurd hj hd
  · rw [Function.update_of_ne hij]

/-- The state of the listing just written. -/
theorem DebtMarket.setListing_state (M : DebtMarket) (id : ℕ) (d : DebtMarketListing) :
    ((M.setListing id d).marketListings id).state = d.state := by
  simp only [setListing, Function.update_self]

/-- Deleting an offer takes it out of the index. -/
theorem DebtMarket._deleteDebtOfferListing_gone {M M' : DebtMarket} {nftAsset : Address}
    {tokenId : ℕ} (h : M._deleteDebtOfferListing nftAsset tokenId = .ok M') :
    M'.getDebtId nftAsset tokenId = 0 := by
  obtain ⟨_, -, h⟩ := bind_eq_ok.mp h
  obtain ⟨_, -, h⟩ := bind_eq_ok.mp h
  obtain rfl := Except.ok.inj h
  exact update₂_self _ _ _ _

/-- Cancelling closes one listing. -/
theorem DebtMarket.cancelDebtListing_noneNew {M M' : DebtMarket} {caller nftAsset : Address}
    {tokenId : ℕ} (h : M.cancelDebtListing caller nftAsset tokenId = .ok M') : M.NoneNew M' := by
  obtain ⟨-, h⟩ := require_bind_eq_ok.mp h
  obtain ⟨-, h⟩ := require_bind_eq_ok.mp h
  exact .close (_deleteDebtOfferListing_listings h) (by rintro (hx | hx) <;> cases hx)

/-! ## Payments -/

/-- Balances differ by a list of payments. -/
def Posted (ts : List (Transfer Address Address)) (E E' : Address → Erc20) : Prop :=
  Booked ts (fun r h => (E r).balanceOf h) fun r h => (E' r).balanceOf h

namespace Posted

variable {ts ts' : List (Transfer Address Address)} {E E' E'' : Address → Erc20}

theorem nil (E : Address → Erc20) : Posted [] E E := Booked.nil _

theorem append (h : Posted ts E E') (h' : Posted ts' E' E'') : Posted (ts ++ ts') E E'' :=
  Booked.append h h'

/-- Only allowances change. -/
theorem ofBalances (h : ∀ r, (E' r).balanceOf = (E r).balanceOf) : Posted [] E E' := by
  intro r a
  simp only [h r]
  rfl

end Posted

/-- One payment, posted. -/
theorem State.Paid.posted {asset src dst : Address} {amount : ℕ} {E E' : Address → Erc20}
    (p : Paid asset src dst amount E E') : Posted [⟨asset, src, dst, amount⟩] E E' := by
  intro r h
  simp only [sent_cons, received_cons, sent_nil, received_nil, add_zero]
  by_cases hr : asset = r
  · subst hr
    have hb := p.2.balance h
    simpa [eq_comm] using hb
  · rw [p.1 r (Ne.symm hr)]
    simp [hr]

namespace State

variable {D : Deployment} {s : State} {asset caller src dst uToken : Address} {amount : ℕ}

theorem safeTransferFrom_posted : Returns (s.safeTransferFrom asset caller src dst amount)
    (fun s' => ∃ E, s' = s.withErc20 E ∧ Posted [⟨asset, src, dst, amount⟩] s.erc20 E) := by
  refine safeTransferFrom_spec.returns.imp fun s' h => ?_
  obtain ⟨E, rfl, hpaid, -⟩ := h
  exact ⟨E, rfl, hpaid.posted⟩

theorem safeTransfer_posted : Returns (s.safeTransfer asset caller dst amount)
    (fun s' => ∃ E, s' = s.withErc20 E ∧ Posted [⟨asset, caller, dst, amount⟩] s.erc20 E) := by
  refine safeTransfer_spec.returns.imp fun s' h => ?_
  obtain ⟨E, rfl, hpaid⟩ := h
  exact ⟨E, rfl, hpaid.posted⟩

/-- A payment that is made only in some case. -/
theorem applyIf_posted {c : Prop} [Decidable c] {pay : State → Except Error State}
    {t : Transfer Address Address}
    (h : Returns (pay s) (fun s' => ∃ E, s' = s.withErc20 E ∧ Posted [t] s.erc20 E)) :
    Returns (applyIf c pay s) (fun s' => ∃ E, s' = s.withErc20 E ∧
      Posted (onlyIf c t) s.erc20 E) := by
  refine Sat.applyIf (fun hc => ?_) fun hc => ⟨_, rfl, ?_⟩
  · rw [onlyIf_of hc]
    exact h
  · rw [onlyIf_of_not hc]
    exact .nil _

/-! ## The vault -/

/-- The vault after a deposit of a reserve; only WETH goes there. -/
def credited (D : Deployment) (v : YVault) (asset uToken : Address) (amount : ℕ) : YVault :=
  if asset = D.weth then
    { v with shares := Function.update v.shares uToken (v.shares uToken + D.sharesFor v amount) }
  else v

/-- The vault after a holder has given shares up. -/
def debited (v : YVault) (uToken : Address) (shares : ℕ) : YVault :=
  { v with shares := Function.update v.shares uToken (v.shares uToken - shares) }

/-- The payment into the vault. -/
def intoVault (D : Deployment) (asset uToken : Address) (amount : ℕ) :
    List (Transfer Address Address) :=
  onlyIf (asset = D.weth) ⟨asset, uToken, D.yVaultWETH, amount⟩

/-- The payment out of the vault. -/
def outOfVault (D : Deployment) (asset uToken : Address) (value : ℕ) :
    List (Transfer Address Address) :=
  onlyIf (asset = D.weth) ⟨asset, D.yVaultWETH, uToken, value⟩

theorem depositReserves_posted : Returns (s.depositReserves D caller asset uToken amount)
    (fun s' => ∃ E, s' = (s.withErc20 E).withYVault (credited D s.yVault asset uToken amount) ∧
      Posted (intoVault D asset uToken amount) s.erc20 E) := by
  refine Returns.check fun _ => Sat.applyIf (fun hweth => ?_) fun hweth => ?_
  · refine Sat.bind (P := fun e => e = (s.erc20 asset).setAllowance uToken D.yVaultWETH amount) ?_
      fun e he => ?_
    · exact Returns.check fun _ => rfl
    -- the approval moves nothing, then the vault pulls the amount
    subst he
    refine Sat.bind safeTransferFrom_posted fun s₁ h₁ => ?_
    obtain ⟨E, rfl, hpaid⟩ := h₁
    refine ⟨E, ?_, ?_⟩
    · rw [credited, if_pos hweth]
      rfl
    · rw [intoVault, onlyIf_of hweth, hweth]
      have happroved : Posted [] s.erc20
          (s.setErc20 asset ((s.erc20 asset).setAllowance uToken D.yVaultWETH amount)).erc20 := by
        refine .ofBalances fun r => ?_
        by_cases hr : r = asset
        · subst hr
          simp [setErc20, Erc20.setAllowance]
        · simp [setErc20, hr]
      exact happroved.append hpaid
  · refine ⟨s.erc20, ?_, ?_⟩
    · rw [credited, if_neg hweth]
      rfl
    · rw [intoVault, onlyIf_of_not hweth]
      exact .nil _

/-- What withdrawing reserves gives: the shares for the amount, at the value the vault pays for
them; of any asset but WETH nothing is withdrawn. -/
structure Drawn (D : Deployment) (v : YVault) (asset uToken : Address) (amount shares value : ℕ) :
    Prop where
  weth : asset = D.weth → wadDiv amount v.pricePerShare = .ok shares ∧
    shares ≤ v.shares uToken ∧ value = D.valueOf v shares
  other : asset ≠ D.weth → shares = 0 ∧ value = 0

theorem withdrawReserves_posted : Returns (s.withdrawReserves D caller asset uToken amount)
    (fun p => ∃ E n, p.1 = (s.withErc20 E).withYVault (debited s.yVault uToken n) ∧
      Drawn D s.yVault asset uToken amount n p.2 ∧
      Posted (outOfVault D asset uToken p.2) s.erc20 E) := by
  refine Returns.check fun _ => Sat.ite (fun hweth => ?_) fun hweth => ?_
  · refine Returns.step fun n hn => Returns.check fun hle => ?_
    refine Sat.bind safeTransfer_posted fun s₁ h₁ => ?_
    obtain ⟨E, rfl, hpaid⟩ := h₁
    refine ⟨E, n, rfl, ⟨fun _ => ⟨hn, hle, rfl⟩, fun hne => absurd hweth hne⟩, ?_⟩
    rw [outOfVault, onlyIf_of hweth, hweth]
    exact hpaid
  · refine ⟨s.erc20, 0, ?_, ⟨fun heq => absurd heq hweth, fun _ => ⟨rfl, rfl⟩⟩, ?_⟩
    · simp only [debited, Nat.sub_zero, Function.update_eq_self]
      rfl
    · rw [outOfVault, onlyIf_of_not hweth]
      exact .nil _

/-! ## Cancelling and closing -/

/-- The payment that cancelling the listing on a token makes: its bid goes back, if it has one. -/
def listingRefund (D : Deployment) (s : State) (nftAsset : Address) (tokenId : ℕ) :
    List (Transfer Address Address) :=
  let d := s.debtMarket.marketListings (s.debtMarket.getDebtId nftAsset tokenId)
  onlyIf (s.debtMarket.getDebtId nftAsset tokenId ≠ 0 ∧ d.bidderAddress ≠ 0)
    ⟨d.reserveAsset, D.debtMarket, d.bidderAddress, d.bidPrice⟩

/-- Nobody but the market sends anything in it. -/
theorem listingRefund_src {nftAsset : Address} {tokenId : ℕ} :
    ∀ t ∈ s.listingRefund D nftAsset tokenId, t.src = D.debtMarket := by
  intro t ht
  rw [(mem_onlyIf.mp ht).2]

theorem cancelDebtListing_posted {nftAsset : Address} {tokenId : ℕ} :
    Returns (s.cancelDebtListing D caller nftAsset tokenId)
      (fun s' => ∃ M E, s' = (s.setDebtMarket M).withErc20 E ∧ s.debtMarket.NoneNew M ∧
        Posted (s.listingRefund D nftAsset tokenId) s.erc20 E) := by
  refine Returns.check fun _ => Sat.bind DebtMarket.debtShouldExistGuard_spec.returns
    fun _ hid => ?_
  refine Returns.step fun M hM => ?_
  refine Sat.imp (applyIf_posted safeTransferFrom_posted) fun s' h => ?_
  obtain ⟨E, rfl, hpaid⟩ := h
  refine ⟨M, E, rfl, DebtMarket.cancelDebtListing_noneNew hM, ?_⟩
  simp only [listingRefund, hid, ne_eq, not_false_eq_true, true_and]
  exact hpaid

theorem cancelDebtListingIfExists_posted {nftAsset : Address} {tokenId : ℕ} :
    Returns (s.cancelDebtListingIfExists D caller nftAsset tokenId)
      (fun s' => ∃ M E, s' = (s.setDebtMarket M).withErc20 E ∧ s.debtMarket.NoneNew M ∧
        Posted (s.listingRefund D nftAsset tokenId) s.erc20 E) := by
  refine Sat.applyIf (fun _ => cancelDebtListing_posted) fun hid => ?_
  refine ⟨s.debtMarket, s.erc20, rfl, .refl _, ?_⟩
  rw [listingRefund, onlyIf_of_not fun h => hid h.1]
  exact .nil _

/-- A closing function: its storage part, and tokens that are no reserve asset. -/
theorem closeLoan_stored {loanId : ℕ} {storage : LendPoolLoan → Except Error LendPoolLoan} :
    Returns (s.closeLoan D caller loanId storage)
      (fun s' => ∃ L C U, s' = s.onLoan L s.debtMarket s.erc20 C U ∧
        storage s.lendPoolLoan = .ok L) := by
  refine Returns.step fun L hL => ?_
  refine Sat.bind (burnUNft_spec D).returns fun s₁ h₁ => ?_
  obtain ⟨-, E, m, rfl⟩ := h₁
  refine (safeTransferNft_spec D).returns.imp fun s₂ h₂ => ?_
  obtain ⟨E', rfl⟩ := h₂
  exact ⟨L, E', _, rfl, hL⟩

end State

/-! ## Accounts -/

/-- In the pool's own storage nothing but reserves has changed. -/
def State.OnlyReserves (s s' : State) : Prop :=
  s'.lendPool = { s.lendPool with reserves := s'.lendPool.reserves }

/-- The uTokens of a reserve that is not active and is owed nothing are left alone. -/
def State.LeavesIdle (s : State) (U : Address → UToken) : Prop :=
  ∀ r, getActive (s.lendPool.reserves r).configuration = false →
    (s.debtTokens r).scaledTotalSupply = 0 → U r = s.uTokens r

/-- The account of an operation: the loan contract, the debt tokens and the vault as it left
them, the payments it made, and the reserve it brought up to date. -/
structure Account (s s' : State) (asset : Address) (Rs : Address → ReserveData)
    (L : LendPoolLoan) (T : Address → DebtToken) (v : YVault)
    (ts : List (Transfer Address Address)) : Prop where
  blockTimestamp : s'.blockTimestamp = s.blockTimestamp
  pool : s.OnlyReserves s'
  idle : s.LeavesIdle s'.uTokens
  updated : s.Updated asset Rs
  refreshed : s.Refreshed asset s'.lendPool.reserves
  index : (s'.lendPool.reserves asset).variableBorrowIndex = (Rs asset).variableBorrowIndex
  loans : s'.lendPoolLoan = L
  debts : s'.debtTokens = T
  vault : s'.yVault = v
  listings : s.debtMarket.NoneNew s'.debtMarket
  payments : Posted ts s.erc20 s'.erc20

/-- Neither of the two steps that bring a reserve up to date touches a configuration. -/
theorem State.Updated.configuration {s : State} {asset : Address} {Rs : Address → ReserveData}
    (h : s.Updated asset Rs) (r : Address) :
    (Rs r).configuration = (s.lendPool.reserves r).configuration := by
  by_cases hr : r = asset
  · subst hr
    obtain ⟨i, j, hR, -, -⟩ := h.indices
    rw [hR]
    rfl
  · rw [h.1 r hr]

@[inherit_doc State.Updated.configuration]
theorem State.Priced.configuration {s : State} {asset uToken : Address} {added taken : ℕ}
    {Rs : Address → ReserveData} (h : s.Priced asset uToken added taken Rs) (r : Address) :
    (Rs r).configuration = (s.lendPool.reserves r).configuration := by
  by_cases hr : r = asset
  · subst hr
    obtain ⟨-, rates, -, hR⟩ := h
    rw [ReserveData.setRates_eq hR]
  · rw [h.1 r hr]

/-- An operation leaves the configurations of reserves alone. -/
theorem Account.configuration {s s' : State} {asset : Address} {Rs : Address → ReserveData}
    {L : LendPoolLoan} {T : Address → DebtToken} {v : YVault}
    {ts : List (Transfer Address Address)} (h : Account s s' asset Rs L T v ts) (r : Address) :
    (s'.lendPool.reserves r).configuration = (s.lendPool.reserves r).configuration := by
  by_cases hr : r = asset
  · subst hr
    obtain ⟨-, R, rates, hR, hrates⟩ := h.refreshed
    obtain ⟨i, j, rfl, -, -⟩ := ReserveData._updateIndexes_spec.ok hR
    rw [ReserveData.setRates_eq hrates]
    rfl
  · rw [h.refreshed.1 r hr]

/-- Setting the rates keeps the borrow index. -/
theorem State.Priced.index {s : State} {asset uToken : Address} {added taken : ℕ}
    {Rs : Address → ReserveData} (h : s.Priced asset uToken added taken Rs) :
    (Rs asset).variableBorrowIndex = (s.lendPool.reserves asset).variableBorrowIndex := by
  obtain ⟨-, rates, -, hR⟩ := h
  rw [ReserveData.setRates_eq hR]

/-- The debt tokens after debt was burnt by one of the two contracts. -/
def Burnt (caller reserve user : Address) (amount index : ℕ) (T T' : Address → DebtToken) : Prop :=
  ∃ d, (T reserve).burn caller user amount index = .ok d ∧ T' = Function.update T reserve d

/-- The debt tokens after debt was minted by one of the two contracts. -/
def Minted (caller reserve initiator onBehalfOf : Address) (amount index : ℕ)
    (T T' : Address → DebtToken) : Prop :=
  ∃ d, (T reserve).mint caller initiator onBehalfOf amount index = .ok d ∧
    T' = Function.update T reserve d

namespace State

variable {D : Deployment} {s : State} {asset nftAsset initiator onBehalfOf receiver : Address}
  {amount nftTokenId : ℕ}

theorem burnDebt_posted {caller reserve user : Address} {index : ℕ} :
    Returns (s.burnDebt caller reserve user amount index)
      (fun s' => ∃ T, s' = s.withDebtTokens T ∧
        Burnt caller reserve user amount index s.debtTokens T) :=
  Returns.step fun d hd => ⟨_, rfl, d, hd, rfl⟩

theorem mintDebt_posted {caller reserve : Address} {index : ℕ} :
    Returns (s.mintDebt caller reserve initiator onBehalfOf amount index)
      (fun s' => ∃ T, s' = s.withDebtTokens T ∧
        Minted caller reserve initiator onBehalfOf amount index s.debtTokens T) :=
  Returns.step fun d hd => ⟨_, rfl, d, hd, rfl⟩

/-- Bringing a reserve that is owed nothing up to date mints nothing to its treasury. -/
theorem updateState_posted : Returns (s.updateState asset)
    (fun s' => ∃ Rs U, s' = (s.withReserves Rs).withUTokens U ∧ s.Updated asset Rs ∧
      s.LeavesIdle U) := by
  refine (updateState_spec.and (Sat.returned _)).returns.imp fun s' h => ?_
  obtain ⟨⟨Rs, U, rfl, hupd⟩, hok⟩ := h
  refine ⟨Rs, U, rfl, hupd, fun r _ hdebt => ?_⟩
  obtain ⟨R, -, hok⟩ := bind_eq_ok.mp hok
  obtain ⟨n, hn, hok⟩ := bind_eq_ok.mp hok
  obtain ⟨u, hu, hok⟩ := bind_eq_ok.mp hok
  have hU : Function.update s.uTokens asset u = U :=
    congrArg State.uTokens (Except.ok.inj hok)
  rw [← hU, Function.update_apply]
  split
  · rename_i heq
    subst heq
    rw [hdebt] at hn
    obtain rfl := ReserveData.amountToMint_none hn
    exact (Except.ok.inj hu).symm
  · rfl

theorem updateReserveState_posted : Returns (s.updateReserveState asset)
    (fun s' => ∃ Rs U, s' = (s.withReserves Rs).withUTokens U ∧ s.Updated asset Rs ∧
      s.LeavesIdle U) :=
  Returns.check fun _ => Returns.check fun _ => updateState_posted

/-- A reserve that is not idle may have its uTokens changed. -/
theorem LeavesIdle.update {U : Address → UToken} (h : s.LeavesIdle U)
    (hactive : getActive (s.lendPool.reserves asset).configuration = true) (u : UToken) :
    s.LeavesIdle (Function.update U asset u) := by
  intro r hr hdebt
  have hne : r ≠ asset := by
    rintro rfl
    rw [hactive] at hr
    cases hr
  rw [Function.update_of_ne hne]
  exact h r hr hdebt

theorem validateDeposit_active : Returns (s.validateDeposit asset amount)
    (fun _ => getActive (s.lendPool.reserves asset).configuration = true) := by
  refine Returns.check fun _ => Returns.check fun hactive => ?_
  exact (Sat.require fun _ => trivial).imp fun _ _ => hactive

theorem validateWithdraw_active {uToken : Address} {userBalance : ℕ} :
    Returns (s.validateWithdraw asset uToken amount userBalance)
      (fun _ => getActive (s.lendPool.reserves asset).configuration = true) := by
  refine Returns.check fun _ => Returns.check fun _ => Returns.check fun hactive => ?_
  refine Returns.step fun _ _ => (Sat.require fun _ => trivial).imp fun _ _ => hactive

theorem mintUToken_posted {user : Address} {index : ℕ} :
    Returns (s.mintUToken asset user amount index) (fun s' => ∃ u, s' = s.setUToken asset u) :=
  Returns.step fun u _ => ⟨u, rfl⟩

/-- **The account of `deposit`.** -/
theorem executeDeposit_account : Returns (s.executeDeposit D initiator asset amount onBehalfOf)
    (fun s' => ∃ Rs, Account s s' asset Rs s.lendPoolLoan s.debtTokens
      (credited D s.yVault asset (s.lendPool.reserves asset).uTokenAddress amount)
      (⟨asset, initiator, (s.lendPool.reserves asset).uTokenAddress, amount⟩ ::
        intoVault D asset (s.lendPool.reserves asset).uTokenAddress amount)) := by
  refine Returns.check fun _ => Returns.check fun _ => Returns.step fun _ hvalid => ?_
  refine Sat.bind updateState_posted fun s₁ h₁ => ?_
  obtain ⟨Rs, U, rfl, hupd, hidle⟩ := h₁
  refine Sat.bind updateInterestRates_spec.returns fun s₂ h₂ => ?_
  obtain ⟨Rs', rfl, hpriced⟩ := h₂
  refine Sat.bind safeTransferFrom_posted fun s₃ h₃ => ?_
  obtain ⟨E, rfl, hpaid⟩ := h₃
  refine Sat.bind mintUToken_posted fun s₄ h₄ => ?_
  obtain ⟨u, rfl⟩ := h₄
  refine Sat.imp depositReserves_posted fun s₅ h₅ => ?_
  obtain ⟨E', rfl, hdep⟩ := h₅
  exact ⟨Rs, rfl, rfl, hidle.update (validateDeposit_active.ok hvalid) u, hupd,
    hupd.thenPriced hpriced rfl, hpriced.index, rfl, rfl, rfl, .refl _, hpaid.append hdep⟩

/-- Burning uTokens pays the underlying to the receiver. -/
theorem burnUToken_posted {uToken user : Address} {index : ℕ} :
    Returns (s.burnUToken asset uToken user receiver amount index)
      (fun s' => ∃ u E, s' = (s.setUToken asset u).withErc20 E ∧
        Posted [⟨asset, uToken, receiver, amount⟩] s.erc20 E) := by
  refine Returns.step fun n _ => Returns.check fun _ => Returns.step fun u _ => ?_
  refine Sat.imp safeTransfer_posted fun s' h => ?_
  obtain ⟨E, rfl, hpaid⟩ := h
  exact ⟨u, E, rfl, hpaid⟩

/-- **The account of `withdraw`.** -/
theorem executeWithdraw_account : Returns (s.executeWithdraw D initiator asset amount receiver)
    (fun p => ∃ Rs shares value, Account s p.1 asset Rs s.lendPoolLoan s.debtTokens
        (debited s.yVault (s.lendPool.reserves asset).uTokenAddress shares)
        (outOfVault D asset (s.lendPool.reserves asset).uTokenAddress value ++
          [⟨asset, (s.lendPool.reserves asset).uTokenAddress, receiver, p.2⟩]) ∧
      Drawn D s.yVault asset (s.lendPool.reserves asset).uTokenAddress p.2 shares value) := by
  refine Returns.check fun _ => Returns.check fun _ => Returns.step fun b _ => ?_
  refine Returns.step fun _ hvalid => ?_
  refine Sat.bind updateState_posted fun s₁ h₁ => ?_
  obtain ⟨Rs, U, rfl, hupd, hidle⟩ := h₁
  refine Sat.bind updateInterestRates_spec.returns fun s₂ h₂ => ?_
  obtain ⟨Rs', rfl, hpriced⟩ := h₂
  refine Sat.bind withdrawReserves_posted fun p h₃ => ?_
  obtain ⟨s₃, value⟩ := p
  obtain ⟨E, n, rfl, hdrawn, hout⟩ := h₃
  refine Sat.bind burnUToken_posted fun s₄ h₄ => ?_
  obtain ⟨u, E', rfl, hpaid⟩ := h₄
  exact ⟨Rs, n, value, ⟨rfl, rfl, hidle.update (validateWithdraw_active.ok hvalid) u, hupd,
    hupd.thenPriced hpriced rfl, hpriced.index, rfl, rfl, rfl, .refl _, hout.append hpaid⟩,
    hdrawn⟩

/-- The storage of the loan contract after a borrow: a new loan, or more on the one there is. -/
def BorrowedOn (L L' : LendPoolLoan) (asset nftAsset : Address) (nftTokenId : ℕ)
    (onBehalfOf : Address) (amount index : ℕ) : Prop :=
  if L.getCollateralLoanId nftAsset nftTokenId = 0 then
    L.createLoan onBehalfOf nftAsset nftTokenId asset amount index = .ok L'
  else L.updateLoan (L.getCollateralLoanId nftAsset nftTokenId) amount 0 index = .ok L'

theorem borrowOnLoan_posted :
    Returns (s.borrowOnLoan D initiator asset amount nftAsset nftTokenId onBehalfOf)
      (fun s' => ∃ L M E C U, s' = s.onLoan L M E C U ∧ s.debtMarket.NoneNew M ∧
        BorrowedOn s.lendPoolLoan L asset nftAsset nftTokenId onBehalfOf amount
          (s.lendPool.reserves asset).variableBorrowIndex ∧
        Posted (if s.lendPoolLoan.getCollateralLoanId nftAsset nftTokenId = 0 then []
          else s.listingRefund D nftAsset nftTokenId) s.erc20 E) := by
  refine Sat.ite (fun hfree => ?_) fun hid => ?_
  · -- a new loan: the token comes in and a receipt goes out, and nothing is paid
    refine Sat.bind (safeTransferNft_spec D).returns fun s₁ h₁ => ?_
    obtain ⟨C, rfl⟩ := h₁
    refine Returns.step fun L hL => Sat.bind (safeTransferNft_spec D).returns fun s₂ h₂ => ?_
    obtain ⟨C', rfl⟩ := h₂
    refine (mintUNft_spec D).returns.imp fun s₃ h₃ => ?_
    obtain ⟨-, -, C'', m, rfl⟩ := h₃
    refine ⟨L, s.debtMarket, s.erc20, C'', _, rfl, .refl _, ?_, ?_⟩
    · rw [BorrowedOn, if_pos hfree]
      exact hL
    · rw [if_pos hfree]
      exact .nil _
  · -- more on the loan there is: a listing of its debt is cancelled, which refunds the bid on it
    refine Returns.step fun L hL => Sat.imp cancelDebtListingIfExists_posted fun s₁ h₁ => ?_
    obtain ⟨M, E, rfl, hlistings, hrefund⟩ := h₁
    refine ⟨L, M, E, s.erc721, s.uNfts, rfl, hlistings, ?_, ?_⟩
    · rw [BorrowedOn, if_neg hid]
      exact hL
    · rw [if_neg hid]
      exact hrefund

/-- **The account of `borrow`.** The debt is minted at the index just brought up to date, and the
initiator is paid what the vault gave. -/
theorem _borrow_account :
    Returns (s._borrow D initiator asset amount nftAsset nftTokenId onBehalfOf)
    (fun s' => ∃ Rs L T shares value, Account s s' asset Rs L T
        (debited s.yVault (s.lendPool.reserves asset).uTokenAddress shares)
        ((if s.lendPoolLoan.getCollateralLoanId nftAsset nftTokenId = 0 then []
            else s.listingRefund D nftAsset nftTokenId) ++
          (outOfVault D asset (s.lendPool.reserves asset).uTokenAddress value ++
            [⟨asset, (s.lendPool.reserves asset).uTokenAddress, initiator, value⟩])) ∧
      (0 < amount ∧ onBehalfOf ≠ 0 ∧ (s.lendPool.reserves asset).uTokenAddress ≠ 0) ∧
      BorrowedOn s.lendPoolLoan L asset nftAsset nftTokenId onBehalfOf amount
        (Rs asset).variableBorrowIndex ∧
      Minted D.lendPool asset initiator onBehalfOf amount (Rs asset).variableBorrowIndex
        s.debtTokens T ∧
      Drawn D s.yVault asset (s.lendPool.reserves asset).uTokenAddress amount shares value) := by
  refine Returns.check fun hto => ?_
  refine Sat.bind updateState_posted fun s₁ h₁ => ?_
  obtain ⟨Rs, U, rfl, hupd, hidle⟩ := h₁
  refine Sat.bind validateBorrow_spec.returns fun _ hv => ?_
  obtain ⟨hinit, hpos, -⟩ := hv
  refine Returns.step fun _ _ => Returns.check fun _ => ?_
  refine Sat.bind borrowOnLoan_posted fun s₂ h₂ => ?_
  obtain ⟨L, M, E, C, N, rfl, hlistings, hloan, hrefund⟩ := h₂
  refine Sat.bind mintDebt_posted fun s₃ h₃ => ?_
  obtain ⟨T, rfl, hminted⟩ := h₃
  refine Sat.bind updateInterestRates_spec.returns fun s₄ h₄ => ?_
  obtain ⟨Rs', rfl, hpriced⟩ := h₄
  refine Sat.bind withdrawReserves_posted fun p h₅ => ?_
  obtain ⟨s₅, value⟩ := p
  obtain ⟨E', n, rfl, hdrawn, hout⟩ := h₅
  refine Sat.imp safeTransfer_posted fun s₆ h₆ => ?_
  obtain ⟨E'', rfl, hpaid⟩ := h₆
  -- the uToken's address is not touched by the update
  have hu : (((s.withReserves Rs).withUTokens U).lendPool.reserves asset).uTokenAddress
    = (s.lendPool.reserves asset).uTokenAddress := hupd.uTokenAddress
  rw [hu] at hdrawn hout hpaid hinit
  refine ⟨Rs, L, T, n, value, ⟨rfl, rfl, hidle, hupd, hupd.thenPriced hpriced rfl,
    hpriced.index, rfl, rfl, ?_,
    hlistings, hrefund.append (hout.append hpaid)⟩, ⟨hpos, hto, hinit⟩, hloan, hminted, hdrawn⟩
  rw [← hu]
  rfl

end State

/-! ## The debt of a loan -/

/-- What a loan owes at an index: `rayMul` of its scaled amount. -/
def LoanData.outstanding (l : LoanData) (index : ℕ) : ℕ :=
  FixedPoint.divHalfUp (l.scaledAmount * index) RAY

/-- What a loan is reported to owe: its scaled amount, read at an index no smaller than the one
stored; the stored one itself if the reserve is up to date. -/
theorem getLoanReserveBorrowAmount_read {s : State} {id b : ℕ} {loan : LoanData}
    (hloan : s.lendPoolLoan.loans id = loan) (hb : s.getLoanReserveBorrowAmount id = .ok b) :
    ∃ j, (s.lendPool.reserves loan.reserveAsset).variableBorrowIndex ≤ j ∧ b = loan.outstanding j ∧
      ((s.lendPool.reserves loan.reserveAsset).lastUpdateTimestamp = uint40 s.blockTimestamp →
        j = (s.lendPool.reserves loan.reserveAsset).variableBorrowIndex) := by
  subst hloan
  unfold State.getLoanReserveBorrowAmount at hb
  dsimp only at hb
  split at hb
  · rename_i hz
    obtain rfl := Except.ok.inj hb
    refine ⟨_, le_rfl, ?_, fun _ => rfl⟩
    rw [LoanData.outstanding, hz, Nat.zero_mul, FixedPoint.divHalfUp_zero]
  · obtain ⟨j, hj, hb⟩ := bind_eq_ok.mp hb
    refine ⟨j, ReserveData.le_getNormalizedDebt hj, rayMul_spec hb, fun hstamp => ?_⟩
    rw [ReserveData.getNormalizedDebt_of_updated hstamp] at hj
    exact (Except.ok.inj hj).symm

/-- The borrow index a reserve will have once it is brought up to date; zero if that reverts. -/
def State.nextIndex (s : State) (asset : Address) : ℕ :=
  match (s.lendPool.reserves asset)._updateIndexes (s.debtTokens asset).scaledTotalSupply
      s.blockTimestamp with
  | .ok R => R.variableBorrowIndex
  | .error _ => 0

theorem State.Updated.nextIndex {s : State} {asset : Address} {Rs : Address → ReserveData}
    (h : s.Updated asset Rs) : (Rs asset).variableBorrowIndex = s.nextIndex asset := by
  unfold State.nextIndex
  rw [h.2]

/-- It is no smaller than the index stored. -/
theorem State.Updated.le_nextIndex {s : State} {asset : Address} {Rs : Address → ReserveData}
    (h : s.Updated asset Rs) :
    (s.lendPool.reserves asset).variableBorrowIndex ≤ s.nextIndex asset := by
  obtain ⟨i, j, hR, -, hj⟩ := h.indices
  rw [← h.nextIndex, hR]
  exact hj.le

/-- Once its reserve is up to date, a loan is reported to owe its outstanding amount. -/
theorem State.Updated.outstanding {s s₁ : State} {loanId b : ℕ} {loan : LoanData}
    {Rs : Address → ReserveData} (h : s.Updated loan.reserveAsset Rs)
    (hloan : s₁.lendPoolLoan.loans loanId = loan) (hRs : s₁.lendPool.reserves = Rs)
    (ht : s₁.blockTimestamp = s.blockTimestamp) (hb : s₁.getLoanReserveBorrowAmount
      loanId = .ok b) :
    b = loan.outstanding (Rs loan.reserveAsset).variableBorrowIndex := by
  obtain ⟨i, j, hR, -, -⟩ := h.indices
  have hupdated : (s₁.lendPool.reserves loan.reserveAsset).lastUpdateTimestamp
      = uint40 s₁.blockTimestamp := by rw [hRs, hR, ht]; rfl
  rw [getLoanReserveBorrowAmount_of_updated hloan hupdated, hRs] at hb
  exact rayMul_spec hb

namespace State

variable {D : Deployment} {s : State} {nftAsset initiator onBehalfOf : Address}
  {amount nftTokenId : ℕ}

/-- What a repayment was let through for. -/
theorem validateRepay_passed {loan : LoanData} {nftConfig : BitVec 256} {borrowAmount : ℕ} :
    Returns (s.validateRepay loan nftConfig amount borrowAmount)
      (fun _ => 0 < amount ∧ 0 < borrowAmount ∧ loan.state = .Active) := by
  refine Returns.step fun _ _ => Returns.check fun ha => Returns.check fun hb => ?_
  exact (Sat.require fun _ => trivial).imp fun _ hs => ⟨ha, hb, hs⟩

/-- The storage of the loan contract after a repayment: a smaller loan, or a closed one. -/
def RepaidOn (L L' : LendPoolLoan) (loanId amount borrowAmount index : ℕ) : Prop :=
  if amount < borrowAmount then L.updateLoan loanId 0 amount index = .ok L'
  else L.repayLoan loanId = .ok L'

theorem repayOnLoan_stored {loanId borrowAmount index : ℕ} :
    Returns (s.repayOnLoan D loanId (if amount < borrowAmount then amount else borrowAmount) index
        (amount < borrowAmount))
      (fun s' => ∃ L C U, s' = s.onLoan L s.debtMarket s.erc20 C U ∧
        RepaidOn s.lendPoolLoan L loanId amount borrowAmount index) := by
  unfold RepaidOn
  refine Sat.ite (fun hlt => ?_) fun hlt => ?_
  · rw [if_pos hlt]
    refine Returns.step fun L hL => ⟨L, s.erc721, s.uNfts, rfl, ?_⟩
    rw [if_pos hlt]
    exact hL
  · refine Sat.imp closeLoan_stored fun s' h => ?_
    obtain ⟨L, C, U, rfl, hL⟩ := h
    refine ⟨L, C, U, rfl, ?_⟩
    rw [if_neg hlt]
    exact hL

/-- A token handed over belongs to the receiver. -/
theorem safeTransferNft_owner {asset caller src dst : Address} {tokenId : ℕ} :
    Returns (s.safeTransferNft D asset caller src dst tokenId)
      (fun s' => ∃ C, s' = s.withErc721 C ∧ (C asset).ownerOf tokenId = dst) := by
  refine Sat.bind (P := fun c => c.ownerOf tokenId = dst) ?_ fun c hc => ?_
  · refine Returns.check fun _ => Returns.check fun _ => Returns.check fun _ =>
      Returns.check fun _ => ?_
    exact Function.update_self _ _ _
  · refine Returns.check fun _ => ⟨_, rfl, ?_⟩
    rw [Function.update_self]
    exact hc

/-- The token is handed back, if the loan is closed. -/
theorem returnNft_owner {c : Prop} [Decidable c] {asset dst : Address} {tokenId : ℕ} :
    Returns (applyIf c (fun s => s.safeTransferNft D asset D.lendPool D.lendPool dst tokenId) s)
      (fun s' => ∃ C, s' = s.withErc721 C ∧ (c → (C asset).ownerOf tokenId = dst)) := by
  refine Sat.applyIf (fun _ => ?_) fun hc => ⟨s.erc721, rfl, fun h => absurd h hc⟩
  refine Sat.imp safeTransferNft_owner fun s' h => ?_
  obtain ⟨C, rfl, hown⟩ := h
  exact ⟨C, rfl, fun _ => hown⟩

/-- **The account of `repay`.** -/
theorem _repay_account : Returns (s._repay D initiator nftAsset nftTokenId amount)
    (fun p => ∃ loan Rs L T b n, s.lendPoolLoan.getCollateralLoanId nftAsset nftTokenId ≠ 0 ∧
      loan = s.lendPoolLoan.loans (s.lendPoolLoan.getCollateralLoanId nftAsset nftTokenId) ∧
      b = loan.outstanding (Rs loan.reserveAsset).variableBorrowIndex ∧
      n = (if amount < b then amount else b) ∧ p.2 = (n, decide (¬ amount < b)) ∧
      Account s p.1 loan.reserveAsset Rs L T
        (credited D s.yVault loan.reserveAsset
          (s.lendPool.reserves loan.reserveAsset).uTokenAddress n)
        (s.listingRefund D nftAsset nftTokenId ++
          (⟨loan.reserveAsset, initiator, (s.lendPool.reserves loan.reserveAsset).uTokenAddress,
            n⟩ ::
            intoVault D loan.reserveAsset
              (s.lendPool.reserves loan.reserveAsset).uTokenAddress n)) ∧
      (0 < amount ∧ 0 < b ∧ loan.state = .Active) ∧
      RepaidOn s.lendPoolLoan L (s.lendPoolLoan.getCollateralLoanId nftAsset nftTokenId) amount b
        (Rs loan.reserveAsset).variableBorrowIndex ∧
      Burnt D.lendPool loan.reserveAsset loan.borrower n (Rs loan.reserveAsset).variableBorrowIndex
        s.debtTokens T ∧
      (¬ amount < b → (p.1.erc721 loan.nftAsset).ownerOf nftTokenId = loan.borrower)) := by
  refine Returns.check fun hid => ?_
  unfold getLoan
  generalize hloan : s.lendPoolLoan.loans (s.lendPoolLoan.getCollateralLoanId nftAsset nftTokenId)
    = loan
  refine Sat.bind updateState_posted fun s₁ h₁ => ?_
  obtain ⟨Rs, U, rfl, hupd, hidle⟩ := h₁
  refine Returns.step fun b hb => ?_
  have hout := hupd.outstanding (by exact hloan) (by rfl) (by rfl) hb
  refine Sat.bind validateRepay_passed fun _ hv => ?_
  -- first the records: the listing, the loan, the debt and the rates
  refine Sat.bind cancelDebtListingIfExists_posted fun s₂ h₂ => ?_
  obtain ⟨M, E, rfl, hlistings, hrefund⟩ := h₂
  refine Sat.bind repayOnLoan_stored fun s₃ h₃ => ?_
  obtain ⟨L, C, N, rfl, hrepaid⟩ := h₃
  refine Sat.bind burnDebt_posted fun s₄ h₄ => ?_
  obtain ⟨T, rfl, hburnt⟩ := h₄
  refine Sat.bind updateInterestRates_spec.returns fun s₅ h₅ => ?_
  obtain ⟨Rs', rfl, hpriced⟩ := h₅
  -- then the payments, into the uToken and on into the vault
  refine Sat.bind safeTransferFrom_posted fun s₆ h₆ => ?_
  obtain ⟨E', rfl, hpaid⟩ := h₆
  refine Sat.bind depositReserves_posted fun s₇ h₇ => ?_
  obtain ⟨E'', rfl, hdep⟩ := h₇
  have hu : (Rs loan.reserveAsset).uTokenAddress
    = (s.lendPool.reserves loan.reserveAsset).uTokenAddress := hupd.uTokenAddress
  refine Sat.bind returnNft_owner fun s₈ h₈ => ?_
  obtain ⟨C', rfl, hown⟩ := h₈
  refine ⟨loan, Rs, L, T, b, _, hid, rfl, hout, rfl, rfl,
    ⟨rfl, rfl, hidle, hupd, hupd.thenPriced hpriced rfl,
    hpriced.index, rfl, rfl, ?_, hlistings, ?_⟩, hv, hrepaid, hburnt, hown⟩
  · rw [← hu]
    rfl
  · rw [← hu]
    exact hrefund.append (hpaid.append hdep)

/-! ## Auctions -/

/-- What a bid was let through for: the first opens the auction of a loan that owes something,
a later one comes before its end and beats the standing bid by a percent of the debt; either
covers the debt. -/
theorem validateBidPrice_passed {loan : LoanData} {nftConfig : BitVec 256}
    {bidPrice borrowAmount thresholdPrice : ℕ} :
    Returns (s.validateBidPrice loan nftConfig bidPrice borrowAmount thresholdPrice)
      (fun _ => borrowAmount ≤ bidPrice ∧ (loan.state = .Active → 0 < borrowAmount) ∧
        (loan.state ≠ .Active → s.blockTimestamp ≤ s.auctionEndTimestamp loan nftConfig ∧
          loan.bidPrice ≤ bidPrice)) := by
  refine Sat.ite (fun hs => ?_) fun hs => ?_
  · -- a first bid starts from the debt, a later one from the bid before it
    refine Returns.check fun hlt => Returns.step fun m _ => Returns.check fun _ => ?_
    refine (Sat.require fun _ => trivial).imp fun _ hle => ?_
    exact ⟨(Nat.le_add_right _ _).trans hle, fun _ => Nat.zero_lt_of_lt hlt, fun h => absurd hs h⟩
  · refine Returns.check fun hle => Returns.check fun hend => Returns.step fun m _ => ?_
    refine (Sat.require fun _ => trivial).imp fun _ hprice => ?_
    exact ⟨hle, fun h => absurd h hs, fun _ => ⟨hend, (Nat.le_add_right _ _).trans hprice⟩⟩

/-- **The account of `auction`.** The initiator pays the pool, and the bid before goes back. -/
theorem executeAuction_account {bidPrice : ℕ} :
    Returns (s.executeAuction D initiator nftAsset nftTokenId bidPrice onBehalfOf)
    (fun s' => ∃ loan Rs L b, s.lendPoolLoan.getCollateralLoanId nftAsset nftTokenId ≠ 0 ∧
      loan = s.lendPoolLoan.loans (s.lendPoolLoan.getCollateralLoanId nftAsset nftTokenId) ∧
      b = loan.outstanding (Rs loan.reserveAsset).variableBorrowIndex ∧
      Account s s' loan.reserveAsset Rs L s.debtTokens s.yVault
        (⟨loan.reserveAsset, initiator, D.lendPool, bidPrice⟩ ::
          onlyIf (loan.bidderAddress ≠ 0)
            ⟨loan.reserveAsset, D.lendPool, loan.bidderAddress, loan.bidPrice⟩) ∧
      (onBehalfOf ≠ 0 ∧ 0 < bidPrice) ∧
      (b ≤ bidPrice ∧ (loan.state = .Active → 0 < b) ∧ (loan.state ≠ .Active →
        s.blockTimestamp ≤ s.auctionEndTimestamp loan
          (s.lendPool.nftConfig loan.nftAsset loan.nftTokenId) ∧ loan.bidPrice ≤ bidPrice)) ∧
      s.lendPoolLoan.auctionLoan (s.lendPoolLoan.getCollateralLoanId nftAsset nftTokenId)
        onBehalfOf bidPrice b s.blockTimestamp = .ok L) := by
  refine Returns.check fun hto => Returns.check fun hid => ?_
  unfold getLoan
  generalize hloan : s.lendPoolLoan.loans (s.lendPoolLoan.getCollateralLoanId nftAsset nftTokenId)
    = loan
  refine Returns.check fun _ => ?_
  refine Sat.bind (P := fun _ => 0 < bidPrice) ?_ fun _ hpos => ?_
  · refine Returns.step fun _ _ => Returns.check fun _ => ?_
    exact Sat.require fun _ => trivial
  refine Sat.bind updateState_posted fun s₁ h₁ => ?_
  obtain ⟨Rs, U, rfl, hupd, hidle⟩ := h₁
  refine Sat.bind calculateLoanLiquidatePrice_spec.returns fun prices hprices => ?_
  have hout := hupd.outstanding (by exact hloan) (by rfl) (by rfl) hprices
  refine Sat.bind validateBidPrice_passed fun _ hbid => ?_
  -- the initiator pays before the standing bid goes back
  refine Returns.step fun L hL => ?_
  refine Sat.bind safeTransferFrom_posted fun s₂ h₂ => ?_
  obtain ⟨E, rfl, hpaid⟩ := h₂
  refine Sat.bind (applyIf_posted safeTransfer_posted) fun s₃ h₃ => ?_
  obtain ⟨E', rfl, hrefund⟩ := h₃
  refine updateInterestRates_spec.returns.imp fun s₄ h₄ => ?_
  obtain ⟨Rs', rfl, hpriced⟩ := h₄
  rw [hout] at hbid hL
  exact ⟨loan, Rs, L, _, hid, rfl, rfl, ⟨rfl, rfl, hidle, hupd, hupd.thenPriced hpriced rfl,
    hpriced.index, rfl,
    rfl, rfl, .refl _, hpaid.append hrefund⟩, ⟨hto, hpos⟩, hbid, hL⟩

/-- The payments that end `redeem`: the bid goes back, and the fine to the first bidder. -/
def redeemPayments (D : Deployment) (initiator : Address) (loan : LoanData) (bidFine : ℕ) :
    List (Transfer Address Address) :=
  if loan.bidderAddress ≠ 0 then
    [⟨loan.reserveAsset, D.lendPool, loan.bidderAddress, loan.bidPrice⟩,
      ⟨loan.reserveAsset, initiator, loan.firstBidderAddress, bidFine⟩]
  else []

theorem settleRedeem_posted {loan : LoanData} {bidFine : ℕ} :
    Returns (s.settleRedeem D initiator loan bidFine)
      (fun s' => ∃ E, s' = s.withErc20 E ∧
        Posted (redeemPayments D initiator loan bidFine) s.erc20 E) := by
  unfold redeemPayments
  refine Sat.applyIf (fun hb => ?_) fun hb => ⟨_, rfl, ?_⟩
  · rw [if_pos hb]
    refine Sat.bind safeTransfer_posted fun s₁ h₁ => ?_
    obtain ⟨E, rfl, hrefund⟩ := h₁
    refine Sat.imp safeTransferFrom_posted fun s₂ h₂ => ?_
    obtain ⟨E', rfl, hfine⟩ := h₂
    exact ⟨E', rfl, hrefund.append hfine⟩
  · rw [if_neg hb]
    exact .nil _

/-- **The account of `redeem`.** -/
theorem executeRedeem_account {bidFine : ℕ} :
    Returns (s.executeRedeem D initiator nftAsset nftTokenId amount bidFine)
    (fun p => ∃ loan Rs L T fine, s.lendPoolLoan.getCollateralLoanId nftAsset nftTokenId ≠ 0 ∧
      loan = s.lendPoolLoan.loans (s.lendPoolLoan.getCollateralLoanId nftAsset nftTokenId) ∧
      Account s p.1 loan.reserveAsset Rs L T
        (credited D s.yVault loan.reserveAsset
          (s.lendPool.reserves loan.reserveAsset).uTokenAddress amount)
        (s.listingRefund D loan.nftAsset loan.nftTokenId ++
          (⟨loan.reserveAsset, initiator,
              (s.lendPool.reserves loan.reserveAsset).uTokenAddress, amount⟩ ::
            (intoVault D loan.reserveAsset
                (s.lendPool.reserves loan.reserveAsset).uTokenAddress amount ++
              redeemPayments D initiator loan fine))) ∧
      (p.2 = amount + fine ∧ fine ≤ bidFine ∧
        s.blockTimestamp ≤ s.redeemEndTimestamp loan
          (s.lendPool.nftConfig loan.nftAsset loan.nftTokenId)) ∧
      s.lendPoolLoan.redeemLoan (s.lendPoolLoan.getCollateralLoanId nftAsset nftTokenId) amount
        (Rs loan.reserveAsset).variableBorrowIndex = .ok L ∧
      Burnt D.lendPool loan.reserveAsset loan.borrower amount
        (Rs loan.reserveAsset).variableBorrowIndex s.debtTokens T) := by
  refine Returns.check fun hid => ?_
  unfold getLoan
  generalize hloan : s.lendPoolLoan.loans (s.lendPoolLoan.getCollateralLoanId nftAsset nftTokenId)
    = loan
  refine Returns.step fun _ _ => Returns.check fun hend => ?_
  refine Sat.bind updateState_posted fun s₁ h₁ => ?_
  obtain ⟨Rs, U, rfl, hupd, hidle⟩ := h₁
  refine Sat.bind (P := fun fine => fine ≤ bidFine) ?_ fun fine hfine => ?_
  · -- the fine is computed, and has to be within what the initiator allows
    refine Returns.step fun _ _ => Returns.step fun f _ => Returns.check fun hle => ?_
    refine Returns.step fun _ _ => Returns.check fun _ => Returns.step fun _ _ => ?_
    exact Returns.check fun _ => hle
  refine Returns.step fun L hL => ?_
  refine Sat.bind burnDebt_posted fun s₂ h₂ => ?_
  obtain ⟨T, rfl, hburnt⟩ := h₂
  refine Sat.bind cancelDebtListingIfExists_posted fun s₃ h₃ => ?_
  obtain ⟨M, E, rfl, hlistings, hrefund⟩ := h₃
  refine Sat.bind updateInterestRates_spec.returns fun s₄ h₄ => ?_
  obtain ⟨Rs', rfl, hpriced⟩ := h₄
  refine Sat.bind safeTransferFrom_posted fun s₅ h₅ => ?_
  obtain ⟨E₁, rfl, hpaid⟩ := h₅
  refine Sat.bind depositReserves_posted fun s₆ h₆ => ?_
  obtain ⟨E₂, rfl, hdep⟩ := h₆
  refine Sat.bind settleRedeem_posted fun s₇ h₇ => ?_
  obtain ⟨E₃, rfl, hsettle⟩ := h₇
  have hu : (Rs loan.reserveAsset).uTokenAddress
    = (s.lendPool.reserves loan.reserveAsset).uTokenAddress := hupd.uTokenAddress
  refine ⟨loan, Rs, L, T, fine, hid, rfl, ⟨rfl, rfl, hidle, hupd, hupd.thenPriced hpriced rfl,
    hpriced.index,
    rfl, rfl, ?_, hlistings, ?_⟩, ⟨rfl, hfine, hend⟩, hL, hburnt⟩
  · rw [← hu]
    rfl
  · rw [← hu]
    exact hrefund.append (hpaid.append (hdep.append hsettle))

/-! ## Liquidations and buyouts -/

/-- **The account of `liquidate`.** -/
theorem executeLiquidate_account :
    Returns (s.executeLiquidate D initiator nftAsset nftTokenId amount)
    (fun p => ∃ loan Rs L T b, s.lendPoolLoan.getCollateralLoanId nftAsset nftTokenId ≠ 0 ∧
      loan = s.lendPoolLoan.loans (s.lendPoolLoan.getCollateralLoanId nftAsset nftTokenId) ∧
      b = loan.outstanding (Rs loan.reserveAsset).variableBorrowIndex ∧
      Account s p.1 loan.reserveAsset Rs L T
        (credited D s.yVault loan.reserveAsset
          (s.lendPool.reserves loan.reserveAsset).uTokenAddress b)
        (s.listingRefund D loan.nftAsset loan.nftTokenId ++
          (onlyIf (b - loan.bidPrice > 0)
              ⟨loan.reserveAsset, initiator, D.lendPool, b - loan.bidPrice⟩ ++
            (⟨loan.reserveAsset, D.lendPool,
                (s.lendPool.reserves loan.reserveAsset).uTokenAddress, b⟩ ::
              (intoVault D loan.reserveAsset
                  (s.lendPool.reserves loan.reserveAsset).uTokenAddress b ++
                onlyIf (loan.bidPrice - b > 0)
                  ⟨loan.reserveAsset, D.lendPool, loan.borrower, loan.bidPrice - b⟩)))) ∧
      (p.2 = b - loan.bidPrice ∧ (loan.bidPrice < b → b - loan.bidPrice ≤ amount) ∧
        s.blockTimestamp > s.auctionEndTimestamp loan
          (s.lendPool.nftConfig loan.nftAsset loan.nftTokenId) + 1200) ∧
      s.lendPoolLoan.liquidateLoan (s.lendPoolLoan.getCollateralLoanId nftAsset nftTokenId) b
        = .ok L ∧
      Burnt D.lendPool loan.reserveAsset loan.borrower b
        (Rs loan.reserveAsset).variableBorrowIndex s.debtTokens T) := by
  refine Returns.check fun hid => ?_
  unfold getLoan
  generalize hloan : s.lendPoolLoan.loans (s.lendPoolLoan.getCollateralLoanId nftAsset nftTokenId)
    = loan
  refine Returns.step fun _ _ => Returns.check fun hend => ?_
  refine Sat.bind updateState_posted fun s₁ h₁ => ?_
  obtain ⟨Rs, U, rfl, hupd, hidle⟩ := h₁
  refine Sat.bind calculateLoanLiquidatePrice_spec.returns fun prices hprices => ?_
  have hout := hupd.outstanding (by exact hloan) (by rfl) (by rfl) hprices
  refine Returns.check fun hextra => ?_
  refine Sat.bind closeLoan_stored fun s₂ h₂ => ?_
  obtain ⟨L, C, N, rfl, hL⟩ := h₂
  refine Sat.bind burnDebt_posted fun s₃ h₃ => ?_
  obtain ⟨T, rfl, hburnt⟩ := h₃
  refine Sat.bind cancelDebtListingIfExists_posted fun s₄ h₄ => ?_
  obtain ⟨M, E, rfl, hlistings, hrefund⟩ := h₄
  refine Sat.bind updateInterestRates_spec.returns fun s₅ h₅ => ?_
  obtain ⟨Rs', rfl, hpriced⟩ := h₅
  -- what the bid does not cover the initiator pays, and what it exceeds the debt by goes back
  refine Sat.bind (applyIf_posted safeTransferFrom_posted) fun s₆ h₆ => ?_
  obtain ⟨E₁, rfl, hpaid⟩ := h₆
  refine Sat.bind safeTransfer_posted fun s₇ h₇ => ?_
  obtain ⟨E₂, rfl, hdebt⟩ := h₇
  refine Sat.bind depositReserves_posted fun s₈ h₈ => ?_
  obtain ⟨E₃, rfl, hdep⟩ := h₈
  refine Sat.bind (applyIf_posted safeTransfer_posted) fun s₉ h₉ => ?_
  obtain ⟨E₄, rfl, hremain⟩ := h₉
  refine Sat.bind (deliverNft_spec D).returns fun s₁₀ h₁₀ => ?_
  obtain ⟨C', rfl⟩ := h₁₀
  have hu : (Rs loan.reserveAsset).uTokenAddress
    = (s.lendPool.reserves loan.reserveAsset).uTokenAddress := hupd.uTokenAddress
  refine ⟨loan, Rs, L, T, prices.1, hid, rfl, hout,
    ⟨rfl, rfl, hidle, hupd, hupd.thenPriced hpriced rfl,
    hpriced.index, rfl, rfl, ?_, hlistings, ?_⟩, ⟨rfl, hextra, hend⟩, hL, hburnt⟩
  · rw [← hu]
    rfl
  · rw [← hu]
    exact hrefund.append (hpaid.append (hdebt.append (hdep.append hremain)))

/-- The payments with which `buyout` settles a standing bid: the bid, and as much of the fine as
remains for it. -/
def buyoutPayments (D : Deployment) (loan : LoanData) (remainAmount bidFine : ℕ) :
    List (Transfer Address Address) :=
  if loan.bidderAddress ≠ 0 then
    ⟨loan.reserveAsset, D.lendPool, loan.bidderAddress, loan.bidPrice⟩ ::
      onlyIf (bidFine ≤ remainAmount ∨ remainAmount > 0)
        ⟨loan.reserveAsset, D.lendPool, loan.firstBidderAddress, min bidFine remainAmount⟩
  else []

theorem payBidFine_posted {loan : LoanData} {remainAmount bidFine : ℕ} :
    Returns (s.payBidFine D loan remainAmount bidFine)
      (fun p => p.2 = remainAmount - bidFine ∧ ∃ E, p.1 = s.withErc20 E ∧
        Posted (onlyIf (bidFine ≤ remainAmount ∨ remainAmount > 0)
          ⟨loan.reserveAsset, D.lendPool, loan.firstBidderAddress, min bidFine remainAmount⟩)
          s.erc20 E) := by
  refine Sat.ite (fun hle => ?_) fun hlt => Sat.ite (fun hpos => ?_) fun hz => ?_
  · refine Sat.bind safeTransfer_posted fun s' hs => ?_
    obtain ⟨E, rfl, hpaid⟩ := hs
    refine ⟨rfl, E, rfl, ?_⟩
    rw [onlyIf_of (.inl hle), min_eq_left hle]
    exact hpaid
  · refine Sat.bind safeTransfer_posted fun s' hs => ?_
    obtain ⟨E, rfl, hpaid⟩ := hs
    refine ⟨by omega, E, rfl, ?_⟩
    rw [onlyIf_of (.inr hpos), min_eq_right (Nat.le_of_not_le hlt)]
    exact hpaid
  · refine ⟨by omega, _, rfl, ?_⟩
    rw [onlyIf_of_not (by omega)]
    exact .nil _

theorem settleBuyout_posted {loan : LoanData} {remainAmount bidFine : ℕ} :
    Returns (s.settleBuyout D loan remainAmount bidFine)
      (fun p => p.2 = (if loan.bidderAddress ≠ 0 then remainAmount - bidFine else remainAmount) ∧
        ∃ E, p.1 = s.withErc20 E ∧
          Posted (buyoutPayments D loan remainAmount bidFine) s.erc20 E) := by
  unfold buyoutPayments
  refine Sat.ite (fun hb => ?_) fun hb => ?_
  · rw [if_pos hb, if_pos hb]
    refine Sat.bind safeTransfer_posted fun s₁ h₁ => ?_
    obtain ⟨E, rfl, hrefund⟩ := h₁
    refine Sat.imp payBidFine_posted fun p hp => ?_
    obtain ⟨hleft, E', hp₁, hfine⟩ := hp
    exact ⟨hleft, E', hp₁, hrefund.append hfine⟩
  · rw [if_neg hb, if_neg hb]
    exact ⟨rfl, _, rfl, .nil _⟩

/-- What the price and the fine of a buyout were reckoned from: the price of the token in ether, and
the fine once the reserve is up to date. The price covers the debt. -/
structure BuyoutTerms (s s₁ : State) (onBehalfOf : Address) (loan : LoanData)
    (b price fine : ℕ) : Prop where
  upToDate : s.updateState loan.reserveAsset = .ok s₁
  priced : ∃ nftPrice discounted, s.getNFTPrice loan.nftAsset loan.nftTokenId = .ok nftPrice ∧
    percentMul nftPrice s.lockeyDiscount = .ok discounted ∧
    price = s.buyoutPrice onBehalfOf b nftPrice discounted
  covers : b ≤ price
  fine : ∃ least, s₁.calculateLoanBidFine loan.reserveAsset
    (s.lendPool.nftConfig loan.nftAsset loan.nftTokenId) loan = .ok (least, fine)

/-- **The account of `buyout`.** -/
theorem executeBuyout_account :
    Returns (s.executeBuyout D initiator nftAsset nftTokenId onBehalfOf)
    (fun s' => ∃ loan Rs L T b price fine left,
      s.lendPoolLoan.getCollateralLoanId nftAsset nftTokenId ≠ 0 ∧
      loan = s.lendPoolLoan.loans (s.lendPoolLoan.getCollateralLoanId nftAsset nftTokenId) ∧
      b = loan.outstanding (Rs loan.reserveAsset).variableBorrowIndex ∧
      left = (if loan.bidderAddress ≠ 0 then price - b - fine else price - b) ∧
      Account s s' loan.reserveAsset Rs L T
        (credited D s.yVault loan.reserveAsset
          (s.lendPool.reserves loan.reserveAsset).uTokenAddress b)
        (s.listingRefund D loan.nftAsset loan.nftTokenId ++
          (⟨loan.reserveAsset, initiator, D.lendPool, price⟩ ::
            (⟨loan.reserveAsset, D.lendPool,
                (s.lendPool.reserves loan.reserveAsset).uTokenAddress, b⟩ ::
              (intoVault D loan.reserveAsset
                  (s.lendPool.reserves loan.reserveAsset).uTokenAddress b ++
                (buyoutPayments D loan (price - b) fine ++
                  onlyIf (left ≠ 0) ⟨loan.reserveAsset, D.lendPool, loan.borrower, left⟩))))) ∧
      (∃ s₁, s.BuyoutTerms s₁ onBehalfOf loan b price fine) ∧
      s.lendPoolLoan.buyoutLoan (s.lendPoolLoan.getCollateralLoanId nftAsset nftTokenId) b
        = .ok L ∧
      Burnt D.lendPool loan.reserveAsset loan.borrower b
        (Rs loan.reserveAsset).variableBorrowIndex s.debtTokens T) := by
  refine Returns.check fun hto => Returns.check fun hid => ?_
  unfold getLoan
  generalize hloan : s.lendPoolLoan.loans (s.lendPoolLoan.getCollateralLoanId nftAsset nftTokenId)
    = loan
  refine Returns.step fun nftPrice hnft => ?_
  refine Sat.bind (updateState_posted.and (Sat.returned _)).returns fun s₁ h₁ => ?_
  obtain ⟨⟨Rs, U, rfl, hupd, hidle⟩, hreturned⟩ := h₁
  refine Returns.step fun health _ => Returns.check fun _ => ?_
  refine Sat.bind calculateLoanLiquidatePrice_spec.returns fun prices hprices => ?_
  have hout := hupd.outstanding (by exact hloan) (by rfl) (by rfl) hprices
  refine Returns.step fun fine hfine => Returns.step fun _ _ => ?_
  refine Returns.step fun discounted hdiscounted => ?_
  refine Sat.bind closeLoan_stored fun s₂ h₂ => ?_
  obtain ⟨L, C, N, rfl, hL⟩ := h₂
  refine Sat.bind burnDebt_posted fun s₃ h₃ => ?_
  obtain ⟨T, rfl, hburnt⟩ := h₃
  refine Sat.bind cancelDebtListingIfExists_posted fun s₄ h₄ => ?_
  obtain ⟨M, E, rfl, hlistings, hrefund⟩ := h₄
  refine Sat.bind updateInterestRates_spec.returns fun s₅ h₅ => ?_
  obtain ⟨Rs', rfl, hpriced⟩ := h₅
  refine Sat.bind safeTransferFrom_posted fun s₆ h₆ => ?_
  obtain ⟨E₁, rfl, hpaid⟩ := h₆
  refine Sat.bind safeTransfer_posted fun s₇ h₇ => ?_
  obtain ⟨E₂, rfl, hdebt⟩ := h₇
  refine Sat.bind depositReserves_posted fun s₈ h₈ => ?_
  obtain ⟨E₃, rfl, hdep⟩ := h₈
  -- of the price less the debt, the bid and the fine are settled, and the rest is the borrower's
  refine Sat.bind checkedSub_benign.returns fun remainAmount hremain => ?_
  obtain ⟨hcovers, rfl⟩ := hremain
  refine Sat.bind settleBuyout_posted fun p h₉ => ?_
  obtain ⟨s₉, left⟩ := p
  obtain ⟨hleft, E₄, rfl, hsettle⟩ := h₉
  refine Sat.bind (applyIf_posted safeTransfer_posted) fun s₁₀ h₁₀ => ?_
  obtain ⟨E₅, rfl, hlast⟩ := h₁₀
  refine (deliverNft_spec D).returns.imp fun s₁₁ h₁₁ => ?_
  obtain ⟨C', rfl⟩ := h₁₁
  have hu : (Rs loan.reserveAsset).uTokenAddress
    = (s.lendPool.reserves loan.reserveAsset).uTokenAddress := hupd.uTokenAddress
  refine ⟨loan, Rs, L, T, prices.1, _, fine.2, left, hid, rfl, hout, hleft,
    ⟨rfl, rfl, hidle, hupd, hupd.thenPriced hpriced rfl, hpriced.index, rfl, rfl, ?_,
      hlistings, ?_⟩,
    ⟨_, hreturned, ⟨nftPrice, discounted, hnft, hdiscounted, rfl⟩, hcovers, fine.1, hfine⟩, hL,
    hburnt⟩
  · rw [← hu]
    rfl
  · rw [← hu]
    exact hrefund.append (hpaid.append (hdebt.append (hdep.append (hsettle.append hlast))))

end State

end Unlockd
