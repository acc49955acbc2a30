/-
A listing does not stand in the way of its loan.

The pool cancels the listing of a loan inside borrowing, repaying, redeeming, liquidating and
buying out. Cancelling reads and writes the market and the balances of the reserve assets
and nothing else, and what the pool does before it reads and writes neither, so the
two can change places: each operation does exactly what it would have done had the listing
been cancelled first. It remains that the cancellation goes through, which the invariant of
the books gives for a market that is not paused and a refund that needs no allowance.
-/
import Unlockd.Solvency

set_option autoImplicit false

namespace Unlockd

open Outcome Registry LendPoolLoan DebtMarket

/-- A holder of WETH needs no allowance for its own tokens. -/
theorem Erc20.transferFrom_own {e : Erc20} {holder : Address} (dst : Address) {amount : ℕ}
    (hk : e.kind = .weth9) (hle : amount ≤ e.balanceOf holder) :
    e.transferFrom holder holder dst amount = .ok (e.move holder dst amount) := by
  have hkind : e.kind ≠ .openZeppelin := by rw [hk]; decide
  have hmoved : e._transfer holder dst amount = .ok (e.move holder dst amount) := by
    rw [_transfer, require_of fun h => absurd h hkind, ok_bind, require_of hle]
    rfl
  rw [transferFrom, hmoved]
  exact if_pos ⟨hk, .inl rfl⟩

namespace DebtMarket

variable {M : DebtMarket} {nftAsset : Address} {tokenId : ℕ}

/-- The counters of an open listing are positive. -/
theorem Listings.counted (h : M.Listings) (hid : M.getDebtId nftAsset tokenId ≠ 0) :
    1 ≤ M.userTotalDebtByCollection
      (M.marketListings (M.getDebtId nftAsset tokenId)).debtor nftAsset ∧
      1 ≤ M.totalDebtsByCollection nftAsset := by
  obtain ⟨hheld, -, ha, -⟩ := h.held hid
  have hmember := h.kept.one_le_perMember hheld
  have hgroup := h.kept.one_le_perGroup hheld
  rw [show DebtMarketListing.filing.group _ = nftAsset from ha] at hmember hgroup
  exact ⟨hmember, hgroup⟩

/-- The modifier lets through whoever names a token with an open listing. -/
theorem debtShouldExistGuard_ok (h : M.Listings) (hid : M.getDebtId nftAsset tokenId ≠ 0) :
    M.debtShouldExistGuard nftAsset tokenId = .ok ⟨⟩ := by
  obtain ⟨hmember, hgroup⟩ := h.counted hid
  exact require_bind_eq_ok.mpr ⟨hid, require_bind_eq_ok.mpr ⟨hmember, require_of hgroup⟩⟩

/-- A listing overwritten in the name of the same debtor can be deleted. -/
theorem _deleteDebtOfferListing_ok (h : M.Listings) (hid : M.getDebtId nftAsset tokenId ≠ 0)
    {d : DebtMarketListing}
    (hdebtor : d.debtor = (M.marketListings (M.getDebtId nftAsset tokenId)).debtor) :
    ∃ M', (M.setListing (M.getDebtId nftAsset tokenId) d)._deleteDebtOfferListing nftAsset tokenId
      = .ok M' := by
  obtain ⟨hmember, hgroup⟩ := h.counted hid
  have hself : ((M.setListing (M.getDebtId nftAsset tokenId) d).marketListings
      (M.getDebtId nftAsset tokenId)).debtor
      = (M.marketListings (M.getDebtId nftAsset tokenId)).debtor := by
    rw [setListing_self, hdebtor]
  refine ⟨_, bind_eq_ok.mpr ⟨_, checkedSub_eq_ok.mpr ⟨?_, rfl⟩, bind_eq_ok.mpr
    ⟨_, checkedSub_eq_ok.mpr ⟨hgroup, rfl⟩, rfl⟩⟩⟩
  exact hmember.trans_eq (congrArg (M.userTotalDebtByCollection · nftAsset) hself.symm)

/-- Its debtor and every authorised caller can cancel an open listing. -/
theorem cancelDebtListing_ok {caller : Address} (h : M.Listings)
    (hid : M.getDebtId nftAsset tokenId ≠ 0)
    (hcaller : (M.marketListings (M.getDebtId nftAsset tokenId)).debtor = caller ∨
      M.isAuthorizedAddress caller = true) :
    ∃ M', M.cancelDebtListing caller nftAsset tokenId = .ok M' ∧
      (M'.marketListings (M.getDebtId nftAsset tokenId)).state = .Canceled := by
  have hunsold : (M.marketListings (M.getDebtId nftAsset tokenId)).state ≠ .Sold := by
    intro hs
    rcases (h.held hid).2.1 with ho | ho <;> rw [hs] at ho <;> cases ho
  obtain ⟨M', hM'⟩ := _deleteDebtOfferListing_ok h hid
    (d := { M.marketListings (M.getDebtId nftAsset tokenId) with state := .Canceled }) rfl
  refine ⟨M', require_bind_eq_ok.mpr ⟨hcaller, require_bind_eq_ok.mpr ⟨hunsold, hM'⟩⟩, ?_⟩
  rw [_deleteDebtOfferListing_listings hM', setListing_self]

end DebtMarket

namespace State

variable {D : Deployment} {s s₀ : State} {nftAsset : Address} {tokenId : ℕ}

/-! ## Work that does not look at the market -/

/-- The state with another market and other balances of the reserve assets. -/
def withMarket (s : State) (M : DebtMarket) (E : Address → Erc20) : State :=
  { s with debtMarket := M, erc20 := E }

/-- The computation neither reads nor writes the market and the reserve assets. -/
def MarketBlind (f : State → Except Error State) : Prop :=
  ∀ s M E, f (s.withMarket M E) = (fun s' : State => s'.withMarket M E) <$> f s

theorem MarketBlind.bind {f : State → Except Error State} (hf : MarketBlind f) (s : State)
    (M : DebtMarket) (E : Address → Erc20) {β : Type} (g : State → Except Error β) :
    (f (s.withMarket M E) >>= g) = (f s >>= fun s' => g (s'.withMarket M E)) := by
  rw [hf s M E, bind_map_left]

/-- Such a computation keeps both. -/
theorem MarketBlind.keeps {f : State → Except Error State} (hf : MarketBlind f) {s s' : State}
    (h : f s = .ok s') : s' = s'.withMarket s.debtMarket s.erc20 := by
  have hs := hf s s.debtMarket s.erc20
  rw [show s.withMarket s.debtMarket s.erc20 = s from rfl, h] at hs
  exact Except.ok.inj hs

theorem updateState_blind (asset : Address) : MarketBlind fun s => s.updateState asset := by
  intro s M E
  simp only [updateState, _mintToTreasury, map_bind]
  rfl

theorem setLendPoolLoan_blind (L : LendPoolLoan) :
    MarketBlind fun s => .ok (s.setLendPoolLoan L) := fun _ _ _ => rfl

theorem burnDebt_blind (caller reserve user : Address) (amount index : ℕ) :
    MarketBlind fun s => s.burnDebt caller reserve user amount index := by
  intro s M E
  simp only [burnDebt, map_bind]
  rfl

theorem closeLoan_blind (D : Deployment) (caller : Address) (loanId : ℕ)
    (storage : LendPoolLoan → Except Error LendPoolLoan) :
    MarketBlind fun s => s.closeLoan D caller loanId storage := by
  intro s M E
  simp only [closeLoan, releaseNft, burnUNft, safeTransferNft, map_bind, bind_assoc]
  rfl

/-! ## Cancelling in another place -/

/-- Cancelling reads and writes nothing but the market and the reserve assets. -/
theorem cancelDebtListing_withMarket (D : Deployment) (s t : State) (caller nftAsset : Address)
    (tokenId : ℕ) : (t.withMarket s.debtMarket s.erc20).cancelDebtListing D caller nftAsset tokenId
      = (fun s' : State => t.withMarket s'.debtMarket s'.erc20) <$>
        s.cancelDebtListing D caller nftAsset tokenId := by
  simp only [cancelDebtListing, map_bind, applyIf]
  refine bind_congr fun _ => bind_congr fun _ => bind_congr fun M => ?_
  by_cases hb : (s.debtMarket.marketListings
      (s.debtMarket.nftToDebtIds nftAsset tokenId)).bidderAddress ≠ 0
  · refine (if_pos hb).trans ?_
    rw [if_pos hb]
    simp only [returnBidFunds, safeTransferFrom, map_bind]
    rfl
  · refine (if_neg hb).trans ?_
    rw [if_neg hb]
    rfl

/-- The pool has cancelled the listing on the token: `s₀` is what `s` has become. -/
def Delisted (D : Deployment) (nftAsset : Address) (tokenId : ℕ) (s s₀ : State) : Prop :=
  s.cancelDebtListing D D.lendPool nftAsset tokenId = .ok s₀

/-- There was a listing, and it is gone. -/
theorem Delisted.getDebtId (h : Delisted D nftAsset tokenId s s₀) :
    s.debtMarket.getDebtId nftAsset tokenId ≠ 0 ∧ s₀.debtMarket.getDebtId nftAsset tokenId = 0 := by
  obtain ⟨-, h⟩ := require_bind_eq_ok.mp h
  obtain ⟨_, hguard, h⟩ := bind_eq_ok.mp h
  obtain ⟨M, hM, h⟩ := bind_eq_ok.mp h
  refine ⟨debtShouldExistGuard_spec.ok hguard, ?_⟩
  have hgone : M.getDebtId nftAsset tokenId = 0 := by
    obtain ⟨-, hM⟩ := require_bind_eq_ok.mp hM
    obtain ⟨-, hM⟩ := require_bind_eq_ok.mp hM
    obtain ⟨_, -, hM⟩ := bind_eq_ok.mp hM
    obtain ⟨_, -, hM⟩ := bind_eq_ok.mp hM
    obtain rfl := Except.ok.inj hM
    exact update₂_self _ _ _ _
  -- the refund, if there is one, does not touch the market's storage
  unfold applyIf at h
  split at h
  · obtain ⟨E, rfl, -, -⟩ := safeTransferFrom_spec.ok h
    exact hgone
  · obtain rfl := Except.ok.inj h
    exact hgone

/-- Whatever neither reads nor writes the market can be done before as well as after. -/
theorem Delisted.after {f : State → Except Error State} (hf : MarketBlind f) {s₁ : State}
    (h : Delisted D nftAsset tokenId s s₀) (h₁ : f s = .ok s₁) :
    Delisted D nftAsset tokenId s₁ (s₁.withMarket s₀.debtMarket s₀.erc20) := by
  have hs := hf.keeps h₁
  unfold Delisted at h ⊢
  conv_lhs => rw [hs]
  rw [cancelDebtListing_withMarket, h]
  rfl

/-- Where there is a listing the pool cancels it. -/
theorem Delisted.ifExists (h : Delisted D nftAsset tokenId s s₀) :
    s.cancelDebtListingIfExists D D.lendPool nftAsset tokenId = .ok s₀ :=
  (if_pos h.getDebtId.1).trans h

/-- Where it has been cancelled the pool does nothing. -/
theorem Delisted.ifExists_again (h : Delisted D nftAsset tokenId s s₀) :
    s₀.cancelDebtListingIfExists D D.lendPool nftAsset tokenId = .ok s₀ :=
  if_neg (not_not.mpr h.getDebtId.2)

/-- What follows the cancellation finds the same state, whether the listing was there or had been
cancelled first. -/
theorem Delisted.bind_eq (h : Delisted D nftAsset tokenId s s₀) {β : Type}
    (g : State → Except Error β) :
    (s.cancelDebtListingIfExists D D.lendPool nftAsset tokenId >>= g)
      = (s₀.cancelDebtListingIfExists D D.lendPool nftAsset tokenId >>= g) := by
  rw [h.ifExists, h.ifExists_again]

/-- Cancelling writes the market and the reserve assets. -/
theorem Delisted.eq_withMarket (h : Delisted D nftAsset tokenId s s₀) :
    s₀ = s.withMarket s₀.debtMarket s₀.erc20 := by
  have hs := cancelDebtListing_withMarket D s s D.lendPool nftAsset tokenId
  rw [show s.withMarket s.debtMarket s.erc20 = s from rfl, h] at hs
  exact Except.ok.inj hs

/-- **Changing places.** A computation that begins with work blind to the market comes to the same
from both states, if what follows comes to the same from both states after that work. -/
theorem Delisted.step (h : Delisted D nftAsset tokenId s s₀) {f : State → Except Error State}
    (hf : MarketBlind f) {β : Type} {g : State → Except Error β}
    (hg : ∀ s₁, Delisted D nftAsset tokenId s₁ (s₁.withMarket s₀.debtMarket s₀.erc20) →
      g s₁ = g (s₁.withMarket s₀.debtMarket s₀.erc20)) :
    (f s >>= g) = (f (s.withMarket s₀.debtMarket s₀.erc20) >>= g) := by
  rw [hf.bind]
  exact bind_congr_ok fun s₁ h₁ => hg s₁ (h.after hf h₁)

/-! ## The cancellation goes through -/

/-- What the pool's cancellation of the listing on a token leaves: the listing is cancelled, and
the bidder, if there is one, has its bid back. -/
structure Refunded (D : Deployment) (s s₀ : State) (debtId : ℕ) : Prop where
  state : (s₀.debtMarket.marketListings debtId).state = .Canceled
  paid : (s.debtMarket.marketListings debtId).bidderAddress ≠ 0 →
    Paid (s.debtMarket.marketListings debtId).reserveAsset D.debtMarket
      (s.debtMarket.marketListings debtId).bidderAddress
        (s.debtMarket.marketListings debtId).bidPrice
      s.erc20 s₀.erc20
  unpaid : (s.debtMarket.marketListings debtId).bidderAddress = 0 → s₀.erc20 = s.erc20

/-- **The cancellation goes through**, when the market is not paused and the refund needs no
allowance: the market holds the bid, and the counters of the listing are positive. -/
theorem exists_delisted (h : Books D s) (hid : s.debtMarket.getDebtId nftAsset tokenId ≠ 0)
    (hauthorized : s.debtMarket.isAuthorizedAddress D.lendPool = true)
    (hpaused : s.debtMarket.paused = false)
    (hrefund :
      (s.debtMarket.marketListings (s.debtMarket.getDebtId nftAsset tokenId)).bidderAddress = 0 ∨
      (s.erc20 (s.debtMarket.marketListings
        (s.debtMarket.getDebtId nftAsset tokenId)).reserveAsset).kind = .weth9) :
    ∃ s₀, Delisted D nftAsset tokenId s s₀ ∧
      Refunded D s s₀ (s.debtMarket.getDebtId nftAsset tokenId) := by
  obtain ⟨hheld, hopen, -, -⟩ := h.listings.held hid
  obtain ⟨M, hM, hstate⟩ := DebtMarket.cancelDebtListing_ok h.listings hid (.inr hauthorized)
  have hguard := debtShouldExistGuard_ok h.listings hid
  generalize hd : s.debtMarket.marketListings (s.debtMarket.getDebtId nftAsset tokenId) = d at *
  by_cases hb : d.bidderAddress = 0
  · -- nobody has bid, so nothing is paid
    refine ⟨s.setDebtMarket M, ?_, hstate, fun hne => absurd hb (hd ▸ hne), fun _ => rfl⟩
    refine require_bind_eq_ok.mpr ⟨hpaused, bind_eq_ok.mpr ⟨_, hguard, bind_eq_ok.mpr ⟨M, hM, ?_⟩⟩⟩
    exact if_neg fun hne => absurd hb (hd ▸ hne)
  · -- the market holds what the open listings hold, and so the bid on this one
    have hkind := hrefund.resolve_left hb
    have hle := (h.listings.coherent.weight_le (DebtMarketListing.escrow d.reserveAsset)
      hheld).trans
      (h.marketSolvent d.reserveAsset)
    rw [DebtMarketListing.escrow_of_open hopen hb, due_self] at hle
    have hpay := Erc20.transferFrom_own d.bidderAddress hkind hle
    refine ⟨(s.setDebtMarket M).setErc20 d.reserveAsset
      ((s.erc20 d.reserveAsset).move D.debtMarket d.bidderAddress d.bidPrice), ?_, hstate,
      fun _ => ?_, fun hz => absurd (hd ▸ hz) hb⟩
    · refine require_bind_eq_ok.mpr ⟨hpaused, bind_eq_ok.mpr ⟨_, hguard,
        bind_eq_ok.mpr ⟨M, hM, ?_⟩⟩⟩
      refine (if_pos fun hz => absurd (hd ▸ hz) hb).trans ?_
      rw [show s.debtMarket.marketListings (s.debtMarket.nftToDebtIds nftAsset tokenId) = d from hd]
      exact bind_eq_ok.mpr ⟨_, hpay, rfl⟩
    · rw [hd]
      exact paid_update (Erc20.move_moved hle)

/-! ## The operations of the pool -/

/-- Repaying is the same with the listing as with the listing cancelled first. -/
theorem Delisted._repay_eq (h : Delisted D nftAsset tokenId s s₀) (initiator : Address)
    (amount : ℕ) :
    s._repay D initiator nftAsset tokenId amount
      = s₀._repay D initiator nftAsset tokenId amount := by
  rw [h.eq_withMarket]
  refine bind_congr_ok fun _ _ => ?_
  refine h.step (updateState_blind _) fun s₁ h₁ => ?_
  refine bind_congr_ok fun b _ => bind_congr_ok fun _ _ => ?_
  exact h₁.bind_eq _

/-- Redeeming, liquidating and buying out name the token by the loan found under it. -/
theorem Delisted.ofLoan (h : Delisted D nftAsset tokenId s s₀) (hL : s.lendPoolLoan.Loans)
    (hid : s.lendPoolLoan.getCollateralLoanId nftAsset tokenId ≠ 0) :
    Delisted D
      (s.lendPoolLoan.getLoan (s.lendPoolLoan.getCollateralLoanId nftAsset tokenId)).nftAsset
      (s.lendPoolLoan.getLoan (s.lendPoolLoan.getCollateralLoanId nftAsset tokenId)).nftTokenId
      s s₀ := by
  obtain ⟨-, -, ha, ht⟩ := hL.held hid
  rw [getLoan, ha, ht]
  exact h

/-- Redeeming is the same with the listing as with the listing cancelled first. -/
theorem Delisted.executeRedeem_eq (h : Delisted D nftAsset tokenId s s₀) (hL : s.lendPoolLoan.Loans)
    (hid : s.lendPoolLoan.getCollateralLoanId nftAsset tokenId ≠ 0) (initiator : Address)
    (amount bidFine : ℕ) :
    s.executeRedeem D initiator nftAsset tokenId amount bidFine
      = s₀.executeRedeem D initiator nftAsset tokenId amount bidFine := by
  have h := h.ofLoan hL hid
  rw [h.eq_withMarket]
  refine bind_congr_ok fun _ _ => bind_congr_ok fun _ _ => bind_congr_ok fun _ _ => ?_
  refine h.step (updateState_blind _) fun s₁ h₁ => ?_
  refine bind_congr_ok fun fine _ => bind_congr_ok fun L _ => ?_
  refine (h₁.after (setLendPoolLoan_blind L) rfl).step (burnDebt_blind _ _ _ _ _) fun s₂ h₂ => ?_
  exact h₂.bind_eq _

/-- So is liquidating. -/
theorem Delisted.executeLiquidate_eq (h : Delisted D nftAsset tokenId s s₀)
    (hL : s.lendPoolLoan.Loans) (hid : s.lendPoolLoan.getCollateralLoanId nftAsset tokenId ≠ 0)
    (initiator : Address) (amount : ℕ) :
    s.executeLiquidate D initiator nftAsset tokenId amount
      = s₀.executeLiquidate D initiator nftAsset tokenId amount := by
  have h := h.ofLoan hL hid
  rw [h.eq_withMarket]
  refine bind_congr_ok fun _ _ => bind_congr_ok fun _ _ => bind_congr_ok fun _ _ => ?_
  refine h.step (updateState_blind _) fun s₁ h₁ => ?_
  refine bind_congr_ok fun prices _ => bind_congr_ok fun _ _ => ?_
  refine h₁.step (closeLoan_blind D _ _ _) fun s₂ h₂ => ?_
  refine h₂.step (burnDebt_blind _ _ _ _ _) fun s₃ h₃ => ?_
  exact h₃.bind_eq _

/-- So is buying out. -/
theorem Delisted.executeBuyout_eq (h : Delisted D nftAsset tokenId s s₀)
    (hL : s.lendPoolLoan.Loans) (hid : s.lendPoolLoan.getCollateralLoanId nftAsset tokenId ≠ 0)
    (initiator onBehalfOf : Address) :
    s.executeBuyout D initiator nftAsset tokenId onBehalfOf
      = s₀.executeBuyout D initiator nftAsset tokenId onBehalfOf := by
  have h := h.ofLoan hL hid
  rw [h.eq_withMarket]
  refine bind_congr_ok fun _ _ => bind_congr_ok fun _ _ => bind_congr_ok fun nftPrice _ => ?_
  refine h.step (updateState_blind _) fun s₁ h₁ => ?_
  refine bind_congr_ok fun health _ => bind_congr_ok fun _ _ => bind_congr_ok fun prices _ => ?_
  refine bind_congr_ok fun fine _ => bind_congr_ok fun _ _ => bind_congr_ok fun discount _ => ?_
  refine h₁.step (closeLoan_blind D _ _ _) fun s₂ h₂ => ?_
  refine h₂.step (burnDebt_blind _ _ _ _ _) fun s₃ h₃ => ?_
  exact h₃.bind_eq _

/-- So is adding to the loan there is. -/
theorem Delisted.borrowOnLoan_eq (h : Delisted D nftAsset tokenId s s₀)
    (hid : s.lendPoolLoan.getCollateralLoanId nftAsset tokenId ≠ 0) (initiator asset : Address)
    (amount : ℕ) (onBehalfOf : Address) :
    s.borrowOnLoan D initiator asset amount nftAsset tokenId onBehalfOf
      = (s.withMarket s₀.debtMarket s₀.erc20).borrowOnLoan D initiator asset amount nftAsset tokenId
        onBehalfOf := by
  refine (if_neg hid).trans (Eq.trans ?_ (if_neg hid).symm)
  refine bind_congr_ok fun L _ => ?_
  have hL := h.after (setLendPoolLoan_blind L) rfl
  exact hL.ifExists.trans hL.ifExists_again.symm

/-- So is borrowing on it. -/
theorem Delisted._borrow_eq (h : Delisted D nftAsset tokenId s s₀)
    (hid : s.lendPoolLoan.getCollateralLoanId nftAsset tokenId ≠ 0) (initiator asset : Address)
    (amount : ℕ) (onBehalfOf : Address) :
    s._borrow D initiator asset amount nftAsset tokenId onBehalfOf
      = s₀._borrow D initiator asset amount nftAsset tokenId onBehalfOf := by
  rw [h.eq_withMarket]
  refine bind_congr_ok fun _ _ => ?_
  rw [(updateState_blind asset).bind]
  refine bind_congr_ok fun s₁ hs₁ => ?_
  have h₁ := h.after (updateState_blind asset) hs₁
  obtain ⟨Rs, U, rfl, -⟩ := updateState_spec.ok hs₁
  refine bind_congr_ok fun _ _ => bind_congr_ok fun available _ => bind_congr_ok fun _ _ => ?_
  exact congrArg (· >>= _) (h₁.borrowOnLoan_eq hid initiator asset amount onBehalfOf)

/-- The pause of the pool is the same before and after. -/
theorem Delisted.whenNotPaused_eq (h : Delisted D nftAsset tokenId s s₀) {x y : Except Error State}
    (hxy : x = y) : s.whenNotPaused x = s₀.whenNotPaused y := by
  rw [h.eq_withMarket, hxy]
  rfl

end State

/-- The operations of the pool on the loan of a token that cancel its listing. -/
def Call.Cancels {D : Deployment} (nftAsset : Address) (tokenId : ℕ) : Call D → Prop
  | .borrow _ _ a t _ => a = nftAsset ∧ t = tokenId
  | .repay a t _ => a = nftAsset ∧ t = tokenId
  | .redeem a t _ _ => a = nftAsset ∧ t = tokenId
  | .liquidate a t _ => a = nftAsset ∧ t = tokenId
  | .buyout a t _ => a = nftAsset ∧ t = tokenId
  | _ => False

section Cancels

variable {D : Deployment} {s s₀ : State} {nftAsset : Address} {tokenId : ℕ}

/-- **Nothing depends on the listing.** Each operation on a loan gives the same result or the same
error as if its listing had been cancelled first. -/
theorem State.Delisted.perform_eq (h : State.Delisted D nftAsset tokenId s s₀)
    (hL : s.lendPoolLoan.Loans) (hid : s.lendPoolLoan.getCollateralLoanId nftAsset tokenId ≠ 0)
    (sender : Address) {c : Call D} (hc : c.Cancels nftAsset tokenId) :
    s.perform D sender c = s₀.perform D sender c := by
  cases c with
  | borrow asset amount a t onBehalfOf =>
    obtain ⟨rfl, rfl⟩ := hc
    exact h.whenNotPaused_eq (h._borrow_eq hid sender asset amount onBehalfOf)
  | repay a t amount =>
    obtain ⟨rfl, rfl⟩ := hc
    exact h.whenNotPaused_eq (congrArg _ (h._repay_eq sender amount))
  | redeem a t amount bidFine =>
    obtain ⟨rfl, rfl⟩ := hc
    exact h.whenNotPaused_eq (congrArg _ (h.executeRedeem_eq hL hid sender amount bidFine))
  | liquidate a t amount =>
    obtain ⟨rfl, rfl⟩ := hc
    exact h.whenNotPaused_eq (congrArg _ (h.executeLiquidate_eq hL hid sender amount))
  | buyout a t onBehalfOf =>
    obtain ⟨rfl, rfl⟩ := hc
    exact h.whenNotPaused_eq (h.executeBuyout_eq hL hid sender onBehalfOf)
  | _ => exact hc.elim

/-- **An open listing does not block its loan.** While the market is not paused, and for a listing
without a bid or one whose bid is in a token that needs no allowance for its holder, the pool's
cancellation goes through and refunds the bidder, and each operation on the loan gives the same
result or the same error as if the listing had been cancelled first. -/
theorem listing_never_blocks (hr : Reachable D (anyAction D) s) {d : ℕ}
    (hd : d ∈ Finset.Ico 1 (s.debtMarket.debtIdTracker + 1))
    (hopen : (s.debtMarket.marketListings d).isOpen)
    (hauthorized : s.debtMarket.isAuthorizedAddress D.lendPool = true)
    (hpaused : s.debtMarket.paused = false)
    (hrefund : (s.debtMarket.marketListings d).bidderAddress = 0 ∨
      (s.erc20 (s.debtMarket.marketListings d).reserveAsset).kind = .weth9) :
    ∃ s₀, s.cancelDebtListing D D.lendPool (s.debtMarket.marketListings d).nftAsset
        (s.debtMarket.marketListings d).tokenId = .ok s₀ ∧
      State.Refunded D s s₀ d ∧
      ∀ sender c, Call.Cancels (s.debtMarket.marketListings d).nftAsset
        (s.debtMarket.marketListings d).tokenId c →
          s.perform D sender c = s₀.perform D sender c := by
  have h := Reachable.books hr
  have hne : d ≠ 0 := Nat.ne_of_gt (Finset.mem_Ico.mp hd).1
  have hix := (h.listings.coherent.index_iff (s.debtMarket.marketListings d).key d hne).mpr
    ⟨hd, hopen, rfl⟩
  have hdebt : s.debtMarket.getDebtId (s.debtMarket.marketListings d).nftAsset
      (s.debtMarket.marketListings d).tokenId = d := hix
  obtain ⟨l, hl, -⟩ := h.matched _ _ (h.listings.coherent.held_of_live hd hopen)
  obtain ⟨s₀, hdel, href⟩ := State.exists_delisted h (hdebt.trans_ne hne) hauthorized hpaused
    (by rw [hdebt]; exact hrefund)
  rw [hdebt] at href
  refine ⟨s₀, hdel, href, fun sender c hc => ?_⟩
  exact hdel.perform_eq h.loans (held_eq_some.mp hl).1 sender hc

/-- In the small deployment, with a bid on the listing and its loan in auction, the listing does
not matter to a redemption. -/
theorem listing_never_blocks_sample :
    ∃ s₀, State.sampleBusy.cancelDebtListing .sample 1 40 7 = .ok s₀ ∧
      State.Refunded .sample State.sampleBusy s₀ 1 ∧ ∀ amount bidFine,
        State.sampleBusy.perform .sample 100 (.redeem 40 7 amount bidFine)
          = s₀.perform .sample 100 (.redeem 40 7 amount bidFine) := by
  obtain ⟨s₀, hcancel, hrefunded, hsame⟩ := listing_never_blocks (D := .sample)
    (Reachable.any sampleBusy_noSale) (d := 1) (by decide +kernel) (by decide +kernel)
    (by decide +kernel) (by decide +kernel) (by decide +kernel)
  have ha : (State.sampleBusy.debtMarket.marketListings 1).nftAsset = 40 := by decide +kernel
  have ht : (State.sampleBusy.debtMarket.marketListings 1).tokenId = 7 := by decide +kernel
  rw [ha, ht] at hcancel hsame
  exact ⟨s₀, hcancel, hrefunded, fun amount bidFine => hsame 100 _ ⟨rfl, rfl⟩⟩

/-- A debt is listed, without a bid, and the market is paused. -/
def State.samplePaused : State :=
  (State.sample .openZeppelin).after .sample
    (sampleSetup 1000 ++ sampleListing ++ [.configure (.setMarketPause true)])

/-- A debt is listed, with a bid in a token whose `transferFrom` always consumes allowance. -/
def State.sampleUnallowed : State :=
  (State.sample .openZeppelin).after .sample (sampleSetup 1000 ++ sampleListing ++ sampleBid)

/-- The same loan, never listed, while the market is paused. -/
def State.sampleUnlisted : State :=
  (State.sample .openZeppelin).after .sample
    (sampleSetup 1000 ++ sampleListing.take 2 ++ [.configure (.setMarketPause true)])

/-- Listing 1 is open on token 7 of collection 40, and the pool may cancel it. -/
def State.Listed (s : State) : Prop :=
  (s.debtMarket.marketListings 1).isOpen ∧ (s.debtMarket.marketListings 1).key = (40, 7) ∧
    s.debtMarket.isAuthorizedAddress Deployment.sample.lendPool = true

instance (s : State) : Decidable s.Listed := inferInstanceAs (Decidable (_ ∧ _))

/-- The error of the pool's cancellation, and of a repayment of 10 WAD. -/
def State.cancelAndRepay (s : State) : Option Error × Option Error :=
  (raised (s.cancelDebtListing .sample Deployment.sample.lendPool 40 7),
    raised (s.perform .sample 100 (.repay 40 7 (10 * WAD))))

/-- In two ways a listing can block its loan: the market is paused, or a bid on it cannot be given
back for want of an allowance. Without the listing the repayment goes through. -/
theorem listing_can_block :
    (Reachable .sample (anyAction .sample) State.samplePaused ∧ State.samplePaused.Listed ∧
      State.samplePaused.cancelAndRepay = (some .DM_IS_PAUSED, some .DM_IS_PAUSED)) ∧
    (Reachable .sample (anyAction .sample) State.sampleUnallowed ∧ State.sampleUnallowed.Listed ∧
      State.sampleUnallowed.debtMarket.paused = false ∧
      State.sampleUnallowed.cancelAndRepay
        = (some .insufficientAllowance, some .insufficientAllowance)) ∧
    raised (State.sampleUnlisted.perform .sample 100 (.repay 40 7 (10 * WAD))) = none := by
  have hreach : ∀ actions, Reachable .sample (anyAction .sample)
      ((State.sample .openZeppelin).after .sample actions) := fun actions =>
    Reachable.after (.start (State.sample_genesis .openZeppelin)) actions fun _ _ _ => trivial
  exact ⟨⟨hreach _, by decide +kernel, by decide +kernel⟩,
    ⟨hreach _, by decide +kernel, by decide +kernel, by decide +kernel⟩, by decide +kernel⟩

end Cancels

end Unlockd
