/-
`DebtMarket.sol`: listings of debt positions, bids on them, and the three ways to sell one.

A borrower lists the debt of a loan at a fixed price, for auction, or both. Whoever buys
it takes over the loan: the seller's debt is burnt, the same debt is minted to the buyer,
and the receipt of the collateral changes hands. Bids of all listings are kept in the
one balance of the contract.

Like the loans, the listings are a cabinet, and `ListingMove` says of a call which
listing it took out and which it put in.
-/
import Unlockd.LendPoolLoan

set_option autoImplicit false

namespace Unlockd

open Outcome Registry Cabinet

namespace DebtMarket

variable (M : DebtMarket)

def getDebtId (nftAsset : Address) (tokenId : ℕ) : ℕ := M.nftToDebtIds nftAsset tokenId

def setListing (debtId : ℕ) (d : DebtMarketListing) : DebtMarket :=
  { M with marketListings := Function.update M.marketListings debtId d }

/-- The modifier `debtShouldExistGuard`. -/
def debtShouldExistGuard (nftAsset : Address) (tokenId : ℕ) : Except Error Unit := do
  let debtId := M.nftToDebtIds nftAsset tokenId
  require (debtId ≠ 0) Error.DM_DEBT_SHOULD_EXIST
  require (1 ≤ M.userTotalDebtByCollection (M.marketListings debtId).debtor nftAsset)
    Error.DM_DEBT_SHOULD_EXIST
  require (1 ≤ M.totalDebtsByCollection nftAsset) Error.DM_DEBT_SHOULD_EXIST

/-- `_createDebt`, for the loan found under the token. -/
def _createDebt (nftAsset : Address) (tokenId sellPrice : ℕ) (onBehalfOf : Address)
    (loan : LoanData) : Except Error DebtMarket := do
  require (onBehalfOf ≠ 0) Error.VL_INVALID_ONBEHALFOF_ADDRESS
  let debtId := M.debtIdTracker + 1
  return { M with
    debtIdTracker := debtId
    nftToDebtIds := update₂ M.nftToDebtIds nftAsset tokenId debtId
    marketListings := Function.update M.marketListings debtId { M.marketListings debtId with
      debtId := debtId
      nftAsset := nftAsset
      tokenId := tokenId
      debtor := onBehalfOf
      sellPrice := sellPrice
      reserveAsset := loan.reserveAsset
      scaledAmount := loan.scaledAmount
      state := .New }
    userTotalDebtByCollection := update₂ M.userTotalDebtByCollection onBehalfOf nftAsset
      (M.userTotalDebtByCollection onBehalfOf nftAsset + 1)
    totalDebtsByCollection := Function.update M.totalDebtsByCollection nftAsset
      (M.totalDebtsByCollection nftAsset + 1) }

/-- The sell type `createDebtListing` stores: what was there unless it is an auction. -/
def sellTypeFor (stored : DebtMarketType) (isValidFixedPriceType isValidAuctionType : Prop)
    [Decidable isValidFixedPriceType] [Decidable isValidAuctionType] : DebtMarketType :=
  if isValidFixedPriceType ∧ isValidAuctionType then .Mixed
  else if isValidAuctionType then .Auction
  else stored

/-- The part of `createDebtListing` behind the modifiers, storage. -/
def createDebtListing (nftAsset : Address) (tokenId sellPrice : ℕ) (onBehalfOf : Address)
    (startBiddingPrice auctionEndTimestamp blockTimestamp : ℕ) (loan : LoanData) :
    Except Error DebtMarket := do
  let isValidAuctionType := startBiddingPrice ≠ 0 ∧ auctionEndTimestamp ≠ 0
  let isValidFixedPriceType := sellPrice ≠ 0
  require (isValidFixedPriceType ∨ isValidAuctionType) Error.DM_INVALID_AMOUNT
  let M ← M._createDebt nftAsset tokenId sellPrice onBehalfOf loan
  let debtId := M.nftToDebtIds nftAsset tokenId
  let listing := M.marketListings debtId
  require (isValidAuctionType → blockTimestamp ≤ auctionEndTimestamp) Error.DM_AUCTION_ALREADY_ENDED
  return M.setListing debtId { listing with
    auctionEndTimestamp := auctionEndTimestamp
    startBiddingPrice := startBiddingPrice
    sellType := sellTypeFor listing.sellType isValidFixedPriceType isValidAuctionType }

/-- `_deleteDebtOfferListing`. -/
def _deleteDebtOfferListing (nftAsset : Address) (tokenId : ℕ) : Except Error DebtMarket := do
  let debtor := (M.marketListings (M.nftToDebtIds nftAsset tokenId)).debtor
  let ofUser ← checkedSub (M.userTotalDebtByCollection debtor nftAsset) 1
  let ofCollection ← checkedSub (M.totalDebtsByCollection nftAsset) 1
  return { M with
    userTotalDebtByCollection := update₂ M.userTotalDebtByCollection debtor nftAsset ofUser
    totalDebtsByCollection := Function.update M.totalDebtsByCollection nftAsset ofCollection
    nftToDebtIds := update₂ M.nftToDebtIds nftAsset tokenId 0 }

/-- The part of `cancelDebtListing` behind the modifiers, up to the refund. -/
def cancelDebtListing (caller nftAsset : Address) (tokenId : ℕ) : Except Error DebtMarket := do
  let debtId := M.nftToDebtIds nftAsset tokenId
  let sellDebt := M.marketListings debtId
  require (sellDebt.debtor = caller ∨ M.isAuthorizedAddress caller = true)
    Error.DM_CALLER_NOT_THE_OWNER_OR_AUTHORIZED
  require (sellDebt.state ≠ .Sold) Error.DM_DEBT_SHOULD_NOT_BE_SOLD
  (M.setListing debtId { sellDebt with state := .Canceled })._deleteDebtOfferListing
    nftAsset tokenId

end DebtMarket

namespace State

variable (D : Deployment) (s : State)

def setDebtMarket (M : DebtMarket) : State := { s with debtMarket := M }

/-- `DebtMarket.createDebtListing`, called by `caller`. -/
def createDebtListing (caller nftAsset : Address) (tokenId sellPrice : ℕ) (onBehalfOf : Address)
    (startBiddingPrice auctionEndTimestamp : ℕ) : Except Error State := do
  require (s.debtMarket.paused = false) Error.DM_IS_PAUSED
  require (s.debtMarket.nftToDebtIds nftAsset tokenId = 0) Error.DM_DEBT_ALREADY_EXIST
  let loanId := s.lendPoolLoan.getCollateralLoanId nftAsset tokenId
  require (loanId ≠ 0) Error.DM_LOAN_SHOULD_EXIST
  let loan := s.lendPoolLoan.getLoan loanId
  require (loan.borrower = caller) Error.DM_CALLER_NOT_THE_OWNER
  let M ← s.debtMarket.createDebtListing nftAsset tokenId sellPrice onBehalfOf startBiddingPrice
    auctionEndTimestamp s.blockTimestamp loan
  return s.setDebtMarket M

/-- Pay out of the contract's own balance, the way `cancelDebtListing` and `_returnBidFunds` do:
by a `transferFrom` whose source and caller are both the contract. -/
def returnBidFunds (reserveAsset bidder : Address) (bidPrice : ℕ) : Except Error State :=
  s.safeTransferFrom reserveAsset D.debtMarket D.debtMarket bidder bidPrice

/-- `DebtMarket.cancelDebtListing`, called by `caller`. -/
def cancelDebtListing (caller nftAsset : Address) (tokenId : ℕ) : Except Error State := do
  require (s.debtMarket.paused = false) Error.DM_IS_PAUSED
  s.debtMarket.debtShouldExistGuard nftAsset tokenId
  let sellDebt := s.debtMarket.marketListings (s.debtMarket.nftToDebtIds nftAsset tokenId)
  let M ← s.debtMarket.cancelDebtListing caller nftAsset tokenId
  applyIf (sellDebt.bidderAddress ≠ 0)
    (fun s => s.returnBidFunds D sellDebt.reserveAsset sellDebt.bidderAddress sellDebt.bidPrice)
    (s.setDebtMarket M)

/-- How the other contracts cancel: only when there is a listing. -/
def cancelDebtListingIfExists (caller nftAsset : Address) (tokenId : ℕ) : Except Error State :=
  applyIf (s.debtMarket.getDebtId nftAsset tokenId ≠ 0)
    (fun s => s.cancelDebtListing D caller nftAsset tokenId) s

/-- `_transferDebt`: the position under the token goes to `onBehalfOf` and its listing is sold. -/
def _transferDebt (nftAsset : Address) (tokenId : ℕ) (onBehalfOf : Address) :
    Except Error State := do
  let loanId := s.lendPoolLoan.getCollateralLoanId nftAsset tokenId
  let loan := s.lendPoolLoan.getLoan loanId
  let s ← s.updateReserveState loan.reserveAsset
  let index := (s.lendPool.reserves loan.reserveAsset).variableBorrowIndex
  let borrowAmount ← s.getLoanReserveBorrowAmount loanId
  let debtId := s.debtMarket.nftToDebtIds nftAsset tokenId
  let marketOrder := s.debtMarket.marketListings debtId
  require (marketOrder.scaledAmount = loan.scaledAmount) Error.DM_BORROWED_AMOUNT_DIVERGED
  let s := s.setDebtMarket (s.debtMarket.setListing debtId { marketOrder with state := .Sold })
  let s ← s.burnDebt D.debtMarket loan.reserveAsset loan.borrower borrowAmount index
  let s ← s.mintDebt D.debtMarket loan.reserveAsset onBehalfOf onBehalfOf borrowAmount index
  let s ← s.reMintUNFT D loan.nftAsset loan.nftTokenId loan.borrower onBehalfOf
  let s ← s.updateReserveInterestRates loan.reserveAsset
  let M ← s.debtMarket._deleteDebtOfferListing nftAsset tokenId
  return s.setDebtMarket M

/-- `_priceForLockeyHolders`. -/
def _priceForLockeyHolders (marketPrice : ℕ) (onBehalfOf : Address) : Except Error ℕ := do
  require (onBehalfOf ≠ 0) Error.zeroAddress
  if s.lockeyBalanceOf onBehalfOf > 0 then percentMul marketPrice s.lockeyDiscountOnDebtMarket
  else return marketPrice

/-- `DebtMarket.buy`, called by `caller`. -/
def buy (caller nftAsset : Address) (tokenId : ℕ) (onBehalfOf : Address) (amount : ℕ) :
    Except Error State := do
  require (s.debtMarket.paused = false) Error.DM_IS_PAUSED
  s.debtMarket.debtShouldExistGuard nftAsset tokenId
  let loanId := s.lendPoolLoan.getCollateralLoanId nftAsset tokenId
  require (loanId ≠ 0) Error.DM_LOAN_SHOULD_EXIST
  let loan := s.lendPoolLoan.getLoan loanId
  let marketOrder := s.debtMarket.marketListings (s.debtMarket.nftToDebtIds nftAsset tokenId)
  require (marketOrder.sellType = .Mixed ∨ marketOrder.sellType = .FixedPrice)
    Error.DM_INVALID_SELL_TYPE
  let s ← s._transferDebt D nftAsset tokenId onBehalfOf
  let price ← s._priceForLockeyHolders marketOrder.sellPrice onBehalfOf
  require (price = amount) Error.DM_AMOUNT_DIFFERENT_FROM_SELL_PRICE
  let s ← s.safeTransferFrom loan.reserveAsset D.debtMarket caller loan.borrower price
  applyIf (marketOrder.bidderAddress ≠ 0)
    (fun s => s.returnBidFunds D marketOrder.reserveAsset marketOrder.bidderAddress
      marketOrder.bidPrice) s

/-- The branch of `bid` on the price: a bid at the sell price of a mixed listing sells it at
once, any other must beat the standing bid. -/
def placeBid (nftAsset : Address) (tokenId bidPrice sellPrice : ℕ) (onBehalfOf : Address) :
    Except Error State :=
  let debtId := s.debtMarket.nftToDebtIds nftAsset tokenId
  let marketListing := s.debtMarket.marketListings debtId
  if bidPrice = sellPrice ∧ marketListing.sellType = .Mixed then
    s._transferDebt D nftAsset tokenId onBehalfOf
  else do
    let delta ← percentMul marketListing.bidPrice s.debtMarket.deltaBidPercent
    require (bidPrice > marketListing.bidPrice + delta) Error.DM_BID_PRICE_LESS_THAN_PREVIOUS_BID
    return s.setDebtMarket (s.debtMarket.setListing debtId { marketListing with state := .Active })

/-- `DebtMarket.bid`, called by `caller`. In both branches the price paid is `bidPrice`. -/
def bid (caller nftAsset : Address) (tokenId bidPrice : ℕ) (onBehalfOf : Address) :
    Except Error State := do
  require (s.debtMarket.paused = false) Error.DM_IS_PAUSED
  s.debtMarket.debtShouldExistGuard nftAsset tokenId
  let debtId := s.debtMarket.nftToDebtIds nftAsset tokenId
  let marketListing := s.debtMarket.marketListings debtId
  let sellPrice ← s._priceForLockeyHolders marketListing.sellPrice onBehalfOf
  require (marketListing.sellType = .Auction ∨ marketListing.sellType = .Mixed)
    Error.DM_INVALID_SELL_TYPE
  require (marketListing.startBiddingPrice ≤ bidPrice) Error.DM_BID_PRICE_LESS_THAN_MIN_BID_PRICE
  require (marketListing.sellType = .Mixed → bidPrice ≤ sellPrice)
    Error.DM_BID_PRICE_HIGHER_THAN_SELL_PRICE
  require (s.blockTimestamp ≤ marketListing.auctionEndTimestamp) Error.DM_AUCTION_ALREADY_ENDED
  let s ← s.placeBid D nftAsset tokenId bidPrice sellPrice onBehalfOf
  let s := s.setDebtMarket (s.debtMarket.setListing debtId
    { s.debtMarket.marketListings debtId with bidderAddress := onBehalfOf, bidPrice := bidPrice })
  let s ← s.safeTransferFrom marketListing.reserveAsset D.debtMarket caller D.debtMarket bidPrice
  applyIf (marketListing.bidderAddress ≠ 0)
    (fun s => s.returnBidFunds D marketListing.reserveAsset marketListing.bidderAddress
      marketListing.bidPrice) s

/-- `DebtMarket.claim`. -/
def claim (nftAsset : Address) (tokenId : ℕ) (onBehalfOf : Address) : Except Error State := do
  require (s.debtMarket.paused = false) Error.DM_IS_PAUSED
  s.debtMarket.debtShouldExistGuard nftAsset tokenId
  let debtId := s.debtMarket.nftToDebtIds nftAsset tokenId
  let marketListing := s.debtMarket.marketListings debtId
  require (marketListing.sellType = .Auction ∨ marketListing.sellType = .Mixed)
    Error.DM_INVALID_SELL_TYPE
  require (onBehalfOf = marketListing.bidderAddress) Error.DM_INVALID_CLAIM_RECEIVER
  require (s.blockTimestamp > marketListing.auctionEndTimestamp) Error.DM_AUCTION_NOT_ALREADY_ENDED
  let s := s.setDebtMarket (s.debtMarket.setListing debtId { marketListing with state := .Sold })
  let s ← s._transferDebt D nftAsset tokenId onBehalfOf
  s.safeTransfer marketListing.reserveAsset D.debtMarket marketListing.debtor marketListing.bidPrice

end State

/-! ## The listings as a cabinet -/

/-- The collateral token of a listing. -/
def DebtMarketListing.key (d : DebtMarketListing) : Address × ℕ := (d.nftAsset, d.tokenId)

/-- The same listing with another bid on it. -/
def DebtMarketListing.bidBy (d : DebtMarketListing) (bidder : Address) (price : ℕ) :
    DebtMarketListing :=
  { d with bidderAddress := bidder, bidPrice := price }

/-- Listings are filed by their token and counted by collection and by debtor. -/
def DebtMarketListing.filing : Filing (Address × ℕ) Address Address DebtMarketListing where
  live := DebtMarketListing.isOpen
  key := DebtMarketListing.key
  group := DebtMarketListing.nftAsset
  member := DebtMarketListing.debtor

/-- The bid an open listing keeps in the market. -/
def DebtMarketListing.escrow (r : Address) (d : DebtMarketListing) : ℕ :=
  if d.isOpen ∧ d.reserveAsset = r ∧ d.bidderAddress ≠ 0 then d.bidPrice else 0

namespace DebtMarket

/-- The storage as a registry: the first identifier is one. -/
def registry (M : DebtMarket) : Registry (Address × ℕ) DebtMarketListing where
  ids := Finset.Ico 1 (M.debtIdTracker + 1)
  records := M.marketListings
  index := fun k => M.nftToDebtIds k.1 k.2

def cabinet (M : DebtMarket) : Cabinet (Address × ℕ) Address Address DebtMarketListing where
  registry := M.registry
  perGroup := M.totalDebtsByCollection
  perMember := M.userTotalDebtByCollection

/-- The invariant of the storage. -/
structure Listings (M : DebtMarket) : Prop where
  kept : Kept DebtMarketListing.filing M.cabinet
  fresh : ∀ id, M.debtIdTracker < id → M.marketListings id = .empty

/-- What one call did to the storage: the listing taken out and the listing put in. -/
structure ListingMove (M M' : DebtMarket) (old new : Option DebtMarketListing) : Prop where
  turn : Turn DebtMarketListing.filing M.cabinet M'.cabinet old new
  tracker_le : M.debtIdTracker ≤ M'.debtIdTracker
  fresh : ∀ id, M'.debtIdTracker < id → M'.marketListings id = M.marketListings id

variable {M M' : DebtMarket} {old new : Option DebtMarketListing}

theorem Listings.coherent (h : M.Listings) :
    Coherent DebtMarketListing.isOpen DebtMarketListing.key M.registry := h.kept.coherent

theorem ListingMove.move (m : ListingMove M M' old new) :
    Move DebtMarketListing.isOpen DebtMarketListing.key M.registry M'.registry old new :=
      m.turn.move

/-- Nothing changed. -/
theorem ListingMove.idle (M : DebtMarket) : ListingMove M M none none :=
  ⟨.idle _ _, le_rfl, fun _ _ => rfl⟩

/-- **The listing invariant is kept by every move.** -/
theorem ListingMove.listings (m : ListingMove M M' old new) (h : M.Listings) : M'.Listings where
  kept := m.turn.kept h.kept
  fresh id hid := (m.fresh id hid).trans (h.fresh id (Nat.lt_of_le_of_lt m.tracker_le hid))

variable {nftAsset : Address} {tokenId : ℕ}

/-- Looking a listing up: a non-zero identifier is that of the open listing on the token. -/
theorem Listings.held (h : M.Listings) (hid : M.getDebtId nftAsset tokenId ≠ 0) :
    M.registry.held (nftAsset, tokenId) = some (M.marketListings (M.getDebtId nftAsset tokenId)) ∧
      (M.marketListings (M.getDebtId nftAsset tokenId)).isOpen ∧
      (M.marketListings (M.getDebtId nftAsset tokenId)).nftAsset = nftAsset ∧
      (M.marketListings (M.getDebtId nftAsset tokenId)).tokenId = tokenId := by
  have hheld : M.registry.held (nftAsset, tokenId)
      = some (M.marketListings (M.getDebtId nftAsset tokenId)) := held_eq_some.mpr ⟨hid, rfl⟩
  obtain ⟨hl, hk⟩ := h.coherent.held_live hheld
  exact ⟨hheld, hl, congrArg Prod.fst hk, congrArg Prod.snd hk⟩

/-- Writing a listing under the identifier of another leaves the unused identifiers alone. -/
theorem update_fresh (h : M.Listings) (hid : M.getDebtId nftAsset tokenId ≠ 0)
    (d : DebtMarketListing) (id : ℕ) (hlt : M.debtIdTracker < id) :
    Function.update M.marketListings (M.getDebtId nftAsset tokenId) d id = M.marketListings id := by
  have hmem := h.coherent.mem (k := (nftAsset, tokenId)) hid
  have hle := (Finset.mem_Ico.mp hmem).2
  exact Function.update_of_ne (Nat.ne_of_gt (Nat.lt_of_lt_of_le hle hlt)) _ _

/-- Rewriting an open listing in place. -/
theorem setListing_move (h : M.Listings) (hid : M.getDebtId nftAsset tokenId ≠ 0)
    {d : DebtMarketListing} (hopen : d.isOpen)
    (hkey : d.key = (M.marketListings (M.getDebtId nftAsset tokenId)).key)
    (hdebtor : d.debtor = (M.marketListings (M.getDebtId nftAsset tokenId)).debtor) :
    ListingMove M (M.setListing (M.getDebtId nftAsset tokenId) d)
      (some (M.marketListings (M.getDebtId nftAsset tokenId))) (some d) := by
  obtain ⟨hheld, -, ha, ht⟩ := h.held hid
  have hk : DebtMarketListing.filing.key d = (nftAsset, tokenId) := hkey.trans (Prod.ext ha ht)
  refine ⟨.revise h.kept (by rw [hk]; exact hheld) hopen
    (congrArg Prod.fst hkey) hdebtor ?_ rfl rfl,
    le_rfl, update_fresh h hid d⟩
  rw [hk]; rfl

/-- **Closing a listing.** What `_deleteDebtOfferListing` makes of a storage in which the
listing has been overwritten by a closed one. -/
theorem _deleteDebtOfferListing_move (h : M.Listings) (hid : M.getDebtId nftAsset tokenId ≠ 0)
    {d : DebtMarketListing} (hclosed : ¬ d.isOpen)
    (hkey : d.key = (M.marketListings (M.getDebtId nftAsset tokenId)).key)
    (hdebtor : d.debtor = (M.marketListings (M.getDebtId nftAsset tokenId)).debtor)
    (hM' : (M.setListing (M.getDebtId nftAsset tokenId) d)._deleteDebtOfferListing nftAsset tokenId
      = .ok M') :
    ListingMove M M' (some (M.marketListings (M.getDebtId nftAsset tokenId))) (some d) := by
  obtain ⟨hheld, -, ha, ht⟩ := h.held hid
  have hk : DebtMarketListing.filing.key d = (nftAsset, tokenId) := hkey.trans (Prod.ext ha ht)
  obtain ⟨n, hn, hM'⟩ := bind_eq_ok.mp hM'
  obtain ⟨m, hm, hM'⟩ := bind_eq_ok.mp hM'
  obtain ⟨-, rfl⟩ := checkedSub_eq_ok.mp hn
  obtain ⟨-, rfl⟩ := checkedSub_eq_ok.mp hm
  obtain rfl := Except.ok.inj hM'
  have hd : ((M.setListing (M.getDebtId nftAsset tokenId) d).marketListings
      ((M.setListing (M.getDebtId nftAsset tokenId) d).nftToDebtIds nftAsset tokenId)).debtor
      = (M.marketListings (M.getDebtId nftAsset tokenId)).debtor := by
    rw [← hdebtor]
    exact congrArg DebtMarketListing.debtor (Function.update_self _ _ _)
  refine ⟨.close h.kept (by rw [hk]; exact hheld) hclosed ?_ (fun g => ?_) (fun u g => ?_), le_rfl,
    update_fresh h hid d⟩
  · rw [hk]
    simp only [cabinet, registry, setListing, LendPoolLoan.uncurry_update₂]
    rfl
  · rw [show DebtMarketListing.filing.group (M.marketListings (M.getDebtId nftAsset tokenId))
      = nftAsset from ha]
    exact update_modify M.totalDebtsByCollection nftAsset (· - 1) g
  · rw [show DebtMarketListing.filing.group (M.marketListings (M.getDebtId nftAsset tokenId))
      = nftAsset from ha]
    simp only [hd]
    exact update₂_modify M.userTotalDebtByCollection _ nftAsset (· - 1) u g

/-- Overwriting a listing after it was deleted is the same as deleting the overwritten one, as
long as its debtor stays. -/
theorem _deleteDebtOfferListing_setListing {d d' : DebtMarketListing}
    (hdebtor : d'.debtor = d.debtor)
    (hM' : (M.setListing (M.getDebtId nftAsset tokenId) d)._deleteDebtOfferListing nftAsset tokenId
      = .ok M') :
    (M.setListing (M.getDebtId nftAsset tokenId) d')._deleteDebtOfferListing nftAsset tokenId
      = .ok (M'.setListing (M.getDebtId nftAsset tokenId) d') := by
  obtain ⟨n, hn, hM'⟩ := bind_eq_ok.mp hM'
  obtain ⟨m, hm, hM'⟩ := bind_eq_ok.mp hM'
  obtain rfl := Except.ok.inj hM'
  have hself : ∀ e : DebtMarketListing,
      (M.setListing (M.getDebtId nftAsset tokenId) e).marketListings
      (M.getDebtId nftAsset tokenId) = e := fun e => Function.update_self _ _ _
  unfold _deleteDebtOfferListing
  simp only [setListing, getDebtId] at hn hm hself ⊢
  rw [hself, hdebtor]
  rw [hself] at hn
  rw [hn, ok_bind, hm, ok_bind, hself, Function.update_idem]
  rfl

/-- Deleting a listing forgets its token, not the record. -/
theorem _deleteDebtOfferListing_listings
    (hM' : M._deleteDebtOfferListing nftAsset tokenId = .ok M') :
    M'.marketListings = M.marketListings := by
  obtain ⟨n, -, hM'⟩ := bind_eq_ok.mp hM'
  obtain ⟨m, -, hM'⟩ := bind_eq_ok.mp hM'
  obtain rfl := Except.ok.inj hM'
  rfl

@[simp] theorem setListing_self (M : DebtMarket) (debtId : ℕ) (d : DebtMarketListing) :
    (M.setListing debtId d).marketListings debtId = d := Function.update_self _ _ _

@[simp] theorem setListing_setListing (M : DebtMarket) (debtId : ℕ) (d d' : DebtMarketListing) :
    (M.setListing debtId d).setListing debtId d' = M.setListing debtId d' := by
  simp [setListing]

/-- Marking a listing as sold once more changes nothing. -/
theorem setListing_sold (M : DebtMarket) (debtId : ℕ) (d : DebtMarketListing) :
    (M.setListing debtId { d with state := .Sold }).setListing debtId
      { (M.setListing debtId { d with state := .Sold }).marketListings debtId with state := .Sold }
    = M.setListing debtId { d with state := .Sold } := by
  rw [setListing_setListing, setListing_self]

/-- Writing a bid into a listing just written. -/
theorem setListing_bidBy (M : DebtMarket) (debtId : ℕ) (d : DebtMarketListing) (bidder : Address)
    (price : ℕ) : (M.setListing debtId d).setListing debtId
      (((M.setListing debtId d).marketListings debtId).bidBy bidder price)
    = M.setListing debtId (d.bidBy bidder price) := by
  rw [setListing_setListing, setListing_self]

theorem _deleteDebtOfferListing_benign :
    Sat (M._deleteDebtOfferListing nftAsset tokenId)
      (fun M' => M._deleteDebtOfferListing nftAsset tokenId = .ok M') Error.Benign :=
  Sat.self (Q := fun _ => True) <| Sat.bind checkedSub_benign fun _ _ =>
    Sat.bind checkedSub_benign fun _ _ => trivial

theorem debtShouldExistGuard_spec :
    Sat (M.debtShouldExistGuard nftAsset tokenId) (fun _ => M.getDebtId nftAsset tokenId ≠ 0)
      Error.Benign := by
  refine Sat.bind (Sat.require fun _ => trivial) fun _ hid => ?_
  refine Sat.bind (Sat.require fun _ => trivial) fun _ _ => ?_
  exact (Sat.require fun _ => trivial).imp fun _ _ => hid

/-- Listing a debt: the listing put in is open, without a bid, and records the terms of the loan. -/
theorem createDebtListing_spec (h : M.Listings) {sellPrice startBiddingPrice auctionEndTimestamp
      blockTimestamp : ℕ} {onBehalfOf : Address} {loan : LoanData}
    (hfree : M.nftToDebtIds nftAsset tokenId = 0) :
    Sat (M.createDebtListing nftAsset tokenId sellPrice onBehalfOf startBiddingPrice
        auctionEndTimestamp blockTimestamp loan)
      (fun M' => ∃ d, ListingMove M M' none (some d) ∧ d.isOpen ∧ d.key = (nftAsset, tokenId) ∧
        d.bidderAddress = 0 ∧ d.reserveAsset = loan.reserveAsset ∧
          d.scaledAmount = loan.scaledAmount)
      Error.Benign := by
  have hempty := h.fresh (M.debtIdTracker + 1) (Nat.lt_succ_self _)
  refine Sat.bind (Sat.require fun _ => trivial) fun _ _ => ?_
  refine Sat.bind (P := fun M₁ => M₁ = _) (Sat.bind (Sat.require fun _ => trivial) fun _ _ => rfl)
    fun M₁ h₁ => ?_
  subst h₁
  refine Sat.bind (Sat.require fun _ => trivial) fun _ _ => ?_
  refine ⟨{ M.marketListings (M.debtIdTracker + 1) with
      debtId := M.debtIdTracker + 1, nftAsset := nftAsset, tokenId := tokenId, debtor := onBehalfOf,
      sellPrice := sellPrice, reserveAsset := loan.reserveAsset, scaledAmount := loan.scaledAmount,
      state := .New, auctionEndTimestamp := auctionEndTimestamp,
      startBiddingPrice := startBiddingPrice,
      sellType := sellTypeFor (M.marketListings (M.debtIdTracker + 1)).sellType (sellPrice ≠ 0)
        (startBiddingPrice ≠ 0 ∧ auctionEndTimestamp ≠ 0) },
    ⟨.file (Nat.succ_ne_zero M.debtIdTracker) ?_ hfree (.inl rfl) ?_ (fun g => ?_)
      (fun u g => ?_), Nat.le_succ _, fun id hlt => ?_⟩, .inl rfl, rfl, ?_, rfl, rfl⟩
  · exact fun hmem => lt_irrefl _ (Finset.mem_Ico.mp hmem).2
  · simp only [cabinet, registry, setListing, update₂_self, Function.update_self,
      Function.update_idem,
      LendPoolLoan.uncurry_update₂,
      Nat.Ico_succ_right_eq_insert_Ico (Nat.succ_le_succ (Nat.zero_le M.debtIdTracker))]
    rfl
  · exact update_modify M.totalDebtsByCollection nftAsset (· + 1) g
  · exact update₂_modify M.userTotalDebtByCollection onBehalfOf nftAsset (· + 1) u g
  · have hne : id ≠ M.debtIdTracker + 1 := Nat.ne_of_gt hlt
    simp only [setListing, update₂_self, Function.update_of_ne hne]
  · simp [hempty, DebtMarketListing.empty]

/-- Withdrawing a listing closes it. -/
theorem cancelDebtListing_spec (h : M.Listings) {caller : Address}
    (hid : M.getDebtId nftAsset tokenId ≠ 0) :
    Sat (M.cancelDebtListing caller nftAsset tokenId)
      (fun M' => ListingMove M M' (some (M.marketListings (M.getDebtId nftAsset tokenId)))
        (some { M.marketListings (M.getDebtId nftAsset tokenId) with state := .Canceled }))
      Error.Benign := by
  refine Sat.bind (Sat.require fun _ => trivial) fun _ _ => ?_
  refine Sat.bind (Sat.require fun _ => trivial) fun _ _ => ?_
  exact _deleteDebtOfferListing_benign.imp fun M' hM' =>
    _deleteDebtOfferListing_move h hid (by rintro (h | h) <;> cases h) rfl rfl hM'

end DebtMarket

/-! ## Selling a position -/

namespace State

variable {D : Deployment} {s : State} {nftAsset : Address} {tokenId : ℕ} {onBehalfOf : Address}

open LendPoolLoan DebtMarket

/-- What `_transferDebt` does: the debt, the loan and the receipt go to the new debtor, the
reserve is refreshed, and the listing, now sold, is deleted. -/
structure DebtTransferred (s s' : State) (nftAsset : Address) (tokenId : ℕ) (onBehalfOf : Address)
    (loan : LoanData) : Prop where
  blockTimestamp : s'.blockTimestamp = s.blockTimestamp
  erc20 : s'.erc20 = s.erc20
  reserves : s.Refreshed loan.reserveAsset s'.lendPool.reserves
  debt : ∀ r u, (s'.debtTokens r).scaledBalanceOf u
      + (if r = loan.reserveAsset ∧ u = loan.borrower then loan.scaledAmount else 0)
    = (s.debtTokens r).scaledBalanceOf u
      + (if r = loan.reserveAsset ∧ u = onBehalfOf then loan.scaledAmount else 0)
  buyer : onBehalfOf ≠ 0
  loans : LoanMove s.lendPoolLoan s'.lendPoolLoan (some loan) (some (loan.handTo onBehalfOf))
  receipts : ∀ a t, (s'.uNfts a).owner t
    = if loan.key = (a, t) then onBehalfOf else (s.uNfts a).owner t
  listing : (s.debtMarket.setListing (s.debtMarket.getDebtId nftAsset tokenId)
      { s.debtMarket.marketListings (s.debtMarket.getDebtId nftAsset tokenId) with
        state := .Sold })._deleteDebtOfferListing nftAsset tokenId = .ok s'.debtMarket

/-- **Selling a position.** When the listing records the loan's debt, the divergence check
passes, and the burn can fail for want of debt only if the seller owes less than the loan. -/
theorem _transferDebt_spec (h : s.lendPoolLoan.Loans)
    (hid : s.lendPoolLoan.getCollateralLoanId nftAsset tokenId ≠ 0)
    (hindex : IndicesSound s.lendPool.reserves)
    (hdebt : (s.debtMarket.marketListings (s.debtMarket.getDebtId nftAsset tokenId)).scaledAmount
      = (s.lendPoolLoan.loans (s.lendPoolLoan.getCollateralLoanId nftAsset tokenId)).scaledAmount) :
    Sat (s._transferDebt D nftAsset tokenId onBehalfOf)
      (fun s' => s.DebtTransferred s' nftAsset tokenId onBehalfOf
        (s.lendPoolLoan.loans (s.lendPoolLoan.getCollateralLoanId nftAsset tokenId)))
      (fun e => e.Benign ∨ ∃ loan, s.lendPoolLoan.registry.held (nftAsset, tokenId) = some loan ∧
        e = .debtBurnAmountExceedsBalance loan.borrower ∧
        (s.debtTokens loan.reserveAsset).scaledBalanceOf loan.borrower < loan.scaledAmount) := by
  obtain ⟨hheld, -, ha, ht⟩ := h.held hid
  generalize hloan : s.lendPoolLoan.loans (s.lendPoolLoan.getCollateralLoanId nftAsset tokenId)
    = loan at *
  have hbenign : ∀ e : Error, e.Benign → e.Benign ∨ ∃ loan,
      s.lendPoolLoan.registry.held (nftAsset, tokenId) = some loan ∧
      e = .debtBurnAmountExceedsBalance loan.borrower ∧
      (s.debtTokens loan.reserveAsset).scaledBalanceOf loan.borrower < loan.scaledAmount :=
    fun _ => .inl
  unfold _transferDebt
  simp only [getLoan, hloan]
  refine Sat.andThen updateReserveState_spec hbenign fun s₁ h₁ => ?_
  obtain ⟨hinit, Rs, U, rfl, hupd⟩ := h₁
  obtain ⟨hlast, hray⟩ := hupd.index hindex hinit
  refine Sat.andThen getLoanReserveBorrowAmount_benign hbenign fun b hb => ?_
  have hfull : ∀ n, rayDiv b (Rs loan.reserveAsset).variableBorrowIndex = .ok n →
      n = loan.scaledAmount := by
    intro n hn
    exact scaled_getLoanReserveBorrowAmount (by exact hloan) (by exact hlast) (by exact hray) hb hn
  refine Sat.bind (Sat.require fun hne => absurd hdebt hne) fun _ _ => ?_
  refine Sat.andThen burnDebt_spec ?_ fun s₂ h₂ => ?_
  · rintro e (he | ⟨rfl, n, hn, hlt⟩)
    · exact .inl he
    · exact .inr ⟨loan, hheld, rfl, hfull n hn ▸ hlt⟩
  obtain ⟨n, T, hn, rfl, hburn⟩ := h₂
  obtain rfl := hfull n hn
  refine Sat.andThen mintDebt_spec hbenign fun s₃ h₃ => ?_
  obtain ⟨hbuyer, n, T', hn', rfl, hmint⟩ := h₃
  obtain rfl := hfull n hn'
  rw [ha, ht]
  refine Sat.andThen (reMintUNFT_spec (by exact h) (by exact hid) (by exact hloan) hbuyer) hbenign
    fun s₄ h₄ => ?_
  obtain ⟨L', E, m, rfl, hmove, -⟩ := h₄
  refine Sat.andThen updateReserveInterestRates_spec hbenign fun s₅ h₅ => ?_
  obtain ⟨Rs', rfl, hpriced⟩ := h₅
  refine Sat.andThen _deleteDebtOfferListing_benign hbenign fun M' hM' => ?_
  obtain ⟨hother, rates, -, hrates⟩ := hpriced
  exact
    { blockTimestamp := rfl
      erc20 := rfl
      reserves := hupd.refreshed hother hrates
      debt := hburn.minted hmint
      buyer := hbuyer
      loans := hmove
      receipts := fun a t => (setNfts_owner _ E nftAsset tokenId onBehalfOf m a t).trans (by
        rw [LoanData.key, ha, ht]; rfl)
      listing := hM' }

end State

end Unlockd
