/-
`LendPoolLoan.sol`: the loans, their index by collateral, and the collateral counters.

Each function of the contract is a function on its storage; where it also moves the
collateral token and its receipt, a second definition on the whole state does both. The
four functions that close a loan share one clean-up.

The storage is a cabinet of loans, filed by collateral token and counted by collection and
by borrower. Every call is one `LoanMove`, which says which record the call took out
and which it put in; the invariant `Loans` is kept by every such move.
-/
import Unlockd.ReserveLogic
import Unlockd.Lib.Cabinet
import Mathlib.Order.Interval.Finset.Nat

set_option autoImplicit false

namespace Unlockd

open Outcome Registry Cabinet

namespace LendPoolLoan

variable (L : LendPoolLoan)

def getCollateralLoanId (nftAsset : Address) (nftTokenId : ℕ) : ℕ :=
  L.nftToLoanIds nftAsset nftTokenId

def getLoan (loanId : ℕ) : LoanData := L.loans loanId

def setLoan (loanId : ℕ) (loan : LoanData) : LendPoolLoan :=
  { L with loans := Function.update L.loans loanId loan }

/-- `createLoan`, storage. -/
def createLoan (onBehalfOf nftAsset : Address) (nftTokenId : ℕ) (reserveAsset : Address)
    (amount borrowIndex : ℕ) : Except Error LendPoolLoan := do
  require (L.nftToLoanIds nftAsset nftTokenId = 0) Error.LP_NFT_HAS_USED_AS_COLLATERAL
  let amountScaled ← rayDiv amount borrowIndex
  let loanId := L.loanIdTracker
  return { L with
    loanIdTracker := loanId + 1
    nftToLoanIds := update₂ L.nftToLoanIds nftAsset nftTokenId loanId
    loans := Function.update L.loans loanId { L.loans loanId with
      loanId := loanId
      state := .Active
      borrower := onBehalfOf
      nftAsset := nftAsset
      nftTokenId := nftTokenId
      reserveAsset := reserveAsset
      scaledAmount := amountScaled }
    userNftCollateral := update₂ L.userNftCollateral onBehalfOf nftAsset
      (L.userNftCollateral onBehalfOf nftAsset + 1)
    nftTotalCollateral := Function.update L.nftTotalCollateral nftAsset
      (L.nftTotalCollateral nftAsset + 1) }

/-- The debt a loan has after `amountAdded` at an index. -/
def addDebt (loan : LoanData) (amountAdded borrowIndex : ℕ) : Except Error LoanData := do
  let amountScaled ← rayDiv amountAdded borrowIndex
  require (amountScaled ≠ 0) Error.LPL_INVALID_LOAN_AMOUNT
  return { loan with scaledAmount := loan.scaledAmount + amountScaled }

/-- The debt a loan has after `amountTaken` at an index. -/
def takeDebt (loan : LoanData) (amountTaken borrowIndex : ℕ) : Except Error LoanData := do
  let amountScaled ← rayDiv amountTaken borrowIndex
  require (amountScaled ≠ 0) Error.LPL_INVALID_TAKEN_AMOUNT
  require (amountScaled ≤ loan.scaledAmount) Error.LPL_AMOUNT_OVERFLOW
  return { loan with scaledAmount := loan.scaledAmount - amountScaled }

/-- `updateLoan`. -/
def updateLoan (loanId amountAdded amountTaken borrowIndex : ℕ) : Except Error LendPoolLoan := do
  let loan := L.loans loanId
  require (loan.state = .Active) Error.LPL_INVALID_LOAN_STATE
  let loan ← applyIf (amountAdded > 0) (fun l => addDebt l amountAdded borrowIndex) loan
  let loan ← applyIf (amountTaken > 0) (fun l => takeDebt l amountTaken borrowIndex) loan
  return L.setLoan loanId loan

/-- The branches of `auctionLoan`: the first bid opens the auction, a later one must be higher. -/
def enterAuction (loan : LoanData) (onBehalfOf : Address) (bidPrice blockTimestamp : ℕ) :
    Except Error LoanData :=
  if loan.bidStartTimestamp = 0 then do
    require (loan.state = .Active) Error.LPL_INVALID_LOAN_STATE
    return { loan with
      state := .Auction
      bidStartTimestamp := blockTimestamp
      firstBidderAddress := onBehalfOf }
  else do
    require (loan.state = .Auction) Error.LPL_INVALID_LOAN_STATE
    require (bidPrice > loan.bidPrice) Error.LPL_BID_PRICE_LESS_THAN_HIGHEST_PRICE
    return loan

/-- `auctionLoan`. -/
def auctionLoan (loanId : ℕ) (onBehalfOf : Address) (bidPrice borrowAmount blockTimestamp : ℕ) :
    Except Error LendPoolLoan := do
  let loan ← enterAuction (L.loans loanId) onBehalfOf bidPrice blockTimestamp
  return L.setLoan loanId { loan with
    bidBorrowAmount := borrowAmount
    bidderAddress := onBehalfOf
    bidPrice := bidPrice }

/-- `redeemLoan`. -/
def redeemLoan (loanId amountTaken borrowIndex : ℕ) : Except Error LendPoolLoan := do
  let loan := L.loans loanId
  require (loan.state = .Auction) Error.LPL_INVALID_LOAN_STATE
  let loan ← takeDebt loan amountTaken borrowIndex
  return L.setLoan loanId { loan with
    state := .Active
    bidStartTimestamp := 0
    bidBorrowAmount := 0
    bidderAddress := 0
    bidPrice := 0
    firstBidderAddress := 0 }

/-- What the four closing functions do to the index and the counters, for the collateral and
the borrower of the loan. -/
def releaseCollateral (loan : LoanData) : Except Error LendPoolLoan := do
  require (1 ≤ L.userNftCollateral loan.borrower loan.nftAsset) Error.LP_INVALID_USER_NFT_AMOUNT
  require (1 ≤ L.nftTotalCollateral loan.nftAsset) Error.LP_INVALID_NFT_AMOUNT
  return { L with
    nftToLoanIds := update₂ L.nftToLoanIds loan.nftAsset loan.nftTokenId 0
    userNftCollateral := update₂ L.userNftCollateral loan.borrower loan.nftAsset
      (L.userNftCollateral loan.borrower loan.nftAsset - 1)
    nftTotalCollateral := Function.update L.nftTotalCollateral loan.nftAsset
      (L.nftTotalCollateral loan.nftAsset - 1) }

/-- `repayLoan`, storage. -/
def repayLoan (loanId : ℕ) : Except Error LendPoolLoan := do
  let loan := L.loans loanId
  require (loan.state = .Active) Error.LPL_INVALID_LOAN_STATE
  (L.setLoan loanId { loan with state := .Repaid }).releaseCollateral loan

/-- `buyoutLoan`, storage. Alone among the closing functions it checks no state. -/
def buyoutLoan (loanId borrowAmount : ℕ) : Except Error LendPoolLoan :=
  let loan := L.loans loanId
  (L.setLoan loanId { loan with
    state := .Defaulted
    bidBorrowAmount := borrowAmount }).releaseCollateral loan

/-- `liquidateLoan`, storage. -/
def liquidateLoan (loanId borrowAmount : ℕ) : Except Error LendPoolLoan := do
  let loan := L.loans loanId
  require (loan.state = .Auction) Error.LPL_INVALID_LOAN_STATE
  (L.setLoan loanId { loan with
    state := .Defaulted
    bidBorrowAmount := borrowAmount }).releaseCollateral loan

/-- `liquidateLoanMarket`, storage, called by `caller`. -/
def liquidateLoanMarket (caller : Address) (loanId : ℕ) : Except Error LendPoolLoan := do
  require (L.marketAdapters caller = true) Error.LPL_CALLER_MUST_BE_MARKET_ADAPTER
  let loan := L.loans loanId
  require (loan.state = .Active ∨ loan.state = .Auction) Error.LPL_INVALID_LOAN_STATE
  (L.setLoan loanId { loan with state := .Defaulted }).releaseCollateral loan

/-- `reMintUNFT`, storage: the loan changes hands. -/
def reMintUNFT (nftAsset : Address) (tokenId : ℕ) (oldOnBehalfOf newOnBehalfOf : Address) :
    Except Error LendPoolLoan := do
  require (1 ≤ L.userNftCollateral oldOnBehalfOf nftAsset) Error.LP_INVALID_USER_NFT_AMOUNT
  let taken := update₂ L.userNftCollateral oldOnBehalfOf nftAsset
    (L.userNftCollateral oldOnBehalfOf nftAsset - 1)
  let loanId := L.nftToLoanIds nftAsset tokenId
  return { L with
    userNftCollateral := update₂ taken newOnBehalfOf nftAsset (taken newOnBehalfOf nftAsset + 1)
    loans := Function.update L.loans loanId { L.loans loanId with borrower := newOnBehalfOf } }

end LendPoolLoan

/-! ## The calls on the whole state -/

namespace State

variable (D : Deployment) (s : State)

def setLendPoolLoan (L : LendPoolLoan) : State := { s with lendPoolLoan := L }

/-- `LendPoolLoan.getLoanReserveBorrowAmount`, the amount. -/
def getLoanReserveBorrowAmount (loanId : ℕ) : Except Error ℕ := do
  let loan := s.lendPoolLoan.loans loanId
  if loan.scaledAmount = 0 then return 0
  else
    let index ← (s.lendPool.reserves loan.reserveAsset).getNormalizedDebt s.blockTimestamp
    rayMul loan.scaledAmount index

/-- `createLoan`: the collateral goes from the pool to the loan contract and on into the
uNFT, whose receipt goes to the borrower. -/
def createLoan (onBehalfOf nftAsset : Address) (nftTokenId : ℕ) (reserveAsset : Address)
    (amount borrowIndex : ℕ) : Except Error State := do
  let L ← s.lendPoolLoan.createLoan onBehalfOf nftAsset nftTokenId reserveAsset amount borrowIndex
  let s ← (s.setLendPoolLoan L).safeTransferNft D nftAsset D.lendPoolLoan D.lendPool D.lendPoolLoan
    nftTokenId
  s.mintUNft D nftAsset D.lendPoolLoan onBehalfOf nftTokenId

/-- How the closing functions end: the receipt is burnt and the collateral goes to the caller. -/
def releaseNft (caller nftAsset : Address) (nftTokenId : ℕ) : Except Error State := do
  let s ← s.burnUNft D nftAsset D.lendPoolLoan nftTokenId
  s.safeTransferNft D nftAsset D.lendPoolLoan D.lendPoolLoan caller nftTokenId

/-- A closing function called by `caller`: its storage part, then the tokens. -/
def closeLoan (caller : Address) (loanId : ℕ) (storage : LendPoolLoan → Except Error LendPoolLoan) :
    Except Error State := do
  let loan := s.lendPoolLoan.loans loanId
  let L ← storage s.lendPoolLoan
  (s.setLendPoolLoan L).releaseNft D caller loan.nftAsset loan.nftTokenId

def repayLoan (loanId : ℕ) : Except Error State :=
  s.closeLoan D D.lendPool loanId fun L => L.repayLoan loanId

def buyoutLoan (loanId borrowAmount : ℕ) : Except Error State :=
  s.closeLoan D D.lendPool loanId fun L => L.buyoutLoan loanId borrowAmount

def liquidateLoan (loanId borrowAmount : ℕ) : Except Error State :=
  s.closeLoan D D.lendPool loanId fun L => L.liquidateLoan loanId borrowAmount

def liquidateLoanMarket (caller : Address) (loanId : ℕ) : Except Error State :=
  s.closeLoan D caller loanId fun L => L.liquidateLoanMarket caller loanId

/-- `reMintUNFT`: the receipt is burnt and minted again for the new borrower. -/
def reMintUNFT (nftAsset : Address) (tokenId : ℕ) (oldOnBehalfOf newOnBehalfOf : Address) :
    Except Error State := do
  let L ← s.lendPoolLoan.reMintUNFT nftAsset tokenId oldOnBehalfOf newOnBehalfOf
  let s ← (s.setLendPoolLoan L).burnUNft D nftAsset D.lendPoolLoan tokenId
  s.mintUNft D nftAsset D.lendPoolLoan newOnBehalfOf tokenId

end State

/-! ## The loans as a registry -/

/-- The collateral token of a loan. -/
def LoanData.key (l : LoanData) : Address × ℕ := (l.nftAsset, l.nftTokenId)

/-- What holds of every loan by itself: a loan without auction has no bid, and a live loan has
a borrower. -/
structure LoanData.WellFormed (l : LoanData) : Prop where
  noBid : l.state = .Active → l.bidStartTimestamp = 0 ∧ l.bidderAddress = 0 ∧ l.bidPrice = 0
  borrower : l.live → l.borrower ≠ 0

/-- The same loan in the name of another borrower. -/
def LoanData.handTo (l : LoanData) (newBorrower : Address) : LoanData :=
  { l with borrower := newBorrower }

section HandTo

variable (l : LoanData) (u : Address)

@[simp] theorem LoanData.handTo_live : (l.handTo u).live ↔ l.live := Iff.rfl
@[simp] theorem LoanData.handTo_key : (l.handTo u).key = l.key := rfl

end HandTo

/-- The same loan with another debt. -/
def LoanData.owing (l : LoanData) (scaledAmount : ℕ) : LoanData :=
  { l with scaledAmount := scaledAmount }

theorem LoanData.WellFormed.owing {l : LoanData} (h : l.WellFormed) (n : ℕ) :
    (l.owing n).WellFormed :=
  ⟨h.noBid, h.borrower⟩

/-- Loans are filed by their token and counted by collection and by borrower. -/
def LoanData.filing : Filing (Address × ℕ) Address Address LoanData where
  live := LoanData.live
  key := LoanData.key
  group := LoanData.nftAsset
  member := LoanData.borrower

/-- The scaled debt a live loan makes a user owe to a reserve. -/
def LoanData.owed (r u : Address) (l : LoanData) : ℕ :=
  if l.live ∧ l.reserveAsset = r ∧ l.borrower = u then l.scaledAmount else 0

/-- The bid a loan keeps in the pool. -/
def LoanData.escrow (r : Address) (l : LoanData) : ℕ :=
  if l.state = .Auction ∧ l.reserveAsset = r then l.bidPrice else 0

namespace LendPoolLoan

/-- The storage as a registry: identifiers start at one. -/
def registry (L : LendPoolLoan) : Registry (Address × ℕ) LoanData where
  ids := Finset.Ico 1 L.loanIdTracker
  records := L.loans
  index := fun k => L.nftToLoanIds k.1 k.2

def cabinet (L : LendPoolLoan) : Cabinet (Address × ℕ) Address Address LoanData where
  registry := L.registry
  perGroup := L.nftTotalCollateral
  perMember := L.userNftCollateral

/-- The invariant of the storage. -/
structure Loans (L : LendPoolLoan) : Prop where
  kept : Kept LoanData.filing L.cabinet
  fresh : ∀ id, L.loanIdTracker ≤ id → L.loans id = .empty
  tracker_pos : 1 ≤ L.loanIdTracker
  wellFormed : ∀ id, (L.loans id).WellFormed

/-- What one call did to the storage: the record taken out and the record put in. -/
structure LoanMove (L L' : LendPoolLoan) (old new : Option LoanData) : Prop where
  turn : Turn LoanData.filing L.cabinet L'.cabinet old new
  tracker_le : L.loanIdTracker ≤ L'.loanIdTracker
  fresh : ∀ id, L'.loanIdTracker ≤ id → L'.loans id = L.loans id
  wellFormed : ∀ id, (L.loans id).WellFormed → (L'.loans id).WellFormed

theorem Loans.coherent {L : LendPoolLoan} (h : L.Loans) :
    Coherent LoanData.live LoanData.key L.registry := h.kept.coherent

theorem LoanMove.move {L L' : LendPoolLoan} {old new : Option LoanData}
    (m : LoanMove L L' old new) :
    Move LoanData.live LoanData.key L.registry L'.registry old new := m.turn.move

variable {L L' : LendPoolLoan} {old new : Option LoanData}

/-- Nothing changed. -/
theorem LoanMove.idle (L : LendPoolLoan) : LoanMove L L none none :=
  ⟨.idle _ _, le_rfl, fun _ _ => rfl, fun _ h => h⟩

/-- **The loan invariant is kept by every move.** -/
theorem LoanMove.loans (m : LoanMove L L' old new) (h : L.Loans) : L'.Loans where
  kept := m.turn.kept h.kept
  fresh id hid := (m.fresh id hid).trans (h.fresh id (m.tracker_le.trans hid))
  tracker_pos := h.tracker_pos.trans m.tracker_le
  wellFormed id := m.wellFormed id (h.wellFormed id)

/-- Looking a loan up: a non-zero identifier is that of the live loan on the token. -/
theorem Loans.held (h : L.Loans) {nftAsset : Address} {nftTokenId : ℕ}
    (hid : L.getCollateralLoanId nftAsset nftTokenId ≠ 0) :
    L.registry.held (nftAsset, nftTokenId) = 
      some (L.loans (L.getCollateralLoanId nftAsset nftTokenId)) ∧
      (L.loans (L.getCollateralLoanId nftAsset nftTokenId)).live ∧
      (L.loans (L.getCollateralLoanId nftAsset nftTokenId)).nftAsset = nftAsset ∧
      (L.loans (L.getCollateralLoanId nftAsset nftTokenId)).nftTokenId = nftTokenId := by
  have hheld : L.registry.held (nftAsset, nftTokenId)
      = some (L.loans (L.getCollateralLoanId nftAsset nftTokenId)) := held_eq_some.mpr ⟨hid, rfl⟩
  obtain ⟨hl, hk⟩ := h.coherent.held_live hheld
  exact ⟨hheld, hl, congrArg Prod.fst hk, congrArg Prod.snd hk⟩

end LendPoolLoan

/-! ## The moves the functions make -/

namespace LendPoolLoan

variable {L : LendPoolLoan} {nftAsset : Address} {nftTokenId : ℕ}

theorem uncurry_update₂ (f : Address → ℕ → ℕ) (a : Address) (t v : ℕ) :
    (fun k : Address × ℕ => update₂ f a t v k.1 k.2)
      = Function.update (fun k : Address × ℕ => f k.1 k.2) (a, t) v := by
  funext k
  simp only [update₂_apply, Function.update_apply, Prod.ext_iff]

/-- Writing a record under the identifier of a loan leaves the unused identifiers alone. -/
theorem update_fresh (h : L.Loans) (hid : L.getCollateralLoanId nftAsset nftTokenId ≠ 0)
    (loan : LoanData) (id : ℕ) (hge : L.loanIdTracker ≤ id) :
    Function.update L.loans (L.getCollateralLoanId nftAsset nftTokenId) loan id = L.loans id := by
  have hmem := h.coherent.mem (k := (nftAsset, nftTokenId)) hid
  have hlt := (Finset.mem_Ico.mp hmem).2
  exact Function.update_of_ne (Nat.ne_of_gt (Nat.lt_of_lt_of_le hlt hge)) _ _

/-- Writing a well-formed record keeps every record well formed. -/
theorem update_wellFormed {loans : ℕ → LoanData} {loanId : ℕ} {loan : LoanData}
    (hloan : (loans loanId).WellFormed → loan.WellFormed) (id : ℕ) (hw : (loans id).WellFormed) :
    (Function.update loans loanId loan id).WellFormed := by
  rw [Function.update_apply]
  split
  · rename_i he
    subst he
    exact hloan hw
  · exact hw

/-- Rewriting a live loan in place, with collateral and borrower as they are. -/
theorem setLoan_move (h : L.Loans) (hid : L.getCollateralLoanId nftAsset nftTokenId ≠ 0)
    {loan : LoanData} (hlive : loan.live)
    (hkey : loan.key = (L.loans (L.getCollateralLoanId nftAsset nftTokenId)).key)
    (hborrower : loan.borrower = (L.loans (L.getCollateralLoanId nftAsset nftTokenId)).borrower)
    (hwf : (L.loans (L.getCollateralLoanId nftAsset nftTokenId)).WellFormed → loan.WellFormed) :
    LoanMove L (L.setLoan (L.getCollateralLoanId nftAsset nftTokenId) loan)
      (some (L.loans (L.getCollateralLoanId nftAsset nftTokenId))) (some loan) := by
  obtain ⟨hheld, -, ha, ht⟩ := h.held hid
  have hk : LoanData.filing.key loan = (nftAsset, nftTokenId) := hkey.trans (Prod.ext ha ht)
  refine ⟨.revise h.kept (by rw [hk]; exact hheld) hlive
    (congrArg Prod.fst hkey) hborrower ?_ rfl rfl,
    le_rfl, update_fresh h hid loan, update_wellFormed hwf⟩
  rw [hk]; rfl

/-- **Closing a loan.** Both guards on the counters pass, because the loan itself is counted. -/
theorem releaseCollateral_spec (h : L.Loans) (hid : L.getCollateralLoanId nftAsset nftTokenId ≠ 0)
    {loan : LoanData} (hclosed : ¬ loan.live)
    (hkey : loan.key = (L.loans (L.getCollateralLoanId nftAsset nftTokenId)).key) :
    Sat ((L.setLoan (L.getCollateralLoanId nftAsset nftTokenId) loan).releaseCollateral
        (L.loans (L.getCollateralLoanId nftAsset nftTokenId)))
      (fun L' => LoanMove L L' (some (L.loans (L.getCollateralLoanId nftAsset nftTokenId)))
        (some loan)
        ∧ L'.marketAdapters = L.marketAdapters)
      (fun _ => False) := by
  obtain ⟨hheld, -, ha, ht⟩ := h.held hid
  have hk : LoanData.filing.key loan = (nftAsset, nftTokenId) := hkey.trans (Prod.ext ha ht)
  -- the loan is one of those its user and its collection are counted with
  refine Sat.bind (Sat.require fun hn => hn (h.kept.one_le_perMember hheld)) fun _ _ => ?_
  refine Sat.bind (Sat.require fun hn => hn (h.kept.one_le_perGroup hheld)) fun _ _ => ?_
  refine ⟨⟨.close h.kept (by rw [hk]; exact hheld) hclosed ?_ (fun g => ?_) (fun u g => ?_), le_rfl,
    update_fresh h hid loan, update_wellFormed fun _ =>
      ⟨fun hs => absurd (.inl hs) hclosed, fun hs => absurd hs hclosed⟩⟩, rfl⟩
  · rw [hk]
    simp only [cabinet, registry, setLoan, uncurry_update₂, ha, ht]
    rfl
  · exact update_modify L.nftTotalCollateral _ (· - 1) g
  · exact update₂_modify L.userNftCollateral _ _ (· - 1) u g

/-- Opening a loan: the record put in is active, without a bid, and owes the scaled amount. -/
theorem createLoan_spec (h : L.Loans) {onBehalfOf reserveAsset : Address} {amount borrowIndex : ℕ}
    (hborrower : onBehalfOf ≠ 0) :
    Sat (L.createLoan onBehalfOf nftAsset nftTokenId reserveAsset amount borrowIndex)
      (fun L' => ∃ loan, LoanMove L L' none (some loan) ∧ L'.marketAdapters = L.marketAdapters ∧
        L.getCollateralLoanId nftAsset nftTokenId = 0 ∧
        rayDiv amount borrowIndex = .ok loan.scaledAmount ∧ loan.state = .Active ∧
        loan.key = (nftAsset, nftTokenId) ∧ loan.borrower = onBehalfOf ∧
        loan.reserveAsset = reserveAsset)
      Error.Benign := by
  refine Sat.bind (Sat.require fun _ => trivial) fun _ hfree => ?_
  refine Sat.bind unitDiv_benign fun amountScaled hscaled => ?_
  -- the record under a fresh identifier is empty, so it brings no bid along
  have hempty := h.fresh L.loanIdTracker le_rfl
  refine ⟨{ L.loans L.loanIdTracker with
      loanId := L.loanIdTracker, state := .Active, borrower := onBehalfOf, nftAsset := nftAsset,
      nftTokenId := nftTokenId, reserveAsset := reserveAsset, scaledAmount := amountScaled },
    ⟨.file (Nat.ne_of_gt h.tracker_pos) ?_ hfree (.inl rfl) ?_
        (fun g => ?_) (fun u g => ?_), Nat.le_succ _, ?_, update_wellFormed fun _ => ?_⟩,
    rfl, hfree, hscaled, rfl, rfl, rfl, rfl⟩
  · exact fun hmem => lt_irrefl _ (Finset.mem_Ico.mp hmem).2
  · simp only [cabinet, registry, uncurry_update₂, Nat.Ico_succ_right_eq_insert_Ico h.tracker_pos]
    rfl
  · exact update_modify L.nftTotalCollateral nftAsset (· + 1) g
  · exact update₂_modify L.userNftCollateral onBehalfOf nftAsset (· + 1) u g
  · exact fun id hge => Function.update_of_ne (Nat.ne_of_gt hge) _ _
  · exact ⟨fun _ => by simp [hempty, LoanData.empty], fun _ => hborrower⟩

/-- Handing a loan over: the same record under another borrower. -/
theorem reMintUNFT_spec (h : L.Loans) (hid : L.getCollateralLoanId nftAsset nftTokenId ≠ 0)
    {loan : LoanData} (hloan : L.loans (L.getCollateralLoanId nftAsset nftTokenId) = loan)
    {newOnBehalfOf : Address} (hnew : newOnBehalfOf ≠ 0) :
    Sat (L.reMintUNFT nftAsset nftTokenId loan.borrower newOnBehalfOf)
      (fun L' => LoanMove L L' (some loan) (some (loan.handTo newOnBehalfOf))
        ∧ L'.marketAdapters = L.marketAdapters)
      (fun _ => False) := by
  subst hloan
  obtain ⟨hheld, hl, ha, ht⟩ := h.held hid
  have huser := h.kept.one_le_perMember hheld
  have hk : LoanData.filing.key
      ((L.loans (L.getCollateralLoanId nftAsset nftTokenId)).handTo newOnBehalfOf)
      = (nftAsset, nftTokenId) := Prod.ext ha ht
  have hgroup : LoanData.filing.group (L.loans (L.getCollateralLoanId nftAsset nftTokenId))
    = nftAsset := ha
  rw [hgroup] at huser
  refine Sat.bind (Sat.require fun hn => hn huser) fun _ _ => ?_
  refine ⟨⟨.handOver h.kept (by rw [hk]; exact hheld) hl rfl ?_ rfl
      (by rw [hgroup]; exact update₂_modify L.userNftCollateral _ _ (· - 1)) (fun u g => ?_),
        le_rfl, update_fresh h hid _,
      update_wellFormed fun hw => ⟨hw.noBid, fun _ => hnew⟩⟩, rfl⟩
  · rw [hk]; rfl
  · rw [hgroup]
    exact update₂_modify _ newOnBehalfOf nftAsset (· + 1) u g

theorem addDebt_spec {loan : LoanData} {amount borrowIndex : ℕ} :
    Sat (addDebt loan amount borrowIndex)
      (fun l => ∃ n, rayDiv amount borrowIndex = .ok n ∧ l = loan.owing (loan.scaledAmount + n))
      Error.Benign := by
  refine Sat.bind unitDiv_benign fun n hn => ?_
  exact Sat.bind (Sat.require fun _ => trivial) fun _ _ => ⟨n, hn, rfl⟩

theorem takeDebt_spec {loan : LoanData} {amount borrowIndex : ℕ} :
    Sat (takeDebt loan amount borrowIndex)
      (fun l => ∃ n, rayDiv amount borrowIndex = .ok n ∧ n ≤ loan.scaledAmount ∧
        l = loan.owing (loan.scaledAmount - n)) Error.Benign := by
  refine Sat.bind unitDiv_benign fun n hn => ?_
  refine Sat.bind (Sat.require fun _ => trivial) fun _ _ => ?_
  exact Sat.bind (Sat.require fun _ => trivial) fun _ hle => ⟨n, hn, hle, rfl⟩

/-- Borrowing more on a loan. -/
theorem updateLoan_added_spec (h : L.Loans) (hid : L.getCollateralLoanId nftAsset nftTokenId ≠ 0)
    {loan : LoanData} (hloan : L.loans (L.getCollateralLoanId nftAsset nftTokenId) = loan)
    {amount borrowIndex : ℕ} (hpos : 0 < amount) :
    Sat (L.updateLoan (L.getCollateralLoanId nftAsset nftTokenId) amount 0 borrowIndex)
      (fun L' => ∃ n, rayDiv amount borrowIndex = .ok n ∧ loan.state = .Active ∧
        LoanMove L L' (some loan) (some (loan.owing (loan.scaledAmount + n)))
        ∧ L'.marketAdapters = L.marketAdapters) Error.Benign := by
  subst hloan
  refine Sat.bind (Sat.require fun _ => trivial) fun _ hactive => ?_
  refine Sat.bind (Sat.applyIf (fun _ => addDebt_spec) fun hn => absurd hpos hn) fun l hl => ?_
  obtain ⟨n, hn, rfl⟩ := hl
  refine ⟨n, hn, hactive, setLoan_move h hid (.inl hactive) rfl rfl fun hw => hw.owing _, rfl⟩

/-- Paying back part of a loan. -/
theorem updateLoan_taken_spec (h : L.Loans) (hid : L.getCollateralLoanId nftAsset nftTokenId ≠ 0)
    {loan : LoanData} (hloan : L.loans (L.getCollateralLoanId nftAsset nftTokenId) = loan)
    {amount borrowIndex : ℕ} (hpos : 0 < amount) :
    Sat (L.updateLoan (L.getCollateralLoanId nftAsset nftTokenId) 0 amount borrowIndex)
      (fun L' => ∃ n, rayDiv amount borrowIndex = .ok n ∧ n ≤ loan.scaledAmount ∧
        loan.state = .Active ∧
        LoanMove L L' (some loan) (some (loan.owing (loan.scaledAmount - n)))
        ∧ L'.marketAdapters = L.marketAdapters) Error.Benign := by
  subst hloan
  refine Sat.bind (Sat.require fun _ => trivial) fun _ hactive => ?_
  refine Sat.bind (P := fun l => l = L.loans (L.getCollateralLoanId nftAsset nftTokenId))
    (Sat.applyIf (fun hn => absurd hn (lt_irrefl 0)) fun _ => rfl) fun l hl => ?_
  subst hl
  refine Sat.bind (Sat.applyIf (fun _ => takeDebt_spec) fun hn => absurd hpos hn) fun l hl => ?_
  obtain ⟨n, hn, hle, rfl⟩ := hl
  refine ⟨n, hn, hle, hactive, setLoan_move h hid (.inl hactive) rfl rfl fun hw => hw.owing _, rfl⟩

/-- Bidding on a loan: it is, or stays, in auction, with the new bid; the debt is as before. -/
theorem auctionLoan_spec (h : L.Loans) (hid : L.getCollateralLoanId nftAsset nftTokenId ≠ 0)
    {loan : LoanData} (hloan : L.loans (L.getCollateralLoanId nftAsset nftTokenId) = loan)
    {onBehalfOf : Address} {bidPrice borrowAmount blockTimestamp : ℕ} :
    Sat (L.auctionLoan (L.getCollateralLoanId nftAsset nftTokenId) onBehalfOf bidPrice borrowAmount
        blockTimestamp)
      (fun L' => ∃ l, LoanMove L L' (some loan) (some l)
        ∧ l.state = .Auction ∧ l.bidPrice = bidPrice
        ∧ l.key = loan.key
        ∧ l.borrower = loan.borrower
        ∧ l.reserveAsset = loan.reserveAsset
        ∧ l.scaledAmount = loan.scaledAmount
        ∧ L'.marketAdapters = L.marketAdapters) Error.Benign := by
  subst hloan
  refine Sat.bind (P := fun l : LoanData => l.state = .Auction
      ∧ l.key = (L.loans (L.getCollateralLoanId nftAsset nftTokenId)).key
      ∧ l.borrower = (L.loans (L.getCollateralLoanId nftAsset nftTokenId)).borrower
      ∧ l.reserveAsset = (L.loans (L.getCollateralLoanId nftAsset nftTokenId)).reserveAsset
      ∧ l.scaledAmount = (L.loans (L.getCollateralLoanId nftAsset nftTokenId)).scaledAmount)
    ?_ fun l hl => ?_
  · -- the first bid starts the auction, and a later one finds it started
    refine Sat.ite (fun _ => ?_) fun _ => ?_
    · exact Sat.bind (Sat.require fun _ => trivial) fun _ _ => ⟨rfl, rfl, rfl, rfl, rfl⟩
    · refine Sat.bind (Sat.require fun _ => trivial) fun _ ha => ?_
      exact Sat.bind (Sat.require fun _ => trivial) fun _ _ => ⟨ha, rfl, rfl, rfl, rfl⟩
  obtain ⟨hs, hk, hb, hr, hn⟩ := hl
  obtain ⟨-, hlive, -⟩ := h.held hid
  refine ⟨_, setLoan_move h hid (.inr hs) hk hb fun hw =>
    ⟨fun he => ?_, fun _ => ?_⟩, hs, rfl, hk, hb,
    hr, hn, rfl⟩
  · exact absurd (hs.symm.trans he) (by decide)
  · exact hb ▸ hw.borrower hlive

/-- Redeeming a loan: it is active again, without a bid, and owes less. -/
theorem redeemLoan_spec (h : L.Loans) (hid : L.getCollateralLoanId nftAsset nftTokenId ≠ 0)
    {loan : LoanData} (hloan : L.loans (L.getCollateralLoanId nftAsset nftTokenId) = loan)
    {amount borrowIndex : ℕ} :
    Sat (L.redeemLoan (L.getCollateralLoanId nftAsset nftTokenId) amount borrowIndex)
      (fun L' => ∃ l n, LoanMove L L' (some loan) (some l)
        ∧ l.state = .Active ∧ rayDiv amount borrowIndex = .ok n
        ∧ n ≤ loan.scaledAmount
        ∧ l.key = loan.key
        ∧ l.borrower = loan.borrower
        ∧ l.reserveAsset = loan.reserveAsset
        ∧ l.scaledAmount = loan.scaledAmount - n
        ∧ L'.marketAdapters = L.marketAdapters) Error.Benign := by
  subst hloan
  refine Sat.bind (Sat.require fun _ => trivial) fun _ hauction => ?_
  refine Sat.bind takeDebt_spec fun l hl => ?_
  obtain ⟨n, hn, hle, rfl⟩ := hl
  refine ⟨_, n, setLoan_move h hid (.inl rfl) rfl rfl fun hw =>
    ⟨fun _ => ⟨rfl, rfl, rfl⟩, fun _ => ?_⟩,
    rfl, hn, hle, rfl, rfl, rfl, rfl, rfl⟩
  exact hw.borrower (.inr hauction)

/-- What a closing function does to the storage: the loan is taken out, and a record that is no
longer live is put in. -/
def Closes (L L' : LendPoolLoan) (loan : LoanData) : Prop :=
  ∃ l, LoanMove L L' (some loan) (some l) ∧ ¬ l.live ∧ l.key = loan.key
    ∧ L'.marketAdapters = L.marketAdapters

/-- A closing function that writes the record `loan` closes the loan on the token. -/
theorem closes_of_releaseCollateral (h : L.Loans)
    (hid : L.getCollateralLoanId nftAsset nftTokenId ≠ 0) {loan : LoanData} (hclosed : ¬ loan.live)
    (hkey : loan.key = (L.loans (L.getCollateralLoanId nftAsset nftTokenId)).key) :
    Sat ((L.setLoan (L.getCollateralLoanId nftAsset nftTokenId) loan).releaseCollateral
        (L.loans (L.getCollateralLoanId nftAsset nftTokenId)))
      (fun L' => Closes L L' (L.loans (L.getCollateralLoanId nftAsset nftTokenId))) Error.Benign :=
  (releaseCollateral_spec h hid hclosed hkey).mono
    (fun _ hm => ⟨loan, hm.1, hclosed, hkey, hm.2⟩) fun _ hf => hf.elim

theorem repayLoan_spec (h : L.Loans) (hid : L.getCollateralLoanId nftAsset nftTokenId ≠ 0) :
    Sat (L.repayLoan (L.getCollateralLoanId nftAsset nftTokenId))
      (fun L' => Closes L L' (L.loans (L.getCollateralLoanId nftAsset nftTokenId))) Error.Benign :=
  Sat.bind (Sat.require fun _ => trivial) fun _ _ =>
    closes_of_releaseCollateral h hid (by rintro (h | h) <;> cases h) rfl

/-- `buyoutLoan` checks no state, but a loan found by its token is live. -/
theorem buyoutLoan_spec (h : L.Loans) (hid : L.getCollateralLoanId nftAsset nftTokenId ≠ 0)
    {borrowAmount : ℕ} :
    Sat (L.buyoutLoan (L.getCollateralLoanId nftAsset nftTokenId) borrowAmount)
      (fun L' => Closes L L' (L.loans (L.getCollateralLoanId nftAsset nftTokenId))) Error.Benign :=
  closes_of_releaseCollateral h hid (by rintro (h | h) <;> cases h) rfl

theorem liquidateLoan_spec (h : L.Loans) (hid : L.getCollateralLoanId nftAsset nftTokenId ≠ 0)
    {borrowAmount : ℕ} :
    Sat (L.liquidateLoan (L.getCollateralLoanId nftAsset nftTokenId) borrowAmount)
      (fun L' => Closes L L' (L.loans (L.getCollateralLoanId nftAsset nftTokenId))) Error.Benign :=
  Sat.bind (Sat.require fun _ => trivial) fun _ _ =>
    closes_of_releaseCollateral h hid (by rintro (h | h) <;> cases h) rfl

theorem liquidateLoanMarket_spec (h : L.Loans)
    (hid : L.getCollateralLoanId nftAsset nftTokenId ≠ 0) {caller : Address} :
    Sat (L.liquidateLoanMarket caller (L.getCollateralLoanId nftAsset nftTokenId))
      (fun L' => Closes L L' (L.loans (L.getCollateralLoanId nftAsset nftTokenId))) Error.Benign :=
  Sat.bind (Sat.require fun _ => trivial) fun _ _ =>
    Sat.bind (Sat.require fun _ => trivial) fun _ _ =>
      closes_of_releaseCollateral h hid (by rintro (h | h) <;> cases h) rfl

end LendPoolLoan

/-! ## Receipts -/

/-- The receipts agree with the loans: the uNFT of a token exists exactly while a loan on it is
live, and belongs to its borrower. -/
def Receipts (L : LendPoolLoan) (uNfts : Address → UNft) : Prop :=
  ∀ a t, (uNfts a).owner t = (L.registry.held (a, t)).elim 0 LoanData.borrower

namespace LendPoolLoan

/-- Receipts still agree after a move, when the receipt of the record put in follows its
borrower and all others stay. -/
theorem LoanMove.receipts {L L' : LendPoolLoan} {old : Option LoanData} {l : LoanData}
    {U U' : Address → UNft} (m : LoanMove L L' old (some l)) (h : L.Loans) (hU : Receipts L U)
    (hown : ∀ a t, (U' a).owner t
      = if l.key = (a, t) then (if l.live then l.borrower else 0) else (U a).owner t) :
    Receipts L' U' := by
  intro a t
  rw [hown, m.move.held_new h.coherent]
  by_cases hk : l.key = (a, t)
  · by_cases hl : l.live <;> simp [hk, hl]
  · simp [hk, hU a t]

/-- Receipts still agree when the loan keeps its borrower and no receipt is touched. -/
theorem LoanMove.receipts_kept {L L' : LendPoolLoan} {l₀ l : LoanData} {U : Address → UNft}
    (m : LoanMove L L' (some l₀) (some l)) (h : L.Loans) (hU : Receipts L U) (hl : l.live)
    (hb : l.borrower = l₀.borrower) : Receipts L' U := by
  refine m.receipts h hU fun a t => ?_
  rw [if_pos hl]
  split
  · rename_i hk
    have hold : L.registry.held (a, t) = some l₀ := hk ▸ m.move.held_old rfl
    rw [hU, hold]
    exact hb.symm
  · rfl

end LendPoolLoan

namespace State

variable {D : Deployment} {s : State} {nftAsset : Address} {nftTokenId : ℕ}

open LendPoolLoan

/-- What opening a loan does to the whole state. -/
theorem createLoan_spec (h : s.lendPoolLoan.Loans) {onBehalfOf reserveAsset : Address}
    {amount borrowIndex : ℕ} (hborrower : onBehalfOf ≠ 0) :
    Sat (s.createLoan D onBehalfOf nftAsset nftTokenId reserveAsset amount borrowIndex)
      (fun s' => ∃ L' loan E m,
        s' = (s.setLendPoolLoan L').setNfts E nftAsset
          ⟨Function.update (s.uNfts nftAsset).owner nftTokenId onBehalfOf, m⟩ ∧
        LoanMove s.lendPoolLoan L' none (some loan) ∧
        L'.marketAdapters = s.lendPoolLoan.marketAdapters ∧
        s.lendPoolLoan.getCollateralLoanId nftAsset nftTokenId = 0 ∧
        rayDiv amount borrowIndex = .ok loan.scaledAmount ∧ loan.state = .Active ∧
        loan.key = (nftAsset, nftTokenId) ∧ loan.borrower = onBehalfOf ∧
        loan.reserveAsset = reserveAsset)
      Error.Benign := by
  refine Sat.bind (LendPoolLoan.createLoan_spec h hborrower) fun L' hL => ?_
  obtain ⟨loan, hrest⟩ := hL
  refine Sat.bind (safeTransferNft_spec D) fun s₁ h₁ => ?_
  obtain ⟨E, rfl⟩ := h₁
  refine (mintUNft_spec D).imp fun s₂ h₂ => ?_
  obtain ⟨-, -, E', m, rfl⟩ := h₂
  exact ⟨L', loan, E', m, rfl, hrest⟩

/-- **Closing a loan on the whole state.** The loan on the token is closed, its receipt is
gone, and only the loan contract and collateral tokens are touched. -/
theorem closeLoan_spec (h : s.lendPoolLoan.Loans) {caller : Address}
    (hid : s.lendPoolLoan.getCollateralLoanId nftAsset nftTokenId ≠ 0) {loan : LoanData}
    (hloan : s.lendPoolLoan.loans (s.lendPoolLoan.getCollateralLoanId nftAsset nftTokenId) = loan)
    {storage : LendPoolLoan → Except Error LendPoolLoan}
    (hstorage : Sat (storage s.lendPoolLoan) (fun L' => Closes s.lendPoolLoan L' loan)
      Error.Benign) :
    Sat (s.closeLoan D caller (s.lendPoolLoan.getCollateralLoanId nftAsset nftTokenId) storage)
      (fun s' => ∃ L' E m, s' = (s.setLendPoolLoan L').setNfts E nftAsset
          ⟨Function.update (s.uNfts nftAsset).owner nftTokenId 0, m⟩ ∧
        Closes s.lendPoolLoan L' loan) Error.Benign := by
  subst hloan
  obtain ⟨-, -, ha, ht⟩ := h.held hid
  refine Sat.bind hstorage fun L' hL => ?_
  refine Sat.bind (burnUNft_spec D) fun s₁ h₁ => ?_
  obtain ⟨-, E, m, rfl⟩ := h₁
  refine (safeTransferNft_spec D).imp fun s₂ h₂ => ?_
  obtain ⟨E', rfl⟩ := h₂
  rw [ha, ht]
  exact ⟨L', E', m, rfl, hL⟩

/-- Handing a loan over on the whole state: loan and receipt both go to the new borrower. -/
theorem reMintUNFT_spec (h : s.lendPoolLoan.Loans) {newOnBehalfOf : Address}
    (hid : s.lendPoolLoan.getCollateralLoanId nftAsset nftTokenId ≠ 0) {loan : LoanData}
    (hloan : s.lendPoolLoan.loans (s.lendPoolLoan.getCollateralLoanId nftAsset nftTokenId) = loan)
    (hnew : newOnBehalfOf ≠ 0) :
    Sat (s.reMintUNFT D nftAsset nftTokenId loan.borrower newOnBehalfOf)
      (fun s' => ∃ L' E m, s' = (s.setLendPoolLoan L').setNfts E nftAsset
          ⟨Function.update (s.uNfts nftAsset).owner nftTokenId newOnBehalfOf, m⟩ ∧
        LoanMove s.lendPoolLoan L' (some loan) (some (loan.handTo newOnBehalfOf)) ∧
        L'.marketAdapters = s.lendPoolLoan.marketAdapters) Error.Benign := by
  refine Sat.bind ((LendPoolLoan.reMintUNFT_spec h hid hloan hnew).mono (fun _ hm => hm)
    fun _ hf => hf.elim) fun L' hL => ?_
  refine Sat.bind (burnUNft_spec D) fun s₁ h₁ => ?_
  obtain ⟨-, E, m, rfl⟩ := h₁
  refine (mintUNft_spec D).imp fun s₂ h₂ => ?_
  obtain ⟨-, -, E', m', rfl⟩ := h₂
  refine ⟨L', E', m', ?_, hL⟩
  simp [setNfts, setLendPoolLoan, Function.update_idem]

/-- In the block of the last update of its reserve, a loan is reported to owe its scaled amount at
the stored index. -/
theorem getLoanReserveBorrowAmount_of_updated {loanId : ℕ} {loan : LoanData}
    (hloan : s.lendPoolLoan.loans loanId = loan)
    (hupdated : (s.lendPool.reserves loan.reserveAsset).lastUpdateTimestamp
      = uint40 s.blockTimestamp) :
    s.getLoanReserveBorrowAmount loanId
      = rayMul loan.scaledAmount (s.lendPool.reserves loan.reserveAsset).variableBorrowIndex := by
  subst hloan
  unfold getLoanReserveBorrowAmount
  dsimp only
  split
  · rename_i hz
    rw [hz, rayMul, unitMul_zero_left]
    rfl
  · rw [ReserveData.getNormalizedDebt_of_updated hupdated, ok_bind]

/-- **Full settlement.** At an index of at least one ray, scaling a loan's outstanding amount
back down gives its scaled amount: nothing is left over and nothing is missing. -/
theorem scaled_getLoanReserveBorrowAmount {loanId b n : ℕ} {loan : LoanData}
    (hloan : s.lendPoolLoan.loans loanId = loan)
    (hupdated : (s.lendPool.reserves loan.reserveAsset).lastUpdateTimestamp
      = uint40 s.blockTimestamp)
    (hindex : RAY ≤ (s.lendPool.reserves loan.reserveAsset).variableBorrowIndex)
    (hb : s.getLoanReserveBorrowAmount loanId = .ok b)
    (hn : rayDiv b (s.lendPool.reserves loan.reserveAsset).variableBorrowIndex = .ok n) :
    n = loan.scaledAmount := by
  obtain ⟨-, rfl⟩ := rayDiv_spec hn
  rw [getLoanReserveBorrowAmount_of_updated hloan hupdated] at hb
  rw [rayMul_spec hb]
  exact FixedPoint.divHalfUp_scale_unscale _ RAY_pos hindex

theorem getLoanReserveBorrowAmount_benign {loanId : ℕ} :
    Sat (s.getLoanReserveBorrowAmount loanId)
      (fun b => s.getLoanReserveBorrowAmount loanId = .ok b) Error.Benign := by
  refine Sat.self (Q := fun _ => True) (Sat.ite (fun _ => trivial) fun _ => ?_)
  refine Sat.bind (P := fun _ => True) (Sat.ite (fun _ => trivial) fun _ => ?_) fun _ _ =>
    unitMul_benign.imp fun _ _ => trivial
  exact Sat.bind calculateCompoundedInterest_benign fun _ _ => unitMul_benign.imp fun _ _ => trivial

end State

end Unlockd
