/-
What an operation of the protocol takes of its caller, and what it pays out for it.

The accounts name every payment, also those that stay within the protocol. To an account outside
only two things matter: what an operation takes of it as the caller, and what it is paid by it. This
is the bill of the operation. It can be read off the state before, and the balances of reserve
assets play no part in it, so that whoever has to bring the tokens along can know the bill first.
-/
import Unlockd.Exits
import Unlockd.VaultRounding

set_option autoImplicit false

namespace Unlockd

open Outcome Transfers FixedPoint LendPoolLoan

/-! ## Accounts outside -/

/-- An account outside of the protocol and of the vault behind it. -/
def Deployment.Outsider (D : Deployment) (a : Address) : Prop := D.isUser a ∧ a ≠ D.yVaultWETH

namespace Deployment.Outsider

variable {D : Deployment} {a : Address}

theorem ne_protocol (h : D.Outsider a) {b : Address} (hb : D.isProtocol b) : b ≠ a := by
  rintro rfl
  exact h.1.2 hb

/-- Nothing that the protocol pays is sent by an account outside. -/
theorem sent_eq_zero (h : D.Outsider a) {ts : List (Transfer Address Address)}
    (hts : ∀ t ∈ ts, D.isProtocol t.src) (r : Address) : sent ts r a = 0 :=
  Transfers.sent_eq_zero r fun t ht => h.ne_protocol (hts t ht)

/-- The uToken of a reserve is not outside, nor is the zero address where there is none. -/
theorem ne_uToken (h : D.Outsider a) {s : State} (hb : Books D s) (r : Address) :
    (s.lendPool.reserves r).uTokenAddress ≠ a := by
  intro he
  by_cases hz : (s.lendPool.reserves r).uTokenAddress = 0
  · exact h.1.1 (he.symm.trans hz)
  · exact h.ne_protocol (.inr (.inr (.inr (.inr (hb.proxies r hz))))) he

/-- What goes into the vault neither comes from there nor gets there. -/
theorem intoVault (h : D.Outsider a) {uToken : Address} (hu : uToken ≠ a) (asset r : Address)
    (amount : ℕ) : sent (State.intoVault D asset uToken amount) r a = 0 ∧
      received (State.intoVault D asset uToken amount) r a = 0 := by
  refine ⟨Transfers.sent_eq_zero r fun t ht => ?_, received_eq_zero r fun t ht => ?_⟩
  · rw [(mem_onlyIf.mp ht).2]
    exact hu
  · rw [(mem_onlyIf.mp ht).2]
    exact h.2.symm

@[inherit_doc intoVault]
theorem outOfVault (h : D.Outsider a) {uToken : Address} (hu : uToken ≠ a) (asset r : Address)
    (amount : ℕ) : sent (State.outOfVault D asset uToken amount) r a = 0 ∧
      received (State.outOfVault D asset uToken amount) r a = 0 := by
  refine ⟨Transfers.sent_eq_zero r fun t ht => ?_, received_eq_zero r fun t ht => ?_⟩
  · rw [(mem_onlyIf.mp ht).2]
    exact h.2.symm
  · rw [(mem_onlyIf.mp ht).2]
    exact hu

end Deployment.Outsider

/-! ## Bills -/

/-- What an operation takes of its caller, and what it pays out. -/
structure Bill where
  asset : Address
  paid : ℕ
  payouts : List (Transfer Address Address)

/-- The bill as transfers of the caller and of the protocol. -/
def Bill.transfers (D : Deployment) (b : Bill) (payer : Address) : List
    (Transfer Address Address) :=
  ⟨b.asset, payer, D.lendPool, b.paid⟩ :: b.payouts

/-- Outside, what the payer sends is what it pays. -/
theorem Bill.sent_transfers {D : Deployment} {a : Address} (ha : D.Outsider a) {b : Bill}
    (within : ∀ t ∈ b.payouts, D.isProtocol t.src) (payer r : Address) :
    sent (b.transfers D payer) r a = if b.asset = r ∧ payer = a then b.paid else 0 := by
  unfold Bill.transfers
  rw [sent_cons, ha.sent_eq_zero within, Nat.add_zero]

/-- What an account outside receives is paid out to it. -/
theorem Bill.received_transfers {D : Deployment} {a : Address} (ha : D.Outsider a) (b : Bill)
    (payer r : Address) : received (b.transfers D payer) r a = received b.payouts r a := by
  unfold Bill.transfers
  rw [received_cons, Nat.add_eq_right]
  exact if_neg fun hx => ha.ne_protocol (.inl rfl) hx.2

/-- An operation went by its bill: it is the protocol that pays out, and the balances of accounts
outside have changed by just that. -/
structure Billed (D : Deployment) (s s' : State) (payer : Address) (b : Bill) : Prop where
  within : ∀ t ∈ b.payouts, D.isProtocol t.src
  booked : ∀ a, D.Outsider a → BookedFor a (b.transfers D payer)
    (fun r => (s.erc20 r).balanceOf a) fun r => (s'.erc20 r).balanceOf a

/-- Payments go by a bill if, outside of the protocol, they take of the payer alone and pay what the
bill pays out. -/
theorem Billed.ofPosted {D : Deployment} {s s' : State} {payer : Address} {b : Bill}
    {ts : List (Transfer Address Address)} (h : Posted ts s.erc20 s'.erc20)
    (within : ∀ t ∈ b.payouts, D.isProtocol t.src)
    (hts : ∀ a, D.Outsider a → ∀ r,
      sent ts r a = (if b.asset = r ∧ payer = a then b.paid else 0) ∧
        received ts r a = received b.payouts r a) :
    Billed D s s' payer b := by
  refine ⟨within, fun a ha r => ?_⟩
  obtain ⟨hsent, hreceived⟩ := hts a ha r
  rw [Bill.sent_transfers ha within, Bill.received_transfers ha, ← hsent, ← hreceived]
  exact h r a

/-! ## The bills of the operations -/

namespace State

variable {D : Deployment} {s s' : State} {initiator nftAsset onBehalfOf : Address}
  {nftTokenId amount : ℕ}

/-- The refund of a listing comes from the market. -/
theorem listingRefund_within {tokenId : ℕ} :
    ∀ t ∈ s.listingRefund D nftAsset tokenId, D.isProtocol t.src := by
  intro t ht
  rw [listingRefund_src t ht]
  exact .inr (.inr (.inl rfl))

/-- The bill of a deposit. -/
def depositBill (asset : Address) (amount : ℕ) : Bill := ⟨asset, amount, []⟩

theorem executeDeposit_billed (hb : Books D s) {asset : Address} :
    Returns (s.executeDeposit D initiator asset amount onBehalfOf)
      (fun s' => Billed D s s' initiator (depositBill asset amount)) := by
  refine executeDeposit_account.imp fun s' h => ?_
  obtain ⟨Rs, ha⟩ := h
  refine .ofPosted ha.payments nofun fun a houtside r => ?_
  have hu := houtside.ne_uToken hb asset
  obtain ⟨hsent, hreceived⟩ := houtside.intoVault hu asset r amount
  constructor
  · rw [sent_cons, hsent]
    rfl
  · rw [received_cons, hreceived, if_neg fun hx => hu hx.2]
    rfl

/-- The bill of a repayment: the amount, up to the debt that is charged. -/
def repayBill (D : Deployment) (s : State) (nftAsset : Address) (nftTokenId amount : ℕ) : Bill :=
  let loan := s.loanOn nftAsset nftTokenId
  ⟨loan.reserveAsset, min amount (loan.outstanding (s.nextIndex loan.reserveAsset)),
    s.listingRefund D nftAsset nftTokenId⟩

theorem repayBill_within :
    ∀ t ∈ (s.repayBill D nftAsset nftTokenId amount).payouts, D.isProtocol t.src :=
  listingRefund_within

/-- **A repayment goes by its bill**, and returns what it took. -/
theorem _repay_billed (hb : Books D s) : Returns (s._repay D initiator nftAsset nftTokenId amount)
    (fun p => p.2.1 = (s.repayBill D nftAsset nftTokenId amount).paid ∧
      Billed D s p.1 initiator (s.repayBill D nftAsset nftTokenId amount)) := by
  refine _repay_account.imp fun p h => ?_
  obtain ⟨loan, Rs, L, T, b, n, -, hloan, hdebt, hn, hp, ha, -⟩ := h
  obtain rfl : loan = s.loanOn nftAsset nftTokenId := hloan
  rw [ha.updated.nextIndex] at hdebt
  have hpaid : n = (s.repayBill D nftAsset nftTokenId amount).paid := by
    unfold repayBill
    dsimp only
    rw [hn, ← hdebt]
    split <;> omega
  rw [hp]
  refine ⟨hpaid, .ofPosted ha.payments listingRefund_within fun a houtside r => ?_⟩
  have hu := houtside.ne_uToken hb (s.loanOn nftAsset nftTokenId).reserveAsset
  obtain ⟨hsent, hreceived⟩ := houtside.intoVault hu
    (s.loanOn nftAsset nftTokenId).reserveAsset r n
  constructor
  · rw [sent_append, sent_cons, hsent, houtside.sent_eq_zero listingRefund_within, Nat.zero_add,
      ← hpaid]
    rfl
  · rw [received_append, received_cons, hreceived, if_neg fun hx => hu hx.2]
    rfl

/-- The bill of a bid in an auction: the bid before it goes back. -/
def auctionBill (D : Deployment) (s : State) (nftAsset : Address)
    (nftTokenId bidPrice : ℕ) : Bill :=
  let loan := s.loanOn nftAsset nftTokenId
  ⟨loan.reserveAsset, bidPrice, onlyIf (loan.bidderAddress ≠ 0)
    ⟨loan.reserveAsset, D.lendPool, loan.bidderAddress, loan.bidPrice⟩⟩

theorem auctionBill_within {bidPrice : ℕ} :
    ∀ t ∈ (s.auctionBill D nftAsset nftTokenId bidPrice).payouts, D.isProtocol t.src := by
  intro t ht
  rw [(mem_onlyIf.mp ht).2]
  exact .inl rfl

theorem executeAuction_billed {bidPrice : ℕ} :
    Returns (s.executeAuction D initiator nftAsset nftTokenId bidPrice onBehalfOf)
      (fun s' => Billed D s s' initiator (s.auctionBill D nftAsset nftTokenId bidPrice)) := by
  refine executeAuction_account.imp fun s' h => ?_
  obtain ⟨loan, Rs, L, b, -, hloan, -, ha, -⟩ := h
  obtain rfl : loan = s.loanOn nftAsset nftTokenId := hloan
  refine .ofPosted ha.payments auctionBill_within fun a houtside r => ⟨?_, ?_⟩
  · exact Bill.sent_transfers houtside
      (b := s.auctionBill D nftAsset nftTokenId bidPrice) auctionBill_within initiator r
  · exact Bill.received_transfers houtside (s.auctionBill D nftAsset nftTokenId bidPrice)
      initiator r

/-- The fine of an exit, once the reserve is up to date. -/
def settledFine (s : State) (nftAsset : Address) (nftTokenId : ℕ) : Except Error ℕ := do
  let s₁ ← s.updateState (s.loanOn nftAsset nftTokenId).reserveAsset
  let fines ← s₁.exitFine nftAsset nftTokenId
  return fines.2

/-- The bill of a redemption: the bid goes back, and the first bidder gets the fine. -/
def redeemBill (D : Deployment) (s : State) (nftAsset : Address) (nftTokenId amount : ℕ) :
    Except Error Bill := do
  let loan := s.loanOn nftAsset nftTokenId
  let fine ← s.settledFine nftAsset nftTokenId
  return ⟨loan.reserveAsset, amount + fine, s.listingRefund D nftAsset nftTokenId ++
    [⟨loan.reserveAsset, D.lendPool, loan.bidderAddress, loan.bidPrice⟩,
      ⟨loan.reserveAsset, D.lendPool, loan.firstBidderAddress, fine⟩]⟩

/-- **A redemption goes by its bill**, and returns what it took. -/
theorem executeRedeem_billed (hr : Reachable D (anyAction D) s) {bidFine : ℕ} :
    Returns (s.executeRedeem D initiator nftAsset nftTokenId amount bidFine)
      (fun p => ∃ b, s.redeemBill D nftAsset nftTokenId amount = .ok b ∧ p.2 = b.paid ∧
        p.2 ≤ amount + bidFine ∧ Billed D s p.1 initiator b) := by
  have hb := Reachable.books hr
  refine (executeRedeem_account.and executeRedeem_accepted).returns.imp fun p h => ?_
  obtain ⟨⟨loan, Rs, L, T, fine, hid, hloan, ha, ⟨hp, hle, -⟩, hL, -⟩, s₁, fine', hupd, -, hfine,
    hp'⟩ := h
  obtain rfl : loan = s.loanOn nftAsset nftTokenId := hloan
  obtain ⟨-, fines, -, -, hfines, -, ⟨rfl, -⟩, -⟩ := redeemAccepts_iff.mp hfine
  obtain rfl : fines.2 = fine := by omega
  have hbidder : (s.loanOn nftAsset nftTokenId).bidderAddress ≠ 0 :=
    Reachable.bidder hr _ (require_bind_eq_ok.mp hL).1
  have hfined : s.settledFine nftAsset nftTokenId = .ok fines.2 :=
    bind_eq_ok.mpr ⟨s₁, hupd, bind_eq_ok.mpr ⟨fines, hfines, rfl⟩⟩
  have hwithin : ∀ t ∈ s.listingRefund D nftAsset nftTokenId ++
      [⟨(s.loanOn nftAsset nftTokenId).reserveAsset, D.lendPool,
          (s.loanOn nftAsset nftTokenId).bidderAddress, (s.loanOn nftAsset nftTokenId).bidPrice⟩,
        ⟨(s.loanOn nftAsset nftTokenId).reserveAsset, D.lendPool,
          (s.loanOn nftAsset nftTokenId).firstBidderAddress, fines.2⟩], D.isProtocol t.src := by
    intro t ht
    simp only [List.mem_append, List.mem_cons, List.not_mem_nil, or_false] at ht
    rcases ht with ht | rfl | rfl
    · exact listingRefund_within t ht
    · exact .inl rfl
    · exact .inl rfl
  obtain ⟨-, hasset, htoken⟩ := hb.loanOn hid
  have hpayments := ha.payments
  rw [hasset, htoken] at hpayments
  refine ⟨_, bind_eq_ok.mpr ⟨_, hfined, rfl⟩, hp, by omega,
    .ofPosted hpayments hwithin fun a houtside r => ?_⟩
  have hu := houtside.ne_uToken hb (s.loanOn nftAsset nftTokenId).reserveAsset
  have hpool : D.lendPool ≠ a := houtside.ne_protocol (.inl rfl)
  obtain ⟨hsent, hreceived⟩ := houtside.intoVault hu
    (s.loanOn nftAsset nftTokenId).reserveAsset r amount
  unfold redeemPayments
  rw [if_pos hbidder]
  constructor
  · -- the fine is taken of the initiator, not of the pool
    simp only [sent_append, sent_cons, sent_nil, houtside.sent_eq_zero listingRefund_within, hsent,
      hpool, and_false, if_false]
    split <;> omega
  · simp only [received_append, received_cons, received_nil, hreceived, hu, and_false, if_false]
    omega

/-- An exit goes by what its initiator pays and what is paid out. -/
theorem exitPayments_billed (hb : Books D s) {paid b : ℕ}
    {payouts : List (Transfer Address Address)} (hsrc : ∀ t ∈ payouts, t.src = D.lendPool)
    (h : Posted (s.exitPayments D initiator nftAsset nftTokenId paid b payouts) s.erc20 s'.erc20) :
    Billed D s s' initiator ⟨(s.loanOn nftAsset nftTokenId).reserveAsset, paid,
      s.listingRefund D nftAsset nftTokenId ++ payouts⟩ := by
  have hwithin : ∀ t ∈ payouts, D.isProtocol t.src := by
    intro t ht
    rw [hsrc t ht]
    exact .inl rfl
  refine .ofPosted h (fun t ht => ?_) fun a houtside r => ?_
  · rcases List.mem_append.mp ht with ht | ht
    · exact listingRefund_within t ht
    · exact hwithin t ht
  have hu := houtside.ne_uToken hb (s.loanOn nftAsset nftTokenId).reserveAsset
  have hpool : D.lendPool ≠ a := houtside.ne_protocol (.inl rfl)
  obtain ⟨hsent, hreceived⟩ := houtside.intoVault hu
    (s.loanOn nftAsset nftTokenId).reserveAsset r b
  unfold exitPayments
  constructor
  · simp only [sent_append, sent_cons, houtside.sent_eq_zero listingRefund_within,
      houtside.sent_eq_zero hwithin, hsent, hpool, and_false, if_false]
    omega
  · simp only [received_append, received_cons, hreceived, hu, hpool, and_false, if_false]
    omega

/-- The bill of a liquidation: what the bid lacks of the debt. -/
def liquidateBill (D : Deployment) (s : State) (nftAsset : Address) (nftTokenId : ℕ) : Bill :=
  let loan := s.loanOn nftAsset nftTokenId
  let borrowAmount := loan.outstanding (s.nextIndex loan.reserveAsset)
  ⟨loan.reserveAsset, borrowAmount - loan.bidPrice, s.listingRefund D nftAsset nftTokenId ++
    liquidatePayouts D loan borrowAmount⟩

theorem liquidateBill_within :
    ∀ t ∈ (s.liquidateBill D nftAsset nftTokenId).payouts, D.isProtocol t.src := by
  intro t ht
  rcases List.mem_append.mp ht with ht | ht
  · exact listingRefund_within t ht
  · rw [List.mem_singleton.mp ht]
    exact .inl rfl

/-- **A liquidation goes by its bill**, and returns what it took. -/
theorem executeLiquidate_billed (hr : Reachable D (anyAction D) s)
    (hinitiator : initiator ≠ D.lendPool) :
    Returns (s.executeLiquidate D initiator nftAsset nftTokenId amount)
      (fun p => p.2 = (s.liquidateBill D nftAsset nftTokenId).paid ∧ p.2 ≤ amount ∧
        Billed D s p.1 initiator (s.liquidateBill D nftAsset nftTokenId)) := by
  refine (executeLiquidate_account.and (Sat.returned _)).returns.imp fun p h => ?_
  obtain ⟨⟨loan, Rs, L, T, b, -, hloan, hdebt, ha, ⟨hp, hle, -⟩, -⟩, hok⟩ := h
  obtain rfl : loan = s.loanOn nftAsset nftTokenId := hloan
  rw [ha.updated.nextIndex] at hdebt
  obtain ⟨b', hsettled⟩ := executeLiquidate_settled hr hinitiator hok
  obtain rfl : b' = b := hsettled.owed.trans hdebt.symm
  subst hdebt
  refine ⟨hp, ?_, exitPayments_billed (Reachable.books hr) (fun t ht => ?_) hsettled.payments⟩
  · rw [hp]
    by_cases hshort : (s.loanOn nftAsset nftTokenId).bidPrice < (s.loanOn nftAsset
        nftTokenId).outstanding (s.nextIndex (s.loanOn nftAsset nftTokenId).reserveAsset)
    · exact hle hshort
    · omega
  · rw [List.mem_singleton.mp ht]

/-- The bill of a buyout: its price. -/
def buyoutBill (D : Deployment) (s : State) (nftAsset : Address) (nftTokenId : ℕ)
    (onBehalfOf : Address) : Except Error Bill := do
  let loan := s.loanOn nftAsset nftTokenId
  let borrowAmount := loan.outstanding (s.nextIndex loan.reserveAsset)
  let fine ← s.settledFine nftAsset nftTokenId
  let nftPrice ← s.getNFTPrice nftAsset nftTokenId
  let price ← s.buyoutPriceAt onBehalfOf borrowAmount nftPrice
  return ⟨loan.reserveAsset, price, s.listingRefund D nftAsset nftTokenId ++
    buyoutPayouts D loan price borrowAmount fine⟩

/-- **A buyout goes by its bill.** -/
theorem executeBuyout_billed (hr : Reachable D (anyAction D) s)
    (hinitiator : initiator ≠ D.lendPool) :
    Returns (s.executeBuyout D initiator nftAsset nftTokenId onBehalfOf)
      (fun s' => ∃ b, s.buyoutBill D nftAsset nftTokenId onBehalfOf = .ok b ∧
        Billed D s s' initiator b) := by
  refine (executeBuyout_account.and (Sat.returned _)).returns.imp fun s' h => ?_
  obtain ⟨⟨loan, Rs, L, T, b, price, fine, left, hid, hloan, -⟩, hok⟩ := h
  obtain ⟨s₁, b, price, fine, hterms, hsettled⟩ := executeBuyout_settled hr hinitiator hok
  obtain ⟨-, hasset, htoken⟩ := (Reachable.books hr).loanOn hid
  obtain ⟨nftPrice, discounted, hnft, hdiscounted, hprice⟩ := hterms.priced
  obtain ⟨least, hfine⟩ := hterms.fine
  have hupd := hterms.upToDate
  obtain ⟨Rs, U, rfl, -⟩ := updateState_spec.ok hupd
  rw [hasset, htoken] at hnft
  have hfined : s.settledFine nftAsset nftTokenId = .ok fine :=
    bind_eq_ok.mpr ⟨_, hupd, bind_eq_ok.mpr ⟨(least, fine), hfine, rfl⟩⟩
  have hpriced : s.buyoutPriceAt onBehalfOf b nftPrice = .ok price :=
    bind_eq_ok.mpr ⟨discounted, hdiscounted, congrArg Except.ok hprice.symm⟩
  refine ⟨⟨(s.loanOn nftAsset nftTokenId).reserveAsset, price,
      s.listingRefund D nftAsset nftTokenId ++
        buyoutPayouts D (s.loanOn nftAsset nftTokenId) price b fine⟩, ?_,
    exitPayments_billed (Reachable.books hr) (fun t ht => ?_) hsettled.payments⟩
  · have howed := hsettled.owed
    subst howed
    exact bind_eq_ok.mpr ⟨fine, hfined, bind_eq_ok.mpr ⟨nftPrice, hnft,
      bind_eq_ok.mpr ⟨price, hpriced, rfl⟩⟩⟩
  · unfold buyoutPayouts at ht
    split at ht <;> simp only [List.mem_cons, List.not_mem_nil, or_false] at ht
    · rcases ht with rfl | rfl | rfl <;> rfl
    · rw [ht]

/-- The bill of a bid on a listing: the bid before it goes back. -/
def bidBill (D : Deployment) (s : State) (nftAsset : Address) (tokenId bidPrice : ℕ) : Bill :=
  ⟨(s.listingOn nftAsset tokenId).reserveAsset, bidPrice,
    bidRefund D (s.listingOn nftAsset tokenId)⟩

theorem bidRefund_within (d : DebtMarketListing) : ∀ t ∈ bidRefund D d, D.isProtocol t.src := by
  intro t ht
  rw [(mem_onlyIf.mp ht).2]
  exact .inr (.inr (.inl rfl))

theorem bid_billed {bidPrice : ℕ} :
    Returns (s.bid D initiator nftAsset nftTokenId bidPrice onBehalfOf)
      (fun s' => s.debtMarket.getDebtId nftAsset nftTokenId ≠ 0 ∧
        Billed D s s' initiator (s.bidBill D nftAsset nftTokenId bidPrice)) := by
  refine bid_account.imp fun s' h => ?_
  obtain ⟨hid, hposted, -⟩ := h
  refine ⟨hid, .ofPosted hposted (bidRefund_within _) fun a houtside r => ?_⟩
  constructor
  · rw [sent_cons, houtside.sent_eq_zero (bidRefund_within _)]
    rfl
  · rw [received_cons, if_neg fun hx => houtside.ne_protocol (.inr (.inr (.inl rfl))) hx.2,
      Nat.zero_add]
    rfl

/-- The bill of a purchase: the borrower of the loan gets the price, and the bid goes back. -/
def buyBill (D : Deployment) (s : State) (nftAsset : Address) (tokenId amount : ℕ) : Bill :=
  let loan := s.loanOn nftAsset tokenId
  ⟨loan.reserveAsset, amount, ⟨loan.reserveAsset, D.lendPool, loan.borrower, amount⟩ ::
    bidRefund D (s.listingOn nftAsset tokenId)⟩

theorem buyBill_within :
    ∀ t ∈ (s.buyBill D nftAsset nftTokenId amount).payouts, D.isProtocol t.src := by
  intro t ht
  rcases List.mem_cons.mp ht with rfl | ht
  · exact .inl rfl
  · exact bidRefund_within _ t ht

theorem buy_billed : Returns (s.buy D initiator nftAsset nftTokenId onBehalfOf amount)
    (fun s' => Billed D s s' initiator (s.buyBill D nftAsset nftTokenId amount)) := by
  refine buy_account.imp fun s' h => ?_
  obtain ⟨-, -, -, Rs, L, T, ha, -⟩ := h
  refine .ofPosted ha.payments buyBill_within fun a houtside r => ⟨?_, ?_⟩
  · rw [sent_cons, houtside.sent_eq_zero (bidRefund_within _)]
    rfl
  · rw [received_cons]
    exact (received_cons _ _ _ _).symm

/-- Bringing a reserve up to date does not look at the tokens of reserves. -/
theorem updateState_withErc20 {asset : Address} (E : Address → Erc20)
    (hok : s.updateState asset = .ok s') :
    (s.withErc20 E).updateState asset = .ok (s'.withErc20 E) := by
  obtain ⟨R, hR, hok⟩ := bind_eq_ok.mp hok
  obtain ⟨n, hn, hok⟩ := bind_eq_ok.mp hok
  obtain ⟨u, hu, hok⟩ := bind_eq_ok.mp hok
  obtain rfl := Except.ok.inj hok
  exact bind_eq_ok.mpr ⟨R, hR, bind_eq_ok.mpr ⟨n, hn, bind_eq_ok.mpr ⟨u, hu, rfl⟩⟩⟩

theorem settledFine_withErc20 {fine : ℕ} (E : Address → Erc20)
    (hok : s.settledFine nftAsset nftTokenId = .ok fine) :
    (s.withErc20 E).settledFine nftAsset nftTokenId = .ok fine := by
  obtain ⟨s₁, hupd, hok⟩ := bind_eq_ok.mp hok
  exact bind_eq_ok.mpr ⟨_, updateState_withErc20 E hupd, hok⟩

theorem redeemBill_asset {b : Bill} (hok : s.redeemBill D nftAsset nftTokenId amount = .ok b) :
    b.asset = (s.loanOn nftAsset nftTokenId).reserveAsset := by
  obtain ⟨fine, -, hok⟩ := bind_eq_ok.mp hok
  rw [← Except.ok.inj hok]

theorem buyoutBill_asset {b : Bill}
    (hok : s.buyoutBill D nftAsset nftTokenId onBehalfOf = .ok b) :
    b.asset = (s.loanOn nftAsset nftTokenId).reserveAsset := by
  obtain ⟨fine, -, hok⟩ := bind_eq_ok.mp hok
  obtain ⟨nftPrice, -, hok⟩ := bind_eq_ok.mp hok
  obtain ⟨price, -, hok⟩ := bind_eq_ok.mp hok
  rw [← Except.ok.inj hok]

/-- The bill of a redemption is the same whatever tokens are brought along for it. -/
theorem redeemBill_withErc20 {b : Bill} {E : Address → Erc20} :
    (s.withErc20 E).redeemBill D nftAsset nftTokenId amount = .ok b ↔
      s.redeemBill D nftAsset nftTokenId amount = .ok b := by
  have hstep : ∀ (t : State) (F : Address → Erc20),
      t.redeemBill D nftAsset nftTokenId amount = .ok b →
      (t.withErc20 F).redeemBill D nftAsset nftTokenId amount = .ok b := fun t F hok => by
    obtain ⟨fine, hfine, hok⟩ := bind_eq_ok.mp hok
    exact bind_eq_ok.mpr ⟨fine, settledFine_withErc20 F hfine, hok⟩
  exact ⟨hstep (s.withErc20 E) s.erc20, hstep s E⟩

@[inherit_doc redeemBill_withErc20]
theorem buyoutBill_withErc20 {b : Bill} {E : Address → Erc20} :
    (s.withErc20 E).buyoutBill D nftAsset nftTokenId onBehalfOf = .ok b ↔
      s.buyoutBill D nftAsset nftTokenId onBehalfOf = .ok b := by
  have hstep : ∀ (t : State) (F : Address → Erc20),
      t.buyoutBill D nftAsset nftTokenId onBehalfOf = .ok b →
      (t.withErc20 F).buyoutBill D nftAsset nftTokenId onBehalfOf = .ok b := fun t F hok => by
    obtain ⟨fine, hfine, hok⟩ := bind_eq_ok.mp hok
    exact bind_eq_ok.mpr ⟨fine, settledFine_withErc20 F hfine, hok⟩
  exact ⟨hstep (s.withErc20 E) s.erc20, hstep s E⟩

/-! ## What the vault gives

A deposit or a repayment is passed on to the vault; a loan or a withdrawal is drawn from it. -/

end State

/-- The vault pays just the amount for the shares that an amount is turned into. -/
def Deployment.PaysExactly (D : Deployment) (v : YVault) : Prop :=
  ∀ amount shares, wadDiv amount v.pricePerShare = .ok shares → D.valueOf v shares = amount

/-- A vault that rounds down does so at a price at which the shares for every amount meet it. -/
theorem Deployment.PaysFloor.paysExactly {D : Deployment} (h : D.PaysFloor) {v : YVault}
    (hmeet : ∀ amount, SharesMeet v.pricePerShare amount) : D.PaysExactly v := by
  intro amount shares hshares
  obtain ⟨hprice, rfl⟩ := unitDiv_spec hshares
  rw [h]
  exact (worth_eq_iff hprice (by decide)).mpr (hmeet amount)

namespace State

variable {D : Deployment} {s s' : State} {initiator nftAsset onBehalfOf : Address}
  {nftTokenId amount : ℕ}

/-- Of WETH the amount is drawn, of any other asset nothing. -/
theorem Drawn.value_eq {asset uToken : Address} {shares value : ℕ}
    (hexact : D.PaysExactly s.yVault) (h : Drawn D s.yVault asset uToken amount shares value) :
    value = if asset = D.weth then amount else 0 := by
  by_cases hweth : asset = D.weth
  · obtain ⟨hshares, -, rfl⟩ := h.weth hweth
    rw [if_pos hweth, hexact amount shares hshares]
  · rw [if_neg hweth, (h.other hweth).2]

/-- The bill of a borrow: nothing is taken; the bid on a listing of the loan goes back, and the
initiator gets what the vault gives. -/
def borrowBill (D : Deployment) (s : State) (initiator asset nftAsset : Address)
    (nftTokenId amount : ℕ) : Bill :=
  ⟨asset, 0, (if s.lendPoolLoan.getCollateralLoanId nftAsset nftTokenId = 0 then []
      else s.listingRefund D nftAsset nftTokenId) ++
    [⟨asset, (s.lendPool.reserves asset).uTokenAddress, initiator,
      if asset = D.weth then amount else 0⟩]⟩

/-- The refund of the listing is that of a loan. -/
theorem borrowRefund_within : ∀ t ∈ (if s.lendPoolLoan.getCollateralLoanId nftAsset nftTokenId = 0
    then [] else s.listingRefund D nftAsset nftTokenId), D.isProtocol t.src := by
  intro t ht
  split at ht
  · cases ht
  · exact listingRefund_within t ht

/-- Nobody outside sends any of the payouts of a borrow. -/
theorem sent_borrowBill (hb : Books D s) {a : Address} (ha : D.Outsider a) {asset : Address}
    (r : Address) :
    sent (s.borrowBill D initiator asset nftAsset nftTokenId amount).payouts r a = 0 := by
  unfold borrowBill
  rw [sent_append, ha.sent_eq_zero borrowRefund_within, sent_cons,
    if_neg fun hx => ha.ne_uToken hb asset hx.2]
  rfl

/-- **A borrow goes by its bill**, if the vault pays exactly. -/
theorem _borrow_billed (hb : Books D s) (hexact : D.PaysExactly s.yVault) {asset : Address} :
    Returns (s._borrow D initiator asset amount nftAsset nftTokenId onBehalfOf)
      (fun s' => 0 < amount ∧
        Billed D s s' initiator (s.borrowBill D initiator asset nftAsset nftTokenId amount)) := by
  refine _borrow_account.imp fun s' h => ?_
  obtain ⟨Rs, L, T, shares, value, ha, ⟨hpos, -, hinit⟩, -, -, hdrawn⟩ := h
  obtain rfl := hdrawn.value_eq hexact
  have hwithin : ∀ t ∈ (s.borrowBill D initiator asset nftAsset nftTokenId amount).payouts,
      D.isProtocol t.src := by
    intro t ht
    rcases List.mem_append.mp ht with ht | ht
    · exact borrowRefund_within t ht
    · rw [List.mem_singleton.mp ht]
      exact .inr (.inr (.inr (.inr (hb.proxies asset hinit))))
  refine ⟨hpos, .ofPosted ha.payments hwithin fun a houtside r => ?_⟩
  have hu := houtside.ne_uToken hb asset
  obtain ⟨hsent, hreceived⟩ := houtside.outOfVault hu asset r
    (if asset = D.weth then amount else 0)
  constructor
  · rw [sent_append, sent_append, sent_cons, sent_nil, hsent,
      houtside.sent_eq_zero borrowRefund_within,
      if_neg fun hx => hu hx.2]
    exact (ite_self 0).symm
  · unfold borrowBill
    rw [received_append, received_append, received_append, hreceived, Nat.zero_add]

/-- The bill of a withdrawal. -/
def withdrawBill (s : State) (asset : Address) (amount : ℕ) (receiver : Address) : Bill :=
  ⟨asset, 0, [⟨asset, (s.lendPool.reserves asset).uTokenAddress, receiver, amount⟩]⟩

theorem sent_withdrawBill (hb : Books D s) {a : Address} (ha : D.Outsider a)
    {asset receiver : Address} (r : Address) :
    sent (s.withdrawBill asset amount receiver).payouts r a = 0 := by
  unfold withdrawBill
  rw [sent_cons, if_neg fun hx => ha.ne_uToken hb asset hx.2]
  rfl

/-- Any number but the largest is withdrawn as it is. -/
theorem executeWithdraw_amount {asset receiver : Address} (hne : amount ≠ maxUint256) :
    Returns (s.executeWithdraw D initiator asset amount receiver) (fun p => p.2 = amount) := by
  refine Returns.check fun _ => Returns.check fun _ => Returns.step fun _ _ => ?_
  refine Returns.step fun _ _ => Returns.step fun _ _ => Returns.step fun _ _ => ?_
  exact Returns.step fun _ _ => Returns.step fun _ _ => if_neg hne

theorem executeWithdraw_billed (hb : Books D s) {asset receiver : Address} :
    Returns (s.executeWithdraw D initiator asset amount receiver)
      (fun p => Billed D s p.1 initiator (s.withdrawBill asset p.2 receiver)) := by
  refine (executeWithdraw_account.and (Sat.returned _)).returns.imp fun p h => ?_
  obtain ⟨⟨Rs, shares, value, ha, -⟩, hok⟩ := h
  obtain ⟨-, hok⟩ := require_bind_eq_ok.mp hok
  obtain ⟨hinit, -⟩ := require_bind_eq_ok.mp hok
  refine .ofPosted ha.payments (fun t ht => ?_) fun a houtside r => ?_
  · rw [List.mem_singleton.mp ht]
    exact .inr (.inr (.inr (.inr (hb.proxies asset hinit))))
  have hu := houtside.ne_uToken hb asset
  obtain ⟨hsent, hreceived⟩ := houtside.outOfVault hu asset r value
  constructor
  · rw [sent_append, sent_cons, sent_nil, hsent, if_neg fun hx => hu hx.2]
    exact (ite_self 0).symm
  · rw [received_append, hreceived, Nat.zero_add]
    rfl

end State

end Unlockd
