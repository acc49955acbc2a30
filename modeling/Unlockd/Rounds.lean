/-
Auction rounds.

A round of a loan begins with the bid that puts it into auction and ends with the redemption,
liquidation, buyout or sale that takes it out. Outside a round the loan shows no trace of one;
within it the first bidder and the time of the first bid stay, and bids displace each other at
strictly rising prices, each displaced bidder being paid in the very call that displaces it.
That is a statement about the log of a round, and one induction over it.
-/
import Unlockd.Outstanding
import Unlockd.Lib.History

set_option autoImplicit false

namespace Unlockd

open Outcome Machine Transfers LendPoolLoan

/-! ## One record -/

/-- No trace of an auction. -/
structure LoanData.Idle (l : LoanData) : Prop where
  bidStartTimestamp : l.bidStartTimestamp = 0
  bidderAddress : l.bidderAddress = 0
  bidPrice : l.bidPrice = 0
  bidBorrowAmount : l.bidBorrowAmount = 0
  firstBidderAddress : l.firstBidderAddress = 0

/-- Everything an auction needs is set, and the bid covers the debt it was made for. -/
structure LoanData.InRound (l : LoanData) : Prop where
  bidStartTimestamp : l.bidStartTimestamp ≠ 0
  bidderAddress : l.bidderAddress ≠ 0
  bidPrice : l.bidPrice ≠ 0
  bidBorrowAmount : l.bidBorrowAmount ≠ 0
  firstBidderAddress : l.firstBidderAddress ≠ 0
  covered : l.bidBorrowAmount ≤ l.bidPrice

/-- A loan that is active shows no trace of an auction; one in auction is in a round, and owes
something. -/
structure LoanData.Orderly (l : LoanData) : Prop where
  idle : l.state = .Active → l.Idle
  inRound : l.state = .Auction → l.InRound
  owing : l.state = .Auction → 0 < l.scaledAmount

/-- Actions at a positive block time. -/
def timed {D : Deployment} (s : State) (_ : Action D) : Prop := 0 < s.blockTimestamp

section Rounds

variable {D : Deployment} {s s' : State} {id : ℕ}

/-- A loan in any other state than these two is orderly. -/
theorem LoanData.Orderly.ofState {l : LoanData} (ha : l.state ≠ .Active) (hb : l.state ≠ .Auction) :
    l.Orderly :=
  ⟨fun h => absurd h ha, fun h => absurd h hb, fun h => absurd h hb⟩

/-- An active loan without a trace of an auction is orderly. -/
theorem LoanData.Orderly.ofIdle {l : LoanData} (hs : l.state = .Active) (h : l.Idle) : l.Orderly :=
  ⟨fun _ => h, fun hx => (LoanState.noConfusion (hs.symm.trans hx) : _),
    fun hx => (LoanState.noConfusion (hs.symm.trans hx) : _)⟩

/-- A loan in auction that is in a round is orderly. -/
theorem LoanData.Orderly.ofRound {l : LoanData} (hs : l.state = .Auction) (h : l.InRound)
    (hpos : 0 < l.scaledAmount) : l.Orderly :=
  ⟨fun hx => (LoanState.noConfusion (hs.symm.trans hx) : _), fun _ => h, fun _ => hpos⟩

/-- **Step lemma.** However a call rewrites a loan, at a positive time, it leaves it orderly. -/
theorem Turned.orderly (hr : Reachable D timed s) (htime : 0 < s.blockTimestamp) {c : Call D}
    {l r : LoanData} (h : l.Orderly) (ht : Turned D s c l r) : r.Orderly := by
  cases ht with
  | opened => exact .ofIdle rfl ⟨rfl, rfl, rfl, rfl, rfl⟩
  | enlarged hl hactive =>
    obtain ⟨h₁, h₂, h₃, h₄, h₅⟩ := h.idle hactive
    exact .ofIdle hactive ⟨h₁, h₂, h₃, h₄, h₅⟩
  | reduced hl hactive =>
    obtain ⟨h₁, h₂, h₃, h₄, h₅⟩ := h.idle hactive
    exact .ofIdle hactive ⟨h₁, h₂, h₃, h₄, h₅⟩
  | @firstBid nftAsset onBehalfOf bidPrice nftTokenId b l hl hactive hto hb hpos hle =>
    have hscaled : 0 < l.scaledAmount := by
      refine Nat.pos_of_ne_zero fun hz => ?_
      rw [hb, LoanData.outstanding, hz, Nat.zero_mul, FixedPoint.divHalfUp_zero] at hpos
      exact absurd hpos (Nat.lt_irrefl 0)
    refine .ofRound rfl ⟨?_, hto, ?_, ?_, hto, hle⟩ hscaled
    · exact Nat.ne_of_gt htime
    · exact Nat.ne_of_gt (hpos.trans_le hle)
    · exact Nat.ne_of_gt hpos
  | @outbid nftAsset onBehalfOf bidPrice nftTokenId b l hl hauction hto hb hle hlt hindex =>
    -- the debt has not shrunk below the scaled amount, which no bid changes
    have hbacked : (s.lendPool.reserves l.reserveAsset).uTokenAddress ≠ 0 := by
      subst hl
      exact Reachable.backed hr (.inr hauction)
    have hray : RAY ≤ s.nextIndex l.reserveAsset :=
      ((Reachable.books hr).indices _ hbacked).2.trans hindex
    have hpos : 0 < b := by
      rw [hb]
      exact (h.owing hauction).trans_le (le_outstanding l hray)
    obtain ⟨h₁, -, -, -, h₅, -⟩ := h.inRound hauction
    refine .ofRound hauction ⟨h₁, hto, ?_, ?_, h₅, hle⟩ (h.owing hauction)
    · exact Nat.ne_of_gt (hpos.trans_le hle)
    · exact Nat.ne_of_gt hpos
  | redeemed => exact .ofIdle rfl ⟨rfl, rfl, rfl, rfl, rfl⟩
  | repaid => exact .ofState (by simp) (by simp)
  | liquidated => exact .ofState (by simp) (by simp)
  | boughtOut => exact .ofState (by simp) (by simp)
  | sold => exact .ofState (by simp) (by simp)
  | handed =>
    refine ⟨fun hs => ?_, fun hs => ?_, fun hs => h.owing hs⟩
    · obtain ⟨h₁, h₂, h₃, h₄, h₅⟩ := h.idle hs
      exact ⟨h₁, h₂, h₃, h₄, h₅⟩
    · obtain ⟨h₁, h₂, h₃, h₄, h₅, h₆⟩ := h.inRound hs
      exact ⟨h₁, h₂, h₃, h₄, h₅, h₆⟩

/-- **Run lemma.** -/
theorem Reachable.orderly (hr : Reachable D timed s) (id : ℕ) :
    (s.lendPoolLoan.loans id).Orderly := by
  refine Reachable.everyLoan (P := fun _ l => l.Orderly) (fun _ => ?_) (fun _ _ _ _ _ hl => hl)
    (fun _ _ _ _ _ _ ht htime hl hturned => hturned.orderly ht htime hl) hr id
  exact .ofState (by decide) (by decide)

/-! ## Steps of a round -/

/-- A call to bid on the loan under the identifier: it covers the debt, it is higher than the
standing bid, and what it moves is its own price into the pool and the standing bid back to
its bidder. -/
structure Outbids (D : Deployment) (id : ℕ) (s s' : State) (a : Action D) : Prop where
  call : ∃ sender outside nftAsset nftTokenId bidPrice onBehalfOf,
    a = .call sender outside (.auction nftAsset nftTokenId bidPrice onBehalfOf) ∧
    s.lendPoolLoan.loans id = s.loanOn nftAsset nftTokenId ∧
    (s'.lendPoolLoan.loans id).bidderAddress = onBehalfOf ∧
    (s'.lendPoolLoan.loans id).bidPrice = bidPrice ∧
    Posted [⟨(s.lendPoolLoan.loans id).reserveAsset, sender, D.lendPool, bidPrice⟩,
      ⟨(s.lendPoolLoan.loans id).reserveAsset, D.lendPool,
        (s.lendPoolLoan.loans id).bidderAddress, (s.lendPoolLoan.loans id).bidPrice⟩]
      s.erc20 s'.erc20
  rises : (s.lendPoolLoan.loans id).bidPrice < (s'.lendPoolLoan.loans id).bidPrice
  debt : (s'.lendPoolLoan.loans id).bidBorrowAmount
    = (s.lendPoolLoan.loans id).outstanding (s.nextIndex (s.lendPoolLoan.loans id).reserveAsset)
  covered : (s'.lendPoolLoan.loans id).bidBorrowAmount ≤ (s'.lendPoolLoan.loans id).bidPrice

/-- The standing bid is not touched. -/
def KeepsBid (id : ℕ) (s s' : State) : Prop :=
  (s'.lendPoolLoan.loans id).bidderAddress = (s.lendPoolLoan.loans id).bidderAddress ∧
  (s'.lendPoolLoan.loans id).bidPrice = (s.lendPoolLoan.loans id).bidPrice ∧
  (s'.lendPoolLoan.loans id).bidBorrowAmount = (s.lendPoolLoan.loans id).bidBorrowAmount

/-- A step of a round of the loan: one after which it is in auction. -/
def RoundStep (D : Deployment) (id : ℕ) (s : State) (a : Action D) (s' : State) : Prop :=
  timed s a ∧ s.execute D a = .ok s' ∧ (s'.lendPoolLoan.loans id).state = .Auction

/-- The payments of a bid on a loan that has one. -/
theorem auction_posted {sender nftAsset onBehalfOf : Address} {bidPrice nftTokenId : ℕ}
    (hbid : (s.loanOn nftAsset nftTokenId).bidderAddress ≠ 0) :
    Returns (s.perform D sender (.auction nftAsset nftTokenId bidPrice onBehalfOf)) (fun s' =>
      Posted [⟨(s.loanOn nftAsset nftTokenId).reserveAsset, sender, D.lendPool, bidPrice⟩,
        ⟨(s.loanOn nftAsset nftTokenId).reserveAsset, D.lendPool,
          (s.loanOn nftAsset nftTokenId).bidderAddress, (s.loanOn nftAsset nftTokenId).bidPrice⟩]
        s.erc20 s'.erc20) := by
  refine Returns.check fun _ => State.executeAuction_account.imp fun s' h => ?_
  obtain ⟨loan, Rs, L, b, -, hloan, -, ha, -⟩ := h
  obtain rfl : loan = s.loanOn nftAsset nftTokenId := hloan
  have hposted := ha.payments
  rw [onlyIf_of hbid] at hposted
  exact hposted

/-- **What a step does within a round.** The first bidder and the time of the first bid stay; the
standing bid is displaced by a higher one, whose call pays it back, or it stays too. -/
theorem RoundStep.round (hr : Reachable D timed s)
    (hin : (s.lendPoolLoan.loans id).state = .Auction) {a : Action D}
    (hst : RoundStep D id s a s') :
    (s'.lendPoolLoan.loans id).firstBidderAddress = (s.lendPoolLoan.loans id).firstBidderAddress ∧
    (s'.lendPoolLoan.loans id).bidStartTimestamp = (s.lendPoolLoan.loans id).bidStartTimestamp ∧
    (Outbids D id s s' a ∨ KeepsBid id s s') := by
  obtain ⟨htime, ha, hin'⟩ := hst
  rcases execute_turned (Reachable.books hr) ha with hsame | ⟨sender, outside, c, j, r, rfl, hL, ht⟩
  · rw [KeepsBid, hsame]
    exact ⟨rfl, rfl, .inr ⟨rfl, rfl, rfl⟩⟩
  by_cases hj : id = j
  · subst hj
    have hread : s'.lendPoolLoan.loans id = r := by rw [hL, Function.update_self]
    have hround := (Reachable.orderly hr id).inRound hin
    generalize hl : s.lendPoolLoan.loans id = l at ht hin hround
    rw [hread] at hin'
    cases ht with
    | @outbid nftAsset onBehalfOf bidPrice nftTokenId b l hon hauction hto hb hle hlt hindex =>
      -- the only way to stay in auction with another bid
      refine ⟨by rw [hread]; rfl, by rw [hread]; rfl, .inl ⟨?_, ?_, ?_, ?_⟩⟩
      · refine ⟨sender, outside, nftAsset, nftTokenId, bidPrice, onBehalfOf, rfl, hl.trans hon, ?_,
          ?_, ?_⟩
        · rw [hread]; rfl
        · rw [hread]; rfl
        · rw [hl, hon]
          exact (auction_posted (hon ▸ hround.bidderAddress)).ok ha
      · rw [hread, hl]
        exact hlt
      · rw [hread, hl]
        exact hb
      · rw [hread]
        exact hle
    | handed => rw [KeepsBid, hread, hl]; exact ⟨rfl, rfl, .inr ⟨rfl, rfl, rfl⟩⟩
    | opened => cases hin
    | enlarged _ hactive => cases hin.symm.trans hactive
    | reduced _ hactive => cases hin.symm.trans hactive
    | firstBid _ hactive => cases hin.symm.trans hactive
    | redeemed => cases hin'
    | repaid => cases hin'
    | liquidated => cases hin'
    | boughtOut => cases hin'
    | sold => cases hin'
  · have hread : s'.lendPoolLoan.loans id = s.lendPoolLoan.loans id := by
      rw [hL, Function.update_of_ne hj]
    rw [KeepsBid, hread]
    exact ⟨rfl, rfl, .inr ⟨rfl, rfl, rfl⟩⟩

/-! ## The log of a round -/

/-- The bid that stands on the loan: who made it, and its price. -/
def standingBid (id : ℕ) (s : State) : Address × ℕ :=
  ((s.lendPoolLoan.loans id).bidderAddress, (s.lendPoolLoan.loans id).bidPrice)

/-- The bids on the loan that were displaced along a log, the last one first. -/
def displaced (id : ℕ) (log : List (Entry State (Action D))) : List (Address × ℕ) :=
  (log.filter fun e => standingBid id e.before ≠ standingBid id e.after).map
    fun e => standingBid id e.before

@[simp] theorem displaced_nil : displaced id ([] : List (Entry State (Action D))) = [] := rfl

theorem displaced_cons_of_eq {log : List (Entry State (Action D))} {e : Entry State (Action D)}
    (h : standingBid id e.before = standingBid id e.after) :
    displaced id (e :: log) = displaced id log := by
  simp [displaced, h]

theorem displaced_cons_of_ne {log : List (Entry State (Action D))} {e : Entry State (Action D)}
    (h : standingBid id e.before ≠ standingBid id e.after) :
    displaced id (e :: log) = standingBid id e.before :: displaced id log := by
  simp [displaced, h]

/-- The bids of a round, the standing one first: their prices fall strictly. -/
def Rising (bids : List (Address × ℕ)) : Prop := bids.Pairwise fun later earlier =>
  earlier.2 < later.2

/-- What is known of a round in which a state was reached with a log. -/
structure Round (D : Deployment) (id : ℕ) (s₀ : State) (log : List (Entry State (Action D)))
    (s : State) : Prop where
  reachable : Reachable D timed s
  inAuction : (s.lendPoolLoan.loans id).state = .Auction
  firstBidder : (s.lendPoolLoan.loans id).firstBidderAddress
    = (s₀.lendPoolLoan.loans id).firstBidderAddress
  bidStart : (s.lendPoolLoan.loans id).bidStartTimestamp
    = (s₀.lendPoolLoan.loans id).bidStartTimestamp
  rising : Rising (standingBid id s :: displaced id log)
  entries : ∀ e ∈ log, Outbids D id e.before e.after e.action ∨ KeepsBid id e.before e.after

/-- **Run lemma of a round.** -/
theorem Round.ofHistory {s₀ : State} (hr : Reachable D timed s₀)
    (hin : (s₀.lendPoolLoan.loans id).state = .Auction) {log : List (Entry State (Action D))}
    (h : History (RoundStep D id) s₀ log s) : Round D id s₀ log s := by
  refine h.invariant (P := Round D id s₀) ⟨hr, hin, rfl, rfl, ?_, ?_⟩
    fun log t a t' _ ih hst => ?_
  · rw [displaced_nil]
    exact List.pairwise_singleton _ _
  · intro e he
    exact absurd he List.not_mem_nil
  obtain ⟨hfirst, hstart, hbid⟩ := hst.round ih.reachable ih.inAuction
  refine ⟨.next ih.reachable ⟨a, hst.1, hst.2.1⟩, hst.2.2, hfirst.trans ih.firstBidder,
    hstart.trans ih.bidStart, ?_, ?_⟩
  · rcases hbid with hout | ⟨hbidder, hprice, -⟩
    · have hne : standingBid id t ≠ standingBid id t' := fun heq =>
        absurd (congrArg Prod.snd heq) (Nat.ne_of_lt hout.rises)
      rw [displaced_cons_of_ne hne]
      -- the new bid is above the one it displaces, and that one above all before
      refine List.pairwise_cons.mpr ⟨fun bid hbid => ?_, ih.rising⟩
      rcases List.mem_cons.mp hbid with rfl | hearlier
      · exact hout.rises
      · exact ((List.pairwise_cons.mp ih.rising).1 bid hearlier).trans hout.rises
    · have heq : standingBid id t' = standingBid id t := Prod.ext hbidder hprice
      rw [displaced_cons_of_eq heq.symm, heq]
      exact ih.rising
  · intro e he
    rcases List.mem_cons.mp he with rfl | hold
    · exact hbid
    · exact ih.entries e hold

/-! ## Where rounds begin and end -/

/-- A call that ends the round of the loan on a token. -/
def Call.Ends (nftAsset : Address) (nftTokenId : ℕ) : Call D → Prop
  | .redeem a t _ _ | .liquidate a t _ | .buyout a t _ | .liquidateReservoir a _ t _ _ _ =>
      a = nftAsset ∧ t = nftTokenId
  | _ => False

/-- **The first bid.** What puts a loan into auction is a bid on it while it is active, which
covers the debt; the loan then has that bid, its bidder as the first one, and its time. -/
theorem round_begins (h : Books D s) {a : Action D} (ha : s.execute D a = .ok s')
    (hout : (s.lendPoolLoan.loans id).state ≠ .Auction)
    (hin : (s'.lendPoolLoan.loans id).state = .Auction) :
    ∃ sender outside nftAsset nftTokenId bidPrice onBehalfOf b,
      a = .call sender outside (.auction nftAsset nftTokenId bidPrice onBehalfOf) ∧
      s.lendPoolLoan.loans id = s.loanOn nftAsset nftTokenId ∧
      (s.lendPoolLoan.loans id).state = .Active ∧
      b = (s.lendPoolLoan.loans id).outstanding
        (s.nextIndex (s.lendPoolLoan.loans id).reserveAsset) ∧ b ≤ bidPrice ∧
      s'.lendPoolLoan.loans id
        = (s.lendPoolLoan.loans id).withFirstBid onBehalfOf bidPrice b s.blockTimestamp := by
  rcases execute_turned h ha with hsame | ⟨sender, outside, c, j, r, rfl, hL, ht⟩
  · rw [hsame] at hin
    exact absurd hin hout
  by_cases hj : id = j
  · subst hj
    have hread : s'.lendPoolLoan.loans id = r := by rw [hL, Function.update_self]
    rw [hread] at hin ⊢
    generalize s.lendPoolLoan.loans id = l at ht hout
    cases ht with
    | @firstBid nftAsset onBehalfOf bidPrice nftTokenId b l hon hactive hto hb hpos hle =>
      exact ⟨sender, outside, nftAsset, nftTokenId, bidPrice, onBehalfOf, b, rfl, hon, hactive, hb,
        hle, rfl⟩
    | outbid _ hauction => exact absurd hauction hout
    | enlarged => exact absurd hin hout
    | reduced => exact absurd hin hout
    | handed => exact absurd hin hout
    | opened => cases hin
    | redeemed => cases hin
    | repaid => cases hin
    | liquidated => cases hin
    | boughtOut => cases hin
    | sold => cases hin
  · rw [hL, Function.update_of_ne hj] at hin
    exact absurd hin hout

/-- **The end of a round.** What takes a loan out of auction is a redemption, a liquidation, a
buyout or a sale of its token. -/
theorem round_ends (h : Books D s) {a : Action D} (ha : s.execute D a = .ok s')
    (hin : (s.lendPoolLoan.loans id).state = .Auction)
    (hout : (s'.lendPoolLoan.loans id).state ≠ .Auction) :
    ∃ sender outside c nftAsset nftTokenId, a = .call sender outside c ∧
      s.lendPoolLoan.loans id = s.loanOn nftAsset nftTokenId ∧ c.Ends nftAsset nftTokenId := by
  rcases execute_turned h ha with hsame | ⟨sender, outside, c, j, r, rfl, hL, ht⟩
  · rw [hsame] at hout
    exact absurd hin hout
  by_cases hj : id = j
  · subst hj
    rw [hL, Function.update_self] at hout
    generalize s.lendPoolLoan.loans id = l at ht hin
    cases ht with
    | redeemed hon => exact ⟨_, _, _, _, _, rfl, hon, rfl, rfl⟩
    | liquidated hon => exact ⟨_, _, _, _, _, rfl, hon, rfl, rfl⟩
    | boughtOut hon => exact ⟨_, _, _, _, _, rfl, hon, rfl, rfl⟩
    | sold hon => exact ⟨_, _, _, _, _, rfl, hon, rfl, rfl⟩
    | outbid => exact absurd hin hout
    | handed => exact absurd hin hout
    | enlarged => exact absurd hin hout
    | reduced => exact absurd hin hout
    | firstBid => exact absurd rfl hout
    | opened => cases hin
    | repaid _ hactive => cases hin.symm.trans hactive
  · rw [hL, Function.update_of_ne hj] at hout
    exact absurd hin hout

/-- **Auctions go in rounds.** At positive block times, in every reachable state, an active loan
shows no trace of an auction, and one in auction has everything an auction needs, its bid
covering the debt of the time. A round begins with a bid on the active loan and ends with a
redemption, liquidation, buyout or sale; in between, over any log, the first bidder and the
time of the first bid stay, the prices of the bids rise strictly, and each bid that is
displaced is paid back in full by the call that displaces it, while no other entry touches it. -/
theorem auctions_go_in_rounds (hr : Reachable D timed s) (id : ℕ) :
    ((s.lendPoolLoan.loans id).state = .Active → (s.lendPoolLoan.loans id).Idle) ∧
    ((s.lendPoolLoan.loans id).state = .Auction → (s.lendPoolLoan.loans id).InRound) ∧
    (∀ a s', s.execute D a = .ok s' → (s.lendPoolLoan.loans id).state ≠ .Auction →
      (s'.lendPoolLoan.loans id).state = .Auction →
      ∃ sender outside nftAsset nftTokenId bidPrice onBehalfOf b,
        a = .call sender outside (.auction nftAsset nftTokenId bidPrice onBehalfOf) ∧
        s.lendPoolLoan.loans id = s.loanOn nftAsset nftTokenId ∧
        (s.lendPoolLoan.loans id).state = .Active ∧
        b = (s.lendPoolLoan.loans id).outstanding
          (s.nextIndex (s.lendPoolLoan.loans id).reserveAsset) ∧ b ≤ bidPrice ∧
        s'.lendPoolLoan.loans id
          = (s.lendPoolLoan.loans id).withFirstBid onBehalfOf bidPrice b s.blockTimestamp) ∧
    (∀ a s', s.execute D a = .ok s' → (s.lendPoolLoan.loans id).state = .Auction →
      (s'.lendPoolLoan.loans id).state ≠ .Auction →
      ∃ sender outside c nftAsset nftTokenId, a = .call sender outside c ∧
        s.lendPoolLoan.loans id = s.loanOn nftAsset nftTokenId ∧ c.Ends nftAsset nftTokenId) ∧
    (∀ log s', (s.lendPoolLoan.loans id).state = .Auction → History (RoundStep D id) s log s' →
      (s'.lendPoolLoan.loans id).firstBidderAddress
        = (s.lendPoolLoan.loans id).firstBidderAddress ∧
      (s'.lendPoolLoan.loans id).bidStartTimestamp
        = (s.lendPoolLoan.loans id).bidStartTimestamp ∧
      Rising (standingBid id s' :: displaced id log) ∧
      ∀ e ∈ log, Outbids D id e.before e.after e.action ∨ KeepsBid id e.before e.after) := by
  have h := Reachable.books hr
  have horderly := Reachable.orderly hr id
  refine ⟨horderly.idle, horderly.inRound, fun a s' ha hout hin => round_begins h ha hout hin,
    fun a s' ha hin hout => round_ends h ha hin hout, fun log s' hin hlog => ?_⟩
  have hround := Round.ofHistory hr hin hlog
  exact ⟨hround.firstBidder, hround.bidStart, hround.rising, hround.entries⟩

/-- A sequence of actions from a fresh deployment at a positive time is a run at positive times. -/
theorem Genesis.timed_after (g : Genesis D s) (hpos : 0 < s.blockTimestamp)
    (actions : List (Action D)) : Reachable D timed (s.after D actions) := by
  have hrun : ∀ (actions : List (Action D)) (t : State), Reachable D timed t →
      0 < t.blockTimestamp → ∀ t', t.executeAll D actions = .ok t' → Reachable D timed t' := by
    intro actions
    induction actions with
    | nil =>
      intro t ht _ t' he
      obtain rfl := Except.ok.inj he
      exact ht
    | cons a rest ih =>
      intro t ht htime t' he
      obtain ⟨t₁, ha, hrest⟩ := bind_eq_ok.mp he
      obtain ⟨_, _, _, _, hstepped⟩ := execute_stepped (Reachable.books ht) ha
      exact ih t₁ (.next ht ⟨a, htime, ha⟩) (htime.trans_le hstepped.clock) t' hrest
  unfold State.after
  split
  · exact hrun actions s (.start g) hpos _ ‹_›
  · exact .start g

/-- In the small deployment the loan of user 100 is in auction, with its bid in place. -/
theorem auctions_go_in_rounds_sample :
    (State.sampleBusy.lendPoolLoan.loans 1).InRound ∧
    (State.sampleBusy.lendPoolLoan.loans 1).bidPrice = 40 * WAD :=
  ⟨(auctions_go_in_rounds ((State.sample_genesis .weth9).timed_after (by decide) _) 1).2.1
    (by decide +kernel), by decide +kernel⟩

end Rounds

end Unlockd
