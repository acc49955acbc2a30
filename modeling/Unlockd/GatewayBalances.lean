/-
What the gateways keep.

A gateway has at the end of a call what it had at the beginning if all that it took of the sender
was taken of it, or went back. With the account of each call at hand this is a question about sums.
The answer differs from call to call. A payout to the gateway itself stays with it wherever one can
occur. The two buyouts give nothing back of what was sent; a repayment wraps by the view of the debt
and pays by the debt; and a borrow through the second gateway pays out the amount of an asset that
the vault has not given.
-/
import Unlockd.PunkAccounts

set_option autoImplicit false

namespace Unlockd

open Outcome Transfers

/-! ## The sums of an account -/

section Sums

variable {D : Deployment} {a holder payer : Address} {b : Bill} {n : ℕ}

theorem sent_wrapping_ether : sent (wrapping D holder n) .ether a = if holder
    = a then n else 0 := by
  simp [wrapping]

theorem received_wrapping_ether (ha : D.weth ≠ a) :
    received (wrapping D holder n) .ether a = 0 := by
  simp [wrapping, ha]

theorem sent_wrapping_token (ha : D.weth ≠ a) (r : Address) :
    sent (wrapping D holder n) (.token r) a = 0 := by
  simp [wrapping, ha]

theorem received_wrapping_token (r : Address) :
    received (wrapping D holder n) (.token r) a = if D.weth = r ∧ holder = a then n else 0 := by
  simp [wrapping]

theorem sent_unwrapping_ether (ha : D.weth ≠ a) :
    sent (unwrapping D holder n) .ether a = 0 := by
  simp [unwrapping, ha]

theorem received_unwrapping_ether :
    received (unwrapping D holder n) .ether a = if holder = a then n else 0 := by
  simp [unwrapping]

theorem sent_unwrapping_token (r : Address) :
    sent (unwrapping D holder n) (.token r) a = if D.weth = r ∧ holder = a then n else 0 := by
  simp [unwrapping]

theorem received_unwrapping_token (ha : D.weth ≠ a) (r : Address) :
    received (unwrapping D holder n) (.token r) a = 0 := by
  simp [unwrapping, ha]

/-- No ether is on a bill. -/
theorem Bill.sent_coins_ether : sent (b.coins D payer) .ether a = 0 :=
  sent_relabel_of_ne Coin.token_ne_ether

@[inherit_doc sent_coins_ether]
theorem Bill.received_coins_ether : received (b.coins D payer) .ether a = 0 :=
  received_relabel_of_ne Coin.token_ne_ether

/-- Who sends none of the payouts sends what it pays. -/
theorem Bill.sent_coins_token (hsends : ∀ r, sent b.payouts r a = 0) (r : Address) :
    sent (b.coins D payer) (.token r) a = if b.asset = r ∧ payer = a then b.paid else 0 := by
  unfold Bill.coins Bill.transfers
  rw [sent_relabel Coin.token_injective, sent_cons, hsends, Nat.add_zero]

/-- Outside of the protocol what is received is what is paid out. -/
theorem Bill.received_coins_token (ha : D.Outsider a) (r : Address) :
    received (b.coins D payer) (.token r) a = received b.payouts r a := by
  unfold Bill.coins
  rw [received_relabel Coin.token_injective, Bill.received_transfers ha]

end Sums

/-! ## Bills that leave nothing behind -/

/-- Nothing is paid out to an account. -/
def Bill.PaysNothingTo (b : Bill) (a : Address) : Prop := ∀ r, received b.payouts r a = 0

/-- The payer was offered an amount for a bill, and an account has neither gained nor lost by it:
for the payer what it was offered and what is paid out to it make up what it pays. -/
def Bill.Settles (b : Bill) (offered : ℕ) (payer a : Address) : Prop :=
  ∀ r, received b.payouts r a + (if b.asset = r ∧ payer = a then offered else 0)
    = if b.asset = r ∧ payer = a then b.paid else 0

/-- Offered just what it pays, an account must not be paid anything. -/
theorem Bill.settles_paid {b : Bill} {payer a : Address} :
    b.Settles b.paid payer a ↔ b.PaysNothingTo a :=
  forall_congr' fun _ => Nat.add_eq_right

/-- Nor must anybody else, whatever was offered. -/
theorem Bill.settles_of_ne {b : Bill} {offered : ℕ} {payer a : Address} (hne : payer ≠ a) :
    b.Settles offered payer a ↔ b.PaysNothingTo a := by
  refine forall_congr' fun r => ?_
  rw [if_neg fun hx => hne hx.2, if_neg fun hx => hne hx.2, Nat.add_zero]

namespace World

variable {D : Deployment} {w w' : World} {a sender holder payer mid : Address} {b : Bill}
  {v n used : ℕ}

/-- **All of the value is wrapped, and nothing goes back.** -/
theorem spent_keeps_iff (ha : D.Holder a) (hsender : sender ≠ a)
    (hsends : ∀ r, sent b.payouts r a = 0) (hasset : b.asset = D.weth)
    (h : Booked a (⟨.ether, sender, holder, v⟩ :: (wrapping D holder v ++ b.coins D holder)) w w') :
    w.Keeps w' a ↔ b.Settles v holder a := by
  rw [h.keeps_iff]
  simp only [sent_cons, received_cons, sent_append, received_append, sent_wrapping_ether,
    received_wrapping_ether ha.ne_weth, sent_wrapping_token ha.ne_weth, received_wrapping_token,
    Bill.sent_coins_ether, Bill.received_coins_ether, Bill.sent_coins_token hsends,
    Bill.received_coins_token ha.outsider, hsender, hasset, Bill.Settles, reduceCtorEq, true_and,
    and_false, false_and, if_false, Nat.zero_add, Nat.add_zero]
  exact forall_congr' fun r => by omega

/-- **All of the value is wrapped, and what the bill leaves of it goes back.** -/
theorem returned_keeps_iff (ha : D.Holder a) (hsender : sender ≠ a)
    (hsends : ∀ r, sent b.payouts r a = 0) (hasset : b.asset = D.weth) (hle : b.paid ≤ v)
    (h : Booked a (⟨.ether, sender, holder, v⟩ :: (wrapping D holder v ++ (b.coins D holder ++
      (unwrapping D holder (v - b.paid) ++ [⟨.ether, holder, sender, v - b.paid⟩])))) w w') :
    w.Keeps w' a ↔ b.PaysNothingTo a := by
  rw [h.keeps_iff]
  simp only [sent_cons, received_cons, sent_append, received_append, sent_wrapping_ether,
    received_wrapping_ether ha.ne_weth, sent_wrapping_token ha.ne_weth, received_wrapping_token,
    sent_unwrapping_ether ha.ne_weth, received_unwrapping_ether, sent_unwrapping_token,
    received_unwrapping_token ha.ne_weth, sent_nil, received_nil,
    Bill.sent_coins_ether, Bill.received_coins_ether, Bill.sent_coins_token hsends,
    Bill.received_coins_token ha.outsider, hsender, hasset, Bill.PaysNothingTo, reduceCtorEq,
    true_and, and_false, false_and, if_false, Nat.zero_add, Nat.add_zero]
  refine forall_congr' fun r => ?_
  by_cases hr : D.weth = r ∧ holder = a
  · simp only [hr, and_self, if_true]
    omega
  · simp only [hr, if_false]
    omega

/-- **Tokens are taken of the sender, and nothing goes back.** -/
theorem taken_keeps_iff (ha : D.Holder a) (hsender : sender ≠ a)
    (hsends : ∀ r, sent b.payouts r a = 0)
    (h : Booked a (⟨.token b.asset, sender, payer, n⟩ :: b.coins D payer) w w') :
    w.Keeps w' a ↔ b.Settles n payer a := by
  rw [h.keeps_iff]
  simp only [sent_cons, received_cons, Bill.sent_coins_ether, Bill.received_coins_ether,
    Bill.sent_coins_token hsends, Bill.received_coins_token ha.outsider, hsender, Bill.Settles,
    Coin.token.injEq, reduceCtorEq, true_and, and_false, false_and, if_false, Nat.zero_add]
  exact forall_congr' fun r => by omega

/-- **Tokens are taken of the sender, and what the bill leaves of them goes back.** -/
theorem givenBack_keeps_iff (ha : D.Holder a) (hsender : sender ≠ a)
    (hsends : ∀ r, sent b.payouts r a = 0) (hle : b.paid ≤ n)
    (h : Booked a (⟨.token b.asset, sender, payer, n⟩ ::
      (b.coins D payer ++ [⟨.token b.asset, payer, sender, n - b.paid⟩])) w w') :
    w.Keeps w' a ↔ b.PaysNothingTo a := by
  rw [h.keeps_iff]
  simp only [sent_cons, received_cons, sent_append, received_append, sent_nil, received_nil,
    Bill.sent_coins_ether, Bill.received_coins_ether, Bill.sent_coins_token hsends,
    Bill.received_coins_token ha.outsider, hsender, Bill.PaysNothingTo, Coin.token.injEq,
    reduceCtorEq, true_and, and_false, false_and, if_false, Nat.zero_add, Nat.add_zero]
  refine forall_congr' fun r => ?_
  by_cases hr : b.asset = r ∧ payer = a
  · simp only [hr, and_self, if_true]
    omega
  · simp only [hr, if_false]
    omega

/-- What goes through a gateway in between goes from the sender and back to it. -/
theorem Booked.between (h : Booked a (⟨.ether, sender, mid, v⟩ ::
      ⟨.ether, mid, holder, v⟩ :: ((wrapping D holder v ++ (b.coins D holder ++
        (unwrapping D holder n ++ [⟨.ether, holder, mid, n⟩]))) ++
          [⟨.ether, mid, sender, n⟩])) w w') :
    Booked a (⟨.ether, sender, holder, v⟩ :: (wrapping D holder v ++ (b.coins D holder ++
      (unwrapping D holder n ++ [⟨.ether, holder, sender, n⟩])))) w w' := by
  unfold Booked at h ⊢
  have hout : BookedFor a ((⟨.ether, sender, holder, v⟩ :: (wrapping D holder v ++
      (b.coins D holder ++ unwrapping D holder n))) ++ [⟨.ether, holder, mid, n⟩] ++
        [⟨.ether, mid, sender, n⟩]) (w.holds a) (w'.holds a) := by
    have hout := BookedFor.relayed h
    simpa only [List.cons_append, List.append_assoc] using hout
  have hback := hout.relayed_last
  simpa only [List.cons_append, List.append_assoc] using hback

end World

/-! ## The calls of `WETHGateway.sol` -/

/-- The refund that comes with a borrow on a loan, if there is one, pays nothing to an account. -/
def State.BorrowRefundsNothingTo (D : Deployment) (s : State) (nftAsset : Address) (nftTokenId : ℕ)
    (a : Address) : Prop :=
  s.lendPoolLoan.getCollateralLoanId nftAsset nftTokenId ≠ 0 →
    ∀ r, received (s.listingRefund D nftAsset nftTokenId) r a = 0

theorem State.received_borrowBill_eq_iff {D : Deployment} {s : State}
    {initiator nftAsset a : Address} {nftTokenId amount : ℕ} :
    (∀ r, received (s.borrowBill D initiator D.weth nftAsset nftTokenId amount).payouts r a
      = if D.weth = r ∧ initiator = a then amount else 0) ↔
        s.BorrowRefundsNothingTo D nftAsset nftTokenId a := by
  unfold State.borrowBill State.BorrowRefundsNothingTo
  simp only [received_append, received_cons, received_nil, Nat.add_zero, if_true,
    Nat.add_eq_right]
  by_cases hid : s.lendPoolLoan.getCollateralLoanId nftAsset nftTokenId = 0
  · simp [hid]
  · simp [hid]

namespace World

variable {D : Deployment} {G : Gateways D} {w : World} {a sender onBehalfOf nftAsset dst : Address}
  {msgValue nftTokenId amount : ℕ}

/-- A borrow of ether leaves nothing with a gateway that it is not for. -/
theorem borrowed_keeps_iff {w' : World} (hb : Books D w.protocol) (ha : D.Holder a)
    (hpos : 0 < amount)
    (h : Booked a ((w.protocol.borrowBill D G.wethGateway D.weth nftAsset nftTokenId amount).coins D
      G.wethGateway ++ (unwrapping D G.wethGateway amount ++
        [⟨.ether, G.wethGateway, onBehalfOf, amount⟩])) w w') :
    w.Keeps w' a ↔ onBehalfOf ≠ a ∧ w.protocol.BorrowRefundsNothingTo D nftAsset nftTokenId a := by
  rw [h.keeps_iff]
  simp only [sent_cons, received_cons, sent_append, received_append, sent_nil, received_nil,
    sent_unwrapping_ether ha.ne_weth, received_unwrapping_ether, sent_unwrapping_token,
    received_unwrapping_token ha.ne_weth, Bill.sent_coins_ether, Bill.received_coins_ether,
    Bill.sent_coins_token (State.sent_borrowBill hb ha.outsider),
    Bill.received_coins_token ha.outsider, reduceCtorEq, true_and,
    false_and, if_false, Nat.zero_add, Nat.add_zero]
  refine and_congr ?_ ?_
  · by_cases hto : onBehalfOf = a
    · simp only [hto, if_true, ne_eq, not_true_eq_false, iff_false]
      omega
    · simp [hto]
  · rw [← State.received_borrowBill_eq_iff]
    have hpaid : (w.protocol.borrowBill D G.wethGateway D.weth nftAsset nftTokenId amount).paid
        = 0 := rfl
    refine forall_congr' fun r => ?_
    rw [hpaid, ite_self, Nat.zero_add, eq_comm]

/-- **What is wrapped is not what is taken.** The payer must come out even in ether as well. -/
theorem repaid_keeps_iff {w' : World} {sender holder : Address} {b : Bill} {n : ℕ}
    (ha : D.Holder holder) (hsender : sender ≠ holder)
    (hsends : ∀ r, sent b.payouts r holder = 0) (hasset : b.asset = D.weth) (hle : n ≤ msgValue)
    (h : Booked holder (⟨.ether, sender, holder, msgValue⟩ :: (wrapping D holder n ++
      (b.coins D holder ++ [⟨.ether, holder, sender, msgValue - b.paid⟩]))) w w') :
    w.Keeps w' holder ↔ msgValue - n = msgValue - b.paid ∧ b.Settles n holder holder := by
  rw [h.keeps_iff]
  simp only [sent_cons, received_cons, sent_append, received_append, sent_nil, received_nil,
    sent_wrapping_ether, received_wrapping_ether ha.ne_weth, sent_wrapping_token ha.ne_weth,
    received_wrapping_token, Bill.sent_coins_ether, Bill.received_coins_ether,
    Bill.sent_coins_token hsends, Bill.received_coins_token ha.outsider, hsender, hasset,
    Bill.Settles, reduceCtorEq, and_self, and_true, and_false, if_false, if_true, Nat.zero_add,
    Nat.add_zero]
  exact and_congr (by omega) (forall_congr' fun r => by omega)

/-- **A repayment that is passed on**, for the payer: it is even in WETH only if no more was wrapped
than was taken, and then it passes nothing back. -/
theorem passedOn_keeps_iff {w' : World} {sender holder mid : Address} {b : Bill} {n : ℕ}
    (ha : D.Holder holder) (hsender : sender ≠ holder) (hmid : mid ≠ holder)
    (hsends : ∀ r, sent b.payouts r holder = 0) (hasset : b.asset = D.weth)
    (h : Booked holder (⟨.ether, sender, mid, msgValue⟩ :: ⟨.ether, mid, holder, n⟩ ::
      ((wrapping D holder n ++ (b.coins D holder ++ [⟨.ether, holder, mid, n - b.paid⟩])) ++
        [⟨.ether, mid, sender, msgValue - b.paid⟩])) w w') :
    w.Keeps w' holder ↔ b.Settles n holder holder := by
  rw [h.keeps_iff]
  simp only [sent_cons, received_cons, sent_append, received_append, sent_nil, received_nil,
    sent_wrapping_ether, received_wrapping_ether ha.ne_weth, sent_wrapping_token ha.ne_weth,
    received_wrapping_token, Bill.sent_coins_ether, Bill.received_coins_ether,
    Bill.sent_coins_token hsends, Bill.received_coins_token ha.outsider, hsender, hmid, hasset,
    Bill.Settles, reduceCtorEq, and_self, and_true, and_false, if_false, if_true, Nat.zero_add,
    Nat.add_zero]
  constructor
  · intro h r
    have hrow := h.2 r
    omega
  · intro h
    have hweth := h D.weth
    rw [if_pos rfl, if_pos rfl] at hweth
    refine ⟨by omega, fun r => ?_⟩
    have hrow := h r
    omega

/-- **A repayment that is passed on**, for the one in between, whose tokens it leaves alone. -/
theorem passingOn_keeps_iff {w' : World} {sender holder mid : Address} {b : Bill} {n : ℕ}
    (ha : D.Holder mid) (hsender : sender ≠ mid) (hholder : holder ≠ mid)
    (hsends : ∀ r, sent b.payouts r mid = 0)
    (h : Booked mid (⟨.ether, sender, mid, msgValue⟩ :: ⟨.ether, mid, holder, n⟩ ::
      ((wrapping D holder n ++ (b.coins D holder ++ [⟨.ether, holder, mid, n - b.paid⟩])) ++
        [⟨.ether, mid, sender, msgValue - b.paid⟩])) w w') :
    w.Keeps w' mid ↔ msgValue + (n - b.paid) = n + (msgValue - b.paid) ∧ b.PaysNothingTo mid := by
  rw [h.keeps_iff]
  simp only [sent_cons, received_cons, sent_append, received_append, sent_nil, received_nil,
    sent_wrapping_ether, received_wrapping_ether ha.ne_weth, sent_wrapping_token ha.ne_weth,
    received_wrapping_token, Bill.sent_coins_ether, Bill.received_coins_ether,
    Bill.sent_coins_token hsends, Bill.received_coins_token ha.outsider, hsender, hholder,
    Bill.PaysNothingTo, reduceCtorEq, and_self, and_false, false_and, if_false, if_true,
    Nat.zero_add, Nat.add_zero]
  exact and_congr (by omega) (forall_congr' fun r => eq_comm)

theorem depositETH_keeps (hr : Reachable D (anyAction D) w.protocol)
    (hsender : sender ≠ G.wethGateway) :
    Returns (w.depositETH G sender msgValue onBehalfOf) (fun w' => w.Keeps w' G.wethGateway) := by
  refine (depositETH_booked hr).imp fun w' h => ?_
  have hbooked := h _ G.wethGateway_holder
  exact (spent_keeps_iff (b := State.depositBill D.weth msgValue) G.wethGateway_holder hsender
    (fun _ => rfl) rfl hbooked).mpr fun r => Nat.zero_add _

theorem withdrawETH_keeps (hb : Books D w.protocol) :
    Returns (w.withdrawETH G sender amount dst) (fun w' => w.Keeps w' G.wethGateway) := by
  refine (withdrawETH_booked hb).imp fun w' h => ?_
  obtain ⟨n, htakes, hbooked⟩ := h
  have ha := G.wethGateway_holder
  have hdst : dst ≠ G.wethGateway := by
    rintro rfl
    rw [G.wethGateway_refuses] at htakes
    cases htakes
  rw [(hbooked _ ha).keeps_iff]
  simp only [sent_cons, received_cons, sent_append, received_append, sent_nil, received_nil,
    sent_unwrapping_ether ha.ne_weth, received_unwrapping_ether, sent_unwrapping_token,
    received_unwrapping_token ha.ne_weth, Bill.sent_coins_ether, Bill.received_coins_ether,
    Bill.sent_coins_token (State.sent_withdrawBill hb ha.outsider),
    Bill.received_coins_token ha.outsider, hdst, reduceCtorEq, true_and, and_false, if_false,
    Nat.zero_add, Nat.add_zero, and_true]
  have hpaid : (w.protocol.withdrawBill D.weth n G.wethGateway).paid = 0 := rfl
  intro r
  rw [hpaid, ite_self, Nat.zero_add]
  simp [State.withdrawBill]

theorem borrowETH_keeps_iff (hb : Books D w.protocol) (hexact : D.PaysExactly w.protocol.yVault) :
    Returns (w.borrowETH G sender amount nftAsset nftTokenId onBehalfOf)
      (fun w' => w.Keeps w' G.wethGateway ↔
        w.protocol.BorrowRefundsNothingTo D nftAsset nftTokenId G.wethGateway) := by
  refine (borrowETH_booked hb hexact).imp fun w' h => ?_
  obtain ⟨hpos, htakes, hbooked⟩ := h
  have hfor : onBehalfOf ≠ G.wethGateway := by
    rintro rfl
    rw [G.wethGateway_refuses] at htakes
    cases htakes
  rw [borrowed_keeps_iff hb G.wethGateway_holder hpos (hbooked _ G.wethGateway_holder)]
  exact and_iff_right hfor

theorem repayETH_keeps_iff (hr : Reachable D (anyAction D) w.protocol)
    (hsender : sender ≠ G.wethGateway) :
    Returns (w.repayETH G sender msgValue nftAsset nftTokenId amount) (fun p =>
      w.Keeps p.1 G.wethGateway ↔ ∃ debt, w.protocol.getLoanReserveBorrowAmount
          (w.protocol.lendPoolLoan.getCollateralLoanId nftAsset nftTokenId) = .ok debt ∧
        msgValue - min amount debt
          = msgValue - (w.protocol.repayBill D nftAsset nftTokenId amount).paid ∧
        (w.protocol.repayBill D nftAsset nftTokenId amount).Settles (min amount debt)
          G.wethGateway G.wethGateway) := by
  refine (repayETH_booked hr).imp fun p h => ?_
  obtain ⟨debt, hweth, hdebt, hcovered, hpaid, hbooked⟩ := h
  have ha := G.wethGateway_holder
  have hall := hbooked _ ha
  rw [hpaid] at hall
  rw [repaid_keeps_iff ha hsender (ha.outsider.sent_eq_zero State.repayBill_within) hweth
    hcovered hall]
  refine ⟨fun h => ⟨debt, hdebt, h⟩, fun h => ?_⟩
  obtain ⟨debt', hdebt', h⟩ := h
  obtain rfl : debt' = debt := Except.ok.inj (hdebt'.symm.trans hdebt)
  exact h

theorem auctionETH_keeps_iff (hsender : sender ≠ G.wethGateway) :
    Returns (w.auctionETH G sender msgValue nftAsset nftTokenId onBehalfOf) (fun w' =>
      w.Keeps w' G.wethGateway ↔
        (w.protocol.auctionBill D nftAsset nftTokenId msgValue).PaysNothingTo G.wethGateway) := by
  refine auctionETH_booked.imp fun w' h => ?_
  obtain ⟨hweth, hbooked⟩ := h
  have ha := G.wethGateway_holder
  rw [spent_keeps_iff ha hsender (ha.outsider.sent_eq_zero State.auctionBill_within) hweth
    (hbooked _ ha)]
  exact Bill.settles_paid

theorem redeemETH_keeps_iff (hr : Reachable D (anyAction D) w.protocol)
    (hsender : sender ≠ G.wethGateway) {bidFine : ℕ} :
    Returns (w.redeemETH G sender msgValue nftAsset nftTokenId amount bidFine) (fun p =>
      w.Keeps p.1 G.wethGateway ↔ ∃ b, w.protocol.redeemBill D nftAsset nftTokenId amount = .ok b ∧
        b.PaysNothingTo G.wethGateway) := by
  refine (redeemETH_booked hr).imp fun p h => ?_
  obtain ⟨b, hweth, hbill, -, hle, hwithin, hbooked⟩ := h
  have ha := G.wethGateway_holder
  rw [returned_keeps_iff ha hsender (ha.outsider.sent_eq_zero hwithin)
    ((State.redeemBill_asset hbill).trans hweth) hle (hbooked _ ha), hbill]
  simp

theorem liquidateETH_keeps_iff (hr : Reachable D (anyAction D) w.protocol)
    (hsender : sender ≠ G.wethGateway) :
    Returns (w.liquidateETH G sender msgValue nftAsset nftTokenId) (fun p =>
      w.Keeps p.1 G.wethGateway ↔
        (w.protocol.liquidateBill D nftAsset nftTokenId).PaysNothingTo G.wethGateway) := by
  refine (liquidateETH_booked hr).imp fun p h => ?_
  obtain ⟨hweth, hpaid, hle, hbooked⟩ := h
  have ha := G.wethGateway_holder
  rw [hpaid] at hle
  have hall := hbooked _ ha
  rw [hpaid] at hall
  exact returned_keeps_iff ha hsender (ha.outsider.sent_eq_zero State.liquidateBill_within) hweth
    hle hall

theorem bidDebtETH_keeps_iff (hr : Reachable D (anyAction D) w.protocol)
    (hsender : sender ≠ G.wethGateway) :
    Returns (w.bidDebtETH G sender msgValue nftAsset nftTokenId onBehalfOf) (fun w' =>
      w.Keeps w' G.wethGateway ↔
        (w.protocol.bidBill D nftAsset nftTokenId msgValue).PaysNothingTo G.wethGateway) := by
  refine (bidDebtETH_booked hr).imp fun w' h => ?_
  obtain ⟨hweth, hbooked⟩ := h
  have ha := G.wethGateway_holder
  rw [spent_keeps_iff ha hsender (ha.outsider.sent_eq_zero (State.bidRefund_within _)) hweth
    (hbooked _ ha)]
  exact Bill.settles_paid

theorem buyDebtETH_keeps_iff (hsender : sender ≠ G.wethGateway) :
    Returns (w.buyDebtETH G sender msgValue nftAsset nftTokenId onBehalfOf) (fun w' =>
      w.Keeps w' G.wethGateway ↔
        (w.protocol.buyBill D nftAsset nftTokenId msgValue).PaysNothingTo G.wethGateway) := by
  refine buyDebtETH_booked.imp fun w' h => ?_
  obtain ⟨hweth, hbooked⟩ := h
  have ha := G.wethGateway_holder
  rw [spent_keeps_iff ha hsender (ha.outsider.sent_eq_zero State.buyBill_within) hweth
    (hbooked _ ha)]
  exact Bill.settles_paid

theorem buyoutETH_keeps_iff (hr : Reachable D (anyAction D) w.protocol)
    (hsender : sender ≠ G.wethGateway) :
    Returns (w.buyoutETH G sender msgValue nftAsset nftTokenId onBehalfOf) (fun w' =>
      w.Keeps w' G.wethGateway ↔
        ∃ b, w.protocol.buyoutBill D nftAsset nftTokenId onBehalfOf = .ok b ∧
          b.Settles msgValue G.wethGateway G.wethGateway) := by
  refine (buyoutETH_booked hr).imp fun w' h => ?_
  obtain ⟨b, hweth, hbill, hwithin, hbooked⟩ := h
  have ha := G.wethGateway_holder
  rw [spent_keeps_iff ha hsender (ha.outsider.sent_eq_zero hwithin)
    ((State.buyoutBill_asset hbill).trans hweth) (hbooked _ ha), hbill]
  simp

end World

/-! ## The calls of `PunkGateway.sol` -/

/-- What a gateway pays out of a borrow it has been given, by the vault or by refunds. -/
def State.BorrowCovers {D : Deployment} (G : Gateways D) (s : State) (reserveAsset : Address)
    (amount punkIndex : ℕ) (onBehalfOf a : Address) : Prop :=
  ∀ r, received (s.borrowBill D G.punkGateway reserveAsset G.wrappedPunks punkIndex amount).payouts
      r a + (if reserveAsset = r ∧ onBehalfOf = a then amount else 0)
    = if reserveAsset = r ∧ G.punkGateway = a then amount else 0

namespace PunkGateway

open World

variable {D : Deployment} {G : Gateways D} {w : World} {a sender onBehalfOf reserveAsset : Address}
  {msgValue punkIndex amount : ℕ}

theorem borrow_keeps_iff (hb : Books D w.protocol) (hexact : D.PaysExactly w.protocol.yVault)
    (ha : D.Holder a) :
    Returns (borrow G w sender reserveAsset amount punkIndex onBehalfOf) (fun w' =>
      w.Keeps w' a ↔ w.protocol.BorrowCovers G reserveAsset amount punkIndex onBehalfOf a) := by
  refine (borrow_booked hb hexact).imp fun w' h => ?_
  rw [(h a ha).keeps_iff]
  have hpaid : (w.protocol.borrowBill D G.punkGateway reserveAsset G.wrappedPunks punkIndex
      amount).paid = 0 := rfl
  simp only [sent_cons, received_cons, sent_append, received_append, sent_nil, received_nil,
    Bill.sent_coins_ether, Bill.received_coins_ether,
    Bill.sent_coins_token (State.sent_borrowBill hb ha.outsider),
    Bill.received_coins_token ha.outsider, hpaid, Coin.token.injEq, reduceCtorEq, ite_self,
    true_and, false_and, if_false, Nat.zero_add, Nat.add_zero]
  exact forall_congr' fun r => eq_comm

theorem repay_keeps_iff (hr : Reachable D (anyAction D) w.protocol) (ha : D.Holder a)
    (hsender : sender ≠ a) :
    Returns (repay G w sender punkIndex amount) (fun p => w.Keeps p.1 a ↔
      ∃ debt, w.protocol.getLoanReserveBorrowAmount
          (w.protocol.lendPoolLoan.getCollateralLoanId G.wrappedPunks punkIndex) = .ok debt ∧
        (w.protocol.repayBill D G.wrappedPunks punkIndex (min amount debt)).Settles
          (min amount debt) G.punkGateway a) := by
  refine (repay_booked hr).imp fun p h => ?_
  obtain ⟨debt, hdebt, hbooked⟩ := h
  rw [taken_keeps_iff (b := w.protocol.repayBill D G.wrappedPunks punkIndex (min amount debt)) ha
    hsender (ha.outsider.sent_eq_zero State.repayBill_within) (hbooked a ha), hdebt]
  simp

theorem buyDebtPunk_keeps_iff (ha : D.Holder a) (hsender : sender ≠ a) :
    Returns (buyDebtPunk G w sender punkIndex onBehalfOf amount) (fun w' => w.Keeps w' a ↔
      (w.protocol.buyBill D G.wrappedPunks punkIndex amount).PaysNothingTo a) := by
  refine buyDebtPunk_booked.imp fun w' h => ?_
  rw [taken_keeps_iff (b := w.protocol.buyBill D G.wrappedPunks punkIndex amount) ha hsender
    (ha.outsider.sent_eq_zero State.buyBill_within) (h a ha)]
  exact Bill.settles_paid

theorem auction_keeps_iff (ha : D.Holder a) (hsender : sender ≠ a) {bidPrice : ℕ} :
    Returns (auction G w sender punkIndex bidPrice onBehalfOf) (fun w' => w.Keeps w' a ↔
      (w.protocol.auctionBill D G.wrappedPunks punkIndex bidPrice).PaysNothingTo a) := by
  refine auction_booked.imp fun w' h => ?_
  rw [taken_keeps_iff (b := w.protocol.auctionBill D G.wrappedPunks punkIndex bidPrice) ha hsender
    (ha.outsider.sent_eq_zero State.auctionBill_within) (h a ha)]
  exact Bill.settles_paid

theorem redeem_keeps_iff (hr : Reachable D (anyAction D) w.protocol) (ha : D.Holder a)
    (hsender : sender ≠ a) {bidFine : ℕ} :
    Returns (redeem G w sender punkIndex amount bidFine) (fun p => w.Keeps p.1 a ↔
      ∃ b, w.protocol.redeemBill D G.wrappedPunks punkIndex amount = .ok b ∧
        b.PaysNothingTo a) := by
  refine (redeem_booked hr).imp fun p h => ?_
  obtain ⟨b, hbill, hle, hwithin, hbooked⟩ := h
  have hall := hbooked a ha
  rw [← State.redeemBill_asset hbill] at hall
  rw [givenBack_keeps_iff ha hsender (ha.outsider.sent_eq_zero hwithin) hle hall, hbill]
  simp

theorem liquidate_keeps_iff (hr : Reachable D (anyAction D) w.protocol) (ha : D.Holder a)
    (hsender : sender ≠ a) :
    Returns (liquidate G w sender punkIndex amount) (fun p => w.Keeps p.1 a ↔
      (w.protocol.liquidateBill D G.wrappedPunks punkIndex).PaysNothingTo a) := by
  refine (liquidate_booked hr).imp fun p h => ?_
  obtain ⟨hle, hbooked⟩ := h
  exact givenBack_keeps_iff (b := w.protocol.liquidateBill D G.wrappedPunks punkIndex) ha hsender
    (ha.outsider.sent_eq_zero State.liquidateBill_within) hle (hbooked a ha)

theorem buyout_keeps_iff (hr : Reachable D (anyAction D) w.protocol) (ha : D.Holder a)
    (hsender : sender ≠ a) :
    Returns (buyout G w sender punkIndex amount onBehalfOf) (fun w' => w.Keeps w' a ↔
      ∃ b, w.protocol.buyoutBill D G.wrappedPunks punkIndex onBehalfOf = .ok b ∧
        b.Settles amount G.punkGateway a) := by
  refine (buyout_booked hr).imp fun w' h => ?_
  obtain ⟨b, hbill, hwithin, hbooked⟩ := h
  have hall := hbooked a ha
  rw [← State.buyoutBill_asset hbill] at hall
  rw [taken_keeps_iff ha hsender (ha.outsider.sent_eq_zero hwithin) hall, hbill]
  simp

theorem borrowETH_keeps_iff (hb : Books D w.protocol) (hexact : D.PaysExactly w.protocol.yVault)
    (ha : D.Holder a) :
    Returns (borrowETH G w sender amount punkIndex onBehalfOf) (fun w' => w.Keeps w' a ↔
      onBehalfOf ≠ a ∧ w.protocol.BorrowRefundsNothingTo D G.wrappedPunks punkIndex a) := by
  refine (borrowETH_booked hb hexact).imp fun w' h => ?_
  obtain ⟨hpos, -, hbooked⟩ := h
  exact borrowed_keeps_iff hb ha hpos (hbooked a ha)

theorem buyDebtPunkETH_keeps_iff (ha : D.Holder a) (hsender : sender ≠ a) :
    Returns (buyDebtPunkETH G w sender msgValue punkIndex onBehalfOf) (fun w' => w.Keeps w' a ↔
      (w.protocol.buyBill D G.wrappedPunks punkIndex msgValue).PaysNothingTo a) := by
  refine buyDebtPunkETH_booked.imp fun w' h => ?_
  obtain ⟨hweth, hbooked⟩ := h
  rw [spent_keeps_iff ha hsender (ha.outsider.sent_eq_zero State.buyBill_within) hweth
    (hbooked a ha).relayed]
  exact Bill.settles_paid

theorem auctionETH_keeps_iff (ha : D.Holder a) (hsender : sender ≠ a) :
    Returns (auctionETH G w sender msgValue punkIndex onBehalfOf) (fun w' => w.Keeps w' a ↔
      (w.protocol.auctionBill D G.wrappedPunks punkIndex msgValue).PaysNothingTo a) := by
  refine auctionETH_booked.imp fun w' h => ?_
  obtain ⟨hweth, hbooked⟩ := h
  rw [spent_keeps_iff ha hsender (ha.outsider.sent_eq_zero State.auctionBill_within) hweth
    (hbooked a ha).relayed]
  exact Bill.settles_paid

theorem redeemETH_keeps_iff (hr : Reachable D (anyAction D) w.protocol) (ha : D.Holder a)
    (hsender : sender ≠ a) {bidFine : ℕ} :
    Returns (redeemETH G w sender msgValue punkIndex amount bidFine) (fun p => w.Keeps p.1 a ↔
      ∃ b, w.protocol.redeemBill D G.wrappedPunks punkIndex amount = .ok b ∧
        b.PaysNothingTo a) := by
  refine (redeemETH_booked hr).imp fun p h => ?_
  obtain ⟨b, hweth, hbill, hle, hwithin, hbooked⟩ := h
  rw [returned_keeps_iff ha hsender (ha.outsider.sent_eq_zero hwithin)
    ((State.redeemBill_asset hbill).trans hweth) hle (hbooked a ha).between, hbill]
  simp

theorem liquidateETH_keeps_iff (hr : Reachable D (anyAction D) w.protocol) (ha : D.Holder a)
    (hsender : sender ≠ a) :
    Returns (liquidateETH G w sender msgValue punkIndex) (fun p => w.Keeps p.1 a ↔
      (w.protocol.liquidateBill D G.wrappedPunks punkIndex).PaysNothingTo a) := by
  refine (liquidateETH_booked hr).imp fun p h => ?_
  obtain ⟨hweth, hle, hbooked⟩ := h
  exact returned_keeps_iff ha hsender (ha.outsider.sent_eq_zero State.liquidateBill_within) hweth
    hle (hbooked a ha).between

theorem buyoutETH_keeps_iff (hr : Reachable D (anyAction D) w.protocol) (ha : D.Holder a)
    (hsender : sender ≠ a) :
    Returns (buyoutETH G w sender msgValue punkIndex onBehalfOf) (fun w' => w.Keeps w' a ↔
      ∃ b, w.protocol.buyoutBill D G.wrappedPunks punkIndex onBehalfOf = .ok b ∧
        b.Settles msgValue G.wethGateway a) := by
  refine (buyoutETH_booked hr).imp fun w' h => ?_
  obtain ⟨b, hweth, hbill, hwithin, hbooked⟩ := h
  rw [spent_keeps_iff ha hsender (ha.outsider.sent_eq_zero hwithin)
    ((State.buyoutBill_asset hbill).trans hweth) (hbooked a ha).relayed, hbill]
  simp

/-- **What is passed on is not what is taken.** Of the two gateways, the one that passes on must
come out even in ether, the one that pays in WETH. -/
theorem repayETH_keeps_iff (hr : Reachable D (anyAction D) w.protocol)
    (ha : a = G.wethGateway ∨ a = G.punkGateway) (hsender : sender ≠ a) :
    Returns (repayETH G w sender msgValue punkIndex amount) (fun p => w.Keeps p.1 a ↔
      ∃ debt, w.protocol.getLoanReserveBorrowAmount
          (w.protocol.lendPoolLoan.getCollateralLoanId G.wrappedPunks punkIndex) = .ok debt ∧
        (a = G.punkGateway →
          msgValue + (min amount debt
              - (w.protocol.repayBill D G.wrappedPunks punkIndex amount).paid)
            = min amount debt
              + (msgValue - (w.protocol.repayBill D G.wrappedPunks punkIndex amount).paid)) ∧
        (w.protocol.repayBill D G.wrappedPunks punkIndex amount).Settles (min amount debt)
          G.wethGateway a) := by
  refine (repayETH_booked hr).imp fun p h => ?_
  obtain ⟨debt, hweth, hdebt, hcovered, hpaid, hbooked⟩ := h
  have hne := G.wethGateway_ne_punkGateway
  rw [hpaid] at hbooked
  simp only [hdebt, Except.ok.injEq, exists_eq_left']
  rcases ha with rfl | rfl
  · have ha := G.wethGateway_holder
    rw [passedOn_keeps_iff ha hsender hne.symm (ha.outsider.sent_eq_zero State.repayBill_within)
      hweth (hbooked _ ha)]
    exact (and_iff_right fun heq => absurd heq hne).symm
  · have ha := G.punkGateway_holder
    rw [passingOn_keeps_iff ha hsender hne (ha.outsider.sent_eq_zero State.repayBill_within)
      (hbooked _ ha), Bill.settles_of_ne hne]
    exact and_congr_left' ⟨fun h _ => h, fun h => h rfl⟩

end PunkGateway

end Unlockd
