/-
The calls of the two gateways, and which of them leave nothing behind.

For every call there is a condition on the state before that says just when a gateway ends the call
with the ether and the tokens that it had. Most conditions only say that the gateway is not itself
paid: by a bid that goes back, a fine, or the price of a debt. The buyouts also ask that the value
be the price, since what is above it stays with the gateway and is there for the next caller.
-/
import Unlockd.GatewayBalances

set_option autoImplicit false

namespace Unlockd

open Outcome Transfers

/-! ## Calls -/

/-- The calls of `WETHGateway.sol`. -/
inductive EtherCall
  | depositETH (onBehalfOf : Address)
  | withdrawETH (amount : ℕ) (dst : Address)
  | borrowETH (amount : ℕ) (nftAsset : Address) (nftTokenId : ℕ) (onBehalfOf : Address)
  | repayETH (nftAsset : Address) (nftTokenId amount : ℕ)
  | auctionETH (nftAsset : Address) (nftTokenId : ℕ) (onBehalfOf : Address)
  | redeemETH (nftAsset : Address) (nftTokenId amount bidFine : ℕ)
  | liquidateETH (nftAsset : Address) (nftTokenId : ℕ)
  | bidDebtETH (nftAsset : Address) (nftTokenId : ℕ) (onBehalfOf : Address)
  | buyDebtETH (nftAsset : Address) (nftTokenId : ℕ) (onBehalfOf : Address)
  | buyoutETH (nftAsset : Address) (nftTokenId : ℕ) (onBehalfOf : Address)

/-- The calls of `PunkGateway.sol`. -/
inductive PunkCall
  | borrow (reserveAsset : Address) (amount punkIndex : ℕ) (onBehalfOf : Address)
  | borrowETH (amount punkIndex : ℕ) (onBehalfOf : Address)
  | repay (punkIndex amount : ℕ)
  | repayETH (punkIndex amount : ℕ)
  | buyDebtPunk (punkIndex : ℕ) (onBehalfOf : Address) (amount : ℕ)
  | buyDebtPunkETH (punkIndex : ℕ) (onBehalfOf : Address)
  | auction (punkIndex bidPrice : ℕ) (onBehalfOf : Address)
  | auctionETH (punkIndex : ℕ) (onBehalfOf : Address)
  | redeem (punkIndex amount bidFine : ℕ)
  | redeemETH (punkIndex amount bidFine : ℕ)
  | liquidate (punkIndex amount : ℕ)
  | liquidateETH (punkIndex : ℕ)
  | buyout (punkIndex amount : ℕ) (onBehalfOf : Address)
  | buyoutETH (punkIndex : ℕ) (onBehalfOf : Address)

/-- A function that does not take ether with the call. -/
def notPayable (msgValue : ℕ) (call : Except GatewayError World) : Except GatewayError World := do
  require (msgValue = 0) GatewayError.nonPayable
  call

/-- What a call leads to, whatever it returns. -/
def toWorld {α : Type} (call : Except GatewayError (World × α)) : Except GatewayError World := do
  let p ← call
  return p.1

/-- What comes of a call of the one gateway. -/
def EtherCall.execute {D : Deployment} (G : Gateways D) (w : World) (sender : Address)
    (msgValue : ℕ) : EtherCall → Except GatewayError World
  | depositETH onBehalfOf => w.depositETH G sender msgValue onBehalfOf
  | withdrawETH amount dst => notPayable msgValue (w.withdrawETH G sender amount dst)
  | borrowETH amount nftAsset nftTokenId onBehalfOf =>
    notPayable msgValue (w.borrowETH G sender amount nftAsset nftTokenId onBehalfOf)
  | repayETH nftAsset nftTokenId amount =>
    toWorld (w.repayETH G sender msgValue nftAsset nftTokenId amount)
  | auctionETH nftAsset nftTokenId onBehalfOf =>
    w.auctionETH G sender msgValue nftAsset nftTokenId onBehalfOf
  | redeemETH nftAsset nftTokenId amount bidFine =>
    toWorld (w.redeemETH G sender msgValue nftAsset nftTokenId amount bidFine)
  | liquidateETH nftAsset nftTokenId =>
    toWorld (w.liquidateETH G sender msgValue nftAsset nftTokenId)
  | bidDebtETH nftAsset nftTokenId onBehalfOf =>
    w.bidDebtETH G sender msgValue nftAsset nftTokenId onBehalfOf
  | buyDebtETH nftAsset nftTokenId onBehalfOf =>
    w.buyDebtETH G sender msgValue nftAsset nftTokenId onBehalfOf
  | buyoutETH nftAsset nftTokenId onBehalfOf =>
    w.buyoutETH G sender msgValue nftAsset nftTokenId onBehalfOf

/-- And of the other. -/
def PunkCall.execute {D : Deployment} (G : Gateways D) (w : World) (sender : Address)
    (msgValue : ℕ) : PunkCall → Except GatewayError World
  | borrow reserveAsset amount punkIndex onBehalfOf =>
    notPayable msgValue (PunkGateway.borrow G w sender reserveAsset amount punkIndex onBehalfOf)
  | borrowETH amount punkIndex onBehalfOf =>
    notPayable msgValue (PunkGateway.borrowETH G w sender amount punkIndex onBehalfOf)
  | repay punkIndex amount =>
    notPayable msgValue (toWorld (PunkGateway.repay G w sender punkIndex amount))
  | repayETH punkIndex amount =>
    toWorld (PunkGateway.repayETH G w sender msgValue punkIndex amount)
  | buyDebtPunk punkIndex onBehalfOf amount =>
    notPayable msgValue (PunkGateway.buyDebtPunk G w sender punkIndex onBehalfOf amount)
  | buyDebtPunkETH punkIndex onBehalfOf =>
    PunkGateway.buyDebtPunkETH G w sender msgValue punkIndex onBehalfOf
  | auction punkIndex bidPrice onBehalfOf =>
    notPayable msgValue (PunkGateway.auction G w sender punkIndex bidPrice onBehalfOf)
  | auctionETH punkIndex onBehalfOf =>
    PunkGateway.auctionETH G w sender msgValue punkIndex onBehalfOf
  | redeem punkIndex amount bidFine =>
    notPayable msgValue (toWorld (PunkGateway.redeem G w sender punkIndex amount bidFine))
  | redeemETH punkIndex amount bidFine =>
    toWorld (PunkGateway.redeemETH G w sender msgValue punkIndex amount bidFine)
  | liquidate punkIndex amount =>
    notPayable msgValue (toWorld (PunkGateway.liquidate G w sender punkIndex amount))
  | liquidateETH punkIndex => toWorld (PunkGateway.liquidateETH G w sender msgValue punkIndex)
  | buyout punkIndex amount onBehalfOf =>
    notPayable msgValue (PunkGateway.buyout G w sender punkIndex amount onBehalfOf)
  | buyoutETH punkIndex onBehalfOf =>
    PunkGateway.buyoutETH G w sender msgValue punkIndex onBehalfOf

/-! ## When nothing is left behind -/

/-- When a call of `WETHGateway.sol` leaves nothing with the gateway. -/
def EtherCall.Settled {D : Deployment} (G : Gateways D) (s : State) (msgValue : ℕ) :
    EtherCall → Prop
  | depositETH _ => True
  | withdrawETH _ _ => True
  | borrowETH _ nftAsset nftTokenId _ =>
    s.BorrowRefundsNothingTo D nftAsset nftTokenId G.wethGateway
  | repayETH nftAsset nftTokenId amount => ∃ debt,
    s.getLoanReserveBorrowAmount (s.lendPoolLoan.getCollateralLoanId nftAsset nftTokenId)
      = .ok debt ∧
    msgValue - min amount debt = msgValue - (s.repayBill D nftAsset nftTokenId amount).paid ∧
    (s.repayBill D nftAsset nftTokenId amount).Settles (min amount debt) G.wethGateway
      G.wethGateway
  | auctionETH nftAsset nftTokenId _ =>
    (s.auctionBill D nftAsset nftTokenId msgValue).PaysNothingTo G.wethGateway
  | redeemETH nftAsset nftTokenId amount _ => ∃ b,
    s.redeemBill D nftAsset nftTokenId amount = .ok b ∧ b.PaysNothingTo G.wethGateway
  | liquidateETH nftAsset nftTokenId =>
    (s.liquidateBill D nftAsset nftTokenId).PaysNothingTo G.wethGateway
  | bidDebtETH nftAsset nftTokenId _ =>
    (s.bidBill D nftAsset nftTokenId msgValue).PaysNothingTo G.wethGateway
  | buyDebtETH nftAsset nftTokenId _ =>
    (s.buyBill D nftAsset nftTokenId msgValue).PaysNothingTo G.wethGateway
  | buyoutETH nftAsset nftTokenId onBehalfOf => ∃ b,
    s.buyoutBill D nftAsset nftTokenId onBehalfOf = .ok b ∧
      b.Settles msgValue G.wethGateway G.wethGateway

/-- When a call of `PunkGateway.sol` leaves nothing with one of the gateways: with itself, or with
the other, through which ether goes. -/
def PunkCall.Settled {D : Deployment} (G : Gateways D) (s : State) (msgValue : ℕ) (a : Address) :
    PunkCall → Prop
  | borrow reserveAsset amount punkIndex onBehalfOf =>
    s.BorrowCovers G reserveAsset amount punkIndex onBehalfOf a
  | borrowETH _ punkIndex onBehalfOf =>
    onBehalfOf ≠ a ∧ s.BorrowRefundsNothingTo D G.wrappedPunks punkIndex a
  | repay punkIndex amount => ∃ debt,
    s.getLoanReserveBorrowAmount (s.lendPoolLoan.getCollateralLoanId G.wrappedPunks punkIndex)
      = .ok debt ∧
    (s.repayBill D G.wrappedPunks punkIndex (min amount debt)).Settles (min amount debt)
      G.punkGateway a
  | repayETH punkIndex amount => ∃ debt,
    s.getLoanReserveBorrowAmount (s.lendPoolLoan.getCollateralLoanId G.wrappedPunks punkIndex)
      = .ok debt ∧
    (a = G.punkGateway →
      msgValue + (min amount debt - (s.repayBill D G.wrappedPunks punkIndex amount).paid)
        = min amount debt
          + (msgValue - (s.repayBill D G.wrappedPunks punkIndex amount).paid)) ∧
    (s.repayBill D G.wrappedPunks punkIndex amount).Settles (min amount debt) G.wethGateway a
  | buyDebtPunk punkIndex _ amount =>
    (s.buyBill D G.wrappedPunks punkIndex amount).PaysNothingTo a
  | buyDebtPunkETH punkIndex _ => (s.buyBill D G.wrappedPunks punkIndex msgValue).PaysNothingTo a
  | auction punkIndex bidPrice _ =>
    (s.auctionBill D G.wrappedPunks punkIndex bidPrice).PaysNothingTo a
  | auctionETH punkIndex _ => (s.auctionBill D G.wrappedPunks punkIndex msgValue).PaysNothingTo a
  | redeem punkIndex amount _ => ∃ b,
    s.redeemBill D G.wrappedPunks punkIndex amount = .ok b ∧ b.PaysNothingTo a
  | redeemETH punkIndex amount _ => ∃ b,
    s.redeemBill D G.wrappedPunks punkIndex amount = .ok b ∧ b.PaysNothingTo a
  | liquidate punkIndex _ => (s.liquidateBill D G.wrappedPunks punkIndex).PaysNothingTo a
  | liquidateETH punkIndex => (s.liquidateBill D G.wrappedPunks punkIndex).PaysNothingTo a
  | buyout punkIndex amount onBehalfOf => ∃ b,
    s.buyoutBill D G.wrappedPunks punkIndex onBehalfOf = .ok b ∧ b.Settles amount G.punkGateway a
  | buyoutETH punkIndex onBehalfOf => ∃ b,
    s.buyoutBill D G.wrappedPunks punkIndex onBehalfOf = .ok b ∧ b.Settles msgValue G.wethGateway a

section Keeping

variable {D : Deployment} {G : Gateways D} {w : World} {sender : Address} {msgValue : ℕ}

theorem notPayable_returns {call : Except GatewayError World} {Q : World → Prop}
    (h : Returns call Q) : Returns (notPayable msgValue call) Q :=
  Returns.check fun _ => h

theorem toWorld_returns {α : Type} {call : Except GatewayError (World × α)} {Q : World → Prop}
    (h : Returns call fun p => Q p.1) : Returns (toWorld call) Q :=
  Sat.bind h fun _ hp => hp

/-- **The one gateway.** It has what it had just when the call meets its condition. -/
theorem EtherCall.keeps_iff (hr : Reachable D (anyAction D) w.protocol)
    (hexact : D.PaysExactly w.protocol.yVault) (hsender : sender ≠ G.wethGateway)
    (call : EtherCall) :
    Returns (call.execute G w sender msgValue) (fun w' =>
      w.Keeps w' G.wethGateway ↔ call.Settled G w.protocol msgValue) := by
  have hb := Reachable.books hr
  cases call with
  | depositETH onBehalfOf =>
    exact (World.depositETH_keeps hr hsender).imp fun _ h => iff_of_true h trivial
  | withdrawETH amount dst =>
    exact notPayable_returns ((World.withdrawETH_keeps hb).imp fun _ h => iff_of_true h trivial)
  | borrowETH amount nftAsset nftTokenId onBehalfOf =>
    exact notPayable_returns (World.borrowETH_keeps_iff hb hexact)
  | repayETH nftAsset nftTokenId amount =>
    exact toWorld_returns (World.repayETH_keeps_iff hr hsender)
  | auctionETH nftAsset nftTokenId onBehalfOf => exact World.auctionETH_keeps_iff hsender
  | redeemETH nftAsset nftTokenId amount bidFine =>
    exact toWorld_returns (World.redeemETH_keeps_iff hr hsender)
  | liquidateETH nftAsset nftTokenId =>
    exact toWorld_returns (World.liquidateETH_keeps_iff hr hsender)
  | bidDebtETH nftAsset nftTokenId onBehalfOf => exact World.bidDebtETH_keeps_iff hr hsender
  | buyDebtETH nftAsset nftTokenId onBehalfOf => exact World.buyDebtETH_keeps_iff hsender
  | buyoutETH nftAsset nftTokenId onBehalfOf => exact World.buyoutETH_keeps_iff hr hsender

/-- **The other gateway**, and the one behind it. -/
theorem PunkCall.keeps_iff (hr : Reachable D (anyAction D) w.protocol)
    (hexact : D.PaysExactly w.protocol.yVault) {a : Address}
    (hgateway : a = G.wethGateway ∨ a = G.punkGateway) (hsender : sender ≠ a) (call : PunkCall) :
    Returns (call.execute G w sender msgValue) (fun w' =>
      w.Keeps w' a ↔ call.Settled G w.protocol msgValue a) := by
  have hb := Reachable.books hr
  have ha : D.Holder a := by
    rcases hgateway with rfl | rfl
    · exact G.wethGateway_holder
    · exact G.punkGateway_holder
  cases call with
  | borrow reserveAsset amount punkIndex onBehalfOf =>
    exact notPayable_returns (PunkGateway.borrow_keeps_iff hb hexact ha)
  | borrowETH amount punkIndex onBehalfOf =>
    exact notPayable_returns (PunkGateway.borrowETH_keeps_iff hb hexact ha)
  | repay punkIndex amount =>
    exact notPayable_returns (toWorld_returns (PunkGateway.repay_keeps_iff hr ha hsender))
  | repayETH punkIndex amount =>
    exact toWorld_returns (PunkGateway.repayETH_keeps_iff hr hgateway hsender)
  | buyDebtPunk punkIndex onBehalfOf amount =>
    exact notPayable_returns (PunkGateway.buyDebtPunk_keeps_iff ha hsender)
  | buyDebtPunkETH punkIndex onBehalfOf => exact PunkGateway.buyDebtPunkETH_keeps_iff ha hsender
  | auction punkIndex bidPrice onBehalfOf =>
    exact notPayable_returns (PunkGateway.auction_keeps_iff ha hsender)
  | auctionETH punkIndex onBehalfOf => exact PunkGateway.auctionETH_keeps_iff ha hsender
  | redeem punkIndex amount bidFine =>
    exact notPayable_returns (toWorld_returns (PunkGateway.redeem_keeps_iff hr ha hsender))
  | redeemETH punkIndex amount bidFine =>
    exact toWorld_returns (PunkGateway.redeemETH_keeps_iff hr ha hsender)
  | liquidate punkIndex amount =>
    exact notPayable_returns (toWorld_returns (PunkGateway.liquidate_keeps_iff hr ha hsender))
  | liquidateETH punkIndex =>
    exact toWorld_returns (PunkGateway.liquidateETH_keeps_iff hr ha hsender)
  | buyout punkIndex amount onBehalfOf =>
    exact notPayable_returns (PunkGateway.buyout_keeps_iff hr ha hsender)
  | buyoutETH punkIndex onBehalfOf => exact PunkGateway.buyoutETH_keeps_iff hr ha hsender

/-- **What the gateways keep.** After a call of `WETHGateway.sol` that goes through, the gateway has
the ether and the tokens it had before just when the call meets its condition; after a call of
`PunkGateway.sol` so does each of the two gateways. -/
theorem gateways_keep_nothing (hr : Reachable D (anyAction D) w.protocol)
    (hexact : D.PaysExactly w.protocol.yVault) :
    (sender ≠ G.wethGateway → ∀ (call : EtherCall) (w' : World),
      call.execute G w sender msgValue = .ok w' →
        (w.Keeps w' G.wethGateway ↔ call.Settled G w.protocol msgValue)) ∧
    (∀ a, a = G.wethGateway ∨ a = G.punkGateway → sender ≠ a → ∀ (call : PunkCall) (w' : World),
      call.execute G w sender msgValue = .ok w' →
        (w.Keeps w' a ↔ call.Settled G w.protocol msgValue a)) :=
  ⟨fun hsender call _ hok => (call.keeps_iff hr hexact hsender).ok hok,
    fun _ ha hsender call _ hok => (call.keeps_iff hr hexact ha hsender).ok hok⟩

end Keeping

/-- In the larger deployment the price of the token has fallen to what the loan on it owes. -/
def State.largerFallen : State :=
  .larger .weth9 (largerLoan ++ [.configure (.setNFTPrice 40 7 (30 * WAD))])

theorem State.largerFallen_reachable :
    Reachable .larger (anyAction .larger) State.largerFallen :=
  State.larger_reachable _ _

@[inherit_doc State.largerFallen]
def World.largerFallen : World := .around State.largerFallen

theorem World.largerFallen_reachable :
    Reachable .larger (anyAction .larger) World.largerFallen.protocol :=
  State.largerFallen_reachable

theorem World.largerFallen_exact : Deployment.larger.PaysExactly
    World.largerFallen.protocol.yVault :=
  Deployment.larger_paysFloor.paysExactly fun amount => by
    rw [show World.largerFallen.protocol.yVault.pricePerShare = WAD by decide +kernel]
    exact sharesMeet_WAD amount

/-- User 104 buys the token out with 30 ether, which is the price, and the gateway has what it had
before. -/
theorem gateways_keep_nothing_sample : ∃ w',
    (EtherCall.buyoutETH 40 7 104).execute .larger World.largerFallen 104 (30 * WAD) = .ok w' ∧
    World.largerFallen.Keeps w' 110 := by
  obtain ⟨w', hok⟩ := exists_ok_of_raised (x := (EtherCall.buyoutETH 40 7 104).execute .larger
    World.largerFallen 104 (30 * WAD)) (by decide +kernel)
  have hr := World.largerFallen_reachable
  have hexact := World.largerFallen_exact
  have hbill : (World.largerFallen.protocol.buyoutBill .larger 40 7 104).toOption.map (fun b =>
      (b.asset, b.paid, b.payouts.map Transfer.dst)) = some (10, 30 * WAD, [100]) := by
    decide +kernel
  generalize World.largerFallen = w at *
  refine ⟨w', hok, ((gateways_keep_nothing hr hexact).1 (by decide) _ w' hok).mpr ?_⟩
  obtain ⟨b, hb, hfacts⟩ := Option.map_eq_some_iff.mp hbill
  simp only [Prod.mk.injEq] at hfacts
  obtain ⟨hasset, hpaid, hdst⟩ := hfacts
  refine ⟨b, eq_ok_of_toOption hb, ?_⟩
  rw [← hpaid]
  refine Bill.settles_paid.mpr fun r => received_eq_zero r fun t ht => ?_
  have hmem : t.dst ∈ b.payouts.map Transfer.dst := List.mem_map_of_mem ht
  rw [hdst, List.mem_singleton] at hmem
  rw [hmem]
  decide

/-- With 50 ether user 104 buys it out as well, and 20 WETH stay with the gateway. -/
theorem gateway_can_keep_value : ∃ w',
    Reachable .larger (anyAction .larger) World.largerFallen.protocol ∧
    Deployment.larger.PaysExactly World.largerFallen.protocol.yVault ∧
    (EtherCall.buyoutETH 40 7 104).execute .larger World.largerFallen 104 (50 * WAD) = .ok w' ∧
    w'.holds Gateways.larger.wethGateway (.token 10)
      = World.largerFallen.holds Gateways.larger.wethGateway (.token 10) + 20 * WAD ∧
    ¬ World.largerFallen.Keeps w' Gateways.larger.wethGateway := by
  obtain ⟨w', hok⟩ := exists_ok_of_raised (x := (EtherCall.buyoutETH 40 7 104).execute .larger
    World.largerFallen 104 (50 * WAD)) (by decide +kernel)
  have hafter : ((EtherCall.buyoutETH 40 7 104).execute .larger World.largerFallen 104
      (50 * WAD)).toOption.map (fun w => w.holds Gateways.larger.wethGateway (.token 10))
      = some (World.largerFallen.holds Gateways.larger.wethGateway (.token 10) + 20 * WAD) := by
    decide +kernel
  rw [hok] at hafter
  have hmore : w'.holds Gateways.larger.wethGateway (.token 10)
      = World.largerFallen.holds Gateways.larger.wethGateway (.token 10) + 20 * WAD :=
    Option.some.inj hafter
  refine ⟨w', World.largerFallen_reachable, World.largerFallen_exact, hok, hmore, fun hkeeps => ?_⟩
  have hsame := hkeeps (.token 10)
  rw [hmore, Nat.add_eq_left] at hsame
  exact absurd hsame (by decide)

end Unlockd
