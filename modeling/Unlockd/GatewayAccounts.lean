/-
The accounts of the two gateways.

A gateway holds ether and tokens only for as long as a call lasts. The account of a call is the list
of everything that moved in it, ether included, so that what a gateway has at the end can be set
against what it had at the beginning. What the protocol takes and pays in it is the bill of the
operation, and stands in the account as one part; the rest is the gateway's own doing. WETH is
bought from its contract for ether and sold to it for ether: to everyone but that contract these are
two transfers like any others.
-/
import Unlockd.Bills
import Unlockd.PunkGateway
import Unlockd.Sales
import Unlockd.Withdrawals

set_option autoImplicit false

namespace Unlockd

open Outcome Transfers

/-! ## What moves in a call -/

/-- Ether, or the token at an address. -/
inductive Coin
  | ether
  | token (asset : Address)
  deriving DecidableEq

theorem Coin.token_injective : Function.Injective Coin.token := fun _ _ h => Coin.token.inj h

theorem Coin.token_ne_ether (r : Address) : Coin.token r ≠ .ether := nofun

/-- An account that neither issues a token nor keeps one for others. -/
structure Deployment.Holder (D : Deployment) (a : Address) : Prop where
  outsider : D.Outsider a
  ne_weth : D.weth ≠ a

namespace Gateways

variable {D : Deployment} (G : Gateways D)

theorem wethGateway_holder : D.Holder G.wethGateway :=
  ⟨⟨G.wethGateway_isUser, G.yVault_ne_wethGateway.symm⟩, G.weth_ne_wethGateway⟩

theorem punkGateway_holder : D.Holder G.punkGateway :=
  ⟨⟨G.punkGateway_isUser, G.yVault_ne_punkGateway.symm⟩, G.weth_ne_punkGateway⟩

end Gateways

/-- What is bought of WETH, and with what. -/
def wrapping (D : Deployment) (holder : Address) (amount : ℕ) : List (Transfer Coin Address) :=
  [⟨.ether, holder, D.weth, amount⟩, ⟨.token D.weth, D.weth, holder, amount⟩]

/-- What is sold of WETH, and for what. -/
def unwrapping (D : Deployment) (holder : Address) (amount : ℕ) : List (Transfer Coin Address) :=
  [⟨.token D.weth, holder, D.weth, amount⟩, ⟨.ether, D.weth, holder, amount⟩]

/-- A bill among the transfers of a call. -/
def Bill.coins (D : Deployment) (b : Bill) (payer : Address) : List (Transfer Coin Address) :=
  relabel Coin.token (b.transfers D payer)

namespace World

variable {D : Deployment} {G : Gateways D} {w w' w'' : World} {a caller src dst : Address}
  {amount : ℕ} {ts ts' : List (Transfer Coin Address)}

/-- What an account has. -/
def holds (w : World) (a : Address) : Coin → ℕ
  | .ether => w.ether a
  | .token r => (w.protocol.erc20 r).balanceOf a

/-- An account has at the end what it had at the beginning. -/
def Keeps (w w' : World) (a : Address) : Prop := ∀ k, w'.holds a k = w.holds a k

/-- What an account has differs by its part in the transfers of a call. -/
def Booked (a : Address) (ts : List (Transfer Coin Address)) (w w' : World) : Prop :=
  BookedFor a ts (w.holds a) (w'.holds a)

theorem Booked.append (h : Booked a ts w w') (h' : Booked a ts' w' w'') :
    Booked a (ts ++ ts') w w'' :=
  BookedFor.append h h'

/-- Neither ether nor a token of a reserve has moved. -/
theorem Booked.ofEq (hether : w'.ether = w.ether) (herc20 : w'.protocol.erc20 = w.protocol.erc20) :
    Booked a [] w w' := by
  intro k
  cases k with
  | ether => exact congrFun hether a
  | token r => exact congrArg (fun e : Erc20 => e.balanceOf a) (congrFun herc20 r)

/-- **What an account keeps.** It has what it had just when it sends of ether what it receives of
it, and of each token as well. -/
theorem Booked.keeps_iff (h : Booked a ts w w') : w.Keeps w' a ↔
    sent ts .ether a = received ts .ether a ∧
      ∀ r, sent ts (.token r) a = received ts (.token r) a := by
  refine (BookedFor.kept_iff h).trans ⟨fun hall => ⟨hall _, fun r => hall _⟩, fun hboth k => ?_⟩
  cases k with
  | ether => exact hboth.1
  | token r => exact hboth.2 r

/-! ## The steps of a call -/

/-- Ether that moves leaves the protocol alone. -/
theorem moveEther_booked : Returns (w.moveEther src dst amount)
    (fun w' => w'.protocol = w.protocol ∧ ∀ a, Booked a [⟨.ether, src, dst, amount⟩] w w') := by
  refine Returns.check fun hle => ⟨rfl, fun a k => ?_⟩
  cases k with
  | token r => rfl
  | ether =>
    simp only [sent_cons, sent_nil, received_cons, received_nil, true_and, Nat.add_zero]
    show Function.update (Function.update w.ether src (w.ether src - amount)) dst _ a + _
      = w.ether a + _
    simp only [Function.update_apply]
    by_cases hs : a = src <;> by_cases hd : a = dst <;> by_cases hsd : dst = src <;>
      simp_all [eq_comm]

/-- Who is sent ether has taken it. -/
theorem _safeTransferETH_booked : Returns (w._safeTransferETH G caller dst amount)
    (fun w' => G.acceptsEther dst = true ∧
      ∀ a, Booked a [⟨.ether, caller, dst, amount⟩] w w') :=
  Returns.check fun htakes => moveEther_booked.imp fun _ h => ⟨htakes, h.2⟩

/-- Tokens were brought along: of the protocol nothing else has changed, and it might have come to
this by itself. -/
structure Brought (D : Deployment) (w w' : World) : Prop where
  tokens : ∃ E, w'.protocol = w.protocol.withErc20 E
  reachable : Reachable D (anyAction D) w.protocol → Reachable D (anyAction D) w'.protocol

theorem Brought.ofEq (h : w'.protocol = w.protocol) : Brought D w w' := by
  refine ⟨⟨w.protocol.erc20, h⟩, fun hr => ?_⟩
  rw [h]
  exact hr

/-- What does not look at the tokens of reserves reads the same. -/
theorem Brought.reads {β : Type} (h : Brought D w w') (f : State → β)
    (hf : ∀ s E, f (s.withErc20 E) = f s) : f w'.protocol = f w.protocol := by
  obtain ⟨E, hE⟩ := h.tokens
  rw [hE]
  exact hf _ E

/-- One action by which the protocol has come to it. -/
theorem Brought.ofAction {E : Address → Erc20} (h : w'.protocol = w.protocol.withErc20 E)
    (action : Action D) (hdone : w.protocol.execute D action = .ok w'.protocol) :
    Brought D w w' :=
  ⟨⟨E, h⟩, fun hr => hr.next ⟨action, trivial, hdone⟩⟩

/-- Writing one balance of a token. -/
def setBalance (w : World) (asset holder : Address) (balance : ℕ) : World :=
  w.setProtocol (w.protocol.setErc20 asset { w.protocol.erc20 asset with
    balanceOf := Function.update (w.protocol.erc20 asset).balanceOf holder balance })

theorem setBalance_holds {asset holder : Address} {balance : ℕ} (k : Coin) :
    (w.setBalance asset holder balance).holds a k
      = if Coin.token asset = k ∧ holder = a then balance else w.holds a k := by
  cases k with
  | ether => rfl
  | token r =>
    show (Function.update w.protocol.erc20 asset _ r).balanceOf a = _
    by_cases hr : asset = r
    · subst hr
      rw [Function.update_self]
      show Function.update _ holder _ a = _
      rw [Function.update_apply]
      simp only [true_and, eq_comm]
      rfl
    · rw [Function.update_of_ne (Ne.symm hr), if_neg fun hx => hr (Coin.token.inj hx.1)]
      rfl

/-- What is added to a balance comes from its issuer. -/
theorem setBalance_credited {asset issuer holder : Address} (ha : issuer ≠ a) :
    Booked a [⟨.token asset, issuer, holder, amount⟩] w
      (w.setBalance asset holder ((w.protocol.erc20 asset).balanceOf holder + amount)) := by
  intro k
  rw [setBalance_holds]
  simp only [sent_cons, sent_nil, received_cons, received_nil, ha, and_false, if_false]
  by_cases hk : Coin.token asset = k ∧ holder = a
  · obtain ⟨rfl, rfl⟩ := hk
    simp [holds]
  · simp [hk]

/-- And goes back to it. -/
theorem setBalance_debited {asset issuer holder : Address} (ha : issuer ≠ a)
    (hle : amount ≤ (w.protocol.erc20 asset).balanceOf holder) :
    Booked a [⟨.token asset, holder, issuer, amount⟩] w
      (w.setBalance asset holder ((w.protocol.erc20 asset).balanceOf holder - amount)) := by
  intro k
  rw [setBalance_holds]
  simp only [sent_cons, sent_nil, received_cons, received_nil, ha, and_false, if_false]
  by_cases hk : Coin.token asset = k ∧ holder = a
  · obtain ⟨rfl, rfl⟩ := hk
    simp [holds, hle]
  · simp [hk]

theorem wrap_booked : Returns (w.wrap (D := D) caller amount) (fun w' => Brought D w w' ∧
    ∀ a, D.weth ≠ a → Booked a (wrapping D caller amount) w w') := by
  refine Sat.bind moveEther_booked fun w₁ h => ?_
  obtain ⟨hsame, hmoved⟩ := h
  refine ⟨?_, fun a ha => (hmoved a).append (setBalance_credited ha)⟩
  rw [hsame]
  exact .ofAction (E := Function.update w.protocol.erc20 D.weth _) rfl
    (.event (.mint D.weth caller amount)) rfl

/-- Ether is wrapped only if there is any. -/
theorem wrapIf_booked : Returns (applyIf (amount > 0) (fun w => w.wrap (D := D) caller amount) w)
    (fun w' => Brought D w w' ∧
      ∀ a, D.weth ≠ a → Booked a (wrapping D caller amount) w w') := by
  refine Sat.applyIf (fun _ => wrap_booked) fun hnone => ⟨.ofEq rfl, fun a _ k => ?_⟩
  obtain rfl : amount = 0 := Nat.eq_zero_of_not_pos hnone
  simp [wrapping]

theorem unwrap_booked : Returns (w.unwrap (D := D) caller amount) (fun w' =>
    ∀ a, D.weth ≠ a → Booked a (unwrapping D caller amount) w w') := by
  refine Returns.step fun s hs => moveEther_booked.imp fun w' h a ha => ?_
  obtain ⟨hle, hs⟩ := require_bind_eq_ok.mp (inProtocol_eq_ok.mp hs)
  obtain rfl := Except.ok.inj hs
  exact (setBalance_debited ha hle).append (h.2 a)

/-- What the protocol moves stands in the account under the coins that are tokens. -/
theorem Booked.ofTokens {s' : State} {ts : List (Transfer Address Address)}
    (h : BookedFor a ts (fun r => (w.protocol.erc20 r).balanceOf a)
      fun r => (s'.erc20 r).balanceOf a) :
    Booked a (relabel Coin.token ts) w (w.setProtocol s') := by
  intro k
  cases k with
  | ether =>
    -- no ether is among them
    rw [sent_relabel_of_ne Coin.token_ne_ether, received_relabel_of_ne Coin.token_ne_ether]
    rfl
  | token r =>
    rw [sent_relabel Coin.token_injective, received_relabel Coin.token_injective]
    exact h r

/-- What the protocol does by a bill stands in the account as that bill. -/
theorem Booked.ofBilled {s' : State} {payer : Address} {b : Bill}
    (h : Billed D w.protocol s' payer b) (ha : D.Outsider a) :
    Booked a (b.coins D payer) w (w.setProtocol s') :=
  .ofTokens (h.booked a ha)

theorem Brought.after {w₁ : World} (hsame : w₁.protocol = w.protocol) (h : Brought D w₁ w') :
    Brought D w w' :=
  ⟨hsame ▸ h.tokens, fun hr => h.reachable (hsame ▸ hr)⟩

theorem Brought.trans (h : Brought D w w') (h' : Brought D w' w'') : Brought D w w'' := by
  obtain ⟨E, hE⟩ := h.tokens
  obtain ⟨E', hE'⟩ := h'.tokens
  refine ⟨⟨E', ?_⟩, fun hr => h'.reachable (h.reachable hr)⟩
  rw [hE', hE]
  rfl

/-- An account approves another, and nothing moves. -/
theorem approveErc20_booked (w : World) {owner : Address} (houtside : D.isUser owner)
    (asset spender : Address) (amount : ℕ) :
    Brought D w (w.setProtocol (w.protocol.approveErc20 asset owner spender amount)) ∧
      ∀ a, Booked a [] w (w.setProtocol (w.protocol.approveErc20 asset owner spender amount)) := by
  refine ⟨.ofAction (E := Function.update w.protocol.erc20 asset _) rfl
    (.call owner houtside (.approve asset spender amount)) rfl, fun a k => ?_⟩
  cases k with
  | ether => rfl
  | token r =>
    show (Function.update w.protocol.erc20 asset _ r).balanceOf a = _
    by_cases hr : r = asset
    · subst hr
      rw [Function.update_self]
      rfl
    · rw [Function.update_of_ne hr]
      rfl

theorem approveDebtMarket_booked (w : World) (G : Gateways D) :
    Brought D w (w.approveDebtMarket G) ∧ ∀ a, Booked a [] w (w.approveDebtMarket G) := by
  unfold approveDebtMarket
  split
  · exact approveErc20_booked w G.wethGateway_isUser D.weth D.debtMarket maxUint256
  · exact ⟨.ofEq rfl, fun a => .ofEq rfl rfl⟩

theorem loanReserveShouldBeWETH_returns {nftAsset : Address} {nftTokenId : ℕ} :
    Returns (w.loanReserveShouldBeWETH D nftAsset nftTokenId)
      (fun _ => (w.protocol.loanOn nftAsset nftTokenId).reserveAsset = D.weth) :=
  Returns.check fun _ => (Sat.require fun _ => trivial).imp fun _ hweth => hweth

end World

/-! ## The calls of `WETHGateway.sol` -/

/-- The books do not record who holds the collections. -/
theorem Books.withErc721 {D : Deployment} {s : State} (h : Books D s) (C : Address → Erc721) :
    Books D (s.withErc721 C) :=
  ⟨h.loans, h.listings, h.matched, h.receipts, h.indices, h.stamps, h.proxies, h.poolSolvent,
    h.marketSolvent, h.poolGuarded, h.marketGuarded⟩

/-- Nor the balances of uTokens. -/
theorem Books.setUToken {D : Deployment} {s : State} (h : Books D s) (asset : Address)
    (u : UToken) : Books D (s.setUToken asset u) :=
  ⟨h.loans, h.listings, h.matched, h.receipts, h.indices, h.stamps, h.proxies, h.poolSolvent,
    h.marketSolvent, h.poolGuarded, h.marketGuarded⟩

theorem State.transferUToken_returns {s : State} {asset src dst : Address} {amount : ℕ} :
    Returns (s.transferUToken asset src dst amount) (fun t => ∃ u, t = s.setUToken asset u) := by
  refine Returns.step fun _ _ => Returns.step fun _ _ => Returns.step fun _ _ => ?_
  exact Returns.step fun _ _ => Returns.step fun u _ => Returns.check fun _ => ⟨u, rfl⟩

namespace World

variable {D : Deployment} {G : Gateways D} {w : World} {sender onBehalfOf nftAsset dst : Address}
  {msgValue nftTokenId amount : ℕ}

theorem depositETH_booked (hr : Reachable D (anyAction D) w.protocol) :
    Returns (w.depositETH G sender msgValue onBehalfOf) (fun w' => ∀ a, D.Holder a →
      Booked a (⟨.ether, sender, G.wethGateway, msgValue⟩ :: (wrapping D G.wethGateway msgValue ++
        (State.depositBill D.weth msgValue).coins D G.wethGateway)) w w') := by
  refine Sat.bind moveEther_booked fun w₁ h₁ => ?_
  obtain ⟨hsame, hsent⟩ := h₁
  refine Returns.step fun _ _ => Sat.bind wrap_booked fun w₂ h₂ => ?_
  obtain ⟨hbrought, hwrapped⟩ := h₂
  have hbooks := Reachable.books ((hbrought.after hsame).reachable hr)
  refine Returns.step fun s hs => ?_
  obtain ⟨-, hok⟩ := require_bind_eq_ok.mp (inProtocol_eq_ok.mp hs)
  have hbilled := (State.executeDeposit_billed hbooks).ok hok
  exact fun a ha => (hsent a).append ((hwrapped a ha.ne_weth).append
    (.ofBilled hbilled ha.outsider))

theorem auctionETH_booked :
    Returns (w.auctionETH G sender msgValue nftAsset nftTokenId onBehalfOf)
      (fun w' => (w.protocol.loanOn nftAsset nftTokenId).reserveAsset = D.weth ∧
        ∀ a, D.Holder a → Booked a (⟨.ether, sender, G.wethGateway, msgValue⟩ ::
          (wrapping D G.wethGateway msgValue ++
            (w.protocol.auctionBill D nftAsset nftTokenId msgValue).coins D
              G.wethGateway)) w w') := by
  refine Sat.bind moveEther_booked fun w₁ h₁ => ?_
  obtain ⟨hsame, hsent⟩ := h₁
  refine Sat.bind loanReserveShouldBeWETH_returns fun _ hweth => ?_
  refine Returns.step fun _ _ => Sat.bind wrap_booked fun w₂ h₂ => ?_
  obtain ⟨hbrought, hwrapped⟩ := h₂
  refine Returns.step fun s hs => ?_
  obtain ⟨-, hok⟩ := require_bind_eq_ok.mp (inProtocol_eq_ok.mp hs)
  have hbilled := State.executeAuction_billed.ok hok
  have hbill := (hbrought.after hsame).reads
    (fun s => s.auctionBill D nftAsset nftTokenId msgValue) fun _ _ => rfl
  rw [hbill] at hbilled
  rw [hsame] at hweth
  exact ⟨hweth, fun a ha => (hsent a).append ((hwrapped a ha.ne_weth).append
    (.ofBilled hbilled ha.outsider))⟩

theorem refundUnused_booked {used : ℕ} : Returns (w.refundUnused G sender msgValue used)
    (fun w' => ∀ a, D.Holder a → Booked a (unwrapping D G.wethGateway (msgValue - used) ++
      [⟨.ether, G.wethGateway, sender, msgValue - used⟩]) w w') := by
  refine Sat.applyIf (fun _ => ?_) fun hnone a _ k => ?_
  · refine Sat.bind unwrap_booked fun w₁ hunwrapped => ?_
    exact _safeTransferETH_booked.imp fun w₂ hpaid a ha =>
      (hunwrapped a ha.ne_weth).append (hpaid.2 a)
  · rw [Nat.sub_eq_zero_of_le (Nat.le_of_not_lt hnone)]
    simp [unwrapping]

/-- **The account of `redeemETH`.** What the bill leaves of the value goes back. -/
theorem redeemETH_booked (hr : Reachable D (anyAction D) w.protocol) {bidFine : ℕ} :
    Returns (w.redeemETH G sender msgValue nftAsset nftTokenId amount bidFine)
      (fun p => ∃ b, (w.protocol.loanOn nftAsset nftTokenId).reserveAsset = D.weth ∧
        w.protocol.redeemBill D nftAsset nftTokenId amount = .ok b ∧ p.2 = b.paid ∧
        b.paid ≤ msgValue ∧
        (∀ t ∈ b.payouts, D.isProtocol t.src) ∧
        ∀ a, D.Holder a → Booked a (⟨.ether, sender, G.wethGateway, msgValue⟩ ::
          (wrapping D G.wethGateway msgValue ++ (b.coins D G.wethGateway ++
            (unwrapping D G.wethGateway (msgValue - b.paid) ++
              [⟨.ether, G.wethGateway, sender, msgValue - b.paid⟩])))) w p.1) := by
  refine Sat.bind moveEther_booked fun w₁ h₁ => ?_
  obtain ⟨hsame, hsent⟩ := h₁
  refine Sat.bind loanReserveShouldBeWETH_returns fun _ hweth => ?_
  refine Returns.check fun hcovered => Sat.bind wrap_booked fun w₂ h₂ => ?_
  obtain ⟨hbrought, hwrapped⟩ := h₂
  obtain ⟨E, hE⟩ := (hbrought.after hsame).tokens
  refine Returns.step fun p hp => ?_
  obtain ⟨s, paybackAmount⟩ := p
  obtain ⟨-, hok⟩ := require_bind_eq_ok.mp (inProtocol_eq_ok.mp hp)
  obtain ⟨b, hbill, hpaid, hle, hbilled⟩ :=
    (State.executeRedeem_billed ((hbrought.after hsame).reachable hr)).ok hok
  rw [hE] at hbill
  obtain rfl : paybackAmount = b.paid := hpaid
  rw [hsame] at hweth
  refine Sat.bind refundUnused_booked fun w₃ hrefund => ?_
  exact ⟨b, hweth, State.redeemBill_withErc20.mp hbill, rfl, hle.trans hcovered,
    hbilled.within, fun a ha => (hsent a).append ((hwrapped a ha.ne_weth).append
      (Booked.append (.ofBilled hbilled ha.outsider) (hrefund a ha)))⟩

/-- **The account of `liquidateETH`.** -/
theorem liquidateETH_booked (hr : Reachable D (anyAction D) w.protocol) :
    Returns (w.liquidateETH G sender msgValue nftAsset nftTokenId)
      (fun p => (w.protocol.loanOn nftAsset nftTokenId).reserveAsset = D.weth ∧
        p.2 = (w.protocol.liquidateBill D nftAsset nftTokenId).paid ∧ p.2 ≤ msgValue ∧
        ∀ a, D.Holder a → Booked a (⟨.ether, sender, G.wethGateway, msgValue⟩ ::
          (wrapping D G.wethGateway msgValue ++
            ((w.protocol.liquidateBill D nftAsset nftTokenId).coins D G.wethGateway ++
              (unwrapping D G.wethGateway (msgValue - p.2) ++
                [⟨.ether, G.wethGateway, sender, msgValue - p.2⟩])))) w p.1) := by
  refine Sat.bind moveEther_booked fun w₁ h₁ => ?_
  obtain ⟨hsame, hsent⟩ := h₁
  refine Sat.bind loanReserveShouldBeWETH_returns fun _ hweth => ?_
  refine Sat.bind wrapIf_booked fun w₂ h₂ => ?_
  obtain ⟨hbrought, hwrapped⟩ := h₂
  refine Returns.step fun p hp => ?_
  obtain ⟨s, extraAmount⟩ := p
  obtain ⟨-, hok⟩ := require_bind_eq_ok.mp (inProtocol_eq_ok.mp hp)
  obtain ⟨hpaid, hle, hbilled⟩ :=
    (State.executeLiquidate_billed ((hbrought.after hsame).reachable hr)
      G.wethGateway_isUser.ne_lendPool).ok hok
  have hbill := (hbrought.after hsame).reads
    (fun s => s.liquidateBill D nftAsset nftTokenId) fun _ _ => rfl
  rw [hbill] at hpaid hbilled
  rw [hsame] at hweth
  refine Sat.bind refundUnused_booked fun w₃ hrefund => ?_
  exact ⟨hweth, hpaid, hle, fun a ha => (hsent a).append ((hwrapped a ha.ne_weth).append
    (Booked.append (.ofBilled hbilled ha.outsider) (hrefund a ha)))⟩

/-- **The account of `buyoutETH`.** Nothing goes back. -/
theorem buyoutETH_booked (hr : Reachable D (anyAction D) w.protocol) :
    Returns (w.buyoutETH G sender msgValue nftAsset nftTokenId onBehalfOf)
      (fun w' => ∃ b, (w.protocol.loanOn nftAsset nftTokenId).reserveAsset = D.weth ∧
        w.protocol.buyoutBill D nftAsset nftTokenId onBehalfOf = .ok b ∧
        (∀ t ∈ b.payouts, D.isProtocol t.src) ∧
        ∀ a, D.Holder a → Booked a (⟨.ether, sender, G.wethGateway, msgValue⟩ ::
          (wrapping D G.wethGateway msgValue ++ b.coins D G.wethGateway)) w w') := by
  refine Sat.bind moveEther_booked fun w₁ h₁ => ?_
  obtain ⟨hsame, hsent⟩ := h₁
  refine Returns.step fun _ _ => Sat.bind loanReserveShouldBeWETH_returns fun _ hweth => ?_
  refine Sat.bind wrapIf_booked fun w₂ h₂ => ?_
  obtain ⟨hbrought, hwrapped⟩ := h₂
  obtain ⟨E, hE⟩ := (hbrought.after hsame).tokens
  refine Returns.step fun s hs => ?_
  obtain ⟨-, hok⟩ := require_bind_eq_ok.mp (inProtocol_eq_ok.mp hs)
  obtain ⟨b, hbill, hbilled⟩ :=
    (State.executeBuyout_billed ((hbrought.after hsame).reachable hr)
      G.wethGateway_isUser.ne_lendPool).ok hok
  rw [hE] at hbill
  rw [hsame] at hweth
  exact ⟨b, hweth, State.buyoutBill_withErc20.mp hbill, hbilled.within,
    fun a ha => (hsent a).append ((hwrapped a ha.ne_weth).append
      (.ofBilled hbilled ha.outsider))⟩

/-- **The account of `bidDebtETH`.** -/
theorem bidDebtETH_booked (hr : Reachable D (anyAction D) w.protocol) :
    Returns (w.bidDebtETH G sender msgValue nftAsset nftTokenId onBehalfOf)
      (fun w' => (w.protocol.bidBill D nftAsset nftTokenId msgValue).asset = D.weth ∧
        ∀ a, D.Holder a → Booked a (⟨.ether, sender, G.wethGateway, msgValue⟩ ::
          (wrapping D G.wethGateway msgValue ++
            (w.protocol.bidBill D nftAsset nftTokenId msgValue).coins D G.wethGateway)) w w') := by
  refine Sat.bind moveEther_booked fun w₁ h₁ => ?_
  obtain ⟨hsame, hsent⟩ := h₁
  refine Sat.bind loanReserveShouldBeWETH_returns fun _ hweth => ?_
  refine Sat.bind wrapIf_booked fun w₂ h₂ => ?_
  obtain ⟨hbrought, hwrapped⟩ := h₂
  obtain ⟨happroved, hnothing⟩ := approveDebtMarket_booked w₂ G
  obtain ⟨E, hE⟩ := ((hbrought.after hsame).trans happroved).tokens
  refine Returns.step fun s hs => ?_
  obtain ⟨hid, hbilled⟩ := State.bid_billed.ok (inProtocol_eq_ok.mp hs)
  have hbill := ((hbrought.after hsame).trans happroved).reads
    (fun s => s.bidBill D nftAsset nftTokenId msgValue) fun _ _ => rfl
  rw [hE] at hid
  rw [hbill] at hbilled
  rw [hsame] at hweth
  exact ⟨(listed_reserveAsset (Reachable.books hr) hid).symm.trans hweth,
    fun a ha => (hsent a).append ((hwrapped a ha.ne_weth).append
      ((hnothing a).append (.ofBilled hbilled ha.outsider)))⟩

/-- **The account of `buyDebtETH`.** -/
theorem buyDebtETH_booked :
    Returns (w.buyDebtETH G sender msgValue nftAsset nftTokenId onBehalfOf)
      (fun w' => (w.protocol.loanOn nftAsset nftTokenId).reserveAsset = D.weth ∧
        ∀ a, D.Holder a → Booked a (⟨.ether, sender, G.wethGateway, msgValue⟩ ::
          (wrapping D G.wethGateway msgValue ++
            (w.protocol.buyBill D nftAsset nftTokenId msgValue).coins D G.wethGateway)) w w') := by
  refine Sat.bind moveEther_booked fun w₁ h₁ => ?_
  obtain ⟨hsame, hsent⟩ := h₁
  refine Sat.bind loanReserveShouldBeWETH_returns fun _ hweth => ?_
  refine Sat.bind wrapIf_booked fun w₂ h₂ => ?_
  obtain ⟨hbrought, hwrapped⟩ := h₂
  obtain ⟨happroved, hnothing⟩ := approveDebtMarket_booked w₂ G
  refine Returns.step fun s hs => ?_
  have hbilled := State.buy_billed.ok (inProtocol_eq_ok.mp hs)
  have hbill := ((hbrought.after hsame).trans happroved).reads
    (fun s => s.buyBill D nftAsset nftTokenId msgValue) fun _ _ => rfl
  rw [hbill] at hbilled
  rw [hsame] at hweth
  exact ⟨hweth, fun a ha => (hsent a).append ((hwrapped a ha.ne_weth).append
    ((hnothing a).append (.ofBilled hbilled ha.outsider)))⟩

/-- What is left of the ether goes back to its sender. -/
theorem giveBack_booked {gateway : Address} {used : ℕ} :
    Returns (applyIf (msgValue > used) (fun w =>
      w._safeTransferETH G gateway sender (msgValue - used)) w)
      (fun w' => ∀ a, Booked a [⟨.ether, gateway, sender, msgValue - used⟩] w w') := by
  refine Sat.applyIf (fun _ => _safeTransferETH_booked.imp fun _ h => h.2) fun hnone a k => ?_
  rw [Nat.sub_eq_zero_of_le (Nat.le_of_not_lt hnone)]
  simp

/-- What is wrapped for a repayment is reckoned from the view of the debt, what is taken from the
debt itself. -/
theorem _repayETH_booked (hr : Reachable D (anyAction D) w.protocol) :
    Returns (w._repayETH G msgValue nftAsset nftTokenId amount 0)
      (fun p => ∃ debt, (w.protocol.loanOn nftAsset nftTokenId).reserveAsset = D.weth ∧
        w.protocol.getLoanReserveBorrowAmount
          (w.protocol.lendPoolLoan.getCollateralLoanId nftAsset nftTokenId) = .ok debt ∧
        min amount debt ≤ msgValue ∧
        p.2.1 = (w.protocol.repayBill D nftAsset nftTokenId amount).paid ∧
        ∀ a, D.Holder a → Booked a (wrapping D G.wethGateway (min amount debt) ++
          (w.protocol.repayBill D nftAsset nftTokenId amount).coins D G.wethGateway) w p.1) := by
  refine Sat.bind loanReserveShouldBeWETH_returns fun _ hweth => ?_
  refine Returns.step fun debt hdebt => Returns.check fun hcovered => ?_
  have hmin : (if amount < debt then amount else debt) = min amount debt := by
    split <;> omega
  rw [Nat.zero_add, hmin] at hcovered
  rw [hmin]
  refine Sat.bind wrap_booked fun w₁ h₁ => ?_
  obtain ⟨hbrought, hwrapped⟩ := h₁
  refine Returns.step fun p hp => ?_
  obtain ⟨s, paybackAmount, burn⟩ := p
  obtain ⟨-, hok⟩ := require_bind_eq_ok.mp (inProtocol_eq_ok.mp hp)
  obtain ⟨hpaid, hbilled⟩ :=
    (State._repay_billed (Reachable.books (hbrought.reachable hr))).ok hok
  have hbill := hbrought.reads (fun s => s.repayBill D nftAsset nftTokenId amount) fun _ _ => rfl
  rw [hbill] at hpaid hbilled
  exact ⟨debt, hweth, inProtocol_eq_ok.mp hdebt, hcovered, hpaid, fun a ha =>
    (hwrapped a ha.ne_weth).append (.ofBilled hbilled ha.outsider)⟩

/-- **The account of `repayETH`.** What goes back is what the debt leaves of the value. -/
theorem repayETH_booked (hr : Reachable D (anyAction D) w.protocol) :
    Returns (w.repayETH G sender msgValue nftAsset nftTokenId amount)
      (fun p => ∃ debt, (w.protocol.loanOn nftAsset nftTokenId).reserveAsset = D.weth ∧
        w.protocol.getLoanReserveBorrowAmount
          (w.protocol.lendPoolLoan.getCollateralLoanId nftAsset nftTokenId) = .ok debt ∧
        min amount debt ≤ msgValue ∧
        p.2.1 = (w.protocol.repayBill D nftAsset nftTokenId amount).paid ∧
        ∀ a, D.Holder a → Booked a (⟨.ether, sender, G.wethGateway, msgValue⟩ ::
          (wrapping D G.wethGateway (min amount debt) ++
            ((w.protocol.repayBill D nftAsset nftTokenId amount).coins D G.wethGateway ++
              [⟨.ether, G.wethGateway, sender, msgValue - p.2.1⟩]))) w p.1) := by
  refine Sat.bind moveEther_booked fun w₁ h₁ => ?_
  obtain ⟨hsame, hsent⟩ := h₁
  refine Sat.bind (_repayETH_booked (hsame ▸ hr)) fun p hp => ?_
  obtain ⟨w₂, repayAmount, repayAll⟩ := p
  obtain ⟨debt, hweth, hdebt, hcovered, hpaid, hbooked⟩ := hp
  rw [hsame] at hweth hdebt hpaid hbooked
  refine Sat.bind giveBack_booked fun w₃ hrefund => ?_
  refine ⟨debt, hweth, hdebt, hcovered, hpaid, fun a ha => ?_⟩
  have hall := (hsent a).append ((hbooked a ha).append (hrefund a))
  rwa [List.append_assoc] at hall

/-- **The account of `borrowETH`.** The vault pays just what is owed, and the gateway unwraps it. -/
theorem borrowETH_booked (hb : Books D w.protocol) (hexact : D.PaysExactly w.protocol.yVault) :
    Returns (w.borrowETH G sender amount nftAsset nftTokenId onBehalfOf)
      (fun w' => 0 < amount ∧ G.acceptsEther onBehalfOf = true ∧
        ∀ a, D.Holder a → Booked a
          ((w.protocol.borrowBill D G.wethGateway D.weth nftAsset nftTokenId amount).coins D
              G.wethGateway ++ (unwrapping D G.wethGateway amount ++
            [⟨.ether, G.wethGateway, onBehalfOf, amount⟩])) w w') := by
  refine Returns.step fun _ _ => Returns.step fun s hs => ?_
  -- the token comes in first, if there is no loan yet
  obtain ⟨C, rfl⟩ : ∃ C, s = w.protocol.withErc721 C := by
    refine (Sat.applyIf (Q := fun t => ∃ C, t = w.protocol.withErc721 C)
      (fun _ => (State.safeTransferNft_spec D).returns) fun _ => ?_).ok (inProtocol_eq_ok.mp hs)
    exact ⟨w.protocol.erc721, rfl⟩
  refine Returns.step fun w₂ hw₂ => ?_
  obtain ⟨s₂, hs₂, hw₂⟩ := bind_eq_ok.mp hw₂
  obtain rfl := Except.ok.inj hw₂
  obtain ⟨-, hok⟩ := require_bind_eq_ok.mp (inProtocol_eq_ok.mp hs₂)
  obtain ⟨hpos, hbilled⟩ := (State._borrow_billed (hb.withErc721 C) hexact).ok hok
  refine Sat.bind unwrap_booked fun w₃ hunwrapped => ?_
  refine _safeTransferETH_booked.imp fun w₄ hpaid => ?_
  refine ⟨hpos, hpaid.1, fun a ha => ?_⟩
  have hborrowed : Booked a ((w.protocol.borrowBill D G.wethGateway D.weth nftAsset nftTokenId
      amount).coins D G.wethGateway) w ((w.setProtocol (w.protocol.withErc721 C)).setProtocol s₂) :=
    Booked.ofBilled (w := w.setProtocol (w.protocol.withErc721 C)) hbilled ha.outsider
  exact hborrowed.append ((hunwrapped a ha.ne_weth).append (hpaid.2 a))

/-- **The account of `withdrawETH`.** -/
theorem withdrawETH_booked (hb : Books D w.protocol) :
    Returns (w.withdrawETH G sender amount dst)
      (fun w' => ∃ n, G.acceptsEther dst = true ∧ ∀ a, D.Holder a → Booked a
        ((w.protocol.withdrawBill D.weth n G.wethGateway).coins D G.wethGateway ++
          (unwrapping D G.wethGateway n ++ [⟨.ether, G.wethGateway, dst, n⟩])) w w') := by
  refine Returns.step fun _ _ => ?_
  refine Sat.bind (P := fun p => ∀ a, D.Holder a → Booked a
    ((w.protocol.withdrawBill D.weth p.2 G.wethGateway).coins D G.wethGateway) w p.1) ?_
      fun p hp => ?_
  · refine Returns.step fun balance hbalance => Returns.step fun w₁ hw₁ => ?_
    obtain ⟨s₁, hs₁, hw₁⟩ := bind_eq_ok.mp hw₁
    obtain ⟨-, hw₁⟩ := require_bind_eq_ok.mp hw₁
    obtain rfl := Except.ok.inj hw₁
    obtain ⟨u, rfl⟩ := State.transferUToken_returns.ok (inProtocol_eq_ok.mp hs₁)
    refine Returns.step fun w₂ hw₂ => ?_
    obtain ⟨s₂, hs₂, hw₂⟩ := bind_eq_ok.mp hw₂
    obtain rfl := Except.ok.inj hw₂
    obtain ⟨-, hok⟩ := require_bind_eq_ok.mp (inProtocol_eq_ok.mp hs₂)
    obtain ⟨p, hp, hok⟩ := bind_eq_ok.mp hok
    obtain rfl := Except.ok.inj hok
    have hbilled := (State.executeWithdraw_billed (hb.setUToken D.weth u)).ok hp
    -- the largest number is never passed on to the pool
    have hmax : (if amount = maxUint256 then balance else amount) ≠ maxUint256 := by
      by_cases ham : amount = maxUint256
      · obtain ⟨income, -, hread⟩ := bind_eq_ok.mp (inProtocol_eq_ok.mp hbalance)
        exact amountToWithdraw_ne_max hread (.inl ham)
      · rw [if_neg ham]
        exact ham
    rw [(State.executeWithdraw_amount hmax).ok hp] at hbilled
    exact fun a ha => Booked.ofBilled (w := w.setProtocol (w.protocol.setUToken D.weth u)) hbilled
      ha.outsider
  · obtain ⟨w₁, n⟩ := p
    refine Sat.bind unwrap_booked fun w₂ hunwrapped => ?_
    refine _safeTransferETH_booked.imp fun w₃ hpaid => ?_
    exact ⟨n, hpaid.1, fun a ha =>
      (hp a ha).append ((hunwrapped a ha.ne_weth).append (hpaid.2 a))⟩

end World

end Unlockd
