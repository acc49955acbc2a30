/-
The accounts of `PunkGateway.sol`.

Wrapping and unwrapping a punk moves no ether and no token of a reserve. What remains of a call is
what the sender hands over, the bill of the operation of the protocol, or the whole account of the
other gateway where the call goes through it, and what is given back at the end.
-/
import Unlockd.GatewayAccounts

set_option autoImplicit false

namespace Unlockd

open Outcome Transfers

namespace World

variable {D : Deployment} {G : Gateways D} {w w' w'' : World}
  {a caller src dst sender onBehalfOf asset : Address} {punkIndex amount : ℕ}

/-! ## Punks -/

/-- Collections and punks have changed hands, and nothing else has. -/
structure Aside (w w' : World) : Prop where
  ether : w'.ether = w.ether
  protocol : ∃ C, w'.protocol = w.protocol.withErc721 C

theorem Aside.refl (w : World) : Aside w w := ⟨rfl, w.protocol.erc721, rfl⟩

theorem Aside.trans (h : Aside w w') (h' : Aside w' w'') : Aside w w'' := by
  obtain ⟨C, hC⟩ := h.protocol
  obtain ⟨C', hC'⟩ := h'.protocol
  refine ⟨h'.ether.trans h.ether, C', ?_⟩
  rw [hC', hC]
  rfl

/-- One more step before. -/
theorem Aside.after {w₁ : World} {C : Address → Erc721} (h : Aside w₁ w')
    (hether : w₁.ether = w.ether) (hprotocol : w₁.protocol = w.protocol.withErc721 C) :
    Aside w w' :=
  .trans ⟨hether, C, hprotocol⟩ h

theorem Aside.booked (h : Aside w w') (a : Address) : Booked a [] w w' := by
  obtain ⟨C, hC⟩ := h.protocol
  refine .ofEq h.ether ?_
  rw [hC]
  rfl

/-- What does not look at collections reads the same. -/
theorem Aside.reads {β : Type} (h : Aside w w') (f : State → β)
    (hf : ∀ s C, f (s.withErc721 C) = f s) : f w'.protocol = f w.protocol := by
  obtain ⟨C, hC⟩ := h.protocol
  rw [hC]
  exact hf _ C

theorem punkNoLongerForSale_aside :
    Returns (w.punkNoLongerForSale caller punkIndex) (fun w' => Aside w w') :=
  Returns.check fun _ => Returns.check fun _ => ⟨rfl, w.protocol.erc721, rfl⟩

theorem transferPunk_aside :
    Returns (w.transferPunk caller dst punkIndex) (fun w' => Aside w w') := by
  refine Returns.check fun _ => Returns.check fun _ => ?_
  refine Sat.bind (P := fun w₁ => Aside w w₁) (Sat.applyIf (fun _ => punkNoLongerForSale_aside)
    fun _ => .refl w) fun w₁ h₁ => ?_
  exact h₁.trans ⟨rfl, w₁.protocol.erc721, rfl⟩

theorem buyPunk_aside : Returns (w.buyPunk caller punkIndex) (fun w' => Aside w w') := by
  refine Returns.check fun _ => Returns.check fun _ => Returns.check fun _ => ?_
  refine Returns.check fun _ => Returns.check fun _ => ?_
  exact punkNoLongerForSale_aside.imp fun w' h => h.after (C := w.protocol.erc721) rfl rfl

theorem mintWrappedPunk_aside :
    Returns (w.mintWrappedPunk G punkIndex) (fun w' => Aside w w') := by
  refine Returns.step fun w₁ h₁ => Returns.check fun _ => ?_
  have hmoved : Aside w w₁ := by
    cases hx : w.transferPunk G.punkProxy G.wrappedPunks punkIndex with
    | error e =>
      rw [hx] at h₁
      cases h₁
    | ok w₂ =>
      rw [hx] at h₁
      obtain rfl := Except.ok.inj h₁
      exact transferPunk_aside.ok hx
  exact hmoved.trans ⟨rfl, _, rfl⟩

theorem burnWrappedPunk_aside :
    Returns (w.burnWrappedPunk G punkIndex) (fun w' => Aside w w') := by
  refine Returns.check fun _ => Returns.check fun _ => ?_
  exact transferPunk_aside.imp fun w' h => h.after
    (C := Function.update w.protocol.erc721 G.wrappedPunks _) rfl rfl

theorem _depositPunk_aside :
    Returns (PunkGateway._depositPunk G w sender punkIndex) (fun w' => Aside w w') := by
  refine Sat.applyIf (fun _ => Returns.check fun _ => ?_) fun _ => .refl w
  refine Sat.bind buyPunk_aside fun w₁ h₁ => Sat.bind transferPunk_aside fun w₂ h₂ => ?_
  exact mintWrappedPunk_aside.imp fun w₃ h₃ => (h₁.trans h₂).trans h₃

theorem _withdrawPunk_aside :
    Returns (PunkGateway._withdrawPunk G w sender punkIndex onBehalfOf) (fun w' => Aside w w') := by
  refine Returns.check fun _ => Returns.check fun _ => Returns.check fun _ => ?_
  refine Returns.step fun s hs => ?_
  obtain ⟨C, rfl⟩ := (State.safeTransferNft_spec D).returns.ok (inProtocol_eq_ok.mp hs)
  refine Sat.bind burnWrappedPunk_aside fun w₁ h₁ => ?_
  have hburnt : Aside w w₁ := h₁.after (C := C) rfl rfl
  exact transferPunk_aside.imp fun w₂ h₂ => hburnt.trans h₂

/-! ## Tokens of reserves -/

/-- A payment stands in the account as it is. -/
theorem Booked.ofPosted {E : Address → Erc20} {ts : List (Transfer Address Address)}
    (h : Posted ts w.protocol.erc20 E) :
    Booked a (relabel Coin.token ts) w (w.setProtocol (w.protocol.withErc20 E)) :=
  .ofTokens fun r => h r a

theorem takeErc20_booked : Returns (w.takeErc20 G.punkGateway asset src amount)
    (fun w' => Brought D w w' ∧
      ∀ a, Booked a [⟨.token asset, src, G.punkGateway, amount⟩] w w') := by
  refine Returns.step fun s hs => ?_
  have hok := inProtocol_eq_ok.mp hs
  obtain ⟨E, rfl, hposted⟩ := State.safeTransferFrom_posted.ok hok
  exact ⟨.ofAction rfl (.call G.punkGateway G.punkGateway_isUser
    (.transferFrom asset src G.punkGateway amount)) hok, fun a => .ofPosted hposted⟩

theorem payErc20_booked : Returns (w.payErc20 G.punkGateway asset dst amount)
    (fun w' => ∀ a, Booked a [⟨.token asset, G.punkGateway, dst, amount⟩] w w') := by
  refine Returns.step fun s hs => ?_
  obtain ⟨E, rfl, hposted⟩ := State.safeTransfer_posted.ok (inProtocol_eq_ok.mp hs)
  exact fun a => .ofPosted hposted

/-- What is left of the tokens goes back. -/
theorem refundErc20_booked {taken used : ℕ} :
    Returns (PunkGateway.refundErc20 G w asset sender taken used)
      (fun w' => ∀ a, Booked a [⟨.token asset, G.punkGateway, sender, taken - used⟩] w w') := by
  refine Sat.applyIf (fun _ => payErc20_booked) fun hnone a k => ?_
  rw [Nat.sub_eq_zero_of_le (Nat.le_of_not_lt hnone)]
  simp

end World

/-! ## The calls that take tokens -/

namespace PunkGateway

open World

variable {D : Deployment} {G : Gateways D} {w : World} {sender onBehalfOf reserveAsset : Address}
  {msgValue punkIndex amount : ℕ}

theorem loanOnPunk_returns : Returns (loanOnPunk G w punkIndex)
    (fun loan => loan = w.protocol.loanOn G.wrappedPunks punkIndex) :=
  Returns.check fun _ => rfl

/-- **The account of `borrow`.** Whatever the pool gives, the amount is paid. -/
theorem borrow_booked (hb : Books D w.protocol) (hexact : D.PaysExactly w.protocol.yVault) :
    Returns (borrow G w sender reserveAsset amount punkIndex onBehalfOf)
      (fun w' => ∀ a, D.Holder a → Booked a
        ((w.protocol.borrowBill D G.punkGateway reserveAsset G.wrappedPunks punkIndex amount).coins
            D G.punkGateway ++
          [⟨.token reserveAsset, G.punkGateway, onBehalfOf, amount⟩]) w w') := by
  refine Returns.step fun _ _ => Sat.bind _depositPunk_aside fun w₁ haside => ?_
  obtain ⟨C, hC⟩ := haside.protocol
  refine Returns.step fun w₂ hw₂ => ?_
  obtain ⟨s₂, hs₂, hw₂⟩ := bind_eq_ok.mp hw₂
  obtain rfl := Except.ok.inj hw₂
  rw [hC] at hs₂
  obtain ⟨-, hok⟩ := require_bind_eq_ok.mp (inProtocol_eq_ok.mp hs₂)
  obtain ⟨-, hbilled⟩ := (State._borrow_billed (hb.withErc721 C) hexact).ok hok
  rw [← hC] at hbilled
  refine payErc20_booked.imp fun w₃ hpaid a ha => ?_
  have hbill := haside.reads (fun s =>
    s.borrowBill D G.punkGateway reserveAsset G.wrappedPunks punkIndex amount) fun _ _ => rfl
  rw [hbill] at hbilled
  exact (haside.booked a).append (Booked.append (.ofBilled hbilled ha.outsider) (hpaid a))

/-- **The account of `repay`.** What is taken is reckoned from the view of the debt. -/
theorem repay_booked (hr : Reachable D (anyAction D) w.protocol) :
    Returns (repay G w sender punkIndex amount)
      (fun p => ∃ debt, w.protocol.getLoanReserveBorrowAmount
          (w.protocol.lendPoolLoan.getCollateralLoanId G.wrappedPunks punkIndex) = .ok debt ∧
        ∀ a, D.Holder a → Booked a
          (⟨.token (w.protocol.loanOn G.wrappedPunks punkIndex).reserveAsset, sender,
              G.punkGateway, min amount debt⟩ ::
            (w.protocol.repayBill D G.wrappedPunks punkIndex (min amount debt)).coins D
              G.punkGateway) w p.1) := by
  refine Sat.bind loanOnPunk_returns fun loan hloan => Returns.step fun debt hdebt => ?_
  subst hloan
  have hmin : (if amount > debt then debt else amount) = min amount debt := by
    split <;> omega
  dsimp only
  rw [hmin]
  refine Sat.bind takeErc20_booked fun w₁ h₁ => ?_
  obtain ⟨hbrought, htaken⟩ := h₁
  refine Returns.step fun p hp => ?_
  obtain ⟨s, paybackAmount, burn⟩ := p
  obtain ⟨-, hok⟩ := require_bind_eq_ok.mp (inProtocol_eq_ok.mp hp)
  obtain ⟨-, hbilled⟩ := (State._repay_billed (Reachable.books (hbrought.reachable hr))).ok hok
  have hbill := hbrought.reads
    (fun s => s.repayBill D G.wrappedPunks punkIndex (min amount debt)) fun _ _ => rfl
  rw [hbill] at hbilled
  refine Sat.bind (P := fun w₂ => Aside (w₁.setProtocol s) w₂)
    (Sat.applyIf (fun _ => Returns.check fun _ => _withdrawPunk_aside) fun _ => .refl _)
    fun w₂ haside => ?_
  refine ⟨debt, inProtocol_eq_ok.mp hdebt, fun a ha => ?_⟩
  have hall := (htaken a).append
    (Booked.append (.ofBilled hbilled ha.outsider) (haside.booked a))
  rwa [List.append_nil] at hall

theorem buyDebtPunk_booked :
    Returns (buyDebtPunk G w sender punkIndex onBehalfOf amount)
      (fun w' => ∀ a, D.Holder a → Booked a
        (⟨.token (w.protocol.loanOn G.wrappedPunks punkIndex).reserveAsset, sender,
            G.punkGateway, amount⟩ ::
          (w.protocol.buyBill D G.wrappedPunks punkIndex amount).coins D G.punkGateway) w w') := by
  refine Sat.bind loanOnPunk_returns fun loan hloan => ?_
  subst hloan
  refine Sat.bind takeErc20_booked fun w₁ h₁ => ?_
  obtain ⟨hbrought, htaken⟩ := h₁
  obtain ⟨happroved, hnothing⟩ := approveErc20_booked w₁ G.punkGateway_isUser
    (w.protocol.loanOn G.wrappedPunks punkIndex).reserveAsset D.debtMarket amount
  refine Returns.step fun s hs => ?_
  have hbilled := State.buy_billed.ok (inProtocol_eq_ok.mp hs)
  have hbill := (hbrought.trans happroved).reads
    (fun s => s.buyBill D G.wrappedPunks punkIndex amount) fun _ _ => rfl
  refine fun a ha => (htaken a).append ((hnothing a).append (.ofBilled ?_ ha.outsider))
  rw [← hbill]
  exact hbilled

theorem auction_booked {bidPrice : ℕ} :
    Returns (auction G w sender punkIndex bidPrice onBehalfOf)
      (fun w' => ∀ a, D.Holder a → Booked a
        (⟨.token (w.protocol.loanOn G.wrappedPunks punkIndex).reserveAsset, sender,
            G.punkGateway, bidPrice⟩ ::
          (w.protocol.auctionBill D G.wrappedPunks punkIndex bidPrice).coins D G.punkGateway)
        w w') := by
  refine Returns.step fun _ _ => Sat.bind loanOnPunk_returns fun loan hloan => ?_
  subst hloan
  refine Sat.bind takeErc20_booked fun w₁ h₁ => ?_
  obtain ⟨hbrought, htaken⟩ := h₁
  refine Returns.step fun s hs => ?_
  obtain ⟨-, hok⟩ := require_bind_eq_ok.mp (inProtocol_eq_ok.mp hs)
  have hbilled := State.executeAuction_billed.ok hok
  have hbill := hbrought.reads
    (fun s => s.auctionBill D G.wrappedPunks punkIndex bidPrice) fun _ _ => rfl
  rw [hbill] at hbilled
  exact fun a ha => (htaken a).append (.ofBilled hbilled ha.outsider)

/-- **The account of `redeem`.** What the bill leaves of the tokens goes back. -/
theorem redeem_booked (hr : Reachable D (anyAction D) w.protocol) {bidFine : ℕ} :
    Returns (redeem G w sender punkIndex amount bidFine)
      (fun p => ∃ b, w.protocol.redeemBill D G.wrappedPunks punkIndex amount = .ok b ∧
        b.paid ≤ amount + bidFine ∧ (∀ t ∈ b.payouts, D.isProtocol t.src) ∧
        ∀ a, D.Holder a → Booked a
          (⟨.token (w.protocol.loanOn G.wrappedPunks punkIndex).reserveAsset, sender,
              G.punkGateway, amount + bidFine⟩ ::
            (b.coins D G.punkGateway ++
              [⟨.token (w.protocol.loanOn G.wrappedPunks punkIndex).reserveAsset, G.punkGateway,
                sender, amount + bidFine - b.paid⟩])) w p.1) := by
  refine Sat.bind loanOnPunk_returns fun loan hloan => ?_
  subst hloan
  refine Sat.bind takeErc20_booked fun w₁ h₁ => ?_
  obtain ⟨hbrought, htaken⟩ := h₁
  obtain ⟨E, hE⟩ := hbrought.tokens
  refine Returns.step fun p hp => ?_
  obtain ⟨s, paybackAmount⟩ := p
  obtain ⟨-, hok⟩ := require_bind_eq_ok.mp (inProtocol_eq_ok.mp hp)
  obtain ⟨b, hbill, hpaid, hle, hbilled⟩ :=
    (State.executeRedeem_billed (hbrought.reachable hr)).ok hok
  rw [hE] at hbill
  obtain rfl : paybackAmount = b.paid := hpaid
  refine Sat.bind refundErc20_booked fun w₂ hrefund => ?_
  exact ⟨b, State.redeemBill_withErc20.mp hbill, hle, hbilled.within, fun a ha =>
    (htaken a).append (Booked.append (.ofBilled hbilled ha.outsider) (hrefund a))⟩

/-- **The account of `liquidate`.** -/
theorem liquidate_booked (hr : Reachable D (anyAction D) w.protocol) :
    Returns (liquidate G w sender punkIndex amount)
      (fun p => (w.protocol.liquidateBill D G.wrappedPunks punkIndex).paid ≤ amount ∧
        ∀ a, D.Holder a → Booked a
          (⟨.token (w.protocol.loanOn G.wrappedPunks punkIndex).reserveAsset, sender,
              G.punkGateway, amount⟩ ::
            ((w.protocol.liquidateBill D G.wrappedPunks punkIndex).coins D G.punkGateway ++
              [⟨.token (w.protocol.loanOn G.wrappedPunks punkIndex).reserveAsset, G.punkGateway,
                sender, amount - (w.protocol.liquidateBill D G.wrappedPunks punkIndex).paid⟩]))
          w p.1) := by
  refine Sat.bind loanOnPunk_returns fun loan hloan => Returns.check fun _ => ?_
  subst hloan
  refine Sat.bind (P := fun w₁ => Brought D w w₁ ∧ ∀ a, Booked a
      [⟨.token (w.protocol.loanOn G.wrappedPunks punkIndex).reserveAsset, sender, G.punkGateway,
        amount⟩] w w₁) (Sat.applyIf (fun _ => takeErc20_booked) fun hnone => ?_) fun w₁ h₁ => ?_
  · obtain rfl : amount = 0 := Nat.eq_zero_of_not_pos hnone
    exact ⟨.ofEq rfl, fun a k => by simp⟩
  obtain ⟨hbrought, htaken⟩ := h₁
  refine Returns.step fun p hp => ?_
  obtain ⟨s, extraRetAmount⟩ := p
  obtain ⟨-, hok⟩ := require_bind_eq_ok.mp (inProtocol_eq_ok.mp hp)
  obtain ⟨hpaid, hle, hbilled⟩ :=
    (State.executeLiquidate_billed (hbrought.reachable hr) G.punkGateway_isUser.ne_lendPool).ok hok
  have hbill := hbrought.reads
    (fun s => s.liquidateBill D G.wrappedPunks punkIndex) fun _ _ => rfl
  rw [hbill] at hpaid hbilled
  obtain rfl := hpaid
  refine Sat.bind _withdrawPunk_aside fun w₂ haside => ?_
  refine Sat.bind refundErc20_booked fun w₃ hrefund => ?_
  exact ⟨hle, fun a ha => (htaken a).append (Booked.append (.ofBilled hbilled ha.outsider)
    ((haside.booked a).append (hrefund a)))⟩

/-- **The account of `buyout`.** Nothing goes back. -/
theorem buyout_booked (hr : Reachable D (anyAction D) w.protocol) :
    Returns (buyout G w sender punkIndex amount onBehalfOf)
      (fun w' => ∃ b, w.protocol.buyoutBill D G.wrappedPunks punkIndex onBehalfOf = .ok b ∧
        (∀ t ∈ b.payouts, D.isProtocol t.src) ∧
        ∀ a, D.Holder a → Booked a
          (⟨.token (w.protocol.loanOn G.wrappedPunks punkIndex).reserveAsset, sender,
              G.punkGateway, amount⟩ :: b.coins D G.punkGateway) w w') := by
  refine Returns.step fun _ _ => Sat.bind loanOnPunk_returns fun loan hloan => ?_
  subst hloan
  refine Sat.bind takeErc20_booked fun w₁ h₁ => ?_
  obtain ⟨hbrought, htaken⟩ := h₁
  obtain ⟨E, hE⟩ := hbrought.tokens
  refine Returns.step fun w₂ hw₂ => ?_
  obtain ⟨s, hs, hw₂⟩ := bind_eq_ok.mp hw₂
  obtain rfl := Except.ok.inj hw₂
  obtain ⟨-, hok⟩ := require_bind_eq_ok.mp (inProtocol_eq_ok.mp hs)
  obtain ⟨b, hbill, hbilled⟩ :=
    (State.executeBuyout_billed (hbrought.reachable hr) G.punkGateway_isUser.ne_lendPool).ok hok
  rw [hE] at hbill
  refine _withdrawPunk_aside.imp fun w₃ haside => ?_
  refine ⟨b, State.buyoutBill_withErc20.mp hbill, hbilled.within, fun a ha => ?_⟩
  have hall := (htaken a).append
    (Booked.append (.ofBilled hbilled ha.outsider) (haside.booked a))
  rwa [List.append_nil] at hall

/-! ## The calls that come with ether -/

/-- **The account of `borrowETH`.** -/
theorem borrowETH_booked (hb : Books D w.protocol) (hexact : D.PaysExactly w.protocol.yVault) :
    Returns (borrowETH G w sender amount punkIndex onBehalfOf)
      (fun w' => 0 < amount ∧ G.acceptsEther onBehalfOf = true ∧
        ∀ a, D.Holder a → Booked a
          ((w.protocol.borrowBill D G.wethGateway D.weth G.wrappedPunks punkIndex amount).coins D
              G.wethGateway ++ (unwrapping D G.wethGateway amount ++
            [⟨.ether, G.wethGateway, onBehalfOf, amount⟩])) w w') := by
  refine Returns.step fun _ _ => Sat.bind _depositPunk_aside fun w₁ haside => ?_
  obtain ⟨C, hC⟩ := haside.protocol
  have hb₁ : Books D w₁.protocol := by
    rw [hC]
    exact hb.withErc721 C
  have hexact₁ : D.PaysExactly w₁.protocol.yVault := by
    rw [hC]
    exact hexact
  have hbill := haside.reads (fun s =>
    s.borrowBill D G.wethGateway D.weth G.wrappedPunks punkIndex amount) fun _ _ => rfl
  refine (World.borrowETH_booked hb₁ hexact₁).imp fun w₂ h => ?_
  obtain ⟨hpos, htakes, hbooked⟩ := h
  rw [hbill] at hbooked
  exact ⟨hpos, htakes, fun a ha => (haside.booked a).append (hbooked a ha)⟩

/-- What is passed on for a repayment is reckoned from the view of the debt, and what is not taken
of it comes back. -/
theorem _repayETH_booked (hr : Reachable D (anyAction D) w.protocol) :
    Returns (_repayETH G w sender msgValue punkIndex amount 0)
      (fun p => ∃ debt, (w.protocol.loanOn G.wrappedPunks punkIndex).reserveAsset = D.weth ∧
        w.protocol.getLoanReserveBorrowAmount
          (w.protocol.lendPoolLoan.getCollateralLoanId G.wrappedPunks punkIndex) = .ok debt ∧
        min amount debt ≤ msgValue ∧
        p.2.1 = (w.protocol.repayBill D G.wrappedPunks punkIndex amount).paid ∧
        ∀ a, D.Holder a → Booked a (⟨.ether, G.punkGateway, G.wethGateway, min amount debt⟩ ::
          (wrapping D G.wethGateway (min amount debt) ++
            ((w.protocol.repayBill D G.wrappedPunks punkIndex amount).coins D G.wethGateway ++
              [⟨.ether, G.wethGateway, G.punkGateway, min amount debt - p.2.1⟩]))) w p.1) := by
  refine Returns.step fun loan _ => Returns.check fun _ => Returns.step fun debt hdebt => ?_
  refine Returns.check fun hcovered => ?_
  have hmin : (if amount < debt then amount else debt) = min amount debt := by
    split <;> omega
  rw [Nat.zero_add, hmin] at hcovered
  rw [hmin]
  refine Sat.bind (World.repayETH_booked hr) fun p hp => ?_
  obtain ⟨w₁, paybackAmount, burn⟩ := p
  obtain ⟨debt', hweth, hdebt', -, hpaid, hbooked⟩ := hp
  obtain rfl : debt' = debt := Except.ok.inj (hdebt'.symm.trans (inProtocol_eq_ok.mp hdebt))
  refine Sat.bind (P := fun w₂ => Aside w₁ w₂)
    (Sat.applyIf (fun _ => _withdrawPunk_aside) fun _ => .refl _) fun w₂ haside => ?_
  refine ⟨debt', hweth, hdebt', hcovered, hpaid, fun a ha => ?_⟩
  have hall := (hbooked a ha).append (haside.booked a)
  rwa [List.append_nil] at hall

/-- **The account of `repayETH`.** -/
theorem repayETH_booked (hr : Reachable D (anyAction D) w.protocol) :
    Returns (repayETH G w sender msgValue punkIndex amount)
      (fun p => ∃ debt, (w.protocol.loanOn G.wrappedPunks punkIndex).reserveAsset = D.weth ∧
        w.protocol.getLoanReserveBorrowAmount
          (w.protocol.lendPoolLoan.getCollateralLoanId G.wrappedPunks punkIndex) = .ok debt ∧
        min amount debt ≤ msgValue ∧
        p.2.1 = (w.protocol.repayBill D G.wrappedPunks punkIndex amount).paid ∧
        ∀ a, D.Holder a → Booked a (⟨.ether, sender, G.punkGateway, msgValue⟩ ::
          ⟨.ether, G.punkGateway, G.wethGateway, min amount debt⟩ ::
          ((wrapping D G.wethGateway (min amount debt) ++
            ((w.protocol.repayBill D G.wrappedPunks punkIndex amount).coins D G.wethGateway ++
              [⟨.ether, G.wethGateway, G.punkGateway, min amount debt - p.2.1⟩])) ++
            [⟨.ether, G.punkGateway, sender, msgValue - p.2.1⟩])) w p.1) := by
  refine Sat.bind moveEther_booked fun w₁ h₁ => ?_
  obtain ⟨hsame, hsent⟩ := h₁
  refine Sat.bind (_repayETH_booked (hsame ▸ hr)) fun p hp => ?_
  obtain ⟨w₂, paybackAmount, burn⟩ := p
  obtain ⟨debt, hweth, hdebt, hcovered, hpaid, hbooked⟩ := hp
  rw [hsame] at hweth hdebt hpaid hbooked
  refine Sat.bind giveBack_booked fun w₃ hrefund => ?_
  exact ⟨debt, hweth, hdebt, hcovered, hpaid, fun a ha =>
    (hsent a).append ((hbooked a ha).append (hrefund a))⟩

theorem buyDebtPunkETH_booked :
    Returns (buyDebtPunkETH G w sender msgValue punkIndex onBehalfOf)
      (fun w' => (w.protocol.loanOn G.wrappedPunks punkIndex).reserveAsset = D.weth ∧
        ∀ a, D.Holder a → Booked a (⟨.ether, sender, G.punkGateway, msgValue⟩ ::
          ⟨.ether, G.punkGateway, G.wethGateway, msgValue⟩ ::
          (wrapping D G.wethGateway msgValue ++
            (w.protocol.buyBill D G.wrappedPunks punkIndex msgValue).coins D G.wethGateway))
          w w') := by
  refine Sat.bind moveEther_booked fun w₁ h₁ => ?_
  obtain ⟨hsame, hsent⟩ := h₁
  refine Returns.step fun _ _ => World.buyDebtETH_booked.imp fun w₂ h => ?_
  obtain ⟨hweth, hbooked⟩ := h
  rw [hsame] at hweth hbooked
  exact ⟨hweth, fun a ha => (hsent a).append (hbooked a ha)⟩

theorem auctionETH_booked :
    Returns (auctionETH G w sender msgValue punkIndex onBehalfOf)
      (fun w' => (w.protocol.loanOn G.wrappedPunks punkIndex).reserveAsset = D.weth ∧
        ∀ a, D.Holder a → Booked a (⟨.ether, sender, G.punkGateway, msgValue⟩ ::
          ⟨.ether, G.punkGateway, G.wethGateway, msgValue⟩ ::
          (wrapping D G.wethGateway msgValue ++
            (w.protocol.auctionBill D G.wrappedPunks punkIndex msgValue).coins D G.wethGateway))
          w w') := by
  refine Sat.bind moveEther_booked fun w₁ h₁ => ?_
  obtain ⟨hsame, hsent⟩ := h₁
  refine Returns.step fun _ _ => World.auctionETH_booked.imp fun w₂ h => ?_
  obtain ⟨hweth, hbooked⟩ := h
  rw [hsame] at hweth hbooked
  exact ⟨hweth, fun a ha => (hsent a).append (hbooked a ha)⟩

/-- **The account of `redeemETH`.** What the other gateway gives back is passed on. -/
theorem redeemETH_booked (hr : Reachable D (anyAction D) w.protocol) {bidFine : ℕ} :
    Returns (redeemETH G w sender msgValue punkIndex amount bidFine)
      (fun p => ∃ b, (w.protocol.loanOn G.wrappedPunks punkIndex).reserveAsset = D.weth ∧
        w.protocol.redeemBill D G.wrappedPunks punkIndex amount = .ok b ∧
        b.paid ≤ msgValue ∧ (∀ t ∈ b.payouts, D.isProtocol t.src) ∧
        ∀ a, D.Holder a → Booked a (⟨.ether, sender, G.punkGateway, msgValue⟩ ::
          ⟨.ether, G.punkGateway, G.wethGateway, msgValue⟩ ::
          ((wrapping D G.wethGateway msgValue ++ (b.coins D G.wethGateway ++
            (unwrapping D G.wethGateway (msgValue - b.paid) ++
              [⟨.ether, G.wethGateway, G.punkGateway, msgValue - b.paid⟩]))) ++
            [⟨.ether, G.punkGateway, sender, msgValue - b.paid⟩])) w p.1) := by
  refine Sat.bind moveEther_booked fun w₁ h₁ => ?_
  obtain ⟨hsame, hsent⟩ := h₁
  refine Returns.step fun _ _ => Sat.bind (World.redeemETH_booked (hsame ▸ hr)) fun p hp => ?_
  obtain ⟨w₂, paybackAmount⟩ := p
  obtain ⟨b, hweth, hbill, hpaid, hle, hwithin, hbooked⟩ := hp
  obtain rfl : paybackAmount = b.paid := hpaid
  rw [hsame] at hweth hbill
  refine Sat.bind giveBack_booked fun w₃ hrefund => ?_
  exact ⟨b, hweth, hbill, hle, hwithin, fun a ha =>
    (hsent a).append ((hbooked a ha).append (hrefund a))⟩

/-- **The account of `liquidateETH`.** -/
theorem liquidateETH_booked (hr : Reachable D (anyAction D) w.protocol) :
    Returns (liquidateETH G w sender msgValue punkIndex)
      (fun p => (w.protocol.loanOn G.wrappedPunks punkIndex).reserveAsset = D.weth ∧
        (w.protocol.liquidateBill D G.wrappedPunks punkIndex).paid ≤ msgValue ∧
        ∀ a, D.Holder a → Booked a (⟨.ether, sender, G.punkGateway, msgValue⟩ ::
          ⟨.ether, G.punkGateway, G.wethGateway, msgValue⟩ ::
          ((wrapping D G.wethGateway msgValue ++
            ((w.protocol.liquidateBill D G.wrappedPunks punkIndex).coins D G.wethGateway ++
              (unwrapping D G.wethGateway
                  (msgValue - (w.protocol.liquidateBill D G.wrappedPunks punkIndex).paid) ++
                [⟨.ether, G.wethGateway, G.punkGateway,
                  msgValue - (w.protocol.liquidateBill D G.wrappedPunks punkIndex).paid⟩]))) ++
            [⟨.ether, G.punkGateway, sender,
              msgValue - (w.protocol.liquidateBill D G.wrappedPunks punkIndex).paid⟩])) w p.1) := by
  refine Sat.bind moveEther_booked fun w₁ h₁ => ?_
  obtain ⟨hsame, hsent⟩ := h₁
  refine Returns.step fun loan _ => Returns.check fun _ => ?_
  refine Sat.bind (World.liquidateETH_booked (hsame ▸ hr)) fun p hp => ?_
  obtain ⟨w₂, extraAmount⟩ := p
  obtain ⟨hweth, hpaid, hle, hbooked⟩ := hp
  rw [hsame] at hweth hpaid hbooked
  obtain rfl := hpaid
  refine Sat.bind _withdrawPunk_aside fun w₃ haside => ?_
  refine Sat.bind giveBack_booked fun w₄ hrefund => ?_
  exact ⟨hweth, hle, fun a ha =>
    (hsent a).append ((hbooked a ha).append ((haside.booked a).append (hrefund a)))⟩

/-- **The account of `buyoutETH`.** -/
theorem buyoutETH_booked (hr : Reachable D (anyAction D) w.protocol) :
    Returns (buyoutETH G w sender msgValue punkIndex onBehalfOf)
      (fun w' => ∃ b, (w.protocol.loanOn G.wrappedPunks punkIndex).reserveAsset = D.weth ∧
        w.protocol.buyoutBill D G.wrappedPunks punkIndex onBehalfOf = .ok b ∧
        (∀ t ∈ b.payouts, D.isProtocol t.src) ∧
        ∀ a, D.Holder a → Booked a (⟨.ether, sender, G.punkGateway, msgValue⟩ ::
          ⟨.ether, G.punkGateway, G.wethGateway, msgValue⟩ ::
          (wrapping D G.wethGateway msgValue ++ b.coins D G.wethGateway)) w w') := by
  refine Sat.bind moveEther_booked fun w₁ h₁ => ?_
  obtain ⟨hsame, hsent⟩ := h₁
  refine Returns.step fun _ _ => Returns.step fun _ _ => ?_
  refine Sat.bind (World.buyoutETH_booked (hsame ▸ hr)) fun w₂ h => ?_
  obtain ⟨b, hweth, hbill, hwithin, hbooked⟩ := h
  rw [hsame] at hweth hbill
  refine _withdrawPunk_aside.imp fun w₃ haside => ?_
  refine ⟨b, hweth, hbill, hwithin, fun a ha => ?_⟩
  have hall := (hsent a).append ((hbooked a ha).append (haside.booked a))
  rwa [List.append_nil] at hall

end PunkGateway

end Unlockd
