/-
The gateways as users of the protocol.

A gateway has no rights of its own. Whatever one of its calls does to the protocol could have been
done by a sequence of ordinary calls in the name of the gateways, with ether turned into WETH and
punks into tokens on the way; and in that sequence nobody but the caller and the gateways pays, or
gives a token or a uToken away. So a call of a gateway is a run of the chain, and what holds of the
chain over all its runs holds with the gateways in it.
-/
import Unlockd.Holders
import Unlockd.GatewayCalls

set_option autoImplicit false

namespace Unlockd

open Outcome Relation

/-! ## What the gateways do on the chain -/

/-- The chain that the gateways work on. -/
def World.chain (w : World) : Chain := ⟨w.protocol, w.uTokenAllowance⟩

/-- The account whose tokens a call moves, when it is not the caller. -/
def Call.movesFrom {D : Deployment} : Call D → Option Address
  | .transferFrom _ src _ _ => some src
  | .transferNft _ src _ _ => some src
  | _ => none

namespace Gateways

variable {D : Deployment} (G : Gateways D)

/-- The accounts that a call of `sender` may be at the expense of. -/
def Pays (sender a : Address) : Prop := a = sender ∨ a = G.wethGateway ∨ a = G.punkGateway

/-- **What a call of a gateway by `sender` may consist of**: calls in the name of the gateways, at
nobody's expense but that of the sender and of themselves; ether that is wrapped, and punks. -/
inductive Acts (sender : Address) (c : Chain) : ChainAction D → Prop
  | call (gateway : Address) (outside : D.isUser gateway) (call : Call D)
      (own : gateway = G.wethGateway ∨ gateway = G.punkGateway)
      (pays : ∀ src, call.movesFrom = some src → G.Pays sender src) :
      Acts sender c (.protocol (.call gateway outside call))
  | wrap (amount : ℕ) : Acts sender c (.protocol (.event (.mint D.weth G.wethGateway amount)))
  | wrapPunk (punkIndex : ℕ) :
      Acts sender c (.protocol (.event (.mintNft G.wrappedPunks G.punkGateway punkIndex)))
  | unwrapPunk (outside : D.isUser G.punkGateway) (punkIndex : ℕ) :
      Acts sender c (.burnNft G.punkGateway outside G.wrappedPunks punkIndex)
  | takeUTokens (outside : D.isUser G.wethGateway) (asset src : Address) (amount : ℕ)
      (pays : G.Pays sender src) :
      Acts sender c (.uToken G.wethGateway outside
        (.transferFrom asset src G.wethGateway amount))

/-- A run of the chain that consists of nothing else. -/
def Runs (sender : Address) (w w' : World) : Prop :=
  ReflTransGen (ChainStep D (G.Acts sender)) w.chain w'.chain

variable {G} {sender : Address} {w w' w'' : World}

theorem Runs.ofEq (h : w'.chain = w.chain) : G.Runs sender w w' := by
  unfold Runs
  rw [h]

theorem Runs.trans (h : G.Runs sender w w') (h' : G.Runs sender w' w'') : G.Runs sender w w'' :=
  ReflTransGen.trans h h'

theorem Runs.single {action : ChainAction D} (ha : G.Acts sender w.chain action)
    (hok : w.chain.execute D action = .ok w'.chain) : G.Runs sender w w' :=
  ReflTransGen.single ⟨action, ha, hok⟩

/-- What is at the expense of the gateways alone may be part of any call. -/
theorem Acts.mono {sender' : Address} {c : Chain} {action : ChainAction D}
    (hs : ∀ a, G.Pays sender' a → G.Pays sender a) (h : G.Acts sender' c action) :
    G.Acts sender c action := by
  cases h with
  | call gateway outside call own pays =>
    exact .call gateway outside call own fun src hsrc => hs src (pays src hsrc)
  | wrap amount => exact .wrap amount
  | wrapPunk punkIndex => exact .wrapPunk punkIndex
  | unwrapPunk outside punkIndex => exact .unwrapPunk outside punkIndex
  | takeUTokens outside asset src amount pays =>
    exact .takeUTokens outside asset src amount (hs src pays)

/-- One gateway that calls the other. -/
theorem Runs.nested (h : G.Runs G.punkGateway w w') : G.Runs sender w w' := by
  refine ReflTransGen.mono (fun c c' hst => ?_) _ _ h
  obtain ⟨action, ha, hok⟩ := hst
  exact ⟨action, ha.mono fun a hpays => .inr (hpays.elim .inr id), hok⟩

end Gateways

/-! ## The parts of a call -/

section Sequences

variable {D : Deployment} {G : Gateways D} {sender : Address} {w : World} {α β : Type}

/-- One part of a call after another; `f` and `g` read the world off what they return. -/
theorem runs_bind {x : Except GatewayError α} {next : α → Except GatewayError β} {f : α → World}
    {g : β → World} (hx : Returns x fun a => G.Runs sender w (f a))
    (hnext : ∀ a, Returns (next a) fun b => G.Runs sender (f a) (g b)) :
    Returns (x >>= next) fun b => G.Runs sender w (g b) :=
  Sat.bind hx fun a h₁ => (hnext a).imp fun _ h₂ => h₁.trans h₂

/-- A part that is left out under a condition. -/
theorem runs_applyIf {p : Prop} [Decidable p] {op : World → Except GatewayError World}
    (h : Returns (op w) (G.Runs sender w)) : Returns (applyIf p op w) (G.Runs sender w) :=
  Sat.applyIf (fun _ => h) fun _ => .ofEq rfl

end Sequences

namespace World

variable {D : Deployment} {G : Gateways D} {sender src dst asset nftAsset : Address} {w : World}
  {amount tokenId punkIndex : ℕ}

theorem moveEther_runs : Returns (w.moveEther src dst amount) (G.Runs sender w) :=
  Returns.check fun _ => .ofEq rfl

theorem _safeTransferETH_runs : Returns (w._safeTransferETH G src dst amount) (G.Runs sender w) :=
  Returns.check fun _ => moveEther_runs

/-- What a call of the protocol by a gateway does. -/
theorem runs_of_perform {gateway : Address} {c : Call D} {s' : State}
    (own : gateway = G.wethGateway ∨ gateway = G.punkGateway)
    (pays : ∀ src, c.movesFrom = some src → G.Pays sender src)
    (h : w.protocol.perform D gateway c = .ok s') : G.Runs sender w (w.setProtocol s') := by
  have houtside : D.isUser gateway := by
    rcases own with rfl | rfl
    · exact G.wethGateway_isUser
    · exact G.punkGateway_isUser
  exact .single (.call gateway houtside c own pays) (Chain.ofProtocol_eq_ok.mpr ⟨s', h, rfl⟩)

/-- The same, for a call that takes from nobody but the gateway. -/
theorem call_runs {gateway : Address} {c : Call D}
    (own : gateway = G.wethGateway ∨ gateway = G.punkGateway) (hc : c.movesFrom = none) :
    Returns (w.call D gateway c) (G.Runs sender w) := by
  refine Returns.step fun s' hs' => runs_of_perform own (fun src hsrc => ?_)
    (inProtocol_eq_ok.mp hs')
  rw [hc] at hsrc
  cases hsrc

/-- An operation of the pool that returns a number. -/
theorem returning_runs {α : Type} {gateway : Address} {c : Call D}
    {operation : Except Error (State × α)}
    (own : gateway = G.wethGateway ∨ gateway = G.punkGateway) (hc : c.movesFrom = none)
    (hop : w.protocol.perform D gateway c = w.protocol.whenNotPaused (Prod.fst <$> operation)) :
    Returns (inProtocol (w.protocol.whenNotPausedReturning operation))
      (fun p => G.Runs sender w (w.setProtocol p.1)) := by
  refine (Sat.returned _).imp fun p hp => ?_
  obtain ⟨hpaused, hp⟩ := require_bind_eq_ok.mp (inProtocol_eq_ok.mp hp)
  refine runs_of_perform (c := c) own (fun src hsrc => ?_) ?_
  · rw [hc] at hsrc
    cases hsrc
  · rw [hop, hp]
    exact require_bind_eq_ok.mpr ⟨hpaused, rfl⟩

/-- The gateway wraps ether: to the chain, WETH is issued to it. -/
theorem wrap_runs : Returns (w.wrap (D := D) G.wethGateway amount) (G.Runs sender w) := by
  refine runs_bind (f := id) moveEther_runs fun w₁ => ?_
  exact .single (.wrap amount) rfl

/-- And unwraps it: it burns WETH of its own. -/
theorem unwrap_runs : Returns (w.unwrap (D := D) G.wethGateway amount) (G.Runs sender w) := by
  refine Returns.step fun s' hs' => ?_
  have hburn : G.Runs sender w (w.setProtocol s') :=
    runs_of_perform (c := .burn D.weth amount) (.inl rfl) nofun (inProtocol_eq_ok.mp hs')
  exact moveEther_runs.imp fun _ h => hburn.trans h

theorem wrapIf_runs {p : Prop} [Decidable p] : Returns
    (applyIf p (fun w => w.wrap (D := D) G.wethGateway amount) w) (G.Runs sender w) :=
  runs_applyIf wrap_runs

theorem approveDebtMarket_runs (w : World) : G.Runs sender w (w.approveDebtMarket G) := by
  unfold approveDebtMarket
  split
  · exact runs_of_perform (c := .approve D.weth D.debtMarket maxUint256) (.inl rfl) nofun rfl
  · exact .ofEq rfl

/-! ## The calls of `WETHGateway.sol` -/

variable {onBehalfOf : Address} {msgValue : ℕ}

theorem depositETH_runs : Returns (w.depositETH G sender msgValue onBehalfOf) (G.Runs sender w) :=
  runs_bind (f := id) moveEther_runs fun _ => Returns.step fun _ _ =>
    runs_bind (f := id) wrap_runs fun _ => call_runs (.inl rfl) rfl

/-- A withdrawal goes through only at a reserve that there is. -/
theorem withdraw_initialised {s : State} {receiver : Address} :
    Returns (s.perform D src (.withdraw asset amount receiver))
      (fun _ => (s.lendPool.reserves asset).uTokenAddress ≠ 0) := by
  refine Returns.check fun _ => State.fst_spec (State.executeWithdraw_debited.imp fun p hp => ?_)
  obtain ⟨_, _, hinit, -⟩ := hp
  exact hinit

/-- uTokens of an account go to the gateway; there has to be a uToken to call. -/
theorem transferFromUToken_runs (pays : G.Pays sender src) :
    Returns (w.transferFromUToken asset G.wethGateway src G.wethGateway amount) (fun w₁ =>
      w₁.protocol.lendPool = w.protocol.lendPool ∧
      ((w.protocol.lendPool.reserves asset).uTokenAddress ≠ 0 → G.Runs sender w w₁)) := by
  refine Returns.step fun s₁ hs₁ => Returns.check fun hallowed => ?_
  have hsent := inProtocol_eq_ok.mp hs₁
  have hpool : s₁.lendPool = w.protocol.lendPool := by
    obtain ⟨u, rfl⟩ := State.transferUToken_returns.ok hsent
    rfl
  refine ⟨hpool, fun hinit => ?_⟩
  refine .single (.takeUTokens G.wethGateway_isUser asset src amount pays) ?_
  exact require_bind_eq_ok.mpr ⟨hinit, bind_eq_ok.mpr ⟨⟨s₁, w.uTokenAllowance⟩,
    Chain.ofProtocol_eq_ok.mpr ⟨s₁, hsent, rfl⟩, require_bind_eq_ok.mpr ⟨hallowed, rfl⟩⟩⟩

/-- The gateway takes the uTokens of the sender and withdraws what they stand for. -/
theorem withdrawUWETH_runs :
    Returns (w.withdrawUWETH G sender amount) (fun p => G.Runs sender w p.1) := by
  refine Returns.step fun balance _ => Sat.bind (transferFromUToken_runs (.inl rfl)) fun w₁ h₁ => ?_
  obtain ⟨hpool, htaken⟩ := h₁
  refine Returns.step fun w₂ h₂ => ?_
  have hcall : G.Runs sender w₁ w₂ := (call_runs (.inl rfl) rfl).ok h₂
  obtain ⟨s₂, hs₂, -⟩ := bind_eq_ok.mp h₂
  have hinit := withdraw_initialised.ok (inProtocol_eq_ok.mp hs₂)
  rw [hpool] at hinit
  exact (htaken hinit).trans hcall

theorem withdrawETH_runs : Returns (w.withdrawETH G sender amount dst) (G.Runs sender w) :=
  Returns.step fun _ _ => runs_bind withdrawUWETH_runs fun _ =>
    runs_bind (f := id) unwrap_runs fun _ => _safeTransferETH_runs

/-- A token comes in from the sender. -/
theorem safeTransferNft_runs {gateway : Address} {s' : State}
    (own : gateway = G.wethGateway ∨ gateway = G.punkGateway) (pays : G.Pays sender src)
    (h : w.protocol.safeTransferNft D nftAsset gateway src dst tokenId = .ok s') :
    G.Runs sender w (w.setProtocol s') := by
  obtain ⟨c, hc, h⟩ := bind_eq_ok.mp h
  obtain ⟨-, h⟩ := require_bind_eq_ok.mp h
  refine runs_of_perform (c := .transferNft nftAsset src dst tokenId) own (fun a ha => ?_)
    (bind_eq_ok.mpr ⟨c, hc, h⟩)
  obtain rfl := Option.some.inj ha
  exact pays

theorem borrowETH_runs : Returns (w.borrowETH G sender amount nftAsset tokenId onBehalfOf)
    (G.Runs sender w) := by
  refine Returns.step fun _ _ => ?_
  refine runs_bind (f := w.setProtocol) ?_ fun s₁ => ?_
  · refine (Sat.returned _).imp fun s₁ hs₁ => ?_
    have hs₁ := inProtocol_eq_ok.mp hs₁
    unfold applyIf at hs₁
    split at hs₁
    · exact safeTransferNft_runs (.inl rfl) (.inl rfl) hs₁
    · rw [← Except.ok.inj hs₁]
      exact .ofEq rfl
  · exact runs_bind (f := id) (call_runs (.inl rfl) rfl) fun _ =>
      runs_bind (f := id) unwrap_runs fun _ => _safeTransferETH_runs

theorem _repayETH_runs {accAmount : ℕ} :
    Returns (w._repayETH G msgValue nftAsset tokenId amount accAmount)
      (fun p => G.Runs sender w p.1) := by
  refine Returns.step fun _ _ => Returns.step fun debt _ => Returns.check fun _ => ?_
  refine runs_bind (f := id) wrap_runs fun w₁ => ?_
  exact runs_bind (f := fun p => w₁.setProtocol p.1)
    (returning_runs (c := .repay nftAsset tokenId amount) (.inl rfl) rfl rfl) fun _ => .ofEq rfl

theorem repayETH_runs : Returns (w.repayETH G sender msgValue nftAsset tokenId amount)
    (fun p => G.Runs sender w p.1) :=
  runs_bind (f := id) moveEther_runs fun _ => runs_bind _repayETH_runs fun _ =>
    runs_bind (f := id) (runs_applyIf _safeTransferETH_runs) fun _ => .ofEq rfl

theorem auctionETH_runs : Returns (w.auctionETH G sender msgValue nftAsset tokenId onBehalfOf)
    (G.Runs sender w) :=
  runs_bind (f := id) moveEther_runs fun _ => Returns.step fun _ _ => Returns.step fun _ _ =>
    runs_bind (f := id) wrap_runs fun _ => call_runs (.inl rfl) rfl

theorem refundUnused_runs {used : ℕ} :
    Returns (w.refundUnused G sender msgValue used) (G.Runs sender w) :=
  runs_applyIf (runs_bind (f := id) unwrap_runs fun _ => _safeTransferETH_runs)

theorem redeemETH_runs {bidFine : ℕ} :
    Returns (w.redeemETH G sender msgValue nftAsset tokenId amount bidFine)
      (fun p => G.Runs sender w p.1) := by
  refine runs_bind (f := id) moveEther_runs fun _ => Returns.step fun _ _ => ?_
  refine Returns.check fun _ => runs_bind (f := id) wrap_runs fun w₁ => ?_
  refine runs_bind (f := fun p => w₁.setProtocol p.1)
    (returning_runs (c := .redeem nftAsset tokenId amount bidFine) (.inl rfl) rfl rfl) fun _ => ?_
  exact runs_bind (f := id) refundUnused_runs fun _ => .ofEq rfl

theorem liquidateETH_runs : Returns (w.liquidateETH G sender msgValue nftAsset tokenId)
    (fun p => G.Runs sender w p.1) := by
  refine runs_bind (f := id) moveEther_runs fun _ => Returns.step fun _ _ => ?_
  refine runs_bind (f := id) wrapIf_runs fun w₁ => ?_
  refine runs_bind (f := fun p => w₁.setProtocol p.1)
    (returning_runs (c := .liquidate nftAsset tokenId msgValue) (.inl rfl) rfl rfl) fun _ => ?_
  exact runs_bind (f := id) refundUnused_runs fun _ => .ofEq rfl

theorem bidDebtETH_runs : Returns (w.bidDebtETH G sender msgValue nftAsset tokenId onBehalfOf)
    (G.Runs sender w) := by
  refine runs_bind (f := id) moveEther_runs fun _ => Returns.step fun _ _ => ?_
  refine runs_bind (f := id) wrapIf_runs fun w₁ => ?_
  exact (call_runs (.inl rfl) rfl).imp fun _ h => (approveDebtMarket_runs w₁).trans h

theorem buyDebtETH_runs : Returns (w.buyDebtETH G sender msgValue nftAsset tokenId onBehalfOf)
    (G.Runs sender w) := by
  refine runs_bind (f := id) moveEther_runs fun _ => Returns.step fun _ _ => ?_
  refine runs_bind (f := id) wrapIf_runs fun w₁ => ?_
  exact (call_runs (.inl rfl) rfl).imp fun _ h => (approveDebtMarket_runs w₁).trans h

theorem buyoutETH_runs : Returns (w.buyoutETH G sender msgValue nftAsset tokenId onBehalfOf)
    (G.Runs sender w) := by
  refine runs_bind (f := id) moveEther_runs fun _ => Returns.step fun _ _ => ?_
  refine Returns.step fun _ _ => runs_bind (f := id) wrapIf_runs fun _ => ?_
  exact call_runs (.inl rfl) rfl

/-! ## Punks -/

theorem punkNoLongerForSale_runs :
    Returns (w.punkNoLongerForSale src punkIndex) (G.Runs sender w) :=
  Returns.check fun _ => Returns.check fun _ => .ofEq rfl

theorem transferPunk_runs : Returns (w.transferPunk src dst punkIndex) (G.Runs sender w) :=
  Returns.check fun _ => Returns.check fun _ =>
    runs_bind (f := id) (runs_applyIf punkNoLongerForSale_runs) fun _ => .ofEq rfl

theorem buyPunk_runs : Returns (w.buyPunk src punkIndex) (G.Runs sender w) := by
  refine Returns.check fun _ => Returns.check fun _ => Returns.check fun _ => ?_
  refine Returns.check fun _ => Returns.check fun _ => ?_
  exact punkNoLongerForSale_runs.imp fun _ h => (Gateways.Runs.ofEq rfl).trans h

/-- A token that there is not yet is issued. -/
theorem happen_mintNft {s : State} (hfree : (s.erc721 asset).ownerOf tokenId = 0) :
    s.happen (.mintNft asset dst tokenId) = s.setErc721 asset { s.erc721 asset with
      ownerOf := Function.update (s.erc721 asset).ownerOf tokenId dst } :=
  if_pos hfree

/-- The wrapper issues a token to the gateway. -/
theorem mintWrappedPunk_runs : Returns (w.mintWrappedPunk G punkIndex) (G.Runs sender w) := by
  refine Returns.step fun w₁ h₁ => Returns.check fun hfree => ?_
  have hmoved : G.Runs sender w w₁ := by
    cases hx : w.transferPunk G.punkProxy G.wrappedPunks punkIndex with
    | ok w' =>
      rw [hx] at h₁
      obtain rfl := Except.ok.inj h₁
      exact transferPunk_runs.ok hx
    | error e =>
      rw [hx] at h₁
      cases h₁
  refine hmoved.trans (.single (.wrapPunk punkIndex) ?_)
  exact Chain.ofProtocol_eq_ok.mpr ⟨_, congrArg Except.ok (happen_mintNft hfree), rfl⟩

/-- And destroys it. -/
theorem burnWrappedPunk_runs : Returns (w.burnWrappedPunk G punkIndex) (G.Runs sender w) := by
  refine Returns.check fun hexists => Returns.check fun hmay => ?_
  refine transferPunk_runs.imp fun _ h => Gateways.Runs.trans (.single
    (.unwrapPunk G.punkGateway_isUser punkIndex) ?_) h
  exact bind_eq_ok.mpr ⟨_, require_bind_eq_ok.mpr ⟨hexists, require_bind_eq_ok.mpr ⟨hmay, rfl⟩⟩,
    rfl⟩

/-- Tokens of the sender go to the gateway. -/
theorem takeErc20_runs : Returns (w.takeErc20 G.punkGateway asset sender amount)
    (G.Runs sender w) := by
  refine Returns.step fun s' hs' => runs_of_perform (.inr rfl) (fun src hsrc => ?_)
    (c := .transferFrom asset sender G.punkGateway amount) (inProtocol_eq_ok.mp hs')
  obtain rfl := Option.some.inj hsrc
  exact .inl rfl

theorem payErc20_runs : Returns (w.payErc20 G.punkGateway asset dst amount) (G.Runs sender w) :=
  Returns.step fun _ hs' => runs_of_perform (c := .transfer asset dst amount) (.inr rfl) nofun
    (inProtocol_eq_ok.mp hs')

end World

namespace PunkGateway

open World

variable {D : Deployment} {G : Gateways D} {sender asset onBehalfOf : Address} {w : World}
  {amount punkIndex msgValue bidFine : ℕ}

theorem _depositPunk_runs : Returns (_depositPunk G w sender punkIndex) (G.Runs sender w) :=
  runs_applyIf (Returns.check fun _ => runs_bind (f := id) buyPunk_runs fun _ =>
    runs_bind (f := id) transferPunk_runs fun _ => mintWrappedPunk_runs)

/-- The punk goes to the sender, who has to own the token. -/
theorem _withdrawPunk_runs :
    Returns (_withdrawPunk G w sender punkIndex onBehalfOf) (G.Runs sender w) := by
  refine Returns.check fun _ => Returns.check fun hsender => Returns.check fun howner => ?_
  refine Returns.step fun s' hs' => ?_
  have hpays : G.Pays sender onBehalfOf := .inl (howner.symm.trans hsender)
  refine runs_bind (f := id) (w := w) ?_ fun _ => transferPunk_runs
  exact burnWrappedPunk_runs.imp fun _ h =>
    (safeTransferNft_runs (.inr rfl) hpays (inProtocol_eq_ok.mp hs')).trans h

theorem borrow_runs : Returns (borrow G w sender asset amount punkIndex onBehalfOf)
    (G.Runs sender w) :=
  Returns.step fun _ _ => runs_bind (f := id) _depositPunk_runs fun _ =>
    runs_bind (f := id) (call_runs (.inr rfl) rfl) fun _ => payErc20_runs

theorem borrowETH_runs : Returns (borrowETH G w sender amount punkIndex onBehalfOf)
    (G.Runs sender w) :=
  Returns.step fun _ _ => runs_bind (f := id) _depositPunk_runs fun _ =>
    World.borrowETH_runs.imp fun _ h => h.nested

theorem _repay_runs : Returns (_repay G w sender punkIndex amount)
    (fun p => G.Runs sender w p.1) := by
  refine Returns.step fun loan _ => Returns.step fun debt _ => ?_
  refine runs_bind (f := id) takeErc20_runs fun w₁ => ?_
  refine runs_bind (f := fun p => w₁.setProtocol p.1) (returning_runs
    (c := .repay G.wrappedPunks punkIndex _) (.inr rfl) rfl rfl) fun p => ?_
  obtain ⟨s', paybackAmount, burn⟩ := p
  refine runs_bind (f := id) (runs_applyIf ?_) fun _ => .ofEq rfl
  exact Returns.check fun _ => _withdrawPunk_runs

theorem _repayETH_runs {accAmount : ℕ} :
    Returns (_repayETH G w sender msgValue punkIndex amount accAmount)
      (fun p => G.Runs sender w p.1) := by
  refine Returns.step fun loan _ => Returns.check fun _ => Returns.step fun debt _ => ?_
  refine Returns.check fun _ => runs_bind (f := Prod.fst)
    (World.repayETH_runs.imp fun _ h => h.nested) fun p => ?_
  obtain ⟨w', paybackAmount, burn⟩ := p
  exact runs_bind (f := id) (runs_applyIf _withdrawPunk_runs) fun _ => .ofEq rfl

theorem refundUnused_runs {used : ℕ} :
    Returns (refundUnused G w sender msgValue used) (G.Runs sender w) :=
  runs_applyIf _safeTransferETH_runs

theorem repayETH_runs : Returns (repayETH G w sender msgValue punkIndex amount)
    (fun p => G.Runs sender w p.1) :=
  runs_bind (f := id) moveEther_runs fun _ => runs_bind _repayETH_runs fun _ =>
    runs_bind (f := id) refundUnused_runs fun _ => .ofEq rfl

theorem buyDebtPunk_runs : Returns (buyDebtPunk G w sender punkIndex onBehalfOf amount)
    (G.Runs sender w) := by
  refine Returns.step fun loan _ => runs_bind (f := id) takeErc20_runs fun w₁ => ?_
  have happroved : G.Runs sender w₁ (w₁.setProtocol (w₁.protocol.approveErc20 loan.reserveAsset
      G.punkGateway D.debtMarket amount)) :=
    runs_of_perform (c := .approve loan.reserveAsset D.debtMarket amount) (.inr rfl) nofun rfl
  exact (call_runs (.inr rfl) rfl).imp fun _ h => happroved.trans h

theorem buyDebtPunkETH_runs : Returns (buyDebtPunkETH G w sender msgValue punkIndex onBehalfOf)
    (G.Runs sender w) :=
  runs_bind (f := id) moveEther_runs fun _ => Returns.step fun _ _ =>
    World.buyDebtETH_runs.imp fun _ h => h.nested

theorem auction_runs {bidPrice : ℕ} :
    Returns (auction G w sender punkIndex bidPrice onBehalfOf) (G.Runs sender w) :=
  Returns.step fun _ _ => Returns.step fun _ _ => runs_bind (f := id) takeErc20_runs fun _ =>
    call_runs (.inr rfl) rfl

theorem auctionETH_runs : Returns (auctionETH G w sender msgValue punkIndex onBehalfOf)
    (G.Runs sender w) :=
  runs_bind (f := id) moveEther_runs fun _ => Returns.step fun _ _ =>
    World.auctionETH_runs.imp fun _ h => h.nested

theorem refundErc20_runs {taken used : ℕ} :
    Returns (refundErc20 G w asset sender taken used) (G.Runs sender w) :=
  runs_applyIf payErc20_runs

theorem redeem_runs : Returns (redeem G w sender punkIndex amount bidFine)
    (fun p => G.Runs sender w p.1) := by
  refine Returns.step fun loan _ => runs_bind (f := id) takeErc20_runs fun w₁ => ?_
  refine runs_bind (f := fun p => w₁.setProtocol p.1) (returning_runs
    (c := .redeem G.wrappedPunks punkIndex amount bidFine) (.inr rfl) rfl rfl) fun p => ?_
  obtain ⟨s', paybackAmount⟩ := p
  exact runs_bind (f := id) refundErc20_runs fun _ => .ofEq rfl

theorem redeemETH_runs : Returns (redeemETH G w sender msgValue punkIndex amount bidFine)
    (fun p => G.Runs sender w p.1) := by
  refine runs_bind (f := id) moveEther_runs fun _ => Returns.step fun _ _ => ?_
  refine runs_bind (f := Prod.fst) (World.redeemETH_runs.imp fun _ h => h.nested) fun p => ?_
  obtain ⟨w', paybackAmount⟩ := p
  exact runs_bind (f := id) refundUnused_runs fun _ => .ofEq rfl

theorem liquidate_runs : Returns (liquidate G w sender punkIndex amount)
    (fun p => G.Runs sender w p.1) := by
  refine Returns.step fun loan _ => Returns.check fun _ => ?_
  refine runs_bind (f := id) (runs_applyIf takeErc20_runs) fun w₁ => ?_
  refine runs_bind (f := fun p => w₁.setProtocol p.1) (returning_runs
    (c := .liquidate G.wrappedPunks punkIndex amount) (.inr rfl) rfl rfl) fun p => ?_
  obtain ⟨s', extraRetAmount⟩ := p
  refine runs_bind (f := id) _withdrawPunk_runs fun _ => ?_
  exact runs_bind (f := id) refundErc20_runs fun _ => .ofEq rfl

theorem liquidateETH_runs : Returns (liquidateETH G w sender msgValue punkIndex)
    (fun p => G.Runs sender w p.1) := by
  refine runs_bind (f := id) moveEther_runs fun _ => Returns.step fun loan _ => ?_
  refine Returns.check fun _ => runs_bind (f := Prod.fst)
    (World.liquidateETH_runs.imp fun _ h => h.nested) fun p => ?_
  obtain ⟨w', extraAmount⟩ := p
  refine runs_bind (f := id) _withdrawPunk_runs fun _ => ?_
  exact runs_bind (f := id) refundUnused_runs fun _ => .ofEq rfl

theorem buyout_runs : Returns (buyout G w sender punkIndex amount onBehalfOf)
    (G.Runs sender w) :=
  Returns.step fun _ _ => Returns.step fun _ _ => runs_bind (f := id) takeErc20_runs fun _ =>
    runs_bind (f := id) (call_runs (.inr rfl) rfl) fun _ => _withdrawPunk_runs

theorem buyoutETH_runs : Returns (buyoutETH G w sender msgValue punkIndex onBehalfOf)
    (G.Runs sender w) :=
  runs_bind (f := id) moveEther_runs fun _ => Returns.step fun _ _ => Returns.step fun _ _ =>
    runs_bind (f := id) (World.buyoutETH_runs.imp fun _ h => h.nested) fun _ => _withdrawPunk_runs

end PunkGateway

/-! ## Every call -/

section Calls

variable {D : Deployment} {G : Gateways D} {sender : Address} {w w' : World} {msgValue : ℕ}

theorem notPayable_runs {x : Except GatewayError World} (h : Returns x (G.Runs sender w)) :
    Returns (notPayable msgValue x) (G.Runs sender w) :=
  Returns.check fun _ => h

theorem toWorld_runs {α : Type} {x : Except GatewayError (World × α)}
    (h : Returns x fun p => G.Runs sender w p.1) : Returns (toWorld x) (G.Runs sender w) :=
  runs_bind (f := Prod.fst) h fun _ => .ofEq rfl

/-- **A call of `WETHGateway.sol`** is a run of the chain. -/
theorem EtherCall.execute_runs (c : EtherCall) :
    Returns (c.execute G w sender msgValue) (G.Runs sender w) := by
  cases c with
  | depositETH => exact World.depositETH_runs
  | withdrawETH => exact notPayable_runs World.withdrawETH_runs
  | borrowETH => exact notPayable_runs World.borrowETH_runs
  | repayETH => exact toWorld_runs World.repayETH_runs
  | auctionETH => exact World.auctionETH_runs
  | redeemETH => exact toWorld_runs World.redeemETH_runs
  | liquidateETH => exact toWorld_runs World.liquidateETH_runs
  | bidDebtETH => exact World.bidDebtETH_runs
  | buyDebtETH => exact World.buyDebtETH_runs
  | buyoutETH => exact World.buyoutETH_runs

/-- **And a call of `PunkGateway.sol`.** -/
theorem PunkCall.execute_runs (c : PunkCall) :
    Returns (c.execute G w sender msgValue) (G.Runs sender w) := by
  cases c with
  | borrow => exact notPayable_runs PunkGateway.borrow_runs
  | borrowETH => exact notPayable_runs PunkGateway.borrowETH_runs
  | repay => exact notPayable_runs (toWorld_runs PunkGateway._repay_runs)
  | repayETH => exact toWorld_runs PunkGateway.repayETH_runs
  | buyDebtPunk => exact notPayable_runs PunkGateway.buyDebtPunk_runs
  | buyDebtPunkETH => exact PunkGateway.buyDebtPunkETH_runs
  | auction => exact notPayable_runs PunkGateway.auction_runs
  | auctionETH => exact PunkGateway.auctionETH_runs
  | redeem => exact notPayable_runs (toWorld_runs PunkGateway.redeem_runs)
  | redeemETH => exact toWorld_runs PunkGateway.redeemETH_runs
  | liquidate => exact notPayable_runs (toWorld_runs PunkGateway.liquidate_runs)
  | liquidateETH => exact toWorld_runs PunkGateway.liquidateETH_runs
  | buyout => exact notPayable_runs PunkGateway.buyout_runs
  | buyoutETH => exact PunkGateway.buyoutETH_runs

/-- **A gateway has no rights of its own.** A call of either gateway that goes through is a run of
the chain in the name of the gateways, and none but the sender of the call and the gateways gives
any token, collateral or uToken away in it. -/
theorem gateway_call_runs_on_chain
    (hok : (∃ c : EtherCall, c.execute G w sender msgValue = .ok w') ∨
      ∃ c : PunkCall, c.execute G w sender msgValue = .ok w') :
    ReflTransGen (ChainStep D (G.Acts sender)) w.chain w'.chain := by
  rcases hok with ⟨c, hok⟩ | ⟨c, hok⟩
  · exact c.execute_runs.ok hok
  · exact c.execute_runs.ok hok

end Calls

/-! ## The chain with the gateways on it -/

/-- Whose tokens or uTokens an action moves, when it is not the account that acts. -/
def ChainAction.takesFrom {D : Deployment} : ChainAction D → Option Address
  | .protocol (.call _ _ c) => c.movesFrom
  | .uToken _ _ (.transferFrom _ src _ _) => some src
  | _ => none

/-- One of the two gateways. -/
def Gateways.IsGateway {D : Deployment} (G : Gateways D) (g : Address) : Prop :=
  g = G.wethGateway ∨ g = G.punkGateway

/-- One step of the world: a call of a gateway by an account that may make one, a step of the chain
of an allowed kind, or a change of what is around the chain. -/
inductive WorldStep {D : Deployment} (G : Gateways D) (allowed : Chain → ChainAction D → Prop)
    (calls : Address → Prop) (w w' : World) : Prop
  | ether (sender : Address) (msgValue : ℕ) (may : calls sender) (c : EtherCall)
      (h : c.execute G w sender msgValue = .ok w')
  | punk (sender : Address) (msgValue : ℕ) (may : calls sender) (c : PunkCall)
      (h : c.execute G w sender msgValue = .ok w')
  | chain (h : ChainStep D allowed w.chain w'.chain)
  | around (h : w'.chain = w.chain)

/-- The states of runs of the world: anything may happen in any order, as long as the rescuer spares
the escrow. -/
abbrev ReachableWorld {D : Deployment} (G : Gateways D) : World → Prop :=
  Machine.Reachable (fun w => ChainGenesis D w.chain) (WorldStep G sparing fun _ => True)

section Worlds

variable {D : Deployment} {G : Gateways D} {w w' : World} {c c' : Chain}
  {allowed allowed' : Chain → ChainAction D → Prop} {calls : Address → Prop} {u : Address}

/-- A step of the world is a run of the chain, if the gateways do in it what is allowed there. -/
theorem WorldStep.runs (h : WorldStep G allowed calls w w')
    (hmono : ∀ c action, allowed c action → allowed' c action)
    (hacts : ∀ sender, calls sender → ∀ c action, G.Acts sender c action → allowed' c action) :
    ReflTransGen (ChainStep D allowed') w.chain w'.chain := by
  have widen {p : Chain → ChainAction D → Prop} (hp : ∀ c action, p c action → allowed' c action)
      (hrun : ReflTransGen (ChainStep D p) w.chain w'.chain) :
      ReflTransGen (ChainStep D allowed') w.chain w'.chain := by
    refine ReflTransGen.mono (fun c c' hst => ?_) _ _ hrun
    obtain ⟨action, ha, hok⟩ := hst
    exact ⟨action, hp c action ha, hok⟩
  cases h with
  | ether sender msgValue may c h => exact widen (hacts sender may) (c.execute_runs.ok h)
  | punk sender msgValue may c h => exact widen (hacts sender may) (c.execute_runs.ok h)
  | chain h => exact widen hmono (.single h)
  | around h => rw [h]

theorem Gateways.Acts.sparing {sender : Address} {action : ChainAction D}
    (h : G.Acts sender c action) : sparing c action := by
  cases h <;> trivial

/-- **The world runs on the chain.** -/
theorem ReachableWorld.chain (hr : ReachableWorld G w) : ReachableChain D sparing w.chain :=
  Machine.Reachable.simulated (f := World.chain) (fun _ h => h) (fun _ _ _ hst =>
    hst.runs (fun _ _ ha => ha) fun _ _ _ _ ha => ha.sparing) hr

/-- **Nothing that the gateways do upsets the chain.** In every state of every run in which calls of
the two gateways, by anybody, come between those of the protocol and the uTokens, the books are in
order, the collateral is in custody, the escrow of the pool is there, and the balances of the
uTokens add up to their totals. -/
theorem world_in_order (hr : ReachableWorld G w) :
    Books D w.protocol ∧ Custody D w.protocol ∧ w.protocol.Escrows D ∧ w.chain.AddsUp := by
  have hsound := hr.chain.sound
  exact ⟨hsound.books, hsound.custody, hsound.books.poolSolvent, hr.chain.any.addsUp⟩

/-! ## Allowances of the gateways -/

/-- The rescuer spares the escrow, `u` does nothing, and the gateways are not made to take anything
from `u` but by a call of hers. -/
def Gateways.Without (G : Gateways D) (u : Address) (c : Chain) (action : ChainAction D) : Prop :=
  without u c action ∧ ∀ g, G.IsGateway g → action.isBy g → action.takesFrom ≠ some u

/-- What a gateway does for another account. -/
theorem Gateways.Acts.without {sender : Address} {action : ChainAction D} (hsender : sender ≠ u)
    (hu : ¬ G.IsGateway u) (h : G.Acts sender c action) : G.Without u c action := by
  have hpays {src : Address} (hsrc : G.Pays sender src) : src ≠ u := by
    rintro rfl
    exact hsrc.elim (fun heq => hsender heq.symm) hu
  refine ⟨⟨h.sparing, fun hby => ?_⟩, fun g _ _ htakes => ?_⟩
  · -- the gateways act in it, or nobody
    cases h with
    | call gateway outside call own pays => exact hu (hby ▸ own)
    | unwrapPunk | takeUTokens => exact hu (by cases hby; simp [Gateways.IsGateway])
    | wrap | wrapPunk => exact hby
  · cases h with
    | call gateway outside call own pays => exact hpays (pays u htakes) rfl
    | takeUTokens outside asset src amount pays => exact hpays pays (Option.some.inj htakes)
    | wrap | wrapPunk | unwrapPunk => cases htakes

/-- An allowance goes down only when the spender takes from the owner, and changes otherwise only
when the owner acts. -/
theorem Chain.execute_allowance {r g : Address} {action : ChainAction D} (hby : ¬ action.isBy u)
    (hg : action.isBy g → action.takesFrom ≠ some u) :
    Returns (c.execute D action)
      (fun c' => c'.uTokenAllowance r u g = c.uTokenAllowance r u g) := by
  cases action with
  | uToken sender outside call =>
    have hother {asset spender : Address} {amount : ℕ} :
        (c.setUTokenAllowance asset sender spender amount).uTokenAllowance r u g
          = c.uTokenAllowance r u g := by
      rw [setUTokenAllowance_apply, if_neg fun hk => hby hk.2.1.symm]
    refine Returns.check fun _ => ?_
    cases call with
    | transfer asset dst amount => exact ofProtocol_returns (transferUToken_sent.imp fun _ _ => rfl)
    | transferFrom asset src dst amount =>
      refine Returns.step fun c₁ h₁ => Returns.check fun _ => ?_
      obtain ⟨s₁, -, rfl⟩ := ofProtocol_eq_ok.mp h₁
      have hk : ¬ (r = asset ∧ u = src ∧ g = sender) := by
        rintro ⟨-, rfl, rfl⟩
        exact hg rfl rfl
      exact (setUTokenAllowance_apply r u g).trans (if_neg hk)
    | approve asset spender amount => exact Returns.check fun _ => hother
    | increaseAllowance | decreaseAllowance =>
      exact Returns.check fun _ => Returns.check fun _ => hother
  | rescueUToken asset dst amount =>
    exact Returns.check fun _ => ofProtocol_returns (transferUToken_sent.imp fun _ _ => rfl)
  | protocol action => exact ofProtocol_returns ((Sat.returned _).imp fun _ _ => rfl)
  | sweepUToken asset =>
    exact Returns.check fun _ => ofProtocol_returns ((Sat.returned _).imp fun _ _ => rfl)
  | rescue | rescueNFT => exact ofProtocol_returns ((Sat.returned _).imp fun _ _ => rfl)
  | burnNft => exact Returns.step fun _ _ => rfl

/-- **What is allowed to a gateway is there for the owner alone.** Over every run of the world in
which a holder makes no call, neither of the protocol and the uTokens nor of a gateway, whoever else
calls the gateways in it, the allowances that she gave to the gateways stay as they are, and what
she loses is covered by what her other allowances are lower by. -/
theorem gateways_take_from_callers_only {r : Address} {X : Finset Address}
    (hr : ReachableWorld G w) (hu : ¬ G.IsGateway u)
    (hX : ∀ x ∉ X, w.uTokenAllowance r u x = 0)
    (hrun : ReflTransGen (WorldStep G (G.Without u) (· ≠ u)) w w') :
    (∀ g, G.IsGateway g → w'.uTokenAllowance r u g = w.uTokenAllowance r u g) ∧
    (w.protocol.uTokens r).scaledBalanceOf u + ∑ x ∈ X, w'.uTokenAllowance r u x
      ≤ (w'.protocol.uTokens r).scaledBalanceOf u + ∑ x ∈ X, w.uTokenAllowance r u x := by
  have honchain : ReflTransGen (ChainStep D (G.Without u)) w.chain w'.chain := by
    refine ReflTransGen.lift' World.chain (fun _ _ hst => ?_) _ _ hrun
    exact hst.runs (fun _ _ ha => ha) fun sender hsender _ _ ha => ha.without hsender hu
  constructor
  · intro g hg
    change w'.chain.uTokenAllowance r u g = w.chain.uTokenAllowance r u g
    generalize w'.chain = c' at honchain
    induction honchain with
    | refl => rfl
    | tail _ hst ih =>
      obtain ⟨action, ⟨⟨-, hby⟩, hgateways⟩, hok⟩ := hst
      exact ((Chain.execute_allowance hby (hgateways g hg)).ok hok).trans ih
  · have hwithout : ReflTransGen (ChainStep D (without u)) w.chain w'.chain := by
      refine ReflTransGen.mono (fun c c' hst => ?_) _ _ honchain
      obtain ⟨action, ha, hok⟩ := hst
      exact ⟨action, ha.1, hok⟩
    exact (hr.chain.holder hX hwithout).2.balance

end Worlds

/-! ## The larger deployment -/

/-- Every state of the chain is one of the world, with anything around it. -/
theorem ReachableChain.world {D : Deployment} {G : Gateways D} {c : Chain}
    (hr : ReachableChain D sparing c) {w : World} (hw : w.chain = c) : ReachableWorld G w := by
  induction hr generalizing w with
  | start g =>
    subst hw
    exact .start g
  | @next c c' _ hst ih =>
    subst hw
    refine .next (ih (w := { w with protocol := c.protocol, uTokenAllowance := c.uTokenAllowance })
      rfl) (.chain hst)

/-- The world of the larger deployment, in which the supplier has let user 104 and the gateway take
uTokens. -/
def World.largerApproved : World :=
  let c := Chain.largerApproved.setUTokenAllowance 10 101 110 (50 * WAD)
  { World.around c.protocol with uTokenAllowance := c.uTokenAllowance }

theorem World.largerApproved_reachable : ReachableWorld .larger .largerApproved := by
  refine ReachableChain.world (Machine.Reachable.next Chain.largerApproved_reachable
    ⟨.uToken 101 Deployment.larger_supplier (.approve 10 110 (50 * WAD)), trivial, ?_⟩) rfl
  exact require_bind_eq_ok.mpr ⟨by decide +kernel, require_bind_eq_ok.mpr ⟨by decide, rfl⟩⟩

/-- User 104 deposits five ether. -/
theorem World.largerApproved_deposit : ∃ w',
    (EtherCall.depositETH 104).execute .larger World.largerApproved 104 (5 * WAD) = .ok w' :=
  exists_ok_of_raised (by decide +kernel)

theorem gateway_call_runs_on_chain_sample : ∃ w',
    (EtherCall.depositETH 104).execute .larger World.largerApproved 104 (5 * WAD) = .ok w' ∧
    ReflTransGen (ChainStep .larger (Gateways.larger.Acts 104)) World.largerApproved.chain
      w'.chain := by
  obtain ⟨w', hok⟩ := World.largerApproved_deposit
  exact ⟨w', hok, gateway_call_runs_on_chain (.inl ⟨_, hok⟩)⟩

theorem world_in_order_sample : ∃ w',
    (EtherCall.depositETH 104).execute .larger World.largerApproved 104 (5 * WAD) = .ok w' ∧
    Books .larger w'.protocol ∧ Custody .larger w'.protocol ∧ w'.protocol.Escrows .larger ∧
    w'.chain.AddsUp := by
  obtain ⟨w', hok⟩ := World.largerApproved_deposit
  have hr : ReachableWorld .larger w' :=
    .next World.largerApproved_reachable (.ether 104 (5 * WAD) trivial _ hok)
  exact ⟨w', hok, world_in_order hr⟩

/-- The supplier keeps what she has, and what the gateway may take of it. -/
theorem gateways_take_from_callers_only_sample : ∃ w',
    (EtherCall.depositETH 104).execute .larger World.largerApproved 104 (5 * WAD) = .ok w' ∧
    (∀ g, Gateways.larger.IsGateway g →
      w'.uTokenAllowance 10 101 g = World.largerApproved.uTokenAllowance 10 101 g) ∧
    (World.largerApproved.protocol.uTokens 10).scaledBalanceOf 101
        + ∑ x ∈ {104, 110}, w'.uTokenAllowance 10 101 x
      ≤ (w'.protocol.uTokens 10).scaledBalanceOf 101
        + ∑ x ∈ {104, 110}, World.largerApproved.uTokenAllowance 10 101 x := by
  obtain ⟨w', hok⟩ := World.largerApproved_deposit
  have hother : ¬ Gateways.larger.IsGateway 101 := by
    rintro (h | h) <;> exact absurd h (by decide)
  refine ⟨w', hok, gateways_take_from_callers_only World.largerApproved_reachable hother
    (fun x hx => ?_) (.single (.ether 104 (5 * WAD) (by decide) _ hok))⟩
  simp only [Finset.mem_insert, Finset.mem_singleton, not_or] at hx
  show (Chain.largerApproved.setUTokenAllowance 10 101 110 (50 * WAD)).uTokenAllowance 10 101 x = 0
  simp [Chain.largerApproved, Chain.setUTokenAllowance_apply, hx.1, hx.2, Chain.larger]

end Unlockd
