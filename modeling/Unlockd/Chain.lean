/-
The protocol with its uTokens as the tokens they are.

A uToken is an ERC20 token (`UToken.sol`, `IncentivizedERC20.sol`): its holders send it, approve
spenders and spend what they have been allowed, and the amounts of all this are read at the income
of the reserve. With it come the calls that only an office of the protocol may make on a token: the
administration sweeps what lies idle in a uToken into the vault, and the rescuer takes out what
has been sent to the pool. `Chain` puts all of it beside the calls of the protocol, as one machine.
-/
import Unlockd.Supplies
import Unlockd.Custody
import Unlockd.GatewayAccounts

set_option autoImplicit false

namespace Unlockd

open Outcome Tally FixedPoint Machine

/-! ## The uTokens as tokens -/

/-- The protocol, and what the holders of uTokens have allowed: by reserve, owner and spender. -/
structure Chain where
  protocol : State
  uTokenAllowance : Address → Address → Address → ℕ

/-- What a call reverts with: an error of the protocol, or one of the uTokens. -/
inductive ChainError
  | reverted (e : Error)
  | noSuchToken | approveToTheZeroAddress | overflow
  | transferAmountExceedsAllowance | decreasedAllowanceBelowZero
  | nonexistentToken | callerIsNotOwnerNorApproved
  deriving DecidableEq, Repr

/-- The calls of a uToken that are open to every account. -/
inductive UTokenCall
  | transfer (asset dst : Address) (amount : ℕ)
  | transferFrom (asset src dst : Address) (amount : ℕ)
  | approve (asset spender : Address) (amount : ℕ)
  | increaseAllowance (asset spender : Address) (addedValue : ℕ)
  | decreaseAllowance (asset spender : Address) (subtractedValue : ℕ)

/-- The reserve of the uToken that is called. -/
def UTokenCall.asset : UTokenCall → Address
  | transfer asset .. | transferFrom asset .. | approve asset .. | increaseAllowance asset ..
  | decreaseAllowance asset .. => asset

namespace Chain

variable (D : Deployment) (c : Chain)

/-- An operation of the protocol as one of the chain. -/
def ofProtocol : Except Error State → Except ChainError Chain
  | .ok s => .ok { c with protocol := s }
  | .error e => .error (.reverted e)

/-- What `owner` allows `spender`. -/
def setUTokenAllowance (asset owner spender : Address) (amount : ℕ) : Chain :=
  let allowance := update₂ (c.uTokenAllowance asset) owner spender amount
  { c with uTokenAllowance := Function.update c.uTokenAllowance asset allowance }

/-- `_approve` of `ERC20Upgradeable.sol`, for an owner that calls. -/
def _approve (asset owner spender : Address) (amount : ℕ) : Except ChainError Chain := do
  require (spender ≠ 0) ChainError.approveToTheZeroAddress
  return c.setUTokenAllowance asset owner spender amount

/-- `transferFrom` of a uToken: the tokens move before the allowance is looked at. -/
def transferFrom (asset caller src dst : Address) (amount : ℕ) : Except ChainError Chain := do
  let c ← c.ofProtocol (c.protocol.transferUToken asset src dst amount)
  require (amount ≤ c.uTokenAllowance asset src caller) ChainError.transferAmountExceedsAllowance
  return c.setUTokenAllowance asset src caller (c.uTokenAllowance asset src caller - amount)

/-- What a call of a uToken by `sender` does. -/
def performUToken (sender : Address) (call : UTokenCall) : Except ChainError Chain := do
  require ((c.protocol.lendPool.reserves call.asset).uTokenAddress ≠ 0) ChainError.noSuchToken
  match call with
  | .transfer asset dst amount => c.ofProtocol (c.protocol.transferUToken asset sender dst amount)
  | .transferFrom asset src dst amount => c.transferFrom asset sender src dst amount
  | .approve asset spender amount => c._approve asset sender spender amount
  | .increaseAllowance asset spender addedValue => do
      require (c.uTokenAllowance asset sender spender + addedValue ≤ maxUint256)
        ChainError.overflow
      c._approve asset sender spender (c.uTokenAllowance asset sender spender + addedValue)
  | .decreaseAllowance asset spender subtractedValue => do
      require (subtractedValue ≤ c.uTokenAllowance asset sender spender)
        ChainError.decreasedAllowanceBelowZero
      c._approve asset sender spender (c.uTokenAllowance asset sender spender - subtractedValue)

end Chain

/-! ## The offices -/

namespace State

variable (D : Deployment) (s : State)

/-- `LendingLogic.executeDepositYearn`, run by a uToken: only WETH goes to the vault. -/
def executeDepositYearn (asset uToken : Address) (amount : ℕ) : Except Error State :=
  applyIf (asset = D.weth) (fun s => do
    let e ← (s.erc20 asset).safeApprove uToken D.yVaultWETH amount
    (s.setErc20 asset e).vaultDeposit D uToken amount) s

/-- `UToken.sweepUToken`: all that the uToken has of its asset. -/
def sweepUToken (asset : Address) : Except Error State :=
  let uToken := (s.lendPool.reserves asset).uTokenAddress
  s.executeDepositYearn D asset uToken ((s.erc20 asset).balanceOf uToken)

/-- `LendPool.rescue`, of tokens. -/
def rescue (token dst : Address) (amount : ℕ) : Except Error State :=
  s.safeTransfer token D.lendPool dst amount

/-- `LendPool.rescueNFT`. -/
def rescueNFT (nftAsset : Address) (tokenId : ℕ) (dst : Address) : Except Error State :=
  s.safeTransferNft D nftAsset D.lendPool D.lendPool dst tokenId

/-- `burn` of a collection whose tokens can be burnt, called by `caller`. -/
def burnErc721 (nftAsset caller : Address) (tokenId : ℕ) : Except ChainError State := do
  let c := s.erc721 nftAsset
  require (c.ownerOf tokenId ≠ 0) ChainError.nonexistentToken
  require (c.isApprovedOrOwner caller tokenId) ChainError.callerIsNotOwnerNorApproved
  return s.setErc721 nftAsset { c with
    ownerOf := Function.update c.ownerOf tokenId 0
    approved := Function.update c.approved tokenId 0 }

end State

/-! ## The machine -/

/-- One step of the chain. -/
inductive ChainAction (D : Deployment)
  | protocol (action : Action D)
  | uToken (sender : Address) (outside : D.isUser sender) (call : UTokenCall)
  | sweepUToken (asset : Address)
  | rescue (token dst : Address) (amount : ℕ)
  | rescueUToken (asset dst : Address) (amount : ℕ)
  | rescueNFT (nftAsset : Address) (tokenId : ℕ) (dst : Address)
  | burnNft (sender : Address) (outside : D.isUser sender) (nftAsset : Address) (tokenId : ℕ)

/-- What a step does. -/
def Chain.execute (D : Deployment) (c : Chain) : ChainAction D → Except ChainError Chain
  | .protocol action => c.ofProtocol (c.protocol.execute D action)
  | .uToken sender _ call => c.performUToken sender call
  | .sweepUToken asset => do
      require ((c.protocol.lendPool.reserves asset).uTokenAddress ≠ 0) ChainError.noSuchToken
      c.ofProtocol (c.protocol.sweepUToken D asset)
  | .rescue token dst amount => c.ofProtocol (c.protocol.rescue D token dst amount)
  -- the same function, for a token that is a uToken
  | .rescueUToken asset dst amount => c.performUToken D.lendPool (.transfer asset dst amount)
  | .rescueNFT nftAsset tokenId dst => c.ofProtocol (c.protocol.rescueNFT D nftAsset tokenId dst)
  | .burnNft sender _ nftAsset tokenId => do
      let s ← c.protocol.burnErc721 nftAsset sender tokenId
      return { c with protocol := s }

/-- One step with an action that is allowed. -/
def ChainStep (D : Deployment) (allowed : Chain → ChainAction D → Prop) (c c' : Chain) : Prop :=
  ∃ a, allowed c a ∧ c.execute D a = .ok c'

/-- A chain on which nothing has happened: no collection is set up, nobody has uTokens, and nobody
has allowed any. -/
structure ChainGenesis (D : Deployment) (c : Chain) : Prop where
  genesis : Genesis D c.protocol
  untouched : UntouchedCollateral D c.protocol
  supplies : ∀ r, (c.protocol.uTokens r).scaledTotalSupply = 0 ∧
    ∀ u, (c.protocol.uTokens r).scaledBalanceOf u = 0
  allowances : ∀ r u x, c.uTokenAllowance r u x = 0

/-- The states of runs of the chain. -/
abbrev ReachableChain (D : Deployment) (allowed : Chain → ChainAction D → Prop) : Chain → Prop :=
  Machine.Reachable (ChainGenesis D) (ChainStep D allowed)

/-- Every action is allowed. -/
def anyChainAction (D : Deployment) (_ : Chain) (_ : ChainAction D) : Prop := True

/-- What the pool has in escrow of one reserve: the standing bids on its loans. -/
def State.escrowed (s : State) (r : Address) : ℕ :=
  s.lendPoolLoan.registry.total (LoanData.escrow r)

/-- The rescuer takes no more than what is not in escrow. -/
def sparing {D : Deployment} (c : Chain) : ChainAction D → Prop
  | .rescue token dst amount => dst = D.lendPool ∨
      c.protocol.escrowed token + amount ≤ (c.protocol.erc20 token).balanceOf D.lendPool
  | _ => True

/-! ## What a step does -/

/-- The income that balances are read at is no smaller than the index. -/
theorem ReserveData.liquidityIndex_le_income {R : ReserveData} {now income : ℕ}
    (h : R.getNormalizedIncome now = .ok income) : R.liquidityIndex ≤ income := by
  unfold ReserveData.getNormalizedIncome at h
  split at h
  · exact (Except.ok.inj h).le
  · obtain ⟨f, hf, h⟩ := bind_eq_ok.mp h
    rw [rayMul_spec h]
    exact le_divHalfUp_mul RAY_pos (RAY_le_linear hf) _

namespace Chain

variable {D : Deployment} {c c' : Chain} {asset owner spender sender src dst : Address}
  {amount : ℕ}

theorem ofProtocol_eq_ok {x : Except Error State} :
    c.ofProtocol x = .ok c' ↔ ∃ s, x = .ok s ∧ c' = { c with protocol := s } := by
  cases x with
  | ok s =>
    constructor
    · intro h
      exact ⟨s, rfl, (Except.ok.inj h).symm⟩
    · rintro ⟨s', hs', rfl⟩
      rw [Except.ok.inj hs']
      rfl
  | error e => exact ⟨nofun, fun ⟨_, h, _⟩ => nomatch h⟩

theorem ofProtocol_returns {x : Except Error State} {P : Chain → Prop}
    (h : Returns x fun s => P { c with protocol := s }) : Returns (c.ofProtocol x) P := by
  cases x with
  | ok s => exact h
  | error e => trivial

@[simp] theorem setUTokenAllowance_protocol :
    (c.setUTokenAllowance asset owner spender amount).protocol = c.protocol := rfl

theorem setUTokenAllowance_apply (r u x : Address) :
    (c.setUTokenAllowance asset owner spender amount).uTokenAllowance r u x
      = if r = asset ∧ u = owner ∧ x = spender then amount else c.uTokenAllowance r u x := by
  by_cases hr : r = asset
  · subst hr
    simp [setUTokenAllowance, update₂_apply]
  · simp [setUTokenAllowance, hr]

/-- A transfer moves what the amount scales down to at the income of the reserve. -/
def Sent (s s' : State) (asset src dst : Address) (amount : ℕ) : Prop :=
  ∃ income n u, (s.lendPool.reserves asset).getNormalizedIncome s.blockTimestamp = .ok income ∧
    rayDiv amount income = .ok n ∧ (s.uTokens asset)._transfer src dst n = .ok u ∧
    s' = s.setUToken asset u

theorem transferUToken_sent {s : State} :
    Returns (s.transferUToken asset src dst amount) (fun s' => Sent s s' asset src dst amount) := by
  refine Returns.step fun income hincome => Returns.step fun _ _ => Returns.step fun _ _ => ?_
  refine Returns.step fun n hn => Returns.step fun u hu => Returns.check fun _ => ?_
  exact ⟨income, n, u, hincome, hn, hu, rfl⟩

theorem Sent.frame {s s' : State} (h : Sent s s' asset src dst amount) :
    ∃ u, s' = s.setUToken asset u := by
  obtain ⟨income, n, u, -, -, -, rfl⟩ := h
  exact ⟨u, rfl⟩

/-- What a call of a uToken does: tokens are sent, by their owner or by a spender whose allowance
goes down by as much, or the caller changes an allowance. -/
inductive UTokenStep (c : Chain) (sender : Address) (c' : Chain) : Prop
  | sent (asset dst : Address) (amount : ℕ)
      (h : Sent c.protocol c'.protocol asset sender dst amount)
      (initialised : (c.protocol.lendPool.reserves asset).uTokenAddress ≠ 0)
      (kept : c'.uTokenAllowance = c.uTokenAllowance)
  | spent (asset src dst : Address) (amount : ℕ)
      (h : Sent c.protocol c'.protocol asset src dst amount)
      (initialised : (c.protocol.lendPool.reserves asset).uTokenAddress ≠ 0)
      (allowed : amount ≤ c.uTokenAllowance asset src sender)
      (spent : c'.uTokenAllowance = (c.setUTokenAllowance asset src sender
        (c.uTokenAllowance asset src sender - amount)).uTokenAllowance)
  | approved (asset spender : Address) (amount : ℕ)
      (h : c' = c.setUTokenAllowance asset sender spender amount)

/-- **Every call of a uToken.** -/
theorem performUToken_step (call : UTokenCall) :
    Returns (c.performUToken sender call) (c.UTokenStep sender) := by
  refine Returns.check fun hinit => ?_
  cases call with
  | transfer asset dst amount =>
    exact ofProtocol_returns (transferUToken_sent.imp fun s' hs' =>
      .sent asset dst amount hs' hinit rfl)
  | transferFrom asset src dst amount =>
    refine Returns.step fun c₁ h₁ => Returns.check fun hle => ?_
    obtain ⟨s₁, hs₁, rfl⟩ := ofProtocol_eq_ok.mp h₁
    exact .spent asset src dst amount (transferUToken_sent.ok hs₁) hinit hle rfl
  | approve asset spender amount =>
    exact Returns.check fun _ => .approved asset spender amount rfl
  | increaseAllowance asset spender addedValue =>
    exact Returns.check fun _ => Returns.check fun _ => .approved asset spender _ rfl
  | decreaseAllowance asset spender subtractedValue =>
    exact Returns.check fun _ => Returns.check fun _ => .approved asset spender _ rfl

/-- The uTokens are all that it changes in the protocol. -/
theorem UTokenStep.frame (h : c.UTokenStep sender c') :
    ∃ asset u, c'.protocol = c.protocol.setUToken asset u := by
  cases h with
  | sent asset dst amount h => exact ⟨asset, h.frame⟩
  | spent asset src dst amount h => exact ⟨asset, h.frame⟩
  | approved asset spender amount h =>
    exact ⟨asset, c.protocol.uTokens asset, by rw [h]; exact (State.setUToken_self _ _).symm⟩

/-- What is sent is lost by the sender alone. -/
theorem Sent.kept {s s' : State} (h : Sent s s' asset src dst amount) (r : Address) :
    UToken.Kept (fun a => ¬ (r = asset ∧ a = src)) (s.uTokens r) (s'.uTokens r) := by
  obtain ⟨income, n, u, -, -, hu, rfl⟩ := h
  show UToken.Kept _ _ (Function.update s.uTokens asset u r)
  by_cases hr : r = asset
  · subst hr
    rw [Function.update_self]
    have hk := UToken._transfer_kept.ok hu
    exact ⟨hk.adds, fun a ha => hk.spares a fun heq => ha ⟨rfl, heq⟩⟩
  · rw [Function.update_of_ne hr]
    exact .refl _

/-- And it is no more than the amount, at an income of at least one ray. -/
theorem Sent.le_add {s s' : State} (h : Sent s s' asset src dst amount)
    (hray : RAY ≤ (s.lendPool.reserves asset).liquidityIndex) :
    (s.uTokens asset).scaledBalanceOf src ≤ (s'.uTokens asset).scaledBalanceOf src + amount := by
  obtain ⟨income, n, u, hincome, hn, hu, rfl⟩ := h
  have hrayIncome : RAY ≤ income := hray.trans (ReserveData.liquidityIndex_le_income hincome)
  have hle : n ≤ amount := by
    rw [(rayDiv_spec hn).2]
    calc divHalfUp (amount * RAY) income ≤ divHalfUp (amount * RAY) RAY :=
          divHalfUp_anti _ RAY_pos hrayIncome
      _ = amount := divHalfUp_mul_self _ RAY_pos
  obtain ⟨-, hu⟩ := require_bind_eq_ok.mp hu
  obtain ⟨hcovered, hu⟩ := require_bind_eq_ok.mp hu
  obtain rfl := Except.ok.inj hu
  show _ ≤ (Function.update s.uTokens asset _ asset).scaledBalanceOf src + amount
  rw [Function.update_self]
  have hcredit := le_credit (Function.update (s.uTokens asset).scaledBalanceOf src
    ((s.uTokens asset).scaledBalanceOf src - n)) dst n src
  rw [Function.update_self] at hcredit
  exact (Nat.sub_le_iff_le_add.mp (Nat.sub_le_sub_left hle _)).trans
    (Nat.add_le_add_right hcredit _)

/-- A sweep pays into the vault, and nobody but the uToken pays. -/
theorem sweepUToken_returns {s : State} :
    Returns (s.sweepUToken D asset) (fun s' => ∃ E v, s' = (s.withErc20 E).withYVault v ∧
      ∀ h, h ≠ (s.lendPool.reserves asset).uTokenAddress → Flow h s.erc20 E 0 0) := by
  unfold State.sweepUToken State.executeDepositYearn
  refine Sat.applyIf (fun _ => ?_) fun _ => ⟨s.erc20, s.yVault, rfl, fun h _ => .refl h _⟩
  refine Returns.step fun e he => ?_
  obtain ⟨-, he⟩ := require_bind_eq_ok.mp he
  obtain rfl := Except.ok.inj he
  refine Sat.bind State.safeTransferFrom_spec.returns fun s₁ h₁ => ?_
  obtain ⟨E, rfl, hpaid, -⟩ := h₁
  exact ⟨E, _, rfl, fun h hne => (State.flow_setAllowance hne).idleAnd (hpaid.others hne)⟩

end Chain

/-! ## Runs -/

/-- **The chain is in order**: the books are, and the tokens are in custody. -/
structure Chain.Sound (D : Deployment) (c : Chain) : Prop where
  books : Books D c.protocol
  custody : Custody D c.protocol

section Runs

variable {D : Deployment} {c c' : Chain}

theorem ChainGenesis.sound (g : ChainGenesis D c) : c.Sound D where
  books := g.genesis.books
  custody := g.genesis.custody g.untouched

/-- The books do not look at the vault or at the tokens of others. -/
theorem Books.withPayments {s : State} (h : Books D s) {E : Address → Erc20} {v : YVault}
    (hp : Flow D.lendPool s.erc20 E 0 0) (hm : Flow D.debtMarket s.erc20 E 0 0) :
    Books D ((s.withErc20 E).withYVault v) := by
  have hd : Conducted D s ((s.withErc20 E).withYVault v) none none none none :=
    conducted_of_tokens h rfl rfl rfl rfl rfl (fun _ _ => rfl) hp hm
  exact hd.toEffect.books h

/-- The escrow of the pool is there. -/
def State.Escrows (D : Deployment) (s : State) : Prop :=
  ∀ r, s.escrowed r ≤ (s.erc20 r).balanceOf D.lendPool

/-- **What a rescue does to the books**: they are in order after it just when the escrow is there,
and that is when the rescuer spared it. -/
theorem State.rescue_books {s : State} (h : Books D s) {token dst : Address} {amount : ℕ} :
    Returns (s.rescue D token dst amount) (fun s' => s'.erc721 = s.erc721 ∧ s'.uNfts = s.uNfts ∧
      s'.lendPool = s.lendPool ∧ (s'.Escrows D → Books D s') ∧
      (s'.Escrows D ↔ dst = D.lendPool ∨
        s.escrowed token + amount ≤ (s.erc20 token).balanceOf D.lendPool)) := by
  refine State.safeTransfer_spec.returns.imp fun s' hs' => ?_
  obtain ⟨E, rfl, hpaid⟩ := hs'
  obtain ⟨hothers, hmoved⟩ := hpaid
  have hmarket : Flow D.debtMarket s.erc20 E 0 0 :=
    State.Paid.others ⟨hothers, hmoved⟩ D.lendPool_ne_debtMarket.symm
  have hbalance := hmoved.balance D.lendPool
  rw [if_pos rfl] at hbalance
  refine ⟨rfl, rfl, rfl, fun hescrows => ?_, fun hescrows => ?_, fun hspared r => ?_⟩
  · refine ⟨h.loans, h.listings, h.matched, h.receipts, h.indices, h.stamps, h.proxies, hescrows,
      fun r => ?_, fun r c => ?_, fun r c => ?_⟩
    · exact (h.marketSolvent r).trans (hmarket.le r)
    · by_cases hr : r = token
      · subst hr
        exact Nat.le_zero.mp ((hmoved.allowance _ _).trans (h.poolGuarded r c).le)
      · show (E r).allowance _ _ = 0
        rw [hothers r hr]
        exact h.poolGuarded r c
    · exact Nat.le_zero.mp ((hmarket.allowance r c).trans (h.marketGuarded r c).le)
  · by_cases hdst : dst = D.lendPool
    · exact .inl hdst
    · rw [if_neg (Ne.symm hdst)] at hbalance
      have hle : s.escrowed token ≤ (E token).balanceOf D.lendPool := hescrows token
      exact .inr (by omega)
  · show s.escrowed r ≤ (E r).balanceOf D.lendPool
    by_cases hr : r = token
    · subst hr
      have hsolvent : s.escrowed r ≤ (s.erc20 r).balanceOf D.lendPool := h.poolSolvent r
      rcases hspared with rfl | hle
      · rw [if_pos rfl] at hbalance
        omega
      · have hnone := Nat.zero_le (if D.lendPool = dst then amount else 0)
        omega
    · rw [hothers r hr]
      exact h.poolSolvent r

/-- **Every step keeps the chain in order**, provided that the rescuer leaves what is in escrow. -/
theorem Chain.Sound.execute (h : c.Sound D) {action : ChainAction D} (ha : sparing c action) :
    Returns (c.execute D action) (Chain.Sound D) := by
  have ofUToken {sender : Address} {c' : Chain} (hc' : c.UTokenStep sender c') : c'.Sound D := by
    obtain ⟨asset, u, hu⟩ := hc'.frame
    constructor
    · rw [hu]
      exact h.books.setUToken asset u
    · rw [hu]
      exact h.custody.ofEq rfl rfl rfl
  cases action with
  | protocol action =>
    refine Chain.ofProtocol_returns ((Sat.returned _).imp fun s' hs' => ?_)
    obtain ⟨_, _, _, _, hstepped⟩ := execute_stepped h.books hs'
    exact ⟨hstepped.books, ((execute_custody h.books h.custody action).ok hs').custody⟩
  | uToken sender outside call => exact (Chain.performUToken_step call).imp fun _ => ofUToken
  | rescueUToken asset dst amount => exact (Chain.performUToken_step _).imp fun _ => ofUToken
  | sweepUToken asset =>
    refine Returns.check fun hinit => Chain.ofProtocol_returns ?_
    have hproxy := h.books.proxies asset hinit
    refine Chain.sweepUToken_returns.imp fun s' hs' => ?_
    obtain ⟨E, v, rfl, hothers⟩ := hs'
    exact ⟨h.books.withPayments (hothers _ (State.isProxy_ne_lendPool hproxy).symm)
      (hothers _ (State.isProxy_ne_debtMarket hproxy).symm), h.custody.ofEq rfl rfl rfl⟩
  | rescue token dst amount =>
    refine Chain.ofProtocol_returns ((State.rescue_books h.books).imp fun s' hs' => ?_)
    obtain ⟨hC, hN, hpool, hbooks, hiff⟩ := hs'
    exact ⟨hbooks (hiff.mpr ha), h.custody.ofEq hC hN (by rw [hpool])⟩
  | rescueNFT nftAsset tokenId dst =>
    refine Chain.ofProtocol_returns ?_
    refine (State.safeTransferNft_custody h.custody (.inl D.proxy_ne_lendPool)).imp
      fun s' hs' => ?_
    obtain ⟨hc, -, -, rfl⟩ := hs'
    exact ⟨h.books.withErc721 _, hc⟩
  | burnNft sender outside nftAsset tokenId =>
    refine Returns.step fun s' hs' => ?_
    obtain ⟨hexists, hs'⟩ := require_bind_eq_ok.mp hs'
    obtain ⟨hmay, hs'⟩ := require_bind_eq_ok.mp hs'
    obtain rfl := Except.ok.inj hs'
    have hother : ∀ t, (c.protocol.uNfts nftAsset).owner t ≠ 0 → t ≠ tokenId := by
      rintro t ht rfl
      exact outside.2 (h.custody.mover ht outside.1 hmay)
    refine ⟨h.books.withErc721 _, h.custody.outside (fun t ht => ?_) fun x y _ hxy => .inr hxy⟩
    exact ⟨Function.update_of_ne (hother t ht) _ _, Function.update_of_ne (hother t ht) _ _⟩

theorem ReachableChain.sound (hr : ReachableChain D sparing c) : c.Sound D := by
  refine Machine.Reachable.invariant (fun _ hc => hc.sound) (fun _ _ _ h hst => ?_) hr
  obtain ⟨action, ha, hc'⟩ := hst
  exact (h.execute ha).ok hc'

/-- The same step, with the action it takes. -/
def ChainTaken (D : Deployment) (allowed : Chain → ChainAction D → Prop) (c : Chain)
    (action : ChainAction D) (c' : Chain) : Prop :=
  allowed c action ∧ c.execute D action = .ok c'

/-- A step from a chain in order keeps the escrow of the pool just when it is sparing. -/
theorem Chain.Sound.escrows_iff (h : c.Sound D) {action : ChainAction D}
    (hok : c.execute D action = .ok c') : c'.protocol.Escrows D ↔ sparing c action := by
  refine ⟨fun hescrows => ?_, fun ha => ((h.execute ha).ok hok).books.poolSolvent⟩
  cases action with
  | rescue token dst amount =>
    obtain ⟨s', hs', rfl⟩ := Chain.ofProtocol_eq_ok.mp hok
    obtain ⟨-, -, -, -, hiff⟩ := (State.rescue_books h.books).ok hs'
    exact hiff.mp hescrows
  | _ => trivial

/-- **The escrow and the rescuer.** Over a history of the chain, whatever is done in it and in
whatever order, the pool has the bids it holds in escrow after every step if and only if every
rescue took no more than what was not in escrow. -/
theorem escrow_there_iff_rescues_spare {c₀ : Chain} {log : List (Entry Chain (ChainAction D))}
    (g : ChainGenesis D c₀) (h : History (ChainTaken D (anyChainAction D)) c₀ log c) :
    (∀ e ∈ log, e.after.protocol.Escrows D) ↔ ∀ e ∈ log, sparing e.before e.action := by
  have hsound : ((∀ e ∈ log, e.after.protocol.Escrows D) ↔ ∀ e ∈ log, sparing e.before e.action) ∧
      ((∀ e ∈ log, e.after.protocol.Escrows D) → c.Sound D) := by
    induction h with
    | start => exact ⟨by simp, fun _ => g.sound⟩
    | next hr hst ih =>
      obtain ⟨-, hok⟩ := hst
      obtain ⟨hiff, hlast⟩ := ih
      simp only [List.forall_mem_cons]
      constructor
      · constructor
        · rintro ⟨hafter, hall⟩
          exact ⟨((hlast hall).escrows_iff hok).mp hafter, hiff.mp hall⟩
        · rintro ⟨ha, hall⟩
          have hbefore := hlast (hiff.mpr hall)
          exact ⟨(hbefore.escrows_iff hok).mpr ha, hiff.mpr hall⟩
      · -- the chain is in order as long as the escrow has been there
        rintro ⟨hafter, hall⟩
        have hbefore := hlast hall
        exact (hbefore.execute ((hbefore.escrows_iff hok).mp hafter)).ok hok
  exact hsound.1

/-- A run of the protocol is one of the chain. -/
theorem ChainStep.ofProtocol {s s' : State} {f : Address → Address → Address → ℕ}
    (h : Step D (anyAction D) s s') : ChainStep D sparing ⟨s, f⟩ ⟨s', f⟩ := by
  obtain ⟨action, -, hs'⟩ := h
  exact ⟨.protocol action, trivial, Chain.ofProtocol_eq_ok.mpr ⟨s', hs', rfl⟩⟩

theorem ReachableChain.next {action : ChainAction D} (hr : ReachableChain D sparing c)
    (ha : sparing c action) (hok : c.execute D action = .ok c') : ReachableChain D sparing c' :=
  Machine.Reachable.next hr ⟨action, ha, hok⟩

/-- More may be allowed. -/
theorem ReachableChain.any (hr : ReachableChain D sparing c) :
    ReachableChain D (anyChainAction D) c :=
  Machine.Reachable.mono (fun _ _ ⟨action, _, hok⟩ => ⟨action, trivial, hok⟩) hr

end Runs

/-- The larger deployment after the loan; nobody has allowed anybody uTokens. -/
def Chain.larger : Chain := ⟨State.larger .weth9 largerLoan, fun _ _ _ => 0⟩

theorem Chain.sample_genesis (kind : Erc20Kind) :
    ChainGenesis .larger ⟨State.sample kind, fun _ _ _ => 0⟩ where
  genesis := State.sample_genesis_larger kind
  untouched := State.sample_untouched kind
  supplies _ := ⟨rfl, fun _ => rfl⟩
  allowances _ _ _ := rfl

theorem Chain.larger_reachable : ReachableChain .larger sparing .larger := by
  have hrun : Relation.ReflTransGen (Step .larger (anyAction .larger)) (.sample .weth9)
      (State.larger .weth9 largerLoan) := State.after_run fun _ _ _ => trivial
  refine Machine.Reachable.run (.start (Chain.sample_genesis .weth9)) ?_
  exact hrun.lift (fun s => (⟨s, fun _ _ _ => 0⟩ : Chain)) fun _ _ hst => .ofProtocol hst

/-- Ten tokens are sent to the pool, and the rescuer takes four of them. -/
theorem escrow_there_iff_rescues_spare_sample : ∃ log c,
    log.map Entry.action = [.rescue 10 104 4, .protocol (.event (.mint 10 1 10))] ∧
    History (ChainTaken .larger (anyChainAction .larger)) ⟨.sample .weth9, fun _ _ _ => 0⟩ log c ∧
    ((∀ e ∈ log, e.after.protocol.Escrows .larger) ↔ ∀ e ∈ log, sparing e.before e.action) := by
  obtain ⟨c, hc⟩ := exists_ok_of_raised (x := Chain.execute .larger
    ⟨(State.sample .weth9).happen (.mint 10 1 10), fun _ _ _ => 0⟩ (.rescue 10 104 4))
    (by decide +kernel)
  have hlog : History (ChainTaken .larger (anyChainAction .larger))
      ⟨.sample .weth9, fun _ _ _ => 0⟩ [⟨_, .rescue 10 104 4, c⟩, ⟨_, .protocol (.event _), _⟩] c :=
    .next (.next .start ⟨trivial, rfl⟩) ⟨trivial, hc⟩
  exact ⟨_, c, rfl, hlog, escrow_there_iff_rescues_spare (Chain.sample_genesis .weth9) hlog⟩

end Unlockd
