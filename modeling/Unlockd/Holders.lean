/-
What the holders of uTokens can rely on.

Every total is the sum of the balances, over every run of the chain. And no run takes from a holder
more than she has allowed: as long as she does nothing herself, what she loses of her scaled balance
is covered by what the spenders have used up of their allowances.
-/
import Unlockd.Chain

set_option autoImplicit false

namespace Unlockd

open Outcome Tally

/-! ## Who acts -/

/-- The action is made in the name of `u`. -/
def ChainAction.isBy {D : Deployment} (u : Address) : ChainAction D → Prop
  | .protocol (.call sender _ _) => sender = u
  | .uToken sender _ _ => sender = u
  | .rescueUToken _ _ _ => D.lendPool = u
  | .burnNft sender _ _ _ => sender = u
  | _ => False

/-- The total of every uToken is the sum of its balances. -/
def Chain.AddsUp (c : Chain) : Prop :=
  ∀ r, Tally.AddsUp (c.protocol.uTokens r).scaledTotalSupply
    (c.protocol.uTokens r).scaledBalanceOf

/-- What a step can do to balances and allowances: it is one of the protocol, which knows of no
allowances, a call of a uToken, or neither changes. -/
inductive HoldingsStep {D : Deployment} (c : Chain) (action : ChainAction D) (c' : Chain) : Prop
  | protocol (a : Action D) (ha : action = .protocol a)
      (h : c.protocol.execute D a = .ok c'.protocol)
      (kept : c'.uTokenAllowance = c.uTokenAllowance)
  | uToken (sender : Address) (by_sender : action.isBy sender) (h : c.UTokenStep sender c')
  | frame (uTokens : c'.protocol.uTokens = c.protocol.uTokens)
      (kept : c'.uTokenAllowance = c.uTokenAllowance)

section Steps

variable {D : Deployment} {c c' : Chain} {r u : Address} {X : Finset Address}

theorem Chain.execute_holdings (action : ChainAction D) :
    Returns (c.execute D action) (HoldingsStep c action) := by
  cases action with
  | protocol action =>
    exact Chain.ofProtocol_returns ((Sat.returned _).imp fun _ hs' => .protocol action rfl hs' rfl)
  | uToken sender outside call => exact (Chain.performUToken_step call).imp fun _ => .uToken _ rfl
  | rescueUToken asset dst amount => exact (Chain.performUToken_step _).imp fun _ => .uToken _ rfl
  | sweepUToken asset =>
    refine Returns.check fun _ => Chain.ofProtocol_returns ?_
    refine Chain.sweepUToken_returns.imp fun s' hs' => ?_
    obtain ⟨E, v, rfl, -⟩ := hs'
    exact .frame rfl rfl
  | rescue token dst amount =>
    refine Chain.ofProtocol_returns (State.safeTransfer_posted.imp fun s' hs' => ?_)
    obtain ⟨E, rfl, -⟩ := hs'
    exact .frame rfl rfl
  | rescueNFT nftAsset tokenId dst =>
    refine Chain.ofProtocol_returns ((State.safeTransferNft_spec D).returns.imp fun s' hs' => ?_)
    obtain ⟨C, rfl⟩ := hs'
    exact .frame rfl rfl
  | burnNft sender outside nftAsset tokenId =>
    refine Returns.step fun s' hs' => ?_
    obtain ⟨-, hs'⟩ := require_bind_eq_ok.mp hs'
    obtain ⟨-, hs'⟩ := require_bind_eq_ok.mp hs'
    obtain rfl := Except.ok.inj hs'
    exact .frame rfl rfl

/-! ## Totals -/

theorem ChainGenesis.addsUp (g : ChainGenesis D c) : c.AddsUp := by
  intro r
  rw [(g.supplies r).1, funext (g.supplies r).2]
  exact .none

/-- No step of the chain separates a total from its balances. -/
theorem HoldingsStep.addsUp {action : ChainAction D} (h : HoldingsStep c action c')
    (hc : c.AddsUp) : c'.AddsUp := by
  intro r
  cases h with
  | protocol a ha h => exact (execute_kept h r).adds (hc r)
  | uToken sender by_sender h =>
    cases h with
    | sent asset dst amount h => exact (h.kept r).adds (hc r)
    | spent asset src dst amount h => exact (h.kept r).adds (hc r)
    | approved asset spender amount h =>
      rw [h]
      exact hc r
  | frame uTokens kept =>
    rw [uTokens]
    exact hc r

theorem ReachableChain.addsUp (hr : ReachableChain D (anyChainAction D) c) : c.AddsUp := by
  refine Machine.Reachable.invariant (fun _ hc => hc.addsUp) (fun _ _ _ h hst => ?_) hr
  obtain ⟨action, -, hc'⟩ := hst
  exact ((Chain.execute_holdings action).ok hc').addsUp h

/-- **The total of a uToken is the sum of its balances**, in every state of every run: over any
accounts that leave out no holder the scaled balances add up to the scaled total, and over any
others to no more. -/
theorem scaled_balances_add_up
    (hr : ReachableChain D (anyChainAction D) c) (r : Address) :
    (∃ S : Finset Address, ∀ T, S ⊆ T →
      ∑ u ∈ T, (c.protocol.uTokens r).scaledBalanceOf u
        = (c.protocol.uTokens r).scaledTotalSupply) ∧
    ∀ T : Finset Address, ∑ u ∈ T, (c.protocol.uTokens r).scaledBalanceOf u
      ≤ (c.protocol.uTokens r).scaledTotalSupply := by
  have hadds := hr.addsUp
  refine ⟨?_, (hadds r).covers⟩
  obtain ⟨S, hS, -⟩ := hadds r
  exact ⟨S, fun T hST => (hadds r).sum_eq fun i hi => hS i fun hiS => hi (hST hiS)⟩

/-! ## A holder who does nothing -/

/-- What the holder `u` of uTokens of reserve `r` has lost is off the allowances of the accounts in
`X`, and nobody else has one. -/
structure HolderKept (r u : Address) (X : Finset Address) (c c' : Chain) : Prop where
  balance : (c.protocol.uTokens r).scaledBalanceOf u + ∑ x ∈ X, c'.uTokenAllowance r u x
    ≤ (c'.protocol.uTokens r).scaledBalanceOf u + ∑ x ∈ X, c.uTokenAllowance r u x
  unapproved : ∀ x ∉ X, c'.uTokenAllowance r u x = 0

theorem HolderKept.refl (hX : ∀ x ∉ X, c.uTokenAllowance r u x = 0) : HolderKept r u X c c :=
  ⟨le_rfl, hX⟩

theorem HolderKept.trans {c'' : Chain} (h : HolderKept r u X c c') (h' : HolderKept r u X c' c'') :
    HolderKept r u X c c'' := by
  refine ⟨?_, h'.unapproved⟩
  have hb := h.balance
  have hb' := h'.balance
  omega

/-- She loses nothing, and no allowance of hers changes. -/
theorem HolderKept.ofLe (hX : ∀ x ∉ X, c.uTokenAllowance r u x = 0)
    (hb : (c.protocol.uTokens r).scaledBalanceOf u ≤ (c'.protocol.uTokens r).scaledBalanceOf u)
    (ha : c'.uTokenAllowance r u = c.uTokenAllowance r u) : HolderKept r u X c c' := by
  refine ⟨?_, fun x hx => by rw [ha]; exact hX x hx⟩
  rw [ha]
  exact Nat.add_le_add_right hb _

/-- A spender takes no more than its allowance goes down by. -/
theorem Chain.UTokenStep.holder {sender : Address}
    (hs : State.IndicesSound c.protocol.lendPool.reserves)
    (hX : ∀ x ∉ X, c.uTokenAllowance r u x = 0) (hne : sender ≠ u) (h : c.UTokenStep sender c') :
    HolderKept r u X c c' := by
  cases h with
  | sent asset dst amount h initialised kept =>
    refine .ofLe hX ((h.kept r).spares u fun hu => hne hu.2.symm) ?_
    rw [kept]
  | approved asset spender amount h =>
    subst h
    refine .ofLe hX le_rfl (funext fun x => ?_)
    rw [Chain.setUTokenAllowance_apply, if_neg fun hk => hne hk.2.1.symm]
  | spent asset src dst amount h initialised allowed spent =>
    by_cases hk : r = asset ∧ u = src
    · obtain ⟨rfl, rfl⟩ := hk
      have hb := h.le_add (hs r initialised).1
      have hafter : c'.uTokenAllowance r u = Function.update (c.uTokenAllowance r u) sender
          (c.uTokenAllowance r u sender - amount) := by
        funext x
        rw [spent, Chain.setUTokenAllowance_apply, Function.update_apply]
        simp only [true_and]
      have hsum := sum_spent_add_le (S := X) allowed (hX sender)
      refine ⟨?_, fun x hx => ?_⟩
      · rw [hafter]
        omega
      · rw [hafter, Function.update_apply]
        split
        · rename_i heq
          subst heq
          rw [hX x hx, Nat.zero_sub]
        · exact hX x hx
    · refine .ofLe hX ((h.kept r).spares u hk) (funext fun x => ?_)
      rw [spent, Chain.setUTokenAllowance_apply, if_neg fun hx => hk ⟨hx.1, hx.2.1⟩]

/-- A step that is not hers. -/
theorem HoldingsStep.holder {action : ChainAction D} (h : HoldingsStep c action c')
    (hs : State.IndicesSound c.protocol.lendPool.reserves)
    (hX : ∀ x ∉ X, c.uTokenAllowance r u x = 0) (hby : ¬ action.isBy u) :
    HolderKept r u X c c' := by
  cases h with
  | protocol a ha h kept =>
    subst ha
    refine .ofLe hX ((execute_kept h r).spares u fun hburns => ?_) (by rw [kept])
    cases a with
    | call sender outside call => exact hby hburns.1.symm
    | configure | event => exact hburns
  | uToken sender by_sender h =>
    exact h.holder hs hX fun hsender => hby (hsender ▸ by_sender)
  | frame uTokens kept => exact .ofLe hX (by rw [uTokens]) (by rw [kept])

end Steps

/-- The rescuer spares the escrow, and `u` does nothing. -/
def without {D : Deployment} (u : Address) (c : Chain) (action : ChainAction D) : Prop :=
  sparing c action ∧ ¬ action.isBy u

/-- A run in which she does nothing. -/
theorem ReachableChain.holder {D : Deployment} {c c' : Chain} {r u : Address} {X : Finset Address}
    (hr : ReachableChain D sparing c) (hX : ∀ x ∉ X, c.uTokenAllowance r u x = 0)
    (hrun : Relation.ReflTransGen (ChainStep D (without u)) c c') :
    ReachableChain D sparing c' ∧ HolderKept r u X c c' := by
  induction hrun with
  | refl => exact ⟨hr, .refl hX⟩
  | tail _ hst ih =>
    obtain ⟨hr', hkept⟩ := ih
    obtain ⟨action, ⟨hsparing, hby⟩, hok⟩ := hst
    refine ⟨hr'.next hsparing hok, hkept.trans ?_⟩
    exact ((Chain.execute_holdings action).ok hok).holder hr'.sound.books.indices
      hkept.unapproved hby

/-- **A holder loses no more than she has allowed.** Over every run in which she does nothing,
whoever borrows, pays, sells, liquidates, spends or administers in it, the scaled balance of a
holder is lower at the end by at most what the allowances that she had given are lower by. -/
theorem holder_loses_at_most_allowances {D : Deployment} {c c' : Chain} {r u : Address}
    {X : Finset Address} (hr : ReachableChain D sparing c)
    (hX : ∀ x ∉ X, c.uTokenAllowance r u x = 0)
    (hrun : Relation.ReflTransGen (ChainStep D (without u)) c c') :
    (c.protocol.uTokens r).scaledBalanceOf u + ∑ x ∈ X, c'.uTokenAllowance r u x
      ≤ (c'.protocol.uTokens r).scaledBalanceOf u + ∑ x ∈ X, c.uTokenAllowance r u x := by
  obtain ⟨-, hkept⟩ := hr.holder hX hrun
  exact hkept.balance

/-! ## The larger deployment -/

theorem scaled_balances_add_up_sample :
    (∃ S : Finset Address, ∀ T, S ⊆ T →
      ∑ u ∈ T, (Chain.larger.protocol.uTokens 10).scaledBalanceOf u
        = (Chain.larger.protocol.uTokens 10).scaledTotalSupply) ∧
    ∀ T : Finset Address, ∑ u ∈ T, (Chain.larger.protocol.uTokens 10).scaledBalanceOf u
      ≤ (Chain.larger.protocol.uTokens 10).scaledTotalSupply :=
  scaled_balances_add_up Chain.larger_reachable.any 10

/-- The supplier has allowed user 104 to spend. -/
def Chain.largerApproved : Chain := Chain.larger.setUTokenAllowance 10 101 104 (50 * WAD)

theorem Chain.largerApproved_reachable : ReachableChain .larger sparing .largerApproved := by
  refine Machine.Reachable.next Chain.larger_reachable
    ⟨.uToken 101 Deployment.larger_supplier (.approve 10 104 (50 * WAD)), trivial, ?_⟩
  exact require_bind_eq_ok.mpr ⟨by decide +kernel, require_bind_eq_ok.mpr ⟨by decide, rfl⟩⟩

/-- User 104 spends some of it. -/
theorem holder_loses_at_most_allowances_sample : ∃ c',
    Chain.largerApproved.execute .larger (.uToken 104 (Deployment.larger_isUser 4)
      (.transferFrom 10 101 104 (20 * WAD))) = .ok c' ∧
    (Chain.largerApproved.protocol.uTokens 10).scaledBalanceOf 101
        + ∑ x ∈ {104}, c'.uTokenAllowance 10 101 x
      ≤ (c'.protocol.uTokens 10).scaledBalanceOf 101
        + ∑ x ∈ {104}, Chain.largerApproved.uTokenAllowance 10 101 x := by
  obtain ⟨c', hc'⟩ := exists_ok_of_raised (x := Chain.largerApproved.execute .larger
    (.uToken 104 (Deployment.larger_isUser 4) (.transferFrom 10 101 104 (20 * WAD))))
    (by decide +kernel)
  have hby : ¬ (104 : Address) = 101 := by decide
  refine ⟨c', hc', holder_loses_at_most_allowances Chain.largerApproved_reachable
    (fun x hx => ?_) (.single ⟨.uToken 104 _ (.transferFrom 10 101 104 (20 * WAD)),
      ⟨trivial, hby⟩, hc'⟩)⟩
  have hne : x ≠ 104 := fun hx' => hx (Finset.mem_singleton.mpr hx')
  simp [Chain.largerApproved, Chain.setUTokenAllowance_apply, hne, Chain.larger]

end Unlockd
