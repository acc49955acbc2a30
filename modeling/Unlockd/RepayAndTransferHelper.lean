/-
`RepayAndTransferHelper.sol`: paying a debt off and moving the token on, in one call.

The helper pays with the ether that is sent along, through the gateway, which returns the token to
the borrower. Then it moves the token from the borrower to the target of the call. For this the
borrower has to have approved the helper for the collection beforehand. That approval is all that
is asked of the borrower: the helper does not look at who makes the call, so whoever pays names the
target.
-/
import Unlockd.GatewayAccounts

set_option autoImplicit false

namespace Unlockd

open Outcome

/-- Where the helper is deployed: an account outside the protocol that takes no ether. -/
structure RepayAndTransferHelper {D : Deployment} (G : Gateways D) where
  address : Address
  isUser : D.isUser address
  ne_wethGateway : address ≠ G.wethGateway
  refuses : G.acceptsEther address = false

/-- What the helper reverts with: an error of the gateway, or one of its own texts. -/
inductive HelperError
  | reverted (e : GatewayError)
  | zeroTargetAddress | loanNotExist | insufficientEthBalance | ownerIsNotTarget
  deriving DecidableEq, Repr

/-- A call of the gateway, within one of the helper. -/
def inGateway {α : Type} : Except GatewayError α → Except HelperError α
  | .ok a => .ok a
  | .error e => .error (.reverted e)

theorem inGateway_eq_ok {α : Type} {x : Except GatewayError α} {a : α} :
    inGateway x = .ok a ↔ x = .ok a := by
  cases x with
  | ok b =>
    exact ⟨fun h => congrArg Except.ok (Except.ok.inj h),
      fun h => congrArg Except.ok (Except.ok.inj h)⟩
  | error e => exact ⟨nofun, nofun⟩

namespace RepayAndTransferHelper

variable {D : Deployment} {G : Gateways D} (H : RepayAndTransferHelper G) (w : World)

/-- The borrower of the loan on a token. -/
def borrowerOf (w : World) (nftAsset : Address) (nftTokenId : ℕ) : Address :=
  (w.protocol.lendPoolLoan.getLoan
    (w.protocol.lendPoolLoan.getCollateralLoanId nftAsset nftTokenId)).borrower

/-- The first half of `repayETHAndTransferERC721`: the debt is paid, and what was sent beyond it
goes back to the sender. -/
def repayDebt (sender : Address) (msgValue : ℕ) (nftAsset : Address) (nftTokenId : ℕ) :
    Except HelperError World := do
  let loanId := w.protocol.lendPoolLoan.getCollateralLoanId nftAsset nftTokenId
  require (loanId ≠ 0) HelperError.loanNotExist
  let totalDebt ← inGateway (inProtocol (w.protocol.getLoanReserveBorrowAmount loanId))
  require (totalDebt ≤ msgValue) HelperError.insufficientEthBalance
  let (w, repayAmount, _) ← inGateway
    (w.repayETH G H.address totalDebt nftAsset nftTokenId totalDebt)
  -- refund remaining dust eth
  inGateway (applyIf (msgValue > repayAmount) (fun w =>
    w._safeTransferETH G H.address sender (msgValue - repayAmount)) w)

/-- The second half: the helper moves the token from the borrower to the target. -/
def transferERC721 (borrower nftAsset : Address) (nftTokenId : ℕ) (target : Address) :
    Except HelperError World := do
  let s ← inGateway (inProtocol
    (w.protocol.safeTransferNft D nftAsset H.address borrower target nftTokenId))
  require ((s.erc721 nftAsset).ownerOf nftTokenId = target) HelperError.ownerIsNotTarget
  return w.setProtocol s

/-- `repayETHAndTransferERC721`. -/
def repayETHAndTransferERC721 (sender : Address) (msgValue : ℕ) (nftAsset : Address)
    (nftTokenId : ℕ) (target : Address) : Except HelperError World := do
  let w ← inGateway (w.moveEther sender H.address msgValue)
  require (target ≠ 0) HelperError.zeroTargetAddress
  let w' ← H.repayDebt w sender msgValue nftAsset nftTokenId
  H.transferERC721 w' (borrowerOf w nftAsset nftTokenId) nftAsset nftTokenId target

end RepayAndTransferHelper

/-! ## Approvals in a repayment

A repayment moves tokens of collections, and a token that moves loses its approval. It adds none. -/

/-- No approval has been added: the operators are the same, and each token has the approval and the
owner that it had, or no approval. -/
structure Erc721.NoneAdded (c c' : Erc721) : Prop where
  operators : c'.operators = c.operators
  approved : ∀ t, c'.approved t = 0 ∨ c'.approved t = c.approved t ∧ c'.ownerOf t = c.ownerOf t

theorem Erc721.NoneAdded.refl (c : Erc721) : c.NoneAdded c := ⟨rfl, fun _ => .inr ⟨rfl, rfl⟩⟩

theorem Erc721.NoneAdded.trans {c c' c'' : Erc721} (h : c.NoneAdded c') (h' : c'.NoneAdded c'') :
    c.NoneAdded c'' := by
  refine ⟨h'.operators.trans h.operators, fun t => ?_⟩
  rcases h'.approved t with hz | ⟨happroved', howner'⟩
  · exact .inl hz
  · rw [happroved', howner']
    exact h.approved t

theorem Erc721.transferFrom_noneAdded {c : Erc721} {caller src dst : Address} {tokenId : ℕ} :
    Returns (c.transferFrom caller src dst tokenId) c.NoneAdded := by
  refine Returns.check fun _ => Returns.check fun _ => Returns.check fun _ => Returns.check fun _ =>
    ⟨rfl, fun t => ?_⟩
  by_cases ht : t = tokenId
  · -- the token that moves loses its approval
    rw [ht]
    exact .inl (Function.update_self _ _ _)
  · exact .inr ⟨Function.update_of_ne ht _ _, Function.update_of_ne ht _ _⟩

namespace State

variable {D : Deployment} {s s' s'' : State} {nftAsset caller src dst : Address} {tokenId : ℕ}

/-- No collection has an approval more. -/
def NoneAdded (s s' : State) : Prop := ∀ a, (s.erc721 a).NoneAdded (s'.erc721 a)

theorem NoneAdded.ofEq (h : s'.erc721 = s.erc721) : s.NoneAdded s' := by
  intro a
  rw [h]
  exact .refl _

theorem NoneAdded.trans (h : s.NoneAdded s') (h' : s'.NoneAdded s'') : s.NoneAdded s'' :=
  fun a => (h a).trans (h' a)

theorem safeTransferNft_noneAdded :
    Returns (s.safeTransferNft D nftAsset caller src dst tokenId) s.NoneAdded := by
  refine Sat.bind Erc721.transferFrom_noneAdded fun c hc => Returns.check fun _ a => ?_
  show (s.erc721 a).NoneAdded (Function.update s.erc721 nftAsset c a)
  by_cases ha : a = nftAsset
  · rw [ha, Function.update_self]
    exact hc
  · rw [Function.update_of_ne ha]
    exact .refl _

theorem burnUNft_noneAdded : Returns (s.burnUNft D nftAsset caller tokenId) s.NoneAdded := by
  refine Returns.check fun _ => Returns.check fun _ => ?_
  exact Sat.bind safeTransferNft_noneAdded fun _ h => h

theorem closeLoan_noneAdded {loanId : ℕ} {storage : LendPoolLoan → Except Error LendPoolLoan} :
    Returns (s.closeLoan D caller loanId storage) s.NoneAdded := by
  refine Returns.step fun L _ => ?_
  refine Sat.bind burnUNft_noneAdded fun s₁ h₁ => ?_
  exact safeTransferNft_noneAdded.imp fun s₂ h₂ => NoneAdded.trans h₁ h₂

/-- **A repayment adds no approval.** -/
theorem _repay_noneAdded {initiator : Address} {amount : ℕ} :
    Returns (s._repay D initiator nftAsset tokenId amount) (fun p => s.NoneAdded p.1) := by
  refine Returns.check fun _ => ?_
  refine Sat.bind updateState_spec.returns fun s₁ h₁ => ?_
  obtain ⟨Rs, U, rfl, -⟩ := h₁
  refine Returns.step fun b _ => Returns.step fun _ _ => ?_
  refine Sat.bind cancelDebtListingIfExists_posted fun s₂ h₂ => ?_
  obtain ⟨M, E, rfl, -⟩ := h₂
  refine Sat.bind (P := s.NoneAdded) ?_ fun s₃ h₃ => ?_
  · -- only closing the loan moves a token
    refine Sat.ite (fun _ => Returns.step fun L _ => .ofEq rfl) fun _ => ?_
    exact closeLoan_noneAdded.imp fun s₃ h₃ => NoneAdded.trans (.ofEq rfl) h₃
  refine Returns.step fun s₄ h₄ => ?_
  obtain ⟨d, -, h₄⟩ := bind_eq_ok.mp h₄
  obtain rfl := Except.ok.inj h₄
  refine Sat.bind updateInterestRates_spec.returns fun s₅ h₅ => ?_
  obtain ⟨Rs', rfl, -⟩ := h₅
  refine Sat.bind safeTransferFrom_posted fun s₆ h₆ => ?_
  obtain ⟨E', rfl, -⟩ := h₆
  refine Sat.bind depositReserves_posted fun s₇ h₇ => ?_
  obtain ⟨E'', rfl, -⟩ := h₇
  -- a loan that is paid off in full gives its token back
  refine Sat.bind (P := s.NoneAdded) ?_ fun s₈ h₈ => h₈
  refine Sat.applyIf (fun _ => ?_) fun _ => h₃
  exact safeTransferNft_noneAdded.imp fun s₈ h₈ => NoneAdded.trans h₃ h₈

end State

namespace World

variable {D : Deployment} {G : Gateways D} {w : World} {sender nftAsset : Address}
  {msgValue nftTokenId amount : ℕ}

/-- Sending ether back does not concern the protocol. -/
theorem refund_protocol {caller dst : Address} {c : Prop} [Decidable c] :
    Returns (applyIf c (fun w => w._safeTransferETH G caller dst amount) w)
      (fun w' => w'.protocol = w.protocol) := by
  refine Sat.applyIf (fun _ => Returns.check fun _ => ?_) fun _ => rfl
  exact moveEther_booked.imp fun _ h => h.1

theorem _repayETH_noneAdded :
    Returns (w._repayETH G msgValue nftAsset nftTokenId amount 0)
      (fun p => w.protocol.NoneAdded p.1.protocol) := by
  refine Returns.step fun _ _ => Returns.step fun debt _ => Returns.check fun _ => ?_
  refine Sat.bind wrap_booked fun w₁ h₁ => ?_
  obtain ⟨E, hE⟩ := h₁.1.tokens
  refine Returns.step fun p hp => ?_
  obtain ⟨s, paybackAmount, burn⟩ := p
  obtain ⟨-, hp⟩ := require_bind_eq_ok.mp (inProtocol_eq_ok.mp hp)
  have hrepaid : w₁.protocol.NoneAdded s := State._repay_noneAdded.ok hp
  rw [hE] at hrepaid
  exact State.NoneAdded.trans (.ofEq rfl) hrepaid

/-- And neither does the gateway. -/
theorem repayETH_noneAdded :
    Returns (w.repayETH G sender msgValue nftAsset nftTokenId amount)
      (fun p => w.protocol.NoneAdded p.1.protocol) := by
  refine Sat.bind moveEther_booked fun w₁ h₁ => ?_
  refine Sat.bind _repayETH_noneAdded fun p hp => ?_
  obtain ⟨w₂, repayAmount, all⟩ := p
  refine Sat.bind refund_protocol fun w₃ h₃ => ?_
  show w.protocol.NoneAdded w₃.protocol
  rw [h₃, ← h₁.1]
  exact hp

end World

/-! ## Who decides where the token goes -/

namespace RepayAndTransferHelper

variable {D : Deployment} {G : Gateways D} {H : RepayAndTransferHelper G} {w w' : World}
  {sender borrower nftAsset target : Address} {msgValue nftTokenId : ℕ}

/-- The debt is paid without an approval being added. -/
theorem repayDebt_noneAdded (h : H.repayDebt w sender msgValue nftAsset nftTokenId = .ok w') :
    w.protocol.NoneAdded w'.protocol := by
  obtain ⟨-, h⟩ := require_bind_eq_ok.mp h
  obtain ⟨totalDebt, -, h⟩ := bind_eq_ok.mp h
  obtain ⟨-, h⟩ := require_bind_eq_ok.mp h
  obtain ⟨⟨w₁, repayAmount, all⟩, hrepay, h⟩ := bind_eq_ok.mp h
  rw [World.refund_protocol.ok (inGateway_eq_ok.mp h)]
  exact World.repayETH_noneAdded.ok (inGateway_eq_ok.mp hrepay)

/-- The borrower has approved the helper, for the collection or, with the token in hand, for it. -/
def Approved (H : RepayAndTransferHelper G) (w : World) (borrower nftAsset : Address)
    (nftTokenId : ℕ) : Prop :=
  H.address = borrower ∨ (w.protocol.erc721 nftAsset).operators borrower H.address = true ∨
    (w.protocol.erc721 nftAsset).approved nftTokenId = H.address ∧
      (w.protocol.erc721 nftAsset).ownerOf nftTokenId = borrower

/-- An approval that is there after a repayment was there before. -/
theorem Approved.before (hadded : w.protocol.NoneAdded w'.protocol)
    (h : H.Approved w' borrower nftAsset nftTokenId) :
    H.Approved w borrower nftAsset nftTokenId := by
  rcases h with hself | hoperator | ⟨happroved, howner⟩
  · exact .inl hself
  · refine .inr (.inl ?_)
    rw [← (hadded nftAsset).operators]
    exact hoperator
  · -- a token that had moved would have no approval
    rcases (hadded nftAsset).approved nftTokenId with hz | ⟨happroved', howner'⟩
    · exact absurd (happroved.symm.trans hz) H.isUser.1
    · exact .inr (.inr ⟨happroved'.symm.trans happroved, howner'.symm.trans howner⟩)

/-- The token is with the borrower, and the helper may move it. -/
def Movable (H : RepayAndTransferHelper G) (w : World) (borrower nftAsset : Address)
    (nftTokenId : ℕ) : Prop :=
  (w.protocol.erc721 nftAsset).ownerOf nftTokenId ≠ 0 ∧
    (w.protocol.erc721 nftAsset).isApprovedOrOwner H.address nftTokenId ∧
    (w.protocol.erc721 nftAsset).ownerOf nftTokenId = borrower

theorem Movable.approved (h : H.Movable w borrower nftAsset nftTokenId) :
    H.Approved w borrower nftAsset nftTokenId := by
  obtain ⟨-, hspender, howner⟩ := h
  rcases hspender with hself | happroved | hoperator
  · exact .inl (hself.trans howner)
  · exact .inr (.inr ⟨happroved.symm, howner⟩)
  · rw [howner] at hoperator
    exact .inr (.inl hoperator)

/-- What the last step finds and leaves. -/
theorem transferERC721_spec :
    Returns (H.transferERC721 w borrower nftAsset nftTokenId target) (fun w' =>
      H.Movable w borrower nftAsset nftTokenId ∧
      (w'.protocol.erc721 nftAsset).ownerOf nftTokenId = target) := by
  refine Returns.step fun s hs => Returns.check fun howner => ?_
  obtain ⟨c, hc, -⟩ := bind_eq_ok.mp (inProtocol_eq_ok.mp (inGateway_eq_ok.mp hs))
  obtain ⟨hexists, hc⟩ := require_bind_eq_ok.mp hc
  obtain ⟨hspender, hc⟩ := require_bind_eq_ok.mp hc
  obtain ⟨hsrc, -⟩ := require_bind_eq_ok.mp hc
  exact ⟨⟨hexists, hspender, hsrc⟩, howner⟩

/-- It goes through for every target that can take the token. -/
theorem transferERC721_ok (h : H.Movable w borrower nftAsset nftTokenId) (htarget : target ≠ 0)
    (haccepts : D.acceptsNft target = true) :
    ∃ w', H.transferERC721 w borrower nftAsset nftTokenId target = .ok w' := by
  obtain ⟨hexists, hspender, howner⟩ := h
  have hmoved : (w.protocol.erc721 nftAsset).transferFrom H.address borrower target nftTokenId
      = .ok _ := require_bind_eq_ok.mpr ⟨hexists, require_bind_eq_ok.mpr ⟨hspender,
    require_bind_eq_ok.mpr ⟨howner, require_bind_eq_ok.mpr ⟨htarget, rfl⟩⟩⟩⟩
  have hsent : w.protocol.safeTransferNft D nftAsset H.address borrower target nftTokenId
      = .ok _ := bind_eq_ok.mpr ⟨_, hmoved, require_bind_eq_ok.mpr ⟨haccepts, rfl⟩⟩
  refine ⟨_, bind_eq_ok.mpr ⟨_, inGateway_eq_ok.mpr (inProtocol_eq_ok.mpr hsent),
    require_bind_eq_ok.mpr ⟨?_, rfl⟩⟩⟩
  show (Function.update w.protocol.erc721 nftAsset _ nftAsset).ownerOf nftTokenId = target
  rw [Function.update_self]
  exact Function.update_self _ _ _

/-- **The caller decides where the token goes.** After a call that went through, the token is with
the target that the caller named, be it the borrower, somebody the borrower has authorised, or
anybody else. For every target that can take the token the call goes through as well, and leaves it
there. Of the borrower nothing is needed but the approval given to the helper before. -/
theorem repayETHAndTransferERC721_target
    (h : H.repayETHAndTransferERC721 w sender msgValue nftAsset nftTokenId target = .ok w') :
    (w'.protocol.erc721 nftAsset).ownerOf nftTokenId = target ∧
    (∀ target', target' ≠ 0 → D.acceptsNft target' = true → ∃ w'',
      H.repayETHAndTransferERC721 w sender msgValue nftAsset nftTokenId target' = .ok w'' ∧
      (w''.protocol.erc721 nftAsset).ownerOf nftTokenId = target') ∧
    H.Approved w (borrowerOf w nftAsset nftTokenId) nftAsset nftTokenId := by
  obtain ⟨w₁, hsent, h⟩ := bind_eq_ok.mp h
  obtain ⟨-, h⟩ := require_bind_eq_ok.mp h
  obtain ⟨w₂, hrepaid, h⟩ := bind_eq_ok.mp h
  obtain ⟨hmovable, howner⟩ := transferERC721_spec.ok h
  have hsame : w₁.protocol = w.protocol := (World.moveEther_booked.ok (inGateway_eq_ok.mp hsent)).1
  have hborrower : borrowerOf w₁ nftAsset nftTokenId = borrowerOf w nftAsset nftTokenId := by
    unfold borrowerOf
    rw [hsame]
  refine ⟨howner, fun target' htarget haccepts => ?_, ?_⟩
  · -- the debt is paid the same way, and only the last step depends on the target
    obtain ⟨w₃, hmoved⟩ := transferERC721_ok hmovable htarget haccepts
    exact ⟨w₃, bind_eq_ok.mpr ⟨w₁, hsent, require_bind_eq_ok.mpr ⟨htarget,
      bind_eq_ok.mpr ⟨w₂, hrepaid, hmoved⟩⟩⟩, (transferERC721_spec.ok hmoved).2⟩
  · have hadded := repayDebt_noneAdded hrepaid
    rw [hsame] at hadded
    rw [← hborrower]
    exact .before hadded hmovable.approved

end RepayAndTransferHelper

/-- The gateways of the larger deployment, next to the helper, which takes no ether either. -/
def Gateways.largerWithHelper : Gateways .larger :=
  { Gateways.larger with
    acceptsEther := fun a => a ≠ 110 ∧ a ≠ 120
    wethGateway_refuses := by decide
    punkGateway_accepts := by decide }

def RepayAndTransferHelper.larger : RepayAndTransferHelper .largerWithHelper where
  address := 120
  isUser := Deployment.larger_isUser 20
  ne_wethGateway := by decide
  refuses := by decide

/-- A loan of user 100, who approves the helper for the collection. -/
def State.largerHelped : State :=
  .larger .weth9 (largerLoan ++
    [.call 100 Deployment.larger_borrower (.setApprovalForAll 40 120 true)])

namespace RepayAndTransferHelper

/-- User 104 pays the debt and names user 105; the loan is that of user 100. -/
theorem repayETHAndTransferERC721_target_sample :
    ∃ w', RepayAndTransferHelper.larger.repayETHAndTransferERC721 (.around State.largerHelped) 104
        (30 * WAD) 40 7 105 = .ok w' ∧ (w'.protocol.erc721 40).ownerOf 7 = 105 ∧
      RepayAndTransferHelper.larger.Approved (.around State.largerHelped) 100 40 7 := by
  obtain ⟨w', hok⟩ := exists_ok_of_raised
    (x := RepayAndTransferHelper.larger.repayETHAndTransferERC721 (.around State.largerHelped) 104
      (30 * WAD) 40 7 105) (by decide +kernel)
  have hborrower : borrowerOf (.around State.largerHelped) 40 7 = 100 := by decide +kernel
  generalize World.around State.largerHelped = w at *
  obtain ⟨howner, -, happroved⟩ := repayETHAndTransferERC721_target hok
  rw [hborrower] at happroved
  exact ⟨w', hok, howner, happroved⟩

/-- **The payer names the target**: user 104 pays the debt of user 100 and takes the token, without
being authorised by anybody. -/
theorem payer_can_take_token : ∃ w',
    Reachable .larger (anyAction .larger) State.largerHelped ∧
    (State.largerHelped.erc721 40).operators 100 RepayAndTransferHelper.larger.address = true ∧
    borrowerOf (.around State.largerHelped) 40 7 = 100 ∧
    RepayAndTransferHelper.larger.repayETHAndTransferERC721 (.around State.largerHelped) 104
      (30 * WAD) 40 7 104 = .ok w' ∧
    (w'.protocol.erc721 40).ownerOf 7 = 104 := by
  have howner : (RepayAndTransferHelper.larger.repayETHAndTransferERC721
      (.around State.largerHelped) 104 (30 * WAD) 40 7 104).toOption.map
        (fun w => (w.protocol.erc721 40).ownerOf 7)
      = some 104 := by decide +kernel
  obtain ⟨w', hok, howner⟩ := Option.map_eq_some_iff.mp howner
  exact ⟨w', State.larger_reachable _ _, by decide +kernel, by decide +kernel,
    eq_ok_of_toOption hok, howner⟩

end RepayAndTransferHelper

end Unlockd
