/-
The custody of collateral: where the token of a loan is while the loan runs, and where it goes.

While a token has a receipt it belongs to the receipt contract of its collection and nobody is
approved for it. An operation that needs the token elsewhere takes it out and settles the receipt
before it ends, so between operations there is no third place. `Custody` says so of every token at
once. Each operation is walked through with this invariant in hand; the few that close a loan also
tell who owns the token afterwards.
-/
import Unlockd.Lifecycle

set_option autoImplicit false

namespace Unlockd

open Outcome LendPoolLoan

/-! ## Moving one token -/

namespace Erc721

variable {c : Erc721} {caller src dst : Address} {tokenId : ℕ}

/-- The collection after one token has gone to `dst`. -/
def handed (c : Erc721) (tokenId : ℕ) (dst : Address) : Erc721 :=
  { c with
    ownerOf := Function.update c.ownerOf tokenId dst
    approved := Function.update c.approved tokenId 0 }

@[simp] theorem handed_ownerOf_self : (c.handed tokenId dst).ownerOf tokenId = dst :=
  Function.update_self _ _ _

@[simp] theorem handed_approved_self : (c.handed tokenId dst).approved tokenId = 0 :=
  Function.update_self _ _ _

theorem handed_ownerOf_of_ne {t : ℕ} (h : t ≠ tokenId) :
    (c.handed tokenId dst).ownerOf t = c.ownerOf t :=
  Function.update_of_ne h _ _

theorem handed_approved_of_ne {t : ℕ} (h : t ≠ tokenId) :
    (c.handed tokenId dst).approved t = c.approved t :=
  Function.update_of_ne h _ _

theorem transferFrom_eq_ok {c' : Erc721} : c.transferFrom caller src dst tokenId = .ok c' ↔
    c.ownerOf tokenId ≠ 0 ∧ c.isApprovedOrOwner caller tokenId ∧ c.ownerOf tokenId = src ∧
      dst ≠ 0 ∧ c.handed tokenId dst = c' := by
  unfold transferFrom
  simp only [require_bind_eq_ok]
  constructor
  · rintro ⟨hexists, hmay, hsrc, hdst, h⟩
    exact ⟨hexists, hmay, hsrc, hdst, Except.ok.inj h⟩
  · rintro ⟨hexists, hmay, hsrc, hdst, rfl⟩
    exact ⟨hexists, hmay, hsrc, hdst, rfl⟩

end Erc721

/-! ## The invariant -/

/-- A token is with the receipt contract of its collection, which has taken it in for the loan
contract, and nobody is approved for it. -/
structure State.InCustody (D : Deployment) (s : State) (a : Address) (t : ℕ) : Prop where
  registered : (s.lendPool.nfts a).uNftAddress ≠ 0
  owner : (s.erc721 a).ownerOf t = (s.lendPool.nfts a).uNftAddress
  unapproved : (s.erc721 a).approved t = 0
  minter : (s.uNfts a).minter t = D.lendPoolLoan

/-- The two contracts that a token passes through can take one. -/
structure Deployment.TakesCollateral (D : Deployment) : Prop where
  lendPool : D.acceptsNft D.lendPool = true
  lendPoolLoan : D.acceptsNft D.lendPoolLoan = true
  lendPoolLoan_ne_zero : D.lendPoolLoan ≠ 0

/-- **Custody.** Every token with a receipt is with the receipt contract, whose address is that of a
token proxy; and no contract of the protocol lets an account outside move its tokens. -/
structure Custody (D : Deployment) (s : State) : Prop where
  held : ∀ a t, (s.uNfts a).owner t ≠ 0 → s.InCustody D a t
  takes : ∀ a t, (s.uNfts a).owner t ≠ 0 → D.TakesCollateral
  proxies : ∀ a, (s.lendPool.nfts a).uNftAddress ≠ 0 →
    D.isProxy (s.lendPool.nfts a).uNftAddress = true
  guarded : ∀ a x y, D.isProtocol x → (s.erc721 a).operators x y = true → D.isProtocol y

/-- What a fresh deployment has to bring along for it: no collection is set up yet, and no contract
has let an account outside move its tokens. -/
structure UntouchedCollateral (D : Deployment) (s : State) : Prop where
  collections : ∀ a, (s.lendPool.nfts a).uNftAddress = 0
  guarded : ∀ a x y, D.isProtocol x → (s.erc721 a).operators x y = true → D.isProtocol y

theorem Genesis.custody {D : Deployment} {s : State} (g : Genesis D s)
    (hu : UntouchedCollateral D s) : Custody D s where
  held a t h := absurd (g.receipts a t) h
  takes a t h := absurd (g.receipts a t) h
  proxies a h := absurd (hu.collections a) h
  guarded := hu.guarded

/-- Custody depends on the addresses of the receipt contracts, the tokens and their receipts. -/
theorem Custody.ofAddresses {D : Deployment} {s s' : State} (h : Custody D s)
    (hC : s'.erc721 = s.erc721) (hU : s'.uNfts = s.uNfts)
    (hN : ∀ a, (s'.lendPool.nfts a).uNftAddress = (s.lendPool.nfts a).uNftAddress) :
    Custody D s' where
  held a t ht := by
    rw [hU] at ht
    obtain ⟨hr, ho, ha, hm⟩ := h.held a t ht
    exact ⟨by rw [hN]; exact hr, by rw [hC, hN]; exact ho, by rw [hC]; exact ha,
      by rw [hU]; exact hm⟩
  takes a t ht := by
    rw [hU] at ht
    exact h.takes a t ht
  proxies a ha := by
    rw [hN] at ha ⊢
    exact h.proxies a ha
  guarded := by rw [hC]; exact h.guarded

@[inherit_doc Custody.ofAddresses]
theorem Custody.ofEq {D : Deployment} {s s' : State} (h : Custody D s)
    (hC : s'.erc721 = s.erc721) (hU : s'.uNfts = s.uNfts)
    (hN : s'.lendPool.nfts = s.lendPool.nfts) : Custody D s' :=
  h.ofAddresses hC hU fun a => by rw [hN]

/-- An account that may move a token in custody is part of the protocol. -/
theorem Custody.mover {D : Deployment} {s : State} (h : Custody D s) {a spender : Address} {t : ℕ}
    (ht : (s.uNfts a).owner t ≠ 0) (hspender : spender ≠ 0)
    (hmay : (s.erc721 a).isApprovedOrOwner spender t) : D.isProtocol spender := by
  obtain ⟨hreg, howner, happroved, -⟩ := h.held a t ht
  have hproxy : D.isProtocol ((s.erc721 a).ownerOf t) := by
    rw [howner]
    exact .inr (.inr (.inr (.inr (h.proxies a hreg))))
  rcases hmay with hself | hsome | hoperator
  · rw [hself]
    exact hproxy
  · exact absurd (hsome.trans happroved) hspender
  · exact h.guarded a _ _ hproxy hoperator

namespace State

variable {D : Deployment} {s s' : State} {a nftAsset caller src dst : Address} {t tokenId : ℕ}

/-- One token has gone to `dst`; no approval or receipt is new. -/
def NftMoved (s : State) (nftAsset : Address) (tokenId : ℕ) (dst : Address) : State :=
  s.setErc721 nftAsset ((s.erc721 nftAsset).handed tokenId dst)

theorem safeTransferNft_eq_ok : s.safeTransferNft D nftAsset caller src dst tokenId = .ok s' ↔
    ((s.erc721 nftAsset).ownerOf tokenId ≠ 0 ∧
      (s.erc721 nftAsset).isApprovedOrOwner caller tokenId ∧
      (s.erc721 nftAsset).ownerOf tokenId = src ∧ dst ≠ 0 ∧ D.acceptsNft dst = true) ∧
    s.NftMoved nftAsset tokenId dst = s' := by
  unfold safeTransferNft
  rw [bind_eq_ok]
  constructor
  · rintro ⟨c, hc, h⟩
    obtain ⟨hexists, hmay, hsrc, hdst, rfl⟩ := Erc721.transferFrom_eq_ok.mp hc
    obtain ⟨haccepts, h⟩ := require_bind_eq_ok.mp h
    exact ⟨⟨hexists, hmay, hsrc, hdst, haccepts⟩, Except.ok.inj h⟩
  · rintro ⟨⟨hexists, hmay, hsrc, hdst, haccepts⟩, rfl⟩
    exact ⟨_, Erc721.transferFrom_eq_ok.mpr ⟨hexists, hmay, hsrc, hdst, rfl⟩,
      require_bind_eq_ok.mpr ⟨haccepts, rfl⟩⟩

@[simp] theorem nftMoved_ownerOf :
    ((s.NftMoved nftAsset tokenId dst).erc721 nftAsset).ownerOf tokenId = dst := by
  simp [NftMoved, setErc721]

theorem nftMoved_ownerOf_of_eq (h : nftAsset = a) :
    ((s.NftMoved nftAsset tokenId dst).erc721 a).ownerOf tokenId = dst := by
  subst h
  exact nftMoved_ownerOf

@[simp] theorem nftMoved_approved :
    ((s.NftMoved nftAsset tokenId dst).erc721 nftAsset).approved tokenId = 0 := by
  simp [NftMoved, setErc721]

@[simp] theorem nftMoved_operators (a : Address) :
    ((s.NftMoved nftAsset tokenId dst).erc721 a).operators = (s.erc721 a).operators := by
  by_cases ha : a = nftAsset
  · subst ha
    simp [NftMoved, setErc721, Erc721.handed]
  · simp [NftMoved, setErc721, ha]

/-- Every other token stays where it is. -/
theorem nftMoved_other (h : ¬ (a = nftAsset ∧ t = tokenId)) :
    ((s.NftMoved nftAsset tokenId dst).erc721 a).ownerOf t = (s.erc721 a).ownerOf t ∧
      ((s.NftMoved nftAsset tokenId dst).erc721 a).approved t = (s.erc721 a).approved t := by
  by_cases ha : a = nftAsset
  · subst ha
    have ht : t ≠ tokenId := fun ht => h ⟨rfl, ht⟩
    simp only [NftMoved, setErc721, Function.update_self]
    exact ⟨Erc721.handed_ownerOf_of_ne ht, Erc721.handed_approved_of_ne ht⟩
  · simp only [NftMoved, setErc721, Function.update_of_ne ha]
    exact ⟨trivial, trivial⟩

end State

section Moves

open State

variable {D : Deployment} {s : State} {a nftAsset dst : Address} {t tokenId : ℕ}

/-- A token that is not with a token proxy has no receipt. -/
theorem Custody.free (h : Custody D s) (howner : D.isProxy ((s.erc721 a).ownerOf t) = false) :
    (s.uNfts a).owner t = 0 := by
  by_contra ht
  obtain ⟨hreg, ho, -, -⟩ := h.held a t ht
  rw [ho, h.proxies a hreg] at howner
  cases howner

/-- A token without a receipt may go anywhere. -/
theorem Custody.moved (h : Custody D s) (hfree : (s.uNfts nftAsset).owner tokenId = 0) :
    Custody D (s.NftMoved nftAsset tokenId dst) where
  held a t ht := by
    have hother : ¬ (a = nftAsset ∧ t = tokenId) := by
      rintro ⟨rfl, rfl⟩
      exact ht hfree
    obtain ⟨hreg, howner, happroved, hminter⟩ := h.held a t ht
    exact ⟨hreg, (nftMoved_other hother).1.trans howner,
      (nftMoved_other hother).2.trans happroved, hminter⟩
  takes := h.takes
  proxies := h.proxies
  guarded a x y hx hxy := h.guarded a x y hx (by rwa [nftMoved_operators] at hxy)

end Moves

namespace State

variable {D : Deployment} {s s' : State} {a nftAsset caller src dst : Address} {t tokenId : ℕ}

/-- A transfer of a token without a receipt, or out of an account that is no token proxy. -/
theorem safeTransferNft_custody (h : Custody D s)
    (hsrc : D.isProxy src = false ∨ (s.uNfts nftAsset).owner tokenId = 0) :
    Returns (s.safeTransferNft D nftAsset caller src dst tokenId) (fun s' =>
      Custody D s' ∧ D.acceptsNft dst = true ∧ dst ≠ 0 ∧ s' = s.NftMoved nftAsset tokenId dst) := by
  refine (Sat.returned _).imp fun s' hs' => ?_
  obtain ⟨⟨-, -, howner, hdst, haccepts⟩, rfl⟩ := safeTransferNft_eq_ok.mp hs'
  refine ⟨h.moved ?_, haccepts, hdst, rfl⟩
  rcases hsrc with hsrc | hfree
  · exact h.free (by rw [howner]; exact hsrc)
  · exact hfree

/-- The receipt of one token, given to `holder` for the account that brought the token. -/
def withReceipt (s : State) (nftAsset : Address) (tokenId : ℕ) (holder minter : Address) : State :=
  s.setUNft nftAsset
    { owner := Function.update (s.uNfts nftAsset).owner tokenId holder
      minter := Function.update (s.uNfts nftAsset).minter tokenId minter }

theorem withReceipt_self {holder minter : Address} :
    ((s.withReceipt nftAsset tokenId holder minter).uNfts nftAsset).owner tokenId = holder ∧
      ((s.withReceipt nftAsset tokenId holder minter).uNfts nftAsset).minter tokenId = minter := by
  simp [withReceipt, setUNft]

theorem withReceipt_other {holder minter : Address} (h : ¬ (a = nftAsset ∧ t = tokenId)) :
    ((s.withReceipt nftAsset tokenId holder minter).uNfts a).owner t = (s.uNfts a).owner t ∧
      ((s.withReceipt nftAsset tokenId holder minter).uNfts a).minter t
        = (s.uNfts a).minter t := by
  by_cases ha : a = nftAsset
  · subst ha
    have ht : t ≠ tokenId := fun ht => h ⟨rfl, ht⟩
    simp [withReceipt, setUNft, Function.update_of_ne ht]
  · simp [withReceipt, setUNft, Function.update_of_ne ha]

theorem mintUNft_eq_ok : s.mintUNft D nftAsset caller dst tokenId = .ok s' ↔
    (s.uNfts nftAsset).owner tokenId = 0 ∧ (s.erc721 nftAsset).ownerOf tokenId = caller ∧ dst ≠ 0 ∧
    ∃ s₁, s.safeTransferNft D nftAsset (s.lendPool.nfts nftAsset).uNftAddress caller
        (s.lendPool.nfts nftAsset).uNftAddress tokenId = .ok s₁ ∧
      s₁.withReceipt nftAsset tokenId dst caller = s' := by
  unfold mintUNft
  simp only [require_bind_eq_ok]
  constructor
  · rintro ⟨hfree, howner, h⟩
    obtain ⟨s₁, hs₁, h⟩ := bind_eq_ok.mp h
    obtain ⟨hdst, h⟩ := require_bind_eq_ok.mp h
    obtain ⟨-, rfl⟩ := safeTransferNft_eq_ok.mp hs₁
    exact ⟨hfree, howner, hdst, _, hs₁, Except.ok.inj h⟩
  · rintro ⟨hfree, howner, hdst, s₁, hs₁, rfl⟩
    obtain ⟨-, rfl⟩ := safeTransferNft_eq_ok.mp hs₁
    exact ⟨hfree, howner, bind_eq_ok.mpr ⟨_, hs₁, require_bind_eq_ok.mpr ⟨hdst, rfl⟩⟩⟩

theorem burnUNft_eq_ok : s.burnUNft D nftAsset caller tokenId = .ok s' ↔
    (s.uNfts nftAsset).owner tokenId ≠ 0 ∧ (s.uNfts nftAsset).minter tokenId = caller ∧
    ∃ s₁, s.safeTransferNft D nftAsset (s.lendPool.nfts nftAsset).uNftAddress
        (s.lendPool.nfts nftAsset).uNftAddress caller tokenId = .ok s₁ ∧
      s₁.withReceipt nftAsset tokenId 0 0 = s' := by
  unfold burnUNft
  simp only [require_bind_eq_ok]
  constructor
  · rintro ⟨howner, hminter, h⟩
    obtain ⟨s₁, hs₁, h⟩ := bind_eq_ok.mp h
    obtain ⟨-, rfl⟩ := safeTransferNft_eq_ok.mp hs₁
    exact ⟨howner, hminter, _, hs₁, Except.ok.inj h⟩
  · rintro ⟨howner, hminter, s₁, hs₁, rfl⟩
    obtain ⟨-, rfl⟩ := safeTransferNft_eq_ok.mp hs₁
    exact ⟨howner, hminter, bind_eq_ok.mpr ⟨_, hs₁, rfl⟩⟩

/-- **Taking a token in.** The loan contract hands it to the receipt contract. -/
theorem mintUNft_custody (h : Custody D s) (htakes : D.TakesCollateral) :
    Returns (s.mintUNft D nftAsset D.lendPoolLoan dst tokenId) (Custody D) := by
  refine (Sat.returned _).imp fun s' hs' => ?_
  obtain ⟨hfree, -, -, s₁, hs₁, rfl⟩ := mintUNft_eq_ok.mp hs'
  obtain ⟨⟨-, -, -, hreg, -⟩, rfl⟩ := safeTransferNft_eq_ok.mp hs₁
  have hmoved : Custody D (s.NftMoved nftAsset tokenId (s.lendPool.nfts nftAsset).uNftAddress) :=
    h.moved hfree
  refine ⟨fun a t ht => ?_, fun a t _ => htakes, hmoved.proxies, hmoved.guarded⟩
  by_cases hk : a = nftAsset ∧ t = tokenId
  · obtain ⟨rfl, rfl⟩ := hk
    exact ⟨hreg, nftMoved_ownerOf, nftMoved_approved, withReceipt_self.2⟩
  · rw [(withReceipt_other hk).1] at ht
    obtain ⟨hreg', howner, happroved, hminter⟩ := hmoved.held a t ht
    exact ⟨hreg', howner, happroved, (withReceipt_other hk).2.trans hminter⟩

/-- **Taking a token out.** It is with the caller, and no receipt is left for it. -/
theorem burnUNft_custody (h : Custody D s) :
    Returns (s.burnUNft D nftAsset caller tokenId) (fun s' => Custody D s' ∧ D.TakesCollateral ∧
      s' = (s.NftMoved nftAsset tokenId caller).withReceipt nftAsset tokenId 0 0) := by
  refine (Sat.returned _).imp fun s' hs' => ?_
  obtain ⟨hreceipt, -, s₁, hs₁, rfl⟩ := burnUNft_eq_ok.mp hs'
  obtain ⟨-, rfl⟩ := safeTransferNft_eq_ok.mp hs₁
  have hothers : ∀ {a t}, (((s.NftMoved nftAsset tokenId caller).withReceipt nftAsset tokenId
      0 0).uNfts a).owner t ≠ 0 → ¬ (a = nftAsset ∧ t = tokenId) := by
    rintro a t ht ⟨rfl, rfl⟩
    exact ht withReceipt_self.1
  refine ⟨⟨fun a t ht => ?_, fun _ _ _ => h.takes _ _ hreceipt, h.proxies,
    fun a x y hx hxy => ?_⟩, h.takes _ _ hreceipt, rfl⟩
  · have hk := hothers ht
    rw [(withReceipt_other hk).1] at ht
    obtain ⟨hreg, howner, happroved, hminter⟩ := h.held a t ht
    exact ⟨hreg, (nftMoved_other hk).1.trans howner, (nftMoved_other hk).2.trans happroved,
      (withReceipt_other hk).2.trans hminter⟩
  · exact h.guarded a x y hx ((congrFun₂ (nftMoved_operators a) x y).symm.trans hxy)

end State

/-! ## Receipts that go -/

/-- Custody holds again, and a receipt that has gone is one of which `Gone` holds. -/
structure Handled (D : Deployment) (s s' : State) (Gone : Address → ℕ → Prop) : Prop where
  custody : Custody D s'
  receipts : ∀ a t, (s.uNfts a).owner t ≠ 0 → (s'.uNfts a).owner t ≠ 0 ∨ Gone a t

section Handled

variable {D : Deployment} {s s₁ s' : State} {Gone Gone' : Address → ℕ → Prop}

/-- An operation that concerns neither the collections nor their tokens or receipts. -/
theorem Custody.idle (h : Custody D s) (hC : s'.erc721 = s.erc721) (hU : s'.uNfts = s.uNfts)
    (hN : s'.lendPool.nfts = s.lendPool.nfts) : Handled D s s' Gone :=
  ⟨h.ofEq hC hU hN, fun a t ht => .inl (by rw [hU]; exact ht)⟩

theorem Handled.imp (h : Handled D s s' Gone) (hg : ∀ a t, Gone a t → Gone' a t) :
    Handled D s s' Gone' :=
  ⟨h.custody, fun a t ht => (h.receipts a t ht).imp id (hg a t)⟩

/-- What goes before or after without concerning the tokens changes nothing about that. -/
theorem Handled.ofEq (h : Handled D s s₁ Gone) (hC : s'.erc721 = s₁.erc721)
    (hU : s'.uNfts = s₁.uNfts) (hN : s'.lendPool.nfts = s₁.lendPool.nfts) : Handled D s s' Gone :=
  ⟨h.custody.ofEq hC hU hN, fun a t ht => by rw [hU]; exact h.receipts a t ht⟩

end Handled

namespace State

variable {D : Deployment} {s s' : State} {a nftAsset caller src dst : Address} {t tokenId : ℕ}

/-- Closing a loan: its receipt goes, and the token is with the caller. -/
theorem closeLoan_custody (h : Custody D s) {loanId : ℕ}
    {storage : LendPoolLoan → Except Error LendPoolLoan} :
    Returns (s.closeLoan D caller loanId storage) (fun s' =>
      Handled D s s' (fun a t => ((s.lendPoolLoan.loans loanId).nftAsset,
        (s.lendPoolLoan.loans loanId).nftTokenId) = (a, t)) ∧
      ∀ a t, ((s.lendPoolLoan.loans loanId).nftAsset, (s.lendPoolLoan.loans loanId).nftTokenId)
        = (a, t) → (s'.erc721 a).ownerOf t = caller) := by
  unfold closeLoan
  dsimp only
  generalize s.lendPoolLoan.loans loanId = loan
  refine Returns.step fun L _ => ?_
  refine Sat.bind (burnUNft_custody (by exact h.ofEq rfl rfl rfl))
    fun s₁ h₁ => ?_
  obtain ⟨hc₁, -, rfl⟩ := h₁
  refine (safeTransferNft_custody hc₁ (.inr withReceipt_self.1)).imp fun s₂ h₂ => ?_
  obtain ⟨hc₂, -, -, rfl⟩ := h₂
  refine ⟨⟨hc₂, fun a t ht => ?_⟩, fun a t hk => by cases hk; exact nftMoved_ownerOf⟩
  by_cases hk : a = loan.nftAsset ∧ t = loan.nftTokenId
  · obtain ⟨rfl, rfl⟩ := hk
    exact .inr rfl
  · exact .inl ((withReceipt_other hk).1.trans_ne ht)

/-- Handing a loan over: the token goes out of custody and back in. -/
theorem reMintUNFT_custody (h : Custody D s) {oldOnBehalfOf newOnBehalfOf : Address} :
    Returns (s.reMintUNFT D nftAsset tokenId oldOnBehalfOf newOnBehalfOf) (fun s' =>
      Handled D s s' fun _ _ => False) := by
  refine Returns.step fun L _ => ?_
  refine Sat.bind (burnUNft_custody (by exact h.ofEq rfl rfl rfl))
    fun s₁ h₁ => ?_
  obtain ⟨hc₁, htakes, rfl⟩ := h₁
  refine ((mintUNft_custody hc₁ htakes).and (Sat.returned _)).returns.imp fun s₂ h₂ => ?_
  obtain ⟨hc₂, hs₂⟩ := h₂
  obtain ⟨-, -, hdst, s₃, hs₃, rfl⟩ := mintUNft_eq_ok.mp hs₂
  obtain ⟨-, rfl⟩ := safeTransferNft_eq_ok.mp hs₃
  refine ⟨hc₂, fun a t ht => .inl ?_⟩
  by_cases hk : a = nftAsset ∧ t = tokenId
  · obtain ⟨rfl, rfl⟩ := hk
    rw [withReceipt_self.1]
    exact hdst
  · rw [(withReceipt_other hk).1]
    exact (withReceipt_other hk).1.trans_ne ht

/-- Opening a loan or adding to one. -/
theorem borrowOnLoan_custody (h : Custody D s) {initiator asset onBehalfOf : Address}
    {amount : ℕ} (hinitiator : D.isUser initiator) :
    Returns (s.borrowOnLoan D initiator asset amount nftAsset tokenId onBehalfOf) (fun s' =>
      Handled D s s' fun _ _ => False) := by
  have hsrc : D.isProxy initiator = false := by
    by_contra hp
    exact hinitiator.2 (.inr (.inr (.inr (.inr (by simpa using hp)))))
  refine Sat.ite (fun _ => ?_) fun _ => ?_
  · refine Sat.bind (safeTransferNft_custody h (.inl hsrc)) fun s₁ h₁ => ?_
    obtain ⟨hc₁, hpool, -, rfl⟩ := h₁
    refine Returns.step fun L _ => ?_
    refine Sat.bind (safeTransferNft_custody (by exact hc₁.ofEq rfl rfl rfl)
      (.inl D.proxy_ne_lendPool)) fun s₂ h₂ => ?_
    obtain ⟨hc₂, hloan, hzero, rfl⟩ := h₂
    refine ((mintUNft_custody hc₂ ⟨hpool, hloan, hzero⟩).and (Sat.returned _)).returns.imp
      fun s₃ h₃ => ?_
    obtain ⟨hc₃, hs₃⟩ := h₃
    obtain ⟨hfree, -, -, s₄, hs₄, rfl⟩ := mintUNft_eq_ok.mp hs₃
    obtain ⟨-, rfl⟩ := safeTransferNft_eq_ok.mp hs₄
    refine ⟨hc₃, fun a t ht => .inl ?_⟩
    have hk : ¬ (a = nftAsset ∧ t = tokenId) := by
      rintro ⟨rfl, rfl⟩
      exact ht hfree
    exact (withReceipt_other hk).1.trans_ne ht
  · refine Returns.step fun L _ => Sat.imp cancelDebtListingIfExists_posted fun s₁ h₁ => ?_
    obtain ⟨M, E, rfl, -⟩ := h₁
    exact h.idle rfl rfl rfl

/-! ## Delivery -/

/-- Who gets a token that the pool delivers to `dst`: the treasury of the reserve stands in for an
account that does not take it. -/
def takerOf (D : Deployment) (s : State) (reserve dst : Address) : Address :=
  if dst ≠ 0 ∧ D.acceptsNft dst = true then dst else (s.uTokens reserve).treasury

theorem deliverNft_custody (h : Custody D s) {reserve : Address}
    (howner : (s.erc721 nftAsset).ownerOf tokenId = D.lendPool) :
    Returns (s.deliverNft D nftAsset reserve dst tokenId) (fun s' => Custody D s' ∧
      s'.uNfts = s.uNfts ∧
      ∀ a, nftAsset = a → (s'.erc721 a).ownerOf tokenId = s'.takerOf D reserve dst) := by
  have hpool : D.isProxy D.lendPool = false := D.proxy_ne_lendPool
  unfold deliverNft
  split
  · rename_i s' hs'
    obtain ⟨hc, haccepts, hdst, rfl⟩ := (safeTransferNft_custody h (.inl hpool)).ok hs'
    exact ⟨hc, rfl, fun a ha =>
      (nftMoved_ownerOf_of_eq ha).trans (if_pos ⟨hdst, haccepts⟩).symm⟩
  · rename_i e he
    -- the pool owns the token, so the receiver must be the reason
    have hrefused : ¬ (dst ≠ 0 ∧ D.acceptsNft dst = true) := fun ⟨hdst, haccepts⟩ => by
      have hok : s.safeTransferNft D nftAsset D.lendPool D.lendPool dst tokenId
          = .ok (s.NftMoved nftAsset tokenId dst) := safeTransferNft_eq_ok.mpr
        ⟨⟨by rw [howner]; exact D.lendPool_ne_zero, .inl howner.symm, howner, hdst, haccepts⟩, rfl⟩
      rw [hok] at he
      cases he
    refine (safeTransferNft_custody h (.inl hpool)).imp fun s' hs' => ?_
    obtain ⟨hc, -, -, rfl⟩ := hs'
    exact ⟨hc, rfl, fun a ha => (nftMoved_ownerOf_of_eq ha).trans (if_neg hrefused).symm⟩

/-! ## The calls -/

theorem executeDeposit_custody (h : Custody D s) {initiator asset onBehalfOf : Address}
    {amount : ℕ} : Returns (s.executeDeposit D initiator asset amount onBehalfOf)
      (fun s' => Handled D s s' fun _ _ => False) := by
  refine Returns.check fun _ => Returns.check fun _ => Returns.step fun _ _ => ?_
  refine Sat.bind updateState_posted fun s₁ h₁ => ?_
  obtain ⟨Rs, U, rfl, -⟩ := h₁
  refine Sat.bind updateInterestRates_spec.returns fun s₂ h₂ => ?_
  obtain ⟨Rs', rfl, -⟩ := h₂
  refine Sat.bind safeTransferFrom_posted fun s₃ h₃ => ?_
  obtain ⟨E, rfl, -⟩ := h₃
  refine Sat.bind mintUToken_posted fun s₄ h₄ => ?_
  obtain ⟨u, rfl⟩ := h₄
  refine Sat.imp depositReserves_posted fun s₅ h₅ => ?_
  obtain ⟨E', rfl, -⟩ := h₅
  exact h.idle rfl rfl rfl

theorem executeWithdraw_custody (h : Custody D s) {initiator asset receiver : Address}
    {amount : ℕ} : Returns (s.executeWithdraw D initiator asset amount receiver)
      (fun p => Handled D s p.1 fun _ _ => False) := by
  refine Returns.check fun _ => Returns.check fun _ => Returns.step fun _ _ => ?_
  refine Returns.step fun _ _ => ?_
  refine Sat.bind updateState_posted fun s₁ h₁ => ?_
  obtain ⟨Rs, U, rfl, -⟩ := h₁
  refine Sat.bind updateInterestRates_spec.returns fun s₂ h₂ => ?_
  obtain ⟨Rs', rfl, -⟩ := h₂
  refine Sat.bind withdrawReserves_posted fun p h₃ => ?_
  obtain ⟨s₃, value⟩ := p
  obtain ⟨E, n, rfl, -⟩ := h₃
  refine Sat.bind burnUToken_posted fun s₄ h₄ => ?_
  obtain ⟨u, E', rfl, -⟩ := h₄
  exact h.idle rfl rfl rfl

theorem _borrow_custody (h : Custody D s) {initiator asset onBehalfOf : Address} {amount : ℕ}
    (hinitiator : D.isUser initiator) :
    Returns (s._borrow D initiator asset amount nftAsset tokenId onBehalfOf)
      (fun s' => Handled D s s' fun _ _ => False) := by
  refine Returns.check fun _ => ?_
  refine Sat.bind updateState_posted fun s₁ h₁ => ?_
  obtain ⟨Rs, U, rfl, -⟩ := h₁
  refine Returns.step fun _ _ => Returns.step fun _ _ => Returns.check fun _ => ?_
  refine Sat.bind (borrowOnLoan_custody (by exact h.ofEq rfl rfl rfl) hinitiator) fun s₂ h₂ => ?_
  refine Sat.bind mintDebt_posted fun s₃ h₃ => ?_
  obtain ⟨T, rfl, -⟩ := h₃
  refine Sat.bind updateInterestRates_spec.returns fun s₄ h₄ => ?_
  obtain ⟨Rs', rfl, -⟩ := h₄
  refine Sat.bind withdrawReserves_posted fun p h₅ => ?_
  obtain ⟨s₅, value⟩ := p
  obtain ⟨E', n, rfl, -⟩ := h₅
  refine Sat.imp safeTransfer_posted fun s₆ h₆ => ?_
  obtain ⟨E'', rfl, -⟩ := h₆
  exact ⟨h₂.custody.ofEq rfl rfl rfl, h₂.receipts⟩

/-- What a repayment does on the loan contract: only when it covers the debt does a receipt go. -/
theorem repayOnLoan_custody (h : Custody D s) {loanId repayAmount index : ℕ} {isUpdate : Prop}
    [Decidable isUpdate] :
    Returns (s.repayOnLoan D loanId repayAmount index isUpdate) (fun s' =>
      Handled D s s' fun a t => ¬ isUpdate ∧ ((s.lendPoolLoan.loans loanId).nftAsset,
        (s.lendPoolLoan.loans loanId).nftTokenId) = (a, t)) := by
  refine Sat.ite (fun _ => Returns.step fun L _ => h.idle rfl rfl rfl) fun hn => ?_
  exact (closeLoan_custody h).imp fun s' hs' => hs'.1.imp fun _ _ hk => ⟨hn, hk⟩

/-- **Repayment.** A receipt that goes is that of the loan, and the token is with the borrower. -/
theorem _repay_custody (h : Custody D s) (hL : s.lendPoolLoan.Loans) {initiator : Address}
    {amount : ℕ} : Returns (s._repay D initiator nftAsset tokenId amount) (fun p =>
      Handled D s p.1 fun a t => (nftAsset, tokenId) = (a, t) ∧
        (p.1.erc721 a).ownerOf t = (s.loanOn a t).borrower) := by
  refine Returns.check fun hid => ?_
  obtain ⟨-, -, hasset, htoken⟩ := hL.held hid
  refine Sat.bind updateState_posted fun s₁ h₁ => ?_
  obtain ⟨Rs, U, rfl, -⟩ := h₁
  refine Returns.step fun b _ => Returns.step fun _ _ => ?_
  refine Sat.bind cancelDebtListingIfExists_posted fun s₂ h₂ => ?_
  obtain ⟨M, E, rfl, -⟩ := h₂
  refine Sat.bind (repayOnLoan_custody (by exact h.ofEq rfl rfl rfl)) fun s₃ h₃ => ?_
  refine Sat.bind burnDebt_posted fun s₄ h₄ => ?_
  obtain ⟨T, rfl, -⟩ := h₄
  refine Sat.bind updateInterestRates_spec.returns fun s₅ h₅ => ?_
  obtain ⟨Rs', rfl, -⟩ := h₅
  refine Sat.bind safeTransferFrom_posted fun s₆ h₆ => ?_
  obtain ⟨E', rfl, -⟩ := h₆
  refine Sat.bind depositReserves_posted fun s₇ h₇ => ?_
  obtain ⟨E'', rfl, -⟩ := h₇
  -- a debt that is covered gives the token to the borrower
  refine Sat.bind (P := fun s₈ => Handled D s s₈ fun a t => (nftAsset, tokenId) = (a, t) ∧
    (s₈.erc721 a).ownerOf t = (s.loanOn a t).borrower) ?_ fun s₈ h₈ => h₈
  refine Sat.applyIf (fun _ => ?_) fun hlt => ?_
  · refine Sat.imp (safeTransferNft_custody (by exact h₃.custody.ofEq rfl rfl rfl)
      (.inl D.proxy_ne_lendPool)) fun s₈ h₈ => ?_
    obtain ⟨hc₈, -, -, rfl⟩ := h₈
    refine ⟨hc₈, fun a t ht => (h₃.receipts a t ht).imp id fun ⟨_, hk⟩ => ?_⟩
    have hk' : (nftAsset, tokenId) = (a, t) :=
      (Prod.ext hasset htoken : (_, _) = (nftAsset, tokenId)).symm.trans hk
    obtain ⟨rfl, rfl⟩ := Prod.mk.inj hk'
    exact ⟨rfl, nftMoved_ownerOf_of_eq hasset⟩
  · exact ⟨h₃.custody.ofEq rfl rfl rfl, fun a t ht => (h₃.receipts a t ht).imp id fun hk =>
      absurd hk.1 hlt⟩

theorem executeAuction_custody (h : Custody D s) {initiator onBehalfOf : Address}
    {bidPrice : ℕ} : Returns (s.executeAuction D initiator nftAsset tokenId bidPrice onBehalfOf)
      (fun s' => Handled D s s' fun _ _ => False) := by
  refine Returns.check fun _ => Returns.check fun _ => Returns.check fun _ => ?_
  refine Returns.step fun _ _ => ?_
  refine Sat.bind updateState_posted fun s₁ h₁ => ?_
  obtain ⟨Rs, U, rfl, -⟩ := h₁
  refine Returns.step fun prices _ => Returns.step fun _ _ => Returns.step fun L _ => ?_
  refine Sat.bind safeTransferFrom_posted fun s₂ h₂ => ?_
  obtain ⟨E, rfl, -⟩ := h₂
  refine Sat.bind (applyIf_posted safeTransfer_posted) fun s₃ h₃ => ?_
  obtain ⟨E', rfl, -⟩ := h₃
  refine updateInterestRates_spec.returns.imp fun s₄ h₄ => ?_
  obtain ⟨Rs', rfl, -⟩ := h₄
  exact h.idle rfl rfl rfl

theorem executeRedeem_custody (h : Custody D s) {initiator : Address} {amount bidFine : ℕ} :
    Returns (s.executeRedeem D initiator nftAsset tokenId amount bidFine)
      (fun p => Handled D s p.1 fun _ _ => False) := by
  refine Returns.check fun _ => Returns.step fun _ _ => Returns.check fun _ => ?_
  refine Sat.bind updateState_posted fun s₁ h₁ => ?_
  obtain ⟨Rs, U, rfl, -⟩ := h₁
  refine Returns.step fun fine _ => Returns.step fun L _ => ?_
  refine Sat.bind burnDebt_posted fun s₂ h₂ => ?_
  obtain ⟨T, rfl, -⟩ := h₂
  refine Sat.bind cancelDebtListingIfExists_posted fun s₃ h₃ => ?_
  obtain ⟨M, E, rfl, -⟩ := h₃
  refine Sat.bind updateInterestRates_spec.returns fun s₄ h₄ => ?_
  obtain ⟨Rs', rfl, -⟩ := h₄
  refine Sat.bind safeTransferFrom_posted fun s₅ h₅ => ?_
  obtain ⟨E₁, rfl, -⟩ := h₅
  refine Sat.bind depositReserves_posted fun s₆ h₆ => ?_
  obtain ⟨E₂, rfl, -⟩ := h₆
  refine Sat.bind settleRedeem_posted fun s₇ h₇ => ?_
  obtain ⟨E₃, rfl, -⟩ := h₇
  exact h.idle rfl rfl rfl

/-- **Liquidation.** The token goes to the highest bidder. -/
theorem executeLiquidate_custody (h : Custody D s) (hL : s.lendPoolLoan.Loans)
    {initiator : Address} {amount : ℕ} :
    Returns (s.executeLiquidate D initiator nftAsset tokenId amount) (fun p =>
      Handled D s p.1 fun a t => (nftAsset, tokenId) = (a, t) ∧ (p.1.erc721 a).ownerOf t
        = p.1.takerOf D (s.loanOn a t).reserveAsset (s.loanOn a t).bidderAddress) := by
  refine Returns.check fun hid => ?_
  obtain ⟨-, -, hasset, htoken⟩ := hL.held hid
  refine Returns.step fun _ _ => Returns.check fun _ => ?_
  refine Sat.bind updateState_posted fun s₁ h₁ => ?_
  obtain ⟨Rs, U, rfl, -⟩ := h₁
  refine Returns.step fun prices _ => Returns.check fun _ => ?_
  refine Sat.bind (closeLoan_custody (by exact h.ofEq rfl rfl rfl)) fun s₂ h₂ => ?_
  obtain ⟨hh₂, howner⟩ := h₂
  refine Sat.bind burnDebt_posted fun s₃ h₃ => ?_
  obtain ⟨T, rfl, -⟩ := h₃
  refine Sat.bind cancelDebtListingIfExists_posted fun s₄ h₄ => ?_
  obtain ⟨M, E, rfl, -⟩ := h₄
  refine Sat.bind updateInterestRates_spec.returns fun s₅ h₅ => ?_
  obtain ⟨Rs', rfl, -⟩ := h₅
  refine Sat.bind (applyIf_posted safeTransferFrom_posted) fun s₆ h₆ => ?_
  obtain ⟨E₁, rfl, -⟩ := h₆
  refine Sat.bind safeTransfer_posted fun s₇ h₇ => ?_
  obtain ⟨E₂, rfl, -⟩ := h₇
  refine Sat.bind depositReserves_posted fun s₈ h₈ => ?_
  obtain ⟨E₃, rfl, -⟩ := h₈
  refine Sat.bind (applyIf_posted safeTransfer_posted) fun s₉ h₉ => ?_
  obtain ⟨E₄, rfl, -⟩ := h₉
  refine Sat.bind (deliverNft_custody (by exact hh₂.custody.ofEq rfl rfl rfl)
    (by exact howner _ _ (Prod.ext rfl htoken))) fun s₁₀ h₁₀ => ?_
  obtain ⟨hc, hreceipts, hdelivered⟩ := h₁₀
  refine ⟨hc, fun a t ht => ?_⟩
  rw [hreceipts]
  refine (hh₂.receipts a t ht).imp id fun hk => ?_
  have hk' : (nftAsset, tokenId) = (a, t) :=
    (Prod.ext hasset htoken : (_, _) = (nftAsset, tokenId)).symm.trans hk
  obtain ⟨rfl, rfl⟩ := Prod.mk.inj hk'
  exact ⟨rfl, hdelivered _ hasset⟩

/-- **Buyout.** The token goes to the account that the buyer names. -/
theorem executeBuyout_custody (h : Custody D s) (hL : s.lendPoolLoan.Loans)
    {initiator onBehalfOf : Address} :
    Returns (s.executeBuyout D initiator nftAsset tokenId onBehalfOf) (fun s' =>
      Handled D s s' fun a t => (nftAsset, tokenId) = (a, t) ∧
        (s'.erc721 a).ownerOf t = s'.takerOf D (s.loanOn a t).reserveAsset onBehalfOf) := by
  refine Returns.check fun _ => Returns.check fun hid => ?_
  obtain ⟨-, -, hasset, htoken⟩ := hL.held hid
  refine Returns.step fun nftPrice _ => ?_
  refine Sat.bind updateState_posted fun s₁ h₁ => ?_
  obtain ⟨Rs, U, rfl, -⟩ := h₁
  refine Returns.step fun health _ => Returns.check fun _ => Returns.step fun prices _ => ?_
  refine Returns.step fun fine _ => Returns.step fun _ _ => Returns.step fun discounted _ => ?_
  refine Sat.bind (closeLoan_custody (by exact h.ofEq rfl rfl rfl)) fun s₂ h₂ => ?_
  obtain ⟨hh₂, howner⟩ := h₂
  refine Sat.bind burnDebt_posted fun s₃ h₃ => ?_
  obtain ⟨T, rfl, -⟩ := h₃
  refine Sat.bind cancelDebtListingIfExists_posted fun s₄ h₄ => ?_
  obtain ⟨M, E, rfl, -⟩ := h₄
  refine Sat.bind updateInterestRates_spec.returns fun s₅ h₅ => ?_
  obtain ⟨Rs', rfl, -⟩ := h₅
  refine Sat.bind safeTransferFrom_posted fun s₆ h₆ => ?_
  obtain ⟨E₁, rfl, -⟩ := h₆
  refine Sat.bind safeTransfer_posted fun s₇ h₇ => ?_
  obtain ⟨E₂, rfl, -⟩ := h₇
  refine Sat.bind depositReserves_posted fun s₈ h₈ => ?_
  obtain ⟨E₃, rfl, -⟩ := h₈
  refine Returns.step fun remainAmount _ => Sat.bind settleBuyout_posted fun p h₉ => ?_
  obtain ⟨s₉, left⟩ := p
  obtain ⟨-, E₄, rfl, -⟩ := h₉
  refine Sat.bind (applyIf_posted safeTransfer_posted) fun s₁₀ h₁₀ => ?_
  obtain ⟨E₅, rfl, -⟩ := h₁₀
  refine Sat.imp (deliverNft_custody (by exact hh₂.custody.ofEq rfl rfl rfl)
    (by exact howner _ _ (Prod.ext rfl htoken))) fun s₁₁ h₁₁ => ?_
  obtain ⟨hc, hreceipts, hdelivered⟩ := h₁₁
  refine ⟨hc, fun a t ht => ?_⟩
  rw [hreceipts]
  refine (hh₂.receipts a t ht).imp id fun hk => ?_
  have hk' : (nftAsset, tokenId) = (a, t) :=
    (Prod.ext hasset htoken : (_, _) = (nftAsset, tokenId)).symm.trans hk
  obtain ⟨rfl, rfl⟩ := Prod.mk.inj hk'
  exact ⟨rfl, hdelivered _ hasset⟩

/-- A position that is sold keeps its receipt, in the name of the buyer. -/
theorem _transferDebt_custody (h : Custody D s) {onBehalfOf : Address} :
    Returns (s._transferDebt D nftAsset tokenId onBehalfOf)
      (fun s' => Handled D s s' fun _ _ => False) := by
  refine Sat.bind updateReserveState_posted fun s₁ h₁ => ?_
  obtain ⟨Rs, U, rfl, -⟩ := h₁
  refine Returns.step fun b _ => Returns.check fun _ => ?_
  refine Sat.bind burnDebt_posted fun s₂ h₂ => ?_
  obtain ⟨T₁, rfl, -⟩ := h₂
  refine Sat.bind mintDebt_posted fun s₃ h₃ => ?_
  obtain ⟨T, rfl, -⟩ := h₃
  refine Sat.bind (reMintUNFT_custody (by exact h.ofEq rfl rfl rfl)) fun s₄ h₄ => ?_
  refine Sat.bind updateReserveInterestRates_spec.returns fun s₅ h₅ => ?_
  obtain ⟨Rs', rfl, -⟩ := h₅
  refine Returns.step fun M _ => ⟨h₄.custody.ofEq rfl rfl rfl, h₄.receipts⟩

theorem buy_custody (h : Custody D s) {onBehalfOf : Address} {amount : ℕ} :
    Returns (s.buy D caller nftAsset tokenId onBehalfOf amount)
      (fun s' => Handled D s s' fun _ _ => False) := by
  refine Returns.check fun _ => Returns.step fun _ _ => Returns.check fun _ => ?_
  refine Returns.check fun _ => Sat.bind (_transferDebt_custody h) fun s₁ h₁ => ?_
  refine Returns.step fun price _ => Returns.check fun _ => ?_
  refine Sat.bind safeTransferFrom_posted fun s₂ h₂ => ?_
  obtain ⟨E, rfl, -⟩ := h₂
  refine Sat.imp (applyIf_posted safeTransferFrom_posted) fun s₃ h₃ => ?_
  obtain ⟨E', rfl, -⟩ := h₃
  exact h₁.ofEq rfl rfl rfl

theorem bid_custody (h : Custody D s) {onBehalfOf : Address} {bidPrice : ℕ} :
    Returns (s.bid D caller nftAsset tokenId bidPrice onBehalfOf)
      (fun s' => Handled D s s' fun _ _ => False) := by
  refine Returns.check fun _ => Returns.step fun _ _ => Returns.step fun sellPrice _ => ?_
  refine Returns.check fun _ => Returns.check fun _ => Returns.check fun _ => ?_
  refine Returns.check fun _ => ?_
  refine Sat.bind (P := fun s' => Handled D s s' fun _ _ => False) ?_ fun s₁ h₁ => ?_
  · refine Sat.ite (fun _ => _transferDebt_custody h) fun _ => ?_
    exact Returns.step fun _ _ => Returns.check fun _ => h.idle rfl rfl rfl
  refine Sat.bind safeTransferFrom_posted fun s₂ h₂ => ?_
  obtain ⟨E, rfl, -⟩ := h₂
  refine Sat.imp (applyIf_posted safeTransferFrom_posted) fun s₃ h₃ => ?_
  obtain ⟨E', rfl, -⟩ := h₃
  exact h₁.ofEq rfl rfl rfl

theorem claim_custody (h : Custody D s) {onBehalfOf : Address} :
    Returns (s.claim D nftAsset tokenId onBehalfOf)
      (fun s' => Handled D s s' fun _ _ => False) := by
  refine Returns.check fun _ => Returns.step fun _ _ => Returns.check fun _ => ?_
  refine Returns.check fun _ => Returns.check fun _ => ?_
  refine Sat.bind (_transferDebt_custody (by exact h.ofEq rfl rfl rfl)) fun s₁ h₁ => ?_
  refine Sat.imp safeTransfer_posted fun s₂ h₂ => ?_
  obtain ⟨E, rfl, -⟩ := h₂
  exact ⟨h₁.custody.ofEq rfl rfl rfl, h₁.receipts⟩

/-- The module passes on what it holds, and what it holds has no receipt. -/
theorem passOn_custody (h : Custody D s) {module buyer : Address}
    (hfree : (s.uNfts nftAsset).owner tokenId = 0)
    (hheld : (s.erc721 nftAsset).ownerOf tokenId = module) :
    Returns (s.passOn nftAsset module buyer tokenId) (fun s' => Custody D s' ∧
      s'.uNfts = s.uNfts ∧ (s'.erc721 nftAsset).ownerOf tokenId = buyer) := by
  refine Sat.ite (fun hkept => ⟨h, rfl, hheld.trans hkept.symm⟩) fun _ => ?_
  refine Returns.step fun c hc => ?_
  obtain ⟨-, -, -, -, rfl⟩ := Erc721.transferFrom_eq_ok.mp hc
  exact ⟨h.moved hfree, rfl, nftMoved_ownerOf⟩

/-- A sale hands the token to the module, which passes it on. -/
theorem sellNft_custody (h : Custody D s) {module : Address} {sale : Sale D} :
    Returns (s.sellNft D nftAsset tokenId module sale) (fun s' => Custody D s' ∧
      s'.uNfts = s.uNfts ∧ (s'.erc721 nftAsset).ownerOf tokenId = sale.buyer) := by
  unfold sellNft
  split
  · rename_i s' hs'
    obtain ⟨s₁, hs₁, hsold⟩ := bind_eq_ok.mp hs'
    -- the adapter is no token proxy, so what it sends has no receipt
    have hadapter := (safeTransferNft_eq_ok.mp hs₁).1
    have hfree := h.free (by rw [hadapter.2.2.1]; exact D.proxy_ne_reservoirAdapter)
    obtain ⟨hc, -, -, rfl⟩ := (safeTransferNft_custody h (.inl D.proxy_ne_reservoirAdapter)).ok hs₁
    obtain ⟨s₂, hs₂, hpaid⟩ := bind_eq_ok.mp hsold
    obtain ⟨hc₂, hreceipts, howner⟩ := (passOn_custody hc hfree nftMoved_ownerOf).ok hs₂
    obtain ⟨E, rfl, -⟩ := (paySale_posted sale.payments).ok hpaid
    exact ⟨hc₂.ofEq rfl rfl rfl, hreceipts, howner⟩
  · trivial

/-- **Sale on an outside market.** The token is with the buyer. -/
theorem liquidateReservoir_custody (h : Custody D s) (hL : s.lendPoolLoan.Loans)
    {reserveAsset module : Address} {sale : Sale D} {expectedLiquidateAmount : ℕ} :
    Returns (s.liquidateReservoir D caller nftAsset reserveAsset tokenId module sale
      expectedLiquidateAmount) (fun s' => Handled D s s' fun a t =>
        (nftAsset, tokenId) = (a, t) ∧ (s'.erc721 a).ownerOf t = sale.buyer) := by
  refine Returns.check fun _ => Returns.check fun _ => ?_
  refine Sat.bind updateReserveState_posted fun s₁ h₁ => ?_
  obtain ⟨Rs, U, rfl, -⟩ := h₁
  refine Sat.bind (P := fun _ => s.lendPoolLoan.getCollateralLoanId nftAsset tokenId ≠ 0) ?_
    fun _ hid => ?_
  · exact Returns.check fun hid => (Sat.returned _).imp fun _ _ => hid
  obtain ⟨-, -, hasset, htoken⟩ := hL.held hid
  refine Returns.step fun _ _ => Returns.step fun auction _ => Returns.step fun b _ => ?_
  refine Sat.bind (closeLoan_custody (by exact h.ofEq rfl rfl rfl)) fun s₂ h₂ => ?_
  obtain ⟨hh₂, -⟩ := h₂
  refine Sat.bind (sellNft_custody hh₂.custody) fun s₃ h₃ => ?_
  obtain ⟨hc₃, hreceipts, howner⟩ := h₃
  refine Returns.step fun gained _ => Returns.check fun _ => ?_
  refine Sat.bind burnDebt_posted fun s₄ h₄ => ?_
  obtain ⟨T, rfl, -⟩ := h₄
  refine Sat.bind cancelDebtListingIfExists_posted fun s₅ h₅ => ?_
  obtain ⟨M, E, rfl, -⟩ := h₅
  refine Sat.bind updateReserveInterestRates_spec.returns fun s₆ h₆ => ?_
  obtain ⟨Rs', rfl, -⟩ := h₆
  refine Sat.imp _settleLiquidation_posted fun s₇ h₇ => ?_
  obtain ⟨E', rfl, -⟩ := h₇
  refine ⟨hc₃.ofEq rfl rfl rfl, fun a t ht => ?_⟩
  show (s₃.uNfts a).owner t ≠ 0 ∨ _
  rw [hreceipts]
  refine (hh₂.receipts a t ht).imp id fun hk => ?_
  have hk' : (nftAsset, tokenId) = (a, t) :=
    (Prod.ext hasset htoken : (_, _) = (nftAsset, tokenId)).symm.trans hk
  obtain ⟨rfl, rfl⟩ := Prod.mk.inj hk'
  exact ⟨rfl, howner⟩

end State

/-! ## Every step -/

/-- The token whose loan a call may close. -/
def Call.exitOf {D : Deployment} : Call D → Option (Address × ℕ)
  | .repay nftAsset nftTokenId _ | .liquidate nftAsset nftTokenId _
  | .buyout nftAsset nftTokenId _ => some (nftAsset, nftTokenId)
  | .liquidateReservoir nftAsset _ tokenId .. => some (nftAsset, tokenId)
  | _ => none

/-- The account that the token of a loan goes to when a call closes the loan. In a sale it is handed
to the module, and the hook of the module passes it on. -/
def State.receiverOf {D : Deployment} (s : State) (l : LoanData) : Call D → Address
  | .liquidate .. => s.takerOf D l.reserveAsset l.bidderAddress
  | .buyout _ _ onBehalfOf => s.takerOf D l.reserveAsset onBehalfOf
  | .liquidateReservoir _ _ _ _ sale _ => sale.buyer
  | _ => l.borrower

section Steps

open State

variable {D : Deployment} {s s' : State} {sender : Address}

/-- Tokens and approvals of accounts outside do not concern custody. -/
theorem Custody.outside (h : Custody D s) {nftAsset : Address} {c : Erc721}
    (htokens : ∀ t, (s.uNfts nftAsset).owner t ≠ 0 →
      c.ownerOf t = (s.erc721 nftAsset).ownerOf t ∧ c.approved t = (s.erc721 nftAsset).approved t)
    (hoperators : ∀ x y, D.isProtocol x → c.operators x y = true →
      D.isProtocol y ∨ (s.erc721 nftAsset).operators x y = true) :
    Custody D (s.setErc721 nftAsset c) := by
  refine ⟨fun a t ht => ?_, h.takes, h.proxies, fun a x y hx hxy => ?_⟩
  · obtain ⟨hreg, howner, happroved, hminter⟩ := h.held a t ht
    by_cases ha : a = nftAsset
    · subst ha
      obtain ⟨ho, hp⟩ := htokens t ht
      refine ⟨hreg, ?_, ?_, hminter⟩
      · simp only [setErc721, Function.update_self]
        exact ho.trans howner
      · simp only [setErc721, Function.update_self]
        exact hp.trans happroved
    · refine ⟨hreg, ?_, ?_, hminter⟩
      · simp only [setErc721, Function.update_of_ne ha]
        exact howner
      · simp only [setErc721, Function.update_of_ne ha]
        exact happroved
  · by_cases ha : a = nftAsset
    · subst ha
      simp only [setErc721, Function.update_self] at hxy
      exact (hoperators x y hx hxy).elim id (h.guarded a x y hx)
    · simp only [setErc721, Function.update_of_ne ha] at hxy
      exact h.guarded a x y hx hxy

/-- **What an account outside does with tokens**: not with those in custody. -/
theorem transferErc721_custody (h : Custody D s) (hs : D.isUser sender)
    {nftAsset src dst : Address} {tokenId : ℕ} :
    Returns (s.transferErc721 nftAsset sender src dst tokenId)
      (fun s' => Handled D s s' fun _ _ => False) := by
  refine Returns.step fun c hc => ?_
  obtain ⟨-, hmay, -, -, rfl⟩ := Erc721.transferFrom_eq_ok.mp hc
  refine ⟨h.outside ?_ ?_, fun a t ht => .inl ht⟩
  · intro t ht
    have hne : t ≠ tokenId := by
      rintro rfl
      exact hs.2 (h.mover ht hs.1 hmay)
    exact ⟨Erc721.handed_ownerOf_of_ne hne, Erc721.handed_approved_of_ne hne⟩
  · exact fun x y _ hxy => .inr hxy

theorem approveErc721_custody (h : Custody D s) (hs : D.isUser sender)
    {nftAsset dst : Address} {tokenId : ℕ} :
    Returns (s.approveErc721 nftAsset sender dst tokenId)
      (fun s' => Handled D s s' fun _ _ => False) := by
  refine Returns.check fun hmay => ?_
  refine ⟨h.outside ?_ ?_, fun a t ht => .inl ht⟩
  · intro t ht
    have hne : t ≠ tokenId := by
      rintro rfl
      exact hs.2 (h.mover ht hs.1 (hmay.imp id .inr))
    exact ⟨rfl, Function.update_of_ne hne _ _⟩
  · exact fun x y _ hxy => .inr hxy

theorem setOperator_custody (h : Custody D s) (hs : D.isUser sender) {nftAsset operator : Address}
    {approved : Bool} :
    Handled D s (s.setOperator nftAsset sender operator approved) fun _ _ => False := by
  refine ⟨h.outside ?_ ?_, fun a t ht => .inl ht⟩
  · exact fun t _ => ⟨rfl, rfl⟩
  intro x y hx hxy
  have hne : ¬ (x = sender ∧ y = operator) := by
    rintro ⟨rfl, -⟩
    exact hs.2 hx
  have hkept : update₂ (s.erc721 nftAsset).operators sender operator approved x y
      = (s.erc721 nftAsset).operators x y := by
    rw [update₂_apply, if_neg hne]
  exact .inr (hkept.symm.trans hxy)

/-- **Every call keeps custody**, and only the exits let a receipt go. -/
theorem perform_custody (h : Books D s) (hc : Custody D s) (hs : D.isUser sender) (c : Call D) :
    Returns (s.perform D sender c) (fun s' => Handled D s s' fun a t =>
      c.exitOf = some (a, t) ∧ (s'.erc721 a).ownerOf t = s'.receiverOf (s.loanOn a t) c) := by
  have keeps {x : Except Error State} {Gone : State → Address → ℕ → Prop}
      (hx : Returns x fun s' => Handled D s s' fun _ _ => False) :
      Returns x fun s' => Handled D s s' (Gone s') :=
    hx.imp fun s' hs' => hs'.imp fun _ _ hf => hf.elim
  cases c with
  | deposit asset amount onBehalfOf =>
    exact keeps (Returns.check fun _ => executeDeposit_custody hc)
  | withdraw asset amount receiver =>
    exact keeps (Returns.check fun _ => fst_spec (executeWithdraw_custody hc))
  | borrow asset amount nftAsset nftTokenId onBehalfOf =>
    exact keeps (Returns.check fun _ => _borrow_custody hc hs)
  | repay nftAsset nftTokenId amount =>
    refine Returns.check fun _ => fst_spec ((_repay_custody hc h.loans).imp fun p hp => ?_)
    exact hp.imp fun a t ⟨hk, ho⟩ => ⟨congrArg some hk, ho⟩
  | auction nftAsset nftTokenId bidPrice onBehalfOf =>
    exact keeps (Returns.check fun _ => executeAuction_custody hc)
  | redeem nftAsset nftTokenId amount bidFine =>
    exact keeps (Returns.check fun _ => fst_spec (executeRedeem_custody hc))
  | liquidate nftAsset nftTokenId amount =>
    refine Returns.check fun _ => fst_spec ((executeLiquidate_custody hc h.loans).imp
      fun p hp => ?_)
    exact hp.imp fun a t ⟨hk, ho⟩ => ⟨congrArg some hk, ho⟩
  | buyout nftAsset nftTokenId onBehalfOf =>
    refine Returns.check fun _ => (executeBuyout_custody hc h.loans).imp fun s' hs' => ?_
    exact hs'.imp fun a t ⟨hk, ho⟩ => ⟨congrArg some hk, ho⟩
  | updateReserveState asset =>
    refine Sat.imp updateReserveState_posted fun s' hs' => ?_
    obtain ⟨Rs, U, rfl, -⟩ := hs'
    exact hc.idle rfl rfl rfl
  | updateReserveInterestRates asset =>
    refine updateReserveInterestRates_spec.returns.imp fun s' hs' => ?_
    obtain ⟨Rs, rfl, -⟩ := hs'
    exact hc.idle rfl rfl rfl
  | transferBidAmount reserveAsset bidder bidAmount =>
    refine Returns.check fun _ => Sat.imp safeTransfer_posted fun s' hs' => ?_
    obtain ⟨E, rfl, -⟩ := hs'
    exact hc.idle rfl rfl rfl
  | createDebtListing nftAsset tokenId sellPrice onBehalfOf startBiddingPrice auctionEnd =>
    refine Returns.check fun _ => Returns.check fun _ => Returns.check fun _ => ?_
    exact Returns.check fun _ => Returns.step fun M _ => hc.idle rfl rfl rfl
  | cancelDebtListing nftAsset tokenId =>
    refine Sat.imp cancelDebtListing_posted fun s' hs' => ?_
    obtain ⟨M, E, rfl, -⟩ := hs'
    exact hc.idle rfl rfl rfl
  | buy nftAsset tokenId onBehalfOf amount => exact keeps (buy_custody hc)
  | bid nftAsset tokenId bidPrice onBehalfOf => exact keeps (bid_custody hc)
  | claim nftAsset tokenId onBehalfOf => exact keeps (claim_custody hc)
  | liquidateReservoir nftAsset reserveAsset tokenId module sale expectedLiquidateAmount =>
    refine (liquidateReservoir_custody hc h.loans).imp fun s' hs' => ?_
    exact hs'.imp fun a t ⟨hk, ho⟩ => ⟨congrArg some hk, ho⟩
  | approveDelegation asset delegatee amount => exact hc.idle rfl rfl rfl
  | transfer asset dst amount =>
    refine Sat.imp safeTransfer_posted fun s' hs' => ?_
    obtain ⟨E, rfl, -⟩ := hs'
    exact hc.idle rfl rfl rfl
  | transferFrom asset src dst amount =>
    refine Sat.imp safeTransferFrom_posted fun s' hs' => ?_
    obtain ⟨E, rfl, -⟩ := hs'
    exact hc.idle rfl rfl rfl
  | approve asset spender amount => exact hc.idle rfl rfl rfl
  | burn asset amount => exact Returns.check fun _ => hc.idle rfl rfl rfl
  | transferNft asset src dst tokenId => exact keeps (transferErc721_custody hc hs)
  | approveNft asset dst tokenId => exact keeps (approveErc721_custody hc hs)
  | setApprovalForAll asset operator approved =>
    exact (setOperator_custody hc hs).imp fun _ _ hf => hf.elim

/-- Setting up a collection lets the pool's contracts, and no others, move tokens of the pool. -/
theorem initNft_custody (hc : Custody D s) {asset uNft : Address} (hproxy : D.isProxy uNft = true) :
    Returns (s.initNft D asset uNft) (Custody D) := by
  refine Returns.check fun _ => Returns.check fun hnew => ?_
  have hnone : ∀ t, (s.uNfts asset).owner t = 0 := fun t => by
    by_contra ht
    exact (hc.held asset t ht).registered hnew
  refine ⟨fun a t ht => ?_, hc.takes, fun a ha => ?_, fun a x y hx hxy => ?_⟩
  · have ha : a ≠ asset := by
      rintro rfl
      exact ht (hnone t)
    obtain ⟨hreg, howner, happroved, hminter⟩ := hc.held a t ht
    refine ⟨?_, ?_, ?_, hminter⟩ <;>
      simp only [setNft, setPool, setErc721, Function.update_of_ne ha] <;> assumption
  · by_cases heq : a = asset
    · subst heq
      simp only [setNft, setPool, setErc721, Function.update_self]
      exact hproxy
    · simp only [setNft, setPool, setErc721, Function.update_of_ne heq] at ha ⊢
      exact hc.proxies a ha
  · by_cases heq : a = asset
    · subst heq
      simp only [setNft, setPool, setErc721, Function.update_self, update₂_apply] at hxy
      split_ifs at hxy with h₁ h₂
      · exact .inr (.inr (.inr (.inr (h₁.2 ▸ hproxy))))
      · exact .inr (.inl h₂.2)
      · exact hc.guarded a x y hx hxy
    · simp only [setNft, setPool, setErc721, Function.update_of_ne heq] at hxy
      exact hc.guarded a x y hx hxy

/-- **Every setting keeps custody.** -/
theorem configure_custody (hc : Custody D s) (setting : Setting D) :
    Returns (s.configure D setting) (fun s' => Custody D s' ∧ s'.uNfts = s.uNfts) := by
  cases setting with
  | initReserve asset uToken treasury interestRate decimals proxy =>
    exact Returns.check fun _ => Returns.step fun _ _ => Returns.step fun _ _ =>
      ⟨hc.ofEq rfl rfl rfl, rfl⟩
  | setBorrowingFlagOnReserve | setFreezeFlagOnReserve | setReserveFactor =>
    exact Returns.step fun _ _ => ⟨hc.ofEq rfl rfl rfl, rfl⟩
  | setActiveFlagOnReserve asset flag =>
    have hset : Returns (s.configureReserve asset fun c => .ok (setActive flag c))
        (fun s' => Custody D s' ∧ s'.uNfts = s.uNfts) :=
      Returns.step fun _ _ => ⟨hc.ofEq rfl rfl rfl, rfl⟩
    show Returns (s.setActiveFlagOnReserve asset flag) _
    unfold setActiveFlagOnReserve
    split
    · exact Returns.step fun _ _ => hset
    · exact hset
  | setReserveInterestRateAddress | updateSafeHealthFactor | updateUTokenManagers
  | updateTokenManagers | updateMarketAdapters | updateLiquidators | updateModules
  | setDeltaBidPercent | setAuthorizedAddress | setTreasuryAddress =>
    exact Returns.check fun _ => ⟨hc.ofEq rfl rfl rfl, rfl⟩
  | configInterestRate => exact Returns.step fun _ _ => ⟨hc.ofEq rfl rfl rfl, rfl⟩
  | initNft asset uNft proxy =>
    refine ((initNft_custody hc proxy).and (Sat.returned _)).returns.imp fun s' hs' => ?_
    obtain ⟨hc', hs'⟩ := hs'
    obtain ⟨-, hs'⟩ := require_bind_eq_ok.mp hs'
    obtain ⟨-, hs'⟩ := require_bind_eq_ok.mp hs'
    obtain rfl := Except.ok.inj hs'
    exact ⟨hc', rfl⟩
  | setNftConfiguration asset configuration =>
    refine ⟨hc.ofAddresses rfl rfl fun a => ?_, rfl⟩
    by_cases ha : a = asset
    · subst ha
      simp only [setNft, setPool, Function.update_self]
    · simp only [setNft, setPool, Function.update_of_ne ha]
  | setPoolPause val =>
    show Custody D (s.setPause val) ∧ (s.setPause val).uNfts = s.uNfts
    unfold setPause
    split_ifs <;> exact ⟨hc.ofEq rfl rfl rfl, rfl⟩
  | _ => exact ⟨hc.ofEq rfl rfl rfl, rfl⟩

/-- **Nothing around the protocol touches it**: a token in custody is not issued again. -/
theorem happen_custody (hc : Custody D s) (e : Event) :
    Custody D (s.happen e) ∧ (s.happen e).uNfts = s.uNfts := by
  cases e with
  | mintNft asset dst tokenId =>
    simp only [happen]
    split
    · rename_i hzero
      have hkept : ∀ t, (s.uNfts asset).owner t ≠ 0 → t ≠ tokenId := by
        rintro t ht rfl
        obtain ⟨hreg, howner, -, -⟩ := hc.held asset t ht
        exact hreg (howner.symm.trans hzero)
      exact ⟨hc.outside (fun t ht => ⟨Function.update_of_ne (hkept t ht) _ _, rfl⟩)
        fun x y _ hxy => .inr hxy, rfl⟩
    · exact ⟨hc, rfl⟩
  | _ => exact ⟨hc.ofEq rfl rfl rfl, rfl⟩

/-- **Every step keeps custody.** A receipt goes with a call that closes the loan, and the token
is then with the account that the call owes it to. -/
theorem execute_custody (h : Books D s) (hc : Custody D s) (action : Action D) :
    Returns (s.execute D action) (fun s' => Handled D s s' fun a t =>
      ∃ sender outside c, action = .call sender outside c ∧ c.exitOf = some (a, t) ∧
        (s'.erc721 a).ownerOf t = s'.receiverOf (s.loanOn a t) c) := by
  cases action with
  | call sender outside c =>
    exact (perform_custody h hc outside c).imp fun s' hs' =>
      hs'.imp fun a t hk => ⟨sender, outside, c, rfl, hk⟩
  | configure setting =>
    refine (configure_custody hc setting).imp fun s' hs' => ⟨hs'.1, fun a t ht => .inl ?_⟩
    rw [hs'.2]
    exact ht
  | event e =>
    obtain ⟨hc', hU⟩ := happen_custody hc e
    refine ⟨hc', fun a t ht => .inl ?_⟩
    rw [hU]
    exact ht

end Steps

/-! ## Runs -/

/-- The states of runs from a fresh deployment with untouched collections. -/
abbrev ReachableUntouched (D : Deployment) (allowed : State → Action D → Prop) : State → Prop :=
  Machine.Reachable (fun s => Genesis D s ∧ UntouchedCollateral D s) (Step D allowed)

section Runs

variable {D : Deployment} {allowed : State → Action D → Prop} {s s' : State} {a : Address} {t : ℕ}

theorem ReachableUntouched.reachable (hr : ReachableUntouched D allowed s) :
    Reachable D allowed s :=
  hr.ofFewer fun _ h => h.1

theorem ReachableUntouched.custody (hr : ReachableUntouched D allowed s) : Custody D s := by
  refine Machine.Reachable.invariant (fun s hs => hs.1.custody hs.2) (fun s s' hr hc hst => ?_) hr
  obtain ⟨action, -, hs'⟩ := hst
  exact ((execute_custody (ReachableUntouched.reachable hr).books hc action).ok hs').custody

/-- A token has a receipt exactly while there is a loan on it. -/
theorem Books.receipt_iff (h : Books D s) :
    (s.uNfts a).owner t ≠ 0 ↔ s.lendPoolLoan.getCollateralLoanId a t ≠ 0 := by
  constructor
  · intro ht hid
    refine ht ((h.receipts a t).trans ?_)
    have hnone : s.lendPoolLoan.registry.held (a, t) = none := by
      by_contra hsome
      obtain ⟨l, hl⟩ := Option.ne_none_iff_exists'.mp hsome
      exact (Registry.held_eq_some.mp hl).1 hid
    rw [hnone]
    rfl
  · intro hid
    obtain ⟨hheld, hlive, -, -⟩ := h.loans.held hid
    rw [h.receipts a t, hheld]
    exact (h.loans.wellFormed _).borrower hlive

/-- **The collateral of every loan is in custody.** Over every run, the token of a live loan belongs
to the receipt contract of its collection, its receipt belongs to the borrower, and no account
outside the protocol may move it. -/
theorem collateral_in_custody (hr : ReachableUntouched D allowed s)
    (hid : s.lendPoolLoan.getCollateralLoanId a t ≠ 0) :
    (s.loanOn a t).live ∧ (s.uNfts a).owner t = (s.loanOn a t).borrower ∧ s.InCustody D a t ∧
      ∀ sender, D.isUser sender → ¬ (s.erc721 a).isApprovedOrOwner sender t := by
  have hb := (ReachableUntouched.reachable hr).books
  have hc := hr.custody
  have hreceipt := hb.receipt_iff.mpr hid
  obtain ⟨hheld, hlive, -, -⟩ := hb.loans.held hid
  refine ⟨hlive, ?_, hc.held a t hreceipt, fun sender hs hmay =>
    hs.2 (hc.mover hreceipt hs.1 hmay)⟩
  rw [hb.receipts a t, hheld]
  rfl

/-- **It leaves by an exit of its loan.** Whatever is done, in any order, a token on which there is
a loan is either still in custody for a loan or the step was a repayment, a liquidation, a buyout or
an outside sale of that very loan. Then the token is with the borrower, the highest bidder or the
account the buyer named, or it was handed to the module and is with whom its hook has passed it on
to; in the place of a bidder or buyer that does not take tokens stands the treasury. -/
theorem collateral_leaves_by_exit (hr : ReachableUntouched D allowed s) {action : Action D}
    (hs' : s.execute D action = .ok s') (hid : s.lendPoolLoan.getCollateralLoanId a t ≠ 0) :
    (s'.lendPoolLoan.getCollateralLoanId a t ≠ 0 ∧ s'.InCustody D a t) ∨
    ∃ sender outside c, action = .call sender outside c ∧ c.exitOf = some (a, t) ∧
      (s'.erc721 a).ownerOf t = s'.receiverOf (s.loanOn a t) c := by
  have hb := (ReachableUntouched.reachable hr).books
  have hb' : Books D s' :=
    Reachable.books (.next (ReachableUntouched.reachable hr).any ⟨action, trivial, hs'⟩)
  have hh := (execute_custody hb hr.custody action).ok hs'
  refine (hh.receipts a t (hb.receipt_iff.mpr hid)).imp (fun ht => ?_) id
  exact ⟨hb'.receipt_iff.mp ht, hh.custody.held a t ht⟩

/-- Taking a token out of custody goes through for every account that takes tokens. -/
theorem Custody.releases (hc : Custody D s) (ht : (s.uNfts a).owner t ≠ 0) {caller : Address}
    (hcaller : caller ≠ 0) (haccepts : D.acceptsNft caller = true) :
    ∃ s₁, s.releaseNft D caller a t = .ok s₁ ∧ (s₁.erc721 a).ownerOf t = caller := by
  obtain ⟨hreg, howner, -, hminter⟩ := hc.held a t ht
  obtain ⟨-, hloan, hzero⟩ := hc.takes a t ht
  have hout : s.burnUNft D a D.lendPoolLoan t
      = .ok ((s.NftMoved a t D.lendPoolLoan).withReceipt a t 0 0) := by
    refine State.burnUNft_eq_ok.mpr ⟨ht, hminter, _, State.safeTransferNft_eq_ok.mpr
      ⟨⟨?_, .inl howner.symm, howner, hzero, hloan⟩, rfl⟩, rfl⟩
    rw [howner]
    exact hreg
  have hheld : (((s.NftMoved a t D.lendPoolLoan).withReceipt a t 0 0).erc721 a).ownerOf t
      = D.lendPoolLoan := State.nftMoved_ownerOf
  refine ⟨_, bind_eq_ok.mpr ⟨_, hout, State.safeTransferNft_eq_ok.mpr
    ⟨⟨?_, .inl hheld.symm, hheld, hcaller, haccepts⟩, rfl⟩⟩, State.nftMoved_ownerOf⟩
  rw [hheld]
  exact hzero

/-- **No token is stuck.** In every state of every run, the token of a live loan can be taken out of
custody into the pool and sent on to any account that takes tokens: none of the checks on the way,
of the receipt contract or of the collection, can fail. -/
theorem collateral_can_leave (hr : ReachableUntouched D allowed s)
    (hid : s.lendPoolLoan.getCollateralLoanId a t ≠ 0) {dst : Address} (hdst : dst ≠ 0)
    (haccepts : D.acceptsNft dst = true) :
    ∃ s₁ s₂, s.releaseNft D D.lendPool a t = .ok s₁ ∧
      s₁.safeTransferNft D a D.lendPool D.lendPool dst t = .ok s₂ ∧
      (s₂.erc721 a).ownerOf t = dst := by
  have hc := hr.custody
  have ht := (ReachableUntouched.reachable hr).books.receipt_iff.mpr hid
  obtain ⟨s₁, hs₁, howner⟩ := hc.releases ht D.lendPool_ne_zero (hc.takes a t ht).lendPool
  refine ⟨s₁, _, hs₁, State.safeTransferNft_eq_ok.mpr
    ⟨⟨?_, .inl howner.symm, howner, hdst, haccepts⟩, rfl⟩, State.nftMoved_ownerOf⟩
  rw [howner]
  exact D.lendPool_ne_zero

/-- A sequence of allowed actions is a run, up to where it reverts. -/
theorem State.after_run {actions : List (Action D)} (hall : ∀ a ∈ actions, ∀ s, allowed s a) :
    Relation.ReflTransGen (Step D allowed) s (s.after D actions) := by
  unfold State.after
  split
  · exact (State.record_history .start actions hall ‹_›).1.run
  · exact .refl

end Runs

/-- The users of the fresh deployment have let the pool move their tokens, and no contract has let
anybody. -/
theorem State.sample_untouched (kind : Erc20Kind) :
    UntouchedCollateral .larger (.sample kind) where
  collections _ := rfl
  guarded a x y hx hxy := by
    have heq : x = 100 ∧ y = 1 := of_decide_eq_true hxy
    exact absurd (heq.1 ▸ hx) Deployment.larger_borrower.2

theorem State.larger_untouched (kind : Erc20Kind) (actions : List (Action .larger)) :
    ReachableUntouched .larger (anyAction .larger) (State.larger kind actions) :=
  Machine.Reachable.run (.start ⟨State.sample_genesis_larger kind, State.sample_untouched kind⟩)
    (State.after_run fun _ _ _ => trivial)

/-- The loan of the larger deployment. -/
theorem collateral_in_custody_sample :
    ((State.larger .weth9 largerLoan).loanOn 40 7).live ∧
    ((State.larger .weth9 largerLoan).uNfts 40).owner 7
      = ((State.larger .weth9 largerLoan).loanOn 40 7).borrower ∧
    (State.larger .weth9 largerLoan).InCustody .larger 40 7 ∧
    ∀ sender, Deployment.larger.isUser sender →
      ¬ ((State.larger .weth9 largerLoan).erc721 40).isApprovedOrOwner sender 7 :=
  collateral_in_custody (State.larger_untouched .weth9 largerLoan) (by decide +kernel)

/-- User 104 sells it through the module 105, and it ends up with the buyer. -/
theorem collateral_leaves_by_exit_sample : ∃ s',
    (State.larger .weth9 (largerLoan ++ largerAuction)).execute .larger
      (.call 104 (Deployment.larger_isUser 4) (largerSale 10 (35 * WAD))) = .ok s' ∧
    (s'.erc721 40).ownerOf 7 = 107 := by
  have hok := State.execute_after (s := State.larger .weth9 (largerLoan ++ largerAuction))
    (a := .call 104 (Deployment.larger_isUser 4) (largerSale 10 (35 * WAD))) (by decide +kernel)
  have hclosed : ((State.larger .weth9 (largerLoan ++ largerAuction)).after .larger
      [.call 104 (Deployment.larger_isUser 4) (largerSale 10 (35 * WAD))]
      ).lendPoolLoan.getCollateralLoanId 40 7 = 0 := by decide +kernel
  refine ⟨_, hok, ?_⟩
  have hexit := collateral_leaves_by_exit
    (State.larger_untouched .weth9 (largerLoan ++ largerAuction)) hok (a := 40) (t := 7)
    (by decide +kernel)
  generalize (State.larger .weth9 (largerLoan ++ largerAuction)).after .larger
    [.call 104 (Deployment.larger_isUser 4) (largerSale 10 (35 * WAD))] = s' at *
  rcases hexit with ⟨hlive, -⟩ | ⟨_, _, c, hcall, -, howner⟩
  · exact absurd hclosed hlive
  · obtain rfl : largerSale 10 (35 * WAD) = c := by injection hcall
    exact howner

/-- User 104 could be sent the token. -/
theorem collateral_can_leave_sample : ∃ s₁ s₂,
    (State.larger .weth9 largerLoan).releaseNft .larger 1 40 7 = .ok s₁ ∧
    s₁.safeTransferNft .larger 40 1 1 104 7 = .ok s₂ ∧ (s₂.erc721 40).ownerOf 7 = 104 :=
  collateral_can_leave (State.larger_untouched .weth9 largerLoan) (by decide +kernel)
    (by decide) rfl

end Unlockd
