/-
The lists of reserves and of collections that `LendPool.sol` keeps.

A list is a count, a mapping from places to assets, and the place of each asset in the record of the
asset itself, in eight bits. An asset is put at the next place when it is initialised, unless it
has a place already: a place other than zero is told by the record, and place zero by looking at
what is there. The largest count is a setting, at most 255, which can also be lowered below the
present count.

The lists stand beside the state of the protocol, and their calls run between all others. At every
moment a list holds the initialised assets, each of them once, and each is told its place.
-/
import Unlockd.Liquidity
import Unlockd.Lifecycle
import Unlockd.Lib.Enumeration

set_option autoImplicit false

namespace Unlockd

open Outcome Enumeration

/-! ## One list -/

/-- A conversion to `uint8`. -/
def uint8 (n : ℕ) : ℕ := n % 2 ^ 8

/-- A list of assets: `_reservesCount`, `_maxNumberOfReserves`, `_reservesList` and the `id` of each
record in `_reserves`; or the same of collections. -/
structure AssetList where
  count : ℕ
  maxNumber : ℕ
  list : ℕ → Address
  id : Address → ℕ

namespace AssetList

/-- The list as `initialize` leaves it. -/
def initialized (maxNumber : ℕ) : AssetList := ⟨0, maxNumber, fun _ => 0, fun _ => 0⟩

variable (l : AssetList)

/-- Put an asset at the next place, if there is room, and it has none yet. -/
def addToList (noMore : Error) (asset : Address) : Except Error AssetList := do
  require (l.count < l.maxNumber) noMore
  if l.id asset ≠ 0 ∨ l.list 0 = asset then return l
  else return { l with
    id := Function.update l.id asset (uint8 l.count)
    list := Function.update l.list l.count asset
    count := l.count + 1 }

/-- Set how many assets there may be. -/
def setMaxNumber (val : ℕ) : Except Error AssetList := do
  require (val ≤ 255) Error.LP_INVALID_OVERFLOW_VALUE
  return { l with maxNumber := val }

/-- The assets in the order of their places. -/
def entries : List Address := (List.range l.count).map l.list

end AssetList

/-! ## The pool with its lists -/

/-- Which accounts have code; the zero address has none. -/
structure Codes where
  isContract : Address → Bool
  zero : isContract 0 = false

theorem Codes.ne_zero (C : Codes) {a : Address} (h : C.isContract a = true) : a ≠ 0 := by
  intro h0
  rw [h0, C.zero] at h
  cases h

/-- The protocol with the lists of its pool. -/
structure ListedPool where
  state : State
  reservesList : AssetList
  nftsList : AssetList

/-- Whether an action initialises an asset. -/
def Action.initialises {D : Deployment} : Action D → Bool
  | .configure (.initReserve _ _ _ _ _ _) => true
  | .configure (.initNft _ _ _) => true
  | _ => false

/-- What can happen to the protocol, where assets are listed as they are initialised. -/
inductive ListedAction (D : Deployment)
  | initReserve (asset uToken treasury interestRate : Address) (decimals : ℕ)
      (proxy : D.isProxy uToken = true)
  | initNft (asset uNft : Address) (proxy : D.isProxy uNft = true)
  | setMaxNumberOfReserves (val : ℕ)
  | setMaxNumberOfNfts (val : ℕ)
  | other (a : Action D) (listed : a.initialises = false)

namespace ListedPool

variable (D : Deployment) (p : ListedPool)

/-- `_addReserveToList`. -/
def _addReserveToList (asset : Address) : Except Error ListedPool := do
  let l ← p.reservesList.addToList Error.LP_NO_MORE_RESERVES_ALLOWED asset
  return { p with reservesList := l }

/-- `_addNftToList`. -/
def _addNftToList (asset : Address) : Except Error ListedPool := do
  let l ← p.nftsList.addToList Error.LP_NO_MORE_NFTS_ALLOWED asset
  return { p with nftsList := l }

/-- `initReserve`, as the configurator calls it. -/
def initReserve (C : Codes) (asset uToken treasury interestRate : Address) (decimals : ℕ) :
    Except Error ListedPool := do
  require (C.isContract asset = true) Error.LP_NOT_CONTRACT
  let s ← p.state.executeInitReserve asset uToken treasury interestRate decimals
  { p with state := s }._addReserveToList asset

/-- `initNft`, as the configurator calls it. -/
def initNft (C : Codes) (asset uNft : Address) : Except Error ListedPool := do
  require (C.isContract asset = true) Error.LP_NOT_CONTRACT
  let s ← p.state.initNft D asset uNft
  { p with state := s }._addNftToList asset

/-- `setMaxNumberOfReserves`. -/
def setMaxNumberOfReserves (val : ℕ) : Except Error ListedPool := do
  let l ← p.reservesList.setMaxNumber val
  return { p with reservesList := l }

/-- `setMaxNumberOfNfts`. -/
def setMaxNumberOfNfts (val : ℕ) : Except Error ListedPool := do
  let l ← p.nftsList.setMaxNumber val
  return { p with nftsList := l }

/-- `getReservesList`. -/
def getReservesList : List Address := p.reservesList.entries

/-- `getNftsList`. -/
def getNftsList : List Address := p.nftsList.entries

/-- What an action does, with accounts that have code. -/
def execute (C : Codes) : ListedAction D → Except Error ListedPool
  | .initReserve asset uToken treasury interestRate decimals _ =>
      p.initReserve C asset uToken treasury interestRate decimals
  | .initNft asset uNft _ => p.initNft D C asset uNft
  | .setMaxNumberOfReserves val => p.setMaxNumberOfReserves val
  | .setMaxNumberOfNfts val => p.setMaxNumberOfNfts val
  | .other a _ => do
      let s ← p.state.execute D a
      return { p with state := s }

/-- A protocol that has been deployed and not used, with the lists that `initialize` sets up. -/
structure Genesis : Prop where
  state : Unlockd.Genesis D p.state
  nfts : p.state.lendPool.nfts = fun _ => .empty
  reservesList : p.reservesList = .initialized 32
  nftsList : p.nftsList = .initialized 255

/-- One step; between two steps code may have been deployed. -/
def Step (p p' : ListedPool) : Prop := ∃ C a, p.execute D C a = .ok p'

/-- What a run can lead to. -/
abbrev Reachable : ListedPool → Prop := Machine.Reachable (Genesis D) (Step D)

end ListedPool

/-! ## Which assets are initialised -/

namespace State

/-- The reserves that have been initialised. -/
def initialisedReserves (s : State) : Set Address :=
  {asset | (s.lendPool.reserves asset).uTokenAddress ≠ 0}

/-- The collections that have been initialised. -/
def initialisedNfts (s : State) : Set Address :=
  {asset | (s.lendPool.nfts asset).uNftAddress ≠ 0}

variable {D : Deployment} {s s' : State}

/-- No asset was initialised. -/
structure SameAssets (s s' : State) : Prop where
  reserves : ∀ r, (s'.lendPool.reserves r).uTokenAddress = (s.lendPool.reserves r).uTokenAddress
  nfts : ∀ a, (s'.lendPool.nfts a).uNftAddress = (s.lendPool.nfts a).uNftAddress

theorem SameAssets.initialisedReserves (h : SameAssets s s') :
    s'.initialisedReserves = s.initialisedReserves := by
  ext r
  exact not_congr (by rw [h.reserves])

theorem SameAssets.initialisedNfts (h : SameAssets s s') :
    s'.initialisedNfts = s.initialisedNfts := by
  ext a
  exact not_congr (by rw [h.nfts])

theorem initialisedReserves_setReserve {asset : Address} {R : ReserveData}
    (hR : R.uTokenAddress ≠ 0) :
    (s.setReserve asset R).initialisedReserves = insert asset s.initialisedReserves := by
  ext r
  rw [Set.mem_insert_iff]
  simp only [initialisedReserves, Set.mem_ofPred_eq, setReserve]
  by_cases hr : r = asset
  · rw [hr, Function.update_self]
    exact iff_of_true hR (.inl rfl)
  · rw [Function.update_of_ne hr, or_iff_right hr]

theorem initialisedNfts_setNft {asset : Address} {N : NftData} (hN : N.uNftAddress ≠ 0) :
    (s.setNft asset N).initialisedNfts = insert asset s.initialisedNfts := by
  ext a
  rw [Set.mem_insert_iff]
  simp only [initialisedNfts, Set.mem_ofPred_eq, setNft, setPool]
  by_cases ha : a = asset
  · rw [ha, Function.update_self]
    exact iff_of_true hN (.inl rfl)
  · rw [Function.update_of_ne ha, or_iff_right ha]

/-- Initialising a reserve adds it to the reserves. -/
theorem executeInitReserve_assets {asset uToken treasury interestRate : Address} {decimals : ℕ} :
    Returns (s.executeInitReserve asset uToken treasury interestRate decimals) (fun s' =>
      s'.initialisedReserves = insert asset s.initialisedReserves ∧
      s'.initialisedNfts = s.initialisedNfts) := by
  refine Returns.check fun haddr => Returns.step fun R hR => Returns.step fun c _ => ?_
  obtain ⟨-, hR⟩ := require_bind_eq_ok.mp hR
  obtain rfl := Except.ok.inj hR
  exact ⟨initialisedReserves_setReserve haddr.1, rfl⟩

/-- Initialising a collection adds it to the collections. -/
theorem initNft_assets {asset uNft : Address} :
    Returns (s.initNft D asset uNft) (fun s' =>
      s'.initialisedNfts = insert asset s.initialisedNfts ∧
      s'.initialisedReserves = s.initialisedReserves) :=
  Returns.check fun haddr => Returns.check fun _ => ⟨initialisedNfts_setNft haddr, rfl⟩

/-- No other setting touches the receipts of a collection. -/
theorem configure_collections {setting : Setting D}
    (hother : (Action.configure setting).initialises = false) :
    Returns (s.configure D setting) (fun s' =>
      ∀ a, (s'.lendPool.nfts a).uNftAddress = (s.lendPool.nfts a).uNftAddress) := by
  cases setting with
  | initReserve => cases hother
  | initNft => cases hother
  | setNftConfiguration asset configuration =>
    intro a
    simp only [setNft, setPool]
    by_cases ha : a = asset
    · rw [ha, Function.update_self]
    · rw [Function.update_of_ne ha]
  | setActiveFlagOnReserve asset flag =>
    refine Sat.ite (fun _ => Returns.step fun _ _ => ?_) fun _ => ?_
    · exact Returns.step fun _ _ _ => rfl
    · exact Returns.step fun _ _ _ => rfl
  | setPoolPause val =>
    change ∀ a, ((s.setPause val).lendPool.nfts a).uNftAddress = _
    intro a
    unfold State.setPause
    split_ifs <;> rfl
  | setBorrowingFlagOnReserve => exact Returns.step fun _ _ _ => rfl
  | setFreezeFlagOnReserve => exact Returns.step fun _ _ _ => rfl
  | setReserveFactor => exact Returns.step fun _ _ _ => rfl
  | configInterestRate => exact Returns.step fun _ _ _ => rfl
  | setReserveInterestRateAddress => exact Returns.check fun _ _ => rfl
  | setTreasuryAddress => exact Returns.check fun _ _ => rfl
  | updateSafeHealthFactor => exact Returns.check fun _ _ => rfl
  | updateUTokenManagers => exact Returns.check fun _ _ => rfl
  | updateTokenManagers => exact Returns.check fun _ _ => rfl
  | updateMarketAdapters => exact Returns.check fun _ _ => rfl
  | updateLiquidators => exact Returns.check fun _ _ => rfl
  | updateModules => exact Returns.check fun _ _ => rfl
  | setDeltaBidPercent => exact Returns.check fun _ _ => rfl
  | setAuthorizedAddress => exact Returns.check fun _ _ => rfl
  | _ => exact fun _ => rfl

/-- **Every other action** leaves the assets as they are. -/
theorem execute_sameAssets (h : Books D s) {a : Action D} (hother : a.initialises = false)
    (ha : s.execute D a = .ok s') : SameAssets s s' := by
  cases a with
  | call sender outside c =>
    obtain ⟨_, _, _, _, heffect, -⟩ := (perform_spec h outside c).ok ha
    have hpool := ((perform_keepsSettings h c).ok ha).pool
    unfold State.OnlyReserves at hpool
    refine ⟨fun r => (heffect.reserves r).grown.uTokenAddress, fun a => ?_⟩
    rw [hpool]
  | configure setting =>
    refine ⟨fun r => ?_, (configure_collections hother).ok ha⟩
    rcases (configure_named setting).ok ha r with hr | ⟨_, _, _, _, _, rfl, -⟩
    · exact hr
    · cases hother
  | event e =>
    obtain rfl := Except.ok.inj ha
    have hpool : (s.happen e).lendPool = s.lendPool := by
      cases e with
      | mintNft asset dst tokenId =>
        unfold State.happen
        dsimp only
        split <;> rfl
      | _ => rfl
    exact ⟨fun r => by rw [hpool], fun a => by rw [hpool]⟩

end State

/-! ## The lists hold the initialised assets -/

namespace AssetList

variable {l : AssetList} {S : Set Address}

/-- The list is what it should be of a set of assets: its places hold them, each once, each asset is
told its place, and places fit into eight bits. -/
structure Consistent (l : AssetList) (S : Set Address) : Prop where
  indexes : Indexes l.count l.list l.id S
  count_le : l.count ≤ 255
  maxNumber_le : l.maxNumber ≤ 255

theorem consistent_initialized {maxNumber : ℕ} (h : maxNumber ≤ 255) :
    Consistent (initialized maxNumber) ∅ := ⟨.empty, Nat.zero_le _, h⟩

/-- Putting an asset into the list. -/
theorem Consistent.add (h : Consistent l S) {noMore : Error} {asset : Address} (ha : asset ≠ 0) :
    Returns (l.addToList noMore asset) (fun l' => Consistent l' (insert asset S)) := by
  refine Returns.check fun hroom => Sat.ite (fun hlisted => ?_) fun hnew => ?_
  · -- it has its place already
    have hmem := (h.indexes.mem_iff ha).mp hlisted
    change Consistent l (insert asset S)
    rw [Set.insert_eq_of_mem hmem]
    exact h
  · have hout : asset ∉ S := fun hmem => hnew ((h.indexes.mem_iff ha).mpr hmem)
    have hmax := h.maxNumber_le
    -- there is room below 255, and so the conversion of the count changes nothing
    have hplace : uint8 l.count = l.count := Nat.mod_eq_of_lt (by omega)
    refine ⟨?_, ?_, hmax⟩
    · dsimp only
      rw [hplace]
      exact h.indexes.push hout
    · dsimp only
      omega

/-- Setting how many there may be, also below how many there are. -/
theorem Consistent.setMaxNumber (h : Consistent l S) {val : ℕ} :
    Returns (l.setMaxNumber val) (fun l' => Consistent l' S) :=
  Returns.check fun hval => ⟨h.indexes, h.count_le, hval⟩

end AssetList

namespace ListedPool

variable {D : Deployment} {p p' : ListedPool}

/-- The state is one of the protocol, and its lists are right. -/
structure Sound (D : Deployment) (p : ListedPool) : Prop where
  state : Unlockd.Reachable D (anyAction D) p.state
  reserves : p.reservesList.Consistent p.state.initialisedReserves
  nfts : p.nftsList.Consistent p.state.initialisedNfts

theorem Genesis.sound (g : Genesis D p) : Sound D p := by
  have hreserves : p.state.initialisedReserves = ∅ := by
    ext r
    refine iff_of_false (fun h => h ?_) fun h => h
    rw [g.state.reserves]
    rfl
  have hnfts : p.state.initialisedNfts = ∅ := by
    ext a
    refine iff_of_false (fun h => h ?_) fun h => h
    rw [g.nfts]
    rfl
  refine ⟨.start g.state, ?_, ?_⟩
  · rw [g.reservesList, hreserves]
    exact AssetList.consistent_initialized (by decide)
  · rw [g.nftsList, hnfts]
    exact AssetList.consistent_initialized (by decide)

/-- The four calls on the lists keep them right. -/
theorem Sound.initReserve (h : Sound D p) (C : Codes)
    {asset uToken treasury interestRate : Address} {decimals : ℕ}
    (proxy : D.isProxy uToken = true) :
    Returns (p.initReserve C asset uToken treasury interestRate decimals) (Sound D) := by
  refine Returns.check fun hcode => Returns.step fun s hs => Returns.step fun l hl => ?_
  obtain ⟨hreserves, hnfts⟩ := State.executeInitReserve_assets.ok hs
  refine ⟨h.state.next ⟨.configure (.initReserve _ _ _ _ _ proxy), trivial, hs⟩, ?_, ?_⟩
  · change l.Consistent s.initialisedReserves
    rw [hreserves]
    exact (h.reserves.add (C.ne_zero hcode)).ok hl
  · change p.nftsList.Consistent s.initialisedNfts
    rw [hnfts]
    exact h.nfts

@[inherit_doc Sound.initReserve]
theorem Sound.initNft (h : Sound D p) (C : Codes) {asset uNft : Address}
    (proxy : D.isProxy uNft = true) : Returns (p.initNft D C asset uNft) (Sound D) := by
  refine Returns.check fun hcode => Returns.step fun s hs => Returns.step fun l hl => ?_
  obtain ⟨hnfts, hreserves⟩ := State.initNft_assets.ok hs
  refine ⟨h.state.next ⟨.configure (.initNft _ _ proxy), trivial, hs⟩, ?_, ?_⟩
  · change p.reservesList.Consistent s.initialisedReserves
    rw [hreserves]
    exact h.reserves
  · change l.Consistent s.initialisedNfts
    rw [hnfts]
    exact (h.nfts.add (C.ne_zero hcode)).ok hl

/-- **Step lemma.** -/
theorem Sound.step (h : Sound D p) (hst : Step D p p') : Sound D p' := by
  obtain ⟨C, a, ha⟩ := hst
  cases a with
  | initReserve asset uToken treasury interestRate decimals proxy =>
    exact (h.initReserve C proxy).ok ha
  | initNft asset uNft proxy => exact (h.initNft C proxy).ok ha
  | setMaxNumberOfReserves val =>
    refine Sat.ok (E := fun _ => True) (Returns.step fun l hl => ?_) ha
    exact ⟨h.state, h.reserves.setMaxNumber.ok hl, h.nfts⟩
  | setMaxNumberOfNfts val =>
    refine Sat.ok (E := fun _ => True) (Returns.step fun l hl => ?_) ha
    exact ⟨h.state, h.reserves, h.nfts.setMaxNumber.ok hl⟩
  | other a listed =>
    refine Sat.ok (E := fun _ => True) (Returns.step fun s hs => ?_) ha
    have hsame := State.execute_sameAssets h.state.books listed hs
    refine ⟨h.state.next ⟨a, trivial, hs⟩, ?_, ?_⟩
    · change p.reservesList.Consistent s.initialisedReserves
      rw [hsame.initialisedReserves]
      exact h.reserves
    · change p.nftsList.Consistent s.initialisedNfts
      rw [hsame.initialisedNfts]
      exact h.nfts

/-- **Run lemma.** -/
theorem Reachable.sound (h : Reachable D p) : Sound D p :=
  Machine.Reachable.invariant (fun _ g => g.sound) (fun _ _ _ hp hst => hp.step hst) h

end ListedPool

/-- What a list is to be of the assets that are initialised: its places hold different ones of them,
each of which has its place in its record, and all of them are there. -/
structure AssetList.Holds (l : AssetList) (initialised : Address → Prop) : Prop where
  initialised_entry : ∀ i, i < l.count → initialised (l.list i)
  distinct : ∀ i j, i < l.count → j < l.count → l.list i = l.list j → i = j
  id_entry : ∀ i, i < l.count → l.id (l.list i) = i
  listed : ∀ asset, initialised asset → ∃ i, i < l.count ∧ l.list i = asset

theorem AssetList.Consistent.holds {l : AssetList} {S : Set Address} (h : l.Consistent S) :
    l.Holds (· ∈ S) where
  initialised_entry := h.indexes.mem
  distinct _ _ hi hj heq := h.indexes.inj hi hj heq
  id_entry := h.indexes.index_entry
  listed := h.indexes.exists_entry

/-- **The lists are consistent.** After any sequence of calls, whatever else happens between, each
list holds just the initialised assets, each once and at the place that its record says; and so
what the pool returns as its list enumerates them. -/
theorem asset_lists_consistent {D : Deployment} {p : ListedPool} (h : p.Reachable D) :
    p.reservesList.Holds (fun r => (p.state.lendPool.reserves r).uTokenAddress ≠ 0) ∧
    p.nftsList.Holds (fun a => (p.state.lendPool.nfts a).uNftAddress ≠ 0) ∧
    (p.getReservesList.Nodup ∧ ∀ r, r ∈ p.getReservesList ↔
      (p.state.lendPool.reserves r).uTokenAddress ≠ 0) ∧
    (p.getNftsList.Nodup ∧ ∀ a, a ∈ p.getNftsList ↔
      (p.state.lendPool.nfts a).uNftAddress ≠ 0) := by
  have hsound := h.sound
  have hreserves := hsound.reserves.indexes.enumerates
  have hnfts := hsound.nfts.indexes.enumerates
  exact ⟨hsound.reserves.holds, hsound.nfts.holds, ⟨hreserves.nodup, hreserves.mem_iff⟩,
    hnfts.nodup, hnfts.mem_iff⟩

/-! ## A run -/

namespace ListedPool

/-- The small deployment before anything is initialised. -/
def fresh : ListedPool := ⟨.sample .weth9, .initialized 32, .initialized 255⟩

theorem fresh_genesis : Genesis .sample fresh := ⟨State.sample_genesis .weth9, rfl, rfl, rfl⟩

/-- Every account but the zero address has code. -/
def sampleCodes : Codes := ⟨fun a => decide (a ≠ 0), by decide⟩

/-- The pool after a sequence of actions; one that reverts leads nowhere. -/
def listed (actions : List (ListedAction .sample)) : ListedPool :=
  match actions.foldlM (fun p a => p.execute .sample sampleCodes a) fresh with
  | .ok p => p
  | .error _ => fresh

theorem listed_reachable (actions : List (ListedAction .sample)) :
    Reachable .sample (listed actions) := by
  have hstart : Reachable .sample fresh := .start fresh_genesis
  unfold listed
  split
  · rename_i p hp
    refine Sat.ok (Q := Reachable .sample) (E := fun _ => True) (Returns.foldlM ?_ hstart) hp
    intro a _ p hp
    exact (Sat.returned _).imp fun p' hp' => hp.next ⟨sampleCodes, a, hp'⟩
  · exact hstart

theorem isProxy_20 : Deployment.sample.isProxy 20 = true := rfl

theorem isProxy_21 : Deployment.sample.isProxy 21 = true := rfl

/-- Two reserves and a collection are initialised, and the first reserve can be borrowed. -/
def sampleLists : ListedPool :=
  listed [.initReserve 10 20 6 12 18 isProxy_20, .initReserve 13 21 6 12 18 isProxy_21,
    .initNft 40 21 isProxy_21,
    .other (.configure (.setBorrowingFlagOnReserve 10 true)) rfl]

end ListedPool

theorem asset_lists_consistent_sample :
    ListedPool.sampleLists.getReservesList = [10, 13] ∧
    ListedPool.sampleLists.getNftsList = [40] ∧
    ListedPool.sampleLists.reservesList.id 13 = 1 ∧
    ∀ r, r ∈ ListedPool.sampleLists.getReservesList ↔
      (ListedPool.sampleLists.state.lendPool.reserves r).uTokenAddress ≠ 0 := by
  obtain ⟨hreserves, -, hlist, -⟩ := asset_lists_consistent (ListedPool.listed_reachable _)
  refine ⟨by decide +kernel, by decide +kernel, ?_, hlist.2⟩
  exact hreserves.id_entry 1 (by decide +kernel)

end Unlockd
