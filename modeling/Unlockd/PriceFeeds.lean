/-
The price feeds of `ReserveOracle.sol`: the mapping from assets to aggregators, and the array of the
assets that have one.

The mapping and the array are written separately. An aggregator that is set puts its key at the end
of the array unless the key has one already; one that is removed takes its key out by writing the
last key over it. Whatever is added, overwritten and removed, and in whichever order, the array
holds just the keys whose aggregator is not zero, each of them once. So the search through the
array, on which every price depends, finds what the mapping has.
-/
import Unlockd.ReserveOracle
import Unlockd.Lib.Enumeration
import Unlockd.Lib.Machine

set_option autoImplicit false

namespace Unlockd

namespace ReserveOracle

open Outcome Enumeration

/-! ## The contract -/

/-- What `initialize` leaves. -/
def initialized (weth : Address) : ReserveOracle where
  priceFeedMap := fun _ => 0
  priceFeedKeys := []
  weth := weth

variable (o : ReserveOracle)

/-- `getAggregator`. -/
def getAggregator (priceFeedKey : Address) : Address := o.priceFeedMap priceFeedKey

/-- `requireNonEmptyAddress`. -/
def requireNonEmptyAddress (addr : Address) : Except OracleError Unit :=
  require (addr ≠ 0) OracleError.emptyAddress

/-- `_addAggregator`. -/
def _addAggregator (priceFeedKey aggregator : Address) : Except OracleError ReserveOracle := do
  requireNonEmptyAddress priceFeedKey
  requireNonEmptyAddress aggregator
  let priceFeedKeys :=
    if o.priceFeedMap priceFeedKey = 0 then o.priceFeedKeys ++ [priceFeedKey] else o.priceFeedKeys
  return { o with
    priceFeedKeys := priceFeedKeys
    priceFeedMap := Function.update o.priceFeedMap priceFeedKey aggregator }

/-- `removeAggregator`. Its loop looks for the first occurrence of the key. -/
def removeAggregator (priceFeedKey : Address) : Except OracleError ReserveOracle := do
  requireNonEmptyAddress (o.priceFeedMap priceFeedKey)
  return { o with
    priceFeedMap := Function.update o.priceFeedMap priceFeedKey 0
    priceFeedKeys := swapRemove o.priceFeedKeys priceFeedKey }

/-- `setAggregators`. -/
def setAggregators (priceFeedKeys aggregators : List Address) :
    Except OracleError ReserveOracle := do
  require (priceFeedKeys.length = aggregators.length) OracleError.inconsistentParamsLength
  (priceFeedKeys.zip aggregators).foldlM (fun o feed => o._addAggregator feed.1 feed.2) o

/-- The calls that change the feeds. -/
inductive FeedCall
  | addAggregator (priceFeedKey aggregator : Address)
  | setAggregators (priceFeedKeys aggregators : List Address)
  | removeAggregator (priceFeedKey : Address)

/-- What a call does that the owner makes. -/
def changeFeeds : FeedCall → Except OracleError ReserveOracle
  | .addAggregator priceFeedKey aggregator => o._addAggregator priceFeedKey aggregator
  | .setAggregators priceFeedKeys aggregators => o.setAggregators priceFeedKeys aggregators
  | .removeAggregator priceFeedKey => o.removeAggregator priceFeedKey

/-- A call by some sender, under the modifier `onlyOwner`. -/
def performFeedCall (owner sender : Address) (c : FeedCall) : Except OracleError ReserveOracle := do
  require (owner = sender) OracleError.callerIsNotTheOwner
  o.changeFeeds c

/-- One step of a run: a call that does not revert. The ownership may change between calls. -/
def FeedStep (o o' : ReserveOracle) : Prop :=
  ∃ owner sender c, o.performFeedCall owner sender c = .ok o'

/-- The oracles that calls can lead to. -/
abbrev FeedsReachable : ReserveOracle → Prop :=
  Machine.Reachable (fun o => ∃ weth, o = initialized weth) FeedStep

/-! ## What a call does -/

section Calls

variable {o} {o' : ReserveOracle} {k a : Address}

/-- The keys that have an aggregator. -/
def feeds (o : ReserveOracle) : Set Address := {k | o.getAggregator k ≠ 0}

theorem mem_feeds : k ∈ o.feeds ↔ o.priceFeedMap k ≠ 0 := Iff.rfl

theorem _addAggregator_eq_ok : o._addAggregator k a = .ok o' ↔ k ≠ 0 ∧ a ≠ 0 ∧
    o' = { o with
      priceFeedKeys := if o.priceFeedMap k = 0 then o.priceFeedKeys ++ [k] else o.priceFeedKeys
      priceFeedMap := Function.update o.priceFeedMap k a } := by
  rw [_addAggregator, requireNonEmptyAddress, require_bind_eq_ok, requireNonEmptyAddress,
    require_bind_eq_ok]
  refine and_congr_right fun _ => and_congr_right fun _ => ?_
  exact ⟨fun h => (Except.ok.inj h).symm, fun h => congrArg _ h.symm⟩

theorem removeAggregator_eq_ok : o.removeAggregator k = .ok o' ↔ o.priceFeedMap k ≠ 0 ∧
    o' = { o with
      priceFeedMap := Function.update o.priceFeedMap k 0
      priceFeedKeys := swapRemove o.priceFeedKeys k } := by
  rw [removeAggregator, requireNonEmptyAddress, require_bind_eq_ok]
  refine and_congr_right fun _ => ?_
  exact ⟨fun h => (Except.ok.inj h).symm, fun h => congrArg _ h.symm⟩

/-- Setting an aggregator adds its key to those that have one. -/
theorem feeds_add (ha : a ≠ 0) (keys : List Address) :
    feeds { o with priceFeedKeys := keys, priceFeedMap := Function.update o.priceFeedMap k a }
      = insert k o.feeds := by
  ext j
  rw [Set.mem_insert_iff, mem_feeds, mem_feeds]
  change Function.update o.priceFeedMap k a j ≠ 0 ↔ _
  by_cases hj : j = k
  · rw [hj, Function.update_self]
    exact ⟨fun _ => .inl rfl, fun _ => ha⟩
  · rw [Function.update_of_ne hj]
    exact (or_iff_right hj).symm

/-- Removing one takes its key away. -/
theorem feeds_remove (keys : List Address) :
    feeds { o with priceFeedMap := Function.update o.priceFeedMap k 0, priceFeedKeys := keys }
      = o.feeds \ {k} := by
  ext j
  rw [Set.mem_sdiff, Set.mem_singleton_iff, mem_feeds, mem_feeds]
  change Function.update o.priceFeedMap k 0 j ≠ 0 ↔ _
  by_cases hj : j = k
  · rw [hj, Function.update_self]
    exact ⟨fun h => absurd rfl h, fun h => absurd rfl h.2⟩
  · rw [Function.update_of_ne hj]
    exact (and_iff_left hj).symm

end Calls

/-! ## The array and the mapping -/

section Invariant

variable {o o' : ReserveOracle}

/-- The array holds the keys that have an aggregator, each of them once. -/
def KeysListed (o : ReserveOracle) : Prop := Enumerates o.priceFeedKeys o.feeds

theorem keysListed_initialized (weth : Address) : KeysListed (initialized weth) := by
  have hnone : (initialized weth).feeds = ∅ := by
    ext k
    exact iff_of_false (fun h => h rfl) fun h => h
  unfold KeysListed
  rw [hnone]
  exact .empty

/-- Setting an aggregator keeps the array right: a key that has one already stays where it is. -/
theorem KeysListed.add (h : KeysListed o) (k a : Address) :
    Returns (o._addAggregator k a) KeysListed := by
  refine (Sat.returned _).imp fun o' ho' => ?_
  obtain ⟨-, ha, rfl⟩ := _addAggregator_eq_ok.mp ho'
  unfold KeysListed
  rw [feeds_add ha]
  dsimp only
  by_cases hk : o.priceFeedMap k = 0
  · rw [if_pos hk]
    exact h.push fun hmem => hmem hk
  · rw [if_neg hk, Set.insert_eq_of_mem (mem_feeds.mpr hk)]
    exact h

/-- And so does removing one. -/
theorem KeysListed.remove (h : KeysListed o) (k : Address) :
    Returns (o.removeAggregator k) KeysListed := by
  refine (Sat.returned _).imp fun o' ho' => ?_
  obtain ⟨hk, rfl⟩ := removeAggregator_eq_ok.mp ho'
  unfold KeysListed
  rw [feeds_remove]
  exact h.swapRemove (mem_feeds.mpr hk)

/-- **Step lemma.** -/
theorem KeysListed.step (h : KeysListed o) (hst : FeedStep o o') : KeysListed o' := by
  obtain ⟨owner, sender, c, hc⟩ := hst
  refine Sat.ok (Q := KeysListed) (E := fun _ => True) (Returns.check fun _ => ?_) hc
  cases c with
  | addAggregator k a => exact h.add k a
  | setAggregators keys aggregators =>
    -- a batch sets one after the other, and a key may occur in it more than once
    refine Returns.check fun _ => Returns.foldlM (P := KeysListed) (fun feed _ o ho => ?_) h
    exact ho.add feed.1 feed.2
  | removeAggregator k => exact h.remove k

/-- **Run lemma.** -/
theorem FeedsReachable.keysListed (h : FeedsReachable o) : KeysListed o := by
  refine Machine.Reachable.invariant (P := KeysListed) ?_ ?_ h
  · rintro o ⟨weth, rfl⟩
    exact keysListed_initialized weth
  · intro o o' _ ho hst
    exact ho.step hst

/-- The search finds what is in the array. -/
theorem isExistedKey_iff {k : Address} : o.isExistedKey k = true ↔ k ∈ o.priceFeedKeys := by
  rw [isExistedKey, List.any_eq_true]
  constructor
  · rintro ⟨j, hj, heq⟩
    rw [← beq_iff_eq.mp heq]
    exact hj
  · intro hk
    exact ⟨k, hk, beq_self_eq_true k⟩

theorem KeysListed.isExistedKey (h : KeysListed o) {k : Address} :
    o.isExistedKey k = true ↔ o.getAggregator k ≠ 0 := by
  rw [isExistedKey_iff]
  exact h.mem_iff k

/-- **The keys of the price feeds.** After any sequence of calls the array holds no key twice, and
holds a key just when the mapping has an aggregator for it; so the search agrees with the mapping.
Removing a key drops that key and no other. -/
theorem priceFeedKeys_are_the_feeds (h : FeedsReachable o) :
    o.priceFeedKeys.Nodup ∧ (∀ k, k ∈ o.priceFeedKeys ↔ o.priceFeedMap k ≠ 0) ∧
    (∀ k, o.isExistedKey k = true ↔ o.getAggregator k ≠ 0) ∧
    ∀ owner sender k o', o.performFeedCall owner sender (.removeAggregator k) = .ok o' →
      o'.isExistedKey k = false ∧ o'.getAggregator k = 0 ∧
      ∀ j, j ≠ k → o'.isExistedKey j = o.isExistedKey j ∧
        o'.getAggregator j = o.getAggregator j := by
  have hlisted := h.keysListed
  refine ⟨hlisted.nodup, hlisted.mem_iff, fun k => hlisted.isExistedKey, ?_⟩
  intro owner sender k o' hc
  have hlisted' : KeysListed o' := hlisted.step ⟨owner, sender, _, hc⟩
  obtain ⟨-, hremove⟩ := require_bind_eq_ok.mp hc
  obtain ⟨-, ho'⟩ := removeAggregator_eq_ok.mp hremove
  have hmap : o'.priceFeedMap = Function.update o.priceFeedMap k 0 := by rw [ho']
  have hgone : o'.getAggregator k = 0 := by rw [getAggregator, hmap, Function.update_self]
  refine ⟨?_, hgone, fun j hj => ?_⟩
  · rw [← Bool.not_eq_true, hlisted'.isExistedKey]
    exact not_not.mpr hgone
  · have hsame : o'.getAggregator j = o.getAggregator j := by
      rw [getAggregator, hmap, Function.update_of_ne hj, getAggregator]
    refine ⟨?_, hsame⟩
    rw [Bool.eq_iff_iff, hlisted'.isExistedKey, hlisted.isExistedKey, hsame]

end Invariant

/-! ## A run -/

/-- The oracle after calls by its owner; one that reverts leads nowhere. -/
def fed (weth : Address) (calls : List FeedCall) : ReserveOracle :=
  match calls.foldlM (fun o c => o.performFeedCall 1 1 c) (initialized weth) with
  | .ok o => o
  | .error _ => initialized weth

theorem fed_reachable (weth : Address) (calls : List FeedCall) :
    FeedsReachable (fed weth calls) := by
  have hstart : FeedsReachable (initialized weth) := .start ⟨weth, rfl⟩
  unfold fed
  split
  · rename_i o ho
    refine Sat.ok (Q := FeedsReachable) (E := fun _ => True) (Returns.foldlM ?_ hstart) ho
    intro c _ o ho
    exact (Sat.returned _).imp fun o' ho' => ho.next ⟨1, 1, c, ho'⟩
  · exact hstart

/-- Three keys are set, one of them twice, and the first of them is removed. -/
def sampleFeeds : ReserveOracle :=
  fed 90 [.setAggregators [10, 20, 10] [71, 72, 73], .addAggregator 30 74, .removeAggregator 10]

theorem priceFeedKeys_are_the_feeds_sample :
    sampleFeeds.priceFeedKeys = [30, 20] ∧
    (∀ k, sampleFeeds.isExistedKey k = true ↔ sampleFeeds.getAggregator k ≠ 0) ∧
    ∃ o', sampleFeeds.performFeedCall 1 1 (.removeAggregator 30) = .ok o' ∧
      o'.isExistedKey 30 = false ∧ o'.isExistedKey 20 = true := by
  obtain ⟨-, -, hsearch, hremove⟩ := priceFeedKeys_are_the_feeds (fed_reachable 90 _)
  obtain ⟨o', ho'⟩ := exists_ok_of_raised
    (x := sampleFeeds.performFeedCall 1 1 (.removeAggregator 30)) (by decide +kernel)
  obtain ⟨hgone, -, hothers⟩ := hremove 1 1 30 o' ho'
  refine ⟨by decide +kernel, hsearch, o', ho', hgone, ?_⟩
  rw [(hothers 20 (by decide)).1]
  decide +kernel

end ReserveOracle

end Unlockd
