/-
`ReserveOracle.sol`: prices of reserve assets from Chainlink aggregators.

An aggregator numbers its rounds and answers a price and a time stamp for each. The time-weighted
price walks back from the latest round, adding up each price times the time for which it was the
last one, until a round lies before the interval, or until there are no more round ids. What the
price is meant to be is a sum over a step function: the price in force at every second of the
interval. The walk takes a round id below the first real round, which reads as a price of zero at
time zero, for a round that lies before the interval.

The aggregators are contracts outside the repository; a history says what they answer.
-/
import Unlockd.DataTypes
import Unlockd.Lib.Outcome
import Unlockd.Lib.StepFunction

set_option autoImplicit false

namespace Unlockd

open Outcome StepFunction

/-- What an aggregator answers for a round. -/
structure RoundData where
  answer : ℤ
  updatedAt : ℕ
  deriving DecidableEq

/-- An aggregator: the id and the data of the latest round, the data of every round, and the number
of decimals of the answers. -/
structure Aggregator where
  latestRoundId : ℕ
  latestRoundData : RoundData
  getRoundData : ℕ → RoundData
  decimals : ℕ

/-- The storage of the oracle. -/
structure ReserveOracle where
  priceFeedMap : Address → Address
  priceFeedKeys : List Address
  weth : Address

/-- What the oracle reverts with: its own texts ("key not existed", "interval can't be 0", "negative
answer", "Not enough history", "empty address", "INCONSISTENT_PARAMS_LENGTH"), that of `onlyOwner`,
and the checked arithmetic. -/
inductive OracleError
  | keyNotExisted | intervalCantBeZero | negativeAnswer | notEnoughHistory
  | emptyAddress | inconsistentParamsLength | callerIsNotTheOwner
  | overflow | underflow | divisionByZero
  deriving DecidableEq, Repr

namespace ReserveOracle

def TOKEN_DIGIT : ℕ := 10 ^ 18

/-! ## Checked arithmetic -/

/-- A result that has to be a `uint256`. -/
def fits (n : ℕ) : Except OracleError ℕ := do
  require (n ≤ maxUint256) OracleError.overflow
  return n

def subtract (a b : ℕ) : Except OracleError ℕ := do
  require (b ≤ a) OracleError.underflow
  return a - b

def divide (a b : ℕ) : Except OracleError ℕ := do
  require (b ≠ 0) OracleError.divisionByZero
  return a / b

theorem fits_bind_eq_ok {n : ℕ} {α : Type} {f : ℕ → Except OracleError α} {b : α} :
    (fits n >>= f) = .ok b ↔ n ≤ maxUint256 ∧ f n = .ok b := by
  rw [fits, bind_assoc, require_bind_eq_ok]
  rfl

theorem subtract_bind_eq_ok {m n : ℕ} {α : Type} {f : ℕ → Except OracleError α} {b : α} :
    (subtract m n >>= f) = .ok b ↔ n ≤ m ∧ f (m - n) = .ok b := by
  rw [subtract, bind_assoc, require_bind_eq_ok]
  rfl

theorem divide_eq_ok {a b c : ℕ} : divide a b = .ok c ↔ b ≠ 0 ∧ c = a / b := by
  rw [divide, require_bind_eq_ok]
  exact and_congr_right fun _ => ⟨fun h => (Except.ok.inj h).symm, fun h => congrArg _ h.symm⟩

/-! ## The contract -/

/-- `formatDecimals`: a price with so many decimals as one with 18. -/
def formatDecimals (price decimals : ℕ) : Except OracleError ℕ := do
  let scaled ← fits (price * TOKEN_DIGIT)
  let unit ← fits (10 ^ decimals)
  return scaled / unit

/-- `isExistedKey`. -/
def isExistedKey (o : ReserveOracle) (priceFeedKey : Address) : Bool :=
  o.priceFeedKeys.any (· == priceFeedKey)

/-- An answer as a price with 18 decimals; it must not be negative. -/
def priceOf (answer : ℤ) (decimals : ℕ) : Except OracleError ℕ := do
  require (0 ≤ answer) OracleError.negativeAnswer
  formatDecimals answer.toNat decimals

/-- `getAssetPrice`. -/
def getAssetPrice (contracts : Address → Aggregator) (o : ReserveOracle) (priceFeedKey : Address) :
    Except OracleError ℕ :=
  if priceFeedKey = o.weth then return TOKEN_DIGIT
  else do
    require (o.isExistedKey priceFeedKey = true) OracleError.keyNotExisted
    let aggregator := contracts (o.priceFeedMap priceFeedKey)
    priceOf aggregator.latestRoundData.answer aggregator.decimals

/-- The loop of `getTwapPrice`, from a round id down. -/
def twapLoop (aggregator : Aggregator) (baseTimestamp interval : ℕ) :
    ℕ → ℕ → ℕ → ℕ → Except OracleError ℕ
  | 0, cumulativeTime, _, weightedPrice =>
      -- if cumulative time is less than requested interval, return current twap price
      divide weightedPrice cumulativeTime
  | roundId + 1, cumulativeTime, previousTimestamp, weightedPrice => do
      let round := aggregator.getRoundData roundId
      let price ← priceOf round.answer aggregator.decimals
      -- check if current round timestamp is earlier than target timestamp
      if round.updatedAt ≤ baseTimestamp then
        let time ← subtract previousTimestamp baseTimestamp
        let weighted ← fits (price * time)
        let weightedPrice ← fits (weightedPrice + weighted)
        divide weightedPrice interval
      else
        let timeFraction ← subtract previousTimestamp round.updatedAt
        let weighted ← fits (price * timeFraction)
        let weightedPrice ← fits (weightedPrice + weighted)
        let cumulativeTime ← fits (cumulativeTime + timeFraction)
        twapLoop aggregator baseTimestamp interval roundId cumulativeTime round.updatedAt
          weightedPrice

/-- `getTwapPrice` once the aggregator is known. -/
def twapPrice (aggregator : Aggregator) (blockTimestamp interval : ℕ) : Except OracleError ℕ := do
  let roundId := aggregator.latestRoundId
  let latestPrice ← priceOf aggregator.latestRoundData.answer aggregator.decimals
  require (roundId ≥ 0) OracleError.notEnoughHistory
  let latestTimestamp := aggregator.latestRoundData.updatedAt
  let baseTimestamp ← subtract blockTimestamp interval
  -- if latest updated timestamp is earlier than target timestamp, return the latest price
  if latestTimestamp < baseTimestamp ∨ roundId = 0 then return latestPrice
  else
    let cumulativeTime ← subtract blockTimestamp latestTimestamp
    let weightedPrice ← fits (latestPrice * cumulativeTime)
    twapLoop aggregator baseTimestamp interval roundId cumulativeTime latestTimestamp weightedPrice

/-- `getTwapPrice`. -/
def getTwapPrice (contracts : Address → Aggregator) (o : ReserveOracle) (blockTimestamp : ℕ)
    (priceFeedKey : Address) (interval : ℕ) : Except OracleError ℕ := do
  require (o.isExistedKey priceFeedKey = true) OracleError.keyNotExisted
  require (interval ≠ 0) OracleError.intervalCantBeZero
  twapPrice (contracts (o.priceFeedMap priceFeedKey)) blockTimestamp interval

/-! ## What the price is meant to be -/

section History

variable (a : Aggregator)

/-- The time stamp of a round. -/
def stamp (k : ℕ) : ℕ := (a.getRoundData k).updatedAt

/-- The price of a round, with 18 decimals. -/
def price (k : ℕ) : ℕ := (a.getRoundData k).answer.toNat * TOKEN_DIGIT / 10 ^ a.decimals

/-- The price in force, added up over every second from one time to another. -/
def weightedSum (start stop : ℕ) : ℕ := total (stamp a) (price a) a.latestRoundId start stop

/-- What an aggregator answers whose first round has the id `first`: no round has a negative answer,
a later id has no earlier time stamp, none is in the future, and what lies below the first round
reads as zero. -/
structure History (first now : ℕ) : Prop where
  latest : a.latestRoundData = a.getRoundData a.latestRoundId
  first_le : first ≤ a.latestRoundId
  answers : ∀ k, k ≤ a.latestRoundId → 0 ≤ (a.getRoundData k).answer
  ordered : ∀ j k, first ≤ j → j ≤ k → k ≤ a.latestRoundId → stamp a j ≤ stamp a k
  past : stamp a a.latestRoundId ≤ now
  missing : ∀ k, k < first → a.getRoundData k = ⟨0, 0⟩
  now_fits : now ≤ maxUint256

end History

variable {a : Aggregator} {first now base interval : ℕ} {r c p w q : ℕ}

theorem History.mono (h : History a first now) :
    ∀ j k, j ≤ k → k ≤ a.latestRoundId → stamp a j ≤ stamp a k := by
  intro j k hjk hk
  by_cases hj : first ≤ j
  · exact h.ordered j k hj hjk hk
  · unfold stamp
    rw [h.missing j (by omega)]
    exact Nat.zero_le _

theorem History.stamp_le (h : History a first now) {k : ℕ} (hk : k ≤ a.latestRoundId) :
    stamp a k ≤ now := (h.mono k _ hk le_rfl).trans h.past

/-! ## The walk -/

/-- The answer of a round does not overflow when it is brought to 18 decimals. -/
def Formattable (a : Aggregator) (k : ℕ) : Prop :=
  (a.getRoundData k).answer.toNat * TOKEN_DIGIT ≤ maxUint256

theorem priceOf_bind_eq_ok {answer : ℤ} {decimals : ℕ} {α : Type}
    {f : ℕ → Except OracleError α} {b : α} : (priceOf answer decimals >>= f) = .ok b ↔
      0 ≤ answer ∧ answer.toNat * TOKEN_DIGIT ≤ maxUint256 ∧ 10 ^ decimals ≤ maxUint256 ∧
        f (answer.toNat * TOKEN_DIGIT / 10 ^ decimals) = .ok b := by
  rw [priceOf, bind_assoc, require_bind_eq_ok, formatDecimals, bind_assoc, fits_bind_eq_ok,
    bind_assoc, fits_bind_eq_ok]
  rfl

/-- The price of a round that is not too large. -/
theorem History.priceOf_bind_eq_ok (h : History a first now)
    (hunit : 10 ^ a.decimals ≤ maxUint256) {k : ℕ} (hk : k ≤ a.latestRoundId) {α : Type}
    {f : ℕ → Except OracleError α} {b : α} :
    (priceOf (a.getRoundData k).answer a.decimals >>= f) = .ok b ↔
      Formattable a k ∧ f (price a k) = .ok b := by
  rw [ReserveOracle.priceOf_bind_eq_ok, and_iff_right (h.answers k hk), and_iff_right hunit]
  rfl

/-- Adding a product that has to fit as well. -/
theorem add_weighted {x y z : ℕ} {α : Type} {f : ℕ → Except OracleError α} {b : α} :
    (do let weighted ← fits (x * y); let sum ← fits (z + weighted); f sum) = .ok b ↔
      z + x * y ≤ maxUint256 ∧ f (z + x * y) = .ok b := by
  rw [fits_bind_eq_ok, fits_bind_eq_ok]
  exact and_iff_right_of_imp fun h => (Nat.le_add_left _ _).trans h.1

/-- The rounds that the walk formats on its way down from `r`: it goes on as long as they are inside
the interval. -/
def Walkable (a : Aggregator) (base r : ℕ) : Prop :=
  ∀ k, k < r → (∀ j, k < j → j < r → base < stamp a j) → Formattable a k

/-- Where the walk starts to count: at the interval, or at the round with id zero. -/
def walkedFrom (a : Aggregator) (base : ℕ) : ℕ := max base (stamp a 0)

/-- What the walk returns: an average over the interval, or over the time since the round with id
zero if that lies inside. -/
def Walked (a : Aggregator) (base interval now q : ℕ) : Prop :=
  if base < stamp a 0 then
    now - stamp a 0 ≠ 0 ∧ q = weightedSum a (stamp a 0) now / (now - stamp a 0)
  else q = weightedSum a base now / interval

/-- A round before the interval ends the walk. -/
theorem walkable_stop (hstop : stamp a r ≤ base) : Walkable a base (r + 1) ↔ Formattable a r := by
  constructor
  · intro h
    exact h r (Nat.lt_succ_self r) fun j hj hjr => absurd hj (by omega)
  · intro h k hk hinside
    rcases Nat.lt_succ_iff_lt_or_eq.mp hk with hlt | rfl
    · have := hinside r hlt (Nat.lt_succ_self r)
      omega
    · exact h

/-- A round inside is walked past. -/
theorem walkable_next (hnext : base < stamp a r) :
    Walkable a base (r + 1) ↔ Formattable a r ∧ Walkable a base r := by
  constructor
  · intro h
    refine ⟨h r (Nat.lt_succ_self r) fun j hj hjr => absurd hj (by omega), fun k hk hinside => ?_⟩
    refine h k (Nat.lt_succ_of_lt hk) fun j hj hjr => ?_
    rcases Nat.lt_succ_iff_lt_or_eq.mp hjr with hlt | rfl
    · exact hinside j hj hlt
    · exact hnext
  · rintro ⟨hformat, h⟩ k hk hinside
    rcases Nat.lt_succ_iff_lt_or_eq.mp hk with hlt | rfl
    · exact h k hlt fun j hj hjr => hinside j hj (Nat.lt_succ_of_lt hjr)
    · exact hformat

/-- The sum grows by the price of a round times the time for which it was in force. -/
theorem History.weightedSum_back (h : History a first now) (hr : r + 1 ≤ a.latestRoundId)
    {start : ℕ} (hstart : stamp a r ≤ start) (hend : start ≤ stamp a (r + 1)) :
    weightedSum a (stamp a (r + 1)) now + price a r * (stamp a (r + 1) - start)
      = weightedSum a start now :=
  total_back hr h.mono hstart hend (h.stamp_le hr)

/-- One step of the walk, to a round before the interval. -/
theorem History.twapLoop_stop (h : History a first now) (hunit : 10 ^ a.decimals ≤ maxUint256)
    (hr : r ≤ a.latestRoundId) (hstop : stamp a r ≤ base) :
    twapLoop a base interval (r + 1) c p w = .ok q ↔ Formattable a r ∧ base ≤ p ∧
      w + price a r * (p - base) ≤ maxUint256 ∧ interval ≠ 0 ∧
      q = (w + price a r * (p - base)) / interval := by
  have hstop' : (a.getRoundData r).updatedAt ≤ base := hstop
  rw [twapLoop, h.priceOf_bind_eq_ok hunit hr, if_pos hstop', subtract_bind_eq_ok, add_weighted,
    divide_eq_ok]

/-- One step of the walk, to a round inside the interval. -/
theorem History.twapLoop_next (h : History a first now) (hunit : 10 ^ a.decimals ≤ maxUint256)
    (hr : r ≤ a.latestRoundId) (hnext : base < stamp a r) :
    twapLoop a base interval (r + 1) c p w = .ok q ↔ Formattable a r ∧ stamp a r ≤ p ∧
      w + price a r * (p - stamp a r) ≤ maxUint256 ∧ c + (p - stamp a r) ≤ maxUint256 ∧
      twapLoop a base interval r (c + (p - stamp a r)) (stamp a r)
        (w + price a r * (p - stamp a r)) = .ok q := by
  have hnext' : ¬ (a.getRoundData r).updatedAt ≤ base := Nat.not_le.mpr hnext
  rw [twapLoop, h.priceOf_bind_eq_ok hunit hr, if_neg hnext', subtract_bind_eq_ok, add_weighted,
    fits_bind_eq_ok]
  rfl

/-- **The walk.** From a round at or after the beginning of the interval, with the sum since that
round, the walk returns just when nothing overflows on the way, and then the average. -/
theorem History.twapLoop_eq_ok (h : History a first now) (hinterval : interval ≠ 0)
    (hunit : 10 ^ a.decimals ≤ maxUint256) (hr : r ≤ a.latestRoundId) (hbase : base ≤ stamp a r)
    (hzero : r = 0 → base < stamp a 0) (hfits : weightedSum a (stamp a r) now ≤ maxUint256) :
    twapLoop a base interval r (now - stamp a r) (stamp a r) (weightedSum a (stamp a r) now)
        = .ok q ↔
      Walkable a base r ∧ weightedSum a (walkedFrom a base) now ≤ maxUint256 ∧
        Walked a base interval now q := by
  induction r with
  | zero =>
    have hlt := hzero rfl
    have hfrom : walkedFrom a base = stamp a 0 := Nat.max_eq_right hlt.le
    have hwalkable : Walkable a base 0 := fun k hk => absurd hk (Nat.not_lt_zero k)
    rw [twapLoop, divide_eq_ok, Walked, if_pos hlt, hfrom, and_iff_right hwalkable,
      and_iff_right hfits]
  | succ r ih =>
    have hle : stamp a r ≤ stamp a (r + 1) := h.mono _ _ (Nat.le_succ r) hr
    have hzeroLe : stamp a 0 ≤ stamp a r := h.mono 0 r (Nat.zero_le r) (by omega)
    have hnow := h.stamp_le hr
    by_cases hstop : stamp a r ≤ base
    · -- the round lies before the interval: it counts from there
      have hfrom : walkedFrom a base = base := Nat.max_eq_left (hzeroLe.trans hstop)
      have hnot : ¬ base < stamp a 0 := Nat.not_lt.mpr (hzeroLe.trans hstop)
      rw [h.twapLoop_stop hunit (Nat.le_of_succ_le hr) hstop, h.weightedSum_back hr hstop hbase,
        walkable_stop hstop, hfrom, Walked, if_neg hnot, and_iff_right hbase,
        and_iff_right hinterval]
    · -- the round lies inside, and the walk goes on with the sum since then
      have hnext : base < stamp a r := Nat.lt_of_not_le hstop
      have hfrom : walkedFrom a base ≤ stamp a r := max_le hnext.le hzeroLe
      have htime : now - stamp a (r + 1) + (stamp a (r + 1) - stamp a r) = now - stamp a r := by
        omega
      have htimeFits : now - stamp a r ≤ maxUint256 := (Nat.sub_le _ _).trans h.now_fits
      rw [h.twapLoop_next hunit (Nat.le_of_succ_le hr) hnext, h.weightedSum_back hr le_rfl hle,
        htime, walkable_next hnext, and_iff_right hle, and_iff_right htimeFits, and_assoc]
      refine and_congr_right fun _ => ⟨fun hok => ?_, fun hwalked => ?_⟩
      · exact (ih (by omega) hnext.le (fun hz => hz ▸ hnext) hok.1).mp hok.2
      · have hsum : weightedSum a (stamp a r) now ≤ maxUint256 :=
          (total_anti hfrom (h.stamp_le (by omega))).trans hwalked.2.1
        exact ⟨hsum, (ih (by omega) hnext.le (fun hz => hz ▸ hnext) hsum).mpr hwalked⟩

/-! ## The average price

A run returns when its arithmetic fits. It then returns the average over the interval, unless the
round with id zero lies inside it. `IsAverage` is taken over the part of the interval that real
rounds cover. -/

/-- The arithmetic of a run fits: the unit of the answers, the latest price and, if the walk starts
at all, the prices it comes by and their sum. -/
def InRange (a : Aggregator) (base now : ℕ) : Prop :=
  10 ^ a.decimals ≤ maxUint256 ∧ Formattable a a.latestRoundId ∧
    (base ≤ stamp a a.latestRoundId → a.latestRoundId ≠ 0 →
      Walkable a base a.latestRoundId ∧ weightedSum a (walkedFrom a base) now ≤ maxUint256)

/-- Some real round lies at or before the beginning of the interval. -/
def Reached (a : Aggregator) (first base : ℕ) : Prop :=
  ∃ k, first ≤ k ∧ k ≤ a.latestRoundId ∧ stamp a k ≤ base

/-- The average price: over the whole interval, or over the time since the first real round if the
history is shorter. -/
def IsAverage (a : Aggregator) (first base now q : ℕ) : Prop :=
  (Reached a first base → q = weightedSum a base now / (now - base)) ∧
    (¬ Reached a first base → 0 < now - stamp a first ∧
      q = weightedSum a (stamp a first) now / (now - stamp a first))

/-- A missing round does no harm: none is needed, or the loop ends at the first real round because
its id is zero, or the average price times the missing time is no more than the remainder of the
division that gives the average. -/
def Unharmed (a : Aggregator) (first base now : ℕ) : Prop :=
  stamp a first ≤ base ∨ (0 < now - stamp a first ∧
    (first = 0 ∨ weightedSum a (stamp a first) now / (now - stamp a first) * (stamp a first - base)
      ≤ weightedSum a (stamp a first) now % (now - stamp a first)))

/-- The first real round is the one to look at. -/
theorem History.reached_iff (h : History a first now) :
    Reached a first base ↔ stamp a first ≤ base := by
  constructor
  · rintro ⟨k, hfirst, hk, hstamp⟩
    exact (h.mono first k hfirst hk).trans hstamp
  · intro hstamp
    exact ⟨first, le_rfl, h.first_le, hstamp⟩

/-- When the latest round lies at or before the interval its price is in force throughout. -/
theorem History.weightedSum_latest (_h : History a first now) {start : ℕ}
    (hstart : stamp a a.latestRoundId ≤ start) :
    weightedSum a start now = price a a.latestRoundId * (now - start) :=
  total_step le_rfl hstart fun j hj hjn => absurd hj (by omega)

/-- Before the first real round the price in force is zero. -/
theorem History.weightedSum_missing (h : History a first now) (hfirst : 0 < first)
    (hbase : base ≤ stamp a first) :
    weightedSum a base now = weightedSum a (stamp a first) now := by
  obtain ⟨k, rfl⟩ : ∃ k, first = k + 1 := ⟨first - 1, by omega⟩
  have hmissing := h.missing k (Nat.lt_succ_self k)
  have hstamp : stamp a k = 0 := by rw [stamp, hmissing]
  have hprice : price a k = 0 := by
    rw [price, hmissing, Int.toNat_zero, Nat.zero_mul, Nat.zero_div]
  rw [← h.weightedSum_back h.first_le (hstamp.trans_le (Nat.zero_le _)) hbase, hprice,
    Nat.zero_mul, Nat.add_zero]

/-- What `getTwapPrice` returns once the aggregator is known. -/
theorem History.twapPrice_eq_ok (h : History a first now) (hinterval : interval ≠ 0)
    (hle : interval ≤ now) :
    twapPrice a now interval = .ok q ↔ InRange a (now - interval) now ∧
      (if stamp a a.latestRoundId < now - interval ∨ a.latestRoundId = 0 then
        q = price a a.latestRoundId
      else Walked a (now - interval) interval now q) := by
  have hlatest : a.latestRoundData.updatedAt = stamp a a.latestRoundId := by rw [h.latest, stamp]
  have hstart : price a a.latestRoundId * (now - stamp a a.latestRoundId)
      = weightedSum a (stamp a a.latestRoundId) now := (h.weightedSum_latest le_rfl).symm
  have hnow := h.past
  rw [twapPrice, hlatest, h.latest, ReserveOracle.priceOf_bind_eq_ok,
    and_iff_right (h.answers _ le_rfl), require_bind_eq_ok, and_iff_right (Nat.zero_le _),
    subtract_bind_eq_ok, and_iff_right hle, InRange, and_left_comm, and_assoc, and_assoc]
  refine and_congr_right fun hunit => and_congr_right fun _ => ?_
  by_cases hexit : stamp a a.latestRoundId < now - interval ∨ a.latestRoundId = 0
  · -- the walk does not start
    rw [if_pos hexit, if_pos hexit, and_iff_right fun hnot hid => absurd hexit (by omega)]
    exact ⟨fun hok => (Except.ok.inj hok).symm, fun hq => congrArg _ hq.symm⟩
  · have hbase : now - interval ≤ stamp a a.latestRoundId := by omega
    have hid : a.latestRoundId ≠ 0 := by omega
    have hfrom : walkedFrom a (now - interval) ≤ stamp a a.latestRoundId :=
      max_le hbase (h.mono 0 _ (Nat.zero_le _) le_rfl)
    rw [if_neg hexit, if_neg hexit, subtract_bind_eq_ok, and_iff_right hnow, fits_bind_eq_ok,
      ← price, hstart, forall_prop_of_true hbase, forall_prop_of_true hid, and_assoc]
    refine ⟨fun hok => ?_, fun hwalked => ?_⟩
    · exact (h.twapLoop_eq_ok hinterval hunit le_rfl hbase (fun hz => absurd hz hid) hok.1).mp hok.2
    · have hsum : weightedSum a (stamp a a.latestRoundId) now ≤ maxUint256 :=
        (total_anti hfrom hnow).trans hwalked.2.1
      exact ⟨hsum, (h.twapLoop_eq_ok hinterval hunit le_rfl hbase (fun hz => absurd hz hid)
        hsum).mpr hwalked⟩

/-- A longer divisor gives the same quotient just when the quotient times what it is longer by is
within the remainder. -/
theorem div_eq_div_iff_rest {m c n : ℕ} (hc : 0 < c) (hcn : c ≤ n) :
    m / n = m / c ↔ m / c * (n - c) ≤ m % c := by
  have hle : m / n ≤ m / c := Nat.div_le_div_left hcn hc
  have hsplit : m / c * n = c * (m / c) + m / c * (n - c) := by
    rw [Nat.mul_comm c, ← Nat.mul_add, Nat.add_sub_cancel' hcn]
  have hdiv := Nat.div_add_mod m c
  calc m / n = m / c ↔ m / c ≤ m / n := ⟨fun heq => heq.ge, fun hge => le_antisymm hle hge⟩
    _ ↔ m / c * n ≤ m := Nat.le_div_iff_mul_le (hc.trans_le hcn)
    _ ↔ m / c * (n - c) ≤ m % c := by omega

/-- A run over a history that reaches back to the interval returns its average. -/
theorem History.returned_of_reached (h : History a first now) (hinterval : interval ≠ 0)
    (hle : interval ≤ now) (hreached : stamp a first ≤ now - interval)
    (hok : twapPrice a now interval = .ok q) :
    q = weightedSum a (now - interval) now / interval := by
  obtain ⟨-, hq⟩ := (h.twapPrice_eq_ok hinterval hle).mp hok
  by_cases hexit : stamp a a.latestRoundId < now - interval ∨ a.latestRoundId = 0
  · rw [if_pos hexit] at hq
    -- with the id zero the latest round is the first, which the history says is old enough
    have hlatest : stamp a a.latestRoundId ≤ now - interval := by
      refine hexit.elim le_of_lt fun hid => ?_
      have hfirst := h.first_le
      rw [hid] at hfirst ⊢
      rwa [Nat.le_zero.mp hfirst] at hreached
    rw [hq, h.weightedSum_latest hlatest, Nat.sub_sub_self hle,
      Nat.mul_div_cancel _ (Nat.pos_of_ne_zero hinterval)]
  · rw [if_neg hexit, Walked, if_neg] at hq
    · exact hq
    · have := h.mono 0 first (Nat.zero_le _) h.first_le
      omega

/-- A run over a shorter history that starts at the id zero returns the average over the time that
it covers, if it covers any. -/
theorem History.returned_of_zero (h : History a 0 now) (hinterval : interval ≠ 0)
    (hle : interval ≤ now) (hshort : now - interval < stamp a 0) (hcovered : 0 < now - stamp a 0)
    (hok : twapPrice a now interval = .ok q) :
    q = weightedSum a (stamp a 0) now / (now - stamp a 0) := by
  obtain ⟨-, hq⟩ := (h.twapPrice_eq_ok hinterval hle).mp hok
  have hmono := h.mono 0 a.latestRoundId (Nat.zero_le _) le_rfl
  by_cases hid : a.latestRoundId = 0
  · rw [if_pos (.inr hid), hid] at hq
    have hlatest : weightedSum a (stamp a 0) now = price a a.latestRoundId * (now - stamp a 0) :=
      h.weightedSum_latest (by rw [hid])
    rw [hq, hlatest, hid, Nat.mul_div_cancel _ hcovered]
  · rw [if_neg (by omega), Walked, if_pos hshort] at hq
    exact hq.2

/-- A run over a shorter history that starts at a later id counts the missing rounds as prices of
zero. -/
theorem History.returned_of_missing (h : History a first now) (hinterval : interval ≠ 0)
    (hle : interval ≤ now) (hfirst : 0 < first) (hshort : now - interval < stamp a first)
    (hok : twapPrice a now interval = .ok q) :
    q = weightedSum a (stamp a first) now / interval := by
  obtain ⟨-, hq⟩ := (h.twapPrice_eq_ok hinterval hle).mp hok
  have hmono := h.mono first a.latestRoundId h.first_le le_rfl
  have hid := h.first_le
  have hzero : stamp a 0 = 0 := by rw [stamp, h.missing 0 hfirst]
  rw [if_neg (by omega), Walked, if_neg (by omega), h.weightedSum_missing hfirst hshort.le] at hq
  exact hq

/-- A result is the average just when no missing round does harm. -/
theorem History.isAverage_iff (h : History a first now) (hinterval : interval ≠ 0)
    (hle : interval ≤ now) (hok : twapPrice a now interval = .ok q) :
    IsAverage a first (now - interval) now q ↔ Unharmed a first (now - interval) now := by
  have hlength : now - (now - interval) = interval := Nat.sub_sub_self hle
  rw [IsAverage, Unharmed, h.reached_iff, hlength]
  by_cases hreached : stamp a first ≤ now - interval
  · have hq := h.returned_of_reached hinterval hle hreached hok
    exact ⟨fun _ => .inl hreached, fun _ => ⟨fun _ => hq, fun hnot => absurd hreached hnot⟩⟩
  have hshort : now - interval < stamp a first := Nat.lt_of_not_le hreached
  have hpast := h.stamp_le h.first_le
  -- what is left is the comparison of two quotients, by the covered time and by the interval
  have hdrop : ∀ P Q : Prop, (P ↔ Q) →
      ((stamp a first ≤ now - interval → q = weightedSum a (now - interval) now / interval) ∧
        (¬ stamp a first ≤ now - interval → P) ↔ stamp a first ≤ now - interval ∨ Q) := by
    intro P Q hPQ
    rw [← hPQ]
    exact ⟨fun hboth => .inr (hboth.2 hreached),
      fun hor => ⟨fun hyes => absurd hyes hreached, fun _ => hor.resolve_left hreached⟩⟩
  refine hdrop _ _ (and_congr_right fun hcovered => ?_)
  rcases Nat.eq_zero_or_pos first with rfl | hfirst
  · -- the loop divides by the covered time
    have hq := h.returned_of_zero hinterval hle hshort hcovered hok
    exact ⟨fun _ => .inl rfl, fun _ => hq⟩
  · -- the loop has met the round below the first, and divides by the interval
    have hq := h.returned_of_missing hinterval hle hfirst hshort hok
    have hmissing : stamp a first - (now - interval) = interval - (now - stamp a first) := by omega
    rw [hq, hmissing, div_eq_div_iff_rest hcovered (by omega)]
    exact ⟨fun hrest => .inr hrest, fun hor => hor.resolve_left hfirst.ne'⟩

/-- Where no missing round does harm, some time is covered. -/
theorem History.covered (h : History a first now) (hinterval : interval ≠ 0) (hle : interval ≤ now)
    (hunharmed : Unharmed a first (now - interval) now) : stamp a 0 < now := by
  have hmono := h.mono 0 first (Nat.zero_le _) h.first_le
  rcases hunharmed with hreached | ⟨hcovered, -⟩
  · omega
  · omega

/-- A run whose arithmetic fits returns, if the round with id zero is not of this very moment. -/
theorem History.twapPrice_returns (h : History a first now) (hinterval : interval ≠ 0)
    (hle : interval ≤ now) (hrange : InRange a (now - interval) now) (hcovered : stamp a 0 < now) :
    ∃ q, twapPrice a now interval = .ok q := by
  simp only [h.twapPrice_eq_ok hinterval hle, and_iff_right hrange, Walked]
  split
  · exact ⟨_, rfl⟩
  split
  · exact ⟨_, by omega, rfl⟩
  · exact ⟨_, rfl⟩

/-- **The average price.** On a history of prices, `getTwapPrice` returns the average over the
interval, or over the part of it that real rounds cover, just when its arithmetic fits and no
missing round does harm: the history reaches back to the interval, or it covers some time and its
first round has the id zero, or the average is too small for a longer divisor to matter. -/
theorem getTwapPrice_average_iff (contracts : Address → Aggregator) (o : ReserveOracle)
    (first now interval : ℕ) (priceFeedKey : Address)
    (h : History (contracts (o.priceFeedMap priceFeedKey)) first now)
    (hkey : o.isExistedKey priceFeedKey = true) (hinterval : interval ≠ 0) (hle : interval ≤ now) :
    (∃ q, getTwapPrice contracts o now priceFeedKey interval = .ok q ∧
      IsAverage (contracts (o.priceFeedMap priceFeedKey)) first (now - interval) now q) ↔
        InRange (contracts (o.priceFeedMap priceFeedKey)) (now - interval) now ∧
          Unharmed (contracts (o.priceFeedMap priceFeedKey)) first (now - interval) now := by
  have hrun : ∀ q, getTwapPrice contracts o now priceFeedKey interval = .ok q ↔
      twapPrice (contracts (o.priceFeedMap priceFeedKey)) now interval = .ok q := by
    intro q
    rw [getTwapPrice, require_bind_eq_ok, require_bind_eq_ok, and_iff_right hkey,
      and_iff_right hinterval]
  constructor
  · rintro ⟨q, hok, haverage⟩
    have htwap := (hrun q).mp hok
    exact ⟨((h.twapPrice_eq_ok hinterval hle).mp htwap).1,
      (h.isAverage_iff hinterval hle htwap).mp haverage⟩
  · rintro ⟨hrange, hunharmed⟩
    obtain ⟨q, htwap⟩ := h.twapPrice_returns hinterval hle hrange
      (h.covered hinterval hle hunharmed)
    exact ⟨q, (hrun q).mpr htwap, (h.isAverage_iff hinterval hle htwap).mpr hunharmed⟩

/-- When the latest round is older than the interval, the average price is the current one. -/
theorem getTwapPrice_old (contracts : Address → Aggregator) (o : ReserveOracle)
    (priceFeedKey : Address) (hweth : priceFeedKey ≠ o.weth) (hinterval : interval ≠ 0)
    (hle : interval ≤ now)
    (hold : (contracts (o.priceFeedMap priceFeedKey)).latestRoundData.updatedAt < now - interval) :
    getTwapPrice contracts o now priceFeedKey interval
      = getAssetPrice contracts o priceFeedKey := by
  rw [getAssetPrice, if_neg hweth, getTwapPrice, require_of hinterval]
  have hbase : subtract now interval = .ok (now - interval) := by
    rw [subtract, require_of hle]
    rfl
  have htwap : ∀ a : Aggregator, a.latestRoundData.updatedAt < now - interval →
      twapPrice a now interval = priceOf a.latestRoundData.answer a.decimals := by
    intro a hold
    rw [twapPrice, hbase, require_of (Nat.zero_le _)]
    cases priceOf a.latestRoundData.answer a.decimals with
    | error e => rfl
    | ok n => exact if_pos (.inl hold)
  exact congrArg _ (funext fun _ => htwap _ hold)

/-! ### A young aggregator

Its only round so far has the id one and lies ten seconds back, with a price of 300; the average
over thirty seconds comes out as 100. An aggregator with an older round behaves. -/

/-- An aggregator with one round. -/
def young : Aggregator where
  latestRoundId := 1
  latestRoundData := ⟨30000000000, 990⟩
  getRoundData k := if k = 1 then ⟨30000000000, 990⟩ else ⟨0, 0⟩
  decimals := 8

/-- An aggregator with three rounds. -/
def settled : Aggregator where
  latestRoundId := 3
  latestRoundData := ⟨30000000000, 990⟩
  getRoundData k :=
    if k = 1 then ⟨10000000000, 900⟩ else if k = 2 then ⟨20000000000, 980⟩
    else if k = 3 then ⟨30000000000, 990⟩ else ⟨0, 0⟩
  decimals := 8

/-- An oracle with one price feed. -/
def oneFeed : ReserveOracle := ⟨fun _ => 7, [5], 1⟩

theorem young_history : History young 1 1000 where
  latest := rfl
  first_le := le_rfl
  answers k _ := by
    unfold young
    dsimp only
    split <;> decide
  ordered j k hj hjk hk := by
    have hk1 : k = 1 := le_antisymm hk (hj.trans hjk)
    have hj1 : j = 1 := le_antisymm (hjk.trans hk) hj
    rw [hk1, hj1]
  past := by decide
  missing k hk := if_neg hk.ne
  now_fits := by decide

theorem settled_history : History settled 1 1000 where
  latest := rfl
  first_le := by decide
  answers := by decide
  ordered := by
    intro j k hj hjk hk
    have hall : ∀ k ≤ 3, ∀ j ≤ k, 1 ≤ j → stamp settled j ≤ stamp settled k := by decide
    exact hall k hk j hjk hj
  past := by decide
  missing := by decide
  now_fits := by decide

/-- The young aggregator is counted as if it had answered zero before. -/
theorem getTwapPrice_counts_missing :
    ∃ (contracts : Address → Aggregator) (o : ReserveOracle) (q : ℕ),
      History (contracts (o.priceFeedMap 5)) 1 1000 ∧ o.isExistedKey 5 = true ∧
        getTwapPrice contracts o 1000 5 30 = .ok q ∧ q = 100 * 10 ^ 18 ∧
          ¬ IsAverage (contracts (o.priceFeedMap 5)) 1 (1000 - 30) 1000 q := by
  refine ⟨fun _ => young, oneFeed, 100 * 10 ^ 18, young_history, by decide,
    eq_ok_of_toOption (by decide +kernel), rfl, fun haverage => ?_⟩
  have hshort : ¬ Reached young 1 (1000 - 30) := by
    rw [young_history.reached_iff]
    decide
  have hq := (haverage.2 hshort).2
  revert hq
  decide +kernel

theorem settled_inRange : InRange settled (1000 - 30) 1000 := by
  have hformat : ∀ k ≤ 3, Formattable settled k := by
    unfold Formattable
    decide
  refine ⟨by decide, hformat 3 le_rfl, fun _ _ => ⟨fun k hk _ => hformat k hk.le, ?_⟩⟩
  decide +kernel

/-- An average over three rounds, the first of which lies before the interval. -/
theorem getTwapPrice_average_iff_sample :
    ∃ q, getTwapPrice (fun _ => settled) oneFeed 1000 5 30 = .ok q ∧
      IsAverage settled 1 (1000 - 30) 1000 q :=
  (getTwapPrice_average_iff (fun _ => settled) oneFeed 1 1000 30 5 settled_history (by decide)
    (by decide) (by decide)).mpr ⟨settled_inRange, .inl (by decide)⟩

end ReserveOracle

end Unlockd
