/-
The configuration words as records.

The configuration of a token packs eleven fields, that of a reserve nine. Both libraries write the
masks, the positions and the largest values out by hand, once for each field, and read several
fields at a time in further functions with the same masks once more. What makes a record of such a
word is that the fields lie apart, and that each setter writes just the number that its getter
reads.

The values of most fields are numbers, those of a flag are truth values. A setter of a number
refuses what is above its largest value, a setter of a flag refuses nothing.
-/
import Unlockd.Parameters

set_option autoImplicit false

namespace Unlockd

open Outcome Bitfield

/-! ## Setters and getters -/

section Setters

variable {mask c : BitVec 256} {start maxValid value : ℕ} {err : Error}

/-- Different truth values stand for different numbers. -/
theorem toNat_injective : Function.Injective Bool.toNat := by
  intro a b h
  cases a <;> cases b <;> first | rfl | cases h

/-- A setter of a flag writes the number of the flag. -/
theorem setFlag_eq (flag : Bool) : setFlag mask start flag c = write mask start flag.toNat c := by
  rw [setFlag_eq_write]
  cases flag <;> rfl

/-- A setter of a number writes what is in range. -/
theorem setField_eq (h : value ≤ maxValid) :
    setField mask start maxValid err value c = .ok (write mask start value c) := by
  unfold setField
  rw [require_of h, ok_bind]
  rfl

/-- And it refuses everything else. -/
theorem setField_refuses (h : ¬ value ≤ maxValid) :
    setField mask start maxValid err value c = .error err := by
  unfold setField require
  rw [if_neg h]
  rfl

theorem setActive_eq (flag : Bool) (c : BitVec 256) :
    setActive flag c = write ACTIVE_MASK IS_ACTIVE_START_BIT_POSITION flag.toNat c :=
  setFlag_eq flag

theorem setFrozen_eq (flag : Bool) (c : BitVec 256) :
    setFrozen flag c = write FROZEN_MASK IS_FROZEN_START_BIT_POSITION flag.toNat c :=
  setFlag_eq flag

/-- A flag reads as the number in its field. -/
theorem getFlag_toNat {ι : Type} (L : Layout ι 256) (p : ι) (hwidth : L.width p = 1)
    (data : BitVec 256) : (getFlag (L.mask p) data).toNat = L.values data p := by
  have hlt : L.values data p < 2 := by
    have h := L.values_lt data p
    rwa [hwidth] at h
  rw [getFlag, L.flag_eq hwidth]
  by_cases hone : L.values data p = 1
  · rw [decide_eq_true hone, hone]
    rfl
  · rw [decide_eq_false hone, Bool.toNat_false]
    omega

end Setters

/-! ## The configuration of a token -/

namespace NftField

/-- What the field holds. -/
def Value : NftField → Type
  | active | frozen => Bool
  | _ => ℕ

def number : ∀ p : NftField, p.Value → ℕ
  | active, flag | frozen, flag => flag.toNat
  | ltv, v | liquidationThreshold, v | liquidationBonus, v | redeemDuration, v
  | auctionDuration, v | redeemFine, v | redeemThreshold, v | minBidFine, v
  | configTimestamp, v => v

/-- The largest value that the setter takes; for a flag, the larger of the two. -/
def maxValid : NftField → ℕ
  | ltv => NftConfiguration.MAX_VALID_LTV
  | liquidationThreshold => NftConfiguration.MAX_VALID_LIQUIDATION_THRESHOLD
  | liquidationBonus => NftConfiguration.MAX_VALID_LIQUIDATION_BONUS
  | active | frozen => 1
  | redeemDuration => NftConfiguration.MAX_VALID_REDEEM_DURATION
  | auctionDuration => NftConfiguration.MAX_VALID_AUCTION_DURATION
  | redeemFine => NftConfiguration.MAX_VALID_REDEEM_FINE
  | redeemThreshold => NftConfiguration.MAX_VALID_REDEEM_THRESHOLD
  | minBidFine => NftConfiguration.MAX_VALID_MIN_BIDFINE
  | configTimestamp => NftConfiguration.MAX_VALID_CONFIG_TIMESTAMP

/-- The getter of a field. -/
def get : ∀ p : NftField, BitVec 256 → p.Value
  | ltv => getLtv
  | liquidationThreshold => getLiquidationThreshold
  | liquidationBonus => getLiquidationBonus
  | active => getActive
  | frozen => getFrozen
  | redeemDuration => NftConfiguration.getRedeemDuration
  | auctionDuration => NftConfiguration.getAuctionDuration
  | redeemFine => NftConfiguration.getRedeemFine
  | redeemThreshold => NftConfiguration.getRedeemThreshold
  | minBidFine => NftConfiguration.getMinBidFine
  | configTimestamp => NftConfiguration.getConfigTimestamp

/-- The setter of a field. -/
def set : ∀ p : NftField, p.Value → BitVec 256 → Except Error (BitVec 256)
  | ltv => NftConfiguration.setLtv
  | liquidationThreshold => NftConfiguration.setLiquidationThreshold
  | liquidationBonus => NftConfiguration.setLiquidationBonus
  | active => fun flag c => .ok (setActive flag c)
  | frozen => fun flag c => .ok (setFrozen flag c)
  | redeemDuration => NftConfiguration.setRedeemDuration
  | auctionDuration => NftConfiguration.setAuctionDuration
  | redeemFine => NftConfiguration.setRedeemFine
  | redeemThreshold => NftConfiguration.setRedeemThreshold
  | minBidFine => NftConfiguration.setMinBidFine
  | configTimestamp => NftConfiguration.setConfigTimestamp

theorem maxValid_lt (p : NftField) : p.maxValid < 2 ^ p.width := by cases p <;> decide

theorem number_injective (p : NftField) : Function.Injective p.number := by
  cases p with
  | active | frozen => exact toNat_injective
  | _ => exact Function.injective_id

/-- A getter reads its field. -/
theorem number_get (p : NftField) (c : BitVec 256) :
    p.number (p.get c) = nftLayout.values c p := by
  cases p with
  | active => exact getFlag_toNat nftLayout .active rfl c
  | frozen => exact getFlag_toNat nftLayout .frozen rfl c
  | _ => rfl

/-- A setter writes its field. -/
theorem set_eq (p : NftField) (v : p.Value) (c : BitVec 256) (h : p.number v ≤ p.maxValid) :
    p.set v c = .ok (write p.mask p.start (p.number v) c) := by
  cases p with
  | active => exact congrArg Except.ok (setActive_eq v c)
  | frozen => exact congrArg Except.ok (setFrozen_eq v c)
  | _ => exact setField_eq h

/-- And it refuses what is too large. -/
theorem refuses (p : NftField) (v : p.Value) (c : BitVec 256) (h : ¬ p.number v ≤ p.maxValid) :
    ∃ e, p.set v c = .error e := by
  cases p with
  -- a flag is never too large
  | active | frozen => exact absurd (Bool.toNat_le v) h
  | _ => exact ⟨_, setField_refuses h⟩

end NftField

/-- **The configuration of a token is a record.** -/
def nftRecord : Record NftField 256 Error where
  toLayout := nftLayout
  Value := NftField.Value
  number := NftField.number
  maxValid := NftField.maxValid
  get := NftField.get
  set := NftField.set
  maxValid_lt := NftField.maxValid_lt
  number_injective := NftField.number_injective
  number_get := NftField.number_get
  set_eq := NftField.set_eq
  refuses := NftField.refuses

/-! ## The configuration of a reserve -/

/-- The fields of the configuration of a reserve. -/
inductive ReserveField
  | ltv | liquidationThreshold | liquidationBonus | decimals | active | frozen | borrowing
  | stableBorrowing | reserveFactor
  deriving DecidableEq

namespace ReserveField

open ReserveConfiguration

def mask : ReserveField → BitVec 256
  | ltv => LTV_MASK
  | liquidationThreshold => LIQUIDATION_THRESHOLD_MASK
  | liquidationBonus => LIQUIDATION_BONUS_MASK
  | decimals => DECIMALS_MASK
  | active => ACTIVE_MASK
  | frozen => FROZEN_MASK
  | borrowing => BORROWING_MASK
  | stableBorrowing => STABLE_BORROWING_MASK
  | reserveFactor => RESERVE_FACTOR_MASK

def start : ReserveField → ℕ
  | ltv => 0
  | liquidationThreshold => LIQUIDATION_THRESHOLD_START_BIT_POSITION
  | liquidationBonus => LIQUIDATION_BONUS_START_BIT_POSITION
  | decimals => RESERVE_DECIMALS_START_BIT_POSITION
  | active => IS_ACTIVE_START_BIT_POSITION
  | frozen => IS_FROZEN_START_BIT_POSITION
  | borrowing => BORROWING_ENABLED_START_BIT_POSITION
  | stableBorrowing => STABLE_BORROWING_ENABLED_START_BIT_POSITION
  | reserveFactor => RESERVE_FACTOR_START_BIT_POSITION

def width : ReserveField → ℕ
  | active | frozen | borrowing | stableBorrowing => 1
  | decimals => 8
  | _ => 16

theorem fits (p : ReserveField) : p.start + p.width ≤ 256 := by cases p <;> decide

/-- The masks of the contract have their zeros where the fields are. -/
theorem masks (p : ReserveField) : Masks p.mask p.start p.width := by
  cases p <;> decide +kernel

theorem apart (p q : ReserveField) (h : p ≠ q) :
    p.start + p.width ≤ q.start ∨ q.start + q.width ≤ p.start := by
  cases p <;> cases q <;> first | exact absurd rfl h | decide

/-- The configuration of a reserve is laid out in fields that do not overlap. -/
def layout : Layout ReserveField 256 := ⟨mask, start, width, fits, masks, apart⟩

/-- What the field holds. -/
def Value : ReserveField → Type
  | active | frozen | borrowing | stableBorrowing => Bool
  | _ => ℕ

def number : ∀ p : ReserveField, p.Value → ℕ
  | active, flag | frozen, flag | borrowing, flag | stableBorrowing, flag => flag.toNat
  | ltv, v | liquidationThreshold, v | liquidationBonus, v | decimals, v | reserveFactor, v => v

/-- The largest value that the setter takes; for a flag, the larger of the two. -/
def maxValid : ReserveField → ℕ
  | ltv => MAX_VALID_LTV
  | liquidationThreshold => MAX_VALID_LIQUIDATION_THRESHOLD
  | liquidationBonus => MAX_VALID_LIQUIDATION_BONUS
  | decimals => MAX_VALID_DECIMALS
  | active | frozen | borrowing | stableBorrowing => 1
  | reserveFactor => MAX_VALID_RESERVE_FACTOR

/-- The getter of a field. -/
def get : ∀ p : ReserveField, BitVec 256 → p.Value
  | ltv => getLtv
  | liquidationThreshold => getLiquidationThreshold
  | liquidationBonus => getLiquidationBonus
  | decimals => getDecimals
  | active => getActive
  | frozen => getFrozen
  | borrowing => getBorrowingEnabled
  | stableBorrowing => getStableRateBorrowingEnabled
  | reserveFactor => getReserveFactor

/-- The setter of a field. -/
def set : ∀ p : ReserveField, p.Value → BitVec 256 → Except Error (BitVec 256)
  | ltv => setLtv
  | liquidationThreshold => setLiquidationThreshold
  | liquidationBonus => setLiquidationBonus
  | decimals => setDecimals
  | active => fun flag c => .ok (setActive flag c)
  | frozen => fun flag c => .ok (setFrozen flag c)
  | borrowing => fun flag c => .ok (setBorrowingEnabled flag c)
  | stableBorrowing => fun flag c => .ok (setStableRateBorrowingEnabled flag c)
  | reserveFactor => setReserveFactor

theorem maxValid_lt (p : ReserveField) : p.maxValid < 2 ^ p.width := by cases p <;> decide

theorem number_injective (p : ReserveField) : Function.Injective p.number := by
  cases p with
  | active | frozen | borrowing | stableBorrowing => exact toNat_injective
  | _ => exact Function.injective_id

/-- A getter reads its field. -/
theorem number_get (p : ReserveField) (c : BitVec 256) :
    p.number (p.get c) = layout.values c p := by
  cases p with
  | active => exact getFlag_toNat layout .active rfl c
  | frozen => exact getFlag_toNat layout .frozen rfl c
  | borrowing => exact getFlag_toNat layout .borrowing rfl c
  | stableBorrowing => exact getFlag_toNat layout .stableBorrowing rfl c
  | _ => rfl

theorem setBorrowingEnabled_eq (flag : Bool) (c : BitVec 256) : setBorrowingEnabled flag c
    = write BORROWING_MASK BORROWING_ENABLED_START_BIT_POSITION flag.toNat c := setFlag_eq flag

theorem setStableRateBorrowingEnabled_eq (flag : Bool) (c : BitVec 256) :
    setStableRateBorrowingEnabled flag c
      = write STABLE_BORROWING_MASK STABLE_BORROWING_ENABLED_START_BIT_POSITION flag.toNat c :=
  setFlag_eq flag

/-- A setter writes its field. -/
theorem set_eq (p : ReserveField) (v : p.Value) (c : BitVec 256) (h : p.number v ≤ p.maxValid) :
    p.set v c = .ok (write p.mask p.start (p.number v) c) := by
  cases p with
  | active => exact congrArg Except.ok (setActive_eq v c)
  | frozen => exact congrArg Except.ok (setFrozen_eq v c)
  | borrowing => exact congrArg Except.ok (setBorrowingEnabled_eq v c)
  | stableBorrowing => exact congrArg Except.ok (setStableRateBorrowingEnabled_eq v c)
  | _ => exact setField_eq h

/-- And it refuses what is too large. -/
theorem refuses (p : ReserveField) (v : p.Value) (c : BitVec 256) (h : ¬ p.number v ≤ p.maxValid) :
    ∃ e, p.set v c = .error e := by
  cases p with
  | active | frozen | borrowing | stableBorrowing => exact absurd (Bool.toNat_le v) h
  | _ => exact ⟨_, setField_refuses h⟩

end ReserveField

/-- **The configuration of a reserve is a record.** -/
def reserveRecord : Record ReserveField 256 Error where
  toLayout := ReserveField.layout
  Value := ReserveField.Value
  number := ReserveField.number
  maxValid := ReserveField.maxValid
  get := ReserveField.get
  set := ReserveField.set
  maxValid_lt := ReserveField.maxValid_lt
  number_injective := ReserveField.number_injective
  number_get := ReserveField.number_get
  set_eq := ReserveField.set_eq
  refuses := ReserveField.refuses

/-! ## Several fields at a time -/

/-- What the getters of several fields of a token return is what those of the single fields do. -/
structure NftAggregates (c : BitVec 256) : Prop where
  flags : NftConfiguration.getFlags c = (getActive c, getFrozen c)
  flagsMemory : NftConfiguration.getFlagsMemory c = (getActive c, getFrozen c)
  collateral : NftConfiguration.getCollateralParams c
    = (getLtv c, getLiquidationThreshold c, getLiquidationBonus c)
  collateralMemory : NftConfiguration.getCollateralParamsMemory c
    = (getLtv c, getLiquidationThreshold c, getLiquidationBonus c)
  auction : NftConfiguration.getAuctionParams c
    = (NftConfiguration.getRedeemDuration c, NftConfiguration.getAuctionDuration c,
      NftConfiguration.getRedeemFine c, NftConfiguration.getRedeemThreshold c)
  auctionMemory : NftConfiguration.getAuctionParamsMemory c
    = (NftConfiguration.getRedeemDuration c, NftConfiguration.getAuctionDuration c,
      NftConfiguration.getRedeemFine c, NftConfiguration.getRedeemThreshold c)
  minBidFineMemory : NftConfiguration.getMinBidFineMemory c = NftConfiguration.getMinBidFine c
  configTimestampMemory : NftConfiguration.getConfigTimestampMemory c
    = NftConfiguration.getConfigTimestamp c

/-- And so it is for a reserve. -/
structure ReserveAggregates (c : BitVec 256) : Prop where
  flags : ReserveConfiguration.getFlags c = (getActive c, getFrozen c,
    ReserveConfiguration.getBorrowingEnabled c,
    ReserveConfiguration.getStableRateBorrowingEnabled c)
  flagsMemory : ReserveConfiguration.getFlagsMemory c = (getActive c, getFrozen c,
    ReserveConfiguration.getBorrowingEnabled c,
    ReserveConfiguration.getStableRateBorrowingEnabled c)
  params : ReserveConfiguration.getParams c = (getLtv c, getLiquidationThreshold c,
    getLiquidationBonus c, ReserveConfiguration.getDecimals c,
    ReserveConfiguration.getReserveFactor c)
  paramsMemory : ReserveConfiguration.getParamsMemory c = (getLtv c, getLiquidationThreshold c,
    getLiquidationBonus c, ReserveConfiguration.getDecimals c,
    ReserveConfiguration.getReserveFactor c)

/-- The loan-to-value sits at the lowest bit and is read without a shift. -/
theorem getLtv_eq (c : BitVec 256) : getLtv c = (c &&& ~~~LTV_MASK).toNat := by
  unfold getLtv getField
  rw [BitVec.ushiftRight_zero]

theorem nftAggregates (c : BitVec 256) : NftAggregates c := by
  -- all but those that begin with the loan-to-value are the single getters side by side
  refine ⟨rfl, rfl, ?_, ?_, rfl, rfl, rfl, rfl⟩ <;> rw [getLtv_eq] <;> rfl

theorem reserveAggregates (c : BitVec 256) : ReserveAggregates c := by
  refine ⟨rfl, rfl, ?_, ?_⟩ <;> rw [getLtv_eq] <;> rfl

/-- **Packed configurations.** The words of tokens and of reserves are as good as records, and what
reads several fields at a time agrees with what reads a single one, on every word. -/
theorem configurations_faithful :
    nftRecord.Faithful ∧ reserveRecord.Faithful ∧
      ∀ c : BitVec 256, NftAggregates c ∧ ReserveAggregates c :=
  ⟨nftRecord.faithful, reserveRecord.faithful, fun c => ⟨nftAggregates c, reserveAggregates c⟩⟩

end Unlockd
