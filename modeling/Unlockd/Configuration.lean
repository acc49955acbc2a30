/-
The configuration words: `ReserveConfiguration.sol` and `NftConfiguration.sol`.

A configuration is one 256-bit word. Each field is described by a mask that has zeros
exactly on the bits of the field, and the position of its lowest bit. All fields are
read and written in the same way, so each getter and setter is one of the four functions
below applied to the field's own mask and position.
-/
import Unlockd.DataTypes
import Unlockd.Lib.Outcome

set_option autoImplicit false

namespace Unlockd

open Outcome

/-- The number in the field under a mask. -/
def getField (mask : BitVec 256) (start : ℕ) (data : BitVec 256) : ℕ :=
  ((data &&& ~~~mask) >>> start).toNat

/-- Whether the bit under a mask is set. -/
def getFlag (mask data : BitVec 256) : Bool := data &&& ~~~mask != 0

/-- Write a number that is at most `maxValid` into the field under a mask. -/
def setField (mask : BitVec 256) (start maxValid : ℕ) (err : Error) (value : ℕ)
    (data : BitVec 256) : Except Error (BitVec 256) := do
  require (value ≤ maxValid) err
  return (data &&& mask) ||| (BitVec.ofNat 256 value <<< start)

/-- Write the bit under a mask. -/
def setFlag (mask : BitVec 256) (start : ℕ) (flag : Bool) (data : BitVec 256) : BitVec 256 :=
  (data &&& mask) ||| ((if flag then 1 else 0 : BitVec 256) <<< start)

/-! ## Masks and positions shared by reserves and NFTs -/

def LTV_MASK : BitVec 256 :=
  0xFFFFFFFFFFFFFFFFFFFFFFFFFFFFFFFFFFFFFFFFFFFFFFFFFFFFFFFFFFFF0000
def LIQUIDATION_THRESHOLD_MASK : BitVec 256 :=
  0xFFFFFFFFFFFFFFFFFFFFFFFFFFFFFFFFFFFFFFFFFFFFFFFFFFFFFFFF0000FFFF
def LIQUIDATION_BONUS_MASK : BitVec 256 :=
  0xFFFFFFFFFFFFFFFFFFFFFFFFFFFFFFFFFFFFFFFFFFFFFFFFFFFF0000FFFFFFFF
def DECIMALS_MASK : BitVec 256 :=
  0xFFFFFFFFFFFFFFFFFFFFFFFFFFFFFFFFFFFFFFFFFFFFFFFFFF00FFFFFFFFFFFF
def ACTIVE_MASK : BitVec 256 :=
  0xFFFFFFFFFFFFFFFFFFFFFFFFFFFFFFFFFFFFFFFFFFFFFFFFFEFFFFFFFFFFFFFF
def FROZEN_MASK : BitVec 256 :=
  0xFFFFFFFFFFFFFFFFFFFFFFFFFFFFFFFFFFFFFFFFFFFFFFFFFDFFFFFFFFFFFFFF
def BORROWING_MASK : BitVec 256 :=
  0xFFFFFFFFFFFFFFFFFFFFFFFFFFFFFFFFFFFFFFFFFFFFFFFFFBFFFFFFFFFFFFFF
def STABLE_BORROWING_MASK : BitVec 256 :=
  0xFFFFFFFFFFFFFFFFFFFFFFFFFFFFFFFFFFFFFFFFFFFFFFFFF7FFFFFFFFFFFFFF

def LIQUIDATION_THRESHOLD_START_BIT_POSITION : ℕ := 16
def LIQUIDATION_BONUS_START_BIT_POSITION : ℕ := 32
def RESERVE_DECIMALS_START_BIT_POSITION : ℕ := 48
def IS_ACTIVE_START_BIT_POSITION : ℕ := 56
def IS_FROZEN_START_BIT_POSITION : ℕ := 57
def BORROWING_ENABLED_START_BIT_POSITION : ℕ := 58
def STABLE_BORROWING_ENABLED_START_BIT_POSITION : ℕ := 59

def getLtv (data : BitVec 256) : ℕ := getField LTV_MASK 0 data
def getLiquidationThreshold (data : BitVec 256) : ℕ :=
  getField LIQUIDATION_THRESHOLD_MASK LIQUIDATION_THRESHOLD_START_BIT_POSITION data
def getLiquidationBonus (data : BitVec 256) : ℕ :=
  getField LIQUIDATION_BONUS_MASK LIQUIDATION_BONUS_START_BIT_POSITION data
def getActive (data : BitVec 256) : Bool := getFlag ACTIVE_MASK data
def getFrozen (data : BitVec 256) : Bool := getFlag FROZEN_MASK data
def setActive (flag : Bool) (data : BitVec 256) : BitVec 256 :=
  setFlag ACTIVE_MASK IS_ACTIVE_START_BIT_POSITION flag data
def setFrozen (flag : Bool) (data : BitVec 256) : BitVec 256 :=
  setFlag FROZEN_MASK IS_FROZEN_START_BIT_POSITION flag data

/-! ## `ReserveConfiguration` -/

namespace ReserveConfiguration

def RESERVE_FACTOR_MASK : BitVec 256 :=
  0xFFFFFFFFFFFFFFFFFFFFFFFFFFFFFFFFFFFFFFFFFFFF0000FFFFFFFFFFFFFFFF
def RESERVE_FACTOR_START_BIT_POSITION : ℕ := 64
def MAX_VALID_LTV : ℕ := 65535
def MAX_VALID_LIQUIDATION_THRESHOLD : ℕ := 65535
def MAX_VALID_LIQUIDATION_BONUS : ℕ := 65535
def MAX_VALID_DECIMALS : ℕ := 255
def MAX_VALID_RESERVE_FACTOR : ℕ := 65535

def getDecimals (data : BitVec 256) : ℕ :=
  getField DECIMALS_MASK RESERVE_DECIMALS_START_BIT_POSITION data
def getBorrowingEnabled (data : BitVec 256) : Bool := getFlag BORROWING_MASK data
def getStableRateBorrowingEnabled (data : BitVec 256) : Bool := getFlag STABLE_BORROWING_MASK data
def getReserveFactor (data : BitVec 256) : ℕ :=
  getField RESERVE_FACTOR_MASK RESERVE_FACTOR_START_BIT_POSITION data

def setLtv (ltv : ℕ) (data : BitVec 256) : Except Error (BitVec 256) :=
  setField LTV_MASK 0 MAX_VALID_LTV .RC_INVALID_LTV ltv data
def setLiquidationThreshold (threshold : ℕ) (data : BitVec 256) : Except Error (BitVec 256) :=
  setField LIQUIDATION_THRESHOLD_MASK LIQUIDATION_THRESHOLD_START_BIT_POSITION
    MAX_VALID_LIQUIDATION_THRESHOLD .RC_INVALID_LIQ_THRESHOLD threshold data
def setLiquidationBonus (bonus : ℕ) (data : BitVec 256) : Except Error (BitVec 256) :=
  setField LIQUIDATION_BONUS_MASK LIQUIDATION_BONUS_START_BIT_POSITION
    MAX_VALID_LIQUIDATION_BONUS .RC_INVALID_LIQ_BONUS bonus data
def setDecimals (decimals : ℕ) (data : BitVec 256) : Except Error (BitVec 256) :=
  setField DECIMALS_MASK RESERVE_DECIMALS_START_BIT_POSITION MAX_VALID_DECIMALS
    .RC_INVALID_DECIMALS decimals data
def setBorrowingEnabled (enabled : Bool) (data : BitVec 256) : BitVec 256 :=
  setFlag BORROWING_MASK BORROWING_ENABLED_START_BIT_POSITION enabled data
def setStableRateBorrowingEnabled (enabled : Bool) (data : BitVec 256) : BitVec 256 :=
  setFlag STABLE_BORROWING_MASK STABLE_BORROWING_ENABLED_START_BIT_POSITION enabled data
def setReserveFactor (reserveFactor : ℕ) (data : BitVec 256) : Except Error (BitVec 256) :=
  setField RESERVE_FACTOR_MASK RESERVE_FACTOR_START_BIT_POSITION MAX_VALID_RESERVE_FACTOR
    .RC_INVALID_RESERVE_FACTOR reserveFactor data

/-- The flags: active, frozen, borrowing enabled, stable rate borrowing enabled. -/
def getFlags (data : BitVec 256) : Bool × Bool × Bool × Bool :=
  (data &&& ~~~ACTIVE_MASK != 0, data &&& ~~~FROZEN_MASK != 0, data &&& ~~~BORROWING_MASK != 0,
    data &&& ~~~STABLE_BORROWING_MASK != 0)
/-- The parameters: the collateral parameters, the decimals and the reserve factor. -/
def getParams (data : BitVec 256) : ℕ × ℕ × ℕ × ℕ × ℕ :=
  ((data &&& ~~~LTV_MASK).toNat,
    ((data &&& ~~~LIQUIDATION_THRESHOLD_MASK) >>> LIQUIDATION_THRESHOLD_START_BIT_POSITION).toNat,
    ((data &&& ~~~LIQUIDATION_BONUS_MASK) >>> LIQUIDATION_BONUS_START_BIT_POSITION).toNat,
    ((data &&& ~~~DECIMALS_MASK) >>> RESERVE_DECIMALS_START_BIT_POSITION).toNat,
    ((data &&& ~~~RESERVE_FACTOR_MASK) >>> RESERVE_FACTOR_START_BIT_POSITION).toNat)
def getParamsMemory (data : BitVec 256) : ℕ × ℕ × ℕ × ℕ × ℕ :=
  ((data &&& ~~~LTV_MASK).toNat,
    ((data &&& ~~~LIQUIDATION_THRESHOLD_MASK) >>> LIQUIDATION_THRESHOLD_START_BIT_POSITION).toNat,
    ((data &&& ~~~LIQUIDATION_BONUS_MASK) >>> LIQUIDATION_BONUS_START_BIT_POSITION).toNat,
    ((data &&& ~~~DECIMALS_MASK) >>> RESERVE_DECIMALS_START_BIT_POSITION).toNat,
    ((data &&& ~~~RESERVE_FACTOR_MASK) >>> RESERVE_FACTOR_START_BIT_POSITION).toNat)
def getFlagsMemory (data : BitVec 256) : Bool × Bool × Bool × Bool :=
  (data &&& ~~~ACTIVE_MASK != 0, data &&& ~~~FROZEN_MASK != 0, data &&& ~~~BORROWING_MASK != 0,
    data &&& ~~~STABLE_BORROWING_MASK != 0)

end ReserveConfiguration

/-! ## `NftConfiguration` -/

namespace NftConfiguration

def REDEEM_DURATION_MASK : BitVec 256 :=
  0xFFFFFFFFFFFFFFFFFFFFFFFFFFFFFFFFFFFFFFFFFFFF0000FFFFFFFFFFFFFFFF
def AUCTION_DURATION_MASK : BitVec 256 :=
  0xFFFFFFFFFFFFFFFFFFFFFFFFFFFFFFFFFFFFFFFF0000FFFFFFFFFFFFFFFFFFFF
def REDEEM_FINE_MASK : BitVec 256 :=
  0xFFFFFFFFFFFFFFFFFFFFFFFFFFFFFFFFFFFF0000FFFFFFFFFFFFFFFFFFFFFFFF
def REDEEM_THRESHOLD_MASK : BitVec 256 :=
  0xFFFFFFFFFFFFFFFFFFFFFFFFFFFFFFFF0000FFFFFFFFFFFFFFFFFFFFFFFFFFFF
def MIN_BIDFINE_MASK : BitVec 256 :=
  0xFFFFFFFFFFFFFFFFFFFFFFFFFFFF0000FFFFFFFFFFFFFFFFFFFFFFFFFFFFFFFF
def CONFIG_TIMESTAMP_MASK : BitVec 256 :=
  0xFFFFFFFFFFFFFFFFFFFF00000000FFFFFFFFFFFFFFFFFFFFFFFFFFFFFFFFFFFF
def REDEEM_DURATION_START_BIT_POSITION : ℕ := 64
def AUCTION_DURATION_START_BIT_POSITION : ℕ := 80
def REDEEM_FINE_START_BIT_POSITION : ℕ := 96
def REDEEM_THRESHOLD_START_BIT_POSITION : ℕ := 112
def MIN_BIDFINE_START_BIT_POSITION : ℕ := 128
def CONFIG_TIMESTAMP_START_BIT_POSITION : ℕ := 144
def MAX_VALID_LTV : ℕ := 65535
def MAX_VALID_LIQUIDATION_THRESHOLD : ℕ := 65535
def MAX_VALID_LIQUIDATION_BONUS : ℕ := 65535
def MAX_VALID_REDEEM_DURATION : ℕ := 65535
def MAX_VALID_AUCTION_DURATION : ℕ := 65535
def MAX_VALID_REDEEM_FINE : ℕ := 65535
def MAX_VALID_REDEEM_THRESHOLD : ℕ := 65535
def MAX_VALID_MIN_BIDFINE : ℕ := 65535
def MAX_VALID_CONFIG_TIMESTAMP : ℕ := 4294967295

def getRedeemDuration (data : BitVec 256) : ℕ :=
  getField REDEEM_DURATION_MASK REDEEM_DURATION_START_BIT_POSITION data
def getAuctionDuration (data : BitVec 256) : ℕ :=
  getField AUCTION_DURATION_MASK AUCTION_DURATION_START_BIT_POSITION data
def getRedeemFine (data : BitVec 256) : ℕ :=
  getField REDEEM_FINE_MASK REDEEM_FINE_START_BIT_POSITION data
def getRedeemThreshold (data : BitVec 256) : ℕ :=
  getField REDEEM_THRESHOLD_MASK REDEEM_THRESHOLD_START_BIT_POSITION data
def getMinBidFine (data : BitVec 256) : ℕ :=
  getField MIN_BIDFINE_MASK MIN_BIDFINE_START_BIT_POSITION data
def getConfigTimestamp (data : BitVec 256) : ℕ :=
  getField CONFIG_TIMESTAMP_MASK CONFIG_TIMESTAMP_START_BIT_POSITION data

def setLtv (ltv : ℕ) (data : BitVec 256) : Except Error (BitVec 256) :=
  setField LTV_MASK 0 MAX_VALID_LTV .RC_INVALID_LTV ltv data
def setLiquidationThreshold (threshold : ℕ) (data : BitVec 256) : Except Error (BitVec 256) :=
  setField LIQUIDATION_THRESHOLD_MASK LIQUIDATION_THRESHOLD_START_BIT_POSITION
    MAX_VALID_LIQUIDATION_THRESHOLD .RC_INVALID_LIQ_THRESHOLD threshold data
def setLiquidationBonus (bonus : ℕ) (data : BitVec 256) : Except Error (BitVec 256) :=
  setField LIQUIDATION_BONUS_MASK LIQUIDATION_BONUS_START_BIT_POSITION
    MAX_VALID_LIQUIDATION_BONUS .RC_INVALID_LIQ_BONUS bonus data
def setRedeemDuration (redeemDuration : ℕ) (data : BitVec 256) : Except Error (BitVec 256) :=
  setField REDEEM_DURATION_MASK REDEEM_DURATION_START_BIT_POSITION MAX_VALID_REDEEM_DURATION
    .RC_INVALID_REDEEM_DURATION redeemDuration data
def setAuctionDuration (auctionDuration : ℕ) (data : BitVec 256) : Except Error (BitVec 256) :=
  setField AUCTION_DURATION_MASK AUCTION_DURATION_START_BIT_POSITION MAX_VALID_AUCTION_DURATION
    .RC_INVALID_AUCTION_DURATION auctionDuration data
def setRedeemFine (redeemFine : ℕ) (data : BitVec 256) : Except Error (BitVec 256) :=
  setField REDEEM_FINE_MASK REDEEM_FINE_START_BIT_POSITION MAX_VALID_REDEEM_FINE
    .RC_INVALID_REDEEM_FINE redeemFine data
def setRedeemThreshold (redeemThreshold : ℕ) (data : BitVec 256) : Except Error (BitVec 256) :=
  setField REDEEM_THRESHOLD_MASK REDEEM_THRESHOLD_START_BIT_POSITION MAX_VALID_REDEEM_THRESHOLD
    .RC_INVALID_REDEEM_THRESHOLD redeemThreshold data
def setMinBidFine (minBidFine : ℕ) (data : BitVec 256) : Except Error (BitVec 256) :=
  setField MIN_BIDFINE_MASK MIN_BIDFINE_START_BIT_POSITION MAX_VALID_MIN_BIDFINE
    .RC_INVALID_MIN_BID_FINE minBidFine data
def setConfigTimestamp (configTimestamp : ℕ) (data : BitVec 256) : Except Error (BitVec 256) :=
  setField CONFIG_TIMESTAMP_MASK CONFIG_TIMESTAMP_START_BIT_POSITION MAX_VALID_CONFIG_TIMESTAMP
    .RC_INVALID_MAX_CONFIG_TIMESTAMP configTimestamp data

/-- The flags: active, frozen. -/
def getFlags (data : BitVec 256) : Bool × Bool :=
  (data &&& ~~~ACTIVE_MASK != 0, data &&& ~~~FROZEN_MASK != 0)
def getFlagsMemory (data : BitVec 256) : Bool × Bool :=
  (data &&& ~~~ACTIVE_MASK != 0, data &&& ~~~FROZEN_MASK != 0)
/-- The loan-to-value, the liquidation threshold and the liquidation bonus. -/
def getCollateralParams (data : BitVec 256) : ℕ × ℕ × ℕ :=
  ((data &&& ~~~LTV_MASK).toNat,
    ((data &&& ~~~LIQUIDATION_THRESHOLD_MASK) >>> LIQUIDATION_THRESHOLD_START_BIT_POSITION).toNat,
    ((data &&& ~~~LIQUIDATION_BONUS_MASK) >>> LIQUIDATION_BONUS_START_BIT_POSITION).toNat)
/-- The durations to redeem and of the auction, the fine and the threshold to redeem. -/
def getAuctionParams (data : BitVec 256) : ℕ × ℕ × ℕ × ℕ :=
  (((data &&& ~~~REDEEM_DURATION_MASK) >>> REDEEM_DURATION_START_BIT_POSITION).toNat,
    ((data &&& ~~~AUCTION_DURATION_MASK) >>> AUCTION_DURATION_START_BIT_POSITION).toNat,
    ((data &&& ~~~REDEEM_FINE_MASK) >>> REDEEM_FINE_START_BIT_POSITION).toNat,
    ((data &&& ~~~REDEEM_THRESHOLD_MASK) >>> REDEEM_THRESHOLD_START_BIT_POSITION).toNat)
def getCollateralParamsMemory (data : BitVec 256) : ℕ × ℕ × ℕ :=
  ((data &&& ~~~LTV_MASK).toNat,
    ((data &&& ~~~LIQUIDATION_THRESHOLD_MASK) >>> LIQUIDATION_THRESHOLD_START_BIT_POSITION).toNat,
    ((data &&& ~~~LIQUIDATION_BONUS_MASK) >>> LIQUIDATION_BONUS_START_BIT_POSITION).toNat)
def getAuctionParamsMemory (data : BitVec 256) : ℕ × ℕ × ℕ × ℕ :=
  (((data &&& ~~~REDEEM_DURATION_MASK) >>> REDEEM_DURATION_START_BIT_POSITION).toNat,
    ((data &&& ~~~AUCTION_DURATION_MASK) >>> AUCTION_DURATION_START_BIT_POSITION).toNat,
    ((data &&& ~~~REDEEM_FINE_MASK) >>> REDEEM_FINE_START_BIT_POSITION).toNat,
    ((data &&& ~~~REDEEM_THRESHOLD_MASK) >>> REDEEM_THRESHOLD_START_BIT_POSITION).toNat)
def getMinBidFineMemory (data : BitVec 256) : ℕ :=
  ((data &&& ~~~MIN_BIDFINE_MASK) >>> MIN_BIDFINE_START_BIT_POSITION).toNat
def getConfigTimestampMemory (data : BitVec 256) : ℕ :=
  ((data &&& ~~~CONFIG_TIMESTAMP_MASK) >>> CONFIG_TIMESTAMP_START_BIT_POSITION).toNat

end NftConfiguration

end Unlockd
