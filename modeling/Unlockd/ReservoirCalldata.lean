/-
`ReservoirAdapter.sol`: the call data of an outside sale.

A liquidator hands the adapter the call that the token is sent with, as bytes. The adapter decodes
them twice: once for the arguments of `safeTransferFrom` that have a fixed size, and once more, from
a fixed position on, for the call of the router that travels in its last argument. It then makes the
call. The token decodes the bytes a third time, and finds the last argument by following its offset
word; that is what the module is handed, and acts on.

The fixed position is where the last argument stands if the offset word says so, which nothing
checks. Here the bytes are decoded in all three ways, and it is shown for exactly which bytes what
was checked is what is handed over.
-/
import Unlockd.Lending
import Unlockd.Lib.Abi

set_option autoImplicit false

namespace Unlockd

open Outcome Abi

/-! ## What the adapter decodes -/

/-- `SAFETRANSFERFROM_FUNCTION_SELECTOR`. -/
def SAFETRANSFERFROM_FUNCTION_SELECTOR : ℕ := 0xb88d4fde

/-- `EXECUTE_FUNCTION_SELECTOR`. -/
def EXECUTE_FUNCTION_SELECTOR : ℕ := 0x760f2a0b

/-- `SafeTransferFromDecodedData`; `src` and `dst` are its `from` and `to`. -/
structure SafeTransferFromDecodedData where
  src : Address
  dst : Address
  tokenId : ℕ
  safeTransferFromSelector : ℕ

/-- `ExecutionInfo`. -/
structure ExecutionInfo where
  module : Address
  data : Bytes
  value : ℕ

/-- The end of a byte string, from a position on. -/
def slice (bs : Bytes) (start : ℕ) : Except Error Bytes := do
  require (start ≤ bs.length) Error.malformedCalldata
  return bs.drop start

/-- What has been decoded, if anything. -/
def decoded {α : Type} : Option α → Except Error α
  | some v => .ok v
  | none => .error .malformedCalldata

/-- The selector of a call. -/
def selectorOf (data : Bytes) : ℕ := natOf (data.take 4)

/-- `(address, address, uint256)`. -/
def decodeTransfer (bs : Bytes) : Option (Address × Address × ℕ) :=
  if 0x60 ≤ bs.length then do
    let src ← address bs 0
    let dst ← address bs 32
    return (src, dst, word bs 64)
  else none

/-- `_decodeSafeTransferFromData`. -/
def _decodeSafeTransferFromData (data : Bytes) : Except Error SafeTransferFromDecodedData := do
  let arguments ← slice data 4
  let transfer ← decoded (decodeTransfer arguments)
  return ⟨transfer.1, transfer.2.1, transfer.2.2, selectorOf data⟩

/-- An `ExecutionInfo` in call data. -/
def executionInfo : Decoder ExecutionInfo := fun bs i =>
  if i + 0x60 ≤ bs.length then do
    let module ← address bs i
    let data ← dynamic bytes i bs (i + 32)
    return ⟨module, data, word bs (i + 64)⟩
  else none

/-- `(ExecutionInfo[])`. -/
def decodeExecutions (bs : Bytes) : Option (List ExecutionInfo) :=
  if 0x20 ≤ bs.length then dynamic (array executionInfo) 0 bs 0 else none

/-- `_decodeReservoirRouterExecuteData`: the selector, and the module of the first execution. -/
def _decodeReservoirRouterExecuteData (data : Bytes) : Except Error (ℕ × Address) := do
  let arguments ← slice data 4
  let executions ← decoded (decodeExecutions arguments)
  match executions with
  | [] => .error .indexOutOfBounds
  | execution :: _ => return (selectorOf data, execution.module)

/-- `_validateSafeTransferFromData`. -/
def State._validateSafeTransferFromData (D : Deployment) (s : State) (selector : ℕ)
    (src dst : Address) : Except Error Unit := do
  require (selector = SAFETRANSFERFROM_FUNCTION_SELECTOR)
    Error.InvalidSafeTransferFromExpectedSelector
  require (src = D.reservoirAdapter) Error.InvalidReservoirFromAddress
  require (s.reservoirModules dst = true) Error.InvalidReservoirModule

/-- `_validateExecuteData`. -/
def _validateExecuteData (selector : ℕ) (dst module : Address) : Except Error Unit := do
  require (selector = EXECUTE_FUNCTION_SELECTOR) Error.InvalidExecuteExpectedSelector
  require (dst = module) Error.InvalidReservoirModuleOnExecute

/-! ## What the token decodes -/

/-- The arguments of `safeTransferFrom(address,address,uint256,bytes)`. -/
structure SafeTransferFromArguments where
  src : Address
  dst : Address
  tokenId : ℕ
  data : Bytes
  deriving DecidableEq

/-- `(address, address, uint256, bytes)`, after the selector. -/
def decodeSafeTransferFrom (data : Bytes) : Option SafeTransferFromArguments :=
  let bs := data.drop 4
  if 0x80 ≤ bs.length then do
    let src ← address bs 0
    let dst ← address bs 32
    let data ← dynamic bytes 0 bs 96
    return ⟨src, dst, word bs 64, data⟩
  else none

namespace State

variable (D : Deployment) (s : State)

/-- The call of the token: it is sent, and the module is handed the bytes of the call, with which it
makes the sale. -/
def callNft (nftAsset : Address) (data : Bytes) (onERC721Received : Bytes → Sale D) :
    Except Error State :=
  match decodeSafeTransferFrom data with
  | some call => s.sellNft D nftAsset call.tokenId call.dst (onERC721Received call.data)
  | none => .error .LowLevelSafeTransferFromFailed

/-- `liquidateReservoir`, called by `caller` with the bytes of the call of the token. -/
def liquidateReservoirData (caller nftAsset reserveAsset : Address) (data : Bytes)
    (onERC721Received : Bytes → Sale D) (expectedLiquidateAmount : ℕ) :
    Except Error State := do
  require (s.liquidators caller = true) Error.NotReservoirLiquidator
  let transfer ← _decodeSafeTransferFromData data
  s._validateSafeTransferFromData D transfer.safeTransferFromSelector transfer.src transfer.dst
  -- the call of the router is taken to stand at 164, right after the head and its own length
  let payload ← slice data 164
  let execute ← _decodeReservoirRouterExecuteData payload
  _validateExecuteData execute.1 transfer.dst execute.2
  let s ← s.updateReserveState reserveAsset
  let loanId := s.lendPoolLoan.getCollateralLoanId nftAsset transfer.tokenId
  s._performLoanChecks loanId nftAsset transfer.tokenId
  let loanData := s.lendPoolLoan.getLoan loanId
  let reserveData := s.lendPool.reserves loanData.reserveAsset
  s._validateLoanHealthFactor nftAsset transfer.tokenId
  let auction ← s.getNftAuctionData nftAsset transfer.tokenId
  let borrowAmount ← s.getLoanReserveBorrowAmount loanId
  let s ← s.liquidateLoanMarket D D.reservoirAdapter loanId
  let balanceBefore := (s.erc20 loanData.reserveAsset).balanceOf D.reservoirAdapter
  let s ← s.callNft D nftAsset data onERC721Received
  let liquidatedAmount ←
    checkedSub ((s.erc20 loanData.reserveAsset).balanceOf D.reservoirAdapter) balanceBefore
  require (expectedLiquidateAmount ≤ liquidatedAmount) Error.InvalidLiquidateAmount
  let s ← s.burnDebt D.reservoirAdapter loanData.reserveAsset loanData.borrower borrowAmount
    reserveData.variableBorrowIndex
  let s ← s.cancelDebtListingIfExists D D.reservoirAdapter nftAsset transfer.tokenId
  let s ← s.updateReserveInterestRates loanData.reserveAsset
  s._settleLiquidation D loanData reserveData.uTokenAddress borrowAmount
    (borrowAmount - liquidatedAmount) (liquidatedAmount - borrowAmount) auction.bidFine

end State

/-! ## Decoding less -/

section Decoding

variable {xs ys data : Bytes} {r : ℕ × Address}

@[simp] theorem decoded_eq_ok {α : Type} {x : Option α} {v : α} :
    decoded x = .ok v ↔ x = some v := by
  cases x with
  | some w => exact ⟨fun h => congrArg _ (Except.ok.inj h), fun h => congrArg _ (Option.some.inj h)⟩
  | none => exact ⟨fun h => (nomatch h), fun h => (nomatch h)⟩

theorem slice_eq_ok {start : ℕ} {bs : Bytes} :
    slice xs start = .ok bs ↔ start ≤ xs.length ∧ xs.drop start = bs := by
  rw [slice, require_bind_eq_ok]
  exact and_congr_right fun _ => ⟨fun h => Except.ok.inj h, fun h => congrArg _ h⟩

theorem executionInfo_stable : Stable executionInfo := by
  intro xs ys i v h
  obtain ⟨hbound, h⟩ := Option.ite_none_right_eq_some.mp h
  obtain ⟨module, hmodule, h⟩ := Option.bind_eq_some_iff.mp h
  obtain ⟨data, hdata, h⟩ := Option.bind_eq_some_iff.mp h
  refine Option.ite_none_right_eq_some.mpr ⟨?_, ?_⟩
  · rw [List.length_append]
    omega
  refine Option.bind_eq_some_iff.mpr ⟨module, ?_, Option.bind_eq_some_iff.mpr ⟨data, ?_, ?_⟩⟩
  · rw [address_append (by omega), hmodule]
  · exact dynamic_append bytes_stable (by omega) hdata
  · rw [word_append (by omega)]
    exact h

/-- What is decoded from the beginning of the call of the router is decoded from all of it. -/
theorem execute_append (h : _decodeReservoirRouterExecuteData xs = .ok r) :
    _decodeReservoirRouterExecuteData (xs ++ ys) = .ok r := by
  obtain ⟨arguments, harguments, h⟩ := bind_eq_ok.mp h
  obtain ⟨hlong, rfl⟩ := slice_eq_ok.mp harguments
  obtain ⟨executions, hexecutions, h⟩ := bind_eq_ok.mp h
  obtain ⟨hhead, hexecutions⟩ := Option.ite_none_right_eq_some.mp (decoded_eq_ok.mp hexecutions)
  have hselector : selectorOf (xs ++ ys) = selectorOf xs := by
    rw [selectorOf, selectorOf, List.take_append_of_le_length hlong]
  refine bind_eq_ok.mpr ⟨_, slice_eq_ok.mpr ⟨?_, rfl⟩, bind_eq_ok.mpr ⟨executions, ?_, ?_⟩⟩
  · rw [List.length_append]
    omega
  · rw [decoded_eq_ok, List.drop_append_of_le_length hlong]
    refine Option.ite_none_right_eq_some.mpr ⟨?_, ?_⟩
    · rw [List.length_append]
      omega
    · exact dynamic_append (array_stable executionInfo_stable) (by omega) hexecutions
  · rw [hselector]
    exact h

theorem word_drop {k i : ℕ} : word (xs.drop k) i = word xs (k + i) := by
  rw [word, word, List.drop_drop]

/-- The adapter and the token read the same words of the head. -/
theorem decodeTransfer_of {call : SafeTransferFromArguments}
    (hcall : decodeSafeTransferFrom data = some call) :
    decodeTransfer (data.drop 4) = some (call.src, call.dst, call.tokenId) := by
  obtain ⟨hhead, hcall⟩ := Option.ite_none_right_eq_some.mp hcall
  obtain ⟨src, hsrc, hcall⟩ := Option.bind_eq_some_iff.mp hcall
  obtain ⟨dst, hdst, hcall⟩ := Option.bind_eq_some_iff.mp hcall
  obtain ⟨data', -, hcall⟩ := Option.bind_eq_some_iff.mp hcall
  obtain rfl := Option.some.inj hcall
  refine Option.ite_none_right_eq_some.mpr ⟨by omega, ?_⟩
  exact Option.bind_eq_some_iff.mpr ⟨src, hsrc, Option.bind_eq_some_iff.mpr ⟨dst, hdst, rfl⟩⟩

/-- The position that the offset word of the last argument points at. -/
def payloadStart (data : Bytes) : ℕ := 4 + word data 100

/-- The length word found there. -/
def payloadLength (data : Bytes) : ℕ := word data (payloadStart data)

/-- The last argument begins after its length word. -/
theorem payload_of {call : SafeTransferFromArguments}
    (hcall : decodeSafeTransferFrom data = some call) :
    call.data = (data.drop (payloadStart data + 32)).take (payloadLength data) ∧
      call.data.length = payloadLength data := by
  obtain ⟨hhead, hcall⟩ := Option.ite_none_right_eq_some.mp hcall
  obtain ⟨src, hsrc, hcall⟩ := Option.bind_eq_some_iff.mp hcall
  obtain ⟨dst, hdst, hcall⟩ := Option.bind_eq_some_iff.mp hcall
  obtain ⟨data', hdata, hcall⟩ := Option.bind_eq_some_iff.mp hcall
  obtain rfl := Option.some.inj hcall
  obtain ⟨o, ho, hdata⟩ := dynamic_eq_some.mp hdata
  obtain ⟨-, ho⟩ := Option.ite_none_right_eq_some.mp ho
  obtain rfl := Option.some.inj ho
  obtain ⟨n, hn, hbound, rfl⟩ := bytes_eq_some.mp hdata
  obtain ⟨-, -, rfl⟩ := length_eq_some.mp hn
  have hstart : 4 + (0 + word (data.drop 4) 96) = payloadStart data := by
    rw [word_drop, payloadStart, Nat.zero_add]
  have hlength : word (data.drop 4) (0 + word (data.drop 4) 96) = payloadLength data := by
    rw [word_drop, hstart, payloadLength]
  rw [hlength] at hbound ⊢
  refine ⟨?_, ?_⟩
  · rw [List.drop_drop, ← hstart, Nat.add_assoc 4]
  · rw [List.length_take, List.length_drop]
    exact Nat.min_eq_left (by omega)

end Decoding

/-! ## Accepted call data -/

/-- The call data of an accepted liquidation: what was checked, and the run that the checks let
through, with the module handed the last argument of the call. -/
structure Accepted (D : Deployment) (s : State) (caller nftAsset reserveAsset : Address)
    (data : Bytes) (onERC721Received : Bytes → Sale D) (expectedLiquidateAmount : ℕ)
    (s' : State) (call : SafeTransferFromArguments) : Prop where
  decodes : decodeSafeTransferFrom data = some call
  selector : selectorOf data = SAFETRANSFERFROM_FUNCTION_SELECTOR
  src : call.src = D.reservoirAdapter
  execute : _decodeReservoirRouterExecuteData (data.drop 164)
    = .ok (EXECUTE_FUNCTION_SELECTOR, call.dst)
  run : s.liquidateReservoir D caller nftAsset reserveAsset call.tokenId call.dst
    (onERC721Received call.data) expectedLiquidateAmount = .ok s'

section Accepted

variable {D : Deployment} {s s' : State} {caller nftAsset reserveAsset : Address} {data : Bytes}
  {onERC721Received : Bytes → Sale D} {expectedLiquidateAmount : ℕ}

theorem State.callNft_of {call : SafeTransferFromArguments}
    (hcall : decodeSafeTransferFrom data = some call) :
    s.callNft D nftAsset data onERC721Received
      = s.sellNft D nftAsset call.tokenId call.dst (onERC721Received call.data) := by
  rw [State.callNft, hcall]

/-- Bytes that the token cannot decode are not accepted. -/
theorem State.liquidateReservoirData_decodes
    (hok : s.liquidateReservoirData D caller nftAsset reserveAsset data onERC721Received
      expectedLiquidateAmount = .ok s') : ∃ call, decodeSafeTransferFrom data = some call := by
  obtain ⟨-, hok⟩ := require_bind_eq_ok.mp hok
  obtain ⟨transfer, -, hok⟩ := bind_eq_ok.mp hok
  obtain ⟨-, -, hok⟩ := bind_eq_ok.mp hok
  obtain ⟨payload, -, hok⟩ := bind_eq_ok.mp hok
  obtain ⟨execute, -, hok⟩ := bind_eq_ok.mp hok
  obtain ⟨-, -, hok⟩ := bind_eq_ok.mp hok
  obtain ⟨s₁, -, hok⟩ := bind_eq_ok.mp hok
  obtain ⟨-, -, hok⟩ := bind_eq_ok.mp hok
  obtain ⟨-, -, hok⟩ := bind_eq_ok.mp hok
  obtain ⟨auction, -, hok⟩ := bind_eq_ok.mp hok
  obtain ⟨borrowAmount, -, hok⟩ := bind_eq_ok.mp hok
  obtain ⟨s₂, -, hok⟩ := bind_eq_ok.mp hok
  -- the first step that decodes the bytes the way the token does
  obtain ⟨s₃, hcall, -⟩ := bind_eq_ok.mp hok
  unfold State.callNft at hcall
  cases hdecoded : decodeSafeTransferFrom data with
  | some call => exact ⟨call, rfl⟩
  | none =>
    rw [hdecoded] at hcall
    cases hcall

/-- **What is accepted.** A run on bytes is a run on what they decode to. -/
theorem State.liquidateReservoirData_accepted
    (hok : s.liquidateReservoirData D caller nftAsset reserveAsset data onERC721Received
      expectedLiquidateAmount = .ok s') :
    ∃ call, Accepted D s caller nftAsset reserveAsset data onERC721Received
      expectedLiquidateAmount s' call := by
  obtain ⟨call, hcall⟩ := State.liquidateReservoirData_decodes hok
  obtain ⟨hliquidator, hok⟩ := require_bind_eq_ok.mp hok
  obtain ⟨transfer, htransfer, hok⟩ := bind_eq_ok.mp hok
  obtain ⟨arguments, harguments, htransfer⟩ := bind_eq_ok.mp htransfer
  obtain ⟨-, rfl⟩ := slice_eq_ok.mp harguments
  obtain ⟨words, hwords, htransfer⟩ := bind_eq_ok.mp htransfer
  -- the adapter has read the same words as the token
  rw [decoded_eq_ok, decodeTransfer_of hcall] at hwords
  obtain rfl := Option.some.inj hwords
  obtain rfl := Except.ok.inj htransfer
  obtain ⟨_, hvalid, hok⟩ := bind_eq_ok.mp hok
  obtain ⟨hselector, hvalid⟩ := require_bind_eq_ok.mp hvalid
  obtain ⟨hsrc, hvalid⟩ := require_bind_eq_ok.mp hvalid
  have hmodule := require_eq_ok.mp hvalid
  obtain ⟨payload, hpayload, hok⟩ := bind_eq_ok.mp hok
  obtain ⟨-, rfl⟩ := slice_eq_ok.mp hpayload
  obtain ⟨⟨selector, module⟩, hexecute, hok⟩ := bind_eq_ok.mp hok
  obtain ⟨_, hvalid, hok⟩ := bind_eq_ok.mp hok
  obtain ⟨hexecuteSelector, hvalid⟩ := require_bind_eq_ok.mp hvalid
  have hsame := require_eq_ok.mp hvalid
  dsimp only at hexecuteSelector hsame
  rw [hexecuteSelector, ← hsame] at hexecute
  refine ⟨call, hcall, hselector, hsrc, hexecute, ?_⟩
  -- the rest of the run is that on what was decoded
  simp only [State.callNft_of hcall] at hok
  rw [State.liquidateReservoir, require_of hliquidator, require_of hmodule]
  exact hok

/-- The module is handed what was checked: the beginning of the bytes at the fixed position, which
is a call of the router that names the module as that of its first execution. -/
def PayloadChecked (data : Bytes) : Prop :=
  ∃ call, decodeSafeTransferFrom data = some call ∧ call.data <+: data.drop 164 ∧
    _decodeReservoirRouterExecuteData call.data = .ok (EXECUTE_FUNCTION_SELECTOR, call.dst)

/-- What the offset word points at is what stands at the fixed position, over the length word found
there, and this much of it is a call of the router. -/
def PayloadInPlace (data : Bytes) : Prop :=
  (data.drop (payloadStart data + 32)).take (payloadLength data)
      = (data.drop 164).take (payloadLength data) ∧
    ∃ r, _decodeReservoirRouterExecuteData ((data.drop 164).take (payloadLength data)) = .ok r

/-- **What is handed over.** For all accepted call data, the module is handed what was checked just
when that is what the offset word points at, and the length word covers it. -/
theorem State.liquidateReservoirData_checked_iff
    (hok : s.liquidateReservoirData D caller nftAsset reserveAsset data onERC721Received
      expectedLiquidateAmount = .ok s') : PayloadChecked data ↔ PayloadInPlace data := by
  obtain ⟨call, h⟩ := State.liquidateReservoirData_accepted hok
  obtain ⟨hpayload, hlength⟩ := payload_of h.decodes
  constructor
  · -- a beginning of the bytes is determined by its length
    rintro ⟨call', hcall', hprefix, hexecute⟩
    obtain rfl : call = call' := Option.some.inj (h.decodes.symm.trans hcall')
    have hbegin := List.prefix_iff_eq_take.mp hprefix
    rw [hlength] at hbegin
    exact ⟨hpayload.symm.trans hbegin, _, hbegin ▸ hexecute⟩
  · rintro ⟨hsame, r, hr⟩
    rw [hsame] at hpayload
    refine ⟨call, h.decodes, hpayload ▸ List.take_prefix _ _, ?_⟩
    -- decoding less decodes the same
    have hall : _decodeReservoirRouterExecuteData ((data.drop 164).take (payloadLength data)
        ++ (data.drop 164).drop (payloadLength data)) = .ok r := execute_append hr
    rw [List.take_append_drop, h.execute] at hall
    rw [hpayload, hr, Except.ok.inj hall]

/-- With the standard offset, all that matters is that the length word covers the call of the
router. -/
theorem payloadInPlace_of_standard (hoffset : word data 100 = 0x80) :
    PayloadInPlace data ↔
      ∃ r, _decodeReservoirRouterExecuteData ((data.drop 164).take (word data 132)) = .ok r := by
  have hstart : payloadStart data = 132 := by rw [payloadStart, hoffset]
  rw [PayloadInPlace, payloadLength, hstart]
  exact and_iff_right rfl

end Accepted

/-! ## Encoded call data -/

/-- The arguments of `safeTransferFrom` as an encoder lays them out, with whatever comes after. -/
def encodeArguments (call : SafeTransferFromArguments) (padding : Bytes) : Bytes :=
  toBytes 32 call.src ++ (toBytes 32 call.dst ++ (toBytes 32 call.tokenId ++ (toBytes 32 0x80 ++
    (toBytes 32 call.data.length ++ (call.data ++ padding)))))

/-- A call of `safeTransferFrom`. -/
def encodeSafeTransferFrom (call : SafeTransferFromArguments) (padding : Bytes) : Bytes :=
  toBytes 4 SAFETRANSFERFROM_FUNCTION_SELECTOR ++ encodeArguments call padding

section Encoding

variable {call : SafeTransferFromArguments} {padding : Bytes}

theorem encodeArguments_length :
    (encodeArguments call padding).length = 160 + call.data.length + padding.length := by
  simp only [encodeArguments, List.length_append, length_toBytes]
  omega

theorem encodeArguments_drop : (encodeArguments call padding).drop 160 = call.data ++ padding := by
  show (toBytes 32 _ ++ _).drop (32 + (32 + (32 + (32 + (32 + 0))))) = _
  rw [drop_skip, drop_skip, drop_skip, drop_skip, drop_skip, List.drop_zero]

theorem encodeArguments_src (h : call.src < 2 ^ 256) :
    word (encodeArguments call padding) 0 = call.src := by
  rw [encodeArguments, word_toBytes h]

theorem encodeArguments_dst (h : call.dst < 2 ^ 256) :
    word (encodeArguments call padding) 32 = call.dst := by
  show word (toBytes 32 _ ++ _) (32 + 0) = _
  rw [word_skip, word_toBytes h]

theorem encodeArguments_tokenId (h : call.tokenId < 2 ^ 256) :
    word (encodeArguments call padding) 64 = call.tokenId := by
  show word (toBytes 32 _ ++ _) (32 + (32 + 0)) = _
  rw [word_skip, word_skip, word_toBytes h]

theorem encodeArguments_offset : word (encodeArguments call padding) 96 = 0x80 := by
  show word (toBytes 32 _ ++ _) (32 + (32 + (32 + 0))) = _
  rw [word_skip, word_skip, word_skip, word_toBytes (by decide)]

theorem encodeArguments_dataLength (h : call.data.length < 2 ^ 256) :
    word (encodeArguments call padding) 128 = call.data.length := by
  show word (toBytes 32 _ ++ _) (32 + (32 + (32 + (32 + 0)))) = _
  rw [word_skip, word_skip, word_skip, word_skip, word_toBytes h]

theorem encodeSafeTransferFrom_drop {i : ℕ} :
    (encodeSafeTransferFrom call padding).drop (4 + i) = (encodeArguments call padding).drop i :=
  drop_skip

/-- A decoder reads back what was encoded. -/
theorem decode_encodeSafeTransferFrom (hsrc : call.src < 2 ^ 160) (hdst : call.dst < 2 ^ 160)
    (htokenId : call.tokenId < 2 ^ 256) (hlength : call.data.length ≤ maxOffset) :
    decodeSafeTransferFrom (encodeSafeTransferFrom call padding) = some call := by
  have hfits : call.data.length < 2 ^ 256 := hlength.trans_lt (by decide)
  have hbound : (encodeArguments call padding).length = _ := encodeArguments_length
  have hwordSrc : word (encodeArguments call padding) 0 = call.src :=
    encodeArguments_src (hsrc.trans (by decide))
  have hwordDst : word (encodeArguments call padding) 32 = call.dst :=
    encodeArguments_dst (hdst.trans (by decide))
  have hdata : dynamic bytes 0 (encodeArguments call padding) 96 = some call.data := by
    refine dynamic_eq_some.mpr ⟨0x80, ?_, ?_⟩
    · rw [offset, encodeArguments_offset, if_pos (by decide)]
    refine bytes_eq_some.mpr ⟨call.data.length, ?_, by omega, ?_⟩
    · rw [length_eq_some, Nat.zero_add, encodeArguments_dataLength hfits]
      exact ⟨by omega, hlength, rfl⟩
    · rw [Nat.zero_add, encodeArguments_drop]
      exact List.take_left
  have hdrop : (encodeSafeTransferFrom call padding).drop 4 = encodeArguments call padding :=
    encodeSafeTransferFrom_drop (i := 0)
  rw [decodeSafeTransferFrom, hdrop, if_pos (by omega), address, hwordSrc, if_pos hsrc, address,
    hwordDst, if_pos hdst, hdata, encodeArguments_tokenId htokenId]
  rfl

/-- **Encoded calls.** From a call that an encoder laid out, the module is handed what was checked,
whatever the padding. -/
theorem encode_payloadChecked (hsrc : call.src < 2 ^ 160) (hdst : call.dst < 2 ^ 160)
    (htokenId : call.tokenId < 2 ^ 256) (hlength : call.data.length ≤ maxOffset)
    (hexecute : _decodeReservoirRouterExecuteData call.data
      = .ok (EXECUTE_FUNCTION_SELECTOR, call.dst)) :
    PayloadChecked (encodeSafeTransferFrom call padding) := by
  refine ⟨call, decode_encodeSafeTransferFrom hsrc hdst htokenId hlength, ?_, hexecute⟩
  rw [encodeSafeTransferFrom_drop (i := 160), encodeArguments_drop]
  exact List.prefix_append _ _

end Encoding

/-! ### Two calls

Both name the module 105 in the call of the router at the fixed position. The first is laid out by
an encoder. In the second the offset word points past it, at a call of the router that names another
module; the adapter accepts it, and hands that over. -/

/-- A call of the router with one execution, by a module. -/
def executeCall (module : Address) : Bytes :=
  toBytes 4 EXECUTE_FUNCTION_SELECTOR ++
    [0x20, 1, 0x20, module, 0x60, 0, 0].flatMap fun n => toBytes 32 n

/-- The token 7 is sent to the module 105. -/
def standardCalldata : Bytes :=
  encodeSafeTransferFrom ⟨4, 105, 7, executeCall 105⟩ (toBytes 28 0)

/-- The head of that call, with another offset, the same call of the router, and another one. -/
def shiftedCalldata : Bytes :=
  toBytes 4 SAFETRANSFERFROM_FUNCTION_SELECTOR ++
    [4, 105, 7, 0xa0 + 256, 228].flatMap (fun n => toBytes 32 n) ++
    executeCall 105 ++ toBytes 28 0 ++ toBytes 32 228 ++ executeCall 106

/-- The sale to account 107 for 35 WETH, whatever the module is handed. -/
def sampleHook : Bytes → Sale .sample :=
  fun _ => ⟨107, [⟨10, 105, 4, 35 * WAD, 105, Deployment.sample_module⟩]⟩

theorem liquidateReservoirData_checked_iff_sample :
    ∃ s', State.sampleUnhealthy.liquidateReservoirData .sample 104 40 10 standardCalldata
      sampleHook 0 = .ok s' ∧ PayloadChecked standardCalldata := by
  obtain ⟨s', hok⟩ := exists_ok_of_raised (x := State.sampleUnhealthy.liquidateReservoirData .sample
    104 40 10 standardCalldata sampleHook 0) (by decide +kernel)
  refine ⟨s', hok, (State.liquidateReservoirData_checked_iff hok).mpr ⟨by decide +kernel, ?_⟩⟩
  exact ⟨(EXECUTE_FUNCTION_SELECTOR, 105), eq_ok_of_toOption (by decide +kernel)⟩

/-- **The module can be handed something else.** -/
theorem liquidateReservoirData_unchecked :
    ∃ s s', Reachable .sample (anyAction .sample) s ∧
      s.liquidateReservoirData .sample 104 40 10 shiftedCalldata sampleHook 0 = .ok s' ∧
      ¬ PayloadChecked shiftedCalldata := by
  obtain ⟨s', hok⟩ := exists_ok_of_raised (x := State.sampleUnhealthy.liquidateReservoirData .sample
    104 40 10 shiftedCalldata sampleHook 0) (by decide +kernel)
  refine ⟨State.sampleUnhealthy, s', Reachable.after (.start (State.sample_genesis .weth9))
    (sampleSetup 1000 ++ sampleUnhealthy) fun _ _ _ => trivial, hok, ?_⟩
  have hcall : decodeSafeTransferFrom shiftedCalldata = some ⟨4, 105, 7, executeCall 106⟩ := by
    decide +kernel
  have hexecute : _decodeReservoirRouterExecuteData (executeCall 106)
      = .ok (EXECUTE_FUNCTION_SELECTOR, 106) := eq_ok_of_toOption (by decide +kernel)
  rintro ⟨call, hcall', -, hexecute'⟩
  obtain rfl := Option.some.inj (hcall.symm.trans hcall')
  rw [hexecute] at hexecute'
  exact absurd (congrArg Prod.snd (Except.ok.inj hexecute')) (by decide)

end Unlockd
