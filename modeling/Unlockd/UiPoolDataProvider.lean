/-
`UiPoolDataProvider.sol`: readers that collect the data of all listed reserves and collections.

Each reader asks the pool for one of its lists and fills an array with an entry for each asset: the
data of the asset, the data of a user about it, or both arrays in one loop. For the zero address,
which stands for no user, the user's array has no elements. Three of the four loops that a user is
given to then write to it all the same, or take a reference to an element of it, and so fail as soon
as anything is listed; only `getReservesData` leaves it alone. For any other user the four
readers return what they ought to, and the combined ones return what the others do.
-/
import Unlockd.AssetLists
import Unlockd.Deactivation
import Unlockd.Lib.Loop

set_option autoImplicit false

namespace Unlockd

open Outcome Loop

/-! ## What the readers return -/

/-- `AggregatedReserveData`. -/
structure AggregatedReserveData where
  underlyingAsset : Address
  name : String
  symbol : String
  decimals : ℕ
  reserveFactor : ℕ
  borrowingEnabled : Bool
  isActive : Bool
  isFrozen : Bool
  liquidityIndex : ℕ
  variableBorrowIndex : ℕ
  liquidityRate : ℕ
  variableBorrowRate : ℕ
  lastUpdateTimestamp : ℕ
  uTokenAddress : Address
  debtTokenAddress : Address
  interestRateAddress : Address
  availableLiquidity : ℕ
  totalVariableDebt : ℕ
  priceInEth : ℕ
  variableRateSlope1 : ℕ
  variableRateSlope2 : ℕ
  deriving Inhabited

/-- `UserReserveData`. -/
structure UserReserveData where
  underlyingAsset : Address
  uTokenBalance : ℕ
  variableDebt : ℕ
  deriving Inhabited, DecidableEq

/-- `AggregatedNftData`. -/
structure AggregatedNftData where
  underlyingAsset : Address
  name : String
  symbol : String
  isActive : Bool
  isFrozen : Bool
  uNftAddress : Address
  totalCollateral : ℕ
  deriving Inhabited

/-- `UserNftData`. -/
structure UserNftData where
  underlyingAsset : Address
  uNftAddress : Address
  totalCollateral : ℕ
  deriving Inhabited, DecidableEq

/-- How a reader can fail: by an index beyond one of its arrays, or because a call it makes to
another contract reverts. -/
inductive UiError
  | indexOutOfBounds
  | callReverted (e : Error)
  deriving DecidableEq

/-- A call to another contract. -/
def uiCall {α : Type} : Except Error α → Except UiError α
  | .ok a => .ok a
  | .error e => .error (.callReverted e)

/-- What the provider finds outside the pool: the prices of the oracle it was constructed with, the
texts of tokens, and the address of the debt token of a reserve. -/
structure UiPoolDataProvider where
  getAssetPrice : Address → Except Error ℕ
  name : Address → Except Error String
  symbol : Address → Except Error String
  debtTokenAddress : Address → Address

/-- `DebtToken.balanceOf`. -/
def State.debtBalanceOf (s : State) (asset user : Address) : Except Error ℕ := do
  if (s.debtTokens asset).scaledBalanceOf user = 0 then return 0
  else
    let debt ← (s.lendPool.reserves asset).getNormalizedDebt s.blockTimestamp
    rayMul ((s.debtTokens asset).scaledBalanceOf user) debt

/-! ## The readers -/

namespace UiPoolDataProvider

variable (U : UiPoolDataProvider) (p : ListedPool)

/-- `_fillReserveData`. -/
def _fillReserveData (reserveAsset : Address) (baseData : ReserveData) :
    Except UiError AggregatedReserveData := do
  let s := p.state
  let priceInEth ← uiCall (U.getAssetPrice reserveAsset)
  let availableLiquidity ← uiCall (s.getAvailableLiquidity baseData.uTokenAddress)
  let totalVariableDebt ← uiCall (s.debtTotalSupply reserveAsset)
  let symbol ← uiCall (U.symbol reserveAsset)
  let name ← uiCall (U.name reserveAsset)
  let (_, _, _, decimals, reserveFactor) :=
    ReserveConfiguration.getParamsMemory baseData.configuration
  let (isActive, isFrozen, borrowingEnabled, _) :=
    ReserveConfiguration.getFlagsMemory baseData.configuration
  let interestRate := s.interestRates baseData.interestRateAddress
  return {
    underlyingAsset := reserveAsset
    name := name
    symbol := symbol
    decimals := decimals
    reserveFactor := reserveFactor
    borrowingEnabled := borrowingEnabled
    isActive := isActive
    isFrozen := isFrozen
    liquidityIndex := baseData.liquidityIndex
    variableBorrowIndex := baseData.variableBorrowIndex
    liquidityRate := baseData.currentLiquidityRate
    variableBorrowRate := baseData.currentVariableBorrowRate
    lastUpdateTimestamp := baseData.lastUpdateTimestamp
    uTokenAddress := baseData.uTokenAddress
    debtTokenAddress := U.debtTokenAddress reserveAsset
    interestRateAddress := baseData.interestRateAddress
    availableLiquidity := availableLiquidity
    totalVariableDebt := totalVariableDebt
    priceInEth := priceInEth
    variableRateSlope1 := interestRate.variableRateSlope1
    variableRateSlope2 := interestRate.variableRateSlope2 }

/-- `_fillUserReserveData`. -/
def _fillUserReserveData (user reserveAsset : Address) : Except UiError UserReserveData := do
  let uTokenBalance ← uiCall (p.state.uTokenBalanceOf reserveAsset user)
  let variableDebt ← uiCall (p.state.debtBalanceOf reserveAsset user)
  return ⟨reserveAsset, uTokenBalance, variableDebt⟩

/-- `_fillNftData`. -/
def _fillNftData (nftAsset : Address) (baseData : NftData) : Except UiError AggregatedNftData := do
  let symbol ← uiCall (U.symbol nftAsset)
  let name ← uiCall (U.name nftAsset)
  let (isActive, isFrozen) := NftConfiguration.getFlagsMemory baseData.configuration
  return {
    underlyingAsset := nftAsset
    name := name
    symbol := symbol
    isActive := isActive
    isFrozen := isFrozen
    uNftAddress := baseData.uNftAddress
    totalCollateral := p.state.lendPoolLoan.nftTotalCollateral nftAsset }

/-- `_fillUserNftData`. -/
def _fillUserNftData (user nftAsset : Address) (baseData : NftData) : UserNftData :=
  ⟨nftAsset, baseData.uNftAddress, p.state.lendPoolLoan.userNftCollateral user nftAsset⟩

/-- The array for a user's data: empty for the zero address. -/
def userArray {α : Type} [Inhabited α] (user : Address) (length : ℕ) : List α :=
  List.replicate (if user ≠ 0 then length else 0) default

/-- The loop of the readers of a user's data: an entry is made for each asset of a list, in the
array for the user. -/
def fillForUser {α : Type} [Inhabited α] (user : Address) (list : List Address)
    (fill : Address → Except UiError α) : Except UiError (List α) :=
  forLoop list.length (fun i userData =>
      Loop.read .indexOutOfBounds list i >>= fun asset =>
        modify .indexOutOfBounds userData i fun _ => fill asset)
    (userArray user list.length)

/-- `getUserReservesData`. -/
def getUserReservesData (user : Address) : Except UiError (List UserReserveData) :=
  fillForUser user p.getReservesList (_fillUserReserveData p user)

/-- `getReservesData`. -/
def getReservesData (user : Address) :
    Except UiError (List AggregatedReserveData × List UserReserveData) :=
  let reserves := p.getReservesList
  forLoop reserves.length (fun i data => do
      let asset ← Loop.read .indexOutOfBounds reserves i
      let baseData := p.state.lendPool.reserves asset
      let reservesData ← modify .indexOutOfBounds data.1 i fun _ =>
        U._fillReserveData p asset baseData
      let userReservesData ← if user ≠ 0 then
          modify .indexOutOfBounds data.2 i fun _ => _fillUserReserveData p user asset
        else .ok data.2
      return (reservesData, userReservesData))
    (List.replicate reserves.length default, userArray user reserves.length)

/-- `getUserNftsData`. -/
def getUserNftsData (user : Address) : Except UiError (List UserNftData) :=
  fillForUser user p.getNftsList fun asset =>
    .ok (_fillUserNftData p user asset (p.state.lendPool.nfts asset))

/-- `getNftsData`. -/
def getNftsData (user : Address) : Except UiError (List AggregatedNftData × List UserNftData) :=
  let nfts := p.getNftsList
  forLoop nfts.length (fun i data => do
      -- both references are taken before it is asked whether there is a user
      let _ ← Loop.read .indexOutOfBounds data.1 i
      let userNftData ← Loop.read .indexOutOfBounds data.2 i
      let asset ← Loop.read .indexOutOfBounds nfts i
      let baseData := p.state.lendPool.nfts asset
      let nftData ← U._fillNftData p asset baseData
      let userNftData :=
        if user ≠ 0 then _fillUserNftData p user asset baseData else userNftData
      return (data.1.set i nftData, data.2.set i userNftData))
    (List.replicate nfts.length default, userArray user nfts.length)

end UiPoolDataProvider

/-! ## What one entry is -/

namespace UiPoolDataProvider

variable {U : UiPoolDataProvider} {p : ListedPool} {user : Address}

/-- No call of another contract is an access to an array of the reader. -/
theorem uiCall_fails {α : Type} (x : Except Error α) :
    Fails (uiCall x) (· ≠ UiError.indexOutOfBounds) := by
  cases x with
  | ok a => trivial
  | error e => exact fun h => nomatch h

theorem _fillReserveData_spec (asset : Address) (baseData : ReserveData) :
    Sat (U._fillReserveData p asset baseData) (fun d => d.underlyingAsset = asset)
      (· ≠ UiError.indexOutOfBounds) := by
  refine Sat.bind (uiCall_fails _) fun _ _ => Sat.bind (uiCall_fails _) fun _ _ => ?_
  refine Sat.bind (uiCall_fails _) fun _ _ => Sat.bind (uiCall_fails _) fun _ _ => ?_
  exact Sat.bind (uiCall_fails _) fun _ _ => rfl

theorem _fillUserReserveData_spec (asset : Address) :
    Sat (_fillUserReserveData p user asset) (fun d => d.underlyingAsset = asset)
      (· ≠ UiError.indexOutOfBounds) :=
  Sat.bind (uiCall_fails _) fun _ _ => Sat.bind (uiCall_fails _) fun _ _ => rfl

theorem _fillNftData_spec (asset : Address) (baseData : NftData) :
    Sat (U._fillNftData p asset baseData) (fun d => d.underlyingAsset = asset)
      (· ≠ UiError.indexOutOfBounds) :=
  Sat.bind (uiCall_fails _) fun _ _ => Sat.bind (uiCall_fails _) fun _ _ => rfl

/-! ## The readers of a user's data -/

section FillForUser

variable {α : Type} [Inhabited α] {list : List Address} {fill : Address → Except UiError α}

/-- For a user there is one entry for each asset. -/
theorem fillForUser_of_user (h : user ≠ 0) : fillForUser user list fill = list.mapM fill := by
  unfold fillForUser userArray
  rw [if_pos h]
  exact forLoop_fill _ _ default

/-- For the zero address the first round already fails. -/
theorem fillForUser_anonymous (h : list ≠ []) :
    fillForUser 0 list fill = .error .indexOutOfBounds := by
  have hpos : 0 < list.length := List.length_pos_of_ne_nil h
  unfold fillForUser userArray
  rw [if_neg fun h => h rfl]
  refine forLoop_fails hpos ?_
  obtain ⟨asset, hasset⟩ := exists_read UiError.indexOutOfBounds hpos
  rw [hasset, ok_bind]
  exact modify_beyond (Nat.le_refl 0)

/-- Where nothing is listed, nothing is returned. -/
theorem fillForUser_nil : fillForUser 0 [] fill = .ok [] := rfl

/-- For a user the array is long enough, if no entry goes beyond the bounds of another. -/
theorem fillForUser_inBounds (h : user ≠ 0)
    (hfill : ∀ asset, Fails (fill asset) (· ≠ UiError.indexOutOfBounds)) :
    fillForUser user list fill ≠ .error .indexOutOfBounds := by
  intro herror
  rw [fillForUser_of_user h] at herror
  have hfails : Fails (list.mapM fill) (· ≠ UiError.indexOutOfBounds) :=
    Fails.mapM fun asset _ => hfill asset
  exact hfails.error herror rfl

/-- The entries are about the listed assets, in the order of the list. -/
theorem fillForUser_entries {about : α → Address} {data : List α} (h : user ≠ 0)
    (hfill : ∀ asset, Returns (fill asset) fun d => about d = asset)
    (hdata : fillForUser user list fill = .ok data) : data.map about = list := by
  rw [fillForUser_of_user h] at hdata
  have hentries := map_mapM (l := list) (f := fill) (g := about) (k := id) hfill
  exact (hentries.ok hdata).trans (List.map_id _)

end FillForUser

/-! ## The combined readers -/

/-- For a user the two arrays are filled as if by two loops. -/
theorem getReservesData_of_user (h : user ≠ 0)
    {data : List AggregatedReserveData × List UserReserveData} :
    U.getReservesData p user = .ok data ↔
      p.getReservesList.mapM (fun asset =>
          U._fillReserveData p asset (p.state.lendPool.reserves asset)) = .ok data.1 ∧
        getUserReservesData p user = .ok data.2 := by
  unfold getReservesData getUserReservesData fillForUser userArray
  dsimp only
  rw [if_pos h]
  simp only [if_pos h]
  refine (forLoop_read_pair
    (fun i asset reservesData => modify .indexOutOfBounds reservesData i fun _ =>
      U._fillReserveData p asset (p.state.lendPool.reserves asset))
    (fun i asset userReservesData => modify .indexOutOfBounds userReservesData i fun _ =>
      _fillUserReserveData p user asset)).trans ?_
  rw [forLoop_fill _ _ default]

/-- For the zero address the user's array is left alone. -/
theorem getReservesData_anonymous {data : List AggregatedReserveData × List UserReserveData} :
    U.getReservesData p 0 = .ok data ↔
      p.getReservesList.mapM (fun asset =>
          U._fillReserveData p asset (p.state.lendPool.reserves asset)) = .ok data.1 ∧
        data.2 = [] := by
  have h : ¬ (0 : Address) ≠ 0 := fun h => h rfl
  unfold getReservesData userArray
  dsimp only
  rw [if_neg h]
  simp only [if_neg h]
  refine (forLoop_read_pair
    (fun i asset reservesData => modify .indexOutOfBounds reservesData i fun _ =>
      U._fillReserveData p asset (p.state.lendPool.reserves asset))
    (fun _ _ userReservesData => .ok userReservesData)).trans ?_
  -- the loop on the user's array does nothing
  have hidle : p.getReservesList.foldlM (fun userReservesData _ => Except.ok userReservesData) []
      = (Except.ok [] : Except UiError (List UserReserveData)) :=
    List.foldlM_pure.trans (congrArg _ (List.foldl_fixed _))
  rw [forLoop_fill _ _ default, forLoop_read, List.replicate_zero, hidle]
  exact and_congr_right fun _ => ⟨fun h => (Except.ok.inj h).symm, congrArg _ ∘ Eq.symm⟩

/-- For a user the references that are taken exist, and the two arrays are filled as if by two
loops. -/
theorem getNftsData_of_user (h : user ≠ 0)
    {data : List AggregatedNftData × List UserNftData} :
    U.getNftsData p user = .ok data ↔
      p.getNftsList.mapM (fun asset =>
          U._fillNftData p asset (p.state.lendPool.nfts asset)) = .ok data.1 ∧
        getUserNftsData p user = .ok data.2 := by
  unfold getNftsData getUserNftsData fillForUser userArray
  dsimp only
  rw [if_pos h]
  simp only [if_pos h]
  rw [← forLoop_fill UiError.indexOutOfBounds (fun asset (_ : AggregatedNftData) =>
    U._fillNftData p asset (p.state.lendPool.nfts asset)) default]
  refine forLoop_pair _ _ fun i before after => ?_
  simp only [bind_eq_ok, modify_eq_ok, read_eq_ok]
  constructor
  · rintro ⟨x, hx, y, hy, asset, hasset, nftData, hdata, h⟩
    obtain rfl := Except.ok.inj h
    exact ⟨⟨asset, hasset, x, nftData, hx, hdata, rfl⟩, asset, hasset, y, _, hy, rfl, rfl⟩
  · rintro ⟨⟨asset, hasset, x, nftData, hx, hdata, h₁⟩, asset', hasset', y, _, hy, hu, h₂⟩
    obtain rfl := Option.some.inj (hasset.symm.trans hasset')
    obtain rfl := Except.ok.inj hu
    exact ⟨x, hx, y, hy, asset, hasset, nftData, hdata, congrArg _ (Prod.ext h₁ h₂).symm⟩

/-- For the zero address the second reference of the first round does not exist. -/
theorem getNftsData_anonymous (h : p.getNftsList ≠ []) :
    U.getNftsData p 0 = .error .indexOutOfBounds := by
  have hpos : 0 < p.getNftsList.length := List.length_pos_of_ne_nil h
  unfold getNftsData userArray
  dsimp only
  rw [if_neg fun h => h rfl]
  refine forLoop_fails hpos ?_
  have hlength :
      0 < (List.replicate p.getNftsList.length (default : AggregatedNftData)).length := by
    rw [List.length_replicate]
    exact hpos
  obtain ⟨nftData, hnftData⟩ := exists_read UiError.indexOutOfBounds hlength
  rw [hnftData, ok_bind, List.replicate_zero, read_beyond (Nat.le_refl 0)]
  rfl

/-! ## Bounds -/

/-- The array for a user has an element for each index, if there is a user. -/
theorem length_userArray {α : Type} [Inhabited α] {length : ℕ} (h : user ≠ 0) :
    (userArray user length : List α).length = length := by
  unfold userArray
  rw [if_pos h, List.length_replicate]

/-- The one reader whose every access is guarded: it stays within the bounds for any user. -/
theorem getReservesData_inBounds : U.getReservesData p user ≠ .error .indexOutOfBounds := by
  intro herror
  -- the lengths of the two arrays do not change
  have hsat : Sat (U.getReservesData p user)
      (fun data => data.1.length = p.getReservesList.length ∧
        (user ≠ 0 → data.2.length = p.getReservesList.length))
      (· ≠ UiError.indexOutOfBounds) := by
    refine Sat.forLoop ?_ ⟨List.length_replicate, fun h => length_userArray h⟩
    intro i hi data hdata
    have hi₁ : i < data.1.length := by omega
    refine Sat.bind (Sat.read hi) fun asset _ => ?_
    refine Sat.bind (Sat.modify hi₁ fun _ => (_fillReserveData_spec asset _).fails) ?_
    intro reservesData hlength
    by_cases h : user ≠ 0
    · have hi₂ : i < data.2.length := by have := hdata.2 h; omega
      rw [if_pos h]
      refine Sat.bind (Sat.modify hi₂ fun _ => (_fillUserReserveData_spec asset).fails) ?_
      intro userReservesData hlength'
      exact ⟨hlength.trans hdata.1, fun _ => hlength'.trans (hdata.2 h)⟩
    · rw [if_neg h]
      exact ⟨hlength.trans hdata.1, fun hne => absurd hne h⟩
  exact hsat.error herror rfl

theorem getNftsData_inBounds (h : user ≠ 0) :
    U.getNftsData p user ≠ .error .indexOutOfBounds := by
  intro herror
  have hsat : Sat (U.getNftsData p user)
      (fun data => data.1.length = p.getNftsList.length ∧
        data.2.length = p.getNftsList.length)
      (· ≠ UiError.indexOutOfBounds) := by
    refine Sat.forLoop ?_ ⟨List.length_replicate, length_userArray h⟩
    intro i hi data hdata
    have hi₁ : i < data.1.length := by omega
    have hi₂ : i < data.2.length := by omega
    refine Sat.bind (Sat.read hi₁) fun _ _ => Sat.bind (Sat.read hi₂) fun userNftData _ => ?_
    refine Sat.bind (Sat.read hi) fun asset _ => ?_
    refine Sat.bind (_fillNftData_spec asset _).fails fun nftData _ => ?_
    exact ⟨List.length_set.trans hdata.1, List.length_set.trans hdata.2⟩
  exact hsat.error herror rfl

/-- Where nothing is listed, nothing is returned. -/
theorem getNftsData_nil (h : p.getNftsList = []) : U.getNftsData p 0 = .ok ([], []) := by
  unfold getNftsData
  rw [h]
  rfl

/-! ## All four readers -/

/-- The assets that the array for a user is about. -/
def assetsFor (user : Address) (list : List Address) : List Address :=
  if user ≠ 0 then list else []

/-- Every call that the readers make to another contract about a listed asset answers. -/
structure CallsAnswer (U : UiPoolDataProvider) (p : ListedPool) (user : Address) : Prop where
  reserves : ∀ asset ∈ p.getReservesList,
    ∃ d, U._fillReserveData p asset (p.state.lendPool.reserves asset) = .ok d
  userReserves : ∀ asset ∈ p.getReservesList, ∃ d, _fillUserReserveData p user asset = .ok d
  nfts : ∀ asset ∈ p.getNftsList,
    ∃ d, U._fillNftData p asset (p.state.lendPool.nfts asset) = .ok d

/-- What is expected of the readers for a user: none goes beyond the bounds of an array, and each
returns where the calls to other contracts answer; the array for the user has an entry for each
listed asset, in the order of the list, and none without a user; and the combined readers return
the entries of the others. -/
structure ReadersTotal (U : UiPoolDataProvider) (p : ListedPool) (user : Address) : Prop where
  userReserves_inBounds : getUserReservesData p user ≠ .error .indexOutOfBounds
  reserves_inBounds : U.getReservesData p user ≠ .error .indexOutOfBounds
  userNfts_inBounds : getUserNftsData p user ≠ .error .indexOutOfBounds
  nfts_inBounds : U.getNftsData p user ≠ .error .indexOutOfBounds
  userReserves_complete : CallsAnswer U p user → ∃ data, getUserReservesData p user = .ok data
  reserves_complete : CallsAnswer U p user → ∃ data, U.getReservesData p user = .ok data
  userNfts_complete : CallsAnswer U p user → ∃ data, getUserNftsData p user = .ok data
  nfts_complete : CallsAnswer U p user → ∃ data, U.getNftsData p user = .ok data
  userReserves_entries : ∀ data, getUserReservesData p user = .ok data →
    data.map (·.underlyingAsset) = assetsFor user p.getReservesList
  userNfts_entries : ∀ data, getUserNftsData p user = .ok data →
    data.map (·.underlyingAsset) = assetsFor user p.getNftsList
  reserves_agree : ∀ data, U.getReservesData p user = .ok data →
    getUserReservesData p user = .ok data.2
  nfts_agree : ∀ data, U.getNftsData p user = .ok data → getUserNftsData p user = .ok data.2

theorem CallsAnswer.userReserves_complete (hcalls : CallsAnswer U p user) (h : user ≠ 0) :
    ∃ data, getUserReservesData p user = .ok data := by
  rw [getUserReservesData, fillForUser_of_user h]
  exact exists_mapM hcalls.userReserves

/-- The user's data of the collections take no call that can revert. -/
theorem getUserNftsData_complete (h : user ≠ 0) : ∃ data, getUserNftsData p user = .ok data := by
  rw [getUserNftsData, fillForUser_of_user h]
  exact exists_mapM fun _ _ => ⟨_, rfl⟩

theorem CallsAnswer.reserves_complete (hcalls : CallsAnswer U p user) (h : user ≠ 0) :
    ∃ data, U.getReservesData p user = .ok data := by
  obtain ⟨reservesData, hreserves⟩ := exists_mapM hcalls.reserves
  obtain ⟨userReservesData, huser⟩ := hcalls.userReserves_complete h
  exact ⟨(reservesData, userReservesData), (getReservesData_of_user h).mpr ⟨hreserves, huser⟩⟩

theorem CallsAnswer.nfts_complete (hcalls : CallsAnswer U p user) (h : user ≠ 0) :
    ∃ data, U.getNftsData p user = .ok data := by
  obtain ⟨nftsData, hnfts⟩ := exists_mapM hcalls.nfts
  obtain ⟨userNftsData, huser⟩ := getUserNftsData_complete (p := p) h
  exact ⟨(nftsData, userNftsData), (getNftsData_of_user h).mpr ⟨hnfts, huser⟩⟩

theorem ReadersTotal.of_user (h : user ≠ 0) : ReadersTotal U p user where
  userReserves_inBounds :=
    fillForUser_inBounds h fun asset => (_fillUserReserveData_spec asset).fails
  reserves_inBounds := getReservesData_inBounds
  userNfts_inBounds := fillForUser_inBounds h fun _ => trivial
  nfts_inBounds := getNftsData_inBounds h
  userReserves_complete hcalls := hcalls.userReserves_complete h
  reserves_complete hcalls := hcalls.reserves_complete h
  userNfts_complete _ := getUserNftsData_complete h
  nfts_complete hcalls := hcalls.nfts_complete h
  userReserves_entries data hdata := by
    rw [assetsFor, if_pos h]
    exact fillForUser_entries h (fun asset => (_fillUserReserveData_spec asset).returns) hdata
  userNfts_entries data hdata := by
    rw [assetsFor, if_pos h]
    refine fillForUser_entries h ?_ hdata
    exact fun _ => rfl
  reserves_agree data hdata := ((getReservesData_of_user h).mp hdata).2
  nfts_agree data hdata := ((getNftsData_of_user h).mp hdata).2

/-- Without a user the readers are right only because there is nothing to read. -/
theorem ReadersTotal.of_nil (hreserves : p.getReservesList = []) (hnfts : p.getNftsList = []) :
    ReadersTotal U p 0 := by
  have huserReserves : getUserReservesData p 0 = .ok [] := by
    rw [getUserReservesData, hreserves, fillForUser_nil]
  have huserNfts : getUserNftsData p 0 = .ok [] := by
    rw [getUserNftsData, hnfts, fillForUser_nil]
  have hreservesData : U.getReservesData p 0 = .ok ([], []) := by
    refine getReservesData_anonymous.mpr ⟨?_, rfl⟩
    rw [hreserves]
    rfl
  have hnftsData : U.getNftsData p 0 = .ok ([], []) := getNftsData_nil hnfts
  constructor
  · rw [huserReserves]
    exact fun h => nomatch h
  · exact getReservesData_inBounds
  · rw [huserNfts]
    exact fun h => nomatch h
  · rw [hnftsData]
    exact fun h => nomatch h
  · exact fun _ => ⟨[], huserReserves⟩
  · exact fun _ => ⟨([], []), hreservesData⟩
  · exact fun _ => ⟨[], huserNfts⟩
  · exact fun _ => ⟨([], []), hnftsData⟩
  · intro data hdata
    rw [huserReserves] at hdata
    rw [← Except.ok.inj hdata]
    rfl
  · intro data hdata
    rw [huserNfts] at hdata
    rw [← Except.ok.inj hdata]
    rfl
  · intro data hdata
    rw [hreservesData] at hdata
    rw [huserReserves, ← Except.ok.inj hdata]
  · intro data hdata
    rw [hnftsData] at hdata
    rw [huserNfts, ← Except.ok.inj hdata]

/-- **The readers are total for a user**, whatever the lists and however long, and for the zero
address exactly as long as no reserve and no collection has been listed. -/
theorem readersTotal_iff (U : UiPoolDataProvider) (p : ListedPool) (user : Address) :
    ReadersTotal U p user ↔ user ≠ 0 ∨ (p.getReservesList = [] ∧ p.getNftsList = []) := by
  constructor
  · intro h
    by_cases huser : user = 0
    · subst huser
      right
      constructor
      · by_contra hne
        exact h.userReserves_inBounds (fillForUser_anonymous hne)
      · by_contra hne
        exact h.userNfts_inBounds (fillForUser_anonymous hne)
    · exact Or.inl huser
  · intro h
    by_cases huser : user = 0
    · subst huser
      obtain ⟨hreserves, hnfts⟩ := h.resolve_left fun hne => hne rfl
      exact ReadersTotal.of_nil hreserves hnfts
    · exact ReadersTotal.of_user huser

/-! ## Two reserves and a collection -/

/-- Every asset has the same price and is called the same. -/
def sample : UiPoolDataProvider where
  getAssetPrice := fun _ => .ok (10 ^ 18)
  name := fun _ => .ok "Asset"
  symbol := fun _ => .ok "AST"
  debtTokenAddress := fun _ => 22

/-- Two reserves and one collection have been listed. For the zero address three of the four readers
go beyond the bounds of the user's array. -/
theorem readers_without_user :
    getUserReservesData ListedPool.sampleLists 0 = .error .indexOutOfBounds ∧
    getUserNftsData ListedPool.sampleLists 0 = .error .indexOutOfBounds ∧
    sample.getNftsData ListedPool.sampleLists 0 = .error .indexOutOfBounds ∧
    ¬ ReadersTotal sample ListedPool.sampleLists 0 := by
  have hreserves : ListedPool.sampleLists.getReservesList ≠ [] := by decide +kernel
  have hnfts : ListedPool.sampleLists.getNftsList ≠ [] := by decide +kernel
  refine ⟨fillForUser_anonymous hreserves, fillForUser_anonymous hnfts,
    getNftsData_anonymous hnfts, fun h => ?_⟩
  exact h.userReserves_inBounds (fillForUser_anonymous hreserves)

end UiPoolDataProvider

end Unlockd
