import Unlockd.Lib.FixedPoint
import Unlockd.Lib.Tally
import Unlockd.Lib.Machine
import Unlockd.Lib.History
import Unlockd.Lib.Transfers
import Unlockd.Lib.Outcome
import Unlockd.Lib.Registry
import Unlockd.Lib.Cabinet
import Unlockd.Lib.LentPool
import Unlockd.DataTypes
import Unlockd.Math
import Unlockd.Configuration
import Unlockd.Tokens
import Unlockd.State
import Unlockd.ReserveLogic
import Unlockd.ReserveRun
import Unlockd.LendPoolLoan
import Unlockd.DebtMarket
import Unlockd.GenericLogic
import Unlockd.SupplyLogic
import Unlockd.BorrowLogic
import Unlockd.LiquidateLogic
import Unlockd.ReservoirAdapter
import Unlockd.Configurator
import Unlockd.Protocol
import Unlockd.Books
import Unlockd.MarketEffect
import Unlockd.PoolEffect
import Unlockd.AdapterEffect
import Unlockd.Invariants
import Unlockd.Ledger
import Unlockd.Records
import Unlockd.Solvency
import Unlockd.Cancellation
import Unlockd.Interest
import Unlockd.Rates
import Unlockd.Accounts
import Unlockd.MarketAccounts
import Unlockd.Lifecycle
import Unlockd.Outstanding
import Unlockd.Rounds
import Unlockd.Consent
import Unlockd.Sales
import Unlockd.Lending
import Unlockd.Liquidity
import Unlockd.Pauses
import Unlockd.LendPoolConfigurator
import Unlockd.Parameters
import Unlockd.Deactivation
import Unlockd.Health
import Unlockd.OutsideSales
import Unlockd.FreshLoans
import Unlockd.VaultRounding
import Unlockd.Exits
import Unlockd.WETHGateway
import Unlockd.Withdrawals
import Unlockd.Bills
import Unlockd.PunkGateway
import Unlockd.GatewayAccounts
import Unlockd.PunkAccounts
import Unlockd.GatewayBalances
import Unlockd.GatewayCalls
import Unlockd.Words
import Unlockd.Compounding
import Unlockd.RateCurve
import Unlockd.Suppliers
import Unlockd.RepayAndTransferHelper
import Unlockd.ReserveOracle
import Unlockd.ReservoirCalldata
import Unlockd.PriceFeeds
import Unlockd.AssetLists
import Unlockd.CollateralBatch
import Unlockd.LiquidatePrice
import Unlockd.UiPoolDataProvider
import Unlockd.Custody
import Unlockd.Settlement
import Unlockd.Supplies
import Unlockd.Chain
import Unlockd.Holders
import Unlockd.GatewayRuns
import Unlockd.ReserveInterest
import Unlockd.ReserveTurns
import Unlockd.ReserveSolvency
import Unlockd.SupplierIncome
import Unlockd.Borrowers
