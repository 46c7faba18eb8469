import Telga.Proofs.TerminalStates
import Telga.Proofs.Dispositions
import Telga.Proofs.Confirmations
import Telga.Proofs.Overdrafts
import Telga.Proofs.Books
import Telga.Proofs.ClosedOrders
import Telga.Proofs.Deliveries
import Telga.Proofs.MonthlyCharges
import Telga.Proofs.ApplicationLifecycle
import Telga.Proofs.SecondFactors
import Telga.Proofs.LiveSessions
import Telga.Proofs.TenantFiles
import Telga.Proofs.Backups
import Telga.Proofs.Provisioning
import Telga.Proofs.CarriedPins
import Telga.Proofs.FormSubmissions
import Telga.Proofs.ProviderRates
import Telga.Proofs.TransferAttempts
import Telga.Proofs.OrderPreviews
import Telga.Proofs.FormTokens
import Telga.Proofs.ScreenLocks
import Telga.Proofs.IssuedPins
import Telga.Proofs.DepositReferences
import Telga.Proofs.Totp
import Telga.Proofs.RecoveryClaims
import Telga.Proofs.DepositDecisions
import Telga.Proofs.TrainingDeposits
import Telga.Proofs.DailyLimits
import Telga.Proofs.OpenSlips
import Telga.Proofs.UploadForms
import Telga.Proofs.Redirects
import Telga.Proofs.ResponseCompression
import Telga.Proofs.TrustedProxies
import Telga.Proofs.Restores
import Telga.Proofs.ConsoleRates
import Telga.Proofs.SaleRates
import Telga.Proofs.Routing
import Telga.Proofs.StandingReferences
import Telga.Proofs.Vaults
import Telga.Proofs.Statements
import Telga.Proofs.Polling
import Telga.Proofs.TenantConnections
import Telga.Proofs.Elements
import Telga.Proofs.Migrations
import Telga.Proofs.WorkerLoops
import Telga.Proofs.FairSweeps
