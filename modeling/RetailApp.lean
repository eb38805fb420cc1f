import RetailApp.Library.FixedPoint
import RetailApp.Library.Runs
import RetailApp.Library.Table
import RetailApp.Library.Till
import RetailApp.Library.Transaction
import RetailApp.Exceptions
import RetailApp.Money
import RetailApp.Text
import RetailApp.Schemas
import RetailApp.Models
import RetailApp.Session
import RetailApp.Services.ProductService
import RetailApp.Services.PromotionEngine
import RetailApp.Services.OrderService
import RetailApp.Services.PaymentService
import RetailApp.Services.AfterSalesService
import RetailApp.Ledger.Calls
import RetailApp.Ledger.Books
import RetailApp.Ledger.Runs
import RetailApp.Ledger.Refunds
import RetailApp.Ledger.Ceilings
import RetailApp.Ledger.Expiry
import RetailApp.Services.OperationService
import RetailApp.Configuration.Calls
import RetailApp.Configuration.ActiveRows
import RetailApp.Configuration.RoundTrip
import RetailApp.Library.TwoStep
import RetailApp.Concurrency.Requests
import RetailApp.Concurrency.OneOrder
import RetailApp.Concurrency.NoLostUpdate
import RetailApp.Concurrency.OneRefundPerKey
import RetailApp.Library.Numbering
import RetailApp.Configuration.RollbackWalk
import RetailApp.Library.Accumulate
import RetailApp.Pricing.Promotions
import RetailApp.Pricing.Acceptance
import RetailApp.Pricing.Totals
import RetailApp.Pricing.OneMoreRule
import RetailApp.Pricing.Scanning
import RetailApp.Services.ProjectService
import RetailApp.Projects.Calls
import RetailApp.Projects.Lifecycle
import RetailApp.Projects.Isolation
import RetailApp.Projects.DiffSummary
import RetailApp.Projects.Racing
import RetailApp.Services.AuthService
import RetailApp.Auth.Calls
import RetailApp.Auth.Sessions
import RetailApp.Auth.Acceptance
import RetailApp.Auth.Requests
import RetailApp.Auth.FailedLogins
import RetailApp.Auth.SingleUse
import RetailApp.Library.Window
import RetailApp.Auth.Lockout
import RetailApp.Ledger.Writes
import RetailApp.Ledger.AuditReplay
import RetailApp.Ledger.SplitSettlement
import RetailApp.Ledger.AllOrNothing
import RetailApp.Configuration.RacingCreates
import RetailApp.Ledger.Settleable
import RetailApp.Services.NotificationService
import RetailApp.Notifications.Calls
import RetailApp.Notifications.Throttle
import RetailApp.Catalogue.Codes
import RetailApp.Ledger.Sweeps
import RetailApp.Library.Like
import RetailApp.Catalogue.QuickMatch
import RetailApp.Pricing.Overflow
import RetailApp.Pricing.Precheckout
import RetailApp.Auth.Registration
import RetailApp.Validation.Minimums
import RetailApp.Auth.Assignments
import RetailApp.Pricing.DeadRules
import RetailApp.Library.Similarity
import RetailApp.Features.CorrelationProxy
import RetailApp.Features.Consistency
import RetailApp.Features.History
import RetailApp.Library.Csv
import RetailApp.Services.AnalyticsService
import RetailApp.Analytics.Export
import RetailApp.Shop.Calls
import RetailApp.Shop.Statements
import RetailApp.Library.LastWrite
import RetailApp.Notifications.Inbox
import RetailApp.Notifications.Subscriptions
import RetailApp.Notifications.Racing
import RetailApp.Library.Base64
import RetailApp.Services.Dependencies
import RetailApp.Services.AttachmentService
import RetailApp.Library.FirstWins
import RetailApp.Attachments.Uploads
import RetailApp.Services.AccessAdmin
import RetailApp.Auth.Grants
import RetailApp.Auth.OnRecord
import RetailApp.Auth.Passwords
import RetailApp.Services.SensitiveAccess
import RetailApp.Auth.Contacts
import RetailApp.Services.ShopEndpoints
import RetailApp.Shop.Staff
import RetailApp.Shop.Answers
import RetailApp.Services.ProjectEndpoints
import RetailApp.Projects.Authors
import RetailApp.Projects.Readers
