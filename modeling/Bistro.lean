import Bistro.Access.Account
import Bistro.Access.Address
import Bistro.Access.Email
import Bistro.Access.Gate
import Bistro.Access.Guard
import Bistro.Access.Permission
import Bistro.Access.Token
import Bistro.Access.View
import Bistro.Activity.Call
import Bistro.Activity.Entry
import Bistro.Activity.Logger
import Bistro.Activity.Record
import Bistro.Api.Access
import Bistro.Api.Auth
import Bistro.Api.Catalog
import Bistro.Api.Logs
import Bistro.Api.Orders
import Bistro.Api.QrCodes
import Bistro.Api.Routes
import Bistro.Api.Themes
import Bistro.Catalog.Basic
import Bistro.Catalog.Change
import Bistro.Catalog.Payload
import Bistro.Catalog.Rules
import Bistro.Catalog.View
import Bistro.Command.Answer
import Bistro.Command.Line
import Bistro.Command.Redact
import Bistro.Command.Rules
import Bistro.Command.Scenario
import Bistro.Config
import Bistro.Crypto.Sha256
import Bistro.Http.Input
import Bistro.Http.Message
import Bistro.Http.Route
import Bistro.Json.Display
import Bistro.Json.Reader
import Bistro.Json.Value
import Bistro.Json.Writer
import Bistro.Media.Png
import Bistro.Media.Upload
import Bistro.Money
import Bistro.Monitor.Endpoint
import Bistro.Number.Binary64
import Bistro.Number.Decimal
import Bistro.Number.FloatText
import Bistro.Number.Shortest
import Bistro.Order.Basic
import Bistro.Order.CatalogPayload
import Bistro.Order.Ledger
import Bistro.Order.LinePayload
import Bistro.Order.Payload
import Bistro.Order.Pricing
import Bistro.Order.View
import Bistro.Payload.Field
import Bistro.Payload.Validated
import Bistro.Qr.Code
import Bistro.Qr.Payload
import Bistro.Qr.Symbol
import Bistro.Qr.Table
import Bistro.Store.Basic
import Bistro.Store.Seed
import Bistro.Store.Session
import Bistro.Store.Sorting
import Bistro.Text.Base64
import Bistro.Text.Case
import Bistro.Text.Digit
import Bistro.Text.Punycode
import Bistro.Text.Space
import Bistro.Text.Url
import Bistro.Text.Utf8
import Bistro.Theme.Basic
import Bistro.Theme.Form
import Bistro.Time.Reading
import Bistro.Time.Stamp
import Bistro.Proofs.Steps
import Bistro.Proofs.Guard
import Bistro.Proofs.AccessControl
import Bistro.Proofs.CommitPoint
import Bistro.Proofs.Atomicity
import Bistro.Proofs.LineReferences
import Bistro.Proofs.StoredMoney
import Bistro.Proofs.MoneySums
import Bistro.Proofs.OrderLedger
import Bistro.Proofs.OrderBook
import Bistro.Proofs.OrderWrites
import Bistro.Proofs.OrderRequests
import Bistro.Proofs.TextBytes
import Bistro.Proofs.SignedTokens
import Bistro.Proofs.OrderStates
import Bistro.Proofs.LineSnapshots
import Bistro.Proofs.ScenarioRuns
import Bistro.Proofs.Registry
import Bistro.Proofs.RegistryWrites
import Bistro.Proofs.NameRules
import Bistro.Proofs.DefaultTheme
import Bistro.Proofs.PermissionNames
import Bistro.Proofs.RoleNames
import Bistro.Proofs.AccountConflicts
import Bistro.Proofs.InvoiceNumbers
import Bistro.Proofs.InvoiceSnapshots
import Bistro.Proofs.LogFrame
import Bistro.Proofs.ActivityLog
import Bistro.Proofs.OrderHeaders
import Bistro.Proofs.Footprints
import Bistro.Proofs.TableCodes
import Bistro.Proofs.LinePricing
import Bistro.Proofs.OrderTransitions
import Bistro.Proofs.OrderChanges
import Bistro.Proofs.Envelopes
import Bistro.Proofs.PermissionGrammar
import Bistro.Proofs.PagedListings
import Bistro.Proofs.RolePermissionSets
import Bistro.Proofs.QueryStrings
import Bistro.Proofs.PageCounts
import Bistro.Proofs.MoneyRounding
import Bistro.Proofs.ProductBundles
import Bistro.Proofs.ObjectUploads
import Bistro.Proofs.ResourceNames
import Bistro.Proofs.CatalogPrices
import Bistro.Proofs.JsonText
import Bistro.Proofs.SignInRoundTrip
import Bistro.Proofs.PartialUpdates
