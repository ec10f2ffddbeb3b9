import CrossPilot.Lib.ReadCommitted
import CrossPilot.Lib.Text
import CrossPilot.Inventory.Change
import CrossPilot.Inventory.Balance
import CrossPilot.Inventory.Holds
import CrossPilot.Inventory.Books
import CrossPilot.Inventory.HoldOps
import CrossPilot.Inventory.Runs
import CrossPilot.Order.Ingest
import CrossPilot.Order.StatusLog
import CrossPilot.Order.Stored
import CrossPilot.Order.Ingested
import CrossPilot.Order.Matching
import CrossPilot.Order.Fulfilment
import CrossPilot.Order.Desk
import CrossPilot.Order.Ship
import CrossPilot.Order.ByHand
import CrossPilot.Order.OpenHolds
import CrossPilot.Order.Returns
import CrossPilot.Auth.Token
import CrossPilot.Auth.SingleUse
import CrossPilot.Sync.Retry
import CrossPilot.Sync.Webhook
import CrossPilot.Sync.Delivery
import CrossPilot.Lib.Ledger
import CrossPilot.Inventory.Concurrent
import CrossPilot.Inventory.Tasks
import CrossPilot.Order.Restock
import CrossPilot.Inventory.Push
import CrossPilot.Inventory.Flows
import CrossPilot.Lib.Like
import CrossPilot.Lib.Related
import CrossPilot.Order.Privacy
import CrossPilot.Order.Read
import CrossPilot.Order.Query
import CrossPilot.Order.Disclosure
import CrossPilot.Order.Scope
import CrossPilot.Lib.Pages
import CrossPilot.Sync.Cursor
import CrossPilot.Sync.Watermark
import CrossPilot.Sync.Breaker
import CrossPilot.Sync.Ingress
import CrossPilot.Sync.Accepted
import CrossPilot.Order.Newest
import CrossPilot.Order.Sales
import CrossPilot.Order.ShipAgain
import CrossPilot.Inventory.Transfers
import CrossPilot.Listing.Batch
import CrossPilot.Listing.BatchRuns
import CrossPilot.Lib.Decimals
import CrossPilot.Snowflake
import CrossPilot.Sync.Locks
import CrossPilot.Sync.Quota
import CrossPilot.Sync.ReadOnly
import CrossPilot.Sync.StateStore
import CrossPilot.Order.Exceptions
import CrossPilot.Order.ToShip
import CrossPilot.Lib.DecimalText
import CrossPilot.Listing.Diffs
import CrossPilot.Listing.Isolation
import CrossPilot.Finance.LandedCost
import CrossPilot.Finance.Accounting
import CrossPilot.Finance.Materialize
import CrossPilot.Finance.RuleOrder
import CrossPilot.Finance.Pricing
import CrossPilot.Finance.DailyProfits
import CrossPilot.Dashboard.OrderFacts
import CrossPilot.Lib.Joined
import CrossPilot.Sync.Pushed
import CrossPilot.Sync.EventId
import CrossPilot.Inventory.PushFailures
import CrossPilot.Inventory.PushRetries
import CrossPilot.Inventory.Reservable
import CrossPilot.Sync.Probe
import CrossPilot.Lib.Outline
import CrossPilot.Finance.RuleVersions
import CrossPilot.Finance.RuleRaces
import CrossPilot.Finance.RuleHistory
import CrossPilot.Listing.Contents
import CrossPilot.Sync.Refresh
import CrossPilot.Sync.Refreshed
import CrossPilot.Finance.ExportRaces
import CrossPilot.Finance.Markets
import CrossPilot.Compliance.Alerts
import CrossPilot.Compliance.Noticed
import CrossPilot.Lib.LastRead
import CrossPilot.Inventory.Spared
import CrossPilot.Order.Reviewed
import CrossPilot.Purchase.FirstMile
import CrossPilot.Finance.Suggested
import CrossPilot.Inventory.Takings
import CrossPilot.Finance.Reconcile
import CrossPilot.Finance.Waterfall
import CrossPilot.Dashboard.Rollups
import CrossPilot.Dashboard.Views
import CrossPilot.Dashboard.Ranking
import CrossPilot.Inventory.Replenishment
import CrossPilot.Inventory.Replenishments
import CrossPilot.Lib.Markup
import CrossPilot.Sheets.Workbook
import CrossPilot.Sheets.Worksheet
import CrossPilot.Sheets.RoundTrip
import CrossPilot.Finance.RuleCover
import CrossPilot.Lib.Base64
import CrossPilot.Lib.Extremes
import CrossPilot.Lib.ThreeValued
import CrossPilot.Lib.IsoTime
import CrossPilot.Lib.Numerals
import CrossPilot.Lib.Readings
import CrossPilot.Adapters.OauthParse
import CrossPilot.Adapters.Pages
import CrossPilot.Adapters.Unreadable
import CrossPilot.Adapters.Lazada
import CrossPilot.Tenancy.Guard
import CrossPilot.Inventory.Engine
import CrossPilot.Inventory.Physical
import CrossPilot.Auth.Lockout
import CrossPilot.Lib.IsoFormat
import CrossPilot.Paging.Cursors
import CrossPilot.Paging.Loads
import CrossPilot.Tenancy.Members
import CrossPilot.Tenancy.Invited
import CrossPilot.Lib.Dict
import CrossPilot.Compliance.Findings
import CrossPilot.Compliance.Catalog
import CrossPilot.Sheets.Uploads
import CrossPilot.Sheets.ProductSheet
import CrossPilot.Sheets.ProductRows
import CrossPilot.Sheets.ProductImport
import CrossPilot.Lib.Context
import CrossPilot.Finance.SettlementFile
import CrossPilot.Finance.SettlementSums
import CrossPilot.Lib.Bijective
import CrossPilot.Sheets.ColumnNames
import CrossPilot.Lib.DigitStrings
import CrossPilot.Frontend.Money
import CrossPilot.Frontend.MoneyRounding
import CrossPilot.Lib.Pdf
import CrossPilot.Documents.LabelPdf
import CrossPilot.Documents.LabelText
import CrossPilot.Documents.LabelFile
import CrossPilot.Documents.LabelText
import CrossPilot.Documents.LabelFile
import CrossPilot.Documents.LabelFile
import CrossPilot.Frontend.Client
import CrossPilot.Frontend.Sessions
import CrossPilot.Lib.UrlSplit
import CrossPilot.Adapters.SnsHost
import CrossPilot.Lib.WeightedMean
import CrossPilot.Purchase.OrderRuns
import CrossPilot.Purchase.Shipments
import CrossPilot.Purchase.ArrivalCosts
import CrossPilot.Purchase.Postings
import CrossPilot.Purchase.ShipmentRuns
