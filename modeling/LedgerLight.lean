import LedgerLight.Infra.Machine
import LedgerLight.Infra.Clock
import LedgerLight.Infra.Inbox
import LedgerLight.Infra.Table
import LedgerLight.Infra.Rows
import LedgerLight.Infra.Keyed
import LedgerLight.Infra.Sql
import LedgerLight.Infra.Sorted
import LedgerLight.Infra.Paging
import LedgerLight.Infra.Prog
import LedgerLight.Infra.Tally
import LedgerLight.Infra.Script
import LedgerLight.Infra.ReadCommitted
import LedgerLight.Infra.Answers
import LedgerLight.Infra.RowLocks
import LedgerLight.Infra.UniqueColumn
import LedgerLight.Common.Errors
import LedgerLight.Common.LocationScope
import LedgerLight.Common.Platform
import LedgerLight.Common.Calendar
import LedgerLight.Domain.Schema
import LedgerLight.Stripe.Service
import LedgerLight.Domain.Database
import LedgerLight.Domain.Team
import LedgerLight.Domain.Inventory
import LedgerLight.Domain.Backend
import LedgerLight.Prisma.Query
import LedgerLight.Prisma.Service
import LedgerLight.Prisma.Order
import LedgerLight.Prisma.Pages
import LedgerLight.Migration.PaymentsV2
import LedgerLight.Payment.Rules
import LedgerLight.Payment.Service
import LedgerLight.Payment.Spec
import LedgerLight.Payment.Calls
import LedgerLight.Payment.CallsSpec
import LedgerLight.Order.Service
import LedgerLight.Order.Lines
import LedgerLight.Order.Spec
import LedgerLight.Order.Totals
import LedgerLight.Order.Reads
import LedgerLight.Inventory.Reads
import LedgerLight.Dashboard.Service
import LedgerLight.Team.Roles
import LedgerLight.Team.Members
import LedgerLight.Team.Service
import LedgerLight.Team.Spec
import LedgerLight.Team.Calls
import LedgerLight.Team.Journal
import LedgerLight.Auth.Service
import LedgerLight.Auth.Calls
import LedgerLight.Customer.Service
import LedgerLight.Location.Service
import LedgerLight.Location.Reads
import LedgerLight.Inventory.Service
import LedgerLight.Product.Service
import LedgerLight.Inventory.Spec
import LedgerLight.Inventory.Calls
import LedgerLight.System.Concurrent
import LedgerLight.System.TeamSessions
import LedgerLight.System.TeamStays
import LedgerLight.System.StockSessions
import LedgerLight.System.ScopedCalls
import LedgerLight.System.Routes
import LedgerLight.System.World
import LedgerLight.System.Effect
import LedgerLight.System.Outside
import LedgerLight.Stripe.Account
import LedgerLight.System.AuditTrail
import LedgerLight.System.CardCalls
import LedgerLight.System.Honest
import LedgerLight.System.Intents
import LedgerLight.System.Refunds
import LedgerLight.System.Events
import LedgerLight.Properties.Lifecycle
import LedgerLight.Properties.Totals
import LedgerLight.Properties.Amounts
import LedgerLight.Properties.PaidStays
import LedgerLight.Properties.NewestAttempt
import LedgerLight.Properties.Stranded
import LedgerLight.Properties.RefundedStays
import LedgerLight.Properties.RefundsExclude
import LedgerLight.Properties.OneCollection
import LedgerLight.Properties.RefundedAtStripe
import LedgerLight.Properties.ShipsPaid
import LedgerLight.Properties.WebhooksOnce
import LedgerLight.Properties.TierRules
import LedgerLight.Properties.OtherOrganizations
import LedgerLight.Properties.ScopesStay
import LedgerLight.Properties.OwnersStay
import LedgerLight.Properties.AcceptedMembers
import LedgerLight.Properties.InvitesOnce
import LedgerLight.Properties.OneInvite
import LedgerLight.Properties.LiveSessions
import LedgerLight.Properties.LoggedTogether
import LedgerLight.Properties.Tenants
import LedgerLight.Properties.Ledger
import LedgerLight.Properties.HistoryStays
import LedgerLight.Properties.ArchivedEmpty
import LedgerLight.Properties.ScopedWrites
import LedgerLight.Properties.PaidRefundable
import LedgerLight.Properties.AuditCounts
import LedgerLight.Properties.OneAttempt
import LedgerLight.Properties.LowStock
import LedgerLight.Properties.SyncTwice
import LedgerLight.Properties.ReopenKeeps
import LedgerLight.Properties.ItemsLater
import LedgerLight.Properties.Backfill
import LedgerLight.Properties.ItemRaces
import LedgerLight.Properties.InventoryPages
import LedgerLight.Properties.PagesListed
import LedgerLight.Properties.NullPages
import LedgerLight.Properties.ScopedReads
import LedgerLight.Properties.MemoryPages
import LedgerLight.Properties.LocationGuards
import LedgerLight.Properties.SalesPeriods
import LedgerLight.Properties.SalesBuckets
import LedgerLight.Frontend.CursorPagination
import LedgerLight.Properties.ListPages
import LedgerLight.Auth.Permissions
import LedgerLight.Auth.Guards
import LedgerLight.System.Api
import LedgerLight.System.Footprints
import LedgerLight.Properties.FreshAuthority
import LedgerLight.System.OrderMoves
import LedgerLight.System.OrderRefs
import LedgerLight.Properties.TenantRefs
import LedgerLight.Properties.WriteAuthority
import LedgerLight.Mcp.TokenManager
import LedgerLight.Properties.ServiceTokens
import LedgerLight.Frontend.Session
import LedgerLight.Properties.Redirects
import LedgerLight.Infra.Failures
import LedgerLight.Infra.Checks
import LedgerLight.Frontend.OrderPage
import LedgerLight.Order.Refusals
import LedgerLight.Properties.OfferedMoves
import LedgerLight.Mcp.Tools
import LedgerLight.Properties.AgentCalls
import LedgerLight.Infra.Mirror
import LedgerLight.Stripe.View
import LedgerLight.System.Seen
import LedgerLight.System.Charges
import LedgerLight.Properties.PaidInFull
import LedgerLight.Team.Admission
import LedgerLight.Frontend.TeamPage
import LedgerLight.Properties.OfferedChanges
import LedgerLight.Infra.Digits
import LedgerLight.Infra.Base64
import LedgerLight.Infra.Utf8
import LedgerLight.Infra.Json
import LedgerLight.Common.IsoDate
import LedgerLight.Prisma.CursorText
import LedgerLight.Prisma.TextPages
import LedgerLight.Properties.CursorTexts
import LedgerLight.Auth.Context
import LedgerLight.Common.CalendarSpec
import LedgerLight.Infra.Buckets
import LedgerLight.Infra.Property
import LedgerLight.Infra.Tiling
