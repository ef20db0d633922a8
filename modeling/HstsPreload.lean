import HstsPreload.CommandLine.Help
import HstsPreload.CommandLine.Order
import HstsPreload.CommandLine.Param
import HstsPreload.CommandLine.Run
import HstsPreload.Config
import HstsPreload.Decision
import HstsPreload.DomainName
import HstsPreload.Entry
import HstsPreload.Failure
import HstsPreload.Header
import HstsPreload.Host.Address
import HstsPreload.Host.Basic
import HstsPreload.Host.Direction
import HstsPreload.Host.Ipv4
import HstsPreload.Host.Ipv6
import HstsPreload.Host.Joiner
import HstsPreload.Host.Label
import HstsPreload.Host.Punycode
import HstsPreload.Issue
import HstsPreload.Json.Binary64
import HstsPreload.Json.Buffered
import HstsPreload.Json.Fault
import HstsPreload.Json.Number
import HstsPreload.Json.Reader
import HstsPreload.Json.Record
import HstsPreload.Json.Skip
import HstsPreload.Json.Typed
import HstsPreload.Json.Value
import HstsPreload.ListSource
import HstsPreload.Log.Directive
import HstsPreload.Log.Filter
import HstsPreload.Log.Level
import HstsPreload.Main
import HstsPreload.Pending.Changes
import HstsPreload.Pending.Checks
import HstsPreload.Pending.Edit
import HstsPreload.Pending.Fault
import HstsPreload.Pending.Fetch
import HstsPreload.Pending.ListFile
import HstsPreload.Plan
import HstsPreload.Policy
import HstsPreload.PreloadList
import HstsPreload.Proofs.Ancestry
import HstsPreload.Proofs.Base64
import HstsPreload.Proofs.Batches
import HstsPreload.Proofs.Characters
import HstsPreload.Proofs.Contract
import HstsPreload.Proofs.Convergence
import HstsPreload.Proofs.DamagedTables
import HstsPreload.Proofs.DateSecrecy
import HstsPreload.Proofs.Decoding
import HstsPreload.Proofs.Directives
import HstsPreload.Proofs.DomainNames
import HstsPreload.Proofs.DryRuns
import HstsPreload.Proofs.Eligibility
import HstsPreload.Proofs.Failures
import HstsPreload.Proofs.FirstEntries
import HstsPreload.Proofs.Freshness
import HstsPreload.Proofs.HeaderEdits
import HstsPreload.Proofs.History
import HstsPreload.Proofs.Independence
import HstsPreload.Proofs.MaximumAge
import HstsPreload.Proofs.Mirror
import HstsPreload.Proofs.Operations
import HstsPreload.Proofs.Pages
import HstsPreload.Proofs.Provenance
import HstsPreload.Proofs.Readback
import HstsPreload.Proofs.Rechecks
import HstsPreload.Proofs.Reconciliation
import HstsPreload.Proofs.Removal
import HstsPreload.Proofs.Rewriting
import HstsPreload.Proofs.Routing
import HstsPreload.Proofs.ServiceRoutes
import HstsPreload.Proofs.Shape
import HstsPreload.Proofs.StandingHeader
import HstsPreload.Proofs.Stores
import HstsPreload.Proofs.TableRuns
import HstsPreload.Proofs.Transparency
import HstsPreload.Proofs.UpdateReports
import HstsPreload.Proofs.Views
import HstsPreload.Proofs.WantedRecords
import HstsPreload.Record
import HstsPreload.Registry.Basic
import HstsPreload.Registry.Cache
import HstsPreload.Registry.Program
import HstsPreload.Registry.Routes
import HstsPreload.Registry.Update
import HstsPreload.Registry.Writer
import HstsPreload.Scanner
import HstsPreload.Service
import HstsPreload.SiteScanner
import HstsPreload.Status
import HstsPreload.StatusView
import HstsPreload.Store.Basic
import HstsPreload.Store.Column
import HstsPreload.Store.Memory
import HstsPreload.Store.Table
import HstsPreload.Text.Base64
import HstsPreload.Text.Blank
import HstsPreload.Text.Digits
import HstsPreload.Text.Lines
import HstsPreload.Text.Percent
import HstsPreload.Text.Quoted
import HstsPreload.Text.Utf8
import HstsPreload.Time.Calendar
import HstsPreload.Time.Instant
import HstsPreload.Time.Rfc3339
import HstsPreload.Time.Span
import HstsPreload.Unicode.Alphanumeric
import HstsPreload.Unicode.Bidi
import HstsPreload.Unicode.Combining
import HstsPreload.Unicode.Composed
import HstsPreload.Unicode.Decomposition
import HstsPreload.Unicode.HostMapping
import HstsPreload.Unicode.Joining
import HstsPreload.Unicode.Mark
import HstsPreload.Unicode.Printable
import HstsPreload.Unicode.Table
import HstsPreload.Wanted
import HstsPreload.Web.Message
import HstsPreload.Web.Network
import HstsPreload.Web.Url
