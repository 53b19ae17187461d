import Valqeron.Foundation.Transition
import Valqeron.Foundation.Program
import Valqeron.Foundation.Dialogue
import Valqeron.Foundation.OneChange
import Valqeron.Foundation.Service
import Valqeron.Foundation.Answering
import Valqeron.Foundation.ThreeValued
import Valqeron.Foundation.SortedTable
import Valqeron.Foundation.Grouping
import Valqeron.Foundation.Savepoint
import Valqeron.Foundation.Serial
import Valqeron.Foundation.Text
import Valqeron.Foundation.LetterCase
import Valqeron.Foundation.References
import Valqeron.Foundation.Digits
import Valqeron.Foundation.Decimal
import Valqeron.Foundation.Decoding
import Valqeron.Foundation.VersionedRow
import Valqeron.Foundation.VersionedStore
import Valqeron.Foundation.Keyset
import Valqeron.Foundation.Chains
import Valqeron.Foundation.Checked
import Valqeron.Foundation.Bitmap
import Valqeron.Foundation.Guarded
import Valqeron.Foundation.Json
import Valqeron.Foundation.Luhn
import Valqeron.Foundation.Numeral
import Valqeron.Identifiers.Common
import Valqeron.Identifiers.Cnpj
import Valqeron.Identifiers.CnpjLanguage
import Valqeron.Identifiers.Lei
import Valqeron.Identifiers.LeiChecksum
import Valqeron.Identifiers.Mic
import Valqeron.Identifiers.MicChains
import Valqeron.Identifiers.MicCountry
import Valqeron.Identifiers.CsvRoundTrip
import Valqeron.Identifiers.CountryCode
import Valqeron.Identifiers.CountryBitmap
import Valqeron.Identifiers.Isin
import Valqeron.Identifiers.IsinChecksum
import Valqeron.Identifiers.Cfi
import Valqeron.Identifiers.CfiSeed
import Valqeron.Identifiers.CfiTaxonomy
import Valqeron.Identifiers.ErrorPositions
import Valqeron.Identifiers.Checked.CountryCode
import Valqeron.Identifiers.Checked.Isin
import Valqeron.Identifiers.Checked.Lei
import Valqeron.Identifiers.Checked.Cnpj
import Valqeron.Identifiers.Checked.Cfi
import Valqeron.Identifiers.Checked.Mic
import Valqeron.Identifiers.NeverPanics
import Valqeron.Domain.Common
import Valqeron.Domain.UniqueIdentifier
import Valqeron.Domain.Issuer
import Valqeron.Cli.RegisterIssuer
import Valqeron.Cli.BackgroundTaskView
import Valqeron.Domain.Security
import Valqeron.Domain.RegisterSecurity
import Valqeron.Domain.Hydration
import Valqeron.Domain.BackgroundTask
import Valqeron.Domain.ScheduledTask
import Valqeron.Domain.Venue
import Valqeron.Domain.Listing
import Valqeron.Domain.EnumNames
import Valqeron.Domain.ListingBook
import Valqeron.Sqlite.Schema
import Valqeron.Sqlite.Database
import Valqeron.Sqlite.DryRun
import Valqeron.Sqlite.Row
import Valqeron.Sqlite.Timestamp
import Valqeron.Sqlite.StoredTimes
import Valqeron.Sqlite.Columns
import Valqeron.Sqlite.IssuerRepository
import Valqeron.Sqlite.IssuerRow
import Valqeron.Sqlite.SecurityRepository
import Valqeron.Sqlite.GuardedWrites
import Valqeron.Sqlite.BackgroundTasksRegistry
import Valqeron.Sqlite.SecurityGraph
import Valqeron.Sqlite.SecurityRules
import Valqeron.Sqlite.RegisterSecurity
import Valqeron.Sqlite.Guards
import Valqeron.Sqlite.IssuerRule
import Valqeron.Sqlite.EagerReads
import Valqeron.Sqlite.UniqueKeys
import Valqeron.Sqlite.PatchDuplicates
import Valqeron.Sqlite.WriteOutcomes
import Valqeron.Sqlite.HydratedReads
import Valqeron.Sqlite.EagerAgreement
import Valqeron.Sqlite.RowRoundTrip
import Valqeron.Sqlite.PatchOverlay
import Valqeron.Sqlite.Catalogue
import Valqeron.Sqlite.Clients
import Valqeron.Sqlite.Lineage
import Valqeron.Sqlite.Migrations
import Valqeron.Sqlite.Openers
import Valqeron.Sqlite.WaitPool
import Valqeron.Engine.Lock
import Valqeron.Engine.Boot
import Valqeron.Engine.Config
import Valqeron.Engine.Lifecycle
import Valqeron.Engine.LifecycleOrder
import Valqeron.Engine.Storage
import Valqeron.Engine.WriteLane
import Valqeron.Engine.EffectOrder
import Valqeron.Engine.IssuerWrites
import Valqeron.Engine.CatalogueWrites
import Valqeron.Engine.WritesAtOnce
import Valqeron.Engine.Admission
import Valqeron.Engine.IssuerService
import Valqeron.Engine.PatchRequest
import Valqeron.Engine.AdminService
import Valqeron.Engine.PagedLists
import Valqeron.Engine.CatalogueReads
import Valqeron.Engine.ConcurrentCalls
import Valqeron.Engine.IssuerReplies
import Valqeron.EngineClient.IssuerMapping
import Valqeron.EngineClient.WriteRequests
import Valqeron.EngineClient.IssuerSession
import Valqeron.EngineClient.ConcurrentClients
import Valqeron.EngineClient.BackgroundTasks
import Valqeron.EngineClient.Connection
import Valqeron.Cli.Commands
import Valqeron.Cli.CommandOrder
import Valqeron.Cli.CommandSession
import Valqeron.Sqlite.Opening
