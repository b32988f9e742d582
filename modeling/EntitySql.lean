import EntitySql.DataSource.SchemaGeneration
import EntitySql.Repository.Operations
import EntitySql.Storage.Database
import EntitySql.Proofs.Statement.Layout
import EntitySql.Proofs.Outcome
import EntitySql.Proofs.Query.Slots
import EntitySql.Proofs.Query.Names
import EntitySql.Proofs.Query.Placeholders
import EntitySql.Proofs.Query.Prepare
import EntitySql.Proofs.Query.ConditionReader
import EntitySql.Proofs.Query.ReadBack
import EntitySql.Proofs.Repository.Execution
import EntitySql.Proofs.Bean.Yields
import EntitySql.Proofs.Repository.Cascade
import EntitySql.Proofs.Repository.Trace
import EntitySql.Proofs.Metadata.Columns
import EntitySql.Proofs.Repository.Binding
import EntitySql.Proofs.Repository.Links
import EntitySql.Proofs.Repository.Planning
import EntitySql.Proofs.Repository.Persist
import EntitySql.Proofs.Query.TextOfSizes
import EntitySql.Proofs.Text.Numerals
import EntitySql.Proofs.Calendar.Texts
import EntitySql.Proofs.Number.Nearest
import EntitySql.Proofs.Storage.RoundTrip
import EntitySql.Proofs.Query.Scope
import EntitySql.Proofs.Query.JoinScope
import EntitySql.Proofs.Bean.Paths
import EntitySql.Proofs.Statement.WrittenColumns
import EntitySql.Proofs.Repository.Refusal
import EntitySql.Proofs.Query.JoinWalk
import EntitySql.Proofs.Text.Blanks
import EntitySql.Proofs.Query.JoinAliases
import EntitySql.Proofs.Query.DerivedAliases
import EntitySql.Proofs.Repository.Memoization
import EntitySql.Proofs.Repository.Nesting
import EntitySql.Proofs.Statement.Tables
import EntitySql.Proofs.DataSource.Generation
import EntitySql.Proofs.Statement.LinkNames
import EntitySql.Proofs.Statement.ColumnTypes
import EntitySql.Proofs.Statement.ExpansionRounds
import EntitySql.Proofs.Bean.Steps
import EntitySql.Proofs.Bean.Rebinding
import EntitySql.Proofs.Bean.UpdateFrame
import EntitySql.Proofs.Bean.Population
import EntitySql.Proofs.Query.ReachedPoints
import EntitySql.Proofs.Query.Rejoining
import EntitySql.Proofs.Query.JoinKinds
import EntitySql.Proofs.Query.DeletedRows
import EntitySql.Proofs.Query.AllByPaths
import EntitySql.Proofs.Statement.TextBehindTokens
import EntitySql.Proofs.Query.Paging
import EntitySql.Proofs.Query.PageOrders
import EntitySql.Proofs.Result.ByName
import EntitySql.Proofs.Statement.Definitions
import EntitySql.Proofs.Statement.BindingTexts
import EntitySql.Proofs.Statement.TokenColumns
import EntitySql.Proofs.Statement.IdentityChains
import EntitySql.Proofs.Query.FetchedColumns
import EntitySql.Proofs.Value.Documents
import EntitySql.Proofs.Metadata.Settings
