import SqlDialect.Capabilities
import SqlDialect.ColumnType.Generic
import SqlDialect.Connection.Session
import SqlDialect.Query.Call
import SqlDialect.Rules.Derived
import SqlDialect.Statement.Compile
import SqlDialect.Statement.Inspect
import SqlDialect.Table.Create
import SqlDialect.Proofs.Query.Engines
import SqlDialect.Proofs.Statement.TimeNest
import SqlDialect.Proofs.Query.CallTree
import SqlDialect.Proofs.Query.Closed
import SqlDialect.Proofs.Granularity.Partition
import SqlDialect.Proofs.Granularity.Coincidence
import SqlDialect.Proofs.Query.Records
import SqlDialect.Proofs.Query.ZoneKeys
import SqlDialect.Proofs.Query.Clock
import SqlDialect.Proofs.Query.Quotes
import SqlDialect.Proofs.Text.Doubling
import SqlDialect.Proofs.Identifier.Reading
import SqlDialect.Proofs.Query.TableNames
import SqlDialect.Proofs.Statement.Repetition
import SqlDialect.Proofs.Statement.Interval
import SqlDialect.Proofs.Zone.Reading
import SqlDialect.Proofs.Template.Order
import SqlDialect.Proofs.Keyed.Agreement
import SqlDialect.Proofs.Template.Derivation
import SqlDialect.Proofs.Template.Segments
import SqlDialect.Proofs.Template.Sort
import SqlDialect.Proofs.Table.NameLimit
import SqlDialect.Proofs.Connection.Transactions
import SqlDialect.Proofs.Keyed.Writing
import SqlDialect.Proofs.Connection.Layers
import SqlDialect.Proofs.Connection.Delivery
import SqlDialect.Proofs.Connection.Secrecy
import SqlDialect.Proofs.Query.Overriding
import SqlDialect.Proofs.ColumnType.Recognition
