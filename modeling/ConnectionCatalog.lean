import ConnectionCatalog.Text.Blank
import ConnectionCatalog.Text.Case
import ConnectionCatalog.Text.Quoted
import ConnectionCatalog.Number.Decimal
import ConnectionCatalog.TextMap
import ConnectionCatalog.Value
import ConnectionCatalog.Json.Printer
import ConnectionCatalog.Text.Encoding
import ConnectionCatalog.Json.Reader
import ConnectionCatalog.Field.Check
import ConnectionCatalog.Connection.Record
import ConnectionCatalog.Table.Memory
import ConnectionCatalog.Log.Basic
import ConnectionCatalog.Clock
import ConnectionCatalog.Metrics
import ConnectionCatalog.Store
import ConnectionCatalog.Sql.Table
import ConnectionCatalog.Sql.Lease
import ConnectionCatalog.Log.Context
import ConnectionCatalog.Log.Configuration
import ConnectionCatalog.Engine.Basic
import ConnectionCatalog.Proofs.Connection.Codec
import ConnectionCatalog.Proofs.Sql.Table
import ConnectionCatalog.Proofs.Store.Reading
import ConnectionCatalog.Proofs.Sql.Statement
import ConnectionCatalog.Proofs.Store.Atomicity
import ConnectionCatalog.Proofs.Store.Events
import ConnectionCatalog.Proofs.Store.Invariant
import ConnectionCatalog.Proofs.Sql.Binding
import ConnectionCatalog.Proofs.Sql.Upsert
import ConnectionCatalog.Proofs.Table.Contract
import ConnectionCatalog.Proofs.Store.Shelf
import ConnectionCatalog.Proofs.Store.Shelver
import ConnectionCatalog.Proofs.Table.Shelves
import ConnectionCatalog.Proofs.Sql.Shelves
import ConnectionCatalog.Proofs.Store.Isolation
import ConnectionCatalog.Proofs.Store.Steps
import ConnectionCatalog.Proofs.Store.Interleaving
import ConnectionCatalog.Proofs.Store.AccessPaths
import ConnectionCatalog.Proofs.Table.Replacement
import ConnectionCatalog.Proofs.Store.Observation
import ConnectionCatalog.Proofs.Store.Audit
import ConnectionCatalog.Proofs.Connection.Derivation
import ConnectionCatalog.Proofs.Table.Cursors
import ConnectionCatalog.Proofs.Table.KeyOrder
import ConnectionCatalog.Proofs.Table.Scan
import ConnectionCatalog.Proofs.Store.Simulation
import ConnectionCatalog.Proofs.Store.Rowwise
import ConnectionCatalog.Proofs.Sql.Lease
import ConnectionCatalog.Proofs.Store.Closing
import ConnectionCatalog.Proofs.Connection.Properties
import ConnectionCatalog.Proofs.Log.JsonLine
import ConnectionCatalog.Proofs.Log.Contexts
import ConnectionCatalog.Proofs.Engine.Directory
import ConnectionCatalog.Proofs.Metrics.Samples
import ConnectionCatalog.Proofs.Connection.Rebuilding
import ConnectionCatalog.Proofs.Log.Configuration
