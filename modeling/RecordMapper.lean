import RecordMapper.Calendar.Date
import RecordMapper.Calendar.Printer
import RecordMapper.Calendar.Reader
import RecordMapper.Calendar.Timestamp
import RecordMapper.Calendar.Zone
import RecordMapper.Cell
import RecordMapper.Config
import RecordMapper.Conversion
import RecordMapper.Decimal.Binary
import RecordMapper.Decimal.Layout
import RecordMapper.Decimal.Literal
import RecordMapper.Decimal.Shortest
import RecordMapper.Description
import RecordMapper.Entity.Declaration
import RecordMapper.Entity.Registry
import RecordMapper.Entity.Schema
import RecordMapper.Fault
import RecordMapper.Filter.Conditions
import RecordMapper.Filter.Key
import RecordMapper.Filter.Operator
import RecordMapper.Json.Basic
import RecordMapper.Json.Fault
import RecordMapper.Json.Printer
import RecordMapper.Json.Reader.Basic
import RecordMapper.Json.Reader.Document
import RecordMapper.Json.Reader.Number
import RecordMapper.Json.Reader.String
import RecordMapper.Kind
import RecordMapper.OrderedMap
import RecordMapper.Proofs.Calendar.Date
import RecordMapper.Proofs.Calendar.Field
import RecordMapper.Proofs.Calendar.Figures
import RecordMapper.Proofs.Calendar.Numerals
import RecordMapper.Proofs.Calendar.Order
import RecordMapper.Proofs.Calendar.Precision
import RecordMapper.Proofs.Calendar.Printed
import RecordMapper.Proofs.Calendar.Stored
import RecordMapper.Proofs.Conversion
import RecordMapper.Proofs.Conversion.Integer
import RecordMapper.Proofs.Conversion.Loaded
import RecordMapper.Proofs.Conversion.Stable
import RecordMapper.Proofs.Decimal.Digits
import RecordMapper.Proofs.Decimal.Double
import RecordMapper.Proofs.Decimal.Equality
import RecordMapper.Proofs.Decimal.Finite
import RecordMapper.Proofs.Decimal.Interval
import RecordMapper.Proofs.Decimal.Numeral
import RecordMapper.Proofs.Decimal.Rounding
import RecordMapper.Proofs.Decimal.Written
import RecordMapper.Proofs.Entity.Registry
import RecordMapper.Proofs.Entity.Schema
import RecordMapper.Proofs.Entity.Validity
import RecordMapper.Proofs.Filter.Grammar
import RecordMapper.Proofs.Filter.Key
import RecordMapper.Proofs.Filter.Rendering
import RecordMapper.Proofs.Filter.Truth
import RecordMapper.Proofs.Json.Depth
import RecordMapper.Proofs.Json.Document
import RecordMapper.Proofs.Json.Equality
import RecordMapper.Proofs.Json.Finite
import RecordMapper.Proofs.Json.Number
import RecordMapper.Proofs.Json.Printed
import RecordMapper.Proofs.Json.String
import RecordMapper.Proofs.OrderedMap
import RecordMapper.Proofs.OrderedMap.Collected
import RecordMapper.Proofs.Record
import RecordMapper.Proofs.Record.Assignment
import RecordMapper.Proofs.Record.Holding
import RecordMapper.Proofs.SortedMap
import RecordMapper.Proofs.Sql.Arrow
import RecordMapper.Proofs.Sql.Command
import RecordMapper.Proofs.Sql.ConditionTokens
import RecordMapper.Proofs.Sql.Exclusion
import RecordMapper.Proofs.Sql.Expression
import RecordMapper.Proofs.Sql.Filtering
import RecordMapper.Proofs.Sql.Groups
import RecordMapper.Proofs.Sql.Identifiers
import RecordMapper.Proofs.Sql.Insertion
import RecordMapper.Proofs.Sql.Likeness
import RecordMapper.Proofs.Sql.Meaning
import RecordMapper.Proofs.Sql.OutputName
import RecordMapper.Proofs.Sql.Pagination
import RecordMapper.Proofs.Sql.Placeholders
import RecordMapper.Proofs.Sql.Positions
import RecordMapper.Proofs.Sql.Scan
import RecordMapper.Proofs.Sql.Selection
import RecordMapper.Proofs.Sql.Slots
import RecordMapper.Proofs.Sql.Spacing
import RecordMapper.Proofs.Sql.Token
import RecordMapper.Proofs.Store.ActiveSearch
import RecordMapper.Proofs.Store.Batch
import RecordMapper.Proofs.Store.Bound
import RecordMapper.Proofs.Store.Calls
import RecordMapper.Proofs.Store.Classes
import RecordMapper.Proofs.Store.Columns
import RecordMapper.Proofs.Store.Conditions
import RecordMapper.Proofs.Store.Control
import RecordMapper.Proofs.Store.Created
import RecordMapper.Proofs.Store.CreatedFlag
import RecordMapper.Proofs.Store.Ending
import RecordMapper.Proofs.Store.FirstRow
import RecordMapper.Proofs.Store.Found
import RecordMapper.Proofs.Store.Identifier
import RecordMapper.Proofs.Store.Known
import RecordMapper.Proofs.Store.Ledger
import RecordMapper.Proofs.Store.OpenTransaction
import RecordMapper.Proofs.Store.Operation
import RecordMapper.Proofs.Store.OwnRow
import RecordMapper.Proofs.Store.Reached
import RecordMapper.Proofs.Store.RecordWork
import RecordMapper.Proofs.Store.Restored
import RecordMapper.Proofs.Store.Retargeted
import RecordMapper.Proofs.Store.Rewritten
import RecordMapper.Proofs.Store.SelectList
import RecordMapper.Proofs.Store.Sent
import RecordMapper.Proofs.Store.Shown
import RecordMapper.Proofs.Store.Single
import RecordMapper.Proofs.Store.SoftDelete
import RecordMapper.Proofs.Store.Switching
import RecordMapper.Proofs.Store.Table
import RecordMapper.Proofs.Store.TransactionOutcome
import RecordMapper.Proofs.Store.Update
import RecordMapper.Proofs.Store.Views
import RecordMapper.Proofs.Store.Written
import RecordMapper.Proofs.Text.Blank
import RecordMapper.Proofs.Text.ByteOrder
import RecordMapper.Proofs.Text.Utf8
import RecordMapper.Record
import RecordMapper.Search
import RecordMapper.SortedMap
import RecordMapper.Sql.Delete
import RecordMapper.Sql.Dialect
import RecordMapper.Sql.Fragment
import RecordMapper.Sql.Insert
import RecordMapper.Sql.Select
import RecordMapper.Sql.Update
import RecordMapper.Sql.Where
import RecordMapper.Store.Basic
import RecordMapper.Store.Search
import RecordMapper.Store.Session
import RecordMapper.Store.Transaction
import RecordMapper.Store.Write
import RecordMapper.Text.Blank
import RecordMapper.Text.Quoted
import RecordMapper.Text.Shown
import RecordMapper.Text.Utf8
import RecordMapper.Value
