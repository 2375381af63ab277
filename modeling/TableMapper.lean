import TableMapper.Backend
import TableMapper.Calendar.Reader
import TableMapper.Calendar.Timestamp
import TableMapper.Condition
import TableMapper.Database
import TableMapper.Decimal.Digits
import TableMapper.Decimal.Layout
import TableMapper.Decimal.Numeral
import TableMapper.Declaration.Options
import TableMapper.Declaration.Outline
import TableMapper.Declaration.Scan
import TableMapper.Declaration.Written
import TableMapper.Declaration.Written.Code
import TableMapper.Declaration.Written.Definition
import TableMapper.Declaration.Written.Path
import TableMapper.Declaration.Written.Taken
import TableMapper.Error
import TableMapper.Field
import TableMapper.Json.Basic
import TableMapper.Json.Fault
import TableMapper.Json.Number
import TableMapper.Json.Reader
import TableMapper.Logging
import TableMapper.Model.Basic
import TableMapper.Model.Outline
import TableMapper.Postgres.Cell
import TableMapper.Postgres.Client
import TableMapper.Query.Actions
import TableMapper.Query.Set
import TableMapper.Record
import TableMapper.Sql.Clause
import TableMapper.Sql.Statement
import TableMapper.Text.Basic
import TableMapper.Text.Lowercase
import TableMapper.Text.Quoted
import TableMapper.Value
import TableMapper.Proofs.Backend.Calls
import TableMapper.Proofs.Calendar.Attempts
import TableMapper.Proofs.Calendar.DayCount
import TableMapper.Proofs.Calendar.InternetForm
import TableMapper.Proofs.Calendar.Offset
import TableMapper.Proofs.Calendar.OwnText
import TableMapper.Proofs.Calendar.Reading
import TableMapper.Proofs.Condition.Feeding
import TableMapper.Proofs.Condition.LookupKey
import TableMapper.Proofs.Condition.Lookups
import TableMapper.Proofs.Database.Logging
import TableMapper.Proofs.Decimal.Digits
import TableMapper.Proofs.Decimal.Layout
import TableMapper.Proofs.Decimal.Notation
import TableMapper.Proofs.Decimal.Whole
import TableMapper.Proofs.Declaration.Acceptance
import TableMapper.Proofs.Declaration.Attributes
import TableMapper.Proofs.Declaration.Grammar
import TableMapper.Proofs.Declaration.Grouping
import TableMapper.Proofs.Declaration.Outline
import TableMapper.Proofs.Field.OwnText
import TableMapper.Proofs.Field.TimeTexts
import TableMapper.Proofs.Field.Type
import TableMapper.Proofs.Field.Whole
import TableMapper.Proofs.Json.Grammar
import TableMapper.Proofs.Json.Members
import TableMapper.Proofs.Json.Numbers
import TableMapper.Proofs.Json.RoundTrip
import TableMapper.Proofs.Json.Strings
import TableMapper.Proofs.Json.Tokens
import TableMapper.Proofs.Keyed
import TableMapper.Proofs.Logging
import TableMapper.Proofs.Model.Alignment
import TableMapper.Proofs.Model.Derived
import TableMapper.Proofs.Model.Faithful
import TableMapper.Proofs.Model.Json
import TableMapper.Proofs.Model.Members
import TableMapper.Proofs.Model.Reading
import TableMapper.Proofs.Model.Rows
import TableMapper.Proofs.Model.Validation
import TableMapper.Proofs.Postgres.Table
import TableMapper.Proofs.Query.Count
import TableMapper.Proofs.Query.GetOrCreate
import TableMapper.Proofs.Query.Kind
import TableMapper.Proofs.Query.Narrowing
import TableMapper.Proofs.Query.Operation
import TableMapper.Proofs.Query.Quotes
import TableMapper.Proofs.Query.Saving
import TableMapper.Proofs.Query.Session
import TableMapper.Proofs.Query.Single
import TableMapper.Proofs.Query.Statement
import TableMapper.Proofs.Record
import TableMapper.Proofs.Record.Decoding
import TableMapper.Proofs.Record.Members
import TableMapper.Proofs.Sql.Insert
import TableMapper.Proofs.Sql.Limit
import TableMapper.Proofs.Sql.Literal
import TableMapper.Proofs.Sql.Parts
import TableMapper.Proofs.Text.Basic
import TableMapper.Proofs.Text.Bytes
import TableMapper.Proofs.Text.Quotes
import TableMapper.Proofs.Value.Literal
