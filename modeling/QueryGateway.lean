import QueryGateway.Binary64
import QueryGateway.Bytes
import QueryGateway.Calendar.Date
import QueryGateway.Calendar.Instant
import QueryGateway.Calendar.Reading
import QueryGateway.Cell
import QueryGateway.Context
import QueryGateway.Decimal.Layout
import QueryGateway.Decimal.Numeral
import QueryGateway.Decimal.Reading
import QueryGateway.Decimal.Shortest
import QueryGateway.Digest.Sha256
import QueryGateway.Failure
import QueryGateway.Gateway.Api
import QueryGateway.Gateway.Call
import QueryGateway.Gateway.Command
import QueryGateway.Gateway.Config
import QueryGateway.Gateway.Coordinator
import QueryGateway.Gateway.Processor
import QueryGateway.Gateway.Setup
import QueryGateway.Http.Headers
import QueryGateway.Http.Percent
import QueryGateway.Http.Route
import QueryGateway.Identifier
import QueryGateway.Job.Basic
import QueryGateway.Job.Message
import QueryGateway.Job.Retry
import QueryGateway.Job.Store
import QueryGateway.Job.Table
import QueryGateway.Json.Access
import QueryGateway.Json.Document
import QueryGateway.Json.Printer
import QueryGateway.Json.Reading
import QueryGateway.Json.Record
import QueryGateway.Json.Value
import QueryGateway.Keyed
import QueryGateway.Main
import QueryGateway.Metrics
import QueryGateway.Postgres.Address
import QueryGateway.Postgres.Column
import QueryGateway.Postgres.Parameter
import QueryGateway.Postgres.Session
import QueryGateway.Postgres.SqlType
import QueryGateway.Program
import QueryGateway.Proofs.Blocklist
import QueryGateway.Proofs.Calendar.Date
import QueryGateway.Proofs.Calendar.Reading
import QueryGateway.Proofs.Decimal.Digits
import QueryGateway.Proofs.Decimal.Shortest
import QueryGateway.Proofs.Gateway.Acceptance
import QueryGateway.Proofs.Gateway.Handling
import QueryGateway.Proofs.Job.Message
import QueryGateway.Proofs.Job.Store
import QueryGateway.Proofs.Json.Document
import QueryGateway.Proofs.Json.Numeral
import QueryGateway.Proofs.Json.Reading
import QueryGateway.Proofs.Json.Record
import QueryGateway.Proofs.Json.Text
import QueryGateway.Proofs.Keyed
import QueryGateway.Proofs.Program
import QueryGateway.Proofs.Request.Operands
import QueryGateway.Proofs.Request.Reading
import QueryGateway.Proofs.Service.Query
import QueryGateway.Proofs.Sql.Grammar
import QueryGateway.Proofs.Sql.Token
import QueryGateway.Proofs.Statement.Compile
import QueryGateway.Proofs.Statement.Reading
import QueryGateway.Proofs.Text.Case
import QueryGateway.Proofs.Text.Utf8
import QueryGateway.QueryError
import QueryGateway.Queue.Address
import QueryGateway.Queue.Consumer
import QueryGateway.Queue.Delivery
import QueryGateway.Queue.Envelope
import QueryGateway.Queue.ListStore
import QueryGateway.Queue.Memory
import QueryGateway.Queue.Redis
import QueryGateway.Request
import QueryGateway.Scripted.Consumer
import QueryGateway.Scripted.Databases
import QueryGateway.Scripted.Gateway
import QueryGateway.Scripted.Script
import QueryGateway.Scripted.Transcript
import QueryGateway.Service.Connectors
import QueryGateway.Service.Query
import QueryGateway.Service.Registry
import QueryGateway.Source
import QueryGateway.Statement
import QueryGateway.Text.Base64
import QueryGateway.Text.Blank
import QueryGateway.Text.Case
import QueryGateway.Text.CaseTable
import QueryGateway.Text.EscapedTable
import QueryGateway.Text.Hex
import QueryGateway.Text.Network
import QueryGateway.Text.Quoted
import QueryGateway.Text.Split
import QueryGateway.Text.Utf8
import QueryGateway.Uuid
import QueryGateway.Yaml.Cursor
import QueryGateway.Yaml.Node
import QueryGateway.Yaml.Reading
import QueryGateway.Yaml.Scalar
import QueryGateway.Yaml.Token
import QueryGateway.Proofs.Statement.Values
import QueryGateway.Proofs.Decimal.Reading
import QueryGateway.Proofs.Decimal.Distinct
import QueryGateway.Proofs.Json.Distinct
import QueryGateway.Proofs.Request.Digest
import QueryGateway.Proofs.Gateway.Redelivery
import QueryGateway.Proofs.Gateway.Duty
import QueryGateway.Proofs.Queue.Memory
import QueryGateway.Proofs.Gateway.Circulation
import QueryGateway.Proofs.Gateway.Balance
import QueryGateway.Proofs.Statement.Refusal
import QueryGateway.Proofs.Queue.History
import QueryGateway.Proofs.Queue.Consumer
import QueryGateway.Proofs.Gateway.Attempts
import QueryGateway.Proofs.Queue.Shelves
import QueryGateway.Proofs.Queue.Recovery
import QueryGateway.Proofs.Queue.Return
import QueryGateway.Proofs.Job.Lifecycle
import QueryGateway.Proofs.Gateway.Repetition
import QueryGateway.Proofs.Queue.Settlement
import QueryGateway.Proofs.Service.Sharing
import QueryGateway.Proofs.Job.History
import QueryGateway.Proofs.Metrics
import QueryGateway.Proofs.Context
import QueryGateway.Proofs.Postgres.Binary
import QueryGateway.Proofs.Sql.Command
import QueryGateway.Proofs.Sql.Execution
import QueryGateway.Proofs.Job.Table
import QueryGateway.Proofs.Job.Database
import QueryGateway.Proofs.Job.Rereading
import QueryGateway.Proofs.Gateway.Agreement
import QueryGateway.Proofs.Gateway.Deferral
import QueryGateway.Proofs.Service.Deadline
import QueryGateway.Proofs.Postgres.Parameter
import QueryGateway.Proofs.Service.Count
import QueryGateway.Proofs.Queue.Receiving
import QueryGateway.Proofs.Queue.Requeue
import QueryGateway.Proofs.Gateway.Sources
import QueryGateway.Proofs.Postgres.Session
import QueryGateway.Proofs.Postgres.Column
import QueryGateway.Proofs.Postgres.Timestamp
import QueryGateway.Proofs.Sql.Quoting
