import SqlMapper.Client.Program
import SqlMapper.Main
import SqlMapper.Proofs.Connection.Interleaving
import SqlMapper.Proofs.Model.JoinType
import SqlMapper.Proofs.Sql.Statement
import SqlMapper.Scripted.Result
import SqlMapper.Session.Markers
import SqlMapper.Session.Run
import SqlMapper.Proofs.Inflector.Endings
import SqlMapper.Proofs.Inflector.Plurals
import SqlMapper.Proofs.Inflector.Singulars
import SqlMapper.Proofs.Inflector.English
import SqlMapper.Proofs.Model.RowChoice
import SqlMapper.Proofs.Model.Sharing
import SqlMapper.Proofs.Row.Decoder
import SqlMapper.Proofs.Inflector.Names
import SqlMapper.Proofs.Model.Resolution
import SqlMapper.Proofs.Transaction.Abandonment
import SqlMapper.Proofs.Database.Threads
import SqlMapper.Proofs.Transaction.Composed
import SqlMapper.Proofs.Transaction.Marks
import SqlMapper.Proofs.Transaction.OpenMarks
import SqlMapper.Proofs.Column.RoundTrip
import SqlMapper.Proofs.Text.Bytes
import SqlMapper.Proofs.Text.Case
import SqlMapper.Proofs.Url.Percent
import SqlMapper.Proofs.Url.Form
import SqlMapper.Proofs.Url.Address
import SqlMapper.Proofs.Url.Path
import SqlMapper.Proofs.Url.Server
import SqlMapper.Proofs.Url.Reader
import SqlMapper.Proofs.Url.Serverless
import SqlMapper.Proofs.Config.ConnectionString
import SqlMapper.Proofs.Config.QueryOptions
import SqlMapper.Proofs.Config.PoolSizes
import SqlMapper.Proofs.Calendar.Reading
import SqlMapper.Proofs.Column.DateTime
import SqlMapper.Proofs.Database.Exchange
import SqlMapper.Proofs.Database.Log
import SqlMapper.Proofs.Model.Routine
import SqlMapper.Proofs.Model.Executors
import SqlMapper.Proofs.Database.Tables
import SqlMapper.Proofs.Model.JoinColumns
import SqlMapper.Proofs.Model.TableCreation
import SqlMapper.Proofs.Model.TableRace
import SqlMapper.Proofs.Inflector.Repetition
import SqlMapper.Proofs.CommandLine.Participants
import SqlMapper.Proofs.Number.Numeral
import SqlMapper.Proofs.Column.Conversion
import SqlMapper.Proofs.Column.WholeNumber
import SqlMapper.Proofs.Calendar.Clock
import SqlMapper.Proofs.Column.TimeSpan
import SqlMapper.Proofs.Model.GeneratedKey
import SqlMapper.Proofs.Model.CallChain
import SqlMapper.Proofs.Model.FirstRow
import SqlMapper.Proofs.Sql.FieldName
import SqlMapper.Proofs.Record.History
import SqlMapper.Proofs.Row.Entries
import SqlMapper.Proofs.Inflector.Paths
import SqlMapper.Proofs.Row.WholeResults
import SqlMapper.Proofs.Url.Password
import SqlMapper.Proofs.Config.Masking
import SqlMapper.Proofs.Record.OrderedMap
import SqlMapper.Proofs.Model.Saving
import SqlMapper.Proofs.Json.Reading
import SqlMapper.Proofs.Sql.Schema
import SqlMapper.Proofs.Sql.Update
import SqlMapper.Proofs.Transaction.Depth
