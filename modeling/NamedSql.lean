import NamedSql.Param.Encode
import NamedSql.Param.Json
import NamedSql.Script.Run
import NamedSql.Script.Words
import NamedSql.Settings.DataSource
import NamedSql.Proofs.Session.Trail
import NamedSql.Proofs.Batch.Run
import NamedSql.Proofs.Batch.Check
import NamedSql.Proofs.Batch.Order
import NamedSql.Proofs.Batch.Report
import NamedSql.Proofs.Backend.Steady
import NamedSql.Proofs.Batch.Recovery
import NamedSql.Proofs.Template.Reading
import NamedSql.Proofs.Template.Holding
import NamedSql.Proofs.Binding.Columns
import NamedSql.Proofs.Binding.Widening
import NamedSql.Proofs.Text.Replacement
import NamedSql.Proofs.Statement.Splicing
import NamedSql.Proofs.Template.Seams
import NamedSql.Proofs.Template.Quoting
import NamedSql.Proofs.Statement.Refining
import NamedSql.Proofs.Template.Rendering
import NamedSql.Proofs.Binding.Alignment
import NamedSql.Proofs.Execute.Asked
import NamedSql.Proofs.Backend.Ledger
import NamedSql.Proofs.Session.Keeping
import NamedSql.Proofs.Execute.Releasing
import NamedSql.Proofs.Transaction.LifeCycle
import NamedSql.Proofs.Backend.Uniform
import NamedSql.Proofs.Session.Alike
import NamedSql.Proofs.Transaction.Transparency
import NamedSql.Proofs.Template.Native
import NamedSql.Proofs.Statement.Grammar
import NamedSql.Proofs.Binding.Range
import NamedSql.Proofs.Session.Recording
import NamedSql.Proofs.Execute.Planning
import NamedSql.Proofs.Execute.Recording
import NamedSql.Proofs.Mapper.Usage
import NamedSql.Proofs.Binding.Arity
import NamedSql.Proofs.Batch.Acceptance
import NamedSql.Proofs.Execute.Rows
import NamedSql.Proofs.Execute.Arity
import NamedSql.Proofs.Binding.Agreement
import NamedSql.Proofs.Binding.Expansion
import NamedSql.Proofs.Binding.Nesting
import NamedSql.Proofs.Execute.Presence
import NamedSql.Proofs.Execute.Failing
import NamedSql.Proofs.Cursor.Reading
import NamedSql.Proofs.Cursor.Collecting
import NamedSql.Proofs.Destination.Scanning
import NamedSql.Proofs.Naming.Stability
import NamedSql.Proofs.Naming.Spelling
import NamedSql.Proofs.Mapper.Finding
import NamedSql.Proofs.Recorder.Closing
import NamedSql.Proofs.Settings.Written
import NamedSql.Proofs.Settings.Outline
import NamedSql.Proofs.Settings.Order
import NamedSql.Proofs.Settings.Endpoint
import NamedSql.Proofs.Settings.Secrecy
import NamedSql.Proofs.Failure.Wrapping
import NamedSql.Proofs.Value.Integers
import NamedSql.Proofs.Timestamp.Reading
