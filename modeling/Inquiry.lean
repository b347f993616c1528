import Inquiry.Main
import Inquiry.Proofs.Execution.DryRun
import Inquiry.Proofs.Execution.Gate
import Inquiry.Proofs.Query.Writing
import Inquiry.Proofs.Query.FirstError
import Inquiry.Proofs.Query.Concatenation
import Inquiry.Proofs.Query.Extent
import Inquiry.Query.Document
import Inquiry.Registry.Inspection
import Inquiry.Token.Lookahead
import Inquiry.Proofs.Task.Plan
import Inquiry.Proofs.Task.Effect
import Inquiry.Proofs.Execution.Session
import Inquiry.Proofs.Task.Preview
import Inquiry.Proofs.Task.Numbering
import Inquiry.Proofs.Task.ReadBack
import Inquiry.Proofs.Task.Atomicity
import Inquiry.Proofs.Outcome.Tables
import Inquiry.Proofs.Outcome.Records
import Inquiry.Proofs.Registry.Registration
import Inquiry.Proofs.Text.ByteOrder
import Inquiry.Proofs.Execution.Dismissal
import Inquiry.Proofs.Registry.Document
import Inquiry.Proofs.Text.Count
import Inquiry.Proofs.Request.Paging
import Inquiry.Proofs.Task.Repetition
import Inquiry.Proofs.Task.Creation
import Inquiry.Proofs.Text.Folding
import Inquiry.Proofs.Task.Variants
import Inquiry.Proofs.Request.Selection
import Inquiry.Proofs.Task.Reads
import Inquiry.Proofs.Pipeline.Order
import Inquiry.Proofs.Pipeline.Sorting
import Inquiry.Proofs.Pipeline.Directives
import Inquiry.Proofs.Request.Handler
import Inquiry.Proofs.Request.Pipeline
import Inquiry.Proofs.Registry.Projection
import Inquiry.Proofs.Request.Relevance
import Inquiry.Proofs.Token.Coverage
import Inquiry.Proofs.Query.Spacing
import Inquiry.Proofs.Query.EndOfInput
import Inquiry.Proofs.Query.Refusal
import Inquiry.Proofs.Source.Lines
import Inquiry.Proofs.Query.Diagnosis
import Inquiry.Proofs.Request.Parameters
import Inquiry.Proofs.Outcome.Flattening
import Inquiry.Proofs.Registry.Columns
import Inquiry.Proofs.Pipeline.Filtering
import Inquiry.Proofs.Source.Order
import Inquiry.Proofs.Token.Cursor
import Inquiry.Proofs.Outcome.Ending
import Inquiry.Proofs.CommandLine.Report
