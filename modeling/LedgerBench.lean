import LedgerBench.Client.Basic
import LedgerBench.Client.Error
import LedgerBench.Client.Transport
import LedgerBench.Client.View
import LedgerBench.CommandLine.Grammar
import LedgerBench.CommandLine.SuiteOptions
import LedgerBench.CommandLine.Suites
import LedgerBench.CommandLine.Sweep
import LedgerBench.CommandLine.SweepOptions
import LedgerBench.Decimal.Binary
import LedgerBench.Decimal.Digits
import LedgerBench.Decimal.Nearest
import LedgerBench.Decimal.Notation
import LedgerBench.Decimal.Places
import LedgerBench.Decimal.Reading
import LedgerBench.Decimal.Shortest
import LedgerBench.Failure
import LedgerBench.Fixture.AccountBook
import LedgerBench.Fixture.Basic
import LedgerBench.Fixture.Ledger
import LedgerBench.Fixture.Script
import LedgerBench.Fixture.Server
import LedgerBench.Json.Basic
import LedgerBench.Json.Parser
import LedgerBench.Json.Printer
import LedgerBench.Json.Shape
import LedgerBench.Ledger.Amount
import LedgerBench.Ledger.Apply
import LedgerBench.Ledger.Flags
import LedgerBench.Ledger.Path
import LedgerBench.Ledger.State
import LedgerBench.Ledger.Transaction
import LedgerBench.Machine.Basic
import LedgerBench.Machine.Change
import LedgerBench.Machine.Image
import LedgerBench.Machine.Path
import LedgerBench.Machine.WaitStatus
import LedgerBench.Main
import LedgerBench.Net.Connect
import LedgerBench.Net.Domain.Bidi
import LedgerBench.Net.Domain.CombiningClass
import LedgerBench.Net.Domain.Composition
import LedgerBench.Net.Domain.Mapping
import LedgerBench.Net.Domain.Name
import LedgerBench.Net.Domain.Punycode
import LedgerBench.Net.Domain.Rule
import LedgerBench.Net.HostName
import LedgerBench.Net.Percent
import LedgerBench.Net.Url
import LedgerBench.Net.WebSocket
import LedgerBench.Operation.Reporter
import LedgerBench.Operation.Summary
import LedgerBench.Register
import LedgerBench.Server.Basic
import LedgerBench.Server.Keys
import LedgerBench.Server.Request
import LedgerBench.Shell.Act
import LedgerBench.Shell.Arithmetic
import LedgerBench.Shell.BuiltIn
import LedgerBench.Shell.Command
import LedgerBench.Shell.Condition
import LedgerBench.Shell.Expansion
import LedgerBench.Shell.Fault
import LedgerBench.Shell.Format
import LedgerBench.Shell.Glob
import LedgerBench.Shell.Name
import LedgerBench.Shell.Pattern
import LedgerBench.Shell.Process
import LedgerBench.Shell.Programs
import LedgerBench.Shell.Reader
import LedgerBench.Shell.Scope
import LedgerBench.Shell.Signal
import LedgerBench.Shell.Step
import LedgerBench.Shell.Store
import LedgerBench.Shell.System
import LedgerBench.Shell.Tool.Basic
import LedgerBench.Shell.Tool.Date
import LedgerBench.Shell.Tool.Edit
import LedgerBench.Shell.Tool.Expr
import LedgerBench.Shell.Tool.Files
import LedgerBench.Shell.Tool.Lines
import LedgerBench.Shell.Tool.Plain
import LedgerBench.Shell.Tool.Regex
import LedgerBench.Shell.Tool.Step
import LedgerBench.Shell.Tool.Table
import LedgerBench.Shutdown.Channel
import LedgerBench.Shutdown.Exchange
import LedgerBench.Shutdown.Listener
import LedgerBench.Suite.Basic
import LedgerBench.Suite.Chain
import LedgerBench.Suite.Report
import LedgerBench.Suite.Scene
import LedgerBench.Suite.Script
import LedgerBench.Suite.Summary
import LedgerBench.Suites.AccountSet
import LedgerBench.Suites.NoDivvy
import LedgerBench.Sweep.Config
import LedgerBench.Sweep.Error
import LedgerBench.Sweep.Pass
import LedgerBench.Sweep.Range
import LedgerBench.Sweep.Record
import LedgerBench.Sweep.Run
import LedgerBench.Sweep.Site
import LedgerBench.Text.Blank
import LedgerBench.Text.Columns
import LedgerBench.Text.Emoji
import LedgerBench.Text.Hex
import LedgerBench.Text.Unseen
import LedgerBench.Text.Joining
import LedgerBench.Text.Marks
import LedgerBench.Text.Ranges
import LedgerBench.Text.Table
import LedgerBench.Text.Utf8
import LedgerBench.Proofs.Register
import LedgerBench.Server.Run
import LedgerBench.Proofs.Ledger.Effect
import LedgerBench.Proofs.Server.Handled
import LedgerBench.Proofs.Supply
import LedgerBench.Proofs.Authority
import LedgerBench.Proofs.Atomicity
import LedgerBench.Proofs.Decimal.Digits
import LedgerBench.Proofs.Decimal.Bits
import LedgerBench.Proofs.Decimal.Nearest
import LedgerBench.Proofs.Decimal.RoundTrip
import LedgerBench.Proofs.Ledger.Codec
import LedgerBench.Proofs.Client.Refinement
import LedgerBench.Proofs.Visibility
import LedgerBench.Proofs.Decimal.Order
import LedgerBench.Proofs.Ledger.Reachable
import LedgerBench.Proofs.Ledger.Routes
import LedgerBench.Proofs.PathFinding
import LedgerBench.Proofs.Suite.Performance
import LedgerBench.Proofs.Suite.Quiet
import LedgerBench.Proofs.SuiteRun
import LedgerBench.Proofs.Net.Await
import LedgerBench.Proofs.Replies
import LedgerBench.Proofs.StopSignal
import LedgerBench.Proofs.Decimal.Sum
import LedgerBench.Proofs.Payment
import LedgerBench.Proofs.Client.Inquiry
import LedgerBench.Proofs.Client.Memory
import LedgerBench.Proofs.Fixture.Leads
import LedgerBench.Proofs.Ledger.Sketch
import LedgerBench.Proofs.Fixture.Accounts
import LedgerBench.Proofs.Fixture.Play
import LedgerBench.Proofs.Fixture.Cast
import LedgerBench.Proofs.Suites.Steps
import LedgerBench.Proofs.Suites.AccountSet
import LedgerBench.Proofs.Suites.NoDivvy
import LedgerBench.Proofs.BuiltInSuites
import LedgerBench.Proofs.Integrity
import LedgerBench.Proofs.LineViews
import LedgerBench.Proofs.Suite.Asked
import LedgerBench.Proofs.SuiteStop
import LedgerBench.Proofs.Sweep.Ground
import LedgerBench.Proofs.Sweep.Site
import LedgerBench.Proofs.SweepStop
import LedgerBench.Proofs.Sweep.Course
import LedgerBench.Proofs.SweepPass
import LedgerBench.Proofs.RunEnding
import LedgerBench.Proofs.SweepRange
import LedgerBench.Proofs.OperationCounts
import LedgerBench.Proofs.Decimal.Value
import LedgerBench.Proofs.Ledger.Total
import LedgerBench.Proofs.PaymentBalance
import LedgerBench.Proofs.AccountHistory
import LedgerBench.Proofs.Fixture.Helper
import LedgerBench.Proofs.ConnectionLoss
import LedgerBench.Proofs.ScenarioIsolation
import LedgerBench.Proofs.Decimal.Exact
import LedgerBench.Proofs.CreditLimits
import LedgerBench.Proofs.TrustSet
import LedgerBench.Proofs.RouteMonotonicity
import LedgerBench.Proofs.OwnedLines
import LedgerBench.Proofs.AccountSettings
import LedgerBench.Proofs.TransactionNumbers
import LedgerBench.Proofs.Submission
import LedgerBench.Proofs.AccountCreation
import LedgerBench.Proofs.SimpleRoutes
import LedgerBench.Proofs.SweepEstimate
import LedgerBench.Proofs.ChainRun
import LedgerBench.Proofs.Decimal.Error
import LedgerBench.Proofs.NativeAmounts
import LedgerBench.Proofs.AmountText
