import LoadScenario.Chain.Action
import LoadScenario.Chain.Build
import LoadScenario.Cli.Args
import LoadScenario.Cli.Demo
import LoadScenario.Cli.Execute
import LoadScenario.Cli.Grammar
import LoadScenario.Cli.LogFilter
import LoadScenario.Cli.Similarity
import LoadScenario.Clock
import LoadScenario.Decimal.Binary
import LoadScenario.Decimal.Layout
import LoadScenario.Decimal.Read
import LoadScenario.Decimal.Shortest
import LoadScenario.Decode.Config
import LoadScenario.Decode.Datum
import LoadScenario.Describe.Chain
import LoadScenario.Describe.Feeder
import LoadScenario.Describe.Source
import LoadScenario.Describe.View
import LoadScenario.Duration
import LoadScenario.Effects
import LoadScenario.Engine.Config
import LoadScenario.Engine.ConfigFile
import LoadScenario.Engine.Run
import LoadScenario.EvalError
import LoadScenario.Expression.Eval
import LoadScenario.Expression.Template
import LoadScenario.Feeder.Basic
import LoadScenario.Feeder.Csv
import LoadScenario.Feeder.Load
import LoadScenario.Files
import LoadScenario.Json.Access
import LoadScenario.Json.Convert
import LoadScenario.Json.Read
import LoadScenario.Json.Value
import LoadScenario.Json.Write
import LoadScenario.Log
import LoadScenario.Main
import LoadScenario.Outcome
import LoadScenario.Prog
import LoadScenario.Random.ChaCha
import LoadScenario.Random.Uniform
import LoadScenario.Runner.Run
import LoadScenario.Runner.Scope
import LoadScenario.Scheduler
import LoadScenario.Session
import LoadScenario.Source
import LoadScenario.Stop
import LoadScenario.Text.Blank
import LoadScenario.Text.Debug
import LoadScenario.Text.Letters
import LoadScenario.Text.Pattern
import LoadScenario.Text.Printable
import LoadScenario.Text.Ranges
import LoadScenario.Text.Word
import LoadScenario.Toml.Document
import LoadScenario.Toml.Error
import LoadScenario.Toml.Grammar
import LoadScenario.Toml.Parser
import LoadScenario.Proofs.Prog.Outcomes
import LoadScenario.Proofs.Runner.Steps
import LoadScenario.Proofs.Runner.Interrupts
import LoadScenario.Proofs.Session.Operations
import LoadScenario.Proofs.Chain.Inside
import LoadScenario.Proofs.Runner.Failure
import LoadScenario.Proofs.Runner.Handling
import LoadScenario.Proofs.Runner.Counters
import LoadScenario.Proofs.Chain.Built
import LoadScenario.Proofs.Runner.Calls
import LoadScenario.Proofs.Runner.Entering
import LoadScenario.Proofs.Random.Draws
import LoadScenario.Proofs.Feeder.Pulls
import LoadScenario.Proofs.Feeder.Sources
import LoadScenario.Proofs.Prog.Stopping
import LoadScenario.Proofs.Runner.Stopping
import LoadScenario.Proofs.Prog.Traces
import LoadScenario.Proofs.Engine.Injection
import LoadScenario.Proofs.Engine.Accounting
import LoadScenario.Proofs.Runner.Requests
import LoadScenario.Proofs.Runner.Rounds
import LoadScenario.Proofs.Runner.Passes
import LoadScenario.Proofs.Runner.Loops
import LoadScenario.Proofs.Runner.Attempts
import LoadScenario.Proofs.Runner.Retries
import LoadScenario.Proofs.Runner.Bounds
import LoadScenario.Proofs.Runner.Pacing
import LoadScenario.Proofs.Runner.Traced
import LoadScenario.Proofs.Runner.Cadence
import LoadScenario.Proofs.Session.Scopes
import LoadScenario.Proofs.Text.Search
import LoadScenario.Proofs.Expression.Templates
import LoadScenario.Proofs.Expression.Comparisons
import LoadScenario.Proofs.Json.Equality
import LoadScenario.Proofs.Engine.Seeds
import LoadScenario.Proofs.Runner.Lapses
import LoadScenario.Proofs.Prog.Ending
import LoadScenario.Proofs.Runner.Deadlines
