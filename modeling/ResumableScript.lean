import ResumableScript.Main
import ResumableScript.Proofs.Engine.Session
import ResumableScript.Proofs.Evaluation.Budget
import ResumableScript.Proofs.Run.History
import ResumableScript.Proofs.Run.Recovery
import ResumableScript.Proofs.Evaluation.Invariant
import ResumableScript.Proofs.Engine.Journal
import ResumableScript.Proofs.Engine.Boundary
import ResumableScript.Proofs.Run.Conduct
import ResumableScript.Proofs.Run.WriteAhead
import ResumableScript.Proofs.Run.Boundary
import ResumableScript.Proofs.Json.OneLine
import ResumableScript.Proofs.Run.Preamble
import ResumableScript.Proofs.Evaluation.Clock
import ResumableScript.Proofs.Worker.Backends
import ResumableScript.Proofs.Json.Nesting
import ResumableScript.Proofs.Engine.Acceptance
import ResumableScript.Proofs.Evaluation.Continuing
import ResumableScript.Proofs.Engine.Resumption
import ResumableScript.Proofs.Run.Still
import ResumableScript.Proofs.Run.Parsing
import ResumableScript.Proofs.Run.Resumption
import ResumableScript.Proofs.Script.Written
import ResumableScript.Proofs.Script.Exactness
import ResumableScript.Proofs.Worker.Registry
import ResumableScript.Proofs.Run.Exchange
import ResumableScript.Proofs.Run.Steering
import ResumableScript.Proofs.Worker.Stream
import ResumableScript.Proofs.Json.Fields
import ResumableScript.Proofs.Worker.Wire
import ResumableScript.Proofs.Run.Durable
import ResumableScript.Proofs.Run.PrintedLines
import ResumableScript.Proofs.Evaluation.Widening
import ResumableScript.Proofs.Engine.Chain
import ResumableScript.Proofs.Worker.Settlement
import ResumableScript.Proofs.Run.Arguments
import ResumableScript.Proofs.Run.Answers
import ResumableScript.Proofs.Script.Position
import ResumableScript.Proofs.Script.Sequence
import ResumableScript.Proofs.Run.Joining
import ResumableScript.Proofs.Builtin.Arithmetic
import ResumableScript.Proofs.Double.Nearest
import ResumableScript.Proofs.Double.Integers
import ResumableScript.Proofs.Builtin.Comparison
import ResumableScript.Proofs.Run.Callable
import ResumableScript.Proofs.Json.Pretty
import ResumableScript.Proofs.Json.Fuel
import ResumableScript.Proofs.Double.Value
import ResumableScript.Proofs.Script.Conversion
import ResumableScript.Proofs.Evaluation.Depth
import ResumableScript.Proofs.Engine.Depth
import ResumableScript.Proofs.Evaluation.Apart
import ResumableScript.Proofs.Evaluation.Rethrowing
import ResumableScript.Proofs.Engine.Sourced
import ResumableScript.Proofs.Engine.Rethrowing
import ResumableScript.Proofs.Engine.StoredText
import ResumableScript.Proofs.Script.Cursor
import ResumableScript.Proofs.Script.Place
import ResumableScript.Proofs.Script.Scanning
