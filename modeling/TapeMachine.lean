import TapeMachine.Machine.Calls
import TapeMachine.Machine.Cost
import TapeMachine.Machine.Scanner
import TapeMachine.Machine.Trace
import TapeMachine.Main
import TapeMachine.Session
import TapeMachine.Stream.Reliable
import TapeMachine.Stream.Script.Fault
import TapeMachine.Proofs.Partners
import TapeMachine.Proofs.Table
import TapeMachine.Proofs.Depth
import TapeMachine.Proofs.Verdict
import TapeMachine.Proofs.Parse
import TapeMachine.Proofs.Matching
import TapeMachine.Proofs.Rejection
import TapeMachine.Proofs.Steps
import TapeMachine.Proofs.Reachable
import TapeMachine.Proofs.Pipe
import TapeMachine.Proofs.Row
import TapeMachine.Proofs.Safety
import TapeMachine.Proofs.Scanner
import TapeMachine.Proofs.Execution
import TapeMachine.Proofs.Retry
import TapeMachine.Proofs.Cuts
import TapeMachine.Proofs.Interval
import TapeMachine.Proofs.Sequence
import TapeMachine.Proofs.FlushOrder
import TapeMachine.Proofs.Stops
import TapeMachine.Proofs.Budget
import TapeMachine.Proofs.Cancel
import TapeMachine.Proofs.Counts
import TapeMachine.Proofs.Together
import TapeMachine.Proofs.Console
import TapeMachine.Proofs.Command
import TapeMachine.Proofs.FailingStreams
import TapeMachine.Proofs.Canonical
import TapeMachine.Proofs.Loops
import TapeMachine.Proofs.Spacing
import TapeMachine.Proofs.Excerpt
import TapeMachine.Proofs.DeadLoop
import TapeMachine.Proofs.EndOfInput
import TapeMachine.Proofs.Symmetry
import TapeMachine.Proofs.UnreadInput
import TapeMachine.Proofs.Interruptions
import TapeMachine.Proofs.Load
import TapeMachine.Proofs.Numerals
