import TimedMachines.Behaviour
import TimedMachines.Bench
import TimedMachines.Builtin
import TimedMachines.CommandLine.Manual
import TimedMachines.CommandLine.Options
import TimedMachines.CommandLine.Program
import TimedMachines.Error
import TimedMachines.Event
import TimedMachines.EventQueue
import TimedMachines.Host.FileTree
import TimedMachines.Host.Simulation
import TimedMachines.Host.Ticker
import TimedMachines.Journal
import TimedMachines.Latch
import TimedMachines.Limits
import TimedMachines.Machine
import TimedMachines.Main
import TimedMachines.Program
import TimedMachines.Scheduler.Consensus
import TimedMachines.Scheduler.Pass
import TimedMachines.Scheduler.Report
import TimedMachines.Scheduler.State
import TimedMachines.Scheduler.Topology
import TimedMachines.Script.Command
import TimedMachines.Script.Reader
import TimedMachines.Script.Session
import TimedMachines.Table
import TimedMachines.Text.Blank
import TimedMachines.Text.CaseTable
import TimedMachines.Text.Decimal
import TimedMachines.Text.Duration
import TimedMachines.Text.Lines
import TimedMachines.Text.LowerCase
import TimedMachines.Text.Split
import TimedMachines.Timestamp
import TimedMachines.Proofs.BoundedList
import TimedMachines.Proofs.World
import TimedMachines.Proofs.Operation
import TimedMachines.Proofs.Pending
import TimedMachines.Proofs.Perpetual
import TimedMachines.Proofs.Alarm
import TimedMachines.Proofs.Wakeup
import TimedMachines.Proofs.Clock
import TimedMachines.Proofs.Tracked
import TimedMachines.Proofs.Agreement
import TimedMachines.Proofs.Punctual
import TimedMachines.Proofs.Epoch
import TimedMachines.Proofs.Unbounded
import TimedMachines.Proofs.Chronicle
import TimedMachines.Proofs.Delivery
import TimedMachines.Proofs.States
import TimedMachines.Proofs.Settling
import TimedMachines.Proofs.Patience
import TimedMachines.Proofs.ScriptProgress
import TimedMachines.Proofs.Parallel
import TimedMachines.Proofs.FreshStart
import TimedMachines.Proofs.Restart
import TimedMachines.Proofs.Decision
import TimedMachines.Proofs.Interlude
import TimedMachines.Proofs.Response
import TimedMachines.Proofs.Explanation
import TimedMachines.Proofs.Slumber
import TimedMachines.Proofs.Places
import TimedMachines.Proofs.Repose
import TimedMachines.Proofs.Lockstep
import TimedMachines.Proofs.Wording
import TimedMachines.Proofs.RoundTrip
import TimedMachines.Proofs.Outcome
import TimedMachines.Proofs.Timeouts
import TimedMachines.Proofs.Strides
import TimedMachines.Proofs.NewEpoch
import TimedMachines.Proofs.Leftovers
import TimedMachines.Proofs.Broadcast
import TimedMachines.Proofs.Declaration
import TimedMachines.Proofs.Inward
import TimedMachines.Proofs.Partition
import TimedMachines.Proofs.Rearrangement
import TimedMachines.Proofs.Expectation
import TimedMachines.Proofs.TimeLine
import TimedMachines.Proofs.Queues
import TimedMachines.Proofs.Sparsity
import TimedMachines.Proofs.StatusLine
import TimedMachines.Proofs.GuardedReader
import TimedMachines.Proofs.Recasing
import TimedMachines.Proofs.Layout
import TimedMachines.Proofs.LastWord
import TimedMachines.Proofs.Lookup
