import IngestionLab.Machine.Run
import IngestionLab.Machine.Cells
import IngestionLab.Machine.Relay
import IngestionLab.Machine.Pacing
import IngestionLab.Machine.Thread
import IngestionLab.Machine.Throwing
import IngestionLab.Machine.Tally
import IngestionLab.Machine.RoundRobin
import IngestionLab.Machine.Stopwatch
import IngestionLab.Machine.Spans
import IngestionLab.Machine.Potential
import IngestionLab.Machine.Calls
import IngestionLab.Machine.Ranking
import IngestionLab.Json
import IngestionLab.JS.Number
import IngestionLab.JS.Double
import IngestionLab.JS.Value
import IngestionLab.Go.Arith
import IngestionLab.Go.Chan
import IngestionLab.Go.Mailbox
import IngestionLab.Go.Filepath
import IngestionLab.Go.Filepath.Rooted
import IngestionLab.Go.Glob
import IngestionLab.Go.Json
import IngestionLab.Go.Decode
import IngestionLab.Go.Http
import IngestionLab.Loadgen.Telemetry
import IngestionLab.Loadgen.Telemetry.Accounting
import IngestionLab.Loadgen.Config
import IngestionLab.Loadgen.Config.Valid
import IngestionLab.Loadgen.Status
import IngestionLab.Loadgen.ReaderPool
import IngestionLab.Loadgen.ReaderPool.Steps
import IngestionLab.Loadgen.ReaderPool.Size
import IngestionLab.Loadgen.ReaderPool.ReadFile
import IngestionLab.Loadgen.ReaderPool.SourcePath
import IngestionLab.Loadgen.ReaderPool.Claims
import IngestionLab.Loadgen.ReaderPool.SourceErrors
import IngestionLab.Loadgen.ReaderPool.Rows
import IngestionLab.Loadgen.Throttler
import IngestionLab.Loadgen.Throttler.Order
import IngestionLab.Loadgen.Throttler.Pace
import IngestionLab.Loadgen.Timing
import IngestionLab.Loadgen.SenderPool
import IngestionLab.Loadgen.SenderPool.Steps
import IngestionLab.Loadgen.SenderPool.Moves
import IngestionLab.Loadgen.SenderPool.Size
import IngestionLab.Loadgen.SenderPool.Custody
import IngestionLab.Loadgen.SenderPool.Shutdown
import IngestionLab.Loadgen.SenderPool.Join
import IngestionLab.Loadgen.SenderPool.Gate
import IngestionLab.Loadgen.SenderPool.Retry
import IngestionLab.Loadgen.SenderPool.Settled
import IngestionLab.Loadgen.SenderPool.Attempts
import IngestionLab.Loadgen.Pipeline
import IngestionLab.Loadgen.Pipeline.Ended
import IngestionLab.Loadgen.EventLoop
import IngestionLab.Loadgen.EventLoop.Programs
import IngestionLab.Loadgen.EventLoop.Held
import IngestionLab.Loadgen.EventLoop.Teardown
import IngestionLab.Loadgen.EventLoop.Accounting
import IngestionLab.Loadgen.EventLoop.Applied
import IngestionLab.Loadgen.EventLoop.Configured
import IngestionLab.Loadgen.EventLoop.Answers
import IngestionLab.Loadgen.EventLoop.Paused
import IngestionLab.Loadgen.EventLoop.Elapsed
import IngestionLab.Loadgen.EventLoop.FailedStart
import IngestionLab.Loadgen.EventLoop.Measured
import IngestionLab.Loadgen.EventLoop.Shown
import IngestionLab.Loadgen.EventLoop.Reported
import IngestionLab.Loadgen.EventLoop.Lifeline
import IngestionLab.Loadgen.EventLoop.Credits
import IngestionLab.Loadgen.EventLoop.Panel
import IngestionLab.Loadgen.ReaderPool.Ahead
import IngestionLab.Loadgen.SenderPool.Leaving
import IngestionLab.Loadgen.SenderPool.Ahead
import IngestionLab.Loadgen.Throttler.Responsive
import IngestionLab.Loadgen.Throttler.Ahead
import IngestionLab.Loadgen.EventLoop.Waits
import IngestionLab.Loadgen.EventLoop.Progress
import IngestionLab.Loadgen.EventLoop.Bounded
import IngestionLab.Loadgen.Pipeline.Flow
import IngestionLab.Loadgen.Pipeline.Rows
import IngestionLab.Loadgen.Pipeline.Limit
import IngestionLab.Loadgen.HttpCommands
import IngestionLab.Loadgen.Requests
import IngestionLab.Loadgen.Requests.Served
import IngestionLab.Loadgen.HttpSnapshot
import IngestionLab.Loadgen.CliRemote
import IngestionLab.Loadgen.HttpInternalTestEndpoint
import IngestionLab.Loadgen.SenderHttp
import IngestionLab.Receiver.Server
import IngestionLab.Receiver.Counters
import IngestionLab.Frontend.Loadgen
import IngestionLab.Frontend.ChannelFlowState
import IngestionLab.Frontend.ChannelFlowState.Motion
import IngestionLab.Frontend.HttpSnapshot
import IngestionLab.Frontend.ThrottlerValve
import IngestionLab.Frontend.ChannelCableGeometry
import IngestionLab.Frontend.ChannelCableGeometry.Capacity
import IngestionLab.Frontend.ChannelCableGeometry.Forbidden
import IngestionLab.Frontend.HttpConfig
import IngestionLab.Frontend.HttpDecode
import IngestionLab.Frontend.HttpCommands
import IngestionLab.Frontend.HttpAdapter
import IngestionLab.Frontend.HttpAdapter.Commands
import IngestionLab.Frontend.HttpAdapter.Discipline
import IngestionLab.Frontend.UseLoadgenSnapshot
import IngestionLab.Frontend.UseDesiredControl
import IngestionLab.Frontend.Simulation
import IngestionLab.Frontend.Simulation.Accounts
import IngestionLab.Frontend.Simulation.Steps
import IngestionLab.Frontend.Simulation.Conservation
import IngestionLab.Frontend.Simulation.Moves
import IngestionLab.Frontend.Simulation.Order
import IngestionLab.Frontend.Simulation.AfterDrain
import IngestionLab.Frontend.Simulation.Tokens
import IngestionLab.Frontend.Simulation.Scaling
import IngestionLab.Frontend.Simulation.Telemetry
import IngestionLab.Frontend.SimulationAdapter
import IngestionLab.Frontend.SimulationAdapter.Ticks
import IngestionLab.Wire.Config
import IngestionLab.Wire.Valve
import IngestionLab.Wire.Commands
import IngestionLab.Wire.Ingest
import IngestionLab.Wire.Batch
import IngestionLab.Wire.Delivery
import IngestionLab.Wire.Snapshot
