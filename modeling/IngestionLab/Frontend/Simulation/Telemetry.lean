import IngestionLab.Frontend.Simulation

/-!
# What the simulation reports

The telemetry of `model/simulation.ts`: the totals of a simulation, and the rates of the
steps it remembers (`IngestionLab.Frontend.FixedStepSimulation.telemetry`). A rate is an
exact quotient here.
-/

namespace IngestionLab.Frontend

open JS

structure CapacityTelemetry where
  applied : ℕ
  preview : Option ℕ
  pending : Option ℕ
  deriving DecidableEq, Repr

structure ChannelTelemetry where
  capacity : CapacityTelemetry
  sentBatchesTotal : ℕ
  sentTransactionsTotal : ℕ
  receivedBatchesTotal : ℕ
  receivedTransactionsTotal : ℕ
  depthBatches : ℕ
  bufferedTransactions : ℕ
  handoffBatches : ℕ
  handoffBatchesTotal : ℕ
  blockedSenders : ℕ
  oldestBlockedSenderMs : ℕ
  blockedMsTotal : ℕ
  inputBatchesPerSecond : ℚ
  outputBatchesPerSecond : ℚ
  inputTransactionsPerSecond : ℚ
  outputTransactionsPerSecond : ℚ
  trend : ChannelTrend
  deriving DecidableEq, Repr

structure WorkerStateCounts where
  idle : ℕ
  inFlight : ℕ
  backoff : ℕ
  deriving DecidableEq, Repr

structure SenderTelemetry where
  workers : CapacityTelemetry
  workerStates : WorkerStateCounts
  drainingWorkerStates : WorkerStateCounts
  retryAttemptsStartedTotal : ℕ
  retryAttemptedTransactionsPerSecond : ℚ
  terminalFailedTransactionsPerSecond : ℚ
  terminalFailedBatchesTotal : ℕ
  terminalFailedTransactionsTotal : ℕ
  ambiguousTimeoutTransactionsTotal : ℕ
  duplicateRiskTransactionsTotal : ℕ
  ambiguousTerminalTransactionsTotal : ℕ
  deriving DecidableEq, Repr

structure HttpTelemetry where
  requestsStartedTotal : ℕ
  requestsCompletedTotal : ℕ
  requestsSucceededTotal : ℕ
  requestsFailedTotal : ℕ
  responsesRejectedTotal : ℕ
  requestsTimedOutTotal : ℕ
  networkErrorsTotal : ℕ
  successfulTransactionsTotal : ℕ
  failedAttemptTransactionsTotal : ℕ
  inFlightRequests : ℕ
  startedTransactionsPerSecond : ℚ
  completedTransactionsPerSecond : ℚ
  succeededTransactionsPerSecond : ℚ
  rejectedTransactionsPerSecond : ℚ
  latestStatusCode : Option Number
  lastOutcome : Option HttpOutcomeKind
  latestLatencyMs : Option ℕ
  latestResponseLatencyMs : Option ℕ
  deriving DecidableEq, Repr

structure SimulationTelemetry where
  elapsedMs : ℕ
  totalTransactions : ℕ
  limitedMs : ℕ
  readerCapacityTps : ℕ
  readerTransactionsPerSecond : ℚ
  admittedTransactionsPerSecond : ℚ
  attemptedTransactionsPerSecond : ℚ
  acceptedTransactionsPerSecond : ℚ
  rejectedTransactionsPerSecond : ℚ
  readerChannel : ChannelTelemetry
  senderChannel : ChannelTelemetry
  sender : SenderTelemetry
  http : HttpTelemetry
  deriving DecidableEq, Repr

/-- `telemetry` of a channel. -/
def StatefulChannel.telemetry (channel : StatefulChannel SimulationBatch)
    (activity : ChannelActivity) (rateSeconds : ℚ) (running : Bool) : ChannelTelemetry :=
  let perSecond (amount : ℕ) : ℚ := if rateSeconds = 0 then 0 else amount / rateSeconds
  let inputTransactionsPerSecond := perSecond activity.inputTransactions
  let outputTransactionsPerSecond := perSecond activity.outputTransactions
  { capacity :=
      { applied := channel.appliedCapacity
        preview := channel.previewCapacity
        pending := channel.pendingCapacity }
    sentBatchesTotal := channel.sentBatchesTotal
    sentTransactionsTotal := channel.sentTransactionsTotal
    receivedBatchesTotal := channel.receivedBatchesTotal
    receivedTransactionsTotal := channel.receivedTransactionsTotal
    depthBatches := channel.depthBatches
    bufferedTransactions := channel.bufferedTransactions SimulationBatch.transactions
    handoffBatches := if running then activity.handoffBatches else 0
    handoffBatchesTotal := channel.handoffBatchesTotal
    blockedSenders := if running then channel.blockedSenders else 0
    oldestBlockedSenderMs := if running then channel.blockedForMs else 0
    blockedMsTotal := channel.blockedMsTotal
    inputBatchesPerSecond := if running then perSecond activity.inputBatches else 0
    outputBatchesPerSecond := if running then perSecond activity.outputBatches else 0
    inputTransactionsPerSecond := if running then inputTransactionsPerSecond else 0
    outputTransactionsPerSecond := if running then outputTransactionsPerSecond else 0
    trend :=
      if !running then .steady
      else if outputTransactionsPerSecond < inputTransactionsPerSecond then .rising
      else if inputTransactionsPerSecond < outputTransactionsPerSecond then .falling
      else .steady }

/-- What has happened on a channel in two stretches of time. -/
def ChannelActivity.add (activity other : ChannelActivity) : ChannelActivity where
  inputBatches := activity.inputBatches + other.inputBatches
  inputTransactions := activity.inputTransactions + other.inputTransactions
  outputBatches := activity.outputBatches + other.outputBatches
  outputTransactions := activity.outputTransactions + other.outputTransactions
  handoffBatches := activity.handoffBatches + other.handoffBatches

/-- What has happened in two stretches of time. -/
def StepActivity.add (activity other : StepActivity) : StepActivity where
  readerChannel := activity.readerChannel.add other.readerChannel
  senderChannel := activity.senderChannel.add other.senderChannel
  httpStartedTransactions := activity.httpStartedTransactions + other.httpStartedTransactions
  httpRetryStartedTransactions :=
    activity.httpRetryStartedTransactions + other.httpRetryStartedTransactions
  httpCompletedTransactions := activity.httpCompletedTransactions + other.httpCompletedTransactions
  httpSucceededTransactions := activity.httpSucceededTransactions + other.httpSucceededTransactions
  httpRejectedTransactions := activity.httpRejectedTransactions + other.httpRejectedTransactions
  terminalFailedTransactions :=
    activity.terminalFailedTransactions + other.terminalFailedTransactions

namespace FixedStepSimulation

variable (sim : FixedStepSimulation)

/-- `aggregateActivity`. -/
def aggregateActivity : StepActivity := sim.activities.foldl StepActivity.add {}

/-- `workerStateCounts`, of the workers that stay or of those that are to go. -/
def workerStateCounts (retiring : Bool) : WorkerStateCounts :=
  let workers := sim.workers.filter (·.retiring = retiring)
  { idle := workers.countP (·.state = .idle)
    inFlight := workers.countP SenderWorker.isInFlight
    backoff := workers.countP fun worker => match worker.state with
      | .backoff _ => true
      | _ => false }

/-- **`telemetry`.** -/
def telemetry (running : Bool) : SimulationTelemetry :=
  let aggregate := sim.aggregateActivity
  let rateSeconds : ℚ := (rateWindowSteps * fixedStepMs : ℕ) / 1000
  let readerChannel := sim.readerChannel.telemetry aggregate.readerChannel rateSeconds running
  let senderChannel := sim.senderChannel.telemetry aggregate.senderChannel rateSeconds running
  let divisor := if rateSeconds = 0 then 1 else rateSeconds
  let rate (transactions : ℕ) : ℚ := if running then transactions / divisor else 0
  let workerStates := sim.workerStateCounts false
  let drainingWorkerStates := sim.workerStateCounts true
  { elapsedMs := sim.elapsedMs
    totalTransactions := sim.readerChannel.receivedTransactionsTotal
    limitedMs := sim.limitedMs
    readerCapacityTps := sim.readerCapacityTps
    readerTransactionsPerSecond := readerChannel.inputTransactionsPerSecond
    admittedTransactionsPerSecond := readerChannel.outputTransactionsPerSecond
    attemptedTransactionsPerSecond := rate aggregate.httpStartedTransactions
    acceptedTransactionsPerSecond := rate aggregate.httpSucceededTransactions
    rejectedTransactionsPerSecond := rate aggregate.httpRejectedTransactions
    readerChannel
    senderChannel
    sender :=
      { workers :=
          { applied := sim.workers.length
            preview := none
            pending := if sim.workers.length = sim.config.senderWorkers then none
              else some sim.config.senderWorkers }
        workerStates
        drainingWorkerStates
        retryAttemptsStartedTotal := sim.totals.retryAttemptStartedTotal
        retryAttemptedTransactionsPerSecond := rate aggregate.httpRetryStartedTransactions
        terminalFailedTransactionsPerSecond := rate aggregate.terminalFailedTransactions
        terminalFailedBatchesTotal := sim.totals.terminalFailedBatchesTotal
        terminalFailedTransactionsTotal := sim.totals.terminalFailedTransactionsTotal
        ambiguousTimeoutTransactionsTotal := sim.totals.ambiguousTimeoutTransactionsTotal
        duplicateRiskTransactionsTotal := sim.totals.duplicateRiskTransactionsTotal
        ambiguousTerminalTransactionsTotal := sim.totals.ambiguousTerminalTransactionsTotal }
    http :=
      { requestsStartedTotal := sim.totals.requestStartedTotal
        requestsCompletedTotal := sim.totals.requestCompletedTotal
        requestsSucceededTotal := sim.totals.requestSucceededTotal
        requestsFailedTotal := sim.totals.requestFailedTotal
        responsesRejectedTotal := sim.totals.responseRejectedTotal
        requestsTimedOutTotal := sim.totals.requestTimedOutTotal
        networkErrorsTotal := sim.totals.networkErrorTotal
        successfulTransactionsTotal := sim.totals.successfulTransactionsTotal
        failedAttemptTransactionsTotal := sim.totals.failedAttemptTransactionsTotal
        inFlightRequests := workerStates.inFlight + drainingWorkerStates.inFlight
        startedTransactionsPerSecond := rate aggregate.httpStartedTransactions
        completedTransactionsPerSecond := rate aggregate.httpCompletedTransactions
        succeededTransactionsPerSecond := rate aggregate.httpSucceededTransactions
        rejectedTransactionsPerSecond := rate aggregate.httpRejectedTransactions
        latestStatusCode := sim.totals.latestStatusCode
        lastOutcome := sim.totals.lastOutcome
        latestLatencyMs := sim.totals.latestLatencyMs
        latestResponseLatencyMs := sim.totals.latestResponseLatencyMs } }

end FixedStepSimulation

end IngestionLab.Frontend
