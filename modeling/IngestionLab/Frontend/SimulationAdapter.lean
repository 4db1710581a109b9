import IngestionLab.Frontend.Simulation.Telemetry

/-!
# The simulation adapter

The model of `adapters/SimulationAdapter.ts`: a simulation that is advanced with the
clock, by a timer that ticks and by the commands that are dispatched, and the snapshot that
is published of it (`IngestionLab.Frontend.freezeSnapshot`).

Times are milliseconds of the clock, which an event reads once. The timer may tick at any
time; when it does is not the adapter's choice. Who listens to the snapshots is left out.
One field only observes the code: how many steps have been made since the last reset.
-/

namespace IngestionLab.Frontend

open JS

/-- `NumericRange`. -/
structure NumericRange where
  min : ℕ
  max : ℕ
  step : ℕ

/-! ### The ranges of the controls -/

namespace ControlRanges

def readerWorkers : NumericRange := ⟨1, 7, 1⟩
def senderWorkers : NumericRange := ⟨1, 32, 1⟩
def requestedTps : NumericRange := ⟨0, 250000, 5000⟩
def readerChannelCapacity : NumericRange := ⟨0, 12, 1⟩
def senderChannelCapacity : NumericRange := ⟨0, 160, 10⟩
def readBatchSize : NumericRange := ⟨1000, 100000, 1000⟩
def httpTimeoutMs : NumericRange := ⟨10, 5000, 10⟩

end ControlRanges

/-- `normalizeNumericValue`, of a finite number. What it makes of it is not negative. -/
def normalizeNumericValue (value : ℚ) (range : NumericRange) : ℕ :=
  let bounded : ℚ := min range.max (max range.min value)
  let stepped : ℤ := range.min + mathRound ((bounded - range.min) / range.step) * range.step
  (min (range.max : ℤ) (max range.min stepped)).toNat

/-! ### The snapshot -/

/-- `TARGET_ENDPOINT`. -/
def targetEndpoint : String := "http://target:8080/ingest"

/-- `RETRY_JITTER_PERCENT`. -/
def retryJitterPercent : ℕ := 20

/-- `RETRY_POLICY`. -/
def retryPolicy : RetryPolicySnapshot where
  maxAttempts := retryMaxAttempts
  backoffBaseMs := retryBackoffBaseMs
  backoffMultiplier := retryBackoffMultiplier
  jitterPercent := retryJitterPercent
  retryableStatusCodes := retryableStatusCodes.map fun code => (code : Number)
  retryTimeouts := true

/-- `Math.round` of a rate. -/
def rounded (rate : ℚ) : Number := .finite (mathRound rate)

/-- `numericControl`. -/
def numericControl (applied : ℚ) (range : NumericRange) (unit : String)
    (preview pending : Option ℕ) : NumericControlSnapshot where
  applied := some (.finite applied)
  preview := preview.map fun n => (n : Number)
  pending := pending.map fun n => (n : Number)
  min := range.min
  max := range.max
  step := range.step
  unit := unit
  applyMode := .immediate

/-- `capacityControl`. -/
def capacityControl (capacity : CapacityTelemetry) (range : NumericRange) :
    NumericControlSnapshot :=
  numericControl capacity.applied range "batches" capacity.preview capacity.pending

/-- `freezeChannelSnapshot`. -/
def freezeChannelSnapshot (channel : ChannelTelemetry) (id : ChannelId) (range : NumericRange) :
    ChannelTelemetrySnapshot where
  id := id
  capacity := capacityControl channel.capacity range
  sentBatchesTotal := channel.sentBatchesTotal
  sentTransactionsTotal := channel.sentTransactionsTotal
  receivedBatchesTotal := channel.receivedBatchesTotal
  receivedTransactionsTotal := channel.receivedTransactionsTotal
  depthBatches := some channel.depthBatches
  bufferedTransactions := some channel.bufferedTransactions
  handoffBatches := channel.handoffBatches
  handoffBatchesTotal := channel.handoffBatchesTotal
  blockedSenders := channel.blockedSenders
  oldestBlockedSenderMs := channel.oldestBlockedSenderMs
  inputBatchesPerSecond := rounded channel.inputBatchesPerSecond
  outputBatchesPerSecond := rounded channel.outputBatchesPerSecond
  inputTransactionsPerSecond := rounded channel.inputTransactionsPerSecond
  outputTransactionsPerSecond := rounded channel.outputTransactionsPerSecond
  inputTps := some (rounded channel.inputTransactionsPerSecond)
  outputTps := some (rounded channel.outputTransactionsPerSecond)
  throughputTps := some (rounded channel.outputTransactionsPerSecond)
  blockedMs := some channel.blockedMsTotal
  trend := channel.trend

/-- **`freezeSnapshot`.** -/
def freezeSnapshot (revision : ℕ) (runState : RunState) (simulation : FixedStepSimulation) :
    LoadgenTelemetrySnapshot :=
  let running : Bool := runState = .running
  let readerPoolLive : Bool := runState ≠ .idle
  let telemetry := simulation.telemetry running
  let config := simulation.config
  let readerCapacityTps := telemetry.readerCapacityTps
  let readerReadTps := mathRound telemetry.readerTransactionsPerSecond
  let senderWorkerStates := telemetry.sender.workerStates
  let drainingSenderWorkerStates := telemetry.sender.drainingWorkerStates
  let drainingWorkers := drainingSenderWorkerStates.idle + drainingSenderWorkerStates.inFlight +
    drainingSenderWorkerStates.backoff
  let whileRunning (n : ℕ) : Number := if running then n else (0 : ℕ)
  let latency (latencyMs : Option ℕ) : Option Number :=
    match latencyMs with
    | some ms => some ms
    | none => if running then none else some (0 : ℕ)
  { revision
    adapterKind := .simulation
    connectionState := .connected
    runState
    elapsedMs := telemetry.elapsedMs
    totalTransactions := telemetry.totalTransactions
    config := none
    reader :=
      { workers := numericControl config.readerWorkers ControlRanges.readerWorkers "workers"
          none none
        liveWorkers := if readerPoolLive then config.readerWorkers else (0 : ℕ)
        idleWorkers := if readerPoolLive && readerReadTps = 0 then config.readerWorkers else (0 : ℕ)
        readingWorkers := if readerPoolLive && 0 < readerReadTps then config.readerWorkers
          else (0 : ℕ)
        blockedWorkers := (0 : ℕ)
        drainingWorkers := (0 : ℕ)
        drainingIdleWorkers := (0 : ℕ)
        drainingReadingWorkers := (0 : ℕ)
        drainingBlockedWorkers := (0 : ℕ)
        readBatchSize := numericControl config.readBatchSize ControlRanges.readBatchSize "tx"
          none none
        readTps := some (.finite readerReadTps)
        configuredCapacityTps := some readerCapacityTps
        limitationReason :=
          if running && 0 < telemetry.readerChannel.blockedSenders &&
            readerReadTps < readerCapacityTps then some .downstreamBackpressure else none
        rowsRead := some telemetry.readerChannel.sentTransactionsTotal
        sourceDirectory := none
        sourceError := none
        state := runState }
    throttler :=
      { requestedTps := numericControl config.requestedTps ControlRanges.requestedTps "tx/s"
          none none
        installed :=
          { applied := some config.throttlerInstalled
            pending := none
            applyMode := .immediate
            writable := true
            unavailableReason := none }
        admittedTps := some (rounded telemetry.admittedTransactionsPerSecond)
        limitedMs := some telemetry.limitedMs
        state := runState }
    readerChannel := freezeChannelSnapshot telemetry.readerChannel .readerToThrottler
      ControlRanges.readerChannelCapacity
    senderChannel := freezeChannelSnapshot telemetry.senderChannel .throttlerToSender
      ControlRanges.senderChannelCapacity
    sender :=
      { workers := numericControl config.senderWorkers ControlRanges.senderWorkers "workers"
          none none
        liveWorkers := whileRunning telemetry.sender.workers.applied
        idleWorkers := whileRunning (senderWorkerStates.idle + drainingSenderWorkerStates.idle)
        inFlightWorkers :=
          whileRunning (senderWorkerStates.inFlight + drainingSenderWorkerStates.inFlight)
        backoffWorkers :=
          whileRunning (senderWorkerStates.backoff + drainingSenderWorkerStates.backoff)
        drainingWorkers := whileRunning drainingWorkers
        drainingIdleWorkers := whileRunning drainingSenderWorkerStates.idle
        drainingInFlightWorkers := whileRunning drainingSenderWorkerStates.inFlight
        drainingBackoffWorkers := whileRunning drainingSenderWorkerStates.backoff
        timeoutMs := numericControl config.httpTimeoutMs ControlRanges.httpTimeoutMs "ms" none none
        retryPolicy := some retryPolicy
        attemptedTps := some (rounded telemetry.attemptedTransactionsPerSecond)
        retryAttemptedTps := some (rounded telemetry.sender.retryAttemptedTransactionsPerSecond)
        terminalFailedTps := some (rounded telemetry.sender.terminalFailedTransactionsPerSecond)
        inFlightRequests := some telemetry.http.inFlightRequests
        attemptsStartedTotal := telemetry.http.requestsStartedTotal
        retryAttemptsStartedTotal := telemetry.sender.retryAttemptsStartedTotal
        successfulResponses := some telemetry.http.requestsSucceededTotal
        failedResponses := some telemetry.http.responsesRejectedTotal
        retries := some telemetry.sender.retryAttemptsStartedTotal
        timeoutsTotal := telemetry.http.requestsTimedOutTotal
        terminalFailedBatchesTotal := telemetry.sender.terminalFailedBatchesTotal
        terminalFailedTransactionsTotal := telemetry.sender.terminalFailedTransactionsTotal
        ambiguousTimeoutTransactionsTotal := telemetry.sender.ambiguousTimeoutTransactionsTotal
        duplicateRiskTransactionsTotal := telemetry.sender.duplicateRiskTransactionsTotal
        ambiguousTerminalTransactionsTotal := telemetry.sender.ambiguousTerminalTransactionsTotal
        state := runState }
    http :=
      { connectionState := .connected
        statusCode := telemetry.http.latestStatusCode
        lastOutcome := telemetry.http.lastOutcome
        throughputTps := some (rounded telemetry.http.startedTransactionsPerSecond)
        inFlightRequests := some telemetry.http.inFlightRequests
        requestsStartedTotal := telemetry.http.requestsStartedTotal
        requestsCompletedTotal := telemetry.http.requestsCompletedTotal
        requestsSucceededTotal := telemetry.http.requestsSucceededTotal
        requestsFailedTotal := telemetry.http.requestsFailedTotal
        requestsTimedOutTotal := telemetry.http.requestsTimedOutTotal
        networkErrorsTotal := telemetry.http.networkErrorsTotal
        latencyP95Ms := latency telemetry.http.latestLatencyMs }
    target :=
      { endpoint := some targetEndpoint
        acceptedTps := some (rounded telemetry.acceptedTransactionsPerSecond)
        rejectedTps := some (rounded telemetry.rejectedTransactionsPerSecond)
        latencyP95Ms := latency telemetry.http.latestResponseLatencyMs
        http200Responses := some telemetry.http.requestsSucceededTotal
        http503Responses := some simulation.totals.http503ResponseTotal
        connectionState := .connected } }

/-! ### The adapter -/

/-- The configuration a simulation of the adapter starts with. -/
def adapterSimulationConfig : SimulationConfig where
  readerWorkers := 4
  senderWorkers := 3
  requestedTps := 120000
  throttlerInstalled := true
  readBatchSize := 25000
  httpTimeoutMs := 500
  targetDelayMs := 40
  targetErrorRatePercent := 2

/-- **`SimulationAdapter`**, with the number of steps made since the last reset. -/
structure SimulationAdapter where
  revision : ℕ := 0
  runState : RunState := .idle
  simulation : FixedStepSimulation := createSimulation adapterSimulationConfig 4 100
  snapshot : LoadgenTelemetrySnapshot :=
    freezeSnapshot 0 .idle (createSimulation adapterSimulationConfig 4 100)
  lastTickMs : ℕ
  pendingStepMs : ℕ := 0
  commandSequence : ℕ := 0
  disposed : Bool := false
  steps : ℕ := 0

namespace SimulationAdapter

variable (adapter : SimulationAdapter) (now : ℕ)

/-- `publish`. -/
def publish : SimulationAdapter :=
  let revision := adapter.revision + 1
  { adapter with
    revision
    snapshot := freezeSnapshot revision adapter.runState adapter.simulation }

/-- Steps of the simulation; one that throws leaves the state it has come to. -/
def advanceSteps (steps : ℕ) (simulation : FixedStepSimulation) : FixedStepSimulation :=
  (fun simulation => simulation.perform none .advanceStep)^[steps] simulation

/-- **`advanceToNow`**; whether a step has been made. -/
def advanceToNow : SimulationAdapter × Bool :=
  let deltaMs := now - adapter.lastTickMs
  let adapter := { adapter with lastTickMs := now }
  if adapter.runState ≠ .running ∨ deltaMs = 0 then (adapter, false)
  else
    let pendingStepMs := adapter.pendingStepMs + deltaMs
    let steps := pendingStepMs / fixedStepMs
    ({ adapter with
        simulation := advanceSteps steps adapter.simulation
        pendingStepMs := pendingStepMs - steps * fixedStepMs
        steps := adapter.steps + steps },
      0 < steps)

/-- `tick`. -/
def tick : SimulationAdapter :=
  if adapter.disposed = true ∨ adapter.runState ≠ .running then { adapter with lastTickMs := now }
  else
    let (adapter, advanced) := adapter.advanceToNow now
    if advanced then adapter.publish else adapter

/-- `updateConfig` and `updateInstalled`, which ask first whether there is anything to
change; whether anything has changed. -/
def updateConfig (same : SimulationConfig → Bool) (values : FixedStepSimulation.PartialConfig) :
    SimulationAdapter × Bool :=
  let (adapter, advanced) := adapter.advanceToNow now
  if same adapter.simulation.config then (adapter, advanced)
  else ({ adapter with simulation := adapter.simulation.updateConfig values }, true)

/-- The request of a capacity; whether anything has changed. -/
def requestChannelCapacity (channel : ChannelId) (capacity : ℕ) : SimulationAdapter × Bool :=
  let (adapter, advanced) := adapter.advanceToNow now
  let (simulation, changed) := adapter.simulation.requestChannelCapacity channel capacity
  ({ adapter with simulation }, changed || advanced)

/-- `resetRunState`; whether anything has changed. -/
def resetRunState : SimulationAdapter × Bool :=
  let telemetry := adapter.simulation.telemetry false
  let changed : Bool := adapter.runState ≠ .idle ∨ telemetry.elapsedMs ≠ 0 ∨
    telemetry.readerChannel.sentBatchesTotal ≠ 0 ∨ telemetry.senderChannel.sentBatchesTotal ≠ 0 ∨
    telemetry.http.requestsStartedTotal ≠ 0 ∨ telemetry.readerChannel.capacity.pending ≠ none ∨
    telemetry.senderChannel.capacity.pending ≠ none
  ({ adapter with
      runState := .idle
      simulation := adapter.simulation.reset
      pendingStepMs := 0
      lastTickMs := now
      steps := 0 },
    changed)

/-- `reject`. -/
def reject (command : LoadgenCommand) (error : AdapterError) : CommandReceipt where
  commandId := "simulation-" ++ toString adapter.commandSequence
  commandType := command.type
  accepted := false
  applyMode := .unavailable
  appliedAtMs := none
  snapshotRevision := adapter.snapshot.revision
  error := some error

/-- `rejectInvalidNumber`. -/
def rejectInvalidNumber (command : LoadgenCommand) (field : String) : CommandReceipt :=
  adapter.reject command
    { code := .invalidCommand, message := field ++ " must be a finite number", retryable := false }

/-- The end of `dispatch`, where the command is accepted. -/
def accept (command : LoadgenCommand) (result : SimulationAdapter × Bool) :
    SimulationAdapter × CommandReceipt :=
  let (adapter, changed) := result
  let adapter := if changed then adapter.publish else adapter
  (adapter,
    { commandId := "simulation-" ++ toString adapter.commandSequence
      commandType := command.type
      accepted := true
      applyMode := .immediate
      appliedAtMs := some now
      snapshotRevision := adapter.snapshot.revision
      error := none })

/-- A command with a number that must be finite. -/
def acceptFinite (command : LoadgenCommand) (field : String) (value : Number)
    (result : ℚ → SimulationAdapter × Bool) : SimulationAdapter × CommandReceipt :=
  match value with
  | .finite value => accept now command (result value)
  | _ => (adapter, adapter.rejectInvalidNumber command field)

/-- **`dispatch`.** -/
def dispatch (command : LoadgenCommand) : SimulationAdapter × CommandReceipt :=
  let adapter := { adapter with commandSequence := adapter.commandSequence + 1 }
  if adapter.disposed then
    (adapter, adapter.reject command
      { code := .disposed, message := "simulation adapter is disposed", retryable := false })
  else match command with
    | .run =>
      accept now command <|
        if adapter.runState = .running then adapter.advanceToNow now
        else ({ adapter with
          runState := .running
          simulation := adapter.simulation.clearInstantaneousTelemetry
          lastTickMs := now }, true)
    | .pause =>
      accept now command <|
        let (adapter, advanced) := adapter.advanceToNow now
        if adapter.runState ≠ .paused then ({ adapter with runState := .paused }, true)
        else (adapter, advanced)
    | .reset =>
      if adapter.runState = .running then
        (adapter, adapter.reject command
          { code := .invalidState
            message := "reset is only available while idle or paused"
            retryable := false })
      else accept now command (adapter.resetRunState now)
    | .setRequestedTps value =>
      adapter.acceptFinite now command "requested tps" value fun value =>
        let tps := normalizeNumericValue value ControlRanges.requestedTps
        adapter.updateConfig now (·.requestedTps = tps) { requestedTps := some tps }
    | .setThrottlerInstalled value =>
      accept now command <|
        adapter.updateConfig now (·.throttlerInstalled = value) { throttlerInstalled := some value }
    | .setWorkerCount value =>
      adapter.acceptFinite now command "worker count" value fun value =>
        let workers := normalizeNumericValue value ControlRanges.readerWorkers
        adapter.updateConfig now (·.readerWorkers = workers) { readerWorkers := some workers }
    | .setSenderWorkers value =>
      adapter.acceptFinite now command "sender workers" value fun value =>
        let workers := normalizeNumericValue value ControlRanges.senderWorkers
        adapter.updateConfig now (·.senderWorkers = workers) { senderWorkers := some workers }
    | .setReaderChannelCapacity value =>
      adapter.acceptFinite now command "channel capacity" value fun value =>
        adapter.requestChannelCapacity now .readerToThrottler
          (normalizeNumericValue value ControlRanges.readerChannelCapacity)
    | .setSenderChannelCapacity value =>
      adapter.acceptFinite now command "channel capacity" value fun value =>
        adapter.requestChannelCapacity now .throttlerToSender
          (normalizeNumericValue value ControlRanges.senderChannelCapacity)
    | .setReadBatchSize value =>
      adapter.acceptFinite now command "read batch size" value fun value =>
        let size := normalizeNumericValue value ControlRanges.readBatchSize
        adapter.updateConfig now (·.readBatchSize = size) { readBatchSize := some size }
    | .setHttpTimeout valueMs =>
      adapter.acceptFinite now command "http timeout" valueMs fun valueMs =>
        let timeoutMs := normalizeNumericValue valueMs ControlRanges.httpTimeoutMs
        adapter.updateConfig now (·.httpTimeoutMs = timeoutMs) { httpTimeoutMs := some timeoutMs }

/-- `dispose`. -/
def dispose : SimulationAdapter := { adapter with disposed := true }

end SimulationAdapter

/-! ### The machine -/

namespace SimulationAdapter

/-- The constructor of `SimulationAdapter`. -/
def create (now : ℕ) : SimulationAdapter where
  lastTickMs := now

/-- What happens to an adapter, and when. -/
inductive Event
  | tick (now : ℕ)
  | dispatch (now : ℕ) (command : LoadgenCommand)
  | dispose (now : ℕ)
  deriving DecidableEq

/-- When it happens. -/
def Event.now : Event → ℕ
  | .tick now | .dispatch now _ | .dispose now => now

/-- It is not a tick of the timer. -/
def Event.isAsked : Event → Bool
  | .tick _ => false
  | _ => true

/-- What an event does. -/
def perform (adapter : SimulationAdapter) : Event → SimulationAdapter
  | .tick now => adapter.tick now
  | .dispatch now command => (adapter.dispatch now command).1
  | .dispose _ => adapter.dispose

/-- **The adapter as a machine.** -/
def machine : Machine SimulationAdapter Event where
  Enabled _ _ := True
  next := perform

end SimulationAdapter

end IngestionLab.Frontend
