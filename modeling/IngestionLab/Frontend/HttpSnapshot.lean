import IngestionLab.Frontend.Loadgen

/-!
# The snapshots of the HTTP adapter

The first half of `adapters/HttpAdapter.ts`: what the load generator sends, decoded
(`IngestionLab.Frontend.WireSnapshot`), and the snapshot that is made of it
(`IngestionLab.Frontend.createSnapshot`).
-/

namespace IngestionLab.Frontend

open JS

/-! ### What has been decoded -/

structure WireRun where
  state : RunState
  totalTransactions : Number
  elapsedMs : Number
  deriving DecidableEq, Repr

structure WireReader where
  workers : Number
  liveWorkers : Number
  idleWorkers : Number
  readingWorkers : Number
  blockedWorkers : Number
  drainingWorkers : Number
  drainingIdleWorkers : Number
  drainingReadingWorkers : Number
  drainingBlockedWorkers : Number
  readBatchSize : Number
  readTps : Number
  rowsRead : Number
  sourceDirectory : String
  sourceError : Option ReaderSourceErrorSnapshot
  deriving DecidableEq, Repr

structure WireThrottler where
  requestedTps : Number
  admittedTps : Number
  installed : Bool
  deriving DecidableEq, Repr

structure WireSender where
  workers : Number
  liveWorkers : Number
  idleWorkers : Number
  inFlightWorkers : Number
  backoffWorkers : Number
  drainingWorkers : Number
  drainingIdleWorkers : Number
  drainingInFlightWorkers : Number
  drainingBackoffWorkers : Number
  deriving DecidableEq, Repr

structure WireChannelSnapshot where
  capacity : Number
  depthBatches : Number
  bufferedTransactions : Number
  blockedSenders : Number
  oldestBlockedSenderMs : Number
  blockedMs : Number
  sentBatchesTotal : Number
  sentTransactionsTotal : Number
  receivedBatchesTotal : Number
  receivedTransactionsTotal : Number
  inputBatchesPerSecond : Number
  inputTransactionsPerSecond : Number
  outputBatchesPerSecond : Number
  outputTransactionsPerSecond : Number
  deriving DecidableEq, Repr

/-- **What the load generator sends**, decoded. -/
structure WireSnapshot where
  run : WireRun
  reader : WireReader
  throttler : WireThrottler
  sender : WireSender
  readerChannel : WireChannelSnapshot
  senderChannel : WireChannelSnapshot
  config : LoadgenConfigSnapshot
  deriving DecidableEq, Repr

/-! ### Controls -/

/-- `UNAVAILABLE_REASON`. -/
def unavailableReason : String := "Недоступно в HTTP snapshot mode"

/-- `unavailableControl`. -/
def unavailableControl (unit : String) : NumericControlSnapshot where
  applied := none
  preview := none
  pending := none
  min := (0 : ℕ)
  max := (0 : ℕ)
  step := (1 : ℕ)
  unit := unit
  applyMode := .unavailable

/-- The control of a value within a range, applied as it is said. -/
def rangeControl (value : Option Number) (config : RangeControlConfigSnapshot)
    (applyMode : ApplyMode) : NumericControlSnapshot where
  applied := value
  preview := none
  pending := none
  min := config.min
  max := config.max
  step := config.step
  unit := config.unit
  applyMode := applyMode

/-- What can be changed whenever the adapter is connected. -/
def whenConnected (connectionState : ConnectionState) : ApplyMode :=
  if connectionState = .connected then .immediate else .unavailable

/-- What can be changed while idle only. -/
def whenIdle (connectionState : ConnectionState) (runState : RunState) : ApplyMode :=
  if connectionState = .connected ∧ runState = .idle then .immediate else .unavailable

/-- `senderControl`. -/
def senderControl (value : Option Number) (config : Option RangeControlConfigSnapshot)
    (connectionState : ConnectionState) : NumericControlSnapshot :=
  config.elim (unavailableControl "workers") fun config =>
    rangeControl value config (whenConnected connectionState)

/-- `throttlerRequestedTpsControl`. -/
def throttlerRequestedTpsControl (value : Option Number)
    (config : Option RangeControlConfigSnapshot) (connectionState : ConnectionState) :
    NumericControlSnapshot :=
  config.elim (unavailableControl "transactions/s") fun config =>
    rangeControl value config (whenConnected connectionState)

/-- `readBatchSizeControl`. -/
def readBatchSizeControl (value : Option Number) (config : Option RangeControlConfigSnapshot)
    (connectionState : ConnectionState) (runState : RunState) : NumericControlSnapshot :=
  config.elim (unavailableControl "transactions") fun config =>
    rangeControl value config (whenIdle connectionState runState)

/-- `readerChannelCapacityControl`, of either channel. What is decoded allows a capacity at
least. -/
def readerChannelCapacityControl (value : Number) (config : AllowedControlConfigSnapshot)
    (connectionState : ConnectionState) (runState : RunState) : NumericControlSnapshot where
  applied := some value
  preview := none
  pending := none
  min := config.allowed.head?.getD .nan
  max := config.allowed.getLast?.getD .nan
  step := (1 : ℕ)
  unit := config.unit
  applyMode := whenIdle connectionState runState

/-! ### The snapshot -/

/-- `neutralChannel`. -/
def neutralChannel (id : ChannelId) : ChannelTelemetrySnapshot where
  id := id
  capacity := unavailableControl "batches"
  sentBatchesTotal := (0 : ℕ)
  sentTransactionsTotal := (0 : ℕ)
  receivedBatchesTotal := (0 : ℕ)
  receivedTransactionsTotal := (0 : ℕ)
  depthBatches := none
  bufferedTransactions := none
  handoffBatches := (0 : ℕ)
  handoffBatchesTotal := (0 : ℕ)
  blockedSenders := (0 : ℕ)
  oldestBlockedSenderMs := (0 : ℕ)
  inputBatchesPerSecond := (0 : ℕ)
  outputBatchesPerSecond := (0 : ℕ)
  inputTransactionsPerSecond := (0 : ℕ)
  outputTransactionsPerSecond := (0 : ℕ)
  inputTps := none
  outputTps := none
  throughputTps := none
  blockedMs := none
  trend := .unknown

/-- `readerChannel` and `senderChannel`, which differ in their names only. -/
def channelOf (id : ChannelId) (channel : WireChannelSnapshot)
    (config : AllowedControlConfigSnapshot) (connectionState : ConnectionState)
    (runState : RunState) : ChannelTelemetrySnapshot :=
  { neutralChannel id with
    capacity := readerChannelCapacityControl channel.capacity config connectionState runState
    depthBatches := some channel.depthBatches
    bufferedTransactions := some channel.bufferedTransactions
    sentBatchesTotal := channel.sentBatchesTotal
    sentTransactionsTotal := channel.sentTransactionsTotal
    receivedBatchesTotal := channel.receivedBatchesTotal
    receivedTransactionsTotal := channel.receivedTransactionsTotal
    inputBatchesPerSecond := channel.inputBatchesPerSecond
    inputTransactionsPerSecond := channel.inputTransactionsPerSecond
    outputBatchesPerSecond := channel.outputBatchesPerSecond
    outputTransactionsPerSecond := channel.outputTransactionsPerSecond
    inputTps := some channel.inputTransactionsPerSecond
    outputTps := some channel.outputTransactionsPerSecond
    throughputTps := some channel.outputTransactionsPerSecond
    blockedSenders := channel.blockedSenders
    oldestBlockedSenderMs := channel.oldestBlockedSenderMs
    blockedMs := some channel.blockedMs }

/-- `readerChannel`. -/
def readerChannel (wire : Option WireSnapshot) (connectionState : ConnectionState)
    (runState : RunState) : ChannelTelemetrySnapshot :=
  wire.elim (neutralChannel .readerToThrottler) fun wire =>
    channelOf .readerToThrottler wire.readerChannel wire.config.readerChannelCapacity
      connectionState runState

/-- `senderChannel`. -/
def senderChannel (wire : Option WireSnapshot) (connectionState : ConnectionState)
    (runState : RunState) : ChannelTelemetrySnapshot :=
  wire.elim (neutralChannel .throttlerToSender) fun wire =>
    channelOf .throttlerToSender wire.senderChannel wire.config.senderChannelCapacity
      connectionState runState

/-- **`createSnapshot`.** -/
def createSnapshot (revision : ℕ) (connectionState : ConnectionState)
    (wire : Option WireSnapshot) : LoadgenTelemetrySnapshot :=
  let runState := (wire.map (·.run.state)).getD .idle
  let config := wire.map (·.config)
  let writable : Bool := connectionState = .connected ∧ wire.isSome
  { revision
    adapterKind := .http
    connectionState
    runState
    elapsedMs := (wire.map (·.run.elapsedMs)).getD (0 : ℕ)
    totalTransactions := (wire.map (·.run.totalTransactions)).getD (0 : ℕ)
    config
    reader :=
      { workers := senderControl (wire.map (·.reader.workers)) (config.bind (·.readerWorkers))
          connectionState
        liveWorkers := (wire.map (·.reader.liveWorkers)).getD (0 : ℕ)
        drainingWorkers := (wire.map (·.reader.drainingWorkers)).getD (0 : ℕ)
        idleWorkers := (wire.map (·.reader.idleWorkers)).getD (0 : ℕ)
        readingWorkers := (wire.map (·.reader.readingWorkers)).getD (0 : ℕ)
        blockedWorkers := (wire.map (·.reader.blockedWorkers)).getD (0 : ℕ)
        drainingIdleWorkers := (wire.map (·.reader.drainingIdleWorkers)).getD (0 : ℕ)
        drainingReadingWorkers := (wire.map (·.reader.drainingReadingWorkers)).getD (0 : ℕ)
        drainingBlockedWorkers := (wire.map (·.reader.drainingBlockedWorkers)).getD (0 : ℕ)
        readBatchSize := readBatchSizeControl (wire.map (·.reader.readBatchSize))
          (config.map (·.readerReadBatchSize)) connectionState runState
        readTps := wire.map (·.reader.readTps)
        configuredCapacityTps := none
        limitationReason := none
        rowsRead := wire.map (·.reader.rowsRead)
        sourceDirectory := wire.map (·.reader.sourceDirectory)
        sourceError := wire.bind (·.reader.sourceError)
        state := runState }
    throttler :=
      { requestedTps := throttlerRequestedTpsControl (wire.map (·.throttler.requestedTps))
          (config.map (·.throttlerRequestedTps)) connectionState
        installed :=
          { applied := wire.map (·.throttler.installed)
            pending := none
            applyMode := if writable then .immediate else .unavailable
            writable
            unavailableReason := if writable then none else some unavailableReason }
        admittedTps := wire.map (·.throttler.admittedTps)
        limitedMs := none
        state := runState }
    readerChannel := readerChannel wire connectionState runState
    senderChannel := senderChannel wire connectionState runState
    sender :=
      { workers := senderControl (wire.map (·.sender.workers)) (config.map (·.senderWorkers))
          connectionState
        liveWorkers := (wire.map (·.sender.liveWorkers)).getD (0 : ℕ)
        drainingWorkers := (wire.map (·.sender.drainingWorkers)).getD (0 : ℕ)
        timeoutMs := unavailableControl "ms"
        idleWorkers := (wire.map (·.sender.idleWorkers)).getD (0 : ℕ)
        inFlightWorkers := (wire.map (·.sender.inFlightWorkers)).getD (0 : ℕ)
        backoffWorkers := (wire.map (·.sender.backoffWorkers)).getD (0 : ℕ)
        drainingIdleWorkers := (wire.map (·.sender.drainingIdleWorkers)).getD (0 : ℕ)
        drainingInFlightWorkers := (wire.map (·.sender.drainingInFlightWorkers)).getD (0 : ℕ)
        drainingBackoffWorkers := (wire.map (·.sender.drainingBackoffWorkers)).getD (0 : ℕ)
        retryPolicy := none
        attemptedTps := none
        retryAttemptedTps := none
        terminalFailedTps := none
        inFlightRequests := none
        attemptsStartedTotal := (0 : ℕ)
        retryAttemptsStartedTotal := (0 : ℕ)
        successfulResponses := none
        failedResponses := none
        retries := none
        timeoutsTotal := (0 : ℕ)
        terminalFailedBatchesTotal := (0 : ℕ)
        terminalFailedTransactionsTotal := (0 : ℕ)
        ambiguousTimeoutTransactionsTotal := (0 : ℕ)
        duplicateRiskTransactionsTotal := (0 : ℕ)
        ambiguousTerminalTransactionsTotal := (0 : ℕ)
        state := runState }
    http :=
      { connectionState := .disconnected
        statusCode := none
        lastOutcome := none
        throughputTps := none
        inFlightRequests := none
        requestsStartedTotal := (0 : ℕ)
        requestsCompletedTotal := (0 : ℕ)
        requestsSucceededTotal := (0 : ℕ)
        requestsFailedTotal := (0 : ℕ)
        requestsTimedOutTotal := (0 : ℕ)
        networkErrorsTotal := (0 : ℕ)
        latencyP95Ms := none }
    target :=
      { endpoint := none
        acceptedTps := none
        rejectedTps := none
        latencyP95Ms := none
        http200Responses := none
        http503Responses := none
        connectionState := .disconnected } }

end IngestionLab.Frontend
