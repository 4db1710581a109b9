import IngestionLab.JS.Number

/-!
# What the frontend knows of the load generator

The types of `model/loadgen.ts`. An `id` that has one value only is left out.
-/

namespace IngestionLab.Frontend

open JS

inductive ChannelId
  | readerToThrottler
  | throttlerToSender
  deriving DecidableEq, Repr

inductive AdapterKind
  | simulation
  | http
  deriving DecidableEq, Repr

inductive ConnectionState
  | connecting
  | connected
  | disconnected
  | error
  deriving DecidableEq, Repr

inductive RunState
  | idle
  | running
  | paused
  | faulted
  deriving DecidableEq, Repr

inductive ApplyMode
  | immediate
  | nextRun
  | unavailable
  deriving DecidableEq, Repr

inductive ReaderLimitationReason
  | downstreamBackpressure
  deriving DecidableEq, Repr

structure RetryPolicySnapshot where
  maxAttempts : Number
  backoffBaseMs : Number
  backoffMultiplier : Number
  jitterPercent : Number
  retryableStatusCodes : List Number
  retryTimeouts : Bool
  deriving DecidableEq, Repr

/-- `HttpLastOutcome`, where the source's null is `none`. -/
inductive HttpOutcomeKind
  | httpResponse
  | timeout
  | networkError
  deriving DecidableEq, Repr

inductive ChannelTrend
  | rising
  | steady
  | falling
  | unknown
  deriving DecidableEq, Repr

inductive ChannelFlowState
  | normal
  | nearLimit
  | backpressure
  | stopped
  | connectionError
  deriving DecidableEq, Repr

structure NumericControlSnapshot where
  applied : Option Number
  preview : Option Number
  pending : Option Number
  min : Number
  max : Number
  step : Number
  unit : String
  applyMode : ApplyMode
  deriving DecidableEq, Repr

structure RangeControlConfigSnapshot where
  initial : Number
  min : Number
  max : Number
  step : Number
  unit : String
  mutability : String
  deriving DecidableEq, Repr

structure AllowedControlConfigSnapshot where
  initial : Number
  allowed : List Number
  unit : String
  mutability : String
  deriving DecidableEq, Repr

structure InstalledConfigSnapshot where
  initial : Bool
  allowed : List Bool
  mutability : String
  deriving DecidableEq, Repr

structure LoggingConfigSnapshot where
  level : String
  mutability : String
  deriving DecidableEq, Repr

structure LoadgenConfigSnapshot where
  readerReadBatchSize : RangeControlConfigSnapshot
  readerWorkers : Option RangeControlConfigSnapshot
  readerChannelCapacity : AllowedControlConfigSnapshot
  senderChannelCapacity : AllowedControlConfigSnapshot
  metricsWindowMs : RangeControlConfigSnapshot
  throttlerRequestedTps : RangeControlConfigSnapshot
  throttlerInstalled : InstalledConfigSnapshot
  senderWorkers : RangeControlConfigSnapshot
  logging : Option LoggingConfigSnapshot
  deriving DecidableEq, Repr

structure InstalledControlSnapshot where
  applied : Option Bool
  pending : Option Bool
  applyMode : ApplyMode
  writable : Bool
  unavailableReason : Option String
  deriving DecidableEq, Repr

/-- `ReaderSourceErrorSnapshot`. -/
structure ReaderSourceErrorSnapshot where
  operation : String
  relativePath : String
  message : String
  deriving DecidableEq, Repr

structure ReaderSnapshot where
  workers : NumericControlSnapshot
  liveWorkers : Number
  idleWorkers : Number
  readingWorkers : Number
  blockedWorkers : Number
  drainingWorkers : Number
  drainingIdleWorkers : Number
  drainingReadingWorkers : Number
  drainingBlockedWorkers : Number
  readBatchSize : NumericControlSnapshot
  readTps : Option Number
  configuredCapacityTps : Option Number
  limitationReason : Option ReaderLimitationReason
  rowsRead : Option Number
  sourceDirectory : Option String
  sourceError : Option ReaderSourceErrorSnapshot
  state : RunState
  deriving DecidableEq, Repr

structure ThrottlerSnapshot where
  requestedTps : NumericControlSnapshot
  installed : InstalledControlSnapshot
  admittedTps : Option Number
  limitedMs : Option Number
  state : RunState
  deriving DecidableEq, Repr

/-- `ChannelTelemetrySnapshot`; the ends of the channel are named by its `id`. -/
structure ChannelTelemetrySnapshot where
  id : ChannelId
  capacity : NumericControlSnapshot
  sentBatchesTotal : Number
  sentTransactionsTotal : Number
  receivedBatchesTotal : Number
  receivedTransactionsTotal : Number
  depthBatches : Option Number
  bufferedTransactions : Option Number
  handoffBatches : Number
  handoffBatchesTotal : Number
  blockedSenders : Number
  oldestBlockedSenderMs : Number
  inputBatchesPerSecond : Number
  outputBatchesPerSecond : Number
  inputTransactionsPerSecond : Number
  outputTransactionsPerSecond : Number
  inputTps : Option Number
  outputTps : Option Number
  throughputTps : Option Number
  blockedMs : Option Number
  trend : ChannelTrend
  deriving DecidableEq, Repr

structure ChannelSnapshot extends ChannelTelemetrySnapshot where
  displayedPressure : ℚ
  flowState : ChannelFlowState
  deriving DecidableEq, Repr

structure SenderSnapshot where
  workers : NumericControlSnapshot
  liveWorkers : Number
  idleWorkers : Number
  inFlightWorkers : Number
  backoffWorkers : Number
  drainingWorkers : Number
  drainingIdleWorkers : Number
  drainingInFlightWorkers : Number
  drainingBackoffWorkers : Number
  timeoutMs : NumericControlSnapshot
  retryPolicy : Option RetryPolicySnapshot
  attemptedTps : Option Number
  retryAttemptedTps : Option Number
  terminalFailedTps : Option Number
  inFlightRequests : Option Number
  attemptsStartedTotal : Number
  retryAttemptsStartedTotal : Number
  successfulResponses : Option Number
  failedResponses : Option Number
  retries : Option Number
  timeoutsTotal : Number
  terminalFailedBatchesTotal : Number
  terminalFailedTransactionsTotal : Number
  ambiguousTimeoutTransactionsTotal : Number
  duplicateRiskTransactionsTotal : Number
  ambiguousTerminalTransactionsTotal : Number
  state : RunState
  deriving DecidableEq, Repr

structure HttpSnapshot where
  connectionState : ConnectionState
  statusCode : Option Number
  lastOutcome : Option HttpOutcomeKind
  throughputTps : Option Number
  inFlightRequests : Option Number
  requestsStartedTotal : Number
  requestsCompletedTotal : Number
  requestsSucceededTotal : Number
  requestsFailedTotal : Number
  requestsTimedOutTotal : Number
  networkErrorsTotal : Number
  latencyP95Ms : Option Number
  deriving DecidableEq, Repr

structure TargetSnapshot where
  endpoint : Option String
  acceptedTps : Option Number
  rejectedTps : Option Number
  latencyP95Ms : Option Number
  http200Responses : Option Number
  http503Responses : Option Number
  connectionState : ConnectionState
  deriving DecidableEq, Repr

/-- **A snapshot**, over what it says of a channel. -/
structure SnapshotOver (Channel : Type) where
  revision : ℕ
  adapterKind : AdapterKind
  connectionState : ConnectionState
  runState : RunState
  elapsedMs : Number
  totalTransactions : Number
  config : Option LoadgenConfigSnapshot
  reader : ReaderSnapshot
  throttler : ThrottlerSnapshot
  readerChannel : Channel
  senderChannel : Channel
  sender : SenderSnapshot
  http : HttpSnapshot
  target : TargetSnapshot
  deriving DecidableEq, Repr

/-- What an adapter publishes. -/
abbrev LoadgenTelemetrySnapshot := SnapshotOver ChannelTelemetrySnapshot

/-- What is displayed. -/
abbrev LoadgenSnapshot := SnapshotOver ChannelSnapshot

/-- **A command of the frontend.** -/
inductive LoadgenCommand
  | run
  | pause
  | reset
  | setRequestedTps (value : Number)
  | setThrottlerInstalled (value : Bool)
  | setWorkerCount (value : Number)
  | setSenderWorkers (value : Number)
  | setReaderChannelCapacity (value : Number)
  | setSenderChannelCapacity (value : Number)
  | setReadBatchSize (value : Number)
  | setHttpTimeout (valueMs : Number)
  deriving DecidableEq, Repr

/-- The `type` of a command. -/
def LoadgenCommand.type : LoadgenCommand → String
  | .run => "run"
  | .pause => "pause"
  | .reset => "reset"
  | .setRequestedTps _ => "set-requested-tps"
  | .setThrottlerInstalled _ => "set-throttler-installed"
  | .setWorkerCount _ => "set-worker-count"
  | .setSenderWorkers _ => "set-sender-workers"
  | .setReaderChannelCapacity _ => "set-reader-channel-capacity"
  | .setSenderChannelCapacity _ => "set-sender-channel-capacity"
  | .setReadBatchSize _ => "set-read-batch-size"
  | .setHttpTimeout _ => "set-http-timeout"

/-- The code of an `AdapterError`. -/
inductive AdapterErrorCode
  | invalidCommand
  | invalidState
  | disposed
  | unavailable
  | internal
  deriving DecidableEq, Repr

structure AdapterError where
  code : AdapterErrorCode
  message : String
  retryable : Bool
  deriving DecidableEq, Repr

structure CommandReceipt where
  commandId : String
  commandType : String
  accepted : Bool
  applyMode : ApplyMode
  appliedAtMs : Option ℕ
  snapshotRevision : ℕ
  error : Option AdapterError
  deriving DecidableEq, Repr

end IngestionLab.Frontend
