import IngestionLab.Json
import IngestionLab.Loadgen.Status

/-!
# What the load generator sends

The JSON in which the records of `runtime_status.go` are sent, under the names of their
tags (`IngestionLab.RuntimeStatus.toJson`).
-/

namespace IngestionLab

def RangeConfig.toJson (config : RangeConfig) : Json := .object
  [("initial", .int config.initial), ("min", .int config.min), ("max", .int config.max),
    ("step", .int config.step), ("unit", .string config.unit),
    ("mutability", .string config.mutability)]

def AllowedConfig.toJson (config : AllowedConfig) : Json := .object
  [("initial", .int config.initial), ("allowed", .array (config.allowed.map .int)),
    ("unit", .string config.unit), ("mutability", .string config.mutability)]

def InstalledConfig.toJson (config : InstalledConfig) : Json := .object
  [("initial", .bool config.initial), ("allowed", .array (config.allowed.map .bool)),
    ("mutability", .string config.mutability)]

def LoggingConfig.toJson (config : LoggingConfig) : Json := .object
  [("level", .string config.level), ("mutability", .string config.mutability)]

/-- **`runtimeConfigStatus`**, in JSON. -/
def RuntimeConfigStatus.toJson (status : RuntimeConfigStatus) : Json := .object
  [("readerReadBatchSize", status.readerReadBatchSize.toJson),
    ("readerWorkers", status.readerWorkers.toJson),
    ("readerChannelCapacity", status.readerChannelCapacity.toJson),
    ("senderChannelCapacity", status.senderChannelCapacity.toJson),
    ("throttlerRequestedTps", status.throttlerRequestedTPS.toJson),
    ("throttlerInstalled", status.throttlerInstalled.toJson),
    ("metricsWindowMs", status.metricsWindowMS.toJson),
    ("senderWorkers", status.senderWorkers.toJson),
    ("logging", status.logging.toJson)]

/-! ### The status -/

/-- A `float64`: one that is an integer has no fraction, unless it is so large that it has an
exponent. -/
def floatToJson (value : ℚ) : Json :=
  if value.isInt ∧ -10 ^ 21 < value ∧ value < 10 ^ 21 then .int value.num else .decimal value

def ReaderSourceError.toJson (error : ReaderSourceError) : Json := .object
  [("category", .string error.category), ("operation", .string error.operation),
    ("relativePath", .string error.relativePath), ("message", .string error.message)]

def RuntimeRunStatus.toJson (status : RuntimeRunStatus) : Json := .object
  [("state", .string status.state.text), ("totalTransactions", .int status.totalTransactions),
    ("elapsedMs", .int status.elapsedMs)]

def RuntimeReaderStatus.toJson (status : RuntimeReaderStatus) : Json := .object
  [("workers", .int status.workers), ("liveWorkers", .int status.pool.liveWorkers),
    ("idleWorkers", .int status.pool.idleWorkers),
    ("readingWorkers", .int status.pool.readingWorkers),
    ("blockedWorkers", .int status.pool.blockedWorkers),
    ("drainingWorkers", .int status.pool.drainingWorkers),
    ("drainingIdleWorkers", .int status.pool.drainingIdleWorkers),
    ("drainingReadingWorkers", .int status.pool.drainingReadingWorkers),
    ("drainingBlockedWorkers", .int status.pool.drainingBlockedWorkers),
    ("readBatchSize", .int status.readBatchSize), ("readTps", floatToJson status.readTps),
    ("rowsRead", .int status.rowsRead), ("sourceDirectory", .string status.sourceDirectory),
    ("sourceError", status.sourceError.elim .null ReaderSourceError.toJson)]

def RuntimeThrottlerStatus.toJson (status : RuntimeThrottlerStatus) : Json := .object
  [("requestedTps", .int status.requestedTps), ("admittedTps", floatToJson status.admittedTps),
    ("installed", .bool status.installed)]

def RuntimeSenderStatus.toJson (status : RuntimeSenderStatus) : Json := .object
  [("workers", .int status.workers), ("liveWorkers", .int status.pool.liveWorkers),
    ("idleWorkers", .int status.pool.idleWorkers),
    ("inFlightWorkers", .int status.pool.inFlightWorkers),
    ("backoffWorkers", .int status.pool.backoffWorkers),
    ("drainingWorkers", .int status.pool.drainingWorkers),
    ("drainingIdleWorkers", .int status.pool.drainingIdleWorkers),
    ("drainingInFlightWorkers", .int status.pool.drainingInFlightWorkers),
    ("drainingBackoffWorkers", .int status.pool.drainingBackoffWorkers)]

/-- **`runtimeChannelStatus`**, in JSON. What has been sent is input there, and what has been
received is output. -/
def ChannelMeasurements.toJson (status : ChannelMeasurements) : Json := .object
  [("capacity", .int status.capacity), ("depthBatches", .int status.depthBatches),
    ("bufferedTransactions", .int status.bufferedTransactions),
    ("blockedSenders", .int status.blockedSenders),
    ("oldestBlockedSenderMs", .int status.oldestBlockedSenderMs),
    ("blockedMs", .int status.blockedMs), ("sentBatchesTotal", .int status.sentBatchesTotal),
    ("sentTransactionsTotal", .int status.sentTransactionsTotal),
    ("receivedBatchesTotal", .int status.receivedBatchesTotal),
    ("receivedTransactionsTotal", .int status.receivedTransactionsTotal),
    ("inputBatchesPerSecond", floatToJson status.sentBatchesPerSecond),
    ("inputTransactionsPerSecond", floatToJson status.sentTransactionsPerSecond),
    ("outputBatchesPerSecond", floatToJson status.receivedBatchesPerSecond),
    ("outputTransactionsPerSecond", floatToJson status.receivedTransactionsPerSecond)]

/-- **`runtimeStatus`**, in JSON. -/
def RuntimeStatus.toJson (status : RuntimeStatus) : Json := .object
  [("run", status.run.toJson), ("reader", status.reader.toJson),
    ("throttler", status.throttler.toJson), ("sender", status.sender.toJson),
    ("readerChannel", status.readerChannel.toJson),
    ("senderChannel", status.senderChannel.toJson), ("config", status.config.toJson)]

end IngestionLab
