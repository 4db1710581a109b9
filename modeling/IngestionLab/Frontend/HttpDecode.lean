import IngestionLab.Frontend.HttpConfig
import IngestionLab.Frontend.HttpSnapshot

/-!
# The snapshot the frontend decodes

How `adapters/HttpAdapter.ts` reads what the load generator sends
(`IngestionLab.Frontend.decodeWireSnapshot`): every section is to have exactly the fields
expected, every value is to be of its kind, within the settings sent along, and in
accord with the others, since the workers of a pool are counted by what they do.
-/

namespace IngestionLab.Frontend

open JS

/-! ### Values -/

/-- `isWireNumber`. -/
def isWireNumber : Value → Bool
  | .number value => value.isFinite && Number.le (0 : ℤ) value
  | _ => false

/-- The value is null (`value === null`). -/
def isNull : Value → Bool
  | .null => true
  | _ => false

/-- The value is a string with something in it. -/
def isText : Value → Bool
  | .string value => value != ""
  | _ => false

/-- `value.startsWith(start)`. -/
def startsWith (value : Value) (start : String) : Bool :=
  start.toList.isPrefixOf value.toStr.toList

/-- Go on if a check is passed, throw otherwise. -/
def ensure (check : Bool) (message : String) : Except String Unit :=
  if check then .ok () else .error message

@[simp] theorem ensure_true (message : String) : ensure true message = .ok () := rfl

@[simp] theorem ensure_false (message : String) : ensure false message = .error message := rfl

/-- What has not thrown has passed the check. -/
theorem ok_of_ensure {α : Type} {check : Bool} {message : String} {f : Unit → Except String α} {a : α}
    (h : (ensure check message >>= f) = .ok a) : check = true ∧ f () = .ok a := by
  cases check with
  | false => cases h
  | true => exact ⟨rfl, h⟩

/-- What has not thrown has gone on with a value. -/
theorem ok_of_bind {α β : Type} {x : Except String α} {f : α → Except String β} {b : β}
    (h : (x >>= f) = .ok b) : ∃ a, f a = .ok b := by
  cases x with
  | error message => cases h
  | ok a => exact ⟨a, h⟩

/-! ### Keys -/

/-- `WIRE_KEYS`. -/
def wireKeys : List String :=
  ["config", "reader", "readerChannel", "run", "sender", "senderChannel", "throttler"]

/-- `RUN_KEYS`. -/
def runKeys : List String := ["elapsedMs", "state", "totalTransactions"]

/-- `READER_KEYS`. -/
def readerKeys : List String :=
  ["blockedWorkers", "drainingBlockedWorkers", "drainingIdleWorkers", "drainingReadingWorkers",
    "drainingWorkers", "idleWorkers", "liveWorkers", "readBatchSize", "readTps",
    "readingWorkers", "rowsRead", "sourceDirectory", "sourceError", "workers"]

/-- `SOURCE_ERROR_KEYS`. -/
def sourceErrorKeys : List String := ["category", "message", "operation", "relativePath"]

/-- `THROTTLER_KEYS`. -/
def throttlerKeys : List String := ["admittedTps", "installed", "requestedTps"]

/-- `SENDER_KEYS`. -/
def senderKeys : List String :=
  ["backoffWorkers", "drainingBackoffWorkers", "drainingIdleWorkers", "drainingInFlightWorkers",
    "drainingWorkers", "idleWorkers", "inFlightWorkers", "liveWorkers", "workers"]

/-- `CHANNEL_KEYS`. -/
def channelKeys : List String :=
  ["blockedMs", "blockedSenders", "bufferedTransactions", "capacity", "depthBatches",
    "inputBatchesPerSecond", "inputTransactionsPerSecond", "oldestBlockedSenderMs",
    "outputBatchesPerSecond", "outputTransactionsPerSecond", "receivedBatchesTotal",
    "receivedTransactionsTotal", "sentBatchesTotal", "sentTransactionsTotal"]

/-! ### Channels -/

/-- The record a value is taken for, once it has been checked. -/
def asChannel (value : Value) : WireChannelSnapshot where
  capacity := (value.get "capacity").toNumber
  depthBatches := (value.get "depthBatches").toNumber
  bufferedTransactions := (value.get "bufferedTransactions").toNumber
  blockedSenders := (value.get "blockedSenders").toNumber
  oldestBlockedSenderMs := (value.get "oldestBlockedSenderMs").toNumber
  blockedMs := (value.get "blockedMs").toNumber
  sentBatchesTotal := (value.get "sentBatchesTotal").toNumber
  sentTransactionsTotal := (value.get "sentTransactionsTotal").toNumber
  receivedBatchesTotal := (value.get "receivedBatchesTotal").toNumber
  receivedTransactionsTotal := (value.get "receivedTransactionsTotal").toNumber
  inputBatchesPerSecond := (value.get "inputBatchesPerSecond").toNumber
  inputTransactionsPerSecond := (value.get "inputTransactionsPerSecond").toNumber
  outputBatchesPerSecond := (value.get "outputBatchesPerSecond").toNumber
  outputTransactionsPerSecond := (value.get "outputTransactionsPerSecond").toNumber

/-- The values of a channel. -/
def isChannel (value : Value) (allowedCapacity : List Number) : Bool :=
  isWireInteger (value.get "capacity") &&
    allowedCapacity.contains (value.get "capacity").toNumber &&
    isWireInteger (value.get "depthBatches") && isWireInteger (value.get "bufferedTransactions") &&
    isWireInteger (value.get "blockedSenders") &&
    isWireInteger (value.get "oldestBlockedSenderMs") &&
    isWireInteger (value.get "blockedMs") && isWireInteger (value.get "sentBatchesTotal") &&
    isWireInteger (value.get "sentTransactionsTotal") &&
    isWireInteger (value.get "receivedBatchesTotal") &&
    isWireInteger (value.get "receivedTransactionsTotal") &&
    isWireNumber (value.get "inputBatchesPerSecond") &&
    isWireNumber (value.get "inputTransactionsPerSecond") &&
    isWireNumber (value.get "outputBatchesPerSecond") &&
    isWireNumber (value.get "outputTransactionsPerSecond")

/-- **`decodeChannelSnapshot`.** -/
def decodeChannelSnapshot (value : Value) (allowedCapacity : List Number) :
    Except String WireChannelSnapshot := do
  ensure (isExactObject value channelKeys) "snapshot channel is invalid"
  ensure (isChannel value allowedCapacity) "snapshot channel values are invalid"
  return asChannel value

/-! ### The other sections -/

/-- The state a value is one of the texts of. -/
def asRunState? (value : Value) : Option RunState :=
  if value.isString "idle" then some .idle
  else if value.isString "running" then some .running
  else if value.isString "paused" then some .paused
  else if value.isString "faulted" then some .faulted
  else none

/-- **The numbers of a pool** are counts, add up to the live and the draining workers, and
are nothing where no run is on. Three headings count the workers by what they do, and
three more the draining ones among them. -/
def isPool (value : Value) (headings drainingHeadings : List String) (state : RunState) : Bool :=
  let counts := headings.map fun heading => (value.get heading).toNumber
  let drainingCounts := drainingHeadings.map fun heading => (value.get heading).toNumber
  isWireInteger (value.get "liveWorkers") &&
    headings.all (fun heading => isWireInteger (value.get heading)) &&
    isWireInteger (value.get "drainingWorkers") &&
    drainingHeadings.all (fun heading => isWireInteger (value.get heading)) &&
    (value.get "liveWorkers").isNumber (counts.foldl Number.add (0 : ℤ)) &&
    (value.get "drainingWorkers").isNumber (drainingCounts.foldl Number.add (0 : ℤ)) &&
    (drainingCounts.zip counts).all (fun pair => !pair.2.lt pair.1) &&
    !((state == .idle || state == .faulted) &&
      (!(value.get "liveWorkers").isNumber (0 : ℤ) ||
        !(value.get "drainingWorkers").isNumber (0 : ℤ)))

/-- The error of the source: none, or one in full. -/
def isSourceError (value : Value) : Bool :=
  isNull value ||
    isExactObject value sourceErrorKeys && (value.get "category").isString "source" &&
      ["glob", "open", "read", "close", "reader-close"].any (value.get "operation").isString &&
      isText (value.get "relativePath") && !startsWith (value.get "relativePath") "/" &&
      !startsWith (value.get "relativePath") "../" && isText (value.get "message")

/-- The record a value is taken for, once it has been checked. -/
def asSourceError (value : Value) : Option ReaderSourceErrorSnapshot :=
  if isNull value then none
  else some
    { operation := (value.get "operation").toStr
      relativePath := (value.get "relativePath").toStr
      message := (value.get "message").toStr }

/-- The record a value is taken for, once it has been checked. -/
def asReader (value : Value) : WireReader where
  workers := (value.get "workers").toNumber
  liveWorkers := (value.get "liveWorkers").toNumber
  idleWorkers := (value.get "idleWorkers").toNumber
  readingWorkers := (value.get "readingWorkers").toNumber
  blockedWorkers := (value.get "blockedWorkers").toNumber
  drainingWorkers := (value.get "drainingWorkers").toNumber
  drainingIdleWorkers := (value.get "drainingIdleWorkers").toNumber
  drainingReadingWorkers := (value.get "drainingReadingWorkers").toNumber
  drainingBlockedWorkers := (value.get "drainingBlockedWorkers").toNumber
  readBatchSize := (value.get "readBatchSize").toNumber
  readTps := (value.get "readTps").toNumber
  rowsRead := (value.get "rowsRead").toNumber
  sourceDirectory := (value.get "sourceDirectory").toStr
  sourceError := asSourceError (value.get "sourceError")

/-- The record a value is taken for, once it has been checked. -/
def asThrottler (value : Value) : WireThrottler where
  requestedTps := (value.get "requestedTps").toNumber
  admittedTps := (value.get "admittedTps").toNumber
  installed := (value.get "installed").toBool

/-- The record a value is taken for, once it has been checked. -/
def asSender (value : Value) : WireSender where
  workers := (value.get "workers").toNumber
  liveWorkers := (value.get "liveWorkers").toNumber
  idleWorkers := (value.get "idleWorkers").toNumber
  inFlightWorkers := (value.get "inFlightWorkers").toNumber
  backoffWorkers := (value.get "backoffWorkers").toNumber
  drainingWorkers := (value.get "drainingWorkers").toNumber
  drainingIdleWorkers := (value.get "drainingIdleWorkers").toNumber
  drainingInFlightWorkers := (value.get "drainingInFlightWorkers").toNumber
  drainingBackoffWorkers := (value.get "drainingBackoffWorkers").toNumber

/-! ### The snapshot -/

/-- **`decodeWireSnapshot`**, or the message of what it throws. -/
def decodeWireSnapshot (value : Value) : Except String WireSnapshot := do
  ensure (isExactObject value wireKeys) "snapshot body must contain exactly seven sections"
  let run := value.get "run"
  let reader := value.get "reader"
  let throttler := value.get "throttler"
  let sender := value.get "sender"
  ensure (isExactObject run runKeys) "snapshot run is invalid"
  ensure (isExactObject reader readerKeys) "snapshot reader is invalid"
  ensure (isExactObject throttler throttlerKeys) "snapshot throttler is invalid"
  ensure (isExactObject sender senderKeys) "snapshot sender is invalid"
  let config ← decodeConfig (value.get "config")
  let state ← (asRunState? (run.get "state")).elim
    (.error "snapshot run state is invalid") .ok
  ensure (isWireInteger (run.get "elapsedMs") && isWireInteger (run.get "totalTransactions"))
    "snapshot run values are invalid"
  ensure (config.readerWorkers.any (isRangeValue (reader.get "workers")) &&
      isRangeValue (reader.get "readBatchSize") config.readerReadBatchSize &&
      isWireNumber (reader.get "readTps") && isWireInteger (reader.get "rowsRead") &&
      isPool reader ["idleWorkers", "readingWorkers", "blockedWorkers"]
        ["drainingIdleWorkers", "drainingReadingWorkers", "drainingBlockedWorkers"] state)
    "snapshot reader values are invalid"
  ensure (isText (reader.get "sourceDirectory")) "snapshot reader sourceDirectory is invalid"
  ensure (isSourceError (reader.get "sourceError")) "snapshot reader sourceError is invalid"
  ensure (isRangeValue (throttler.get "requestedTps") config.throttlerRequestedTps &&
      isWireNumber (throttler.get "admittedTps") && isBoolean (throttler.get "installed") &&
      config.throttlerInstalled.allowed.contains (throttler.get "installed").toBool)
    "snapshot throttler values are invalid"
  ensure (isRangeValue (sender.get "workers") config.senderWorkers &&
      isPool sender ["idleWorkers", "inFlightWorkers", "backoffWorkers"]
        ["drainingIdleWorkers", "drainingInFlightWorkers", "drainingBackoffWorkers"] state)
    "snapshot sender values are invalid"
  let readerChannel ←
    decodeChannelSnapshot (value.get "readerChannel") config.readerChannelCapacity.allowed
  let senderChannel ←
    decodeChannelSnapshot (value.get "senderChannel") config.senderChannelCapacity.allowed
  return {
    run :=
      { state
        totalTransactions := (run.get "totalTransactions").toNumber
        elapsedMs := (run.get "elapsedMs").toNumber }
    reader := asReader reader
    throttler := asThrottler throttler
    sender := asSender sender
    readerChannel, senderChannel, config }

/-- **A snapshot that is taken has no source error, or one in full.** -/
theorem isSourceError_of_decodeWireSnapshot {value : Value} {wire : WireSnapshot}
    (h : decodeWireSnapshot value = .ok wire) :
    isSourceError ((value.get "reader").get "sourceError") = true := by
  rw [decodeWireSnapshot] at h
  -- the checks before it, one by one
  obtain ⟨-, h⟩ := ok_of_ensure h
  obtain ⟨-, h⟩ := ok_of_ensure h
  obtain ⟨-, h⟩ := ok_of_ensure h
  obtain ⟨-, h⟩ := ok_of_ensure h
  obtain ⟨-, h⟩ := ok_of_ensure h
  obtain ⟨config, h⟩ := ok_of_bind h
  obtain ⟨state, h⟩ := ok_of_bind h
  obtain ⟨-, h⟩ := ok_of_ensure h
  obtain ⟨-, h⟩ := ok_of_ensure h
  obtain ⟨-, h⟩ := ok_of_ensure h
  exact (ok_of_ensure h).1

end IngestionLab.Frontend
