import IngestionLab.Go.Decode
import IngestionLab.Loadgen.HttpSnapshot

/-!
# The snapshot the command line decodes

`decodeStrictSnapshot` of `cli_remote.go`: the JSON is decoded into the record of
`runtime_status.go`, unknown fields and anything that follows disallowed, and then every
object in it has to have its keys, no more and no less.

What is decoded is a status as its Go type has it (`IngestionLab.RemoteStatus`): the state
of the run may be any text, and a number of workers any integer.

* `IngestionLab.decodeStrictSnapshot_toJson`: **a status that is sent is decoded into
  itself.**
-/

namespace IngestionLab

open Go Decoder

/-! ### What is decoded -/

structure RemoteRunStatus where
  state : String := ""
  totalTransactions : ℤ := 0
  elapsedMs : ℤ := 0
  deriving DecidableEq, Repr

structure RemoteReaderStatus where
  workers : ℤ := 0
  liveWorkers : ℤ := 0
  idleWorkers : ℤ := 0
  readingWorkers : ℤ := 0
  blockedWorkers : ℤ := 0
  drainingWorkers : ℤ := 0
  drainingIdleWorkers : ℤ := 0
  drainingReadingWorkers : ℤ := 0
  drainingBlockedWorkers : ℤ := 0
  readBatchSize : ℤ := 0
  readTps : ℚ := 0
  rowsRead : ℤ := 0
  sourceDirectory : String := ""
  sourceError : Option ReaderSourceError := none
  deriving DecidableEq, Repr

structure RemoteSenderStatus where
  workers : ℤ := 0
  liveWorkers : ℤ := 0
  idleWorkers : ℤ := 0
  inFlightWorkers : ℤ := 0
  backoffWorkers : ℤ := 0
  drainingWorkers : ℤ := 0
  drainingIdleWorkers : ℤ := 0
  drainingInFlightWorkers : ℤ := 0
  drainingBackoffWorkers : ℤ := 0
  deriving DecidableEq, Repr

/-! The zero values of the settings. -/

def RangeConfig.zero : RangeConfig := ⟨0, 0, 0, 0, "", ""⟩
def AllowedConfig.zero : AllowedConfig := ⟨0, [], "", ""⟩
def InstalledConfig.zero : InstalledConfig := ⟨false, [], ""⟩
def LoggingConfig.zero : LoggingConfig := ⟨"", ""⟩

def RuntimeConfigStatus.zero : RuntimeConfigStatus :=
  ⟨.zero, .zero, .zero, .zero, .zero, .zero, .zero, .zero, .zero⟩

/-- **A status**, as its Go type has it. -/
structure RemoteStatus where
  run : RemoteRunStatus := {}
  reader : RemoteReaderStatus := {}
  throttler : RuntimeThrottlerStatus := {}
  sender : RemoteSenderStatus := {}
  readerChannel : ChannelMeasurements := {}
  senderChannel : ChannelMeasurements := {}
  config : RuntimeConfigStatus := .zero
  deriving DecidableEq, Repr

/-- The same status, as its Go type has it. -/
def RuntimeStatus.toRemote (status : RuntimeStatus) : RemoteStatus where
  run :=
    { state := status.run.state.text
      totalTransactions := status.run.totalTransactions
      elapsedMs := status.run.elapsedMs }
  reader :=
    { workers := status.reader.workers
      liveWorkers := status.reader.pool.liveWorkers
      idleWorkers := status.reader.pool.idleWorkers
      readingWorkers := status.reader.pool.readingWorkers
      blockedWorkers := status.reader.pool.blockedWorkers
      drainingWorkers := status.reader.pool.drainingWorkers
      drainingIdleWorkers := status.reader.pool.drainingIdleWorkers
      drainingReadingWorkers := status.reader.pool.drainingReadingWorkers
      drainingBlockedWorkers := status.reader.pool.drainingBlockedWorkers
      readBatchSize := status.reader.readBatchSize
      readTps := status.reader.readTps
      rowsRead := status.reader.rowsRead
      sourceDirectory := status.reader.sourceDirectory
      sourceError := status.reader.sourceError }
  throttler := status.throttler
  sender :=
    { workers := status.sender.workers
      liveWorkers := status.sender.pool.liveWorkers
      idleWorkers := status.sender.pool.idleWorkers
      inFlightWorkers := status.sender.pool.inFlightWorkers
      backoffWorkers := status.sender.pool.backoffWorkers
      drainingWorkers := status.sender.pool.drainingWorkers
      drainingIdleWorkers := status.sender.pool.drainingIdleWorkers
      drainingInFlightWorkers := status.sender.pool.drainingInFlightWorkers
      drainingBackoffWorkers := status.sender.pool.drainingBackoffWorkers }
  readerChannel := status.readerChannel
  senderChannel := status.senderChannel
  config := status.config

/-! ### The decoders -/

def ReaderSourceError.decoder : Decoder ReaderSourceError := record
  [field "category" category (fun r x => { r with category := x }) string,
    field "operation" operation (fun r x => { r with operation := x }) string,
    field "relativePath" relativePath (fun r x => { r with relativePath := x }) string,
    field "message" message (fun r x => { r with message := x }) string]

def RemoteRunStatus.decoder : Decoder RemoteRunStatus := record
  [field "state" state (fun r x => { r with state := x }) string,
    field "totalTransactions" totalTransactions (fun r x => { r with totalTransactions := x }) int,
    field "elapsedMs" elapsedMs (fun r x => { r with elapsedMs := x }) int]

def RemoteReaderStatus.decoder : Decoder RemoteReaderStatus := record
  [field "workers" workers (fun r x => { r with workers := x }) int,
    field "liveWorkers" liveWorkers (fun r x => { r with liveWorkers := x }) int,
    field "idleWorkers" idleWorkers (fun r x => { r with idleWorkers := x }) int,
    field "readingWorkers" readingWorkers (fun r x => { r with readingWorkers := x }) int,
    field "blockedWorkers" blockedWorkers (fun r x => { r with blockedWorkers := x }) int,
    field "drainingWorkers" drainingWorkers (fun r x => { r with drainingWorkers := x }) int,
    field "drainingIdleWorkers" drainingIdleWorkers
      (fun r x => { r with drainingIdleWorkers := x }) int,
    field "drainingReadingWorkers" drainingReadingWorkers
      (fun r x => { r with drainingReadingWorkers := x }) int,
    field "drainingBlockedWorkers" drainingBlockedWorkers
      (fun r x => { r with drainingBlockedWorkers := x }) int,
    field "readBatchSize" readBatchSize (fun r x => { r with readBatchSize := x }) int,
    field "readTps" readTps (fun r x => { r with readTps := x }) float,
    field "rowsRead" rowsRead (fun r x => { r with rowsRead := x }) int,
    field "sourceDirectory" sourceDirectory (fun r x => { r with sourceDirectory := x }) string,
    field "sourceError" sourceError (fun r x => { r with sourceError := x })
      (pointer ReaderSourceError.decoder ⟨"", "", "", ""⟩)]

def RuntimeThrottlerStatus.decoder : Decoder RuntimeThrottlerStatus := record
  [field "requestedTps" requestedTps (fun r x => { r with requestedTps := x }) int,
    field "admittedTps" admittedTps (fun r x => { r with admittedTps := x }) float,
    field "installed" installed (fun r x => { r with installed := x }) bool]

def RemoteSenderStatus.decoder : Decoder RemoteSenderStatus := record
  [field "workers" workers (fun r x => { r with workers := x }) int,
    field "liveWorkers" liveWorkers (fun r x => { r with liveWorkers := x }) int,
    field "idleWorkers" idleWorkers (fun r x => { r with idleWorkers := x }) int,
    field "inFlightWorkers" inFlightWorkers (fun r x => { r with inFlightWorkers := x }) int,
    field "backoffWorkers" backoffWorkers (fun r x => { r with backoffWorkers := x }) int,
    field "drainingWorkers" drainingWorkers (fun r x => { r with drainingWorkers := x }) int,
    field "drainingIdleWorkers" drainingIdleWorkers
      (fun r x => { r with drainingIdleWorkers := x }) int,
    field "drainingInFlightWorkers" drainingInFlightWorkers
      (fun r x => { r with drainingInFlightWorkers := x }) int,
    field "drainingBackoffWorkers" drainingBackoffWorkers
      (fun r x => { r with drainingBackoffWorkers := x }) int]

def ChannelMeasurements.decoder : Decoder ChannelMeasurements := record
  [field "capacity" capacity (fun r x => { r with capacity := x }) int,
    field "depthBatches" depthBatches (fun r x => { r with depthBatches := x }) int,
    field "bufferedTransactions" bufferedTransactions
      (fun r x => { r with bufferedTransactions := x }) int,
    field "blockedSenders" blockedSenders (fun r x => { r with blockedSenders := x }) int,
    field "oldestBlockedSenderMs" oldestBlockedSenderMs
      (fun r x => { r with oldestBlockedSenderMs := x }) int,
    field "blockedMs" blockedMs (fun r x => { r with blockedMs := x }) int,
    field "sentBatchesTotal" sentBatchesTotal (fun r x => { r with sentBatchesTotal := x }) int,
    field "sentTransactionsTotal" sentTransactionsTotal
      (fun r x => { r with sentTransactionsTotal := x }) int,
    field "receivedBatchesTotal" receivedBatchesTotal
      (fun r x => { r with receivedBatchesTotal := x }) int,
    field "receivedTransactionsTotal" receivedTransactionsTotal
      (fun r x => { r with receivedTransactionsTotal := x }) int,
    field "inputBatchesPerSecond" sentBatchesPerSecond
      (fun r x => { r with sentBatchesPerSecond := x }) float,
    field "inputTransactionsPerSecond" sentTransactionsPerSecond
      (fun r x => { r with sentTransactionsPerSecond := x }) float,
    field "outputBatchesPerSecond" receivedBatchesPerSecond
      (fun r x => { r with receivedBatchesPerSecond := x }) float,
    field "outputTransactionsPerSecond" receivedTransactionsPerSecond
      (fun r x => { r with receivedTransactionsPerSecond := x }) float]

def RangeConfig.decoder : Decoder RangeConfig := record
  [field "initial" RangeConfig.initial (fun r x => { r with initial := x }) int,
    field "min" RangeConfig.min (fun r x => { r with min := x }) int,
    field "max" RangeConfig.max (fun r x => { r with max := x }) int,
    field "step" step (fun r x => { r with step := x }) int,
    field "unit" unit (fun r x => { r with unit := x }) string,
    field "mutability" mutability (fun r x => { r with mutability := x }) string]

def AllowedConfig.decoder : Decoder AllowedConfig := record
  [field "initial" AllowedConfig.initial (fun r x => { r with initial := x }) int,
    field "allowed" allowed (fun r x => { r with allowed := x }) (slice int 0),
    field "unit" unit (fun r x => { r with unit := x }) string,
    field "mutability" mutability (fun r x => { r with mutability := x }) string]

def InstalledConfig.decoder : Decoder InstalledConfig := record
  [field "initial" InstalledConfig.initial (fun r x => { r with initial := x }) bool,
    field "allowed" allowed (fun r x => { r with allowed := x }) (slice bool false),
    field "mutability" mutability (fun r x => { r with mutability := x }) string]

def LoggingConfig.decoder : Decoder LoggingConfig := record
  [field "level" level (fun r x => { r with level := x }) string,
    field "mutability" mutability (fun r x => { r with mutability := x }) string]

def RuntimeConfigStatus.decoder : Decoder RuntimeConfigStatus := record
  [field "readerReadBatchSize" readerReadBatchSize (fun r x => { r with readerReadBatchSize := x })
      RangeConfig.decoder,
    field "readerWorkers" readerWorkers (fun r x => { r with readerWorkers := x })
      RangeConfig.decoder,
    field "readerChannelCapacity" readerChannelCapacity
      (fun r x => { r with readerChannelCapacity := x }) AllowedConfig.decoder,
    field "senderChannelCapacity" senderChannelCapacity
      (fun r x => { r with senderChannelCapacity := x }) AllowedConfig.decoder,
    field "throttlerRequestedTps" throttlerRequestedTPS
      (fun r x => { r with throttlerRequestedTPS := x }) RangeConfig.decoder,
    field "throttlerInstalled" throttlerInstalled (fun r x => { r with throttlerInstalled := x })
      InstalledConfig.decoder,
    field "metricsWindowMs" metricsWindowMS (fun r x => { r with metricsWindowMS := x })
      RangeConfig.decoder,
    field "senderWorkers" senderWorkers (fun r x => { r with senderWorkers := x })
      RangeConfig.decoder,
    field "logging" logging (fun r x => { r with logging := x }) LoggingConfig.decoder]

def RemoteStatus.decoder : Decoder RemoteStatus := record
  [field "run" run (fun r x => { r with run := x }) RemoteRunStatus.decoder,
    field "reader" reader (fun r x => { r with reader := x }) RemoteReaderStatus.decoder,
    field "throttler" throttler (fun r x => { r with throttler := x })
      RuntimeThrottlerStatus.decoder,
    field "sender" sender (fun r x => { r with sender := x }) RemoteSenderStatus.decoder,
    field "readerChannel" readerChannel (fun r x => { r with readerChannel := x })
      ChannelMeasurements.decoder,
    field "senderChannel" senderChannel (fun r x => { r with senderChannel := x })
      ChannelMeasurements.decoder,
    field "config" config (fun r x => { r with config := x }) RuntimeConfigStatus.decoder]

/-! ### The keys -/

/-- `validateExactKeys`: there is no error. -/
def validateExactKeys (object : List (String × Json)) (expected : List String) : Bool :=
  (object.map Prod.fst).dedup.length == expected.length &&
    expected.all fun key => (rawGet object key).isSome

/-- `validateSnapshotObjectKeys`: there is no error. -/
def validateSnapshotObjectKeys (parent : List (String × Json)) (name : String)
    (expected : List String) : Bool :=
  (rawMap (rawGet parent name)).any (validateExactKeys · expected)

/-- The sections of a snapshot, each with its keys. -/
def sections : List (String × List String) :=
  [("run", ["elapsedMs", "state", "totalTransactions"]),
    ("reader", ["blockedWorkers", "drainingBlockedWorkers", "drainingIdleWorkers",
      "drainingReadingWorkers", "drainingWorkers", "idleWorkers", "liveWorkers", "readBatchSize",
      "readTps", "readingWorkers", "rowsRead", "sourceDirectory", "sourceError", "workers"]),
    ("throttler", ["admittedTps", "installed", "requestedTps"]),
    ("sender", ["backoffWorkers", "drainingBackoffWorkers", "drainingIdleWorkers",
      "drainingInFlightWorkers", "drainingWorkers", "idleWorkers", "inFlightWorkers",
      "liveWorkers", "workers"]),
    ("readerChannel", ["blockedMs", "blockedSenders", "bufferedTransactions", "capacity",
      "depthBatches", "inputBatchesPerSecond", "inputTransactionsPerSecond",
      "oldestBlockedSenderMs", "outputBatchesPerSecond", "outputTransactionsPerSecond",
      "receivedBatchesTotal", "receivedTransactionsTotal", "sentBatchesTotal",
      "sentTransactionsTotal"]),
    ("senderChannel", ["blockedMs", "blockedSenders", "bufferedTransactions", "capacity",
      "depthBatches", "inputBatchesPerSecond", "inputTransactionsPerSecond",
      "oldestBlockedSenderMs", "outputBatchesPerSecond", "outputTransactionsPerSecond",
      "receivedBatchesTotal", "receivedTransactionsTotal", "sentBatchesTotal",
      "sentTransactionsTotal"]),
    ("config", ["logging", "metricsWindowMs", "readerChannelCapacity", "readerReadBatchSize",
      "readerWorkers", "senderChannelCapacity", "senderWorkers", "throttlerInstalled",
      "throttlerRequestedTps"])]

/-- A raw message that is `true` or `false`. -/
def isRawBool : Option Json → Bool
  | some (.bool _) => true
  | _ => false

/-- The modes are an array of booleans. -/
def isRawBoolArray : Option Json → Bool
  | some (.array values) => values.all fun value => isRawBool (some value)
  | _ => false

/-- The source error is null, or has its keys. -/
def validateSourceErrorKeys : Option Json → Bool
  | some .null => true
  | raw => (rawMap raw).any
      (validateExactKeys · ["category", "message", "operation", "relativePath"])

/-- **`validateSnapshotKeys`**: there is no error. -/
def validateSnapshotKeys (root : List (String × Json)) : Bool :=
  let config := (rawMap (rawGet root "config")).getD []
  let throttler := (rawMap (rawGet root "throttler")).getD []
  let installed := (rawMap (rawGet config "throttlerInstalled")).getD []
  let reader := (rawMap (rawGet root "reader")).getD []
  validateExactKeys root ["config", "reader", "readerChannel", "run", "sender", "senderChannel",
      "throttler"] &&
    sections.all (fun s => validateSnapshotObjectKeys root s.1 s.2) &&
    ["readerReadBatchSize", "readerWorkers", "metricsWindowMs", "senderWorkers",
      "throttlerRequestedTps"].all (validateSnapshotObjectKeys config ·
        ["initial", "max", "min", "mutability", "step", "unit"]) &&
    ["readerChannelCapacity", "senderChannelCapacity"].all (validateSnapshotObjectKeys config ·
      ["allowed", "initial", "mutability", "unit"]) &&
    validateSnapshotObjectKeys config "throttlerInstalled" ["allowed", "initial", "mutability"] &&
    isRawBool (rawGet throttler "installed") && isRawBool (rawGet installed "initial") &&
    isRawBoolArray (rawGet installed "allowed") &&
    validateSnapshotObjectKeys config "logging" ["level", "mutability"] &&
    validateSourceErrorKeys (rawGet reader "sourceError")

/-- **`decodeStrictSnapshot`**, or nothing where it returns an error. -/
def decodeStrictSnapshot (body : Json.Stream) : Option RemoteStatus :=
  match body.values with
  | [json] => do
    let snapshot ← RemoteStatus.decoder json {}
    let root ← rawMap (some json)
    if body.ends && validateSnapshotKeys root then some snapshot else none
  | _ => none

/-! ### A status that is sent -/

theorem float_floatToJson (value old : ℚ) : float (floatToJson value) old = some value := by
  rw [floatToJson]
  split
  next hint =>
    change some (value.num : ℚ) = some value
    rw [Rat.isInt, beq_iff_eq] at hint
    exact congrArg some (Rat.den_eq_one_iff value |>.mp hint.1)
  · rfl

theorem ReaderSourceError.decoder_toJson (error old : ReaderSourceError) :
    ReaderSourceError.decoder error.toJson old = some error := by
  rw [decoder, toJson, record_object (by decide) rfl]
  rfl

theorem pointer_sourceError (error : Option ReaderSourceError) (zero : ReaderSourceError) :
    pointer ReaderSourceError.decoder zero (error.elim .null ReaderSourceError.toJson) none =
      some error := by
  cases error with
  | none => rfl
  | some error =>
    change (ReaderSourceError.decoder error.toJson zero).map some = _
    rw [ReaderSourceError.decoder_toJson]
    rfl

theorem RemoteRunStatus.decoder_toJson {status : RuntimeRunStatus}
    (htotal : IsInt64 status.totalTransactions) (helapsed : IsInt64 status.elapsedMs) :
    RemoteRunStatus.decoder status.toJson {} = some
      { state := status.state.text
        totalTransactions := status.totalTransactions
        elapsedMs := status.elapsedMs } := by
  rw [decoder, RuntimeRunStatus.toJson, record_object (by decide) rfl]
  simp only [List.zip_cons_cons, List.zip_nil_right, List.foldlM_cons, List.foldlM_nil, field,
    int_int htotal, int_int helapsed]
  rfl

/-- What a snapshot of the reader pool counts. -/
def ReaderPoolSnapshot.counts (s : ReaderPoolSnapshot) : List ℤ :=
  [s.liveWorkers, s.idleWorkers, s.readingWorkers, s.blockedWorkers, s.drainingWorkers,
    s.drainingIdleWorkers, s.drainingReadingWorkers, s.drainingBlockedWorkers]

theorem RemoteReaderStatus.decoder_toJson {status : RuntimeReaderStatus}
    (hworkers : IsInt64 status.workers) (hbatch : IsInt64 status.readBatchSize)
    (hrows : IsInt64 status.rowsRead) (hpool : ∀ z ∈ status.pool.counts, IsInt64 z) :
    RemoteReaderStatus.decoder status.toJson {} = some
      { workers := status.workers
        liveWorkers := status.pool.liveWorkers
        idleWorkers := status.pool.idleWorkers
        readingWorkers := status.pool.readingWorkers
        blockedWorkers := status.pool.blockedWorkers
        drainingWorkers := status.pool.drainingWorkers
        drainingIdleWorkers := status.pool.drainingIdleWorkers
        drainingReadingWorkers := status.pool.drainingReadingWorkers
        drainingBlockedWorkers := status.pool.drainingBlockedWorkers
        readBatchSize := status.readBatchSize
        readTps := status.readTps
        rowsRead := status.rowsRead
        sourceDirectory := status.sourceDirectory
        sourceError := status.sourceError } := by
  simp only [ReaderPoolSnapshot.counts, List.forall_mem_cons] at hpool
  obtain ⟨h1, h2, h3, h4, h5, h6, h7, h8, -⟩ := hpool
  rw [decoder, RuntimeReaderStatus.toJson, record_object (by decide) rfl]
  simp only [List.zip_cons_cons, List.zip_nil_right, List.foldlM_cons, List.foldlM_nil, field,
    int_int hworkers, int_int h1, int_int h2, int_int h3, int_int h4, int_int h5, int_int h6,
    int_int h7, int_int h8, int_int hbatch, int_int hrows, float_floatToJson, string_string,
    pointer_sourceError, Option.map_some, Option.bind_eq_bind, Option.bind_some]
  rfl

theorem RuntimeThrottlerStatus.decoder_toJson {status : RuntimeThrottlerStatus}
    (hrequested : IsInt64 status.requestedTps) :
    RuntimeThrottlerStatus.decoder status.toJson {} = some status := by
  rw [decoder, toJson, record_object (by decide) rfl]
  simp only [List.zip_cons_cons, List.zip_nil_right, List.foldlM_cons, List.foldlM_nil, field,
    int_int hrequested, float_floatToJson]
  rfl

/-- What a snapshot of the sender pool counts. -/
def SenderPoolSnapshot.counts (s : SenderPoolSnapshot) : List ℤ :=
  [s.liveWorkers, s.idleWorkers, s.inFlightWorkers, s.backoffWorkers, s.drainingWorkers,
    s.drainingIdleWorkers, s.drainingInFlightWorkers, s.drainingBackoffWorkers]

theorem RemoteSenderStatus.decoder_toJson {status : RuntimeSenderStatus}
    (hworkers : IsInt64 status.workers) (hpool : ∀ z ∈ status.pool.counts, IsInt64 z) :
    RemoteSenderStatus.decoder status.toJson {} = some
      { workers := status.workers
        liveWorkers := status.pool.liveWorkers
        idleWorkers := status.pool.idleWorkers
        inFlightWorkers := status.pool.inFlightWorkers
        backoffWorkers := status.pool.backoffWorkers
        drainingWorkers := status.pool.drainingWorkers
        drainingIdleWorkers := status.pool.drainingIdleWorkers
        drainingInFlightWorkers := status.pool.drainingInFlightWorkers
        drainingBackoffWorkers := status.pool.drainingBackoffWorkers } := by
  simp only [SenderPoolSnapshot.counts, List.forall_mem_cons] at hpool
  obtain ⟨h1, h2, h3, h4, h5, h6, h7, h8, -⟩ := hpool
  rw [decoder, RuntimeSenderStatus.toJson, record_object (by decide) rfl]
  simp only [List.zip_cons_cons, List.zip_nil_right, List.foldlM_cons, List.foldlM_nil, field,
    int_int hworkers, int_int h1, int_int h2, int_int h3, int_int h4, int_int h5, int_int h6,
    int_int h7, int_int h8, Option.map_some, Option.bind_eq_bind, Option.bind_some]
  rfl

theorem ChannelMeasurements.decoder_toJson {status : ChannelMeasurements}
    (hcapacity : IsInt64 status.capacity) (hcounters : ∀ z ∈ status.counters, IsInt64 z) :
    ChannelMeasurements.decoder status.toJson {} = some status := by
  simp only [counters, List.forall_mem_cons] at hcounters
  obtain ⟨h1, h2, h3, h4, h5, h6, h7, h8, h9, -⟩ := hcounters
  rw [decoder, toJson, record_object (by decide) rfl]
  simp only [List.zip_cons_cons, List.zip_nil_right, List.foldlM_cons, List.foldlM_nil, field,
    int_int hcapacity, int_int h1, int_int h2, int_int h3, int_int h4, int_int h5, int_int h6,
    int_int h7, int_int h8, int_int h9, float_floatToJson, Option.map_some, Option.bind_eq_bind,
    Option.bind_some]
  rfl

/-! ### The settings that are sent -/

/-- The integers of a range have 64 bits. -/
structure RangeConfig.Fits (p : RangeConfig) : Prop where
  initial : IsInt64 p.initial
  min : IsInt64 p.min
  max : IsInt64 p.max
  step : IsInt64 p.step

theorem RangeConfig.decoder_toJson {p : RangeConfig} (h : p.Fits) :
    RangeConfig.decoder p.toJson .zero = some p := by
  rw [decoder, toJson, record_object (by decide) rfl]
  simp only [List.zip_cons_cons, List.zip_nil_right, List.foldlM_cons, List.foldlM_nil, field,
    int_int h.initial, int_int h.min, int_int h.max, int_int h.step]
  rfl

/-- The integers of a list of values have 64 bits. -/
structure AllowedConfig.Fits (p : AllowedConfig) : Prop where
  initial : IsInt64 p.initial
  allowed : ∀ z ∈ p.allowed, IsInt64 z

theorem AllowedConfig.decoder_toJson {p : AllowedConfig} (h : p.Fits) :
    AllowedConfig.decoder p.toJson .zero = some p := by
  have hallowed : slice int 0 (.array (p.allowed.map .int)) [] = some p.allowed :=
    elements_eq_map (fun z hz old => int_int (h.allowed z hz) old) []
  rw [decoder, toJson, record_object (by decide) rfl]
  simp only [List.zip_cons_cons, List.zip_nil_right, List.foldlM_cons, List.foldlM_nil, field,
    int_int h.initial, zero, hallowed, Option.map_some, Option.bind_eq_bind, Option.bind_some]
  rfl

theorem InstalledConfig.decoder_toJson (p : InstalledConfig) :
    InstalledConfig.decoder p.toJson .zero = some p := by
  have hallowed : slice bool false (.array (p.allowed.map .bool)) [] = some p.allowed :=
    elements_eq_map (fun _ _ _ => rfl) []
  rw [decoder, toJson, record_object (by decide) rfl]
  simp only [List.zip_cons_cons, List.zip_nil_right, List.foldlM_cons, List.foldlM_nil, field,
    bool_bool, zero, hallowed, Option.map_some, Option.bind_eq_bind, Option.bind_some]
  rfl

theorem LoggingConfig.decoder_toJson (p : LoggingConfig) :
    LoggingConfig.decoder p.toJson .zero = some p := by
  rw [decoder, toJson, record_object (by decide) rfl]
  rfl

/-- The integers of the settings have 64 bits. -/
structure RuntimeConfigStatus.Fits (status : RuntimeConfigStatus) : Prop where
  readerReadBatchSize : status.readerReadBatchSize.Fits
  readerWorkers : status.readerWorkers.Fits
  readerChannelCapacity : status.readerChannelCapacity.Fits
  senderChannelCapacity : status.senderChannelCapacity.Fits
  throttlerRequestedTPS : status.throttlerRequestedTPS.Fits
  metricsWindowMS : status.metricsWindowMS.Fits
  senderWorkers : status.senderWorkers.Fits

theorem RuntimeConfigStatus.decoder_toJson {status : RuntimeConfigStatus} (h : status.Fits) :
    RuntimeConfigStatus.decoder status.toJson .zero = some status := by
  rw [decoder, toJson, record_object (by decide) rfl]
  simp only [List.zip_cons_cons, List.zip_nil_right, List.foldlM_cons, List.foldlM_nil, field, zero,
    RangeConfig.decoder_toJson h.readerReadBatchSize, RangeConfig.decoder_toJson h.readerWorkers,
    AllowedConfig.decoder_toJson h.readerChannelCapacity,
    AllowedConfig.decoder_toJson h.senderChannelCapacity,
    RangeConfig.decoder_toJson h.throttlerRequestedTPS, InstalledConfig.decoder_toJson,
    RangeConfig.decoder_toJson h.metricsWindowMS, RangeConfig.decoder_toJson h.senderWorkers,
    LoggingConfig.decoder_toJson, Option.map_some, Option.bind_eq_bind, Option.bind_some]
  rfl

/-! ### The keys that are sent -/

/-- The keys of an object decide. -/
theorem validateExactKeys_of_names {object : List (String × Json)} {expected : List String}
    (names : List String) (hnames : object.map Prod.fst = names)
    (hkeys : names.Nodup ∧ names.length = expected.length ∧ ∀ key ∈ expected, key ∈ names) :
    validateExactKeys object expected = true := by
  obtain ⟨hnodup, hlength, hmem⟩ := hkeys
  rw [validateExactKeys, hnames, hnodup.dedup, Bool.and_eq_true, beq_iff_eq, List.all_eq_true]
  exact ⟨hlength, fun key hkey => isSome_rawGet (hnames ▸ hmem key hkey)⟩

theorem any_rawMap {json : Json} {object : List (String × Json)} {expected : List String}
    (names : List String) (hraw : rawMap (some json) = some object)
    (hnames : object.map Prod.fst = names)
    (hkeys : names.Nodup ∧ names.length = expected.length ∧ ∀ key ∈ expected, key ∈ names) :
    (rawMap (some json)).any (validateExactKeys · expected) = true := by
  rw [hraw]
  exact validateExactKeys_of_names names hnames hkeys

theorem validateSnapshotObjectKeys_of_rawGet {parent : List (String × Json)} {name : String}
    {expected : List String} {json : Json} (hget : rawGet parent name = some json)
    (hkeys : (rawMap (some json)).any (validateExactKeys · expected) = true) :
    validateSnapshotObjectKeys parent name expected = true := by
  rw [validateSnapshotObjectKeys, hget]
  exact hkeys

theorem RangeConfig.keys_toJson (p : RangeConfig) : (rawMap (some p.toJson)).any
    (validateExactKeys · ["initial", "max", "min", "mutability", "step", "unit"]) = true :=
  any_rawMap ["initial", "min", "max", "step", "unit", "mutability"] rfl rfl (by simp)

theorem AllowedConfig.keys_toJson (p : AllowedConfig) : (rawMap (some p.toJson)).any
    (validateExactKeys · ["allowed", "initial", "mutability", "unit"]) = true :=
  any_rawMap ["initial", "allowed", "unit", "mutability"] rfl rfl (by simp)

theorem InstalledConfig.keys_toJson (p : InstalledConfig) : (rawMap (some p.toJson)).any
    (validateExactKeys · ["allowed", "initial", "mutability"]) = true :=
  any_rawMap ["initial", "allowed", "mutability"] rfl rfl (by simp)

theorem LoggingConfig.keys_toJson (p : LoggingConfig) : (rawMap (some p.toJson)).any
    (validateExactKeys · ["level", "mutability"]) = true :=
  any_rawMap ["level", "mutability"] rfl rfl (by simp)

theorem ReaderSourceError.keys_toJson (error : ReaderSourceError) : (rawMap (some error.toJson)).any
    (validateExactKeys · ["category", "message", "operation", "relativePath"]) = true :=
  any_rawMap ["category", "operation", "relativePath", "message"] rfl rfl (by simp)

theorem isRawBoolArray_map (values : List Bool) :
    isRawBoolArray (some (.array (values.map .bool))) = true := by
  rw [isRawBoolArray, List.all_map, List.all_eq_true]
  exact fun _ _ => rfl

theorem validateSourceErrorKeys_toJson (error : Option ReaderSourceError) :
    validateSourceErrorKeys (some (error.elim .null ReaderSourceError.toJson)) = true := by
  cases error with
  | none => rfl
  | some error => exact error.keys_toJson

theorem RuntimeRunStatus.keys_toJson (status : RuntimeRunStatus) :
    (rawMap (some status.toJson)).any
      (validateExactKeys · ["elapsedMs", "state", "totalTransactions"]) = true :=
  any_rawMap ["state", "totalTransactions", "elapsedMs"] rfl rfl (by simp)

theorem RuntimeReaderStatus.keys_toJson (status : RuntimeReaderStatus) :
    (rawMap (some status.toJson)).any
      (validateExactKeys · ["blockedWorkers", "drainingBlockedWorkers", "drainingIdleWorkers",
        "drainingReadingWorkers", "drainingWorkers", "idleWorkers", "liveWorkers", "readBatchSize",
        "readTps", "readingWorkers", "rowsRead", "sourceDirectory", "sourceError", "workers"]) =
      true :=
  any_rawMap ["workers", "liveWorkers", "idleWorkers", "readingWorkers",
    "blockedWorkers", "drainingWorkers", "drainingIdleWorkers", "drainingReadingWorkers",
    "drainingBlockedWorkers", "readBatchSize", "readTps", "rowsRead", "sourceDirectory",
    "sourceError"] rfl rfl (by simp)

theorem RuntimeThrottlerStatus.keys_toJson (status : RuntimeThrottlerStatus) :
    (rawMap (some status.toJson)).any
      (validateExactKeys · ["admittedTps", "installed", "requestedTps"]) = true :=
  any_rawMap ["requestedTps", "admittedTps", "installed"] rfl rfl (by simp)

theorem RuntimeSenderStatus.keys_toJson (status : RuntimeSenderStatus) :
    (rawMap (some status.toJson)).any
      (validateExactKeys · ["backoffWorkers", "drainingBackoffWorkers", "drainingIdleWorkers",
        "drainingInFlightWorkers", "drainingWorkers", "idleWorkers", "inFlightWorkers",
        "liveWorkers", "workers"]) = true :=
  any_rawMap ["workers", "liveWorkers", "idleWorkers", "inFlightWorkers",
    "backoffWorkers", "drainingWorkers", "drainingIdleWorkers", "drainingInFlightWorkers",
    "drainingBackoffWorkers"] rfl rfl (by simp)

theorem ChannelMeasurements.keys_toJson (status : ChannelMeasurements) :
    (rawMap (some status.toJson)).any
      (validateExactKeys · ["blockedMs", "blockedSenders", "bufferedTransactions", "capacity",
        "depthBatches", "inputBatchesPerSecond", "inputTransactionsPerSecond",
        "oldestBlockedSenderMs", "outputBatchesPerSecond", "outputTransactionsPerSecond",
        "receivedBatchesTotal", "receivedTransactionsTotal", "sentBatchesTotal",
        "sentTransactionsTotal"]) = true :=
  any_rawMap ["capacity", "depthBatches", "bufferedTransactions",
    "blockedSenders", "oldestBlockedSenderMs", "blockedMs", "sentBatchesTotal",
    "sentTransactionsTotal", "receivedBatchesTotal", "receivedTransactionsTotal",
    "inputBatchesPerSecond", "inputTransactionsPerSecond", "outputBatchesPerSecond",
    "outputTransactionsPerSecond"] rfl rfl (by simp)

theorem RuntimeConfigStatus.keys_toJson (status : RuntimeConfigStatus) :
    (rawMap (some status.toJson)).any
      (validateExactKeys · ["logging", "metricsWindowMs", "readerChannelCapacity",
        "readerReadBatchSize", "readerWorkers", "senderChannelCapacity", "senderWorkers",
        "throttlerInstalled", "throttlerRequestedTps"]) = true :=
  any_rawMap ["readerReadBatchSize", "readerWorkers", "readerChannelCapacity",
    "senderChannelCapacity", "throttlerRequestedTps", "throttlerInstalled", "metricsWindowMs",
    "senderWorkers", "logging"] rfl rfl (by simp)

/-- **The settings that are sent have their keys**, each of them. -/
theorem exists_config_toJson (status : RuntimeConfigStatus) :
    ∃ config, status.toJson = .object config ∧
      ["readerReadBatchSize", "readerWorkers", "metricsWindowMs", "senderWorkers",
        "throttlerRequestedTps"].all (validateSnapshotObjectKeys config ·
          ["initial", "max", "min", "mutability", "step", "unit"]) = true ∧
      ["readerChannelCapacity", "senderChannelCapacity"].all (validateSnapshotObjectKeys config ·
        ["allowed", "initial", "mutability", "unit"]) = true ∧
      validateSnapshotObjectKeys config "throttlerInstalled" ["allowed", "initial", "mutability"] =
        true ∧
      rawGet config "throttlerInstalled" = some status.throttlerInstalled.toJson ∧
      validateSnapshotObjectKeys config "logging" ["level", "mutability"] = true := by
  refine ⟨_, rfl, ?_, ?_, ?_, rfl, ?_⟩
  · rw [List.all_eq_true]
    simp only [List.forall_mem_cons]
    exact ⟨validateSnapshotObjectKeys_of_rawGet rfl (RangeConfig.keys_toJson _),
      validateSnapshotObjectKeys_of_rawGet rfl (RangeConfig.keys_toJson _),
      validateSnapshotObjectKeys_of_rawGet rfl (RangeConfig.keys_toJson _),
      validateSnapshotObjectKeys_of_rawGet rfl (RangeConfig.keys_toJson _),
      validateSnapshotObjectKeys_of_rawGet rfl (RangeConfig.keys_toJson _),
      fun s hs => absurd hs List.not_mem_nil⟩
  · rw [List.all_eq_true]
    simp only [List.forall_mem_cons]
    exact ⟨validateSnapshotObjectKeys_of_rawGet rfl (AllowedConfig.keys_toJson _),
      validateSnapshotObjectKeys_of_rawGet rfl (AllowedConfig.keys_toJson _),
      fun s hs => absurd hs List.not_mem_nil⟩
  · exact validateSnapshotObjectKeys_of_rawGet rfl (InstalledConfig.keys_toJson _)
  · exact validateSnapshotObjectKeys_of_rawGet rfl (LoggingConfig.keys_toJson _)

/-- **Every section that is sent has its keys.** -/
theorem exists_sections_toJson (status : RuntimeStatus) :
    ∃ root, status.toJson = .object root ∧
      validateExactKeys root ["config", "reader", "readerChannel", "run", "sender",
        "senderChannel", "throttler"] = true ∧
      sections.all (fun s => validateSnapshotObjectKeys root s.1 s.2) = true ∧
      rawGet root "config" = some status.config.toJson ∧
      rawGet root "throttler" = some status.throttler.toJson ∧
      rawGet root "reader" = some status.reader.toJson := by
  refine ⟨_, rfl, ?_, ?_, rfl, rfl, rfl⟩
  · exact validateExactKeys_of_names ["run", "reader", "throttler", "sender", "readerChannel",
      "senderChannel", "config"] rfl (by simp)
  · rw [List.all_eq_true]
    simp only [sections, List.forall_mem_cons]
    exact ⟨validateSnapshotObjectKeys_of_rawGet rfl (RuntimeRunStatus.keys_toJson _),
      validateSnapshotObjectKeys_of_rawGet rfl (RuntimeReaderStatus.keys_toJson _),
      validateSnapshotObjectKeys_of_rawGet rfl (RuntimeThrottlerStatus.keys_toJson _),
      validateSnapshotObjectKeys_of_rawGet rfl (RuntimeSenderStatus.keys_toJson _),
      validateSnapshotObjectKeys_of_rawGet rfl (ChannelMeasurements.keys_toJson _),
      validateSnapshotObjectKeys_of_rawGet rfl (ChannelMeasurements.keys_toJson _),
      validateSnapshotObjectKeys_of_rawGet rfl (RuntimeConfigStatus.keys_toJson _),
      fun s hs => absurd hs List.not_mem_nil⟩

/-- **A status that is sent has its keys.** -/
theorem exists_root_toJson (status : RuntimeStatus) :
    ∃ root, rawMap (some status.toJson) = some root ∧ validateSnapshotKeys root = true := by
  obtain ⟨root, hroot, hkeys, hsections, hconfig, hthrottler, hreader⟩ :=
    exists_sections_toJson status
  obtain ⟨config, hobject, hranges, hallowed, hmodes, hinstalled, hlogging⟩ :=
    exists_config_toJson status.config
  refine ⟨root, by rw [hroot]; rfl, ?_⟩
  have hraw : rawMap (some (.object config)) = some config := rfl
  have hthrottlerInstalled : isRawBool (rawGet ((rawMap (some status.throttler.toJson)).getD [])
      "installed") = true := rfl
  have hinitial : isRawBool (rawGet ((rawMap (some status.config.throttlerInstalled.toJson)).getD [])
      "initial") = true := rfl
  have harray : isRawBoolArray
      (rawGet ((rawMap (some status.config.throttlerInstalled.toJson)).getD []) "allowed") = true :=
    isRawBoolArray_map status.config.throttlerInstalled.allowed
  have herror : validateSourceErrorKeys
      (rawGet ((rawMap (some status.reader.toJson)).getD []) "sourceError") = true :=
    validateSourceErrorKeys_toJson status.reader.sourceError
  rw [validateSnapshotKeys]
  simp only [hconfig, hobject, hraw, Option.getD_some, hinstalled, hthrottler, hreader, hkeys,
    hsections, hranges, hallowed, hmodes, hthrottlerInstalled, hinitial, harray, hlogging, herror,
    Bool.and_self]

/-- The integers of a status have 64 bits. -/
structure RuntimeStatus.Fits (status : RuntimeStatus) : Prop where
  totalTransactions : IsInt64 status.run.totalTransactions
  elapsedMs : IsInt64 status.run.elapsedMs
  readerWorkers : IsInt64 status.reader.workers
  readBatchSize : IsInt64 status.reader.readBatchSize
  rowsRead : IsInt64 status.reader.rowsRead
  readerPool : ∀ z ∈ status.reader.pool.counts, IsInt64 z
  requestedTps : IsInt64 status.throttler.requestedTps
  senderWorkers : IsInt64 status.sender.workers
  senderPool : ∀ z ∈ status.sender.pool.counts, IsInt64 z
  readerCapacity : IsInt64 status.readerChannel.capacity
  readerChannel : ∀ z ∈ status.readerChannel.counters, IsInt64 z
  senderCapacity : IsInt64 status.senderChannel.capacity
  senderChannel : ∀ z ∈ status.senderChannel.counters, IsInt64 z
  config : status.config.Fits

theorem RemoteStatus.decoder_toJson {status : RuntimeStatus} (h : status.Fits) :
    RemoteStatus.decoder status.toJson {} = some status.toRemote := by
  rw [decoder, RuntimeStatus.toJson, record_object (by decide) rfl]
  simp only [List.zip_cons_cons, List.zip_nil_right, List.foldlM_cons, List.foldlM_nil, field,
    RemoteRunStatus.decoder_toJson h.totalTransactions h.elapsedMs,
    RemoteReaderStatus.decoder_toJson h.readerWorkers h.readBatchSize h.rowsRead h.readerPool,
    RuntimeThrottlerStatus.decoder_toJson h.requestedTps,
    RemoteSenderStatus.decoder_toJson h.senderWorkers h.senderPool,
    ChannelMeasurements.decoder_toJson h.readerCapacity h.readerChannel,
    ChannelMeasurements.decoder_toJson h.senderCapacity h.senderChannel,
    RuntimeConfigStatus.decoder_toJson h.config, Option.map_some, Option.bind_eq_bind,
    Option.bind_some]
  rfl

/-- **A status that is sent is decoded into itself.** -/
theorem decodeStrictSnapshot_toJson {status : RuntimeStatus} (h : status.Fits) :
    decodeStrictSnapshot { values := [status.toJson] } = some status.toRemote := by
  obtain ⟨root, hroot, hkeys⟩ := exists_root_toJson status
  simp only [decodeStrictSnapshot, RemoteStatus.decoder_toJson h, hroot, hkeys, Option.bind_eq_bind,
    Option.bind_some, Bool.and_self, if_true]

end IngestionLab
