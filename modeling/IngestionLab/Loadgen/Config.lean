import IngestionLab.Go.Arith
import IngestionLab.Loadgen.Telemetry

/-!
# The configuration of the load generator

The records of `config.go` and the checks a configuration has to pass before the
service starts. Every adjustable setting comes with its own bounds: a range with
a step (`IngestionLab.RangeConfig`), a list of allowed values
(`IngestionLab.AllowedConfig`), or a set of allowed modes
(`IngestionLab.InstalledConfig`), and a command that sets it is checked against
them by `contains`.

Validation returns the first error, `none` standing for success. The two checks
that need the network library – the listen address and the target URL – call its
parsers, which are parameters (`IngestionLab.NetParsers`).

The retry schedule of a batch lives here too: `IngestionLab.SenderRetryConfig.delay`
is the delay after a failed attempt, jittered by a hash of the batch.
-/

namespace IngestionLab

open Go

/-! ### Units and mutabilities -/

def configSchemaVersion : ℤ := 2

def sourceUnit : String := "glob-pattern"
def batchSizeUnit : String := "transactions"
def unitBatches : String := "batches"
def requestedTPSUnit : String := "transactions/s"
def metricsWindowUnit : String := "milliseconds"
def workersUnit : String := "workers"

def startupOnly : String := "startup-only"
def idleOnly : String := "idle-only"
def immediate : String := "immediate"

/-! ### Settings with bounds -/

/-- A setting bounded by a range with a step (`rangeConfig`). -/
structure RangeConfig where
  initial : ℤ
  min : ℤ
  max : ℤ
  step : ℤ
  unit : String
  mutability : String
  deriving DecidableEq, Repr

/-- A setting bounded by a list of values (`allowedConfig`). -/
structure AllowedConfig where
  initial : ℤ
  allowed : List ℤ
  unit : String
  mutability : String
  deriving DecidableEq, Repr

/-- A mode with the modes it may take (`installedConfig`). -/
structure InstalledConfig where
  initial : Bool
  allowed : List Bool
  mutability : String
  deriving DecidableEq, Repr

/-- `rangeConfig.contains`: within the range, and a whole number of steps above
its minimum. -/
def RangeConfig.contains (p : RangeConfig) (value : ℤ) : Bool :=
  decide (p.min ≤ value) && decide (value ≤ p.max) && (value - p.min).tmod p.step == 0

/-- `allowedConfig.contains`. -/
def AllowedConfig.contains (p : AllowedConfig) (value : ℤ) : Bool := decide (value ∈ p.allowed)

/-- `installedConfig.contains`. -/
def InstalledConfig.contains (p : InstalledConfig) (value : Bool) : Bool :=
  decide (value ∈ p.allowed)

/-- `rangeConfig.validate`, for the read batch size. -/
def RangeConfig.validate (p : RangeConfig) : Option String :=
  if p.unit ≠ batchSizeUnit ∨ p.mutability ≠ idleOnly then
    some "must use unit \"transactions\" and mutability \"idle-only\""
  else if p.min ≤ 0 ∨ p.max < p.min ∨ p.step ≤ 0 then
    some "min, max, and step must form a positive range"
  else if !p.contains p.initial then
    some "initial must be within the range and aligned to step"
  else none

/-- `rangeConfig.validateExact`. -/
def RangeConfig.validateExact (p : RangeConfig) (initial min max step : ℤ)
    (unit mutability : String) : Option String :=
  if p.initial ≠ initial ∨ p.min ≠ min ∨ p.max ≠ max ∨ p.step ≠ step ∨ p.unit ≠ unit ∨
      p.mutability ≠ mutability then
    some ("must match approved " ++ unit ++ " config")
  else none

/-- `rangeConfig.validateWorkers`, for the reader workers. -/
def RangeConfig.validateWorkers (p : RangeConfig) : Option String :=
  p.validateExact 1 1 7 1 workersUnit immediate

/-- `rangeConfig.validateMetricsWindow`. -/
def RangeConfig.validateMetricsWindow (p : RangeConfig) : Option String :=
  if p.unit ≠ metricsWindowUnit ∨ p.mutability ≠ startupOnly then
    some "must use unit \"milliseconds\" and mutability \"startup-only\""
  else if p.min < 100 ∨ 10000 < p.max ∨ p.max < p.min ∨ p.step ≤ 0 then
    some "must stay within 100..10000 milliseconds with a positive step"
  else if !p.contains p.initial then
    some "initial must be within the range and aligned to step"
  else none

/-- `rangeConfig.validateRequestedTPS`. -/
def RangeConfig.validateRequestedTPS (p : RangeConfig) : Option String :=
  if p.unit ≠ requestedTPSUnit ∨ p.mutability ≠ immediate then
    some "must use unit \"transactions/s\" and mutability \"immediate\""
  else if p.min < 0 ∨ p.max ≤ p.min ∨ p.step ≤ 0 then
    some "min, max, and step must form a non-negative range"
  else if p.initial < p.min ∨ p.max < p.initial then
    some ("initial=" ++ toString p.initial ++ " is outside range min=" ++ toString p.min ++
      " max=" ++ toString p.max ++ " (step=" ++ toString p.step ++ ")")
  else if (p.initial - p.min).tmod p.step ≠ 0 then
    some ("initial=" ++ toString p.initial ++ " is not aligned to step=" ++ toString p.step ++
      " from min=" ++ toString p.min ++ " (max=" ++ toString p.max ++ ")")
  else none

/-- The scan of `allowedConfig.validate`: no value negative, each above the one
before it. -/
def allowedError : ℕ → Option ℤ → List ℤ → Option String
  | _, _, [] => none
  | index, previous, value :: rest =>
    if value < 0 then some ("allowed[" ++ toString index ++ "] must not be negative")
    else if previous.any (value ≤ ·) then some "allowed must be strictly increasing"
    else allowedError (index + 1) (some value) rest

/-- `allowedConfig.validate`. -/
def AllowedConfig.validate (p : AllowedConfig) : Option String :=
  if p.unit ≠ unitBatches ∨ p.mutability ≠ idleOnly then
    some "must use unit \"batches\" and mutability \"idle-only\""
  else if p.allowed = [] then some "allowed must not be empty"
  else (allowedError 0 none p.allowed).or
    (if !p.contains p.initial then some "initial must be one of allowed" else none)

/-- `installedConfig.validate`. -/
def InstalledConfig.validate (p : InstalledConfig) : Option String :=
  if p.mutability ≠ immediate ∨ p.allowed.length ≠ 2 ∨ !p.contains true ∨ !p.contains false ∨
      !p.contains p.initial then
    some "allowed must be [true, false], initial must be allowed, and mutability must be \"immediate\""
  else none

/-! ### The retry schedule -/

/-- The retry schedule of a batch (`senderRetryConfig`). -/
structure SenderRetryConfig where
  delaysMS : List ℤ
  jitterPercent : ℤ
  mutability : String
  deriving DecidableEq, Repr

/-- `senderRetryMaxDelayMS`. -/
def senderRetryMaxDelayMS (jitterPercent : ℤ) : ℤ :=
  let factor := if 0 < jitterPercent then
      wrap64 (millisecond + (wrap64 (millisecond * jitterPercent)).tdiv 100)
    else millisecond
  maxInt64.tdiv factor

/-- The scan of `senderRetryConfig.validate`. -/
def delaysError (jitterPercent : ℤ) : ℕ → Option ℤ → List ℤ → Option String
  | _, _, [] => none
  | index, previous, delay :: rest =>
    if delay ≤ 0 then some ("delays_ms[" ++ toString index ++ "] must be positive")
    else if senderRetryMaxDelayMS jitterPercent < delay then
      some ("delays_ms[" ++ toString index ++ "] exceeds the maximum safe retry duration")
    else if previous.any (delay < ·) then some "delays_ms must be nondecreasing"
    else delaysError jitterPercent (index + 1) (some delay) rest

/-- `senderRetryConfig.validate`. -/
def SenderRetryConfig.validate (p : SenderRetryConfig) : Option String :=
  if p.mutability ≠ startupOnly then some "mutability must be \"startup-only\""
  else if p.jitterPercent ≠ 20 then some "jitter_percent must be 20"
  else if p.delaysMS = [] then some "delays_ms must not be empty"
  else delaysError p.jitterPercent 0 none p.delaysMS

/-- `deterministicSenderValue`: a hash of the batch's length, the attempt and the
first client. -/
def deterministicSenderValue (batch : Batch) (attempt modulus : ℕ) : ℕ :=
  let clientID := match batch with
    | [] => []
    | first :: _ => first.clientID.toUTF8.data.toList
  (fnv1a (littleEndian64 batch.length ++ littleEndian64 attempt ++ clientID)).toNat % modulus

/-- `senderRetryDuration`: a delay in milliseconds with its jitter, in
nanoseconds. -/
def senderRetryDuration (delayMS jitterPercent : ℤ) : ℤ :=
  if delayMS ≤ 0 ∨ maxInt64.tdiv millisecond < delayMS then maxInt64
  else
    let base := wrap64 (delayMS * millisecond)
    let adjustment := wrap64 (wrap64 (base.tdiv 100 * jitterPercent) +
      (wrap64 (base.tmod 100 * jitterPercent)).tdiv 100)
    if 0 < adjustment ∧ wrap64 (maxInt64 - base) < adjustment then maxInt64
    else
      let delay := wrap64 (base + adjustment)
      if delay ≤ 0 then millisecond else delay

/-- `senderRetryConfig.delay`: the delay after a failed attempt, `none` where the
index would be out of range. -/
def SenderRetryConfig.delay (p : SenderRetryConfig) (attempt : ℕ) (batch : Batch) : Option ℤ :=
  let index := min ((attempt : ℤ) - 1) ((p.delaysMS.length : ℤ) - 1)
  let jitter := (deterministicSenderValue batch attempt (2 * p.jitterPercent + 1).toNat : ℤ) -
    p.jitterPercent
  if index < 0 then none
  else p.delaysMS[index.toNat]?.map fun delayMS => senderRetryDuration delayMS jitter

/-- A schedule that lists a delay has one for every attempt. -/
theorem SenderRetryConfig.delay_isSome {p : SenderRetryConfig} (h : p.delaysMS ≠ [])
    {attempt : ℕ} (ha : 1 ≤ attempt) (batch : Batch) : (p.delay attempt batch).isSome := by
  have hlen : 0 < p.delaysMS.length := List.length_pos_of_ne_nil h
  have hindex : ¬ min ((attempt : ℤ) - 1) ((p.delaysMS.length : ℤ) - 1) < 0 := by omega
  have hlt : (min ((attempt : ℤ) - 1) ((p.delaysMS.length : ℤ) - 1)).toNat < p.delaysMS.length := by
    omega
  simp only [delay, if_neg hindex, Option.isSome_map, List.getElem?_eq_getElem hlt,
    Option.isSome_some]

/-! ### The whole configuration -/

/-- What `net.SplitHostPort` and `url.Parse` of the network library return: host
and port, and the parts of a URL that are checked. -/
structure NetParsers where
  splitHostPort : String → Except String (String × String)
  atoi : String → Option ℤ
  parseURL : String → Except String (String × String × String)

/-- The target of the sender (`senderAPIConfig`). -/
structure SenderAPIConfig where
  url : String
  mutability : String
  deriving DecidableEq, Repr

/-- The sender's settings (`senderConfig`). -/
structure SenderConfig where
  workers : RangeConfig
  api : SenderAPIConfig
  retry : SenderRetryConfig
  deriving DecidableEq, Repr

/-- The source of the rows (`sourceConfig`). -/
structure SourceConfig where
  path : String
  unit : String
  mutability : String
  deriving DecidableEq, Repr

/-- The reader's settings (`readerConfig`). -/
structure ReaderConfig where
  readBatchSize : RangeConfig
  workers : RangeConfig
  deriving DecidableEq, Repr

/-- A channel's settings (`readerChannelConfig`). -/
structure ReaderChannelConfig where
  capacity : AllowedConfig
  deriving DecidableEq, Repr

/-- The throttler's settings (`throttlerConfig`). -/
structure ThrottlerConfig where
  requestedTPS : RangeConfig
  installed : InstalledConfig
  deriving DecidableEq, Repr

/-- The metrics window (`metricsConfig`). -/
structure MetricsConfig where
  windowMS : RangeConfig
  deriving DecidableEq, Repr

/-- The log level (`loggingConfig`). -/
structure LoggingConfig where
  level : String
  mutability : String
  deriving DecidableEq, Repr

/-- The configuration (`config`). -/
structure Config where
  schemaVersion : ℤ
  httpAddr : String
  source : SourceConfig
  reader : ReaderConfig
  readerChannel : ReaderChannelConfig
  senderChannel : ReaderChannelConfig
  throttler : ThrottlerConfig
  sender : SenderConfig
  metrics : MetricsConfig
  logging : LoggingConfig
  deriving DecidableEq, Repr

variable (net : NetParsers)

/-- `httpConfig.validate`. -/
def validateHTTP (addr : String) : Option String :=
  match net.splitHostPort addr with
  | .error err => some ("must be host:port: " ++ err)
  | .ok (host, rawPort) =>
    if host = "" ∨ host.toList.any (" \t\r\n/\\?#".toList.contains ·) then
      some "host must be non-empty and contain no whitespace or URL path"
    else match net.atoi rawPort with
      | none => some "port must be numeric and between 1 and 65535"
      | some port =>
        if ¬rawPort.toList.all (·.isDigit) ∨ port < 1 ∨ 65535 < port then
          some "port must be numeric and between 1 and 65535"
        else none

/-- `senderAPIConfig.validate`. A parsed URL is its scheme, host and fragment. -/
def SenderAPIConfig.validate (p : SenderAPIConfig) : Option String :=
  if p.url = "" then some "url must not be empty"
  else if p.mutability ≠ startupOnly then some "mutability must be \"startup-only\""
  else match net.parseURL p.url with
    | .error err => some ("sender.api.url must be a valid absolute HTTP(S) URL: " ++ err)
    | .ok (scheme, host, fragment) =>
      if scheme = "" ∨ host = "" then some "url must be an absolute HTTP(S) URL with host"
      else if scheme ≠ "http" ∧ scheme ≠ "https" then some "url must use http or https"
      else if fragment ≠ "" then some "url must not contain a fragment"
      else none

/-- `senderConfig.validate`. -/
def SenderConfig.validate (p : SenderConfig) : Option String :=
  ((p.workers.validateExact 32 1 32 1 workersUnit immediate).map ("workers: " ++ ·)).or
    (((p.api.validate net).map ("api: " ++ ·)).or p.retry.validate)

/-- `loggingConfig.validate`. -/
def LoggingConfig.validate (p : LoggingConfig) : Option String :=
  if p.mutability ≠ startupOnly then some "mutability must be \"startup-only\""
  else if p.level ∉ ["debug", "info", "warn", "error"] then
    some "level must be debug, info, warn, or error"
  else none

/-- `filepath.IsAbs`, on Linux. -/
def isAbs (path : String) : Bool := path.toList.head? == some '/'

/-- `config.validate`: the first failing check, `none` if there is none. -/
def Config.validate (p : Config) : Option String :=
  if p.schemaVersion ≠ configSchemaVersion then some "schema_version must be 2"
  else ((validateHTTP net p.httpAddr).map ("http.addr: " ++ ·)).or <|
  if p.source.path = "" ∨ !isAbs p.source.path then some "source.path must be an absolute path"
  else if p.source.unit ≠ sourceUnit ∨ p.source.mutability ≠ startupOnly then
    some "source must use unit \"glob-pattern\" and mutability \"startup-only\""
  else (p.reader.readBatchSize.validate.map ("reader.read_batch_size: " ++ ·)).or <|
  (p.reader.workers.validateWorkers.map ("reader.workers: " ++ ·)).or <|
  (p.readerChannel.capacity.validate.map ("readerChannel.capacity: " ++ ·)).or <|
  (p.senderChannel.capacity.validate.map ("senderChannel.capacity: " ++ ·)).or <|
  if maxInt64.tdiv second < p.reader.readBatchSize.max then
    some "reader.read_batch_size.max exceeds pacing duration limit"
  else (p.throttler.requestedTPS.validateRequestedTPS.map ("throttler.requested_tps: " ++ ·)).or <|
  (p.throttler.installed.validate.map ("throttler.installed: " ++ ·)).or <|
  ((p.sender.validate net).map ("sender: " ++ ·)).or <|
  (p.metrics.windowMS.validateMetricsWindow.map ("metrics.window_ms: " ++ ·)).or <|
  p.logging.validate.map ("logging: " ++ ·)

/-- The configuration of `config.toml`, with the source under `/data`. -/
def exampleConfig : Config where
  schemaVersion := configSchemaVersion
  httpAddr := "127.0.0.1:8080"
  source := ⟨"/data/*.parquet", sourceUnit, startupOnly⟩
  reader :=
    { readBatchSize := ⟨1000, 1000, 100000, 1000, batchSizeUnit, idleOnly⟩
      workers := ⟨1, 1, 7, 1, workersUnit, immediate⟩ }
  readerChannel := ⟨⟨2, 0 :: (List.range 14).map (2 ^ ·), unitBatches, idleOnly⟩⟩
  senderChannel := ⟨⟨0, 0 :: (List.range 14).map (2 ^ ·), unitBatches, idleOnly⟩⟩
  throttler :=
    { requestedTPS := ⟨2000000, 0, 4000000, 200000, requestedTPSUnit, immediate⟩
      installed := ⟨true, [true, false], immediate⟩ }
  sender :=
    { workers := ⟨32, 1, 32, 1, workersUnit, immediate⟩
      api := ⟨"http://127.0.0.1:8080/internal/test/ingest", startupOnly⟩
      retry := ⟨[250, 500, 1000, 2000, 5000], 20, startupOnly⟩ }
  metrics := ⟨⟨1000, 100, 10000, 100, metricsWindowUnit, startupOnly⟩⟩
  logging := ⟨"info", startupOnly⟩

/-- The network library as it answers on the configuration of `config.toml`. -/
def exampleParsers : NetParsers where
  splitHostPort _ := .ok ("127.0.0.1", "8080")
  atoi _ := some 8080
  parseURL _ := .ok ("http", "127.0.0.1:8080", "")

end IngestionLab
