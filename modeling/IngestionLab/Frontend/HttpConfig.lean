import IngestionLab.Frontend.Loadgen
import IngestionLab.JS.Value

/-!
# The configuration the frontend decodes

How `adapters/HttpAdapter.ts` reads the settings the load generator sends
(`IngestionLab.Frontend.decodeConfig`), whose type it does not know: every object is to
have exactly the fields expected, every number is to be a safe integer, and the bounds of
a setting are to make sense.
-/

namespace IngestionLab.Frontend

open JS

/-! ### Values -/

/-- `isWireInteger`. -/
def isWireInteger : Value → Bool
  | .number value => value.isFinite && value.isSafeInteger && Number.le (0 : ℤ) value
  | _ => false

/-- **`isRangeValue`.** -/
def isRangeValue (value : Value) (config : RangeControlConfigSnapshot) : Bool :=
  isWireInteger value && config.min.le value.toNumber && value.toNumber.le config.max &&
    (value.toNumber.sub config.min).rem config.step == (0 : ℤ)

/-- `isExactObject`: the names of the fields, sorted, are these. -/
def isExactObject (value : Value) (keys : List String) : Bool :=
  match value with
  | .object _ => value.keys.insertionSort (· ≤ ·) == keys
  | _ => false

/-! ### Settings -/

/-- The record a value is taken for, once it has been checked. -/
def asRange (value : Value) : RangeControlConfigSnapshot where
  initial := (value.get "initial").toNumber
  min := (value.get "min").toNumber
  max := (value.get "max").toNumber
  step := (value.get "step").toNumber
  unit := (value.get "unit").toStr
  mutability := (value.get "mutability").toStr

/-- **A setting within a range**: its fields, its bounds, then its initial value. -/
def decodeRange (unit mutability : String) (bounded : RangeControlConfigSnapshot → Bool)
    (invalid initialInvalid : String) (value : Value) : Except String RangeControlConfigSnapshot :=
  if !(isExactObject value ["initial", "max", "min", "mutability", "step", "unit"] &&
      isWireInteger (value.get "initial") && isWireInteger (value.get "min") &&
      isWireInteger (value.get "max") && isWireInteger (value.get "step") &&
      bounded (asRange value) &&
      (value.get "unit").isString unit && (value.get "mutability").isString mutability) then
    .error invalid
  else if !isRangeValue (value.get "initial") (asRange value) then .error initialInvalid
  else .ok (asRange value)

/-- The bounds of a setting that is positive. -/
def positiveRange (config : RangeControlConfigSnapshot) : Bool :=
  Number.lt (0 : ℤ) config.min && config.min.le config.max && Number.lt (0 : ℤ) config.step

def decodeReadBatchSize : Value → Except String RangeControlConfigSnapshot :=
  decodeRange "transactions" "idle-only" positiveRange
    "snapshot reader config is invalid" "snapshot reader config initial is invalid"

def decodeReaderWorkers : Value → Except String RangeControlConfigSnapshot :=
  decodeRange "workers" "immediate" positiveRange
    "snapshot reader workers config is invalid" "snapshot reader workers config is invalid"

def decodeMetricsWindow : Value → Except String RangeControlConfigSnapshot :=
  decodeRange "milliseconds" "startup-only"
    (fun config => Number.le (100 : ℤ) config.min && config.max.le (10000 : ℤ) &&
      config.min.le config.max && Number.lt (0 : ℤ) config.step)
    "snapshot metrics window config is invalid" "snapshot metrics window config initial is invalid"

def decodeRequestedTps : Value → Except String RangeControlConfigSnapshot :=
  decodeRange "transactions/s" "immediate"
    (fun config => config.min.lt config.max && Number.lt (0 : ℤ) config.step)
    "snapshot throttler requested TPS config is invalid"
    "snapshot throttler requested TPS config initial is invalid"

/-- The workers of the sender are the ones expected, field by field. -/
def decodeSenderWorkers (value : Value) : Except String RangeControlConfigSnapshot :=
  if !(isExactObject value ["initial", "max", "min", "mutability", "step", "unit"] &&
      (value.get "initial").isNumber (32 : ℤ) && (value.get "min").isNumber (1 : ℤ) &&
      (value.get "max").isNumber (32 : ℤ) && (value.get "step").isNumber (1 : ℤ) &&
      (value.get "unit").isString "workers" && (value.get "mutability").isString "immediate") then
    .error "snapshot Sender config is invalid"
  else .ok (asRange value)

/-- Each value is above the one before it. -/
def increasing : List Number → Bool
  | a :: b :: values => !b.le a && increasing (b :: values)
  | _ => true

/-- **A setting with a list of values.** -/
def decodeAllowed (invalid valuesInvalid : String) (value : Value) :
    Except String AllowedControlConfigSnapshot :=
  let allowed := (value.get "allowed").toList
  let numbers := allowed.map Value.toNumber
  if !(isExactObject value ["allowed", "initial", "mutability", "unit"] && !allowed.isEmpty &&
      allowed.all isWireInteger && (value.get "unit").isString "batches" &&
      (value.get "mutability").isString "idle-only") then
    .error invalid
  else if !(increasing numbers && isWireInteger (value.get "initial") &&
      numbers.contains (value.get "initial").toNumber) then
    .error valuesInvalid
  else .ok
    { initial := (value.get "initial").toNumber
      allowed := numbers
      unit := (value.get "unit").toStr
      mutability := (value.get "mutability").toStr }

def decodeReaderChannelCapacity : Value → Except String AllowedControlConfigSnapshot :=
  decodeAllowed "snapshot readerChannel config is invalid"
    "snapshot readerChannel config values are invalid"

def decodeSenderChannelCapacity : Value → Except String AllowedControlConfigSnapshot :=
  decodeAllowed "snapshot senderChannel config is invalid"
    "snapshot senderChannel config values are invalid"

/-- The value is a boolean (`typeof value === 'boolean'`). -/
def isBoolean : Value → Bool
  | .boolean _ => true
  | _ => false

/-- The modes of the throttler: two of them, and different. -/
def decodeInstalled (value : Value) : Except String InstalledConfigSnapshot :=
  let allowed := (value.get "allowed").toList
  let modes := allowed.map Value.toBool
  if !(isExactObject value ["allowed", "initial", "mutability"] && allowed.length == 2 &&
      allowed.all isBoolean && modes.dedup.length == 2 && isBoolean (value.get "initial") &&
      modes.contains (value.get "initial").toBool &&
      (value.get "mutability").isString "immediate") then
    .error "snapshot throttler installation mode config is invalid"
  else .ok
    { initial := (value.get "initial").toBool
      allowed := modes
      mutability := (value.get "mutability").toStr }

def decodeLogging (value : Value) : Except String LoggingConfigSnapshot :=
  if !(isExactObject value ["level", "mutability"] &&
      ((value.get "level").isString "debug" || (value.get "level").isString "info" ||
        (value.get "level").isString "warn" || (value.get "level").isString "error") &&
      (value.get "mutability").isString "startup-only") then
    .error "snapshot logging config is invalid"
  else .ok
    { level := (value.get "level").toStr
      mutability := (value.get "mutability").toStr }

/-! ### The configuration -/

/-- **`decodeConfig`**, or the message of what it throws. -/
def decodeConfig (value : Value) : Except String LoadgenConfigSnapshot :=
  if !isExactObject value ["logging", "metricsWindowMs", "readerChannelCapacity",
      "readerReadBatchSize", "readerWorkers", "senderChannelCapacity", "senderWorkers",
      "throttlerInstalled", "throttlerRequestedTps"] then
    .error ("snapshot config must contain exactly reader, readerChannel, senderChannel, " ++
      "throttler, and metrics controls")
  else do
    let readerReadBatchSize ← decodeReadBatchSize (value.get "readerReadBatchSize")
    let readerWorkers ← decodeReaderWorkers (value.get "readerWorkers")
    let metricsWindowMs ← decodeMetricsWindow (value.get "metricsWindowMs")
    let readerChannelCapacity ← decodeReaderChannelCapacity (value.get "readerChannelCapacity")
    let senderChannelCapacity ← decodeSenderChannelCapacity (value.get "senderChannelCapacity")
    let throttlerRequestedTps ← decodeRequestedTps (value.get "throttlerRequestedTps")
    let throttlerInstalled ← decodeInstalled (value.get "throttlerInstalled")
    let senderWorkers ← decodeSenderWorkers (value.get "senderWorkers")
    let logging ← decodeLogging (value.get "logging")
    return { readerReadBatchSize, readerWorkers := some readerWorkers, readerChannelCapacity,
             senderChannelCapacity, metricsWindowMs, throttlerRequestedTps, throttlerInstalled,
             senderWorkers, logging := some logging }

end IngestionLab.Frontend
