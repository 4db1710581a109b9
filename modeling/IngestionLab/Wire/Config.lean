import IngestionLab.Frontend.HttpConfig
import IngestionLab.Loadgen.Config.Valid
import IngestionLab.Loadgen.HttpSnapshot

/-!
# The settings, sent and decoded

A configuration that passes the checks of the load generator, and whose integers are safe
in JavaScript, passes those of the frontend, which then knows the same settings
(`IngestionLab.decodeConfig_toJson`). And for such a setting the values the frontend takes
are the integers the load generator takes (`IngestionLab.RangeConfig.isRangeValue_iff`,
`IngestionLab.AllowedConfig.contains_iff`).
-/

namespace IngestionLab

open Frontend JS

/-! ### Objects -/

/-- The names of the fields of an object that has been sent. -/
theorem keys_parse (fields : List (String × Json)) :
    (parse (.object fields)).keys = (fields.map Prod.fst).dedup := by
  have hnames : ∀ fields, (parseFields fields).map Prod.fst = fields.map Prod.fst := by
    intro fields
    induction fields with
    | nil => rfl
    | cons field fields ih =>
      obtain ⟨key, value⟩ := field
      rw [parseFields, List.map_cons, ih, List.map_cons]
  rw [parse, Value.keys, hnames]

theorem isExactObject_parse {fields : List (String × Json)} {keys : List String}
    (names : List String) (hnames : fields.map Prod.fst = names)
    (hkeys : names.dedup.insertionSort (· ≤ ·) = keys) :
    isExactObject (parse (.object fields)) keys = true := by
  rw [isExactObject.eq_def, parse]
  dsimp only
  rw [← parse, keys_parse, hnames, hkeys]
  exact beq_self_eq_true keys

/-! ### Numbers -/

theorem isWireInteger_iff {n : Number} :
    isWireInteger (.number n) = true ↔ ∃ z : ℤ, n = z ∧ 0 ≤ z ∧ z ≤ Number.maxSafeInteger := by
  rw [isWireInteger, Bool.and_eq_true, Bool.and_eq_true, Number.isSafeInteger_iff]
  constructor
  · rintro ⟨⟨-, z, rfl, -, hz⟩, hle⟩
    rw [Number.le_coe] at hle
    exact ⟨z, rfl, of_decide_eq_true hle, hz⟩
  · rintro ⟨z, rfl, hnonneg, hz⟩
    refine ⟨⟨rfl, z, rfl, ?_, hz⟩, ?_⟩
    · rw [Number.maxSafeInteger]
      omega
    · rw [Number.le_coe]
      exact decide_eq_true hnonneg

theorem isWireInteger_coe {z : ℤ} (hnonneg : 0 ≤ z) (hsafe : z ≤ Number.maxSafeInteger) :
    isWireInteger (.number z) = true := isWireInteger_iff.mpr ⟨z, rfl, hnonneg, hsafe⟩

/-! ### Ranges -/

/-- The setting the frontend knows. -/
def RangeConfig.toSnapshot (p : RangeConfig) : RangeControlConfigSnapshot where
  initial := p.initial
  min := p.min
  max := p.max
  step := p.step
  unit := p.unit
  mutability := p.mutability

/-- The integers of a range are safe. -/
structure RangeConfig.Safe (p : RangeConfig) : Prop where
  initial : p.initial ≤ Number.maxSafeInteger
  min : p.min ≤ Number.maxSafeInteger
  max : p.max ≤ Number.maxSafeInteger
  step : p.step ≤ Number.maxSafeInteger

theorem RangeConfig.contains_iff {p : RangeConfig} {z : ℤ} :
    p.contains z = true ↔ p.min ≤ z ∧ z ≤ p.max ∧ (z - p.min).tmod p.step = 0 := by
  simp only [contains, Bool.and_eq_true, decide_eq_true_eq, beq_iff_eq, and_assoc]

/-- **The frontend takes the values the load generator takes**, of a range. -/
theorem RangeConfig.isRangeValue_iff {p : RangeConfig} {n : Number} (hmin : 0 ≤ p.min)
    (hstep : 0 < p.step) (hmax : p.max ≤ Number.maxSafeInteger) :
    isRangeValue (.number n) p.toSnapshot = true ↔ ∃ z : ℤ, n = z ∧ p.contains z = true := by
  have hinteger : ∀ z : ℤ, p.min ≤ z →
      (((z : Number).sub p.toSnapshot.min).rem p.toSnapshot.step == (0 : ℤ)) =
        ((z - p.min).tmod p.step == 0) := by
    intro z hz
    have hsub : (z : Number).sub p.toSnapshot.min = ((z - p.min : ℤ) : Number) := by
      rw [toSnapshot, Number.sub, Int.cast_sub]
    rw [hsub, toSnapshot, Number.rem_coe (sub_nonneg.mpr hz) hstep, Bool.eq_iff_iff, beq_iff_eq,
      beq_iff_eq, Number.coe_inj]
  rw [isRangeValue, Bool.and_eq_true, Bool.and_eq_true, Bool.and_eq_true, isWireInteger_iff]
  constructor
  · rintro ⟨⟨⟨⟨z, rfl, -, -⟩, hlow⟩, hhigh⟩, hrem⟩
    have hz : p.min ≤ z := of_decide_eq_true ((Number.le_coe _ _).symm.trans hlow)
    have hz' : z ≤ p.max := of_decide_eq_true ((Number.le_coe _ _).symm.trans hhigh)
    exact ⟨z, rfl, contains_iff.mpr ⟨hz, hz', beq_iff_eq.mp ((hinteger z hz).symm.trans hrem)⟩⟩
  · rintro ⟨z, rfl, hz⟩
    obtain ⟨hlow, hhigh, hrem⟩ := contains_iff.mp hz
    exact ⟨⟨⟨⟨z, rfl, hmin.trans hlow, hhigh.trans hmax⟩,
      (Number.le_coe _ _).trans (decide_eq_true hlow)⟩,
      (Number.le_coe _ _).trans (decide_eq_true hhigh)⟩,
      (hinteger z hlow).trans (beq_iff_eq.mpr hrem)⟩

theorem RangeConfig.isExactObject_toJson (p : RangeConfig) :
    isExactObject (parse p.toJson) ["initial", "max", "min", "mutability", "step", "unit"] = true :=
  isExactObject_parse ["initial", "min", "max", "step", "unit", "mutability"] rfl (by decide)

/-- **A range is decoded.** -/
theorem RangeConfig.decodeRange_toJson {p : RangeConfig} {unit mutability : String}
    {bounded : RangeControlConfigSnapshot → Bool} {invalid initialInvalid : String}
    (h : p.Valid unit mutability) (hmin : 0 ≤ p.min) (hsafe : p.Safe)
    (hbounded : bounded p.toSnapshot = true) :
    decodeRange unit mutability bounded invalid initialInvalid (parse p.toJson) =
      .ok p.toSnapshot := by
  have hcontains := contains_iff.mp h.contains
  have hinitial : isWireInteger ((parse p.toJson).get "initial") = true :=
    isWireInteger_coe (hmin.trans hcontains.1) hsafe.initial
  have hmin' : isWireInteger ((parse p.toJson).get "min") = true := isWireInteger_coe hmin hsafe.min
  have hmax : isWireInteger ((parse p.toJson).get "max") = true :=
    isWireInteger_coe (hmin.trans h.range) hsafe.max
  have hstep : isWireInteger ((parse p.toJson).get "step") = true :=
    isWireInteger_coe h.step.le hsafe.step
  have hunit : ((parse p.toJson).get "unit").isString unit = true := beq_iff_eq.mpr h.unit
  have hmutability : ((parse p.toJson).get "mutability").isString mutability = true :=
    beq_iff_eq.mpr h.mutability
  have hvalue : isRangeValue ((parse p.toJson).get "initial") p.toSnapshot = true :=
    (isRangeValue_iff hmin h.step hsafe.max).mpr ⟨p.initial, rfl, h.contains⟩
  have hrecord : asRange (parse p.toJson) = p.toSnapshot := rfl
  rw [decodeRange, isExactObject_toJson, hinitial, hmin', hmax, hstep, hrecord, hbounded, hunit,
    hmutability, hvalue]
  rfl

/-! ### Lists of values -/

/-- The setting the frontend knows. -/
def AllowedConfig.toSnapshot (p : AllowedConfig) : AllowedControlConfigSnapshot where
  initial := p.initial
  allowed := p.allowed.map fun z : ℤ => (z : Number)
  unit := p.unit
  mutability := p.mutability

/-- The integers of a list of values are safe. -/
structure AllowedConfig.Safe (p : AllowedConfig) : Prop where
  initial : p.initial ≤ Number.maxSafeInteger
  allowed : ∀ z ∈ p.allowed, z ≤ Number.maxSafeInteger

/-- **The frontend takes the values the load generator takes**, of a list. -/
theorem AllowedConfig.contains_iff {p : AllowedConfig} {n : Number} :
    p.toSnapshot.allowed.contains n = true ↔ ∃ z : ℤ, n = z ∧ p.contains z = true := by
  rw [toSnapshot, List.contains_iff_mem, List.mem_map]
  constructor
  · rintro ⟨z, hz, rfl⟩
    exact ⟨z, rfl, decide_eq_true hz⟩
  · rintro ⟨z, rfl, hz⟩
    exact ⟨z, mem_of_contains hz, rfl⟩

theorem increasing_of_pairwise {values : List ℤ} (h : values.Pairwise (· < ·)) :
    increasing (values.map fun z : ℤ => (z : Number)) = true := by
  induction values with
  | nil => rfl
  | cons a values ih =>
    cases values with
    | nil => rfl
    | cons b values =>
      obtain ⟨hlt, hrest⟩ := List.pairwise_cons.mp h
      have hle : Number.le (b : Number) (a : Number) = false := by
        rw [Number.le_coe]
        exact decide_eq_false (not_le.mpr (hlt b List.mem_cons_self))
      rw [List.map_cons, List.map_cons, increasing, hle]
      exact ih hrest

/-- **A list of values is decoded.** -/
theorem AllowedConfig.decodeAllowed_toJson {p : AllowedConfig} {invalid valuesInvalid : String}
    (h : p.Valid) (hsafe : p.Safe) :
    decodeAllowed invalid valuesInvalid (parse p.toJson) = .ok p.toSnapshot := by
  have hkeys : isExactObject (parse p.toJson) ["allowed", "initial", "mutability", "unit"] = true :=
    isExactObject_parse ["initial", "allowed", "unit", "mutability"] rfl (by decide)
  have hlist : ((parse p.toJson).get "allowed").toList =
      p.allowed.map fun z : ℤ => Value.number z := by
    change parseValues (p.allowed.map .int) = _
    rw [parseValues_eq_map, List.map_map]
    rfl
  have hnumbers : (((parse p.toJson).get "allowed").toList).map Value.toNumber =
      p.toSnapshot.allowed := by
    rw [hlist, List.map_map]
    rfl
  have hnonempty : ((parse p.toJson).get "allowed").toList.isEmpty = false := by
    rw [hlist, List.isEmpty_map]
    exact List.isEmpty_eq_false_iff.mpr h.nonempty
  have hall : ((parse p.toJson).get "allowed").toList.all isWireInteger = true := by
    rw [hlist, List.all_map, List.all_eq_true]
    exact fun z hz => isWireInteger_coe (h.nonneg z hz) (hsafe.allowed z hz)
  have hunit : ((parse p.toJson).get "unit").isString "batches" = true := beq_iff_eq.mpr h.unit
  have hmutability : ((parse p.toJson).get "mutability").isString "idle-only" = true :=
    beq_iff_eq.mpr h.mutability
  have hincreasing : increasing p.toSnapshot.allowed = true := increasing_of_pairwise h.increasing
  have hinitial : isWireInteger ((parse p.toJson).get "initial") = true :=
    isWireInteger_coe (h.nonneg _ (mem_of_contains h.contains)) hsafe.initial
  have hcontains : p.toSnapshot.allowed.contains ((parse p.toJson).get "initial").toNumber = true :=
    contains_iff.mpr ⟨p.initial, rfl, h.contains⟩
  rw [decodeAllowed, hkeys, hnonempty, hall, hunit, hmutability, hnumbers, hincreasing, hinitial, hcontains]
  rfl

/-! ### The other settings -/

/-- The modes the frontend knows. -/
def InstalledConfig.toSnapshot (p : InstalledConfig) : InstalledConfigSnapshot where
  initial := p.initial
  allowed := p.allowed
  mutability := p.mutability

/-- **The modes are decoded.** -/
theorem InstalledConfig.decodeInstalled_toJson {p : InstalledConfig} (h : p.Valid) :
    decodeInstalled (parse p.toJson) = .ok p.toSnapshot := by
  obtain ⟨initial, allowed, mutability⟩ := p
  obtain ⟨hmutability, hlength, ⟨htrue, hfalse⟩, hinitial⟩ := h
  obtain rfl : mutability = immediate := hmutability
  obtain ⟨a, b, rfl⟩ := List.length_eq_two.mp hlength
  -- Two modes that contain both are the two, in one order or the other.
  have hboth : b = !a := by
    simp only [contains, List.mem_cons, List.not_mem_nil, or_false, decide_eq_true_eq] at htrue hfalse
    revert htrue hfalse
    cases a <;> cases b <;> decide
  have hkeys : ∀ values, isExactObject (parse (.object [("initial", .bool initial),
      ("allowed", .array values), ("mutability", .string immediate)]))
      ["allowed", "initial", "mutability"] = true := fun values =>
    isExactObject_parse ["initial", "allowed", "mutability"] rfl (by decide)
  rw [decodeInstalled, toJson]
  dsimp only
  rw [hkeys, hboth]
  cases a <;> cases initial <;> rfl

/-- **The workers of the sender are decoded.** -/
theorem decodeSenderWorkers_toJson :
    decodeSenderWorkers (parse (⟨32, 1, 32, 1, workersUnit, immediate⟩ : RangeConfig).toJson) =
      .ok (⟨32, 1, 32, 1, workersUnit, immediate⟩ : RangeConfig).toSnapshot := by
  rw [decodeSenderWorkers, RangeConfig.isExactObject_toJson]
  rfl

/-- The logging the frontend knows. -/
def LoggingConfig.toSnapshot (p : LoggingConfig) : LoggingConfigSnapshot where
  level := p.level
  mutability := p.mutability

/-- **The logging is decoded.** -/
theorem LoggingConfig.decodeLogging_toJson {p : LoggingConfig} (h : p.validate = none) :
    decodeLogging (parse p.toJson) = .ok p.toSnapshot := by
  rw [validate] at h
  split_ifs at h with hmutability hlevel
  obtain ⟨level, mutability⟩ := p
  obtain rfl : mutability = startupOnly := not_not.mp hmutability
  have hkeys : isExactObject (parse (LoggingConfig.toJson ⟨level, startupOnly⟩))
      ["level", "mutability"] = true :=
    isExactObject_parse ["level", "mutability"] rfl (by decide)
  rw [decodeLogging, hkeys]
  -- One of the four levels is the one sent.
  have hone : level = "debug" ∨ level = "info" ∨ level = "warn" ∨ level = "error" := by
    simpa using hlevel
  rcases hone with rfl | rfl | rfl | rfl <;> rfl

/-! ### The configuration -/

/-- The settings the frontend knows. -/
def Config.toSnapshot (cfg : Config) : LoadgenConfigSnapshot where
  readerReadBatchSize := cfg.reader.readBatchSize.toSnapshot
  readerWorkers := some cfg.reader.workers.toSnapshot
  readerChannelCapacity := cfg.readerChannel.capacity.toSnapshot
  senderChannelCapacity := cfg.senderChannel.capacity.toSnapshot
  metricsWindowMs := cfg.metrics.windowMS.toSnapshot
  throttlerRequestedTps := cfg.throttler.requestedTPS.toSnapshot
  throttlerInstalled := cfg.throttler.installed.toSnapshot
  senderWorkers := cfg.sender.workers.toSnapshot
  logging := some cfg.logging.toSnapshot

/-- **The integers of the settings are safe** in JavaScript. -/
structure Config.Safe (cfg : Config) : Prop where
  readBatchSize : cfg.reader.readBatchSize.Safe
  readerWorkers : cfg.reader.workers.Safe
  readerChannel : cfg.readerChannel.capacity.Safe
  senderChannel : cfg.senderChannel.capacity.Safe
  requestedTPS : cfg.throttler.requestedTPS.Safe
  senderWorkers : cfg.sender.workers.Safe
  windowMS : cfg.metrics.windowMS.Safe

/-- **A valid configuration is decoded**, and the frontend knows its settings. -/
theorem decodeConfig_toJson {net : NetParsers} {cfg : Config} (hvalid : cfg.validate net = none)
    (hsafe : cfg.Safe) :
    decodeConfig (parse (runtimeConfigStatusFromConfig cfg).toJson) = .ok cfg.toSnapshot := by
  have h := Config.valid_of_validate hvalid
  obtain ⟨-, -, -, -, -, -, -, htps, -, -, -, hlogging⟩ := Config.checks_of_validate hvalid
  obtain ⟨-, -, htps⟩ := RangeConfig.valid_of_validateRequestedTPS htps
  have hkeys : isExactObject (parse (runtimeConfigStatusFromConfig cfg).toJson)
      ["logging", "metricsWindowMs", "readerChannelCapacity", "readerReadBatchSize",
        "readerWorkers", "senderChannelCapacity", "senderWorkers", "throttlerInstalled",
        "throttlerRequestedTps"] = true :=
    isExactObject_parse ["readerReadBatchSize", "readerWorkers", "readerChannelCapacity",
      "senderChannelCapacity", "throttlerRequestedTps", "throttlerInstalled", "metricsWindowMs",
      "senderWorkers", "logging"] rfl (by decide)
  have hpositive : ∀ {p : RangeConfig}, 0 < p.min → p.min ≤ p.max → 0 < p.step →
      positiveRange p.toSnapshot = true := by
    intro p hmin hmax hstep
    rw [positiveRange, RangeConfig.toSnapshot, Number.lt_coe, Number.le_coe, Number.lt_coe,
      decide_eq_true hmin, decide_eq_true hmax, decide_eq_true hstep]
    rfl
  have hbatch : decodeReadBatchSize (parse cfg.reader.readBatchSize.toJson) =
      .ok cfg.reader.readBatchSize.toSnapshot :=
    RangeConfig.decodeRange_toJson h.readBatchSize h.readBatchSizeMin.le hsafe.readBatchSize
      (hpositive h.readBatchSizeMin h.readBatchSize.range h.readBatchSize.step)
  have hworkers : decodeReaderWorkers (parse cfg.reader.workers.toJson) =
      .ok cfg.reader.workers.toSnapshot := by
    have hworkersSafe := hsafe.readerWorkers
    rw [h.readerWorkers] at hworkersSafe ⊢
    exact RangeConfig.decodeRange_toJson ⟨rfl, rfl, by decide, by decide, rfl⟩ (by decide)
      hworkersSafe (hpositive (by decide) (by decide) (by decide))
  have hwindow : decodeMetricsWindow (parse cfg.metrics.windowMS.toJson) =
      .ok cfg.metrics.windowMS.toSnapshot := by
    refine RangeConfig.decodeRange_toJson h.windowMS (by have := h.windowMSBounds.1; omega)
      hsafe.windowMS ?_
    rw [RangeConfig.toSnapshot, Number.le_coe, Number.le_coe, Number.le_coe, Number.lt_coe,
      decide_eq_true h.windowMSBounds.1, decide_eq_true h.windowMSBounds.2,
      decide_eq_true h.windowMS.range, decide_eq_true h.windowMS.step]
    rfl
  have hrequested : decodeRequestedTps (parse cfg.throttler.requestedTPS.toJson) =
      .ok cfg.throttler.requestedTPS.toSnapshot := by
    refine RangeConfig.decodeRange_toJson h.requestedTPS h.requestedTPSMin hsafe.requestedTPS ?_
    rw [RangeConfig.toSnapshot, Number.lt_coe, Number.lt_coe, decide_eq_true htps,
      decide_eq_true h.requestedTPS.step]
    rfl
  have hsender : decodeSenderWorkers (parse cfg.sender.workers.toJson) =
      .ok cfg.sender.workers.toSnapshot := by
    rw [h.senderWorkers]
    exact decodeSenderWorkers_toJson
  have hreader : decodeReaderChannelCapacity (parse cfg.readerChannel.capacity.toJson) =
      .ok cfg.readerChannel.capacity.toSnapshot :=
    AllowedConfig.decodeAllowed_toJson h.readerChannel hsafe.readerChannel
  have hsenderChannel : decodeSenderChannelCapacity (parse cfg.senderChannel.capacity.toJson) =
      .ok cfg.senderChannel.capacity.toSnapshot :=
    AllowedConfig.decodeAllowed_toJson h.senderChannel hsafe.senderChannel
  rw [decodeConfig, hkeys]
  change (decodeReadBatchSize (parse cfg.reader.readBatchSize.toJson) >>= fun _ =>
    decodeReaderWorkers (parse cfg.reader.workers.toJson) >>= fun _ =>
    decodeMetricsWindow (parse cfg.metrics.windowMS.toJson) >>= fun _ =>
    decodeReaderChannelCapacity (parse cfg.readerChannel.capacity.toJson) >>= fun _ =>
    decodeSenderChannelCapacity (parse cfg.senderChannel.capacity.toJson) >>= fun _ =>
    decodeRequestedTps (parse cfg.throttler.requestedTPS.toJson) >>= fun _ =>
    decodeInstalled (parse cfg.throttler.installed.toJson) >>= fun _ =>
    decodeSenderWorkers (parse cfg.sender.workers.toJson) >>= fun _ =>
    decodeLogging (parse cfg.logging.toJson) >>= fun _ => _) = _
  rw [hbatch, hworkers, hwindow, hreader, hsenderChannel, hrequested,
    InstalledConfig.decodeInstalled_toJson h.installed, hsender,
    LoggingConfig.decodeLogging_toJson hlogging]
  rfl

end IngestionLab
