import IngestionLab.Frontend.HttpDecode
import IngestionLab.Loadgen.CliRemote
import IngestionLab.Loadgen.EventLoop.Reported
import IngestionLab.Loadgen.ReaderPool.SourcePath
import IngestionLab.Wire.Commands
import IngestionLab.Wire.Config

/-!
# The status, sent and decoded

A status in order is taken by both clients: the frontend decodes it into the same values
(`IngestionLab.RuntimeStatus.InOrder.decodeWireSnapshot_toJson`), and so does the command
line.

* `IngestionLab.both_clients_take`: **both clients take every status that is answered**, for
  every source but one.
* `IngestionLab.both_clients_take_iff`: that one is the root, and what they do not take are
  its errors.
-/

namespace IngestionLab

open Frontend JS Go Decoder

/-! ### Values -/

theorem isWireNumber_floatToJson {r : ℚ} (h : 0 ≤ r) :
    isWireNumber (parse (floatToJson r)) = true ∧ (parse (floatToJson r)).toNumber = .finite r := by
  have hle : Number.le (0 : ℤ) (.finite r) = true := by
    rw [Number.le]
    exact decide_eq_true (by exact_mod_cast h)
  rw [floatToJson]
  split_ifs with hint
  · have hr : ((r.num : ℤ) : Number) = .finite r := (Number.mem_toInt?.mp (if_pos hint.1)).symm
    rw [parse, hr]
    exact ⟨hle, rfl⟩
  · exact ⟨hle, rfl⟩

theorem isText_string {text : String} (h : text ≠ "") : isText (.string text) = true :=
  bne_iff_ne.mpr h

theorem startsWith_string {text start : String} (h : ¬start.toList <+: text.toList) :
    startsWith (.string text) start = false := by
  rw [startsWith, Bool.eq_false_iff]
  exact fun hc => h (List.isPrefixOf_iff_prefix.mp hc)

/-! ### Pools -/

/-- **The numbers of a pool that adds up are taken.** -/
theorem isPool_of_counts {value : Value} {state : Frontend.RunState}
    {n₁ n₂ n₃ d₁ d₂ d₃ : String} {live c₁ c₂ c₃ draining e₁ e₂ e₃ : ℕ}
    (hlive : value.get "liveWorkers" = .number (live : ℤ))
    (hdraining : value.get "drainingWorkers" = .number (draining : ℤ))
    (hcounts : value.get n₁ = .number (c₁ : ℤ) ∧ value.get n₂ = .number (c₂ : ℤ) ∧
      value.get n₃ = .number (c₃ : ℤ))
    (hdrainingCounts : value.get d₁ = .number (e₁ : ℤ) ∧ value.get d₂ = .number (e₂ : ℤ) ∧
      value.get d₃ = .number (e₃ : ℤ))
    (hsafe : (live : ℤ) ≤ Number.maxSafeInteger) (hsum : c₁ + c₂ + c₃ = live)
    (hdrainingSum : e₁ + e₂ + e₃ = draining) (hle : e₁ ≤ c₁ ∧ e₂ ≤ c₂ ∧ e₃ ≤ c₃)
    (hrest : state = .idle ∨ state = .faulted → live = 0) :
    isPool value [n₁, n₂, n₃] [d₁, d₂, d₃] state = true := by
  obtain ⟨h₁, h₂, h₃⟩ := hcounts
  obtain ⟨g₁, g₂, g₃⟩ := hdrainingCounts
  have hinteger : ∀ n : ℕ, n ≤ live → isWireInteger (.number (n : ℤ)) = true := fun n hn =>
    isWireInteger_coe (Int.natCast_nonneg n) ((Int.ofNat_le.mpr hn).trans hsafe)
  have hlt : ∀ {m n : ℕ}, n ≤ m → Number.lt (m : ℤ) (n : ℤ) = false := fun h => by
    rw [Number.lt_coe]
    exact decide_eq_false (by omega)
  have hadd : ∀ a b c : ℕ, (((((0 : ℤ) : Number).add (a : ℤ)).add (b : ℤ)).add (c : ℤ) : Number) =
      ((a + b + c : ℕ) : ℤ) := fun a b c => by
    rw [Number.add_coe, Number.add_coe, Number.add_coe, zero_add]
    push_cast
    rfl
  have hnumber : ∀ n : ℕ, (Value.number (n : ℤ)).isNumber (n : ℤ) = true := fun n =>
    beq_self_eq_true _
  have hnone : (state == .idle || state == .faulted) = true → live = 0 ∧ draining = 0 := by
    intro hstate
    rw [Bool.or_eq_true, beq_iff_eq, beq_iff_eq] at hstate
    have hlive := hrest hstate
    omega
  simp only [isPool, List.map_cons, List.map_nil, List.all_cons, List.all_nil, List.foldl_cons,
    List.foldl_nil, List.zip_cons_cons, List.zip_nil_right, hlive, hdraining, h₁, h₂, h₃, g₁, g₂, g₃,
    Value.toNumber, hadd, hsum, hdrainingSum, hnumber, hlt hle.1, hlt hle.2.1, hlt hle.2.2,
    hinteger live le_rfl, hinteger draining (by omega), hinteger c₁ (by omega),
    hinteger c₂ (by omega), hinteger c₃ (by omega), hinteger e₁ (by omega),
    hinteger e₂ (by omega), hinteger e₃ (by omega), Bool.not_false, Bool.and_self, Bool.true_and,
    Bool.not_eq_true', Bool.and_eq_false_iff]
  by_cases hstate : (state == .idle || state == .faulted) = true
  · obtain ⟨rfl, rfl⟩ := hnone hstate
    right
    rfl
  · exact Or.inl (Bool.eq_false_iff.mpr hstate)

/-! ### Channels -/

/-- What the frontend knows of a channel. -/
def ChannelMeasurements.toWire (m : ChannelMeasurements) : WireChannelSnapshot where
  capacity := m.capacity
  depthBatches := m.depthBatches
  bufferedTransactions := m.bufferedTransactions
  blockedSenders := m.blockedSenders
  oldestBlockedSenderMs := m.oldestBlockedSenderMs
  blockedMs := m.blockedMs
  sentBatchesTotal := m.sentBatchesTotal
  sentTransactionsTotal := m.sentTransactionsTotal
  receivedBatchesTotal := m.receivedBatchesTotal
  receivedTransactionsTotal := m.receivedTransactionsTotal
  inputBatchesPerSecond := .finite m.sentBatchesPerSecond
  inputTransactionsPerSecond := .finite m.sentTransactionsPerSecond
  outputBatchesPerSecond := .finite m.receivedBatchesPerSecond
  outputTransactionsPerSecond := .finite m.receivedTransactionsPerSecond

/-- **A channel is decoded.** -/
theorem ChannelMeasurements.decodeChannelSnapshot_toJson {m : ChannelMeasurements}
    {p : AllowedConfig} (hp : p.Valid) (hsafe : p.Safe) (hcapacity : p.contains m.capacity = true)
    (hnonneg : m.Nonneg) (hcounters : ∀ z ∈ m.counters, z ≤ Number.maxSafeInteger) :
    decodeChannelSnapshot (parse m.toJson) p.toSnapshot.allowed = .ok m.toWire := by
  have hkeys : isExactObject (parse m.toJson) channelKeys = true :=
    isExactObject_parse ["capacity", "depthBatches", "bufferedTransactions", "blockedSenders",
      "oldestBlockedSenderMs", "blockedMs", "sentBatchesTotal", "sentTransactionsTotal",
      "receivedBatchesTotal", "receivedTransactionsTotal", "inputBatchesPerSecond",
      "inputTransactionsPerSecond", "outputBatchesPerSecond", "outputTransactionsPerSecond"]
      rfl (by decide)
  have hinteger : ∀ z ∈ m.counters, isWireInteger (.number z) = true := fun z hz =>
    isWireInteger_coe (hnonneg.counters z hz) (hcounters z hz)
  simp only [counters, List.forall_mem_cons] at hinteger
  obtain ⟨h1, h2, h3, h4, h5, h6, h7, h8, h9, -⟩ := hinteger
  have hmem := AllowedConfig.mem_of_contains hcapacity
  have hallowed : isWireInteger (.number m.capacity) = true :=
    isWireInteger_coe (hp.nonneg _ hmem) (hsafe.allowed _ hmem)
  have hcontains : p.toSnapshot.allowed.contains (m.capacity : Number) = true :=
    AllowedConfig.contains_iff.mpr ⟨m.capacity, rfl, hcapacity⟩
  have hrates := fun r hr => isWireNumber_floatToJson (hnonneg.rates r hr)
  simp only [List.forall_mem_cons] at hrates
  obtain ⟨⟨r1, r1'⟩, ⟨r2, r2'⟩, ⟨r3, r3'⟩, ⟨r4, r4'⟩, -⟩ := hrates
  have hchannel : isChannel (parse m.toJson) p.toSnapshot.allowed = true := by
    change (isWireInteger (.number m.capacity) && p.toSnapshot.allowed.contains (m.capacity : Number) &&
      isWireInteger (.number m.depthBatches) && isWireInteger (.number m.bufferedTransactions) &&
      isWireInteger (.number m.blockedSenders) && isWireInteger (.number m.oldestBlockedSenderMs) &&
      isWireInteger (.number m.blockedMs) && isWireInteger (.number m.sentBatchesTotal) &&
      isWireInteger (.number m.sentTransactionsTotal) &&
      isWireInteger (.number m.receivedBatchesTotal) &&
      isWireInteger (.number m.receivedTransactionsTotal) &&
      isWireNumber (parse (floatToJson m.sentBatchesPerSecond)) &&
      isWireNumber (parse (floatToJson m.sentTransactionsPerSecond)) &&
      isWireNumber (parse (floatToJson m.receivedBatchesPerSecond)) &&
      isWireNumber (parse (floatToJson m.receivedTransactionsPerSecond))) = true
    rw [hallowed, hcontains, h1, h2, h3, h4, h5, h6, h7, h8, h9, r1, r2, r3, r4]
    rfl
  have hrecord : asChannel (parse m.toJson) =
      { m.toWire with
        inputBatchesPerSecond := (parse (floatToJson m.sentBatchesPerSecond)).toNumber
        inputTransactionsPerSecond := (parse (floatToJson m.sentTransactionsPerSecond)).toNumber
        outputBatchesPerSecond := (parse (floatToJson m.receivedBatchesPerSecond)).toNumber
        outputTransactionsPerSecond :=
          (parse (floatToJson m.receivedTransactionsPerSecond)).toNumber } := rfl
  rw [decodeChannelSnapshot, hkeys, hchannel, hrecord, r1', r2', r3', r4']
  rfl

/-! ### The other sections -/

/-- The state the frontend knows. A reset that is not over is never reported. -/
def RunState.toWire : RunState → Frontend.RunState
  | idle | resetting => .idle
  | running => .running
  | paused => .paused
  | faulted => .faulted

theorem asRunState?_text {state : RunState} (h : state ≠ .resetting) :
    asRunState? (.string state.text) = some state.toWire := by
  cases state <;> first | rfl | exact absurd rfl h

/-- The source error the frontend knows. -/
def ReaderSourceError.toWire (error : ReaderSourceError) : ReaderSourceErrorSnapshot where
  operation := error.operation
  relativePath := error.relativePath
  message := error.message

/-- What the frontend knows of the reader. -/
def RuntimeReaderStatus.toWire (status : RuntimeReaderStatus) : WireReader where
  workers := status.workers
  liveWorkers := (status.pool.liveWorkers : ℤ)
  idleWorkers := (status.pool.idleWorkers : ℤ)
  readingWorkers := (status.pool.readingWorkers : ℤ)
  blockedWorkers := (status.pool.blockedWorkers : ℤ)
  drainingWorkers := (status.pool.drainingWorkers : ℤ)
  drainingIdleWorkers := (status.pool.drainingIdleWorkers : ℤ)
  drainingReadingWorkers := (status.pool.drainingReadingWorkers : ℤ)
  drainingBlockedWorkers := (status.pool.drainingBlockedWorkers : ℤ)
  readBatchSize := status.readBatchSize
  readTps := .finite status.readTps
  rowsRead := status.rowsRead
  sourceDirectory := status.sourceDirectory
  sourceError := status.sourceError.map ReaderSourceError.toWire

/-- What the frontend knows of the throttler. -/
def RuntimeThrottlerStatus.toWire (status : RuntimeThrottlerStatus) : WireThrottler where
  requestedTps := status.requestedTps
  admittedTps := .finite status.admittedTps
  installed := status.installed

/-- What the frontend knows of the sender. -/
def RuntimeSenderStatus.toWire (status : RuntimeSenderStatus) : WireSender where
  workers := status.workers
  liveWorkers := (status.pool.liveWorkers : ℤ)
  idleWorkers := (status.pool.idleWorkers : ℤ)
  inFlightWorkers := (status.pool.inFlightWorkers : ℤ)
  backoffWorkers := (status.pool.backoffWorkers : ℤ)
  drainingWorkers := (status.pool.drainingWorkers : ℤ)
  drainingIdleWorkers := (status.pool.drainingIdleWorkers : ℤ)
  drainingInFlightWorkers := (status.pool.drainingInFlightWorkers : ℤ)
  drainingBackoffWorkers := (status.pool.drainingBackoffWorkers : ℤ)

/-- **What the frontend knows** of a status. -/
def RuntimeStatus.toWire (cfg : Config) (status : RuntimeStatus) : WireSnapshot where
  run :=
    { state := status.run.state.toWire
      totalTransactions := status.run.totalTransactions
      elapsedMs := status.run.elapsedMs }
  reader := status.reader.toWire
  throttler := status.throttler.toWire
  sender := status.sender.toWire
  readerChannel := status.readerChannel.toWire
  senderChannel := status.senderChannel.toWire
  config := cfg.toSnapshot

/-- **The error of a file that is not the root is taken.** -/
theorem ReaderSourceError.isSourceError_toJson {error : ReaderSourceError}
    (h : error.MadeOf fun path => ∃ c ∈ path, c ≠ '/') : isSourceError (parse error.toJson) = true := by
  obtain ⟨directory, operation, hoperation, path, hpath, message, hmessage, rfl⟩ := h
  have hne : path ≠ [] := by
    rintro rfl
    obtain ⟨c, hc, -⟩ := hpath
    exact absurd hc List.not_mem_nil
  obtain ⟨hsome, hrooted, hup⟩ := (isRelative_relativeSourcePath directory hne).mpr hpath
  have hkeys : ∀ error : ReaderSourceError,
      isExactObject (parse error.toJson) sourceErrorKeys = true := fun error =>
    isExactObject_parse ["category", "operation", "relativePath", "message"] rfl (by decide)
  have hknown : ["glob", "open", "read", "close", "reader-close"].any
      (Value.string operation).isString = true := by
    rw [List.any_eq_true]
    exact ⟨operation, hoperation, beq_self_eq_true operation⟩
  have htext : isText (.string (String.ofList (relativeSourcePath directory path))) = true :=
    isText_string fun hc => hsome (by simpa using congrArg String.toList hc)
  have hslash : startsWith (.string (String.ofList (relativeSourcePath directory path))) "/" =
      false := startsWith_string (by simpa using hrooted)
  have hdots : startsWith (.string (String.ofList (relativeSourcePath directory path))) "../" =
      false := startsWith_string (by simpa using hup)
  rw [isSourceError, hkeys]
  change (false || true && true && ["glob", "open", "read", "close", "reader-close"].any
      (Value.string operation).isString &&
    isText (.string (String.ofList (relativeSourcePath directory path))) &&
    !startsWith (.string (String.ofList (relativeSourcePath directory path))) "/" &&
    !startsWith (.string (String.ofList (relativeSourcePath directory path))) "../" &&
    isText (.string message)) = true
  rw [hknown, htext, hslash, hdots, isText_string hmessage]
  rfl

/-- **The error of the root is refused.** -/
theorem ReaderSourceError.isSourceError_toJson_of_slashes {error : ReaderSourceError}
    (h : error.MadeOf fun path => path ≠ [] ∧ ∀ c ∈ path, c = '/') :
    isSourceError (parse error.toJson) = false := by
  obtain ⟨directory, operation, -, path, ⟨hne, hslashes⟩, message, -, rfl⟩ := h
  have hnot : ¬IsRelative (relativeSourcePath directory path) := by
    rw [isRelative_relativeSourcePath directory hne]
    push Not
    exact hslashes
  by_contra htaken
  rw [Bool.not_eq_false, isSourceError, Bool.or_eq_true] at htaken
  simp only [Bool.and_eq_true] at htaken
  rcases htaken with hnull | ⟨⟨⟨⟨-, htext⟩, hslash⟩, hdots⟩, -⟩
  · cases hnull
  · change isText (.string (String.ofList (relativeSourcePath directory path))) = true at htext
    change (!startsWith (.string (String.ofList (relativeSourcePath directory path))) "/") =
      true at hslash
    change (!startsWith (.string (String.ofList (relativeSourcePath directory path))) "../") =
      true at hdots
    refine hnot ⟨?_, ?_, ?_⟩
    · rintro hnil
      rw [hnil] at htext
      exact absurd htext (by decide)
    · simpa [startsWith, Value.toStr, ← List.isPrefixOf_iff_prefix] using hslash
    · simpa [startsWith, Value.toStr, ← List.isPrefixOf_iff_prefix] using hdots

theorem ReaderSourceError.asSourceError_toJson (error : Option ReaderSourceError) :
    asSourceError (parse (error.elim .null ReaderSourceError.toJson)) =
      error.map ReaderSourceError.toWire := by
  cases error <;> rfl

/-! ### The frontend -/

/-- **The counters that are reported are safe** in JavaScript. -/
structure RuntimeStatus.Safe (status : RuntimeStatus) : Prop where
  totalTransactions : status.run.totalTransactions ≤ Number.maxSafeInteger
  elapsedMs : status.run.elapsedMs ≤ Number.maxSafeInteger
  rowsRead : status.reader.rowsRead ≤ Number.maxSafeInteger
  readerPool : ∀ z ∈ status.reader.pool.counts, z ≤ Number.maxSafeInteger
  senderPool : ∀ z ∈ status.sender.pool.counts, z ≤ Number.maxSafeInteger
  readerChannel : ∀ z ∈ status.readerChannel.counters, z ≤ Number.maxSafeInteger
  senderChannel : ∀ z ∈ status.senderChannel.counters, z ≤ Number.maxSafeInteger

theorem RangeConfig.isRangeValue_of_contains {p : RangeConfig} {z : ℤ} (hmin : 0 ≤ p.min)
    (hstep : 0 < p.step) (hsafe : p.Safe) (hz : p.contains z = true) :
    isRangeValue (.number z) p.toSnapshot = true :=
  (isRangeValue_iff hmin hstep hsafe.max).mpr ⟨z, rfl, hz⟩

section Sections

variable {net : NetParsers} {cfg : Config} {status : RuntimeStatus} {Fits : Path → Prop}

theorem RunState.eq_of_toWire {state : RunState}
    (h : state.toWire = .idle ∨ state.toWire = .faulted) (hresetting : state ≠ .resetting) :
    state = .idle ∨ state = .faulted := by
  cases state <;> simp_all [toWire]

/-- The numbers of the reader pool are taken. -/
theorem RuntimeStatus.InOrder.isPool_reader (h : status.InOrder cfg Fits) (hsafe : status.Safe) :
    isPool (parse status.reader.toJson) ["idleWorkers", "readingWorkers", "blockedWorkers"]
      ["drainingIdleWorkers", "drainingReadingWorkers", "drainingBlockedWorkers"]
      status.run.state.toWire = true := by
  obtain ⟨hsum, hdraining, hle⟩ := h.readerPool
  refine isPool_of_counts rfl rfl ⟨rfl, rfl, rfl⟩ ⟨rfl, rfl, rfl⟩
    (hsafe.readerPool _ List.mem_cons_self) hsum hdraining hle fun hstate => ?_
  rw [(h.atRest (RunState.eq_of_toWire hstate h.state)).1]

/-- The numbers of the sender pool are taken. -/
theorem RuntimeStatus.InOrder.isPool_sender (h : status.InOrder cfg Fits) (hsafe : status.Safe) :
    isPool (parse status.sender.toJson) ["idleWorkers", "inFlightWorkers", "backoffWorkers"]
      ["drainingIdleWorkers", "drainingInFlightWorkers", "drainingBackoffWorkers"]
      status.run.state.toWire = true := by
  obtain ⟨hsum, hdraining, hle⟩ := h.senderPool
  refine isPool_of_counts rfl rfl ⟨rfl, rfl, rfl⟩ ⟨rfl, rfl, rfl⟩
    (hsafe.senderPool _ List.mem_cons_self) hsum hdraining hle fun hstate => ?_
  rw [(h.atRest (RunState.eq_of_toWire hstate h.state)).2]

theorem RuntimeReaderStatus.asReader_toJson {status : RuntimeReaderStatus}
    (h : 0 ≤ status.readTps) : asReader (parse status.toJson) = status.toWire := by
  have hrecord : asReader (parse status.toJson) = { status.toWire with
      readTps := (parse (floatToJson status.readTps)).toNumber
      sourceError := asSourceError (parse (status.sourceError.elim .null ReaderSourceError.toJson)) } :=
    rfl
  rw [hrecord, (isWireNumber_floatToJson h).2, ReaderSourceError.asSourceError_toJson]
  rfl

theorem RuntimeThrottlerStatus.asThrottler_toJson {status : RuntimeThrottlerStatus}
    (h : 0 ≤ status.admittedTps) : asThrottler (parse status.toJson) = status.toWire := by
  have hrecord : asThrottler (parse status.toJson) = { status.toWire with
      admittedTps := (parse (floatToJson status.admittedTps)).toNumber } := rfl
  rw [hrecord, (isWireNumber_floatToJson h).2]
  rfl

/-- **The frontend takes every status in order** whose counters are safe. -/
theorem RuntimeStatus.InOrder.decodeWireSnapshot_toJson (hvalid : cfg.validate net = none)
    (hcfg : cfg.Safe) (h : status.InOrder cfg fun path => ∃ c ∈ path, c ≠ '/')
    (hsafe : status.Safe) :
    decodeWireSnapshot (parse status.toJson) = .ok (status.toWire cfg) := by
  have hv := Config.valid_of_validate hvalid
  have hbody : isExactObject (parse status.toJson) wireKeys = true :=
    isExactObject_parse ["run", "reader", "throttler", "sender", "readerChannel", "senderChannel",
      "config"] rfl (by decide)
  have hrun : isExactObject (parse status.run.toJson) runKeys = true :=
    isExactObject_parse ["state", "totalTransactions", "elapsedMs"] rfl (by decide)
  have hreader : isExactObject (parse status.reader.toJson) readerKeys = true :=
    isExactObject_parse ["workers", "liveWorkers", "idleWorkers", "readingWorkers",
      "blockedWorkers", "drainingWorkers", "drainingIdleWorkers", "drainingReadingWorkers",
      "drainingBlockedWorkers", "readBatchSize", "readTps", "rowsRead", "sourceDirectory",
      "sourceError"] rfl (by decide)
  have hthrottler : isExactObject (parse status.throttler.toJson) throttlerKeys = true :=
    isExactObject_parse ["requestedTps", "admittedTps", "installed"] rfl (by decide)
  have hsender : isExactObject (parse status.sender.toJson) senderKeys = true :=
    isExactObject_parse ["workers", "liveWorkers", "idleWorkers", "inFlightWorkers",
      "backoffWorkers", "drainingWorkers", "drainingIdleWorkers", "drainingInFlightWorkers",
      "drainingBackoffWorkers"] rfl (by decide)
  have hconfig : decodeConfig (parse status.config.toJson) = .ok cfg.toSnapshot := by
    rw [h.config]
    exact decodeConfig_toJson hvalid hcfg
  have hstate : asRunState? ((parse status.run.toJson).get "state") =
      some status.run.state.toWire := asRunState?_text h.state
  have hrunValues : (isWireInteger ((parse status.run.toJson).get "elapsedMs") &&
      isWireInteger ((parse status.run.toJson).get "totalTransactions")) = true := by
    rw [Bool.and_eq_true]
    exact ⟨isWireInteger_coe h.run.2 hsafe.elapsedMs,
      isWireInteger_coe h.run.1 hsafe.totalTransactions⟩
  have hreaderValues : (cfg.toSnapshot.readerWorkers.any
        (isRangeValue ((parse status.reader.toJson).get "workers")) &&
      isRangeValue ((parse status.reader.toJson).get "readBatchSize")
        cfg.toSnapshot.readerReadBatchSize &&
      isWireNumber ((parse status.reader.toJson).get "readTps") &&
      isWireInteger ((parse status.reader.toJson).get "rowsRead") &&
      isPool (parse status.reader.toJson) ["idleWorkers", "readingWorkers", "blockedWorkers"]
        ["drainingIdleWorkers", "drainingReadingWorkers", "drainingBlockedWorkers"]
        status.run.state.toWire) = true := by
    simp only [Bool.and_eq_true]
    exact ⟨⟨⟨⟨RangeConfig.isRangeValue_of_contains (by rw [hv.readerWorkers]; decide)
        (by rw [hv.readerWorkers]; decide) hcfg.readerWorkers h.readerWorkers,
      RangeConfig.isRangeValue_of_contains hv.readBatchSizeMin.le hv.readBatchSize.step
        hcfg.readBatchSize h.readBatchSize⟩,
      (isWireNumber_floatToJson h.reader.1).1⟩, isWireInteger_coe h.reader.2 hsafe.rowsRead⟩,
      h.isPool_reader hsafe⟩
  have hdirectory : isText ((parse status.reader.toJson).get "sourceDirectory") = true := by
    refine isText_string fun hc => ?_
    have hnil := congrArg String.toList (h.sourceDirectory.symm.trans hc)
    rw [String.toList_ofList, readerSourceDirectory_of_isRooted hv.path] at hnil
    cases hnil
  have hsourceError : isSourceError ((parse status.reader.toJson).get "sourceError") = true := by
    change isSourceError
      (parse (status.reader.sourceError.elim .null ReaderSourceError.toJson)) = true
    cases herror : status.reader.sourceError with
    | none => rfl
    | some error => exact ReaderSourceError.isSourceError_toJson (h.sourceError error herror)
  have hthrottlerValues : (isRangeValue ((parse status.throttler.toJson).get "requestedTps")
        cfg.toSnapshot.throttlerRequestedTps &&
      isWireNumber ((parse status.throttler.toJson).get "admittedTps") &&
      isBoolean ((parse status.throttler.toJson).get "installed") &&
      cfg.toSnapshot.throttlerInstalled.allowed.contains
        ((parse status.throttler.toJson).get "installed").toBool) = true := by
    simp only [Bool.and_eq_true]
    exact ⟨⟨⟨RangeConfig.isRangeValue_of_contains hv.requestedTPSMin hv.requestedTPS.step
        hcfg.requestedTPS h.requestedTps, (isWireNumber_floatToJson h.admittedTps).1⟩, rfl⟩,
      List.contains_iff_mem.mpr (of_decide_eq_true h.installed)⟩
  have hsenderValues : (isRangeValue ((parse status.sender.toJson).get "workers")
        cfg.toSnapshot.senderWorkers &&
      isPool (parse status.sender.toJson) ["idleWorkers", "inFlightWorkers", "backoffWorkers"]
        ["drainingIdleWorkers", "drainingInFlightWorkers", "drainingBackoffWorkers"]
        status.run.state.toWire) = true := by
    rw [Bool.and_eq_true]
    exact ⟨RangeConfig.isRangeValue_of_contains (by rw [hv.senderWorkers]; decide)
        (by rw [hv.senderWorkers]; decide) hcfg.senderWorkers h.senderWorkers,
      h.isPool_sender hsafe⟩
  have hreaderChannel := ChannelMeasurements.decodeChannelSnapshot_toJson hv.readerChannel
    hcfg.readerChannel h.readerCapacity h.readerChannel hsafe.readerChannel
  have hsenderChannel := ChannelMeasurements.decodeChannelSnapshot_toJson hv.senderChannel
    hcfg.senderChannel h.senderCapacity h.senderChannel hsafe.senderChannel
  have hrunSection : (parse status.toJson).get "run" = parse status.run.toJson := rfl
  have hreaderSection : (parse status.toJson).get "reader" = parse status.reader.toJson := rfl
  have hthrottlerSection : (parse status.toJson).get "throttler" = parse status.throttler.toJson :=
    rfl
  have hsenderSection : (parse status.toJson).get "sender" = parse status.sender.toJson := rfl
  have hconfigSection : (parse status.toJson).get "config" = parse status.config.toJson := rfl
  have hreaderChannelSection : (parse status.toJson).get "readerChannel" =
      parse status.readerChannel.toJson := rfl
  have hsenderChannelSection : (parse status.toJson).get "senderChannel" =
      parse status.senderChannel.toJson := rfl
  have hreaderAllowed : cfg.toSnapshot.readerChannelCapacity.allowed =
      cfg.readerChannel.capacity.toSnapshot.allowed := rfl
  have hsenderAllowed : cfg.toSnapshot.senderChannelCapacity.allowed =
      cfg.senderChannel.capacity.toSnapshot.allowed := rfl
  -- every check is passed, and what has been checked is the status
  rw [decodeWireSnapshot]
  simp only [hbody, hrunSection, hreaderSection, hthrottlerSection, hsenderSection, hconfigSection,
    hreaderChannelSection, hsenderChannelSection, hreaderAllowed, hsenderAllowed, hrun, hreader,
    hthrottler, hsender, hconfig, hstate, hrunValues, hreaderValues, hdirectory, hsourceError,
    hthrottlerValues, hsenderValues, hreaderChannel, hsenderChannel, ensure_true,
    RuntimeReaderStatus.asReader_toJson h.reader.1,
    RuntimeThrottlerStatus.asThrottler_toJson h.admittedTps, Option.elim_some, bind, Except.bind]
  rfl

end Sections

/-! ### The command line -/

theorem isInt64_of_safe {z : ℤ} (hnonneg : 0 ≤ z) (hsafe : z ≤ Number.maxSafeInteger) :
    IsInt64 z :=
  ⟨le_trans (by decide) hnonneg, hsafe.trans (by decide)⟩

/-- The integers of a range that is safe have 64 bits. -/
theorem RangeConfig.Valid.fits {p : RangeConfig} {unit mutability : String}
    (h : p.Valid unit mutability) (hmin : 0 ≤ p.min) (hsafe : p.Safe) : p.Fits where
  initial := isInt64_of_safe (hmin.trans (RangeConfig.contains_iff.mp h.contains).1) hsafe.initial
  min := isInt64_of_safe hmin hsafe.min
  max := isInt64_of_safe (hmin.trans h.range) hsafe.max
  step := isInt64_of_safe h.step.le hsafe.step

theorem RangeConfig.isInt64_of_contains {p : RangeConfig} {z : ℤ} (hmin : 0 ≤ p.min)
    (hsafe : p.Safe) (hz : p.contains z = true) : IsInt64 z := by
  obtain ⟨hlow, hhigh, -⟩ := contains_iff.mp hz
  exact isInt64_of_safe (hmin.trans hlow) (hhigh.trans hsafe.max)

theorem AllowedConfig.Valid.fits {p : AllowedConfig} (h : p.Valid) (hsafe : p.Safe) : p.Fits where
  initial := isInt64_of_safe (h.nonneg _ (AllowedConfig.mem_of_contains h.contains)) hsafe.initial
  allowed := fun z hz => isInt64_of_safe (h.nonneg z hz) (hsafe.allowed z hz)

theorem AllowedConfig.Valid.isInt64_of_contains {p : AllowedConfig} {z : ℤ} (h : p.Valid)
    (hsafe : p.Safe) (hz : p.contains z = true) : IsInt64 z :=
  h.fits hsafe |>.allowed z (AllowedConfig.mem_of_contains hz)

section Sections

variable {net : NetParsers} {cfg : Config} {status : RuntimeStatus} {Fits : Path → Prop}

/-- The settings that are sent have 64 bits. -/
theorem Config.fits_runtimeConfigStatus (h : cfg.Valid) (hsafe : cfg.Safe) :
    (runtimeConfigStatusFromConfig cfg).Fits where
  readerReadBatchSize := h.readBatchSize.fits h.readBatchSizeMin.le hsafe.readBatchSize
  readerWorkers := by
    have hworkers : cfg.reader.workers.Valid workersUnit immediate := by
      rw [h.readerWorkers]
      exact ⟨rfl, rfl, by decide, by decide, rfl⟩
    exact hworkers.fits (by rw [h.readerWorkers]; decide) hsafe.readerWorkers
  readerChannelCapacity := h.readerChannel.fits hsafe.readerChannel
  senderChannelCapacity := h.senderChannel.fits hsafe.senderChannel
  throttlerRequestedTPS := h.requestedTPS.fits h.requestedTPSMin hsafe.requestedTPS
  metricsWindowMS := h.windowMS.fits (le_trans (by decide) h.windowMSBounds.1) hsafe.windowMS
  senderWorkers := by
    have hworkers : cfg.sender.workers.Valid workersUnit immediate := by
      rw [h.senderWorkers]
      exact ⟨rfl, rfl, by decide, by decide, rfl⟩
    exact hworkers.fits (by rw [h.senderWorkers]; decide) hsafe.senderWorkers

theorem ReaderPoolSnapshot.counts_nonneg (s : ReaderPoolSnapshot) : ∀ z ∈ s.counts, 0 ≤ z := by
  simp [counts]

theorem SenderPoolSnapshot.counts_nonneg (s : SenderPoolSnapshot) : ∀ z ∈ s.counts, 0 ≤ z := by
  simp [counts]

/-- The integers of a status in order have 64 bits. -/
theorem RuntimeStatus.InOrder.fits (hvalid : cfg.Valid) (hcfg : cfg.Safe)
    (h : status.InOrder cfg Fits) (hsafe : status.Safe) : status.Fits where
  totalTransactions := isInt64_of_safe h.run.1 hsafe.totalTransactions
  elapsedMs := isInt64_of_safe h.run.2 hsafe.elapsedMs
  readerWorkers := RangeConfig.isInt64_of_contains (by rw [hvalid.readerWorkers]; decide)
    hcfg.readerWorkers h.readerWorkers
  readBatchSize := RangeConfig.isInt64_of_contains hvalid.readBatchSizeMin.le hcfg.readBatchSize
    h.readBatchSize
  rowsRead := isInt64_of_safe h.reader.2 hsafe.rowsRead
  readerPool := fun z hz => isInt64_of_safe (ReaderPoolSnapshot.counts_nonneg _ z hz)
    (hsafe.readerPool z hz)
  requestedTps := RangeConfig.isInt64_of_contains hvalid.requestedTPSMin hcfg.requestedTPS
    h.requestedTps
  senderWorkers := RangeConfig.isInt64_of_contains (by rw [hvalid.senderWorkers]; decide)
    hcfg.senderWorkers h.senderWorkers
  senderPool := fun z hz => isInt64_of_safe (SenderPoolSnapshot.counts_nonneg _ z hz)
    (hsafe.senderPool z hz)
  readerCapacity := hvalid.readerChannel.isInt64_of_contains hcfg.readerChannel h.readerCapacity
  readerChannel := fun z hz => isInt64_of_safe (h.readerChannel.counters z hz)
    (hsafe.readerChannel z hz)
  senderCapacity := hvalid.senderChannel.isInt64_of_contains hcfg.senderChannel h.senderCapacity
  senderChannel := fun z hz => isInt64_of_safe (h.senderChannel.counters z hz)
    (hsafe.senderChannel z hz)
  config := by
    rw [h.config]
    exact Config.fits_runtimeConfigStatus hvalid hcfg

end Sections

/-! ### Every status -/

/-- **Both clients take every status that is answered**, and know it as it was sent, unless
the source is the root: it is the only source with a file whose path is rooted relative to
its directory. -/
theorem both_clients_take {net : NetParsers} {cfg : Config} (hvalid : cfg.validate net = none)
    (hcfg : cfg.Safe) (hpath : ∃ c ∈ cfg.source.path.toList, c ≠ '/') {now : ℕ} {s : Service}
    (h : Service.machine.Leads (Service.Action.Honest cfg) (newService cfg now) s)
    {status : RuntimeStatus} (hstatus : .status status ∈ s.responses) (hsafe : status.Safe) :
    decodeWireSnapshot (parse status.toJson) = .ok (status.toWire cfg) ∧
      decodeStrictSnapshot { values := [status.toJson] } = some status.toRemote := by
  have hv := Config.valid_of_validate hvalid
  have horder : status.InOrder cfg fun path => ∃ c ∈ path, c ≠ '/' :=
    Service.inOrder_of_leads hv hpath
      (fun fs found hfound file hfile => exists_ne_slash_of_mem_glob hv.path hpath hfound hfile)
      h hstatus
  exact ⟨horder.decodeWireSnapshot_toJson hvalid hcfg hsafe,
    decodeStrictSnapshot_toJson (horder.fits hv hcfg hsafe)⟩

/-! ### A file that cannot be read -/

/-- The error of a file that turns out to be a directory. -/
def unreadable (directory path : Path) : ReaderSourceError :=
  newReaderSourceError directory "open" path "open parquet reader: is a directory"

/-- A worker claims the only file, cannot read it and reports it, and the pool is left. -/
def unreadableFile (directory path : Path) : List ReaderPool.Action :=
  [.claim 0 0, .read 0 path .opening .opened,
    .read 0 path .openingReader (.readerFailed "open parquet reader: is a directory"),
    .read 0 path (.closingUnopened "open parquet reader: is a directory") (.closedUnopened none),
    .readFailed 0 path (unreadable directory path), .reportFirst 0 path (unreadable directory path),
    .push 0 path (unreadable directory path), .cancelPool 0 path, .mark 0 path, .release 0 path,
    .check 0, .exitWorker 0, .releaseWg 0, .watcherWoken, .watcherMark, .watcherJoined]

/-- **A run over one file that cannot be read** fails and is torn down, and the status is
asked for. -/
def unreadableRun (directory path : Path) : List Service.Action := List.flatten
  [[.event (.command (.setSenderWorkers 1))], Service.execs 4,
    [.event (.command (.run (.ok [path])))], Service.execs 11,
    (unreadableFile directory path).map fun a => .pipeline 0 (.reader a),
    [.event (.sourceError (unreadable directory path))], Service.execs 2,
    ([.intakeFound, .intakeTest, .intakeExit] : List SenderPool.Action).map
      fun a => .pipeline 0 (.sender a),
    Service.execs 3,
    ([.decideStop 0, .workerExited 0, .closeDone 0, .releaseWg 0, .stopIntakeDone,
      .stopJoined] : List SenderPool.Action).map fun a => .pipeline 0 (.sender a),
    Service.execs 3,
    ([.cancel, .idleCanceled, .leave] : List Throttler.Action).map
      fun a => .pipeline 0 (.throttler a),
    Service.execs 13, [.event (.command .getRuntimeStatus)], Service.execs 7]

/-- What comes from outside in that run is what it is to be. -/
theorem honest_unreadableRun {cfg : Config} {fs : FileSystem} {directory path : Path}
    (hglob : fs.glob cfg.source.path.toList = some [path]) :
    ∀ a ∈ unreadableRun directory path, Service.Action.Honest cfg a := by
  have hexecs : ∀ n, ∀ a ∈ Service.execs n, Service.Action.Honest cfg a := by
    intro n a ha
    obtain ⟨-, rfl⟩ := List.mem_replicate.mp ha
    trivial
  have hreader : ∀ a ∈ (unreadableFile directory path).map fun a =>
      Service.Action.pipeline 0 (.reader a), Service.Action.Honest cfg a := by
    rw [List.forall_mem_map]
    simp [unreadableFile, Service.Action.Honest, Pipeline.Action.texts, ReaderPool.Action.texts,
      ReadMove.texts]
  have hsender : ∀ (as : List SenderPool.Action), ∀ a ∈ as.map fun a =>
      Service.Action.pipeline 0 (.sender a), Service.Action.Honest cfg a := by
    intro as
    rw [List.forall_mem_map]
    exact fun a _ text htext => absurd htext List.not_mem_nil
  have hthrottler : ∀ (as : List Throttler.Action), ∀ a ∈ as.map fun a =>
      Service.Action.pipeline 0 (.throttler a), Service.Action.Honest cfg a := by
    intro as
    rw [List.forall_mem_map]
    exact fun a _ text htext => absurd htext List.not_mem_nil
  have hnil : ∀ a ∈ ([] : List Service.Action), Service.Action.Honest cfg a := fun a ha =>
    absurd ha List.not_mem_nil
  -- segment by segment
  intro a hmem
  obtain ⟨as, has, ha⟩ := List.mem_flatten.mp hmem
  clear hmem
  revert a
  revert as
  simp only [List.forall_mem_cons]
  exact ⟨⟨trivial, hnil⟩, hexecs 4, ⟨⟨fs, hglob⟩, hnil⟩, hexecs 11, hreader, ⟨trivial, hnil⟩, hexecs 2,
    hsender _, hexecs 3, hsender _, hexecs 3, hthrottler _, hexecs 13, ⟨trivial, hnil⟩, hexecs 7,
    fun as has => absurd has List.not_mem_nil⟩

/-- A file under `/data` that cannot be read is reported, and both clients take it. -/
theorem both_clients_take_unreadableRun :
    let s := Service.machine.after (newService exampleConfig 0)
      (unreadableRun "/data".toList "/data/part.parquet".toList)
    let status := s.control.runtimeStatusAt s.seen
    status.reader.sourceError.map ReaderSourceError.relativePath = some "part.parquet" ∧
      decodeWireSnapshot (parse status.toJson) = .ok (status.toWire exampleConfig) ∧
      decodeStrictSnapshot { values := [status.toJson] } = some status.toRemote := by
  intro s status
  have hvalid : exampleConfig.validate exampleParsers = none := by decide +kernel
  have hglob : (oneFile "data".toList "part.parquet".toList (by decide) (by decide)).glob
      exampleConfig.source.path.toList = some ["/data/part.parquet".toList] := by decide
  have hpath : ∃ c ∈ exampleConfig.source.path.toList, c ≠ '/' :=
    ⟨'d', by decide +kernel, by decide⟩
  have hrun : Service.machine.Run (newService exampleConfig 0)
      (unreadableRun "/data".toList "/data/part.parquet".toList) := by decide +kernel
  have hstatus : .status status ∈ s.responses := by decide +kernel
  have hsafe : status.Safe := by constructor <;> decide +kernel
  exact ⟨by decide +kernel, both_clients_take hvalid safe_exampleConfig hpath
    ⟨_, hrun, rfl, honest_unreadableRun hglob⟩ hstatus hsafe⟩

/-! ### The root for a source -/

/-- **What both clients do not take** is the error of the root: a status that is answered is
taken exactly if it has no source error, or the source is not the root. -/
theorem both_clients_take_iff {net : NetParsers} {cfg : Config} (hvalid : cfg.validate net = none)
    (hcfg : cfg.Safe) {now : ℕ} {s : Service}
    (h : Service.machine.Leads (Service.Action.Honest cfg) (newService cfg now) s)
    {status : RuntimeStatus} (hstatus : .status status ∈ s.responses) (hsafe : status.Safe) :
    ((∃ wire, decodeWireSnapshot (parse status.toJson) = .ok wire) ∧
      decodeStrictSnapshot { values := [status.toJson] } = some status.toRemote) ↔
      (status.reader.sourceError.isSome = true → ∃ c ∈ cfg.source.path.toList, c ≠ '/') := by
  have hv := Config.valid_of_validate hvalid
  constructor
  · rintro ⟨⟨wire, hwire⟩, -⟩ hsome
    obtain ⟨error, herror⟩ := Option.isSome_iff_exists.mp hsome
    by_contra hroot
    push Not at hroot
    have hne : cfg.source.path.toList ≠ [] := by
      intro hnil
      have hrooted : isRooted cfg.source.path.toList := hv.path
      rw [hnil] at hrooted
      exact absurd hrooted (by decide)
    -- every file of the source is the root
    have horder : status.InOrder cfg fun path => path ≠ [] ∧ ∀ c ∈ path, c = '/' :=
      Service.inOrder_of_leads hv ⟨hne, hroot⟩
        (fun fs found hfound file hfile =>
          eq_of_mem_glob_of_slashes hv.path hroot hfound hfile ▸ ⟨hne, hroot⟩) h hstatus
    have htaken := isSourceError_of_decodeWireSnapshot hwire
    change isSourceError
      (parse (status.reader.sourceError.elim .null ReaderSourceError.toJson)) = true at htaken
    rw [herror] at htaken
    have hrefused := ReaderSourceError.isSourceError_toJson_of_slashes
      (horder.sourceError error herror)
    exact absurd (htaken.symm.trans hrefused) (by decide)
  · intro hpath
    have horder : status.InOrder cfg fun path => ∃ c ∈ path, c ≠ '/' := by
      cases herror : status.reader.sourceError with
      | none =>
        have hany : status.InOrder cfg fun _ => True :=
          Service.inOrder_of_leads hv trivial (fun _ _ _ _ _ => trivial) h hstatus
        refine { hany with sourceError := fun error hmem => ?_ }
        rw [herror] at hmem
        cases hmem
      | some error =>
        have hpath := hpath (Option.isSome_of_eq_some herror)
        exact Service.inOrder_of_leads hv hpath
          (fun fs found hfound file hfile => exists_ne_slash_of_mem_glob hv.path hpath hfound hfile)
          h hstatus
    exact ⟨⟨_, horder.decodeWireSnapshot_toJson hvalid hcfg hsafe⟩,
      decodeStrictSnapshot_toJson (horder.fits hv hcfg hsafe)⟩

/-- The configuration of `config.toml`, with the root for its source. -/
def rootConfig : Config :=
  { exampleConfig with source := { exampleConfig.source with path := "/" } }

theorem safe_rootConfig : rootConfig.Safe :=
  ⟨safe_exampleConfig.1, safe_exampleConfig.2, safe_exampleConfig.3, safe_exampleConfig.4,
    safe_exampleConfig.5, safe_exampleConfig.6, safe_exampleConfig.7⟩

/-- What `Glob` finds for the root is the root. -/
theorem glob_rootConfig :
    (oneFile "data".toList "part.parquet".toList (by decide) (by decide)).glob
      rootConfig.source.path.toList = some ["/".toList] := by decide

/-- The root cannot be read, and not both clients take the status that says so. -/
theorem both_clients_take_iff_rootRun :
    let s := Service.machine.after (newService rootConfig 0) (unreadableRun "/".toList "/".toList)
    let status := s.control.runtimeStatusAt s.seen
    .status status ∈ s.responses ∧
      ¬((∃ wire, decodeWireSnapshot (parse status.toJson) = .ok wire) ∧
        decodeStrictSnapshot { values := [status.toJson] } = some status.toRemote) := by
  intro s status
  have hvalid : rootConfig.validate exampleParsers = none := by decide +kernel
  have hrun : Service.machine.Run (newService rootConfig 0)
      (unreadableRun "/".toList "/".toList) := by decide +kernel
  have hstatus : .status status ∈ s.responses := by decide +kernel
  have hsafe : status.Safe := by constructor <;> decide +kernel
  have hsome : status.reader.sourceError.isSome = true := by decide +kernel
  have hpath : rootConfig.source.path.toList = ['/'] := by simp [rootConfig]
  refine ⟨hstatus, fun htaken => ?_⟩
  obtain ⟨c, hc, hne⟩ := (both_clients_take_iff hvalid safe_rootConfig
    ⟨_, hrun, rfl, honest_unreadableRun glob_rootConfig⟩ hstatus hsafe).mp htaken hsome
  rw [hpath] at hc
  exact hne (List.mem_singleton.mp hc)

/-- **The root for a source**: its only file is the root, and a status that says it cannot
be read is refused by the frontend. -/
theorem root_source_refused :
    rootConfig.validate exampleParsers = none ∧ rootConfig.Safe ∧
      ∃ s, Service.machine.Leads (Service.Action.Honest rootConfig) (newService rootConfig 0) s ∧
        ∃ status, .status status ∈ s.responses ∧ status.Safe ∧
          status.reader.sourceError.map ReaderSourceError.relativePath = some "/" ∧
          decodeWireSnapshot (parse status.toJson) =
            .error "snapshot reader sourceError is invalid" := by
  have hrun : Service.machine.Run (newService rootConfig 0)
      (unreadableRun "/".toList "/".toList) := by decide +kernel
  refine ⟨by decide +kernel, safe_rootConfig, _,
    ⟨_, hrun, rfl, honest_unreadableRun glob_rootConfig⟩, ?_⟩
  · let s := Service.machine.after (newService rootConfig 0) (unreadableRun "/".toList "/".toList)
    refine ⟨s.control.runtimeStatusAt s.seen, ?_, ?_, ?_, ?_⟩
    · decide +kernel
    · constructor <;> decide +kernel
    · decide +kernel
    · decide +kernel

end IngestionLab
