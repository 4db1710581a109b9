import IngestionLab.Loadgen.Config

/-!
# What validation guarantees

A configuration that passes `config.validate` meets every check made there
(`IngestionLab.Config.valid_of_validate`): the units and mutabilities are the ones
expected, each initial value is within its bounds, and the bounds themselves make
sense. The fields of `IngestionLab.Config.Valid` are what the rest of the development
uses of a configuration.
-/

namespace IngestionLab

open Go

/-! ### Settings -/

/-- A range passes its check. -/
structure RangeConfig.Valid (p : RangeConfig) (unit mutability : String) : Prop where
  unit : p.unit = unit
  mutability : p.mutability = mutability
  step : 0 < p.step
  range : p.min ≤ p.max
  contains : p.contains p.initial = true

/-- A list of allowed values passes its check. -/
structure AllowedConfig.Valid (p : AllowedConfig) : Prop where
  unit : p.unit = unitBatches
  mutability : p.mutability = idleOnly
  nonempty : p.allowed ≠ []
  nonneg : ∀ value ∈ p.allowed, 0 ≤ value
  increasing : p.allowed.Pairwise (· < ·)
  contains : p.contains p.initial = true

/-- A mode passes its check. -/
structure InstalledConfig.Valid (p : InstalledConfig) : Prop where
  mutability : p.mutability = immediate
  length : p.allowed.length = 2
  both : p.contains true = true ∧ p.contains false = true
  contains : p.contains p.initial = true

/-- What is contained in a range is within it. -/
theorem RangeConfig.bounds_of_contains {p : RangeConfig} {value : ℤ} (h : p.contains value = true) :
    p.min ≤ value ∧ value ≤ p.max := by
  simp only [contains, Bool.and_eq_true, decide_eq_true_eq] at h
  exact h.1

/-- What is contained in a list of allowed values is one of them. -/
theorem AllowedConfig.mem_of_contains {p : AllowedConfig} {value : ℤ} (h : p.contains value = true) :
    value ∈ p.allowed := of_decide_eq_true h

theorem RangeConfig.valid_of_validate {p : RangeConfig} (h : p.validate = none) :
    p.Valid batchSizeUnit idleOnly ∧ 0 < p.min := by
  rw [validate] at h
  split_ifs at h with h1 h2 h3
  simp only [not_or, not_not, Bool.not_eq_true', Bool.not_eq_false, not_le, not_lt] at h1 h2 h3
  exact ⟨⟨h1.1, h1.2, h2.2.2, h2.2.1, h3⟩, h2.1⟩

theorem RangeConfig.eq_of_validateExact {p : RangeConfig} {initial min max step : ℤ}
    {unit mutability : String} (h : p.validateExact initial min max step unit mutability = none) :
    p = ⟨initial, min, max, step, unit, mutability⟩ := by
  rw [validateExact] at h
  split_ifs at h with h1
  simp only [not_or, not_not] at h1
  obtain ⟨rfl, rfl, rfl, rfl, rfl, rfl⟩ := h1
  rfl

theorem RangeConfig.valid_of_validateMetricsWindow {p : RangeConfig}
    (h : p.validateMetricsWindow = none) :
    p.Valid metricsWindowUnit startupOnly ∧ 100 ≤ p.min ∧ p.max ≤ 10000 := by
  rw [validateMetricsWindow] at h
  split_ifs at h with h1 h2 h3
  simp only [not_or, not_not, Bool.not_eq_true', Bool.not_eq_false, not_le, not_lt] at h1 h2 h3
  exact ⟨⟨h1.1, h1.2, h2.2.2.2, h2.2.2.1, h3⟩, h2.1, h2.2.1⟩

theorem RangeConfig.valid_of_validateRequestedTPS {p : RangeConfig}
    (h : p.validateRequestedTPS = none) :
    p.Valid requestedTPSUnit immediate ∧ 0 ≤ p.min ∧ p.min < p.max := by
  rw [validateRequestedTPS] at h
  split_ifs at h with h1 h2 h3 h4
  simp only [not_or, not_not, not_le, not_lt] at h1 h2 h3 h4
  have hcontains : p.contains p.initial = true := by
    simp only [contains, Bool.and_eq_true, decide_eq_true_eq, beq_iff_eq]
    exact ⟨h3, h4⟩
  exact ⟨⟨h1.1, h1.2, h2.2.2, h2.2.1.le, hcontains⟩, h2.1, h2.2.1⟩

/-- The scan of the allowed values finds nothing wrong. -/
theorem allowedError_eq_none {values : List ℤ} {index : ℕ} {previous : Option ℤ}
    (h : allowedError index previous values = none) :
    (∀ value ∈ values, 0 ≤ value) ∧ values.Pairwise (· < ·) ∧
      ∀ p ∈ previous, ∀ value ∈ values, p < value := by
  induction values generalizing index previous with
  | nil => simp
  | cons value rest ih =>
    rw [allowedError] at h
    split_ifs at h with h1 h2
    obtain ⟨hnonneg, hpair, hlater⟩ := ih h
    have hrest : ∀ v ∈ rest, value < v := hlater value rfl
    refine ⟨?_, List.pairwise_cons.mpr ⟨hrest, hpair⟩, fun p hp v hv => ?_⟩
    · simpa using ⟨by omega, hnonneg⟩
    · have hpv : p < value := by
        obtain rfl : previous = some p := hp
        simpa using h2
      rcases List.mem_cons.mp hv with rfl | hv
      · exact hpv
      · exact hpv.trans (hrest v hv)

theorem AllowedConfig.valid_of_validate {p : AllowedConfig} (h : p.validate = none) : p.Valid := by
  rw [validate] at h
  split_ifs at h with h1 h2 h3
  · exact absurd (Option.or_eq_none_iff.mp h).2 nofun
  · simp only [not_or, not_not] at h1
    obtain ⟨hnonneg, hpair, -⟩ := allowedError_eq_none (Option.or_eq_none_iff.mp h).1
    exact ⟨h1.1, h1.2, h2, hnonneg, hpair, by simpa using h3⟩

theorem InstalledConfig.valid_of_validate {p : InstalledConfig} (h : p.validate = none) : p.Valid := by
  rw [validate] at h
  split_ifs at h with h1
  simp only [not_or, not_not, Bool.not_eq_true', Bool.not_eq_false] at h1
  exact ⟨h1.1, h1.2.1, ⟨h1.2.2.1, h1.2.2.2.1⟩, h1.2.2.2.2⟩

/-! ### The configuration -/

/-- **A configuration passes every check**, but for those of the address, the target and
the retry schedule. -/
structure Config.Valid (cfg : Config) : Prop where
  schemaVersion : cfg.schemaVersion = configSchemaVersion
  path : isAbs cfg.source.path = true
  source : cfg.source.unit = sourceUnit ∧ cfg.source.mutability = startupOnly
  readBatchSize : cfg.reader.readBatchSize.Valid batchSizeUnit idleOnly
  readBatchSizeMin : 0 < cfg.reader.readBatchSize.min
  readerWorkers : cfg.reader.workers = ⟨1, 1, 7, 1, workersUnit, immediate⟩
  readerChannel : cfg.readerChannel.capacity.Valid
  senderChannel : cfg.senderChannel.capacity.Valid
  requestedTPS : cfg.throttler.requestedTPS.Valid requestedTPSUnit immediate
  requestedTPSMin : 0 ≤ cfg.throttler.requestedTPS.min
  installed : cfg.throttler.installed.Valid
  senderWorkers : cfg.sender.workers = ⟨32, 1, 32, 1, workersUnit, immediate⟩
  windowMS : cfg.metrics.windowMS.Valid metricsWindowUnit startupOnly
  windowMSBounds : 100 ≤ cfg.metrics.windowMS.min ∧ cfg.metrics.windowMS.max ≤ 10000

/-- Validation makes every check. -/
theorem Config.checks_of_validate {net : NetParsers} {cfg : Config} (h : cfg.validate net = none) :
    cfg.schemaVersion = configSchemaVersion ∧ isAbs cfg.source.path = true ∧
      (cfg.source.unit = sourceUnit ∧ cfg.source.mutability = startupOnly) ∧
      cfg.reader.readBatchSize.validate = none ∧ cfg.reader.workers.validateWorkers = none ∧
      cfg.readerChannel.capacity.validate = none ∧ cfg.senderChannel.capacity.validate = none ∧
      cfg.throttler.requestedTPS.validateRequestedTPS = none ∧
      cfg.throttler.installed.validate = none ∧ cfg.sender.validate net = none ∧
      cfg.metrics.windowMS.validateMetricsWindow = none ∧ cfg.logging.validate = none := by
  rw [validate] at h
  split_ifs at h with h1 h2 h3 h4
  all_goals
    simp only [Option.or_eq_none_iff, Option.map_eq_none_iff, reduceCtorEq, and_false] at h
  simp only [not_or, not_not, Bool.not_eq_true', Bool.not_eq_false] at h1 h2 h3
  exact ⟨h1, h2.2, h3, h.2⟩

/-- **Validation guarantees it.** -/
theorem Config.valid_of_validate {net : NetParsers} {cfg : Config} (h : cfg.validate net = none) :
    cfg.Valid := by
  obtain ⟨hversion, hpath, hsource, hbatch, hworkers, hreader, hsenderCh, htps, hinstalled, hsender,
    hwindow, -⟩ := checks_of_validate h
  obtain ⟨hbatch, hbatchMin⟩ := RangeConfig.valid_of_validate hbatch
  obtain ⟨htps, htpsMin, -⟩ := RangeConfig.valid_of_validateRequestedTPS htps
  obtain ⟨hwindow, hbounds⟩ := RangeConfig.valid_of_validateMetricsWindow hwindow
  simp only [SenderConfig.validate, Option.or_eq_none_iff, Option.map_eq_none_iff] at hsender
  exact
    { schemaVersion := hversion
      path := hpath
      source := hsource
      readBatchSize := hbatch
      readBatchSizeMin := hbatchMin
      readerWorkers := RangeConfig.eq_of_validateExact hworkers
      readerChannel := AllowedConfig.valid_of_validate hreader
      senderChannel := AllowedConfig.valid_of_validate hsenderCh
      requestedTPS := htps
      requestedTPSMin := htpsMin
      installed := InstalledConfig.valid_of_validate hinstalled
      senderWorkers := RangeConfig.eq_of_validateExact hsender.1
      windowMS := hwindow
      windowMSBounds := hbounds }

end IngestionLab
