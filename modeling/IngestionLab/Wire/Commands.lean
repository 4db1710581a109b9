import IngestionLab.Frontend.HttpCommands
import IngestionLab.Loadgen.EventLoop.Answers
import IngestionLab.Loadgen.HttpCommands
import IngestionLab.Wire.Config

/-!
# Commands, from the frontend to the event loop

A command that sets a control is checked three times: by the frontend before it is sent,
by the handler that decodes it, and by the event loop. All three agree
(`IngestionLab.command_gate_agrees`), since what the command says on either side is one
runtime command (`IngestionLab.Frontend.LoadgenCommand.toRuntime?`), and each of them
looks whether its value is one the configuration has (`IngestionLab.RuntimeCommand.isContained`).
-/

namespace IngestionLab

open Frontend Go JS

/-! ### What a command says -/

/-- **The runtime command a command that sets a control stands for**: the same control,
and the same value, which is to be an integer. There is none for the other commands. -/
def Frontend.LoadgenCommand.toRuntime? : LoadgenCommand → Option RuntimeCommand
  | .setReadBatchSize v => v.toInt?.map fun value => { kind := .setReadBatchSize, value }
  | .setWorkerCount v => v.toInt?.map fun value => { kind := .setReaderWorkers, value }
  | .setReaderChannelCapacity v =>
    v.toInt?.map fun value => { kind := .setReaderChannelCapacity, value }
  | .setSenderChannelCapacity v =>
    v.toInt?.map fun value => { kind := .setSenderChannelCapacity, value }
  | .setRequestedTps v => v.toInt?.map fun value => { kind := .setRequestedTPS, value }
  | .setThrottlerInstalled installed => some { kind := .setThrottlerInstalled, installed }
  | .setSenderWorkers v => v.toInt?.map fun value => { kind := .setSenderWorkers, value }
  | .run | .pause | .reset | .setHttpTimeout _ => none

/-- The command sets a control of the load generator. -/
def Frontend.LoadgenCommand.setsControl : LoadgenCommand → Bool
  | .run | .pause | .reset | .setHttpTimeout _ => false
  | _ => true

/-- The control can be set while idle only. -/
def Frontend.LoadgenCommand.idleOnly : LoadgenCommand → Bool
  | .setReadBatchSize _ | .setReaderChannelCapacity _ | .setSenderChannelCapacity _ => true
  | _ => false

/-- **The load generator's check**: `contains`, of the control that is set. -/
def RuntimeCommand.isContained (cfg : Config) (command : RuntimeCommand) : Bool :=
  match command.kind with
  | .setReadBatchSize => cfg.reader.readBatchSize.contains command.value
  | .setReaderWorkers => cfg.reader.workers.contains command.value
  | .setReaderChannelCapacity => cfg.readerChannel.capacity.contains command.value
  | .setSenderChannelCapacity => cfg.senderChannel.capacity.contains command.value
  | .setRequestedTPS => cfg.throttler.requestedTPS.contains command.value
  | .setThrottlerInstalled => cfg.throttler.installed.contains command.installed
  | .setSenderWorkers => cfg.sender.workers.contains command.value
  | .getRuntimeStatus | .run | .pause | .reset => false

variable {net : NetParsers} {cfg : Config} {command : SupportedCommand} {r : RuntimeCommand}

/-- The event loop makes the same check. -/
theorem isContained_toCommand (glob : Except String (List Path)) :
    (r.toCommand glob).isContained cfg = r.isContained cfg := by
  obtain ⟨kind, value, installed⟩ := r
  cases kind <;> rfl

/-- The same controls can be set while idle only. -/
theorem idleOnly_toCommand (glob : Except String (List Path)) (h : r ∈ command.val.toRuntime?) :
    (r.toCommand glob).idleOnly = command.val.idleOnly := by
  obtain ⟨command, hsupported⟩ := command
  cases command
  case setThrottlerInstalled installed =>
    obtain rfl := Option.some.inj h
    rfl
  case run => exact absurd h nofun
  case pause => exact absurd h nofun
  case reset => exact absurd h nofun
  case setHttpTimeout => exact absurd h nofun
  all_goals
    obtain ⟨value, -, rfl⟩ := Option.map_eq_some_iff.mp h
    rfl

/-! ### The gate of the frontend -/

theorem exists_mem_map_toInt? {v : Number} {f : ℤ → RuntimeCommand} {P : RuntimeCommand → Prop} :
    (∃ r ∈ v.toInt?.map f, P r) ↔ ∃ z : ℤ, v = z ∧ P (f z) := by
  constructor
  · rintro ⟨r, hr, hP⟩
    obtain ⟨z, hz, rfl⟩ := Option.map_eq_some_iff.mp hr
    exact ⟨z, Number.mem_toInt?.mp hz, hP⟩
  · rintro ⟨z, hz, hP⟩
    exact ⟨f z, Option.map_eq_some_iff.mpr ⟨z, Number.mem_toInt?.mpr hz, rfl⟩, hP⟩

/-- **The frontend makes the check of the load generator.** -/
theorem canDispatch_iff {snapshot : LoadgenTelemetrySnapshot} (h : cfg.Valid) (hsafe : cfg.Safe)
    (hconfig : snapshot.config = some cfg.toSnapshot) (hset : command.val.setsControl = true) :
    canDispatchConfigCommand command snapshot = true ↔
      snapshot.connectionState = .connected ∧
        (command.val.idleOnly = true → snapshot.runState = .idle) ∧
        ∃ r ∈ command.val.toRuntime?, r.isContained cfg = true := by
  have hreader : ∀ v : Number, isRangeValue (.number v) cfg.reader.workers.toSnapshot = true ↔
      ∃ z : ℤ, v = z ∧ cfg.reader.workers.contains z = true := fun v =>
    RangeConfig.isRangeValue_iff (by rw [h.readerWorkers]; decide)
      (by rw [h.readerWorkers]; decide) hsafe.readerWorkers.max
  have hsender : ∀ v : Number, isRangeValue (.number v) cfg.sender.workers.toSnapshot = true ↔
      ∃ z : ℤ, v = z ∧ cfg.sender.workers.contains z = true := fun v =>
    RangeConfig.isRangeValue_iff (by rw [h.senderWorkers]; decide)
      (by rw [h.senderWorkers]; decide) hsafe.senderWorkers.max
  have hbatch : ∀ v : Number,
      isRangeValue (.number v) cfg.reader.readBatchSize.toSnapshot = true ↔
      ∃ z : ℤ, v = z ∧ cfg.reader.readBatchSize.contains z = true := fun v =>
    RangeConfig.isRangeValue_iff h.readBatchSizeMin.le h.readBatchSize.step hsafe.readBatchSize.max
  have htps : ∀ v : Number,
      isRangeValue (.number v) cfg.throttler.requestedTPS.toSnapshot = true ↔
      ∃ z : ℤ, v = z ∧ cfg.throttler.requestedTPS.contains z = true := fun v =>
    RangeConfig.isRangeValue_iff h.requestedTPSMin h.requestedTPS.step hsafe.requestedTPS.max
  obtain ⟨command, hsupported⟩ := command
  cases command with
  | run => exact absurd hset nofun
  | pause => exact absurd hset nofun
  | reset => exact absurd hset nofun
  | setHttpTimeout => exact absurd hset nofun
  | setRequestedTps v =>
    rw [canDispatchConfigCommand, LoadgenCommand.toRuntime?, exists_mem_map_toInt?, hconfig]
    simp [Config.toSnapshot, htps, LoadgenCommand.idleOnly, RuntimeCommand.isContained]
  | setThrottlerInstalled installed =>
    rw [canDispatchConfigCommand, LoadgenCommand.toRuntime?, hconfig]
    simp [Config.toSnapshot, LoadgenCommand.idleOnly, RuntimeCommand.isContained,
      InstalledConfig.toSnapshot, InstalledConfig.contains]
  | setWorkerCount v =>
    rw [canDispatchConfigCommand, LoadgenCommand.toRuntime?, exists_mem_map_toInt?, hconfig]
    simp [Config.toSnapshot, hreader, LoadgenCommand.idleOnly, RuntimeCommand.isContained]
  | setSenderWorkers v =>
    rw [canDispatchConfigCommand, LoadgenCommand.toRuntime?, exists_mem_map_toInt?, hconfig]
    simp [Config.toSnapshot, hsender, LoadgenCommand.idleOnly, RuntimeCommand.isContained]
  | setReaderChannelCapacity v =>
    rw [canDispatchConfigCommand, LoadgenCommand.toRuntime?, exists_mem_map_toInt?, hconfig]
    have hcontains := AllowedConfig.contains_iff (p := cfg.readerChannel.capacity) (n := v)
    simp only [Config.toSnapshot, LoadgenCommand.idleOnly, RuntimeCommand.isContained, ← hcontains]
    simp [and_assoc]
  | setSenderChannelCapacity v =>
    rw [canDispatchConfigCommand, LoadgenCommand.toRuntime?, exists_mem_map_toInt?, hconfig]
    have hcontains := AllowedConfig.contains_iff (p := cfg.senderChannel.capacity) (n := v)
    simp only [Config.toSnapshot, LoadgenCommand.idleOnly, RuntimeCommand.isContained, ← hcontains]
    simp [and_assoc]
  | setReadBatchSize v =>
    rw [canDispatchConfigCommand, LoadgenCommand.toRuntime?, exists_mem_map_toInt?, hconfig]
    simp [Config.toSnapshot, hbatch, LoadgenCommand.idleOnly, RuntimeCommand.isContained, and_assoc]

/-! ### The handler -/

/-- What `JSON.stringify` writes for a number, and `json.Unmarshal` reads as an integer. -/
theorem unmarshalInt_stringifyNumber {v : Number} (hfinite : v.isFinite = true) (z : ℤ) :
    unmarshalInt (some (stringifyNumber v)) = some z ↔
      v = z ∧ -maxInt64 - 1 ≤ z ∧ z ≤ maxInt64 := by
  cases v with
  | finite q =>
    by_cases hq : q.isInt ∧ -10 ^ 21 < q ∧ q < 10 ^ 21
    · rw [stringifyNumber, if_pos hq, unmarshalInt, Option.ite_none_right_eq_some, Option.some_inj]
      have hnum : (Number.finite q) = (q.num : ℤ) := Number.mem_toInt?.mp (if_pos hq.1)
      constructor
      · rintro ⟨hbounds, rfl⟩
        exact ⟨hnum, hbounds⟩
      · rintro ⟨hz, hbounds⟩
        obtain rfl : q.num = z := Number.coe_inj.mp (hnum.symm.trans hz)
        exact ⟨hbounds, rfl⟩
    · rw [stringifyNumber, if_neg hq]
      refine ⟨nofun, fun ⟨hz, hlow, hhigh⟩ => absurd ?_ hq⟩
      rw [maxInt64] at hlow hhigh
      obtain rfl := Number.finite.inj hz
      exact ⟨by simp [Rat.isInt], by exact_mod_cast (by omega : (-10 ^ 21 : ℤ) < z),
        by exact_mod_cast (by omega : z < (10 ^ 21 : ℤ))⟩
  | infinity negative => exact absurd hfinite nofun
  | nan => exact absurd hfinite nofun

section Settings

variable {kind : RuntimeCommandKind} {contains : ℤ → Bool} {message : String} {v : Number}
  (hbounds : ∀ z, contains z = true → 0 ≤ z ∧ z ≤ Number.maxSafeInteger)
include hbounds

/-- A setting takes a number it is sent when it contains it, given that it does not take
the zero a null stands for. -/
theorem setInt_eq_execute_iff (hnull : v.isFinite = true ∨ contains 0 = false) :
    setInt kind contains message (some (stringifyNumber v)) = .execute r ↔
      ∃ z : ℤ, v = z ∧ contains z = true ∧ r = { kind, value := z } := by
  cases hfinite : v.isFinite with
  | false =>
    have hzero : contains 0 = false :=
      hnull.resolve_left fun h => absurd (hfinite.symm.trans h) (by rintro ⟨⟩)
    have hwritten : stringifyNumber v = .null := by
      cases v with
      | finite q => exact absurd hfinite (by rintro ⟨⟩)
      | infinity negative => rfl
      | nan => rfl
    rw [hwritten, setInt, unmarshalInt]
    dsimp only
    rw [hzero]
    refine ⟨by rintro ⟨⟩, ?_⟩
    rintro ⟨z, rfl, -⟩
    exact absurd hfinite (by rintro ⟨⟩)
  | true =>
    have hread := unmarshalInt_stringifyNumber hfinite
    rw [setInt]
    cases hvalue : unmarshalInt (some (stringifyNumber v)) with
    | none =>
      refine ⟨by rintro ⟨⟩, fun ⟨z, hz, hcontains, _⟩ => ?_⟩
      obtain ⟨hlow, hhigh⟩ := hbounds z hcontains
      rw [Number.maxSafeInteger] at hhigh
      have hsome := (hread z).mpr ⟨hz, by rw [maxInt64]; omega, by rw [maxInt64]; omega⟩
      exact absurd (hvalue.symm.trans hsome) (by rintro ⟨⟩)
    | some value =>
      obtain ⟨hvalue, -⟩ := (hread value).mp hvalue
      dsimp only
      cases hcontains : contains value with
      | false =>
        refine ⟨by rintro ⟨⟩, fun ⟨z, hz, hz', _⟩ => ?_⟩
        obtain rfl := Number.coe_inj.mp (hvalue.symm.trans hz)
        exact absurd (hcontains.symm.trans hz') (by rintro ⟨⟩)
      | true =>
        constructor
        · intro hr
          exact ⟨value, hvalue, hcontains, (Handling.execute.inj hr).symm⟩
        · rintro ⟨z, hz, -, rfl⟩
          obtain rfl := Number.coe_inj.mp (hvalue.symm.trans hz)
          rfl

/-- So does a setting that takes no null. -/
theorem setPresentInt_eq_execute_iff :
    setPresentInt kind contains message (some (stringifyNumber v)) = .execute r ↔
      ∃ z : ℤ, v = z ∧ contains z = true ∧ r = { kind, value := z } := by
  cases v with
  | finite q =>
    have hpresent : setPresentInt kind contains message (some (stringifyNumber (.finite q))) =
        setInt kind contains message (some (stringifyNumber (.finite q))) := by
      rw [stringifyNumber]
      split <;> rfl
    rw [hpresent]
    exact setInt_eq_execute_iff hbounds (Or.inl rfl)
  | infinity negative => exact ⟨nofun, fun ⟨_, h, _⟩ => absurd h nofun⟩
  | nan => exact ⟨nofun, fun ⟨_, h, _⟩ => absurd h nofun⟩

end Settings

/-- A request with an action and a value. -/
theorem commandsHandler_object (action : String) (value : Json) :
    commandsHandler cfg
        ⟨"POST", some ⟨[.object [("action", .string action), ("value", value)]], true⟩⟩ =
      handleAction cfg ⟨action, some value⟩ := by
  have hdecode : ∀ disallowUnknown cr, CommandRequest.decode disallowUnknown cr
      (.object [("action", .string action), ("value", value)]) = some ⟨action, some value⟩ :=
    fun _ _ => rfl
  rw [commandsHandler, if_neg (not_not.mpr rfl)]
  dsimp only
  rw [hdecode]
  dsimp only
  rw [hdecode]
  dsimp only
  split <;> rfl

/-- A member of a range is a safe integer. -/
theorem RangeConfig.Safe.bounds {p : RangeConfig} (h : p.Safe) (hmin : 0 ≤ p.min) :
    ∀ z, p.contains z = true → 0 ≤ z ∧ z ≤ Number.maxSafeInteger := fun z hz => by
  obtain ⟨hlow, hhigh⟩ := bounds_of_contains hz
  exact ⟨hmin.trans hlow, hhigh.trans h.max⟩

theorem AllowedConfig.Safe.bounds {p : AllowedConfig} (h : p.Safe) (hp : p.Valid) :
    ∀ z, p.contains z = true → 0 ≤ z ∧ z ≤ Number.maxSafeInteger := fun z hz =>
  ⟨hp.nonneg z (mem_of_contains hz), h.allowed z (mem_of_contains hz)⟩

theorem exists_iff_mem_map_toInt? {v : Number} (kind : RuntimeCommandKind) {contains : ℤ → Bool}
    (hkind : ∀ z, RuntimeCommand.isContained cfg { kind, value := z } = contains z) :
    (∃ z : ℤ, v = z ∧ contains z = true ∧ r = { kind, value := z }) ↔
      r ∈ v.toInt?.map (fun value => ({ kind, value } : RuntimeCommand)) ∧
        r.isContained cfg = true := by
  constructor
  · rintro ⟨z, hz, hcontains, rfl⟩
    exact ⟨Option.map_eq_some_iff.mpr ⟨z, Number.mem_toInt?.mpr hz, rfl⟩, (hkind z).trans hcontains⟩
  · rintro ⟨hr, hcontains⟩
    obtain ⟨z, hz, rfl⟩ := Option.map_eq_some_iff.mp hr
    exact ⟨z, Number.mem_toInt?.mp hz, (hkind z).symm.trans hcontains, rfl⟩

/-- **The handler makes the check of the load generator**, and sends on what the frontend
has said. -/
theorem commandsHandler_eq_execute_iff (h : cfg.Valid) (hsafe : cfg.Safe)
    (hset : command.val.setsControl = true) :
    commandsHandler cfg ⟨"POST", some ⟨[commandRequest command], true⟩⟩ = .execute r ↔
      r ∈ command.val.toRuntime? ∧ r.isContained cfg = true := by
  have hreader : 0 ≤ cfg.reader.workers.min := by rw [h.readerWorkers]; decide
  have hsender : 0 ≤ cfg.sender.workers.min := by rw [h.senderWorkers]; decide
  obtain ⟨command, hsupported⟩ := command
  cases command with
  | run => exact absurd hset nofun
  | pause => exact absurd hset nofun
  | reset => exact absurd hset nofun
  | setHttpTimeout => exact absurd hset nofun
  | setThrottlerInstalled installed =>
    refine Iff.trans (Eq.congr_left (commandsHandler_object _ (.bool installed))) ?_
    change (if !cfg.throttler.installed.contains installed then _ else _) = _ ↔
      some { kind := .setThrottlerInstalled, installed } = some r ∧ _
    rw [Option.some_inj]
    constructor
    · intro hr
      split_ifs at hr with hcontains
      obtain rfl := Handling.execute.inj hr
      have hyes : cfg.throttler.installed.contains installed = true := by simpa using hcontains
      exact ⟨rfl, hyes⟩
    · rintro ⟨rfl, hcontains⟩
      change cfg.throttler.installed.contains installed = true at hcontains
      rw [hcontains]
      rfl
  | setReadBatchSize v =>
    refine Iff.trans (Eq.congr_left (commandsHandler_object _ (stringifyNumber v))) ?_
    refine (setInt_eq_execute_iff (hsafe.readBatchSize.bounds h.readBatchSizeMin.le) ?_).trans
      (exists_iff_mem_map_toInt? .setReadBatchSize fun _ => rfl)
    -- A null is read as the zero, which is below the minimum.
    refine Or.inr (Bool.eq_false_iff.mpr fun hzero => ?_)
    exact absurd (RangeConfig.bounds_of_contains hzero).1 (not_le.mpr h.readBatchSizeMin)
  | setWorkerCount v =>
    refine Iff.trans (Eq.congr_left (commandsHandler_object _ (stringifyNumber v))) ?_
    exact (setPresentInt_eq_execute_iff (hsafe.readerWorkers.bounds hreader)).trans
      (exists_iff_mem_map_toInt? .setReaderWorkers fun _ => rfl)
  | setSenderWorkers v =>
    refine Iff.trans (Eq.congr_left (commandsHandler_object _ (stringifyNumber v))) ?_
    exact (setPresentInt_eq_execute_iff (hsafe.senderWorkers.bounds hsender)).trans
      (exists_iff_mem_map_toInt? .setSenderWorkers fun _ => rfl)
  | setRequestedTps v =>
    refine Iff.trans (Eq.congr_left (commandsHandler_object _ (stringifyNumber v))) ?_
    exact (setPresentInt_eq_execute_iff (hsafe.requestedTPS.bounds h.requestedTPSMin)).trans
      (exists_iff_mem_map_toInt? .setRequestedTPS fun _ => rfl)
  | setReaderChannelCapacity v =>
    refine Iff.trans (Eq.congr_left (commandsHandler_object _ (stringifyNumber v))) ?_
    exact (setPresentInt_eq_execute_iff (hsafe.readerChannel.bounds h.readerChannel)).trans
      (exists_iff_mem_map_toInt? .setReaderChannelCapacity fun _ => rfl)
  | setSenderChannelCapacity v =>
    refine Iff.trans (Eq.congr_left (commandsHandler_object _ (stringifyNumber v))) ?_
    exact (setPresentInt_eq_execute_iff (hsafe.senderChannel.bounds h.senderChannel)).trans
      (exists_iff_mem_map_toInt? .setSenderChannelCapacity fun _ => rfl)

/-! ### The result -/

/-- **The command gate of the frontend agrees with the load generator.** For a valid
configuration with safe integers, which the frontend has decoded, and a command that sets
a control to any value: the frontend lets it pass, where it is connected and, for what is
set while idle only, idle, exactly when the value is one `contains` accepts; exactly then
the handler takes the body that is sent for it for the same command with the same value;
and what the event loop answers, whatever happens meanwhile, is that it is accepted,
unless it can be set while idle only and the run is not. -/
theorem command_gate_agrees (command : SupportedCommand) (hvalid : cfg.validate net = none) (hsafe : cfg.Safe)
    {config : LoadgenConfigSnapshot}
    (hdecoded : decodeConfig (parse (runtimeConfigStatusFromConfig cfg).toJson) = .ok config)
    (hset : command.val.setsControl = true) :
    (∀ snapshot : LoadgenTelemetrySnapshot, snapshot.config = some config →
      (canDispatchConfigCommand command snapshot = true ↔
        snapshot.connectionState = .connected ∧
          (command.val.idleOnly = true → snapshot.runState = .idle) ∧
          ∃ r ∈ command.val.toRuntime?, r.isContained cfg = true)) ∧
    (∀ r, commandsHandler cfg ⟨"POST", some ⟨[commandRequest command], true⟩⟩ = .execute r ↔
      r ∈ command.val.toRuntime? ∧ r.isContained cfg = true) ∧
    (∀ r ∈ command.val.toRuntime?, r.isContained cfg = true → ∀ now s glob as,
      Service.machine.Reachable (newService cfg now) s →
      (∀ a ∈ as, ∀ e, a ≠ Service.Action.event e) →
      Service.machine.Run s (.event (.command (r.toCommand glob)) :: as) →
      (Service.machine.after s (.event (.command (r.toCommand glob)) :: as)).todo = [] →
      (Service.machine.after s (.event (.command (r.toCommand glob)) :: as)).responses =
        s.responses ++ [if command.val.idleOnly = true ∧ s.control.run.state ≠ .idle
          then .rejected else .accepted]) := by
  have h := Config.valid_of_validate hvalid
  obtain rfl : cfg.toSnapshot = config :=
    Except.ok.inj ((decodeConfig_toJson hvalid hsafe).symm.trans hdecoded)
  refine ⟨fun snapshot hconfig => canDispatch_iff h hsafe hconfig hset,
    fun r => commandsHandler_eq_execute_iff h hsafe hset, ?_⟩
  intro r hr hcontains now s glob as hreachable hevents hrun hdone
  have hconfig : s.control.config = cfg := (Service.inBounds_of_reachable h hreachable).config
  have hcontained : (r.toCommand glob).isContained s.control.config = true := by
    rw [hconfig, isContained_toCommand]
    exact hcontains
  rw [← idleOnly_toCommand glob hr]
  exact Service.responses_of_isContained hcontained hevents hrun hdone

/-- The integers of the example are safe. -/
theorem safe_exampleConfig : exampleConfig.Safe where
  readBatchSize := ⟨by decide, by decide, by decide, by decide⟩
  readerWorkers := ⟨by decide, by decide, by decide, by decide⟩
  readerChannel := ⟨by decide, by decide⟩
  senderChannel := ⟨by decide, by decide⟩
  requestedTPS := ⟨by decide, by decide, by decide, by decide⟩
  senderWorkers := ⟨by decide, by decide, by decide, by decide⟩
  windowMS := ⟨by decide, by decide, by decide, by decide⟩

/-- The batch size of the example is set to 5000 while it is idle. -/
theorem command_gate_agrees_exampleConfig :
    (∀ snapshot : LoadgenTelemetrySnapshot, snapshot.config = some exampleConfig.toSnapshot →
      snapshot.connectionState = .connected → snapshot.runState = .idle →
      canDispatchConfigCommand ⟨.setReadBatchSize (5000 : ℤ), rfl⟩ snapshot = true) ∧
    commandsHandler exampleConfig
        ⟨"POST", some ⟨[commandRequest ⟨.setReadBatchSize (5000 : ℤ), rfl⟩], true⟩⟩ =
      .execute { kind := .setReadBatchSize, value := 5000 } ∧
    (Service.machine.after (newService exampleConfig 0)
      [.event (.command (.setReadBatchSize 5000)), .exec, .exec]).responses = [.accepted] := by
  have hvalid : exampleConfig.validate exampleParsers = none := by decide +kernel
  have hvalue : ({ kind := .setReadBatchSize, value := 5000 } : RuntimeCommand) ∈
      (LoadgenCommand.setReadBatchSize (5000 : ℤ)).toRuntime? := by decide +kernel
  have hcontains : RuntimeCommand.isContained exampleConfig
      { kind := .setReadBatchSize, value := 5000 } = true := by decide
  obtain ⟨hgate, hhandler, hloop⟩ := command_gate_agrees
    ⟨.setReadBatchSize (5000 : ℤ), rfl⟩ hvalid safe_exampleConfig
    (decodeConfig_toJson hvalid safe_exampleConfig) rfl
  exact ⟨fun snapshot hconfig hconnected hidle =>
      (hgate snapshot hconfig).mpr ⟨hconnected, fun _ => hidle, _, hvalue, hcontains⟩,
    (hhandler _).mpr ⟨hvalue, hcontains⟩,
    hloop _ hvalue hcontains 0 (newService exampleConfig 0) (.ok []) [.exec, .exec] (.refl _)
      (by simp) (by decide +kernel) (by decide +kernel)⟩

end IngestionLab
