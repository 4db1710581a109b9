import IngestionLab.Frontend.SimulationAdapter
import IngestionLab.Frontend.Simulation.Moves

/-!
# Ticks of the timer do not matter

The simulation of an adapter is a function of the commands and of when they are dispatched.
At any moment an adapter that is running owes its simulation the steps of the time since it
was last advanced; what the simulation comes to once they are made
(`IngestionLab.Frontend.SimulationAdapter.settle`) a tick does not change
(`IngestionLab.Frontend.SimulationAdapter.settle_tick`), and a command starts from it
(`IngestionLab.Frontend.SimulationAdapter.answers_dispatch`). The clock of the simulation
shows the steps that have been made (`IngestionLab.Frontend.SimulationAdapter.Timed`), for
every step moves it by as much and only a reset sets it. So a run with ticks follows
the run without them (`IngestionLab.Frontend.SimulationAdapter.follows_after`), and two runs
with the same commands agree wherever a command is accepted
(`IngestionLab.Frontend.SimulationAdapter.ticks_do_not_matter`).
-/

namespace IngestionLab.Frontend

open JS FixedStepSimulation

namespace SimulationAdapter

variable {adapter adapter' : SimulationAdapter} {now : ℕ}

/-! ### What is owed -/

/-- **The simulation once the steps up to a moment are made**, and the time left over. -/
def settle (adapter : SimulationAdapter) (now : ℕ) : FixedStepSimulation × ℕ :=
  if adapter.runState = .running then
    let owed := adapter.pendingStepMs + (now - adapter.lastTickMs)
    (advanceSteps (owed / fixedStepMs) adapter.simulation, owed % fixedStepMs)
  else (adapter.simulation, adapter.pendingStepMs)

/-- **The time the adapter has been running** since the last reset, at a moment. -/
def ranFor (adapter : SimulationAdapter) (now : ℕ) : ℕ :=
  adapter.steps * fixedStepMs + adapter.pendingStepMs +
    if adapter.runState = .running then now - adapter.lastTickMs else 0

/-- A new simulation, but for the number of calls of the outcome source. -/
def newSimulation (config : SimulationConfig) (readerCapacity senderCapacity outcomeCalls : ℕ) :
    FixedStepSimulation :=
  { createSimulation config readerCapacity senderCapacity with outcomeCalls }

/-- **A simulation that has not made a step.** -/
def Untouched (sim : FixedStepSimulation) : Prop :=
  ∃ config readerCapacity senderCapacity outcomeCalls,
    sim = newSimulation config readerCapacity senderCapacity outcomeCalls

/-- **What holds of an adapter at all times**: less than a step is left over, the snapshot
is current, and an adapter that is idle has a simulation that has not made a step. -/
structure Sound (adapter : SimulationAdapter) : Prop where
  left : adapter.pendingStepMs < fixedStepMs
  current : adapter.snapshot =
    freezeSnapshot adapter.revision adapter.runState adapter.simulation
  idle : adapter.runState = .idle → Untouched adapter.simulation
  manned : adapter.simulation.Manned

theorem advanceSteps_add (m n : ℕ) (sim : FixedStepSimulation) :
    advanceSteps m (advanceSteps n sim) = advanceSteps (m + n) sim :=
  (Function.iterate_add_apply _ m n sim).symm

theorem manned_advanceSteps (n : ℕ) {sim : FixedStepSimulation} (h : sim.Manned) :
    (advanceSteps n sim).Manned := by
  induction n generalizing sim with
  | zero => exact h
  | succ n ih => exact ih (manned_perform none (show Operation.Valid .advanceStep from trivial) h)

/-! ### Advancing -/

/-- The adapter once the steps up to a moment are made. -/
def settled (adapter : SimulationAdapter) (now : ℕ) : SimulationAdapter :=
  { adapter with
    simulation := (adapter.settle now).1
    pendingStepMs := (adapter.settle now).2
    lastTickMs := now
    steps := (adapter.ranFor now - (adapter.settle now).2) / fixedStepMs }

/-- **What `advanceToNow` does**: the steps that are owed are made. -/
theorem advanceToNow_fst (h : adapter.Sound) : (adapter.advanceToNow now).1 = adapter.settled now := by
  have hleft := h.left
  rw [fixedStepMs] at hleft
  rw [advanceToNow, settled, settle, ranFor]
  dsimp only
  by_cases hrunning : adapter.runState = .running
  · by_cases hdelta : now - adapter.lastTickMs = 0
    · rw [if_pos (Or.inr hdelta), if_pos hrunning, if_pos hrunning, hdelta, fixedStepMs, add_zero,
        Nat.div_eq_of_lt hleft, Nat.mod_eq_of_lt hleft]
      have hsteps : (adapter.steps * 10 + adapter.pendingStepMs + 0 - adapter.pendingStepMs) / 10 =
        adapter.steps := by omega
      rw [hsteps]
      rfl
    · rw [if_neg (by simp [hrunning, hdelta]), if_pos hrunning, if_pos hrunning]
      generalize now - adapter.lastTickMs = delta
      simp only [fixedStepMs]
      congr 1
      · omega
      · omega
  · rw [if_pos (Or.inl hrunning), if_neg hrunning, if_neg hrunning]
    have hsteps : (adapter.steps * fixedStepMs + adapter.pendingStepMs + 0 -
        adapter.pendingStepMs) / fixedStepMs = adapter.steps := by
      rw [fixedStepMs]
      omega
    rw [hsteps]

/-- Where no step is made, nothing has changed. -/
theorem settle_of_advanceToNow (h : adapter.Sound) (hsame : (adapter.advanceToNow now).2 = false) :
    (adapter.settle now).1 = adapter.simulation := by
  have hleft := h.left
  rw [advanceToNow] at hsame
  rw [settle]
  dsimp only at hsame
  split at hsame
  · next hstill =>
    rcases hstill with hidle | hdelta
    · rw [if_neg hidle]
    · split
      · dsimp only
        rw [hdelta, add_zero, Nat.div_eq_of_lt hleft]
        rfl
      · rfl
  · split
    · have hzero := Nat.eq_zero_of_not_pos (of_decide_eq_false hsame)
      dsimp only
      rw [hzero]
      rfl
    · rfl

theorem ranFor_eq (adapter : SimulationAdapter) (now : ℕ) (hleft : adapter.pendingStepMs < fixedStepMs) :
    (adapter.ranFor now - (adapter.settle now).2) / fixedStepMs * fixedStepMs +
      (adapter.settle now).2 = adapter.ranFor now := by
  rw [fixedStepMs] at hleft
  rw [ranFor, settle]
  simp only [fixedStepMs]
  split
  · dsimp only
    omega
  · dsimp only
    omega

theorem settle_snd_lt (h : adapter.Sound) : (adapter.settle now).2 < fixedStepMs := by
  rw [settle]
  split
  · exact Nat.mod_lt _ (by decide)
  · exact h.left

theorem manned_settle (now : ℕ) (h : adapter.Sound) : (adapter.settle now).1.Manned := by
  rw [settle]
  split
  · exact manned_advanceSteps _ h.manned
  · exact h.manned

/-- An adapter that is idle owes nothing. -/
theorem untouched_settle (h : adapter.Sound) (hidle : adapter.runState = .idle) :
    Untouched (adapter.settle now).1 := by
  rw [settle, if_neg (by rw [hidle]; exact nofun)]
  exact h.idle hidle

/-! ### A simulation that has not made a step -/

/-- The workers of a new simulation are idle and stay. -/
theorem of_mem_createWorkers {worker : SenderWorker} {n : ℕ} (h : worker ∈ createWorkers n) :
    worker.retiring = false ∧ worker.state = .idle := by
  obtain ⟨workerId, -, rfl⟩ := List.mem_map.mp h
  exact ⟨rfl, rfl⟩

/-- More or fewer workers, all of them new, are as many new ones. -/
theorem requestSenderWorkerCount_createWorkers {sim : FixedStepSimulation} {m n : ℕ}
    (hpos : 0 < n) (hworkers : sim.workers = createWorkers m) (hindex : sim.nextWorkerIndex = some 0) :
    sim.requestSenderWorkerCount n = { sim with workers := createWorkers n } := by
  have hstay : (createWorkers m).map (fun worker => { worker with retiring := false }) =
      createWorkers m := by
    rw [createWorkers, List.map_map]
    rfl
  have hlength : (createWorkers m).length = m := by
    rw [createWorkers, List.length_map, List.length_range]
  rw [requestSenderWorkerCount, hworkers, hstay]
  dsimp only
  rw [hlength]
  split
  · next hmore =>
    have hcount : m + (n - m) = n := by omega
    have hrange := List.range'_append_1 (s := 0) (m := m) (n := n - m)
    rw [Nat.zero_add, hcount, ← List.range_eq_range', ← List.range_eq_range'] at hrange
    rw [createWorkers, createWorkers, ← List.map_append, hrange]
  split
  · next hsame => rw [hsame]
  · next hle hne =>
    have htake : (createWorkers m).take n = createWorkers n := by
      rw [createWorkers, ← List.map_take, List.take_range, Nat.min_eq_left (by omega)]
      rfl
    rw [htake]
    generalize hgone : ((createWorkers m).drop n).map (fun worker => { worker with retiring := true }) =
      gone
    have hidle : ∀ worker ∈ gone, worker.retiring = true ∧ worker.state = .idle := by
      intro worker hworker
      rw [← hgone] at hworker
      obtain ⟨old, hold, rfl⟩ := List.mem_map.mp hworker
      exact ⟨rfl, (of_mem_createWorkers (List.mem_of_mem_drop hold)).2⟩
    have hsome : gone ≠ [] := by
      rw [← hgone, ne_eq, List.map_eq_nil_iff, List.drop_eq_nil_iff, hlength]
      omega
    have hretiring : (createWorkers n ++ gone).filter (·.retiring) = gone := by
      rw [List.filter_append, List.filter_eq_nil_iff.mpr fun worker hworker => by
        rw [(of_mem_createWorkers hworker).1]
        exact Bool.false_ne_true, List.filter_eq_self.mpr fun worker hworker => (hidle worker hworker).1,
        List.nil_append]
    have hstaying : (createWorkers n ++ gone).filter (fun worker => !worker.retiring) =
        createWorkers n := by
      rw [List.filter_append, List.filter_eq_self.mpr fun worker hworker => by
        rw [(of_mem_createWorkers hworker).1]
        rfl, List.filter_eq_nil_iff.mpr fun worker hworker => by
        rw [(hidle worker hworker).1]
        exact Bool.false_ne_true, List.append_nil]
    have hpositive : (createWorkers n).length ≠ 0 := by
      rw [createWorkers, List.length_map, List.length_range]
      exact hpos.ne'
    rw [finalizeSenderScaleDown]
    dsimp only
    rw [hretiring, hstaying, if_neg, hindex, Option.bind_some, if_neg hpositive, Nat.zero_mod]
    rintro (hnone | ⟨worker, hworker, hbusy⟩)
    · exact hsome hnone
    · exact hbusy (hidle worker hworker).2

/-- A simulation that has not made a step may be configured. -/
theorem Untouched.updateConfig {sim : FixedStepSimulation} (h : Untouched sim)
    (values : PartialConfig) (hpos : ∀ n ∈ values.senderWorkers, 0 < n) :
    Untouched (sim.updateConfig values) := by
  obtain ⟨config, readerCapacity, senderCapacity, outcomeCalls, rfl⟩ := h
  refine ⟨assignConfig config values, readerCapacity, senderCapacity, outcomeCalls, ?_⟩
  have hworkers : ∀ sim : FixedStepSimulation,
      { newSimulation config readerCapacity senderCapacity outcomeCalls with
        config := assignConfig config values } = sim →
      values.senderWorkers.elim sim sim.requestSenderWorkerCount =
        newSimulation (assignConfig config values) readerCapacity senderCapacity outcomeCalls := by
    rintro sim rfl
    cases hsome : values.senderWorkers with
    | none =>
      have hsame : (assignConfig config values).senderWorkers = config.senderWorkers := by
        rw [assignConfig, hsome]
        rfl
      rw [newSimulation, newSimulation, createSimulation, createSimulation, hsame]
      rfl
    | some n =>
      have hsame : (assignConfig config values).senderWorkers = n := by
        rw [assignConfig, hsome]
        rfl
      rw [Option.elim_some, requestSenderWorkerCount_createWorkers (hpos n hsome) rfl rfl,
        newSimulation, newSimulation, createSimulation, createSimulation, hsame]
  rw [FixedStepSimulation.updateConfig]
  generalize hsim : ({ newSimulation config readerCapacity senderCapacity outcomeCalls with
    config := assignConfig _ values } : FixedStepSimulation) = sim
  rw [hworkers sim hsim, newSimulation]
  simp only [createSimulation, ite_self, min_eq_left (Nat.cast_nonneg _)]

/-- Its channels hold nothing, so a capacity is applied at once. -/
theorem Untouched.requestChannelCapacity {sim : FixedStepSimulation} (h : Untouched sim)
    (channel : ChannelId) (capacity : ℕ) :
    Untouched (sim.requestChannelCapacity channel capacity).1 := by
  obtain ⟨config, readerCapacity, senderCapacity, outcomeCalls, rfl⟩ := h
  have happlied : ∀ applied : ℕ,
      (({ appliedCapacity := applied } : StatefulChannel SimulationBatch).requestCapacity capacity).1 =
        { appliedCapacity := capacity } := by
    intro applied
    rw [StatefulChannel.requestCapacity]
    split
    · next hsame => rw [hsame.1]
    · split
      · rfl
      · next hfull => exact absurd (Nat.zero_le capacity) hfull
  cases channel with
  | readerToThrottler =>
    refine ⟨config, capacity, senderCapacity, outcomeCalls, ?_⟩
    exact congrArg (fun channel =>
      ({ newSimulation config readerCapacity senderCapacity outcomeCalls with
        readerChannel := channel } : FixedStepSimulation)) (happlied readerCapacity)
  | throttlerToSender =>
    refine ⟨config, readerCapacity, capacity, outcomeCalls, ?_⟩
    exact congrArg (fun channel =>
      ({ newSimulation config readerCapacity senderCapacity outcomeCalls with
        senderChannel := channel } : FixedStepSimulation)) (happlied senderCapacity)

theorem untouched_reset (sim : FixedStepSimulation) : Untouched sim.reset :=
  ⟨sim.config, _, _, sim.outcomeCalls, rfl⟩

/-- A reset of it changes nothing. -/
theorem Untouched.reset_eq {sim : FixedStepSimulation} (h : Untouched sim) : sim.reset = sim := by
  obtain ⟨config, readerCapacity, senderCapacity, outcomeCalls, rfl⟩ := h
  rfl

/-! ### Commands -/

/-- What a setting makes of a simulation. -/
def configured (same : SimulationConfig → Bool) (values : PartialConfig)
    (sim : FixedStepSimulation) : FixedStepSimulation :=
  if same sim.config then sim else sim.updateConfig values

/-- **What a command makes of the run state and of the simulation**, where it is not
refused. -/
def effect (command : LoadgenCommand) (runState : RunState) (sim : FixedStepSimulation) :
    Option (RunState × FixedStepSimulation) :=
  match command with
  | .run => some (.running, if runState = .running then sim else sim.clearInstantaneousTelemetry)
  | .pause => some (.paused, sim)
  | .reset => if runState = .running then none else some (.idle, sim.reset)
  | .setRequestedTps value => value.toRat?.map fun value =>
    let tps := normalizeNumericValue value ControlRanges.requestedTps
    (runState, configured (·.requestedTps = tps) { requestedTps := some tps } sim)
  | .setThrottlerInstalled value => some (runState,
    configured (·.throttlerInstalled = value) { throttlerInstalled := some value } sim)
  | .setWorkerCount value => value.toRat?.map fun value =>
    let workers := normalizeNumericValue value ControlRanges.readerWorkers
    (runState, configured (·.readerWorkers = workers) { readerWorkers := some workers } sim)
  | .setSenderWorkers value => value.toRat?.map fun value =>
    let workers := normalizeNumericValue value ControlRanges.senderWorkers
    (runState, configured (·.senderWorkers = workers) { senderWorkers := some workers } sim)
  | .setReaderChannelCapacity value => value.toRat?.map fun value =>
    (runState, (sim.requestChannelCapacity .readerToThrottler
      (normalizeNumericValue value ControlRanges.readerChannelCapacity)).1)
  | .setSenderChannelCapacity value => value.toRat?.map fun value =>
    (runState, (sim.requestChannelCapacity .throttlerToSender
      (normalizeNumericValue value ControlRanges.senderChannelCapacity)).1)
  | .setReadBatchSize value => value.toRat?.map fun value =>
    let size := normalizeNumericValue value ControlRanges.readBatchSize
    (runState, configured (·.readBatchSize = size) { readBatchSize := some size } sim)
  | .setHttpTimeout valueMs => valueMs.toRat?.map fun valueMs =>
    let timeoutMs := normalizeNumericValue valueMs ControlRanges.httpTimeoutMs
    (runState, configured (·.httpTimeoutMs = timeoutMs) { httpTimeoutMs := some timeoutMs } sim)

/-- **A command is accepted**: it starts from the settled simulation. -/
structure Accepted (adapter : SimulationAdapter) (now : ℕ) (command : LoadgenCommand)
    (r : SimulationAdapter × CommandReceipt) : Prop where
  accepted : r.2.accepted = true
  effect : effect command adapter.runState (adapter.settle now).1 =
    some (r.1.runState, r.1.simulation)
  left : r.1.pendingStepMs = if command = .reset then 0 else (adapter.settle now).2
  ran : r.1.steps * fixedStepMs + r.1.pendingStepMs =
    if command = .reset then 0 else adapter.ranFor now
  lastTickMs : r.1.lastTickMs = now
  disposed : r.1.disposed = adapter.disposed
  sound : r.1.Sound

/-- **A command is refused.** -/
structure Refused (adapter : SimulationAdapter) (now : ℕ) (command : LoadgenCommand)
    (r : SimulationAdapter × CommandReceipt) : Prop where
  refused : r.2.accepted = false
  reason : adapter.disposed = true ∨ effect command adapter.runState (adapter.settle now).1 = none
  same : r.1 = { adapter with commandSequence := adapter.commandSequence + 1 }

/-- What is published where something has changed is current. -/
theorem sound_accept {command : LoadgenCommand} {r : SimulationAdapter × Bool}
    (h : adapter.Sound) (hsnapshot : r.1.snapshot = adapter.snapshot)
    (hrevision : r.1.revision = adapter.revision)
    (hsame : r.2 = false →
      r.1.runState = adapter.runState ∧ r.1.simulation = adapter.simulation)
    (hleft : r.1.pendingStepMs < fixedStepMs) (hidle : r.1.runState = .idle → Untouched r.1.simulation)
    (hmanned : r.1.simulation.Manned) : (accept now command r).1.Sound := by
  obtain ⟨result, changed⟩ := r
  rw [accept]
  cases changed with
  | true => exact ⟨hleft, rfl, hidle, hmanned⟩
  | false =>
    obtain ⟨hrun, hsim⟩ := hsame rfl
    refine ⟨hleft, ?_, hidle, hmanned⟩
    show result.snapshot = freezeSnapshot result.revision result.runState result.simulation
    exact hsnapshot.trans (h.current.trans (by rw [hrevision, hrun, hsim]))

/-- **The end of a command** that is not a reset. -/
theorem accepted_accept {command : LoadgenCommand} {r : SimulationAdapter × Bool}
    (runState : RunState) (sim : FixedStepSimulation) (h : adapter.Sound)
    (hr : r.1 = { adapter.settled now with runState := runState, simulation := sim })
    (hsame : r.2 = false → runState = adapter.runState ∧ sim = adapter.simulation)
    (hcommand : command ≠ .reset)
    (heffect : effect command adapter.runState (adapter.settle now).1 = some (runState, sim))
    (hidle : runState = .idle → Untouched sim) (hmanned : sim.Manned) :
    Accepted adapter now command (accept now command r) := by
  have hsound : (accept now command r).1.Sound := by
    refine sound_accept h ?_ ?_ ?_ ?_ ?_ ?_
    all_goals rw [hr]
    · rfl
    · rfl
    · exact hsame
    · exact settle_snd_lt h
    · exact hidle
    · exact hmanned
  obtain ⟨result, changed⟩ := r
  obtain rfl : result = _ := hr
  have hran := ranFor_eq adapter now h.left
  cases changed with
  | true => exact ⟨rfl, heffect, (if_neg hcommand).symm, hran.trans (if_neg hcommand).symm, rfl, rfl, hsound⟩
  | false => exact ⟨rfl, heffect, (if_neg hcommand).symm, hran.trans (if_neg hcommand).symm, rfl, rfl, hsound⟩

/-- **A setting.** -/
theorem accepted_updateConfig {command : LoadgenCommand} {same : SimulationConfig → Bool}
    {values : PartialConfig} (h : adapter.Sound) (hcommand : command ≠ .reset)
    (heffect : effect command adapter.runState (adapter.settle now).1 =
      some (adapter.runState, configured same values (adapter.settle now).1))
    (hpos : ∀ n ∈ values.senderWorkers, 0 < n) :
    Accepted adapter now command (accept now command (adapter.updateConfig now same values)) := by
  have hadvanced : (adapter.advanceToNow now).1 = adapter.settled now := advanceToNow_fst h
  have hstill : (adapter.advanceToNow now).2 = false →
      (adapter.settle now).1 = adapter.simulation := settle_of_advanceToNow h
  have hsettled := manned_settle now h
  rw [updateConfig]
  generalize adapter.advanceToNow now = r at hadvanced hstill
  obtain ⟨result, advanced⟩ := r
  obtain rfl : result = _ := hadvanced
  have hconfig : (adapter.settled now).simulation = (adapter.settle now).1 := rfl
  dsimp only
  rw [hconfig]
  rw [configured] at heffect
  split at heffect
  · next hsame =>
    rw [if_pos hsame]
    exact accepted_accept _ _ h rfl (fun hfalse => ⟨rfl, hstill hfalse⟩) hcommand heffect
      (untouched_settle h) hsettled
  · next hsame =>
    rw [if_neg hsame]
    exact accepted_accept _ _ h rfl nofun hcommand heffect
      (fun hidle => (untouched_settle h hidle).updateConfig values hpos)
      (manned_updateConfig hpos hsettled)

/-- A request of a capacity that changes nothing. -/
theorem requestChannelCapacity_of_unchanged {sim : FixedStepSimulation} {channel : ChannelId}
    {capacity : ℕ} (h : (sim.requestChannelCapacity channel capacity).2 = false) :
    (sim.requestChannelCapacity channel capacity).1 = sim := by
  have hkey : ∀ c : StatefulChannel SimulationBatch, (c.requestCapacity capacity).2 = false →
      (c.requestCapacity capacity).1 = c := by
    intro c hc
    rw [StatefulChannel.requestCapacity] at hc ⊢
    split
    · rfl
    · next hnew =>
      rw [if_neg hnew] at hc
      split at hc <;> exact absurd hc (by rintro ⟨⟩)
  cases channel with
  | readerToThrottler =>
    exact congrArg (fun c => ({ sim with readerChannel := c } : FixedStepSimulation)) (hkey _ h)
  | throttlerToSender =>
    exact congrArg (fun c => ({ sim with senderChannel := c } : FixedStepSimulation)) (hkey _ h)

/-- **A request of a capacity.** -/
theorem accepted_requestChannelCapacity {command : LoadgenCommand} {channel : ChannelId}
    {capacity : ℕ} (h : adapter.Sound) (hcommand : command ≠ .reset)
    (heffect : effect command adapter.runState (adapter.settle now).1 =
      some (adapter.runState, ((adapter.settle now).1.requestChannelCapacity channel capacity).1)) :
    Accepted adapter now command
      (accept now command (adapter.requestChannelCapacity now channel capacity)) := by
  have hadvanced : (adapter.advanceToNow now).1 = adapter.settled now := advanceToNow_fst h
  have hstill : (adapter.advanceToNow now).2 = false →
      (adapter.settle now).1 = adapter.simulation := settle_of_advanceToNow h
  have hmanned := manned_perform none
    (show Operation.Valid (.requestChannelCapacity channel capacity) from trivial)
    (manned_settle now h)
  rw [SimulationAdapter.requestChannelCapacity]
  generalize adapter.advanceToNow now = r at hadvanced hstill
  obtain ⟨result, advanced⟩ := r
  obtain rfl : result = _ := hadvanced
  refine accepted_accept _ _ h rfl (fun hfalse => ⟨rfl, ?_⟩) hcommand heffect
    (fun hidle => (untouched_settle h hidle).requestChannelCapacity channel capacity) hmanned
  -- A request that changes nothing leaves the channel as it was.
  obtain ⟨hunchanged, hadvanced⟩ := Bool.or_eq_false_iff.mp hfalse
  rw [← hstill hadvanced]
  exact requestChannelCapacity_of_unchanged hunchanged

/-- While it is not running an adapter is settled. -/
theorem settled_of_still (now : ℕ) (h : adapter.Sound) (hstill : adapter.runState ≠ .running) :
    adapter.settled now = { adapter with lastTickMs := now } := by
  rw [← advanceToNow_fst h, advanceToNow]
  dsimp only
  rw [if_pos (Or.inl hstill)]

theorem accepted_run (h : adapter.Sound) :
    Accepted adapter now .run (accept now .run <|
      if adapter.runState = .running then adapter.advanceToNow now
      else ({ adapter with
        runState := .running
        simulation := adapter.simulation.clearInstantaneousTelemetry
        lastTickMs := now }, true)) := by
  have hmanned := manned_settle now h
  by_cases hrunning : adapter.runState = .running
  · rw [if_pos hrunning]
    refine accepted_accept .running _ h ?_ (fun hfalse => ?_) nofun
      (by rw [effect, if_pos hrunning]) nofun hmanned
    · rw [advanceToNow_fst h, ← hrunning]
      rfl
    · exact ⟨hrunning.symm, settle_of_advanceToNow h hfalse⟩
  · rw [if_neg hrunning]
    have hsettled := settled_of_still now h hrunning
    have hsim : (adapter.settle now).1 = adapter.simulation := congrArg simulation hsettled
    rw [hsim] at hmanned
    have hcleared : adapter.simulation.clearInstantaneousTelemetry.Manned :=
      ⟨hmanned.staffed, hmanned.configured⟩
    refine accepted_accept .running _ h ?_ nofun nofun
      (by rw [effect, if_neg hrunning, hsim]) nofun hcleared
    rw [hsettled]

theorem accepted_pause (h : adapter.Sound) :
    Accepted adapter now .pause (accept now .pause <|
      let (adapter, advanced) := adapter.advanceToNow now
      if adapter.runState ≠ .paused then ({ adapter with runState := .paused }, true)
      else (adapter, advanced)) := by
  have hmanned := manned_settle now h
  have hadvanced : (adapter.advanceToNow now).1 = adapter.settled now := advanceToNow_fst h
  have hstill : (adapter.advanceToNow now).2 = false →
      (adapter.settle now).1 = adapter.simulation := settle_of_advanceToNow h
  generalize adapter.advanceToNow now = r at hadvanced hstill
  obtain ⟨result, advanced⟩ := r
  obtain rfl : result = _ := hadvanced
  dsimp only
  by_cases hpaused : (adapter.settled now).runState ≠ .paused
  · rw [if_pos hpaused]
    exact accepted_accept .paused _ h rfl nofun nofun rfl nofun hmanned
  · rw [if_neg hpaused]
    have hsame : adapter.runState = .paused := of_not_not hpaused
    refine accepted_accept .paused _ h ?_ (fun hfalse => ⟨hsame.symm, hstill hfalse⟩) nofun rfl nofun
      hmanned
    rw [← hsame]
    rfl

theorem accepted_reset (h : adapter.Sound) (hstill : adapter.runState ≠ .running) :
    Accepted adapter now .reset (accept now .reset (adapter.resetRunState now)) := by
  have hmanned := manned_perform none (show Operation.Valid .reset from trivial) h.manned
  have hsim : (adapter.settle now).1 = adapter.simulation :=
    congrArg simulation (settled_of_still now h hstill)
  have hsound : (accept now .reset (adapter.resetRunState now)).1.Sound := by
    refine sound_accept h rfl rfl (fun hsame => ?_) (show 0 < fixedStepMs by decide) (fun _ => untouched_reset _) hmanned
    -- Only what is idle is reset without a change, and that has not made a step.
    have hidle : adapter.runState = .idle := by
      by_contra hbusy
      exact of_decide_eq_false hsame (Or.inl hbusy)
    exact ⟨hidle.symm, (h.idle hidle).reset_eq⟩
  have heffect : effect .reset adapter.runState (adapter.settle now).1 =
      some (.idle, adapter.simulation.reset) := by
    rw [effect, if_neg hstill, hsim]
  generalize hr : adapter.resetRunState now = r at hsound
  obtain ⟨result, changed⟩ := r
  obtain rfl : _ = result := congrArg Prod.fst hr
  cases changed with
  | true => exact ⟨rfl, heffect, rfl, rfl, rfl, rfl, hsound⟩
  | false => exact ⟨rfl, heffect, rfl, rfl, rfl, rfl, hsound⟩

/-- A number is brought into its range. -/
theorem min_le_normalizeNumericValue (value : ℚ) (range : NumericRange)
    (h : range.min ≤ range.max) :
    range.min ≤ normalizeNumericValue value range := by
  rw [normalizeNumericValue]
  generalize (range.min : ℤ) + _ = stepped
  omega

/-- **How a command is answered**: it is refused, or the adapter is live and accepts it. -/
def Answers (adapter : SimulationAdapter) (now : ℕ) (command : LoadgenCommand)
    (r : SimulationAdapter × CommandReceipt) : Prop :=
  Refused adapter now command r ∨ adapter.disposed = false ∧ Accepted adapter now command r

/-- A command with a number that must be finite. -/
theorem answers_acceptFinite {numbered : SimulationAdapter} {command : LoadgenCommand}
    {field : String} {value : Number} {result : ℚ → SimulationAdapter × Bool}
    (hnumbered : numbered = { adapter with commandSequence := adapter.commandSequence + 1 })
    (hrefused : value.toRat? = none → effect command adapter.runState (adapter.settle now).1 = none)
    (haccepted : ∀ v, value = .finite v →
      Answers adapter now command (accept now command (result v))) :
    Answers adapter now command (numbered.acceptFinite now command field value result) := by
  cases value with
  | finite v => exact haccepted v rfl
  | infinity negative => exact Or.inl ⟨rfl, Or.inr (hrefused rfl), hnumbered⟩
  | nan => exact Or.inl ⟨rfl, Or.inr (hrefused rfl), hnumbered⟩

/-- **A command is refused or accepted.** -/
theorem answers_dispatch (now : ℕ) (h : adapter.Sound) (command : LoadgenCommand) :
    Answers adapter now command (adapter.dispatch now command) := by
  generalize hnumbered : { adapter with commandSequence := adapter.commandSequence + 1 } = numbered
  have hsound : numbered.Sound := by
    rw [← hnumbered]
    exact ⟨h.left, h.current, h.idle, h.manned⟩
  have hlift : numbered.disposed = false → ∀ r, Accepted numbered now command r →
      Answers adapter now command r := by
    rintro hlive r hr
    rw [← hnumbered] at hr hlive
    exact Or.inr ⟨hlive,
      hr.accepted, hr.effect, hr.left, hr.ran, hr.lastTickMs, hr.disposed, hr.sound⟩
  unfold dispatch
  rw [hnumbered]
  dsimp only
  by_cases hdisposed : numbered.disposed = true
  · rw [if_pos hdisposed]
    exact Or.inl ⟨rfl, Or.inl (by rw [← hnumbered] at hdisposed; exact hdisposed), hnumbered.symm⟩
  rw [if_neg hdisposed]
  replace hlift := hlift (Bool.eq_false_iff.mpr hdisposed)
  cases command with
  | run => exact hlift _ (accepted_run hsound)
  | pause => exact hlift _ (accepted_pause hsound)
  | reset =>
    dsimp only
    by_cases hrunning : numbered.runState = .running
    · rw [if_pos hrunning]
      refine Or.inl ⟨rfl, Or.inr ?_, hnumbered.symm⟩
      rw [← hnumbered] at hrunning
      exact if_pos hrunning
    · rw [if_neg hrunning]
      exact hlift _ (accepted_reset hsound hrunning)
  | setRequestedTps value =>
    refine answers_acceptFinite hnumbered.symm (fun hnone => by rw [effect, hnone]; rfl) ?_
    rintro value rfl
    exact hlift _ (accepted_updateConfig hsound nofun rfl nofun)
  | setThrottlerInstalled value =>
    exact hlift _ (accepted_updateConfig hsound nofun rfl nofun)
  | setWorkerCount value =>
    refine answers_acceptFinite hnumbered.symm (fun hnone => by rw [effect, hnone]; rfl) ?_
    rintro value rfl
    exact hlift _ (accepted_updateConfig hsound nofun rfl nofun)
  | setSenderWorkers value =>
    refine answers_acceptFinite hnumbered.symm (fun hnone => by rw [effect, hnone]; rfl) ?_
    rintro value rfl
    refine hlift _ (accepted_updateConfig hsound nofun rfl ?_)
    rintro n hn
    rw [← Option.some.inj hn]
    exact min_le_normalizeNumericValue value ControlRanges.senderWorkers (by decide)
  | setReaderChannelCapacity value =>
    refine answers_acceptFinite hnumbered.symm (fun hnone => by rw [effect, hnone]; rfl) ?_
    rintro value rfl
    exact hlift _ (accepted_requestChannelCapacity hsound nofun rfl)
  | setSenderChannelCapacity value =>
    refine answers_acceptFinite hnumbered.symm (fun hnone => by rw [effect, hnone]; rfl) ?_
    rintro value rfl
    exact hlift _ (accepted_requestChannelCapacity hsound nofun rfl)
  | setReadBatchSize value =>
    refine answers_acceptFinite hnumbered.symm (fun hnone => by rw [effect, hnone]; rfl) ?_
    rintro value rfl
    exact hlift _ (accepted_updateConfig hsound nofun rfl nofun)
  | setHttpTimeout valueMs =>
    refine answers_acceptFinite hnumbered.symm (fun hnone => by rw [effect, hnone]; rfl) ?_
    rintro valueMs rfl
    exact hlift _ (accepted_updateConfig hsound nofun rfl nofun)

/-! ### Ticks -/

/-- **What a tick does**: the steps that are owed are made. -/
theorem exists_tick_eq (h : adapter.Sound) (hlive : adapter.disposed = false) (now : ℕ) :
    (adapter.tick now).Sound ∧ ∃ revision snapshot, adapter.tick now =
      { adapter.settled now with revision := revision, snapshot := snapshot } := by
  rw [tick]
  by_cases hstill : adapter.runState = .running
  · have hadvanced : (adapter.advanceToNow now).1 = adapter.settled now := advanceToNow_fst h
    have hsame : (adapter.advanceToNow now).2 = false →
        (adapter.settle now).1 = adapter.simulation := settle_of_advanceToNow h
    rw [if_neg (by rw [hlive, hstill]; simp)]
    generalize adapter.advanceToNow now = r at hadvanced hsame
    obtain ⟨result, advanced⟩ := r
    obtain rfl : result = _ := hadvanced
    have hrunning : (adapter.settled now).runState ≠ .idle := by
      show adapter.runState ≠ .idle
      rw [hstill]
      exact nofun
    cases advanced with
    | true =>
      exact ⟨⟨settle_snd_lt h, rfl, fun hidle => absurd hidle hrunning, manned_settle now h⟩, _, _, rfl⟩
    | false =>
      refine ⟨⟨settle_snd_lt h, ?_, fun hidle => absurd hidle hrunning, manned_settle now h⟩, _, _, rfl⟩
      exact h.current.trans (congrArg (freezeSnapshot _ _) (hsame rfl).symm)
  · rw [if_pos (Or.inr hstill), ← settled_of_still now h hstill]
    refine ⟨?_, _, _, rfl⟩
    rw [settled_of_still now h hstill]
    exact ⟨h.left, h.current, h.idle, h.manned⟩

/-- After an adapter is disposed of a tick does nothing. -/
theorem tick_of_disposed (now : ℕ) (hdisposed : adapter.disposed = true) :
    adapter.tick now = { adapter with lastTickMs := now } := by
  rw [tick, if_pos (Or.inl hdisposed)]

theorem sound_tick_of_disposed (now : ℕ) (h : adapter.Sound) (hdisposed : adapter.disposed = true) :
    (adapter.tick now).Sound := by
  rw [tick_of_disposed now hdisposed]
  exact ⟨h.left, h.current, h.idle, h.manned⟩

/-- **A tick does not change what the simulation comes to.** -/
theorem settle_tick (later : ℕ) (h : adapter.Sound) (hlive : adapter.disposed = false)
    (hlast : adapter.lastTickMs ≤ now) (hlater : now ≤ later) :
    (adapter.tick now).settle later = adapter.settle later := by
  obtain ⟨-, revision, snapshot, heq⟩ := exists_tick_eq h hlive now
  rw [heq]
  by_cases hrunning : adapter.runState = .running
  · have howed : adapter.pendingStepMs + (later - adapter.lastTickMs) =
        adapter.pendingStepMs + (now - adapter.lastTickMs) + (later - now) := by omega
    show (if adapter.runState = .running then _ else _) = _
    rw [settle, if_pos hrunning, if_pos hrunning, howed]
    dsimp only [settled]
    rw [settle, if_pos hrunning]
    generalize adapter.pendingStepMs + (now - adapter.lastTickMs) = owed
    generalize later - now = rest
    dsimp only
    rw [advanceSteps_add, fixedStepMs]
    have hsteps : (owed % 10 + rest) / 10 + owed / 10 = (owed + rest) / 10 := by omega
    have hleft : (owed % 10 + rest) % 10 = (owed + rest) % 10 := by omega
    rw [hsteps, hleft]
  · rw [settled_of_still _ h hrunning]
    show (if adapter.runState = .running then _ else _) = _
    rw [settle, if_neg hrunning, if_neg hrunning]

/-- Nor for how long it has been running. -/
theorem ranFor_tick (h : adapter.Sound) (hlive : adapter.disposed = false) :
    (adapter.tick now).ranFor now = adapter.ranFor now := by
  obtain ⟨-, revision, snapshot, heq⟩ := exists_tick_eq h hlive now
  have hran := ranFor_eq adapter now h.left
  rw [heq]
  show _ * fixedStepMs + _ + (if adapter.runState = .running then now - now else 0) = _
  rw [Nat.sub_self, ite_self, Nat.add_zero]
  exact hran

/-! ### The clock of the simulation -/

/-- **The clock of the simulation shows the steps that have been made.** -/
def Timed (adapter : SimulationAdapter) : Prop :=
  adapter.simulation.elapsedMs = adapter.steps * fixedStepMs

theorem elapsedMs_advanceSteps (n : ℕ) (sim : FixedStepSimulation) :
    (advanceSteps n sim).elapsedMs = sim.elapsedMs + n * fixedStepMs := by
  induction n generalizing sim with
  | zero => rfl
  | succ n ih =>
    have hfirst := elapsedMs_advanceStep none sim
    calc (advanceSteps (n + 1) sim).elapsedMs
        = (sim.perform none .advanceStep).elapsedMs + n * fixedStepMs := ih _
      _ = sim.elapsedMs + (n + 1) * fixedStepMs := by rw [hfirst]; ring

/-- Once the steps up to a moment are made, the clock and what is left over are the time the
adapter has been running. -/
theorem Timed.elapsedMs_settle (h : adapter.Timed) (now : ℕ) :
    (adapter.settle now).1.elapsedMs + (adapter.settle now).2 = adapter.ranFor now := by
  rw [Timed] at h
  rw [settle, ranFor]
  split
  · generalize now - adapter.lastTickMs = delta
    dsimp only
    rw [elapsedMs_advanceSteps, h]
    simp only [fixedStepMs]
    omega
  · rw [h, add_zero]

theorem elapsedMs_updateConfig (sim : FixedStepSimulation) (values : PartialConfig) :
    (sim.updateConfig values).elapsedMs = sim.elapsedMs := by
  rw [FixedStepSimulation.updateConfig]
  cases values.senderWorkers with
  | none => rfl
  | some requested => exact (onlyWorkers_requestSenderWorkerCount _ requested).elapsedMs

theorem elapsedMs_configured (same : SimulationConfig → Bool) (values : PartialConfig)
    (sim : FixedStepSimulation) : (configured same values sim).elapsedMs = sim.elapsedMs := by
  rw [configured]
  split
  · rfl
  · exact elapsedMs_updateConfig sim values

/-- **Only a reset sets the clock.** -/
theorem elapsedMs_effect {command : LoadgenCommand} {runState runState' : RunState}
    {sim sim' : FixedStepSimulation} (h : effect command runState sim = some (runState', sim')) :
    sim'.elapsedMs = if command = .reset then 0 else sim.elapsedMs := by
  have hnumber {value : Number} {f : ℚ → FixedStepSimulation}
      (hf : ∀ v, (f v).elapsedMs = sim.elapsedMs)
      (hsome : value.toRat?.map (fun v => (runState, f v)) = some (runState', sim')) :
      sim'.elapsedMs = sim.elapsedMs := by
    obtain ⟨v, -, heq⟩ := Option.map_eq_some_iff.mp hsome
    rw [← (Prod.mk.inj heq).2]
    exact hf v
  have hchannel (channel : ChannelId) (capacity : ℕ) :
      (sim.requestChannelCapacity channel capacity).1.elapsedMs = sim.elapsedMs := by
    cases channel <;> rfl
  cases command with
  | run =>
    obtain ⟨-, rfl⟩ := Prod.mk.inj (Option.some.inj h)
    show _ = sim.elapsedMs
    split <;> rfl
  | pause =>
    obtain ⟨-, rfl⟩ := Prod.mk.inj (Option.some.inj h)
    rfl
  | reset =>
    rw [effect] at h
    split at h
    · exact absurd h (by rintro ⟨⟩)
    · obtain ⟨-, rfl⟩ := Prod.mk.inj (Option.some.inj h)
      rfl
  | setThrottlerInstalled value =>
    obtain ⟨-, rfl⟩ := Prod.mk.inj (Option.some.inj h)
    exact elapsedMs_configured ..
  | setReaderChannelCapacity value => exact hnumber (fun _ => hchannel ..) h
  | setSenderChannelCapacity value => exact hnumber (fun _ => hchannel ..) h
  | _ => exact hnumber (fun _ => elapsedMs_configured ..) h

/-- **A command that is accepted keeps the clock right.** -/
theorem Accepted.timed {command : LoadgenCommand} {r : SimulationAdapter × CommandReceipt}
    (hr : Accepted adapter now command r) (h : adapter.Timed) : r.1.Timed := by
  have helapsed := elapsedMs_effect hr.effect
  have hran := hr.ran
  rw [hr.left] at hran
  rw [Timed, helapsed]
  by_cases hreset : command = .reset
  · rw [if_pos hreset, if_pos hreset] at hran
    rw [if_pos hreset]
    exact hran.symm
  · rw [if_neg hreset, if_neg hreset, ← h.elapsedMs_settle now] at hran
    rw [if_neg hreset]
    exact (Nat.add_right_cancel hran).symm

theorem timed_tick (h : adapter.Sound) (htimed : adapter.Timed) (hlive : adapter.disposed = false) :
    (adapter.tick now).Timed := by
  obtain ⟨-, revision, snapshot, heq⟩ := exists_tick_eq h hlive now
  have hran := ranFor_eq adapter now h.left
  have hsettle := htimed.elapsedMs_settle now
  rw [heq]
  show (adapter.settle now).1.elapsedMs =
    (adapter.ranFor now - (adapter.settle now).2) / fixedStepMs * fixedStepMs
  omega

/-! ### A run with ticks and the run without them -/

theorem sound_create (now : ℕ) : (create now).Sound where
  left := show 0 < fixedStepMs by decide
  current := rfl
  idle _ := ⟨adapterSimulationConfig, 4, 100, 0, rfl⟩
  manned := ⟨⟨Option.some_ne_none 0, staffed_createWorkers (show 0 < 3 by decide)⟩,
    show 0 < 3 by decide⟩

/-- **An adapter follows another one**: until it is disposed of, both come to the same. -/
structure Follows (now : ℕ) (adapter adapter' : SimulationAdapter) : Prop where
  sound : adapter.Sound
  sound' : adapter'.Sound
  lastTickMs : adapter.lastTickMs ≤ now
  disposed : adapter.disposed = adapter'.disposed
  runState : adapter.disposed = false → adapter.runState = adapter'.runState
  settle : adapter.disposed = false →
    ∀ later, now ≤ later → adapter.settle later = adapter'.settle later

theorem Follows.mono {later : ℕ} (h : Follows now adapter adapter') (hlater : now ≤ later) :
    Follows later adapter adapter' :=
  ⟨h.sound, h.sound', h.lastTickMs.trans hlater, h.disposed, h.runState,
    fun hlive t ht => h.settle hlive t (hlater.trans ht)⟩

/-- A tick of the one. -/
theorem Follows.tick (h : Follows now adapter adapter') :
    Follows now (adapter.tick now) adapter' := by
  cases hlive : adapter.disposed with
  | true =>
    have hsound := sound_tick_of_disposed now h.sound hlive
    rw [tick_of_disposed now hlive] at hsound ⊢
    exact ⟨hsound, h.sound', le_rfl, h.disposed, fun hc => absurd (hlive.symm.trans hc) nofun,
      fun hc => absurd (hlive.symm.trans hc) nofun⟩
  | false =>
    obtain ⟨hsound, revision, snapshot, heq⟩ := exists_tick_eq h.sound hlive now
    have hsettle := fun later => settle_tick later h.sound hlive h.lastTickMs
    rw [heq] at hsound hsettle ⊢
    exact ⟨hsound, h.sound', le_rfl, h.disposed, fun _ => h.runState hlive,
      fun _ later hlater => (hsettle later hlater).trans (h.settle hlive later hlater)⟩

/-- What is settled of an adapter that has just been advanced. -/
theorem settle_of_lastTickMs {later : ℕ} (hlast : adapter.lastTickMs = adapter'.lastTickMs)
    (hrun : adapter.runState = adapter'.runState) (hsim : adapter.simulation = adapter'.simulation)
    (hleft : adapter.pendingStepMs = adapter'.pendingStepMs) :
    adapter.settle later = adapter'.settle later := by
  rw [settle, settle, hlast, hrun, hsim, hleft]

/-- **A command to both**: they agree on whether it is accepted, and where it is they are
the same. -/
theorem Follows.dispatch (h : Follows now adapter adapter') (command : LoadgenCommand) :
    Follows now (adapter.dispatch now command).1 (adapter'.dispatch now command).1 ∧
      (adapter.dispatch now command).2.accepted = (adapter'.dispatch now command).2.accepted ∧
      ((adapter.dispatch now command).2.accepted = true →
        (adapter.dispatch now command).1.runState = (adapter'.dispatch now command).1.runState ∧
        (adapter.dispatch now command).1.simulation =
          (adapter'.dispatch now command).1.simulation) := by
  rcases answers_dispatch now h.sound command with ⟨hno, hreason, hsame⟩ | ⟨hlive, hyes⟩
  · rcases answers_dispatch now h.sound' command with ⟨hno', -, hsame'⟩ | ⟨hlive', hyes'⟩
    · rw [hsame, hsame']
      refine ⟨⟨?_, ?_, h.lastTickMs, h.disposed, h.runState, h.settle⟩, hno.trans hno'.symm,
        fun hc => absurd (hno.symm.trans hc) nofun⟩
      · exact ⟨h.sound.left, h.sound.current, h.sound.idle, h.sound.manned⟩
      · exact ⟨h.sound'.left, h.sound'.current, h.sound'.idle, h.sound'.manned⟩
    · have hlive := h.disposed.trans hlive'
      have heffect := hyes'.effect
      rw [← h.runState hlive, ← h.settle hlive now le_rfl] at heffect
      rcases hreason with hdisposed | hnone
      · exact absurd (hlive.symm.trans hdisposed) nofun
      · exact absurd (hnone.symm.trans heffect) nofun
  · rcases answers_dispatch now h.sound' command with ⟨-, hreason', -⟩ | ⟨hlive', hyes'⟩
    · have heffect := hyes.effect
      rw [h.runState hlive, h.settle hlive now le_rfl] at heffect
      rcases hreason' with hdisposed' | hnone'
      · exact absurd ((hlive.symm.trans h.disposed).trans hdisposed') nofun
      · exact absurd (hnone'.symm.trans heffect) nofun
    · have heffect := hyes.effect
      rw [h.runState hlive, h.settle hlive now le_rfl, hyes'.effect] at heffect
      obtain ⟨hrun, hsim⟩ := Prod.mk.inj (Option.some.inj heffect)
      have hleft : (adapter.dispatch now command).1.pendingStepMs =
          (adapter'.dispatch now command).1.pendingStepMs := by
        rw [hyes.left, hyes'.left, h.settle hlive now le_rfl]
      have hlast : (adapter.dispatch now command).1.lastTickMs =
          (adapter'.dispatch now command).1.lastTickMs := hyes.lastTickMs.trans hyes'.lastTickMs.symm
      refine ⟨⟨hyes.sound, hyes'.sound, hyes.lastTickMs.le, ?_, fun _ => hrun.symm, fun _ later _ =>
        settle_of_lastTickMs hlast hrun.symm hsim.symm hleft⟩,
        hyes.accepted.trans hyes'.accepted.symm, fun _ => ⟨hrun.symm, hsim.symm⟩⟩
      rw [hyes.disposed, hyes'.disposed, h.disposed]

/-- **A run with ticks follows the run without them.** -/
theorem follows_after {later : ℕ} {events : List Event} (h : Follows now adapter adapter')
    (hclock : (now :: (events.map Event.now ++ [later])).IsChain (· ≤ ·)) :
    Follows later (machine.after adapter events)
      (machine.after adapter' (events.filter Event.isAsked)) := by
  induction events generalizing now adapter adapter' with
  | nil => exact h.mono (List.isChain_cons_cons.mp hclock).1
  | cons event events ih =>
    obtain ⟨hle, hrest⟩ := List.isChain_cons_cons.mp hclock
    have hnow := h.mono hle
    cases event with
    | tick t => exact ih hnow.tick hrest
    | dispatch t command => exact ih (hnow.dispatch command).1 hrest
    | dispose t =>
      refine ih ⟨?_, ?_, hnow.lastTickMs, rfl, nofun, nofun⟩ hrest
      · exact ⟨h.sound.left, h.sound.current, h.sound.idle, h.sound.manned⟩
      · exact ⟨h.sound'.left, h.sound'.current, h.sound'.idle, h.sound'.manned⟩

/-! ### How long it has been running -/

/-- What an observer of the clock has noted: the time, and for how long the adapter has been
running since the last reset. -/
structure Watch where
  now : ℕ
  runningMs : ℕ

/-- The event is a reset that is accepted. -/
def resets (adapter : SimulationAdapter) : Event → Bool
  | .dispatch now .reset => (adapter.dispatch now .reset).2.accepted
  | _ => false

/-- What the observer notes at an event. -/
def watch (adapter : SimulationAdapter) (event : Event) (watch : Watch) : Watch where
  now := event.now
  runningMs :=
    if adapter.resets event then 0
    else watch.runningMs + if adapter.runState = .running then event.now - watch.now else 0

/-- **The adapter and the observer agree**, until it is disposed of. -/
structure Watched (adapter : SimulationAdapter) (watch : Watch) : Prop where
  sound : adapter.Sound
  timed : adapter.Timed
  lastTickMs : adapter.lastTickMs ≤ watch.now
  runningMs : adapter.disposed = false → adapter.ranFor watch.now = watch.runningMs

theorem ranFor_later {later : ℕ} (hlast : adapter.lastTickMs ≤ now) (hlater : now ≤ later) :
    adapter.ranFor later =
      adapter.ranFor now + if adapter.runState = .running then later - now else 0 := by
  rw [ranFor, ranFor]
  split
  · omega
  · rfl

/-- **What an event keeps.** -/
theorem Watched.perform {w : Watch} {event : Event} (h : Watched adapter w)
    (hle : w.now ≤ event.now) : Watched (adapter.perform event) (adapter.watch event w) := by
  have hran : adapter.disposed = false → adapter.ranFor event.now =
      w.runningMs + if adapter.runState = .running then event.now - w.now else 0 := fun hlive => by
    rw [ranFor_later h.lastTickMs hle, h.runningMs hlive]
  cases event with
  | tick t =>
    cases hlive : adapter.disposed with
    | true =>
      have htick := tick_of_disposed t hlive
      refine ⟨sound_tick_of_disposed t h.sound hlive, ?_, ?_, fun hc => ?_⟩
      · show (adapter.tick t).Timed
        rw [htick]
        exact h.timed
      · show (adapter.tick t).lastTickMs ≤ t
        rw [htick]
      · change (adapter.tick t).disposed = false at hc
        rw [htick] at hc
        exact absurd (hlive.symm.trans hc) nofun
    | false =>
      obtain ⟨hsound, revision, snapshot, heq⟩ := exists_tick_eq h.sound hlive t
      refine ⟨hsound, timed_tick h.sound h.timed hlive, ?_,
        fun _ => (ranFor_tick h.sound hlive).trans (hran hlive)⟩
      show (adapter.tick t).lastTickMs ≤ t
      rw [heq]
      exact le_rfl
  | dispatch t command =>
    have hresets : adapter.resets (.dispatch t command) = true ↔
        command = .reset ∧ (adapter.dispatch t command).2.accepted = true := by
      cases command <;> simp [resets]
    rcases answers_dispatch t h.sound command with ⟨hno, -, hsame⟩ | ⟨hlive, hyes⟩
    · have hnoReset : adapter.resets (.dispatch t command) = false :=
        Bool.eq_false_iff.mpr fun hc => absurd (hno.symm.trans (hresets.mp hc).2) nofun
      rw [SimulationAdapter.perform, hsame, watch, hnoReset]
      exact ⟨⟨h.sound.left, h.sound.current, h.sound.idle, h.sound.manned⟩, h.timed,
        h.lastTickMs.trans hle, hran⟩
    · refine ⟨hyes.sound, hyes.timed h.timed, hyes.lastTickMs.le, fun _ => ?_⟩
      have hstart : (adapter.dispatch t command).1.ranFor t =
          (adapter.dispatch t command).1.steps * fixedStepMs +
            (adapter.dispatch t command).1.pendingStepMs := by
        rw [ranFor, hyes.lastTickMs, Nat.sub_self, ite_self, Nat.add_zero]
      show (adapter.dispatch t command).1.ranFor t = if adapter.resets _ then 0 else _
      rw [hstart, hyes.ran]
      by_cases hreset : command = .reset
      · rw [if_pos hreset, if_pos (hresets.mpr ⟨hreset, hyes.accepted⟩)]
      · rw [if_neg hreset, if_neg fun hc => hreset (hresets.mp hc).1]
        exact hran hlive
  | dispose t =>
    exact ⟨⟨h.sound.left, h.sound.current, h.sound.idle, h.sound.manned⟩, h.timed,
      h.lastTickMs.trans hle, nofun⟩

theorem watched_after (events : List Event) {w : Watch} (h : Watched adapter w)
    (hclock : (w.now :: events.map Event.now).IsChain (· ≤ ·)) :
    Watched (machine.after adapter events) (machine.observe watch adapter w events) := by
  induction events generalizing adapter w with
  | nil => exact h
  | cons event events ih =>
    obtain ⟨hle, hrest⟩ := List.isChain_cons_cons.mp hclock
    exact ih (h.perform hle) hrest

/-- **No step of its simulation throws.** -/
theorem exists_advanceStep_eq_ok_after {created : ℕ} {events : List Event}
    (hclock : (created :: events.map Event.now).IsChain (· ≤ ·)) :
    ∃ sim, (machine.after (create created) events).simulation.advanceStep none = .ok sim := by
  have hwatched := watched_after events (w := ⟨created, 0⟩)
    ⟨sound_create created, rfl, le_rfl, fun _ => rfl⟩ hclock
  obtain ⟨sim, heq, -⟩ := exists_advanceStep_eq_ok none hwatched.sound.manned.staffed
  exact ⟨sim, heq⟩

/-- **Ticks of the timer do not matter.** In two runs with the same commands at the same
times, the next command is accepted in both or in none; where it is accepted, the run state
and the simulation are the same and the snapshots are the same but for their revision, and
the steps made since the last reset, which are those the clock of the simulation shows, are
those of the time the adapter has been running. -/
theorem ticks_do_not_matter (created created' now : ℕ) (before before' : List Event)
    (command : LoadgenCommand)
    (hclock : (created :: (before.map Event.now ++ [now])).IsChain (· ≤ ·))
    (hclock' : (created' :: (before'.map Event.now ++ [now])).IsChain (· ≤ ·))
    (hsame : before.filter Event.isAsked = before'.filter Event.isAsked) :
    let r := (machine.after (create created) before).dispatch now command
    let r' := (machine.after (create created') before').dispatch now command
    r.2.accepted = r'.2.accepted ∧ (r.2.accepted = true →
      r.1.runState = r'.1.runState ∧ r.1.simulation = r'.1.simulation ∧
      { r.1.snapshot with revision := 0 } = { r'.1.snapshot with revision := 0 } ∧
      r.1.simulation.elapsedMs = r.1.steps * fixedStepMs ∧
      r.1.steps = (machine.observe watch (create created) ⟨created, 0⟩
        (before ++ [Event.dispatch now command])).runningMs / fixedStepMs) := by
  intro r r'
  have hstart : ∀ t, Follows t (create t) (create 0) := fun t =>
    ⟨sound_create t, sound_create 0, le_rfl, rfl, fun _ => rfl, fun _ _ _ => rfl⟩
  -- Both follow the run without ticks.
  have hfollows := follows_after (hstart created) hclock
  obtain ⟨-, hyes, hsame₁⟩ := hfollows.dispatch command
  have hfollows' := follows_after (hstart created') hclock'
  rw [← hsame] at hfollows'
  obtain ⟨-, hyes', hsame₂⟩ := hfollows'.dispatch command
  refine ⟨hyes.trans hyes'.symm, fun haccepted => ?_⟩
  have haccepted' : r'.2.accepted = true := hyes'.trans (hyes.symm.trans haccepted)
  obtain ⟨hrun₁, hsim₁⟩ := hsame₁ haccepted
  obtain ⟨hrun₂, hsim₂⟩ := hsame₂ haccepted'
  have hrun : r.1.runState = r'.1.runState := hrun₁.trans hrun₂.symm
  have hsim : r.1.simulation = r'.1.simulation := hsim₁.trans hsim₂.symm
  have hcurrent : ∀ a : SimulationAdapter, a.Sound → ({ a.snapshot with revision := 0 } :
      LoadgenTelemetrySnapshot) = freezeSnapshot 0 a.runState a.simulation := fun a ha => by
    rw [ha.current]
    rfl
  rcases answers_dispatch now (hfollows.sound) command with ⟨hno, -, -⟩ | ⟨hlive, hdone⟩
  · exact absurd (hno.symm.trans haccepted) nofun
  rcases answers_dispatch now (hfollows'.sound) command with ⟨hno, -, -⟩ | ⟨-, hdone'⟩
  · exact absurd (hno.symm.trans haccepted') nofun
  have hwatched := watched_after (before ++ [Event.dispatch now command])
    (w := ⟨created, 0⟩) ⟨sound_create created, rfl, le_rfl, fun _ => rfl⟩
    (by rw [List.map_append]; exact hclock)
  rw [Machine.observe_append, Machine.after_append] at hwatched
  refine ⟨hrun, hsim, ?_, hwatched.timed, ?_⟩
  · rw [hcurrent _ hdone.sound, hcurrent _ hdone'.sound, hrun, hsim]
  · rw [Machine.observe_append]
    have hran := hwatched.runningMs (hdone.disposed.trans hlive)
    change r.1.ranFor now = _ at hran
    rw [ranFor, hdone.lastTickMs, Nat.sub_self, ite_self, Nat.add_zero] at hran
    have hleft : r.1.pendingStepMs < fixedStepMs := hdone.sound.left
    rw [← hran]
    rw [fixedStepMs] at hleft ⊢
    omega

/-- The adapter runs from 5 to 230, and the timer ticks twice, or not at all. -/
theorem ticks_do_not_matter_at_pause :
    let r := (machine.after (create 0) [.dispatch 5 .run, .tick 103, .tick 204]).dispatch 230 .pause
    let r' := (machine.after (create 2) [.dispatch 5 .run]).dispatch 230 .pause
    r.1.runState = .paused ∧ r.1.simulation = r'.1.simulation ∧
      { r.1.snapshot with revision := 0 } = { r'.1.snapshot with revision := 0 } ∧
      r.1.simulation.elapsedMs = 220 ∧ r.1.steps = 22 := by
  obtain ⟨-, hsame⟩ := ticks_do_not_matter 0 2 230 [.dispatch 5 .run, .tick 103, .tick 204]
    [.dispatch 5 .run] .pause (by decide) (by decide) (by decide)
  obtain ⟨-, hsim, hsnapshot, helapsed, -⟩ := hsame (by decide +kernel)
  have hsteps : ((machine.after (create 0) [.dispatch 5 .run, .tick 103, .tick 204]).dispatch 230
      .pause).1.steps = 22 := by decide +kernel
  exact ⟨by decide +kernel, hsim, hsnapshot, by rw [helapsed, hsteps, fixedStepMs], hsteps⟩

end SimulationAdapter

end IngestionLab.Frontend
