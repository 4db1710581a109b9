import IngestionLab.Frontend.Simulation.Steps

/-!
# The simulation conserves batches, and its accounts close

The operations of the simulation keep its accounts
(`IngestionLab.Frontend.FixedStepSimulation.closed_perform`), whatever its configuration
and whatever an attempt comes to. Two results follow.

* `IngestionLab.Frontend.FixedStepSimulation.conserves_batches`: with a sender worker that
  stays, a step does not throw, and every batch that has been made is in one place.
* `IngestionLab.Frontend.FixedStepSimulation.http_accounting_closes`: what the counters of
  the attempts have to do with one another, in any configuration.
-/

namespace IngestionLab.Frontend

open Tally Throwing

namespace FixedStepSimulation

variable {source : Option SimulationAttemptOutcomeSource} {sim sim' : FixedStepSimulation}
  {held hand : Option SimulationBatch} {batch : SimulationBatch} {i : ℕ} {worker : SenderWorker}

/-! ### Attempts that are due -/

/-- **A completed attempt keeps the accounts.** -/
theorem Completion.advanced {flight : InFlight} (h : Completion sim i flight sim')
    (hworker : sim.workers[i]? = some worker) (hstate : worker.state = .inFlight flight) :
    Advanced sim sim' := by
  have hclosed : sim.Closed → sim'.Accounts sim.pendingThrottledBatch none := fun hsim =>
    hsim.complete hworker hstate h
  cases h with
  | delivered totals activity ht =>
    exact ⟨rfl, Iff.rfl, map_modify SenderWorker.retiring (by intro; rfl) _ _, hclosed⟩
  | retried totals activity wait ht hlimit hb ha =>
    exact ⟨rfl, Iff.rfl, map_modify SenderWorker.retiring (by intro; rfl) _ _, hclosed⟩
  | failed totals activity ht =>
    exact ⟨rfl, Iff.rfl, map_modify SenderWorker.retiring (by intro; rfl) _ _, hclosed⟩

theorem advanced_completeDue (sim : FixedStepSimulation) (i : ℕ) :
    Advanced sim (sim.completeDue i) := by
  rw [completeDue]
  split
  · next flight hflight =>
    obtain ⟨worker, hworker, hstate⟩ := Option.map_eq_some_iff.mp hflight
    split
    · exact Advanced.rfl
    · exact (completion_completeAttempt sim i flight).advanced hworker hstate
  · exact Advanced.rfl

theorem advanced_startDue (source : Option SimulationAttemptOutcomeSource)
    (sim : FixedStepSimulation) (i : ℕ) : Advanced sim (sim.startDue source i) := by
  rw [startDue]
  split
  · next wait hwait =>
    obtain ⟨worker, hworker, hstate⟩ := Option.map_eq_some_iff.mp hwait
    split
    · exact Advanced.rfl
    · have hclosed := fun h : sim.Closed =>
        h.startRetry source wait.hadAmbiguousOutcome rfl hworker hstate
      have hstaff := staff_startAttempt source sim i wait.batch (wait.attempt + 1)
        wait.hadAmbiguousOutcome
      obtain ⟨_, _, _, _, flight, heq, -, -⟩ := exists_startAttempt_eq source sim i wait.batch
        (wait.attempt + 1) wait.hadAmbiguousOutcome
      rw [heq] at hclosed hstaff ⊢
      exact ⟨rfl, Iff.rfl, hstaff, hclosed⟩
  · exact Advanced.rfl

/-- What one worker after another keeps. -/
theorem advanced_foldl {f : FixedStepSimulation → ℕ → FixedStepSimulation}
    (hf : ∀ sim i, Advanced sim (f sim i)) (indices : List ℕ) (sim : FixedStepSimulation) :
    Advanced sim (indices.foldl f sim) := by
  induction indices generalizing sim with
  | nil => exact Advanced.rfl
  | cons i indices ih => exact (hf sim i).trans (ih (f sim i))

/-! ### The number of workers -/

/-- What the workers are doing that are not idle. -/
def busy (workers : List SenderWorker) : List SenderWorkerState :=
  (workers.map SenderWorker.state).filter (· ≠ .idle)

/-- What is said of the state of a worker, and of an idle one says nothing, is said of
those that are not idle. -/
theorem total_eq_total_busy {g : SenderWorker → ℕ} {k : SenderWorkerState → ℕ}
    (hk : ∀ worker, g worker = k worker.state) (hidle : k .idle = 0)
    (workers : List SenderWorker) : total g workers = total k (busy workers) := by
  rw [busy, total_filter fun state _ hstate => by
    rw [of_not_not (of_decide_eq_false hstate), hidle], total_map]
  exact congrArg (total · workers) (funext hk)

@[simp] theorem busy_append (workers workers' : List SenderWorker) :
    busy (workers ++ workers') = busy workers ++ busy workers' := by
  rw [busy, List.map_append, List.filter_append, ← busy, ← busy]

/-- Idle workers may be left out. -/
theorem busy_filter {workers : List SenderWorker} {stays : SenderWorker → Bool}
    (h : ∀ worker ∈ workers, stays worker = false → worker.state = .idle) :
    busy (workers.filter stays) = busy workers := by
  induction workers with
  | nil => rfl
  | cons worker workers ih =>
    have hrest := ih fun w hw => h w (List.mem_cons_of_mem worker hw)
    rw [show busy (worker :: workers) = busy [worker] ++ busy workers from busy_append [worker] workers]
    cases hstays : stays worker with
    | true =>
      rw [List.filter_cons_of_pos hstays, ← List.singleton_append, busy_append, hrest]
    | false =>
      have hidle : busy [worker] = [] := by
        rw [busy, List.map_singleton, h worker List.mem_cons_self hstays]
        rfl
      rw [List.filter_cons_of_neg (Bool.eq_false_iff.mp hstays), hrest, hidle, List.nil_append]

/-- Workers that have just been made are idle. -/
theorem busy_map_createWorker (ids : List ℕ) : busy (ids.map createWorker) = [] := by
  rw [busy, List.filter_eq_nil_iff]
  rintro state hstate
  obtain ⟨worker, hworker, rfl⟩ := List.mem_map.mp hstate
  obtain ⟨workerId, -, rfl⟩ := List.mem_map.mp hworker
  exact of_decide_eq_false rfl

/-- Whether a worker is to go does not matter. -/
theorem busy_map_retiring (retiring : Bool) (workers : List SenderWorker) :
    busy (workers.map fun worker => { worker with retiring }) = busy workers := by
  rw [busy, List.map_map]
  rfl

/-- **Workers that are doing the same have the same accounts.** -/
theorem Accounts.setWorkers {workers : List SenderWorker} {next : Option ℕ}
    (h : sim.Accounts held hand) (hbusy : busy workers = busy sim.workers)
    (hnext : next ≠ none → sim.nextWorkerIndex ≠ none) :
    Accounts held hand { sim with workers := workers, nextWorkerIndex := next } := by
  have hweight : ∀ f, total (SenderWorker.weight f) workers = sim.owned f := fun f => by
    have hkey := total_eq_total_busy (g := SenderWorker.weight f)
      (k := fun state => SenderWorker.weight f { workerId := 0, state }) (fun _ => rfl) rfl
    rw [owned, hkey, hkey, hbusy]
  have hflying : total (fun worker => worker.isInFlight.toNat) workers = sim.inFlightRequests := by
    have hkey := total_eq_total_busy (g := fun worker => worker.isInFlight.toNat)
      (k := fun state => (SenderWorker.isInFlight { workerId := 0, state }).toNat) (fun _ => rfl) rfl
    rw [inFlightRequests, hkey, hkey, hbusy]
  refine ⟨⟨h.counted.readerChannel, h.counted.senderChannel, h.counted.started.trans ?_,
    h.counted.completed, h.counted.failed, h.counted.received, ?_⟩, ⟨fun hindex q => ?_, fun q => ?_⟩,
    ⟨fun worker hworker => ?_, h.attempted.limit, fun q hq => ?_, h.attempted.orderly⟩⟩
  · rw [← hflying]
    rfl
  · have htransactions := h.counted.transactions
    rw [← hweight] at htransactions
    exact htransactions
  · have hunique := h.placed.unique (hnext hindex) q
    rw [← hweight] at hunique
    exact hunique
  · have hsingle := h.placed.single q
    rw [← hweight] at hsingle
    exact hsingle
  · -- A worker that is not idle does what one of the old ones does.
    by_cases hidle : worker.state = .idle
    · rw [SenderWorker.Tracks, hidle]
      trivial
    · have hmem : worker.state ∈ busy workers :=
        List.mem_filter.mpr ⟨List.mem_map_of_mem hworker, decide_eq_true hidle⟩
      rw [hbusy] at hmem
      obtain ⟨old, hold, hstate⟩ := List.mem_map.mp (List.mem_filter.mp hmem).1
      have htracks := h.attempted.tracks old hold
      rw [SenderWorker.Tracks, hstate] at htracks
      exact htracks
  · have hfresh := h.attempted.fresh q hq
    rw [← hweight] at hfresh
    exact hfresh

/-- **There is a worker that stays.** -/
def Staffed (sim : FixedStepSimulation) : Prop :=
  sim.nextWorkerIndex ≠ none ∧ ∃ worker ∈ sim.workers, worker.retiring = false

theorem staffed_iff : sim.Staffed ↔ sim.nextWorkerIndex ≠ none ∧ false ∈ sim.staff := by
  rw [Staffed, staff, List.mem_map]

theorem Advanced.staffed (h : Advanced sim sim') (hsim : sim.Staffed) : sim'.Staffed := by
  rw [staffed_iff] at hsim ⊢
  rw [h.staff]
  exact ⟨fun hc => hsim.1 (h.index.mp hc), hsim.2⟩

theorem closed_finalizeSenderScaleDown (h : sim.Closed) : sim.finalizeSenderScaleDown.Closed := by
  rw [finalizeSenderScaleDown]
  split
  · exact h
  · next hretiring =>
    push Not at hretiring
    refine Accounts.setWorkers h ?_ fun hnext hc => hnext (by rw [hc]; rfl)
    refine busy_filter fun worker hworker hgoing => ?_
    rw [Bool.not_eq_false'] at hgoing
    exact hretiring.2 worker (List.mem_filter.mpr ⟨hworker, hgoing⟩)

theorem staffed_finalizeSenderScaleDown (h : sim.Staffed) :
    sim.finalizeSenderScaleDown.Staffed := by
  rw [finalizeSenderScaleDown]
  split
  · exact h
  · obtain ⟨hindex, worker, hworker, hstays⟩ := h
    have hmem : worker ∈ sim.workers.filter fun worker => !worker.retiring :=
      List.mem_filter.mpr ⟨hworker, by rw [hstays]; rfl⟩
    refine ⟨?_, worker, hmem, hstays⟩
    obtain ⟨index, hsome⟩ := Option.ne_none_iff_exists'.mp hindex
    show (sim.nextWorkerIndex.bind _) ≠ none
    rw [hsome, Option.bind_some, if_neg (List.length_pos_of_mem hmem).ne']
    exact Option.some_ne_none _

theorem closed_requestSenderWorkerCount (requested : ℕ) (h : sim.Closed) :
    (sim.requestSenderWorkerCount requested).Closed := by
  have hstay := busy_map_retiring false sim.workers
  rw [requestSenderWorkerCount]
  dsimp only
  split
  · refine Accounts.setWorkers h ?_ id
    rw [busy_append, busy_map_createWorker, List.append_nil, hstay]
  split
  · exact Accounts.setWorkers h hstay id
  · refine closed_finalizeSenderScaleDown (Accounts.setWorkers h ?_ id)
    rw [busy_append, busy_map_retiring, ← busy_append, List.take_append_drop, hstay]

theorem staffed_requestSenderWorkerCount {requested : ℕ} (hpos : 0 < requested)
    (h : sim.Staffed) : (sim.requestSenderWorkerCount requested).Staffed := by
  obtain ⟨hindex, worker, hworker, -⟩ := h
  set workers := sim.workers.map fun worker => { worker with retiring := false } with hworkers
  have hmem : { worker with retiring := false } ∈ workers := List.mem_map_of_mem hworker
  rw [requestSenderWorkerCount, ← hworkers]
  dsimp only
  split
  · exact ⟨hindex, _, List.mem_append_left _ hmem, rfl⟩
  split
  · exact ⟨hindex, _, hmem, rfl⟩
  · refine staffed_finalizeSenderScaleDown ⟨hindex, ?_⟩
    cases hcases : workers with
    | nil => exact absurd (hcases ▸ hmem) List.not_mem_nil
    | cons first rest =>
      obtain ⟨n, rfl⟩ : ∃ n, requested = n + 1 := ⟨requested - 1, by omega⟩
      have hfirst : first ∈ workers := hcases ▸ List.mem_cons_self
      obtain ⟨old, -, rfl⟩ := List.mem_map.mp hfirst
      exact ⟨_, List.mem_append_left _ List.mem_cons_self, rfl⟩

/-! ### A step -/

/-- **What a step keeps**: the accounts, and a worker that stays. -/
structure Stepped (sim s : FixedStepSimulation) : Prop where
  config : s.config = sim.config
  closed : sim.Closed → s.Closed
  staffed : sim.Staffed → s.Staffed

theorem Stepped.trans {s : FixedStepSimulation} (h : Stepped sim sim') (h' : Stepped sim' s) :
    Stepped sim s :=
  ⟨h'.config.trans h.config, h'.closed ∘ h.closed, h'.staffed ∘ h.staffed⟩

theorem Advanced.stepped (h : Advanced sim sim') : Stepped sim sim' :=
  ⟨h.config, h.closed, h.staffed⟩

/-- What the accounts do not look at does not matter for the workers either. -/
theorem Stepped.of_eq (hclosed : sim.Closed → sim'.Closed) (hconfig : sim'.config = sim.config)
    (hindex : sim'.nextWorkerIndex = sim.nextWorkerIndex) (hworkers : sim'.workers = sim.workers) :
    Stepped sim sim' :=
  ⟨hconfig, hclosed, fun h => by rw [Staffed, hindex, hworkers]; exact h⟩

/-- **What a step that throws leaves**, and that no worker stays then. -/
structure Thrown (sim s : FixedStepSimulation) : Prop where
  closed : sim.Closed → s.Closed
  unstaffed : ¬sim.Staffed

theorem Stopped.thrown {s : FixedStepSimulation} (h : Stepped sim sim') (h' : Stopped sim' s) :
    Thrown sim s :=
  ⟨h'.closed ∘ h.closed, fun hc => (h.staffed hc).1 h'.index⟩

/-- The phases before a batch may move. -/
theorem stepped_begin (source : Option SimulationAttemptOutcomeSource) (sim : FixedStepSimulation) :
    Stepped sim (refillThrottlerTokens (finalizeSenderScaleDown (startDueRetries source
      (completeDueAttempts { sim with elapsedMs := sim.elapsedMs + fixedStepMs, activity := {} })))) := by
  have hclock : Stepped sim { sim with elapsedMs := sim.elapsedMs + fixedStepMs, activity := {} } :=
    .of_eq Accounts.setAside rfl rfl rfl
  have hcompleted := (advanced_foldl advanced_completeDue
    (List.range sim.workers.length) { sim with
      elapsedMs := sim.elapsedMs + fixedStepMs, activity := {} }).stepped
  refine hclock.trans (hcompleted.trans ?_)
  rw [← completeDueAttempts]
  generalize completeDueAttempts _ = s
  have hstarted := (advanced_foldl (advanced_startDue source) (List.range s.workers.length) s).stepped
  refine hstarted.trans ?_
  rw [← startDueRetries]
  generalize startDueRetries _ _ = s
  have hfinalized : Stepped s s.finalizeSenderScaleDown := by
    refine ⟨?_, closed_finalizeSenderScaleDown, staffed_finalizeSenderScaleDown⟩
    rw [finalizeSenderScaleDown]
    split <;> rfl
  refine hfinalized.trans ?_
  rw [refillThrottlerTokens]
  split
  · exact .of_eq Accounts.setAside rfl rfl rfl
  · exact .of_eq Accounts.setAside rfl rfl rfl

/-- The fields `observeBlocked` may change. -/
theorem exists_observeBlocked_eq (channel : StatefulChannel SimulationBatch)
    (blocked progressed : Bool) : ∃ blockedForMs blockedMsTotal blockedSenders,
      channel.observeBlocked blocked progressed = { channel with
        blockedForMs := blockedForMs
        blockedMsTotal := blockedMsTotal
        blockedSenders := blockedSenders } := by
  cases blocked with
  | true => exact ⟨_, _, _, rfl⟩
  | false => exact ⟨_, _, _, rfl⟩

/-- **A step** keeps the accounts; where a worker stays, it does not throw. -/
theorem meets_advanceStep (source : Option SimulationAttemptOutcomeSource)
    (sim : FixedStepSimulation) :
    Meets (sim.advanceStep source) (Stepped sim) (Thrown sim) := by
  have hbegin := stepped_begin source sim
  rw [advanceStep]
  dsimp only
  refine ((meets_drainFor source _ _).mono (fun _ hr => hr) fun _ hs => hs.thrown hbegin).bind ?_
  intro s₁ h₁
  replace h₁ := hbegin.trans h₁.advanced.stepped
  refine ((meets_flushThrottledBatch source s₁).mono (fun _ hr => hr)
    fun _ hs => hs.thrown h₁).bind ?_
  rintro ⟨s₂, flushBlocked⟩ h₂
  replace h₂ := h₁.trans h₂.advanced.stepped
  refine ((meets_receiveFor source _ _ s₂).mono (fun _ hr => hr) fun _ hs => hs.thrown h₂).bind ?_
  rintro ⟨s₃, admission⟩ h₃
  replace h₃ := h₂.trans h₃.stepped
  refine Meets.bind (Q := fun r => Stepped sim r.1) ?_ ?_
  · rw [produceReaderBatches]
    have hcredit : ∀ credit, Stepped sim { s₃ with readerTransactionCredit := credit } :=
      fun credit => h₃.trans (.of_eq Accounts.setAside rfl rfl rfl)
    exact (meets_produceFor source _ _ _).mono (fun _ hr => (hcredit _).trans hr.stepped)
      fun _ hs => hs.thrown (hcredit _)
  rintro ⟨s₄, production⟩ h₄
  refine Stepped.trans h₄ ?_
  obtain ⟨_, _, _, hreader⟩ := exists_observeBlocked_eq s₄.readerChannel
    production.readerChannelBlocked (0 < s₄.activity.readerChannel.inputBatches ||
      0 < s₄.activity.readerChannel.handoffBatches)
  obtain ⟨_, _, _, hsender⟩ := exists_observeBlocked_eq s₄.senderChannel
    (flushBlocked || admission.senderChannelBlocked || production.senderChannelBlocked)
    (0 < s₄.activity.senderChannel.inputBatches || 0 < s₄.activity.senderChannel.handoffBatches)
  dsimp only
  rw [hreader, hsender]
  exact .of_eq Accounts.setAside rfl rfl rfl

/-! ### The operations -/

/-- A simulation that has just been made or reset. -/
theorem closed_createSimulation (config : SimulationConfig) (readerCapacity senderCapacity calls : ℕ) :
    Closed { createSimulation config readerCapacity senderCapacity with outcomeCalls := calls } := by
  have hidle : busy (createWorkers config.senderWorkers) = busy [] :=
    busy_map_createWorker (List.range config.senderWorkers)
  have hempty : Closed { createSimulation config readerCapacity senderCapacity with
      outcomeCalls := calls, workers := [] } := by
    refine ⟨⟨⟨rfl, rfl⟩, ⟨rfl, rfl⟩, rfl, rfl, rfl, rfl, rfl⟩, ⟨fun _ q => ?_, fun _ => Nat.zero_le 1⟩,
      ⟨fun _ hworker => absurd hworker List.not_mem_nil, fun _ => Nat.zero_le _,
        fun _ hpos => absurd hpos (Nat.lt_irrefl 0), trivial⟩⟩
    show 0 = if q < 0 then 1 else 0
    rw [if_neg (Nat.not_lt_zero q)]
  exact Accounts.setWorkers hempty hidle id

theorem staffed_createWorkers {n : ℕ} (hpos : 0 < n) :
    ∃ worker ∈ createWorkers n, worker.retiring = false :=
  ⟨createWorker 0, List.mem_map_of_mem (List.mem_range.mpr hpos), rfl⟩

/-- The fields `requestCapacity` may change. -/
theorem exists_requestCapacity_eq (channel : StatefulChannel SimulationBatch) (capacity : ℕ) :
    ∃ applied preview pending, (channel.requestCapacity capacity).1 = { channel with
      appliedCapacity := applied, previewCapacity := preview, pendingCapacity := pending } := by
  rw [StatefulChannel.requestCapacity]
  split
  · exact ⟨_, _, _, rfl⟩
  split
  · exact ⟨_, _, _, rfl⟩
  · exact ⟨_, _, _, rfl⟩

theorem stepped_requestChannelCapacity (sim : FixedStepSimulation) (channel : ChannelId)
    (capacity : ℕ) :
    Stepped sim (sim.requestChannelCapacity channel capacity).1 := by
  cases channel with
  | readerToThrottler =>
    obtain ⟨_, _, _, heq⟩ := exists_requestCapacity_eq sim.readerChannel capacity
    rw [requestChannelCapacity]
    dsimp only
    rw [heq]
    exact .of_eq Accounts.setAside rfl rfl rfl
  | throttlerToSender =>
    obtain ⟨_, _, _, heq⟩ := exists_requestCapacity_eq sim.senderChannel capacity
    rw [requestChannelCapacity]
    dsimp only
    rw [heq]
    exact .of_eq Accounts.setAside rfl rfl rfl

theorem closed_updateConfig (values : PartialConfig) (h : sim.Closed) :
    (sim.updateConfig values).Closed := by
  have hconfig : Closed { sim with config := assignConfig sim.config values } := Accounts.setAside h
  rw [updateConfig]
  generalize { sim with config := assignConfig sim.config values } = s at hconfig
  have hworkers : Closed (values.senderWorkers.elim s s.requestSenderWorkerCount) := by
    cases values.senderWorkers with
    | none => exact hconfig
    | some requested => exact closed_requestSenderWorkerCount requested hconfig
  exact Accounts.setAside hworkers

/-- **Every operation keeps the accounts.** -/
theorem closed_perform (source : Option SimulationAttemptOutcomeSource) (operation : Operation)
    (h : sim.Closed) : (sim.perform source operation).Closed := by
  cases operation with
  | advanceStep =>
    have hstep := meets_advanceStep source sim
    rw [perform]
    cases hresult : sim.advanceStep source with
    | ok s => exact (hresult ▸ hstep : Meets (.ok s) (Stepped sim) (Thrown sim)).closed h
    | error s => exact (hresult ▸ hstep : Meets (.error s) (Stepped sim) (Thrown sim)).closed h
  | updateConfig values => exact closed_updateConfig values h
  | requestChannelCapacity channel capacity =>
    exact (stepped_requestChannelCapacity sim channel capacity).closed h
  | clearInstantaneousTelemetry => exact Accounts.setAside h
  | telemetry running => exact h
  | reset => exact closed_createSimulation _ _ _ _

theorem config_requestSenderWorkerCount (requested : ℕ) :
    (sim.requestSenderWorkerCount requested).config = sim.config := by
  rw [requestSenderWorkerCount]
  dsimp only
  split
  · rfl
  split
  · rfl
  · rw [finalizeSenderScaleDown]
    split <;> rfl

/-- An update of the configuration leaves a sender worker. -/
def Operation.Valid : Operation → Prop
  | .updateConfig values => ∀ n ∈ values.senderWorkers, 0 < n
  | _ => True

/-- **A worker stays**, also after a reset. -/
structure Manned (sim : FixedStepSimulation) : Prop where
  staffed : sim.Staffed
  configured : 0 < sim.config.senderWorkers

theorem manned_updateConfig {values : PartialConfig} (hvalid : ∀ n ∈ values.senderWorkers, 0 < n)
    (h : sim.Manned) :
    (sim.updateConfig values).Manned := by
  have hpos : 0 < values.senderWorkers.getD sim.config.senderWorkers := by
    cases hworkers : values.senderWorkers with
    | none => exact h.configured
    | some requested => exact hvalid requested hworkers
  have hconfig : Staffed { sim with config := assignConfig sim.config values } := h.staffed
  rw [updateConfig]
  change 0 < (assignConfig sim.config values).senderWorkers at hpos
  change 0 < ({ sim with config := assignConfig sim.config values } :
    FixedStepSimulation).config.senderWorkers at hpos
  generalize { sim with config := assignConfig sim.config values } = s at hconfig hpos
  have hworkers : Manned (values.senderWorkers.elim s s.requestSenderWorkerCount) := by
    cases hworkers : values.senderWorkers with
    | none => exact ⟨hconfig, hpos⟩
    | some requested =>
      refine ⟨staffed_requestSenderWorkerCount (hvalid requested hworkers) hconfig, ?_⟩
      show 0 < (s.requestSenderWorkerCount requested).config.senderWorkers
      rw [config_requestSenderWorkerCount]
      exact hpos
  exact ⟨hworkers.staffed, hworkers.configured⟩

/-- Where a worker stays, a step does not throw. -/
theorem exists_advanceStep_eq_ok (source : Option SimulationAttemptOutcomeSource)
    (h : sim.Staffed) : ∃ s, sim.advanceStep source = .ok s ∧ Stepped sim s :=
  ((meets_advanceStep source sim).mono (fun _ hs => hs) fun _ hs => hs.unstaffed h).exists_ok

theorem manned_perform (source : Option SimulationAttemptOutcomeSource) {operation : Operation}
    (hvalid : operation.Valid) (h : sim.Manned) : (sim.perform source operation).Manned := by
  cases operation with
  | advanceStep =>
    obtain ⟨s, heq, hstep⟩ := exists_advanceStep_eq_ok source h.staffed
    rw [perform, heq]
    exact ⟨hstep.staffed h.staffed, by rw [hstep.config]; exact h.configured⟩
  | updateConfig values => exact manned_updateConfig hvalid h
  | requestChannelCapacity channel capacity =>
    have hstep := stepped_requestChannelCapacity sim channel capacity
    exact ⟨hstep.staffed h.staffed, by rw [perform, hstep.config]; exact h.configured⟩
  | clearInstantaneousTelemetry => exact ⟨h.staffed, h.configured⟩
  | telemetry running => exact h
  | reset => exact ⟨⟨Option.some_ne_none 0, staffed_createWorkers h.configured⟩, h.configured⟩

/-! ### Where the batches are -/

/-- How often a sequence number occurs in the reader channel, with the throttler, in the
sender channel, with the sender workers, among the batches that succeeded, and among those
that failed terminally. -/
def places (q : ℕ) (sim : FixedStepSimulation) : List ℕ :=
  [sim.readerChannel.items.countP (·.sequence = q),
    sim.pendingThrottledBatch.toList.countP (·.sequence = q),
    sim.senderChannel.items.countP (·.sequence = q),
    sim.workers.countP fun worker => worker.batch.any (·.sequence = q),
    sim.log.countP fun
      | .succeeded batch => batch.sequence = q
      | _ => false,
    sim.log.countP fun
      | .failedTerminally batch => batch.sequence = q
      | _ => false]

theorem hasSequence_eq_toNat (q : ℕ) (batch : SimulationBatch) :
    batch.hasSequence q = (decide (batch.sequence = q)).toNat := by
  rw [SimulationBatch.hasSequence]
  by_cases hq : batch.sequence = q
  · rw [if_pos hq, decide_eq_true hq]
    rfl
  · rw [if_neg hq, decide_eq_false hq]
    rfl

theorem sum_places (q : ℕ) (sim : FixedStepSimulation) :
    (sim.places q).sum = sim.waiting q sim.pendingThrottledBatch +
      sim.owned (SimulationBatch.hasSequence q) + sim.finished (SimulationBatch.hasSequence q) := by
  have hitems := total_eq_countP (hasSequence_eq_toNat q)
  have hpending : sim.pendingThrottledBatch.elim 0 (SimulationBatch.hasSequence q) =
      sim.pendingThrottledBatch.toList.countP (·.sequence = q) := by
    cases sim.pendingThrottledBatch with
    | none => rfl
    | some batch =>
      rw [Option.toList_some, ← hitems [batch]]
      rfl
  have hworkers : sim.owned (SimulationBatch.hasSequence q) =
      sim.workers.countP fun worker => worker.batch.any (·.sequence = q) := by
    refine total_eq_countP (fun worker => ?_) sim.workers
    rw [SenderWorker.weight]
    cases worker.batch with
    | none => rfl
    | some batch => exact hasSequence_eq_toNat q batch
  -- What is finished has succeeded or failed.
  have hlog : sim.finished (SimulationBatch.hasSequence q) =
      (sim.log.countP fun
        | .succeeded batch => batch.sequence = q
        | _ => false) +
      sim.log.countP fun
        | .failedTerminally batch => batch.sequence = q
        | _ => false := by
    rw [← total_eq_countP fun _ => rfl, ← total_eq_countP fun _ => rfl]
    refine total_add (fun event => ?_) sim.log
    cases event with
    | started batch attempt => rfl
    | succeeded batch => exact hasSequence_eq_toNat q batch
    | failedTerminally batch => exact (hasSequence_eq_toNat q batch).trans (Nat.zero_add _).symm
  rw [places, waiting, hitems, hitems, hpending, hworkers, hlog]
  simp only [List.sum_cons, List.sum_nil]
  omega

/-- The accounts after any run. -/
theorem closed_after {Allowed : Operation → Prop}
    (source : Option SimulationAttemptOutcomeSource) (config : SimulationConfig)
    (readerCapacity senderCapacity : ℕ) {operations : List Operation}
    (hrun : (machine source Allowed).Run (createSimulation config readerCapacity senderCapacity)
      operations) :
    ((machine source Allowed).after (createSimulation config readerCapacity senderCapacity)
      operations).Closed :=
  Machine.invariant_of_run (I := Closed) (fun _ operation h _ => closed_perform source operation h)
    (closed_createSimulation config readerCapacity senderCapacity 0) hrun

/-- **The simulation conserves batches**, whatever its attempts come to and however large a
batch is: after any operations on a simulation with a sender worker, every sequence number
that has been given out is in exactly one place and no other is anywhere, what has been sent
on a channel has been received or is buffered, and the next step does not throw. -/
theorem conserves_batches (source : Option SimulationAttemptOutcomeSource)
    (config : SimulationConfig) (readerCapacity senderCapacity : ℕ) (operations : List Operation)
    (hworkers : 0 < config.senderWorkers)
    (hrun : (machine source Operation.Valid).Run
      (createSimulation config readerCapacity senderCapacity) operations) :
    let sim := (machine source Operation.Valid).after
      (createSimulation config readerCapacity senderCapacity) operations
    (∀ q, (sim.places q).sum = if q < sim.nextBatchSequence then 1 else 0) ∧
      sim.readerChannel.Balanced ∧ sim.senderChannel.Balanced ∧
      ∃ sim', sim.advanceStep source = .ok sim' := by
  intro sim
  have hclosed : sim.Closed := closed_after source config readerCapacity senderCapacity hrun
  have hmanned : sim.Manned := Machine.invariant_of_run (I := Manned)
    (fun _ _ h hvalid => manned_perform source hvalid h)
    ⟨⟨Option.some_ne_none 0, staffed_createWorkers hworkers⟩, hworkers⟩ hrun
  refine ⟨fun q => ?_, hclosed.counted.readerChannel, hclosed.counted.senderChannel, ?_⟩
  · rw [sum_places]
    exact hclosed.placed.unique hmanned.staffed.1 q
  · obtain ⟨sim', heq, -⟩ := exists_advanceStep_eq_ok source hmanned.staffed
    exact ⟨sim', heq⟩

/-- Batches of what the reader makes in a step, and two sender workers. -/
def shrinkingConfig : SimulationConfig where
  readerWorkers := 4
  senderWorkers := 2
  requestedTps := 0
  throttlerInstalled := false
  readBatchSize := 500
  httpTimeoutMs := 1000
  targetDelayMs := 5
  targetErrorRatePercent := 50

/-- Three steps, with one sender worker from the second on. -/
def shrinkingRun : List Operation :=
  [.advanceStep, .updateConfig { senderWorkers := some 1 }, .advanceStep, .advanceStep]

/-- Six batches have been made; one has succeeded, one is with the worker, one is in the
sender channel, one with the throttler and two are in the reader channel. -/
theorem conserves_batches_shrinkingRun :
    let sim := (machine none Operation.Valid).after (createSimulation shrinkingConfig 2 1) shrinkingRun
    (∀ q, (sim.places q).sum = if q < 6 then 1 else 0) ∧
      sim.places 0 = [0, 0, 0, 0, 1, 0] ∧ sim.places 1 = [0, 0, 0, 1, 0, 0] ∧
      sim.places 2 = [0, 0, 1, 0, 0, 0] ∧ sim.places 3 = [0, 1, 0, 0, 0, 0] ∧
      sim.places 4 = [1, 0, 0, 0, 0, 0] ∧ sim.places 5 = [1, 0, 0, 0, 0, 0] := by
  have hvalid : ∀ n ∈ some 1, 0 < n := fun n hn => by
    rw [← Option.some.inj hn]
    decide
  obtain ⟨hplaces, -⟩ := conserves_batches none shrinkingConfig 2 1 shrinkingRun (by decide)
    ⟨trivial, hvalid, trivial, trivial, trivial⟩
  have hmade : ((machine none Operation.Valid).after (createSimulation shrinkingConfig 2 1)
      shrinkingRun).nextBatchSequence = 6 := by decide +kernel
  rw [hmade] at hplaces
  exact ⟨hplaces, by decide +kernel⟩

/-- **The accounts of the attempts close**, in any configuration and whatever the attempts
come to. -/
theorem http_accounting_closes (source : Option SimulationAttemptOutcomeSource)
    (config : SimulationConfig) (readerCapacity senderCapacity : ℕ) (operations : List Operation) :
    let sim := (machine source fun _ => True).after
      (createSimulation config readerCapacity senderCapacity) operations
    sim.totals.requestStartedTotal = sim.totals.requestCompletedTotal +
        sim.workers.countP SenderWorker.isInFlight ∧
      sim.totals.requestCompletedTotal =
        sim.totals.requestSucceededTotal + sim.totals.requestFailedTotal ∧
      sim.totals.requestFailedTotal = sim.totals.responseRejectedTotal +
        sim.totals.requestTimedOutTotal + sim.totals.networkErrorTotal ∧
      sim.totals.requestStartedTotal =
        sim.senderChannel.receivedBatchesTotal + sim.totals.retryAttemptStartedTotal ∧
      (∀ q, attempts q sim.log ≤ retryMaxAttempts) ∧ Orderly sim.log ∧
      sim.totals.successfulTransactionsTotal + sim.totals.terminalFailedTransactionsTotal +
        (sim.workers.map fun worker => worker.batch.elim 0 SimulationBatch.transactions).sum =
          sim.senderChannel.receivedTransactionsTotal := by
  intro sim
  have hrun := Machine.run_of_forall (m := machine source fun _ => True) (fun _ _ => trivial)
    (createSimulation config readerCapacity senderCapacity) operations
  obtain ⟨hcounted, -, hattempted⟩ :=
    closed_after source config readerCapacity senderCapacity hrun
  refine ⟨?_, hcounted.completed, hcounted.failed, hcounted.received, hattempted.limit,
    hattempted.orderly, hcounted.transactions⟩
  rw [← total_eq_countP fun _ => rfl]
  exact hcounted.started

end FixedStepSimulation

end IngestionLab.Frontend
