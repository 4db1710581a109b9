import IngestionLab.Loadgen.EventLoop.Accounting
import IngestionLab.Loadgen.EventLoop.Answers
import IngestionLab.Loadgen.EventLoop.Elapsed
import IngestionLab.Loadgen.EventLoop.Teardown

/-!
# A start that fails

When the reader pool does not start, the event loop takes back what it has set up for the
run and is faulted until it is reset. Nothing shows afterwards that it has tried.

What is known of the state of the event loop at a point of a program is kept in
`IngestionLab.Cleared`: that there is nothing to collect, that the telemetry of the
reader is blank, and, where they are known exactly, the state of the run, what is
reported to Prometheus and the rest of the control state. While everything of every run
has ended, no goroutine can change any of it.

* `IngestionLab.Cleared.sound`: the facts are sound.
* `IngestionLab.Service.cleared_of_reachable`: **an idle service is cleared**: it has the
  state of a service that has just been started, but for its controls.
* `IngestionLab.Service.failed_start_leaves_nothing`: what a start that fails leaves, how
  the service goes on, and what the next reset makes of it.
-/

namespace IngestionLab

open Function

/-- **What is known at a point of a program** of the state the event loop keeps. -/
structure Cleared where
  /-- There is nothing to collect. -/
  settled : Bool := false
  /-- The telemetry of the reader is blank. -/
  reader : Bool := false
  /-- The last collection brought nothing. -/
  delta : Bool := false
  /-- No rate is reported to Prometheus. -/
  tps : Bool := false
  run : Option ControlRunState := none
  prom : Option PrometheusMetrics := none
  /-- The control state, but for that of the run. -/
  fixed : Option ControlState := none

namespace Cleared

open Service

/-- No rate. -/
def zeroTPS (prom : PrometheusMetrics) : PrometheusMetrics := { prom with actualTPS := 0 }

/-- What a statement makes of the facts, beside what it makes of those about the
runtime. -/
def change (c : Cleared) (g : Held) : Stmt → Cleared
  | .collectCompleted => { c with
      settled := true
      delta := c.settled
      run := if c.settled then c.run else none
      prom := if c.settled then c.prom else none }
  | .storeZero => { c with settled := true }
  | .startReaderInterval | .resumeReaderInterval => { c with reader := false }
  | .resetReader => { c with reader := true }
  | .setActualTPS => { c with
      tps := c.delta
      prom := if c.delta then c.prom.map zeroTPS else none }
  | .zeroActualTPS => { c with tps := true, prom := c.prom.map zeroTPS }
  | .setTargetTPS => { c with prom := none }
  | .runStarted | .enterPaused | .enterFaulted _ => { c with run := none }
  | .faultStart error => { c with
      run := c.run.map fun run => { run with state := .faulted, sourceError := some error } }
  | .beginReset => { c with run := c.run.map fun run => { run with state := .resetting } }
  | .completeReset => { c with run := c.run.map fun run => { run with state := .idle } }
  | .clearPausedStatus => { c with run := c.run.map fun run => { run with pausedStatus := none } }
  | .zeroProgress => { c with run := some { state := g.state } }
  | .setReadBatchSize _ | .setReaderWorkers _ | .setCapacity _ _ | .setRequestedTPS _
  | .setInstalled _ | .setSenderWorkers _ => { c with fixed := none }
  | _ => c

/-- **What a statement makes of the facts.** What the goroutines can change is known only
while they have ended. -/
def after (x : Held × Cleared) (i : Stmt) : Option (Held × Cleared) :=
  (x.1.after i).map fun g =>
    let c := x.2.change g i
    (g, { c with settled := c.settled && g.isQuiet, reader := c.reader && g.isQuiet })

/-- **What the facts mean.** -/
structure Holds (x : Held × Cleared) (s : Service) : Prop where
  held : x.1.Holds s
  settled : x.2.settled = true →
    x.1.isQuiet = true ∧ s.memory.terminallyCompletedTransactionsSinceTick = 0
  reader : x.2.reader = true → x.1.isQuiet = true ∧ s.memory.reader = {}
  delta : x.2.delta = true → s.delta = 0
  tps : x.2.tps = true → s.prom.actualTPS = 0
  run : ∀ run ∈ x.2.run, s.control.run = run
  prom : ∀ prom ∈ x.2.prom, s.prom = prom
  fixed : ∀ state ∈ x.2.fixed, s.control = { state with run := s.control.run }

/-- The event loop as a thread that keeps track of its own state. -/
def thread : Thread Service Stmt (Held × Cleared) where
  Ready := Ready
  exec := exec
  Holds := Holds
  after := after

variable {x y : Held × Cleared} {s t : Service} {i : Stmt} {f : Held}

/-! ### Beside the pipelines -/

/-- **Once everything has ended nobody writes to the shared memory**, but for the
clock. -/
theorem memory_of_quiet (h : f.Holds s) (hf : f.isQuiet = true) (hst : s.Interferes t) :
    t.memory = { s.memory with now := t.memory.now } := by
  cases hst with
  | clock now => rfl
  | cancelRoot => rfl
  | todo todo => rfl
  | pipeline run a hrun ha =>
    have hown : a.isOwn = false := by
      by_contra hc
      rw [Bool.not_eq_false] at hc
      exact Pipeline.not_enabled_of_quiet (h.inOrder run).sound (h.quiet hf hrun) hc ha
    have hsame : Pipeline.remember s.memory a = s.memory := Pipeline.remember_of_not_isOwn hown
    change Pipeline.remember s.memory a = { s.memory with now := (Pipeline.remember s.memory a).now }
    rw [hsame]

/-- The others leave alone what the event loop alone knows. -/
theorem frame_interferes (hst : s.Interferes t) :
    t.control = s.control ∧ t.prom = s.prom ∧ t.delta = s.delta := by
  cases hst <;> exact ⟨rfl, rfl, rfl⟩

theorem Holds.interferes (h : Holds x s) (hst : s.Interferes t) : Holds x t := by
  obtain ⟨hcontrol, hprom, hdelta⟩ := frame_interferes hst
  exact {
    held := h.held.interferes hst
    settled := fun hc => by
      rw [memory_of_quiet h.held (h.settled hc).1 hst]
      exact h.settled hc
    reader := fun hc => by
      rw [memory_of_quiet h.held (h.reader hc).1 hst]
      exact h.reader hc
    delta := fun hc => hdelta.trans (h.delta hc)
    tps := fun hc => by rw [hprom]; exact h.tps hc
    run := fun run hr => by rw [hcontrol]; exact h.run run hr
    prom := fun prom hp => hprom.trans (h.prom prom hp)
    fixed := fun state hs => by rw [hcontrol]; exact h.fixed state hs }

/-! ### What a statement does -/

section Exec

variable {c : Cleared} (g : Held) (i : Stmt)

/-- The statement is one that concerns a pipeline. -/
def isCall : Stmt → Bool
  | .startReaderPool _ | .startThrottler | .startSender | .reconcileReader | .reconcileSender
  | .callSender _ | .awaitReconciled | .offerSettings | .awaitUpdate | .cancelRun
  | .closeAndDrain _ => true
  | _ => false

/-- A statement that concerns a pipeline leaves alone what the event loop keeps. -/
theorem frame_of_isCall {i : Stmt} (hi : isCall i = true) : (s.exec i).memory = s.memory ∧
    (s.exec i).control = s.control ∧ (s.exec i).prom = s.prom ∧ (s.exec i).delta = s.delta := by
  cases i
  case startReaderPool | startThrottler | startSender | reconcileReader | reconcileSender
    | callSender | awaitReconciled | offerSettings | awaitUpdate | cancelRun | closeAndDrain =>
    simp only [exec, onPipeline]
    split <;> exact ⟨rfl, rfl, rfl, rfl⟩
  all_goals exact absurd hi (by rintro ⟨⟩)

/-- What such a statement makes of the facts: nothing. -/
theorem change_of_isCall {i : Stmt} (hi : isCall i = true) : c.change g i = c := by
  cases i <;> first | rfl | exact absurd hi nofun

/-- Nothing comes to be collected by a statement. -/
theorem completed_exec (h : c.settled = true → s.memory.terminallyCompletedTransactionsSinceTick = 0)
    (hc : (c.change g i).settled = true) :
    (s.exec i).memory.terminallyCompletedTransactionsSinceTick = 0 := by
  by_cases hi : isCall i = true
  · rw [change_of_isCall g hi] at hc
    rw [(frame_of_isCall hi).1]
    exact h hc
  cases i
  case collectCompleted | storeZero => rfl
  case startChannel channel =>
    rw [exec]
    split
    · exact h hc
    · cases channel <;> exact h hc
  case clearMeasurements channel | startInterval channel | sampleChannel channel | detach channel
    | setCapacity channel value | seeChannel channel => cases channel <;> exact h hc
  all_goals
    first
      | exact h hc
      | exact absurd rfl hi

theorem reader_exec (h : c.reader = true → s.memory.reader = {})
    (hc : (c.change g i).reader = true) : (s.exec i).memory.reader = {} := by
  by_cases hi : isCall i = true
  · rw [change_of_isCall g hi] at hc
    rw [(frame_of_isCall hi).1]
    exact h hc
  cases i
  case startReaderInterval | resumeReaderInterval => exact absurd hc nofun
  case resetReader => rfl
  case sampleReader now =>
    change s.memory.reader.sample now = {}
    rw [h hc]
    rfl
  case startChannel channel =>
    rw [exec]
    split
    · exact h hc
    · cases channel <;> exact h hc
  case clearMeasurements channel | startInterval channel | sampleChannel channel | detach channel
    | setCapacity channel value | seeChannel channel => cases channel <;> exact h hc
  all_goals
    first
      | exact h hc
      | exact absurd rfl hi

theorem delta_exec (h : c.delta = true → s.delta = 0)
    (hsettled : c.settled = true → s.memory.terminallyCompletedTransactionsSinceTick = 0)
    (hc : (c.change g i).delta = true) : (s.exec i).delta = 0 := by
  by_cases hi : isCall i = true
  · rw [change_of_isCall g hi] at hc
    rw [(frame_of_isCall hi).2.2.2]
    exact h hc
  cases i
  case collectCompleted => exact hsettled hc
  case startChannel channel =>
    rw [exec]
    split <;> exact h hc
  case setCapacity channel value | seeChannel channel => cases channel <;> exact h hc
  all_goals
    first
      | exact h hc
      | exact absurd rfl hi

theorem tps_exec (h : c.tps = true → s.prom.actualTPS = 0) (hdelta : c.delta = true → s.delta = 0)
    (hc : (c.change g i).tps = true) : (s.exec i).prom.actualTPS = 0 := by
  by_cases hi : isCall i = true
  · rw [change_of_isCall g hi] at hc
    rw [(frame_of_isCall hi).2.2.1]
    exact h hc
  cases i
  case setActualTPS =>
    change (s.delta : ℚ) / seconds s.control.metricsWindow = 0
    rw [hdelta hc, Nat.cast_zero, zero_div]
  case zeroActualTPS => rfl
  case startChannel channel =>
    rw [exec]
    split <;> exact h hc
  case setCapacity channel value | seeChannel channel => cases channel <;> exact h hc
  all_goals
    first
      | exact h hc
      | exact absurd rfl hi

theorem prom_exec (h : ∀ prom ∈ c.prom, s.prom = prom) (hdelta : c.delta = true → s.delta = 0)
    (hsettled : c.settled = true → s.memory.terminallyCompletedTransactionsSinceTick = 0) :
    ∀ prom ∈ (c.change g i).prom, (s.exec i).prom = prom := by
  by_cases hi : isCall i = true
  · rw [change_of_isCall g hi, (frame_of_isCall hi).2.2.1]
    exact h
  cases i
  case collectCompleted =>
    intro prom hprom
    simp only [change, Option.ite_none_right_eq_some, Option.mem_def] at hprom
    rw [← h prom hprom.2, exec, hsettled hprom.1]
    rfl
  case setActualTPS =>
    intro prom hprom
    simp only [change, Option.ite_none_right_eq_some, Option.mem_def, Option.map_eq_some_iff] at hprom
    obtain ⟨hzero, prom, hp, rfl⟩ := hprom
    simp only [exec, h prom hp, hdelta hzero, Nat.cast_zero, zero_div, zeroTPS]
  case zeroActualTPS =>
    intro prom hprom
    obtain ⟨prom, hp, rfl⟩ := Option.map_eq_some_iff.mp hprom
    simp only [exec, h prom hp, zeroTPS]
  case setTargetTPS => exact fun _ hprom => absurd hprom (Option.not_mem_none _)
  case startChannel channel =>
    rw [exec]
    split <;> exact h
  case setCapacity channel value | seeChannel channel => cases channel <;> exact h
  all_goals
    first
      | exact h
      | exact absurd rfl hi

theorem control_exec (h : ∀ state ∈ c.fixed, s.control = { state with run := s.control.run }) :
    ∀ state ∈ (c.change g i).fixed,
      (s.exec i).control = { state with run := (s.exec i).control.run } := by
  by_cases hi : isCall i = true
  · rw [change_of_isCall g hi, (frame_of_isCall hi).2.1]
    exact h
  have hsame (run : ControlRunState) : ∀ state ∈ c.fixed,
      { s.control with run := run } = { state with run := run } := fun state hs =>
    congrArg (fun k : ControlState => { k with run := run }) (h state hs)
  cases i
  case setReadBatchSize | setReaderWorkers | setCapacity | setRequestedTPS | setInstalled
    | setSenderWorkers => exact fun _ hs => absurd hs (Option.not_mem_none _)
  case startChannel channel =>
    rw [exec]
    split <;> exact h
  case seeChannel channel => cases channel <;> exact h
  case collectCompleted | runStarted | enterPaused | enterFaulted | faultStart | beginReset
    | completeReset | clearPausedStatus | zeroProgress => exact hsame _
  all_goals
    first
      | exact h
      | exact absurd rfl hi

theorem run_exec (h : ∀ run ∈ c.run, s.control.run = run)
    (hstate : (s.exec i).control.run.state = g.state)
    (hsettled : c.settled = true → s.memory.terminallyCompletedTransactionsSinceTick = 0) :
    ∀ run ∈ (c.change g i).run, (s.exec i).control.run = run := by
  by_cases hi : isCall i = true
  · rw [change_of_isCall g hi, (frame_of_isCall hi).2.1]
    exact h
  cases i
  case collectCompleted =>
    intro run hrun
    simp only [change, Option.ite_none_right_eq_some, Option.mem_def] at hrun
    rw [← h run hrun.2]
    simp only [exec, onRun, hsettled hrun.1, Nat.add_zero]
  case runStarted | enterPaused | enterFaulted =>
    exact fun _ hrun => absurd hrun (Option.not_mem_none _)
  case faultStart | beginReset | completeReset | clearPausedStatus =>
    intro run hrun
    obtain ⟨run, hr, rfl⟩ := Option.map_eq_some_iff.mp hrun
    simp only [exec, onRun, h run hr]
  case zeroProgress =>
    rintro run ⟨rfl⟩
    rw [← hstate]
    rfl
  case startChannel channel =>
    rw [exec]
    split <;> exact h
  case setCapacity channel value | seeChannel channel => cases channel <;> exact h
  all_goals
    first
      | exact h
      | exact absurd rfl hi

end Exec

/-- **A statement establishes the facts it is said to.** -/
theorem Holds.exec (h : Holds x s) (hi : Ready s i) (hy : after x i = some y) :
    Holds y (s.exec i) := by
  obtain ⟨g, hg, rfl⟩ := Option.map_eq_some_iff.mp hy
  have hheld : g.Holds (s.exec i) := h.held.exec hi hg
  have hsettled := fun hc => (h.settled hc).2
  exact {
    held := hheld
    settled := fun hc => by
      obtain ⟨hc, hq⟩ := Bool.and_eq_true_iff.mp hc
      exact ⟨hq, completed_exec g i hsettled hc⟩
    reader := fun hc => by
      obtain ⟨hc, hq⟩ := Bool.and_eq_true_iff.mp hc
      exact ⟨hq, reader_exec g i (fun hc => (h.reader hc).2) hc⟩
    delta := delta_exec g i h.delta hsettled
    tps := tps_exec g i h.tps h.delta
    run := run_exec g i h.run hheld.state hsettled
    prom := prom_exec g i h.prom h.delta hsettled
    fixed := control_exec g i h.fixed }

/-- **The facts are sound.** -/
theorem sound : thread.Sound Interferes where
  env _ _ _ h hst := h.interferes hst
  exec _ _ _ _ h hi hy := h.exec hi hy

/-! ### The programs -/

/-- Less is known. -/
structure Le (c d : Cleared) : Prop where
  settled : c.settled = true → d.settled = true
  reader : c.reader = true → d.reader = true
  delta : c.delta = true → d.delta = true
  tps : c.tps = true → d.tps = true
  run : c.run = none ∨ c.run = d.run
  prom : c.prom = none ∨ c.prom = d.prom
  fixed : c.fixed = none ∨ c.fixed = d.fixed

theorem mem_of_le {α : Type*} {a b : Option α} (h : a = none ∨ a = b) {v : α} (hv : v ∈ a) :
    v ∈ b := by
  rcases h with rfl | rfl
  · exact absurd hv (Option.not_mem_none v)
  · exact hv

/-- What is known may be forgotten. -/
theorem Holds.mono {c d : Cleared} (h : Holds (f, d) s) (hle : Le c d) : Holds (f, c) s where
  held := h.held
  settled hc := h.settled (hle.settled hc)
  reader hc := h.reader (hle.reader hc)
  delta hc := h.delta (hle.delta hc)
  tps hc := h.tps (hle.tps hc)
  run _ hr := h.run _ (mem_of_le hle.run hr)
  prom _ hp := h.prom _ (mem_of_le hle.prom hp)
  fixed _ hs := h.fixed _ (mem_of_le hle.fixed hs)

/-- The last collection is forgotten. -/
theorem Holds.take {e : Event} (h : Holds x s) (he : e.Enabled s) : Holds x (s.take e) := by
  obtain ⟨hcontrol, hmemory, -⟩ := run_take s e
  have hkept : (s.take e).prom = s.prom ∧ (s.take e).delta = s.delta := by
    cases e
    case sourceError error =>
      simp only [Service.take, onPipeline]
      split <;> exact ⟨rfl, rfl⟩
    all_goals exact ⟨rfl, rfl⟩
  exact {
    held := h.held.take he
    settled := fun hc => by rw [hmemory]; exact h.settled hc
    reader := fun hc => by rw [hmemory]; exact h.reader hc
    delta := fun hc => hkept.2.trans (h.delta hc)
    tps := fun hc => by rw [hkept.1]; exact h.tps hc
    run := fun run hr => by rw [hcontrol]; exact h.run run hr
    prom := fun prom hp => hkept.1.trans (h.prom prom hp)
    fixed := fun state hs => by rw [hcontrol]; exact h.fixed state hs }

/-- **What is known between two events**: an idle service is cleared, a faulted one but
for the state of the run. -/
def rest : RunState → Cleared
  | .idle => { settled := true, reader := true, tps := true, run := some {} }
  | .faulted => { settled := true, reader := true, tps := true }
  | _ => {}

/-- The facts a program may end with. -/
def Final (x : Held × Cleared) : Prop :=
  x.1.exited = true ∨ x.1 = Held.rest x.1.state ∧ x.1.state ≠ .resetting ∧ Le (rest x.1.state) x.2

/-- **The program of every event passes the check**, and ends with what is known between
two events. -/
theorem exists_check (s : Service) (e : Event) (hs : s.control.run.state ≠ .resetting) :
    ∃ x, thread.check (Held.rest s.control.run.state, rest s.control.run.state) (s.program e) =
      some x ∧ Final x := by
  have hprogram := program_cases s e
  generalize s.control.run.state = state at hs hprogram ⊢
  generalize s.program e = p at hprogram ⊢
  cases state
  case resetting => exact absurd rfl hs
  all_goals
    cases hprogram with
    | exit => exact ⟨_, rfl, Or.inl rfl⟩
    | _ =>
      refine ⟨_, rfl, Or.inr ⟨rfl, nofun, ?_⟩⟩
      constructor
      all_goals
        first
          | exact fun _ => rfl
          | exact Or.inl rfl
          | exact Or.inr rfl
          | exact nofun

/-- What is known of a service faulted by a start that failed: everything. -/
def faultedBy (error : ReaderSourceError) (prom : Option PrometheusMetrics)
    (fixed : Option ControlState) : Cleared :=
  { rest .faulted with
    run := some { state := .faulted, sourceError := some error }
    prom := prom.map zeroTPS
    fixed := fixed }

/-- What is known of an idle service that was idle before. -/
def idleOf (prom : PrometheusMetrics) (fixed : ControlState) : Cleared :=
  { rest .idle with prom := some (zeroTPS prom), fixed := some fixed }

/-- The statement sets a control. -/
def sets : Stmt → Bool
  | .setReadBatchSize _ | .setReaderWorkers _ | .setCapacity _ _ | .setRequestedTPS _
  | .setInstalled _ | .setSenderWorkers _ => true
  | _ => false

/-- **Until the reset a faulted service stays faulted by the same error**; and while no
control is set, everything else stays as it is. -/
theorem exists_faulted_check {error : ReaderSourceError} {prom : Option PrometheusMetrics}
    {fixed : Option ControlState} (s : Service) (e : Event)
    (hstate : s.control.run.state = .faulted) (hreset : s.resets e = false)
    (hset : (s.program e).any sets = true → prom = none ∧ fixed = none) :
    ∃ x, thread.check (Held.rest .faulted, faultedBy error prom fixed) (s.program e) = some x ∧
      (x.1.exited = true ∨ x.1 = Held.rest .faulted ∧ Le (faultedBy error prom fixed) x.2) := by
  rw [resets_eq_any] at hreset
  have hprogram := program_cases s e
  rw [hstate] at hprogram
  generalize s.program e = p at hprogram hreset hset ⊢
  cases hprogram
  case exit => exact ⟨_, rfl, Or.inl rfl⟩
  case resetFaulted => exact absurd hreset nofun
  case setReaderWorkers | setRequestedTPS | setInstalled | setSenderWorkers =>
    obtain ⟨rfl, rfl⟩ := hset rfl
    exact ⟨_, rfl, Or.inr ⟨rfl, ⟨fun _ => rfl, fun _ => rfl, nofun, fun _ => rfl, Or.inr rfl,
      Or.inl rfl, Or.inl rfl⟩⟩⟩
  all_goals
    refine ⟨_, rfl, Or.inr ⟨rfl, ⟨fun _ => rfl, fun _ => rfl, nofun, fun _ => rfl, Or.inr rfl, ?_,
      Or.inr rfl⟩⟩⟩
    cases prom
    · exact Or.inl rfl
    · exact Or.inr rfl

end Cleared

namespace Service

open Cleared

variable {s t u v : Service} {cfg : Config} {now : ℕ} {x : Held × Cleared} {c : Cleared}

/-! ### The idle service -/

/-- Nothing that the runtime or the telemetry could show of a run. -/
structure Bare (s : Service) : Prop where
  runtime : s.runtime = {}
  memory : s.memory = { now := s.memory.now }

/-- Where nothing is held and nothing to be collected, there is nothing left of a run. -/
theorem bare_of_holds {state : RunState} (h : Holds (Held.rest state, c) s)
    (hstate : state.isActive = false) (hsettled : c.settled = true) (hreader : c.reader = true) :
    s.Bare := by
  have hpointers := h.held.pointers
  simp only [Held.rest, hstate] at hpointers
  have hnone : ∀ {o : Option ℕ}, o.isSome = false → o = none := by
    intro o ho
    rwa [Option.isSome_eq_false_iff, Option.isNone_iff_eq_none] at ho
  constructor
  · have hrt : s.runtime = ⟨s.runtime.readerBatches, s.runtime.senderBatches, s.runtime.senderPool,
      s.runtime.cancelRun, s.runtime.throttler, s.runtime.readerPool⟩ := rfl
    rw [hrt, hnone hpointers.readerBatches, hnone hpointers.senderBatches,
      hnone hpointers.senderPool, hnone hpointers.cancelRun, hnone hpointers.throttler,
      hnone hpointers.readerPool]
  · have hblank : (Held.rest state).readerBlank = true ∧ (Held.rest state).senderBlank = true := by
      simp [Held.rest, hstate]
    have hmem : s.memory = ⟨s.memory.now, s.memory.reader, s.memory.readerChannel,
      s.memory.senderChannel, s.memory.terminallyCompletedTransactionsSinceTick⟩ := rfl
    rw [hmem, (h.reader hreader).2, (h.settled hsettled).2, (h.held.readerBlank hblank.1).2,
      (h.held.senderBlank hblank.2).2]

/-- In every state of the service it is known what is cleared. -/
theorem cleared_covered (h : machine.Reachable (newService cfg now) s) :
    Cleared.thread.Covered Cleared.Final s s.todo := by
  have hstart : Holds (Held.rest .idle, Cleared.rest .idle) (newService cfg now) := {
    held := holds_newService cfg now
    settled := fun _ => ⟨rfl, rfl⟩
    reader := fun _ => ⟨rfl, rfl⟩
    delta := nofun
    tps := fun _ => rfl
    run := fun _ hr => Option.some.inj hr
    prom := fun _ hp => absurd hp (Option.not_mem_none _)
    fixed := fun _ hs => absurd hs (Option.not_mem_none _) }
  have hle (d : Cleared) : Cleared.Le d d :=
    ⟨id, id, id, id, Or.inr rfl, Or.inr rfl, Or.inr rfl⟩
  refine covered_of_sound rfl rfl Cleared.sound
    ⟨_, _, hstart, rfl, Or.inr ⟨rfl, nofun, hle _⟩⟩ (fun s e hexited he hs => ?_) h
  obtain ⟨⟨f, d⟩, hx, hfinal⟩ := hs.final
  rcases hfinal with hleft | ⟨hrest, hstate, hknown⟩
  · exact absurd (hx.held.exited.symm.trans hexited) (by rw [hleft]; nofun)
  · have hf : s.control.run.state = f.state := hx.held.state
    obtain ⟨y, hy, hyfinal⟩ := Cleared.exists_check s e (by rw [hf]; exact hstate)
    rw [hf] at hy
    have hx' : Holds (Held.rest f.state, Cleared.rest f.state) s := by
      rw [← show f = Held.rest f.state from hrest]
      exact hx.mono hknown
    exact ⟨_, y, hx'.take he, hy, hyfinal⟩

/-- **What is cleared between two events.** -/
theorem cleared_of_reachable (h : machine.Reachable (newService cfg now) s) (htodo : s.todo = [])
    (hexited : s.exited = false) :
    Holds (Held.rest s.control.run.state, Cleared.rest s.control.run.state) s := by
  have hcovered := cleared_covered h
  rw [htodo] at hcovered
  obtain ⟨⟨f, d⟩, hx, hfinal⟩ := hcovered.final
  rcases hfinal with hleft | ⟨hrest, -, hknown⟩
  · exact absurd (hx.held.exited.symm.trans hexited) (by rw [hleft]; nofun)
  · have hf : s.control.run.state = f.state := hx.held.state
    rw [hf, ← show f = Held.rest f.state from hrest]
    exact hx.mono hknown

/-! ### The start that fails -/

/-- The command sets a control. -/
def Command.isSetting : Command → Bool
  | .setReadBatchSize _ | .setReaderWorkers _ | .setReaderChannelCapacity _
  | .setSenderChannelCapacity _ | .setRequestedTPS _ | .setThrottlerInstalled _
  | .setSenderWorkers _ => true
  | _ => false

/-- A control is set by a command that sets it. -/
theorem exists_isSetting {e : Event} (h : (s.program e).any sets = true) :
    ∃ command : Command, e = .command command ∧ command.isSetting = true := by
  cases e with
  | done | requestsClosed => exact absurd h (by rintro ⟨⟩)
  | sourceError error =>
    cases hs : s.control.run.state <;> rw [program, hs] at h <;>
      exact absurd h (by rintro ⟨⟩)
  | tick now =>
    rw [program] at h
    split at h <;> split at h <;> exact absurd h (by rintro ⟨⟩)
  | command command =>
    cases command
    case getRuntimeStatus =>
      rw [program, handle, statusReadings] at h
      split at h <;> exact absurd h (by rintro ⟨⟩)
    case pause =>
      rw [program, handle] at h
      split at h <;> exact absurd h (by rintro ⟨⟩)
    case run glob =>
      cases hs : s.control.run.state <;> simp only [program, handle, hs] at h
      case idle =>
        rw [startRun] at h
        split at h <;> exact absurd h (by rintro ⟨⟩)
      all_goals exact absurd h (by rintro ⟨⟩)
    case reset =>
      cases hs : s.control.run.state <;> simp only [program, handle, hs] at h <;>
        exact absurd h (by rintro ⟨⟩)
    all_goals exact ⟨_, rfl, rfl⟩

/-- What is known at the end of the program of an event. -/
theorem exists_holds_after {F : Held × Cleared → Prop} {e : Event} {as : List Action}
    (has : ∀ a ∈ as, ∀ e, a ≠ .event e) (hrun : machine.Run s (.event e :: as))
    (hdone : (machine.after s (.event e :: as)).todo = []) (hx : Holds x s)
    (hcheck : ∃ y, Cleared.thread.check x (s.program e) = some y ∧ F y) :
    ∃ y, Holds y (machine.after s (.event e :: as)) ∧ F y := by
  obtain ⟨y, hy, hF⟩ := hcheck
  have hcovered := covered_of_run (T := Cleared.thread) (F := F) rfl rfl Cleared.sound
    (fun u e he => absurd rfl (has _ he e))
    (s := machine.next s (.event e)) ⟨x, y, hx.take hrun.1.2.2, hy, hF⟩ hrun.2
  rw [Machine.after_cons] at hdone ⊢
  rw [hdone] at hcovered
  exact hcovered.final

/-- **The start fails**: the service is faulted, and everything else is as it was. -/
theorem holds_failedStart {glob : Except String (List Go.Path)} {error : ReaderSourceError}
    {as : List Action} (hx : Holds (Held.rest .idle, idleOf s.prom s.control) s)
    (hidle : s.control.run.state = .idle)
    (hfail : ReaderPool.sourceFiles s.control.config.source.path.toList glob = .error error)
    (has : ∀ a ∈ as, ∀ e, a ≠ .event e)
    (hrun : machine.Run s (.event (.command (.run glob)) :: as))
    (hdone : (machine.after s (.event (.command (.run glob)) :: as)).todo = []) :
    Holds (Held.rest .faulted, faultedBy error (some s.prom) (some s.control))
      (machine.after s (.event (.command (.run glob)) :: as)) := by
  obtain ⟨y, hy, rfl⟩ := exists_holds_after has hrun hdone hx
    (F := (· = (Held.rest .faulted, faultedBy error (some s.prom) (some s.control)))) (by
      refine ⟨_, ?_, rfl⟩
      simp only [program, handle, hidle, startRun, hfail]
      rfl)
  exact hy

/-- **Until it is reset the service stays faulted by the same error.** -/
theorem holds_faulted {error : ReaderSourceError} {prom : Option PrometheusMetrics}
    {fixed : Option ControlState} {as : List Action}
    (hx : Holds (Held.rest .faulted, faultedBy error prom fixed) s)
    (htodo : s.todo = []) (hrun : machine.Run s as)
    (hreset : ∀ a ∈ as, a ≠ .event (.command .reset))
    (hset : prom = none ∧ fixed = none ∨ ∀ command : Command, command.isSetting = true →
      .event (.command command) ∉ as)
    (hdone : (machine.after s as).todo = []) (hexited : (machine.after s as).exited = false) :
    Holds (Held.rest .faulted, faultedBy error prom fixed) (machine.after s as) := by
  have hle (d : Cleared) : Cleared.Le d d :=
    ⟨id, id, id, id, Or.inr rfl, Or.inr rfl, Or.inr rfl⟩
  have hcovered := covered_of_run (T := Cleared.thread) (F := fun x =>
    x.1.exited = true ∨ x.1 = Held.rest .faulted ∧ Cleared.Le (faultedBy error prom fixed) x.2)
    rfl rfl Cleared.sound ?_
    (by rw [htodo]; exact ⟨_, _, hx, rfl, Or.inr ⟨rfl, hle _⟩⟩) hrun
  · rw [hdone] at hcovered
    obtain ⟨⟨f, d⟩, hy, hfinal⟩ := hcovered.final
    rcases hfinal with hleft | ⟨hrest, hknown⟩
    · exact absurd (hy.held.exited.symm.trans hexited) (by rw [hleft]; nofun)
    · rw [← show f = Held.rest .faulted from hrest]
      exact hy.mono hknown
  · intro u e he hleft henabled hu
    obtain ⟨⟨f, d⟩, hy, hfinal⟩ := hu.final
    rcases hfinal with hexit | ⟨hrest, hknown⟩
    · exact absurd (hy.held.exited.symm.trans hleft) (by rw [hexit]; nofun)
    have hf : f = Held.rest .faulted := hrest
    rw [hf] at hy
    have hstate : u.control.run.state = .faulted := hy.held.state
    have hno : u.resets e = false := by
      unfold resets
      split
      · exact absurd rfl (hreset _ he)
      · exact absurd rfl (hreset _ he)
      · exact absurd rfl (hreset _ he)
      · rfl
    obtain ⟨y, hcheck, hy'⟩ := @Cleared.exists_faulted_check error prom fixed u e
      hstate hno (fun hsets => by
        rcases hset with hnone | hnot
        · exact hnone
        · obtain ⟨command, rfl, hsetting⟩ := exists_isSetting hsets
          exact absurd he (hnot command hsetting))
    exact ⟨_, y, (hy.mono hknown).take henabled, hcheck, hy'⟩

/-- **A reset makes the service idle**, from the idle state and from the faulted one. -/
theorem holds_reset {prom : PrometheusMetrics} {fixed : ControlState} {as : List Action}
    (hx : (s.control.run.state = .idle ∧ Holds (Held.rest .idle, idleOf prom fixed) s) ∨
      ∃ error, s.control.run.state = .faulted ∧
        Holds (Held.rest .faulted, faultedBy error (some prom) (some fixed)) s)
    (has : ∀ a ∈ as, ∀ e, a ≠ .event e) (hrun : machine.Run s (.event (.command .reset) :: as))
    (hdone : (machine.after s (.event (.command .reset) :: as)).todo = []) :
    Holds (Held.rest .idle, idleOf prom fixed)
      (machine.after s (.event (.command .reset) :: as)) := by
  obtain ⟨⟨f, d⟩, hy, hrest, hle⟩ : ∃ y, Holds y (machine.after s (.event (.command .reset) :: as)) ∧
      y.1 = Held.rest .idle ∧ Cleared.Le (idleOf prom fixed) y.2 := by
    rcases hx with ⟨hstate, hx⟩ | ⟨error, hstate, hx⟩
    all_goals
      refine exists_holds_after has hrun hdone hx ?_
      simp only [program, handle, hstate]
      exact ⟨_, rfl, rfl,
        ⟨fun _ => rfl, fun _ => rfl, by rintro ⟨⟩, fun _ => rfl, Or.inr rfl, Or.inr rfl,
        Or.inr rfl⟩⟩
  rw [← show f = Held.rest .idle from hrest]
  exact hy.mono hle

/-! ### The main result -/

/-- **Two services the event loop goes on alike from**: the same control state, the same
telemetry, totals and reports, the same runtime. Only the time may differ. -/
structure Resembles (u v : Service) : Prop where
  control : u.control = v.control
  memory : u.memory = { v.memory with now := u.memory.now }
  prom : u.prom = v.prom
  runtime : u.runtime = v.runtime

/-- Idle services that were the same idle service before resemble each other. -/
theorem resembles_of_idleOf {prom : PrometheusMetrics} {fixed : ControlState}
    (hu : Holds (Held.rest .idle, idleOf prom fixed) u)
    (hv : Holds (Held.rest .idle, idleOf prom fixed) v) : u.Resembles v := by
  have hubare := bare_of_holds hu rfl rfl rfl
  have hvbare := bare_of_holds hv rfl rfl rfl
  have hcontrol {w : Service} (hw : Holds (Held.rest .idle, idleOf prom fixed) w) :
      w.control = { fixed with run := {} } := by
    rw [hw.fixed fixed rfl, hw.run {} rfl]
  constructor
  · rw [hcontrol hu, hcontrol hv]
  · rw [hvbare.memory]
    exact hubare.memory
  · exact (hu.prom _ rfl).trans (hv.prom _ rfl).symm
  · exact hubare.runtime.trans hvbare.runtime.symm

/-- A faulted service refuses to run. -/
theorem program_run_of_faulted (hstate : s.control.run.state = .faulted)
    (glob : Except String (List Go.Path)) :
    s.program (.command (.run glob)) = [.respond .rejected] := by
  simp only [program, handle, hstate]

/-- **A start that fails leaves nothing behind.** Let the reader pool not start when an idle
service is told to run. Once the command has been handled:

* the runtime points to nothing, every run is over, with its channels closed, and the
  telemetry is blank and detached;
* the control state is as it was, but faulted by the error, which is what is answered;
* until the next reset the service stays faulted by that error and refuses to run;
* and after the next reset – no control having been set in between – the service is as
  after a reset of the idle service there was before. -/
theorem failed_start_leaves_nothing (h : machine.Reachable (newService cfg now) s)
    (htodo : s.todo = []) (hexited : s.exited = false) (hidle : s.control.run.state = .idle)
    {glob : Except String (List Go.Path)} {error : ReaderSourceError}
    (hfail : ReaderPool.startReaderPool s.control.config.source.path.toList
      s.control.controls.readBatchSize.toNat s.control.controls.readerWorkers.toNat glob =
        .error error)
    {as : List Action} (has : ∀ a ∈ as, ∀ e, a ≠ .event e)
    (hrun : machine.Run s (.event (.command (.run glob)) :: as))
    (hdone : (machine.after s (.event (.command (.run glob)) :: as)).todo = []) :
    let t := machine.after s (.event (.command (.run glob)) :: as)
    (t.runtime = {} ∧ (∀ i < t.runs, t.Over i) ∧ t.memory = { now := t.memory.now }) ∧
    (t.control = { s.control with run := { state := .faulted, sourceError := some error } } ∧
      t.responses = s.responses ++ [.failed error]) ∧
    (∀ bs, machine.Run t bs → (∀ a ∈ bs, a ≠ .event (.command .reset)) →
      let u := machine.after t bs
      u.todo = [] → u.exited = false →
        u.control.run = { state := .faulted, sourceError := some error } ∧
        ∀ glob, u.program (.command (.run glob)) = [.respond .rejected]) ∧
    ∀ bs, machine.Run t bs → (∀ a ∈ bs, a ≠ .event (.command .reset)) →
      (∀ command : Command, command.isSetting = true → .event (.command command) ∉ bs) →
      let u := machine.after t bs
      u.todo = [] → u.exited = false →
        ∀ cs ds, (∀ a ∈ cs, ∀ e, a ≠ .event e) → (∀ a ∈ ds, ∀ e, a ≠ .event e) →
          machine.Run u (.event (.command .reset) :: cs) →
          machine.Run s (.event (.command .reset) :: ds) →
          (machine.after u (.event (.command .reset) :: cs)).todo = [] →
          (machine.after s (.event (.command .reset) :: ds)).todo = [] →
          (machine.after u (.event (.command .reset) :: cs)).Resembles
            (machine.after s (.event (.command .reset) :: ds)) := by
  intro t
  have hcleared := cleared_of_reachable h htodo hexited
  rw [hidle] at hcleared
  have hx : Holds (Held.rest .idle, idleOf s.prom s.control) s := { hcleared with
    prom := fun prom hp => by
      obtain rfl := Option.some.inj hp
      have htps : s.prom.actualTPS = 0 := hcleared.tps rfl
      rw [zeroTPS, ← htps]
    fixed := fun state hs => by
      obtain rfl := Option.some.inj hs
      rfl }
  have hsource : ReaderPool.sourceFiles s.control.config.source.path.toList glob = .error error := by
    rw [ReaderPool.startReaderPool] at hfail
    cases hfiles : ReaderPool.sourceFiles s.control.config.source.path.toList glob with
    | error message =>
      rw [hfiles] at hfail
      exact congrArg Except.error (Except.error.inj (show Except.error message = _ from hfail))
    | ok files =>
      rw [hfiles] at hfail
      exact absurd hfail nofun
  have ht : Holds (Held.rest .faulted, faultedBy error (some s.prom) (some s.control)) t :=
    holds_failedStart hx hidle hsource has hrun hdone
  have hweak : Holds (Held.rest .faulted, faultedBy error none none) t :=
    ht.mono ⟨id, id, id, id, Or.inr rfl, Or.inl rfl, Or.inl rfl⟩
  have hbare : t.Bare := bare_of_holds ht rfl rfl rfl
  have hover : ∀ i < t.runs, t.Over i := fun i hi =>
    over_of_reachable (h.trans ⟨_, hrun, rfl⟩) hi (by rw [hbare.runtime]; simp [Runtime.PointsTo])
      (Machine.Reachable.refl _)
  have hcontrol : t.control =
      { s.control with run := { state := .faulted, sourceError := some error } } := by
    rw [ht.fixed _ rfl, ht.run _ rfl]
  refine ⟨⟨hbare.runtime, hover, hbare.memory⟩, ⟨hcontrol, ?_⟩, ?_, ?_⟩
  · have hprogram : s.program (.command (.run glob)) = startRun s.control glob := by
      simp only [program, handle, hidle]
    have hknown : Stmt.respondStatus ∉ s.program (.command (.run glob)) ∧
        answers (s.program (.command (.run glob))) = [.failed error] := by
      rw [hprogram, startRun, hsource]
      exact ⟨by simp [prepareRun], rfl⟩
    have hall := responses_run (s := machine.next s (.event (.command (.run glob)))) hknown.1 has
      hrun.2
    have hend : (machine.after (machine.next s (.event (.command (.run glob)))) as).todo = [] := hdone
    rw [hend, answers, List.filterMap_nil, List.append_nil] at hall
    exact hall.trans (congrArg (s.responses ++ ·) hknown.2)
  · intro bs hbs hreset u hu hleft
    have hfaulted := holds_faulted hweak hdone hbs hreset (Or.inl ⟨rfl, rfl⟩) hu hleft
    exact ⟨hfaulted.run _ rfl, program_run_of_faulted hfaulted.held.state⟩
  · intro bs hbs hreset hset u hu hleft cs ds hcs hds hrunu hruns hdoneu hdones
    have hfaulted := holds_faulted ht hdone hbs hreset (Or.inr hset) hu hleft
    exact resembles_of_idleOf
      (holds_reset (Or.inr ⟨error, hfaulted.held.state, hfaulted⟩) hcs hrunu hdoneu)
      (holds_reset (Or.inl ⟨hidle, hx⟩) hds hruns hdones)

/-- A service that has just been started is told to run, and there is no file. -/
def failedRun : List Action := .event (.command (.run (.ok []))) :: execs 15

theorem failed_start_failedRun :
    (machine.after (newService exampleConfig 0) failedRun).runtime = {} ∧
      (machine.after (machine.after (newService exampleConfig 0) failedRun)
        (.event (.command .reset) :: execs 23)).Resembles
          (machine.after (newService exampleConfig 0) (.event (.command .reset) :: execs 8)) := by
  have hexecs (n : ℕ) : ∀ a ∈ execs n, ∀ e, a ≠ .event e := by
    intro a ha e
    obtain ⟨-, rfl⟩ := List.mem_replicate.mp ha
    nofun
  have hrun : machine.Run (newService exampleConfig 0) failedRun := by decide +kernel
  have hrest : (newService exampleConfig 0).todo = [] ∧ (newService exampleConfig 0).exited = false ∧
      (newService exampleConfig 0).control.run.state = .idle := ⟨rfl, rfl, rfl⟩
  have hend : (machine.after (newService exampleConfig 0) failedRun).todo = [] ∧
      (machine.after (newService exampleConfig 0) failedRun).exited = false := by decide +kernel
  have hreset : machine.Run (machine.after (newService exampleConfig 0) failedRun)
        (.event (.command .reset) :: execs 23) ∧
      (machine.after (machine.after (newService exampleConfig 0) failedRun)
        (.event (.command .reset) :: execs 23)).todo = [] := by decide +kernel
  have hidle : machine.Run (newService exampleConfig 0) (.event (.command .reset) :: execs 8) ∧
      (machine.after (newService exampleConfig 0) (.event (.command .reset) :: execs 8)).todo = [] := by
    decide +kernel
  have hfail : ReaderPool.startReaderPool (newService exampleConfig 0).control.config.source.path.toList
      (newService exampleConfig 0).control.controls.readBatchSize.toNat
      (newService exampleConfig 0).control.controls.readerWorkers.toNat (.ok []) =
      .error (newReaderSourceError (readerSourceDirectory exampleConfig.source.path.toList) "glob"
        exampleConfig.source.path.toList "no files found matching pattern") := rfl
  generalize hs : newService exampleConfig 0 = s at hrun hrest hend hreset hidle hfail ⊢
  have h := failed_start_leaves_nothing ⟨[], trivial, hs⟩ hrest.1 hrest.2.1 hrest.2.2 hfail (hexecs 15) hrun
    hend.1
  exact ⟨h.1.1, h.2.2.2 [] trivial (fun _ ha => absurd ha List.not_mem_nil)
    (fun _ _ => List.not_mem_nil) hend.1 hend.2 (execs 23) (execs 8) (hexecs 23) (hexecs 8)
    hreset.1 hidle.1 hreset.2 hidle.2⟩

end Service

end IngestionLab
