import IngestionLab.Loadgen.Pipeline
import IngestionLab.Loadgen.Status
import IngestionLab.Machine.Thread

/-!
# The event loop

The model of `control_state.go` and `pipeline_runtime.go`: one goroutine that waits
for a command, a source error, a tick or the end, and handles one of them at a time,
while the pipeline of the current run goes on working beside it.

## Programs

Handling an event is a straight-line program. Which one is decided when the event is
taken, from the control state, which nobody else changes
(`IngestionLab.Service.program`); its statements (`IngestionLab.Stmt`) are executed
one by one, and between any two of them the goroutines of the pipeline may act. A
statement is one critical section, one call into a component, one wait, or a piece of
work on what the event loop alone knows; where the source passes on the value of a
command it has just stored, the statement reads the control. The waits are statements that are executed
when what they wait for has happened (`IngestionLab.Service.Ready`). What is still to
be executed is in `todo`.

The file system answers once while a run is started. What it answers is in the label
of the command, so that the program is known from its beginning.

## Runs

Every run gets a number and a pipeline of its own. A component the runtime points to
is named by the number of its run, and a pipeline stays where it is when the runtime
lets go of it: that nothing moves in it any more is a theorem.
-/

namespace IngestionLab

open Go Function

/-! ### The control state -/

/-- `configuredControls`. -/
structure ConfiguredControls where
  readBatchSize : ℤ
  readerWorkers : ℤ
  readerChannelCapacity : ℤ
  senderChannelCapacity : ℤ
  requestedTPS : ℤ
  installed : Bool
  senderWorkers : ℤ
  deriving DecidableEq, Repr

/-- `controlRunState`. The status kept while paused is absent where the source has a
zero value. -/
structure ControlRunState where
  totalTransactions : ℕ := 0
  elapsedBeforeRun : ℤ := 0
  runStartedAt : Option ℕ := none
  sourceError : Option ReaderSourceError := none
  pausedStatus : Option RuntimeStatus := none
  state : RunState := .idle
  deriving DecidableEq, Repr

/-- `controlState`, but for the telemetry, which is in the shared memory. -/
structure ControlState where
  metricsWindow : ℤ
  run : ControlRunState
  config : Config
  controls : ConfiguredControls
  deriving DecidableEq, Repr

/-- What the event loop reports to Prometheus (`PrometheusMetrics`). -/
structure PrometheusMetrics where
  targetTPS : ℚ
  actualTPS : ℚ := 0
  transactionsTotal : ℕ := 0
  deriving DecidableEq, Repr

/-- `newControlState`. -/
def newControlState (cfg : Config) : ControlState where
  metricsWindow := cfg.metrics.windowMS.initial * millisecond
  run := {}
  config := cfg
  controls :=
    { readBatchSize := cfg.reader.readBatchSize.initial
      readerWorkers := cfg.reader.workers.initial
      readerChannelCapacity := cfg.readerChannel.capacity.initial
      senderChannelCapacity := cfg.senderChannel.capacity.initial
      requestedTPS := cfg.throttler.requestedTPS.initial
      installed := cfg.throttler.installed.initial
      senderWorkers := cfg.sender.workers.initial }

namespace ControlState

/-- `throttlerSettings`. -/
def throttlerSettings (state : ControlState) : ThrottlerSettings where
  requestedTPS := state.controls.requestedTPS
  installed := state.controls.installed

/-- `elapsedMs`. -/
def elapsedMs (state : ControlState) (now : ℕ) : ℤ :=
  let elapsed := match state.run.state, state.run.runStartedAt with
    | .running, some startedAt => state.run.elapsedBeforeRun + sub now startedAt
    | _, _ => state.run.elapsedBeforeRun
  if elapsed < 0 then 0 else milliseconds elapsed

/-- `pauseElapsed`. -/
def pauseElapsed (run : ControlRunState) (now : ℕ) : ControlRunState :=
  match run.runStartedAt with
  | none => run
  | some startedAt => { run with
      elapsedBeforeRun := run.elapsedBeforeRun + sub now startedAt
      runStartedAt := none }

end ControlState

/-- What `runtimeStatusAt` has read so far: the clock, the counters of the reader, and
the snapshots of the pools and of the channels. -/
structure Seen where
  now : ℕ := 0
  reader : ReaderTelemetry := {}
  readerPool : ReaderPoolSnapshot := {}
  senderPool : SenderPoolSnapshot := {}
  readerChannel : ChannelMeasurements := {}
  senderChannel : ChannelMeasurements := {}
  deriving DecidableEq, Repr

/-- The status of a run that is not paused. -/
def ControlState.liveStatus (state : ControlState) (seen : Seen) : RuntimeStatus :=
  let atRest := state.run.state = .idle ∨ state.run.state = .faulted
  { run :=
      { state := state.run.state
        totalTransactions := state.run.totalTransactions
        elapsedMs := state.elapsedMs seen.now }
    reader :=
      { workers := state.controls.readerWorkers
        pool := seen.readerPool
        readBatchSize := state.controls.readBatchSize
        readTps := seen.reader.readTPS
        rowsRead := seen.reader.rowsRead
        sourceDirectory :=
          String.ofList (readerSourceDirectory state.config.source.path.toList)
        sourceError := state.run.sourceError }
    throttler :=
      { requestedTps := state.controls.requestedTPS
        admittedTps := seen.senderChannel.sentTransactionsPerSecond
        installed := state.controls.installed }
    sender :=
      { workers := state.controls.senderWorkers
        pool := seen.senderPool }
    readerChannel := { seen.readerChannel with
      capacity := if atRest then state.controls.readerChannelCapacity
        else seen.readerChannel.capacity }
    senderChannel := { seen.senderChannel with
      capacity := if atRest then state.controls.senderChannelCapacity
        else seen.senderChannel.capacity }
    config := runtimeConfigStatusFromConfig state.config }

/-- **`runtimeStatusAt`**: while paused the status kept, brought up to date with what
may change while paused; otherwise the live status. -/
def ControlState.runtimeStatusAt (state : ControlState) (seen : Seen) : RuntimeStatus :=
  match state.run.state, state.run.pausedStatus with
  | .paused, some status =>
    { status with
      run := { status.run with state := .paused }
      reader := { status.reader with
        sourceError := state.run.sourceError
        workers := state.controls.readerWorkers
        readBatchSize := state.controls.readBatchSize }
      sender := { status.sender with workers := state.controls.senderWorkers }
      throttler := { status.throttler with
        requestedTps := state.controls.requestedTPS
        installed := state.controls.installed } }
  | _, _ => state.liveStatus seen

/-! ### The runtime -/

/-- One of the two channels. -/
inductive ChannelName
  | reader
  | sender
  deriving DecidableEq, Repr

/-- The telemetry of a channel. -/
def Memory.channel (sh : Memory) : ChannelName → ChannelTelemetry
  | .reader => sh.readerChannel
  | .sender => sh.senderChannel

/-- Change the telemetry of a channel. -/
def Memory.setChannel (sh : Memory) : ChannelName → ChannelTelemetry → Memory
  | .reader, q => { sh with readerChannel := q }
  | .sender, q => { sh with senderChannel := q }

/-- A channel of a pipeline. -/
def Pipeline.channel (q : Pipeline) : ChannelName → Chan Batch
  | .reader => q.readerBatches
  | .sender => q.senderBatches

/-- Change a channel of a pipeline. -/
def Pipeline.setChannel (q : Pipeline) : ChannelName → Chan Batch → Pipeline
  | .reader, c => { q with readerBatches := c }
  | .sender, c => { q with senderBatches := c }

/-- The end of a wait for the workers `reconcile` has drained: none is waited for. -/
def Pipeline.awaitReconciled (q : Pipeline) : Pipeline :=
  { q with senderPool := q.senderPool.map fun p => { p with joining := [] } }

/-- How many transactions the sender pool of a pipeline has counted as delivered. -/
def Pipeline.counted (q : Pipeline) : ℕ := q.senderPool.elim 0 SenderPool.counted

/-- **What the runtime points to** (`pipelineRuntime`), each by the number of the run
it belongs to. -/
structure Runtime where
  readerBatches : Option ℕ := none
  senderBatches : Option ℕ := none
  senderPool : Option ℕ := none
  cancelRun : Option ℕ := none
  throttler : Option ℕ := none
  readerPool : Option ℕ := none
  deriving DecidableEq, Repr

/-- The pointer to a channel. -/
def Runtime.channel (r : Runtime) : ChannelName → Option ℕ
  | .reader => r.readerBatches
  | .sender => r.senderBatches

/-- Forget a channel. -/
def Runtime.dropChannel (r : Runtime) : ChannelName → Runtime
  | .reader => { r with readerBatches := none }
  | .sender => { r with senderBatches := none }

/-- The runtime points to a component of a run. -/
def Runtime.PointsTo (r : Runtime) (i : ℕ) : Prop :=
  i ∈ r.readerBatches ∨ i ∈ r.senderBatches ∨ i ∈ r.senderPool ∨ i ∈ r.cancelRun ∨
    i ∈ r.throttler ∨ i ∈ r.readerPool

/-! ### Statements -/

/-- What the event loop answers. -/
inductive Response
  | status (status : RuntimeStatus)
  | accepted
  | rejected
  | failed (error : ReaderSourceError)
  deriving DecidableEq, Repr

/-- **A statement of the event loop.** -/
inductive Stmt
  -- the clock, the telemetry, the counter of completions
  | readClock
  | startReaderInterval
  | resumeReaderInterval
  | sampleReader (now : ℕ)
  | resetReader
  | startChannel (c : ChannelName)
  | clearMeasurements (c : ChannelName)
  | startInterval (c : ChannelName)
  | sampleChannel (c : ChannelName)
  | detach (c : ChannelName)
  | collectCompleted
  | storeZero
  -- what `runtimeStatusAt` reads
  | seeReader
  | seeReaderPool
  | seeSenderPool
  | seeChannel (c : ChannelName)
  -- what the event loop alone knows
  | setReadBatchSize (value : ℤ)
  | setReaderWorkers (value : ℤ)
  | setCapacity (c : ChannelName) (value : ℤ)
  | setRequestedTPS (value : ℤ)
  | setInstalled (installed : Bool)
  | setSenderWorkers (value : ℤ)
  | setTargetTPS
  | setActualTPS
  | zeroActualTPS
  | setNextSummary (now : ℕ)
  | runStarted
  | faultStart (error : ReaderSourceError)
  | enterPaused
  | enterFaulted (error : ReaderSourceError)
  | beginReset
  | completeReset
  | clearPausedStatus
  | zeroProgress
  -- the runtime
  | makeRun
  | startReaderPool (files : List Path)
  | startThrottler
  | startSender
  | reconcileReader
  | reconcileSender
  | awaitReconciled
  | callSender (a : SenderPool.Action)
  | offerSettings
  | awaitUpdate
  | joinSender
  | cancelRun
  | forgetRun
  | joinReader
  | joinThrottler
  | closeAndDrain (c : ChannelName)
  | clearActive
  -- answers, and the end
  | respond (response : Response)
  | respondStatus
  | exit
  deriving DecidableEq

/-! ### The service -/

/-- **The service**: the shared memory, the state of the event loop, and the pipelines
of all runs so far.

Two fields are not in the source and only observe it: what the event loop has
answered, and how many transactions had been counted as delivered when the progress
was last reset. -/
structure Service where
  memory : Memory
  rootCancelled : Bool
  control : ControlState
  prom : PrometheusMetrics
  runtime : Runtime
  runs : ℕ
  pipeline : ℕ → Pipeline
  seen : Seen
  delta : ℕ
  nextRuntimeSummaryAt : ℕ
  todo : List Stmt
  exited : Bool
  responses : List Response
  countedAtReset : ℕ

/-- `runtimeSummaryInterval`. -/
def runtimeSummaryInterval : ℕ := 60000000000

/-- The service when its event loop starts, at a time. -/
def newService (cfg : Config) (now : ℕ) : Service where
  memory := { now := now }
  rootCancelled := false
  control := newControlState cfg
  prom := { targetTPS := cfg.throttler.requestedTPS.initial }
  runtime := {}
  runs := 0
  pipeline := fun _ => {}
  seen := {}
  delta := 0
  nextRuntimeSummaryAt := now + runtimeSummaryInterval
  todo := []
  exited := false
  responses := []
  countedAtReset := 0

namespace Service

/-- How many transactions have been counted as delivered since the process started. -/
def counted (s : Service) : ℕ := ∑ i ∈ Finset.range s.runs, (s.pipeline i).counted

/-- Change the pipeline a pointer leads to, if there is one. -/
def onPipeline (s : Service) (run : Option ℕ) (f : Pipeline → Pipeline) : Service :=
  match run with
  | none => s
  | some i => { s with pipeline := update s.pipeline i (f (s.pipeline i)) }

/-- Change the control state of the run. -/
def onRun (s : Service) (f : ControlRunState → ControlRunState) : Service :=
  { s with control := { s.control with run := f s.control.run } }

/-- Change the controls. -/
def onControls (s : Service) (f : ConfiguredControls → ConfiguredControls) : Service :=
  { s with control := { s.control with controls := f s.control.controls } }

/-- Change the telemetry of a channel. -/
def onChannel (s : Service) (c : ChannelName) (f : ChannelTelemetry → ChannelTelemetry) : Service :=
  { s with memory := s.memory.setChannel c (f (s.memory.channel c)) }

/-- A channel snapshot, with the capacity and the depth of the channel the telemetry is
attached to. -/
def channelSnapshot (s : Service) (c : ChannelName) : ChannelMeasurements :=
  let q := s.memory.channel c
  q.snapshot (q.batches.map fun i =>
    (((s.pipeline i).channel c).capacity, ((s.pipeline i).channel c).buffer.length)) s.seen.now

/-- **When a statement may be executed**: a wait when what it waits for has happened, a
call when the component can take it. Without a component nothing is waited for. -/
def Ready (s : Service) : Stmt → Prop
  | .reconcileReader => ∀ i ∈ s.runtime.readerPool, ∀ p ∈ (s.pipeline i).readerPool,
      p.Enabled s.memory (.reconcile s.control.controls.readerWorkers.toNat)
  | .reconcileSender => ∀ i ∈ s.runtime.senderPool, ∀ p ∈ (s.pipeline i).senderPool,
      p.Enabled s.memory.now (.reconcile s.control.controls.senderWorkers.toNat)
  | .callSender a => ∀ i ∈ s.runtime.senderPool, ∀ p ∈ (s.pipeline i).senderPool,
      p.Enabled s.memory.now a
  | .awaitReconciled => ∀ i ∈ s.runtime.senderPool, ∀ p ∈ (s.pipeline i).senderPool,
      ∀ w ∈ p.joining, (p.worker w).done = true
  | .offerSettings => ∀ i ∈ s.runtime.throttler, ∀ t ∈ (s.pipeline i).throttler,
      t.updating = none
  | .awaitUpdate => ∀ i ∈ s.runtime.throttler, ∀ t ∈ (s.pipeline i).throttler,
      t.updating = none ∨ t.pc = .exited
  | .joinSender => ∀ i ∈ s.runtime.senderPool, ∀ p ∈ (s.pipeline i).senderPool, p.stop = .joined
  | .joinReader => ∀ i ∈ s.runtime.readerPool, ∀ p ∈ (s.pipeline i).readerPool,
      p.watcher = .closed
  | .joinThrottler => ∀ i ∈ s.runtime.throttler, ∀ t ∈ (s.pipeline i).throttler, t.pc = .exited
  | _ => True

instance (s : Service) (i : Stmt) : Decidable (s.Ready i) := by
  cases i <;> dsimp only [Ready] <;> infer_instance

/-- **What a statement does.** -/
def exec (s : Service) : Stmt → Service
  | .readClock => { s with seen := { s.seen with now := s.memory.now } }
  | .startReaderInterval =>
      { s with memory := { s.memory with reader := s.memory.reader.startInterval s.memory.now } }
  | .resumeReaderInterval =>
      { s with memory := { s.memory with
          reader := { s.memory.reader with
            intervalAt := s.control.run.runStartedAt
            intervalRows := s.memory.reader.rowsRead
            readTPS := 0 } } }
  | .sampleReader now => { s with memory := { s.memory with reader := s.memory.reader.sample now } }
  | .resetReader => { s with memory := { s.memory with reader := s.memory.reader.reset } }
  | .startChannel c =>
      match s.runtime.channel c with
      | none => s
      | some i => s.onChannel c (·.start i s.control.controls.readBatchSize)
  | .clearMeasurements c => s.onChannel c ChannelTelemetry.clearMeasurements
  | .startInterval c => s.onChannel c ChannelTelemetry.startInterval
  | .sampleChannel c => s.onChannel c (·.sample s.control.metricsWindow)
  | .detach c => s.onChannel c ChannelTelemetry.detach
  | .collectCompleted =>
      let delta := s.memory.terminallyCompletedTransactionsSinceTick
      { s.onRun (fun run => { run with totalTransactions := run.totalTransactions + delta }) with
        memory := { s.memory with terminallyCompletedTransactionsSinceTick := 0 }
        prom := { s.prom with transactionsTotal := s.prom.transactionsTotal + delta }
        delta := delta }
  | .storeZero =>
      { s with memory := { s.memory with terminallyCompletedTransactionsSinceTick := 0 } }
  | .seeReader => { s with seen := { s.seen with reader := s.memory.reader } }
  | .seeReaderPool =>
      { s with seen := { s.seen with readerPool :=
          ((s.runtime.readerPool.bind fun i => (s.pipeline i).readerPool).map
            ReaderPool.aggregateSnapshot).getD {} } }
  | .seeSenderPool =>
      { s with seen := { s.seen with senderPool :=
          ((s.runtime.senderPool.bind fun i => (s.pipeline i).senderPool).map
            SenderPool.aggregateSnapshot).getD {} } }
  | .seeChannel .reader =>
      { s with seen := { s.seen with readerChannel := s.channelSnapshot .reader } }
  | .seeChannel .sender =>
      { s with seen := { s.seen with senderChannel := s.channelSnapshot .sender } }
  | .setReadBatchSize value => s.onControls fun controls => { controls with readBatchSize := value }
  | .setReaderWorkers value => s.onControls fun controls => { controls with readerWorkers := value }
  | .setCapacity .reader value => s.onControls fun controls =>
      { controls with readerChannelCapacity := value }
  | .setCapacity .sender value => s.onControls fun controls =>
      { controls with senderChannelCapacity := value }
  | .setRequestedTPS value => s.onControls fun controls => { controls with requestedTPS := value }
  | .setInstalled installed => s.onControls fun controls => { controls with installed := installed }
  | .setSenderWorkers value => s.onControls fun controls => { controls with senderWorkers := value }
  | .setTargetTPS => { s with prom := { s.prom with targetTPS := s.control.controls.requestedTPS } }
  | .setActualTPS =>
      { s with prom := { s.prom with actualTPS := s.delta / seconds s.control.metricsWindow } }
  | .zeroActualTPS => { s with prom := { s.prom with actualTPS := 0 } }
  | .setNextSummary now => { s with nextRuntimeSummaryAt := now + runtimeSummaryInterval }
  | .runStarted => s.onRun fun run =>
      { run with state := .running, runStartedAt := some s.memory.now }
  | .faultStart error => s.onRun fun run => { run with state := .faulted, sourceError := some error }
  | .enterPaused => s.onRun fun run =>
      { ControlState.pauseElapsed run s.seen.now with
        pausedStatus := some (s.control.runtimeStatusAt s.seen)
        state := .paused }
  | .enterFaulted error => s.onRun fun run =>
      { ControlState.pauseElapsed run s.memory.now with
        state := .faulted
        sourceError := some error }
  | .beginReset => s.onRun fun run => { run with state := .resetting }
  | .completeReset => s.onRun fun run => { run with state := .idle }
  | .clearPausedStatus => s.onRun fun run => { run with pausedStatus := none }
  | .zeroProgress =>
      { s.onRun (fun run => { run with
          totalTransactions := 0
          elapsedBeforeRun := 0
          runStartedAt := none
          sourceError := none
          pausedStatus := none }) with
        countedAtReset := s.counted }
  | .makeRun =>
      { s with
        runtime := { s.runtime with
          cancelRun := some s.runs
          readerBatches := some s.runs
          senderBatches := some s.runs }
        pipeline := update s.pipeline s.runs
          { readerBatches := Chan.make s.control.controls.readerChannelCapacity.toNat
            senderBatches := Chan.make s.control.controls.senderChannelCapacity.toNat }
        runs := s.runs + 1 }
  | .startReaderPool files =>
      { s.onPipeline s.runtime.readerBatches (fun q => { q with
          readerPool := some (ReaderPool.start s.control.config.source.path.toList
            s.control.controls.readBatchSize.toNat s.control.controls.readerWorkers.toNat files) })
        with runtime := { s.runtime with readerPool := s.runtime.readerBatches } }
  | .startThrottler =>
      { s.onPipeline s.runtime.readerBatches
          (fun q => { q with throttler := some (Throttler.start s.control.throttlerSettings) }) with
        runtime := { s.runtime with throttler := s.runtime.readerBatches } }
  | .startSender =>
      { s.onPipeline s.runtime.senderBatches (fun q => { q with
          senderPool := some (SenderPool.startSenderPool s.control.config.sender.retry
            s.control.controls.senderWorkers.toNat) }) with
        runtime := { s.runtime with senderPool := s.runtime.senderBatches } }
  | .reconcileReader => s.onPipeline s.runtime.readerPool
      (·.stepReader s.memory (.reconcile s.control.controls.readerWorkers.toNat))
  | .reconcileSender => s.onPipeline s.runtime.senderPool
      (·.stepSender s.memory (.reconcile s.control.controls.senderWorkers.toNat))
  | .callSender a => s.onPipeline s.runtime.senderPool (·.stepSender s.memory a)
  | .awaitReconciled => s.onPipeline s.runtime.senderPool Pipeline.awaitReconciled
  | .offerSettings => s.onPipeline s.runtime.throttler
      (·.stepThrottler s.memory (.offer s.control.throttlerSettings))
  | .awaitUpdate => s.onPipeline s.runtime.throttler (·.stepThrottler s.memory .offerDropped)
  | .joinSender => { s with runtime := { s.runtime with senderPool := none } }
  | .cancelRun => s.onPipeline s.runtime.cancelRun fun q => { q with runCancelled := true }
  | .forgetRun => { s with runtime := { s.runtime with cancelRun := none } }
  | .joinReader => s
  | .joinThrottler => s
  | .closeAndDrain c =>
      { s.onPipeline (s.runtime.channel c) (fun q => q.setChannel c (q.channel c).close.drain) with
        runtime := s.runtime.dropChannel c }
  | .clearActive => { s with runtime := { s.runtime with
      cancelRun := none, readerPool := none, throttler := none } }
  | .respond response => { s with responses := s.responses ++ [response] }
  | .respondStatus =>
      { s with responses := s.responses ++ [.status (s.control.runtimeStatusAt s.seen)] }
  | .exit => { s with exited := true }

/-! ### Programs -/

/-- The readings of `runtimeStatusAt`, which makes none while paused. -/
def snapshots : List Stmt :=
  [.seeReader, .seeReaderPool, .seeSenderPool, .seeChannel .reader, .seeChannel .sender]

/-- The readings of `runtimeStatusAt` at the present time, none while paused. -/
def statusReadings (state : ControlState) : List Stmt :=
  if state.run.state = .paused then [] else .readClock :: snapshots

/-- **`pipelineRuntime.stop`.** -/
def stop : List Stmt :=
  [.callSender .stopCancel, .callSender .stopLock, .callSender .stopMark, .callSender .stopReturn,
    .joinSender, .cancelRun, .joinReader, .joinThrottler, .closeAndDrain .reader,
    .closeAndDrain .sender, .detach .reader, .detach .sender, .clearActive]

/-- `resetProgress`. -/
def resetProgress : List Stmt :=
  [.collectCompleted, .resetReader, .clearMeasurements .reader, .clearMeasurements .sender,
    .storeZero, .zeroProgress, .zeroActualTPS]

/-- `resetFaultedMeasurements`. -/
def resetFaultedMeasurements : List Stmt :=
  [.collectCompleted, .clearPausedStatus, .resetReader, .clearMeasurements .reader,
    .clearMeasurements .sender, .storeZero, .zeroActualTPS]

/-- The first half of `pipelineRuntime.start`. -/
def prepareRun : List Stmt :=
  [.startReaderInterval, .makeRun, .startChannel .reader, .clearMeasurements .reader,
    .startChannel .sender, .clearMeasurements .sender]

/-- **`cmdRun` in the idle state**: `pipelineRuntime.start`, and either the run or what
is left when the reader pool does not start. -/
def startRun (state : ControlState) (glob : Except String (List Path)) : List Stmt :=
  match ReaderPool.sourceFiles state.config.source.path.toList glob with
  | .error error => prepareRun ++
      [.cancelRun, .forgetRun, .closeAndDrain .reader, .detach .reader, .closeAndDrain .sender,
        .detach .sender, .resetReader, .faultStart error, .respond (.failed error)]
  | .ok files => prepareRun ++
      [.startReaderPool files, .startThrottler, .runStarted, .startSender, .respond .accepted]

/-- `cmdRun` in the paused state. -/
def resumeRun : List Stmt :=
  [.runStarted, .collectCompleted, .clearPausedStatus, .resumeReaderInterval,
    .startInterval .reader, .startInterval .sender, .zeroActualTPS, .callSender .resumeRun,
    .respond .accepted]

/-- **A command** (`runtimeCommand`). A start comes with what the file system answers. -/
inductive Command
  | getRuntimeStatus
  | run (glob : Except String (List Path))
  | pause
  | reset
  | setReadBatchSize (value : ℤ)
  | setReaderWorkers (value : ℤ)
  | setReaderChannelCapacity (value : ℤ)
  | setSenderChannelCapacity (value : ℤ)
  | setRequestedTPS (value : ℤ)
  | setThrottlerInstalled (installed : Bool)
  | setSenderWorkers (value : ℤ)

/-- **What a command does**, given the control state it finds. -/
def handle (state : ControlState) : Command → List Stmt
  | .getRuntimeStatus => statusReadings state ++ [.respondStatus]
  | .run glob =>
      match state.run.state with
      | .idle => startRun state glob
      | .faulted => [.respond .rejected]
      | .paused => resumeRun
      | .running | .resetting => [.respond .accepted]
  | .pause =>
      if state.run.state ≠ .running then []
      else [.callSender .pause, .readClock, .collectCompleted] ++ snapshots ++ [.enterPaused]
  | .reset =>
      match state.run.state with
      | .paused | .faulted =>
        .beginReset :: stop ++ resetProgress ++ [.completeReset, .respond .accepted]
      | .idle => resetProgress ++ [.respond .accepted]
      | .running | .resetting => [.respond .rejected]
  | .setReadBatchSize value =>
      if state.run.state ≠ .idle ∨ !state.config.reader.readBatchSize.contains value then
        [.respond .rejected]
      else [.setReadBatchSize value, .respond .accepted]
  | .setReaderWorkers value =>
      if !state.config.reader.workers.contains value then [.respond .rejected]
      else [.setReaderWorkers value, .reconcileReader, .respond .accepted]
  | .setReaderChannelCapacity value =>
      if state.run.state ≠ .idle ∨ !state.config.readerChannel.capacity.contains value then
        [.respond .rejected]
      else [.setCapacity .reader value, .respond .accepted]
  | .setSenderChannelCapacity value =>
      if state.run.state ≠ .idle ∨ !state.config.senderChannel.capacity.contains value then
        [.respond .rejected]
      else [.setCapacity .sender value, .respond .accepted]
  | .setRequestedTPS value =>
      if !state.config.throttler.requestedTPS.contains value then [.respond .rejected]
      else if state.controls.requestedTPS ≠ value then
        [.setRequestedTPS value, .setTargetTPS, .offerSettings, .awaitUpdate, .respond .accepted]
      else [.respond .accepted]
  | .setThrottlerInstalled installed =>
      if !state.config.throttler.installed.contains installed then [.respond .rejected]
      else if state.controls.installed ≠ installed then
        [.setInstalled installed, .offerSettings, .awaitUpdate, .respond .accepted]
      else [.respond .accepted]
  | .setSenderWorkers value =>
      if !state.config.sender.workers.contains value then [.respond .rejected]
      else [.setSenderWorkers value, .reconcileSender, .awaitReconciled, .respond .accepted]

/-- **What the event loop waits for.** -/
inductive Event
  | done
  | requestsClosed
  | command (c : Command)
  | sourceError (error : ReaderSourceError)
  | tick (now : ℕ)

/-- When an event may be taken: the context is done when it is cancelled, the error
channel of the reader pool holds an error, a tick bears a time that has passed. -/
def Event.Enabled (s : Service) : Event → Prop
  | .done => s.rootCancelled = true
  | .requestsClosed => True
  | .command _ => True
  | .sourceError error => ∃ i ∈ s.runtime.readerPool, ∃ p ∈ (s.pipeline i).readerPool,
      p.sourceErrors = some error
  | .tick now => now ≤ s.memory.now

instance (s : Service) (e : Event) : Decidable (e.Enabled s) := by
  cases e <;> dsimp only [Event.Enabled] <;> infer_instance

/-- **The program an event starts.** The last one is that of the deferred function. -/
def program (s : Service) : Event → List Stmt
  | .done | .requestsClosed => stop ++ [.collectCompleted, .exit]
  | .command c => handle s.control c
  | .sourceError error =>
      match s.control.run.state.fault with
      | none => []
      | some _ => .enterFaulted error :: stop ++ resetFaultedMeasurements
  | .tick now => .collectCompleted ::
      (if s.control.run.state = .paused then []
        else [.sampleReader now, .sampleChannel .reader, .sampleChannel .sender, .setActualTPS]) ++
      (if now < s.nextRuntimeSummaryAt then [] else [.setNextSummary now])

/-- Taking an event: an error is taken out of its channel. -/
def take (s : Service) (e : Event) : Service :=
  { (match e with
      | .sourceError error =>
        s.onPipeline s.runtime.readerPool (·.stepReader s.memory (.receiveError error))
      | _ => s) with
    todo := s.program e }

/-! ### The machine -/

/-- **What may happen next**: time passes, the root context is cancelled, the event
loop takes an event or executes a statement, a goroutine of a pipeline acts. -/
inductive Action
  | clock (now : ℕ)
  | cancelRoot
  | event (e : Event)
  | exec
  | pipeline (run : ℕ) (a : Pipeline.Action)

/-- **The service as a machine.** -/
def machine : Machine Service Action where
  Enabled s
    | .clock now => s.memory.now ≤ now
    | .cancelRoot => True
    | .event e => s.todo = [] ∧ s.exited = false ∧ e.Enabled s
    | .exec => ∃ i ∈ s.todo.head?, s.Ready i
    | .pipeline run a => run < s.runs ∧ (s.pipeline run).Enabled s.rootCancelled s.memory a
  next s
    | .clock now => { s with memory := { s.memory with now := now } }
    | .cancelRoot => { s with rootCancelled := true }
    | .event e => s.take e
    | .exec =>
      match s.todo with
      | [] => s
      | i :: rest => { s.exec i with todo := rest }
    | .pipeline run a =>
      { s with
        memory := Pipeline.remember s.memory a
        pipeline := update s.pipeline run ((s.pipeline run).next s.memory a) }

instance (s : Service) (a : Action) : Decidable (machine.Enabled s a) :=
  match a with
  | .clock now => inferInstanceAs (Decidable (s.memory.now ≤ now))
  | .cancelRoot => .isTrue trivial
  | .event e => inferInstanceAs (Decidable (s.todo = [] ∧ s.exited = false ∧ e.Enabled s))
  | .exec => inferInstanceAs (Decidable (∃ i ∈ s.todo.head?, s.Ready i))
  | .pipeline run a => inferInstanceAs
      (Decidable (run < s.runs ∧ (s.pipeline run).Enabled s.rootCancelled s.memory a))

/-! ### A run is started -/

/-- Some statements of the event loop. -/
def execs (n : ℕ) : List Action := List.replicate n .exec

/-- One sender worker instead of 32, and a run over one file. -/
def startedRun : List Action := List.flatten
  [[.event (.command (.setSenderWorkers 1))], execs 4,
    [.event (.command (.run (.ok ["/data/a.parquet".toList])))], execs 11]

end Service

end IngestionLab
