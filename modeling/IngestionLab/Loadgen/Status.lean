import IngestionLab.Loadgen.Config
import IngestionLab.Loadgen.ReaderPool
import IngestionLab.Loadgen.SenderPool

/-!
# Snapshots and the runtime status

What the event loop reports: the snapshot of either pool, taken in one section under
the pool's mutex (`IngestionLab.ReaderPool.aggregateSnapshot`,
`IngestionLab.SenderPool.aggregateSnapshot`), and the record of `runtime_status.go`
that it puts together from them, from the telemetry and from the controls.

A snapshot counts every registered worker once, under exactly one heading, and the
draining ones once more: the headings add up to the live workers, the draining
headings to the draining workers, and no draining heading exceeds its own
(`IngestionLab.ReaderPool.aggregateSnapshot_adds_up`,
`IngestionLab.SenderPool.aggregateSnapshot_adds_up`).
-/

namespace IngestionLab

/-! ### The run state -/

/-- `runState`. -/
inductive RunState
  | idle
  | running
  | paused
  | faulted
  | resetting
  deriving DecidableEq, Repr

namespace RunState

/-- The text of a state. -/
def text : RunState → String
  | idle => "idle"
  | running => "running"
  | paused => "paused"
  | faulted => "faulted"
  | resetting => "resetting"

/-- `run`: the state it leads to, `none` where it is refused. -/
def run : RunState → Option RunState
  | idle | paused => some running
  | running | faulted | resetting => none

/-- `pause`. -/
def pause : RunState → Option RunState
  | running => some paused
  | idle | paused | faulted | resetting => none

/-- `reset`. -/
def reset : RunState → Option RunState
  | paused | faulted => some resetting
  | idle | running | resetting => none

/-- `fault`. -/
def fault : RunState → Option RunState
  | running | paused => some faulted
  | idle | faulted | resetting => none

/-- `faultStart`. -/
def faultStart : RunState → Option RunState
  | idle => some faulted
  | running | paused | faulted | resetting => none

/-- `completeReset`. -/
def completeReset : RunState → Option RunState
  | resetting => some idle
  | idle | running | paused | faulted => none

/-- A run is on: its components exist. -/
def isActive : RunState → Bool
  | running | paused => true
  | idle | faulted | resetting => false

end RunState

/-! ### Snapshots of the pools -/

/-- `readerPoolSnapshot`. -/
structure ReaderPoolSnapshot where
  liveWorkers : ℕ := 0
  idleWorkers : ℕ := 0
  readingWorkers : ℕ := 0
  blockedWorkers : ℕ := 0
  drainingWorkers : ℕ := 0
  drainingIdleWorkers : ℕ := 0
  drainingReadingWorkers : ℕ := 0
  drainingBlockedWorkers : ℕ := 0
  deriving DecidableEq, Repr

/-- `senderPoolSnapshot`. -/
structure SenderPoolSnapshot where
  liveWorkers : ℕ := 0
  idleWorkers : ℕ := 0
  inFlightWorkers : ℕ := 0
  backoffWorkers : ℕ := 0
  drainingWorkers : ℕ := 0
  drainingIdleWorkers : ℕ := 0
  drainingInFlightWorkers : ℕ := 0
  drainingBackoffWorkers : ℕ := 0
  deriving DecidableEq, Repr

/-- `readerPool.aggregateSnapshot`. -/
def ReaderPool.aggregateSnapshot (p : ReaderPool) : ReaderPoolSnapshot :=
  let count := fun test : ReaderWorker → Bool => Cells.count test p.worker p.workers
  { liveWorkers := p.workers.length
    idleWorkers := count fun c => !c.blocked && !c.busy
    readingWorkers := count fun c => !c.blocked && c.busy
    blockedWorkers := count fun c => c.blocked
    drainingWorkers := count fun c => c.draining
    drainingIdleWorkers := count fun c => !c.blocked && !c.busy && c.draining
    drainingReadingWorkers := count fun c => !c.blocked && c.busy && c.draining
    drainingBlockedWorkers := count fun c => c.blocked && c.draining }

/-- `senderPool.aggregateSnapshot`. -/
def SenderPool.aggregateSnapshot (p : SenderPool) : SenderPoolSnapshot :=
  let count := fun test : SenderWorker → Bool => Cells.count test p.worker p.workers
  { liveWorkers := p.workers.length
    idleWorkers := count fun c => !c.backoff && !c.busy
    inFlightWorkers := count fun c => !c.backoff && c.busy
    backoffWorkers := count fun c => c.backoff
    drainingWorkers := count fun c => c.draining
    drainingIdleWorkers := count fun c => !c.backoff && !c.busy && c.draining
    drainingInFlightWorkers := count fun c => !c.backoff && c.busy && c.draining
    drainingBackoffWorkers := count fun c => c.backoff && c.draining }

/-! ### The status -/

/-- `runtimeRunStatus`. -/
structure RuntimeRunStatus where
  state : RunState := .idle
  totalTransactions : ℤ := 0
  elapsedMs : ℤ := 0
  deriving DecidableEq, Repr

/-- `runtimeReaderStatus`. -/
structure RuntimeReaderStatus where
  workers : ℤ := 0
  pool : ReaderPoolSnapshot := {}
  readBatchSize : ℤ := 0
  readTps : ℚ := 0
  rowsRead : ℤ := 0
  sourceDirectory : String := ""
  sourceError : Option ReaderSourceError := none
  deriving DecidableEq, Repr

/-- `runtimeThrottlerStatus`. -/
structure RuntimeThrottlerStatus where
  requestedTps : ℤ := 0
  admittedTps : ℚ := 0
  installed : Bool := false
  deriving DecidableEq, Repr

/-- `runtimeSenderStatus`. -/
structure RuntimeSenderStatus where
  workers : ℤ := 0
  pool : SenderPoolSnapshot := {}
  deriving DecidableEq, Repr

/-- `runtimeConfigStatus`. The settings with bounds are repeated as the configuration
has them. -/
structure RuntimeConfigStatus where
  readerReadBatchSize : RangeConfig
  readerWorkers : RangeConfig
  readerChannelCapacity : AllowedConfig
  senderChannelCapacity : AllowedConfig
  throttlerRequestedTPS : RangeConfig
  throttlerInstalled : InstalledConfig
  metricsWindowMS : RangeConfig
  senderWorkers : RangeConfig
  logging : LoggingConfig
  deriving DecidableEq, Repr

/-- `runtimeStatus`. A channel is reported by its measurements. -/
structure RuntimeStatus where
  run : RuntimeRunStatus
  reader : RuntimeReaderStatus
  throttler : RuntimeThrottlerStatus
  sender : RuntimeSenderStatus
  readerChannel : ChannelMeasurements
  senderChannel : ChannelMeasurements
  config : RuntimeConfigStatus
  deriving DecidableEq, Repr

/-- `runtimeConfigStatusFromConfig`. -/
def runtimeConfigStatusFromConfig (config : Config) : RuntimeConfigStatus where
  readerReadBatchSize := config.reader.readBatchSize
  readerWorkers := config.reader.workers
  readerChannelCapacity := config.readerChannel.capacity
  senderChannelCapacity := config.senderChannel.capacity
  throttlerRequestedTPS := config.throttler.requestedTPS
  throttlerInstalled := config.throttler.installed
  metricsWindowMS := config.metrics.windowMS
  senderWorkers := config.sender.workers
  logging := config.logging

/-! ### What a snapshot counts -/

/-- **The numbers of a snapshot fit together**: live workers by heading, draining
workers by heading, and a draining heading within its own. -/
def ReaderPoolSnapshot.AddsUp (s : ReaderPoolSnapshot) : Prop :=
  s.idleWorkers + s.readingWorkers + s.blockedWorkers = s.liveWorkers ∧
    s.drainingIdleWorkers + s.drainingReadingWorkers + s.drainingBlockedWorkers =
      s.drainingWorkers ∧
    s.drainingIdleWorkers ≤ s.idleWorkers ∧ s.drainingReadingWorkers ≤ s.readingWorkers ∧
    s.drainingBlockedWorkers ≤ s.blockedWorkers

/-- The same for the sender pool. -/
def SenderPoolSnapshot.AddsUp (s : SenderPoolSnapshot) : Prop :=
  s.idleWorkers + s.inFlightWorkers + s.backoffWorkers = s.liveWorkers ∧
    s.drainingIdleWorkers + s.drainingInFlightWorkers + s.drainingBackoffWorkers =
      s.drainingWorkers ∧
    s.drainingIdleWorkers ≤ s.idleWorkers ∧ s.drainingInFlightWorkers ≤ s.inFlightWorkers ∧
    s.drainingBackoffWorkers ≤ s.backoffWorkers

section Headings

variable {γ : Type*} (cell : ℕ → γ) (ws : List ℕ) (special busy draining : γ → Bool)

/-- Three headings – special, busy but not special, neither – count everyone once. -/
theorem count_headings :
    Cells.count (fun c => !special c && !busy c) cell ws +
      Cells.count (fun c => !special c && busy c) cell ws +
      Cells.count (fun c => special c) cell ws = ws.length := by
  induction ws with
  | nil => rfl
  | cons w ws ih =>
    simp only [Cells.count_cons, List.length_cons]
    cases special (cell w) <;> cases busy (cell w) <;> simp <;> omega

/-- And so they do among the draining. -/
theorem count_draining_headings :
    Cells.count (fun c => !special c && !busy c && draining c) cell ws +
      Cells.count (fun c => !special c && busy c && draining c) cell ws +
      Cells.count (fun c => special c && draining c) cell ws =
        Cells.count (fun c => draining c) cell ws := by
  induction ws with
  | nil => rfl
  | cons w ws ih =>
    simp only [Cells.count_cons]
    cases special (cell w) <;> cases busy (cell w) <;> cases draining (cell w) <;> simp <;> omega

end Headings

/-- **A snapshot of the reader pool adds up.** -/
theorem ReaderPool.aggregateSnapshot_adds_up (p : ReaderPool) : p.aggregateSnapshot.AddsUp := by
  refine ⟨count_headings .., count_draining_headings .., ?_, ?_, ?_⟩
  all_goals
    dsimp only [aggregateSnapshot]
    refine Cells.count_mono fun c hc => ?_
    rw [Bool.and_eq_true] at hc
    exact hc.1

/-- **A snapshot of the sender pool adds up.** -/
theorem SenderPool.aggregateSnapshot_adds_up (p : SenderPool) : p.aggregateSnapshot.AddsUp := by
  refine ⟨count_headings .., count_draining_headings .., ?_, ?_, ?_⟩
  all_goals
    dsimp only [aggregateSnapshot]
    refine Cells.count_mono fun c hc => ?_
    rw [Bool.and_eq_true] at hc
    exact hc.1

end IngestionLab
