import IngestionLab.Loadgen.EventLoop

/-!
# The programs of the event loop

The programs the event loop executes, each with the run state it is started in and what has
been checked of the value it stores (`IngestionLab.Service.Program`).

* `IngestionLab.Service.program_cases`: **every event starts one of these**, so that what
  holds of all programs is shown program by program.
-/

namespace IngestionLab

namespace Service

/-- The program of a pause. -/
def pauseRun : List Stmt :=
  [.callSender .pause, .readClock, .collectCompleted] ++ snapshots ++ [.enterPaused]

/-- **A program of the event loop**, started in a run state under a configuration. -/
inductive Program (cfg : Config) : RunState → List Stmt → Prop
  | exit {state : RunState} : Program cfg state (stop ++ [.collectCompleted, .exit])
  | nothing {state : RunState} : Program cfg state []
  | fault (error : ReaderSourceError) :
      Program cfg .running (.enterFaulted error :: stop ++ resetFaultedMeasurements)
  | faultPaused (error : ReaderSourceError) :
      Program cfg .paused (.enterFaulted error :: stop ++ resetFaultedMeasurements)
  | tick {state : RunState} (now : ℕ) (moving : state ≠ .paused) :
      Program cfg state [.collectCompleted, .sampleReader now, .sampleChannel .reader,
        .sampleChannel .sender, .setActualTPS]
  | tickSummary {state : RunState} (now : ℕ) (moving : state ≠ .paused) :
      Program cfg state [.collectCompleted, .sampleReader now, .sampleChannel .reader,
        .sampleChannel .sender, .setActualTPS, .setNextSummary now]
  | tickPaused : Program cfg .paused [.collectCompleted]
  | tickPausedSummary (now : ℕ) : Program cfg .paused [.collectCompleted, .setNextSummary now]
  | status {state : RunState} (moving : state ≠ .paused) :
      Program cfg state (.readClock :: snapshots ++ [.respondStatus])
  | statusPaused : Program cfg .paused [.respondStatus]
  | failStart (error : ReaderSourceError) :
      Program cfg .idle (prepareRun ++
        [.cancelRun, .forgetRun, .closeAndDrain .reader, .detach .reader, .closeAndDrain .sender,
          .detach .sender, .resetReader, .faultStart error, .respond (.failed error)])
  | start (files : List Go.Path) :
      Program cfg .idle (prepareRun ++
        [.startReaderPool files, .startThrottler, .runStarted, .startSender, .respond .accepted])
  | resume : Program cfg .paused resumeRun
  | pause : Program cfg .running pauseRun
  | reset : Program cfg .paused
      (.beginReset :: stop ++ resetProgress ++ [.completeReset, .respond .accepted])
  | resetFaulted : Program cfg .faulted
      (.beginReset :: stop ++ resetProgress ++ [.completeReset, .respond .accepted])
  | resetIdle : Program cfg .idle (resetProgress ++ [.respond .accepted])
  | reject {state : RunState} : Program cfg state [.respond .rejected]
  | accept {state : RunState} : Program cfg state [.respond .accepted]
  | setReadBatchSize (value : ℤ) (contains : cfg.reader.readBatchSize.contains value = true) :
      Program cfg .idle [.setReadBatchSize value, .respond .accepted]
  | setReaderWorkers {state : RunState} (value : ℤ)
      (contains : cfg.reader.workers.contains value = true) :
      Program cfg state [.setReaderWorkers value, .reconcileReader, .respond .accepted]
  | setReaderCapacity (value : ℤ) (contains : cfg.readerChannel.capacity.contains value = true) :
      Program cfg .idle [.setCapacity .reader value, .respond .accepted]
  | setSenderCapacity (value : ℤ) (contains : cfg.senderChannel.capacity.contains value = true) :
      Program cfg .idle [.setCapacity .sender value, .respond .accepted]
  | setRequestedTPS {state : RunState} (value : ℤ)
      (contains : cfg.throttler.requestedTPS.contains value = true) :
      Program cfg state
        [.setRequestedTPS value, .setTargetTPS, .offerSettings, .awaitUpdate, .respond .accepted]
  | setInstalled {state : RunState} (installed : Bool)
      (contains : cfg.throttler.installed.contains installed = true) :
      Program cfg state [.setInstalled installed, .offerSettings, .awaitUpdate, .respond .accepted]
  | setSenderWorkers {state : RunState} (value : ℤ)
      (contains : cfg.sender.workers.contains value = true) :
      Program cfg state
        [.setSenderWorkers value, .reconcileSender, .awaitReconciled, .respond .accepted]

/-- The program of a setting that is checked first. -/
theorem program_ite {cfg : Config} {state : RunState} {refused : Prop} [Decidable refused]
    {p : List Stmt} (h : ¬refused → Program cfg state p) :
    Program cfg state (if refused then [.respond .rejected] else p) := by
  split
  · exact .reject
  next hallowed => exact h hallowed

/-- **The programs of the event loop are these.** -/
theorem program_cases (s : Service) (e : Event) :
    Program s.control.config s.control.run.state (s.program e) := by
  cases e with
  | done => exact .exit
  | requestsClosed => exact .exit
  | sourceError error =>
    cases hstate : s.control.run.state <;> simp only [program, hstate, RunState.fault]
    case running => exact .fault error
    case paused => exact .faultPaused error
    all_goals exact .nothing
  | tick now =>
    rw [program]
    split <;> split
    next hpaused _ => exact hpaused ▸ .tickPaused
    next hpaused _ => exact hpaused ▸ .tickPausedSummary now
    next hmoving _ => exact .tick now hmoving
    next hmoving _ => exact .tickSummary now hmoving
  | command c =>
    change Program s.control.config s.control.run.state (handle s.control c)
    cases c with
    | getRuntimeStatus =>
      rw [handle, statusReadings]
      split
      next hpaused => exact hpaused ▸ .statusPaused
      next hmoving => exact .status hmoving
    | run glob =>
      cases hstate : s.control.run.state <;> simp only [handle, hstate]
      case idle =>
        rw [startRun]
        split
        · exact .failStart _
        · exact .start _
      case faulted => exact .reject
      case paused => exact .resume
      all_goals exact .accept
    | pause =>
      rw [handle]
      split
      · exact .nothing
      next hrunning => exact not_not.mp hrunning ▸ .pause
    | reset =>
      cases hstate : s.control.run.state <;> simp only [handle, hstate]
      case paused => exact .reset
      case faulted => exact .resetFaulted
      case idle => exact .resetIdle
      all_goals exact .reject
    | setReadBatchSize value =>
      refine program_ite fun hallowed => ?_
      rw [not_or, not_not, Bool.not_eq_true', Bool.not_eq_false] at hallowed
      exact hallowed.1 ▸ .setReadBatchSize value hallowed.2
    | setReaderWorkers value =>
      refine program_ite fun hallowed => ?_
      rw [Bool.not_eq_true', Bool.not_eq_false] at hallowed
      exact .setReaderWorkers value hallowed
    | setReaderChannelCapacity value =>
      refine program_ite fun hallowed => ?_
      rw [not_or, not_not, Bool.not_eq_true', Bool.not_eq_false] at hallowed
      exact hallowed.1 ▸ .setReaderCapacity value hallowed.2
    | setSenderChannelCapacity value =>
      refine program_ite fun hallowed => ?_
      rw [not_or, not_not, Bool.not_eq_true', Bool.not_eq_false] at hallowed
      exact hallowed.1 ▸ .setSenderCapacity value hallowed.2
    | setRequestedTPS value =>
      refine program_ite fun hallowed => ?_
      rw [Bool.not_eq_true', Bool.not_eq_false] at hallowed
      split
      · exact .setRequestedTPS value hallowed
      · exact .accept
    | setThrottlerInstalled installed =>
      refine program_ite fun hallowed => ?_
      rw [Bool.not_eq_true', Bool.not_eq_false] at hallowed
      split
      · exact .setInstalled installed hallowed
      · exact .accept
    | setSenderWorkers value =>
      refine program_ite fun hallowed => ?_
      rw [Bool.not_eq_true', Bool.not_eq_false] at hallowed
      exact .setSenderWorkers value hallowed

end Service

end IngestionLab
