import IngestionLab.Loadgen.EventLoop.Shown
import IngestionLab.Loadgen.ReaderPool.SourceErrors

/-!
# What is reported

What a client can rely on in every status the service answers
(`IngestionLab.RuntimeStatus.InOrder`): the controls are allowed, the numbers of the pools
add up and are nothing where no run is on, no number is negative, the capacities are
allowed, and a source error is about a file the pattern of the configuration found
(`IngestionLab.Service.inOrder_of_leads`).

The last part rests on what is said from outside: the files a start finds are those of
`filepath.Glob`, and the operating system always says something
(`IngestionLab.Service.Action.Honest`).
-/

namespace IngestionLab

open Go Function

/-! ### What is said from outside -/

/-- What the operating system says in an action. -/
def Pipeline.Action.texts : Pipeline.Action → List String
  | .reader a | .passToThrottler a _ => a.texts
  | _ => []

namespace Service

/-- **What comes from outside is what it is to be**: a start finds what `filepath.Glob`
finds, and an error says something. -/
def Action.Honest (cfg : Config) : Action → Prop
  | .event (.command (.run (.ok files))) =>
    ∃ fs : FileSystem, fs.glob cfg.source.path.toList = some files
  | .event (.command (.run (.error message))) => message ≠ ""
  | .pipeline _ a => ∀ text ∈ a.texts, text ≠ ""
  | _ => True

/-! ### The errors -/

/-- The errors and files in a statement are about files that meet a condition. -/
def Stmt.Traced (Fits : Path → Prop) : Stmt → Prop
  | .faultStart error | .enterFaulted error => error.MadeOf Fits
  | .startReaderPool files => ∀ path ∈ files, Fits path
  | _ => True

variable {s t : Service} {cfg : Config} {now : ℕ} {Fits : Path → Prop} {st : Stmt}

/-- **Every error is about a file that meets a condition**, wherever it stands. -/
structure Traced (Fits : Path → Prop) (s : Service) : Prop where
  pools : ∀ i, ∀ p ∈ (s.pipeline i).readerPool, p.Traced Fits
  sourceError : ∀ error ∈ s.control.run.sourceError, error.MadeOf Fits
  todo : ∀ st ∈ s.todo, Stmt.Traced Fits st

/-- The files a start goes on with, and the error of one that fails. -/
theorem traced_sourceFiles {path : Path} (hpath : Fits path) {glob : Except String (List Path)}
    (hok : ∀ files, glob = .ok files → ∀ file ∈ files, Fits file)
    (herror : ∀ message, glob = .error message → message ≠ "") :
    (∀ error, ReaderPool.sourceFiles path glob = .error error → error.MadeOf Fits) ∧
      ∀ files, ReaderPool.sourceFiles path glob = .ok files → ∀ file ∈ files, Fits file := by
  have hmade : ∀ message, message ≠ "" → ReaderSourceError.MadeOf Fits
      (newReaderSourceError (readerSourceDirectory path) "glob" path message) := fun message h =>
    ⟨_, "glob", by decide, path, hpath, message, h, rfl⟩
  cases glob with
  | error message =>
    refine ⟨fun error h => ?_, fun files h => ?_⟩
    · obtain rfl := Except.error.inj h
      exact hmade message (herror message rfl)
    · cases h
  | ok found =>
    simp only [ReaderPool.sourceFiles]
    split
    · refine ⟨fun error h => ?_, fun files h => ?_⟩
      · obtain rfl := Except.error.inj h
        exact hmade _ (by decide)
      · cases h
    · refine ⟨fun error h => ?_, fun files h file hfile => ?_⟩
      · cases h
      · obtain rfl := Except.ok.inj h
        exact hok found rfl file ((List.perm_insertionSort _ found).mem_iff.mp hfile)

/-- **The program of an event** brings no error from elsewhere. -/
theorem traced_program {e : Event} (hs : s.Traced Fits) (he : e.Enabled s)
    (hglob : ∀ glob, e = .command (.run glob) →
      (∀ error, ReaderPool.sourceFiles s.control.config.source.path.toList glob = .error error →
        error.MadeOf Fits) ∧
      ∀ files, ReaderPool.sourceFiles s.control.config.source.path.toList glob = .ok files →
        ∀ file ∈ files, Fits file) :
    ∀ st ∈ s.program e, Stmt.Traced Fits st := by
  cases e with
  | done => simp [program, stop, Stmt.Traced]
  | requestsClosed => simp [program, stop, Stmt.Traced]
  | sourceError error =>
    obtain ⟨i, -, p, hp, herror⟩ := he
    have hmade := (hs.pools i p hp).sourceErrors error herror
    rw [program]
    split
    · simp
    · simpa [stop, resetFaultedMeasurements, Stmt.Traced] using hmade
  | tick now =>
    simp only [program]
    split_ifs <;> simp [Stmt.Traced]
  | command c =>
    cases c with
    | run glob =>
      obtain ⟨herror, hok⟩ := hglob glob rfl
      cases hstate : s.control.run.state <;> simp only [program, handle, hstate]
      case idle =>
        rw [startRun]
        split
        · next error hfail => simpa [prepareRun, Stmt.Traced] using herror error hfail
        · next files hfiles => simpa [prepareRun, Stmt.Traced] using hok files hfiles
      all_goals simp [resumeRun, Stmt.Traced]
    | _ =>
      simp only [program, handle, statusReadings]
      repeat' split
      all_goals simp [Stmt.Traced, snapshots, stop, resetProgress]

/-- What is done to a pipeline brings no error from elsewhere. -/
theorem traced_onPipeline {run : Option ℕ} {F : Pipeline → Pipeline}
    (h : ∀ i, ∀ p ∈ (s.pipeline i).readerPool, p.Traced Fits)
    (hF : ∀ i ∈ run, ∀ p ∈ (F (s.pipeline i)).readerPool, p.Traced Fits) :
    ∀ i, ∀ p ∈ ((s.onPipeline run F).pipeline i).readerPool, p.Traced Fits := by
  intro i
  by_cases hmem : i ∈ run
  · rw [onPipeline_of_mem hmem]
    exact hF i hmem
  · rw [onPipeline_of_notMem hmem]
    exact h i

/-- What a statement does to the pools brings no error from elsewhere. -/
theorem Traced.pools_exec (h : s.Traced Fits) (hst : Stmt.Traced Fits st) :
    ∀ i, ∀ p ∈ ((s.exec st).pipeline i).readerPool, p.Traced Fits := by
  cases st
  case makeRun =>
    intro i
    simp only [exec, update_apply]
    split
    · exact fun p hp => absurd hp (Option.not_mem_none p)
    · exact h.pools i
  case startReaderPool files =>
    simp only [exec]
    refine traced_onPipeline h.pools fun i _ p hp => ?_
    obtain rfl := Option.some.inj hp
    exact ReaderPool.traced_start _ _ _ hst
  case reconcileReader =>
    simp only [exec]
    refine traced_onPipeline h.pools fun i _ p hp => ?_
    obtain ⟨p', hp', rfl⟩ := Pipeline.mem_stepReader hp
    exact (h.pools i p' hp').reconcile _
  case startThrottler | startSender | reconcileSender | callSender | awaitReconciled
    | offerSettings | awaitUpdate | cancelRun =>
    simp only [exec]
    refine traced_onPipeline h.pools fun i _ p hp => ?_
    exact h.pools i p hp
  case closeAndDrain c =>
    simp only [exec]
    refine traced_onPipeline h.pools fun i _ p hp => ?_
    cases c <;> exact h.pools i p hp
  case startChannel c =>
    rw [exec]
    split <;> exact h.pools
  case setCapacity c value => cases c <;> exact h.pools
  case seeChannel c => cases c <;> exact h.pools
  all_goals exact h.pools

/-- A statement records no error from elsewhere. -/
theorem Traced.sourceError_exec (h : s.Traced Fits) (hst : Stmt.Traced Fits st) :
    ∀ error ∈ (s.exec st).control.run.sourceError, error.MadeOf Fits := by
  cases st
  case faultStart error | enterFaulted error =>
    intro error' herror
    obtain rfl := Option.some.inj herror
    exact hst
  case enterPaused =>
    intro error herror
    refine h.sourceError error ?_
    change error ∈ (ControlState.pauseElapsed s.control.run s.seen.now).sourceError at herror
    rw [ControlState.pauseElapsed] at herror
    split at herror <;> exact herror
  case zeroProgress => exact fun error herror => absurd herror (Option.not_mem_none error)
  case startChannel c =>
    rw [exec]
    split <;> exact h.sourceError
  case setCapacity c value => cases c <;> exact h.sourceError
  case seeChannel c => cases c <;> exact h.sourceError
  all_goals simpa [exec, onRun, onControls, onChannel] using h.sourceError

/-- **An action that comes from outside as it is to** brings no error from elsewhere. -/
theorem Traced.next {a : Action} (h : s.Traced Fits) (hconfig : s.control.config = cfg)
    (ha : machine.Enabled s a) (hhonest : a.Honest cfg) (hpath : Fits cfg.source.path.toList)
    (hfiles : ∀ (fs : FileSystem) found, fs.glob cfg.source.path.toList = some found →
      ∀ file ∈ found, Fits file) : (machine.next s a).Traced Fits := by
  cases a with
  | clock now => exact { h with }
  | cancelRoot => exact { h with }
  | event e =>
    have hprogram : ∀ st ∈ s.program e, Stmt.Traced Fits st := by
      refine traced_program h ha.2.2 fun glob heq => ?_
      subst heq
      rw [hconfig]
      refine traced_sourceFiles hpath (fun files hglob => ?_) fun message hglob => ?_
      · subst hglob
        obtain ⟨fs, hfound⟩ := hhonest
        exact hfiles fs files hfound
      · subst hglob
        exact hhonest
    refine ⟨?_, ?_, hprogram⟩
    · cases e with
      | sourceError error =>
        simp only [machine, take]
        refine traced_onPipeline h.pools fun i hi p hp => ?_
        obtain ⟨p', hp', rfl⟩ := Pipeline.mem_stepReader hp
        obtain ⟨-, -, j, hj, p'', hp'', herror⟩ := ha
        obtain rfl := Option.mem_unique hi hj
        obtain rfl := Option.mem_unique hp' hp''
        exact (h.pools i p' hp').next herror fun text htext => absurd htext List.not_mem_nil
      | _ => exact h.pools
    · cases e <;> simpa [machine, take] using h.sourceError
  | exec =>
    obtain ⟨st, hst, -⟩ := ha
    obtain ⟨rest, htodo⟩ := List.head?_eq_some_iff.mp hst
    have hall := h.todo
    rw [htodo] at hall
    have hhere := hall st List.mem_cons_self
    simp only [machine, htodo]
    exact ⟨h.pools_exec hhere, h.sourceError_exec hhere,
      fun st' hst' => hall st' (List.mem_cons_of_mem st hst')⟩
  | pipeline run b =>
    refine ⟨fun i p hp => ?_, h.sourceError, h.todo⟩
    simp only [machine, update_apply] at hp
    split at hp
    swap
    · exact h.pools i p hp
    -- only a step of the reader pool is one in which something is said
    have hall := h.pools run
    cases b with
    | reader b =>
      obtain ⟨p', hp', rfl⟩ := Pipeline.mem_stepReader hp
      exact (hall p' hp').next (Pipeline.enabled_of_mem ha.2.1 hp') hhonest
    | passToThrottler b b' =>
      obtain ⟨p', hp', rfl⟩ := Pipeline.mem_stepReader hp
      exact (hall p' hp').next (Pipeline.enabled_of_mem ha.2.1 hp') hhonest
    | throttler b => exact hall p hp
    | sender b => exact hall p hp
    | passToSender b b' => exact hall p hp

end Service

/-! ### The statuses -/

/-- **A status is in order**: what it says of the controls is allowed, its numbers agree
with one another and none is negative, and its source error is about a file that meets a
condition. -/
structure RuntimeStatus.InOrder (cfg : Config) (Fits : Path → Prop) (status : RuntimeStatus) :
    Prop where
  state : status.run.state ≠ .resetting
  run : 0 ≤ status.run.totalTransactions ∧ 0 ≤ status.run.elapsedMs
  readerWorkers : cfg.reader.workers.contains status.reader.workers = true
  readBatchSize : cfg.reader.readBatchSize.contains status.reader.readBatchSize = true
  reader : 0 ≤ status.reader.readTps ∧ 0 ≤ status.reader.rowsRead
  readerPool : status.reader.pool.AddsUp
  sourceDirectory : status.reader.sourceDirectory =
    String.ofList (readerSourceDirectory cfg.source.path.toList)
  sourceError : ∀ error ∈ status.reader.sourceError, error.MadeOf Fits
  requestedTps : cfg.throttler.requestedTPS.contains status.throttler.requestedTps = true
  admittedTps : 0 ≤ status.throttler.admittedTps
  installed : cfg.throttler.installed.contains status.throttler.installed = true
  senderWorkers : cfg.sender.workers.contains status.sender.workers = true
  senderPool : status.sender.pool.AddsUp
  atRest : status.run.state = .idle ∨ status.run.state = .faulted →
    status.reader.pool = {} ∧ status.sender.pool = {}
  readerCapacity : cfg.readerChannel.capacity.contains status.readerChannel.capacity = true
  readerChannel : status.readerChannel.Nonneg
  senderCapacity : cfg.senderChannel.capacity.contains status.senderChannel.capacity = true
  senderChannel : status.senderChannel.Nonneg
  config : status.config = runtimeConfigStatusFromConfig cfg

theorem ControlState.elapsedMs_nonneg (state : ControlState) (now : ℕ) : 0 ≤ state.elapsedMs now := by
  simp only [elapsedMs]
  split_ifs with hneg
  · exact le_rfl
  · exact milliseconds_nonneg (not_lt.mp hneg)

namespace Service

variable {s : Service} {cfg : Config} {now : ℕ} {Fits : Path → Prop}

/-- The capacities answered of a run that is not paused: those of the controls, or, while
it is running, those of its channels. -/
theorem capacity_liveStatus (hm : s.Measured cfg) (hb : s.InBounds cfg) (hshows : s.Shows)
    (hpaused : s.control.run.state ≠ .paused) :
    cfg.readerChannel.capacity.contains (s.control.liveStatus s.seen).readerChannel.capacity = true ∧
    cfg.senderChannel.capacity.contains (s.control.liveStatus s.seen).senderChannel.capacity =
      true := by
  simp only [ControlState.liveStatus]
  split_ifs with hrest
  · exact ⟨hb.controls.readerChannelCapacity, hb.controls.senderChannelCapacity⟩
  · have hrunning : s.control.run.state = .running := by
      have hresetting := hshows.state
      cases hstate : s.control.run.state <;> simp_all
    obtain ⟨⟨i, hi, hreader⟩, ⟨j, hj, hsender⟩⟩ := hshows.running hrunning
    exact ⟨hreader ▸ (hm.pipeline i hi).1, hsender ▸ (hm.pipeline j hj).2⟩

/-- **What is answered of a run that is not paused** is in order. -/
theorem inOrder_liveStatus (hm : s.Measured cfg) (hb : s.InBounds cfg) (ht : s.Traced Fits)
    (hshows : s.Shows) (hpaused : s.control.run.state ≠ .paused) :
    (s.control.liveStatus s.seen).InOrder cfg Fits where
  state := hshows.state
  run := ⟨Int.natCast_nonneg _, ControlState.elapsedMs_nonneg _ _⟩
  readerWorkers := hb.controls.readerWorkers
  readBatchSize := hb.controls.readBatchSize
  reader := ⟨hm.seen.reader, Int.natCast_nonneg _⟩
  readerPool := hm.seen.readerPool
  sourceDirectory := by rw [← hb.config]; rfl
  sourceError := ht.sourceError
  requestedTps := hb.controls.requestedTPS
  admittedTps := hm.seen.senderChannel.rates _ (List.mem_cons_of_mem _ List.mem_cons_self)
  installed := hb.controls.installed
  senderWorkers := hb.controls.senderWorkers
  senderPool := hm.seen.senderPool
  atRest := hshows.atRest
  readerCapacity := (capacity_liveStatus hm hb hshows hpaused).1
  readerChannel := { hm.seen.readerChannel with }
  senderCapacity := (capacity_liveStatus hm hb hshows hpaused).2
  senderChannel := { hm.seen.senderChannel with }
  config := by rw [← hb.config]; rfl

/-- **What is answered** is in order, if what is kept is. -/
theorem inOrder_runtimeStatusAt (hm : s.Measured cfg) (hb : s.InBounds cfg) (ht : s.Traced Fits)
    (hshows : s.Shows)
    (hkept : ∀ status ∈ s.control.run.pausedStatus, RuntimeStatus.InOrder cfg Fits status) :
    (s.control.runtimeStatusAt s.seen).InOrder cfg Fits := by
  by_cases hpaused : s.control.run.state = .paused
  · obtain ⟨status, hstatus⟩ := Option.isSome_iff_exists.mp (hshows.paused hpaused)
    have h := hkept status hstatus
    rw [ControlState.runtimeStatusAt, hpaused, hstatus]
    -- what may change in a pause is brought up to date, the rest is as it was
    exact { h with
      state := by rintro ⟨⟩
      readerWorkers := hb.controls.readerWorkers
      readBatchSize := hb.controls.readBatchSize
      sourceError := ht.sourceError
      requestedTps := hb.controls.requestedTPS
      installed := hb.controls.installed
      senderWorkers := hb.controls.senderWorkers
      atRest := by rintro (⟨⟨⟩⟩ | ⟨⟨⟩⟩) }
  · rw [ControlState.runtimeStatusAt]
    split
    next hstate _ => exact absurd hstate hpaused
    · exact inOrder_liveStatus hm hb ht hshows hpaused

/-! ### Runs -/

/-- **What is kept and what has been answered is in order**, and no error is from
elsewhere. -/
structure Reports (cfg : Config) (Fits : Path → Prop) (s : Service) : Prop where
  traced : s.Traced Fits
  kept : ∀ status ∈ s.control.run.pausedStatus, RuntimeStatus.InOrder cfg Fits status
  responses : ∀ status, .status status ∈ s.responses → status.InOrder cfg Fits

/-- What a statement keeps for a pause: what was kept before, or the present status. -/
theorem mem_pausedStatus_exec {st : Stmt} {status : RuntimeStatus}
    (h : status ∈ (s.exec st).control.run.pausedStatus) :
    status ∈ s.control.run.pausedStatus ∨
      st = .enterPaused ∧ status = s.control.runtimeStatusAt s.seen := by
  cases st
  case enterPaused => exact Or.inr ⟨rfl, (Option.some.inj h).symm⟩
  case enterFaulted error =>
    refine Or.inl ?_
    change status ∈ (ControlState.pauseElapsed s.control.run s.memory.now).pausedStatus at h
    rw [ControlState.pauseElapsed] at h
    split at h <;> exact h
  case clearPausedStatus | zeroProgress => exact absurd h (Option.not_mem_none status)
  case startChannel c =>
    rw [exec] at h
    split at h <;> exact Or.inl h
  case setCapacity c value => cases c <;> exact Or.inl h
  case seeChannel c => cases c <;> exact Or.inl h
  all_goals exact Or.inl (by simpa [exec, onRun, onControls, onChannel] using h)

/-- **An action that comes from outside as it is to** leaves the reports in order. -/
theorem Reports.next {a : Action} (h : s.Reports cfg Fits) (hcfg : cfg.Valid)
    (hreach : machine.Reachable (newService cfg now) s) (ha : machine.Enabled s a)
    (hhonest : a.Honest cfg) (hpath : Fits cfg.source.path.toList)
    (hfiles : ∀ (fs : FileSystem) found, fs.glob cfg.source.path.toList = some found →
      ∀ file ∈ found, Fits file) : (machine.next s a).Reports cfg Fits := by
  have hb := inBounds_of_reachable hcfg hreach
  have hm := measured_of_reachable hcfg hreach
  refine ⟨h.traced.next hb.config ha hhonest hpath hfiles, ?_, ?_⟩
  · cases a with
    | clock now => exact h.kept
    | cancelRoot => exact h.kept
    | event e => cases e <;> simpa [machine, take] using h.kept
    | pipeline run b => exact h.kept
    | exec =>
      obtain ⟨st, hst, -⟩ := ha
      obtain ⟨rest, htodo⟩ := List.head?_eq_some_iff.mp hst
      simp only [machine, htodo]
      intro status hstatus
      rcases mem_pausedStatus_exec hstatus with hold | ⟨rfl, rfl⟩
      · exact h.kept status hold
      · exact inOrder_runtimeStatusAt hm hb h.traced (shows_of_enterPaused hreach htodo).2 h.kept
  · cases a with
    | clock now => exact h.responses
    | cancelRoot => exact h.responses
    | event e => cases e <;> simpa [machine, take] using h.responses
    | pipeline run b => exact h.responses
    | exec =>
      obtain ⟨st, hst, -⟩ := ha
      obtain ⟨rest, htodo⟩ := List.head?_eq_some_iff.mp hst
      simp only [machine, htodo]
      intro status hstatus
      rw [responses_exec] at hstatus
      rcases List.mem_append.mp hstatus with hold | hnew
      · exact h.responses status hold
      cases st
      case respondStatus =>
        obtain rfl := Response.status.inj (List.mem_singleton.mp hnew)
        exact inOrder_runtimeStatusAt hm hb h.traced (shows_of_respondStatus hreach htodo) h.kept
      case respond response =>
        obtain rfl : .status status = response := List.mem_singleton.mp hnew
        exact (not_respond_status hreach htodo).elim
      all_goals exact absurd hnew List.not_mem_nil

/-- **Every status is in order** that is answered in a run in which what comes from
outside is what it is to be. -/
theorem inOrder_of_leads (hcfg : cfg.Valid) (hpath : Fits cfg.source.path.toList)
    (hfiles : ∀ (fs : FileSystem) found, fs.glob cfg.source.path.toList = some found →
      ∀ file ∈ found, Fits file) (h : machine.Leads (Action.Honest cfg) (newService cfg now) s)
    {status : RuntimeStatus} (hstatus : .status status ∈ s.responses) :
    status.InOrder cfg Fits := by
  have hstart : (newService cfg now).Reports cfg Fits :=
    ⟨⟨fun _ p hp => absurd hp (Option.not_mem_none p),
      fun error he => absurd he (Option.not_mem_none error),
      fun st hst => absurd hst List.not_mem_nil⟩,
      fun status hkept => absurd hkept (Option.not_mem_none status),
      fun status hanswered => absurd hanswered List.not_mem_nil⟩
  have hall := h.invariant
    (I := fun s => machine.Reachable (newService cfg now) s ∧ s.Reports cfg Fits)
    (fun s a hs ha hhonest => ⟨hs.1.step ha, hs.2.next hcfg hs.1 ha hhonest hpath hfiles⟩)
    ⟨.refl _, hstart⟩
  exact hall.2.responses status hstatus

end Service

end IngestionLab
