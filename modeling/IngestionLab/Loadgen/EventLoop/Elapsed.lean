import IngestionLab.Loadgen.EventLoop.Paused
import IngestionLab.Machine.Stopwatch

/-!
# The elapsed time

The event loop keeps the time a run has been running in two parts, an accumulator and
the start of the open interval, and folds the one into the other when the run is paused
or fails. What it is to compute is what a stopwatch shows
(`IngestionLab.Stopwatch`) that runs while the state is running and is set back by a
reset: an observer of the event loop keeps one (`IngestionLab.Service.noteRunning`).

* `IngestionLab.Service.Timing`: what is known of the two parts at a point of a program;
  every program passes the check (`IngestionLab.Service.exists_timing_check`).
* `IngestionLab.Service.elapsed_measures_running_time`: **the elapsed time reported is the
  time the stopwatch shows**.
-/

namespace IngestionLab

open Function

/-- **What an observer of the event loop notes**: a stopwatch, and when the last event
was taken. -/
structure RunningTime where
  watch : Stopwatch := {}
  taken : ℕ := 0
  deriving DecidableEq, Repr

namespace Service

variable {s t : Service} {i : Stmt} {cfg : Config} {now : ℕ} {o : RunningTime}

/-! ### The observer -/

/-- The run is running. -/
def isRunning (s : Service) : Bool := s.control.run.state == .running

/-- The time a statement goes by: the pause by the time that was read for it, any other
by the present. -/
def stamp (s : Service) (i : Stmt) : ℕ :=
  match i with
  | .enterPaused => s.seen.now
  | _ => s.memory.now

/-- The stopwatch runs while the run is running. -/
def noteExec (s : Service) (i : Stmt) (o : RunningTime) : RunningTime :=
  match s.isRunning, (s.exec i).isRunning with
  | false, true => { o with watch := o.watch.start (s.stamp i) }
  | true, false => { o with watch := o.watch.stop (s.stamp i) }
  | _, _ => o

/-- The event is a reset that is not refused. -/
def resets (s : Service) (e : Event) : Bool :=
  match e, s.control.run.state with
  | .command .reset, .idle | .command .reset, .paused | .command .reset, .faulted => true
  | _, _ => false

/-- **What the observer notes of a step**: a reset sets the stopwatch back. -/
def noteRunning (s : Service) (a : Action) (o : RunningTime) : RunningTime :=
  match a, s.todo with
  | .event e, _ => { watch := if s.resets e then {} else o.watch, taken := s.memory.now }
  | .exec, i :: _ => s.noteExec i o
  | _, _ => o

/-! ### The facts -/

/-- **What is known at a point of a program**: the run state; whether a reset has been
taken and the progress not been set to zero yet; and whether the clock has been read
since the event was taken, or the run started. -/
structure Timing where
  state : RunState
  pending : Bool := false
  read : Bool := false
  deriving DecidableEq, Repr

/-- **What a statement makes of the facts**, `none` where they do not justify it. -/
def Timing.after (f : Timing) : Stmt → Option Timing
  | .readClock => some { f with read := true }
  | .runStarted =>
      if (f.state = .idle ∨ f.state = .paused) ∧ f.pending = false then
        some { f with state := .running, read := false }
      else none
  | .faultStart _ => if f.state = .idle then some { f with state := .faulted } else none
  | .enterPaused =>
      if f.state = .running ∧ f.pending = false ∧ f.read = true then
        some { f with state := .paused }
      else none
  | .enterFaulted _ =>
      if (f.state = .running ∨ f.state = .paused) ∧ f.pending = false then
        some { f with state := .faulted }
      else none
  | .beginReset => if f.pending = true then some { f with state := .resetting } else none
  | .completeReset =>
      if f.state = .resetting ∧ f.pending = false then some { f with state := .idle } else none
  | .zeroProgress =>
      if f.pending = true ∧ f.state ≠ .paused then some { f with pending := false } else none
  | .clearPausedStatus => if f.state = .paused then none else some f
  | .respondStatus =>
      if f.pending = false ∧ (f.state = .running → f.read = true) then some f else none
  | _ => some f

/-- **What the facts mean.** -/
structure Timing.Holds (f : Timing) (x : Service × RunningTime) : Prop where
  state : x.1.control.run.state = f.state
  since : x.1.control.run.runStartedAt = x.2.watch.since
  running : x.2.watch.since.isSome = true ↔ f.state = .running
  elapsed : f.pending = false → x.1.control.run.elapsedBeforeRun = x.2.watch.lapTime
  cleared : f.pending = true ∨ f.state = .idle ∨ f.state = .resetting → x.2.watch = {}
  inOrder : x.2.watch.InOrder x.1.memory.now
  taken : x.2.taken ≤ x.1.memory.now
  read : f.read = true → x.2.taken ≤ x.1.seen.now ∧ x.1.seen.now ≤ x.1.memory.now ∧
    ∀ since ∈ x.2.watch.since, since ≤ x.1.seen.now
  kept : f.state = .paused → f.pending = false → ∃ status,
    x.1.control.run.pausedStatus = some status ∧
      status.run.elapsedMs = milliseconds x.2.watch.lapTime

/-- The event loop with its observer as a thread. -/
def Timing.thread : Thread (Service × RunningTime) Stmt Timing where
  Ready x i := x.1.Ready i
  exec x i := (x.1.exec i, x.1.noteExec i x.2)
  Holds := Holds
  after := after

/-! ### What the others do -/

/-- The others let time pass; what the event loop alone knows they leave alone. -/
structure Passes (x y : Service × RunningTime) : Prop where
  control : y.1.control = x.1.control
  seen : y.1.seen = x.1.seen
  now : x.1.memory.now ≤ y.1.memory.now
  observer : y.2 = x.2

theorem now_remember (sh : Memory) (a : Pipeline.Action) :
    (Pipeline.remember sh a).now = sh.now := by
  have hreader (sh : Memory) (a : ReaderPool.Action) : (ReaderPool.remember sh a).now = sh.now := by
    cases a
    case read w path pc move =>
      simp only [ReaderPool.remember, ReadPc.remember]
      split <;> rfl
    all_goals rfl
  have hthrottler (sh : Memory) (a : Throttler.Action) : (Throttler.remember sh a).now = sh.now := by
    cases a <;> rfl
  have hsender (sh : Memory) (a : SenderPool.Action) : (SenderPool.remember sh a).now = sh.now := by
    cases a
    case settle w batch ok => cases ok <;> rfl
    all_goals rfl
  cases a
  case reader a => exact hreader sh a
  case throttler a => exact hthrottler sh a
  case sender a => exact hsender sh a
  case passToThrottler a b => exact (hthrottler _ b).trans (hreader sh a)
  case passToSender a b => exact (hsender _ b).trans (hthrottler sh a)

theorem Timing.Holds.passes {f : Timing} {x y : Service × RunningTime} (h : f.Holds x)
    (hxy : Passes x y) : f.Holds y where
  state := by rw [hxy.control]; exact h.state
  since := by rw [hxy.control, hxy.observer]; exact h.since
  running := by rw [hxy.observer]; exact h.running
  elapsed hf := by rw [hxy.control, hxy.observer]; exact h.elapsed hf
  cleared hf := by rw [hxy.observer]; exact h.cleared hf
  inOrder := by rw [hxy.observer]; exact h.inOrder.mono hxy.now
  taken := by rw [hxy.observer]; exact h.taken.trans hxy.now
  read hf := by
    rw [hxy.observer, hxy.seen]
    exact ⟨(h.read hf).1, (h.read hf).2.1.trans hxy.now, (h.read hf).2.2⟩
  kept hf hp := by rw [hxy.control, hxy.observer]; exact h.kept hf hp

/-! ### What a statement does -/

/-- A statement takes no time. -/
theorem now_exec (s : Service) (i : Stmt) : (s.exec i).memory.now = s.memory.now := by
  cases i
  case startChannel c =>
    rw [exec]
    split
    · rfl
    · cases c <;> rfl
  case clearMeasurements c | startInterval c | sampleChannel c | detach c | setCapacity c value
    | seeChannel c => cases c <;> rfl
  all_goals simp [exec, onRun, onControls]

/-- Only `readClock` reads the clock. -/
theorem seen_now_exec (h : i ≠ .readClock) : (s.exec i).seen.now = s.seen.now := by
  cases i
  case readClock => exact absurd rfl h
  case startChannel c =>
    rw [exec]
    split <;> rfl
  case clearMeasurements c | startInterval c | sampleChannel c | detach c | setCapacity c value
    | seeChannel c => cases c <;> rfl
  case startReaderPool | startThrottler | startSender | reconcileReader | reconcileSender
    | callSender | awaitReconciled | offerSettings | awaitUpdate | cancelRun | closeAndDrain =>
    simp only [exec, onPipeline]
    split <;> rfl
  all_goals rfl

/-- A stopwatch is left alone by a statement that changes neither the run state nor the
time kept. -/
theorem Timing.Holds.plain {f : Timing} (h : f.Holds (s, o)) (hi : i ≠ .readClock)
    (hrun : ∃ n, (s.exec i).control.run = { s.control.run with totalTransactions := n }) :
    f.Holds (s.exec i, s.noteExec i o) := by
  obtain ⟨n, hrun⟩ := hrun
  have hnote : s.noteExec i o = o := by
    have hsame : (s.exec i).isRunning = s.isRunning := by simp only [isRunning, hrun]
    rw [noteExec, hsame]
    cases s.isRunning <;> rfl
  rw [hnote]
  have hseen : (s.exec i).seen.now = s.seen.now := seen_now_exec hi
  have hnow : (s.exec i).memory.now = s.memory.now := now_exec s i
  exact {
    state := by rw [hrun]; exact h.state
    since := by rw [hrun]; exact h.since
    running := h.running
    elapsed := fun hf => by rw [hrun]; exact h.elapsed hf
    cleared := h.cleared
    inOrder := by rw [hnow]; exact h.inOrder
    taken := by rw [hnow]; exact h.taken
    read := fun hf => by rw [hseen, hnow]; exact h.read hf
    kept := fun hf hp => by rw [hrun]; exact h.kept hf hp }

theorem Timing.Holds.isRunning {f : Timing} (h : f.Holds (s, o)) :
    s.isRunning = true ↔ f.state = .running := by
  rw [Service.isRunning, h.state, beq_iff_eq]

/-- A stopwatch that does not run shows the time that has ended. -/
theorem Timing.Holds.since_eq_none {f : Timing} (h : f.Holds (s, o)) (hstate : f.state ≠ .running) :
    o.watch.since = none := by
  rw [← Option.not_isSome_iff_eq_none, h.running]
  exact hstate

/-- Outside a reset the stopwatch need not show zero. -/
theorem not_isReset {pending : Bool} {state : RunState} (hpending : pending = false)
    (hidle : state ≠ .idle) (hresetting : state ≠ .resetting) :
    ¬(pending = true ∨ state = .idle ∨ state = .resetting) := by
  rintro (h | h | h)
  · exact absurd (hpending.symm.trans h) nofun
  · exact hidle h
  · exact hresetting h

/-- The run starts, from the idle state or from a pause. -/
theorem Timing.Holds.runStarted {f : Timing} (h : f.Holds (s, o))
    (hstate : f.state = .idle ∨ f.state = .paused) (hpending : f.pending = false) :
    Timing.Holds { f with state := .running, read := false }
      (s.exec .runStarted, s.noteExec .runStarted o) := by
  have hnot : s.isRunning = false := by
    rw [← Bool.not_eq_true, h.isRunning]
    rcases hstate with hs | hs <;> rw [hs] <;> exact nofun
  have hnote : s.noteExec .runStarted o = { o with watch := o.watch.start s.memory.now } := by
    rw [noteExec, hnot]
    rfl
  rw [hnote]
  exact {
    state := rfl
    since := rfl
    running := iff_of_true rfl rfl
    elapsed := h.elapsed
    cleared := fun hc => absurd hc (not_isReset hpending nofun nofun)
    inOrder := h.inOrder.start
    taken := h.taken
    read := nofun
    kept := nofun }

/-- The elapsed time of the control state is what the stopwatch shows. -/
theorem Timing.Holds.elapsedMs {f : Timing} (h : f.Holds (s, o)) (hpending : f.pending = false)
    (hread : f.state = .running → f.read = true) :
    s.control.elapsedMs s.seen.now = milliseconds (o.watch.total s.seen.now) := by
  have helapsed : s.control.run.elapsedBeforeRun = o.watch.lapTime := h.elapsed hpending
  have hnonneg (n : ℕ) : ¬(n : ℤ) < 0 := by omega
  by_cases hstate : f.state = .running
  · obtain ⟨since, hsome⟩ := Option.isSome_iff_exists.mp (h.running.mpr hstate)
    have hrunning : s.control.run.state = .running := h.state.trans hstate
    have hstarted : s.control.run.runStartedAt = some since := h.since.trans hsome
    have hle : since ≤ s.seen.now := (h.read (hread hstate)).2.2 since hsome
    have htotal : s.control.run.elapsedBeforeRun + sub s.seen.now since =
        (o.watch.total s.seen.now : ℕ) := by
      have hshown : o.watch.total s.seen.now = o.watch.lapTime + (s.seen.now - since) := by
        rw [Stopwatch.total, show o.watch.since = some since from hsome, Option.elim_some]
      rw [helapsed, sub, hshown]
      omega
    simp only [ControlState.elapsedMs, hrunning, hstarted, htotal, hnonneg, ↓reduceIte]
  · have hrunning : s.control.run.state ≠ .running := by rw [h.state]; exact hstate
    have htotal : s.control.run.elapsedBeforeRun = (o.watch.total s.seen.now : ℕ) := by
      rw [helapsed, Stopwatch.total_of_since_eq_none (h.since_eq_none hstate)]
    rw [ControlState.elapsedMs]
    split
    next hs _ => exact absurd hs hrunning
    next => simp only [htotal, hnonneg, ↓reduceIte]

/-- The run ends: the open interval is folded into the time kept, and the stopwatch
stopped. -/
theorem Timing.Holds.ended {f : Timing} {run : ControlRunState} {stamp : ℕ}
    (h : f.Holds (s, o)) (hpending : f.pending = false) (hstate : f.state = .running)
    (hle : ∀ since ∈ o.watch.since, since ≤ stamp)
    (hrun : run = ControlState.pauseElapsed s.control.run stamp) :
    run.runStartedAt = (o.watch.stop stamp).since ∧
      run.elapsedBeforeRun = (o.watch.stop stamp).lapTime := by
  obtain ⟨since, hsome⟩ := Option.isSome_iff_exists.mp (h.running.mpr hstate)
  have hsome' : o.watch.since = some since := hsome
  have hstarted : s.control.run.runStartedAt = some since := h.since.trans hsome
  have helapsed : s.control.run.elapsedBeforeRun = o.watch.lapTime := h.elapsed hpending
  have hfold : run = { s.control.run with
      elapsedBeforeRun := s.control.run.elapsedBeforeRun + sub stamp since
      runStartedAt := none } := by
    rw [hrun, ControlState.pauseElapsed, hstarted]
  have hshown : o.watch.total stamp = o.watch.lapTime + (stamp - since) := by
    rw [Stopwatch.total, hsome', Option.elim_some]
  have hbefore := hle since hsome'
  have hsum : s.control.run.elapsedBeforeRun + sub stamp since = (o.watch.total stamp : ℕ) := by
    rw [helapsed, sub, hshown]
    omega
  rw [hfold, Stopwatch.since_stop, Stopwatch.lapTime_stop]
  exact ⟨rfl, hsum⟩

/-- Folding leaves alone what it is not about. -/
theorem pauseElapsed_of_none {run : ControlRunState} (h : run.runStartedAt = none) (stamp : ℕ) :
    ControlState.pauseElapsed run stamp = run := by
  rw [ControlState.pauseElapsed, h]

/-- The run is paused. -/
theorem Timing.Holds.enterPaused {f : Timing} (h : f.Holds (s, o)) (hstate : f.state = .running)
    (hpending : f.pending = false) (hread : f.read = true) :
    Timing.Holds { f with state := .paused } (s.exec .enterPaused, s.noteExec .enterPaused o) := by
  have hrunning : s.isRunning = true := h.isRunning.mpr hstate
  have hnote : s.noteExec .enterPaused o = { o with watch := o.watch.stop s.seen.now } := by
    rw [noteExec, hrunning]
    rfl
  obtain ⟨htaken, hnow, hsince⟩ := h.read hread
  obtain ⟨hstarted, helapsed⟩ := h.ended hpending hstate hsince rfl
  have hlive : (s.control.runtimeStatusAt s.seen).run.elapsedMs =
      milliseconds (o.watch.total s.seen.now) := by
    have hs : s.control.run.state = .running := h.state.trans hstate
    rw [ControlState.runtimeStatusAt, hs]
    exact h.elapsedMs hpending fun _ => hread
  rw [hnote]
  exact {
    state := rfl
    since := hstarted
    running := by rw [Stopwatch.since_stop]; exact iff_of_false (by rintro ⟨⟩) (by rintro ⟨⟩)
    elapsed := fun _ => helapsed
    cleared := fun hc => absurd hc (not_isReset hpending (by rintro ⟨⟩) (by rintro ⟨⟩))
    inOrder := h.inOrder.stop hsince hnow
    taken := h.taken
    read := fun _ => ⟨htaken, hnow, by simp⟩
    kept := fun _ _ => ⟨_, rfl, by rw [Stopwatch.lapTime_stop]; exact hlive⟩ }

/-- The run fails, while running or paused. -/
theorem Timing.Holds.enterFaulted {f : Timing} (h : f.Holds (s, o)) (error : ReaderSourceError)
    (hstate : f.state = .running ∨ f.state = .paused) (hpending : f.pending = false) :
    Timing.Holds { f with state := .faulted }
      (s.exec (.enterFaulted error), s.noteExec (.enterFaulted error) o) := by
  rcases hstate with hstate | hstate
  · have hrunning : s.isRunning = true := h.isRunning.mpr hstate
    have hnote : s.noteExec (.enterFaulted error) o =
        { o with watch := o.watch.stop s.memory.now } := by
      rw [noteExec, hrunning]
      rfl
    have hle : ∀ since ∈ o.watch.since, since ≤ s.memory.now := fun since hs =>
      (h.inOrder.2.2 since hs).1
    obtain ⟨hstarted, helapsed⟩ := h.ended hpending hstate hle rfl
    rw [hnote]
    exact {
      state := rfl
      since := hstarted
      running := by rw [Stopwatch.since_stop]; exact iff_of_false nofun nofun
      elapsed := fun _ => helapsed
      cleared := fun hc => absurd hc (not_isReset hpending nofun nofun)
      inOrder := h.inOrder.stop hle (le_refl s.memory.now)
      taken := h.taken
      read := fun hr => ⟨(h.read hr).1, (h.read hr).2.1, by simp⟩
      kept := nofun }
  · -- nothing is open: the time kept stays
    have hnone : o.watch.since = none := h.since_eq_none (by rw [hstate]; exact nofun)
    have hfold : ControlState.pauseElapsed s.control.run s.memory.now = s.control.run :=
      pauseElapsed_of_none (h.since.trans hnone) _
    have hnot : s.isRunning = false := by
      rw [← Bool.not_eq_true, h.isRunning, hstate]
      exact nofun
    have hnote : s.noteExec (.enterFaulted error) o = o := by
      rw [noteExec, hnot]
      rfl
    have hrun : (s.exec (.enterFaulted error)).control.run =
        { s.control.run with state := .faulted, sourceError := some error } := by
      simp only [exec, onRun, hfold]
    rw [hnote]
    exact {
      state := rfl
      since := by rw [hrun]; exact h.since
      running := by rw [hnone]; exact iff_of_false nofun nofun
      elapsed := fun hf => by rw [hrun]; exact h.elapsed hf
      cleared := fun hc => absurd hc (not_isReset hpending nofun nofun)
      inOrder := h.inOrder
      taken := h.taken
      read := h.read
      kept := nofun }

/-- The run state changes between states that are not running. -/
theorem Timing.Holds.rests {f : Timing} {state : RunState} (h : f.Holds (s, o))
    (hold : f.state ≠ .running) (hnew : state ≠ .running ∧ state ≠ .paused)
    (hcleared : state = .idle ∨ state = .resetting → o.watch = {})
    (hi : i ≠ .readClock) (hstate : (s.exec i).control.run.state = state)
    (hstarted : (s.exec i).control.run.runStartedAt = s.control.run.runStartedAt)
    (helapsed : (s.exec i).control.run.elapsedBeforeRun = s.control.run.elapsedBeforeRun) :
    Timing.Holds { f with state := state } (s.exec i, s.noteExec i o) := by
  have hbefore : s.isRunning = false := by
    rw [← Bool.not_eq_true, h.isRunning]
    exact hold
  have hafter : (s.exec i).isRunning = false := by
    rw [Service.isRunning, hstate]
    exact beq_eq_false_iff_ne.mpr hnew.1
  have hnote : s.noteExec i o = o := by rw [noteExec, hbefore, hafter]
  have hseen : (s.exec i).seen.now = s.seen.now := seen_now_exec hi
  have hnow : (s.exec i).memory.now = s.memory.now := now_exec s i
  rw [hnote]
  exact {
    state := hstate
    since := hstarted.trans h.since
    running := h.running.trans (iff_of_false hold hnew.1)
    elapsed := fun hf => helapsed.trans (h.elapsed hf)
    cleared := fun hc => hc.elim (fun hp => h.cleared (Or.inl hp)) hcleared
    inOrder := by rw [hnow]; exact h.inOrder
    taken := by rw [hnow]; exact h.taken
    read := fun hf => by rw [hseen, hnow]; exact h.read hf
    kept := fun hf => absurd hf hnew.2 }

/-- **A statement does to the clock of the run what it is said to.** -/
theorem Timing.Holds.exec {f g : Timing} (h : f.Holds (s, o)) (hg : f.after i = some g) :
    g.Holds (s.exec i, s.noteExec i o) := by
  cases i
  case readClock =>
    obtain rfl := Option.some.inj hg
    have hnote : s.noteExec .readClock o = o := by
      rw [noteExec, show (s.exec .readClock).isRunning = s.isRunning from rfl]
      cases s.isRunning <;> rfl
    rw [hnote]
    exact { h with
      read := fun _ => ⟨h.taken, le_refl s.memory.now, fun since hs => (h.inOrder.2.2 since hs).1⟩ }
  case runStarted =>
    simp only [Timing.after, Option.ite_none_right_eq_some, Option.some.injEq] at hg
    obtain ⟨⟨hstate, hpending⟩, rfl⟩ := hg
    exact h.runStarted hstate hpending
  case enterPaused =>
    simp only [Timing.after, Option.ite_none_right_eq_some, Option.some.injEq] at hg
    obtain ⟨⟨hstate, hpending, hread⟩, rfl⟩ := hg
    exact h.enterPaused hstate hpending hread
  case enterFaulted error =>
    simp only [Timing.after, Option.ite_none_right_eq_some, Option.some.injEq] at hg
    obtain ⟨⟨hstate, hpending⟩, rfl⟩ := hg
    exact h.enterFaulted error hstate hpending
  case faultStart error =>
    simp only [Timing.after, Option.ite_none_right_eq_some, Option.some.injEq] at hg
    obtain ⟨hstate, rfl⟩ := hg
    exact h.rests (by rw [hstate]; exact nofun) ⟨nofun, nofun⟩ (by simp) nofun rfl rfl rfl
  case beginReset =>
    simp only [Timing.after, Option.ite_none_right_eq_some, Option.some.injEq] at hg
    obtain ⟨hpending, rfl⟩ := hg
    have hempty : o.watch = {} := h.cleared (Or.inl hpending)
    have hrests : f.state ≠ .running := fun hstate => by
      have hsome := h.running.mpr hstate
      rw [hempty] at hsome
      exact absurd hsome nofun
    exact h.rests hrests ⟨nofun, nofun⟩ (fun _ => hempty) nofun rfl rfl rfl
  case completeReset =>
    simp only [Timing.after, Option.ite_none_right_eq_some, Option.some.injEq] at hg
    obtain ⟨⟨hstate, hpending⟩, rfl⟩ := hg
    exact h.rests (by rw [hstate]; exact nofun) ⟨nofun, nofun⟩
      (fun _ => h.cleared (Or.inr (Or.inr hstate))) nofun rfl rfl rfl
  case clearPausedStatus =>
    simp only [Timing.after, Option.ite_none_left_eq_some, Option.some.injEq] at hg
    obtain ⟨hstate, rfl⟩ := hg
    have hnote : s.noteExec .clearPausedStatus o = o := by
      rw [noteExec, show (s.exec .clearPausedStatus).isRunning = s.isRunning from rfl]
      cases s.isRunning <;> rfl
    rw [hnote]
    exact { h with kept := fun hf => absurd hf hstate }
  case zeroProgress =>
    simp only [Timing.after, Option.ite_none_right_eq_some, Option.some.injEq] at hg
    obtain ⟨⟨hpending, hstate⟩, rfl⟩ := hg
    have hempty : o.watch = {} := h.cleared (Or.inl hpending)
    have hnote : s.noteExec .zeroProgress o = o := by
      rw [noteExec, show (s.exec .zeroProgress).isRunning = s.isRunning from rfl]
      cases s.isRunning <;> rfl
    rw [hnote]
    exact { h with
      since := by rw [hempty]; rfl
      elapsed := fun _ => by rw [hempty]; rfl
      cleared := fun _ => hempty
      kept := fun hf => absurd hf hstate }
  case respond response =>
    obtain rfl := Option.some.inj hg
    exact h.plain nofun ⟨_, rfl⟩
  case respondStatus =>
    simp only [Timing.after, Option.ite_none_right_eq_some, Option.some.injEq] at hg
    obtain ⟨-, rfl⟩ := hg
    exact h.plain nofun (exists_run_exec_eq rfl)
  all_goals
    obtain rfl := Option.some.inj hg
    exact h.plain nofun (exists_run_exec_eq rfl)

/-- **The facts are sound.** -/
theorem timing_sound : Timing.thread.Sound Passes where
  env _ _ _ h hxy := h.passes hxy
  exec _ _ _ _ h _ hg := h.exec hg

/-! ### The programs -/

/-- The statement sets the progress to zero. -/
def Stmt.zeroes : Stmt → Bool
  | .zeroProgress => true
  | _ => false

/-- The programs that set the progress to zero are those of the resets. -/
theorem resets_eq_any (s : Service) (e : Event) : s.resets e = (s.program e).any Stmt.zeroes := by
  cases e with
  | done => rfl
  | requestsClosed => rfl
  | sourceError error => cases hs : s.control.run.state <;> simp only [program, resets, hs] <;> rfl
  | tick now =>
    simp only [program, resets]
    split <;> split <;> rfl
  | command c =>
    cases c
    case reset => cases hs : s.control.run.state <;> simp only [program, handle, resets, hs] <;> rfl
    case run glob =>
      cases hs : s.control.run.state <;> simp only [program, handle, resets, hs]
      case idle =>
        rw [startRun]
        split <;> rfl
      all_goals rfl
    case pause | setReadBatchSize | setReaderWorkers | setReaderChannelCapacity
      | setSenderChannelCapacity | setSenderWorkers | getRuntimeStatus =>
      simp only [program, handle, statusReadings, resets]
      split <;> rfl
    case setRequestedTPS | setThrottlerInstalled =>
      simp only [program, handle, resets]
      split
      · rfl
      · split <;> rfl

/-- **Every program keeps the time**: a run starts and ends where the facts say so, and a
status is answered only once the clock has been read. -/
theorem exists_timing_check (s : Service) (e : Event) :
    ∃ f, Timing.thread.check { state := s.control.run.state, pending := s.resets e } (s.program e) =
      some f ∧ f.pending = false := by
  rw [resets_eq_any]
  have hprogram := program_cases s e
  generalize s.control.run.state = state at hprogram ⊢
  generalize s.program e = p at hprogram ⊢
  cases hprogram
  case tick now hmoving => cases state <;> exact ⟨_, rfl, rfl⟩
  case tickSummary now hmoving => cases state <;> exact ⟨_, rfl, rfl⟩
  case status hmoving =>
    cases state
    case paused => exact absurd rfl hmoving
    all_goals exact ⟨_, rfl, rfl⟩
  all_goals exact ⟨_, rfl, rfl⟩

/-- Taking an event leaves the run as it is. -/
theorem run_take (s : Service) (e : Event) :
    (s.take e).control = s.control ∧ (s.take e).memory = s.memory ∧ (s.take e).seen = s.seen := by
  cases e
  case sourceError error =>
    simp only [take, onPipeline]
    split <;> exact ⟨rfl, rfl, rfl⟩
  all_goals exact ⟨rfl, rfl, rfl⟩

/-- Taking an event starts a program with nothing read, and a reset sets the stopwatch
back. -/
theorem Timing.Holds.take {f : Timing} (h : f.Holds (s, o)) (hpending : f.pending = false)
    (e : Event) :
    Timing.Holds { state := s.control.run.state, pending := s.resets e }
      (s.take e, s.noteRunning (.event e) o) := by
  obtain ⟨hcontrol, hmemory, -⟩ := run_take s e
  have hstate : s.control.run.state = f.state := h.state
  cases hreset : s.resets e with
  | false =>
    have hnote : s.noteRunning (.event e) o = { o with taken := s.memory.now } := by
      rw [noteRunning, hreset]
      rfl
    rw [hnote]
    exact {
      state := by rw [hcontrol]
      since := by rw [hcontrol]; exact h.since
      running := by rw [hstate]; exact h.running
      elapsed := fun _ => by rw [hcontrol]; exact h.elapsed hpending
      cleared := fun hc => h.cleared (Or.inr (by simpa [hstate] using hc))
      inOrder := by rw [hmemory]; exact h.inOrder
      taken := by rw [hmemory]
      read := nofun
      kept := fun hp _ => by rw [hcontrol]; exact h.kept (hstate.symm.trans hp) hpending }
  | true =>
    have hrests : s.control.run.state ≠ .running := fun hs => by simp [resets, hs] at hreset
    have hnote : s.noteRunning (.event e) o = { watch := {}, taken := s.memory.now } := by
      rw [noteRunning, hreset]
      rfl
    rw [hnote]
    exact {
      state := by rw [hcontrol]
      since := by
        rw [hcontrol]
        exact h.since.trans (h.since_eq_none (by rw [← hstate]; exact hrests))
      running := iff_of_false nofun hrests
      elapsed := nofun
      cleared := fun _ => rfl
      inOrder := Stopwatch.inOrder_empty _
      taken := by rw [hmemory]
      read := nofun
      kept := nofun }

/-- **In every state of the service the time is kept.** -/
theorem timing_covered {as : List Action} (hrun : machine.Run (newService cfg now) as) :
    Timing.thread.Covered (fun f => f.pending = false)
      (machine.after (newService cfg now) as, machine.observe noteRunning (newService cfg now) {} as)
      (machine.after (newService cfg now) as).todo := by
  have hstart : Timing.Holds { state := .idle } (newService cfg now, {}) := {
    state := rfl
    since := rfl
    running := iff_of_false nofun nofun
    elapsed := fun _ => rfl
    cleared := fun _ => rfl
    inOrder := Stopwatch.inOrder_empty _
    taken := Nat.zero_le _
    read := nofun
    kept := nofun }
  refine Machine.invariant_of_observe (C := fun _ _ => True)
    (I := fun s o => Timing.thread.Covered (fun f => f.pending = false) (s, o) s.todo)
    (fun s a o hs ha _ => ?_) ⟨_, _, hstart, rfl, rfl⟩ hrun
    (Machine.along_of_forall fun _ _ => trivial)
  cases a with
  | clock now => exact hs.env timing_sound ⟨rfl, rfl, ha, rfl⟩
  | cancelRoot => exact hs.env timing_sound ⟨rfl, rfl, le_rfl, rfl⟩
  | pipeline run a => exact hs.env timing_sound ⟨rfl, rfl, (now_remember s.memory a).ge, rfl⟩
  | exec =>
    obtain ⟨i, hi, hready⟩ := ha
    obtain ⟨rest, htodo⟩ := List.head?_eq_some_iff.mp hi
    rw [htodo] at hs
    have hnext := hs.exec timing_sound hready
    have hnote : s.noteRunning .exec o = s.noteExec i o := by simp only [noteRunning, htodo]
    have hmachine : machine.next s .exec = { s.exec i with todo := rest } := by
      simp only [machine, htodo]
    rw [hmachine, hnote]
    exact hnext.env timing_sound ⟨rfl, rfl, le_rfl, rfl⟩
  | event e =>
    obtain ⟨htodo, -, -⟩ := ha
    rw [htodo] at hs
    obtain ⟨f, hf, hpending⟩ := hs.final
    obtain ⟨g, hg, hfinal⟩ := exists_timing_check s e
    exact ⟨_, g, hf.take hpending e, hg, hfinal⟩

/-! ### The main result -/

theorem milliseconds_natCast (n : ℕ) : milliseconds n = ((n / 1000000 : ℕ) : ℤ) := by
  rw [milliseconds, Int.natCast_div]
  exact Int.tdiv_eq_ediv_of_nonneg (Int.natCast_nonneg n)

/-- While the run is not running only a reset changes the time that has ended. -/
theorem lapTime_noteRunning {a : Action} (hrests : s.control.run.state ≠ .running)
    (ha : ∀ e, a = .event e → s.resets e = false) :
    (s.noteRunning a o).watch.lapTime = o.watch.lapTime := by
  have hnot : s.isRunning = false := beq_eq_false_iff_ne.mpr hrests
  cases a with
  | event e =>
    rw [noteRunning, ha e rfl]
    rfl
  | exec =>
    cases htodo : s.todo with
    | nil => simp only [noteRunning, htodo]
    | cons i rest =>
      simp only [noteRunning, htodo, noteExec, hnot]
      cases (s.exec i).isRunning <;> rfl
  | clock now => rfl
  | cancelRoot => rfl
  | pipeline run a => rfl

/-- **The elapsed time measures the running time.** An observer keeps a stopwatch that
runs exactly while the run is running, goes by the times the event loop reads, and is
set back by every reset that is not refused. In every state of the service:

* its intervals follow one another, and it runs exactly if the state is running, since
  the time that is kept as the start of the run;
* a status that is answered reports the total length of its intervals, in milliseconds,
  at a time read since the query was taken; in the idle state this is zero;
* while the run is not running the total does not change, neither with the time nor by any
  step but a reset. -/
theorem elapsed_measures_running_time {as : List Action}
    (hrun : machine.Run (newService cfg now) as) :
    let s := machine.after (newService cfg now) as
    let o := machine.observe noteRunning (newService cfg now) {} as
    o.watch.InOrder s.memory.now ∧ s.control.run.runStartedAt = o.watch.since ∧
      (s.control.run.runStartedAt.isSome = true ↔ s.control.run.state = .running) ∧
      (s.todo.head? = some .respondStatus →
        ∃ status, (machine.next s .exec).responses = s.responses ++ [.status status] ∧
          status.run.elapsedMs = ((o.watch.total s.seen.now / 1000000 : ℕ) : ℤ) ∧
          (s.control.run.state = .running → o.taken ≤ s.seen.now ∧ s.seen.now ≤ s.memory.now ∧
            ∀ since ∈ o.watch.since, since ≤ s.seen.now) ∧
          (s.control.run.state = .idle → status.run.elapsedMs = 0)) ∧
      (s.control.run.state ≠ .running → (∀ t, o.watch.total t = o.watch.lapTime) ∧
        ∀ a, (∀ e, a = .event e → s.resets e = false) →
          (s.noteRunning a o).watch.lapTime = o.watch.lapTime) := by
  intro s o
  have hcovered := timing_covered hrun
  have hanswer (hhead : s.todo.head? = some .respondStatus) : ∃ f : Timing, f.Holds (s, o) ∧
      f.pending = false ∧ (f.state = .running → f.read = true) := by
    obtain ⟨rest, htodo⟩ := List.head?_eq_some_iff.mp hhead
    change Timing.thread.Covered _ (s, o) s.todo at hcovered
    rw [htodo] at hcovered
    obtain ⟨f, g, hf, hg⟩ := hcovered.exists_after
    refine ⟨f, hf, ?_⟩
    by_contra hc
    exact absurd ((if_neg hc).symm.trans hg) (by rintro ⟨⟩)
  obtain ⟨f, -, hf, -, -⟩ := hcovered
  have hstate : s.control.run.state = f.state := hf.state
  have hsince : s.control.run.runStartedAt = o.watch.since := hf.since
  refine ⟨hf.inOrder, hsince, by rw [hsince, hstate]; exact hf.running, fun hhead => ?_,
    fun hrests => ⟨fun t =>
      Stopwatch.total_of_since_eq_none (hf.since_eq_none (by rwa [← hstate])) t,
      fun a ha => lapTime_noteRunning hrests ha⟩⟩
  obtain ⟨g, hg, hpending, hread⟩ := hanswer hhead
  have hgstate : s.control.run.state = g.state := hg.state
  have hresponses : (machine.next s .exec).responses =
      s.responses ++ [.status (s.control.runtimeStatusAt s.seen)] := by
    obtain ⟨rest, htodo⟩ := List.head?_eq_some_iff.mp hhead
    simp only [machine, htodo]
    rfl
  have helapsed : (s.control.runtimeStatusAt s.seen).run.elapsedMs =
      ((o.watch.total s.seen.now / 1000000 : ℕ) : ℤ) := by
    rw [← milliseconds_natCast]
    by_cases hpaused : g.state = .paused
    · obtain ⟨status, hkept, hms⟩ := hg.kept hpaused hpending
      rw [Stopwatch.total_of_since_eq_none (hg.since_eq_none (by rw [hpaused]; rintro ⟨⟩)), ← hms]
      simp only [ControlState.runtimeStatusAt, hgstate.trans hpaused]
      rw [show s.control.run.pausedStatus = some status from hkept]
    · have hlive : s.control.runtimeStatusAt s.seen = s.control.liveStatus s.seen := by
        rw [ControlState.runtimeStatusAt]
        split
        next hs _ => exact absurd (hgstate.symm.trans hs) hpaused
        next => rfl
      rw [hlive]
      exact hg.elapsedMs hpending hread
  refine ⟨_, hresponses, helapsed, fun hs => hg.read (hread (hgstate.symm.trans hs)), fun hs => ?_⟩
  have hempty : o.watch = {} := hg.cleared (Or.inr (Or.inl (hgstate.symm.trans hs)))
  rw [helapsed, hempty]
  simp [Stopwatch.total, Stopwatch.lapTime]

/-- A run that is running for 5 ms, paused for 4 ms, and running again for 3.7 ms when its
status is asked for. -/
def timedRun : List Action := List.flatten
  [startedRun, [.clock 5000000, .event (.command .pause)], execs 9,
    [.clock 9000000, .event (.command (.run (.ok [])))], execs 9,
    [.clock 12700000, .event (.command .getRuntimeStatus)], execs 6]

/-- It reports 8 ms. -/
theorem elapsed_timedRun :
    let s := machine.after (newService exampleConfig 0) timedRun
    ∃ status, (machine.next s .exec).responses = s.responses ++ [.status status] ∧
      status.run.elapsedMs = 8 := by
  have hrun : machine.Run (newService exampleConfig 0) timedRun := by decide +kernel
  have hhead : (machine.after (newService exampleConfig 0) timedRun).todo.head? =
      some .respondStatus := by decide +kernel
  have hlaps : machine.observe noteRunning (newService exampleConfig 0) {} timedRun =
      { watch := { laps := [(0, 5000000)], since := some 9000000 }, taken := 12700000 } := by
    decide +kernel
  have hnow : (machine.after (newService exampleConfig 0) timedRun).seen.now = 12700000 := by
    decide +kernel
  obtain ⟨status, hresponses, helapsed, -⟩ :=
    (elapsed_measures_running_time hrun).2.2.2.1 hhead
  refine ⟨status, hresponses, ?_⟩
  rw [helapsed, hlaps, hnow]
  rfl

end Service

end IngestionLab
