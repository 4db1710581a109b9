import IngestionLab.Loadgen.EventLoop.Programs
import IngestionLab.Loadgen.Pipeline.Ended

/-!
# What the runtime holds

At every point of a program of the event loop, some of the pointers of the runtime are
set, some of the components of the last run are known to have ended, and the
telemetry of a channel may be known to be blank. `IngestionLab.Held` is a record of
these facts, `IngestionLab.Held.Holds` their meaning and `IngestionLab.Held.after` what
a statement makes of them. A statement is refused where it would do harm: a channel is
closed only when everything has ended, a run is made only when none is held, the last
pointer is dropped only when everything has ended, and where no pointer is left to stop
anything by, there is nothing to stop. Of the sender pool the event loop makes its own
calls only.

* `IngestionLab.Held.sound`: **the facts are sound** beside the pipelines.
* `IngestionLab.Held.exists_check`: the program of every event passes the check, and
  ends where the next event may be taken, or at the end of the loop.
* `IngestionLab.Service.covered_of_reachable`: hence in every state of the service the
  rest of the program is covered.
-/

namespace IngestionLab

open Go Function

namespace Service

variable {s t : Service}

/-! ### Frames -/

section Frame

variable (s) (run : Option ℕ) (F : Pipeline → Pipeline)

@[simp] theorem onPipeline_memory : (s.onPipeline run F).memory = s.memory := by cases run <;> rfl
@[simp] theorem onPipeline_control : (s.onPipeline run F).control = s.control := by cases run <;> rfl
@[simp] theorem onPipeline_prom : (s.onPipeline run F).prom = s.prom := by cases run <;> rfl
@[simp] theorem onPipeline_runtime : (s.onPipeline run F).runtime = s.runtime := by cases run <;> rfl
@[simp] theorem onPipeline_runs : (s.onPipeline run F).runs = s.runs := by cases run <;> rfl
@[simp] theorem onPipeline_exited : (s.onPipeline run F).exited = s.exited := by cases run <;> rfl
@[simp] theorem onPipeline_todo : (s.onPipeline run F).todo = s.todo := by cases run <;> rfl
@[simp] theorem onPipeline_rootCancelled : (s.onPipeline run F).rootCancelled = s.rootCancelled := by
  cases run <;> rfl
@[simp] theorem onPipeline_countedAtReset : (s.onPipeline run F).countedAtReset = s.countedAtReset := by
  cases run <;> rfl
@[simp] theorem onPipeline_responses : (s.onPipeline run F).responses = s.responses := by
  cases run <;> rfl

variable {s run F}

/-- Every other pipeline is left alone. -/
theorem onPipeline_of_notMem {i : ℕ} (h : i ∉ run) : (s.onPipeline run F).pipeline i = s.pipeline i := by
  cases run with
  | none => rfl
  | some j => exact update_of_ne (fun hc => h (by rw [hc]; rfl)) _ _

/-- The pipeline pointed to is changed. -/
theorem onPipeline_of_mem {i : ℕ} (h : i ∈ run) :
    (s.onPipeline run F).pipeline i = F (s.pipeline i) := by
  obtain rfl : run = some i := h
  exact update_self _ _ _

end Frame

/-- What a statement answers. -/
def answer (s : Service) : Stmt → List Response
  | .respond response => [response]
  | .respondStatus => [.status (s.control.runtimeStatusAt s.seen)]
  | _ => []

theorem responses_exec (s : Service) (i : Stmt) :
    (s.exec i).responses = s.responses ++ s.answer i := by
  cases i
  case respond response => rfl
  case respondStatus => rfl
  case startChannel c =>
    change (s.exec (.startChannel c)).responses = s.responses ++ []
    rw [exec, List.append_nil]
    split <;> rfl
  case setCapacity c value => cases c <;> exact (List.append_nil _).symm
  case seeChannel c => cases c <;> exact (List.append_nil _).symm
  all_goals simp [exec, onRun, onControls, onChannel, answer]

/-! ### Interference -/

/-- **What happens beside the event loop**: time passes, the root context is cancelled, a
goroutine of a pipeline acts. That the rest of the program is written down anew is no
interference at all. -/
inductive Interferes : Service → Service → Prop
  | clock (s : Service) (now : ℕ) : Interferes s { s with memory := { s.memory with now := now } }
  | cancelRoot (s : Service) : Interferes s { s with rootCancelled := true }
  | todo (s : Service) (todo : List Stmt) : Interferes s { s with todo := todo }
  | pipeline (s : Service) (run : ℕ) (a : Pipeline.Action) (hrun : run < s.runs)
      (ha : (s.pipeline run).Enabled s.rootCancelled s.memory a) :
      Interferes s { s with
        memory := Pipeline.remember s.memory a
        pipeline := update s.pipeline run ((s.pipeline run).next s.memory a) }

end Service

/-! ### The facts -/

/-- **What is known at a point of a program**: the run state, which pointers are set,
whether the sender pool of the last run has been started, which of its components are
known to have ended, and which telemetry is known to be blank. -/
structure Held where
  state : RunState
  exited : Bool := false
  readerBatches : Bool := false
  senderBatches : Bool := false
  senderPool : Bool := false
  cancelRun : Bool := false
  throttler : Bool := false
  readerPool : Bool := false
  senderStarted : Bool := true
  readerQuiet : Bool := true
  throttlerQuiet : Bool := true
  senderQuiet : Bool := true
  readerBlank : Bool := true
  senderBlank : Bool := true
  deriving DecidableEq

namespace Held

open Service

/-- No pointer is set. -/
def isEmpty (f : Held) : Bool :=
  !(f.readerBatches || f.senderBatches || f.senderPool || f.cancelRun || f.throttler || f.readerPool)

/-- Everything has ended. -/
def isQuiet (f : Held) : Bool := f.readerQuiet && f.throttlerQuiet && f.senderQuiet

/-- What holds of the pipeline of the last run. -/
structure Describes (f : Held) (q : Pipeline) : Prop where
  readerCloses : q.readerBatches.closes = if f.readerBatches then 0 else 1
  senderCloses : q.senderBatches.closes = if f.senderBatches then 0 else 1
  readerPool : f.readerPool = true → q.readerPool.isSome = true
  throttler : f.throttler = true → q.throttler.isSome = true
  senderPool : f.senderPool = true → q.senderPool.isSome = true
  fresh : f.senderStarted = false → q.senderPool = none
  readerQuiet : f.readerQuiet = true → q.ReaderQuiet
  throttlerQuiet : f.throttlerQuiet = true → q.ThrottlerQuiet
  senderQuiet : f.senderQuiet = true → q.SenderQuiet

/-- Which pointers are set, and that they point to the last run. -/
structure Pointers (f : Held) (r : Runtime) (runs : ℕ) : Prop where
  readerBatches : r.readerBatches.isSome = f.readerBatches
  senderBatches : r.senderBatches.isSome = f.senderBatches
  senderPool : r.senderPool.isSome = f.senderPool
  cancelRun : r.cancelRun.isSome = f.cancelRun
  throttler : r.throttler.isSome = f.throttler
  readerPool : r.readerPool.isSome = f.readerPool
  last : ∀ i, r.PointsTo i → i + 1 = runs

/-- **What the facts mean.** -/
structure Holds (f : Held) (s : Service) : Prop where
  state : s.control.run.state = f.state
  exited : s.exited = f.exited
  pointers : f.Pointers s.runtime s.runs
  free : f.isEmpty = true → f.isQuiet = true
  inOrder : ∀ i, (s.pipeline i).InOrder
  past : ∀ i, i + 1 < s.runs → (s.pipeline i).Ended
  describes : ∀ i, i + 1 = s.runs → f.Describes (s.pipeline i)
  readerBlank : f.readerBlank = true → f.isQuiet = true ∧ s.memory.readerChannel = {}
  senderBlank : f.senderBlank = true → f.isQuiet = true ∧ s.memory.senderChannel = {}

/-- What a statement makes of the facts, before it is asked whether the last pointer
may be dropped. -/
def step (f : Held) : Stmt → Option Held
  | .runStarted => some { f with state := .running }
  | .faultStart _ | .enterFaulted _ => some { f with state := .faulted }
  | .enterPaused => some { f with state := .paused }
  | .beginReset => some { f with state := .resetting }
  | .completeReset => some { f with state := .idle }
  | .exit => some { f with exited := true }
  | .startChannel .reader => some { f with readerBlank := false }
  | .startChannel .sender => some { f with senderBlank := false }
  | .detach .reader => some { f with readerBlank := f.isQuiet }
  | .detach .sender => some { f with senderBlank := f.isQuiet }
  | .makeRun =>
    if f.isEmpty then
      some { f with
        readerBatches := true
        senderBatches := true
        cancelRun := true
        senderStarted := false }
    else none
  | .startReaderPool _ =>
    if f.readerBatches && f.senderBatches then
      some { f with
        readerPool := true
        readerQuiet := false
        readerBlank := false
        senderBlank := false }
    else none
  | .startThrottler =>
    if f.readerBatches && f.senderBatches then
      some { f with
        throttler := true
        throttlerQuiet := false
        readerBlank := false
        senderBlank := false }
    else none
  | .startSender =>
    if f.readerBatches && f.senderBatches && !f.senderStarted then
      some { f with
        senderPool := true
        senderStarted := true
        senderQuiet := false
        readerBlank := false
        senderBlank := false }
    else none
  | .joinSender => some { f with senderPool := false, senderQuiet := f.senderPool || f.senderQuiet }
  | .forgetRun => some { f with cancelRun := false, senderStarted := true }
  | .joinReader => some { f with readerQuiet := f.readerPool || f.readerQuiet }
  | .joinThrottler => some { f with throttlerQuiet := f.throttler || f.throttlerQuiet }
  | .closeAndDrain .reader =>
    if !f.readerBatches || f.isQuiet then some { f with readerBatches := false } else none
  | .closeAndDrain .sender =>
    if !f.senderBatches || f.isQuiet then some { f with senderBatches := false } else none
  | .clearActive =>
    if f.readerBatches || f.senderBatches || f.senderPool then none
    else some { f with cancelRun := false, readerPool := false, throttler := false }
  | .callSender a =>
    if a.actor == .eventLoop && (!f.isEmpty || f.readerBlank && f.senderBlank) then some f else none
  | _ => some f

/-- **What a statement makes of the facts**, `none` where it is refused. -/
def after (f : Held) (i : Stmt) : Option Held := (f.step i).filter fun g => !g.isEmpty || g.isQuiet

/-- The event loop as a thread that keeps track of what the runtime holds. -/
def thread : Thread Service Stmt Held where
  Ready := Service.Ready
  exec := Service.exec
  Holds := Holds
  after := after

variable {f g : Held} {s t : Service} {q : Pipeline} {sh : Memory} {root : Bool}

/-! ### Beside the pipelines -/

/-- The goroutines of the last run leave what holds of its pipeline. -/
theorem Describes.next {a : Pipeline.Action} (h : f.Describes q) (ha : q.Enabled root sh a) :
    f.Describes (q.next sh a) := by
  have hpool : ∀ b, (q.stepReader sh b).readerPool.isSome = q.readerPool.isSome := fun b =>
    Option.isSome_map
  have hthr : ∀ b, (q.stepThrottler sh b).throttler.isSome = q.throttler.isSome := fun b =>
    Option.isSome_map
  have hsend : ∀ b, (q.stepSender sh b).senderPool.isSome = q.senderPool.isSome := fun b =>
    Option.isSome_map
  have hthere : (q.next sh a).readerPool.isSome = q.readerPool.isSome ∧
      (q.next sh a).throttler.isSome = q.throttler.isSome ∧
      (q.next sh a).senderPool.isSome = q.senderPool.isSome := by
    cases a with
    | reader b => exact ⟨hpool b, rfl, rfl⟩
    | throttler b => exact ⟨rfl, hthr b, rfl⟩
    | sender b => exact ⟨rfl, rfl, hsend b⟩
    | passToThrottler b b' => exact ⟨hpool b, hthr b', rfl⟩
    | passToSender b b' => exact ⟨rfl, hthr b, hsend b'⟩
  exact
    { readerCloses := (Pipeline.closes_next ha).1.trans h.readerCloses
      senderCloses := (Pipeline.closes_next ha).2.trans h.senderCloses
      readerPool := fun hf => hthere.1.trans (h.readerPool hf)
      throttler := fun hf => hthere.2.1.trans (h.throttler hf)
      senderPool := fun hf => hthere.2.2.trans (h.senderPool hf)
      fresh := fun hf => by
        rw [← Option.not_isSome_iff_eq_none, hthere.2.2, h.fresh hf]
        simp
      readerQuiet := fun hf => (h.readerQuiet hf).next ha
      throttlerQuiet := fun hf => (h.throttlerQuiet hf).next ha
      senderQuiet := fun hf => (h.senderQuiet hf).next ha }

/-- Everything known to have ended has. -/
theorem Describes.quiet (h : f.Describes q) (hf : f.isQuiet = true) : q.Quiet := by
  simp only [isQuiet, Bool.and_eq_true] at hf
  exact ⟨h.readerQuiet hf.1.1, h.throttlerQuiet hf.1.2, h.senderQuiet hf.2⟩

/-- When everything of the last run has ended, every run is quiet. -/
theorem Holds.quiet (h : f.Holds s) (hf : f.isQuiet = true) {i : ℕ} (hi : i < s.runs) :
    (s.pipeline i).Quiet := by
  by_cases hlast : i + 1 = s.runs
  · exact (h.describes i hlast).quiet hf
  · exact (h.past i (by omega)).quiet

/-- **The facts survive what happens beside the event loop.** -/
theorem Holds.interferes (h : f.Holds s) (hst : s.Interferes t) : f.Holds t := by
  cases hst with
  | clock now => exact { h with }
  | cancelRoot => exact { h with }
  | todo todo => exact { h with }
  | pipeline run a hrun ha =>
    have hcases : ∀ P : Pipeline → Prop, ∀ i, P (s.pipeline i) →
        (i = run → P ((s.pipeline run).next s.memory a)) →
        P (update s.pipeline run ((s.pipeline run).next s.memory a) i) := by
      intro P i hold hnew
      by_cases hi : i = run
      · rw [hi, update_self]
        exact hnew hi
      · rwa [update_of_ne hi]
    -- A blank record belongs to a time at which every pipeline is quiet.
    have hblank : f.isQuiet = true → Pipeline.remember s.memory a = s.memory := by
      intro hq
      refine Pipeline.remember_of_not_isOwn ?_
      by_contra hown
      exact Pipeline.not_enabled_of_quiet (h.inOrder run).sound (h.quiet hq hrun)
        (by simpa using hown) ha
    refine { h with inOrder := ?_, past := ?_, describes := ?_, readerBlank := ?_,
                    senderBlank := ?_ }
    · intro i
      exact hcases Pipeline.InOrder i (h.inOrder i) fun _ => (h.inOrder run).next ha
    · intro i hi
      exact hcases Pipeline.Ended i (h.past i hi) fun heq => (h.past run (heq ▸ hi)).next ha
    · intro i hi
      exact hcases f.Describes i (h.describes i hi) fun heq => (h.describes run (heq ▸ hi)).next ha
    · intro hf
      obtain ⟨hq, hb⟩ := h.readerBlank hf
      refine ⟨hq, ?_⟩
      change (Pipeline.remember s.memory a).readerChannel = {}
      rw [hblank hq, hb]
    · intro hf
      obtain ⟨hq, hb⟩ := h.senderBlank hf
      refine ⟨hq, ?_⟩
      change (Pipeline.remember s.memory a).senderChannel = {}
      rw [hblank hq, hb]

/-! ### Calls and waits -/

/-- A call of the reader pool leaves what holds of its pipeline. -/
theorem Describes.stepReader {b : ReaderPool.Action} (h : f.Describes q)
    (hen : ∀ p ∈ q.readerPool, p.Enabled sh b) : f.Describes (q.stepReader sh b) where
  readerCloses := h.readerCloses
  senderCloses := h.senderCloses
  readerPool hf := Option.isSome_map.trans (h.readerPool hf)
  throttler := h.throttler
  senderPool := h.senderPool
  fresh := h.fresh
  readerQuiet hf := (h.readerQuiet hf).stepReader hen
  throttlerQuiet := h.throttlerQuiet
  senderQuiet := h.senderQuiet

/-- A call of the throttler that leaves its position leaves what holds of its pipeline. -/
theorem Describes.stepThrottler {b : Throttler.Action} (h : f.Describes q)
    (hpc : ∀ t ∈ q.throttler, (t.next sh.now b).pc = t.pc) : f.Describes (q.stepThrottler sh b) where
  readerCloses := h.readerCloses
  senderCloses := h.senderCloses
  readerPool := h.readerPool
  throttler hf := Option.isSome_map.trans (h.throttler hf)
  senderPool := h.senderPool
  fresh := h.fresh
  readerQuiet := h.readerQuiet
  throttlerQuiet hf t ht := by
    obtain ⟨t', ht', rfl⟩ := Pipeline.mem_stepThrottler ht
    rw [hpc t' ht']
    exact h.throttlerQuiet hf t' ht'
  senderQuiet := h.senderQuiet

/-- A call of the sender pool leaves what holds of its pipeline. -/
theorem Describes.stepSender {b : SenderPool.Action} (h : f.Describes q)
    (hen : ∀ p ∈ q.senderPool, p.Enabled sh.now b) : f.Describes (q.stepSender sh b) where
  readerCloses := h.readerCloses
  senderCloses := h.senderCloses
  readerPool := h.readerPool
  throttler := h.throttler
  senderPool hf := Option.isSome_map.trans (h.senderPool hf)
  fresh hf := by
    change q.senderPool.map _ = none
    rw [h.fresh hf]
    rfl
  readerQuiet := h.readerQuiet
  throttlerQuiet := h.throttlerQuiet
  senderQuiet hf := (h.senderQuiet hf).stepSender hen

/-- The end of a wait for drained workers keeps the pipeline in order. -/
theorem inOrder_awaitReconciled (h : q.InOrder) : q.awaitReconciled.InOrder := by
  refine ⟨⟨h.sound.reader, fun p hp => ?_⟩, fun c hc => ?_⟩
  · obtain ⟨p', hp', rfl⟩ := Option.mem_map.mp hp
    obtain ⟨hw, hb, hj⟩ := h.sound.sender p' hp'
    exact ⟨{ hw with }, { hb with }, { hj with }⟩
  · obtain ⟨hle, hsent, hquiet⟩ := h.once c hc
    refine ⟨hle, hsent, fun h0 => ⟨(hquiet h0).reader, (hquiet h0).throttler, fun p hp => ?_⟩⟩
    obtain ⟨p', hp', rfl⟩ := Option.mem_map.mp hp
    exact (hquiet h0).sender p' hp'

/-- The end of a wait for drained workers leaves what holds of the pipeline. -/
theorem Describes.awaitReconciled (h : f.Describes q) : f.Describes q.awaitReconciled where
  readerCloses := h.readerCloses
  senderCloses := h.senderCloses
  readerPool := h.readerPool
  throttler := h.throttler
  senderPool hf := Option.isSome_map.trans (h.senderPool hf)
  fresh hf := by
    change q.senderPool.map _ = none
    rw [h.fresh hf]
    rfl
  readerQuiet := h.readerQuiet
  throttlerQuiet := h.throttlerQuiet
  senderQuiet hf p hp := by
    obtain ⟨p', hp', rfl⟩ := Option.mem_map.mp hp
    exact h.senderQuiet hf p' hp'

/-- The facts are about the run state, the runtime, the pipelines and the telemetry of
the channels. -/
theorem Holds.congr (h : f.Holds s) (hstate : t.control.run.state = s.control.run.state)
    (hexited : t.exited = s.exited) (hruntime : t.runtime = s.runtime) (hruns : t.runs = s.runs)
    (hpipeline : t.pipeline = s.pipeline)
    (hreader : s.memory.readerChannel = {} → t.memory.readerChannel = {})
    (hsender : s.memory.senderChannel = {} → t.memory.senderChannel = {}) : f.Holds t where
  state := hstate.trans h.state
  exited := hexited.trans h.exited
  pointers := by
    rw [hruntime, hruns]
    exact h.pointers
  free := h.free
  inOrder := by
    rw [hpipeline]
    exact h.inOrder
  past := by
    rw [hpipeline, hruns]
    exact h.past
  describes := by
    rw [hpipeline, hruns]
    exact h.describes
  readerBlank hf := ⟨(h.readerBlank hf).1, hreader (h.readerBlank hf).2⟩
  senderBlank hf := ⟨(h.senderBlank hf).1, hsender (h.senderBlank hf).2⟩

/-- A pointer that is set leads to the last run. -/
theorem Holds.mem_of_last (h : f.Holds s) {o : Option ℕ} (ho : ∀ j ∈ o, s.runtime.PointsTo j)
    (hsome : o.isSome = true) {i : ℕ} (hi : i + 1 = s.runs) : i ∈ o := by
  obtain ⟨j, hj⟩ := Option.isSome_iff_exists.mp hsome
  have := h.pointers.last j (ho j hj)
  rwa [show i = j by omega]

/-- **The rule for what is done to the last run**: it stays in order, and what is known
of it afterwards holds. -/
theorem Holds.of_last {r : Option ℕ} {F : Pipeline → Pipeline} (h : f.Holds s)
    (hrun : ∀ i ∈ r, s.runtime.PointsTo i) (hpipeline : t.pipeline = (s.onPipeline r F).pipeline)
    (hruns : t.runs = s.runs) (hstate : t.control.run.state = g.state) (hexited : t.exited = g.exited)
    (hpointers : g.Pointers t.runtime s.runs) (hfree : g.isEmpty = true → g.isQuiet = true)
    (hlast : ∀ i ∈ r, (s.pipeline i).InOrder → f.Describes (s.pipeline i) →
      (F (s.pipeline i)).InOrder ∧ g.Describes (F (s.pipeline i)))
    (hnone : r = none → ∀ q, f.Describes q → g.Describes q)
    (hreader : g.readerBlank = true → g.isQuiet = true ∧ t.memory.readerChannel = {})
    (hsender : g.senderBlank = true → g.isQuiet = true ∧ t.memory.senderChannel = {}) :
    g.Holds t := by
  have hptr : ∀ i ∈ r, i + 1 = s.runs := fun i hi => h.pointers.last i (hrun i hi)
  refine
    { state := hstate
      exited := hexited
      pointers := hruns ▸ hpointers
      free := hfree
      inOrder := fun i => ?_
      past := fun i hi => ?_
      describes := fun i hi => ?_
      readerBlank := hreader
      senderBlank := hsender }
  · rw [hpipeline]
    by_cases hi : i ∈ r
    · rw [onPipeline_of_mem hi]
      exact (hlast i hi (h.inOrder i) (h.describes i (hptr i hi))).1
    · rw [onPipeline_of_notMem hi]
      exact h.inOrder i
  · have hnot : i ∉ r := fun hc => by have := hptr i hc; omega
    rw [hpipeline, onPipeline_of_notMem hnot]
    exact h.past i (hruns ▸ hi)
  · rw [hpipeline]
    rw [hruns] at hi
    by_cases hmem : i ∈ r
    · rw [onPipeline_of_mem hmem]
      exact (hlast i hmem (h.inOrder i) (h.describes i hi)).2
    · rw [onPipeline_of_notMem hmem]
      refine hnone ?_ _ (h.describes i hi)
      by_contra hsome
      obtain ⟨j, hj⟩ := Option.ne_none_iff_exists'.mp hsome
      have := hptr j hj
      exact hmem (by rw [hj]; exact congrArg some (by omega))

/-- A call, or a wait, that leaves what holds of the last run. -/
theorem Holds.call {run : Option ℕ} {F : Pipeline → Pipeline} (h : f.Holds s)
    (hrun : ∀ i ∈ run, s.runtime.PointsTo i)
    (hF : ∀ i ∈ run, (s.pipeline i).InOrder → f.Describes (s.pipeline i) →
      (F (s.pipeline i)).InOrder ∧ f.Describes (F (s.pipeline i))) :
    f.Holds (s.onPipeline run F) :=
  h.of_last hrun rfl (onPipeline_runs ..) (by rw [onPipeline_control, h.state])
    (by rw [onPipeline_exited, h.exited]) (by rw [onPipeline_runtime]; exact h.pointers) h.free hF
    (fun _ _ hq => hq) (by rw [onPipeline_memory]; exact h.readerBlank)
    (by rw [onPipeline_memory]; exact h.senderBlank)

/-! ### The statements -/

section

-- every lemma of this section begins with an equation of `step`
attribute [local simp] step

/-- A run is made when no pointer is set: the run before it is one that has ended. -/
theorem Holds.makeRun (h : f.Holds s) (hf : f.isEmpty = true) (hg : f.step .makeRun = some g)
    (hfree : g.isEmpty = true → g.isQuiet = true) : g.Holds (s.exec .makeRun) := by
  have hquiet := h.free hf
  rw [step, if_pos hf, Option.some.injEq] at hg
  subst hg
  simp only [isEmpty, Bool.not_eq_true', Bool.or_eq_false_iff] at hf
  have hold : ∀ i, i ≠ s.runs → (s.exec .makeRun).pipeline i = s.pipeline i := fun i hi =>
    update_of_ne hi _ _
  have hnew : (s.exec .makeRun).pipeline s.runs =
      { readerBatches := Chan.make s.control.controls.readerChannelCapacity.toNat
        senderBatches := Chan.make s.control.controls.senderChannelCapacity.toNat } :=
    update_self _ _ _
  refine
    { state := h.state
      exited := h.exited
      pointers := ?_
      free := hfree
      inOrder := fun i => ?_
      past := fun i hi => ?_
      describes := fun i hi => ?_
      readerBlank := h.readerBlank
      senderBlank := h.senderBlank }
  · refine { h.pointers with
      readerBatches := rfl
      senderBatches := rfl
      cancelRun := rfl
      last := ?_ }
    have hnone : ∀ {o : Option ℕ} {b : Bool} {i : ℕ}, o.isSome = b → b = false → i ∈ o → False := by
      intro o b i ho hb hi
      rw [Option.isSome_iff_exists.mpr ⟨i, hi⟩, hb] at ho
      cases ho
    rintro i (hi | hi | hi | hi | hi | hi)
    · exact congrArg (· + 1) (Option.some.inj hi).symm
    · exact congrArg (· + 1) (Option.some.inj hi).symm
    · exact (hnone h.pointers.senderPool hf.1.1.1.2 hi).elim
    · exact congrArg (· + 1) (Option.some.inj hi).symm
    · exact (hnone h.pointers.throttler hf.1.2 hi).elim
    · exact (hnone h.pointers.readerPool hf.2 hi).elim
  · by_cases hi : i = s.runs
    · rw [hi, hnew]
      exact Pipeline.inOrder_of_none ⟨rfl, rfl⟩ ⟨rfl, rfl⟩
    · rw [hold i hi]
      exact h.inOrder i
  · have hi' : i + 1 < s.runs + 1 := hi
    rw [hold i (by omega)]
    by_cases hlast : i + 1 = s.runs
    · have hd := h.describes i hlast
      refine ⟨hd.quiet hquiet, hd.readerCloses.trans ?_, hd.senderCloses.trans ?_⟩
      · rw [hf.1.1.1.1.1]
        rfl
      · rw [hf.1.1.1.1.2]
        rfl
    · exact h.past i (by omega)
  · obtain rfl : i = s.runs := Nat.succ.inj hi
    rw [hnew]
    exact
      { readerCloses := rfl
        senderCloses := rfl
        readerPool := fun hc => absurd hc (by simp [hf])
        throttler := fun hc => absurd hc (by simp [hf])
        senderPool := fun hc => absurd hc (by simp [hf])
        fresh := fun _ => rfl
        readerQuiet := fun _ p hp => absurd hp (Option.not_mem_none p)
        throttlerQuiet := fun _ p hp => absurd hp (Option.not_mem_none p)
        senderQuiet := fun _ p hp => absurd hp (Option.not_mem_none p) }

/-- A component is started in the run made last: both channels are there and open. -/
theorem Holds.start {run : Option ℕ} {F : Pipeline → Pipeline} (h : f.Holds s)
    (hf : f.readerBatches = true ∧ f.senderBatches = true)
    (hrun : run = s.runtime.readerBatches ∨ run = s.runtime.senderBatches)
    (hpipeline : t.pipeline = (s.onPipeline run F).pipeline) (hruns : t.runs = s.runs)
    (hstate : t.control.run.state = g.state) (hexited : t.exited = g.exited)
    (hpointers : run.isSome = true → (∀ i ∈ run, s.runtime.PointsTo i) →
      g.Pointers t.runtime s.runs) (hfree : g.isEmpty = true → g.isQuiet = true)
    (hblank : g.readerBlank = false ∧ g.senderBlank = false)
    (hF : ∀ q, f.Describes q → q.Sound →
      (F q).Sound ∧ (F q).readerBatches = q.readerBatches ∧ (F q).senderBatches = q.senderBatches ∧
        g.Describes (F q)) : g.Holds t := by
  have hsome : run.isSome = true := by
    rcases hrun with rfl | rfl
    · exact h.pointers.readerBatches.trans hf.1
    · exact h.pointers.senderBatches.trans hf.2
  have hptr : ∀ i ∈ run, s.runtime.PointsTo i := by
    rcases hrun with rfl | rfl
    · exact fun i hi => Or.inl hi
    · exact fun i hi => Or.inr (Or.inl hi)
  refine h.of_last hptr hpipeline hruns hstate hexited (hpointers hsome hptr) hfree
    (fun i hi hq hd => ?_) ?_ (by rw [hblank.1]; nofun) (by rw [hblank.2]; nofun)
  · obtain ⟨hs, hr, hs', hg⟩ := hF _ hd hq.sound
    refine ⟨hq.of_open hs hr hs' (hd.readerCloses.trans ?_) (hd.senderCloses.trans ?_), hg⟩
    · rw [hf.1]
      rfl
    · rw [hf.2]
      rfl
  · rintro rfl
    cases hsome

/-- The reader pool is started. -/
theorem Holds.startReaderPool {files : List Path} (h : f.Holds s)
    (hg : f.step (.startReaderPool files) = some g) (hfree : g.isEmpty = true → g.isQuiet = true) :
    g.Holds (s.exec (.startReaderPool files)) := by
  rw [step] at hg
  split at hg
  case isFalse => exact absurd hg nofun
  case isTrue hf =>
    obtain rfl := Option.some.inj hg
    rw [Bool.and_eq_true] at hf
    refine h.start hf (Or.inl rfl) rfl (onPipeline_runs ..) ?_ ?_ (fun hsome hptr => ?_) hfree
      ⟨rfl, rfl⟩ fun q hd hq => ⟨⟨?_, hq.sender⟩, rfl, rfl, ?_⟩
    · simp [Service.exec, h.state]
    · simp [Service.exec, h.exited]
    · simp only [Service.exec]
      refine { h.pointers with
        readerPool := hsome
        last := fun i hi => h.pointers.last i ?_ }
      simp only [Runtime.PointsTo] at hi ⊢
      tauto
    · rintro p hp
      obtain rfl := Option.some.inj hp
      exact ReaderPool.wellFormed_start ..
    · exact { hd with
        readerPool := fun _ => rfl
        readerQuiet := nofun }

/-- The throttler is started. -/
theorem Holds.startThrottler (h : f.Holds s) (hg : f.step .startThrottler = some g)
    (hfree : g.isEmpty = true → g.isQuiet = true) : g.Holds (s.exec .startThrottler) := by
  rw [step] at hg
  split at hg
  case isFalse => exact absurd hg nofun
  case isTrue hf =>
    obtain rfl := Option.some.inj hg
    rw [Bool.and_eq_true] at hf
    refine h.start hf (Or.inl rfl) rfl (onPipeline_runs ..) ?_ ?_ (fun hsome hptr => ?_) hfree
      ⟨rfl, rfl⟩ fun q hd hq => ⟨⟨hq.reader, hq.sender⟩, rfl, rfl, ?_⟩
    · simp [Service.exec, h.state]
    · simp [Service.exec, h.exited]
    · simp only [Service.exec]
      refine { h.pointers with
        throttler := hsome
        last := fun i hi => h.pointers.last i ?_ }
      simp only [Runtime.PointsTo] at hi ⊢
      tauto
    · exact { hd with
        throttler := fun _ => rfl
        throttlerQuiet := nofun }

/-- The sender pool is started. -/
theorem Holds.startSender (h : f.Holds s) (hg : f.step .startSender = some g)
    (hfree : g.isEmpty = true → g.isQuiet = true) : g.Holds (s.exec .startSender) := by
  rw [step] at hg
  split at hg
  case isFalse => exact absurd hg nofun
  case isTrue hf =>
    obtain rfl := Option.some.inj hg
    rw [Bool.and_eq_true, Bool.and_eq_true] at hf
    refine h.start hf.1 (Or.inr rfl) rfl (onPipeline_runs ..) ?_ ?_ (fun hsome hptr => ?_) hfree
      ⟨rfl, rfl⟩ fun q hd hq => ⟨⟨hq.reader, ?_⟩, rfl, rfl, ?_⟩
    · simp [Service.exec, h.state]
    · simp [Service.exec, h.exited]
    · simp only [Service.exec]
      refine { h.pointers with
        senderPool := hsome
        last := fun i hi => h.pointers.last i ?_ }
      simp only [Runtime.PointsTo] at hi ⊢
      tauto
    · rintro p hp
      obtain rfl := Option.some.inj hp
      exact ⟨SenderPool.wellFormed_startSenderPool ..,
        SenderPool.boundary_joining_startSenderPool ..⟩
    · exact { hd with
        senderPool := fun _ => rfl
        fresh := nofun
        senderQuiet := nofun }

/-- **The rule for a pointer that is dropped**, or for a wait that is over: what the
runtime points to is less than before, and more is known of the last run. -/
theorem Holds.drop (h : f.Holds s) (hpipeline : t.pipeline = s.pipeline) (hruns : t.runs = s.runs)
    (hstate : t.control.run.state = g.state) (hexited : t.exited = g.exited)
    (hmemory : t.memory = s.memory) (hpointers : g.Pointers t.runtime s.runs)
    (hfree : g.isEmpty = true → g.isQuiet = true) (hquiet : f.isQuiet = true → g.isQuiet = true)
    (hblank : g.readerBlank = f.readerBlank ∧ g.senderBlank = f.senderBlank)
    (hD : ∀ i, i + 1 = s.runs → f.Describes (s.pipeline i) → g.Describes (s.pipeline i)) :
    g.Holds t where
  state := hstate
  exited := hexited
  pointers := hruns ▸ hpointers
  free := hfree
  inOrder := hpipeline ▸ h.inOrder
  past := hpipeline ▸ hruns ▸ h.past
  describes i hi := hpipeline ▸ hD i (hruns ▸ hi) (h.describes i (hruns ▸ hi))
  readerBlank hb := by
    rw [hmemory]
    exact ⟨hquiet (h.readerBlank (hblank.1 ▸ hb)).1, (h.readerBlank (hblank.1 ▸ hb)).2⟩
  senderBlank hb := by
    rw [hmemory]
    exact ⟨hquiet (h.senderBlank (hblank.2 ▸ hb)).1, (h.senderBlank (hblank.2 ▸ hb)).2⟩

/-- The sender pool has been waited for, and is forgotten. -/
theorem Holds.joinSender (h : f.Holds s) (hi : s.Ready .joinSender)
    (hg : f.step .joinSender = some g) (hfree : g.isEmpty = true → g.isQuiet = true) :
    g.Holds (s.exec .joinSender) := by
  obtain rfl := Option.some.inj hg
  refine h.drop rfl rfl h.state h.exited rfl ?_ hfree (fun hq => ?_) ⟨rfl, rfl⟩ fun i hlast hd => ?_
  · refine { h.pointers with
      senderPool := rfl
      last := fun i hi => h.pointers.last i ?_ }
    simp only [Service.exec, Runtime.PointsTo, Option.not_mem_none] at hi ⊢
    tauto
  · simp only [isQuiet, Bool.and_eq_true, Bool.or_eq_true] at hq ⊢
    exact ⟨hq.1, Or.inr hq.2⟩
  · refine { hd with
      senderPool := nofun
      senderQuiet := fun hf => ?_ }
    rcases Bool.or_eq_true_iff.mp hf with hpool | hquiet
    · obtain ⟨j, hj⟩ := Option.isSome_iff_exists.mp (h.pointers.senderPool.trans hpool)
      have hij : j = i := by
        have := h.pointers.last j (Or.inr (Or.inr (Or.inl hj)))
        omega
      exact fun p hp => hi j hj p (hij ▸ hp)
    · exact hd.senderQuiet hquiet

/-- The reader pool has been waited for. -/
theorem Holds.joinReader (h : f.Holds s) (hi : s.Ready .joinReader)
    (hg : f.step .joinReader = some g) (hfree : g.isEmpty = true → g.isQuiet = true) :
    g.Holds (s.exec .joinReader) := by
  obtain rfl := Option.some.inj hg
  refine h.drop rfl rfl h.state h.exited rfl { h.pointers with } hfree (fun hq => ?_) ⟨rfl, rfl⟩
    fun i hlast hd => ?_
  · simp only [isQuiet, Bool.and_eq_true, Bool.or_eq_true] at hq ⊢
    exact ⟨⟨Or.inr hq.1.1, hq.1.2⟩, hq.2⟩
  · refine { hd with readerQuiet := fun hf => ?_ }
    rcases Bool.or_eq_true_iff.mp hf with hpool | hquiet
    · obtain ⟨j, hj⟩ := Option.isSome_iff_exists.mp (h.pointers.readerPool.trans hpool)
      have hij : j = i := by
        have := h.pointers.last j (by simp only [Runtime.PointsTo]; tauto)
        omega
      exact fun p hp => hi j hj p (hij ▸ hp)
    · exact hd.readerQuiet hquiet

/-- The throttler has been waited for. -/
theorem Holds.joinThrottler (h : f.Holds s) (hi : s.Ready .joinThrottler)
    (hg : f.step .joinThrottler = some g) (hfree : g.isEmpty = true → g.isQuiet = true) :
    g.Holds (s.exec .joinThrottler) := by
  obtain rfl := Option.some.inj hg
  refine h.drop rfl rfl h.state h.exited rfl { h.pointers with } hfree (fun hq => ?_) ⟨rfl, rfl⟩
    fun i hlast hd => ?_
  · simp only [isQuiet, Bool.and_eq_true, Bool.or_eq_true] at hq ⊢
    exact ⟨⟨hq.1.1, Or.inr hq.1.2⟩, hq.2⟩
  · refine { hd with throttlerQuiet := fun hf => ?_ }
    rcases Bool.or_eq_true_iff.mp hf with hpool | hquiet
    · obtain ⟨j, hj⟩ := Option.isSome_iff_exists.mp (h.pointers.throttler.trans hpool)
      have hij : j = i := by
        have := h.pointers.last j (by simp only [Runtime.PointsTo]; tauto)
        omega
      exact fun p hp => hi j hj p (hij ▸ hp)
    · exact hd.throttlerQuiet hquiet

/-- What a run leaves behind is forgotten. -/
theorem Holds.clearActive (h : f.Holds s) (hg : f.step .clearActive = some g)
    (hfree : g.isEmpty = true → g.isQuiet = true) : g.Holds (s.exec .clearActive) := by
  rw [step] at hg
  split at hg
  case isTrue => exact absurd hg nofun
  case isFalse =>
    obtain rfl := Option.some.inj hg
    refine h.drop rfl rfl h.state h.exited rfl ?_ hfree id ⟨rfl, rfl⟩ fun i _ hd =>
      { hd with
        readerPool := nofun
        throttler := nofun }
    refine { h.pointers with
      cancelRun := rfl
      readerPool := rfl
      throttler := rfl
      last := fun i hi => h.pointers.last i ?_ }
    simp only [Service.exec, Runtime.PointsTo, Option.not_mem_none] at hi ⊢
    tauto

/-- The context of the run is forgotten. -/
theorem Holds.forgetRun (h : f.Holds s) (hg : f.step .forgetRun = some g)
    (hfree : g.isEmpty = true → g.isQuiet = true) : g.Holds (s.exec .forgetRun) := by
  obtain rfl := Option.some.inj hg
  refine h.drop rfl rfl h.state h.exited rfl ?_ hfree id ⟨rfl, rfl⟩ fun i _ hd =>
    { hd with fresh := nofun }
  refine { h.pointers with
    cancelRun := rfl
    last := fun i hi => h.pointers.last i ?_ }
  simp only [Service.exec, Runtime.PointsTo, Option.not_mem_none] at hi ⊢
  tauto

/-- A channel is closed and drained when everything has ended. -/
theorem Holds.closeAndDrain {c : ChannelName} (h : f.Holds s)
    (hg : f.step (.closeAndDrain c) = some g) (hfree : g.isEmpty = true → g.isQuiet = true) :
    g.Holds (s.exec (.closeAndDrain c)) := by
  cases c
  case reader =>
    rw [step] at hg
    split at hg
    case isFalse => exact absurd hg nofun
    case isTrue hf =>
      obtain rfl := Option.some.inj hg
      rw [Bool.or_eq_true, Bool.not_eq_true'] at hf
      refine h.of_last (r := s.runtime.readerBatches) (fun i hi => Or.inl hi) rfl
        (onPipeline_runs ..) ?_ ?_ ?_ hfree (fun i hi hq hd => ?_) (fun hnone q hd => ?_) ?_ ?_
      · simp [Service.exec, h.state]
      · simp [Service.exec, h.exited]
      · refine { h.pointers with
          readerBatches := rfl
          last := fun i hi => h.pointers.last i ?_ }
        simp only [Service.exec, Runtime.PointsTo, Runtime.dropChannel, Option.not_mem_none] at hi ⊢
        tauto
      · have hthere : f.readerBatches = true :=
          h.pointers.readerBatches.symm.trans (Option.isSome_iff_exists.mpr ⟨i, hi⟩)
        have hquiet : f.isQuiet = true := hf.resolve_left (by rw [hthere]; nofun)
        have h0 : (s.pipeline i).readerBatches.closes = 0 := by rw [hd.readerCloses, hthere]; rfl
        refine ⟨hq.closeReader (hd.quiet hquiet) h0, { hd with readerCloses := ?_ }⟩
        exact congrArg (· + 1) h0
      · have hgone : f.readerBatches = false := by
          rw [← h.pointers.readerBatches, hnone]
          rfl
        refine { hd with readerCloses := ?_ }
        rw [hd.readerCloses, hgone]
      · simp only [Service.exec, onPipeline_memory]
        exact h.readerBlank
      · simp only [Service.exec, onPipeline_memory]
        exact h.senderBlank
  case sender =>
    rw [step] at hg
    split at hg
    case isFalse => exact absurd hg nofun
    case isTrue hf =>
      obtain rfl := Option.some.inj hg
      rw [Bool.or_eq_true, Bool.not_eq_true'] at hf
      refine h.of_last (r := s.runtime.senderBatches) (fun i hi => Or.inr (Or.inl hi)) rfl
        (onPipeline_runs ..) ?_ ?_ ?_ hfree (fun i hi hq hd => ?_) (fun hnone q hd => ?_) ?_ ?_
      · simp [Service.exec, h.state]
      · simp [Service.exec, h.exited]
      · refine { h.pointers with
          senderBatches := rfl
          last := fun i hi => h.pointers.last i ?_ }
        simp only [Service.exec, Runtime.PointsTo, Runtime.dropChannel, Option.not_mem_none] at hi ⊢
        tauto
      · have hthere : f.senderBatches = true :=
          h.pointers.senderBatches.symm.trans (Option.isSome_iff_exists.mpr ⟨i, hi⟩)
        have hquiet : f.isQuiet = true := hf.resolve_left (by rw [hthere]; nofun)
        have h0 : (s.pipeline i).senderBatches.closes = 0 := by rw [hd.senderCloses, hthere]; rfl
        refine ⟨hq.closeSender (hd.quiet hquiet) h0, { hd with senderCloses := ?_ }⟩
        exact congrArg (· + 1) h0
      · have hgone : f.senderBatches = false := by
          rw [← h.pointers.senderBatches, hnone]
          rfl
        refine { hd with senderCloses := ?_ }
        rw [hd.senderCloses, hgone]
      · simp only [Service.exec, onPipeline_memory]
        exact h.readerBlank
      · simp only [Service.exec, onPipeline_memory]
        exact h.senderBlank

end

/-- A statement that changes the run state and nothing else the facts are about. -/
theorem Holds.run {state : RunState} (h : f.Holds s) (hstate : t.control.run.state = state)
    (hexited : t.exited = s.exited) (hruntime : t.runtime = s.runtime) (hruns : t.runs = s.runs)
    (hpipeline : t.pipeline = s.pipeline) (hmemory : t.memory = s.memory) :
    Holds { f with state := state } t where
  state := hstate
  exited := hexited.trans h.exited
  pointers := by
    rw [hruntime, hruns]
    exact { h.pointers with }
  free := h.free
  inOrder := hpipeline ▸ h.inOrder
  past := hpipeline ▸ hruns ▸ h.past
  describes i hi := hpipeline ▸ { h.describes i (hruns ▸ hi) with }
  readerBlank := hmemory ▸ h.readerBlank
  senderBlank := hmemory ▸ h.senderBlank

/-- Blank telemetry stays blank when its measurements are cleared. -/
theorem blank_clearMeasurements {m : ChannelTelemetry} (h : m = {}) : m.clearMeasurements = {} := by
  rw [h]
  rfl

/-- Blank telemetry stays blank when an interval is started. -/
theorem blank_startInterval {m : ChannelTelemetry} (h : m = {}) : m.startInterval = {} := by
  rw [h]
  rfl

/-- Blank telemetry stays blank when it is sampled. -/
theorem blank_sample {m : ChannelTelemetry} {window : ℤ} (h : m = {}) : m.sample window = {} := by
  rw [h]
  simp [ChannelTelemetry.sample]

/-- **A statement that is not refused establishes the facts it is said to.** -/
theorem Holds.exec {i : Stmt} (h : f.Holds s) (hi : s.Ready i) (hg : f.after i = some g) :
    g.Holds (s.exec i) := by
  obtain ⟨hstep, hkeep⟩ := Option.filter_eq_some_iff.mp hg
  have hfree : g.isEmpty = true → g.isQuiet = true := by
    intro hempty
    simpa [hempty] using hkeep
  have hreaders : ∀ i ∈ s.runtime.readerPool, s.runtime.PointsTo i := fun i hi => by
    simp only [Runtime.PointsTo]
    tauto
  have hsenders : ∀ i ∈ s.runtime.senderPool, s.runtime.PointsTo i := fun i hi => by
    simp only [Runtime.PointsTo]
    tauto
  have hthrottlers : ∀ i ∈ s.runtime.throttler, s.runtime.PointsTo i := fun i hi => by
    simp only [Runtime.PointsTo]
    tauto
  have hcontexts : ∀ i ∈ s.runtime.cancelRun, s.runtime.PointsTo i := fun i hi => by
    simp only [Runtime.PointsTo]
    tauto
  cases i with
  | makeRun => 
    by_cases hf : f.isEmpty = true
    · exact h.makeRun hf hstep hfree
    · rw [step, if_neg hf] at hstep
      exact absurd hstep nofun
  | startReaderPool files => exact h.startReaderPool hstep hfree
  | startThrottler => exact h.startThrottler hstep hfree
  | startSender => exact h.startSender hstep hfree
  | joinSender => exact h.joinSender hi hstep hfree
  | joinReader => exact h.joinReader hi hstep hfree
  | joinThrottler => exact h.joinThrottler hi hstep hfree
  | closeAndDrain c => exact h.closeAndDrain hstep hfree
  | clearActive => exact h.clearActive hstep hfree
  | forgetRun => exact h.forgetRun hstep hfree
  | reconcileReader =>
    obtain rfl := Option.some.inj hstep
    rw [Service.exec]
    exact h.call hreaders fun i hmem hq hd => ⟨hq.stepReader (hi i hmem), hd.stepReader (hi i hmem)⟩
  | reconcileSender =>
    obtain rfl := Option.some.inj hstep
    rw [Service.exec]
    exact h.call hsenders fun i hmem hq hd => ⟨hq.stepSender (hi i hmem), hd.stepSender (hi i hmem)⟩
  | callSender a =>
    rw [step] at hstep
    split at hstep
    case isFalse => exact absurd hstep nofun
    case isTrue =>
      obtain rfl := Option.some.inj hstep
      rw [Service.exec]
      exact h.call hsenders fun i hmem hq hd =>
        ⟨hq.stepSender (hi i hmem), hd.stepSender (hi i hmem)⟩
  | awaitReconciled =>
    obtain rfl := Option.some.inj hstep
    rw [Service.exec]
    exact h.call hsenders fun i _ hq hd => ⟨inOrder_awaitReconciled hq, hd.awaitReconciled⟩
  | offerSettings =>
    obtain rfl := Option.some.inj hstep
    rw [Service.exec]
    exact h.call hthrottlers fun i _ hq hd => ⟨hq.stepThrottler fun _ _ => rfl, hd.stepThrottler fun _ _ => rfl⟩
  | awaitUpdate =>
    obtain rfl := Option.some.inj hstep
    rw [Service.exec]
    exact h.call hthrottlers fun i _ hq hd => ⟨hq.stepThrottler fun _ _ => rfl, hd.stepThrottler fun _ _ => rfl⟩
  | cancelRun =>
    obtain rfl := Option.some.inj hstep
    rw [Service.exec]
    exact h.call hcontexts fun i _ hq hd => ⟨hq.cancelRun, { hd with }⟩
  | runStarted =>
    obtain rfl := Option.some.inj hstep
    exact h.run rfl rfl rfl rfl rfl rfl
  | faultStart error =>
    obtain rfl := Option.some.inj hstep
    exact h.run rfl rfl rfl rfl rfl rfl
  | enterFaulted error =>
    obtain rfl := Option.some.inj hstep
    exact h.run rfl rfl rfl rfl rfl rfl
  | enterPaused =>
    obtain rfl := Option.some.inj hstep
    exact h.run rfl rfl rfl rfl rfl rfl
  | beginReset =>
    obtain rfl := Option.some.inj hstep
    exact h.run rfl rfl rfl rfl rfl rfl
  | completeReset =>
    obtain rfl := Option.some.inj hstep
    exact h.run rfl rfl rfl rfl rfl rfl
  | exit =>
    obtain rfl := Option.some.inj hstep
    exact { h with
      exited := rfl
      pointers := { h.pointers with }
      describes := fun i hi => { h.describes i hi with } }
  | startChannel c =>
    rw [Service.exec]
    cases c
    · obtain rfl := Option.some.inj hstep
      cases s.runtime.channel .reader
      all_goals
        exact { h with
          pointers := { h.pointers with }
          describes := fun i hi => { h.describes i hi with }
          readerBlank := nofun }
    · obtain rfl := Option.some.inj hstep
      cases s.runtime.channel .sender
      all_goals
        exact { h with
          pointers := { h.pointers with }
          describes := fun i hi => { h.describes i hi with }
          senderBlank := nofun }
  | detach c =>
    cases c
    · obtain rfl := Option.some.inj hstep
      exact { h with
        pointers := { h.pointers with }
        describes := fun i hi => { h.describes i hi with }
        readerBlank := fun hb => ⟨hb, rfl⟩ }
    · obtain rfl := Option.some.inj hstep
      exact { h with
        pointers := { h.pointers with }
        describes := fun i hi => { h.describes i hi with }
        senderBlank := fun hb => ⟨hb, rfl⟩ }
  | clearMeasurements c =>
    obtain rfl := Option.some.inj hstep
    cases c
    · exact h.congr rfl rfl rfl rfl rfl blank_clearMeasurements id
    · exact h.congr rfl rfl rfl rfl rfl id blank_clearMeasurements
  | startInterval c =>
    obtain rfl := Option.some.inj hstep
    cases c
    · exact h.congr rfl rfl rfl rfl rfl blank_startInterval id
    · exact h.congr rfl rfl rfl rfl rfl id blank_startInterval
  | sampleChannel c =>
    obtain rfl := Option.some.inj hstep
    cases c
    · exact h.congr rfl rfl rfl rfl rfl blank_sample id
    · exact h.congr rfl rfl rfl rfl rfl id blank_sample
  | seeChannel c =>
    obtain rfl := Option.some.inj hstep
    cases c <;> exact h.congr rfl rfl rfl rfl rfl id id
  | setCapacity c value =>
    obtain rfl := Option.some.inj hstep
    cases c <;> exact h.congr rfl rfl rfl rfl rfl id id
  | _ =>
    obtain rfl := Option.some.inj hstep
    exact h.congr rfl rfl rfl rfl rfl id id

/-- **The facts are sound** beside the pipelines. -/
theorem sound : thread.Sound Interferes where
  env _ _ _ h hst := h.interferes hst
  exec _ _ _ _ h hi hg := h.exec hi hg

/-! ### The programs -/

/-- **What the runtime holds between two events**: everything in an active run, nothing
otherwise. -/
def rest (state : RunState) : Held where
  state := state
  readerBatches := state.isActive
  senderBatches := state.isActive
  senderPool := state.isActive
  cancelRun := state.isActive
  throttler := state.isActive
  readerPool := state.isActive
  readerQuiet := !state.isActive
  throttlerQuiet := !state.isActive
  senderQuiet := !state.isActive
  readerBlank := !state.isActive
  senderBlank := !state.isActive

/-- The facts a program may end with: those between two events, or that the loop has
been left. -/
def Final (f : Held) : Prop := f.exited = true ∨ f = rest f.state ∧ f.state ≠ .resetting

/-- **The program of every event passes the check**, and ends where the next event may
be taken, or at the end of the loop. -/
theorem exists_check (s : Service) (e : Event) (hs : s.control.run.state ≠ .resetting) :
    ∃ g, thread.check (rest s.control.run.state) (s.program e) = some g ∧ g.Final := by
  have hprogram := program_cases s e
  generalize s.control.run.state = state at hs hprogram ⊢
  generalize s.program e = p at hprogram ⊢
  cases state
  case resetting => exact absurd rfl hs
  all_goals
    cases hprogram with
    | exit => exact ⟨_, rfl, Or.inl rfl⟩
    | _ => exact ⟨_, rfl, Or.inr ⟨rfl, nofun⟩⟩

/-- Taking an event leaves what is known. -/
theorem Holds.take {e : Event} (h : f.Holds s) (he : e.Enabled s) : f.Holds (s.take e) := by
  cases e with
  | sourceError error =>
    obtain ⟨i, hi, p, hp, herror⟩ := he
    have hen : ∀ j ∈ s.runtime.readerPool, ∀ p' ∈ (s.pipeline j).readerPool,
        p'.Enabled s.memory (.receiveError error) := by
      intro j hj p' hp'
      obtain rfl := Option.mem_unique hi hj
      obtain rfl := Option.mem_unique hp hp'
      exact herror
    have hcall : f.Holds (s.onPipeline s.runtime.readerPool
        (·.stepReader s.memory (.receiveError error))) :=
      h.call (fun i hi => by simp only [Runtime.PointsTo]; tauto) fun j hj hq hd =>
        ⟨hq.stepReader (hen j hj), hd.stepReader (hen j hj)⟩
    exact hcall.interferes (.todo _ _)
  | done => exact h.interferes (.todo _ _)
  | requestsClosed => exact h.interferes (.todo _ _)
  | command c => exact h.interferes (.todo _ _)
  | tick now => exact h.interferes (.todo _ _)

end Held

namespace Service

open Held

variable {s : Service} {cfg : Config} {now : ℕ}

/-- Nothing is held when the event loop starts. -/
theorem holds_newService (cfg : Config) (now : ℕ) : (rest .idle).Holds (newService cfg now) where
  state := rfl
  exited := rfl
  pointers := by
    refine ⟨rfl, rfl, rfl, rfl, rfl, rfl, fun i hi => ?_⟩
    simp [newService, Runtime.PointsTo] at hi
  free _ := rfl
  inOrder _ := Pipeline.inOrder_of_none ⟨rfl, rfl⟩ ⟨rfl, rfl⟩
  past i hi := absurd hi (Nat.not_lt_zero _)
  describes i hi := absurd hi (Nat.succ_ne_zero i)
  readerBlank _ := ⟨rfl, rfl⟩
  senderBlank _ := ⟨rfl, rfl⟩

/-- **The rule for a run**: facts that are sound, cover what is to be executed and justify
the program of every event the run takes cover the rest of the program at its end. -/
theorem covered_of_run {φ : Type*} {T : Thread Service Stmt φ} {F : φ → Prop}
    (hready : T.Ready = Ready) (hexec : T.exec = exec) (hT : T.Sound Interferes)
    {as : List Action}
    (hevent : ∀ s e, .event e ∈ as → s.exited = false → e.Enabled s → T.Covered F s [] →
      T.Covered F (s.take e) (s.program e))
    (hs : T.Covered F s s.todo) (hrun : machine.Run s as) :
    T.Covered F (machine.after s as) (machine.after s as).todo := by
  induction as generalizing s with
  | nil => exact hs
  | cons a as ih =>
    obtain ⟨ha, hrest⟩ := hrun
    refine ih (fun u e he => hevent u e (List.mem_cons_of_mem a he)) ?_ hrest
    cases a with
    | clock now => exact hs.env hT (.clock s now)
    | cancelRoot => exact hs.env hT (.cancelRoot s)
    | pipeline run a => exact hs.env hT (.pipeline s run a ha.1 ha.2)
    | exec =>
      obtain ⟨i, hi, hi'⟩ := ha
      obtain ⟨rest, htodo⟩ := List.head?_eq_some_iff.mp hi
      rw [htodo] at hs
      have hnext := (hs.exec hT (by rwa [hready])).env hT (.todo _ rest)
      rw [hexec] at hnext
      simpa only [machine, htodo] using hnext
    | event e =>
      obtain ⟨htodo, hexited, he⟩ := ha
      rw [htodo] at hs
      exact hevent s e List.mem_cons_self hexited he hs

/-- **The rule for the event loop**: facts that are sound, hold when the loop starts and
justify the program of every event that may be taken cover the rest of the program in
every state of the service. -/
theorem covered_of_sound {φ : Type*} {T : Thread Service Stmt φ} {Final : φ → Prop}
    (hready : T.Ready = Ready) (hexec : T.exec = exec) (hT : T.Sound Interferes)
    (hstart : T.Covered Final (newService cfg now) [])
    (hevent : ∀ s e, s.exited = false → e.Enabled s → T.Covered Final s [] →
      T.Covered Final (s.take e) (s.program e))
    (h : machine.Reachable (newService cfg now) s) : T.Covered Final s s.todo := by
  obtain ⟨as, hrun, rfl⟩ := h
  exact covered_of_run hready hexec hT (fun s e _ => hevent s e) hstart hrun

/-- **In every state of the service the rest of the program is covered**: what the
runtime holds is known, at the end of the program as the facts between two events say. -/
theorem covered_of_reachable (h : machine.Reachable (newService cfg now) s) :
    Held.thread.Covered Final s s.todo := by
  refine covered_of_sound rfl rfl Held.sound
    ⟨rest .idle, rest .idle, holds_newService cfg now, rfl, Or.inr ⟨rfl, nofun⟩⟩
    (fun s e hexited he hs => ?_) h
  obtain ⟨f, hf, hfinal⟩ := hs.final
  rcases hfinal with hleft | ⟨hrest, hstate⟩
  · exact absurd (hf.exited.symm.trans hexited) (by rw [hleft]; nofun)
  · obtain ⟨g, hg, hgfinal⟩ := exists_check s e (by rw [hf.state]; exact hstate)
    rw [hf.state, ← hrest] at hg
    exact ⟨f, g, hf.take he, hg, hgfinal⟩

/-- What the runtime holds is always known. -/
theorem exists_holds (h : machine.Reachable (newService cfg now) s) : ∃ f : Held, f.Holds s := by
  obtain ⟨f, -, hf, -⟩ := covered_of_reachable h
  exact ⟨f, hf⟩

/-- **Between two events** the runtime holds everything in an active run and nothing
otherwise. -/
theorem holds_rest (h : machine.Reachable (newService cfg now) s) (htodo : s.todo = [])
    (hexited : s.exited = false) :
    (rest s.control.run.state).Holds s ∧ s.control.run.state ≠ .resetting := by
  have hcovered := covered_of_reachable h
  rw [htodo] at hcovered
  obtain ⟨f, hf, hfinal⟩ := hcovered.final
  rcases hfinal with hleft | ⟨hrest, hstate⟩
  · exact absurd (hf.exited.symm.trans hexited) (by rw [hleft]; nofun)
  · rw [hf.state]
    exact ⟨hrest ▸ hf, hstate⟩

end Service

end IngestionLab
