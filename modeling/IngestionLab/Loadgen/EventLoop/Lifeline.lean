import IngestionLab.Loadgen.EventLoop.Elapsed
import IngestionLab.Loadgen.EventLoop.Measured

/-!
# The life of one run

The service has one pipeline for every run so far, and what happens to one of them comes
from two sides: its goroutines act, and the event loop makes it, starts its components,
calls them and closes its channels. Seen from one pipeline this is a machine of its own
(`IngestionLab.Pipeline.lifeline`), whose actions (`IngestionLab.Pipeline.Change`) carry
what may be relied on where they happen.

* `IngestionLab.Service.history`: what happens to one pipeline in the course of a run of
  the service, as an observer notes it.
* `IngestionLab.Service.lifeline_of_run`: **the history of a pipeline is a run of the
  lifeline** and leads to the pipeline as it is, so that what every change keeps holds of
  every pipeline of every run of the service.

That the event loop starts a component only where there is none and closes a channel only
once, in a quiet pipeline, is what its programs are checked for
(`IngestionLab.Service.builder`).
-/

namespace IngestionLab

open Go Function

/-! ### The lifeline -/

/-- The rate of a throttler is one that is allowed. -/
def ThrottlerSettings.Allowed (cfg : Config) (settings : ThrottlerSettings) : Prop :=
  cfg.throttler.requestedTPS.contains settings.requestedTPS = true

namespace Pipeline

/-- **What may happen to the pipeline of one run**: the run is made, a goroutine acts, a
component is started or called, the run is cancelled, a channel is closed and drained. -/
inductive Change
  | make (readerCapacity senderCapacity : ℕ)
  | goroutine (a : Action)
  | startReaderPool (dataPath : Path) (batchSize workers : ℕ) (files : List Path)
  | startThrottler (settings : ThrottlerSettings)
  | startSender (retry : SenderRetryConfig) (workers : ℕ)
  | callReader (a : ReaderPool.Action)
  | callThrottler (a : Throttler.Action)
  | callSender (a : SenderPool.Action)
  | awaitReconciled
  | cancelRun
  | closeAndDrain (c : ChannelName)

/-- Neither channel has been closed. -/
def IsOpen (q : Pipeline) : Prop := q.readerBatches.closes = 0 ∧ q.senderBatches.closes = 0

/-- **Where each change may happen.** A component is started where there is none and the
channels are open, a channel is closed once and in a quiet pipeline; a call is one that the
component can take, or changes nothing. -/
def Change.Allowed (root : Bool) (sh : Memory) (q : Pipeline) : Change → Prop
  | .make _ _ => q = {}
  | .goroutine a => q.Enabled root sh a
  | .startReaderPool _ _ _ _ => q.readerPool = none ∧ q.IsOpen
  | .startThrottler _ => q.throttler = none ∧ q.IsOpen
  | .startSender _ _ => q.senderPool = none ∧ q.IsOpen
  | .callReader a => a.actor = .eventLoop ∧ ∀ p ∈ q.readerPool, p.Enabled sh a
  | .callThrottler a => a.actor = .eventLoop ∧
      ∀ t ∈ q.throttler, t.Enabled sh.now a ∨ t.next sh.now a = t
  | .callSender a => a.actor = .eventLoop ∧ ∀ p ∈ q.senderPool, p.Enabled sh.now a
  | .awaitReconciled => True
  | .cancelRun => True
  | .closeAndDrain c => q.Quiet ∧ (q.channel c).closes = 0

/-- **What is passed on to a component is what is configured.** -/
def Change.Configured (cfg : Config) : Change → Prop
  | .startReaderPool _ batchSize _ _ =>
      0 < batchSize ∧ cfg.reader.readBatchSize.contains batchSize = true
  | .startThrottler settings | .callThrottler (.offer settings) => settings.Allowed cfg
  | .startSender retry _ => retry = cfg.sender.retry
  | _ => True

/-- **What each change does to the pipeline.** -/
def change (sh : Memory) (q : Pipeline) : Change → Pipeline
  | .make readerCapacity senderCapacity =>
      { readerBatches := Chan.make readerCapacity
        senderBatches := Chan.make senderCapacity }
  | .goroutine a => q.next sh a
  | .startReaderPool dataPath batchSize workers files =>
      { q with readerPool := some (ReaderPool.start dataPath batchSize workers files) }
  | .startThrottler settings => { q with throttler := some (Throttler.start settings) }
  | .startSender retry workers =>
      { q with senderPool := some (SenderPool.startSenderPool retry workers) }
  | .callReader a => q.stepReader sh a
  | .callThrottler a => q.stepThrottler sh a
  | .callSender a => q.stepSender sh a
  | .awaitReconciled => q.awaitReconciled
  | .cancelRun => { q with runCancelled := true }
  | .closeAndDrain c => q.setChannel c (q.channel c).close.drain

/-- What each change does to the shared memory: only a goroutine writes to it. -/
def Change.remember (sh : Memory) : Change → Memory
  | .goroutine a => Pipeline.remember sh a
  | _ => sh

/-- **The life of a pipeline as a machine**: beside it the others may do anything to the
shared memory, but the clock does not run backwards. -/
def lifeline : Machine (Memory × Pipeline) (Memory ⊕ Bool × Change) where
  Enabled s
    | .inl sh => s.1.now ≤ sh.now
    | .inr (root, c) => c.Allowed root s.1 s.2
  next s
    | .inl sh => (sh, s.2)
    | .inr (_, c) => (c.remember s.1, s.2.change s.1 c)

variable {q : Pipeline} {sh : Memory} {root : Bool} {c : Change}

/-- **A pipeline stays in order.** -/
theorem InOrder.change (h : q.InOrder) (hc : c.Allowed root sh q) : (q.change sh c).InOrder := by
  cases c with
  | make readerCapacity senderCapacity => exact inOrder_of_none ⟨rfl, rfl⟩ ⟨rfl, rfl⟩
  | goroutine a => exact h.next hc
  | startReaderPool dataPath batchSize workers files =>
    refine h.of_open ⟨fun p hp => ?_, h.sound.sender⟩ rfl rfl hc.2.1 hc.2.2
    obtain rfl := Option.some.inj hp
    exact ReaderPool.wellFormed_start ..
  | startThrottler settings => exact h.of_open ⟨h.sound.reader, h.sound.sender⟩ rfl rfl hc.2.1 hc.2.2
  | startSender retry workers =>
    refine h.of_open ⟨h.sound.reader, fun p hp => ?_⟩ rfl rfl hc.2.1 hc.2.2
    obtain rfl := Option.some.inj hp
    exact ⟨SenderPool.wellFormed_startSenderPool ..,
      SenderPool.boundary_joining_startSenderPool ..⟩
  | callReader a => exact h.stepReader hc.2
  | callThrottler a =>
    refine h.stepThrottler fun t _ => ?_
    cases a with
    | offer settings => rfl
    | offerDropped => rfl
    | _ => exact absurd hc.1 (by rintro ⟨⟩)
  | callSender a => exact h.stepSender hc.2
  | awaitReconciled => exact Held.inOrder_awaitReconciled h
  | cancelRun => exact h.cancelRun
  | closeAndDrain name =>
    cases name with
    | reader => exact h.closeReader hc.1 hc.2
    | sender => exact h.closeSender hc.1 hc.2

/-- In every run of a lifeline the pipeline stays in order. -/
theorem inOrder_next {s : Memory × Pipeline} {a : Memory ⊕ Bool × Change} (h : s.2.InOrder)
    (ha : lifeline.Enabled s a) : (lifeline.next s a).2.InOrder := by
  rcases a with sh' | ⟨root, c⟩
  · exact h
  · exact h.change ha

end Pipeline

/-! ### What the event loop builds -/

namespace Service

open Pipeline (Change lifeline)

variable {s t : Service} {cfg : Config} {now i : ℕ} {c : Change}

/-- **What a statement does to a pipeline**, with the number of the run. -/
def changeOf (s : Service) : Stmt → Option (ℕ × Change)
  | .makeRun => some (s.runs, .make s.control.controls.readerChannelCapacity.toNat
      s.control.controls.senderChannelCapacity.toNat)
  | .startReaderPool files => s.runtime.readerBatches.map (·,
      .startReaderPool s.control.config.source.path.toList s.control.controls.readBatchSize.toNat
        s.control.controls.readerWorkers.toNat files)
  | .startThrottler => s.runtime.readerBatches.map (·, .startThrottler s.control.throttlerSettings)
  | .startSender => s.runtime.senderBatches.map (·,
      .startSender s.control.config.sender.retry s.control.controls.senderWorkers.toNat)
  | .reconcileReader => s.runtime.readerPool.map (·,
      .callReader (.reconcile s.control.controls.readerWorkers.toNat))
  | .reconcileSender => s.runtime.senderPool.map (·,
      .callSender (.reconcile s.control.controls.senderWorkers.toNat))
  | .callSender a => s.runtime.senderPool.map (·, .callSender a)
  | .awaitReconciled => s.runtime.senderPool.map (·, .awaitReconciled)
  | .offerSettings => s.runtime.throttler.map (·,
      .callThrottler (.offer s.control.throttlerSettings))
  | .awaitUpdate => s.runtime.throttler.map (·, .callThrottler .offerDropped)
  | .cancelRun => s.runtime.cancelRun.map (·, .cancelRun)
  | .closeAndDrain c => (s.runtime.channel c).map (·, .closeAndDrain c)
  | _ => none

/-- **What an action of the service does to a pipeline**, with the number of the run. -/
def changeAt (s : Service) : Action → Option (ℕ × Change)
  | .pipeline run a => some (run, .goroutine a)
  | .event (.sourceError error) => s.runtime.readerPool.map (·, .callReader (.receiveError error))
  | .exec => s.todo.head?.bind s.changeOf
  | _ => none

/-- The pipelines with a change made. -/
def withChange (s : Service) : Option (ℕ × Change) → ℕ → Pipeline
  | none => s.pipeline
  | some (i, c) => update s.pipeline i ((s.pipeline i).change s.memory c)

theorem withChange_map (s : Service) (run : Option ℕ) (c : Change) :
    s.withChange (run.map (·, c)) = (s.onPipeline run (·.change s.memory c)).pipeline := by
  cases run <;> rfl

/-- A statement does to the pipelines what it is said to. -/
theorem pipeline_exec (s : Service) (st : Stmt) :
    (s.exec st).pipeline = s.withChange (s.changeOf st) := by
  cases st
  case startChannel c =>
    rw [exec]
    split <;> rfl
  case closeAndDrain c => cases c <;> simp only [exec, changeOf, withChange_map, Pipeline.change]
  case setCapacity c value => cases c <;> rfl
  case seeChannel c => cases c <;> rfl
  case startReaderPool | startThrottler | startSender | reconcileReader | reconcileSender |
      callSender | awaitReconciled | offerSettings | awaitUpdate | cancelRun =>
    simp only [exec, changeOf, withChange_map, Pipeline.change]
  all_goals rfl

/-- An action does to the pipelines what it is said to. -/
theorem pipeline_next (s : Service) (a : Action) :
    (machine.next s a).pipeline = s.withChange (s.changeAt a) := by
  cases a with
  | clock now => rfl
  | cancelRoot => rfl
  | pipeline run a => rfl
  | event e =>
    cases e with
    | sourceError error => simp only [machine, take, changeAt, withChange_map, Pipeline.change]
    | _ => rfl
  | exec =>
    cases htodo : s.todo with
    | nil => simp only [machine, htodo, changeAt, List.head?_nil, Option.bind_none, withChange]
    | cons st rest =>
      simp only [machine, htodo, changeAt, List.head?_cons, Option.bind_some]
      exact pipeline_exec s st

/-! ### A component is started once -/

/-- A statement changes the pipeline of a run the runtime points to. -/
theorem pointsTo_of_changeOf {st : Stmt} (hst : st ≠ .makeRun) (h : s.changeOf st = some (i, c)) :
    s.runtime.PointsTo i := by
  cases st
  case makeRun => exact absurd rfl hst
  case closeAndDrain name =>
    cases name <;>
    · simp only [changeOf, Runtime.channel, Option.map_eq_some_iff, Prod.mk.injEq] at h
      obtain ⟨j, hj, rfl, -⟩ := h
      simp only [Runtime.PointsTo, Option.mem_def]
      tauto
  all_goals
    simp only [changeOf, Option.map_eq_some_iff, Prod.mk.injEq, reduceCtorEq] at h
  all_goals
    obtain ⟨j, hj, rfl, -⟩ := h
    simp only [Runtime.PointsTo, Option.mem_def]
    tauto

/-- **Which components of the last run are known not to have been started.** -/
structure Unbuilt where
  reader : Bool := false
  throttler : Bool := false
  deriving DecidableEq

/-- What a statement makes of what is known, `none` where a component would be started a
second time. -/
def Unbuilt.after (u : Unbuilt) : Stmt → Option Unbuilt
  | .makeRun => some ⟨true, true⟩
  | .startReaderPool _ => if u.reader then some { u with reader := false } else none
  | .startThrottler => if u.throttler then some { u with throttler := false } else none
  | _ => some u

/-- What it means. That a run not made yet has nothing is known besides. -/
structure Unbuilt.Holds (u : Unbuilt) (s : Service) : Prop where
  reader : u.reader = true → ∀ i, i + 1 = s.runs → (s.pipeline i).readerPool = none
  throttler : u.throttler = true → ∀ i, i + 1 = s.runs → (s.pipeline i).throttler = none
  unmade : ∀ i, s.runs ≤ i → s.pipeline i = {}

/-- The event loop as a thread that starts a component once. -/
def builder : Thread Service Stmt (Held × Unbuilt) where
  Ready := Ready
  exec := exec
  Holds x s := x.1.Holds s ∧ x.2.Holds s
  after x st := (x.1.after st).bind fun g => (x.2.after st).map (Prod.mk g)

/-- A change other than a start leaves a component that is not there where it is. -/
theorem readerPool_change {q : Pipeline} {sh : Memory} (h : q.readerPool = none)
    (hc : ∀ dataPath batchSize workers files, c ≠ .startReaderPool dataPath batchSize workers files) :
    (q.change sh c).readerPool = none := by
  cases c with
  | startReaderPool dataPath batchSize workers files => exact absurd rfl (hc _ _ _ _)
  | make readerCapacity senderCapacity => rfl
  | goroutine a => cases a <;> simp [Pipeline.change, Pipeline.next, Pipeline.stepReader,
      Pipeline.stepThrottler, Pipeline.stepSender, h]
  | callReader a => simp [Pipeline.change, Pipeline.stepReader, h]
  | closeAndDrain name => cases name <;> exact h
  | _ => exact h

theorem throttler_change {q : Pipeline} {sh : Memory} (h : q.throttler = none)
    (hc : ∀ settings, c ≠ .startThrottler settings) : (q.change sh c).throttler = none := by
  cases c with
  | startThrottler settings => exact absurd rfl (hc _)
  | make readerCapacity senderCapacity => rfl
  | goroutine a => cases a <;> simp [Pipeline.change, Pipeline.next, Pipeline.stepReader,
      Pipeline.stepThrottler, Pipeline.stepSender, h]
  | callThrottler a => simp [Pipeline.change, Pipeline.stepThrottler, h]
  | closeAndDrain name => cases name <;> exact h
  | _ => exact h

/-- What is not there survives what happens beside the event loop. -/
theorem Unbuilt.Holds.interferes {u : Unbuilt} (h : u.Holds s) (hst : s.Interferes t) : u.Holds t := by
  cases hst with
  | clock now => exact { h with }
  | cancelRoot => exact { h with }
  | todo todo => exact { h with }
  | pipeline run a hrun ha =>
    refine ⟨fun hu i hi => ?_, fun hu i hi => ?_, fun i hi => ?_⟩
    · have hold := h.reader hu i hi
      simp only [update_apply]
      split
      · rename_i heq
        exact readerPool_change (c := .goroutine a) (heq ▸ hold) (by rintro _ _ _ _ ⟨⟩)
      · exact hold
    · have hold := h.throttler hu i hi
      simp only [update_apply]
      split
      · rename_i heq
        exact throttler_change (c := .goroutine a) (heq ▸ hold) (by rintro _ ⟨⟩)
      · exact hold
    · have hne : i ≠ run := fun heq => absurd hrun (not_lt.mpr (heq ▸ hi))
      exact (update_of_ne hne _ _).trans (h.unmade i hi)

/-- **A statement leaves what is not there where it is**, unless it starts it. -/
theorem Unbuilt.Holds.exec {f : Held} {u v : Unbuilt} {st : Stmt} (h : u.Holds s) (hf : f.Holds s)
    (hv : u.after st = some v) : v.Holds (s.exec st) := by
  by_cases hst : st = .makeRun
  · subst hst
    obtain rfl := Option.some.inj hv
    have hnew : (s.exec .makeRun).pipeline s.runs =
        { readerBatches := Chan.make s.control.controls.readerChannelCapacity.toNat
          senderBatches := Chan.make s.control.controls.senderChannelCapacity.toNat } :=
      update_self _ _ _
    refine ⟨fun _ i hi => ?_, fun _ i hi => ?_, fun i hi => ?_⟩
    · obtain rfl : i = s.runs := Nat.succ.inj hi
      rw [hnew]
    · obtain rfl : i = s.runs := Nat.succ.inj hi
      rw [hnew]
    · have hlt : s.runs < i := hi
      exact (update_of_ne (by omega) _ _).trans (h.unmade i hlt.le)
  -- any other statement changes the last run, if it changes one at all
  have hruns := runs_exec s hst
  have hkeep : ∀ P : Pipeline → Prop, ∀ i, P (s.pipeline i) →
      (∀ c, s.changeOf st = some (i, c) → P (s.pipeline i) → P ((s.pipeline i).change s.memory c)) →
      P ((s.exec st).pipeline i) := by
    intro P i hold hnew
    rw [pipeline_exec]
    cases hc : s.changeOf st with
    | none => exact hold
    | some x =>
      obtain ⟨j, c⟩ := x
      simp only [withChange, update_apply]
      split
      · rename_i heq
        subst heq
        exact hnew c hc hold
      · exact hold
  refine ⟨fun hu i hi => ?_, fun hu i hi => ?_, fun i hi => ?_⟩
  · by_cases hstart : ∃ files, st = .startReaderPool files
    · obtain ⟨files, rfl⟩ := hstart
      rw [Unbuilt.after] at hv
      split at hv
      · obtain rfl := Option.some.inj hv
        cases hu
      · cases hv
    · have hold : u.reader = true := by
        cases st
        case startReaderPool files => exact absurd ⟨files, rfl⟩ hstart
        case makeRun => exact absurd rfl hst
        case startThrottler =>
          rw [Unbuilt.after] at hv
          split at hv
          · obtain rfl := Option.some.inj hv
            exact hu
          · cases hv
        all_goals exact Option.some.inj hv ▸ hu
      refine hkeep (fun q => q.readerPool = none) i (h.reader hold i (hruns ▸ hi)) fun c hc hq =>
        readerPool_change hq ?_
      rintro dataPath batchSize workers files rfl
      cases st <;> simp_all [changeOf]
  · by_cases hstart : st = .startThrottler
    · subst hstart
      rw [Unbuilt.after] at hv
      split at hv
      · obtain rfl := Option.some.inj hv
        cases hu
      · cases hv
    · have hold : u.throttler = true := by
        cases st
        case startThrottler => exact absurd rfl hstart
        case makeRun => exact absurd rfl hst
        case startReaderPool files =>
          rw [Unbuilt.after] at hv
          split at hv
          · obtain rfl := Option.some.inj hv
            exact hu
          · cases hv
        all_goals exact Option.some.inj hv ▸ hu
      refine hkeep (fun q => q.throttler = none) i (h.throttler hold i (hruns ▸ hi)) fun c hc hq =>
        throttler_change hq ?_
      rintro settings rfl
      cases st <;> simp_all [changeOf]
  · rw [hruns] at hi
    refine hkeep (fun q => q = {}) i (h.unmade i hi) fun c hc _ => ?_
    have := hf.pointers.last i (pointsTo_of_changeOf hst hc)
    omega

/-- **The builder is sound.** -/
theorem builder_sound : builder.Sound Interferes where
  env _ _ _ h hst := ⟨h.1.interferes hst, h.2.interferes hst⟩
  exec x y s st h hi hxy := by
    obtain ⟨g, hg, hy⟩ := Option.bind_eq_some_iff.mp hxy
    obtain ⟨v, hv, rfl⟩ := Option.map_eq_some_iff.mp hy
    exact ⟨h.1.exec hi hg, h.2.exec h.1 hv⟩

/-- **The program of every event starts a component only where there is none.** -/
theorem exists_builder_check (s : Service) (e : Event) (hs : s.control.run.state ≠ .resetting) :
    ∃ x, builder.check (Held.rest s.control.run.state, {}) (s.program e) = some x ∧ x.1.Final := by
  have hprogram := program_cases s e
  generalize s.control.run.state = state at hs hprogram ⊢
  generalize s.program e = p at hprogram ⊢
  cases state
  case resetting => exact absurd rfl hs
  all_goals
    cases hprogram with
    | exit => exact ⟨_, rfl, Or.inl rfl⟩
    | _ => exact ⟨_, rfl, Or.inr ⟨rfl, by rintro ⟨⟩⟩⟩

/-- Less is known of what is not there. -/
theorem Unbuilt.Holds.forget {u : Unbuilt} (h : u.Holds s) : Unbuilt.Holds {} s :=
  ⟨by rintro ⟨⟩, by rintro ⟨⟩, h.unmade⟩

/-- Taking an event leaves what is not there. -/
theorem Unbuilt.Holds.take {f : Held} {u : Unbuilt} {e : Event} (h : u.Holds s) (hf : f.Holds s) :
    Unbuilt.Holds {} (s.take e) := by
  refine ⟨by rintro ⟨⟩, by rintro ⟨⟩, fun i hi => ?_⟩
  cases e with
  | sourceError error =>
    simp only [Service.take, onPipeline_runs] at hi ⊢
    rw [onPipeline_of_notMem fun hmem => ?_]
    · exact h.unmade i hi
    · have := hf.pointers.last i (by simp only [Runtime.PointsTo]; tauto)
      omega
  | _ => exact h.unmade i hi

/-- In every state of the service what is to be executed is covered. -/
theorem builder_covered (h : machine.Reachable (newService cfg now) s) :
    builder.Covered (fun x => x.1.Final) s s.todo := by
  have hstart : Unbuilt.Holds {} (newService cfg now) := ⟨by rintro ⟨⟩, by rintro ⟨⟩, fun _ _ => rfl⟩
  refine covered_of_sound rfl rfl builder_sound
    ⟨(Held.rest .idle, {}), (Held.rest .idle, {}), ⟨holds_newService cfg now, hstart⟩, rfl,
      Or.inr ⟨rfl, by rintro ⟨⟩⟩⟩ (fun s e hexited he hs => ?_) h
  obtain ⟨⟨f, u⟩, ⟨hf, hu⟩, hfinal⟩ := hs.final
  rcases hfinal with hleft | ⟨hrest, hstate⟩
  · exact absurd (hf.exited.symm.trans hexited) (by rw [hleft]; rintro ⟨⟩)
  · obtain ⟨x, hx, hxfinal⟩ := exists_builder_check s e (by rw [hf.state]; exact hstate)
    rw [hf.state, ← hrest] at hx
    exact ⟨(f, {}), x, ⟨hf.take he, hu.take hf⟩, hx, hxfinal⟩

/-! ### What may be relied on -/

/-- The last run while both channels are held. -/
theorem isOpen_of_held {f : Held} (hf : f.Holds s) (hr : f.readerBatches = true)
    (hs : f.senderBatches = true) (hi : s.runtime.PointsTo i) : (s.pipeline i).IsOpen := by
  have hd := hf.describes i (hf.pointers.last i hi)
  exact ⟨by rw [hd.readerCloses, hr]; rfl, by rw [hd.senderCloses, hs]; rfl⟩

/-- **A statement that may be executed changes a pipeline only as is allowed.** -/
theorem allowed_of_changeOf {f g : Held} {u v : Unbuilt} {st : Stmt} (hf : f.Holds s)
    (hu : u.Holds s) (hready : s.Ready st) (hg : f.after st = some g) (hv : u.after st = some v)
    (hc : s.changeOf st = some (i, c)) : c.Allowed s.rootCancelled s.memory (s.pipeline i) := by
  obtain ⟨hstep, -⟩ := Option.filter_eq_some_iff.mp hg
  have hlast : st ≠ .makeRun → i + 1 = s.runs := fun hst =>
    hf.pointers.last i (pointsTo_of_changeOf hst hc)
  have hopen : st ≠ .makeRun → f.readerBatches = true → f.senderBatches = true →
      (s.pipeline i).IsOpen := fun hst hr hs' =>
    isOpen_of_held hf hr hs' (pointsTo_of_changeOf hst hc)
  cases st
  case makeRun =>
    simp only [changeOf, Option.some.injEq, Prod.mk.injEq] at hc
    obtain ⟨rfl, rfl⟩ := hc
    exact hu.unmade _ le_rfl
  case startReaderPool files =>
    obtain ⟨j, -, heq⟩ := Option.map_eq_some_iff.mp hc
    obtain ⟨rfl, rfl⟩ := Prod.mk.inj heq
    rw [Held.step] at hstep
    rw [Unbuilt.after] at hv
    split at hstep
    case isFalse => cases hstep
    case isTrue hheld =>
      rw [Bool.and_eq_true] at hheld
      split at hv
      case isFalse => cases hv
      case isTrue hnone =>
        exact ⟨hu.reader hnone _ (hlast (by rintro ⟨⟩)), hopen (by rintro ⟨⟩) hheld.1 hheld.2⟩
  case startThrottler =>
    obtain ⟨j, -, heq⟩ := Option.map_eq_some_iff.mp hc
    obtain ⟨rfl, rfl⟩ := Prod.mk.inj heq
    rw [Held.step] at hstep
    rw [Unbuilt.after] at hv
    split at hstep
    case isFalse => cases hstep
    case isTrue hheld =>
      rw [Bool.and_eq_true] at hheld
      split at hv
      case isFalse => cases hv
      case isTrue hnone =>
        exact ⟨hu.throttler hnone _ (hlast (by rintro ⟨⟩)), hopen (by rintro ⟨⟩) hheld.1 hheld.2⟩
  case startSender =>
    obtain ⟨j, -, heq⟩ := Option.map_eq_some_iff.mp hc
    obtain ⟨rfl, rfl⟩ := Prod.mk.inj heq
    rw [Held.step] at hstep
    split at hstep
    case isFalse => cases hstep
    case isTrue hheld =>
      rw [Bool.and_eq_true, Bool.and_eq_true, Bool.not_eq_true'] at hheld
      exact ⟨(hf.describes _ (hlast (by rintro ⟨⟩))).fresh hheld.2,
        hopen (by rintro ⟨⟩) hheld.1.1 hheld.1.2⟩
  case reconcileReader =>
    obtain ⟨j, hj, heq⟩ := Option.map_eq_some_iff.mp hc
    obtain ⟨rfl, rfl⟩ := Prod.mk.inj heq
    exact ⟨rfl, hready j hj⟩
  case reconcileSender =>
    obtain ⟨j, hj, heq⟩ := Option.map_eq_some_iff.mp hc
    obtain ⟨rfl, rfl⟩ := Prod.mk.inj heq
    exact ⟨rfl, hready j hj⟩
  case callSender a =>
    obtain ⟨j, hj, heq⟩ := Option.map_eq_some_iff.mp hc
    obtain ⟨rfl, rfl⟩ := Prod.mk.inj heq
    rw [Held.step] at hstep
    split at hstep
    case isFalse => cases hstep
    case isTrue hown =>
      rw [Bool.and_eq_true, beq_iff_eq] at hown
      exact ⟨hown.1, hready j hj⟩
  case offerSettings =>
    obtain ⟨j, hj, heq⟩ := Option.map_eq_some_iff.mp hc
    obtain ⟨rfl, rfl⟩ := Prod.mk.inj heq
    exact ⟨rfl, fun t ht => Or.inl (hready j hj t ht)⟩
  case awaitUpdate =>
    obtain ⟨j, hj, heq⟩ := Option.map_eq_some_iff.mp hc
    obtain ⟨rfl, rfl⟩ := Prod.mk.inj heq
    refine ⟨rfl, fun t ht => ?_⟩
    -- the offer has been taken, or the throttler has ended
    by_cases hnone : t.updating = none
    · refine Or.inr ?_
      cases t
      cases hnone
      rfl
    · exact Or.inl ⟨hnone, (hready j hj t ht).resolve_left hnone⟩
  case closeAndDrain name =>
    obtain ⟨j, hj, heq⟩ := Option.map_eq_some_iff.mp hc
    obtain ⟨rfl, rfl⟩ := Prod.mk.inj heq
    have hd := hf.describes _ (hlast (by rintro ⟨⟩))
    cases name with
    | reader =>
      have hheld : f.readerBatches = true :=
        hf.pointers.readerBatches.symm.trans (Option.isSome_iff_exists.mpr ⟨j, hj⟩)
      simp only [Held.step, hheld, Bool.not_true, Bool.false_or] at hstep
      split at hstep
      case isFalse => cases hstep
      case isTrue hquiet =>
        exact ⟨hd.quiet hquiet, hd.readerCloses.trans (by rw [hheld]; rfl)⟩
    | sender =>
      have hheld : f.senderBatches = true :=
        hf.pointers.senderBatches.symm.trans (Option.isSome_iff_exists.mpr ⟨j, hj⟩)
      simp only [Held.step, hheld, Bool.not_true, Bool.false_or] at hstep
      split at hstep
      case isFalse => cases hstep
      case isTrue hquiet =>
        exact ⟨hd.quiet hquiet, hd.senderCloses.trans (by rw [hheld]; rfl)⟩
  all_goals
    simp only [changeOf, Option.map_eq_some_iff, Prod.mk.injEq, reduceCtorEq] at hc
  all_goals
    obtain ⟨j, -, rfl, rfl⟩ := hc
    trivial

/-- **Whatever happens to a pipeline is allowed.** -/
theorem allowed_of_changeAt {a : Action} (h : machine.Reachable (newService cfg now) s)
    (ha : machine.Enabled s a) (hc : s.changeAt a = some (i, c)) :
    c.Allowed s.rootCancelled s.memory (s.pipeline i) := by
  cases a with
  | clock now => cases hc
  | cancelRoot => cases hc
  | pipeline run a =>
    obtain ⟨rfl, rfl⟩ := Prod.mk.inj (Option.some.inj hc)
    exact ha.2
  | event e =>
    cases e with
    | sourceError error =>
      obtain ⟨j, hj, heq⟩ := Option.map_eq_some_iff.mp hc
      obtain ⟨rfl, rfl⟩ := Prod.mk.inj heq
      obtain ⟨-, -, j', hj', p, hp, herror⟩ := ha
      obtain rfl := Option.mem_unique hj hj'
      refine ⟨rfl, fun p' hp' => ?_⟩
      obtain rfl := Option.mem_unique hp hp'
      exact herror
    | _ => cases hc
  | exec =>
    obtain ⟨st, hst, hready⟩ := ha
    obtain ⟨rest, htodo⟩ := List.head?_eq_some_iff.mp hst
    have hcovered := builder_covered h
    rw [htodo] at hcovered
    obtain ⟨⟨f, u⟩, x, ⟨hf, hu⟩, hx⟩ := hcovered.exists_after
    obtain ⟨g, hg, hx⟩ := Option.bind_eq_some_iff.mp hx
    obtain ⟨v, hv, -⟩ := Option.map_eq_some_iff.mp hx
    simp only [changeAt, htodo, List.head?_cons, Option.bind_some] at hc
    exact allowed_of_changeOf hf hu hready hg hv hc

/-- **What the event loop passes on is what is configured.** -/
theorem configured_of_changeOf {st : Stmt} (hcfg : cfg.Valid) (h : s.InBounds cfg)
    (hc : s.changeOf st = some (i, c)) : c.Configured cfg := by
  have hsettings : s.control.throttlerSettings.Allowed cfg := h.controls.requestedTPS
  cases st
  case startReaderPool files =>
    obtain ⟨j, -, heq⟩ := Option.map_eq_some_iff.mp hc
    obtain ⟨-, rfl⟩ := Prod.mk.inj heq
    obtain ⟨hpos, -⟩ := h.controls.nonneg hcfg
    refine ⟨by omega, ?_⟩
    rw [Int.toNat_of_nonneg hpos.le]
    exact h.controls.readBatchSize
  case makeRun =>
    obtain ⟨-, rfl⟩ := Prod.mk.inj (Option.some.inj hc)
    trivial
  case startSender =>
    obtain ⟨j, -, heq⟩ := Option.map_eq_some_iff.mp hc
    obtain ⟨-, rfl⟩ := Prod.mk.inj heq
    exact congrArg (·.sender.retry) h.config
  case startThrottler =>
    obtain ⟨j, -, heq⟩ := Option.map_eq_some_iff.mp hc
    obtain ⟨-, rfl⟩ := Prod.mk.inj heq
    exact hsettings
  case offerSettings =>
    obtain ⟨j, -, heq⟩ := Option.map_eq_some_iff.mp hc
    obtain ⟨-, rfl⟩ := Prod.mk.inj heq
    exact hsettings
  all_goals
    simp only [changeOf, Option.map_eq_some_iff, Prod.mk.injEq, reduceCtorEq] at hc
  all_goals
    obtain ⟨j, -, -, rfl⟩ := hc
    trivial

/-- Whatever happens to a pipeline is configured. -/
theorem configured_of_changeAt {a : Action} (hcfg : cfg.Valid) (h : s.InBounds cfg)
    (hc : s.changeAt a = some (i, c)) : c.Configured cfg := by
  cases a with
  | clock now => cases hc
  | cancelRoot => cases hc
  | pipeline run a =>
    obtain ⟨-, rfl⟩ := Prod.mk.inj (Option.some.inj hc)
    trivial
  | event e =>
    cases e with
    | sourceError error =>
      obtain ⟨j, -, heq⟩ := Option.map_eq_some_iff.mp hc
      obtain ⟨-, rfl⟩ := Prod.mk.inj heq
      trivial
    | _ => cases hc
  | exec =>
    obtain ⟨st, -, hst⟩ := Option.bind_eq_some_iff.mp hc
    exact configured_of_changeOf hcfg h hst

/-! ### The history of a run -/

/-- What an observer of one pipeline notes of an action: what it does to the pipeline, and
the shared memory after it. -/
def noted (s : Service) (i : ℕ) (a : Action) : List (Memory ⊕ Bool × Change) :=
  ((s.changeAt a).toList.filter (·.1 = i)).map (fun x => .inr (s.rootCancelled, x.2)) ++
    [.inl (machine.next s a).memory]

/-- **What happens to one pipeline** in the course of a run. -/
def history (i : ℕ) : Service → List Action → List (Memory ⊕ Bool × Change)
  | _, [] => []
  | s, a :: as => s.noted i a ++ history i (machine.next s a) as

/-- The clock of the service does not run backwards. -/
theorem now_le_next {a : Action} (ha : machine.Enabled s a) :
    s.memory.now ≤ (machine.next s a).memory.now := by
  cases a with
  | clock now => exact ha
  | cancelRoot => exact le_rfl
  | pipeline run a => exact (now_remember s.memory a).ge
  | event e => cases e <;> simp [machine, take]
  | exec =>
    obtain ⟨st, hst, -⟩ := ha
    obtain ⟨rest, htodo⟩ := List.head?_eq_some_iff.mp hst
    simp only [machine, htodo]
    exact (now_exec s st).ge

/-- A change of a pipeline takes no time. -/
theorem now_changeRemember (sh : Memory) (c : Change) : (c.remember sh).now = sh.now := by
  cases c with
  | goroutine a => exact now_remember sh a
  | _ => rfl

/-- **What is noted of an action** is a run of the lifeline of the pipeline, from where it
is to where the action leads. -/
theorem lifeline_noted {a : Action} (h : machine.Reachable (newService cfg now) s)
    (ha : machine.Enabled s a) (i : ℕ) :
    lifeline.Run (s.memory, s.pipeline i) (s.noted i a) ∧
      lifeline.after (s.memory, s.pipeline i) (s.noted i a) =
        ((machine.next s a).memory, (machine.next s a).pipeline i) := by
  rw [pipeline_next]
  have hnow := now_le_next ha
  cases hc : s.changeAt a with
  | none =>
    simp only [noted, hc, Option.toList_none, List.filter_nil, List.map_nil, List.nil_append]
    exact ⟨⟨hnow, trivial⟩, rfl⟩
  | some x =>
    obtain ⟨j, c⟩ := x
    by_cases hj : j = i
    · subst hj
      have hallowed := allowed_of_changeAt h ha hc
      have hclock : (c.remember s.memory).now ≤ (machine.next s a).memory.now :=
        (now_changeRemember s.memory c).trans_le hnow
      simp only [noted, hc, Option.toList_some, decide_true, List.filter_cons_of_pos,
        List.filter_nil, List.map_cons, List.map_nil, List.singleton_append, withChange, update_self]
      exact ⟨⟨hallowed, hclock, trivial⟩, rfl⟩
    · have hnot : decide (j = i) = false := decide_eq_false hj
      simp only [noted, hc, Option.toList_some, List.filter_cons, hnot, Bool.false_eq_true, if_false,
        List.filter_nil, List.map_nil, List.nil_append, withChange, update_of_ne (Ne.symm hj)]
      exact ⟨⟨hnow, trivial⟩, rfl⟩

/-- **The history of a pipeline is a run of its lifeline**, and leads to the pipeline as it
is. -/
theorem lifeline_of_run {as : List Action} (h : machine.Reachable (newService cfg now) s)
    (hrun : machine.Run s as) (i : ℕ) :
    lifeline.Run (s.memory, s.pipeline i) (history i s as) ∧
      lifeline.after (s.memory, s.pipeline i) (history i s as) =
        ((machine.after s as).memory, (machine.after s as).pipeline i) := by
  induction as generalizing s with
  | nil => exact ⟨trivial, rfl⟩
  | cons a as ih =>
    obtain ⟨ha, hrest⟩ := hrun
    obtain ⟨hnoted, hnext⟩ := lifeline_noted h ha i
    obtain ⟨hlife, hafter⟩ := ih (h.step ha) hrest
    rw [history, Machine.run_append, Machine.after_append, hnext]
    exact ⟨⟨hnoted, hlife⟩, hafter⟩

/-- **Whatever happens to a pipeline is configured**, where the configuration is valid. -/
theorem configured_of_mem_history {as : List Action} {root : Bool} (hcfg : cfg.Valid)
    (h : machine.Reachable (newService cfg now) s) (hrun : machine.Run s as)
    (hmem : .inr (root, c) ∈ history i s as) : c.Configured cfg := by
  induction as generalizing s with
  | nil => cases hmem
  | cons a as ih =>
    obtain ⟨ha, hrest⟩ := hrun
    rcases List.mem_append.mp hmem with hhere | hlater
    · simp only [noted, List.mem_append, List.mem_map, List.mem_filter, Option.mem_toList,
        List.mem_singleton, Sum.inr.injEq, Prod.mk.injEq, reduceCtorEq, or_false] at hhere
      obtain ⟨⟨j, c'⟩, ⟨hc, -⟩, -, rfl⟩ := hhere
      exact configured_of_changeAt hcfg (inBounds_of_reachable hcfg h) hc
    · exact ih (h.step ha) hrest hlater

end Service

end IngestionLab
