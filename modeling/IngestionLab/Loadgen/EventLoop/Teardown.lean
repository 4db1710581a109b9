import IngestionLab.Loadgen.EventLoop.Held

/-!
# Teardown

`stop` ends a run: it joins the sender pool, cancels the context of the run, waits for
the reader pool and the throttler, closes and drains the channels and lets go of
everything. The event loop calls it on a reset, after a source error and at its end.

It is a barrier. A channel is closed once, when every goroutine of the run has exited,
and a run the runtime has let go of is over (`IngestionLab.Service.Over`), in that
state and in every later one: `IngestionLab.Service.teardown_is_barrier`. A runtime
that has been stopped is not changed by being stopped again.
-/

namespace IngestionLab

open Go Function

/-! ### A run whose goroutines have exited -/

namespace Pipeline

/-- **Every goroutine of the run has exited**: the reader workers, the throttler, the
intake and the sender workers, replacements included. -/
structure Exited (q : Pipeline) : Prop where
  reader : ∀ p ∈ q.readerPool, ∀ w < p.started, (p.worker w).pc = .exited
  throttler : ∀ t ∈ q.throttler, t.pc = .exited
  intake : ∀ p ∈ q.senderPool, p.intake = .exited
  sender : ∀ p ∈ q.senderPool, ∀ w < p.started, (p.worker w).pc = .exited

/-- What the joins wait for is that every goroutine has exited. -/
theorem Quiet.exited {q : Pipeline} (h : q.Quiet) (hs : q.Sound) : q.Exited where
  reader p hp _ hw := (hs.reader p hp).exited_of_closed (h.reader p hp) hw
  throttler := h.throttler
  intake p hp := (hs.sender p hp).2.2.intake (Or.inr (h.sender p hp))
  sender p hp _ hw := (hs.sender p hp).2.2.exited_of_joined (h.sender p hp) hw

/-- A channel of a pipeline in order. -/
theorem InOrder.channel {q : Pipeline} (h : q.InOrder) (c : ChannelName) :
    (q.channel c).closes ≤ 1 ∧ (q.channel c).sentClosed = false ∧
      ((q.channel c).closes ≠ 0 → q.Exited) := by
  have hname : q.channel c = q.readerBatches ∨ q.channel c = q.senderBatches := by
    cases c
    · exact Or.inl rfl
    · exact Or.inr rfl
  obtain ⟨hle, hsent, hquiet⟩ := h.once _ hname
  exact ⟨hle, hsent, fun h0 => (hquiet h0).exited h.sound⟩

end Pipeline

namespace Service

variable {s t : Service} {cfg : Config} {now i : ℕ}

/-! ### A run that is over -/

/-- **A run is over**: both its channels have been closed once and everything has
exited; no goroutine of it has anything left to do; what may still happen in it writes
to no telemetry and no counter; and a source error that can be taken is one of another
run. -/
structure Over (s : Service) (i : ℕ) : Prop where
  closes : ∀ c, ((s.pipeline i).channel c).closes = 1
  exited : (s.pipeline i).Exited
  still : ∀ root sh a, a.isOwn = true → ¬(s.pipeline i).Enabled root sh a
  silent : ∀ root sh a, (s.pipeline i).Enabled root sh a → Pipeline.remember sh a = sh
  errors : ∀ error, (Event.sourceError error).Enabled s → ∃ j ∈ s.runtime.readerPool, j ≠ i ∧
    ∃ p ∈ (s.pipeline j).readerPool, p.sourceErrors = some error

/-- A run the runtime has let go of has ended. -/
theorem ended_of_not_pointsTo {f : Held} (h : f.Holds s) (hi : i < s.runs)
    (hp : ¬s.runtime.PointsTo i) : (s.pipeline i).Ended := by
  by_cases hlast : i + 1 = s.runs
  · have hnone : ∀ {o : Option ℕ} {b : Bool}, o.isSome = b → (∀ j ∈ o, s.runtime.PointsTo j) →
        b = false := by
      intro o b ho hj
      cases o with
      | none => exact ho.symm
      | some j =>
        have hjp := hj j rfl
        have := h.pointers.last j hjp
        exact absurd (show s.runtime.PointsTo i by rwa [show i = j by omega]) hp
    have hd := h.describes i hlast
    have hr := hnone h.pointers.readerBatches fun j hj => by simp only [Runtime.PointsTo]; tauto
    have hs := hnone h.pointers.senderBatches fun j hj => by simp only [Runtime.PointsTo]; tauto
    have hsp := hnone h.pointers.senderPool fun j hj => by simp only [Runtime.PointsTo]; tauto
    have hc := hnone h.pointers.cancelRun fun j hj => by simp only [Runtime.PointsTo]; tauto
    have ht := hnone h.pointers.throttler fun j hj => by simp only [Runtime.PointsTo]; tauto
    have hrp := hnone h.pointers.readerPool fun j hj => by simp only [Runtime.PointsTo]; tauto
    have hempty : f.isEmpty = true := by simp [Held.isEmpty, hr, hs, hsp, hc, ht, hrp]
    refine ⟨hd.quiet (h.free hempty), hd.readerCloses.trans ?_, hd.senderCloses.trans ?_⟩
    · rw [hr]
      rfl
    · rw [hs]
      rfl
  · exact h.past i (by omega)

/-- A run the runtime has let go of is over. -/
theorem over_of_not_pointsTo {f : Held} (h : f.Holds s) (hi : i < s.runs)
    (hp : ¬s.runtime.PointsTo i) : s.Over i := by
  have hended := ended_of_not_pointsTo h hi hp
  have hstill : ∀ root sh a, a.isOwn = true → ¬(s.pipeline i).Enabled root sh a :=
    fun root sh a => Pipeline.not_enabled_of_quiet (h.inOrder i).sound hended.quiet
  refine ⟨fun c => ?_, hended.quiet.exited (h.inOrder i).sound, hstill, fun root sh a ha => ?_,
    fun error he => ?_⟩
  · cases c
    · exact hended.readerBatches
    · exact hended.senderBatches
  · refine Pipeline.remember_of_not_isOwn ?_
    by_contra hown
    exact hstill root sh a (by simpa using hown) ha
  · obtain ⟨j, hj, p, hpj, herror⟩ := he
    refine ⟨j, hj, ?_, p, hpj, herror⟩
    rintro rfl
    exact hp (by simp only [Runtime.PointsTo]; tauto)

/-! ### Pointers do not come back -/

/-- Executing a statement makes a pointer lead to a run it did not lead to only if that
run is made. -/
theorem pointsTo_exec (st : Stmt) (h : (s.exec st).runtime.PointsTo i) :
    s.runtime.PointsTo i ∨ i = s.runs := by
  cases st
  case makeRun =>
    have hsymm : s.runs = i → i = s.runs := Eq.symm
    simp only [exec, Runtime.PointsTo, Option.mem_some_iff] at h ⊢
    tauto
  case startChannel c =>
    rw [exec] at h
    split at h <;> exact Or.inl h
  case closeAndDrain c =>
    cases c <;> simp only [exec, Runtime.dropChannel, Runtime.PointsTo, Option.not_mem_none] at h ⊢ <;>
      tauto
  case seeChannel c => cases c <;> exact Or.inl h
  case setCapacity c value => cases c <;> exact Or.inl h
  all_goals
    simp only [exec, onRun, onControls, onChannel, onPipeline_runtime, Runtime.PointsTo,
      Option.not_mem_none] at h ⊢
    tauto

/-- Runs are only ever made. -/
theorem runs_le_exec (s : Service) (st : Stmt) : s.runs ≤ (s.exec st).runs := by
  cases st
  case makeRun => exact Nat.le_succ _
  case startChannel c =>
    rw [exec]
    split <;> exact le_rfl
  case seeChannel c => cases c <;> exact le_rfl
  case setCapacity c value => cases c <;> exact le_rfl
  all_goals simp [exec, onRun, onControls, onChannel]

/-- A run the runtime has let go of is never pointed to again. -/
theorem not_pointsTo_of_reachable (h : machine.Reachable s t) (hi : i < s.runs)
    (hp : ¬s.runtime.PointsTo i) : i < t.runs ∧ ¬t.runtime.PointsTo i := by
  refine h.invariant (I := fun t => i < t.runs ∧ ¬t.runtime.PointsTo i) (fun t a ht ha => ?_) ⟨hi, hp⟩
  obtain ⟨hlt, hnot⟩ := ht
  cases a with
  | clock now => exact ⟨hlt, hnot⟩
  | cancelRoot => exact ⟨hlt, hnot⟩
  | pipeline run a => exact ⟨hlt, hnot⟩
  | event e => cases e <;> simpa [machine, take] using ⟨hlt, hnot⟩
  | exec =>
    obtain ⟨st, hst, -⟩ := ha
    obtain ⟨rest, htodo⟩ := List.head?_eq_some_iff.mp hst
    simp only [machine, htodo]
    refine ⟨lt_of_lt_of_le hlt (runs_le_exec t st), fun hc => ?_⟩
    rcases pointsTo_exec st hc with hold | hnew
    · exact hnot hold
    · omega

/-- Hence a run the runtime has let go of stays over. -/
theorem over_of_reachable (h : machine.Reachable (newService cfg now) s) (hi : i < s.runs)
    (hp : ¬s.runtime.PointsTo i) (ht : machine.Reachable s t) : t.Over i := by
  obtain ⟨f, hf⟩ := exists_holds (h.trans ht)
  obtain ⟨hlt, hnot⟩ := not_pointsTo_of_reachable ht hi hp
  exact over_of_not_pointsTo hf hlt hnot

/-! ### What `stop` leaves -/

/-- When `stop` returns, the runtime points to nothing. -/
theorem runtime_of_clearActive {rest : List Stmt} (h : machine.Reachable (newService cfg now) s)
    (htodo : s.todo = .clearActive :: rest) : (s.exec .clearActive).runtime = {} := by
  have hcovered := covered_of_reachable h
  rw [htodo] at hcovered
  obtain ⟨f, g, hf, hg⟩ := hcovered.exists_after
  obtain ⟨hstep, -⟩ := Option.filter_eq_some_iff.mp hg
  rw [Held.step] at hstep
  split at hstep
  case isTrue => exact absurd hstep (by rintro ⟨⟩)
  case isFalse hfree =>
    simp only [Bool.or_eq_true, not_or, Bool.not_eq_true] at hfree
    have hnone : ∀ {o : Option ℕ} {b : Bool}, o.isSome = b → b = false → o = none := by
      rintro (_ | j) b ho rfl
      · rfl
      · exact absurd ho (by rintro ⟨⟩)
    simp only [exec, Runtime.mk.injEq, and_true]
    exact ⟨hnone hf.pointers.readerBatches hfree.1.1, hnone hf.pointers.senderBatches hfree.1.2,
      hnone hf.pointers.senderPool hfree.2⟩

/-- A program whose statements do nothing is executed without a wait, and does nothing. -/
theorem run_of_idle {program rest : List Stmt} (htodo : s.todo = program ++ rest)
    (hidle : ∀ st ∈ program, ∀ todo, Ready { s with todo := todo } st ∧
      exec { s with todo := todo } st = { s with todo := todo }) :
    machine.Run s (List.replicate program.length .exec) ∧
      machine.after s (List.replicate program.length .exec) = { s with todo := rest } := by
  induction program generalizing s with
  | nil =>
    refine ⟨trivial, ?_⟩
    rw [List.nil_append] at htodo
    rw [← htodo]
    rfl
  | cons st program ih =>
    rw [List.cons_append] at htodo
    obtain ⟨hready, hexec⟩ := hidle st List.mem_cons_self s.todo
    have hnext : machine.next s .exec = { s with todo := program ++ rest } := by
      simp only [machine, htodo]
      exact congrArg (fun u : Service => { u with todo := program ++ rest }) hexec
    obtain ⟨hrun, hafter⟩ := ih (s := { s with todo := program ++ rest }) rfl fun st' hst' todo =>
      hidle st' (List.mem_cons_of_mem st hst') todo
    rw [List.length_cons, List.replicate_succ, Machine.run_cons, Machine.after_cons, hnext]
    exact ⟨⟨⟨st, by rw [htodo]; rfl, hready⟩, hrun⟩, hafter⟩

/-- **Stopping a stopped runtime changes nothing.** -/
theorem stop_of_stopped {rest : List Stmt} (h : machine.Reachable (newService cfg now) s)
    (hruntime : s.runtime = {}) (htodo : s.todo = stop ++ rest) :
    machine.Run s (List.replicate stop.length .exec) ∧
      machine.after s (List.replicate stop.length .exec) = { s with todo := rest } := by
  have hblank : s.memory.readerChannel = {} ∧ s.memory.senderChannel = {} := by
    have hcovered := covered_of_reachable h
    rw [htodo, stop, List.cons_append] at hcovered
    obtain ⟨f, g, hf, hg⟩ := hcovered.exists_after
    obtain ⟨hstep, -⟩ := Option.filter_eq_some_iff.mp hg
    have hempty : f.isEmpty = true := by
      have hp := hf.pointers
      rw [hruntime] at hp
      simp [Held.isEmpty, ← hp.readerBatches, ← hp.senderBatches, ← hp.senderPool, ← hp.cancelRun,
        ← hp.throttler, ← hp.readerPool]
    rw [Held.step, hempty] at hstep
    split at hstep
    case isFalse => exact absurd hstep (by rintro ⟨⟩)
    case isTrue hboth =>
      simp only [Bool.not_true, Bool.false_or, Bool.and_eq_true] at hboth
      exact ⟨(hf.readerBlank hboth.2.1).2, (hf.senderBlank hboth.2.2).2⟩
  have hdetach : ∀ c, s.memory.setChannel c (s.memory.channel c).detach = s.memory := by
    intro c
    cases c
    · simp only [Memory.setChannel, Memory.channel]
      rw [hblank.1, show ({} : ChannelTelemetry).detach = s.memory.readerChannel from hblank.1.symm]
    · simp only [Memory.setChannel, Memory.channel]
      rw [hblank.2, show ({} : ChannelTelemetry).detach = s.memory.senderChannel from hblank.2.symm]
  refine run_of_idle htodo fun st hst todo => ?_
  simp only [stop, List.mem_cons, List.not_mem_nil, or_false] at hst
  rcases hst with rfl | rfl | rfl | rfl | rfl | rfl | rfl | rfl | rfl | rfl | rfl | rfl | rfl
  all_goals
    simp [Ready, exec, hruntime, onPipeline, onChannel, hdetach, Runtime.channel, Runtime.dropChannel]

/-! ### The barrier -/

/-- **Teardown is a barrier between runs.** In every state of the service: a channel of
a run has been closed at most once, nothing was ever sent on it when closed, and it is
closed only when every goroutine of the run has exited; when `stop` returns, every run
so far is over, in that state and in every later one; so is, from any state on, a run
the runtime has let go of; and stopping a runtime that points to nothing takes no wait
and changes nothing. -/
theorem teardown_is_barrier (h : machine.Reachable (newService cfg now) s) :
    (∀ i c, ((s.pipeline i).channel c).closes ≤ 1 ∧
      ((s.pipeline i).channel c).sentClosed = false ∧
      (((s.pipeline i).channel c).closes ≠ 0 → (s.pipeline i).Exited)) ∧
    (∀ rest, s.todo = .clearActive :: rest → (machine.next s .exec).runtime = {} ∧
      ∀ i < s.runs, ∀ t, machine.Reachable (machine.next s .exec) t → t.Over i) ∧
    (∀ i < s.runs, ¬s.runtime.PointsTo i → ∀ t, machine.Reachable s t → t.Over i) ∧
    (∀ rest, s.runtime = {} → s.todo = stop ++ rest →
      machine.Run s (List.replicate stop.length .exec) ∧
      machine.after s (List.replicate stop.length .exec) = { s with todo := rest }) := by
  refine ⟨fun i c => ?_, fun rest htodo => ?_, fun i hi hp t ht => over_of_reachable h hi hp ht,
    fun rest hruntime htodo => stop_of_stopped h hruntime htodo⟩
  · obtain ⟨f, hf⟩ := exists_holds h
    exact (hf.inOrder i).channel c
  · have hempty : (machine.next s .exec).runtime = {} := by
      simp only [machine, htodo]
      exact runtime_of_clearActive h htodo
    have hreach : machine.Reachable (newService cfg now) (machine.next s .exec) :=
      h.step ⟨.clearActive, by rw [htodo]; rfl, trivial⟩
    refine ⟨hempty, fun i hi t ht => over_of_reachable hreach ?_ ?_ ht⟩
    · simp only [machine, htodo]
      exact lt_of_lt_of_le hi (runs_le_exec s _)
    · rw [hempty]
      simp [Runtime.PointsTo]

/-- The root context is cancelled, and the event loop stops the run: the sender pool is
joined, then the reader pool, then the throttler. -/
def stoppedRun : List Action := List.flatten
  [[.cancelRoot, .event .done], execs 1,
    ([.intakeFound, .intakeTest, .intakeExit] : List SenderPool.Action).map
      fun a => .pipeline 0 (.sender a),
    execs 3,
    ([.decideStop 0, .workerExited 0, .closeDone 0, .releaseWg 0, .stopIntakeDone,
      .stopJoined] : List SenderPool.Action).map fun a => .pipeline 0 (.sender a),
    execs 2,
    ([.cancel, .claimQuit 0, .exitWorker 0, .releaseWg 0, .watcherWoken, .watcherMark,
      .watcherJoined] : List ReaderPool.Action).map fun a => .pipeline 0 (.reader a),
    execs 1,
    ([.cancel, .idleCanceled, .leave] : List Throttler.Action).map
      fun a => .pipeline 0 (.throttler a),
    execs 5]

/-- The run is over when `stop` has returned. -/
theorem over_stoppedRun :
    (machine.next (machine.after (newService exampleConfig 0) (startedRun ++ stoppedRun)) .exec).Over
      0 := by
  have hrun : machine.Run (newService exampleConfig 0) (startedRun ++ stoppedRun) := by
    decide +kernel
  have hend : (machine.after (newService exampleConfig 0) (startedRun ++ stoppedRun)).todo =
        [.clearActive, .collectCompleted, .exit] ∧
      0 < (machine.after (newService exampleConfig 0) (startedRun ++ stoppedRun)).runs := by
    decide +kernel
  generalize hs : machine.after (newService exampleConfig 0) (startedRun ++ stoppedRun) = s at hend ⊢
  exact ((teardown_is_barrier ⟨_, hrun, hs⟩).2.1 _ hend.1).2 0 hend.2 _ (Machine.Reachable.refl _)

end Service

end IngestionLab
