import IngestionLab.Loadgen.EventLoop.Accounting

/-!
# A paused run

While a run is paused its goroutines still finish attempts and move batches, ticks are
collected and commands change the controls. The status the event loop answers is the one
captured at the pause all the same, brought up to date in the controls only
(`IngestionLab.RuntimeStatus.frozen`); and the run that follows counts what was completed
meanwhile and starts its rates from zero
(`IngestionLab.Service.paused_status_frozen`).

* `IngestionLab.Service.Frozen`: what a captured status, the state and the statements
  still to be executed look like until the pause ends; kept by every step but those that
  end it (`IngestionLab.Service.Frozen.next`).
* `IngestionLab.Service.Resuming`: how far the program of the following run has come.
-/

namespace IngestionLab

open Function

/-- **A captured status with the live controls**: what a paused run may answer. -/
def RuntimeStatus.frozen (captured : RuntimeStatus) (controls : ConfiguredControls) :
    RuntimeStatus :=
  { captured with
    run := { captured.run with state := .paused }
    reader := { captured.reader with
      workers := controls.readerWorkers
      readBatchSize := controls.readBatchSize }
    sender := { captured.sender with workers := controls.senderWorkers }
    throttler := { captured.throttler with
      requestedTps := controls.requestedTPS
      installed := controls.installed } }

namespace Service

variable {s t : Service} {a : Action} {i : Stmt} {cfg : Config} {now : ℕ} {captured : RuntimeStatus}

/-! ### Until the pause ends -/

/-- The statement leaves the run state, the status kept and the source error alone, and
answers no status but by `runtimeStatusAt`. -/
def Stmt.isMild : Stmt → Bool
  | .runStarted | .faultStart _ | .enterPaused | .enterFaulted _ | .beginReset | .completeReset
  | .clearPausedStatus | .zeroProgress | .respond (.status _) => false
  | _ => true

/-- The event ends a pause: a run, a reset, or a fault. -/
def Event.endsPause : Event → Bool
  | .command (.run _) | .command .reset | .sourceError _ => true
  | _ => false

/-- An action that ends a pause. -/
def Action.endsPause : Action → Bool
  | .event e => Event.endsPause e
  | _ => false

/-- **The service is paused on a captured status**, and nothing to be executed ends
that. -/
structure Frozen (captured : RuntimeStatus) (s : Service) : Prop where
  state : s.control.run.state = .paused
  kept : s.control.run.pausedStatus = some captured
  sourceError : s.control.run.sourceError = captured.reader.sourceError
  mild : ∀ i ∈ s.todo, Stmt.isMild i = true

/-- **What a paused run answers.** -/
theorem Frozen.runtimeStatusAt (h : Frozen captured s) (seen : Seen) :
    s.control.runtimeStatusAt seen = captured.frozen s.control.controls := by
  rw [ControlState.runtimeStatusAt, h.state, h.kept]
  simp only [h.sourceError, RuntimeStatus.frozen]

/-- **A mild statement only collects completions**: nothing else of the run changes. -/
theorem exists_run_exec_eq (h : Stmt.isMild i = true) :
    ∃ n, (s.exec i).control.run = { s.control.run with totalTransactions := n } := by
  cases i
  case collectCompleted => exact ⟨_, rfl⟩
  case startChannel c =>
    rw [exec]
    split <;> exact ⟨_, rfl⟩
  case setCapacity c value => cases c <;> exact ⟨_, rfl⟩
  case seeChannel c => cases c <;> exact ⟨_, rfl⟩
  case runStarted | faultStart error | enterPaused | enterFaulted error | beginReset
    | completeReset | clearPausedStatus | zeroProgress => exact absurd h Bool.false_ne_true
  all_goals exact ⟨s.control.run.totalTransactions, by simp [exec, onControls, onChannel]⟩

/-- A mild statement leaves the pause as it is. -/
theorem run_exec (h : Stmt.isMild i = true) :
    (s.exec i).control.run.state = s.control.run.state ∧
      (s.exec i).control.run.pausedStatus = s.control.run.pausedStatus ∧
      (s.exec i).control.run.sourceError = s.control.run.sourceError := by
  obtain ⟨n, hrun⟩ := exists_run_exec_eq h
  rw [hrun]
  exact ⟨rfl, rfl, rfl⟩

/-- The programs of a paused run are mild, but for those that end the pause. -/
theorem isMild_program {e : Event} (hstate : s.control.run.state = .paused)
    (he : Event.endsPause e = false) : ∀ i ∈ s.program e, Stmt.isMild i = true := by
  cases e with
  | done => exact List.forall_mem_cons.mpr (by decide)
  | requestsClosed => exact List.forall_mem_cons.mpr (by decide)
  | sourceError error => exact absurd he (by rintro ⟨⟩)
  | tick now =>
    simp only [program, hstate, if_true]
    split
    · decide
    · exact fun i hi => by
        simp only [List.cons_append, List.nil_append, List.mem_cons,
          List.not_mem_nil, or_false] at hi
        rcases hi with rfl | rfl <;> rfl
  | command c =>
    cases c
    case run glob => exact absurd he (by rintro ⟨⟩)
    case reset => exact absurd he (by rintro ⟨⟩)
    all_goals
      simp only [program, handle, hstate, statusReadings, ne_eq, reduceCtorEq, not_false_eq_true,
        if_true, true_or]
      repeat' split
      all_goals simp [Stmt.isMild]

/-- **Every step but those that end it keeps the pause.** -/
theorem Frozen.next (h : Frozen captured s) (ha : a.endsPause = false) :
    Frozen captured (machine.next s a) := by
  cases a with
  | clock now => exact ⟨h.state, h.kept, h.sourceError, h.mild⟩
  | cancelRoot => exact ⟨h.state, h.kept, h.sourceError, h.mild⟩
  | pipeline run b => exact ⟨h.state, h.kept, h.sourceError, h.mild⟩
  | event e =>
    have hprogram := isMild_program h.state ha
    cases e
    case sourceError error => exact absurd ha nofun
    all_goals exact ⟨h.state, h.kept, h.sourceError, hprogram⟩
  | exec =>
    simp only [machine]
    split
    · exact h
    · next i rest htodo =>
      obtain ⟨hstate, hkept, herror⟩ := run_exec (s := s) (h.mild i (by rw [htodo]; exact List.mem_cons_self))
      exact ⟨hstate.trans h.state, hkept.trans h.kept, herror.trans h.sourceError, fun j hj =>
        h.mild j (by rw [htodo]; exact List.mem_cons_of_mem i hj)⟩

/-- **What a paused service answers**, if it answers a status. -/
theorem Frozen.responses_next (h : Frozen captured s) (a : Action) :
    (machine.next s a).responses = s.responses ∨
      ∃ r, (machine.next s a).responses = s.responses ++ [r] ∧
        ∀ status, r = .status status → status = captured.frozen s.control.controls := by
  cases a with
  | clock now => exact Or.inl rfl
  | cancelRoot => exact Or.inl rfl
  | pipeline run b => exact Or.inl rfl
  | event e =>
    cases e
    case sourceError error =>
      left
      simp [machine, take]
    all_goals exact Or.inl rfl
  | exec =>
    simp only [machine]
    split
    · exact Or.inl rfl
    · next i rest htodo =>
      have hexec := responses_exec s i
      cases i
      case respond r =>
        refine Or.inr ⟨r, hexec, ?_⟩
        rintro status rfl
        have hmild := h.mild (.respond (.status status)) (by rw [htodo]; exact List.mem_cons_self)
        exact absurd hmild (by rintro ⟨⟩)
      case respondStatus =>
        refine Or.inr ⟨_, hexec, ?_⟩
        rintro status hstatus
        obtain rfl := Response.status.inj hstatus
        exact h.runtimeStatusAt s.seen
      all_goals exact Or.inl (hexec.trans (List.append_nil _))

/-! ### The pause -/

/-- Only the pause of a running service enters the pause. -/
theorem program_of_enterPaused {e : Event} (h : .enterPaused ∈ s.program e) :
    s.control.run.state = .running ∧ s.program e = pauseRun := by
  have hprogram := program_cases s e
  generalize s.control.run.state = state at hprogram ⊢
  generalize s.program e = p at h hprogram ⊢
  cases hprogram
  case pause => exact ⟨rfl, rfl⟩
  all_goals
    simp [snapshots, prepareRun, resumeRun, stop, resetProgress, resetFaultedMeasurements] at h

/-- **A service about to enter the pause** is running, and executes the program of the
pause. -/
def Pausing (s : Service) : Prop :=
  .enterPaused ∈ s.todo → s.control.run.state = .running ∧ s.todo <:+ pauseRun

theorem Pausing.next (h : s.Pausing) (a : Action) : (machine.next s a).Pausing := by
  cases a with
  | clock now => exact h
  | cancelRoot => exact h
  | pipeline run b => exact h
  | event e =>
    intro hmem
    have htodo : (machine.next s (.event e)).todo = s.program e := rfl
    have hcontrol : (machine.next s (.event e)).control = s.control := by
      cases e
      case sourceError error => simp [machine, take]
      all_goals rfl
    rw [htodo] at hmem ⊢
    rw [hcontrol]
    obtain ⟨hstate, hprogram⟩ := program_of_enterPaused hmem
    exact ⟨hstate, hprogram ▸ List.suffix_rfl⟩
  | exec =>
    simp only [machine]
    split
    · exact h
    · next i rest htodo =>
      intro hmem
      have hrest : Stmt.enterPaused ∈ rest := hmem
      obtain ⟨hstate, hsuffix⟩ := h (by rw [htodo]; exact List.mem_cons_of_mem i hrest)
      rw [htodo] at hsuffix
      have hmild : Stmt.isMild i = true := by
        simp only [pauseRun, snapshots, List.cons_append, List.nil_append, List.suffix_cons_iff,
          List.suffix_nil, List.cons.injEq, reduceCtorEq, or_false] at hsuffix
        rcases hsuffix with h | h | h | h | h | h | h | h | h
        all_goals
          obtain ⟨rfl, rfl⟩ := h
          first
            | rfl
            | exact absurd hrest List.not_mem_nil
      exact ⟨(run_exec hmild).1.trans hstate, (List.suffix_cons i rest).trans hsuffix⟩

/-- **The service enters the pause** from a running state, and the captured status is the
live one. -/
theorem frozen_enterPaused (h : s.Pausing) (hhead : s.todo.head? = some .enterPaused) :
    s.control.run.state = .running ∧
      s.control.runtimeStatusAt s.seen = s.control.liveStatus s.seen ∧
      Frozen (s.control.liveStatus s.seen) (machine.next s .exec) := by
  obtain ⟨rest, htodo⟩ := List.head?_eq_some_iff.mp hhead
  obtain ⟨hstate, hsuffix⟩ := h (by rw [htodo]; exact List.mem_cons_self)
  have hlive : s.control.runtimeStatusAt s.seen = s.control.liveStatus s.seen := by
    rw [ControlState.runtimeStatusAt, hstate]
  have hrest : rest = [] := by
    rw [htodo] at hsuffix
    simpa [pauseRun, snapshots, List.suffix_cons_iff] using hsuffix
  have hnext : machine.next s .exec = { s.exec .enterPaused with todo := [] } := by
    simp only [machine]
    rw [htodo, hrest]
  rw [hnext]
  refine ⟨hstate, hlive, ⟨rfl, ?_, ?_, fun i hi => absurd hi List.not_mem_nil⟩⟩
  · change some (s.control.runtimeStatusAt s.seen) = _
    rw [hlive]
  · change (ControlState.pauseElapsed s.control.run s.seen.now).sourceError =
      s.control.run.sourceError
    rw [ControlState.pauseElapsed]
    split <;> rfl

end Service

/-! ### What the goroutines do to the rates -/

/-- The measurements of a channel only count: a send or a receipt is added to its total
and to what has come since the last tick, and no rate changes. -/
structure ChannelTelemetry.Counts (q q' : ChannelTelemetry) : Prop where
  sentBatches : ∃ k, q'.measurements.sentBatchesTotal = q.measurements.sentBatchesTotal + k ∧
    q'.measurements.sentBatchesSinceTick = q.measurements.sentBatchesSinceTick + k
  sentTransactions : ∃ k,
    q'.measurements.sentTransactionsTotal = q.measurements.sentTransactionsTotal + k ∧
    q'.measurements.sentTransactionsSinceTick = q.measurements.sentTransactionsSinceTick + k
  receivedBatches : ∃ k,
    q'.measurements.receivedBatchesTotal = q.measurements.receivedBatchesTotal + k ∧
    q'.measurements.receivedBatchesSinceTick = q.measurements.receivedBatchesSinceTick + k
  receivedTransactions : ∃ k,
    q'.measurements.receivedTransactionsTotal = q.measurements.receivedTransactionsTotal + k ∧
    q'.measurements.receivedTransactionsSinceTick = q.measurements.receivedTransactionsSinceTick + k
  rates : q'.measurements.sentBatchesPerSecond = q.measurements.sentBatchesPerSecond ∧
    q'.measurements.sentTransactionsPerSecond = q.measurements.sentTransactionsPerSecond ∧
    q'.measurements.receivedBatchesPerSecond = q.measurements.receivedBatchesPerSecond ∧
    q'.measurements.receivedTransactionsPerSecond = q.measurements.receivedTransactionsPerSecond

/-- The shared memory only counts. -/
structure Memory.Counts (sh sh' : Memory) : Prop where
  rowsRead : sh.reader.rowsRead ≤ sh'.reader.rowsRead
  reader : sh'.reader.readTPS = sh.reader.readTPS ∧ sh'.reader.intervalRows = sh.reader.intervalRows
  readerChannel : sh.readerChannel.Counts sh'.readerChannel
  senderChannel : sh.senderChannel.Counts sh'.senderChannel

namespace ChannelTelemetry

variable {q q' q'' : ChannelTelemetry}

theorem Counts.refl (q : ChannelTelemetry) : q.Counts q :=
  ⟨⟨0, rfl, rfl⟩, ⟨0, rfl, rfl⟩, ⟨0, rfl, rfl⟩, ⟨0, rfl, rfl⟩, rfl, rfl, rfl, rfl⟩

theorem Counts.trans (h : q.Counts q') (h' : q'.Counts q'') : q.Counts q'' := by
  obtain ⟨⟨a, ha⟩, ⟨b, hb⟩, ⟨c, hc⟩, ⟨d, hd⟩, hrates⟩ := h
  obtain ⟨⟨a', ha'⟩, ⟨b', hb'⟩, ⟨c', hc'⟩, ⟨d', hd'⟩, hrates'⟩ := h'
  refine ⟨⟨a + a', ?_⟩, ⟨b + b', ?_⟩, ⟨c + c', ?_⟩, ⟨d + d', ?_⟩, ?_⟩
  · omega
  · omega
  · omega
  · omega
  · rw [hrates'.1, hrates'.2.1, hrates'.2.2.1, hrates'.2.2.2]
    exact hrates

theorem counts_recordSend (q : ChannelTelemetry) (n : ℕ) : q.Counts (q.recordSend n) :=
  ⟨⟨1, rfl, rfl⟩, ⟨n, rfl, rfl⟩, ⟨0, rfl, rfl⟩, ⟨0, rfl, rfl⟩, rfl, rfl, rfl, rfl⟩

theorem counts_recordReceive (q : ChannelTelemetry) (n : ℕ) : q.Counts (q.recordReceive n) :=
  ⟨⟨0, rfl, rfl⟩, ⟨0, rfl, rfl⟩, ⟨1, rfl, rfl⟩, ⟨n, rfl, rfl⟩, rfl, rfl, rfl, rfl⟩

theorem counts_startBlocked (q : ChannelTelemetry) (now : ℕ) : q.Counts (q.startBlocked now) :=
  ⟨⟨0, rfl, rfl⟩, ⟨0, rfl, rfl⟩, ⟨0, rfl, rfl⟩, ⟨0, rfl, rfl⟩, rfl, rfl, rfl, rfl⟩

theorem counts_finishBlockedWriter (q : ChannelTelemetry) (id now : ℕ) :
    q.Counts (q.finishBlockedWriter id now) := by
  rw [finishBlockedWriter, finishBlockedLocked]
  split
  · exact Counts.refl q
  · exact ⟨⟨0, rfl, rfl⟩, ⟨0, rfl, rfl⟩, ⟨0, rfl, rfl⟩, ⟨0, rfl, rfl⟩, rfl, rfl, rfl, rfl⟩

theorem counts_finishBlocked (q : ChannelTelemetry) (now : ℕ) : q.Counts (q.finishBlocked now) := by
  rw [finishBlocked]
  split
  · exact Counts.refl q
  · exact counts_finishBlockedWriter q _ now

end ChannelTelemetry

namespace Memory

variable {sh sh' sh'' : Memory}

open ChannelTelemetry

theorem Counts.refl (sh : Memory) : sh.Counts sh := ⟨le_rfl, ⟨rfl, rfl⟩, .refl _, .refl _⟩

theorem Counts.trans (h : sh.Counts sh') (h' : sh'.Counts sh'') : sh.Counts sh'' :=
  ⟨h.rowsRead.trans h'.rowsRead, ⟨h'.reader.1.trans h.reader.1, h'.reader.2.trans h.reader.2⟩,
    h.readerChannel.trans h'.readerChannel, h.senderChannel.trans h'.senderChannel⟩

theorem counts_readerChannel {q : ChannelTelemetry} (h : sh.readerChannel.Counts q) :
    sh.Counts { sh with readerChannel := q } := ⟨le_rfl, ⟨rfl, rfl⟩, h, .refl _⟩

theorem counts_senderChannel {q : ChannelTelemetry} (h : sh.senderChannel.Counts q) :
    sh.Counts { sh with senderChannel := q } := ⟨le_rfl, ⟨rfl, rfl⟩, .refl _, h⟩

/-- A worker of the reader only counts. -/
theorem counts_reader (sh : Memory) (a : ReaderPool.Action) :
    sh.Counts (ReaderPool.remember sh a) := by
  cases a
  case read w path pc move =>
    rw [ReaderPool.remember]
    unfold ReadPc.remember
    split
    · exact ⟨Nat.le_add_right _ _, ⟨rfl, rfl⟩, .refl _, .refl _⟩
    · exact counts_readerChannel (counts_recordSend _ _)
    · exact counts_readerChannel (counts_recordSend _ _)
    · exact counts_readerChannel (counts_startBlocked _ _)
    · exact counts_readerChannel (counts_finishBlockedWriter _ _ _)
    · exact Counts.refl sh
  all_goals exact Counts.refl sh

/-- The throttler only counts. -/
theorem counts_throttler (sh : Memory) (a : Throttler.Action) : sh.Counts (Throttler.remember sh a) := by
  cases a
  case recordReceive batch => exact counts_readerChannel (counts_recordReceive _ _)
  case startBlocked batch => exact counts_senderChannel (counts_startBlocked _ _)
  case finishBlocked batch outcome => exact counts_senderChannel (counts_finishBlocked _ _)
  case recordSend batch => exact counts_senderChannel (counts_recordSend _ _)
  all_goals exact Counts.refl sh

/-- The sender pool only counts. -/
theorem counts_sender (sh : Memory) (a : SenderPool.Action) : sh.Counts (SenderPool.remember sh a) := by
  cases a
  case intakeRecord batch => exact counts_senderChannel (counts_recordReceive _ _)
  case settle w batch delivered =>
    cases delivered
    · exact Counts.refl sh
    · exact ⟨le_rfl, ⟨rfl, rfl⟩, .refl _, .refl _⟩
  all_goals exact Counts.refl sh

/-- **The goroutines of a pipeline only count.** -/
theorem counts_pipeline (sh : Memory) (a : Pipeline.Action) : sh.Counts (Pipeline.remember sh a) := by
  cases a with
  | reader b => exact counts_reader sh b
  | throttler b => exact counts_throttler sh b
  | sender b => exact counts_sender sh b
  | passToThrottler b b' => exact (counts_reader sh b).trans (counts_throttler _ b')
  | passToSender b b' => exact (counts_throttler sh b).trans (counts_sender _ b')

end Memory

/-- The rates of a channel are zero, and its counts since the last tick are of what came
after some earlier measurements. -/
structure ChannelTelemetry.RestartedSince (q₀ q : ChannelTelemetry) : Prop where
  rates : q.measurements.sentBatchesPerSecond = 0 ∧ q.measurements.sentTransactionsPerSecond = 0 ∧
    q.measurements.receivedBatchesPerSecond = 0 ∧ q.measurements.receivedTransactionsPerSecond = 0
  sent : q.measurements.sentBatchesSinceTick + q₀.measurements.sentBatchesTotal ≤
      q.measurements.sentBatchesTotal ∧
    q.measurements.sentTransactionsSinceTick + q₀.measurements.sentTransactionsTotal ≤
      q.measurements.sentTransactionsTotal
  received : q.measurements.receivedBatchesSinceTick + q₀.measurements.receivedBatchesTotal ≤
      q.measurements.receivedBatchesTotal ∧
    q.measurements.receivedTransactionsSinceTick + q₀.measurements.receivedTransactionsTotal ≤
      q.measurements.receivedTransactionsTotal

/-- The totals of a channel have not gone down. -/
structure ChannelTelemetry.TotalsLe (q₀ q : ChannelTelemetry) : Prop where
  sent : q₀.measurements.sentBatchesTotal ≤ q.measurements.sentBatchesTotal ∧
    q₀.measurements.sentTransactionsTotal ≤ q.measurements.sentTransactionsTotal
  received : q₀.measurements.receivedBatchesTotal ≤ q.measurements.receivedBatchesTotal ∧
    q₀.measurements.receivedTransactionsTotal ≤ q.measurements.receivedTransactionsTotal

/-- The rate of the reader is zero, and its interval starts with the rows read since. -/
structure ReaderTelemetry.RestartedSince (r₀ r : ReaderTelemetry) : Prop where
  rate : r.readTPS = 0
  rows : r₀.rowsRead ≤ r.intervalRows

section Restarted

variable {q₀ q q' : ChannelTelemetry}

open ChannelTelemetry

theorem ChannelTelemetry.RestartedSince.counts (h : q₀.RestartedSince q) (hc : q.Counts q') :
    q₀.RestartedSince q' := by
  obtain ⟨⟨a, ha⟩, ⟨b, hb⟩, ⟨c, hc⟩, ⟨d, hd⟩, h1, h2, h3, h4⟩ := hc
  obtain ⟨hrates, hsent, hreceived⟩ := h
  refine ⟨?_, by omega, by omega⟩
  rw [h1, h2, h3, h4]
  exact hrates

theorem ChannelTelemetry.TotalsLe.counts (h : q₀.TotalsLe q) (hc : q.Counts q') :
    q₀.TotalsLe q' := by
  obtain ⟨⟨a, ha⟩, ⟨b, hb⟩, ⟨c, hc⟩, ⟨d, hd⟩, -⟩ := hc
  obtain ⟨hsent, hreceived⟩ := h
  exact ⟨by omega, by omega⟩

/-- `startInterval` restarts a channel. -/
theorem ChannelTelemetry.TotalsLe.startInterval (h : q₀.TotalsLe q) :
    q₀.RestartedSince q.startInterval := by
  obtain ⟨⟨h1, h2⟩, h3, h4⟩ := h
  refine ⟨⟨rfl, rfl, rfl, rfl⟩, ⟨?_, ?_⟩, ?_, ?_⟩
  · exact (Nat.zero_add _).le.trans h1
  · exact (Nat.zero_add _).le.trans h2
  · exact (Nat.zero_add _).le.trans h3
  · exact (Nat.zero_add _).le.trans h4

end Restarted

namespace Service

variable {s t : Service} {a : Action} {i : Stmt} {cfg : Config} {now : ℕ} {captured : RuntimeStatus}

/-! ### The run that follows -/

/-- **How far the program of a run after a pause has come**, started where `n` more
transactions had been counted than at the last reset, on some telemetry. -/
structure Resuming (n : ℕ) (sh₀ : Memory) (s : Service) : Prop where
  counted : n + s.countedAtReset ≤ s.counted
  rowsRead : sh₀.reader.rowsRead ≤ s.memory.reader.rowsRead
  totals : sh₀.readerChannel.TotalsLe s.memory.readerChannel ∧
    sh₀.senderChannel.TotalsLe s.memory.senderChannel
  executed : ∃ executed, resumeRun = executed ++ s.todo ∧
    (.runStarted ∈ executed → s.control.run.state = .running) ∧
    (.collectCompleted ∈ executed → n ≤ s.control.run.totalTransactions) ∧
    (.resumeReaderInterval ∈ executed → sh₀.reader.RestartedSince s.memory.reader) ∧
    (.startInterval .reader ∈ executed →
      sh₀.readerChannel.RestartedSince s.memory.readerChannel) ∧
    (.startInterval .sender ∈ executed →
      sh₀.senderChannel.RestartedSince s.memory.senderChannel) ∧
    (.zeroActualTPS ∈ executed → s.prom.actualTPS = 0)

/-- What happens beside the event loop. -/
theorem Resuming.pipeline {n : ℕ} {sh₀ : Memory} (h : Resuming n sh₀ s) {run : ℕ}
    {b : Pipeline.Action} (hrun : run < s.runs)
    (hb : (s.pipeline run).Enabled s.rootCancelled s.memory b) :
    Resuming n sh₀ (machine.next s (.pipeline run b)) := by
  have hc := Memory.counts_pipeline s.memory b
  obtain ⟨hcounted, hrows, htotals, executed, htodo, h1, h2, h3, h4, h5, h6⟩ := h
  refine ⟨?_, hrows.trans hc.rowsRead, ⟨htotals.1.counts hc.readerChannel,
    htotals.2.counts hc.senderChannel⟩, executed, htodo, h1, h2, fun he => ?_, fun he => ?_,
    fun he => ?_, h6⟩
  · have hstep := counted_pipeline hrun hb
    change n + s.countedAtReset ≤ _
    exact hcounted.trans (hstep ▸ Nat.le_add_right _ _)
  · obtain ⟨hrate, hinterval⟩ := h3 he
    exact ⟨hc.reader.1.trans hrate, hinterval.trans hc.reader.2.ge⟩
  · exact (h4 he).counts hc.readerChannel
  · exact (h5 he).counts hc.senderChannel

/-- **A statement of the program.** -/
theorem Resuming.exec {n : ℕ} {sh₀ : Memory} {rest : List Stmt} {f g : Held}
    (h : Resuming n sh₀ s) (hbalanced : s.Balanced) (hf : f.Holds s) (hg : f.after i = some g)
    (htodo : s.todo = i :: rest) : Resuming n sh₀ { s.exec i with todo := rest } := by
  have hcount := counted_exec hf hg
  have hrun := hbalanced.run
  obtain ⟨hcounted, hrows, htotals, executed, hprogram, h1, h2, h3, h4, h5, h6⟩ := h
  rw [htodo] at hprogram
  have hmem : i ∈ resumeRun := by
    rw [hprogram]
    exact List.mem_append_right _ List.mem_cons_self
  have hcounted' : n + s.countedAtReset ≤ (s.exec i).counted := by rwa [hcount]
  have hnew : ∀ {j : Stmt}, j ∈ executed ++ [i] → j ∈ executed ∨ j = i := fun hj =>
    (List.mem_append.mp hj).imp_right List.mem_singleton.mp
  simp only [resumeRun, List.mem_cons, List.not_mem_nil, or_false] at hmem
  refine ⟨?_, ?_, ?_, executed ++ [i], by simp [hprogram], fun he => ?_, fun he => ?_, fun he => ?_,
    fun he => ?_, fun he => ?_, fun he => ?_⟩
  · have hreset : (s.exec i).countedAtReset = s.countedAtReset := by
      rcases hmem with rfl | rfl | rfl | rfl | rfl | rfl | rfl | rfl | rfl
      case inr.inr.inr.inr.inr.inr.inr.inl => simp [Service.exec]
      all_goals rfl
    change n + (s.exec i).countedAtReset ≤ (s.exec i).counted
    rw [hreset]
    exact hcounted'
  · rcases hmem with rfl | rfl | rfl | rfl | rfl | rfl | rfl | rfl | rfl
    case inr.inr.inr.inr.inr.inr.inr.inl => simpa [Service.exec] using hrows
    all_goals exact hrows
  · rcases hmem with rfl | rfl | rfl | rfl | rfl | rfl | rfl | rfl | rfl
    case inr.inr.inr.inr.inl => exact ⟨⟨htotals.1.sent, htotals.1.received⟩, htotals.2⟩
    case inr.inr.inr.inr.inr.inl => exact ⟨htotals.1, ⟨htotals.2.sent, htotals.2.received⟩⟩
    case inr.inr.inr.inr.inr.inr.inr.inl => simpa [Service.exec] using htotals
    all_goals exact htotals
  · rcases hmem with rfl | rfl | rfl | rfl | rfl | rfl | rfl | rfl | rfl
    case inl => rfl
    case inr.inr.inr.inr.inr.inr.inr.inl =>
      simpa [Service.exec] using h1 ((hnew he).resolve_right (by rintro ⟨⟩))
    all_goals exact h1 ((hnew he).resolve_right (by rintro ⟨⟩))
  · rcases hmem with rfl | rfl | rfl | rfl | rfl | rfl | rfl | rfl | rfl
    case inr.inl =>
      simp only [Service.exec, onRun]
      omega
    case inr.inr.inr.inr.inr.inr.inr.inl =>
      simpa [Service.exec] using h2 ((hnew he).resolve_right (by rintro ⟨⟩))
    all_goals exact h2 ((hnew he).resolve_right (by rintro ⟨⟩))
  · rcases hmem with rfl | rfl | rfl | rfl | rfl | rfl | rfl | rfl | rfl
    case inr.inr.inr.inl => exact ⟨rfl, hrows⟩
    case inr.inr.inr.inr.inr.inr.inr.inl =>
      simpa [Service.exec] using h3 ((hnew he).resolve_right (by rintro ⟨⟩))
    all_goals exact h3 ((hnew he).resolve_right (by rintro ⟨⟩))
  · rcases hmem with rfl | rfl | rfl | rfl | rfl | rfl | rfl | rfl | rfl
    case inr.inr.inr.inr.inl => exact htotals.1.startInterval
    case inr.inr.inr.inr.inr.inr.inr.inl =>
      simpa [Service.exec] using h4 ((hnew he).resolve_right (by rintro ⟨⟩))
    all_goals exact h4 ((hnew he).resolve_right (by rintro ⟨⟩))
  · rcases hmem with rfl | rfl | rfl | rfl | rfl | rfl | rfl | rfl | rfl
    case inr.inr.inr.inr.inr.inl => exact htotals.2.startInterval
    case inr.inr.inr.inr.inr.inr.inr.inl =>
      simpa [Service.exec] using h5 ((hnew he).resolve_right (by rintro ⟨⟩))
    all_goals exact h5 ((hnew he).resolve_right (by rintro ⟨⟩))
  · rcases hmem with rfl | rfl | rfl | rfl | rfl | rfl | rfl | rfl | rfl
    case inr.inr.inr.inr.inr.inr.inl => rfl
    case inr.inr.inr.inr.inr.inr.inr.inl =>
      simpa [Service.exec] using h6 ((hnew he).resolve_right (by rintro ⟨⟩))
    all_goals exact h6 ((hnew he).resolve_right (by rintro ⟨⟩))

/-- **A run resumed** from a state: it runs, its total includes everything counted since
the last reset up to that state, and its rates start from zero there. -/
structure Resumed (t s : Service) : Prop where
  state : s.control.run.state = .running
  total : t.counted - t.countedAtReset ≤ s.control.run.totalTransactions
  reader : t.memory.reader.RestartedSince s.memory.reader
  readerChannel : t.memory.readerChannel.RestartedSince s.memory.readerChannel
  senderChannel : t.memory.senderChannel.RestartedSince s.memory.senderChannel
  actualTPS : s.prom.actualTPS = 0

/-- The balance at a reachable state. -/
theorem balanced_of_reachable (h : machine.Reachable (newService cfg now) s) : s.Balanced := by
  obtain ⟨x, -, hx, -⟩ := ledger_covered h
  exact hx.2.2

/-- A step that takes no event. -/
theorem Resuming.next {n : ℕ} {sh₀ : Memory} (h : Resuming n sh₀ s)
    (hreach : machine.Reachable (newService cfg now) s) (ha : machine.Enabled s a)
    (hnot : ∀ e, a ≠ .event e) : Resuming n sh₀ (machine.next s a) := by
  cases a with
  | clock now => exact { h with }
  | cancelRoot => exact { h with }
  | pipeline run b => exact h.pipeline ha.1 ha.2
  | event e => exact absurd rfl (hnot e)
  | exec =>
    obtain ⟨i, hi, -⟩ := ha
    obtain ⟨rest, htodo⟩ := List.head?_eq_some_iff.mp hi
    have hcovered := ledger_covered hreach
    rw [htodo] at hcovered
    obtain ⟨⟨f, z⟩, y, hf, hy⟩ := hcovered.exists_after
    obtain ⟨g, hg, -⟩ := Option.bind_eq_some_iff.mp hy
    simp only [machine]
    rw [htodo]
    exact h.exec hf.2.2 hf.1 hg htodo

/-- **The program of the run has been executed.** -/
theorem Resuming.resumed {n : ℕ} (h : Resuming n t.memory s) (hn : t.counted - t.countedAtReset = n)
    (htodo : s.todo = []) : Resumed t s := by
  obtain ⟨-, -, -, executed, hprogram, h1, h2, h3, h4, h5, h6⟩ := h
  rw [htodo, List.append_nil] at hprogram
  subst hprogram
  exact ⟨h1 (by decide), hn.le.trans (h2 (by decide)), h3 (by decide), h4 (by decide),
    h5 (by decide), h6 (by decide)⟩

/-- **The run that follows a pause**, up to the end of its program. -/
theorem resumed_of_run {glob : Except String (List Go.Path)} {cs : List Action}
    (hreach : machine.Reachable (newService cfg now) t) (hpaused : t.control.run.state = .paused)
    (hrun : machine.Run t (.event (.command (.run glob)) :: cs))
    (hcs : ∀ a ∈ cs, ∀ e, a ≠ .event e)
    (hend : (machine.after t (.event (.command (.run glob)) :: cs)).todo = []) :
    Resumed t (machine.after t (.event (.command (.run glob)) :: cs)) := by
  obtain ⟨hevent, hrest⟩ := hrun
  have hreach₁ := hreach.step hevent
  have hbalanced := (balanced_of_reachable hreach).run
  have hstart : Resuming (t.counted - t.countedAtReset) t.memory
      (machine.next t (.event (.command (.run glob)))) := by
    refine ⟨?_, le_rfl, ⟨⟨⟨le_rfl, le_rfl⟩, le_rfl, le_rfl⟩, ⟨⟨le_rfl, le_rfl⟩, le_rfl, le_rfl⟩⟩,
      [], ?_, nofun, nofun, nofun, nofun, nofun, nofun⟩
    · change t.counted - t.countedAtReset + t.countedAtReset ≤ t.counted
      omega
    · change resumeRun = handle t.control (.run glob)
      rw [handle, hpaused]
  have hkey := Machine.always_of_along (C := fun _ a => ∀ e, a ≠ .event e)
    (P := fun u => machine.Reachable (newService cfg now) u ∧
      Resuming (t.counted - t.countedAtReset) t.memory u)
    (fun u a hu ha hnot => ⟨hu.1.step ha, hu.2.next hu.1 ha hnot⟩) ⟨hreach₁, hstart⟩ hrest
    (Machine.along_of_forall hcs)
  exact hkey.last.2.resumed rfl hend

/-! ### The result -/

/-- What is about to be executed enters the pause only in the program of the pause. -/
theorem pausing_of_reachable (h : machine.Reachable (newService cfg now) s) : s.Pausing :=
  h.invariant (fun _ a hs _ => hs.next a) (fun hmem => absurd hmem List.not_mem_nil)

/-- **A paused status is frozen.** When the event loop enters the pause, it is running
and captures its live status. From then on, in every run without the event of a run, a
reset or a source error, a step answers no status but the captured one, in which the run
is paused and the reader workers, the read batch size, the sender workers, the requested
TPS and the installation are those of the controls. And when the program of the run
command that then comes is through, the total includes every transaction counted before
it, and the rates have started from zero. -/
theorem paused_status_frozen (h : machine.Reachable (newService cfg now) s)
    (hpause : s.todo.head? = some .enterPaused) :
    s.control.run.state = .running ∧
    ∀ as, machine.Run s (.exec :: as) → (∀ a ∈ as, a.endsPause = false) →
      let captured := s.control.liveStatus s.seen
      let t := machine.after s (.exec :: as)
      (∀ a, (machine.next t a).responses = t.responses ∨
        ∃ r, (machine.next t a).responses = t.responses ++ [r] ∧
          ∀ status, r = .status status → status = captured.frozen t.control.controls) ∧
      ∀ glob cs, machine.Run t (.event (.command (.run glob)) :: cs) →
        (∀ a ∈ cs, ∀ e, a ≠ .event e) →
        (machine.after t (.event (.command (.run glob)) :: cs)).todo = [] →
        Resumed t (machine.after t (.event (.command (.run glob)) :: cs)) := by
  obtain ⟨hstate, -, hfrozen⟩ := frozen_enterPaused (pausing_of_reachable h) hpause
  refine ⟨hstate, fun as hrun hkeep => ?_⟩
  have hend : Frozen (s.control.liveStatus s.seen) (machine.after s (.exec :: as)) :=
    (Machine.always_of_along (fun u a hu _ ha => hu.next ha) hfrozen hrun.2
      (Machine.along_of_forall hkeep)).last
  refine ⟨hend.responses_next, fun glob cs hresume hcs htodo => ?_⟩
  exact resumed_of_run (h.trans ⟨_, hrun, rfl⟩) hend.state hresume hcs htodo

/-- A started run is paused: the event loop has come to the capture. -/
def pausingRun : List Action := List.flatten [startedRun, [.event (.command .pause)], execs 8]

/-- A tick is collected and a second sender worker asked for while paused. -/
def whilePaused : List Action := List.flatten
  [[.clock 1000, .event (.tick 1000)], execs 1, [.event (.command (.setSenderWorkers 2))], execs 4]

/-- The run is resumed. -/
def resumingRun : List Action := .event (.command (.run (.ok []))) :: execs 9

/-- The run that was paused is resumed. -/
theorem paused_status_pausingRun :
    let s := machine.after (newService exampleConfig 0) pausingRun
    let t := machine.after s (.exec :: whilePaused)
    s.control.run.state = .running ∧ Resumed t (machine.after t resumingRun) := by
  have hrun : machine.Run (newService exampleConfig 0) pausingRun := by decide +kernel
  have hhead : (machine.after (newService exampleConfig 0) pausingRun).todo = [.enterPaused] := by
    decide +kernel
  have hwhile : machine.Run (machine.after (newService exampleConfig 0) pausingRun)
      (.exec :: whilePaused) := by decide +kernel
  have hresume : machine.Run (machine.after (machine.after (newService exampleConfig 0) pausingRun)
      (.exec :: whilePaused)) resumingRun := by decide +kernel
  have hend : (machine.after (machine.after (machine.after (newService exampleConfig 0) pausingRun)
      (.exec :: whilePaused)) resumingRun).todo = [] := by decide +kernel
  generalize hs : machine.after (newService exampleConfig 0) pausingRun = s at *
  have h := paused_status_frozen ⟨_, hrun, hs⟩ (congrArg List.head? hhead)
  refine ⟨h.1, (h.2 whilePaused hwhile ?_).2 _ _ hresume ?_ hend⟩
  · intro a ha
    simp only [whilePaused, List.flatten_cons, List.flatten_nil, execs, List.mem_append,
      List.mem_cons, List.not_mem_nil, or_false, List.mem_replicate] at ha
    rcases ha with (rfl | rfl) | ⟨-, rfl⟩ | rfl | ⟨-, rfl⟩ <;> rfl
  · intro a ha e
    obtain ⟨-, rfl⟩ := List.mem_replicate.mp ha
    nofun

end Service

end IngestionLab
