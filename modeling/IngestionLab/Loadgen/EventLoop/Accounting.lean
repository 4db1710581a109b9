import IngestionLab.Loadgen.EventLoop.Held

/-!
# Accounting for completions

A delivered batch is counted once by the worker that settles it, and collected from
the counter by the event loop, at a tick, on a pause, a reset, a fault or at the end.
What has been counted is therefore always in one of two places
(`IngestionLab.Service.Balanced`).

The counter is also set to zero, in a reset and after a fault. That loses nothing
because the sender pool has been joined before: nobody counts any more, and the last
collection has left the counter at zero. This is what is tracked along the programs
here (`IngestionLab.Service.ledger`), beside what the runtime holds.

* `IngestionLab.Service.completions_accounted`: **every completion is accounted for
  once**, in every state of the service.
-/

namespace IngestionLab

open Function

/-! ### What a step counts -/

/-- A receipt delivers nothing. -/
theorem SenderPool.Action.delivered_of_op {a : SenderPool.Action} (h : a.op ≠ .nothing) :
    a.delivered = 0 := by
  cases a
  case settle w batch delivered => exact absurd rfl h
  all_goals rfl

/-- A call of the event loop delivers nothing. -/
theorem SenderPool.Action.delivered_of_actor {a : SenderPool.Action} (h : a.actor = .eventLoop) :
    a.delivered = 0 := by
  cases a
  case settle w batch delivered => exact absurd h nofun
  all_goals rfl

/-- A reader's action leaves the counter alone. -/
theorem ReaderPool.completed_remember (sh : Memory) (a : ReaderPool.Action) :
    (ReaderPool.remember sh a).terminallyCompletedTransactionsSinceTick =
      sh.terminallyCompletedTransactionsSinceTick := by
  cases a
  case read w path pc move =>
    rw [ReaderPool.remember, ReadPc.remember.eq_def]
    split <;> rfl
  all_goals rfl

/-- An action of the throttler leaves the counter alone. -/
theorem Throttler.completed_remember (sh : Memory) (a : Throttler.Action) :
    (Throttler.remember sh a).terminallyCompletedTransactionsSinceTick =
      sh.terminallyCompletedTransactionsSinceTick := by
  cases a <;> rfl

namespace Pipeline

variable {q : Pipeline} {sh : Memory} {root : Bool} {a : Action}

/-- How many transactions an action counts as delivered. -/
def Action.delivered : Action → ℕ
  | .sender a => a.delivered
  | _ => 0

/-- A call of the sender pool counts what it delivers. -/
theorem counted_stepSender {b : SenderPool.Action} (h : q.senderPool.isSome = true ∨ b.delivered = 0) :
    (q.stepSender sh b).counted = q.counted + b.delivered := by
  cases hp : q.senderPool with
  | none =>
    rcases h with h | h
    · rw [hp] at h
      cases h
    · rw [h]
      simp [counted, stepSender, hp]
  | some p => simp [counted, stepSender, hp, SenderPool.counted_next]

/-- **A step of a pipeline counts what it delivers.** -/
theorem counted_next (ha : q.Enabled root sh a) : (q.next sh a).counted = q.counted + a.delivered := by
  cases a with
  | reader b => rfl
  | throttler b => rfl
  | sender b =>
    obtain ⟨⟨p, hp, -⟩, -⟩ := ha
    have h : (q.stepSender sh b).counted = q.counted + b.delivered :=
      counted_stepSender (Or.inl (Option.isSome_iff_exists.mpr ⟨p, hp⟩))
    exact h
  | passToThrottler b b' => rfl
  | passToSender b b' =>
    have hnone : b'.delivered = 0 := by
      refine SenderPool.Action.delivered_of_op fun hop => ?_
      have hmeet := ha.2.2.1
      rw [hop] at hmeet
      cases hout : b.output <;> simp [Meet, hout] at hmeet
    have h : ((q.stepThrottler sh b).stepSender sh b').counted =
        (q.stepThrottler sh b).counted + b'.delivered := counted_stepSender (Or.inr hnone)
    rw [hnone] at h
    exact h

/-- **The shared counter counts what a step delivers.** -/
theorem completed_remember (ha : q.Enabled root sh a) :
    (remember sh a).terminallyCompletedTransactionsSinceTick =
      sh.terminallyCompletedTransactionsSinceTick + a.delivered := by
  cases a with
  | reader b => exact ReaderPool.completed_remember sh b
  | throttler b => exact Throttler.completed_remember sh b
  | sender b => exact SenderPool.completed_remember sh b
  | passToThrottler b b' =>
    rw [remember, Throttler.completed_remember, ReaderPool.completed_remember]
    rfl
  | passToSender b b' =>
    have hnone : b'.delivered = 0 := by
      refine SenderPool.Action.delivered_of_op fun hop => ?_
      have hmeet := ha.2.2.1
      rw [hop] at hmeet
      cases hout : b.output <;> simp [Meet, hout] at hmeet
    rw [remember, SenderPool.completed_remember, Throttler.completed_remember, hnone]
    rfl

/-- A sender pool that has ended delivers nothing. -/
theorem delivered_of_senderQuiet (hs : q.Sound) (h : q.SenderQuiet) (ha : q.Enabled root sh a) :
    a.delivered = 0 := by
  cases a with
  | sender b =>
    obtain ⟨⟨p, hp, hen⟩, -⟩ := ha
    cases b
    case settle w batch delivered =>
      exact absurd hen (SenderPool.not_enabled_of_joined (hs.sender p hp).2.2 (h p hp) rfl)
    all_goals rfl
  | reader b => rfl
  | throttler b => rfl
  | passToThrottler b b' => rfl
  | passToSender b b' => rfl

end Pipeline

namespace Service

variable {s t : Service} {cfg : Config} {now : ℕ} {f g : Held}

/-! ### What the statements count -/

/-- A change of a pipeline that leaves what it has counted leaves the sum. -/
theorem counted_onPipeline {run : Option ℕ} {F : Pipeline → Pipeline}
    (h : ∀ i ∈ run, (F (s.pipeline i)).counted = (s.pipeline i).counted) :
    (s.onPipeline run F).counted = s.counted := by
  cases run with
  | none => rfl
  | some i => exact Cells.total_update_of_eq (h i rfl)

/-- **No statement of the event loop counts.** A pool that is started has counted
nothing, and takes no other's place. -/
theorem counted_exec {i : Stmt} (h : f.Holds s) (hg : f.after i = some g) :
    (s.exec i).counted = s.counted := by
  obtain ⟨hstep, -⟩ := Option.filter_eq_some_iff.mp hg
  have hcall : ∀ (run : Option ℕ) (a : SenderPool.Action), a.delivered = 0 →
      (s.onPipeline run (·.stepSender s.memory a)).counted = s.counted := fun run a ha =>
    counted_onPipeline fun i _ => by rw [Pipeline.counted_stepSender (Or.inr ha), ha, add_zero]
  cases i
  case makeRun =>
    have hold : Cells.total Pipeline.counted (s.exec .makeRun).pipeline s.runs = s.counted :=
      Cells.total_update_of_le le_rfl
    have hnew : ((s.exec .makeRun).pipeline s.runs).counted = 0 := by
      simp only [exec, update_self]
      rfl
    exact Cells.total_succ.trans (by rw [hold, hnew, add_zero])
  case startSender =>
    rw [Held.step] at hstep
    split at hstep
    case isFalse => exact absurd hstep (by rintro ⟨⟩)
    case isTrue hf =>
      rw [Bool.and_eq_true, Bool.not_eq_true'] at hf
      refine counted_onPipeline (s := s) fun i hi => ?_
      have hd := h.describes i (h.pointers.last i (Or.inr (Or.inl hi)))
      rw [Pipeline.counted, Pipeline.counted, hd.fresh hf.2]
      exact SenderPool.counted_next (SenderPool.empty _) 0 (.reconcile _)
  case startReaderPool files => exact counted_onPipeline fun _ _ => rfl
  case startThrottler => exact counted_onPipeline fun _ _ => rfl
  case reconcileReader => exact counted_onPipeline fun _ _ => rfl
  case reconcileSender => exact hcall _ _ rfl
  case callSender a =>
    rw [Held.step] at hstep
    split at hstep
    case isFalse => exact absurd hstep (by rintro ⟨⟩)
    case isTrue hf =>
      rw [Bool.and_eq_true, beq_iff_eq] at hf
      exact hcall _ a (SenderPool.Action.delivered_of_actor hf.1)
  case awaitReconciled =>
    refine counted_onPipeline fun i _ => ?_
    cases hp : (s.pipeline i).senderPool <;>
      simp [Pipeline.counted, Pipeline.awaitReconciled, hp]
  case offerSettings => exact counted_onPipeline fun _ _ => rfl
  case awaitUpdate => exact counted_onPipeline fun _ _ => rfl
  case cancelRun => exact counted_onPipeline fun _ _ => rfl
  case closeAndDrain c => cases c <;> exact counted_onPipeline (s := s) fun _ _ => rfl
  case startChannel c =>
    rw [exec]
    split <;> rfl
  case seeChannel c => cases c <;> rfl
  case setCapacity c value => cases c <;> rfl
  all_goals rfl

/-! ### The balance -/

/-- **What has been counted as delivered is in one of two places**: collected, in the
transactions total and, as far as it was counted since the progress was last reset, in
the total of the run; or still in the counter. -/
structure Balanced (s : Service) : Prop where
  total : s.prom.transactionsTotal + s.memory.terminallyCompletedTransactionsSinceTick = s.counted
  run : s.control.run.totalTransactions + s.memory.terminallyCompletedTransactionsSinceTick +
    s.countedAtReset = s.counted

/-- Nothing is left to collect: the counter is at zero, and nobody counts. -/
def Settled (f : Held) (s : Service) : Prop :=
  f.senderQuiet = true ∧ s.memory.terminallyCompletedTransactionsSinceTick = 0

/-- Whether nothing is left to collect after a statement. Where the counter is set to
zero, or the progress, nothing may be left. -/
def settles (f : Held) (settled : Bool) : Stmt → Option Bool
  | .collectCompleted => some f.senderQuiet
  | .storeZero | .zeroProgress => if settled then some true else none
  | .startSender => some false
  | _ => some settled

/-- The event loop as a thread that keeps the balance. -/
def ledger : Thread Service Stmt (Held × Bool) where
  Ready := Ready
  exec := exec
  Holds x s := x.1.Holds s ∧ (x.2 = true → Settled x.1 s) ∧ s.Balanced
  after x i := (x.1.after i).bind fun g => (settles x.1 x.2 i).map (Prod.mk g)

/-- Where nothing is left to collect, no pipeline counts. -/
theorem delivered_of_settled (h : f.Holds s) (hset : Settled f s) {run : ℕ} {a : Pipeline.Action}
    (hrun : run < s.runs) (ha : (s.pipeline run).Enabled s.rootCancelled s.memory a) :
    a.delivered = 0 := by
  refine Pipeline.delivered_of_senderQuiet (h.inOrder run).sound ?_ ha
  by_cases hlast : run + 1 = s.runs
  · exact (h.describes run hlast).senderQuiet hset.1
  · exact (h.past run (by omega)).quiet.sender

/-- A step of a pipeline moves the sum by what it counts. -/
theorem counted_pipeline {run : ℕ} {a : Pipeline.Action} (hrun : run < s.runs)
    (ha : (s.pipeline run).Enabled s.rootCancelled s.memory a) :
    counted { s with
      memory := Pipeline.remember s.memory a
      pipeline := update s.pipeline run ((s.pipeline run).next s.memory a) } =
      s.counted + a.delivered := by
  have hupdate : Cells.total Pipeline.counted
        (update s.pipeline run ((s.pipeline run).next s.memory a)) s.runs +
        (s.pipeline run).counted =
      s.counted + ((s.pipeline run).next s.memory a).counted :=
    Cells.total_update Pipeline.counted s.pipeline _ hrun
  rw [Pipeline.counted_next ha] at hupdate
  exact Nat.add_right_cancel (hupdate.trans (by omega))

/-- **The balance survives what happens beside the event loop.** -/
theorem Balanced.interferes (h : s.Balanced) (hst : s.Interferes t) : t.Balanced := by
  cases hst with
  | clock now => exact { h with }
  | cancelRoot => exact { h with }
  | todo todo => exact { h with }
  | pipeline run a hrun ha =>
    have hc := counted_pipeline hrun ha
    have hm := Pipeline.completed_remember ha
    have htotal := h.total
    have hrun' := h.run
    refine ⟨?_, ?_⟩
    · rw [hc]
      simp only [hm]
      omega
    · rw [hc]
      simp only [hm]
      omega

/-- Where nothing is left to collect, nothing comes to be. -/
theorem settled_interferes (h : f.Holds s) (hset : Settled f s) (hst : s.Interferes t) :
    Settled f t := by
  cases hst with
  | clock now => exact hset
  | cancelRoot => exact hset
  | todo todo => exact hset
  | pipeline run a hrun ha =>
    refine ⟨hset.1, ?_⟩
    simp only [Pipeline.completed_remember ha, delivered_of_settled h hset hrun ha, hset.2]

/-- A statement other than `startSender` ends no pool's having ended. -/
theorem senderQuiet_after {i : Stmt} (hg : f.after i = some g) (hf : f.senderQuiet = true)
    (hi : i ≠ .startSender) : g.senderQuiet = true := by
  obtain ⟨hstep, -⟩ := Option.filter_eq_some_iff.mp hg
  cases i
  case startSender => exact absurd rfl hi
  case startChannel c => cases c <;> exact Option.some.inj hstep ▸ hf
  case detach c => cases c <;> exact Option.some.inj hstep ▸ hf
  case joinSender =>
    obtain rfl := Option.some.inj hstep
    simp [hf]
  case closeAndDrain c =>
    cases c
    all_goals
      rw [Held.step] at hstep
      split at hstep
      · exact Option.some.inj hstep ▸ hf
      · cases hstep
  all_goals
    simp only [Held.step] at hstep
    first
      | exact Option.some.inj hstep ▸ hf
      | (split at hstep <;> first | exact Option.some.inj hstep ▸ hf | cases hstep)

/-- A statement that touches neither the totals nor the counter keeps the balance. -/
theorem Balanced.congr (h : s.Balanced) (hcounted : t.counted = s.counted)
    (hprom : t.prom.transactionsTotal = s.prom.transactionsTotal)
    (hcounter : t.memory.terminallyCompletedTransactionsSinceTick =
      s.memory.terminallyCompletedTransactionsSinceTick)
    (hrun : t.control.run.totalTransactions = s.control.run.totalTransactions)
    (hreset : t.countedAtReset = s.countedAtReset) : t.Balanced := by
  refine ⟨?_, ?_⟩
  · rw [hcounted, hprom, hcounter]
    exact h.total
  · rw [hcounted, hrun, hcounter, hreset]
    exact h.run

/-- Taking an event keeps the balance. -/
theorem Balanced.take (h : s.Balanced) (e : Event) : (s.take e).Balanced := by
  cases e
  case sourceError error =>
    refine h.congr (counted_onPipeline (s := s) fun _ _ => rfl) ?_ ?_ ?_ ?_
    all_goals simp [Service.take]
  all_goals exact { h with }

/-- **A statement keeps the balance**: what it collects it adds to the totals, and what
it throws away is nothing. -/
theorem Balanced.exec {i : Stmt} {settled settled' : Bool} (h : s.Balanced) (hf : f.Holds s)
    (hset : settled = true → Settled f s) (hg : f.after i = some g)
    (hz : settles f settled i = some settled') : (s.exec i).Balanced := by
  have hcounted := counted_exec hf hg
  cases i
  case collectCompleted =>
    have htotal := h.total
    have hrun := h.run
    refine ⟨?_, ?_⟩
    · rw [hcounted]
      simp only [Service.exec, onRun]
      omega
    · rw [hcounted]
      simp only [Service.exec, onRun]
      omega
  case storeZero =>
    have hzero : s.memory.terminallyCompletedTransactionsSinceTick = 0 := by
      cases settled with
      | true => exact (hset rfl).2
      | false => exact absurd hz (by rintro ⟨⟩)
    exact h.congr hcounted rfl hzero.symm rfl rfl
  case zeroProgress =>
    have hzero : s.memory.terminallyCompletedTransactionsSinceTick = 0 := by
      cases settled with
      | true => exact (hset rfl).2
      | false => exact absurd hz (by rintro ⟨⟩)
    refine ⟨?_, ?_⟩
    · rw [hcounted]
      exact h.total
    · rw [hcounted]
      simp only [Service.exec, onRun, hzero]
      omega
  case startChannel c =>
    refine h.congr hcounted ?_ ?_ ?_ ?_
    all_goals
      rw [Service.exec]
      split <;> cases c <;> rfl
  case clearMeasurements c => cases c <;> exact h.congr hcounted rfl rfl rfl rfl
  case startInterval c => cases c <;> exact h.congr hcounted rfl rfl rfl rfl
  case sampleChannel c => cases c <;> exact h.congr hcounted rfl rfl rfl rfl
  case detach c => cases c <;> exact h.congr hcounted rfl rfl rfl rfl
  case seeChannel c => cases c <;> exact h.congr hcounted rfl rfl rfl rfl
  case setCapacity c value => cases c <;> exact h.congr hcounted rfl rfl rfl rfl
  case enterPaused =>
    refine h.congr hcounted rfl rfl ?_ rfl
    simp only [Service.exec, onRun, ControlState.pauseElapsed]
    split <;> rfl
  case enterFaulted error =>
    refine h.congr hcounted rfl rfl ?_ rfl
    simp only [Service.exec, onRun, ControlState.pauseElapsed]
    split <;> rfl
  all_goals
    refine h.congr hcounted ?_ ?_ ?_ ?_ <;> simp [Service.exec, onRun, onControls]

/-- Whether nothing is left to collect is known as it is said to. -/
theorem settled_exec {i : Stmt} {settled : Bool} (hset : settled = true → Settled f s)
    (hg : f.after i = some g) (hz : settles f settled i = some true) : Settled g (s.exec i) := by
  cases i
  case collectCompleted => exact ⟨senderQuiet_after hg (Option.some.inj hz) (by rintro ⟨⟩), rfl⟩
  case startSender => exact absurd (Option.some.inj hz) (by rintro ⟨⟩)
  case storeZero =>
    cases settled with
    | true => exact ⟨senderQuiet_after hg (hset rfl).1 (by rintro ⟨⟩), rfl⟩
    | false => exact absurd hz (by rintro ⟨⟩)
  case zeroProgress =>
    cases settled with
    | true => exact ⟨senderQuiet_after hg (hset rfl).1 (by rintro ⟨⟩), (hset rfl).2⟩
    | false => exact absurd hz (by rintro ⟨⟩)
  case startChannel c =>
    obtain ⟨hq, h0⟩ := hset (Option.some.inj hz)
    refine ⟨senderQuiet_after hg hq (by rintro ⟨⟩), ?_⟩
    rw [Service.exec]
    split
    · exact h0
    · cases c <;> exact h0
  all_goals
    obtain ⟨hq, h0⟩ := hset (Option.some.inj hz)
    refine ⟨senderQuiet_after hg hq (by rintro ⟨⟩), ?_⟩
  case clearMeasurements c => cases c <;> exact h0
  case startInterval c => cases c <;> exact h0
  case sampleChannel c => cases c <;> exact h0
  case detach c => cases c <;> exact h0
  case seeChannel c => cases c <;> exact h0
  case setCapacity c value => cases c <;> exact h0
  all_goals simpa [Service.exec, onRun, onControls] using h0

/-- **The ledger is sound.** -/
theorem ledger_sound : ledger.Sound Interferes where
  env x s t h hst :=
    ⟨h.1.interferes hst, fun hx => settled_interferes h.1 (h.2.1 hx) hst, h.2.2.interferes hst⟩
  exec x y s i h hi hxy := by
    obtain ⟨g, hg, hy⟩ := Option.bind_eq_some_iff.mp hxy
    obtain ⟨z, hz, rfl⟩ := Option.map_eq_some_iff.mp hy
    refine ⟨h.1.exec hi hg, fun hx => ?_, h.2.2.exec h.1 h.2.1 hg hz⟩
    exact settled_exec h.2.1 hg (by rw [hz, show z = true from hx])

/-! ### The programs -/

/-- **The program of every event keeps the ledger**: before it sets the counter or the
progress to zero it has joined the sender pool and collected. -/
theorem exists_ledger_check (s : Service) (e : Event) (hs : s.control.run.state ≠ .resetting) :
    ∃ x, ledger.check (Held.rest s.control.run.state, false) (s.program e) = some x ∧ x.1.Final := by
  have hprogram := program_cases s e
  generalize s.control.run.state = state at hs hprogram ⊢
  generalize s.program e = p at hprogram ⊢
  cases state
  case resetting => exact absurd rfl hs
  all_goals
    cases hprogram with
    | exit => exact ⟨_, rfl, Or.inl rfl⟩
    | _ => exact ⟨_, rfl, Or.inr ⟨rfl, nofun⟩⟩

/-- In every state of the service the ledger is kept. -/
theorem ledger_covered (h : machine.Reachable (newService cfg now) s) :
    ledger.Covered (fun x => x.1.Final) s s.todo := by
  have hstart : (newService cfg now).Balanced := ⟨rfl, rfl⟩
  refine covered_of_sound rfl rfl ledger_sound
    ⟨(Held.rest .idle, false), (Held.rest .idle, false), ⟨holds_newService cfg now, nofun, hstart⟩, rfl,
      Or.inr ⟨rfl, nofun⟩⟩ (fun s e hexited he hs => ?_) h
  obtain ⟨⟨f, z⟩, ⟨hf, -, hbalanced⟩, hfinal⟩ := hs.final
  rcases hfinal with hleft | ⟨hrest, hstate⟩
  · exact absurd (hf.exited.symm.trans hexited) (by rw [hleft]; nofun)
  · obtain ⟨x, hx, hxfinal⟩ := exists_ledger_check s e (by rw [hf.state]; exact hstate)
    rw [hf.state, ← hrest] at hx
    exact ⟨(f, false), x, ⟨hf.take he, nofun, hbalanced.take e⟩, hx, hxfinal⟩

/-! ### The result -/

/-- A worker of the reader reads one row and sends it. -/
def readRow (path : Go.Path) (batch : Batch) : List ReaderPool.Action :=
  [.claim 0 0, .read 0 path .opening .opened, .read 0 path .openingReader .readerOpened,
    .read 0 path (.head []) .testHead, .read 0 path (.reading []) (.read batch .eof),
    .read 0 path (.recording [] batch .eof) .recordRead,
    .read 0 path (.appending [] batch .eof) .appendRows,
    .read 0 path (.appending batch [] .eof) .appendRows, .read 0 path (.tail batch) .sendTail,
    .read 0 path (.sending batch none .test) .testSend,
    .read 0 path (.sending batch none .trying) (.trySend batch)]

/-- It closes the file, and looks for the next one. -/
def closeFile (path : Go.Path) (batch : Batch) : List ReaderPool.Action :=
  [.read 0 path (.sending batch none .recordTry) .recordTry, .read 0 path (.closing none) .testClosing,
    .read 0 path (.closingReader none false) (.closedReader none),
    .read 0 path (.closingFile none false) (.closedFile none), .readDone 0 path, .release 0 path,
    .check 0]

/-- A batch is passed on at the pace set and delivered, and a tick collects. -/
def passedOn (batch : Batch) (since due : ℕ) : List Action := List.flatten
  [([.idleReceive batch, .recordReceive batch, .readClock batch,
      .checkPace batch since] : List Throttler.Action).map fun a => .pipeline 0 (.throttler a),
    [.clock due],
    ([.timer batch since due, .checkTry batch since] : List Throttler.Action).map
      fun a => .pipeline 0 (.throttler a),
    ([.intakeFound, .intakeTest, .intakeEnter, .intakeTestEntered] : List SenderPool.Action).map
      fun a => .pipeline 0 (.sender a),
    [.pipeline 0 (.passToSender (.trySend batch since) (.intakeReceive batch))],
    ([.intakeRecord batch, .intakeAssign batch 0, .intakeSend batch 0, .intakeHanded,
      .takeAtHead 0 batch, .clearBackoff 0 batch 1, .gatePassed 0 batch 1,
      .startAttempt 0 batch 1, .attemptReturns 0 batch 1 .success,
      .settle 0 batch true] : List SenderPool.Action).map fun a => .pipeline 0 (.sender a),
    [.event (.tick due)], execs 1]

/-- A row is read, passed on and delivered. -/
def deliveredRun : List Action := List.flatten
  [startedRun, (readRow "/data/a.parquet".toList [⟨"c"⟩]).map fun a => .pipeline 0 (.reader a),
    passedOn [⟨"c"⟩] 0 500]

/-- The file is read once more, and has two rows by then, which are delivered as well. -/
def readAgainRun : List Action := List.flatten
  [deliveredRun, execs 4,
    (closeFile "/data/a.parquet".toList [⟨"c"⟩] ++
      readRow "/data/a.parquet".toList [⟨"d"⟩, ⟨"e"⟩]).map fun a => .pipeline 0 (.reader a),
    [.pipeline 0 (.throttler (.recordSend [⟨"c"⟩])), .pipeline 0 (.sender (.clearBusy 0))],
    passedOn [⟨"d"⟩, ⟨"e"⟩] 500 1500]

end Service

end IngestionLab
