import IngestionLab.Loadgen.EventLoop.Held

/-!
# Applied equals configured

A control is stored in the control state, and where a run is active it is also applied
to a component: the number of workers by `reconcile`, the throttler's settings by
`update`, the rest when the run is started. This file shows that the two agree whenever
the event loop is about to take an event and nobody has cancelled the root context.

Which of them agree at which point of a program is kept in a second record of facts,
`IngestionLab.Fit`, beside what the runtime holds: storing a control makes the fact
about it false, applying it makes it true again. What the components contribute is that
nothing stops them from within, but for a reader worker that fails, and that one has
left its error for the event loop first (`IngestionLab.ReaderPool.Blames`).

* `IngestionLab.Fit.sound`: **the facts are sound** beside the pipelines.
* `IngestionLab.Fit.exists_check`: the program of every event leaves everything applied in
  an active run.
* `IngestionLab.Service.fit_rest`: **between two events everything is applied.**
-/

namespace IngestionLab

open Go Function

/-! ### A reader pool nobody stops from outside -/

namespace ReaderPool

variable {p : ReaderPool} {sh : Memory} {a : Action}

/-- **A cancellation comes with an error**: whoever has cancelled the pool, or is about
to, has left an error for the event loop. -/
structure Blames (p : ReaderPool) : Prop where
  cancelled : p.cancelled = true → p.sourceErrors.isSome = true
  cancelling : ∀ w path, (p.worker w).pc = .cancelling path → p.sourceErrors.isSome = true

/-- An error stays until the event loop takes it. -/
theorem sourceErrors_next (ha : a.actor = .goroutine) (h : p.sourceErrors.isSome = true) :
    (p.next sh a).sourceErrors.isSome = true := by
  cases a
  case receiveError error => exact absurd ha nofun
  case reconcile d => exact absurd ha nofun
  case push w path error => rfl
  case exitWorker w =>
    simp only [next, goto, setWorker, exitWorker_eq]
    split <;> exact h
  all_goals exact h

/-- A worker about to cancel the pool has left an error. -/
theorem Blames.cancelling_next (h : p.Blames) (ha : a.actor = .goroutine) (hen : p.Enabled sh a)
    {v : ℕ} {path : Path} (hv : ((p.next sh a).worker v).pc = .cancelling path) :
    (p.next sh a).sourceErrors.isSome = true := by
  by_cases hp : ∃ w q error, a = .push w q error
  · obtain ⟨w, q, error, rfl⟩ := hp
    rfl
  refine sourceErrors_next ha (h.cancelling v path ?_)
  have hwoken : ∀ pc : ReaderWorkerPc, pc.broadcast = .cancelling path → pc = .cancelling path := by
    intro pc hpc
    cases pc <;> simp_all [ReaderWorkerPc.broadcast]
  cases a
  case push w q error => exact absurd ⟨w, q, error, rfl⟩ hp
  case reconcile d => exact absurd ha (by rintro ⟨⟩)
  case exitWorker w =>
    simp only [Enabled, At, next, exitWorker_eq] at hen hv
    split at hv <;>
    · simp only [goto, setWorker, update_apply] at hv
      grind
  case check w =>
    simp only [next, goto, setWorker, update_apply] at hv
    grind
  all_goals first
    | exact hv
    | exact hwoken _ hv
    | (simp only [Enabled, At, next, goto, setWorker, broadcast, markStopping, claimFile,
        releaseFileLocked, update_apply] at hen hv
       grind)

/-- **A goroutine cancels the pool only after it has left an error.** -/
theorem Blames.next (h : p.Blames) (ha : a.actor = .goroutine) (hen : p.Enabled sh a) :
    (p.next sh a).Blames where
  cancelled hc := by
    refine sourceErrors_next ha ?_
    rcases cancelled_next.mp hc with hold | rfl | ⟨w, path, rfl⟩
    · exact h.cancelled hold
    · exact absurd ha nofun
    · exact h.cancelling w path hen.2
  cancelling _ _ hv := h.cancelling_next ha hen hv

/-- A goroutine changes neither the batch size nor the number of workers desired. -/
theorem settings_next (ha : a.actor = .goroutine) :
    (p.next sh a).batchSize = p.batchSize ∧ (p.next sh a).desired = p.desired := by
  cases a
  case reconcile d => exact absurd ha nofun
  case exitWorker w =>
    simp only [next, goto, setWorker, exitWorker_eq]
    split <;> exact ⟨rfl, rfl⟩
  all_goals exact ⟨rfl, rfl⟩

/-- **A request is followed**, unless the pool is cancelled. -/
theorem desired_reconcile (hw : p.WellFormed) (d : ℕ) :
    (p.reconcile d).cancelled = true ∨ (p.reconcile d).desired = d := by
  by_cases hc : p.cancelled = true
  · rw [reconcile_of_stopped (Or.inr hc)]
    exact Or.inl hc
  · have hs : p.stopping = false := by
      by_contra hs
      exact hc (hw.stopping (by simpa using hs))
    obtain ⟨cell, heq, -, -⟩ := exists_reconcile_eq hs (by simpa using hc) d
    rw [heq]
    exact Or.inr rfl

/-- A request cancels nothing, and leaves the batch size. -/
theorem Blames.reconcile (h : p.Blames) (d : ℕ) :
    (p.reconcile d).Blames ∧ (p.reconcile d).batchSize = p.batchSize := by
  obtain ⟨_, _, _, _, _, heq⟩ := reconcile_frame p d
  refine ⟨⟨fun hc => ?_, fun w path hv => ?_⟩, by rw [heq]⟩
  · rw [heq] at hc ⊢
    exact h.cancelled hc
  · have hold : (p.worker w).pc = .cancelling path := by
      rcases reconcile_worker p d w with hcell | ⟨dr, pc, hcell, rfl | rfl⟩
      · rw [hcell] at hv
        exact absurd hv nofun
      · rwa [hcell] at hv
      · rw [hcell] at hv
        cases hpc : (p.worker w).pc <;> simp_all [ReaderWorkerPc.broadcast]
    rw [heq]
    exact h.cancelling w path hold

/-- A pool that has just been started. -/
theorem blames_start (dataPath : Path) (batchSize n : ℕ) (files : List Path) :
    (start dataPath batchSize n files).Blames ∧
      (start dataPath batchSize n files).batchSize = batchSize ∧
      (start dataPath batchSize n files).desired = n := by
  have hempty : (empty files (readerSourceDirectory dataPath) batchSize).Blames := ⟨nofun, nofun⟩
  obtain ⟨hb, hsize⟩ := hempty.reconcile n
  obtain ⟨cell, heq, -, -⟩ := exists_reconcile_eq
    (p := empty files (readerSourceDirectory dataPath) batchSize) rfl rfl n
  exact ⟨hb, hsize, by rw [start, heq]⟩

end ReaderPool

/-! ### A throttler nobody stops -/

namespace Throttler

variable {t : Throttler} {now : ℕ} {a : Action} {settings : ThrottlerSettings}

/-- **The throttler goes on**: it is not cancelled, and it is not on its way out. -/
structure GoesOn (t : Throttler) : Prop where
  cancelled : t.cancelled = false
  stays : t.pc ≠ .leaving ∧ t.pc ≠ .exited ∧ ∀ batch, t.pc ≠ .unblock batch .canceled

/-- **A throttler goes on** as long as its channel is open and no context is cancelled. -/
theorem GoesOn.next (h : t.GoesOn) (ha : a.actor = .goroutine) (hop : a.input ≠ .closed)
    (hen : t.Enabled now a) : (t.next now a).GoesOn := by
  obtain ⟨hc, hl, hx, hu⟩ := h
  cases a
  case offer settings => exact absurd ha nofun
  case offerDropped => exact absurd ha nofun
  case cancel => exact absurd ha nofun
  case idleClosed => exact absurd rfl hop
  case idleCanceled => exact absurd (hc.symm.trans hen.2) nofun
  case selectCanceled batch => exact absurd (hc.symm.trans hen.2) nofun
  case blockedCanceled batch => exact absurd (hc.symm.trans hen.2) nofun
  case leave => exact absurd hen hl
  case finishBlocked batch outcome =>
    cases outcome
    case canceled => exact absurd hen (hu batch)
    all_goals exact ⟨hc, by simp [Throttler.next]⟩
  case idleUpdate settings => exact ⟨hc, hl, hx, hu⟩
  all_goals exact ⟨hc, by simp [Throttler.next, forward, take]⟩

/-- Settings have been offered, and perhaps taken. -/
def Offered (t : Throttler) (settings : ThrottlerSettings) : Prop :=
  t.updating = some settings ∨ t.updating = none ∧ t.taken = settings

/-- Settings have been taken, and none is offered. -/
def Taken (t : Throttler) (settings : ThrottlerSettings) : Prop :=
  t.updating = none ∧ t.taken = settings

/-- Offered settings are still offered, or taken. -/
theorem Offered.next (h : t.Offered settings) (ha : a.actor = .goroutine) (hen : t.Enabled now a) :
    (t.next now a).Offered settings := by
  cases a
  case offer settings => exact absurd ha nofun
  case offerDropped => exact absurd ha nofun
  case idleUpdate other =>
    rcases h with h | ⟨h, -⟩
    · obtain rfl := Option.some.inj (h.symm.trans hen.2)
      exact Or.inr ⟨rfl, rfl⟩
    · exact absurd (h.symm.trans hen.2) nofun
  case selectUpdate batch other =>
    rcases h with h | ⟨h, -⟩
    · obtain rfl := Option.some.inj (h.symm.trans hen.2)
      exact Or.inr ⟨rfl, rfl⟩
    · exact absurd (h.symm.trans hen.2) nofun
  case blockedUpdate batch other =>
    rcases h with h | ⟨h, -⟩
    · obtain rfl := Option.some.inj (h.symm.trans hen.2)
      exact Or.inr ⟨rfl, rfl⟩
    · exact absurd (h.symm.trans hen.2) nofun
  case finishBlocked batch outcome => cases outcome <;> exact h
  all_goals exact h

/-- Without an offer nothing is taken. -/
theorem Taken.next (h : t.Taken settings) (ha : a.actor = .goroutine) (hen : t.Enabled now a) :
    (t.next now a).Taken settings := by
  obtain ⟨hnone, htaken⟩ := h
  cases a
  case offer settings => exact absurd ha nofun
  case offerDropped => exact absurd ha nofun
  case idleUpdate other => exact absurd (hnone.symm.trans hen.2) nofun
  case selectUpdate batch other => exact absurd (hnone.symm.trans hen.2) nofun
  case blockedUpdate batch other => exact absurd (hnone.symm.trans hen.2) nofun
  case finishBlocked batch outcome => cases outcome <;> exact ⟨hnone, htaken⟩
  all_goals exact ⟨hnone, htaken⟩

end Throttler

/-! ### A sender pool nobody stops -/

namespace SenderPool

variable {p : SenderPool} {now : ℕ} {a : Action}

/-- A goroutine neither stops a pool nor changes the number of workers desired. -/
theorem settings_next (h : p.stop = .running) (ha : a.actor = .goroutine) (hen : p.Enabled now a) :
    (p.next now a).stop = .running ∧ (p.next now a).desired = p.desired := by
  have hstop : (p.next now a).stop = p.stop := by
    refine stop_next ?_ ?_ ?_ ?_ ?_ ?_ <;> rintro rfl
    · exact absurd ha (by rintro ⟨⟩)
    · exact absurd ha (by rintro ⟨⟩)
    · exact absurd ha (by rintro ⟨⟩)
    · exact absurd ha (by rintro ⟨⟩)
    · exact absurd (h.symm.trans hen.1) (by rintro ⟨⟩)
    · exact absurd (h.symm.trans hen.1) (by rintro ⟨⟩)
  refine ⟨hstop.trans h, ?_⟩
  cases a
  case reconcile d => exact absurd ha (by rintro ⟨⟩)
  case workerExited w =>
    obtain ⟨_, _, _, _, _, heq⟩ := workerExited_frame p w
    simp only [next, goto, setWorker, heq]
  case pause => exact absurd ha (by rintro ⟨⟩)
  case resumeRun => exact absurd ha (by rintro ⟨⟩)
  all_goals rfl

/-- A request is followed by a pool that is not being stopped. -/
theorem desired_reconcile (h : p.stop = .running) (hb : p.Boundary) (d : ℕ) :
    (p.reconcile d).stop = .running ∧ (p.reconcile d).desired = d := by
  have hs : p.stopping = false := by
    by_contra hs
    have hmarked := hb.marked.mp (by simpa using hs)
    rw [h] at hmarked
    cases hmarked
  obtain ⟨k, cell, joined, heq, -, -⟩ := exists_reconcile_eq hs d
  rw [heq]
  exact ⟨h, rfl⟩

/-- Pausing and resuming stop nothing. -/
theorem settings_pause (p : SenderPool) : p.pause.stop = p.stop ∧ p.pause.desired = p.desired := by
  obtain ⟨_, _, _, heq⟩ := pause_frame p
  rw [heq]
  exact ⟨rfl, rfl⟩

/-- Pausing and resuming stop nothing. -/
theorem settings_resumeRun (p : SenderPool) :
    p.resumeRun.stop = p.stop ∧ p.resumeRun.desired = p.desired := by
  obtain ⟨_, _, heq⟩ := resumeRun_frame p
  rw [heq]
  exact ⟨rfl, rfl⟩

/-- A pool that has just been started. -/
theorem settings_startSenderPool (retry : SenderRetryConfig) (n : ℕ) :
    (startSenderPool retry n).stop = .running ∧ (startSenderPool retry n).desired = n := by
  obtain ⟨k, cell, joined, heq, -, -⟩ := exists_reconcile_eq (p := empty retry) rfl n
  rw [startSenderPool, heq]
  exact ⟨rfl, rfl⟩

end SenderPool

/-! ### The facts -/

/-- **Which controls are known to be applied at a point of a program**: whether a source
error is recorded; whether the last run is live, that is stopped by nobody and made with
the capacities and the batch size of the controls; whether the pools have been asked for
the workers of the controls; and whether the throttler has been offered its settings, and
has taken them. -/
structure Fit where
  failed : Bool := false
  live : Bool := false
  reader : Bool := false
  sender : Bool := false
  offered : Bool := false
  taken : Bool := false
  deriving DecidableEq

namespace Fit

open Service

/-- **The run is live**: nobody has stopped it, and it was made with the capacities and
the batch size of the controls. -/
structure Live (state : ControlState) (q : Pipeline) : Prop where
  runCancelled : q.runCancelled = false
  readerBatches : q.readerBatches.closes = 0 ∧
    q.readerBatches.capacity = state.controls.readerChannelCapacity.toNat
  senderBatches : q.senderBatches.capacity = state.controls.senderChannelCapacity.toNat
  reader : ∀ p ∈ q.readerPool, p.Blames ∧ p.batchSize = state.controls.readBatchSize.toNat
  throttler : ∀ t ∈ q.throttler, t.GoesOn
  sender : ∀ p ∈ q.senderPool, p.stop = .running

/-- What holds of the pipeline of a live run. -/
structure Describes (x : Fit) (state : ControlState) (q : Pipeline) : Prop where
  live : Live state q
  reader : x.reader = true → ∀ p ∈ q.readerPool, p.cancelled = true ∨
    p.desired = state.controls.readerWorkers.toNat
  sender : x.sender = true → ∀ p ∈ q.senderPool, p.desired = state.controls.senderWorkers.toNat
  offered : x.offered = true → ∀ t ∈ q.throttler, t.Offered state.throttlerSettings
  taken : x.taken = true → ∀ t ∈ q.throttler, t.Taken state.throttlerSettings

/-- No status that was answered shows a reset half done. -/
def NeverResetting (s : Service) : Prop :=
  ∀ status, .status status ∈ s.responses → status.run.state ≠ .resetting

/-- **What the facts mean.** -/
structure Holds (x : Fit) (s : Service) : Prop where
  failed : s.control.run.sourceError.isSome = x.failed
  responses : NeverResetting s
  describes : s.rootCancelled = false → x.live = true → ∀ i, i + 1 = s.runs →
    x.Describes s.control (s.pipeline i)

/-- What a statement makes of the facts, beside what the runtime holds. A status is
answered only when no reset is going on. -/
def after (f : Held) (x : Fit) : Stmt → Option Fit
  | .faultStart _ | .enterFaulted _ => some { x with failed := true }
  | .zeroProgress => some { x with failed := false }
  | .makeRun => some { failed := x.failed, live := true }
  | .startReaderPool _ => some { x with reader := true }
  | .startThrottler => some { x with offered := true, taken := true }
  | .startSender => some { x with sender := true }
  | .setReadBatchSize _ | .setCapacity _ _ => some { failed := x.failed }
  | .setReaderWorkers _ => some { x with reader := false }
  | .reconcileReader => some { x with reader := f.readerPool }
  | .setSenderWorkers _ => some { x with sender := false }
  | .reconcileSender => some { x with sender := f.senderPool }
  | .setRequestedTPS _ | .setInstalled _ => some { x with offered := false, taken := false }
  | .offerSettings => some { x with offered := f.throttler, taken := false }
  | .awaitUpdate => some { x with taken := x.offered && f.throttler }
  | .callSender .pause | .callSender .resumeRun => some x
  | .callSender _ | .cancelRun => some { failed := x.failed }
  | .closeAndDrain _ => if x.live then none else some x
  | .respond (.status _) => none
  | .respondStatus => if f.state = .resetting then none else some x
  | _ => some x

variable {x y : Fit} {f g : Held} {s t : Service} {q : Pipeline} {sh : Memory} {state : ControlState}

/-! ### Beside the pipelines -/

/-- While nobody cancels, only goroutines act. -/
theorem actor_eq_goroutine {who : Actor} (h : Pipeline.MayAct false who) : who = .goroutine := by
  cases who <;> first | rfl | exact absurd h nofun

/-- What a reader pool may become by a step of its pipeline while nobody cancels. -/
theorem exists_reader_next {a : Pipeline.Action} (hr : q.runCancelled = false)
    (ha : q.Enabled false sh a) {p' : ReaderPool} (hp' : p' ∈ (q.next sh a).readerPool) :
    ∃ p ∈ q.readerPool, p' = p ∨
      ∃ b : ReaderPool.Action, b.actor = .goroutine ∧ p.Enabled sh b ∧ p' = p.next sh b := by
  cases a with
  | reader b =>
    obtain ⟨p, hp, rfl⟩ := Pipeline.mem_stepReader hp'
    have hactor := ha.2.1
    rw [hr] at hactor
    exact ⟨p, hp, Or.inr ⟨b, actor_eq_goroutine hactor, Pipeline.enabled_of_mem ha.1 hp, rfl⟩⟩
  | throttler b => exact ⟨p', hp', Or.inl rfl⟩
  | sender b => exact ⟨p', hp', Or.inl rfl⟩
  | passToThrottler b b' =>
    obtain ⟨p, hp, rfl⟩ := Pipeline.mem_stepReader hp'
    exact ⟨p, hp, Or.inr ⟨b, ReaderPool.Action.actor_of_meet ha.2.2.1,
      Pipeline.enabled_of_mem ha.1 hp, rfl⟩⟩
  | passToSender b b' => exact ⟨p', hp', Or.inl rfl⟩

/-- What a throttler may become by a step of its pipeline while nobody cancels and its
channel is open. -/
theorem exists_throttler_next {a : Pipeline.Action} (hr : q.runCancelled = false)
    (hopen : q.readerBatches.closes = 0) (ha : q.Enabled false sh a) {t' : Throttler}
    (ht' : t' ∈ (q.next sh a).throttler) :
    ∃ t ∈ q.throttler, t' = t ∨ ∃ b : Throttler.Action, b.actor = .goroutine ∧ b.input ≠ .closed ∧
      t.Enabled sh.now b ∧ t' = t.next sh.now b := by
  cases a with
  | reader b => exact ⟨t', ht', Or.inl rfl⟩
  | throttler b =>
    obtain ⟨t, ht, rfl⟩ := Pipeline.mem_stepThrottler ht'
    have hactor := ha.2.1
    rw [hr] at hactor
    refine ⟨t, ht, Or.inr ⟨b, actor_eq_goroutine hactor, fun hop => ?_,
      Pipeline.enabled_of_mem ha.1 ht, rfl⟩⟩
    have hallows := ha.2.2.1
    rw [hop] at hallows
    exact hallows.1 hopen
  | sender b => exact ⟨t', ht', Or.inl rfl⟩
  | passToThrottler b b' =>
    obtain ⟨t, ht, rfl⟩ := Pipeline.mem_stepThrottler ht'
    obtain ⟨hactor, hop⟩ := Throttler.Action.actor_of_meet_input ha.2.2.1
    exact ⟨t, ht, Or.inr ⟨b', hactor, hop, Pipeline.enabled_of_mem ha.2.1 ht, rfl⟩⟩
  | passToSender b b' =>
    obtain ⟨t, ht, rfl⟩ := Pipeline.mem_stepThrottler ht'
    obtain ⟨hactor, hop⟩ := Throttler.Action.actor_of_meet_output ha.2.2.1
    exact ⟨t, ht, Or.inr ⟨b, hactor, hop, Pipeline.enabled_of_mem ha.1 ht, rfl⟩⟩

/-- What a sender pool may become by a step of its pipeline while nobody cancels. -/
theorem exists_sender_next {a : Pipeline.Action} (hr : q.runCancelled = false)
    (ha : q.Enabled false sh a) {p' : SenderPool} (hp' : p' ∈ (q.next sh a).senderPool) :
    ∃ p ∈ q.senderPool, p' = p ∨ ∃ b : SenderPool.Action, b.actor = .goroutine ∧
      p.Enabled sh.now b ∧ p' = p.next sh.now b := by
  cases a with
  | reader b => exact ⟨p', hp', Or.inl rfl⟩
  | throttler b => exact ⟨p', hp', Or.inl rfl⟩
  | sender b =>
    obtain ⟨p, hp, rfl⟩ := Pipeline.mem_stepSender hp'
    have hactor := ha.2.1
    rw [hr] at hactor
    exact ⟨p, hp, Or.inr ⟨b, actor_eq_goroutine hactor, Pipeline.enabled_of_mem ha.1 hp, rfl⟩⟩
  | passToThrottler b b' => exact ⟨p', hp', Or.inl rfl⟩
  | passToSender b b' =>
    obtain ⟨p, hp, rfl⟩ := Pipeline.mem_stepSender hp'
    exact ⟨p, hp, Or.inr ⟨b', SenderPool.Action.actor_of_meet ha.2.2.1,
      Pipeline.enabled_of_mem ha.2.1 hp, rfl⟩⟩

/-- A live run stays live. -/
theorem Live.next {a : Pipeline.Action} (h : Live state q) (ha : q.Enabled false sh a) :
    Live state (q.next sh a) where
  runCancelled := (Pipeline.frame_next ha).1.trans h.runCancelled
  readerBatches := ⟨(Pipeline.closes_next ha).1.trans h.readerBatches.1,
    (Pipeline.frame_next ha).2.1.trans h.readerBatches.2⟩
  senderBatches := (Pipeline.frame_next ha).2.2.trans h.senderBatches
  reader p' hp' := by
    obtain ⟨p, hp, rfl | ⟨b, hb, hen, rfl⟩⟩ := exists_reader_next h.runCancelled ha hp'
    · exact h.reader p' hp
    · obtain ⟨hblames, hsize⟩ := h.reader p hp
      exact ⟨hblames.next hb hen, (ReaderPool.settings_next hb).1.trans hsize⟩
  throttler t' ht' := by
    obtain ⟨t, ht, rfl | ⟨b, hb, hop, hen, rfl⟩⟩ :=
      exists_throttler_next h.runCancelled h.readerBatches.1 ha ht'
    · exact h.throttler t' ht
    · exact (h.throttler t ht).next hb hop hen
  sender p' hp' := by
    obtain ⟨p, hp, rfl | ⟨b, hb, hen, rfl⟩⟩ := exists_sender_next h.runCancelled ha hp'
    · exact h.sender p' hp
    · exact (SenderPool.settings_next (h.sender p hp) hb hen).1

/-- **A step of a live run leaves what is applied.** -/
theorem Describes.next {a : Pipeline.Action} (h : x.Describes state q) (ha : q.Enabled false sh a) :
    x.Describes state (q.next sh a) where
  live := h.live.next ha
  reader hx p' hp' := by
    obtain ⟨p, hp, rfl | ⟨b, hb, -, rfl⟩⟩ := exists_reader_next h.live.runCancelled ha hp'
    · exact h.reader hx p' hp
    · rcases h.reader hx p hp with hcancelled | hdesired
      · exact Or.inl (ReaderPool.cancelled_next.mpr (Or.inl hcancelled))
      · exact Or.inr ((ReaderPool.settings_next hb).2.trans hdesired)
  sender hx p' hp' := by
    obtain ⟨p, hp, rfl | ⟨b, hb, hen, rfl⟩⟩ := exists_sender_next h.live.runCancelled ha hp'
    · exact h.sender hx p' hp
    · exact (SenderPool.settings_next (h.live.sender p hp) hb hen).2.trans (h.sender hx p hp)
  offered hx t' ht' := by
    obtain ⟨t, ht, rfl | ⟨b, hb, -, hen, rfl⟩⟩ :=
      exists_throttler_next h.live.runCancelled h.live.readerBatches.1 ha ht'
    · exact h.offered hx t' ht
    · exact (h.offered hx t ht).next hb hen
  taken hx t' ht' := by
    obtain ⟨t, ht, rfl | ⟨b, hb, -, hen, rfl⟩⟩ :=
      exists_throttler_next h.live.runCancelled h.live.readerBatches.1 ha ht'
    · exact h.taken hx t' ht
    · exact (h.taken hx t ht).next hb hen

/-- **The facts survive what happens beside the event loop.** -/
theorem Holds.interferes (h : x.Holds s) (hst : s.Interferes t) : x.Holds t := by
  cases hst with
  | clock now => exact { h with }
  | cancelRoot =>
    exact { h with describes := nofun }
  | todo todo => exact { h with }
  | pipeline run a hrun ha =>
    refine { h with describes := fun hroot hx i hi => ?_ }
    have hold := h.describes hroot hx i hi
    have hroot' : s.rootCancelled = false := hroot
    by_cases hir : i = run
    · subst hir
      rw [hroot'] at ha
      simp only [update_self]
      exact hold.next ha
    · simp only [update_of_ne hir]
      exact hold

/-! ### The statements -/

/-- The facts are about the source error, the controls, the pipelines and the answers. -/
theorem Holds.frame (h : x.Holds s) (herror : t.control.run.sourceError = s.control.run.sourceError)
    (hcontrols : t.control.controls = s.control.controls) (hresponses : t.responses = s.responses)
    (hroot : t.rootCancelled = s.rootCancelled) (hruns : t.runs = s.runs)
    (hpipeline : t.pipeline = s.pipeline) : x.Holds t := by
  refine ⟨by rw [herror, h.failed], ?_, fun hr hx i hi => ?_⟩
  · rw [NeverResetting, hresponses]
    exact h.responses
  · have hd := h.describes (hroot ▸ hr) hx i (hruns ▸ hi)
    have hsettings : t.control.throttlerSettings = s.control.throttlerSettings := by
      rw [ControlState.throttlerSettings, ControlState.throttlerSettings, hcontrols]
    rw [hpipeline]
    refine
      { live :=
          { runCancelled := hd.live.runCancelled
            readerBatches := by
              rw [hcontrols]
              exact hd.live.readerBatches
            senderBatches := by
              rw [hcontrols]
              exact hd.live.senderBatches
            reader := by
              rw [hcontrols]
              exact hd.live.reader
            throttler := hd.live.throttler
            sender := hd.live.sender }
        reader := by
          rw [hcontrols]
          exact hd.reader
        sender := by
          rw [hcontrols]
          exact hd.sender
        offered := by
          rw [hsettings]
          exact hd.offered
        taken := by
          rw [hsettings]
          exact hd.taken }

/-- **The rule for what is done to a live run**: what is said of its controls afterwards
holds. -/
theorem Holds.of_last {r : Option ℕ} {F : Pipeline → Pipeline} (h : x.Holds s)
    (herror : t.control.run.sourceError.isSome = y.failed) (hresponses : t.responses = s.responses)
    (hroot : t.rootCancelled = s.rootCancelled) (hruns : t.runs = s.runs)
    (hpipeline : t.pipeline = (s.onPipeline r F).pipeline) (hlive : y.live = true → x.live = true)
    (hF : ∀ i ∈ r, i + 1 = s.runs → x.Describes s.control (s.pipeline i) →
      y.Describes t.control (F (s.pipeline i)))
    (hothers : ∀ i, i ∉ r → i + 1 = s.runs → x.Describes s.control (s.pipeline i) →
      y.Describes t.control (s.pipeline i)) : y.Holds t := by
  refine ⟨herror, ?_, fun hr hy i hi => ?_⟩
  · rw [NeverResetting, hresponses]
    exact h.responses
  · rw [hruns] at hi
    have hd := h.describes (hroot ▸ hr) (hlive hy) i hi
    rw [hpipeline]
    by_cases hmem : i ∈ r
    · rw [onPipeline_of_mem hmem]
      exact hF i hmem hi hd
    · rw [onPipeline_of_notMem hmem]
      exact hothers i hmem hi hd

/-- Nothing is left to be known of a run that is stopped. -/
theorem Holds.stopped (h : x.Holds s) (herror : t.control.run.sourceError = s.control.run.sourceError)
    (hresponses : t.responses = s.responses) : Holds { failed := x.failed } t :=
  ⟨by rw [herror, h.failed], by rw [NeverResetting, hresponses]; exact h.responses, fun _ => nofun⟩

/-- The reader pool is asked for the workers of the controls. -/
theorem Holds.reconcileReader (h : x.Holds s) (hf : f.Holds s) :
    Holds { x with reader := f.readerPool } (s.exec .reconcileReader) := by
  refine h.of_last (r := s.runtime.readerPool)
    (F := (·.stepReader s.memory (.reconcile s.control.controls.readerWorkers.toNat)))
    (by simp [Service.exec, h.failed]) (by simp [Service.exec]) (by simp [Service.exec])
    (by simp [Service.exec]) rfl id (fun i hi _ hd => ?_) (fun i hi hlast hd => ?_)
  · simp only [Service.exec, onPipeline_control]
    refine
      { hd with
        live := { hd.live with reader := fun p' hp' => ?_ }
        reader := fun _ p' hp' => ?_ }
    · obtain ⟨p, hp, rfl⟩ := Pipeline.mem_stepReader hp'
      obtain ⟨hblames, hsize⟩ := hd.live.reader p hp
      obtain ⟨hblames', hsize'⟩ := hblames.reconcile s.control.controls.readerWorkers.toNat
      exact ⟨hblames', hsize'.trans hsize⟩
    · obtain ⟨p, hp, rfl⟩ := Pipeline.mem_stepReader hp'
      exact ReaderPool.desired_reconcile ((hf.inOrder i).sound.reader p hp) _
  · simp only [Service.exec, onPipeline_control]
    refine { hd with reader := fun hpool => absurd ?_ hi }
    exact hf.mem_of_last (fun j hj => by simp only [Runtime.PointsTo]; tauto)
      (hf.pointers.readerPool.trans hpool) hlast

/-- The sender pool is asked for the workers of the controls. -/
theorem Holds.reconcileSender (h : x.Holds s) (hf : f.Holds s) :
    Holds { x with sender := f.senderPool } (s.exec .reconcileSender) := by
  refine h.of_last (r := s.runtime.senderPool)
    (F := (·.stepSender s.memory (.reconcile s.control.controls.senderWorkers.toNat)))
    (by simp [Service.exec, h.failed]) (by simp [Service.exec]) (by simp [Service.exec])
    (by simp [Service.exec]) rfl id (fun i hi _ hd => ?_) (fun i hi hlast hd => ?_)
  · simp only [Service.exec, onPipeline_control]
    have hasked : ∀ p ∈ (s.pipeline i).senderPool, _ := fun p hp =>
      SenderPool.desired_reconcile (hd.live.sender p hp) ((hf.inOrder i).sound.sender p hp).2.1
        s.control.controls.senderWorkers.toNat
    refine
      { hd with
        live := { hd.live with sender := fun p' hp' => ?_ }
        sender := fun _ p' hp' => ?_ }
    · obtain ⟨p, hp, rfl⟩ := Pipeline.mem_stepSender hp'
      exact (hasked p hp).1
    · obtain ⟨p, hp, rfl⟩ := Pipeline.mem_stepSender hp'
      exact (hasked p hp).2
  · simp only [Service.exec, onPipeline_control]
    refine { hd with sender := fun hpool => absurd ?_ hi }
    exact hf.mem_of_last (fun j hj => by simp only [Runtime.PointsTo]; tauto)
      (hf.pointers.senderPool.trans hpool) hlast

/-- The settings of the controls are offered to the throttler. -/
theorem Holds.offerSettings (h : x.Holds s) (hf : f.Holds s) :
    Holds { x with offered := f.throttler, taken := false } (s.exec .offerSettings) := by
  refine h.of_last (r := s.runtime.throttler)
    (F := (·.stepThrottler s.memory (.offer s.control.throttlerSettings)))
    (by simp [Service.exec, h.failed]) (by simp [Service.exec]) (by simp [Service.exec])
    (by simp [Service.exec]) rfl id (fun i hi _ hd => ?_) (fun i hi hlast hd => ?_)
  · simp only [Service.exec, onPipeline_control]
    refine
      { hd with
        live := { hd.live with throttler := fun t' ht' => ?_ }
        offered := fun _ t' ht' => ?_
        taken := by rintro ⟨⟩ }
    · obtain ⟨t, ht, rfl⟩ := Pipeline.mem_stepThrottler ht'
      exact { hd.live.throttler t ht with }
    · obtain ⟨t, ht, rfl⟩ := Pipeline.mem_stepThrottler ht'
      exact Or.inl rfl
  · simp only [Service.exec, onPipeline_control]
    refine
      { hd with
        offered := fun hpool => absurd ?_ hi
        taken := by rintro ⟨⟩ }
    exact hf.mem_of_last (fun j hj => by simp only [Runtime.PointsTo]; tauto)
      (hf.pointers.throttler.trans hpool) hlast

/-- The event loop has waited until the offered settings were taken: a live throttler
does not leave them. -/
theorem Holds.awaitUpdate (h : x.Holds s) (hf : f.Holds s) (hi : s.Ready .awaitUpdate) :
    Holds { x with taken := x.offered && f.throttler } (s.exec .awaitUpdate) := by
  refine h.of_last (r := s.runtime.throttler) (F := (·.stepThrottler s.memory .offerDropped))
    (by simp [Service.exec, h.failed]) (by simp [Service.exec]) (by simp [Service.exec])
    (by simp [Service.exec]) rfl id (fun i hmem _ hd => ?_) (fun i hmem hlast hd => ?_)
  · simp only [Service.exec, onPipeline_control]
    have hnone : ∀ t ∈ (s.pipeline i).throttler, t.updating = none := fun t ht =>
      (hi i hmem t ht).resolve_right (hd.live.throttler t ht).stays.2.1
    have htaken : x.offered = true → ∀ t ∈ (s.pipeline i).throttler,
        t.taken = s.control.throttlerSettings := fun hx t ht => by
      rcases hd.offered hx t ht with hsome | ⟨-, htaken⟩
      · exact absurd ((hnone t ht).symm.trans hsome) (by rintro ⟨⟩)
      · exact htaken
    refine
      { hd with
        live := { hd.live with throttler := fun t' ht' => ?_ }
        offered := fun hx t' ht' => ?_
        taken := fun hx t' ht' => ?_ }
    · obtain ⟨t, ht, rfl⟩ := Pipeline.mem_stepThrottler ht'
      exact { hd.live.throttler t ht with }
    · obtain ⟨t, ht, rfl⟩ := Pipeline.mem_stepThrottler ht'
      exact Or.inr ⟨rfl, htaken hx t ht⟩
    · obtain ⟨t, ht, rfl⟩ := Pipeline.mem_stepThrottler ht'
      exact ⟨rfl, htaken (Bool.and_eq_true_iff.mp hx).1 t ht⟩
  · simp only [Service.exec, onPipeline_control]
    refine { hd with taken := fun hx => absurd ?_ hmem }
    exact hf.mem_of_last (fun j hj => by simp only [Runtime.PointsTo]; tauto)
      (hf.pointers.throttler.trans (Bool.and_eq_true_iff.mp hx).2) hlast

/-- A call of the sender pool that neither stops it nor changes what is desired of
it. -/
theorem Holds.callSender {F : SenderPool → SenderPool} (h : x.Holds s)
    (hF : ∀ p, (F p).stop = p.stop ∧ (F p).desired = p.desired) :
    x.Holds (s.onPipeline s.runtime.senderPool fun q => { q with senderPool := q.senderPool.map F }) := by
  refine h.of_last (r := s.runtime.senderPool)
    (F := fun q => { q with senderPool := q.senderPool.map F })
    (by simp [h.failed]) (by simp) (by simp) (by simp) rfl id (fun i _ _ hd => ?_) (fun i _ _ hd => ?_)
  · simp only [onPipeline_control]
    refine
      { hd with
        live := { hd.live with sender := fun p' hp' => ?_ }
        sender := fun hx p' hp' => ?_ }
    · obtain ⟨p, hp, rfl⟩ := Option.mem_map.mp hp'
      exact (hF p).1.trans (hd.live.sender p hp)
    · obtain ⟨p, hp, rfl⟩ := Option.mem_map.mp hp'
      exact (hF p).2.trans (hd.sender hx p hp)
  · simpa only [onPipeline_control] using hd

/-- The reader pool is started with the controls. -/
theorem Holds.startReaderPool {files : List Path} (h : x.Holds s) (hf : f.Holds s)
    (hpool : f.readerBatches = true) :
    Holds { x with reader := true } (s.exec (.startReaderPool files)) := by
  refine h.of_last (r := s.runtime.readerBatches) (by simp [Service.exec, h.failed])
    (by simp [Service.exec]) (by simp [Service.exec]) (by simp [Service.exec]) rfl id
    (fun i hi _ hd => ?_) (fun i hi hlast hd => ?_)
  · simp only [Service.exec, onPipeline_control]
    obtain ⟨hblames, hsize, hdesired⟩ := ReaderPool.blames_start
      s.control.config.source.path.toList s.control.controls.readBatchSize.toNat
      s.control.controls.readerWorkers.toNat files
    refine
      { hd with
        live := { hd.live with reader := fun p hp => ?_ }
        reader := fun _ p hp => ?_ }
    · obtain rfl := Option.some.inj hp
      exact ⟨hblames, hsize⟩
    · obtain rfl := Option.some.inj hp
      exact Or.inr hdesired
  · exact absurd (hf.mem_of_last (fun j hj => Or.inl hj) (hf.pointers.readerBatches.trans hpool) hlast) hi

/-- The throttler is started with the controls. -/
theorem Holds.startThrottler (h : x.Holds s) (hf : f.Holds s) (hpool : f.readerBatches = true) :
    Holds { x with offered := true, taken := true } (s.exec .startThrottler) := by
  refine h.of_last (r := s.runtime.readerBatches) (by simp [Service.exec, h.failed])
    (by simp [Service.exec]) (by simp [Service.exec]) (by simp [Service.exec]) rfl id
    (fun i hi _ hd => ?_) (fun i hi hlast hd => ?_)
  · simp only [Service.exec, onPipeline_control]
    refine
      { hd with
        live := { hd.live with throttler := fun t ht => ?_ }
        offered := fun _ t ht => ?_
        taken := fun _ t ht => ?_ }
    · obtain rfl := Option.some.inj ht
      exact ⟨rfl, by simp [Throttler.start]⟩
    · obtain rfl := Option.some.inj ht
      exact Or.inr ⟨rfl, rfl⟩
    · obtain rfl := Option.some.inj ht
      exact ⟨rfl, rfl⟩
  · exact absurd (hf.mem_of_last (fun j hj => Or.inl hj) (hf.pointers.readerBatches.trans hpool) hlast) hi

/-- The sender pool is started with the controls. -/
theorem Holds.startSender (h : x.Holds s) (hf : f.Holds s) (hpool : f.senderBatches = true) :
    Holds { x with sender := true } (s.exec .startSender) := by
  refine h.of_last (r := s.runtime.senderBatches) (by simp [Service.exec, h.failed])
    (by simp [Service.exec]) (by simp [Service.exec]) (by simp [Service.exec]) rfl id
    (fun i hi _ hd => ?_) (fun i hi hlast hd => ?_)
  · simp only [Service.exec, onPipeline_control]
    obtain ⟨hstop, hdesired⟩ := SenderPool.settings_startSenderPool s.control.config.sender.retry
      s.control.controls.senderWorkers.toNat
    refine
      { hd with
        live := { hd.live with sender := fun p hp => ?_ }
        sender := fun _ p hp => ?_ }
    · obtain rfl := Option.some.inj hp
      exact hstop
    · obtain rfl := Option.some.inj hp
      exact hdesired
  · exact absurd (hf.mem_of_last (fun j hj => Or.inr (Or.inl hj))
      (hf.pointers.senderBatches.trans hpool) hlast) hi

/-- A run is made with the capacities of the controls. -/
theorem Holds.makeRun (h : x.Holds s) : Holds { failed := x.failed, live := true } (s.exec .makeRun) := by
  refine ⟨h.failed, h.responses, fun _ _ i hi => ?_⟩
  obtain rfl : i = s.runs := Nat.succ.inj hi
  simp only [Service.exec, update_self]
  exact
    { live :=
        { runCancelled := rfl
          readerBatches := ⟨rfl, rfl⟩
          senderBatches := rfl
          reader := fun p hp => absurd hp (Option.not_mem_none p)
          throttler := fun t ht => absurd ht (Option.not_mem_none t)
          sender := fun p hp => absurd hp (Option.not_mem_none p) }
      reader := by rintro ⟨⟩
      sender := by rintro ⟨⟩
      offered := by rintro ⟨⟩
      taken := by rintro ⟨⟩ }

/-- A status shows the run state of the control state. -/
theorem state_runtimeStatusAt (state : ControlState) (seen : Seen) :
    (state.runtimeStatusAt seen).run.state = state.run.state := by
  rw [ControlState.runtimeStatusAt]
  split
  case h_1 hstate _ => exact hstate.symm
  case h_2 => rfl

/-- What is known when a source error is recorded, or forgotten. -/
theorem Holds.recorded {failed : Bool} (h : x.Holds s)
    (herror : t.control.run.sourceError.isSome = failed)
    (hcontrols : t.control.controls = s.control.controls) (hresponses : t.responses = s.responses)
    (hroot : t.rootCancelled = s.rootCancelled) (hruns : t.runs = s.runs)
    (hpipeline : t.pipeline = s.pipeline) : Holds { x with failed := failed } t := by
  have hframe : x.Holds { t with
      control := { t.control with run := { t.control.run with
        sourceError := s.control.run.sourceError } } } :=
    h.frame rfl hcontrols hresponses hroot hruns hpipeline
  exact ⟨herror, hframe.responses, fun hr hx i hi => { hframe.describes hr hx i hi with
    live := { (hframe.describes hr hx i hi).live with } }⟩

/-- A control is stored: what is known of the others stays known. -/
theorem Holds.stored (h : x.Holds s) (herror : t.control.run.sourceError = s.control.run.sourceError)
    (hresponses : t.responses = s.responses) (hroot : t.rootCancelled = s.rootCancelled)
    (hruns : t.runs = s.runs) (hpipeline : t.pipeline = s.pipeline) (hfailed : y.failed = x.failed)
    (hlive : y.live = x.live)
    (hD : ∀ q, x.Describes s.control q → y.Describes t.control q) : y.Holds t := by
  refine ⟨by rw [herror, h.failed, hfailed], by rw [NeverResetting, hresponses]; exact h.responses,
    fun hr hy i hi => ?_⟩
  rw [hpipeline]
  exact hD _ (h.describes (hroot ▸ hr) (hlive ▸ hy) i (hruns ▸ hi))

/-- **A statement that is not refused establishes the facts it is said to.** -/
theorem Holds.exec {i : Stmt} (h : x.Holds s) (hf : f.Holds s) (hi : s.Ready i)
    (hg : f.after i = some g) (hy : after f x i = some y) : y.Holds (s.exec i) := by
  obtain ⟨hstep, -⟩ := Option.filter_eq_some_iff.mp hg
  have hboth : ∀ {b : Bool} {k : Held}, (if f.readerBatches && f.senderBatches && b then some k
      else none) = some g → f.readerBatches = true ∧ f.senderBatches = true := by
    intro b k hk
    split at hk
    case isTrue hb => exact Bool.and_eq_true_iff.mp (Bool.and_eq_true_iff.mp hb).1
    case isFalse => exact absurd hk (by rintro ⟨⟩)
  cases i with
  | faultStart error =>
    obtain rfl := Option.some.inj hy
    exact h.recorded rfl rfl rfl rfl rfl rfl
  | enterFaulted error =>
    obtain rfl := Option.some.inj hy
    exact h.recorded rfl rfl rfl rfl rfl rfl
  | zeroProgress =>
    obtain rfl := Option.some.inj hy
    exact h.recorded rfl rfl rfl rfl rfl rfl
  | makeRun =>
    obtain rfl := Option.some.inj hy
    exact h.makeRun
  | startReaderPool files =>
    obtain rfl := Option.some.inj hy
    exact h.startReaderPool hf (hboth (b := true) (by rwa [Bool.and_true])).1
  | startThrottler =>
    obtain rfl := Option.some.inj hy
    exact h.startThrottler hf (hboth (b := true) (by rwa [Bool.and_true])).1
  | startSender =>
    obtain rfl := Option.some.inj hy
    exact h.startSender hf (hboth hstep).2
  | reconcileReader =>
    obtain rfl := Option.some.inj hy
    exact h.reconcileReader hf
  | reconcileSender =>
    obtain rfl := Option.some.inj hy
    exact h.reconcileSender hf
  | offerSettings =>
    obtain rfl := Option.some.inj hy
    exact h.offerSettings hf
  | awaitUpdate =>
    obtain rfl := Option.some.inj hy
    exact h.awaitUpdate hf hi
  | awaitReconciled =>
    obtain rfl := Option.some.inj hy
    exact h.callSender (F := fun p => { p with joining := [] }) fun _ => ⟨rfl, rfl⟩
  | callSender a =>
    cases a
    case pause =>
      obtain rfl := Option.some.inj hy
      exact h.callSender SenderPool.settings_pause
    case resumeRun =>
      obtain rfl := Option.some.inj hy
      exact h.callSender SenderPool.settings_resumeRun
    all_goals
      obtain rfl := Option.some.inj hy
      exact h.stopped (by simp [Service.exec]) (by simp [Service.exec])
  | cancelRun =>
    obtain rfl := Option.some.inj hy
    exact h.stopped (by simp [Service.exec]) (by simp [Service.exec])
  | setReadBatchSize value =>
    obtain rfl := Option.some.inj hy
    exact h.stopped rfl rfl
  | setCapacity c value =>
    obtain rfl := Option.some.inj hy
    cases c <;> exact h.stopped rfl rfl
  | setReaderWorkers value =>
    obtain rfl := Option.some.inj hy
    exact h.stored rfl rfl rfl rfl rfl rfl rfl fun _ hd =>
      { hd with
        live := { hd.live with }
        reader := by rintro ⟨⟩ }
  | setSenderWorkers value =>
    obtain rfl := Option.some.inj hy
    exact h.stored rfl rfl rfl rfl rfl rfl rfl fun _ hd =>
      { hd with
        live := { hd.live with }
        sender := by rintro ⟨⟩ }
  | setRequestedTPS value =>
    obtain rfl := Option.some.inj hy
    exact h.stored rfl rfl rfl rfl rfl rfl rfl fun _ hd =>
      { hd with
        live := { hd.live with }
        offered := by rintro ⟨⟩
        taken := by rintro ⟨⟩ }
  | setInstalled installed =>
    obtain rfl := Option.some.inj hy
    exact h.stored rfl rfl rfl rfl rfl rfl rfl fun _ hd =>
      { hd with
        live := { hd.live with }
        offered := by rintro ⟨⟩
        taken := by rintro ⟨⟩ }
  | closeAndDrain c =>
    rw [after] at hy
    split at hy
    case isTrue => exact absurd hy (by rintro ⟨⟩)
    case isFalse hlive =>
      obtain rfl := Option.some.inj hy
      refine ⟨?_, ?_, fun _ hx => absurd hx hlive⟩
      · simp [Service.exec, h.failed]
      · simpa [Service.exec, NeverResetting] using h.responses
  | respond response =>
    cases response
    case status status => exact absurd hy (by rintro ⟨⟩)
    all_goals
      obtain rfl := Option.some.inj hy
      refine ⟨h.failed, fun status hmem => ?_, fun hr hx i hlast => h.describes hr hx i hlast⟩
      simp only [Service.exec, List.mem_append, List.mem_singleton, reduceCtorEq, or_false] at hmem
      exact h.responses status hmem
  | respondStatus =>
    rw [after] at hy
    split at hy
    case isTrue => exact absurd hy (by rintro ⟨⟩)
    case isFalse hstate =>
      obtain rfl := Option.some.inj hy
      refine ⟨h.failed, fun status hmem => ?_, fun hr hx i hlast => h.describes hr hx i hlast⟩
      rcases List.mem_append.mp hmem with hold | hnew
      · exact h.responses status hold
      · obtain rfl := Response.status.inj (List.mem_singleton.mp hnew)
        rw [state_runtimeStatusAt, hf.state]
        exact hstate
  | enterPaused =>
    obtain rfl := Option.some.inj hy
    refine h.frame ?_ rfl rfl rfl rfl rfl
    simp only [Service.exec, onRun, ControlState.pauseElapsed]
    split <;> rfl
  | startChannel c =>
    obtain rfl := Option.some.inj hy
    rw [Service.exec]
    split <;> exact h.frame rfl rfl rfl rfl rfl rfl
  | seeChannel c =>
    obtain rfl := Option.some.inj hy
    cases c <;> exact h.frame rfl rfl rfl rfl rfl rfl
  | _ =>
    obtain rfl := Option.some.inj hy
    exact h.frame rfl rfl rfl rfl rfl rfl

/-- The event loop as a thread that keeps track of what is applied. -/
def thread : Thread Service Stmt (Held × Fit) where
  Ready := Service.Ready
  exec := Service.exec
  Holds z s := z.1.Holds s ∧ z.2.Holds s
  after z i := (z.1.after i).bind fun g => (z.2.after z.1 i).map (Prod.mk g)

/-- **The facts are sound** beside the pipelines. -/
theorem sound : thread.Sound Interferes where
  env _ _ _ h hst := ⟨h.1.interferes hst, h.2.interferes hst⟩
  exec z z' s i h hi hz := by
    obtain ⟨g, hg, hy⟩ := Option.bind_eq_some_iff.mp hz
    obtain ⟨y, hxy, rfl⟩ := Option.map_eq_some_iff.mp hy
    exact ⟨h.1.exec hi hg, h.2.exec h.1 hi hg hxy⟩

/-! ### The programs -/

/-- **What is applied between two events**: everything in an active run. -/
def rest (state : RunState) : Fit where
  failed := state == .faulted
  live := state.isActive
  reader := state.isActive
  sender := state.isActive
  offered := state.isActive
  taken := state.isActive

/-- What is known when the program of an event starts: a run whose error is taken is as
good as stopped. -/
def start (state : RunState) : Event → Fit
  | .sourceError _ => { failed := state == .faulted }
  | _ => rest state

/-- The facts a program may end with. -/
def Final (z : Held × Fit) : Prop :=
  z.1.exited = true ∨ z = (Held.rest z.1.state, rest z.1.state) ∧ z.1.state ≠ .resetting

/-- **The program of every event leaves everything applied**, where a run is active. -/
theorem exists_check (s : Service) (e : Event) (hs : s.control.run.state ≠ .resetting) :
    ∃ z, thread.check (Held.rest s.control.run.state, start s.control.run.state e) (s.program e) =
      some z ∧ Final z := by
  have hstart : start s.control.run.state e = rest s.control.run.state ∨
      ∃ error, e = .sourceError error := by
    cases e
    case sourceError error => exact Or.inr ⟨error, rfl⟩
    all_goals exact Or.inl rfl
  obtain hstart | ⟨error, rfl⟩ := hstart
  · have hprogram := program_cases s e
    rw [hstart]
    clear hstart
    generalize s.control.run.state = state at hs hprogram ⊢
    generalize s.program e = p at hprogram ⊢
    cases state
    case resetting => exact absurd rfl hs
    all_goals
      cases hprogram with
      | exit => exact ⟨_, rfl, Or.inl rfl⟩
      | _ => exact ⟨_, rfl, Or.inr ⟨rfl, by rintro ⟨⟩⟩⟩
  · cases hstate : s.control.run.state
    case resetting => exact absurd hstate hs
    all_goals
      simp only [program, hstate, RunState.fault]
      exact ⟨_, rfl, Or.inr ⟨rfl, by rintro ⟨⟩⟩⟩

/-- Taking an event leaves what is known when its program starts. -/
theorem Holds.take {st : RunState} (h : (rest st).Holds s) (e : Event) :
    (start st e).Holds (s.take e) := by
  cases e with
  | sourceError error => exact h.stopped (by simp [Service.take]) (by simp [Service.take])
  | done => exact h.interferes (.todo _ _)
  | requestsClosed => exact h.interferes (.todo _ _)
  | command c => exact h.interferes (.todo _ _)
  | tick now => exact h.interferes (.todo _ _)

end Fit

namespace Service

variable {s : Service} {cfg : Config} {now : ℕ}

/-- In every state of the service it is known what is applied. -/
theorem fit_covered (h : machine.Reachable (newService cfg now) s) :
    Fit.thread.Covered Fit.Final s s.todo := by
  have hstart : (Fit.rest .idle).Holds (newService cfg now) :=
    ⟨rfl, fun status hmem => absurd hmem List.not_mem_nil, fun _ => nofun⟩
  refine covered_of_sound rfl rfl Fit.sound
    ⟨(Held.rest .idle, Fit.rest .idle), (Held.rest .idle, Fit.rest .idle),
      ⟨holds_newService cfg now, hstart⟩, rfl, Or.inr ⟨rfl, nofun⟩⟩ (fun s e hexited he hs => ?_) h
  obtain ⟨z, ⟨hf, hx⟩, hfinal⟩ := hs.final
  rcases hfinal with hleft | ⟨hrest, hstate⟩
  · exact absurd (hf.exited.symm.trans hexited) (by rw [hleft]; nofun)
  · obtain ⟨g, hg, hgfinal⟩ := Fit.exists_check s e (by rw [hf.state]; exact hstate)
    rw [hf.state] at hg
    rw [hrest] at hf hx
    exact ⟨(Held.rest z.1.state, Fit.start z.1.state e), g, ⟨hf.take he, hx.take e⟩, hg, hgfinal⟩

/-- **Between two events everything is applied.** -/
theorem fit_rest (h : machine.Reachable (newService cfg now) s) (htodo : s.todo = [])
    (hexited : s.exited = false) : (Fit.rest s.control.run.state).Holds s := by
  have hcovered := fit_covered h
  rw [htodo] at hcovered
  obtain ⟨z, ⟨hf, hx⟩, hfinal⟩ := hcovered.final
  rcases hfinal with hleft | ⟨hrest, -⟩
  · exact absurd (hf.exited.symm.trans hexited) (by rw [hleft]; nofun)
  · rw [hf.state]
    rw [hrest] at hx
    exact hx

end Service

end IngestionLab
