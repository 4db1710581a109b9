import IngestionLab.Loadgen.EventLoop.Configured
import IngestionLab.Loadgen.EventLoop.Paused

/-!
# What is measured

What the event loop reads to make a status of it: the telemetry, the channels of the runs,
and what it has read of them. No number of these is negative, the numbers of a pool add
up, and every channel was made with a capacity that is allowed
(`IngestionLab.Service.measured_of_reachable`).

The goroutines of a pipeline only add to the telemetry, so that what is kept by what they
add is kept by all of them (`IngestionLab.Memory.channels_pipeline`).
-/

namespace IngestionLab

open Function

/-! ### A channel -/

/-- No measurement is negative, and the channel the telemetry is attached to is one of
those there have been. -/
structure ChannelTelemetry.Measured (runs : ℕ) (q : ChannelTelemetry) : Prop where
  batches : ∀ i ∈ q.batches, i < runs
  batchSize : 0 ≤ q.batchSize
  blockedMs : 0 ≤ q.measurements.blockedMs
  sentBatches : 0 ≤ q.measurements.sentBatchesPerSecond
  sentTransactions : 0 ≤ q.measurements.sentTransactionsPerSecond
  receivedBatches : 0 ≤ q.measurements.receivedBatchesPerSecond
  receivedTransactions : 0 ≤ q.measurements.receivedTransactionsPerSecond

/-- No number of a snapshot is negative. -/
structure ChannelMeasurements.Nonneg (m : ChannelMeasurements) : Prop where
  counters : ∀ z ∈ m.counters, 0 ≤ z
  rates : ∀ r ∈ [m.sentBatchesPerSecond, m.sentTransactionsPerSecond, m.receivedBatchesPerSecond,
    m.receivedTransactionsPerSecond], 0 ≤ r

theorem milliseconds_nonneg {duration : ℤ} (h : 0 ≤ duration) : 0 ≤ milliseconds duration :=
  Int.tdiv_nonneg h (by decide)

namespace ChannelTelemetry

variable {runs : ℕ} {q : ChannelTelemetry}

theorem measured_blank (runs : ℕ) : Measured runs {} :=
  ⟨fun _ h => absurd h (Option.not_mem_none _), le_rfl, le_rfl, le_rfl, le_rfl, le_rfl, le_rfl⟩

theorem Measured.mono {runs' : ℕ} (h : q.Measured runs) (hle : runs ≤ runs') : q.Measured runs' :=
  { h with batches := fun i hi => (h.batches i hi).trans_le hle }

theorem Measured.start (h : q.Measured runs) {i : ℕ} (hi : i < runs) {batchSize : ℤ}
    (hsize : 0 ≤ batchSize) : (q.start i batchSize).Measured runs where
  batches j hj := by
    obtain rfl : i = j := Option.some.inj hj
    exact hi
  batchSize := hsize
  blockedMs := h.blockedMs
  sentBatches := h.sentBatches
  sentTransactions := h.sentTransactions
  receivedBatches := h.receivedBatches
  receivedTransactions := h.receivedTransactions

theorem Measured.clearMeasurements (h : q.Measured runs) : q.clearMeasurements.Measured runs :=
  ⟨h.batches, h.batchSize, le_rfl, le_rfl, le_rfl, le_rfl, le_rfl⟩

theorem Measured.startInterval (h : q.Measured runs) : q.startInterval.Measured runs :=
  ⟨h.batches, h.batchSize, h.blockedMs, le_rfl, le_rfl, le_rfl, le_rfl⟩

theorem Measured.sample (h : q.Measured runs) {window : ℤ} (hwindow : 0 < window) :
    (q.sample window).Measured runs := by
  have hrate : ∀ n : ℕ, (0 : ℚ) ≤ n / seconds window := fun n => by
    rw [seconds]
    exact div_nonneg n.cast_nonneg (div_nonneg (Int.cast_nonneg hwindow.le) (by norm_num))
  exact ⟨h.batches, h.batchSize, h.blockedMs, hrate _, hrate _, hrate _, hrate _⟩

/-- **What the goroutines add to the telemetry of a channel keeps a property of it.** -/
structure Kept (P : ChannelTelemetry → Prop) : Prop where
  recordSend : ∀ q n, P q → P (q.recordSend n)
  recordReceive : ∀ q n, P q → P (q.recordReceive n)
  startBlocked : ∀ q now, P q → P (q.startBlocked now)
  finishBlockedLocked : ∀ q id now, P q → P (q.finishBlockedLocked id now)

theorem Kept.finishBlocked {P : ChannelTelemetry → Prop} (hP : Kept P) {now : ℕ} (h : P q) :
    P (q.finishBlocked now) := by
  rw [ChannelTelemetry.finishBlocked]
  split
  · exact h
  · exact hP.finishBlockedLocked q _ now h

theorem kept_measured (runs : ℕ) : Kept (Measured runs) where
  recordSend _ _ h := { h with }
  recordReceive _ _ h := { h with }
  startBlocked _ _ h := { h with }
  finishBlockedLocked q id now h := by
    rw [ChannelTelemetry.finishBlockedLocked]
    split
    · exact h
    · exact { h with blockedMs := add_nonneg h.blockedMs (le_max_left _ _) }

/-- The channel the telemetry is attached to is none of the goroutines' business. -/
theorem kept_batches (batches : Option ℕ) : Kept fun q => q.batches = batches where
  recordSend _ _ h := h
  recordReceive _ _ h := h
  startBlocked _ _ h := h
  finishBlockedLocked q id now h := by
    rw [ChannelTelemetry.finishBlockedLocked]
    split <;> exact h

/-- **A snapshot reports no negative number.** -/
theorem Measured.snapshot (h : q.Measured runs) {channel : Option (ℤ × ℤ)}
    (hdepth : ∀ c ∈ channel, 0 ≤ c.2) (now : ℕ) : (q.snapshot channel now).Nonneg where
  counters := by
    have hdepth' : 0 ≤ (channel.map Prod.snd).getD 0 := by
      cases channel with
      | none => exact le_rfl
      | some c => exact hdepth c rfl
    have hbuffered : 0 ≤ (channel.map fun c => c.2 * q.batchSize).getD 0 := by
      cases channel with
      | none => exact le_rfl
      | some c => exact mul_nonneg (hdepth c rfl) h.batchSize
    have holdest : 0 ≤ (q.snapshot channel now).oldestBlockedSenderMs :=
      List.foldlRecOn _ _ le_rfl fun oldest holdest entry _ => by
        split
        · exact holdest.trans (le_max_left _ _)
        · exact holdest
    have hblocked : 0 ≤ (q.snapshot channel now).blockedMs :=
      milliseconds_nonneg (List.foldlRecOn _ _ h.blockedMs fun blocked hblocked entry _ => by
        split
        next hpos => exact add_nonneg hblocked hpos.le
        · exact hblocked)
    simp only [ChannelMeasurements.counters, List.forall_mem_cons]
    exact ⟨hdepth', hbuffered, Int.natCast_nonneg _, holdest, hblocked, Int.natCast_nonneg _,
      Int.natCast_nonneg _, Int.natCast_nonneg _, Int.natCast_nonneg _,
      fun _ hz => absurd hz List.not_mem_nil⟩
  rates := by
    simp only [List.forall_mem_cons]
    exact ⟨h.sentBatches, h.sentTransactions, h.receivedBatches, h.receivedTransactions,
      fun _ hr => absurd hr List.not_mem_nil⟩

end ChannelTelemetry

/-! ### The memory -/

namespace Memory

variable {P Q : ChannelTelemetry → Prop} {sh : Memory}

/-- A property of each channel. -/
def Channels (P Q : ChannelTelemetry → Prop) (sh : Memory) : Prop :=
  P sh.readerChannel ∧ Q sh.senderChannel

theorem channels_reader (hP : ChannelTelemetry.Kept P) (h : sh.Channels P Q)
    (a : ReaderPool.Action) : (ReaderPool.remember sh a).Channels P Q := by
  cases a
  case read w path pc move =>
    rw [ReaderPool.remember]
    unfold ReadPc.remember
    split
    · exact h
    · exact ⟨hP.recordSend _ _ h.1, h.2⟩
    · exact ⟨hP.recordSend _ _ h.1, h.2⟩
    · exact ⟨hP.startBlocked _ _ h.1, h.2⟩
    · exact ⟨hP.finishBlockedLocked _ _ _ h.1, h.2⟩
    · exact h
  all_goals exact h

theorem channels_throttler (hP : ChannelTelemetry.Kept P) (hQ : ChannelTelemetry.Kept Q)
    (h : sh.Channels P Q) (a : Throttler.Action) : (Throttler.remember sh a).Channels P Q := by
  cases a
  case recordReceive batch => exact ⟨hP.recordReceive _ _ h.1, h.2⟩
  case startBlocked batch => exact ⟨h.1, hQ.startBlocked _ _ h.2⟩
  case finishBlocked batch outcome => exact ⟨h.1, hQ.finishBlocked h.2⟩
  case recordSend batch => exact ⟨h.1, hQ.recordSend _ _ h.2⟩
  all_goals exact h

theorem channels_sender (hQ : ChannelTelemetry.Kept Q) (h : sh.Channels P Q)
    (a : SenderPool.Action) : (SenderPool.remember sh a).Channels P Q := by
  cases a
  case intakeRecord batch => exact ⟨h.1, hQ.recordReceive _ _ h.2⟩
  case settle w batch delivered => cases delivered <;> exact h
  all_goals exact h

/-- **What is kept by what the goroutines add** is kept by every step of a pipeline. -/
theorem channels_pipeline (hP : ChannelTelemetry.Kept P) (hQ : ChannelTelemetry.Kept Q)
    (h : sh.Channels P Q) (a : Pipeline.Action) : (Pipeline.remember sh a).Channels P Q := by
  cases a with
  | reader b => exact channels_reader hP h b
  | throttler b => exact channels_throttler hP hQ h b
  | sender b => exact channels_sender hQ h b
  | passToThrottler b b' => exact channels_throttler hP hQ (channels_reader hP h b) b'
  | passToSender b b' => exact channels_sender hQ (channels_throttler hP hQ h b) b'

end Memory

/-- No measurement of the shared memory is negative. -/
structure Memory.Measured (runs : ℕ) (sh : Memory) : Prop where
  channels : sh.Channels (ChannelTelemetry.Measured runs) (ChannelTelemetry.Measured runs)
  readTPS : 0 ≤ sh.reader.readTPS
  intervalRows : sh.reader.intervalRows ≤ sh.reader.rowsRead

theorem ReaderTelemetry.sample_nonneg {r : ReaderTelemetry} (hrate : 0 ≤ r.readTPS)
    (hrows : r.intervalRows ≤ r.rowsRead) (now : ℕ) :
    0 ≤ (r.sample now).readTPS ∧ (r.sample now).intervalRows ≤ (r.sample now).rowsRead := by
  rw [sample]
  split
  · exact ⟨hrate, hrows⟩
  next since _ =>
    split_ifs with hpast
    · exact ⟨hrate, hrows⟩
    · refine ⟨div_nonneg (Int.cast_nonneg (by omega)) ?_, le_rfl⟩
      exact div_nonneg (Int.cast_nonneg (not_le.mp hpast).le) (by norm_num)

/-! ### The service -/

/-- No number that has been read is negative, and those of the pools add up. -/
structure Seen.Measured (seen : Seen) : Prop where
  reader : 0 ≤ seen.reader.readTPS
  readerPool : seen.readerPool.AddsUp
  senderPool : seen.senderPool.AddsUp
  readerChannel : seen.readerChannel.Nonneg
  senderChannel : seen.senderChannel.Nonneg

/-- The channels of a run have capacities that are allowed. -/
def Pipeline.Allowed (cfg : Config) (q : Pipeline) : Prop :=
  cfg.readerChannel.capacity.contains q.readerBatches.capacity = true ∧
    cfg.senderChannel.capacity.contains q.senderBatches.capacity = true

namespace Service

variable {s : Service} {cfg : Config} {now : ℕ} {st : Stmt}

/-- **What is measured is in order**: no number is negative, and the channels of every run
have capacities that are allowed. -/
structure Measured (cfg : Config) (s : Service) : Prop where
  window : 0 < s.control.metricsWindow
  memory : s.memory.Measured s.runs
  pipeline : ∀ i < s.runs, (s.pipeline i).Allowed cfg
  seen : s.seen.Measured

@[simp] theorem onPipeline_seen (s : Service) (run : Option ℕ) (F : Pipeline → Pipeline) :
    (s.onPipeline run F).seen = s.seen := by cases run <;> rfl

/-- The window is never changed. -/
theorem metricsWindow_exec (s : Service) (st : Stmt) :
    (s.exec st).control.metricsWindow = s.control.metricsWindow := by
  cases st
  case setCapacity c value => cases c <;> rfl
  case startChannel c =>
    rw [exec]
    split <;> rfl
  case seeChannel c => cases c <;> rfl
  all_goals simp [exec, onRun, onControls, onChannel]

/-- What is done to the telemetry of one channel. -/
theorem Measured.onChannel (h : s.Measured cfg) (c : ChannelName)
    {f : ChannelTelemetry → ChannelTelemetry}
    (hf : ∀ q : ChannelTelemetry, q.Measured s.runs → (f q).Measured s.runs) :
    (s.onChannel c f).memory.Measured s.runs := by
  obtain ⟨hreader, hsender⟩ := h.memory.channels
  cases c with
  | reader => exact { h.memory with channels := ⟨hf _ hreader, hsender⟩ }
  | sender => exact { h.memory with channels := ⟨hreader, hf _ hsender⟩ }

/-- A statement leaves the memory in order. -/
theorem Measured.memory_exec (h : s.Measured cfg) (hbounds : s.InBounds cfg) (hcfg : cfg.Valid)
    (hf : ∃ f : Held, f.Holds s) : (s.exec st).memory.Measured (s.exec st).runs := by
  cases st
  case startReaderInterval | resumeReaderInterval => exact ⟨h.memory.channels, le_rfl, le_rfl⟩
  case sampleReader now =>
    obtain ⟨hrate, hrows⟩ :=
      ReaderTelemetry.sample_nonneg h.memory.readTPS h.memory.intervalRows now
    exact ⟨h.memory.channels, hrate, hrows⟩
  case resetReader => exact ⟨h.memory.channels, le_rfl, le_rfl⟩
  case collectCompleted | storeZero =>
    exact ⟨h.memory.channels, h.memory.readTPS, h.memory.intervalRows⟩
  case startChannel c =>
    rw [exec]
    split
    · exact h.memory
    next i hi =>
      -- a pointer that is set leads to the last run
      obtain ⟨f, hf⟩ := hf
      have hlast := hf.pointers.last i (by
        cases c
        · exact Or.inl hi
        · exact Or.inr (Or.inl hi))
      exact h.onChannel c fun q hq =>
        hq.start (by omega) (hbounds.controls.nonneg hcfg).1.le
  case clearMeasurements c => exact h.onChannel c fun q hq => hq.clearMeasurements
  case startInterval c => exact h.onChannel c fun q hq => hq.startInterval
  case sampleChannel c => exact h.onChannel c fun q hq => hq.sample h.window
  case detach c => exact h.onChannel c fun q _ => ChannelTelemetry.measured_blank _
  case makeRun =>
    obtain ⟨hreader, hsender⟩ := h.memory.channels
    exact { h.memory with channels := ⟨hreader.mono (Nat.le_succ _), hsender.mono (Nat.le_succ _)⟩ }
  case setCapacity c value => cases c <;> exact h.memory
  case seeChannel c => cases c <;> exact h.memory
  all_goals simpa [exec, onRun, onControls] using h.memory

/-- **A snapshot of a channel** has no negative number. -/
theorem Measured.channelSnapshot (h : s.Measured cfg) (c : ChannelName) :
    (s.channelSnapshot c).Nonneg := by
  have hchannel : (s.memory.channel c).Measured s.runs := by
    cases c
    · exact h.memory.channels.1
    · exact h.memory.channels.2
  refine hchannel.snapshot (fun entry hentry => ?_) _
  obtain ⟨i, -, rfl⟩ := Option.map_eq_some_iff.mp hentry
  exact Int.natCast_nonneg _

/-- A statement reads nothing that is out of order. -/
theorem Measured.seen_exec (h : s.Measured cfg) : (s.exec st).seen.Measured := by
  cases st
  case readClock => exact { h.seen with }
  case seeReader => exact { h.seen with reader := h.memory.readTPS }
  case seeReaderPool =>
    refine { h.seen with readerPool := ?_ }
    simp only [exec]
    cases s.runtime.readerPool.bind fun i => (s.pipeline i).readerPool with
    | none => exact ⟨rfl, rfl, le_rfl, le_rfl, le_rfl⟩
    | some p => exact p.aggregateSnapshot_adds_up
  case seeSenderPool =>
    refine { h.seen with senderPool := ?_ }
    simp only [exec]
    cases s.runtime.senderPool.bind fun i => (s.pipeline i).senderPool with
    | none => exact ⟨rfl, rfl, le_rfl, le_rfl, le_rfl⟩
    | some p => exact p.aggregateSnapshot_adds_up
  case seeChannel c =>
    cases c
    · exact { h.seen with readerChannel := h.channelSnapshot .reader }
    · exact { h.seen with senderChannel := h.channelSnapshot .sender }
  case setCapacity c value => cases c <;> exact h.seen
  case startChannel c =>
    rw [exec]
    split <;> exact h.seen
  all_goals simpa [exec, onRun, onControls, Service.onChannel] using h.seen

/-- No statement but one makes a run. -/
theorem runs_exec (s : Service) (hst : st ≠ .makeRun) : (s.exec st).runs = s.runs := by
  cases st
  case makeRun => exact absurd rfl hst
  case startChannel c =>
    rw [exec]
    split <;> rfl
  case setCapacity c value => cases c <;> rfl
  case seeChannel c => cases c <;> rfl
  all_goals simp [exec, onRun, onControls, Service.onChannel]

/-- What is done to a pipeline leaves its channels the capacities they have. -/
theorem capacity_onPipeline (s : Service) (run : Option ℕ) {F : Pipeline → Pipeline}
    (hF : ∀ q, (F q).readerBatches.capacity = q.readerBatches.capacity ∧
      (F q).senderBatches.capacity = q.senderBatches.capacity) (i : ℕ) :
    ((s.onPipeline run F).pipeline i).readerBatches.capacity =
        (s.pipeline i).readerBatches.capacity ∧
      ((s.onPipeline run F).pipeline i).senderBatches.capacity =
        (s.pipeline i).senderBatches.capacity := by
  by_cases hmem : i ∈ run
  · rw [onPipeline_of_mem hmem]
    exact hF _
  · rw [onPipeline_of_notMem hmem]
    exact ⟨rfl, rfl⟩

/-- **A channel keeps its capacity**, whatever is executed. -/
theorem capacity_exec (s : Service) (st : Stmt) {i : ℕ} (hi : i < s.runs) :
    ((s.exec st).pipeline i).readerBatches.capacity = (s.pipeline i).readerBatches.capacity ∧
      ((s.exec st).pipeline i).senderBatches.capacity =
        (s.pipeline i).senderBatches.capacity := by
  cases st
  case makeRun => simp only [exec, update_of_ne hi.ne, and_self]
  case startReaderPool | startThrottler | startSender | reconcileReader | reconcileSender
    | callSender | awaitReconciled | offerSettings | awaitUpdate | cancelRun =>
    simp only [exec]
    refine capacity_onPipeline s _ (fun q => ?_) i
    exact ⟨rfl, rfl⟩
  case closeAndDrain c =>
    simp only [exec]
    refine capacity_onPipeline s _ (fun q => ?_) i
    cases c <;> exact ⟨rfl, rfl⟩
  case startChannel c =>
    rw [exec]
    split <;> exact ⟨rfl, rfl⟩
  case setCapacity c value => cases c <;> exact ⟨rfl, rfl⟩
  case seeChannel c => cases c <;> exact ⟨rfl, rfl⟩
  all_goals exact ⟨rfl, rfl⟩

/-- A statement makes no channel of a capacity that is not allowed. -/
theorem Measured.pipeline_exec (h : s.Measured cfg) (hbounds : s.InBounds cfg)
    (hcfg : cfg.Valid) : ∀ i < (s.exec st).runs, ((s.exec st).pipeline i).Allowed cfg := by
  intro i hi
  by_cases hlt : i < s.runs
  · obtain ⟨hreader, hsender⟩ := capacity_exec s st hlt
    rw [Pipeline.Allowed, hreader, hsender]
    exact h.pipeline i hlt
  by_cases hst : st = .makeRun
  · subst hst
    obtain ⟨-, -, hreader, hsender, -⟩ := hbounds.controls.nonneg hcfg
    obtain rfl : i = s.runs := Nat.le_antisymm (Nat.lt_succ_iff.mp hi) (not_lt.mp hlt)
    simp only [exec, update_self, Pipeline.Allowed, Go.Chan.make, Int.toNat_of_nonneg hreader,
      Int.toNat_of_nonneg hsender]
    exact ⟨hbounds.controls.readerChannelCapacity, hbounds.controls.senderChannelCapacity⟩
  · rw [runs_exec s hst] at hi
    exact absurd hi hlt

/-- **A statement leaves what is measured in order.** -/
theorem Measured.exec (h : s.Measured cfg) (hbounds : s.InBounds cfg) (hcfg : cfg.Valid)
    (hf : ∃ f : Held, f.Holds s) : (s.exec st).Measured cfg where
  window := (metricsWindow_exec s st).symm ▸ h.window
  memory := h.memory_exec hbounds hcfg hf
  pipeline := h.pipeline_exec hbounds hcfg
  seen := h.seen_exec

/-- What the goroutines of a pipeline do leaves what is measured in order. -/
theorem Measured.interferes {t : Service} (h : s.Measured cfg) (hst : s.Interferes t) :
    t.Measured cfg := by
  cases hst with
  | clock now =>
    exact { h with memory := ⟨h.memory.channels, h.memory.readTPS, h.memory.intervalRows⟩ }
  | cancelRoot => exact { h with }
  | todo todo => exact { h with }
  | pipeline run a hrun ha =>
    have hcounts := Memory.counts_pipeline s.memory a
    refine { h with memory := ?_, pipeline := fun i hi => ?_ }
    · have hkept := ChannelTelemetry.kept_measured s.runs
      refine ⟨Memory.channels_pipeline hkept hkept h.memory.channels a, ?_, ?_⟩
      · rw [hcounts.reader.1]
        exact h.memory.readTPS
      · rw [hcounts.reader.2]
        exact h.memory.intervalRows.trans hcounts.rowsRead
    · by_cases hir : i = run
      · subst hir
        obtain ⟨-, hreader, hsender⟩ := Pipeline.frame_next ha
        simp only [update_self, Pipeline.Allowed, hreader, hsender]
        exact h.pipeline i hi
      · simp only [update_of_ne hir]
        exact h.pipeline i hi

/-- Taking an event leaves what is measured in order. -/
theorem Measured.take (h : s.Measured cfg) (e : Event) : (s.take e).Measured cfg := by
  cases e with
  | sourceError error =>
    refine { window := ?_, memory := ?_, pipeline := fun i hi => ?_, seen := ?_ }
    · simpa [Service.take] using h.window
    · simpa [Service.take] using h.memory
    · simp only [Service.take, onPipeline_runs] at hi ⊢
      obtain ⟨hreader, hsender⟩ := capacity_onPipeline s s.runtime.readerPool
        (F := (·.stepReader s.memory (.receiveError error))) (fun q => ⟨rfl, rfl⟩) i
      rw [Pipeline.Allowed, hreader, hsender]
      exact h.pipeline i hi
    · simpa [Service.take] using h.seen
  | done => exact { h with }
  | requestsClosed => exact { h with }
  | command c => exact { h with }
  | tick now => exact { h with }

/-- What is measured is in order when the event loop starts. -/
theorem measured_newService (hcfg : cfg.Valid) (now : ℕ) : (newService cfg now).Measured cfg where
  window := by
    have hmin := (RangeConfig.bounds_of_contains hcfg.windowMS.contains).1
    have hbound := hcfg.windowMSBounds.1
    simp only [newService, newControlState, Go.millisecond]
    omega
  memory := ⟨⟨ChannelTelemetry.measured_blank _, ChannelTelemetry.measured_blank _⟩, le_rfl, le_rfl⟩
  pipeline i hi := absurd hi (Nat.not_lt_zero i)
  seen := by
    have hblank : ({} : ChannelMeasurements).Nonneg := ⟨by decide, by decide⟩
    exact ⟨le_rfl, ⟨rfl, rfl, le_rfl, le_rfl, le_rfl⟩, ⟨rfl, rfl, le_rfl, le_rfl, le_rfl⟩, hblank, hblank⟩

/-- **In every state of the service what is measured is in order.** -/
theorem measured_of_reachable (hcfg : cfg.Valid) (h : machine.Reachable (newService cfg now) s) :
    s.Measured cfg := by
  have hall : machine.Reachable (newService cfg now) s ∧ s.Measured cfg := by
    refine h.invariant (I := fun s => machine.Reachable (newService cfg now) s ∧ s.Measured cfg)
      (fun s a hs ha => ⟨hs.1.step ha, ?_⟩) ⟨.refl _, measured_newService hcfg now⟩
    obtain ⟨hreach, hs⟩ := hs
    cases a with
    | clock now => exact hs.interferes (.clock s now)
    | cancelRoot => exact hs.interferes (.cancelRoot s)
    | pipeline run a => exact hs.interferes (.pipeline s run a ha.1 ha.2)
    | event e => exact hs.take e
    | exec =>
      obtain ⟨st, hst, -⟩ := ha
      obtain ⟨rest, htodo⟩ := List.head?_eq_some_iff.mp hst
      simp only [machine, htodo]
      exact (hs.exec (inBounds_of_reachable hcfg hreach) hcfg (exists_holds hreach)).interferes
        (.todo _ rest)
  exact hall.2

end Service

end IngestionLab
