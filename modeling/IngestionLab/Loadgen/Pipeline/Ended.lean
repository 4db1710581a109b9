import IngestionLab.Loadgen.Pipeline

/-!
# A pipeline that has ended

When each component of a pipeline has ended – the reader pool has closed `done`, the
throttler has exited, the sender pool has been joined – no goroutine of it has
anything left to do, and that stays so (`IngestionLab.Pipeline.Quiet`,
`IngestionLab.Pipeline.not_enabled_of_quiet`, `IngestionLab.Pipeline.Quiet.next`).

A pipeline is in order (`IngestionLab.Pipeline.InOrder`) when its components are and
when neither channel has been closed before the pipeline was quiet, nor more than
once, nor sent on when closed. Its goroutines keep it in order
(`IngestionLab.Pipeline.InOrder.next`): **as only a quiet pipeline has a closed channel,
no goroutine is ever there to send on one.**
-/

namespace IngestionLab

open Go

/-! ### A throttler that has exited -/

namespace Throttler

variable {t : Throttler} {now : ℕ} {a : Action}

/-- A throttler that has exited has nothing left to do. -/
theorem not_enabled_of_exited (h : t.pc = .exited) (ha : a.actor = .goroutine) :
    ¬t.Enabled now a := by
  intro hen
  cases a
  case offer settings => exact absurd ha nofun
  case offerDropped => exact absurd ha nofun
  case cancel => exact absurd ha nofun
  all_goals
    simp only [Enabled, h, ThrottlerPc.selecting] at hen
    simp at hen

/-- A throttler that has exited stays so. -/
theorem pc_next_of_exited (h : t.pc = .exited) (ha : t.Enabled now a) :
    (t.next now a).pc = .exited := by
  cases a <;> first
    | exact h
    | (simp only [Enabled, h, ThrottlerPc.selecting] at ha
       simp at ha)

end Throttler

/-! ### What stays once a pool has ended -/

/-- A reader pool that has ended stays so. -/
theorem ReaderPool.watcher_next_of_closed {p : ReaderPool} {sh : Memory} {a : ReaderPool.Action}
    (h : p.watcher = .closed) (ha : p.Enabled sh a) : (p.next sh a).watcher = .closed := by
  rw [ReaderPool.watcher_next, h]
  · rintro rfl
    exact absurd (h.symm.trans ha.1) nofun
  · rintro rfl
    exact absurd (h.symm.trans ha) nofun
  · rintro rfl
    exact absurd (h.symm.trans ha.1) nofun

/-- A sender pool that has been joined stays so. -/
theorem SenderPool.stop_next_of_joined {p : SenderPool} {now : ℕ} {a : SenderPool.Action}
    (h : p.stop = .joined) (ha : p.Enabled now a) : (p.next now a).stop = .joined := by
  rw [SenderPool.stop_next, h]
  · rintro rfl
    exact absurd (h.symm.trans ha) nofun
  · rintro rfl
    exact absurd (h.symm.trans ha.1) nofun
  · rintro rfl
    exact absurd (h.symm.trans ha.1) nofun
  · rintro rfl
    exact absurd (h.symm.trans ha) nofun
  · rintro rfl
    exact absurd (h.symm.trans ha.1) nofun
  · rintro rfl
    exact absurd (h.symm.trans ha.1) nofun

/-! ### Meeting at a channel -/

/-- A send of the reader pool is a goroutine's step. -/
theorem ReaderPool.Action.actor_of_meet {a : ReaderPool.Action} {op : Chan.Op Batch}
    (h : Pipeline.Meet a.op op) : a.actor = .goroutine := by
  cases a <;> first | rfl | exact absurd h nofun

/-- A receipt of the throttler is a goroutine's step, from an open channel. -/
theorem Throttler.Action.actor_of_meet_input {a : Throttler.Action} {op : Chan.Op Batch}
    (h : Pipeline.Meet op a.input) : a.actor = .goroutine ∧ a.input ≠ .closed := by
  cases a
  case idleReceive batch => exact ⟨rfl, by simp [input]⟩
  all_goals cases op <;> exact absurd h nofun

/-- A send of the throttler is a goroutine's step, and no receipt. -/
theorem Throttler.Action.actor_of_meet_output {a : Throttler.Action} {op : Chan.Op Batch}
    (h : Pipeline.Meet a.output op) : a.actor = .goroutine ∧ a.input ≠ .closed := by
  cases a
  case trySend batch since => exact ⟨rfl, by simp [input]⟩
  case blockedSend batch => exact ⟨rfl, by simp [input]⟩
  all_goals exact absurd h nofun

/-- A receipt of the sender pool is a goroutine's step. -/
theorem SenderPool.Action.actor_of_meet {a : SenderPool.Action} {op : Chan.Op Batch}
    (h : Pipeline.Meet op a.op) : a.actor = .goroutine := by
  cases a <;> cases op <;> first | rfl | exact absurd h nofun

namespace Pipeline

variable {q : Pipeline} {sh : Memory} {root : Bool} {a : Action}

/-! ### Quiet -/

/-- The reader pool, if there is one, has ended. -/
def ReaderQuiet (q : Pipeline) : Prop := ∀ p ∈ q.readerPool, p.watcher = .closed

/-- The throttler, if there is one, has ended. -/
def ThrottlerQuiet (q : Pipeline) : Prop := ∀ t ∈ q.throttler, t.pc = .exited

/-- The sender pool, if there is one, has ended. -/
def SenderQuiet (q : Pipeline) : Prop := ∀ p ∈ q.senderPool, p.stop = .joined

/-- **Every component has ended.** -/
structure Quiet (q : Pipeline) : Prop where
  reader : q.ReaderQuiet
  throttler : q.ThrottlerQuiet
  sender : q.SenderQuiet

/-- **The pipeline has ended**: it is quiet, and each channel has been closed once. -/
structure Ended (q : Pipeline) : Prop where
  quiet : q.Quiet
  readerBatches : q.readerBatches.closes = 1
  senderBatches : q.senderBatches.closes = 1

/-- The components are in order. -/
structure Sound (q : Pipeline) : Prop where
  reader : ∀ p ∈ q.readerPool, p.WellFormed
  sender : ∀ p ∈ q.senderPool, p.WellFormed ∧ p.Boundary ∧ p.Joining

/-- **Neither channel is closed before the pipeline is quiet, or twice, or sent on when
closed.** -/
structure InOrder (q : Pipeline) : Prop where
  sound : q.Sound
  once : ∀ c, c = q.readerBatches ∨ c = q.senderBatches →
    c.closes ≤ 1 ∧ c.sentClosed = false ∧ (c.closes ≠ 0 → q.Quiet)

/-- The action is a step of a goroutine, and not of someone who cancels. -/
def Action.isOwn : Action → Bool
  | .reader a => a.actor == .goroutine
  | .throttler a => a.actor == .goroutine
  | .sender a => a.actor == .goroutine
  | .passToThrottler _ _ | .passToSender _ _ => true

/-! ### Components taking steps -/

theorem mem_stepReader {p : ReaderPool} {a : ReaderPool.Action}
    (h : p ∈ (q.stepReader sh a).readerPool) : ∃ p' ∈ q.readerPool, p'.next sh a = p := by
  simpa [stepReader] using h

theorem mem_stepThrottler {t : Throttler} {a : Throttler.Action}
    (h : t ∈ (q.stepThrottler sh a).throttler) : ∃ t' ∈ q.throttler, t'.next sh.now a = t := by
  simpa [stepThrottler] using h

theorem mem_stepSender {p : SenderPool} {a : SenderPool.Action}
    (h : p ∈ (q.stepSender sh a).senderPool) : ∃ p' ∈ q.senderPool, p'.next sh.now a = p := by
  simpa [stepSender] using h

/-- A component that is there and may take a step is the one that takes it. -/
theorem enabled_of_mem {γ : Type*} {o : Option γ} {P : γ → Prop} (h : ∃ c ∈ o, P c) {c : γ}
    (hc : c ∈ o) : P c := by
  obtain ⟨c', hc', hP⟩ := h
  obtain rfl : c' = c := Option.mem_unique hc' hc
  exact hP

/-! ### Nothing moves in a quiet pipeline -/

/-- **No goroutine of a quiet pipeline has anything left to do.** -/
theorem not_enabled_of_quiet (hs : q.Sound) (h : q.Quiet) (ha : a.isOwn = true) :
    ¬q.Enabled root sh a := by
  have hreader : ∀ b : ReaderPool.Action, b.actor = .goroutine →
      ¬∃ p ∈ q.readerPool, p.Enabled sh b := by
    rintro b hb ⟨p, hp, hen⟩
    refine ReaderPool.not_enabled_of_closed (hs.reader p hp) (h.reader p hp) ?_ hen
    cases b <;> first | rfl | exact absurd hb nofun
  have hthrottler : ∀ b : Throttler.Action, b.actor = .goroutine →
      ¬∃ t ∈ q.throttler, t.Enabled sh.now b := by
    rintro b hb ⟨t, ht, hen⟩
    exact Throttler.not_enabled_of_exited (h.throttler t ht) hb hen
  have hsender : ∀ b : SenderPool.Action, b.actor = .goroutine →
      ¬∃ p ∈ q.senderPool, p.Enabled sh.now b := by
    rintro b hb ⟨p, hp, hen⟩
    refine SenderPool.not_enabled_of_joined (hs.sender p hp).2.2 (h.sender p hp) ?_ hen
    cases b <;> first | rfl | exact absurd hb nofun
  intro hen
  cases a with
  | reader b => exact hreader b (by simpa [Action.isOwn] using ha) hen.1
  | throttler b => exact hthrottler b (by simpa [Action.isOwn] using ha) hen.1
  | sender b => exact hsender b (by simpa [Action.isOwn] using ha) hen.1
  | passToThrottler b b' =>
    exact hreader b (ReaderPool.Action.actor_of_meet hen.2.2.1) hen.1
  | passToSender b b' =>
    exact hthrottler b (Throttler.Action.actor_of_meet_output hen.2.2.1).1 hen.1

/-! ### What the components keep -/

/-- A reader pool that has ended stays so. -/
theorem ReaderQuiet.stepReader {b : ReaderPool.Action} (h : q.ReaderQuiet)
    (hen : ∀ p ∈ q.readerPool, p.Enabled sh b) : (q.stepReader sh b).ReaderQuiet := by
  intro p hp
  obtain ⟨p', hp', rfl⟩ := mem_stepReader hp
  exact ReaderPool.watcher_next_of_closed (h p' hp') (hen p' hp')

/-- A throttler that has ended stays so. -/
theorem ThrottlerQuiet.stepThrottler {b : Throttler.Action} (h : q.ThrottlerQuiet)
    (hen : ∀ t ∈ q.throttler, t.Enabled sh.now b) : (q.stepThrottler sh b).ThrottlerQuiet := by
  intro t ht
  obtain ⟨t', ht', rfl⟩ := mem_stepThrottler ht
  exact Throttler.pc_next_of_exited (h t' ht') (hen t' ht')

/-- A sender pool that has ended stays so. -/
theorem SenderQuiet.stepSender {b : SenderPool.Action} (h : q.SenderQuiet)
    (hen : ∀ p ∈ q.senderPool, p.Enabled sh.now b) : (q.stepSender sh b).SenderQuiet := by
  intro p hp
  obtain ⟨p', hp', rfl⟩ := mem_stepSender hp
  exact SenderPool.stop_next_of_joined (h p' hp') (hen p' hp')

/-- A reader pool in order stays so. -/
theorem Sound.stepReader {b : ReaderPool.Action} (h : q.Sound)
    (hen : ∀ p ∈ q.readerPool, p.Enabled sh b) : (q.stepReader sh b).Sound := by
  refine ⟨fun p hp => ?_, h.sender⟩
  obtain ⟨p', hp', rfl⟩ := mem_stepReader hp
  exact (h.reader p' hp').next (hen p' hp')

/-- A sender pool in order stays so. -/
theorem Sound.stepSender {b : SenderPool.Action} (h : q.Sound)
    (hen : ∀ p ∈ q.senderPool, p.Enabled sh.now b) : (q.stepSender sh b).Sound := by
  refine ⟨h.reader, fun p hp => ?_⟩
  obtain ⟨p', hp', rfl⟩ := mem_stepSender hp
  obtain ⟨hw, hb, hj⟩ := h.sender p' hp'
  exact ⟨hw.next (hen p' hp'), hb.next (hen p' hp'), hj.next hw hb (hen p' hp')⟩

/-- As long as neither channel is closed, only the components matter. -/
theorem InOrder.of_open {q' : Pipeline} (h : q.InOrder) (hs : q'.Sound)
    (hr : q'.readerBatches = q.readerBatches) (hs' : q'.senderBatches = q.senderBatches)
    (hr0 : q.readerBatches.closes = 0) (hs0 : q.senderBatches.closes = 0) : q'.InOrder := by
  refine ⟨hs, fun c hc => ?_⟩
  rw [hr, hs'] at hc
  have h0 : c.closes = 0 := by rcases hc with rfl | rfl <;> assumption
  exact ⟨by omega, (h.once c hc).2.1, fun hne => absurd h0 hne⟩

/-- Closing and draining a channel of a quiet pipeline, the reader channel. -/
theorem InOrder.closeReader (h : q.InOrder) (hq : q.Quiet) (h0 : q.readerBatches.closes = 0) :
    ({ q with readerBatches := q.readerBatches.close.drain } : Pipeline).InOrder := by
  refine ⟨⟨h.sound.reader, h.sound.sender⟩, ?_⟩
  rintro c (rfl | rfl)
  · refine ⟨?_, (h.once _ (Or.inl rfl)).2.1, fun _ => ⟨hq.reader, hq.throttler, hq.sender⟩⟩
    simp [Chan.close, Chan.drain, h0]
  · obtain ⟨hle, hsent, -⟩ := h.once _ (Or.inr rfl)
    exact ⟨hle, hsent, fun _ => ⟨hq.reader, hq.throttler, hq.sender⟩⟩

/-- Closing and draining a channel of a quiet pipeline, the sender channel. -/
theorem InOrder.closeSender (h : q.InOrder) (hq : q.Quiet) (h0 : q.senderBatches.closes = 0) :
    ({ q with senderBatches := q.senderBatches.close.drain } : Pipeline).InOrder := by
  refine ⟨⟨h.sound.reader, h.sound.sender⟩, ?_⟩
  rintro c (rfl | rfl)
  · obtain ⟨hle, hsent, -⟩ := h.once _ (Or.inl rfl)
    exact ⟨hle, hsent, fun _ => ⟨hq.reader, hq.throttler, hq.sender⟩⟩
  · refine ⟨?_, (h.once _ (Or.inr rfl)).2.1, fun _ => ⟨hq.reader, hq.throttler, hq.sender⟩⟩
    simp [Chan.close, Chan.drain, h0]

/-- Cancelling the context of the run keeps the pipeline in order. -/
theorem InOrder.cancelRun (h : q.InOrder) : ({ q with runCancelled := true } : Pipeline).InOrder := by
  refine ⟨⟨h.sound.reader, h.sound.sender⟩, fun c hc => ?_⟩
  obtain ⟨hle, hsent, hquiet⟩ := h.once c hc
  exact ⟨hle, hsent, fun h0 => { hquiet h0 with }⟩

/-- A call of the reader pool keeps the pipeline in order. -/
theorem InOrder.stepReader {b : ReaderPool.Action} (h : q.InOrder)
    (hen : ∀ p ∈ q.readerPool, p.Enabled sh b) : (q.stepReader sh b).InOrder := by
  refine ⟨h.sound.stepReader hen, fun c hc => ?_⟩
  obtain ⟨hle, hsent, hquiet⟩ := h.once c hc
  refine ⟨hle, hsent, fun h0 => ?_⟩
  exact ⟨(hquiet h0).reader.stepReader hen, (hquiet h0).throttler, (hquiet h0).sender⟩

/-- A call of the throttler that leaves its position keeps the pipeline in order. -/
theorem InOrder.stepThrottler {b : Throttler.Action} (h : q.InOrder)
    (hpc : ∀ t ∈ q.throttler, (t.next sh.now b).pc = t.pc) : (q.stepThrottler sh b).InOrder := by
  refine ⟨⟨h.sound.reader, h.sound.sender⟩, fun c hc => ?_⟩
  obtain ⟨hle, hsent, hquiet⟩ := h.once c hc
  refine ⟨hle, hsent, fun h0 => ⟨(hquiet h0).reader, fun t ht => ?_, (hquiet h0).sender⟩⟩
  obtain ⟨t', ht', rfl⟩ := mem_stepThrottler ht
  rw [hpc t' ht']
  exact (hquiet h0).throttler t' ht'

/-- A call of the sender pool keeps the pipeline in order. -/
theorem InOrder.stepSender {b : SenderPool.Action} (h : q.InOrder)
    (hen : ∀ p ∈ q.senderPool, p.Enabled sh.now b) : (q.stepSender sh b).InOrder := by
  refine ⟨h.sound.stepSender hen, fun c hc => ?_⟩
  obtain ⟨hle, hsent, hquiet⟩ := h.once c hc
  refine ⟨hle, hsent, fun h0 => ?_⟩
  exact ⟨(hquiet h0).reader, (hquiet h0).throttler, (hquiet h0).sender.stepSender hen⟩

/-! ### What the goroutines keep -/

/-- A reader pool that has ended stays so. -/
theorem ReaderQuiet.next (h : q.ReaderQuiet) (ha : q.Enabled root sh a) :
    (q.next sh a).ReaderQuiet := by
  cases a with
  | reader b => exact h.stepReader fun p hp => enabled_of_mem ha.1 hp
  | throttler b => exact h
  | sender b => exact h
  | passToThrottler b b' => exact h.stepReader fun p hp => enabled_of_mem ha.1 hp
  | passToSender b b' => exact h

/-- A throttler that has ended stays so. -/
theorem ThrottlerQuiet.next (h : q.ThrottlerQuiet) (ha : q.Enabled root sh a) :
    (q.next sh a).ThrottlerQuiet := by
  cases a with
  | reader b => exact h
  | throttler b => exact h.stepThrottler fun t ht => enabled_of_mem ha.1 ht
  | sender b => exact h
  | passToThrottler b b' => exact h.stepThrottler fun t ht => enabled_of_mem ha.2.1 ht
  | passToSender b b' => exact h.stepThrottler fun t ht => enabled_of_mem ha.1 ht

/-- A sender pool that has ended stays so. -/
theorem SenderQuiet.next (h : q.SenderQuiet) (ha : q.Enabled root sh a) :
    (q.next sh a).SenderQuiet := by
  cases a with
  | reader b => exact h
  | throttler b => exact h
  | sender b => exact h.stepSender fun p hp => enabled_of_mem ha.1 hp
  | passToThrottler b b' => exact h
  | passToSender b b' => exact h.stepSender fun p hp => enabled_of_mem ha.2.1 hp

/-- **A quiet pipeline stays quiet.** -/
theorem Quiet.next (h : q.Quiet) (ha : q.Enabled root sh a) : (q.next sh a).Quiet :=
  ⟨h.reader.next ha, h.throttler.next ha, h.sender.next ha⟩

/-- The components stay in order. -/
theorem Sound.next (h : q.Sound) (ha : q.Enabled root sh a) : (q.next sh a).Sound := by
  cases a with
  | reader b =>
    have hs := h.stepReader fun p hp => enabled_of_mem ha.1 hp
    exact ⟨hs.reader, hs.sender⟩
  | throttler b => exact ⟨h.reader, h.sender⟩
  | sender b =>
    have hs := h.stepSender fun p hp => enabled_of_mem ha.1 hp
    exact ⟨hs.reader, hs.sender⟩
  | passToThrottler b b' =>
    have hs := h.stepReader fun p hp => enabled_of_mem ha.1 hp
    exact ⟨hs.reader, hs.sender⟩
  | passToSender b b' =>
    have hs := h.stepSender fun p hp => enabled_of_mem ha.2.1 hp
    exact ⟨hs.reader, hs.sender⟩

/-- What the goroutines do to the channels: what their cases ask, one by one, and
nothing is ever closed. -/
theorem channels_next (ha : q.Enabled root sh a) :
    (∃ op, (q.next sh a).readerBatches = q.readerBatches.apply op ∧
      (op ≠ .nothing → a.isOwn = true)) ∧
    ∃ op, (q.next sh a).senderBatches = q.senderBatches.apply op ∧
      (op ≠ .nothing → a.isOwn = true) := by
  cases a with
  | reader b =>
    refine ⟨⟨b.op, rfl, fun h => ?_⟩, .nothing, rfl, fun h => absurd rfl h⟩
    cases b <;> first | rfl | exact absurd rfl h
  | throttler b =>
    refine ⟨⟨b.input, rfl, fun h => ?_⟩, b.output, rfl, fun h => ?_⟩
    · cases b <;> first | rfl | exact absurd rfl h
    · cases b <;> first | rfl | exact absurd rfl h
  | sender b =>
    refine ⟨⟨.nothing, rfl, fun h => absurd rfl h⟩, b.op, rfl, fun h => ?_⟩
    cases b <;> first | rfl | exact absurd rfl h
  | passToThrottler b b' =>
    exact ⟨⟨.nothing, rfl, fun h => absurd rfl h⟩, .nothing, rfl, fun h => absurd rfl h⟩
  | passToSender b b' =>
    exact ⟨⟨.nothing, rfl, fun h => absurd rfl h⟩, .nothing, rfl, fun h => absurd rfl h⟩

/-- **The goroutines keep the pipeline in order.** A step that uses a closed channel
would be one of a quiet pipeline, and there is none. -/
theorem InOrder.next (h : q.InOrder) (ha : q.Enabled root sh a) : (q.next sh a).InOrder := by
  refine ⟨h.sound.next ha, ?_⟩
  have hkeep : ∀ c : Chan Batch, c = q.readerBatches ∨ c = q.senderBatches → ∀ op,
      (op ≠ .nothing → a.isOwn = true) → (c.apply op).closes ≤ 1 ∧
        (c.apply op).sentClosed = false ∧ ((c.apply op).closes ≠ 0 → (q.next sh a).Quiet) := by
    intro c hc op hop
    obtain ⟨hle, hsent, hquiet⟩ := h.once c hc
    rw [Chan.closes_apply]
    refine ⟨hle, ?_, fun h0 => (hquiet h0).next ha⟩
    by_cases hzero : c.closes = 0
    · rw [Chan.sentClosed_apply hzero, hsent]
    · by_cases hnone : op = .nothing
      · rw [hnone]
        exact hsent
      · exact absurd ha (not_enabled_of_quiet h.sound (hquiet hzero) (hop hnone))
  obtain ⟨⟨op, hr, hopr⟩, op', hs, hops⟩ := channels_next ha
  rintro c (rfl | rfl)
  · rw [hr]
    exact hkeep _ (Or.inl rfl) op hopr
  · rw [hs]
    exact hkeep _ (Or.inr rfl) op' hops

/-- The number of times a channel was closed is not the goroutines' business. -/
theorem closes_next (ha : q.Enabled root sh a) :
    (q.next sh a).readerBatches.closes = q.readerBatches.closes ∧
      (q.next sh a).senderBatches.closes = q.senderBatches.closes := by
  obtain ⟨⟨op, hr, -⟩, op', hs, -⟩ := channels_next ha
  rw [hr, hs, Chan.closes_apply, Chan.closes_apply]
  exact ⟨rfl, rfl⟩

/-- Cancelling the run is not the goroutines' business, and channels keep their
capacities. -/
theorem frame_next (ha : q.Enabled root sh a) :
    (q.next sh a).runCancelled = q.runCancelled ∧
      (q.next sh a).readerBatches.capacity = q.readerBatches.capacity ∧
      (q.next sh a).senderBatches.capacity = q.senderBatches.capacity := by
  obtain ⟨⟨op, hr, -⟩, op', hs, -⟩ := channels_next ha
  rw [hr, hs, Chan.capacity_apply, Chan.capacity_apply]
  refine ⟨?_, rfl, rfl⟩
  cases a <;> rfl

/-- Only a goroutine writes to the shared memory. -/
theorem remember_of_not_isOwn (h : a.isOwn = false) : remember sh a = sh := by
  cases a with
  | reader b => cases b <;> first | rfl | simp [Action.isOwn, ReaderPool.Action.actor] at h
  | throttler b => cases b <;> first | rfl | simp [Action.isOwn, Throttler.Action.actor] at h
  | sender b => cases b <;> first | rfl | simp [Action.isOwn, SenderPool.Action.actor] at h
  | passToThrottler b b' => simp [Action.isOwn] at h
  | passToSender b b' => simp [Action.isOwn] at h

/-- A pipeline that has ended has ended. -/
theorem Ended.next (h : q.Ended) (ha : q.Enabled root sh a) : (q.next sh a).Ended where
  quiet := h.quiet.next ha
  readerBatches := (closes_next ha).1.trans h.readerBatches
  senderBatches := (closes_next ha).2.trans h.senderBatches

/-- A pipeline in which nothing has been started is in order. -/
theorem inOrder_of_none {c c' : Chan Batch} (hc : c.closes = 0 ∧ c.sentClosed = false)
    (hc' : c'.closes = 0 ∧ c'.sentClosed = false) :
    ({ readerBatches := c, senderBatches := c' } : Pipeline).InOrder := by
  refine ⟨⟨fun p hp => absurd hp (Option.not_mem_none p),
    fun p hp => absurd hp (Option.not_mem_none p)⟩, ?_⟩
  rintro d (rfl | rfl)
  · exact ⟨by rw [hc.1]; omega, hc.2, fun h => absurd hc.1 h⟩
  · exact ⟨by rw [hc'.1]; omega, hc'.2, fun h => absurd hc'.1 h⟩

end Pipeline

end IngestionLab
