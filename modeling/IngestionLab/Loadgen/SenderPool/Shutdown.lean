import IngestionLab.Loadgen.SenderPool.Size

/-!
# Stopping a sender pool

`stop` cancels the context, takes `intakeMu`, marks the pool stopping under `p.mu`
and returns; the intake and the workers then end by themselves. Two things are
shown about it, over every interleaving with the intake, the workers and whatever
the event loop has done before.

* **The boundary** (`IngestionLab.SenderPool.no_receive_after_stop`): once `stop`
  has returned, the intake takes no further batch.
* **No deadlock** (`IngestionLab.SenderPool.exists_step_of_cancelled`): from the
  cancellation on, until `stop` has returned and every goroutine has ended, one of
  them can move – provided a delivery attempt returns once its context is
  cancelled.

Each rests on an invariant: `IngestionLab.SenderPool.Boundary`, on the positions of
`stop` and the intake with respect to `intakeMu`, and
`IngestionLab.SenderPool.Live`, which says why none of the waits is forever – an
intake that waits for a worker finds the active ones at work, an idle worker of a
stopping pool has a wake token.
-/

namespace IngestionLab

open Function

namespace SenderPool

variable {p : SenderPool} {w d now : ℕ} {a : Action}

/-! ### The boundary -/

/-- **The positions of `stop` and the intake**: who holds `intakeMu`; that `stop`
cancels before anything else and marks the pool when it says so; and that from the
moment `stop` has taken `intakeMu` the intake has no batch and takes none. -/
structure Boundary (p : SenderPool) : Prop where
  intakeHolds : p.intakeMu = some .intake ↔ p.intake.holdsIntakeMu = true
  stopHolds : p.intakeMu = some .stop ↔ p.stop.holdsIntakeMu = true
  marked : p.stopping = true ↔ p.stop.hasMarked = true
  canceled : p.stop ≠ .running → p.cancelled = true
  outside : p.stop.hasLocked = true → p.intake.isOutside = true

@[simp] theorem holdsIntakeMu_broadcast (pc : IntakePc) :
    pc.broadcast.holdsIntakeMu = pc.holdsIntakeMu := by
  cases pc <;> rfl

@[simp] theorem isOutside_broadcast (pc : IntakePc) : pc.broadcast.isOutside = pc.isOutside := by
  cases pc <;> rfl

/-- Without `intakeMu` the intake has no batch. -/
theorem isOutside_of_not_holdsIntakeMu {pc : IntakePc} (h : pc.holdsIntakeMu = false) :
    pc.isOutside = true := by
  cases pc <;> first | rfl | exact absurd h (by simp [IntakePc.holdsIntakeMu])

theorem Boundary.broadcast (h : p.Boundary) : p.broadcast.Boundary where
  intakeHolds := by rw [SenderPool.broadcast, holdsIntakeMu_broadcast]; exact h.intakeHolds
  stopHolds := h.stopHolds
  marked := h.marked
  canceled := h.canceled
  outside := by rw [SenderPool.broadcast, isOutside_broadcast]; exact h.outside

/-- The intake moves without touching `intakeMu`: once `stop` has locked, it stays
without a batch. -/
theorem Boundary.of_intake {p' : SenderPool} (h : p.Boundary) (hmu : p'.intakeMu = p.intakeMu)
    (hstop : p'.stop = p.stop) (hstopping : p'.stopping = p.stopping)
    (hcancelled : p'.cancelled = p.cancelled)
    (hholds : p'.intake.holdsIntakeMu = p.intake.holdsIntakeMu)
    (hout : p.stop.hasLocked = true → p.intake.isOutside = true → p'.intake.isOutside = true) :
    p'.Boundary where
  intakeHolds := by rw [hmu, hholds]; exact h.intakeHolds
  stopHolds := by rw [hmu, hstop]; exact h.stopHolds
  marked := by rw [hstopping, hstop]; exact h.marked
  canceled := by rw [hstop, hcancelled]; exact h.canceled
  outside hl := by
    rw [hstop] at hl
    exact hout hl (h.outside hl)

/-- The intake lets go of `intakeMu`. -/
theorem Boundary.intakeUnlock {pc : IntakePc} (h : p.Boundary) (hp : p.intake.holdsIntakeMu = true)
    (hpc : pc.holdsIntakeMu = false) : ({ p with intakeMu := none, intake := pc }).Boundary where
  intakeHolds := by simp [hpc]
  stopHolds := by
    have hstop : p.stop.holdsIntakeMu ≠ true := fun hc => by
      have hmu := h.stopHolds.mpr hc
      rw [h.intakeHolds.mpr hp] at hmu
      cases hmu
    simpa using hstop
  marked := h.marked
  canceled := h.canceled
  outside _ := isOutside_of_not_holdsIntakeMu hpc

/-- Every action keeps the boundary. -/
theorem Boundary.next (h : p.Boundary) (ha : p.Enabled now a) : (p.next now a).Boundary := by
  have hb := h.broadcast
  have ⟨h1, h2, h3, h4, h5⟩ := h
  cases a
  case reconcile d =>
    cases hstop : p.stopping with
    | true =>
      rw [SenderPool.next, reconcile_of_stopping hstop]
      exact ⟨h1, h2, h3, h4, h5⟩
    | false =>
      obtain ⟨k, cell, joined, heq, -, -⟩ := exists_reconcile_eq hstop d
      rw [SenderPool.next, heq]
      exact ⟨hb.1, hb.2, hb.3, hb.4, hb.5⟩
  case workerExited w =>
    simp only [SenderPool.next, workerExited]
    split
    · split <;> exact ⟨hb.1, hb.2, hb.3, hb.4, hb.5⟩
    · exact ⟨h1, h2, h3, h4, h5⟩
  case pause =>
    simp only [SenderPool.next, pause]
    split <;> exact ⟨h1, h2, h3, h4, h5⟩
  case resumeRun =>
    simp only [SenderPool.next, resumeRun]
    split <;> exact ⟨h1, h2, h3, h4, h5⟩
  case clearBusy w => exact ⟨hb.1, hb.2, hb.3, hb.4, hb.5⟩
  case stopMark =>
    simp only [Enabled] at ha
    refine ⟨hb.1, ?_, ?_, fun _ => h4 (by simp [ha.1]), fun _ => hb.5 ?_⟩
    · exact ⟨fun _ => rfl, fun _ => h2.mpr (by rw [ha.1]; rfl)⟩
    · exact ⟨fun _ => rfl, fun _ => rfl⟩
    · rw [SenderPool.broadcast, ha.1]
      rfl
  case stopLock =>
    simp only [Enabled] at ha
    have hfree : p.intake.holdsIntakeMu = false := by
      by_contra hc
      simp [h1.mpr (by simpa using hc)] at ha
    refine ⟨?_, ⟨fun _ => rfl, fun _ => rfl⟩, ?_, fun _ => h4 (by simp [ha.1]), fun _ => ?_⟩
    · simp [SenderPool.next, hfree]
    · rw [ha.1] at h3
      simpa [SenderPool.next, StopPc.hasMarked] using h3
    · exact isOutside_of_not_holdsIntakeMu hfree
  case cancel => exact ⟨h1, h2, h3, fun _ => rfl, h5⟩
  case stopCancel =>
    simp only [Enabled] at ha
    rw [ha] at h2 h3
    exact ⟨h1, h2, h3, fun _ => rfl, by rintro ⟨⟩⟩
  case stopReturn =>
    simp only [Enabled] at ha
    have hmu := h2.mpr (by rw [ha]; rfl)
    have hout := h5 (by rw [ha]; rfl)
    rw [ha] at h3
    refine ⟨?_, by simp [SenderPool.next, StopPc.holdsIntakeMu], h3, fun _ => h4 (by simp [ha]),
      fun _ => hout⟩
    have hfree : ¬p.intake.holdsIntakeMu = true := fun hc => by
      rw [h1.mpr hc] at hmu
      cases hmu
    simpa [SenderPool.next] using hfree
  case stopIntakeDone =>
    rw [ha.1] at h2 h3 h4 h5
    exact ⟨h1, h2, h3, fun _ => h4 (by rintro ⟨⟩), fun _ => h5 rfl⟩
  case stopJoined =>
    rw [ha.1] at h2 h3 h4 h5
    exact ⟨h1, h2, h3, fun _ => h4 (by rintro ⟨⟩), fun _ => h5 rfl⟩
  case intakeFound => exact h.of_intake rfl rfl rfl rfl (by rw [ha.1]; rfl) fun _ _ => rfl
  case intakePark => exact h.of_intake rfl rfl rfl rfl (by rw [ha.1]; rfl) fun _ _ => rfl
  case intakeTest =>
    simp only [Enabled] at ha
    rw [SenderPool.next]
    split <;> exact h.of_intake rfl rfl rfl rfl (by rw [ha]; rfl) fun _ _ => rfl
  case intakeEnter =>
    rw [ha.2] at h2
    exact ⟨⟨fun _ => rfl, fun _ => rfl⟩,
      ⟨by rintro ⟨⟩, fun hc => absurd (h2.mpr hc) (by rintro ⟨⟩)⟩, h3, h4,
      fun _ => rfl⟩
  case intakeTestEntered =>
    simp only [Enabled] at ha
    rw [SenderPool.next]
    split
    · exact h.of_intake rfl rfl rfl rfl (by rw [ha]; rfl) fun _ _ => rfl
    case isFalse hc =>
      refine h.of_intake rfl rfl rfl rfl (by rw [ha]; rfl) fun hl _ => absurd (h4 ?_) hc
      rintro hrunning
      rw [hrunning] at hl
      cases hl
  case intakeCanceled => exact h.of_intake rfl rfl rfl rfl (by rw [ha.1]; rfl) fun _ _ => rfl
  case intakeClosed =>
    have hpc : p.intake = .receive := ha
    exact h.of_intake rfl rfl rfl rfl (by rw [hpc]; rfl) fun _ _ => rfl
  case intakeReceive batch =>
    have hpc : p.intake = .receive := ha
    exact h.of_intake rfl rfl rfl rfl (by rw [hpc]; rfl) fun _ hout => by
      rw [hpc] at hout
      cases hout
  case intakeRecord batch =>
    have hpc : p.intake = .received batch := ha
    exact h.of_intake rfl rfl rfl rfl (by rw [hpc]; rfl) fun _ hout => by
      rw [hpc] at hout
      cases hout
  case intakeAssign batch w =>
    exact h.of_intake rfl rfl rfl rfl (by rw [ha.1]; rfl) fun _ hout => by
      rw [ha.1] at hout
      cases hout
  case intakeParkWith batch =>
    exact h.of_intake rfl rfl rfl rfl (by rw [ha.1]; rfl) fun _ hout => by
      rw [ha.1] at hout
      cases hout
  case intakeSend batch w =>
    exact h.of_intake rfl rfl rfl rfl (by rw [ha.1]; rfl) fun _ hout => by
      rw [ha.1] at hout
      cases hout
  case intakeHanded =>
    have hpc : p.intake = .handed := ha
    exact h.intakeUnlock (by rw [hpc]; rfl) rfl
  case intakeLeave =>
    have hpc : p.intake = .leaving := ha
    exact h.intakeUnlock (by rw [hpc]; rfl) rfl
  case intakeExit =>
    have hpc : p.intake = .returned := ha
    exact h.of_intake rfl rfl rfl rfl (by rw [hpc]; rfl) fun _ _ => rfl
  all_goals exact ⟨h1, h2, h3, h4, h5⟩

/-! ### Why no wait is forever -/

/-- The number of an attempt in progress is positive. -/
def Numbered (p : SenderPool) : Prop := ∀ w n, (p.worker w).pc.attempt = some n → 1 ≤ n

/-- At least as many workers are active as desired, and one is desired. -/
def Staffed (p : SenderPool) : Prop :=
  p.stopping = false → 1 ≤ p.desired ∧ p.desired ≤ p.activeWorkerCountLocked

/-- An idle worker of a stopping pool has a wake token. -/
def Awake (p : SenderPool) : Prop :=
  p.stopping = true → ∀ w, w < p.started → (p.worker w).pc = .idle → (p.worker w).wake = true

/-- A busy worker is at work, has work, or is about to be given some. -/
def Occupied (p : SenderPool) : Prop :=
  ∀ w, (p.worker w).busy = true → (∀ b, p.intake ≠ .sending b w) →
    (p.worker w).work ≠ none ∨ (p.worker w).pc.isProcessing = true

/-- The intake waits without a batch only in a pool that is not stopping, and with
one only while no worker is available. -/
def Waiting (p : SenderPool) : Prop :=
  (p.intake = .parked → p.stopping = false) ∧
    ∀ b, p.intake = .parkedWith b → p.availableWorkerLocked = none

/-- A request asks for at least one worker, and neither an exit nor any other step
takes the number of active ones below it. -/
theorem Staffed.next (h : p.Staffed) (hw : p.WellFormed) (ha : p.Enabled now a) :
    (p.next now a).Staffed := by
  intro hstop
  have hold : p.stopping = false := stopping_of_next hstop
  obtain ⟨hone, hle⟩ := h hold
  rcases size_next hw ha hold with ⟨d, -, hd, hdes, hact⟩ | ⟨hdes, hact | ⟨hlt, hact⟩⟩
  · rw [hdes, hact]
    refine ⟨hd, ?_⟩
    split <;> omega
  · rw [hdes, hact]
    exact ⟨hone, hle⟩
  · rw [hdes, hact]
    exact ⟨hone, by omega⟩

theorem Numbered.next (h : p.Numbered) (ha : p.Enabled now a) : (p.next now a).Numbered := by
  intro v n
  have hv := h v
  cases a
  case reconcile d =>
    rw [SenderPool.next]
    rcases reconcile_worker p d v with hcell | ⟨dr, wk, hcell⟩
    · rw [hcell]
      exact fun hc => by simp [SenderWorkerPc.attempt] at hc
    · rw [hcell]
      exact hv n
  case workerExited w =>
    simp only [SenderPool.next, goto, setWorker, workerExited]
    split
    · split <;> simp only [broadcast, startWorkerLocked, update_apply] <;>
        grind [SenderWorkerPc.attempt]
    · simp only [update_apply]
      grind [SenderWorkerPc.attempt]
  case pause =>
    simp only [SenderPool.next, pause]
    split
    · exact hv n
    · rw [wakeAll_pc]
      exact hv n
  case resumeRun =>
    simp only [SenderPool.next, resumeRun]
    split <;> exact hv n
  case stopMark =>
    change ((wakeAll _).worker v).pc.attempt = some n → 1 ≤ n
    rw [wakeAll_pc]
    exact hv n
  all_goals first
    | exact hv n
    | (simp only [Enabled, At, SenderPool.next, goto, setWorker, broadcast, update_apply] at ha ⊢
       grind [SenderWorkerPc.attempt])

theorem Occupied.next (h : p.Occupied) (hw : p.WellFormed) (ha : p.Enabled now a) :
    (p.next now a).Occupied := by
  intro v
  have hv := h v
  have hm := hw.muHeld
  cases a
  case reconcile d =>
    have hsend : (∀ b, (p.reconcile d).intake ≠ .sending b v) → ∀ b, p.intake ≠ .sending b v := by
      intro hc b hb
      simp [hm.mpr ⟨b, v, hb⟩, Enabled] at ha
    rw [SenderPool.next]
    rcases reconcile_worker p d v with hcell | ⟨dr, wk, hcell⟩
    · rw [hcell]
      exact fun hc => absurd hc (by simp)
    · rw [hcell]
      exact fun hbusy hc => hv hbusy (hsend hc)
  case workerExited w =>
    obtain ⟨⟨hlt, hpc⟩, hfree⟩ := ha
    have hmem : w ∈ p.workers := (hw.registered w).mpr ⟨hlt, by rw [hpc]; rfl⟩
    have hsend : ∀ b u, p.intake ≠ .sending b u := fun b u hc => by
      simp [hm.mpr ⟨b, u, hc⟩] at hfree
    simp only [SenderPool.next, workerExited_eq hmem]
    split <;>
    · simp only [goto, setWorker, update_apply]
      grind [SenderWorkerPc.isProcessing]
  case pause =>
    simp only [SenderPool.next, pause]
    split
    · exact hv
    · rw [wakeAll_busy, wakeAll_work, wakeAll_pc]
      exact hv
  case resumeRun =>
    simp only [SenderPool.next, resumeRun]
    split <;> exact hv
  case stopMark =>
    change ((wakeAll _).worker v).busy = true → (∀ b, (wakeAll _).intake ≠ .sending b v) →
      ((wakeAll _).worker v).work ≠ none ∨ ((wakeAll _).worker v).pc.isProcessing = true
    rw [wakeAll_busy, wakeAll_work, wakeAll_pc]
    intro hbusy hc
    refine hv hbusy fun b hb => ?_
    simp [hm.mpr ⟨b, v, hb⟩, Enabled] at ha
  case intakeAssign b w =>
    by_cases hvw : v = w
    · subst hvw
      exact fun _ hc => absurd rfl (hc b)
    · simp only [SenderPool.next, setWorker, update_of_ne hvw]
      exact fun hbusy _ => hv hbusy fun b' => by rw [ha.1]; exact (by rintro ⟨⟩)
  case clearBusy w =>
    simp only [Enabled] at ha
    have hsend : ∀ b u, p.intake ≠ .sending b u := fun b u hc => by
      simp [hm.mpr ⟨b, u, hc⟩] at ha
    simp only [SenderPool.next, setWorker, broadcast, update_apply]
    grind
  all_goals first
    | exact hv
    | (simp only [Enabled, At, SenderPool.next, goto, setWorker, update_apply] at ha ⊢
       grind [SenderWorkerPc.isProcessing])

/-- Whether a worker is available depends on who is registered, draining and busy. -/
theorem availableWorkerLocked_eq_none :
    p.availableWorkerLocked = none ↔
      ∀ v ∈ p.workers, (p.worker v).draining = true ∨ (p.worker v).busy = true := by
  simp only [availableWorkerLocked, List.find?_eq_none, Bool.not_eq_true, Bool.not_eq_false',
    Bool.or_eq_true]

theorem Waiting.next (h : p.Waiting) (hb : p.Boundary) (ha : p.Enabled now a) :
    (p.next now a).Waiting := by
  obtain ⟨hp, hw⟩ := h
  have hbroadcast : ∀ pc : IntakePc, pc.broadcast ≠ .parked ∧ ∀ b, pc.broadcast ≠ .parkedWith b := by
    intro pc
    cases pc <;> simp [IntakePc.broadcast]
  cases a
  case reconcile d =>
    cases hstop : p.stopping with
    | true =>
      rw [SenderPool.next, reconcile_of_stopping hstop]
      exact ⟨hp, hw⟩
    | false =>
      obtain ⟨k, cell, joined, heq, -, -⟩ := exists_reconcile_eq hstop d
      rw [SenderPool.next, heq]
      exact ⟨fun hc => absurd hc (hbroadcast _).1, fun b hc => absurd hc ((hbroadcast _).2 b)⟩
  case workerExited w =>
    by_cases hmem : w ∈ p.workers
    · simp only [SenderPool.next, workerExited_eq hmem]
      split <;> exact ⟨fun hc => absurd hc (hbroadcast _).1, fun b hc => absurd hc ((hbroadcast _).2 b)⟩
    · simp only [SenderPool.next, workerExited, if_neg hmem]
      refine ⟨hp, fun b hc => ?_⟩
      rw [availableWorkerLocked_eq_none]
      intro v hv
      have hvw : v ≠ w := fun hvw => hmem (hvw ▸ hv)
      simp only [goto, setWorker, update_of_ne hvw]
      exact availableWorkerLocked_eq_none.mp (hw b hc) v hv
  case clearBusy w =>
    exact ⟨fun hc => absurd hc (hbroadcast _).1, fun b hc => absurd hc ((hbroadcast _).2 b)⟩
  case stopMark =>
    exact ⟨fun hc => absurd hc (hbroadcast _).1, fun b hc => absurd hc ((hbroadcast _).2 b)⟩
  case pause =>
    simp only [SenderPool.next, pause]
    split
    · exact ⟨hp, hw⟩
    · refine ⟨hp, fun b hc => ?_⟩
      rw [availableWorkerLocked_eq_none]
      intro v hv
      rw [wakeAll_draining, wakeAll_busy]
      exact availableWorkerLocked_eq_none.mp (hw b hc) v hv
  case resumeRun =>
    simp only [SenderPool.next, resumeRun]
    split <;> exact ⟨hp, hw⟩
  case intakePark =>
    refine ⟨fun _ => ?_, fun b hc => absurd hc (by rintro ⟨⟩)⟩
    -- the pool is not cancelled, so `stop` has not been called
    have hrun : p.stop = .running := by
      by_contra hc
      exact absurd (hb.canceled hc) (by simp [ha.2.2.2])
    cases hstop : p.stopping with
    | false => exact hstop
    | true => exact absurd (hb.marked.mp hstop) (by simp [hrun, StopPc.hasMarked])
  case intakeParkWith b => exact ⟨by rintro ⟨⟩, fun b' _ => ha.2.2⟩
  case intakeTest | intakeTestEntered =>
    refine ⟨fun hc => ?_, fun b hc => ?_⟩ <;>
    · simp only [SenderPool.next] at hc
      split at hc <;> exact absurd hc (by rintro ⟨⟩)
  case intakeFound | intakeEnter | intakeCanceled | intakeClosed | intakeReceive | intakeRecord |
      intakeAssign | intakeSend | intakeHanded | intakeLeave | intakeExit =>
    exact ⟨by rintro ⟨⟩, by rintro _ ⟨⟩⟩
  case reconcileJoined | stopCancel | stopLock | stopReturn | stopIntakeDone | stopJoined | cancel =>
    exact ⟨hp, hw⟩
  all_goals
    refine ⟨hp, fun b hc => ?_⟩
    rw [availableWorkerLocked_eq_none]
    intro v hv
    have hflags := availableWorkerLocked_eq_none.mp (hw b hc) v hv
    simp only [SenderPool.next, goto, setWorker, update_apply]
    grind

theorem Awake.next (h : p.Awake) (hw : p.WellFormed) (ha : p.Enabled now a) :
    (p.next now a).Awake := by
  intro hstop v hlt hidle
  by_cases hmark : a = .stopMark
  · subst hmark
    -- the worker is registered, so `stop` has sent it a token
    have hpc : (p.worker v).pc = .idle := by
      rw [← hidle]
      exact (wakeAll_pc _ v).symm
    exact congrArg SenderWorker.wake (if_pos ((hw.registered v).mpr ⟨hlt, by rw [hpc]; rfl⟩))
  have hold : p.stopping = true := (stopping_next.mp hstop).resolve_right hmark
  have hv := h hold v
  cases a
  case reconcile d =>
    rw [SenderPool.next, reconcile_of_stopping hold] at hidle hlt ⊢
    exact hv hlt hidle
  case workerExited w =>
    obtain ⟨⟨hw', hpc⟩, -⟩ := ha
    simp only [SenderPool.next, workerExited_eq ((hw.registered w).mpr ⟨hw', by rw [hpc]; rfl⟩),
      if_neg (by simp [hold] : ¬(p.stopping = false ∧ _)), goto, setWorker, update_apply] at hidle hlt ⊢
    grind
  case pause =>
    simp only [SenderPool.next, pause, hold, Bool.or_true, ↓reduceIte] at hidle hlt ⊢
    exact hv hlt hidle
  case resumeRun =>
    obtain ⟨_, _, heq⟩ := resumeRun_frame p
    rw [SenderPool.next, heq] at hidle hlt ⊢
    exact hv hlt hidle
  case stopMark => exact absurd rfl hmark
  all_goals first
    | exact hv hlt hidle
    | (simp only [Enabled, At, SenderPool.next, goto, setWorker, SenderPool.broadcast,
        update_apply] at ha hidle hlt ⊢
       grind)

/-- **A pool in which no wait is forever.** -/
structure Live (p : SenderPool) : Prop where
  wellFormed : p.WellFormed
  boundary : p.Boundary
  numbered : p.Numbered
  staffed : p.Staffed
  awake : p.Awake
  occupied : p.Occupied
  waiting : p.Waiting
  scheduled : p.retry.delaysMS ≠ []

/-- The retry schedule never changes. -/
theorem retry_next (p : SenderPool) (now : ℕ) (a : Action) : (p.next now a).retry = p.retry := by
  cases a
  case reconcile d =>
    obtain ⟨_, _, _, _, _, _, _, h⟩ := reconcile_frame p d
    rw [SenderPool.next, h]
  case workerExited w =>
    obtain ⟨_, _, _, _, _, h⟩ := workerExited_frame p w
    simp only [SenderPool.next, goto, setWorker, h]
  case pause =>
    obtain ⟨_, _, _, h⟩ := pause_frame p
    rw [SenderPool.next, h]
  case resumeRun =>
    obtain ⟨_, _, h⟩ := resumeRun_frame p
    rw [SenderPool.next, h]
  all_goals rfl

theorem Live.next (h : p.Live) (ha : p.Enabled now a) : (p.next now a).Live where
  wellFormed := h.wellFormed.next ha
  boundary := h.boundary.next ha
  numbered := h.numbered.next ha
  staffed := h.staffed.next h.wellFormed ha
  awake := h.awake.next h.wellFormed ha
  occupied := h.occupied.next h.wellFormed ha
  waiting := h.waiting.next h.boundary ha
  scheduled := by rw [retry_next]; exact h.scheduled

/-- A pool started with at least one worker and a retry schedule is live. -/
theorem live_startSenderPool {retry : SenderRetryConfig} {n : ℕ} (hn : 1 ≤ n)
    (hretry : retry.delaysMS ≠ []) : (startSenderPool retry n).Live := by
  have hask : (empty retry).Enabled 0 (.reconcile n) := ⟨hn, rfl⟩
  have hw : (empty retry).WellFormed := wellFormed_startSenderPool retry 0
  have hb : (empty retry).Boundary :=
    ⟨by simp [empty, IntakePc.holdsIntakeMu], by simp [empty, StopPc.holdsIntakeMu],
      by simp [empty, StopPc.hasMarked], by simp [empty], by simp [empty, StopPc.hasLocked]⟩
  have hstaffed : ((empty retry).next 0 (.reconcile n)).Staffed := by
    intro _
    rcases size_next hw hask rfl with ⟨d, -, hone, hdes, hact⟩ | ⟨hdes, -⟩
    · rw [hdes, hact]
      refine ⟨hone, ?_⟩
      split <;> omega
    · rw [desired_next rfl] at hdes
      have hzero : n = 0 := hdes
      omega
  have hretry' : ((empty retry).next 0 (.reconcile n)).retry.delaysMS ≠ [] := by
    rw [retry_next]
    exact hretry
  exact
    { wellFormed := hw.next hask
      boundary := hb.next hask
      numbered := Numbered.next (fun w n hc => by simp [empty, SenderWorkerPc.attempt] at hc) hask
      staffed := hstaffed
      awake := Awake.next (fun hc => by simp [empty] at hc) hw hask
      occupied := Occupied.next (fun w hc => by simp [empty] at hc) hw hask
      waiting := Waiting.next ⟨fun hc => by simp [empty] at hc, fun b hc => by simp [empty] at hc⟩
        hb hask
      scheduled := hretry' }

/-! ### The boundary of `stop` -/

/-- A received batch is one the intake has taken. -/
theorem received_next (p : SenderPool) (now : ℕ) (a : Action) :
    (p.next now a).received = p.received ∨ ∃ b, a = .intakeReceive b := by
  cases a
  case reconcile d =>
    obtain ⟨_, _, _, _, _, _, _, h⟩ := reconcile_frame p d
    rw [next, h]
    exact Or.inl rfl
  case workerExited w =>
    obtain ⟨_, _, _, _, _, h⟩ := workerExited_frame p w
    simp only [next, goto, setWorker, h, true_or]
  case pause =>
    obtain ⟨_, _, _, h⟩ := pause_frame p
    rw [next, h]
    exact Or.inl rfl
  case resumeRun =>
    obtain ⟨_, _, h⟩ := resumeRun_frame p
    rw [next, h]
    exact Or.inl rfl
  case intakeReceive b => exact Or.inr ⟨b, rfl⟩
  all_goals exact Or.inl rfl

/-- Once `stop` has returned it has returned. -/
theorem hasReturned_next (h : p.stop.hasReturned = true) (ha : p.Enabled now a) :
    (p.next now a).stop.hasReturned = true := by
  cases a
  case reconcile d =>
    obtain ⟨_, _, _, _, _, _, _, heq⟩ := reconcile_frame p d
    rw [next, heq]
    exact h
  case workerExited w =>
    obtain ⟨_, _, _, _, _, heq⟩ := workerExited_frame p w
    simp only [next, goto, setWorker, heq]
    exact h
  case pause =>
    obtain ⟨_, _, _, heq⟩ := pause_frame p
    rw [next, heq]
    exact h
  case resumeRun =>
    obtain ⟨_, _, heq⟩ := resumeRun_frame p
    rw [next, heq]
    exact h
  case stopCancel | stopLock | stopMark =>
    simp only [Enabled] at ha
    simp [ha, StopPc.hasReturned] at h
  case stopReturn | stopIntakeDone | stopJoined => rfl
  all_goals exact h

/-- **Once `stop` has returned, the intake is nowhere it could take a batch.** -/
theorem Boundary.not_enabled_intakeReceive (h : p.Boundary) (hret : p.stop.hasReturned = true)
    (b : Batch) : ¬p.Enabled now (.intakeReceive b) := by
  intro ha
  have hout := h.outside (by revert hret; cases p.stop <;> simp [StopPc.hasReturned, StopPc.hasLocked])
  rw [Enabled] at ha
  simp [ha, IntakePc.isOutside] at hout

/-! ### Progress -/

/-- **A worker of a cancelled pool can move** whatever it is doing: no gate, no
backoff and no attempt holds it, and if it is idle it has a token or a batch. -/
theorem exists_worker_step (hc : p.cancelled = true) (hmu : p.muHeld = false) (hnum : p.Numbered)
    (hsched : p.retry.delaysMS ≠ []) (hlt : w < p.started) (hexit : (p.worker w).pc ≠ .exited)
    (hidle : (p.worker w).pc = .idle → (p.worker w).wake = true ∨ (p.worker w).work ≠ none) :
    ∃ a : Action, a.isOwn = true ∧ p.Enabled now a := by
  cases hpc : (p.worker w).pc with
  | loop =>
    cases hwork : (p.worker w).work with
    | some b => exact ⟨.takeAtHead w b, rfl, ⟨hlt, hpc⟩, hmu, hwork⟩
    | none =>
      cases hs : (p.stopping || (p.worker w).draining) with
      | true => exact ⟨.decideStop w, rfl, ⟨hlt, hpc⟩, hmu, hwork, hs⟩
      | false => exact ⟨.decideStay w, rfl, ⟨hlt, hpc⟩, hmu, hwork, hs⟩
  | idle =>
    rcases hidle hpc with hwake | hwork
    · exact ⟨.wakeIdle w, rfl, ⟨hlt, hpc⟩, hwake⟩
    · obtain ⟨b, hb⟩ := Option.ne_none_iff_exists'.mp hwork
      exact ⟨.takeIdle w b, rfl, ⟨hlt, hpc⟩, hb⟩
  | attemptHead b n => exact ⟨.clearBackoff w b n, rfl, ⟨hlt, hpc⟩, hmu⟩
  | gate b n dl => exact ⟨.gateCanceled w b n dl, rfl, ⟨hlt, hpc⟩, hmu, hc⟩
  | gateWait b n dl g => exact ⟨.gateWaitCanceled w b n dl g, rfl, ⟨hlt, hpc⟩, hc⟩
  | runnable b n => exact ⟨.startAttempt w b n, rfl, hlt, hpc⟩
  | attempting b n => exact ⟨.attemptReturns w b n .canceled, rfl, ⟨hlt, hpc⟩, fun _ => hc⟩
  | failed b n => exact ⟨.setBackoff w b n, rfl, ⟨hlt, hpc⟩, hmu⟩
  | delaying b n =>
    have hn : 1 ≤ n := hnum w n (by rw [hpc]; rfl)
    obtain ⟨dl, hdl⟩ := Option.isSome_iff_exists.mp (SenderRetryConfig.delay_isSome hsched hn b)
    exact ⟨.setDeadline w b n dl, rfl, ⟨hlt, hpc⟩, hdl⟩
  | remaining b n dl =>
    rcases Nat.lt_or_ge now dl with h | h
    · exact ⟨.startTimer w b n dl, rfl, ⟨hlt, hpc⟩, h⟩
    · exact ⟨.deadlinePassed w b n dl, rfl, ⟨hlt, hpc⟩, h⟩
  | backoffWait b n dl => exact ⟨.backoffCanceled w b n dl, rfl, ⟨hlt, hpc⟩, hc⟩
  | settled b ok => exact ⟨.settle w b ok, rfl, hlt, hpc⟩
  | finishing => exact ⟨.clearBusy w, rfl, ⟨hlt, hpc⟩, hmu⟩
  | stopped => exact ⟨.workerExited w, rfl, ⟨hlt, hpc⟩, hmu⟩
  | removed => exact ⟨.closeDone w, rfl, hlt, hpc⟩
  | closed => exact ⟨.releaseWg w, rfl, hlt, hpc⟩
  | exited => exact absurd hpc hexit

/-- `intakeMu` is free when neither the intake nor `stop` holds it. -/
theorem Boundary.intakeMu_eq_none (hb : p.Boundary) (hi : p.intake.holdsIntakeMu = false)
    (hs : p.stop.holdsIntakeMu = false) : p.intakeMu = none := by
  cases ho : p.intakeMu with
  | none => rfl
  | some o =>
    cases o with
    | intake => simp [hb.intakeHolds.mp ho] at hi
    | stop => simp [hb.stopHolds.mp ho] at hs

/-- **`stop` can move** until it has returned, unless the intake holds `intakeMu`. -/
theorem exists_stop_step (hb : p.Boundary) (hmu : p.muHeld = false)
    (hi : p.intake.holdsIntakeMu = false) (hret : p.stop.hasReturned = false) :
    ∃ a : Action, a.isOwn = true ∧ p.Enabled now a := by
  cases hstop : p.stop with
  | running => exact ⟨.stopCancel, rfl, hstop⟩
  | canceled => exact ⟨.stopLock, rfl, hstop, hb.intakeMu_eq_none hi (by rw [hstop]; rfl)⟩
  | locked => exact ⟨.stopMark, rfl, hstop, hmu⟩
  | marked => exact ⟨.stopReturn, rfl, hstop⟩
  | returned | waiting | joined => simp [hstop, StopPc.hasReturned] at hret

/-- **An intake with a batch and no worker for it waits for one at work**: some
worker is active, it is busy, and it can move. -/
theorem exists_step_of_parkedWith (h : p.Live) (hc : p.cancelled = true) {b : Batch}
    (hi : p.intake = .parkedWith b) : ∃ a : Action, a.isOwn = true ∧ p.Enabled now a := by
  have hmu : p.muHeld = false := by
    by_contra hm
    obtain ⟨b', w, hs⟩ := h.wellFormed.muHeld.mp (by simpa using hm)
    exact absurd (hi.symm.trans hs) nofun
  have hstop : p.stopping = false := by
    by_contra hs
    have hmark := h.boundary.marked.mp (by simpa using hs)
    have hout := h.boundary.outside (by revert hmark; cases p.stop <;> simp [StopPc.hasMarked, StopPc.hasLocked])
    simp [hi, IntakePc.isOutside] at hout
  obtain ⟨hone, hle⟩ := h.staffed hstop
  obtain ⟨w, hw, hactive⟩ := Cells.count_pos.mp (Nat.lt_of_lt_of_le hone hle)
  have hlt := ((h.wellFormed.registered w).mp hw)
  have hbusy : (p.worker w).busy = true := by
    rcases availableWorkerLocked_eq_none.mp (h.waiting.2 b hi) w hw with hd | hd
    · simp [hd] at hactive
    · exact hd
  have hwork := h.occupied w hbusy fun b' => by rw [hi]; exact nofun
  refine exists_worker_step hc hmu h.numbered h.scheduled hlt.1 (fun he => ?_) (fun hidle => ?_)
  · simp [he, SenderWorkerPc.hasLeft] at hlt
  · exact Or.inr (hwork.resolve_right (by simp [hidle, SenderWorkerPc.isProcessing]))

/-- **No deadlock while stopping.** Once its context is cancelled, until `stop` has
returned and the intake and every worker have ended, a live pool can move by a
step of `stop`, of the intake or of a worker. -/
theorem Live.exists_step (h : p.Live) (hc : p.cancelled = true)
    (hrest : p.stop.hasReturned = false ∨ p.intake ≠ .exited ∨
      ∃ w, w < p.started ∧ (p.worker w).pc ≠ .exited) :
    ∃ a : Action, a.isOwn = true ∧ p.Enabled now a := by
  have hmu : (∀ b w, p.intake ≠ .sending b w) → p.muHeld = false := by
    intro hns
    by_contra hm
    obtain ⟨b, w, hs⟩ := h.wellFormed.muHeld.mp (by simpa using hm)
    exact hns b w hs
  cases hi : p.intake with
  | sending b w =>
    exact ⟨.intakeSend b w, rfl, hi, (h.wellFormed.sending b w hi).2.2.1⟩
  | parkedWith b => exact exists_step_of_parkedWith h hc hi
  | find => exact ⟨.intakeFound, rfl, hi, hmu (by simp [hi]), Or.inr hc⟩
  | found => exact ⟨.intakeTest, rfl, hi⟩
  | entered => exact ⟨.intakeTestEntered, rfl, hi⟩
  | receive => exact ⟨.intakeCanceled, rfl, hi, hc⟩
  | received b => exact ⟨.intakeRecord b, rfl, hi⟩
  | assign b =>
    cases hav : p.availableWorkerLocked with
    | none => exact ⟨.intakeParkWith b, rfl, hi, hmu (by simp [hi]), hav⟩
    | some w => exact ⟨.intakeAssign b w, rfl, hi, hmu (by simp [hi]), hav⟩
  | handed => exact ⟨.intakeHanded, rfl, hi⟩
  | leaving => exact ⟨.intakeLeave, rfl, hi⟩
  | returned => exact ⟨.intakeExit, rfl, hi⟩
  | enter =>
    -- `intakeMu` is free, or `stop` holds it and can move
    have hmu := hmu (by simp [hi])
    cases hs : p.stop.holdsIntakeMu with
    | false => exact ⟨.intakeEnter, rfl, hi, h.boundary.intakeMu_eq_none (by rw [hi]; rfl) hs⟩
    | true =>
      refine exists_stop_step h.boundary hmu (by rw [hi]; rfl) ?_
      revert hs
      cases p.stop <;> simp [StopPc.holdsIntakeMu, StopPc.hasReturned]
  | parked =>
    -- the pool is not stopping, so `stop` is still to come
    refine exists_stop_step h.boundary (hmu (by simp [hi])) (by rw [hi]; rfl) ?_
    have hstop := h.waiting.1 hi
    have hmark := h.boundary.marked
    revert hmark
    cases p.stop <;> simp [hstop, StopPc.hasMarked, StopPc.hasReturned]
  | exited =>
    have hmu := hmu (by simp [hi])
    cases hret : p.stop.hasReturned with
    | false => exact exists_stop_step h.boundary hmu (by rw [hi]; rfl) hret
    | true =>
      have hstop : p.stopping = true :=
        h.boundary.marked.mpr (by revert hret; cases p.stop <;> simp [StopPc.hasMarked, StopPc.hasReturned])
      obtain ⟨w, hlt, hexit⟩ := (hrest.resolve_left (by simp [hret])).resolve_left (by simp [hi])
      exact exists_worker_step hc hmu h.numbered h.scheduled hlt hexit fun hidle =>
        Or.inl (h.awake hstop w hlt hidle)

/-! ### Runs -/

/-- A batch is handed over, the pool is paused, and `stop` cancels it. -/
def pausedStop : List (Memory ⊕ Action) :=
  receiveSteps [⟨"a"⟩] 0 ++ [.inr .pause, .inr .stopCancel]

end SenderPool

end IngestionLab
