import IngestionLab.Loadgen.SenderPool.Leaving
import IngestionLab.Loadgen.SenderPool.Shutdown
import IngestionLab.Machine.Ranking

/-!
# What a cancelled pool has left to do

A sender pool whose context is cancelled comes to an end by itself: its intake takes no
further batch than the one it may be about to take, no attempt is followed by another, and
an idle worker goes round its loop once for every token it is given. Here this is a number
(`IngestionLab.SenderPool.ahead`) that every step of the pool lowers
(`IngestionLab.SenderPool.ahead_next_lt`), so that what is interleaved does not matter.

What makes it delicate is that the goroutines give each other work. A hand-off leaves a
batch with a worker, a broadcast sends an intake that waits with its batch to look again,
`stop` leaves a token with every registered worker, and a worker that has decided to stop
may be replaced. Whoever does so pays for it in advance.
-/

namespace IngestionLab

open Function

/-! ### Weights -/

/-- What a worker still has ahead of it, by its position. -/
def SenderWorkerPc.ahead : SenderWorkerPc → ℕ
  | runnable _ _ => 14
  | attempting _ _ => 13
  | failed _ _ | remaining _ _ _ => 12
  | attemptHead _ _ | gateWait _ _ _ _ | delaying _ _ | backoffWait _ _ _ => 11
  | gate _ _ _ => 10
  | settled _ _ => 9
  | finishing => 8
  | loop => 6
  | idle => 5
  | stopped => 4
  | removed => 2
  | closed => 1
  | exited => 0

/-- What the intake still has ahead of it. -/
def IntakePc.ahead : IntakePc → ℕ
  | receive => 15
  | received _ => 14
  | assign _ => 13
  | parkedWith _ | sending _ _ => 12
  | enter | handed => 4
  | find | parked | entered => 3
  | found | leaving => 2
  | returned => 1
  | exited => 0

/-- What `stop` and its goroutine still have ahead of them. -/
def StopPc.ahead : StopPc → ℕ
  | running => 7
  | canceled => 6
  | locked => 5
  | marked => 3
  | returned => 2
  | waiting => 1
  | joined => 0

namespace SenderPool

variable {p : SenderPool} {w now : ℕ} {a : Action} {c : SenderWorker}

/-- **What a worker still has ahead of it**: by its position, for a token, for a batch in its
buffer, for the token `stop` will leave with it, and for the worker that may replace it. -/
def weight (stopping : Bool) (c : SenderWorker) : ℕ :=
  c.pc.ahead + (if c.wake then 2 else 0) + (if c.work.isSome then 7 else 0) +
    (if !stopping && !c.pc.hasLeft then 2 else 0) +
    (if !stopping && !c.draining && c.pc = .stopped then 8 else 0)

/-- **What the pool has left to do** once its context is cancelled. -/
def ahead (p : SenderPool) : ℕ :=
  Cells.total (weight p.stopping) p.worker p.started + p.intake.ahead + p.stop.ahead

/-- A broadcast costs a step. -/
theorem ahead_broadcast (pc : IntakePc) : pc.broadcast.ahead ≤ pc.ahead + 1 := by
  cases pc <;> simp [IntakePc.broadcast, IntakePc.ahead]

/-- A worker that has less ahead of it. -/
theorem ahead_setWorker_lt (hw : w < p.started)
    (h : weight p.stopping c < weight p.stopping (p.worker w)) :
    (p.setWorker w c).ahead < p.ahead := by
  have htotal := Cells.total_update (weight p.stopping) p.worker c hw
  simp only [ahead, setWorker]
  omega

/-! ### Every step lowers it -/

/-- A fresh worker has eight steps ahead of it at most. -/
theorem weight_fresh (stopping : Bool) : weight stopping {} ≤ 8 := by
  cases stopping <;> decide

/-- **`workerExited` lowers it**, a replacement included. -/
theorem ahead_workerExited_lt (hw : p.WellFormed) (ha : p.Enabled now (.workerExited w)) :
    (p.next now (.workerExited w)).ahead < p.ahead := by
  obtain ⟨⟨hlt, hpc⟩, -⟩ := ha
  have hmem : w ∈ p.workers := (hw.registered w).mpr ⟨hlt, by rw [hpc]; rfl⟩
  have hcast := ahead_broadcast p.intake
  have htotal := Cells.total_update (weight p.stopping) p.worker
    { p.worker w with pc := .removed } hlt
  have hremoved : weight p.stopping { p.worker w with pc := .removed } + 2 ≤
      weight p.stopping (p.worker w) := by
    simp only [weight, hpc, SenderWorkerPc.ahead, SenderWorkerPc.hasLeft]
    grind
  simp only [next, workerExited_eq hmem]
  split
  case isTrue hreplaced =>
    obtain ⟨hstop, hdraining, -⟩ := hreplaced
    -- the worker has paid for its replacement
    have hpaid : weight p.stopping { p.worker w with pc := .removed } + 12 ≤
        weight p.stopping (p.worker w) := by
      simp only [weight, hpc, hstop, hdraining, SenderWorkerPc.ahead, SenderWorkerPc.hasLeft]
      grind
    have hcells : update (update p.worker p.started {}) w
          { update p.worker p.started {} w with pc := .removed } =
        update (update p.worker w { p.worker w with pc := .removed }) p.started {} := by
      rw [update_of_ne (Nat.ne_of_lt hlt), update_comm (Nat.ne_of_gt hlt)]
    have hfresh := weight_fresh p.stopping
    dsimp only at htotal hpaid
    simp only [ahead, goto, setWorker, hcells, Cells.total_succ, update_self]
    rw [Cells.total_update_of_le le_rfl]
    omega
  case isFalse =>
    dsimp only at htotal hremoved
    simp only [ahead, goto, setWorker]
    omega

/-- The token `stop` leaves with a worker is paid for. -/
theorem weight_wakeAll_le (hw : p.WellFormed) (hstop : p.stopping = false) :
    weight true (p.wakeAll.worker w) ≤ weight p.stopping (p.worker w) := by
  rw [hstop]
  simp only [wakeAll]
  by_cases hmem : w ∈ p.workers
  · have hin := ((hw.registered w).mp hmem).2
    rw [if_pos hmem]
    simp only [weight, hin]
    grind
  · rw [if_neg hmem]
    simp only [weight]
    grind

/-- **`stop` lowers it when it marks the pool.** -/
theorem ahead_stopMark_lt (hw : p.WellFormed) (hb : p.Boundary) (ha : p.Enabled now .stopMark) :
    (p.next now .stopMark).ahead < p.ahead := by
  obtain ⟨hlocked, -⟩ := ha
  have hstop : p.stopping = false := by
    rw [← Bool.not_eq_true, hb.marked, hlocked]
    exact Bool.false_ne_true
  have hcast := ahead_broadcast p.intake
  have htotal : Cells.total (weight true) p.wakeAll.worker p.started ≤
      Cells.total (weight p.stopping) p.worker p.started :=
    Finset.sum_le_sum fun v _ => weight_wakeAll_le hw hstop
  have hnext : (p.next now .stopMark).ahead =
      Cells.total (weight true) p.wakeAll.worker p.started + p.intake.broadcast.ahead + 3 := rfl
  rw [hnext, ahead, hlocked]
  simp only [StopPc.ahead]
  omega

/-- A step of the intake that hands nothing over. -/
theorem ahead_intake_lt {q : SenderPool} {pc : IntakePc} (hpc : p.intake = pc)
    (hlt : q.intake.ahead < pc.ahead)
    (hworker : Cells.total (weight q.stopping) q.worker q.started =
      Cells.total (weight p.stopping) p.worker p.started) (hstop : q.stop = p.stop) :
    q.ahead < p.ahead := by
  rw [ahead, ahead, hworker, hstop, hpc]
  omega

/-- A step of `stop` that wakes no one. -/
theorem ahead_stop_lt {q : SenderPool} {pc : StopPc} (hpc : p.stop = pc)
    (hlt : q.stop.ahead < pc.ahead)
    (hworker : Cells.total (weight q.stopping) q.worker q.started =
      Cells.total (weight p.stopping) p.worker p.started) (hintake : q.intake = p.intake) :
    q.ahead < p.ahead := by
  rw [ahead, ahead, hworker, hintake, hpc]
  omega

/-- **The hand-off lowers it**: the batch is paid for where the intake held it. -/
theorem ahead_intakeSend_lt {b : Batch} (hw : p.WellFormed) (ha : p.Enabled now (.intakeSend b w)) :
    (p.next now (.intakeSend b w)).ahead < p.ahead := by
  obtain ⟨hi, hnone⟩ := ha
  have hlt : w < p.started := ((hw.registered w).mp (hw.sending b w hi).1).1
  have htotal := Cells.total_update (weight p.stopping) p.worker
    { p.worker w with work := some b } hlt
  have hweight : weight p.stopping { p.worker w with work := some b } =
      weight p.stopping (p.worker w) + 7 := by
    simp only [weight, hnone, Option.isSome_some, Option.isSome_none]
    grind
  dsimp only at htotal hweight
  simp only [next, ahead, setWorker, hi, IntakePc.ahead]
  omega

/-- **A worker that is done with a batch lowers it**, though it wakes the intake. -/
theorem ahead_clearBusy_lt (ha : p.Enabled now (.clearBusy w)) :
    (p.next now (.clearBusy w)).ahead < p.ahead := by
  obtain ⟨⟨hlt, hpc⟩, -⟩ := ha
  have hcast := ahead_broadcast p.intake
  have htotal := Cells.total_update (weight p.stopping) p.worker
    { p.worker w with busy := false, backoff := false, pc := .loop } hlt
  have hweight : weight p.stopping { p.worker w with busy := false, backoff := false, pc := .loop } + 2 =
      weight p.stopping (p.worker w) := by
    simp only [weight, hpc, SenderWorkerPc.ahead, SenderWorkerPc.hasLeft]
    grind
  dsimp only at htotal hweight
  simp only [next, ahead, setWorker, broadcast]
  omega

/-- **Every step of a cancelled pool lowers what is left to do.** -/
theorem ahead_next_lt (hw : p.WellFormed) (hb : p.Boundary) (hc : p.cancelled = true)
    (ha : p.Enabled now a) (hown : a.isOwn = true) : (p.next now a).ahead < p.ahead := by
  cases a
  case reconcile | reconcileJoined | pause | resumeRun | cancel => cases hown
  case workerExited w => exact ahead_workerExited_lt hw ha
  case stopMark => exact ahead_stopMark_lt hw hb ha
  case intakeSend b v => exact ahead_intakeSend_lt hw ha
  case clearBusy v => exact ahead_clearBusy_lt ha
  case stopCancel | stopReturn =>
    exact ahead_stop_lt ha (by simp [next, StopPc.ahead]) rfl rfl
  case stopLock | stopIntakeDone | stopJoined =>
    exact ahead_stop_lt ha.1 (by simp [next, StopPc.ahead]) rfl rfl
  -- the intake goes no further than its next test of the context
  case intakePark => exact absurd hc (by rw [ha.2.2.2]; exact Bool.false_ne_true)
  case intakeFound | intakeEnter | intakeCanceled | intakeParkWith =>
    exact ahead_intake_lt ha.1 (by simp [next, IntakePc.ahead]) rfl rfl
  case intakeTest | intakeTestEntered | intakeClosed | intakeReceive | intakeRecord |
      intakeHanded | intakeLeave | intakeExit =>
    exact ahead_intake_lt ha (by simp [next, hc, IntakePc.ahead]) rfl rfl
  case intakeAssign b v =>
    refine ahead_intake_lt ha.1 (by simp [next, IntakePc.ahead]) ?_ rfl
    exact Cells.total_update_of_eq rfl
  -- no gate lets a worker pass
  case gateShut | gatePassed | gatePassedBackoff =>
    exact absurd hc (by rw [ha.2.2.1]; exact Bool.false_ne_true)
  case attemptReturns v b n outcome =>
    refine ahead_setWorker_lt ha.1.1 ?_
    cases outcome <;>
    · simp only [weight, ha.1.2, SenderWorkerPc.ahead, SenderWorkerPc.hasLeft]
      grind
  case settle v b delivered =>
    have hgoto : (p.next now (.settle v b delivered)).ahead = (p.goto v .finishing).ahead := rfl
    rw [hgoto]
    refine ahead_setWorker_lt ha.1 ?_
    simp only [weight, ha.2, SenderWorkerPc.ahead, SenderWorkerPc.hasLeft]
    grind
  case releaseWg v =>
    have hgoto : (p.next now (.releaseWg v)).ahead = (p.goto v .exited).ahead := rfl
    rw [hgoto]
    refine ahead_setWorker_lt ha.1 ?_
    simp only [weight, ha.2, SenderWorkerPc.ahead, SenderWorkerPc.hasLeft]
    grind
  case startAttempt | closeDone =>
    refine ahead_setWorker_lt ha.1 ?_
    simp only [weight, ha.2, SenderWorkerPc.ahead, SenderWorkerPc.hasLeft]
    grind
  case takeAtHead v b =>
    refine ahead_setWorker_lt ha.1.1 ?_
    simp only [weight, ha.1.2, ha.2.2, SenderWorkerPc.ahead, SenderWorkerPc.hasLeft]
    grind
  case takeIdle v b | wakeIdle v | backoffWoken v b n dl =>
    refine ahead_setWorker_lt ha.1.1 ?_
    simp only [weight, ha.1.2, ha.2, SenderWorkerPc.ahead, SenderWorkerPc.hasLeft]
    grind
  case decideStop v =>
    refine ahead_setWorker_lt ha.1.1 ?_
    have hwhy := ha.2.2.2
    simp only [weight, ha.1.2, SenderWorkerPc.ahead, SenderWorkerPc.hasLeft]
    grind
  all_goals
    refine ahead_setWorker_lt ha.1.1 ?_
    simp only [weight, ha.1.2, SenderWorkerPc.ahead, SenderWorkerPc.hasLeft]
    grind

/-! ### There is always a step -/

/-- **A step of the pool is one of `stop` itself, or one of its goroutines can be taken** that
asks nothing of the sender channel: an intake that could receive could as well leave. -/
theorem exists_free_of_own (hc : p.cancelled = true) (ha : p.Enabled now a) (hown : a.isOwn = true) :
    (a = .stopCancel ∨ a = .stopLock ∨ a = .stopMark ∨ a = .stopReturn) ∨
      ∃ b : Action, b.isOwn = true ∧ Free now p b := by
  cases a
  case reconcile | reconcileJoined | pause | resumeRun | cancel => cases hown
  case stopCancel | stopLock | stopMark | stopReturn => exact Or.inl (by simp)
  case intakeReceive b => exact Or.inr ⟨.intakeCanceled, rfl, ⟨ha, hc⟩, rfl, rfl⟩
  case intakeClosed => exact Or.inr ⟨.intakeCanceled, rfl, ⟨ha, hc⟩, rfl, rfl⟩
  all_goals exact Or.inr ⟨_, rfl, ha, rfl, rfl⟩

/-- **While `stop` waits for `intakeMu`** there is a step. -/
theorem Live.exists_step_to_lock (h : p.Live) (hstop : p.stop = .canceled)
    (hheld : p.intakeMu ≠ none) (now : ℕ) : ∃ a : Action, a.isOwn = true ∧ Free now p a := by
  have hc : p.cancelled = true := h.boundary.canceled (by rw [hstop]; decide)
  obtain ⟨a, hown, ha⟩ : ∃ a : Action, a.isOwn = true ∧ p.Enabled now a :=
    h.exists_step hc (Or.inl (by rw [hstop]; rfl))
  rcases exists_free_of_own hc ha hown with (rfl | rfl | rfl | rfl) | hfree
  · exact absurd (hstop.symm.trans ha) (by decide)
  · exact absurd ha.2 hheld
  · exact absurd (hstop.symm.trans ha.1) (by decide)
  · exact absurd (hstop.symm.trans ha) (by decide)
  · exact hfree

/-- **Until the channel `stop` has returned is closed** there is a step. -/
theorem Live.exists_step_to_join (h : p.Live) (hj : p.Joining) (hret : p.stop.hasReturned = true)
    (hopen : p.stop ≠ .joined) (now : ℕ) : ∃ a : Action, a.isOwn = true ∧ Free now p a := by
  have hnot : ∀ {pc : StopPc}, pc.hasReturned = false → p.stop ≠ pc := by
    rintro pc hpc rfl
    exact absurd (hpc.symm.trans hret) Bool.false_ne_true
  have hc : p.cancelled = true := h.boundary.canceled (hnot rfl)
  have hstep : (p.intake ≠ .exited ∨ ∃ w, w < p.started ∧ (p.worker w).pc ≠ .exited) →
      ∃ a : Action, a.isOwn = true ∧ Free now p a := by
    intro hrest
    obtain ⟨a, hown, ha⟩ : ∃ a : Action, a.isOwn = true ∧ p.Enabled now a :=
      h.exists_step hc (Or.inr hrest)
    rcases exists_free_of_own hc ha hown with (rfl | rfl | rfl | rfl) | hfree
    · exact absurd ha (hnot rfl)
    · exact absurd ha.1 (hnot rfl)
    · exact absurd ha.1 (hnot rfl)
    · exact absurd ha (hnot rfl)
    · exact hfree
  cases hstop : p.stop with
  | returned =>
    by_cases hexit : p.intake = .exited
    · exact ⟨.stopIntakeDone, rfl, ⟨hstop, hexit⟩, rfl, rfl⟩
    · exact hstep (Or.inl hexit)
  | waiting =>
    rcases Nat.eq_zero_or_pos p.wg with hzero | hpos
    · exact ⟨.stopJoined, rfl, ⟨hstop, hzero⟩, rfl, rfl⟩
    · rw [hj.wg] at hpos
      obtain ⟨w, hmem, halive⟩ := Finset.sum_pos_iff.mp hpos
      refine hstep (Or.inr ⟨w, Finset.mem_range.mp hmem, fun hpc => ?_⟩)
      simp [alive, hpc] at halive
  | joined => exact absurd hstop hopen
  | running | canceled | locked | marked => exact absurd hstop (hnot rfl)

end SenderPool

end IngestionLab
