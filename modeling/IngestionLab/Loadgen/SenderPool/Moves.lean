import IngestionLab.Loadgen.SenderPool.Steps

/-!
# The moves of a sender worker

Most actions move the goroutine of one worker from one position to another; the rest
move no worker at all. `IngestionLab.SenderPool.Action.move` says which, and the two
lemmas `IngestionLab.SenderPool.pc_of_move` and `IngestionLab.SenderPool.pc_next_of_ne`
say that this is all that happens to positions: the worker that moves was where its
action starts and is where it ends, and every other worker stays where it is.

A worker not started yet counts as standing at the head of its loop, which is where it
begins (`IngestionLab.SenderPool.Unstarted`).
-/

namespace IngestionLab

open Function

namespace SenderPool

variable {p : SenderPool} {v w now : ℕ} {a : Action}

/-- **The worker an action moves**, with the position it leaves and the one it
takes. -/
def Action.move (now : ℕ) : Action → Option (ℕ × SenderWorkerPc × SenderWorkerPc)
  | .takeAtHead w b => some (w, .loop, .attemptHead b 1)
  | .decideStop w => some (w, .loop, .stopped)
  | .decideStay w => some (w, .loop, .idle)
  | .wakeIdle w => some (w, .idle, .loop)
  | .takeIdle w b => some (w, .idle, .attemptHead b 1)
  | .clearBackoff w b k => some (w, .attemptHead b k, .gate b k none)
  | .gateCanceled w b k dl => some (w, .gate b k dl, .settled b false)
  | .gateShut w b k dl g => some (w, .gate b k dl, .gateWait b k dl g)
  | .gatePassed w b k => some (w, .gate b k none, .runnable b k)
  | .gatePassedBackoff w b k dl => some (w, .gate b k (some dl), .remaining b k dl)
  | .gateWaitCanceled w b k dl g => some (w, .gateWait b k dl g, .settled b false)
  | .gateWaitOpened w b k dl g => some (w, .gateWait b k dl g, .gate b k dl)
  | .startAttempt w b k => some (w, .runnable b k, .attempting b k)
  | .attemptReturns w b k .success => some (w, .attempting b k, .settled b true)
  | .attemptReturns w b k .canceled => some (w, .attempting b k, .settled b false)
  | .attemptReturns w b k .failure => some (w, .attempting b k, .failed b k)
  | .setBackoff w b k => some (w, .failed b k, .delaying b k)
  | .setDeadline w b k delay => some (w, .delaying b k, .gate b k (some (now + delay.toNat)))
  | .deadlinePassed w b k dl => some (w, .remaining b k dl, .attemptHead b (k + 1))
  | .startTimer w b k dl => some (w, .remaining b k dl, .backoffWait b k dl)
  | .backoffCanceled w b k dl => some (w, .backoffWait b k dl, .settled b false)
  | .backoffWoken w b k dl => some (w, .backoffWait b k dl, .gate b k (some dl))
  | .backoffTimer w b k dl => some (w, .backoffWait b k dl, .gate b k (some dl))
  | .settle w b ok => some (w, .settled b ok, .finishing)
  | .clearBusy w => some (w, .finishing, .loop)
  | .workerExited w => some (w, .stopped, .removed)
  | .closeDone w => some (w, .removed, .closed)
  | .releaseWg w => some (w, .closed, .exited)
  | _ => none

/-- A worker that has not been started stands at the head of its loop. -/
def Unstarted (p : SenderPool) : Prop := ∀ w, p.started ≤ w → (p.worker w).pc = .loop

/-- **The worker that moves** was where its action starts and is where it ends. -/
theorem pc_of_move {src dst : SenderWorkerPc} (ha : p.Enabled now a)
    (hm : a.move now = some (w, src, dst)) :
    w < p.started ∧ (p.worker w).pc = src ∧ ((p.next now a).worker w).pc = dst := by
  cases a
  case attemptReturns v b k outcome =>
    simp only [Enabled, At] at ha
    cases outcome
    all_goals
      simp only [Action.move, Option.some.injEq, Prod.mk.injEq] at hm
      obtain ⟨rfl, rfl, rfl⟩ := hm
      exact ⟨ha.1.1, ha.1.2, by simp [SenderPool.next, goto, setWorker]⟩
  all_goals
    simp only [Action.move, Option.some.injEq, Prod.mk.injEq, reduceCtorEq] at hm
  all_goals
    obtain ⟨rfl, rfl, rfl⟩ := hm
    simp only [Enabled, At] at ha
    refine ⟨by tauto, by tauto, ?_⟩
    simp [SenderPool.next, goto, setWorker, SenderPool.broadcast]

/-- Starting a worker leaves every position as it is. -/
theorem Unstarted.pc_start (hu : p.Unstarted) (v : ℕ) :
    (update p.worker p.started {} v).pc = (p.worker v).pc := by
  by_cases hv : v = p.started
  · rw [hv, update_self]
    exact (hu _ le_rfl).symm
  · rw [update_of_ne hv]

/-- `reconcile` leaves every position as it is. -/
theorem Unstarted.pc_reconcile (hu : p.Unstarted) (d v : ℕ) :
    ((p.reconcile d).worker v).pc = (p.worker v).pc := by
  cases hstop : p.stopping with
  | true => rw [reconcile_of_stopping hstop]
  | false =>
    obtain ⟨k, cell, joined, heq, hnew, hold⟩ := exists_reconcile_eq hstop d
    rw [heq]
    by_cases hv : p.started ≤ v ∧ v < p.started + k
    · rw [hu v hv.1]
      simp [hnew v hv.1 hv.2]
    · obtain ⟨dr, wk, hcell⟩ := hold v (by omega)
      simp [hcell]

/-- So does the part of `workerExited` before the worker itself moves. -/
theorem Unstarted.pc_workerExited (hu : p.Unstarted) (w v : ℕ) :
    ((p.workerExited w).worker v).pc = (p.worker v).pc := by
  by_cases hw : w ∈ p.workers
  · rw [workerExited_eq hw]
    split
    · exact hu.pc_start v
    · rfl
  · rw [workerExited, if_neg hw]

/-- **Every other worker stays where it is.** -/
theorem pc_next_of_ne (hu : p.Unstarted) (hv : ∀ src dst, a.move now ≠ some (v, src, dst)) :
    ((p.next now a).worker v).pc = (p.worker v).pc := by
  cases a
  case reconcile d => exact hu.pc_reconcile d v
  case workerExited w =>
    have hne : v ≠ w := by
      rintro rfl
      exact hv _ _ rfl
    rw [SenderPool.next, goto, setWorker]
    simp only [update_of_ne hne]
    exact hu.pc_workerExited w v
  case pause =>
    rw [SenderPool.next, pause]
    split
    · rfl
    · exact wakeAll_pc _ v
  case resumeRun =>
    rw [SenderPool.next, resumeRun]
    split <;> rfl
  case stopMark => exact wakeAll_pc _ v
  case intakeAssign b w =>
    simp only [SenderPool.next, setWorker, update_apply]
    split
    · next h => rw [h]
    · rfl
  case intakeSend b w =>
    simp only [SenderPool.next, setWorker, update_apply]
    split
    · next h => rw [h]
    · rfl
  case attemptReturns w b k outcome =>
    have hne : v ≠ w := by
      rintro rfl
      cases outcome <;> exact hv _ _ rfl
    simp [SenderPool.next, goto, setWorker, update_of_ne hne]
  all_goals first
    | rfl
    | (simp only [SenderPool.next, goto, setWorker, broadcast, update_apply]
       split
       · next h =>
         subst h
         exact absurd rfl (hv _ _)
       · rfl)

/-- No action takes a start back. -/
theorem started_le_next (p : SenderPool) (now : ℕ) (a : Action) :
    p.started ≤ (p.next now a).started := by
  by_cases hr : ∃ d, a = .reconcile d
  · obtain ⟨d, rfl⟩ := hr
    cases hstop : p.stopping with
    | true => rw [SenderPool.next, reconcile_of_stopping hstop]
    | false =>
      obtain ⟨k, cell, joined, heq, -, -⟩ := exists_reconcile_eq hstop d
      rw [SenderPool.next, heq]
      exact Nat.le_add_right _ _
  by_cases he : ∃ w, a = .workerExited w
  · obtain ⟨w, rfl⟩ := he
    by_cases hw : w ∈ p.workers
    · rw [SenderPool.next, workerExited_eq hw]
      split
      · exact Nat.le_succ _
      · exact le_rfl
    · rw [SenderPool.next, workerExited, if_neg hw]
      exact le_rfl
  · exact (workers_next (fun d h => hr ⟨d, h⟩) fun w h => he ⟨w, h⟩).2.ge

theorem Unstarted.next (hu : p.Unstarted) (ha : p.Enabled now a) : (p.next now a).Unstarted := by
  intro v hv
  have hle := started_le_next p now a
  rw [pc_next_of_ne hu]
  · exact hu v (by omega)
  · intro src dst hm
    have hlt := (pc_of_move ha hm).1
    omega

theorem unstarted_startSenderPool (retry : SenderRetryConfig) (n : ℕ) :
    (startSenderPool retry n).Unstarted := by
  intro v _
  have hempty : (empty retry).Unstarted := fun _ _ => rfl
  exact hempty.pc_reconcile n v

end SenderPool

end IngestionLab
