import IngestionLab.Loadgen.Pipeline
import IngestionLab.Loadgen.SenderPool.Moves

/-!
# The workers a reconciliation waits for

`reconcile` waits until the idle workers it has marked as draining are done. Each of them
has been woken, is given no batch any more, since only workers that are not draining are
available, and leaves at the next turn of its loop
(`IngestionLab.SenderPool.Leaving`). So the wait is over after steps of theirs alone
(`IngestionLab.SenderPool.exists_step_to_done`), unless the intake holds `p.mu`, which it
can give back at once.
-/

namespace IngestionLab

open Function

/-- How far a worker that leaves is from closing `done`. -/
def SenderWorkerPc.toDone : SenderWorkerPc → ℕ
  | idle => 4
  | loop => 3
  | stopped => 2
  | removed => 1
  | _ => 0

namespace SenderPool

variable {p : SenderPool} {w d now : ℕ} {a : Action}

/-- **A worker on its way out**: draining, without a batch, woken, and done once it has closed
`done`. -/
structure Leaving (c : SenderWorker) : Prop where
  draining : c.draining = true
  busy : c.busy = false
  awake : c.pc = .idle → c.wake = true
  done : c.pc = .closed ∨ c.pc = .exited → c.done = true

/-- **Those waited for are on their way out.** -/
def Joins (p : SenderPool) : Prop := ∀ w ∈ p.joining, w < p.started ∧ Leaving (p.worker w)

/-- The channels waited on are chosen by the event loop. -/
theorem joining_next (hr : ∀ d, a ≠ .reconcile d) (hj : ∀ w, a ≠ .reconcileJoined w) :
    (p.next now a).joining = p.joining := by
  cases a
  case reconcile d => exact absurd rfl (hr d)
  case reconcileJoined w => exact absurd rfl (hj w)
  case workerExited w =>
    obtain ⟨_, _, _, _, _, heq⟩ := workerExited_frame p w
    simp only [next, goto, setWorker, heq]
  case pause =>
    simp only [next, pause]
    split <;> rfl
  case resumeRun =>
    simp only [next, resumeRun]
    split <;> rfl
  all_goals rfl

/-- Waking everyone leaves a worker on its way out there. -/
theorem Leaving.wakeAll (h : Leaving (p.worker w)) : Leaving (p.wakeAll.worker w) := by
  simp only [SenderPool.wakeAll]
  split
  · exact ⟨h.draining, h.busy, fun _ => rfl, h.done⟩
  · exact h

/-- **A worker on its way out stays there**, whatever another goroutine does. -/
theorem Leaving.next (h : Leaving (p.worker w)) (hlt : w < p.started) (hw : p.WellFormed)
    (ha : p.Enabled now a) (hr : ∀ d, a ≠ .reconcile d) : Leaving ((p.next now a).worker w) := by
  obtain ⟨hdraining, hbusy, hawake, hdone⟩ := h
  have hwork : (p.worker w).work = none := by
    by_contra hc
    simp [hw.buffer w hc] at hbusy
  have hidle : (p.worker w).pc.isProcessing = false := by
    by_contra hc
    simp [(hw.processing w (by simpa using hc)).1] at hbusy
  cases a
  case reconcile d => exact absurd rfl (hr d)
  case workerExited v =>
    obtain ⟨⟨hv, hpc⟩, -⟩ := ha
    have hmem : v ∈ p.workers := (hw.registered v).mpr ⟨hv, by rw [hpc]; rfl⟩
    simp only [SenderPool.next, workerExited_eq hmem]
    split <;>
    · simp only [goto, setWorker, update_apply]
      constructor <;> grind
  case pause =>
    simp only [SenderPool.next, pause]
    split
    · exact ⟨hdraining, hbusy, hawake, hdone⟩
    · exact Leaving.wakeAll (p := { p with resume := some p.gates, gates := p.gates + 1 })
        ⟨hdraining, hbusy, hawake, hdone⟩
  case resumeRun =>
    simp only [SenderPool.next, resumeRun]
    split <;> exact ⟨hdraining, hbusy, hawake, hdone⟩
  case stopMark =>
    exact Leaving.wakeAll (p := { p with stopping := true }.broadcast)
      ⟨hdraining, hbusy, hawake, hdone⟩
  case intakeAssign b v =>
    obtain ⟨hi, -, havail⟩ := ha
    have hne : w ≠ v := by
      rintro rfl
      have := List.find?_some havail
      simp [hdraining] at this
    simp only [SenderPool.next, setWorker, update_of_ne hne]
    exact ⟨hdraining, hbusy, hawake, hdone⟩
  case intakeSend b v =>
    have hne : w ≠ v := by
      rintro rfl
      simp [(hw.sending b w ha.1).2.1] at hbusy
    simp only [SenderPool.next, setWorker, update_of_ne hne]
    exact ⟨hdraining, hbusy, hawake, hdone⟩
  all_goals first
    | exact ⟨hdraining, hbusy, hawake, hdone⟩
    | (simp only [Enabled, At, SenderPool.next, goto, setWorker, broadcast, update_apply] at ha ⊢
       constructor <;> grind [SenderWorkerPc.isProcessing])

/-- Those waited for stay on their way out. -/
theorem Joins.next (h : p.Joins) (hw : p.WellFormed) (ha : p.Enabled now a)
    (hr : ∀ d, a ≠ .reconcile d) (hj : ∀ w, a ≠ .reconcileJoined w) : (p.next now a).Joins := by
  intro w hmem
  rw [joining_next hr hj] at hmem
  obtain ⟨hlt, hleaving⟩ := h w hmem
  exact ⟨hlt.trans_le (started_le_next p now a), hleaving.next hlt hw ha hr⟩

/-- **`reconcile` waits for workers it has sent on their way out.** -/
theorem joins_reconcile (hw : p.WellFormed) (hnone : p.joining = []) (d : ℕ) : (p.reconcile d).Joins := by
  intro w hmem
  by_cases hstop : p.stopping = true
  · rw [reconcile_of_stopping hstop, hnone] at hmem
    cases hmem
  · rw [reconcile, if_neg hstop] at hmem ⊢
    simp only [hnone, List.nil_append] at hmem
    simp only [idleDraining, List.mem_filter, Bool.and_eq_true, Bool.not_eq_true'] at hmem
    obtain ⟨cell, hadjust, hcell⟩ := exists_adjust_eq p d
    obtain ⟨dr, hdr⟩ := hcell w
    rw [hadjust] at hmem ⊢
    obtain ⟨hin, hdraining, hbusy⟩ := hmem
    obtain ⟨hlt, hleft⟩ := (hw.registered w).mp hin
    simp only [startWorkers_eq, wakeAll, broadcast]
    refine ⟨by omega, ?_⟩
    rw [if_neg (by omega), if_pos hin]
    refine ⟨hdraining, hbusy, fun _ => rfl, fun hdone => ?_⟩
    simp only [hdr] at hdone
    rcases hdone with hpc | hpc <;> simp [hpc, SenderWorkerPc.hasLeft] at hleft

/-- A pool that has just been started waits for nobody. -/
theorem joining_startSenderPool (retry : SenderRetryConfig) (n : ℕ) :
    (startSenderPool retry n).joining = [] := by
  obtain ⟨cell, hadjust, -⟩ := exists_adjust_eq (empty retry) n
  have hnone : ((empty retry).adjust n).idleDraining = [] := by
    rw [hadjust]
    rfl
  rw [startSenderPool, reconcile, if_neg (by simp [empty])]
  exact hnone

/-! ### There is always a step -/

/-- How much is left before the wait for the workers can end. -/
def toDone (p : SenderPool) : ℕ :=
  Cells.total (fun c => c.pc.toDone) p.worker p.started + p.muHeld.toNat

/-- A step of a worker of the pool, or of its intake, that asks nothing of the channel. -/
structure Free (now : ℕ) (p : SenderPool) (a : Action) : Prop where
  enabled : p.Enabled now a
  actor : a.actor = .goroutine
  op : a.op = .nothing

/-- **The intake can give back `p.mu`.** -/
theorem WellFormed.exists_send (hw : p.WellFormed) (hmu : p.muHeld = true) (now : ℕ) :
    ∃ b w, Free now p (.intakeSend b w) := by
  obtain ⟨b, w, hi⟩ := hw.muHeld.mp hmu
  exact ⟨b, w, ⟨hi, (hw.sending b w hi).2.2.1⟩, rfl, rfl⟩

/-- A worker that goes on towards `done`. -/
theorem toDone_setWorker_lt {c : SenderWorker} (hlt : w < p.started)
    (h : c.pc.toDone < (p.worker w).pc.toDone) : (p.setWorker w c).toDone < p.toDone := by
  have htotal := Cells.total_update (fun c => c.pc.toDone) p.worker c hlt
  simp only [toDone, setWorker]
  omega

/-- **The wait for the workers comes closer to its end**, until it can end. -/
theorem Joins.exists_step_to_done (h : p.Joins) (hw : p.WellFormed)
    (hwait : ∃ w ∈ p.joining, (p.worker w).done = false) (now : ℕ) :
    ∃ a, Free now p a ∧ (p.next now a).toDone < p.toDone := by
  cases hmu : p.muHeld with
  | true =>
    obtain ⟨b, w, hfree⟩ := hw.exists_send hmu now
    refine ⟨.intakeSend b w, hfree, ?_⟩
    have hsame : Cells.total (fun c => c.pc.toDone)
        (update p.worker w { p.worker w with work := some b }) p.started =
          Cells.total (fun c => c.pc.toDone) p.worker p.started := Cells.total_update_of_eq rfl
    dsimp only at hsame
    simp only [SenderPool.next, toDone, setWorker, hmu, hsame]
    exact Nat.lt_succ_self _
  | false =>
    obtain ⟨w, hmem, hdone⟩ := hwait
    obtain ⟨hlt, hleaving⟩ := h w hmem
    have hidle : (p.worker w).pc.isProcessing = false := by
      rw [← Bool.not_eq_true]
      intro hc
      exact absurd (hw.processing w hc).1 (by rw [hleaving.busy]; exact Bool.false_ne_true)
    have hwork : (p.worker w).work = none := by
      by_contra hc
      exact absurd (hw.buffer w hc) (by rw [hleaving.busy]; exact Bool.false_ne_true)
    cases hpc : (p.worker w).pc with
    | loop =>
      refine ⟨.decideStop w, ⟨⟨⟨hlt, hpc⟩, hmu, hwork, ?_⟩, rfl, rfl⟩, ?_⟩
      · rw [hleaving.draining, Bool.or_true]
      · exact toDone_setWorker_lt hlt (by rw [hpc]; exact Nat.le_of_ble_eq_true rfl)
    | idle =>
      refine ⟨.wakeIdle w, ⟨⟨⟨hlt, hpc⟩, hleaving.awake hpc⟩, rfl, rfl⟩, ?_⟩
      exact toDone_setWorker_lt hlt (by rw [hpc]; exact Nat.le_of_ble_eq_true rfl)
    | stopped =>
      refine ⟨.workerExited w, ⟨⟨⟨hlt, hpc⟩, hmu⟩, rfl, rfl⟩, ?_⟩
      -- a worker that drains is not replaced
      have hin : w ∈ p.workers := (hw.registered w).mpr ⟨hlt, by rw [hpc]; rfl⟩
      have hexit : (p.next now (.workerExited w)).toDone = (p.goto w .removed).toDone := by
        rw [SenderPool.next, workerExited_eq hin, if_neg (by simp [hleaving.draining])]
        rfl
      rw [hexit]
      exact toDone_setWorker_lt hlt (by rw [hpc]; exact Nat.le_of_ble_eq_true rfl)
    | removed =>
      refine ⟨.closeDone w, ⟨⟨hlt, hpc⟩, rfl, rfl⟩, ?_⟩
      exact toDone_setWorker_lt hlt (by rw [hpc]; exact Nat.le_of_ble_eq_true rfl)
    | closed => exact absurd (hleaving.done (Or.inl hpc)) (by rw [hdone]; exact Bool.false_ne_true)
    | exited => exact absurd (hleaving.done (Or.inr hpc)) (by rw [hdone]; exact Bool.false_ne_true)
    | _ => simp [hpc, SenderWorkerPc.isProcessing] at hidle

end SenderPool

end IngestionLab
