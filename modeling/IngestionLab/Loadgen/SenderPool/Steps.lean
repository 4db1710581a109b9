import IngestionLab.Loadgen.SenderPool

/-!
# What a step of the sender pool can do

The functions of the pool that touch many workers at once – `reconcile`,
`workerExited`, `pause`, the critical section of `stop` – are described here once,
as equations on the whole pool, so that the invariants of the files that follow
never unfold their loops.

* `IngestionLab.SenderPool.exists_reconcile_eq`: what `reconcile` changes, up to
  the flags it sets on each worker.
* `IngestionLab.SenderPool.activeWorkerCountLocked_reconcile`: **how many active
  workers `reconcile` leaves**. Going down it leaves what was asked. Going up it
  clears every draining mark first, so it leaves the larger of what was asked and
  what was registered.
* `IngestionLab.SenderPool.WellFormed`: the invariant of the pool's registration
  and of its buffers, with its preservation by every action
  (`IngestionLab.SenderPool.WellFormed.next`).
-/

namespace IngestionLab

open Function

namespace SenderPool

variable {p : SenderPool} {w d now : ℕ} {a : Action}

/-! ### Waking -/

/-- A wake-up sets a token and nothing else. -/
theorem exists_wakeAll_eq (p : SenderPool) (v : ℕ) :
    ∃ wk, p.wakeAll.worker v = { p.worker v with wake := wk } := by
  by_cases hv : v ∈ p.workers
  · exact ⟨true, if_pos hv⟩
  · exact ⟨(p.worker v).wake, if_neg hv⟩

@[simp] theorem wakeAll_draining (p : SenderPool) (v : ℕ) :
    (p.wakeAll.worker v).draining = (p.worker v).draining := by
  obtain ⟨wk, h⟩ := exists_wakeAll_eq p v
  rw [h]

@[simp] theorem wakeAll_busy (p : SenderPool) (v : ℕ) :
    (p.wakeAll.worker v).busy = (p.worker v).busy := by
  obtain ⟨wk, h⟩ := exists_wakeAll_eq p v
  rw [h]

@[simp] theorem wakeAll_work (p : SenderPool) (v : ℕ) :
    (p.wakeAll.worker v).work = (p.worker v).work := by
  obtain ⟨wk, h⟩ := exists_wakeAll_eq p v
  rw [h]

@[simp] theorem wakeAll_pc (p : SenderPool) (v : ℕ) :
    (p.wakeAll.worker v).pc = (p.worker v).pc := by
  obtain ⟨wk, h⟩ := exists_wakeAll_eq p v
  rw [h]

/-! ### The loops of `reconcile` -/

/-- The downward loop only sets draining marks. -/
theorem exists_drainDown_eq (d : ℕ) (ws : List ℕ) (active : ℕ) (cell : ℕ → SenderWorker) (v : ℕ) :
    ∃ dr, drainDown d ws active cell v = { cell v with draining := dr } := by
  induction ws generalizing active cell with
  | nil => exact ⟨(cell v).draining, rfl⟩
  | cons w ws ih =>
    rw [drainDown]
    split
    · exact ⟨(cell v).draining, rfl⟩
    · split
      · exact ih active cell
      · obtain ⟨dr, hdr⟩ := ih (active - 1) (update cell w { cell w with draining := true })
        by_cases hv : v = w
        · subst hv
          rw [update_self] at hdr
          exact ⟨dr, hdr⟩
        · rw [update_of_ne hv] at hdr
          exact ⟨dr, hdr⟩

/-- A worker the downward loop does not pass over keeps its mark. -/
theorem drainDown_of_notMem (d : ℕ) {ws : List ℕ} (active : ℕ) (cell : ℕ → SenderWorker) {v : ℕ}
    (hv : v ∉ ws) : drainDown d ws active cell v = cell v := by
  induction ws generalizing active cell with
  | nil => rfl
  | cons w ws ih =>
    obtain ⟨hvw, hvs⟩ : v ≠ w ∧ v ∉ ws := by simpa using hv
    rw [drainDown]
    split
    · rfl
    · split
      · exact ih active cell hvs
      · rw [ih _ _ hvs, update_of_ne hvw]

/-- **The downward loop stops at the desired number**: started with as many active
workers as the list holds, it leaves exactly the number asked for. -/
theorem count_drainDown {ws : List ℕ} {cell : ℕ → SenderWorker} {active : ℕ} (hnd : ws.Nodup)
    (hactive : active = Cells.count (fun c => !c.draining) cell ws) (hd : d ≤ active) :
    Cells.count (fun c => !c.draining) (drainDown d ws active cell) ws = d := by
  induction ws generalizing cell active with
  | nil =>
    rw [Cells.count_nil] at hactive ⊢
    omega
  | cons w ws ih =>
    obtain ⟨hw, hws⟩ := List.nodup_cons.mp hnd
    rw [Cells.count_cons] at hactive
    rw [drainDown]
    split
    · rw [Cells.count_cons]
      omega
    · rename_i hlt
      rw [Cells.count_cons]
      cases hdr : (cell w).draining with
      | true =>
        have hrest : active = Cells.count (fun c => !c.draining) cell ws := by simpa [hdr] using hactive
        rw [if_pos rfl, drainDown_of_notMem d _ _ hw, ih hws hrest hd]
        simp [hdr]
      | false =>
        have hrest : active - 1 = Cells.count (fun c => !c.draining)
            (update cell w { cell w with draining := true }) ws := by
          rw [Cells.count_update_of_notMem hw]
          simp only [hdr, Bool.not_false, ↓reduceIte] at hactive
          omega
        rw [if_neg (by simp), drainDown_of_notMem d _ _ hw, ih hws hrest (by omega), update_self]
        simp

/-- After the upward loop no registered worker is draining. -/
theorem count_undrain (cell : ℕ → SenderWorker) (ws : List ℕ) :
    Cells.count (fun c => !c.draining) (undrain cell ws) ws = ws.length := by
  rw [Cells.count, List.countP_eq_length]
  intro v hv
  simp [undrain, hv]

/-- Starting workers, all at once: fresh cells under the numbers that follow. -/
theorem startWorkers_eq (p : SenderPool) (n : ℕ) :
    p.startWorkers n = { p with
      worker := fun v => if p.started ≤ v ∧ v < p.started + n then {} else p.worker v
      started := p.started + n
      workers := p.workers ++ List.range' p.started n
      wg := p.wg + n } := by
  induction n with
  | zero =>
    have hcell : (fun v => if p.started ≤ v ∧ v < p.started + 0 then ({} : SenderWorker)
        else p.worker v) = p.worker := funext fun v => if_neg (by omega)
    rw [hcell]
    simp [startWorkers]
  | succ n ih =>
    have hcell : update (fun v => if p.started ≤ v ∧ v < p.started + n then ({} : SenderWorker)
        else p.worker v) (p.started + n) {} =
        fun v => if p.started ≤ v ∧ v < p.started + (n + 1) then {} else p.worker v := by
      funext v
      by_cases hv : v = p.started + n
      · rw [hv, update_self, if_pos (by omega)]
      · rw [update_of_ne hv]
        exact if_congr (by omega) rfl rfl
    rw [startWorkers, ih]
    simp only [startWorkerLocked, hcell, List.append_assoc, List.range'_concat, Nat.one_mul,
      Nat.add_assoc]

/-! ### `reconcile` -/

/-- The first half of `reconcile` changes the request and the draining marks. -/
theorem exists_adjust_eq (p : SenderPool) (d : ℕ) :
    ∃ cell, p.adjust d = { p with desired := d, worker := cell } ∧
      ∀ v, ∃ dr, cell v = { p.worker v with draining := dr } := by
  unfold adjust
  simp only
  split
  · exact ⟨_, rfl, exists_drainDown_eq d _ _ _⟩
  · split
    · refine ⟨_, rfl, fun v => ?_⟩
      by_cases hv : v ∈ p.workers
      · exact ⟨false, by simp [undrain, hv]⟩
      · exact ⟨(p.worker v).draining, by simp [undrain, hv]⟩
    · exact ⟨p.worker, rfl, fun v => ⟨(p.worker v).draining, rfl⟩⟩

/-- **What `reconcile` changes**: the request, the wake and draining flags of the
workers there are, some fresh workers, and the intake is woken. -/
theorem exists_reconcile_eq (hstop : p.stopping = false) (d : ℕ) :
    ∃ k cell joined, p.reconcile d = { p with
        desired := d
        worker := cell
        started := p.started + k
        workers := p.workers ++ List.range' p.started k
        wg := p.wg + k
        intake := p.intake.broadcast
        joining := p.joining ++ joined } ∧
      (∀ v, p.started ≤ v → v < p.started + k → cell v = {}) ∧
      (∀ v, ¬(p.started ≤ v ∧ v < p.started + k) →
        ∃ dr wk, cell v = { p.worker v with draining := dr, wake := wk }) := by
  obtain ⟨cell, hadjust, hcell⟩ := exists_adjust_eq p d
  rw [reconcile, if_neg (by simp [hstop])]
  simp only [startWorkers_eq, hadjust, wakeAll, broadcast]
  refine ⟨_, _, _, rfl, fun v h1 h2 => if_pos ⟨h1, h2⟩, fun v hv => ?_⟩
  obtain ⟨dr, hdr⟩ := hcell v
  simp only [if_neg hv]
  by_cases hmem : v ∈ p.workers
  · exact ⟨dr, true, by rw [if_pos hmem, hdr]⟩
  · exact ⟨dr, (p.worker v).wake, by rw [if_neg hmem, hdr]⟩

/-- A reconciliation of a stopping pool changes nothing. -/
theorem reconcile_of_stopping (hstop : p.stopping = true) : p.reconcile d = p := by
  rw [reconcile, if_pos hstop]

/-- What `reconcile` makes of one worker: it sets flags, or starts the worker. -/
theorem reconcile_worker (p : SenderPool) (d v : ℕ) :
    (p.reconcile d).worker v = {} ∨
      ∃ dr wk, (p.reconcile d).worker v = { p.worker v with draining := dr, wake := wk } := by
  cases hstop : p.stopping with
  | true => exact Or.inr ⟨_, _, by rw [reconcile_of_stopping hstop]⟩
  | false =>
    obtain ⟨k, cell, joined, heq, hnew, hold⟩ := exists_reconcile_eq hstop d
    rw [heq]
    by_cases hk : p.started ≤ v ∧ v < p.started + k
    · exact Or.inl (hnew v hk.1 hk.2)
    · exact Or.inr (hold v hk)

/-- How many active workers the first half of `reconcile` leaves. -/
theorem activeWorkerCountLocked_adjust (hnd : p.workers.Nodup) :
    (p.adjust d).activeWorkerCountLocked =
      if p.activeWorkerCountLocked < d then p.workers.length else d := by
  have hrev : ∀ cell : ℕ → SenderWorker, Cells.count (fun c => !c.draining) cell p.workers =
      Cells.count (fun c => !c.draining) cell p.workers.reverse := fun cell =>
    (List.countP_reverse ..).symm
  rw [adjust]
  split
  · rename_i hlt
    rw [if_neg (by omega)]
    simp only [activeWorkerCountLocked] at hlt ⊢
    rw [hrev, hrev p.worker] at *
    exact count_drainDown (List.nodup_reverse.mpr hnd) rfl (by omega)
  · split
    · exact count_undrain p.worker p.workers
    · rename_i h1 h2
      change p.activeWorkerCountLocked = d
      omega

/-- Waking and starting workers adds the workers started, no more. -/
theorem activeWorkerCountLocked_reconcile_adjust (hstop : p.stopping = false)
    (hlt : ∀ v ∈ p.workers, v < p.started) :
    (p.reconcile d).activeWorkerCountLocked =
      (p.adjust d).activeWorkerCountLocked + (d - (p.adjust d).activeWorkerCountLocked) := by
  obtain ⟨cell, hadjust, -⟩ := exists_adjust_eq p d
  rw [reconcile, if_neg (by simp [hstop])]
  simp only [startWorkers_eq, hadjust, wakeAll, broadcast, activeWorkerCountLocked]
  rw [Cells.count_append]
  congr 1
  · refine Cells.count_congr fun v hv => ?_
    rw [if_neg (by have := hlt v hv; omega), if_pos hv]
  · rw [Cells.count, List.countP_eq_length.mpr, List.length_range']
    intro v hv
    rw [List.mem_range'_1] at hv
    simp [hv]

/-- **How many active workers `reconcile` leaves.** Asked for no more than there
are, exactly that many; asked for more, all that were registered, draining or
not, and fresh ones up to the request. -/
theorem activeWorkerCountLocked_reconcile (hstop : p.stopping = false) (hnd : p.workers.Nodup)
    (hlt : ∀ v ∈ p.workers, v < p.started) :
    (p.reconcile d).activeWorkerCountLocked =
      if p.activeWorkerCountLocked < d then max d p.workers.length else d := by
  rw [activeWorkerCountLocked_reconcile_adjust hstop hlt, activeWorkerCountLocked_adjust hnd]
  split <;> omega

/-! ### `workerExited` -/

/-- **What `workerExited` changes**: the worker leaves the registration, and a
fresh one is started if it was not draining and fewer active workers are left
than desired. -/
theorem workerExited_eq (hw : w ∈ p.workers) :
    p.workerExited w =
      if p.stopping = false ∧ (p.worker w).draining = false ∧
          Cells.count (fun c => !c.draining) p.worker (p.workers.erase w) < p.desired then
        { p with
          worker := update p.worker p.started {}
          started := p.started + 1
          workers := p.workers.erase w ++ [p.started]
          wg := p.wg + 1
          intake := p.intake.broadcast }
      else { p with workers := p.workers.erase w, intake := p.intake.broadcast } := by
  rw [workerExited, if_pos hw]
  by_cases hc : p.stopping = false ∧ (p.worker w).draining = false ∧
      Cells.count (fun c => !c.draining) p.worker (p.workers.erase w) < p.desired
  · rw [if_pos hc]
    exact congrArg broadcast (if_pos hc)
  · rw [if_neg hc]
    exact congrArg broadcast (if_neg hc)

/-! ### Frames -/

/-- The fields `reconcile` may change. -/
theorem reconcile_frame (p : SenderPool) (d : ℕ) :
    ∃ cell st ws wg ds ik jn, p.reconcile d = { p with
      worker := cell, started := st, workers := ws, wg := wg, desired := ds, intake := ik,
      joining := jn } := by
  by_cases hstop : p.stopping = true
  · exact ⟨_, _, _, _, _, _, _, reconcile_of_stopping hstop⟩
  · obtain ⟨k, cell, joined, heq, -, -⟩ := exists_reconcile_eq (by simpa using hstop) d
    exact ⟨_, _, _, _, _, _, _, heq⟩

/-- The fields `workerExited` may change. -/
theorem workerExited_frame (p : SenderPool) (w : ℕ) :
    ∃ cell st ws wg ik, p.workerExited w = { p with
      worker := cell, started := st, workers := ws, wg := wg, intake := ik } := by
  by_cases hw : w ∈ p.workers
  · rw [workerExited_eq hw]
    split <;> exact ⟨_, _, _, _, _, rfl⟩
  · exact ⟨_, _, _, _, _, if_neg hw⟩

/-- The fields `pause` may change. -/
theorem pause_frame (p : SenderPool) :
    ∃ cell r g, p.pause = { p with worker := cell, resume := r, gates := g } := by
  rw [pause]
  split <;> exact ⟨_, _, _, rfl⟩

/-- The fields `resumeRun` may change. -/
theorem resumeRun_frame (p : SenderPool) :
    ∃ r gs, p.resumeRun = { p with resume := r, gateClosed := gs } := by
  rw [resumeRun]
  split <;> exact ⟨_, _, rfl⟩

section

attribute [local simp] next goto setWorker broadcast markStopping wakeAll

/-- Only the critical section of `stop` marks the pool stopping. -/
theorem stopping_next : (p.next now a).stopping = true ↔ p.stopping = true ∨ a = .stopMark := by
  cases a
  case reconcile d =>
    obtain ⟨_, _, _, _, _, _, _, h⟩ := reconcile_frame p d
    simp [h]
  case workerExited w =>
    obtain ⟨_, _, _, _, _, h⟩ := workerExited_frame p w
    simp [h]
  case pause =>
    obtain ⟨_, _, _, h⟩ := pause_frame p
    simp [h]
  case resumeRun =>
    obtain ⟨_, _, h⟩ := resumeRun_frame p
    simp [h]
  case stopMark => simp
  all_goals simp

/-- A pool that is not stopping was not stopping before. -/
theorem stopping_of_next (h : (p.next now a).stopping = false) : p.stopping = false := by
  rw [← Bool.not_eq_true] at h ⊢
  exact fun hc => h (stopping_next.mpr (Or.inl hc))

/-- Only `stop` and the parent context cancel, and nothing takes that back. -/
theorem cancelled_next :
    (p.next now a).cancelled = true ↔ p.cancelled = true ∨ a = .stopCancel ∨ a = .cancel := by
  cases a
  case reconcile d =>
    obtain ⟨_, _, _, _, _, _, _, h⟩ := reconcile_frame p d
    simp [h]
  case workerExited w =>
    obtain ⟨_, _, _, _, _, h⟩ := workerExited_frame p w
    simp [h]
  case pause =>
    obtain ⟨_, _, _, h⟩ := pause_frame p
    simp [h]
  case resumeRun =>
    obtain ⟨_, _, h⟩ := resumeRun_frame p
    simp [h]
  case stopMark => simp
  all_goals simp

/-- A pool that is not cancelled was not cancelled before. -/
theorem cancelled_of_next (h : (p.next now a).cancelled = false) : p.cancelled = false := by
  rw [← Bool.not_eq_true] at h ⊢
  exact fun hc => h (cancelled_next.mpr (Or.inl hc))

end

/-- Only `reconcile` and `workerExited` start workers or change who is registered. -/
theorem workers_next (hr : ∀ d, a ≠ .reconcile d) (he : ∀ w, a ≠ .workerExited w) :
    (p.next now a).workers = p.workers ∧ (p.next now a).started = p.started := by
  cases a
  case reconcile d => exact absurd rfl (hr d)
  case workerExited w => exact absurd rfl (he w)
  case pause =>
    simp only [next, pause]
    split <;> exact ⟨rfl, rfl⟩
  case resumeRun =>
    simp only [next, resumeRun]
    split <;> exact ⟨rfl, rfl⟩
  all_goals exact ⟨rfl, rfl⟩

/-- Only `reconcile` sets or clears a draining mark of a worker there is. -/
theorem draining_next (hr : ∀ d, a ≠ .reconcile d) (hw : w < p.started) :
    ((p.next now a).worker w).draining = (p.worker w).draining := by
  cases a
  case reconcile d => exact absurd rfl (hr d)
  case workerExited v =>
    simp only [next, goto, setWorker, workerExited]
    split
    · split <;>
        simp only [broadcast, startWorkerLocked, update_apply] <;>
        grind
    · simp only [update_apply]
      grind
  case pause =>
    simp only [next, pause]
    split
    · rfl
    · exact wakeAll_draining _ w
  case resumeRun =>
    simp only [next, resumeRun]
    split <;> rfl
  case stopMark => exact wakeAll_draining _ w
  all_goals first
    | rfl
    | (simp only [next, goto, setWorker, broadcast, update_apply]
       split
       · simp_all
       · rfl)

/-! ### What a step counts -/

/-- How many transactions an action counts as delivered. -/
def Action.delivered : Action → ℕ
  | .settle _ batch true => batch.length
  | _ => 0

/-- A pool counts what its actions deliver, and nothing else. -/
theorem counted_next (p : SenderPool) (now : ℕ) (a : Action) :
    (p.next now a).counted = p.counted + a.delivered := by
  cases a
  case reconcile d =>
    obtain ⟨_, _, _, _, _, _, _, h⟩ := reconcile_frame p d
    rw [next, h]
    rfl
  case workerExited w =>
    obtain ⟨_, _, _, _, _, h⟩ := workerExited_frame p w
    rw [next, goto, setWorker, h]
    rfl
  case pause =>
    obtain ⟨_, _, _, h⟩ := pause_frame p
    rw [next, h]
    rfl
  case resumeRun =>
    obtain ⟨_, _, h⟩ := resumeRun_frame p
    rw [next, h]
    rfl
  case settle w batch delivered => cases delivered <;> rfl
  all_goals rfl

/-- The shared counter counts what the actions deliver, and nothing else. -/
theorem completed_remember (sh : Memory) (a : Action) :
    (remember sh a).terminallyCompletedTransactionsSinceTick =
      sh.terminallyCompletedTransactionsSinceTick + a.delivered := by
  cases a
  case settle w batch delivered => cases delivered <;> rfl
  all_goals rfl

/-! ### The invariant of the registration and of the buffers -/

/-- **A pool in order**: the workers registered are the ones started that have not
left; a worker with a full buffer or at work is busy, and never both; and while
the intake holds `p.mu` to hand a batch over, the buffer it sends into is empty. -/
structure WellFormed (p : SenderPool) : Prop where
  nodup : p.workers.Nodup
  registered : ∀ w, w ∈ p.workers ↔ w < p.started ∧ (p.worker w).pc.hasLeft = false
  buffer : ∀ w, (p.worker w).work ≠ none → (p.worker w).busy = true
  processing : ∀ w, (p.worker w).pc.isProcessing = true →
    (p.worker w).busy = true ∧ (p.worker w).work = none
  sending : ∀ b w, p.intake = .sending b w →
    w ∈ p.workers ∧ (p.worker w).busy = true ∧ (p.worker w).work = none ∧
      (p.worker w).pc.isProcessing = false
  muHeld : p.muHeld = true ↔ ∃ b w, p.intake = .sending b w

/-- The registration is kept. -/
theorem WellFormed.registration_next (h : p.WellFormed) (ha : p.Enabled now a) :
    (p.next now a).workers.Nodup ∧ ∀ w, w ∈ (p.next now a).workers ↔
      w < (p.next now a).started ∧ ((p.next now a).worker w).pc.hasLeft = false := by
  by_cases hr : ∃ d, a = .reconcile d
  · obtain ⟨d, rfl⟩ := hr
    cases hstop : p.stopping with
    | true =>
      simp only [next, reconcile_of_stopping hstop]
      exact ⟨h.nodup, h.registered⟩
    | false =>
      obtain ⟨k, cell, joined, heq, hnew, hold⟩ := exists_reconcile_eq hstop d
      simp only [next, heq]
      refine ⟨?_, fun w => ?_⟩
      · refine List.nodup_append.mpr ⟨h.nodup, List.nodup_range', fun v hv u hu => ?_⟩
        have := ((h.registered v).mp hv).1
        rw [List.mem_range'_1] at hu
        omega
      · rw [List.mem_append, List.mem_range'_1, h.registered w]
        by_cases hw : p.started ≤ w ∧ w < p.started + k
        · rw [hnew w hw.1 hw.2]
          exact ⟨fun _ => ⟨hw.2, rfl⟩, fun _ => Or.inr hw⟩
        · obtain ⟨dr, wk, hcell⟩ := hold w hw
          rw [hcell]
          simp only [hw, or_false]
          exact ⟨fun hc => ⟨by omega, hc.2⟩, fun hc => ⟨by omega, hc.2⟩⟩
  by_cases he : ∃ w, a = .workerExited w
  · obtain ⟨w, rfl⟩ := he
    obtain ⟨⟨hlt, hpc⟩, -⟩ := ha
    have hw : w ∈ p.workers := (h.registered w).mpr ⟨hlt, by rw [hpc]; rfl⟩
    have hfresh : p.started ∉ p.workers := fun hc => by
      have := ((h.registered _).mp hc).1
      omega
    simp only [next, workerExited_eq hw]
    split
    · refine ⟨?_, fun v => ?_⟩
      · refine List.nodup_append.mpr ⟨h.nodup.erase w, List.nodup_singleton _, ?_⟩
        intro v hv u hu
        rw [List.mem_singleton] at hu
        rintro rfl
        exact hfresh (List.mem_of_mem_erase (hu ▸ hv))
      · simp only [goto, setWorker, List.mem_append, List.mem_singleton, h.nodup.mem_erase_iff,
          h.registered v, update_apply]
        grind [SenderWorkerPc.hasLeft]
    · refine ⟨h.nodup.erase w, fun v => ?_⟩
      simp only [goto, setWorker, h.nodup.mem_erase_iff, h.registered v, update_apply]
      grind [SenderWorkerPc.hasLeft]
  · have hframe : (p.next now a).workers = p.workers ∧ (p.next now a).started = p.started :=
      workers_next (fun d hd => hr ⟨d, hd⟩) (fun w hw => he ⟨w, hw⟩)
    rw [hframe.1, hframe.2]
    refine ⟨h.nodup, fun w => ?_⟩
    rw [h.registered w]
    refine and_congr_right fun hlt => ?_
    cases a
    case reconcile d => exact absurd ⟨d, rfl⟩ hr
    case workerExited w => exact absurd ⟨w, rfl⟩ he
    case pause =>
      simp only [next, pause]
      split
      · rfl
      · rw [wakeAll_pc]
    case resumeRun =>
      simp only [next, resumeRun]
      split <;> rfl
    case stopMark =>
      change _ ↔ ((wakeAll _).worker w).pc.hasLeft = false
      rw [wakeAll_pc]
      rfl
    all_goals first
      | rfl
      | (simp only [Enabled, At, next, goto, setWorker, broadcast, update_apply] at ha ⊢
         grind [SenderWorkerPc.hasLeft])

/-- What a full buffer and a position in `processBatch` say about the other flags. -/
def CellInOrder (c : SenderWorker) : Prop :=
  (c.work ≠ none → c.busy = true) ∧
    (c.pc.isProcessing = true → c.busy = true ∧ c.work = none)

/-- The flags of every worker stay in order. -/
theorem WellFormed.cellInOrder_next (h : p.WellFormed) (ha : p.Enabled now a) (v : ℕ) :
    CellInOrder ((p.next now a).worker v) := by
  have hv : CellInOrder (p.worker v) := ⟨h.buffer v, h.processing v⟩
  cases a
  case reconcile d =>
    rw [next]
    rcases reconcile_worker p d v with hcell | ⟨dr, wk, hcell⟩
    · rw [hcell]
      simp [CellInOrder, SenderWorkerPc.isProcessing]
    · rw [hcell]
      exact hv
  case workerExited w =>
    obtain ⟨⟨hlt, hpc⟩, -⟩ := ha
    have hw : w ∈ p.workers := (h.registered w).mpr ⟨hlt, by rw [hpc]; rfl⟩
    simp only [next, workerExited_eq hw]
    split <;>
    · simp only [goto, setWorker, update_apply, CellInOrder] at hv ⊢
      grind [SenderWorkerPc.isProcessing]
  case pause =>
    simp only [next, pause]
    split
    · exact hv
    · simpa [CellInOrder] using hv
  case resumeRun =>
    simp only [next, resumeRun]
    split <;> exact hv
  case stopMark =>
    change CellInOrder ((wakeAll _).worker v)
    simpa [CellInOrder, broadcast] using hv
  case intakeSend b w =>
    obtain ⟨-, hbusy, -, hproc⟩ := h.sending b w ha.1
    simp only [next, setWorker, update_apply, CellInOrder] at hv ⊢
    grind
  all_goals first
    | exact hv
    | (simp only [Enabled, At, next, goto, setWorker, broadcast, update_apply, CellInOrder] at ha hv ⊢
       grind [SenderWorkerPc.isProcessing])

/-- A broadcast wakes the intake only out of a wait. -/
theorem broadcast_eq_sending {pc : IntakePc} {b : Batch} {w : ℕ} :
    pc.broadcast = .sending b w ↔ pc = .sending b w := by
  cases pc <;> simp [IntakePc.broadcast]

/-- The intake is inside the hand-off exactly while it holds `p.mu`. -/
theorem WellFormed.muHeld_next (h : p.WellFormed) (ha : p.Enabled now a) :
    (p.next now a).muHeld = true ↔ ∃ b w, (p.next now a).intake = .sending b w := by
  have hm := h.muHeld
  cases a
  case reconcile d =>
    cases hstop : p.stopping with
    | true => simpa only [next, reconcile_of_stopping hstop] using hm
    | false =>
      obtain ⟨k, cell, joined, heq, -, -⟩ := exists_reconcile_eq hstop d
      simpa only [next, heq, broadcast_eq_sending] using hm
  case workerExited w =>
    obtain ⟨⟨hlt, hpc⟩, -⟩ := ha
    have hw : w ∈ p.workers := (h.registered w).mpr ⟨hlt, by rw [hpc]; rfl⟩
    simp only [next, workerExited_eq hw]
    split <;> simpa only [goto, setWorker, broadcast_eq_sending] using hm
  case pause =>
    simp only [next, pause]
    split <;> exact hm
  case resumeRun =>
    simp only [next, resumeRun]
    split <;> exact hm
  case stopMark => simpa only [next, markStopping, broadcast, wakeAll, broadcast_eq_sending] using hm
  case clearBusy w =>
    simpa only [next, setWorker, broadcast, broadcast_eq_sending] using hm
  all_goals first
    | exact hm
    | (simp only [Enabled, next, setWorker] at ha hm ⊢
       grind)

/-- The buffer the intake sends into while it holds `p.mu` stays empty. -/
theorem WellFormed.sending_next (h : p.WellFormed) (ha : p.Enabled now a) {b : Batch} {w : ℕ}
    (hs : (p.next now a).intake = .sending b w) :
    w ∈ (p.next now a).workers ∧ ((p.next now a).worker w).busy = true ∧
      ((p.next now a).worker w).work = none ∧
      ((p.next now a).worker w).pc.isProcessing = false := by
  have hold := h.sending b w
  have hm := h.muHeld
  have hreg := h.registered
  cases a
  case reconcile d =>
    exfalso
    cases hstop : p.stopping with
    | true =>
      simp only [next, reconcile_of_stopping hstop, Enabled] at hs ha
      simp [hm.mpr ⟨b, w, hs⟩] at ha
    | false =>
      obtain ⟨k, cell, joined, heq, -, -⟩ := exists_reconcile_eq hstop d
      simp only [next, heq, broadcast_eq_sending, Enabled] at hs ha
      simp [hm.mpr ⟨b, w, hs⟩] at ha
  case workerExited v =>
    exfalso
    obtain ⟨⟨hlt, hpc⟩, hfree⟩ := ha
    have hv : v ∈ p.workers := (h.registered v).mpr ⟨hlt, by rw [hpc]; rfl⟩
    have hs' : p.intake = .sending b w := by
      simp only [next, workerExited_eq hv] at hs
      split at hs <;> simpa only [goto, setWorker, broadcast_eq_sending] using hs
    simp [hm.mpr ⟨b, w, hs'⟩] at hfree
  case pause =>
    simp only [next, pause] at hs ⊢
    split at hs
    · rename_i hc
      rw [if_pos hc]
      exact hold hs
    · rename_i hc
      rw [if_neg hc]
      refine ⟨(hold hs).1, ?_⟩
      simpa only [wakeAll_busy, wakeAll_work, wakeAll_pc] using (hold hs).2
  case resumeRun =>
    simp only [next, resumeRun] at hs ⊢
    split at hs <;> exact hold hs
  case stopMark =>
    simp only [next, markStopping, broadcast, wakeAll, broadcast_eq_sending, Enabled] at hs ha
    simp [hm.mpr ⟨b, w, hs⟩] at ha
  case intakeAssign b' v =>
    obtain ⟨-, -, hav⟩ := ha
    obtain ⟨rfl, rfl⟩ : b' = b ∧ v = w := by simpa [next] using hs
    have hmem := List.mem_of_find?_eq_some hav
    have hfree := List.find?_some hav
    simp only [Bool.not_eq_true', Bool.or_eq_false_iff] at hfree
    have hbuf := h.buffer v
    have hproc := h.processing v
    simp only [next, setWorker, update_self]
    refine ⟨hmem, trivial, ?_, ?_⟩
    · by_contra hc
      simp [hbuf hc] at hfree
    · by_contra hc
      simp [(hproc (by simpa using hc)).1] at hfree
  case clearBusy v =>
    simp only [next, setWorker, broadcast, broadcast_eq_sending, Enabled] at hs ha
    simp [hm.mpr ⟨b, w, hs⟩] at ha
  all_goals first
    | exact hold hs
    | (simp only [Enabled, At, next, goto, setWorker, update_apply] at ha hs ⊢
       grind [SenderWorkerPc.isProcessing, SenderWorkerPc.hasLeft])

/-- **Every action keeps the pool in order.** -/
theorem WellFormed.next (h : p.WellFormed) (ha : p.Enabled now a) :
    (p.next now a).WellFormed where
  nodup := (h.registration_next ha).1
  registered := (h.registration_next ha).2
  buffer v := (h.cellInOrder_next ha v).1
  processing v := (h.cellInOrder_next ha v).2
  sending _ _ hs := h.sending_next ha hs
  muHeld := h.muHeld_next ha

/-- A pool that has just been started is in order. -/
theorem wellFormed_startSenderPool (retry : SenderRetryConfig) (n : ℕ) :
    (startSenderPool retry n).WellFormed := by
  have hempty : (empty retry).WellFormed :=
    { nodup := List.nodup_nil
      registered := fun w => by simp [empty]
      buffer := fun w => by simp [empty]
      processing := fun w => by simp [empty, SenderWorkerPc.isProcessing]
      sending := fun b w => by simp [empty]
      muHeld := by simp [empty] }
  by_cases hn : 1 ≤ n
  · have hask : (empty retry).Enabled 0 (.reconcile n) := ⟨hn, rfl⟩
    exact hempty.next hask
  · obtain rfl : n = 0 := by omega
    exact hempty

end SenderPool

end IngestionLab
