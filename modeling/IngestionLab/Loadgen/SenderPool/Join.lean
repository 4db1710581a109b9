import IngestionLab.Loadgen.SenderPool.Shutdown

/-!
# The end of the sender pool

`stop` returns a channel that is closed when the intake and every worker have ended.
What makes that true is the wait group: it counts the workers that have not exited,
replacements included, and once the pool is marked stopping none is added.

* `IngestionLab.SenderPool.Joining`: what the wait group counts and what the goroutine
  of `stop` has seen; every action keeps it (`IngestionLab.SenderPool.Joining.next`).
* `IngestionLab.SenderPool.Joining.exited_of_joined`: **once the channel is closed every
  worker has exited**.
* `IngestionLab.SenderPool.not_enabled_of_joined`: from then on no goroutine of the pool
  has anything left to do.
-/

namespace IngestionLab

open Function

namespace SenderPool

variable {p : SenderPool} {w d now : ℕ} {a : Action}

/-- Not exited yet, as a number. -/
def alive (c : SenderWorker) : ℕ := if c.pc = .exited then 0 else 1

/-- **What the wait group and the goroutine of `stop` say**: the group counts the
workers that have not exited; whoever waits for the workers has seen the intake end;
and the returned channel is closed only when the group is empty. -/
structure Joining (p : SenderPool) : Prop where
  wg : p.wg = Cells.total alive p.worker p.started
  intake : p.stop = .waiting ∨ p.stop = .joined → p.intake = .exited
  joined : p.stop = .joined → p.wg = 0

/-- Waking lets no one exit. -/
theorem total_alive_wakeAll (p : SenderPool) (n : ℕ) :
    Cells.total alive p.wakeAll.worker n = Cells.total alive p.worker n :=
  Cells.total_congr fun v _ => by rw [alive, alive, wakeAll_pc]

/-- The wait group keeps counting the workers that have not exited. -/
theorem Joining.wg_next (h : p.Joining) (hw : p.WellFormed) (ha : p.Enabled now a) :
    (p.next now a).wg = Cells.total alive (p.next now a).worker (p.next now a).started := by
  have hwg := h.wg
  cases a
  case reconcile d =>
    cases hstop : p.stopping with
    | true => rwa [next, reconcile_of_stopping hstop]
    | false =>
      obtain ⟨k, cell, joined, heq, hnew, hold⟩ := exists_reconcile_eq hstop d
      simp only [next, heq]
      rw [hwg, Cells.total, Cells.total, Finset.sum_range_add]
      congr 1
      · refine Finset.sum_congr rfl fun v hv => ?_
        obtain ⟨dr, wk, hcell⟩ := hold v (by have := Finset.mem_range.mp hv; omega)
        rw [hcell, alive, alive]
      · rw [Finset.sum_congr rfl fun v hv => by
          rw [hnew _ (Nat.le_add_right ..) (by have := Finset.mem_range.mp hv; omega)]]
        simp [alive]
  case workerExited w =>
    obtain ⟨⟨hlt, hpc⟩, -⟩ := ha
    have hmem : w ∈ p.workers := (hw.registered w).mpr ⟨hlt, by rw [hpc]; rfl⟩
    simp only [next, workerExited_eq hmem]
    split
    · simp only [goto, setWorker]
      rw [Cells.total_update_of_eq, Cells.total_succ, Cells.total_update_of_le le_rfl, update_self,
        hwg]
      · rfl
      · rw [update_of_ne (by omega)]
        simp [alive, hpc]
    · simp only [goto, setWorker]
      rw [Cells.total_update_of_eq, hwg]
      simp [alive, hpc]
  case releaseWg w =>
    obtain ⟨hlt, hpc⟩ := ha
    have hmove : Cells.total alive (update p.worker w { p.worker w with pc := .exited }) p.started +
        alive (p.worker w) = Cells.total alive p.worker p.started + 0 :=
      Cells.total_update alive p.worker _ hlt
    have hone : alive (p.worker w) = 1 := by simp [alive, hpc]
    simp only [hone, ← hwg] at hmove
    simp only [next, goto, setWorker]
    omega
  case pause =>
    simp only [next, pause]
    split
    · exact hwg
    · exact hwg.trans (total_alive_wakeAll { p with resume := some p.gates, gates := p.gates + 1 } _).symm
  case resumeRun =>
    simp only [next, resumeRun]
    split <;> exact hwg
  case stopMark => exact hwg.trans (total_alive_wakeAll ({ p with stopping := true }.broadcast) _).symm
  case attemptReturns w b n outcome =>
    obtain ⟨⟨hlt, hpc⟩, -⟩ := ha
    simp only [next, goto, setWorker]
    rw [Cells.total_update_of_eq, hwg]
    cases outcome <;> simp [alive, hpc]
  all_goals first
    | exact hwg
    | (simp only [Enabled, At] at ha
       simp only [next, goto, setWorker, broadcast]
       rw [Cells.total_update_of_eq, hwg]
       simp [alive, ha])

/-- **A stopping pool starts no worker**: what its wait group counts only goes down. -/
theorem wg_next_le (hs : p.stopping = true) : (p.next now a).wg ≤ p.wg := by
  cases a
  case reconcile d => rw [next, reconcile_of_stopping hs]
  case workerExited w =>
    by_cases hw : w ∈ p.workers
    · simp only [next, workerExited_eq hw, hs]
      exact le_rfl
    · simp only [next, workerExited, if_neg hw]
      exact le_rfl
  case pause =>
    obtain ⟨_, _, _, h⟩ := pause_frame p
    rw [next, h]
  case resumeRun =>
    obtain ⟨_, _, h⟩ := resumeRun_frame p
    rw [next, h]
  case releaseWg w => exact Nat.sub_le ..
  all_goals exact le_rfl

/-- An intake that has ended stays ended. -/
theorem intake_next_of_exited (h : p.intake = .exited) (ha : p.Enabled now a) :
    (p.next now a).intake = .exited := by
  cases a
  case reconcile d =>
    cases hstop : p.stopping with
    | true => rwa [next, reconcile_of_stopping hstop]
    | false =>
      obtain ⟨k, cell, joined, heq, -, -⟩ := exists_reconcile_eq hstop d
      rw [next, heq, h]
      rfl
  case workerExited w =>
    by_cases hw : w ∈ p.workers
    · simp only [next, workerExited_eq hw, h]
      split <;> rfl
    · simpa only [next, goto, setWorker, workerExited, if_neg hw] using h
  case pause =>
    obtain ⟨_, _, _, heq⟩ := pause_frame p
    rwa [next, heq]
  case resumeRun =>
    obtain ⟨_, _, heq⟩ := resumeRun_frame p
    rwa [next, heq]
  case stopMark => simp [next, markStopping, broadcast, wakeAll, h, IntakePc.broadcast]
  case clearBusy w => simp [next, broadcast, setWorker, h, IntakePc.broadcast]
  all_goals first
    | exact h
    | (simp only [Enabled, h] at ha
       simp at ha)

/-- `stop` moves by its own actions only. -/
theorem stop_next (h1 : a ≠ .stopCancel) (h2 : a ≠ .stopLock) (h3 : a ≠ .stopMark)
    (h4 : a ≠ .stopReturn) (h5 : a ≠ .stopIntakeDone) (h6 : a ≠ .stopJoined) :
    (p.next now a).stop = p.stop := by
  cases a
  case reconcile d =>
    obtain ⟨_, _, _, _, _, _, _, h⟩ := reconcile_frame p d
    rw [next, h]
  case workerExited w =>
    obtain ⟨_, _, _, _, _, h⟩ := workerExited_frame p w
    simp only [next, goto, setWorker, h]
  case pause =>
    obtain ⟨_, _, _, h⟩ := pause_frame p
    rw [next, h]
  case resumeRun =>
    obtain ⟨_, _, h⟩ := resumeRun_frame p
    rw [next, h]
  case stopCancel => exact absurd rfl h1
  case stopLock => exact absurd rfl h2
  case stopMark => exact absurd rfl h3
  case stopReturn => exact absurd rfl h4
  case stopIntakeDone => exact absurd rfl h5
  case stopJoined => exact absurd rfl h6
  all_goals rfl

/-- **Every action keeps what the join rests on.** -/
theorem Joining.next (h : p.Joining) (hw : p.WellFormed) (hb : p.Boundary)
    (ha : p.Enabled now a) : (p.next now a).Joining := by
  refine ⟨h.wg_next hw ha, fun hs => ?_, fun hs => ?_⟩
  · refine intake_next_of_exited ?_ ha
    by_cases h5 : a = .stopIntakeDone
    · subst h5
      exact ha.2
    by_cases h6 : a = .stopJoined
    · subst h6
      exact h.intake (Or.inl ha.1)
    refine h.intake ?_
    by_cases h1 : a = .stopCancel
    · subst h1
      exact absurd hs (by simp [SenderPool.next])
    by_cases h2 : a = .stopLock
    · subst h2
      exact absurd hs (by simp [SenderPool.next])
    by_cases h3 : a = .stopMark
    · subst h3
      exact absurd hs (by simp [SenderPool.next])
    by_cases h4 : a = .stopReturn
    · subst h4
      exact absurd hs (by simp [SenderPool.next])
    rwa [stop_next h1 h2 h3 h4 h5 h6] at hs
  · by_cases h6 : a = .stopJoined
    · subst h6
      exact ha.2
    have hold : p.stop = .joined := by
      by_cases h1 : a = .stopCancel
      · subst h1
        exact absurd hs (by rintro ⟨⟩)
      by_cases h2 : a = .stopLock
      · subst h2
        exact absurd hs (by rintro ⟨⟩)
      by_cases h3 : a = .stopMark
      · subst h3
        exact absurd hs (by rintro ⟨⟩)
      by_cases h4 : a = .stopReturn
      · subst h4
        exact absurd hs (by rintro ⟨⟩)
      by_cases h5 : a = .stopIntakeDone
      · subst h5
        exact absurd hs (by rintro ⟨⟩)
      rwa [stop_next h1 h2 h3 h4 h5 h6] at hs
    have hzero := h.joined hold
    have hle : (p.next now a).wg ≤ p.wg := wg_next_le (hb.marked.mpr (by rw [hold]; rfl))
    omega

/-- In a pool that has just been started nobody has stopped anything, and nothing is
joined yet. -/
theorem boundary_joining_startSenderPool (retry : SenderRetryConfig) (n : ℕ) :
    (startSenderPool retry n).Boundary ∧ (startSenderPool retry n).Joining := by
  have hj : (empty retry).Joining := ⟨rfl, fun h => absurd h (by simp [empty]), nofun⟩
  have hb : (empty retry).Boundary := by
    refine ⟨?_, ?_, ?_, ?_, ?_⟩ <;> simp [empty, IntakePc.holdsIntakeMu, StopPc.holdsIntakeMu,
      StopPc.hasMarked, StopPc.hasLocked]
  by_cases hn : 1 ≤ n
  · have hask : (empty retry).Enabled 0 (.reconcile n) := ⟨hn, rfl⟩
    exact ⟨hb.next hask, hj.next (wellFormed_startSenderPool retry 0) hb hask⟩
  · obtain rfl : n = 0 := by omega
    exact ⟨hb, hj⟩

/-! ### The end -/

/-- **Once the channel `stop` returned is closed, every worker has exited.** -/
theorem Joining.exited_of_joined (h : p.Joining) (hs : p.stop = .joined) (hw : w < p.started) :
    (p.worker w).pc = .exited := by
  have hzero := h.wg.symm.trans (h.joined hs)
  have hall := (Finset.sum_eq_zero_iff.mp hzero) w (Finset.mem_range.mpr hw)
  by_contra hne
  exact absurd hall (by simp [alive, hne])

/-- **Once the channel `stop` returned is closed, no goroutine of the pool has anything
left to do**: no receipt, no attempt, no batch counted as delivered. -/
theorem not_enabled_of_joined (h : p.Joining) (hs : p.stop = .joined) (ha : a.isOwn = true) :
    ¬p.Enabled now a := by
  intro hen
  have hi := h.intake (Or.inr hs)
  have hx : ∀ {w pc}, p.At w pc → pc = .exited := fun hat =>
    hat.2.symm.trans (h.exited_of_joined hs hat.1)
  cases a
  case reconcile d => exact absurd ha nofun
  case reconcileJoined w => exact absurd ha nofun
  case pause => exact absurd ha nofun
  case resumeRun => exact absurd ha nofun
  case cancel => exact absurd ha nofun
  case stopReturn => exact absurd (hs.symm.trans hen) nofun
  case stopCancel => exact absurd (hs.symm.trans hen) nofun
  case stopLock => exact absurd (hs.symm.trans hen.1) nofun
  case stopMark => exact absurd (hs.symm.trans hen.1) nofun
  case stopIntakeDone => exact absurd (hs.symm.trans hen.1) nofun
  case stopJoined => exact absurd (hs.symm.trans hen.1) nofun
  all_goals first
    | exact absurd (hi.symm.trans hen) nofun
    | exact absurd (hi.symm.trans hen.1) nofun
    | exact absurd (hx hen) nofun
    | exact absurd (hx hen.1) nofun

end SenderPool

end IngestionLab
