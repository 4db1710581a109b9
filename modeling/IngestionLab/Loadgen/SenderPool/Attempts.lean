import IngestionLab.Loadgen.SenderPool.Moves

/-!
# What the attempts credit

Between an attempt that succeeds and the count of its batch a worker stands at `settled`. A
pool is therefore credited with what it has counted and with what its workers are about to
count (`IngestionLab.SenderPool.credited`), and that grows by the attempts that succeed and
by nothing else (`IngestionLab.SenderPool.credited_next`).

A worker is in an attempt only since an action that started it
(`IngestionLab.SenderPool.attempting_next`).
-/

namespace IngestionLab

open Function

namespace SenderWorkerPc

/-- The transactions of a batch that has been delivered and is still to be counted. -/
def uncounted : SenderWorkerPc → ℕ
  | settled batch true => batch.length
  | _ => 0

/-- The batch of the attempt that is under way. -/
def attempting? : SenderWorkerPc → Option Batch
  | attempting batch _ => some batch
  | _ => none

end SenderWorkerPc

namespace SenderPool

variable {p : SenderPool} {now v w : ℕ} {a : Action}

/-! ### The positions of the workers -/

/-- Where the workers stand. -/
def positions (p : SenderPool) (v : ℕ) : SenderWorkerPc := (p.worker v).pc

/-- An action that moves no worker leaves all of them where they are. -/
theorem positions_next_of_none (hu : p.Unstarted) (hm : a.move now = none) :
    (p.next now a).positions = p.positions := by
  funext v
  refine pc_next_of_ne hu fun src dst hc => ?_
  rw [hm] at hc
  cases hc

/-- An action that moves a worker leaves the others where they are. -/
theorem positions_next_of_some {src dst : SenderWorkerPc} (hu : p.Unstarted)
    (ha : p.Enabled now a) (hm : a.move now = some (w, src, dst)) :
    (p.next now a).positions = update p.positions w dst := by
  funext v
  rcases eq_or_ne v w with rfl | hv
  · rw [update_self]
    exact (pc_of_move ha hm).2.2
  · rw [update_of_ne hv]
    refine pc_next_of_ne hu fun src' dst' hc => ?_
    rw [hm] at hc
    exact hv (Prod.mk.inj (Option.some.inj hc)).1.symm

/-! ### The credit of a pool -/

/-- The transactions that have been delivered and are still to be counted. -/
def uncounted (p : SenderPool) : ℕ :=
  Cells.total SenderWorkerPc.uncounted p.positions p.started

/-- **What a pool is credited with**: what it has counted and what it is about to. -/
def credited (p : SenderPool) : ℕ := p.counted + p.uncounted

/-- The transactions of an attempt that succeeds in an action. -/
def Action.succeeded : Action → ℕ
  | .attemptReturns _ batch _ .success => batch.length
  | _ => 0

/-- A worker that moves takes what it is about to count from an attempt that succeeds, and
leaves it where it is counted. -/
theorem uncounted_of_move {src dst : SenderWorkerPc} (hm : a.move now = some (w, src, dst)) :
    dst.uncounted + a.delivered = src.uncounted + a.succeeded := by
  cases a
  case attemptReturns v batch attempt outcome =>
    cases outcome
    all_goals
      obtain ⟨rfl, rfl, rfl⟩ := by
        simpa only [Action.move, Option.some.injEq, Prod.mk.injEq] using hm
      simp [SenderWorkerPc.uncounted, Action.delivered, Action.succeeded]
  case settle v batch delivered =>
    obtain ⟨rfl, rfl, rfl⟩ := by
      simpa only [Action.move, Option.some.injEq, Prod.mk.injEq] using hm
    cases delivered <;> simp [SenderWorkerPc.uncounted, Action.delivered, Action.succeeded]
  all_goals
    simp only [Action.move, Option.some.injEq, Prod.mk.injEq, reduceCtorEq] at hm
  all_goals
    obtain ⟨rfl, rfl, rfl⟩ := hm
    rfl

/-- An action that moves no worker delivers nothing. -/
theorem delivered_of_move (hm : a.move now = none) : a.delivered = 0 ∧ a.succeeded = 0 := by
  cases a
  case attemptReturns v batch attempt outcome => cases outcome <;> cases hm
  case settle v batch delivered => cases hm
  all_goals exact ⟨rfl, rfl⟩

/-- What is about to be counted does not depend on the workers an action starts. -/
theorem uncounted_eq_total (hu : p.Unstarted) {n : ℕ} (hn : p.started ≤ n) :
    Cells.total SenderWorkerPc.uncounted p.positions n = p.uncounted := by
  obtain ⟨k, rfl⟩ := Nat.exists_eq_add_of_le hn
  refine Cells.total_add_of_eq_zero fun v hv _ => ?_
  rw [positions, hu v hv]
  rfl

/-- **The credit grows by the attempts that succeed**, and by nothing else. -/
theorem credited_next (hu : p.Unstarted) (ha : p.Enabled now a) :
    (p.next now a).credited = p.credited + a.succeeded := by
  have hstarted := started_le_next p now a
  have huncounted : (p.next now a).uncounted + a.delivered = p.uncounted + a.succeeded := by
    rw [← uncounted_eq_total hu hstarted, uncounted]
    cases hm : a.move now with
    | none =>
      obtain ⟨hdelivered, hsucceeded⟩ := delivered_of_move hm
      rw [positions_next_of_none hu hm, hdelivered, hsucceeded]
    | some x =>
      obtain ⟨w, src, dst⟩ := x
      obtain ⟨hw, hsrc, -⟩ := pc_of_move ha hm
      have hmove := uncounted_of_move hm
      have htotal := Cells.total_update SenderWorkerPc.uncounted p.positions dst
        (lt_of_lt_of_le hw hstarted)
      rw [positions_next_of_some hu ha hm]
      rw [show p.positions w = src from hsrc] at htotal
      omega
  rw [credited, credited, counted_next]
  omega

/-- A pool that has just been started is credited with nothing. -/
theorem credited_startSenderPool (retry : SenderRetryConfig) (n : ℕ) :
    (startSenderPool retry n).credited = 0 := by
  obtain ⟨_, _, _, _, _, _, _, h⟩ := reconcile_frame (empty retry) n
  have hcounted : (startSenderPool retry n).counted = 0 := by
    rw [startSenderPool, h]
    rfl
  have huncounted : (startSenderPool retry n).uncounted = 0 := by
    rw [uncounted, Cells.total]
    refine Finset.sum_eq_zero fun v _ => ?_
    have hpc : (startSenderPool retry n).positions v = .loop :=
      Unstarted.pc_reconcile (p := empty retry) (fun _ _ => rfl) n v
    rw [hpc]
    rfl
  rw [credited, hcounted, huncounted]

/-! ### The attempts under way -/

/-- A worker in an attempt was in it before, or has started it just now. -/
theorem attempting_next (hu : p.Unstarted) (ha : p.Enabled now a) {batch : Batch}
    (h : ((p.next now a).positions v).attempting? = some batch) :
    (p.positions v).attempting? = some batch ∨ ∃ attempt, a = .startAttempt v batch attempt := by
  cases hm : a.move now with
  | none =>
    rw [positions_next_of_none hu hm] at h
    exact Or.inl h
  | some x =>
    obtain ⟨w, src, dst⟩ := x
    rw [positions_next_of_some hu ha hm] at h
    rcases eq_or_ne v w with rfl | hv
    · rw [update_self] at h
      cases a
      case startAttempt v' batch' attempt =>
        obtain ⟨rfl, rfl, rfl⟩ := by
          simpa only [Action.move, Option.some.injEq, Prod.mk.injEq] using hm
        obtain rfl := Option.some.inj h
        exact Or.inr ⟨attempt, rfl⟩
      case attemptReturns v' batch' attempt outcome =>
        cases outcome
        all_goals
          obtain ⟨rfl, rfl, rfl⟩ := by
            simpa only [Action.move, Option.some.injEq, Prod.mk.injEq] using hm
          cases h
      all_goals
        simp only [Action.move, Option.some.injEq, Prod.mk.injEq, reduceCtorEq] at hm
      all_goals
        obtain ⟨rfl, rfl, rfl⟩ := hm
        cases h
    · rw [update_of_ne hv] at h
      exact Or.inl h

end SenderPool

end IngestionLab
