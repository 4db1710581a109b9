import Mathlib.Algebra.BigOperators.Group.List.Basic
import Mathlib.Algebra.GroupWithZero.Nat
import Mathlib.Data.List.Basic

/-!
# A stopwatch

A stopwatch is started and stopped at given times; it keeps the intervals it has run
for (`IngestionLab.Stopwatch.laps`) and, while it runs, when it was last started. The
time it shows is their total length (`IngestionLab.Stopwatch.total`). It says what a
program that measures a time with an accumulator and an open interval is to compute.
-/

namespace IngestionLab

/-- **A stopwatch**: the intervals it has run for, and since when it is running. -/
structure Stopwatch where
  laps : List (ℕ × ℕ) := []
  since : Option ℕ := none
  deriving DecidableEq, Repr

namespace Stopwatch

variable {w : Stopwatch} {t u : ℕ}

/-- Start it. -/
def start (w : Stopwatch) (t : ℕ) : Stopwatch := { w with since := some t }

/-- Stop it, if it is running. -/
def stop (w : Stopwatch) (t : ℕ) : Stopwatch :=
  match w.since with
  | none => w
  | some since => { laps := w.laps ++ [(since, t)], since := none }

/-- The length of the intervals that have ended. -/
def lapTime (w : Stopwatch) : ℕ := (w.laps.map fun lap => lap.2 - lap.1).sum

/-- **The total length** of the intervals it has run for at a time. -/
def total (w : Stopwatch) (t : ℕ) : ℕ := w.lapTime + w.since.elim 0 (t - ·)

/-- Every interval ends after it begins, one after the other, and the open one begins
last, all before a time. -/
def InOrder (w : Stopwatch) (t : ℕ) : Prop :=
  (∀ lap ∈ w.laps, lap.1 ≤ lap.2 ∧ lap.2 ≤ t) ∧
    w.laps.Pairwise (fun lap later => lap.2 ≤ later.1) ∧
      ∀ since ∈ w.since, since ≤ t ∧ ∀ lap ∈ w.laps, lap.2 ≤ since

@[simp] theorem since_start (w : Stopwatch) (t : ℕ) : (w.start t).since = some t := rfl

@[simp] theorem lapTime_start (w : Stopwatch) (t : ℕ) : (w.start t).lapTime = w.lapTime := rfl

@[simp] theorem since_stop (w : Stopwatch) (t : ℕ) : (w.stop t).since = none := by
  rw [stop]
  split
  · assumption
  · rfl

/-- Stopping turns what it shows into time that has ended. -/
theorem lapTime_stop (w : Stopwatch) (t : ℕ) : (w.stop t).lapTime = w.total t := by
  rw [stop, total]
  split
  next hsince => rw [hsince, Option.elim_none, Nat.add_zero]
  next since hsince => simp [hsince, lapTime]

theorem total_of_since_eq_none (h : w.since = none) (t : ℕ) : w.total t = w.lapTime := by
  rw [total, h, Option.elim_none, Nat.add_zero]

theorem inOrder_empty (t : ℕ) : InOrder {} t :=
  ⟨fun _ h => absurd h List.not_mem_nil, List.Pairwise.nil, fun _ h => absurd h nofun⟩

theorem InOrder.mono (h : w.InOrder t) (htu : t ≤ u) : w.InOrder u :=
  ⟨fun lap hlap => ⟨(h.1 lap hlap).1, Nat.le_trans (h.1 lap hlap).2 htu⟩, h.2.1,
    fun since hsince => ⟨Nat.le_trans (h.2.2 since hsince).1 htu, (h.2.2 since hsince).2⟩⟩

theorem InOrder.start (h : w.InOrder t) : (w.start t).InOrder t := by
  refine ⟨h.1, h.2.1, fun since hsince => ?_⟩
  obtain rfl := Option.some.inj hsince
  exact ⟨Nat.le_refl t, fun lap hlap => (h.1 lap hlap).2⟩

/-- It may be stopped at a time not before it was started. -/
theorem InOrder.stop (h : w.InOrder u) (hsince : ∀ since ∈ w.since, since ≤ t) (htu : t ≤ u) :
    (w.stop t).InOrder u := by
  rw [Stopwatch.stop]
  split
  · exact h
  next since hs =>
    obtain ⟨-, hlast⟩ := h.2.2 since hs
    refine ⟨?_, ?_, fun _ hnone => absurd hnone nofun⟩
    · simp only [List.mem_append, List.mem_singleton]
      rintro lap (hlap | rfl)
      · exact h.1 lap hlap
      · exact ⟨hsince since hs, htu⟩
    · refine List.pairwise_append.mpr ⟨h.2.1, List.pairwise_singleton .., ?_⟩
      simp only [List.mem_singleton]
      rintro lap hlap _ rfl
      exact hlast lap hlap

end Stopwatch

end IngestionLab
