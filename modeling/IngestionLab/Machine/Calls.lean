import IngestionLab.Machine.Cells
import IngestionLab.Machine.Run

/-!
# Calls that may be lost

Callers call a server, which may serve a call once, and a caller may hear that its call has
been served, once. Between the two a call or what is said of it may be lost, or the caller
may have given up: nothing makes it go on. What a call is worth is an element of a
commutative monoid, and both sides keep a total.

In every state the total of the server is that of the callers and what they have not heard
of (`IngestionLab.Calls.served_eq`).
-/

namespace IngestionLab

open Function

/-- **What has become of a call**: what it was worth where it has been served, and whether its
caller has heard of that. -/
@[ext] structure Fate (M : Type*) where
  effect : Option M := none
  heard : Bool := false

/-- What was served and has not been heard of. -/
def Fate.unheard {M : Type*} [Zero M] (f : Fate M) : M := if f.heard then 0 else f.effect.getD 0

/-- **Callers and a server.** -/
@[ext] structure Calls (M : Type*) where
  call : ℕ → Fate M := fun _ => {}
  opened : ℕ := 0
  served : M
  heard : M

namespace Calls

variable {M : Type*} [AddCommMonoid M]

/-- Nothing has been called for. -/
def start : Calls M := { served := 0, heard := 0 }

inductive Action (M : Type*)
  | call
  | serve (k : ℕ) (x : M)
  | hear (k : ℕ) (x : M)

/-- **The machine**: a call is served once, and is heard of once and as it was served. -/
def machine : Machine (Calls M) (Action M) where
  Enabled s
    | .call => True
    | .serve k _ => k < s.opened ∧ (s.call k).effect = none
    | .hear k x => k < s.opened ∧ (s.call k).effect = some x ∧ (s.call k).heard = false
  next s
    | .call => { s with opened := s.opened + 1 }
    | .serve k x =>
      { s with
        call := update s.call k { s.call k with effect := some x }
        served := s.served + x }
    | .hear k x =>
      { s with
        call := update s.call k { s.call k with heard := true }
        heard := s.heard + x }

/-- What has been served and not been heard of. -/
def unheard (s : Calls M) : M := Cells.total Fate.unheard s.call s.opened

/-- **The totals agree**, but for what has not been heard of. -/
structure Balanced (s : Calls M) : Prop where
  fresh : ∀ k, s.opened ≤ k → s.call k = {}
  heard : ∀ k, (s.call k).heard = true → (s.call k).effect ≠ none
  served : s.served = s.heard + s.unheard

variable {s t : Calls M} {a : Action M}

/-- **Every step keeps the balance.** -/
theorem Balanced.next (h : s.Balanced) (ha : machine.Enabled s a) : (machine.next s a).Balanced := by
  cases a with
  | call =>
    refine ⟨fun k hk => h.fresh k (Nat.le_of_succ_le hk), h.heard, ?_⟩
    have hunheard : (machine.next s .call).unheard = s.unheard + (s.call s.opened).unheard :=
      Cells.total_succ
    rw [hunheard, h.fresh _ le_rfl]
    exact h.served.trans (congrArg (s.heard + ·) (add_zero _).symm)
  | serve k x =>
    obtain ⟨hk, hnone⟩ := ha
    have hheard : (s.call k).heard = false :=
      Bool.eq_false_iff.mpr fun hheard => h.heard k hheard hnone
    refine ⟨fun j hj => ?_, fun j hj => ?_, ?_⟩
    · rw [machine] at hj ⊢
      simp only [update_of_ne (show j ≠ k by rintro rfl; exact absurd hk (not_lt.mpr hj))]
      exact h.fresh j hj
    · rw [machine] at hj ⊢
      rcases eq_or_ne j k with rfl | hne
      · simp
      · simp only [update_of_ne hne] at hj ⊢
        exact h.heard j hj
    · have htotal := Cells.total_update Fate.unheard s.call { s.call k with effect := some x } hk
      have hbefore : (s.call k).unheard = 0 := by simp [Fate.unheard, hnone]
      have hafter : ({ s.call k with effect := some x } : Fate M).unheard = x := by
        simp [Fate.unheard, hheard]
      rw [hbefore, hafter, add_zero] at htotal
      calc s.served + x = s.heard + (s.unheard + x) := by rw [h.served, add_assoc]
        _ = s.heard + (machine.next s (.serve k x)).unheard := congrArg (s.heard + ·) htotal.symm
  | hear k x =>
    obtain ⟨hk, hsome, hheard⟩ := ha
    refine ⟨fun j hj => ?_, fun j hj => ?_, ?_⟩
    · rw [machine] at hj ⊢
      simp only [update_of_ne (show j ≠ k by rintro rfl; exact absurd hk (not_lt.mpr hj))]
      exact h.fresh j hj
    · rw [machine] at hj ⊢
      rcases eq_or_ne j k with rfl | hne
      · simp [hsome]
      · simp only [update_of_ne hne] at hj ⊢
        exact h.heard j hj
    · have htotal := Cells.total_update Fate.unheard s.call { s.call k with heard := true } hk
      have hbefore : (s.call k).unheard = x := by simp [Fate.unheard, hheard, hsome]
      have hafter : ({ s.call k with heard := true } : Fate M).unheard = 0 := by simp [Fate.unheard]
      rw [hbefore, hafter, add_zero] at htotal
      calc s.served = s.heard + s.unheard := h.served
        _ = s.heard + ((machine.next s (.hear k x)).unheard + x) := congrArg (s.heard + ·) htotal.symm
        _ = s.heard + x + (machine.next s (.hear k x)).unheard := by rw [add_comm _ x, add_assoc]

theorem balanced_start : (start : Calls M).Balanced :=
  ⟨fun _ _ => rfl, by rintro k ⟨⟩, (add_zero 0).symm⟩

/-- **What is served is heard of or not**, in every state. -/
theorem served_eq (h : machine.Reachable start s) : s.served = s.heard + s.unheard :=
  (h.invariant (fun _ _ hs ha => hs.next ha) balanced_start).served

end Calls

end IngestionLab
