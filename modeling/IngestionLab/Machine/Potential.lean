import IngestionLab.Machine.Run
import Mathlib.Algebra.Order.Monoid.Defs
import Mathlib.Algebra.BigOperators.Group.List.Basic

/-!
# Potentials

What the actions of a run gain, added up (`IngestionLab.Machine.gained`), is bounded by
what they are paid and by what was there at the beginning, if this holds of each of them
(`IngestionLab.Machine.gained_add_potential_le`). The potential is what is left to be
gained.
-/

namespace IngestionLab.Machine

variable {σ α M : Type*} {m : Machine σ α} [AddCommMonoid M] {gain : σ → α → M}

variable (m) in
/-- What the actions of a run gain, each read in the state before it. -/
def gained (gain : σ → α → M) : σ → List α → M
  | _, [] => 0
  | s, a :: as => gain s a + gained gain (m.next s a) as

/-- **The potential method**: where an action gains no more than it is paid and the
potential falls by, a run gains no more than all its actions are paid and the potential
there was. -/
theorem gained_add_potential_le [PartialOrder M] [IsOrderedAddMonoid M] {I : σ → Prop}
    {C : σ → α → Prop} {potential : σ → M} {pay : α → M}
    (hkeep : ∀ s a, I s → m.Enabled s a → C s a → I (m.next s a))
    (hstep : ∀ s a, I s → m.Enabled s a → C s a →
      gain s a + potential (m.next s a) ≤ potential s + pay a)
    {s : σ} {as : List α} (hs : I s) (hrun : m.Run s as) (hC : m.Along C s as) :
    m.gained gain s as + potential (m.after s as) ≤ potential s + (as.map pay).sum := by
  induction as generalizing s with
  | nil =>
    rw [gained, zero_add, List.map_nil, List.sum_nil, add_zero]
    exact le_refl _
  | cons a as ih =>
    have hrest := ih (hkeep s a hs hrun.1 hC.1) hrun.2 hC.2
    rw [gained, after_cons, List.map_cons, List.sum_cons, add_assoc]
    calc
      gain s a + (m.gained gain (m.next s a) as + potential (m.after (m.next s a) as))
        ≤ gain s a + (potential (m.next s a) + (as.map pay).sum) :=
          add_le_add le_rfl hrest
      _ = gain s a + potential (m.next s a) + (as.map pay).sum := (add_assoc ..).symm
      _ ≤ potential s + pay a + (as.map pay).sum :=
          add_le_add (hstep s a hs hrun.1 hC.1) le_rfl
      _ = potential s + (pay a + (as.map pay).sum) := add_assoc ..

end IngestionLab.Machine
