import Mathlib.Init

/-!
# Programs that may throw

A program in state-passing style that may throw is a value of `Except σ α`: it returns,
or it throws and leaves the state it had come to. What is proved of one is a pair of
conditions, on what it returns and on what it leaves
(`IngestionLab.Throwing.Meets`), and follows the way the program is put together.
-/

namespace IngestionLab.Throwing

variable {σ α β : Type} {x : Except σ α} {f : α → Except σ β} {Q Q' : α → Prop} {R : β → Prop}
  {E E' : σ → Prop}

/-- **What a program returns meets one condition, what it leaves when it throws another.** -/
def Meets (x : Except σ α) (Q : α → Prop) (E : σ → Prop) : Prop :=
  match x with
  | .ok a => Q a
  | .error s => E s

@[simp] theorem meets_ok {a : α} : Meets (.ok a : Except σ α) Q E ↔ Q a := Iff.rfl

@[simp] theorem meets_pure {a : α} : Meets (pure a : Except σ α) Q E ↔ Q a := Iff.rfl

@[simp] theorem meets_error {s : σ} : Meets (.error s : Except σ α) Q E ↔ E s := Iff.rfl

/-- **One program after another.** -/
theorem Meets.bind (h : Meets x Q E) (hf : ∀ a, Q a → Meets (f a) R E) : Meets (x >>= f) R E := by
  cases x with
  | ok a => exact hf a h
  | error s => exact h

theorem Meets.mono (h : Meets x Q E) (hQ : ∀ a, Q a → Q' a) (hE : ∀ s, E s → E' s) :
    Meets x Q' E' := by
  cases x with
  | ok a => exact hQ a h
  | error s => exact hE s h

/-- What follows matters only where it is reached. -/
theorem Meets.bind_congr {g : α → Except σ β} (h : Meets x Q E) (hfg : ∀ a, Q a → f a = g a) :
    (x >>= f) = x >>= g := by
  cases x with
  | ok a => exact hfg a h
  | error s => rfl

/-- A program that leaves nothing behind returns. -/
theorem Meets.exists_ok (h : Meets x Q fun _ => False) : ∃ a, x = .ok a ∧ Q a := by
  cases x with
  | ok a => exact ⟨a, rfl, h⟩
  | error s => exact h.elim

end IngestionLab.Throwing
