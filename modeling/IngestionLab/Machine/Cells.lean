import Mathlib.Algebra.BigOperators.Group.Finset.Basic
import Mathlib.Algebra.Order.BigOperators.Group.Finset
import Mathlib.Data.List.Count

/-!
# Cells under identities

Goroutines hold pointers to the records they work on, also after the record has
left the list it was registered in. The records of one kind are therefore kept
as a function from identities to cells, a cell being changed by
`Function.update`, and a list says which identities are currently registered.

Two ways of adding up such a family are used, and this file says how each
reacts to the change of one cell:

* `IngestionLab.Cells.count`, how many registered identities satisfy a test;
* `IngestionLab.Cells.total`, a sum over all identities below a bound, in any
  commutative monoid – the naturals, to count, or multisets, to say where things
  are.
-/

namespace IngestionLab

namespace Cells

open Function

variable {γ : Type*}

/-! ### Counting registered identities -/

/-- How many of the registered identities hold a cell that passes the test. -/
def count (p : γ → Bool) (cell : ℕ → γ) (ws : List ℕ) : ℕ := ws.countP fun w => p (cell w)

variable {p : γ → Bool} {cell : ℕ → γ} {ws : List ℕ} {w : ℕ} {c : γ}

@[simp] theorem count_nil : count p cell [] = 0 := rfl

theorem count_cons : count p cell (w :: ws) = count p cell ws + (if p (cell w) then 1 else 0) :=
  List.countP_cons ..

@[simp] theorem count_append (vs : List ℕ) :
    count p cell (ws ++ vs) = count p cell ws + count p cell vs :=
  List.countP_append ..

theorem count_congr {cell' : ℕ → γ} (h : ∀ v ∈ ws, p (cell' v) = p (cell v)) :
    count p cell' ws = count p cell ws :=
  List.countP_congr fun v hv => by rw [h v hv]

/-- A narrower test counts less. -/
theorem count_mono {q : γ → Bool} (h : ∀ c, p c = true → q c = true) :
    count p cell ws ≤ count q cell ws :=
  List.countP_mono_left fun _ _ => h _

theorem count_le_length : count p cell ws ≤ ws.length := List.countP_le_length

theorem count_pos : 0 < count p cell ws ↔ ∃ w ∈ ws, p (cell w) = true := by
  simp [count, List.countP_pos_iff]

/-- Changing a cell that is not registered changes no count. -/
theorem count_update_of_notMem (h : w ∉ ws) : count p (update cell w c) ws = count p cell ws :=
  count_congr fun v hv => by rw [update_of_ne (ne_of_mem_of_not_mem hv h)]

/-- Changing a cell within the test, or within its complement, changes no
count. -/
theorem count_update_of_eq (h : p c = p (cell w)) :
    count p (update cell w c) ws = count p cell ws := by
  refine count_congr fun v _ => ?_
  by_cases hv : v = w
  · rw [hv, update_self, h]
  · rw [update_of_ne hv]

/-- Dropping one registered identity. -/
theorem count_erase (p : γ → Bool) (cell : ℕ → γ) (hw : w ∈ ws) :
    count p cell (ws.erase w) + (if p (cell w) then 1 else 0) = count p cell ws := by
  rw [count, count, List.countP_erase, if_congr (and_iff_right hw) rfl rfl]
  by_cases hp : p (cell w) = true
  · have : 0 < ws.countP fun v => p (cell v) := List.countP_pos_iff.mpr ⟨w, hw, hp⟩
    simp only [hp, ↓reduceIte]
    omega
  · simp [hp]

/-- The two halves of a test add up to the number of registered identities. -/
theorem count_add_count_not : count p cell ws + count (fun c => !p c) cell ws = ws.length := by
  induction ws with
  | nil => rfl
  | cons v vs ih =>
    rw [count_cons, count_cons, List.length_cons]
    cases p (cell v) <;> simp <;> omega

/-! ### Summing over all identities -/

section Total

variable {M : Type*} [AddCommMonoid M]

/-- The sum of a quantity over the cells below a bound. -/
def total (f : γ → M) (cell : ℕ → γ) (n : ℕ) : M := ∑ i ∈ Finset.range n, f (cell i)

variable {f : γ → M} {n : ℕ}

@[simp] theorem total_zero : total f cell 0 = 0 := rfl

theorem total_succ : total f cell (n + 1) = total f cell n + f (cell n) :=
  Finset.sum_range_succ ..

theorem total_congr {cell' : ℕ → γ} (h : ∀ v, v < n → f (cell' v) = f (cell v)) :
    total f cell' n = total f cell n :=
  Finset.sum_congr rfl fun v hv => h v (Finset.mem_range.mp hv)

theorem total_update_of_eq (h : f c = f (cell w)) :
    total f (update cell w c) n = total f cell n := by
  refine total_congr fun v _ => ?_
  by_cases hv : v = w
  · rw [hv, update_self, h]
  · rw [update_of_ne hv]

theorem total_update_of_le (h : n ≤ w) : total f (update cell w c) n = total f cell n :=
  total_congr fun v hv => by rw [update_of_ne (by omega)]

/-- Further cells without weight add nothing. -/
theorem total_add_of_eq_zero {k : ℕ} (h : ∀ v, n ≤ v → v < n + k → f (cell v) = 0) :
    total f cell (n + k) = total f cell n := by
  induction k with
  | zero => rfl
  | succ k ih =>
    rw [← Nat.add_assoc, total_succ, ih fun v h1 h2 => h v h1 (by omega), h _ (by omega) (by omega),
      add_zero]

/-- **Changing one cell** moves the sum by that cell alone. -/
theorem total_update (f : γ → M) (cell : ℕ → γ) (c : γ) (hw : w < n) :
    total f (update cell w c) n + f (cell w) = total f cell n + f c := by
  have hmem : w ∈ Finset.range n := Finset.mem_range.mpr hw
  have hrest : ∑ i ∈ (Finset.range n).erase w, f (update cell w c i) =
      ∑ i ∈ (Finset.range n).erase w, f (cell i) :=
    Finset.sum_congr rfl fun v hv => by rw [update_of_ne (Finset.ne_of_mem_erase hv)]
  rw [total, total, ← Finset.sum_erase_add _ _ hmem, ← Finset.sum_erase_add _ (fun i => f (cell i)) hmem,
    hrest, update_self]
  exact add_right_comm ..

end Total

end Cells

end IngestionLab
