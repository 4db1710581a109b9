import Mathlib.Algebra.BigOperators.Group.List.Basic
import Mathlib.Algebra.GroupWithZero.Nat

/-!
# Tallies over a list of workers

A list of workers each of which holds some amount: what changing one of them, adding
some or leaving some out does to the whole (`IngestionLab.Tally.total_modify`,
`IngestionLab.Tally.total_filter`).
-/

namespace IngestionLab.Tally

variable {α : Type*} {g : α → ℕ} {l : List α}

/-- What all of them hold. -/
def total (g : α → ℕ) (l : List α) : ℕ := (l.map g).sum

@[simp] theorem total_nil (g : α → ℕ) : total g [] = 0 := rfl

@[simp] theorem total_cons (g : α → ℕ) (a : α) (l : List α) :
    total g (a :: l) = g a + total g l := by
  rw [total, List.map_cons, List.sum_cons, total]

@[simp] theorem total_append (g : α → ℕ) (l l' : List α) :
    total g (l ++ l') = total g l + total g l' := by
  rw [total, List.map_append, List.sum_append, total, total]

theorem le_total {a : α} (h : a ∈ l) : g a ≤ total g l := by
  induction l with
  | nil => exact absurd h List.not_mem_nil
  | cons b l ih =>
    rw [total_cons]
    rcases List.mem_cons.mp h with rfl | h
    · exact Nat.le_add_right _ _
    · exact Nat.le_trans (ih h) (Nat.le_add_left _ _)

/-- **One of them is changed.** -/
theorem total_modify {i : ℕ} {a : α} (f : α → α) (h : l[i]? = some a) :
    total g (l.modify i f) + g a = total g l + g (f a) := by
  induction l generalizing i with
  | nil => exact absurd h nofun
  | cons b l ih =>
    cases i with
    | zero =>
      obtain rfl : b = a := Option.some.inj h
      rw [List.modify_zero_cons, total_cons, total_cons]
      omega
    | succ i =>
      have hrest := ih (i := i) h
      rw [List.modify_succ_cons, total_cons, total_cons]
      omega

/-- Those that hold nothing may be left out. -/
theorem total_filter {p : α → Bool} (h : ∀ a ∈ l, p a = false → g a = 0) :
    total g (l.filter p) = total g l := by
  induction l with
  | nil => rfl
  | cons a l ih =>
    have hrest := ih fun b hb => h b (List.mem_cons_of_mem a hb)
    cases hp : p a with
    | true => rw [List.filter_cons_of_pos hp, total_cons, total_cons, hrest]
    | false =>
      rw [List.filter_cons_of_neg (Bool.eq_false_iff.mp hp), total_cons, hrest,
        h a List.mem_cons_self hp, Nat.zero_add]

theorem total_map {β : Type*} (f : β → α) (l : List β) : total g (l.map f) = total (g ∘ f) l := by
  rw [total, total, List.map_map]

/-- What holds one or nothing is counted. -/
theorem total_eq_countP {p : α → Bool} (h : ∀ a, g a = (p a).toNat) (l : List α) :
    total g l = l.countP p := by
  induction l with
  | nil => rfl
  | cons a l ih =>
    rw [total_cons, ih, h a, List.countP_cons, Nat.add_comm]
    cases p a <;> rfl

theorem total_add {k k' : α → ℕ} (h : ∀ a, g a = k a + k' a) (l : List α) :
    total g l = total k l + total k' l := by
  induction l with
  | nil => rfl
  | cons a l ih =>
    rw [total_cons, total_cons, total_cons, h a, ih]
    omega

/-- What the changed one holds alone, the others do not hold. -/
theorem eq_zero_of_total_le {i j : ℕ} {a b : α} (ha : l[i]? = some a)
    (hb : l[j]? = some b) (hij : i ≠ j) (htotal : total g l ≤ g a) : g b = 0 := by
  induction l generalizing i j with
  | nil => exact absurd ha nofun
  | cons c l ih =>
    rw [total_cons] at htotal
    cases i with
    | zero =>
      obtain rfl : c = a := Option.some.inj ha
      cases j with
      | zero => exact absurd rfl hij
      | succ j =>
        have hb' : l[j]? = some b := hb
        have hle := le_total (g := g) (List.mem_of_getElem? hb')
        omega
    | succ i =>
      have ha' : l[i]? = some a := ha
      have hle := le_total (g := g) (List.mem_of_getElem? ha')
      cases j with
      | zero =>
        obtain rfl : c = b := Option.some.inj hb
        omega
      | succ j => exact ih ha hb (fun hc => hij (congrArg _ hc)) (by omega)

/-- What the change does not touch is as it was. -/
theorem map_modify {β : Type*} (k : α → β) {f : α → α} (hf : ∀ a, k (f a) = k a) (l : List α)
    (i : ℕ) : (l.modify i f).map k = l.map k := by
  induction l generalizing i with
  | nil => rw [List.modify_nil]
  | cons a l ih =>
    cases i with
    | zero => rw [List.modify_zero_cons, List.map_cons, List.map_cons, hf a]
    | succ i => rw [List.modify_succ_cons, List.map_cons, List.map_cons, ih i]

/-- The changed list holds the changed one and the others. -/
theorem mem_modify {i : ℕ} {f : α → α} {b : α} (h : b ∈ l.modify i f) :
    (∃ a, l[i]? = some a ∧ b = f a) ∨ ∃ j, i ≠ j ∧ l[j]? = some b := by
  obtain ⟨j, hj⟩ := List.mem_iff_getElem?.mp h
  by_cases hij : i = j
  · subst hij
    rw [List.getElem?_modify_eq] at hj
    obtain ⟨a, ha, rfl⟩ := Option.map_eq_some_iff.mp hj
    exact Or.inl ⟨a, ha, rfl⟩
  · rw [List.getElem?_modify_ne f l hij] at hj
    exact Or.inr ⟨j, hij, hj⟩

end IngestionLab.Tally
