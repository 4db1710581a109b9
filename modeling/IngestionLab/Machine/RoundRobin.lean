import Mathlib.Data.List.Range
import Mathlib.Data.Nat.ModEq

/-!
# Taking turns

A cursor goes round `n` places. Whoever chooses looks from the cursor on and around
for the first place that is free, and leaves the cursor behind the place chosen.
`IngestionLab.RoundRobin.turns` lists the places in the order they are looked at.

A place is *`g` ahead* of the cursor (`IngestionLab.RoundRobin.Ahead`) when it is the
one looked at after `g` others. While it stays free it is either chosen or gets
strictly nearer (`IngestionLab.RoundRobin.Ahead.chosen_or_nearer`): no choice can pass
it by. Since no place is `n` ahead, it is among the next `n` chosen.
-/

namespace IngestionLab

namespace RoundRobin

variable {cursor n place chosen g : ℕ} {free : ℕ → Bool}

/-- The places in the order they are looked at. -/
def turns (cursor n : ℕ) : List ℕ := (List.range n).map fun offset => (cursor + offset) % n

/-- The place is looked at after `g` others. -/
def Ahead (cursor n place g : ℕ) : Prop := g < n ∧ (cursor + g) % n = place

/-- Every place is some way ahead, wherever the cursor is. -/
theorem exists_ahead (cursor : ℕ) (h : place < n) : ∃ g, Ahead cursor n place g := by
  refine ⟨(place + (n - cursor % n)) % n, Nat.mod_lt _ (by omega), ?_⟩
  have hle : cursor % n ≤ n := (Nat.mod_lt cursor (by omega)).le
  have hround : cursor + (place + (n - cursor % n)) = place + n * (cursor / n + 1) := by
    have hdiv := Nat.div_add_mod cursor n
    rw [Nat.mul_add, Nat.mul_one]
    omega
  rw [Nat.add_mod_mod, hround, Nat.add_mul_mod_self_left, Nat.mod_eq_of_lt h]

/-- **What is chosen**: a free place, all the places looked at before it being taken. -/
theorem exists_of_find? (h : (turns cursor n).find? free = some chosen) :
    ∃ offset, Ahead cursor n chosen offset ∧ free chosen = true ∧
      ∀ o < offset, free ((cursor + o) % n) = false := by
  obtain ⟨hfree, offset, hlt, heq, hbefore⟩ := List.find?_eq_some_iff_getElem.mp h
  simp only [turns, List.length_map, List.length_range, List.getElem_map, List.getElem_range]
    at hlt heq hbefore
  exact ⟨offset, ⟨hlt, heq⟩, hfree, fun o ho => by simpa using hbefore o ho⟩

/-- **No choice passes a free place by**: it is the one chosen, or it is nearer than
before. -/
theorem Ahead.chosen_or_nearer (hplace : Ahead cursor n place g) (hfree : free place = true)
    (h : (turns cursor n).find? free = some chosen) :
    chosen = place ∨ ∃ g' < g, Ahead (chosen + 1) n place g' := by
  obtain ⟨offset, ⟨hlt, rfl⟩, -, hbefore⟩ := exists_of_find? h
  obtain ⟨hg, rfl⟩ := hplace
  rcases lt_trichotomy offset g with hlo | rfl | hhi
  · -- the cursor lands between the place chosen and this one
    refine Or.inr ⟨g - (offset + 1), by omega, by omega, ?_⟩
    calc ((cursor + offset) % n + 1 + (g - (offset + 1))) % n
        = ((cursor + offset) % n + (1 + (g - (offset + 1)))) % n := by rw [Nat.add_assoc]
      _ = (cursor + offset + (1 + (g - (offset + 1)))) % n := Nat.mod_add_mod ..
      _ = (cursor + g) % n := by congr 1; omega
  · exact Or.inl rfl
  · exact absurd (hbefore g hhi) (by simp [hfree])

end RoundRobin

end IngestionLab
