import Mathlib.Algebra.BigOperators.Group.List.Basic
import Mathlib.Algebra.GroupWithZero.Nat
import Mathlib.Algebra.Order.Group.Nat

/-!
# What a pace bounds

Events of various sizes occur one after the other, each no earlier than a whole
number of clock ticks after the one before it: `size * scale / rate`, rounded down.
Rounding loses less than one tick an event, so the sizes that follow any event are
bounded by the time elapsed since then, up to a tick each
(`IngestionLab.Pacing.total_size_lt`). Nothing is gained by having waited: the bound
is from one event to another, whatever came before the first.
-/

namespace IngestionLab

namespace Pacing

variable {ε : Type*} (size instant : ε → ℕ) (rate scale : ℕ)

/-- One event is paced after another. -/
def Paced (e e' : ε) : Prop := instant e + size e' * scale / rate ≤ instant e'

variable {size instant rate scale}

/-- Rounding down loses less than one tick. -/
theorem size_mul_lt (hrate : 0 < rate) {e e' : ε} (h : Paced size instant rate scale e e') :
    size e' * scale + rate * instant e < rate * instant e' + rate := by
  have hround : size e' * scale < rate * (size e' * scale / rate + 1) :=
    Nat.lt_mul_div_succ _ hrate
  have hpace : rate * (instant e + size e' * scale / rate) ≤ rate * instant e' :=
    Nat.mul_le_mul_left rate h
  rw [Nat.mul_add] at hround hpace
  omega

/-- **The sizes after an event are bounded by the time since**, up to a tick each. -/
theorem total_size_lt (hrate : 0 < rate) {first last : ε} {events : List ε}
    (h : List.IsChain (Paced size instant rate scale) (first :: (events ++ [last]))) :
    ((events ++ [last]).map size).sum * scale + rate * instant first <
      rate * instant last + rate * (events.length + 1) := by
  induction events generalizing first with
  | nil =>
    have hone := size_mul_lt hrate (List.isChain_cons_cons.mp h).1
    simpa using hone
  | cons e events ih =>
    rw [List.cons_append] at h ⊢
    obtain ⟨hfirst, hrest⟩ := List.isChain_cons_cons.mp h
    have hone := size_mul_lt hrate hfirst
    have hsum := ih hrest
    rw [List.map_cons, List.sum_cons, Nat.add_mul, List.length_cons, Nat.mul_succ]
    omega

end Pacing

end IngestionLab
