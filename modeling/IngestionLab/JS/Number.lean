import Mathlib.Data.Int.ConditionallyCompleteOrder
import Mathlib.Data.Rat.Floor

/-!
# Numbers of JavaScript

A number is a rational, one of the two infinities, or not a number. Arithmetic on
rationals is exact here; the two zeros are one.
-/

namespace IngestionLab.JS

/-- **A number.** -/
inductive Number
  | finite (value : ℚ)
  | infinity (negative : Bool)
  | nan
  deriving DecidableEq, Repr

namespace Number

instance : Coe ℕ Number := ⟨fun n => .finite n⟩

instance : Coe ℤ Number := ⟨fun n => .finite n⟩

/-- `Number.MAX_SAFE_INTEGER`. -/
def maxSafeInteger : ℤ := 9007199254740991

/-- `Number.isFinite`. -/
def isFinite : Number → Bool
  | .finite _ => true
  | _ => false

/-- The value of a number that is finite. -/
def toRat? : Number → Option ℚ
  | .finite value => some value
  | _ => none

/-- `a <= b`, which nothing that is not a number is part of. -/
def le : Number → Number → Bool
  | .nan, _ | _, .nan => false
  | .infinity negative, .infinity negative' => negative || !negative'
  | .infinity negative, .finite _ => negative
  | .finite _, .infinity negative => !negative
  | .finite a, .finite b => a ≤ b

/-- `a < b`. -/
def lt : Number → Number → Bool
  | .nan, _ | _, .nan => false
  | .infinity negative, .infinity negative' => negative && !negative'
  | .infinity negative, .finite _ => negative
  | .finite _, .infinity negative => !negative
  | .finite a, .finite b => a < b

/-- `Number.isSafeInteger`. -/
def isSafeInteger : Number → Bool
  | .finite value => value.isInt && decide (-maxSafeInteger ≤ value ∧ value ≤ maxSafeInteger)
  | _ => false

/-- `a + b`. -/
def add : Number → Number → Number
  | .finite a, .finite b => .finite (a + b)
  | .infinity negative, .finite _ | .finite _, .infinity negative => .infinity negative
  | .infinity negative, .infinity negative' =>
    if negative = negative' then .infinity negative else .nan
  | .nan, _ | _, .nan => .nan

/-- `a - b`. -/
def sub : Number → Number → Number
  | .finite a, .finite b => .finite (a - b)
  | .infinity negative, .finite _ => .infinity negative
  | .finite _, .infinity negative => .infinity !negative
  | .infinity negative, .infinity negative' =>
    if negative = negative' then .nan else .infinity negative
  | .nan, _ | _, .nan => .nan

/-- `a % b`, which has the sign of `a`. -/
def rem : Number → Number → Number
  | .finite a, .finite b =>
    if b = 0 then .nan else .finite (a - b * (if a / b < 0 then ⌈a / b⌉ else ⌊a / b⌋ : ℤ))
  | .finite a, .infinity _ => .finite a
  | .infinity _, _ | .nan, _ | _, .nan => .nan

theorem le_coe (a b : ℤ) : le a b = decide (a ≤ b) := by
  rw [le, decide_eq_decide]
  exact Int.cast_le

theorem lt_coe (a b : ℤ) : lt a b = decide (a < b) := by
  rw [lt, decide_eq_decide]
  exact Int.cast_lt

theorem add_coe (a b : ℤ) : add a b = ((a + b : ℤ) : Number) := by
  rw [add, Int.cast_add]

theorem coe_inj {a b : ℤ} : (a : Number) = b ↔ a = b := by
  rw [finite.injEq]
  exact Int.cast_inj

/-- The integer a number is. -/
def toInt? : Number → Option ℤ
  | .finite value => if value.isInt then some value.num else none
  | _ => none

theorem mem_toInt? {n : Number} {z : ℤ} : z ∈ n.toInt? ↔ n = z := by
  cases n with
  | finite q =>
    rw [toInt?, Option.mem_def, Option.ite_none_right_eq_some, Option.some_inj, Rat.isInt,
      beq_iff_eq, finite.injEq]
    constructor
    · rintro ⟨hden, rfl⟩
      exact ((Rat.den_eq_one_iff q).mp hden).symm
    · rintro rfl
      exact ⟨Rat.den_intCast z, Rat.num_intCast z⟩
  | infinity negative => exact ⟨nofun, nofun⟩
  | nan => exact ⟨nofun, nofun⟩

/-- What is left of an integer that is not negative is that of integer division. -/
theorem rem_coe {a b : ℤ} (ha : 0 ≤ a) (hb : 0 < b) : rem a b = (a.tmod b : ℤ) := by
  have hbq : (b : ℚ) ≠ 0 := Int.cast_ne_zero.mpr hb.ne'
  have hdiv : ¬(a : ℚ) / b < 0 :=
    not_lt.mpr (div_nonneg (Int.cast_nonneg ha) (Int.cast_nonneg hb.le))
  have hfloor : ⌊(a : ℚ) / b⌋ = a / b := by
    obtain ⟨n, rfl⟩ := Int.eq_ofNat_of_zero_le hb.le
    exact Rat.floor_intCast_div_natCast a n
  rw [rem, if_neg hbq, if_neg hdiv, hfloor, Int.tmod_eq_emod_of_nonneg ha, Int.emod_def]
  push_cast
  rfl

/-- **The safe integers** are the integers of at most 53 bits. -/
theorem isSafeInteger_iff {n : Number} :
    n.isSafeInteger = true ↔ ∃ z : ℤ, n = z ∧ -maxSafeInteger ≤ z ∧ z ≤ maxSafeInteger := by
  constructor
  · intro h
    cases n with
    | finite q =>
      rw [isSafeInteger, Bool.and_eq_true, decide_eq_true_eq] at h
      obtain ⟨hint, hlow, hhigh⟩ := h
      have hq : (finite q) = (q.num : ℤ) := mem_toInt?.mp (if_pos hint)
      rw [finite.inj hq] at hlow hhigh
      exact ⟨q.num, hq, by exact_mod_cast hlow, by exact_mod_cast hhigh⟩
    | infinity negative => exact absurd h nofun
    | nan => exact absurd h nofun
  · rintro ⟨z, rfl, hlow, hhigh⟩
    rw [isSafeInteger, Bool.and_eq_true, decide_eq_true_eq]
    exact ⟨by simp [Rat.isInt], by exact_mod_cast hlow, by exact_mod_cast hhigh⟩

end Number

/-- `Math.round`: to the nearest integer, halves up. -/
def mathRound (q : ℚ) : ℤ := ⌊q + 1 / 2⌋

theorem mathRound_mono : Monotone mathRound := fun _ _ h => Int.floor_mono (add_le_add_left h _)

theorem mathRound_intCast (z : ℤ) : mathRound z = z := by
  rw [mathRound, Int.floor_intCast_add]
  norm_num

end IngestionLab.JS
