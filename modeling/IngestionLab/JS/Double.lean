import IngestionLab.JS.Number
import Mathlib.Algebra.Order.Field.Power
import Mathlib.Data.Int.Log

/-!
# Rounding to so many digits

An operation on two doubles yields the double closest to the exact result
(`IngestionLab.JS.toDouble`), and `toPrecision` the closest decimal
(`IngestionLab.JS.toPrecision`): both keep a number of digits in some base, and differ in
what they do halfway. Such a rounding is monotone
(`IngestionLab.JS.roundDigits_mono`), and it leaves alone what has so few digits
(`IngestionLab.JS.roundDigits_of_eq`).

The exponents are not bounded: nothing here is so large, or so close to zero, that a
double runs out of exponents.
-/

namespace IngestionLab.JS

/-! ### Rounding to an integer -/

/-- To the nearest integer, halves to the even one. -/
def roundEven (q : ℚ) : ℤ :=
  if Int.fract q < 1 / 2 then ⌊q⌋
  else if 1 / 2 < Int.fract q then ⌊q⌋ + 1
  else if 2 ∣ ⌊q⌋ then ⌊q⌋
  else ⌊q⌋ + 1

/-- **A way to round** to an integer. -/
structure Rounds (round : ℚ → ℤ) : Prop where
  mono : Monotone round
  intCast : ∀ z : ℤ, round z = z

theorem floor_le_roundEven (q : ℚ) : ⌊q⌋ ≤ roundEven q := by
  rw [roundEven]
  split_ifs <;> omega

theorem roundEven_le (q : ℚ) : roundEven q ≤ ⌊q⌋ + 1 := by
  rw [roundEven]
  split_ifs <;> omega

theorem rounds_roundEven : Rounds roundEven where
  mono a b hab := by
    rcases (Int.floor_mono hab).lt_or_eq with hlt | heq
    · have := roundEven_le a
      have := floor_le_roundEven b
      omega
    · have hfract : Int.fract a ≤ Int.fract b := by
        rw [Int.fract, Int.fract, heq]
        exact sub_le_sub_right hab _
      rw [roundEven, roundEven, heq]
      split_ifs <;> first | omega | (exfalso; linarith)
  intCast z := by
    rw [roundEven, Int.fract_intCast, if_pos (by norm_num), Int.floor_intCast]

theorem rounds_mathRound : Rounds mathRound := ⟨mathRound_mono, mathRound_intCast⟩

/-! ### Rounding to so many digits -/

/-- The exponent of the last of so many digits of a number. -/
def lastPlace (base digits : ℕ) (q : ℚ) : ℤ := Int.log base q + 1 - digits

/-- A number that is not negative, to so many digits. -/
def roundMagnitude (base digits : ℕ) (round : ℚ → ℤ) (q : ℚ) : ℚ :=
  round (q / base ^ lastPlace base digits q) * base ^ lastPlace base digits q

/-- **A number to so many digits**. The sign is kept apart. -/
def roundDigits (base digits : ℕ) (round : ℚ → ℤ) (q : ℚ) : ℚ :=
  if q < 0 then -roundMagnitude base digits round (-q) else roundMagnitude base digits round q

section

variable {base digits : ℕ} {round : ℚ → ℤ}

theorem Rounds.nonneg (h : Rounds round) {q : ℚ} (hq : 0 ≤ q) : 0 ≤ round q := by
  have := h.mono hq
  rwa [← Int.cast_zero, h.intCast] at this

/-- **What has so few digits stays**. -/
theorem roundMagnitude_of_eq (h : Rounds round) (hbase : 1 < base) {m k : ℤ} (hm : 0 ≤ m)
    (hdigits : m < base ^ digits) :
    roundMagnitude base digits round (m * base ^ k) = m * base ^ k := by
  have hb : (base : ℚ) ≠ 0 := by
    have := hbase
    positivity
  rcases hm.eq_or_lt with rfl | hm
  · simpa [roundMagnitude] using Or.inl (h.intCast 0)
  · obtain ⟨n, hn⟩ : ∃ n : ℕ, k - lastPlace base digits (m * base ^ k) = n := by
      refine Int.eq_ofNat_of_zero_le ?_
      have hpos : (0 : ℚ) < m * base ^ k := by positivity
      have hlog : Int.log base ((m : ℚ) * base ^ k) < digits + k := by
        refine (Int.lt_zpow_iff_log_lt hbase hpos).mp ?_
        rw [zpow_add₀ hb, zpow_natCast]
        exact mul_lt_mul_of_pos_right (mod_cast hdigits) (by positivity)
      rw [lastPlace]
      omega
    have hint : (m : ℚ) * base ^ k / base ^ lastPlace base digits (m * base ^ k) =
        ((m * base ^ n : ℤ) : ℚ) := by
      rw [mul_div_assoc, ← zpow_sub₀ hb, hn, zpow_natCast]
      push_cast
      rfl
    rw [roundMagnitude, hint, h.intCast, ← hint, div_mul_cancel₀ _ (zpow_ne_zero _ hb)]

theorem roundMagnitude_nonneg (h : Rounds round) {q : ℚ} (hq : 0 ≤ q) :
    0 ≤ roundMagnitude base digits round q :=
  mul_nonneg (mod_cast h.nonneg (by positivity)) (by positivity)

/-- The larger of two numbers that differ in their first place is rounded to the power of the
base below it at least, and the smaller to that power at most. -/
theorem roundMagnitude_mono (h : Rounds round) (hbase : 1 < base) (hdigits : 0 < digits) {a b : ℚ}
    (ha : 0 ≤ a) (hab : a ≤ b) :
    roundMagnitude base digits round a ≤ roundMagnitude base digits round b := by
  rcases ha.eq_or_lt with rfl | ha
  · have hzero : roundMagnitude base digits round 0 = 0 := by
      simpa [roundMagnitude] using Or.inl (h.intCast 0)
    exact hzero.trans_le (roundMagnitude_nonneg h hab)
  have hb : (0 : ℚ) < base := by
    have := hbase
    positivity
  have hpos : ∀ k : ℤ, (0 : ℚ) < base ^ k := fun k => zpow_pos hb k
  rcases (Int.log_mono_right (b := base) ha hab).eq_or_lt with heq | hlt
  · rw [roundMagnitude, roundMagnitude, lastPlace, lastPlace, heq]
    refine mul_le_mul_of_nonneg_right ?_ (hpos _).le
    exact mod_cast h.mono (div_le_div_of_nonneg_right hab (hpos _).le)
  · have hsmall : roundMagnitude base digits round a ≤ base ^ (Int.log base a + 1) := by
      have hle : a / base ^ lastPlace base digits a ≤ ((base ^ digits : ℤ) : ℚ) := by
        rw [div_le_iff₀ (hpos _)]
        push_cast
        rw [← zpow_natCast, ← zpow_add₀ hb.ne', lastPlace,
          show (digits : ℤ) + (Int.log base a + 1 - digits) = Int.log base a + 1 by ring]
        exact (Int.lt_zpow_succ_log_self hbase a).le
      have hround := h.mono hle
      rw [h.intCast] at hround
      calc roundMagnitude base digits round a
          ≤ ((base ^ digits : ℤ) : ℚ) * base ^ lastPlace base digits a :=
            mul_le_mul_of_nonneg_right (mod_cast hround) (hpos _).le
        _ = base ^ (Int.log base a + 1) := by
            push_cast
            rw [← zpow_natCast, ← zpow_add₀ hb.ne', lastPlace]
            congr 1
            ring
    have hlarge : (base : ℚ) ^ Int.log base b ≤ roundMagnitude base digits round b := by
      have hle : ((base ^ (digits - 1) : ℤ) : ℚ) ≤ b / base ^ lastPlace base digits b := by
        rw [le_div_iff₀ (hpos _)]
        push_cast
        rw [← zpow_natCast, ← zpow_add₀ hb.ne', lastPlace,
          show ((digits - 1 : ℕ) : ℤ) + (Int.log base b + 1 - digits) = Int.log base b by omega]
        exact Int.zpow_log_le_self hbase (ha.trans_le hab)
      have hround := h.mono hle
      rw [h.intCast] at hround
      calc (base : ℚ) ^ Int.log base b
          = ((base ^ (digits - 1) : ℤ) : ℚ) * base ^ lastPlace base digits b := by
            push_cast
            rw [← zpow_natCast, ← zpow_add₀ hb.ne', lastPlace]
            congr 1
            omega
        _ ≤ roundMagnitude base digits round b :=
            mul_le_mul_of_nonneg_right (mod_cast hround) (hpos _).le
    exact hsmall.trans ((zpow_le_zpow_right₀ (mod_cast hbase.le) (by omega)).trans hlarge)

/-- **What has so few digits stays**, of either sign. -/
theorem roundDigits_of_eq (h : Rounds round) (hbase : 1 < base) {m k : ℤ}
    (hdigits : |m| < base ^ digits) :
    roundDigits base digits round (m * base ^ k) = m * base ^ k := by
  rw [abs_lt] at hdigits
  rw [roundDigits]
  split_ifs with hneg
  · have hm : m < 0 := by
      by_contra! hm
      exact absurd hneg (not_lt.mpr (mul_nonneg (mod_cast hm) (by positivity)))
    have hlt : -m < base ^ digits := by omega
    have hmag := roundMagnitude_of_eq (k := k) h hbase (neg_nonneg.mpr hm.le) hlt
    rw [Int.cast_neg, neg_mul] at hmag
    rw [hmag, neg_neg]
  · have hm : 0 ≤ m := by
      by_contra! hm
      have hb : (0 : ℚ) < base := by
        have := hbase
        positivity
      exact hneg (mul_neg_of_neg_of_pos (mod_cast hm) (zpow_pos hb k))
    exact roundMagnitude_of_eq h hbase hm hdigits.2

/-- **Rounding is monotone**. -/
theorem roundDigits_mono (h : Rounds round) (hbase : 1 < base) (hdigits : 0 < digits) :
    Monotone (roundDigits base digits round) := by
  intro a b hab
  rw [roundDigits, roundDigits]
  split_ifs with ha hb hb
  · exact neg_le_neg (roundMagnitude_mono h hbase hdigits (by linarith) (neg_le_neg hab))
  · exact (neg_nonpos.mpr (roundMagnitude_nonneg h (by linarith))).trans
      (roundMagnitude_nonneg h (not_lt.mp hb))
  · exact absurd (hab.trans_lt hb) ha
  · exact roundMagnitude_mono h hbase hdigits (not_lt.mp ha) hab

end

/-! ### Doubles and decimals -/

/-- **The double closest to a number**: 53 bits, halves to the even one. -/
def toDouble : ℚ → ℚ := roundDigits 2 53 roundEven

/-- `Number(value.toPrecision(digits))`: so many decimal digits, halves up, read again. -/
def toPrecision (digits : ℕ) (value : ℚ) : ℚ := toDouble (roundDigits 10 digits mathRound value)

theorem toDouble_mono : Monotone toDouble :=
  roundDigits_mono rounds_roundEven one_lt_two (by norm_num)

/-- An integer of 53 bits over a power of two is a double. -/
theorem toDouble_of_eq {m k : ℤ} (h : |m| < 2 ^ 53) : toDouble (m * 2 ^ k) = m * 2 ^ k :=
  roundDigits_of_eq rounds_roundEven one_lt_two h

/-- **The integers of 53 bits** are doubles. -/
theorem toDouble_intCast {z : ℤ} (h : |z| < 2 ^ 53) : toDouble z = z := by
  simpa using toDouble_of_eq (k := 0) h

/-- The integers of so many decimal digits are kept. -/
theorem toPrecision_intCast {digits : ℕ} {z : ℤ} (h : |z| < 10 ^ digits) (hsafe : |z| < 2 ^ 53) :
    toPrecision digits z = z := by
  have hround : roundDigits 10 digits mathRound z = z := by
    simpa using roundDigits_of_eq (k := 0) rounds_mathRound (by norm_num : 1 < 10) h
  rw [toPrecision, hround, toDouble_intCast hsafe]

end IngestionLab.JS
