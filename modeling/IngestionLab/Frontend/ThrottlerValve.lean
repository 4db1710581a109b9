import IngestionLab.Frontend.HttpSnapshot
import IngestionLab.JS.Double
import Mathlib.Data.List.Dedup

/-!
# The openings of the valve

The twelve rates the valve of the throttler can be turned to: an even division of the range
of the control, each part snapped to its steps and kept below its maximum
(`IngestionLab.Frontend.getValveTargets`). The arithmetic is that of doubles.

Over a range of integers that doubles and twelve digits can tell apart, the targets are
integers (`IngestionLab.Frontend.valveTarget_eq`), and they grow with the position
(`IngestionLab.Frontend.valveSteps_mono`). Twelve of them differ only if none but the last
is cut off at the maximum, and the last one is so if and only if more than half a step is left
of the range beyond its whole steps (`IngestionLab.Frontend.valveSteps_last_le_iff`).
-/

namespace IngestionLab.Frontend

open JS

/-- `OPENING_POSITION_COUNT`. -/
def openingPositionCount : ℕ := 12

/-- `clamp`. -/
def clamp (value min max : ℚ) : ℚ := Min.min max (Max.max min value)

/-- `stabilize`. -/
def stabilize (value : ℚ) : ℚ := toPrecision 12 value

/-- `stepsFromMin`, of an index in `getValveTargets`. -/
def valveSteps (min max step : ℚ) (index : ℕ) : ℤ :=
  let span := toDouble (max - min)
  let raw := toDouble (min + toDouble (toDouble (span * index) / (openingPositionCount - 1 : ℕ)))
  mathRound (toDouble (toDouble (raw - min) / step))

/-- The target of an index in `getValveTargets`. -/
def valveTarget (min max step : ℚ) (index : ℕ) : ℚ :=
  stabilize (clamp (toDouble (min + toDouble (valveSteps min max step index * step))) min max)

/-- **The targets of the valve** (`getValveTargets`), unless two of them are the same. The
match and the test after it are `capabilityIsFinite`. -/
def getValveTargets (capability : NumericControlSnapshot) : Option (List Number) :=
  match capability.min, capability.max, capability.step with
  | .finite min, .finite max, .finite step =>
    if min < max ∧ 0 < step then
      let targets := (List.range openingPositionCount).map fun index =>
        Number.finite (valveTarget min max step index)
      if targets.dedup.length = openingPositionCount then some targets else none
    else none
  | _, _, _ => none

/-! ### The steps of a position -/

/-- A later position is as many steps above the minimum, or more. -/
theorem valveSteps_mono {min max step : ℚ} (hrange : min ≤ max) (hstep : 0 < step) :
    Monotone (valveSteps min max step) := by
  intro i j hij
  have hspan : 0 ≤ toDouble (max - min) := by
    have h := toDouble_mono (sub_nonneg.mpr hrange)
    rwa [← Int.cast_zero, toDouble_intCast (by norm_num)] at h
  refine rounds_mathRound.mono (toDouble_mono (div_le_div_of_nonneg_right ?_ hstep.le))
  refine toDouble_mono (sub_le_sub_right (toDouble_mono (add_le_add_right ?_ _)) _)
  refine toDouble_mono (div_le_div_of_nonneg_right (toDouble_mono ?_) (by positivity))
  exact mul_le_mul_of_nonneg_left (mod_cast hij) hspan

section

variable {min max step : ℤ}

/-- The first position is at the minimum. -/
theorem valveSteps_zero (hmin : |min| < 2 ^ 53) : valveSteps min max step 0 = 0 := by
  have hzero : toDouble 0 = 0 := by
    simpa using toDouble_intCast (z := 0) (by norm_num)
  rw [valveSteps, Nat.cast_zero, mul_zero, hzero, zero_div, hzero, add_zero,
    toDouble_intCast hmin, sub_self, hzero, zero_div, hzero]
  exact rounds_mathRound.intCast 0

/-- The last position is the whole range above the minimum, in steps as doubles count them. -/
theorem valveSteps_last (hmin : 0 ≤ min) (hrange : min ≤ max) (hmax : max < 10 ^ 12) :
    valveSteps min max step 11 = mathRound (toDouble (((max - min : ℤ) : ℚ) / step)) := by
  have hspan : toDouble (max - min : ℤ) = (max - min : ℤ) := toDouble_intCast (by
    rw [abs_lt]
    omega)
  have hspans : toDouble ((max - min : ℤ) * (11 : ℕ)) = (max - min : ℤ) * (11 : ℕ) := by
    have h := toDouble_intCast (z := (max - min) * 11) (by
      rw [abs_lt]
      omega)
    exact_mod_cast h
  have hmax' : toDouble max = max := toDouble_intCast (by
    rw [abs_lt]
    omega)
  have hpart : ((max - min : ℤ) : ℚ) * (11 : ℕ) / (openingPositionCount - 1 : ℕ) =
      (max - min : ℤ) :=
    mul_div_cancel_right₀ _ (by norm_num)
  have htop : (min : ℚ) + (max - min : ℤ) = max := by
    push_cast
    ring
  rw [valveSteps, ← Int.cast_sub, hspan, hspans, hpart, hspan, htop, hmax', ← Int.cast_sub, hspan]

/-- **Half a step** of a quotient is there for the double of it if it is there. A quotient of such
integers that falls short of it does so by more than doubles leave out. -/
theorem mathRound_toDouble_le_iff {span : ℤ} (hspan : 0 ≤ span) (hsmall : span < 10 ^ 12)
    (hstep : 0 < step) (hle : step ≤ span) :
    mathRound (toDouble ((span : ℚ) / step)) ≤ span / step ↔ 2 * (span % step) < step := by
  have hstepq : (0 : ℚ) < step := mod_cast hstep
  have hdiv := Int.mul_ediv_add_emod span step
  have hdivq : (span : ℚ) = step * (span / step : ℤ) + (span % step : ℤ) := mod_cast hdiv.symm
  have hq : 0 ≤ span / step := Int.ediv_nonneg hspan hstep.le
  have hqle : span / step ≤ span := Int.ediv_le_self _ hspan
  rw [mathRound, ← Int.lt_add_one_iff, Int.floor_lt]
  constructor
  · intro h
    by_contra! hhalf
    have hhalfq : ((2 * (span / step) + 1 : ℤ) : ℚ) * 2 ^ (-1 : ℤ) ≤ span / step := by
      rw [le_div_iff₀ hstepq, hdivq]
      have hhalfq : (step : ℚ) ≤ 2 * (span % step : ℤ) := mod_cast hhalf
      push_cast
      norm_num
      linarith
    have hround := toDouble_mono hhalfq
    rw [toDouble_of_eq (by rw [abs_lt]; omega)] at hround
    push_cast at hround h
    norm_num at hround h
    linarith
  · intro h
    -- a power of two that tells the quotient from the half apart
    obtain ⟨j, hj, hj'⟩ : ∃ j : ℕ, step ≤ 2 ^ j ∧ (2 : ℤ) ^ j ≤ 2 * step := by
      refine ⟨Nat.log 2 step.toNat + 1, ?_, ?_⟩
      · have := Nat.lt_pow_succ_log_self one_lt_two step.toNat
        have : (step.toNat : ℤ) < 2 ^ (Nat.log 2 step.toNat + 1) := mod_cast this
        omega
      · have := Nat.pow_log_le_self 2 (x := step.toNat) (by omega)
        have : (2 : ℤ) ^ Nat.log 2 step.toNat ≤ step.toNat := mod_cast this
        rw [pow_succ]
        omega
    have hpow : (0 : ℚ) < 2 ^ j := by positivity
    have hpow' : ((2 : ℚ) ^ j)⁻¹ * 2 ^ j = 1 := inv_mul_cancel₀ hpow.ne'
    have hbelow : (span : ℚ) / step ≤
        (((2 * (span / step) + 1) * 2 ^ j - 1 : ℤ) : ℚ) * 2 ^ (-(j + 1 : ℕ) : ℤ) := by
      have hrem : 2 * (span % step) * 2 ^ j ≤ (step - 1) * 2 ^ j :=
        mul_le_mul_of_nonneg_right (by omega) (by positivity)
      have hscaled : 2 * span * 2 ^ j ≤ ((2 * (span / step) + 1) * 2 ^ j - 1) * step := by
        calc 2 * span * 2 ^ j
            = 2 * (step * (span / step)) * 2 ^ j + 2 * (span % step) * 2 ^ j := by
              rw [← add_mul, ← mul_add, hdiv]
          _ ≤ 2 * (step * (span / step)) * 2 ^ j + (step - 1) * 2 ^ j := by omega
          _ ≤ 2 * (step * (span / step)) * 2 ^ j + step * 2 ^ j - step := by linarith
          _ = ((2 * (span / step) + 1) * 2 ^ j - 1) * step := by ring
      rw [zpow_neg, zpow_natCast, ← div_eq_mul_inv, div_le_div_iff₀ hstepq (by positivity)]
      have hscaledq : (2 * span * 2 ^ j : ℚ) ≤
          (((2 * (span / step) + 1) * 2 ^ j - 1 : ℤ) : ℚ) * step := mod_cast hscaled
      calc (span : ℚ) * 2 ^ (j + 1) = 2 * span * 2 ^ j := by ring
        _ ≤ (((2 * (span / step) + 1) * 2 ^ j - 1 : ℤ) : ℚ) * step := hscaledq
    have hbits : |(2 * (span / step) + 1) * 2 ^ j - 1| < (2 : ℤ) ^ 53 := by
      have hlow : 0 < (2 * (span / step) + 1) * 2 ^ j := by positivity
      have hhigh : (2 * (span / step) + 1) * 2 ^ j ≤ (2 * (span / step) + 1) * (2 * step) :=
        mul_le_mul_of_nonneg_left hj' (by omega)
      have hrem := Int.emod_nonneg span hstep.ne'
      rw [abs_lt]
      constructor <;> linarith
    have hround := toDouble_mono hbelow
    rw [toDouble_of_eq hbits] at hround
    refine (add_le_add_left hround _).trans_lt ?_
    rw [zpow_neg, zpow_natCast, pow_succ, mul_inv]
    push_cast
    have hinv : (0 : ℚ) < (2 ^ j)⁻¹ := inv_pos.mpr hpow
    calc ((2 * ((span / step : ℤ) : ℚ) + 1) * 2 ^ j - 1) * ((2 ^ j)⁻¹ * 2⁻¹) + 1 / 2
        = (2 * ((span / step : ℤ) : ℚ) + 1) * 2⁻¹ * ((2 ^ j)⁻¹ * 2 ^ j) - (2 ^ j)⁻¹ * 2⁻¹ + 1 / 2 := by
          ring
      _ < ((span / step : ℤ) : ℚ) + 1 := by
          rw [hpow']
          linarith

/-- The target of a position of a range of integers. -/
def valveRate (min max step : ℤ) (index : ℕ) : ℤ :=
  Min.min (min + valveSteps min max step index * step) max

/-- **A target** is so many steps above the minimum, or the maximum where that is less. -/
theorem valveTarget_eq (hmin : 0 ≤ min) (hrange : min ≤ max) (hmax : max < 10 ^ 12)
    (hstep : 0 < step) (index : ℕ) :
    valveTarget min max step index = valveRate min max step index := by
  have hsteps : 0 ≤ valveSteps min max step index * step := by
    refine mul_nonneg ?_ hstep.le
    have hzero : valveSteps min max step 0 = 0 := valveSteps_zero (by rw [abs_lt]; omega)
    rw [← hzero]
    exact valveSteps_mono (mod_cast hrange) (mod_cast hstep) (Nat.zero_le index)
  rw [valveTarget, valveRate]
  generalize valveSteps min max step index = steps at *
  have hclamp : clamp (toDouble (min + toDouble (steps * step))) min max =
      (Min.min (min + steps * step) max : ℤ) := by
    rcases le_total (min + steps * step) max with hle | hge
    · have hexact : toDouble (min + toDouble (steps * step)) = (min + steps * step : ℤ) := by
        rw [← Int.cast_mul, toDouble_intCast (by rw [abs_lt]; omega), ← Int.cast_add,
          toDouble_intCast (by rw [abs_lt]; omega)]
      rw [hexact, clamp, ← Int.cast_max, ← Int.cast_min]
      congr 1
      omega
    · -- whatever is lost on the way, the sum is not rounded below the maximum
      have hspan : ((max - min : ℤ) : ℚ) ≤ toDouble (steps * step) := by
        have h := toDouble_mono (Int.cast_le.mpr (by omega : max - min ≤ steps * step))
        rwa [toDouble_intCast (by rw [abs_lt]; omega), Int.cast_mul] at h
      have htop : (max : ℚ) ≤ toDouble (min + toDouble (steps * step)) := by
        have hsum : (max : ℚ) ≤ min + toDouble (steps * step) := by
          push_cast at hspan
          linarith
        have h := toDouble_mono hsum
        rwa [toDouble_intCast (by rw [abs_lt]; omega)] at h
      rw [clamp, min_eq_right hge, min_eq_left (htop.trans (le_max_right _ _))]
  rw [hclamp, stabilize, toPrecision_intCast] <;> rw [abs_lt] <;> omega

theorem valveRate_mono (hrange : min ≤ max) (hstep : 0 < step) :
    Monotone (valveRate min max step) := by
  intro i j hij
  have hsteps := valveSteps_mono (mod_cast hrange : (min : ℚ) ≤ max)
    (mod_cast hstep : (0 : ℚ) < step) hij
  have := mul_le_mul_of_nonneg_right hsteps hstep.le
  rw [valveRate, valveRate]
  omega

theorem valveRate_le (index : ℕ) : valveRate min max step index ≤ max := min_le_right _ _

/-- A target below the maximum is whole steps above the minimum. -/
theorem exists_steps_of_valveRate_lt {index : ℕ} (hmin : |min| < 2 ^ 53) (hrange : min ≤ max)
    (hstep : 0 < step) (h : valveRate min max step index < max) :
    ∃ steps, 0 ≤ steps ∧ valveRate min max step index = min + steps * step := by
  refine ⟨valveSteps min max step index, ?_, ?_⟩
  · rw [← valveSteps_zero hmin]
    exact valveSteps_mono (mod_cast hrange) (mod_cast hstep) (Nat.zero_le index)
  · rw [valveRate] at h ⊢
    omega

/-- **The last target** is whole steps above the minimum if they fall short of the maximum by less
than half a step, and else it is the maximum. -/
theorem valveRate_last (hmin : 0 ≤ min) (hrange : min ≤ max) (hmax : max < 10 ^ 12)
    (hstep : 0 < step) (hle : step ≤ max - min) :
    if 2 * ((max - min) % step) < step then
      ∃ steps, 0 ≤ steps ∧ valveRate min max step 11 = min + steps * step
    else valveRate min max step 11 = max := by
  have hdiv := Int.mul_ediv_add_emod (max - min) step
  have hrem := Int.emod_lt_of_pos (max - min) hstep
  have hrem' := Int.emod_nonneg (max - min) hstep.ne'
  have hiff := mathRound_toDouble_le_iff (sub_nonneg.mpr hrange) (by omega) hstep hle
  rw [← valveSteps_last hmin hrange hmax] at hiff
  have hzero : valveSteps min max step 0 = 0 := valveSteps_zero (by rw [abs_lt]; omega)
  have hnonneg : 0 ≤ valveSteps min max step 11 := by
    rw [← hzero]
    exact valveSteps_mono (mod_cast hrange) (mod_cast hstep) (Nat.zero_le 11)
  rw [valveRate]
  split_ifs with hhalf
  · have := mul_le_mul_of_nonneg_right (hiff.mpr hhalf) hstep.le
    refine ⟨valveSteps min max step 11, hnonneg, min_eq_left ?_⟩
    linarith
  · have hmore : (max - min) / step + 1 ≤ valveSteps min max step 11 := by
      by_contra! hless
      exact hhalf (hiff.mp (by omega))
    have := mul_le_mul_of_nonneg_right hmore hstep.le
    refine min_eq_right ?_
    linarith

/-- **Targets that differ** grow with the position. -/
theorem eq_of_getValveTargets {capability : NumericControlSnapshot} {targets : List Number}
    (h : getValveTargets capability = some targets) (hcmin : capability.min = min)
    (hcmax : capability.max = max) (hcstep : capability.step = step) (hmin : 0 ≤ min)
    (hrange : min ≤ max) (hmax : max < 10 ^ 12) (hstep : 0 < step) :
    targets = (List.range 12).map (fun index => ((valveRate min max step index : ℤ) : Number)) ∧
      ∀ i j, i < j → j < 12 → valveRate min max step i < valveRate min max step j := by
  rw [getValveTargets, hcmin, hcmax, hcstep] at h
  dsimp only at h
  split_ifs at h with hfinite hset
  have htargets : (List.range openingPositionCount).map
      (fun index => Number.finite (valveTarget min max step index)) =
        (List.range 12).map fun index => ((valveRate min max step index : ℤ) : Number) :=
    List.map_congr_left fun index _ => congrArg _ (valveTarget_eq hmin hrange hmax hstep index)
  rw [htargets] at h hset
  refine ⟨(Option.some_inj.mp h).symm, fun i j hij hj => ?_⟩
  have hnodup : ((List.range 12).map
      fun index => ((valveRate min max step index : ℤ) : Number)).Nodup := by
    rw [← List.dedup_eq_self]
    refine (List.dedup_sublist _).eq_of_length ?_
    rw [hset, List.length_map, List.length_range]
    rfl
  refine (valveRate_mono hrange hstep hij.le).lt_of_ne fun heq => hij.ne ?_
  exact List.inj_on_of_nodup_map hnodup (List.mem_range.mpr (hij.trans hj))
    (List.mem_range.mpr hj) (Number.coe_inj.mpr heq)

end

end IngestionLab.Frontend
