import IngestionLab.Frontend.ThrottlerValve
import IngestionLab.Wire.Config

/-!
# The openings of the valve, taken by the load generator

The targets of the valve are rates within the range of the configuration. All but the last
are a whole number of steps above its minimum, as the load generator asks of a rate; the last
one is so exactly if the whole steps of the range fall short of its maximum by less than half
a step (`IngestionLab.RangeConfig.takesTargets_iff`). Otherwise the last position is rounded
up beyond the maximum and cut off there, between two steps.
-/

namespace IngestionLab

open Frontend JS

/-- **Targets of a range that can be asked for**: twelve of them from the minimum up, each of
which the load generator and the frontend take. -/
structure RangeConfig.TakesTargets (p : RangeConfig) (targets : List Number) : Prop where
  length : targets.length = 12
  increasing : targets.Pairwise fun a b => a.lt b = true
  head : targets.head? = some (p.min : Number)
  le_max : ∀ target ∈ targets, target.le p.max = true
  contains : ∀ target ∈ targets, ∃ z : ℤ, target = z ∧ p.contains z = true
  isRangeValue : ∀ target ∈ targets, isRangeValue (.number target) p.toSnapshot = true

/-- Whole steps above the minimum of a range are taken up to its maximum. -/
theorem RangeConfig.contains_add_mul {p : RangeConfig} {steps : ℤ} (hsteps : 0 ≤ steps)
    (hstep : 0 < p.step) (hle : p.min + steps * p.step ≤ p.max) :
    p.contains (p.min + steps * p.step) = true := by
  have hnonneg := mul_nonneg hsteps hstep.le
  refine contains_iff.mpr ⟨by omega, hle, ?_⟩
  rw [add_sub_cancel_left, Int.mul_tmod_left]

/-- The maximum of a range is taken if the range is whole steps. -/
theorem RangeConfig.contains_max_iff {p : RangeConfig} (hrange : p.min ≤ p.max) :
    p.contains p.max = true ↔ (p.max - p.min) % p.step = 0 := by
  rw [contains_iff, Int.tmod_eq_emod_of_nonneg (sub_nonneg.mpr hrange)]
  exact ⟨fun h => h.2.2, fun h => ⟨hrange, le_rfl, h⟩⟩

/-- **The load generator takes all the targets** of the valve, which the frontend takes too, if and
only if less than half a step is left between the whole steps of the range and its maximum. -/
theorem RangeConfig.takesTargets_iff {p : RangeConfig} {value : Option Number}
    {connectionState : ConnectionState} {targets : List Number}
    (hvalid : p.validateRequestedTPS = none) (hmax : p.max < 10 ^ 12)
    (htargets : getValveTargets
      (throttlerRequestedTpsControl value (some p.toSnapshot) connectionState) = some targets) :
    p.TakesTargets targets ↔ 2 * ((p.max - p.min) % p.step) < p.step := by
  obtain ⟨hp, hmin, hrange⟩ := valid_of_validateRequestedTPS hvalid
  obtain ⟨rfl, hincreasing⟩ :=
    eq_of_getValveTargets htargets rfl rfl rfl hmin hrange.le hmax hp.step
  have hsmall : |p.min| < 2 ^ 53 := by
    rw [abs_lt]
    omega
  have hbelow : ∀ index < 11, valveRate p.min p.max p.step index < p.max := fun index hindex =>
    (hincreasing index 11 hindex (by omega)).trans_le (valveRate_le 11)
  have hgrid : ∀ index < 11, p.contains (valveRate p.min p.max p.step index) = true := by
    intro index hindex
    obtain ⟨steps, hsteps, heq⟩ :=
      exists_steps_of_valveRate_lt hsmall hrange.le hp.step (hbelow index hindex)
    rw [heq]
    exact contains_add_mul hsteps hp.step (heq ▸ valveRate_le index)
  have hfirst : valveRate p.min p.max p.step 0 = p.min := by
    rw [valveRate, valveSteps_zero hsmall, zero_mul, add_zero, min_eq_left hrange.le]
  -- the second target is a step above the first, and below the maximum
  have hle : p.step ≤ p.max - p.min := by
    obtain ⟨steps, -, heq⟩ :=
      exists_steps_of_valveRate_lt hsmall hrange.le hp.step (hbelow 1 (by omega))
    have hfirst' := hincreasing 0 1 one_pos (by omega)
    have hsecond := hbelow 1 (by omega)
    have hsteps : 1 ≤ steps := by
      by_contra! hsteps
      have := mul_nonpos_of_nonpos_of_nonneg (by omega : steps ≤ 0) hp.step.le
      omega
    have := le_mul_of_one_le_left hp.step.le hsteps
    omega
  have hlast := valveRate_last hmin hrange.le hmax hp.step hle
  constructor
  · intro h
    by_contra hhalf
    rw [if_neg hhalf] at hlast
    obtain ⟨z, hz, hcontains⟩ := h.contains (p.max : Number)
      (List.mem_map.mpr ⟨11, by decide, Number.coe_inj.mpr hlast⟩)
    rw [← Number.coe_inj.mp hz, contains_max_iff hrange.le] at hcontains
    have := hp.step
    omega
  · intro hhalf
    rw [if_pos hhalf] at hlast
    have hcontains : ∀ index < 12, p.contains (valveRate p.min p.max p.step index) = true := by
      intro index hindex
      rcases Nat.lt_succ_iff_lt_or_eq.mp hindex with hindex | rfl
      · exact hgrid index hindex
      · obtain ⟨steps, hsteps, heq⟩ := hlast
        rw [heq]
        exact contains_add_mul hsteps hp.step (heq ▸ valveRate_le 11)
    have hsafe : p.max ≤ Number.maxSafeInteger := by
      rw [Number.maxSafeInteger]
      omega
    have htarget : ∀ target ∈ (List.range 12).map
        (fun index => ((valveRate p.min p.max p.step index : ℤ) : Number)),
          ∃ z : ℤ, target = z ∧ p.contains z = true := by
      rintro target htarget
      obtain ⟨index, hindex, rfl⟩ := List.mem_map.mp htarget
      exact ⟨_, rfl, hcontains index (List.mem_range.mp hindex)⟩
    refine ⟨by simp, ?_, ?_, ?_, htarget, ?_⟩
    · rw [List.pairwise_map]
      refine List.pairwise_lt_range.imp_of_mem fun {i j} _ hj hij => ?_
      rw [Number.lt_coe]
      exact decide_eq_true (hincreasing i j hij (List.mem_range.mp hj))
    · rw [List.head?_map, List.head?_range]
      exact congrArg some (Number.coe_inj.mpr hfirst)
    · intro target hmem
      obtain ⟨z, rfl, hz⟩ := htarget target hmem
      rw [Number.le_coe]
      exact decide_eq_true (contains_iff.mp hz).2.1
    · intro target hmem
      exact (isRangeValue_iff hmin hp.step hsafe).mpr (htarget target hmem)

/-- The rates of 0 to 4000000 in steps of 200000. -/
theorem RangeConfig.takesTargets_of_whole_steps :
    (⟨2000000, 0, 4000000, 200000, requestedTPSUnit, immediate⟩ : RangeConfig).TakesTargets
      ([0, 400000, 800000, 1000000, 1400000, 1800000, 2200000, 2600000, 3000000, 3200000, 3600000,
        4000000].map fun rate : ℕ => (rate : Number)) := by
  have htargets : getValveTargets (throttlerRequestedTpsControl none
      (some (⟨2000000, 0, 4000000, 200000, requestedTPSUnit, immediate⟩ : RangeConfig).toSnapshot)
      .connected) = some ([0, 400000, 800000, 1000000, 1400000, 1800000, 2200000, 2600000, 3000000,
        3200000, 3600000, 4000000].map fun rate : ℕ => (rate : Number)) := by
    decide +kernel
  exact (takesTargets_iff (by decide) (by decide) htargets).mpr (by decide)

/-- The rates of 0 to 23 in steps of 2: the last target is 23, which is no number of steps. -/
theorem RangeConfig.not_takesTargets_of_odd_maximum :
    (⟨0, 0, 23, 2, requestedTPSUnit, immediate⟩ : RangeConfig).validateRequestedTPS = none ∧
      ∃ targets, getValveTargets (throttlerRequestedTpsControl none
        (some (⟨0, 0, 23, 2, requestedTPSUnit, immediate⟩ : RangeConfig).toSnapshot) .connected) =
          some targets ∧
        ¬(⟨0, 0, 23, 2, requestedTPSUnit, immediate⟩ : RangeConfig).TakesTargets targets := by
  refine ⟨by decide, [0, 2, 4, 6, 8, 10, 12, 14, 16, 18, 20, 23].map fun rate : ℕ => (rate : Number),
    by decide +kernel, fun h => ?_⟩
  obtain ⟨z, hz, hcontains⟩ := h.contains (23 : ℕ) (by decide)
  rw [← (Number.coe_inj (a := 23)).mp hz] at hcontains
  exact absurd hcontains (by decide)

end IngestionLab
