import IngestionLab.Loadgen.Config.Valid
import IngestionLab.Loadgen.Throttler.Pace

/-!
# The timing arithmetic

Two durations are computed from the configuration in 64-bit integers: the pacing interval
of a batch and the retry delay of an attempt. The bounds validation puts on the read batch
size and on the listed delays are what keeps either from wrapping, and the guards of the
retry delay from ever being taken.

* `IngestionLab.SenderRetryConfig.delay_exact`: the retry delay.
* `IngestionLab.timing_exact`: **both are computed exactly** under every configuration that
  passes validation.
-/

namespace IngestionLab

open Go

/-! ### What validation guarantees of the durations -/

/-- The read batch size is within the pacing limit. -/
theorem Config.pacing_of_validate {net : NetParsers} {cfg : Config} (h : cfg.validate net = none) :
    cfg.reader.readBatchSize.max ≤ maxInt64.tdiv second := by
  rw [validate] at h
  split_ifs at h with h1 h2 h3 h4
  all_goals
    simp only [Option.or_eq_none_iff, Option.map_eq_none_iff, reduceCtorEq, and_false] at h
  exact not_lt.mp h4

/-- The scan of the delays finds nothing wrong. -/
theorem delaysError_eq_none {jitterPercent : ℤ} {delays : List ℤ} {index : ℕ} {previous : Option ℤ}
    (h : delaysError jitterPercent index previous delays = none) :
    ∀ delay ∈ delays, 0 < delay ∧ delay ≤ senderRetryMaxDelayMS jitterPercent := by
  induction delays generalizing index previous with
  | nil => exact fun _ hd => absurd hd List.not_mem_nil
  | cons delay rest ih =>
    rw [delaysError] at h
    split_ifs at h with h1 h2 h3
    intro d hd
    rcases List.mem_cons.mp hd with rfl | hd
    · exact ⟨not_le.mp h1, not_lt.mp h2⟩
    · exact ih h d hd

/-- A retry schedule passes its check. -/
structure SenderRetryConfig.Valid (p : SenderRetryConfig) : Prop where
  mutability : p.mutability = startupOnly
  jitterPercent : p.jitterPercent = 20
  nonempty : p.delaysMS ≠ []
  delays : ∀ delay ∈ p.delaysMS, 0 < delay ∧ delay ≤ senderRetryMaxDelayMS 20

theorem SenderRetryConfig.valid_of_validate {p : SenderRetryConfig} (h : p.validate = none) :
    p.Valid := by
  rw [validate] at h
  split_ifs at h with h1 h2 h3
  rw [not_not] at h1 h2
  rw [h2] at h
  exact ⟨h1, h2, h3, delaysError_eq_none h⟩

theorem Config.retry_of_validate {net : NetParsers} {cfg : Config} (h : cfg.validate net = none) :
    cfg.sender.retry.Valid := by
  obtain ⟨-, -, -, -, -, -, -, -, -, hsender, -⟩ := Config.checks_of_validate h
  simp only [SenderConfig.validate, Option.or_eq_none_iff] at hsender
  exact SenderRetryConfig.valid_of_validate hsender.2.2

/-! ### The retry delay -/

/-- **A retry delay computed exactly** from a listed delay and a jitter: none of the
operations wraps, none of the guards is taken, and the result is within 20 percent of the
listed delay. `base` is the delay in nanoseconds, `adjustment` the jitter of it. -/
structure ExactDelay (delayMS jitter base adjustment delay : ℤ) : Prop where
  base_eq : base = delayMS * millisecond
  adjustment_eq : adjustment = base.tdiv 100 * jitter + (base.tmod 100 * jitter).tdiv 100
  delay_eq : delay = base + adjustment
  unguarded : ¬(delayMS ≤ 0 ∨ maxInt64.tdiv millisecond < delayMS)
  unsaturated : ¬(0 < adjustment ∧ maxInt64 - base < adjustment)
  positive : ¬delay ≤ 0
  below : delay < maxInt64
  wrap_base : wrap64 (delayMS * millisecond) = delayMS * millisecond
  wrap_hundredths : wrap64 (base.tdiv 100 * jitter) = base.tdiv 100 * jitter
  wrap_rest : wrap64 (base.tmod 100 * jitter) = base.tmod 100 * jitter
  wrap_adjustment : wrap64 adjustment = adjustment
  wrap_room : wrap64 (maxInt64 - base) = maxInt64 - base
  wrap_delay : wrap64 delay = delay
  near : 80 * base ≤ 100 * delay ∧ 100 * delay ≤ 120 * base

/-- A delay computed exactly is what the code computes. -/
theorem ExactDelay.senderRetryDuration_eq {delayMS jitter base adjustment delay : ℤ}
    (h : ExactDelay delayMS jitter base adjustment delay) :
    senderRetryDuration delayMS jitter = delay := by
  have hbase : wrap64 (delayMS * millisecond) = base := h.wrap_base.trans h.base_eq.symm
  have hadjustment : base.tdiv 100 * jitter + (base.tmod 100 * jitter).tdiv 100 = adjustment :=
    h.adjustment_eq.symm
  have hdelay : base + adjustment = delay := h.delay_eq.symm
  rw [senderRetryDuration, if_neg h.unguarded]
  simp only [hbase, h.wrap_hundredths, h.wrap_rest, hadjustment, h.wrap_adjustment, h.wrap_room,
    if_neg h.unsaturated, hdelay, h.wrap_delay, if_neg h.positive]

/-- A listed delay within the bound is computed exactly. -/
theorem exactDelay {delayMS jitter : ℤ} (hpos : 0 < delayMS)
    (hmax : delayMS ≤ senderRetryMaxDelayMS 20) (hlow : -20 ≤ jitter) (hhigh : jitter ≤ 20) :
    ExactDelay delayMS jitter (delayMS * 1000000) (delayMS * 10000 * jitter)
      (delayMS * 1000000 + delayMS * 10000 * jitter) := by
  have hbound : senderRetryMaxDelayMS 20 = 7686143364045 := by decide
  have hlimit : maxInt64.tdiv millisecond = 9223372036854 := by decide
  rw [hbound] at hmax
  have hhundredths : (delayMS * 1000000).tdiv 100 = delayMS * 10000 := by
    rw [show delayMS * 1000000 = delayMS * 10000 * 100 by ring]
    exact Int.mul_tdiv_cancel _ (by decide)
  have hrest : (delayMS * 1000000).tmod 100 = 0 := by
    rw [show delayMS * 1000000 = delayMS * 10000 * 100 by ring]
    exact Int.mul_tmod_left _ _
  -- the jitter is at most a fifth of the delay, either way
  have hup : delayMS * 10000 * jitter ≤ delayMS * 10000 * 20 :=
    mul_le_mul_of_nonneg_left hhigh (by omega)
  have hdown : delayMS * 10000 * -20 ≤ delayMS * 10000 * jitter :=
    mul_le_mul_of_nonneg_left hlow (by omega)
  generalize hadjustment : delayMS * 10000 * jitter = adjustment at *
  have hwrap {x : ℤ} (h0 : -maxInt64 ≤ x) (h1 : x ≤ maxInt64) : wrap64 x = x := wrap64_of_range h0 h1
  unfold maxInt64 at hwrap
  exact {
    base_eq := rfl
    adjustment_eq := by rw [hhundredths, hrest, hadjustment, Int.zero_mul, Int.zero_tdiv, add_zero]
    delay_eq := rfl
    unguarded := by rw [hlimit]; omega
    unsaturated := by unfold maxInt64; omega
    positive := by omega
    below := by unfold maxInt64; omega
    wrap_base := hwrap (by unfold millisecond; omega) (by unfold millisecond; omega)
    wrap_hundredths := by
      rw [hhundredths, hadjustment]
      exact hwrap (by omega) (by omega)
    wrap_rest := by rw [hrest, Int.zero_mul]; decide
    wrap_adjustment := hwrap (by omega) (by omega)
    wrap_room := by
      unfold maxInt64
      exact hwrap (by omega) (by omega)
    wrap_delay := hwrap (by omega) (by omega)
    near := by omega }

/-- The jitter of an attempt, in percent. -/
def SenderRetryConfig.jitter (p : SenderRetryConfig) (attempt : ℕ) (batch : Batch) : ℤ :=
  deterministicSenderValue batch attempt (2 * p.jitterPercent + 1).toNat - p.jitterPercent

/-- **The retry delay is computed exactly**, for every attempt and every batch. -/
theorem SenderRetryConfig.delay_exact {p : SenderRetryConfig} (h : p.Valid) {attempt : ℕ}
    (hattempt : 1 ≤ attempt) (batch : Batch) :
    ∃ delayMS base adjustment delay,
      p.delaysMS[min (attempt - 1) (p.delaysMS.length - 1)]? = some delayMS ∧
        p.delay attempt batch = some delay ∧
          ExactDelay delayMS (p.jitter attempt batch) base adjustment delay := by
  have hlen : 0 < p.delaysMS.length := List.length_pos_of_ne_nil h.nonempty
  have hindex : min ((attempt : ℤ) - 1) ((p.delaysMS.length : ℤ) - 1) =
      (min (attempt - 1) (p.delaysMS.length - 1) : ℕ) := by omega
  have hlt : min (attempt - 1) (p.delaysMS.length - 1) < p.delaysMS.length := by omega
  have hlisted := List.getElem?_eq_getElem hlt
  obtain ⟨hpos, hmax⟩ := h.delays _ (List.getElem_mem hlt)
  have hmodulus : (2 * (20 : ℤ) + 1).toNat = 41 := rfl
  have hsmall : deterministicSenderValue batch attempt 41 < 41 := Nat.mod_lt _ (by decide)
  have hjitter : p.jitter attempt batch = (deterministicSenderValue batch attempt 41 : ℤ) - 20 := by
    rw [jitter, h.jitterPercent, hmodulus]
  have hlow : -20 ≤ p.jitter attempt batch := by omega
  have hhigh : p.jitter attempt batch ≤ 20 := by omega
  have hexact := exactDelay hpos hmax hlow hhigh
  refine ⟨_, _, _, _, hlisted, ?_, hexact⟩
  have hnonneg : ¬((min (attempt - 1) (p.delaysMS.length - 1) : ℕ) : ℤ) < 0 := by omega
  have hduration := hexact.senderRetryDuration_eq
  rw [jitter] at hduration
  simp only [delay, hindex, hnonneg, ↓reduceIte, Int.toNat_natCast, hlisted, Option.map_some,
    hduration, jitter]

/-! ### The main result -/

/-- The action compares the clock with the pacing interval. -/
def Throttler.Action.comparesPace : Throttler.Action → Bool
  | .checkPace _ _ | .checkTry _ _ => true
  | _ => false

/-- **The timing arithmetic is exact.** Under a configuration that passes validation:

* for a rate the commands can set and a batch no longer than the read batch size may be,
  the pacing interval is the length over the rate rounded down, the product of the two
  neither wraps nor is the rate zero where it is divided by;
* the pacing interval is computed only while the rate is not zero;
* the retry delay of every attempt is computed exactly, from the delay listed for it. -/
theorem timing_exact {net : NetParsers} {cfg : Config} (h : cfg.validate net = none) :
    (∀ (batch : Batch) (requestedTPS : ℤ), (batch.length : ℤ) ≤ cfg.reader.readBatchSize.max →
      cfg.throttler.requestedTPS.contains requestedTPS = true → requestedTPS ≠ 0 →
        0 < requestedTPS ∧ wrap64 (batch.length * second) = batch.length * second ∧
        Throttler.interval batch requestedTPS =
          ((batch.length * 1000000000 / requestedTPS.toNat : ℕ) : ℤ) ∧
        0 ≤ Throttler.interval batch requestedTPS ∧
        Throttler.interval batch requestedTPS ≤ maxInt64) ∧
      (∀ (now : ℕ) (t : Throttler) (a : Throttler.Action), t.Enabled now a →
        a.comparesPace = true → t.settings.installed = true → t.settings.requestedTPS ≠ 0) ∧
      ∀ (attempt : ℕ) (batch : Batch), 1 ≤ attempt →
        ∃ delayMS base adjustment delay,
          cfg.sender.retry.delaysMS[min (attempt - 1) (cfg.sender.retry.delaysMS.length - 1)]? =
            some delayMS ∧
          cfg.sender.retry.delay attempt batch = some delay ∧
            ExactDelay delayMS (cfg.sender.retry.jitter attempt batch) base adjustment delay := by
  refine ⟨?_, ?_, fun attempt batch ha =>
    SenderRetryConfig.delay_exact (Config.retry_of_validate h) ha batch⟩
  · intro batch requestedTPS hlength hcontains hzero
    have hmin := (Config.valid_of_validate h).requestedTPSMin
    have hrate : 0 < requestedTPS := by
      have := (RangeConfig.bounds_of_contains hcontains).1
      omega
    have hlimit : maxInt64.tdiv second = 9223372036 := by decide
    have hpacing := Config.pacing_of_validate h
    rw [hlimit] at hpacing
    have hfits : Throttler.Fits batch := by
      unfold Throttler.Fits second maxInt64
      omega
    have hnonneg : 0 ≤ (batch.length : ℤ) * second := by
      unfold second
      omega
    have hinterval := Throttler.interval_eq hrate hfits
    refine ⟨hrate, wrap64_of_range (by unfold maxInt64; omega) hfits, hinterval, ?_, ?_⟩
    · rw [hinterval]
      exact Int.natCast_nonneg _
    · have hle : batch.length * 1000000000 / requestedTPS.toNat ≤ batch.length * 1000000000 :=
        Nat.div_le_self _ _
      unfold Throttler.Fits second at hfits
      rw [hinterval]
      omega
  · intro now t a ha hpace hinstalled hzero
    cases a
    case checkPace batch since => exact ha.2.1 ⟨hinstalled, hzero⟩
    case checkTry batch since => exact ha.2.1 ⟨hinstalled, hzero⟩
    all_goals exact absurd hpace nofun

/-- A full batch at the initial rate is to wait for half a millisecond, and the first retry
of an empty batch is not before 200 milliseconds. -/
theorem timing_exampleConfig :
    Throttler.interval (List.replicate 1000 ⟨"c"⟩) 2000000 = 500000 ∧
      ∃ delay, exampleConfig.sender.retry.delay 1 [] = some delay ∧ 200000000 ≤ delay := by
  have hvalid : exampleConfig.validate exampleParsers = none := by decide +kernel
  obtain ⟨hpace, -, hretry⟩ := timing_exact hvalid
  have hlength : (List.replicate 1000 (⟨"c"⟩ : Transaction)).length = 1000 := List.length_replicate
  have hinterval := (hpace (List.replicate 1000 ⟨"c"⟩) 2000000 (by rw [hlength]; decide) (by decide)
    (by decide)).2.2.1
  rw [hlength] at hinterval
  obtain ⟨delayMS, base, adjustment, delay, hlisted, hdelay, hexact⟩ := hretry 1 [] le_rfl
  refine ⟨hinterval, delay, hdelay, ?_⟩
  have hfirst : delayMS = 250 := (Option.some.inj hlisted).symm
  have hbase := hexact.base_eq
  have hnear := hexact.near.1
  rw [hfirst] at hbase
  unfold millisecond at hbase
  omega

end IngestionLab
