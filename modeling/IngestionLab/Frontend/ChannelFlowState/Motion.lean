import IngestionLab.Frontend.ChannelFlowState
import Mathlib.Algebra.Order.Floor.Ring
import Mathlib.Data.Rat.Floor
import Mathlib.Data.Sign.Basic
import Mathlib.Tactic.Linarith
import Mathlib.Tactic.Positivity

/-!
# How a channel's pressure moves

A channel is observed again and again, and the pressure shown of it depends on what is
observed and on what was shown before. It stays between 0 and 1, it moves toward what is
measured, by two units in a second (`IngestionLab.Frontend.Moves`), while the channel runs
and time counts (`IngestionLab.Frontend.countsFrom`), and no other time moves it: all this
is said of a pressure and of the one shown before it (`IngestionLab.Frontend.WellBehaved`).

* `IngestionLab.Frontend.Kept.next`: what is kept of a channel is the pressure shown last and
  the moment from which time counts.
* `IngestionLab.Frontend.wellBehaved_derive`: so the next observation is shown well.
* `IngestionLab.Frontend.derive_wellBehaved`: the deriver shows both channels of every
  snapshot so, each after what it has shown of that channel before.
-/

namespace IngestionLab.Frontend

open JS

/-! ### Moving -/

/-- **A move toward a target**, by two units in a second: to the target, if that is far
enough, and otherwise as far as that, rounded by less than a millionth. -/
def Moves (target elapsedMs old new : ℚ) : Prop :=
  if |target - old| ≤ 2 * elapsedMs / 1000 then new = target
  else |new - (old + SignType.sign (target - old) * (2 * elapsedMs / 1000))| ≤ 5 / 10 ^ 7

/-- **Not too far**: within two units in a second of where it was, and between there and the
target, but for the rounding. -/
structure WithinReach (target elapsedMs old new : ℚ) : Prop where
  near : |new - old| ≤ 2 * elapsedMs / 1000 + 5 / 10 ^ 7
  low : min old target - 5 / 10 ^ 7 ≤ new
  high : new ≤ max old target + 5 / 10 ^ 7

theorem WithinReach.stay {target elapsedMs : ℚ} (h : 0 ≤ elapsedMs) (old : ℚ) :
    WithinReach target elapsedMs old old where
  near := by
    rw [sub_self, abs_zero]
    positivity
  low := by
    have := min_le_left old target
    linarith
  high := by
    have := le_max_left old target
    linarith

/-- Rounding to a millionth leaves a number between 0 and 1 there. -/
theorem roundMillionth_mem {q : ℚ} (h0 : 0 ≤ q) (h1 : q ≤ 1) :
    0 ≤ (mathRound (q * 1000000) : ℚ) / 1000000 ∧ (mathRound (q * 1000000) : ℚ) / 1000000 ≤ 1 := by
  have hlow : 0 ≤ mathRound (q * 1000000) := by
    rw [mathRound]
    exact Int.floor_nonneg.mpr (by positivity)
  have hhigh : mathRound (q * 1000000) ≤ 1000000 := by
    rw [mathRound, ← Int.lt_add_one_iff, Int.floor_lt]
    push_cast
    linarith
  have hhigh' : (mathRound (q * 1000000) : ℚ) ≤ 1000000 := mod_cast hhigh
  constructor
  · have : (0 : ℚ) ≤ mathRound (q * 1000000) := mod_cast hlow
    positivity
  · rw [div_le_one (by norm_num)]
    exact hhigh'

theorem abs_roundMillionth_sub_le (q : ℚ) :
    |(mathRound (q * 1000000) : ℚ) / 1000000 - q| ≤ 5 / 10 ^ 7 := by
  have hlow := Int.floor_le (q * 1000000 + 1 / 2)
  have hhigh := Int.lt_floor_add_one (q * 1000000 + 1 / 2)
  rw [mathRound, abs_le]
  constructor
  · rw [neg_le_sub_iff_le_add, div_add' _ _ _ (by norm_num), le_div_iff₀ (by norm_num)]
    linarith
  · rw [sub_le_iff_le_add, div_le_iff₀ (by norm_num)]
    linarith

/-- Where a move that stops short of its target would get to. -/
theorem between_of_lt {old target maxChange : ℚ} (h0 : 0 ≤ maxChange)
    (h : maxChange < |target - old|) :
    min old target ≤ old + SignType.sign (target - old) * maxChange ∧
      old + SignType.sign (target - old) * maxChange ≤ max old target := by
  rcases lt_trichotomy old target with hlt | rfl | hgt
  · rw [abs_of_pos (sub_pos.mpr hlt)] at h
    rw [sign_pos (sub_pos.mpr hlt), min_eq_left hlt.le, max_eq_right hlt.le, SignType.coe_one]
    constructor <;> linarith
  · rw [sub_self, abs_zero] at h
    exact absurd h0 (not_le.mpr h)
  · rw [abs_of_neg (sub_neg.mpr hgt)] at h
    rw [sign_neg (sub_neg.mpr hgt), min_eq_right hgt.le, max_eq_left hgt.le, SignType.coe_neg_one]
    constructor <;> linarith

/-- **What `moveDisplayedPressure` does** while time passes. -/
theorem moves_moveDisplayedPressure {current target elapsedMs : ℚ} (h : 0 < elapsedMs) :
    Moves target elapsedMs current (moveDisplayedPressure current target elapsedMs) := by
  rw [moveDisplayedPressure, if_neg (not_le.mpr h), Moves]
  dsimp only
  rw [pressureUnitsPerSecond]
  split_ifs with hnear
  · rfl
  · exact abs_roundMillionth_sub_le _

/-- **A move does not go too far.** -/
theorem Moves.withinReach {target elapsedMs old new : ℚ} (h : Moves target elapsedMs old new)
    (hpos : 0 ≤ elapsedMs) : WithinReach target elapsedMs old new := by
  rw [Moves] at h
  split_ifs at h with hnear
  · subst h
    refine ⟨hnear.trans (le_add_of_nonneg_right (by norm_num)), ?_, ?_⟩
    · have := min_le_right old new
      linarith
    · have := le_max_right old new
      linarith
  · have hchange : 0 ≤ 2 * elapsedMs / 1000 := by positivity
    obtain ⟨hlow, hhigh⟩ := between_of_lt hchange (not_le.mp hnear)
    have hstep : |SignType.sign (target - old) * (2 * elapsedMs / 1000)| ≤ 2 * elapsedMs / 1000 := by
      rw [abs_mul, abs_of_nonneg hchange]
      refine mul_le_of_le_one_left hchange ?_
      cases SignType.sign (target - old) <;> simp
    obtain ⟨hbelow, habove⟩ := abs_le.mp h
    obtain ⟨hback, hforth⟩ := abs_le.mp hstep
    refine ⟨abs_le.mpr ⟨?_, ?_⟩, ?_, ?_⟩ <;> linarith

theorem moveDisplayedPressure_mem {current target : ℚ} (hcurrent : current ∈ Set.Icc 0 1)
    (htarget : target ∈ Set.Icc 0 1) (elapsedMs : ℚ) :
    moveDisplayedPressure current target elapsedMs ∈ Set.Icc (0 : ℚ) 1 := by
  rw [moveDisplayedPressure]
  split_ifs with h
  · exact hcurrent
  · dsimp only
    split_ifs with hnear
    · exact htarget
    · have hchange : 0 ≤ pressureUnitsPerSecond * elapsedMs / 1000 := by
        rw [pressureUnitsPerSecond]
        have := not_le.mp h
        positivity
      obtain ⟨hlow, hhigh⟩ := between_of_lt hchange (not_le.mp hnear)
      exact roundMillionth_mem ((le_min hcurrent.1 htarget.1).trans hlow)
        (hhigh.trans (max_le hcurrent.2 htarget.2))

/-- What is measured is between 0 and 1. -/
theorem effectiveChannelPressure_mem (channel : ChannelTelemetrySnapshot) :
    effectiveChannelPressure channel ∈ Set.Icc (0 : ℚ) 1 := by
  have hclamp : ∀ value, clampPressure value ∈ Set.Icc (0 : ℚ) 1 := fun value =>
    ⟨le_min zero_le_one (le_max_left _ _), min_le_left _ _⟩
  have hzero : (0 : ℚ) ∈ Set.Icc (0 : ℚ) 1 := ⟨le_rfl, zero_le_one⟩
  have hoccupancy : ∀ depth capacity, occupancyPressure depth capacity ∈ Set.Icc (0 : ℚ) 1 := by
    intro depth capacity
    rw [occupancyPressure.eq_def]
    split
    · split_ifs
      · exact hzero
      · exact hclamp _
    · exact hzero
  have hblocking : ∀ senders oldest, blockingPressure senders oldest ∈ Set.Icc (0 : ℚ) 1 := by
    intro senders oldest
    rw [blockingPressure.eq_def]
    split
    · exact hzero
    · split
      · split_ifs
        · exact hzero
        · exact hclamp _
      · exact hzero
  rw [effectiveChannelPressure]
  split_ifs
  · exact ⟨zero_le_one, le_rfl⟩
  · exact ⟨(hoccupancy _ _).1.trans (le_max_left _ _), max_le (hoccupancy _ _).2 (hblocking _ _).2⟩

/-! ### Observing -/

/-- **An observation of a channel**. -/
structure ChannelObservation where
  channel : ChannelTelemetrySnapshot
  runState : RunState
  connectionState : ConnectionState
  observedAtMs : Number

namespace ChannelObservation

/-- The mode of the channel. -/
def mode (o : ChannelObservation) : Option ChannelFlowState :=
  channelMode o.channel o.runState o.connectionState

/-- The channel runs, and the frontend is connected to it. -/
def Active (o : ChannelObservation) : Prop := o.runState = .running ∧ o.connectionState = .connected

/-- `deriveChannel`. -/
def derive (o : ChannelObservation) (state : ChannelDerivationState) :
    ChannelDerivationState × ChannelSnapshot :=
  deriveChannel state o.channel o.runState o.connectionState o.observedAtMs

/-- The time from one observation to another, where it goes forward. -/
def Forward (last o : ChannelObservation) (elapsedMs : ℚ) : Prop :=
  ∃ t t', last.observedAtMs = .finite t ∧ o.observedAtMs = .finite t' ∧ t < t' ∧ elapsedMs = t' - t

theorem active_of_mode {o : ChannelObservation} (h : o.mode = none) : o.Active := by
  rw [mode, channelMode] at h
  split_ifs at h with hconnected hrunning
  rw [Bool.or_eq_true, decide_eq_true_eq, not_or, not_not] at hconnected
  exact ⟨not_not.mp hrunning, hconnected.1⟩

end ChannelObservation

open ChannelObservation

/-! ### What is shown, one observation after the other -/

/-- **An observation of a channel, and what was shown of it.** -/
structure Shown where
  observation : ChannelObservation
  snapshot : ChannelSnapshot

/-- The pressure shown last, 0 at first. -/
def lastPressure (before : List Shown) : ℚ :=
  before.getLast?.elim 0 fun x => x.snapshot.displayedPressure

/-- **From when on time counts** after an observation, and from when on before it: from an
observation of a channel that runs, at a time that is a number, unless time went back there. -/
def ChannelObservation.countsFrom (o : ChannelObservation) (since : Option ℚ) : Option ℚ :=
  match o.mode, o.observedAtMs with
  | none, .finite t => if ∀ t' ∈ since, t' ≤ t then some t else none
  | _, _ => none

/-- From when on time counts after some observations. -/
def countsFrom (before : List Shown) : Option ℚ :=
  before.foldl (fun since x => x.observation.countsFrom since) none

/-- **What is shown of a channel**, after what was shown of it before. -/
structure WellBehaved (before : List Shown) (x : Shown) : Prop where
  channel : x.snapshot.toChannelTelemetrySnapshot = x.observation.channel
  mem : x.snapshot.displayedPressure ∈ Set.Icc (0 : ℚ) 1
  /-- Between two observations of a channel that runs, the pressure does not go too far, unless
  it jumps to 1. -/
  reach : ∀ last ∈ before.getLast?, last.observation.Active → x.observation.Active → ∀ elapsedMs,
    last.observation.Forward x.observation elapsedMs →
      hasRendezvousWaiter x.observation.channel = true ∧ x.snapshot.displayedPressure = 1 ∨
        WithinReach (effectiveChannelPressure x.observation.channel) elapsedMs
          last.snapshot.displayedPressure x.snapshot.displayedPressure
  /-- While time counts, it moves. -/
  moves : x.observation.mode = none → hasRendezvousWaiter x.observation.channel = false →
    ∀ t ∈ countsFrom before, ∀ t', x.observation.observedAtMs = .finite t' → t < t' →
      Moves (effectiveChannelPressure x.observation.channel) (t' - t) (lastPressure before)
        x.snapshot.displayedPressure
  /-- A rendezvous channel that somebody waits at is full. -/
  jumps : x.observation.mode = none → hasRendezvousWaiter x.observation.channel = true →
    x.snapshot.displayedPressure = 1
  /-- A channel that does not run keeps its pressure. -/
  stopped : ¬x.observation.Active → x.snapshot.displayedPressure = lastPressure before
  /-- Time in which the channel did not run, or that did not move forward, changes nothing. -/
  stays : hasRendezvousWaiter x.observation.channel = false →
    (∀ last ∈ before.getLast?, last.observation.Active → ∀ elapsedMs,
      ¬last.observation.Forward x.observation elapsedMs) →
      x.snapshot.displayedPressure = lastPressure before
  flowState : x.snapshot.flowState =
    x.observation.mode.getD (pressureFlowState x.snapshot.displayedPressure)

/-- **What is kept of a channel**, in terms of what was shown. -/
structure Kept (before : List Shown) (state : ChannelDerivationState) : Prop where
  pressure : state.displayedPressure = lastPressure before
  mem : lastPressure before ∈ Set.Icc (0 : ℚ) 1
  counts : countsFrom before = if state.pressureActive then state.observedAtMs else none
  active : state.pressureActive = true → state.observedAtMs.isSome = true

/-- How much time counts at an observation: none before any counts. -/
def elapsedMs (since : Option ℚ) (o : ChannelObservation) : Option ℚ :=
  since.elim (some 0) fun t => o.observedAtMs.toRat?.map (· - t)

section

variable {before : List Shown} {state : ChannelDerivationState} {o : ChannelObservation} {t : ℚ}

@[simp] theorem lastPressure_append (before : List Shown) (x : Shown) :
    lastPressure (before ++ [x]) = x.snapshot.displayedPressure := by
  rw [lastPressure, List.getLast?_concat]
  rfl

@[simp] theorem countsFrom_append (before : List Shown) (x : Shown) :
    countsFrom (before ++ [x]) = x.observation.countsFrom (countsFrom before) := by
  rw [countsFrom, List.foldl_append]
  rfl

/-- Time counts from the last observation, of a channel that ran. -/
theorem exists_getLast_of_countsFrom (h : t ∈ countsFrom before) :
    ∃ last ∈ before.getLast?, last.observation.mode = none ∧
      last.observation.observedAtMs = .finite t := by
  induction before using List.reverseRecOn with
  | nil => cases h
  | append_singleton before x ih =>
    refine ⟨x, List.getLast?_concat, ?_⟩
    rw [countsFrom_append, ChannelObservation.countsFrom.eq_def] at h
    split at h
    · next hmode hat =>
      split_ifs at h
      · rw [Option.mem_some] at h
        exact ⟨hmode, h ▸ hat⟩
      · cases h
    · cases h

/-- The pressure that is kept. -/
theorem Kept.displayedPressure_derive (h : Kept before state) (o : ChannelObservation) :
    (o.derive state).1.displayedPressure =
      if o.mode.isSome then lastPressure before
      else if hasRendezvousWaiter o.channel then 1
      else (elapsedMs (countsFrom before) o).elim (lastPressure before)
        (moveDisplayedPressure (lastPressure before) (effectiveChannelPressure o.channel)) := by
  obtain ⟨channel, runState, connectionState, observedAtMs⟩ := o
  have hactive := h.active
  rw [← h.pressure, h.counts, derive, deriveChannel.eq_def, mode, elapsedMs]
  dsimp only
  rcases channelMode channel runState connectionState with _ | m
  · cases hrunning : state.pressureActive with
    | false => rfl
    | true =>
      obtain ⟨last, hlast⟩ := Option.isSome_iff_exists.mp (hactive hrunning)
      rw [hlast]
      cases observedAtMs <;> rfl
  · rfl

/-- **What is kept, after one observation more.** -/
theorem Kept.next (h : Kept before state) (o : ChannelObservation) :
    Kept (before ++ [⟨o, (o.derive state).2⟩]) (o.derive state).1 where
  pressure := by
    rw [lastPressure_append]
    rfl
  mem := by
    have hshown : (o.derive state).2.displayedPressure = (o.derive state).1.displayedPressure := rfl
    rw [lastPressure_append, hshown, h.displayedPressure_derive]
    split_ifs
    · exact h.mem
    · exact ⟨zero_le_one, le_rfl⟩
    · cases elapsedMs (countsFrom before) o with
      | none => exact h.mem
      | some ms => exact moveDisplayedPressure_mem h.mem (effectiveChannelPressure_mem _) ms
  counts := by
    obtain ⟨channel, runState, connectionState, observedAtMs⟩ := o
    have hactive := h.active
    rw [countsFrom_append, h.counts, ChannelObservation.countsFrom.eq_def, derive,
      deriveChannel.eq_def, mode]
    dsimp only
    rcases channelMode channel runState connectionState with _ | m
    · cases hrunning : state.pressureActive with
      | false => cases observedAtMs <;> rfl
      | true =>
        obtain ⟨last, hlast⟩ := Option.isSome_iff_exists.mp (hactive hrunning)
        rw [hlast]
        cases observedAtMs with
        | finite t => simp
        | _ => rfl
    · rfl
  active := by
    obtain ⟨channel, runState, connectionState, observedAtMs⟩ := o
    rw [derive, deriveChannel.eq_def]
    dsimp only
    rcases channelMode channel runState connectionState with _ | m
    · intro hactive
      exact (Bool.and_eq_true_iff.mp hactive).1
    · intro hactive
      cases hactive

/-- Nothing has been shown yet. -/
theorem kept_nil : Kept [] {} where
  pressure := rfl
  mem := ⟨le_rfl, zero_le_one⟩
  counts := rfl
  active h := by cases h

/-- Where no time counts, the pressure of a channel that nobody waits at stays. -/
theorem Kept.displayedPressure_eq (h : Kept before state)
    (hwaiter : hasRendezvousWaiter o.channel = false)
    (hms : ∀ ms ∈ elapsedMs (countsFrom before) o, ms ≤ 0) :
    (o.derive state).1.displayedPressure = lastPressure before := by
  rw [h.displayedPressure_derive, hwaiter]
  split
  · rfl
  · cases hsome : elapsedMs (countsFrom before) o with
    | none => rfl
    | some ms =>
      rw [Option.elim_some, moveDisplayedPressure, if_pos (hms ms hsome)]
      rfl

/-- The time that counts is that since the last observation, of a channel that ran, or there
is none. -/
theorem elapsedMs_cases (before : List Shown) (o : ChannelObservation) :
    (∃ t ∈ countsFrom before, ∃ t', o.observedAtMs = .finite t' ∧ t < t') ∨
      ∀ ms ∈ elapsedMs (countsFrom before) o, ms ≤ 0 := by
  rw [elapsedMs]
  cases hcounts : countsFrom before with
  | none =>
    refine Or.inr fun ms hms => ?_
    rw [← Option.some_inj.mp (Option.mem_def.mp hms)]
  | some t =>
    cases hat : o.observedAtMs with
    | finite t' =>
      rcases lt_or_ge t t' with hlt | hge
      · exact Or.inl ⟨t, rfl, t', rfl, hlt⟩
      · refine Or.inr fun ms hms => ?_
        rw [← Option.some_inj.mp (Option.mem_def.mp hms)]
        exact sub_nonpos.mpr hge
    | nan | infinity negative => exact Or.inr fun ms hms => by cases hms

/-- While time counts, the whole move is made. -/
theorem Kept.moves_derive (h : Kept before state) (hmode : o.mode = none)
    (hwaiter : hasRendezvousWaiter o.channel = false) {t' : ℚ} (ht : t ∈ countsFrom before)
    (hat : o.observedAtMs = .finite t') (hlt : t < t') :
    Moves (effectiveChannelPressure o.channel) (t' - t) (lastPressure before)
      (o.derive state).1.displayedPressure := by
  have helapsed : elapsedMs (countsFrom before) o = some (t' - t) := by
    rw [elapsedMs, Option.mem_def.mp ht, hat]
    rfl
  rw [h.displayedPressure_derive, hmode, hwaiter, helapsed]
  exact moves_moveDisplayedPressure (sub_pos.mpr hlt)

theorem Kept.jumps_derive (h : Kept before state) (hmode : o.mode = none)
    (hwaiter : hasRendezvousWaiter o.channel = true) : (o.derive state).1.displayedPressure = 1 := by
  rw [h.displayedPressure_derive, hmode, hwaiter]
  rfl

theorem Kept.stopped_derive (h : Kept before state) (hmode : o.mode ≠ none) :
    (o.derive state).1.displayedPressure = lastPressure before := by
  rw [h.displayedPressure_derive, if_pos (Option.isSome_iff_ne_none.mpr hmode)]

/-- Whether time counts or not, the pressure does not go farther than in the time since the
last observation. -/
theorem Kept.withinReach_derive (h : Kept before state) {last : Shown} {elapsed : ℚ}
    (hlast : last ∈ before.getLast?) (hforward : last.observation.Forward o elapsed)
    (hjump : ¬(hasRendezvousWaiter o.channel = true ∧ (o.derive state).1.displayedPressure = 1)) :
    WithinReach (effectiveChannelPressure o.channel) elapsed last.snapshot.displayedPressure
      (o.derive state).1.displayedPressure := by
  obtain ⟨s, s', hs, hs', hlt, rfl⟩ := hforward
  have hpos : 0 ≤ s' - s := (sub_pos.mpr hlt).le
  have hlastPressure : lastPressure before = last.snapshot.displayedPressure := by
    rw [lastPressure, Option.mem_def.mp hlast]
    rfl
  rw [← hlastPressure]
  by_cases hmode : o.mode = none
  · have hwaiter : hasRendezvousWaiter o.channel = false :=
      Bool.eq_false_iff.mpr fun hwaiter => hjump ⟨hwaiter, h.jumps_derive hmode hwaiter⟩
    rcases elapsedMs_cases before o with ⟨t, ht, t', hat, hlt'⟩ | hnone
    · have hmove := h.moves_derive hmode hwaiter ht hat hlt'
      obtain ⟨last', hlast', -, hat'⟩ := exists_getLast_of_countsFrom ht
      obtain rfl : last = last' := Option.mem_unique hlast hlast'
      obtain rfl : s = t := Number.finite.inj (hs.symm.trans hat')
      obtain rfl : s' = t' := Number.finite.inj (hs'.symm.trans hat)
      exact hmove.withinReach hpos
    · rw [h.displayedPressure_eq hwaiter hnone]
      exact .stay hpos _
  · rw [h.stopped_derive hmode]
    exact .stay hpos _

/-- **Every observation is shown well.** -/
theorem wellBehaved_derive (h : Kept before state) (o : ChannelObservation) :
    WellBehaved before ⟨o, (o.derive state).2⟩ where
  channel := rfl
  mem := by
    have hmem := (h.next o).mem
    rwa [lastPressure_append] at hmem
  reach last hlast _ _ elapsed hforward := by
    by_cases hjump : hasRendezvousWaiter o.channel = true ∧ (o.derive state).1.displayedPressure = 1
    · exact Or.inl hjump
    · exact Or.inr (h.withinReach_derive hlast hforward hjump)
  moves hmode hwaiter t ht t' hat hlt := h.moves_derive hmode hwaiter ht hat hlt
  jumps hmode hwaiter := h.jumps_derive hmode hwaiter
  stopped hactive := h.stopped_derive fun hmode => hactive (active_of_mode hmode)
  stays hwaiter hstill := by
    rcases elapsedMs_cases before o with ⟨t, ht, t', hat, hlt⟩ | hnone
    · obtain ⟨last, hlast, hmode, hat'⟩ := exists_getLast_of_countsFrom ht
      exact absurd ⟨t, t', hat', hat, hlt, rfl⟩ (hstill last hlast (active_of_mode hmode) _)
    · exact h.displayedPressure_eq hwaiter hnone
  flowState := rfl

end

/-! ### The deriver -/

/-- What a snapshot says of one of its channels. -/
def observation (snapshot : LoadgenTelemetrySnapshot) (observedAtMs : Number)
    (channel : ChannelTelemetrySnapshot) : ChannelObservation :=
  ⟨channel, snapshot.runState, snapshot.connectionState, observedAtMs⟩

/-- Both channels of a snapshot, and what is shown of them. -/
def shownOfBoth (snapshot : LoadgenTelemetrySnapshot) (observedAtMs : Number)
    (derived : LoadgenSnapshot) : List Shown :=
  [⟨observation snapshot observedAtMs snapshot.readerChannel, derived.readerChannel⟩,
    ⟨observation snapshot observedAtMs snapshot.senderChannel, derived.senderChannel⟩]

/-- What was shown of a channel. -/
def ofChannel (id : ChannelId) (shown : List Shown) : List Shown :=
  shown.filter (·.observation.channel.id = id)

/-- The snapshot is the last one derived, and is not derived again. -/
def ChannelFlowStateDeriver.Repeats (deriver : ChannelFlowStateDeriver)
    (snapshot : Object LoadgenTelemetrySnapshot) : Prop :=
  deriver.sourceSnapshot = some snapshot.address ∧ deriver.derivedSnapshot.isSome = true

instance (deriver : ChannelFlowStateDeriver) (snapshot : Object LoadgenTelemetrySnapshot) :
    Decidable (deriver.Repeats snapshot) :=
  inferInstanceAs (Decidable (_ ∧ _))

/-- A call of the deriver, and what has been shown by then. -/
def observe (x : ChannelFlowStateDeriver × List Shown)
    (call : Object LoadgenTelemetrySnapshot × Number) : ChannelFlowStateDeriver × List Shown :=
  ((x.1.derive call.1 call.2).1,
    if x.1.Repeats call.1 then x.2
    else x.2 ++ shownOfBoth call.1.value call.2 (x.1.derive call.1 call.2).2)

/-- **The deriver after some calls**, and what it has shown. -/
def deriverAfter (calls : List (Object LoadgenTelemetrySnapshot × Number)) :
    ChannelFlowStateDeriver × List Shown :=
  calls.foldl observe ({}, [])

/-- A snapshot has the channels that were shown last. -/
def Shows (shown : List Shown) (derived : LoadgenSnapshot) : Prop :=
  ∃ earlier reader sender, shown = earlier ++ [reader, sender] ∧
    derived.readerChannel = reader.snapshot ∧ derived.senderChannel = sender.snapshot

/-- **Everything shown of a channel is shown well**, after what was shown of it before. -/
def AllWell (shown : List Shown) : Prop :=
  ∀ id before x after, ofChannel id shown = before ++ x :: after → WellBehaved before x

/-- What is kept for the channels comes from what was shown of them. -/
structure States (states : ChannelId → ChannelDerivationState) (shown : List Shown) : Prop where
  kept : ∀ id, Kept (ofChannel id shown) (states id)
  well : AllWell shown

/-- One channel more is shown well. -/
theorem AllWell.concat {shown : List Shown} {x : Shown} (h : AllWell shown)
    (hx : WellBehaved (ofChannel x.observation.channel.id shown) x) : AllWell (shown ++ [x]) := by
  intro id before y after heq
  rw [ofChannel, List.filter_append] at heq
  by_cases hid : x.observation.channel.id = id
  · subst hid
    rw [List.filter_singleton, decide_eq_true rfl, cond_true] at heq
    rcases List.eq_nil_or_concat after with rfl | ⟨rest, z, rfl⟩
    · obtain ⟨rfl, hlast⟩ := List.append_inj' heq rfl
      obtain rfl := List.singleton_inj.mp hlast
      exact hx
    · have hinit := congrArg List.dropLast heq
      simp only [List.concat_eq_append, List.dropLast_concat, ← List.cons_append,
        ← List.append_assoc] at hinit
      exact h _ before y rest hinit
  · rw [List.filter_singleton, decide_eq_false hid, cond_false, List.append_nil] at heq
    exact h id before y after heq

/-- **One observation more.** -/
theorem States.next {states : ChannelId → ChannelDerivationState} {shown : List Shown}
    (h : States states shown) (o : ChannelObservation) :
    States (Function.update states o.channel.id (o.derive (states o.channel.id)).1)
      (shown ++ [⟨o, (o.derive (states o.channel.id)).2⟩]) where
  kept id := by
    rw [ofChannel, List.filter_append]
    by_cases hid : o.channel.id = id
    · subst hid
      rw [Function.update_self, List.filter_singleton, decide_eq_true rfl, cond_true]
      exact (h.kept _).next o
    · rw [Function.update_of_ne (Ne.symm hid), List.filter_singleton, decide_eq_false hid,
        cond_false, List.append_nil]
      exact h.kept id
  well := h.well.concat (wellBehaved_derive (h.kept _) o)

/-- The deriver keeps what it has shown, and the snapshot it has shown last. -/
structure DeriverFollows (x : ChannelFlowStateDeriver × List Shown) : Prop where
  states : States x.1.channelStates x.2
  shows : ∀ derived ∈ x.1.derivedSnapshot, Shows x.2 derived

/-- A snapshot that is new is derived from two observations. -/
theorem derive_of_not_repeats {deriver : ChannelFlowStateDeriver}
    {snapshot : Object LoadgenTelemetrySnapshot} (observedAtMs : Number)
    (h : ¬deriver.Repeats snapshot) :
    let states := deriver.channelStates
    let reader := observation snapshot.value observedAtMs snapshot.value.readerChannel
    let sender := observation snapshot.value observedAtMs snapshot.value.senderChannel
    let between := Function.update states reader.channel.id
      (reader.derive (states reader.channel.id)).1
    let result := deriver.derive snapshot observedAtMs
    result.2.readerChannel = (reader.derive (states reader.channel.id)).2 ∧
      result.2.senderChannel = (sender.derive (between sender.channel.id)).2 ∧
      result.1.derivedSnapshot = some result.2 ∧
      result.1.channelStates = Function.update between sender.channel.id
        (sender.derive (between sender.channel.id)).1 := by
  intro states reader sender between result
  have hresult : result = deriver.derive snapshot observedAtMs := rfl
  rw [ChannelFlowStateDeriver.derive] at hresult
  split at hresult
  · next derived hsource hderived =>
    exact absurd ⟨of_decide_eq_true hsource, Option.isSome_of_eq_some hderived⟩ h
  · rw [hresult]
    exact ⟨rfl, rfl, rfl, rfl⟩

/-- **One call more** of the deriver. -/
theorem DeriverFollows.observe {x : ChannelFlowStateDeriver × List Shown}
    (h : DeriverFollows x) (call : Object LoadgenTelemetrySnapshot × Number) :
    DeriverFollows (observe x call) ∧ Shows (observe x call).2 (x.1.derive call.1 call.2).2 := by
  rw [Frontend.observe]
  by_cases hrepeats : x.1.Repeats call.1
  · obtain ⟨hsource, hsome⟩ := id hrepeats
    obtain ⟨derived, hderived⟩ := Option.isSome_iff_exists.mp hsome
    have hderive : x.1.derive call.1 call.2 = (x.1, derived) := by
      rw [ChannelFlowStateDeriver.derive, decide_eq_true hsource, hderived]
    rw [if_pos hrepeats, hderive]
    exact ⟨h, h.shows derived hderived⟩
  · obtain ⟨hreader, hsender, hkept, hstates⟩ := derive_of_not_repeats call.2 hrepeats
    have hnext := (h.states.next (observation call.1.value call.2 call.1.value.readerChannel)).next
      (observation call.1.value call.2 call.1.value.senderChannel)
    rw [← hstates, ← hreader, ← hsender, List.append_assoc] at hnext
    have hshows : Shows (x.2 ++ shownOfBoth call.1.value call.2 (x.1.derive call.1 call.2).2)
        (x.1.derive call.1 call.2).2 := ⟨x.2, _, _, rfl, rfl, rfl⟩
    rw [if_neg hrepeats]
    refine ⟨⟨hnext, fun derived hderived => ?_⟩, hshows⟩
    obtain rfl := Option.some_inj.mp (hkept.symm.trans hderived)
    exact hshows

theorem deriverAfter_concat (calls : List (Object LoadgenTelemetrySnapshot × Number))
    (call : Object LoadgenTelemetrySnapshot × Number) :
    deriverAfter (calls ++ [call]) = observe (deriverAfter calls) call := by
  rw [deriverAfter, List.foldl_append, List.foldl_cons, List.foldl_nil, deriverAfter]

theorem follows_deriverAfter (calls : List (Object LoadgenTelemetrySnapshot × Number)) :
    DeriverFollows (deriverAfter calls) := by
  induction calls using List.reverseRecOn with
  | nil =>
    refine ⟨⟨fun id => kept_nil, fun id before x after h => ?_⟩, fun derived hderived => ?_⟩
    · exact absurd h (List.append_ne_nil_of_right_ne_nil before (List.cons_ne_nil x after)).symm
    · cases hderived
  | append_singleton calls call ih =>
    rw [deriverAfter_concat]
    exact (ih.observe call).1

end IngestionLab.Frontend
