import IngestionLab.Loadgen.Pipeline

/-!
# The throttler answers

Wherever the throttler stands, it comes to a select by steps of its own, none of which needs
either channel or the clock. In the select it takes the settings that are offered
(`IngestionLab.Throttler.exists_step_to_update`), or leaves when its context is cancelled
(`IngestionLab.Throttler.exists_step_to_exit`). How far it is from there is a number in
either case.
-/

namespace IngestionLab

open Go

namespace ThrottlerPc

/-- How far the throttler is from taking the settings that are offered. -/
def toUpdate : ThrottlerPc → ℕ
  | received _ | unblock _ _ => 4
  | restart _ => 3
  | check _ _ | block _ | sent _ => 2
  | idle | zero _ | pacing _ _ _ | trying _ _ | blocked _ | leaving => 1
  | exited => 0

/-- How far the throttler is from its end, once its context is cancelled. -/
def toExit : ThrottlerPc → ℕ
  | received _ | unblock _ (.updated _) => 5
  | restart _ | block _ | unblock _ .sent => 4
  | check _ _ | blocked _ | sent _ => 3
  | idle | zero _ | pacing _ _ _ | trying _ _ | unblock _ .canceled => 2
  | leaving => 1
  | exited => 0

end ThrottlerPc

namespace Throttler

variable {t : Throttler}

/-- A step of the throttler that asks nothing of the channels. -/
structure Free (now : ℕ) (t : Throttler) (a : Action) : Prop where
  enabled : t.Enabled now a
  actor : a.actor = .goroutine
  input : a.input = .nothing
  output : a.output = .nothing

/-- At the head of the loop of `forwardBatch` the throttler goes to one of its selects. -/
theorem exists_check_step {batch : Batch} {since : ℕ} (hpc : t.pc = .check batch since) (now : ℕ) :
    ∃ a, Free now t a ∧ (t.next now a).updating = t.updating ∧ (t.next now a).cancelled = t.cancelled ∧
      ((t.next now a).pc.selecting = some batch) := by
  by_cases hzero : IsZero t.settings
  · exact ⟨.checkZero batch since, ⟨⟨hpc, hzero⟩, rfl, rfl, rfl⟩, rfl, rfl, rfl⟩
  by_cases hwait : MustWait t.settings batch now since
  · exact ⟨.checkPace batch since, ⟨⟨hpc, hzero, hwait⟩, rfl, rfl, rfl⟩, rfl, rfl, rfl⟩
  · exact ⟨.checkTry batch since, ⟨⟨hpc, hzero, hwait⟩, rfl, rfl, rfl⟩, rfl, rfl, rfl⟩

theorem toUpdate_of_selecting {pc : ThrottlerPc} {batch : Batch} (h : pc.selecting = some batch) :
    pc.toUpdate = 1 := by
  cases pc <;> first | rfl | cases h

theorem toExit_of_selecting {pc : ThrottlerPc} {batch : Batch} (h : pc.selecting = some batch) :
    pc.toExit = 2 := by
  cases pc <;> first | rfl | cases h

/-- **The settings offered are taken**, or the throttler comes a step closer to taking them,
or to its end. -/
theorem exists_step_to_update {settings : ThrottlerSettings} (h : t.updating = some settings)
    (hpc : t.pc ≠ .exited) (now : ℕ) :
    ∃ a, Free now t a ∧ ((t.next now a).updating = none ∨
      (t.next now a).updating = some settings ∧ (t.next now a).pc.toUpdate < t.pc.toUpdate) := by
  cases hat : t.pc with
  | idle => exact ⟨.idleUpdate settings, ⟨⟨hat, h⟩, rfl, rfl, rfl⟩, Or.inl rfl⟩
  | received batch =>
    exact ⟨.recordReceive batch, ⟨hat, rfl, rfl, rfl⟩, Or.inr ⟨h, Nat.lt_succ_self 3⟩⟩
  | restart batch => exact ⟨.readClock batch, ⟨hat, rfl, rfl, rfl⟩, Or.inr ⟨h, Nat.lt_succ_self 2⟩⟩
  | check batch since =>
    obtain ⟨a, hfree, hupdating, -, hselecting⟩ := exists_check_step hat now
    refine ⟨a, hfree, Or.inr ⟨hupdating.trans h, ?_⟩⟩
    rw [toUpdate_of_selecting hselecting]
    exact Nat.lt_succ_self 1
  | zero batch | pacing batch since due | trying batch since =>
    exact ⟨.selectUpdate batch settings, ⟨⟨by rw [hat]; rfl, h⟩, rfl, rfl, rfl⟩, Or.inl rfl⟩
  | block batch => exact ⟨.startBlocked batch, ⟨hat, rfl, rfl, rfl⟩, Or.inr ⟨h, Nat.lt_succ_self 1⟩⟩
  | blocked batch => exact ⟨.blockedUpdate batch settings, ⟨⟨hat, h⟩, rfl, rfl, rfl⟩, Or.inl rfl⟩
  | unblock batch outcome =>
    refine ⟨.finishBlocked batch outcome, ⟨hat, rfl, rfl, rfl⟩, Or.inr ?_⟩
    cases outcome <;> exact ⟨h, Nat.le_of_ble_eq_true rfl⟩
  | sent batch => exact ⟨.recordSend batch, ⟨hat, rfl, rfl, rfl⟩, Or.inr ⟨h, Nat.lt_succ_self 1⟩⟩
  | leaving => exact ⟨.leave, ⟨hat, rfl, rfl, rfl⟩, Or.inr ⟨h, Nat.lt_succ_self 0⟩⟩
  | exited => exact absurd hat hpc

/-- **A throttler whose context is cancelled comes a step closer to its end.** -/
theorem exists_step_to_exit (h : t.cancelled = true) (hpc : t.pc ≠ .exited) (now : ℕ) :
    ∃ a, Free now t a ∧ (t.next now a).cancelled = true ∧ (t.next now a).pc.toExit < t.pc.toExit := by
  cases hat : t.pc with
  | idle => exact ⟨.idleCanceled, ⟨⟨hat, h⟩, rfl, rfl, rfl⟩, h, Nat.lt_succ_self 1⟩
  | received batch => exact ⟨.recordReceive batch, ⟨hat, rfl, rfl, rfl⟩, h, Nat.lt_succ_self 4⟩
  | restart batch => exact ⟨.readClock batch, ⟨hat, rfl, rfl, rfl⟩, h, Nat.lt_succ_self 3⟩
  | check batch since =>
    obtain ⟨a, hfree, -, hcancelled, hselecting⟩ := exists_check_step hat now
    refine ⟨a, hfree, hcancelled.trans h, ?_⟩
    rw [toExit_of_selecting hselecting]
    exact Nat.lt_succ_self 2
  | zero batch | pacing batch since due | trying batch since =>
    exact ⟨.selectCanceled batch, ⟨⟨by rw [hat]; rfl, h⟩, rfl, rfl, rfl⟩, h, Nat.lt_succ_self 1⟩
  | block batch => exact ⟨.startBlocked batch, ⟨hat, rfl, rfl, rfl⟩, h, Nat.lt_succ_self 3⟩
  | blocked batch => exact ⟨.blockedCanceled batch, ⟨⟨hat, h⟩, rfl, rfl, rfl⟩, h, Nat.lt_succ_self 2⟩
  | unblock batch outcome =>
    refine ⟨.finishBlocked batch outcome, ⟨hat, rfl, rfl, rfl⟩, ?_⟩
    cases outcome <;> exact ⟨h, Nat.le_of_ble_eq_true rfl⟩
  | sent batch => exact ⟨.recordSend batch, ⟨hat, rfl, rfl, rfl⟩, h, Nat.lt_succ_self 2⟩
  | leaving => exact ⟨.leave, ⟨hat, rfl, rfl, rfl⟩, h, Nat.lt_succ_self 0⟩
  | exited => exact absurd hat hpc

end Throttler

end IngestionLab
