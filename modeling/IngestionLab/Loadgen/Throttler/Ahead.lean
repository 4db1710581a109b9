import IngestionLab.Loadgen.Pipeline

/-!
# What a cancelled throttler has left to do

A throttler whose context is cancelled need not leave at the next select: where another case
is ready as well, the select may take that one. So it may go on to forward the batch it
holds, and those the reader channel still holds – but no more than these, once the readers
have ended. What is left is a number (`IngestionLab.Throttler.ahead`) that every step of the
throttler lowers (`IngestionLab.Throttler.ahead_next_lt`) and the passing of time does not
raise (`IngestionLab.Throttler.ahead_mono`).

A batch may be held back by the pace once more after the throttler has been cancelled, but
not twice: when the timer has fired, the pace does not hold it back any more
(`IngestionLab.Throttler.Timed`).
-/

namespace IngestionLab

open Go

namespace Throttler

variable {t : Throttler} {now : ℕ} {a : Action}

/-! ### The timer -/

/-- **When the timer has fired, the pace does not hold the batch back any more.** -/
def Timed (t : Throttler) : Prop :=
  ∀ batch since due, t.pc = .pacing batch since due →
    ∀ now, due ≤ now → ¬MustWait t.settings batch now since

/-- The pace holds a batch back at an instant only if it has held it back before. -/
theorem MustWait.anti {settings : ThrottlerSettings} {batch : Batch} {since now' : ℕ}
    (h : MustWait settings batch now' since) (hle : now ≤ now') : MustWait settings batch now since := by
  obtain ⟨hinstalled, hpos⟩ := h
  refine ⟨hinstalled, ?_⟩
  simp only [remaining, sub] at hpos ⊢
  omega

/-- The timer is set to the end of the interval. -/
theorem not_mustWait_of_due_le {settings : ThrottlerSettings} {batch : Batch} {since now' : ℕ}
    (hdue : now + (remaining batch settings.requestedTPS now since).toNat ≤ now') :
    ¬MustWait settings batch now' since := by
  rintro ⟨-, hpos⟩
  simp only [remaining, sub] at hdue hpos
  omega

/-- A throttler at a position other than the timer. -/
theorem timed_of_ne {t : Throttler} (h : ∀ batch since due, t.pc ≠ .pacing batch since due) : t.Timed :=
  fun batch since due hpc => absurd hpc (h batch since due)

/-- **Every action keeps the timer.** -/
theorem Timed.next (h : t.Timed) (ha : t.Enabled now a) : (t.next now a).Timed := by
  cases a
  case checkPace batch since =>
    rintro b s d ⟨⟩ now' hdue
    exact not_mustWait_of_due_le hdue
  case finishBlocked batch outcome => cases outcome <;> exact timed_of_ne (by rintro _ _ _ ⟨⟩)
  case offer | offerDropped | cancel => exact h
  case idleUpdate settings =>
    exact timed_of_ne fun b s d hpc => absurd (ha.1.symm.trans hpc) (by rintro ⟨⟩)
  all_goals exact timed_of_ne (by rintro _ _ _ ⟨⟩)

/-- A context once cancelled stays so. -/
theorem cancelled_next (h : t.cancelled = true) : (t.next now a).cancelled = true := by
  cases a
  case finishBlocked batch outcome => cases outcome <;> exact h
  case cancel => rfl
  all_goals exact h

/-! ### What is left -/

/-- What is left at a position, where the pace would hold the batch back or not. -/
def aheadAt (waits : Batch → ℕ → Bool) : ThrottlerPc → ℕ
  | .received _ | .unblock _ (.updated _) => 9
  | .restart _ => 8
  | .check batch since => if waits batch since then 7 else 5
  | .pacing _ _ _ | .block _ => 6
  | .blocked _ => 5
  | .trying _ _ | .unblock _ .sent => 4
  | .sent _ => 3
  | .idle | .zero _ | .unblock _ .canceled => 2
  | .leaving => 1
  | .exited => 0

/-- The pace would hold a batch back now. -/
def waits (now : ℕ) (t : Throttler) (batch : Batch) (since : ℕ) : Bool :=
  decide (MustWait t.settings batch now since)

/-- **What is left of a throttler**, with so many batches in the reader channel. -/
def ahead (now : ℕ) (t : Throttler) (batches : ℕ) : ℕ := aheadAt (waits now t) t.pc + 8 * batches

/-- The less the pace holds back, the less is left. -/
theorem aheadAt_mono {w w' : Batch → ℕ → Bool} (h : ∀ batch since, w' batch since = true →
    w batch since = true) (pc : ThrottlerPc) : aheadAt w' pc ≤ aheadAt w pc := by
  cases pc with
  | check batch since =>
    simp only [aheadAt]
    cases hw : w' batch since with
    | true => exact Nat.le_of_eq (by rw [h batch since hw])
    | false => cases w batch since <;> exact Nat.le_of_ble_eq_true rfl
  | unblock batch outcome => cases outcome <;> exact Nat.le_refl _
  | _ => exact Nat.le_refl _

/-- **Time that passes does not add to it.** -/
theorem ahead_mono {now' : ℕ} (hle : now ≤ now') (t : Throttler) (batches : ℕ) :
    t.ahead now' batches ≤ t.ahead now batches := by
  refine Nat.add_le_add_right (aheadAt_mono (fun batch since hwait => ?_) t.pc) _
  exact decide_eq_true ((of_decide_eq_true hwait).anti hle)

/-- At the head of the loop of `forwardBatch`, whatever the pace. -/
theorem aheadAt_check (w : Batch → ℕ → Bool) (batch : Batch) (since : ℕ) :
    4 < aheadAt w (.check batch since) ∧ aheadAt w (.check batch since) < 8 := by
  rw [aheadAt]
  cases w batch since <;> exact ⟨Nat.le_of_ble_eq_true rfl, Nat.le_of_ble_eq_true rfl⟩

/-- A step that leaves the reader channel alone. -/
theorem ahead_lt {t' : Throttler} {pc : ThrottlerPc} {batches : ℕ} (hpc : t.pc = pc)
    (h : aheadAt (waits now t') t'.pc < aheadAt (waits now t) pc) :
    t'.ahead now batches < t.ahead now batches := by
  rw [ahead, ahead, hpc]
  exact Nat.add_lt_add_right h _

/-- Where the throttler is in a select, it has more left than where it leaves. -/
theorem one_lt_aheadAt {w : Batch → ℕ → Bool} {pc : ThrottlerPc} {batch : Batch}
    (h : pc.selecting = some batch) : 1 < aheadAt w pc := by
  cases pc <;> first | exact Nat.le_of_ble_eq_true rfl | cases h

/-- **Every step of a cancelled throttler lowers what is left**, while nothing is offered to it:
a batch it receives is paid for in the channel. -/
theorem ahead_next_lt {c : Chan Batch} (h : t.Timed) (hc : t.cancelled = true)
    (hnone : t.updating = none) (ha : t.Enabled now a) (hactor : a.actor = .goroutine)
    (hin : c.Allows a.input) :
    (t.next now a).ahead now (c.apply a.input).buffer.length < t.ahead now c.buffer.length := by
  have hnot : ∀ {settings : ThrottlerSettings}, t.updating ≠ some settings := by
    rw [hnone]
    rintro settings ⟨⟩
  cases a with
  | offer settings => cases hactor
  | offerDropped => cases hactor
  | cancel => cases hactor
  | idleReceive batch =>
    -- the batch has left the channel
    obtain ⟨rest, hbuffer⟩ := List.head?_eq_some_iff.mp hin
    have hpc : t.pc = .idle := ha
    simp only [ahead, next, Action.input, Chan.apply, hbuffer, List.tail_cons, List.length_cons, hpc,
      aheadAt]
    omega
  | idleCanceled => exact ahead_lt ha.1 (Nat.lt_succ_self 1)
  | idleUpdate settings => exact absurd ha.2 hnot
  | idleClosed => exact ahead_lt ha (Nat.lt_succ_self 1)
  | recordReceive batch => exact ahead_lt ha (Nat.lt_succ_self 8)
  | readClock batch => exact ahead_lt ha (aheadAt_check _ _ _).2
  | checkZero batch since =>
    exact ahead_lt ha.1 (Nat.lt_trans (m := 4) (Nat.le_of_ble_eq_true rfl) (aheadAt_check _ _ _).1)
  | checkPace batch since =>
    have hwait : waits now t batch since = true := decide_eq_true ha.2.2
    refine ahead_lt ha.1 ?_
    simp only [next, aheadAt, hwait, if_true]
    exact Nat.lt_succ_self 6
  | checkTry batch since =>
    have hgo : waits now t batch since = false := decide_eq_false ha.2.2
    refine ahead_lt ha.1 ?_
    simp only [next, aheadAt, hgo, Bool.false_eq_true, if_false]
    exact Nat.lt_succ_self 4
  | selectCanceled batch => exact ahead_lt rfl (one_lt_aheadAt ha.1)
  | selectUpdate batch settings => exact absurd ha.2 hnot
  | timer batch since due =>
    have hgo : waits now { t with pc := .check batch since } batch since = false :=
      decide_eq_false (h batch since due ha.1 now ha.2)
    refine ahead_lt ha.1 ?_
    simp only [next, aheadAt, hgo, Bool.false_eq_true, if_false]
    exact Nat.lt_succ_self 5
  | trySend batch since => exact ahead_lt ha (Nat.lt_succ_self 3)
  | tryDefault batch since => exact absurd (hc.symm.trans ha.2.1) (by rintro ⟨⟩)
  | startBlocked batch => exact ahead_lt ha (Nat.lt_succ_self 5)
  | blockedCanceled batch => exact ahead_lt ha.1 (Nat.le_of_ble_eq_true rfl)
  | blockedUpdate batch settings => exact absurd ha.2 hnot
  | blockedSend batch => exact ahead_lt ha (Nat.lt_succ_self 4)
  | finishBlocked batch outcome =>
    cases outcome with
    | canceled => exact ahead_lt ha (Nat.lt_succ_self 1)
    | updated settings => exact ahead_lt ha (Nat.lt_succ_self 8)
    | sent => exact ahead_lt ha (Nat.lt_succ_self 3)
  | recordSend batch => exact ahead_lt ha (Nat.lt_succ_self 2)
  | leave => exact ahead_lt ha (Nat.lt_succ_self 0)

end Throttler

end IngestionLab
