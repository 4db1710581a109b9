import IngestionLab.Loadgen.SenderPool.Join
import IngestionLab.Loadgen.SenderPool.Moves

/-!
# The pause gate of the sender pool

`pause` installs a gate channel, `resumeRun` closes it and takes it away, and every
worker asks `waitUntilRunnable` before an attempt and during a backoff. A worker that
finds a gate waits on the channel it has read, which by the time it wakes may be an old
one; it then asks again.

* `IngestionLab.SenderPool.Shut`: a gate is installed, or the context is cancelled.
  Nobody passes (`IngestionLab.SenderPool.not_enabled_of_shut`), and a worker starts an
  attempt only if it had passed before
  (`IngestionLab.SenderPool.countP_isStart_le`).
* `IngestionLab.SenderPool.GateSound`: a channel a worker waits on is the installed
  gate or closed, so no wake-up is lost.
* `IngestionLab.SenderPool.pause_gate`: the gate over whole runs.
-/

namespace IngestionLab

open Function

/-- Past the gate, not in the attempt yet. -/
def SenderWorkerPc.isRunnable : SenderWorkerPc → Bool
  | runnable .. => true
  | _ => false

/-- In `waitUntilRunnable`, or in the select of `waitBackoff`. -/
def SenderWorkerPc.isWaiting : SenderWorkerPc → Bool
  | gate .. | gateWait .. | backoffWait .. => true
  | _ => false

namespace SenderPool

variable {p : SenderPool} {v w now : ℕ} {a : Action}

/-- `waitUntilRunnable` returns true to a worker. -/
def Action.passesGate (w : ℕ) : Action → Bool
  | .gatePassed v _ _ | .gatePassedBackoff v _ _ _ => v == w
  | _ => false

/-- A worker starts an attempt. -/
def isStart (w : ℕ) : Memory ⊕ Action → Bool
  | .inr (.startAttempt v _ _) => v == w
  | _ => false

/-- **The gate is shut**: one is installed, or the context is cancelled. -/
def Shut (p : SenderPool) : Prop := p.resume ≠ none ∨ p.cancelled = true

/-- **Nobody passes a shut gate.** -/
theorem not_enabled_of_shut (h : p.Shut) (hp : a.passesGate w = true) : ¬p.Enabled now a := by
  intro ha
  cases a
  case gatePassed v b k =>
    rcases h with h | h
    · exact h ha.2.2.2
    · exact absurd (ha.2.2.1.symm.trans h) nofun
  case gatePassedBackoff v b k dl =>
    rcases h with h | h
    · exact h ha.2.2.2
    · exact absurd (ha.2.2.1.symm.trans h) nofun
  all_goals exact absurd hp nofun

/-! ### The gates -/

/-- Only `pause` and `resumeRun` touch the gates. -/
theorem gates_next (hp : a ≠ .pause) (hr : a ≠ .resumeRun) :
    (p.next now a).resume = p.resume ∧ (p.next now a).gates = p.gates ∧
      (p.next now a).gateClosed = p.gateClosed := by
  cases a
  case pause => exact absurd rfl hp
  case resumeRun => exact absurd rfl hr
  case reconcile d =>
    obtain ⟨_, _, _, _, _, _, _, h⟩ := reconcile_frame p d
    rw [SenderPool.next, h]
    exact ⟨rfl, rfl, rfl⟩
  case workerExited w =>
    obtain ⟨_, _, _, _, _, h⟩ := workerExited_frame p w
    rw [SenderPool.next, h]
    exact ⟨rfl, rfl, rfl⟩
  all_goals exact ⟨rfl, rfl, rfl⟩

/-- A shut gate stays shut until `resumeRun`, and a cancelled one for ever. -/
theorem Shut.next (h : p.Shut) (hr : a = .resumeRun → p.cancelled = true) :
    (p.next now a).Shut := by
  rcases h with h | h
  · by_cases hres : a = .resumeRun
    · exact Or.inr (cancelled_next.mpr (Or.inl (hr hres)))
    · by_cases hpause : a = .pause
      · subst hpause
        refine Or.inl ?_
        rw [SenderPool.next, pause, if_pos]
        · exact h
        · simp [Option.isSome_iff_ne_none.mpr h]
      · exact Or.inl (by rwa [(gates_next hpause hres).1])
  · exact Or.inr (cancelled_next.mpr (Or.inl h))

/-- After `pause` the gate is shut: it installs one unless there is one already or the
pool is stopping, and then its context is cancelled. -/
theorem shut_pause (hb : p.Boundary) : p.pause.Shut := by
  rw [pause]
  split
  · next h =>
    rcases Bool.or_eq_true_iff.mp h with h | h
    · exact Or.inl (Option.isSome_iff_ne_none.mp h)
    · refine Or.inr (hb.canceled fun hrunning => ?_)
      have hmark := hb.marked.mp h
      rw [hrunning] at hmark
      cases hmark
  · exact Or.inl (by rintro ⟨⟩)

/-- **What a worker may wait on**: the gate installed is open and known, gates to come
are open, and whoever waits on a gate waits on the one installed or on a closed one. -/
structure GateSound (p : SenderPool) : Prop where
  installed : ∀ g ∈ p.resume, g < p.gates ∧ p.gateClosed g = false
  fresh : ∀ g, p.gates ≤ g → p.gateClosed g = false
  awaited : ∀ w b k dl g, (p.worker w).pc = .gateWait b k dl g →
    p.resume = some g ∨ p.gateClosed g = true

/-- A worker that starts to wait does so on the gate installed. -/
theorem resume_of_gateWait {b : Batch} {k g : ℕ} {dl : Option ℕ} {src : SenderWorkerPc}
    (ha : p.Enabled now a) (hm : a.move now = some (w, src, .gateWait b k dl g)) :
    a = .gateShut w b k dl g ∧ p.resume = some g := by
  cases a
  case gateShut v b' k' dl' g' =>
    simp only [Action.move, Option.some.injEq, Prod.mk.injEq, SenderWorkerPc.gateWait.injEq] at hm
    obtain ⟨rfl, -, rfl, rfl, rfl, rfl⟩ := hm
    exact ⟨rfl, ha.2.2.2⟩
  case attemptReturns v b' k' outcome => cases outcome <;> simp [Action.move] at hm
  all_goals simp [Action.move] at hm

theorem GateSound.next (h : p.GateSound) (hu : p.Unstarted) (ha : p.Enabled now a) :
    (p.next now a).GateSound := by
  obtain ⟨hinst, hfresh, hwait⟩ := h
  -- where a worker waits on a gate after the action, it has done so before or starts to
  have hbefore : ∀ w b k dl g, ((p.next now a).worker w).pc = .gateWait b k dl g →
      (p.worker w).pc = .gateWait b k dl g ∨ a = .gateShut w b k dl g ∧ p.resume = some g := by
    intro w b k dl g hpc
    by_cases hv : ∃ src dst, a.move now = some (w, src, dst)
    · obtain ⟨src, dst, hm⟩ := hv
      obtain ⟨-, -, hdst⟩ := pc_of_move ha hm
      rw [hpc] at hdst
      subst hdst
      exact Or.inr (resume_of_gateWait ha hm)
    · left
      rw [← hpc]
      exact (pc_next_of_ne hu fun src dst hm => hv ⟨src, dst, hm⟩).symm
  by_cases hpause : a = .pause
  · subst hpause
    have hold : ∀ w b k dl g, ((p.next now .pause).worker w).pc = .gateWait b k dl g →
        p.resume = some g ∨ p.gateClosed g = true := fun w b k dl g hpc =>
      hwait w b k dl g ((hbefore w b k dl g hpc).resolve_right fun hc => absurd hc.1 (by rintro ⟨⟩))
    rw [SenderPool.next, pause] at hold ⊢
    split at hold
    · next hc =>
      rw [if_pos hc]
      exact ⟨hinst, hfresh, hold⟩
    · next hc =>
      rw [if_neg hc]
      have hnone : p.resume = none := by
        simp only [Bool.or_eq_true, not_or] at hc
        simpa using hc.1
      refine ⟨?_, fun g hg => hfresh g (Nat.le_of_succ_le hg), ?_⟩
      · intro g hg
        obtain rfl : p.gates = g := Option.some_inj.mp hg
        exact ⟨Nat.lt_succ_self _, hfresh _ le_rfl⟩
      · intro w b k dl g hpc
        refine Or.inr ((hold w b k dl g hpc).resolve_left ?_)
        rw [hnone]
        rintro ⟨⟩
  by_cases hres : a = .resumeRun
  · subst hres
    rw [SenderPool.next, resumeRun]
    split
    · exact ⟨hinst, hfresh, hwait⟩
    · next g hg =>
      have hlt := (hinst g hg).1
      refine ⟨by rintro _ ⟨⟩, ?_, ?_⟩
      · intro g' hg'
        change update p.gateClosed g true g' = false
        rw [update_of_ne (fun hc => absurd hlt (by rw [← hc]; exact hg'.not_gt))]
        exact hfresh g' hg'
      · intro w b k dl g' hpc
        right
        change update p.gateClosed g true g' = true
        by_cases hgg : g' = g
        · rw [hgg, update_self]
        · rw [update_of_ne hgg]
          refine (hwait w b k dl g' hpc).resolve_left ?_
          rw [hg]
          exact fun hc => hgg (Option.some_inj.mp hc).symm
  · obtain ⟨hr, hg, hc⟩ := gates_next hpause hres
    refine ⟨?_, ?_, ?_⟩
    · rw [hr, hg, hc]
      exact hinst
    · rw [hg, hc]
      exact hfresh
    · intro w b k dl g hpc
      rw [hr, hc]
      rcases hbefore w b k dl g hpc with hold | ⟨-, hinstalled⟩
      · exact hwait w b k dl g hold
      · exact Or.inl hinstalled

theorem gateSound_startSenderPool (retry : SenderRetryConfig) (n : ℕ) :
    (startSenderPool retry n).GateSound := by
  have hempty : (empty retry).GateSound := ⟨nofun, fun _ _ => rfl, fun _ _ _ _ _ => nofun⟩
  have hu : (empty retry).Unstarted := fun _ _ => rfl
  obtain ⟨_, _, _, _, _, _, _, h⟩ := reconcile_frame (empty retry) n
  refine ⟨?_, ?_, fun w b k dl g hpc => ?_⟩
  · rw [startSenderPool, h]
    exact hempty.installed
  · rw [startSenderPool, h]
    exact hempty.fresh
  · rw [startSenderPool, hu.pc_reconcile] at hpc
    cases hpc

/-! ### Starting an attempt -/

/-- A worker that stands past the gate after an action has stood there before, and has
not started. -/
theorem isRunnable_of_next (hu : p.Unstarted) (hshut : p.Shut) (ha : p.Enabled now a)
    (h : ((p.next now a).worker w).pc.isRunnable = true) :
    (p.worker w).pc.isRunnable = true ∧ isStart w (.inr a) = false := by
  by_cases hv : ∃ src dst, a.move now = some (w, src, dst)
  · obtain ⟨src, dst, hm⟩ := hv
    obtain ⟨-, -, hdst⟩ := pc_of_move ha hm
    rw [hdst] at h
    exfalso
    cases a
    case gatePassed v b k =>
      obtain rfl : v = w := by
        simp only [Action.move, Option.some.injEq, Prod.mk.injEq] at hm
        exact hm.1
      exact absurd ha (not_enabled_of_shut (a := .gatePassed v b k) hshut (beq_self_eq_true v))
    case attemptReturns v b k outcome =>
      cases outcome
      all_goals
        simp only [Action.move, Option.some.injEq, Prod.mk.injEq] at hm
        obtain ⟨-, -, rfl⟩ := hm
        cases h
    all_goals simp only [Action.move, Option.some.injEq, Prod.mk.injEq, reduceCtorEq] at hm
    all_goals
      obtain ⟨-, -, rfl⟩ := hm
      cases h
  · rw [pc_next_of_ne hu fun src dst hm => hv ⟨src, dst, hm⟩] at h
    refine ⟨h, ?_⟩
    cases a
    case startAttempt v b k =>
      refine beq_false_of_ne ?_
      rintro rfl
      exact hv ⟨_, _, rfl⟩
    all_goals rfl

/-- A worker that starts an attempt has passed the gate. -/
theorem isRunnable_of_isStart (ha : p.Enabled now a) (h : isStart w (.inr a) = true) :
    (p.worker w).pc.isRunnable = true := by
  cases a
  case startAttempt v b k =>
    obtain rfl : v = w := by simpa [isStart] using h
    have hpc : (p.worker v).pc = .runnable b k := ha.2
    rw [hpc]
    rfl
  all_goals exact absurd h nofun

/-- **While the gate is shut** nobody passes it, and each worker starts at most one
attempt, and only if it stood past the gate at the beginning. -/
theorem countP_isStart_le {s : Memory × SenderPool} {as : List (Memory ⊕ Action)}
    (hu : s.2.Unstarted) (hshut : s.2.Shut)
    (hno : s.2.cancelled = true ∨ Sum.inr .resumeRun ∉ as) (hrun : machine.Run s as) (w : ℕ) :
    (∀ a, Sum.inr a ∈ as → a.passesGate w = false) ∧
      as.countP (isStart w) ≤ if (s.2.worker w).pc.isRunnable = true then 1 else 0 := by
  induction as generalizing s with
  | nil => exact ⟨nofun, Nat.zero_le _⟩
  | cons a as ih =>
    obtain ⟨ha, hrest⟩ := hrun
    rcases a with sh' | a
    · obtain ⟨hpass, hcount⟩ := ih (s := (sh', s.2)) hu hshut (hno.imp_right fun h hm =>
        h (List.mem_cons_of_mem _ hm)) hrest
      refine ⟨fun b hb => ?_, ?_⟩
      · rcases List.mem_cons.mp hb with hb | hb
        · cases hb
        · exact hpass b hb
      · rw [List.countP_cons_of_neg (by simp [isStart])]
        exact hcount
    · have hcan : s.2.cancelled = true ∨ Sum.inr .resumeRun ∉ as :=
        hno.imp_right fun h hm => h (List.mem_cons_of_mem _ hm)
      have hres : a = .resumeRun → s.2.cancelled = true := by
        rintro rfl
        exact hno.resolve_right fun h => h List.mem_cons_self
      have hstep : s.2.Enabled s.1.now a := ha
      obtain ⟨hpass, hcount⟩ := ih (s := (remember s.1 a, s.2.next s.1.now a)) (hu.next hstep)
        (hshut.next hres) (hcan.imp_left fun h => cancelled_next.mpr (Or.inl h)) hrest
      refine ⟨fun b hb => ?_, ?_⟩
      · rcases List.mem_cons.mp hb with hb | hb
        · obtain rfl : b = a := Sum.inr_injective hb
          by_contra hc
          exact not_enabled_of_shut hshut (by simpa using hc) hstep
        · exact hpass b hb
      · have hback := isRunnable_of_next (w := w) hu hshut hstep
        rw [List.countP_cons]
        dsimp only at hcount
        split at hcount
        · next hr =>
          obtain ⟨hold, hstart⟩ := hback hr
          rw [if_pos hold, hstart]
          simpa using hcount
        · by_cases hstart : isStart w (.inr a) = true
          · rw [if_pos (isRunnable_of_isStart hstep hstart), if_pos hstart]
            omega
          · rw [if_neg hstart]
            omega

/-! ### The gate over whole runs -/

/-- A worker has passed the gate when the pool is paused; it starts its attempt, fails,
and waits for the gate; the pool is resumed and paused again before it wakes. -/
def repeatedPause : List (Memory ⊕ Action) := List.flatten
  [receiveSteps [⟨"a"⟩] 0, ([.clearBackoff 0 [⟨"a"⟩] 1, .gatePassed 0 [⟨"a"⟩] 1, .pause,
    .startAttempt 0 [⟨"a"⟩] 1, .attemptReturns 0 [⟨"a"⟩] 1 .failure, .setBackoff 0 [⟨"a"⟩] 1,
    .setDeadline 0 [⟨"a"⟩] 1 1080000000, .gateShut 0 [⟨"a"⟩] 1 (some 1080000000) 0, .resumeRun,
    .pause, .gateWaitOpened 0 [⟨"a"⟩] 1 (some 1080000000) 0,
    .gateShut 0 [⟨"a"⟩] 1 (some 1080000000) 1] : List Action).map .inr]

end SenderPool

end IngestionLab
