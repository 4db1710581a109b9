import IngestionLab.Loadgen.EventLoop.Accounting
import IngestionLab.Loadgen.EventLoop.Lifeline
import IngestionLab.Loadgen.SenderPool.Attempts

/-!
# What the service is credited with

The sender pools of all runs together are credited with the transactions they have counted
and with those they are about to count. Whatever the event loop does and however the
goroutines interleave, that grows by the attempts that succeed
(`IngestionLab.Service.credited_next`), and what the service reports is part of it
(`IngestionLab.Service.credited_eq`).
-/

namespace IngestionLab

open Function

/-- A call of the event loop is no attempt. -/
theorem SenderPool.Action.eq_of_eventLoop {a : SenderPool.Action} (ha : a.actor = .eventLoop) :
    a.succeeded = 0 ∧ ∀ w batch attempt, a ≠ .startAttempt w batch attempt := by
  cases a
  case attemptReturns w batch attempt outcome => cases ha
  case startAttempt w batch attempt => cases ha
  all_goals exact ⟨rfl, by rintro w batch attempt ⟨⟩⟩

/-- A receipt is no attempt. -/
theorem SenderPool.Action.eq_of_op {a : SenderPool.Action} (ha : a.op ≠ .nothing) :
    a.succeeded = 0 ∧ ∀ w batch attempt, a ≠ .startAttempt w batch attempt := by
  cases a
  case attemptReturns w batch attempt outcome => exact absurd rfl ha
  case startAttempt w batch attempt => exact absurd rfl ha
  all_goals exact ⟨rfl, by rintro w batch attempt ⟨⟩⟩

namespace Pipeline

variable {q : Pipeline} {sh : Memory} {root : Bool} {a : Action} {c : Change} {w : ℕ}

/-- What the sender pool is about to count. -/
def uncounted (q : Pipeline) : ℕ := q.senderPool.elim 0 SenderPool.uncounted

/-- **What the sender pool is credited with.** -/
def credited (q : Pipeline) : ℕ := q.senderPool.elim 0 SenderPool.credited

theorem credited_eq (q : Pipeline) : q.credited = q.counted + q.uncounted := by
  rw [credited, counted, uncounted]
  cases q.senderPool <;> rfl

/-- The batch of the attempt a sender worker is in. -/
def attempting (q : Pipeline) (w : ℕ) : Option Batch :=
  q.senderPool.bind fun p => (p.positions w).attempting?

/-- The transactions of an attempt that succeeds in an action. -/
def Action.succeeded : Action → ℕ
  | .sender a => a.succeeded
  | _ => 0

/-- The transactions of an attempt that succeeds in a change. -/
def Change.succeeded : Change → ℕ
  | .goroutine a => a.succeeded
  | _ => 0

/-- The change starts an attempt. -/
def Change.Starts (c : Change) (w : ℕ) (batch : Batch) : Prop :=
  ∃ attempt, c = .goroutine (.sender (.startAttempt w batch attempt))

/-- The sender workers that have not been started are at the beginning. -/
def Fresh (q : Pipeline) : Prop := ∀ p ∈ q.senderPool, p.Unstarted

/-- **What a change does to the attempts**: the pool stays in order, its credit grows by what
succeeds, and a worker in an attempt has been in it or starts it. -/
structure Change.Credits (c : Change) (q q' : Pipeline) : Prop where
  fresh : q'.Fresh
  credited : q'.credited = q.credited + c.succeeded
  attempting : ∀ w batch, q'.attempting w = some batch →
    q.attempting w = some batch ∨ c.Starts w batch

/-- A change that leaves the sender pool alone. -/
theorem Change.Credits.of_eq {q' : Pipeline} (hq : q.Fresh) (hpool : q'.senderPool = q.senderPool)
    (hc : c.succeeded = 0) : c.Credits q q' where
  fresh := by
    rw [Fresh, hpool]
    exact hq
  credited := by
    rw [Pipeline.credited, hpool, hc]
    rfl
  attempting := by
    intro w batch h
    rw [Pipeline.attempting, hpool] at h
    exact Or.inl h

/-- A step of the sender pool. -/
theorem Change.Credits.of_step {q' : Pipeline} {b : SenderPool.Action} (hq : q.Fresh)
    (hpool : q'.senderPool = q.senderPool.map (·.next sh.now b))
    (hen : ∀ p ∈ q.senderPool, p.Enabled sh.now b)
    (hthere : q.senderPool = none → c.succeeded = 0) (hc : c.succeeded = b.succeeded)
    (hstarts : ∀ w batch attempt, b = .startAttempt w batch attempt → c.Starts w batch) :
    c.Credits q q' := by
  cases hp : q.senderPool with
  | none =>
    rw [hp] at hpool
    exact .of_eq hq (hpool.trans hp.symm) (hthere hp)
  | some p =>
    have hu : p.Unstarted := hq p hp
    have henabled := hen p hp
    rw [hp] at hpool
    refine ⟨?_, ?_, ?_⟩
    · rintro p' hp'
      rw [hpool] at hp'
      obtain rfl := Option.some.inj hp'
      exact hu.next henabled
    · rw [Pipeline.credited, Pipeline.credited, hpool, hp, hc]
      exact SenderPool.credited_next hu henabled
    · intro w batch h
      rw [Pipeline.attempting, hpool] at h
      rcases SenderPool.attempting_next hu henabled h with hold | ⟨attempt, hnew⟩
      · rw [Pipeline.attempting, hp]
        exact Or.inl hold
      · exact Or.inr (hstarts w batch attempt hnew)

/-- **Every change** does no more than that. -/
theorem Fresh.change (hq : q.Fresh) (hc : c.Allowed root sh q) : c.Credits q (q.change sh c) := by
  cases c with
  | make readerCapacity senderCapacity =>
    obtain rfl : q = {} := hc
    exact .of_eq hq rfl rfl
  | goroutine a =>
    cases a with
    | sender b =>
      obtain ⟨⟨p, hp, hen⟩, -⟩ := hc
      refine .of_step hq rfl (fun p' hp' => ?_) (fun hnone => ?_) rfl ?_
      · obtain rfl := Option.mem_unique hp hp'
        exact hen
      · rw [hnone] at hp
        cases hp
      · rintro w batch attempt rfl
        exact ⟨attempt, rfl⟩
    | passToSender b b' =>
      obtain ⟨-, ⟨p, hp, hen⟩, hmeet, -⟩ := hc
      have hop : b'.op ≠ .nothing := by
        intro hop
        rw [hop] at hmeet
        cases hout : b.output <;> simp [Meet, hout] at hmeet
      obtain ⟨hzero, hno⟩ := SenderPool.Action.eq_of_op hop
      refine .of_step (b := b') hq rfl (fun p' hp' => ?_) (fun _ => rfl) hzero.symm ?_
      · obtain rfl := Option.mem_unique hp hp'
        exact hen
      · intro w batch attempt h
        exact absurd h (hno w batch attempt)
    | reader b => exact .of_eq hq rfl rfl
    | throttler b => exact .of_eq hq rfl rfl
    | passToThrottler b b' => exact .of_eq hq rfl rfl
  | startSender retry workers =>
    refine ⟨fun p hp => ?_, ?_, fun w batch h => ?_⟩
    · obtain rfl := Option.some.inj hp
      exact SenderPool.unstarted_startSenderPool retry workers
    · have hnone : q.credited = 0 := by
        rw [credited, hc.1]
        rfl
      rw [hnone]
      exact SenderPool.credited_startSenderPool retry workers
    · have hpc : (SenderPool.startSenderPool retry workers).positions w = .loop :=
        SenderPool.Unstarted.pc_reconcile (p := SenderPool.empty retry) (fun _ _ => rfl) workers w
      change ((SenderPool.startSenderPool retry workers).positions w).attempting? = some batch at h
      rw [hpc] at h
      cases h
  | callSender b =>
    obtain ⟨hactor, hen⟩ := hc
    obtain ⟨hzero, hno⟩ := SenderPool.Action.eq_of_eventLoop hactor
    refine .of_step (b := b) hq rfl hen (fun _ => rfl) hzero.symm ?_
    intro w batch attempt h
    exact absurd h (hno w batch attempt)
  | awaitReconciled =>
    -- only the channels that are waited for are forgotten
    cases hp : q.senderPool with
    | none => exact .of_eq hq (by simp [Pipeline.change, awaitReconciled, hp]) rfl
    | some p =>
      have hpool : (q.change sh .awaitReconciled).senderPool = some { p with joining := [] } := by
        simp [Pipeline.change, awaitReconciled, hp]
      refine ⟨fun p' hp' => ?_, ?_, fun w batch h => ?_⟩
      · rw [hpool] at hp'
        obtain rfl := Option.some.inj hp'
        exact hq p hp
      · rw [credited, credited, hpool, hp]
        rfl
      · rw [attempting, hpool] at h
        rw [attempting, hp]
        exact Or.inl h
  | closeAndDrain name => cases name <;> exact .of_eq hq rfl rfl
  | _ => exact .of_eq hq rfl rfl

/-- Along a lifeline the pool stays in order. -/
theorem Fresh.lifeline {s : Memory × Pipeline} {a : Memory ⊕ Bool × Change} (h : s.2.Fresh)
    (ha : lifeline.Enabled s a) : (lifeline.next s a).2.Fresh := by
  rcases a with sh' | ⟨root, c⟩
  · exact h
  · exact (h.change ha).fresh

end Pipeline

namespace Service

variable {s : Service} {cfg : Config} {now i w : ℕ} {a : Action} {c : Pipeline.Change}

/-- What the sender pools of all runs are about to count. -/
def uncounted (s : Service) : ℕ := ∑ i ∈ Finset.range s.runs, (s.pipeline i).uncounted

/-- **What the service is credited with.** -/
def credited (s : Service) : ℕ := Cells.total Pipeline.credited s.pipeline s.runs

/-- The transactions of an attempt that succeeds in an action. -/
def Action.succeeded : Action → ℕ
  | .pipeline _ a => a.succeeded
  | _ => 0

/-- The action starts an attempt of a worker of a run. -/
def Action.Starts (a : Action) (i w : ℕ) (batch : Batch) : Prop :=
  ∃ attempt, a = .pipeline i (.sender (.startAttempt w batch attempt))

/-- The batch of the attempt a sender worker of a run is in. -/
def attempting (s : Service) (i w : ℕ) : Option Batch := (s.pipeline i).attempting w

/-- **The credit is what is reported**, what is in the counter, and what is about to be
counted. -/
theorem credited_eq (h : machine.Reachable (newService cfg now) s) :
    s.credited = s.prom.transactionsTotal + s.memory.terminallyCompletedTransactionsSinceTick +
      s.uncounted := by
  have hbalanced : s.Balanced := by
    obtain ⟨x, -, hx, -⟩ := ledger_covered h
    exact hx.2.2
  calc s.credited
      = ∑ i ∈ Finset.range s.runs, ((s.pipeline i).counted + (s.pipeline i).uncounted) :=
        (Finset.sum_congr rfl fun i _ => (s.pipeline i).credited_eq :
          ∑ i ∈ Finset.range s.runs, (s.pipeline i).credited = _)
    _ = s.counted + s.uncounted := Finset.sum_add_distrib
    _ = _ := by rw [hbalanced.total]

/-- In every state the sender pools are in order. -/
theorem fresh_of_reachable (h : machine.Reachable (newService cfg now) s) (i : ℕ) :
    (s.pipeline i).Fresh := by
  obtain ⟨as, hrun, rfl⟩ := h
  obtain ⟨hlife, hafter⟩ := lifeline_of_run (.refl _) hrun i
  have hnew : ((newService cfg now).pipeline i).Fresh := fun p hp => absurd hp (Option.not_mem_none p)
  have hfresh := Machine.invariant_of_run (I := fun x => x.2.Fresh) (fun _ _ => Pipeline.Fresh.lifeline)
    (s := ((newService cfg now).memory, (newService cfg now).pipeline i)) hnew hlife
  rwa [hafter] at hfresh

/-- A run that has not been made is not credited. -/
theorem credited_of_runs_le (h : machine.Reachable (newService cfg now) s) (hi : s.runs ≤ i) :
    (s.pipeline i).credited = 0 := by
  obtain ⟨⟨f, u⟩, -, ⟨-, hu⟩, -⟩ := builder_covered h
  rw [hu.unmade i hi]
  rfl

/-- Runs are only ever made. -/
theorem runs_le_next (s : Service) (a : Action) : s.runs ≤ (machine.next s a).runs := by
  cases a with
  | event e =>
    cases e with
    | sourceError error => simp [machine, take]
    | _ => exact le_rfl
  | exec =>
    cases htodo : s.todo with
    | nil => simp [machine, htodo]
    | cons st rest =>
      simp only [machine, htodo]
      by_cases hmake : st = .makeRun
      · subst hmake
        exact Nat.le_succ _
      · exact (runs_exec s hmake).ge
  | _ => exact le_rfl

/-- What an action changes belongs to a run that has been made, at the latest by the action
itself. -/
theorem lt_runs_of_changeAt (h : machine.Reachable (newService cfg now) s)
    (ha : machine.Enabled s a) (hc : s.changeAt a = some (i, c)) :
    i < (machine.next s a).runs := by
  obtain ⟨f, hf⟩ := exists_holds h
  have hlast : s.runtime.PointsTo i → i < (machine.next s a).runs := fun hi =>
    lt_of_lt_of_le (by have := hf.pointers.last i hi; omega) (runs_le_next s a)
  cases a with
  | clock now => cases hc
  | cancelRoot => cases hc
  | pipeline run b =>
    obtain ⟨rfl, -⟩ := Prod.mk.inj (Option.some.inj hc)
    exact ha.1
  | event e =>
    cases e with
    | sourceError error =>
      obtain ⟨j, hj, heq⟩ := Option.map_eq_some_iff.mp hc
      obtain ⟨rfl, -⟩ := Prod.mk.inj heq
      exact hlast (by simp only [Runtime.PointsTo, Option.mem_def]; tauto)
    | _ => cases hc
  | exec =>
    obtain ⟨st, hst, -⟩ := ha
    obtain ⟨rest, htodo⟩ := List.head?_eq_some_iff.mp hst
    have hchange : s.changeOf st = some (i, c) := by
      simpa only [changeAt, htodo, List.head?_cons, Option.bind_some] using hc
    by_cases hmake : st = .makeRun
    · subst hmake
      obtain ⟨rfl, -⟩ := Prod.mk.inj (Option.some.inj hchange)
      simp only [machine, htodo]
      exact Nat.lt_succ_self _
    · exact hlast (pointsTo_of_changeOf hmake hchange)

/-- The goroutines act by themselves. -/
theorem eq_of_changeAt {b : Pipeline.Action} (hc : s.changeAt a = some (i, .goroutine b)) :
    a = .pipeline i b := by
  cases a with
  | pipeline run b' =>
    obtain ⟨rfl, hb⟩ := Prod.mk.inj (Option.some.inj hc)
    rw [Pipeline.Change.goroutine.inj hb]
  | exec =>
    obtain ⟨st, -, hst⟩ := Option.bind_eq_some_iff.mp hc
    cases st
    case makeRun => cases hst
    all_goals
      simp only [changeOf, Option.map_eq_some_iff, Prod.mk.injEq, reduceCtorEq, and_false,
        exists_false] at hst
  | event e =>
    cases e with
    | sourceError error => simp [changeAt] at hc
    | _ => cases hc
  | clock now => cases hc
  | cancelRoot => cases hc

/-- An attempt succeeds only in a change. -/
theorem succeeded_of_changeAt (s : Service) (a : Action) :
    a.succeeded = (s.changeAt a).elim 0 fun x => x.2.succeeded := by
  cases hc : s.changeAt a with
  | none =>
    cases a with
    | pipeline run b => cases hc
    | _ => rfl
  | some x =>
    obtain ⟨i, c⟩ := x
    cases c with
    | goroutine b =>
      rw [eq_of_changeAt hc]
      rfl
    | _ =>
      cases a with
      | pipeline run b => cases hc
      | _ => rfl

/-- **The credit grows by the attempts that succeed**, and by nothing else. -/
theorem credited_next (h : machine.Reachable (newService cfg now) s) (ha : machine.Enabled s a) :
    (machine.next s a).credited = s.credited + a.succeeded := by
  rw [credited, pipeline_next, succeeded_of_changeAt s a]
  have hruns : s.runs ≤ (machine.next s a).runs := runs_le_next s a
  -- a run that has not been made adds nothing
  have hsame : Cells.total Pipeline.credited s.pipeline (machine.next s a).runs = s.credited := by
    obtain ⟨k, hk⟩ := Nat.exists_eq_add_of_le hruns
    rw [hk]
    exact Cells.total_add_of_eq_zero fun i hi _ => credited_of_runs_le h hi
  cases hc : s.changeAt a with
  | none => exact hsame
  | some x =>
    obtain ⟨i, c⟩ := x
    have hcredits := (fresh_of_reachable h i).change (allowed_of_changeAt h ha hc)
    have htotal := Cells.total_update Pipeline.credited s.pipeline ((s.pipeline i).change s.memory c)
      (lt_runs_of_changeAt h ha hc)
    rw [hcredits.credited, hsame] at htotal
    simp only [withChange, Option.elim_some]
    omega

/-- **A worker in an attempt** was in it before, or starts it. -/
theorem attempting_next (h : machine.Reachable (newService cfg now) s)
    (ha : machine.Enabled s a) {batch : Batch}
    (hw : (machine.next s a).attempting i w = some batch) :
    s.attempting i w = some batch ∨ a.Starts i w batch := by
  rw [attempting, pipeline_next] at hw
  cases hc : s.changeAt a with
  | none =>
    rw [hc] at hw
    exact Or.inl hw
  | some x =>
    obtain ⟨j, c⟩ := x
    rw [hc, withChange] at hw
    rcases eq_or_ne i j with rfl | hne
    · rw [update_self] at hw
      have hcredits := (fresh_of_reachable h i).change (allowed_of_changeAt h ha hc)
      rcases hcredits.attempting w batch hw with hold | ⟨attempt, rfl⟩
      · exact Or.inl hold
      · exact Or.inr ⟨attempt, eq_of_changeAt hc⟩
    · rw [update_of_ne hne] at hw
      exact Or.inl hw

end Service

end IngestionLab
