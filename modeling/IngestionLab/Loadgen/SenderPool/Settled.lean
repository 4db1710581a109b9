import IngestionLab.Loadgen.SenderPool.Custody
import IngestionLab.Loadgen.Throttler.Order

/-!
# Nothing is made up

A batch can be lost in a sender pool, but whatever happens no batch comes to be in it:
what it holds and has settled is at all times among what its intake has received, each
batch as often as it was received (`IngestionLab.SenderPool.Conserved`), and it counts no
more transactions than are in the batches settled
(`IngestionLab.SenderPool.Conserved.counted`).
-/

namespace IngestionLab

open Throttler (transactions transactions_append transactions_singleton)

namespace SenderPool

variable {p : SenderPool} {now : ℕ} {a : Action}

/-! ### What is received and settled -/

/-- The batch an action receives. -/
def Action.received : Action → List Batch
  | .intakeReceive batch => [batch]
  | _ => []

/-- The batch an action settles. -/
def Action.finished : Action → List Batch
  | .settle _ batch _ => [batch]
  | _ => []

/-- A pool receives and settles what its actions do, and nothing else. -/
theorem received_finished_next (p : SenderPool) (now : ℕ) (a : Action) :
    (p.next now a).received = p.received ++ a.received ∧
      (p.next now a).finished = p.finished ++ a.finished := by
  cases a
  case reconcile d =>
    obtain ⟨_, _, _, _, _, _, _, h⟩ := reconcile_frame p d
    rw [next, h]
    exact ⟨(List.append_nil _).symm, (List.append_nil _).symm⟩
  case workerExited w =>
    obtain ⟨_, _, _, _, _, h⟩ := workerExited_frame p w
    rw [next, goto, setWorker, h]
    exact ⟨(List.append_nil _).symm, (List.append_nil _).symm⟩
  case pause =>
    obtain ⟨_, _, _, h⟩ := pause_frame p
    rw [next, h]
    exact ⟨(List.append_nil _).symm, (List.append_nil _).symm⟩
  case resumeRun =>
    obtain ⟨_, _, h⟩ := resumeRun_frame p
    rw [next, h]
    exact ⟨(List.append_nil _).symm, (List.append_nil _).symm⟩
  case intakeReceive batch => exact ⟨rfl, (List.append_nil _).symm⟩
  case settle w batch delivered => exact ⟨(List.append_nil _).symm, rfl⟩
  all_goals exact ⟨(List.append_nil _).symm, (List.append_nil _).symm⟩

/-! ### What is held -/

/-- **What the pool holds and has settled was received**, each batch as often as it is
there; and no more is counted than was settled. -/
structure Conserved (p : SenderPool) : Prop where
  custody : p.custody ≤ (p.received : Multiset Batch)
  counted : p.counted ≤ transactions p.finished

/-- What was received before is nothing a step looks at. -/
theorem custody_next_withReceived (p : SenderPool) (now : ℕ) (a : Action) (received : List Batch) :
    (({ p with received := received } : SenderPool).next now a).custody = (p.next now a).custody := by
  cases a
  case reconcile d =>
    exact (custody_reconcile { p with received := received } d).1.trans (custody_reconcile p d).1.symm
  case workerExited w =>
    by_cases hmem : w ∈ p.workers
    · simp only [next, workerExited_eq hmem,
        workerExited_eq (p := { p with received := received }) hmem]
      split <;> rfl
    · simp only [next, workerExited, if_neg hmem]
      rfl
  case pause =>
    simp only [next, pause]
    split_ifs <;> rfl
  case resumeRun =>
    simp only [next, resumeRun]
    cases p.resume <;> rfl
  all_goals rfl

/-- **What is held grows by what is received**, unless a batch is lost. -/
theorem custody_next (hw : p.WellFormed) (ha : p.Enabled now a)
    (hsend : ¬p.HandsToStopped (.inr a)) :
    (p.next now a).custody = p.custody + (a.received : Multiset Batch) := by
  -- the same pool, had it received what it holds, is one that accounts for everything
  obtain ⟨received, hreceived⟩ := Quot.exists_rep p.custody
  have haccounted : ({ p with received := received } : SenderPool).Accounted := hreceived
  have henabled : ({ p with received := received } : SenderPool).Enabled now a := by
    cases a <;> exact ha
  have hnext := haccounted.next { hw with } henabled (by
    cases a
    case intakeSend b w => exact hsend
    all_goals exact id)
  rw [Accounted, custody_next_withReceived, (received_finished_next _ now a).1,
    ← Multiset.coe_add] at hnext
  rw [← hnext]
  exact congrArg (· + (a.received : Multiset Batch)) hreceived

/-- A lost batch is one less. -/
theorem custody_of_handsToStopped (ha : p.Enabled now a) (hsend : p.HandsToStopped (.inr a)) :
    (p.next now a).custody ≤ p.custody ∧ a.received = [] := by
  cases a
  case intakeSend b w =>
    have hpc : (p.worker w).pc.hasStopped = true := hsend
    have hheld : held { p.worker w with work := some b } = held (p.worker w) :=
      (held_of_hasStopped (c := { p.worker w with work := some b }) hpc).trans
        (held_of_hasStopped hpc).symm
    refine ⟨?_, rfl⟩
    simp only [custody, next, setWorker, Cells.total_update_of_eq hheld, IntakePc.hand,
      Option.elim_none]
    exact Multiset.add_le_add_right (Multiset.add_le_add_right (Multiset.zero_le _))
  all_goals exact hsend.elim

/-- **Every action keeps what a pool has to its receipts.** -/
theorem Conserved.next (h : p.Conserved) (hw : p.WellFormed) (ha : p.Enabled now a) :
    (p.next now a).Conserved where
  custody := by
    rw [(received_finished_next p now a).1, ← Multiset.coe_add]
    by_cases hsend : p.HandsToStopped (.inr a)
    · obtain ⟨hle, hnone⟩ := custody_of_handsToStopped ha hsend
      rw [hnone, Multiset.coe_nil, add_zero]
      exact hle.trans h.custody
    · rw [custody_next hw ha hsend]
      exact Multiset.add_le_add_right h.custody
  counted := by
    rw [counted_next, (received_finished_next p now a).2, transactions_append]
    refine Nat.add_le_add h.counted ?_
    cases a
    case settle w batch delivered =>
      cases delivered
      · exact Nat.zero_le _
      · exact (transactions_singleton batch).ge
    all_goals exact Nat.zero_le _

/-- What is settled was received. -/
theorem Conserved.finished (h : p.Conserved) :
    (p.finished : Multiset Batch) ≤ (p.received : Multiset Batch) :=
  (Multiset.le_add_left _ _).trans h.custody

/-- A pool that has just been started. -/
theorem conserved_startSenderPool (retry : SenderRetryConfig) (n : ℕ) :
    (startSenderPool retry n).Conserved := by
  have hempty : (empty retry).Conserved := ⟨le_rfl, le_rfl⟩
  obtain ⟨_, _, _, _, _, _, _, h⟩ := reconcile_frame (empty retry) n
  refine ⟨?_, by rw [startSenderPool, h]; exact hempty.counted⟩
  rw [startSenderPool, (custody_reconcile _ n).1, (custody_reconcile _ n).2]
  exact hempty.custody

end SenderPool

end IngestionLab
