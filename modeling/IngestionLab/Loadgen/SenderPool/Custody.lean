import IngestionLab.Loadgen.SenderPool.Size
import Mathlib.Algebra.Order.Group.Multiset

/-!
# Where the batches of a sender pool are

Every batch the intake has received is somewhere: in the intake's hand, with a
worker that is going to process it, or settled by `finishAcceptedBatch`. Being
somewhere is said with multisets, so that a batch at two places, or received
twice, would be seen: `IngestionLab.SenderPool.Accounted`.

A worker that has decided to stop never looks at its buffer again. It cannot be
given a batch while it is draining; but between its decision and `workerExited`
a request may clear its draining mark, the intake then takes it for available,
and the batch put into its buffer is lost when it leaves. This is the only way:

* `IngestionLab.SenderPool.Kept.next`: any other step loses nothing;
* `IngestionLab.SenderPool.no_batch_lost_iff`: **a run loses no batch exactly when
  it hands none to a worker that has decided to stop.**
-/

namespace IngestionLab

open Function

namespace SenderPool

variable {p : SenderPool} {now : ℕ} {a : Action}

/-! ### Custody -/

/-- What a worker holds and is still going to process: nothing once it has decided
to stop, whatever its buffer contains. -/
def held (c : SenderWorker) : Multiset Batch :=
  if c.pc.hasStopped then 0 else c.work.elim 0 singleton + c.pc.batch.elim 0 singleton

/-- **Where the batches are**: in the intake's hand, with the workers, or settled. -/
def custody (p : SenderPool) : Multiset Batch :=
  p.intake.hand.elim 0 singleton + Cells.total held p.worker p.started + (p.finished : Multiset Batch)

/-- Every batch received is somewhere, and nowhere twice. -/
def Accounted (p : SenderPool) : Prop := (p.received : Multiset Batch) = p.custody

/-- A worker that has left has nothing in its buffer. -/
def NothingLeftBehind (p : SenderPool) : Prop :=
  ∀ w, w < p.started → w ∉ p.workers → (p.worker w).work = none

instance (p : SenderPool) : Decidable p.Accounted :=
  inferInstanceAs (Decidable (_ = _))

instance (p : SenderPool) : Decidable p.NothingLeftBehind :=
  inferInstanceAs (Decidable (∀ w, w < p.started → _))

/-- The hand-off that loses a batch: to a worker that has decided to stop. -/
def HandsToStopped (p : SenderPool) : Memory ⊕ Action → Prop
  | .inr (.intakeSend _ w) => (p.worker w).pc.hasStopped = true
  | _ => False

instance (p : SenderPool) (a : Memory ⊕ Action) : Decidable (p.HandsToStopped a) := by
  rcases a with sh | a
  · exact inferInstanceAs (Decidable False)
  · apply Action.casesOn (motive := fun a => Decidable (p.HandsToStopped (.inr a))) a <;>
      intros <;> dsimp only [HandsToStopped] <;> infer_instance

theorem held_of_hasStopped {c : SenderWorker} (h : c.pc.hasStopped = true) : held c = 0 := if_pos h

theorem held_of_not_hasStopped {c : SenderWorker} (h : c.pc.hasStopped = false) :
    held c = c.work.elim 0 singleton + c.pc.batch.elim 0 singleton := by
  rw [held, h]
  rfl

/-- A broadcast leaves the intake's hand alone. -/
@[simp] theorem hand_broadcast (pc : IntakePc) : pc.broadcast.hand = pc.hand := by
  cases pc <;> rfl

/-- Moving the intake with the same hand moves no batch. -/
theorem custody_intake {pc : IntakePc} (h : pc.hand = p.intake.hand) :
    ({ p with intake := pc } : SenderPool).custody = p.custody := by
  simp only [custody, h]

/-- A change of one worker that leaves what it holds moves no batch. -/
theorem custody_setWorker {w : ℕ} {c : SenderWorker} (h : held c = held (p.worker w)) :
    (p.setWorker w c).custody = p.custody := by
  simp only [custody, setWorker, Cells.total_update_of_eq h]

/-- Nor does waking everyone. -/
theorem custody_wakeAll (p : SenderPool) : p.wakeAll.custody = p.custody := by
  have htotal : Cells.total held p.wakeAll.worker p.started = Cells.total held p.worker p.started :=
    Cells.total_congr fun v _ => by simp [held]
  exact congrArg (fun t => p.intake.hand.elim 0 singleton + t + (p.finished : Multiset Batch)) htotal

theorem custody_broadcast (p : SenderPool) : p.broadcast.custody = p.custody :=
  custody_intake (hand_broadcast _)

/-! ### Every step -/

/-- `reconcile` moves no batch. -/
theorem custody_reconcile (p : SenderPool) (d : ℕ) :
    (p.reconcile d).custody = p.custody ∧ (p.reconcile d).received = p.received := by
  cases hstop : p.stopping with
  | true => rw [reconcile_of_stopping hstop]; exact ⟨rfl, rfl⟩
  | false =>
    obtain ⟨k, cell, joined, heq, hnew, hold⟩ := exists_reconcile_eq hstop d
    have hfresh : Cells.total held cell (p.started + k) = Cells.total held cell p.started :=
      Cells.total_add_of_eq_zero fun v h1 h2 => by rw [hnew v h1 h2]; rfl
    have hkept : Cells.total held cell p.started = Cells.total held p.worker p.started := by
      refine Cells.total_congr fun v hv => ?_
      obtain ⟨dr, wk, hcell⟩ := hold v (by omega)
      rw [hcell]
      rfl
    rw [heq]
    simp only [custody, hand_broadcast, hfresh, hkept, and_self]

/-- `workerExited` moves no batch, nor does it touch the cell of the worker. -/
theorem custody_workerExited (hw : p.WellFormed) {w : ℕ} (hmem : w ∈ p.workers) :
    (p.workerExited w).custody = p.custody ∧ (p.workerExited w).received = p.received ∧
      (p.workerExited w).worker w = p.worker w := by
  have hlt : w < p.started := ((hw.registered w).mp hmem).1
  rw [workerExited_eq hmem]
  split
  · have hnew : held ({} : SenderWorker) = 0 := rfl
    refine ⟨?_, rfl, update_of_ne (by omega) _ _⟩
    simp only [custody, hand_broadcast, Cells.total_succ, update_self, hnew, add_zero,
      Cells.total_update_of_le le_rfl]
  · exact ⟨by simp only [custody, hand_broadcast], rfl, rfl⟩

/-- A hand-off to a worker that has not stopped moves the batch from the intake's
hand into the worker's buffer. -/
theorem custody_intakeSend (hw : p.WellFormed) {b : Batch} {w : ℕ}
    (ha : p.Enabled now (.intakeSend b w)) (hpc : (p.worker w).pc.hasStopped = false) :
    (p.next now (.intakeSend b w)).custody = p.custody := by
  obtain ⟨hintake, hwork⟩ := ha
  have hlt : w < p.started := ((hw.registered w).mp (hw.sending b w hintake).1).1
  have hmove := Cells.total_update held p.worker { p.worker w with work := some b } hlt
  rw [held_of_not_hasStopped hpc, held_of_not_hasStopped (c := { p.worker w with work := some b }) hpc,
    hwork, Option.elim_none, Option.elim_some, zero_add, ← add_assoc] at hmove
  have hsum := add_right_cancel hmove
  simp only [custody, next, setWorker, hsum, hintake, IntakePc.hand, Option.elim_none,
    Option.elim_some, zero_add]
  rw [add_comm (Cells.total held p.worker p.started)]

/-- `finishAcceptedBatch` takes the batch from the worker. -/
theorem custody_settle {b : Batch} {w : ℕ} {delivered : Bool}
    (ha : p.Enabled now (.settle w b delivered)) :
    (p.next now (.settle w b delivered)).custody = p.custody := by
  obtain ⟨hlt, hpc⟩ := ha
  have hmove := Cells.total_update held p.worker { p.worker w with pc := .finishing } hlt
  rw [held_of_not_hasStopped (by rw [hpc]; rfl),
    held_of_not_hasStopped (c := { p.worker w with pc := .finishing }) rfl, hpc] at hmove
  simp only [SenderWorkerPc.batch, Option.elim_none, Option.elim_some, add_zero] at hmove
  rw [add_comm _ ({b} : Multiset Batch), ← add_assoc] at hmove
  have hsum := add_right_cancel hmove
  simp only [custody, next, goto, setWorker, ← hsum, ← Multiset.coe_add, Multiset.coe_singleton]
  rw [add_comm (p.finished : Multiset Batch), ← add_assoc, ← add_assoc]

/-- **No step but a hand-off to a stopped worker loses a batch.** -/
theorem Accounted.next (h : p.Accounted) (hw : p.WellFormed) (ha : p.Enabled now a)
    (hsend : ¬p.HandsToStopped (.inr a)) : (p.next now a).Accounted := by
  unfold Accounted at h ⊢
  cases a
  case reconcile d => rwa [SenderPool.next, (custody_reconcile p d).1, (custody_reconcile p d).2]
  case workerExited w =>
    obtain ⟨⟨hlt, hpc⟩, -⟩ := ha
    obtain ⟨hcus, hrec, hcell⟩ := custody_workerExited hw
      ((hw.registered w).mpr ⟨hlt, by rw [hpc]; rfl⟩)
    have hgoto : ((p.workerExited w).goto w .removed).custody = (p.workerExited w).custody :=
      custody_setWorker (by
        rw [hcell, held_of_hasStopped (c := p.worker w) (by rw [hpc]; rfl)]
        rfl)
    change ((p.workerExited w).received : Multiset Batch) = _
    rw [SenderPool.next, hgoto, hcus, hrec, h]
  case pause =>
    simp only [SenderPool.next, pause]
    split
    · exact h
    · exact h.trans (custody_wakeAll _).symm
  case resumeRun =>
    simp only [SenderPool.next, resumeRun]
    split <;> exact h
  case stopMark => exact h.trans ((custody_wakeAll _).trans (custody_broadcast _)).symm
  case intakeReceive b =>
    simp only [Enabled] at ha
    simp only [SenderPool.next, ← Multiset.coe_add, h, custody, ha, IntakePc.hand, Option.elim_none,
      Option.elim_some, zero_add, Multiset.coe_singleton]
    rw [add_comm ({b} : Multiset Batch), add_right_comm]
  case intakeSend b w =>
    rw [custody_intakeSend hw ha (by simpa [HandsToStopped] using hsend)]
    exact h
  case settle w b delivered =>
    rw [custody_settle ha]
    exact h
  case clearBusy w =>
    obtain ⟨⟨-, hpc⟩, -⟩ := ha
    refine h.trans ((custody_broadcast _).trans (custody_setWorker ?_)).symm
    simp [held, hpc, SenderWorkerPc.hasStopped, SenderWorkerPc.batch]
  case intakeAssign b w =>
    obtain ⟨hintake, -⟩ := ha
    refine h.trans ?_
    rw [← custody_setWorker (p := p) (w := w) (c := { p.worker w with busy := true }) rfl]
    exact (custody_intake (by rw [setWorker, hintake]; rfl)).symm
  case intakeTest | intakeTestEntered =>
    simp only [Enabled] at ha
    refine h.trans (custody_intake ?_).symm
    rw [ha]
    split <;> rfl
  case intakeFound | intakePark | intakeCanceled | intakeClosed | intakeRecord | intakeParkWith |
      intakeExit =>
    simp only [Enabled] at ha
    refine h.trans (custody_intake ?_).symm
    simp only [ha, IntakePc.hand]
  case intakeEnter | intakeHanded | intakeLeave =>
    simp only [Enabled] at ha
    refine h.trans (custody_intake ?_).symm
    simp only [ha, IntakePc.hand]
    rfl
  case attemptReturns w b n outcome =>
    obtain ⟨⟨-, hpc⟩, -⟩ := ha
    refine h.trans (custody_setWorker ?_).symm
    cases outcome <;> simp [held, hpc, SenderWorkerPc.hasStopped, SenderWorkerPc.batch]
  case reconcileJoined | stopCancel | stopLock | stopReturn | stopIntakeDone | stopJoined | cancel =>
    exact h
  all_goals
    simp only [Enabled, At] at ha
    refine h.trans (custody_setWorker ?_).symm
    simp [held, ha, SenderWorkerPc.hasStopped, SenderWorkerPc.batch]

/-! ### Stopped workers -/

/-- A worker that has decided to stop has an empty buffer. -/
def StoppedEmpty (p : SenderPool) : Prop :=
  ∀ w, (p.worker w).pc.hasStopped = true → (p.worker w).work = none

/-- **A worker decides to stop only with an empty buffer, and nothing but a hand-off
fills it again.** -/
theorem StoppedEmpty.next (h : p.StoppedEmpty) (hw : p.WellFormed) (ha : p.Enabled now a)
    (hsend : ¬p.HandsToStopped (.inr a)) : (p.next now a).StoppedEmpty := by
  intro v
  have hv := h v
  cases a
  case reconcile d =>
    rw [SenderPool.next]
    rcases reconcile_worker p d v with hcell | ⟨dr, wk, hcell⟩
    · rw [hcell]
      exact fun _ => rfl
    · rw [hcell]
      exact hv
  case workerExited w =>
    obtain ⟨⟨hlt, hpc⟩, -⟩ := ha
    have hmem : w ∈ p.workers := (hw.registered w).mpr ⟨hlt, by rw [hpc]; rfl⟩
    simp only [SenderPool.next, workerExited_eq hmem]
    split <;>
    · simp only [goto, setWorker, update_apply]
      grind [SenderWorkerPc.hasStopped]
  case pause =>
    simp only [SenderPool.next, pause]
    split
    · exact hv
    · simpa only [wakeAll_pc, wakeAll_work] using hv
  case resumeRun =>
    simp only [SenderPool.next, resumeRun]
    split <;> exact hv
  case stopMark =>
    change ((wakeAll _).worker v).pc.hasStopped = true → ((wakeAll _).worker v).work = none
    simpa only [wakeAll_pc, wakeAll_work, broadcast] using hv
  all_goals first
    | exact hv
    | (simp only [Enabled, At, HandsToStopped, SenderPool.next, goto, setWorker, broadcast,
        update_apply] at ha hsend ⊢
       grind [SenderWorkerPc.hasStopped])

/-! ### Runs -/

/-- While the pool is not cancelled, nothing is lost. -/
def Kept (p : SenderPool) : Prop := p.cancelled = false → p.Accounted ∧ p.StoppedEmpty

/-- A step that hands no batch to a stopped worker loses nothing. -/
theorem Kept.next (h : p.Kept) (hw : p.WellFormed) (ha : p.Enabled now a)
    (hsend : p.cancelled = false → ¬p.HandsToStopped (.inr a)) : (p.next now a).Kept := fun hc => by
  have hold := cancelled_of_next hc
  exact ⟨(h hold).1.next hw ha (hsend hold), (h hold).2.next hw ha (hsend hold)⟩

/-- A hand-off to a stopped worker loses the batch. -/
theorem not_accounted_of_handsToStopped (h : p.Accounted) (ha : p.Enabled now a)
    (hsend : p.HandsToStopped (.inr a)) : ¬(p.next now a).Accounted := by
  cases a
  case intakeSend b w =>
    have hpc : (p.worker w).pc.hasStopped = true := hsend
    have hheld : held { p.worker w with work := some b } = held (p.worker w) :=
      (held_of_hasStopped (c := { p.worker w with work := some b }) hpc).trans
        (held_of_hasStopped hpc).symm
    intro hc
    have hnow : p.custody = ({b} : Multiset Batch) +
        (Cells.total held p.worker p.started + (p.finished : Multiset Batch)) := by
      rw [custody, ha.1, add_assoc]
      rfl
    have hthen : (p.next now (.intakeSend b w)).custody =
        Cells.total held p.worker p.started + (p.finished : Multiset Batch) := by
      simp only [custody, SenderPool.next, setWorker, Cells.total_update_of_eq hheld, IntakePc.hand,
        Option.elim_none, zero_add]
    have hcard := congrArg Multiset.card (h.symm.trans hc)
    rw [hthen, hnow] at hcard
    simp at hcard
  all_goals exact hsend.elim

/-- **A run loses no batch exactly when it hands none to a worker that has decided
to stop.** In every state a run visits before a cancellation, every batch received
is in the intake's hand, with a worker that is going to process it or settled, and
at one place only, and no worker has left with a batch in its buffer – if and only
if no hand-off of the run, before a cancellation, is to a worker that has decided
to stop. -/
theorem no_batch_lost_iff (retry : SenderRetryConfig) (n : ℕ) (sh : Memory)
    (as : List (Memory ⊕ Action)) (hrun : machine.Run (sh, startSenderPool retry n) as) :
    (∀ bs, bs <+: as →
      let p := (machine.after (sh, startSenderPool retry n) bs).2
      p.cancelled = false → p.Accounted ∧ p.NothingLeftBehind) ↔
    machine.Along (fun s a => s.2.cancelled = false → ¬s.2.HandsToStopped a)
      (sh, startSenderPool retry n) as := by
  have hkept : (startSenderPool retry n).Kept := fun _ => by
    refine ⟨?_, fun w => ?_⟩
    · rw [Accounted, startSenderPool, (custody_reconcile _ n).1, (custody_reconcile _ n).2]
      rfl
    · rw [startSenderPool]
      rcases reconcile_worker (empty retry) n w with hcell | ⟨dr, wk, hcell⟩
      · rw [hcell]
        exact fun _ => rfl
      · rw [hcell]
        exact fun _ => rfl
  have hstep : ∀ (s : Memory × SenderPool) (a : Memory ⊕ Action),
      s.2.WellFormed → machine.Enabled s a → (machine.next s a).2.WellFormed := by
    rintro s (sh' | a) hw ha
    · exact hw
    · exact hw.next ha
  constructor
  · intro h
    refine Machine.along_of_always (J := fun s => s.2.WellFormed)
      (P := fun s => s.2.cancelled = false → s.2.Accounted) hstep ?_
      (wellFormed_startSenderPool retry n) hrun
      (Machine.always_iff_prefix.mpr fun bs hbs hc => (h bs hbs hc).1)
    rintro s a hw hP ha hC hP'
    obtain ⟨hc, hsend⟩ : s.2.cancelled = false ∧ s.2.HandsToStopped a := by simpa using hC
    rcases a with sh' | a
    · exact hsend
    · refine not_accounted_of_handsToStopped (hP hc) ha hsend (hP' ?_)
      cases a
      case intakeSend b w => exact hc
      all_goals exact hsend.elim
  · intro h bs hbs p hc
    have hkeep := Machine.always_of_along (m := machine) (P := fun s => s.2.WellFormed ∧ s.2.Kept)
      (fun s a hP ha hC => by
        refine ⟨hstep s a hP.1 ha, ?_⟩
        cases a with
        | inl sh' => exact hP.2
        | inr act => exact hP.2.next hP.1 ha hC)
      ⟨wellFormed_startSenderPool retry n, hkept⟩ hrun h
    obtain ⟨hw, hk⟩ := Machine.always_iff_prefix.mp hkeep bs hbs
    refine ⟨(hk hc).1, fun w hlt hmem => (hk hc).2 w ?_⟩
    -- a worker started and not registered has left, and so has stopped
    have hleft : (p.worker w).pc.hasLeft = true := by
      by_contra hcon
      exact hmem ((hw.registered w).mpr ⟨hlt, by simpa using hcon⟩)
    change (p.worker w).pc.hasStopped = true
    cases hpc : (p.worker w).pc <;> simp_all [SenderWorkerPc.hasLeft, SenderWorkerPc.hasStopped]

/-! ### A run that loses a batch -/

/-- The steps by which a worker delivers its batch and is free again. -/
def deliverSteps (batch : Batch) (w : ℕ) : List (Memory ⊕ Action) :=
  [.clearBackoff w batch 1, .gatePassed w batch 1, .startAttempt w batch 1,
    .attemptReturns w batch 1 .success,
    .settle w batch true, .clearBusy w].map .inr

/-- Two workers, each with a batch; one worker is requested, which marks the second
one draining; it delivers its batch and decides to stop; two workers are requested
again, which clears the mark; the intake hands it a third batch; it leaves. -/
def losingRun : List (Memory ⊕ Action) :=
  receiveSteps [⟨"a"⟩] 0 ++ receiveSteps [⟨"b"⟩] 1 ++ [.inr (.reconcile 1)] ++
    deliverSteps [⟨"b"⟩] 1 ++ [.inr (.decideStop 1), .inr (.reconcile 2)] ++
    (receiveSteps [⟨"c"⟩] 1).dropLast ++ [.inr (.workerExited 1)]

/-- **A batch can be lost**: after this run, which cancels nothing, the third batch
is in the buffer of a worker that has left, and nowhere else. -/
theorem losingRun_loses_batch :
    let s := ({}, startSenderPool ⟨[1000], 0, "startup"⟩ 2)
    let p := (machine.after s losingRun).2
    machine.Run s losingRun ∧ p.cancelled = false ∧ 1 ∉ p.workers ∧
      (p.worker 1).work = some [⟨"c"⟩] ∧ ¬p.NothingLeftBehind ∧ ¬p.Accounted := by
  decide +kernel

/-- The same run up to the third batch loses nothing. -/
theorem no_batch_lost_losingRun_take :
    let p := (machine.after ({}, startSenderPool ⟨[1000], 0, "startup"⟩ 2) (losingRun.take 29)).2
    p.cancelled = false ∧ p.Accounted ∧ p.NothingLeftBehind := by
  have hopen : (machine.after ({}, startSenderPool ⟨[1000], 0, "startup"⟩ 2)
      (losingRun.take 29)).2.cancelled = false := by decide +kernel
  exact ⟨hopen, (no_batch_lost_iff ⟨[1000], 0, "startup"⟩ 2 {} (losingRun.take 29)
    (by decide +kernel)).mpr (by decide +kernel) _ List.prefix_rfl hopen⟩

end SenderPool

end IngestionLab
