import IngestionLab.Loadgen.ReaderPool.ReadFile
import IngestionLab.Loadgen.ReaderPool.Steps
import Mathlib.Algebra.Order.Group.Multiset

/-!
# What becomes of the rows

A reader worker puts nothing into a batch but rows it has read, each once: what it has in
its hand and what it sends is at most what it had and what it reads
(`IngestionLab.ReadPc.held_move`), whether or not the pool is cancelled meanwhile. Every
batch it sends is full or the last of its file, and never empty
(`IngestionLab.ReadPc.Batched.move`). Both are kept by the whole pool, whatever its size
(`IngestionLab.ReaderPool.held_next`, `IngestionLab.ReaderPool.Batched.next`).
-/

namespace IngestionLab

open Function

/-! ### A move inside `readFile` -/

/-- The rows a move reads. -/
def ReadMove.rows : ReadMove → Batch
  | .read rows _ => rows
  | _ => []

/-- The batch a move sends. -/
def ReadMove.sent : ReadMove → List Batch
  | .trySend batch | .waitSend batch => [batch]
  | _ => []

namespace ReadPc

/-- The rows a position holds: those of the batch, unless it has been sent, and those that
are still to be appended. -/
def held : ReadPc → Batch
  | head batch | reading batch | tail batch => batch
  | recording batch rows _ | appending batch rows _ => batch ++ rows
  | sending batch back pc => (if pc.isSent then [] else batch) ++ back.elim [] Prod.fst
  | opening | openingReader | closingUnopened _ | closing _ | closingReader _ _ | closingFile _ _
  | returned _ => []

/-- The batch of a position fits the batch size, with room while it is filled. -/
def Batched (N : ℕ) : ReadPc → Prop
  | head batch | reading batch | tail batch => batch.length < N
  | recording batch _ _ | appending batch _ _ => batch.length < N
  | sending batch _ _ => batch ≠ [] ∧ batch.length ≤ N
  | opening | openingReader | closingUnopened _ | closing _ | closingReader _ _ | closingFile _ _
  | returned _ => True

variable {N : ℕ} {v : ReadView} {pc pc' : ReadPc} {m : ReadMove}

/-- Past the rows of a read there are no others in the hand. -/
theorem isPrefix_held_afterAppend (v : ReadView) (batch : Batch) (ending : ReadEnd) :
    (afterAppend v batch ending).held <+: batch := by
  cases ending with
  | more => exact List.prefix_rfl
  | eof => exact List.prefix_rfl
  | failed message => exact List.nil_prefix

/-- Past a send nothing of the batch is in the hand. -/
theorem isPrefix_held_afterSend (back : Option (Batch × ReadEnd)) (sent : Bool) :
    (afterSend back sent).held <+: back.elim [] Prod.fst := by
  cases back with
  | none => exact List.nil_prefix
  | some back =>
    cases sent with
    | true => exact List.prefix_rfl
    | false => exact List.nil_prefix

/-- **A move sends and keeps rows that it has or reads**, in their order: what it sends,
and what it has after that, is a prefix of what it had and what it reads. -/
theorem held_move (hm : pc.move v m = some pc') :
    m.sent.flatten ++ pc'.held <+: pc.held ++ m.rows := by
  cases pc with
  | opening =>
    cases m <;> simp only [move, reduceCtorEq, Option.some.injEq] at hm <;> exact hm ▸ List.nil_prefix
  | openingReader =>
    cases m <;> simp only [move, reduceCtorEq, Option.some.injEq] at hm <;> exact hm ▸ List.nil_prefix
  | closingUnopened message =>
    cases m <;> simp only [move, reduceCtorEq] at hm
    split at hm <;> exact Option.some.inj hm ▸ List.nil_prefix
  | head batch =>
    cases m <;> simp only [move, reduceCtorEq, Option.some.injEq] at hm
    subst hm
    split <;> exact (List.append_nil batch).symm ▸ List.prefix_rfl
  | reading batch =>
    cases m <;> simp only [move, reduceCtorEq] at hm
    case read rows ending =>
      split_ifs at hm with hlong hnil
      · obtain rfl := Option.some.inj hm
        exact (isPrefix_held_afterAppend v batch ending).trans (List.prefix_append _ _)
      · obtain rfl := Option.some.inj hm
        exact List.prefix_rfl
  | recording batch rows ending =>
    cases m <;> simp only [move, reduceCtorEq, Option.some.injEq] at hm
    subst hm
    exact (List.append_nil (batch ++ rows)).symm ▸ List.prefix_rfl
  | appending batch rows ending =>
    cases m <;> simp only [move, reduceCtorEq] at hm
    case appendRows =>
      have hall : (appending batch rows ending).held ++ ReadMove.appendRows.rows = batch ++ rows :=
        List.append_nil _
      rw [hall]
      -- taking what there is room for and leaving the rest changes nothing
      have hsplit : ∀ room, batch ++ rows.take room ++ rows.drop room = batch ++ rows := fun room => by
        rw [List.append_assoc, List.take_append_drop]
      split_ifs at hm with hnil hcancelled hshort
      · obtain rfl := Option.some.inj hm
        exact (isPrefix_held_afterAppend v batch ending).trans (List.prefix_append _ _)
      · exact Option.some.inj hm ▸ List.nil_prefix
      · obtain rfl := Option.some.inj hm
        exact (hsplit _).symm ▸ List.prefix_rfl
      · obtain rfl := Option.some.inj hm
        exact (hsplit _).symm ▸ List.prefix_rfl
  | sending batch back pc =>
    have hstays : ∀ {place : SendPc}, place.isSent = pc.isSent →
        (sending batch back place).held <+: (sending batch back pc).held ++ [] := fun h => by
      rw [List.append_nil, held, held, h]
    have hback : pc.isSent = true → ∀ sent,
        (afterSend back sent).held <+: (sending batch back pc).held ++ [] := fun h sent => by
      rw [List.append_nil, held, h]
      exact isPrefix_held_afterSend back sent
    cases pc
    case test =>
      cases m <;> simp only [move, reduceCtorEq, Option.some.injEq] at hm
      subst hm
      split
      · cases back <;> exact List.nil_prefix
      · exact hstays rfl
    case trying =>
      cases m <;> simp only [move, reduceCtorEq, Option.some.injEq, Option.ite_none_right_eq_some] at hm
      case trySend sent =>
        obtain ⟨rfl, rfl⟩ := hm
        simp [held, SendPc.isSent, ReadMove.sent, ReadMove.rows]
      case tryDefault => exact hm ▸ hstays rfl
    case recordTry =>
      cases m <;> simp only [move, reduceCtorEq, Option.some.injEq] at hm
      exact hm ▸ hback rfl true
    case begin =>
      cases m <;> simp only [move, reduceCtorEq, Option.some.injEq] at hm
      exact hm ▸ hstays rfl
    case flag id =>
      cases m <;> simp only [move, reduceCtorEq, Option.some.injEq] at hm
      exact hm ▸ hstays rfl
    case waiting id =>
      cases m <;> simp only [move, reduceCtorEq, Option.ite_none_right_eq_some] at hm
      case waitSend sent =>
        obtain ⟨rfl, hm⟩ := hm
        obtain rfl := Option.some.inj hm
        simp [held, SendPc.isSent, ReadMove.sent, ReadMove.rows]
      case waitCanceled =>
        obtain ⟨-, hm⟩ := hm
        exact Option.some.inj hm ▸ hstays rfl
    case finish id sent =>
      cases m <;> simp only [move, reduceCtorEq, Option.some.injEq] at hm
      cases sent <;> exact hm ▸ hstays rfl
    case recordWait =>
      cases m <;> simp only [move, reduceCtorEq, Option.some.injEq] at hm
      exact hm ▸ hstays rfl
    case unflag sent =>
      cases m <;> simp only [move, reduceCtorEq, Option.some.injEq] at hm
      cases sent with
      | true => exact hm ▸ hback rfl true
      | false =>
        subst hm
        cases back <;> exact List.nil_prefix
  | tail batch =>
    cases m <;> simp only [move, reduceCtorEq, Option.some.injEq] at hm
    subst hm
    split
    · simp [held, SendPc.isSent, ReadMove.sent, ReadMove.rows]
    · exact List.nil_prefix
  | closing error =>
    cases m <;> simp only [move, reduceCtorEq, Option.some.injEq] at hm
    exact hm ▸ List.nil_prefix
  | closingReader error cancelled =>
    cases m <;> simp only [move, reduceCtorEq, Option.some.injEq] at hm
    exact hm ▸ List.nil_prefix
  | closingFile error cancelled =>
    cases m <;> simp only [move, reduceCtorEq, Option.some.injEq] at hm
    exact hm ▸ List.nil_prefix
  | returned error => cases m <;> simp only [move, reduceCtorEq] at hm

/-! ### The size of a batch -/

theorem Batched.afterAppend {batch : Batch} (h : batch.length < N) (ending : ReadEnd) :
    (ReadPc.afterAppend v batch ending).Batched N := by
  cases ending with
  | more => exact h
  | eof => exact h
  | failed message => trivial

theorem Batched.afterSend (hN : 0 < N) (back : Option (Batch × ReadEnd)) (sent : Bool) :
    (ReadPc.afterSend back sent).Batched N := by
  cases back with
  | none => trivial
  | some back =>
    cases sent with
    | true => exact hN
    | false => trivial

/-- **A move keeps to the batch size.** -/
theorem Batched.move (hN : 0 < N) (hsize : v.batchSize = N) (h : pc.Batched N)
    (hm : pc.move v m = some pc') : pc'.Batched N := by
  cases pc with
  | opening =>
    cases m <;> simp only [ReadPc.move, reduceCtorEq, Option.some.injEq] at hm <;>
      exact hm ▸ trivial
  | openingReader =>
    cases m <;> simp only [ReadPc.move, reduceCtorEq, Option.some.injEq] at hm
    case readerOpened => exact hm ▸ hN
    case readerFailed message => exact hm ▸ trivial
  | closingUnopened message =>
    cases m <;> simp only [ReadPc.move, reduceCtorEq] at hm
    split at hm <;> exact Option.some.inj hm ▸ trivial
  | head batch =>
    cases m <;> simp only [ReadPc.move, reduceCtorEq, Option.some.injEq] at hm
    subst hm
    split <;> exact h
  | reading batch =>
    cases m <;> simp only [ReadPc.move, reduceCtorEq] at hm
    case read rows ending =>
      split_ifs at hm with hlong hnil
      · exact Option.some.inj hm ▸ Batched.afterAppend h ending
      · exact Option.some.inj hm ▸ h
  | recording batch rows ending =>
    cases m <;> simp only [ReadPc.move, reduceCtorEq, Option.some.injEq] at hm
    exact hm ▸ h
  | appending batch rows ending =>
    cases m <;> simp only [ReadPc.move, reduceCtorEq, hsize] at hm
    case appendRows =>
      split_ifs at hm with hnil hcancelled hshort
      · exact Option.some.inj hm ▸ Batched.afterAppend h ending
      · exact Option.some.inj hm ▸ trivial
      · exact Option.some.inj hm ▸ hshort
      · obtain rfl := Option.some.inj hm
        have hlt : batch.length < N := h
        simp only [List.length_append, List.length_take, not_lt] at hshort
        refine ⟨List.ne_nil_of_length_pos ?_, ?_⟩ <;>
          simp only [List.length_append, List.length_take] <;> omega
  | sending batch back pc =>
    cases pc <;> cases m <;>
      simp only [ReadPc.move, reduceCtorEq, Option.some.injEq, Option.ite_none_right_eq_some] at hm
    case test.testSend =>
      subst hm
      split
      · exact Batched.afterSend hN back false
      · exact h
    case recordTry.recordTry => exact hm ▸ Batched.afterSend hN back true
    case unflag.clearBlocked sent => exact hm ▸ Batched.afterSend hN back sent
    case trying.trySend sent => exact hm.2 ▸ h
    case waiting.waitSend id sent => exact hm.2 ▸ h
    case waiting.waitCanceled id => exact hm.2 ▸ h
    all_goals exact hm ▸ h
  | tail batch =>
    cases m <;> simp only [ReadPc.move, reduceCtorEq, Option.some.injEq] at hm
    subst hm
    split
    next hsend => exact ⟨hsend.2, le_of_lt h⟩
    · trivial
  | closing error =>
    cases m <;> simp only [ReadPc.move, reduceCtorEq, Option.some.injEq] at hm
    exact hm ▸ trivial
  | closingReader error cancelled =>
    cases m <;> simp only [ReadPc.move, reduceCtorEq, Option.some.injEq] at hm
    exact hm ▸ trivial
  | closingFile error cancelled =>
    cases m <;> simp only [ReadPc.move, reduceCtorEq, Option.some.injEq] at hm
    exact hm ▸ trivial
  | returned error => cases m <;> simp only [ReadPc.move, reduceCtorEq] at hm

/-- **What a move sends is of the batch size**, and not empty. -/
theorem Batched.sent (h : pc.Batched N) (hm : pc.move v m = some pc') :
    ∀ batch ∈ m.sent, batch ≠ [] ∧ batch.length ≤ N := by
  intro batch hbatch
  cases m with
  | trySend sent =>
    obtain rfl := List.mem_singleton.mp hbatch
    cases pc <;> simp only [ReadPc.move, reduceCtorEq] at hm
    rename_i place
    cases place <;> simp only [reduceCtorEq, Option.ite_none_right_eq_some] at hm
    exact hm.1 ▸ h
  | waitSend sent =>
    obtain rfl := List.mem_singleton.mp hbatch
    cases pc <;> simp only [ReadPc.move, reduceCtorEq] at hm
    rename_i place
    cases place <;> simp only [reduceCtorEq, Option.ite_none_right_eq_some] at hm
    exact hm.1 ▸ h
  | _ => exact absurd hbatch List.not_mem_nil

end ReadPc

/-! ### The pool -/

namespace ReaderWorkerPc

/-- The rows a worker holds. -/
def held : ReaderWorkerPc → Batch
  | file _ pc => pc.held
  | _ => []

/-- The batch a worker fills fits the batch size. -/
def Batched (N : ℕ) : ReaderWorkerPc → Prop
  | file _ pc => pc.Batched N
  | _ => True

@[simp] theorem held_broadcast (pc : ReaderWorkerPc) : pc.broadcast.held = pc.held := by
  cases pc <;> rfl

@[simp] theorem batched_broadcast {N : ℕ} (pc : ReaderWorkerPc) :
    pc.broadcast.Batched N ↔ pc.Batched N := by
  cases pc <;> exact Iff.rfl

end ReaderWorkerPc

namespace ReaderPool

variable {p : ReaderPool} {sh : Memory} {a : Action}

/-- The rows an action reads. -/
def Action.rows : Action → Batch
  | .read _ _ _ move => move.rows
  | _ => []

/-- The batch an action sends. -/
def Action.sent : Action → List Batch
  | .read _ _ _ move => move.sent
  | _ => []

/-- The rows of a cell. -/
def rowsOf (c : ReaderWorker) : Multiset Transaction := (c.pc.held : Multiset Transaction)

/-- **The rows the workers hold.** -/
def held (p : ReaderPool) : Multiset Transaction := Cells.total rowsOf p.worker p.started

theorem total_rowsOf_broadcast (cell : ℕ → ReaderWorker) (n : ℕ) :
    Cells.total rowsOf (fun v => { cell v with pc := (cell v).pc.broadcast }) n =
      Cells.total rowsOf cell n :=
  Cells.total_congr fun v _ => by simp only [rowsOf, ReaderWorkerPc.held_broadcast]

theorem held_reconcile (p : ReaderPool) (d : ℕ) : (p.reconcile d).held = p.held := by
  by_cases hs : p.stopping = true ∨ p.cancelled = true
  · rw [reconcile_of_stopped hs]
  simp only [not_or, Bool.not_eq_true] at hs
  obtain ⟨cell, heq, hnew, hold⟩ := exists_reconcile_eq hs.1 hs.2 d
  have htotal : Cells.total rowsOf cell (p.started + (d - p.workers.length)) =
      Cells.total rowsOf p.worker p.started := by
    rw [Cells.total_add_of_eq_zero fun v h1 h2 => by rw [hnew v h1 h2]; rfl]
    refine Cells.total_congr fun v hv => ?_
    rw [hold v (by omega)]
    simp only [rowsOf, ReaderWorkerPc.held_broadcast]
  rw [heq]
  exact htotal

/-- **What the pool sends and keeps is what it has or reads.** -/
theorem held_next (ha : p.Enabled sh a) :
    (a.sent.flatten : Multiset Transaction) + (p.next sh a).held ≤
      p.held + (a.rows : Multiset Transaction) := by
  have hsame : a.sent = [] → (p.next sh a).held = p.held →
      (a.sent.flatten : Multiset Transaction) + (p.next sh a).held ≤
        p.held + (a.rows : Multiset Transaction) := by
    intro hsent hheld
    rw [hsent, hheld, List.flatten_nil, Multiset.coe_nil, zero_add]
    exact Multiset.le_add_right _ _
  cases a
  case read w path pc move =>
    obtain ⟨⟨hlt, hpc⟩, hmove⟩ := ha
    obtain ⟨pc', hpc'⟩ := Option.isSome_iff_exists.mp hmove
    have hmoved := Cells.total_update rowsOf p.worker
      { p.worker w with
        blocked := move.blocked (p.worker w).blocked
        pc := .file path pc' } hlt
    have hrows : (move.sent.flatten : Multiset Transaction) + pc'.held ≤ pc.held + move.rows := by
      rw [Multiset.coe_add, Multiset.coe_add]
      exact Multiset.coe_le.mpr (ReadPc.held_move hpc').sublist.subperm
    have hold : rowsOf (p.worker w) = (pc.held : Multiset Transaction) := by rw [rowsOf, hpc]; rfl
    rw [hold] at hmoved
    simp only [next, setWorker, hpc', Option.getD_some, held, Action.sent, Action.rows]
    refine le_of_add_le_add_right (a := (pc.held : Multiset Transaction)) ?_
    calc (move.sent.flatten : Multiset Transaction) + Cells.total rowsOf _ p.started + pc.held
        = (move.sent.flatten : Multiset Transaction) + (Cells.total rowsOf p.worker p.started + pc'.held) := by
          rw [add_assoc]
          exact congrArg _ hmoved
      _ = Cells.total rowsOf p.worker p.started + (move.sent.flatten + pc'.held) := by
          rw [add_left_comm]
      _ ≤ Cells.total rowsOf p.worker p.started + (pc.held + move.rows) := by gcongr
      _ = Cells.total rowsOf p.worker p.started + move.rows + pc.held := by
          rw [add_comm (pc.held : Multiset Transaction), add_assoc]
  case reconcile d => exact hsame rfl (held_reconcile p d)
  case exitWorker w =>
    obtain ⟨hlt, hpc⟩ := ha
    refine hsame rfl ?_
    simp only [next, exitWorker_eq]
    split
    · simp only [goto, setWorker, held]
      rw [Cells.total_update_of_eq, Cells.total_succ, Cells.total_update_of_le le_rfl, update_self]
      · exact add_zero _
      · rw [update_of_ne (by omega)]
        simp [rowsOf, hpc, ReaderWorkerPc.held]
    · simp only [goto, setWorker, held]
      rw [Cells.total_update_of_eq]
      simp [rowsOf, hpc, ReaderWorkerPc.held]
  case release w path =>
    obtain ⟨hlt, hpc⟩ := ha
    refine hsame rfl ?_
    simp only [next, releaseFileLocked, setWorker, broadcast, held]
    rw [total_rowsOf_broadcast, Cells.total_update_of_eq]
    simp [rowsOf, hpc, ReaderWorkerPc.held]
  case mark w path =>
    obtain ⟨hlt, hpc⟩ := ha
    refine hsame rfl ?_
    simp only [next, goto, setWorker, markStopping, broadcast, held]
    rw [total_rowsOf_broadcast, Cells.total_update_of_eq]
    simp [rowsOf, hpc, ReaderWorkerPc.held]
  case stopMark => exact hsame rfl (total_rowsOf_broadcast _ _)
  case watcherMark => exact hsame rfl (total_rowsOf_broadcast _ _)
  case check w =>
    obtain ⟨hlt, hpc⟩ := ha
    refine hsame rfl (Cells.total_update_of_eq ?_)
    simp only [rowsOf, hpc]
    split <;> rfl
  case receiveError error => exact hsame rfl rfl
  case cancel => exact hsame rfl rfl
  case watcherWoken => exact hsame rfl rfl
  case watcherJoined => exact hsame rfl rfl
  all_goals
    simp only [Enabled, At] at ha
    refine hsame rfl (Cells.total_update_of_eq ?_)
    simp [rowsOf, ha, ReaderWorkerPc.held, ReadPc.held]

/-! ### The size of the batches of a pool -/

/-- The batch size of a pool never changes. -/
theorem batchSize_next : (p.next sh a).batchSize = p.batchSize := by
  cases a
  case reconcile d =>
    obtain ⟨_, _, _, _, _, h⟩ := reconcile_frame p d
    simp [next, h]
  case exitWorker w =>
    simp only [next, exitWorker_eq]
    split <;> rfl
  all_goals rfl

/-- **Every batch that is filled fits the batch size** of the pool, which is not zero. -/
structure Batched (p : ReaderPool) : Prop where
  pos : 0 < p.batchSize
  worker : ∀ w, (p.worker w).pc.Batched p.batchSize

/-- A worker that moves on leaves the others where they are. -/
theorem Batched.goto (h : p.Batched) (w : ℕ) (pc : ReaderWorkerPc) (hpc : pc.Batched p.batchSize) (v : ℕ) :
    ((p.goto w pc).worker v).pc.Batched p.batchSize := by
  simp only [ReaderPool.goto, setWorker, update_apply]
  split
  · exact hpc
  · exact h.worker v

/-- A request leaves the batches as they are. -/
theorem Batched.reconcile_worker (h : p.Batched) (d v : ℕ) :
    ((p.reconcile d).worker v).pc.Batched p.batchSize := by
  rcases ReaderPool.reconcile_worker p d v with hcell | ⟨dr, pc, hcell, rfl | rfl⟩
  · rw [hcell]
    trivial
  · rw [hcell]
    exact h.worker v
  · rw [hcell]
    exact (ReaderWorkerPc.batched_broadcast _).mpr (h.worker v)

/-- **Every action keeps to the batch size.** -/
theorem Batched.next (h : p.Batched) (ha : p.Enabled sh a) : (p.next sh a).Batched := by
  refine ⟨by rw [batchSize_next]; exact h.pos, fun v => ?_⟩
  rw [batchSize_next]
  cases a with
  | reconcile d => exact h.reconcile_worker d v
  | receiveError error => exact h.worker v
  | stopMark => exact (ReaderWorkerPc.batched_broadcast _).mpr (h.worker v)
  | cancel => exact h.worker v
  | watcherWoken => exact h.worker v
  | watcherMark => exact (ReaderWorkerPc.batched_broadcast _).mpr (h.worker v)
  | watcherJoined => exact h.worker v
  | claimQuit w => exact h.goto w .exiting trivial v
  | claim w index =>
    simp only [ReaderPool.next, claimFile, setWorker, update_apply]
    split
    · trivial
    · exact h.worker v
  | claimPark w => exact h.goto w .parked trivial v
  | read w path pc move =>
    obtain ⟨⟨-, hpc⟩, hmove⟩ := ha
    obtain ⟨pc', hpc'⟩ := Option.isSome_iff_exists.mp hmove
    have hold := h.worker w
    rw [hpc] at hold
    simp only [ReaderPool.next, setWorker, update_apply, hpc', Option.getD_some]
    split
    · exact ReadPc.Batched.move h.pos rfl hold hpc'
    · exact h.worker v
  | readDone w path => exact h.goto w (.releasing path) trivial v
  | readFailed w path error => exact h.goto w (.reporting path error) trivial v
  | reportFirst w path error => exact h.goto w (.pushing path error) trivial v
  | reportAgain w path error => exact h.goto w (.releasing path) trivial v
  | push w path error => exact h.goto w (.cancelling path) trivial v
  | cancelPool w path => exact h.goto w (.marking path) trivial v
  | mark w path => exact (ReaderWorkerPc.batched_broadcast _).mpr (h.goto w (.releasing path) trivial v)
  | release w path =>
    refine (ReaderWorkerPc.batched_broadcast _).mpr ?_
    simp only [setWorker, update_apply]
    split
    · trivial
    · exact h.worker v
  | check w =>
    refine h.goto w _ ?_ v
    split <;> trivial
  | exitWorker w =>
    simp only [ReaderPool.next, ReaderPool.goto, setWorker, exitWorker_eq]
    split <;> simp only [update_apply] <;> split_ifs <;> first | trivial | exact h.worker v
  | releaseWg w => exact h.goto w .exited trivial v

/-- **What a pool sends is of its batch size**, and not empty. -/
theorem Batched.sent (h : p.Batched) (ha : p.Enabled sh a) :
    ∀ batch ∈ a.sent, batch ≠ [] ∧ batch.length ≤ p.batchSize := by
  cases a with
  | read w path pc move =>
    obtain ⟨⟨-, hpc⟩, hmove⟩ := ha
    obtain ⟨pc', hpc'⟩ := Option.isSome_iff_exists.mp hmove
    have hold := h.worker w
    rw [hpc] at hold
    exact ReadPc.Batched.sent hold hpc'
  | _ => exact fun batch hbatch => absurd hbatch List.not_mem_nil

/-- A pool that has just been started holds nothing and keeps to its batch size. -/
theorem held_batched_start (dataPath : Go.Path) (batchSize n : ℕ) (files : List Go.Path) :
    (start dataPath batchSize n files).held = 0 ∧
      (0 < batchSize → (start dataPath batchSize n files).Batched) := by
  constructor
  · rw [start, held_reconcile]
    rfl
  · intro hpos
    have hempty : (empty files (readerSourceDirectory dataPath) batchSize).Batched :=
      ⟨hpos, fun _ => trivial⟩
    obtain ⟨_, _, _, _, _, heq⟩ := reconcile_frame (empty files (readerSourceDirectory dataPath) batchSize) n
    refine ⟨?_, fun v => ?_⟩
    · rw [start, heq]
      exact hpos
    · have hsame : (start dataPath batchSize n files).batchSize = batchSize := by
        rw [start, heq]
        rfl
      rw [hsame]
      exact hempty.reconcile_worker n v

end ReaderPool

end IngestionLab
