import IngestionLab.Loadgen.Pipeline.Flow
import IngestionLab.Loadgen.ReaderPool.Rows
import Mathlib.Algebra.BigOperators.Group.Finset.Piecewise

/-!
# Where the transactions come from

The batches the readers put into a pipeline are made of the rows they have read, each row
once (`IngestionLab.Pipeline.Sourced`); with what is known of the flow that goes for what
is settled and counted at the other end, in every run of the service and in all of them
together.

* `IngestionLab.Service.transactions_come_from_rows`: **no transaction is delivered more
  often than it was read, and none is counted that was not**: not in a run, and not in the
  total reported to Prometheus. Every batch on its way has at least one transaction and no
  more than the configuration allows.
-/

namespace IngestionLab

open Go Function
open Throttler (transactions)

/-- Fewer batches have fewer transactions. -/
theorem flatten_le_flatten {l l' : List Batch} (h : (l : Multiset Batch) ≤ (l' : Multiset Batch)) :
    (l.flatten : Multiset Transaction) ≤ (l'.flatten : Multiset Transaction) := by
  obtain ⟨m, hperm, hsub⟩ := Multiset.coe_le.mp h
  exact Multiset.coe_le.mpr ⟨m.flatten, hperm.flatten, hsub.flatten⟩

/-- The transactions of some batches. -/
theorem transactions_eq_length_flatten (l : List Batch) : transactions l = l.flatten.length := by
  rw [transactions, List.length_flatten]

/-- What a reader puts into the channel is what it sends. -/
theorem ReaderPool.Action.sent_op (a : ReaderPool.Action) : a.op.sent = a.sent := by
  cases a with
  | read w path pc move => cases move <;> rfl
  | _ => rfl

/-- A call of the reader pool reads nothing and sends nothing. -/
theorem ReaderPool.Action.sent_of_eventLoop {a : ReaderPool.Action} (ha : a.actor = .eventLoop) :
    a.sent = [] ∧ a.rows = [] := by
  cases a <;> first | exact ⟨rfl, rfl⟩ | cases ha

namespace Pipeline

/-- The rows an action reads. -/
def Action.rows : Action → Batch
  | .reader a | .passToThrottler a _ => a.rows
  | _ => []

/-- The rows read in a change. -/
def Change.rows : Change → Batch
  | .goroutine a => a.rows
  | _ => []

/-- The rows the readers hold. -/
def held (q : Pipeline) : Multiset Transaction := q.readerPool.elim 0 ReaderPool.held

variable {q : Pipeline} {sh : Memory} {root : Bool} {a : Action} {c : Change} {cfg : Config}
  {rows : Batch} {put : List Batch}

/-- **What has been put into a pipeline was read**, and each batch is of a size that is
allowed. -/
structure Sourced (cfg : Config) (q : Pipeline) (rows : Batch) (put : List Batch) : Prop where
  rows : (put.flatten : Multiset Transaction) + q.held ≤ (rows : Multiset Transaction)
  pool : ∀ p ∈ q.readerPool, p.Batched ∧ cfg.reader.readBatchSize.contains p.batchSize = true
  put : ∀ batch ∈ put, batch ≠ [] ∧ (batch.length : ℤ) ≤ cfg.reader.readBatchSize.max

/-- Where the reader pool is left alone, nothing is read or put in. -/
theorem Sourced.congr {q' : Pipeline} (h : q.Sourced cfg rows put)
    (hpool : q'.readerPool = q.readerPool) : q'.Sourced cfg rows put where
  rows := by
    rw [held, hpool]
    exact h.rows
  pool := by
    rw [hpool]
    exact h.pool
  put := h.put

/-- A step of the reader pool. -/
theorem Sourced.stepReader {b : ReaderPool.Action} (h : q.Sourced cfg rows put)
    (hen : ∀ p ∈ q.readerPool, p.Enabled sh b) (hthere : q.readerPool = none → b.sent = []) :
    (q.stepReader sh b).Sourced cfg (rows ++ b.rows) (put ++ b.sent) := by
  cases hpool : q.readerPool with
  | none =>
    have hnone : (q.stepReader sh b).readerPool = none := by simp [Pipeline.stepReader, hpool]
    have hrows := h.rows
    rw [held, hpool, Option.elim_none, add_zero] at hrows
    rw [hthere hpool, List.append_nil]
    refine ⟨?_, fun p hp => ?_, h.put⟩
    · rw [held, hnone, Option.elim_none, add_zero, ← Multiset.coe_add]
      exact hrows.trans (Multiset.le_add_right _ _)
    · rw [hnone] at hp
      cases hp
  | some p =>
    obtain ⟨hbatched, hcontains⟩ := h.pool p hpool
    have hstep := ReaderPool.held_next (hen p hpool)
    have hrows := h.rows
    have hnext : (q.stepReader sh b).readerPool = some (p.next sh b) := by
      simp [Pipeline.stepReader, hpool]
    rw [held, hpool, Option.elim_some] at hrows
    refine ⟨?_, fun p' hp' => ?_, fun batch hbatch => ?_⟩
    · rw [held, hnext, Option.elim_some, List.flatten_append, ← Multiset.coe_add, ← Multiset.coe_add,
        add_assoc]
      calc (put.flatten : Multiset Transaction) + (b.sent.flatten + (p.next sh b).held)
          ≤ put.flatten + (p.held + b.rows) := by gcongr
        _ = put.flatten + p.held + b.rows := (add_assoc _ _ _).symm
        _ ≤ rows + b.rows := by gcongr
    · rw [hnext] at hp'
      obtain rfl := Option.some.inj hp'
      rw [ReaderPool.batchSize_next]
      exact ⟨hbatched.next (hen p hpool), hcontains⟩
    · rcases List.mem_append.mp hbatch with hold | hnew
      · exact h.put batch hold
      · obtain ⟨hne, hle⟩ := hbatched.sent (hen p hpool) batch hnew
        have hmax := (RangeConfig.bounds_of_contains hcontains).2
        exact ⟨hne, by omega⟩

/-- **The goroutines put in what was read.** -/
theorem Sourced.next (h : q.Sourced cfg rows put) (ha : q.Enabled root sh a) :
    (q.next sh a).Sourced cfg (rows ++ a.rows) (put ++ a.put) := by
  have hreader : ∀ b : ReaderPool.Action, (∃ p ∈ q.readerPool, p.Enabled sh b) →
      (q.stepReader sh b).Sourced cfg (rows ++ b.rows) (put ++ b.op.sent) := by
    intro b hen
    rw [ReaderPool.Action.sent_op]
    refine h.stepReader (fun p hp => enabled_of_mem hen hp) fun hnone => ?_
    obtain ⟨p, hp, -⟩ := hen
    rw [hnone] at hp
    cases hp
  have hsame : ∀ {q' : Pipeline}, q'.readerPool = q.readerPool →
      q'.Sourced cfg (rows ++ []) (put ++ []) := by
    intro q' hpool
    rw [List.append_nil, List.append_nil]
    exact h.congr hpool
  cases a with
  | reader b => exact (hreader b ha.1).congr rfl
  | throttler b => exact hsame rfl
  | sender b => exact hsame rfl
  | passToThrottler b b' => exact (hreader b ha.1).congr rfl
  | passToSender b b' => exact hsame rfl

/-- **Every change of a pipeline leaves it with what was read.** -/
theorem Sourced.change (h : q.Sourced cfg rows put) (hc : c.Allowed root sh q)
    (hconf : c.Configured cfg) : (q.change sh c).Sourced cfg (rows ++ c.rows) (put ++ c.put) := by
  by_cases hgoroutine : ∃ a, c = .goroutine a
  · obtain ⟨a, rfl⟩ := hgoroutine
    exact h.next hc
  have hnone : c.put = [] ∧ c.rows = [] := by
    cases c with
    | goroutine a => exact absurd ⟨a, rfl⟩ hgoroutine
    | _ => exact ⟨rfl, rfl⟩
  rw [hnone.1, hnone.2, List.append_nil, List.append_nil]
  cases c with
  | goroutine a => exact absurd ⟨a, rfl⟩ hgoroutine
  | make readerCapacity senderCapacity =>
    obtain rfl : q = {} := hc
    exact h.congr rfl
  | startReaderPool dataPath batchSize workers files =>
    obtain ⟨hpos, hcontains⟩ := hconf
    obtain ⟨hheld, hbatched⟩ := ReaderPool.held_batched_start dataPath batchSize workers files
    have hrows := h.rows
    rw [held, show q.readerPool = none from hc.1, Option.elim_none] at hrows
    refine ⟨?_, fun p hp => ?_, h.put⟩
    · change (put.flatten : Multiset Transaction) +
        (ReaderPool.start dataPath batchSize workers files).held ≤ _
      rwa [hheld]
    · obtain rfl := Option.some.inj hp
      refine ⟨hbatched hpos, ?_⟩
      obtain ⟨_, _, _, _, _, heq⟩ := ReaderPool.reconcile_frame
        (ReaderPool.empty files (readerSourceDirectory dataPath) batchSize) workers
      rw [ReaderPool.start, heq]
      exact hcontains
  | callReader b =>
    obtain ⟨hsent, hread⟩ := ReaderPool.Action.sent_of_eventLoop hc.1
    have hstep := h.stepReader hc.2 fun _ => hsent
    rwa [hsent, hread, List.append_nil, List.append_nil] at hstep
  | closeAndDrain name => cases name <;> exact h.congr rfl
  | _ => exact h.congr rfl

/-- The rows read where something happens to the pipeline. -/
def rowsIn : Memory ⊕ Bool × Change → Batch
  | .inl _ => []
  | .inr (_, c) => c.rows

/-- **Along a lifeline** what is put in was read. -/
theorem sourced_of_lifeline {s : Memory × Pipeline} {as : List (Memory ⊕ Bool × Change)}
    (h : s.2.Sourced cfg [] []) (hrun : lifeline.Run s as)
    (hconf : ∀ root c, .inr (root, c) ∈ as → c.Configured cfg) :
    (lifeline.after s as).2.Sourced cfg (as.flatMap rowsIn) (as.flatMap putIn) := by
  have hkeep : ∀ rows put, s.2.Sourced cfg rows put → (lifeline.after s as).2.Sourced cfg
      (rows ++ as.flatMap rowsIn) (put ++ as.flatMap putIn) := by
    clear h
    induction as generalizing s with
    | nil =>
      intro rows put h
      rw [List.flatMap_nil, List.flatMap_nil, List.append_nil, List.append_nil]
      exact h
    | cons a as ih =>
      intro rows put h
      obtain ⟨ha, hrest⟩ := hrun
      rw [List.flatMap_cons, List.flatMap_cons, ← List.append_assoc, ← List.append_assoc]
      refine ih hrest (fun root c hmem => hconf root c (List.mem_cons_of_mem a hmem)) _ _ ?_
      rcases a with sh' | ⟨root, c⟩
      · rw [rowsIn, putIn, List.append_nil, List.append_nil]
        exact h
      · exact h.change ha (hconf root c List.mem_cons_self)
  exact hkeep [] [] h

end Pipeline

/-! ### The service -/

namespace Service

variable {s : Service} {cfg : Config} {now i : ℕ} {as : List Action}

/-- The rows the readers of a run read in an action. -/
def Action.rows (i : ℕ) : Action → Batch
  | .pipeline run a => if run = i then a.rows else []
  | _ => []

/-- **The rows the readers of a run have read.** -/
def rows (i : ℕ) (as : List Action) : Batch := as.flatMap (Action.rows i)

/-- How many rows the readers of all runs read in an action. -/
def Action.rowCount : Action → ℕ
  | .pipeline _ a => a.rows.length
  | _ => 0

/-- **How many rows have been read** since the process was started. -/
def rowCount (as : List Action) : ℕ := (as.map Action.rowCount).sum

/-- Nobody but the readers reads rows. -/
theorem rows_of_changeOf {st : Stmt} {c : Pipeline.Change} (h : s.changeOf st = some (i, c)) :
    c.rows = [] := by
  cases st
  case makeRun =>
    obtain ⟨-, rfl⟩ := Prod.mk.inj (Option.some.inj h)
    rfl
  all_goals
    simp only [changeOf, Option.map_eq_some_iff, Prod.mk.injEq, reduceCtorEq] at h
  all_goals
    obtain ⟨j, -, -, rfl⟩ := h
    rfl

/-- What is noted of an action is what is read by it. -/
theorem rows_noted (s : Service) (i : ℕ) (a : Action) :
    (s.noted i a).flatMap Pipeline.rowsIn = a.rows i := by
  have hcalls : ∀ {j : ℕ} {c : Pipeline.Change}, s.changeAt a = some (j, c) → c.rows = [] →
      (s.noted i a).flatMap Pipeline.rowsIn = [] := by
    intro j c hc hrows
    simp only [noted, hc, Option.toList_some, List.filter_cons, List.filter_nil]
    split <;> simp [Pipeline.rowsIn, hrows]
  have hnone : s.changeAt a = none → (s.noted i a).flatMap Pipeline.rowsIn = [] := by
    intro hc
    simp [noted, hc, Pipeline.rowsIn]
  cases a with
  | pipeline run a =>
    by_cases hrun : run = i <;> simp [noted, changeAt, Action.rows, hrun, Pipeline.rowsIn,
      Pipeline.Change.rows]
  | clock now => exact hnone rfl
  | cancelRoot => exact hnone rfl
  | event e =>
    cases hc : s.changeAt (.event e) with
    | none => exact hnone hc
    | some x =>
      refine hcalls hc ?_
      cases e with
      | sourceError error =>
        obtain ⟨j, -, rfl⟩ := Option.map_eq_some_iff.mp hc
        rfl
      | _ => cases hc
  | exec =>
    cases hc : s.changeAt .exec with
    | none => exact hnone hc
    | some x =>
      obtain ⟨st, -, hst⟩ := Option.bind_eq_some_iff.mp hc
      exact hcalls hc (rows_of_changeOf hst)

theorem rows_history (s : Service) (i : ℕ) (as : List Action) :
    (history i s as).flatMap Pipeline.rowsIn = rows i as := by
  induction as generalizing s with
  | nil => rfl
  | cons a as ih => rw [history, List.flatMap_append, rows_noted, ih, rows, rows, List.flatMap_cons]

/-- **In every run of the service what is put in was read.** -/
theorem sourced_of_run (hcfg : cfg.Valid) (hrun : machine.Run (newService cfg now) as) (i : ℕ) :
    ((machine.after (newService cfg now) as).pipeline i).Sourced cfg (rows i as) (put i as) := by
  obtain ⟨hlife, hafter⟩ := lifeline_of_run (.refl _) hrun i
  have hnew : ((newService cfg now).pipeline i).Sourced cfg [] [] :=
    ⟨le_rfl, fun p hp => absurd hp (Option.not_mem_none p), fun b hb => absurd hb List.not_mem_nil⟩
  have h := Pipeline.sourced_of_lifeline hnew hlife
    fun _ _ hmem => configured_of_mem_history hcfg (.refl _) hrun hmem
  rwa [hafter, rows_history, put_history] at h

/-! ### All runs together -/

/-- A row is read in one run. -/
theorem sum_rows_le (n : ℕ) (as : List Action) :
    ∑ i ∈ Finset.range n, (rows i as).length ≤ rowCount as := by
  induction as with
  | nil => exact (Finset.sum_eq_zero fun _ _ => rfl).le
  | cons a as ih =>
    have hone : ∑ i ∈ Finset.range n, (a.rows i).length ≤ a.rowCount := by
      cases a with
      | pipeline run a =>
        calc ∑ i ∈ Finset.range n, ((Action.pipeline run a).rows i).length
            = ∑ i ∈ Finset.range n, if run = i then a.rows.length else 0 :=
              Finset.sum_congr rfl fun i _ => by rw [Action.rows]; split <;> rfl
          _ ≤ a.rows.length := by
              rw [Finset.sum_ite_eq]
              split
              · exact le_rfl
              · exact Nat.zero_le _
      | _ => exact (Finset.sum_eq_zero fun _ _ => rfl).le
    calc ∑ i ∈ Finset.range n, (rows i (a :: as)).length
        = ∑ i ∈ Finset.range n, (a.rows i).length + ∑ i ∈ Finset.range n, (rows i as).length := by
          rw [← Finset.sum_add_distrib]
          exact Finset.sum_congr rfl fun i _ => by rw [rows, List.flatMap_cons, List.length_append, rows]
      _ ≤ a.rowCount + rowCount as := Nat.add_le_add hone ih
      _ = rowCount (a :: as) := by rw [rowCount, rowCount, List.map_cons, List.sum_cons]

/-- **Every transaction is a row, and no row is delivered twice.** In every state of the
service, for a configuration that is valid:

* for every run so far, the transactions of the batches its readers have put into the
  pipeline are rows they have read, each as often as it was read, and no batch is empty or
  larger than the largest batch size that is allowed;
* the same goes for the transactions of the batches its sender pool has settled, and it
  has counted no more of them than there are rows;
* and what the process reports as its total, with what is still to be collected, is at most
  the number of rows read since it was started. -/
theorem transactions_come_from_rows {net : NetParsers} (hcfg : cfg.validate net = none)
    (hrun : machine.Run (newService cfg now) as) :
    let s := machine.after (newService cfg now) as
    (∀ i, ((put i as).flatten : Multiset Transaction) ≤ (rows i as : Multiset Transaction) ∧
      (∀ batch ∈ put i as, batch ≠ [] ∧ (batch.length : ℤ) ≤ cfg.reader.readBatchSize.max) ∧
      ∀ p ∈ (s.pipeline i).senderPool,
        (p.finished.flatten : Multiset Transaction) ≤ (rows i as : Multiset Transaction) ∧
          p.counted ≤ (rows i as).length) ∧
    s.prom.transactionsTotal + s.memory.terminallyCompletedTransactionsSinceTick ≤ rowCount as := by
  intro s
  have hpool : ∀ i, ∀ p ∈ (s.pipeline i).senderPool,
      (p.finished.flatten : Multiset Transaction) ≤ (rows i as : Multiset Transaction) ∧
        p.counted ≤ (rows i as).length := by
    intro i p hp
    have hflow := inFlow_of_run hrun i
    have hsource := sourced_of_run (Config.valid_of_validate hcfg) hrun i
    have hrows : (p.finished.flatten : Multiset Transaction) ≤ (rows i as : Multiset Transaction) :=
      (flatten_le_flatten (hflow.finished_le hp)).trans ((Multiset.le_add_right _ _).trans hsource.rows)
    refine ⟨hrows, (hflow.pool p hp).counted.trans ?_⟩
    rw [transactions_eq_length_flatten]
    exact (Multiset.coe_le.mp hrows).length_le
  refine ⟨fun i => ?_, ?_⟩
  · have hsource := sourced_of_run (Config.valid_of_validate hcfg) hrun i
    exact ⟨(Multiset.le_add_right _ _).trans hsource.rows, hsource.put, hpool i⟩
  · have hbalanced : s.Balanced := by
      obtain ⟨x, -, hx, -⟩ := ledger_covered ⟨as, hrun, rfl⟩
      exact hx.2.2
    rw [hbalanced.total, counted]
    refine le_trans (Finset.sum_le_sum fun i _ => ?_) (sum_rows_le s.runs as)
    rw [Pipeline.counted]
    cases hsome : (s.pipeline i).senderPool with
    | none => exact Nat.zero_le _
    | some p => exact (hpool i p hsome).2

/-- Three rows are read, of the same file at different times, and all are in the totals. -/
theorem transactions_come_from_rows_readAgainRun :
    let s := machine.after (newService exampleConfig 0) readAgainRun
    rows 0 readAgainRun = [⟨"c"⟩, ⟨"d"⟩, ⟨"e"⟩] ∧
      ((put 0 readAgainRun).flatten : Multiset Transaction) ≤
        (rows 0 readAgainRun : Multiset Transaction) ∧
      s.prom.transactionsTotal = 3 ∧ s.prom.transactionsTotal ≤ rowCount readAgainRun := by
  have hvalid : exampleConfig.validate exampleParsers = none := by decide +kernel
  have hrun : machine.Run (newService exampleConfig 0) readAgainRun := by decide +kernel
  obtain ⟨hput, htotal⟩ := transactions_come_from_rows hvalid hrun
  exact ⟨by decide +kernel, (hput 0).1, by decide +kernel, (Nat.le_add_right _ _).trans htotal⟩

end Service

end IngestionLab
