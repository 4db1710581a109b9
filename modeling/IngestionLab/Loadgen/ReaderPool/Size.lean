import IngestionLab.Loadgen.ReaderPool.Steps

/-!
# The size of the reader pool

A request for fewer reader workers marks the surplus draining, those without a file
first; a marked worker notices between two files, leaves, and is replaced if too few
are left. In between a later request may clear the mark of a worker that has already
decided to exit, and old marks may still be pending at the next request.

What is kept through all of this, while nobody stops the pool, is
`IngestionLab.ReaderPool.Sized`: never fewer workers than desired, never more active
ones, and **while a worker with a file is draining, as many active ones as desired,
none of which has decided to exit**. A draining worker without a file is about to
leave, so once none is left and whoever decided to exit is gone, the active workers
are exactly the ones requested.

* `IngestionLab.ReaderPool.drainingWorkerCount_reconcile` and
  `IngestionLab.ReaderPool.draining_of_busy_draining`: what a request marks.
* `IngestionLab.ReaderPool.Sized.next`: every action keeps the invariant.
* `IngestionLab.ReaderPool.size_follows_request`: **the size follows the request**, in
  every run and up to the point where the pool is cancelled or stops.
-/

namespace IngestionLab

open Function

namespace ReaderPool

variable {p : ReaderPool} {sh : Memory} {w d : ℕ} {a : Action}

/-! ### The last request -/

/-- What one action makes of the last request. -/
def requestStep (last : ℕ) : Memory ⊕ Action → ℕ
  | .inr (.reconcile d) => d
  | _ => last

/-- The last number of workers requested, before the run or in it. -/
def lastRequest (initial : ℕ) (as : List (Memory ⊕ Action)) : ℕ := as.foldl requestStep initial

/-- Neither stopping nor cancelled. -/
def GoesOn (p : ReaderPool) : Prop := p.stopping = false ∧ p.cancelled = false

/-- A pool that goes on went on before. -/
theorem GoesOn.of_next (h : (p.next sh a).GoesOn) : p.GoesOn :=
  ⟨stopping_of_next h.1, cancelled_of_next h.2⟩

/-- Only `reconcile` changes the desired number. -/
theorem desired_next (h : p.GoesOn) : (p.next sh a).desired = requestStep p.desired (.inr a) := by
  cases a
  case reconcile d =>
    obtain ⟨cell, heq, -, -⟩ := exists_reconcile_eq h.1 h.2 d
    rw [next, heq]
    rfl
  case exitWorker w =>
    simp only [next, exitWorker_eq]
    split <;> rfl
  all_goals rfl

/-- **While the pool goes on, it works towards the last request.** -/
theorem desired_after (s : Memory × ReaderPool) (as : List (Memory ⊕ Action))
    (h : (machine.after s as).2.GoesOn) :
    s.2.GoesOn ∧ (machine.after s as).2.desired = lastRequest s.2.desired as := by
  induction as generalizing s with
  | nil => exact ⟨h, rfl⟩
  | cons a as ih =>
    obtain ⟨hnext, hdes⟩ := ih _ h
    rw [Machine.after_cons, hdes, lastRequest, lastRequest, List.foldl_cons]
    cases a with
    | inl sh => exact ⟨hnext, rfl⟩
    | inr a =>
      have hs : s.2.GoesOn := GoesOn.of_next hnext
      refine ⟨hs, ?_⟩
      change List.foldl requestStep (s.2.next s.1 a).desired as = _
      rw [desired_next hs]

/-! ### What a request marks -/

/-- The order is a rearrangement of the registered workers. -/
theorem orderedWorkers_perm (p : ReaderPool) : p.orderedWorkers.Perm p.workers := by
  refine List.perm_append_comm.trans ?_
  exact List.filter_append_perm (fun w => (p.worker w).busy) p.workers

/-- The surplus is as large as what is too many. -/
theorem length_surplus (p : ReaderPool) (d : ℕ) : (p.surplus d).length = p.workers.length - d := by
  rw [surplus, List.length_take, p.orderedWorkers_perm.length_eq]
  omega

/-- A worker with a file is in the surplus only when all those without one are. -/
theorem mem_surplus_of_busy (hw : w ∈ p.surplus d) (hbusy : (p.worker w).busy = true) {v : ℕ}
    (hv : v ∈ p.workers) (hidle : (p.worker v).busy = false) : v ∈ p.surplus d := by
  have hvmem : v ∈ p.workers.filter fun w => !(p.worker w).busy := by
    simp [List.mem_filter, hv, hidle]
  have hwnot : w ∉ p.workers.filter fun w => !(p.worker w).busy := by
    simp [List.mem_filter, hbusy]
  rw [surplus, orderedWorkers, List.take_append] at hw ⊢
  refine List.mem_append_left _ ?_
  rcases List.mem_append.mp hw with hw | hw
  · exact absurd (List.mem_of_mem_take hw) hwnot
  -- The order reaches into the busy workers, so it has passed over all the others.
  · rw [List.take_of_length_le]
    · exact hvmem
    · have hpos := List.length_pos_of_mem hw
      rw [List.length_take] at hpos
      omega

/-- How many registered workers the surplus takes. -/
theorem countP_surplus (hnd : p.workers.Nodup) (d : ℕ) :
    p.workers.countP (fun w => decide (w ∈ p.surplus d)) = p.workers.length - d := by
  have hperm := p.orderedWorkers_perm
  have hdisj := List.disjoint_take_drop (hperm.nodup_iff.mpr hnd)
    (le_refl (p.orderedWorkers.length - d))
  rw [← hperm.countP_eq, ← List.take_append_drop (p.orderedWorkers.length - d) p.orderedWorkers,
    List.countP_append, ← length_surplus]
  have hin : (p.orderedWorkers.take (p.orderedWorkers.length - d)).countP
      (fun w => decide (w ∈ p.surplus d)) = (p.surplus d).length :=
    List.countP_eq_length.mpr fun v hv => decide_eq_true hv
  have hout : (p.orderedWorkers.drop (p.orderedWorkers.length - d)).countP
      (fun w => decide (w ∈ p.surplus d)) = 0 :=
    List.countP_eq_zero.mpr fun v hv hc => hdisj (of_decide_eq_true hc) hv
  rw [hin, hout, Nat.add_zero]

section Reconcile

variable (hw : p.WellFormed) (hgo : p.GoesOn)

include hw hgo

/-- **How many workers a request leaves draining**: as many as are too many. -/
theorem drainingWorkerCount_reconcile (d : ℕ) :
    (p.reconcile d).drainingWorkerCount = p.workers.length - d := by
  obtain ⟨cell, heq, hnew, hold⟩ := exists_reconcile_eq hgo.1 hgo.2 d
  have hlt : ∀ v ∈ p.workers, v < p.started := fun v hv => ((hw.registered v).mp hv).1
  rw [heq, drainingWorkerCount, Cells.count_append]
  have hfresh : Cells.count ReaderWorker.draining cell
      (List.range' p.started (d - p.workers.length)) = 0 :=
    List.countP_eq_zero.mpr fun v hv => by
      rw [List.mem_range'_1] at hv
      simp [hnew v hv.1 hv.2]
  rw [hfresh, Nat.add_zero, ← countP_surplus hw.nodup d, Cells.count]
  refine List.countP_congr fun v hv => ?_
  simp only [hold v (by have := hlt v hv; omega), if_pos hv]

omit hw in
/-- How many workers a request leaves registered. -/
theorem length_workers_reconcile (d : ℕ) :
    (p.reconcile d).workers.length = max p.workers.length d := by
  obtain ⟨cell, heq, -, -⟩ := exists_reconcile_eq hgo.1 hgo.2 d
  rw [heq, List.length_append, List.length_range']
  omega

/-- **A request leaves as many active workers as it asks for.** -/
theorem activeWorkerCount_reconcile (d : ℕ) : (p.reconcile d).activeWorkerCount = d := by
  have hsum : (p.reconcile d).drainingWorkerCount + (p.reconcile d).activeWorkerCount =
      (p.reconcile d).workers.length := Cells.count_add_count_not
  rw [drainingWorkerCount_reconcile hw hgo, length_workers_reconcile hgo] at hsum
  omega

/-- **A request marks a worker with a file only when it marks all those without.** -/
theorem draining_of_busy_draining (hmem : w ∈ (p.reconcile d).workers)
    (hbusy : ((p.reconcile d).worker w).busy = true)
    (hdr : ((p.reconcile d).worker w).draining = true) {v : ℕ} (hv : v ∈ (p.reconcile d).workers)
    (hidle : ((p.reconcile d).worker v).busy = false) :
    ((p.reconcile d).worker v).draining = true := by
  obtain ⟨cell, heq, hnew, hold⟩ := exists_reconcile_eq hgo.1 hgo.2 d
  have hlt : ∀ v ∈ p.workers, v < p.started := fun v hv => ((hw.registered v).mp hv).1
  rw [heq] at hmem hbusy hdr hv hidle ⊢
  simp only [List.mem_append, List.mem_range'_1] at hmem hv
  simp only at hbusy hdr hidle ⊢
  have hwold : w ∈ p.workers := by
    rcases hmem with hmem | ⟨h1, h2⟩
    · exact hmem
    · rw [hnew w h1 h2] at hbusy
      exact absurd hbusy nofun
  rw [hold w (by have := hlt w hwold; omega), if_pos hwold] at hdr
  rw [hold w (by have := hlt w hwold; omega)] at hbusy
  have hsur : w ∈ p.surplus d := by simpa using hdr
  have hpos := List.length_pos_of_mem hsur
  rw [length_surplus] at hpos
  have hvold : v ∈ p.workers := by
    rcases hv with hv | ⟨h1, h2⟩
    · exact hv
    · omega
  rw [hold v (by have := hlt v hvold; omega)] at hidle
  rw [hold v (by have := hlt v hvold; omega), if_pos hvold]
  simpa using mem_surplus_of_busy hsur hbusy hvold hidle

end Reconcile

/-! ### The invariant -/

/-- A worker with a file is draining. -/
def SomeBusyDraining (p : ReaderPool) : Prop :=
  ∃ w ∈ p.workers, (p.worker w).busy = true ∧ (p.worker w).draining = true

/-- Every worker that has decided to exit is draining. -/
def ExitingDrain (p : ReaderPool) : Prop :=
  ∀ w ∈ p.workers, (p.worker w).pc = .exiting → (p.worker w).draining = true

/-- **What a pool that goes on keeps to**: no fewer workers than desired and no more
active ones; and while a worker with a file is draining, exactly as many active ones,
none of which has decided to exit. -/
structure Sized (p : ReaderPool) : Prop where
  enough : p.desired ≤ p.workers.length
  atMost : p.activeWorkerCount ≤ p.desired
  drains : p.SomeBusyDraining → p.ExitingDrain ∧ p.activeWorkerCount = p.desired

/-- A request meets the invariant, whatever the pool was like. -/
theorem sized_reconcile (hw : p.WellFormed) (hgo : p.GoesOn) (d : ℕ) : (p.reconcile d).Sized := by
  have hdes : (p.reconcile d).desired = d := by
    obtain ⟨cell, heq, -, -⟩ := exists_reconcile_eq hgo.1 hgo.2 d
    rw [heq]
  refine ⟨?_, ?_, ?_⟩
  · rw [hdes, length_workers_reconcile hgo]
    omega
  · rw [hdes, activeWorkerCount_reconcile hw hgo]
  · rintro ⟨w, hmem, hbusy, hdr⟩
    refine ⟨fun v hv hpc => ?_, ?_⟩
    · refine draining_of_busy_draining hw hgo hmem hbusy hdr hv ?_
      -- A worker that has decided to exit has no file.
      rcases reconcile_worker p d v with hcell | ⟨dr, pc, hcell, hkept⟩
      · rw [hcell]
      · rw [hcell] at hpc ⊢
        have hold : (p.worker v).pc = .exiting := by
          rcases hkept with rfl | rfl
          · exact hpc
          · exact broadcast_eq_exiting.mp hpc
        simpa [hold, ReaderWorkerPc.ownsFile] using hw.busy v
    · rw [hdes, activeWorkerCount_reconcile hw hgo]

/-- What an exit makes of the number of active workers, when the one that exits was
draining or when it was not. -/
theorem activeWorkerCount_exitWorker (hw : p.WellFormed) (hmem : w ∈ p.workers) (hgo : p.GoesOn) :
    (p.exitWorker w).activeWorkerCount + (if (p.worker w).draining = true then 0 else 1) =
      p.activeWorkerCount + (if p.workers.length ≤ p.desired then 1 else 0) := by
  have hfresh : p.started ∉ p.workers.erase w := fun hc => by
    have := ((hw.registered _).mp (List.mem_of_mem_erase hc)).1
    omega
  have hpos := List.length_pos_of_mem hmem
  have herase := Cells.count_erase (fun c : ReaderWorker => !c.draining) p.worker hmem
  have hleft : Cells.count (fun c => !c.draining) p.worker (p.workers.erase w) +
      (if (p.worker w).draining = true then 0 else 1) = p.activeWorkerCount := by
    rw [activeWorkerCount, ← herase]
    cases (p.worker w).draining <;> rfl
  rw [exitWorker_eq, List.length_erase_of_mem hmem]
  by_cases hlen : p.workers.length ≤ p.desired
  · rw [if_pos ⟨hgo.1, hgo.2, by omega⟩, if_pos hlen]
    simp only [activeWorkerCount, Cells.count_append, Cells.count_update_of_notMem hfresh] at hleft ⊢
    simp only [Cells.count_cons, Cells.count_nil, update_self]
    simp only [Bool.not_false, ↓reduceIte]
    omega
  · rw [if_neg (by omega), if_neg hlen]
    simpa [activeWorkerCount] using hleft

/-- An exit keeps the invariant. -/
theorem Sized.exitWorker (hs : p.Sized) (hw : p.WellFormed) (hgo : p.GoesOn) (hat : p.At w .exiting) :
    ((p.exitWorker w).goto w .removed).Sized := by
  obtain ⟨hlt, hpc⟩ := hat
  have hmem : w ∈ p.workers := (hw.registered w).mpr ⟨hlt, by rw [hpc]; rfl⟩
  have hcount := activeWorkerCount_exitWorker hw hmem hgo
  have hpos := List.length_pos_of_mem hmem
  have henough := hs.enough
  have hatMost := hs.atMost
  have hle : p.activeWorkerCount ≤ p.workers.length := Cells.count_le_length
  have hactive : ((p.exitWorker w).goto w .removed).activeWorkerCount =
      (p.exitWorker w).activeWorkerCount := Cells.count_update_of_eq rfl
  have hdes : ((p.exitWorker w).goto w .removed).desired = p.desired := by
    rw [exitWorker_eq]
    split <;> rfl
  -- A replacement is started exactly when there were no more workers than desired.
  have hlen : ((p.exitWorker w).goto w .removed).workers.length =
      if p.workers.length ≤ p.desired then p.workers.length else p.workers.length - 1 := by
    have herase := List.length_erase_of_mem hmem
    rw [exitWorker_eq, herase]
    by_cases hc : p.workers.length ≤ p.desired
    · rw [if_pos ⟨hgo.1, hgo.2, by omega⟩, if_pos hc]
      simp only [goto, setWorker, List.length_append, List.length_singleton]
      omega
    · rw [if_neg (by omega), if_neg hc]
      exact herase
  -- A worker draining with a file was one before, and is still not the one that exits.
  have hbefore : ((p.exitWorker w).goto w .removed).SomeBusyDraining → p.SomeBusyDraining := by
    rintro ⟨v, hv, hbusy, hdr⟩
    have hidle : (p.worker w).busy = false := by
      simpa [hpc, ReaderWorkerPc.ownsFile] using hw.busy w
    refine ⟨v, ?_⟩
    by_cases hc : p.stopping = false ∧ p.cancelled = false ∧
        (p.workers.erase w).length < p.desired
    · rw [exitWorker_eq, if_pos hc] at hv hbusy hdr
      simp only [goto, setWorker, List.mem_append, List.mem_singleton, hw.nodup.mem_erase_iff,
        update_apply] at hv hbusy hdr
      grind
    · rw [exitWorker_eq, if_neg hc] at hv hbusy hdr
      simp only [goto, setWorker, hw.nodup.mem_erase_iff, update_apply] at hv hbusy hdr
      grind
  have hlater : p.ExitingDrain → ((p.exitWorker w).goto w .removed).ExitingDrain := by
    intro hex v hv hvpc
    have hold := hex v
    by_cases hc : p.stopping = false ∧ p.cancelled = false ∧
        (p.workers.erase w).length < p.desired
    · rw [exitWorker_eq, if_pos hc] at hv hvpc ⊢
      simp only [goto, setWorker, List.mem_append, List.mem_singleton, hw.nodup.mem_erase_iff,
        update_apply] at hv hvpc ⊢
      grind
    · rw [exitWorker_eq, if_neg hc] at hv hvpc ⊢
      simp only [goto, setWorker, hw.nodup.mem_erase_iff, update_apply] at hv hvpc ⊢
      grind
  have hmarked : p.drainingWorkerCount + p.activeWorkerCount = p.workers.length :=
    Cells.count_add_count_not
  refine ⟨?_, ?_, fun hbusy => ?_⟩
  · rw [hdes, hlen]
    split <;> omega
  · rw [hdes, hactive]
    have hdr : (p.worker w).draining = true → p.activeWorkerCount < p.workers.length := fun hdr => by
      have : 0 < p.drainingWorkerCount := Cells.count_pos.mpr ⟨w, hmem, hdr⟩
      omega
    by_cases hc : (p.worker w).draining = true
    · have := hdr hc
      rw [if_pos hc] at hcount
      split at hcount <;> omega
    · rw [if_neg hc] at hcount
      split at hcount <;> omega
  · obtain ⟨hex, heq⟩ := hs.drains (hbefore hbusy)
    refine ⟨hlater hex, ?_⟩
    rw [hdes, hactive]
    rw [if_pos (hex w hmem hpc)] at hcount
    obtain ⟨v, hv, hvbusy, hvdr⟩ := hbefore hbusy
    -- Two workers are draining, so there are more than desired and none is replaced.
    have htwo : 1 < p.drainingWorkerCount := by
      have hone := Cells.count_erase ReaderWorker.draining p.worker hmem
      rw [if_pos (hex w hmem hpc)] at hone
      have hne : v ≠ w := by
        rintro rfl
        have := hw.busy v
        rw [hpc, hvbusy] at this
        exact absurd this (by rintro ⟨⟩)
      have : 0 < Cells.count ReaderWorker.draining p.worker (p.workers.erase w) :=
        Cells.count_pos.mpr ⟨v, (List.mem_erase_of_ne hne).mpr hv, hvdr⟩
      rw [drainingWorkerCount]
      omega
    rw [if_neg (by omega)] at hcount
    omega

/-- Outside `reconcile` and an exit no worker comes to be draining with a file, and
none decides to exit unless it is draining. -/
theorem flags_next (hgo : p.GoesOn) (ha : p.Enabled sh a) (hr : ∀ d, a ≠ .reconcile d)
    (he : ∀ w, a ≠ .exitWorker w) (v : ℕ) :
    (((p.next sh a).worker v).busy = true → (p.worker v).draining = true →
      (p.worker v).busy = true) ∧
    (((p.next sh a).worker v).pc = .exiting →
      (p.worker v).pc = .exiting ∨ (p.worker v).draining = true) := by
  obtain ⟨hstop, hcan⟩ := hgo
  cases a
  case reconcile d => exact absurd rfl (hr d)
  case exitWorker w => exact absurd rfl (he w)
  case check w =>
    simp only [Enabled, At, next, goto, setWorker, update_apply, hcan] at ha ⊢
    grind
  all_goals first
    | exact ⟨fun h _ => h, fun h => Or.inl h⟩
    | (simp only [Enabled, At, hstop, hcan, next, goto, setWorker, broadcast, markStopping, claimFile,
        releaseFileLocked, update_apply, broadcast_eq_exiting] at ha ⊢
       grind)

/-- **Every action keeps the invariant**, as long as the pool goes on. -/
theorem Sized.next (hs : p.Sized) (hw : p.WellFormed) (hgo : p.GoesOn) (ha : p.Enabled sh a) :
    (p.next sh a).Sized := by
  by_cases hr : ∃ d, a = .reconcile d
  · obtain ⟨d, rfl⟩ := hr
    exact sized_reconcile hw hgo d
  by_cases he : ∃ w, a = .exitWorker w
  · obtain ⟨w, rfl⟩ := he
    exact hs.exitWorker hw hgo ha
  have hr' : ∀ d, a ≠ .reconcile d := fun d hd => hr ⟨d, hd⟩
  have he' : ∀ w, a ≠ .exitWorker w := fun w hw => he ⟨w, hw⟩
  obtain ⟨hws, -, hdes⟩ : _ ∧ (p.next sh a).started = p.started ∧ _ := workers_next hr' he'
  have hdr : ∀ v ∈ p.workers, ((p.next sh a).worker v).draining = (p.worker v).draining :=
    fun v hv => draining_next hr' ((hw.registered v).mp hv).1
  have hactive : (p.next sh a).activeWorkerCount = p.activeWorkerCount := by
    rw [activeWorkerCount, hws]
    exact Cells.count_congr fun v hv => by rw [hdr v hv]
  refine ⟨?_, ?_, ?_⟩
  · rw [hws, hdes]
    exact hs.enough
  · rw [hactive, hdes]
    exact hs.atMost
  · rintro ⟨w, hmem, hbusy, hdraining⟩
    rw [hws] at hmem
    rw [hdr w hmem] at hdraining
    obtain ⟨hex, heq⟩ := hs.drains
      ⟨w, hmem, (flags_next hgo ha hr' he' w).1 hbusy hdraining, hdraining⟩
    refine ⟨fun v hv hpc => ?_, by rw [hactive, hdes, heq]⟩
    rw [hws] at hv
    rw [hdr v hv]
    rcases (flags_next hgo ha hr' he' v).2 hpc with hold | hold
    · exact hex v hv hold
    · exact hold

/-! ### Runs -/

/-- Whoever decided to exit has been removed, and no worker without a file is
draining. -/
def Settled (p : ReaderPool) : Prop :=
  ∀ w ∈ p.workers, (p.worker w).pc ≠ .exiting ∧
    ((p.worker w).busy = false → (p.worker w).draining = false)

/-- In a settled pool the active workers are the ones desired. -/
theorem Sized.activeWorkerCount_eq (hs : p.Sized) (h : p.Settled) :
    p.activeWorkerCount = p.desired := by
  by_cases hd : p.SomeBusyDraining
  · exact (hs.drains hd).2
  have hnone : p.activeWorkerCount = p.workers.length := by
    rw [activeWorkerCount, Cells.count, List.countP_eq_length]
    intro w hw
    by_contra hc
    have hdr : (p.worker w).draining = true := by simpa using hc
    cases hbusy : (p.worker w).busy with
    | true => exact hd ⟨w, hw, hbusy, hdr⟩
    | false => exact absurd ((h w hw).2 hbusy) (by simp [hdr])
  have henough := hs.enough
  have hatMost := hs.atMost
  omega

/-- **The size of the reader pool follows the request.** In every state a run visits
in which the pool goes on, it has no fewer workers than were last requested; right
after a request exactly the surplus is draining, and a worker with a file only if all
those without one are; and once those who decided to exit are gone and no worker
without a file is draining, exactly as many are active as were last requested. -/
theorem size_follows_request {dataPath : Go.Path} {batchSize n : ℕ}
    {glob : Except String (List Go.Path)} {first : ReaderPool}
    (hstart : startReaderPool dataPath batchSize n glob = .ok first) (sh : Memory)
    (as : List (Memory ⊕ Action)) (hrun : machine.Run (sh, first) as) (bs : List (Memory ⊕ Action))
    (hbs : bs <+: as) :
    let p := (machine.after (sh, first) bs).2
    p.stopping = false → p.cancelled = false →
      lastRequest n bs ≤ p.workers.length ∧
      (∀ cs d, bs = cs ++ [.inr (.reconcile d)] →
        p.drainingWorkerCount = p.workers.length - d ∧
        ∀ w ∈ p.workers, (p.worker w).busy = true → (p.worker w).draining = true →
          ∀ v ∈ p.workers, (p.worker v).busy = false → (p.worker v).draining = true) ∧
      (p.Settled → p.activeWorkerCount = lastRequest n bs) := by
  intro p hstop hcan
  have hgo : p.GoesOn := ⟨hstop, hcan⟩
  have hfirst : first.WellFormed ∧ first.desired = n ∧ first.Sized := by
    cases hfiles : sourceFiles dataPath glob with
    | error e =>
      rw [startReaderPool, hfiles] at hstart
      exact absurd hstart nofun
    | ok files =>
      rw [startReaderPool, hfiles] at hstart
      obtain rfl := Except.ok.inj hstart
      refine ⟨wellFormed_start _ _ _ _, ?_, sized_reconcile (wellFormed_empty _ _ _) ⟨rfl, rfl⟩ n⟩
      obtain ⟨cell, heq, -, -⟩ :=
        exists_reconcile_eq (p := empty files (readerSourceDirectory dataPath) batchSize) rfl rfl n
      rw [start, heq]
  obtain ⟨hwstart, hdesired, hsstart⟩ := hfirst
  have hprefix : machine.Run (sh, first) bs := by
    obtain ⟨cs, rfl⟩ := hbs
    exact ((machine.run_append _ _ _).mp hrun).1
  have hkeep : ∀ cs, machine.Run (sh, first) cs →
      (machine.after (sh, first) cs).2.WellFormed ∧
        ((machine.after (sh, first) cs).2.GoesOn → (machine.after (sh, first) cs).2.Sized) := by
    intro cs hcs
    refine Machine.invariant_of_run
      (I := fun s : Memory × ReaderPool => s.2.WellFormed ∧ (s.2.GoesOn → s.2.Sized))
      (fun s a hI ha => ?_) ⟨hwstart, fun _ => hsstart⟩ hcs
    cases a with
    | inl sh' => exact hI
    | inr a => exact ⟨hI.1.next ha, fun hgo => (hI.2 hgo.of_next).next hI.1 hgo.of_next ha⟩
  have hsized : p.Sized := (hkeep bs hprefix).2 hgo
  have hdes : p.desired = lastRequest n bs := by
    rw [(desired_after _ bs hgo).2, hdesired]
  refine ⟨hdes ▸ hsized.enough, ?_, fun hset => hdes ▸ hsized.activeWorkerCount_eq hset⟩
  rintro cs d rfl
  obtain ⟨hrun', -⟩ := (machine.run_append _ _ _).mp hprefix
  have hw' := (hkeep cs hrun').1
  have hp : p = (machine.after (sh, first) cs).2.reconcile d := by
    simp only [p, Machine.after_append]
    rfl
  have hgo' : (machine.after (sh, first) cs).2.GoesOn :=
    GoesOn.of_next (a := .reconcile d) (show GoesOn (ReaderPool.next sh _ _) by
      rw [ReaderPool.next, ← hp]
      exact hgo)
  rw [hp, drainingWorkerCount_reconcile hw' hgo', length_workers_reconcile hgo']
  refine ⟨by omega, ?_⟩
  intro w hw hbusy hdr v hv hidle
  exact draining_of_busy_draining hw' hgo' hw hbusy hdr hv hidle

/-! ### A run through both directions -/

/-- The files of the example, as the file system names them. -/
def exampleFiles : List Go.Path := ["data/a.parquet".toList, "data/b.parquet".toList]

/-- Three workers over two files. -/
def examplePool : ReaderPool :=
  (empty exampleFiles "data".toList 4).reconcile 3

/-- Two workers claim a file; one worker is requested, so that the idle one and a busy
one drain; the idle one decides to exit, is overtaken by a request for three, and
leaves, whereupon a replacement is started. -/
def overtakenExit : List (Memory ⊕ Action) :=
  [.claim 0 0, .claim 1 1, .reconcile 1, .claimQuit 2, .reconcile 3, .exitWorker 2].map .inr

/-- After this run three workers are registered and active again. -/
theorem size_follows_overtakenExit :
    let p := (machine.after ({}, examplePool) overtakenExit).2
    p.workers = [0, 1, 3] ∧ p.activeWorkerCount = 3 := by
  have hstart : startReaderPool "data/*.parquet".toList 4 3 (.ok exampleFiles) =
      .ok examplePool := by rfl
  have h := size_follows_request hstart {} overtakenExit (by decide +kernel) overtakenExit
    List.prefix_rfl (by decide +kernel) (by decide +kernel)
  exact ⟨by decide +kernel, h.2.2 (by unfold Settled; decide +kernel)⟩

end ReaderPool

end IngestionLab
