import IngestionLab.Loadgen.ReaderPool

/-!
# What a step of the reader pool can do

The functions that touch many workers at once – `reconcile`, the deferred function
of `runWorker`, a broadcast – as equations on the whole pool, and the invariant of
the pool's registration.

* `IngestionLab.ReaderPool.exists_reconcile_eq`: what `reconcile` changes.
* `IngestionLab.ReaderPool.WellFormed`: who is registered, who owns a file, what the
  wait group counts, and what the watcher has seen; every action keeps it
  (`IngestionLab.ReaderPool.WellFormed.next`).
* `IngestionLab.ReaderPool.WellFormed.exited_of_closed`: **once `done` is closed every
  worker has exited**, and so no goroutine of the pool has anything left to do
  (`IngestionLab.ReaderPool.not_enabled_of_closed`).
-/

namespace IngestionLab

open Function

namespace ReaderPool

variable {p : ReaderPool} {sh : Memory} {w d : ℕ} {a : Action}

/-! ### Broadcasts -/

@[simp] theorem hasLeft_broadcast (pc : ReaderWorkerPc) : pc.broadcast.hasLeft = pc.hasLeft := by
  cases pc <;> rfl

@[simp] theorem ownsFile_broadcast (pc : ReaderWorkerPc) :
    pc.broadcast.ownsFile = pc.ownsFile := by
  cases pc <;> rfl

@[simp] theorem broadcast_eq_exited {pc : ReaderWorkerPc} : pc.broadcast = .exited ↔ pc = .exited := by
  cases pc <;> simp [ReaderWorkerPc.broadcast]

@[simp] theorem broadcast_eq_exiting {pc : ReaderWorkerPc} :
    pc.broadcast = .exiting ↔ pc = .exiting := by
  cases pc <;> simp [ReaderWorkerPc.broadcast]

/-! ### `reconcile` -/

/-- Starting workers, all at once: fresh cells under the numbers that follow. -/
theorem startReplacements_eq (p : ReaderPool) (n : ℕ) :
    p.startReplacements n = { p with
      worker := fun v => if p.started ≤ v ∧ v < p.started + n then {} else p.worker v
      started := p.started + n
      workers := p.workers ++ List.range' p.started n
      wg := p.wg + n } := by
  induction n with
  | zero =>
    have hcell : (fun v => if p.started ≤ v ∧ v < p.started + 0 then ({} : ReaderWorker)
        else p.worker v) = p.worker := funext fun v => if_neg (by omega)
    rw [hcell]
    simp [startReplacements]
  | succ n ih =>
    have hcell : update (fun v => if p.started ≤ v ∧ v < p.started + n then ({} : ReaderWorker)
        else p.worker v) (p.started + n) {} =
        fun v => if p.started ≤ v ∧ v < p.started + (n + 1) then {} else p.worker v := by
      funext v
      by_cases hv : v = p.started + n
      · rw [hv, update_self, if_pos (by omega)]
      · rw [update_of_ne hv]
        exact if_congr (by omega) rfl rfl
    rw [startReplacements, ih]
    simp only [startReplacementLocked, hcell, List.append_assoc, List.range'_concat, Nat.one_mul,
      Nat.add_assoc]

/-- **What `reconcile` changes**: the request, the draining marks of the registered
workers, some fresh workers, and everyone waiting is woken. -/
theorem exists_reconcile_eq (hstop : p.stopping = false) (hcan : p.cancelled = false) (d : ℕ) :
    ∃ cell, p.reconcile d = { p with
        desired := d
        worker := cell
        started := p.started + (d - p.workers.length)
        workers := p.workers ++ List.range' p.started (d - p.workers.length)
        wg := p.wg + (d - p.workers.length) } ∧
      (∀ v, p.started ≤ v → v < p.started + (d - p.workers.length) → cell v = {}) ∧
      (∀ v, ¬(p.started ≤ v ∧ v < p.started + (d - p.workers.length)) →
        cell v = { p.worker v with
          draining := if v ∈ p.workers then decide (v ∈ p.surplus d) else (p.worker v).draining
          pc := (p.worker v).pc.broadcast }) := by
  rw [reconcile, if_neg (by simp [hstop, hcan]), startReplacements_eq]
  refine ⟨_, rfl, fun v h1 h2 => ?_, fun v hv => ?_⟩
  · have hnew : p.started ≤ v ∧ v < p.started + (d - p.workers.length) := ⟨h1, h2⟩
    simp only [adjust, hnew, and_self, ↓reduceIte]
    rfl
  · simp only [adjust, if_neg hv]
    by_cases hmem : v ∈ p.workers
    · simp only [if_pos hmem]
    · simp only [if_neg hmem]

/-- A reconciliation of a pool that is stopping or cancelled changes nothing. -/
theorem reconcile_of_stopped (h : p.stopping = true ∨ p.cancelled = true) : p.reconcile d = p := by
  rw [reconcile, if_pos h]

/-- The fields `reconcile` may change. -/
theorem reconcile_frame (p : ReaderPool) (d : ℕ) :
    ∃ cell st ws wg ds, p.reconcile d = { p with
      worker := cell, started := st, workers := ws, wg := wg, desired := ds } := by
  by_cases h : p.stopping = true ∨ p.cancelled = true
  · exact ⟨_, _, _, _, _, reconcile_of_stopped h⟩
  · simp only [not_or, Bool.not_eq_true] at h
    obtain ⟨cell, heq, -, -⟩ := exists_reconcile_eq h.1 h.2 d
    exact ⟨_, _, _, _, _, heq⟩

/-- What `reconcile` makes of one worker: it sets the draining mark and wakes, or
starts the worker. -/
theorem reconcile_worker (p : ReaderPool) (d v : ℕ) :
    (p.reconcile d).worker v = {} ∨ ∃ dr pc, (p.reconcile d).worker v =
      { p.worker v with draining := dr, pc := pc } ∧
      (pc = (p.worker v).pc ∨ pc = (p.worker v).pc.broadcast) := by
  by_cases h : p.stopping = true ∨ p.cancelled = true
  · exact Or.inr ⟨_, _, by rw [reconcile_of_stopped h], Or.inl rfl⟩
  · simp only [not_or, Bool.not_eq_true] at h
    obtain ⟨cell, heq, hnew, hold⟩ := exists_reconcile_eq h.1 h.2 d
    rw [heq]
    by_cases hk : p.started ≤ v ∧ v < p.started + (d - p.workers.length)
    · exact Or.inl (hnew v hk.1 hk.2)
    · exact Or.inr ⟨_, _, hold v hk, Or.inr rfl⟩

/-! ### Leaving the pool -/

/-- **What the deferred function of `runWorker` changes**: the worker leaves the
registration, and a fresh one is started if the pool goes on and has fewer than
desired. -/
theorem exitWorker_eq (p : ReaderPool) (w : ℕ) :
    p.exitWorker w =
      if p.stopping = false ∧ p.cancelled = false ∧ (p.workers.erase w).length < p.desired then
        { p with
          worker := update p.worker p.started {}
          started := p.started + 1
          workers := p.workers.erase w ++ [p.started]
          wg := p.wg + 1 }
      else { p with workers := p.workers.erase w } := rfl

/-! ### Frames -/

section

attribute [local simp] next goto setWorker broadcast markStopping claimFile releaseFileLocked

/-- Only marks set the pool stopping. -/
theorem stopping_next : (p.next sh a).stopping = true ↔
    p.stopping = true ∨ a = .stopMark ∨ a = .watcherMark ∨ ∃ w path, a = .mark w path := by
  cases a
  case reconcile d =>
    obtain ⟨_, _, _, _, _, h⟩ := reconcile_frame p d
    simp [h]
  case exitWorker w =>
    rw [next, exitWorker_eq]
    split <;> simp
  all_goals simp

/-- A pool that is not stopping was not stopping before. -/
theorem stopping_of_next (h : (p.next sh a).stopping = false) : p.stopping = false := by
  rw [← Bool.not_eq_true] at h ⊢
  exact fun hc => h (stopping_next.mpr (Or.inl hc))

/-- Only a cancellation from outside and the report of a source error cancel. -/
theorem cancelled_next : (p.next sh a).cancelled = true ↔
    p.cancelled = true ∨ a = .cancel ∨ ∃ w path, a = .cancelPool w path := by
  cases a
  case reconcile d =>
    obtain ⟨_, _, _, _, _, h⟩ := reconcile_frame p d
    simp [h]
  case exitWorker w =>
    rw [next, exitWorker_eq]
    split <;> simp
  all_goals simp

/-- A pool that is not cancelled was not cancelled before. -/
theorem cancelled_of_next (h : (p.next sh a).cancelled = false) : p.cancelled = false := by
  rw [← Bool.not_eq_true] at h ⊢
  exact fun hc => h (cancelled_next.mpr (Or.inl hc))

end

/-- Only `reconcile` and an exit start workers or change who is registered, and only
`reconcile` changes the request. -/
theorem workers_next (hr : ∀ d, a ≠ .reconcile d) (he : ∀ w, a ≠ .exitWorker w) :
    (p.next sh a).workers = p.workers ∧ (p.next sh a).started = p.started ∧
      (p.next sh a).desired = p.desired := by
  cases a
  case reconcile d => exact absurd rfl (hr d)
  case exitWorker w => exact absurd rfl (he w)
  all_goals exact ⟨rfl, rfl, rfl⟩

/-- Only `reconcile` sets or clears a draining mark of a worker there is. -/
theorem draining_next (hr : ∀ d, a ≠ .reconcile d) {v : ℕ} (hv : v < p.started) :
    ((p.next sh a).worker v).draining = (p.worker v).draining := by
  cases a
  case reconcile d => exact absurd rfl (hr d)
  case exitWorker w =>
    simp only [next, exitWorker_eq]
    split
    · simp only [goto, setWorker, update_apply]
      grind
    · simp only [goto, setWorker, update_apply]
      grind
  all_goals first
    | rfl
    | (simp only [next, goto, setWorker, broadcast, markStopping, claimFile, releaseFileLocked,
        update_apply]
       split
       · simp_all
       · rfl)

/-! ### The invariant of the registration -/

/-- Not exited yet, as a number. -/
def alive (c : ReaderWorker) : ℕ := if c.pc = .exited then 0 else 1

/-- **A pool in order**: the workers registered are the ones started that have not
left, the busy ones are those that own a file, the wait group counts the workers that
have not exited, and whoever has marked the pool stopping saw it cancelled. -/
structure WellFormed (p : ReaderPool) : Prop where
  nodup : p.workers.Nodup
  registered : ∀ w, w ∈ p.workers ↔ w < p.started ∧ (p.worker w).pc.hasLeft = false
  busy : ∀ w, (p.worker w).busy = (p.worker w).pc.ownsFile
  wg : p.wg = Cells.total alive p.worker p.started
  marking : ∀ w path, (p.worker w).pc = .marking path → p.cancelled = true
  stopping : p.stopping = true → p.cancelled = true
  woken : p.watcher ≠ .waiting → p.cancelled = true
  joining : p.watcher = .joining ∨ p.watcher = .closed → p.stopping = true
  closed : p.watcher = .closed → p.wg = 0

/-- The registration is kept. -/
theorem WellFormed.registration_next (h : p.WellFormed) (ha : p.Enabled sh a) :
    (p.next sh a).workers.Nodup ∧ ∀ w, w ∈ (p.next sh a).workers ↔
      w < (p.next sh a).started ∧ ((p.next sh a).worker w).pc.hasLeft = false := by
  by_cases hr : ∃ d, a = .reconcile d
  · obtain ⟨d, rfl⟩ := hr
    by_cases hs : p.stopping = true ∨ p.cancelled = true
    · simp only [next, reconcile_of_stopped hs]
      exact ⟨h.nodup, h.registered⟩
    simp only [not_or, Bool.not_eq_true] at hs
    obtain ⟨cell, heq, hnew, hold⟩ := exists_reconcile_eq hs.1 hs.2 d
    simp only [next, heq]
    refine ⟨?_, fun w => ?_⟩
    · refine List.nodup_append.mpr ⟨h.nodup, List.nodup_range', fun v hv u hu => ?_⟩
      have := ((h.registered v).mp hv).1
      rw [List.mem_range'_1] at hu
      omega
    · rw [List.mem_append, List.mem_range'_1, h.registered w]
      by_cases hw : p.started ≤ w ∧ w < p.started + (d - p.workers.length)
      · rw [hnew w hw.1 hw.2]
        exact ⟨fun _ => ⟨hw.2, rfl⟩, fun _ => Or.inr hw⟩
      · simp only [hold w hw, hasLeft_broadcast, hw, or_false]
        exact ⟨fun hc => ⟨by omega, hc.2⟩, fun hc => ⟨by omega, hc.2⟩⟩
  by_cases he : ∃ w, a = .exitWorker w
  · obtain ⟨w, rfl⟩ := he
    obtain ⟨hlt, hpc⟩ := ha
    have hfresh : p.started ∉ p.workers := fun hc => by
      have := ((h.registered _).mp hc).1
      omega
    simp only [next, exitWorker_eq]
    split
    · refine ⟨?_, fun v => ?_⟩
      · refine List.nodup_append.mpr ⟨h.nodup.erase w, List.nodup_singleton _, ?_⟩
        intro v hv u hu
        rw [List.mem_singleton] at hu
        rintro rfl
        exact hfresh (List.mem_of_mem_erase (hu ▸ hv))
      · simp only [goto, setWorker, List.mem_append, List.mem_singleton, h.nodup.mem_erase_iff,
          h.registered v, update_apply]
        grind [ReaderWorkerPc.hasLeft]
    · refine ⟨h.nodup.erase w, fun v => ?_⟩
      simp only [goto, setWorker, h.nodup.mem_erase_iff, h.registered v, update_apply]
      grind [ReaderWorkerPc.hasLeft]
  · obtain ⟨hws, hst, -⟩ : (p.next sh a).workers = p.workers ∧ _ ∧ _ :=
      workers_next (fun d hd => hr ⟨d, hd⟩) (fun w hw => he ⟨w, hw⟩)
    rw [hws, hst]
    refine ⟨h.nodup, fun v => ?_⟩
    rw [h.registered v]
    refine and_congr_right fun _ => ?_
    cases a
    case reconcile d => exact absurd ⟨d, rfl⟩ hr
    case exitWorker w => exact absurd ⟨w, rfl⟩ he
    case stopMark => simp only [next, markStopping, broadcast, hasLeft_broadcast]
    case watcherMark => simp only [next, markStopping, broadcast, hasLeft_broadcast]
    all_goals first
      | rfl
      | (simp only [Enabled, At, next, goto, setWorker, broadcast, markStopping, claimFile,
          releaseFileLocked, hasLeft_broadcast, update_apply] at ha ⊢
         grind [ReaderWorkerPc.hasLeft])

/-- Every worker is busy exactly while it owns a file. -/
theorem WellFormed.busy_next (h : p.WellFormed) (ha : p.Enabled sh a) (v : ℕ) :
    ((p.next sh a).worker v).busy = ((p.next sh a).worker v).pc.ownsFile := by
  have hv := h.busy v
  cases a
  case reconcile d =>
    rw [next]
    rcases reconcile_worker p d v with hcell | ⟨dr, pc, hcell, rfl | rfl⟩
    · rw [hcell]
      rfl
    · rwa [hcell]
    · rw [hcell]
      simpa only [ownsFile_broadcast] using hv
  case exitWorker w =>
    simp only [Enabled, At, next, exitWorker_eq] at ha ⊢
    split <;>
    · simp only [goto, setWorker, update_apply] at hv ⊢
      grind [ReaderWorkerPc.ownsFile]
  all_goals first
    | exact hv
    | (simp only [Enabled, At, next, goto, setWorker, broadcast, markStopping, claimFile,
        releaseFileLocked, ownsFile_broadcast, update_apply] at ha hv ⊢
       grind [ReaderWorkerPc.ownsFile])

/-- A broadcast lets no one exit. -/
theorem total_alive_broadcast (cell : ℕ → ReaderWorker) (n : ℕ) :
    Cells.total alive (fun v => { cell v with pc := (cell v).pc.broadcast }) n =
      Cells.total alive cell n :=
  Cells.total_congr fun v _ => by simp only [alive, broadcast_eq_exited]

/-- The wait group keeps counting the workers that have not exited. -/
theorem WellFormed.wg_next (h : p.WellFormed) (ha : p.Enabled sh a) :
    (p.next sh a).wg = Cells.total alive (p.next sh a).worker (p.next sh a).started := by
  have hwg := h.wg
  cases a
  case reconcile d =>
    by_cases hs : p.stopping = true ∨ p.cancelled = true
    · rwa [next, reconcile_of_stopped hs]
    simp only [not_or, Bool.not_eq_true] at hs
    obtain ⟨cell, heq, hnew, hold⟩ := exists_reconcile_eq hs.1 hs.2 d
    simp only [next, heq]
    rw [hwg, Cells.total, Cells.total, Finset.sum_range_add]
    congr 1
    · refine Finset.sum_congr rfl fun v hv => ?_
      rw [hold v (by have := Finset.mem_range.mp hv; omega)]
      simp only [alive, broadcast_eq_exited]
    · rw [Finset.sum_congr rfl fun v hv => by
        rw [hnew _ (Nat.le_add_right ..) (by have := Finset.mem_range.mp hv; omega)]]
      simp [alive]
  case exitWorker w =>
    obtain ⟨hlt, hpc⟩ := ha
    simp only [next, exitWorker_eq]
    split
    · simp only [goto, setWorker]
      rw [Cells.total_update_of_eq, Cells.total_succ, Cells.total_update_of_le le_rfl, update_self,
        hwg]
      · rfl
      · rw [update_of_ne (by omega)]
        simp [alive, hpc]
    · simp only [goto, setWorker]
      rw [Cells.total_update_of_eq, hwg]
      simp [alive, hpc]
  case releaseWg w =>
    obtain ⟨hlt, hpc⟩ := ha
    have hmove : Cells.total alive (update p.worker w { p.worker w with pc := .exited }) p.started +
        alive (p.worker w) = Cells.total alive p.worker p.started + 0 :=
      Cells.total_update alive p.worker _ hlt
    have hone : alive (p.worker w) = 1 := by simp [alive, hpc]
    simp only [hone, ← hwg] at hmove
    simp only [next, goto, setWorker]
    omega
  case release w path =>
    obtain ⟨hlt, hpc⟩ := ha
    simp only [next, releaseFileLocked, setWorker, broadcast]
    rw [total_alive_broadcast, Cells.total_update_of_eq, hwg]
    simp [alive, hpc]
  case mark w path =>
    obtain ⟨hlt, hpc⟩ := ha
    simp only [next, goto, setWorker, markStopping, broadcast]
    rw [total_alive_broadcast, Cells.total_update_of_eq, hwg]
    simp [alive, hpc]
  case stopMark =>
    simp only [next, markStopping, broadcast]
    rw [total_alive_broadcast, hwg]
  case watcherMark =>
    simp only [next, markStopping, broadcast]
    rw [total_alive_broadcast, hwg]
  case read w path pc move =>
    obtain ⟨⟨hlt, hpc⟩, -⟩ := ha
    simp only [next, setWorker]
    rw [Cells.total_update_of_eq, hwg]
    simp [alive, hpc]
  case check w =>
    obtain ⟨hlt, hpc⟩ := ha
    simp only [next, goto, setWorker]
    rw [Cells.total_update_of_eq, hwg]
    simp only [alive, hpc]
    split <;> rfl
  case receiveError error => exact hwg
  case cancel => exact hwg
  case watcherWoken => exact hwg
  case watcherJoined => exact hwg
  all_goals
    simp only [Enabled, At] at ha
    simp only [next, goto, setWorker, claimFile]
    rw [Cells.total_update_of_eq, hwg]
    simp [alive, ha]

/-- What the marks and the watcher have seen stays true. -/
theorem WellFormed.stopping_next (h : p.WellFormed) (ha : p.Enabled sh a)
    (hs : (p.next sh a).stopping = true) : (p.next sh a).cancelled = true := by
  rw [cancelled_next]
  left
  rcases ReaderPool.stopping_next.mp hs with hs | rfl | rfl | ⟨w, path, rfl⟩
  · exact h.stopping hs
  · exact ha
  · exact h.woken (by rw [ha]; exact nofun)
  · exact h.marking w path ha.2

/-- A worker about to mark the pool has cancelled it. -/
theorem WellFormed.marking_next (h : p.WellFormed) (ha : p.Enabled sh a) {v : ℕ} {path : Go.Path}
    (hv : ((p.next sh a).worker v).pc = .marking path) : (p.next sh a).cancelled = true := by
  by_cases hc : ∃ w q, a = .cancelPool w q
  · exact cancelled_next.mpr (Or.inr (Or.inr hc))
  refine cancelled_next.mpr (Or.inl (h.marking v path ?_))
  have hwoken : ∀ pc : ReaderWorkerPc, pc.broadcast = .marking path → pc = .marking path := by
    intro pc hpc
    cases pc <;> simp_all [ReaderWorkerPc.broadcast]
  cases a
  case cancelPool w q => exact absurd ⟨w, q, rfl⟩ hc
  case reconcile d =>
    rw [next] at hv
    rcases reconcile_worker p d v with hcell | ⟨dr, pc, hcell, rfl | rfl⟩
    · rw [hcell] at hv
      exact absurd hv nofun
    · rwa [hcell] at hv
    · rw [hcell] at hv
      exact hwoken _ hv
  case exitWorker w =>
    simp only [Enabled, At, next, exitWorker_eq] at ha hv
    split at hv <;>
    · simp only [goto, setWorker, update_apply] at hv
      grind
  case check w =>
    simp only [next, goto, setWorker, update_apply] at hv
    grind
  all_goals first
    | exact hv
    | exact hwoken _ hv
    | (simp only [Enabled, At, next, goto, setWorker, broadcast, markStopping, claimFile,
        releaseFileLocked, update_apply] at ha hv
       grind)

/-- The watcher moves by its own actions only. -/
theorem watcher_next (h1 : a ≠ .watcherWoken) (h2 : a ≠ .watcherMark) (h3 : a ≠ .watcherJoined) :
    (p.next sh a).watcher = p.watcher := by
  cases a
  case reconcile d =>
    obtain ⟨_, _, _, _, _, h⟩ := reconcile_frame p d
    rw [next, h]
  case exitWorker w =>
    simp only [next, exitWorker_eq]
    split <;> rfl
  case watcherWoken => exact absurd rfl h1
  case watcherMark => exact absurd rfl h2
  case watcherJoined => exact absurd rfl h3
  all_goals rfl

/-- **A stopping pool starts no worker**: what its wait group counts only goes down. -/
theorem wg_next_le (hs : p.stopping = true) : (p.next sh a).wg ≤ p.wg := by
  cases a
  case reconcile d => rw [next, reconcile_of_stopped (Or.inl hs)]
  case exitWorker w =>
    simp only [next, exitWorker_eq, hs]
    exact le_rfl
  case releaseWg w => exact Nat.sub_le ..
  all_goals exact le_rfl

/-- **Every action keeps the pool in order.** -/
theorem WellFormed.next (h : p.WellFormed) (ha : p.Enabled sh a) : (p.next sh a).WellFormed where
  nodup := (h.registration_next ha).1
  registered := (h.registration_next ha).2
  busy := h.busy_next ha
  wg := h.wg_next ha
  marking _ _ hv := h.marking_next ha hv
  stopping := h.stopping_next ha
  woken hw := by
    refine cancelled_next.mpr (Or.inl ?_)
    by_cases h1 : a = .watcherWoken
    · rw [h1] at ha
      exact ha.2
    by_cases h2 : a = .watcherMark
    · rw [h2] at ha
      exact h.woken (by rw [ha]; exact nofun)
    by_cases h3 : a = .watcherJoined
    · rw [h3] at ha
      exact h.woken (by rw [ha.1]; exact nofun)
    · exact h.woken (watcher_next h1 h2 h3 ▸ hw)
  joining hw := by
    by_cases h1 : a = .watcherWoken
    · subst h1
      exact absurd hw (by simp [ReaderPool.next])
    by_cases h2 : a = .watcherMark
    · exact ReaderPool.stopping_next.mpr (Or.inr (Or.inr (Or.inl h2)))
    by_cases h3 : a = .watcherJoined
    · rw [h3] at ha
      exact ReaderPool.stopping_next.mpr (Or.inl (h.joining (Or.inl ha.1)))
    · exact ReaderPool.stopping_next.mpr (Or.inl (h.joining (watcher_next h1 h2 h3 ▸ hw)))
  closed hw := by
    by_cases h1 : a = .watcherWoken
    · subst h1
      exact absurd hw nofun
    by_cases h2 : a = .watcherMark
    · subst h2
      exact absurd hw nofun
    by_cases h3 : a = .watcherJoined
    · subst h3
      exact ha.2
    · rw [watcher_next h1 h2 h3] at hw
      have hzero := h.closed hw
      have hle : (p.next sh a).wg ≤ p.wg := wg_next_le (h.joining (Or.inr hw))
      omega

/-- An empty pool is in order. -/
theorem wellFormed_empty (files : List Go.Path) (directory : Go.Path) (batchSize : ℕ) :
    (empty files directory batchSize).WellFormed where
  nodup := List.nodup_nil
  registered w := by simp [empty]
  busy w := rfl
  wg := rfl
  marking w path hpc := absurd hpc nofun
  stopping hs := absurd hs nofun
  woken hw := absurd rfl hw
  joining hw := absurd hw (by simp [empty])
  closed hw := absurd hw nofun

/-- A pool that has just been started is in order. -/
theorem wellFormed_start (dataPath : Go.Path) (batchSize n : ℕ) (files : List Go.Path) :
    (start dataPath batchSize n files).WellFormed := by
  by_cases hn : 1 ≤ n
  · have hask : (empty files (readerSourceDirectory dataPath) batchSize).Enabled {} (.reconcile n) := hn
    exact (wellFormed_empty _ _ _).next hask
  · obtain rfl : n = 0 := by omega
    exact wellFormed_empty _ _ _

/-! ### The end -/

/-- **Once `done` is closed, every worker has exited.** -/
theorem WellFormed.exited_of_closed (h : p.WellFormed) (hc : p.watcher = .closed)
    (hw : w < p.started) : (p.worker w).pc = .exited := by
  have hzero := h.wg.symm.trans (h.closed hc)
  have hall := (Finset.sum_eq_zero_iff.mp hzero) w (Finset.mem_range.mpr hw)
  by_contra hne
  exact absurd hall (by simp [alive, hne])

/-- **Once `done` is closed, no goroutine of the pool has anything left to do.** -/
theorem not_enabled_of_closed (h : p.WellFormed) (hc : p.watcher = .closed)
    (ha : a.isOwn = true) : ¬p.Enabled sh a := by
  intro hen
  cases a
  case reconcile d => exact absurd ha nofun
  case receiveError e => exact absurd ha nofun
  case stopMark => exact absurd ha nofun
  case cancel => exact absurd ha nofun
  case watcherWoken => exact absurd (hc.symm.trans hen.1) nofun
  case watcherMark => exact absurd (hc.symm.trans hen) nofun
  case watcherJoined => exact absurd (hc.symm.trans hen.1) nofun
  case read w path pc move =>
    exact absurd ((h.exited_of_closed hc hen.1.1).symm.trans hen.1.2) nofun
  case claimQuit w => exact absurd ((h.exited_of_closed hc hen.1.1).symm.trans hen.1.2) nofun
  case claim w i => exact absurd ((h.exited_of_closed hc hen.1.1).symm.trans hen.1.2) nofun
  case claimPark w => exact absurd ((h.exited_of_closed hc hen.1.1).symm.trans hen.1.2) nofun
  case reportFirst w q e => exact absurd ((h.exited_of_closed hc hen.1.1).symm.trans hen.1.2) nofun
  case reportAgain w q e => exact absurd ((h.exited_of_closed hc hen.1.1).symm.trans hen.1.2) nofun
  case push w q e => exact absurd ((h.exited_of_closed hc hen.1.1).symm.trans hen.1.2) nofun
  all_goals exact absurd ((h.exited_of_closed hc hen.1).symm.trans hen.2) nofun

end ReaderPool

end IngestionLab
