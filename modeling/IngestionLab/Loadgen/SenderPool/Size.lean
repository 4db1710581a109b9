import IngestionLab.Loadgen.SenderPool.Steps

/-!
# The size of the sender pool

How many workers of a sender pool are active – registered and not draining – is
compared here with the number last asked for.

Downwards the pool follows the request: the downward loop of `reconcile` stops at
it, a draining worker that leaves is not replaced, one that has been un-drained
after it decided to stop is. Upwards it does not always. The upward loop clears
**every** draining mark, so a request for more workers than are active but fewer
than are registered leaves all the registered ones active. Nothing repairs that
later: the excess stays until the next request.

* `IngestionLab.SenderPool.desired_after`: the number the pool works towards is
  the last one requested.
* `IngestionLab.SenderPool.Sized.next`: a step that is no such request keeps as
  many active workers as desired.
* `IngestionLab.SenderPool.size_follows_request_iff`: **a run keeps the size
  requested exactly when it makes no such request.**
-/

namespace IngestionLab

open Function

namespace SenderPool

variable {p : SenderPool} {d now : ℕ} {a : Action}

/-! ### The last request -/

/-- What one action makes of the last request. -/
def requestStep (last : ℕ) : Memory ⊕ Action → ℕ
  | .inr (.reconcile d) => d
  | _ => last

/-- The last number of workers requested, before the run or in it. -/
def lastRequest (initial : ℕ) (as : List (Memory ⊕ Action)) : ℕ := as.foldl requestStep initial

/-- Only `reconcile` changes the desired number. -/
theorem desired_next (h : p.stopping = false) :
    (p.next now a).desired = requestStep p.desired (.inr a) := by
  cases a
  case reconcile d =>
    obtain ⟨k, cell, joined, heq, -, -⟩ := exists_reconcile_eq h d
    rw [next, heq]
    rfl
  case workerExited w =>
    obtain ⟨_, _, _, _, _, heq⟩ := workerExited_frame p w
    simp only [next, goto, setWorker, heq, requestStep]
  case pause =>
    obtain ⟨_, _, _, heq⟩ := pause_frame p
    simp only [next, heq, requestStep]
  case resumeRun =>
    obtain ⟨_, _, heq⟩ := resumeRun_frame p
    simp only [next, heq, requestStep]
  all_goals rfl

/-- **While the pool is not stopping, it works towards the last request.** -/
theorem desired_after (s : Memory × SenderPool) (as : List (Memory ⊕ Action))
    (hstop : (machine.after s as).2.stopping = false) :
    s.2.stopping = false ∧ (machine.after s as).2.desired = lastRequest s.2.desired as := by
  induction as generalizing s with
  | nil => exact ⟨hstop, rfl⟩
  | cons a as ih =>
    obtain ⟨hnext, hdes⟩ := ih _ hstop
    rw [Machine.after_cons, hdes, lastRequest, lastRequest, List.foldl_cons]
    cases a with
    | inl sh => exact ⟨hnext, rfl⟩
    | inr a =>
      have hs : s.2.stopping = false := stopping_of_next hnext
      refine ⟨hs, ?_⟩
      change List.foldl requestStep (s.2.next s.1.now a).desired as = _
      rw [desired_next hs]

/-! ### The number of active workers -/

/-- The pool has as many active workers as desired. -/
def Sized (p : SenderPool) : Prop := p.stopping = false → p.activeWorkerCountLocked = p.desired

/-- **The request the upward loop overshoots**: more workers than are active, fewer
than are registered. -/
def Overshoots (p : SenderPool) (d : ℕ) : Prop :=
  p.stopping = false ∧ p.activeWorkerCountLocked < d ∧ d < p.workers.length

instance (p : SenderPool) (d : ℕ) : Decidable (p.Overshoots d) :=
  inferInstanceAs (Decidable (_ ∧ _))

/-- A request that does not overshoot is met at once. -/
theorem sized_reconcile (hw : p.WellFormed) (hs : p.Sized) (hd : ¬p.Overshoots d) :
    (p.reconcile d).Sized := by
  cases hstop : p.stopping with
  | true => rwa [reconcile_of_stopping hstop]
  | false =>
    intro _
    rw [activeWorkerCountLocked_reconcile hstop hw.nodup fun v hv => ((hw.registered v).mp hv).1]
    obtain ⟨k, cell, joined, heq, -, -⟩ := exists_reconcile_eq hstop d
    have hlen : p.activeWorkerCountLocked < d → p.workers.length ≤ d := fun hlt => by
      by_contra hc
      exact hd ⟨hstop, hlt, by omega⟩
    rw [heq]
    change (if p.activeWorkerCountLocked < d then max d p.workers.length else d) = d
    split
    · have := hlen ‹_›
      omega
    · rfl

/-- A request that overshoots leaves every registered worker active. -/
theorem activeWorkerCountLocked_of_overshoots (hw : p.WellFormed) (hd : p.Overshoots d) :
    (p.reconcile d).activeWorkerCountLocked = p.workers.length := by
  obtain ⟨hstop, hlt, hlen⟩ := hd
  rw [activeWorkerCountLocked_reconcile hstop hw.nodup fun v hv => ((hw.registered v).mp hv).1,
    if_pos hlt]
  omega

/-- Moving the goroutine of a worker changes no count of active workers. -/
theorem activeWorkerCountLocked_setWorker {w : ℕ} {c : SenderWorker}
    (h : c.draining = (p.worker w).draining) :
    (p.setWorker w c).activeWorkerCountLocked = p.activeWorkerCountLocked :=
  Cells.count_update_of_eq (by rw [h])

/-- **What a worker's exit makes of the number of active workers**: nothing, unless
the worker was not draining and there are more than desired. -/
theorem activeWorkerCountLocked_workerExited {w : ℕ} (hw : p.WellFormed) (hmem : w ∈ p.workers)
    (hstop : p.stopping = false) :
    (p.workerExited w).activeWorkerCountLocked =
      if (p.worker w).draining = false ∧ p.desired < p.activeWorkerCountLocked then
        p.activeWorkerCountLocked - 1
      else p.activeWorkerCountLocked := by
  have hfresh : p.started ∉ p.workers.erase w := fun hc => by
    have := ((hw.registered _).mp (List.mem_of_mem_erase hc)).1
    omega
  have herase := Cells.count_erase (fun c : SenderWorker => !c.draining) p.worker hmem
  rw [workerExited_eq hmem, activeWorkerCountLocked.eq_1 p]
  cases hdr : (p.worker w).draining with
  | true =>
    rw [if_neg (by simp), if_neg (by simp)]
    simpa [hdr, activeWorkerCountLocked] using herase
  | false =>
    have hleft : Cells.count (fun c => !c.draining) p.worker (p.workers.erase w) + 1 =
        Cells.count (fun c => !c.draining) p.worker p.workers := by
      simpa [hdr] using herase
    by_cases hlt : Cells.count (fun c => !c.draining) p.worker (p.workers.erase w) < p.desired
    · rw [if_pos ⟨hstop, rfl, hlt⟩, if_neg (by omega)]
      simp only [activeWorkerCountLocked, Cells.count_append, Cells.count_update_of_notMem hfresh]
      simpa [Cells.count_cons] using hleft
    · rw [if_neg (by simp [hlt]), if_pos ⟨rfl, by omega⟩]
      simp only [activeWorkerCountLocked]
      omega

/-- Only `reconcile` and a worker's exit change the number of active workers. -/
theorem activeWorkerCountLocked_next (hw : p.WellFormed) (hr : ∀ d, a ≠ .reconcile d)
    (he : ∀ w, a ≠ .workerExited w) :
    (p.next now a).activeWorkerCountLocked = p.activeWorkerCountLocked := by
  have hframe : (p.next now a).workers = p.workers ∧ (p.next now a).started = p.started :=
    workers_next hr he
  rw [activeWorkerCountLocked, hframe.1]
  refine Cells.count_congr fun v hv => ?_
  rw [draining_next hr ((hw.registered v).mp hv).1]

/-- **What one step makes of the desired and of the active number**, in a pool that
is not stopping: a request is met or overshot, an exit leaves the active number or
brings it closer to the desired one, anything else changes neither. -/
theorem size_next (hw : p.WellFormed) (ha : p.Enabled now a) (hstop : p.stopping = false) :
    (∃ d, a = .reconcile d ∧ 1 ≤ d ∧ (p.next now a).desired = d ∧
      (p.next now a).activeWorkerCountLocked =
        if p.activeWorkerCountLocked < d then max d p.workers.length else d) ∨
    (p.next now a).desired = p.desired ∧
      ((p.next now a).activeWorkerCountLocked = p.activeWorkerCountLocked ∨
        p.desired < p.activeWorkerCountLocked ∧
          (p.next now a).activeWorkerCountLocked = p.activeWorkerCountLocked - 1) := by
  by_cases hr : ∃ d, a = .reconcile d
  · obtain ⟨d, rfl⟩ := hr
    refine Or.inl ⟨d, rfl, ha.1, desired_next hstop, ?_⟩
    exact activeWorkerCountLocked_reconcile hstop hw.nodup fun v hv => ((hw.registered v).mp hv).1
  right
  have hdes : (p.next now a).desired = p.desired := by
    rw [desired_next hstop]
    cases a
    case reconcile d => exact absurd ⟨d, rfl⟩ hr
    all_goals rfl
  refine ⟨hdes, ?_⟩
  by_cases he : ∃ w, a = .workerExited w
  · obtain ⟨w, rfl⟩ := he
    obtain ⟨⟨hlt, hpc⟩, -⟩ := ha
    have hmem : w ∈ p.workers := (hw.registered w).mpr ⟨hlt, by rw [hpc]; rfl⟩
    have hmoved : ((p.workerExited w).goto w .removed).activeWorkerCountLocked =
        (p.workerExited w).activeWorkerCountLocked := activeWorkerCountLocked_setWorker rfl
    rw [SenderPool.next, hmoved, activeWorkerCountLocked_workerExited hw hmem hstop]
    split
    · rename_i hc
      exact Or.inr ⟨hc.2, rfl⟩
    · exact Or.inl rfl
  · exact Or.inl (activeWorkerCountLocked_next hw (fun d hc => hr ⟨d, hc⟩) fun w hc => he ⟨w, hc⟩)

/-- **A step that does not overshoot keeps as many active workers as desired.** -/
theorem Sized.next (hs : p.Sized) (hw : p.WellFormed) (ha : p.Enabled now a)
    (hd : ∀ d, a = .reconcile d → ¬p.Overshoots d) : (p.next now a).Sized := by
  intro hstop
  have hold : p.stopping = false := stopping_of_next hstop
  have hsize := hs hold
  rcases size_next hw ha hold with ⟨d, rfl, -, -, -⟩ | ⟨hdes, hact | ⟨hlt, -⟩⟩
  · exact sized_reconcile hw hs (hd d rfl) hstop
  · rw [hdes, hact, hsize]
  · omega

/-! ### Runs -/

/-- **A run keeps the size requested exactly when no request in it overshoots.**
In every state a run visits in which the pool is not stopping and its mutex is
free, there are as many active workers as were last requested – if and only if no
`reconcile` of the run asks a pool that is not stopping for more workers than are
active and fewer than are registered. -/
theorem size_follows_request_iff (retry : SenderRetryConfig) (n : ℕ) (sh : Memory)
    (as : List (Memory ⊕ Action)) (hrun : machine.Run (sh, startSenderPool retry n) as) :
    (∀ bs, bs <+: as →
      let p := (machine.after (sh, startSenderPool retry n) bs).2
      p.stopping = false → p.muHeld = false → p.activeWorkerCountLocked = lastRequest n bs) ↔
    machine.Along (fun s a => ∀ d, a = .inr (.reconcile d) → ¬s.2.Overshoots d)
      (sh, startSenderPool retry n) as := by
  have hstart : (startSenderPool retry n).desired = n := by
    obtain ⟨k, cell, joined, heq, -, -⟩ := exists_reconcile_eq (p := empty retry) rfl n
    rw [startSenderPool, heq]
  have hsized : (startSenderPool retry n).Sized :=
    sized_reconcile (d := n) (p := empty retry) (wellFormed_startSenderPool retry 0)
      (fun _ => rfl) fun h => by simpa [empty] using h.2.2
  have hstep : ∀ (s : Memory × SenderPool) (a : Memory ⊕ Action),
      s.2.WellFormed → machine.Enabled s a → (machine.next s a).2.WellFormed := by
    rintro s (sh' | a) hw ha
    · exact hw
    · exact hw.next ha
  constructor
  · intro h
    refine Machine.along_of_always (J := fun s => s.2.WellFormed)
      (P := fun s => s.2.stopping = false → s.2.muHeld = false →
        s.2.activeWorkerCountLocked = s.2.desired)
      hstep ?_ (wellFormed_startSenderPool retry n) hrun ?_
    · rintro s a hw - ha hc hP
      obtain ⟨d, rfl, hd⟩ : ∃ d, a = .inr (.reconcile d) ∧ s.2.Overshoots d := by
        simpa using hc
      obtain ⟨k, cell, joined, heq, -, -⟩ := exists_reconcile_eq hd.1 d
      have hlen := activeWorkerCountLocked_of_overshoots hw hd
      have hmet : (s.2.reconcile d).activeWorkerCountLocked = (s.2.reconcile d).desired :=
        hP (by simpa [machine, SenderPool.next, heq] using hd.1)
          (by simpa [machine, SenderPool.next, heq] using ha.2)
      rw [hlen, heq] at hmet
      have hlt := hd.2.2
      simp only at hmet
      omega
    · refine Machine.always_iff_prefix.mpr fun bs hbs hstop hfree => ?_
      rw [h bs hbs hstop hfree, (desired_after _ bs hstop).2, hstart]
  · intro h bs hbs p hstop _
    have hkeep := Machine.always_of_along (m := machine) (P := fun s => s.2.WellFormed ∧ s.2.Sized)
      (C := fun s a => ∀ d, a = .inr (.reconcile d) → ¬s.2.Overshoots d)
      (fun s a hP ha hC => by
        refine ⟨hstep s a hP.1 ha, ?_⟩
        cases a with
        | inl sh' => exact hP.2
        | inr a => exact hP.2.next hP.1 ha fun d hd => hC d (by rw [hd]))
      ⟨wellFormed_startSenderPool retry n, hsized⟩ hrun h
    have hs := (Machine.always_iff_prefix.mp hkeep bs hbs).2 hstop
    rw [hs, (desired_after _ bs hstop).2, hstart]

/-! ### A run that overshoots -/

/-- The steps by which a free worker comes to hold a batch. -/
def receiveSteps (batch : Batch) (w : ℕ) : List (Memory ⊕ Action) :=
  [.intakeFound, .intakeTest, .intakeEnter, .intakeTestEntered, .intakeReceive batch,
    .intakeRecord batch, .intakeAssign batch w, .intakeSend batch w, .intakeHanded,
    .takeAtHead w batch].map .inr

/-- Three workers, each with a batch; then one worker is requested, then two. -/
def overshootingRun : List (Memory ⊕ Action) :=
  receiveSteps [⟨"a"⟩] 0 ++ receiveSteps [⟨"b"⟩] 1 ++ receiveSteps [⟨"c"⟩] 2 ++
    [.inr (.reconcile 1), .inr (.reconcile 2)]

/-- **The size requested is not always kept**: after this run three workers are
active where two were requested. -/
theorem overshootingRun_exceeds_request :
    let s := ({}, startSenderPool ⟨[1000], 0, "startup"⟩ 3)
    let p := (machine.after s overshootingRun).2
    machine.Run s overshootingRun ∧ p.stopping = false ∧ p.muHeld = false ∧
      lastRequest 3 overshootingRun = 2 ∧ p.activeWorkerCountLocked = 3 := by
  decide +kernel

/-- A request for one worker and then for four is followed, three being registered. -/
theorem size_follows_request_down_up :
    (machine.after ({}, startSenderPool ⟨[1000], 0, "startup"⟩ 3)
      ([.inr (.reconcile 1), .inr (.reconcile 4)] : List (Memory ⊕ Action))).2.activeWorkerCountLocked
      = 4 := by
  have hfollows := (size_follows_request_iff ⟨[1000], 0, "startup"⟩ 3 {}
    [.inr (.reconcile 1), .inr (.reconcile 4)] (by decide +kernel)).mpr
    ⟨fun d hd => ?_, fun d hd => ?_, trivial⟩
  · exact hfollows _ List.prefix_rfl (by decide +kernel) (by decide +kernel)
  · cases hd
    decide +kernel
  · cases hd
    decide +kernel

end SenderPool

end IngestionLab
