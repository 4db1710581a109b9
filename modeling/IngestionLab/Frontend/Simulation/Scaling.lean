import IngestionLab.Frontend.Simulation.Moves

/-!
# Sender workers come and go

Which of the sender workers are to go is decided at once when their number is changed, and
they go together, once all of them are idle. Until then they may be called back, they end
what they have begun, and they are given nothing.

The invariant is `IngestionLab.Frontend.FixedStepSimulation.Crewed`: the workers that stay
come first, and are as many as are configured. Of a single move
`IngestionLab.Frontend.FixedStepSimulation.Keeps` says what becomes of the batches the
workers have, and `IngestionLab.Frontend.FixedStepSimulation.never_strands_work` puts both
together.
-/

namespace IngestionLab.Frontend

open Tally

namespace FixedStepSimulation

variable {source : Option SimulationAttemptOutcomeSource} {sim s : FixedStepSimulation} {m : Move}
  {i : ℕ} {worker worker' : SenderWorker} {batch : SimulationBatch}

/-! ### Who stays and who goes -/

/-- **The workers that stay come first**, as many as are configured, and each has the place
its number says. -/
structure Crewed (sim : FixedStepSimulation) : Prop where
  configured : 0 < sim.config.senderWorkers
  staff : ∃ going, sim.staff =
    List.replicate sim.config.senderWorkers false ++ List.replicate going true
  ordinals : sim.workers.map (·.workerId) = List.range sim.workers.length
  pointed : ∃ next, sim.nextWorkerIndex = some next ∧ next < sim.workers.length

/-- The workers that stay, and those that go. -/
theorem Crewed.split (h : sim.Crewed) : ∃ staying going, sim.workers = staying ++ going ∧
    staying.length = sim.config.senderWorkers ∧ (∀ worker ∈ staying, worker.retiring = false) ∧
      ∀ worker ∈ going, worker.retiring = true := by
  obtain ⟨n, hstaff⟩ := h.staff
  obtain ⟨staying, going, hworkers, hstaying, hgoing⟩ := List.map_eq_append_iff.mp hstaff
  obtain ⟨hlength, hstays⟩ := List.eq_replicate_iff.mp hstaying
  rw [List.length_map] at hlength
  refine ⟨staying, going, hworkers, hlength, fun worker hworker => ?_, fun worker hworker => ?_⟩
  · exact hstays _ (List.mem_map_of_mem hworker)
  · exact (List.eq_replicate_iff.mp hgoing).2 _ (List.mem_map_of_mem hworker)

theorem Crewed.le_length (h : sim.Crewed) : sim.config.senderWorkers ≤ sim.workers.length := by
  obtain ⟨staying, going, hworkers, hlength, -, -⟩ := h.split
  rw [hworkers, List.length_append, hlength]
  exact Nat.le_add_right _ _

/-- The workers that are left once the others have gone. -/
theorem Crewed.filter (h : sim.Crewed) : (sim.workers.filter fun worker => !worker.retiring) =
    sim.workers.take sim.config.senderWorkers := by
  obtain ⟨staying, going, hworkers, hlength, hstays, hgoes⟩ := h.split
  have hkept : (staying.filter fun worker => !worker.retiring) = staying :=
    List.filter_eq_self.mpr fun worker hworker => by rw [hstays worker hworker]; rfl
  have hgone : (going.filter fun worker => !worker.retiring) = [] :=
    List.filter_eq_nil_iff.mpr fun worker hworker => by rw [hgoes worker hworker]; exact nofun
  rw [hworkers, List.filter_append, hkept, hgone, List.append_nil, ← hlength, List.take_left]

/-- A worker that goes is behind those that stay. -/
theorem Crewed.retiring_iff (h : sim.Crewed) (hworker : sim.workers[i]? = some worker) :
    worker.retiring = true ↔ sim.config.senderWorkers ≤ i := by
  obtain ⟨staying, going, hworkers, hlength, hstays, hgoes⟩ := h.split
  rw [hworkers] at hworker
  rw [← hlength]
  constructor
  · intro hretiring
    by_contra hlt
    rw [List.getElem?_append_left (not_le.mp hlt)] at hworker
    rw [hstays worker (List.mem_of_getElem? hworker)] at hretiring
    exact Bool.false_ne_true hretiring
  · intro hle
    rw [List.getElem?_append_right hle] at hworker
    exact hgoes worker (List.mem_of_getElem? hworker)

/-! ### What becomes of the batches the workers have -/

/-- The batch has been delivered or given up, and nothing else is noted. -/
def Finishes (sim s : FixedStepSimulation) (batch : SimulationBatch) : Prop :=
  s.log = .succeeded batch :: sim.log ∨ s.log = .failedTerminally batch :: sim.log

/-- **What becomes of the batch of a worker.** -/
structure Carries (sim s : FixedStepSimulation) (worker worker' : SenderWorker) : Prop where
  holds : ∀ batch, worker.batch = some batch →
    worker'.batch = some batch ∨ worker'.batch = none ∧ sim.Finishes s batch
  refuses : worker.retiring = true → worker.batch = none → worker'.batch = none

/-- **What becomes of the workers.** One that has a batch is there afterwards. -/
structure Keeps (sim s : FixedStepSimulation) : Prop where
  stays : ∀ (i : ℕ) (worker : SenderWorker), sim.workers[i]? = some worker → worker.batch ≠ none →
    s.workers[i]? ≠ none
  carries : ∀ (i : ℕ) (worker worker' : SenderWorker), sim.workers[i]? = some worker → s.workers[i]? = some worker' →
    sim.Carries s worker worker'

theorem Carries.of_batch_eq (h : worker'.batch = worker.batch) : sim.Carries s worker worker' :=
  ⟨fun _ hbatch => .inl (h.trans hbatch), fun _ hnone => h.trans hnone⟩

/-- **Workers have come or gone at the end**; those that have gone had no batch, and those
that are left have what they had. -/
structure Resized (workers workers' : List SenderWorker) : Prop where
  batches : ∀ (i : ℕ) (worker worker' : SenderWorker), workers[i]? = some worker →
    workers'[i]? = some worker' → worker'.batch = worker.batch
  gone : ∀ (i : ℕ) (worker : SenderWorker), workers[i]? = some worker → workers'.length ≤ i →
    worker.batch = none

theorem Resized.keeps (h : Resized sim.workers s.workers) : sim.Keeps s := by
  constructor
  · intro i worker hworker hbatch hremoved
    exact hbatch (h.gone i worker hworker (List.getElem?_eq_none_iff.mp hremoved))
  · intro i worker worker' hworker hworker'
    exact .of_batch_eq (h.batches i worker worker' hworker hworker')

theorem Resized.rfl {workers : List SenderWorker} : Resized workers workers := by
  constructor
  · intro i worker worker' hworker hworker'
    rw [Option.some.inj (hworker.symm.trans hworker')]
  · intro i worker hworker hle
    exact absurd (List.getElem?_eq_some_iff.mp hworker).1 (not_lt.mpr hle)

/-- Who goes does not matter. -/
theorem Resized.of_map_eq {workers workers' workers'' : List SenderWorker}
    (hsame : workers'.map (·.batch) = workers.map (·.batch)) (h : Resized workers' workers'') :
    Resized workers workers'' := by
  have hold (i : ℕ) (worker : SenderWorker) (hworker : workers[i]? = some worker) :
      ∃ old, workers'[i]? = some old ∧ old.batch = worker.batch := by
    have hi : (workers'.map (·.batch))[i]? = some worker.batch := by
      rw [hsame, List.getElem?_map, hworker]
      exact Eq.refl _
    rw [List.getElem?_map] at hi
    exact Option.map_eq_some_iff.mp hi
  constructor
  · intro i worker worker' hworker hworker'
    obtain ⟨old, hget, hbatch⟩ := hold i worker hworker
    exact (h.batches i old worker' hget hworker').trans hbatch
  · intro i worker hworker hle
    obtain ⟨old, hget, hbatch⟩ := hold i worker hworker
    exact hbatch.symm.trans (h.gone i old hget hle)

/-! ### Moves that change one worker -/

/-- **At most one worker has changed**, and it stays who it is. -/
structure ChangesOne (sim s : FixedStepSimulation) (i : ℕ) (f : SenderWorker → SenderWorker) :
    Prop where
  size : s.config.senderWorkers = sim.config.senderWorkers
  next : s.nextWorkerIndex = sim.nextWorkerIndex ∨
    ∃ next, s.nextWorkerIndex = some next ∧ next < sim.workers.length
  workers : s.workers = sim.workers.modify i f
  retiring : ∀ worker, (f worker).retiring = worker.retiring
  workerId : ∀ worker, (f worker).workerId = worker.workerId
  carries : ∀ worker, sim.workers[i]? = some worker → sim.Carries s worker (f worker)

/-- No worker has changed. -/
theorem ChangesOne.none (hsize : s.config.senderWorkers = sim.config.senderWorkers)
    (hnext : s.nextWorkerIndex = sim.nextWorkerIndex) (hworkers : s.workers = sim.workers) :
    ChangesOne sim s 0 id := by
  refine ⟨hsize, .inl hnext, ?_, fun _ => rfl, fun _ => rfl, fun _ _ => .of_batch_eq rfl⟩
  rw [hworkers, List.modify_id]

theorem ChangesOne.crewed {f : SenderWorker → SenderWorker} (h : ChangesOne sim s i f)
    (hcrewed : sim.Crewed) : s.Crewed := by
  have hlength : s.workers.length = sim.workers.length := by
    rw [h.workers, List.length_modify]
  have hstaff : s.staff = sim.staff := by
    rw [staff, h.workers]
    exact map_modify _ h.retiring _ _
  have hids : s.workers.map (·.workerId) = sim.workers.map (·.workerId) := by
    rw [h.workers]
    exact map_modify _ h.workerId _ _
  refine ⟨h.size.symm ▸ hcrewed.configured, ?_, ?_, ?_⟩
  · rw [hstaff, h.size]
    exact hcrewed.staff
  · rw [hids, hlength]
    exact hcrewed.ordinals
  · rw [hlength]
    rcases h.next with hnext | hnext
    · rw [hnext]
      exact hcrewed.pointed
    · exact hnext

theorem ChangesOne.keeps {f : SenderWorker → SenderWorker} (h : ChangesOne sim s i f) :
    sim.Keeps s := by
  constructor
  · intro j worker hworker _ hremoved
    rw [h.workers, List.getElem?_modify, hworker] at hremoved
    exact Option.some_ne_none _ hremoved
  · intro j worker worker' hworker hworker'
    rw [h.workers, List.getElem?_modify, hworker] at hworker'
    obtain rfl := Option.some.inj hworker'
    show sim.Carries s worker (if i = j then f worker else worker)
    by_cases hij : i = j
    · rw [if_pos hij]
      exact h.carries worker (hij ▸ hworker)
    · rw [if_neg hij]
      exact .of_batch_eq rfl

/-- An attempt of a batch the worker has, or of one it is given while it stays and is idle. -/
theorem changesOne_startAttempt (source : Option SimulationAttemptOutcomeSource)
    (hsize : s.config.senderWorkers = sim.config.senderWorkers) (hworkers : s.workers = sim.workers)
    (hnext : s.nextWorkerIndex = sim.nextWorkerIndex ∨
      ∃ next, s.nextWorkerIndex = some next ∧ next < sim.workers.length)
    (attempt : ℕ) (amb : Bool) (hgiven : ∀ worker, sim.workers[i]? = some worker →
      worker.batch = some batch ∨ worker.retiring = false ∧ worker.batch = none) :
    ∃ f, ChangesOne sim (s.startAttempt source i batch attempt amb) i f := by
  obtain ⟨_, _, _, _, flight, heq, hbatch, -⟩ :=
    exists_startAttempt_eq source s i batch attempt amb
  refine ⟨fun worker => { worker with state := .inFlight flight }, ?_⟩
  rw [heq]
  refine ⟨hsize, hnext, congrArg (List.modify · i _) hworkers, fun _ => rfl, fun _ => rfl, ?_⟩
  intro worker hworker
  rcases hgiven worker hworker with hsame | ⟨hstays, hnone⟩
  · refine .of_batch_eq ?_
    rw [hsame, ← hbatch]
    rfl
  · refine ⟨fun other hother => ?_, fun hretiring => ?_⟩
    · exact absurd (hnone.symm.trans hother) nofun
    · exact absurd (hstays.symm.trans hretiring) Bool.false_ne_true

theorem changesOne_completeDue (sim : FixedStepSimulation) (i : ℕ) :
    ∃ j f, ChangesOne sim (sim.completeDue i) j f := by
  rw [completeDue]
  split
  · next flight hflight =>
    split
    · exact ⟨_, _, .none rfl rfl rfl⟩
    have hcompletion := completion_completeAttempt sim i flight
    generalize sim.completeAttempt i flight = s at hcompletion
    have howns (worker : SenderWorker) (hworker : sim.workers[i]? = some worker) :
        worker.batch = some flight.batch := by
      rw [hworker] at hflight
      rw [SenderWorker.batch, show worker.state = .inFlight flight from Option.some.inj hflight]
    cases hcompletion with
    | delivered totals activity h =>
      refine ⟨i, _, rfl, .inl rfl, rfl, fun _ => rfl, fun _ => rfl, fun worker hworker => ?_⟩
      refine ⟨fun batch hbatch => .inr ⟨rfl, .inl ?_⟩, fun _ _ => rfl⟩
      rw [← Option.some.inj ((howns worker hworker).symm.trans hbatch)]
    | retried totals activity wait h hlimit hbatch hattempt =>
      refine ⟨i, _, rfl, .inl rfl, rfl, fun _ => rfl, fun _ => rfl, fun worker hworker => ?_⟩
      refine .of_batch_eq ?_
      rw [howns worker hworker, ← hbatch]
      rfl
    | failed totals activity h =>
      refine ⟨i, _, rfl, .inl rfl, rfl, fun _ => rfl, fun _ => rfl, fun worker hworker => ?_⟩
      refine ⟨fun batch hbatch => .inr ⟨rfl, .inr ?_⟩, fun _ _ => rfl⟩
      rw [← Option.some.inj ((howns worker hworker).symm.trans hbatch)]
  · exact ⟨_, _, .none rfl rfl rfl⟩

theorem changesOne_startDue (source : Option SimulationAttemptOutcomeSource)
    (sim : FixedStepSimulation) (i : ℕ) : ∃ j f, ChangesOne sim (sim.startDue source i) j f := by
  rw [startDue]
  split
  · next wait hwait =>
    split
    · exact ⟨_, _, .none rfl rfl rfl⟩
    refine ⟨i, changesOne_startAttempt source rfl rfl (.inl rfl) _ _ fun worker hworker => .inl ?_⟩
    rw [hworker] at hwait
    rw [SenderWorker.batch, show worker.state = .backoff wait from Option.some.inj hwait]
  · exact ⟨_, _, .none rfl rfl rfl⟩

/-- A worker that is chosen has no batch, and stays. -/
theorem Chooses.given {next : ℕ} (h : sim.Chooses next i) (worker : SenderWorker)
    (hworker : sim.workers[i]? = some worker) : worker.retiring = false ∧ worker.batch = none := by
  have havailable := h.2.2
  rw [isAvailable, hworker, Option.any_some, Bool.and_eq_true, Bool.not_eq_true',
    decide_eq_true_eq] at havailable
  refine ⟨havailable.1, ?_⟩
  rw [SenderWorker.batch, havailable.2]

/-! ### Workers come and go -/

theorem crewed_finalizeSenderScaleDown (h : sim.Crewed) : sim.finalizeSenderScaleDown.Crewed := by
  rw [finalizeSenderScaleDown]
  split
  · exact h
  have hle := h.le_length
  obtain ⟨next, hnext, -⟩ := h.pointed
  obtain ⟨n, hstaff⟩ := h.staff
  dsimp only
  rw [h.filter, hnext, Option.bind_some, List.length_take_of_le hle, if_neg h.configured.ne']
  refine ⟨h.configured, ⟨0, ?_⟩, ?_, _, rfl, ?_⟩
  · show (sim.workers.take sim.config.senderWorkers).map (·.retiring) = _
    have hstays : (sim.workers.map (·.retiring)).take sim.config.senderWorkers =
        List.replicate sim.config.senderWorkers false := by
      rw [show sim.workers.map (·.retiring) = _ from hstaff]
      exact List.take_left' List.length_replicate
    rw [List.map_take, hstays, List.replicate_zero, List.append_nil]
  · show (sim.workers.take _).map (·.workerId) = List.range (sim.workers.take _).length
    rw [List.map_take, h.ordinals, List.length_take_of_le hle, List.take_range, min_eq_left hle]
  · show next % _ < (sim.workers.take _).length
    rw [List.length_take_of_le hle]
    exact Nat.mod_lt _ h.configured

theorem resized_finalizeSenderScaleDown (h : sim.Crewed) :
    Resized sim.workers sim.finalizeSenderScaleDown.workers := by
  rw [finalizeSenderScaleDown]
  split
  · exact .rfl
  · next hretiring =>
    push Not at hretiring
    have hle := h.le_length
    dsimp only
    rw [h.filter]
    constructor
    · intro i worker worker' hworker hworker'
      rw [List.getElem?_take_of_lt] at hworker'
      · rw [Option.some.inj (hworker.symm.trans hworker')]
      · have hlt := (List.getElem?_eq_some_iff.mp hworker').1
        rw [List.length_take_of_le hle] at hlt
        exact hlt
    · intro i worker hworker hgone
      rw [List.length_take_of_le hle] at hgone
      have hidle := hretiring.2 worker (List.mem_filter.mpr
        ⟨List.mem_of_getElem? hworker, (h.retiring_iff hworker).mpr hgone⟩)
      rw [SenderWorker.batch, hidle]

/-- The workers are called back, and the last of them sent away. -/
def recalled (sim : FixedStepSimulation) (requested : ℕ) : FixedStepSimulation :=
  let workers := sim.workers.map fun worker => { worker with retiring := false }
  { sim with
    workers := workers.take requested ++
      (workers.drop requested).map fun worker => { worker with retiring := true } }

/-- Marking the workers changes only their marks. -/
theorem map_marked {β : Type} (k : SenderWorker → β)
    (hk : ∀ worker retiring, k { worker with retiring } = k worker) (workers : List SenderWorker)
    (retiring : Bool) :
    (workers.map fun worker => { worker with retiring }).map k = workers.map k := by
  rw [List.map_map]
  exact List.map_congr_left fun worker _ => hk worker retiring

theorem retiring_marked (workers : List SenderWorker) (retiring : Bool) :
    (workers.map fun worker => { worker with retiring }).map (·.retiring) =
      List.replicate workers.length retiring := by
  rw [List.map_map]
  exact List.map_const' ..

theorem map_recalled {β : Type} (k : SenderWorker → β)
    (hk : ∀ worker retiring, k { worker with retiring } = k worker) (sim : FixedStepSimulation)
    (requested : ℕ) : (sim.recalled requested).workers.map k = sim.workers.map k := by
  rw [recalled]
  dsimp only
  rw [List.map_append, map_marked k hk, ← List.map_append, List.take_append_drop, map_marked k hk]

theorem length_recalled (sim : FixedStepSimulation) (requested : ℕ) :
    (sim.recalled requested).workers.length = sim.workers.length := by
  have hmap := congrArg List.length (map_recalled (fun _ => ()) (fun _ _ => rfl) sim requested)
  rw [List.length_map, List.length_map] at hmap
  exact hmap

/-- As many stay as are requested. -/
theorem crewed_recalled {requested : ℕ} (hsize : sim.config.senderWorkers = requested)
    (hpos : 0 < requested) (hle : requested ≤ sim.workers.length)
    (hordinals : sim.workers.map (·.workerId) = List.range sim.workers.length)
    (hpointed : ∃ next, sim.nextWorkerIndex = some next ∧ next < sim.workers.length) :
    (sim.recalled requested).Crewed := by
  have hlength := length_recalled sim requested
  refine ⟨hsize.symm ▸ hpos, ⟨sim.workers.length - requested, ?_⟩, ?_, ?_⟩
  · show (sim.recalled requested).workers.map (·.retiring) =
      List.replicate sim.config.senderWorkers false ++ _
    rw [recalled]
    dsimp only
    rw [List.map_append, retiring_marked, List.map_take, retiring_marked, List.take_replicate,
      min_eq_left hle, List.length_drop, List.length_map, hsize]
  · rw [map_recalled (·.workerId) (fun _ _ => rfl), hordinals, hlength]
  · rw [hlength]
    exact hpointed

/-- **`requestSenderWorkerCount`**, where the number has been configured. -/
theorem crewed_requestSenderWorkerCount {requested : ℕ}
    (hsize : sim.config.senderWorkers = requested) (hpos : 0 < requested)
    (hordinals : sim.workers.map (·.workerId) = List.range sim.workers.length)
    (hpointed : ∃ next, sim.nextWorkerIndex = some next ∧ next < sim.workers.length) :
    (sim.requestSenderWorkerCount requested).Crewed ∧
      Resized sim.workers (sim.requestSenderWorkerCount requested).workers := by
  have hids := map_marked (·.workerId) (fun _ _ => rfl) sim.workers false
  have hbatches := map_marked (·.batch) (fun _ _ => rfl) sim.workers false
  obtain ⟨next, hnext, hlt⟩ := hpointed
  rw [requestSenderWorkerCount]
  dsimp only
  rw [List.length_map]
  split
  · next hmore =>
    set hired := (List.range' sim.workers.length (requested - sim.workers.length)).map createWorker
      with hhired
    have hlength : sim.workers.length + hired.length = requested := by
      rw [hhired, List.length_map, List.length_range']
      exact Nat.add_sub_of_le hmore.le
    have hfresh : hired.map (·.retiring) = List.replicate hired.length false := by
      rw [hhired, List.map_map, List.length_map]
      exact List.map_const' ..
    have hnumbers : hired.map (·.workerId) =
        List.range' sim.workers.length (requested - sim.workers.length) := by
      rw [hhired, List.map_map]
      exact List.map_id _
    refine ⟨⟨hsize.symm ▸ hpos, ⟨0, ?_⟩, ?_, next, hnext, ?_⟩, ?_⟩
    · show (_ ++ hired).map (·.retiring) = List.replicate sim.config.senderWorkers false ++ _
      rw [List.map_append, retiring_marked, hfresh, List.replicate_append_replicate, hlength, hsize,
        List.replicate_zero, List.append_nil]
    · have hrange : List.range sim.workers.length ++
          List.range' sim.workers.length (requested - sim.workers.length) = List.range requested := by
        conv_rhs => rw [← Nat.add_sub_of_le hmore.le, List.range_eq_range', ← List.range'_append_1]
        rw [List.range_eq_range', Nat.zero_add]
      rw [List.map_append, hids, hordinals, hnumbers, List.length_append, List.length_map, hlength,
        hrange]
    · rw [List.length_append, List.length_map]
      exact Nat.lt_add_right _ hlt
    · -- What is appended stands where nobody has been.
      constructor
      · intro i worker worker' hworker hworker'
        have hi := (List.getElem?_eq_some_iff.mp hworker).1
        rw [List.getElem?_append_left (by rw [List.length_map]; exact hi), List.getElem?_map,
          hworker] at hworker'
        rw [← Option.some.inj hworker']
        rfl
      · intro i worker hworker hle
        have hi := (List.getElem?_eq_some_iff.mp hworker).1
        rw [List.length_append, List.length_map] at hle
        omega
  split
  · next hsame =>
    refine ⟨⟨hsize.symm ▸ hpos, ⟨0, ?_⟩, ?_, next, hnext, ?_⟩, .of_map_eq hbatches .rfl⟩
    · rw [staff, retiring_marked, hsize, hsame, List.replicate_zero, List.append_nil]
    · rw [hids, hordinals, List.length_map]
    · rw [List.length_map]
      exact hlt
  · next hmore hsame =>
    have hrecalled := crewed_recalled hsize hpos (by omega) hordinals ⟨next, hnext, hlt⟩
    exact ⟨crewed_finalizeSenderScaleDown hrecalled,
      .of_map_eq (map_recalled (·.batch) (fun _ _ => rfl) sim requested)
        (resized_finalizeSenderScaleDown hrecalled)⟩

/-- **A change of the configuration.** -/
theorem crewed_updateConfig {values : PartialConfig} (hvalid : ∀ n ∈ values.senderWorkers, 0 < n)
    (h : sim.Crewed) :
    (sim.updateConfig values).Crewed ∧ Resized sim.workers (sim.updateConfig values).workers := by
  have hworkers (s : FixedStepSimulation)
      (hsize : s.config.senderWorkers = values.senderWorkers.getD sim.config.senderWorkers)
      (hsame : s.workers = sim.workers) (hnext : s.nextWorkerIndex = sim.nextWorkerIndex) :
      Crewed (values.senderWorkers.elim s s.requestSenderWorkerCount) ∧
        Resized sim.workers (values.senderWorkers.elim s s.requestSenderWorkerCount).workers := by
    cases hrequest : values.senderWorkers with
    | none =>
      rw [hrequest, Option.getD_none] at hsize
      exact ⟨(ChangesOne.none hsize hnext hsame).crewed h, hsame ▸ .rfl⟩
    | some requested =>
      rw [hrequest, Option.getD_some] at hsize
      rw [Option.elim_some, ← hsame]
      exact crewed_requestSenderWorkerCount hsize (hvalid requested hrequest)
        (hsame ▸ h.ordinals) (hsame ▸ hnext ▸ h.pointed)
  obtain ⟨⟨hconfigured, hstaff, hordinals, hpointed⟩, hresized⟩ :=
    hworkers { sim with config := assignConfig sim.config values } rfl rfl rfl
  exact ⟨⟨hconfigured, hstaff, hordinals, hpointed⟩, hresized⟩

/-- The workers of a simulation that has been made or reset. -/
theorem crewed_of_created (hworkers : 0 < sim.config.senderWorkers)
    (hcreated : sim.workers = createWorkers sim.config.senderWorkers)
    (hnext : sim.nextWorkerIndex = some 0) : sim.Crewed := by
  have hlength : sim.workers.length = sim.config.senderWorkers := by
    rw [hcreated, createWorkers, List.length_map, List.length_range]
  refine ⟨hworkers, ⟨0, ?_⟩, ?_, 0, hnext, hlength ▸ hworkers⟩
  · rw [staff, hcreated, createWorkers, List.map_map, List.replicate_zero, List.append_nil]
    refine (List.map_const' ..).trans ?_
    rw [List.length_range]
  · rw [hlength, hcreated, createWorkers, List.map_map]
    exact List.map_id _

/-! ### Every move -/

/-- **A move that leaves a sender worker**, and is no reset. -/
def Move.Scales (m : Move) : Prop :=
  ∀ operation, m = .operate operation → operation.Valid ∧ operation ≠ .reset

/-- **Every move** keeps the workers that stay first, and the batches with their workers. -/
theorem crewed_apply (source : Option SimulationAttemptOutcomeSource) (h : sim.Crewed)
    (hm : m.Enabled sim) (hscales : m.Scales) :
    (m.apply source sim).Crewed ∧ sim.Keeps (m.apply source sim) := by
  have hone {j : ℕ} {f : SenderWorker → SenderWorker} {s : FixedStepSimulation}
      (hchanges : ChangesOne sim s j f) : s.Crewed ∧ sim.Keeps s :=
    ⟨hchanges.crewed h, hchanges.keeps⟩
  cases m with
  | startStep => exact hone (.none rfl rfl rfl)
  | complete index =>
    obtain ⟨_, _, hchanges⟩ := changesOne_completeDue sim index
    exact hone hchanges
  | retry index =>
    obtain ⟨_, _, hchanges⟩ := changesOne_startDue source sim index
    exact hone hchanges
  | finalize =>
    exact ⟨crewed_finalizeSenderScaleDown h, (resized_finalizeSenderScaleDown h).keeps⟩
  | refill =>
    rw [Move.apply, refillThrottlerTokens]
    split
    · exact hone (.none rfl rfl rfl)
    · exact hone (.none rfl rfl rfl)
  | deliver next index batch =>
    obtain ⟨f, hchanges⟩ : ∃ f, ChangesOne sim (Move.apply source sim (.deliver next index batch))
        index f := by
      refine changesOne_startAttempt source ?_ ?_ (.inr ⟨next, ?_, hm.1.2.1⟩) 1 false
        fun worker hworker => .inr (hm.1.given worker hworker)
      · rfl
      · rfl
      · rfl
    exact hone hchanges
  | handoffSender next index batch =>
    obtain ⟨f, hchanges⟩ : ∃ f, ChangesOne sim (startAttempt source
        (onSenderChannel { sim with nextWorkerIndex := some next }
          (sim.senderChannel.handoff SimulationBatch.transactions batch) (·.handoff batch))
        index batch 1 false) index f := by
      refine changesOne_startAttempt source ?_ ?_ (.inr ⟨next, ?_, hm.1.2.1⟩) 1 false
        fun worker hworker => .inr (hm.1.given worker hworker)
      · rfl
      · rfl
      · rfl
    have hcarries (worker : SenderWorker) (hworker : sim.workers[index]? = some worker) :
        sim.Carries (Move.apply source sim (.handoffSender next index batch)) worker (f worker) :=
      ⟨(hchanges.carries worker hworker).holds, (hchanges.carries worker hworker).refuses⟩
    exact hone ⟨hchanges.size, hchanges.next, hchanges.workers, hchanges.retiring,
      hchanges.workerId, hcarries⟩
  | offerSender batch =>
    rw [Move.apply]
    split
    · exact hone (.none rfl rfl rfl)
    · exact hone (.none rfl rfl rfl)
  | receiveReader batch => exact hone (.none rfl rfl rfl)
  | earn => exact hone (.none rfl rfl rfl)
  | handoffReader => exact hone (.none rfl rfl rfl)
  | offerReader =>
    rw [Move.apply]
    split
    · exact hone (.none rfl rfl rfl)
    · exact hone (.none rfl rfl rfl)
  | endStep _ _ _ => exact hone (.none rfl rfl rfl)
  | strand batch => exact hone (.none rfl rfl rfl)
  | operate operation =>
    obtain ⟨hvalid, hreset⟩ := hscales operation rfl
    cases operation with
    | advanceStep => exact absurd rfl hm
    | updateConfig values =>
      obtain ⟨hcrewed, hresized⟩ := crewed_updateConfig hvalid h
      exact ⟨hcrewed, hresized.keeps⟩
    | requestChannelCapacity channel capacity =>
      cases channel with
      | readerToThrottler => exact hone (.none rfl rfl rfl)
      | throttlerToSender => exact hone (.none rfl rfl rfl)
    | clearInstantaneousTelemetry => exact hone (.none rfl rfl rfl)
    | telemetry running => exact hone (.none rfl rfl rfl)
    | reset => exact absurd rfl hreset

/-! ### Runs -/

theorem Crewed.leads (h : sim.Crewed) (hleads : (moves source).Leads Move.Scales sim s) :
    s.Crewed :=
  hleads.invariant (I := Crewed) (fun _ _ hs hm hscales => (crewed_apply source hs hm hscales).1) h

/-- The moves of operations that leave a sender worker. -/
theorem leads_scales (source : Option SimulationAttemptOutcomeSource) (sim : FixedStepSimulation)
    {operations : List Operation}
    (hoperations : ∀ operation ∈ operations, operation.Valid ∧ operation ≠ .reset) :
    (moves source).Leads Move.Scales sim
      ((machine source Operation.Valid).after sim operations) :=
  (leads_after source Operation.Valid sim operations).mono
    fun _ hm operation heq => hoperations operation (hm operation heq)

/-- **Every operation that leaves a sender worker**, also a reset. -/
theorem crewed_perform (source : Option SimulationAttemptOutcomeSource) {operation : Operation}
    (hvalid : operation.Valid) (h : sim.Crewed) : (sim.perform source operation).Crewed := by
  by_cases hreset : operation = .reset
  · rw [hreset]
    exact crewed_of_created h.configured rfl rfl
  · have hsingle : ∀ other ∈ [operation], other.Valid ∧ other ≠ .reset := by
      intro other hother
      rw [List.mem_singleton.mp hother]
      exact ⟨hvalid, hreset⟩
    exact h.leads (leads_scales source sim hsingle)

/-- **The workers as they should be**: as many stay as are configured, those that go are the
last, each has the place its number says, and the one that is asked next is one of them. -/
structure Scaled (sim : FixedStepSimulation) : Prop where
  staying : (sim.workers.countP fun worker => !worker.retiring) = sim.config.senderWorkers
  suffix : ∃ staying going, sim.workers = staying ++ going ∧
    (∀ worker ∈ staying, worker.retiring = false) ∧ ∀ worker ∈ going, worker.retiring = true
  ordinals : ∀ (i : ℕ) (worker : SenderWorker), sim.workers[i]? = some worker → worker.workerId = i
  pointed : ∃ next, sim.nextWorkerIndex = some next ∧ next < sim.workers.length

theorem Crewed.scaled (h : sim.Crewed) : sim.Scaled := by
  obtain ⟨staying, going, hworkers, hlength, hstays, hgoes⟩ := h.split
  refine ⟨?_, ⟨staying, going, hworkers, hstays, hgoes⟩, ?_, h.pointed⟩
  · rw [List.countP_eq_length_filter, h.filter, List.length_take_of_le h.le_length]
  · intro i worker hworker
    have hid : (sim.workers.map (·.workerId))[i]? = some worker.workerId := by
      rw [List.getElem?_map, hworker]
      rfl
    rw [h.ordinals, List.getElem?_range (List.getElem?_eq_some_iff.mp hworker).1] at hid
    exact (Option.some.inj hid).symm

/-- **At every moment** the workers are as they should be, and no move takes work from them. -/
theorem along_keeps {as : List Move} (h : sim.Crewed) (hrun : (moves source).Run sim as)
    (hscales : ∀ m ∈ as, m.Scales) :
    (moves source).Always Scaled sim as ∧
      (moves source).Along (fun s m => s.Keeps (m.apply source s)) sim as := by
  induction as generalizing sim with
  | nil => exact ⟨h.scaled, trivial⟩
  | cons m as ih =>
    obtain ⟨hcrewed, hkeeps⟩ := crewed_apply source h hrun.1 (hscales m List.mem_cons_self)
    obtain ⟨halways, halong⟩ :=
      ih hcrewed hrun.2 fun m hm => hscales m (List.mem_cons_of_mem _ hm)
    exact ⟨⟨h.scaled, halways⟩, hkeeps, halong⟩

/-- **A worker keeps its batch** as long as no move finishes it. -/
theorem holds_of_along {as : List Move} (h : sim.Crewed) (hrun : (moves source).Run sim as)
    (hscales : ∀ m ∈ as, m.Scales) (hworker : sim.workers[i]? = some worker)
    (hbatch : worker.batch = some batch) (hunfinished : (moves source).Along
      (fun s m => ¬s.Finishes (m.apply source s) batch) sim as) :
    ∃ worker', ((moves source).after sim as).workers[i]? = some worker' ∧
      worker'.batch = some batch := by
  induction as generalizing sim worker with
  | nil => exact ⟨worker, hworker, hbatch⟩
  | cons m as ih =>
    obtain ⟨hcrewed, hkeeps⟩ := crewed_apply source h hrun.1 (hscales m List.mem_cons_self)
    have hthere := hkeeps.stays i worker hworker (hbatch ▸ Option.some_ne_none batch)
    obtain ⟨worker', hworker'⟩ := Option.ne_none_iff_exists'.mp hthere
    rcases (hkeeps.carries i worker worker' hworker hworker').holds batch hbatch with
      hheld | ⟨-, hfinished⟩
    · exact ih hcrewed hrun.2 (fun m hm => hscales m (List.mem_cons_of_mem _ hm)) hworker' hheld
        hunfinished.2
    · exact absurd hfinished hunfinished.1

/-- **Work is never stranded.** Whatever is done with a simulation that has a sender worker and
is left one, its workers are as they should be. From there on, and at every moment of every
step, they stay so; no worker that has a batch goes; it has the batch afterwards, unless that
is delivered or given up; and a worker that is to go is given none. -/
theorem never_strands_work (source : Option SimulationAttemptOutcomeSource)
    (config : SimulationConfig) (readerCapacity senderCapacity : ℕ)
    (hworkers : 0 < config.senderWorkers) (operations : List Operation)
    (hrun : (machine source Operation.Valid).Run
      (createSimulation config readerCapacity senderCapacity) operations) :
    let sim := (machine source Operation.Valid).after
      (createSimulation config readerCapacity senderCapacity) operations
    sim.Scaled ∧
    (∀ later, (∀ operation ∈ later, operation.Valid ∧ operation ≠ .reset) →
      (moves source).Leads Move.Scales sim ((machine source Operation.Valid).after sim later)) ∧
    ∀ as, (moves source).Run sim as → (∀ m ∈ as, m.Scales) →
      (moves source).Always Scaled sim as ∧
      (moves source).Along (fun s m => s.Keeps (m.apply source s)) sim as ∧
      ∀ (i : ℕ) (worker : SenderWorker) (batch : SimulationBatch), sim.workers[i]? = some worker →
        worker.batch = some batch → (moves source).Along
          (fun s m => ¬s.Finishes (m.apply source s) batch) sim as →
        ∃ worker', ((moves source).after sim as).workers[i]? = some worker' ∧
          worker'.batch = some batch := by
  intro sim
  have hstart : (createSimulation config readerCapacity senderCapacity).Crewed :=
    crewed_of_created hworkers rfl rfl
  have hcrewed : sim.Crewed := Machine.invariant_of_run (I := Crewed)
    (fun _ _ hs hvalid => crewed_perform source hvalid hs) hstart hrun
  refine ⟨hcrewed.scaled, fun later hlater => leads_scales source sim hlater, ?_⟩
  intro as hmoves hscales
  obtain ⟨halways, halong⟩ := along_keeps hcrewed hmoves hscales
  exact ⟨halways, halong, fun i worker batch => holds_of_along hcrewed hmoves hscales⟩

/-- Three steps, and then one of two workers is to go. -/
def retiringRun : List Operation :=
  [.advanceStep, .advanceStep, .advanceStep, .updateConfig { senderWorkers := some 1 }]

/-- The worker that is to go waits for its next attempt, and stays through the first phases
of the next step, in which the other worker becomes idle. -/
theorem never_strands_work_retiringRun :
    let sim := (machine none Operation.Valid).after (createSimulation shrinkingConfig 2 1) retiringRun
    let phases := [Move.startStep, .complete 0, .complete 1, .retry 0, .retry 1, .finalize]
    sim.Scaled ∧ (sim.workers.map fun worker => (worker.retiring, worker.batch.map (·.sequence))) =
      [(false, some 2), (true, some 1)] ∧
    (moves none).Always Scaled sim phases ∧
    (moves none).Along (fun s m => s.Keeps (m.apply none s)) sim phases ∧
    ((((moves none).after sim phases).workers.map fun worker =>
      (worker.retiring, worker.batch.map (·.sequence))) = [(false, none), (true, some 1)]) := by
  have hvalid : ∀ n ∈ some 1, 0 < n := fun n hn => by
    rw [← Option.some.inj hn]
    decide
  obtain ⟨hscaled, -, hmoves⟩ := never_strands_work none shrinkingConfig 2 1 (by decide) retiringRun
    ⟨trivial, trivial, trivial, hvalid, trivial⟩
  have hscales : ∀ m ∈ [Move.startStep, .complete 0, .complete 1, .retry 0, .retry 1, .finalize],
      m.Scales := by
    intro m hm operation heq
    simp only [List.mem_cons, List.not_mem_nil, or_false] at hm
    rcases hm with rfl | rfl | rfl | rfl | rfl | rfl <;> exact absurd heq nofun
  obtain ⟨halways, halong, -⟩ := hmoves
    [Move.startStep, .complete 0, .complete 1, .retry 0, .retry 1, .finalize]
    ⟨trivial, trivial, trivial, trivial, trivial, trivial, trivial⟩ hscales
  exact ⟨hscaled, by decide +kernel, halways, halong, by decide +kernel⟩

end FixedStepSimulation

end IngestionLab.Frontend
