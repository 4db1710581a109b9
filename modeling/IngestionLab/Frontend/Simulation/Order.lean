import IngestionLab.Frontend.Simulation.Moves

/-!
# The simulated pipeline is first-in first-out

A batch comes to a worker by one of four routes: through both channels, handed off on
either, or held by the throttler in between. Whatever the route, what has been made and
has not come to a worker stands in one queue – the sender channel, the throttler, the
reader channel – in the order in which it was made
(`IngestionLab.Frontend.FixedStepSimulation.InOrder`): a hand-off finds nothing before it,
because a channel of capacity zero is empty.

* `IngestionLab.Frontend.FixedStepSimulation.first_in_first_out`: batches are first
  attempted in the order `0, 1, 2, …`, and no channel is ever fuller than its applied
  capacity.
-/

namespace IngestionLab.Frontend

open Tally

/-- The number of the batch whose first attempt the event is. -/
def SenderEvent.firstAttempt : SenderEvent → Option ℕ
  | .started batch attempt => if attempt = 1 then some batch.sequence else none
  | _ => none

/-- **The numbers of the batches in the order of their first attempts.** -/
def firstAttempts (log : List SenderEvent) : List ℕ := (log.filterMap SenderEvent.firstAttempt).reverse

/-- The worker has made an attempt at what it has. -/
def SenderWorker.Begun (worker : SenderWorker) : Prop :=
  match worker.state with
  | .idle => True
  | .inFlight flight => 1 ≤ flight.attempt
  | .backoff wait => 1 ≤ wait.attempt

/-- The channel is not fuller than its applied capacity. -/
def StatefulChannel.Fits (channel : StatefulChannel SimulationBatch) : Prop :=
  channel.depthBatches ≤ channel.appliedCapacity

theorem firstAttempts_started (batch : SimulationBatch) (log : List SenderEvent) :
    firstAttempts (.started batch 1 :: log) = firstAttempts log ++ [batch.sequence] := by
  have hfirst : SenderEvent.firstAttempt (.started batch 1) = some batch.sequence := by
    rw [SenderEvent.firstAttempt, if_pos rfl]
  rw [firstAttempts, List.filterMap_cons_some hfirst, List.reverse_cons]
  rfl

theorem firstAttempts_cons {event : SenderEvent} (h : event.firstAttempt = none)
    (log : List SenderEvent) : firstAttempts (event :: log) = firstAttempts log := by
  rw [firstAttempts, List.filterMap_cons_none h]
  rfl

namespace StatefulChannel

variable {channel : StatefulChannel SimulationBatch} {batch : SimulationBatch}
  {items : List SimulationBatch}

theorem Fits.send (h : channel.admits = true) :
    (channel.send SimulationBatch.transactions batch).Fits := by
  obtain ⟨-, hdepth⟩ := of_decide_eq_true h
  show (channel.items ++ [batch]).length ≤ channel.appliedCapacity
  rw [List.length_append, List.length_singleton]
  exact hdepth

theorem fits_applyPendingCapacity (h : channel.Fits) : channel.applyPendingCapacity.Fits := by
  rw [applyPendingCapacity]
  split
  · exact h
  · split
    · assumption
    · exact h

theorem Fits.receive (h : channel.Fits) (hitems : channel.items = batch :: items) :
    (channel.receive SimulationBatch.transactions).1.Fits := by
  rw [StatefulChannel.receive, hitems]
  refine fits_applyPendingCapacity ?_
  rw [Fits, depthBatches, hitems, List.length_cons] at h
  exact Nat.le_of_succ_le h

theorem Fits.requestCapacity (h : channel.Fits) (capacity : ℕ) :
    (channel.requestCapacity capacity).1.Fits := by
  rw [StatefulChannel.requestCapacity]
  split
  · exact h
  split
  · assumption
  · exact h

theorem Fits.observeBlocked (h : channel.Fits) (blocked progressed : Bool) :
    (channel.observeBlocked blocked progressed).Fits := by
  obtain ⟨_, _, _, heq⟩ :=
    FixedStepSimulation.exists_observeBlocked_eq channel blocked progressed
  rw [heq]
  exact h

/-- A channel of capacity zero is empty. -/
theorem Fits.items_eq_nil (h : channel.Fits) (hzero : channel.appliedCapacity = 0) :
    channel.items = [] := by
  rw [Fits, hzero, depthBatches] at h
  exact List.length_eq_zero_iff.mp (Nat.le_zero.mp h)

theorem items_receive (hitems : channel.items = batch :: items) :
    (channel.receive SimulationBatch.transactions).1.items = items := by
  obtain ⟨_, _, _, heq, -⟩ := exists_receive_eq hitems
  rw [heq]

end StatefulChannel

namespace FixedStepSimulation

variable {source : Option SimulationAttemptOutcomeSource} {sim sim' : FixedStepSimulation}

/-- **What has been made and has not come to a worker**, the oldest first. -/
def queue (sim : FixedStepSimulation) : List ℕ :=
  (sim.senderChannel.items ++ sim.pendingThrottledBatch.toList ++ sim.readerChannel.items).map
    SimulationBatch.sequence

/-- **First in, first out**: what has been attempted and what waits are, in this order, all
that has been made. Without an index of a worker nothing comes to a worker any more, and
nothing is said of what waits. -/
structure InOrder (sim : FixedStepSimulation) : Prop where
  first : ∃ n, firstAttempts sim.log = List.range n
  queued : sim.nextWorkerIndex ≠ none →
    firstAttempts sim.log ++ sim.queue = List.range sim.nextBatchSequence
  begun : ∀ worker ∈ sim.workers, worker.Begun
  readerFits : sim.readerChannel.Fits
  senderFits : sim.senderChannel.Fits

theorem inOrder_createSimulation (config : SimulationConfig) (readerCapacity senderCapacity : ℕ) :
    (createSimulation config readerCapacity senderCapacity).InOrder := by
  refine ⟨⟨0, rfl⟩, fun _ => rfl, fun worker hworker => ?_, Nat.zero_le _, Nat.zero_le _⟩
  obtain ⟨i, -, rfl⟩ := List.mem_map.mp hworker
  trivial

namespace InOrder

/-- What has been attempted is an initial part of what has been made. -/
theorem first_of_queued {log : List SenderEvent} {waiting : List ℕ} {made : ℕ}
    (h : firstAttempts log ++ waiting = List.range made) :
    ∃ n, firstAttempts log = List.range n := by
  refine ⟨(firstAttempts log).length, ?_⟩
  have hle : (firstAttempts log).length ≤ made := by
    have hlength := congrArg List.length h
    rw [List.length_append, List.length_range] at hlength
    omega
  have htake := congrArg (List.take (firstAttempts log).length) h
  rw [List.take_left, List.take_range, Nat.min_eq_left hle] at htake
  exact htake

/-- A worker is given something it has begun, or nothing. -/
theorem begun_modify (h : sim.InOrder) {i : ℕ} {f : SenderWorker → SenderWorker}
    (hf : ∀ worker, (f worker).Begun) : ∀ worker ∈ sim.workers.modify i f, worker.Begun := by
  intro worker hworker
  rcases mem_modify hworker with ⟨old, -, rfl⟩ | ⟨j, -, hj⟩
  · exact hf old
  · exact h.begun worker (List.mem_of_getElem? hj)

/-- **A first attempt is made at the oldest batch that waits.** -/
theorem startFirst (source : Option SimulationAttemptOutcomeSource) (h : sim.InOrder)
    (sim' : FixedStepSimulation) (next i : ℕ) {batch : SimulationBatch} (hindex : sim.nextWorkerIndex ≠ none) (hworkers : sim'.workers = sim.workers)
    (hlog : sim'.log = sim.log) (hmade : sim'.nextBatchSequence = sim.nextBatchSequence)
    (hqueue : sim.queue = batch.sequence :: sim'.queue) (hreader : sim'.readerChannel.Fits)
    (hsender : sim'.senderChannel.Fits) :
    (startAttempt source { sim' with nextWorkerIndex := some next } i batch 1 false).InOrder := by
  have hqueued := h.queued hindex
  rw [hqueue, List.append_cons, ← firstAttempts_started, ← hlog, ← hmade] at hqueued
  obtain ⟨_, _, _, _, flight, heq, hbatch, hattempt⟩ := exists_startAttempt_eq source
    { sim' with nextWorkerIndex := some next } i batch 1 false
  rw [heq]
  refine ⟨first_of_queued hqueued, fun _ => hqueued, ?_, hreader, hsender⟩
  show ∀ worker ∈ sim'.workers.modify i _, worker.Begun
  rw [hworkers]
  exact h.begun_modify fun worker => hattempt.ge

/-- What does not matter to the order. -/
theorem of_eq (h : sim.InOrder) (hlog : sim'.log = sim.log) (hworkers : sim'.workers = sim.workers)
    (hindex : sim'.nextWorkerIndex = sim.nextWorkerIndex)
    (hmade : sim'.nextBatchSequence = sim.nextBatchSequence) (hqueue : sim'.queue = sim.queue)
    (hreader : sim'.readerChannel.Fits) (hsender : sim'.senderChannel.Fits) : sim'.InOrder :=
  ⟨hlog ▸ h.first, by rw [hindex, hlog, hqueue, hmade]; exact h.queued,
    by rw [hworkers]; exact h.begun, hreader, hsender⟩

/-- **What is made waits last.** -/
theorem make (h : sim.InOrder) (hlog : sim'.log = sim.log) (hworkers : sim'.workers = sim.workers)
    (hindex : sim'.nextWorkerIndex = sim.nextWorkerIndex)
    (hmade : sim'.nextBatchSequence = sim.nextBatchSequence + 1)
    (hqueue : sim'.queue = sim.queue ++ [sim.nextBatchSequence])
    (hreader : sim'.readerChannel.Fits) (hsender : sim'.senderChannel.Fits) : sim'.InOrder := by
  refine ⟨hlog ▸ h.first, fun hsome => ?_, by rw [hworkers]; exact h.begun, hreader, hsender⟩
  rw [hlog, hqueue, ← List.append_assoc, h.queued (hindex ▸ hsome), hmade, List.range_succ]

theorem completeDue (h : sim.InOrder) (index : ℕ) : (sim.completeDue index).InOrder := by
  rw [FixedStepSimulation.completeDue]
  split
  · next flight hflight =>
    obtain ⟨worker, hworker, hstate⟩ := Option.map_eq_some_iff.mp hflight
    have hbegun := h.begun worker (List.mem_of_getElem? hworker)
    rw [SenderWorker.Begun, hstate] at hbegun
    split
    · exact h
    · have hcompletion := completion_completeAttempt sim index flight
      generalize sim.completeAttempt index flight = sim' at hcompletion
      cases hcompletion with
      | delivered totals activity ht =>
        exact ⟨h.first, h.queued, h.begun_modify fun _ => trivial, h.readerFits, h.senderFits⟩
      | retried totals activity wait ht hlimit hbatch hattempt =>
        have hwait : 1 ≤ wait.attempt := hattempt.symm ▸ hbegun
        exact ⟨h.first, h.queued, h.begun_modify fun _ => hwait, h.readerFits, h.senderFits⟩
      | failed totals activity ht =>
        exact ⟨h.first, h.queued, h.begun_modify fun _ => trivial, h.readerFits, h.senderFits⟩
  · exact h

/-- A later attempt at a batch is not its first. -/
theorem startDue (h : sim.InOrder) (index : ℕ) : (sim.startDue source index).InOrder := by
  rw [FixedStepSimulation.startDue]
  split
  · next wait hwait =>
    obtain ⟨worker, hworker, hstate⟩ := Option.map_eq_some_iff.mp hwait
    have hbegun := h.begun worker (List.mem_of_getElem? hworker)
    rw [SenderWorker.Begun, hstate] at hbegun
    split
    · exact h
    · obtain ⟨_, _, _, _, flight, heq, -, hattempt⟩ := exists_startAttempt_eq source sim index
        wait.batch (wait.attempt + 1) wait.hadAmbiguousOutcome
      have hlater : SenderEvent.firstAttempt (.started wait.batch (wait.attempt + 1)) = none :=
        if_neg (by omega)
      have hlog := firstAttempts_cons hlater sim.log
      rw [heq]
      refine ⟨hlog ▸ h.first, fun hindex => ?_,
        h.begun_modify fun _ => show 1 ≤ flight.attempt by omega, h.readerFits, h.senderFits⟩
      rw [hlog]
      exact h.queued hindex
  · exact h

/-- Changing who works changes nothing but the workers, and the index of the next one. -/
theorem setWorkers (h : sim.InOrder) {workers : List SenderWorker} {index : Option ℕ}
    (hworkers : ∀ worker ∈ workers, worker.Begun) (hindex : index ≠ none → sim.nextWorkerIndex ≠ none) :
    InOrder { sim with workers := workers, nextWorkerIndex := index } :=
  ⟨h.first, fun hsome => h.queued (hindex hsome), hworkers, h.readerFits, h.senderFits⟩

theorem finalizeSenderScaleDown (h : sim.InOrder) : sim.finalizeSenderScaleDown.InOrder := by
  rw [FixedStepSimulation.finalizeSenderScaleDown]
  split
  · exact h
  · refine h.setWorkers (fun worker hworker => h.begun worker (List.mem_filter.mp hworker).1) ?_
    rintro hsome hnone
    rw [hnone] at hsome
    exact hsome rfl

theorem requestSenderWorkerCount (h : sim.InOrder) (requested : ℕ) :
    (sim.requestSenderWorkerCount requested).InOrder := by
  have hretiring (retiring : Bool) : ∀ worker ∈ sim.workers.map ({ · with retiring := retiring }),
      worker.Begun := by
    intro worker hworker
    obtain ⟨old, hold, rfl⟩ := List.mem_map.mp hworker
    exact h.begun old hold
  rw [FixedStepSimulation.requestSenderWorkerCount]
  dsimp only
  split
  · refine h.setWorkers (fun worker hworker => ?_) id
    rcases List.mem_append.mp hworker with hold | hnew
    · exact hretiring false worker hold
    · obtain ⟨i, -, rfl⟩ := List.mem_map.mp hnew
      trivial
  split
  · exact h.setWorkers (hretiring false) id
  · refine finalizeSenderScaleDown (h.setWorkers (fun worker hworker => ?_) id)
    rcases List.mem_append.mp hworker with hstays | hgoes
    · exact hretiring false worker (List.mem_of_mem_take hstays)
    · obtain ⟨old, hold, rfl⟩ := List.mem_map.mp hgoes
      exact hretiring false old (List.mem_of_mem_drop hold)

theorem updateConfig (h : sim.InOrder) (values : PartialConfig) :
    (sim.updateConfig values).InOrder := by
  have hconfig : InOrder { sim with config := assignConfig sim.config values } :=
    ⟨h.first, h.queued, h.begun, h.readerFits, h.senderFits⟩
  rw [FixedStepSimulation.updateConfig]
  generalize { sim with config := assignConfig sim.config values } = s at hconfig
  have hworkers : InOrder (values.senderWorkers.elim s s.requestSenderWorkerCount) := by
    cases values.senderWorkers with
    | none => exact hconfig
    | some requested => exact hconfig.requestSenderWorkerCount requested
  exact ⟨hworkers.first, hworkers.queued, hworkers.begun, hworkers.readerFits, hworkers.senderFits⟩

theorem perform (h : sim.InOrder) {operation : Operation} (hone : operation ≠ .advanceStep) :
    (sim.perform source operation).InOrder := by
  cases operation with
  | advanceStep => exact absurd rfl hone
  | updateConfig values => exact h.updateConfig values
  | requestChannelCapacity channel capacity =>
    cases channel with
    | readerToThrottler =>
      have hfits := h.readerFits.requestCapacity capacity
      obtain ⟨_, _, _, heq⟩ := exists_requestCapacity_eq sim.readerChannel capacity
      rw [FixedStepSimulation.perform, requestChannelCapacity]
      dsimp only
      rw [heq] at hfits ⊢
      exact h.of_eq rfl rfl rfl rfl rfl hfits h.senderFits
    | throttlerToSender =>
      have hfits := h.senderFits.requestCapacity capacity
      obtain ⟨_, _, _, heq⟩ := exists_requestCapacity_eq sim.senderChannel capacity
      rw [FixedStepSimulation.perform, requestChannelCapacity]
      dsimp only
      rw [heq] at hfits ⊢
      exact h.of_eq rfl rfl rfl rfl rfl h.readerFits hfits
  | clearInstantaneousTelemetry => exact h.of_eq rfl rfl rfl rfl rfl h.readerFits h.senderFits
  | telemetry running => exact h
  | reset =>
    have hfresh := inOrder_createSimulation sim.config 0 0
    exact hfresh.of_eq rfl rfl rfl rfl rfl (Nat.zero_le _) (Nat.zero_le _)

/-- **Every move keeps the order**, and neither channel becomes fuller than its applied
capacity. -/
theorem apply (h : sim.InOrder) {m : Move} (hm : m.Enabled sim) : (m.apply source sim).InOrder := by
  cases m with
  | startStep => exact h.of_eq rfl rfl rfl rfl rfl h.readerFits h.senderFits
  | complete index => exact h.completeDue index
  | retry index => exact h.startDue index
  | finalize => exact h.finalizeSenderScaleDown
  | refill =>
    rw [Move.apply, refillThrottlerTokens]
    split
    · exact h.of_eq rfl rfl rfl rfl rfl h.readerFits h.senderFits
    · exact h.of_eq rfl rfl rfl rfl rfl h.readerFits h.senderFits
  | deliver next index batch =>
    obtain ⟨⟨hindex, -, -⟩, hhead⟩ := hm
    obtain ⟨items, hitems⟩ : ∃ items, sim.senderChannel.items = batch :: items :=
      List.head?_eq_some_iff.mp hhead
    refine h.startFirst source (sim.onSenderChannel
      (sim.senderChannel.receive SimulationBatch.transactions).1 (·.output batch)) next index hindex
      rfl rfl rfl ?_ h.readerFits (h.senderFits.receive hitems)
    rw [queue, queue, hitems]
    exact congrArg (fun items => batch.sequence :: List.map SimulationBatch.sequence
      (items ++ sim.pendingThrottledBatch.toList ++ sim.readerChannel.items))
      (StatefulChannel.items_receive hitems).symm
  | handoffSender next index batch =>
    obtain ⟨⟨hindex, -, -⟩, hpending, hzero⟩ := hm
    have hempty := h.senderFits.items_eq_nil hzero
    have hqueue : sim.queue = batch.sequence :: (sim.holding none).queue := by
      rw [queue, queue, hpending]
      show _ = batch.sequence :: (sim.senderChannel.items ++ [] ++ _).map _
      rw [hempty]
      rfl
    have hstart := h.startFirst source ((sim.onSenderChannel
      (sim.senderChannel.handoff SimulationBatch.transactions batch) (·.handoff batch)).holding none)
      next index hindex rfl rfl rfl hqueue h.readerFits h.senderFits
    have hsame := startAttempt_holding source (onSenderChannel
      { sim with nextWorkerIndex := some next }
      (sim.senderChannel.handoff SimulationBatch.transactions batch) (·.handoff batch))
      none index batch 1 false
    exact Eq.mp (congrArg InOrder hsame) hstart
  | offerSender batch =>
    obtain ⟨hpending, -⟩ := hm
    rw [Move.apply]
    split
    · next hadmits =>
      refine h.of_eq rfl rfl rfl rfl ?_ h.readerFits (.send hadmits)
      rw [queue, queue, hpending]
      show ((sim.senderChannel.items ++ [batch]) ++ [] ++ sim.readerChannel.items).map _ = _
      rw [List.append_nil]
      rfl
    · exact h
  | receiveReader batch =>
    obtain ⟨hpending, hhead, -⟩ := hm
    obtain ⟨items, hitems⟩ := List.head?_eq_some_iff.mp hhead
    refine h.of_eq rfl rfl rfl rfl ?_ (h.readerFits.receive hitems) h.senderFits
    have hrest := StatefulChannel.items_receive hitems
    show (sim.senderChannel.items ++ [batch] ++
      (sim.readerChannel.receive SimulationBatch.transactions).1.items).map _ = _
    rw [queue, hpending, hitems, hrest]
    simp
  | earn => exact h.of_eq rfl rfl rfl rfl rfl h.readerFits h.senderFits
  | handoffReader =>
    obtain ⟨-, hzero, hpending, -⟩ := hm
    have hempty := h.readerFits.items_eq_nil hzero
    refine h.make rfl rfl rfl rfl ?_ h.readerFits h.senderFits
    rw [queue, queue, hpending, hempty]
    show (sim.senderChannel.items ++ [_] ++ sim.readerChannel.items).map _ = _
    rw [hempty]
    simp
  | offerReader =>
    rw [Move.apply]
    split
    · exact h
    · next hroom =>
      refine h.make rfl rfl rfl rfl ?_ (.send (decide_eq_true ⟨hm.2, not_le.mp hroom⟩)) h.senderFits
      show (sim.senderChannel.items ++ sim.pendingThrottledBatch.toList ++
        (sim.readerChannel.items ++ [_])).map _ = _
      rw [← List.append_assoc, List.map_append]
      rfl
  | endStep readerChannelBlocked senderChannelBlocked limited =>
    refine h.of_eq rfl rfl rfl rfl ?_ (h.readerFits.observeBlocked _ _)
      (h.senderFits.observeBlocked _ _)
    have hitems (channel : StatefulChannel SimulationBatch) (blocked progressed : Bool) :
        (channel.observeBlocked blocked progressed).items = channel.items := by
      cases blocked <;> rfl
    rw [queue, queue]
    exact congrArg₂ (fun sender reader => List.map SimulationBatch.sequence
      (sender ++ sim.pendingThrottledBatch.toList ++ reader)) (hitems ..) (hitems ..)
  | strand batch =>
    exact ⟨h.first, fun hindex => absurd hm hindex, h.begun, h.readerFits, h.senderFits⟩
  | operate operation => exact h.perform hm

end InOrder

/-! ### The main result -/

/-- **The simulated pipeline is first-in first-out.** Along any operations, batches are
first attempted in the order `0, 1, 2, …`. The operations are a run of moves; along every
run of moves, between any two of them, no channel is fuller than its applied capacity and
the first attempts have been made in this order. -/
theorem first_in_first_out (source : Option SimulationAttemptOutcomeSource)
    (config : SimulationConfig) (readerCapacity senderCapacity : ℕ) :
    let start := createSimulation config readerCapacity senderCapacity
    (∀ operations, (∃ n, firstAttempts
        ((machine source fun _ => True).after start operations).log = List.range n) ∧
      (moves source).Reachable start ((machine source fun _ => True).after start operations)) ∧
    ∀ ms, (moves source).Run start ms → (moves source).Always (fun s =>
      (∃ n, firstAttempts s.log = List.range n) ∧
        s.readerChannel.depthBatches ≤ s.readerChannel.appliedCapacity ∧
          s.senderChannel.depthBatches ≤ s.senderChannel.appliedCapacity) start ms := by
  have hstart := inOrder_createSimulation config readerCapacity senderCapacity
  have hkeep (s : FixedStepSimulation) (m : Move) (hs : s.InOrder) (hm : m.Enabled s) :
      (m.apply source s).InOrder := hs.apply hm
  refine ⟨fun operations => ?_, fun ms hrun => ?_⟩
  · have hreach := (leads_after source (fun _ => True)
      (createSimulation config readerCapacity senderCapacity) operations).reachable
    exact ⟨(hreach.invariant hkeep hstart).first, hreach⟩
  · exact (Machine.always_of_run hkeep hstart hrun).mono
      fun _ hs => ⟨hs.first, hs.readerFits, hs.senderFits⟩

/-- Steps between which either capacity changes, to and from zero. -/
def resizingRun : List Operation :=
  [.advanceStep, .requestChannelCapacity .readerToThrottler 2, .advanceStep,
    .requestChannelCapacity .throttlerToSender 3, .advanceStep,
    .requestChannelCapacity .readerToThrottler 0, .advanceStep,
    .requestChannelCapacity .throttlerToSender 0, .advanceStep]

/-- Four first attempts have been made; with two moves of another simulation a batch is made
and sent. -/
theorem first_in_first_out_resizingRun :
    (∃ n, firstAttempts ((machine none fun _ => True).after
      (createSimulation shrinkingConfig 0 0) resizingRun).log = List.range n) ∧
    firstAttempts ((machine none fun _ => True).after
      (createSimulation shrinkingConfig 0 0) resizingRun).log = [0, 1, 2, 3] ∧
    (moves none).Always (fun s =>
      (∃ n, firstAttempts s.log = List.range n) ∧
        s.readerChannel.depthBatches ≤ s.readerChannel.appliedCapacity ∧
          s.senderChannel.depthBatches ≤ s.senderChannel.appliedCapacity)
      (createSimulation shrinkingConfig 2 1) [.earn, .offerReader] := by
  have henabled : Move.offerReader.Enabled
      ((moves none).next (createSimulation shrinkingConfig 2 1) .earn) :=
    ⟨by decide +kernel, by decide⟩
  exact ⟨((first_in_first_out none shrinkingConfig 0 0).1 resizingRun).1, by decide +kernel,
    (first_in_first_out none shrinkingConfig 2 1).2 [.earn, .offerReader]
      ⟨trivial, henabled, trivial⟩⟩

end FixedStepSimulation

end IngestionLab.Frontend
