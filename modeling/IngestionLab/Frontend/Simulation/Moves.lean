import IngestionLab.Frontend.Simulation.Conservation

/-!
# The simulation, one move at a time

What a step of the simulation does, taken apart: a batch goes from one place to the next,
an attempt ends or is repeated, tokens or credit come in
(`IngestionLab.Frontend.FixedStepSimulation.Move`). Each move reads and changes a channel
at most once, so the states between the moves are the moments at which a channel can be
looked at.

`IngestionLab.Frontend.FixedStepSimulation.leads_advanceStep` says that a step is a run of
such moves, in which tokens come in once; what every move keeps, every operation keeps
therefore (`IngestionLab.Frontend.FixedStepSimulation.leads_perform`).
-/

namespace IngestionLab.Frontend

open Throwing

namespace FixedStepSimulation

variable {source : Option SimulationAttemptOutcomeSource} {sim sim' : FixedStepSimulation}
  {batch : SimulationBatch} {next index : ℕ}

/-! ### The moves -/

/-- **A move.** A worker is chosen together with the batch it is given; a batch is offered
to a channel whether or not there is room for it. -/
inductive Move
  | startStep
  | complete (index : ℕ)
  | retry (index : ℕ)
  | finalize
  | refill
  | deliver (next index : ℕ) (batch : SimulationBatch)
  | handoffSender (next index : ℕ) (batch : SimulationBatch)
  | offerSender (batch : SimulationBatch)
  | receiveReader (batch : SimulationBatch)
  | earn
  | handoffReader
  | offerReader
  | endStep (readerChannelBlocked senderChannelBlocked limited : Bool)
  | strand (batch : SimulationBatch)
  | operate (operation : Operation)

/-- A worker that is idle and stays may be chosen, and one that exists is asked next. -/
def Chooses (sim : FixedStepSimulation) (next index : ℕ) : Prop :=
  sim.nextWorkerIndex ≠ none ∧ next < sim.workers.length ∧ sim.isAvailable index = true

/-- The throttler has tokens for a number of transactions. -/
def affords (sim : FixedStepSimulation) (transactions : ℕ) : Prop :=
  sim.config.throttlerInstalled = true → (transactions : ℚ) ≤ sim.throttlerTokens

/-- The tokens that are left after a number of transactions. -/
def tokensAfter (sim : FixedStepSimulation) (transactions : ℕ) : ℚ :=
  if sim.config.throttlerInstalled then sim.throttlerTokens - transactions else sim.throttlerTokens

/-- **When a move may be made.** -/
def Move.Enabled (sim : FixedStepSimulation) : Move → Prop
  | .deliver next index batch =>
    sim.Chooses next index ∧ sim.senderChannel.items.head? = some batch
  | .handoffSender next index batch =>
    sim.Chooses next index ∧ sim.pendingThrottledBatch = some batch ∧
      sim.senderChannel.appliedCapacity = 0
  | .offerSender batch =>
    sim.pendingThrottledBatch = some batch ∧ sim.senderChannel.appliedCapacity ≠ 0
  | .receiveReader batch =>
    sim.pendingThrottledBatch = none ∧ sim.readerChannel.items.head? = some batch ∧
      sim.affords batch.transactions
  | .handoffReader =>
    (sim.config.readBatchSize : ℚ) ≤ sim.readerTransactionCredit ∧
      sim.readerChannel.appliedCapacity = 0 ∧ sim.pendingThrottledBatch = none ∧
        sim.affords sim.config.readBatchSize
  | .offerReader =>
    (sim.config.readBatchSize : ℚ) ≤ sim.readerTransactionCredit ∧
      sim.readerChannel.appliedCapacity ≠ 0
  | .strand _ => sim.nextWorkerIndex = none
  | .operate operation => operation ≠ .advanceStep
  | _ => True

/-- **What a move does.** -/
def Move.apply (source : Option SimulationAttemptOutcomeSource) (sim : FixedStepSimulation) :
    Move → FixedStepSimulation
  | .startStep => { sim with elapsedMs := sim.elapsedMs + fixedStepMs, activity := {} }
  | .complete index => sim.completeDue index
  | .retry index => sim.startDue source index
  | .finalize => sim.finalizeSenderScaleDown
  | .refill => sim.refillThrottlerTokens
  | .deliver next index batch =>
    let channel := (sim.senderChannel.receive SimulationBatch.transactions).1
    startAttempt source
      (onSenderChannel { sim with nextWorkerIndex := some next } channel (·.output batch))
      index batch 1 false
  | .handoffSender next index batch =>
    let channel := sim.senderChannel.handoff SimulationBatch.transactions batch
    { startAttempt source
        (onSenderChannel { sim with nextWorkerIndex := some next } channel (·.handoff batch))
        index batch 1 false with
      pendingThrottledBatch := none }
  | .offerSender batch =>
    if sim.senderChannel.admits then
      { sim.onSenderChannel (sim.senderChannel.send SimulationBatch.transactions batch)
          (·.input batch) with
        pendingThrottledBatch := none }
    else sim
  | .receiveReader batch =>
    { sim.onReaderChannel (sim.readerChannel.receive SimulationBatch.transactions).1
        (·.output batch) with
      throttlerTokens := sim.tokensAfter batch.transactions
      pendingThrottledBatch := some batch }
  | .earn =>
    { sim with
      readerTransactionCredit :=
        min ((sim.config.readerWorkers * sim.config.readBatchSize : ℕ) : ℚ)
          (sim.readerTransactionCredit + sim.readerCapacityTps * fixedStepMs / 1000) }
  | .handoffReader =>
    let (made, batch) := sim.createPipelineBatch sim.config.readBatchSize
    { made.onReaderChannel (made.readerChannel.handoff SimulationBatch.transactions batch)
        (·.handoff batch) with
      throttlerTokens := sim.tokensAfter sim.config.readBatchSize
      readerTransactionCredit := sim.readerTransactionCredit - sim.config.readBatchSize
      pendingThrottledBatch := some batch }
  | .offerReader =>
    if sim.readerChannel.appliedCapacity ≤ sim.readerChannel.depthBatches then sim
    else
      let (made, batch) := sim.createPipelineBatch sim.config.readBatchSize
      { made.onReaderChannel (made.readerChannel.send SimulationBatch.transactions batch)
          (·.input batch) with
        readerTransactionCredit := sim.readerTransactionCredit - sim.config.readBatchSize }
  | .endStep readerChannelBlocked senderChannelBlocked limited =>
    let progressed (activity : ChannelActivity) : Bool :=
      0 < activity.inputBatches || 0 < activity.handoffBatches
    let activities := sim.activities ++ [sim.activity]
    { sim with
      readerChannel := sim.readerChannel.observeBlocked readerChannelBlocked
        (progressed sim.activity.readerChannel)
      senderChannel := sim.senderChannel.observeBlocked senderChannelBlocked
        (progressed sim.activity.senderChannel)
      limitedMs := if limited then sim.limitedMs + fixedStepMs else sim.limitedMs
      activity := {}
      activities := if rateWindowSteps < activities.length then activities.tail else activities }
  | .strand batch => { sim with pendingThrottledBatch := some batch }
  | .operate operation => sim.perform source operation

/-- **The moves as a machine.** -/
def moves (source : Option SimulationAttemptOutcomeSource) : Machine FixedStepSimulation Move where
  Enabled := Move.Enabled
  next := Move.apply source

/-- A move in a step at which neither time nor tokens come in. -/
def Move.Passes : Move → Prop
  | .startStep | .refill | .operate _ => False
  | _ => True

/-- A move before the tokens come in. -/
def Move.Settles : Move → Prop
  | .startStep | .complete _ | .retry _ | .finalize => True
  | _ => False

/-- A batch goes from the sender channel to a worker. -/
def Move.Delivers : Move → Prop
  | .deliver _ _ _ => True
  | _ => False

theorem Move.Delivers.passes {m : Move} (h : m.Delivers) : m.Passes := by
  cases m with
  | deliver _ _ _ => trivial
  | _ => exact h.elim

/-! ### What the moves in a step leave alone -/

/-- **Only the workers, and what is noted of their attempts, have changed.** -/
def OnlyWorkers (sim s : FixedStepSimulation) : Prop :=
  ∃ workers nextWorkerIndex totals activity log outcomeCalls failureCredit, s = { sim with
    workers := workers
    nextWorkerIndex := nextWorkerIndex
    totals := totals
    activity := activity
    log := log
    outcomeCalls := outcomeCalls
    failureCredit := failureCredit }

theorem OnlyWorkers.rfl : OnlyWorkers sim sim := ⟨_, _, _, _, _, _, _, Eq.refl _⟩

theorem OnlyWorkers.trans {s : FixedStepSimulation} (h : OnlyWorkers sim sim')
    (h' : OnlyWorkers sim' s) : OnlyWorkers sim s := by
  obtain ⟨_, _, _, _, _, _, _, rfl⟩ := h
  obtain ⟨_, _, _, _, _, _, _, rfl⟩ := h'
  exact ⟨_, _, _, _, _, _, _, Eq.refl _⟩

theorem OnlyWorkers.config (h : OnlyWorkers sim sim') : sim'.config = sim.config := by
  obtain ⟨_, _, _, _, _, _, _, rfl⟩ := h
  exact Eq.refl _

theorem OnlyWorkers.elapsedMs (h : OnlyWorkers sim sim') : sim'.elapsedMs = sim.elapsedMs := by
  obtain ⟨_, _, _, _, _, _, _, rfl⟩ := h
  exact Eq.refl _

theorem onlyWorkers_startAttempt (source : Option SimulationAttemptOutcomeSource)
    (sim : FixedStepSimulation) (i : ℕ) (batch : SimulationBatch) (attempt : ℕ) (amb : Bool) :
    OnlyWorkers sim (sim.startAttempt source i batch attempt amb) := by
  obtain ⟨_, _, _, _, _, heq, -, -⟩ := exists_startAttempt_eq source sim i batch attempt amb
  exact ⟨_, _, _, _, _, _, _, heq⟩

theorem onlyWorkers_completeDue (sim : FixedStepSimulation) (i : ℕ) :
    OnlyWorkers sim (sim.completeDue i) := by
  rw [completeDue]
  split
  · next flight hflight =>
    split
    · exact .rfl
    · have hcompletion := completion_completeAttempt sim i flight
      generalize sim.completeAttempt i flight = s at hcompletion
      cases hcompletion <;> exact ⟨_, _, _, _, _, _, _, Eq.refl _⟩
  · exact .rfl

theorem onlyWorkers_startDue (source : Option SimulationAttemptOutcomeSource)
    (sim : FixedStepSimulation) (i : ℕ) : OnlyWorkers sim (sim.startDue source i) := by
  rw [startDue]
  split
  · split
    · exact .rfl
    · exact onlyWorkers_startAttempt ..
  · exact .rfl

theorem onlyWorkers_finalizeSenderScaleDown (sim : FixedStepSimulation) :
    OnlyWorkers sim sim.finalizeSenderScaleDown := by
  rw [finalizeSenderScaleDown]
  split
  · exact .rfl
  · exact ⟨_, _, _, _, _, _, _, Eq.refl _⟩

theorem onlyWorkers_requestSenderWorkerCount (sim : FixedStepSimulation) (requested : ℕ) :
    OnlyWorkers sim (sim.requestSenderWorkerCount requested) := by
  rw [requestSenderWorkerCount]
  dsimp only
  split
  · exact ⟨_, _, _, _, _, _, _, Eq.refl _⟩
  split
  · exact ⟨_, _, _, _, _, _, _, Eq.refl _⟩
  · obtain ⟨_, _, _, _, _, _, _, heq⟩ := onlyWorkers_finalizeSenderScaleDown { sim with
      workers := (sim.workers.map fun worker => { worker with retiring := false }).take requested ++
        ((sim.workers.map fun worker => { worker with retiring := false }).drop requested).map
          fun worker => { worker with retiring := true } }
    exact ⟨_, _, _, _, _, _, _, heq⟩

theorem nextWorkerIndex_startAttempt (source : Option SimulationAttemptOutcomeSource)
    (sim : FixedStepSimulation) (i : ℕ) (batch : SimulationBatch) (attempt : ℕ) (amb : Bool) :
    (sim.startAttempt source i batch attempt amb).nextWorkerIndex = sim.nextWorkerIndex := by
  obtain ⟨_, _, _, _, _, heq, -, -⟩ := exists_startAttempt_eq source sim i batch attempt amb
  rw [heq]

/-- **Neither the configuration nor the clock changes** between the start of a step and its
end. -/
theorem config_apply {m : Move} (hm : m.Passes) :
    (m.apply source sim).config = sim.config ∧ (m.apply source sim).elapsedMs = sim.elapsedMs := by
  have hworkers {s : FixedStepSimulation} (h : OnlyWorkers sim s) :
      s.config = sim.config ∧ s.elapsedMs = sim.elapsedMs := ⟨h.config, h.elapsedMs⟩
  cases m with
  | startStep => exact hm.elim
  | complete index => exact hworkers (onlyWorkers_completeDue sim index)
  | retry index => exact hworkers (onlyWorkers_startDue source sim index)
  | finalize => exact hworkers (onlyWorkers_finalizeSenderScaleDown sim)
  | refill => exact hm.elim
  | deliver next index batch =>
    have hstart := onlyWorkers_startAttempt source
      (onSenderChannel { sim with nextWorkerIndex := some next }
        (sim.senderChannel.receive SimulationBatch.transactions).1 (·.output batch))
      index batch 1 false
    exact ⟨hstart.config, hstart.elapsedMs⟩
  | handoffSender next index batch =>
    have hstart := onlyWorkers_startAttempt source
      (onSenderChannel { sim with nextWorkerIndex := some next }
        (sim.senderChannel.handoff SimulationBatch.transactions batch) (·.handoff batch))
      index batch 1 false
    exact ⟨hstart.config, hstart.elapsedMs⟩
  | offerSender batch =>
    rw [Move.apply]
    split <;> exact ⟨rfl, rfl⟩
  | receiveReader batch => exact ⟨rfl, rfl⟩
  | earn => exact ⟨rfl, rfl⟩
  | handoffReader => exact ⟨rfl, rfl⟩
  | offerReader =>
    rw [Move.apply]
    split <;> exact ⟨rfl, rfl⟩
  | endStep _ _ _ => exact ⟨rfl, rfl⟩
  | strand batch => exact ⟨rfl, rfl⟩
  | operate operation => exact hm.elim

theorem Move.Passes.ne_operate {m : Move} (h : m.Passes) (operation : Operation) :
    m ≠ .operate operation := by
  rintro rfl
  exact h

theorem Move.Settles.ne_operate {m : Move} (h : m.Settles) (operation : Operation) :
    m ≠ .operate operation := by
  rintro rfl
  exact h

theorem config_of_leads (h : (moves source).Leads Move.Passes sim sim') :
    sim'.config = sim.config :=
  h.invariant (I := fun s => s.config = sim.config)
    (fun _ _ hs _ hm => (config_apply hm).1.trans hs) rfl

theorem elapsedMs_of_leads (h : (moves source).Leads Move.Passes sim sim') :
    sim'.elapsedMs = sim.elapsedMs :=
  h.invariant (I := fun s => s.elapsedMs = sim.elapsedMs)
    (fun _ _ hs _ hm => (config_apply hm).2.trans hs) rfl

/-- The simulation with something else held by the throttler. -/
def holding (sim : FixedStepSimulation) (pending : Option SimulationBatch) : FixedStepSimulation :=
  { sim with pendingThrottledBatch := pending }

theorem nextRequestFails_holding (sim : FixedStepSimulation) (pending : Option SimulationBatch) :
    (sim.holding pending).nextRequestFails =
      (sim.nextRequestFails.1.holding pending, sim.nextRequestFails.2) := by
  by_cases hfails : sim.failureCredit + sim.config.targetErrorRatePercent < 100
  · have hsame : (sim.holding pending).failureCredit +
        (sim.holding pending).config.targetErrorRatePercent < 100 := hfails
    simp only [nextRequestFails, if_pos hfails, if_pos hsame]
    rfl
  · have hsame : ¬(sim.holding pending).failureCredit +
        (sim.holding pending).config.targetErrorRatePercent < 100 := hfails
    simp only [nextRequestFails, if_neg hfails, if_neg hsame]
    rfl

/-- What the throttler holds does not matter to the outcome of an attempt. -/
theorem selectOutcome_holding (source : Option SimulationAttemptOutcomeSource)
    (sim : FixedStepSimulation) (pending : Option SimulationBatch)
    (context : SimulationAttemptContext) :
    (sim.holding pending).selectOutcome source context =
      ((sim.selectOutcome source context).1.holding pending,
        (sim.selectOutcome source context).2) := by
  cases source with
  | some outcomeOf => rfl
  | none =>
    by_cases htimeout : context.httpTimeoutMs < context.targetDelayMs + 5
    · simp only [selectOutcome, defaultAttemptOutcome, if_pos htimeout]
    · simp only [selectOutcome, defaultAttemptOutcome, if_neg htimeout, nextRequestFails_holding]

/-- Nor to its start. -/
theorem startAttempt_holding (source : Option SimulationAttemptOutcomeSource)
    (sim : FixedStepSimulation) (pending : Option SimulationBatch) (i : ℕ) (batch : SimulationBatch)
    (attempt : ℕ) (amb : Bool) :
    (sim.holding pending).startAttempt source i batch attempt amb =
      (sim.startAttempt source i batch attempt amb).holding pending := by
  simp only [startAttempt, selectOutcome_holding]
  rfl

/-- Nor to the batches that are given to workers. -/
theorem leads_holding (h : (moves source).Leads Move.Delivers sim sim')
    (pending : Option SimulationBatch) :
    (moves source).Leads Move.Delivers (sim.holding pending) (sim'.holding pending) := by
  refine h.invariant (I := fun s => (moves source).Leads Move.Delivers
    (sim.holding pending) (s.holding pending)) (fun s m hs hm hdelivers => ?_) (.refl _)
  cases m with
  | deliver next index batch =>
    have hsame : (moves source).next (s.holding pending) (.deliver next index batch) =
        ((moves source).next s (.deliver next index batch)).holding pending :=
      startAttempt_holding source (onSenderChannel { s with nextWorkerIndex := some next }
        (s.senderChannel.receive SimulationBatch.transactions).1 (·.output batch))
        pending index batch 1 false
    rw [← hsame]
    exact hs.trans (.single hm trivial)
  | _ => exact hdelivers.elim

/-! ### A step as a run of moves -/

/-- `nextIdleWorker` finds nobody, or chooses a worker. -/
theorem meets_nextIdleWorker_chooses (sim : FixedStepSimulation) :
    Meets sim.nextIdleWorker
      (fun r => r = (sim, none) ∨ ∃ next index, sim.Chooses next index ∧
        r = ({ sim with nextWorkerIndex := some next }, some index))
      fun s => s = sim ∧ sim.nextWorkerIndex = none := by
  rw [nextIdleWorker]
  cases hindex : sim.nextWorkerIndex with
  | none =>
    dsimp only
    split
    · exact Or.inl rfl
    · exact ⟨rfl, rfl⟩
  | some next =>
    dsimp only
    split
    · exact Or.inl rfl
    · next index hfind =>
      obtain ⟨offset, hoffset, -⟩ := List.mem_map.mp (List.mem_of_find?_eq_some hfind)
      have hpos : 0 < sim.workers.length := Nat.zero_lt_of_lt (List.mem_range.mp hoffset)
      exact Or.inr ⟨_, index, ⟨hindex ▸ Option.some_ne_none next, Nat.mod_lt _ hpos,
        List.find?_some hfind⟩, rfl⟩

/-- **What `drainSenderChannel` does**: it gives batches to workers. It throws only at once. -/
theorem leads_drainFor (source : Option SimulationAttemptOutcomeSource) (n : ℕ)
    (sim : FixedStepSimulation) :
    Meets (drainFor source n sim) ((moves source).Leads Move.Delivers sim)
      fun s => s = sim ∧ sim.nextWorkerIndex = none := by
  induction n generalizing sim with
  | zero => exact .refl sim
  | succ n ih =>
    rw [drainFor]
    by_cases hempty : sim.senderChannel.items = []
    · rw [if_pos hempty]
      exact .refl sim
    rw [if_neg hempty]
    obtain ⟨batch, items, hitems⟩ := List.exists_cons_of_ne_nil hempty
    refine (meets_nextIdleWorker_chooses sim).bind ?_
    rintro ⟨s, found⟩ (heq | ⟨next, index, hchooses, heq⟩)
    · obtain ⟨rfl, rfl⟩ := Prod.mk.inj heq
      exact .refl s
    · obtain ⟨rfl, rfl⟩ := Prod.mk.inj heq
      obtain ⟨applied, preview, pending, hreceive, -⟩ := StatefulChannel.exists_receive_eq hitems
      have hdeliver : (moves source).Leads Move.Delivers sim
          ((moves source).next sim (.deliver next index batch)) :=
        .single ⟨hchooses, by rw [hitems]; rfl⟩ trivial
      simp only [moves, Move.apply, hreceive] at hdeliver ⊢
      refine (ih _).mono (fun _ hr => hdeliver.trans hr) ?_
      rintro _ ⟨-, hnone⟩
      rw [nextWorkerIndex_startAttempt] at hnone
      exact absurd hnone (Option.some_ne_none next)

/-- **What `flushThrottledBatch` does**: if the sender channel is not blocked, the throttler
holds nothing any more. -/
theorem leads_flushThrottledBatch (source : Option SimulationAttemptOutcomeSource)
    (sim : FixedStepSimulation) :
    Meets (sim.flushThrottledBatch source)
      (fun r => (moves source).Leads Move.Passes sim r.1 ∧
        (r.2 = false → r.1.pendingThrottledBatch = none))
      ((moves source).Leads Move.Passes sim) := by
  rw [flushThrottledBatch]
  cases hpending : sim.pendingThrottledBatch with
  | none => exact ⟨.refl sim, fun _ => hpending⟩
  | some batch =>
    dsimp only
    by_cases hcapacity : sim.senderChannel.appliedCapacity = 0
    · rw [if_pos hcapacity]
      refine ((meets_nextIdleWorker_chooses sim).mono (fun _ hr => hr) ?_).bind ?_
      · rintro s ⟨rfl, -⟩
        exact .refl s
      rintro ⟨s, found⟩ (heq | ⟨next, index, hchooses, heq⟩)
      · obtain ⟨rfl, rfl⟩ := Prod.mk.inj heq
        exact ⟨.refl s, by rintro ⟨⟩⟩
      · obtain ⟨rfl, rfl⟩ := Prod.mk.inj heq
        exact ⟨.single (a := Move.handoffSender next index batch) ⟨hchooses, hpending, hcapacity⟩
          trivial, fun _ => rfl⟩
    rw [if_neg hcapacity]
    have hoffer : (moves source).Leads Move.Passes sim
        ((moves source).next sim (.offerSender batch)) := .single ⟨hpending, hcapacity⟩ trivial
    by_cases hadmits : sim.senderChannel.admits = true
    · rw [if_pos hadmits]
      simp only [moves, Move.apply, hadmits, if_true] at hoffer
      set sent := sim.onSenderChannel (sim.senderChannel.send SimulationBatch.transactions batch)
        (·.input batch)
      refine ((leads_drainFor source _ sent).mono (fun _ hr => hr) ?_).bind ?_
      · -- The batch is in the channel, and the throttler holds it still.
        rintro _ ⟨rfl, hnone⟩
        have hstrand : (moves source).Leads Move.Passes (sent.holding none)
            ((moves source).next (sent.holding none) (.strand batch)) := .single hnone trivial
        have hsame : (moves source).next (sent.holding none) (.strand batch) = sent := by
          show { sent with pendingThrottledBatch := some batch } = sent
          rw [← hpending]
          rfl
        exact hoffer.trans (hsame ▸ hstrand)
      · intro s hs
        exact ⟨hoffer.trans ((leads_holding hs none).mono fun _ => Move.Delivers.passes),
          fun _ => rfl⟩
    · rw [if_neg hadmits]
      exact ⟨.refl sim, by rintro ⟨⟩⟩

/-- **What `receiveReaderChannel` does**, by induction on the turns that are left. -/
theorem leads_receiveFor (source : Option SimulationAttemptOutcomeSource) (n : ℕ)
    (sim : FixedStepSimulation) :
    Meets (receiveFor source sim.config.throttlerInstalled n sim)
      (fun r => (moves source).Leads Move.Passes sim r.1)
      ((moves source).Leads Move.Passes sim) := by
  induction n generalizing sim with
  | zero => exact .refl sim
  | succ n ih =>
    rw [receiveFor]
    refine (leads_flushThrottledBatch source sim).bind ?_
    rintro ⟨s, blocked⟩ ⟨hs, hfree⟩
    cases blocked with
    | true => exact hs
    | false =>
      dsimp only
      rw [if_neg Bool.false_ne_true]
      cases hitems : s.readerChannel.items with
      | nil => exact hs
      | cons batch items =>
        dsimp only
        rw [← config_of_leads hs]
        by_cases htokens : (s.config.throttlerInstalled &&
            decide (s.throttlerTokens < batch.transactions)) = true
        · rw [if_pos htokens]
          exact hs
        rw [if_neg htokens]
        have haffords : s.affords batch.transactions := by
          intro hinstalled
          rw [hinstalled, Bool.true_and, decide_eq_true_eq] at htokens
          exact not_lt.mp htokens
        have hreceived : (moves source).Leads Move.Passes s
            ((moves source).next s (.receiveReader batch)) :=
          .single ⟨hfree rfl, by rw [hitems]; rfl, haffords⟩ trivial
        have hsofar := hs.trans hreceived
        have hinstalled : ((moves source).next s (.receiveReader batch)).config = s.config := rfl
        refine ((leads_flushThrottledBatch source ((moves source).next s (.receiveReader batch))).mono
          (fun _ hr => hr) fun _ hstop => hsofar.trans hstop).bind ?_
        rintro ⟨s', blocked⟩ ⟨hs', -⟩
        have hflushed := hsofar.trans hs'
        cases blocked with
        | true => exact hflushed
        | false =>
          dsimp only
          rw [if_neg Bool.false_ne_true, ← hinstalled, ← config_of_leads hs']
          exact (ih s').mono (fun _ hr => hflushed.trans hr) fun _ hstop => hflushed.trans hstop

/-- **What `produceReaderBatches` does**, by induction on the turns that are left. -/
theorem leads_produceFor (source : Option SimulationAttemptOutcomeSource) (n : ℕ)
    (sim : FixedStepSimulation) :
    Meets (produceFor source sim.config.readBatchSize n sim)
      (fun r => (moves source).Leads Move.Passes sim r.1)
      ((moves source).Leads Move.Passes sim) := by
  induction n generalizing sim with
  | zero => exact .refl sim
  | succ n ih =>
    rw [produceFor]
    by_cases hcredit : sim.readerTransactionCredit < sim.config.readBatchSize
    · rw [if_pos hcredit]
      exact .refl sim
    rw [if_neg hcredit]
    by_cases hcapacity : sim.readerChannel.appliedCapacity = 0
    · rw [if_pos hcapacity]
      by_cases hpending : sim.pendingThrottledBatch.isSome = true
      · rw [if_pos hpending]
        exact .refl sim
      rw [if_neg hpending]
      by_cases htokens : (sim.config.throttlerInstalled &&
          decide (sim.throttlerTokens < sim.config.readBatchSize)) = true
      · rw [if_pos htokens]
        exact .refl sim
      rw [if_neg htokens]
      have haffords : sim.affords sim.config.readBatchSize := by
        intro hinstalled
        rw [hinstalled, Bool.true_and, decide_eq_true_eq] at htokens
        exact not_lt.mp htokens
      have hmade : (moves source).Leads Move.Passes sim
          ((moves source).next sim .handoffReader) :=
        .single ⟨not_lt.mp hcredit, hcapacity, Option.not_isSome_iff_eq_none.mp hpending, haffords⟩
          trivial
      refine ((leads_flushThrottledBatch source ((moves source).next sim .handoffReader)).mono
        (fun _ hr => hr) fun _ hstop => hmade.trans hstop).bind ?_
      rintro ⟨s, blocked⟩ ⟨hs, -⟩
      have hflushed := hmade.trans hs
      cases blocked with
      | true => exact hflushed
      | false =>
        dsimp only
        rw [if_neg Bool.false_ne_true, ← config_of_leads hflushed]
        exact (ih s).mono (fun _ hr => hflushed.trans hr) fun _ hstop => hflushed.trans hstop
    · rw [if_neg hcapacity]
      by_cases hfull : sim.readerChannel.appliedCapacity ≤ sim.readerChannel.depthBatches
      · rw [if_pos hfull]
        exact .refl sim
      rw [if_neg hfull]
      have hmade : (moves source).Leads Move.Passes sim ((moves source).next sim .offerReader) :=
        .single ⟨not_lt.mp hcredit, hcapacity⟩ trivial
      simp only [moves, Move.apply, if_neg hfull] at hmade
      exact (ih _).mono (fun _ hr => hmade.trans hr) fun _ hstop => hmade.trans hstop

/-- One worker after another. -/
theorem leads_foldl {P : Move → Prop} {f : FixedStepSimulation → ℕ → FixedStepSimulation}
    (hf : ∀ sim i, (moves source).Leads P sim (f sim i)) (indices : List ℕ)
    (sim : FixedStepSimulation) : (moves source).Leads P sim (indices.foldl f sim) := by
  induction indices generalizing sim with
  | nil => exact .refl sim
  | cons i indices ih => exact (hf sim i).trans (ih (f sim i))

/-- What is due has been settled. -/
def settled (source : Option SimulationAttemptOutcomeSource) (sim : FixedStepSimulation) :
    FixedStepSimulation :=
  finalizeSenderScaleDown (startDueRetries source (completeDueAttempts
    { sim with elapsedMs := sim.elapsedMs + fixedStepMs, activity := {} }))

theorem leads_settled (source : Option SimulationAttemptOutcomeSource) (sim : FixedStepSimulation) :
    (moves source).Leads Move.Settles sim (sim.settled source) := by
  have hclock : (moves source).Leads Move.Settles sim ((moves source).next sim .startStep) :=
    .single trivial trivial
  refine hclock.trans ?_
  have hcompleted := @leads_foldl source Move.Settles completeDue
    (fun s i => .single (m := moves source) (a := .complete i) trivial trivial)
    (List.range sim.workers.length) ((moves source).next sim .startStep)
  refine hcompleted.trans ?_
  rw [settled]
  change (moves source).Leads Move.Settles ((moves source).next sim .startStep).completeDueAttempts
    (finalizeSenderScaleDown (startDueRetries source
      ((moves source).next sim .startStep).completeDueAttempts))
  generalize ((moves source).next sim .startStep).completeDueAttempts = s
  have hretried := @leads_foldl source Move.Settles (startDue source)
    (fun s i => .single (m := moves source) (a := .retry i) trivial trivial)
    (List.range s.workers.length) s
  exact hretried.trans (.single (m := moves source) (a := .finalize) trivial trivial)

/-- **A step is a run of moves**, in which tokens come in once, after what is due has been
settled. -/
theorem leads_advanceStep (source : Option SimulationAttemptOutcomeSource)
    (sim : FixedStepSimulation) :
    (moves source).Leads Move.Passes (sim.settled source).refillThrottlerTokens
      (sim.perform source .advanceStep) := by
  have hmeets : Meets (sim.advanceStep source)
      ((moves source).Leads Move.Passes (sim.settled source).refillThrottlerTokens)
      ((moves source).Leads Move.Passes (sim.settled source).refillThrottlerTokens) := by
    rw [advanceStep]
    dsimp only
    refine ((leads_drainFor source _ (sim.settled source).refillThrottlerTokens).mono
      (fun _ hr => hr) ?_).bind ?_
    · rintro _ ⟨rfl, -⟩
      exact .refl _
    intro s₁ h₁
    replace h₁ := h₁.mono fun _ => Move.Delivers.passes
    refine ((leads_flushThrottledBatch source s₁).mono (fun _ hr => hr)
      fun _ hstop => h₁.trans hstop).bind ?_
    rintro ⟨s₂, flushBlocked⟩ ⟨h₂, -⟩
    replace h₂ := h₁.trans h₂
    refine ((leads_receiveFor source _ s₂).mono (fun _ hr => hr)
      fun _ hstop => h₂.trans hstop).bind ?_
    rintro ⟨s₃, admission⟩ h₃
    replace h₃ := h₂.trans h₃
    have hearned := h₃.trans
      (.single (m := moves source) (a := .earn) (P := Move.Passes) trivial trivial)
    refine ((leads_produceFor source _ ((moves source).next s₃ .earn)).mono
      (fun _ hr => hr) fun _ hstop => hearned.trans hstop).bind ?_
    rintro ⟨s₄, production⟩ h₄
    exact (hearned.trans h₄).trans (.single (m := moves source) (P := Move.Passes)
      (a := .endStep production.readerChannelBlocked
        (flushBlocked || admission.senderChannelBlocked || production.senderChannelBlocked)
        (admission.tokenLimited || production.tokenLimited)) trivial trivial)
  rw [perform]
  cases hresult : sim.advanceStep source with
  | ok s => exact (hresult ▸ hmeets : Meets (.ok s) _ _)
  | error s => exact (hresult ▸ hmeets : Meets (.error s) _ _)

theorem onlyWorkers_foldl {f : FixedStepSimulation → ℕ → FixedStepSimulation}
    (hf : ∀ sim i, OnlyWorkers sim (f sim i)) (indices : List ℕ) (sim : FixedStepSimulation) :
    OnlyWorkers sim (indices.foldl f sim) := by
  induction indices generalizing sim with
  | nil => exact .rfl
  | cons i indices ih => exact (hf sim i).trans (ih (f sim i))

/-- What is settled is settled at the start of the step. -/
theorem onlyWorkers_settled (source : Option SimulationAttemptOutcomeSource)
    (sim : FixedStepSimulation) :
    OnlyWorkers { sim with elapsedMs := sim.elapsedMs + fixedStepMs, activity := {} }
      (sim.settled source) :=
  (onlyWorkers_foldl onlyWorkers_completeDue _ _).trans
    ((onlyWorkers_foldl (onlyWorkers_startDue source) _ _).trans
      (onlyWorkers_finalizeSenderScaleDown _))

/-- **A step takes as long as a step takes**, also one that throws. -/
theorem elapsedMs_advanceStep (source : Option SimulationAttemptOutcomeSource)
    (sim : FixedStepSimulation) :
    (sim.perform source .advanceStep).elapsedMs = sim.elapsedMs + fixedStepMs := by
  have hrefill : (sim.settled source).refillThrottlerTokens.elapsedMs =
      (sim.settled source).elapsedMs := by
    rw [refillThrottlerTokens]
    split <;> rfl
  calc (sim.perform source .advanceStep).elapsedMs
      = (sim.settled source).refillThrottlerTokens.elapsedMs :=
        elapsedMs_of_leads (leads_advanceStep source sim)
    _ = (sim.settled source).elapsedMs := hrefill
    _ = sim.elapsedMs + fixedStepMs := (onlyWorkers_settled source sim).elapsedMs

/-- **Every operation is a run of moves**, none of which is another operation. -/
theorem leads_perform (source : Option SimulationAttemptOutcomeSource) (sim : FixedStepSimulation)
    (operation : Operation) :
    (moves source).Leads (fun m => ∀ other, m = .operate other → other = operation) sim
      (sim.perform source operation) := by
  have hone (operation : Operation) (hne : operation ≠ .advanceStep) :
      (moves source).Leads (fun m => ∀ other, m = .operate other → other = operation) sim
        (sim.perform source operation) :=
    .single (m := moves source) (a := .operate operation) hne
      fun _ hm => (Move.operate.inj hm).symm
  cases operation with
  | advanceStep =>
    have hsettles (m : Move) (hm : m.Settles) (other : Operation) (heq : m = .operate other) :
        other = .advanceStep := absurd heq (hm.ne_operate other)
    have hpasses (m : Move) (hm : m.Passes) (other : Operation) (heq : m = .operate other) :
        other = .advanceStep := absurd heq (hm.ne_operate other)
    have hrefill : (moves source).Leads (fun m => ∀ other, m = .operate other → other = .advanceStep)
        (sim.settled source) (sim.settled source).refillThrottlerTokens :=
      .single (m := moves source) (a := .refill) trivial nofun
    exact (((leads_settled source sim).mono hsettles).trans hrefill).trans
      ((leads_advanceStep source sim).mono hpasses)
  | updateConfig values => exact hone (.updateConfig values) nofun
  | requestChannelCapacity channel capacity =>
    exact hone (.requestChannelCapacity channel capacity) nofun
  | clearInstantaneousTelemetry => exact hone .clearInstantaneousTelemetry nofun
  | telemetry running => exact hone (.telemetry running) nofun
  | reset => exact hone .reset nofun

/-- **What every move keeps, every run of operations keeps.** -/
theorem leads_after (source : Option SimulationAttemptOutcomeSource) (Allowed : Operation → Prop)
    (sim : FixedStepSimulation) (operations : List Operation) :
    (moves source).Leads (fun m => ∀ operation, m = .operate operation → operation ∈ operations) sim
      ((machine source Allowed).after sim operations) := by
  induction operations generalizing sim with
  | nil => exact .refl sim
  | cons operation operations ih =>
    refine ((leads_perform source sim operation).mono fun m hm other heq => ?_).trans
      ((ih _).mono fun m hm other heq => List.mem_cons_of_mem _ (hm other heq))
    rw [hm other heq]
    exact List.mem_cons_self

end FixedStepSimulation

end IngestionLab.Frontend
