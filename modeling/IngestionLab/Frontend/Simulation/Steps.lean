import IngestionLab.Frontend.Simulation.Accounts

/-!
# The steps of the simulation keep the accounts

Every operation of the simulation, phase by phase
(`IngestionLab.Frontend.FixedStepSimulation.accounts_advanceStep`). Where the next
worker has an index, a step does not throw
(`IngestionLab.Frontend.FixedStepSimulation.SenderOnly`).
-/

namespace IngestionLab.Frontend

open Tally Throwing

/-! ### The channels -/

namespace StatefulChannel

variable {channel : StatefulChannel SimulationBatch} {batch : SimulationBatch}
  {items : List SimulationBatch}

/-- The fields `applyPendingCapacity` may change. -/
theorem exists_applyPendingCapacity_eq (channel : StatefulChannel SimulationBatch) :
    ∃ applied preview pending,
      channel.applyPendingCapacity =
        { channel with
          appliedCapacity := applied, previewCapacity := preview, pendingCapacity := pending } ∧
      max applied (pending.getD 0) ≤ channel.largestCapacity := by
  rw [applyPendingCapacity, largestCapacity]
  cases hpending : channel.pendingCapacity with
  | none => exact ⟨_, _, channel.pendingCapacity, rfl, by rw [hpending]⟩
  | some capacity =>
    by_cases hfits : channel.depthBatches ≤ capacity
    · exact ⟨_, _, _, if_pos hfits, by simp⟩
    · exact ⟨_, _, channel.pendingCapacity, if_neg hfits, by rw [hpending]⟩

/-- The fields `receive` may change. -/
theorem exists_receive_eq (h : channel.items = batch :: items) :
    ∃ applied preview pending,
      channel.receive SimulationBatch.transactions =
        ({ channel with
          items := items
          appliedCapacity := applied
          previewCapacity := preview
          pendingCapacity := pending
          receivedBatchesTotal := channel.receivedBatchesTotal + 1
          receivedTransactionsTotal := channel.receivedTransactionsTotal + batch.transactions },
          some batch) ∧
      max applied (pending.getD 0) ≤ channel.largestCapacity := by
  simp only [receive, h]
  obtain ⟨applied, preview, pending, heq, hle⟩ := exists_applyPendingCapacity_eq
    (recordOutput SimulationBatch.transactions { channel with items := items } batch)
  exact ⟨applied, preview, pending, by rw [heq]; rfl, hle⟩

theorem Balanced.send (h : channel.Balanced) :
    (channel.send SimulationBatch.transactions batch).Balanced := by
  obtain ⟨hbatches, htransactions⟩ := h
  constructor
  · change channel.sentBatchesTotal + 1 =
      channel.receivedBatchesTotal + (channel.items ++ [batch]).length
    rw [hbatches, List.length_append]
    rfl
  · change channel.sentTransactionsTotal + batch.transactions =
      channel.receivedTransactionsTotal + total SimulationBatch.transactions (channel.items ++ [batch])
    rw [htransactions, total_append, ← add_assoc, total_cons]
    rfl

theorem Balanced.handoff (h : channel.Balanced) :
    (channel.handoff SimulationBatch.transactions batch).Balanced := by
  obtain ⟨hbatches, htransactions⟩ := h
  constructor
  · change channel.sentBatchesTotal + 1 = channel.receivedBatchesTotal + 1 + channel.depthBatches
    omega
  · change channel.sentTransactionsTotal + batch.transactions =
      channel.receivedTransactionsTotal + batch.transactions +
        channel.bufferedTransactions SimulationBatch.transactions
    omega

theorem Balanced.receive (h : channel.Balanced) (hitems : channel.items = batch :: items) :
    (channel.receive SimulationBatch.transactions).1.Balanced := by
  obtain ⟨applied, preview, pending, heq, -⟩ := exists_receive_eq hitems
  obtain ⟨hbatches, htransactions⟩ := h
  rw [depthBatches, hitems, List.length_cons] at hbatches
  rw [bufferedTransactions, hitems, List.map_cons, List.sum_cons] at htransactions
  rw [heq]
  constructor
  · change channel.sentBatchesTotal = channel.receivedBatchesTotal + 1 + items.length
    omega
  · change channel.sentTransactionsTotal = channel.receivedTransactionsTotal + batch.transactions +
      (items.map SimulationBatch.transactions).sum
    omega

end StatefulChannel

namespace FixedStepSimulation

variable {source : Option SimulationAttemptOutcomeSource} {sim sim' : FixedStepSimulation}
  {held hand : Option SimulationBatch} {batch : SimulationBatch} {i : ℕ} {worker : SenderWorker}
  {items : List SimulationBatch} {activity : ChannelActivity → ChannelActivity}

/-! ### A batch moves -/

/-- The sender channel gives a batch away. -/
theorem Accounts.receiveSender (activity : ChannelActivity → ChannelActivity)
    (h : sim.Accounts held none)
    (hitems : sim.senderChannel.items = batch :: items) :
    (sim.onSenderChannel (sim.senderChannel.receive SimulationBatch.transactions).1 activity).Accounts
      held (some batch) := by
  have hbalanced := h.counted.senderChannel.receive hitems
  obtain ⟨applied, preview, pending, heq, -⟩ := StatefulChannel.exists_receive_eq hitems
  obtain ⟨hcounted, hplaced, hattempted⟩ := h
  have hreceived := hcounted.received
  have htransactions := hcounted.transactions
  change _ + 0 = _ at hreceived htransactions
  rw [heq] at hbalanced ⊢
  refine ⟨⟨hcounted.readerChannel, hbalanced, hcounted.started, hcounted.completed, hcounted.failed,
    ?_, ?_⟩, ⟨fun hindex q => ?_, hplaced.single⟩,
    ⟨hattempted.tracks, hattempted.limit, hattempted.fresh, hattempted.orderly⟩⟩
  · change sim.totals.requestStartedTotal + 1 = sim.senderChannel.receivedBatchesTotal + 1 +
      sim.totals.retryAttemptStartedTotal
    omega
  · change sim.totals.successfulTransactionsTotal + sim.totals.terminalFailedTransactionsTotal +
      sim.owned SimulationBatch.transactions + batch.transactions =
      sim.senderChannel.receivedTransactionsTotal + batch.transactions
    omega
  · have hunique := hplaced.unique hindex q
    rw [waiting, hitems, total_cons] at hunique
    change total _ sim.readerChannel.items + held.elim 0 _ + total _ items + batch.hasSequence q +
      sim.owned _ + sim.finished _ = if q < sim.nextBatchSequence then 1 else 0
    change _ + 0 + _ + _ = _ at hunique
    omega

/-- The throttler hands a batch off. -/
theorem Accounts.handoffSender (activity : ChannelActivity → ChannelActivity)
    (h : sim.Accounts (some batch) none) :
    (sim.onSenderChannel (sim.senderChannel.handoff SimulationBatch.transactions batch)
      activity).Accounts none (some batch) := by
  obtain ⟨hcounted, hplaced, hattempted⟩ := h
  have hreceived := hcounted.received
  have htransactions := hcounted.transactions
  change _ + 0 = _ at hreceived htransactions
  refine ⟨⟨hcounted.readerChannel, hcounted.senderChannel.handoff, hcounted.started,
    hcounted.completed, hcounted.failed, ?_, ?_⟩, ⟨fun hindex q => ?_, hplaced.single⟩,
    ⟨hattempted.tracks, hattempted.limit, hattempted.fresh, hattempted.orderly⟩⟩
  · change sim.totals.requestStartedTotal + 1 = sim.senderChannel.receivedBatchesTotal + 1 +
      sim.totals.retryAttemptStartedTotal
    omega
  · change sim.totals.successfulTransactionsTotal + sim.totals.terminalFailedTransactionsTotal +
      sim.owned SimulationBatch.transactions + batch.transactions =
      sim.senderChannel.receivedTransactionsTotal + batch.transactions
    omega
  · have hunique := hplaced.unique hindex q
    change total _ sim.readerChannel.items + batch.hasSequence q + total _ sim.senderChannel.items +
      0 + _ + _ = _ at hunique
    change total _ sim.readerChannel.items + 0 + total _ sim.senderChannel.items +
      batch.hasSequence q + sim.owned _ + sim.finished _ = if q < sim.nextBatchSequence then 1 else 0
    omega

/-- The throttler sends a batch. -/
theorem Accounts.sendSender (h : sim.Accounts (some batch) none) :
    (sim.onSenderChannel (sim.senderChannel.send SimulationBatch.transactions batch)
      activity).Accounts none none := by
  obtain ⟨hcounted, hplaced, hattempted⟩ := h
  refine ⟨⟨hcounted.readerChannel, hcounted.senderChannel.send, hcounted.started,
    hcounted.completed, hcounted.failed, hcounted.received, hcounted.transactions⟩,
    ⟨fun hindex q => ?_, hplaced.single⟩,
    ⟨hattempted.tracks, hattempted.limit, hattempted.fresh, hattempted.orderly⟩⟩
  have hunique := hplaced.unique hindex q
  change total _ sim.readerChannel.items + batch.hasSequence q + total _ sim.senderChannel.items +
    0 + _ + _ = _ at hunique
  change total _ sim.readerChannel.items + 0 + total _ (sim.senderChannel.items ++ [batch]) +
    0 + sim.owned _ + sim.finished _ = if q < sim.nextBatchSequence then 1 else 0
  rw [total_append, total_cons, total_nil]
  omega

/-- The throttler receives a batch. -/
theorem Accounts.receiveReader (h : sim.Accounts none none)
    (hitems : sim.readerChannel.items = batch :: items) :
    (sim.onReaderChannel (sim.readerChannel.receive SimulationBatch.transactions).1 activity).Accounts
      (some batch) none := by
  have hbalanced := h.counted.readerChannel.receive hitems
  obtain ⟨applied, preview, pending, heq, -⟩ := StatefulChannel.exists_receive_eq hitems
  obtain ⟨hcounted, hplaced, hattempted⟩ := h
  rw [heq] at hbalanced ⊢
  refine ⟨⟨hbalanced, hcounted.senderChannel, hcounted.started, hcounted.completed,
    hcounted.failed, hcounted.received, hcounted.transactions⟩,
    ⟨fun hindex q => ?_, hplaced.single⟩,
    ⟨hattempted.tracks, hattempted.limit, hattempted.fresh, hattempted.orderly⟩⟩
  have hunique := hplaced.unique hindex q
  rw [waiting, hitems, total_cons] at hunique
  change _ + 0 + _ + 0 + _ + _ = _ at hunique
  change total _ items + batch.hasSequence q + total _ sim.senderChannel.items + 0 +
    sim.owned _ + sim.finished _ = if q < sim.nextBatchSequence then 1 else 0
  omega

/-- The number of a batch that is made next is new. -/
theorem lt_succ_indicator (q n : ℕ) :
    (if q < n + 1 then 1 else 0) = (if q < n then 1 else 0) + if n = q then 1 else 0 := by
  split_ifs <;> omega

/-- The reader makes a batch and hands it off. -/
theorem Accounts.handoffReader {transactions : ℕ} (h : sim.Accounts none none) :
    let made := sim.createPipelineBatch transactions
    (made.1.onReaderChannel (made.1.readerChannel.handoff SimulationBatch.transactions made.2)
      activity).Accounts (some made.2) none := by
  obtain ⟨hcounted, hplaced, hattempted⟩ := h
  refine ⟨⟨hcounted.readerChannel.handoff, hcounted.senderChannel, hcounted.started,
    hcounted.completed, hcounted.failed, hcounted.received, hcounted.transactions⟩,
    ⟨fun hindex q => ?_, hplaced.single⟩,
    ⟨hattempted.tracks, hattempted.limit, hattempted.fresh, hattempted.orderly⟩⟩
  have hunique := hplaced.unique hindex q
  have hnew := lt_succ_indicator q sim.nextBatchSequence
  change total _ sim.readerChannel.items + 0 + total _ sim.senderChannel.items + 0 + _ + _ = _
    at hunique
  change total _ sim.readerChannel.items + (if sim.nextBatchSequence = q then 1 else 0) +
    total _ sim.senderChannel.items + 0 + sim.owned _ + sim.finished _ =
    if q < sim.nextBatchSequence + 1 then 1 else 0
  omega

/-- The reader makes a batch and sends it. -/
theorem Accounts.sendReader {transactions : ℕ} (h : sim.Accounts held none) :
    let made := sim.createPipelineBatch transactions
    (made.1.onReaderChannel (made.1.readerChannel.send SimulationBatch.transactions made.2)
      activity).Accounts held none := by
  obtain ⟨hcounted, hplaced, hattempted⟩ := h
  refine ⟨⟨hcounted.readerChannel.send, hcounted.senderChannel, hcounted.started,
    hcounted.completed, hcounted.failed, hcounted.received, hcounted.transactions⟩,
    ⟨fun hindex q => ?_, hplaced.single⟩,
    ⟨hattempted.tracks, hattempted.limit, hattempted.fresh, hattempted.orderly⟩⟩
  have hunique := hplaced.unique hindex q
  have hnew := lt_succ_indicator q sim.nextBatchSequence
  have happend := total_append (SimulationBatch.hasSequence q) sim.readerChannel.items
    [(sim.createPipelineBatch transactions).2]
  change total _ sim.readerChannel.items + held.elim 0 _ + total _ sim.senderChannel.items + 0 +
    _ + _ = _ at hunique
  change total _ (sim.readerChannel.items ++ [(sim.createPipelineBatch transactions).2]) +
    held.elim 0 _ + total _ sim.senderChannel.items + 0 + sim.owned _ + sim.finished _ =
    if q < sim.nextBatchSequence + 1 then 1 else 0
  rw [happend, total_cons, total_nil]
  change _ + ((if sim.nextBatchSequence = q then 1 else 0) + 0) + _ + _ + _ + _ + _ = _
  omega

/-! ### Workers -/

/-- **The accounts between two phases of a step.** -/
abbrev Closed (sim : FixedStepSimulation) : Prop := sim.Accounts sim.pendingThrottledBatch none

/-- Which of the workers are to go. -/
def staff (sim : FixedStepSimulation) : List Bool := sim.workers.map (·.retiring)

/-- How many workers may take a batch. -/
def available (sim : FixedStepSimulation) : ℕ :=
  total (fun worker => (!worker.retiring && worker.state = .idle).toNat) sim.workers

/-- How many batches the sender channel and the workers have room for. -/
def senderRoom (sim : FixedStepSimulation) : ℕ :=
  sim.senderChannel.largestCapacity - sim.senderChannel.depthBatches + sim.available

/-- Without an index of a worker nothing is said of the batches that wait. -/
theorem Accounts.of_index_eq_none {held' : Option SimulationBatch} (h : sim.Accounts held hand)
    (hindex : sim.nextWorkerIndex = none) : sim.Accounts held' hand :=
  ⟨h.counted, ⟨fun hc => absurd hindex hc, h.placed.single⟩, h.attempted⟩

/-- Which worker is asked next does not matter. -/
theorem Accounts.setIndex {next : ℕ} (h : sim.Accounts held hand)
    (hindex : sim.nextWorkerIndex ≠ none) :
    Accounts held hand { sim with nextWorkerIndex := some next } :=
  ⟨⟨h.counted.readerChannel, h.counted.senderChannel, h.counted.started, h.counted.completed,
    h.counted.failed, h.counted.received, h.counted.transactions⟩,
    ⟨fun _ => h.placed.unique hindex, h.placed.single⟩,
    ⟨h.attempted.tracks, h.attempted.limit, h.attempted.fresh, h.attempted.orderly⟩⟩

/-- **What `nextIdleWorker` finds**: nobody, or a worker that is idle and stays. -/
inductive Found (sim : FixedStepSimulation) : FixedStepSimulation × Option ℕ → Prop
  | nobody : Found sim (sim, none)
  | somebody (next index : ℕ) (worker : SenderWorker) (hindex : sim.nextWorkerIndex ≠ none)
      (hworker : sim.workers[index]? = some worker) (hretiring : worker.retiring = false)
      (hidle : worker.state = .idle) :
      Found sim ({ sim with nextWorkerIndex := some next }, some index)

theorem meets_nextIdleWorker (sim : FixedStepSimulation) :
    Meets sim.nextIdleWorker (Found sim) fun s => s = sim ∧ sim.nextWorkerIndex = none := by
  rw [nextIdleWorker]
  cases hindex : sim.nextWorkerIndex with
  | none =>
    dsimp only
    split
    · exact .nobody
    · exact ⟨rfl, rfl⟩
  | some next =>
    dsimp only
    split
    · exact .nobody
    · next index hfind =>
      have havailable := List.find?_some hfind
      rw [isAvailable] at havailable
      obtain ⟨worker, hworker, hstate⟩ := (Option.any_eq_true _ _).mp havailable
      rw [Bool.and_eq_true, Bool.not_eq_true', decide_eq_true_eq] at hstate
      exact .somebody _ _ worker (hindex ▸ Option.some_ne_none next) hworker hstate.1 hstate.2

/-! ### The sender side -/

/-- **What the sender side may change**, and what it keeps. -/
structure SenderOnly (sim s : FixedStepSimulation) : Prop where
  config : s.config = sim.config
  readerChannel : s.readerChannel = sim.readerChannel
  pending : s.pendingThrottledBatch = sim.pendingThrottledBatch
  index : s.nextWorkerIndex = none ↔ sim.nextWorkerIndex = none
  staff : s.staff = sim.staff
  room : s.senderRoom ≤ sim.senderRoom
  accounts : ∀ held, sim.Accounts held none → s.Accounts held none

theorem SenderOnly.rfl : SenderOnly sim sim :=
  ⟨Eq.refl _, Eq.refl _, Eq.refl _, Iff.rfl, Eq.refl _, le_rfl, fun _ h => h⟩

theorem SenderOnly.trans {s : FixedStepSimulation} (h : SenderOnly sim sim')
    (h' : SenderOnly sim' s) : SenderOnly sim s :=
  ⟨h'.config.trans h.config, h'.readerChannel.trans h.readerChannel, h'.pending.trans h.pending,
    h'.index.trans h.index, h'.staff.trans h.staff, h'.room.trans h.room,
    fun held hsim => h'.accounts held (h.accounts held hsim)⟩

/-- **What a step that throws leaves.** -/
structure Stopped (sim s : FixedStepSimulation) : Prop where
  index : sim.nextWorkerIndex = none
  closed : sim.Closed → s.Closed

/-- The first attempt takes a worker that was available. -/
theorem available_startAttempt (source : Option SimulationAttemptOutcomeSource)
    (batch : SimulationBatch) (attempt : ℕ) (amb : Bool) (hworker : sim.workers[i]? = some worker)
    (hretiring : worker.retiring = false) (hidle : worker.state = .idle) :
    (sim.startAttempt source i batch attempt amb).available + 1 = sim.available := by
  obtain ⟨_, _, _, _, flight, heq, -, -⟩ := exists_startAttempt_eq source sim i batch attempt amb
  have hmodify := total_modify
    (g := fun worker : SenderWorker => (!worker.retiring && worker.state = .idle).toNat)
    (fun worker => { worker with state := .inFlight flight }) hworker
  rw [hretiring, hidle] at hmodify
  rw [heq]
  exact hmodify

theorem staff_startAttempt (source : Option SimulationAttemptOutcomeSource)
    (sim : FixedStepSimulation) (i : ℕ) (batch : SimulationBatch) (attempt : ℕ) (amb : Bool) :
    (sim.startAttempt source i batch attempt amb).staff = sim.staff := by
  obtain ⟨_, _, _, _, flight, heq, -, -⟩ := exists_startAttempt_eq source sim i batch attempt amb
  rw [heq]
  exact map_modify SenderWorker.retiring
    (f := fun worker => { worker with state := .inFlight flight }) (fun _ => rfl) _ _

/-- **A batch of the sender channel is given to a worker.** -/
theorem senderOnly_deliver (source : Option SimulationAttemptOutcomeSource) (next : ℕ)
    (activity : ChannelActivity → ChannelActivity) (hindex : sim.nextWorkerIndex ≠ none)
    (hworker : sim.workers[i]? = some worker) (hretiring : worker.retiring = false)
    (hidle : worker.state = .idle) (hitems : sim.senderChannel.items = batch :: items) :
    SenderOnly sim (startAttempt source
      (onSenderChannel { sim with nextWorkerIndex := some next }
        (sim.senderChannel.receive SimulationBatch.transactions).1 activity) i batch 1 false) := by
  have hgiven : (onSenderChannel { sim with nextWorkerIndex := some next }
      (sim.senderChannel.receive SimulationBatch.transactions).1 activity).workers[i]? = some worker :=
    hworker
  have havailable := available_startAttempt source batch 1 false hgiven hretiring hidle
  have hstaff := staff_startAttempt source (onSenderChannel { sim with nextWorkerIndex := some next }
    (sim.senderChannel.receive SimulationBatch.transactions).1 activity) i batch 1 false
  obtain ⟨applied, preview, pending, hreceive, hle⟩ := StatefulChannel.exists_receive_eq hitems
  have haccounts : ∀ held, sim.Accounts held none → (startAttempt source
      (onSenderChannel { sim with nextWorkerIndex := some next }
        (sim.senderChannel.receive SimulationBatch.transactions).1 activity) i batch 1
          false).Accounts held none := fun held h =>
    ((h.setIndex hindex).receiveSender activity hitems).startFirst
      (Option.some_ne_none next) hworker hidle
  obtain ⟨_, _, _, _, flight, heq, -, -⟩ := exists_startAttempt_eq source
    (onSenderChannel { sim with nextWorkerIndex := some next }
      (sim.senderChannel.receive SimulationBatch.transactions).1 activity) i batch 1 false
  rw [heq] at haccounts havailable hstaff ⊢
  refine ⟨rfl, rfl, rfl, ?_, hstaff, ?_, haccounts⟩
  · show some next = none ↔ sim.nextWorkerIndex = none
    exact iff_of_false (Option.some_ne_none next) hindex
  · rw [hreceive] at havailable ⊢
    change _ = sim.available at havailable
    show max applied (pending.getD 0) - items.length + _ ≤
      sim.senderChannel.largestCapacity - sim.senderChannel.depthBatches + sim.available
    rw [StatefulChannel.depthBatches, hitems, List.length_cons]
    omega

/-- **What `drainSenderChannel` does**, by induction on the turns that are left. -/
theorem meets_drainFor (source : Option SimulationAttemptOutcomeSource) (n : ℕ)
    (sim : FixedStepSimulation) :
    Meets (drainFor source n sim) (SenderOnly sim) (Stopped sim) := by
  induction n generalizing sim with
  | zero => exact SenderOnly.rfl
  | succ n ih =>
    rw [drainFor]
    by_cases hempty : sim.senderChannel.items = []
    · rw [if_pos hempty]
      exact SenderOnly.rfl
    rw [if_neg hempty]
    obtain ⟨batch, items, hitems⟩ := List.exists_cons_of_ne_nil hempty
    refine ((meets_nextIdleWorker sim).mono (fun _ hr => hr) ?_).bind ?_
    · rintro s ⟨rfl, hindex⟩
      exact ⟨hindex, id⟩
    rintro ⟨s, found⟩ (- | ⟨next, index, worker, hindex, hworker, hretiring, hidle⟩)
    · exact SenderOnly.rfl
    · obtain ⟨applied, preview, pending, hreceive, -⟩ := StatefulChannel.exists_receive_eq hitems
      have hdeliver := senderOnly_deliver source next (·.output batch) hindex
        hworker hretiring hidle hitems
      simp only [hreceive] at hdeliver ⊢
      refine (ih _).mono (fun s hs => hdeliver.trans hs) fun s hs => ?_
      exact absurd (hdeliver.index.mp hs.index) hindex

/-- **What the accounts do not look at does not matter**: the configuration, the times, what
there is to spend, and of a channel its capacity and whether it is blocked. -/
theorem Accounts.setAside {config : SimulationConfig} {activities : List StepActivity}
    {activity : StepActivity} {credit tokens : ℚ} {pending : Option SimulationBatch}
    {elapsedMs limitedMs : ℕ} {applied₁ applied₂ : ℕ} {preview₁ preview₂ pending₁ pending₂ : Option ℕ}
    {blockedFor₁ blockedFor₂ blockedMs₁ blockedMs₂ blocked₁ blocked₂ : ℕ}
    (h : sim.Accounts held hand) :
    Accounts held hand { sim with
      config := config
      readerChannel := { sim.readerChannel with
        appliedCapacity := applied₁
        previewCapacity := preview₁
        pendingCapacity := pending₁
        blockedForMs := blockedFor₁
        blockedMsTotal := blockedMs₁
        blockedSenders := blocked₁ }
      senderChannel := { sim.senderChannel with
        appliedCapacity := applied₂
        previewCapacity := preview₂
        pendingCapacity := pending₂
        blockedForMs := blockedFor₂
        blockedMsTotal := blockedMs₂
        blockedSenders := blocked₂ }
      activities := activities
      activity := activity
      readerTransactionCredit := credit
      throttlerTokens := tokens
      pendingThrottledBatch := pending
      elapsedMs := elapsedMs
      limitedMs := limitedMs } :=
  ⟨⟨h.counted.readerChannel, h.counted.senderChannel, h.counted.started, h.counted.completed,
    h.counted.failed, h.counted.received, h.counted.transactions⟩,
    ⟨h.placed.unique, h.placed.single⟩,
    ⟨h.attempted.tracks, h.attempted.limit, h.attempted.fresh, h.attempted.orderly⟩⟩

/-- **What `flushThrottledBatch` does**: a batch of the throttler that is not blocked takes
up room. -/
structure Flushed (sim : FixedStepSimulation) (r : FixedStepSimulation × Bool) : Prop where
  config : r.1.config = sim.config
  readerChannel : r.1.readerChannel = sim.readerChannel
  index : r.1.nextWorkerIndex = none ↔ sim.nextWorkerIndex = none
  staff : r.1.staff = sim.staff
  pending : r.2 = false → r.1.pendingThrottledBatch = none
  room : sim.pendingThrottledBatch ≠ none → r.2 = false → r.1.senderRoom < sim.senderRoom
  closed : sim.Closed → r.1.Closed

/-- Nothing is done. -/
theorem Flushed.rfl {blocked : Bool} (hpending : blocked = false → sim.pendingThrottledBatch = none) :
    Flushed sim (sim, blocked) :=
  ⟨Eq.refl _, Eq.refl _, Iff.rfl, Eq.refl _, hpending, fun hc hb => absurd (hpending hb) hc, id⟩

/-- The batch is handed off to a worker. -/
theorem flushed_handoff (next : ℕ) (hpending : sim.pendingThrottledBatch = some batch)
    (hindex : sim.nextWorkerIndex ≠ none) (hworker : sim.workers[i]? = some worker)
    (hretiring : worker.retiring = false) (hidle : worker.state = .idle) :
    Flushed sim ({ startAttempt source
      (onSenderChannel { sim with nextWorkerIndex := some next }
        (sim.senderChannel.handoff SimulationBatch.transactions batch) activity) i batch 1 false with
          pendingThrottledBatch := none }, false) := by
  have hgiven : (onSenderChannel { sim with nextWorkerIndex := some next }
      (sim.senderChannel.handoff SimulationBatch.transactions batch) activity).workers[i]? = some worker :=
    hworker
  have havailable := available_startAttempt source batch 1 false hgiven hretiring hidle
  have hstaff := staff_startAttempt source (onSenderChannel { sim with nextWorkerIndex := some next }
    (sim.senderChannel.handoff SimulationBatch.transactions batch) activity) i batch 1 false
  have haccounts : sim.Closed → (startAttempt source
      (onSenderChannel { sim with nextWorkerIndex := some next }
        (sim.senderChannel.handoff SimulationBatch.transactions batch) activity) i batch 1
          false).Accounts none none := fun h => by
    rw [Closed, hpending] at h
    exact ((h.setIndex hindex).handoffSender activity).startFirst
      (Option.some_ne_none next) hworker hidle
  obtain ⟨_, _, _, _, flight, heq, -, -⟩ := exists_startAttempt_eq source
    (onSenderChannel { sim with nextWorkerIndex := some next }
      (sim.senderChannel.handoff SimulationBatch.transactions batch) activity) i batch 1 false
  rw [heq] at haccounts havailable hstaff ⊢
  refine ⟨rfl, rfl, ?_, hstaff, fun _ => rfl, fun _ _ => ?_, fun h => (haccounts h).setAside⟩
  · show some next = none ↔ sim.nextWorkerIndex = none
    exact iff_of_false (Option.some_ne_none next) hindex
  · change _ = sim.available at havailable
    show sim.senderChannel.largestCapacity - sim.senderChannel.depthBatches + _ <
      sim.senderChannel.largestCapacity - sim.senderChannel.depthBatches + sim.available
    exact Nat.add_lt_add_left (Nat.lt_of_succ_le havailable.le) _

/-- The batch is sent, and the sender channel has then given batches away. -/
theorem flushed_send {s : FixedStepSimulation} (hpending : sim.pendingThrottledBatch = some batch)
    (hadmits : sim.senderChannel.admits = true)
    (hs : SenderOnly (sim.onSenderChannel
      (sim.senderChannel.send SimulationBatch.transactions batch) activity) s) :
    Flushed sim ({ s with pendingThrottledBatch := none }, false) := by
  obtain ⟨-, hdepth⟩ := of_decide_eq_true hadmits
  refine ⟨hs.config, hs.readerChannel, hs.index, hs.staff, fun _ => rfl,
    fun _ _ => hs.room.trans_lt ?_, fun h => ?_⟩
  · show sim.senderChannel.largestCapacity - (sim.senderChannel.items ++ [batch]).length +
      sim.available < sim.senderChannel.largestCapacity - sim.senderChannel.depthBatches +
        sim.available
    have hle : sim.senderChannel.appliedCapacity ≤ sim.senderChannel.largestCapacity :=
      le_max_left _ _
    rw [StatefulChannel.depthBatches] at hdepth ⊢
    rw [List.length_append, List.length_singleton]
    omega
  · rw [Closed, hpending] at h
    exact (hs.accounts none h.sendSender).setAside

theorem meets_flushThrottledBatch (source : Option SimulationAttemptOutcomeSource)
    (sim : FixedStepSimulation) :
    Meets (sim.flushThrottledBatch source) (Flushed sim) (Stopped sim) := by
  rw [flushThrottledBatch]
  cases hpending : sim.pendingThrottledBatch with
  | none => exact Flushed.rfl fun _ => hpending
  | some batch =>
    dsimp only
    by_cases hcapacity : sim.senderChannel.appliedCapacity = 0
    · rw [if_pos hcapacity]
      refine ((meets_nextIdleWorker sim).mono (fun _ hr => hr) ?_).bind ?_
      · rintro s ⟨rfl, hindex⟩
        exact ⟨hindex, id⟩
      rintro ⟨s, found⟩ (- | ⟨next, index, worker, hindex, hworker, hretiring, hidle⟩)
      · exact Flushed.rfl nofun
      · exact flushed_handoff next hpending hindex hworker hretiring hidle
    rw [if_neg hcapacity]
    by_cases hadmits : sim.senderChannel.admits = true
    · rw [if_pos hadmits]
      refine ((meets_drainFor source _ _).mono (fun _ hr => hr) fun s hs => ?_).bind
        fun s hs => flushed_send hpending hadmits hs
      refine ⟨hs.index, fun h => hs.closed ?_⟩
      rw [Closed, hpending] at h
      exact h.sendSender.of_index_eq_none hs.index
    · rw [if_neg hadmits]
      exact Flushed.rfl nofun

/-! ### The reader side -/

/-- **What a phase of a step keeps.** -/
structure Advanced (sim s : FixedStepSimulation) : Prop where
  config : s.config = sim.config
  index : s.nextWorkerIndex = none ↔ sim.nextWorkerIndex = none
  staff : s.staff = sim.staff
  closed : sim.Closed → s.Closed

theorem Advanced.rfl : Advanced sim sim := ⟨Eq.refl _, Iff.rfl, Eq.refl _, id⟩

theorem Advanced.trans {s : FixedStepSimulation} (h : Advanced sim sim') (h' : Advanced sim' s) :
    Advanced sim s :=
  ⟨h'.config.trans h.config, h'.index.trans h.index, h'.staff.trans h.staff, h'.closed ∘ h.closed⟩

theorem Stopped.trans {s : FixedStepSimulation} (h : Advanced sim sim') (h' : Stopped sim' s) :
    Stopped sim s :=
  ⟨h.index.mp h'.index, h'.closed ∘ h.closed⟩

theorem SenderOnly.advanced (h : SenderOnly sim sim') : Advanced sim sim' :=
  ⟨h.config, h.index, h.staff, fun hsim => by rw [Closed, h.pending]; exact h.accounts _ hsim⟩

theorem Flushed.advanced {r : FixedStepSimulation × Bool} (h : Flushed sim r) :
    Advanced sim r.1 :=
  ⟨h.config, h.index, h.staff, h.closed⟩

/-- **What `receiveReaderChannel` keeps**, by induction on the turns that are left. -/
theorem meets_receiveFor (source : Option SimulationAttemptOutcomeSource) (installed : Bool)
    (n : ℕ) (sim : FixedStepSimulation) :
    Meets (receiveFor source installed n sim) (fun r => Advanced sim r.1) (Stopped sim) := by
  induction n generalizing sim with
  | zero => exact Advanced.rfl
  | succ n ih =>
    rw [receiveFor]
    refine (meets_flushThrottledBatch source sim).bind ?_
    rintro ⟨s, blocked⟩ hs
    cases blocked with
    | true => exact hs.advanced
    | false =>
      dsimp only
      rw [if_neg Bool.false_ne_true]
      cases hitems : s.readerChannel.items with
      | nil => exact hs.advanced
      | cons batch items =>
        dsimp only
        by_cases htokens : (installed && decide (s.throttlerTokens < batch.transactions)) = true
        · rw [if_pos htokens]
          exact hs.advanced
        rw [if_neg htokens]
        have hreceived : Advanced s { s.onReaderChannel
            (s.readerChannel.receive SimulationBatch.transactions).1 (·.output batch) with
              throttlerTokens :=
                if installed then s.throttlerTokens - batch.transactions else s.throttlerTokens
              pendingThrottledBatch := some batch } := by
          refine ⟨rfl, Iff.rfl, rfl, fun h => ?_⟩
          rw [Closed, hs.pending rfl] at h
          exact (h.receiveReader hitems).setAside
        have hsofar := hs.advanced.trans hreceived
        refine ((meets_flushThrottledBatch source _).mono (fun _ hr => hr)
          fun _ hstop => Stopped.trans hsofar hstop).bind ?_
        rintro ⟨s', blocked⟩ hs'
        have hflushed := hsofar.trans hs'.advanced
        cases blocked with
        | true => exact hflushed
        | false =>
          exact (ih s').mono (fun _ hr => hflushed.trans hr)
            fun _ hstop => Stopped.trans hflushed hstop

/-- A batch is made and handed off. -/
theorem advanced_handoffReader (transactions : ℕ) (tokens credit : ℚ)
    (activity : ChannelActivity → ChannelActivity) (hpending : sim.pendingThrottledBatch = none) :
    let made := sim.createPipelineBatch transactions
    Advanced sim { made.1.onReaderChannel
      (made.1.readerChannel.handoff SimulationBatch.transactions made.2) activity with
        throttlerTokens := tokens
        readerTransactionCredit := credit
        pendingThrottledBatch := some made.2 } := by
  refine ⟨rfl, Iff.rfl, rfl, fun h => ?_⟩
  rw [Closed, hpending] at h
  exact h.handoffReader.setAside

/-- A batch is made and sent. -/
theorem advanced_sendReader (sim : FixedStepSimulation) (transactions : ℕ) (credit : ℚ)
    (activity : ChannelActivity → ChannelActivity) :
    let made := sim.createPipelineBatch transactions
    Advanced sim { made.1.onReaderChannel
      (made.1.readerChannel.send SimulationBatch.transactions made.2) activity with
        readerTransactionCredit := credit } :=
  ⟨rfl, Iff.rfl, rfl, fun h => (Accounts.sendReader h).setAside⟩

/-- **What `produceReaderBatches` keeps**, by induction on the turns that are left. -/
theorem meets_produceFor (source : Option SimulationAttemptOutcomeSource) (transactions n : ℕ)
    (sim : FixedStepSimulation) :
    Meets (produceFor source transactions n sim) (fun r => Advanced sim r.1) (Stopped sim) := by
  induction n generalizing sim with
  | zero => exact Advanced.rfl
  | succ n ih =>
    rw [produceFor]
    split
    · exact Advanced.rfl
    split
    · split
      · exact Advanced.rfl
      split
      · exact Advanced.rfl
      next hpending _ =>
      have hmade := advanced_handoffReader transactions
        (if sim.config.throttlerInstalled then sim.throttlerTokens - transactions
          else sim.throttlerTokens)
        (sim.readerTransactionCredit - transactions)
        (·.handoff (sim.createPipelineBatch transactions).2)
        (Option.not_isSome_iff_eq_none.mp hpending)
      refine ((meets_flushThrottledBatch source _).mono (fun _ hr => hr)
        fun _ hstop => Stopped.trans hmade hstop).bind ?_
      rintro ⟨s, blocked⟩ hs
      have hflushed := hmade.trans hs.advanced
      cases blocked with
      | true => exact hflushed
      | false =>
        exact (ih s).mono (fun _ hr => hflushed.trans hr)
          fun _ hstop => Stopped.trans hflushed hstop
    split
    · exact Advanced.rfl
    · have hmade := advanced_sendReader sim transactions
        (sim.readerTransactionCredit - transactions)
        (·.input (sim.createPipelineBatch transactions).2)
      exact (ih _).mono (fun _ hr => hmade.trans hr) fun _ hstop => Stopped.trans hmade hstop

/-! ### Production ends -/

/-- How many batches there is room for. -/
def productionRoom (sim : FixedStepSimulation) : ℕ :=
  sim.readerChannel.appliedCapacity - sim.readerChannel.depthBatches + sim.senderRoom

theorem productionRoom_lt_productionBound (sim : FixedStepSimulation) :
    sim.productionRoom < sim.productionBound := by
  have havailable : sim.available ≤ sim.workers.length := by
    rw [available]
    induction sim.workers with
    | nil => exact le_rfl
    | cons worker workers ih =>
      rw [total_cons, List.length_cons]
      have hone := Bool.toNat_le (!worker.retiring && decide (worker.state = .idle))
      omega
  rw [productionRoom, senderRoom, productionBound]
  omega

/-- **One turn more makes no difference** where the turns are more than the room there is:
every turn but the last takes up some of it. -/
theorem produceFor_succ (source : Option SimulationAttemptOutcomeSource) (transactions n : ℕ)
    (sim : FixedStepSimulation) (hroom : sim.productionRoom < n) :
    produceFor source transactions (n + 1) sim = produceFor source transactions n sim := by
  induction n generalizing sim with
  | zero => exact absurd hroom (Nat.not_lt_zero _)
  | succ n ih =>
    rw [produceFor, produceFor]
    refine if_congr Iff.rfl rfl (if_congr Iff.rfl ?_ ?_)
    · refine if_congr Iff.rfl rfl (if_congr Iff.rfl rfl ?_)
      refine (meets_flushThrottledBatch source _).bind_congr ?_
      rintro ⟨s, blocked⟩ hs
      cases blocked with
      | true => rfl
      | false =>
        refine ih s (Nat.lt_of_lt_of_le ?_ (Nat.le_of_lt_succ hroom))
        have hlt := hs.room (Option.some_ne_none _) rfl
        rw [productionRoom, hs.readerChannel]
        exact Nat.add_lt_add_left hlt _
    · by_cases hfull : sim.readerChannel.appliedCapacity ≤ sim.readerChannel.depthBatches
      · rw [if_pos hfull, if_pos hfull]
      · rw [if_neg hfull, if_neg hfull]
        refine ih _ (Nat.lt_of_lt_of_le ?_ (Nat.le_of_lt_succ hroom))
        show sim.readerChannel.appliedCapacity - (sim.readerChannel.items ++ [_]).length +
          sim.senderRoom < sim.readerChannel.appliedCapacity - sim.readerChannel.depthBatches +
            sim.senderRoom
        rw [StatefulChannel.depthBatches] at hfull ⊢
        rw [List.length_append, List.length_singleton]
        omega

/-- **The loop of production ends by itself**: more turns than it is given make no
difference. -/
theorem produceFor_eq_of_productionBound_le {transactions n : ℕ}
    (h : sim.productionBound ≤ n) :
    produceFor source transactions n sim =
      produceFor source transactions sim.productionBound sim := by
  induction n, h using Nat.le_induction with
  | base => rfl
  | succ n hle ih =>
    rw [produceFor_succ source transactions n sim
      (Nat.lt_of_lt_of_le (productionRoom_lt_productionBound sim) hle), ih]

end FixedStepSimulation

end IngestionLab.Frontend
