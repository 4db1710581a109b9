import IngestionLab.Frontend.Simulation
import IngestionLab.Machine.Tally

/-!
# The accounts of the simulation

What the counters of the simulation and the places of its batches have to do with one
another, as one invariant (`IngestionLab.Frontend.FixedStepSimulation.Accounts`).

Within a step a batch may be on its way: it has left the throttler or the sender channel
and no worker has it yet. The invariant is therefore stated for what the throttler is
taken to hold and for what is *in hand*; between steps the first is what it holds, and
nothing is in hand.

A step that throws has found no index of a worker. From then on no batch is given to a
worker, and nothing is said of the batches that wait.
-/

namespace IngestionLab.Frontend

open JS Tally

/-! ### Measures -/

/-- The batch has a sequence number. -/
def SimulationBatch.hasSequence (q : ℕ) (batch : SimulationBatch) : ℕ :=
  if batch.sequence = q then 1 else 0

/-- The weight of what a worker has. -/
def SenderWorker.weight (f : SimulationBatch → ℕ) (worker : SenderWorker) : ℕ :=
  worker.batch.elim 0 f

/-- The weight of what an event finishes. -/
def SenderEvent.weight (f : SimulationBatch → ℕ) : SenderEvent → ℕ
  | .started _ _ => 0
  | .succeeded batch | .failedTerminally batch => f batch

/-- The event is the start of an attempt at a batch. -/
def SenderEvent.isStart (q : ℕ) : SenderEvent → Bool
  | .started batch _ => batch.sequence = q
  | _ => false

/-- How many attempts at a batch have been started. -/
def attempts (q : ℕ) (log : List SenderEvent) : ℕ := log.countP (SenderEvent.isStart q)

/-- **No attempt is started at a batch that is finished.** -/
def Orderly : List SenderEvent → Prop
  | [] => True
  | .started batch _ :: log =>
    total (SenderEvent.weight (SimulationBatch.hasSequence batch.sequence)) log = 0 ∧ Orderly log
  | _ :: log => Orderly log

/-- **What has been sent has been received or is buffered.** -/
def StatefulChannel.Balanced (channel : StatefulChannel SimulationBatch) : Prop :=
  channel.sentBatchesTotal = channel.receivedBatchesTotal + channel.depthBatches ∧
    channel.sentTransactionsTotal = channel.receivedTransactionsTotal +
      channel.bufferedTransactions SimulationBatch.transactions

/-- **The attempt of a worker is the number of attempts at its batch**, within the limit. -/
def SenderWorker.Tracks (log : List SenderEvent) (worker : SenderWorker) : Prop :=
  match worker.state with
  | .idle => True
  | .inFlight flight => attempts flight.batch.sequence log = flight.attempt ∧
      1 ≤ flight.attempt ∧ flight.attempt ≤ retryMaxAttempts
  | .backoff wait => attempts wait.batch.sequence log = wait.attempt ∧
      1 ≤ wait.attempt ∧ wait.attempt < retryMaxAttempts

/-- A worker with another batch goes on tracking its attempts. -/
theorem SenderWorker.Tracks.started {worker : SenderWorker} {batch : SimulationBatch}
    {attempt : ℕ} {log : List SenderEvent} (h : worker.Tracks log)
    (hother : worker.weight (SimulationBatch.hasSequence batch.sequence) = 0) :
    worker.Tracks (.started batch attempt :: log) := by
  rw [SenderWorker.Tracks] at h ⊢
  rw [SenderWorker.weight, SenderWorker.batch] at hother
  have hkey : ∀ b : SimulationBatch, b.hasSequence batch.sequence = 0 →
      attempts b.sequence (.started batch attempt :: log) = attempts b.sequence log := by
    intro b hb
    refine List.countP_cons_of_neg (fun hc => ?_)
    rw [SimulationBatch.hasSequence, if_pos (of_decide_eq_true hc).symm] at hb
    exact absurd hb one_ne_zero
  cases hstate : worker.state with
  | idle => trivial
  | inFlight flight =>
    rw [hstate] at h hother
    exact ⟨(hkey flight.batch hother).trans h.1, h.2⟩
  | backoff wait =>
    rw [hstate] at h hother
    exact ⟨(hkey wait.batch hother).trans h.1, h.2⟩

/-- What is finished starts no attempt. -/
theorem attempts_cons_of_not_started {q : ℕ} {event : SenderEvent} {log : List SenderEvent}
    (h : event.isStart q = false) : attempts q (event :: log) = attempts q log :=
  List.countP_cons_of_neg (Bool.eq_false_iff.mp h)

theorem attempts_started (batch : SimulationBatch) (attempt : ℕ) (log : List SenderEvent) :
    attempts batch.sequence (.started batch attempt :: log) = attempts batch.sequence log + 1 :=
  List.countP_cons_of_pos (decide_eq_true rfl)

namespace FixedStepSimulation

/-- What the workers have, weighed. -/
def owned (f : SimulationBatch → ℕ) (sim : FixedStepSimulation) : ℕ :=
  total (SenderWorker.weight f) sim.workers

/-- What has been finished, weighed. -/
def finished (f : SimulationBatch → ℕ) (sim : FixedStepSimulation) : ℕ :=
  total (SenderEvent.weight f) sim.log

/-- How many attempts are in flight. -/
def inFlightRequests (sim : FixedStepSimulation) : ℕ :=
  total (fun worker => worker.isInFlight.toNat) sim.workers

/-- How often a sequence number occurs where batches wait. -/
def waiting (q : ℕ) (held : Option SimulationBatch) (sim : FixedStepSimulation) : ℕ :=
  total (SimulationBatch.hasSequence q) sim.readerChannel.items +
    held.elim 0 (SimulationBatch.hasSequence q) +
    total (SimulationBatch.hasSequence q) sim.senderChannel.items

/-! ### The invariant -/

/-- The counters, with a batch in hand. -/
structure Counted (hand : Option SimulationBatch) (sim : FixedStepSimulation) : Prop where
  readerChannel : sim.readerChannel.Balanced
  senderChannel : sim.senderChannel.Balanced
  started : sim.totals.requestStartedTotal =
    sim.totals.requestCompletedTotal + sim.inFlightRequests
  completed : sim.totals.requestCompletedTotal =
    sim.totals.requestSucceededTotal + sim.totals.requestFailedTotal
  failed : sim.totals.requestFailedTotal = sim.totals.responseRejectedTotal +
    sim.totals.requestTimedOutTotal + sim.totals.networkErrorTotal
  received : sim.totals.requestStartedTotal + hand.elim 0 (fun _ => 1) =
    sim.senderChannel.receivedBatchesTotal + sim.totals.retryAttemptStartedTotal
  transactions : sim.totals.successfulTransactionsTotal +
    sim.totals.terminalFailedTransactionsTotal + sim.owned SimulationBatch.transactions +
    hand.elim 0 SimulationBatch.transactions = sim.senderChannel.receivedTransactionsTotal

/-- The places of the batches, for what the throttler holds and what is in hand. -/
structure Placed (held hand : Option SimulationBatch) (sim : FixedStepSimulation) : Prop where
  unique : sim.nextWorkerIndex ≠ none → ∀ q, sim.waiting q held +
    hand.elim 0 (SimulationBatch.hasSequence q) + sim.owned (SimulationBatch.hasSequence q) +
    sim.finished (SimulationBatch.hasSequence q) = if q < sim.nextBatchSequence then 1 else 0
  single : ∀ q, sim.owned (SimulationBatch.hasSequence q) +
    sim.finished (SimulationBatch.hasSequence q) ≤ 1

/-- The attempts at the batches. -/
structure Attempted (sim : FixedStepSimulation) : Prop where
  tracks : ∀ worker ∈ sim.workers, worker.Tracks sim.log
  limit : ∀ q, attempts q sim.log ≤ retryMaxAttempts
  fresh : ∀ q, 0 < attempts q sim.log → 0 < sim.owned (SimulationBatch.hasSequence q) +
    sim.finished (SimulationBatch.hasSequence q)
  orderly : Orderly sim.log

/-- **The accounts of a simulation.** -/
structure Accounts (held hand : Option SimulationBatch) (sim : FixedStepSimulation) : Prop where
  counted : sim.Counted hand
  placed : sim.Placed held hand
  attempted : sim.Attempted

variable {source : Option SimulationAttemptOutcomeSource} {sim : FixedStepSimulation}
  {held hand : Option SimulationBatch} {batch : SimulationBatch} {i : ℕ} {worker : SenderWorker}

/-! ### The start of an attempt -/

/-- The fields `startAttempt` may change. -/
theorem exists_startAttempt_eq (source : Option SimulationAttemptOutcomeSource)
    (sim : FixedStepSimulation) (i : ℕ) (batch : SimulationBatch) (attempt : ℕ)
    (hadAmbiguousOutcome : Bool) :
    ∃ outcomeCalls failureCredit activity duplicateRisk flight,
      sim.startAttempt source i batch attempt hadAmbiguousOutcome =
        { sim with
          workers := sim.workers.modify i fun worker => { worker with state := .inFlight flight }
          totals := { sim.totals with
            requestStartedTotal := sim.totals.requestStartedTotal + 1
            retryAttemptStartedTotal :=
              sim.totals.retryAttemptStartedTotal + if 1 < attempt then 1 else 0
            duplicateRiskTransactionsTotal := duplicateRisk }
          activity := activity
          log := .started batch attempt :: sim.log
          outcomeCalls := outcomeCalls
          failureCredit := failureCredit } ∧
      flight.batch = batch ∧ flight.attempt = attempt := by
  have hselect : ∀ context, ∃ outcomeCalls failureCredit,
      (sim.selectOutcome source context).1 =
        { sim with outcomeCalls := outcomeCalls, failureCredit := failureCredit } := by
    intro context
    cases source with
    | some outcomeOf => exact ⟨_, _, rfl⟩
    | none =>
      simp only [selectOutcome, defaultAttemptOutcome, nextRequestFails]
      repeat' split
      all_goals exact ⟨_, _, rfl⟩
  obtain ⟨outcomeCalls, failureCredit, hsim⟩ := hselect
    { batch, attempt
      startedAtMs := sim.elapsedMs
      targetDelayMs := sim.config.targetDelayMs
      targetErrorRatePercent := sim.config.targetErrorRatePercent
      httpTimeoutMs := sim.config.httpTimeoutMs }
  simp only [startAttempt, hsim, modifyWorker]
  exact ⟨_, _, _, _, _, rfl, rfl, rfl⟩

/-- A worker that is idle or has a batch weighs nothing or what the batch does. -/
theorem weight_of_batch (h : worker.batch = none ∨ worker.batch = some batch)
    (f : SimulationBatch → ℕ) : worker.weight f = 0 ∨ worker.weight f = f batch := by
  rw [SenderWorker.weight]
  rcases h with h | h
  · rw [h]
    exact Or.inl rfl
  · rw [h]
    exact Or.inr rfl

theorem hasSequence_self (batch : SimulationBatch) : batch.hasSequence batch.sequence = 1 :=
  if_pos rfl

theorem hasSequence_of_ne {q : ℕ} (h : batch.sequence ≠ q) : batch.hasSequence q = 0 := if_neg h

/-- What an attempt makes of what the workers have. -/
theorem owned_startAttempt (source : Option SimulationAttemptOutcomeSource)
    (batch : SimulationBatch) (attempt : ℕ) (amb : Bool) (hworker : sim.workers[i]? = some worker)
    (f : SimulationBatch → ℕ) :
    (sim.startAttempt source i batch attempt amb).owned f + worker.weight f =
      sim.owned f + f batch := by
  obtain ⟨_, _, _, _, flight, heq, rfl, -⟩ :=
    exists_startAttempt_eq source sim i batch attempt amb
  rw [heq]
  exact total_modify _ hworker

theorem finished_startAttempt (source : Option SimulationAttemptOutcomeSource)
    (sim : FixedStepSimulation) (i : ℕ) (batch : SimulationBatch) (attempt : ℕ) (amb : Bool)
    (f : SimulationBatch → ℕ) :
    (sim.startAttempt source i batch attempt amb).finished f = sim.finished f := by
  obtain ⟨_, _, _, _, flight, heq, -, -⟩ :=
    exists_startAttempt_eq source sim i batch attempt amb
  rw [heq, finished, total_cons]
  exact Nat.zero_add _

/-- **The start of an attempt** of a worker that is idle or has the batch, which is not
finished and no other worker has. -/
theorem Attempted.start {attempt : ℕ} {amb : Bool} (h : sim.Attempted) (hworker : sim.workers[i]? = some worker)
    (hbatch : worker.batch = none ∨ worker.batch = some batch)
    (hattempts : attempts batch.sequence sim.log + 1 = attempt)
    (hlimit : attempt ≤ retryMaxAttempts)
    (howned : sim.owned (SimulationBatch.hasSequence batch.sequence) ≤
      worker.weight (SimulationBatch.hasSequence batch.sequence))
    (hfinished : sim.finished (SimulationBatch.hasSequence batch.sequence) = 0) :
    (sim.startAttempt source i batch attempt amb).Attempted := by
  have hfinished' := finished_startAttempt source sim i batch attempt amb
  have howned' := owned_startAttempt source batch attempt amb hworker
  obtain ⟨_, _, _, _, flight, heq, rfl, rfl⟩ :=
    exists_startAttempt_eq source sim i batch attempt amb
  have hlog : (sim.startAttempt source i flight.batch flight.attempt amb).log =
      .started flight.batch flight.attempt :: sim.log := by rw [heq]
  have hworkers : (sim.startAttempt source i flight.batch flight.attempt amb).workers =
      sim.workers.modify i fun worker => { worker with state := .inFlight flight } := by rw [heq]
  have hother : ∀ q, flight.batch.sequence ≠ q →
      attempts q (.started flight.batch flight.attempt :: sim.log) = attempts q sim.log :=
    fun q hq => attempts_cons_of_not_started (decide_eq_false hq)
  refine ⟨?_, ?_, ?_, ?_⟩
  · intro w hw
    rw [hworkers] at hw
    rw [hlog]
    rcases mem_modify hw with ⟨a, ha, rfl⟩ | ⟨j, hij, hj⟩
    · exact ⟨(attempts_started _ _ _).trans hattempts, by omega, hlimit⟩
    · exact (h.tracks w (List.mem_of_getElem? hj)).started (eq_zero_of_total_le hworker hj hij howned)
  · intro q
    rw [hlog]
    by_cases hq : flight.batch.sequence = q
    · subst hq
      rw [attempts_started, hattempts]
      exact hlimit
    · rw [hother q hq]
      exact h.limit q
  · intro q hpos
    rw [hlog] at hpos
    rw [hfinished' (SimulationBatch.hasSequence q)]
    have howned_q := howned' (SimulationBatch.hasSequence q)
    by_cases hq : flight.batch.sequence = q
    · subst hq
      rw [hasSequence_self] at howned_q
      have hle : worker.weight (SimulationBatch.hasSequence flight.batch.sequence) ≤
          sim.owned (SimulationBatch.hasSequence flight.batch.sequence) :=
        le_total (List.mem_of_getElem? hworker)
      omega
    · rw [hother q hq] at hpos
      rw [hasSequence_of_ne hq] at howned_q
      have hweight : worker.weight (SimulationBatch.hasSequence q) = 0 := by
        rcases weight_of_batch hbatch (SimulationBatch.hasSequence q) with h0 | h0
        · exact h0
        · exact h0.trans (hasSequence_of_ne hq)
      have hfresh := h.fresh q hpos
      omega
  · rw [hlog]
    exact ⟨hfinished, h.orderly⟩

/-- The counters at the start of an attempt, the first of a batch in hand or a later one. -/
theorem Counted.start {attempt : ℕ} {amb : Bool} (h : sim.Counted hand)
    (hworker : sim.workers[i]? = some worker)
    (hflight : worker.isInFlight = false)
    (hkind : attempt = 1 ∧ hand = some batch ∧ worker.batch = none ∨
      1 < attempt ∧ hand = none ∧ worker.batch = some batch) :
    (sim.startAttempt source i batch attempt amb).Counted none := by
  have howned := owned_startAttempt source batch attempt amb hworker SimulationBatch.transactions
  obtain ⟨_, _, _, _, flight, heq, rfl, rfl⟩ :=
    exists_startAttempt_eq source sim i batch attempt amb
  have hflying : (sim.startAttempt source i flight.batch flight.attempt amb).inFlightRequests +
      worker.isInFlight.toNat = sim.inFlightRequests + 1 := by
    rw [heq]
    exact total_modify _ hworker
  rw [hflight] at hflying
  have hstarted := h.started
  have hreceived := h.received
  have htransactions := h.transactions
  rw [heq] at howned hflying ⊢
  refine ⟨h.readerChannel, h.senderChannel, ?_, h.completed, h.failed, ?_, ?_⟩
  · change sim.totals.requestStartedTotal + 1 = sim.totals.requestCompletedTotal + _
    rw [Bool.toNat_false] at hflying
    omega
  · change sim.totals.requestStartedTotal + 1 + 0 = sim.senderChannel.receivedBatchesTotal +
      (sim.totals.retryAttemptStartedTotal + if 1 < flight.attempt then 1 else 0)
    rcases hkind with ⟨hone, rfl, -⟩ | ⟨hmore, rfl, -⟩
    · rw [if_neg (by omega)]
      exact hreceived
    · rw [if_pos hmore]
      change sim.totals.requestStartedTotal + 0 = _ at hreceived
      omega
  · change sim.totals.successfulTransactionsTotal + sim.totals.terminalFailedTransactionsTotal +
      _ + 0 = sim.senderChannel.receivedTransactionsTotal
    rw [SenderWorker.weight] at howned
    rcases hkind with ⟨-, rfl, hnone⟩ | ⟨-, rfl, hsome⟩
    · rw [hnone] at howned
      change _ + flight.batch.transactions = _ at htransactions
      change _ + 0 = _ at howned
      omega
    · rw [hsome] at howned
      change _ + 0 = _ at htransactions
      change _ + flight.batch.transactions = _ at howned
      omega

/-- A batch in hand is with no worker and not finished. -/
theorem Placed.of_hand (h : sim.Placed held (some batch)) (hindex : sim.nextWorkerIndex ≠ none) :
    sim.owned (SimulationBatch.hasSequence batch.sequence) = 0 ∧
      sim.finished (SimulationBatch.hasSequence batch.sequence) = 0 := by
  have hunique := h.unique hindex batch.sequence
  change _ + batch.hasSequence batch.sequence + _ + _ = _ at hunique
  rw [hasSequence_self] at hunique
  split at hunique <;> omega

/-- **The first attempt** at a batch in hand, by an idle worker. -/
theorem Accounts.startFirst {amb : Bool} (h : sim.Accounts held (some batch))
    (hindex : sim.nextWorkerIndex ≠ none) (hworker : sim.workers[i]? = some worker)
    (hidle : worker.state = .idle) :
    (sim.startAttempt source i batch 1 amb).Accounts held none := by
  have hbatch : worker.batch = none := by rw [SenderWorker.batch, hidle]
  have hflight : worker.isInFlight = false := by rw [SenderWorker.isInFlight, hidle]
  obtain ⟨hnotOwned, hnotFinished⟩ := h.placed.of_hand hindex
  have hnew : attempts batch.sequence sim.log = 0 := by
    by_contra hc
    have hfresh := h.attempted.fresh batch.sequence (Nat.pos_of_ne_zero hc)
    omega
  have howned := fun q =>
    owned_startAttempt source batch 1 amb hworker (SimulationBatch.hasSequence q)
  have hfinished := fun q =>
    finished_startAttempt source sim i batch 1 amb (SimulationBatch.hasSequence q)
  have hweight : ∀ f, worker.weight f = 0 := fun f => by rw [SenderWorker.weight, hbatch]; rfl
  refine ⟨h.counted.start hworker hflight (Or.inl ⟨rfl, rfl, hbatch⟩), ⟨?_, fun q => ?_⟩,
    h.attempted.start hworker (Or.inl hbatch) (by rw [hnew]) (by decide) (by omega) hnotFinished⟩
  · intro _ q
    have hunique := h.placed.unique hindex q
    have hq := howned q
    rw [hfinished q]
    rw [hweight] at hq
    obtain ⟨_, _, _, _, flight, heq, -, -⟩ := exists_startAttempt_eq source sim i batch 1 amb
    rw [heq] at hq ⊢
    change _ + batch.hasSequence q + _ + _ = _ at hunique
    change sim.waiting q held + 0 + _ + _ = if q < sim.nextBatchSequence then 1 else 0
    rw [← hunique]
    omega
  · have hq := howned q
    have hsingle := h.placed.single q
    rw [hfinished q]
    rw [hweight] at hq
    by_cases hsame : batch.sequence = q
    · subst hsame
      rw [hasSequence_self] at hq
      omega
    · rw [hasSequence_of_ne hsame] at hq
      omega

/-- **A later attempt**, by the worker that has the batch. -/
theorem Accounts.startRetry {wait : Backoff} (source : Option SimulationAttemptOutcomeSource)
    (amb : Bool) (h : sim.Accounts held hand) (hhand : hand = none)
    (hworker : sim.workers[i]? = some worker) (hstate : worker.state = .backoff wait) :
    (sim.startAttempt source i wait.batch (wait.attempt + 1) amb).Accounts held none := by
  subst hhand
  have hbatch : worker.batch = some wait.batch := by rw [SenderWorker.batch, hstate]
  have hflight : worker.isInFlight = false := by rw [SenderWorker.isInFlight, hstate]
  have htracks := h.attempted.tracks worker (List.mem_of_getElem? hworker)
  rw [SenderWorker.Tracks, hstate] at htracks
  obtain ⟨hattempts, hpos, hlimit⟩ := htracks
  have hweight : ∀ f, worker.weight f = f wait.batch := fun f => by rw [SenderWorker.weight, hbatch]; rfl
  have hle : ∀ f, worker.weight f ≤ sim.owned f := fun f => le_total (List.mem_of_getElem? hworker)
  have hself := hle (SimulationBatch.hasSequence wait.batch.sequence)
  have hsingle := h.placed.single wait.batch.sequence
  rw [hweight, hasSequence_self] at hself
  have howned := fun q => owned_startAttempt source wait.batch (wait.attempt + 1) amb hworker
    (SimulationBatch.hasSequence q)
  have hfinished := fun q => finished_startAttempt source sim i wait.batch (wait.attempt + 1) amb
    (SimulationBatch.hasSequence q)
  have hsame : ∀ q, (sim.startAttempt source i wait.batch (wait.attempt + 1) amb).owned
      (SimulationBatch.hasSequence q) = sim.owned (SimulationBatch.hasSequence q) := fun q => by
    have hq := howned q
    rw [hweight] at hq
    omega
  refine ⟨h.counted.start hworker hflight (Or.inr ⟨by omega, rfl, hbatch⟩), ⟨?_, fun q => ?_⟩,
    h.attempted.start hworker (Or.inr hbatch) (by rw [hattempts]) hlimit ?_ (by omega)⟩
  · intro hindex q
    rw [hsame q, hfinished q]
    obtain ⟨_, _, _, _, flight, heq, -, -⟩ :=
      exists_startAttempt_eq source sim i wait.batch (wait.attempt + 1) amb
    rw [heq] at hindex ⊢
    exact h.placed.unique hindex q
  · rw [hsame q, hfinished q]
    exact h.placed.single q
  · rw [hweight, hasSequence_self]
    omega

end FixedStepSimulation

/-! ### The completion of an attempt -/

/-- **The counters after an attempt is completed**, and how many transactions are then
delivered or given up. -/
structure SimulationTotals.Completes (totals totals' : SimulationTotals) (ok : Bool)
    (delivered lost : ℕ) : Prop where
  started : totals'.requestStartedTotal = totals.requestStartedTotal
  retried : totals'.retryAttemptStartedTotal = totals.retryAttemptStartedTotal
  completed : totals'.requestCompletedTotal = totals.requestCompletedTotal + 1
  succeeded : totals'.requestSucceededTotal = totals.requestSucceededTotal + ok.toNat
  failed : totals'.requestFailedTotal = totals.requestFailedTotal + (!ok).toNat
  kinds : totals'.responseRejectedTotal + totals'.requestTimedOutTotal + totals'.networkErrorTotal =
    totals.responseRejectedTotal + totals.requestTimedOutTotal + totals.networkErrorTotal +
      (!ok).toNat
  delivered : totals'.successfulTransactionsTotal = totals.successfulTransactionsTotal + delivered
  lost : totals'.terminalFailedTransactionsTotal = totals.terminalFailedTransactionsTotal + lost

namespace FixedStepSimulation

variable {source : Option SimulationAttemptOutcomeSource} {sim : FixedStepSimulation}
  {held hand : Option SimulationBatch} {batch : SimulationBatch} {i : ℕ} {worker : SenderWorker}

/-- **What becomes of a batch whose attempt is completed**: it is delivered, it waits for
another attempt, or it is given up. -/
inductive Completion (sim : FixedStepSimulation) (i : ℕ) (flight : InFlight) :
    FixedStepSimulation → Prop
  | delivered (totals : SimulationTotals) (activity : StepActivity)
      (h : sim.totals.Completes totals true flight.batch.transactions 0) :
      Completion sim i flight { sim with
        totals := totals
        activity := activity
        log := .succeeded flight.batch :: sim.log
        workers := sim.workers.modify i fun worker =>
          { worker with terminalError := false, state := .idle } }
  | retried (totals : SimulationTotals) (activity : StepActivity) (wait : Backoff)
      (h : sim.totals.Completes totals false 0 0) (hlimit : flight.attempt < retryMaxAttempts)
      (hbatch : wait.batch = flight.batch) (hattempt : wait.attempt = flight.attempt) :
      Completion sim i flight { sim with
        totals := totals
        activity := activity
        workers := sim.workers.modify i fun worker => { worker with state := .backoff wait } }
  | failed (totals : SimulationTotals) (activity : StepActivity)
      (h : sim.totals.Completes totals false 0 flight.batch.transactions) :
      Completion sim i flight { sim with
        totals := totals
        activity := activity
        log := .failedTerminally flight.batch :: sim.log
        workers := sim.workers.modify i fun worker =>
          { worker with terminalError := true, state := .idle } }

/-- A failed attempt is followed by another one or is the last. -/
theorem completion_of_failure {totals : SimulationTotals} {activity : StepActivity}
    {flight flight' : InFlight} {again : Prop} [Decidable again]
    (h : sim.totals.Completes totals false 0 0) (hagain : again → flight'.attempt < retryMaxAttempts)
    (hbatch : flight'.batch = flight.batch) (hattempt : flight'.attempt = flight.attempt) :
    Completion sim i flight
      (if again then scheduleRetry { sim with totals := totals, activity := activity } i flight'
      else failTerminally { sim with totals := totals, activity := activity } i flight') := by
  by_cases hretry : again
  · rw [if_pos hretry]
    exact .retried totals activity _ h (hattempt ▸ hagain hretry) hbatch hattempt
  · rw [if_neg hretry]
    simp only [failTerminally, releaseWorker, modifyWorker, hbatch]
    exact .failed _ _ ⟨h.started, h.retried, h.completed, h.succeeded, h.failed, h.kinds,
      h.delivered, congrArg (· + _) h.lost⟩

theorem completion_completeAttempt (sim : FixedStepSimulation) (i : ℕ) (flight : InFlight) :
    Completion sim i flight (sim.completeAttempt i flight) := by
  cases houtcome : flight.outcome with
  | httpResponse statusCode =>
    by_cases hsuccess : Number.le (200 : ℕ) statusCode ∧ statusCode.lt (300 : ℕ)
    · simp only [completeAttempt, houtcome, if_pos hsuccess]
      exact .delivered _ _ ⟨rfl, rfl, rfl, rfl, rfl, rfl, rfl, rfl⟩
    · simp only [completeAttempt, houtcome, if_neg hsuccess]
      exact completion_of_failure
        ⟨rfl, rfl, rfl, rfl, rfl, by simp only [Bool.not_false, Bool.toNat_true]; omega,
          rfl, rfl⟩ And.right rfl rfl
  | timeout =>
    simp only [completeAttempt, houtcome]
    exact completion_of_failure
      ⟨rfl, rfl, rfl, rfl, rfl, by simp; omega, rfl, rfl⟩ id rfl rfl
  | networkError =>
    simp only [completeAttempt, houtcome]
    exact completion_of_failure
      ⟨rfl, rfl, rfl, rfl, rfl, by simp; omega, rfl, rfl⟩ id rfl rfl

/-- The counters after a completion, for what it makes of the workers. -/
theorem Counted.settle {totals : SimulationTotals} {activity : StepActivity}
    {log : List SenderEvent} {workers : List SenderWorker} {ok : Bool} {delivered lost : ℕ}
    (h : sim.Counted none) (ht : sim.totals.Completes totals ok delivered lost)
    (hflying : total (fun worker => worker.isInFlight.toNat) workers + 1 = sim.inFlightRequests)
    (howned : total (SenderWorker.weight SimulationBatch.transactions) workers + delivered + lost =
      sim.owned SimulationBatch.transactions) :
    Counted none { sim with
      totals := totals, activity := activity, log := log, workers := workers } := by
  obtain ⟨h1, h2, h3, h4, h5, h6, h7, h8⟩ := ht
  have hstarted := h.started
  have hcompleted := h.completed
  have hfailed := h.failed
  have hok : ok.toNat + (!ok).toNat = 1 := by cases ok <;> rfl
  refine ⟨h.readerChannel, h.senderChannel, ?_, ?_, ?_, ?_, ?_⟩
  · change totals.requestStartedTotal = totals.requestCompletedTotal + total _ workers
    omega
  · change totals.requestCompletedTotal = totals.requestSucceededTotal + totals.requestFailedTotal
    omega
  · change totals.requestFailedTotal = totals.responseRejectedTotal + totals.requestTimedOutTotal +
      totals.networkErrorTotal
    omega
  · change totals.requestStartedTotal + _ = _ + totals.retryAttemptStartedTotal
    rw [h1, h2]
    exact h.received
  · have hreceived := h.transactions
    change _ + _ + _ + 0 = _ at hreceived
    change totals.successfulTransactionsTotal + totals.terminalFailedTransactionsTotal +
      total _ workers + 0 = sim.senderChannel.receivedTransactionsTotal
    omega

/-- The places of the batches after a completion. -/
theorem Placed.settle {totals : SimulationTotals} {activity : StepActivity}
    {log : List SenderEvent} {workers : List SenderWorker} (h : sim.Placed held hand)
    (hsame : ∀ q, total (SenderWorker.weight (SimulationBatch.hasSequence q)) workers +
      total (SenderEvent.weight (SimulationBatch.hasSequence q)) log =
        sim.owned (SimulationBatch.hasSequence q) + sim.finished (SimulationBatch.hasSequence q)) :
    Placed held hand { sim with
      totals := totals, activity := activity, log := log, workers := workers } := by
  refine ⟨fun hindex q => ?_, fun q => (hsame q).trans_le (h.single q)⟩
  have hunique := h.unique hindex q
  have hq := hsame q
  change sim.waiting q held + _ + total _ workers + total _ log =
    if q < sim.nextBatchSequence then 1 else 0
  omega

/-- The attempts after a completion. -/
theorem Attempted.settle {totals : SimulationTotals} {activity : StepActivity}
    {log : List SenderEvent} {f : SenderWorker → SenderWorker} (h : sim.Attempted)
    (hworker : sim.workers[i]? = some worker) (hnew : (f worker).Tracks sim.log)
    (hlog : log = sim.log ∨ ∃ event, log = event :: sim.log ∧
      (∀ q, event.isStart q = false) ∧ ∀ l, Orderly l → Orderly (event :: l))
    (hsame : ∀ q, total (SenderWorker.weight (SimulationBatch.hasSequence q))
        (sim.workers.modify i f) +
      total (SenderEvent.weight (SimulationBatch.hasSequence q)) log =
        sim.owned (SimulationBatch.hasSequence q) + sim.finished (SimulationBatch.hasSequence q)) :
    Attempted { sim with
      totals := totals, activity := activity, log := log, workers := sim.workers.modify i f } := by
  have hattempts : ∀ q, attempts q log = attempts q sim.log := by
    intro q
    rcases hlog with rfl | ⟨event, rfl, hevent, -⟩
    · rfl
    · exact attempts_cons_of_not_started (hevent q)
  have htracks : ∀ w : SenderWorker, w.Tracks sim.log → w.Tracks log := by
    intro w hw
    rw [SenderWorker.Tracks] at hw ⊢
    cases hstate : w.state with
    | idle => trivial
    | inFlight flight =>
      rw [hstate] at hw
      exact ⟨(hattempts _).trans hw.1, hw.2⟩
    | backoff wait =>
      rw [hstate] at hw
      exact ⟨(hattempts _).trans hw.1, hw.2⟩
  refine ⟨fun w hw => ?_, fun q => (hattempts q).trans_le (h.limit q), fun q hq => ?_, ?_⟩
  · rcases mem_modify hw with ⟨a, ha, rfl⟩ | ⟨j, -, hj⟩
    · obtain rfl : worker = a := Option.some.inj (hworker.symm.trans ha)
      exact htracks _ hnew
    · exact htracks w (h.tracks w (List.mem_of_getElem? hj))
  · exact (h.fresh q (hattempts q ▸ hq)).trans_eq (hsame q).symm
  · rcases hlog with rfl | ⟨event, rfl, -, horderly⟩
    · exact h.orderly
    · exact horderly _ h.orderly

/-- A batch that leaves its worker is finished. -/
theorem owned_add_finished_release (f : SenderWorker → SenderWorker) (event : SenderEvent)
    (g : SimulationBatch → ℕ) (hworker : sim.workers[i]? = some worker)
    (hevent : event.weight g = worker.weight g) (hidle : (f worker).weight g = 0) :
    total (SenderWorker.weight g) (sim.workers.modify i f) +
      total (SenderEvent.weight g) (event :: sim.log) = sim.owned g + sim.finished g := by
  have hmodify := total_modify (g := SenderWorker.weight g) f hworker
  rw [hidle, add_zero] at hmodify
  rw [total_cons, hevent, ← add_assoc, hmodify]
  rfl

/-- **An attempt is completed.** -/
theorem Accounts.complete {sim' : FixedStepSimulation} {flight : InFlight}
    (h : sim.Accounts held none) (hworker : sim.workers[i]? = some worker)
    (hstate : worker.state = .inFlight flight) (hsim : Completion sim i flight sim') :
    sim'.Accounts held none := by
  have hweight : ∀ f, worker.weight f = f flight.batch := fun f => by
    rw [SenderWorker.weight, SenderWorker.batch, hstate]
    rfl
  have hflying : worker.isInFlight.toNat = 1 := by
    rw [SenderWorker.isInFlight, hstate]
    rfl
  have hin := fun f : SenderWorker → SenderWorker =>
    total_modify (g := fun worker => worker.isInFlight.toNat) f hworker
  have howned := fun (g : SimulationBatch → ℕ) (f : SenderWorker → SenderWorker) =>
    total_modify (g := SenderWorker.weight g) f hworker
  have htracks := h.attempted.tracks worker (List.mem_of_getElem? hworker)
  rw [SenderWorker.Tracks, hstate] at htracks
  simp only [hflying] at hin
  simp only [hweight] at howned
  cases hsim with
  | delivered totals activity ht =>
    have hsame := fun q => owned_add_finished_release
      (fun worker => { worker with terminalError := false, state := .idle })
      (.succeeded flight.batch) (SimulationBatch.hasSequence q) hworker
      (hweight (SimulationBatch.hasSequence q)).symm rfl
    exact ⟨h.counted.settle ht (hin _) (howned _ _), h.placed.settle hsame,
      h.attempted.settle hworker trivial
        (Or.inr ⟨_, rfl, fun _ => rfl, fun _ hl => hl⟩) hsame⟩
  | retried totals activity wait ht hlimit hb ha =>
    have hsame : ∀ q, total (SenderWorker.weight (SimulationBatch.hasSequence q))
        (sim.workers.modify i fun worker => { worker with state := .backoff wait }) +
        total (SenderEvent.weight (SimulationBatch.hasSequence q)) sim.log =
        sim.owned (SimulationBatch.hasSequence q) + sim.finished (SimulationBatch.hasSequence q) := by
      intro q
      have hq := howned (SimulationBatch.hasSequence q)
        fun worker => { worker with state := .backoff wait }
      change _ = _ + wait.batch.hasSequence q at hq
      rw [hb, add_right_cancel_iff] at hq
      rw [hq]
      rfl
    have htx := howned SimulationBatch.transactions fun worker => { worker with state := .backoff wait }
    change _ = _ + wait.batch.transactions at htx
    rw [hb, add_right_cancel_iff] at htx
    refine ⟨h.counted.settle ht (hin _) htx, h.placed.settle hsame,
      h.attempted.settle hworker ?_ (Or.inl rfl) hsame⟩
    rw [SenderWorker.Tracks]
    change attempts wait.batch.sequence sim.log = wait.attempt ∧ _
    rw [hb, ha]
    exact ⟨htracks.1, htracks.2.1, hlimit⟩
  | failed totals activity ht =>
    have hsame := fun q => owned_add_finished_release
      (fun worker => { worker with terminalError := true, state := .idle })
      (.failedTerminally flight.batch) (SimulationBatch.hasSequence q) hworker
      (hweight (SimulationBatch.hasSequence q)).symm rfl
    exact ⟨h.counted.settle ht (hin _) (howned _ _), h.placed.settle hsame,
      h.attempted.settle hworker trivial
        (Or.inr ⟨_, rfl, fun _ => rfl, fun _ hl => hl⟩) hsame⟩

end FixedStepSimulation

end IngestionLab.Frontend
