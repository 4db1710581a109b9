import IngestionLab.Frontend.Loadgen
import IngestionLab.Machine.Run
import IngestionLab.Machine.Throwing
import Mathlib.Algebra.Order.Floor.Defs

/-!
# The simulated pipeline

The model of `model/simulation.ts`, without what it only reports: a reader, a throttler
and a pool of sender workers with two channels between them, advanced by steps of ten
milliseconds.

* A batch is in one place at a time: in the reader channel, held by the throttler, in the
  sender channel, or with a sender worker, whose state carries it
  (`IngestionLab.Frontend.SenderWorkerState`), so that a worker that is busy without a
  batch cannot be built.
* The index of the worker to be asked next is absent where the source has `NaN`, the
  remainder of a division by zero. A step that reads a worker there throws, and leaves
  the state it has come to (`IngestionLab.Throwing`).
* What an attempt comes to is said by a source that may answer every call differently.

Amounts of tokens and of credit are rationals. One field only observes the code: the log
of what has become of the batches.
-/

namespace IngestionLab.Frontend

open JS

/-! ### Constants -/

/-- `FIXED_STEP_MS`. -/
def fixedStepMs : ℕ := 10

/-- `RETRY_MAX_ATTEMPTS`. -/
def retryMaxAttempts : ℕ := 3

/-- `RETRY_BACKOFF_BASE_MS`. -/
def retryBackoffBaseMs : ℕ := 250

/-- `RETRY_BACKOFF_MULTIPLIER`. -/
def retryBackoffMultiplier : ℕ := 2

/-- `RETRYABLE_STATUS_CODES`. -/
def retryableStatusCodes : List ℕ := [408, 425, 429, 500, 502, 503, 504]

/-- `RATE_WINDOW_STEPS`. -/
def rateWindowSteps : ℕ := 100

/-- `READER_TRANSACTIONS_PER_WORKER_SECOND`. -/
def readerTransactionsPerWorkerSecond : ℕ := 50000

/-- `RETRY_JITTER_FACTORS`. -/
def retryJitterFactors : List ℚ := [4 / 5, 9 / 10, 1, 11 / 10, 6 / 5]

/-! ### Data -/

structure SimulationConfig where
  readerWorkers : ℕ
  senderWorkers : ℕ
  requestedTps : ℚ
  throttlerInstalled : Bool
  readBatchSize : ℕ
  httpTimeoutMs : ℚ
  targetDelayMs : ℚ
  targetErrorRatePercent : ℚ
  deriving DecidableEq, Repr

structure SimulationBatch where
  sequence : ℕ
  identity : String
  transactions : ℕ
  deriving DecidableEq, Repr

structure SimulationAttemptContext where
  batch : SimulationBatch
  attempt : ℕ
  startedAtMs : ℕ
  targetDelayMs : ℚ
  targetErrorRatePercent : ℚ
  httpTimeoutMs : ℚ

/-- The `kind` of a `SimulationAttemptOutcome`, with its status code. -/
inductive AttemptOutcome
  | httpResponse (statusCode : Number)
  | timeout
  | networkError
  deriving DecidableEq, Repr

/-- `SimulationAttemptOutcome`. -/
structure SimulationAttemptOutcome where
  kind : AttemptOutcome
  latencyMs : Number

/-- **`SimulationAttemptOutcomeSource`**, which may answer each of its calls differently:
it is given the number of the call. -/
abbrev SimulationAttemptOutcomeSource := ℕ → SimulationAttemptContext → SimulationAttemptOutcome

structure ChannelActivity where
  inputBatches : ℕ := 0
  inputTransactions : ℕ := 0
  outputBatches : ℕ := 0
  outputTransactions : ℕ := 0
  handoffBatches : ℕ := 0
  deriving DecidableEq, Repr

structure StepActivity where
  readerChannel : ChannelActivity := {}
  senderChannel : ChannelActivity := {}
  httpStartedTransactions : ℕ := 0
  httpRetryStartedTransactions : ℕ := 0
  httpCompletedTransactions : ℕ := 0
  httpSucceededTransactions : ℕ := 0
  httpRejectedTransactions : ℕ := 0
  terminalFailedTransactions : ℕ := 0
  deriving DecidableEq, Repr

structure AdmissionResult where
  senderChannelBlocked : Bool
  tokenLimited : Bool

structure ReaderProductionResult extends AdmissionResult where
  readerChannelBlocked : Bool

/-- An attempt in flight. -/
structure InFlight where
  batch : SimulationBatch
  attempt : ℕ
  completeAtMs : ℕ
  outcome : AttemptOutcome
  attemptLatencyMs : ℕ
  hadAmbiguousOutcome : Bool
  deriving DecidableEq, Repr

/-- A batch that waits for its next attempt. -/
structure Backoff where
  batch : SimulationBatch
  attempt : ℕ
  retryAtMs : ℕ
  hadAmbiguousOutcome : Bool
  deriving DecidableEq, Repr

/-- **The state of a sender worker**, with what belongs to it. -/
inductive SenderWorkerState
  | idle
  | inFlight (flight : InFlight)
  | backoff (wait : Backoff)
  deriving DecidableEq, Repr

/-- `SenderWorker`. -/
structure SenderWorker where
  workerId : ℕ
  retiring : Bool := false
  terminalError : Bool := false
  state : SenderWorkerState := .idle
  deriving DecidableEq, Repr

/-- The batch of a worker. -/
def SenderWorker.batch (worker : SenderWorker) : Option SimulationBatch :=
  match worker.state with
  | .idle => none
  | .inFlight flight => some flight.batch
  | .backoff wait => some wait.batch

/-- The attempt of a worker is in flight. -/
def SenderWorker.isInFlight (worker : SenderWorker) : Bool :=
  match worker.state with
  | .inFlight _ => true
  | _ => false

/-- `createWorker`. -/
def createWorker (workerId : ℕ) : SenderWorker where
  workerId := workerId

/-- `roundedStepDuration`. -/
def roundedStepDuration (durationMs : Number) : ℕ :=
  match durationMs with
  | .finite duration => ⌈max 0 duration / fixedStepMs⌉₊ * fixedStepMs
  | _ => fixedStepMs

/-- `deterministicRetryDelayMs`. -/
def deterministicRetryDelayMs (batchSequence retryNumber : ℕ) : ℕ :=
  let nominal := retryBackoffBaseMs * retryBackoffMultiplier ^ (retryNumber - 1)
  let factorIndex := (batchSequence + retryNumber) % retryJitterFactors.length
  roundedStepDuration (.finite (nominal * retryJitterFactors.getD factorIndex 0))

/-! ### Channels -/

/-- **`StatefulChannel`.** -/
structure StatefulChannel (Item : Type) where
  items : List Item := []
  appliedCapacity : ℕ
  previewCapacity : Option ℕ := none
  pendingCapacity : Option ℕ := none
  blockedForMs : ℕ := 0
  sentBatchesTotal : ℕ := 0
  sentTransactionsTotal : ℕ := 0
  receivedBatchesTotal : ℕ := 0
  receivedTransactionsTotal : ℕ := 0
  handoffBatchesTotal : ℕ := 0
  blockedMsTotal : ℕ := 0
  blockedSenders : ℕ := 0
  deriving DecidableEq, Repr

namespace StatefulChannel

variable {Item : Type} (transactionsOf : Item → ℕ) (channel : StatefulChannel Item)

/-- `depthBatches`. -/
def depthBatches : ℕ := channel.items.length

/-- `bufferedTransactions`. -/
def bufferedTransactions : ℕ := (channel.items.map transactionsOf).sum

/-- `requestCapacity`; whether anything has changed. -/
def requestCapacity (capacity : ℕ) : StatefulChannel Item × Bool :=
  if capacity = channel.appliedCapacity ∧ channel.previewCapacity = none ∧
      channel.pendingCapacity = none then (channel, false)
  else if channel.depthBatches ≤ capacity then
    ({ channel with
      appliedCapacity := capacity
      previewCapacity := none
      pendingCapacity := none }, true)
  else ({ channel with previewCapacity := some capacity, pendingCapacity := some capacity }, true)

/-- `recordInput`. -/
def recordInput (item : Item) : StatefulChannel Item :=
  { channel with
    sentBatchesTotal := channel.sentBatchesTotal + 1
    sentTransactionsTotal := channel.sentTransactionsTotal + transactionsOf item }

/-- `recordOutput`. -/
def recordOutput (item : Item) : StatefulChannel Item :=
  { channel with
    receivedBatchesTotal := channel.receivedBatchesTotal + 1
    receivedTransactionsTotal := channel.receivedTransactionsTotal + transactionsOf item }

/-- `applyPendingCapacity`. -/
def applyPendingCapacity : StatefulChannel Item :=
  match channel.pendingCapacity with
  | none => channel
  | some capacity =>
    if channel.depthBatches ≤ capacity then
      { channel with
        appliedCapacity := capacity
        previewCapacity := none
        pendingCapacity := none }
    else channel

/-- The larger of the capacity applied and the one that is pending. -/
def largestCapacity : ℕ := max channel.appliedCapacity (channel.pendingCapacity.getD 0)

/-- A send is admitted. -/
def admits : Bool := channel.appliedCapacity ≠ 0 ∧ channel.depthBatches < channel.appliedCapacity

/-- `send`, where it is admitted. -/
def send (item : Item) : StatefulChannel Item :=
  recordInput transactionsOf { channel with items := channel.items ++ [item] } item

/-- `receive`. -/
def receive : StatefulChannel Item × Option Item :=
  match channel.items with
  | [] => (channel, none)
  | item :: items =>
    ((recordOutput transactionsOf { channel with items := items } item).applyPendingCapacity,
      some item)

/-- `handoff`. -/
def handoff (item : Item) : StatefulChannel Item :=
  let channel := recordOutput transactionsOf (recordInput transactionsOf channel item) item
  { channel with handoffBatchesTotal := channel.handoffBatchesTotal + 1 }

/-- `observeBlocked`. -/
def observeBlocked (blocked senderProgressed : Bool) : StatefulChannel Item :=
  if blocked then
    { channel with
      blockedSenders := 1
      blockedForMs := if senderProgressed then fixedStepMs else channel.blockedForMs + fixedStepMs
      blockedMsTotal := channel.blockedMsTotal + fixedStepMs }
  else { channel with blockedSenders := 0, blockedForMs := 0 }

/-- `resetRuntime`. -/
def resetRuntime : StatefulChannel Item where
  appliedCapacity := channel.pendingCapacity.getD channel.appliedCapacity

end StatefulChannel

/-- What a batch that has been sent adds to the activity of a channel. -/
def ChannelActivity.input (activity : ChannelActivity) (batch : SimulationBatch) :
    ChannelActivity :=
  { activity with
    inputBatches := activity.inputBatches + 1
    inputTransactions := activity.inputTransactions + batch.transactions }

/-- What a batch that has been received adds to the activity of a channel. -/
def ChannelActivity.output (activity : ChannelActivity) (batch : SimulationBatch) :
    ChannelActivity :=
  { activity with
    outputBatches := activity.outputBatches + 1
    outputTransactions := activity.outputTransactions + batch.transactions }

/-- What a batch that has been handed off adds to the activity of a channel. -/
def ChannelActivity.handoff (activity : ChannelActivity) (batch : SimulationBatch) :
    ChannelActivity :=
  let activity := (activity.input batch).output batch
  { activity with handoffBatches := activity.handoffBatches + 1 }

/-! ### The simulation -/

/-- The counters of the simulation, and what was seen last. -/
structure SimulationTotals where
  latestStatusCode : Option Number := none
  lastOutcome : Option HttpOutcomeKind := none
  latestLatencyMs : Option ℕ := none
  latestResponseLatencyMs : Option ℕ := none
  requestStartedTotal : ℕ := 0
  retryAttemptStartedTotal : ℕ := 0
  requestCompletedTotal : ℕ := 0
  requestSucceededTotal : ℕ := 0
  requestFailedTotal : ℕ := 0
  responseRejectedTotal : ℕ := 0
  requestTimedOutTotal : ℕ := 0
  networkErrorTotal : ℕ := 0
  http503ResponseTotal : ℕ := 0
  successfulTransactionsTotal : ℕ := 0
  failedAttemptTransactionsTotal : ℕ := 0
  terminalFailedBatchesTotal : ℕ := 0
  terminalFailedTransactionsTotal : ℕ := 0
  ambiguousTimeoutTransactionsTotal : ℕ := 0
  duplicateRiskTransactionsTotal : ℕ := 0
  ambiguousTerminalTransactionsTotal : ℕ := 0
  deriving DecidableEq, Repr

/-- What becomes of a batch with the sender. -/
inductive SenderEvent
  | started (batch : SimulationBatch) (attempt : ℕ)
  | succeeded (batch : SimulationBatch)
  | failedTerminally (batch : SimulationBatch)
  deriving DecidableEq, Repr

/-- **`FixedStepSimulation`.** The activity of the step that is being made is a field, and
so is the number of calls of the outcome source. The log, its latest event first, only
observes. -/
structure FixedStepSimulation where
  config : SimulationConfig
  readerChannel : StatefulChannel SimulationBatch
  senderChannel : StatefulChannel SimulationBatch
  activities : List StepActivity := []
  activity : StepActivity := {}
  workers : List SenderWorker
  nextWorkerIndex : Option ℕ := some 0
  readerTransactionCredit : ℚ := 0
  throttlerTokens : ℚ := 0
  pendingThrottledBatch : Option SimulationBatch := none
  nextBatchSequence : ℕ := 0
  failureCredit : ℚ := 0
  totals : SimulationTotals := {}
  elapsedMs : ℕ := 0
  limitedMs : ℕ := 0
  outcomeCalls : ℕ := 0
  log : List SenderEvent := []
  deriving DecidableEq, Repr

/-- The workers a simulation starts with. -/
def createWorkers (count : ℕ) : List SenderWorker := (List.range count).map createWorker

/-- The constructor of `FixedStepSimulation`. -/
def createSimulation (config : SimulationConfig) (readerChannelCapacity senderChannelCapacity : ℕ) :
    FixedStepSimulation where
  config := config
  readerChannel := { appliedCapacity := readerChannelCapacity }
  senderChannel := { appliedCapacity := senderChannelCapacity }
  workers := createWorkers config.senderWorkers

namespace FixedStepSimulation

variable (source : Option SimulationAttemptOutcomeSource) (sim : FixedStepSimulation)

/-- Change a worker. -/
def modifyWorker (index : ℕ) (f : SenderWorker → SenderWorker) : FixedStepSimulation :=
  { sim with workers := sim.workers.modify index f }

/-! ### Attempts -/

/-- `nextRequestFails`. -/
def nextRequestFails : FixedStepSimulation × Bool :=
  let failureCredit := sim.failureCredit + sim.config.targetErrorRatePercent
  if failureCredit < 100 then ({ sim with failureCredit }, false)
  else ({ sim with failureCredit := failureCredit - 100 }, true)

/-- `defaultAttemptOutcome`. -/
def defaultAttemptOutcome (context : SimulationAttemptContext) :
    FixedStepSimulation × SimulationAttemptOutcome :=
  let targetLatencyMs := context.targetDelayMs + 5
  if context.httpTimeoutMs < targetLatencyMs then
    (sim, ⟨.timeout, .finite context.httpTimeoutMs⟩)
  else
    let (sim, fails) := sim.nextRequestFails
    (sim, ⟨.httpResponse (if fails then (503 : ℕ) else (200 : ℕ)), .finite targetLatencyMs⟩)

/-- The outcome of the next attempt. -/
def selectOutcome (context : SimulationAttemptContext) :
    FixedStepSimulation × SimulationAttemptOutcome :=
  match source with
  | some outcomeOf =>
    ({ sim with outcomeCalls := sim.outcomeCalls + 1 }, outcomeOf sim.outcomeCalls context)
  | none => sim.defaultAttemptOutcome context

/-- **`startAttempt`**, of a batch the worker is given or already has. -/
def startAttempt (index : ℕ) (batch : SimulationBatch) (attempt : ℕ)
    (hadAmbiguousOutcome : Bool) : FixedStepSimulation :=
  let context : SimulationAttemptContext :=
    { batch
      attempt
      startedAtMs := sim.elapsedMs
      targetDelayMs := sim.config.targetDelayMs
      targetErrorRatePercent := sim.config.targetErrorRatePercent
      httpTimeoutMs := sim.config.httpTimeoutMs }
  let (sim, selected) := sim.selectOutcome source context
  let latencyMs := roundedStepDuration selected.latencyMs
  let sim := sim.modifyWorker index fun worker => { worker with
    state := .inFlight
      { batch
        attempt
        completeAtMs := sim.elapsedMs + latencyMs
        outcome := selected.kind
        attemptLatencyMs := latencyMs
        hadAmbiguousOutcome } }
  { sim with
    totals := { sim.totals with
      requestStartedTotal := sim.totals.requestStartedTotal + 1
      retryAttemptStartedTotal := sim.totals.retryAttemptStartedTotal + if 1 < attempt then 1 else 0
      duplicateRiskTransactionsTotal := sim.totals.duplicateRiskTransactionsTotal +
        if 1 < attempt ∧ hadAmbiguousOutcome then batch.transactions else 0 }
    activity := { sim.activity with
      httpStartedTransactions := sim.activity.httpStartedTransactions + batch.transactions
      httpRetryStartedTransactions := sim.activity.httpRetryStartedTransactions +
        if 1 < attempt then batch.transactions else 0 }
    log := .started batch attempt :: sim.log }

/-- `releaseWorker`, where `terminalError` is what has been set before. -/
def releaseWorker (index : ℕ) (terminalError : Bool) : FixedStepSimulation :=
  sim.modifyWorker index fun worker => { worker with terminalError, state := .idle }

/-- `scheduleRetry`. -/
def scheduleRetry (index : ℕ) (flight : InFlight) : FixedStepSimulation :=
  sim.modifyWorker index fun worker => { worker with
    state := .backoff
      { batch := flight.batch
        attempt := flight.attempt
        retryAtMs := sim.elapsedMs +
          deterministicRetryDelayMs flight.batch.sequence flight.attempt
        hadAmbiguousOutcome := flight.hadAmbiguousOutcome } }

/-- `failTerminally`. -/
def failTerminally (index : ℕ) (flight : InFlight) : FixedStepSimulation :=
  let batch := flight.batch
  let sim := { sim with
    totals := { sim.totals with
      terminalFailedBatchesTotal := sim.totals.terminalFailedBatchesTotal + 1
      terminalFailedTransactionsTotal :=
        sim.totals.terminalFailedTransactionsTotal + batch.transactions
      ambiguousTerminalTransactionsTotal := sim.totals.ambiguousTerminalTransactionsTotal +
        if flight.hadAmbiguousOutcome then batch.transactions else 0 }
    activity := { sim.activity with
      terminalFailedTransactions := sim.activity.terminalFailedTransactions + batch.transactions }
    log := .failedTerminally batch :: sim.log }
  sim.releaseWorker index true

/-- A successful response. -/
def succeed (index : ℕ) (batch : SimulationBatch) : FixedStepSimulation :=
  let sim := { sim with
    totals := { sim.totals with
      requestSucceededTotal := sim.totals.requestSucceededTotal + 1
      successfulTransactionsTotal := sim.totals.successfulTransactionsTotal + batch.transactions }
    activity := { sim.activity with
      httpSucceededTransactions := sim.activity.httpSucceededTransactions + batch.transactions }
    log := .succeeded batch :: sim.log }
  sim.releaseWorker index false

/-- A response that is not a success. -/
def reject (batch : SimulationBatch) (statusCode : Number) : FixedStepSimulation :=
  { sim with
    totals := { sim.totals with
      requestFailedTotal := sim.totals.requestFailedTotal + 1
      responseRejectedTotal := sim.totals.responseRejectedTotal + 1
      failedAttemptTransactionsTotal :=
        sim.totals.failedAttemptTransactionsTotal + batch.transactions
      http503ResponseTotal := sim.totals.http503ResponseTotal +
        if statusCode = (503 : ℕ) then 1 else 0 }
    activity := { sim.activity with
      httpRejectedTransactions := sim.activity.httpRejectedTransactions + batch.transactions } }

/-- An attempt without a response. -/
def lose (batch : SimulationBatch) (timedOut : Bool) : FixedStepSimulation :=
  { sim with
    totals := { sim.totals with
      requestFailedTotal := sim.totals.requestFailedTotal + 1
      failedAttemptTransactionsTotal :=
        sim.totals.failedAttemptTransactionsTotal + batch.transactions
      latestStatusCode := none
      lastOutcome := some (if timedOut then .timeout else .networkError)
      requestTimedOutTotal := sim.totals.requestTimedOutTotal + if timedOut then 1 else 0
      ambiguousTimeoutTransactionsTotal := sim.totals.ambiguousTimeoutTransactionsTotal +
        if timedOut then batch.transactions else 0
      networkErrorTotal := sim.totals.networkErrorTotal + if timedOut then 0 else 1 } }

/-- **`completeAttempt`.** -/
def completeAttempt (index : ℕ) (flight : InFlight) : FixedStepSimulation :=
  let sim := { sim with
    totals := { sim.totals with
      requestCompletedTotal := sim.totals.requestCompletedTotal + 1
      latestLatencyMs := some flight.attemptLatencyMs }
    activity := { sim.activity with
      httpCompletedTransactions :=
        sim.activity.httpCompletedTransactions + flight.batch.transactions } }
  match flight.outcome with
  | .httpResponse statusCode =>
    let sim := { sim with
      totals := { sim.totals with
        lastOutcome := some .httpResponse
        latestStatusCode := some statusCode
        latestResponseLatencyMs := some flight.attemptLatencyMs } }
    if Number.le (200 : ℕ) statusCode ∧ statusCode.lt (300 : ℕ) then
      sim.succeed index flight.batch
    else
      let sim := sim.reject flight.batch statusCode
      if statusCode ∈ retryableStatusCodes.map (fun code => (code : Number)) ∧
          flight.attempt < retryMaxAttempts then
        sim.scheduleRetry index flight
      else sim.failTerminally index flight
  | .timeout | .networkError =>
    let flight := { flight with hadAmbiguousOutcome := true }
    let sim := sim.lose flight.batch (flight.outcome = .timeout)
    if flight.attempt < retryMaxAttempts then sim.scheduleRetry index flight
    else sim.failTerminally index flight

/-- What `completeDueAttempts` does to a worker. -/
def completeDue (index : ℕ) : FixedStepSimulation :=
  match sim.workers[index]?.map SenderWorker.state with
  | some (.inFlight flight) =>
    if sim.elapsedMs < flight.completeAtMs then sim else sim.completeAttempt index flight
  | _ => sim

/-- **`completeDueAttempts`.** -/
def completeDueAttempts : FixedStepSimulation :=
  (List.range sim.workers.length).foldl completeDue sim

/-- What `startDueRetries` does to a worker. -/
def startDue (index : ℕ) : FixedStepSimulation :=
  match sim.workers[index]?.map SenderWorker.state with
  | some (.backoff wait) =>
    if sim.elapsedMs < wait.retryAtMs then sim
    else sim.startAttempt source index wait.batch (wait.attempt + 1) wait.hadAmbiguousOutcome
  | _ => sim

/-- **`startDueRetries`.** -/
def startDueRetries : FixedStepSimulation :=
  (List.range sim.workers.length).foldl (startDue source) sim

/-! ### Workers -/

/-- **`finalizeSenderScaleDown`.** The next index becomes `NaN` where no worker is left. -/
def finalizeSenderScaleDown : FixedStepSimulation :=
  let retiring := sim.workers.filter (·.retiring)
  if retiring = [] ∨ ∃ worker ∈ retiring, worker.state ≠ .idle then sim
  else
    let workers := sim.workers.filter fun worker => !worker.retiring
    { sim with
      workers
      nextWorkerIndex := sim.nextWorkerIndex.bind fun index =>
        if workers.length = 0 then none else some (index % workers.length) }

/-- **`requestSenderWorkerCount`.** -/
def requestSenderWorkerCount (requested : ℕ) : FixedStepSimulation :=
  let workers := sim.workers.map fun worker => { worker with retiring := false }
  if workers.length < requested then
    { sim with
      workers := workers ++
        (List.range' workers.length (requested - workers.length)).map createWorker }
  else if requested = workers.length then { sim with workers }
  else
    let workers := workers.take requested ++
      (workers.drop requested).map fun worker => { worker with retiring := true }
    finalizeSenderScaleDown { sim with workers }

/-- A worker that takes the next batch. -/
def isAvailable (index : ℕ) : Bool :=
  (sim.workers[index]?).any fun worker => !worker.retiring && worker.state = .idle

/-- **`nextIdleWorker`.** It throws where it reads the worker at `NaN`. -/
def nextIdleWorker : Except FixedStepSimulation (FixedStepSimulation × Option ℕ) :=
  match sim.nextWorkerIndex with
  | none => if sim.workers = [] then pure (sim, none) else throw sim
  | some next =>
    let indices := (List.range sim.workers.length).map fun offset =>
      (next + offset) % sim.workers.length
    match indices.find? sim.isAvailable with
    | none => pure (sim, none)
    | some index =>
      pure ({ sim with nextWorkerIndex := some ((index + 1) % sim.workers.length) }, some index)

/-! ### Throttling -/

/-- **`refillThrottlerTokens`.** -/
def refillThrottlerTokens : FixedStepSimulation :=
  if sim.config.throttlerInstalled = false then { sim with throttlerTokens := 0 }
  else
    let refill := sim.config.requestedTps * fixedStepMs / 1000
    let headTransactions := (sim.readerChannel.items.head?.map (·.transactions)).getD
      sim.config.readBatchSize
    let tokenCapacity : ℚ := max headTransactions sim.config.readBatchSize + refill
    { sim with throttlerTokens := min tokenCapacity (sim.throttlerTokens + refill) }

/-- Change the sender channel, and what has happened on it. -/
def onSenderChannel (channel : StatefulChannel SimulationBatch)
    (activity : ChannelActivity → ChannelActivity) : FixedStepSimulation :=
  { sim with
    senderChannel := channel
    activity := { sim.activity with senderChannel := activity sim.activity.senderChannel } }

/-- Change the reader channel, and what has happened on it. -/
def onReaderChannel (channel : StatefulChannel SimulationBatch)
    (activity : ChannelActivity → ChannelActivity) : FixedStepSimulation :=
  { sim with
    readerChannel := channel
    activity := { sim.activity with readerChannel := activity sim.activity.readerChannel } }

/-- The loop of `drainSenderChannel`, whose every turn receives a batch: `n` are left. -/
def drainFor (source : Option SimulationAttemptOutcomeSource) :
    ℕ → FixedStepSimulation → Except FixedStepSimulation FixedStepSimulation
  | 0, sim => pure sim
  | n + 1, sim =>
    if sim.senderChannel.items = [] then pure sim
    else do
      let (sim, worker) ← sim.nextIdleWorker
      match worker, sim.senderChannel.receive SimulationBatch.transactions with
      | some index, (channel, some batch) =>
        let sim := sim.onSenderChannel channel (·.output batch)
        drainFor source n (sim.startAttempt source index batch 1 false)
      | _, _ => pure sim

/-- **`drainSenderChannel`.** -/
def drainSenderChannel : Except FixedStepSimulation FixedStepSimulation :=
  drainFor source sim.senderChannel.depthBatches sim

/-- **`flushThrottledBatch`**; whether the sender channel is blocked. -/
def flushThrottledBatch : Except FixedStepSimulation (FixedStepSimulation × Bool) :=
  match sim.pendingThrottledBatch with
  | none => pure (sim, false)
  | some batch =>
    if sim.senderChannel.appliedCapacity = 0 then do
      let (sim, worker) ← sim.nextIdleWorker
      match worker with
      | none => pure (sim, true)
      | some index =>
        let channel := sim.senderChannel.handoff SimulationBatch.transactions batch
        let sim := sim.onSenderChannel channel (·.handoff batch)
        let sim := sim.startAttempt source index batch 1 false
        pure ({ sim with pendingThrottledBatch := none }, false)
    else if sim.senderChannel.admits then do
      let channel := sim.senderChannel.send SimulationBatch.transactions batch
      let sim := sim.onSenderChannel channel (·.input batch)
      let sim ← sim.drainSenderChannel source
      pure ({ sim with pendingThrottledBatch := none }, false)
    else pure (sim, true)

/-- The loop of `receiveReaderChannel`, of at most `n` turns. -/
def receiveFor (source : Option SimulationAttemptOutcomeSource) (installed : Bool) :
    ℕ → FixedStepSimulation → Except FixedStepSimulation (FixedStepSimulation × AdmissionResult)
  | 0, sim => pure (sim, ⟨false, false⟩)
  | n + 1, sim => do
    let (sim, senderChannelBlocked) ← sim.flushThrottledBatch source
    if senderChannelBlocked then pure (sim, ⟨true, false⟩)
    else
      match sim.readerChannel.items with
      | [] => pure (sim, ⟨false, false⟩)
      | batch :: _ =>
        if installed && decide (sim.throttlerTokens < batch.transactions) then
          pure (sim, ⟨false, true⟩)
        else
          let (channel, _) := sim.readerChannel.receive SimulationBatch.transactions
          let sim := sim.onReaderChannel channel (·.output batch)
          let sim := { sim with
            throttlerTokens :=
              if installed then sim.throttlerTokens - batch.transactions else sim.throttlerTokens
            pendingThrottledBatch := some batch }
          let (sim, senderChannelBlocked) ← sim.flushThrottledBatch source
          if senderChannelBlocked then pure (sim, ⟨true, false⟩)
          else receiveFor source installed n sim

/-- **`receiveReaderChannel`.** -/
def receiveReaderChannel : Except FixedStepSimulation (FixedStepSimulation × AdmissionResult) :=
  receiveFor source sim.config.throttlerInstalled sim.readerChannel.depthBatches sim

/-! ### Production -/

/-- `createPipelineBatch`. -/
def createPipelineBatch (transactions : ℕ) : FixedStepSimulation × SimulationBatch :=
  ({ sim with nextBatchSequence := sim.nextBatchSequence + 1 },
    { sequence := sim.nextBatchSequence
      identity := "pipeline-batch-" ++ toString sim.nextBatchSequence
      transactions })

/-- `readerCapacityTps`. -/
def readerCapacityTps : ℕ := sim.config.readerWorkers * readerTransactionsPerWorkerSecond

/-- The loop of `produceReaderBatches`, of at most `n` turns. -/
def produceFor (source : Option SimulationAttemptOutcomeSource) (transactions : ℕ) :
    ℕ → FixedStepSimulation →
      Except FixedStepSimulation (FixedStepSimulation × ReaderProductionResult)
  | 0, sim => pure (sim, ⟨⟨false, false⟩, false⟩)
  | n + 1, sim =>
    if sim.readerTransactionCredit < transactions then pure (sim, ⟨⟨false, false⟩, false⟩)
    else if sim.readerChannel.appliedCapacity = 0 then
      if sim.pendingThrottledBatch.isSome then pure (sim, ⟨⟨true, false⟩, true⟩)
      else if sim.config.throttlerInstalled && decide (sim.throttlerTokens < transactions) then
        pure (sim, ⟨⟨false, true⟩, true⟩)
      else do
        let (sim, batch) := sim.createPipelineBatch transactions
        let channel := sim.readerChannel.handoff SimulationBatch.transactions batch
        let sim := sim.onReaderChannel channel (·.handoff batch)
        let sim := { sim with
          throttlerTokens :=
            if sim.config.throttlerInstalled then sim.throttlerTokens - transactions
            else sim.throttlerTokens
          readerTransactionCredit := sim.readerTransactionCredit - transactions
          pendingThrottledBatch := some batch }
        let (sim, senderChannelBlocked) ← sim.flushThrottledBatch source
        if senderChannelBlocked then pure (sim, ⟨⟨true, false⟩, true⟩)
        else produceFor source transactions n sim
    else if sim.readerChannel.appliedCapacity ≤ sim.readerChannel.depthBatches then
      pure (sim, ⟨⟨false, false⟩, true⟩)
    else
      let (sim, batch) := sim.createPipelineBatch transactions
      let channel := sim.readerChannel.send SimulationBatch.transactions batch
      let sim := sim.onReaderChannel channel (·.input batch)
      let sim := { sim with readerTransactionCredit := sim.readerTransactionCredit - transactions }
      produceFor source transactions n sim

/-- How many turns `produceReaderBatches` may make: every one but the last fills a place
in a channel or a worker. -/
def productionBound : ℕ :=
  sim.readerChannel.appliedCapacity + sim.senderChannel.largestCapacity + sim.workers.length + 1

/-- **`produceReaderBatches`.** -/
def produceReaderBatches :
    Except FixedStepSimulation (FixedStepSimulation × ReaderProductionResult) :=
  let transactions := sim.config.readBatchSize
  let sim := { sim with
    readerTransactionCredit := min ((sim.config.readerWorkers * transactions : ℕ) : ℚ)
      (sim.readerTransactionCredit + sim.readerCapacityTps * fixedStepMs / 1000) }
  produceFor source transactions sim.productionBound sim

/-! ### The operations -/

/-- **`advanceStep`.** -/
def advanceStep : Except FixedStepSimulation FixedStepSimulation := do
  let sim := { sim with elapsedMs := sim.elapsedMs + fixedStepMs, activity := {} }
  let sim := sim.completeDueAttempts
  let sim := sim.startDueRetries source
  let sim := sim.finalizeSenderScaleDown
  let sim := sim.refillThrottlerTokens
  let sim ← sim.drainSenderChannel source
  let (sim, flushBlocked) ← sim.flushThrottledBatch source
  let (sim, admission) ← sim.receiveReaderChannel source
  let (sim, production) ← sim.produceReaderBatches source
  let senderChannelBlocked :=
    flushBlocked || admission.senderChannelBlocked || production.senderChannelBlocked
  let progressed (activity : ChannelActivity) : Bool :=
    0 < activity.inputBatches || 0 < activity.handoffBatches
  let activities := sim.activities ++ [sim.activity]
  pure { sim with
    readerChannel := sim.readerChannel.observeBlocked production.readerChannelBlocked
      (progressed sim.activity.readerChannel)
    senderChannel := sim.senderChannel.observeBlocked senderChannelBlocked
      (progressed sim.activity.senderChannel)
    limitedMs := if admission.tokenLimited || production.tokenLimited then
      sim.limitedMs + fixedStepMs else sim.limitedMs
    activity := {}
    activities := if rateWindowSteps < activities.length then activities.tail else activities }

/-- `Partial<SimulationConfig>`. -/
structure PartialConfig where
  readerWorkers : Option ℕ := none
  senderWorkers : Option ℕ := none
  requestedTps : Option ℚ := none
  throttlerInstalled : Option Bool := none
  readBatchSize : Option ℕ := none
  httpTimeoutMs : Option ℚ := none
  targetDelayMs : Option ℚ := none
  targetErrorRatePercent : Option ℚ := none

/-- `Object.assign(this.config, values)`. -/
def assignConfig (config : SimulationConfig) (values : PartialConfig) : SimulationConfig where
  readerWorkers := values.readerWorkers.getD config.readerWorkers
  senderWorkers := values.senderWorkers.getD config.senderWorkers
  requestedTps := values.requestedTps.getD config.requestedTps
  throttlerInstalled := values.throttlerInstalled.getD config.throttlerInstalled
  readBatchSize := values.readBatchSize.getD config.readBatchSize
  httpTimeoutMs := values.httpTimeoutMs.getD config.httpTimeoutMs
  targetDelayMs := values.targetDelayMs.getD config.targetDelayMs
  targetErrorRatePercent := values.targetErrorRatePercent.getD config.targetErrorRatePercent

/-- **`updateConfig`.** -/
def updateConfig (values : PartialConfig) : FixedStepSimulation :=
  let sim := { sim with config := assignConfig sim.config values }
  let sim := values.senderWorkers.elim sim sim.requestSenderWorkerCount
  { sim with
    throttlerTokens := if values.requestedTps = some 0 ∨ values.throttlerInstalled.isSome then 0
      else sim.throttlerTokens
    readerTransactionCredit := min sim.readerTransactionCredit
      ((sim.config.readerWorkers * sim.config.readBatchSize : ℕ) : ℚ) }

/-- **`requestChannelCapacity`**; whether anything has changed. -/
def requestChannelCapacity (channel : ChannelId) (capacity : ℕ) : FixedStepSimulation × Bool :=
  match channel with
  | .readerToThrottler =>
    let (channel, changed) := sim.readerChannel.requestCapacity capacity
    ({ sim with readerChannel := channel }, changed)
  | .throttlerToSender =>
    let (channel, changed) := sim.senderChannel.requestCapacity capacity
    ({ sim with senderChannel := channel }, changed)

/-- `clearInstantaneousTelemetry`. -/
def clearInstantaneousTelemetry : FixedStepSimulation := { sim with activities := [] }

/-- **`reset`.** -/
def reset : FixedStepSimulation where
  config := sim.config
  readerChannel := sim.readerChannel.resetRuntime
  senderChannel := sim.senderChannel.resetRuntime
  workers := createWorkers sim.config.senderWorkers
  outcomeCalls := sim.outcomeCalls

/-! ### The machine -/

/-- What may be asked of a simulation. A read of the telemetry changes nothing. -/
inductive Operation
  | advanceStep
  | updateConfig (values : PartialConfig)
  | requestChannelCapacity (channel : ChannelId) (capacity : ℕ)
  | clearInstantaneousTelemetry
  | telemetry (running : Bool)
  | reset

/-- What an operation does; a step that throws leaves the state it has come to. -/
def perform : Operation → FixedStepSimulation
  | .advanceStep =>
    match sim.advanceStep source with
    | .ok sim => sim
    | .error sim => sim
  | .updateConfig values => sim.updateConfig values
  | .requestChannelCapacity channel capacity => (sim.requestChannelCapacity channel capacity).1
  | .clearInstantaneousTelemetry => sim.clearInstantaneousTelemetry
  | .telemetry _ => sim
  | .reset => sim.reset

/-- **The simulation as a machine**, restricted to some operations. -/
def machine (Allowed : Operation → Prop) : Machine FixedStepSimulation Operation where
  Enabled _ operation := Allowed operation
  next sim operation := sim.perform source operation

end FixedStepSimulation

end IngestionLab.Frontend
