import IngestionLab.Loadgen.Config
import IngestionLab.Machine.Cells
import IngestionLab.Machine.Run

/-!
# The sender pool

The model of `sender_pool.go`: one intake goroutine takes batches out of the
sender channel and hands each to an available worker, the workers deliver them
with retries, and the event loop resizes, pauses, resumes and stops the pool.

Every goroutine has a program counter – `IngestionLab.IntakePc` for `runIntake`,
`IngestionLab.SenderWorkerPc` for `runWorker` with the functions it calls,
`IngestionLab.StopPc` for `stop` – and every action is what one goroutine does
between two points where another may interfere: a critical section under `p.mu`,
a channel operation, a test of the context. `IngestionLab.SenderPool.Enabled`
says where each action may be taken and `IngestionLab.SenderPool.next` what it
does; a list of enabled actions is an interleaving.

## The two mutexes

A section under `p.mu` that cannot block is one action, taken when no one holds
the mutex. The one section that could block is the intake's hand-off, which sends
into a worker's one-slot buffer while holding `p.mu`: it is two actions, and
`muHeld` is set between them. `intakeMu` is held across blocking operations by
both the intake and `stop`, so it has an owner.

## The environment

What the pool does not decide is left open: the batch received is in the label of
the action, the outcome of a delivery attempt too – except that an attempt only
reports cancellation when its context is cancelled, as `deliver` does – and the
parent context may be cancelled at any time.
-/

namespace IngestionLab

open Function

/-- What a delivery attempt reports (`senderAttemptOutcome`). -/
inductive SenderAttemptOutcome
  | success
  | failure
  | canceled
  deriving DecidableEq, Repr

/-- **Where a sender worker's goroutine stands** in `runWorker` and the functions
it calls. A batch being processed is part of the position, with the number of
its current attempt; `deadline` is the deadline of the backoff wait the gate was
entered from, `none` when it was entered before an attempt. -/
inductive SenderWorkerPc
  /-- At the head of the loop of `runWorker`, about to take `p.mu`. -/
  | loop
  /-- In the select on `wake` and `work`. -/
  | idle
  /-- `processBatch`, about to clear `backoff`. -/
  | attemptHead (batch : Batch) (attempt : ℕ)
  /-- `waitUntilRunnable`, about to take `p.mu`. -/
  | gate (batch : Batch) (attempt : ℕ) (deadline : Option ℕ)
  /-- `waitUntilRunnable`, waiting on the gate channel it has read. -/
  | gateWait (batch : Batch) (attempt : ℕ) (deadline : Option ℕ) (gate : ℕ)
  /-- Past the gate, about to call `p.attempt`. -/
  | runnable (batch : Batch) (attempt : ℕ)
  /-- Inside `p.attempt`. -/
  | attempting (batch : Batch) (attempt : ℕ)
  /-- An attempt has failed, about to set `backoff`. -/
  | failed (batch : Batch) (attempt : ℕ)
  /-- About to compute the delay and its deadline. -/
  | delaying (batch : Batch) (attempt : ℕ)
  /-- `waitBackoff`, about to compare the clock with the deadline. -/
  | remaining (batch : Batch) (attempt : ℕ) (deadline : ℕ)
  /-- `waitBackoff`, in its select. -/
  | backoffWait (batch : Batch) (attempt : ℕ) (deadline : ℕ)
  /-- `processBatch` has returned, and says whether the batch was delivered. -/
  | settled (batch : Batch) (delivered : Bool)
  /-- `finishAcceptedBatch`, about to clear `busy`. -/
  | finishing
  /-- Has decided to stop; `workerExited` has not run yet. -/
  | stopped
  /-- `workerExited` has run; `done` is not closed yet. -/
  | removed
  /-- `done` is closed; the wait group is not released yet. -/
  | closed
  /-- The goroutine has ended. -/
  | exited
  deriving DecidableEq, Repr

namespace SenderWorkerPc

/-- The batch the position holds. -/
def batch : SenderWorkerPc → Option Batch
  | attemptHead b _ | gate b _ _ | gateWait b _ _ _ | runnable b _ | attempting b _ | failed b _
  | delaying b _ | remaining b _ _ | backoffWait b _ _ | settled b _ => some b
  | loop | idle | finishing | stopped | removed | closed | exited => none

/-- Past the decision to stop: the goroutine never looks at its buffer again. -/
def hasStopped : SenderWorkerPc → Bool
  | stopped | removed | closed | exited => true
  | _ => false

/-- Past `workerExited`: the worker is no longer registered. -/
def hasLeft : SenderWorkerPc → Bool
  | removed | closed | exited => true
  | _ => false

/-- The number of the attempt the position is in. -/
def attempt : SenderWorkerPc → Option ℕ
  | attemptHead _ n | gate _ n _ | gateWait _ n _ _ | runnable _ n | attempting _ n | failed _ n
  | delaying _ n | remaining _ n _ | backoffWait _ n _ => some n
  | loop | idle | settled _ _ | finishing | stopped | removed | closed | exited => none

/-- Between taking a batch and clearing `busy`. -/
def isProcessing : SenderWorkerPc → Bool
  | attemptHead .. | gate .. | gateWait .. | runnable .. | attempting .. | failed .. | delaying ..
  | remaining .. | backoffWait .. | settled .. | finishing => true
  | loop | idle | stopped | removed | closed | exited => false

end SenderWorkerPc

/-- A sender worker (`senderWorker`), with the position of its goroutine. The
one-slot channels `wake` and `work` are a flag and an optional batch. -/
structure SenderWorker where
  wake : Bool := false
  work : Option Batch := none
  done : Bool := false
  draining : Bool := false
  busy : Bool := false
  backoff : Bool := false
  pc : SenderWorkerPc := .loop
  deriving DecidableEq, Repr

/-- **Where the intake goroutine stands** in `runIntake`. -/
inductive IntakePc
  /-- About to take `p.mu` and look for an available worker. -/
  | find
  /-- In `available.Wait` with no batch. -/
  | parked
  /-- Past the first wait, about to test the context. -/
  | found
  /-- About to take `intakeMu`. -/
  | enter
  /-- Holds `intakeMu`, about to test the context. -/
  | entered
  /-- Holds `intakeMu`, in the select on the context and the batches. -/
  | receive
  /-- Holds `intakeMu` and a batch, about to record the receipt. -/
  | received (batch : Batch)
  /-- Holds `intakeMu` and a batch, about to take `p.mu` and look for a worker. -/
  | assign (batch : Batch)
  /-- In `available.Wait`, holding `intakeMu` and a batch. -/
  | parkedWith (batch : Batch)
  /-- Holds both mutexes, sending the batch into the buffer of a worker. -/
  | sending (batch : Batch) (worker : ℕ)
  /-- The batch is handed over; about to release `intakeMu`. -/
  | handed
  /-- About to release `intakeMu` and return. -/
  | leaving
  /-- Has returned from the loop; `intakeDone` is not closed yet. -/
  | returned
  /-- The goroutine has ended and `intakeDone` is closed. -/
  | exited
  deriving DecidableEq, Repr

namespace IntakePc

/-- The batch in the intake's hand. -/
def hand : IntakePc → Option Batch
  | received b | assign b | parkedWith b | sending b _ => some b
  | find | parked | found | enter | entered | receive | handed | leaving | returned | exited => none

/-- The intake holds `intakeMu`. -/
def holdsIntakeMu : IntakePc → Bool
  | entered | receive | received _ | assign _ | parkedWith _ | sending _ _ | handed | leaving => true
  | find | parked | found | enter | returned | exited => false

/-- The intake has no batch and is not about to take one, unless it enters anew. -/
def isOutside : IntakePc → Bool
  | find | parked | found | enter | entered | leaving | returned | exited => true
  | receive | received _ | assign _ | parkedWith _ | sending _ _ | handed => false

/-- What `available.Broadcast` does to the intake. -/
def broadcast : IntakePc → IntakePc
  | parked => find
  | parkedWith b => assign b
  | pc => pc

end IntakePc

/-- **Where the call of `stop` stands**, with the goroutine it starts. -/
inductive StopPc
  /-- `stop` has not been called. -/
  | running
  /-- The pool context is cancelled; about to take `intakeMu`. -/
  | canceled
  /-- Holds `intakeMu`; about to mark the pool. -/
  | locked
  /-- The pool is marked stopping; about to release `intakeMu`. -/
  | marked
  /-- `stop` has returned; its goroutine waits for `intakeDone`. -/
  | returned
  /-- The intake has ended; the goroutine waits for the workers. -/
  | waiting
  /-- The channel `stop` returned is closed. -/
  | joined
  deriving DecidableEq, Repr

namespace StopPc

/-- `stop` holds `intakeMu`. -/
def holdsIntakeMu : StopPc → Bool
  | locked | marked => true
  | running | canceled | returned | waiting | joined => false

/-- `stop` has taken `intakeMu`, if only to release it again. -/
def hasLocked : StopPc → Bool
  | locked | marked | returned | waiting | joined => true
  | running | canceled => false

/-- The pool is marked stopping. -/
def hasMarked : StopPc → Bool
  | marked | returned | waiting | joined => true
  | running | canceled | locked => false

/-- `stop` has returned. -/
def hasReturned : StopPc → Bool
  | returned | waiting | joined => true
  | running | canceled | locked | marked => false

end StopPc

/-- Who holds `intakeMu`. -/
inductive IntakeMuOwner
  | intake
  | stop
  deriving DecidableEq, Repr

/-- **The sender pool** (`senderPool`). Workers are cells under the numbers they
were started with, `workers` lists those registered in `p.workers`, and `wg` is
the wait group's counter. A gate channel is a number too: `resume` is the one
installed, `gateClosed` says which are closed. The channels some `reconcile` call
still waits on are in `joining`.

Two fields are not in the source and only observe it: the batches the intake has
received, and the ones `finishAcceptedBatch` has settled, with the number of
transactions it has counted as delivered. -/
structure SenderPool where
  worker : ℕ → SenderWorker
  started : ℕ
  workers : List ℕ
  wg : ℕ
  desired : ℕ
  stopping : Bool
  cancelled : Bool
  resume : Option ℕ
  gates : ℕ
  gateClosed : ℕ → Bool
  muHeld : Bool
  intakeMu : Option IntakeMuOwner
  intake : IntakePc
  stop : StopPc
  joining : List ℕ
  retry : SenderRetryConfig
  received : List Batch
  finished : List Batch
  counted : ℕ

namespace SenderPool

/-! ### The functions of the pool -/

/-- Change one worker. -/
def setWorker (p : SenderPool) (w : ℕ) (c : SenderWorker) : SenderPool :=
  { p with worker := update p.worker w c }

/-- Move the goroutine of one worker. -/
def goto (p : SenderPool) (w : ℕ) (pc : SenderWorkerPc) : SenderPool :=
  p.setWorker w { p.worker w with pc := pc }

/-- `p.available.Broadcast()`: only the intake ever waits on the condition. -/
def broadcast (p : SenderPool) : SenderPool := { p with intake := p.intake.broadcast }

/-- `availableWorkerLocked`: the first registered worker that is neither draining
nor busy. -/
def availableWorkerLocked (p : SenderPool) : Option ℕ :=
  p.workers.find? fun w => !((p.worker w).draining || (p.worker w).busy)

/-- `activeWorkerCountLocked`: the registered workers that are not draining. -/
def activeWorkerCountLocked (p : SenderPool) : ℕ :=
  Cells.count (fun c => !c.draining) p.worker p.workers

/-- `startWorkerLocked`: a fresh worker, registered last. -/
def startWorkerLocked (p : SenderPool) : SenderPool :=
  { p with
    worker := update p.worker p.started {}
    started := p.started + 1
    workers := p.workers ++ [p.started]
    wg := p.wg + 1 }

/-- The non-blocking sends `select { case worker.wake <- struct{}{}: default: }`
to every registered worker. -/
def wakeAll (p : SenderPool) : SenderPool :=
  { p with worker := fun w =>
      if w ∈ p.workers then { p.worker w with wake := true } else p.worker w }

/-- The downward loop of `reconcile`, over the registered workers from the last:
mark active workers draining while there are more than desired. -/
def drainDown (desired : ℕ) : List ℕ → ℕ → (ℕ → SenderWorker) → (ℕ → SenderWorker)
  | [], _, cell => cell
  | w :: ws, active, cell =>
    if active ≤ desired then cell
    else if (cell w).draining then drainDown desired ws active cell
    else drainDown desired ws (active - 1) (update cell w { cell w with draining := true })

/-- The upward loop of `reconcile`: clear the mark of **every** draining worker.
Unlike the downward loop, nothing stops it at the desired number. -/
def undrain (cell : ℕ → SenderWorker) (ws : List ℕ) : ℕ → SenderWorker := fun w =>
  if w ∈ ws then { cell w with draining := false } else cell w

/-- The first half of `reconcile`: adjust who is draining. -/
def adjust (p : SenderPool) (desired : ℕ) : SenderPool :=
  let active := p.activeWorkerCountLocked
  if desired < active then
    { p with desired := desired, worker := drainDown desired p.workers.reverse active p.worker }
  else if active < desired then { p with desired := desired, worker := undrain p.worker p.workers }
  else { p with desired := desired }

/-- The workers `reconcile` waits for: draining and not busy. -/
def idleDraining (p : SenderPool) : List ℕ :=
  p.workers.filter fun w => (p.worker w).draining && !(p.worker w).busy

/-- Starting a number of workers. -/
def startWorkers (p : SenderPool) : ℕ → SenderPool
  | 0 => p
  | n + 1 => (p.startWorkers n).startWorkerLocked

/-- **`reconcile`**, up to the release of `p.mu`: adjust, wake everyone, start
what is missing, broadcast. The workers it goes on to wait for are added to
`joining`. -/
def reconcile (p : SenderPool) (desired : ℕ) : SenderPool :=
  if p.stopping then p
  else
    let adjusted := p.adjust desired
    let woken := adjusted.wakeAll
    let grown := woken.startWorkers (desired - adjusted.activeWorkerCountLocked)
    { grown.broadcast with joining := p.joining ++ adjusted.idleDraining }

/-- **`workerExited`**: leave the registration, and start a replacement if the
worker was not draining and too few are left. -/
def workerExited (p : SenderPool) (w : ℕ) : SenderPool :=
  if w ∈ p.workers then
    let left := { p with workers := p.workers.erase w }
    let refilled :=
      if left.stopping = false ∧ (left.worker w).draining = false ∧
          left.activeWorkerCountLocked < left.desired then
        left.startWorkerLocked
      else left
    refilled.broadcast
  else p

/-- `pause`: install a gate and wake everyone, unless there is one already or the
pool is stopping. -/
def pause (p : SenderPool) : SenderPool :=
  if p.resume.isSome || p.stopping then p
  else { p with resume := some p.gates, gates := p.gates + 1 }.wakeAll

/-- `resumeRun`: close the gate and take it away. -/
def resumeRun (p : SenderPool) : SenderPool :=
  match p.resume with
  | none => p
  | some g => { p with gateClosed := update p.gateClosed g true, resume := none }

/-- The critical section of `stop`. -/
def markStopping (p : SenderPool) : SenderPool := ({ p with stopping := true }.broadcast).wakeAll

/-- The pool `startSenderPool` makes, before its first `reconcile`. -/
def empty (retry : SenderRetryConfig) : SenderPool where
  worker := fun _ => {}
  started := 0
  workers := []
  wg := 0
  desired := 0
  stopping := false
  cancelled := false
  resume := none
  gates := 0
  gateClosed := fun _ => false
  muHeld := false
  intakeMu := none
  intake := .find
  stop := .running
  joining := []
  retry := retry
  received := []
  finished := []
  counted := 0

/-- `startSenderPool`: a pool of the requested size, its intake about to run. -/
def startSenderPool (retry : SenderRetryConfig) (workers : ℕ) : SenderPool :=
  (empty retry).reconcile workers

/-! ### The actions -/

/-- **What a goroutine of the pool, its caller or its environment may do next.** -/
inductive Action
  -- the event loop
  | reconcile (desired : ℕ)
  | reconcileJoined (w : ℕ)
  | pause
  | resumeRun
  | stopCancel
  | stopLock
  | stopMark
  | stopReturn
  | stopIntakeDone
  | stopJoined
  -- the parent context
  | cancel
  -- the intake
  | intakeFound
  | intakePark
  | intakeTest
  | intakeEnter
  | intakeTestEntered
  | intakeCanceled
  | intakeClosed
  | intakeReceive (batch : Batch)
  | intakeRecord (batch : Batch)
  | intakeAssign (batch : Batch) (w : ℕ)
  | intakeParkWith (batch : Batch)
  | intakeSend (batch : Batch) (w : ℕ)
  | intakeHanded
  | intakeLeave
  | intakeExit
  -- a worker's loop
  | takeAtHead (w : ℕ) (batch : Batch)
  | decideStop (w : ℕ)
  | decideStay (w : ℕ)
  | wakeIdle (w : ℕ)
  | takeIdle (w : ℕ) (batch : Batch)
  -- processing a batch
  | clearBackoff (w : ℕ) (batch : Batch) (attempt : ℕ)
  | gateCanceled (w : ℕ) (batch : Batch) (attempt : ℕ) (deadline : Option ℕ)
  | gateShut (w : ℕ) (batch : Batch) (attempt : ℕ) (deadline : Option ℕ) (gate : ℕ)
  | gatePassed (w : ℕ) (batch : Batch) (attempt : ℕ)
  | gatePassedBackoff (w : ℕ) (batch : Batch) (attempt deadline : ℕ)
  | gateWaitCanceled (w : ℕ) (batch : Batch) (attempt : ℕ) (deadline : Option ℕ) (gate : ℕ)
  | gateWaitOpened (w : ℕ) (batch : Batch) (attempt : ℕ) (deadline : Option ℕ) (gate : ℕ)
  | startAttempt (w : ℕ) (batch : Batch) (attempt : ℕ)
  | attemptReturns (w : ℕ) (batch : Batch) (attempt : ℕ) (outcome : SenderAttemptOutcome)
  | setBackoff (w : ℕ) (batch : Batch) (attempt : ℕ)
  | setDeadline (w : ℕ) (batch : Batch) (attempt : ℕ) (delay : ℤ)
  | deadlinePassed (w : ℕ) (batch : Batch) (attempt deadline : ℕ)
  | startTimer (w : ℕ) (batch : Batch) (attempt deadline : ℕ)
  | backoffCanceled (w : ℕ) (batch : Batch) (attempt deadline : ℕ)
  | backoffWoken (w : ℕ) (batch : Batch) (attempt deadline : ℕ)
  | backoffTimer (w : ℕ) (batch : Batch) (attempt deadline : ℕ)
  | settle (w : ℕ) (batch : Batch) (delivered : Bool)
  | clearBusy (w : ℕ)
  -- leaving
  | workerExited (w : ℕ)
  | closeDone (w : ℕ)
  | releaseWg (w : ℕ)
  deriving DecidableEq, Repr

/-- The action is a step of `stop`, of the intake or of a worker. -/
def Action.isOwn : Action → Bool
  | .reconcile _ | .reconcileJoined _ | .pause | .resumeRun | .cancel => false
  | _ => true

/-- A worker that has been started and whose goroutine stands at a position. -/
def At (p : SenderPool) (w : ℕ) (pc : SenderWorkerPc) : Prop :=
  w < p.started ∧ (p.worker w).pc = pc

instance (p : SenderPool) (w : ℕ) (pc : SenderWorkerPc) : Decidable (p.At w pc) :=
  inferInstanceAs (Decidable (_ ∧ _))

/-- **Where each action may be taken.** Sections under `p.mu` need the mutex
free; `now` is the clock. -/
def Enabled (now : ℕ) (p : SenderPool) : Action → Prop
  | .reconcile desired => 1 ≤ desired ∧ p.muHeld = false
  | .reconcileJoined w => w ∈ p.joining ∧ (p.worker w).done = true
  | .pause => p.muHeld = false
  | .resumeRun => p.muHeld = false
  | .stopCancel => p.stop = .running
  | .stopLock => p.stop = .canceled ∧ p.intakeMu = none
  | .stopMark => p.stop = .locked ∧ p.muHeld = false
  | .stopReturn => p.stop = .marked
  | .stopIntakeDone => p.stop = .returned ∧ p.intake = .exited
  | .stopJoined => p.stop = .waiting ∧ p.wg = 0
  | .cancel => True
  | .intakeFound => p.intake = .find ∧ p.muHeld = false ∧
      (p.availableWorkerLocked.isSome ∨ p.cancelled = true)
  | .intakePark => p.intake = .find ∧ p.muHeld = false ∧
      p.availableWorkerLocked = none ∧ p.cancelled = false
  | .intakeTest => p.intake = .found
  | .intakeEnter => p.intake = .enter ∧ p.intakeMu = none
  | .intakeTestEntered => p.intake = .entered
  | .intakeCanceled => p.intake = .receive ∧ p.cancelled = true
  | .intakeClosed => p.intake = .receive
  | .intakeReceive _ => p.intake = .receive
  | .intakeRecord batch => p.intake = .received batch
  | .intakeAssign batch w => p.intake = .assign batch ∧ p.muHeld = false ∧
      p.availableWorkerLocked = some w
  | .intakeParkWith batch => p.intake = .assign batch ∧ p.muHeld = false ∧
      p.availableWorkerLocked = none
  | .intakeSend batch w => p.intake = .sending batch w ∧ (p.worker w).work = none
  | .intakeHanded => p.intake = .handed
  | .intakeLeave => p.intake = .leaving
  | .intakeExit => p.intake = .returned
  | .takeAtHead w batch => p.At w .loop ∧ p.muHeld = false ∧ (p.worker w).work = some batch
  | .decideStop w => p.At w .loop ∧ p.muHeld = false ∧ (p.worker w).work = none ∧
      (p.stopping || (p.worker w).draining) = true
  | .decideStay w => p.At w .loop ∧ p.muHeld = false ∧ (p.worker w).work = none ∧
      (p.stopping || (p.worker w).draining) = false
  | .wakeIdle w => p.At w .idle ∧ (p.worker w).wake = true
  | .takeIdle w batch => p.At w .idle ∧ (p.worker w).work = some batch
  | .clearBackoff w batch attempt => p.At w (.attemptHead batch attempt) ∧ p.muHeld = false
  | .gateCanceled w batch attempt deadline => p.At w (.gate batch attempt deadline) ∧
      p.muHeld = false ∧ p.cancelled = true
  | .gateShut w batch attempt deadline gate => p.At w (.gate batch attempt deadline) ∧
      p.muHeld = false ∧ p.cancelled = false ∧ p.resume = some gate
  | .gatePassed w batch attempt => p.At w (.gate batch attempt none) ∧
      p.muHeld = false ∧ p.cancelled = false ∧ p.resume = none
  | .gatePassedBackoff w batch attempt deadline => p.At w (.gate batch attempt (some deadline)) ∧
      p.muHeld = false ∧ p.cancelled = false ∧ p.resume = none
  | .gateWaitCanceled w batch attempt deadline gate =>
      p.At w (.gateWait batch attempt deadline gate) ∧ p.cancelled = true
  | .gateWaitOpened w batch attempt deadline gate =>
      p.At w (.gateWait batch attempt deadline gate) ∧ p.gateClosed gate = true
  | .startAttempt w batch attempt => p.At w (.runnable batch attempt)
  | .attemptReturns w batch attempt outcome => p.At w (.attempting batch attempt) ∧
      (outcome = .canceled → p.cancelled = true)
  | .setBackoff w batch attempt => p.At w (.failed batch attempt) ∧ p.muHeld = false
  | .setDeadline w batch attempt delay => p.At w (.delaying batch attempt) ∧
      p.retry.delay attempt batch = some delay
  | .deadlinePassed w batch attempt deadline => p.At w (.remaining batch attempt deadline) ∧
      deadline ≤ now
  | .startTimer w batch attempt deadline => p.At w (.remaining batch attempt deadline) ∧
      now < deadline
  | .backoffCanceled w batch attempt deadline => p.At w (.backoffWait batch attempt deadline) ∧
      p.cancelled = true
  | .backoffWoken w batch attempt deadline => p.At w (.backoffWait batch attempt deadline) ∧
      (p.worker w).wake = true
  | .backoffTimer w batch attempt deadline => p.At w (.backoffWait batch attempt deadline) ∧
      deadline ≤ now
  | .settle w batch delivered => p.At w (.settled batch delivered)
  | .clearBusy w => p.At w .finishing ∧ p.muHeld = false
  | .workerExited w => p.At w .stopped ∧ p.muHeld = false
  | .closeDone w => p.At w .removed
  | .releaseWg w => p.At w .closed

instance (now : ℕ) (p : SenderPool) (a : Action) : Decidable (p.Enabled now a) := by
  cases a <;> dsimp only [Enabled] <;> infer_instance

/-- **What each action does to the pool.** -/
def next (now : ℕ) (p : SenderPool) : Action → SenderPool
  | .reconcile desired => p.reconcile desired
  | .reconcileJoined w => { p with joining := p.joining.erase w }
  | .pause => p.pause
  | .resumeRun => p.resumeRun
  | .stopCancel => { p with cancelled := true, stop := .canceled }
  | .stopLock => { p with intakeMu := some .stop, stop := .locked }
  | .stopMark => { p.markStopping with stop := .marked }
  | .stopReturn => { p with intakeMu := none, stop := .returned }
  | .stopIntakeDone => { p with stop := .waiting }
  | .stopJoined => { p with stop := .joined }
  | .cancel => { p with cancelled := true }
  | .intakeFound => { p with intake := .found }
  | .intakePark => { p with intake := .parked }
  | .intakeTest => { p with intake := if p.cancelled then .returned else .enter }
  | .intakeEnter => { p with intake := .entered, intakeMu := some .intake }
  | .intakeTestEntered => { p with intake := if p.cancelled then .leaving else .receive }
  | .intakeCanceled => { p with intake := .leaving }
  | .intakeClosed => { p with intake := .leaving }
  | .intakeReceive batch =>
      { p with intake := .received batch, received := p.received ++ [batch] }
  | .intakeRecord batch => { p with intake := .assign batch }
  | .intakeAssign batch w =>
      { p.setWorker w { p.worker w with busy := true } with
        muHeld := true, intake := .sending batch w }
  | .intakeParkWith batch => { p with intake := .parkedWith batch }
  | .intakeSend batch w =>
      { p.setWorker w { p.worker w with work := some batch } with
        muHeld := false, intake := .handed }
  | .intakeHanded => { p with intakeMu := none, intake := .find }
  | .intakeLeave => { p with intakeMu := none, intake := .returned }
  | .intakeExit => { p with intake := .exited }
  | .takeAtHead w batch =>
      p.setWorker w { p.worker w with work := none, pc := .attemptHead batch 1 }
  | .decideStop w => p.goto w .stopped
  | .decideStay w => p.goto w .idle
  | .wakeIdle w => p.setWorker w { p.worker w with wake := false, pc := .loop }
  | .takeIdle w batch =>
      p.setWorker w { p.worker w with work := none, pc := .attemptHead batch 1 }
  | .clearBackoff w batch attempt =>
      p.setWorker w { p.worker w with backoff := false, pc := .gate batch attempt none }
  | .gateCanceled w batch _ _ => p.goto w (.settled batch false)
  | .gateShut w batch attempt deadline gate =>
      p.goto w (.gateWait batch attempt deadline gate)
  | .gatePassed w batch attempt => p.goto w (.runnable batch attempt)
  | .gatePassedBackoff w batch attempt deadline => p.goto w (.remaining batch attempt deadline)
  | .gateWaitCanceled w batch _ _ _ => p.goto w (.settled batch false)
  | .gateWaitOpened w batch attempt deadline _ => p.goto w (.gate batch attempt deadline)
  | .startAttempt w batch attempt => p.goto w (.attempting batch attempt)
  | .attemptReturns w batch attempt outcome =>
      p.goto w (match outcome with
        | .success => .settled batch true
        | .canceled => .settled batch false
        | .failure => .failed batch attempt)
  | .setBackoff w batch attempt =>
      p.setWorker w { p.worker w with backoff := true, pc := .delaying batch attempt }
  | .setDeadline w batch attempt delay =>
      p.goto w (.gate batch attempt (some (now + delay.toNat)))
  | .deadlinePassed w batch attempt _ => p.goto w (.attemptHead batch (attempt + 1))
  | .startTimer w batch attempt deadline => p.goto w (.backoffWait batch attempt deadline)
  | .backoffCanceled w batch _ _ => p.goto w (.settled batch false)
  | .backoffWoken w batch attempt deadline =>
      p.setWorker w { p.worker w with wake := false, pc := .gate batch attempt (some deadline) }
  | .backoffTimer w batch attempt deadline => p.goto w (.gate batch attempt (some deadline))
  | .settle w batch delivered =>
      { p.goto w .finishing with
        finished := p.finished ++ [batch]
        counted := if delivered then p.counted + batch.length else p.counted }
  | .clearBusy w =>
      (p.setWorker w { p.worker w with busy := false, backoff := false, pc := .loop }).broadcast
  | .workerExited w => (p.workerExited w).goto w .removed
  | .closeDone w => p.setWorker w { p.worker w with done := true, pc := .closed }
  | .releaseWg w => { p.goto w .exited with wg := p.wg - 1 }

/-- What each action does to the shared memory: the intake records a receipt, and
`finishAcceptedBatch` counts a delivered batch. -/
def remember (sh : Memory) : Action → Memory
  | .intakeRecord batch => { sh with senderChannel := sh.senderChannel.recordReceive batch.length }
  | .settle _ batch true =>
      { sh with terminallyCompletedTransactionsSinceTick :=
          sh.terminallyCompletedTransactionsSinceTick + batch.length }
  | _ => sh

/-- **The pool as a machine**, in an environment that may do anything to the
shared memory: the clock runs, others record their telemetry, the event loop
collects. -/
def machine : Machine (Memory × SenderPool) (Memory ⊕ Action) where
  Enabled s
    | .inl _ => True
    | .inr a => s.2.Enabled s.1.now a
  next s
    | .inl sh => (sh, s.2)
    | .inr a => (remember s.1 a, s.2.next s.1.now a)

instance (s : Memory × SenderPool) (a : Memory ⊕ Action) : Decidable (machine.Enabled s a) :=
  match a with
  | .inl _ => inferInstanceAs (Decidable True)
  | .inr a => inferInstanceAs (Decidable (s.2.Enabled s.1.now a))

end SenderPool

end IngestionLab
