import IngestionLab.Go.Chan
import IngestionLab.Loadgen.ReaderPool.Steps
import IngestionLab.Loadgen.SenderPool.Join
import IngestionLab.Loadgen.Throttler

/-!
# The pipeline of one run

The goroutines of a run, put together: the reader pool sends into the reader channel,
the throttler receives from it and sends into the sender channel, the intake of the
sender pool receives from that. `IngestionLab.Pipeline` is the state of one run,
`IngestionLab.Pipeline.Enabled` and `IngestionLab.Pipeline.next` say what its
goroutines may do and what comes of it. Each component moves as its own model says,
where the channels let it.

An action of a component belongs to someone (`IngestionLab.Actor`): to one of its
goroutines, to the event loop that calls it, or to whoever cancels its context. Only
the first and, once the context of the run or the root context is cancelled, the
last are steps of the pipeline; what the event loop does is in the model of the
event loop.

Nothing of a pipeline moves any more once each of its components has ended
(`IngestionLab.Pipeline.Quiet`, `IngestionLab.Pipeline.not_enabled_of_quiet`).
-/

namespace IngestionLab

open Go

/-! ### Who acts, and on which channel -/

/-- Whose step an action of a component is. -/
inductive Actor
  | eventLoop
  | context
  | goroutine
  deriving DecidableEq, Repr

/-- Whose step it is. -/
def ReaderPool.Action.actor : ReaderPool.Action → Actor
  | .reconcile _ | .receiveError _ | .stopMark => .eventLoop
  | .cancel => .context
  | _ => .goroutine

/-- What it asks of the reader channel. -/
def ReaderPool.Action.op : ReaderPool.Action → Chan.Op Batch
  | .read _ _ _ (.trySend batch) | .read _ _ _ (.waitSend batch) => .send batch
  | .read _ _ _ .tryDefault => .full
  | _ => .nothing

/-- Whose step it is. -/
def Throttler.Action.actor : Throttler.Action → Actor
  | .offer _ | .offerDropped => .eventLoop
  | .cancel => .context
  | _ => .goroutine

/-- What it asks of the reader channel. -/
def Throttler.Action.input : Throttler.Action → Chan.Op Batch
  | .idleReceive batch => .receive batch
  | .idleClosed => .closed
  | _ => .nothing

/-- What it asks of the sender channel. -/
def Throttler.Action.output : Throttler.Action → Chan.Op Batch
  | .trySend batch _ | .blockedSend batch => .send batch
  | .tryDefault _ _ => .full
  | _ => .nothing

/-- Whose step it is. -/
def SenderPool.Action.actor : SenderPool.Action → Actor
  | .reconcile _ | .reconcileJoined _ | .pause | .resumeRun | .stopCancel | .stopLock | .stopMark
  | .stopReturn => .eventLoop
  | .cancel => .context
  | _ => .goroutine

/-- What it asks of the sender channel. -/
def SenderPool.Action.op : SenderPool.Action → Chan.Op Batch
  | .intakeReceive batch => .receive batch
  | .intakeClosed => .closed
  | _ => .nothing

/-! ### The pipeline -/

/-- **The pipeline of one run**: the two channels, whether the context of the run is
cancelled, and the components that have been started. -/
structure Pipeline where
  readerBatches : Chan Batch := {}
  senderBatches : Chan Batch := {}
  runCancelled : Bool := false
  readerPool : Option ReaderPool := none
  throttler : Option Throttler := none
  senderPool : Option SenderPool := none

namespace Pipeline

/-- **What the goroutines of a run may do.** A sender and a receiver of the same
channel may also act together, without the buffer. -/
inductive Action
  | reader (a : ReaderPool.Action)
  | throttler (a : Throttler.Action)
  | sender (a : SenderPool.Action)
  | passToThrottler (a : ReaderPool.Action) (b : Throttler.Action)
  | passToSender (a : Throttler.Action) (b : SenderPool.Action)
  deriving DecidableEq, Repr

/-- The step is one of the pipeline, with `cancelled` for whether a context of the
components is cancelled. -/
def MayAct (cancelled : Bool) : Actor → Prop
  | .eventLoop => False
  | .context => cancelled = true
  | .goroutine => True

instance (cancelled : Bool) (who : Actor) : Decidable (MayAct cancelled who) := by
  cases who <;> dsimp only [MayAct] <;> infer_instance

/-- A send and a receipt of the same batch. -/
def Meet : Chan.Op Batch → Chan.Op Batch → Prop
  | .send x, .receive y => x = y
  | _, _ => False

instance : ∀ o o' : Chan.Op Batch, Decidable (Meet o o')
  | .send x, .receive y => inferInstanceAs (Decidable (x = y))
  | .send _, .nothing | .send _, .send _ | .send _, .full | .send _, .closed => .isFalse id
  | .nothing, _ | .full, _ | .receive _, _ | .closed, _ => .isFalse id

/-- **Where each action may be taken.** -/
def Enabled (rootCancelled : Bool) (sh : Memory) (q : Pipeline) : Action → Prop
  | .reader a => (∃ p ∈ q.readerPool, p.Enabled sh a) ∧
      MayAct (q.runCancelled || rootCancelled) a.actor ∧ q.readerBatches.Allows a.op
  | .throttler a => (∃ t ∈ q.throttler, t.Enabled sh.now a) ∧
      MayAct (q.runCancelled || rootCancelled) a.actor ∧ q.readerBatches.Allows a.input ∧
      q.senderBatches.Allows a.output
  | .sender a => (∃ p ∈ q.senderPool, p.Enabled sh.now a) ∧
      MayAct (q.runCancelled || rootCancelled) a.actor ∧ q.senderBatches.Allows a.op
  | .passToThrottler a b => (∃ p ∈ q.readerPool, p.Enabled sh a) ∧
      (∃ t ∈ q.throttler, t.Enabled sh.now b) ∧ Meet a.op b.input ∧ q.readerBatches.MayPass
  | .passToSender a b => (∃ t ∈ q.throttler, t.Enabled sh.now a) ∧
      (∃ p ∈ q.senderPool, p.Enabled sh.now b) ∧ Meet a.output b.op ∧ q.senderBatches.MayPass

instance (rootCancelled : Bool) (sh : Memory) (q : Pipeline) (a : Action) :
    Decidable (q.Enabled rootCancelled sh a) := by
  cases a <;> dsimp only [Enabled] <;> infer_instance

/-- A step of the reader pool. -/
def stepReader (sh : Memory) (q : Pipeline) (a : ReaderPool.Action) : Pipeline :=
  { q with readerPool := q.readerPool.map (·.next sh a) }

/-- A step of the throttler. -/
def stepThrottler (sh : Memory) (q : Pipeline) (a : Throttler.Action) : Pipeline :=
  { q with throttler := q.throttler.map (·.next sh.now a) }

/-- A step of the sender pool. -/
def stepSender (sh : Memory) (q : Pipeline) (a : SenderPool.Action) : Pipeline :=
  { q with senderPool := q.senderPool.map (·.next sh.now a) }

/-- **What each action does to the pipeline.** -/
def next (sh : Memory) (q : Pipeline) : Action → Pipeline
  | .reader a => { q.stepReader sh a with readerBatches := q.readerBatches.apply a.op }
  | .throttler a => { q.stepThrottler sh a with
      readerBatches := q.readerBatches.apply a.input
      senderBatches := q.senderBatches.apply a.output }
  | .sender a => { q.stepSender sh a with senderBatches := q.senderBatches.apply a.op }
  | .passToThrottler a b => (q.stepReader sh a).stepThrottler sh b
  | .passToSender a b => (q.stepThrottler sh a).stepSender sh b

/-- What each action does to the shared memory. -/
def remember (sh : Memory) : Action → Memory
  | .reader a => ReaderPool.remember sh a
  | .throttler a => Throttler.remember sh a
  | .sender a => SenderPool.remember sh a
  | .passToThrottler a b => Throttler.remember (ReaderPool.remember sh a) b
  | .passToSender a b => SenderPool.remember (Throttler.remember sh a) b

end Pipeline

end IngestionLab
