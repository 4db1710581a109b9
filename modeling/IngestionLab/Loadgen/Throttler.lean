import IngestionLab.Go.Arith
import IngestionLab.Loadgen.Telemetry
import IngestionLab.Machine.Run

/-!
# The throttler

The model of `throttler.go`: one goroutine that takes batches out of the reader
channel one at a time and puts each into the sender channel, no earlier than the
pace allows. Its position is `IngestionLab.ThrottlerPc`; each select is a position,
with one action for every case of it, and every reading of the clock and every
critical section of the telemetry is an action of its own.

`update` is a rendezvous: the event loop offers new settings and waits, in
`IngestionLab.Throttler.updating`, until the throttler takes them in one of its
selects or has ended.

The channels are left to the environment: the batch received is in the label of
the action, and the sender channel may accept a batch, or not, at any time. So is
the shared memory, as long as nobody else counts receipts on the reader channel or
forwards on the sender channel, or opens or closes blocked intervals of the latter
(`IngestionLab.Throttler.Rely`), and as long as the clock does not run backwards.
-/

namespace IngestionLab

open Go

/-- What the throttler is set to (`throttlerSettings`). -/
structure ThrottlerSettings where
  requestedTPS : ℤ
  installed : Bool
  deriving DecidableEq, Repr

/-- How a blocking send ended. -/
inductive BlockedOutcome
  | canceled
  | updated (settings : ThrottlerSettings)
  | sent
  deriving DecidableEq, Repr

/-- **Where the throttler's goroutine stands** in `start` and `forwardBatch`; `since`
is the local `waitStarted`. -/
inductive ThrottlerPc
  /-- In the select of `start`. -/
  | idle
  /-- Has received a batch, about to record the receipt. -/
  | received (batch : Batch)
  /-- About to read the clock into `waitStarted`. -/
  | restart (batch : Batch)
  /-- At the head of the loop of `forwardBatch`. -/
  | check (batch : Batch) (since : ℕ)
  /-- In the select taken when the rate is zero. -/
  | zero (batch : Batch)
  /-- In the select with the pacing timer. -/
  | pacing (batch : Batch) (since due : ℕ)
  /-- In the select with a default case. -/
  | trying (batch : Batch) (since : ℕ)
  /-- About to open a blocked interval. -/
  | block (batch : Batch)
  /-- In the blocking select. -/
  | blocked (batch : Batch)
  /-- Out of the blocking select, about to close the blocked interval. -/
  | unblock (batch : Batch) (outcome : BlockedOutcome)
  /-- The batch is in the sender channel; about to record the forward. -/
  | sent (batch : Batch)
  /-- Has returned; `done` is not closed yet. -/
  | leaving
  /-- The goroutine has ended and `done` is closed. -/
  | exited
  deriving DecidableEq, Repr

namespace ThrottlerPc

/-- The batch received and not forwarded. -/
def hand : ThrottlerPc → Option Batch
  | received b | restart b | check b _ | zero b | pacing b _ _ | trying b _ | block b | blocked b
  | unblock b .canceled | unblock b (.updated _) => some b
  | idle | unblock _ .sent | sent _ | leaving | exited => none

/-- The batch received whose receipt is not recorded yet. -/
def unrecordedReceive : ThrottlerPc → Option Batch
  | received b => some b
  | _ => none

/-- The batch forwarded whose forward is not recorded yet. -/
def unrecordedSend : ThrottlerPc → Option Batch
  | sent b | unblock b .sent => some b
  | _ => none

/-- In the blocking send: from the opening of the blocked interval to its close. -/
def inBlockingSend : ThrottlerPc → Bool
  | blocked _ | unblock _ _ => true
  | _ => false

/-- The batch held in a select of `forwardBatch` outside the blocking send. -/
def selecting : ThrottlerPc → Option Batch
  | zero b | pacing b _ _ | trying b _ => some b
  | _ => none

end ThrottlerPc

/-- A batch that has entered the sender channel: when, under which settings, and the
later of its acceptance and the last update taken while it was held. -/
structure Admission where
  batch : Batch
  heldSince : ℕ
  settings : ThrottlerSettings
  admittedAt : ℕ
  deriving DecidableEq, Repr

/-- **The throttler** (`throttler`): its position, the settings in force, the settings
an `update` is offering.

The last four fields are not in the source and only observe it: the batches
received, the log of admissions, when the batch in hand was accepted or settings
were last taken, and the settings last taken. -/
structure Throttler where
  pc : ThrottlerPc
  settings : ThrottlerSettings
  updating : Option ThrottlerSettings
  cancelled : Bool
  received : List Batch
  log : List Admission
  heldSince : ℕ
  taken : ThrottlerSettings
  deriving DecidableEq, Repr

namespace Throttler

/-- `start`. -/
def start (initial : ThrottlerSettings) : Throttler where
  pc := .idle
  settings := initial
  updating := none
  cancelled := false
  received := []
  log := []
  heldSince := 0
  taken := initial

/-- The batches forwarded. -/
def forwarded (t : Throttler) : List Batch := t.log.map Admission.batch

/-- The pacing interval of a batch:
`time.Duration(len(batch)) * time.Second / time.Duration(requestedTPS)`. -/
def interval (batch : Batch) (requestedTPS : ℤ) : ℤ :=
  (wrap64 (batch.length * second)).tdiv requestedTPS

/-- What is left of the interval: `interval - time.Since(waitStarted)`. -/
def remaining (batch : Batch) (requestedTPS : ℤ) (now since : ℕ) : ℤ :=
  interval batch requestedTPS - sub now since

/-- The rate is zero and in force. -/
def IsZero (settings : ThrottlerSettings) : Prop :=
  settings.installed = true ∧ settings.requestedTPS = 0

instance (settings : ThrottlerSettings) : Decidable (IsZero settings) :=
  inferInstanceAs (Decidable (_ ∧ _))

/-- The pace holds the batch back. -/
def MustWait (settings : ThrottlerSettings) (batch : Batch) (now since : ℕ) : Prop :=
  settings.installed = true ∧ 0 < remaining batch settings.requestedTPS now since

instance (settings : ThrottlerSettings) (batch : Batch) (now since : ℕ) :
    Decidable (MustWait settings batch now since) :=
  inferInstanceAs (Decidable (_ ∧ _))

/-- Note that a batch enters the sender channel. -/
def forward (t : Throttler) (batch : Batch) (now : ℕ) : Throttler :=
  { t with log := t.log ++ [⟨batch, t.heldSince, t.settings, now⟩] }

/-- Note that offered settings are taken. -/
def take (t : Throttler) (settings : ThrottlerSettings) (now : ℕ) : Throttler :=
  { t with updating := none, taken := settings, heldSince := now }

/-- **What the throttler, the event loop or the parent context may do next.** -/
inductive Action
  -- the event loop
  | offer (settings : ThrottlerSettings)
  | offerDropped
  -- the context
  | cancel
  -- `start`
  | idleCanceled
  | idleUpdate (settings : ThrottlerSettings)
  | idleClosed
  | idleReceive (batch : Batch)
  | recordReceive (batch : Batch)
  -- `forwardBatch`
  | readClock (batch : Batch)
  | checkZero (batch : Batch) (since : ℕ)
  | checkPace (batch : Batch) (since : ℕ)
  | checkTry (batch : Batch) (since : ℕ)
  | selectCanceled (batch : Batch)
  | selectUpdate (batch : Batch) (settings : ThrottlerSettings)
  | timer (batch : Batch) (since due : ℕ)
  | trySend (batch : Batch) (since : ℕ)
  | tryDefault (batch : Batch) (since : ℕ)
  | startBlocked (batch : Batch)
  | blockedCanceled (batch : Batch)
  | blockedUpdate (batch : Batch) (settings : ThrottlerSettings)
  | blockedSend (batch : Batch)
  | finishBlocked (batch : Batch) (outcome : BlockedOutcome)
  | recordSend (batch : Batch)
  | leave
  deriving DecidableEq, Repr

/-- **Where each action may be taken.** The default case of a select is taken only
when no other case is ready: not with a cancelled context, not while settings are
offered. -/
def Enabled (now : ℕ) (t : Throttler) : Action → Prop
  | .offer _ => t.updating = none
  | .offerDropped => t.updating ≠ none ∧ t.pc = .exited
  | .cancel => True
  | .idleCanceled => t.pc = .idle ∧ t.cancelled = true
  | .idleUpdate settings => t.pc = .idle ∧ t.updating = some settings
  | .idleClosed => t.pc = .idle
  | .idleReceive _ => t.pc = .idle
  | .recordReceive batch => t.pc = .received batch
  | .readClock batch => t.pc = .restart batch
  | .checkZero batch since => t.pc = .check batch since ∧ IsZero t.settings
  | .checkPace batch since => t.pc = .check batch since ∧ ¬IsZero t.settings ∧
      MustWait t.settings batch now since
  | .checkTry batch since => t.pc = .check batch since ∧ ¬IsZero t.settings ∧
      ¬MustWait t.settings batch now since
  | .selectCanceled batch => t.pc.selecting = some batch ∧ t.cancelled = true
  | .selectUpdate batch settings => t.pc.selecting = some batch ∧ t.updating = some settings
  | .timer batch since due => t.pc = .pacing batch since due ∧ due ≤ now
  | .trySend batch since => t.pc = .trying batch since
  | .tryDefault batch since => t.pc = .trying batch since ∧ t.cancelled = false ∧ t.updating = none
  | .startBlocked batch => t.pc = .block batch
  | .blockedCanceled batch => t.pc = .blocked batch ∧ t.cancelled = true
  | .blockedUpdate batch settings => t.pc = .blocked batch ∧ t.updating = some settings
  | .blockedSend batch => t.pc = .blocked batch
  | .finishBlocked batch outcome => t.pc = .unblock batch outcome
  | .recordSend batch => t.pc = .sent batch
  | .leave => t.pc = .leaving

instance (now : ℕ) (t : Throttler) (a : Action) : Decidable (t.Enabled now a) := by
  cases a <;> dsimp only [Enabled] <;> infer_instance

/-- **What each action does to the throttler.** -/
def next (now : ℕ) (t : Throttler) : Action → Throttler
  | .offer settings => { t with updating := some settings }
  | .offerDropped => { t with updating := none }
  | .cancel => { t with cancelled := true }
  | .idleCanceled => { t with pc := .leaving }
  | .idleUpdate settings => { t.take settings now with settings := settings }
  | .idleClosed => { t with pc := .leaving }
  | .idleReceive batch =>
      { t with pc := .received batch, received := t.received ++ [batch], heldSince := now }
  | .recordReceive batch => { t with pc := .restart batch }
  | .readClock batch => { t with pc := .check batch now }
  | .checkZero batch _ => { t with pc := .zero batch }
  | .checkPace batch since =>
      let left := remaining batch t.settings.requestedTPS now since
      { t with pc := .pacing batch since (now + left.toNat) }
  | .checkTry batch since => { t with pc := .trying batch since }
  | .selectCanceled _ => { t with pc := .leaving }
  | .selectUpdate batch settings =>
      { t.take settings now with settings := settings, pc := .restart batch }
  | .timer batch since _ => { t with pc := .check batch since }
  | .trySend batch _ => { t.forward batch now with pc := .sent batch }
  | .tryDefault batch _ => { t with pc := .block batch }
  | .startBlocked batch => { t with pc := .blocked batch }
  | .blockedCanceled batch => { t with pc := .unblock batch .canceled }
  | .blockedUpdate batch settings =>
      { t.take settings now with pc := .unblock batch (.updated settings) }
  | .blockedSend batch => { t.forward batch now with pc := .unblock batch .sent }
  | .finishBlocked batch outcome =>
      match outcome with
      | .canceled => { t with pc := .leaving }
      | .updated settings => { t with settings := settings, pc := .restart batch }
      | .sent => { t with pc := .sent batch }
  | .recordSend _ => { t with pc := .idle }
  | .leave => { t with pc := .exited }

/-- What each action does to the shared memory. -/
def remember (sh : Memory) : Action → Memory
  | .recordReceive batch => { sh with readerChannel := sh.readerChannel.recordReceive batch.length }
  | .startBlocked _ => { sh with senderChannel := sh.senderChannel.startBlocked sh.now }
  | .finishBlocked _ _ => { sh with senderChannel := sh.senderChannel.finishBlocked sh.now }
  | .recordSend batch => { sh with senderChannel := sh.senderChannel.recordSend batch.length }
  | _ => sh

/-- **What the others may do to the shared memory** while the throttler runs: let
time pass, record reads, sends of the readers and receipts of the senders, sample.
They do not count receipts on the reader channel nor forwards on the sender
channel, and leave the blocked intervals of the latter alone. -/
structure Rely (sh sh' : Memory) : Prop where
  now : sh.now ≤ sh'.now
  receivedBatches : sh'.readerChannel.measurements.receivedBatchesTotal =
    sh.readerChannel.measurements.receivedBatchesTotal
  receivedTransactions : sh'.readerChannel.measurements.receivedTransactionsTotal =
    sh.readerChannel.measurements.receivedTransactionsTotal
  sentBatches : sh'.senderChannel.measurements.sentBatchesTotal =
    sh.senderChannel.measurements.sentBatchesTotal
  sentTransactions : sh'.senderChannel.measurements.sentTransactionsTotal =
    sh.senderChannel.measurements.sentTransactionsTotal
  blockedAt : sh'.senderChannel.measurements.blockedAt = sh.senderChannel.measurements.blockedAt

instance (sh sh' : Memory) : Decidable (Rely sh sh') :=
  decidable_of_iff (_ ∧ _ ∧ _ ∧ _ ∧ _ ∧ _)
    ⟨fun ⟨h1, h2, h3, h4, h5, h6⟩ => ⟨h1, h2, h3, h4, h5, h6⟩,
      fun ⟨h1, h2, h3, h4, h5, h6⟩ => ⟨h1, h2, h3, h4, h5, h6⟩⟩

/-- **The throttler as a machine**, beside others that keep to
`IngestionLab.Throttler.Rely`. -/
def machine : Machine (Memory × Throttler) (Memory ⊕ Action) where
  Enabled s
    | .inl sh => Rely s.1 sh
    | .inr a => s.2.Enabled s.1.now a
  next s
    | .inl sh => (sh, s.2)
    | .inr a => (remember s.1 a, s.2.next s.1.now a)

instance (s : Memory × Throttler) (a : Memory ⊕ Action) : Decidable (machine.Enabled s a) :=
  match a with
  | .inl sh => inferInstanceAs (Decidable (Rely s.1 sh))
  | .inr a => inferInstanceAs (Decidable (s.2.Enabled s.1.now a))

end Throttler

end IngestionLab
