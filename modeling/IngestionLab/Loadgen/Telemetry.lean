import Mathlib.Data.Rat.Defs
import Mathlib.Algebra.Order.Field.Rat
import Mathlib.Tactic.Positivity

/-!
# Telemetry, and the memory the goroutines share

The stages of a run – reader workers, throttler, sender workers – never speak to
one another except through the two batch channels, but they all write to a few
mutex-guarded records that the event loop reads and clears: the telemetry of the
reader, the telemetry of either channel, and the counter of completed
transactions. `IngestionLab.Memory` collects them, with the clock.

Each operation below is one critical section of the source. Instants are
nanoseconds since some origin; a zero `time.Time` is `none`; a duration is an
integer number of nanoseconds, so that a difference of two instants may be
negative as it may be in Go. The rates are kept as exact rationals.
-/

namespace IngestionLab

/-- A transaction, as far as the load path looks inside one. -/
structure Transaction where
  clientID : String
  deriving DecidableEq, Repr

/-- A batch of transactions. -/
abbrev Batch := List Transaction

/-- `now.Sub(since)`. -/
def sub (now since : ℕ) : ℤ := now - since

/-- `Duration.Milliseconds`: whole milliseconds, rounded towards zero. -/
def milliseconds (duration : ℤ) : ℤ := duration.tdiv 1000000

/-- `Duration.Seconds`. -/
def seconds (duration : ℤ) : ℚ := duration / 1000000000

/-! ### The telemetry of a channel -/

/-- The measurements of one channel (`channelTelemetryMeasurements`). The map of
open blocked intervals is an association list from writers to the instants their
intervals were opened at. -/
structure ChannelTelemetryMeasurements where
  blockedAt : List (ℕ × ℕ) := []
  nextBlockedID : ℕ := 0
  blockedMs : ℤ := 0
  sentBatchesTotal : ℕ := 0
  sentTransactionsTotal : ℕ := 0
  receivedBatchesTotal : ℕ := 0
  receivedTransactionsTotal : ℕ := 0
  sentBatchesPerSecond : ℚ := 0
  sentTransactionsPerSecond : ℚ := 0
  receivedBatchesPerSecond : ℚ := 0
  receivedTransactionsPerSecond : ℚ := 0
  sentBatchesSinceTick : ℕ := 0
  sentTransactionsSinceTick : ℕ := 0
  receivedBatchesSinceTick : ℕ := 0
  receivedTransactionsSinceTick : ℕ := 0
  deriving DecidableEq, Repr

/-- The telemetry of one channel (`channelTelemetry`): the channel it is attached
to – named by the number of the run that made it – the batch size used to
estimate what it buffers, and the measurements. -/
structure ChannelTelemetry where
  batches : Option ℕ := none
  batchSize : ℤ := 0
  measurements : ChannelTelemetryMeasurements := {}
  deriving DecidableEq, Repr

/-- What a snapshot of a channel reports (`channelMeasurements`). -/
structure ChannelMeasurements where
  capacity : ℤ := 0
  depthBatches : ℤ := 0
  bufferedTransactions : ℤ := 0
  blockedSenders : ℤ := 0
  oldestBlockedSenderMs : ℤ := 0
  blockedMs : ℤ := 0
  sentBatchesTotal : ℤ := 0
  sentTransactionsTotal : ℤ := 0
  receivedBatchesTotal : ℤ := 0
  receivedTransactionsTotal : ℤ := 0
  sentBatchesPerSecond : ℚ := 0
  sentTransactionsPerSecond : ℚ := 0
  receivedBatchesPerSecond : ℚ := 0
  receivedTransactionsPerSecond : ℚ := 0
  deriving DecidableEq, Repr

/-- What the telemetry of a channel counts. -/
def ChannelMeasurements.counters (status : ChannelMeasurements) : List ℤ :=
  [status.depthBatches, status.bufferedTransactions, status.blockedSenders,
    status.oldestBlockedSenderMs, status.blockedMs, status.sentBatchesTotal,
    status.sentTransactionsTotal, status.receivedBatchesTotal, status.receivedTransactionsTotal]

namespace ChannelTelemetry

/-- `start`: attach to the channel of a run. -/
def start (q : ChannelTelemetry) (batches : ℕ) (batchSize : ℤ) : ChannelTelemetry :=
  { q with batches := some batches, batchSize := batchSize }

/-- `clearMeasurements`. -/
def clearMeasurements (q : ChannelTelemetry) : ChannelTelemetry := { q with measurements := {} }

/-- `detach`. -/
def detach (q : ChannelTelemetry) : ChannelTelemetry :=
  { q with batches := none, batchSize := 0 }.clearMeasurements

/-- `recordSend`. -/
def recordSend (q : ChannelTelemetry) (transactions : ℕ) : ChannelTelemetry :=
  { q with measurements := { q.measurements with
      sentBatchesTotal := q.measurements.sentBatchesTotal + 1
      sentTransactionsTotal := q.measurements.sentTransactionsTotal + transactions
      sentBatchesSinceTick := q.measurements.sentBatchesSinceTick + 1
      sentTransactionsSinceTick := q.measurements.sentTransactionsSinceTick + transactions } }

/-- `recordReceive`. -/
def recordReceive (q : ChannelTelemetry) (transactions : ℕ) : ChannelTelemetry :=
  { q with measurements := { q.measurements with
      receivedBatchesTotal := q.measurements.receivedBatchesTotal + 1
      receivedTransactionsTotal := q.measurements.receivedTransactionsTotal + transactions
      receivedBatchesSinceTick := q.measurements.receivedBatchesSinceTick + 1
      receivedTransactionsSinceTick :=
        q.measurements.receivedTransactionsSinceTick + transactions } }

/-- `sample`: turn the counts since the last tick into rates. -/
def sample (q : ChannelTelemetry) (window : ℤ) : ChannelTelemetry :=
  { q with measurements := { q.measurements with
      sentBatchesPerSecond := q.measurements.sentBatchesSinceTick / seconds window
      sentTransactionsPerSecond := q.measurements.sentTransactionsSinceTick / seconds window
      receivedBatchesPerSecond := q.measurements.receivedBatchesSinceTick / seconds window
      receivedTransactionsPerSecond :=
        q.measurements.receivedTransactionsSinceTick / seconds window
      sentBatchesSinceTick := 0
      sentTransactionsSinceTick := 0
      receivedBatchesSinceTick := 0
      receivedTransactionsSinceTick := 0 } }

/-- `startInterval`: rates and counts restart, totals stay. -/
def startInterval (q : ChannelTelemetry) : ChannelTelemetry :=
  { q with measurements := { q.measurements with
      sentBatchesPerSecond := 0
      sentTransactionsPerSecond := 0
      receivedBatchesPerSecond := 0
      receivedTransactionsPerSecond := 0
      sentBatchesSinceTick := 0
      sentTransactionsSinceTick := 0
      receivedBatchesSinceTick := 0
      receivedTransactionsSinceTick := 0 } }

/-- The identity the next blocked interval gets. -/
def nextBlocked (q : ChannelTelemetry) : ℕ := q.measurements.nextBlockedID + 1

/-- `startBlocked`: open a blocked interval under a fresh identity. -/
def startBlocked (q : ChannelTelemetry) (now : ℕ) : ChannelTelemetry :=
  { q with measurements := { q.measurements with
      nextBlockedID := q.nextBlocked
      blockedAt := (q.nextBlocked, now) :: q.measurements.blockedAt } }

/-- `finishBlockedLocked`: close one interval, adding its length. -/
def finishBlockedLocked (q : ChannelTelemetry) (id now : ℕ) : ChannelTelemetry :=
  match q.measurements.blockedAt.lookup id with
  | none => q
  | some since =>
    { q with measurements := { q.measurements with
        blockedMs := q.measurements.blockedMs + max 0 (sub now since)
        blockedAt := q.measurements.blockedAt.filter fun entry => entry.1 != id } }

/-- `finishBlockedWriter`. -/
def finishBlockedWriter (q : ChannelTelemetry) (id now : ℕ) : ChannelTelemetry :=
  q.finishBlockedLocked id now

/-- `finishBlocked`: close an open interval, whichever the iteration over the map
yields first. -/
def finishBlocked (q : ChannelTelemetry) (now : ℕ) : ChannelTelemetry :=
  match q.measurements.blockedAt with
  | [] => q
  | (id, _) :: _ => q.finishBlockedLocked id now

/-- `snapshot`, with the capacity and the depth of the attached channel. -/
def snapshot (q : ChannelTelemetry) (channel : Option (ℤ × ℤ)) (now : ℕ) : ChannelMeasurements where
  capacity := (channel.map Prod.fst).getD 0
  depthBatches := (channel.map Prod.snd).getD 0
  bufferedTransactions := (channel.map fun c => c.2 * q.batchSize).getD 0
  blockedSenders := q.measurements.blockedAt.length
  oldestBlockedSenderMs := q.measurements.blockedAt.foldl
    (fun oldest entry => if 0 < sub now entry.2 then max oldest (milliseconds (sub now entry.2))
      else oldest) 0
  blockedMs := milliseconds (q.measurements.blockedAt.foldl
    (fun blocked entry => if 0 < sub now entry.2 then blocked + sub now entry.2 else blocked)
    q.measurements.blockedMs)
  sentBatchesTotal := q.measurements.sentBatchesTotal
  sentTransactionsTotal := q.measurements.sentTransactionsTotal
  receivedBatchesTotal := q.measurements.receivedBatchesTotal
  receivedTransactionsTotal := q.measurements.receivedTransactionsTotal
  sentBatchesPerSecond := q.measurements.sentBatchesPerSecond
  sentTransactionsPerSecond := q.measurements.sentTransactionsPerSecond
  receivedBatchesPerSecond := q.measurements.receivedBatchesPerSecond
  receivedTransactionsPerSecond := q.measurements.receivedTransactionsPerSecond

end ChannelTelemetry

/-! ### The telemetry of the reader -/

/-- The reader's counters (`readerTelemetry`). -/
structure ReaderTelemetry where
  rowsRead : ℕ := 0
  readTPS : ℚ := 0
  intervalAt : Option ℕ := none
  intervalRows : ℕ := 0
  deriving DecidableEq, Repr

namespace ReaderTelemetry

/-- `startInterval`. -/
def startInterval (r : ReaderTelemetry) (now : ℕ) : ReaderTelemetry :=
  { r with intervalAt := some now, intervalRows := r.rowsRead, readTPS := 0 }

/-- `recordRead`. -/
def recordRead (r : ReaderTelemetry) (n : ℕ) : ReaderTelemetry :=
  { r with rowsRead := r.rowsRead + n }

/-- `sample`: nothing without an interval, or before any time has passed. -/
def sample (r : ReaderTelemetry) (now : ℕ) : ReaderTelemetry :=
  match r.intervalAt with
  | none => r
  | some since =>
    if sub now since ≤ 0 then r
    else { r with
      readTPS := ((r.rowsRead : ℤ) - r.intervalRows : ℤ) / seconds (sub now since)
      intervalAt := some now
      intervalRows := r.rowsRead }

/-- `reset`. -/
def reset (_ : ReaderTelemetry) : ReaderTelemetry := {}

end ReaderTelemetry

/-! ### Shared memory -/

/-- **What the goroutines of the service share** besides the channels: the clock,
the three telemetry records of `controlTelemetry`, and the counter
`terminallyCompletedTransactionsSinceTick`. -/
structure Memory where
  now : ℕ := 0
  reader : ReaderTelemetry := {}
  readerChannel : ChannelTelemetry := {}
  senderChannel : ChannelTelemetry := {}
  terminallyCompletedTransactionsSinceTick : ℕ := 0
  deriving DecidableEq, Repr

end IngestionLab
