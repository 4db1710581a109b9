import IngestionLab.Loadgen.Telemetry
import IngestionLab.Machine.Run
import IngestionLab.Machine.Spans
import Mathlib.Data.List.GetD
import Mathlib.Data.List.Range

/-!
# What the telemetry of a channel accounts for

Any number of writers measure how long they are blocked on one channel: each opens an
interval under an identity the telemetry hands out, and closes the interval of that
identity. Sends and receives are counted, samples take the counts since the last tick,
and a clear starts everything over.

`IngestionLab.ChannelAccount` sets next to the telemetry what an observer of the
critical sections notes: one span of time for each writer that was blocked since the
last clear (`IngestionLab.ChannelLedger`), and the counts the samples took. The
telemetry is right (`IngestionLab.ChannelAccount.Accounted`) if a snapshot reports what
the observer computes from its notes.

A clear also starts the identities over, so a writer that was blocked before the clear
may hold the identity of one that is blocked now, and close its interval.
`IngestionLab.ChannelAccount.accounting_iff` says that this is the only way the
accounts go wrong.
-/

namespace IngestionLab

/-! ### Counts -/

/-- The four counts of a channel. -/
@[ext]
structure ChannelCounts where
  sentBatches : ℕ := 0
  sentTransactions : ℕ := 0
  receivedBatches : ℕ := 0
  receivedTransactions : ℕ := 0
  deriving DecidableEq, Repr

instance : Add ChannelCounts where
  add a b :=
    { sentBatches := a.sentBatches + b.sentBatches
      sentTransactions := a.sentTransactions + b.sentTransactions
      receivedBatches := a.receivedBatches + b.receivedBatches
      receivedTransactions := a.receivedTransactions + b.receivedTransactions }

/-- No counts. -/
instance : Zero ChannelCounts := ⟨{}⟩

instance : AddMonoid ChannelCounts where
  add_assoc a b c := by ext <;> exact Nat.add_assoc ..
  zero_add a := by ext <;> exact Nat.zero_add _
  add_zero a := rfl
  nsmul := nsmulRec

namespace ChannelTelemetryMeasurements

/-- The totals. -/
def totals (m : ChannelTelemetryMeasurements) : ChannelCounts where
  sentBatches := m.sentBatchesTotal
  sentTransactions := m.sentTransactionsTotal
  receivedBatches := m.receivedBatchesTotal
  receivedTransactions := m.receivedTransactionsTotal

/-- The counts no sample has taken. -/
def sinceTick (m : ChannelTelemetryMeasurements) : ChannelCounts where
  sentBatches := m.sentBatchesSinceTick
  sentTransactions := m.sentTransactionsSinceTick
  receivedBatches := m.receivedBatchesSinceTick
  receivedTransactions := m.receivedTransactionsSinceTick

end ChannelTelemetryMeasurements

/-! ### The critical sections, and the observer of them -/

/-- **A critical section** of the telemetry. Writers are numbered in the order in which
they open their intervals. -/
inductive ChannelOperation
  | startBlocked (now : ℕ)
  | finishBlockedWriter (writer now : ℕ)
  | recordSend (transactions : ℕ)
  | recordReceive (transactions : ℕ)
  | snapshot (now : ℕ)
  | sample (window : ℤ)
  | startInterval
  | clearMeasurements
  deriving DecidableEq, Repr

/-- **The notes of an observer**: for each writer its place among those that have
started since the same clear, the spans of the writers that have started since the last
clear, the totals at the last clear or `startInterval`, and what the samples have taken
since. -/
structure ChannelLedger where
  places : List ℕ := []
  spans : List (Span ℕ) := []
  base : ChannelCounts := 0
  taken : ChannelCounts := 0
  deriving DecidableEq, Repr

namespace ChannelLedger

/-- The place of a writer. -/
def place (l : ChannelLedger) (writer : ℕ) : ℕ := l.places.getD writer 0

/-- What the observer notes of a critical section; the counts are read before it. -/
def note (l : ChannelLedger) (m : ChannelTelemetryMeasurements) : ChannelOperation → ChannelLedger
  | .startBlocked now =>
    { l with
      places := l.places ++ [l.spans.length + 1]
      spans := l.spans ++ [{ holder := l.places.length, since := now }] }
  | .finishBlockedWriter writer now => { l with spans := l.spans.map (Span.close writer now) }
  | .sample _ => { l with taken := l.taken + m.sinceTick }
  | .startInterval => { l with base := m.totals, taken := 0 }
  | .clearMeasurements => { l with spans := [], base := 0, taken := 0 }
  | .recordSend _ | .recordReceive _ | .snapshot _ => l

end ChannelLedger

/-- **The telemetry and its observer**: the telemetry, the identity each writer was
handed, the time of the last critical section that read the clock, and the notes. -/
structure ChannelAccount where
  telemetry : ChannelTelemetry := {}
  blockedIDs : List ℕ := []
  clock : ℕ := 0
  ledger : ChannelLedger := {}
  deriving DecidableEq, Repr

namespace ChannelAccount

/-- The telemetry after a critical section. -/
def perform (x : ChannelAccount) : ChannelOperation → ChannelTelemetry
  | .startBlocked now => x.telemetry.startBlocked now
  | .finishBlockedWriter writer now =>
    x.telemetry.finishBlockedWriter (x.blockedIDs.getD writer 0) now
  | .recordSend transactions => x.telemetry.recordSend transactions
  | .recordReceive transactions => x.telemetry.recordReceive transactions
  | .snapshot _ => x.telemetry
  | .sample window => x.telemetry.sample window
  | .startInterval => x.telemetry.startInterval
  | .clearMeasurements => x.telemetry.clearMeasurements

/-- The identities handed out after a critical section. -/
def handOut (x : ChannelAccount) : ChannelOperation → List ℕ
  | .startBlocked _ => x.blockedIDs ++ [x.telemetry.nextBlocked]
  | _ => x.blockedIDs

/-- The time after a critical section. -/
def tick (x : ChannelAccount) : ChannelOperation → ℕ
  | .startBlocked now | .finishBlockedWriter _ now | .snapshot now => now
  | _ => x.clock

/-- The clock does not run backwards, and only a writer that has started finishes. -/
def Enabled (x : ChannelAccount) : ChannelOperation → Prop
  | .startBlocked now | .snapshot now => x.clock ≤ now
  | .finishBlockedWriter writer now => x.clock ≤ now ∧ writer < x.blockedIDs.length
  | _ => True

instance : ∀ (x : ChannelAccount) (op : ChannelOperation), Decidable (x.Enabled op)
  | x, .startBlocked now | x, .snapshot now => inferInstanceAs (Decidable (x.clock ≤ now))
  | x, .finishBlockedWriter writer now =>
    inferInstanceAs (Decidable (x.clock ≤ now ∧ writer < x.blockedIDs.length))
  | _, .recordSend _ | _, .recordReceive _ | _, .sample _ | _, .startInterval
  | _, .clearMeasurements => .isTrue trivial

/-- **Any sequence of critical sections**, in lock order. -/
def machine : Machine ChannelAccount ChannelOperation where
  Enabled := Enabled
  next x op :=
    { telemetry := x.perform op
      blockedIDs := x.handOut op
      clock := x.tick op
      ledger := x.ledger.note x.telemetry.measurements op }

instance (x : ChannelAccount) (op : ChannelOperation) : Decidable (machine.Enabled x op) :=
  inferInstanceAs (Decidable (x.Enabled op))

/-- Nothing has been measured, and nothing noted. -/
def Fresh (x : ChannelAccount) : Prop :=
  x.telemetry.measurements = {} ∧ x.blockedIDs = [] ∧ x.ledger = {}

/-- **The telemetry is right**: a snapshot reports what the observer computes. -/
structure Accounted (x : ChannelAccount) : Prop where
  /-- The blocked senders are the open spans. -/
  blockedSenders : ∀ channel now, x.clock ≤ now →
    (x.telemetry.snapshot channel now).blockedSenders = (x.ledger.spans.filter Span.isOpen).length
  /-- The blocked time is that of the closed spans, and the ages of the open ones. -/
  blockedMs : ∀ channel now, x.clock ≤ now →
    (x.telemetry.snapshot channel now).blockedMs =
      milliseconds ((Span.closedLengths x.ledger.spans).sum +
        (Span.openAges x.ledger.spans now).sum)
  /-- The oldest is the greatest of these ages. -/
  oldest : ∀ channel now, x.clock ≤ now →
    (x.telemetry.snapshot channel now).oldestBlockedSenderMs =
      milliseconds ((Span.openAges x.ledger.spans now).max?.getD 0)
  /-- What the samples took and what no sample has taken yet is what the totals grew by. -/
  counts : x.ledger.base + (x.ledger.taken + x.telemetry.measurements.sinceTick) =
    x.telemetry.measurements.totals

/-- **A writer that finishes leaves the others alone**: the interval of every other
blocked writer stays open, since the same instant. -/
def LeavesOthers (x : ChannelAccount) : ChannelOperation → Prop
  | .finishBlockedWriter writer now =>
    ∀ s ∈ x.ledger.spans, s.isOpen → s.holder ≠ writer →
      ∀ id ∈ x.blockedIDs[s.holder]?,
        x.telemetry.measurements.blockedAt.lookup id = some s.since ∧
          (x.perform (.finishBlockedWriter writer now)).measurements.blockedAt.lookup id =
            some s.since
  | _ => True

/-- **No one else is blocked in the place of the writer that finishes.** A place is taken
twice only if a clear has come between. -/
def Undisturbed (x : ChannelAccount) : ChannelOperation → Prop
  | .finishBlockedWriter writer _ =>
    ∀ s ∈ x.ledger.spans, s.isOpen → x.ledger.place s.holder = x.ledger.place writer →
      s.holder = writer
  | _ => True

instance : ∀ (x : ChannelAccount) (op : ChannelOperation), Decidable (x.Undisturbed op)
  | x, .finishBlockedWriter writer _ =>
    inferInstanceAs (Decidable (∀ s ∈ x.ledger.spans, s.isOpen →
      x.ledger.place s.holder = x.ledger.place writer → s.holder = writer))
  | _, .startBlocked _ | _, .snapshot _ | _, .recordSend _ | _, .recordReceive _ | _, .sample _
  | _, .startInterval | _, .clearMeasurements => .isTrue trivial

/-! ### What is kept -/

variable {x : ChannelAccount}

/-- **The telemetry keeps what the observer noted**: its map is the table of the open
spans under the places of their writers, which are the identities it handed out, and
its accumulator is the length of the closed ones. -/
structure Kept (x : ChannelAccount) : Prop where
  blockedIDs : x.blockedIDs = x.ledger.places
  nextBlockedID : x.telemetry.measurements.nextBlockedID = x.ledger.spans.length
  places : x.ledger.spans.map (fun s => x.ledger.place s.holder) =
    List.range' 1 x.ledger.spans.length
  started : ∀ s ∈ x.ledger.spans, s.holder < x.ledger.places.length
  inOrder : ∀ s ∈ x.ledger.spans, s.InOrder x.clock
  blockedAt : x.telemetry.measurements.blockedAt = Span.table x.ledger.place x.ledger.spans
  blockedMs : x.telemetry.measurements.blockedMs = (Span.closedLengths x.ledger.spans).sum
  counts : x.ledger.base + (x.ledger.taken + x.telemetry.measurements.sinceTick) =
    x.telemetry.measurements.totals

theorem Fresh.kept (h : x.Fresh) : x.Kept := by
  obtain ⟨hmeasurements, hids, hledger⟩ := h
  constructor
  all_goals simp [hmeasurements, hids, hledger, Span.table, Span.closedLengths]
  rfl

namespace Kept

theorem place_nodup (h : x.Kept) : (x.ledger.spans.map fun s => x.ledger.place s.holder).Nodup := by
  rw [h.places]
  exact List.nodup_range'

/-- Each writer has one span at most. -/
theorem holder_nodup (h : x.Kept) : (x.ledger.spans.map Span.holder).Nodup := by
  have hnodup := h.place_nodup
  rw [← Function.comp_def, ← List.map_map] at hnodup
  exact hnodup.of_map _

/-- The identity of a writer is its place. -/
theorem getD_blockedIDs (h : x.Kept) (writer : ℕ) :
    x.blockedIDs.getD writer 0 = x.ledger.place writer := by
  rw [h.blockedIDs]
  rfl

theorem startBlocked (h : x.Kept) {now : ℕ} (hnow : x.clock ≤ now) :
    (machine.next x (.startBlocked now)).Kept := by
  have hplace (s : Span ℕ) (hs : s ∈ x.ledger.spans) :
      (x.ledger.places ++ [x.ledger.spans.length + 1]).getD s.holder 0 =
        x.ledger.place s.holder := by
    rw [ChannelLedger.place, List.getD_append _ _ _ _ (h.started s hs)]
  have hnew : (x.ledger.places ++ [x.ledger.spans.length + 1]).getD x.ledger.places.length 0 =
      x.ledger.spans.length + 1 := by simp
  constructor
  case blockedIDs =>
    simp [machine, handOut, ChannelLedger.note, ChannelTelemetry.nextBlocked, h.blockedIDs,
      h.nextBlockedID]
  case nextBlockedID =>
    simp [machine, perform, ChannelLedger.note, ChannelTelemetry.startBlocked,
      ChannelTelemetry.nextBlocked, h.nextBlockedID]
  case places =>
    show (x.ledger.spans ++ [_]).map _ = List.range' 1 (x.ledger.spans ++ [_]).length
    rw [List.map_append, List.length_append, List.length_singleton, List.range'_concat, ← h.places]
    refine congrArg₂ _ (List.map_congr_left hplace) ?_
    rw [List.map_singleton, Nat.one_mul, Nat.add_comm 1]
    exact congrArg (fun n => [n]) hnew
  case started =>
    intro s hs
    show s.holder < (x.ledger.places ++ [_]).length
    rw [List.length_append, List.length_singleton]
    rcases List.mem_append.mp hs with hold | hnew
    · exact Nat.lt_succ_of_lt (h.started s hold)
    · rw [List.mem_singleton.mp hnew]
      exact Nat.lt_succ_self _
  case inOrder =>
    intro s hs
    rcases List.mem_append.mp hs with hold | hnew
    · exact (h.inOrder s hold).mono hnow
    · rw [List.mem_singleton.mp hnew]
      exact ⟨le_refl now, le_refl now⟩
  case blockedAt =>
    show (x.telemetry.nextBlocked, now) :: x.telemetry.measurements.blockedAt =
      Span.table _ (x.ledger.spans ++ [_])
    rw [Span.table_append, Span.table_congr hplace, h.blockedAt, ChannelTelemetry.nextBlocked,
      h.nextBlockedID]
    exact congrArg (fun n => (n, now) :: _) hnew.symm
  case blockedMs =>
    show x.telemetry.measurements.blockedMs = (Span.closedLengths (x.ledger.spans ++ [_])).sum
    rw [h.blockedMs, Span.closedLengths, Span.closedLengths, List.filterMap_append]
    simp
  case counts => exact h.counts

/-- The interval of a writer the observer sees blocked is in the map. -/
theorem lookup_blockedAt (h : x.Kept) {s : Span ℕ} (hs : s ∈ x.ledger.spans) (hopen : s.isOpen) :
    x.telemetry.measurements.blockedAt.lookup (x.ledger.place s.holder) = some s.since := by
  rw [h.blockedAt]
  exact Span.lookup_table_of_mem h.place_nodup hs hopen

/-- Where the writer is not blocked, as far as the observer knows, nothing happens. -/
theorem finishBlockedWriter_of_none (h : x.Kept) {writer : ℕ} (now : ℕ)
    (hund : ∀ s ∈ x.ledger.spans, s.isOpen → x.ledger.place s.holder = x.ledger.place writer →
      s.holder = writer)
    (hnone : Span.openOf x.ledger.spans writer = none) :
    x.telemetry.finishBlockedWriter (x.blockedIDs.getD writer 0) now = x.telemetry := by
  have hlookup : x.telemetry.measurements.blockedAt.lookup (x.ledger.place writer) = none := by
    rw [h.blockedAt]
    refine Span.lookup_table_eq_none fun s hs hopen hplace => ?_
    have hfind := List.find?_eq_none.mp hnone s hs
    simp [hund s hs hopen hplace, hopen] at hfind
  rw [h.getD_blockedIDs, ChannelTelemetry.finishBlockedWriter,
    ChannelTelemetry.finishBlockedLocked, hlookup]

/-- Where it is, its interval is closed. -/
theorem finishBlockedWriter_of_some (h : x.Kept) {s : Span ℕ} {now : ℕ} (hnow : x.clock ≤ now)
    (hs : s ∈ x.ledger.spans) (hopen : s.isOpen) :
    x.telemetry.finishBlockedWriter (x.blockedIDs.getD s.holder 0) now =
      { x.telemetry with measurements := { x.telemetry.measurements with
          blockedMs := x.telemetry.measurements.blockedMs + ((now : ℤ) - s.since)
          blockedAt := x.telemetry.measurements.blockedAt.filter
            fun entry => entry.1 != x.ledger.place s.holder } } := by
  have hsince : s.since ≤ now := ((h.inOrder s hs).1.trans (h.inOrder s hs).2).trans hnow
  have hage : max 0 (sub now s.since) = (now : ℤ) - s.since := by
    rw [sub]
    omega
  rw [h.getD_blockedIDs, ChannelTelemetry.finishBlockedWriter,
    ChannelTelemetry.finishBlockedLocked, h.lookup_blockedAt hs hopen]
  simp only [hage]

theorem finishBlockedWriter (h : x.Kept) {writer now : ℕ} (hnow : x.clock ≤ now)
    (hund : x.Undisturbed (.finishBlockedWriter writer now)) :
    (machine.next x (.finishBlockedWriter writer now)).Kept := by
  have hplaces : (x.ledger.spans.map (Span.close writer now)).map
      (fun s => x.ledger.place s.holder) =
        List.range' 1 (x.ledger.spans.map (Span.close writer now)).length := by
    rw [List.map_map, List.length_map, ← h.places]
    exact List.map_congr_left fun s _ => congrArg _ (s.holder_close writer now)
  have hstarted : ∀ s ∈ x.ledger.spans.map (Span.close writer now),
      s.holder < x.ledger.places.length := by
    intro s hs
    obtain ⟨r, hr, rfl⟩ := List.mem_map.mp hs
    rw [Span.holder_close]
    exact h.started r hr
  have hinOrder : ∀ s ∈ x.ledger.spans.map (Span.close writer now), s.InOrder now := by
    intro s hs
    obtain ⟨r, hr, rfl⟩ := List.mem_map.mp hs
    exact (h.inOrder r hr).close hnow
  have htable : Span.table x.ledger.place (x.ledger.spans.map (Span.close writer now)) =
      (Span.table x.ledger.place x.ledger.spans).filter fun entry =>
        entry.1 != x.ledger.place writer := Span.table_close hund now
  have hclosed := Span.sum_closedLengths_close h.holder_nodup writer now
  have hlength : x.telemetry.measurements.nextBlockedID =
      (x.ledger.spans.map (Span.close writer now)).length := by
    rw [List.length_map]
    exact h.nextBlockedID
  cases hfind : Span.openOf x.ledger.spans writer with
  | none =>
    have hsame := h.finishBlockedWriter_of_none now hund hfind
    have hspans := Span.map_close_of_openOf hfind now
    refine ⟨h.blockedIDs, ?_, hplaces, hstarted, hinOrder, ?_, ?_, ?_⟩
    all_goals simp only [machine, perform, hsame, ChannelLedger.note]
    · exact hlength
    · rw [hspans]
      exact h.blockedAt
    · rw [hspans]
      exact h.blockedMs
    · exact h.counts
  | some s =>
    have hs := List.mem_of_find?_eq_some hfind
    obtain ⟨rfl, hopen⟩ : s.holder = writer ∧ s.isOpen := by simpa using List.find?_some hfind
    have hsome := h.finishBlockedWriter_of_some hnow hs hopen
    rw [hfind, Option.elim_some] at hclosed
    refine ⟨h.blockedIDs, ?_, hplaces, hstarted, hinOrder, ?_, ?_, ?_⟩
    all_goals simp only [machine, perform, hsome, ChannelLedger.note]
    · exact hlength
    · rw [h.blockedAt]
      exact htable.symm
    · rw [hclosed, h.blockedMs]
    · exact h.counts

/-- What is counted is added to the totals and to what no sample has taken. -/
theorem counts_add (h : x.Kept) (d : ChannelCounts) :
    x.ledger.base + (x.ledger.taken + (x.telemetry.measurements.sinceTick + d)) =
      x.telemetry.measurements.totals + d := by
  rw [← add_assoc x.ledger.taken, ← add_assoc, h.counts]

/-- **One critical section**: where no one else is blocked in the place of the writer that
finishes, the telemetry goes on keeping what the observer notes. -/
theorem next (h : x.Kept) {op : ChannelOperation} (henabled : x.Enabled op)
    (hund : x.Undisturbed op) : (machine.next x op).Kept := by
  cases op with
  | startBlocked now => exact h.startBlocked henabled
  | finishBlockedWriter writer now => exact h.finishBlockedWriter henabled.1 hund
  | snapshot now => exact { h with inOrder := fun s hs => (h.inOrder s hs).mono henabled }
  | clearMeasurements =>
    exact ⟨h.blockedIDs, rfl, rfl, fun _ hs => absurd hs List.not_mem_nil,
      fun _ hs => absurd hs List.not_mem_nil, rfl, rfl, rfl⟩
  | recordSend transactions =>
    exact { h with counts := h.counts_add { sentBatches := 1, sentTransactions := transactions } }
  | recordReceive transactions =>
    exact { h with
      counts := h.counts_add { receivedBatches := 1, receivedTransactions := transactions } }
  | sample window => exact { h with counts := h.counts }
  | startInterval => exact { h with counts := rfl }

end Kept

/-! ### What a snapshot reports -/

theorem milliseconds_mono {a b : ℤ} (h : a ≤ b) : milliseconds a ≤ milliseconds b :=
  Int.tdiv_le_tdiv (by decide) h

theorem milliseconds_max (a b : ℤ) :
    milliseconds (max a b) = max (milliseconds a) (milliseconds b) :=
  Monotone.map_max fun _ _ => milliseconds_mono

/-- The sum of ages, the ones that are not positive left out. -/
theorem foldr_add_ages {ages : List ℤ} (h : ∀ age ∈ ages, 0 ≤ age) (blocked : ℤ) :
    ages.foldr (fun age blocked => if 0 < age then blocked + age else blocked) blocked =
      blocked + ages.sum := by
  induction ages with
  | nil => simp
  | cons age ages ih =>
    have hage := h age List.mem_cons_self
    rw [List.foldr_cons, ih fun age hage => h age (List.mem_cons_of_mem _ hage), List.sum_cons]
    split <;> omega

/-- The milliseconds of the greatest age. -/
theorem foldr_max_ages {ages : List ℤ} (h : ∀ age ∈ ages, 0 ≤ age) :
    ages.foldr (fun age oldest => if 0 < age then max oldest (milliseconds age) else oldest) 0 =
      milliseconds (ages.max?.getD 0) := by
  have hzero : milliseconds 0 = 0 := rfl
  induction ages with
  | nil => rfl
  | cons age ages ih =>
    have hage := h age List.mem_cons_self
    have hms : 0 ≤ milliseconds age := hzero ▸ milliseconds_mono hage
    have hrest : 0 ≤ ages.max?.getD 0 := by
      cases hmax : ages.max? with
      | none => exact le_refl 0
      | some m => exact h m (List.mem_cons_of_mem _ (List.max?_mem hmax))
    have hgreatest : (age :: ages).max?.getD 0 = max (ages.max?.getD 0) age := by
      rw [List.max?_cons]
      cases ages.max? with
      | none => simp [hage]
      | some m => simp [max_comm]
    rw [List.foldr_cons, ih fun age hage => h age (List.mem_cons_of_mem _ hage), hgreatest,
      milliseconds_max]
    split
    next => rfl
    next hneg =>
      have hage0 : age = 0 := by omega
      rw [hage0, hzero, max_eq_left (hzero ▸ milliseconds_mono hrest)]

namespace Kept

variable {channel : Option (ℤ × ℤ)} {now : ℕ}

theorem blockedMs_snapshot (h : x.Kept) (hnow : x.clock ≤ now) :
    (x.telemetry.snapshot channel now).blockedMs =
      milliseconds (Span.total x.ledger.spans now) := by
  have hages := foldr_add_ages (fun _ => Span.nonneg_of_mem_openAges h.inOrder hnow)
    (Span.closedLengths x.ledger.spans).sum
  show milliseconds (x.telemetry.measurements.blockedAt.foldl _
    x.telemetry.measurements.blockedMs) = _
  rw [h.blockedAt, h.blockedMs, Span.table, List.foldl_reverse, List.foldr_map, Span.total,
    ← hages, Span.openAges, List.foldr_map]
  rfl

theorem oldestBlockedSenderMs_snapshot (h : x.Kept) (hnow : x.clock ≤ now) :
    (x.telemetry.snapshot channel now).oldestBlockedSenderMs =
      milliseconds ((Span.openAges x.ledger.spans now).max?.getD 0) := by
  have hages := foldr_max_ages fun _ => Span.nonneg_of_mem_openAges h.inOrder hnow
  show x.telemetry.measurements.blockedAt.foldl _ 0 = _
  rw [h.blockedAt, Span.table, List.foldl_reverse, List.foldr_map, ← hages, Span.openAges,
    List.foldr_map]
  rfl

/-- **What the observer noted is what a snapshot reports.** -/
theorem accounted (h : x.Kept) : x.Accounted where
  blockedSenders channel now _ := by
    rw [ChannelTelemetry.snapshot, h.blockedAt, Span.length_table]
  blockedMs channel now hnow := h.blockedMs_snapshot hnow
  oldest channel now hnow := h.oldestBlockedSenderMs_snapshot hnow
  counts := h.counts

/-- A writer that finishes undisturbed takes no interval but its own off the map. -/
theorem leavesOthers (h : x.Kept) {op : ChannelOperation} (henabled : x.Enabled op)
    (hund : x.Undisturbed op) : x.LeavesOthers op := by
  cases op with
  | finishBlockedWriter writer now =>
    intro s hs hopen hne id hid
    have hplace : id = x.ledger.place s.holder := by
      rw [ChannelLedger.place, ← h.blockedIDs, List.getD_eq_getElem?_getD, hid, Option.getD_some]
    have hclose : s.close writer now = s := Span.close_of_neg fun hw => hne hw.1
    have hafter := (h.finishBlockedWriter henabled.1 hund).lookup_blockedAt
      (List.mem_map.mpr ⟨s, hs, hclose⟩) hopen
    rw [hplace]
    exact ⟨h.lookup_blockedAt hs hopen, hafter⟩
  | _ => trivial

/-- **A writer that finishes while another is blocked in its place closes that interval**,
and one blocked sender too few is reported. -/
theorem not_accounted (h : x.Kept) {op : ChannelOperation} (henabled : x.Enabled op)
    (hund : ¬x.Undisturbed op) :
    ¬(machine.next x op).Accounted := by
  cases op with
  | finishBlockedWriter writer now =>
    simp only [Undisturbed, not_forall] at hund
    obtain ⟨s, hs, hopen, hplace, hne⟩ := hund
    -- The writer has started before the clear: the observer notes no span of it.
    have hnone : Span.openOf x.ledger.spans writer = none := by
      refine List.find?_eq_none.mpr fun r hr hfound => hne ?_
      obtain ⟨rfl, -⟩ : r.holder = writer ∧ r.isOpen := by simpa using hfound
      rw [List.inj_on_of_nodup_map h.place_nodup hs hr hplace]
    have hperform : x.perform (.finishBlockedWriter writer now) =
        x.telemetry.finishBlockedWriter (x.blockedIDs.getD s.holder 0) now := by
      rw [perform, h.getD_blockedIDs, h.getD_blockedIDs, hplace]
    have hfewer : ((x.perform (.finishBlockedWriter writer now)).snapshot none now).blockedSenders <
        (x.ledger.spans.filter Span.isOpen).length := by
      rw [hperform, h.finishBlockedWriter_of_some henabled.1 hs hopen, ← Span.length_table
        x.ledger.place, ← h.blockedAt]
      refine Int.ofNat_lt.mpr (List.length_filter_lt_length_iff_exists.mpr
        ⟨(x.ledger.place s.holder, s.since), ?_, ?_⟩)
      · rw [h.blockedAt]
        exact Span.mem_table_iff.mpr ⟨s, hs, hopen, rfl, rfl⟩
      · simp
    intro haccounted
    have hsame := haccounted.blockedSenders none now (le_refl now)
    simp only [machine, ChannelLedger.note, Span.map_close_of_openOf hnone] at hsame
    exact absurd hsame hfewer.ne
  | _ => exact absurd trivial hund

end Kept

/-- **One critical section other than a clear** does not lower the summed length. -/
theorem total_le_next {op : ChannelOperation} (henabled : x.Enabled op)
    (hclear : op ≠ .clearMeasurements) :
    Span.total x.ledger.spans x.clock ≤
      Span.total (machine.next x op).ledger.spans (machine.next x op).clock := by
  cases op with
  | startBlocked now =>
    have hnew : Span.total (machine.next x (.startBlocked now)).ledger.spans now =
        Span.total x.ledger.spans now := by
      rw [Span.total_eq_sum_length, Span.total_eq_sum_length]
      simp [machine, ChannelLedger.note, Span.length]
    exact (Span.total_mono x.ledger.spans henabled).trans hnew.ge
  | finishBlockedWriter writer now =>
    exact (Span.total_mono x.ledger.spans henabled.1).trans
      (Span.total_close x.ledger.spans writer now).ge
  | snapshot now => exact Span.total_mono x.ledger.spans henabled
  | clearMeasurements => exact absurd rfl hclear
  | recordSend _ => exact le_refl _
  | recordReceive _ => exact le_refl _
  | sample _ => exact le_refl _
  | startInterval => exact le_refl _

/-- Nor does a run without a clear. -/
theorem total_le_after {ops : List ChannelOperation} (hrun : machine.Run x ops)
    (hclear : .clearMeasurements ∉ ops) :
    Span.total x.ledger.spans x.clock ≤
      Span.total (machine.after x ops).ledger.spans (machine.after x ops).clock := by
  induction ops generalizing x with
  | nil => exact le_refl _
  | cons op ops ih =>
    have hne : op ≠ .clearMeasurements := fun heq => hclear (heq ▸ List.mem_cons_self)
    exact (total_le_next hrun.1 hne).trans
      (ih hrun.2 fun hmem => hclear (List.mem_cons_of_mem op hmem))

/-! ### The main result -/

/-- The blocked time that a snapshot at the time of the last critical section reports. -/
def blockedMs (x : ChannelAccount) : ℤ := (x.telemetry.snapshot none x.clock).blockedMs

/-- **The accounts of a channel are right exactly while no writer finishes in the place of
another.** In every sequence of critical sections every snapshot reports the open spans,
their greatest age, the summed length of all spans and the counts, a writer that finishes
leaves the intervals of the others alone, and the blocked time does not decrease between
clears, if and only if no writer finishes while one that has started after a clear is
blocked in the same place. -/
theorem accounting_iff {ops : List ChannelOperation} (hx : x.Fresh) (hrun : machine.Run x ops) :
    (machine.Always Accounted x ops ∧ machine.Along LeavesOthers x ops ∧
      ∀ before between rest, before ++ between ++ rest = ops → .clearMeasurements ∉ between →
        (machine.after x before).blockedMs ≤ (machine.after x (before ++ between)).blockedMs) ↔
      machine.Along Undisturbed x ops := by
  constructor
  · intro h
    exact Machine.along_of_always_of_keep (fun _ _ hkept => hkept.next)
      (fun _ _ hkept => hkept.not_accounted) hx.kept hrun h.1
  · intro hund
    have hnext (y : ChannelAccount) (op : ChannelOperation) (hy : y.Kept) :
        y.Enabled op → y.Undisturbed op → (machine.next y op).Kept := hy.next
    have hkept := Machine.always_of_along hnext hx.kept hrun hund
    refine ⟨hkept.mono fun _ => Kept.accounted,
      hund.mono hnext (fun _ _ hy => hy.leavesOthers) hx.kept hrun, ?_⟩
    rintro before between rest rfl hclear
    have hat := Machine.always_iff_prefix.mp hkept
    have hbefore := hat before ⟨between ++ rest, (List.append_assoc ..).symm⟩
    have hafter := hat (before ++ between) (List.prefix_append _ rest)
    have hpart := ((machine.run_append x before between).mp
      ((machine.run_append x _ rest).mp hrun).1).2
    rw [blockedMs, blockedMs, hbefore.blockedMs_snapshot (le_refl _),
      hafter.blockedMs_snapshot (le_refl _), machine.after_append]
    exact milliseconds_mono (total_le_after hpart hclear)

/-- Two writers blocked at the same time, on either side of a clear; the second finishes
twice, and the first of them finishes after the clear, when no one is blocked. -/
def overlapping : List ChannelOperation :=
  [.startBlocked 1000000, .startBlocked 2000000, .recordSend 3, .finishBlockedWriter 1 4000000,
    .sample 500000000, .finishBlockedWriter 1 5000000, .snapshot 5000000, .recordReceive 3,
    .clearMeasurements, .finishBlockedWriter 0 6000000, .startBlocked 7000000,
    .startBlocked 7500000, .recordSend 2, .startInterval, .recordSend 4,
    .finishBlockedWriter 2 9000000, .snapshot 9500000]

theorem accounting_iff_overlapping :
    machine.Always Accounted {} overlapping ∧ machine.Along LeavesOthers {} overlapping ∧
      ∀ before between rest, before ++ between ++ rest = overlapping →
        .clearMeasurements ∉ between →
          (machine.after {} before).blockedMs ≤ (machine.after {} (before ++ between)).blockedMs :=
  (accounting_iff ⟨rfl, rfl, rfl⟩ (by decide)).mpr (by decide)

/-- A writer blocked before a clear, and one blocked since in its place, which the first
one's finish takes off the map. -/
def staleFinish : List ChannelOperation :=
  [.startBlocked 0, .clearMeasurements, .startBlocked 5000000, .finishBlockedWriter 0 7000000]

/-- **The finish of the one closes the interval of the other**: no blocked sender is
reported, though the second writer is blocked. -/
theorem not_accounted_staleFinish :
    Fresh {} ∧ machine.Run {} staleFinish ∧ ¬machine.Always Accounted {} staleFinish ∧
      ¬machine.Along LeavesOthers {} staleFinish := by
  refine ⟨⟨rfl, rfl, rfl⟩, by decide, fun h => ?_, fun h => ?_⟩
  · exact absurd (h.last.blockedSenders none 7000000 (by decide)) (by decide)
  · obtain ⟨-, -, -, hleaves, -⟩ := h
    exact absurd (hleaves { holder := 1, since := 5000000 } (by decide) rfl (by decide) 1
      (by decide)).2 (by decide)

end ChannelAccount

end IngestionLab
