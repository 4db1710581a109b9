import IngestionLab.Loadgen.Throttler
import IngestionLab.Machine.Relay

/-!
# The throttler conserves order and content

Whatever happens to its settings, its context and its channels, the throttler
passes on what it receives, one batch after the other.

* `IngestionLab.Throttler.simulates_relay`: seen through what it has received,
  forwarded and holds, the throttler **is** a one-place relay
  (`IngestionLab.Relay`), revoked by the cancellation of its context.
* `IngestionLab.Throttler.Recorded`: each receipt and each forward is counted in the
  telemetry, once, and the sender channel has a blocked interval open exactly while
  the throttler is in its blocking send.
* `IngestionLab.Throttler.conserves_order_and_content`: both, over every run.
-/

namespace IngestionLab

namespace Throttler

variable {t : Throttler} {sh : Memory} {now : ℕ} {a : Action}

/-! ### The throttler as a relay -/

/-- The throttler has returned. -/
def HasLeft (t : Throttler) : Prop := t.pc = .leaving ∨ t.pc = .exited

instance (t : Throttler) : Decidable t.HasLeft := inferInstanceAs (Decidable (_ ∨ _))

/-- What the throttler is seen as. -/
def relay (t : Throttler) : Relay Batch where
  taken := t.received
  given := t.forwarded
  hand := t.pc.hand
  revoked := t.cancelled
  closed := decide t.HasLeft

/-- What an action of the throttler is seen as. -/
def moves : Action → List (Relay.Move Batch)
  | .cancel => [.revoke]
  | .idleReceive batch => [.take batch]
  | .trySend batch _ | .blockedSend batch => [.give batch]
  | .selectCanceled batch | .finishBlocked batch .canceled => [.drop batch]
  | .idleCanceled | .idleClosed => [.close]
  | _ => []

/-- A blocking send that reports cancellation has been cancelled. -/
def CanceledRightly (t : Throttler) : Prop := ∀ b, t.pc = .unblock b .canceled → t.cancelled = true

theorem CanceledRightly.next (h : t.CanceledRightly) (ha : t.Enabled now a) :
    (t.next now a).CanceledRightly := by
  intro b hb
  cases a
  case blockedCanceled b' => exact ha.2
  case finishBlocked b' outcome =>
    cases outcome <;> exact absurd hb nofun
  case offer | offerDropped => exact h b hb
  case cancel => rfl
  case idleUpdate settings =>
    have hidle : t.pc = .idle := ha.1
    exact absurd (hidle.symm.trans hb) nofun
  all_goals exact absurd hb nofun

/-- The batch held in a select is the batch in hand. -/
theorem hand_of_selecting {pc : ThrottlerPc} {b : Batch} (h : pc.selecting = some b) :
    pc.hand = some b ∧ pc ≠ .leaving ∧ pc ≠ .exited := by
  cases pc <;> simp_all [ThrottlerPc.selecting, ThrottlerPc.hand]

/-- **The throttler is a one-place relay.** -/
theorem simulates_relay : machine.Simulates Relay.machine (fun s => s.2.CanceledRightly)
    (fun s => s.2.relay) := by
  rintro ⟨sh, t⟩ (sh' | a) hI ha
  · exact ⟨[], trivial, rfl⟩
  replace ha : t.Enabled sh.now a := ha
  refine ⟨moves a, ?_, ?_⟩
  · cases a
    case cancel => exact ⟨trivial, trivial⟩
    case idleReceive b =>
      have hidle : t.pc = .idle := ha
      exact ⟨by simp [Relay.machine, relay, HasLeft, hidle, ThrottlerPc.hand], trivial⟩
    case trySend b since =>
      have hpc : t.pc = .trying b since := ha
      exact ⟨by simp [Relay.machine, relay, hpc, ThrottlerPc.hand], trivial⟩
    case blockedSend b =>
      have hpc : t.pc = .blocked b := ha
      exact ⟨by simp [Relay.machine, relay, hpc, ThrottlerPc.hand], trivial⟩
    case selectCanceled b => exact ⟨⟨(hand_of_selecting ha.1).1, ha.2⟩, trivial⟩
    case finishBlocked b outcome =>
      have hpc : t.pc = .unblock b outcome := ha
      cases outcome with
      | canceled => exact ⟨⟨by simp [relay, hpc, ThrottlerPc.hand], hI b hpc⟩, trivial⟩
      | updated settings => exact trivial
      | sent => exact trivial
    case idleCanceled =>
      have hidle : t.pc = .idle := ha.1
      exact ⟨by simp [Relay.machine, relay, hidle, ThrottlerPc.hand], trivial⟩
    case idleClosed =>
      have hidle : t.pc = .idle := ha
      exact ⟨by simp [Relay.machine, relay, hidle, ThrottlerPc.hand], trivial⟩
    all_goals exact trivial
  · cases a
    case finishBlocked b outcome =>
      have hpc : t.pc = .unblock b outcome := ha
      cases outcome <;>
        simp [machine, next, moves, relay, forwarded, Relay.machine, HasLeft, hpc, ThrottlerPc.hand]
    case selectUpdate b settings =>
      obtain ⟨hhand, hleaving, hexited⟩ := hand_of_selecting ha.1
      simp [machine, next, moves, take, relay, forwarded, HasLeft, hhand, hleaving, hexited]
      rfl
    case selectCanceled b =>
      simp [machine, next, moves, relay, forwarded, Relay.machine, HasLeft, ThrottlerPc.hand]
    case offer | offerDropped | cancel => rfl
    all_goals
      simp only [Enabled] at ha
      simp [machine, next, moves, take, forward, relay, forwarded, Relay.machine, HasLeft, ha,
        ThrottlerPc.hand]

/-! ### What the telemetry counts -/

/-- The transactions of a list of batches. -/
def transactions (batches : List Batch) : ℕ := (batches.map List.length).sum

@[simp] theorem transactions_append (bs cs : List Batch) :
    transactions (bs ++ cs) = transactions bs + transactions cs := by
  simp [transactions]

@[simp] theorem transactions_singleton (b : Batch) : transactions [b] = b.length := by
  simp [transactions]

@[simp] theorem transactions_nil : transactions [] = 0 := rfl

/-- **Each receipt and each forward is counted once**, in batches and in transactions,
those about to be recorded apart, above the counts of a memory the throttler started
from; and a blocked interval of the sender channel is open exactly in the blocking
send. -/
structure Recorded (start sh : Memory) (t : Throttler) : Prop where
  receivedBatches : sh.readerChannel.measurements.receivedBatchesTotal +
    t.pc.unrecordedReceive.toList.length =
      start.readerChannel.measurements.receivedBatchesTotal + t.received.length
  receivedTransactions : sh.readerChannel.measurements.receivedTransactionsTotal +
    transactions t.pc.unrecordedReceive.toList =
      start.readerChannel.measurements.receivedTransactionsTotal + transactions t.received
  sentBatches : sh.senderChannel.measurements.sentBatchesTotal +
    t.pc.unrecordedSend.toList.length =
      start.senderChannel.measurements.sentBatchesTotal + t.forwarded.length
  sentTransactions : sh.senderChannel.measurements.sentTransactionsTotal +
    transactions t.pc.unrecordedSend.toList =
      start.senderChannel.measurements.sentTransactionsTotal + transactions t.forwarded
  blockedIntervals : sh.senderChannel.measurements.blockedAt.length =
    if t.pc.inBlockingSend then 1 else 0

/-- Closing the only open interval leaves none. -/
theorem blockedAt_finishBlocked {q : ChannelTelemetry}
    (h : q.measurements.blockedAt.length = 1) (now : ℕ) :
    (q.finishBlocked now).measurements.blockedAt = [] := by
  obtain ⟨⟨id, since⟩, hq⟩ := List.length_eq_one_iff.mp h
  simp [ChannelTelemetry.finishBlocked, ChannelTelemetry.finishBlockedLocked, hq]

/-- Closing an interval counts nothing. -/
theorem sent_finishBlocked (q : ChannelTelemetry) (now : ℕ) :
    (q.finishBlocked now).measurements.sentBatchesTotal = q.measurements.sentBatchesTotal ∧
      (q.finishBlocked now).measurements.sentTransactionsTotal =
        q.measurements.sentTransactionsTotal := by
  unfold ChannelTelemetry.finishBlocked
  split
  · exact ⟨rfl, rfl⟩
  · unfold ChannelTelemetry.finishBlockedLocked
    split <;> exact ⟨rfl, rfl⟩

/-- A held batch that is being selected for has been recorded and not forwarded. -/
theorem recorded_of_selecting {pc : ThrottlerPc} {b : Batch} (h : pc.selecting = some b) :
    pc.unrecordedReceive = none ∧ pc.unrecordedSend = none ∧ pc.inBlockingSend = false := by
  cases pc <;> simp_all [ThrottlerPc.selecting, ThrottlerPc.unrecordedReceive,
    ThrottlerPc.unrecordedSend, ThrottlerPc.inBlockingSend]

/-- Between two positions that count the same, nothing is counted. -/
theorem Recorded.move {start : Memory} (h : Recorded start sh t) {t' : Throttler}
    (hr : t'.received = t.received) (hl : t'.log = t.log)
    (hur : t'.pc.unrecordedReceive = t.pc.unrecordedReceive)
    (hus : t'.pc.unrecordedSend = t.pc.unrecordedSend)
    (hb : t'.pc.inBlockingSend = t.pc.inBlockingSend) : Recorded start sh t' where
  receivedBatches := by rw [hr, hur]; exact h.receivedBatches
  receivedTransactions := by rw [hr, hur]; exact h.receivedTransactions
  sentBatches := by rw [forwarded, hl, hus]; exact h.sentBatches
  sentTransactions := by rw [forwarded, hl, hus]; exact h.sentTransactions
  blockedIntervals := by rw [hb]; exact h.blockedIntervals

/-- **Every action keeps the counts.** -/
theorem Recorded.next {start : Memory} (h : Recorded start sh t) (ha : t.Enabled sh.now a) :
    Recorded start (remember sh a) (t.next sh.now a) := by
  have hmove := @Recorded.move t sh start h
  obtain ⟨h1, h2, h3, h4, h5⟩ := h
  cases a
  case offer | offerDropped | cancel => exact ⟨h1, h2, h3, h4, h5⟩
  case selectCanceled b =>
    obtain ⟨hur, hus, hb⟩ := recorded_of_selecting ha.1
    exact hmove rfl rfl hur.symm hus.symm hb.symm
  case selectUpdate b settings =>
    obtain ⟨hur, hus, hb⟩ := recorded_of_selecting ha.1
    exact hmove rfl rfl hur.symm hus.symm hb.symm
  case idleReceive b =>
    have hpc : t.pc = .idle := ha
    rw [hpc] at h1 h2 h3 h4 h5
    refine ⟨?_, ?_, h3, h4, h5⟩
    · simpa [remember, Throttler.next, ThrottlerPc.unrecordedReceive, ← Nat.add_assoc] using h1
    · simpa [remember, Throttler.next, ThrottlerPc.unrecordedReceive, ← Nat.add_assoc] using h2
  case recordReceive b =>
    have hpc : t.pc = .received b := ha
    rw [hpc] at h1 h2 h3 h4 h5
    refine ⟨?_, ?_, h3, h4, h5⟩
    · simpa [remember, Throttler.next, ThrottlerPc.unrecordedReceive,
        ChannelTelemetry.recordReceive] using h1
    · simpa [remember, Throttler.next, ThrottlerPc.unrecordedReceive,
        ChannelTelemetry.recordReceive] using h2
  case trySend b since =>
    have hpc : t.pc = .trying b since := ha
    rw [hpc] at h1 h2 h3 h4 h5
    refine ⟨h1, h2, ?_, ?_, h5⟩
    · simpa [remember, Throttler.next, forward, forwarded, ThrottlerPc.unrecordedSend,
        ← Nat.add_assoc] using h3
    · simpa [remember, Throttler.next, forward, forwarded, ThrottlerPc.unrecordedSend,
        ← Nat.add_assoc] using h4
  case startBlocked b =>
    have hpc : t.pc = .block b := ha
    rw [hpc] at h1 h2 h3 h4 h5
    refine ⟨h1, h2, h3, h4, ?_⟩
    have hnone : sh.senderChannel.measurements.blockedAt = [] := by
      simpa [ThrottlerPc.inBlockingSend] using h5
    simp [remember, Throttler.next, ThrottlerPc.inBlockingSend, ChannelTelemetry.startBlocked, hnone]
  case blockedSend b =>
    have hpc : t.pc = .blocked b := ha
    rw [hpc] at h1 h2 h3 h4 h5
    refine ⟨h1, h2, ?_, ?_, h5⟩
    · simpa [remember, Throttler.next, forward, forwarded, ThrottlerPc.unrecordedSend,
        ← Nat.add_assoc] using h3
    · simpa [remember, Throttler.next, forward, forwarded, ThrottlerPc.unrecordedSend,
        ← Nat.add_assoc] using h4
  case finishBlocked b outcome =>
    have hpc : t.pc = .unblock b outcome := ha
    rw [hpc] at h1 h2 h3 h4 h5
    have hnone := blockedAt_finishBlocked h5 sh.now
    obtain ⟨hsb, hst⟩ := sent_finishBlocked sh.senderChannel sh.now
    have h3' := h3
    have h4' := h4
    rw [← hsb] at h3'
    rw [← hst] at h4'
    cases outcome with
    | canceled => exact ⟨h1, h2, h3', h4', congrArg List.length hnone⟩
    | updated settings => exact ⟨h1, h2, h3', h4', congrArg List.length hnone⟩
    | sent => exact ⟨h1, h2, h3', h4', congrArg List.length hnone⟩
  case recordSend b =>
    have hpc : t.pc = .sent b := ha
    rw [hpc] at h1 h2 h3 h4 h5
    refine ⟨h1, h2, ?_, ?_, h5⟩
    · simpa [remember, Throttler.next, ThrottlerPc.unrecordedSend, forwarded,
        ChannelTelemetry.recordSend] using h3
    · simpa [remember, Throttler.next, ThrottlerPc.unrecordedSend, forwarded,
        ChannelTelemetry.recordSend] using h4
  all_goals
    simp only [Enabled] at ha
    refine hmove rfl rfl ?_ ?_ ?_ <;>
      simp [Throttler.next, take, ha, ThrottlerPc.unrecordedReceive, ThrottlerPc.unrecordedSend,
        ThrottlerPc.inBlockingSend]

/-- What the others may do to the memory keeps the counts. -/
theorem Recorded.rely {start sh' : Memory} (h : Recorded start sh t) (hs : Rely sh sh') :
    Recorded start sh' t where
  receivedBatches := by rw [hs.receivedBatches]; exact h.receivedBatches
  receivedTransactions := by rw [hs.receivedTransactions]; exact h.receivedTransactions
  sentBatches := by rw [hs.sentBatches]; exact h.sentBatches
  sentTransactions := by rw [hs.sentTransactions]; exact h.sentTransactions
  blockedIntervals := by rw [hs.blockedAt]; exact h.blockedIntervals

/-! ### Runs -/

/-- **The throttler conserves order and content.** In every state of every run, what
it has received is what it has forwarded and the batch in hand, in order – or its
context is cancelled, it has returned, and the last batch received is missing;
everything received and forwarded is recorded once; and a blocked interval of the
sender channel is open exactly in the blocking send. -/
theorem conserves_order_and_content (initial : ThrottlerSettings) (sh : Memory)
    (hfresh : sh.senderChannel.measurements.blockedAt = []) (as : List (Memory ⊕ Action))
    (hrun : machine.Run (sh, start initial) as) :
    let s := machine.after (sh, start initial) as
    (s.2.received = s.2.forwarded ++ s.2.pc.hand.toList ∨
      s.2.cancelled = true ∧ s.2.HasLeft ∧ ∃ b, s.2.received = s.2.forwarded ++ [b]) ∧
    Recorded sh s.1 s.2 := by
  intro s
  have hrightly : ∀ (s : Memory × Throttler) (a : Memory ⊕ Action), s.2.CanceledRightly →
      machine.Enabled s a → (machine.next s a).2.CanceledRightly := by
    rintro s (sh' | a) h ha
    · exact h
    · exact h.next ha
  constructor
  · have hrelay := Machine.Simulates.reachable simulates_relay hrightly
      (by simp [CanceledRightly, start]) ⟨as, hrun, rfl⟩
    rcases Relay.faithful_of_reachable hrelay with h | ⟨hc, hl, -, hb⟩
    · exact Or.inl h
    · exact Or.inr ⟨hc, of_decide_eq_true hl, hb⟩
  · refine Machine.invariant_of_run (I := fun s => Recorded sh s.1 s.2) ?_ ?_ hrun
    · rintro s (sh' | a) h ha
      · exact h.rely ha
      · exact h.next ha
    · exact ⟨rfl, rfl, rfl, rfl, by rw [hfresh]; rfl⟩

/-- A batch is held back, settings arrive, the batch is forwarded. -/
def updatedForward : List (Memory ⊕ Action) :=
  [.inr (.idleReceive [⟨"a"⟩]), .inr (.recordReceive [⟨"a"⟩]), .inr (.readClock [⟨"a"⟩]),
    .inr (.checkZero [⟨"a"⟩] 0), .inr (.offer ⟨5, false⟩), .inr (.selectUpdate [⟨"a"⟩] ⟨5, false⟩),
    .inr (.readClock [⟨"a"⟩]), .inr (.checkTry [⟨"a"⟩] 0), .inr (.tryDefault [⟨"a"⟩] 0),
    .inr (.startBlocked [⟨"a"⟩]), .inr (.blockedSend [⟨"a"⟩])]

/-- After that run nothing is missing, and the forward is about to be recorded. -/
theorem conserves_updatedForward :
    let s := machine.after ({}, start ⟨0, true⟩) updatedForward
    s.2.received = s.2.forwarded ++ s.2.pc.hand.toList ∧ Recorded {} s.1 s.2 := by
  have h := conserves_order_and_content ⟨0, true⟩ {} rfl updatedForward (by decide +kernel)
  exact ⟨h.1.resolve_right fun hc => absurd hc.1 (by decide +kernel), h.2⟩

end Throttler

end IngestionLab
