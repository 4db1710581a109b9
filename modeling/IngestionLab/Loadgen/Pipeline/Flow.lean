import IngestionLab.Loadgen.EventLoop.Accounting
import IngestionLab.Loadgen.EventLoop.Lifeline
import IngestionLab.Loadgen.SenderPool.Settled

/-!
# The flow of batches through a run

What the readers of a run put into its pipeline comes out at its other end in the same
order. A channel is described by what was put in, what was taken out and what is buffered
(`IngestionLab.Go.Chan.apply_buffer`), the throttler is a one-place relay, and one after
the other they give the equation of the whole pipeline (`IngestionLab.Pipeline.InFlow`): the
batches put in are those that have arrived, those in the sender channel, the one in the
throttler's hand and those in the reader channel. When the channels are closed and drained
the equation is lost, and what is left of it is that what has arrived is a prefix.

* `IngestionLab.Pipeline.InFlow.change`: every change of a pipeline keeps the flow.
* `IngestionLab.Service.pipeline_in_order`: **in every run of the service the batches that
  arrive are those the readers put in, in that order**, nothing else is settled, and the
  readers are never further ahead than the channels have room.
-/

namespace IngestionLab

open Go Function
open Throttler (transactions)

/-! ### The throttler -/

namespace Throttler

variable {t : Throttler} {now : ℕ} {a : Action}

/-- A throttler receives and forwards what its actions do, and nothing else. -/
theorem received_forwarded_next (t : Throttler) (now : ℕ) (a : Action) :
    (t.next now a).received = t.received ++ a.input.received ∧
      (t.next now a).forwarded = t.forwarded ++ a.output.sent := by
  cases a
  case idleReceive batch => exact ⟨rfl, (List.append_nil _).symm⟩
  case trySend batch since =>
    exact ⟨(List.append_nil _).symm, by simp [next, forward, forwarded, Action.output, Chan.Op.sent]⟩
  case blockedSend batch =>
    exact ⟨(List.append_nil _).symm, by simp [next, forward, forwarded, Action.output, Chan.Op.sent]⟩
  case finishBlocked batch outcome =>
    cases outcome <;> exact ⟨(List.append_nil _).symm, (List.append_nil _).symm⟩
  all_goals exact ⟨(List.append_nil _).symm, (List.append_nil _).symm⟩

/-- **The throttler passes on what it takes**: a relay that is faithful. -/
structure Passing (t : Throttler) : Prop where
  rightly : t.CanceledRightly
  faithful : t.relay.Faithful

/-- Every action keeps the throttler passing on. -/
theorem Passing.next (h : t.Passing) (ha : t.Enabled now a) : (t.next now a).Passing := by
  refine ⟨h.rightly.next ha, ?_⟩
  obtain ⟨moves, hrun, hafter⟩ :=
    simulates_relay ({ now := now }, t) (.inr a) h.rightly (show t.Enabled now a from ha)
  have hrelay : Relay.machine.after t.relay moves = (t.next now a).relay := hafter
  rw [← hrelay]
  exact Machine.invariant_of_run (I := Relay.Faithful) Relay.faithful_next h.faithful hrun

theorem passing_start (settings : ThrottlerSettings) : (start settings).Passing :=
  ⟨by rintro b ⟨⟩, Or.inl rfl⟩

end Throttler

/-- What the intake receives is what it takes out of the sender channel. -/
theorem SenderPool.Action.received_op (a : SenderPool.Action) : a.op.received = a.received := by
  cases a <;> rfl

/-! ### What passes a place -/

namespace Pipeline

/-- The batches an action puts into the reader channel. -/
def Action.put : Action → List Batch
  | .reader a | .passToThrottler a _ => a.op.sent
  | _ => []

/-- The batches the throttler takes in an action. -/
def Action.taken : Action → List Batch
  | .throttler b | .passToThrottler _ b => b.input.received
  | _ => []

/-- The batches the throttler gives in an action. -/
def Action.given : Action → List Batch
  | .throttler b | .passToSender b _ => b.output.sent
  | _ => []

/-- The batches that arrive at the sender pool in an action. -/
def Action.arrived : Action → List Batch
  | .sender b | .passToSender _ b => b.op.received
  | _ => []

/-- The batches put into the reader channel in a change. -/
def Change.put : Change → List Batch
  | .goroutine a => a.put
  | _ => []

/-- The batches the throttler has taken. -/
def taken (q : Pipeline) : List Batch := q.throttler.elim [] Throttler.received

/-- The batches the throttler has given. -/
def given (q : Pipeline) : List Batch := q.throttler.elim [] Throttler.forwarded

/-- The batch in the throttler's hand. -/
def hand (q : Pipeline) : List Batch := (q.throttler.bind (·.pc.hand)).toList

/-- The batches that have arrived at the sender pool. -/
def arrived (q : Pipeline) : List Batch := q.senderPool.elim [] SenderPool.received

variable {q : Pipeline} {sh : Memory} {root : Bool} {a : Action} {c : Change} {put : List Batch}

/-- What has passed a place grows by what passes it. -/
theorem passed_next (ha : q.Enabled root sh a) :
    (q.next sh a).taken = q.taken ++ a.taken ∧ (q.next sh a).given = q.given ++ a.given ∧
      (q.next sh a).arrived = q.arrived ++ a.arrived := by
  have hthrottler : ∀ b : Throttler.Action, (∃ t ∈ q.throttler, t.Enabled sh.now b) →
      (q.stepThrottler sh b).taken = q.taken ++ b.input.received ∧
        (q.stepThrottler sh b).given = q.given ++ b.output.sent := by
    rintro b ⟨t, ht, -⟩
    obtain ⟨hreceived, hforwarded⟩ := t.received_forwarded_next sh.now b
    have heq : q.throttler = some t := ht
    simp only [taken, given, stepThrottler, heq, Option.map_some, Option.elim_some]
    exact ⟨hreceived, hforwarded⟩
  have hsender : ∀ b : SenderPool.Action, (∃ p ∈ q.senderPool, p.Enabled sh.now b) →
      (q.stepSender sh b).arrived = q.arrived ++ b.op.received := by
    rintro b ⟨p, hp, -⟩
    have heq : q.senderPool = some p := hp
    simp only [arrived, stepSender, heq, Option.map_some, Option.elim_some]
    rw [SenderPool.Action.received_op]
    exact (p.received_finished_next sh.now b).1
  have hnone : ∀ l : List Batch, l = l ++ [] := fun l => (List.append_nil l).symm
  cases a with
  | reader b => exact ⟨hnone _, hnone _, hnone _⟩
  | throttler b =>
    obtain ⟨htaken, hgiven⟩ := hthrottler b ha.1
    exact ⟨htaken, hgiven, hnone _⟩
  | sender b => exact ⟨hnone _, hnone _, hsender b ha.1⟩
  | passToThrottler b b' =>
    obtain ⟨htaken, hgiven⟩ := hthrottler b' ha.2.1
    -- who receives does not send
    have hquiet : b'.output.sent = [] := by
      have hmeet := ha.2.2.1
      cases b' <;> first | rfl | (cases hop : b.op <;> simp [Meet, hop, Throttler.Action.input] at hmeet)
    rw [hquiet] at hgiven
    exact ⟨htaken, hgiven, hnone _⟩
  | passToSender b b' =>
    obtain ⟨htaken, hgiven⟩ := hthrottler b ha.1
    have hquiet : b.input.received = [] := by
      have hmeet := ha.2.2.1
      cases b <;> first | rfl | simp [Meet, Throttler.Action.output] at hmeet
    rw [hquiet] at htaken
    exact ⟨htaken, hgiven, hsender b' ha.2.1⟩

/-- A send and a receipt that meet are of the same batch. -/
theorem sent_of_meet {o o' : Chan.Op Batch} (h : Meet o o') : o.sent = o'.received := by
  cases o <;> cases o' <;> first | exact h.elim | exact congrArg (fun x => [x]) h

/-- **Both channels are first in, first out**, as long as they are open. -/
theorem buffers_next (ha : q.Enabled root sh a) :
    (q.readerBatches.closes = 0 → q.readerBatches.buffer ++ a.put =
      a.taken ++ (q.next sh a).readerBatches.buffer) ∧
    (q.senderBatches.closes = 0 → q.senderBatches.buffer ++ a.given =
      a.arrived ++ (q.next sh a).senderBatches.buffer) := by
  have hnone : ∀ l : List Batch, l ++ [] = [] ++ l := fun l => List.append_nil l
  cases a with
  | reader b =>
    refine ⟨fun hopen => ?_, fun _ => hnone _⟩
    have happly := Chan.apply_buffer ha.2.2 hopen
    have hreceives : b.op.received = [] := by cases b <;> first | rfl | (rename_i m; cases m <;> rfl)
    rwa [hreceives] at happly
  | throttler b =>
    have hsends : b.input.sent = [] := by cases b <;> rfl
    have hreceives : b.output.received = [] := by cases b <;> rfl
    refine ⟨fun hopen => ?_, fun hopen => ?_⟩
    · have happly := Chan.apply_buffer ha.2.2.1 hopen
      rwa [hsends] at happly
    · have happly := Chan.apply_buffer ha.2.2.2 hopen
      rwa [hreceives] at happly
  | sender b =>
    refine ⟨fun _ => hnone _, fun hopen => ?_⟩
    have happly := Chan.apply_buffer ha.2.2 hopen
    have hsends : b.op.sent = [] := by cases b <;> rfl
    rwa [hsends] at happly
  | passToThrottler b b' =>
    obtain ⟨-, -, hmeet, -, hempty⟩ := ha
    refine ⟨fun _ => ?_, fun _ => hnone _⟩
    change q.readerBatches.buffer ++ b.op.sent = b'.input.received ++ q.readerBatches.buffer
    rw [hempty, sent_of_meet hmeet, List.append_nil, List.nil_append]
  | passToSender b b' =>
    obtain ⟨-, -, hmeet, -, hempty⟩ := ha
    refine ⟨fun _ => hnone _, fun _ => ?_⟩
    change q.senderBatches.buffer ++ b.output.sent = b'.op.received ++ q.senderBatches.buffer
    rw [hempty, sent_of_meet hmeet, List.append_nil, List.nil_append]

/-- Whoever cancels passes nothing on. -/
theorem passed_of_not_isOwn (h : a.isOwn = false) :
    a.put = [] ∧ a.taken = [] ∧ a.given = [] ∧ a.arrived = [] := by
  cases a with
  | reader b => cases b <;> first | exact ⟨rfl, rfl, rfl, rfl⟩ | simp [Action.isOwn, ReaderPool.Action.actor] at h
  | throttler b =>
    cases b <;> first | exact ⟨rfl, rfl, rfl, rfl⟩ | simp [Action.isOwn, Throttler.Action.actor] at h
  | sender b =>
    cases b <;> first | exact ⟨rfl, rfl, rfl, rfl⟩ | simp [Action.isOwn, SenderPool.Action.actor] at h
  | passToThrottler b b' => cases h
  | passToSender b b' => cases h

/-! ### The flow -/

/-- **What has been put into a pipeline and what has become of it**: each channel holds
what was put in and not yet taken out, for as long as it is open; afterwards what was
taken out is still a prefix. The throttler passes on, the sender pool has nothing but what
has arrived. -/
structure InFlow (q : Pipeline) (put : List Batch) : Prop where
  reader : q.readerBatches.closes = 0 → put = q.taken ++ q.readerBatches.buffer
  readerPrefix : q.taken <+: put
  throttler : ∀ t ∈ q.throttler, t.Passing
  sender : q.senderBatches.closes = 0 → q.given = q.arrived ++ q.senderBatches.buffer
  senderPrefix : q.arrived <+: q.given
  pool : ∀ p ∈ q.senderPool, p.Conserved
  readerRoom : q.readerBatches.closes = 0 →
    q.readerBatches.buffer.length ≤ q.readerBatches.capacity
  senderRoom : q.senderBatches.closes = 0 →
    q.senderBatches.buffer.length ≤ q.senderBatches.capacity

/-- The throttler keeps passing on, and the sender pool keeps to its receipts. -/
theorem components_next (ha : q.Enabled root sh a) (hs : q.Sound)
    (ht : ∀ t ∈ q.throttler, t.Passing) (hp : ∀ p ∈ q.senderPool, p.Conserved) :
    (∀ t ∈ (q.next sh a).throttler, t.Passing) ∧
      ∀ p ∈ (q.next sh a).senderPool, p.Conserved := by
  have hthrottler : ∀ b : Throttler.Action, (∃ t ∈ q.throttler, t.Enabled sh.now b) →
      ∀ t ∈ (q.stepThrottler sh b).throttler, t.Passing := by
    rintro b hen t hmem
    obtain ⟨t', ht', rfl⟩ := mem_stepThrottler hmem
    exact (ht t' ht').next (enabled_of_mem hen ht')
  have hsender : ∀ b : SenderPool.Action, (∃ p ∈ q.senderPool, p.Enabled sh.now b) →
      ∀ p ∈ (q.stepSender sh b).senderPool, p.Conserved := by
    rintro b hen p hmem
    obtain ⟨p', hp', rfl⟩ := mem_stepSender hmem
    exact (hp p' hp').next (hs.sender p' hp').1 (enabled_of_mem hen hp')
  cases a with
  | reader b => exact ⟨ht, hp⟩
  | throttler b => exact ⟨hthrottler b ha.1, hp⟩
  | sender b => exact ⟨ht, hsender b ha.1⟩
  | passToThrottler b b' => exact ⟨hthrottler b' ha.2.1, hp⟩
  | passToSender b b' => exact ⟨hthrottler b ha.1, hsender b' ha.2.1⟩

/-- The channels of a pipeline keep to their room. -/
theorem rooms_next (ha : q.Enabled root sh a) :
    (q.readerBatches.closes = 0 → q.readerBatches.buffer.length ≤ q.readerBatches.capacity →
      (q.next sh a).readerBatches.buffer.length ≤ q.readerBatches.capacity) ∧
    (q.senderBatches.closes = 0 → q.senderBatches.buffer.length ≤ q.senderBatches.capacity →
      (q.next sh a).senderBatches.buffer.length ≤ q.senderBatches.capacity) := by
  cases a with
  | reader b => exact ⟨Chan.apply_length_le ha.2.2, fun _ hle => hle⟩
  | throttler b => exact ⟨Chan.apply_length_le ha.2.2.1, Chan.apply_length_le ha.2.2.2⟩
  | sender b => exact ⟨fun _ hle => hle, Chan.apply_length_le ha.2.2⟩
  | passToThrottler b b' => exact ⟨fun _ hle => hle, fun _ hle => hle⟩
  | passToSender b b' => exact ⟨fun _ hle => hle, fun _ hle => hle⟩

/-- **The goroutines keep the flow.** Only of a quiet pipeline is a channel closed, and
there nothing passes any more. -/
theorem InFlow.next (h : q.InFlow put) (hq : q.InOrder) (ha : q.Enabled root sh a) :
    (q.next sh a).InFlow (put ++ a.put) := by
  obtain ⟨htaken, hgiven, harrived⟩ := passed_next ha
  obtain ⟨hreader, hsender⟩ := buffers_next ha
  obtain ⟨hclosesR, hclosesS⟩ := closes_next ha
  obtain ⟨-, hcapR, hcapS⟩ := frame_next ha
  obtain ⟨hroomR, hroomS⟩ := rooms_next ha
  obtain ⟨hcompT, hcompS⟩ := components_next ha hq.sound h.throttler h.pool
  have hstill : ∀ ch, ch = q.readerBatches ∨ ch = q.senderBatches → ch.closes ≠ 0 →
      a.put = [] ∧ a.taken = [] ∧ a.given = [] ∧ a.arrived = [] := by
    intro ch hch hne
    refine passed_of_not_isOwn ?_
    by_contra hown
    exact not_enabled_of_quiet hq.sound ((hq.once ch hch).2.2 hne) (by simpa using hown) ha
  have heqR : q.readerBatches.closes = 0 →
      put ++ a.put = (q.next sh a).taken ++ (q.next sh a).readerBatches.buffer := fun hopen =>
    calc put ++ a.put = q.taken ++ (q.readerBatches.buffer ++ a.put) := by
          rw [h.reader hopen, List.append_assoc]
      _ = q.taken ++ (a.taken ++ (q.next sh a).readerBatches.buffer) := by rw [hreader hopen]
      _ = (q.next sh a).taken ++ (q.next sh a).readerBatches.buffer := by
          rw [htaken, List.append_assoc]
  have heqS : q.senderBatches.closes = 0 →
      (q.next sh a).given = (q.next sh a).arrived ++ (q.next sh a).senderBatches.buffer := fun hopen =>
    calc (q.next sh a).given = q.arrived ++ (q.senderBatches.buffer ++ a.given) := by
          rw [hgiven, h.sender hopen, List.append_assoc]
      _ = q.arrived ++ (a.arrived ++ (q.next sh a).senderBatches.buffer) := by rw [hsender hopen]
      _ = (q.next sh a).arrived ++ (q.next sh a).senderBatches.buffer := by
          rw [harrived, List.append_assoc]
  refine
    { reader := fun hopen => heqR (hclosesR ▸ hopen)
      readerPrefix := ?_
      throttler := hcompT
      sender := fun hopen => heqS (hclosesS ▸ hopen)
      senderPrefix := ?_
      pool := hcompS
      readerRoom := fun hopen => hcapR ▸ hroomR (hclosesR ▸ hopen) (h.readerRoom (hclosesR ▸ hopen))
      senderRoom := fun hopen =>
        hcapS ▸ hroomS (hclosesS ▸ hopen) (h.senderRoom (hclosesS ▸ hopen)) }
  · by_cases hopen : q.readerBatches.closes = 0
    · exact ⟨_, (heqR hopen).symm⟩
    · obtain ⟨hput, htake, -, -⟩ := hstill _ (Or.inl rfl) hopen
      rw [htaken, hput, htake, List.append_nil, List.append_nil]
      exact h.readerPrefix
  · by_cases hopen : q.senderBatches.closes = 0
    · exact ⟨_, (heqS hopen).symm⟩
    · obtain ⟨-, -, hgive, harrive⟩ := hstill _ (Or.inr rfl) hopen
      rw [hgiven, harrived, hgive, harrive, List.append_nil, List.append_nil]
      exact h.senderPrefix

/-- Where nothing passes and the channels are left alone, the components matter. -/
theorem InFlow.congr {q' : Pipeline} (h : q.InFlow put) (htaken : q'.taken = q.taken)
    (hgiven : q'.given = q.given) (harrived : q'.arrived = q.arrived)
    (hreader : q'.readerBatches = q.readerBatches) (hsender : q'.senderBatches = q.senderBatches)
    (hthrottler : ∀ t ∈ q'.throttler, t.Passing) (hpool : ∀ p ∈ q'.senderPool, p.Conserved) :
    q'.InFlow put where
  reader := by
    rw [htaken, hreader]
    exact h.reader
  readerPrefix := htaken ▸ h.readerPrefix
  throttler := hthrottler
  sender := by
    rw [hgiven, harrived, hsender]
    exact h.sender
  senderPrefix := by
    rw [hgiven, harrived]
    exact h.senderPrefix
  pool := hpool
  readerRoom := by
    rw [hreader]
    exact h.readerRoom
  senderRoom := by
    rw [hsender]
    exact h.senderRoom

/-- Closing a channel and draining it leaves what has passed. -/
theorem InFlow.closeAndDrain (h : q.InFlow put) (name : ChannelName) :
    (q.setChannel name (q.channel name).close.drain).InFlow put := by
  have hclosed : ∀ (ch : Chan Batch) {P : Prop}, ch.close.drain.closes = 0 → P := fun ch _ h0 =>
    absurd h0 (Nat.succ_ne_zero ch.closes)
  cases name with
  | reader => exact { h with reader := hclosed _, readerRoom := hclosed _ }
  | sender => exact { h with sender := hclosed _, senderRoom := hclosed _ }

/-- A call of the sender pool receives nothing. -/
theorem received_of_eventLoop {b : SenderPool.Action} (hb : b.actor = .eventLoop) :
    b.received = [] := by
  cases b <;> first | rfl | cases hb

/-- A call of the throttler passes nothing on, and leaves the position. -/
theorem call_throttler {b : Throttler.Action} (hb : b.actor = .eventLoop) (t : Throttler) (now : ℕ) :
    (t.next now b).received = t.received ∧ (t.next now b).forwarded = t.forwarded ∧
      (t.next now b).pc = t.pc := by
  cases b <;> first | exact ⟨rfl, rfl, rfl⟩ | cases hb

/-- **What the event loop does keeps the flow.** -/
theorem InFlow.call (h : q.InFlow put) (hq : q.InOrder) (hc : c.Allowed root sh q)
    (hgoroutine : ∀ a, c ≠ .goroutine a) : (q.change sh c).InFlow put := by
  cases c with
  | goroutine a => exact absurd rfl (hgoroutine a)
  | make readerCapacity senderCapacity =>
    obtain rfl : q = {} := hc
    obtain rfl : put = [] := h.reader rfl
    exact ⟨fun _ => rfl, List.prefix_rfl, fun t ht => absurd ht (Option.not_mem_none t), fun _ => rfl,
      List.prefix_rfl, fun p hp => absurd hp (Option.not_mem_none p), fun _ => Nat.zero_le _,
      fun _ => Nat.zero_le _⟩
  | startReaderPool dataPath batchSize workers files =>
    exact h.congr rfl rfl rfl rfl rfl h.throttler h.pool
  | startThrottler settings =>
    have hnone : q.throttler = none := hc.1
    refine h.congr ?_ ?_ rfl rfl rfl (fun t ht => ?_) h.pool
    · rw [taken, taken, hnone]
      rfl
    · rw [given, given, hnone]
      rfl
    · obtain rfl := Option.some.inj ht
      exact Throttler.passing_start settings
  | startSender retry workers =>
    have hnone : q.senderPool = none := hc.1
    refine h.congr rfl rfl ?_ rfl rfl h.throttler fun p hp => ?_
    · rw [arrived, arrived, hnone]
      exact (SenderPool.custody_reconcile _ workers).2
    · obtain rfl := Option.some.inj hp
      exact SenderPool.conserved_startSenderPool retry workers
  | callReader b => exact h.congr rfl rfl rfl rfl rfl h.throttler h.pool
  | callThrottler b =>
    refine h.congr ?_ ?_ rfl rfl rfl (fun t ht => ?_) h.pool
    · cases hthrottler : q.throttler with
      | none => simp [taken, change, stepThrottler, hthrottler]
      | some t => simp [taken, change, stepThrottler, hthrottler, (call_throttler hc.1 t sh.now).1]
    · cases hthrottler : q.throttler with
      | none => simp [given, change, stepThrottler, hthrottler]
      | some t => simp [given, change, stepThrottler, hthrottler, (call_throttler hc.1 t sh.now).2.1]
    · obtain ⟨t', ht', rfl⟩ := mem_stepThrottler ht
      rcases hc.2 t' ht' with hen | hsame
      · exact (h.throttler t' ht').next hen
      · rw [hsame]
        exact h.throttler t' ht'
  | callSender b =>
    refine h.congr rfl rfl ?_ rfl rfl h.throttler fun p hp => ?_
    · cases hpool : q.senderPool with
      | none => simp [arrived, change, stepSender, hpool]
      | some p => simp [arrived, change, stepSender, hpool, (p.received_finished_next sh.now b).1,
          received_of_eventLoop hc.1]
    · obtain ⟨p', hp', rfl⟩ := mem_stepSender hp
      exact (h.pool p' hp').next (hq.sound.sender p' hp').1 (hc.2 p' hp')
  | awaitReconciled =>
    refine h.congr rfl rfl ?_ rfl rfl h.throttler fun p hp => ?_
    · cases hpool : q.senderPool <;> simp [arrived, change, awaitReconciled, hpool]
    · obtain ⟨p', hp', rfl⟩ := Option.mem_map.mp hp
      exact { h.pool p' hp' with }
  | cancelRun => exact h.congr rfl rfl rfl rfl rfl h.throttler h.pool
  | closeAndDrain name => exact h.closeAndDrain name

/-- **Every change of a pipeline keeps the flow.** -/
theorem InFlow.change (h : q.InFlow put) (hq : q.InOrder) (hc : c.Allowed root sh q) :
    (q.change sh c).InFlow (put ++ c.put) := by
  by_cases hgoroutine : ∃ a, c = .goroutine a
  · obtain ⟨a, rfl⟩ := hgoroutine
    exact h.next hq hc
  · have hnone : c.put = [] := by
      cases c with
      | goroutine a => exact absurd ⟨a, rfl⟩ hgoroutine
      | _ => rfl
    rw [hnone, List.append_nil]
    exact h.call hq hc fun a ha => hgoroutine ⟨a, ha⟩

/-- The pipeline that has not been made. -/
theorem inFlow_empty : ({} : Pipeline).InFlow [] where
  reader _ := rfl
  readerPrefix := List.prefix_rfl
  throttler t ht := absurd ht (Option.not_mem_none t)
  sender _ := rfl
  senderPrefix := List.prefix_rfl
  pool p hp := absurd hp (Option.not_mem_none p)
  readerRoom _ := Nat.zero_le _
  senderRoom _ := Nat.zero_le _

/-! ### What the flow means -/

/-- What the throttler has given is a prefix of what it has taken. -/
theorem InFlow.isPrefix_given (h : q.InFlow put) : q.given <+: q.taken := by
  cases hthrottler : q.throttler with
  | none => simp [given, taken, hthrottler]
  | some t =>
    simp only [given, taken, hthrottler, Option.elim_some]
    rcases (h.throttler t hthrottler).faithful with heq | ⟨-, -, -, b, heq⟩
    · exact ⟨_, heq.symm⟩
    · exact ⟨_, heq.symm⟩

/-- **What has arrived is a prefix of what was put in.** -/
theorem InFlow.arrived_prefix (h : q.InFlow put) : q.arrived <+: put :=
  h.senderPrefix.trans (h.isPrefix_given.trans h.readerPrefix)

/-- **What is settled was put in**, each batch as often as it is settled. -/
theorem InFlow.finished_le (h : q.InFlow put) {p : SenderPool} (hp : p ∈ q.senderPool) :
    (p.finished : Multiset Batch) ≤ (put : Multiset Batch) := by
  have harrived : q.arrived = p.received := by rw [arrived, show q.senderPool = some p from hp]; rfl
  refine (h.pool p hp).finished.trans ?_
  rw [← harrived]
  exact Multiset.coe_le.mpr h.arrived_prefix.sublist.subperm

/-- **While the channels are open nothing is missing**, but for the batch a throttler that
was cancelled has left with. -/
theorem InFlow.eq_of_isOpen (h : q.InFlow put) (hopen : q.IsOpen) :
    put = q.arrived ++ q.senderBatches.buffer ++ q.hand ++ q.readerBatches.buffer ∨
      ∃ b, put = q.arrived ++ q.senderBatches.buffer ++ [b] ++ q.readerBatches.buffer ∧
        ∀ t ∈ q.throttler, t.cancelled = true ∧ t.HasLeft := by
  rw [h.reader hopen.1, ← h.sender hopen.2]
  cases hthrottler : q.throttler with
  | none => simp [given, taken, hand, hthrottler]
  | some t =>
    simp only [given, taken, hand, hthrottler, Option.elim_some, Option.bind_some]
    rcases (h.throttler t hthrottler).faithful with heq | ⟨hrevoked, hclosed, -, b, heq⟩
    · exact Or.inl (congrArg (· ++ q.readerBatches.buffer) heq)
    · refine Or.inr ⟨b, congrArg (· ++ q.readerBatches.buffer) heq, fun t' ht' => ?_⟩
      obtain rfl := Option.some.inj ht'
      exact ⟨hrevoked, of_decide_eq_true hclosed⟩

/-- **The readers are no further ahead than there is room.** -/
theorem InFlow.length_le (h : q.InFlow put) (hopen : q.IsOpen) :
    put.length ≤ q.arrived.length + q.senderBatches.capacity + 1 + q.readerBatches.capacity := by
  have hroomR := h.readerRoom hopen.1
  have hroomS := h.senderRoom hopen.2
  have hhand : q.hand.length ≤ 1 := by
    rw [hand]
    cases q.throttler.bind (·.pc.hand) <;> simp
  rcases h.eq_of_isOpen hopen with heq | ⟨b, heq, -⟩
  · have hlen := congrArg List.length heq
    simp only [List.length_append] at hlen
    omega
  · have hlen := congrArg List.length heq
    simp only [List.length_append, List.length_singleton] at hlen
    omega

/-- What is put into the reader channel where something happens to the pipeline. -/
def putIn : Memory ⊕ Bool × Change → List Batch
  | .inl _ => []
  | .inr (_, c) => c.put

/-- **Along a lifeline the flow is kept.** -/
theorem inFlow_of_lifeline {s : Memory × Pipeline} {as : List (Memory ⊕ Bool × Change)}
    (h : s.2.InFlow []) (hq : s.2.InOrder) (hrun : lifeline.Run s as) :
    (lifeline.after s as).2.InFlow (as.flatMap putIn) := by
  have hkeep : (lifeline.after s as).2.InOrder ∧
      (lifeline.after s as).2.InFlow (lifeline.observe (fun _ a o => o ++ putIn a) s [] as) := by
    refine Machine.invariant_of_observe (C := fun _ _ => True)
      (I := fun s o => s.2.InOrder ∧ s.2.InFlow o) (fun s a o hI ha _ => ?_) ⟨hq, h⟩ hrun
      (Machine.along_of_forall fun _ _ => trivial)
    refine ⟨inOrder_next hI.1 ha, ?_⟩
    rcases a with sh' | ⟨root, c⟩
    · rw [putIn, List.append_nil]
      exact hI.2
    · exact hI.2.change hI.1 ha
  rw [Machine.observe_append_eq_flatMap, List.nil_append] at hkeep
  exact hkeep.2

end Pipeline

/-! ### The service -/

namespace Service

variable {s : Service} {cfg : Config} {now i : ℕ} {as : List Action}

/-- The batches the readers of a run put into its pipeline in an action. -/
def Action.put (i : ℕ) : Action → List Batch
  | .pipeline run a => if run = i then a.put else []
  | _ => []

/-- **The batches the readers of a run have put into its pipeline.** -/
def put (i : ℕ) (as : List Action) : List Batch := as.flatMap (Action.put i)

/-- Nobody but the readers puts a batch into a pipeline. -/
theorem put_of_changeOf {st : Stmt} {c : Pipeline.Change} (h : s.changeOf st = some (i, c)) :
    c.put = [] := by
  cases st
  case makeRun =>
    obtain ⟨-, rfl⟩ := Prod.mk.inj (Option.some.inj h)
    rfl
  all_goals
    simp only [changeOf, Option.map_eq_some_iff, Prod.mk.injEq, reduceCtorEq] at h
  all_goals
    obtain ⟨j, -, -, rfl⟩ := h
    rfl

/-- What is noted of an action is what is put in by it. -/
theorem put_noted (s : Service) (i : ℕ) (a : Action) :
    (s.noted i a).flatMap Pipeline.putIn = a.put i := by
  have hcalls : ∀ {j : ℕ} {c : Pipeline.Change}, s.changeAt a = some (j, c) → c.put = [] →
      (s.noted i a).flatMap Pipeline.putIn = [] := by
    intro j c hc hput
    simp only [noted, hc, Option.toList_some, List.filter_cons, List.filter_nil]
    split <;> simp [Pipeline.putIn, hput]
  have hnone : s.changeAt a = none → (s.noted i a).flatMap Pipeline.putIn = [] := by
    intro hc
    simp [noted, hc, Pipeline.putIn]
  cases a with
  | pipeline run a =>
    by_cases hrun : run = i <;> simp [noted, changeAt, Action.put, hrun, Pipeline.putIn,
      Pipeline.Change.put]
  | clock now => exact hnone rfl
  | cancelRoot => exact hnone rfl
  | event e =>
    cases hc : s.changeAt (.event e) with
    | none => exact hnone hc
    | some x =>
      refine hcalls hc ?_
      cases e with
      | sourceError error =>
        obtain ⟨j, -, rfl⟩ := Option.map_eq_some_iff.mp hc
        rfl
      | _ => cases hc
  | exec =>
    cases hc : s.changeAt .exec with
    | none => exact hnone hc
    | some x =>
      obtain ⟨st, -, hst⟩ := Option.bind_eq_some_iff.mp hc
      exact hcalls hc (put_of_changeOf hst)

theorem put_history (s : Service) (i : ℕ) (as : List Action) :
    (history i s as).flatMap Pipeline.putIn = put i as := by
  induction as generalizing s with
  | nil => rfl
  | cons a as ih => rw [history, List.flatMap_append, put_noted, ih, put, put, List.flatMap_cons]

/-- **The flow of every run of the service.** -/
theorem inFlow_of_run (hrun : machine.Run (newService cfg now) as) (i : ℕ) :
    ((machine.after (newService cfg now) as).pipeline i).InFlow (put i as) := by
  obtain ⟨hlife, hafter⟩ := lifeline_of_run (.refl _) hrun i
  have h := Pipeline.inFlow_of_lifeline Pipeline.inFlow_empty
    (Pipeline.inOrder_of_none ⟨rfl, rfl⟩ ⟨rfl, rfl⟩) hlife
  rwa [hafter, put_history] at h

/-- **What the readers of a run put in arrives in that order, or not at all.** In every
state of the service and for every run so far:

* the batches that have arrived at the sender pool are a prefix of those the readers have
  put into the reader channel;
* while the channels are open nothing is missing: what was put in is what has arrived, what
  the sender channel holds, what the throttler holds and what the reader channel holds, in
  this order – unless the throttler was cancelled and has left with a batch – and the
  readers are ahead by no more than the capacities of the channels and one batch;
* and the sender pool has settled no batch more often than it was put in, and counts no
  more transactions than there are in the batches settled. -/
theorem pipeline_in_order (hrun : machine.Run (newService cfg now) as) (i : ℕ) :
    let q := (machine.after (newService cfg now) as).pipeline i
    q.arrived <+: put i as ∧
    (q.IsOpen →
      (put i as = q.arrived ++ q.senderBatches.buffer ++ q.hand ++ q.readerBatches.buffer ∨
        ∃ b, put i as = q.arrived ++ q.senderBatches.buffer ++ [b] ++ q.readerBatches.buffer ∧
          ∀ t ∈ q.throttler, t.cancelled = true ∧ t.HasLeft) ∧
      (put i as).length ≤
        q.arrived.length + q.senderBatches.capacity + 1 + q.readerBatches.capacity) ∧
    ∀ p ∈ q.senderPool, (p.finished : Multiset Batch) ≤ (put i as : Multiset Batch) ∧
      p.counted ≤ transactions p.finished := by
  intro q
  have h : q.InFlow (put i as) := inFlow_of_run hrun i
  exact ⟨h.arrived_prefix, fun hopen => ⟨h.eq_of_isOpen hopen, h.length_le hopen⟩, fun p hp =>
    ⟨h.finished_le hp, (h.pool p hp).counted⟩⟩

/-- Both batches have arrived, in their order, and are settled. -/
theorem pipeline_in_order_readAgainRun :
    let q := (machine.after (newService exampleConfig 0) readAgainRun).pipeline 0
    put 0 readAgainRun = [[⟨"c"⟩], [⟨"d"⟩, ⟨"e"⟩]] ∧ q.arrived = put 0 readAgainRun ∧
      ∀ p ∈ q.senderPool, (p.finished : Multiset Batch) ≤ (put 0 readAgainRun : Multiset Batch) ∧
        p.counted = 3 ∧ p.counted ≤ transactions p.finished := by
  intro q
  have hrun : machine.Run (newService exampleConfig 0) readAgainRun := by decide +kernel
  obtain ⟨hflow, -, hsettled⟩ := pipeline_in_order hrun 0
  have hlength : (put 0 readAgainRun).length = q.arrived.length := by decide +kernel
  have hcounted : ∀ p ∈ q.senderPool, p.counted = 3 := by decide +kernel
  refine ⟨by decide +kernel, hflow.eq_of_length hlength.symm, fun p hp => ?_⟩
  exact ⟨(hsettled p hp).1, hcounted p hp, (hsettled p hp).2⟩

end Service

end IngestionLab
