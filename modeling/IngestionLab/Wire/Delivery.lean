import IngestionLab.Loadgen.EventLoop.Credits
import IngestionLab.Machine.Calls
import IngestionLab.Receiver.Counters
import IngestionLab.Wire.Batch

/-!
# Delivery

The load generator, the receiver and what is between them. An attempt opens an exchange,
the receiver handles the request once if it gets there, and the attempt returns with what
comes back or with an error of its own: requests and answers may be late, cut short or
lost, others may send batches to the same receiver, and everything interleaves with the
service and its event loop (`IngestionLab.Delivery.machine`).

Seen from the totals this is a machine of calls that may be lost
(`IngestionLab.Delivery.simulates_calls`).

* `IngestionLab.Delivery.delivered_at_least_once`: **whatever happens, the receiver has
  counted every transaction the load generator reports**, and what it has counted beyond is
  accounted for: what is about to be counted, and the exchanges that no attempt has taken
  for a success.
-/

namespace IngestionLab

open Go Function

/-! ### The parties -/

/-- **What is fixed about the two programs**: how a time is written and read, how many bytes a body
has, and how they are configured. -/
structure Link (Time : Type) where
  sender : SenderHTTPAttempt
  writeTime : Time → Option Json
  size : Json → ℕ
  readTime : Decoder Time
  zeroTime : Time
  receiver : Receiver.Config

/-- **How far an exchange has come** at the receiver. -/
inductive Stage
  /-- The request is on its way. -/
  | sent
  /-- `accept` has read the clock and waits for the lock. -/
  | accepting (accept : Receiver.Accept)
  /-- The batch is counted; about to answer. -/
  | accepted (accept : Receiver.Accept)
  /-- The answer is on its way, after a batch that is counted or without one. -/
  | answered (status : ℕ) (accept : Option Receiver.Accept)
  /-- The handler has returned without an answer. -/
  | left
  deriving DecidableEq, Repr

namespace Stage

/-- The accept that waits for the lock. -/
def waiting : Stage → Option Receiver.Accept
  | accepting a => some a
  | _ => none

/-- The accept that is about to be answered. -/
def counted : Stage → Option Receiver.Accept
  | accepted a => some a
  | _ => none

/-- The status that is on its way. -/
def status : Stage → Option ℕ
  | answered status _ => some status
  | _ => none

/-- The accept there is, whether it has taken effect or not. -/
def accept : Stage → Option Receiver.Accept
  | accepting a | accepted a => some a
  | answered _ a => a
  | sent | left => none

/-- The transactions that have been counted. -/
def effect : Stage → Option ℕ
  | accepted a => some a.transactionCount
  | answered _ a => a.map Receiver.Accept.transactionCount
  | sent | accepting _ | left => none

/-- What the handler makes of a request. -/
def handled (clock : ℕ) : Receiver.Handling → Stage
  | .answer status => answered status none
  | .leave => left
  | .accept transactionCount => accepting ⟨clock, transactionCount⟩

end Stage

/-- **An exchange.** It is noted on the side whether an attempt has taken it for a success. -/
structure Exchange where
  request : Request
  stage : Stage := .sent
  reported : Bool := false

namespace Exchange

/-- The request carries so many transactions. -/
def Carries (e : Exchange) (n : ℕ) : Prop :=
  ∃ body ∈ e.request.body, ∃ elements, body.content = ⟨[.array elements], true⟩ ∧
    elements.length = n

/-- What has been counted and no attempt has taken for a success. -/
def unreported (e : Exchange) : ℕ := if e.reported then 0 else e.stage.effect.getD 0

/-- **As a call**: the receiver serves it, and an attempt that takes it for a success has heard of
it. -/
def toCall (e : Exchange) : Fate ℕ := ⟨e.stage.effect, e.reported⟩

/-- **The receiver counts what a request carries**, and says that it has taken a batch only after
counting it. -/
structure Sound (e : Exchange) : Prop where
  counts : ∀ a ∈ e.stage.accept, ∀ n, e.Carries n → a.transactionCount = n
  success : ∀ accept, e.stage = .answered statusNoContent accept → accept ≠ none

variable {Time : Type} {link : Link Time} {e : Exchange}

/-- An accept that there is may be further on. -/
theorem Sound.of_accept {a : Receiver.Accept} {stage : Stage} (h : e.Sound)
    (ha : e.stage.accept = some a) (hstage : stage.accept = some a) :
    ({ e with stage := stage } : Exchange).Sound where
  counts := by
    intro b hb n hn
    obtain rfl := Option.mem_unique hstage hb
    exact h.counts a ha n hn
  success := by
    rintro accept hanswered rfl
    rw [show stage = .answered statusNoContent none from hanswered] at hstage
    cases hstage

/-- A request that arrives is handled soundly. -/
theorem Sound.handled (clock : ℕ) (cut : Bool) (doneWithin : ℤ → Bool) :
    ({ e with stage := .handled clock (Receiver.handleIngest link.readTime link.zeroTime
        link.receiver { e.request with
          body := if cut then none else e.request.body
          doneWithin := doneWithin }) } : Exchange).Sound := by
  generalize hr : ({ e.request with
    body := if cut then none else e.request.body
    doneWithin := doneWithin } : Request) = r
  cases hhandled : Receiver.handleIngest link.readTime link.zeroTime link.receiver r with
  | answer status =>
    refine ⟨by rintro a ⟨⟩, fun accept hanswered => ?_⟩
    obtain ⟨hstatus, -⟩ := Stage.answered.inj hanswered
    exact absurd hstatus (Receiver.status_of_answer hhandled)
  | leave => exact ⟨by rintro a ⟨⟩, by rintro accept ⟨⟩⟩
  | accept transactionCount =>
    refine ⟨?_, by rintro accept ⟨⟩⟩
    rintro a ⟨⟩ n ⟨body, hbody, elements, hcontent, rfl⟩
    obtain ⟨-, -, ⟨body', hbody', -, elements', hcontent', -, -, hcount⟩, -⟩ :=
      Receiver.handleIngest_eq_accept_iff.mp hhandled
    -- the body that was read is the one that was sent
    have hsame : body' = body := by
      rw [← hr] at hbody'
      cases cut with
      | true => cases hbody'
      | false => exact Option.mem_unique hbody' hbody
    rw [hsame, hcontent] at hcontent'
    have heq : elements = elements' := by simpa using hcontent'
    rw [heq]
    exact hcount

end Exchange

/-- A call of `deliver` under way: the body it has written, and the exchange it has opened. -/
structure Attempt where
  body : Option Json
  exchange : Option ℕ

/-- **The load generator, the receiver and the exchanges between them.** The attempt of a sender
worker is found under the number of the run and that of the worker. -/
structure Delivery where
  service : Service
  attempt : ℕ × ℕ → Option Attempt := fun _ => none
  exchange : ℕ → Exchange := fun _ => ⟨⟨"", none, none, fun _ => false⟩, .sent, false⟩
  opened : ℕ := 0
  clock : ℕ := 0
  server : Receiver.ServerState := {}

namespace Delivery

variable {Time : Type}

/-- Both processes have just been started. -/
def start (cfg : Config) (now : ℕ) : Delivery where
  service := newService cfg now

/-- A batch, as far as the load path looks inside its transactions. -/
def batchOf (contents : List (InternalTest.Transaction Time)) : Batch :=
  contents.map fun t => ⟨t.clientID⟩

/-! ### The machine -/

/-- **What may happen next.** -/
inductive Action (Time : Type)
  /-- Anything in the service but the start or the end of an attempt. -/
  | service (a : Service.Action)
  /-- A worker calls `deliver`. -/
  | begin (i w : ℕ) (contents : List (InternalTest.Transaction Time)) (attempt : ℕ)
  /-- `deliver` returns. -/
  | finish (i w : ℕ) (batch : Batch) (attempt : ℕ) (result : ClientResult)
  /-- Somebody else sends a request to the receiver. -/
  | request (r : Request)
  /-- A request arrives, whole or cut short. -/
  | arrive (k : ℕ) (cut : Bool) (doneWithin : ℤ → Bool)
  /-- An accept gets the lock. -/
  | publish (k : ℕ)
  /-- A batch that is counted is answered. -/
  | answer (k : ℕ)
  /-- Time passes at the receiver. -/
  | tick (nanoseconds : ℕ)

/-- The start of an attempt in the service. -/
def beginning (i w : ℕ) (contents : List (InternalTest.Transaction Time)) (attempt : ℕ) :
    Service.Action :=
  .pipeline i (.sender (.startAttempt w (batchOf contents) attempt))

/-- The end of an attempt in the service. -/
def ending (link : Link Time) (i w : ℕ) (batch : Batch) (attempt : ℕ) (call : Attempt)
    (result : ClientResult) : Service.Action :=
  .pipeline i (.sender (.attemptReturns w batch attempt (link.sender.deliver call.body result)))

/-- The action is the start or the end of an attempt. -/
def isAttempt : Service.Action → Bool
  | .pipeline _ (.sender (.startAttempt ..)) | .pipeline _ (.sender (.attemptReturns ..)) => true
  | _ => false

/-- The exchange with its stage changed. -/
def setStage (s : Delivery) (k : ℕ) (stage : Stage) : Delivery :=
  { s with exchange := update s.exchange k { s.exchange k with stage := stage } }

/-- The client may return this: a response is the one to the request of the attempt. -/
def Returns (s : Delivery) (call : Attempt) : ClientResult → Prop
  | .error _ => True
  | .response statusCode _ => ∃ k ∈ call.exchange, (s.exchange k).stage.status = some statusCode

instance (s : Delivery) (call : Attempt) : ∀ result, Decidable (s.Returns call result)
  | .error _ => .isTrue trivial
  | .response statusCode _ =>
    inferInstanceAs (Decidable (∃ k ∈ call.exchange, (s.exchange k).stage.status = some statusCode))

/-- An exchange is opened. -/
def openExchange (s : Delivery) (r : Request) : Delivery :=
  { s with
    exchange := update s.exchange s.opened { request := r }
    opened := s.opened + 1 }

/-- `deliver` is called: the batch is written, and the request sent if it can be made. -/
def callDeliver (link : Link Time) (s : Delivery) (i w : ℕ)
    (contents : List (InternalTest.Transaction Time)) : Delivery :=
  let body := InternalTest.marshal link.writeTime contents
  match body.filter fun _ => link.sender.requestable with
  | none => { s with attempt := update s.attempt (i, w) (some ⟨body, none⟩) }
  | some json =>
    { s.openExchange (SenderHTTPAttempt.request link.size json fun _ => false) with
      attempt := update s.attempt (i, w) (some ⟨body, some s.opened⟩) }

/-- `deliver` has returned, with a success or not. -/
def returnDeliver (s : Delivery) (i w : ℕ) (call : Attempt) (outcome : SenderAttemptOutcome) : Delivery :=
  { s with
    attempt := update s.attempt (i, w) none
    exchange := match outcome, call.exchange with
      | .success, some k => update s.exchange k { s.exchange k with reported := true }
      | _, _ => s.exchange }

/-- **The machine.** -/
def machine (link : Link Time) : Machine Delivery (Action Time) where
  Enabled s
    | .service a => Service.machine.Enabled s.service a ∧ isAttempt a = false
    | .begin i w contents attempt =>
        Service.machine.Enabled s.service (beginning i w contents attempt)
    | .finish i w batch attempt result => ∃ call ∈ s.attempt (i, w), s.Returns call result ∧
        Service.machine.Enabled s.service (ending link i w batch attempt call result)
    | .request _ => True
    | .arrive k _ _ => k < s.opened ∧ (s.exchange k).stage = .sent
    | .publish k => k < s.opened ∧ (s.exchange k).stage.waiting.isSome = true
    | .answer k => k < s.opened ∧ (s.exchange k).stage.counted.isSome = true
    | .tick _ => True
  next s
    | .service a => { s with service := Service.machine.next s.service a }
    | .begin i w contents attempt =>
        { s.callDeliver link i w contents with
          service := Service.machine.next s.service (beginning i w contents attempt) }
    | .finish i w batch attempt result => (s.attempt (i, w)).elim s fun call =>
        { s.returnDeliver i w call (link.sender.deliver call.body result) with
          service := Service.machine.next s.service (ending link i w batch attempt call result) }
    | .request r => s.openExchange r
    | .arrive k cut doneWithin =>
        let r := (s.exchange k).request
        s.setStage k (Stage.handled s.clock (Receiver.handleIngest link.readTime link.zeroTime
          link.receiver { r with
            body := if cut then none else r.body
            doneWithin := doneWithin }))
    | .publish k => (s.exchange k).stage.waiting.elim s fun a =>
        { s.setStage k (.accepted a) with
          server := s.server.accept a.acceptedAt a.transactionCount }
    | .answer k => (s.exchange k).stage.counted.elim s fun a =>
        s.setStage k (.answered statusNoContent (some a))
    | .tick nanoseconds => { s with clock := s.clock + nanoseconds }

instance (link : Link Time) (s : Delivery) : ∀ a, Decidable ((machine link).Enabled s a)
  | .service a =>
    inferInstanceAs (Decidable (Service.machine.Enabled s.service a ∧ isAttempt a = false))
  | .begin i w contents attempt => inferInstanceAs
      (Decidable (Service.machine.Enabled s.service (beginning i w contents attempt)))
  | .finish i w batch attempt result => inferInstanceAs
      (Decidable (∃ call ∈ s.attempt (i, w), s.Returns call result ∧
        Service.machine.Enabled s.service (ending link i w batch attempt call result)))
  | .request _ | .tick _ => .isTrue trivial
  | .arrive k _ _ => inferInstanceAs (Decidable (k < s.opened ∧ (s.exchange k).stage = .sent))
  | .publish k =>
    inferInstanceAs (Decidable (k < s.opened ∧ (s.exchange k).stage.waiting.isSome = true))
  | .answer k =>
    inferInstanceAs (Decidable (k < s.opened ∧ (s.exchange k).stage.counted.isSome = true))

/-! ### The exchanges -/

variable {link : Link Time} {s : Delivery} {cfg : Config} {now k : ℕ}

/-- What is written of a batch carries its transactions. -/
theorem carries_request {contents : List (InternalTest.Transaction Time)} {json : Json}
    (h : InternalTest.marshal link.writeTime contents = some json) (stage : Stage) (reported : Bool) :
    Exchange.Carries ⟨SenderHTTPAttempt.request link.size json fun _ => false, stage, reported⟩
      (batchOf contents).length := by
  obtain ⟨elements, rfl, hall⟩ := InternalTest.marshal_eq_some_iff.mp h
  refine ⟨_, rfl, elements, rfl, ?_⟩
  rw [batchOf, List.length_map]
  exact hall.length_eq.symm

/-! ### The attempts in the service -/

theorem not_starts_of_isAttempt {a : Service.Action} {i w : ℕ} {batch : Batch}
    (h : isAttempt a = false) : ¬a.Starts i w batch := by
  rintro ⟨attempt, rfl⟩
  cases h

theorem succeeded_of_isAttempt {a : Service.Action} (h : isAttempt a = false) : a.succeeded = 0 := by
  cases a with
  | pipeline run b =>
    cases b with
    | sender b =>
      cases b
      case attemptReturns w batch attempt outcome => cases h
      all_goals rfl
    | _ => rfl
  | _ => rfl

/-- A worker about to start an attempt is in none. -/
theorem attempting_of_beginning {i w n : ℕ} {contents : List (InternalTest.Transaction Time)}
    (h : Service.machine.Enabled s.service (beginning i w contents n)) :
    s.service.attempting i w = none := by
  obtain ⟨-, ⟨p, hp, hat⟩, -⟩ := h
  have hpool : (s.service.pipeline i).senderPool = some p := hp
  rw [Service.attempting, Pipeline.attempting, hpool, Option.bind_some, SenderPool.positions,
    show (p.worker w).pc = .runnable (batchOf contents) n from hat.2]
  rfl

/-- A worker about to return from an attempt is in it. -/
theorem attempting_of_ending {i w n : ℕ} {batch : Batch} {call : Attempt} {result : ClientResult}
    (h : Service.machine.Enabled s.service (ending link i w batch n call result)) :
    s.service.attempting i w = some batch := by
  obtain ⟨-, ⟨p, hp, hat, -⟩, -⟩ := h
  have hpool : (s.service.pipeline i).senderPool = some p := hp
  rw [Service.attempting, Pipeline.attempting, hpool, Option.bind_some, SenderPool.positions,
    show (p.worker w).pc = .attempting batch n from hat.2]
  rfl

/-! ### The invariant -/

/-- **The exchange of an attempt**: it has been opened, has not been taken for a success, and carries
the batch of the attempt. -/
structure Holds (s : Delivery) (x : ℕ × ℕ) (k : ℕ) : Prop where
  opened : k < s.opened
  reported : (s.exchange k).reported = false
  carries : ∀ batch, s.service.attempting x.1 x.2 = some batch →
    (s.exchange k).Carries batch.length

/-- **The exchanges are in order**, and no two attempts share one. -/
structure Consistent (cfg : Config) (now : ℕ) (s : Delivery) : Prop where
  service : Service.machine.Reachable (newService cfg now) s.service
  unopened : ∀ k, s.opened ≤ k → (s.exchange k).stage = .sent ∧ (s.exchange k).reported = false
  sound : ∀ k, (s.exchange k).Sound
  calls : ∀ x, ∀ call ∈ s.attempt x, ∀ k ∈ call.exchange, s.Holds x k
  apart : ∀ x y k, ∀ call ∈ s.attempt x, ∀ call' ∈ s.attempt y, k ∈ call.exchange →
    k ∈ call'.exchange → x = y

/-- Both processes have just been started. -/
theorem consistent_start (cfg : Config) (now : ℕ) : (start cfg now).Consistent cfg now where
  service := .refl _
  unopened := fun _ _ => ⟨rfl, rfl⟩
  sound := fun _ => ⟨by rintro a ⟨⟩, by rintro accept ⟨⟩⟩
  calls := by rintro x call ⟨⟩
  apart := by rintro x y k call ⟨⟩

/-- An exchange that is opened is in order. -/
theorem Consistent.openExchange (h : s.Consistent cfg now) (r : Request) :
    (s.openExchange r).Consistent cfg now where
  service := h.service
  unopened := by
    intro k hk
    have hne : k ≠ s.opened := fun heq => absurd hk (by rw [heq]; exact Nat.not_succ_le_self _)
    simp only [Delivery.openExchange, update_of_ne hne]
    exact h.unopened k (Nat.le_of_succ_le hk)
  sound := by
    intro k
    rcases eq_or_ne k s.opened with rfl | hne
    · simp only [Delivery.openExchange, update_self]
      exact ⟨by rintro a ⟨⟩, by rintro accept ⟨⟩⟩
    · simp only [Delivery.openExchange, update_of_ne hne]
      exact h.sound k
  calls := by
    intro x call hcall k hk
    obtain ⟨hopened, hreported, hcarries⟩ := h.calls x call hcall k hk
    have hsame : (s.openExchange r).exchange k = s.exchange k := update_of_ne hopened.ne _ _
    exact ⟨Nat.lt_succ_of_lt hopened, by rw [hsame]; exact hreported, by rw [hsame]; exact hcarries⟩
  apart := h.apart

/-- So is one that goes on at the receiver. -/
theorem Consistent.setStage (h : s.Consistent cfg now) {stage : Stage} (hk : k < s.opened)
    (hsound : ({ s.exchange k with stage := stage } : Exchange).Sound) :
    (s.setStage k stage).Consistent cfg now where
  service := h.service
  unopened := by
    intro j hj
    have hne : j ≠ k := fun heq => absurd hk (not_lt.mpr (heq ▸ hj))
    simp only [Delivery.setStage, update_of_ne hne]
    exact h.unopened j hj
  sound := by
    intro j
    rcases eq_or_ne j k with rfl | hne
    · simp only [Delivery.setStage, update_self]
      exact hsound
    · simp only [Delivery.setStage, update_of_ne hne]
      exact h.sound j
  calls := by
    intro x call hcall j hj
    obtain ⟨hopened, hreported, hcarries⟩ := h.calls x call hcall j hj
    rcases eq_or_ne j k with rfl | hne
    · refine ⟨hopened, ?_, fun batch hbatch => ?_⟩
      · simp only [Delivery.setStage, update_self]
        exact hreported
      · simp only [Delivery.setStage, update_self]
        exact hcarries batch hbatch
    · have hsame : (s.setStage k stage).exchange j = s.exchange j := update_of_ne hne _ _
      exact ⟨hopened, by rw [hsame]; exact hreported, by rw [hsame]; exact hcarries⟩
  apart := h.apart

/-- What the receiver does beside. -/
theorem Consistent.atReceiver (h : s.Consistent cfg now) (clock : ℕ)
    (server : Receiver.ServerState) :
    ({ s with clock := clock, server := server } : Delivery).Consistent cfg now where
  service := h.service
  unopened := h.unopened
  sound := h.sound
  calls := by
    intro x call hcall k hk
    obtain ⟨hopened, hreported, hcarries⟩ := h.calls x call hcall k hk
    exact ⟨hopened, hreported, hcarries⟩
  apart := h.apart

/-- Anything else in the service. -/
theorem Consistent.serviceStep (h : s.Consistent cfg now) {a : Service.Action}
    (ha : Service.machine.Enabled s.service a) (hother : isAttempt a = false) :
    ({ s with service := Service.machine.next s.service a } : Delivery).Consistent cfg now where
  service := h.service.step ha
  unopened := h.unopened
  sound := h.sound
  calls := by
    intro x call hcall k hk
    obtain ⟨hopened, hreported, hcarries⟩ := h.calls x call hcall k hk
    refine ⟨hopened, hreported, fun batch hbatch => ?_⟩
    rcases Service.attempting_next h.service ha hbatch with hold | hstarts
    · exact hcarries batch hold
    · exact absurd hstarts (not_starts_of_isAttempt hother)
  apart := h.apart

/-- The attempts after one of them has changed. -/
theorem mem_update {f : ℕ × ℕ → Option Attempt} {o : Option Attempt} {x y : ℕ × ℕ} {call : Attempt}
    (h : call ∈ update f x o y) : y = x ∧ o = some call ∨ y ≠ x ∧ f y = some call := by
  rcases eq_or_ne y x with rfl | hne
  · rw [update_self] at h
    exact Or.inl ⟨rfl, h⟩
  · rw [update_of_ne hne] at h
    exact Or.inr ⟨hne, h⟩

/-- An attempt that begins, where the exchange it opens is there already. -/
theorem Consistent.begin (h : s.Consistent cfg now) {i w n : ℕ}
    {contents : List (InternalTest.Transaction Time)} (call : Attempt)
    (ha : Service.machine.Enabled s.service (beginning i w contents n))
    (hnew : ∀ k ∈ call.exchange, k < s.opened ∧ (s.exchange k).reported = false ∧
      (s.exchange k).Carries (batchOf contents).length ∧
      ∀ x, ∀ call' ∈ s.attempt x, k ∉ call'.exchange) :
    ({ s with
      service := Service.machine.next s.service (beginning i w contents n)
      attempt := update s.attempt (i, w) (some call) } : Delivery).Consistent cfg now := by
  have hstarts : ∀ {i' w' : ℕ} {batch : Batch}, (beginning i w contents n).Starts i' w' batch →
      (i', w') = (i, w) ∧ batch = batchOf contents := by
    rintro i' w' batch ⟨attempt, heq⟩
    simp only [beginning, Service.Action.pipeline.injEq, Pipeline.Action.sender.injEq,
      SenderPool.Action.startAttempt.injEq] at heq
    exact ⟨Prod.ext heq.1.symm heq.2.1.symm, heq.2.2.1.symm⟩
  refine ⟨h.service.step ha, h.unopened, h.sound, fun x call' hcall k hk => ?_,
    fun x y k call' hcall call'' hcall' hk hk' => ?_⟩
  · rcases mem_update hcall with ⟨rfl, hsome⟩ | ⟨hne, hsome⟩
    · obtain rfl := Option.some.inj hsome
      obtain ⟨hopened, hreported, hcarries, -⟩ := hnew k hk
      refine ⟨hopened, hreported, fun batch hbatch => ?_⟩
      rcases Service.attempting_next h.service ha hbatch with hold | hnow
      · rw [attempting_of_beginning ha] at hold
        cases hold
      · rw [(hstarts hnow).2]
        exact hcarries
    · obtain ⟨hopened, hreported, hcarries⟩ := h.calls x call' hsome k hk
      refine ⟨hopened, hreported, fun batch hbatch => ?_⟩
      rcases Service.attempting_next h.service ha hbatch with hold | hnow
      · exact hcarries batch hold
      · exact absurd (hstarts hnow).1 hne
  · rcases mem_update hcall with ⟨rfl, hsome⟩ | ⟨hx, hsome⟩ <;>
      rcases mem_update hcall' with ⟨hy, hsome'⟩ | ⟨hy, hsome'⟩
    · exact hy.symm
    · obtain rfl := Option.some.inj hsome
      exact absurd hk' ((hnew k hk).2.2.2 y call'' hsome')
    · obtain rfl := Option.some.inj hsome'
      exact absurd hk ((hnew k hk').2.2.2 x call' hsome)
    · exact h.apart x y k call' hsome call'' hsome' hk hk'

/-- An attempt that returns. -/
theorem Consistent.finish (h : s.Consistent cfg now) {i w n : ℕ} {batch : Batch} {call : Attempt}
    {result : ClientResult} (hcall : s.attempt (i, w) = some call)
    (ha : Service.machine.Enabled s.service (ending link i w batch n call result))
    (outcome : SenderAttemptOutcome) :
    ({ s.returnDeliver i w call outcome with
      service := Service.machine.next s.service (ending link i w batch n call result) } :
        Delivery).Consistent cfg now := by
  have hattempt : ∀ x, ∀ call' ∈ (s.returnDeliver i w call outcome).attempt x,
      x ≠ (i, w) ∧ s.attempt x = some call' := by
    intro x call' hcall'
    rcases mem_update hcall' with ⟨-, hnone⟩ | hother
    · cases hnone
    · exact hother
  have hexchange : ∀ k, (s.returnDeliver i w call outcome).exchange k = s.exchange k ∨
      k ∈ call.exchange ∧ (s.returnDeliver i w call outcome).exchange k =
        { s.exchange k with reported := true } := by
    intro k
    cases outcome with
    | success =>
      cases hk : call.exchange with
      | none => exact Or.inl (by simp [returnDeliver, hk])
      | some j =>
        rcases eq_or_ne k j with rfl | hne
        · exact Or.inr ⟨rfl, by simp [returnDeliver, hk]⟩
        · exact Or.inl (by simp [returnDeliver, hk, update_of_ne hne])
    | failure => exact Or.inl rfl
    | canceled => exact Or.inl rfl
  refine ⟨h.service.step ha, fun k hk => ?_, fun k => ?_, fun x call' hcall' k hk => ?_, ?_⟩
  · rcases hexchange k with hsame | ⟨hmem, -⟩
    · rw [hsame]
      exact h.unopened k hk
    · exact absurd (h.calls (i, w) call hcall k hmem).opened (not_lt.mpr hk)
  · rcases hexchange k with hsame | ⟨-, hsame⟩
    · rw [hsame]
      exact h.sound k
    · rw [hsame]
      exact ⟨(h.sound k).counts, (h.sound k).success⟩
  · obtain ⟨hne, hcall'⟩ := hattempt x call' hcall'
    obtain ⟨hopened, hreported, hcarries⟩ := h.calls x call' hcall' k hk
    have hsame : (s.returnDeliver i w call outcome).exchange k = s.exchange k := by
      rcases hexchange k with hsame | ⟨hmem, -⟩
      · exact hsame
      · exact absurd (h.apart x (i, w) k call' hcall' call hcall hk hmem) hne
    refine ⟨hopened, ?_, fun batch' hbatch => ?_⟩
    · rw [hsame]
      exact hreported
    · rw [hsame]
      rcases Service.attempting_next h.service ha hbatch with hold | ⟨attempt, hstarts⟩
      · exact hcarries batch' hold
      · cases hstarts
  · intro x y k call' hcall' call'' hcall'' hk hk'
    exact h.apart x y k call' (hattempt x call' hcall').2 call'' (hattempt y call'' hcall'').2 hk hk'

/-- An attempt that opens an exchange. -/
theorem Consistent.beginOpened (h : s.Consistent cfg now) {i w n : ℕ}
    {contents : List (InternalTest.Transaction Time)} {json : Json}
    (ha : Service.machine.Enabled s.service (beginning i w contents n))
    (hjson : InternalTest.marshal link.writeTime contents = some json) :
    ({ s.openExchange (SenderHTTPAttempt.request link.size json fun _ => false) with
      service := Service.machine.next s.service (beginning i w contents n)
      attempt := update s.attempt (i, w) (some ⟨some json, some s.opened⟩) } :
        Delivery).Consistent cfg now := by
  refine (h.openExchange _).begin ⟨some json, some s.opened⟩ ha ?_
  rintro k ⟨⟩
  have hsame : (s.openExchange (SenderHTTPAttempt.request link.size json fun _ => false)).exchange
      s.opened = ⟨SenderHTTPAttempt.request link.size json fun _ => false, .sent, false⟩ :=
    update_self ..
  refine ⟨Nat.lt_succ_self _, ?_, ?_, fun x call' hcall' hmem => ?_⟩
  · rw [hsame]
  · rw [hsame]
    exact carries_request hjson _ _
  · exact absurd (h.calls x call' hcall' s.opened hmem).opened (lt_irrefl _)

/-- **Every step keeps the exchanges in order.** -/
theorem Consistent.next (h : s.Consistent cfg now) {a : Action Time}
    (ha : (machine link).Enabled s a) : ((machine link).next s a).Consistent cfg now := by
  cases a with
  | service a => exact h.serviceStep ha.1 ha.2
  | begin i w contents n =>
    simp only [machine, callDeliver]
    split
    · refine h.begin ⟨_, none⟩ ha ?_
      rintro k ⟨⟩
    · rename_i json hjson
      obtain ⟨hmarshal, -⟩ := Option.filter_eq_some_iff.mp hjson
      rw [hmarshal]
      exact h.beginOpened ha hmarshal
  | finish i w batch n result =>
    obtain ⟨call, hcall, -, hen⟩ := ha
    simp only [machine, Option.mem_def.mp hcall, Option.elim_some]
    exact h.finish hcall hen _
  | request r => exact h.openExchange r
  | arrive k cut doneWithin => exact h.setStage ha.1 (.handled _ _ _)
  | publish k =>
    obtain ⟨hk, hsome⟩ := ha
    obtain ⟨a, hwaiting⟩ := Option.isSome_iff_exists.mp hsome
    have haccept : (s.exchange k).stage.accept = some a := by
      cases hstage : (s.exchange k).stage <;> rw [hstage] at hwaiting <;> first
        | exact hwaiting
        | cases hwaiting
    simp only [machine, hwaiting, Option.elim_some]
    exact (h.setStage hk ((h.sound k).of_accept haccept rfl)).atReceiver _ _
  | answer k =>
    obtain ⟨hk, hsome⟩ := ha
    obtain ⟨a, hcounted⟩ := Option.isSome_iff_exists.mp hsome
    have haccept : (s.exchange k).stage.accept = some a := by
      cases hstage : (s.exchange k).stage <;> rw [hstage] at hcounted <;> first
        | exact hcounted
        | cases hcounted
    simp only [machine, hcounted, Option.elim_some]
    exact h.setStage hk ((h.sound k).of_accept haccept rfl)
  | tick nanoseconds => exact h.atReceiver _ _

/-! ### The totals -/

/-- **The exchanges as calls.** -/
def toCalls (s : Delivery) : Calls ℕ where
  call k := (s.exchange k).toCall
  opened := s.opened
  served := s.server.acceptedTransactionsTotal
  heard := s.service.credited

/-- What has been counted and no attempt has taken for a success. -/
def unreported (s : Delivery) : ℕ := Cells.total Exchange.unreported s.exchange s.opened

/-- One exchange that changes is one call that does. -/
theorem toCall_update (s : Delivery) (k : ℕ) (e : Exchange) :
    (fun j => (update s.exchange k e j).toCall) = update s.toCalls.call k e.toCall := by
  funext j
  rcases eq_or_ne j k with rfl | hne
  · rw [update_self, update_self]
  · rw [update_of_ne hne, update_of_ne hne]
    rfl

/-- A call that is what it was. -/
theorem toCall_update_of_eq {k : ℕ} {e : Exchange} (h : e.toCall = (s.exchange k).toCall) :
    (fun j => (update s.exchange k e j).toCall) = s.toCalls.call := by
  rw [toCall_update, h]
  exact update_eq_self k s.toCalls.call

/-- An exchange that is opened is a call. -/
theorem Consistent.toCalls_openExchange (h : s.Consistent cfg now) (r : Request) :
    (s.openExchange r).toCalls = Calls.machine.next s.toCalls .call := by
  obtain ⟨hstage, hreported⟩ := h.unopened s.opened le_rfl
  have hfresh : (⟨r, .sent, false⟩ : Exchange).toCall = (s.exchange s.opened).toCall := by
    rw [Exchange.toCall, Exchange.toCall, hstage, hreported]
  ext1
  · exact toCall_update_of_eq hfresh
  all_goals rfl

/-- An exchange that goes on without being counted is the same call. -/
theorem toCalls_setStage {stage : Stage} (h : stage.effect = (s.exchange k).stage.effect) :
    (s.setStage k stage).toCalls = s.toCalls := by
  ext1
  · exact toCall_update_of_eq (Fate.ext h rfl)
  all_goals rfl

/-- A service that is not credited leaves the calls as they are. -/
theorem toCalls_service {t : Service} (h : t.credited = s.service.credited) :
    ({ s with service := t } : Delivery).toCalls = s.toCalls := by
  ext1
  case heard => exact h
  all_goals rfl

/-- **An attempt that succeeds has heard of its call**, which was served with as many transactions as
are in its batch. -/
theorem Consistent.hear (h : s.Consistent cfg now) {i w n : ℕ} {batch : Batch} {call : Attempt}
    {result : ClientResult} (hcall : s.attempt (i, w) = some call) (hreturns : s.Returns call result)
    (ha : Service.machine.Enabled s.service (ending link i w batch n call result))
    (hsuccess : link.sender.deliver call.body result = .success) :
    ∃ k ∈ call.exchange, Calls.machine.Enabled s.toCalls (.hear k batch.length) := by
  obtain ⟨-, -, rfl⟩ := SenderHTTPAttempt.deliver_eq_success_iff.mp hsuccess
  obtain ⟨k, hk, hstatus⟩ := hreturns
  obtain ⟨hopened, hreported, hcarries⟩ := h.calls (i, w) call hcall k hk
  refine ⟨k, hk, hopened, ?_, hreported⟩
  change (s.exchange k).stage.effect = some batch.length
  cases hstage : (s.exchange k).stage with
  | answered status accept =>
    rw [hstage] at hstatus
    obtain rfl := Option.some.inj hstatus
    cases accept with
    | none => exact absurd rfl ((h.sound k).success none hstage)
    | some a =>
      have hcount := (h.sound k).counts a (by rw [hstage]; rfl) _
        (hcarries batch (attempting_of_ending ha))
      exact congrArg some hcount
  | _ =>
    rw [hstage] at hstatus
    cases hstatus

/-- **Seen from the totals the exchanges are calls that may be lost.** -/
theorem simulates_calls (link : Link Time) (cfg : Config) (now : ℕ) :
    (machine link).Simulates Calls.machine (·.Consistent cfg now) toCalls := by
  intro s a h ha
  cases a with
  | service a =>
    obtain ⟨hen, hother⟩ := ha
    refine ⟨[], trivial, (toCalls_service ?_).symm⟩
    rw [Service.credited_next h.service hen, succeeded_of_isAttempt hother]
    rfl
  | begin i w contents n =>
    have hcredited : (Service.machine.next s.service (beginning i w contents n)).credited =
        s.service.credited := Service.credited_next h.service ha
    simp only [machine, callDeliver]
    split
    · refine ⟨[], trivial, ?_⟩
      exact (toCalls_service hcredited).symm
    · rename_i json _
      refine ⟨[.call], ⟨trivial, trivial⟩, ?_⟩
      have hopen := h.toCalls_openExchange (SenderHTTPAttempt.request link.size json fun _ => false)
      have hservice : ({ s.openExchange (SenderHTTPAttempt.request link.size json fun _ => false) with
          service := Service.machine.next s.service (beginning i w contents n) } :
            Delivery).toCalls = (s.openExchange _).toCalls := toCalls_service hcredited
      rw [Machine.after_cons, Machine.after_nil, ← hopen]
      exact hservice.symm
  | finish i w batch n result =>
    obtain ⟨call, hcall, hreturns, hen⟩ := ha
    have hcredited := Service.credited_next h.service hen
    simp only [machine, Option.mem_def.mp hcall, Option.elim_some]
    cases houtcome : link.sender.deliver call.body result with
    | success =>
      obtain ⟨k, hk, hhear⟩ := h.hear hcall hreturns hen houtcome
      refine ⟨[.hear k batch.length], ⟨hhear, trivial⟩, ?_⟩
      have hsucceeded : (ending link i w batch n call result).succeeded = batch.length := by
        rw [ending, houtcome]
        rfl
      rw [hsucceeded] at hcredited
      have hexchange : (s.returnDeliver i w call .success).exchange =
          update s.exchange k { s.exchange k with reported := true } := by
        simp only [returnDeliver, Option.mem_def.mp hk]
      rw [Machine.after_cons, Machine.after_nil]
      ext1
      case call =>
        change update s.toCalls.call k _ =
          fun j => ((s.returnDeliver i w call .success).exchange j).toCall
        rw [hexchange, toCall_update]
        rfl
      case heard => exact hcredited.symm
      all_goals rfl
    | _ =>
      have hsucceeded : (ending link i w batch n call result).succeeded = 0 := by
        rw [ending, houtcome]
        rfl
      rw [hsucceeded] at hcredited
      refine ⟨[], trivial, ?_⟩
      exact (toCalls_service hcredited).symm
  | request r =>
    refine ⟨[.call], ⟨trivial, trivial⟩, ?_⟩
    exact (h.toCalls_openExchange r).symm
  | arrive k cut doneWithin =>
    refine ⟨[], trivial, (toCalls_setStage ?_).symm⟩
    rw [ha.2]
    cases Receiver.handleIngest link.readTime link.zeroTime link.receiver _ <;> rfl
  | publish k =>
    obtain ⟨hk, hsome⟩ := ha
    obtain ⟨a, hwaiting⟩ := Option.isSome_iff_exists.mp hsome
    have hstage : (s.exchange k).stage = .accepting a := by
      cases hstage : (s.exchange k).stage <;> rw [hstage] at hwaiting <;> first
        | rw [Option.some.inj hwaiting]
        | cases hwaiting
    refine ⟨[.serve k a.transactionCount], ⟨⟨hk, ?_⟩, trivial⟩, ?_⟩
    · change (s.exchange k).stage.effect = none
      rw [hstage]
      rfl
    · simp only [machine, hwaiting, Option.elim_some]
      rw [Machine.after_cons, Machine.after_nil]
      ext1
      case call => exact (toCall_update s k { s.exchange k with stage := .accepted a }).symm
      all_goals rfl
  | answer k =>
    obtain ⟨-, hsome⟩ := ha
    obtain ⟨a, hcounted⟩ := Option.isSome_iff_exists.mp hsome
    have hstage : (s.exchange k).stage = .accepted a := by
      cases hstage : (s.exchange k).stage <;> rw [hstage] at hcounted <;> first
        | rw [Option.some.inj hcounted]
        | cases hcounted
    simp only [machine, hcounted, Option.elim_some]
    refine ⟨[], trivial, (toCalls_setStage ?_).symm⟩
    rw [hstage]
    rfl
  | tick nanoseconds => exact ⟨[], trivial, rfl⟩

/-! ### The result -/

/-- **Delivery is at least once.** In every run of the load generator, the receiver and what is
between them – whatever requests and answers are late, cut short or lost, whatever attempts
are canceled or made again, whoever else sends batches, and whatever the event loop does to
the pools – the receiver has counted every transaction that the load generator reports. It
has counted more by those that are about to be counted there, and by the exchanges that no
attempt has taken for a success. -/
theorem delivered_at_least_once {as : List (Action Time)}
    (hrun : (machine link).Run (start cfg now) as) :
    let s := (machine link).after (start cfg now) as
    s.server.acceptedTransactionsTotal =
        s.service.prom.transactionsTotal +
          s.service.memory.terminallyCompletedTransactionsSinceTick + s.service.uncounted +
          s.unreported ∧
      s.service.prom.transactionsTotal ≤ s.server.acceptedTransactionsTotal := by
  intro s
  have hstart : (start cfg now).toCalls = Calls.start := by
    ext1
    case heard => rfl
    all_goals rfl
  have hreachable : (machine link).Reachable (start cfg now) s := ⟨as, hrun, rfl⟩
  have hconsistent : s.Consistent cfg now :=
    hreachable.invariant (fun _ _ hs ha => hs.next ha) (consistent_start cfg now)
  have hcalls : Calls.machine.Reachable Calls.start s.toCalls := by
    rw [← hstart]
    exact (simulates_calls link cfg now).reachable (fun _ _ hs ha => hs.next ha)
      (consistent_start cfg now) hreachable
  have hserved : s.server.acceptedTransactionsTotal = s.service.credited + s.unreported :=
    Calls.served_eq hcalls
  rw [Service.credited_eq hconsistent.service] at hserved
  exact ⟨hserved, by omega⟩

/-- Two programs that are configured alike; a time is kept as it is written. -/
def exampleLink : Link String where
  sender := ⟨true⟩
  writeTime time := some (.string time)
  size _ := 260
  readTime := Decoder.string
  zeroTime := ""
  receiver := ⟨⟨1024⟩, {}⟩

/-- What a sender worker does. -/
def sends (as : List SenderPool.Action) : List (Action String) :=
  as.map fun a => .service (.pipeline 0 (.sender a))

/-- A request that arrives, is counted and is answered. -/
def taken (k : ℕ) : List (Action String) := [.arrive k false fun _ => false, .publish k, .answer k]

/-- A row is read and passed on. Its first answer is lost; it is sent again, delivered, and
collected. -/
def lostAnswerRun : List (Action String) := List.flatten
  [(Service.deliveredRun.take 47).map .service,
    [.begin 0 0 [Ingest.exampleTransaction] 1], taken 0, [.finish 0 0 [⟨"c"⟩] 1 (.error false)],
    sends [.setBackoff 0 [⟨"c"⟩] 1, .setDeadline 0 [⟨"c"⟩] 1 297500000,
      .gatePassedBackoff 0 [⟨"c"⟩] 1 297500500],
    [.service (.clock 297500500)],
    sends [.deadlinePassed 0 [⟨"c"⟩] 1 297500500, .clearBackoff 0 [⟨"c"⟩] 2, .gatePassed 0 [⟨"c"⟩] 2],
    [.begin 0 0 [Ingest.exampleTransaction] 2], taken 1,
    [.finish 0 0 [⟨"c"⟩] 2 (.response 204 true)], sends [.settle 0 [⟨"c"⟩] true],
    [.service (.event (.tick 297500500)), .service .exec]]

/-- The transaction is counted twice and reported once. -/
theorem delivered_at_least_once_lostAnswerRun :
    let s := (machine exampleLink).after (start exampleConfig 0) lostAnswerRun
    s.server.acceptedTransactionsTotal = 2 ∧ s.service.prom.transactionsTotal = 1 ∧
      s.unreported = 1 := by
  have hrun : (machine exampleLink).Run (start exampleConfig 0) lostAnswerRun := by
    decide +kernel
  have hend : ∀ s, s = (machine exampleLink).after (start exampleConfig 0) lostAnswerRun →
      s.server.acceptedTransactionsTotal = 2 ∧ s.service.prom.transactionsTotal = 1 ∧
        s.service.memory.terminallyCompletedTransactionsSinceTick = 0 ∧ s.service.uncounted = 0 := by
    rintro s rfl
    decide +kernel
  have h := (delivered_at_least_once hrun).1
  generalize hs : (machine exampleLink).after (start exampleConfig 0) lostAnswerRun = s at h ⊢
  obtain ⟨haccepted, htotal, hcompleted, huncounted⟩ := hend s hs.symm
  rw [haccepted, htotal, hcompleted, huncounted] at h
  exact ⟨haccepted, htotal, by omega⟩

end Delivery

end IngestionLab
