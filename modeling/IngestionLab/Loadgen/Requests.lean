import IngestionLab.Go.Mailbox
import IngestionLab.Loadgen.EventLoop.Measured
import IngestionLab.Loadgen.EventLoop.Panel
import IngestionLab.Loadgen.HttpCommands

/-!
# The service and its clients

The model of `service.go`, `runtime_command.go` and `http_server.go` around the event loop:
every request of a client is handled by a goroutine of its own
(`IngestionLab.Incoming.handling`), which sends a command over `requests` and, but for a
pause, waits at a channel made for the answer. The event loop takes one command at a time
and answers it in the course of its program.

* `IngestionLab.Server.InTurn`: what holds in every state. The channels of the answers are
  an instance of `IngestionLab.Go.Mailbox`, and the event loop keeps to its discipline: the
  program of a command answers once.
* `IngestionLab.Server.requests_linearized`: **the clients cannot tell the service from a
  panel** on which their commands are carried out at once, one after the other, each at a
  moment between its arrival and its answer.
-/

namespace IngestionLab

open Go

/-! ### Requests -/

/-- **What comes in**: a request for the commands handler, one for the snapshot handler, or
the start that `runServe` asks for itself. -/
inductive Incoming
  | commands (request : HttpRequest)
  | snapshot (method : String)
  | runAfterStart

/-- How it is handled: `commandsHandler`, `snapshotHandler`, `runServe`. -/
def Incoming.handling (config : Config) : Incoming → Handling
  | .commands request => commandsHandler config request
  | .snapshot method =>
    if method ≠ "GET" then .respond (.methodNotAllowed "GET")
    else .execute { kind := .getRuntimeStatus }
  | .runAfterStart => .execute { kind := .run }

/-- A command on its way, and whether there is a channel for the answer. -/
structure Call where
  command : RuntimeCommand
  replies : Bool
  deriving DecidableEq, Repr

/-- The command a handler sends, if it sends one. -/
def Handling.call : Handling → Option Call
  | .respond _ => none
  | .execute command => some ⟨command, true⟩
  | .send command => some ⟨command, false⟩

/-- What a client sees: a response, or a status. -/
inductive Output
  | http (response : HttpResponse)
  | status (status : RuntimeStatus)
  deriving DecidableEq

/-- **What a handler makes of the answer**, `none` where it waits for none. -/
def Call.output (call : Call) : Option Response → Output
  | none => .http .ok
  | some (.status status) => .status status
  | some .accepted => .http (Handling.answer call.command.kind {})
  | some .rejected => .http (Handling.answer call.command.kind { rejected := true })
  | some (.failed error) => .http (Handling.answer call.command.kind { err := some error.message })

/-- There is a channel for the answer of everything but a pause. -/
def Call.Proper (call : Call) : Prop := call.replies = true ↔ call.command.kind ≠ .pause

/-- A setting of an integer is no pause. -/
theorem kind_of_setInt {kind : RuntimeCommandKind} {contains : ℤ → Bool} {message : String}
    {value : Option Json} {call : Call} (h : (setInt kind contains message value).call = some call) :
    call.replies = true ∧ call.command.kind = kind := by
  rw [setInt] at h
  split at h
  · cases h
  · split at h
    · cases h
    · obtain rfl := Option.some.inj h
      exact ⟨rfl, rfl⟩

theorem kind_of_setPresentInt {kind : RuntimeCommandKind} {contains : ℤ → Bool} {message : String}
    {value : Option Json} {call : Call}
    (h : (setPresentInt kind contains message value).call = some call) :
    call.replies = true ∧ call.command.kind = kind := by
  rw [setPresentInt.eq_def] at h
  split at h
  · cases h
  · cases h
  · exact kind_of_setInt h

/-- **The handlers wait for the answer of everything but a pause.** -/
theorem proper_of_handleAction {config : Config} {cr : CommandRequest} {call : Call}
    (h : (handleAction config cr).call = some call) : call.Proper := by
  have hset : ∀ {kind : RuntimeCommandKind}, kind ≠ .pause →
      call.replies = true ∧ call.command.kind = kind → call.Proper := by
    rintro kind hkind ⟨hreplies, rfl⟩
    exact iff_of_true hreplies hkind
  unfold handleAction at h
  split at h
  case h_1 => exact Option.some.inj h ▸ iff_of_true rfl (by rintro ⟨⟩)
  case h_2 => exact Option.some.inj h ▸ iff_of_false Bool.false_ne_true (not_not.mpr rfl)
  case h_3 => exact Option.some.inj h ▸ iff_of_true rfl (by rintro ⟨⟩)
  case h_4 => exact hset (by rintro ⟨⟩) (kind_of_setInt h)
  case h_9 =>
    split at h
    · split at h
      · cases h
      · exact Option.some.inj h ▸ iff_of_true rfl (by rintro ⟨⟩)
    · cases h
  case h_11 => cases h
  all_goals exact hset (by rintro ⟨⟩) (kind_of_setPresentInt h)

theorem proper_of_handling {config : Config} {incoming : Incoming} {call : Call}
    (h : (incoming.handling config).call = some call) : call.Proper := by
  cases incoming with
  | runAfterStart => exact Option.some.inj h ▸ iff_of_true rfl (by rintro ⟨⟩)
  | snapshot method =>
    rw [Incoming.handling] at h
    split at h
    · cases h
    · exact Option.some.inj h ▸ iff_of_true rfl (by rintro ⟨⟩)
  | commands request =>
    rw [Incoming.handling, commandsHandler] at h
    split at h
    · cases h
    · split at h
      · split at h
        · cases h
        · split at h
          · split at h
            · cases h
            · split at h
              · cases h
              · exact proper_of_handleAction h
          · exact proper_of_handleAction h
      · cases h

/-! ### The machine -/

/-- What has happened to the panel: a command was taken, from a client, or a run that was
under way met an error of its source. -/
inductive Moment
  | command (k : ℕ) (call : Call) (glob : Except String (List Path))
  | sourceError (error : ReaderSourceError)

/-- The event that was taken. -/
def Moment.event : Moment → Service.Event
  | .command _ call glob => .command (call.command.toCommand glob)
  | .sourceError error => .sourceError error

/-- The request that was taken. -/
def Moment.request : Moment → Option (ℕ × Call)
  | .command k call _ => some (k, call)
  | .sourceError _ => none

/-- **The service with its clients.** The last field only observes what has happened to the
panel. -/
structure Server where
  service : Service
  mail : Mailbox Call Response
  moments : List Moment

namespace Server

/-- The panel after some moments. -/
def panelAfter (config : Config) (moments : List Moment) : Panel :=
  moments.foldl (fun p x => p.event config x.event) (newService config 0).panel

/-- `runServe`: the channel `requests` has ten places. -/
def start (config : Config) (now : ℕ) : Server where
  service := newService config now
  mail := { queue := Chan.make 10 }
  moments := []

/-- What the next statement of the event loop answers. -/
def reply (s : Service) : List Response := s.todo.head?.toList.flatMap s.answer

/-- **What may happen next**: something comes in, a handler sends its command or receives
the answer, the event loop takes a command, or anything else happens in the service. -/
inductive Action
  | arrive (k : ℕ) (incoming : Incoming)
  | send (k : ℕ) (call : Call)
  | take (k : ℕ) (call : Call) (glob : Except String (List Path))
  | receive (k : ℕ) (call : Call) (response : Response)
  | service (a : Service.Action)

/-- The mailbox with its discipline. -/
abbrev mailbox : Machine (Mailbox Call Response) (Mailbox.Action Call Response) :=
  Mailbox.machine Call.replies

/-- What may happen in the service, beside the taking of commands: nobody closes the channel
of the requests, and an answer is sent when its channel has room. -/
def Allows (s : Server) : Service.Action → Prop
  | .event (.command _) => False
  | .event .requestsClosed => s.mail.queue.Allows .closed
  | .exec => ∀ r ∈ reply s.service, s.mail.AllowsReply Call.replies r
  | _ => True

/-- What happened to the panel where something happens in the service. -/
def momentOf : Service.Action → List Moment
  | .event (.sourceError error) => [.sourceError error]
  | _ => []

/-- The answers that are sent where something happens in the service. -/
def repliesOf (s : Service) : Service.Action → List Response
  | .exec => reply s
  | _ => []

/-- **The service with its clients as a machine.** A request that is answered at once is
nobody else's business, and does not come in. -/
def machine (config : Config) : Machine Server Action where
  Enabled s
    | .arrive k incoming => s.mail.client k = .ready ∧ (incoming.handling config).call.isSome
    | .send k call => mailbox.Enabled s.mail (.send k call)
    | .take k call glob => s.mail.queue.Allows (.receive (k, call)) ∧
        Service.machine.Enabled s.service (.event (.command (call.command.toCommand glob)))
    | .receive k call response => mailbox.Enabled s.mail (.receive k call response)
    | .service a => Service.machine.Enabled s.service a ∧ s.Allows a
  next s
    | .arrive k incoming => { s with
        mail := ((incoming.handling config).call.map fun call =>
          mailbox.next s.mail (.call k call)).getD s.mail }
    | .send k call => { s with mail := mailbox.next s.mail (.send k call) }
    | .take k call glob =>
        { service := Service.machine.next s.service (.event (.command (call.command.toCommand glob)))
          mail := mailbox.next s.mail (.take (k, call))
          moments := s.moments ++ [.command k call glob] }
    | .receive k call response => { s with mail := mailbox.next s.mail (.receive k call response) }
    | .service a =>
        { service := Service.machine.next s.service a
          mail := (repliesOf s.service a).foldl (Mailbox.reply Call.replies) s.mail
          moments := s.moments ++ momentOf a }

instance (s : Server) : ∀ a, Decidable (s.Allows a)
  | .event (.command _) => .isFalse id
  | .event .requestsClosed => inferInstanceAs (Decidable (s.mail.queue.Allows .closed))
  | .exec => List.decidableBAll _ (reply s.service)
  | .event .done | .event (.sourceError _) | .event (.tick _) => .isTrue trivial
  | .clock _ | .cancelRoot | .pipeline _ _ => .isTrue trivial

instance (config : Config) (s : Server) (a : Action) : Decidable ((machine config).Enabled s a) := by
  cases a <;> dsimp only [machine] <;> infer_instance

/-- What a client has seen. -/
def output (s : Server) (k : ℕ) : Option Output :=
  match s.mail.client k with
  | .finished call r => some (call.output r)
  | _ => none

variable {s t : Server} {cfg : Config} {now : ℕ} {a : Action} {as : List Action}

/-! ### Answers and events -/

/-- **A command was answered as the panel answered it** at the moment it was taken. -/
def AnsweredAt (cfg : Config) (moments : List Moment) (k : ℕ) (call : Call) (r : Response) : Prop :=
  ∃ before glob after, moments = before ++ .command k call glob :: after ∧
    (panelAfter cfg before).Answers cfg (call.command.toCommand glob) r

theorem AnsweredAt.append {moments : List Moment} {k : ℕ} {call : Call} {r : Response}
    (h : AnsweredAt cfg moments k call r) (later : List Moment) :
    AnsweredAt cfg (moments ++ later) k call r := by
  obtain ⟨before, glob, after, rfl, hanswers⟩ := h
  exact ⟨before, glob, after ++ later, by simp, hanswers⟩

/-- The command of a call is a pause exactly if its kind is. -/
theorem toCommand_eq_pause {command : RuntimeCommand} {glob : Except String (List Path)} :
    command.toCommand glob = .pause ↔ command.kind = .pause := by
  obtain ⟨kind, value, installed⟩ := command
  cases kind <;> simp [RuntimeCommand.toCommand]

/-- A reply is the first that is left. -/
theorem replies_of_exec {st : Stmt} {rest : List Stmt} {u : Service} (htodo : u.todo = st :: rest) :
    st.isReply = false ∧ reply u = [] ∧ Service.replies u.todo = Service.replies rest ∨
      st.isReply = true ∧ (∃ r, reply u = [r] ∧ u.answer st = [r]) ∧
        Service.replies u.todo = st :: Service.replies rest := by
  have hreply : reply u = u.answer st := by
    rw [reply, htodo]
    exact List.append_nil _
  rw [hreply, htodo]
  cases hst : st.isReply with
  | false =>
    exact Or.inl ⟨rfl, Service.answer_of_not_isReply hst, List.filter_cons_of_neg (by rw [hst]; decide)⟩
  | true =>
    refine Or.inr ⟨rfl, ?_, List.filter_cons_of_pos hst⟩
    cases st <;> first | exact ⟨_, rfl, rfl⟩ | cases hst

/-- The configuration stays what it is. -/
theorem config_next {u : Service} {a : Service.Action} (ha : Service.machine.Enabled u a) :
    (Service.machine.next u a).control.config = u.control.config := by
  cases a with
  | clock now => rfl
  | cancelRoot => rfl
  | pipeline run a => rfl
  | event e =>
    cases e with
    | sourceError error =>
      exact congrArg ControlState.config (Service.onPipeline_control ..)
    | _ => rfl
  | exec =>
    obtain ⟨st, hst, -⟩ := ha
    obtain ⟨rest, htodo⟩ := List.head?_eq_some_iff.mp hst
    simp only [Service.machine, htodo]
    exact Service.config_exec u st

/-! ### The invariant -/

/-- **The event loop serves its clients in turn.** -/
structure InTurn (cfg : Config) (s : Server) : Prop where
  config : s.service.control.config = cfg
  /-- The channels are in order. -/
  mail : s.mail.InOrder Call.replies
  /-- Everything but a pause waits for an answer. -/
  sending : ∀ k call, s.mail.client k = .sending call → call.Proper
  sent : ∀ x ∈ s.mail.sent, x.2.Proper
  /-- The commands taken are those the panel has seen. -/
  taken : s.moments.filterMap Moment.request = s.mail.taken
  /-- The panel is the one these moments lead to, once the program has been executed. -/
  settled : s.service.settled = panelAfter cfg s.moments
  /-- The program answers as often as there is an answer to come. -/
  left : (Service.replies s.service.todo).length = s.mail.left
  /-- The answer to come is that of the panel. -/
  current : s.mail.left ≠ 0 → ∃ before k call glob, s.moments = before ++ [.command k call glob] ∧
    s.mail.serving = some (k, call) ∧
    Service.Awaits cfg (panelAfter cfg before) (call.command.toCommand glob) s.service
  /-- Every answer given was. -/
  given : ∀ x r, (x, r) ∈ s.mail.given → AnsweredAt cfg s.moments x.1 x.2 r

theorem inTurn_start (cfg : Config) (now : ℕ) : (start cfg now).InTurn cfg where
  config := rfl
  mail := Mailbox.inOrder_make 10
  sending _ _ h := by cases h
  sent _ h := absurd h List.not_mem_nil
  taken := rfl
  settled := rfl
  left := rfl
  current h := absurd rfl h
  given _ _ h := absurd h List.not_mem_nil

/-- **The event loop never waits for a client.** -/
theorem InTurn.allows_exec (h : s.InTurn cfg) (ha : Service.machine.Enabled s.service .exec) :
    s.Allows .exec := by
  intro r hr
  obtain ⟨st, hst, -⟩ := ha
  obtain ⟨rest, htodo⟩ := List.head?_eq_some_iff.mp hst
  rcases replies_of_exec htodo with ⟨-, hnone, -⟩ | ⟨-, -, hreplies⟩
  · rw [hnone] at hr
    cases hr
  · refine h.mail.allowsReply ?_ r
    rw [← h.left, hreplies]
    exact Nat.succ_ne_zero _

/-- What the clients do by themselves. -/
theorem InTurn.ofMail (h : s.InTurn cfg) {m : Mailbox Call Response} (hm : m.InOrder Call.replies)
    (hsending : ∀ k call, m.client k = .sending call → call.Proper)
    (hsent : ∀ x ∈ m.sent, x.2.Proper) (htaken : m.taken = s.mail.taken) (hleft : m.left = s.mail.left)
    (hserving : m.serving = s.mail.serving) (hgiven : m.given = s.mail.given) :
    ({ s with mail := m } : Server).InTurn cfg where
  config := h.config
  mail := hm
  sending := hsending
  sent := hsent
  taken := h.taken.trans htaken.symm
  settled := h.settled
  left := h.left.trans hleft.symm
  current hne := by
    obtain ⟨before, k, call, glob, hmoments, hserved, hawaits⟩ := h.current (hleft ▸ hne)
    exact ⟨before, k, call, glob, hmoments, hserving.trans hserved, hawaits⟩
  given x r hx := h.given x r (hgiven ▸ hx)

/-- Something comes in. -/
theorem InTurn.arrive (h : s.InTurn cfg) {k : ℕ} {incoming : Incoming}
    (ha : (machine cfg).Enabled s (.arrive k incoming)) :
    ((machine cfg).next s (.arrive k incoming)).InTurn cfg := by
  obtain ⟨hready, hsome⟩ := ha
  obtain ⟨call, hcall⟩ := Option.isSome_iff_exists.mp hsome
  have hproper := proper_of_handling hcall
  simp only [machine, hcall, Option.map_some, Option.getD_some]
  refine h.ofMail (h.mail.call hready) (fun k' call' hk' => ?_) h.sent rfl rfl rfl rfl
  by_cases hk : k' = k
  · subst hk
    simp only [Mailbox.machine, Function.update_self] at hk'
    exact Client.sending.inj hk' ▸ hproper
  · simp only [Mailbox.machine, Function.update_of_ne hk] at hk'
    exact h.sending k' call' hk'

/-- A handler sends its command. -/
theorem InTurn.send (h : s.InTurn cfg) {k : ℕ} {call : Call}
    (ha : (machine cfg).Enabled s (.send k call)) :
    ((machine cfg).next s (.send k call)).InTurn cfg := by
  refine h.ofMail (h.mail.next ha) (fun k' call' hk' => ?_) (fun x hx => ?_) rfl rfl rfl rfl
  · by_cases hk : k' = k
    · subst hk
      simp only [Mailbox.machine, Function.update_self] at hk'
      split at hk' <;> cases hk'
    · simp only [Mailbox.machine, Function.update_of_ne hk] at hk'
      exact h.sending k' call' hk'
  · rcases List.mem_append.mp hx with hold | hnew
    · exact h.sent x hold
    · rw [List.mem_singleton.mp hnew]
      exact h.sending k call ha.1

/-- A handler receives its answer. -/
theorem InTurn.receive (h : s.InTurn cfg) {k : ℕ} {call : Call} {r : Response}
    (ha : (machine cfg).Enabled s (.receive k call r)) :
    ((machine cfg).next s (.receive k call r)).InTurn cfg := by
  refine h.ofMail (h.mail.next ha) (fun k' call' hk' => ?_) h.sent rfl rfl rfl rfl
  by_cases hk : k' = k
  · subst hk
    simp only [Mailbox.machine, Function.update_self] at hk'
    cases hk'
  · simp only [Mailbox.machine, Function.update_of_ne hk] at hk'
    exact h.sending k' call' hk'

/-- **The event loop takes a command.** -/
theorem InTurn.take (h : s.InTurn cfg) {k : ℕ} {call : Call} {glob : Except String (List Path)}
    (ha : (machine cfg).Enabled s (.take k call glob)) :
    ((machine cfg).next s (.take k call glob)).InTurn cfg := by
  obtain ⟨hallows, htodo, hexited, -⟩ := ha
  have hleft : s.mail.left = 0 := by
    rw [← h.left, htodo]
    rfl
  have hmem : (k, call) ∈ s.mail.sent := by
    rw [← h.mail.fifo]
    exact List.mem_append_right _ (List.mem_of_mem_head? hallows)
  have hproper := h.sent _ hmem
  have hpanel : s.service.panel = panelAfter cfg s.moments := by
    rw [← h.settled, Service.settled_of_todo htodo]
  -- a pause is not answered, everything else once
  have hawaits : call.replies = true → Service.Awaits cfg (panelAfter cfg s.moments)
      (call.command.toCommand glob) (s.service.take (.command (call.command.toCommand glob))) := by
    intro hreplies
    have hne : call.command.toCommand glob ≠ .pause :=
      toCommand_eq_pause.not.mpr (hproper.mp hreplies)
    have hone := Service.awaits_take s.service hne
    rwa [h.config, hpanel] at hone
  refine
    { config := h.config
      mail := h.mail.take hleft hallows
      sending := h.sending
      sent := h.sent
      taken := ?_
      settled := ?_
      left := ?_
      current := fun hne => ?_
      given := fun x r hx => (h.given x r hx).append _ }
  · change (s.moments ++ [Moment.command k call glob]).filterMap Moment.request =
      s.mail.taken ++ [(k, call)]
    rw [List.filterMap_append, h.taken]
    rfl
  · change (s.service.take (.command (call.command.toCommand glob))).settled =
      panelAfter cfg (s.moments ++ [Moment.command k call glob])
    rw [Service.settled_take, panelAfter, List.foldl_append, h.config, hpanel]
    rfl
  · change (Service.replies (s.service.take _).todo).length = if call.replies then 1 else 0
    cases hreplies : call.replies with
    | true =>
      cases hawaits hreplies with
      | status command panel stays hone =>
        rw [hone]
        rfl
      | receipt r command receipt hone =>
        rw [hone]
        rfl
    | false =>
      have hpause : call.command.kind = .pause := by
        by_contra hne
        exact absurd (hproper.mpr hne) (by rw [hreplies]; decide)
      have hnone := Service.replies_program s.service (e := .command (call.command.toCommand glob))
        fun c hc => Service.Event.command.inj hc ▸ toCommand_eq_pause.mpr hpause
      exact congrArg List.length hnone
  · have hreplies : call.replies = true := by
      by_contra hnot
      exact hne (by simp [machine, Mailbox.machine, hnot])
    exact ⟨s.moments, k, call, glob, rfl, rfl, hawaits hreplies⟩

/-- **Any other event.** -/
theorem InTurn.event (h : s.InTurn cfg) {e : Service.Event}
    (ha : (machine cfg).Enabled s (.service (.event e))) :
    ((machine cfg).next s (.service (.event e))).InTurn cfg := by
  obtain ⟨hen, hallows⟩ := ha
  have hconfig := (config_next hen).trans h.config
  obtain ⟨htodo, -, -⟩ := hen
  have hcommand : ∀ c, e ≠ .command c := by
    rintro c rfl
    exact hallows
  have hleft : s.mail.left = 0 := by
    rw [← h.left, htodo]
    rfl
  have hsettled := Service.settled_take s.service e
  rw [h.config, ← Service.settled_of_todo htodo, h.settled] at hsettled
  refine
    { config := hconfig
      mail := h.mail
      sending := h.sending
      sent := h.sent
      taken := ?_
      settled := ?_
      left := ?_
      current := fun hne => absurd hleft hne
      given := fun x r hx => (h.given x r hx).append _ }
  · change (s.moments ++ momentOf (.event e)).filterMap Moment.request = s.mail.taken
    rw [List.filterMap_append, h.taken]
    cases e with
    | command c => exact absurd rfl (hcommand c)
    | _ => exact List.append_nil _
  · change (s.service.take e).settled = panelAfter cfg (s.moments ++ momentOf (.event e))
    rw [hsettled, panelAfter, panelAfter, List.foldl_append]
    cases e with
    | command c => exact absurd rfl (hcommand c)
    | _ => rfl
  · change (Service.replies (s.service.program e)).length = s.mail.left
    rw [hleft, Service.replies_program s.service fun c hc => absurd hc (hcommand c)]
    rfl

/-- A step of the service that takes no event and answers nothing. -/
theorem InTurn.silent (h : s.InTurn cfg) {a : Service.Action}
    (ha : Service.machine.Enabled s.service a) (hevent : ∀ e, a ≠ .event e)
    (hreply : a = .exec → ∀ st ∈ s.service.todo.head?, st.isReply = false) :
    ({ s with service := Service.machine.next s.service a } : Server).InTurn cfg := by
  have hreplies : Service.replies (Service.machine.next s.service a).todo =
      Service.replies s.service.todo := by
    cases a with
    | event e => exact absurd rfl (hevent e)
    | exec =>
      obtain ⟨st, hst, -⟩ := ha
      obtain ⟨rest, htodo⟩ := List.head?_eq_some_iff.mp hst
      rcases replies_of_exec htodo with ⟨-, -, hnone⟩ | ⟨hone, -, -⟩
      · simp only [Service.machine, htodo] at hnone ⊢
        exact hnone.symm
      · exact absurd (hreply rfl st hst) (by rw [hone]; decide)
    | _ => rfl
  exact
    { config := (config_next ha).trans h.config
      mail := h.mail
      sending := h.sending
      sent := h.sent
      taken := h.taken
      settled := (Service.settled_next ha hevent).trans h.settled
      left := (congrArg List.length hreplies).trans h.left
      current := fun hne => by
        obtain ⟨before, k, call, glob, hmoments, hserving, hawaits⟩ := h.current hne
        exact ⟨before, k, call, glob, hmoments, hserving, hawaits.next ha hevent hreply⟩
      given := h.given }

/-- **The event loop answers.** -/
theorem InTurn.answer (h : s.InTurn cfg) {st : Stmt} {rest : List Stmt} {r : Response}
    (htodo : s.service.todo = st :: rest) (ha : Service.machine.Enabled s.service .exec)
    (hallows : s.mail.AllowsReply Call.replies r) (hanswer : s.service.answer st = [r])
    (hreplies : Service.replies s.service.todo = st :: Service.replies rest) :
    ({ s with
      service := Service.machine.next s.service .exec
      mail := s.mail.reply Call.replies r } : Server).InTurn cfg := by
  have hlength := h.left
  rw [hreplies, List.length_cons] at hlength
  have hne : s.mail.left ≠ 0 := by omega
  obtain ⟨before, k, call, glob, hmoments, hserving, hawaits⟩ := h.current hne
  have hleft : s.mail.left = 1 := (h.mail.served hne hserving).2.2.2.2
  have hreply : (s.mail.reply Call.replies r).client = s.mail.client ∧
      (s.mail.reply Call.replies r).sent = s.mail.sent ∧
      (s.mail.reply Call.replies r).taken = s.mail.taken ∧
      (s.mail.reply Call.replies r).left = 0 ∧
      (s.mail.reply Call.replies r).given = s.mail.given ++ [((k, call), r)] := by
    simp [Mailbox.reply, hserving, hleft]
  obtain ⟨hclient, hsent, htaken, hdone, hgiven⟩ := hreply
  refine
    { config := (config_next ha).trans h.config
      mail := h.mail.reply (Nat.pos_of_ne_zero hne) hallows
      sending := hclient ▸ h.sending
      sent := hsent ▸ h.sent
      taken := h.taken.trans htaken.symm
      settled := (Service.settled_next ha (by rintro e ⟨⟩)).trans h.settled
      left := ?_
      current := fun hne' => absurd hdone hne'
      given := fun x r' hx => ?_ }
  · have hnone : Service.replies rest = [] := List.eq_nil_of_length_eq_zero (by omega)
    change (Service.replies (Service.machine.next s.service .exec).todo).length = _
    rw [hdone]
    simp only [Service.machine, htodo]
    rw [hnone]
    rfl
  · rcases List.mem_append.mp (hgiven ▸ hx) with hold | hnew
    · exact h.given x r' hold
    · obtain ⟨rfl, rfl⟩ := Prod.mk.inj (List.mem_singleton.mp hnew)
      exact ⟨before, glob, [], hmoments, hawaits.answers htodo hanswer⟩

/-- **Anything else that happens in the service.** -/
theorem InTurn.service (h : s.InTurn cfg) {a : Service.Action}
    (ha : (machine cfg).Enabled s (.service a)) : ((machine cfg).next s (.service a)).InTurn cfg := by
  cases a with
  | event e => exact h.event ha
  | exec =>
    obtain ⟨hen, hallows⟩ := ha
    obtain ⟨st, hst, -⟩ := id hen
    obtain ⟨rest, htodo⟩ := List.head?_eq_some_iff.mp hst
    rcases replies_of_exec htodo with ⟨hnone, hreply, -⟩ | ⟨-, ⟨r, hreply, hanswer⟩, hreplies⟩
    · have hsilent := h.silent hen (by rintro e ⟨⟩) fun _ st' hst' =>
        Option.mem_unique hst hst' ▸ hnone
      simpa only [machine, repliesOf, hreply, List.foldl_nil, momentOf, List.append_nil] using hsilent
    · have hmem : r ∈ reply s.service := by
        rw [hreply]
        exact List.mem_singleton_self r
      have hanswered := h.answer htodo hen (hallows r hmem) hanswer hreplies
      simpa only [machine, repliesOf, hreply, List.foldl_cons, List.foldl_nil, momentOf,
        List.append_nil] using hanswered
  | clock now =>
    have hsilent := h.silent ha.1 (by rintro e ⟨⟩) (by rintro ⟨⟩)
    simpa only [machine, repliesOf, List.foldl_nil, momentOf, List.append_nil] using hsilent
  | cancelRoot =>
    have hsilent := h.silent ha.1 (by rintro e ⟨⟩) (by rintro ⟨⟩)
    simpa only [machine, repliesOf, List.foldl_nil, momentOf, List.append_nil] using hsilent
  | pipeline run b =>
    have hsilent := h.silent ha.1 (by rintro e ⟨⟩) (by rintro ⟨⟩)
    simpa only [machine, repliesOf, List.foldl_nil, momentOf, List.append_nil] using hsilent

/-- **Whatever happens, the clients are served in turn.** -/
theorem InTurn.next (h : s.InTurn cfg) (ha : (machine cfg).Enabled s a) :
    ((machine cfg).next s a).InTurn cfg := by
  cases a with
  | arrive k incoming => exact h.arrive ha
  | send k call => exact h.send ha
  | take k call glob => exact h.take ha
  | receive k call r => exact h.receive ha
  | service a => exact h.service ha

/-- **In every state the clients are served in turn.** -/
theorem inTurn_of_run (hrun : (machine cfg).Run (start cfg now) as) :
    ((machine cfg).after (start cfg now) as).InTurn cfg :=
  Machine.invariant_of_run (fun _ _ h ha => h.next ha) (inTurn_start cfg now) hrun

/-- **What a client has seen** is what the panel answered, or that a pause has been sent. -/
theorem InTurn.of_output (h : s.InTurn cfg) {k : ℕ} {o : Output} (ho : s.output k = some o) :
    ∃ call, (k, call) ∈ s.mail.sent ∧ (call.command.kind = .pause ∧ o = .http .ok ∨
      ∃ r, o = call.output (some r) ∧ AnsweredAt cfg s.moments k call r) := by
  have hknown := h.mail.known k
  rw [output] at ho
  split at ho
  next call r hclient =>
    rw [hclient] at hknown
    obtain rfl := Option.some.inj ho
    refine ⟨call, hknown.1, ?_⟩
    cases r with
    | none =>
      refine Or.inl ⟨?_, rfl⟩
      by_contra hne
      exact absurd (hknown.2.trans ((h.sent _ hknown.1).mpr hne)) (by decide)
    | some r => exact Or.inr ⟨r, rfl, h.given _ _ (h.mail.mem_given hclient)⟩
  · cases ho

/-! ### Later states -/

/-- What has happened has happened. -/
theorem isPrefix_moments (s : Server) (as : List Action) :
    s.moments <+: ((machine cfg).after s as).moments := by
  induction as generalizing s with
  | nil => exact List.prefix_rfl
  | cons a as ih =>
    refine List.IsPrefix.trans ?_ (ih ((machine cfg).next s a))
    cases a with
    | take k call glob => exact List.prefix_append _ _
    | service a => exact List.prefix_append _ _
    | _ => exact List.prefix_rfl

/-- **Once the event loop has left, nothing is answered any more.** -/
theorem given_of_exited (htodo : s.service.todo = []) (hexited : s.service.exited = true)
    (hrun : (machine cfg).Run s as) :
    ((machine cfg).after s as).mail.given = s.mail.given ∧
      ((machine cfg).after s as).moments = s.moments := by
  have hkeep := Machine.invariant_of_run (m := machine cfg)
    (I := fun t => t.service.todo = [] ∧ t.service.exited = true ∧ t.mail.given = s.mail.given ∧
      t.moments = s.moments) ?_ ⟨htodo, hexited, rfl, rfl⟩ hrun
  · exact hkeep.2.2
  · rintro t a ⟨htodo, hexited, hgiven, hmoments⟩ ha
    cases a with
    | arrive k incoming =>
      refine ⟨htodo, hexited, Eq.trans ?_ hgiven, hmoments⟩
      simp only [machine]
      cases (incoming.handling cfg).call <;> rfl
    | send k call => exact ⟨htodo, hexited, hgiven, hmoments⟩
    | receive k call r => exact ⟨htodo, hexited, hgiven, hmoments⟩
    | take k call glob =>
      obtain ⟨-, -, hnot, -⟩ := ha
      rw [hexited] at hnot
      cases hnot
    | service a =>
      obtain ⟨hen, -⟩ := ha
      cases a with
      | event e =>
        obtain ⟨-, hnot, -⟩ := hen
        rw [hexited] at hnot
        cases hnot
      | exec =>
        obtain ⟨st, hst, -⟩ := hen
        rw [htodo] at hst
        cases hst
      | _ => exact ⟨htodo, hexited, hgiven, (List.append_nil _).trans hmoments⟩

/-- **The clients cannot tell the service from a panel** on which their commands are carried
out at once. In every state of the service, whatever the clients, the event loop and the
goroutines of the pipelines have done so far and in whatever order:

* what a client has seen is the answer of the panel as it was when its command was taken, or
  that a pause has been sent;
* each client sends one command, and before it has, none is taken for it; commands are taken
  in the order they were sent, answered in the order they were taken, and none twice;
* a client that waits is in one of three places: its command is in the channel, or it is the
  one that is being carried out, or the answer is there;
* whenever the event loop waits for its next event, the panel is the one that the commands
  taken and the errors of the source have led to;
* the event loop never has to wait for a client;
* what has happened by now precedes whatever happens later;
* and when the event loop has left, nothing is answered any more. -/
theorem requests_linearized (hrun : (machine cfg).Run (start cfg now) as) :
    let s := (machine cfg).after (start cfg now) as
    (∀ k o, s.output k = some o → ∃ call, (k, call) ∈ s.mail.sent ∧
      (call.command.kind = .pause ∧ o = .http .ok ∨
        ∃ r, o = call.output (some r) ∧ AnsweredAt cfg s.moments k call r)) ∧
    ((s.mail.sent.map Prod.fst).Nodup ∧
      (∀ k, (s.mail.client k = .ready ∨ ∃ call, s.mail.client k = .sending call) →
        ∀ x ∈ s.moments.filterMap Moment.request, x.1 ≠ k) ∧
      s.moments.filterMap Moment.request ++ s.mail.queue.buffer = s.mail.sent ∧
      s.mail.given.map Prod.fst <+: s.mail.sent.filter fun x => x.2.replies) ∧
    (∀ k call, s.mail.client k = .waiting call →
      (k, call) ∈ s.mail.queue.buffer ∨ s.mail.serving = some (k, call) ∧
        (Service.replies s.service.todo).length = 1 ∨
        ∃ r, (s.mail.slot k).buffer = [r] ∧ AnsweredAt cfg s.moments k call r) ∧
    (s.service.todo = [] → s.service.panel = panelAfter cfg s.moments) ∧
    (Service.machine.Enabled s.service .exec → (machine cfg).Enabled s (.service .exec)) ∧
    (∀ bs, (machine cfg).Run s bs → s.moments <+: ((machine cfg).after s bs).moments) ∧
    (s.service.todo = [] → s.service.exited = true → ∀ bs, (machine cfg).Run s bs →
      ((machine cfg).after s bs).mail.given = s.mail.given) := by
  intro s
  have h : s.InTurn cfg := inTurn_of_run hrun
  refine ⟨fun k o ho => h.of_output ho, ⟨h.mail.once, fun k hk x hx => ?_, ?_, ?_⟩,
    fun k call hk => ?_, fun htodo => ?_, fun hen => ⟨hen, h.allows_exec hen⟩,
    fun bs _ => isPrefix_moments s bs, fun htodo hexited bs hbs =>
      (given_of_exited htodo hexited hbs).1⟩
  · rintro rfl
    have hsent : x ∈ s.mail.sent := by
      rw [← h.mail.fifo, ← h.taken]
      exact List.mem_append_left _ hx
    have hknown := h.mail.known x.1
    rcases hk with hready | ⟨call, hsending⟩
    · rw [hready] at hknown
      exact hknown.1 (List.mem_map_of_mem hsent)
    · rw [hsending] at hknown
      exact hknown.1 (List.mem_map_of_mem hsent)
  · rw [h.taken]
    exact h.mail.fifo
  · rw [← h.mail.fifo, List.filter_append, ← h.mail.turn, List.append_assoc]
    exact List.prefix_append _ _
  · rcases h.mail.of_waiting hk with hqueued | ⟨hserving, hleft⟩ | ⟨r, hslot, hmem⟩
    · exact Or.inl hqueued
    · exact Or.inr (Or.inl ⟨hserving, h.left.trans hleft⟩)
    · exact Or.inr (Or.inr ⟨r, hslot, h.given _ _ hmem⟩)
  · rw [← Service.settled_of_todo htodo, h.settled]

/-- Three clients at a time: the first sets the number of sender workers, the second resets
and is first to send, and the third asks for the status while the reset is carried out. -/
def threeClientsRun : List Action :=
  let resetCall : Call := ⟨{ kind := .reset }, true⟩
  let workersCall : Call := ⟨{ kind := .setSenderWorkers, value := 4 }, true⟩
  let statusCall : Call := ⟨{ kind := .getRuntimeStatus }, true⟩
  [.arrive 0 (.commands ⟨"POST", some ⟨[.object
      [("action", .string "set-sender-workers"), ("value", .int 4)]], true⟩⟩),
    .arrive 1 (.commands ⟨"POST", some ⟨[.object [("action", .string "reset")]], true⟩⟩),
    .arrive 2 (.snapshot "GET"), .send 1 resetCall, .send 0 workersCall,
    .take 1 resetCall (.ok [])] ++ List.replicate 4 (.service .exec) ++ [.send 2 statusCall] ++
  List.replicate 4 (.service .exec) ++ [.take 0 workersCall (.ok [])] ++
  List.replicate 4 (.service .exec) ++ [.receive 0 workersCall .accepted, .take 2 statusCall (.ok [])] ++
  List.replicate 7 (.service .exec)

/-- The first has seen the answer of the panel, and that of the third is there. -/
theorem requests_linearized_threeClientsRun :
    let s := (machine exampleConfig).after (start exampleConfig 0) threeClientsRun
    s.output 0 = some (.http .ok) ∧
      (∃ call r, (0, call) ∈ s.mail.sent ∧ Output.http .ok = call.output (some r) ∧
        AnsweredAt exampleConfig s.moments 0 call r) ∧
      (s.moments.filterMap Moment.request).map Prod.fst = [1, 0, 2] ∧
      s.moments.filterMap Moment.request ++ s.mail.queue.buffer = s.mail.sent ∧
      (∃ r, (s.mail.slot 2).buffer = [r] ∧
        AnsweredAt exampleConfig s.moments 2 ⟨{ kind := .getRuntimeStatus }, true⟩ r) ∧
      s.service.panel = panelAfter exampleConfig s.moments := by
  intro s
  have hrun : (machine exampleConfig).Run (start exampleConfig 0) threeClientsRun := by
    decide +kernel
  have hseen : s.output 0 = some (.http .ok) := by decide +kernel
  have hwaiting : s.mail.client 2 = .waiting ⟨{ kind := .getRuntimeStatus }, true⟩ := by
    decide +kernel
  have hqueue : s.mail.queue.buffer = [] := by decide +kernel
  have hleft : (Service.replies s.service.todo).length = 0 := by decide +kernel
  have hnoPause : ∀ x ∈ s.mail.sent, x.2.command.kind ≠ .pause := by decide +kernel
  obtain ⟨hanswered, ⟨-, -, horder, -⟩, hwaits, hpanel, -⟩ := requests_linearized hrun
  refine ⟨hseen, ?_, by decide +kernel, horder, ?_, hpanel (by decide +kernel)⟩
  · obtain ⟨call, hsent, ⟨hpause, -⟩ | ⟨r, heq, hat⟩⟩ := hanswered 0 _ hseen
    · exact absurd hpause (hnoPause _ hsent)
    · exact ⟨call, r, hsent, heq, hat⟩
  · rcases hwaits 2 _ hwaiting with hqueued | ⟨-, hone⟩ | hthere
    · rw [hqueue] at hqueued
      cases hqueued
    · exact absurd (hleft.symm.trans hone) (by decide)
    · exact hthere

end Server

end IngestionLab
