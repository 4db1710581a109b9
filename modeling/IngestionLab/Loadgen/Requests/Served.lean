import IngestionLab.Loadgen.EventLoop.Progress
import IngestionLab.Loadgen.Requests

/-!
# No client starves

A client that has sent its command waits for the event loop, and for nobody else: the
commands before its own in the channel are carried out one after the other, and nothing the
event loop waits for meanwhile needs another client, a timer or a cancellation. Only a client
that comes too late waits in vain: once the event loop has its exit before it, it takes
nothing more, and no handler gives up waiting by itself.

* `IngestionLab.Server.exists_leads_to_idle`: the event loop comes to its next event.
* `IngestionLab.Server.exists_leads_to_drained`: it takes everything that is in the channel.
* `IngestionLab.Server.every_client_is_served`: who is answered and who is not.
-/

namespace IngestionLab

open Go

namespace Go.Mailbox

variable {γ ρ : Type*} {wants : γ → Bool} {m : Mailbox γ ρ} {k : ℕ} {c : γ}

/-- Replies leave the clients and the channel of the requests alone. -/
theorem frame_replies (wants : γ → Bool) (rs : List ρ) (m : Mailbox γ ρ) :
    (rs.foldl (reply wants) m).client = m.client ∧
      (rs.foldl (reply wants) m).queue = m.queue := by
  induction rs generalizing m with
  | nil => exact ⟨rfl, rfl⟩
  | cons r rs ih =>
    obtain ⟨hclient, hqueue⟩ := ih (m.reply wants r)
    rw [List.foldl_cons, hclient, hqueue]
    unfold reply
    split <;> exact ⟨rfl, rfl⟩

/-- **A client that still waits when everything is taken and replied to** has its reply. -/
theorem InOrder.answered (h : m.InOrder wants) (hk : m.client k = .waiting c) (hleft : m.left = 0)
    (hqueue : (k, c) ∉ m.queue.buffer) : ∃ r, (m.slot k).buffer = [r] := by
  rcases h.of_waiting hk with hmem | ⟨-, hone⟩ | ⟨r, hslot, -⟩
  · exact absurd hmem hqueue
  · omega
  · exact ⟨r, hslot⟩

/-- What is in the channel has not been taken. -/
theorem InOrder.not_taken (h : m.InOrder wants) (hqueue : (k, c) ∈ m.queue.buffer) :
    (k, c) ∉ m.taken := fun htaken =>
  (List.nodup_append.mp (h.fifo ▸ h.nodup)).2.2 _ htaken _ hqueue rfl

/-- **A request in the channel has no reply.** -/
theorem InOrder.slot_of_queued (h : m.InOrder wants) (hqueue : (k, c) ∈ m.queue.buffer)
    (hwants : wants c = true) : (m.slot k).buffer = [] := by
  have hsent : (k, c) ∈ m.sent := by
    rw [← h.fifo]
    exact List.mem_append_right _ hqueue
  cases h.place k c hsent hwants with
  | queued client mem slot => exact slot
  | served client serving left slot => exact slot
  | received r client slot mem => exact slot
  | answered r client slot mem =>
    have hgiven : (k, c) ∈ m.given.map Prod.fst ++ m.pending :=
      List.mem_append_left _ (List.mem_map_of_mem mem)
    rw [h.turn] at hgiven
    exact absurd (List.mem_filter.mp hgiven).1 (h.not_taken hqueue)

end Go.Mailbox

namespace Service

variable {s t : Service} {cfg : Config} {now : ℕ}

/-- **The event loop goes on**: it has not ended, and its exit is not among what it is about to
execute. -/
def GoesOn (s : Service) : Prop := s.exited = false ∧ .exit ∉ s.todo

instance (s : Service) : Decidable s.GoesOn := inferInstanceAs (Decidable (_ ∧ _))

/-- A command does not end the event loop. -/
theorem exit_not_mem_handle (state : ControlState) (c : Command) : Stmt.exit ∉ handle state c := by
  have hstop : Stmt.exit ∉ stop := by decide
  have hreset : Stmt.exit ∉ resetProgress := by decide
  have hsnapshots : Stmt.exit ∉ snapshots := by decide
  have hprepare : Stmt.exit ∉ prepareRun := by decide
  have hresume : Stmt.exit ∉ resumeRun := by decide
  fun_cases handle state c
  case case1 =>
    unfold statusReadings
    split <;> simp [hsnapshots]
  case case2 =>
    unfold startRun
    split <;> simp [hprepare]
  all_goals simp [hstop, hreset, hsnapshots, hresume]

/-- What happens without being asked for does not end it. -/
theorem GoesOn.of_isInner (h : s.GoesOn) (hlead : machine.Leads Action.IsInner s t) : t.GoesOn := by
  refine hlead.invariant (fun u a hu ha hinner => ?_) h
  cases a with
  | clock now => exact hinner.elim
  | cancelRoot => exact hinner.elim
  | event e => exact hinner.elim
  | pipeline run a => exact hu
  | exec =>
    obtain ⟨st, hst, -⟩ := ha
    obtain ⟨rest, htodo⟩ := List.head?_eq_some_iff.mp hst
    obtain ⟨hexited, hnot⟩ := hu
    rw [htodo, List.mem_cons, not_or] at hnot
    simp only [GoesOn, machine, htodo, (rootCancelled_exec u st).2, hexited]
    exact ⟨by simpa using Ne.symm hnot.1, hnot.2⟩

/-- **What is ending stays so.** -/
theorem not_goesOn_next {a : Action} (ha : machine.Enabled s a) (h : ¬s.GoesOn) :
    ¬(machine.next s a).GoesOn := by
  cases a with
  | clock now => exact h
  | cancelRoot => exact h
  | pipeline run a => exact h
  | event e =>
    obtain ⟨htodo, hexited, -⟩ := ha
    exact absurd ⟨hexited, by rw [htodo]; exact List.not_mem_nil⟩ h
  | exec =>
    obtain ⟨st, hst, -⟩ := ha
    obtain ⟨rest, htodo⟩ := List.head?_eq_some_iff.mp hst
    rintro ⟨hexited, hnot⟩
    simp only [machine, htodo, (rootCancelled_exec s st).2, Bool.or_eq_false_iff,
      decide_eq_false_iff_not] at hexited hnot
    refine h ⟨hexited.1, ?_⟩
    rw [htodo, List.mem_cons, not_or]
    exact ⟨Ne.symm hexited.2, hnot⟩

end Service

namespace Server

variable {s t : Server} {cfg : Config} {now k : ℕ} {a : Action} {call : Call}

/-! ### What may happen meanwhile -/

/-- **What may happen for one client to be served**: the service goes on by itself and takes
what is in the channel, and the client does its part. The clock stands still, nothing is
cancelled, and no other client moves. -/
def Action.Serves (k : ℕ) : Action → Prop
  | .service a => a.IsInner
  | .take _ _ _ => True
  | .send k' _ | .receive k' _ _ => k' = k
  | .arrive _ _ => False

/-- The clients are served in turn by a service that has come about, through a channel of ten
places. -/
structure Serving (cfg : Config) (now : ℕ) (s : Server) : Prop where
  inTurn : s.InTurn cfg
  reachable : Service.machine.Reachable (newService cfg now) s.service
  room : s.mail.queue.capacity = 10

theorem Serving.next (h : s.Serving cfg now) (ha : (machine cfg).Enabled s a) :
    ((machine cfg).next s a).Serving cfg now := by
  refine ⟨h.inTurn.next ha, ?_, ?_⟩
  · cases a with
    | arrive k incoming => exact h.reachable
    | send k call => exact h.reachable
    | receive k call r => exact h.reachable
    | take k call glob => exact h.reachable.step ha.2
    | service a => exact h.reachable.step ha.1
  · cases a with
    | arrive k incoming =>
      refine Eq.trans ?_ h.room
      simp only [machine]
      cases (incoming.handling cfg).call <;> rfl
    | send k call => exact Chan.capacity_apply.trans h.room
    | receive k call r => exact h.room
    | take k call glob => exact Chan.capacity_apply.trans h.room
    | service a =>
      refine Eq.trans ?_ h.room
      exact congrArg Chan.capacity (Mailbox.frame_replies _ _ _).2

theorem serving_of_reachable (h : (machine cfg).Reachable (start cfg now) s) :
    s.Serving cfg now :=
  h.invariant (fun _ _ hs ha => hs.next ha) ⟨inTurn_start cfg now, .refl _, rfl⟩

/-! ### The event loop comes round -/

/-- The event loop waits for its next event. -/
structure Idle (cfg : Config) (now : ℕ) (s : Server) : Prop extends s.Serving cfg now where
  todo : s.service.todo = []

/-- It has answered what it has taken. -/
theorem Idle.left (h : s.Idle cfg now) : s.mail.left = 0 := by
  rw [← h.inTurn.left, h.todo]
  rfl

/-- **The event loop comes to its next event**, whatever the clients do. -/
theorem exists_leads_to_idle (hcfg : cfg.validate net = none) (h : s.Serving cfg now) (k : ℕ) :
    ∃ t, (machine cfg).Leads (Action.Serves k) s t ∧ t.Idle cfg now ∧
      t.mail.client = s.mail.client ∧ t.mail.queue = s.mail.queue ∧
      (s.service.GoesOn → t.service.GoesOn) := by
  let I : Server → Prop := fun t => t.Serving cfg now ∧ t.mail.client = s.mail.client ∧
    t.mail.queue = s.mail.queue
  have hstep : ∀ t a, I t → Service.machine.Enabled t.service a → Service.Action.IsInner a →
      (machine cfg).Enabled t (.service a) ∧ Action.Serves k (.service a) ∧
        ((machine cfg).next t (.service a)).service = Service.machine.next t.service a ∧
        I ((machine cfg).next t (.service a)) := by
    rintro t a ⟨ht, hclient, hqueue⟩ ha hinner
    have hen : (machine cfg).Enabled t (.service a) := by
      refine ⟨ha, ?_⟩
      cases a with
      | exec => exact ht.inTurn.allows_exec ha
      | pipeline run b => exact trivial
      | clock now => exact hinner.elim
      | cancelRoot => exact hinner.elim
      | event e => exact hinner.elim
    obtain ⟨hsame, hchan⟩ := Mailbox.frame_replies Call.replies (repliesOf t.service a) t.mail
    exact ⟨hen, hinner, rfl, ht.next hen, hsame.trans hclient, hchan.trans hqueue⟩
  obtain ⟨u, hlead, htodo⟩ := Service.exists_leads_to_nil hcfg h.reachable
  obtain ⟨t, hleads, rfl, ht, hclient, hqueue⟩ := hlead.lift hstep ⟨h, rfl, rfl⟩
  exact ⟨t, hleads, ⟨ht, htodo⟩, hclient, hqueue, fun hgoes => hgoes.of_isInner hlead⟩

/-- **It takes everything that is in the channel.** The induction is on how much that is. -/
theorem exists_leads_to_drained (hcfg : cfg.validate net = none) (h : s.Idle cfg now)
    (hgoes : s.service.GoesOn) (k : ℕ) :
    ∃ t, (machine cfg).Leads (Action.Serves k) s t ∧ t.Idle cfg now ∧
      t.mail.client = s.mail.client ∧ t.mail.queue.buffer = [] ∧ t.service.GoesOn := by
  generalize hbuffer : s.mail.queue.buffer = buffer
  induction buffer generalizing s with
  | nil => exact ⟨s, .refl s, h, rfl, hbuffer, hgoes⟩
  | cons x rest ih =>
    obtain ⟨j, call⟩ := x
    have hen : (machine cfg).Enabled s (.take j call (.ok [])) :=
      ⟨by simp [Chan.Allows, hbuffer], h.todo, hgoes.1, trivial⟩
    have htaken : ((machine cfg).next s (.take j call (.ok []))).mail.queue.buffer = rest := by
      simp [machine, Mailbox.machine, Chan.apply, hbuffer]
    have hstill : ((machine cfg).next s (.take j call (.ok []))).service.GoesOn :=
      ⟨hgoes.1, Service.exit_not_mem_handle _ _⟩
    obtain ⟨t, hlead, ht, hclient, hqueue, hon⟩ := exists_leads_to_idle hcfg (h.next hen) k
    obtain ⟨u, hlead', hu, hclient', hdone, hon'⟩ :=
      ih ht (hon hstill) ((congrArg Chan.buffer hqueue).trans htaken)
    exact ⟨u, (Machine.Leads.single hen trivial).trans (hlead.trans hlead'), hu,
      hclient'.trans hclient, hdone, hon'⟩

/-! ### A client is served -/

/-- Its answer reaches a client that waits for nothing else. -/
theorem exists_leads_to_output (h : s.Idle cfg now) (hk : s.mail.client k = .waiting call)
    (hqueue : (k, call) ∉ s.mail.queue.buffer) :
    ∃ t, (machine cfg).Leads (Action.Serves k) s t ∧ (t.output k).isSome ∧
      ∀ j ≠ k, t.mail.client j = s.mail.client j := by
  obtain ⟨r, hslot⟩ := h.inTurn.mail.answered hk h.left hqueue
  have hen : (machine cfg).Enabled s (.receive k call r) := ⟨hk, by simp [Chan.Allows, hslot]⟩
  refine ⟨_, Machine.Leads.single hen rfl, ?_, fun j hj => ?_⟩
  · simp [output, machine, Mailbox.machine]
  · exact Function.update_of_ne hj _ _

/-- A client that has sent its command is served. -/
theorem exists_leads_of_waiting (hcfg : cfg.validate net = none) (h : s.Idle cfg now)
    (hgoes : s.service.GoesOn) (hk : s.mail.client k = .waiting call) :
    ∃ t, (machine cfg).Leads (Action.Serves k) s t ∧ (t.output k).isSome ∧
      ∀ j ≠ k, t.mail.client j = s.mail.client j := by
  obtain ⟨t, hlead, ht, hclient, hqueue, -⟩ := exists_leads_to_drained hcfg h hgoes k
  obtain ⟨u, hlead', hu, hothers⟩ := exists_leads_to_output ht ((congrFun hclient k).trans hk)
    (by rw [hqueue]; exact List.not_mem_nil)
  exact ⟨u, hlead.trans hlead', hu, fun j hj => (hothers j hj).trans (congrFun hclient j)⟩

/-- A client that has yet to send its command is served. -/
theorem exists_leads_of_sending (hcfg : cfg.validate net = none) (h : s.Idle cfg now)
    (hgoes : s.service.GoesOn) (hk : s.mail.client k = .sending call) :
    ∃ t, (machine cfg).Leads (Action.Serves k) s t ∧ (t.output k).isSome ∧
      ∀ j ≠ k, t.mail.client j = s.mail.client j := by
  obtain ⟨t, hlead, ht, hclient, hqueue, hon⟩ := exists_leads_to_drained hcfg h hgoes k
  -- now there is room for it
  have hen : (machine cfg).Enabled t (.send k call) :=
    ⟨(congrFun hclient k).trans hk, Or.inr (by rw [hqueue, ht.room]; exact Nat.succ_pos 9)⟩
  have hothers : ∀ j ≠ k, ((machine cfg).next t (.send k call)).mail.client j = s.mail.client j :=
    fun j hj => (Function.update_of_ne hj _ _).trans (congrFun hclient j)
  have hlead' := hlead.trans (Machine.Leads.single hen rfl)
  cases hreplies : call.replies with
  | false =>
    refine ⟨_, hlead', ?_, hothers⟩
    simp [output, machine, Mailbox.machine, hreplies]
  | true =>
    have hwaiting : ((machine cfg).next t (.send k call)).mail.client k = .waiting call := by
      simp [machine, Mailbox.machine, hreplies]
    obtain ⟨u, hlast, hu, hrest⟩ :=
      exists_leads_of_waiting hcfg ⟨ht.next hen, ht.todo⟩ hon hwaiting
    exact ⟨u, hlead'.trans hlast, hu, fun j hj => (hrest j hj).trans (hothers j hj)⟩

/-! ### A client that comes too late -/

/-- **The command of a client has not been taken**, and the event loop has its exit before
it. -/
def Late (k : ℕ) (call : Call) (s : Server) : Prop :=
  ¬s.service.GoesOn ∧ (s.mail.client k = .sending call ∨
    s.mail.client k = .waiting call ∧ (k, call) ∈ s.mail.queue.buffer)

theorem Late.ne_ready (h : s.Late k call) : s.mail.client k ≠ .ready := by
  rcases h.2 with hk | ⟨hk, -⟩ <;> rw [hk] <;> rintro ⟨⟩

/-- A client that is too late has seen nothing. -/
theorem Late.output (h : s.Late k call) : s.output k = none := by
  rcases h.2 with hk | ⟨hk, -⟩ <;> rw [Server.output, hk]

/-- **It stays too late.** -/
theorem Late.next (h : s.Late k call) (hs : s.InTurn cfg) (hreplies : call.replies = true)
    (ha : (machine cfg).Enabled s a) : ((machine cfg).next s a).Late k call := by
  cases a with
  | arrive j incoming =>
    obtain ⟨hready, hsome⟩ := ha
    obtain ⟨call', hcall⟩ := Option.isSome_iff_exists.mp hsome
    have hkj : k ≠ j := by
      rintro rfl
      exact h.ne_ready hready
    simpa only [Late, machine, hcall, Option.map_some, Option.getD_some, Mailbox.machine,
      Function.update_of_ne hkj] using h
  | send j call' =>
    have hbuffer : ((machine cfg).next s (.send j call')).mail.queue.buffer =
        s.mail.queue.buffer ++ [(j, call')] := (Chan.apply_buffer ha.2 hs.mail.isOpen).symm
    refine ⟨h.1, ?_⟩
    rw [hbuffer]
    by_cases hkj : k = j
    · subst hkj
      have hcall : call' = call := by
        rcases h.2 with hk | ⟨hk, -⟩
        · exact Client.sending.inj (ha.1.symm.trans hk)
        · exact absurd (ha.1.symm.trans hk) (by rintro ⟨⟩)
      subst hcall
      refine Or.inr ⟨?_, List.mem_append_right _ (List.mem_singleton_self _)⟩
      simp [machine, Mailbox.machine, hreplies]
    · have hsame : ((machine cfg).next s (.send j call')).mail.client k = s.mail.client k :=
        Function.update_of_ne hkj _ _
      rw [hsame]
      exact h.2.imp_right fun hk => ⟨hk.1, List.mem_append_left _ hk.2⟩
  | take j call' glob =>
    obtain ⟨-, htodo, hexited, -⟩ := ha
    exact absurd ⟨hexited, by rw [htodo]; exact List.not_mem_nil⟩ h.1
  | receive j call' r =>
    have hkj : k ≠ j := by
      rintro rfl
      obtain ⟨hwaiting, hslot⟩ := ha
      rcases h.2 with hk | ⟨-, hqueue⟩
      · exact absurd (hwaiting.symm.trans hk) (by rintro ⟨⟩)
      · have hnone := hs.mail.slot_of_queued hqueue hreplies
        simp [Chan.Allows, hnone] at hslot
    simpa only [Late, machine, Mailbox.machine, Function.update_of_ne hkj] using h
  | service a =>
    obtain ⟨hclient, hqueue⟩ := Mailbox.frame_replies Call.replies (repliesOf s.service a) s.mail
    refine ⟨Service.not_goesOn_next ha.1 h.1, ?_⟩
    simp only [machine, hclient, hqueue]
    exact h.2

/-- **No client starves.** In every state of the service with its clients, whatever they have
done so far and in whatever order, a client that has come:

* can be served, if the event loop goes on or has taken its command: by steps of the service
  and its own alone, while the clock stands still and no other client moves, so that none has
  to wait for another, however slow that one is;
* never sees anything, if the event loop has its exit before it without having taken its
  command, and there is an answer to wait for. -/
theorem every_client_is_served (hcfg : cfg.validate net = none)
    (h : (machine cfg).Reachable (start cfg now) s)
    (hk : s.mail.client k = .sending call ∨ s.mail.client k = .waiting call) :
    (s.service.GoesOn ∨ (k, call) ∈ s.mail.taken →
      ∃ t, (machine cfg).Leads (Action.Serves k) s t ∧ (t.output k).isSome ∧
        ∀ j ≠ k, t.mail.client j = s.mail.client j) ∧
    (¬s.service.GoesOn → (k, call) ∉ s.mail.taken → call.replies = true →
      ∀ t, (machine cfg).Reachable s t → t.output k = none) := by
  have hs := serving_of_reachable h
  have hknown := hs.inTurn.mail.known k
  refine ⟨fun hserved => ?_, fun hending huntaken hreplies t ht => ?_⟩
  · obtain ⟨t, hlead, ht, hclient, hqueue, hon⟩ := exists_leads_to_idle hcfg hs k
    have hsame := congrFun hclient k
    have hserve : ∃ u, (machine cfg).Leads (Action.Serves k) t u ∧ (u.output k).isSome ∧
        ∀ j ≠ k, u.mail.client j = t.mail.client j := by
      rcases hserved with hgoes | htaken
      · rcases hk with hsending | hwaiting
        · exact exists_leads_of_sending hcfg ht (hon hgoes) (hsame.trans hsending)
        · exact exists_leads_of_waiting hcfg ht (hon hgoes) (hsame.trans hwaiting)
      · have hwaiting : s.mail.client k = .waiting call := by
          refine hk.resolve_left fun hsending => ?_
          -- a command that was taken was sent
          rw [hsending] at hknown
          refine hknown.1 (List.mem_map.mpr ⟨(k, call), ?_, rfl⟩)
          rw [← hs.inTurn.mail.fifo]
          exact List.mem_append_left _ htaken
        refine exists_leads_to_output ht (hsame.trans hwaiting) fun hmem => ?_
        exact hs.inTurn.mail.not_taken (hqueue ▸ hmem) htaken
    obtain ⟨u, hlead', hu, hothers⟩ := hserve
    exact ⟨u, hlead.trans hlead', hu, fun j hj => (hothers j hj).trans (congrFun hclient j)⟩
  · have hlate : s.Late k call := by
      refine ⟨hending, hk.imp_right fun hwaiting => ⟨hwaiting, ?_⟩⟩
      rw [hwaiting] at hknown
      have hsent := hknown.1
      rw [← hs.inTurn.mail.fifo, List.mem_append] at hsent
      exact hsent.resolve_left huntaken
    have hstays : t.InTurn cfg ∧ t.Late k call :=
      ht.invariant (I := fun u : Server => u.InTurn cfg ∧ u.Late k call)
        (fun u a hu ha => ⟨hu.1.next ha, hu.2.next hu.1 hreplies ha⟩) ⟨hs.inTurn, hlate⟩
    exact hstays.2.output

/-- Two clients ask for the status, one after the other. -/
def waitingRun : List Action :=
  [.arrive 0 (.snapshot "GET"), .arrive 1 (.snapshot "GET"),
    .send 0 ⟨{ kind := .getRuntimeStatus }, true⟩, .send 1 ⟨{ kind := .getRuntimeStatus }, true⟩]

/-- The second one can be served, however long the first takes to fetch its answer; once the
event loop has seen the process interrupted, it is not. -/
theorem every_client_is_served_waitingRun :
    let s := (machine exampleConfig).after (start exampleConfig 0) waitingRun
    let t := (machine exampleConfig).after s [.service .cancelRoot, .service (.event .done)]
    (∃ u, (machine exampleConfig).Leads (Action.Serves 1) s u ∧ (u.output 1).isSome ∧
      ∀ j ≠ 1, u.mail.client j = s.mail.client j) ∧
    ∀ u, (machine exampleConfig).Reachable t u → u.output 1 = none := by
  intro s t
  have hvalid : exampleConfig.validate exampleParsers = none := by decide +kernel
  have hrun : (machine exampleConfig).Run (start exampleConfig 0) waitingRun := by decide +kernel
  have hrun' : (machine exampleConfig).Run s
      [.service .cancelRoot, .service (.event .done)] := by decide +kernel
  have hs : (machine exampleConfig).Reachable (start exampleConfig 0) s := ⟨_, hrun, rfl⟩
  have ht : (machine exampleConfig).Reachable (start exampleConfig 0) t :=
    hs.trans ⟨_, hrun', rfl⟩
  have hwaits : s.mail.client 1 = .waiting ⟨{ kind := .getRuntimeStatus }, true⟩ ∧
      t.mail.client 1 = .waiting ⟨{ kind := .getRuntimeStatus }, true⟩ := by decide +kernel
  have hends : s.service.GoesOn ∧ ¬t.service.GoesOn ∧ t.mail.taken = [] := by decide +kernel
  refine ⟨(every_client_is_served hvalid hs (Or.inr hwaits.1)).1 (Or.inl hends.1), ?_⟩
  refine (every_client_is_served hvalid ht (Or.inr hwaits.2)).2 hends.2.1 ?_ rfl
  rw [hends.2.2]
  exact List.not_mem_nil

end Server

end IngestionLab
