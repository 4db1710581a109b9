import IngestionLab.Loadgen.EventLoop.Answers

/-!
# The panel

What the clients of the load generator may think of: a panel (`IngestionLab.Panel`) with the
state of the run and the positions of the controls, on which commands are carried out one
after the other, each at once (`IngestionLab.Panel.obey`), and answered
(`IngestionLab.Panel.Answers`). The event loop carries a command out step by step, waits for
the goroutines of the pipeline in between and is interrupted by whatever they do, but is a
panel nevertheless:

* `IngestionLab.Service.settled_take`: an event leaves the panel it was to leave, once its
  program has been executed, **whatever happens in between**
  (`IngestionLab.Service.settled_next`).
* `IngestionLab.Service.awaits_take`: a command is answered as the panel answers it, and
  nothing else is answered (`IngestionLab.Service.replies_program`).
-/

namespace IngestionLab

open Go

/-- The statement answers. -/
def Stmt.isReply : Stmt → Bool
  | .respond _ | .respondStatus => true
  | _ => false

/-- **The panel**: the state of the run, and the controls. -/
structure Panel where
  state : RunState
  controls : ConfiguredControls
  deriving DecidableEq, Repr

namespace Service

/-- The control a command sets, set to the value. -/
def Command.set : Command → ConfiguredControls → ConfiguredControls
  | .setReadBatchSize value, controls => { controls with readBatchSize := value }
  | .setReaderWorkers value, controls => { controls with readerWorkers := value }
  | .setReaderChannelCapacity value, controls => { controls with readerChannelCapacity := value }
  | .setSenderChannelCapacity value, controls => { controls with senderChannelCapacity := value }
  | .setRequestedTPS value, controls => { controls with requestedTPS := value }
  | .setThrottlerInstalled installed, controls => { controls with installed := installed }
  | .setSenderWorkers value, controls => { controls with senderWorkers := value }
  | .getRuntimeStatus, controls | .run _, controls | .pause, controls | .reset, controls => controls

end Service

namespace Panel

open Service (Command)

variable {cfg : Config} {p : Panel}

/-- **The receipt of a command**, `none` for those that have none. A start that finds no
files fails; a control is set to a value that is allowed, some of them only while idle. -/
def receipt (cfg : Config) (p : Panel) : Command → Option Response
  | .getRuntimeStatus | .pause => none
  | .run glob =>
    match p.state with
    | .idle =>
      match ReaderPool.sourceFiles cfg.source.path.toList glob with
      | .error error => some (.failed error)
      | .ok _ => some .accepted
    | .faulted => some .rejected
    | .running | .paused | .resetting => some .accepted
  | .reset =>
    match p.state with
    | .idle | .paused | .faulted => some .accepted
    | .running | .resetting => some .rejected
  | command =>
    if command.isContained cfg = true ∧ (command.idleOnly = true → p.state = .idle) then
      some .accepted
    else some .rejected

/-- **What a command makes of the panel.** -/
def obey (cfg : Config) (p : Panel) : Command → Panel
  | .getRuntimeStatus => p
  | .pause => if p.state = .running then { p with state := .paused } else p
  | .run glob =>
    match p.state with
    | .idle =>
      match ReaderPool.sourceFiles cfg.source.path.toList glob with
      | .error _ => { p with state := .faulted }
      | .ok _ => { p with state := .running }
    | .paused => { p with state := .running }
    | .running | .faulted | .resetting => p
  | .reset =>
    match p.state with
    | .paused | .faulted => { p with state := .idle }
    | .idle | .running | .resetting => p
  | command =>
    if p.receipt cfg command = some .accepted then { p with controls := command.set p.controls }
    else p

/-- **A status shows a panel**: the state of the run and the controls; the capacities of the
channels are those of the run, while there is one. -/
structure Shown (p : Panel) (status : RuntimeStatus) : Prop where
  state : status.run.state = p.state
  readerWorkers : status.reader.workers = p.controls.readerWorkers
  readBatchSize : status.reader.readBatchSize = p.controls.readBatchSize
  requestedTPS : status.throttler.requestedTps = p.controls.requestedTPS
  installed : status.throttler.installed = p.controls.installed
  senderWorkers : status.sender.workers = p.controls.senderWorkers
  capacities : p.state = .idle ∨ p.state = .faulted →
    status.readerChannel.capacity = p.controls.readerChannelCapacity ∧
      status.senderChannel.capacity = p.controls.senderChannelCapacity

/-- **How the panel answers a command**: with the receipt, or with a status that shows it. -/
def Answers (cfg : Config) (p : Panel) : Command → Response → Prop
  | .getRuntimeStatus, response => ∃ status, response = .status status ∧ p.Shown status
  | command, response => p.receipt cfg command = some response

/-- What an event makes of the panel: a command is carried out, an error of the source is a
fault. -/
def event (cfg : Config) (p : Panel) : Service.Event → Panel
  | .command command => p.obey cfg command
  | .sourceError _ => if p.state = .running ∨ p.state = .paused then { p with state := .faulted } else p
  | .done | .requestsClosed | .tick _ => p

/-- What a statement of the event loop makes of the panel. -/
def stmt (p : Panel) : Stmt → Panel
  | .setReadBatchSize value => { p with controls := { p.controls with readBatchSize := value } }
  | .setReaderWorkers value => { p with controls := { p.controls with readerWorkers := value } }
  | .setCapacity .reader value =>
      { p with controls := { p.controls with readerChannelCapacity := value } }
  | .setCapacity .sender value =>
      { p with controls := { p.controls with senderChannelCapacity := value } }
  | .setRequestedTPS value => { p with controls := { p.controls with requestedTPS := value } }
  | .setInstalled installed => { p with controls := { p.controls with installed := installed } }
  | .setSenderWorkers value => { p with controls := { p.controls with senderWorkers := value } }
  | .runStarted => { p with state := .running }
  | .faultStart _ | .enterFaulted _ => { p with state := .faulted }
  | .enterPaused => { p with state := .paused }
  | .beginReset => { p with state := .resetting }
  | .completeReset => { p with state := .idle }
  | _ => p

end Panel

namespace Service

variable {s : Service} {cfg : Config} {now : ℕ} {a : Action} {e : Event} {as : List Action}

/-- The panel of the service. -/
def panel (s : Service) : Panel := ⟨s.control.run.state, s.control.controls⟩

/-- The panel once everything that is to be executed has been. -/
def settled (s : Service) : Panel := s.todo.foldl Panel.stmt s.panel

theorem settled_of_todo (h : s.todo = []) : s.settled = s.panel := by rw [settled, h, List.foldl_nil]

/-- A statement does to the panel what it is said to. -/
theorem panel_exec (s : Service) (st : Stmt) : (s.exec st).panel = s.panel.stmt st := by
  cases st
  case startChannel c =>
    rw [exec]
    split <;> rfl
  case setCapacity c value => cases c <;> rfl
  case seeChannel c => cases c <;> rfl
  case makeRun => rfl
  all_goals
    simp only [exec, panel, Panel.stmt, onRun, onControls, onChannel, onPipeline_control]

/-- **Only statements change the panel, and these are written down**: until the next event
the panel that is to come stays the same. -/
theorem settled_next (ha : machine.Enabled s a) (hevent : ∀ e, a ≠ .event e) :
    (machine.next s a).settled = s.settled := by
  cases a with
  | clock now => rfl
  | cancelRoot => rfl
  | pipeline run a => rfl
  | event e => exact absurd rfl (hevent e)
  | exec =>
    obtain ⟨st, hst, -⟩ := ha
    obtain ⟨rest, htodo⟩ := List.head?_eq_some_iff.mp hst
    simp only [machine, htodo, settled, List.foldl_cons]
    exact congrArg (rest.foldl Panel.stmt) (panel_exec s st)

/-- **A status shows the panel.** -/
theorem shown_runtimeStatusAt (s : Service) (seen : Seen) :
    s.panel.Shown (s.control.runtimeStatusAt seen) := by
  rw [ControlState.runtimeStatusAt]
  split
  next hpaused _ =>
    refine ⟨hpaused.symm, rfl, rfl, rfl, rfl, rfl, fun hrest => ?_⟩
    rw [panel, hpaused] at hrest
    rcases hrest with ⟨⟨⟩⟩ | ⟨⟨⟩⟩
  · refine ⟨rfl, rfl, rfl, rfl, rfl, rfl, fun hrest => ?_⟩
    have hrest' : s.control.run.state = .idle ∨ s.control.run.state = .faulted := hrest
    simp only [ControlState.liveStatus, if_pos hrest']
    exact ⟨rfl, rfl⟩

/-! ### Events -/

/-- **An event leaves the panel it was to leave**, once its program has been executed. -/
theorem settled_take (s : Service) (e : Event) :
    (s.take e).settled = s.panel.event s.control.config e := by
  cases e with
  | done => rfl
  | requestsClosed => rfl
  | sourceError error =>
    have hpanel : (s.take (.sourceError error)).panel = s.panel := by
      simp only [take, panel, onPipeline_control]
    rw [settled, hpanel]
    change (s.program (.sourceError error)).foldl Panel.stmt s.panel = _
    cases hstate : s.control.run.state <;>
      simp [program, hstate, RunState.fault, Panel.event, panel, stop, resetFaultedMeasurements,
        Panel.stmt]
  | tick now =>
    change (s.program (.tick now)).foldl Panel.stmt s.panel = _
    rw [program]
    split <;> split <;> rfl
  | command c =>
    change (handle s.control c).foldl Panel.stmt s.panel = s.panel.obey s.control.config c
    cases c with
    | getRuntimeStatus =>
      rw [handle, statusReadings]
      split <;> rfl
    | run glob =>
      cases hstate : s.control.run.state <;> simp only [handle, hstate, Panel.obey, panel]
      case idle =>
        rw [startRun]
        cases ReaderPool.sourceFiles s.control.config.source.path.toList glob <;> rfl
      all_goals rfl
    | pause =>
      rw [handle]
      by_cases hrunning : s.control.run.state = .running <;>
        simp [hrunning, Panel.obey, panel, snapshots, Panel.stmt]
    | reset =>
      cases hstate : s.control.run.state <;> simp only [handle, hstate, Panel.obey, panel] <;> rfl
    | setReadBatchSize value =>
      by_cases hidle : s.control.run.state = .idle <;>
        by_cases hcontains : s.control.config.reader.readBatchSize.contains value = true <;>
        simp [handle, Panel.obey, Panel.receipt, Panel.stmt, panel, Command.isContained,
          Command.idleOnly, Command.set, hidle, hcontains]
    | setReaderWorkers value =>
      by_cases hcontains : s.control.config.reader.workers.contains value = true <;>
        simp [handle, Panel.obey, Panel.receipt, Panel.stmt, panel, Command.isContained,
          Command.idleOnly, Command.set, hcontains]
    | setReaderChannelCapacity value =>
      by_cases hidle : s.control.run.state = .idle <;>
        by_cases hcontains : s.control.config.readerChannel.capacity.contains value = true <;>
        simp [handle, Panel.obey, Panel.receipt, Panel.stmt, panel, Command.isContained,
          Command.idleOnly, Command.set, hidle, hcontains]
    | setSenderChannelCapacity value =>
      by_cases hidle : s.control.run.state = .idle <;>
        by_cases hcontains : s.control.config.senderChannel.capacity.contains value = true <;>
        simp [handle, Panel.obey, Panel.receipt, Panel.stmt, panel, Command.isContained,
          Command.idleOnly, Command.set, hidle, hcontains]
    | setRequestedTPS value =>
      -- a rate that is in force already is not offered again
      by_cases hsame : s.control.controls.requestedTPS = value
      · subst hsame
        simp only [handle, ne_eq, not_true_eq_false, if_false, Panel.obey, Command.set]
        split <;> split <;> rfl
      · by_cases hcontains : s.control.config.throttler.requestedTPS.contains value = true <;>
          simp [handle, Panel.obey, Panel.receipt, Panel.stmt, panel, Command.isContained,
            Command.idleOnly, Command.set, hcontains, hsame]
    | setThrottlerInstalled installed =>
      by_cases hsame : s.control.controls.installed = installed
      · subst hsame
        simp only [handle, ne_eq, not_true_eq_false, if_false, Panel.obey, Command.set]
        split <;> split <;> rfl
      · by_cases hcontains : s.control.config.throttler.installed.contains installed = true <;>
          simp [handle, Panel.obey, Panel.receipt, Panel.stmt, panel, Command.isContained,
            Command.idleOnly, Command.set, hcontains, hsame]
    | setSenderWorkers value =>
      by_cases hcontains : s.control.config.sender.workers.contains value = true <;>
        simp [handle, Panel.obey, Panel.receipt, Panel.stmt, panel, Command.isContained,
          Command.idleOnly, Command.set, hcontains]

/-! ### Answers -/

/-- The statements still to be executed that answer. -/
def replies (todo : List Stmt) : List Stmt := todo.filter Stmt.isReply

/-- A statement that is no reply answers nothing. -/
theorem answer_of_not_isReply {st : Stmt} (h : st.isReply = false) : s.answer st = [] := by
  cases st <;> first | rfl | cases h

/-- **What is still to be executed answers a command as a panel answers it**: with the
receipt, or with a status – and then the panel is that of the service, and stays so. -/
inductive Awaits (cfg : Config) (p : Panel) (c : Command) (s : Service) : Prop
  | status (command : c = .getRuntimeStatus) (panel : s.panel = p)
      (stays : ∀ st ∈ s.todo, ∀ p : Panel, p.stmt st = p) (replies : replies s.todo = [.respondStatus])
  | receipt (r : Response) (command : c ≠ .getRuntimeStatus) (receipt : p.receipt cfg c = some r)
      (replies : replies s.todo = [.respond r])

/-- The answer that is awaited is the panel's. -/
theorem Awaits.answers {p : Panel} {c : Command} {st : Stmt} {rest : List Stmt} {r : Response}
    (h : Awaits cfg p c s) (htodo : s.todo = st :: rest) (hr : s.answer st = [r]) :
    p.Answers cfg c r := by
  have hreply : st.isReply = true := by
    by_contra hnot
    rw [answer_of_not_isReply (Bool.eq_false_iff.mpr hnot)] at hr
    cases hr
  have hreplies : replies s.todo = st :: replies rest := by
    rw [htodo, replies, List.filter_cons_of_pos hreply, replies]
  cases h with
  | status command panel stays hone =>
    rw [hreplies] at hone
    obtain ⟨rfl, -⟩ := List.cons.inj hone
    subst command panel
    obtain rfl : _ = r := List.singleton_inj.mp hr
    exact ⟨_, rfl, shown_runtimeStatusAt s s.seen⟩
  | receipt r' command receipt hone =>
    rw [hreplies] at hone
    obtain ⟨rfl, -⟩ := List.cons.inj hone
    obtain rfl : r' = r := List.singleton_inj.mp hr
    cases c with
    | getRuntimeStatus => exact absurd rfl command
    | _ => exact receipt

/-- **Until it is given, the answer is awaited.** -/
theorem Awaits.next {p : Panel} {c : Command} (h : Awaits cfg p c s) (ha : machine.Enabled s a)
    (hevent : ∀ e, a ≠ .event e) (hreply : a = .exec → ∀ st ∈ s.todo.head?, st.isReply = false) :
    Awaits cfg p c (machine.next s a) := by
  have hbeside : ∀ t : Service, t.todo = s.todo → t.control = s.control → Awaits cfg p c t := by
    intro t htodo hcontrol
    cases h with
    | status command panel stays hone =>
      refine .status command ?_ (htodo ▸ stays) (htodo ▸ hone)
      rw [Service.panel, hcontrol]
      exact panel
    | receipt r command receipt hone => exact .receipt r command receipt (htodo ▸ hone)
  cases a with
  | clock now => exact hbeside _ rfl rfl
  | cancelRoot => exact hbeside _ rfl rfl
  | pipeline run a => exact hbeside _ rfl rfl
  | event e => exact absurd rfl (hevent e)
  | exec =>
    obtain ⟨st, hst, -⟩ := ha
    have hnot := hreply rfl st hst
    obtain ⟨rest, htodo⟩ := List.head?_eq_some_iff.mp hst
    have hreplies : replies s.todo = replies rest := by
      rw [htodo, replies, List.filter_cons_of_neg (by rw [hnot]; decide), replies]
    cases h with
    | status command panel stays hone =>
      rw [htodo] at stays
      simp only [machine, htodo]
      refine .status command ?_ (fun st' hst' => stays st' (List.mem_cons_of_mem st hst')) ?_
      · change (s.exec st).panel = p
        rw [panel_exec, stays st List.mem_cons_self]
        exact panel
      · exact hreplies ▸ hone
    | receipt r command receipt hone =>
      simp only [machine, htodo]
      exact .receipt r command receipt (hreplies ▸ hone)

/-- What a setting that is checked first answers. -/
theorem replies_ite {refused : Prop} [Decidable refused] {p : List Stmt}
    (hp : replies p = [.respond .accepted]) :
    replies (if refused then [.respond .rejected] else p) =
      [.respond (if refused then .rejected else .accepted)] := by
  split
  · rfl
  · exact hp

/-- The receipt of a setting. -/
theorem receipt_ite {allowed refused : Prop} [Decidable allowed] [Decidable refused]
    (h : allowed ↔ ¬refused) :
    (if allowed then some Response.accepted else some .rejected) =
      some (if refused then .rejected else .accepted) := by
  by_cases hrefused : refused
  · rw [if_pos hrefused, if_neg (h.not.mpr (not_not.mpr hrefused))]
  · rw [if_neg hrefused, if_pos (h.mpr hrefused)]

/-- **A command is answered as the panel answers it**, but for a pause. -/
theorem awaits_take (s : Service) {c : Command} (hpause : c ≠ .pause) :
    Awaits s.control.config s.panel c (s.take (.command c)) := by
  cases c with
  | pause => exact absurd rfl hpause
  | getRuntimeStatus =>
    refine .status rfl rfl (fun st hst p => ?_) ?_
    · simp only [take, program, handle, statusReadings] at hst
      split at hst
      · obtain rfl := List.mem_singleton.mp hst
        rfl
      · simp only [snapshots, List.cons_append, List.nil_append, List.mem_cons, List.not_mem_nil,
          or_false] at hst
        rcases hst with rfl | rfl | rfl | rfl | rfl | rfl | rfl <;> rfl
    · simp only [take, program, handle, statusReadings]
      split <;> rfl
  | run glob =>
    cases hstate : s.control.run.state
    case idle =>
      cases hfiles : ReaderPool.sourceFiles s.control.config.source.path.toList glob with
      | error error =>
        refine .receipt (.failed error) (by rintro ⟨⟩) ?_ ?_
        · simp only [Panel.receipt, panel, hstate, hfiles]
        · simp only [take, program, handle, hstate, startRun, hfiles]
          rfl
      | ok files =>
        refine .receipt .accepted (by rintro ⟨⟩) ?_ ?_
        · simp only [Panel.receipt, panel, hstate, hfiles]
        · simp only [take, program, handle, hstate, startRun, hfiles]
          rfl
    all_goals
      refine .receipt _ (by rintro ⟨⟩) (by simp only [Panel.receipt, panel, hstate]; rfl) ?_
      simp only [take, program, handle, hstate]
      rfl
  | reset =>
    cases hstate : s.control.run.state
    all_goals
      refine .receipt _ (by rintro ⟨⟩) (by simp only [Panel.receipt, panel, hstate]; rfl) ?_
      simp only [take, program, handle, hstate]
      rfl
  | setReadBatchSize value =>
    refine .receipt _ (by rintro ⟨⟩) (receipt_ite ?_) (replies_ite rfl)
    simp [panel, Command.isContained, Command.idleOnly, and_comm]
  | setReaderWorkers value =>
    refine .receipt _ (by rintro ⟨⟩) (receipt_ite ?_) (replies_ite rfl)
    simp [Command.isContained, Command.idleOnly]
  | setReaderChannelCapacity value =>
    refine .receipt _ (by rintro ⟨⟩) (receipt_ite ?_) (replies_ite rfl)
    simp [panel, Command.isContained, Command.idleOnly, and_comm]
  | setSenderChannelCapacity value =>
    refine .receipt _ (by rintro ⟨⟩) (receipt_ite ?_) (replies_ite rfl)
    simp [panel, Command.isContained, Command.idleOnly, and_comm]
  | setRequestedTPS value =>
    refine .receipt _ (by rintro ⟨⟩) (receipt_ite ?_) (replies_ite (by split <;> rfl))
    simp [Command.isContained, Command.idleOnly]
  | setThrottlerInstalled installed =>
    refine .receipt _ (by rintro ⟨⟩) (receipt_ite ?_) (replies_ite (by split <;> rfl))
    simp [Command.isContained, Command.idleOnly]
  | setSenderWorkers value =>
    refine .receipt _ (by rintro ⟨⟩) (receipt_ite ?_) (replies_ite rfl)
    simp [Command.isContained, Command.idleOnly]

/-- **Nothing else is answered**: not a pause, nor what is no command. -/
theorem replies_program (s : Service) {e : Event} (he : ∀ c, e = .command c → c = .pause) :
    replies (s.program e) = [] := by
  cases e with
  | done => rfl
  | requestsClosed => rfl
  | sourceError error =>
    rw [program]
    split <;> rfl
  | tick now =>
    rw [program]
    split <;> split <;> rfl
  | command c =>
    obtain rfl := he c rfl
    rw [program, handle]
    split <;> rfl

end Service

end IngestionLab
