import IngestionLab.Loadgen.EventLoop.Configured

/-!
# What a command is answered

A program that does not report a status knows its answers from the beginning
(`IngestionLab.Service.answers`), and gives them, whatever the goroutines of the pipeline
do meanwhile (`IngestionLab.Service.responses_run`).
-/

namespace IngestionLab

namespace Service

variable {s : Service} {cfg : Config}

/-- What is still to be answered, but for a status. -/
def answers (todo : List Stmt) : List Response := todo.filterMap fun
  | .respond response => some response
  | _ => none

/-- A statement that does not answer a status answers what it was to. -/
theorem answer_append_answers {st : Stmt} (hst : st ≠ .respondStatus) (rest : List Stmt) :
    s.answer st ++ answers rest = answers (st :: rest) := by
  cases st
  case respondStatus => exact absurd rfl hst
  all_goals rfl

/-- **A program without a status gives its answers**, and no other until the next event. -/
theorem responses_run {as : List Action} (hstatus : .respondStatus ∉ s.todo)
    (hevents : ∀ a ∈ as, ∀ e, a ≠ .event e) (hrun : machine.Run s as) :
    (machine.after s as).responses ++ answers (machine.after s as).todo =
      s.responses ++ answers s.todo := by
  induction as generalizing s with
  | nil => rfl
  | cons a as ih =>
    have hrest : ∀ b ∈ as, ∀ e, b ≠ .event e := fun b hb => hevents b (List.mem_cons_of_mem a hb)
    rw [Machine.after_cons]
    cases a with
    | event e => exact absurd rfl (hevents _ List.mem_cons_self e)
    | exec =>
      obtain ⟨⟨st, hst, -⟩, hrun⟩ := hrun
      obtain ⟨rest, heq⟩ := List.head?_eq_some_iff.mp hst
      rw [heq, List.mem_cons, not_or] at hstatus
      simp only [machine, heq] at hrun ⊢
      calc (machine.after { s.exec st with todo := rest } as).responses ++
            answers (machine.after { s.exec st with todo := rest } as).todo
          = (s.exec st).responses ++ answers rest := ih hstatus.2 hrest hrun
        _ = s.responses ++ (s.answer st ++ answers rest) := by rw [responses_exec, List.append_assoc]
        _ = s.responses ++ answers (st :: rest) := by
          rw [answer_append_answers (Ne.symm hstatus.1)]
    | clock now => exact ih hstatus hrest hrun.2
    | cancelRoot => exact ih hstatus hrest hrun.2
    | pipeline run a => exact ih hstatus hrest hrun.2

/-- The control can be set while idle only. -/
def Command.idleOnly : Command → Bool
  | .setReadBatchSize _ | .setReaderChannelCapacity _ | .setSenderChannelCapacity _ => true
  | _ => false

/-- The configuration has the value the command sets a control to; false of the commands
that set none. -/
def Command.isContained (cfg : Config) : Command → Bool
  | .setReadBatchSize value => cfg.reader.readBatchSize.contains value
  | .setReaderWorkers value => cfg.reader.workers.contains value
  | .setReaderChannelCapacity value => cfg.readerChannel.capacity.contains value
  | .setSenderChannelCapacity value => cfg.senderChannel.capacity.contains value
  | .setRequestedTPS value => cfg.throttler.requestedTPS.contains value
  | .setThrottlerInstalled installed => cfg.throttler.installed.contains installed
  | .setSenderWorkers value => cfg.sender.workers.contains value
  | _ => false

/-- **A command that sets a control to one of its values** is refused for the state of the
run only. -/
theorem answers_program {c : Command} (h : c.isContained s.control.config = true) :
    .respondStatus ∉ s.program (.command c) ∧
      answers (s.program (.command c)) =
        [if c.idleOnly = true ∧ s.control.run.state ≠ .idle then .rejected else .accepted] := by
  cases c with
  | setReadBatchSize value =>
    change s.control.config.reader.readBatchSize.contains value = true at h
    by_cases hidle : s.control.run.state = .idle <;>
      simp [program, handle, h, hidle, answers, Command.idleOnly]
  | setReaderChannelCapacity value =>
    change s.control.config.readerChannel.capacity.contains value = true at h
    by_cases hidle : s.control.run.state = .idle <;>
      simp [program, handle, h, hidle, answers, Command.idleOnly]
  | setSenderChannelCapacity value =>
    change s.control.config.senderChannel.capacity.contains value = true at h
    by_cases hidle : s.control.run.state = .idle <;>
      simp [program, handle, h, hidle, answers, Command.idleOnly]
  | setReaderWorkers value =>
    change s.control.config.reader.workers.contains value = true at h
    simp [program, handle, h, answers, Command.idleOnly]
  | setSenderWorkers value =>
    change s.control.config.sender.workers.contains value = true at h
    simp [program, handle, h, answers, Command.idleOnly]
  | setRequestedTPS value =>
    change s.control.config.throttler.requestedTPS.contains value = true at h
    by_cases hsame : s.control.controls.requestedTPS = value <;>
      simp [program, handle, h, hsame, answers, Command.idleOnly]
  | setThrottlerInstalled installed =>
    change s.control.config.throttler.installed.contains installed = true at h
    by_cases hsame : s.control.controls.installed = installed <;>
      simp [program, handle, h, hsame, answers, Command.idleOnly]
  | getRuntimeStatus => exact absurd h (by rintro ⟨⟩)
  | run glob => exact absurd h (by rintro ⟨⟩)
  | pause => exact absurd h (by rintro ⟨⟩)
  | reset => exact absurd h (by rintro ⟨⟩)

/-- **What such a command is answered**, once it has been handled. -/
theorem responses_of_isContained {c : Command} {as : List Action}
    (h : c.isContained s.control.config = true) (hevents : ∀ a ∈ as, ∀ e, a ≠ .event e)
    (hrun : machine.Run s (.event (.command c) :: as))
    (hdone : (machine.after s (.event (.command c) :: as)).todo = []) :
    (machine.after s (.event (.command c) :: as)).responses = s.responses ++
      [if c.idleOnly = true ∧ s.control.run.state ≠ .idle then .rejected else .accepted] := by
  obtain ⟨-, hrun⟩ := hrun
  obtain ⟨hstatus, hanswers⟩ := answers_program h
  rw [Machine.after_cons] at hdone ⊢
  have hall := responses_run (s := machine.next s (.event (.command c))) hstatus hevents hrun
  rw [hdone, answers, List.filterMap_nil, List.append_nil] at hall
  rw [hall]
  exact congrArg (s.responses ++ ·) hanswers

end Service

end IngestionLab
