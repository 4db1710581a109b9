import IngestionLab.Frontend.HttpCommands
import IngestionLab.Frontend.HttpSnapshot
import IngestionLab.Machine.Run
import Mathlib.Logic.Function.Basic

/-!
# The HTTP adapter

The class of `adapters/HttpAdapter.ts`: it asks for a snapshot whenever its timer fires,
publishes what it gets to its listeners, and posts the commands it is given, one after the
other.

## Continuations

An asynchronous function runs up to its next `await` without a break, and goes on when
what it waits for has settled. Its activation is a record with the place it waits at
(`IngestionLab.Frontend.Poll`, `IngestionLab.Frontend.CommandTask`), and each piece between
two waits is one action of the machine, which comes with what has settled: a response, what
became of its body, or a failure. Nothing is assumed about when anything settles. A
command waits for the promise `commandChannel` held when it was dispatched, that is, for
the command dispatched before it.

Listeners are called synchronously, and may call the adapter back. So a publication goes on
listener by listener, and until it is done nothing else runs but what they call
(`IngestionLab.Frontend.HttpAdapter.notifying`).

## Observations

The last fields are not in the source: they only record what the adapter has asked for,
answered, published and called.
-/

namespace IngestionLab.Frontend

open Function JS

/-! ### Activations -/

/-- What a poll waits for. -/
inductive PollStage
  | fetch
  | decode
  deriving DecidableEq, Repr

/-- **A poll that waits**, named by its controller. -/
structure Poll where
  controller : ℕ
  stage : PollStage
  deriving DecidableEq, Repr

/-- What a command waits for: its turn, the response, the body of an error; or nothing any
more. -/
inductive CommandStage
  | turn
  | fetch
  | error
  | settled
  deriving DecidableEq, Repr

/-- **A command that has been taken on**: it follows the one before it. -/
structure CommandTask where
  command : SupportedCommand
  previous : Option ℕ
  stage : CommandStage

/-! ### The adapter -/

/-- `UNAVAILABLE_COMMAND_MESSAGE`. -/
def unavailableCommandMessage : String := "command is not available in the HTTP adapter"

/-- `DISPOSED_COMMAND_MESSAGE`. -/
def disposedCommandMessage : String := "http adapter is disposed"

/-- `NETWORK_COMMAND_MESSAGE`. -/
def networkCommandMessage : String := "command request failed due to a network error"

/-- **The adapter.** Commands, controllers and listeners are numbered; the closures that
unsubscribe a listener are in `subscriptions` until they have been called, and `notifying`
is what a publication has still to call, if there is one. -/
structure HttpAdapter where
  listeners : List ℕ
  snapshot : LoadgenTelemetrySnapshot
  timer : Bool
  activeController : Option ℕ
  requestInFlight : Bool
  commandSequence : ℕ
  commandChannel : Option ℕ
  disposed : Bool
  polls : List Poll
  commands : ℕ → Option CommandTask
  subscriptions : List ℕ
  notifying : Option (List ℕ)
  -- observations
  controllers : ℕ
  aborted : List ℕ
  sent : List ℕ
  receipts : List (ℕ × CommandReceipt)
  published : List LoadgenTelemetrySnapshot
  calls : List (ℕ × LoadgenTelemetrySnapshot)

namespace HttpAdapter

variable (adapter : HttpAdapter)

/-- `publish`: the listeners are to be called. -/
def publish (snapshot : LoadgenTelemetrySnapshot) : HttpAdapter :=
  { adapter with
    snapshot := snapshot
    notifying := some adapter.listeners
    published := adapter.published ++ [snapshot] }

/-! ### Listeners -/

/-- `subscribe`. A listener that is added while a publication goes on is called by it. -/
def subscribe (listener : ℕ) : HttpAdapter :=
  if adapter.disposed then adapter
  else
    let added := if listener ∈ adapter.listeners then [] else [listener]
    { adapter with
      listeners := adapter.listeners ++ added
      notifying := adapter.notifying.map (· ++ added)
      subscriptions := adapter.subscriptions ++ [listener]
      calls := adapter.calls ++ [(listener, adapter.snapshot)] }

/-- What `subscribe` returns is called. -/
def unsubscribe (listener : ℕ) : HttpAdapter :=
  { adapter with
    listeners := adapter.listeners.filter (· ≠ listener)
    notifying := adapter.notifying.map (·.filter (· ≠ listener))
    subscriptions := adapter.subscriptions.erase listener }

/-- The publication calls the next listener, which may throw, or is done. -/
def notify (throws : Bool) : HttpAdapter :=
  match adapter.notifying with
  | some (listener :: rest) =>
    { adapter with
      notifying := if throws then none else some rest
      calls := adapter.calls ++ [(listener, adapter.snapshot)] }
  | _ => { adapter with notifying := none }

/-! ### Polling -/

/-- `poll`, up to its first wait. -/
def poll : HttpAdapter :=
  if adapter.disposed || adapter.requestInFlight then adapter
  else
    { adapter with
      requestInFlight := true
      activeController := some adapter.controllers
      polls := adapter.polls ++ [⟨adapter.controllers, .fetch⟩]
      controllers := adapter.controllers + 1 }

/-- The `finally` block of a poll, which returns or goes on without a wait. -/
def leave (controller : ℕ) : HttpAdapter :=
  { adapter with
    activeController :=
      if adapter.activeController = some controller then none else adapter.activeController
    requestInFlight := false
    polls := adapter.polls.filter (·.controller ≠ controller) }

/-- What follows the `finally` block. -/
def afterPoll (wire : Option WireSnapshot) : HttpAdapter :=
  if adapter.disposed then adapter
  else
    let revision := adapter.snapshot.revision + 1
    match wire with
    | none => adapter.publish (createSnapshot revision .error none)
    | some wire => adapter.publish (createSnapshot revision .connected (some wire))

/-- A poll goes on with its response, or with the failure of its request. -/
def pollFetched (controller : ℕ) (succeeded : Bool) : HttpAdapter :=
  if adapter.disposed then adapter.leave controller
  else if succeeded then
    { adapter with polls := adapter.polls.map fun p =>
        if p.controller = controller then { p with stage := .decode } else p }
  else (adapter.leave controller).afterPoll none

/-- A poll goes on with what `decodeResponse` makes of its response, which is nothing where
it throws. -/
def pollDecoded (controller : ℕ) (wire : Option WireSnapshot) : HttpAdapter :=
  if adapter.disposed then adapter.leave controller
  else (adapter.leave controller).afterPoll wire

/-! ### Commands -/

/-- The identifier of a command. -/
def commandId (n : ℕ) : String := "http-local-" ++ toString n

/-- `rejectCommand`. -/
def rejectCommand (n : ℕ) (command : LoadgenCommand) (code : AdapterErrorCode) (message : String)
    (retryable : Bool) : CommandReceipt where
  commandId := commandId n
  commandType := command.type
  accepted := false
  applyMode := .unavailable
  appliedAtMs := none
  snapshotRevision := adapter.snapshot.revision
  error := some { code, message, retryable }

/-- The receipt of a command that has been accepted. -/
def acceptCommand (n : ℕ) (command : LoadgenCommand) (now : ℕ) : CommandReceipt where
  commandId := commandId n
  commandType := command.type
  accepted := true
  applyMode := .immediate
  appliedAtMs := some now
  snapshotRevision := adapter.snapshot.revision
  error := none

/-- A receipt is handed out. -/
def give (n : ℕ) (receipt : CommandReceipt) : HttpAdapter :=
  { adapter with receipts := adapter.receipts ++ [(n, receipt)] }

/-- A command is now at this stage. -/
def setStage (n : ℕ) (task : CommandTask) (stage : CommandStage) : HttpAdapter :=
  { adapter with commands := update adapter.commands n (some { task with stage := stage }) }

/-- `sendCommand` returns. -/
def settle (n : ℕ) (task : CommandTask) (receipt : CommandReceipt) : HttpAdapter :=
  (adapter.setStage n task .settled).give n receipt

/-- **`dispatch`.** -/
def dispatch (command : LoadgenCommand) : HttpAdapter :=
  let n := adapter.commandSequence + 1
  let adapter := { adapter with commandSequence := n }
  if supported : isSupportedCommand command = true then
    if adapter.disposed then
      adapter.give n (adapter.rejectCommand n command .disposed disposedCommandMessage false)
    else if !canDispatchConfigCommand ⟨command, supported⟩ adapter.snapshot then
      adapter.give n (adapter.rejectCommand n command .unavailable unavailableCommandMessage false)
    else
      { adapter with
        commands := update adapter.commands n
          (some ⟨⟨command, supported⟩, adapter.commandChannel, .turn⟩)
        commandChannel := some n }
  else adapter.give n (adapter.rejectCommand n command .unavailable unavailableCommandMessage false)

/-- **`sendCommand`**, up to its first wait. -/
def sendCommand (n : ℕ) (task : CommandTask) : HttpAdapter :=
  if adapter.disposed then
    adapter.settle n task
      (adapter.rejectCommand n task.command .disposed disposedCommandMessage false)
  else if !canDispatchConfigCommand task.command adapter.snapshot then
    adapter.settle n task
      (adapter.rejectCommand n task.command .unavailable unavailableCommandMessage false)
  else { adapter.setStage n task .fetch with sent := adapter.sent ++ [n] }

/-- The receipt of a request that has been answered with an error status. -/
def rejectStatus (n : ℕ) (command : LoadgenCommand) (status : ℕ) : CommandReceipt :=
  adapter.rejectCommand n command .unavailable
    ("command request failed with HTTP status " ++ toString status)
    (decide (500 ≤ status ∧ status ≤ 599))

/-- A command goes on with the status of its response, or with the failure of its
request. -/
def commandFetched (n : ℕ) (task : CommandTask) (now : ℕ) (status : Option ℕ) : HttpAdapter :=
  match status with
  | none => adapter.settle n task
      (adapter.rejectCommand n task.command .unavailable networkCommandMessage true)
  | some status =>
    if 200 ≤ status ∧ status ≤ 299 then
      adapter.settle n task (adapter.acceptCommand n task.command now)
    else if status = 422 then adapter.setStage n task .error
    else adapter.settle n task (adapter.rejectStatus n task.command status)

/-- A command goes on with what `decodeCommandError` has found in the body. -/
def commandDecoded (n : ℕ) (task : CommandTask) (message : Option String) : HttpAdapter :=
  match message with
  | some message => adapter.settle n task
      (adapter.rejectCommand n task.command .unavailable message false)
  | none => adapter.settle n task (adapter.rejectStatus n task.command 422)

/-! ### The end -/

/-- **`dispose`.** -/
def dispose : HttpAdapter :=
  if adapter.disposed then adapter
  else
    { adapter with
      disposed := true
      timer := false
      aborted := adapter.aborted ++ adapter.activeController.toList
      listeners := []
      notifying := adapter.notifying.map fun _ => [] }

/-- The constructor: the timer is set, and the first poll begins. -/
def create : HttpAdapter := poll
  { listeners := []
    snapshot := createSnapshot 0 .connecting none
    timer := true
    activeController := none
    requestInFlight := false
    commandSequence := 0
    commandChannel := none
    disposed := false
    polls := []
    commands := fun _ => none
    subscriptions := []
    notifying := none
    controllers := 0
    aborted := []
    sent := []
    receipts := []
    published := []
    calls := [] }

/-! ### The machine -/

/-- **What may happen next**: the timer fires; a poll or a command goes on; a publication
goes on; somebody calls the adapter. -/
inductive Action
  | tick
  | pollFetched (controller : ℕ) (succeeded : Bool)
  | pollDecoded (controller : ℕ) (wire : Option WireSnapshot)
  | sendCommand (n : ℕ)
  | commandFetched (n now : ℕ) (status : Option ℕ)
  | commandDecoded (n : ℕ) (message : Option String)
  | notify (throws : Bool)
  | subscribe (listener : ℕ)
  | unsubscribe (listener : ℕ)
  | dispatch (command : LoadgenCommand)
  | dispose

/-- A command is at this stage. -/
def IsAt (n : ℕ) (stage : CommandStage) : Prop := ∃ t ∈ adapter.commands n, t.stage = stage

instance (n : ℕ) (stage : CommandStage) : Decidable (adapter.IsAt n stage) :=
  inferInstanceAs (Decidable (∃ t ∈ adapter.commands n, t.stage = stage))

/-- The turn of a command comes when the one before it has settled. -/
def HasTurn (n : ℕ) : Prop := ∃ t ∈ adapter.commands n, t.stage = .turn ∧
  ∀ p ∈ t.previous, adapter.IsAt p .settled

instance (n : ℕ) : Decidable (adapter.HasTurn n) :=
  inferInstanceAs (Decidable (∃ t ∈ adapter.commands n, t.stage = .turn ∧
    ∀ p ∈ t.previous, adapter.IsAt p .settled))

/-- Go on with a command that has been taken on. -/
def onCommand (n : ℕ) (f : CommandTask → HttpAdapter) : HttpAdapter :=
  match adapter.commands n with
  | none => adapter
  | some task => f task

/-- **The adapter as a machine.** -/
def machine : Machine HttpAdapter Action where
  Enabled adapter
    | .tick => adapter.notifying = none ∧ adapter.timer = true
    | .pollFetched controller _ => adapter.notifying = none ∧ ⟨controller, .fetch⟩ ∈ adapter.polls
    | .pollDecoded controller _ => adapter.notifying = none ∧ ⟨controller, .decode⟩ ∈ adapter.polls
    | .sendCommand n => adapter.notifying = none ∧ adapter.HasTurn n
    | .commandFetched n _ _ => adapter.notifying = none ∧ adapter.IsAt n .fetch
    | .commandDecoded n _ => adapter.notifying = none ∧ adapter.IsAt n .error
    | .notify _ => adapter.notifying ≠ none
    | .subscribe _ => True
    | .unsubscribe listener => listener ∈ adapter.subscriptions
    | .dispatch _ => True
    | .dispose => True
  next adapter
    | .tick => adapter.poll
    | .pollFetched controller succeeded => adapter.pollFetched controller succeeded
    | .pollDecoded controller wire => adapter.pollDecoded controller wire
    | .sendCommand n => adapter.onCommand n (adapter.sendCommand n)
    | .commandFetched n now status => adapter.onCommand n (adapter.commandFetched n · now status)
    | .commandDecoded n message => adapter.onCommand n (adapter.commandDecoded n · message)
    | .notify throws => adapter.notify throws
    | .subscribe listener => adapter.subscribe listener
    | .unsubscribe listener => adapter.unsubscribe listener
    | .dispatch command => adapter.dispatch command
    | .dispose => adapter.dispose

instance (adapter : HttpAdapter) (a : Action) : Decidable (machine.Enabled adapter a) := by
  cases a <;> dsimp only [machine] <;> infer_instance

end HttpAdapter

end IngestionLab.Frontend
