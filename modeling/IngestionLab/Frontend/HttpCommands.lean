import IngestionLab.Frontend.HttpConfig

/-!
# The commands of the HTTP adapter

Which commands `adapters/HttpAdapter.ts` sends, given the snapshot it has
(`IngestionLab.Frontend.canDispatchConfigCommand`), and what it sends for them
(`IngestionLab.Frontend.commandBody`).
-/

namespace IngestionLab.Frontend

open JS

/-- `isSupportedCommand`. -/
def isSupportedCommand : LoadgenCommand → Bool
  | .setHttpTimeout _ => false
  | _ => true

/-- A command the adapter can send. -/
abbrev SupportedCommand := { command : LoadgenCommand // isSupportedCommand command = true }

/-- **`canDispatchConfigCommand`**: the snapshot is connected, or for a run or a pause not
in error, the value is one of those the setting takes, and what can be set while idle only
is set while idle. -/
def canDispatchConfigCommand (command : SupportedCommand) (snapshot : LoadgenTelemetrySnapshot) :
    Bool :=
  let connected := snapshot.connectionState == .connected
  let idle := snapshot.runState == .idle
  match command with
  | ⟨.reset, _⟩ => true
  | ⟨.run, _⟩ | ⟨.pause, _⟩ =>
    snapshot.connectionState != .error &&
      (snapshot.connectionState == .connecting || snapshot.config.isSome)
  | ⟨.setRequestedTps value, _⟩ =>
    connected && snapshot.config.any fun config =>
      isRangeValue (.number value) config.throttlerRequestedTps
  | ⟨.setThrottlerInstalled value, _⟩ =>
    connected && snapshot.config.any fun config => config.throttlerInstalled.allowed.contains value
  | ⟨.setSenderWorkers value, _⟩ =>
    connected && snapshot.config.any fun config => isRangeValue (.number value) config.senderWorkers
  | ⟨.setWorkerCount value, _⟩ =>
    connected && snapshot.config.any fun config =>
      config.readerWorkers.any fun workers => isRangeValue (.number value) workers
  | ⟨.setReadBatchSize value, _⟩ =>
    connected && idle && snapshot.config.any fun config =>
      isRangeValue (.number value) config.readerReadBatchSize
  | ⟨.setReaderChannelCapacity value, _⟩ =>
    connected && idle && snapshot.config.any fun config =>
      config.readerChannelCapacity.allowed.contains value
  | ⟨.setSenderChannelCapacity value, _⟩ =>
    connected && idle && snapshot.config.any fun config =>
      config.senderChannelCapacity.allowed.contains value
  | ⟨.setHttpTimeout _, unsupported⟩ => nomatch unsupported

/-- **The body `sendCommand` sends.** -/
def commandBody (command : SupportedCommand) : Value :=
  match command.val with
  | .setReadBatchSize value | .setReaderChannelCapacity value | .setSenderChannelCapacity value
  | .setRequestedTps value | .setSenderWorkers value =>
    .object [("action", .string command.val.type), ("value", .number value)]
  | .setThrottlerInstalled value =>
    .object [("action", .string command.val.type), ("value", .boolean value)]
  | .setWorkerCount value =>
    .object [("action", .string "set-reader-workers"), ("value", .number value)]
  | .run | .pause | .reset | .setHttpTimeout _ => .object [("action", .string command.val.type)]

/-- What is posted to the load generator: the body, in JSON. -/
def commandRequest (command : SupportedCommand) : Json := stringify (commandBody command)

end IngestionLab.Frontend
