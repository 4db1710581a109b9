import IngestionLab.Go.Json
import IngestionLab.Loadgen.EventLoop

/-!
# The commands handler

The model of `runtime_command.go` and `http_commands.go`: what a command of the event
loop consists of (`IngestionLab.RuntimeCommand`), and how a request of a client becomes
one (`IngestionLab.commandsHandler`). The handler checks the value of a setting once more
before it sends it on, and answers when the event loop has.
-/

namespace IngestionLab

open Go

/-! ### Runtime commands -/

/-- `runtimeCommandKind`. -/
inductive RuntimeCommandKind
  | getRuntimeStatus
  | run
  | pause
  | reset
  | setReadBatchSize
  | setReaderWorkers
  | setReaderChannelCapacity
  | setSenderChannelCapacity
  | setRequestedTPS
  | setThrottlerInstalled
  | setSenderWorkers
  deriving DecidableEq, Repr

/-- `runtimeCommand`, but for the channels of the answer. -/
structure RuntimeCommand where
  kind : RuntimeCommandKind
  value : ℤ := 0
  installed : Bool := false
  deriving DecidableEq, Repr

/-- The command the event loop takes; a start comes with what the file system answers. -/
def RuntimeCommand.toCommand (command : RuntimeCommand)
    (glob : Except String (List Path)) : Service.Command :=
  match command.kind with
  | .getRuntimeStatus => .getRuntimeStatus
  | .run => .run glob
  | .pause => .pause
  | .reset => .reset
  | .setReadBatchSize => .setReadBatchSize command.value
  | .setReaderWorkers => .setReaderWorkers command.value
  | .setReaderChannelCapacity => .setReaderChannelCapacity command.value
  | .setSenderChannelCapacity => .setSenderChannelCapacity command.value
  | .setRequestedTPS => .setRequestedTPS command.value
  | .setThrottlerInstalled => .setThrottlerInstalled command.installed
  | .setSenderWorkers => .setSenderWorkers command.value

/-- `runtimeCommandReceipt`. -/
structure RuntimeCommandReceipt where
  rejected : Bool := false
  err : Option String := none
  deriving DecidableEq, Repr

/-! ### Requests -/

/-- `commandRequest`. The value is kept as it stands, and is empty where it is missing. -/
structure CommandRequest where
  action : String := ""
  value : Option Json := none

/-- One field of the object is decoded. -/
def CommandRequest.decodeField (disallowUnknown : Bool) (cr : CommandRequest) :
    String × Json → Option CommandRequest
  | (key, value) =>
    match fieldOf ["action", "value"] key with
    | some "action" =>
      match value with
      | .string action => some { cr with action := action }
      | .null => some cr
      | _ => none
    | some _ => some { cr with value := some value }
    | none => if disallowUnknown then none else some cr

/-- `Decoder.Decode` of a `commandRequest`. -/
def CommandRequest.decode (disallowUnknown : Bool) (cr : CommandRequest) :
    Json → Option CommandRequest
  | .object fields => fields.foldlM (decodeField disallowUnknown) cr
  | .null => some cr
  | _ => none

/-- A request: its method, and its body where it can be read. -/
structure HttpRequest where
  method : String
  body : Option Json.Stream

/-- What is answered. -/
inductive HttpResponse
  | ok
  | methodNotAllowed (allow : String)
  | badRequest (message : String)
  | conflict
  | unprocessableEntity (error : String)
  deriving DecidableEq, Repr

/-- **How a request is handled**: it is answered; or a command is sent to the event loop,
and the answer waits for the receipt, or does not. -/
inductive Handling
  | respond (response : HttpResponse)
  | execute (command : RuntimeCommand)
  | send (command : RuntimeCommand)
  deriving DecidableEq, Repr

/-- `executeRuntimeCommand` has returned. -/
def Handling.answer (kind : RuntimeCommandKind) (result : RuntimeCommandReceipt) : HttpResponse :=
  if result.rejected then .conflict
  else match kind, result.err with
    | .run, some err => .unprocessableEntity err
    | _, _ => .ok

/-- A setting whose value is an integer. -/
def setInt (kind : RuntimeCommandKind) (contains : ℤ → Bool) (message : String)
    (value : Option Json) : Handling :=
  match unmarshalInt value with
  | none => .respond (.badRequest message)
  | some value =>
    if !contains value then .respond (.badRequest message) else .execute { kind, value }

/-- A setting whose value is an integer and not missing or null. -/
def setPresentInt (kind : RuntimeCommandKind) (contains : ℤ → Bool) (message : String)
    (value : Option Json) : Handling :=
  match value with
  | none | some .null => .respond (.badRequest message)
  | some _ => setInt kind contains message value

/-- The actions whose request may not have other fields. -/
def strictAction (action : String) : Bool :=
  action == "set-requested-tps" || action == "set-throttler-installed" ||
    action == "set-sender-channel-capacity" || action == "set-reader-workers" ||
    action == "set-sender-workers"

/-- What the handler does with an action. -/
def handleAction (config : Config) (cr : CommandRequest) : Handling :=
  match cr.action with
  | "run" => .execute { kind := .run }
  | "pause" => .send { kind := .pause }
  | "reset" => .execute { kind := .reset }
  | "set-read-batch-size" =>
    setInt .setReadBatchSize config.reader.readBatchSize.contains "Invalid read batch size" cr.value
  | "set-reader-workers" =>
    setPresentInt .setReaderWorkers config.reader.workers.contains "Invalid Reader workers" cr.value
  | "set-reader-channel-capacity" =>
    setPresentInt .setReaderChannelCapacity config.readerChannel.capacity.contains
      "Invalid reader channel capacity" cr.value
  | "set-sender-channel-capacity" =>
    setPresentInt .setSenderChannelCapacity config.senderChannel.capacity.contains
      "Invalid sender channel capacity" cr.value
  | "set-requested-tps" =>
    setPresentInt .setRequestedTPS config.throttler.requestedTPS.contains "Invalid requested TPS"
      cr.value
  | "set-throttler-installed" =>
    match unmarshalBoolPointer cr.value with
    | some (some installed) =>
      if !config.throttler.installed.contains installed then
        .respond (.badRequest "Invalid throttler installed value")
      else .execute { kind := .setThrottlerInstalled, installed }
    | _ => .respond (.badRequest "Invalid throttler installed value")
  | "set-sender-workers" =>
    setPresentInt .setSenderWorkers config.sender.workers.contains "Invalid Sender setting" cr.value
  | _ => .respond (.badRequest "Unknown command")

/-- **`commandsHandler`.** A strict action is decoded once more, into the same request,
and nothing may follow it. -/
def commandsHandler (config : Config) (request : HttpRequest) : Handling :=
  if request.method ≠ "POST" then .respond (.methodNotAllowed "POST")
  else match request.body with
    | some ⟨value :: rest, ends⟩ =>
      match CommandRequest.decode false {} value with
      | none => .respond (.badRequest "Invalid request body")
      | some cr =>
        if strictAction cr.action then
          match CommandRequest.decode true cr value with
          | none => .respond (.badRequest "Invalid request body")
          | some cr =>
            if !rest.isEmpty || !ends then .respond (.badRequest "Invalid request body")
            else handleAction config cr
        else handleAction config cr
    | _ => .respond (.badRequest "Invalid request body")

end IngestionLab
