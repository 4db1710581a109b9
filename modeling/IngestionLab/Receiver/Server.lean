import IngestionLab.Go.Http

/-!
# The receiver

The model of `server.go` of the receiver: the batches it takes
(`IngestionLab.Receiver.handleIngest`), and what it counts of them
(`IngestionLab.Receiver.ServerState`). Every element of a batch is decoded into a pointer,
so that a null is found out. What is decoded from the text of a time is a parameter.
-/

namespace IngestionLab.Receiver

open Go

variable {Time : Type}

/-! ### Configuration -/

/-- `IngestConfig`, but for the path. -/
structure IngestConfig where
  maxBodyBytes : ℕ
  deriving DecidableEq, Repr

/-- `LabConfig`. -/
structure LabConfig where
  responseDelay : ℤ := 0
  responseStatus : Option ℕ := none
  deriving DecidableEq, Repr

/-- `Config`, as far as a request is answered by it. -/
structure Config where
  ingest : IngestConfig
  lab : LabConfig
  deriving DecidableEq, Repr

/-- `LabConfig.responseStatus`. -/
def LabConfig.status (config : LabConfig) : ℕ :=
  match config.responseStatus with
  | none => 204
  | some status => if status = 0 then 204 else status

/-! ### Transactions -/

/-- `transaction`. -/
structure Transaction (Time : Type) where
  clientID : String
  eventTime : Time
  amount : ℚ
  eventType : ℤ
  eventSubtype : ℤ
  currency : ℤ
  srcType11 : ℤ
  srcType12 : ℤ
  dstType11 : ℤ
  dstType12 : ℤ
  srcType21 : ℤ
  srcType22 : ℤ
  srcType31 : ℤ
  srcType32 : ℤ
  fold : ℤ
  deriving DecidableEq, Repr

/-- The zero value. -/
def Transaction.zero (zeroTime : Time) : Transaction Time :=
  ⟨"", zeroTime, 0, 0, 0, 0, 0, 0, 0, 0, 0, 0, 0, 0, 0⟩

/-- The fields of a transaction in JSON. -/
def Transaction.fields (time : Decoder Time) : List (String × Decoder (Transaction Time)) := [
  Decoder.field "client_id" clientID (fun t v => { t with clientID := v }) Decoder.string,
  Decoder.field "event_time" eventTime (fun t v => { t with eventTime := v }) time,
  Decoder.field "amount" amount (fun t v => { t with amount := v }) Decoder.float32,
  Decoder.field "event_type" eventType (fun t v => { t with eventType := v }) Decoder.int32,
  Decoder.field "event_subtype" eventSubtype (fun t v => { t with eventSubtype := v })
    Decoder.int32,
  Decoder.field "currency" currency (fun t v => { t with currency := v }) Decoder.int32,
  Decoder.field "src_type11" srcType11 (fun t v => { t with srcType11 := v }) Decoder.int32,
  Decoder.field "src_type12" srcType12 (fun t v => { t with srcType12 := v }) Decoder.int32,
  Decoder.field "dst_type11" dstType11 (fun t v => { t with dstType11 := v }) Decoder.int32,
  Decoder.field "dst_type12" dstType12 (fun t v => { t with dstType12 := v }) Decoder.int32,
  Decoder.field "src_type21" srcType21 (fun t v => { t with srcType21 := v }) Decoder.int32,
  Decoder.field "src_type22" srcType22 (fun t v => { t with srcType22 := v }) Decoder.int32,
  Decoder.field "src_type31" srcType31 (fun t v => { t with srcType31 := v }) Decoder.int32,
  Decoder.field "src_type32" srcType32 (fun t v => { t with srcType32 := v }) Decoder.int32,
  Decoder.field "fold" fold (fun t v => { t with fold := v }) Decoder.int32]

/-- Into a transaction. -/
def Transaction.decoder (time : Decoder Time) : Decoder (Transaction Time) :=
  Decoder.openRecord (fields time)

/-! ### Requests -/

/-- `waitForDelay`: the context of the request is not done before the delay is over. -/
def waitForDelay (r : Request) (delay : ℤ) : Bool := !r.doneWithin delay

/-- **How a batch is handled**: a status is answered; or nothing is; or so many transactions are
accepted, and that is answered. -/
inductive Handling
  | answer (status : ℕ)
  | leave
  | accept (transactionCount : ℕ)
  deriving DecidableEq, Repr

/-- The status a client gets, if it is answered. -/
def Handling.status : Handling → Option ℕ
  | .answer status => some status
  | .leave => none
  | .accept _ => some statusNoContent

/-- **`handleIngest`.** -/
def handleIngest (time : Decoder Time) (zeroTime : Time) (config : Config) (r : Request) :
    Handling :=
  if r.method ≠ methodPost then .answer statusMethodNotAllowed
  else if r.mediaType ≠ some "application/json" then .answer statusBadRequest
  else match r.readAll config.ingest.maxBodyBytes with
    | .failed => .answer statusBadRequest
    | .tooLarge => .answer statusRequestEntityTooLarge
    | .read content =>
      match decode (Decoder.slice
        (Decoder.pointer (Transaction.decoder time) (.zero zeroTime)) none) [] content with
      | none => .answer statusBadRequest
      | some (transactions, rest) =>
        if transactions.length = 0 then .answer statusBadRequest
        else if transactions.any Option.isNone then .answer statusBadRequest
        else if !isEOF rest then .answer statusBadRequest
        else if !waitForDelay r config.lab.responseDelay then .leave
        else if config.lab.status ≠ statusNoContent then .answer config.lab.status
        else .accept transactions.length

/-! ### Totals -/

/-- `serverState`, but for when it began. Instants are numbered, and the zero pointer is `none`. -/
structure ServerState where
  acceptedBatchesTotal : ℕ := 0
  acceptedTransactionsTotal : ℕ := 0
  lastAcceptedAt : Option ℕ := none
  deriving DecidableEq, Repr

/-- `serverState.accept`, once the time has been read: what is done under the lock. -/
def ServerState.accept (state : ServerState) (acceptedAt transactionCount : ℕ) : ServerState where
  acceptedBatchesTotal := state.acceptedBatchesTotal + 1
  acceptedTransactionsTotal := state.acceptedTransactionsTotal + transactionCount
  lastAcceptedAt := some acceptedAt

/-- `serverState.snapshot`, of what is counted. -/
def ServerState.snapshot (state : ServerState) : ServerState := state

end IngestionLab.Receiver
