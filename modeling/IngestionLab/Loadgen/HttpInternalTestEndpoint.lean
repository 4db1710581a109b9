import IngestionLab.Go.Http

/-!
# The internal test endpoint

The model of `http_internal_test_endpoint.go`, and of the transaction of `transaction.go` as
JSON. An array of transactions is taken and thrown away. What is decoded from the text of a
time is a parameter.
-/

namespace IngestionLab.InternalTest

open Go

variable {Time : Type}

/-- `internalTestIngestMaxBodySize`. -/
def internalTestIngestMaxBodySize : ℕ := 32 * 1024 * 1024

/-- `Transaction`. -/
structure Transaction (Time : Type) where
  clientID : String
  eventTime : Time
  amount : ℚ
  eventType : ℤ
  eventSubtype : ℤ
  currency : ℤ
  srcType11 : ℤ
  srcType12 : ℤ
  dstType11 : ℤ
  dstType12 : ℤ
  srcType21 : ℤ
  srcType22 : ℤ
  srcType31 : ℤ
  srcType32 : ℤ
  fold : ℤ
  deriving DecidableEq, Repr

/-- The zero value. -/
def Transaction.zero (zeroTime : Time) : Transaction Time :=
  ⟨"", zeroTime, 0, 0, 0, 0, 0, 0, 0, 0, 0, 0, 0, 0, 0⟩

/-- The fields of a transaction in JSON. -/
def Transaction.fields (time : Decoder Time) : List (String × Decoder (Transaction Time)) := [
  Decoder.field "client_id" clientID (fun t v => { t with clientID := v }) Decoder.string,
  Decoder.field "event_time" eventTime (fun t v => { t with eventTime := v }) time,
  Decoder.field "amount" amount (fun t v => { t with amount := v }) Decoder.float32,
  Decoder.field "event_type" eventType (fun t v => { t with eventType := v }) Decoder.int32,
  Decoder.field "event_subtype" eventSubtype (fun t v => { t with eventSubtype := v })
    Decoder.int32,
  Decoder.field "currency" currency (fun t v => { t with currency := v }) Decoder.int32,
  Decoder.field "src_type11" srcType11 (fun t v => { t with srcType11 := v }) Decoder.int32,
  Decoder.field "src_type12" srcType12 (fun t v => { t with srcType12 := v }) Decoder.int32,
  Decoder.field "dst_type11" dstType11 (fun t v => { t with dstType11 := v }) Decoder.int32,
  Decoder.field "dst_type12" dstType12 (fun t v => { t with dstType12 := v }) Decoder.int32,
  Decoder.field "src_type21" srcType21 (fun t v => { t with srcType21 := v }) Decoder.int32,
  Decoder.field "src_type22" srcType22 (fun t v => { t with srcType22 := v }) Decoder.int32,
  Decoder.field "src_type31" srcType31 (fun t v => { t with srcType31 := v }) Decoder.int32,
  Decoder.field "src_type32" srcType32 (fun t v => { t with srcType32 := v }) Decoder.int32,
  Decoder.field "fold" fold (fun t v => { t with fold := v }) Decoder.int32]

/-- Into a transaction. -/
def Transaction.decoder (time : Decoder Time) : Decoder (Transaction Time) :=
  Decoder.openRecord (fields time)

/-- **`internalTestIngestHandler`**: the status that is answered. -/
def internalTestIngestHandler (time : Decoder Time) (zeroTime : Time) (r : Request) : ℕ :=
  if r.method ≠ methodPost then statusMethodNotAllowed
  else if r.mediaType ≠ some "application/json" then statusBadRequest
  else match r.readAll internalTestIngestMaxBodySize with
    | .failed => statusBadRequest
    | .tooLarge => statusRequestEntityTooLarge
    | .read content =>
      match decode (Decoder.slice (Transaction.decoder time) (.zero zeroTime)) [] content with
      | none => statusBadRequest
      | some (transactions, rest) =>
        if transactions.length = 0 then statusBadRequest
        else if !isEOF rest then statusBadRequest
        else statusNoContent

/-- **A batch the endpoint takes**: the elements of an array that nothing follows, each of which can
be decoded. -/
structure IsBatch (time : Decoder Time) (zeroTime : Time) (content : Json.Stream)
    (elements : List Json) : Prop where
  content : content = ⟨[.array elements], true⟩
  ne_nil : elements ≠ []
  decodes : ∀ json ∈ elements, (Transaction.decoder time json (.zero zeroTime)).isSome = true

end IngestionLab.InternalTest
