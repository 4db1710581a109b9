import IngestionLab.Loadgen.CliRemote
import IngestionLab.Loadgen.HttpInternalTestEndpoint
import IngestionLab.Loadgen.SenderPool

/-!
# An attempt over HTTP

The model of `sender_http.go`: a batch is sent in JSON (`IngestionLab.InternalTest.marshal`),
and what comes of the request makes the outcome of the attempt
(`IngestionLab.SenderHTTPAttempt.deliver`). How a time is written is a parameter, which may
fail.

* `IngestionLab.InternalTest.Transaction.decoder_toJson`: **what is written of a transaction
  is read back.**
* `IngestionLab.SenderHTTPAttempt.deliver_eq_success_iff`: an attempt succeeds with a whole
  response without content, and with nothing else.
-/

namespace IngestionLab

open Go

namespace InternalTest

variable {Time : Type}

/-! ### The body -/

/-- `Transaction` in JSON, given its time. -/
def Transaction.toJson (t : Transaction Time) (eventTime : Json) : Json := .object
  [("client_id", .string t.clientID), ("event_time", eventTime), ("amount", floatToJson t.amount),
    ("event_type", .int t.eventType), ("event_subtype", .int t.eventSubtype),
    ("currency", .int t.currency), ("src_type11", .int t.srcType11),
    ("src_type12", .int t.srcType12), ("dst_type11", .int t.dstType11),
    ("dst_type12", .int t.dstType12), ("src_type21", .int t.srcType21),
    ("src_type22", .int t.srcType22), ("src_type31", .int t.srcType31),
    ("src_type32", .int t.srcType32), ("fold", .int t.fold)]

/-- **`json.Marshal` of a batch**: it fails if one of the times cannot be written. -/
def marshal (writeTime : Time → Option Json) (batch : List (Transaction Time)) : Option Json :=
  (batch.mapM fun t => (writeTime t.eventTime).map t.toJson).map .array

/-- The numbers of a transaction have the sizes of their types. -/
structure Transaction.Fits (t : Transaction Time) : Prop where
  amount : |t.amount| < 2 ^ 128 - 2 ^ 103
  integers : ∀ z ∈ [t.eventType, t.eventSubtype, t.currency, t.srcType11, t.srcType12, t.dstType11,
    t.dstType12, t.srcType21, t.srcType22, t.srcType31, t.srcType32, t.fold], Decoder.IsInt32 z

theorem float32_floatToJson {value : ℚ} (h : |value| < 2 ^ 128 - 2 ^ 103) (old : ℚ) :
    Decoder.float32 (floatToJson value) old = some value := by
  have hfloat : Decoder.float (floatToJson value) old = some value :=
    float_floatToJson value old
  have hnull : floatToJson value ≠ .null := by
    rw [floatToJson]
    split <;> rintro ⟨⟩
  have hfilter : Decoder.float32 (floatToJson value) old =
      (Decoder.float (floatToJson value) old).filter (|·| < 2 ^ 128 - 2 ^ 103) := by
    cases hjson : floatToJson value with
    | null => exact absurd hjson hnull
    | _ => rfl
  rw [hfilter, hfloat]
  exact Option.filter_eq_some_iff.mpr ⟨rfl, decide_eq_true h⟩

/-- **What is written of a transaction is read back**, into whatever is there. -/
theorem Transaction.decoder_toJson {time : Decoder Time} {t : Transaction Time} {eventTime : Json}
    (hfits : t.Fits) (htime : ∀ old, time eventTime old = some t.eventTime) (old : Transaction Time) :
    Transaction.decoder time (t.toJson eventTime) old = some t := by
  have hintegers := hfits.integers
  simp only [List.forall_mem_cons] at hintegers
  obtain ⟨h1, h2, h3, h4, h5, h6, h7, h8, h9, h10, h11, h12, -⟩ := hintegers
  rw [decoder, toJson, Decoder.openRecord_eq_record rfl, Decoder.record_object (by simp [fields, Decoder.field]) rfl]
  simp only [fields, List.zip_cons_cons, List.zip_nil_right, List.foldlM_cons, List.foldlM_nil,
    Decoder.field, Decoder.string_string, htime, float32_floatToJson hfits.amount,
    Decoder.int32_int h1, Decoder.int32_int h2, Decoder.int32_int h3, Decoder.int32_int h4,
    Decoder.int32_int h5, Decoder.int32_int h6, Decoder.int32_int h7, Decoder.int32_int h8,
    Decoder.int32_int h9, Decoder.int32_int h10, Decoder.int32_int h11, Decoder.int32_int h12,
    Option.map_some, Option.bind_eq_bind, Option.bind_some]
  rfl

/-- A list can be mapped where each of its elements can. -/
theorem mapM_eq_some_iff {α β : Type} {f : α → Option β} {xs : List α} {ys : List β} :
    xs.mapM f = some ys ↔ List.Forall₂ (fun x y => f x = some y) xs ys := by
  induction xs generalizing ys with
  | nil =>
    rw [List.mapM_nil, List.forall₂_nil_left_iff]
    exact Option.some_inj.trans eq_comm
  | cons x xs ih =>
    rw [List.mapM_cons, List.forall₂_cons_left_iff]
    simp only [Option.bind_eq_bind, Option.bind_eq_some_iff, ih, Option.pure_def, Option.some_inj]
    constructor
    · rintro ⟨y, hy, ys, hys, rfl⟩
      exact ⟨y, ys, hy, hys, rfl⟩
    · rintro ⟨y, ys, hy, hys, rfl⟩
      exact ⟨y, hy, ys, hys, rfl⟩

/-- **A batch that can be written has an element for each of its transactions.** -/
theorem marshal_eq_some_iff {writeTime : Time → Option Json} {batch : List (Transaction Time)}
    {body : Json} :
    marshal writeTime batch = some body ↔ ∃ elements, body = .array elements ∧
      List.Forall₂ (fun t json => (writeTime t.eventTime).map t.toJson = some json) batch
        elements := by
  rw [marshal, Option.map_eq_some_iff]
  constructor
  · rintro ⟨elements, helements, rfl⟩
    exact ⟨elements, rfl, mapM_eq_some_iff.mp helements⟩
  · rintro ⟨elements, rfl, helements⟩
    exact ⟨elements, mapM_eq_some_iff.mpr helements, rfl⟩

end InternalTest

/-! ### The attempt -/

/-- `senderHTTPAttempt`, as far as the outcome depends on it: whether a request can be made for its
URL. -/
structure SenderHTTPAttempt where
  requestable : Bool
  deriving DecidableEq, Repr

/-- **What the client returns**: an error, and whether the context is done by then, or a response,
and whether its body can be read to the end. -/
inductive ClientResult
  | error (contextDone : Bool)
  | response (statusCode : ℕ) (bodyRead : Bool)
  deriving DecidableEq, Repr

namespace SenderHTTPAttempt

/-- The request of a batch, by the number of its bytes. Nothing is known of its context. -/
def request (size : Json → ℕ) (body : Json) (doneWithin : ℤ → Bool) : Request where
  method := methodPost
  mediaType := some "application/json"
  body := some ⟨size body, ⟨[body], true⟩⟩
  doneWithin := doneWithin

/-- **`deliver`**, by what comes of writing the batch and what the client returns. -/
def deliver (a : SenderHTTPAttempt) (body : Option Json) (result : ClientResult) :
    SenderAttemptOutcome :=
  match body with
  | none => .failure
  | some _ =>
    if !a.requestable then .failure
    else match result with
      | .error contextDone => if contextDone then .canceled else .failure
      | .response statusCode bodyRead =>
        if !bodyRead then .failure
        else if statusCode = statusNoContent then .success
        else .failure

variable {a : SenderHTTPAttempt} {body : Option Json} {result : ClientResult}

/-- **An attempt succeeds** with a whole response without content. -/
theorem deliver_eq_success_iff :
    a.deliver body result = .success ↔ body.isSome = true ∧ a.requestable = true ∧
      result = .response statusNoContent true := by
  obtain ⟨requestable⟩ := a
  rw [deliver.eq_def]
  cases body with
  | none => simp
  | some json =>
    cases requestable with
    | false => simp
    | true =>
      cases result with
      | error contextDone => cases contextDone <;> simp
      | response statusCode bodyRead => cases bodyRead <;> simp

end SenderHTTPAttempt

end IngestionLab
