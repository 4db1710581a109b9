import IngestionLab.Go.Decode

/-!
# Requests with a body

A request of `net/http` as the handlers of JSON see it, how the body is read up to a limit,
and how a `json.Decoder` takes one text after the other out of it.
-/

namespace IngestionLab.Go

variable {α : Type}

/-- `http.MethodPost`. -/
def methodPost : String := "POST"

/-- `http.StatusNoContent`. -/
def statusNoContent : ℕ := 204

/-- `http.StatusBadRequest`. -/
def statusBadRequest : ℕ := 400

/-- `http.StatusMethodNotAllowed`. -/
def statusMethodNotAllowed : ℕ := 405

/-- `http.StatusRequestEntityTooLarge`. -/
def statusRequestEntityTooLarge : ℕ := 413

/-- A body that can be read to its end: how many bytes it has, and what they say. -/
structure Body where
  length : ℕ
  content : Json.Stream

/-- **A request.** -/
structure Request where
  method : String
  /-- What `mime.ParseMediaType` makes of the `Content-Type`, where it can be parsed. -/
  mediaType : Option String
  /-- The body, where no error cuts it short. -/
  body : Option Body
  /-- The context of the request is done before so many nanoseconds are over. -/
  doneWithin : ℤ → Bool

/-- What comes of reading a body. -/
inductive Reading
  | failed
  | tooLarge
  | read (content : Json.Stream)

/-- `io.ReadAll` of an `io.LimitReader`, which lets one byte more through than the limit. -/
def Request.readAll (limit : ℕ) (r : Request) : Reading :=
  match r.body with
  | none => .failed
  | some body => if limit < body.length then .tooLarge else .read body.content

/-- `Decoder.Decode`: the next text, and what is left. -/
def decode (d : Decoder α) (old : α) : Json.Stream → Option (α × Json.Stream)
  | ⟨[], _⟩ => none
  | ⟨json :: jsons, ends⟩ => (d json old).map fun value => (value, ⟨jsons, ends⟩)

/-- `Decoder.Decode` of a raw message finds the end of the input. -/
def isEOF (stream : Json.Stream) : Bool := stream.values.isEmpty && stream.ends

/-! ### Lemmas -/

theorem Request.readAll_of_le {limit : ℕ} {r : Request}
    (h : ∀ body ∈ r.body, body.length ≤ limit) :
    r.readAll limit = r.body.elim .failed fun body => .read body.content := by
  rw [readAll]
  cases hbody : r.body with
  | none => rfl
  | some body => exact if_neg (not_lt.mpr (h body hbody))

/-- **An array and nothing else**: a slice with something in it is decoded, and then the input
ends. -/
theorem decode_slice_iff {d : Decoder α} {zero : α} {stream rest : Json.Stream} {values : List α} :
    (decode (Decoder.slice d zero) [] stream = some (values, rest) ∧ values ≠ [] ∧
        isEOF rest = true) ↔
      rest = ⟨[], true⟩ ∧ ∃ elements, stream = ⟨[.array elements], true⟩ ∧ elements ≠ [] ∧
        List.Forall₂ (fun json value => d json zero = some value) elements values := by
  have hends : isEOF rest = true ↔ rest = ⟨[], true⟩ := by
    obtain ⟨jsons, ends⟩ := rest
    simp [isEOF]
  rw [hends]
  constructor
  · rintro ⟨hdecode, hne, rfl⟩
    obtain ⟨jsons, ends⟩ := stream
    cases jsons with
    | nil => exact absurd hdecode nofun
    | cons json jsons =>
      rw [decode, Option.map_eq_some_iff] at hdecode
      obtain ⟨values', hslice, heq⟩ := hdecode
      obtain ⟨rfl, hrest⟩ := Prod.mk.inj heq
      obtain ⟨rfl, rfl⟩ := Json.Stream.mk.inj hrest
      cases json with
      | null => exact absurd (Option.some_inj.mp hslice).symm hne
      | array elements =>
        have hall := Decoder.elements_eq_some_iff.mp hslice
        refine ⟨rfl, elements, rfl, ?_, hall⟩
        rintro rfl
        exact hne (List.forall₂_nil_left_iff.mp hall)
      | _ => exact absurd hslice nofun
  · rintro ⟨rfl, elements, rfl, hne, hall⟩
    refine ⟨?_, ?_, rfl⟩
    · rw [decode, Decoder.slice, Decoder.elements_eq_some_iff.mpr hall]
      rfl
    · rintro rfl
      exact hne (List.forall₂_nil_right_iff.mp hall)

end IngestionLab.Go
