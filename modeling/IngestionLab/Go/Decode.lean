import IngestionLab.Go.Json
import Mathlib.Algebra.Order.Ring.Rat
import Mathlib.Data.List.Forall2
import Mathlib.Data.List.Nodup

/-!
# Decoding JSON into values of a known type

How `encoding/json` fills a value whose type it knows (`IngestionLab.Go.Decoder`): it
decodes into what is already there, a null leaves that alone unless it is a pointer or a
slice, and a member no field is meant by is an error for a decoder that disallows unknown
fields (`IngestionLab.Go.Decoder.record`) and nothing for another
(`IngestionLab.Go.Decoder.openRecord`). A `float64` is the number written, and so is a
`float32`: nothing is rounded.

* `IngestionLab.Go.Decoder.record_object`: **an object with the fields of a record, each
  once and in their order, is decoded field by field.**
-/

namespace IngestionLab.Go

variable {α β : Type}

/-- **A decoder** into a value there already is; `none` stands for an error. -/
abbrev Decoder (α : Type) := Json → α → Option α

namespace Decoder

/-! ### Values without parts -/

/-- Into an `int` or an `int64`. -/
def int : Decoder ℤ
  | .null, old => some old
  | json, _ => unmarshalInt (some json)

/-- Into a `float64`. -/
def float : Decoder ℚ
  | .null, old => some old
  | .int value, _ => some value
  | .decimal value, _ => some value
  | _, _ => none

/-- Into an `int32`: no fraction, no exponent, 32 bits. -/
def int32 : Decoder ℤ
  | .null, old => some old
  | .int value, _ => if -2 ^ 31 ≤ value ∧ value < 2 ^ 31 then some value else none
  | _, _ => none

/-- Into a `float32`: what is no less than half a place above the largest of them is out of range. -/
def float32 : Decoder ℚ
  | .null, old => some old
  | json, old => (float json old).filter (|·| < 2 ^ 128 - 2 ^ 103)

/-- Into a `string`. -/
def string : Decoder String
  | .null, old => some old
  | .string value, _ => some value
  | _, _ => none

/-- Into a `bool`. -/
def bool : Decoder Bool
  | .null, old => some old
  | .bool value, _ => some value
  | _, _ => none

/-! ### Slices and pointers -/

/-- The elements of an array, each into the one that stands there, or else into a zero
value. -/
def elements (d : Decoder α) (zero : α) : List Json → List α → Option (List α)
  | [], _ => some []
  | json :: jsons, old => do
    let value ← d json (old.headD zero)
    let values ← elements d zero jsons old.tail
    return value :: values

/-- Into a slice. A nil slice is empty. -/
def slice (d : Decoder α) (zero : α) : Decoder (List α)
  | .null, _ => some []
  | .array jsons, old => elements d zero jsons old
  | _, _ => none

/-- Into a pointer. -/
def pointer (d : Decoder α) (zero : α) : Decoder (Option α)
  | .null, _ => some none
  | json, old => (d json (old.getD zero)).map some

/-! ### Records -/

/-- **A field of a record**: its name, and how a member of that name changes the record. -/
def field (name : String) (get : α → β) (set : α → β → α) (d : Decoder β) : String × Decoder α :=
  (name, fun json old => (d json (get old)).map (set old))

/-- A member of an object, into the field it means. -/
def member (fields : List (String × Decoder α)) (old : α) (m : String × Json) : Option α := do
  let name ← fieldOf (fields.map Prod.fst) m.1
  let d ← fields.lookup name
  d m.2 old

/-- **Into a record**, unknown fields disallowed. -/
def record (fields : List (String × Decoder α)) : Decoder α
  | .null, old => some old
  | .object members, old => members.foldlM (member fields) old
  | _, _ => none

/-- A member of an object, which is passed over where it means no field. -/
def openMember (fields : List (String × Decoder α)) (old : α) (m : String × Json) : Option α :=
  match fieldOf (fields.map Prod.fst) m.1 with
  | none => some old
  | some _ => member fields old m

/-- **Into a record**, unknown fields ignored. -/
def openRecord (fields : List (String × Decoder α)) : Decoder α
  | .null, old => some old
  | .object members, old => members.foldlM (openMember fields) old
  | _, _ => none

/-! ### Lemmas -/

/-- The integer has 32 bits. -/
def IsInt32 (z : ℤ) : Prop := -2 ^ 31 ≤ z ∧ z < 2 ^ 31

theorem int32_int {z : ℤ} (h : IsInt32 z) (old : ℤ) : int32 (.int z) old = some z := if_pos h

/-- The integer has 64 bits. -/
def IsInt64 (z : ℤ) : Prop := -maxInt64 - 1 ≤ z ∧ z ≤ maxInt64

theorem int_int {z : ℤ} (h : IsInt64 z) (old : ℤ) : int (.int z) old = some z := if_pos h

theorem string_string (value old : String) : string (.string value) old = some value := rfl

theorem bool_bool (value old : Bool) : bool (.bool value) old = some value := rfl

theorem elements_eq_map {d : Decoder α} {zero : α} {encode : α → Json}
    {values : List α} (hd : ∀ value ∈ values, ∀ old, d (encode value) old = some value)
    (old : List α) : elements d zero (values.map encode) old = some values := by
  induction values generalizing old with
  | nil => rfl
  | cons value values ih =>
    have hrest : ∀ v ∈ values, ∀ old, d (encode v) old = some v := fun v hv =>
      hd v (List.mem_cons_of_mem value hv)
    rw [List.map_cons, elements, hd value List.mem_cons_self, Option.bind_eq_bind, Option.bind_some,
      ih hrest]
    rfl

theorem fieldOf_of_mem {names : List String} {key : String} (h : key ∈ names) :
    fieldOf names key = some key := by
  have hfind : names.find? (· == key) = some key := by
    induction names with
    | nil => exact absurd h List.not_mem_nil
    | cons name names ih =>
      by_cases heq : name = key
      · rw [List.find?_cons, beq_iff_eq.mpr heq, heq]
      · rw [List.find?_cons, beq_false_of_ne heq]
        exact ih ((List.mem_cons.mp h).resolve_left (Ne.symm heq))
  rw [fieldOf, hfind]
  rfl

theorem lookup_of_mem {fields : List (String × β)} (hnodup : (fields.map Prod.fst).Nodup)
    {f : String × β} (h : f ∈ fields) : fields.lookup f.1 = some f.2 := by
  induction fields with
  | nil => exact absurd h List.not_mem_nil
  | cons g fields ih =>
    obtain ⟨hg, hrest⟩ := List.nodup_cons.mp hnodup
    rcases List.mem_cons.mp h with rfl | hmem
    · exact List.lookup_cons_self
    · have hne : f.1 ≠ g.1 := fun heq => hg (heq ▸ List.mem_map_of_mem hmem)
      rw [List.lookup_cons, beq_false_of_ne hne]
      exact ih hrest hmem

/-- A member with the name of a field goes into that field. -/
theorem member_of_mem {fields : List (String × Decoder α)}
    (hnodup : (fields.map Prod.fst).Nodup) {f : String × Decoder α} (hf : f ∈ fields) (json : Json)
    (old : α) : member fields old (f.1, json) = f.2 json old := by
  rw [member, fieldOf_of_mem (List.mem_map_of_mem hf), Option.bind_eq_bind, Option.bind_some,
    lookup_of_mem hnodup hf, Option.bind_eq_bind, Option.bind_some]

/-- **An object with the fields of a record, each once and in their order, is decoded field
by field.** -/
theorem record_object {fields : List (String × Decoder α)} {members : List (String × Json)}
    (hnodup : (fields.map Prod.fst).Nodup)
    (hnames : members.map Prod.fst = fields.map Prod.fst) (old : α) :
    record fields (.object members) old =
      (fields.zip members).foldlM (fun old x => x.1.2 x.2.2 old) old := by
  -- The rest of the fields, within all of them.
  have hrest : ∀ (rest : List (String × Decoder α)) (members : List (String × Json)) (old : α),
      rest ⊆ fields → members.map Prod.fst = rest.map Prod.fst →
      members.foldlM (member fields) old =
        (rest.zip members).foldlM (fun old x => x.1.2 x.2.2 old) old := by
    intro rest
    induction rest with
    | nil =>
      intro members old _ hnames
      rw [List.map_eq_nil_iff.mp hnames]
      rfl
    | cons f rest ih =>
      intro members old hsub hnames
      cases members with
      | nil => exact absurd hnames nofun
      | cons m members =>
        obtain ⟨hname, hnext⟩ := List.cons.inj hnames
        obtain ⟨key, json⟩ := m
        obtain rfl : key = f.1 := hname
        rw [List.foldlM_cons, member_of_mem hnodup (hsub List.mem_cons_self), List.zip_cons_cons,
          List.foldlM_cons]
        exact congrArg _ (funext fun old =>
          ih members old (fun g hg => hsub (List.mem_cons_of_mem f hg)) hnext)
  exact hrest fields members old (List.Subset.refl _) hnames

/-- Where every member means a field, it makes no difference that others would be passed
over. -/
theorem openRecord_eq_record {fields : List (String × Decoder α)} {members : List (String × Json)}
    (h : members.map Prod.fst = fields.map Prod.fst) (old : α) :
    openRecord fields (.object members) old = record fields (.object members) old := by
  have hmember : ∀ m ∈ members, ∀ old, openMember fields old m = member fields old m := by
    intro m hm old
    have hname : m.1 ∈ fields.map Prod.fst := h ▸ List.mem_map_of_mem hm
    rw [openMember, fieldOf_of_mem hname]
  have hfold : ∀ (rest : List (String × Json)) (old : α), rest ⊆ members →
      rest.foldlM (openMember fields) old = rest.foldlM (member fields) old := by
    intro rest
    induction rest with
    | nil => exact fun _ _ => rfl
    | cons m rest ih =>
      intro old hsub
      rw [List.foldlM_cons, List.foldlM_cons, hmember m (hsub List.mem_cons_self)]
      exact congrArg _ (funext fun old => ih old fun x hx => hsub (List.mem_cons_of_mem m hx))
  exact hfold members old (List.Subset.refl _)

/-- Into a slice that is empty, each element goes into a zero value. -/
theorem elements_eq_some_iff {d : Decoder α} {zero : α} {jsons : List Json} {values : List α} :
    elements d zero jsons [] = some values ↔
      List.Forall₂ (fun json value => d json zero = some value) jsons values := by
  induction jsons generalizing values with
  | nil => rw [elements, Option.some_inj, eq_comm, List.forall₂_nil_left_iff]
  | cons json jsons ih =>
    rw [elements, List.headD_nil, List.tail_nil, List.forall₂_cons_left_iff]
    simp only [Option.bind_eq_bind, Option.bind_eq_some_iff, ih, Option.pure_def, Option.some_inj]
    constructor
    · rintro ⟨value, hvalue, values, hvalues, rfl⟩
      exact ⟨value, values, hvalue, hvalues, rfl⟩
    · rintro ⟨value, values, hvalue, hvalues, rfl⟩
      exact ⟨value, hvalue, values, hvalues, rfl⟩

/-- A slice can be decoded if every element can. -/
theorem exists_forall₂_iff {d : Decoder α} {zero : α} {jsons : List Json} :
    (∃ values, List.Forall₂ (fun json value => d json zero = some value) jsons values) ↔
      ∀ json ∈ jsons, (d json zero).isSome = true := by
  constructor
  · rintro ⟨values, hall⟩ json hjson
    induction hall with
    | nil => exact absurd hjson List.not_mem_nil
    | cons hvalue _ ih =>
      rcases List.mem_cons.mp hjson with rfl | hjson
      · exact Option.isSome_of_eq_some hvalue
      · exact ih hjson
  · intro h
    induction jsons with
    | nil => exact ⟨[], .nil⟩
    | cons json jsons ih =>
      obtain ⟨value, hvalue⟩ := Option.isSome_iff_exists.mp (h json List.mem_cons_self)
      obtain ⟨values, hvalues⟩ := ih fun json hjson => h json (List.mem_cons_of_mem _ hjson)
      exact ⟨value :: values, .cons hvalue hvalues⟩

/-- Only a null is decoded into a nil pointer. -/
theorem pointer_eq_some_none_iff {d : Decoder α} {zero : α} {json : Json} {old : Option α} :
    pointer d zero json old = some none ↔ json = .null := by
  cases json with
  | null => exact ⟨fun _ => rfl, fun _ => rfl⟩
  | _ => simp [pointer]

theorem isSome_pointer {d : Decoder α} {zero : α} {json : Json} (hnull : json ≠ .null) :
    (pointer d zero json none).isSome = (d json zero).isSome := by
  rw [pointer.eq_def]
  cases json <;> first | exact absurd rfl hnull | exact Option.isSome_map

/-- Where there is no null every element can be pointed to. -/
theorem forall₂_pointer {d : Decoder α} {zero : α} {jsons : List Json} {values : List α}
    (hnull : .null ∉ jsons) (h : List.Forall₂ (fun json value => d json zero = some value) jsons values) :
    List.Forall₂ (fun json value => pointer d zero json none = some value) jsons
      (values.map some) := by
  induction h with
  | nil => exact .nil
  | @cons json value _ _ hvalue _ ih =>
    obtain ⟨hne, hrest⟩ := List.ne_and_not_mem_of_not_mem_cons hnull
    refine .cons ?_ (ih hrest)
    rw [pointer.eq_def]
    split
    · exact absurd rfl hne
    · rw [Option.getD_none, hvalue]
      rfl

/-- A nil pointer among the elements of a slice was a null. -/
theorem any_isNone_iff {d : Decoder α} {zero : α} {jsons : List Json} {values : List (Option α)}
    (h : List.Forall₂ (fun json value => pointer d zero json none = some value) jsons values) :
    values.any Option.isNone = true ↔ Json.null ∈ jsons := by
  induction h with
  | nil => simp
  | @cons json value _ _ hvalue _ ih =>
    rw [List.any_cons, Bool.or_eq_true, ih, List.mem_cons, eq_comm (a := Json.null),
      ← pointer_eq_some_none_iff (d := d), hvalue, Option.some_inj,
      Option.isNone_iff_eq_none]

/-! ### Two types of one shape -/

/-- **Two decoders do the same**, seen through a map of what they decode. -/
def Alike (f : α → β) (d : Decoder α) (d' : Decoder β) : Prop :=
  ∀ json old, (d json old).map f = d' json (f old)

theorem alike_field {γ : Type} {f : α → β} (name : String) (d : Decoder γ) {get : α → γ}
    {set : α → γ → α} {get' : β → γ} {set' : β → γ → β} (hget : ∀ old, get' (f old) = get old)
    (hset : ∀ old value, f (set old value) = set' (f old) value) :
    Alike f (field name get set d).2 (field name get' set' d).2 := by
  intro json old
  have hset' : f ∘ set old = set' (f old) := funext (hset old)
  rw [field, field]
  dsimp only
  rw [Option.map_map, hget, hset']

/-- Records are decoded alike if their fields have the same names and are decoded alike. -/
theorem alike_openRecord {f : α → β} {fields : List (String × Decoder α)}
    {fields' : List (String × Decoder β)}
    (h : List.Forall₂ (fun x y => x.1 = y.1 ∧ Alike f x.2 y.2) fields fields') :
    Alike f (openRecord fields) (openRecord fields') := by
  have hnames : fields.map Prod.fst = fields'.map Prod.fst := by
    induction h with
    | nil => rfl
    | cons hxy _ ih => rw [List.map_cons, List.map_cons, hxy.1, ih]
  have hlookup : ∀ name, Option.Rel (Alike f) (fields.lookup name) (fields'.lookup name) := by
    intro name
    clear hnames
    induction h with
    | nil => exact .none
    | @cons x y _ _ hxy _ ih =>
      rw [List.lookup_cons, List.lookup_cons, hxy.1]
      split
      · exact .some hxy.2
      · exact ih
  have hmember : ∀ old m, (openMember fields old m).map f = openMember fields' (f old) m := by
    intro old m
    rw [openMember, openMember, member, member, ← hnames]
    cases fieldOf (fields.map Prod.fst) m.1 with
    | none => rfl
    | some name =>
      have hrel := hlookup name
      simp only [Option.bind_eq_bind, Option.bind_some]
      generalize fields.lookup name = found, fields'.lookup name = found' at hrel ⊢
      cases hrel with
      | none => rfl
      | some hd => exact hd m.2 old
  intro json old
  cases json with
  | null => rfl
  | object members =>
    rw [openRecord, openRecord]
    induction members generalizing old with
    | nil => rfl
    | cons m members ih =>
      rw [List.foldlM_cons, List.foldlM_cons, ← hmember]
      cases openMember fields old m with
      | none => rfl
      | some next => exact ih next
  | _ => rfl

end Decoder

/-! ### Raw messages -/

/-- `json.Unmarshal` into a `map[string]json.RawMessage`, of a message that may be missing. A
nil map is empty. -/
def rawMap : Option Json → Option (List (String × Json))
  | some (.object members) => some members
  | some .null => some []
  | _ => none

/-- The raw message under a key, the last of that name. -/
def rawGet (members : List (String × Json)) (key : String) : Option Json :=
  members.reverse.lookup key

theorem isSome_rawGet {members : List (String × Json)} {key : String}
    (h : key ∈ members.map Prod.fst) : (rawGet members key).isSome = true := by
  rw [List.mem_map] at h
  obtain ⟨m, hm, rfl⟩ := h
  rw [rawGet, Option.isSome_iff_ne_none, ne_eq, List.lookup_eq_none_iff]
  intro hnone
  exact absurd (hnone m (List.mem_reverse.mpr hm)) (by simp)

end IngestionLab.Go
