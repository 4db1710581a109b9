import Mathlib.Data.Rat.Defs

/-!
# JSON

A JSON text is modelled as the tree it stands for (`IngestionLab.Json`): what is left out
is how its tokens are spelled. The number that has neither a fraction nor an exponent is
told from the others, since an integer type takes no other.
-/

namespace IngestionLab

/-- **A JSON text.** -/
inductive Json
  | null
  | bool (value : Bool)
  /-- A number without fraction and exponent. -/
  | int (value : ℤ)
  | decimal (value : ℚ)
  | string (value : String)
  | array (values : List Json)
  | object (fields : List (String × Json))

/-- What stands at an endpoint: some JSON texts, one after the other, and whether nothing
else follows them. -/
structure Json.Stream where
  values : List Json
  ends : Bool := true

end IngestionLab
