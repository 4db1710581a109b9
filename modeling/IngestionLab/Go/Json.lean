import IngestionLab.Go.Arith
import IngestionLab.Json

/-!
# Decoding JSON in Go

The parts of `encoding/json` a handler leans on. What is decoded is a text that may be
empty, as a `json.RawMessage` is where its field is missing; `none` as a result stands for
an error. A null leaves what it is decoded into as it is.
-/

namespace IngestionLab.Go

/-- `json.Unmarshal` into an `int` that is zero: no fraction, no exponent, 64 bits. -/
def unmarshalInt : Option Json → Option ℤ
  | some (.int value) => if -maxInt64 - 1 ≤ value ∧ value ≤ maxInt64 then some value else none
  | some .null => some 0
  | _ => none

/-- `json.Unmarshal` into a `*bool` that is nil. -/
def unmarshalBoolPointer : Option Json → Option (Option Bool)
  | some (.bool value) => some (some value)
  | some .null => some none
  | _ => none

/-- The letter a sign is read as, among the letters of the names of fields: its lower case; the
long s and the sign of the kelvin are letters too. -/
def foldRune (c : Char) : Char :=
  if c = Char.ofNat 0x17F then 's' else if c = Char.ofNat 0x212A then 'k' else c.toLower

/-- `foldName`. -/
def foldName (name : String) : String := name.map foldRune

/-- The field of a struct a key stands for: the one of that name, or of that name but for
its case. -/
def fieldOf (names : List String) (key : String) : Option String :=
  (names.find? (· == key)).or (names.find? (foldName · == foldName key))

end IngestionLab.Go
