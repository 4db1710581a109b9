import IngestionLab.Json
import IngestionLab.JS.Number
import Mathlib.Data.List.Sort

/-!
# Values of JavaScript

What a program has that does not know the type of a value: the value with its kind
(`IngestionLab.JS.Value`). An object is here the list of its fields, in the order in
which they were added; a field that is added once more has its last value.

`IngestionLab.JS.parse` and `IngestionLab.JS.stringify` are those of the object `JSON`.
-/

namespace IngestionLab.JS

/-- **A value**, of any type. -/
inductive Value
  | undefined
  | null
  | boolean (value : Bool)
  | number (value : Number)
  | string (value : String)
  | array (values : List Value)
  | object (fields : List (String × Value))

namespace Value

/-- A field of an object, `undefined` where it has none of that name. -/
def get : Value → String → Value
  | .object fields, key => (fields.reverse.lookup key).getD .undefined
  | _, _ => .undefined

/-- `Object.keys`, of an object. -/
def keys : Value → List String
  | .object fields => (fields.map Prod.fst).dedup
  | _ => []

/-- The value is this string (`value === s`). -/
def isString : Value → String → Bool
  | .string value, s => value == s
  | _, _ => false

/-- The value is this number (`value === n`). -/
def isNumber : Value → Number → Bool
  | .number .nan, _ => false
  | .number value, n => value == n
  | _, _ => false

/-! What a value is once its type is known. -/

def toNumber : Value → Number
  | .number value => value
  | _ => .nan

def toStr : Value → String
  | .string value => value
  | _ => ""

def toBool : Value → Bool
  | .boolean value => value
  | _ => false

def toList : Value → List Value
  | .array values => values
  | _ => []

end Value

/-! ### JSON -/

mutual

/-- `JSON.parse`. -/
def parse : Json → Value
  | .null => .null
  | .bool value => .boolean value
  | .int value => .number value
  | .decimal value => .number (.finite value)
  | .string value => .string value
  | .array values => .array (parseValues values)
  | .object fields => .object (parseFields fields)

def parseValues : List Json → List Value
  | [] => []
  | value :: values => parse value :: parseValues values

def parseFields : List (String × Json) → List (String × Value)
  | [] => []
  | (key, value) :: fields => (key, parse value) :: parseFields fields

end

/-- A number in JSON. The integers from 10²¹ on are written with an exponent, and what is
no finite number is written as null. -/
def stringifyNumber : Number → Json
  | .finite value =>
    if value.isInt ∧ -10 ^ 21 < value ∧ value < 10 ^ 21 then .int value.num else .decimal value
  | .infinity _ | .nan => .null

mutual

/-- `JSON.stringify`. What is undefined is null in an array and missing in an object. -/
def stringify : Value → Json
  | .undefined => .null
  | .null => .null
  | .boolean value => .bool value
  | .number value => stringifyNumber value
  | .string value => .string value
  | .array values => .array (stringifyValues values)
  | .object fields => .object (stringifyFields fields)

def stringifyValues : List Value → List Json
  | [] => []
  | value :: values => stringify value :: stringifyValues values

def stringifyFields : List (String × Value) → List (String × Json)
  | [] => []
  | (_, .undefined) :: fields => stringifyFields fields
  | (key, value) :: fields => (key, stringify value) :: stringifyFields fields

end

theorem parseValues_eq_map (values : List Json) : parseValues values = values.map parse := by
  induction values with
  | nil => rfl
  | cons value values ih => rw [parseValues, ih, List.map_cons]

end IngestionLab.JS
