import IngestionLab.JS.Number
import Mathlib.Algebra.Order.Field.Rat
import Mathlib.Algebra.Order.Group.Abs
import Mathlib.Data.List.Sort

/-!
# The cable of a channel

The model of the parts of `components/pipeline/channelCableGeometry.ts` that calculate: the
places along an axis that are left for the legs of a cable, and the handle of the cable,
whose height stands for a capacity. Arithmetic is that of the rationals. A list of values
that is not given is empty, which makes no difference to the functions here.
-/

namespace IngestionLab.Frontend

open JS

/-! ### Places along an axis -/

/-- `spacedCoordinates`. -/
def spacedCoordinates (start stop : ℚ) (count : ℕ) : List ℚ :=
  if count = 1 then [(start + stop) / 2]
  else (List.range count).map fun (index : ℕ) => start + index / (count - 1) * (stop - start)

/-- `AxisRange`, whose `end` is called `stop`. -/
structure AxisRange where
  start : ℚ
  stop : ℚ
  deriving DecidableEq, Repr

/-- One round of the loop of `mergeAxisRanges`. What has been merged stands in reverse. -/
def mergeAxisRange (merged : List AxisRange) (range : AxisRange) : List AxisRange :=
  match merged with
  | [] => [range]
  | previous :: rest =>
    if previous.stop < range.start then range :: previous :: rest
    else ⟨previous.start, max previous.stop range.stop⟩ :: rest

/-- The ranges as `mergeAxisRanges` looks at them: clipped, and in order. -/
def clippedRanges (start stop : ℚ) (ranges : List AxisRange) : List AxisRange :=
  ((ranges.map fun range => AxisRange.mk (max start range.start) (min stop range.stop)).filter
    fun range => range.start < range.stop).insertionSort fun left right => left.start ≤ right.start

/-- **`mergeAxisRanges`.** -/
def mergeAxisRanges (start stop : ℚ) (ranges : List AxisRange) : List AxisRange :=
  ((clippedRanges start stop ranges).foldl mergeAxisRange []).reverse

/-- The loop over the ranges in `spacedCoordinatesAroundForbiddenRanges`, which ends at the first
range the coordinate is not beyond the start of. -/
def aroundRanges (coordinate : ℚ) : List AxisRange → ℚ
  | [] => coordinate
  | range :: ranges =>
    if coordinate ≤ range.start then coordinate
    else aroundRanges (coordinate + (range.stop - range.start)) ranges

/-- What the ranges leave of the axis. -/
def availableSpan (start stop : ℚ) (ranges : List AxisRange) : ℚ :=
  stop - start - ranges.foldl (fun total range => total + range.stop - range.start) 0

/-- **`spacedCoordinatesAroundForbiddenRanges`.** -/
def spacedCoordinatesAroundForbiddenRanges (start stop : ℚ) (count : ℕ)
    (forbidden : List AxisRange) : List ℚ :=
  let ranges := mergeAxisRanges start stop forbidden
  let available := availableSpan start stop ranges
  if available ≤ 0 then []
  else (spacedCoordinates 0 available count).map fun offset => aroundRanges (start + offset) ranges

/-! ### Capacities -/

/-- `CapacityRange`. -/
structure CapacityRange where
  min : ℚ
  max : ℚ
  step : ℚ
  deriving DecidableEq, Repr

/-- `decimalPlaces`, of a number that is written as a decimal fraction. -/
def decimalPlaces (value : ℚ) : ℕ :=
  ((List.range (value.den + 1)).find? (value.den ∣ 10 ^ ·)).getD 0

/-- `Number(value.toFixed(digits))`: the sign is kept apart, and halves are rounded up. -/
def toFixed (value : ℚ) (digits : ℕ) : ℚ :=
  if value < 0 then -(mathRound (-value * 10 ^ digits) / 10 ^ digits)
  else mathRound (value * 10 ^ digits) / 10 ^ digits

/-- The one of two values that is closer, the first where both are as close. -/
def closer (bounded closest candidate : ℚ) : ℚ :=
  if |candidate - bounded| < |closest - bounded| then candidate else closest

/-- **`normalizeCapacity`.** -/
def normalizeCapacity (value : Number) (range : CapacityRange) (values : List ℚ) : ℚ :=
  match value with
  | .finite value =>
    let bounded := min range.max (max range.min value)
    match values with
    | first :: rest => rest.foldl (closer bounded) first
    | [] =>
      let step := if 0 < range.step then range.step else 1
      let stepped := range.min + mathRound ((bounded - range.min) / step) * step
      let precision :=
        max (decimalPlaces range.min) (max (decimalPlaces range.max) (decimalPlaces step))
      toFixed (min range.max (max range.min stepped)) precision
  | _ => range.min

/-- `capacityIndex`, with the -1 of `indexOf`. -/
def capacityIndex (value : Number) (range : CapacityRange) (values : List ℚ) : ℤ :=
  let normalized := normalizeCapacity value range values
  if normalized ∈ values then values.idxOf normalized else -1

/-- `values[index]`, where it is not undefined. -/
def valueAt (values : List ℚ) (index : ℤ) : Option ℚ :=
  if index < 0 then none else values[index.toNat]?

/-- An index, within the list. -/
def clampIndex (values : List ℚ) (index : ℤ) : ℤ := min (values.length - 1) (max 0 index)

/-- **`capacityToCableY`.** -/
def capacityToCableY (capacity : Number) (range : CapacityRange) (baseline maxLift : ℚ)
    (values : List ℚ) : ℚ :=
  if 1 < values.length ∧ 0 < maxLift then
    baseline - capacityIndex capacity range values / (values.length - 1 : ℤ) * maxLift
  else
    let span := range.max - range.min
    if span ≤ 0 ∨ maxLift ≤ 0 then baseline
    else
      let normalized := normalizeCapacity capacity range values
      baseline - (normalized - range.min) / span * maxLift

/-- **`cableYToCapacity`.** -/
def cableYToCapacity (y : ℚ) (range : CapacityRange) (baseline maxLift : ℚ) (values : List ℚ) :
    Option ℚ :=
  let ratio := min 1 (max 0 ((baseline - y) / maxLift))
  if 1 < values.length ∧ 0 < maxLift then
    valueAt values (mathRound (ratio * (values.length - 1 : ℤ)))
  else if maxLift ≤ 0 ∨ range.max ≤ range.min then some range.min
  else some (normalizeCapacity (.finite (range.min + ratio * (range.max - range.min))) range values)

/-- `initialCapacity + capacityDelta`. -/
def addCapacity (capacity : Number) (delta : ℚ) : Number :=
  match capacity with
  | .finite value => .finite (value + delta)
  | capacity => capacity

/-- **`capacityFromVerticalDrag`.** -/
def capacityFromVerticalDrag (initialCapacity : Number) (pointerDeltaY : ℚ) (range : CapacityRange)
    (maxLift : ℚ) (values : List ℚ) : Option ℚ :=
  if 1 < values.length ∧ 0 < maxLift then
    let initialIndex := capacityIndex initialCapacity range values
    let indexDelta := mathRound (-pointerDeltaY / maxLift * (values.length - 1 : ℤ))
    valueAt values (clampIndex values (initialIndex + indexDelta))
  else if maxLift ≤ 0 ∨ range.max ≤ range.min then
    some (normalizeCapacity initialCapacity range values)
  else
    let capacityDelta := -pointerDeltaY / maxLift * (range.max - range.min)
    some (normalizeCapacity (addCapacity initialCapacity capacityDelta) range values)

/-- Where a key takes an index, of a list whose last index is given. -/
def keyIndex (key : String) (currentIndex last : ℤ) : Option ℤ :=
  match key with
  | "ArrowUp" | "ArrowRight" => some (currentIndex + 1)
  | "ArrowDown" | "ArrowLeft" => some (currentIndex - 1)
  | "PageUp" => some (currentIndex + 5)
  | "PageDown" => some (currentIndex - 5)
  | "Home" => some 0
  | "End" => some last
  | _ => none

/-- Where a key takes a capacity, of a range with steps. -/
def keyCapacity (key : String) (currentCapacity : Number) (range : CapacityRange) : Option Number :=
  match key with
  | "ArrowUp" | "ArrowRight" => some (addCapacity currentCapacity range.step)
  | "ArrowDown" | "ArrowLeft" => some (addCapacity currentCapacity (-range.step))
  | "PageUp" => some (addCapacity currentCapacity (range.step * 5))
  | "PageDown" => some (addCapacity currentCapacity (-(range.step * 5)))
  | "Home" => some (.finite range.min)
  | "End" => some (.finite range.max)
  | _ => none

/-- **`capacityFromKeyboard`**: nothing, where the key is not one of those. -/
def capacityFromKeyboard (key : String) (currentCapacity : Number) (range : CapacityRange)
    (values : List ℚ) : Option ℚ :=
  if 0 < values.length then
    (keyIndex key (capacityIndex currentCapacity range values) (values.length - 1)).bind fun index =>
      valueAt values (clampIndex values index)
  else
    (keyCapacity key currentCapacity range).map fun capacity =>
      normalizeCapacity capacity range values

end IngestionLab.Frontend
