import IngestionLab.Frontend.ChannelCableGeometry
import Mathlib.Data.Rat.Floor
import Mathlib.Tactic.FieldSimp
import Mathlib.Tactic.Linarith
import Mathlib.Tactic.Ring

/-!
# The handle of a cable

A scale of allowed capacities divides the lift of a cable evenly
(`IngestionLab.Frontend.CapacityScale`). Every capacity is brought to an allowed one first,
and an allowed one to itself, by `normalizeCapacity`; so the place of the handle and the
capacity it stands for determine each other, and a drag or a key leads from one allowed
capacity to another (`IngestionLab.Frontend.capacityHandle_agrees`).
-/

namespace IngestionLab.Frontend

open JS

/-! ### The closest value -/

section

variable (bounded : ℚ)

theorem closer_eq_or (a b : ℚ) : closer bounded a b = a ∨ closer bounded a b = b := by
  rw [closer]
  split_ifs
  · exact .inr rfl
  · exact .inl rfl

theorem abs_closer_sub_le (a b : ℚ) :
    |closer bounded a b - bounded| ≤ |a - bounded| ∧
      |closer bounded a b - bounded| ≤ |b - bounded| := by
  rw [closer]
  split_ifs with h
  · exact ⟨h.le, le_rfl⟩
  · exact ⟨le_rfl, not_lt.mp h⟩

/-- The closest of some values is one of them, and none is closer. -/
theorem foldl_closer_spec (first : ℚ) (rest : List ℚ) :
    rest.foldl (closer bounded) first ∈ first :: rest ∧
      ∀ value ∈ first :: rest,
        |rest.foldl (closer bounded) first - bounded| ≤ |value - bounded| := by
  induction rest generalizing first with
  | nil =>
    refine ⟨List.mem_cons_self, fun value hvalue => ?_⟩
    rw [List.mem_singleton.mp hvalue]
    rfl
  | cons next rest ih =>
    obtain ⟨hmem, hle⟩ := ih (closer bounded first next)
    obtain ⟨hfirst, hnext⟩ := abs_closer_sub_le bounded first next
    have hclosest := hle _ List.mem_cons_self
    rw [List.foldl_cons]
    refine ⟨?_, fun value hvalue => ?_⟩
    · rcases List.mem_cons.mp hmem with heq | hmem
      · rw [heq]
        rcases closer_eq_or bounded first next with h | h <;> simp [h]
      · simp [hmem]
    · rcases List.mem_cons.mp hvalue with rfl | hvalue
      · exact hclosest.trans hfirst
      · rcases List.mem_cons.mp hvalue with rfl | hvalue
        · exact hclosest.trans hnext
        · exact hle value (List.mem_cons_of_mem _ hvalue)

end

/-! ### Scales -/

/-- **A scale**: values that grow, of which the range names the first and the last. -/
structure CapacityScale (range : CapacityRange) (values : List ℚ) : Prop where
  increasing : values.Pairwise (· < ·)
  two_le : 2 ≤ values.length
  head : values.head? = some range.min
  last : values.getLast? = some range.max

section

variable {range : CapacityRange} {values : List ℚ}

theorem CapacityScale.mem_range (h : CapacityScale range values) {value : ℚ} (hvalue : value ∈ values) :
    range.min ≤ value ∧ value ≤ range.max := by
  obtain ⟨rest, hrest⟩ := List.head?_eq_some_iff.mp h.head
  obtain ⟨front, hfront⟩ := List.getLast?_eq_some_iff.mp h.last
  constructor
  · have hincreasing := h.increasing
    rw [hrest] at hincreasing hvalue
    rcases List.mem_cons.mp hvalue with rfl | hvalue
    · exact le_rfl
    · exact ((List.pairwise_cons.mp hincreasing).1 value hvalue).le
  · have hincreasing := h.increasing
    rw [hfront] at hincreasing hvalue
    rcases List.mem_append.mp hvalue with hvalue | hvalue
    · exact ((List.pairwise_append.mp hincreasing).2.2 value hvalue _ List.mem_cons_self).le
    · exact (List.mem_singleton.mp hvalue).le

/-- **An allowed capacity is brought to itself**. -/
theorem normalizeCapacity_of_mem (h : CapacityScale range values) {value : ℚ}
    (hvalue : value ∈ values) : normalizeCapacity (.finite value) range values = value := by
  obtain ⟨hmin, hmax⟩ := h.mem_range hvalue
  cases values with
  | nil => exact absurd hvalue List.not_mem_nil
  | cons first rest =>
    have hclosest := (foldl_closer_spec value first rest).2 value hvalue
    rw [sub_self, abs_zero] at hclosest
    rw [normalizeCapacity, max_eq_right hmin, min_eq_right hmax]
    exact sub_eq_zero.mp (abs_nonpos_iff.mp hclosest)

/-- The index of an allowed capacity. -/
theorem capacityIndex_of_mem (h : CapacityScale range values) {value : ℚ} (hvalue : value ∈ values) :
    capacityIndex (.finite value) range values = values.idxOf value := by
  rw [capacityIndex, normalizeCapacity_of_mem h hvalue, if_pos hvalue]

theorem idxOf_le {value : ℚ} (hvalue : value ∈ values) :
    (values.idxOf value : ℤ) ≤ values.length - 1 := by
  have := List.idxOf_lt_length_of_mem hvalue
  omega

/-- The value at an index of the list. -/
theorem valueAt_idxOf {value : ℚ} (hvalue : value ∈ values) :
    valueAt values (values.idxOf value) = some value := by
  rw [valueAt, if_neg (by omega), Int.toNat_natCast]
  exact List.getElem?_idxOf hvalue

/-- An index within the list has a value. -/
theorem exists_valueAt {index : ℤ} (h0 : 0 ≤ index) (h1 : index ≤ values.length - 1) :
    ∃ value ∈ values, valueAt values index = some value := by
  have hlt : index.toNat < values.length := by omega
  rw [valueAt, if_neg (not_lt.mpr h0)]
  exact ⟨values[index.toNat], List.getElem_mem hlt, List.getElem?_eq_getElem hlt⟩

theorem exists_valueAt_clampIndex (h : CapacityScale range values) (index : ℤ) :
    ∃ value ∈ values, valueAt values (clampIndex values index) = some value := by
  have := h.two_le
  rw [clampIndex]
  exact exists_valueAt (by omega) (by omega)

/-- Values grow with their index. -/
theorem valueAt_mono (h : CapacityScale range values) {i j : ℤ} (hij : i ≤ j) {v w : ℚ}
    (hv : valueAt values i = some v) (hw : valueAt values j = some w) : v ≤ w := by
  rw [valueAt] at hv hw
  split_ifs at hv hw with hi hj
  obtain ⟨hi', rfl⟩ := List.getElem?_eq_some_iff.mp hv
  obtain ⟨hj', rfl⟩ := List.getElem?_eq_some_iff.mp hw
  rcases hij.eq_or_lt with rfl | hlt
  · exact le_rfl
  · exact (List.pairwise_iff_getElem.mp h.increasing _ _ hi' hj' (by omega)).le

/-! ### The handle -/

variable {baseline maxLift : ℚ}

/-- The place of the handle for an allowed capacity. -/
theorem capacityToCableY_of_mem (h : CapacityScale range values) (hlift : 0 < maxLift) {value : ℚ}
    (hvalue : value ∈ values) :
    capacityToCableY (.finite value) range baseline maxLift values =
      baseline - values.idxOf value / (values.length - 1 : ℤ) * maxLift := by
  rw [capacityToCableY, if_pos ⟨h.two_le, hlift⟩, capacityIndex_of_mem h hvalue, Int.cast_natCast]

/-- **From a capacity to a place and back**. -/
theorem cableYToCapacity_capacityToCableY (h : CapacityScale range values) (hlift : 0 < maxLift)
    {value : ℚ} (hvalue : value ∈ values) :
    cableYToCapacity (capacityToCableY (.finite value) range baseline maxLift values) range baseline
      maxLift values = some value := by
  have hcount : (0 : ℚ) < (values.length - 1 : ℤ) := by
    have := h.two_le
    exact mod_cast (by omega : (0 : ℤ) < values.length - 1)
  have hidx : (values.idxOf value : ℚ) ≤ (values.length - 1 : ℤ) := by
    exact_mod_cast idxOf_le hvalue
  have hratio : (baseline - (baseline - values.idxOf value / (values.length - 1 : ℤ) * maxLift)) /
      maxLift = values.idxOf value / (values.length - 1 : ℤ) := by
    rw [sub_sub_cancel, mul_div_cancel_right₀ _ hlift.ne']
  have hround : mathRound (values.idxOf value / (values.length - 1 : ℤ) * (values.length - 1 : ℤ)) =
      values.idxOf value := by
    rw [div_mul_cancel₀ _ hcount.ne']
    exact mathRound_intCast (values.idxOf value)
  rw [capacityToCableY_of_mem h hlift hvalue, cableYToCapacity, hratio,
    if_pos ⟨h.two_le, hlift⟩, max_eq_right (by positivity), min_eq_right ((div_le_one hcount).mpr hidx),
    hround, valueAt_idxOf hvalue]

/-- **A drag by the distance between two places** leads from the one capacity to the other. -/
theorem capacityFromVerticalDrag_sub (h : CapacityScale range values) (hlift : 0 < maxLift)
    {value value' : ℚ} (hvalue : value ∈ values) (hvalue' : value' ∈ values) :
    capacityFromVerticalDrag (.finite value)
      (capacityToCableY (.finite value') range baseline maxLift values -
        capacityToCableY (.finite value) range baseline maxLift values) range maxLift values =
      some value' := by
  have hcount : ((values.length - 1 : ℤ) : ℚ) ≠ 0 := by
    have := h.two_le
    exact_mod_cast (by omega : (values.length - 1 : ℤ) ≠ 0)
  have hdelta : -(baseline - values.idxOf value' / (values.length - 1 : ℤ) * maxLift -
      (baseline - values.idxOf value / (values.length - 1 : ℤ) * maxLift)) / maxLift *
        (values.length - 1 : ℤ) = ((values.idxOf value' - values.idxOf value : ℤ) : ℚ) := by
    have hliftne := hlift.ne'
    push_cast at hcount ⊢
    field_simp
    ring
  have hindex : clampIndex values (values.idxOf value + (values.idxOf value' - values.idxOf value)) =
      values.idxOf value' := by
    have := idxOf_le hvalue'
    rw [clampIndex]
    omega
  rw [capacityToCableY_of_mem h hlift hvalue, capacityToCableY_of_mem h hlift hvalue',
    capacityFromVerticalDrag, if_pos ⟨h.two_le, hlift⟩, hdelta, mathRound_intCast,
    capacityIndex_of_mem h hvalue]
  dsimp only
  rw [hindex, valueAt_idxOf hvalue']

/-- A drag leads to an allowed capacity. -/
theorem exists_capacityFromVerticalDrag (h : CapacityScale range values) (hlift : 0 < maxLift)
    (current : Number) (pointerDeltaY : ℚ) :
    ∃ value ∈ values,
      capacityFromVerticalDrag current pointerDeltaY range maxLift values = some value := by
  rw [capacityFromVerticalDrag, if_pos ⟨h.two_le, hlift⟩]
  exact exists_valueAt_clampIndex h _

/-- A drag farther down leads to no greater capacity. -/
theorem capacityFromVerticalDrag_anti (h : CapacityScale range values) (hlift : 0 < maxLift)
    {current : Number} {delta delta' v v' : ℚ} (hdelta : delta ≤ delta')
    (hv : capacityFromVerticalDrag current delta range maxLift values = some v)
    (hv' : capacityFromVerticalDrag current delta' range maxLift values = some v') : v' ≤ v := by
  rw [capacityFromVerticalDrag, if_pos ⟨h.two_le, hlift⟩] at hv hv'
  have hcount : (0 : ℚ) ≤ (values.length - 1 : ℤ) := by
    have := h.two_le
    exact mod_cast (by omega : (0 : ℤ) ≤ values.length - 1)
  have hround := mathRound_mono (mul_le_mul_of_nonneg_right
    (div_le_div_of_nonneg_right (neg_le_neg hdelta) hlift.le) hcount)
  refine valueAt_mono h ?_ hv' hv
  rw [clampIndex, clampIndex]
  omega

/-- The keys that change a capacity. -/
def capacityKeys : List String :=
  ["ArrowUp", "ArrowRight", "ArrowDown", "ArrowLeft", "PageUp", "PageDown", "Home", "End"]

theorem isSome_keyIndex (key : String) (index last : ℤ) :
    (keyIndex key index last).isSome = true ↔ key ∈ capacityKeys := by
  rw [keyIndex.eq_def]
  split <;> simp_all [capacityKeys]

/-- Each of these keys leads to an allowed capacity, and no other key does anything. -/
theorem exists_capacityFromKeyboard (h : CapacityScale range values) (key : String)
    (current : Number) :
    if key ∈ capacityKeys then
      ∃ value ∈ values, capacityFromKeyboard key current range values = some value
    else capacityFromKeyboard key current range values = none := by
  have hpos : 0 < values.length := by
    have := h.two_le
    omega
  rw [capacityFromKeyboard, if_pos hpos]
  have hkey := isSome_keyIndex key (capacityIndex current range values) (values.length - 1)
  cases hindex : keyIndex key (capacityIndex current range values) (values.length - 1) with
  | none =>
    rw [hindex] at hkey
    rw [if_neg (mt hkey.mpr (by decide))]
    rfl
  | some index =>
    rw [hindex] at hkey
    rw [if_pos (hkey.mp rfl)]
    exact exists_valueAt_clampIndex h index

/-- **The handle of a cable**: its place and the capacity it stands for agree, and what moves it leads
from one allowed capacity to another. -/
theorem capacityHandle_agrees (h : CapacityScale range values) (hlift : 0 < maxLift)
    (baseline : ℚ) :
    (∀ value ∈ values, cableYToCapacity (capacityToCableY (.finite value) range baseline maxLift values)
      range baseline maxLift values = some value) ∧
    (∀ value ∈ values, ∀ value' ∈ values, capacityFromVerticalDrag (.finite value)
      (capacityToCableY (.finite value') range baseline maxLift values -
        capacityToCableY (.finite value) range baseline maxLift values) range maxLift values =
          some value') ∧
    (∀ current pointerDeltaY, ∃ value ∈ values,
      capacityFromVerticalDrag current pointerDeltaY range maxLift values = some value) ∧
    (∀ key ∈ capacityKeys, ∀ current, ∃ value ∈ values,
      capacityFromKeyboard key current range values = some value) ∧
    ∀ current delta delta' v v', delta ≤ delta' →
      capacityFromVerticalDrag current delta range maxLift values = some v →
      capacityFromVerticalDrag current delta' range maxLift values = some v' → v' ≤ v := by
  refine ⟨fun _ => cableYToCapacity_capacityToCableY h hlift,
    fun _ hvalue _ => capacityFromVerticalDrag_sub h hlift hvalue,
    exists_capacityFromVerticalDrag h hlift, fun key hkey current => ?_,
    fun _ _ _ _ _ => capacityFromVerticalDrag_anti h hlift⟩
  have hmem := exists_capacityFromKeyboard h key current
  rwa [if_pos hkey] at hmem

end

/-- The scale of 0, 1, 2, 8, 64 and 8192: from the place of 2 to the place of 64. -/
theorem drag_from_2_to_64 :
    capacityFromVerticalDrag (.finite 2)
      (capacityToCableY (.finite 64) ⟨0, 8192, 1⟩ 415 240 [0, 1, 2, 8, 64, 8192] -
        capacityToCableY (.finite 2) ⟨0, 8192, 1⟩ 415 240 [0, 1, 2, 8, 64, 8192])
      ⟨0, 8192, 1⟩ 240 [0, 1, 2, 8, 64, 8192] = some 64 :=
  have hscale : CapacityScale ⟨0, 8192, 1⟩ [0, 1, 2, 8, 64, 8192] :=
    ⟨by norm_num, by decide, rfl, rfl⟩
  (capacityHandle_agrees hscale (by norm_num) 415).2.1 2 (by simp) 64 (by simp)

end IngestionLab.Frontend
