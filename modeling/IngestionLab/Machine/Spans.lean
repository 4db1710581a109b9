import Mathlib.Algebra.BigOperators.Group.List.Basic
import Mathlib.Algebra.Order.BigOperators.Group.List
import Mathlib.Algebra.Order.Ring.Int
import Mathlib.Data.List.Nodup

/-!
# Overlapping spans of time

Several holders each hold something for a while, and their spans may overlap in any
pattern. A list of spans (`IngestionLab.Span`) keeps for each who holds it, since when
and, once it has ended, until when. It says what a program that keeps an accumulator
and the instants the open spans began at is to compute: the lengths of the spans that
have ended (`IngestionLab.Span.closedLengths`) and the ages of the open ones
(`IngestionLab.Span.openAges`), whose sum (`IngestionLab.Span.total`) never decreases.
-/

namespace IngestionLab

/-- **A span of time**: who holds it, since when, and when it ended. -/
structure Span (ω : Type*) where
  holder : ω
  since : ℕ
  ended : Option ℕ := none
  deriving DecidableEq, Repr

namespace Span

variable {ω κ : Type*} {s : Span ω} {spans : List (Span ω)} {w : ω} {t u : ℕ}

/-- It has not ended. -/
def isOpen (s : Span ω) : Bool := s.ended.isNone

/-- How long it has lasted at a time: once it has ended, up to its end. -/
def length (s : Span ω) (t : ℕ) : ℤ := (s.ended.getD t : ℕ) - (s.since : ℤ)

/-- It begins before it ends, and all of it is past. -/
def InOrder (s : Span ω) (t : ℕ) : Prop := s.since ≤ s.ended.getD t ∧ s.ended.getD t ≤ t

/-- The lengths of the spans that have ended. -/
def closedLengths (spans : List (Span ω)) : List ℤ :=
  spans.filterMap fun s => s.ended.map fun (t : ℕ) => (t : ℤ) - s.since

/-- The ages of the open spans at a time. -/
def openAges (spans : List (Span ω)) (t : ℕ) : List ℤ :=
  (spans.filter isOpen).map fun s => (t : ℤ) - s.since

/-- When the open spans began, under the keys of their holders, the last one first. -/
def table (key : ω → κ) (spans : List (Span ω)) : List (κ × ℕ) :=
  ((spans.filter isOpen).map fun s => (key s.holder, s.since)).reverse

/-- **The summed length** of all spans at a time. -/
def total (spans : List (Span ω)) (t : ℕ) : ℤ := (closedLengths spans).sum + (openAges spans t).sum

theorem InOrder.mono (h : s.InOrder t) (htu : t ≤ u) : s.InOrder u := by
  unfold InOrder at h ⊢
  cases hended : s.ended with
  | none =>
    rw [hended] at h
    exact ⟨le_trans h.1 htu, le_refl u⟩
  | some e =>
    rw [hended] at h
    exact ⟨h.1, le_trans h.2 htu⟩

/-- The sum of the two lists is the sum of the lengths. -/
theorem total_eq_sum_length (spans : List (Span ω)) (t : ℕ) :
    total spans t = (spans.map (length · t)).sum := by
  induction spans with
  | nil => rfl
  | cons s spans ih =>
    rw [List.map_cons, List.sum_cons, ← ih, total, total, length]
    cases hended : s.ended with
    | none =>
      simp only [closedLengths, openAges, isOpen, hended, List.filterMap_cons, List.filter_cons,
        Option.map_none, Option.isNone_none, ↓reduceIte, List.map_cons, List.sum_cons,
        Option.getD_none]
      omega
    | some e =>
      simp [closedLengths, openAges, isOpen, hended, add_assoc]

/-- **The summed length never decreases.** -/
theorem total_mono (spans : List (Span ω)) (htu : t ≤ u) : total spans t ≤ total spans u := by
  rw [total_eq_sum_length, total_eq_sum_length]
  refine List.sum_le_sum fun s hs => ?_
  unfold length
  cases hended : s.ended with
  | none => simpa using htu
  | some e => simp

theorem nonneg_of_mem_openAges (h : ∀ s ∈ spans, s.InOrder t) (htu : t ≤ u) {age : ℤ}
    (hage : age ∈ openAges spans u) : 0 ≤ age := by
  obtain ⟨s, hs, rfl⟩ := List.mem_map.mp hage
  have horder := h s (List.mem_filter.mp hs).1
  have hsince : s.since ≤ t := horder.1.trans horder.2
  omega

/-! ### The table of the open spans -/

section Table

variable {key : ω → κ}

@[simp] theorem length_table (key : ω → κ) (spans : List (Span ω)) :
    (table key spans).length = (spans.filter isOpen).length := by
  rw [table, List.length_reverse, List.length_map]

theorem mem_table_iff {k : κ} :
    (k, t) ∈ table key spans ↔ ∃ s ∈ spans, s.isOpen ∧ key s.holder = k ∧ s.since = t := by
  rw [table, List.mem_reverse, List.mem_map]
  constructor
  · rintro ⟨s, hs, heq⟩
    obtain ⟨hmem, hopen⟩ := List.mem_filter.mp hs
    exact ⟨s, hmem, hopen, Prod.mk.inj heq⟩
  · rintro ⟨s, hmem, hopen, rfl, rfl⟩
    exact ⟨s, List.mem_filter.mpr ⟨hmem, hopen⟩, rfl⟩

/-- A span that begins is put in front. -/
theorem table_append (key : ω → κ) (spans : List (Span ω)) (w : ω) (t : ℕ) :
    table key (spans ++ [{ holder := w, since := t }]) = (key w, t) :: table key spans := by
  rw [table, table, List.filter_append, List.map_append, List.reverse_append]
  rfl

theorem table_congr {key' : ω → κ} (h : ∀ s ∈ spans, key s.holder = key' s.holder) :
    table key spans = table key' spans := by
  refine congrArg List.reverse (List.map_congr_left fun s hs => ?_)
  rw [h s (List.mem_filter.mp hs).1]

variable [DecidableEq κ]

theorem lookup_table_of_mem (hnodup : (spans.map fun s => key s.holder).Nodup) (hs : s ∈ spans)
    (hopen : s.isOpen) : (table key spans).lookup (key s.holder) = some s.since := by
  have hkeys : ((table key spans).map Prod.fst).Nodup := by
    rw [table, List.map_reverse, List.nodup_reverse, List.map_map]
    exact hnodup.sublist (List.filter_sublist.map _)
  obtain ⟨before, rest, heq⟩ := List.append_of_mem (mem_table_iff.mpr ⟨s, hs, hopen, rfl, rfl⟩)
  refine List.lookup_eq_some_iff.mpr ⟨before, rest, heq, fun entry hentry => ?_⟩
  rw [heq, List.map_append, List.map_cons] at hkeys
  have hne : entry.1 ≠ key s.holder := by
    intro hsame
    exact (List.nodup_append.mp hkeys).2.2 _ (List.mem_map_of_mem hentry) _
      List.mem_cons_self hsame
  simpa using Ne.symm hne

theorem lookup_table_eq_none {k : κ} (h : ∀ s ∈ spans, s.isOpen → key s.holder ≠ k) :
    (table key spans).lookup k = none := by
  refine List.lookup_eq_none_iff.mpr fun entry hentry => ?_
  obtain ⟨s, hs, hopen, hkey, -⟩ := mem_table_iff.mp hentry
  simpa [hkey] using Ne.symm (h s hs hopen)

end Table

/-! ### Closing a span -/

section Close

variable [DecidableEq ω]

/-- End it, if it is open and held by the given holder. -/
def close (w : ω) (t : ℕ) (s : Span ω) : Span ω :=
  if s.holder = w ∧ s.isOpen then { s with ended := some t } else s

/-- The open span of a holder. -/
def openOf (spans : List (Span ω)) (w : ω) : Option (Span ω) :=
  spans.find? fun s => s.holder = w ∧ s.isOpen

@[simp] theorem holder_close (w : ω) (t : ℕ) (s : Span ω) : (s.close w t).holder = s.holder := by
  unfold close
  split <;> rfl

@[simp] theorem since_close (w : ω) (t : ℕ) (s : Span ω) : (s.close w t).since = s.since := by
  unfold close
  split <;> rfl

theorem close_of_pos (h : s.holder = w ∧ s.isOpen) :
    s.close w t = { s with ended := some t } := if_pos h

theorem close_of_neg (h : ¬(s.holder = w ∧ s.isOpen)) : s.close w t = s := if_neg h

@[simp] theorem isOpen_close (w : ω) (t : ℕ) (s : Span ω) :
    (s.close w t).isOpen = (s.isOpen && decide (s.holder ≠ w)) := by
  by_cases h : s.holder = w ∧ s.isOpen
  · rw [close_of_pos h]
    simp [isOpen, h.1]
  · rw [close_of_neg h]
    by_cases hw : s.holder = w
    · simp [show s.isOpen = false by simpa using fun hopen => h ⟨hw, hopen⟩]
    · simp [hw]

/-- Nothing changes where the holder has no open span. -/
theorem map_close_of_openOf (h : openOf spans w = none) (t : ℕ) :
    spans.map (close w t) = spans := by
  have hnone := List.find?_eq_none.mp h
  calc
    spans.map (close w t) = spans.map id :=
      List.map_congr_left fun s hs => close_of_neg (by simpa using hnone s hs)
    _ = spans := List.map_id spans

/-- What is open after closing is what was open and is held by another. -/
theorem filter_isOpen_map_close (spans : List (Span ω)) (w : ω) (t : ℕ) :
    (spans.map (close w t)).filter isOpen =
      (spans.filter isOpen).filter fun s => s.holder ≠ w := by
  induction spans with
  | nil => rfl
  | cons s spans ih =>
    rw [List.map_cons, List.filter_cons, isOpen_close, List.filter_cons]
    by_cases hopen : s.isOpen
    · by_cases hw : s.holder = w
      · simp [hopen, hw, ih]
      · simp [hopen, hw, ih, close]
    · simp [hopen, ih]

/-- **Closing moves the age of a span to the lengths of those that have ended.** -/
theorem sum_closedLengths_close (hnodup : (spans.map holder).Nodup) (w : ω) (t : ℕ) :
    (closedLengths (spans.map (close w t))).sum =
      (closedLengths spans).sum + (openOf spans w).elim 0 fun s => (t : ℤ) - s.since := by
  induction spans with
  | nil => rfl
  | cons s spans ih =>
    obtain ⟨hfresh, hrest⟩ := List.nodup_cons.mp hnodup
    by_cases h : s.holder = w ∧ s.isOpen
    · have hnone : openOf spans w = none := by
        refine List.find?_eq_none.mpr fun r hr => ?_
        have hne : r.holder ≠ w := by
          rintro rfl
          exact hfresh (List.mem_map.mpr ⟨r, hr, h.1.symm⟩)
        simp [hne]
      have hended : s.ended = none := by simpa [isOpen] using h.2
      rw [List.map_cons, map_close_of_openOf hnone, close_of_pos h]
      simp [closedLengths, openOf, h, hended, add_comm]
    · have hskip : openOf (s :: spans) w = openOf spans w := by
        rw [openOf, List.find?_cons_of_neg (by simpa using h)]
        rfl
      rw [List.map_cons, close_of_neg h, hskip]
      cases hended : s.ended with
      | none => simpa [closedLengths, hended] using ih hrest
      | some e => simpa [closedLengths, hended, add_assoc] using ih hrest

/-- Closing takes the key of the holder off the table. -/
theorem table_close [DecidableEq κ] {key : ω → κ}
    (halone : ∀ s ∈ spans, s.isOpen → key s.holder = key w → s.holder = w) (t : ℕ) :
    table key (spans.map (close w t)) =
      (table key spans).filter fun entry => entry.1 != key w := by
  rw [table, filter_isOpen_map_close, table, List.filter_reverse, List.filter_map]
  refine congrArg List.reverse (congrArg (List.map _) (List.filter_congr fun s hs => ?_))
  obtain ⟨hmem, hopen⟩ := List.mem_filter.mp hs
  rw [Function.comp_apply, bne, decide_not]
  by_cases hw : s.holder = w
  · simp [hw]
  · have hne : key s.holder ≠ key w := fun h => hw (halone s hmem hopen h)
    simp [hw, hne]

/-- **Closing keeps the summed length** at the instant it is done. -/
theorem total_close (spans : List (Span ω)) (w : ω) (t : ℕ) :
    total (spans.map (close w t)) t = total spans t := by
  rw [total_eq_sum_length, total_eq_sum_length, List.map_map]
  refine congrArg List.sum (List.map_congr_left fun s _ => ?_)
  by_cases h : s.holder = w ∧ s.isOpen
  · have hended : s.ended = none := by simpa [isOpen] using h.2
    rw [Function.comp_apply, close_of_pos h, length, length, hended]
    rfl
  · rw [Function.comp_apply, close_of_neg h]

theorem InOrder.close (h : s.InOrder u) (htu : u ≤ t) : (s.close w t).InOrder t := by
  by_cases hclose : s.holder = w ∧ s.isOpen
  · rw [close_of_pos hclose]
    have hsince : s.since ≤ u := h.1.trans h.2
    exact ⟨hsince.trans htu, le_refl t⟩
  · rw [close_of_neg hclose]
    exact h.mono htu

end Close

end Span

end IngestionLab
