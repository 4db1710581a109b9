import IngestionLab.Frontend.ChannelCableGeometry
import Mathlib.Algebra.BigOperators.Group.List.Basic
import Mathlib.Tactic.Linarith
import Mathlib.Tactic.Ring

/-!
# Places around forbidden ranges

Ranges are merged into separate ones with the same union
(`IngestionLab.Frontend.merges_mergeAxisRanges`), and places are laid out evenly over what
they leave free. The argument about the places is a function,
`IngestionLab.Frontend.freeBefore`: how far a place is along the axis if the ranges take no
room. It grows with the place, and the walk over the ranges inverts it
(`IngestionLab.Frontend.freeBefore_aroundRanges`).

The ranges are clipped before the walk, so that a place at the very start of the axis is
taken to be at the edge of a range that reaches beyond it, and not inside: this is the one
case in which a place is inside a forbidden range
(`IngestionLab.Frontend.wellSpaced_iff`).
-/

namespace IngestionLab.Frontend

/-! ### Merging -/

/-- The place is in a range, the edges included. -/
def AxisRange.Has (range : AxisRange) (x : ℚ) : Prop := range.start ≤ x ∧ x ≤ range.stop

/-- **A place the ranges forbid**: it is in one of them, clipped to the axis, that is not empty. -/
def Forbids (start stop : ℚ) (ranges : List AxisRange) (x : ℚ) : Prop :=
  ∃ range ∈ ranges, max start range.start < min stop range.stop ∧
    AxisRange.Has ⟨max start range.start, min stop range.stop⟩ x

/-- Ranges within an axis, in their order and apart from each other. -/
structure Separate (start stop : ℚ) (ranges : List AxisRange) : Prop where
  within : ∀ range ∈ ranges, start ≤ range.start ∧ range.start < range.stop ∧ range.stop ≤ stop
  apart : ranges.Pairwise fun left right => left.stop < right.start

/-- **Ranges merged**: separate ones with the same union. -/
structure Merges (start stop : ℚ) (ranges merged : List AxisRange) : Prop extends
    Separate start stop merged where
  union : ∀ x, (∃ range ∈ merged, range.Has x) ↔ Forbids start stop ranges x

section

variable {start stop : ℚ} {ranges : List AxisRange}

theorem mem_clippedRanges {range : AxisRange} :
    range ∈ clippedRanges start stop ranges ↔
      ∃ r ∈ ranges, AxisRange.mk (max start r.start) (min stop r.stop) = range ∧
        range.start < range.stop := by
  rw [clippedRanges, List.mem_insertionSort, List.mem_filter, List.mem_map, decide_eq_true_eq]
  constructor
  · rintro ⟨⟨r, hr, rfl⟩, hlt⟩
    exact ⟨r, hr, rfl, hlt⟩
  · rintro ⟨r, hr, rfl, hlt⟩
    exact ⟨⟨r, hr, rfl⟩, hlt⟩

/-- What has been merged of some ranges, in reverse. -/
structure MergedSoFar (start stop : ℚ) (ranges merged : List AxisRange) : Prop where
  within : ∀ range ∈ merged, start ≤ range.start ∧ range.start < range.stop ∧ range.stop ≤ stop
  apart : merged.Pairwise fun right left => left.stop < right.start
  /-- Every range is part of a merged one. -/
  part : ∀ range ∈ ranges, ∃ m ∈ merged, m.start ≤ range.start ∧ range.stop ≤ m.stop
  union : ∀ x, (∃ range ∈ merged, range.Has x) → ∃ range ∈ ranges, range.Has x
  /-- Every merged range starts where one of the ranges does. -/
  starts : ∀ m ∈ merged, ∃ range ∈ ranges, range.start = m.start

theorem MergedSoFar.nil : MergedSoFar start stop [] [] where
  within := nofun
  apart := .nil
  part := nofun
  union := nofun
  starts := nofun

/-- A range that starts beyond what has been merged stands alone. -/
theorem MergedSoFar.cons {merged : List AxisRange} (h : MergedSoFar start stop ranges merged)
    {range : AxisRange} (hrange : start ≤ range.start ∧ range.start < range.stop ∧ range.stop ≤ stop)
    (hbeyond : ∀ m ∈ merged, m.stop < range.start) :
    MergedSoFar start stop (ranges ++ [range]) (range :: merged) where
  within r hr := by
    rcases List.mem_cons.mp hr with rfl | hr
    · exact hrange
    · exact h.within r hr
  apart := List.pairwise_cons.mpr ⟨hbeyond, h.apart⟩
  part r hr := by
    rcases List.mem_append.mp hr with hr | hr
    · obtain ⟨m, hm, hpart⟩ := h.part r hr
      exact ⟨m, List.mem_cons_of_mem _ hm, hpart⟩
    · rw [List.mem_singleton.mp hr]
      exact ⟨range, List.mem_cons_self, le_rfl, le_rfl⟩
  union := by
    rintro x ⟨m, hm, hx⟩
    rcases List.mem_cons.mp hm with rfl | hm
    · exact ⟨m, by simp, hx⟩
    · obtain ⟨r, hr, hx⟩ := h.union x ⟨m, hm, hx⟩
      exact ⟨r, List.mem_append_left _ hr, hx⟩
  starts m hm := by
    rcases List.mem_cons.mp hm with rfl | hm
    · exact ⟨m, by simp, rfl⟩
    · obtain ⟨r, hr, heq⟩ := h.starts m hm
      exact ⟨r, List.mem_append_left _ hr, heq⟩

/-- A range that starts within the last one that has been merged extends it. -/
theorem MergedSoFar.extend {previous : AxisRange} {rest : List AxisRange}
    (h : MergedSoFar start stop ranges (previous :: rest)) {range : AxisRange}
    (hrange : start ≤ range.start ∧ range.start < range.stop ∧ range.stop ≤ stop)
    (hstart : previous.start ≤ range.start) (htouch : range.start ≤ previous.stop) :
    MergedSoFar start stop (ranges ++ [range])
      (⟨previous.start, max previous.stop range.stop⟩ :: rest) where
  within r hr := by
    rcases List.mem_cons.mp hr with rfl | hr
    · obtain ⟨hlow, hlt, hhigh⟩ := h.within previous List.mem_cons_self
      exact ⟨hlow, hlt.trans_le (le_max_left _ _), max_le hhigh hrange.2.2⟩
    · exact h.within r (List.mem_cons_of_mem _ hr)
  apart := List.pairwise_cons.mpr (List.pairwise_cons.mp h.apart)
  part r hr := by
    rcases List.mem_append.mp hr with hr | hr
    · obtain ⟨m, hm, hlow, hhigh⟩ := h.part r hr
      rcases List.mem_cons.mp hm with rfl | hm
      · exact ⟨_, List.mem_cons_self, hlow, hhigh.trans (le_max_left _ _)⟩
      · exact ⟨m, List.mem_cons_of_mem _ hm, hlow, hhigh⟩
    · rw [List.mem_singleton.mp hr]
      exact ⟨_, List.mem_cons_self, hstart, le_max_right _ _⟩
  union := by
    rintro x ⟨m, hm, hx⟩
    rcases List.mem_cons.mp hm with rfl | hm
    · rcases le_or_gt x previous.stop with hle | hgt
      · obtain ⟨r, hr, hx⟩ := h.union x ⟨previous, List.mem_cons_self, hx.1, hle⟩
        exact ⟨r, List.mem_append_left _ hr, hx⟩
      · refine ⟨range, by simp, htouch.trans hgt.le, ?_⟩
        exact (le_max_iff.mp hx.2).resolve_left (not_le.mpr hgt)
    · obtain ⟨r, hr, hx⟩ := h.union x ⟨m, List.mem_cons_of_mem _ hm, hx⟩
      exact ⟨r, List.mem_append_left _ hr, hx⟩
  starts m hm := by
    rcases List.mem_cons.mp hm with rfl | hm
    · obtain ⟨r, hr, heq⟩ := h.starts previous List.mem_cons_self
      exact ⟨r, List.mem_append_left _ hr, heq⟩
    · obtain ⟨r, hr, heq⟩ := h.starts m (List.mem_cons_of_mem _ hm)
      exact ⟨r, List.mem_append_left _ hr, heq⟩

/-- **One round** of the loop, with a range that starts no earlier than those before it. -/
theorem MergedSoFar.next {merged : List AxisRange} (h : MergedSoFar start stop ranges merged)
    {range : AxisRange} (hrange : start ≤ range.start ∧ range.start < range.stop ∧ range.stop ≤ stop)
    (hlast : ∀ r ∈ ranges, r.start ≤ range.start) :
    MergedSoFar start stop (ranges ++ [range]) (mergeAxisRange merged range) := by
  rw [mergeAxisRange.eq_def]
  split
  · exact h.cons hrange fun m hm => absurd hm List.not_mem_nil
  · next previous rest =>
    split_ifs with hbeyond
    · refine h.cons hrange fun m hm => ?_
      rcases List.mem_cons.mp hm with rfl | hm
      · exact hbeyond
      · have happart := (List.pairwise_cons.mp h.apart).1 m hm
        exact happart.trans ((h.within previous List.mem_cons_self).2.1.trans hbeyond)
    · obtain ⟨r, hr, heq⟩ := h.starts previous List.mem_cons_self
      exact h.extend hrange (heq ▸ hlast r hr) (not_lt.mp hbeyond)

theorem MergedSoFar.foldl {merged pending : List AxisRange} (h : MergedSoFar start stop ranges merged)
    (hwithin : ∀ range ∈ pending, start ≤ range.start ∧ range.start < range.stop ∧ range.stop ≤ stop)
    (hsorted : pending.Pairwise fun left right => left.start ≤ right.start)
    (hlast : ∀ r ∈ ranges, ∀ range ∈ pending, r.start ≤ range.start) :
    MergedSoFar start stop (ranges ++ pending) (pending.foldl mergeAxisRange merged) := by
  induction pending generalizing ranges merged with
  | nil => simpa using h
  | cons range pending ih =>
    obtain ⟨hfirst, hsorted⟩ := List.pairwise_cons.mp hsorted
    have hnext := h.next (hwithin range List.mem_cons_self) fun r hr =>
      hlast r hr range List.mem_cons_self
    rw [List.foldl_cons, List.append_cons]
    refine ih hnext (fun r hr => hwithin r (List.mem_cons_of_mem _ hr)) hsorted fun r hr p hp => ?_
    rcases List.mem_append.mp hr with hr | hr
    · exact hlast r hr p (List.mem_cons_of_mem _ hp)
    · rw [List.mem_singleton.mp hr]
      exact hfirst p hp

/-- What the loop has merged in the end. -/
theorem mergedSoFar_mergeAxisRanges (start stop : ℚ) (ranges : List AxisRange) :
    MergedSoFar start stop (clippedRanges start stop ranges)
      (mergeAxisRanges start stop ranges).reverse := by
  rw [mergeAxisRanges, List.reverse_reverse]
  refine MergedSoFar.nil.foldl (fun range hrange => ?_) ?_ nofun
  · obtain ⟨r, -, rfl, hlt⟩ := mem_clippedRanges.mp hrange
    exact ⟨le_max_left _ _, hlt, min_le_left _ _⟩
  · exact List.pairwise_insertionSort _ _

/-- **The ranges are merged**. -/
theorem merges_mergeAxisRanges (start stop : ℚ) (ranges : List AxisRange) :
    Merges start stop ranges (mergeAxisRanges start stop ranges) := by
  have h := mergedSoFar_mergeAxisRanges start stop ranges
  refine ⟨⟨fun range hrange => h.within range (List.mem_reverse.mpr hrange), ?_⟩, fun x => ?_⟩
  · exact List.pairwise_reverse.mp h.apart
  · constructor
    · rintro ⟨m, hm, hx⟩
      obtain ⟨range, hrange, hx⟩ := h.union x ⟨m, List.mem_reverse.mpr hm, hx⟩
      obtain ⟨r, hr, rfl, hlt⟩ := mem_clippedRanges.mp hrange
      exact ⟨r, hr, hlt, hx⟩
    · rintro ⟨r, hr, hlt, hx⟩
      obtain ⟨m, hm, hlow, hhigh⟩ := h.part _ (mem_clippedRanges.mpr ⟨r, hr, rfl, hlt⟩)
      exact ⟨m, List.mem_reverse.mp hm, hlow.trans hx.1, hx.2.trans hhigh⟩

end

/-! ### Walking -/

/-- The part of a range below a place. -/
def AxisRange.below (range : AxisRange) (x : ℚ) : ℚ := max 0 (min x range.stop - range.start)

/-- **How far a place is along the axis** if the ranges take no room. -/
def freeBefore (ranges : List AxisRange) (x : ℚ) : ℚ := x - (ranges.map (·.below x)).sum

theorem below_of_le {range : AxisRange} {x : ℚ} (h : x ≤ range.start) : range.below x = 0 := by
  rw [AxisRange.below]
  exact max_eq_left (by linarith [min_le_left x range.stop])

theorem below_of_ge {range : AxisRange} (hrange : range.start ≤ range.stop) {x : ℚ}
    (h : range.stop ≤ x) : range.below x = range.stop - range.start := by
  rw [AxisRange.below, min_eq_right h]
  exact max_eq_right (by linarith)

section

variable {start stop : ℚ} {ranges : List AxisRange}

theorem Separate.tail {range : AxisRange} (h : Separate start stop (range :: ranges)) :
    Separate range.stop stop ranges where
  within r hr := by
    obtain ⟨-, hlt, hhigh⟩ := h.within r (List.mem_cons_of_mem _ hr)
    exact ⟨((List.pairwise_cons.mp h.apart).1 r hr).le, hlt, hhigh⟩
  apart := (List.pairwise_cons.mp h.apart).2

/-- Nothing of the ranges is below a place that is not beyond where the first of them starts. -/
theorem freeBefore_of_le {x : ℚ} (h : ∀ range ∈ ranges, x ≤ range.start) :
    freeBefore ranges x = x := by
  have hzero : ∀ y ∈ ranges.map (·.below x), y = 0 := by
    intro y hy
    obtain ⟨range, hrange, rfl⟩ := List.mem_map.mp hy
    exact below_of_le (h range hrange)
  rw [freeBefore, List.sum_eq_zero hzero, sub_zero]

/-- The walk does not go back. -/
theorem le_aroundRanges (h : Separate start stop ranges) (c : ℚ) : c ≤ aroundRanges c ranges := by
  induction ranges generalizing start c with
  | nil => exact le_rfl
  | cons range ranges ih =>
    rw [aroundRanges]
    split_ifs
    · exact le_rfl
    · have hlt := (h.within range List.mem_cons_self).2.1
      exact (by linarith : c ≤ c + (range.stop - range.start)).trans (ih h.tail _)

/-- **The walk inverts the distance** along the axis. -/
theorem freeBefore_aroundRanges (h : Separate start stop ranges) (c : ℚ) :
    freeBefore ranges (aroundRanges c ranges) = c := by
  induction ranges generalizing start c with
  | nil => simp [freeBefore, aroundRanges]
  | cons range ranges ih =>
    have hlt := (h.within range List.mem_cons_self).2.1
    rw [aroundRanges]
    split_ifs with hle
    · refine freeBefore_of_le fun r hr => ?_
      rcases List.mem_cons.mp hr with rfl | hr
      · exact hle
      · exact hle.trans (hlt.le.trans ((List.pairwise_cons.mp h.apart).1 r hr).le)
    · have hwalk := le_aroundRanges h.tail (c + (range.stop - range.start))
      have hrest := ih h.tail (c + (range.stop - range.start))
      rw [freeBefore] at hrest ⊢
      rw [List.map_cons, List.sum_cons, below_of_ge hlt.le (by linarith)]
      linarith

/-- A place the walk leads to is not inside a range, nor where one ends. -/
theorem aroundRanges_outside (h : Separate start stop ranges) (c : ℚ) :
    ∀ range ∈ ranges, aroundRanges c ranges ≤ range.start ∨ range.stop < aroundRanges c ranges := by
  induction ranges generalizing start c with
  | nil => nofun
  | cons range ranges ih =>
    intro r hr
    rw [aroundRanges]
    split_ifs with hle
    · refine .inl ?_
      rcases List.mem_cons.mp hr with rfl | hr
      · exact hle
      · have hlt := (h.within range List.mem_cons_self).2.1
        exact hle.trans (hlt.le.trans ((List.pairwise_cons.mp h.apart).1 r hr).le)
    · rcases List.mem_cons.mp hr with rfl | hr
      · have hwalk := le_aroundRanges h.tail (c + (r.stop - r.start))
        exact .inr (by linarith)
      · exact ih h.tail _ r hr

/-- A later start of the walk leads no less far. -/
theorem aroundRanges_mono (h : Separate start stop ranges) {c c' : ℚ} (hle : c ≤ c') :
    aroundRanges c ranges ≤ aroundRanges c' ranges := by
  induction ranges generalizing start c c' with
  | nil => exact hle
  | cons range ranges ih =>
    have hlt := (h.within range List.mem_cons_self).2.1
    rw [aroundRanges, aroundRanges]
    split_ifs with hc hc' hc'
    · exact hle
    · have hwalk := le_aroundRanges h.tail (c' + (range.stop - range.start))
      linarith
    · exact absurd (hle.trans hc') hc
    · exact ih h.tail (by linarith)

/-- The room the ranges take. -/
def roomOf (ranges : List AxisRange) : ℚ := (ranges.map fun range => range.stop - range.start).sum

theorem availableSpan_eq (start stop : ℚ) (ranges : List AxisRange) :
    availableSpan start stop ranges = stop - start - roomOf ranges := by
  have hfold : ∀ total : ℚ, ranges.foldl (fun total range => total + range.stop - range.start) total =
      total + roomOf ranges := by
    induction ranges with
    | nil => simp [roomOf]
    | cons range ranges ih =>
      intro total
      rw [List.foldl_cons, ih, roomOf, roomOf, List.map_cons, List.sum_cons]
      ring
  rw [availableSpan, hfold, zero_add]

/-- The walk stays on the axis, if what it starts with is available. -/
theorem aroundRanges_le (h : Separate start stop ranges) {c : ℚ} (hc : c ≤ stop - roomOf ranges) :
    aroundRanges c ranges ≤ stop := by
  induction ranges generalizing start c with
  | nil => simpa [roomOf, aroundRanges] using hc
  | cons range ranges ih =>
    obtain ⟨-, hlt, hhigh⟩ := h.within range List.mem_cons_self
    rw [roomOf, List.map_cons, List.sum_cons, ← roomOf] at hc
    rw [aroundRanges]
    split_ifs with hle
    · exact hle.trans (hlt.le.trans hhigh)
    · exact ih h.tail (by linarith)

/-- Separate ranges take no more room than there is. -/
theorem roomOf_le (h : Separate start stop ranges) (hle : start ≤ stop) :
    roomOf ranges ≤ stop - start := by
  induction ranges generalizing start with
  | nil => simpa [roomOf] using hle
  | cons range ranges ih =>
    obtain ⟨hlow, -, hhigh⟩ := h.within range List.mem_cons_self
    have hrest := ih h.tail hhigh
    rw [roomOf, List.map_cons, List.sum_cons, ← roomOf]
    linarith

/-- Separate ranges that leave no room are one, which is the whole axis. -/
theorem eq_axis_of_roomOf (h : Separate start stop ranges) (hlt : start < stop)
    (hroom : stop - start ≤ roomOf ranges) : ranges = [⟨start, stop⟩] := by
  match ranges with
  | [] =>
    rw [roomOf, List.map_nil, List.sum_nil] at hroom
    linarith
  | [range] =>
    obtain ⟨hlow, -, hhigh⟩ := h.within range List.mem_cons_self
    rw [roomOf, List.map_singleton, List.sum_singleton] at hroom
    have hstart : range.start = start := by linarith
    have hstop : range.stop = stop := by linarith
    rw [← hstart, ← hstop]
  | range :: next :: ranges =>
    obtain ⟨hlow, -, -⟩ := h.within range List.mem_cons_self
    obtain ⟨-, -, hhigh⟩ := h.within next (by simp)
    have hrest := roomOf_le h.tail.tail hhigh
    have happart := (List.pairwise_cons.mp h.apart).1 next List.mem_cons_self
    rw [roomOf, List.map_cons, List.map_cons, List.sum_cons, List.sum_cons, ← roomOf] at hroom
    linarith

/-- Separate ranges that cover the axis are one. -/
theorem eq_axis_of_covers (h : Separate start stop ranges) (hlt : start < stop)
    (hcovers : ∀ x, start ≤ x → x ≤ stop → ∃ range ∈ ranges, range.Has x) :
    ranges = [⟨start, stop⟩] := by
  match ranges with
  | [] =>
    obtain ⟨range, hrange, -⟩ := hcovers start le_rfl hlt.le
    exact absurd hrange List.not_mem_nil
  | [range] =>
    obtain ⟨hlow, -, hhigh⟩ := h.within range List.mem_cons_self
    obtain ⟨r, hr, hfirst⟩ := hcovers start le_rfl hlt.le
    obtain ⟨r', hr', hlast⟩ := hcovers stop hlt.le le_rfl
    rw [List.mem_singleton.mp hr] at hfirst
    rw [List.mem_singleton.mp hr'] at hlast
    rw [← le_antisymm hfirst.1 hlow, ← le_antisymm hhigh hlast.2]
  | range :: next :: ranges =>
    -- the middle between the first two ranges is in none
    obtain ⟨hlow, hlt', -⟩ := h.within range List.mem_cons_self
    obtain ⟨-, hlt'', hhigh⟩ := h.within next (by simp)
    obtain ⟨hfirst, hothers⟩ := List.pairwise_cons.mp h.apart
    have hnext := hfirst next List.mem_cons_self
    obtain ⟨r, hr, hx⟩ := hcovers ((range.stop + next.start) / 2) (by linarith) (by linarith)
    rcases List.mem_cons.mp hr with rfl | hr
    · have := hx.2
      linarith
    · have hstart : next.start ≤ r.start := by
        rcases List.mem_cons.mp hr with rfl | hr
        · exact le_rfl
        · exact hlt''.le.trans ((List.pairwise_cons.mp hothers).1 r hr).le
      have := hx.1
      linarith

end

/-! ### Places -/

/-- **The ranges cover the axis**. -/
def Covers (start stop : ℚ) (ranges : List AxisRange) : Prop :=
  ∀ x, start ≤ x → x ≤ stop → Forbids start stop ranges x

/-- **The free distance** from one place to another: without the parts of the ranges between them. -/
def freeDistance (ranges : List AxisRange) (a b : ℚ) : ℚ :=
  b - a - (ranges.map fun range => max 0 (min b range.stop - max a range.start)).sum

section

variable {start stop : ℚ} {ranges : List AxisRange}

theorem freeDistance_eq (h : Separate start stop ranges) {a b : ℚ} (hab : a ≤ b) :
    freeDistance ranges a b = freeBefore ranges b - freeBefore ranges a := by
  have hparts : (ranges.map fun range => max 0 (min b range.stop - max a range.start)).sum =
      (ranges.map (·.below b)).sum - (ranges.map (·.below a)).sum := by
    induction ranges generalizing start with
    | nil => simp
    | cons range ranges ih =>
      have hlt := (h.within range List.mem_cons_self).2.1
      have hpart : max 0 (min b range.stop - max a range.start) = range.below b - range.below a := by
        simp only [AxisRange.below, max_def, min_def]
        split_ifs <;> linarith
      rw [List.map_cons, List.sum_cons, ih h.tail, hpart, List.map_cons, List.sum_cons, List.map_cons,
        List.sum_cons]
      ring
  rw [freeDistance, hparts, freeBefore, freeBefore]
  ring

/-- The ranges leave nothing available if and only if they cover the axis. -/
theorem availableSpan_le_zero_iff (h : start < stop) :
    availableSpan start stop (mergeAxisRanges start stop ranges) ≤ 0 ↔ Covers start stop ranges := by
  have hmerges := merges_mergeAxisRanges start stop ranges
  rw [availableSpan_eq, sub_nonpos]
  constructor
  · intro hroom x hlow hhigh
    rw [← hmerges.union, eq_axis_of_roomOf hmerges.toSeparate h hroom]
    exact ⟨_, List.mem_singleton_self _, hlow, hhigh⟩
  · intro hcovers
    have haxis := eq_axis_of_covers hmerges.toSeparate h fun x hlow hhigh =>
      (hmerges.union x).mpr (hcovers x hlow hhigh)
    rw [haxis, roomOf, List.map_singleton, List.sum_singleton]

/-- **Places laid out well**: within the axis, outside the forbidden ranges, and with the same free
distance from each to the next. -/
structure WellSpaced (start stop : ℚ) (count : ℕ) (forbidden : List AxisRange)
    (coordinates : List ℚ) : Prop where
  length : coordinates.length = count
  nondecreasing : coordinates.Pairwise (· ≤ ·)
  within : ∀ c ∈ coordinates, start ≤ c ∧ c ≤ stop
  outside : ∀ c ∈ coordinates, ∀ range ∈ forbidden, ¬(range.start < c ∧ c < range.stop)
  even : ∃ distance, ∀ i a b, coordinates[i]? = some a → coordinates[i + 1]? = some b →
    freeDistance (mergeAxisRanges start stop forbidden) a b = distance

/-- The place of an index. -/
def place (start stop : ℚ) (count : ℕ) (forbidden : List AxisRange) (index : ℕ) : ℚ :=
  aroundRanges (start + index / (count - 1) *
    availableSpan start stop (mergeAxisRanges start stop forbidden))
    (mergeAxisRanges start stop forbidden)

variable {count : ℕ} {forbidden : List AxisRange}

theorem coordinates_eq (hcount : 2 ≤ count) (hcovers : ¬Covers start stop forbidden)
    (h : start < stop) :
    spacedCoordinatesAroundForbiddenRanges start stop count forbidden =
      (List.range count).map (place start stop count forbidden) := by
  rw [spacedCoordinatesAroundForbiddenRanges, if_neg (mt (availableSpan_le_zero_iff h).mp hcovers),
    spacedCoordinates, if_neg (by omega), List.map_map]
  refine List.map_congr_left fun index _ => ?_
  rw [Function.comp_apply, zero_add, sub_zero]
  rfl

theorem place_mono (h : start < stop) (hcount : 2 ≤ count) (hcovers : ¬Covers start stop forbidden) :
    Monotone (place start stop count forbidden) := by
  intro i j hij
  have havailable := not_le.mp (mt (availableSpan_le_zero_iff h).mp hcovers)
  have hcount' : (0 : ℚ) ≤ count - 1 := by
    have : (2 : ℚ) ≤ count := mod_cast hcount
    linarith
  refine aroundRanges_mono (merges_mergeAxisRanges start stop forbidden).toSeparate ?_
  have hij' : (i : ℚ) ≤ j := mod_cast hij
  have := mul_le_mul_of_nonneg_right (div_le_div_of_nonneg_right hij' hcount') havailable.le
  linarith

/-- The first place is the start of the axis, whatever is forbidden. -/
theorem place_zero : place start stop count forbidden 0 = start := by
  have hwithin := (merges_mergeAxisRanges start stop forbidden).within
  rw [place, Nat.cast_zero, zero_div, zero_mul, add_zero]
  cases hranges : mergeAxisRanges start stop forbidden with
  | nil => rfl
  | cons range ranges =>
    rw [hranges] at hwithin
    rw [aroundRanges, if_pos (hwithin range List.mem_cons_self).1]

theorem place_mem (h : start < stop) (hcount : 2 ≤ count) (hcovers : ¬Covers start stop forbidden)
    {index : ℕ} (hindex : index < count) :
    start ≤ place start stop count forbidden index ∧
      place start stop count forbidden index ≤ stop := by
  have hseparate := (merges_mergeAxisRanges start stop forbidden).toSeparate
  have havailable := not_le.mp (mt (availableSpan_le_zero_iff h).mp hcovers)
  have hcount' : (0 : ℚ) < count - 1 := by
    have : (2 : ℚ) ≤ count := mod_cast hcount
    linarith
  have hindex' : (index : ℚ) ≤ count - 1 := by
    have : (index : ℚ) + 1 ≤ count := mod_cast hindex
    linarith
  have hoffset : 0 ≤ index / (count - 1 : ℚ) *
      availableSpan start stop (mergeAxisRanges start stop forbidden) :=
    mul_nonneg (div_nonneg (Nat.cast_nonneg index) hcount'.le) havailable.le
  have hoffset' := mul_le_of_le_one_left havailable.le ((div_le_one hcount').mpr hindex')
  constructor
  · exact (le_add_of_nonneg_right hoffset).trans (le_aroundRanges hseparate _)
  · refine aroundRanges_le hseparate ?_
    rw [availableSpan_eq] at hoffset' ⊢
    linarith

/-- A place inside a forbidden range is the start of the axis. -/
theorem eq_start_of_inside (h : start < stop) {c : ℚ}
    (hwithin : start ≤ c ∧ c ≤ stop)
    (houtside : ∀ range ∈ mergeAxisRanges start stop forbidden, c ≤ range.start ∨ range.stop < c)
    {range : AxisRange} (hrange : range ∈ forbidden) (hinside : range.start < c ∧ c < range.stop) :
    c = start := by
  have hclip : max start range.start < min stop range.stop := by
    rcases hwithin.1.eq_or_lt with rfl | hlt
    · rw [max_eq_left hinside.1.le]
      exact lt_min h hinside.2
    · exact (max_lt hlt hinside.1).trans_le (le_min hwithin.2 hinside.2.le)
  obtain ⟨m, hm, hlow, hhigh⟩ := (mergedSoFar_mergeAxisRanges start stop forbidden).part _
    (mem_clippedRanges.mpr ⟨range, hrange, rfl, hclip⟩)
  rcases houtside m (List.mem_reverse.mp hm) with hle | hlt
  · have hstart := hle.trans hlow
    rcases le_max_iff.mp hstart with hle | hle
    · exact le_antisymm hle hwithin.1
    · exact absurd hle (not_le.mpr hinside.1)
  · exact absurd hlt (not_lt.mpr ((le_min hwithin.2 hinside.2.le).trans hhigh))

/-- The free distance from a place to the next is the same for all. -/
theorem freeDistance_place (h : start < stop) (hcount : 2 ≤ count)
    (hcovers : ¬Covers start stop forbidden) (index : ℕ) :
    freeDistance (mergeAxisRanges start stop forbidden) (place start stop count forbidden index)
        (place start stop count forbidden (index + 1)) =
      availableSpan start stop (mergeAxisRanges start stop forbidden) / (count - 1) := by
  have hseparate := (merges_mergeAxisRanges start stop forbidden).toSeparate
  rw [freeDistance_eq hseparate (place_mono h hcount hcovers (Nat.le_succ index)), place, place,
    freeBefore_aroundRanges hseparate, freeBefore_aroundRanges hseparate]
  push_cast
  ring

/-- **Places around ranges** none of which reaches over the start are laid out well. -/
theorem wellSpaced_coordinates (h : start < stop) (hcount : 2 ≤ count)
    (hcovers : ¬Covers start stop forbidden)
    (hstart : ∀ range ∈ forbidden, ¬(range.start < start ∧ start < range.stop)) :
    WellSpaced start stop count forbidden
      (spacedCoordinatesAroundForbiddenRanges start stop count forbidden) := by
  rw [coordinates_eq hcount hcovers h]
  refine ⟨by simp, ?_, ?_, ?_, ?_⟩
  · rw [List.pairwise_map]
    exact List.pairwise_lt_range.imp fun hij => place_mono h hcount hcovers hij.le
  · intro c hc
    obtain ⟨index, hindex, rfl⟩ := List.mem_map.mp hc
    exact place_mem h hcount hcovers (List.mem_range.mp hindex)
  · intro c hc range hrange hinside
    obtain ⟨index, hindex, rfl⟩ := List.mem_map.mp hc
    have heq := eq_start_of_inside h (place_mem h hcount hcovers (List.mem_range.mp hindex))
      (aroundRanges_outside (merges_mergeAxisRanges start stop forbidden).toSeparate _) hrange hinside
    rw [heq] at hinside
    exact hstart range hrange hinside
  · refine ⟨availableSpan start stop (mergeAxisRanges start stop forbidden) / (count - 1),
      fun index a b ha hb => ?_⟩
    obtain ⟨-, rfl⟩ := List.getElem?_eq_some_iff.mp ha
    obtain ⟨-, rfl⟩ := List.getElem?_eq_some_iff.mp hb
    rw [List.getElem_map, List.getElem_map, List.getElem_range, List.getElem_range]
    exact freeDistance_place h hcount hcovers index

/-- **The places are laid out well** if and only if the ranges cover the axis, so that there is no place,
or none of them reaches over its start. -/
theorem wellSpaced_iff (h : start < stop) (hcount : 2 ≤ count) :
    (Merges start stop forbidden (mergeAxisRanges start stop forbidden) ∧
        (Covers start stop forbidden →
          spacedCoordinatesAroundForbiddenRanges start stop count forbidden = []) ∧
        (¬Covers start stop forbidden → WellSpaced start stop count forbidden
          (spacedCoordinatesAroundForbiddenRanges start stop count forbidden))) ↔
      (Covers start stop forbidden ∨
        ∀ range ∈ forbidden, ¬(range.start < start ∧ start < range.stop)) := by
  constructor
  · rintro ⟨-, -, hspaced⟩
    refine or_iff_not_imp_left.mpr fun hcovers range hrange => ?_
    refine (hspaced hcovers).outside start ?_ range hrange
    rw [coordinates_eq hcount hcovers h]
    exact List.mem_map.mpr ⟨0, List.mem_range.mpr (by omega), place_zero⟩
  · intro hcondition
    refine ⟨merges_mergeAxisRanges start stop forbidden, fun hcovers => ?_, fun hcovers => ?_⟩
    · rw [spacedCoordinatesAroundForbiddenRanges, if_pos ((availableSpan_le_zero_iff h).mpr hcovers)]
    · exact wellSpaced_coordinates h hcount hcovers (hcondition.resolve_left hcovers)

end

/-- Three places on an axis from 0 to 10, of which 4 to 6 is forbidden. -/
theorem wellSpaced_around_4_to_6 :
    Merges 0 10 [⟨4, 6⟩] (mergeAxisRanges 0 10 [⟨4, 6⟩]) ∧
      (Covers 0 10 [⟨4, 6⟩] → spacedCoordinatesAroundForbiddenRanges 0 10 3 [⟨4, 6⟩] = []) ∧
      (¬Covers 0 10 [⟨4, 6⟩] →
        WellSpaced 0 10 3 [⟨4, 6⟩] (spacedCoordinatesAroundForbiddenRanges 0 10 3 [⟨4, 6⟩])) :=
  (wellSpaced_iff (by norm_num) (by norm_num)).mpr (.inr (by norm_num))

/-- Two places on an axis from 0 to 10: the range from -1 to 5 is forbidden, and 0 is inside. -/
theorem not_wellSpaced_within_range :
    ¬Covers 0 10 [⟨-1, 5⟩] ∧
      spacedCoordinatesAroundForbiddenRanges 0 10 2 [⟨-1, 5⟩] = [0, 10] ∧
      ¬WellSpaced 0 10 2 [⟨-1, 5⟩] (spacedCoordinatesAroundForbiddenRanges 0 10 2 [⟨-1, 5⟩]) := by
  have heq : spacedCoordinatesAroundForbiddenRanges 0 10 2 [⟨-1, 5⟩] = [0, 10] := by decide +kernel
  refine ⟨fun hcovers => ?_, heq, fun h => ?_⟩
  · obtain ⟨range, hrange, -, hhas⟩ := hcovers 10 (by norm_num) le_rfl
    rw [List.mem_singleton.mp hrange] at hhas
    exact absurd hhas.2 (by norm_num)
  · refine h.outside 0 ?_ ⟨-1, 5⟩ (by simp) (by norm_num)
    rw [heq]
    simp

end IngestionLab.Frontend
