import DomainModel.Proofs.OptionTable

/-!
# Merging as an ordered union

An entry is made of two name lists, or it names nobody, or two entries are merged into it. Merging
puts lists together and drops repetitions, so it is the union of what two entries name. It is more
than a union of sets: the names of the first entry keep their places, the new names of the second
one follow in their own order (`IsDistinct.included_merge`, `IsDistinct.excluded_merge`). This is
why merging may be grouped in any way and why an entry that was merged in leaves no trace when it
comes again, down to the order of the names; only which of two entries stands in front shows in the
result.

## What this module delivers

- `OptionEntry.Made`: the entries that can be made, with `made_iff_isDistinct`.
- `included_merge`, `excluded_merge`, `mem_included_merge`, `mem_excluded_merge`: the names of a
  merged entry, in order and as a set.
- `merge_assoc`, `IsDistinct.empty_merge`, `IsDistinct.merge_empty`, `covers_merge`: the laws that
  do not look at single names.
- `OptionEntry.MergeLaws`, `merge_ordered_union`: all laws together, and entries of concatenated
  lists.
-/

set_option autoImplicit false

namespace DomainModel.OptionEntry

/-! ## Made entries -/

/-- The entries that can be made. -/
inductive Made : OptionEntry → Prop where
  | of (included excluded : List String) : Made (.of included excluded)
  | empty : Made .empty
  | merge {entry other : OptionEntry} : Made entry → Made other → Made (entry.merge other)

/-- The entries that can be made are those that name nobody twice in one list. -/
theorem made_iff_isDistinct (entry : OptionEntry) : entry.Made ↔ entry.IsDistinct := by
  constructor
  · intro h
    cases h with
    | of included excluded => exact isDistinct_of included excluded
    | empty => exact isDistinct_empty
    | merge _ _ => exact isDistinct_merge _ _
  · intro h
    rw [← h.of_eq]
    exact .of entry.included entry.excluded

/-! ## The names of a merged entry -/

theorem mem_included_merge {entry other : OptionEntry} {name : String} :
    name ∈ (entry.merge other).included ↔ name ∈ entry.included ∨ name ∈ other.included :=
  Names.mem_distinct.trans List.mem_append

theorem mem_excluded_merge {entry other : OptionEntry} {name : String} :
    name ∈ (entry.merge other).excluded ↔ name ∈ entry.excluded ∨ name ∈ other.excluded :=
  Names.mem_distinct.trans List.mem_append

/-- The included names of the first entry keep their places, and the new ones follow in order. -/
theorem IsDistinct.included_merge {entry : OptionEntry} (h : entry.IsDistinct)
    (other : OptionEntry) :
    (entry.merge other).included = entry.included ++
      (Names.distinct other.included).filter fun name => decide (name ∉ entry.included) :=
  Names.distinct_append_of_nodup h.included other.included

/-- The excluded names of the first entry keep their places, and the new ones follow in order. -/
theorem IsDistinct.excluded_merge {entry : OptionEntry} (h : entry.IsDistinct)
    (other : OptionEntry) :
    (entry.merge other).excluded = entry.excluded ++
      (Names.distinct other.excluded).filter fun name => decide (name ∉ entry.excluded) :=
  Names.distinct_append_of_nodup h.excluded other.excluded

/-! ## The laws -/

/-- Repetitions that are dropped on the way would be dropped in the end. -/
theorem merge_assoc (entry other third : OptionEntry) :
    (entry.merge other).merge third = entry.merge (other.merge third) := by
  simp only [merge, of, Names.distinct_distinct_append, Names.distinct_append_distinct,
    List.append_assoc]

/-- An entry without repetitions merged into nothing is that entry. -/
theorem IsDistinct.empty_merge {entry : OptionEntry} (h : entry.IsDistinct) :
    empty.merge entry = entry := h.of_eq

theorem IsDistinct.merge_empty {entry : OptionEntry} (h : entry.IsDistinct) :
    entry.merge empty = entry :=
  h.merge_of_covers ⟨List.nil_subset _, List.nil_subset _⟩

/-- A merged entry names everybody that its first part names. -/
theorem covers_merge (entry other : OptionEntry) : (entry.merge other).Covers entry where
  included := by
    intro name hname
    exact mem_included_merge.2 (.inl hname)
  excluded := by
    intro name hname
    exact mem_excluded_merge.2 (.inl hname)

/-- What merging an entry with others is like. -/
structure MergeLaws (entry other third : OptionEntry) : Prop where
  /-- It does not matter which two of three are merged first. -/
  assoc : (entry.merge other).merge third = entry.merge (other.merge third)
  /-- In front, nobody adds nothing. -/
  empty_merge : empty.merge entry = entry
  /-- Behind, nobody adds nothing. -/
  merge_empty : entry.merge empty = entry
  /-- An entry that was merged in leaves no trace when it comes again. -/
  merge_again : (entry.merge other).merge entry = entry.merge other
  /-- Merging an entry with itself changes nothing. -/
  merge_self : entry.merge entry = entry
  /-- The included names stay in front. -/
  included_prefix : entry.included <+: (entry.merge other).included
  /-- The excluded names stay in front. -/
  excluded_prefix : entry.excluded <+: (entry.merge other).excluded
  /-- The other way round the same names are included. -/
  included_comm : ∀ name,
    name ∈ (entry.merge other).included ↔ name ∈ (other.merge entry).included
  /-- The other way round the same names are excluded. -/
  excluded_comm : ∀ name,
    name ∈ (entry.merge other).excluded ↔ name ∈ (other.merge entry).excluded

theorem IsDistinct.mergeLaws {entry : OptionEntry} (h : entry.IsDistinct)
    (other third : OptionEntry) : MergeLaws entry other third where
  assoc := merge_assoc entry other third
  empty_merge := h.empty_merge
  merge_empty := h.merge_empty
  merge_again := (isDistinct_merge entry other).merge_of_covers (covers_merge entry other)
  merge_self := h.merge_of_covers ⟨List.Subset.refl _, List.Subset.refl _⟩
  included_prefix := ⟨_, (h.included_merge other).symm⟩
  excluded_prefix := ⟨_, (h.excluded_merge other).symm⟩
  included_comm := by
    intro name
    rw [mem_included_merge, mem_included_merge, or_comm]
  excluded_comm := by
    intro name
    rw [mem_excluded_merge, mem_excluded_merge, or_comm]

/-- Merging made entries is an ordered union, and making the entry of concatenated lists is merging
the entries of the parts. -/
theorem merge_ordered_union :
    (∀ entry other third : OptionEntry, entry.Made → MergeLaws entry other third) ∧
    ∀ included included' excluded excluded' : List String,
      of (included ++ included') (excluded ++ excluded') =
        (of included excluded).merge (of included' excluded') := by
  constructor
  · intro entry other third hentry
    exact ((made_iff_isDistinct entry).1 hentry).mergeLaws other third
  · intro included included' excluded excluded'
    exact (of_merge_of included excluded included' excluded').symm

/-- Two entries that overlap: the order of the merged names tells which one was in front, and
merging the first one in again does not. -/
theorem merge_ordered_union_overlapping :
    (of ["B", "A", "B"] ["C"]).Made ∧
    (of ["B", "A", "B"] ["C"]).merge (of ["D", "A"] ["E", "C"]) = ⟨["B", "A", "D"], ["C", "E"]⟩ ∧
    (of ["D", "A"] ["E", "C"]).merge (of ["B", "A", "B"] ["C"]) = ⟨["D", "A", "B"], ["E", "C"]⟩ ∧
    (⟨["B", "A", "D"], ["C", "E"]⟩ : OptionEntry).merge (of ["B", "A", "B"] ["C"]) =
      ⟨["B", "A", "D"], ["C", "E"]⟩ ∧
    of (["B", "A", "B"] ++ ["D", "A"]) (["C"] ++ ["E", "C"]) =
      ⟨["B", "A", "D"], ["C", "E"]⟩ := by
  obtain ⟨hlaws, hof⟩ := merge_ordered_union
  have hmade : (of ["B", "A", "B"] ["C"]).Made := .of _ _
  refine ⟨hmade, rfl, rfl, ?_, ?_⟩
  · exact (hlaws _ (of ["D", "A"] ["E", "C"]) empty hmade).merge_again
  · exact hof ["B", "A", "B"] ["D", "A"] ["C"] ["E", "C"]

end DomainModel.OptionEntry
