import DomainModel.Proofs.Concatenation
import DomainModel.Proofs.DeclarationOrder
import DomainModel.Proofs.Flattening
import DomainModel.Proofs.Locations

/-!
# Options declared again

An option that is declared a second time changes nothing: its names are in the slot already, and
names that are there keep their places. This holds for any number of declarations in any order,
after whatever other declarations there are, because a slot loses nothing once it is in it: what
the whole program has collected for a slot covers what any of its declarations collect
(`covers_flagEntry_enterOptions`, `covers_entryAt_enterOptions`), and merging in an entry that is
covered leaves an entry as it is. A declaration counts as repeated wherever it stands, so
declarations are compared by their erasures.

## What this module delivers

- `optionObjection?_of_subset`: fewer declarations meet no new objection.
- `covers_flagEntry_enterOptions`, `keys_enterOptions_subset`, `covers_entryAt_enterOptions`: what
  fewer declarations collect is collected by more.
- `enterOptions_append_of_subset`, `enterOptions_append_redeclared`: declarations entered again.
- `outcome_build_redeclared`: the build of a program that declares some of its options again.
-/

set_option autoImplicit false

namespace DomainModel.Declared

section Options

variable {flags flags' : List FlagOption} {valued valued' : List ValueOption}
  {family : OptionFamily}

/-! ## Fewer declarations -/

/-- What is gathered from some members of a list is gathered from the list. -/
theorem flatMap_subset_flatMap {α β : Type} (f : α → List β) {list others : List α}
    (h : others ⊆ list) : others.flatMap f ⊆ list.flatMap f := by
  intro b hb
  obtain ⟨a, ha, hba⟩ := List.mem_flatMap.1 hb
  exact List.mem_flatMap.2 ⟨a, h ha, hba⟩

/-- Members that are like some member of a list have their images among those of the list. -/
theorem map_subset_map {α β : Type} {f : α → β} {list others : List α}
    (h : ∀ a ∈ others, ∃ b ∈ list, f b = f a) : others.map f ⊆ list.map f := by
  intro image himage
  obtain ⟨a, ha, rfl⟩ := List.mem_map.1 himage
  obtain ⟨b, hb, heq⟩ := h a ha
  exact List.mem_map.2 ⟨b, hb, heq⟩

theorem optionObjection?_of_subset (hflags : flags' ⊆ flags) (hvalued : valued' ⊆ valued)
    (h : optionObjection? flags valued = none) : optionObjection? flags' valued' = none := by
  rw [optionObjection?_eq_none] at h ⊢
  exact ⟨findSome?_eq_none_of_subset hflags h.1, findSome?_eq_none_of_subset hvalued h.2⟩

/-- Of a flag, more declarations name everybody that fewer name. -/
theorem covers_flagEntry_enterOptions (hflags : flags' ⊆ flags)
    (h : optionObjection? flags valued = none) (h' : optionObjection? flags' valued' = none)
    (hfamily : family.carriesValue = false) :
    ((enterOptions .empty flags valued).flagEntry family).Covers
      ((enterOptions .empty flags' valued').flagEntry family) := by
  have hshape := OptionTable.wellShaped_empty
  have hdeclared := List.filter_subset (FlagOption.declares family) hflags
  rw [flagEntry_enterOptions hshape h hfamily, flagEntry_enterOptions hshape h' hfamily,
    OptionTable.flagEntry_empty]
  exact OptionEntry.covers_of (flatMap_subset_flatMap _ hdeclared)
    (flatMap_subset_flatMap _ hdeclared)

/-- More declarations give a family all values that fewer give it. -/
theorem keys_enterOptions_subset (hvalued : valued' ⊆ valued)
    (h : optionObjection? flags valued = none) (h' : optionObjection? flags' valued' = none)
    (hfamily : family.carriesValue = true) :
    ((enterOptions .empty flags' valued').values family).keys ⊆
      ((enterOptions .empty flags valued).values family).keys := by
  have hdeclared := List.filter_subset (ValueOption.declares family) hvalued
  rw [keys_enterOptions h hfamily, keys_enterOptions h' hfamily, OptionTable.values_empty]
  intro value hvalue
  exact Names.mem_distinct.2 (List.filterMap_subset _ hdeclared (Names.mem_distinct.1 hvalue))

/-- Of a value, more declarations name everybody that fewer name. -/
theorem covers_entryAt_enterOptions (hvalued : valued' ⊆ valued)
    (h : optionObjection? flags valued = none) (h' : optionObjection? flags' valued' = none)
    (hfamily : family.carriesValue = true) (value : String) :
    (ValueEntries.entryAt ((enterOptions .empty flags valued).values family) value).Covers
      (ValueEntries.entryAt ((enterOptions .empty flags' valued').values family) value) := by
  have hshape := OptionTable.wellShaped_empty
  have hdeclared := List.filter_subset (ValueOption.declaresValue family value) hvalued
  rw [entryAt_enterOptions hshape h hfamily, entryAt_enterOptions hshape h' hfamily,
    OptionTable.values_empty]
  exact OptionEntry.covers_of (flatMap_subset_flatMap _ hdeclared)
    (flatMap_subset_flatMap _ hdeclared)

/-! ## Declarations entered again -/

/-- Declarations that are entered a second time leave the table as it is. -/
theorem enterOptions_append_of_subset (hflags : flags' ⊆ flags) (hvalued : valued' ⊆ valued)
    (h : optionObjection? flags valued = none) :
    enterOptions .empty (flags ++ flags') (valued ++ valued') =
      enterOptions .empty flags valued := by
  have h' := optionObjection?_of_subset hflags hvalued h
  have happend := optionObjection?_append_eq_none_iff.2 ⟨h, h'⟩
  have hshape := wellShaped_enterOptions OptionTable.wellShaped_empty h
  have hjoined := wellShaped_enterOptions OptionTable.wellShaped_empty happend
  -- the joined table is made of both, slot by slot, and the first covers the second
  apply hjoined.ext hshape
  · intro family hfamily
    rw [flagEntry_enterOptions_append h h' hfamily]
    exact (hshape.flagEntry_distinct family).merge_of_covers
      (covers_flagEntry_enterOptions hflags h h' hfamily)
  · intro family hfamily
    apply ValueEntries.ext_entryAt
    · have hold := keys_enterOptions_subset hvalued h h' hfamily
      rw [keys_enterOptions_append h h' hfamily, List.filter_eq_nil_iff.2, List.append_nil]
      intro value hvalue
      simpa using hold hvalue
    · intro value
      rw [entryAt_enterOptions_append h h' hfamily]
      exact (hshape.valueEntry_distinct family value).merge_of_covers
        (covers_entryAt_enterOptions hvalued h h' hfamily value)

/-- Erased declarations meet an objection when the declarations do. -/
theorem optionObjection?_map_erase_eq_none_iff :
    optionObjection? (flags.map FlagOption.erase) (valued.map ValueOption.erase) = none ↔
      optionObjection? flags valued = none := by
  rw [optionObjection?_map_erase, Option.map_eq_none_iff]

theorem optionObjection?_append_redeclared
    (hflags : flags'.map FlagOption.erase ⊆ flags.map FlagOption.erase)
    (hvalued : valued'.map ValueOption.erase ⊆ valued.map ValueOption.erase)
    (h : optionObjection? flags valued = none) :
    optionObjection? (flags ++ flags') (valued ++ valued') = none := by
  have hagain := optionObjection?_of_subset hflags hvalued
    (optionObjection?_map_erase_eq_none_iff.2 h)
  exact optionObjection?_append_eq_none_iff.2
    ⟨h, optionObjection?_map_erase_eq_none_iff.1 hagain⟩

/-- Declarations that are entered a second time from another place leave the table as it is. -/
theorem enterOptions_append_redeclared
    (hflags : flags'.map FlagOption.erase ⊆ flags.map FlagOption.erase)
    (hvalued : valued'.map ValueOption.erase ⊆ valued.map ValueOption.erase)
    (h : optionObjection? flags valued = none) :
    enterOptions .empty (flags ++ flags') (valued ++ valued') =
      enterOptions .empty flags valued := by
  -- places do not count for a table, so all declarations may be entered erased
  rw [← enterOptions_map_erase .empty (flags ++ flags'), List.map_append, List.map_append,
    enterOptions_append_of_subset hflags hvalued (optionObjection?_map_erase_eq_none_iff.2 h),
    enterOptions_map_erase]

end Options

/-! ## Programs -/

/-- A program with a document keeps this document when options that it declares are declared again
after all others, in any order and any number of times, each of them anywhere in the source. -/
theorem outcome_build_redeclared {program : Program} {document : Document}
    (hbuild : program.build.outcome = .ok document) {flags : List FlagOption}
    {valued : List ValueOption}
    (hflags : ∀ declared ∈ flags, ∃ earlier ∈ program.flags, earlier.erase = declared.erase)
    (hvalued : ∀ declared ∈ valued, ∃ earlier ∈ program.valued, earlier.erase = declared.erase) :
    (program.withOptions (program.flags ++ flags) (program.valued ++ valued)).build.outcome =
      .ok document := by
  obtain ⟨hnone, rfl⟩ := Program.outcome_build_eq_ok_iff.1 hbuild
  obtain ⟨hrelationships, hoptions⟩ := Option.or_eq_none_iff.1 hnone
  have hflags' := map_subset_map hflags
  have hvalued' := map_subset_map hvalued
  apply Program.outcome_build_eq_ok_iff.2
  constructor
  · exact Option.or_eq_none_iff.2
      ⟨hrelationships, optionObjection?_append_redeclared hflags' hvalued' hoptions⟩
  · -- the two documents are made of the same lists, and of tables that are equal
    have htable := enterOptions_append_redeclared hflags' hvalued' hoptions
    rw [Program.document, Program.withOptions, htable]
    rfl

/-- A declaration of `filter` for one entity, written from an offset on. -/
def filterAt (offset : Nat) (name : String) : FlagOption :=
  ⟨⟨"filter", ⟨offset, offset + 6⟩⟩, ⟨[⟨name, ⟨offset + 7, offset + 8⟩⟩], none⟩, none⟩

/-- A declaration of `dto` for one entity, written from an offset on. -/
def dtoAt (offset : Nat) (name value : String) : ValueOption :=
  ⟨⟨"dto", ⟨offset, offset + 3⟩⟩, ⟨[⟨name, ⟨offset + 4, offset + 5⟩⟩], none,
    some ⟨value, ⟨offset + 11, offset + 11 + value.utf8ByteSize⟩⟩, none⟩, none⟩

/-- A program that declares a flag twice and two values of one family. -/
def settledProgram : Program :=
  { Program.empty with
    flags := [filterAt 0 "A", filterAt 10 "B"]
    valued := [dtoAt 20 "A" "mapstruct", dtoAt 50 "B" "record"] }

/-- Declared again further down, from last to first and the last one twice, the flags and values
keep their order. -/
theorem outcome_build_redeclared_settled :
    settledProgram.build.outcome = .ok settledProgram.document ∧
    (settledProgram.withOptions
      (settledProgram.flags ++ [filterAt 80 "B", filterAt 90 "A", filterAt 100 "B"])
      (settledProgram.valued ++ [dtoAt 110 "B" "record"])).build.outcome =
        .ok settledProgram.document ∧
    settledProgram.document.options.slot? .filter = some (.flag ⟨["A", "B"], []⟩) ∧
    ∃ entries : ValueEntries,
      settledProgram.document.options.slot? .dto = some (.valued entries) ∧
      entries.keys = ["mapstruct", "record"] := by
  have hbuild : settledProgram.build.outcome = .ok settledProgram.document :=
    settledProgram.outcome_build
  refine ⟨hbuild, outcome_build_redeclared hbuild ?_ ?_, rfl, _, rfl, rfl⟩
  · simp only [List.forall_mem_cons]
    refine ⟨⟨filterAt 10 "B", ?_, rfl⟩, ⟨filterAt 0 "A", ?_, rfl⟩, ⟨filterAt 10 "B", ?_, rfl⟩, ?_⟩
    all_goals simp [settledProgram]
  · simp only [List.forall_mem_cons]
    refine ⟨⟨dtoAt 50 "B" "record", ?_, rfl⟩, ?_⟩
    all_goals simp [settledProgram]

end DomainModel.Declared
