import DomainModel.Proofs.BuildOutcome

/-!
# The order of option declarations

Option declarations may stand anywhere in a program and in any order. Rearranging them rearranges
the lists of the merged table and changes nothing else: whether the build succeeds depends on the
declarations one by one, each slot gathers its names from the declarations for this slot, and
dropping repetitions from a rearranged list keeps the same names.

## What this module delivers

- `OptionEntry.Rearranged`, `OptionTable.Rearranged`: entries and tables that differ in order only.
- `optionObjection?_perm`: rearranged declarations meet an objection or none together.
- `rearranged_enterOptions`: the tables of rearranged declarations.
- `outcome_build_rearranged`: the builds of two programs that differ in the order of their options.
-/

set_option autoImplicit false

namespace DomainModel

/-! ## Entries and tables in another order -/

/-- Two entries name the same entities, in any order. -/
structure OptionEntry.Rearranged (entry other : OptionEntry) : Prop where
  /-- The included names are the same. -/
  included : entry.included.Perm other.included
  /-- The excluded names are the same. -/
  excluded : entry.excluded.Perm other.excluded

/-- Entries of rearranged lists are rearranged. -/
theorem OptionEntry.rearranged_of {included excluded included' excluded' : List String}
    (hincluded : included.Perm included') (hexcluded : excluded.Perm excluded') :
    Rearranged (of included excluded) (of included' excluded') :=
  ⟨Names.distinct_perm hincluded, Names.distinct_perm hexcluded⟩

/-- Two tables have the same families, each with the same values and names, the families in the
same order, values and names in any. -/
structure OptionTable.Rearranged (table other : OptionTable) : Prop where
  families : other.slots.keys = table.slots.keys
  flag : ∀ family : OptionFamily, family.carriesValue = false →
    ∃ entry entry' : OptionEntry,
      table.slot? family = some (.flag entry) ∧ other.slot? family = some (.flag entry') ∧
      entry.Rearranged entry'
  valued : ∀ family : OptionFamily, family.carriesValue = true →
    ∃ entries entries' : ValueEntries,
      table.slot? family = some (.valued entries) ∧
      other.slot? family = some (.valued entries') ∧
      entries.keys.Perm entries'.keys ∧
      ∀ value ∈ entries.keys, ∃ entry entry' : OptionEntry,
        entries.get? value = some entry ∧ entries'.get? value = some entry' ∧
        entry.Rearranged entry'

namespace Declared

/-! ## Merging in another order -/

/-- Rearranged declarations all meet no objection, or some of them do in either order. -/
theorem findSome?_eq_none_perm {ε α : Type} {objection? : α → Option ε}
    {declarations others : List α} (h : declarations.Perm others) :
    declarations.findSome? objection? = none ↔ others.findSome? objection? = none :=
  ⟨findSome?_eq_none_of_subset h.symm.subset, findSome?_eq_none_of_subset h.subset⟩

section Options

variable {flags flags' : List FlagOption} {valued valued' : List ValueOption}

theorem optionObjection?_perm (hflags : flags.Perm flags') (hvalued : valued.Perm valued') :
    optionObjection? flags valued = none ↔ optionObjection? flags' valued' = none := by
  rw [optionObjection?_eq_none, optionObjection?_eq_none, findSome?_eq_none_perm hflags,
    findSome?_eq_none_perm hvalued]

/-- The entry of a flag family after rearranged declarations. -/
theorem flagEntry_enterOptions_perm {table : OptionTable} (hshape : table.WellShaped)
    (hflags : flags.Perm flags') (h : optionObjection? flags valued = none)
    (h' : optionObjection? flags' valued' = none) {family : OptionFamily}
    (hfamily : family.carriesValue = false) :
    ((enterOptions table flags valued).flagEntry family).Rearranged
      ((enterOptions table flags' valued').flagEntry family) := by
  rw [flagEntry_enterOptions hshape h hfamily, flagEntry_enterOptions hshape h' hfamily]
  -- the declarations for the slot are rearranged too, and so are the names they add
  have hdeclared := hflags.filter (FlagOption.declares family)
  exact OptionEntry.rearranged_of ((hdeclared.flatMap_right _).append_left _)
    ((hdeclared.flatMap_right _).append_left _)

/-- The values of a family after rearranged declarations. -/
theorem keys_enterOptions_perm (table : OptionTable) (hvalued : valued.Perm valued')
    (h : optionObjection? flags valued = none) (h' : optionObjection? flags' valued' = none)
    {family : OptionFamily} (hfamily : family.carriesValue = true) :
    ((enterOptions table flags valued).values family).keys.Perm
      ((enterOptions table flags' valued').values family).keys := by
  rw [keys_enterOptions h hfamily, keys_enterOptions h' hfamily]
  have hdeclared := hvalued.filter (ValueOption.declares family)
  exact Names.distinct_perm ((hdeclared.filterMap _).append_left _)

/-- The entry of a value after rearranged declarations. -/
theorem entryAt_enterOptions_perm {table : OptionTable} (hshape : table.WellShaped)
    (hvalued : valued.Perm valued') (h : optionObjection? flags valued = none)
    (h' : optionObjection? flags' valued' = none) {family : OptionFamily}
    (hfamily : family.carriesValue = true) (value : String) :
    (ValueEntries.entryAt ((enterOptions table flags valued).values family) value).Rearranged
      (ValueEntries.entryAt ((enterOptions table flags' valued').values family) value) := by
  rw [entryAt_enterOptions hshape h hfamily, entryAt_enterOptions hshape h' hfamily]
  have hdeclared := hvalued.filter (ValueOption.declaresValue family value)
  exact OptionEntry.rearranged_of ((hdeclared.flatMap_right _).append_left _)
    ((hdeclared.flatMap_right _).append_left _)

/-- The tables of rearranged declarations are rearranged. -/
theorem rearranged_enterOptions {table : OptionTable} (hshape : table.WellShaped)
    (hflags : flags.Perm flags') (hvalued : valued.Perm valued')
    (h : optionObjection? flags valued = none) :
    OptionTable.Rearranged (enterOptions table flags valued)
      (enterOptions table flags' valued') := by
  have h' := (optionObjection?_perm hflags hvalued).1 h
  have hfirst := wellShaped_enterOptions hshape h
  have hsecond := wellShaped_enterOptions hshape h'
  refine ⟨hsecond.keys.trans hfirst.keys.symm, ?_, ?_⟩
  · intro family hfamily
    exact ⟨_, _, hfirst.flag hfamily, hsecond.flag hfamily,
      flagEntry_enterOptions_perm hshape hflags h h' hfamily⟩
  · intro family hfamily
    have hkeys := keys_enterOptions_perm table hvalued h h' hfamily
    refine ⟨_, _, hfirst.valued hfamily, hsecond.valued hfamily, hkeys, ?_⟩
    intro value hvalue
    exact ⟨_, _, ValueEntries.get?_eq_some_entryAt hvalue,
      ValueEntries.get?_eq_some_entryAt (hkeys.mem_iff.1 hvalue),
      entryAt_enterOptions_perm hshape hvalued h h' hfamily value⟩

end Options

/-! ## Programs -/

/-- The program with other option declarations. -/
def Program.withOptions (program : Program) (flags : List FlagOption)
    (valued : List ValueOption) : Program :=
  { program with flags := flags, valued := valued }

/-- A program whose flags and whose value-bearing options are rearranged has a document exactly
when the program has one, and it is the same document but for the order of values and names in the
option table. -/
theorem outcome_build_rearranged (program : Program) {flags : List FlagOption}
    {valued : List ValueOption} (hflags : program.flags.Perm flags)
    (hvalued : program.valued.Perm valued) :
    ((∃ other, (program.withOptions flags valued).build.outcome = .ok other) ↔
      ∃ document, program.build.outcome = .ok document) ∧
    ∀ document other : Document, program.build.outcome = .ok document →
      (program.withOptions flags valued).build.outcome = .ok other →
      OptionTable.Rearranged document.options other.options ∧
      other = document.setOptions other.options := by
  have hobjection : (program.withOptions flags valued).objection? = none ↔
      program.objection? = none := by
    change Option.or (program.relationships.findSome? RelationshipBlock.objection?)
      (optionObjection? flags valued) = none ↔ _
    rw [Program.objection?, Option.or_eq_none_iff, Option.or_eq_none_iff,
      optionObjection?_perm hflags hvalued]
  constructor
  · simp only [Program.outcome_build_eq_ok_iff]
    rw [exists_and_left, exists_and_left, hobjection]
    simp
  · intro document other hdocument hother
    obtain ⟨hnone, rfl⟩ := Program.outcome_build_eq_ok_iff.1 hdocument
    obtain ⟨-, rfl⟩ := Program.outcome_build_eq_ok_iff.1 hother
    obtain ⟨-, hoptions⟩ := Option.or_eq_none_iff.1 hnone
    exact ⟨rearranged_enterOptions OptionTable.wellShaped_empty hflags hvalued hoptions, rfl⟩

/-- A program with a flag declared twice, and with two values of which one is declared twice. -/
def repetitiveProgram : Program :=
  { Program.empty with
    flags := [⟨.ofImage "filter", ⟨[.ofImage "A", .ofImage "B"], none⟩, none⟩,
      ⟨.ofImage "filter", ⟨[.ofImage "C", .ofImage "A"], none⟩, some [.ofImage "D"]⟩]
    valued := [
      ⟨.ofImage "dto", ⟨[.ofImage "A"], none, some (.ofImage "mapstruct"), none⟩, none⟩,
      ⟨.ofImage "dto", ⟨[], some (.ofImage "*"), some (.ofImage "record"), none⟩, none⟩,
      ⟨.ofImage "dto", ⟨[.ofImage "B"], none, some (.ofImage "mapstruct"), none⟩, none⟩] }

/-- Declared from last to first, the same names and values come in another order. -/
theorem outcome_build_rearranged_reversed :
    ∃ document other : Document, repetitiveProgram.build.outcome = .ok document ∧
      (repetitiveProgram.withOptions repetitiveProgram.flags.reverse
        repetitiveProgram.valued.reverse).build.outcome = .ok other ∧
      OptionTable.Rearranged document.options other.options ∧
      document.options.slot? .filter = some (.flag ⟨["A", "B", "C"], ["D"]⟩) ∧
      other.options.slot? .filter = some (.flag ⟨["C", "A", "B"], ["D"]⟩) := by
  have hdocument : repetitiveProgram.build.outcome = .ok repetitiveProgram.document :=
    repetitiveProgram.outcome_build
  obtain ⟨hiff, hsame⟩ := outcome_build_rearranged repetitiveProgram
    (List.reverse_perm repetitiveProgram.flags).symm
    (List.reverse_perm repetitiveProgram.valued).symm
  obtain ⟨other, hother⟩ := hiff.2 ⟨_, hdocument⟩
  obtain ⟨hrearranged, -⟩ := hsame _ _ hdocument hother
  refine ⟨_, other, hdocument, hother, hrearranged, rfl, ?_⟩
  obtain ⟨-, rfl⟩ := Program.outcome_build_eq_ok_iff.1 hother
  rfl

end Declared

end DomainModel
