import DomainModel.Proofs.BuildOutcome

/-!
# Building two programs in one

Two programs can be joined into one, kind by kind. The build of the joined program merges the flags
of both before the values of either, so it is not the one build followed by the other. Its
document is nevertheless made of the two documents alone: lists are joined, constants are written
over one another, and option entries are merged slot by slot.

## What this module delivers

- `OptionTable.Combines`, `Document.Combines`: what it means that a table or a document is made of
  two others.
- `constantsOf_append`, `combines_enterOptions`: the two kinds of declaration that are more than a
  list.
- `Program.objection?_append_eq_none_iff`: joined programs are without objection when both are.
- `outcome_build_append`: the document of the joined program.
-/

set_option autoImplicit false

namespace DomainModel

/-! ## Tables and documents made of two -/

/-- A table is made of two others: entries are merged, and new values follow the old ones. -/
structure OptionTable.Combines (first second combined : OptionTable) : Prop where
  families : combined.slots.keys = OptionFamily.all
  flag : ∀ family : OptionFamily, family.carriesValue = false → ∃ entry other : OptionEntry,
    first.slot? family = some (.flag entry) ∧ second.slot? family = some (.flag other) ∧
    combined.slot? family = some (.flag (entry.merge other))
  valued : ∀ family : OptionFamily, family.carriesValue = true →
    ∃ entries others merged : ValueEntries,
      first.slot? family = some (.valued entries) ∧
      second.slot? family = some (.valued others) ∧
      combined.slot? family = some (.valued merged) ∧
      merged.keys = entries.keys ++ others.keys.filter (fun value => value ∉ entries.keys) ∧
      ∀ value ∈ merged.keys, merged.get? value =
        some (((entries.get? value).getD .empty).merge ((others.get? value).getD .empty))

/-- A document is made of two others. -/
structure Document.Combines (first second combined : Document) : Prop where
  applications : combined.applications = first.applications ++ second.applications
  deployments : combined.deployments = first.deployments ++ second.deployments
  /-- The constants of the second are written into those of the first, in order. -/
  constants : combined.constants = first.constants.insertAll second.constants.entries
  /-- Names that are there keep their places, new ones follow. -/
  constantNames : combined.constants.keys =
    first.constants.keys ++
      second.constants.keys.filter (fun name => name ∉ first.constants.keys)
  /-- The numbers of the second document win. -/
  constantNumbers : ∀ name : String, combined.constants.get? name =
    (second.constants.get? name).or (first.constants.get? name)
  entities : combined.entities = first.entities ++ second.entities
  datasets : combined.datasets = first.datasets ++ second.datasets
  pages : combined.pages = first.pages ++ second.pages
  jsonConfigs : combined.jsonConfigs = first.jsonConfigs ++ second.jsonConfigs
  relationships : combined.relationships = first.relationships ++ second.relationships
  enums : combined.enums = first.enums ++ second.enums
  options : OptionTable.Combines first.options second.options combined.options

/-! ## Constants -/

namespace OrderedMap

variable {ν : Type}

theorem keys_insertAll_entries (m n : OrderedMap String ν) :
    (m.insertAll n.entries).keys = m.keys ++ n.keys.filter (fun name => name ∉ m.keys) := by
  rw [keys_insertAll, Names.distinct_append, distinct_keys, ← keys, distinct_keys]

theorem get?_insertAll_entries (m n : OrderedMap String ν) (name : String) :
    (m.insertAll n.entries).get? name = (n.get? name).or (m.get? name) :=
  get?_insertAll_of_nodup m n.nodup_keys name

end OrderedMap

namespace Declared

/-- The constants of a joined list are those of its parts, the second written into the first. -/
theorem constantsOf_append (constants others : List Constant) :
    constantsOf (constants ++ others) =
      (constantsOf constants).insertAll (constantsOf others).entries := by
  simp only [constantsOf, OrderedMap.ofList_eq_insertAll, List.map_append,
    OrderedMap.insertAll_append, OrderedMap.insertAll_entries_insertAll]

/-! ## Options -/

section Options

variable {flags flags' : List FlagOption} {valued valued' : List ValueOption}

theorem optionObjection?_append_eq_none_iff :
    optionObjection? (flags ++ flags') (valued ++ valued') = none ↔
      optionObjection? flags valued = none ∧ optionObjection? flags' valued' = none := by
  simp only [optionObjection?_eq_none, List.findSome?_append, Option.or_eq_none_iff]
  exact and_and_and_comm

/-- The entry of a flag family after joined declarations: the two lists of names are cut where the
declarations are. -/
theorem flagEntry_enterOptions_append (h : optionObjection? flags valued = none)
    (h' : optionObjection? flags' valued' = none) {family : OptionFamily}
    (hfamily : family.carriesValue = false) :
    (enterOptions .empty (flags ++ flags') (valued ++ valued')).flagEntry family =
      ((enterOptions .empty flags valued).flagEntry family).merge
        ((enterOptions .empty flags' valued').flagEntry family) := by
  have hshape := OptionTable.wellShaped_empty
  have happend := optionObjection?_append_eq_none_iff.2 ⟨h, h'⟩
  -- the filter keeps the order, so it cuts the joined list where the declarations are cut
  rw [flagEntry_enterOptions hshape happend hfamily, flagEntry_enterOptions hshape h hfamily,
    flagEntry_enterOptions hshape h' hfamily, OptionEntry.of_merge_of,
    OptionTable.flagEntry_empty]
  simp only [OptionEntry.empty, List.nil_append, List.filter_append, List.flatMap_append]

/-- The values of a family after joined declarations: those of the first declarations, then the
new ones of the others. -/
theorem keys_enterOptions_append (h : optionObjection? flags valued = none)
    (h' : optionObjection? flags' valued' = none) {family : OptionFamily}
    (hfamily : family.carriesValue = true) :
    ((enterOptions .empty (flags ++ flags') (valued ++ valued')).values family).keys =
      ((enterOptions .empty flags valued).values family).keys ++
        ((enterOptions .empty flags' valued').values family).keys.filter fun value =>
          value ∉ ((enterOptions .empty flags valued).values family).keys := by
  have happend := optionObjection?_append_eq_none_iff.2 ⟨h, h'⟩
  rw [keys_enterOptions happend hfamily, keys_enterOptions h hfamily,
    keys_enterOptions h' hfamily, OptionTable.values_empty]
  simp only [OrderedMap.keys_empty, List.nil_append, List.filter_append, List.filterMap_append,
    Names.distinct_append, Names.mem_distinct]

/-- The entry of a value after joined declarations. -/
theorem entryAt_enterOptions_append (h : optionObjection? flags valued = none)
    (h' : optionObjection? flags' valued' = none) {family : OptionFamily}
    (hfamily : family.carriesValue = true) (value : String) :
    ValueEntries.entryAt
        ((enterOptions .empty (flags ++ flags') (valued ++ valued')).values family) value =
      (ValueEntries.entryAt ((enterOptions .empty flags valued).values family) value).merge
        (ValueEntries.entryAt ((enterOptions .empty flags' valued').values family) value) := by
  have hshape := OptionTable.wellShaped_empty
  have happend := optionObjection?_append_eq_none_iff.2 ⟨h, h'⟩
  rw [entryAt_enterOptions hshape happend hfamily, entryAt_enterOptions hshape h hfamily,
    entryAt_enterOptions hshape h' hfamily, OptionEntry.of_merge_of, OptionTable.values_empty,
    ValueEntries.entryAt_empty]
  simp only [OptionEntry.empty, List.nil_append, List.filter_append, List.flatMap_append]

/-- The table of joined declarations is made of the tables of both. -/
theorem combines_enterOptions (h : optionObjection? flags valued = none)
    (h' : optionObjection? flags' valued' = none) :
    OptionTable.Combines (enterOptions .empty flags valued) (enterOptions .empty flags' valued')
      (enterOptions .empty (flags ++ flags') (valued ++ valued')) := by
  have hfirst := wellShaped_enterOptions OptionTable.wellShaped_empty h
  have hsecond := wellShaped_enterOptions OptionTable.wellShaped_empty h'
  have happend := optionObjection?_append_eq_none_iff.2 ⟨h, h'⟩
  have hcombined := wellShaped_enterOptions OptionTable.wellShaped_empty happend
  refine ⟨hcombined.keys, ?_, ?_⟩
  · intro family hfamily
    refine ⟨_, _, hfirst.flag hfamily, hsecond.flag hfamily, ?_⟩
    rw [hcombined.flag hfamily, flagEntry_enterOptions_append h h' hfamily]
  · intro family hfamily
    refine ⟨_, _, _, hfirst.valued hfamily, hsecond.valued hfamily, hcombined.valued hfamily,
      keys_enterOptions_append h h' hfamily, ?_⟩
    intro value hvalue
    rw [ValueEntries.get?_eq_some_entryAt hvalue, entryAt_enterOptions_append h h' hfamily]
    rfl

end Options

/-! ## Programs -/

namespace Program

/-- Nothing stands against a joined program exactly when nothing stands against either part. -/
theorem objection?_append_eq_none_iff (p q : Program) :
    (p ++ q).objection? = none ↔ p.objection? = none ∧ q.objection? = none := by
  change (List.findSome? RelationshipBlock.objection? (p.relationships ++ q.relationships)).or
    (optionObjection? (p.flags ++ q.flags) (p.valued ++ q.valued)) = none ↔ _
  rw [objection?, objection?]
  simp only [Option.or_eq_none_iff, List.findSome?_append, optionObjection?_append_eq_none_iff]
  exact and_and_and_comm

/-- The document of a joined program is made of the documents of both parts. -/
theorem combines_document {p q : Program} (hp : p.objection? = none) (hq : q.objection? = none) :
    Document.Combines p.document q.document (p ++ q).document := by
  have hconstants : (p ++ q).document.constants =
      p.document.constants.insertAll q.document.constants.entries :=
    constantsOf_append p.constants q.constants
  obtain ⟨-, hpoptions⟩ := Option.or_eq_none_iff.1 hp
  obtain ⟨-, hqoptions⟩ := Option.or_eq_none_iff.1 hq
  exact {
    applications := List.map_append
    deployments := List.map_append
    constants := hconstants
    constantNames := by rw [hconstants, OrderedMap.keys_insertAll_entries]
    constantNumbers := by
      intro name
      rw [hconstants, OrderedMap.get?_insertAll_entries]
    entities := List.map_append
    datasets := List.map_append
    pages := List.map_append
    jsonConfigs := List.map_append
    relationships := List.flatMap_append
    enums := List.map_append
    options := combines_enterOptions hpoptions hqoptions }

theorem build_fails_iff (program : Program) :
    (∃ violation, program.build.outcome = .error violation) ↔ program.objection? ≠ none := by
  rw [Option.ne_none_iff_exists']
  simp only [outcome_build_eq_error_iff]

end Program

/-- The build of two programs in one fails when either build fails, and else its document is made
of the two documents. -/
theorem outcome_build_append (p q : Program) :
    ((∃ violation, (p ++ q).build.outcome = .error violation) ↔
      (∃ violation, p.build.outcome = .error violation) ∨
        ∃ violation, q.build.outcome = .error violation) ∧
    ∀ first second : Document, p.build.outcome = .ok first → q.build.outcome = .ok second →
      ∃ combined, (p ++ q).build.outcome = .ok combined ∧
        Document.Combines first second combined := by
  constructor
  · rw [Program.build_fails_iff, Program.build_fails_iff, Program.build_fails_iff, ne_eq,
      Program.objection?_append_eq_none_iff, not_and_or]
  · intro first second hfirst hsecond
    obtain ⟨hp, rfl⟩ := Program.outcome_build_eq_ok_iff.1 hfirst
    obtain ⟨hq, rfl⟩ := Program.outcome_build_eq_ok_iff.1 hsecond
    have happend := (Program.objection?_append_eq_none_iff p q).2 ⟨hp, hq⟩
    exact ⟨_, Program.outcome_build_eq_ok_iff.2 ⟨happend, rfl⟩,
      Program.combines_document hp hq⟩

/-- A program with two constants, a flag and a pagination. -/
def limitedProgram : Program :=
  { Program.empty with
    constants := [⟨.ofImage "min", .integer (.ofImage "1")⟩,
      ⟨.ofImage "max", .integer (.ofImage "10")⟩]
    flags := [⟨.ofImage "skipClient", ⟨[.ofImage "A", .ofImage "B"], none⟩, none⟩]
    valued := [
      ⟨.ofImage "paginate", ⟨[.ofImage "A"], none, some (.ofImage "pager"), none⟩, none⟩] }

/-- A program that changes one of the constants and goes on with the same families. -/
def extendedProgram : Program :=
  { Program.empty with
    constants := [⟨.ofImage "step", .integer (.ofImage "5")⟩,
      ⟨.ofImage "max", .integer (.ofImage "20")⟩]
    flags := [⟨.ofImage "skipClient", ⟨[.ofImage "B", .ofImage "C"], none⟩, none⟩]
    valued := [
      ⟨.ofImage "pagination", ⟨[], some (.ofImage "*"), some (.ofImage "scroll"), none⟩, none⟩,
      ⟨.ofImage "pagination", ⟨[.ofImage "B"], none, some (.ofImage "pager"), none⟩, none⟩] }

/-- In the joined program the constant is changed in place and the entries are united. -/
theorem outcome_build_append_extended :
    ∃ combined : Document, (limitedProgram ++ extendedProgram).build.outcome = .ok combined ∧
      combined.constants.keys = ["min", "max", "step"] ∧
      combined.constants.get? "max" = some "20" ∧
      combined.options.slot? .skipClient = some (.flag ⟨["A", "B", "C"], []⟩) ∧
      ∃ merged : ValueEntries, combined.options.slot? .pagination = some (.valued merged) ∧
        merged.keys = ["pager", "scroll"] ∧ merged.get? "pager" = some ⟨["A", "B"], []⟩ := by
  have hlimited : limitedProgram.build.outcome = .ok limitedProgram.document :=
    limitedProgram.outcome_build
  have hextended : extendedProgram.build.outcome = .ok extendedProgram.document :=
    extendedProgram.outcome_build
  obtain ⟨combined, hcombined, hmade⟩ :=
    (outcome_build_append limitedProgram extendedProgram).2 _ _ hlimited hextended
  obtain ⟨entry, other, hentry, hother, hflag⟩ := hmade.options.flag .skipClient rfl
  cases hentry
  cases hother
  obtain ⟨entries, others, merged, hentries, hothers, hvalued, hkeys, hget⟩ :=
    hmade.options.valued .pagination rfl
  cases hentries
  cases hothers
  have hvalues : merged.keys = ["pager", "scroll"] := hkeys
  refine ⟨combined, hcombined, hmade.constantNames, hmade.constantNumbers "max", hflag, merged,
    hvalued, hvalues, ?_⟩
  exact hget "pager" (by rw [hvalues]; simp)

end Declared

end DomainModel
