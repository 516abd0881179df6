import DomainModel.Proofs.BuildLog

/-!
# The place of a failure in the log

A build that fails does so at one declaration: what is declared before has a document, and with this
declaration there is a violation (`Program.FailsAt`). The log shows the place, because every
declaration that is entered leaves one trace. What the last trace tells depends on the kind of
declaration: a relationship block is told of before anything is checked, an option after its name
and selector are checked and before the kind of its family is. So the count of traces and the code
of the violation together give the place.

## What this module delivers

- `Program.TracedUpTo`: how far a log tells of a program, with `Program.told`, the log that tells so
  far.
- `Place`, `Program.FailsAt`: the declaration at which a build fails.
- `log_of_failsAt_block`, `log_of_failsAt_flag`, `log_of_failsAt_value`,
  `log_of_objection?_eq_none`: the log of every compilation, by how its build ends.
- `log_localises_failure`: the place of a failure shows in the log.
-/

set_option autoImplicit false

namespace DomainModel.Declared

/-! ## How far a log tells of a program -/

/-- The traces in a log with a message are those of the first so many declarations of a list, one
for each. -/
def TracesFirst {α : Type} (message : String) (log : List Record) (trace : α → Record)
    (list : List α) (count : Nat) : Prop :=
  tracesOf message log = (list.take count).map trace ∧ (tracesOf message log).length = count

theorem tracesFirst_of_eq {α : Type} {message : String} {log : List Record} {trace : α → Record}
    {list : List α} {count : Nat} (h : tracesOf message log = (list.take count).map trace)
    (hcount : count ≤ list.length) : TracesFirst message log trace list count := by
  refine ⟨h, ?_⟩
  rw [h, List.length_map, List.length_take, Nat.min_eq_left hcount]

/-- A log tells of every constant, entity and page of a program, and of the first so many of its
relationship blocks, flag declarations and value-bearing declarations. -/
structure Program.TracedUpTo (program : Program) (log : List Record) (blocks flags valued : Nat) :
    Prop where
  /-- Every constant has a trace. -/
  constants : TracesFirst "Constant" log Constant.trace program.constants program.constants.length
  /-- Every entity has a trace. -/
  entities : TracesFirst "Entity" log Entity.trace program.entities program.entities.length
  /-- Every page has a trace. -/
  pages : TracesFirst "Page" log Page.trace program.pages program.pages.length
  /-- These come before any trace of a relationship block. -/
  in_order : ∃ front rest, log = front ++ rest ∧ tracesOf "Relationship" front = [] ∧
    tracesOf "Constant" rest = [] ∧ tracesOf "Entity" rest = [] ∧ tracesOf "Page" rest = []
  /-- The blocks that have a trace. -/
  relationships :
    TracesFirst "Relationship" log RelationshipBlock.trace program.relationships blocks
  /-- The flag declarations that have a trace. -/
  flags : TracesFirst "Merging flag option" log FlagOption.trace program.flags flags
  /-- The value-bearing declarations that have a trace. -/
  valued : TracesFirst "Merging value option" log ValueOption.trace program.valued valued

namespace Program

/-- What comes first tells of the constants, the entities and the pages. -/
theorem tracesOf_opening {message : String} (hmessage : message ∈ declarationMessages)
    (program : Program) : tracesOf message program.opening =
      (if "Constant" = message then program.constants.map Constant.trace else []) ++
      (if "Entity" = message then program.entities.map Entity.trace else []) ++
      (if "Page" = message then program.pages.map Page.trace else []) := by
  have hquiet : ∀ {events : List Event}, Quiet events →
      tracesOf message (events.map Event.record) = [] :=
    fun h => h.tracesOf_eq_nil hmessage
  simp only [opening, tracesOf_append, Constant.tracedAs.tracesOf_map,
    Entity.tracedAs.tracesOf_map, Page.tracedAs.tracesOf_map]
  rw [hquiet (by simp [Quiet, Event.ofDeclaration]),
    hquiet (by simp [Quiet, Event.ofDeclaration]),
    hquiet (by simp [Quiet, Event.ofDeclaration]),
    hquiet (by simp [Quiet, Event.ofDeclaration])]
  simp only [List.nil_append, List.append_nil]

/-- A log that tells of the first so many declarations of each kind, with events between the
relationships and the options and events behind the options. -/
def told (program : Program) (blocks flags valued : Nat) (between behind : List Event) :
    List Record :=
  [Event.compiling].map Event.record ++ program.opening ++
    (program.relationships.take blocks).map RelationshipBlock.trace ++
    between.map Event.record ++
    (program.flags.take flags).map FlagOption.trace ++
    (program.valued.take valued).map ValueOption.trace ++
    behind.map Event.record

section Told

variable {program : Program} {blocks flags valued : Nat} {between behind : List Event}

theorem told_blocks : program.told blocks 0 0 [] [] =
    [Event.compiling].map Event.record ++ program.opening ++
      (program.relationships.take blocks).map RelationshipBlock.trace := by
  simp [told]

theorem tracesOf_told {message : String} (hmessage : message ∈ declarationMessages)
    (hbetween : Quiet between) (hbehind : Quiet behind) :
    tracesOf message (program.told blocks flags valued between behind) =
      (if "Constant" = message then program.constants.map Constant.trace else []) ++
      (if "Entity" = message then program.entities.map Entity.trace else []) ++
      (if "Page" = message then program.pages.map Page.trace else []) ++
      (if "Relationship" = message then
        (program.relationships.take blocks).map RelationshipBlock.trace else []) ++
      (if "Merging flag option" = message then
        (program.flags.take flags).map FlagOption.trace else []) ++
      (if "Merging value option" = message then
        (program.valued.take valued).map ValueOption.trace else []) := by
  have hcompiling : Quiet [.compiling] := by simp [Quiet, Event.ofDeclaration]
  simp only [told, tracesOf_append, tracesOf_opening hmessage,
    hcompiling.tracesOf_eq_nil hmessage, hbetween.tracesOf_eq_nil hmessage,
    hbehind.tracesOf_eq_nil hmessage, RelationshipBlock.tracedAs.tracesOf_map,
    FlagOption.tracedAs.tracesOf_map, ValueOption.tracedAs.tracesOf_map, List.nil_append,
    List.append_nil]

/-- Such a log tells of a program as far as it should. -/
theorem tracedUpTo_told (hbetween : Quiet between) (hbehind : Quiet behind)
    (hblocks : blocks ≤ program.relationships.length) (hflags : flags ≤ program.flags.length)
    (hvalued : valued ≤ program.valued.length) :
    program.TracedUpTo (program.told blocks flags valued between behind) blocks flags valued where
  constants := by
    refine tracesFirst_of_eq ?_ (Nat.le_refl _)
    rw [tracesOf_told (by decide) hbetween hbehind]
    simp
  entities := by
    refine tracesFirst_of_eq ?_ (Nat.le_refl _)
    rw [tracesOf_told (by decide) hbetween hbehind]
    simp
  pages := by
    refine tracesFirst_of_eq ?_ (Nat.le_refl _)
    rw [tracesOf_told (by decide) hbetween hbehind]
    simp
  relationships := by
    refine tracesFirst_of_eq ?_ hblocks
    rw [tracesOf_told (by decide) hbetween hbehind]
    simp
  flags := by
    refine tracesFirst_of_eq ?_ hflags
    rw [tracesOf_told (by decide) hbetween hbehind]
    simp
  valued := by
    refine tracesFirst_of_eq ?_ hvalued
    rw [tracesOf_told (by decide) hbetween hbehind]
    simp
  in_order := by
    have hcompiling : Quiet [.compiling] := by simp [Quiet, Event.ofDeclaration]
    have hfront : tracesOf "Relationship" ([Event.compiling].map Event.record ++ program.opening) =
        [] := by
      have hmessage : "Relationship" ∈ declarationMessages := by decide
      rw [tracesOf_append, hcompiling.tracesOf_eq_nil hmessage, tracesOf_opening hmessage]
      simp
    have hrest : ∀ message ∈ ["Constant", "Entity", "Page"], tracesOf message
        ((program.relationships.take blocks).map RelationshipBlock.trace ++
          between.map Event.record ++
          (program.flags.take flags).map FlagOption.trace ++
          (program.valued.take valued).map ValueOption.trace ++
          behind.map Event.record) = [] := by
      intro message hmember
      have hmessage : message ∈ declarationMessages :=
        List.mem_append_left ["Relationship", "Merging flag option", "Merging value option"] hmember
      simp only [tracesOf_append, RelationshipBlock.tracedAs.tracesOf_map,
        FlagOption.tracedAs.tracesOf_map, ValueOption.tracedAs.tracesOf_map,
        hbetween.tracesOf_eq_nil hmessage, hbehind.tracesOf_eq_nil hmessage]
      revert message
      simp
    refine ⟨_, _, ?_, hfront, hrest _ (by simp), hrest _ (by simp), hrest _ (by simp)⟩
    simp only [told, List.append_assoc]

/-- Of a document a log tells only behind the options. -/
theorem built_notMem_told (hbetween : .built ∉ between) :
    Event.built.record ∉ program.told blocks flags valued between [] := by
  have hlevel : Event.built.record.level ≠ .trace := by decide
  have hopening : Event.built.record ∉ program.opening := by
    simp only [opening, List.mem_append, not_or, built_mem_records_iff,
      Constant.tracedAs.notMem_map hlevel, Entity.tracedAs.notMem_map hlevel,
      Page.tracedAs.notMem_map hlevel]
    simp
  simp only [told, List.mem_append, not_or, built_mem_records_iff]
  refine ⟨⟨⟨⟨⟨⟨by simp, hopening⟩, ?_⟩, hbetween⟩, ?_⟩, ?_⟩, List.not_mem_nil⟩
  · exact RelationshipBlock.tracedAs.notMem_map hlevel _
  · exact FlagOption.tracedAs.notMem_map hlevel _
  · exact ValueOption.tracedAs.notMem_map hlevel _

end Told

end Program

/-! ## The place of a failure -/

/-- A declaration at which a build can fail, by its place among those of its kind, counted from
zero. -/
inductive Place where
  /-- A relationship block. -/
  | block (index : Nat)
  /-- A flag declaration. -/
  | flag (index : Nat)
  /-- A value-bearing declaration. -/
  | value (index : Nat)

/-- The place after a place. -/
def Place.next : Place → Place
  | .block index => .block (index + 1)
  | .flag index => .flag (index + 1)
  | .value index => .value (index + 1)

namespace Program

/-- What a program declares before a place: flags come after all blocks, and values after all
flags. -/
def before (program : Program) : Place → Program
  | .block index =>
      { program with
        relationships := program.relationships.take index
        flags := []
        valued := [] }
  | .flag index => { program with
      flags := program.flags.take index
      valued := [] }
  | .value index => { program with valued := program.valued.take index }

/-- The build of a program fails at a place: what is declared before has a document, and with the
declaration at the place there is a violation. -/
structure FailsAt (program : Program) (place : Place) (violation : Violation) : Prop where
  /-- What is declared before the place builds. -/
  builds : ∃ document, (program.before place).build.outcome = .ok document
  /-- With the declaration at the place it does not. -/
  fails : (program.before place.next).build.outcome = .error violation

theorem failsAt_iff {program : Program} {place : Place} {violation : Violation} :
    program.FailsAt place violation ↔ (program.before place).objection? = none ∧
      (program.before place.next).objection? = some violation := by
  rw [← outcome_build_eq_error_iff]
  constructor
  · rintro ⟨⟨document, hbuilds⟩, hfails⟩
    exact ⟨(outcome_build_eq_ok_iff.1 hbuilds).1, hfails⟩
  · rintro ⟨hnone, hfails⟩
    exact ⟨⟨_, outcome_build_eq_ok_iff.2 ⟨hnone, rfl⟩⟩, hfails⟩

section FailsAt

variable {program : Program} {index : Nat} {violation : Violation}

theorem failsAt_block_iff : program.FailsAt (.block index) violation ↔
    FirstObjection RelationshipBlock.objection? program.relationships index violation := by
  rw [failsAt_iff]
  simp only [before, Place.next, objection?, optionObjection?, List.findSome?_nil, Option.or_none]
  constructor
  · rintro ⟨hbefore, hupTo⟩
    exact ⟨hbefore, hupTo⟩
  · intro h
    exact ⟨h.before, h.upTo⟩

theorem failsAt_flag_iff : program.FailsAt (.flag index) violation ↔
    program.relationships.findSome? RelationshipBlock.objection? = none ∧
      FirstObjection FlagOption.objection? program.flags index violation := by
  rw [failsAt_iff]
  simp only [before, Place.next, objection?, optionObjection?, List.findSome?_nil, Option.or_none,
    Option.or_eq_none_iff]
  constructor
  · -- that the flags before build says at once that nothing stands against the blocks
    rintro ⟨⟨hblocks, hbefore⟩, hupTo⟩
    rw [hblocks, Option.none_or] at hupTo
    exact ⟨hblocks, hbefore, hupTo⟩
  · rintro ⟨hblocks, hbefore, hupTo⟩
    exact ⟨⟨hblocks, hbefore⟩, by rw [hblocks, Option.none_or, hupTo]⟩

theorem failsAt_value_iff : program.FailsAt (.value index) violation ↔
    program.relationships.findSome? RelationshipBlock.objection? = none ∧
      program.flags.findSome? FlagOption.objection? = none ∧
      FirstObjection ValueOption.objection? program.valued index violation := by
  rw [failsAt_iff]
  simp only [before, Place.next, objection?, optionObjection?, Option.or_eq_none_iff]
  constructor
  · rintro ⟨⟨hblocks, hflags, hbefore⟩, hupTo⟩
    rw [hblocks, hflags, Option.none_or, Option.none_or] at hupTo
    exact ⟨hblocks, hflags, hbefore, hupTo⟩
  · rintro ⟨hblocks, hflags, hbefore, hupTo⟩
    exact ⟨⟨hblocks, hflags, hbefore⟩, by rw [hblocks, hflags, hupTo]; rfl⟩

/-- The violation with which a build fails at a place stands against the program. -/
theorem FailsAt.objection?_eq_some {place : Place} (hplace : program.FailsAt place violation) :
    program.objection? = some violation := by
  rw [objection?, optionObjection?]
  cases place with
  | block index =>
      have h := failsAt_block_iff.1 hplace
      rw [findSome?_eq_some_iff_firstObjection.2 ⟨index, h⟩, Option.some_or]
  | flag index =>
      obtain ⟨hblocks, h⟩ := failsAt_flag_iff.1 hplace
      rw [hblocks, findSome?_eq_some_iff_firstObjection.2 ⟨index, h⟩, Option.none_or,
        Option.some_or]
  | value index =>
      obtain ⟨hblocks, hflags, h⟩ := failsAt_value_iff.1 hplace
      rw [hblocks, hflags, findSome?_eq_some_iff_firstObjection.2 ⟨index, h⟩, Option.none_or,
        Option.none_or]

/-- A violation that stands against a program is met at a place: among the blocks, or behind them
among the flags, or behind these among the values. -/
theorem exists_failsAt (h : program.objection? = some violation) :
    ∃ place, program.FailsAt place violation := by
  rw [objection?, optionObjection?] at h
  cases hblocks : program.relationships.findSome? RelationshipBlock.objection? with
  | some other =>
      rw [hblocks, Option.some_or] at h
      cases h
      obtain ⟨index, hindex⟩ := findSome?_eq_some_iff_firstObjection.1 hblocks
      exact ⟨.block index, failsAt_block_iff.2 hindex⟩
  | none =>
      cases hflags : program.flags.findSome? FlagOption.objection? with
      | some other =>
          rw [hblocks, hflags, Option.none_or, Option.some_or] at h
          cases h
          obtain ⟨index, hindex⟩ := findSome?_eq_some_iff_firstObjection.1 hflags
          exact ⟨.flag index, failsAt_flag_iff.2 ⟨hblocks, hindex⟩⟩
      | none =>
          rw [hblocks, hflags, Option.none_or, Option.none_or] at h
          obtain ⟨index, hindex⟩ := findSome?_eq_some_iff_firstObjection.1 h
          exact ⟨.value index, failsAt_value_iff.2 ⟨hblocks, hflags, hindex⟩⟩

end FailsAt

/-! ## The log of a failure, and of a build that succeeds -/

section Log

variable {settings : Settings} {source : String} {program : Program} {index : Nat}
  {violation : Violation}

/-- A build that fails at a block tells of this block last. -/
theorem log_of_failsAt_block (h : program.FailsAt (.block index) violation) :
    program.log settings source = program.told (index + 1) 0 0 [] [] := by
  obtain ⟨issues, hissues⟩ := outcome_datasetIssues settings program.datasets
  have hfirst := failsAt_block_iff.1 h
  rw [log_eq hissues, hfirst.reached_eq, findSome?_eq_some_iff_firstObjection.2 ⟨index, hfirst⟩]
  simp [told]

/-- A build that fails at a flag tells of all blocks, and of the flag only if its family is
known. -/
theorem log_of_failsAt_flag (h : program.FailsAt (.flag index) violation) :
    (violation.code = .unknownFamily ∧ program.log settings source =
      program.told program.relationships.length index 0 program.middle []) ∨
    (violation.code = .kindMismatch ∧ program.log settings source =
      program.told program.relationships.length (index + 1) 0 program.middle []) := by
  obtain ⟨issues, hissues⟩ := outcome_datasetIssues settings program.datasets
  obtain ⟨hblocks, hfirst⟩ := failsAt_flag_iff.1 h
  obtain ⟨declared, hobjection, huntold, htold⟩ :=
    hfirst.record_reached fun _ => FlagOption.record_events_of_none
  rw [log_eq hissues, reached_of_findSome?_eq_none hblocks, hblocks,
    findSome?_eq_some_iff_firstObjection.2 ⟨index, hfirst⟩]
  -- the code tells which check the flag fails at, and its trace stands between the two
  rcases FlagOption.record_events_of_some hobjection with ⟨hcode, hrecord⟩ | ⟨hcode, hrecord⟩
  · refine .inl ⟨hcode, ?_⟩
    rw [huntold hrecord]
    simp [told]
  · refine .inr ⟨hcode, ?_⟩
    rw [htold hrecord]
    simp [told]

/-- A build that fails at a value-bearing declaration tells of all blocks and flags, and of the
declaration only if its family is known and it has a value. -/
theorem log_of_failsAt_value (h : program.FailsAt (.value index) violation) :
    ((violation.code = .unknownFamily ∨ violation.code = .missingValue) ∧
      program.log settings source = program.told program.relationships.length
        program.flags.length index program.middle []) ∨
    (violation.code = .kindMismatch ∧
      program.log settings source = program.told program.relationships.length
        program.flags.length (index + 1) program.middle []) := by
  obtain ⟨issues, hissues⟩ := outcome_datasetIssues settings program.datasets
  obtain ⟨hblocks, hflags, hfirst⟩ := failsAt_value_iff.1 h
  obtain ⟨declared, hobjection, huntold, htold⟩ :=
    hfirst.record_reached fun _ => ValueOption.record_events_of_none
  rw [log_eq hissues, reached_of_findSome?_eq_none hblocks, hblocks,
    reached_of_findSome?_eq_none hflags, hflags,
    record_flatMap (fun _ => FlagOption.record_events_of_none) hflags,
    findSome?_eq_some_iff_firstObjection.2 ⟨index, hfirst⟩]
  rcases ValueOption.record_events_of_some hobjection with ⟨hcode, hrecord⟩ | ⟨hcode, hrecord⟩
  · refine .inl ⟨hcode, ?_⟩
    rw [huntold hrecord]
    simp [told]
  · refine .inr ⟨hcode, ?_⟩
    rw [htold hrecord]
    simp [told]

/-- A build that succeeds tells of every declaration. -/
theorem log_of_objection?_eq_none {issues : List Diagnostic}
    (hissues : (datasetIssues settings program.datasets : Traced Failure _).outcome = .ok issues)
    (h : program.objection? = none) :
    program.log settings source = program.told program.relationships.length
      program.flags.length program.valued.length program.middle
      (program.closing settings issues.length) := by
  rw [objection?, Option.or_eq_none_iff, optionObjection?_eq_none] at h
  obtain ⟨hblocks, hflags, hvalued⟩ := h
  rw [log_eq hissues, reached_of_findSome?_eq_none hblocks, hblocks,
    reached_of_findSome?_eq_none hflags, hflags, reached_of_findSome?_eq_none hvalued, hvalued,
    record_flatMap (fun _ => FlagOption.record_events_of_none) hflags,
    record_flatMap (fun _ => ValueOption.record_events_of_none) hvalued]
  simp [told]

/-- The log of a build that fails at a block shows the blocks up to this one. -/
theorem tracedUpTo_of_failsAt_block (h : program.FailsAt (.block index) violation) :
    program.TracedUpTo (program.log settings source) (index + 1) 0 0 := by
  have hlt : index < program.relationships.length := (failsAt_block_iff.1 h).lt_length
  rw [log_of_failsAt_block h]
  exact tracedUpTo_told quiet_nil quiet_nil hlt (Nat.zero_le _) (Nat.zero_le _)

/-- The log of a build that fails at a flag shows the flags before it, and this one when it is of
the wrong kind. -/
theorem tracedUpTo_of_failsAt_flag (h : program.FailsAt (.flag index) violation) :
    (violation.code = .unknownFamily ∧ program.TracedUpTo (program.log settings source)
      program.relationships.length index 0) ∨
    (violation.code = .kindMismatch ∧ program.TracedUpTo (program.log settings source)
      program.relationships.length (index + 1) 0) := by
  have hlt : index < program.flags.length := (failsAt_flag_iff.1 h).2.lt_length
  rcases log_of_failsAt_flag h with ⟨hcode, hlog⟩ | ⟨hcode, hlog⟩
  · refine .inl ⟨hcode, ?_⟩
    rw [hlog]
    exact tracedUpTo_told (quiet_middle program) quiet_nil (Nat.le_refl _) (Nat.le_of_lt hlt)
      (Nat.zero_le _)
  · refine .inr ⟨hcode, ?_⟩
    rw [hlog]
    exact tracedUpTo_told (quiet_middle program) quiet_nil (Nat.le_refl _) hlt (Nat.zero_le _)

/-- The log of a build that fails at a value-bearing declaration shows those before it, and this one
when it is of the wrong kind. -/
theorem tracedUpTo_of_failsAt_value (h : program.FailsAt (.value index) violation) :
    ((violation.code = .unknownFamily ∨ violation.code = .missingValue) ∧
      program.TracedUpTo (program.log settings source) program.relationships.length
        program.flags.length index) ∨
    (violation.code = .kindMismatch ∧
      program.TracedUpTo (program.log settings source) program.relationships.length
        program.flags.length (index + 1)) := by
  have hlt : index < program.valued.length := (failsAt_value_iff.1 h).2.2.lt_length
  rcases log_of_failsAt_value h with ⟨hcode, hlog⟩ | ⟨hcode, hlog⟩
  · refine .inl ⟨hcode, ?_⟩
    rw [hlog]
    exact tracedUpTo_told (quiet_middle program) quiet_nil (Nat.le_refl _) (Nat.le_refl _)
      (Nat.le_of_lt hlt)
  · refine .inr ⟨hcode, ?_⟩
    rw [hlog]
    exact tracedUpTo_told (quiet_middle program) quiet_nil (Nat.le_refl _) (Nat.le_refl _) hlt

/-- The trace of the block at which a build fails is the last record. -/
theorem getLast?_log_of_failsAt_block (h : program.FailsAt (.block index) violation) :
    (program.log settings source).getLast? =
      (tracesOf "Relationship" (program.log settings source)).getLast? := by
  obtain ⟨block, hblock, -⟩ := (failsAt_block_iff.1 h).exists_getElem?
  have hupTo : (program.relationships.take (index + 1)).map RelationshipBlock.trace =
      (program.relationships.take index).map RelationshipBlock.trace ++ [block.trace] := by
    rw [List.take_add_one, hblock, List.map_append]
    rfl
  have htold : program.TracedUpTo (program.log settings source) (index + 1) 0 0 :=
    tracedUpTo_of_failsAt_block h
  -- nothing follows the traces of the blocks, so the last of them is the last record
  rw [htold.relationships.1, log_of_failsAt_block h, told_blocks, hupTo, ← List.append_assoc,
    List.getLast?_concat, List.getLast?_concat]

/-- The log of a build that fails tells of no document. -/
theorem built_notMem_log_of_failsAt {place : Place} (h : program.FailsAt place violation) :
    Event.built.record ∉ program.log settings source := by
  have hmiddle : .built ∉ program.middle := by simp [middle]
  cases place with
  | block index =>
      rw [log_of_failsAt_block h]
      exact built_notMem_told List.not_mem_nil
  | flag index =>
      rcases log_of_failsAt_flag h with ⟨-, hlog⟩ | ⟨-, hlog⟩
      · rw [hlog]
        exact built_notMem_told hmiddle
      · rw [hlog]
        exact built_notMem_told hmiddle
  | value index =>
      rcases log_of_failsAt_value h with ⟨-, hlog⟩ | ⟨-, hlog⟩
      · rw [hlog]
        exact built_notMem_told hmiddle
      · rw [hlog]
        exact built_notMem_told hmiddle

/-! ### The outcome -/

theorem outcome_compile_of_failsAt {place : Place} (h : program.FailsAt place violation) :
    (compile settings source program).outcome = .error (violation.failure source) := by
  obtain ⟨issues, hissues⟩ := outcome_datasetIssues settings program.datasets
  rw [outcome_compile hissues, h.objection?_eq_some]
  rfl

/-- A compilation fails only because its build fails at a place. -/
theorem exists_failsAt_of_outcome_eq_error {failure : Failure}
    (h : (compile settings source program).outcome = .error failure) :
    ∃ place violation, program.FailsAt place violation ∧ failure = violation.failure source := by
  obtain ⟨issues, hissues⟩ := outcome_datasetIssues settings program.datasets
  rw [outcome_compile hissues, verdict_eq_error_iff, Option.map_eq_some_iff] at h
  obtain ⟨violation, hviolation, rfl⟩ := h
  obtain ⟨place, hplace⟩ := exists_failsAt hviolation
  exact ⟨place, violation, hplace, rfl⟩

/-- The log of a compilation that succeeds tells of every declaration, and behind the options of the
document and its findings. -/
theorem log_of_outcome_eq_ok {compilation : Compilation}
    (h : (compile settings source program).outcome = .ok compilation) :
    program.log settings source = program.told program.relationships.length
      program.flags.length program.valued.length program.middle
      (program.closing settings compilation.issues.length) := by
  obtain ⟨issues, hissues⟩ := outcome_datasetIssues settings program.datasets
  rw [outcome_compile hissues, verdict_eq_ok_iff, Option.map_eq_none_iff] at h
  obtain ⟨hnone, rfl⟩ := h
  exact log_of_objection?_eq_none hissues hnone

theorem tracedUpTo_of_outcome_eq_ok {compilation : Compilation}
    (h : (compile settings source program).outcome = .ok compilation) :
    program.TracedUpTo (program.log settings source) program.relationships.length
      program.flags.length program.valued.length := by
  rw [log_of_outcome_eq_ok h]
  exact tracedUpTo_told (quiet_middle program) (quiet_closing settings program _) (Nat.le_refl _)
    (Nat.le_refl _) (Nat.le_refl _)

/-- The count of findings is the last record of a compilation that succeeds. -/
theorem getLast?_log_of_outcome_eq_ok {compilation : Compilation}
    (h : (compile settings source program).outcome = .ok compilation) :
    (program.log settings source).getLast? =
      some (Event.checksCompleted compilation.issues.length).record := by
  rw [log_of_outcome_eq_ok h, told, closing, List.map_append, ← List.append_assoc]
  exact List.getLast?_concat

/-- The log of a compilation tells of a document exactly when there is one. -/
theorem built_mem_log_iff : Event.built.record ∈ program.log settings source ↔
    ∃ compilation, (compile settings source program).outcome = .ok compilation := by
  constructor
  · intro hbuilt
    cases houtcome : (compile settings source program).outcome with
    | ok compilation => exact ⟨compilation, rfl⟩
    | error failure =>
        obtain ⟨place, violation, hplace, -⟩ := exists_failsAt_of_outcome_eq_error houtcome
        exact absurd hbuilt (built_notMem_log_of_failsAt hplace)
  · rintro ⟨compilation, h⟩
    have hclosing : .built ∈ program.closing settings compilation.issues.length := by
      simp [closing]
    rw [log_of_outcome_eq_ok h, told, List.mem_append]
    exact .inr (built_mem_records_iff.2 hclosing)

/-- However a compilation ends, its log tells of the first so many declarations of each kind. -/
theorem exists_tracedUpTo (settings : Settings) (source : String) (program : Program) :
    ∃ blocks flags valued,
      program.TracedUpTo (program.log settings source) blocks flags valued := by
  cases houtcome : (compile settings source program).outcome with
  | ok compilation => exact ⟨_, _, _, tracedUpTo_of_outcome_eq_ok houtcome⟩
  | error failure =>
      obtain ⟨place, violation, hplace, -⟩ := exists_failsAt_of_outcome_eq_error houtcome
      cases place with
      | block index => exact ⟨_, _, _, tracedUpTo_of_failsAt_block hplace⟩
      | flag index =>
          rcases tracedUpTo_of_failsAt_flag hplace with ⟨-, htold⟩ | ⟨-, htold⟩
          · exact ⟨_, _, _, htold⟩
          · exact ⟨_, _, _, htold⟩
      | value index =>
          rcases tracedUpTo_of_failsAt_value hplace with ⟨-, htold⟩ | ⟨-, htold⟩
          · exact ⟨_, _, _, htold⟩
          · exact ⟨_, _, _, htold⟩

end Log

end Program

/-! ## The log localises a failure -/

/-- What the log of a compilation shows of its outcome. -/
structure Program.Localises (program : Program) (source : String) (log : List Record)
    (outcome : Except Failure Compilation) : Prop where
  /-- Whatever comes of the program, every constant, entity and page is told of, in order and before
  the relationships. -/
  declarations : ∃ blocks flags valued, program.TracedUpTo log blocks flags valued
  /-- A build that fails at a block tells of the blocks up to this one, and of this one last. -/
  at_block : ∀ index violation, program.FailsAt (.block index) violation →
    outcome = .error (violation.failure source) ∧ program.TracedUpTo log (index + 1) 0 0 ∧
      log.getLast? = (tracesOf "Relationship" log).getLast?
  /-- A build that fails at a flag tells of all blocks, of the flags before it, and of this one when
  it is of the wrong kind. -/
  at_flag : ∀ index violation, program.FailsAt (.flag index) violation →
    outcome = .error (violation.failure source) ∧
      ((violation.code = .unknownFamily ∧
          program.TracedUpTo log program.relationships.length index 0) ∨
        (violation.code = .kindMismatch ∧
          program.TracedUpTo log program.relationships.length (index + 1) 0))
  /-- A build that fails at a value-bearing declaration tells of all blocks and flags, of the
  declarations before it, and of this one when it is of the wrong kind. -/
  at_value : ∀ index violation, program.FailsAt (.value index) violation →
    outcome = .error (violation.failure source) ∧
      (((violation.code = .unknownFamily ∨ violation.code = .missingValue) ∧
          program.TracedUpTo log program.relationships.length program.flags.length index) ∨
        (violation.code = .kindMismatch ∧
          program.TracedUpTo log program.relationships.length program.flags.length (index + 1)))
  /-- These are all the ways to fail. -/
  failure : ∀ failure, outcome = .error failure →
    ∃ place violation, program.FailsAt place violation ∧ failure = violation.failure source
  /-- The log says whether the build succeeds. -/
  success : (∃ compilation, outcome = .ok compilation) ↔
    (⟨.info, "Document built successfully", []⟩ : Record) ∈ log
  /-- A build that succeeds tells of every declaration, and the count of findings comes last. -/
  complete : ∀ compilation, outcome = .ok compilation →
    program.TracedUpTo log program.relationships.length program.flags.length
        program.valued.length ∧
      log.getLast? =
        some ⟨.info, "Checks completed", [("issues", Event.decimal compilation.issues.length)]⟩

/-- The log localises a failure: for every program and all settings, the place at which the build
fails shows in the traces of the log, and a log tells of a document exactly when there is one. -/
theorem log_localises_failure (settings : Settings) (source : String) (program : Program) :
    program.Localises source (program.log settings source)
      (compile settings source program).outcome where
  declarations := Program.exists_tracedUpTo settings source program
  at_block _ _ h := ⟨Program.outcome_compile_of_failsAt h, Program.tracedUpTo_of_failsAt_block h,
    Program.getLast?_log_of_failsAt_block h⟩
  at_flag _ _ h := ⟨Program.outcome_compile_of_failsAt h, Program.tracedUpTo_of_failsAt_flag h⟩
  at_value _ _ h := ⟨Program.outcome_compile_of_failsAt h, Program.tracedUpTo_of_failsAt_value h⟩
  failure _ h := Program.exists_failsAt_of_outcome_eq_error h
  success := Program.built_mem_log_iff.symm
  complete _ h := ⟨Program.tracedUpTo_of_outcome_eq_ok h, Program.getLast?_log_of_outcome_eq_ok h⟩

/-- A program with two relationship blocks, the second one of this type, two flags, the second one of
this name, and a value without a selector. -/
def misdeclaredProgram (type flag : String) : Program :=
  { Program.empty with
    entities := [⟨[], none, .ofImage "A", none, []⟩]
    relationships := [⟨.ofImage "OneToMany", []⟩, ⟨.ofImage type, []⟩]
    flags := [⟨.ofImage "skipClient", ⟨[.ofImage "A"], none⟩, none⟩,
      ⟨.ofImage flag, ⟨[.ofImage "A"], none⟩, none⟩]
    valued := [⟨.ofImage "service", ⟨[], none, none, none⟩, none⟩] }

/-- The block of an unknown type is the last told of. An unknown flag is not told of, one of the
wrong kind is, and a value that is missing is not. -/
theorem log_localises_failure_misdeclared :
    (∃ violation, (misdeclaredProgram "OneToNone" "dto").FailsAt (.block 1) violation ∧
      ((misdeclaredProgram "OneToNone" "dto").log .default "").getLast? =
        some ⟨.trace, "Relationship", [("cardinality", "OneToNone"), ("bodies", "0")]⟩) ∧
    (∃ violation, (misdeclaredProgram "OneToOne" "dtos").FailsAt (.flag 1) violation ∧
      (tracesOf "Merging flag option"
        ((misdeclaredProgram "OneToOne" "dtos").log .default "")).length = 1) ∧
    (∃ violation, (misdeclaredProgram "OneToOne" "dto").FailsAt (.flag 1) violation ∧
      (tracesOf "Merging flag option"
        ((misdeclaredProgram "OneToOne" "dto").log .default "")).length = 2) ∧
    ∃ violation, (misdeclaredProgram "OneToOne" "skipServer").FailsAt (.value 0) violation ∧
      (tracesOf "Merging value option"
        ((misdeclaredProgram "OneToOne" "skipServer").log .default "")).length = 0 := by
  refine ⟨?_, ?_, ?_, ?_⟩
  · have hfails : (misdeclaredProgram "OneToNone" "dto").FailsAt (.block 1) _ :=
      ⟨⟨_, Program.outcome_build _⟩, Program.outcome_build _⟩
    obtain ⟨-, htold, hlast⟩ := (log_localises_failure .default "" _).at_block _ _ hfails
    exact ⟨_, hfails, by rw [hlast, htold.relationships.1]; rfl⟩
  · have hfails : (misdeclaredProgram "OneToOne" "dtos").FailsAt (.flag 1) _ :=
      ⟨⟨_, Program.outcome_build _⟩, Program.outcome_build _⟩
    obtain ⟨-, ⟨-, htold⟩ | ⟨hcode, -⟩⟩ :=
      (log_localises_failure .default "" _).at_flag _ _ hfails
    · exact ⟨_, hfails, htold.flags.2⟩
    · cases hcode
  · have hfails : (misdeclaredProgram "OneToOne" "dto").FailsAt (.flag 1) _ :=
      ⟨⟨_, Program.outcome_build _⟩, Program.outcome_build _⟩
    obtain ⟨-, ⟨hcode, -⟩ | ⟨-, htold⟩⟩ :=
      (log_localises_failure .default "" _).at_flag _ _ hfails
    · cases hcode
    · exact ⟨_, hfails, htold.flags.2⟩
  · have hfails : (misdeclaredProgram "OneToOne" "skipServer").FailsAt (.value 0) _ :=
      ⟨⟨_, Program.outcome_build _⟩, Program.outcome_build _⟩
    obtain ⟨-, ⟨-, htold⟩ | ⟨hcode, -⟩⟩ :=
      (log_localises_failure .default "" _).at_value _ _ hfails
    · exact ⟨_, hfails, htold.valued.2⟩
    · cases hcode

end DomainModel.Declared
