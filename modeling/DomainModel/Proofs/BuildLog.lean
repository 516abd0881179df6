import DomainModel.Proofs.FirstViolation
import DomainModel.Proofs.StepsReached

/-!
# What the log tells of a build

Every declaration that a build enters is told of by one record, and the records come in the order of
the declarations. A build that fails stops in the middle of this, so its log shows how far it came.
Where exactly it stops depends on the kind of declaration: a relationship block is told of before
anything is checked, an option after its name and selector are checked and before the kind of its
family is. This module writes the log down without a run (`Program.log_eq`).

## What this module delivers

- `tracesOf`: the traces in a log with a given message; `Quiet` events leave none of a declaration.
- `trace` for each kind of declaration: the record that tells of it.
- `events` of an option declaration: what happens when it is merged, whatever the table.
- `Program.record_events_build`: the records of a build.
- `outcome_compile`, `Program.log`, `Program.log_eq`: the outcome and the log of a compilation.
-/

set_option autoImplicit false

namespace DomainModel

/-! ## Traces -/

/-- Whether a record is a trace with this message. -/
def Record.isTrace (message : String) (record : Record) : Bool :=
  record.level == .trace && record.message == message

/-- The traces in a log with this message, in order. -/
def tracesOf (message : String) (log : List Record) : List Record :=
  log.filter (Record.isTrace message)

@[simp]
theorem tracesOf_append (message : String) (log later : List Record) :
    tracesOf message (log ++ later) = tracesOf message log ++ tracesOf message later :=
  List.filter_append ..

/-- Records that are traces with one message. -/
def TracedAs {α : Type} (own : String) (trace : α → Record) : Prop :=
  ∀ a, (trace a).level = .trace ∧ (trace a).message = own

/-- Of records that are traces with one message all are found under this message, and none under
another. -/
theorem TracedAs.tracesOf_map {α : Type} {own : String} {trace : α → Record}
    (h : TracedAs own trace) (message : String) (list : List α) :
    tracesOf message (list.map trace) = if own = message then list.map trace else [] := by
  have htrace : ∀ a, (trace a).isTrace message = (own == message) := by
    intro a
    rw [Record.isTrace, (h a).1, (h a).2]
    rfl
  rw [tracesOf, List.filter_map]
  by_cases hown : own = message
  · simp [Function.comp_def, htrace, hown]
  · simp [Function.comp_def, htrace, hown]

/-- Among traces there is no record of another level. -/
theorem TracedAs.notMem_map {α : Type} {own : String} {trace : α → Record}
    (h : TracedAs own trace) {record : Record} (hlevel : record.level ≠ .trace) (list : List α) :
    record ∉ list.map trace := by
  rw [List.mem_map]
  rintro ⟨a, -, rfl⟩
  exact hlevel (h a).1

/-- The messages of the traces that tell of declarations. -/
def declarationMessages : List String :=
  ["Constant", "Entity", "Page", "Relationship", "Merging flag option", "Merging value option"]

/-- Whether an event tells of a declaration. -/
def Event.ofDeclaration : Event → Bool
  | .constant _ | .entity _ | .page _ _ | .relationship _ _ | .mergingFlag _ _
  | .mergingValue _ _ => true
  | _ => false

/-- Events of which none tells of a declaration. -/
def Quiet (events : List Event) : Prop := ∀ event ∈ events, event.ofDeclaration = false

theorem quiet_nil : Quiet [] := List.forall_mem_nil _

/-- Quiet events leave no trace of a declaration. -/
theorem Quiet.tracesOf_eq_nil {events : List Event} (h : Quiet events) {message : String}
    (hmessage : message ∈ declarationMessages) :
    tracesOf message (events.map Event.record) = [] := by
  rw [tracesOf, List.filter_eq_nil_iff, List.forall_mem_map]
  intro event hevent htrace
  obtain ⟨hlevel, rfl⟩ : event.record.level = .trace ∧ event.record.message = message := by
    simpa [Record.isTrace] using htrace
  have hother := h event hevent
  cases event <;> simp_all [Event.ofDeclaration, Event.record, declarationMessages]

/-- The record of a document is that of no other event. -/
theorem built_mem_records_iff {events : List Event} :
    Event.built.record ∈ events.map Event.record ↔ .built ∈ events := by
  have hrecord : ∀ event : Event, event.record = Event.built.record ↔ event = .built := by
    intro event
    cases event <;> simp [Event.record]
  simp [hrecord]

/-! ## The records of a run -/

section Runs

variable {ε α : Type} {objection? : α → Option ε} {events : α → List Event} {trace : α → Record}
  {list : List α} {index : Nat} {objection : ε}

/-- Declarations that nothing stands against are told of one by one. -/
theorem record_flatMap (hnone : ∀ a, objection? a = none → (events a).map Event.record = [trace a])
    (h : list.findSome? objection? = none) :
    (list.flatMap events).map Event.record = list.map trace := by
  rw [List.map_flatMap, List.map_eq_flatMap]
  refine List.flatMap_congr ?_
  intro a ha
  exact hnone a (List.findSome?_eq_none_iff.1 h a ha)

/-- In front of the first declaration that is refused all are told of, and this one is told of or
not. -/
theorem FirstObjection.record_reached (h : FirstObjection objection? list index objection)
    (hnone : ∀ a, objection? a = none → (events a).map Event.record = [trace a]) :
    ∃ a, objection? a = some objection ∧
      ((events a).map Event.record = [] → ((reached objection? list).flatMap events).map
        Event.record = (list.take index).map trace) ∧
      ((events a).map Event.record = [trace a] → ((reached objection? list).flatMap events).map
        Event.record = (list.take (index + 1)).map trace) := by
  obtain ⟨a, ha, hobjection⟩ := h.exists_getElem?
  have hupTo : list.take (index + 1) = list.take index ++ [a] := by
    rw [List.take_add_one, ha]
    rfl
  refine ⟨a, hobjection, ?_, ?_⟩
  · intro hrecord
    rw [h.reached_eq, hupTo, List.flatMap_append, List.map_append,
      record_flatMap hnone h.before, List.flatMap_singleton, hrecord, List.append_nil]
  · intro hrecord
    rw [h.reached_eq, hupTo, List.flatMap_append, List.map_append,
      record_flatMap hnone h.before, List.flatMap_singleton, hrecord, List.map_append,
      List.map_singleton]

end Runs

namespace Declared

/-! ## The records of declarations -/

/-- The record that tells of a constant. -/
def Constant.trace (constant : Constant) : Record :=
  ⟨.trace, "Constant", [("name", constant.name.image)]⟩

theorem Constant.tracedAs : TracedAs "Constant" trace := fun _ => ⟨rfl, rfl⟩

/-- The record that tells of an entity. -/
def Entity.trace (entity : Entity) : Record :=
  ⟨.trace, "Entity", [("name", entity.name.image)]⟩

theorem Entity.tracedAs : TracedAs "Entity" trace := fun _ => ⟨rfl, rfl⟩

/-- The record that tells of a page. -/
def Page.trace (page : Page) : Record :=
  ⟨.trace, "Page", [("name", page.name.image), ("entity", page.entity.image)]⟩

theorem Page.tracedAs : TracedAs "Page" trace := fun _ => ⟨rfl, rfl⟩

/-- The record that tells of a relationship block. -/
def RelationshipBlock.trace (block : RelationshipBlock) : Record :=
  ⟨.trace, "Relationship",
    [("cardinality", block.type.image), ("bodies", Event.decimal block.bodies.length)]⟩

theorem RelationshipBlock.tracedAs : TracedAs "Relationship" trace := fun _ => ⟨rfl, rfl⟩

/-- The record that tells of a flag declaration: the name of the option and how many names its
selector means. -/
def FlagOption.trace (declared : FlagOption) : Record :=
  ⟨.trace, "Merging flag option",
    [("family", declared.option.image),
      ("entities", Event.decimal declared.entry.included.length)]⟩

theorem FlagOption.tracedAs : TracedAs "Merging flag option" trace := fun _ => ⟨rfl, rfl⟩

/-- The record that tells of a value-bearing declaration: the name of the option, `paginate` told as
`pagination`, and the value. -/
def ValueOption.trace (declared : ValueOption) : Record :=
  ⟨.trace, "Merging value option",
    [("family",
        .text (if declared.option.image = "paginate" then "pagination" else declared.option.image)),
      ("value", declared.value?.getD "")]⟩

theorem ValueOption.tracedAs : TracedAs "Merging value option" trace := fun _ => ⟨rfl, rfl⟩

/-! ## Merging one option

What happens when an option is merged depends on the declaration alone. A declaration of an unknown
family or without a value makes no event, every other declaration makes one, also one that is
refused for its kind. -/

namespace FlagOption

/-- What happens when a flag declaration is merged. -/
def events (declared : FlagOption) : List Event :=
  match declared.family with
  | .ok family => [.mergingFlag family declared.entry.included.length]
  | .error _ => []

theorem events_merge (table : OptionTable) (declared : FlagOption) :
    (merge table declared).events = declared.events := by
  rw [merge, events]
  cases declared.family with
  | error violation => rfl
  | ok family => rfl

/-- The name of the family that a declaration names is the name it has. -/
theorem name_of_family {declared : FlagOption} {family : OptionFamily}
    (h : declared.family = .ok family) : family.name = declared.option.image := by
  have hlookup := (declares_iff family declared).2 h
  rw [declares, decide_eq_true_iff, OptionFamily.ofName_eq_ok_iff] at hlookup
  exact hlookup.symm

/-- A declaration that names a family is told of. -/
theorem record_events {declared : FlagOption} {family : OptionFamily}
    (h : declared.family = .ok family) : declared.events.map Event.record = [declared.trace] := by
  rw [events, h, trace, ← name_of_family h]
  rfl

theorem record_events_of_none {declared : FlagOption} (h : declared.objection? = none) :
    declared.events.map Event.record = [declared.trace] := by
  rw [objection?] at h
  cases hfamily : declared.family with
  | error violation => simp [hfamily] at h
  | ok family => exact record_events hfamily

/-- Of the declarations that are refused, those of an unknown family are not told of, and those of
the wrong kind are. -/
theorem record_events_of_some {declared : FlagOption} {violation : Violation}
    (h : declared.objection? = some violation) :
    (violation.code = .unknownFamily ∧ declared.events.map Event.record = []) ∨
      (violation.code = .kindMismatch ∧
        declared.events.map Event.record = [declared.trace]) := by
  rw [objection?] at h
  rcases declared.named_cases with ⟨family, -, hfamily⟩ | ⟨-, hfamily⟩
  · rw [hfamily] at h
    obtain ⟨error, herror, rfl⟩ := Option.map_eq_some_iff.1 h
    obtain ⟨-, rfl⟩ := OptionFamily.objectionTo_flag_eq_some_iff.1 herror
    exact .inr ⟨rfl, record_events hfamily⟩
  · rw [hfamily] at h
    cases h
    exact .inl ⟨rfl, by rw [events, hfamily]; rfl⟩

end FlagOption

namespace ValueOption

/-- What happens when a value-bearing declaration is merged. -/
def events (declared : ValueOption) : List Event :=
  match declared.family, declared.value? with
  | .ok family, some value => [.mergingValue family value]
  | _, _ => []

theorem events_merge (table : OptionTable) (declared : ValueOption) :
    (merge table declared).events = declared.events := by
  rw [merge, events, selection, value?]
  cases declared.family with
  | error violation => rfl
  | ok family => cases declared.selector.resolve? <;> rfl

/-- A declaration of `paginate` names `pagination`, every other one the family with its name. -/
theorem name_of_family {declared : ValueOption} {family : OptionFamily}
    (h : declared.family = .ok family) : family.name =
      if declared.option.image = "paginate" then "pagination" else declared.option.image := by
  have hlookup := (declares_iff family declared).2 h
  rw [declares, decide_eq_true_iff, OptionFamily.ofValuedName] at hlookup
  by_cases hname : declared.option.image = "paginate"
  · rw [if_pos hname] at hlookup ⊢
    cases hlookup
    rfl
  · rw [if_neg hname, OptionFamily.ofName_eq_ok_iff] at hlookup
    rw [if_neg hname, hlookup]

/-- A declaration that names a family and gives a value is told of. -/
theorem record_events {declared : ValueOption} {family : OptionFamily} {value : String}
    (hfamily : declared.family = .ok family) (hvalue : declared.value? = some value) :
    declared.events.map Event.record = [declared.trace] := by
  rw [events, hfamily, hvalue, trace, ← name_of_family hfamily, hvalue]
  rfl

theorem record_events_of_none {declared : ValueOption} (h : declared.objection? = none) :
    declared.events.map Event.record = [declared.trace] := by
  obtain ⟨family, contribution, hfamily, -, hcontribution⟩ := of_objection?_eq_none h
  rw [contribution?, Option.map_eq_some_iff] at hcontribution
  obtain ⟨selection, hselection, -⟩ := hcontribution
  exact record_events hfamily (by rw [value?, hselection]; rfl)

/-- Of the declarations that are refused, those of an unknown family or without a value are not told
of, and those of the wrong kind are. -/
theorem record_events_of_some {declared : ValueOption} {violation : Violation}
    (h : declared.objection? = some violation) :
    ((violation.code = .unknownFamily ∨ violation.code = .missingValue) ∧
        declared.events.map Event.record = []) ∨
      (violation.code = .kindMismatch ∧
        declared.events.map Event.record = [declared.trace]) := by
  rw [objection?] at h
  rcases declared.named_cases with ⟨family, -, hfamily⟩ | ⟨-, hfamily⟩
  · rw [hfamily] at h
    cases hselection : declared.selector.resolve? with
    | none =>
        rw [hselection] at h
        -- a selector without a value is refused before there is a trace, whatever the family
        cases h
        exact .inl ⟨.inr rfl, by rw [events, hfamily, value?, hselection]; rfl⟩
    | some selection =>
        rw [hselection] at h
        obtain ⟨error, herror, rfl⟩ := Option.map_eq_some_iff.1 h
        obtain ⟨-, rfl⟩ := OptionFamily.objectionTo_single_eq_some_iff.1 herror
        exact .inr ⟨rfl, record_events hfamily (by rw [value?, hselection]; rfl)⟩
  · rw [hfamily] at h
    cases h
    exact .inl ⟨.inl rfl, by rw [events, hfamily]; rfl⟩

end ValueOption

/-! ## The events of a build -/

theorem events_enterAll_bind {ε α β : Type} (event : α → Event) (declarations : List α)
    (next : Unit → Traced ε β) :
    (enterAll event declarations >>= next).events =
      declarations.map event ++ (next ()).events := rfl

theorem events_relationshipsOf (blocks : List RelationshipBlock) :
    (relationshipsOf blocks).events =
      (reached RelationshipBlock.objection? blocks).map RelationshipBlock.event := by
  have hblock : ∀ block : RelationshipBlock,
      block.enter.outcome = verdict block.objection? block.relationships :=
    RelationshipBlock.toModel_eq_verdict
  have hall : (blocks.mapM RelationshipBlock.enter).outcome = verdict _ _ :=
    (Traced.outcome_mapM _ blocks).trans (mapM_verdict hblock blocks)
  rw [relationshipsOf, Traced.events_bind_verdict hall, Traced.events_mapM hblock,
    Traced.events_pure, onward_nil, List.append_nil, List.map_eq_flatMap]
  rfl

/-- Merging declarations: the flags that are reached, and the values when all flags are merged. -/
theorem events_mergeOptions {table : OptionTable} (h : table.WellShaped)
    (flags : List FlagOption) (valued : List ValueOption) :
    (mergeOptions table flags valued).events =
      (reached FlagOption.objection? flags).flatMap FlagOption.events ++
        onward (flags.findSome? FlagOption.objection?)
          ((reached ValueOption.objection? valued).flatMap ValueOption.events) := by
  rw [mergeOptions, Traced.events_bind_verdict (FlagOption.outcome_foldlM_merge h flags),
    Traced.events_foldlM FlagOption.events_merge
      (fun _ declared hshape => FlagOption.outcome_merge hshape declared)
      (fun _ _ hshape hnone => FlagOption.wellShaped_enter hshape hnone) h]
  congr 1
  cases hflags : flags.findSome? FlagOption.objection? with
  | some violation => rfl
  | none =>
      -- the values are merged into the table that the flags leave, which has the fixed shape
      rw [onward_none, onward_none,
        Traced.events_foldlM ValueOption.events_merge
          (fun _ declared hshape => ValueOption.outcome_merge hshape declared)
          (fun _ _ hshape hnone => ValueOption.wellShaped_enter hshape hnone)
          (FlagOption.wellShaped_foldl_enter h hflags)]

namespace Program

/-- The records of a build before the first relationship block. -/
def opening (program : Program) : List Record :=
  [Event.building program.entities.length program.relationships.length program.pages.length,
    .constants program.constants.length].map Event.record ++
  program.constants.map Constant.trace ++
  [Event.applications program.applications.length program.deployments.length,
    .entities program.entities.length].map Event.record ++
  program.entities.map Entity.trace ++
  [Event.payloads program.datasets.length program.jsonConfigs.length,
    .pages program.pages.length].map Event.record ++
  program.pages.map Page.trace ++
  [Event.relationships program.relationships.length].map Event.record

/-- The events of a build between the relationships and the options. -/
def middle (program : Program) : List Event :=
  [.enums program.enums.length, .options program.flags.length program.valued.length]

theorem quiet_middle (program : Program) : Quiet program.middle := by
  simp [Quiet, middle, Event.ofDeclaration]

/-- The records of a build: up to the relationships nothing can fail, and everything else is told
when the stages before it got through. -/
theorem record_events_build (program : Program) : program.build.events.map Event.record =
    program.opening ++
      (reached RelationshipBlock.objection? program.relationships).map RelationshipBlock.trace ++
      onward (program.relationships.findSome? RelationshipBlock.objection?)
        (program.middle.map Event.record ++
          (mergeOptions .empty program.flags program.valued).events.map Event.record ++
          onward (optionObjection? program.flags program.valued) [Event.built.record]) := by
  have hrelationships := outcome_relationshipsOf program.relationships
  have hoptions := outcome_mergeOptions OptionTable.wellShaped_empty program.flags program.valued
  rw [build]
  simp only [Traced.events_emit_bind, events_enterAll_bind,
    Traced.events_bind_verdict hrelationships, Traced.events_bind_verdict hoptions,
    Traced.events_pure, events_relationshipsOf, List.map_cons, List.map_append, map_onward,
    List.map_map, List.map_nil]
  simp only [opening, middle, List.map_cons, List.map_nil, List.append_assoc, List.cons_append,
    List.nil_append]
  rfl

end Program

/-! ## The log of a compilation -/

/-- The log of the compilation of a program. -/
def Program.log (settings : Settings) (source : String) (program : Program) : List Record :=
  (compile settings source program).events.map Event.record

/-- The checks on datasets give their findings, and no program fails by them. -/
theorem outcome_datasetIssues (settings : Settings) (datasets : List Dataset) :
    ∃ issues, (datasetIssues settings datasets : Traced Failure _).outcome = .ok issues := by
  rw [datasetIssues, runRules]
  split
  · split <;> exact ⟨_, rfl⟩
  · exact ⟨_, rfl⟩

/-- The checks on datasets tell of no declaration. -/
theorem quiet_datasetIssues (settings : Settings) (datasets : List Dataset) :
    Quiet (datasetIssues settings datasets : Traced Failure _).events := by
  rw [datasetIssues, runRules]
  split
  · split
    · simp [Quiet]
    · simp [Quiet, Event.ofDeclaration]
  · simp [Quiet, Event.ofDeclaration]

section Compilation

variable {settings : Settings} {source : String} {program : Program} {issues : List Diagnostic}

theorem outcome_compile
    (h : (datasetIssues settings program.datasets : Traced Failure _).outcome = .ok issues) :
    (compile settings source program).outcome =
      verdict (program.objection?.map (Violation.failure source))
        ⟨program.document, issues⟩ := by
  rw [compile]
  simp only [Traced.outcome_bind, Traced.outcome_emit, Traced.mapError, Program.outcome_build, h]
  cases program.objection? <;> rfl

/-- The events of a compilation: those of the build, and the rest when there is a document. -/
theorem events_compile
    (h : (datasetIssues settings program.datasets : Traced Failure _).outcome = .ok issues) :
    (compile settings source program).events =
      .compiling :: (program.build.events ++ onward program.objection?
        (.accepted :: .document program.document ::
          ((datasetIssues settings program.datasets : Traced Failure _).events ++
            [.checksCompleted issues.length]))) := by
  have hbuild : (program.build.mapError (Violation.failure source)).outcome =
      verdict (program.objection?.map (Violation.failure source)) program.document := by
    rw [Traced.mapError, Program.outcome_build]
    cases program.objection? <;> rfl
  rw [compile]
  simp only [Traced.events_emit_bind, Traced.events_bind_verdict hbuild,
    Traced.events_bind_of_ok h, Traced.events_pure, onward_map]
  rfl

end Compilation

namespace Program

/-- The events of a compilation behind the options. -/
def closing (settings : Settings) (program : Program) (issues : Nat) : List Event :=
  [.built, .accepted, .document program.document] ++
    (datasetIssues settings program.datasets : Traced Failure _).events ++
    [.checksCompleted issues]

theorem quiet_closing (settings : Settings) (program : Program) (issues : Nat) :
    Quiet (program.closing settings issues) := by
  intro event hevent
  rw [closing, List.mem_append, List.mem_append] at hevent
  rcases hevent with (hdocument | hchecks) | hlast
  · revert event
    simp [Event.ofDeclaration]
  · exact quiet_datasetIssues settings program.datasets event hchecks
  · rw [List.mem_singleton] at hlast
    subst hlast
    rfl

/-- The log without a run: what is in front, the blocks that are reached, and then stage by stage
what follows when the stages before got through. -/
theorem log_eq {settings : Settings} {program : Program} {issues : List Diagnostic}
    (h : (datasetIssues settings program.datasets : Traced Failure _).outcome = .ok issues)
    (source : String) :
    program.log settings source =
      Event.compiling.record :: program.opening ++
      (reached RelationshipBlock.objection? program.relationships).map RelationshipBlock.trace ++
      onward (program.relationships.findSome? RelationshipBlock.objection?)
        (program.middle.map Event.record ++
          ((reached FlagOption.objection? program.flags).flatMap FlagOption.events).map
            Event.record ++
          onward (program.flags.findSome? FlagOption.objection?)
            (((reached ValueOption.objection? program.valued).flatMap ValueOption.events).map
                Event.record ++
              onward (program.valued.findSome? ValueOption.objection?)
                ((program.closing settings issues.length).map Event.record))) := by
  rw [log, events_compile h, List.map_cons, List.map_append, record_events_build,
    events_mergeOptions OptionTable.wellShaped_empty, objection?, optionObjection?]
  -- in each case what is left are the same records, put together in another grouping
  cases program.relationships.findSome? RelationshipBlock.objection? with
  | some violation => simp
  | none =>
      cases program.flags.findSome? FlagOption.objection? with
      | some violation => simp
      | none =>
          cases program.valued.findSome? ValueOption.objection? with
          | some violation => simp
          | none => simp [closing]

end Program

end Declared

end DomainModel
