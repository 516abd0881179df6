import DomainModel.Proofs.FirstViolation
import Mathlib.Data.List.Forall2

/-!
# Two spellings of one family

Value-bearing declarations may write `paginate` for `pagination`, flags may not. A declaration in
one spelling and the same declaration in the other name the same family, so they contribute to the
same slot and meet the same objections. A run over a list of declarations and a run over the list
with some of them respelt therefore go hand in hand, and end in the same table. The spelling is seen
in one place only: the message about an empty selector quotes the name as it is written. For a flag
neither spelling is right, and the two are wrong in different ways: one names no family, the other
names one that takes values.

## What this module delivers

- `ValueOption.Respelt`: one declaration in two spellings, with `Respelt.enter_eq` and
  `Respelt.objection?_rel`.
- `Violation.Respelt`, `Diagnostic.Requoted`: what is told of either.
- `findSome?_rel`: two searches through lists that are related member by member.
- `FlagOption.objection?_of_paginate`, `FlagOption.objection?_of_pagination`: both spellings in a
  flag.
- `Program.objection?_of_flag`, `Program.outcome_build_of_first_flag`: the build of a program with a
  flag that is wrong.
- `outcome_build_respelt`: the builds of two programs, and of a program with such a flag.
-/

set_option autoImplicit false

namespace DomainModel

/-! ## What is told of two spellings -/

/-- A violation as it is for one spelling and for the other. -/
inductive Violation.Respelt : Violation → Violation → Prop
  | same (violation : Violation) : Violation.Respelt violation violation
  | missingValue (span : Span) :
      Violation.Respelt (.missingValue ⟨"paginate", span⟩) (.missingValue ⟨"pagination", span⟩)

/-- Two diagnostics that say the same, or the same about differently written options. -/
structure Diagnostic.Requoted (d e : Diagnostic) : Prop where
  severity : d.severity = e.severity
  code : d.code = e.code
  labels : d.labels = e.labels
  help : d.help = e.help
  /-- At most the quoted name differs. -/
  message : d.message = e.message ∨
    d.message = "option `paginate` has no value" ∧ e.message = "option `pagination` has no value"

theorem Violation.Respelt.requoted {v w : Violation} (h : v.Respelt w) :
    v.diagnostic.Requoted w.diagnostic := by
  cases h with
  | same => exact ⟨rfl, rfl, rfl, rfl, .inl rfl⟩
  | missingValue span => exact ⟨rfl, rfl, rfl, rfl, .inr ⟨rfl, rfl⟩⟩

/-- Two searches through lists that are related member by member meet related objections, or
none. -/
theorem findSome?_rel {α ε : Type} {related : α → α → Prop} {objections : ε → ε → Prop}
    {objection? : α → Option ε} {list others : List α} (h : List.Forall₂ related list others)
    (hobjection : ∀ a b, related a b → Option.Rel objections (objection? a) (objection? b)) :
    Option.Rel objections (list.findSome? objection?) (others.findSome? objection?) := by
  induction h with
  | nil => exact .none
  | @cons a b _ _ hab _ ih =>
      have hfirst := hobjection a b hab
      rw [List.findSome?_cons, List.findSome?_cons]
      generalize objection? a = first at hfirst ⊢
      generalize objection? b = second at hfirst ⊢
      cases hfirst with
      | none => exact ih
      | some hobjections => exact .some hobjections

namespace Declared

/-! ## Value-bearing declarations -/

/-- A declaration and what it may be respelt to: itself, or the same at the same place with the name
of the family in place of its other spelling. -/
inductive ValueOption.Respelt : ValueOption → ValueOption → Prop
  | same (declared : ValueOption) : ValueOption.Respelt declared declared
  | pagination (span : Span) (selector : ValueSelector) (exclusion : Option (List Token)) :
      ValueOption.Respelt ⟨⟨"paginate", span⟩, selector, exclusion⟩
        ⟨⟨"pagination", span⟩, selector, exclusion⟩

namespace ValueOption

variable {declared other : ValueOption}

/-- Both spellings are entered alike. -/
theorem Respelt.enter_eq (h : declared.Respelt other) (table : OptionTable) :
    enter table declared = enter table other := by
  cases h with
  | same => rfl
  | pagination span selector exclusion => rfl

/-- Against both spellings stands the same, but for the name that is quoted. -/
theorem Respelt.objection?_rel (h : declared.Respelt other) :
    Option.Rel Violation.Respelt declared.objection? other.objection? := by
  cases h with
  | same =>
      cases declared.objection? with
      | none => exact .none
      | some violation => exact .some (.same violation)
  | pagination span selector exclusion =>
      -- both name `pagination`, which takes values, so only the selector is looked at
      have hobjection : ∀ option : Token,
          OptionFamily.ofValuedName option.image = .ok .pagination →
            objection? ⟨option, selector, exclusion⟩ =
              if selector.resolve? = none then some (.missingValue option) else none := by
        intro option hoption
        rw [objection?, ValueOption.family, hoption]
        cases selector.resolve? with
        | none => rfl
        | some selection => rfl
      rw [hobjection _ rfl, hobjection _ rfl]
      split
      · exact .some (.missingValue span)
      · exact .none

end ValueOption

/-! ## Programs with respelt declarations -/

section Programs

variable {program : Program} {valued : List ValueOption}

theorem Program.objection?_rel (h : List.Forall₂ ValueOption.Respelt program.valued valued) :
    Option.Rel Violation.Respelt program.objection?
      { program with valued := valued }.objection? := by
  have hvalued := findSome?_rel h fun _ _ => ValueOption.Respelt.objection?_rel
  rw [objection?, objection?, optionObjection?, optionObjection?]
  -- what is checked before the values is the same in both programs
  cases program.relationships.findSome? RelationshipBlock.objection? with
  | some violation => exact .some (.same violation)
  | none =>
      cases program.flags.findSome? FlagOption.objection? with
      | some violation => exact .some (.same violation)
      | none => exact hvalued

theorem Program.document_eq_of_respelt
    (h : List.Forall₂ ValueOption.Respelt program.valued valued) :
    { program with valued := valued }.document = program.document := by
  have hentered : enterOptions .empty program.flags program.valued =
      enterOptions .empty program.flags valued := by
    refine List.rel_foldl ?_ rfl h
    rintro table _ rfl declared other hrespelt
    exact hrespelt.enter_eq table
  rw [document, document, hentered]

end Programs

/-! ## Flags -/

namespace FlagOption

variable {flag : FlagOption}

/-- The spelling of value-bearing declarations names no family of flags. -/
theorem objection?_of_paginate (h : flag.option.image = "paginate") :
    flag.objection? = some (.refusedOption flag.option (.unknownFamily "paginate")) := by
  rw [objection?, FlagOption.family, h]
  rfl

/-- The name of the family is known, and the family takes values. -/
theorem objection?_of_pagination (h : flag.option.image = "pagination") :
    flag.objection? =
      some (.refusedOption flag.option (.kindMismatch .pagination .single .flag)) := by
  rw [objection?, FlagOption.family, h]
  rfl

end FlagOption

section FlaggedPrograms

variable {program : Program} {before after : List FlagOption} {flag : FlagOption}
  {violation : Violation}

/-- What stands against a flag of a program stands against the program, unless something else does
before. -/
theorem Program.objection?_of_flag (hflags : program.flags = before ++ flag :: after)
    (hflag : flag.objection? = some violation) :
    program.objection? = ((program.relationships.findSome? RelationshipBlock.objection?).or
      (before.findSome? FlagOption.objection?)).or (some violation) := by
  rw [objection?, optionObjection?, hflags, List.findSome?_append, List.findSome?_cons, hflag]
  simp only [Option.or_assoc, Option.some_or]

/-- A program with a flag that something stands against has no document, whatever else is wrong. -/
theorem Program.exists_outcome_error_of_flag (hflags : program.flags = before ++ flag :: after)
    (hflag : flag.objection? = some violation) :
    ∃ other, program.build.outcome = .error other := by
  have hobjection := Program.objection?_of_flag hflags hflag
  cases hprogram : program.objection? with
  | none => simp [hobjection] at hprogram
  | some other => exact ⟨other, outcome_build_eq_error_iff.2 hprogram⟩

/-- When all checks before a flag pass, the build fails for what stands against the flag. -/
theorem Program.outcome_build_of_first_flag (hflags : program.flags = before ++ flag :: after)
    (hflag : flag.objection? = some violation)
    (hblocks : ∀ block ∈ program.relationships, ∀ check ∈ block.checks, check.condition)
    (hbefore : ∀ earlier ∈ before, ∀ check ∈ earlier.checks, check.condition) :
    program.build.outcome = .error violation := by
  have hrelationships : program.relationships.findSome? RelationshipBlock.objection? = none :=
    (judges_flatMap RelationshipBlock.judges program.relationships).eq_none_iff.2
      (List.forall_mem_flatMap.2 hblocks)
  have hearlier : before.findSome? FlagOption.objection? = none :=
    (judges_flatMap FlagOption.judges before).eq_none_iff.2 (List.forall_mem_flatMap.2 hbefore)
  rw [outcome_build_eq_error_iff, objection?_of_flag hflags hflag, hrelationships, hearlier]
  rfl

end FlaggedPrograms

/-! ## Builds -/

/-- The build of a program fails, and the only label of its diagnostic is this remark at the name of
an option. -/
def Program.RefusedAt (program : Program) (option : Token) (code : ErrorCode)
    (remark : String) : Prop :=
  ∃ violation : Violation, program.build.outcome = .error violation ∧
    violation.diagnostic.code = some code ∧
    violation.diagnostic.labels = [⟨option.span, remark, true⟩]

/-- Respelling any of the value-bearing declarations of a program keeps its document, and if it has
none what is told of the failure, but for the quoted name. A program with a flag in either spelling
has no document; unless a relationship or an earlier flag is wrong, it is told that `paginate` is no
family and that `pagination` takes values. -/
theorem outcome_build_respelt :
    (∀ (program : Program) (valued : List ValueOption),
      List.Forall₂ ValueOption.Respelt program.valued valued →
      (∀ document, program.build.outcome = .ok document →
        { program with valued := valued }.build.outcome = .ok document) ∧
      ∀ violation, program.build.outcome = .error violation → ∃ other,
        { program with valued := valued }.build.outcome = .error other ∧
        violation.diagnostic.Requoted other.diagnostic) ∧
    ∀ (program : Program) (before after : List FlagOption) (flag : FlagOption),
      program.flags = before ++ flag :: after →
      flag.option.image = "paginate" ∨ flag.option.image = "pagination" →
      (∃ violation, program.build.outcome = .error violation) ∧
      ((∀ block ∈ program.relationships, ∀ check ∈ block.checks, check.condition) →
        (∀ earlier ∈ before, ∀ check ∈ earlier.checks, check.condition) →
        (flag.option.image = "paginate" →
          program.RefusedAt flag.option .unknownFamily "not an option family") ∧
        (flag.option.image = "pagination" →
          program.RefusedAt flag.option .kindMismatch "expected a BINARY declaration")) := by
  constructor
  · intro program valued hvalued
    have hobjections := Program.objection?_rel hvalued
    generalize hother : { program with valued := valued }.objection? = objection? at hobjections
    constructor
    · intro document hbuild
      obtain ⟨hnone, rfl⟩ := Program.outcome_build_eq_ok_iff.1 hbuild
      rw [hnone] at hobjections
      cases hobjections
      exact Program.outcome_build_eq_ok_iff.2 ⟨hother, Program.document_eq_of_respelt hvalued⟩
    · intro violation hbuild
      rw [Program.outcome_build_eq_error_iff.1 hbuild] at hobjections
      cases hobjections with
      | some hrespelt =>
          exact ⟨_, Program.outcome_build_eq_error_iff.2 hother, hrespelt.requoted⟩
  · intro program before after flag hflags hname
    constructor
    · rcases hname with hpaginate | hpagination
      · exact Program.exists_outcome_error_of_flag hflags
          (FlagOption.objection?_of_paginate hpaginate)
      · exact Program.exists_outcome_error_of_flag hflags
          (FlagOption.objection?_of_pagination hpagination)
    · intro hblocks hbefore
      constructor
      · intro hpaginate
        have hflag := FlagOption.objection?_of_paginate hpaginate
        exact ⟨_, Program.outcome_build_of_first_flag hflags hflag hblocks hbefore, rfl, rfl⟩
      · intro hpagination
        have hflag := FlagOption.objection?_of_pagination hpagination
        exact ⟨_, Program.outcome_build_of_first_flag hflags hflag hblocks hbefore, rfl, rfl⟩

/-- A program with two values: the first one has this name and selector, the second one is spelt
`paginate`. -/
def pagedProgram (name : String) (selector : ValueSelector) : Program :=
  { Program.empty with
    valued := [⟨⟨name, ⟨0, 8⟩⟩, selector, none⟩,
      ⟨⟨"paginate", ⟨30, 38⟩⟩, ⟨[.ofImage "B"], none, some (.ofImage "pager"), none⟩, none⟩] }

/-- A program with one flag of this name, for every entity. -/
def flaggedProgram (name : String) : Program :=
  { Program.empty with flags := [⟨.ofImage name, ⟨[], some (.ofImage "*")⟩, none⟩] }

/-- When the first of two values is respelt, both still share a slot. With an empty selector the
name is quoted as it is written, and a flag is refused in either spelling. -/
theorem outcome_build_respelt_first :
    (∀ selector, List.Forall₂ ValueOption.Respelt (pagedProgram "paginate" selector).valued
      (pagedProgram "pagination" selector).valued) ∧
    (∃ document,
      (pagedProgram "pagination"
        ⟨[.ofImage "A"], none, some (.ofImage "pager"), none⟩).build.outcome = .ok document ∧
      document.options.valueEntry? .pagination "pager" = some ⟨["A", "B"], []⟩) ∧
    (∃ violation,
      (pagedProgram "pagination" ⟨[], none, none, none⟩).build.outcome = .error violation ∧
      violation.diagnostic.code = some .missingValue ∧
      violation.diagnostic.message = "option `pagination` has no value") ∧
    (flaggedProgram "paginate").RefusedAt (.ofImage "paginate") .unknownFamily
      "not an option family" ∧
    (flaggedProgram "pagination").RefusedAt (.ofImage "pagination") .kindMismatch
      "expected a BINARY declaration" := by
  obtain ⟨hvalued, hflag⟩ := outcome_build_respelt
  have hrespelt : ∀ selector, List.Forall₂ ValueOption.Respelt
      (pagedProgram "paginate" selector).valued (pagedProgram "pagination" selector).valued := by
    intro selector
    exact .cons (.pagination _ _ _) (.cons (.same _) .nil)
  refine ⟨hrespelt, ?_, ?_, ?_, ?_⟩
  · have hbuild : (pagedProgram "paginate"
        ⟨[.ofImage "A"], none, some (.ofImage "pager"), none⟩).build.outcome = .ok _ :=
      Program.outcome_build _
    exact ⟨_, (hvalued _ _ (hrespelt _)).1 _ hbuild, rfl⟩
  · have hbuild : (pagedProgram "paginate" ⟨[], none, none, none⟩).build.outcome = .error _ :=
      Program.outcome_build _
    have hother : (pagedProgram "pagination" ⟨[], none, none, none⟩).build.outcome = .error _ :=
      Program.outcome_build _
    obtain ⟨other, houtcome, hrequoted⟩ := (hvalued _ _ (hrespelt _)).2 _ hbuild
    refine ⟨other, houtcome, hrequoted.code.symm, ?_⟩
    cases hother.symm.trans houtcome
    rfl
  · obtain ⟨-, hrefused⟩ := hflag (flaggedProgram "paginate") [] [] _ rfl (.inl rfl)
    exact (hrefused (List.forall_mem_nil _) (List.forall_mem_nil _)).1 rfl
  · obtain ⟨-, hrefused⟩ := hflag (flaggedProgram "pagination") [] [] _ rfl (.inr rfl)
    exact (hrefused (List.forall_mem_nil _) (List.forall_mem_nil _)).2 rfl

end Declared

end DomainModel
