import DomainModel.Compile
import DomainModel.Proofs.BuildOutcome

/-!
# The first violation of a program

A build promises to stop at the first thing that is wrong. Here the things that can be wrong are
written down once, as a list of checks in the order in which a reader of the program would go
through them (`Program.checks`): each check has its condition, and what is to be said when the
condition does not hold. The build is then compared with the list. It accepts exactly the programs
that pass all checks, and of the others it reports the first check that fails.

## What this module delivers

- `Check`: a condition with the violation that reports it.
- `Judges`: the objection is what the first failing check of a list reports, with the lemmas that
  put judged lists together.
- `FlagOption.judges`, `ValueOption.judges`, `RelationshipBlock.judges`, `Program.judges`: what
  stands against a declaration is what the first of its failing checks reports.
- `Program.WellFormed`: what a program has to be, with `wellFormed_iff_checks`.
- `outcome_build_first_violation`: the two together, for the build and for the compilation.
-/

set_option autoImplicit false

namespace DomainModel.Declared

/-! ## Checks -/

/-- One thing that a program promises, and how a program that breaks it is told so. -/
structure Check where
  /-- The promise. -/
  condition : Prop
  /-- The code of its violation. -/
  code : ErrorCode
  /-- The token to blame. -/
  offender : Token
  /-- Ranges that are shown beside the token. -/
  surroundings : List Span
  /-- The violation. -/
  violation : Violation
  /-- The violation has the code. -/
  code_eq : violation.code = code
  /-- The violation has the token for its only primary label, and the ranges for the others. -/
  labels_eq : violation.labels.map (fun label => (label.span, label.primary)) =
    (offender.span, true) :: surroundings.map fun span => (span, false)

/-- The type of a block is one of the four cardinalities. -/
def typeCheck (type : Token) : Check where
  condition := type.image ∈ ["OneToOne", "OneToMany", "ManyToOne", "ManyToMany"]
  code := .unknownCardinality
  offender := type
  surroundings := []
  violation := .unknownCardinality type
  code_eq := rfl
  labels_eq := rfl

/-- An option keyword of a relationship is the one there is. -/
def keywordCheck (sides : Span) (keyword : Token) : Check where
  condition := keyword.image = "jpaDerivedIdentifier"
  code := .unknownRelationshipOption
  offender := keyword
  surroundings := [sides]
  violation := .unknownRelationshipOption keyword sides
  code_eq := rfl
  labels_eq := rfl

/-- The name of an option declaration names a family. -/
def nameCheck (option : Token) (named : List OptionFamily) : Check where
  condition := named ≠ []
  code := .unknownFamily
  offender := option
  surroundings := []
  violation := .refusedOption option (.unknownFamily option.image)
  code_eq := rfl
  labels_eq := rfl

/-- A family that an option declaration names takes declarations of its kind. -/
def kindCheck (option : Token) (found : OptionKind) (family : OptionFamily) : Check where
  condition := family.kind = found
  code := .kindMismatch
  offender := option
  surroundings := []
  violation := .refusedOption option (.kindMismatch family family.kind found)
  code_eq := rfl
  labels_eq := rfl

/-- The selector of a value-bearing declaration has a token. -/
def selectorCheck (option : Token) (selector : ValueSelector) : Check where
  condition := selector.tokens ≠ []
  code := .missingValue
  offender := option
  surroundings := []
  violation := .missingValue option
  code_eq := rfl
  labels_eq := rfl

/-! ## Judging a list of checks -/

/-- The objection is what the first check that fails reports; there is none when all checks
pass. -/
def Judges (checks : List Check) : Option Violation → Prop
  | none => ∀ check ∈ checks, check.condition
  | some violation => ∃ before check after, checks = before ++ check :: after ∧
      (∀ earlier ∈ before, earlier.condition) ∧ ¬ check.condition ∧ check.violation = violation

theorem judges_nil : Judges [] none := by
  intro check hcheck
  cases hcheck

/-- A check that fails in front of a list is the first one. -/
theorem judges_cons_of_not {check : Check} (h : ¬ check.condition) (checks : List Check) :
    Judges (check :: checks) (some check.violation) :=
  ⟨[], check, checks, rfl, by simp, h, rfl⟩

/-- A check that passes in front of a list leaves the judgement to the list. -/
theorem judges_cons {check : Check} (h : check.condition) {checks : List Check}
    {objection? : Option Violation} (hchecks : Judges checks objection?) :
    Judges (check :: checks) objection? := by
  cases objection? with
  | none =>
      intro other hother
      rcases List.mem_cons.1 hother with rfl | hrest
      · exact h
      · exact hchecks other hrest
  | some violation =>
      obtain ⟨before, failing, after, rfl, hbefore, hfailing, hviolation⟩ := hchecks
      refine ⟨check :: before, failing, after, rfl, ?_, hfailing, hviolation⟩
      intro other hother
      rcases List.mem_cons.1 hother with rfl | hrest
      · exact h
      · exact hbefore other hrest

/-- Of two lists the second is looked at when all checks of the first one pass. -/
theorem judges_append {checks others : List Check} {first second : Option Violation}
    (hchecks : Judges checks first) (hothers : Judges others second) :
    Judges (checks ++ others) (first.or second) := by
  cases first with
  | none =>
      induction checks with
      | nil => exact hothers
      | cons check rest ih =>
          have hrest : Judges rest none := fun other hother =>
            hchecks other (List.mem_cons_of_mem check hother)
          exact judges_cons (hchecks check List.mem_cons_self) (ih hrest)
  | some violation =>
      -- the first failing check is in the first list, whatever the second one holds
      obtain ⟨before, failing, after, rfl, hbefore, hfailing, hviolation⟩ := hchecks
      exact ⟨before, failing, after ++ others, by simp, hbefore, hfailing, hviolation⟩

/-- What is judged declaration by declaration is judged for a list of declarations. -/
theorem judges_flatMap {α : Type} {checks : α → List Check} {objection? : α → Option Violation}
    (h : ∀ declared, Judges (checks declared) (objection? declared)) (declarations : List α) :
    Judges (declarations.flatMap checks) (declarations.findSome? objection?) := by
  induction declarations with
  | nil => exact judges_nil
  | cons declared rest ih =>
      have happend := judges_append (h declared) ih
      rw [List.flatMap_cons, List.findSome?_cons]
      cases hobjection : objection? declared with
      | none => rwa [hobjection] at happend
      | some violation => rwa [hobjection] at happend

/-- There is no objection exactly when all checks pass. -/
theorem Judges.eq_none_iff {checks : List Check} {objection? : Option Violation}
    (h : Judges checks objection?) : objection? = none ↔ ∀ check ∈ checks, check.condition := by
  cases objection? with
  | none => exact ⟨fun _ => h, fun _ => rfl⟩
  | some violation =>
      obtain ⟨before, failing, after, rfl, -, hfailing, -⟩ := h
      constructor
      · intro hnone
        cases hnone
      · intro hall
        exact absurd (hall failing (List.mem_append_right before List.mem_cons_self)) hfailing

/-! ## Relationships -/

/-- The checks on a relationship: one for each option keyword. -/
def Body.checks (body : Body) : List Check :=
  body.options.flatMap fun keyword => [keywordCheck body.sides keyword]

theorem Body.judges (body : Body) : Judges body.checks body.objection? := by
  refine judges_flatMap ?_ body.options
  intro keyword
  rw [keywordObjection?]
  split
  · next h => exact judges_cons h judges_nil
  · next h => exact judges_cons_of_not h []

/-- The checks on a block: its type, then its bodies. -/
def RelationshipBlock.checks (block : RelationshipBlock) : List Check :=
  typeCheck block.type :: block.bodies.flatMap Body.checks

/-- A cardinality is found exactly for the four names. -/
theorem ofName?_eq_none_iff (name : String) :
    Cardinality.ofName? name = none ↔
      name ∉ ["OneToOne", "OneToMany", "ManyToOne", "ManyToMany"] := by
  rw [Cardinality.ofName?, List.find?_eq_none]
  simp [Cardinality.all, Cardinality.name, @eq_comm _ _ name]

theorem RelationshipBlock.judges (block : RelationshipBlock) :
    Judges block.checks block.objection? := by
  rw [checks, objection?]
  cases hname : Cardinality.ofName? block.type.image with
  | none => exact judges_cons_of_not ((ofName?_eq_none_iff _).1 hname) _
  | some cardinality =>
      have htype : (typeCheck block.type).condition := by
        by_contra hcondition
        rw [(ofName?_eq_none_iff block.type.image).2 hcondition] at hname
        cases hname
      exact judges_cons htype (judges_flatMap Body.judges block.bodies)

/-! ## Option declarations

A name fits one family at most, so the checks on the kind of the named families are one check or
none. -/

/-- A name that fits no family is the first thing that is wrong with an option declaration. -/
theorem judges_nameCheck_nil (option : Token) (checks : List Check) :
    Judges (nameCheck option [] :: checks)
      (some (.refusedOption option (.unknownFamily option.image))) := by
  have hname : ¬ (nameCheck option []).condition := by
    intro hcondition
    exact hcondition rfl
  exact judges_cons_of_not hname checks

/-- The kind that a family does not take is what it objects to. -/
theorem judges_kindCheck (option : Token) (found : OptionKind) (family : OptionFamily) :
    Judges [kindCheck option found family]
      ((family.objectionTo found).map (.refusedOption option)) := by
  rw [OptionFamily.objectionTo]
  split
  · next h => exact judges_cons h judges_nil
  · next h => exact judges_cons_of_not h []

/-- The families with a name, one or none, are those that are found under it. -/
theorem ofName_cases (name : String) :
    (∃ family, OptionFamily.all.filter (fun other => name = other.name) = [family] ∧
      OptionFamily.ofName name = .ok family) ∨
    (OptionFamily.all.filter (fun other => name = other.name) = [] ∧
      OptionFamily.ofName name = .error (.unknownFamily name)) := by
  rw [OptionFamily.ofName]
  cases hfind : OptionFamily.all.find? fun family => family.name == name with
  | some family =>
      have hname : family.name = name := by simpa using List.find?_some hfind
      subst hname
      refine .inl ⟨family, ?_, rfl⟩
      cases family <;> rfl
  | none =>
      refine .inr ⟨List.filter_eq_nil_iff.2 ?_, rfl⟩
      intro family hfamily hname
      have hother := List.find?_eq_none.1 hfind family hfamily
      exact hother (beq_iff_eq.2 (of_decide_eq_true hname).symm)

namespace FlagOption

/-- The families that a flag declaration names. -/
def named (declared : FlagOption) : List OptionFamily :=
  OptionFamily.all.filter fun family => declared.option.image = family.name

/-- The checks on a flag declaration: its name, then the kind of its family. -/
def checks (declared : FlagOption) : List Check :=
  nameCheck declared.option declared.named ::
    declared.named.map (kindCheck declared.option .flag)

theorem named_cases (declared : FlagOption) :
    (∃ family, declared.named = [family] ∧ declared.family = .ok family) ∨
    (declared.named = [] ∧ declared.family =
      .error (.refusedOption declared.option (.unknownFamily declared.option.image))) := by
  rw [named, FlagOption.family, atOption]
  rcases ofName_cases declared.option.image with ⟨family, hnamed, hfamily⟩ | ⟨hnamed, hfamily⟩
  · exact .inl ⟨family, hnamed, by rw [hfamily]; rfl⟩
  · exact .inr ⟨hnamed, by rw [hfamily]; rfl⟩

theorem judges (declared : FlagOption) : Judges declared.checks declared.objection? := by
  rw [checks, objection?]
  rcases declared.named_cases with ⟨family, hnamed, hfamily⟩ | ⟨hnamed, hfamily⟩
  · rw [hnamed, hfamily]
    exact judges_cons (List.cons_ne_nil family []) (judges_kindCheck _ _ family)
  · rw [hnamed, hfamily]
    exact judges_nameCheck_nil declared.option []

end FlagOption

namespace ValueOption

/-- The families that a value-bearing declaration names, `paginate` being a name of
`pagination`. -/
def named (declared : ValueOption) : List OptionFamily :=
  OptionFamily.all.filter fun family => declared.option.image = family.name ∨
    (declared.option.image = "paginate" ∧ family = .pagination)

/-- The checks on a value-bearing declaration: its name, its selector, then the kind of its
family. -/
def checks (declared : ValueOption) : List Check :=
  nameCheck declared.option declared.named :: selectorCheck declared.option declared.selector ::
    declared.named.map (kindCheck declared.option .single)

theorem named_cases (declared : ValueOption) :
    (∃ family, declared.named = [family] ∧ declared.family = .ok family) ∨
    (declared.named = [] ∧ declared.family =
      .error (.refusedOption declared.option (.unknownFamily declared.option.image))) := by
  rw [named, ValueOption.family, atOption, OptionFamily.ofValuedName]
  by_cases hname : declared.option.image = "paginate"
  · rw [if_pos hname, hname]
    exact .inl ⟨.pagination, rfl, rfl⟩
  · rw [if_neg hname]
    simp only [hname, false_and, or_false]
    rcases ofName_cases declared.option.image with ⟨family, hnamed, hfamily⟩ | ⟨hnamed, hfamily⟩
    · exact .inl ⟨family, hnamed, by rw [hfamily]; rfl⟩
    · exact .inr ⟨hnamed, by rw [hfamily]; rfl⟩

/-- A selector gives no value exactly when it has no token. -/
theorem resolve?_eq_none_iff (selector : ValueSelector) :
    selector.resolve? = none ↔ selector.tokens = [] := by
  rw [ValueSelector.resolve?, splitValue?, Option.map_eq_none_iff, List.getLast?_eq_none_iff,
    ValueSelector.combined, ValueSelector.tokens]
  obtain ⟨names, star, method, methodPath⟩ := selector
  cases names with
  | nil => cases star <;> cases method <;> cases methodPath <;> simp [selectsAll, Token.images]
  | cons name names =>
      -- with a name there is a name or the wildcard
      simp only [Token.images, List.map_cons]
      split <;> simp

theorem judges (declared : ValueOption) : Judges declared.checks declared.objection? := by
  rw [checks, objection?]
  rcases declared.named_cases with ⟨family, hnamed, hfamily⟩ | ⟨hnamed, hfamily⟩
  · rw [hnamed, hfamily]
    refine judges_cons (List.cons_ne_nil family []) ?_
    cases hselection : declared.selector.resolve? with
    | none =>
        have hselector : ¬ (selectorCheck declared.option declared.selector).condition := by
          intro hcondition
          exact hcondition ((resolve?_eq_none_iff declared.selector).1 hselection)
        exact judges_cons_of_not hselector _
    | some selection =>
        have htokens : declared.selector.tokens ≠ [] := by
          intro hnil
          rw [(resolve?_eq_none_iff declared.selector).2 hnil] at hselection
          cases hselection
        exact judges_cons htokens (judges_kindCheck _ _ family)
  · rw [hnamed, hfamily]
    exact judges_nameCheck_nil declared.option _

end ValueOption

/-! ## Programs -/

namespace Program

/-- All checks on a program, in order: relationship blocks, flag options, value-bearing options. -/
def checks (program : Program) : List Check :=
  program.relationships.flatMap RelationshipBlock.checks ++
    (program.flags.flatMap FlagOption.checks ++ program.valued.flatMap ValueOption.checks)

/-- What stands against a program is what its first failing check reports. -/
theorem judges (program : Program) : Judges program.checks program.objection? := by
  have hrelationships := judges_flatMap RelationshipBlock.judges program.relationships
  have hflags := judges_flatMap FlagOption.judges program.flags
  have hvalued := judges_flatMap ValueOption.judges program.valued
  exact judges_append hrelationships (judges_append hflags hvalued)

/-- What a program has to be so that it has a document. -/
structure WellFormed (program : Program) : Prop where
  /-- Every block has one of the four cardinalities for its type. -/
  cardinality : ∀ block ∈ program.relationships,
    block.type.image ∈ ["OneToOne", "OneToMany", "ManyToOne", "ManyToMany"]
  /-- Every option keyword of a relationship is the one there is. -/
  keyword : ∀ block ∈ program.relationships, ∀ body ∈ block.bodies, ∀ keyword ∈ body.options,
    keyword.image = "jpaDerivedIdentifier"
  /-- Every flag declaration names a flag family. -/
  flag : ∀ declared ∈ program.flags, ∃ family : OptionFamily,
    declared.option.image = family.name ∧ family.carriesValue = false
  /-- Every value-bearing declaration names a value-bearing family, or writes `paginate`. -/
  valued : ∀ declared ∈ program.valued, ∃ family : OptionFamily,
    (declared.option.image = family.name ∨
      (declared.option.image = "paginate" ∧ family = .pagination)) ∧
    family.carriesValue = true
  /-- Every value-bearing declaration has a token in its selector. -/
  selector : ∀ declared ∈ program.valued, declared.selector.tokens ≠ []

end Program

/-! ## Well-formed programs pass all checks -/

theorem Body.checks_iff (body : Body) :
    (∀ check ∈ body.checks, check.condition) ↔
      ∀ keyword ∈ body.options, keyword.image = "jpaDerivedIdentifier" := by
  rw [checks, List.forall_mem_flatMap]
  simp [keywordCheck]

theorem RelationshipBlock.checks_iff (block : RelationshipBlock) :
    (∀ check ∈ block.checks, check.condition) ↔
      block.type.image ∈ ["OneToOne", "OneToMany", "ManyToOne", "ManyToMany"] ∧
        ∀ body ∈ block.bodies, ∀ keyword ∈ body.options,
          keyword.image = "jpaDerivedIdentifier" := by
  rw [checks, List.forall_mem_cons, List.forall_mem_flatMap]
  simp only [Body.checks_iff]
  rfl

/-- Of a list of at most one family, both checks pass exactly when it has a family of the kind. -/
theorem optionChecks_iff {option : Token} {found : OptionKind} {named : List OptionFamily}
    (h : (∃ family, named = [family]) ∨ named = []) :
    ((nameCheck option named).condition ∧
      ∀ check ∈ named.map (kindCheck option found), check.condition) ↔
    ∃ family ∈ named, family.kind = found := by
  rcases h with ⟨family, rfl⟩ | rfl
  · simp [nameCheck, kindCheck]
  · simp [nameCheck]

theorem kind_eq_flag_iff (family : OptionFamily) :
    family.kind = .flag ↔ family.carriesValue = false := by
  cases family <;> decide

theorem kind_eq_single_iff (family : OptionFamily) :
    family.kind = .single ↔ family.carriesValue = true := by
  cases family <;> decide

theorem FlagOption.checks_iff (declared : FlagOption) :
    (∀ check ∈ declared.checks, check.condition) ↔ ∃ family : OptionFamily,
      declared.option.image = family.name ∧ family.carriesValue = false := by
  have hnamed : (∃ family, declared.named = [family]) ∨ declared.named = [] :=
    declared.named_cases.imp (fun ⟨family, hfamily, _⟩ => ⟨family, hfamily⟩) And.left
  rw [checks, List.forall_mem_cons, optionChecks_iff hnamed]
  simp [named, OptionFamily.mem_all, kind_eq_flag_iff]

theorem ValueOption.checks_iff (declared : ValueOption) :
    (∀ check ∈ declared.checks, check.condition) ↔
      declared.selector.tokens ≠ [] ∧ ∃ family : OptionFamily,
        (declared.option.image = family.name ∨
          (declared.option.image = "paginate" ∧ family = .pagination)) ∧
        family.carriesValue = true := by
  have hnamed : (∃ family, declared.named = [family]) ∨ declared.named = [] :=
    declared.named_cases.imp (fun ⟨family, hfamily, _⟩ => ⟨family, hfamily⟩) And.left
  rw [checks, List.forall_mem_cons, List.forall_mem_cons, and_left_comm, optionChecks_iff hnamed]
  simp [named, OptionFamily.mem_all, kind_eq_single_iff, selectorCheck]

namespace Program

/-- A program is well-formed exactly when it passes all checks. -/
theorem wellFormed_iff_checks (program : Program) :
    program.WellFormed ↔ ∀ check ∈ program.checks, check.condition := by
  rw [checks]
  simp only [List.forall_mem_append, List.forall_mem_flatMap, RelationshipBlock.checks_iff,
    FlagOption.checks_iff, ValueOption.checks_iff]
  constructor
  · rintro ⟨hcardinality, hkeyword, hflag, hvalued, hselector⟩
    exact ⟨fun block hblock => ⟨hcardinality block hblock, hkeyword block hblock⟩, hflag,
      fun declared hdeclared => ⟨hselector declared hdeclared, hvalued declared hdeclared⟩⟩
  · rintro ⟨hrelationships, hflag, hvalued⟩
    exact ⟨fun block hblock => (hrelationships block hblock).1,
      fun block hblock => (hrelationships block hblock).2, hflag,
      fun declared hdeclared => (hvalued declared hdeclared).2,
      fun declared hdeclared => (hvalued declared hdeclared).1⟩

/-- Nothing stands against a program exactly when it is well-formed. -/
theorem objection?_eq_none_iff (program : Program) :
    program.objection? = none ↔ program.WellFormed := by
  rw [wellFormed_iff_checks, program.judges.eq_none_iff]

end Program

/-! ## The build -/

/-- A compilation of a program whose build fails fails with the one diagnostic of the violation. -/
theorem outcome_compile_of_error {program : Program} {violation : Violation}
    (h : program.build.outcome = .error violation) (settings : Settings) (source : String) :
    (compile settings source program).outcome =
      .error (.build [violation.diagnostic] source) := by
  rw [compile, Traced.outcome_bind, Traced.outcome_bind, Traced.mapError, h]
  rfl

/-- The build has a document exactly for well-formed programs. For every other program it reports
the first check that fails, whatever else is wrong: as one error, with the code of the check, the
token to blame under its primary label, and the surroundings under its other labels. -/
theorem outcome_build_first_violation (program : Program) :
    ((∃ document, program.build.outcome = .ok document) ↔ program.WellFormed) ∧
    (¬ program.WellFormed → ∃ before check after, program.checks = before ++ check :: after ∧
      (∀ earlier ∈ before, earlier.condition) ∧ ¬ check.condition ∧
      program.build.outcome = .error check.violation ∧
      check.violation.diagnostic.severity = .error ∧
      check.violation.diagnostic.code = some check.code ∧
      check.violation.diagnostic.labels.map (fun label => (label.span, label.primary)) =
        (check.offender.span, true) :: check.surroundings.map (fun span => (span, false)) ∧
      ∀ settings source, (compile settings source program).outcome =
        .error (.build [check.violation.diagnostic] source)) := by
  constructor
  · rw [← program.objection?_eq_none_iff]
    constructor
    · rintro ⟨document, hdocument⟩
      exact (Program.outcome_build_eq_ok_iff.1 hdocument).1
    · intro hnone
      exact ⟨program.document, Program.outcome_build_eq_ok_iff.2 ⟨hnone, rfl⟩⟩
  · intro hill
    -- the objection, which the build reports, is split off the list of checks by `judges`
    have hjudged := program.judges
    cases hobjection : program.objection? with
    | none => exact absurd (program.objection?_eq_none_iff.1 hobjection) hill
    | some violation =>
        rw [hobjection] at hjudged
        obtain ⟨before, check, after, hchecks, hbefore, hcheck, rfl⟩ := hjudged
        have hbuild := Program.outcome_build_eq_error_iff.2 hobjection
        exact ⟨before, check, after, hchecks, hbefore, hcheck, hbuild, rfl,
          congrArg some check.code_eq, check.labels_eq, outcome_compile_of_error hbuild⟩

/-- A side with a name at a place and nothing else. -/
def bareSide (name : Token) : Side := ⟨none, name, none, [], none, [], none⟩

/-- A program with violations everywhere: an unknown keyword in the second body of a block, then a
block of an unknown type, a value-bearing family declared as a flag, and an empty selector. -/
def manifoldProgram : Program :=
  { Program.empty with
    relationships := [
      ⟨⟨"OneToMany", ⟨13, 22⟩⟩,
        [⟨[], bareSide ⟨"A", ⟨25, 26⟩⟩, bareSide ⟨"B", ⟨30, 31⟩⟩,
            [⟨"jpaDerivedIdentifier", ⟨37, 57⟩⟩]⟩,
          ⟨[], bareSide ⟨"C", ⟨60, 61⟩⟩, bareSide ⟨"D", ⟨65, 66⟩⟩, [⟨"cascade", ⟨72, 79⟩⟩]⟩]⟩,
      ⟨⟨"OneToNone", ⟨95, 104⟩⟩, []⟩]
    flags := [⟨⟨"dto", ⟨110, 113⟩⟩, ⟨[], none⟩, none⟩]
    valued := [⟨⟨"service", ⟨120, 127⟩⟩, ⟨[], none, none, none⟩, none⟩] }

/-- Of all these violations the keyword is reported, with the two sides around it. -/
theorem outcome_build_first_violation_manifold :
    ¬ manifoldProgram.WellFormed ∧ ∃ check ∈ manifoldProgram.checks,
      ¬ check.condition ∧ manifoldProgram.build.outcome = .error check.violation ∧
      check.code = .unknownRelationshipOption ∧
      (check.offender.span, true) :: check.surroundings.map (fun span => (span, false)) =
        [(⟨72, 79⟩, true), (⟨60, 66⟩, false)] := by
  have hill : ¬ manifoldProgram.WellFormed := by
    intro hwell
    exact hwell.selector _ List.mem_cons_self rfl
  obtain ⟨before, check, after, hchecks, -, hcheck, hbuild, -, hcode, hlabels, -⟩ :=
    (outcome_build_first_violation manifoldProgram).2 hill
  have hviolation : Except.error check.violation = manifoldProgram.build.outcome := hbuild.symm
  have hkeyword : check.violation =
      .unknownRelationshipOption ⟨"cascade", ⟨72, 79⟩⟩ ⟨60, 66⟩ := by
    injection hviolation
  refine ⟨hill, check, by rw [hchecks]; simp, hcheck, hbuild, ?_, ?_⟩
  · rw [hkeyword] at hcode
    injection hcode.symm
  · rw [hkeyword] at hlabels
    exact hlabels.symm

end DomainModel.Declared
