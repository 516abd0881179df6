import DomainModel.Proofs.FirstViolation
import DomainModel.Proofs.Spans
import DomainModel.Report
import Mathlib.Data.List.Forall2

/-!
# Reports of failed builds

A host shows a label by the offset and the length of its range, and a range that ends before it
starts has no length. So it has to be known of every label of a failed build that its range lies in
the source. The labels are the ranges of tokens, and for an option keyword of a relationship the
union of two more; it is therefore enough that the tokens which the checks look at lie in the
source (`Program.checkedTokens`). Every check keeps this (`Program.forall_mem_checks`), the
violation is that of one of the checks, and a diagnostic with labels in the source has a report
that says the same.

## What this module delivers

- `Label.Marked`, `Report.Shows`: a label as a range of the source, and a diagnostic as a report.
- `reports_build`: the reports of a failed build, one for each diagnostic.
- `Program.checkedTokens`: the tokens that the checks look at.
- `Check.Within`: a check whose ranges lie in the source.
- `outcome_build_reportable`: the labels of a failed build, and its reports.
-/

set_option autoImplicit false

namespace DomainModel

/-! ## Labels and their ranges -/

/-- A label is shown by a range of a source of this size. -/
structure Label.Marked (size : Nat) (label : Label) (range : Range) : Prop where
  /-- The span of the label has a length, which is that of the range. -/
  length : label.span.length? = some range.length
  /-- The range starts where the span does. -/
  start : range.offset = label.span.start
  /-- The range ends where the span does. -/
  stop : range.offset + range.length = label.span.stop
  /-- The range ends within the source. -/
  stop_le : range.offset + range.length ≤ size
  message : range.message = label.message
  primary : range.primary = label.primary

/-- A label within the source is shown. -/
theorem Label.exists_range {size : Nat} {label : Label} (h : label.span.Within size) :
    ∃ range, label.range? = some range ∧ label.Marked size range := by
  have hlength := Span.length?_of_within h
  have hstop : label.span.start + (label.span.stop - label.span.start) = label.span.stop :=
    Nat.add_sub_cancel' h.start_le_stop
  refine ⟨⟨label.span.start, label.span.stop - label.span.start, label.message, label.primary⟩,
    ?_, ?_⟩
  · rw [range?, hlength]
    rfl
  · exact ⟨hlength, rfl, hstop, Nat.le_trans (Nat.le_of_eq hstop) h.stop_le, rfl, rfl⟩

/-- Labels within the source are all shown, in order. -/
theorem Label.exists_ranges {size : Nat} {labels : List Label}
    (h : ∀ label ∈ labels, label.span.Within size) :
    ∃ ranges, labels.mapM Label.range? = some ranges ∧
      List.Forall₂ (Label.Marked size) labels ranges := by
  induction labels with
  | nil => exact ⟨[], rfl, .nil⟩
  | cons label rest ih =>
      obtain ⟨hlabel, hrest⟩ := List.forall_mem_cons.1 h
      obtain ⟨range, hrange, hmarked⟩ := label.exists_range hlabel
      obtain ⟨ranges, hranges, hall⟩ := ih hrest
      refine ⟨range :: ranges, ?_, .cons hmarked hall⟩
      rw [List.mapM_cons, hrange, hranges]
      rfl

/-! ## Diagnostics and their reports -/

/-- A report says what a diagnostic says, by ranges of a source of this size. -/
structure Report.Shows (size : Nat) (diagnostic : Diagnostic) (report : Report) : Prop where
  text : report.text? = some diagnostic.message
  code : report.code? = diagnostic.code.map ErrorCode.text
  severity : report.severity? = some diagnostic.severity
  help : report.help? = diagnostic.help
  /-- Every label has its range, in the same order. -/
  ranges : ∃ ranges, report.ranges? = some ranges ∧
    List.Forall₂ (Label.Marked size) diagnostic.labels ranges

/-- Diagnostics whose labels lie in the source have one report each, in order. -/
theorem reports_build {size : Nat} {diagnostics : List Diagnostic}
    (h : ∀ diagnostic ∈ diagnostics, ∀ label ∈ diagnostic.labels, label.span.Within size)
    (source : String) :
    List.Forall₂ (Report.Shows size) diagnostics (Failure.build diagnostics source).reports := by
  rw [Failure.reports, issueReports, List.forall₂_map_right_iff, List.forall₂_same]
  intro diagnostic hdiagnostic
  exact ⟨rfl, rfl, rfl, rfl, Label.exists_ranges (h diagnostic hdiagnostic)⟩

namespace Declared

/-! ## The ranges of a check -/

/-- The ranges of a check lie in a source of this size. -/
structure Check.Within (check : Check) (size : Nat) : Prop where
  /-- The token to blame lies in the source. -/
  offender : check.offender.span.Within size
  /-- So do the ranges beside it. -/
  surroundings : ∀ span ∈ check.surroundings, span.Within size

/-- A check that shows nothing beside its token lies in the source when the token does. -/
theorem Check.within_of_alone {check : Check} {size : Nat}
    (h : check.offender.span.Within size) (hnone : check.surroundings = []) :
    check.Within size where
  offender := h
  surroundings := by simp [hnone]

/-- The labels of a check that fails are its ranges. -/
theorem Check.Within.labels {check : Check} {size : Nat} (h : check.Within size) :
    ∀ label ∈ check.violation.labels, label.span.Within size := by
  intro label hlabel
  have hmem := List.mem_map_of_mem (f := fun label => (label.span, label.primary)) hlabel
  rw [check.labels_eq] at hmem
  rcases List.mem_cons.1 hmem with hoffender | hsurroundings
  · obtain ⟨hspan, -⟩ := Prod.mk.inj hoffender
    rw [hspan]
    exact h.offender
  · obtain ⟨span, hspan, heq⟩ := List.mem_map.1 hsurroundings
    obtain ⟨rfl, -⟩ := Prod.mk.inj heq
    exact h.surroundings _ hspan

/-- The first label of a check that fails is a primary one. -/
theorem Check.exists_primary (check : Check) :
    ∃ first rest, check.violation.labels = first :: rest ∧ first.primary = true := by
  have hlabels := check.labels_eq
  cases hviolation : check.violation.labels with
  | nil => simp [hviolation] at hlabels
  | cons first rest =>
      rw [hviolation, List.map_cons, List.cons.injEq] at hlabels
      obtain ⟨-, hprimary⟩ := Prod.mk.inj hlabels.1
      exact ⟨first, rest, rfl, hprimary⟩

/-! ## The checks on a program -/

namespace Program

/-- The tokens that the checks on a program look at: the types of relationship blocks, the names of
both sides and the option keywords of every relationship, and the names of options. -/
def checkedTokens (program : Program) : List Token :=
  program.relationships.flatMap (fun block => block.type :: block.bodies.flatMap fun body =>
      body.source.name :: body.target.name :: body.options) ++
    (program.flags.map FlagOption.option ++ program.valued.map ValueOption.option)

/-- All checks on a program have a property when it holds of each kind of check. -/
theorem forall_mem_checks {P : Check → Prop} {program : Program}
    (hrelationships : ∀ block ∈ program.relationships, P (typeCheck block.type) ∧
      ∀ body ∈ block.bodies, ∀ keyword ∈ body.options, P (keywordCheck body.sides keyword))
    (hflags : ∀ declared ∈ program.flags, P (nameCheck declared.option declared.named) ∧
      ∀ family, P (kindCheck declared.option .flag family))
    (hvalued : ∀ declared ∈ program.valued, P (nameCheck declared.option declared.named) ∧
      P (selectorCheck declared.option declared.selector) ∧
      ∀ family, P (kindCheck declared.option .single family)) :
    ∀ check ∈ program.checks, P check := by
  rw [checks, List.forall_mem_append, List.forall_mem_append, List.forall_mem_flatMap,
    List.forall_mem_flatMap, List.forall_mem_flatMap]
  refine ⟨?_, ?_, ?_⟩
  · intro block hblock
    obtain ⟨htype, hkeywords⟩ := hrelationships block hblock
    rw [RelationshipBlock.checks, List.forall_mem_cons, List.forall_mem_flatMap]
    refine ⟨htype, fun body hbody => ?_⟩
    rw [Body.checks, List.forall_mem_flatMap]
    intro keyword hkeyword
    rw [List.forall_mem_singleton]
    exact hkeywords body hbody keyword hkeyword
  · intro declared hdeclared
    obtain ⟨hname, hkind⟩ := hflags declared hdeclared
    rw [FlagOption.checks, List.forall_mem_cons, List.forall_mem_map]
    exact ⟨hname, fun family _ => hkind family⟩
  · intro declared hdeclared
    obtain ⟨hname, hselector, hkind⟩ := hvalued declared hdeclared
    rw [ValueOption.checks, List.forall_mem_cons, List.forall_mem_cons, List.forall_mem_map]
    exact ⟨hname, hselector, fun family _ => hkind family⟩

/-- When the tokens that the checks look at lie in the source, so do all ranges of the checks. -/
theorem within_of_mem_checks {program : Program} {size : Nat}
    (h : ∀ token ∈ program.checkedTokens, token.span.Within size) :
    ∀ check ∈ program.checks, check.Within size := by
  rw [checkedTokens, List.forall_mem_append, List.forall_mem_append, List.forall_mem_flatMap,
    List.forall_mem_map, List.forall_mem_map] at h
  obtain ⟨hrelationships, hflags, hvalued⟩ := h
  apply forall_mem_checks
  · intro block hblock
    obtain ⟨htype, hbodies⟩ := List.forall_mem_cons.1 (hrelationships block hblock)
    refine ⟨Check.within_of_alone htype rfl, fun body hbody keyword hkeyword => ?_⟩
    -- beside the keyword stands the union of the two names, which lies between them
    have hbody' := List.forall_mem_flatMap.1 hbodies body hbody
    rw [List.forall_mem_cons, List.forall_mem_cons] at hbody'
    obtain ⟨hsource, htarget, hkeywords⟩ := hbody'
    exact ⟨hkeywords keyword hkeyword, List.forall_mem_singleton.2 (hsource.union htarget)⟩
  · intro declared hdeclared
    have hoption := hflags declared hdeclared
    exact ⟨Check.within_of_alone hoption rfl, fun _ => Check.within_of_alone hoption rfl⟩
  · intro declared hdeclared
    have hoption := hvalued declared hdeclared
    exact ⟨Check.within_of_alone hoption rfl, Check.within_of_alone hoption rfl,
      fun _ => Check.within_of_alone hoption rfl⟩

/-- A check for the option keywords of relationships is that of a keyword of some relationship. -/
theorem eq_keywordCheck_of_code {program : Program} : ∀ check ∈ program.checks,
    check.code = .unknownRelationshipOption → ∃ block ∈ program.relationships,
      ∃ body ∈ block.bodies, ∃ keyword ∈ body.options,
        check = keywordCheck body.sides keyword := by
  apply forall_mem_checks
  · intro block hblock
    refine ⟨nofun, fun body hbody keyword hkeyword _ => ?_⟩
    exact ⟨block, hblock, body, hbody, keyword, hkeyword, rfl⟩
  · intro declared _
    exact ⟨nofun, fun family => nofun⟩
  · intro declared _
    exact ⟨nofun, nofun, fun family => nofun⟩

/-- What stands against a program is reported by one of its checks. -/
theorem exists_check_of_objection? {program : Program} {violation : Violation}
    (h : program.objection? = some violation) :
    ∃ check ∈ program.checks, check.violation = violation := by
  have hjudged := program.judges
  rw [h] at hjudged
  obtain ⟨before, check, after, hchecks, -, -, hviolation⟩ := hjudged
  exact ⟨check, by simp [hchecks], hviolation⟩

end Program

/-! ## Failed builds -/

/-- When the build of a program fails whose checked tokens lie in a source of some size, all labels
of its diagnostic lie in the source and the first one is primary. The compilation then fails with
this diagnostic, and its one report says the same by ranges of the source. Of an unknown option
keyword the second label is the least range around the names of both sides. -/
theorem outcome_build_reportable {program : Program} {size : Nat}
    (htokens : ∀ token ∈ program.checkedTokens, token.span.Within size) {violation : Violation}
    (hbuild : program.build.outcome = .error violation) :
    (∀ label ∈ violation.diagnostic.labels, label.span.Within size) ∧
    (∃ first rest, violation.diagnostic.labels = first :: rest ∧ first.primary = true) ∧
    (∀ (settings : Settings) (source : String),
      (compile settings source program).outcome = .error (.build [violation.diagnostic] source) ∧
      List.Forall₂ (Report.Shows size) [violation.diagnostic]
        (Failure.build [violation.diagnostic] source).reports) ∧
    (violation.diagnostic.code = some .unknownRelationshipOption →
      ∃ block ∈ program.relationships, ∃ body ∈ block.bodies, ∃ keyword ∈ body.options,
        ∃ sides : Span,
          violation.diagnostic.labels = [⟨keyword.span, "not a relationship option", true⟩,
            ⟨sides, "in this relationship", false⟩] ∧
          sides.IsLeastCover [body.source.name.span, body.target.name.span]) := by
  have hobjection := Program.outcome_build_eq_error_iff.1 hbuild
  obtain ⟨check, hcheck, rfl⟩ := Program.exists_check_of_objection? hobjection
  have hlabels := (Program.within_of_mem_checks htokens check hcheck).labels
  refine ⟨hlabels, check.exists_primary, ?_, ?_⟩
  · intro settings source
    refine ⟨outcome_compile_of_error hbuild settings source, reports_build ?_ source⟩
    exact List.forall_mem_singleton.2 hlabels
  · intro hcode
    have hcode' : check.code = .unknownRelationshipOption := by
      rw [← check.code_eq]
      exact Option.some.inj hcode
    obtain ⟨block, hblock, body, hbody, keyword, hkeyword, rfl⟩ :=
      Program.eq_keywordCheck_of_code check hcheck hcode'
    exact ⟨block, hblock, body, hbody, keyword, hkeyword, body.sides, rfl,
      Span.isLeastCover_union _ _⟩

/-- A program whose only relationship is written with the target first and has an unknown
option. -/
def invertedProgram : Program :=
  { Program.empty with
    relationships := [⟨⟨"OneToOne", ⟨13, 21⟩⟩,
      [⟨[], bareSide ⟨"B", ⟨30, 31⟩⟩, bareSide ⟨"A", ⟨24, 25⟩⟩, [⟨"cascade", ⟨37, 44⟩⟩]⟩]⟩] }

/-- The keyword is shown by its range, and the two sides by one range from the first name in the
source to the end of the second. -/
theorem outcome_build_reportable_inverted :
    (∀ token ∈ invertedProgram.checkedTokens, token.span.Within 46) ∧
    ∃ violation : Violation, invertedProgram.build.outcome = .error violation ∧
      ∃ report : Report,
        (Failure.build [violation.diagnostic] "source").reports = [report] ∧
        report.Shows 46 violation.diagnostic ∧
        report.ranges? = some [⟨37, 7, "not a relationship option", true⟩,
          ⟨24, 7, "in this relationship", false⟩] := by
  have htokens : ∀ token ∈ invertedProgram.checkedTokens, token.span.Within 46 := by decide
  have hbuild : invertedProgram.build.outcome =
      .error (.unknownRelationshipOption ⟨"cascade", ⟨37, 44⟩⟩ ⟨24, 31⟩) :=
    invertedProgram.outcome_build
  obtain ⟨-, -, hreports, -⟩ := outcome_build_reportable htokens hbuild
  obtain ⟨-, hshown⟩ := hreports ⟨true⟩ "source"
  cases hshown with
  | cons hshows hrest => exact ⟨htokens, _, hbuild, _, rfl, hshows, rfl⟩

end Declared

end DomainModel
