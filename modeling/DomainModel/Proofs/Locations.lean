import DomainModel.Proofs.BuildOutcome
import DomainModel.Proofs.Erasure

/-!
# Locations do not count

Two programs whose erasures are equal may be laid out in quite different ways. Their builds
nevertheless agree: both have the same document, or both fail, and then what is told of the two
failures differs in the ranges of the labels only. One run is compared with the run of the erased
program, and the two runs through the erased program with each other.

## What this module delivers

- `Violation.erase`: a violation without the places it points at.
- `Program.objection?_erase`, `Program.document_erase`: what stands against an erased program, and
  the document it means.
- `Diagnostic.Alike`: diagnostics that differ in the ranges of their labels only.
- `outcome_build_of_erase_eq`: programs with the same erasure have the same builds.
-/

set_option autoImplicit false

namespace DomainModel

/-! ## Violations without places -/

/-- The violation with its tokens erased; the cover of two erased names is the empty range at the
start. -/
def Violation.erase : Violation → Violation
  | .unknownCardinality type => .unknownCardinality type.erase
  | .unknownRelationshipOption keyword _ => .unknownRelationshipOption keyword.erase ⟨0, 0⟩
  | .refusedOption option cause => .refusedOption option.erase cause
  | .missingValue option => .missingValue option.erase

/-- Two diagnostics that differ in the ranges of their labels only. -/
structure Diagnostic.Alike (d e : Diagnostic) : Prop where
  /-- Both are as severe. -/
  severity : d.severity = e.severity
  /-- Both have the same code, or none. -/
  code : d.code = e.code
  /-- Both are worded the same. -/
  message : d.message = e.message
  /-- Both give the same advice. -/
  help : d.help = e.help
  /-- Labels correspond in order; only their ranges may differ. -/
  labels : d.labels.map (fun label => (label.message, label.primary)) =
    e.labels.map fun label => (label.message, label.primary)

/-- Being told alike has no direction. -/
theorem Diagnostic.Alike.symm {d e : Diagnostic} (h : d.Alike e) : e.Alike d :=
  ⟨h.severity.symm, h.code.symm, h.message.symm, h.help.symm, h.labels.symm⟩

theorem Diagnostic.Alike.trans {d e f : Diagnostic} (h : d.Alike e) (h' : e.Alike f) :
    d.Alike f where
  severity := h.severity.trans h'.severity
  code := h.code.trans h'.code
  message := h.message.trans h'.message
  help := h.help.trans h'.help
  labels := h.labels.trans h'.labels

/-- Of a violation without places the same is told, but for the ranges. -/
theorem Violation.alike_erase (violation : Violation) :
    violation.erase.diagnostic.Alike violation.diagnostic := by
  cases violation with
  | unknownCardinality type => exact ⟨rfl, rfl, rfl, rfl, rfl⟩
  | unknownRelationshipOption keyword sides => exact ⟨rfl, rfl, rfl, rfl, rfl⟩
  | refusedOption option cause => cases cause <;> exact ⟨rfl, rfl, rfl, rfl, rfl⟩
  | missingValue option => exact ⟨rfl, rfl, rfl, rfl, rfl⟩

/-- Violations that are equal without their places are told alike. -/
theorem Violation.alike_of_erase_eq {v w : Violation} (h : v.erase = w.erase) :
    v.diagnostic.Alike w.diagnostic := by
  have hw := w.alike_erase
  rw [← h] at hw
  exact v.alike_erase.symm.trans hw

namespace Declared

/-- What stands against erased declarations is what stands against the declarations, erased. -/
theorem findSome?_map_erase {α : Type} {erase : α → α} {erased? objection? : α → Option Violation}
    (h : ∀ a, erased? (erase a) = (objection? a).map Violation.erase) (declarations : List α) :
    (declarations.map erase).findSome? erased? =
      (declarations.findSome? objection?).map Violation.erase := by
  induction declarations with
  | nil => rfl
  | cons a rest ih =>
      rw [List.map_cons, List.findSome?_cons, List.findSome?_cons, h a, ih]
      cases objection? a with
      | none => rfl
      | some violation => rfl

/-! ## Relationships -/

/-- A keyword is refused for its text. The violation also covers the names of both sides, and this
cover is erased with them. -/
theorem Body.objection?_erase (body : Body) :
    body.erase.objection? = body.objection?.map Violation.erase := by
  -- the names of both sides lose their places too, so their cover is the range of no place
  have hkeyword : ∀ keyword : Token, keywordObjection? ⟨0, 0⟩ keyword.erase =
      (keywordObjection? body.sides keyword).map Violation.erase := by
    intro keyword
    rw [keywordObjection?, keywordObjection?, Token.image_erase]
    split
    · rfl
    · rfl
  exact findSome?_map_erase hkeyword body.options

/-- A body means the same relationship, with one annotation for each of its keywords. -/
theorem Body.relationship_erase (cardinality : Cardinality) (body : Body) :
    body.erase.relationship cardinality = body.relationship cardinality := by
  have hkeywords : (body.options.map Token.erase).map
      (fun _ => DomainModel.Annotation.flag derivedIdentifier) =
        body.options.map fun _ => .flag derivedIdentifier := by
    apply map_erase
    intro keyword
    rfl
  rw [relationship, erase, Side.toModel_erase, Side.toModel_erase, modelAnnotations_map_erase,
    hkeywords, relationship]

/-- The type of a block is looked up by its text, and its bodies are looked at when it is known. -/
theorem RelationshipBlock.objection?_erase (block : RelationshipBlock) :
    block.erase.objection? = block.objection?.map Violation.erase := by
  have hbodies := findSome?_map_erase Body.objection?_erase block.bodies
  rw [objection?, objection?, erase, Token.image_erase]
  cases Cardinality.ofName? block.type.image with
  | none => rfl
  | some cardinality => exact hbodies

/-- A block of a known type means the same relationships, one for each body. -/
theorem RelationshipBlock.relationships_erase (block : RelationshipBlock) :
    block.erase.relationships = block.relationships := by
  rw [relationships, relationships, erase, Token.image_erase]
  cases Cardinality.ofName? block.type.image with
  | none => rfl
  | some cardinality => exact map_erase (Body.relationship_erase cardinality) block.bodies

/-! ## Options -/

/-- An erased name is looked up like the name, and refused in the same words. -/
theorem atOption_erase (option : Token) (result : Except OptionError OptionFamily) :
    atOption option.erase result = (atOption option result).mapError Violation.erase := by
  cases result <;> rfl

/-- A cause that an option is refused for says nothing of places. -/
theorem map_refusedOption_erase (option : Token) (cause : Option OptionError) :
    cause.map (.refusedOption option.erase) =
      (cause.map (.refusedOption option)).map Violation.erase := by
  cases cause <;> rfl

namespace FlagOption

theorem family_erase (declared : FlagOption) :
    declared.erase.family = declared.family.mapError Violation.erase := by
  rw [family, family, erase, Token.image_erase, atOption_erase]

theorem entry_erase (declared : FlagOption) : declared.erase.entry = declared.entry := by
  rw [entry, erase, Filter.resolve_erase, excludedNames_erase, entry]

/-- A flag is refused for its name, whatever it selects. -/
theorem objection?_erase (declared : FlagOption) :
    declared.erase.objection? = declared.objection?.map Violation.erase := by
  rw [objection?, objection?, family_erase]
  cases declared.family with
  | error violation => rfl
  | ok family => exact map_refusedOption_erase declared.option (family.objectionTo .flag)

/-- A flag that is not refused enters the same entry at the same family. -/
theorem enter_erase (table : OptionTable) (declared : FlagOption) :
    enter table declared.erase = enter table declared := by
  rw [enter, enter, family_erase, entry_erase]
  cases declared.family with
  | error violation => rfl
  | ok family => rfl

end FlagOption

namespace ValueOption

theorem family_erase (declared : ValueOption) :
    declared.erase.family = declared.family.mapError Violation.erase := by
  rw [family, family, erase, Token.image_erase, atOption_erase]

/-- What a value-bearing declaration contributes is its entry under its value, both made of texts.
-/
theorem contribution?_erase (declared : ValueOption) :
    declared.erase.contribution? = declared.contribution? := by
  have hentry : declared.erase.entry = declared.entry := by
    funext names
    rw [entry, erase, excludedNames_erase, entry]
  have hselection : declared.erase.selector.resolve? = declared.selector.resolve? :=
    declared.selector.resolve?_erase
  rw [contribution?, hselection, hentry, contribution?]

/-- A value-bearing declaration is refused for its name, or because its selector is empty, and no
token is lost. -/
theorem objection?_erase (declared : ValueOption) :
    declared.erase.objection? = declared.objection?.map Violation.erase := by
  have hselection : declared.erase.selector.resolve? = declared.selector.resolve? :=
    declared.selector.resolve?_erase
  rw [objection?, objection?, family_erase, hselection]
  cases declared.family with
  | error violation => rfl
  | ok family =>
      cases declared.selector.resolve? with
      | none => rfl
      | some selection => exact map_refusedOption_erase declared.option (family.objectionTo .single)

theorem enter_erase (table : OptionTable) (declared : ValueOption) :
    enter table declared.erase = enter table declared := by
  rw [enter, enter, family_erase, contribution?_erase]
  cases declared.family with
  | error violation => rfl
  | ok family => rfl

end ValueOption

/-- The first objection to a list of options is met at the same declaration. -/
theorem optionObjection?_map_erase (flags : List FlagOption) (valued : List ValueOption) :
    optionObjection? (flags.map FlagOption.erase) (valued.map ValueOption.erase) =
      (optionObjection? flags valued).map Violation.erase := by
  rw [optionObjection?, findSome?_map_erase FlagOption.objection?_erase,
    findSome?_map_erase ValueOption.objection?_erase, ← Option.map_or, optionObjection?]

/-- The same declarations are entered in the same order, so the tables are equal. -/
theorem enterOptions_map_erase (table : OptionTable) (flags : List FlagOption)
    (valued : List ValueOption) :
    enterOptions table (flags.map FlagOption.erase) (valued.map ValueOption.erase) =
      enterOptions table flags valued := by
  rw [enterOptions, foldl_map_erase FlagOption.enter_erase,
    foldl_map_erase ValueOption.enter_erase, enterOptions]

/-! ## Programs -/

namespace Program

/-- What stands against a program without places is what stands against the program, erased. -/
theorem objection?_erase (program : Program) :
    program.erase.objection? = program.objection?.map Violation.erase := by
  rw [objection?, erase, findSome?_map_erase RelationshipBlock.objection?_erase,
    optionObjection?_map_erase, ← Option.map_or, objection?]

/-- The document of a program is the same without places, kind of declaration by kind.
-/
theorem document_erase (program : Program) : program.erase.document = program.document := by
  have hrelationships : (program.relationships.map RelationshipBlock.erase).flatMap
      RelationshipBlock.relationships =
        program.relationships.flatMap RelationshipBlock.relationships := by
    rw [List.flatMap_def, map_erase RelationshipBlock.relationships_erase, List.flatMap_def]
  have hconstants : constantsOf (program.constants.map Constant.erase) =
      constantsOf program.constants := by
    rw [constantsOf, constantPairs_erase, constantsOf]
  rw [document, erase, map_erase Application.toModel_erase, map_erase Deployment.toModel_erase,
    hconstants, map_erase Entity.toModel_erase, map_erase Dataset.toModel_erase,
    map_erase Page.toModel_erase, map_erase JsonConfig.toModel_erase, hrelationships,
    map_erase Enum.toModel_erase, enterOptions_map_erase, document]

end Program

/-- Two programs that differ in places and in the texts of markers only have the same document, or
both have none and are told the same but for the ranges of the labels. -/
theorem outcome_build_of_erase_eq {p q : Program} (h : p.erase = q.erase) :
    (∃ document, p.build.outcome = .ok document ∧ q.build.outcome = .ok document) ∨
    ∃ v w : Violation, p.build.outcome = .error v ∧ q.build.outcome = .error w ∧
      v.diagnostic.Alike w.diagnostic := by
  have hobjection : p.objection?.map Violation.erase = q.objection?.map Violation.erase := by
    rw [← p.objection?_erase, ← q.objection?_erase, h]
  have hdocument : p.document = q.document := by
    rw [← p.document_erase, ← q.document_erase, h]
  cases hp : p.objection? with
  | none =>
      rw [hp] at hobjection
      have hq : q.objection? = none := Option.map_eq_none_iff.1 hobjection.symm
      left
      exact ⟨p.document, Program.outcome_build_eq_ok_iff.2 ⟨hp, rfl⟩,
        Program.outcome_build_eq_ok_iff.2 ⟨hq, hdocument.symm⟩⟩
  | some v =>
      rw [hp] at hobjection
      obtain ⟨w, hq, hw⟩ := Option.map_eq_some_iff.1 hobjection.symm
      right
      exact ⟨v, w, Program.outcome_build_eq_error_iff.2 hp,
        Program.outcome_build_eq_error_iff.2 hq, Violation.alike_of_erase_eq hw.symm⟩

/-- A program with a misspelt option for every entity, at some offset and with some star. -/
def misspeltProgram (offset : Nat) (star : String) : Program :=
  { Program.empty with
    flags := [
      ⟨⟨"readonly", ⟨offset, offset + 8⟩⟩, ⟨[], some ⟨star, ⟨offset + 9, offset + 10⟩⟩⟩, none⟩] }

/-- Further down and with another star the same is told, at other ranges. -/
theorem outcome_build_of_erase_eq_misspelt :
    (misspeltProgram 0 "*").erase = (misspeltProgram 100 "ALL").erase ∧
    ∃ v w : Violation, (misspeltProgram 0 "*").build.outcome = .error v ∧
      (misspeltProgram 100 "ALL").build.outcome = .error w ∧
      v.diagnostic.Alike w.diagnostic ∧ v.diagnostic.labels ≠ w.diagnostic.labels := by
  have herase : (misspeltProgram 0 "*").erase = (misspeltProgram 100 "ALL").erase := rfl
  have hfirst : (misspeltProgram 0 "*").build.outcome = .error _ :=
    (misspeltProgram 0 "*").outcome_build
  have hsecond : (misspeltProgram 100 "ALL").build.outcome = .error _ :=
    (misspeltProgram 100 "ALL").outcome_build
  refine ⟨herase, ?_⟩
  rcases outcome_build_of_erase_eq herase with ⟨document, hok, -⟩ | ⟨v, w, hv, hw, halike⟩
  · rw [hfirst] at hok
    cases hok
  · refine ⟨v, w, hv, hw, halike, ?_⟩
    rw [hfirst] at hv
    rw [hsecond] at hw
    cases hv
    cases hw
    decide

end Declared

end DomainModel
