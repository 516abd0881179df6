import DomainModel.Build.Document
import DomainModel.Proofs.OptionMerging

/-!
# What a build returns

A build goes through eleven kinds of declaration, and two of them can fail. This module takes the
two apart: what stands against a program (`Program.objection?`) and which document it has when
nothing does (`Program.document`) are defined without a run, and the run is their verdict
(`Program.outcome_build`). All that is proved about the outcome of builds goes through this one
equation.

## What this module delivers

- `keywordObjection?`, and `objection?` for `Body`, `RelationshipBlock` and `Program`: what stands
  against each, first thing first.
- `Body.relationship`, `RelationshipBlock.relationships`, `Program.document`: what each means when
  nothing stands against it.
- `outcome_relationshipsOf`: the relationships of all blocks, or the first objection.
- `Program.outcome_build`: the document of a program, or the first objection.
-/

set_option autoImplicit false

namespace DomainModel.Declared

/-! ## Relationships -/

/-- What stands against an option keyword of a relationship whose names have this cover. -/
def keywordObjection? (sides : Span) (keyword : Token) : Option Violation :=
  if keyword.image = derivedIdentifier then none
  else some (.unknownRelationshipOption keyword sides)

theorem relationshipOption_eq_verdict (sides : Span) (keyword : Token) :
    relationshipOption sides keyword =
      verdict (keywordObjection? sides keyword) (.flag derivedIdentifier) := by
  rw [relationshipOption, keywordObjection?]
  split <;> rfl

/-- What stands against a relationship: the first keyword that it does not accept. -/
def Body.objection? (body : Body) : Option Violation :=
  body.options.findSome? (keywordObjection? body.sides)

/-- The relationship that a body means under a cardinality, every keyword read as the one that is
accepted. -/
def Body.relationship (cardinality : Cardinality) (body : Body) : Relationship :=
  ⟨cardinality, body.source.toModel, body.target.toModel,
    modelAnnotations body.annotations ++ body.options.map fun _ => .flag derivedIdentifier⟩

theorem Body.toModel_eq_verdict (cardinality : Cardinality) (body : Body) :
    body.toModel cardinality = verdict body.objection? (body.relationship cardinality) := by
  rw [Body.toModel, mapM_verdict (relationshipOption_eq_verdict body.sides), objection?]
  exact bind_verdict_ok rfl

/-- What stands against a block: its type, or else the first of its bodies that something stands
against. -/
def RelationshipBlock.objection? (block : RelationshipBlock) : Option Violation :=
  match Cardinality.ofName? block.type.image with
  | some _ => block.bodies.findSome? Body.objection?
  | none => some (.unknownCardinality block.type)

/-- The relationships that a block means; without a cardinality there are none. -/
def RelationshipBlock.relationships (block : RelationshipBlock) : List Relationship :=
  match Cardinality.ofName? block.type.image with
  | some cardinality => block.bodies.map (Body.relationship cardinality)
  | none => []

theorem RelationshipBlock.toModel_eq_verdict (block : RelationshipBlock) :
    block.toModel = verdict block.objection? block.relationships := by
  rw [RelationshipBlock.toModel, blockCardinality, objection?, relationships]
  cases Cardinality.ofName? block.type.image with
  | none => rfl
  | some cardinality => exact mapM_verdict (Body.toModel_eq_verdict cardinality) block.bodies

/-- Reading all blocks: the first objection, or else their relationships block by block. -/
theorem outcome_relationshipsOf (blocks : List RelationshipBlock) :
    (relationshipsOf blocks).outcome =
      verdict (blocks.findSome? RelationshipBlock.objection?)
        (blocks.flatMap RelationshipBlock.relationships) := by
  have hblock : ∀ block : RelationshipBlock,
      block.enter.outcome = verdict block.objection? block.relationships :=
    RelationshipBlock.toModel_eq_verdict
  rw [relationshipsOf, Traced.outcome_bind, Traced.outcome_mapM, mapM_verdict hblock,
    List.flatMap_def]
  exact bind_verdict_ok rfl

/-! ## Programs -/

namespace Program

/-- What stands against a program: relationship blocks come first, then flag options, then
value-bearing options. -/
def objection? (program : Program) : Option Violation :=
  (program.relationships.findSome? RelationshipBlock.objection?).or
    (optionObjection? program.flags program.valued)

/-- The document that a program means when nothing stands against it. -/
def document (program : Program) : Document where
  applications := program.applications.map Application.toModel
  deployments := program.deployments.map Deployment.toModel
  constants := constantsOf program.constants
  entities := program.entities.map Entity.toModel
  datasets := program.datasets.map Dataset.toModel
  pages := program.pages.map Page.toModel
  jsonConfigs := program.jsonConfigs.map JsonConfig.toModel
  relationships := program.relationships.flatMap RelationshipBlock.relationships
  enums := program.enums.map Enum.toModel
  options := enterOptions .empty program.flags program.valued

/-- A build returns the first objection, or else the document. -/
theorem outcome_build (program : Program) :
    program.build.outcome = verdict program.objection? program.document := by
  have hrelationships := outcome_relationshipsOf program.relationships
  have hoptions := outcome_mergeOptions OptionTable.wellShaped_empty program.flags program.valued
  rw [build, objection?]
  -- the events before the relationships leave only their own outcomes behind
  simp only [Traced.outcome_bind, Traced.outcome_emit, enterAll, Traced.outcome_pure,
    hrelationships, hoptions]
  apply bind_verdict
  intro _
  exact bind_verdict_ok rfl

theorem outcome_build_eq_ok_iff {program : Program} {document : Document} :
    program.build.outcome = .ok document ↔
      program.objection? = none ∧ program.document = document := by
  rw [outcome_build, verdict_eq_ok_iff]

theorem outcome_build_eq_error_iff {program : Program} {violation : Violation} :
    program.build.outcome = .error violation ↔ program.objection? = some violation := by
  rw [outcome_build, verdict_eq_error_iff]

end Program

end DomainModel.Declared
