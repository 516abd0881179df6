import DomainModel.Declared.Program
import DomainModel.Model.Document

/-!
# From a program to its document

The declarations of a program are entered into the document kind by kind. Most of them always have
a model. Relationship blocks and option declarations may be wrong, and the first one that is ends
the build with its violation. What happens is told as events: each kind when it is reached, and
each constant, entity, page, relationship block and option as it is entered.

## What this module delivers

- `constantsOf`: the constants of a program as an ordered map.
- `enterAll`: going through a list of declarations, each with an event before it.
- `relationshipsOf`: the relationships of all blocks, block by block.
- `Program.build`: the document of a program, or its first violation.
-/

set_option autoImplicit false

namespace DomainModel.Declared

/-- The constants in order; of a repeated name the last number counts. -/
def constantsOf (constants : List Constant) : OrderedMap String String :=
  .ofList (constants.map fun constant => (constant.name.image, constant.value.token.image))

/-- Tells of every declaration of a list, in order. -/
def enterAll {ε α : Type} (event : α → Event) (declarations : List α) : Traced ε Unit :=
  ⟨declarations.map event, .ok ()⟩

/-- The event of a relationship block that is about to be read. -/
def RelationshipBlock.event (block : RelationshipBlock) : Event :=
  .relationship block.type.image block.bodies.length

/-- Reads one relationship block. The event comes first, so that the block that is wrong is the
last one told of. -/
def RelationshipBlock.enter (block : RelationshipBlock) :
    Traced Violation (List Relationship) := do
  .emit block.event
  .ofExcept block.toModel

/-- The relationships of all blocks, in order. -/
def relationshipsOf (blocks : List RelationshipBlock) : Traced Violation (List Relationship) := do
  let relationships ← blocks.mapM RelationshipBlock.enter
  return relationships.flatten

/-- The document of a program, or its first violation. -/
def Program.build (program : Program) : Traced Violation Document := do
  .emit (.building program.entities.length program.relationships.length program.pages.length)
  .emit (.constants program.constants.length)
  enterAll (fun constant => .constant constant.name.image) program.constants
  .emit (.applications program.applications.length program.deployments.length)
  .emit (.entities program.entities.length)
  enterAll (fun entity => .entity entity.name.image) program.entities
  .emit (.payloads program.datasets.length program.jsonConfigs.length)
  .emit (.pages program.pages.length)
  enterAll (fun page => .page page.name.image page.entity.image) program.pages
  -- of all kinds of declaration, only the blocks here and the options below can fail
  .emit (.relationships program.relationships.length)
  let relationships ← relationshipsOf program.relationships
  .emit (.enums program.enums.length)
  .emit (.options program.flags.length program.valued.length)
  let options ← mergeOptions .empty program.flags program.valued
  .emit .built
  return {
    applications := program.applications.map Application.toModel
    deployments := program.deployments.map Deployment.toModel
    constants := constantsOf program.constants
    entities := program.entities.map Entity.toModel
    datasets := program.datasets.map Dataset.toModel
    pages := program.pages.map Page.toModel
    jsonConfigs := program.jsonConfigs.map JsonConfig.toModel
    relationships := relationships
    enums := program.enums.map Enum.toModel
    options := options }

end DomainModel.Declared
