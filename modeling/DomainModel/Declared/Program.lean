import DomainModel.Declared.Config
import DomainModel.Declared.Options
import DomainModel.Declared.Page
import DomainModel.Declared.Relationship

/-!
# Programs

A program is everything that one source declares, sorted by kind; within a kind the written order
is kept.

## What this module delivers

- `Program`: the eleven kinds of declaration.
- `Program.empty`, `Program.append`: the program that declares nothing, and two programs in one,
  kind by kind.
-/

set_option autoImplicit false

namespace DomainModel.Declared

/-- The declarations of a source, by kind. -/
structure Program where
  /-- Named numbers. -/
  constants : List Constant
  /-- Applications. -/
  applications : List Application
  /-- Deployments. -/
  deployments : List Deployment
  /-- Entities. -/
  entities : List Entity
  /-- Datasets. -/
  datasets : List Dataset
  /-- Pages. -/
  pages : List Page
  /-- JSON configurations. -/
  jsonConfigs : List JsonConfig
  /-- Blocks of relationships. -/
  relationships : List RelationshipBlock
  /-- Enumerations. -/
  enums : List Enum
  /-- Flag options. -/
  flags : List FlagOption
  /-- Value-bearing options. -/
  valued : List ValueOption

namespace Program

/-- The program that declares nothing. -/
def empty : Program := ⟨[], [], [], [], [], [], [], [], [], [], []⟩

/-- Two programs in one: in every kind the declarations of the first, then those of the second. -/
def append (p q : Program) : Program where
  constants := p.constants ++ q.constants
  applications := p.applications ++ q.applications
  deployments := p.deployments ++ q.deployments
  entities := p.entities ++ q.entities
  datasets := p.datasets ++ q.datasets
  pages := p.pages ++ q.pages
  jsonConfigs := p.jsonConfigs ++ q.jsonConfigs
  relationships := p.relationships ++ q.relationships
  enums := p.enums ++ q.enums
  flags := p.flags ++ q.flags
  valued := p.valued ++ q.valued

instance : Append Program := ⟨append⟩

end Program

end DomainModel.Declared
