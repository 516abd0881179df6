import DomainModel.Model.Config
import DomainModel.Model.Entity
import DomainModel.Model.Page
import DomainModel.Model.Relationship
import DomainModel.Options.Table

/-!
# Documents

A document is the model of one program: everything it declares, relationships flattened, options
merged into one table. Documents are also put together by hand, piece by piece.

## What this module delivers

- `Document`, and `Document.empty` with an empty slot for every option family.
- `insertConstant`, `addDataset`, `addEnum`: adding one declaration.
- `takeOptions`, `setOptions`, `editOptions`: work on the option table outside the document.
- `annotationOptions`: the annotations of all entities, as options on their entities.
-/

set_option autoImplicit false

namespace DomainModel

/-- The model of a program. -/
structure Document where
  /-- Applications. -/
  applications : List Application
  /-- Deployments, each its configuration. -/
  deployments : List Config
  /-- Constants with the text of their numbers. -/
  constants : OrderedMap String String
  /-- Entities. -/
  entities : List Entity
  /-- Datasets. -/
  datasets : List Dataset
  /-- Pages. -/
  pages : List Page
  /-- JSON configurations. -/
  jsonConfigs : List JsonConfig
  /-- Relationships, one for each declared body. -/
  relationships : List Relationship
  /-- Enumerations. -/
  enums : List Enum
  /-- The merged options. -/
  options : OptionTable

namespace Document

/-- The document of a program that declares nothing. -/
def empty : Document := ⟨[], [], .empty, [], [], [], [], [], [], .empty⟩

/-- Adds a constant; a name that is there keeps its place and takes the new number. -/
def insertConstant (document : Document) (name value : String) : Document :=
  { document with constants := document.constants.insert name value }

/-- Adds a dataset after the others. -/
def addDataset (document : Document) (dataset : Dataset) : Document :=
  { document with datasets := document.datasets ++ [dataset] }

/-- Adds an enumeration after the others. -/
def addEnum (document : Document) (enumeration : Enum) : Document :=
  { document with enums := document.enums ++ [enumeration] }

/-- Puts an option table into the document. -/
def setOptions (document : Document) (table : OptionTable) : Document :=
  { document with options := table }

/-- Takes the option table out and leaves a fresh one. -/
def takeOptions (document : Document) : OptionTable × Document :=
  (document.options, document.setOptions .empty)

/-- Takes the option table out, edits it and puts it back. When the edit fails the table is gone
and the fresh one stays. -/
def editOptions (document : Document) (edit : OptionTable → Except OptionError OptionTable) :
    Except OptionError Unit × Document :=
  let (table, rest) := document.takeOptions
  match edit table with
  | .ok edited => (.ok (), rest.setOptions edited)
  | .error error => (.error error, rest)

/-- The annotations of every entity as options on that entity, in order. -/
def annotationOptions (document : Document) : List AppliedOption :=
  document.entities.flatMap fun entity =>
    entity.annotations.map fun a => .onEntity a entity.name

end Document

end DomainModel
