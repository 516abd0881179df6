import DomainModel.Declared.Selector
import DomainModel.Model.Config
import DomainModel.Text.Markers

/-!
# Declared applications, deployments and payloads

Configurations are declared key by key. A deployment takes the keys as they come. An application
in addition derives the package folder from the first package name that has a text, unless a
folder is there already; of several config clauses, and of several entities clauses, the last one
counts.

## What this module delivers

- `ConfigValue`, `ConfigEntry`, and `Deployment.toModel`: the plain configuration.
- `packageFolder?`, `applicationStep`, `applicationConfig`: the configuration with a folder.
- `EntitiesClause`, `Application`, `Dataset`, `JsonConfig`, each with `toModel`.
-/

set_option autoImplicit false

namespace DomainModel.Declared

open DomainModel.Text (dataBlock delimited)

/-- A declared configuration value. -/
inductive ConfigValue where
  /-- The parts of a dotted name. -/
  | qualified (parts : List Token)
  /-- The names of a list. -/
  | list (names : List Token)
  /-- An integer. -/
  | integer (digits : Token)
  /-- A quoted text. -/
  | string (quoted : Token)
  /-- A truth value. -/
  | boolean (word : Token)

/-- The value that a declaration means. -/
def ConfigValue.toModel : ConfigValue → DomainModel.ConfigValue
  | .qualified parts => .qualified (Token.dotted parts)
  | .list names => .list (Token.images names)
  | .integer digits => .integer digits.image
  | .string quoted => .string (delimited quoted.image)
  | .boolean word => .boolean (word.image == "true")

/-- One key of a configuration with its value. -/
structure ConfigEntry where
  /-- The key. -/
  key : Token
  /-- The value. -/
  value : ConfigValue

/-! ## Configurations -/

/-- The configuration that a list of entries means, entry by entry. -/
def plainConfig (entries : List ConfigEntry) : Config :=
  entries.foldl (fun config entry => config.insert entry.key.image entry.value.toModel) .empty

/-- The key that names the package of an application. -/
def packageNameKey : String := "packageName"

/-- The key that names the folder of that package. -/
def packageFolderKey : String := "packageFolder"

/-- The folder of a package: the dots of its name read as slashes. -/
def folderOfPackage (name : String) : String := name.map fun c => if c = '.' then '/' else c

/-- The folder to derive when `value` is written at `key`: one that a package name with a text
gives to a configuration without a folder. -/
def packageFolder? (config : Config) (key : String) (value : DomainModel.ConfigValue) :
    Option String :=
  if key == packageNameKey && !config.contains packageFolderKey then
    value.text?.map folderOfPackage
  else none

/-- Writes one entry into the configuration of an application, and the derived folder after it. -/
def applicationStep (config : Config) (entry : ConfigEntry) : Config :=
  let key := entry.key.image
  let value := entry.value.toModel
  let written := config.insert key value
  match packageFolder? config key value with
  | some folder => written.insert packageFolderKey (.string folder)
  | none => written

/-- The configuration that a list of entries means for an application. -/
def applicationConfig (entries : List ConfigEntry) : Config :=
  entries.foldl applicationStep .empty

/-! ## Applications and deployments -/

/-- A clause that selects the entities of an application. -/
structure EntitiesClause where
  /-- The selector. -/
  filter : Filter
  /-- The names after `except`, if there are any. -/
  exclusion : Option (List Token)

/-- The selection that a clause means. -/
def EntitiesClause.toModel (clause : EntitiesClause) : EntitySelection :=
  ⟨clause.filter.resolve, Names.distinct (excludedNames clause.exclusion)⟩

/-- A declared application: its config clauses and its entities clauses. -/
structure Application where
  /-- The config clauses, each a list of entries. -/
  configs : List (List ConfigEntry)
  /-- The entities clauses. -/
  selections : List EntitiesClause

/-- The application that a declaration means: the last clause of each sort, or nothing. -/
def Application.toModel (application : Application) : DomainModel.Application where
  config := (application.configs.getLast?.map applicationConfig).getD .empty
  selection := (application.selections.getLast?.map EntitiesClause.toModel).getD ⟨[], []⟩

/-- A declared deployment: its entries. -/
structure Deployment where
  /-- The entries, in written order. -/
  entries : List ConfigEntry

/-- The configuration that a deployment means. -/
def Deployment.toModel (deployment : Deployment) : Config := plainConfig deployment.entries

/-! ## Payloads -/

/-- A declared dataset. -/
structure Dataset where
  /-- The name. -/
  name : Token
  /-- The data block, markers included. -/
  body : Token

/-- The dataset that a declaration means. -/
def Dataset.toModel (dataset : Dataset) : DomainModel.Dataset :=
  ⟨dataset.name.image, dataBlock dataset.body.image⟩

/-- A declared JSON configuration. -/
structure JsonConfig where
  /-- The name. -/
  name : Token
  /-- The type. -/
  type : Token
  /-- The subtype. -/
  subtype : Token
  /-- The data block, markers included. -/
  body : Token

/-- The JSON configuration that a declaration means. -/
def JsonConfig.toModel (config : JsonConfig) : DomainModel.JsonConfig :=
  ⟨config.name.image, config.type.image, config.subtype.image, dataBlock config.body.image⟩

end DomainModel.Declared
