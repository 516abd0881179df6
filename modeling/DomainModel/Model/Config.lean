import DomainModel.OrderedMap

/-!
# Applications, deployments and raw payloads

An application has a configuration and a selection of entities, a deployment is a configuration
alone. A configuration is an ordered map of typed values. Datasets and JSON configurations carry a
payload that is kept as text.

## What this module delivers

- `ConfigValue`, with `text?`, and `Config`.
- `EntitySelection`, `Application`, `Dataset`, `JsonConfig`.
-/

set_option autoImplicit false

namespace DomainModel

/-- A value of a configuration key. -/
inductive ConfigValue where
  /-- A dotted name. -/
  | qualified (name : String)
  /-- A list of names. -/
  | list (names : List String)
  /-- An integer, as written. -/
  | integer (digits : String)
  /-- A text without its quotes. -/
  | string (text : String)
  /-- A truth value. -/
  | boolean (value : Bool)
  deriving DecidableEq, Repr

/-- The text of a value that is one text; lists and truth values have none. -/
def ConfigValue.text? : ConfigValue → Option String
  | .qualified text | .integer text | .string text => some text
  | .list _ | .boolean _ => none

/-- A configuration: a repeated key keeps its first place and has its last value. -/
abbrev Config := OrderedMap String ConfigValue

/-- The entities of an application, and those it leaves out. -/
structure EntitySelection where
  /-- The selected names, or the wildcard alone. -/
  entities : List String
  /-- The names left out. -/
  excluded : List String
  deriving DecidableEq, Repr

/-- An application. -/
structure Application where
  /-- The configuration. -/
  config : Config
  /-- The selected entities. -/
  selection : EntitySelection

/-- A named payload. -/
structure Dataset where
  /-- The name. -/
  name : String
  /-- The payload, without its markers. -/
  payload : String
  deriving DecidableEq, Repr

/-- A named payload with a type and a subtype. -/
structure JsonConfig where
  /-- The name. -/
  name : String
  /-- The type. -/
  type : String
  /-- The subtype. -/
  subtype : String
  /-- The payload, without its markers. -/
  payload : String
  deriving DecidableEq, Repr

end DomainModel
