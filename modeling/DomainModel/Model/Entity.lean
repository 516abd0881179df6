import DomainModel.Annotations

/-!
# Entities and enumerations

An entity is a named collection of typed fields with a table to keep it in. A field may carry
validations: constraints with a keyword, an argument, and for bounds the remark whether the
argument names a constant. An enumeration is a named list of keys, each with an optional value.

## What this module delivers

- `Validation`, with `key`, `value` and `isConstantReference`.
- `Field`, `Entity`, `EnumValue`, `Enum`.
-/

set_option autoImplicit false

namespace DomainModel

/-- A constraint on a field. -/
inductive Validation where
  | required
  | unique
  /-- A bound by a literal, or by a constant when `constant` is true. -/
  | bound (key value : String) (constant : Bool)
  /-- A pattern that values have to match. -/
  | pattern (regex : String)
  /-- A pattern that makes the field read-only. -/
  | readOnly (regex : String)
  deriving DecidableEq, Repr

namespace Validation

/-- The keyword of a validation. -/
def key : Validation → String
  | .required => "required"
  | .unique => "unique"
  | .bound key _ _ => key
  | .pattern _ => "pattern"
  | .readOnly _ => "readonly"

/-- The argument of a validation, empty when it takes none. -/
def value : Validation → String
  | .required | .unique => ""
  | .bound _ value _ => value
  | .pattern regex | .readOnly regex => regex

/-- Whether the argument names a constant. -/
def isConstantReference : Validation → Bool
  | .bound _ _ constant => constant
  | _ => false

end Validation

/-- A field of an entity. -/
structure Field where
  /-- The name of the field. -/
  name : String
  /-- The name of its type. -/
  type : String
  /-- Its constraints, in declaration order, repetitions kept. -/
  validations : List Validation
  /-- Its documentation, if it has any. -/
  documentation : Option String
  /-- Its annotations. -/
  annotations : List Annotation
  deriving DecidableEq, Repr

/-- An entity. -/
structure Entity where
  /-- The annotations of the entity. -/
  annotations : List Annotation
  /-- The name of the entity. -/
  name : String
  /-- The name of its table. -/
  tableName : String
  /-- Its fields, in declaration order. -/
  fields : List Field
  /-- Its documentation, if it has any. -/
  documentation : Option String
  deriving DecidableEq, Repr

/-- One key of an enumeration. -/
structure EnumValue where
  /-- The key. -/
  key : String
  /-- Its value as written, if it has one. -/
  value : Option String
  deriving DecidableEq, Repr

/-- An enumeration. -/
structure Enum where
  /-- The name of the enumeration. -/
  name : String
  /-- Its keys, in declaration order. -/
  values : List EnumValue
  deriving DecidableEq, Repr

end DomainModel
