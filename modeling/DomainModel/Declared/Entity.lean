import DomainModel.Declared.Annotations
import DomainModel.Model.Entity

/-!
# Declared constants, entities and enumerations

The declarations of constants, entities with their fields, and enumerations, and the model each of
them means. Numbers are kept as written.

## What this module delivers

- `Numeral`, `Constant`: numbers and the constants that name them.
- `BoundArgument`, `Validation`, `Field`, `Entity`: entity declarations, each with `toModel`.
- `EnumValue`, `Enum`: enumeration declarations, each with `toModel`.
-/

set_option autoImplicit false

namespace DomainModel.Declared

open DomainModel.Text (comment delimited)

/-- A number, as written. -/
inductive Numeral where
  | integer (digits : Token)
  | decimal (digits : Token)

/-- The token of a number. -/
def Numeral.token : Numeral → Token
  | .integer digits | .decimal digits => digits

/-- A named number. -/
structure Constant where
  /-- The name. -/
  name : Token
  /-- The number. -/
  value : Numeral

/-- The argument of a bound. -/
inductive BoundArgument where
  /-- A number. -/
  | literal (value : Numeral)
  /-- The name of a constant. -/
  | constant (name : Token)

/-- A declared constraint on a field. -/
inductive Validation where
  | required (keyword : Token)
  | unique (keyword : Token)
  | bound (keyword : Token) (argument : BoundArgument)
  | pattern (regex : Token)
  | readOnly (regex : Token)

/-- The constraint that a declaration means; patterns lose their delimiters. -/
def Validation.toModel : Validation → DomainModel.Validation
  | .required _ => .required
  | .unique _ => .unique
  | .bound keyword (.literal value) => .bound keyword.image value.token.image false
  | .bound keyword (.constant name) => .bound keyword.image name.image true
  | .pattern regex => .pattern (delimited regex.image)
  | .readOnly regex => .readOnly (delimited regex.image)

/-- The documentation that an optional comment means. -/
def documentation (written : Option Token) : Option String :=
  written.map fun token => comment token.image

/-- A declared field. -/
structure Field where
  /-- The annotations before the field. -/
  annotations : List Annotation
  /-- The comment before the field. -/
  comment : Option Token
  /-- The name. -/
  name : Token
  /-- The name of the type. -/
  type : Token
  /-- The constraints. -/
  validations : List Validation

/-- The field that a declaration means. -/
def Field.toModel (field : Field) : DomainModel.Field where
  name := field.name.image
  type := field.type.image
  validations := field.validations.map Validation.toModel
  documentation := documentation field.comment
  annotations := modelAnnotations field.annotations

/-- A declared entity. -/
structure Entity where
  /-- The annotations before the entity. -/
  annotations : List Annotation
  /-- The comment before the entity. -/
  comment : Option Token
  /-- The name. -/
  name : Token
  /-- The name of the table, if one is given. -/
  tableName : Option Token
  /-- The fields. -/
  fields : List Field

/-- The entity that a declaration means; without a table name the table is named like the
entity. -/
def Entity.toModel (entity : Entity) : DomainModel.Entity where
  annotations := modelAnnotations entity.annotations
  name := entity.name.image
  tableName := (entity.tableName.getD entity.name).image
  fields := entity.fields.map Field.toModel
  documentation := documentation entity.comment

/-- A declared key of an enumeration. -/
structure EnumValue where
  /-- The key. -/
  key : Token
  /-- The value, if one is given. -/
  value : Option Token

/-- The key that a declaration means. -/
def EnumValue.toModel (declared : EnumValue) : DomainModel.EnumValue :=
  ⟨declared.key.image, declared.value.map Token.image⟩

/-- A declared enumeration. -/
structure Enum where
  /-- The name. -/
  name : Token
  /-- The keys. -/
  values : List EnumValue

/-- The enumeration that a declaration means. -/
def Enum.toModel (declared : Enum) : DomainModel.Enum :=
  ⟨declared.name.image, declared.values.map EnumValue.toModel⟩

end DomainModel.Declared
