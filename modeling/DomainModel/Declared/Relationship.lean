import DomainModel.Build.Violation
import DomainModel.Declared.Entity

/-!
# Declared relationships

A block declares any number of relationships under one cardinality. Each body becomes a
relationship of its own. A block fails at the first thing that is wrong in it: its cardinality,
which is looked at even when it has no body, then the option keywords of its bodies in order.

## What this module delivers

- `Parameter`, `Side`, `Body`, `RelationshipBlock`: the declared forms.
- `injectedText`, `parameterAnnotations`: the written form of an injected field and what was
  declared on its parameters.
- `Side.toModel`, `Body.toModel`, `RelationshipBlock.toModel`.
-/

set_option autoImplicit false

namespace DomainModel.Declared

open DomainModel.Text (delimited)

/-- A parameter of an injected field. -/
structure Parameter where
  /-- The parts of its dotted name. -/
  names : List Token
  /-- The annotations before it. -/
  annotations : List Annotation

/-- The dotted name of a parameter. -/
def Parameter.name (parameter : Parameter) : String := Token.dotted parameter.names

/-- A declared end of a relationship. -/
structure Side where
  /-- The comment before the side. -/
  comment : Option Token
  /-- The entity. -/
  name : Token
  /-- The pattern that makes the side read-only. -/
  readOnly : Option Token
  /-- The annotations before the side. -/
  annotations : List Annotation
  /-- The base of the injected field. -/
  injected : Option Token
  /-- The parameters of the injected field. -/
  parameters : List Parameter
  /-- The word `required`. -/
  required : Option Token

/-! ## Injected fields -/

/-- The written form of an injected field: the base, and the dotted names of the parameters in
parentheses when there are any. -/
def injectedText (base : Token) (parameters : List Parameter) : String :=
  if parameters.isEmpty then base.image
  else base.image ++ "(" ++ ",".intercalate (parameters.map Parameter.name) ++ ")"

/-- The annotations of all parameters in order, each with the name of its parameter. -/
def parameterAnnotations (parameters : List Parameter) : List KeyedAnnotation :=
  parameters.flatMap fun parameter =>
    parameter.annotations.map fun a => ⟨parameter.name, a.toModel⟩

/-- The side that a declaration means. Parameters and `required` count only with an injected
field. -/
def Side.toModel (side : Side) : DomainModel.Side where
  name := side.name.image
  injected := side.injected.map fun base =>
    ⟨injectedText base side.parameters, parameterAnnotations side.parameters,
      side.required.isSome⟩
  documentation := documentation side.comment
  annotations := modelAnnotations side.annotations
  readOnly := side.readOnly.map fun regex => delimited regex.image

/-! ## Bodies and blocks -/

/-- A declared relationship. -/
structure Body where
  /-- The annotations before the relationship. -/
  annotations : List Annotation
  /-- The source side. -/
  source : Side
  /-- The target side. -/
  target : Side
  /-- The option keywords after `with`. -/
  options : List Token

/-- The range that covers the names of both sides. -/
def Body.sides (body : Body) : Span := body.source.name.span.union body.target.name.span

/-- The annotation that an option keyword of a relationship means. -/
def relationshipOption (sides : Span) (keyword : Token) :
    Except Violation DomainModel.Annotation :=
  if keyword.image = derivedIdentifier then .ok (.flag derivedIdentifier)
  else .error (.unknownRelationshipOption keyword sides)

/-- The relationship that a body means under a cardinality. -/
def Body.toModel (cardinality : Cardinality) (body : Body) : Except Violation Relationship := do
  let keywords ← body.options.mapM (relationshipOption body.sides)
  return ⟨cardinality, body.source.toModel, body.target.toModel,
    modelAnnotations body.annotations ++ keywords⟩

/-- A block of relationships of one type. -/
structure RelationshipBlock where
  /-- The type, which names the cardinality. -/
  type : Token
  /-- The relationships. -/
  bodies : List Body

/-- The cardinality that the type of a block names. -/
def blockCardinality (type : Token) : Except Violation Cardinality :=
  match Cardinality.ofName? type.image with
  | some cardinality => .ok cardinality
  | none => .error (.unknownCardinality type)

/-- The relationships that a block means, in order. -/
def RelationshipBlock.toModel (block : RelationshipBlock) :
    Except Violation (List Relationship) := do
  let cardinality ← blockCardinality block.type
  block.bodies.mapM (Body.toModel cardinality)

end DomainModel.Declared
