import DomainModel.Annotations

/-!
# Relationships

A relationship joins two sides under a cardinality. A side names an entity; it may inject a field
into it, and only then does it say whether it is required and what was declared on the parameters
of that field.

## What this module delivers

- `Cardinality`, with `name`, `ofName?` and `unknownMessage`.
- `InjectedField`, `Side`, `Relationship`.
-/

set_option autoImplicit false

namespace DomainModel

/-- How many entities stand on either side of a relationship. -/
inductive Cardinality where
  | oneToOne
  | oneToMany
  | manyToOne
  | manyToMany
  deriving DecidableEq, Repr

namespace Cardinality

/-- Every cardinality. -/
def all : List Cardinality := [.oneToOne, .oneToMany, .manyToOne, .manyToMany]

/-- The written name of a cardinality. -/
def name : Cardinality → String
  | .oneToOne => "OneToOne"
  | .oneToMany => "OneToMany"
  | .manyToOne => "ManyToOne"
  | .manyToMany => "ManyToMany"

/-- The cardinality with a written name. -/
def ofName? (name : String) : Option Cardinality := all.find? fun c => c.name == name

/-- The name of a cardinality reads back as that cardinality. -/
@[simp]
theorem ofName?_name (c : Cardinality) : ofName? c.name = some c := by
  cases c <;> rfl

/-- No two cardinalities have the same name. -/
theorem name_injective : Function.Injective name := by
  intro a b h
  have hname : ofName? a.name = ofName? b.name := by rw [h]
  simpa using hname

/-- What is said of a name that is no cardinality. -/
def unknownMessage (name : String) : String := "unknown relationship cardinality `" ++ name ++ "`"

end Cardinality

/-- The field that a side injects into its entity. -/
structure InjectedField where
  /-- The written form of the field: its base, followed by its parameters if there are any. -/
  text : String
  /-- The annotations of the parameters, each with the name of its parameter. -/
  annotations : List KeyedAnnotation
  /-- Whether the side is required. -/
  required : Bool
  deriving DecidableEq, Repr

/-- One end of a relationship. -/
structure Side where
  /-- The entity at this end. -/
  name : String
  /-- The field injected into the entity, if there is one. -/
  injected : Option InjectedField
  /-- The documentation of this end, if it has any. -/
  documentation : Option String
  /-- The annotations of this end. -/
  annotations : List Annotation
  /-- The pattern that makes this end read-only, if there is one. -/
  readOnly : Option String
  deriving DecidableEq, Repr

/-- Two sides joined under a cardinality. -/
structure Relationship where
  /-- The cardinality of the block that declares the relationship. -/
  cardinality : Cardinality
  /-- The source end. -/
  source : Side
  /-- The target end. -/
  target : Side
  /-- The annotations and options of the relationship. -/
  options : List Annotation
  deriving DecidableEq, Repr

end DomainModel
