import DomainModel.Annotations

/-!
# Page trees

A page shows an entity. It nests in three layers: a page holds tabs and blocks, a tab holds blocks,
a block is an item or a grid, and an item is a reference to a field or a group of items. A grid
holds references to fields and sets of operations. Children keep their order in every layer.

## What this module delivers

- `FieldReference`, `OperationValue`, `Operation`, `OperationGroup`, `OperationSet`: the leaves.
- `GridCell`, `Grid`, `Item`, `Block`, `Tab`, `Section`, `Page`: the layers.
- `Item.induction`: induction on the nesting of groups.
-/

set_option autoImplicit false

namespace DomainModel

/-- A reference to a field of the entity, possibly through relationships. -/
structure FieldReference where
  /-- The dotted path to the field. -/
  name : String
  /-- The annotations of the reference. -/
  annotations : List Annotation
  deriving DecidableEq, Repr

/-- What an operation works with. -/
inductive OperationValue where
  /-- A data block, without its markers. -/
  | block (payload : String)
  /-- An identifier. -/
  | identifier (name : String)
  /-- A text, quotes included. -/
  | text (quoted : String)
  deriving DecidableEq, Repr

/-- The text of an operation value, whatever its kind. -/
def OperationValue.content : OperationValue → String
  | .block content | .identifier content | .text content => content

/-- One operation. -/
structure Operation where
  /-- The key of the operation. -/
  key : String
  /-- What it works with, if anything. -/
  value : Option OperationValue
  deriving DecidableEq, Repr

/-- Operations under one name. -/
structure OperationGroup where
  /-- The name. -/
  key : String
  /-- The annotations of the group. -/
  annotations : List Annotation
  /-- The operations, in declaration order. -/
  operations : List Operation
  deriving DecidableEq, Repr

/-- The operations of a grid. -/
structure OperationSet where
  /-- The annotations of the set. -/
  annotations : List Annotation
  /-- The groups of operations, in declaration order. -/
  groups : List OperationGroup
  deriving DecidableEq, Repr

/-- A child of a grid. -/
inductive GridCell where
  | field (reference : FieldReference)
  | operations (set : OperationSet)
  deriving DecidableEq, Repr

/-- A grid of cells. -/
structure Grid where
  /-- The name of the grid. -/
  name : String
  /-- The annotations of the grid. -/
  annotations : List Annotation
  /-- The cells, in declaration order. -/
  cells : List GridCell
  deriving DecidableEq, Repr

/-- A child of a group: a reference to a field, or a group again. -/
inductive Item where
  | field (reference : FieldReference)
  | group (name : String) (annotations : List Annotation) (items : List Item)

/-- Induction on items: what holds of a group may be derived from its holding of the items in it. -/
@[elab_as_elim]
theorem Item.induction {motive : Item → Prop}
    (field : ∀ reference, motive (.field reference))
    (group : ∀ name annotations items, (∀ item ∈ items, motive item) →
      motive (.group name annotations items)) : ∀ item, motive item
  | .field reference => field reference
  | .group name annotations items =>
      group name annotations items fun item _ => Item.induction field group item

/-- A child of a tab: anything a group may hold, or a grid. -/
inductive Block where
  | item (item : Item)
  | grid (grid : Grid)

/-- A tab of a page. -/
structure Tab where
  /-- The name of the tab. -/
  name : String
  /-- The annotations of the tab. -/
  annotations : List Annotation
  /-- The children, in declaration order. -/
  blocks : List Block

/-- A child of a page: a tab, or anything a tab may hold. -/
inductive Section where
  | tab (tab : Tab)
  | block (block : Block)

/-- A page. -/
structure Page where
  /-- The name of the page. -/
  name : String
  /-- The entity the page shows. -/
  entity : String
  /-- The annotations of the page. -/
  annotations : List Annotation
  /-- The children, tabs first. -/
  sections : List Section

end DomainModel
