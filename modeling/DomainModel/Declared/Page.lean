import DomainModel.Declared.Annotations
import DomainModel.Model.Page

/-!
# Declared pages

Pages are declared in runs: a page has runs of tabs and runs of elements, a tab has runs of
elements, a group has runs of groups and runs of field references. A run is only a matter of
writing, so children come from the concatenated runs: the tabs of a page before its other elements,
the groups of a group before its field references.

## What this module delivers

- `FieldReference`, `Operation`, `OperationGroup`, `OperationSet`, `Cell`, `Grid`, `Group`,
  `Element`, `Tab`, `Page`: the declared forms.
- `toModel` for each of them, `toItem` and `toBlock` for those that become a child.
- `Group.induction`: induction on the nesting of groups, runs left out.
- `itemsOfRuns_eq`, `Group.toItem_eq`: the children from runs are those of the concatenated runs.
-/

set_option autoImplicit false

namespace DomainModel.Declared

open DomainModel.Text (dataBlock)

/-! ## Leaves -/

/-- A declared reference to a field. -/
structure FieldReference where
  /-- The annotations before the reference. -/
  annotations : List Annotation
  /-- The parts of the path. -/
  names : List Token

/-- The reference that a declaration means. -/
def FieldReference.toModel (reference : FieldReference) : DomainModel.FieldReference :=
  ⟨Token.dotted reference.names, modelAnnotations reference.annotations⟩

/-- A declared operation. -/
structure Operation where
  /-- The key. -/
  key : Token
  /-- An identifier to work with. -/
  identifier : Option Token
  /-- A data block to work with. -/
  dataBlock : Option Token
  /-- A quoted text to work with. -/
  text : Option Token

/-- The value of an operation: its data block unless that is empty, else its identifier, else its
text. -/
def Operation.value? (operation : Operation) : Option OperationValue :=
  let block := (operation.dataBlock.filter fun token => token.image != "").map fun token =>
    OperationValue.block (Text.dataBlock token.image)
  let identifier := operation.identifier.map fun token => OperationValue.identifier token.image
  let text := operation.text.map fun token => OperationValue.text token.image
  block <|> identifier <|> text

/-- The operation that a declaration means. -/
def Operation.toModel (operation : Operation) : DomainModel.Operation :=
  ⟨operation.key.image, operation.value?⟩

/-- Declared operations under one name. -/
structure OperationGroup where
  /-- The annotations before the group. -/
  annotations : List Annotation
  /-- The name. -/
  name : Token
  /-- The operations. -/
  operations : List Operation

/-- The group of operations that a declaration means. -/
def OperationGroup.toModel (group : OperationGroup) : DomainModel.OperationGroup :=
  ⟨group.name.image, modelAnnotations group.annotations, group.operations.map Operation.toModel⟩

/-- The declared operations of a grid. -/
structure OperationSet where
  /-- The annotations before the set. -/
  annotations : List Annotation
  /-- The groups of operations. -/
  groups : List OperationGroup

/-- The set of operations that a declaration means. -/
def OperationSet.toModel (set : OperationSet) : DomainModel.OperationSet :=
  ⟨modelAnnotations set.annotations, set.groups.map OperationGroup.toModel⟩

/-! ## Grids -/

/-- A declared child of a grid. -/
inductive Cell where
  | field (reference : FieldReference)
  | operations (set : OperationSet)

/-- The cell that a declaration means. -/
def Cell.toModel : Cell → GridCell
  | .field reference => .field reference.toModel
  | .operations set => .operations set.toModel

/-- A declared grid. -/
structure Grid where
  /-- The annotations before the grid. -/
  annotations : List Annotation
  /-- The name. -/
  name : Token
  /-- The cells. -/
  cells : List Cell

/-- The grid that a declaration means. -/
def Grid.toModel (grid : Grid) : DomainModel.Grid :=
  ⟨grid.name.image, modelAnnotations grid.annotations, grid.cells.map Cell.toModel⟩

/-! ## Groups

A group nests runs of groups. The recursion follows the nesting: a group, the groups of one run,
the runs of one group. -/

/-- A declared group. -/
structure Group where
  /-- The annotations before the group. -/
  annotations : List Annotation
  /-- The name. -/
  name : Token
  /-- The runs of nested groups. -/
  groups : List (List Group)
  /-- The runs of field references. -/
  fields : List (List FieldReference)

/-- Induction on groups: what holds of a group may be derived from its holding of the groups in its
runs. -/
@[elab_as_elim]
theorem Group.induction {motive : Group → Prop}
    (group : ∀ annotations name groups fields, (∀ nested ∈ groups.flatten, motive nested) →
      motive ⟨annotations, name, groups, fields⟩) : ∀ declared, motive declared
  | ⟨annotations, name, groups, fields⟩ =>
      group annotations name groups fields fun nested hnested =>
        have ⟨run, hrun, hmem⟩ := List.mem_flatten.1 hnested
        have _hrun : sizeOf run < sizeOf groups := List.sizeOf_lt_of_mem hrun
        have _hnested : sizeOf nested < sizeOf run := List.sizeOf_lt_of_mem hmem
        Group.induction group nested
  termination_by declared => sizeOf declared
  decreasing_by
    simp only [Group.mk.sizeOf_spec]
    omega

/-- The items that runs of field references mean. -/
def itemsOfFields (runs : List (List FieldReference)) : List Item :=
  runs.flatten.map fun reference => .field reference.toModel

mutual

/-- The item that a group means: its groups first, then its field references. -/
def Group.toItem : Group → Item
  | ⟨annotated, name, groups, fields⟩ =>
      .group name.image (modelAnnotations annotated) (itemsOfRuns groups ++ itemsOfFields fields)

/-- The items that runs of groups mean. -/
def itemsOfRuns : List (List Group) → List Item
  | [] => []
  | run :: runs => itemsOfRun run ++ itemsOfRuns runs

/-- The items that one run of groups means. -/
def itemsOfRun : List Group → List Item
  | [] => []
  | group :: rest => group.toItem :: itemsOfRun rest

end

theorem itemsOfRun_eq_map (run : List Group) : itemsOfRun run = run.map Group.toItem := by
  induction run with
  | nil => rfl
  | cons group rest ih => simp [itemsOfRun, ih]

theorem itemsOfRuns_eq (runs : List (List Group)) :
    itemsOfRuns runs = runs.flatten.map Group.toItem := by
  induction runs with
  | nil => rfl
  | cons run runs ih => simp [itemsOfRuns, itemsOfRun_eq_map, ih]

/-- A group with its runs concatenated: first the nested groups, then the field references. -/
theorem Group.toItem_eq (annotations : List Annotation) (name : Token)
    (groups : List (List Group)) (fields : List (List FieldReference)) :
    (Group.mk annotations name groups fields).toItem =
      .group name.image (modelAnnotations annotations) (groups.flatten.map Group.toItem ++
        fields.flatten.map fun reference => .field reference.toModel) := by
  rw [Group.toItem, itemsOfRuns_eq, itemsOfFields]

/-! ## Elements, tabs and pages -/

/-- A declared child of a tab, or of a page beside its tabs. -/
inductive Element where
  | field (reference : FieldReference)
  | group (group : Group)
  | grid (grid : Grid)

/-- The block that an element means. -/
def Element.toBlock : Element → Block
  | .field reference => .item (.field reference.toModel)
  | .group declared => .item declared.toItem
  | .grid declared => .grid declared.toModel

/-- A declared tab. -/
structure Tab where
  /-- The annotations before the tab. -/
  annotations : List Annotation
  /-- The name. -/
  name : Token
  /-- The runs of elements. -/
  elements : List (List Element)

/-- The tab that a declaration means. -/
def Tab.toModel (tab : Tab) : DomainModel.Tab :=
  ⟨tab.name.image, modelAnnotations tab.annotations, tab.elements.flatten.map Element.toBlock⟩

/-- A declared page. -/
structure Page where
  /-- The annotations before the page. -/
  annotations : List Annotation
  /-- The name. -/
  name : Token
  /-- The entity it shows. -/
  entity : Token
  /-- The runs of tabs. -/
  tabs : List (List Tab)
  /-- The runs of elements beside the tabs. -/
  elements : List (List Element)

/-- The page that a declaration means: its tabs first, then its other elements. -/
def Page.toModel (page : Page) : DomainModel.Page where
  name := page.name.image
  entity := page.entity.image
  annotations := modelAnnotations page.annotations
  sections := page.tabs.flatten.map (fun tab => .tab tab.toModel)
    ++ page.elements.flatten.map (fun element => .block element.toBlock)

end DomainModel.Declared
