import DomainModel.Declared.Page
import Mathlib.Data.List.Basic

/-!
# Outlines of page trees

The outline of a page lists its nodes from top to bottom, each before its children, and says of each
node how deep it lies, of which kind it is, what it is called and what is attached to it. A declared
page has an outline of its own, read off the declaration by going through its slots in the order in
which the language visits them: runs are gone through one after another, the tabs of a page before
its other elements, the groups of a group before its field references.

The page that a declaration means has the outline of the declaration. This alone would not keep a
node in its place if two pages could share an outline. They cannot: where a node ends is told by the
depth of the next row (`flatMap_inj`), so an outline reads back as one page only (`ReadsBack`).

## What this module delivers

- `NodeKind`, `OutlineRow`, `nodeRows`: the rows of a node and of what is below it.
- `outline` for every layer of a page, and for every declared layer.
- `outline_toModel` for every declared layer: both outlines are the same.
- `IsNode`, `ReadsBack`, with a lemma for every layer that its outlines read back.
- `Page.outline_toModel_reads_back`: the outline of a built page, and that no other page has it.
-/

set_option autoImplicit false

namespace DomainModel

/-! ## Rows -/

/-- The kinds of node in a page. -/
inductive NodeKind where
  | page
  | tab
  | group
  | grid
  | field
  | operationSet
  | operationGroup
  | operation
  deriving DecidableEq, Repr

/-- What an outline says of one node. -/
structure OutlineRow where
  /-- How many nodes there are above it. -/
  depth : Nat
  /-- Its kind. -/
  kind : NodeKind
  /-- Its name, dotted path or key; a set of operations has none of these. -/
  label : Option String
  /-- Its annotations; an operation has none. -/
  annotations : List Annotation
  /-- What it works with, if it is an operation. -/
  value : Option OperationValue
  deriving DecidableEq, Repr

/-- The rows of a node: its own, then those of its children in order, one level deeper. -/
def nodeRows {α : Type} (own : OutlineRow) (outline : Nat → α → List OutlineRow)
    (children : List α) : List OutlineRow :=
  own :: children.flatMap (outline (own.depth + 1))

/-- How many rows are of a kind. -/
def countKind (kind : NodeKind) (rows : List OutlineRow) : Nat :=
  rows.countP fun row => row.kind == kind

/-! ## The outline of a page -/

/-- A reference has one row. -/
def FieldReference.outline (depth : Nat) (reference : FieldReference) : List OutlineRow :=
  [⟨depth, .field, some reference.name, reference.annotations, none⟩]

/-- An operation has one row, which shows its value. -/
def Operation.outline (depth : Nat) (operation : Operation) : List OutlineRow :=
  [⟨depth, .operation, some operation.key, [], operation.value⟩]

/-- A group of operations and the operations in it. -/
def OperationGroup.outline (depth : Nat) (group : OperationGroup) : List OutlineRow :=
  nodeRows ⟨depth, .operationGroup, some group.key, group.annotations, none⟩ Operation.outline
    group.operations

/-- A set of operations has no name, only annotations and groups. -/
def OperationSet.outline (depth : Nat) (set : OperationSet) : List OutlineRow :=
  nodeRows ⟨depth, .operationSet, none, set.annotations, none⟩ OperationGroup.outline set.groups

/-- A cell is the node it holds; it has no row of its own. -/
def GridCell.outline (depth : Nat) : GridCell → List OutlineRow
  | .field reference => reference.outline depth
  | .operations set => set.outline depth

/-- A grid and its cells. -/
def Grid.outline (depth : Nat) (grid : Grid) : List OutlineRow :=
  nodeRows ⟨depth, .grid, some grid.name, grid.annotations, none⟩ GridCell.outline grid.cells

mutual

/-- The outline of an item: of a group, its row and the outlines of the items in it. -/
def Item.outline (depth : Nat) : Item → List OutlineRow
  | .field reference => reference.outline depth
  | .group name annotations items =>
      ⟨depth, .group, some name, annotations, none⟩ :: outlineOfItems (depth + 1) items

/-- The outlines of the items of a group, one after another. -/
def outlineOfItems (depth : Nat) : List Item → List OutlineRow
  | [] => []
  | item :: rest => item.outline depth ++ outlineOfItems depth rest

end

/-- A block is the node it holds. -/
def Block.outline (depth : Nat) : Block → List OutlineRow
  | .item child => child.outline depth
  | .grid child => child.outline depth

/-- A tab and the blocks in it. -/
def Tab.outline (depth : Nat) (tab : Tab) : List OutlineRow :=
  nodeRows ⟨depth, .tab, some tab.name, tab.annotations, none⟩ Block.outline tab.blocks

/-- A section is the node it holds, so that tabs and blocks lie at one depth. -/
def Section.outline (depth : Nat) : Section → List OutlineRow
  | .tab child => child.outline depth
  | .block child => child.outline depth

/-- The outline of a page, which lies at the top. -/
def Page.outline (page : Page) : List OutlineRow :=
  nodeRows ⟨0, .page, some page.name, page.annotations, none⟩ Section.outline page.sections

/-- The items of a group are listed one after another, as other children are. -/
theorem outlineOfItems_eq (depth : Nat) (items : List Item) :
    outlineOfItems depth items = items.flatMap (Item.outline depth) := by
  induction items with
  | nil => rfl
  | cons item rest ih => rw [outlineOfItems, ih, List.flatMap_cons]

/-- A group has rows like every node with children. -/
theorem Item.outline_group (depth : Nat) (name : String) (annotations : List Annotation)
    (items : List Item) :
    (Item.group name annotations items).outline depth =
      nodeRows ⟨depth, .group, some name, annotations, none⟩ Item.outline items := by
  rw [Item.outline, outlineOfItems_eq, nodeRows]

/-! ## The outline of a declaration -/

namespace Declared

/-- The row of a declared reference, with the parts of its path put together by dots. -/
def FieldReference.outline (depth : Nat) (reference : FieldReference) : List OutlineRow :=
  [⟨depth, .field, some (".".intercalate (reference.names.map Token.image)),
    modelAnnotations reference.annotations, none⟩]

/-- All that an operation is given to work with, what comes first in front: a data block that holds
something, an identifier, a text with its quotes. -/
def Operation.givens (operation : Operation) : List OperationValue :=
  (operation.dataBlock.toList.filter fun token => token.image ≠ "").map
      (fun token => .block (Text.dataBlock token.image)) ++
    operation.identifier.toList.map (fun token => .identifier token.image) ++
    operation.text.toList.map fun token => .text token.image

/-- The row of a declared operation shows the first of its givens. -/
def Operation.outline (depth : Nat) (operation : Operation) : List OutlineRow :=
  [⟨depth, .operation, some operation.key.image, [], operation.givens.head?⟩]

/-- A declared group of operations, in declared order. -/
def OperationGroup.outline (depth : Nat) (group : OperationGroup) : List OutlineRow :=
  nodeRows ⟨depth, .operationGroup, some group.name.image, modelAnnotations group.annotations, none⟩
    Operation.outline group.operations

/-- A declared set of operations, group by group. -/
def OperationSet.outline (depth : Nat) (set : OperationSet) : List OutlineRow :=
  nodeRows ⟨depth, .operationSet, none, modelAnnotations set.annotations, none⟩
    OperationGroup.outline set.groups

/-- A declared cell is the declared node it holds. -/
def Cell.outline (depth : Nat) : Cell → List OutlineRow
  | .field reference => reference.outline depth
  | .operations set => set.outline depth

/-- A declared grid, leaf by leaf. -/
def Grid.outline (depth : Nat) (grid : Grid) : List OutlineRow :=
  nodeRows ⟨depth, .grid, some grid.name.image, modelAnnotations grid.annotations, none⟩
    Cell.outline grid.cells

mutual

/-- The outline of a declared group: its row, then its nested groups, then its field references. -/
def Group.outline (depth : Nat) : Group → List OutlineRow
  | ⟨annotated, name, groups, fields⟩ =>
      ⟨depth, .group, some name.image, modelAnnotations annotated, none⟩ ::
        (outlineOfRuns (depth + 1) groups ++
          fields.flatten.flatMap (FieldReference.outline (depth + 1)))

/-- The outlines of the groups of all runs, run by run. -/
def outlineOfRuns (depth : Nat) : List (List Group) → List OutlineRow
  | [] => []
  | run :: runs => outlineOfRun depth run ++ outlineOfRuns depth runs

/-- The outlines of the groups of one run. -/
def outlineOfRun (depth : Nat) : List Group → List OutlineRow
  | [] => []
  | group :: rest => group.outline depth ++ outlineOfRun depth rest

end

/-- A declared element is the declared node it holds. -/
def Element.outline (depth : Nat) : Element → List OutlineRow
  | .field reference => reference.outline depth
  | .group declared => declared.outline depth
  | .grid declared => declared.outline depth

/-- A declared tab and the elements of all its runs. -/
def Tab.outline (depth : Nat) (tab : Tab) : List OutlineRow :=
  nodeRows ⟨depth, .tab, some tab.name.image, modelAnnotations tab.annotations, none⟩
    Element.outline tab.elements.flatten

/-- The outline of a declared page: its row, then its tabs, then its other elements. -/
def Page.outline (page : Page) : List OutlineRow :=
  ⟨0, .page, some page.name.image, modelAnnotations page.annotations, none⟩ ::
    (page.tabs.flatten.flatMap (Tab.outline 1) ++ page.elements.flatten.flatMap (Element.outline 1))

theorem outlineOfRun_eq (depth : Nat) (run : List Group) :
    outlineOfRun depth run = run.flatMap (Group.outline depth) := by
  induction run with
  | nil => rfl
  | cons group rest ih => rw [outlineOfRun, ih, List.flatMap_cons]

/-- Runs of groups are gone through as one list. -/
theorem outlineOfRuns_eq (depth : Nat) (runs : List (List Group)) :
    outlineOfRuns depth runs = runs.flatten.flatMap (Group.outline depth) := by
  induction runs with
  | nil => rfl
  | cons run runs ih =>
      rw [outlineOfRuns, outlineOfRun_eq, ih, List.flatten_cons, List.flatMap_append]

/-! ## Building keeps the outline

Every layer builds its children one by one and in place, so the outline of what is built is the
outline of the declaration as soon as this holds of the children. -/

/-- Children that are built one by one are listed as they are declared. -/
theorem flatMap_map_outline {α β : Type} {outline : β → List OutlineRow}
    {declared : α → List OutlineRow} {build : α → β} {children : List α}
    (h : ∀ child ∈ children, outline (build child) = declared child) :
    (children.map build).flatMap outline = children.flatMap declared := by
  rw [List.flatMap_map]
  exact List.flatMap_congr h

/-- Nodes with children that are built one by one. -/
theorem nodeRows_map {α β : Type} {own : OutlineRow} {outline : Nat → β → List OutlineRow}
    {declared : Nat → α → List OutlineRow} {build : α → β} {children : List α}
    (h : ∀ child ∈ children, ∀ depth, outline depth (build child) = declared depth child) :
    nodeRows own outline (children.map build) = nodeRows own declared children := by
  rw [nodeRows, nodeRows, flatMap_map_outline fun child hchild => h child hchild (own.depth + 1)]

theorem FieldReference.outline_toModel (depth : Nat) (reference : FieldReference) :
    reference.toModel.outline depth = reference.outline depth := rfl

/-- An operation works with the first of its givens. -/
theorem Operation.value?_eq_head? (operation : Operation) :
    operation.value? = operation.givens.head? := by
  obtain ⟨key, identifier, dataBlock, text⟩ := operation
  -- without a data block that holds something, the other two are left in their order
  have hothers : ((identifier.map fun token => OperationValue.identifier token.image) <|>
      text.map fun token => OperationValue.text token.image) =
        (identifier.toList.map (fun token => OperationValue.identifier token.image) ++
          text.toList.map fun token => OperationValue.text token.image).head? := by
    cases identifier with
    | some word => rfl
    | none =>
        cases text with
        | some text => rfl
        | none => rfl
  cases dataBlock with
  | none => exact hothers
  | some block =>
      by_cases hempty : block.image = ""
      · -- an empty block is as good as none
        have hfilter : (some block).filter (fun token => token.image != "") = none := by
          simp [Option.filter_some, hempty]
        have hlist : [block].filter (fun token => token.image ≠ "") = [] := by simp [hempty]
        rw [value?, givens, hfilter, Option.toList_some, hlist]
        exact hothers
      · have hfilter : (some block).filter (fun token => token.image != "") = some block := by
          simp [Option.filter_some, hempty]
        have hlist : [block].filter (fun token => token.image ≠ "") = [block] := by simp [hempty]
        rw [value?, givens, hfilter, Option.toList_some, hlist]
        rfl

theorem Operation.outline_toModel (depth : Nat) (operation : Operation) :
    operation.toModel.outline depth = operation.outline depth := by
  rw [DomainModel.Operation.outline, toModel, value?_eq_head?, outline]

theorem OperationGroup.outline_toModel (depth : Nat) (group : OperationGroup) :
    group.toModel.outline depth = group.outline depth := by
  apply nodeRows_map
  intro operation _ depth
  exact operation.outline_toModel depth

theorem OperationSet.outline_toModel (depth : Nat) (set : OperationSet) :
    set.toModel.outline depth = set.outline depth := by
  apply nodeRows_map
  intro group _ depth
  exact group.outline_toModel depth

theorem Cell.outline_toModel (depth : Nat) (cell : Cell) :
    cell.toModel.outline depth = cell.outline depth := by
  cases cell with
  | field reference => exact reference.outline_toModel depth
  | operations set => exact set.outline_toModel depth

theorem Grid.outline_toModel (depth : Nat) (grid : Grid) :
    grid.toModel.outline depth = grid.outline depth := by
  apply nodeRows_map
  intro cell _ depth
  exact cell.outline_toModel depth

/-- A group keeps its outline at every depth of nesting. -/
theorem Group.outline_toItem (depth : Nat) (group : Group) :
    group.toItem.outline depth = group.outline depth := by
  -- on the nesting of groups; the runs of a group are gone through as one list on both sides
  induction group using Group.induction generalizing depth with
  | group annotations name groups fields ih =>
      have hgroups : (groups.flatten.map Group.toItem).flatMap (Item.outline (depth + 1)) =
          groups.flatten.flatMap (Group.outline (depth + 1)) := by
        apply flatMap_map_outline
        intro nested hnested
        exact ih nested hnested (depth + 1)
      have hfields : (fields.flatten.map fun reference => Item.field reference.toModel).flatMap
          (Item.outline (depth + 1)) =
            fields.flatten.flatMap (FieldReference.outline (depth + 1)) := by
        apply flatMap_map_outline
        intro reference _
        exact reference.outline_toModel (depth + 1)
      rw [Group.toItem_eq, Item.outline_group, nodeRows, List.flatMap_append, hgroups, hfields,
        Group.outline, outlineOfRuns_eq]

theorem Element.outline_toBlock (depth : Nat) (element : Element) :
    element.toBlock.outline depth = element.outline depth := by
  cases element with
  | field reference => exact reference.outline_toModel depth
  | group declared => exact declared.outline_toItem depth
  | grid declared => exact declared.outline_toModel depth

theorem Tab.outline_toModel (depth : Nat) (tab : Tab) :
    tab.toModel.outline depth = tab.outline depth := by
  apply nodeRows_map
  intro element _ depth
  exact element.outline_toBlock depth

/-- A page is built with its tabs in front of its other elements, as they are visited. -/
theorem Page.outline_toModel (page : Page) : page.toModel.outline = page.outline := by
  have htabs : (page.tabs.flatten.map fun tab => Section.tab tab.toModel).flatMap
      (Section.outline 1) = page.tabs.flatten.flatMap (Tab.outline 1) := by
    apply flatMap_map_outline
    intro tab _
    exact tab.outline_toModel 1
  have helements : (page.elements.flatten.map fun element =>
      Section.block element.toBlock).flatMap (Section.outline 1) =
        page.elements.flatten.flatMap (Element.outline 1) := by
    apply flatMap_map_outline
    intro element _
    exact element.outline_toBlock 1
  rw [DomainModel.Page.outline, toModel, nodeRows, List.flatMap_append, htabs, helements, outline]

end Declared

/-! ## Outlines read back

The rows below a node are deeper than its own row, and the row of the next node at its depth is not.
So a list of outlines, one after another, can be taken apart again. -/

/-- Rows of one node: its own row at a depth, and deeper rows only below it. -/
def IsNode (depth : Nat) (rows : List OutlineRow) : Prop :=
  ∃ own below, rows = own :: below ∧ own.depth = depth ∧ ∀ row ∈ below, depth < row.depth

/-- Rows up to the first one that is not deeper, and the rows from there on, are told apart. -/
theorem append_inj_of_depth {depth : Nat} {below others rest otherRest : List OutlineRow}
    (hbelow : ∀ row ∈ below, depth < row.depth) (hothers : ∀ row ∈ others, depth < row.depth)
    (hrest : ∀ row ∈ rest.head?, ¬ depth < row.depth)
    (hotherRest : ∀ row ∈ otherRest.head?, ¬ depth < row.depth)
    (h : below ++ rest = others ++ otherRest) : below = others ∧ rest = otherRest := by
  induction below generalizing others with
  | nil =>
      cases others with
      | nil => exact ⟨rfl, h⟩
      | cons row others =>
          -- the rest would begin with a deeper row
          have hrow : depth < row.depth := hothers row List.mem_cons_self
          rw [List.nil_append, List.cons_append] at h
          exact absurd hrow (hrest row (by rw [h]; rfl))
  | cons row below ih =>
      obtain ⟨hrow, hbelow⟩ := List.forall_mem_cons.1 hbelow
      cases others with
      | nil =>
          rw [List.nil_append, List.cons_append] at h
          exact absurd hrow (hotherRest row (by rw [← h]; rfl))
      | cons other others =>
          obtain ⟨rfl, htail⟩ := List.cons.inj h
          obtain ⟨rfl, hrests⟩ := ih hbelow (List.forall_mem_cons.1 hothers).2 htail
          exact ⟨rfl, hrests⟩

theorem IsNode.ne_nil {depth : Nat} {rows : List OutlineRow} (h : IsNode depth rows) :
    rows ≠ [] := by
  obtain ⟨own, below, rfl, -, -⟩ := h
  simp

/-- No row of a node is above its own. -/
theorem IsNode.le_depth {depth : Nat} {rows : List OutlineRow} (h : IsNode depth rows) :
    ∀ row ∈ rows, depth ≤ row.depth := by
  obtain ⟨own, below, rfl, hown, hbelow⟩ := h
  intro row hrow
  rcases List.mem_cons.1 hrow with rfl | hrow
  · omega
  · have hdeeper := hbelow row hrow
    omega

section Lists

variable {α : Type} {depth : Nat} {outline : α → List OutlineRow}

/-- A list of nodes at one depth begins at this depth, unless it is empty. -/
theorem head?_flatMap_isNode (hnode : ∀ a, IsNode depth (outline a)) (list : List α) :
    ∀ row ∈ (list.flatMap outline).head?, ¬ depth < row.depth := by
  intro row hrow
  cases list with
  | nil => cases hrow
  | cons a rest =>
      obtain ⟨own, below, houtline, hown, -⟩ := hnode a
      rw [List.flatMap_cons, houtline] at hrow
      cases hrow
      omega

/-- Nodes at one depth that are listed one after another can be told apart. -/
theorem flatMap_inj (hnode : ∀ a, IsNode depth (outline a)) {list others : List α}
    (hinj : ∀ a ∈ list, ∀ b, outline a = outline b → a = b)
    (h : list.flatMap outline = others.flatMap outline) : list = others := by
  induction list generalizing others with
  | nil =>
      cases others with
      | nil => rfl
      | cons b others =>
          rw [List.flatMap_nil, List.flatMap_cons] at h
          exact absurd (List.append_eq_nil_iff.1 h.symm).1 (hnode b).ne_nil
  | cons a list ih =>
      obtain ⟨hinj_a, hinj⟩ := List.forall_mem_cons.1 hinj
      cases others with
      | nil =>
          rw [List.flatMap_nil, List.flatMap_cons] at h
          exact absurd (List.append_eq_nil_iff.1 h).1 (hnode a).ne_nil
      | cons b others =>
          -- the first nodes begin with the same row and end where the next row is not deeper
          obtain ⟨own, below, hown, -, hbelow⟩ := hnode a
          obtain ⟨otherOwn, otherBelow, hother, -, hotherBelow⟩ := hnode b
          rw [List.flatMap_cons, List.flatMap_cons, hown, hother, List.cons_append,
            List.cons_append] at h
          obtain ⟨rfl, htail⟩ := List.cons.inj h
          obtain ⟨rfl, hrest⟩ := append_inj_of_depth hbelow hotherBelow
            (head?_flatMap_isNode hnode list) (head?_flatMap_isNode hnode others) htail
          rw [hinj_a b (hown.trans hother.symm), ih hinj hrest]

end Lists

/-- Outlines from which the node can be read back. -/
structure ReadsBack {α : Type} (outline : Nat → α → List OutlineRow) : Prop where
  /-- Every outline has the rows of one node. -/
  isNode : ∀ depth a, IsNode depth (outline depth a)
  /-- No two nodes have one outline. -/
  injective : ∀ depth a b, outline depth a = outline depth b → a = b

/-- The rows of a node are its own row and deeper ones. -/
theorem isNode_nodeRows {β : Type} (own : OutlineRow) {outline : Nat → β → List OutlineRow}
    {children : List β} (h : ∀ child ∈ children, IsNode (own.depth + 1)
      (outline (own.depth + 1) child)) : IsNode own.depth (nodeRows own outline children) := by
  refine ⟨own, _, rfl, rfl, ?_⟩
  intro row hrow
  obtain ⟨child, hchild, hmem⟩ := List.mem_flatMap.1 hrow
  exact (h child hchild).le_depth row hmem

/-- A node reads back when its own row and its children tell which it is and the children read
back. -/
theorem ReadsBack.nodeRows {α β : Type} {inner : Nat → β → List OutlineRow}
    (hinner : ReadsBack inner) {own : Nat → α → OutlineRow} {children : α → List β}
    (hdepth : ∀ depth a, (own depth a).depth = depth)
    (hinj : ∀ depth a b, own depth a = own depth b → children a = children b → a = b) :
    ReadsBack fun depth a => DomainModel.nodeRows (own depth a) inner (children a) where
  isNode := by
    intro depth a
    have hnode := isNode_nodeRows (own depth a) fun child (_ : child ∈ children a) =>
      hinner.isNode _ child
    rwa [hdepth] at hnode
  injective := by
    intro depth a b h
    obtain ⟨hown, hchildren⟩ := List.cons.inj h
    apply hinj depth a b hown
    rw [hdepth, hdepth] at hchildren
    exact flatMap_inj (hinner.isNode _) (fun child _ => hinner.injective _ child) hchildren

theorem FieldReference.readsBack_outline : ReadsBack outline where
  isNode := fun _ _ => ⟨_, [], rfl, rfl, List.forall_mem_nil _⟩
  injective := by
    intro depth reference other h
    obtain ⟨name, annotations⟩ := reference
    obtain ⟨otherName, otherAnnotations⟩ := other
    cases h
    rfl

theorem Operation.readsBack_outline : ReadsBack outline where
  isNode := fun _ _ => ⟨_, [], rfl, rfl, List.forall_mem_nil _⟩
  injective := by
    intro depth operation other h
    obtain ⟨key, value⟩ := operation
    obtain ⟨otherKey, otherValue⟩ := other
    cases h
    rfl

theorem OperationGroup.readsBack_outline : ReadsBack outline := by
  apply Operation.readsBack_outline.nodeRows (fun _ _ => rfl)
  intro depth group other hown hoperations
  obtain ⟨key, annotations, operations⟩ := group
  obtain ⟨otherKey, otherAnnotations, otherOperations⟩ := other
  cases hown
  cases hoperations
  rfl

theorem OperationSet.readsBack_outline : ReadsBack outline := by
  apply OperationGroup.readsBack_outline.nodeRows (fun _ _ => rfl)
  intro depth set other hown hgroups
  obtain ⟨annotations, groups⟩ := set
  obtain ⟨otherAnnotations, otherGroups⟩ := other
  cases hown
  cases hgroups
  rfl

/-- The two kinds of cell are told apart by the kind of their row. -/
theorem GridCell.readsBack_outline : ReadsBack outline where
  isNode := by
    intro depth cell
    cases cell with
    | field reference => exact FieldReference.readsBack_outline.isNode depth reference
    | operations set => exact OperationSet.readsBack_outline.isNode depth set
  injective := by
    intro depth cell other h
    -- cells of different kinds differ in the kind of their first row
    cases cell with
    | field reference =>
        cases other with
        | field otherReference =>
            rw [FieldReference.readsBack_outline.injective depth _ _ h]
        | operations otherSet => cases h
    | operations set =>
        cases other with
        | field otherReference => cases h
        | operations otherSet => rw [OperationSet.readsBack_outline.injective depth _ _ h]

theorem Grid.readsBack_outline : ReadsBack outline := by
  apply GridCell.readsBack_outline.nodeRows (fun _ _ => rfl)
  intro depth grid other hown hcells
  obtain ⟨name, annotations, cells⟩ := grid
  obtain ⟨otherName, otherAnnotations, otherCells⟩ := other
  cases hown
  cases hcells
  rfl

/-- An item has the rows of one node, however deep groups nest in it. -/
theorem Item.isNode_outline (depth : Nat) (item : Item) : IsNode depth (item.outline depth) := by
  induction item using Item.induction generalizing depth with
  | field reference => exact FieldReference.readsBack_outline.isNode depth reference
  | group name annotations items ih =>
      rw [Item.outline_group]
      exact isNode_nodeRows ⟨depth, .group, some name, annotations, none⟩
        fun nested hnested => ih nested hnested (depth + 1)

/-- An item is read back with all that is nested in it. -/
theorem Item.readsBack_outline : ReadsBack outline where
  isNode := Item.isNode_outline
  injective := by
    intro depth item
    -- on the nesting of the first item; of the second its kind is enough
    induction item using Item.induction generalizing depth with
    | field reference =>
        intro other h
        cases other with
        | field otherReference => rw [FieldReference.readsBack_outline.injective depth _ _ h]
        | group otherName otherAnnotations otherItems => cases h
    | group name annotations items ih =>
        intro other h
        cases other with
        | field otherReference => cases h
        | group otherName otherAnnotations otherItems =>
            rw [Item.outline_group, Item.outline_group] at h
            obtain ⟨hown, hitems⟩ := List.cons.inj h
            cases hown
            rw [flatMap_inj (Item.isNode_outline (depth + 1))
              (fun nested hnested => ih nested hnested (depth + 1)) hitems]

/-- An item is never read back as a grid. -/
theorem Block.readsBack_outline : ReadsBack outline where
  isNode := by
    intro depth block
    cases block with
    | item child => exact child.isNode_outline depth
    | grid child => exact Grid.readsBack_outline.isNode depth child
  injective := by
    intro depth block other h
    cases block with
    | item child =>
        cases other with
        | item otherChild => rw [Item.readsBack_outline.injective depth _ _ h]
        | grid otherChild => cases child <;> cases h
    | grid child =>
        cases other with
        | item otherChild => cases otherChild <;> cases h
        | grid otherChild => rw [Grid.readsBack_outline.injective depth _ _ h]

theorem Tab.readsBack_outline : ReadsBack outline := by
  apply Block.readsBack_outline.nodeRows (fun _ _ => rfl)
  intro depth tab other hown hblocks
  obtain ⟨name, annotations, blocks⟩ := tab
  obtain ⟨otherName, otherAnnotations, otherBlocks⟩ := other
  cases hown
  cases hblocks
  rfl

/-- No block has the rows of a tab. -/
theorem Tab.outline_ne_block (depth : Nat) (tab : Tab) (block : Block) :
    tab.outline depth ≠ block.outline depth := by
  intro h
  cases block with
  | grid child => cases h
  | item child =>
      cases child with
      | field reference => cases h
      | group name annotations items => cases h

theorem Section.readsBack_outline : ReadsBack outline where
  isNode := by
    intro depth declared
    cases declared with
    | tab child => exact Tab.readsBack_outline.isNode depth child
    | block child => exact Block.readsBack_outline.isNode depth child
  injective := by
    intro depth declared other h
    cases declared with
    | tab child =>
        cases other with
        | tab otherChild => rw [Tab.readsBack_outline.injective depth _ _ h]
        | block otherChild => exact absurd h (child.outline_ne_block depth otherChild)
    | block child =>
        cases other with
        | tab otherChild => exact absurd h.symm (otherChild.outline_ne_block depth child)
        | block otherChild => rw [Block.readsBack_outline.injective depth _ _ h]

/-- Two pages of one entity with one outline are one page. -/
theorem Page.eq_of_outline_eq {page other : Page} (hentity : page.entity = other.entity)
    (houtline : page.outline = other.outline) : page = other := by
  obtain ⟨name, entity, annotations, sections⟩ := page
  obtain ⟨otherName, otherEntity, otherAnnotations, otherSections⟩ := other
  obtain ⟨hown, hsections⟩ := List.cons.inj houtline
  have hchildren : sections = otherSections :=
    flatMap_inj (Section.readsBack_outline.isNode 1)
      (fun child _ => Section.readsBack_outline.injective 1 child) hsections
  cases hown
  cases hchildren
  cases hentity
  rfl

/-! ## Pages -/

namespace Declared

/-- The page that a declaration means has the outline of the declaration, row by row, and so as many
nodes of each kind. No other page of the same entity has this outline: a node that is lost, doubled,
put before another or under another would show in it. -/
theorem Page.outline_toModel_reads_back (declared : Page) :
    declared.toModel.outline = declared.outline ∧
    (∀ page : DomainModel.Page,
      page.entity = declared.entity.image ∧ page.outline = declared.outline ↔
        page = declared.toModel) ∧
    ∀ kind, countKind kind declared.toModel.outline = countKind kind declared.outline := by
  have houtline := declared.outline_toModel
  refine ⟨houtline, ?_, fun kind => by rw [houtline]⟩
  intro page
  constructor
  · rintro ⟨hentity, hpage⟩
    exact Page.eq_of_outline_eq hentity (hpage.trans houtline.symm)
  · rintro rfl
    exact ⟨rfl, houtline⟩

/-- An operation with this key, identifier, data block and text. -/
def operationOf (key : String) (identifier block text : Option String) : Operation :=
  ⟨.ofImage key, identifier.map .ofImage, block.map .ofImage, text.map .ofImage⟩

/-- A declared page with a tab, two runs of elements, a group in a group, and a grid whose operations
are given every kind of value. -/
def nestedPage : Page where
  annotations := [⟨.ofImage "hidden", none⟩]
  name := .ofImage "Shelf"
  entity := .ofImage "Book"
  tabs := [[⟨[], .ofImage "main", [[.field ⟨[], [.ofImage "isbn"]⟩]]⟩]]
  elements := [
    [.group ⟨[], .ofImage "outer", [[⟨[], .ofImage "inner", [],
        [[⟨[⟨.ofImage "bold", none⟩], [.ofImage "author", .ofImage "name"]⟩]]⟩]],
      [[⟨[], [.ofImage "title"]⟩]]⟩],
    [.grid ⟨[], .ofImage "rows", [.field ⟨[], [.ofImage "year"]⟩, .operations ⟨[],
      [⟨[], .ofImage "edit", [operationOf "all" (some "x") (some "/*# [1] */") none,
        operationOf "one" (some "save") (some "") (some "'b'"),
        operationOf "text" none none (some "'c'"), operationOf "none" none none none]⟩]⟩]⟩]]

/-- A group nested in a group comes before the field reference beside it, and the reference in it
lies one level below that one. The parts of a path are joined by dots. A data block that holds
something is what an operation works with, and it loses its markers; an empty one leaves this to the
identifier. -/
theorem Page.outline_toModel_reads_back_nested :
    nestedPage.toModel.outline = [
      ⟨0, .page, some "Shelf", [.flag "hidden"], none⟩,
      ⟨1, .tab, some "main", [], none⟩,
      ⟨2, .field, some "isbn", [], none⟩,
      ⟨1, .group, some "outer", [], none⟩,
      ⟨2, .group, some "inner", [], none⟩,
      ⟨3, .field, some "author.name", [.flag "bold"], none⟩,
      ⟨2, .field, some "title", [], none⟩,
      ⟨1, .grid, some "rows", [], none⟩,
      ⟨2, .field, some "year", [], none⟩,
      ⟨2, .operationSet, none, [], none⟩,
      ⟨3, .operationGroup, some "edit", [], none⟩,
      ⟨4, .operation, some "all", [], some (.block " [1] ")⟩,
      ⟨4, .operation, some "one", [], some (.identifier "save")⟩,
      ⟨4, .operation, some "text", [], some (.text "'c'")⟩,
      ⟨4, .operation, some "none", [], none⟩] ∧
    countKind .field nestedPage.toModel.outline = 4 := by
  obtain ⟨houtline, -, hcount⟩ := nestedPage.outline_toModel_reads_back
  constructor
  · rw [houtline]
    rfl
  · rw [hcount]
    rfl

end Declared

end DomainModel
