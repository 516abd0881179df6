import DomainModel.Proofs.FirstViolation
import Mathlib.Data.List.Forall2
import Mathlib.Logic.Relation

/-!
# Runs and blocks

A source may write the children of a page in any number of runs, and the relationships of one type
in any number of blocks. This module says when two programs differ in nothing else. For page
children that is a relation that goes down with the nesting: the concatenated runs have the same
length, and the children that stand in the same place are related in turn (`Group.Regrouped`,
`Page.Regrouped`). For blocks it is the equivalence that is generated by cutting one block in two
(`SplitBlock`). Neither kind of difference shows in what a build returns, be it a document or the
first violation with all its labels.

## What this module delivers

- `Regrouped` for groups, elements, tabs, pages and programs; `SplitBlock` for lists of blocks.
- `toItem_eq_of_regrouped`, `toBlock_eq_of_regrouped`, `toModel_eq_of_regrouped`: related
  declarations mean the same.
- `objection?_append`, `relationships_append`: a block that is cut in two.
- `outcome_build_regrouped`: related programs have the same outcome.
-/

set_option autoImplicit false

namespace DomainModel.Declared

/-! ## Runs of page children -/

/-- Two groups that differ in runs only: they have the same field references one after another, and
their nested groups, one after another, differ in runs only. -/
inductive Group.Regrouped : Group → Group → Prop
  | intro {annotations : List Annotation} {name : Token} {groups others : List (List Group)}
      {fields otherFields : List (List FieldReference)}
      (nested : List.Forall₂ Group.Regrouped groups.flatten others.flatten)
      (references : fields.flatten = otherFields.flatten) :
      Group.Regrouped ⟨annotations, name, groups, fields⟩ ⟨annotations, name, others, otherFields⟩

/-- Two elements that differ in the runs of a group only, if at all. -/
inductive Element.Regrouped : Element → Element → Prop
  | same (element : Element) : Element.Regrouped element element
  | group {declared other : Group} (nested : declared.Regrouped other) :
      Element.Regrouped (.group declared) (.group other)

/-- Two tabs that differ in runs only. -/
structure Tab.Regrouped (tab other : Tab) : Prop where
  annotations : tab.annotations = other.annotations
  name : tab.name = other.name
  elements : List.Forall₂ Element.Regrouped tab.elements.flatten other.elements.flatten

/-- Two pages that differ in runs only. -/
structure Page.Regrouped (page other : Page) : Prop where
  annotations : page.annotations = other.annotations
  name : page.name = other.name
  entity : page.entity = other.entity
  tabs : List.Forall₂ Tab.Regrouped page.tabs.flatten other.tabs.flatten
  elements : List.Forall₂ Element.Regrouped page.elements.flatten other.elements.flatten

/-- Lists of related members have the same image under a map that does not tell related members
apart. -/
theorem map_eq_map_of_forall₂ {α β : Type} {related : α → α → Prop} {f : α → β}
    {list others : List α} (h : List.Forall₂ related list others)
    (hf : ∀ a ∈ list, ∀ b, related a b → f a = f b) : list.map f = others.map f := by
  induction h with
  | nil => rfl
  | cons hab _ ih =>
      obtain ⟨ha, hlist⟩ := List.forall_mem_cons.1 hf
      rw [List.map_cons, List.map_cons, ha _ hab, ih hlist]

/-- The item that a group means does not tell how the group is written in runs. -/
theorem Group.toItem_eq_of_regrouped {group other : Group} (h : group.Regrouped other) :
    group.toItem = other.toItem := by
  -- on the nesting of the first group; its nested groups are related to those of the second one
  induction group using Group.induction generalizing other with
  | group annotations name groups fields ih =>
      cases h with
      | intro nested references =>
          have hnested :=
            map_eq_map_of_forall₂ nested fun declared hdeclared _ => ih declared hdeclared
          rw [Group.toItem_eq, Group.toItem_eq, hnested, references]

theorem Element.toBlock_eq_of_regrouped {element other : Element} (h : element.Regrouped other) :
    element.toBlock = other.toBlock := by
  cases h with
  | same => rfl
  | group nested => rw [toBlock, toBlock, Group.toItem_eq_of_regrouped nested]

theorem Tab.toModel_eq_of_regrouped {tab other : Tab} (h : tab.Regrouped other) :
    tab.toModel = other.toModel := by
  have helements : tab.elements.flatten.map Element.toBlock =
      other.elements.flatten.map Element.toBlock :=
    map_eq_map_of_forall₂ h.elements fun _ _ _ => Element.toBlock_eq_of_regrouped
  rw [toModel, toModel, h.name, h.annotations, helements]

theorem Page.toModel_eq_of_regrouped {page other : Page} (h : page.Regrouped other) :
    page.toModel = other.toModel := by
  have htabs : page.tabs.flatten.map (fun tab => Section.tab tab.toModel) =
      other.tabs.flatten.map fun tab => Section.tab tab.toModel := by
    apply map_eq_map_of_forall₂ h.tabs
    intro tab _ otherTab htab
    rw [Tab.toModel_eq_of_regrouped htab]
  have helements : page.elements.flatten.map (fun element => Section.block element.toBlock) =
      other.elements.flatten.map fun element => Section.block element.toBlock := by
    apply map_eq_map_of_forall₂ h.elements
    intro element _ otherElement helement
    rw [Element.toBlock_eq_of_regrouped helement]
  rw [toModel, toModel, h.name, h.entity, h.annotations, htabs, helements]

/-! ## Blocks of relationships -/

/-- One block cut in two between its bodies, both parts of its type. Either part may be left without
a body: its type is then looked at once more, and nothing else comes of it. -/
inductive SplitBlock : List RelationshipBlock → List RelationshipBlock → Prop
  | intro (before after : List RelationshipBlock) (type : Token) (bodies others : List Body) :
      SplitBlock (before ++ ⟨type, bodies ++ others⟩ :: after)
        (before ++ ⟨type, bodies⟩ :: ⟨type, others⟩ :: after)

/-- What stands against a block stands against the first of its parts that is not as it should
be. -/
theorem RelationshipBlock.objection?_append (type : Token) (bodies others : List Body) :
    objection? ⟨type, bodies ++ others⟩ =
      (objection? ⟨type, bodies⟩).or (objection? ⟨type, others⟩) := by
  simp only [objection?]
  cases Cardinality.ofName? type.image with
  | none => rfl
  | some cardinality => exact List.findSome?_append

/-- The relationships of a block are those of its parts. -/
theorem RelationshipBlock.relationships_append (type : Token) (bodies others : List Body) :
    relationships ⟨type, bodies ++ others⟩ =
      relationships ⟨type, bodies⟩ ++ relationships ⟨type, others⟩ := by
  simp only [relationships]
  cases Cardinality.ofName? type.image with
  | none => rfl
  | some cardinality => exact List.map_append

theorem SplitBlock.findSome?_objection? {blocks others : List RelationshipBlock}
    (h : SplitBlock blocks others) :
    blocks.findSome? RelationshipBlock.objection? =
      others.findSome? RelationshipBlock.objection? := by
  obtain ⟨before, after, type, bodies, rest⟩ := h
  rw [List.findSome?_append, List.findSome?_append]
  congr 1
  simp only [List.findSome?_cons, RelationshipBlock.objection?_append]
  cases RelationshipBlock.objection? ⟨type, bodies⟩ with
  | some violation => rfl
  | none => rfl

theorem SplitBlock.flatMap_relationships {blocks others : List RelationshipBlock}
    (h : SplitBlock blocks others) :
    blocks.flatMap RelationshipBlock.relationships =
      others.flatMap RelationshipBlock.relationships := by
  obtain ⟨before, after, type, bodies, rest⟩ := h
  rw [List.flatMap_append, List.flatMap_append, List.flatMap_cons, List.flatMap_cons,
    List.flatMap_cons, RelationshipBlock.relationships_append, List.append_assoc]

/-- What no cut changes is the same for all blocks that are cut from the same bodies. -/
theorem eq_of_eqvGen_splitBlock {β : Type} {f : List RelationshipBlock → β}
    (hcut : ∀ blocks others, SplitBlock blocks others → f blocks = f others)
    {blocks others : List RelationshipBlock} (h : Relation.EqvGen SplitBlock blocks others) :
    f blocks = f others := by
  induction h with
  | rel blocks others hsplit => exact hcut blocks others hsplit
  | refl blocks => rfl
  | symm blocks others _ ih => exact ih.symm
  | trans blocks others last _ _ hfirst hsecond => exact hfirst.trans hsecond

/-! ## Programs -/

/-- Two programs that differ only in how the children of pages are written in runs and how the
bodies of relationships of one type are written in blocks. -/
structure Program.Regrouped (p q : Program) : Prop where
  pages : List.Forall₂ Page.Regrouped p.pages q.pages
  relationships : Relation.EqvGen SplitBlock p.relationships q.relationships
  others : { p with pages := q.pages, relationships := q.relationships } = q

/-- Regrouped programs have the same outcome: the same document, or the same violation and with it
the same diagnostic and labels. -/
theorem outcome_build_regrouped {p q : Program} (h : p.Regrouped q) :
    p.build.outcome = q.build.outcome := by
  have hpages : p.pages.map Page.toModel = q.pages.map Page.toModel :=
    map_eq_map_of_forall₂ h.pages fun _ _ _ => Page.toModel_eq_of_regrouped
  have hobjections : p.relationships.findSome? RelationshipBlock.objection? =
      q.relationships.findSome? RelationshipBlock.objection? :=
    eq_of_eqvGen_splitBlock (fun _ _ => SplitBlock.findSome?_objection?) h.relationships
  have hrelationships : p.relationships.flatMap RelationshipBlock.relationships =
      q.relationships.flatMap RelationshipBlock.relationships :=
    eq_of_eqvGen_splitBlock (fun _ _ => SplitBlock.flatMap_relationships) h.relationships
  have hobjection : p.objection? = q.objection? := by
    rw [← h.others, Program.objection?, Program.objection?, hobjections]
  have hdocument : p.document = q.document := by
    rw [← h.others, Program.document, Program.document, hpages, hrelationships]
  rw [Program.outcome_build, Program.outcome_build, hobjection, hdocument]

/-- A reference to a field under its own name. -/
def fieldNamed (name : String) : FieldReference := ⟨[], [.ofImage name]⟩

/-- The page and the relationships of a shelf, in as few runs and blocks as there can be. -/
def gatheredProgram (keyword : Token) : Program :=
  { Program.empty with
    pages := [⟨[], .ofImage "Shelf", .ofImage "Book",
      [[⟨[], .ofImage "main", [[
        .group ⟨[], .ofImage "outer",
          [[⟨[], .ofImage "inner", [], [[fieldNamed "title", fieldNamed "year"]]⟩]], []⟩,
        .field (fieldNamed "isbn")]]⟩]], []⟩]
    relationships := [⟨⟨"OneToMany", ⟨13, 22⟩⟩,
      [⟨[], bareSide ⟨"Shelf", ⟨25, 30⟩⟩, bareSide ⟨"Book", ⟨34, 38⟩⟩, []⟩,
        ⟨[], bareSide ⟨"Book", ⟨41, 45⟩⟩, bareSide ⟨"Page", ⟨49, 53⟩⟩, [keyword]⟩]⟩] }

/-- The same with a run for every child, with runs that hold nothing, and with a block for every
relationship. -/
def scatteredProgram (keyword : Token) : Program :=
  { Program.empty with
    pages := [⟨[], .ofImage "Shelf", .ofImage "Book",
      [[], [⟨[], .ofImage "main", [[
        .group ⟨[], .ofImage "outer",
          [[], [⟨[], .ofImage "inner", [[]], [[fieldNamed "title"], [fieldNamed "year"]]⟩]], [[]]⟩],
        [], [.field (fieldNamed "isbn")]]⟩]], [[], []]⟩]
    relationships := [
      ⟨⟨"OneToMany", ⟨13, 22⟩⟩,
        [⟨[], bareSide ⟨"Shelf", ⟨25, 30⟩⟩, bareSide ⟨"Book", ⟨34, 38⟩⟩, []⟩]⟩,
      ⟨⟨"OneToMany", ⟨13, 22⟩⟩,
        [⟨[], bareSide ⟨"Book", ⟨41, 45⟩⟩, bareSide ⟨"Page", ⟨49, 53⟩⟩, [keyword]⟩]⟩] }

/-- The two programs differ in runs and blocks only, whatever the keyword. -/
theorem regrouped_scatteredProgram (keyword : Token) :
    (scatteredProgram keyword).Regrouped (gatheredProgram keyword) where
  pages := by
    -- one page with one tab, in the tab a group and a field, in the group one nested group
    refine .cons ⟨rfl, rfl, rfl, .cons ⟨rfl, rfl, ?_⟩ .nil, .nil⟩ .nil
    refine .cons (.group ?_) (.cons (.same _) .nil)
    exact .intro (.cons (.intro .nil rfl) .nil) rfl
  relationships := .symm _ _ (.rel _ _ (.intro [] [] _ [_] [_]))
  others := rfl

/-- With the keyword there is, both programs have one document; with another, both are refused for
it, with the sides around it. -/
theorem outcome_build_regrouped_shelf :
    (scatteredProgram (.ofImage "jpaDerivedIdentifier")).Regrouped
      (gatheredProgram (.ofImage "jpaDerivedIdentifier")) ∧
    (scatteredProgram (.ofImage "jpaDerivedIdentifier")).build.outcome =
      .ok (gatheredProgram (.ofImage "jpaDerivedIdentifier")).document ∧
    (scatteredProgram ⟨"lazy", ⟨59, 63⟩⟩).build.outcome =
      .error (.unknownRelationshipOption ⟨"lazy", ⟨59, 63⟩⟩ ⟨41, 53⟩) := by
  have haccepted := regrouped_scatteredProgram (.ofImage "jpaDerivedIdentifier")
  have hrefused := regrouped_scatteredProgram ⟨"lazy", ⟨59, 63⟩⟩
  refine ⟨haccepted, ?_, ?_⟩
  · exact (outcome_build_regrouped haccepted).trans (Program.outcome_build _)
  · exact (outcome_build_regrouped hrefused).trans (Program.outcome_build _)

end DomainModel.Declared
