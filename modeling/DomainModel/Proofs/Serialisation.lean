import DomainModel.Encoding.Model
import DomainModel.Proofs.JsonEquality
import DomainModel.Proofs.OptionTable
import Mathlib.Tactic.MkIffOfInductiveProp

/-!
# What a serialised document tells

Three distinctions of a document are not written down: whether the text of a configuration value
was a dotted name, an integer or a string, whether the text of an operation was a block, an
identifier or a quoted text, and which validation has a given keyword, argument and mark. Nor is
the order in which constants, configuration keys and option values stand in their maps. Two
documents are written the same exactly when they differ in nothing else: the shapes that share an
object are told apart by their `type`, those without a tag by the kind of value they are, and a
field that is left out is not one that is there and empty.

The distinctions are erased by `forgetKind` and `forgetKinds`, which choose one thing for all
those that are written the same. Every type then has one lemma, `same_encode_iff`: two things of
the type are written the same exactly when they are equal, or equal once erased.

## What this module delivers

- `ConfigValue.forgetKind`, `OperationValue.forgetKind`, `Validation.forgetKind`: the three
  erasures, and `forgetKinds` for everything that such a thing is part of.
- `OperationValue.forgetKind_eq`, `Validation.forgetKind_eq`: an erasure keeps what is written.
- `same_encode_iff` for every type with an `encode`.
- `OptionSlot.Reordered`, `OptionTable.Reordered`, `Application.Reordered`, `Document.Reordered`:
  equality up to the order of entries inside maps.
- `OptionTable.WellShaped.reordered_iff`: tables list their families in one fixed order, so only
  values can be reordered in those that declarations make.
- `Document.same_serialisation_iff`: two documents are written the same exactly when they are
  equal up to the erasures and the order of entries.
-/

set_option autoImplicit false

namespace DomainModel

open Json (Same)

/-! ## Annotations -/

/-- A bare key is written as a text and a pair as an object, also a pair with an empty value. -/
theorem MapEntry.same_encode_iff (a b : MapEntry) : Same a.encode b.encode ↔ a = b := by
  cases a with
  | bare key =>
      cases b with
      | bare other => simp [encode]
      | pair other value => simp [encode, Json.same_iff]
  | pair key value =>
      cases b with
      | bare other => simp [encode, Json.same_iff]
      | pair other value => simp [encode, Json.same_object_cons_iff]

/-- The kind of an annotation is written, so an annotation without a value is not taken for one
with an empty list of entries. -/
theorem Annotation.same_encode_iff (a b : Annotation) : Same a.encode b.encode ↔ a = b := by
  obtain ⟨name, value⟩ := a
  obtain ⟨other, value'⟩ := b
  -- values of different kinds differ in `type`, which is compared first
  cases value <;> cases value' <;>
    simp [encode, fields, kind, OptionValue.kind, OptionKind.text, Json.same_object_cons_iff,
      Json.same_list_iff MapEntry.same_encode_iff]

@[simp]
theorem Annotation.same_list_iff {annotations others : List Annotation} :
    Same (.list Annotation.encode annotations) (.list Annotation.encode others) ↔
      annotations = others :=
  Json.same_list_iff Annotation.same_encode_iff

/-- The fields of an annotation leave room for a key. -/
theorem Annotation.key_notMem_fields (a : Annotation) : "key" ∉ a.fields.map Prod.fst := by
  obtain ⟨name, value⟩ := a
  cases value <;> simp [fields]

/-- The key of a keyed annotation stands beside the fields of the annotation and can be taken off
again. -/
theorem KeyedAnnotation.same_encode_iff (a b : KeyedAnnotation) :
    Same a.encode b.encode ↔ a = b := by
  obtain ⟨key, annotation⟩ := a
  obtain ⟨key', annotation'⟩ := b
  have hfields : Same (.object annotation.fields) (.object annotation'.fields) ↔
      annotation = annotation' := Annotation.same_encode_iff annotation annotation'
  have hparts := @Json.same_object_cons_iff "key" (.string key) (.string key') _ _
    annotation.key_notMem_fields annotation'.key_notMem_fields
  simp [encode, hparts, hfields]

/-! ## Entities and enumerations -/

/-- The bound with the keyword, argument and mark of a validation: the two words have no argument,
and only a bound can name a constant. -/
def Validation.forgetKind : Validation → Validation
  | .required => .bound "required" "" false
  | .unique => .bound "unique" "" false
  | .bound keyword argument constant => .bound keyword argument constant
  | .pattern regex => .bound "pattern" regex false
  | .readOnly regex => .bound "readonly" regex false

/-- A field with the kinds of its validations erased. -/
def Field.forgetKinds (field : Field) : Field :=
  { field with validations := field.validations.map Validation.forgetKind }

/-- An entity with the kinds of its validations erased. -/
def Entity.forgetKinds (entity : Entity) : Entity :=
  { entity with fields := entity.fields.map Field.forgetKinds }

/-- What is written of a validation is what its erasure keeps. -/
theorem Validation.forgetKind_eq (validation : Validation) : validation.forgetKind =
    .bound validation.key validation.value validation.isConstantReference := by
  cases validation <;> rfl

/-- Two validations are written the same when keyword, argument and mark are. -/
theorem Validation.same_encode_iff (a b : Validation) :
    Same a.encode b.encode ↔ a.forgetKind = b.forgetKind := by
  rw [forgetKind_eq, forgetKind_eq, encode, encode]
  -- only an argument that names a constant is marked, so the mark tells the two cases apart
  cases a.isConstantReference <;> cases b.isConstantReference <;>
    simp [Json.same_object_cons_iff]

theorem Field.same_encode_iff (a b : Field) :
    Same a.encode b.encode ↔ a.forgetKinds = b.forgetKinds := by
  simp [encode, forgetKinds, Json.same_object_cons_iff,
    Json.same_list_iff_map Validation.same_encode_iff]

theorem Entity.same_encode_iff (a b : Entity) :
    Same a.encode b.encode ↔ a.forgetKinds = b.forgetKinds := by
  simp [encode, forgetKinds, Json.same_object_cons_iff,
    Json.same_list_iff_map Field.same_encode_iff]

/-- A key without a value is not taken for one with an empty value. -/
theorem EnumValue.same_encode_iff (a b : EnumValue) : Same a.encode b.encode ↔ a = b := by
  obtain ⟨key, value⟩ := a
  obtain ⟨key', value'⟩ := b
  cases value <;> cases value' <;> simp [encode, Json.same_object_cons_iff]

theorem Enum.same_encode_iff (a b : Enum) : Same a.encode b.encode ↔ a = b := by
  obtain ⟨name, values⟩ := a
  obtain ⟨name', values'⟩ := b
  simp [encode, Json.same_object_cons_iff, Json.same_list_iff EnumValue.same_encode_iff]

/-! ## Configurations and payloads -/

/-- The string with the text of a value, for the values that are one text. -/
def ConfigValue.forgetKind : ConfigValue → ConfigValue
  | .qualified text | .integer text | .string text => .string text
  | .list names => .list names
  | .boolean value => .boolean value

/-- A configuration with the kinds of its texts erased. -/
def Config.forgetKinds (config : Config) : Config :=
  OrderedMap.mapValues ConfigValue.forgetKind config

/-- An application with the kinds of its texts erased. -/
def Application.forgetKinds (application : Application) : Application :=
  { application with config := Config.forgetKinds application.config }

/-- Applications that differ only in the order of configuration keys. -/
@[mk_iff]
structure Application.Reordered (a b : Application) : Prop where
  /-- The configurations have the same keys and values. -/
  config : OrderedMap.Reordered a.config b.config
  /-- The selections are equal. -/
  selection : a.selection = b.selection

/-- A list, a truth value and a text are told apart by the JSON value they are written as. -/
theorem ConfigValue.same_encode_iff (a b : ConfigValue) :
    Same a.encode b.encode ↔ a.forgetKind = b.forgetKind := by
  cases a <;> cases b <;> simp [encode, forgetKind, Json.strings, Json.list, Json.same_iff]

/-- Configurations are objects, so the order of their keys does not show. -/
theorem Config.same_encode_iff (a b : Config) :
    Same (Config.encode a) (Config.encode b) ↔
      OrderedMap.Reordered (Config.forgetKinds a) (Config.forgetKinds b) :=
  Json.same_object_mapValues_iff ConfigValue.same_encode_iff a b

theorem EntitySelection.same_encode_iff (a b : EntitySelection) :
    Same a.encode b.encode ↔ a = b := by
  obtain ⟨entities, excluded⟩ := a
  obtain ⟨entities', excluded'⟩ := b
  simp [encode, Json.same_object_cons_iff]

theorem Application.same_encode_iff (a b : Application) :
    Same a.encode b.encode ↔ a.forgetKinds.Reordered b.forgetKinds := by
  rw [Application.reordered_iff]
  simp [encode, forgetKinds, Json.same_object_cons_iff, Config.same_encode_iff,
    EntitySelection.same_encode_iff]

theorem Dataset.same_encode_iff (a b : Dataset) : Same a.encode b.encode ↔ a = b := by
  obtain ⟨name, payload⟩ := a
  obtain ⟨name', payload'⟩ := b
  simp [encode, Json.same_object_cons_iff]

theorem JsonConfig.same_encode_iff (a b : JsonConfig) : Same a.encode b.encode ↔ a = b := by
  obtain ⟨name, type, subtype, payload⟩ := a
  obtain ⟨name', type', subtype', payload'⟩ := b
  simp [encode, Json.same_object_cons_iff]

/-! ## Relationships -/

/-- A side that injects nothing has no word on being required; its field and the annotations of
its parameters are written as if absent and empty. -/
theorem Side.same_encode_iff (a b : Side) : Same a.encode b.encode ↔ a = b := by
  obtain ⟨name, injected, documentation, annotations, readOnly⟩ := a
  obtain ⟨name', injected', documentation', annotations', readOnly'⟩ := b
  have hkeyed := @Json.same_list_iff _ _ KeyedAnnotation.same_encode_iff
  cases injected with
  | none =>
      cases injected' with
      | none => simp [encode, Json.same_object_cons_iff, hkeyed]
      | some injected' => simp [encode, Json.same_object_cons_iff, hkeyed]
  | some injected =>
      cases injected' with
      | none => simp [encode, Json.same_object_cons_iff, hkeyed]
      | some injected' =>
          obtain ⟨text, parameters, required⟩ := injected
          obtain ⟨text', parameters', required'⟩ := injected'
          -- the parts of the injected field are written apart, between those of the side
          simp [encode, Json.same_object_cons_iff, hkeyed, and_assoc, and_comm, and_left_comm]

theorem Relationship.same_encode_iff (a b : Relationship) : Same a.encode b.encode ↔ a = b := by
  obtain ⟨cardinality, source, target, options⟩ := a
  obtain ⟨cardinality', source', target', options'⟩ := b
  simp [encode, Json.same_object_cons_iff, Cardinality.name_injective.eq_iff,
    Side.same_encode_iff]

/-! ## Pages -/

/-- The text of an operation value, whether it was a data block, an identifier or a text. -/
def OperationValue.forgetKind : OperationValue → OperationValue
  | .block payload => .text payload
  | .identifier name => .text name
  | .text quoted => .text quoted

/-- An operation with the kind of its value erased. -/
def Operation.forgetKinds (operation : Operation) : Operation :=
  { operation with value := operation.value.map OperationValue.forgetKind }

/-- A group with the kinds of the values of its operations erased. -/
def OperationGroup.forgetKinds (group : OperationGroup) : OperationGroup :=
  { group with operations := group.operations.map Operation.forgetKinds }

/-- A grid cell with the kinds of operation values erased. -/
def GridCell.forgetKinds : GridCell → GridCell
  | .field reference => .field reference
  | .operations set => .operations { set with groups := set.groups.map OperationGroup.forgetKinds }

/-- A grid with the kinds of operation values erased. -/
def Grid.forgetKinds (grid : Grid) : Grid :=
  { grid with cells := grid.cells.map GridCell.forgetKinds }

/-- A block with the kinds of operation values erased; an item has no operations. -/
def Block.forgetKinds : Block → Block
  | .item child => .item child
  | .grid child => .grid child.forgetKinds

/-- A section with the kinds of operation values erased. -/
def Section.forgetKinds : Section → Section
  | .tab child => .tab { child with blocks := child.blocks.map Block.forgetKinds }
  | .block child => .block child.forgetKinds

/-- A page with the kinds of operation values erased. -/
def Page.forgetKinds (page : Page) : Page :=
  { page with sections := page.sections.map Section.forgetKinds }

theorem FieldReference.same_encode_iff (a b : FieldReference) :
    Same a.encode b.encode ↔ a = b := by
  obtain ⟨name, annotations⟩ := a
  obtain ⟨name', annotations'⟩ := b
  simp [encode, Json.same_object_cons_iff]

/-- What is written of an operation value is what its erasure keeps. -/
theorem OperationValue.forgetKind_eq (value : OperationValue) :
    value.forgetKind = .text value.content := by
  cases value <;> rfl

/-- An operation without a value is not taken for one with an empty text. -/
theorem Operation.same_encode_iff (a b : Operation) :
    Same a.encode b.encode ↔ a.forgetKinds = b.forgetKinds := by
  have hvalue : a.value.map OperationValue.content = b.value.map OperationValue.content ↔
      a.value.map OperationValue.forgetKind = b.value.map OperationValue.forgetKind := by
    cases a.value <;> cases b.value <;> simp [OperationValue.forgetKind_eq]
  simp [encode, forgetKinds, hvalue, Json.same_object_cons_iff]

theorem OperationGroup.same_encode_iff (a b : OperationGroup) :
    Same a.encode b.encode ↔ a.forgetKinds = b.forgetKinds := by
  simp [encode, forgetKinds, Json.same_object_cons_iff,
    Json.same_list_iff_map Operation.same_encode_iff]

/-- The two kinds of cell are told apart by `type`. -/
theorem GridCell.same_encode_iff (a b : GridCell) :
    Same a.encode b.encode ↔ a.forgetKinds = b.forgetKinds := by
  cases a with
  | field reference =>
      cases b with
      | field other => simp [encode, forgetKinds, FieldReference.same_encode_iff]
      | operations other =>
          simp [encode, forgetKinds, FieldReference.encode, Json.same_object_cons_iff]
  | operations set =>
      cases b with
      | field other =>
          simp [encode, forgetKinds, FieldReference.encode, Json.same_object_cons_iff]
      | operations other =>
          simp [encode, forgetKinds, Json.same_object_cons_iff,
            Json.same_list_iff_map OperationGroup.same_encode_iff]

theorem Grid.same_encode_iff (a b : Grid) :
    Same a.encode b.encode ↔ a.forgetKinds = b.forgetKinds := by
  simp [encode, forgetKinds, Json.same_object_cons_iff,
    Json.same_list_iff_map GridCell.same_encode_iff]

mutual

/-- An item is a reference or a group, told by its `type`; a group nests to any depth. -/
theorem Item.same_encode_iff : (a b : Item) → (Same a.encode b.encode ↔ a = b)
  | .field reference, .field other => by
      simp [Item.encode, FieldReference.same_encode_iff]
  | .field reference, .group name annotations items => by
      simp [Item.encode, FieldReference.encode, Json.same_object_cons_iff]
  | .group name annotations items, .field reference => by
      simp [Item.encode, FieldReference.encode, Json.same_object_cons_iff]
  | .group name annotations items, .group name' annotations' items' => by
      have hitems := same_encodeItems_iff items items'
      simp [Item.encode, Json.same_object_cons_iff, Json.same_array_iff, hitems]

/-- Lists of items by recursion on the list, as the items are written. -/
theorem same_encodeItems_iff : (items others : List Item) →
    (List.Forall₂ Same (encodeItems items) (encodeItems others) ↔ items = others)
  | [], [] => by simp [encodeItems]
  | [], _ :: _ => by simp [encodeItems]
  | _ :: _, [] => by simp [encodeItems]
  | item :: items, other :: others => by
      simp [encodeItems, item.same_encode_iff other, same_encodeItems_iff items others]

end

theorem Block.same_encode_iff (a b : Block) :
    Same a.encode b.encode ↔ a.forgetKinds = b.forgetKinds := by
  -- an item is written as a field or a group, and a grid is neither
  have hne : ∀ (item : Item) (grid : Grid),
      ¬ Same item.encode grid.encode ∧ ¬ Same grid.encode item.encode := by
    intro item grid
    cases item <;>
      simp [Item.encode, FieldReference.encode, Grid.encode, Json.same_object_cons_iff]
  cases a with
  | item child =>
      cases b with
      | item other => simp [encode, forgetKinds, Item.same_encode_iff]
      | grid other => simp [encode, forgetKinds, hne]
  | grid child =>
      cases b with
      | item other => simp [encode, forgetKinds, hne]
      | grid other => simp [encode, forgetKinds, Grid.same_encode_iff]

theorem Section.same_encode_iff (a b : Section) :
    Same a.encode b.encode ↔ a.forgetKinds = b.forgetKinds := by
  -- a block is written as a field, a group or a grid, and a tab is none of them
  have hne : ∀ (tab : Tab) (block : Block),
      ¬ Same (Section.tab tab).encode block.encode ∧
        ¬ Same block.encode (Section.tab tab).encode := by
    intro tab block
    rcases block with (reference | ⟨name, annotations, items⟩) | grid <;>
      simp [encode, Block.encode, Item.encode, FieldReference.encode, Grid.encode,
        Json.same_object_cons_iff]
  cases a with
  | tab child =>
      cases b with
      | tab other =>
          obtain ⟨name, annotations, blocks⟩ := child
          obtain ⟨name', annotations', blocks'⟩ := other
          simp [encode, forgetKinds, Json.same_object_cons_iff,
            Json.same_list_iff_map Block.same_encode_iff]
      | block other => simpa [forgetKinds, encode] using (hne child other).1
  | block child =>
      cases b with
      | tab other => simpa [forgetKinds, encode] using (hne other child).2
      | block other => simp [encode, forgetKinds, Block.same_encode_iff]

theorem Page.same_encode_iff (a b : Page) :
    Same a.encode b.encode ↔ a.forgetKinds = b.forgetKinds := by
  simp [encode, forgetKinds, Json.same_object_cons_iff,
    Json.same_list_iff_map Section.same_encode_iff]

/-! ## Options -/

/-- Slots that differ only in the order of values. -/
def OptionSlot.Reordered : OptionSlot → OptionSlot → Prop
  | .flag entry, .flag other => entry = other
  | .valued entries, .valued others => entries.Reordered others
  | _, _ => False

/-- Tables that differ only in the order of families and values. -/
def OptionTable.Reordered (table other : OptionTable) : Prop :=
  ∀ family, Option.Rel OptionSlot.Reordered (table.slot? family) (other.slot? family)

theorem OptionEntry.same_encode_iff (a b : OptionEntry) : Same a.encode b.encode ↔ a = b := by
  obtain ⟨included, excluded⟩ := a
  obtain ⟨included', excluded'⟩ := b
  simp [encode, Json.same_object_cons_iff]

/-- The slots of the two kinds are written differently: a flag has a list of names under the key
`list`, and under no key of a value-bearing slot stands a list. -/
theorem OptionSlot.not_same_encode (entry : OptionEntry)
    (entries : OrderedMap String OptionEntry) :
    ¬ Same (flag entry).encode (valued entries).encode ∧
      ¬ Same (valued entries).encode (flag entry).encode := by
  constructor
  · intro h
    have hkey : Option.Rel Same (some (.strings entry.included))
        ((entries.mapValues OptionEntry.encode).get? "list") := Json.same_object_iff.1 h "list"
    rw [OrderedMap.get?_mapValues] at hkey
    cases hentry : entries.get? "list" <;>
      simp [hentry, OptionEntry.encode, Json.strings, Json.list, Json.same_iff] at hkey
  · intro h
    have hkey : Option.Rel Same ((entries.mapValues OptionEntry.encode).get? "list")
        (some (.strings entry.included)) := Json.same_object_iff.1 h "list"
    rw [OrderedMap.get?_mapValues] at hkey
    cases hentry : entries.get? "list" <;>
      simp [hentry, OptionEntry.encode, Json.strings, Json.list, Json.same_iff] at hkey

theorem OptionSlot.same_encode_iff (a b : OptionSlot) :
    Same a.encode b.encode ↔ a.Reordered b := by
  cases a with
  | flag entry =>
      cases b with
      | flag other => exact OptionEntry.same_encode_iff entry other
      | valued others => simp [Reordered, not_same_encode]
  | valued entries =>
      cases b with
      | flag other => simp [Reordered, not_same_encode]
      | valued others => exact Json.same_object_reordered_iff OptionEntry.same_encode_iff _ _

/-- A table is an object with one key for each family. -/
theorem OptionTable.same_encode_iff (a b : OptionTable) :
    Same a.encode b.encode ↔ a.Reordered b :=
  Json.same_object_entries_iff OptionFamily.name_injective OptionSlot.same_encode_iff _ _

/-- Among the tables that declarations make, only values can be reordered: flags have equal
entries, and the other families equal entries for equal values. -/
theorem OptionTable.WellShaped.reordered_iff {table other : OptionTable} (h : table.WellShaped)
    (h' : other.WellShaped) : table.Reordered other ↔
      (∀ family : OptionFamily, family.carriesValue = false →
        table.flagEntry family = other.flagEntry family) ∧
      ∀ family : OptionFamily, family.carriesValue = true →
        (table.values family).Reordered (other.values family) := by
  constructor
  · intro hreordered
    constructor
    · intro family hfamily
      have hslot := hreordered family
      rw [h.flag hfamily, h'.flag hfamily] at hslot
      cases hslot with
      | some hentries => exact hentries
    · intro family hfamily
      have hslot := hreordered family
      rw [h.valued hfamily, h'.valued hfamily] at hslot
      cases hslot with
      | some hentries => exact hentries
  · rintro ⟨hflags, hvalues⟩ family
    cases hfamily : family.carriesValue with
    | false =>
        rw [h.flag hfamily, h'.flag hfamily]
        exact .some (hflags family hfamily)
    | true =>
        rw [h.valued hfamily, h'.valued hfamily]
        exact .some (hvalues family hfamily)

/-! ## Documents -/

/-- A document with all kinds erased that are not written. -/
def Document.forgetKinds (document : Document) : Document :=
  { document with
    applications := document.applications.map Application.forgetKinds
    deployments := document.deployments.map Config.forgetKinds
    entities := document.entities.map Entity.forgetKinds
    pages := document.pages.map Page.forgetKinds }

/-- Documents that differ only in the order of the entries of their maps: constants,
configurations and option values. -/
@[mk_iff]
structure Document.Reordered (d e : Document) : Prop where
  /-- Applications correspond in order; their configurations have the same keys and values. -/
  applications : List.Forall₂ Application.Reordered d.applications e.applications
  /-- Deployments correspond in order and have the same keys and values. -/
  deployments : List.Forall₂ OrderedMap.Reordered d.deployments e.deployments
  /-- The same constants have the same numbers. -/
  constants : d.constants.Reordered e.constants
  /-- Entities are equal. -/
  entities : d.entities = e.entities
  /-- Datasets are equal. -/
  datasets : d.datasets = e.datasets
  /-- Pages are equal. -/
  pages : d.pages = e.pages
  /-- JSON configurations are equal. -/
  jsonConfigs : d.jsonConfigs = e.jsonConfigs
  /-- Relationships are equal. -/
  relationships : d.relationships = e.relationships
  /-- Enumerations are equal. -/
  enums : d.enums = e.enums
  /-- Every family has the same values with the same entries. -/
  options : d.options.Reordered e.options

theorem same_encodeConstants_iff (constants others : OrderedMap String String) :
    Same (encodeConstants constants) (encodeConstants others) ↔ constants.Reordered others :=
  Json.same_object_reordered_iff (fun _ _ => Json.same_string_iff) constants others

/-- Serialisation loses the erased kinds and the order of entries, and nothing else. -/
theorem Document.same_serialisation_iff (d e : Document) :
    Same d.encode e.encode ↔ d.forgetKinds.Reordered e.forgetKinds := by
  have happlications : Same (.list Application.encode d.applications)
      (.list Application.encode e.applications) ↔
      List.Forall₂ Application.Reordered d.forgetKinds.applications e.forgetKinds.applications :=
    Json.same_list_iff_forall₂ Application.same_encode_iff
  have hdeployments : Same (.list Config.encode d.deployments)
      (.list Config.encode e.deployments) ↔
      List.Forall₂ OrderedMap.Reordered d.forgetKinds.deployments e.forgetKinds.deployments :=
    Json.same_list_iff_forall₂ Config.same_encode_iff
  rw [Document.reordered_iff]
  simp [encode, forgetKinds, Json.same_object_cons_iff, happlications, hdeployments,
    same_encodeConstants_iff, Json.same_list_iff_map Entity.same_encode_iff,
    Json.same_list_iff Dataset.same_encode_iff, Json.same_list_iff_map Page.same_encode_iff,
    Json.same_list_iff JsonConfig.same_encode_iff,
    Json.same_list_iff Relationship.same_encode_iff, Json.same_list_iff Enum.same_encode_iff,
    OptionTable.same_encode_iff]

/-- A document with a deployment, an entity whose field has a validation, and a page whose grid has
an operation with a value. -/
def sampleDocument (config : Config) (validation : Validation) (value : OperationValue) :
    Document :=
  { Document.empty with
    deployments := [config]
    entities := [⟨[], "Book", "book", [⟨"title", "String", [validation], none, []⟩], none⟩]
    pages := [⟨"Shelf", "Book", [], [.block (.grid ⟨"rows", [], [.operations ⟨[],
      [⟨"open", [], [⟨"target", some value⟩]⟩]⟩]⟩)]⟩] }

/-- Two configuration keys, with the kind of the first value left open. -/
def sampleConfig (port : ConfigValue) : Config :=
  .ofList [("port", port), ("monitoring", .boolean true)]

/-- The same keys in the other order. -/
def sampleConfigReordered (port : ConfigValue) : Config :=
  .ofList [("monitoring", .boolean true), ("port", port)]

/-- Kinds and order may differ. The text of a value, the keyword of a validation and its mark may
not, nor may a list be taken for a text. -/
theorem same_serialisation_iff_sample :
    Same (sampleDocument (sampleConfig (.integer "80")) .required (.identifier "save")).encode
      (sampleDocument (sampleConfigReordered (.string "80")) (.bound "required" "" false)
        (.block "save")).encode ∧
    ¬ Same (sampleDocument (sampleConfig (.integer "80")) .required (.identifier "save")).encode
      (sampleDocument (sampleConfig (.integer "80")) .required (.identifier "drop")).encode ∧
    ¬ Same (sampleDocument (sampleConfig (.integer "80")) (.pattern "80") (.text "save")).encode
      (sampleDocument (sampleConfig (.integer "80")) (.readOnly "80") (.text "save")).encode ∧
    ¬ Same (sampleDocument (sampleConfig (.integer "80")) (.bound "min" "LOW" true)
        (.text "save")).encode
      (sampleDocument (sampleConfig (.integer "80")) (.bound "min" "LOW" false)
        (.text "save")).encode ∧
    ¬ Same (sampleDocument (sampleConfig (.string "80")) .unique (.text "save")).encode
      (sampleDocument (sampleConfig (.list ["80"])) .unique (.text "save")).encode := by
  refine ⟨?_, ?_, ?_, ?_, ?_⟩
  · have hconfig : OrderedMap.Reordered (Config.forgetKinds (sampleConfig (.integer "80")))
        (Config.forgetKinds (sampleConfigReordered (.string "80"))) := List.Perm.swap _ _ _
    have hoptions : OptionTable.empty.Reordered .empty :=
      (OptionTable.wellShaped_empty.reordered_iff OptionTable.wellShaped_empty).2
        ⟨fun _ _ => rfl, fun _ _ => List.Perm.refl _⟩
    rw [Document.same_serialisation_iff]
    exact ⟨.nil, .cons hconfig .nil, .nil, rfl, rfl, rfl, rfl, rfl, rfl, hoptions⟩
  · intro h
    have hpages := ((Document.same_serialisation_iff _ _).1 h).pages
    simp [sampleDocument, Document.forgetKinds, Page.forgetKinds, Section.forgetKinds,
      Block.forgetKinds, Grid.forgetKinds, GridCell.forgetKinds, OperationGroup.forgetKinds,
      Operation.forgetKinds, OperationValue.forgetKind] at hpages
  · intro h
    exact absurd ((Document.same_serialisation_iff _ _).1 h).entities (by decide)
  · intro h
    exact absurd ((Document.same_serialisation_iff _ _).1 h).entities (by decide)
  · intro h
    -- the port is a text in one of the deployments only
    cases ((Document.same_serialisation_iff _ _).1 h).deployments with
    | cons hconfig _ =>
        have hport := hconfig.mem_iff (a := ("port", .string "80"))
        revert hport
        decide

end DomainModel
