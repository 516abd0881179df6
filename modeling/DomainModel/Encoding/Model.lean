import DomainModel.Encoding.Json
import DomainModel.Model.Document

/-!
# Serialised documents

How every part of a document is written. A choice between shapes is told by a `type` field where
the shapes share their fields, and by the value itself where they do not. Text that is absent is
`null`, except for the value of an enumeration key and the word on whether a side is required:
their fields are left out.

## What this module delivers

- `encode` for annotations, options, entities, enumerations, configurations, payloads,
  relationships and pages.
- `Document.encode`: the whole document.
-/

set_option autoImplicit false

namespace DomainModel

/-! ## Annotations and options -/

/-- A bare key is its text, a pair an object. -/
def MapEntry.encode : MapEntry → Json
  | .bare key => .string key
  | .pair key value => .object [("key", .string key), ("value", .string value)]

/-- The fields of an annotation: its kind, its name, and its value if it has one. -/
def Annotation.fields (a : Annotation) : List (String × Json) :=
  [("type", .string a.kind.text), ("optionName", .string a.name)] ++
    match a.value with
    | .flag => []
    | .single value => [("optionValue", .string value)]
    | .entries entries => [("optionValue", .list MapEntry.encode entries)]

/-- An annotation is the object of its fields. -/
def Annotation.encode (a : Annotation) : Json := .object a.fields

/-- A keyed annotation has its key beside the fields of the annotation. -/
def KeyedAnnotation.encode (keyed : KeyedAnnotation) : Json :=
  .object (("key", .string keyed.key) :: keyed.annotation.fields)

/-- An entry is the object of its two lists. -/
def OptionEntry.encode (entry : OptionEntry) : Json :=
  .object [("list", .strings entry.included), ("excluded", .strings entry.excluded)]

/-- A flag slot is its entry, the slot of a value-bearing family the object of its values. -/
def OptionSlot.encode : OptionSlot → Json
  | .flag entry => entry.encode
  | .valued entries => .object (entries.entries.map fun (value, entry) => (value, entry.encode))

/-- A table is the object of its families. -/
def OptionTable.encode (table : OptionTable) : Json :=
  .object (table.slots.entries.map fun (family, slot) => (family.name, slot.encode))

/-! ## Entities and enumerations -/

/-- A validation is its keyword and argument; an argument that names a constant is marked. -/
def Validation.encode (validation : Validation) : Json :=
  .object ([("key", .string validation.key), ("value", .string validation.value)] ++
    if validation.isConstantReference then [("constant", .boolean true)] else [])

/-- A field is the object of its parts. -/
def Field.encode (field : Field) : Json :=
  .object [("name", .string field.name), ("type", .string field.type),
    ("validations", .list Validation.encode field.validations),
    ("documentation", .ofOption field.documentation),
    ("annotations", .list Annotation.encode field.annotations)]

/-- An entity is the object of its parts. -/
def Entity.encode (entity : Entity) : Json :=
  .object [("annotations", .list Annotation.encode entity.annotations),
    ("name", .string entity.name), ("tableName", .string entity.tableName),
    ("fields", .list Field.encode entity.fields),
    ("documentation", .ofOption entity.documentation)]

/-- A key of an enumeration has its value only when there is one. -/
def EnumValue.encode (value : EnumValue) : Json :=
  .object (("key", .string value.key) ::
    match value.value with
    | some text => [("value", .string text)]
    | none => [])

/-- An enumeration is the object of its parts. -/
def Enum.encode (enumeration : Enum) : Json :=
  .object [("name", .string enumeration.name),
    ("values", .list EnumValue.encode enumeration.values)]

/-! ## Configurations and payloads -/

/-- A value is its text, its list of texts, or its truth value; the kind of a text is not told. -/
def ConfigValue.encode : ConfigValue → Json
  | .qualified text | .integer text | .string text => .string text
  | .list names => .strings names
  | .boolean value => .boolean value

/-- A configuration is the object of its keys. -/
def Config.encode (config : Config) : Json :=
  .object (config.entries.map fun (key, value) => (key, value.encode))

/-- A selection is the object of its two lists. -/
def EntitySelection.encode (selection : EntitySelection) : Json :=
  .object [("entityList", .strings selection.entities), ("excluded", .strings selection.excluded)]

/-- An application is its configuration and its selection. -/
def Application.encode (application : Application) : Json :=
  .object [("config", Config.encode application.config),
    ("entities", application.selection.encode)]

/-- A dataset is the object of its parts. -/
def Dataset.encode (dataset : Dataset) : Json :=
  .object [("name", .string dataset.name), ("payload", .string dataset.payload)]

/-- A JSON configuration is the object of its parts. -/
def JsonConfig.encode (config : JsonConfig) : Json :=
  .object [("name", .string config.name), ("type", .string config.type),
    ("subtype", .string config.subtype), ("payload", .string config.payload)]

/-! ## Relationships -/

/-- A side is the object of its parts. Whether it is required is told only with an injected
field. -/
def Side.encode (side : Side) : Json :=
  .object ([("name", .string side.name),
    ("injectedField", .ofOption (side.injected.map InjectedField.text)),
    ("documentation", .ofOption side.documentation),
    ("annotations", .list Annotation.encode side.annotations),
    ("annotationsOfField", .list KeyedAnnotation.encode
      ((side.injected.map InjectedField.annotations).getD [])),
    ("readonly", .ofOption side.readOnly)] ++
    match side.injected with
    | some injected => [("required", .boolean injected.required)]
    | none => [])

/-- A relationship is the object of its parts. -/
def Relationship.encode (relationship : Relationship) : Json :=
  .object [("cardinality", .string relationship.cardinality.name),
    ("from", relationship.source.encode), ("to", relationship.target.encode),
    ("options", .list Annotation.encode relationship.options)]

/-! ## Pages

Every node of a page tree tells its kind. -/

/-- A reference to a field. -/
def FieldReference.encode (reference : FieldReference) : Json :=
  .object [("type", .string "field"), ("name", .string reference.name),
    ("annotations", .list Annotation.encode reference.annotations)]

/-- One operation, with the text of its value. -/
def Operation.encode (operation : Operation) : Json :=
  .object [("type", .string "field"), ("key", .string operation.key),
    ("value", .ofOption (operation.value.map OperationValue.content))]

/-- A group of operations. -/
def OperationGroup.encode (group : OperationGroup) : Json :=
  .object [("type", .string "action"), ("key", .string group.key),
    ("annotations", .list Annotation.encode group.annotations),
    ("actions", .list Operation.encode group.operations)]

/-- A child of a grid. -/
def GridCell.encode : GridCell → Json
  | .field reference => reference.encode
  | .operations set => .object [("type", .string "operate"),
      ("annotations", .list Annotation.encode set.annotations),
      ("operates", .list OperationGroup.encode set.groups)]

/-- A grid. -/
def Grid.encode (grid : Grid) : Json :=
  .object [("type", .string "grid"), ("name", .string grid.name),
    ("annotations", .list Annotation.encode grid.annotations),
    ("fields", .list GridCell.encode grid.cells)]

mutual

/-- A child of a group. -/
def Item.encode : Item → Json
  | .field reference => reference.encode
  | .group name annotations items => .object [("type", .string "group"), ("name", .string name),
      ("annotations", .list Annotation.encode annotations), ("values", .array (encodeItems items))]

/-- The children of a group, in order. -/
def encodeItems : List Item → List Json
  | [] => []
  | item :: rest => item.encode :: encodeItems rest

end

theorem encodeItems_eq_map (items : List Item) : encodeItems items = items.map Item.encode := by
  induction items with
  | nil => rfl
  | cons item rest ih => simp [encodeItems, ih]

/-- A child of a tab. -/
def Block.encode : Block → Json
  | .item child => child.encode
  | .grid child => child.encode

/-- A child of a page. -/
def Section.encode : Section → Json
  | .tab child => .object [("type", .string "tab"), ("name", .string child.name),
      ("annotations", .list Annotation.encode child.annotations),
      ("values", .list Block.encode child.blocks)]
  | .block child => child.encode

/-- A page. -/
def Page.encode (page : Page) : Json :=
  .object [("type", .string "page"), ("name", .string page.name), ("entity", .string page.entity),
    ("annotations", .list Annotation.encode page.annotations),
    ("values", .list Section.encode page.sections)]

/-! ## Documents -/

/-- Constants are the object of their names. -/
def encodeConstants (constants : OrderedMap String String) : Json :=
  .object (constants.entries.map fun (name, value) => (name, .string value))

/-- A document is the object of its collections. -/
def Document.encode (document : Document) : Json :=
  .object [("applications", .list Application.encode document.applications),
    ("deployments", .list Config.encode document.deployments),
    ("constants", encodeConstants document.constants),
    ("entities", .list Entity.encode document.entities),
    ("datasets", .list Dataset.encode document.datasets),
    ("pages", .list Page.encode document.pages),
    ("jsonConfigs", .list JsonConfig.encode document.jsonConfigs),
    ("relationships", .list Relationship.encode document.relationships),
    ("enums", .list Enum.encode document.enums),
    ("options", document.options.encode)]

end DomainModel
