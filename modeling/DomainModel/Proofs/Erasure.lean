import DomainModel.Declared.Program

/-!
# Erasing locations

A declaration carries more than it means: every token has its place in the source, and some tokens
only mark that something is there. `erase` takes all of it away. Tokens keep their texts and lose
their places; tokens that are markers lose their texts as well. Two declarations with the same
erasure are of the same shape and have the same texts at corresponding places, however they are
laid out. This module shows for every form of declaration that its erasure means what it means.

## What this module delivers

- `Token.erase`, `Token.marker`: a token without its place, and a token without anything.
- `erase` for every declared form, `Program.erase` for all of them.
- `toModel_erase`, `entry_erase`, `value_erase`, `resolve_erase` and the like: what is meant does
  not change.
-/

set_option autoImplicit false

namespace DomainModel

/-! ## Tokens -/

namespace Token

/-- The token with its text and without its place. -/
def erase (token : Token) : Token := ⟨token.image, ⟨0, 0⟩⟩

/-- The token that stands for any marker. -/
def marker : Token := ⟨"", ⟨0, 0⟩⟩

@[simp]
theorem image_erase (token : Token) : token.erase.image = token.image := rfl

/-- Nothing but the text of a token is left. -/
theorem erase_eq_erase_iff (t u : Token) : t.erase = u.erase ↔ t.image = u.image := by
  constructor
  · intro h
    have himage : t.erase.image = u.erase.image := by rw [h]
    exact himage
  · intro h
    rw [erase, erase, h]

@[simp]
theorem images_map_erase (tokens : List Token) : images (tokens.map erase) = images tokens := by
  rw [images, List.map_map]
  rfl

/-- A dotted name is put together from texts. -/
@[simp]
theorem dotted_map_erase (tokens : List Token) : dotted (tokens.map erase) = dotted tokens := by
  rw [dotted, images_map_erase, dotted]

@[simp]
theorem map_image_erase (token : Option Token) : (token.map erase).map image = token.map image := by
  cases token <;> rfl

end Token

namespace Declared

/-! ## Lists of declarations

What an erased list of declarations means follows from what its members mean. -/

section Lists

variable {α β σ : Type} {erase : α → α}

/-- Declarations that mean the same without their places mean the same as a list. -/
theorem map_erase {value : α → β} (h : ∀ a, value (erase a) = value a) (declarations : List α) :
    (declarations.map erase).map value = declarations.map value := by
  rw [List.map_map]
  apply List.map_congr_left
  intro a _
  exact h a

/-- Declarations in runs are read as one list, so the runs may be erased one by one. -/
theorem flatten_map_erase {value : α → β} (h : ∀ a, value (erase a) = value a)
    (runs : List (List α)) :
    (runs.map (List.map erase)).flatten.map value = runs.flatten.map value := by
  rw [← List.map_flatten]
  exact map_erase h runs.flatten

/-- When each declaration takes a state on, the whole list does. -/
theorem foldl_map_erase {step : σ → α → σ} (h : ∀ s a, step s (erase a) = step s a) (s : σ)
    (declarations : List α) :
    (declarations.map erase).foldl step s = declarations.foldl step s := by
  rw [List.foldl_map]
  congr 1
  funext s a
  exact h s a

/-- A declaration may be absent; erasing does not bring it about. -/
theorem option_map_erase {value : α → β} (h : ∀ a, value (erase a) = value a)
    (declared : Option α) : (declared.map erase).map value = declared.map value := by
  cases declared with
  | none => rfl
  | some a => exact congrArg some (h a)

end Lists

/-! ## Annotations -/

/-- A variable keeps its form: whether it has a value, and which of its texts are quoted. -/
def Variable.erase : Variable → Variable
  | .pair key value => .pair key.erase value.erase
  | .bare key => .bare key.erase
  | .quoted key => .quoted key.erase
  | .quotedPair key value => .quotedPair key.erase value.erase

/-- An identifier is one token, a block one variable after another. -/
def Argument.erase : Argument → Argument
  | .identifier word => .identifier word.erase
  | .block declared => .block (declared.map Variable.erase)

/-- An annotation keeps its name and, if it has one, its argument. -/
def Annotation.erase (a : Annotation) : Annotation :=
  ⟨a.option.erase, a.argument.map Argument.erase⟩

theorem Variable.entry_erase (declared : Variable) : declared.erase.entry = declared.entry := by
  cases declared <;> rfl

theorem Argument.value_erase (argument : Argument) : argument.erase.value = argument.value := by
  cases argument with
  | identifier word => rfl
  | block declared =>
      rw [erase, value, map_erase Variable.entry_erase, value]

/-- The kind of an annotation is told by the form of its argument, which stays. -/
theorem Annotation.toModel_erase (a : Annotation) : a.erase.toModel = a.toModel := by
  obtain ⟨option, argument⟩ := a
  cases argument with
  | none => rfl
  | some argument =>
      have hvalue := argument.value_erase
      simp [erase, toModel, hvalue]

@[simp]
theorem modelAnnotations_map_erase (declared : List Annotation) :
    modelAnnotations (declared.map Annotation.erase) = modelAnnotations declared :=
  map_erase Annotation.toModel_erase declared

/-! ## Constants, entities and enumerations -/

/-- A number keeps its digits as they are written. -/
def Numeral.erase : Numeral → Numeral
  | .integer digits => .integer digits.erase
  | .decimal digits => .decimal digits.erase

/-- A constant is its name and its number. -/
def Constant.erase (constant : Constant) : Constant :=
  ⟨constant.name.erase, constant.value.erase⟩

/-- A bound by a literal stays one by a literal, and one by a constant one by a constant. -/
def BoundArgument.erase : BoundArgument → BoundArgument
  | .literal value => .literal value.erase
  | .constant name => .constant name.erase

/-- The words `required` and `unique` are markers. -/
def Validation.erase : Validation → Validation
  | .required _ => .required .marker
  | .unique _ => .unique .marker
  | .bound keyword argument => .bound keyword.erase argument.erase
  | .pattern regex => .pattern regex.erase
  | .readOnly regex => .readOnly regex.erase

/-- A field with its comment, its annotations and its validations, all without places. -/
def Field.erase (field : Field) : Field where
  annotations := field.annotations.map Annotation.erase
  comment := field.comment.map Token.erase
  name := field.name.erase
  type := field.type.erase
  validations := field.validations.map Validation.erase

/-- An entity, field by field. A table name that is not given is not made up. -/
def Entity.erase (entity : Entity) : Entity where
  annotations := entity.annotations.map Annotation.erase
  comment := entity.comment.map Token.erase
  name := entity.name.erase
  tableName := entity.tableName.map Token.erase
  fields := entity.fields.map Field.erase

/-- A key of an enumeration, with its value if there is one. -/
def EnumValue.erase (declared : EnumValue) : EnumValue :=
  ⟨declared.key.erase, declared.value.map Token.erase⟩

/-- An enumeration, key by key. -/
def Enum.erase (declared : Enum) : Enum :=
  ⟨declared.name.erase, declared.values.map EnumValue.erase⟩

@[simp]
theorem Numeral.image_token_erase (value : Numeral) :
    value.erase.token.image = value.token.image := by
  cases value <;> rfl

/-- The markers of a comment are found in its text alone. -/
@[simp]
theorem documentation_map_erase (written : Option Token) :
    documentation (written.map Token.erase) = documentation written := by
  cases written <;> rfl

/-- What a validation means is told by its form, so the two markers may lose their words. -/
theorem Validation.toModel_erase (declared : Validation) :
    declared.erase.toModel = declared.toModel := by
  cases declared with
  | required keyword => rfl
  | unique keyword => rfl
  | pattern regex => rfl
  | readOnly regex => rfl
  | bound keyword argument =>
      cases argument with
      | literal value => cases value <;> rfl
      | constant name => rfl

theorem Field.toModel_erase (field : Field) : field.erase.toModel = field.toModel := by
  have hvalidations := map_erase Validation.toModel_erase field.validations
  simp only [erase, toModel, hvalidations, Token.image_erase, documentation_map_erase,
    modelAnnotations_map_erase]

/-- An entity without a table name takes its own, and both names keep their texts. -/
theorem Entity.toModel_erase (entity : Entity) : entity.erase.toModel = entity.toModel := by
  have hfields := map_erase Field.toModel_erase entity.fields
  have htable : ((entity.tableName.map Token.erase).getD entity.name.erase).image =
      (entity.tableName.getD entity.name).image := by
    cases entity.tableName <;> rfl
  simp only [erase, toModel, hfields, htable, Token.image_erase, documentation_map_erase,
    modelAnnotations_map_erase]

theorem EnumValue.toModel_erase (declared : EnumValue) :
    declared.erase.toModel = declared.toModel := by
  rw [erase, toModel, Token.map_image_erase, Token.image_erase, toModel]

theorem Enum.toModel_erase (declared : Enum) : declared.erase.toModel = declared.toModel := by
  rw [erase, toModel, map_erase EnumValue.toModel_erase, Token.image_erase, toModel]

/-- Constants are entered by the texts of their names and numbers. -/
theorem constantPairs_erase (constants : List Constant) :
    ((constants.map Constant.erase).map fun constant =>
        (constant.name.image, constant.value.token.image)) =
      constants.map fun constant => (constant.name.image, constant.value.token.image) := by
  apply map_erase
  intro constant
  rw [Constant.erase, Numeral.image_token_erase, Token.image_erase]

/-! ## Selectors and options -/

/-- The star is a marker. -/
def Filter.erase (filter : Filter) : Filter :=
  ⟨filter.names.map Token.erase, filter.star.map fun _ => .marker⟩

/-- The star is a marker. -/
def ValueSelector.erase (selector : ValueSelector) : ValueSelector where
  names := selector.names.map Token.erase
  star := selector.star.map fun _ => .marker
  method := selector.method.map Token.erase
  methodPath := selector.methodPath.map Token.erase

/-- The names after `except`, without their places. -/
def eraseExclusion (exclusion : Option (List Token)) : Option (List Token) :=
  exclusion.map (List.map Token.erase)

/-- A flag declaration: its name, its selector and the names after `except`. -/
def FlagOption.erase (declared : FlagOption) : FlagOption :=
  ⟨declared.option.erase, declared.filter.erase, eraseExclusion declared.exclusion⟩

/-- A value-bearing declaration; its value is among the tokens of the selector. -/
def ValueOption.erase (declared : ValueOption) : ValueOption :=
  ⟨declared.option.erase, declared.selector.erase, eraseExclusion declared.exclusion⟩

/-- Only the presence of a star counts. -/
@[simp]
theorem selectsAll_marker (names : List String) (star : Option Token) :
    selectsAll names (star.map fun _ => .marker) = selectsAll names star := by
  rw [selectsAll, Option.isSome_map, selectsAll]

/-- A flag selects by the texts of its names and by whether there is a star. -/
theorem Filter.resolve_erase (filter : Filter) : filter.erase.resolve = filter.resolve := by
  rw [resolve, resolve, erase]
  simp only [Token.images_map_erase, selectsAll_marker]

/-- Value and names are taken from the same combined list of texts. -/
theorem ValueSelector.resolve?_erase (selector : ValueSelector) :
    selector.erase.resolve? = selector.resolve? := by
  have hcombined : selector.erase.combined = selector.combined := by
    rw [combined, combined, erase]
    simp only [Token.images_map_erase, selectsAll_marker, Token.map_image_erase]
  rw [resolve?, hcombined, resolve?]

@[simp]
theorem excludedNames_erase (exclusion : Option (List Token)) :
    excludedNames (eraseExclusion exclusion) = excludedNames exclusion := by
  cases exclusion with
  | none => rfl
  | some names => exact Token.images_map_erase names

/-! ## Applications, deployments and payloads -/

/-- A configuration value keeps its kind. -/
def ConfigValue.erase : ConfigValue → ConfigValue
  | .qualified parts => .qualified (parts.map Token.erase)
  | .list names => .list (names.map Token.erase)
  | .integer digits => .integer digits.erase
  | .string quoted => .string quoted.erase
  | .boolean word => .boolean word.erase

/-- One key of a configuration with its value. -/
def ConfigEntry.erase (entry : ConfigEntry) : ConfigEntry :=
  ⟨entry.key.erase, entry.value.erase⟩

/-- A selection of entities: selector and exclusion. -/
def EntitiesClause.erase (clause : EntitiesClause) : EntitiesClause :=
  ⟨clause.filter.erase, eraseExclusion clause.exclusion⟩

/-- All clauses of an application, also those that do not count. -/
def Application.erase (application : Application) : Application :=
  ⟨application.configs.map (List.map ConfigEntry.erase),
    application.selections.map EntitiesClause.erase⟩

/-- A deployment, entry by entry. -/
def Deployment.erase (deployment : Deployment) : Deployment :=
  ⟨deployment.entries.map ConfigEntry.erase⟩

/-- The markers of the data block are part of the text of its token, so they stay. -/
def Dataset.erase (dataset : Dataset) : Dataset := ⟨dataset.name.erase, dataset.body.erase⟩

/-- Name, type, subtype and data block of a JSON configuration. -/
def JsonConfig.erase (config : JsonConfig) : JsonConfig :=
  ⟨config.name.erase, config.type.erase, config.subtype.erase, config.body.erase⟩

@[simp]
theorem ConfigValue.toModel_erase (value : ConfigValue) : value.erase.toModel = value.toModel := by
  cases value with
  | qualified parts => rw [erase, toModel, Token.dotted_map_erase, toModel]
  | list names => rw [erase, toModel, Token.images_map_erase, toModel]
  | integer digits => rfl
  | string quoted => rfl
  | boolean word => rfl

/-- Keys are compared by their texts, so entries fall together as before. -/
theorem plainConfig_map_erase (entries : List ConfigEntry) :
    plainConfig (entries.map ConfigEntry.erase) = plainConfig entries := by
  apply foldl_map_erase
  intro config entry
  rw [ConfigEntry.erase, ConfigValue.toModel_erase, Token.image_erase]

/-- Whether a folder is derived depends on texts only. -/
theorem applicationConfig_map_erase (entries : List ConfigEntry) :
    applicationConfig (entries.map ConfigEntry.erase) = applicationConfig entries := by
  apply foldl_map_erase
  intro config entry
  simp only [applicationStep, ConfigEntry.erase, ConfigValue.toModel_erase, Token.image_erase]

theorem EntitiesClause.toModel_erase (clause : EntitiesClause) :
    clause.erase.toModel = clause.toModel := by
  rw [erase, toModel, Filter.resolve_erase, excludedNames_erase, toModel]

/-- The last clause of each sort is the erasure of the last clause. -/
theorem Application.toModel_erase (application : Application) :
    application.erase.toModel = application.toModel := by
  have hconfig : (application.configs.map (List.map ConfigEntry.erase)).getLast?.map
      applicationConfig = application.configs.getLast?.map applicationConfig := by
    rw [List.getLast?_map, Option.map_map]
    congr 1
    funext entries
    exact applicationConfig_map_erase entries
  have hselection : (application.selections.map EntitiesClause.erase).getLast?.map
      EntitiesClause.toModel = application.selections.getLast?.map EntitiesClause.toModel := by
    rw [List.getLast?_map, Option.map_map]
    congr 1
    funext clause
    exact clause.toModel_erase
  rw [erase, toModel, hconfig, hselection, toModel]

theorem Deployment.toModel_erase (deployment : Deployment) :
    deployment.erase.toModel = deployment.toModel :=
  plainConfig_map_erase deployment.entries

theorem Dataset.toModel_erase (dataset : Dataset) : dataset.erase.toModel = dataset.toModel := rfl

theorem JsonConfig.toModel_erase (config : JsonConfig) : config.erase.toModel = config.toModel :=
  rfl

/-! ## Pages -/

/-- A reference with the parts of its path. -/
def FieldReference.erase (reference : FieldReference) : FieldReference :=
  ⟨reference.annotations.map Annotation.erase, reference.names.map Token.erase⟩

/-- An operation with all that it is given to work with. -/
def Operation.erase (operation : Operation) : Operation where
  key := operation.key.erase
  identifier := operation.identifier.map Token.erase
  dataBlock := operation.dataBlock.map Token.erase
  text := operation.text.map Token.erase

/-- A group of operations, one by one. -/
def OperationGroup.erase (group : OperationGroup) : OperationGroup where
  annotations := group.annotations.map Annotation.erase
  name := group.name.erase
  operations := group.operations.map Operation.erase

/-- A set of operations, group by group. -/
def OperationSet.erase (set : OperationSet) : OperationSet :=
  ⟨set.annotations.map Annotation.erase, set.groups.map OperationGroup.erase⟩

/-- A cell of a grid stays of its kind. -/
def Cell.erase : Cell → Cell
  | .field reference => .field reference.erase
  | .operations set => .operations set.erase

/-- A grid, cell by cell. -/
def Grid.erase (grid : Grid) : Grid :=
  ⟨grid.annotations.map Annotation.erase, grid.name.erase, grid.cells.map Cell.erase⟩

mutual

/-- The erasure of a group goes down into its nested groups. -/
def Group.erase : Group → Group
  | ⟨annotated, name, groups, fields⟩ =>
      ⟨annotated.map Annotation.erase, name.erase, eraseRuns groups,
        fields.map (List.map FieldReference.erase)⟩

/-- The erasure of runs of groups. -/
def eraseRuns : List (List Group) → List (List Group)
  | [] => []
  | run :: runs => eraseRun run :: eraseRuns runs

/-- The erasure of one run of groups. -/
def eraseRun : List Group → List Group
  | [] => []
  | group :: rest => group.erase :: eraseRun rest

end

/-- An element of a tab or a page stays of its kind. -/
def Element.erase : Element → Element
  | .field reference => .field reference.erase
  | .group declared => .group declared.erase
  | .grid declared => .grid declared.erase

/-- A tab with its runs of elements; runs are kept, as empty ones are. -/
def Tab.erase (tab : Tab) : Tab where
  annotations := tab.annotations.map Annotation.erase
  name := tab.name.erase
  elements := tab.elements.map (List.map Element.erase)

/-- A page with its runs of tabs and of elements. -/
def Page.erase (page : Page) : Page where
  annotations := page.annotations.map Annotation.erase
  name := page.name.erase
  entity := page.entity.erase
  tabs := page.tabs.map (List.map Tab.erase)
  elements := page.elements.map (List.map Element.erase)

@[simp]
theorem FieldReference.toModel_erase (reference : FieldReference) :
    reference.erase.toModel = reference.toModel := by
  rw [erase, toModel, Token.dotted_map_erase, modelAnnotations_map_erase, toModel]

/-- Which value an operation takes is decided by what is there, and whether a data block is empty by
its text. -/
theorem Operation.toModel_erase (operation : Operation) :
    operation.erase.toModel = operation.toModel := by
  have hblock : ((operation.dataBlock.map Token.erase).filter fun token => token.image != "").map
      (fun token => OperationValue.block (Text.dataBlock token.image)) =
        (operation.dataBlock.filter fun token => token.image != "").map
          fun token => OperationValue.block (Text.dataBlock token.image) := by
    -- a block counts unless its text is empty, and the text stays
    rw [Option.filter_map]
    apply option_map_erase
    intro token
    rfl
  have hidentifier : (operation.identifier.map Token.erase).map
      (fun token => OperationValue.identifier token.image) =
        operation.identifier.map fun token => OperationValue.identifier token.image := by
    apply option_map_erase
    intro token
    rfl
  have htext : (operation.text.map Token.erase).map (fun token => OperationValue.text token.image) =
      operation.text.map fun token => OperationValue.text token.image := by
    apply option_map_erase
    intro token
    rfl
  have hvalue : operation.erase.value? = operation.value? := by
    simp only [value?, erase, hblock, hidentifier, htext]
  rw [toModel, hvalue, toModel, erase, Token.image_erase]

theorem OperationGroup.toModel_erase (group : OperationGroup) :
    group.erase.toModel = group.toModel := by
  rw [erase, toModel, map_erase Operation.toModel_erase, modelAnnotations_map_erase,
    Token.image_erase, toModel]

theorem OperationSet.toModel_erase (set : OperationSet) : set.erase.toModel = set.toModel := by
  rw [erase, toModel, map_erase OperationGroup.toModel_erase, modelAnnotations_map_erase, toModel]

theorem Cell.toModel_erase (cell : Cell) : cell.erase.toModel = cell.toModel := by
  cases cell with
  | field reference => exact congrArg GridCell.field reference.toModel_erase
  | operations set => exact congrArg GridCell.operations set.toModel_erase

theorem Grid.toModel_erase (grid : Grid) : grid.erase.toModel = grid.toModel := by
  rw [erase, toModel, map_erase Cell.toModel_erase, modelAnnotations_map_erase,
    Token.image_erase, toModel]

theorem itemsOfFields_map_erase (runs : List (List FieldReference)) :
    itemsOfFields (runs.map (List.map FieldReference.erase)) = itemsOfFields runs := by
  apply flatten_map_erase
  intro reference
  rw [FieldReference.toModel_erase]

-- the recursion is that of `toItem`: a group, the runs of its groups, the groups of a run
mutual

/-- A group means what its erasure means, at every depth of nesting. -/
theorem Group.toItem_erase : ∀ group : Group, group.erase.toItem = group.toItem
  | ⟨annotated, name, groups, fields⟩ => by
      have hgroups := itemsOfRuns_eraseRuns groups
      have hfields := itemsOfFields_map_erase fields
      rw [Group.erase, Group.toItem, hgroups, hfields, modelAnnotations_map_erase,
        Token.image_erase, Group.toItem]

theorem itemsOfRuns_eraseRuns : ∀ runs : List (List Group),
    itemsOfRuns (eraseRuns runs) = itemsOfRuns runs
  | [] => rfl
  | run :: runs => by
      have hrun := itemsOfRun_eraseRun run
      have hruns := itemsOfRuns_eraseRuns runs
      rw [eraseRuns, itemsOfRuns, hrun, hruns, itemsOfRuns]

theorem itemsOfRun_eraseRun : ∀ run : List Group, itemsOfRun (eraseRun run) = itemsOfRun run
  | [] => rfl
  | group :: rest => by
      have hgroup := group.toItem_erase
      have hrest := itemsOfRun_eraseRun rest
      rw [eraseRun, itemsOfRun, hgroup, hrest, itemsOfRun]

end

theorem Element.toBlock_erase (element : Element) : element.erase.toBlock = element.toBlock := by
  cases element with
  | field reference => rw [erase, toBlock, FieldReference.toModel_erase, toBlock]
  | group declared => rw [erase, toBlock, Group.toItem_erase, toBlock]
  | grid declared => rw [erase, toBlock, Grid.toModel_erase, toBlock]

theorem Tab.toModel_erase (tab : Tab) : tab.erase.toModel = tab.toModel := by
  rw [erase, toModel, flatten_map_erase Element.toBlock_erase, modelAnnotations_map_erase,
    Token.image_erase, toModel]

/-- Tabs and elements are read apart, each as the list of all its runs. -/
theorem Page.toModel_erase (page : Page) : page.erase.toModel = page.toModel := by
  have htabs : (page.tabs.map (List.map Tab.erase)).flatten.map
      (fun tab => Section.tab tab.toModel) =
      page.tabs.flatten.map fun tab => Section.tab tab.toModel := by
    apply flatten_map_erase
    intro tab
    rw [Tab.toModel_erase]
  have helements : (page.elements.map (List.map Element.erase)).flatten.map
      (fun element => Section.block element.toBlock) =
        page.elements.flatten.map fun element => Section.block element.toBlock := by
    apply flatten_map_erase
    intro element
    rw [Element.toBlock_erase]
  rw [erase, toModel, htabs, helements, modelAnnotations_map_erase, Token.image_erase,
    Token.image_erase, toModel]

/-! ## Relationships -/

/-- A parameter of an injected field: the parts of its name, and its annotations. -/
def Parameter.erase (parameter : Parameter) : Parameter :=
  ⟨parameter.names.map Token.erase, parameter.annotations.map Annotation.erase⟩

/-- The word `required` is a marker. -/
def Side.erase (side : Side) : Side where
  comment := side.comment.map Token.erase
  name := side.name.erase
  readOnly := side.readOnly.map Token.erase
  annotations := side.annotations.map Annotation.erase
  injected := side.injected.map Token.erase
  parameters := side.parameters.map Parameter.erase
  required := side.required.map fun _ => .marker

/-- One relationship of a block; its option keywords keep their texts, as they may be refused. -/
def Body.erase (body : Body) : Body where
  annotations := body.annotations.map Annotation.erase
  source := body.source.erase
  target := body.target.erase
  options := body.options.map Token.erase

/-- A block with its type, which may be refused, and its bodies. -/
def RelationshipBlock.erase (block : RelationshipBlock) : RelationshipBlock :=
  ⟨block.type.erase, block.bodies.map Body.erase⟩

@[simp]
theorem Parameter.name_erase (parameter : Parameter) : parameter.erase.name = parameter.name :=
  Token.dotted_map_erase parameter.names

/-- The text of an injected field shows the base and the dotted names of the parameters. -/
theorem injectedText_erase (base : Token) (parameters : List Parameter) :
    injectedText base.erase (parameters.map Parameter.erase) = injectedText base parameters := by
  rw [injectedText, map_erase Parameter.name_erase, List.isEmpty_map, Token.image_erase,
    injectedText]

/-- The annotations of parameters stand under the dotted names of these. -/
theorem parameterAnnotations_map_erase (parameters : List Parameter) :
    parameterAnnotations (parameters.map Parameter.erase) = parameterAnnotations parameters := by
  rw [parameterAnnotations, List.flatMap_map, parameterAnnotations]
  congr 1
  funext parameter
  simp only [Parameter.name_erase]
  change (parameter.annotations.map Annotation.erase).map _ = _
  apply map_erase
  intro a
  rw [a.toModel_erase]

/-- A side, injected field and markers included: of `required` only the presence counts. -/
theorem Side.toModel_erase (side : Side) : side.erase.toModel = side.toModel := by
  simp only [toModel, erase, Option.map_map, Function.comp_def, injectedText_erase,
    parameterAnnotations_map_erase, Option.isSome_map, documentation_map_erase,
    modelAnnotations_map_erase, Token.image_erase]

/-! ## Programs -/

/-- The program without places and without the texts of markers. -/
def Program.erase (program : Program) : Program where
  constants := program.constants.map Constant.erase
  applications := program.applications.map Application.erase
  deployments := program.deployments.map Deployment.erase
  entities := program.entities.map Entity.erase
  datasets := program.datasets.map Dataset.erase
  pages := program.pages.map Page.erase
  jsonConfigs := program.jsonConfigs.map JsonConfig.erase
  relationships := program.relationships.map RelationshipBlock.erase
  enums := program.enums.map Enum.erase
  flags := program.flags.map FlagOption.erase
  valued := program.valued.map ValueOption.erase

end Declared

end DomainModel
