import DomainModel.Encoding.Model
import DomainModel.Proofs.FirstViolation
import Mathlib.Algebra.GroupWithZero.Nat

/-!
# Relationships of a document

Blocks of relationships are flattened: a document lists the relationships of all blocks one after
another, so a body stands behind all bodies of the blocks before its own, and a block without
bodies takes no place. Each relationship is made of its own body and of the type of its block
alone.

Of a side, the injected field decides what else is told. Without one, a side is neither required
nor optional: the word `required` and what is declared on parameters leave nothing behind, and
what is written of the side has no key for the one and an empty list for the other.

## What this module delivers

- `Json.get?`: what an object has under a key.
- `Side.Becomes`, `Side.TellsField`: what a declared side becomes in a document, and what is written
  of its injected field.
- `Body.Becomes`: what a body becomes under the type of its block.
- `bodyCount`, `length_flatMap_relationships`, `getElem?_flatMap_relationships`: how many
  relationships there are and where each of them stands, the latter from
  `getElem?_flatMap_of_getElem?`, which is about any concatenation.
- `outcome_build_relationships`: the relationships of a document, body by body.
-/

set_option autoImplicit false

namespace DomainModel

open Text (delimited)

/-- What an object has under a key. -/
def Json.get? (key : String) : Json → Option Json
  | .object fields => fields.lookup key
  | _ => none

theorem Cardinality.name_eq_of_ofName? {name : String} {cardinality : Cardinality}
    (h : ofName? name = some cardinality) : cardinality.name = name := by
  simpa using List.find?_some h

namespace Declared

/-! ## Sides -/

/-- What a declared side becomes: all that is said of the side is its own, and the injected field
says what is declared of it and of the side being required. -/
structure Side.Becomes (declared : Side) (side : DomainModel.Side) : Prop where
  name : side.name = declared.name.image
  documentation : side.documentation = Declared.documentation declared.comment
  annotations : side.annotations = modelAnnotations declared.annotations
  readOnly : side.readOnly = declared.readOnly.map fun regex => delimited regex.image
  injected_iff : side.injected.isSome ↔ declared.injected.isSome
  field : ∀ base field, declared.injected = some base → side.injected = some field →
    field.text = injectedText base declared.parameters ∧
    field.annotations = parameterAnnotations declared.parameters ∧
    (field.required = true ↔ declared.required.isSome)

theorem Side.becomes_toModel (declared : Side) : declared.Becomes declared.toModel where
  name := rfl
  documentation := rfl
  annotations := rfl
  readOnly := rfl
  injected_iff := by rw [toModel, Option.isSome_map]
  field := by
    intro base field hbase hfield
    rw [toModel, hbase] at hfield
    cases hfield
    exact ⟨rfl, rfl, Iff.rfl⟩

/-- What is written of a declared side about its injected field. Whether the side is required is
told exactly when a field is injected, and a side without one tells nothing of its parameters. -/
structure Side.TellsField (declared : Side) (written : Json) : Prop where
  required_iff : (written.get? "required").isSome ↔
    ∃ text, written.get? "injectedField" = some (.string text)
  injectedField_iff : (∃ text, written.get? "injectedField" = some (.string text)) ↔
    declared.injected.isSome
  present : ∀ base, declared.injected = some base →
    written.get? "injectedField" = some (.string (injectedText base declared.parameters)) ∧
    written.get? "annotationsOfField" =
      some (.list KeyedAnnotation.encode (parameterAnnotations declared.parameters)) ∧
    written.get? "required" = some (.boolean declared.required.isSome)
  absent : declared.injected = none →
    written.get? "injectedField" = some .null ∧
    written.get? "annotationsOfField" = some (.array []) ∧
    written.get? "required" = none

/-- What is written of a side that injects a field. -/
theorem Side.get?_encode_of_injected {declared : Side} {base : Token}
    (h : declared.injected = some base) :
    declared.toModel.encode.get? "injectedField" =
      some (.string (injectedText base declared.parameters)) ∧
    declared.toModel.encode.get? "annotationsOfField" =
      some (.list KeyedAnnotation.encode (parameterAnnotations declared.parameters)) ∧
    declared.toModel.encode.get? "required" = some (.boolean declared.required.isSome) := by
  rw [toModel, h]
  exact ⟨rfl, rfl, rfl⟩

/-- What is written of a side that injects none. -/
theorem Side.get?_encode_of_not_injected {declared : Side} (h : declared.injected = none) :
    declared.toModel.encode.get? "injectedField" = some .null ∧
    declared.toModel.encode.get? "annotationsOfField" = some (.array []) ∧
    declared.toModel.encode.get? "required" = none := by
  rw [toModel, h]
  exact ⟨rfl, rfl, rfl⟩

theorem Side.tellsField_encode (declared : Side) :
    declared.TellsField declared.toModel.encode := by
  -- both equivalences are read off the two cases, in which all three keys are known
  have hfield : (∃ text, declared.toModel.encode.get? "injectedField" = some (.string text)) ↔
      declared.injected.isSome := by
    cases h : declared.injected with
    | none =>
        obtain ⟨hnull, -, -⟩ := get?_encode_of_not_injected h
        simp [hnull]
    | some base =>
        obtain ⟨htext, -, -⟩ := get?_encode_of_injected h
        simp [htext]
  have hrequired : (declared.toModel.encode.get? "required").isSome ↔
      declared.injected.isSome := by
    cases h : declared.injected with
    | none =>
        obtain ⟨-, -, hnone⟩ := get?_encode_of_not_injected h
        rw [hnone]
        rfl
    | some base =>
        obtain ⟨-, -, htold⟩ := get?_encode_of_injected h
        rw [htold]
        rfl
  exact ⟨hrequired.trans hfield.symm, hfield, fun _ => get?_encode_of_injected,
    get?_encode_of_not_injected⟩

/-! ## Bodies

A body stands behind all bodies of the blocks before its own. -/

/-- What a body becomes in a block of some type: the cardinality is that of the block, each side
comes from the side in its place, and annotations come before keywords. -/
structure Body.Becomes (type : Token) (body : Body) (relationship : Relationship) : Prop where
  cardinality : relationship.cardinality.name = type.image
  source : body.source.Becomes relationship.source
  target : body.target.Becomes relationship.target
  options : relationship.options = modelAnnotations body.annotations ++
    List.replicate body.options.length (.flag "jpaDerivedIdentifier")
  writtenSource : ∃ written, relationship.encode.get? "from" = some written ∧
    body.source.TellsField written
  writtenTarget : ∃ written, relationship.encode.get? "to" = some written ∧
    body.target.TellsField written

theorem Body.becomes_relationship {type : Token} {cardinality : Cardinality}
    (hname : cardinality.name = type.image) (body : Body) :
    body.Becomes type (body.relationship cardinality) where
  cardinality := hname
  source := body.source.becomes_toModel
  target := body.target.becomes_toModel
  options := by rw [relationship, List.map_const', derivedIdentifier]
  writtenSource := ⟨_, rfl, body.source.tellsField_encode⟩
  writtenTarget := ⟨_, rfl, body.target.tellsField_encode⟩

/-- How many bodies the blocks have together. -/
def bodyCount (blocks : List RelationshipBlock) : Nat :=
  (blocks.map fun block => block.bodies.length).sum

/-- A block that nothing stands against has a cardinality, and each of its bodies gives one
relationship under it. -/
theorem RelationshipBlock.exists_cardinality {block : RelationshipBlock}
    (h : block.objection? = none) :
    ∃ cardinality : Cardinality, cardinality.name = block.type.image ∧
      block.relationships = block.bodies.map (Body.relationship cardinality) := by
  rw [objection?] at h
  rw [relationships]
  cases hname : Cardinality.ofName? block.type.image with
  | none =>
      rw [hname] at h
      cases h
  | some cardinality => exact ⟨cardinality, Cardinality.name_eq_of_ofName? hname, rfl⟩

theorem RelationshipBlock.length_relationships {block : RelationshipBlock}
    (h : block.objection? = none) : block.relationships.length = block.bodies.length := by
  obtain ⟨cardinality, -, hbodies⟩ := exists_cardinality h
  rw [hbodies, List.length_map]

/-- There are as many relationships as bodies. -/
theorem length_flatMap_relationships {blocks : List RelationshipBlock}
    (h : ∀ block ∈ blocks, block.objection? = none) :
    (blocks.flatMap RelationshipBlock.relationships).length = bodyCount blocks := by
  have hlength : blocks.map (fun block => block.relationships.length) =
      blocks.map fun block => block.bodies.length :=
    List.map_congr_left fun block hblock => RelationshipBlock.length_relationships (h block hblock)
  rw [List.length_flatMap, hlength, bodyCount]

/-- In a concatenation an element stands behind all elements of the lists before its own. -/
theorem getElem?_flatMap_of_getElem? {α β : Type} {f : α → List β} {list : List α} {i j : Nat}
    {a : α} {b : β} (hi : list[i]? = some a) (hj : (f a)[j]? = some b) :
    (list.flatMap f)[((list.take i).map fun a => (f a).length).sum + j]? = some b := by
  induction list generalizing i with
  | nil => cases hi
  | cons first rest ih =>
      rw [List.flatMap_cons]
      cases i with
      | zero =>
          -- the element is in the first list, so its place there is its place
          cases hi
          obtain ⟨hlt, -⟩ := List.getElem?_eq_some_iff.1 hj
          rw [List.take_zero, List.map_nil, List.sum_nil, Nat.zero_add,
            List.getElem?_append_left hlt, hj]
      | succ i =>
          -- the first list has taken as many places as it is long
          have hplace := ih hi
          rw [List.take_succ_cons, List.map_cons, List.sum_cons, Nat.add_assoc,
            List.getElem?_append_right (Nat.le_add_right _ _), Nat.add_sub_cancel_left, hplace]

/-- The relationship of a body stands where the body does when blocks are counted through. -/
theorem getElem?_flatMap_relationships {blocks : List RelationshipBlock}
    (h : ∀ block ∈ blocks, block.objection? = none) {i j : Nat} {block : RelationshipBlock}
    {body : Body} (hblock : blocks[i]? = some block) (hbody : block.bodies[j]? = some body) :
    ∃ relationship,
      (blocks.flatMap RelationshipBlock.relationships)[bodyCount (blocks.take i) + j]? =
        some relationship ∧
      body.Becomes block.type relationship := by
  obtain ⟨cardinality, hname, hbodies⟩ :=
    RelationshipBlock.exists_cardinality (h block (List.mem_of_getElem? hblock))
  have hrelationship : block.relationships[j]? = some (body.relationship cardinality) := by
    rw [hbodies, List.getElem?_map, hbody, Option.map_some]
  -- the blocks before have as many relationships as bodies
  have hcount : ((blocks.take i).map fun block => block.relationships.length).sum =
      bodyCount (blocks.take i) := by
    rw [← List.length_flatMap]
    exact length_flatMap_relationships fun block hmem => h block (List.mem_of_mem_take hmem)
  refine ⟨body.relationship cardinality, ?_, body.becomes_relationship hname⟩
  rw [← hcount]
  exact getElem?_flatMap_of_getElem? hblock hrelationship

/-! ## Documents -/

/-- The document of a program has one relationship for each body, each in the place that its body
has among the bodies of all blocks, and made of that body and the type of its block. -/
theorem outcome_build_relationships {program : Program} {document : Document}
    (hbuild : program.build.outcome = .ok document) :
    document.relationships.length = bodyCount program.relationships ∧
    ∀ (i j : Nat) (block : RelationshipBlock) (body : Body),
      program.relationships[i]? = some block → block.bodies[j]? = some body →
      ∃ relationship,
        document.relationships[bodyCount (program.relationships.take i) + j]? =
          some relationship ∧
        body.Becomes block.type relationship := by
  obtain ⟨hnone, rfl⟩ := Program.outcome_build_eq_ok_iff.1 hbuild
  have hblocks : ∀ block ∈ program.relationships, block.objection? = none :=
    List.findSome?_eq_none_iff.1 (Option.or_eq_none_iff.1 hnone).1
  exact ⟨length_flatMap_relationships hblocks,
    fun i j block body => getElem?_flatMap_relationships hblocks⟩

/-- A side that injects a field with one annotated parameter and has to be there. -/
def injectingSide : Side :=
  { bareSide (.ofImage "Car") with
    injected := some (.ofImage "owner")
    parameters := [⟨[.ofImage "user", .ofImage "login"], [⟨.ofImage "label", none⟩]⟩]
    required := some (.ofImage "required") }

/-- A program with a block of two relationships, one without any, and one whose only relationship
has an annotation and an option. One side of it still has a parameter and the word `required` but
no injected field. -/
def garageProgram : Program :=
  { Program.empty with
    relationships := [
      ⟨.ofImage "OneToMany", [
        ⟨[], bareSide (.ofImage "Garage"), bareSide (.ofImage "Car"), []⟩,
        ⟨[], bareSide (.ofImage "Garage"), bareSide (.ofImage "Tool"), []⟩]⟩,
      ⟨.ofImage "ManyToMany", []⟩,
      ⟨.ofImage "OneToOne", [
        ⟨[⟨.ofImage "cached", none⟩], injectingSide, { injectingSide with injected := none },
          [.ofImage "jpaDerivedIdentifier"]⟩]⟩] }

/-- The relationship of the last block stands behind the two of the first. Its source says that it
is required, its target says neither that nor anything of its parameter. -/
theorem outcome_build_relationships_garage :
    ∃ document : Document, garageProgram.build.outcome = .ok document ∧
      document.relationships.length = 3 ∧
      ∃ relationship, document.relationships[2]? = some relationship ∧
        relationship.cardinality = .oneToOne ∧
        relationship.options = [.flag "cached", .flag "jpaDerivedIdentifier"] ∧
        (∃ written, relationship.encode.get? "from" = some written ∧
          written.get? "injectedField" = some (.string "owner(user.login)") ∧
          written.get? "required" = some (.boolean true)) ∧
        ∃ written, relationship.encode.get? "to" = some written ∧
          written.get? "annotationsOfField" = some (.array []) ∧
          written.get? "required" = none := by
  have hbuild : garageProgram.build.outcome = .ok garageProgram.document :=
    garageProgram.outcome_build
  obtain ⟨hlength, hplace⟩ := outcome_build_relationships hbuild
  obtain ⟨relationship, hrelationship, hbecomes⟩ := hplace 2 0 _ _ rfl rfl
  obtain ⟨source, hsource, hinjected⟩ := hbecomes.writtenSource
  obtain ⟨target, htarget, hbare⟩ := hbecomes.writtenTarget
  obtain ⟨htext, -, hrequired⟩ := hinjected.present (.ofImage "owner") rfl
  obtain ⟨-, hempty, habsent⟩ := hbare.absent rfl
  refine ⟨_, hbuild, hlength, relationship, hrelationship, ?_, hbecomes.options,
    ⟨source, hsource, htext, hrequired⟩, target, htarget, hempty, habsent⟩
  exact Cardinality.name_injective hbecomes.cardinality

end Declared

end DomainModel
