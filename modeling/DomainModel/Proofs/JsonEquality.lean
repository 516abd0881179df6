import DomainModel.Encoding.Json
import DomainModel.Proofs.OrderedMap
import Mathlib.Data.List.Forall2

/-!
# Equality of serialised values

The fields of an object have no order. Two serialised values are therefore the same when one can
be turned into the other by moving fields around, in the objects at any depth: lists are compared
member by member, objects field by field under each key. No object that is written has two fields
with one key, so looking up a key finds all there is. What is written of a thing in a fixed list of
fields comes apart into its fields (`same_object_cons_iff`), and what is written of an ordered map
shows the value of every key and not the order of the keys (`same_object_entries_iff`).

## What this module delivers

- `Json.Same`: serialised values that are equal but for the order of fields.
- `same_iff`: what this means for each shape of value.
- `same_ofOption_iff`, `same_strings_iff`, `same_list_iff_forall₂`, `same_list_iff_map`,
  `same_list_iff`: texts that may be absent, and lists.
- `same_object_cons_iff`: objects with a fixed list of fields.
- `same_object_entries_iff`, `same_object_mapValues_iff`, `same_object_reordered_iff`: the objects
  of ordered maps.
-/

set_option autoImplicit false

namespace DomainModel

namespace Json

/-- Values that are equal but for the order of the fields of objects. A key that is absent from one
object is absent from the other. -/
inductive Same : Json → Json → Prop where
  | null : Same .null .null
  | boolean (value : Bool) : Same (.boolean value) (.boolean value)
  | string (text : String) : Same (.string text) (.string text)
  | array {items others : List Json} (h : List.Forall₂ Same items others) :
      Same (.array items) (.array others)
  | object {fields others : List (String × Json)}
      (h : ∀ key, Option.Rel Same (fields.lookup key) (others.lookup key)) :
      Same (.object fields) (.object others)

/-- Only values of one shape are the same, and then their parts are. -/
theorem same_iff (a b : Json) : Same a b ↔
    match a, b with
    | .null, .null => True
    | .boolean value, .boolean other => value = other
    | .string text, .string other => text = other
    | .array items, .array others => List.Forall₂ Same items others
    | .object fields, .object others =>
        ∀ key, Option.Rel Same (fields.lookup key) (others.lookup key)
    | _, _ => False := by
  constructor
  · intro h
    cases h with
    | null => trivial
    | boolean value => rfl
    | string text => rfl
    | array h => exact h
    | object h => exact h
  · intro h
    match a, b, h with
    | .null, .null, _ => exact .null
    | .boolean value, .boolean _, rfl => exact .boolean value
    | .string text, .string _, rfl => exact .string text
    | .array _, .array _, hitems => exact .array hitems
    | .object _, .object _, hfields => exact .object hfields

@[simp]
theorem same_string_iff {text other : String} :
    Same (.string text) (.string other) ↔ text = other :=
  same_iff _ _

@[simp]
theorem same_boolean_iff {value other : Bool} :
    Same (.boolean value) (.boolean other) ↔ value = other :=
  same_iff _ _

theorem same_array_iff {items others : List Json} :
    Same (.array items) (.array others) ↔ List.Forall₂ Same items others :=
  same_iff _ _

theorem same_object_iff {fields others : List (String × Json)} :
    Same (.object fields) (.object others) ↔
      ∀ key, Option.Rel Same (fields.lookup key) (others.lookup key) :=
  same_iff _ _

/-- A text that may be absent can be read back. -/
@[simp]
theorem same_ofOption_iff {text other : Option String} :
    Same (ofOption text) (ofOption other) ↔ text = other := by
  cases text <;> cases other <;> simp [ofOption, same_iff]

/-! ## Lists -/

section Lists

variable {α β : Type} {encode : α → Json} {f : α → β}

/-- When two members are written the same exactly if their images are related, two lists are
exactly if their images are related in order. -/
theorem same_list_iff_forall₂ {R : β → β → Prop}
    (h : ∀ a b, Same (encode a) (encode b) ↔ R (f a) (f b)) {items others : List α} :
    Same (list encode items) (list encode others) ↔
      List.Forall₂ R (items.map f) (others.map f) := by
  rw [list, list, same_array_iff, List.forall₂_map_left_iff, List.forall₂_map_right_iff,
    List.forall₂_map_left_iff, List.forall₂_map_right_iff]
  simp only [h]

/-- When two members are written the same exactly if a function does not tell them apart, so are
two lists. -/
theorem same_list_iff_map (h : ∀ a b, Same (encode a) (encode b) ↔ f a = f b)
    {items others : List α} :
    Same (list encode items) (list encode others) ↔ items.map f = others.map f := by
  rw [same_list_iff_forall₂ h, List.forall₂_eq_eq_eq]

/-- Lists of things that can be read back can be read back. -/
theorem same_list_iff (h : ∀ a b, Same (encode a) (encode b) ↔ a = b) {items others : List α} :
    Same (list encode items) (list encode others) ↔ items = others := by
  rw [same_list_iff_map (f := id) h, List.map_id, List.map_id]

@[simp]
theorem same_strings_iff {texts others : List String} :
    Same (strings texts) (strings others) ↔ texts = others :=
  same_list_iff fun _ _ => same_string_iff

end Lists

/-! ## Objects with a fixed list of fields -/

@[simp]
theorem same_object_nil : Same (.object []) (.object []) := by
  rw [same_object_iff]
  intro key
  exact .none

/-- A field cannot be left out. -/
@[simp]
theorem not_same_object_nil_cons {field : String × Json} {fields : List (String × Json)} :
    ¬ Same (.object []) (.object (field :: fields)) := by
  rw [same_object_iff]
  intro h
  have hfield := h field.1
  rw [List.lookup_nil, List.lookup_cons_self] at hfield
  cases hfield

@[simp]
theorem not_same_object_cons_nil {field : String × Json} {fields : List (String × Json)} :
    ¬ Same (.object (field :: fields)) (.object []) := by
  rw [same_object_iff]
  intro h
  have hfield := h field.1
  rw [List.lookup_nil, List.lookup_cons_self] at hfield
  cases hfield

/-- Objects whose first fields have one key, which no later field has, are compared in the first
field and in the rest. -/
theorem same_object_cons_iff {key : String} {value other : Json}
    {fields others : List (String × Json)} (h : key ∉ fields.map Prod.fst)
    (h' : key ∉ others.map Prod.fst) :
    Same (.object ((key, value) :: fields)) (.object ((key, other) :: others)) ↔
      Same value other ∧ Same (.object fields) (.object others) := by
  have habsent : ∀ {fields : List (String × Json)}, key ∉ fields.map Prod.fst →
      fields.lookup key = none := by
    intro fields hkey
    rw [List.lookup_eq_none_iff]
    intro field hfield
    have hne : key ≠ field.1 := fun heq => hkey (heq ▸ List.mem_map_of_mem hfield)
    simpa using hne
  simp only [same_object_iff]
  constructor
  · intro hsame
    constructor
    · have hkey := hsame key
      rw [List.lookup_cons_self, List.lookup_cons_self] at hkey
      cases hkey with
      | some hvalue => exact hvalue
    · intro name
      by_cases hname : name = key
      · rw [hname, habsent h, habsent h']
        exact .none
      · have hrest := hsame name
        rw [List.lookup_cons, List.lookup_cons, beq_eq_false_iff_ne.2 hname] at hrest
        exact hrest
  · rintro ⟨hvalue, hrest⟩ name
    by_cases hname : name = key
    · rw [hname, List.lookup_cons_self, List.lookup_cons_self]
      exact .some hvalue
    · rw [List.lookup_cons, List.lookup_cons, beq_eq_false_iff_ne.2 hname]
      exact hrest name

end Json

/-! ## Objects of ordered maps -/

namespace Json

variable {κ ν μ : Type} [DecidableEq κ]

/-- Objects of two maps, keys under names that tell them apart, are compared key by key. -/
theorem same_object_entries_iff {name : κ → String} (hname : Function.Injective name)
    {encode : ν → Json} {R : ν → ν → Prop} (h : ∀ v w, Same (encode v) (encode w) ↔ R v w)
    (m n : OrderedMap κ ν) :
    Same (.object (m.entries.map fun (key, value) => (name key, encode value)))
        (.object (n.entries.map fun (key, value) => (name key, encode value))) ↔
      ∀ key, Option.Rel R (m.get? key) (n.get? key) := by
  have hrel : ∀ key, Option.Rel Same ((m.get? key).map encode) ((n.get? key).map encode) ↔
      Option.Rel R (m.get? key) (n.get? key) := by
    intro key
    cases m.get? key <;> cases n.get? key <;> simp [h]
  rw [same_object_iff]
  constructor
  · intro hsame key
    have hkey := hsame (name key)
    rw [OrderedMap.lookup_map_pairs hname, OrderedMap.lookup_map_pairs hname] at hkey
    exact (hrel key).1 hkey
  · intro hsame text
    by_cases hkey : ∃ key, name key = text
    · obtain ⟨key, rfl⟩ := hkey
      rw [OrderedMap.lookup_map_pairs hname, OrderedMap.lookup_map_pairs hname]
      exact (hrel key).2 (hsame key)
    · -- a text that is the name of no key is in neither object
      have habsent : ∀ pairs : List (κ × ν),
          (pairs.map fun (key, value) => (name key, encode value)).lookup text = none := by
        intro pairs
        rw [List.lookup_eq_none_iff]
        intro pair hpair
        obtain ⟨⟨key, value⟩, -, rfl⟩ := List.mem_map.1 hpair
        have hne : text ≠ name key := fun heq => hkey ⟨key, heq.symm⟩
        simpa using hne
      rw [habsent, habsent]
      exact .none

/-- Objects of two maps from texts, whose values are told as far as a function tells them, are the
same when the maps with these values are. -/
theorem same_object_mapValues_iff {encode : ν → Json} {f : ν → μ}
    (h : ∀ v w, Same (encode v) (encode w) ↔ f v = f w) (m n : OrderedMap String ν) :
    Same (.object (m.entries.map fun (key, value) => (key, encode value)))
        (.object (n.entries.map fun (key, value) => (key, encode value))) ↔
      (m.mapValues f).Reordered (n.mapValues f) := by
  rw [OrderedMap.reordered_iff_get?]
  refine (same_object_entries_iff Function.injective_id h m n).trans (forall_congr' fun key => ?_)
  rw [OrderedMap.get?_mapValues, OrderedMap.get?_mapValues]
  cases m.get? key <;> cases n.get? key <;> simp

/-- Objects of two maps from texts whose values can be read back are the same when the maps have
the same pairs. -/
theorem same_object_reordered_iff {encode : ν → Json}
    (h : ∀ v w, Same (encode v) (encode w) ↔ v = w) (m n : OrderedMap String ν) :
    Same (.object (m.entries.map fun (key, value) => (key, encode value)))
        (.object (n.entries.map fun (key, value) => (key, encode value))) ↔ m.Reordered n := by
  rw [same_object_mapValues_iff (f := id) h, OrderedMap.mapValues_id, OrderedMap.mapValues_id]

end Json

end DomainModel
