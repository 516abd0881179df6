/-!
# Serialised values

Documents are written as JSON values. Numbers do not occur: what is a number in a program is kept
as its text.

## What this module delivers

- `Json`: the values, objects with their fields in written order.
- `Json.ofOption`, `Json.strings`, `Json.list`: values of optional and repeated things.
-/

set_option autoImplicit false

namespace DomainModel

/-- A JSON value without numbers. -/
inductive Json where
  | null
  | boolean (value : Bool)
  | string (text : String)
  | array (items : List Json)
  | object (fields : List (String × Json))

namespace Json

/-- The value of an optional text. -/
def ofOption : Option String → Json
  | some text => .string text
  | none => .null

/-- The array of the values of a list. -/
def list {α : Type} (encode : α → Json) (items : List α) : Json := .array (items.map encode)

/-- The array of a list of texts. -/
def strings (texts : List String) : Json := list .string texts

end Json

end DomainModel
