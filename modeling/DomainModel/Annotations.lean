import DomainModel.Options.Family

/-!
# Annotations

An annotation is a name attached to a declaration, with nothing after it, one value, or an ordered
list of entries. Options applied to entities have the same three shapes, so the value is a type of
its own.

## What this module delivers

- `MapEntry`: a bare key, or a key with a value, with `text`.
- `OptionValue`: what stands after a name, with `kind`.
- `Annotation`: a name and its value; `single?` and `entries?` read the value.
- `KeyedAnnotation`: one that was declared on a part with a name of its own.
-/

set_option autoImplicit false

namespace DomainModel

/-- One entry of a list of entries. -/
inductive MapEntry where
  /-- A key alone. -/
  | bare (key : String)
  /-- A key with a value. -/
  | pair (key value : String)
  deriving DecidableEq, Repr

namespace MapEntry

/-- The key of an entry. -/
def name : MapEntry → String
  | .bare key => key
  | .pair key _ => key

/-- The value of an entry, if it has one. -/
def value? : MapEntry → Option String
  | .bare _ => none
  | .pair _ value => some value

/-- The written form of an entry. -/
def text : MapEntry → String
  | .bare key => key
  | .pair key value => key ++ "=" ++ value

end MapEntry

/-- What stands after the name of an option or annotation. -/
inductive OptionValue where
  /-- Nothing. -/
  | flag
  /-- One value. -/
  | single (value : String)
  /-- A list of entries, in written order. -/
  | entries (entries : List MapEntry)
  deriving DecidableEq, Repr

/-- The shape of a value. -/
def OptionValue.kind : OptionValue → OptionKind
  | .flag => .flag
  | .single _ => .single
  | .entries _ => .entries

/-- A name attached to a declaration, with its value. -/
structure Annotation where
  /-- The name. -/
  name : String
  /-- What stands after the name. -/
  value : OptionValue
  deriving DecidableEq, Repr

namespace Annotation

/-- The annotation that is a name alone. -/
def flag (name : String) : Annotation := ⟨name, .flag⟩

/-- The shape of the value. -/
def kind (a : Annotation) : OptionKind := a.value.kind

/-- The value, when there is exactly one. -/
def single? (a : Annotation) : Option String :=
  match a.value with
  | .single value => some value
  | _ => none

/-- The entries, when the value is a list of them. -/
def entries? (a : Annotation) : Option (List MapEntry) :=
  match a.value with
  | .entries entries => some entries
  | _ => none

end Annotation

/-- An annotation together with the name of the part it was declared on. -/
structure KeyedAnnotation where
  /-- The name of the part. -/
  key : String
  /-- What was declared on it. -/
  annotation : Annotation
  deriving DecidableEq, Repr

end DomainModel
