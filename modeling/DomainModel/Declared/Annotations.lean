import DomainModel.Annotations
import DomainModel.Span
import DomainModel.Text.Markers

/-!
# Declared annotations

An annotation is declared by its name, alone, with a bare identifier, or with a block of
variables. A block that holds one bare key and nothing else means that single value; every other
block, the empty one included, means its list of entries.

## What this module delivers

- `Variable`, `Argument`, `Declared.Annotation`: the declared forms.
- `Variable.entry`, `valueOfEntries`, `Argument.value`: what stands after the name.
- `Annotation.toModel`, `modelAnnotations`: the annotation, or the list of them.
-/

set_option autoImplicit false

namespace DomainModel.Declared

open DomainModel.Text (delimited)

/-- One variable of a variables block. -/
inductive Variable where
  /-- A key with a quoted value. -/
  | pair (key value : Token)
  /-- A key alone. -/
  | bare (key : Token)
  /-- A quoted key alone. -/
  | quoted (key : Token)
  /-- A quoted key with a quoted value. -/
  | quotedPair (key value : Token)

/-- The entry that a variable declares; quotes are taken off. -/
def Variable.entry : Variable → MapEntry
  | .pair key value => .pair key.image (delimited value.image)
  | .bare key => .bare key.image
  | .quoted key => .bare (delimited key.image)
  | .quotedPair key value => .pair (delimited key.image) (delimited value.image)

/-- What stands in the parentheses of an annotation. -/
inductive Argument where
  /-- A bare identifier. -/
  | identifier (word : Token)
  /-- A block of variables. -/
  | block (declared : List Variable)

/-- The value that a block with these entries means: one bare key is a single value. -/
def valueOfEntries : List MapEntry → OptionValue
  | [.bare key] => .single key
  | entries => .entries entries

/-- The value that an argument means. -/
def Argument.value : Argument → OptionValue
  | .identifier word => .single word.image
  | .block declared => valueOfEntries (declared.map Variable.entry)

/-- A declared annotation. -/
structure Annotation where
  /-- The name. -/
  option : Token
  /-- The argument, if there are parentheses. -/
  argument : Option Argument

/-- The annotation that a declaration means. -/
def Annotation.toModel (a : Annotation) : DomainModel.Annotation :=
  ⟨a.option.image, (a.argument.map Argument.value).getD .flag⟩

/-- The annotations that a list of declarations means. -/
def modelAnnotations (declared : List Annotation) : List DomainModel.Annotation :=
  declared.map Annotation.toModel

end DomainModel.Declared
