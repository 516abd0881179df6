import DomainModel.Names
import DomainModel.Annotations

/-!
# Options applied to entities

An applied option stands on its own: a name, the entities it applies to, those it leaves out, and
its value. It has a written form, the one a declaration would have.

## What this module delivers

- `AppliedOption`, made by `of`, which drops repeated names.
- `AppliedOption.onEntity`: an annotation of an entity read as an option on that entity.
- `AppliedOption.render`: the written form.
-/

set_option autoImplicit false

namespace DomainModel

/-- An option applied to a list of entities. -/
structure AppliedOption where
  /-- The name of the option. -/
  name : String
  /-- The entities it applies to. -/
  entities : List String
  /-- The entities it leaves out. -/
  excluded : List String
  /-- Its value. -/
  value : OptionValue
  deriving DecidableEq, Repr

namespace AppliedOption

/-- The option with a name and value on two name lists, repetitions dropped. -/
def of (name : String) (value : OptionValue) (entities excluded : List String) : AppliedOption :=
  ⟨name, Names.distinct entities, Names.distinct excluded, value⟩

/-- An annotation of an entity, as an option on that entity alone. -/
def onEntity (a : Annotation) (entity : String) : AppliedOption :=
  .of a.name a.value [entity] []

/-- The shape of the value. -/
def kind (option : AppliedOption) : OptionKind := option.value.kind

/-- Names one after another, as a declaration writes them. -/
def listing (names : List String) : String := ", ".intercalate names

/-- The written form of a value: the word `with` and the value, entries in braces. -/
def valueClause : OptionValue → String
  | .flag => ""
  | .single value => " with " ++ value
  | .entries entries => " with \x7b" ++ listing (entries.map MapEntry.text) ++ "\x7d"

/-- The written form of the excluded names: nothing when there are none. -/
def exclusionClause (excluded : List String) : String :=
  if excluded.isEmpty then "" else " except " ++ listing excluded

/-- The written form of an option. A blank follows the name even when no entity does. -/
def render (option : AppliedOption) : String :=
  option.name ++ " " ++ listing option.entities ++ valueClause option.value
    ++ exclusionClause option.excluded

/-! ## Instances

The written form at its edges: repeated names, no names, no entries. -/

section Instances

/-- A name that is repeated is written once, where it came first. -/
example : (AppliedOption.of "skipClient" .flag ["A", "B", "A"] []).render =
    "skipClient A, B" := rfl

/-- Without entities two blanks stand between the name and the value. -/
example : (AppliedOption.of "dto" (.single "mapstruct") [] ["C"]).render =
    "dto  with mapstruct except C" := rfl

/-- A list without entries still has its braces. -/
example : (AppliedOption.of "order" (.entries []) ["A"] []).render =
    "order A with \x7b\x7d" := rfl

end Instances

end AppliedOption

end DomainModel
