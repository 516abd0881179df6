/-!
# Lists of names

Every selector, exclusion and option entry of the library is a list of entity names. Two things
about such a list matter: which names it holds, in the order of their first occurrence, and
whether it stands for every entity at once.

## What this module delivers

- `distinct`: the names of a list without repetitions, first occurrences kept.
- `wildcard`, `everyKeyword`: the written forms that select every entity.
- `isWildcard`: whether a list is the wildcard selector, the wildcard and nothing else.
- `mem_distinct`, `distinct_singleton`: what `distinct` does to membership and to one name.
-/

set_option autoImplicit false

namespace DomainModel.Names

/-- The names of a list, each once, in the order of their first occurrence. -/
def distinct (names : List String) : List String := names.eraseDups

/-- The name that stands for every entity. -/
def wildcard : String := "*"

/-- The keyword that stands for every entity when it is the only name written. -/
def everyKeyword : String := "all"

/-- Whether a list is the wildcard selector: exactly one name, and that name the wildcard. -/
def isWildcard (names : List String) : Bool := names == [wildcard]

/-- Dropping repetitions loses no name and adds none. -/
@[simp]
theorem mem_distinct {name : String} {names : List String} :
    name ∈ distinct names ↔ name ∈ names := List.mem_eraseDups

@[simp]
theorem distinct_nil : distinct [] = [] := rfl

@[simp]
theorem distinct_singleton (name : String) : distinct [name] = [name] := by
  simp [distinct, List.eraseDups_cons]

end DomainModel.Names
