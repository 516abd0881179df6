import DomainModel.Names
import DomainModel.Span

/-!
# Selectors

A selector names the entities an option or an application is about. The selector of a flag is a
list of names or a star. The selector of a value-bearing option has up to two more tokens, a method
and a method path, and its last element is not an entity: it is the value.

## What this module delivers

- `selectsAll`: when names and star together mean every entity.
- `Filter` and `Filter.resolve`: the selector of flags and applications.
- `ValueSelector`, with `combined`, `resolve?` and `span?`: the selector of value-bearing options.
- `splitValue?`: the last of a list of names, and the others without repetitions.
- `excludedNames`: the names after `except`.
-/

set_option autoImplicit false

namespace DomainModel.Declared

/-- Whether a selector means every entity: by a star, or by the keyword as its only name. -/
def selectsAll (names : List String) (star : Option Token) : Bool :=
  star.isSome || names == [Names.everyKeyword]

/-- The selector of a flag option or an application. -/
structure Filter where
  /-- The names, in written order. -/
  names : List Token
  /-- The star, if there is one. -/
  star : Option Token

/-- The names that a filter selects, each once, or the wildcard alone. -/
def Filter.resolve (filter : Filter) : List String :=
  let names := Token.images filter.names
  if selectsAll names filter.star then [Names.wildcard] else Names.distinct names

/-- The last name of a list and the names before it, each once. -/
def splitValue? (combined : List String) : Option (List String × String) :=
  combined.getLast?.map fun value => (Names.distinct combined.dropLast, value)

/-- The selector of a value-bearing option. -/
structure ValueSelector where
  /-- The names, in written order. -/
  names : List Token
  /-- The star, if there is one. -/
  star : Option Token
  /-- The method after `with`, if there is one. -/
  method : Option Token
  /-- The method path after `with`, if there is one. -/
  methodPath : Option Token

namespace ValueSelector

/-- Names, method and method path as one list, repetitions kept; a selector of every entity has
the wildcard for its names. -/
def combined (selector : ValueSelector) : List String :=
  let names := Token.images selector.names
  -- repetitions are kept, so that the value is the last name even if it was written before
  (if selectsAll names selector.star then [Names.wildcard] else names)
    ++ (selector.method.map Token.image).toList ++ (selector.methodPath.map Token.image).toList

/-- The selected names and the value; an empty selector has none. -/
def resolve? (selector : ValueSelector) : Option (List String × String) :=
  splitValue? selector.combined

/-- The tokens of a selector, slot by slot. -/
def tokens (selector : ValueSelector) : List Token :=
  selector.names ++ selector.star.toList ++ selector.method.toList ++ selector.methodPath.toList

/-- The range that a selector covers, if it has a token. -/
def span? (selector : ValueSelector) : Option Span :=
  Span.cover? (selector.tokens.map Located.span)

end ValueSelector

/-- The names after `except`, repetitions kept; none when nothing is excluded. -/
def excludedNames (exclusion : Option (List Token)) : List String :=
  (exclusion.map Token.images).getD []

end DomainModel.Declared
