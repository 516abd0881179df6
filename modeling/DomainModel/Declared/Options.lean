import DomainModel.Build.Traced
import DomainModel.Build.Violation
import DomainModel.Declared.Selector
import DomainModel.Options.Table

/-!
# Declared options

Global option declarations are merged into the option table one at a time: first all flags, then
all value-bearing declarations, each in written order. The first declaration that cannot be merged
ends the merging.

## What this module delivers

- `FlagOption`, `ValueOption`: the declared forms.
- `FlagOption.merge`, `ValueOption.merge`: one declaration, with the event that tells of it between
  the checks on the declaration and the check of the table.
- `mergeOptions`: all declarations.
-/

set_option autoImplicit false

namespace DomainModel.Declared

/-- A declared flag option. -/
structure FlagOption where
  /-- The name of the option. -/
  option : Token
  /-- The selector. -/
  filter : Filter
  /-- The names after `except`, if there are any. -/
  exclusion : Option (List Token)

/-- A declared value-bearing option. -/
structure ValueOption where
  /-- The name of the option. -/
  option : Token
  /-- The selector, value included. -/
  selector : ValueSelector
  /-- The names after `except`, if there are any. -/
  exclusion : Option (List Token)

/-- An option error as a violation at the name of a declaration. -/
def atOption {α : Type} (option : Token) (result : Except OptionError α) : Except Violation α :=
  result.mapError (.refusedOption option)

namespace FlagOption

/-- The family that a flag declaration names. -/
def family (declared : FlagOption) : Except Violation OptionFamily :=
  atOption declared.option (OptionFamily.ofName declared.option.image)

/-- The entry that a flag declaration contributes. -/
def entry (declared : FlagOption) : OptionEntry :=
  .of declared.filter.resolve (excludedNames declared.exclusion)

/-- Merges a flag declaration into the table. -/
def merge (table : OptionTable) (declared : FlagOption) : Traced Violation OptionTable := do
  let family ← .ofExcept declared.family
  .emit (.mergingFlag family declared.entry.included.length)
  .ofExcept (atOption declared.option (table.mergeFlag family declared.entry))

end FlagOption

namespace ValueOption

/-- The family that a value-bearing declaration names. -/
def family (declared : ValueOption) : Except Violation OptionFamily :=
  atOption declared.option (OptionFamily.ofValuedName declared.option.image)

/-- The selected names and the value of a declaration. -/
def selection (declared : ValueOption) : Except Violation (List String × String) :=
  match declared.selector.resolve? with
  | some selection => .ok selection
  | none => .error (.missingValue declared.option)

/-- The entry that a declaration contributes when its selector means these names. -/
def entry (declared : ValueOption) (names : List String) : OptionEntry :=
  .of names (excludedNames declared.exclusion)

/-- Merges a value-bearing declaration into the table. -/
def merge (table : OptionTable) (declared : ValueOption) : Traced Violation OptionTable := do
  let family ← .ofExcept declared.family
  let (names, value) ← .ofExcept declared.selection
  .emit (.mergingValue family value)
  .ofExcept (atOption declared.option (table.mergeValue family value (declared.entry names)))

end ValueOption

/-- Merges all declarations into a table, flags first. -/
def mergeOptions (table : OptionTable) (flags : List FlagOption) (valued : List ValueOption) :
    Traced Violation OptionTable := do
  let flagged ← flags.foldlM FlagOption.merge table
  valued.foldlM ValueOption.merge flagged

end DomainModel.Declared
