import DomainModel.Names

/-!
# Option entries

An entry says to which entities an option applies and to which it explicitly does not. Entries for
the same slot are united: names that are there keep their place, new names are appended.

## What this module delivers

- `OptionEntry`: included and excluded names.
- `OptionEntry.of`, `OptionEntry.empty`, `OptionEntry.merge`: the ways to make one, each without
  repeated names.
- `OptionEntry.isEmpty`: whether it names nobody.
-/

set_option autoImplicit false

namespace DomainModel

/-- The entities an option applies to, and those it explicitly leaves out. -/
structure OptionEntry where
  /-- Names the option applies to, or the wildcard. -/
  included : List String
  /-- Names the option does not apply to. -/
  excluded : List String
  deriving DecidableEq, Repr

namespace OptionEntry

/-- The entry of two name lists, repetitions dropped. -/
def of (included excluded : List String) : OptionEntry :=
  ⟨Names.distinct included, Names.distinct excluded⟩

/-- The entry that names nobody. -/
def empty : OptionEntry := ⟨[], []⟩

/-- The union of two entries, the names of the first in front. -/
def merge (entry other : OptionEntry) : OptionEntry :=
  .of (entry.included ++ other.included) (entry.excluded ++ other.excluded)

/-- Whether both lists are empty. -/
def isEmpty (entry : OptionEntry) : Bool := entry.included.isEmpty && entry.excluded.isEmpty

end OptionEntry

end DomainModel
