import DomainModel.OrderedMap
import DomainModel.Options.Entry
import DomainModel.Options.Applied

/-!
# The option table

The table has one slot for every option family. The slot of a flag family holds one entry; the
slot of a value-bearing family holds one entry for each value, in the order the values were first
declared. Declarations are merged into the table one at a time.

## What this module delivers

- `OptionSlot`, `OptionTable`, and `OptionTable.empty` with an empty slot for every family.
- `mergeFlag`, `mergeValue`: merging one entry; a declaration of the wrong kind is refused.
- `slot?`, `flagEntry?`, `valueEntry?`: reading the table.
- `applied`: the table as a list of standalone options, and `rendered`, their written forms.
-/

set_option autoImplicit false

namespace DomainModel

/-- The merged declarations of one family. -/
inductive OptionSlot where
  /-- A flag family has one entry. -/
  | flag (entry : OptionEntry)
  /-- A value-bearing family has one entry for each value. -/
  | valued (entries : OrderedMap String OptionEntry)

namespace OptionSlot

/-- The slot of a family before any declaration. -/
def empty (family : OptionFamily) : OptionSlot :=
  if family.carriesValue then .valued .empty else .flag .empty

/-- The kind of declaration that a slot takes. -/
def kind : OptionSlot → OptionKind
  | .flag _ => .flag
  | .valued _ => .single

/-- The options that a slot of a family stands for: a flag counts when its entry names somebody,
a value always. -/
def applied (family : OptionFamily) : OptionSlot → List AppliedOption
  | .flag entry =>
      if entry.isEmpty then [] else [.of family.name .flag entry.included entry.excluded]
  | .valued entries => entries.entries.map fun (value, entry) =>
      .of family.name (.single value) entry.included entry.excluded

end OptionSlot

/-- The merged option declarations of a program. -/
structure OptionTable where
  /-- The slot of every family. -/
  slots : OrderedMap OptionFamily OptionSlot

namespace OptionTable

/-- The table with an empty slot for every family. -/
def empty : OptionTable :=
  ⟨.ofList (OptionFamily.all.map fun family => (family, OptionSlot.empty family))⟩

/-- The slot of a family. -/
def slot? (table : OptionTable) (family : OptionFamily) : Option OptionSlot :=
  table.slots.get? family

/-- The entry of a flag family. -/
def flagEntry? (table : OptionTable) (family : OptionFamily) : Option OptionEntry :=
  match table.slot? family with
  | some (.flag entry) => some entry
  | _ => none

/-- The entry of a value-bearing family for one value. -/
def valueEntry? (table : OptionTable) (family : OptionFamily) (value : String) :
    Option OptionEntry :=
  match table.slot? family with
  | some (.valued entries) => entries.get? value
  | _ => none

/-- Merges an entry into the slot of a flag family. -/
def mergeFlag (table : OptionTable) (family : OptionFamily) (entry : OptionEntry) :
    Except OptionError OptionTable :=
  match table.slot? family with
  | some (.flag current) => .ok ⟨table.slots.insert family (.flag (current.merge entry))⟩
  | some slot => .error (.kindMismatch family slot.kind .flag)
  | none => .error (.unknownFamily family.name)

/-- Merges an entry into the entry of one value of a value-bearing family; a new value goes after
those seen before. -/
def mergeValue (table : OptionTable) (family : OptionFamily) (value : String)
    (entry : OptionEntry) : Except OptionError OptionTable :=
  match table.slot? family with
  | some (.valued entries) =>
      let merged := entries.alter value fun current? => (current?.getD .empty).merge entry
      .ok ⟨table.slots.insert family (.valued merged)⟩
  | some slot => .error (.kindMismatch family slot.kind .single)
  | none => .error (.unknownFamily family.name)

/-- The declared slots as standalone options, families in their order, values in theirs. -/
def applied (table : OptionTable) : List AppliedOption :=
  table.slots.entries.flatMap fun (family, slot) => slot.applied family

/-- The written forms of the standalone options. -/
def rendered (table : OptionTable) : List String := table.applied.map AppliedOption.render

end OptionTable

end DomainModel
