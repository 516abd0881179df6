import DomainModel.Build.Failure
import DomainModel.Build.Traced
import DomainModel.Toml.Document

/-!
# Settings

Settings are read from a TOML document. There is one of them, whether the datasets are checked; it
is the key `datasets` of the table `lint`, or the first element when `lint` is an array, and it is
on when nothing is said. Keys that mean nothing here are passed over.

## What this module delivers

- `Settings`, and `Settings.default`.
- `checksOf?`: what the value of `lint` says.
- `Settings.ofTable?`, `Settings.ofText`: the settings of a table, and of a text.
- `Settings.load`: the settings of a file, given by its bytes if it is there.
-/

set_option autoImplicit false

namespace DomainModel

/-- What a compilation may be told. -/
structure Settings where
  /-- Whether the datasets of a program are checked. -/
  checkDatasets : Bool
  deriving DecidableEq, Repr

namespace Settings

/-- The settings when nothing is said. -/
def default : Settings := ⟨true⟩

/-- The truth value of a value that is one. -/
def boolean? : Toml.Value → Option Bool
  | .boolean value => some value
  | _ => none

/-- Whether the numbers of all entries other than `known` can be passed over. -/
def othersInRange (known : String) (entries : Toml.Entries) : Bool :=
  entries.all fun (key, value) => key == known || value.inRange

/-- Whether the datasets are checked, as the value of `lint` says. A date reads as a table without
a key that means something, an array of tables as an array whose first element is a table. -/
def checksOf? : Toml.Value → Option Bool
  | .table _ entries =>
      if othersInRange "datasets" entries then
        match entries.lookup "datasets" with
        | some value => boolean? value
        | none => some true
      else none
  | .array (first :: _) => boolean? first
  | .array [] | .moment => some true
  | _ => none

/-- The settings that a table means. -/
def ofTable? (entries : Toml.Entries) : Option Settings :=
  if othersInRange "lint" entries then
    match entries.lookup "lint" with
    | some value => (checksOf? value).map Settings.mk
    | none => some default
  else none

/-- The settings that a text means. -/
def ofText (text : String) : Except Failure Settings :=
  match (Toml.parse? text).bind ofTable? with
  | some settings => .ok settings
  | none => .error .settings

/-- The text of a file, given by its bytes if the file is there. -/
def readText (file : Option ByteArray) : Except Failure String :=
  match file with
  | none => .error (.file .notFound)
  | some bytes =>
      match String.fromUTF8? bytes with
      | some text => .ok text
      | none => .error (.file .invalidEncoding)

/-- The settings of a file, given by its bytes if the file is there. -/
def load (file : Option ByteArray) : Traced Failure Settings := do
  .emit .loadingSettings
  let text ← .ofExcept (readText file)
  .ofExcept (ofText text)

end Settings

end DomainModel
