/-!
# TOML tables

A TOML document is one table. Its statements open tables by a header, add elements to arrays of
tables, and write values at dotted keys. A table remembers how it came about, because that decides
who may add to it: nothing may be defined twice, an inline table is closed, a header may only take
over a table that was implied by a longer header.

## What this module delivers

- `Origin`, `Value`, `Entries`: the tree of a document.
- `within?`: work in the table that a header path leads to, implied tables made on the way.
- `assign?`: write a value at a dotted key, the tables on the way made or marked as dotted.
- `Statement`, `open?`, `append?`, `ofStatements?`: the table of a list of statements, if they
  define nothing twice.
-/

set_option autoImplicit false

namespace DomainModel.Toml

/-- How a table came about. -/
inductive Origin where
  /-- It stands above a table that has a header. -/
  | implied
  /-- It stands above the last part of a dotted key, whatever made it. -/
  | dotted
  /-- It has a header of its own. -/
  | header
  /-- It was written as one value. -/
  | inline
  deriving DecidableEq, Repr

/-- A TOML value. -/
inductive Value where
  | string (text : String)
  | integer (value : Int)
  /-- A word with the form of an integer that is none. It may stand where nothing reads it. -/
  | malformed
  /-- A finite number, `significand` times ten to the `exponent`. -/
  | float (significand : Int) (exponent : Int)
  /-- An infinity, or no number. -/
  | special
  | boolean (value : Bool)
  /-- A date, a time, or both. -/
  | moment
  | array (items : List Value)
  /-- An array that headers in double brackets have made, last element open. -/
  | tables (items : List (List (String × Value)))
  | table (origin : Origin) (entries : List (String × Value))

/-- The entries of a table, in written order. -/
abbrev Entries := List (String × Value)

namespace Entries

/-- The entries with the value of a key replaced. -/
def replace (key : String) (value : Value) (entries : Entries) : Entries :=
  entries.map fun (other, old) => if other = key then (other, value) else (other, old)

/-- The entries with a value at a key that has none yet. -/
def define? (key : String) (value : Value) (entries : Entries) : Option Entries :=
  match entries.lookup key with
  | some _ => none
  | none => some (entries ++ [(key, value)])

/-- Works in the last element of an array of tables. -/
def inLast? (work : Entries → Option Entries) : List Entries → Option (List Entries)
  | [] => none
  | [last] => (work last).map fun worked => [worked]
  | first :: rest => (inLast? work rest).map (first :: ·)

/-- Works in the table that a header path leads to. Tables that are missing are made as implied
ones; through an array of tables the path leads to its last element. -/
def within? (work : Entries → Option Entries) : List String → Entries → Option Entries
  | [], entries => work entries
  | key :: path, entries =>
      match entries.lookup key with
      | none => (within? work path []).map fun worked =>
          entries ++ [(key, .table .implied worked)]
      | some (.table .inline _) => none
      | some (.table origin inner) => (within? work path inner).map fun worked =>
          entries.replace key (.table origin worked)
      | some (.tables items) => (inLast? (within? work path) items).map fun worked =>
          entries.replace key (.tables worked)
      | some _ => none

/-- Writes a value at a dotted key, given as its leading parts and its last part. Tables that are
missing are made as dotted ones, and an implied table on the way becomes a dotted one, so that no
header can take it over afterwards. A dotted key may pass through an element of an array of tables
but not end in one. -/
def assign? (last : String) (value : Value) : List String → Entries → Option Entries
  | [], entries => entries.define? last value
  | key :: path, entries =>
      match entries.lookup key with
      | none => (assign? last value path []).map fun worked =>
          entries ++ [(key, .table .dotted worked)]
      | some (.table .dotted inner) | some (.table .implied inner) =>
          (assign? last value path inner).map fun worked =>
            entries.replace key (.table .dotted worked)
      | some (.tables items) =>
          -- the last part would be written into a table that only its own header may fill
          if path.isEmpty then none
          else (inLast? (assign? last value path) items).map fun worked =>
            entries.replace key (.tables worked)
      | some _ => none

/-- Gives a table its header. -/
def open? (key : String) (entries : Entries) : Option Entries :=
  match entries.lookup key with
  | none => some (entries ++ [(key, .table .header [])])
  | some (.table .implied inner) => some (entries.replace key (.table .header inner))
  | some _ => none

/-- Adds an empty element to an array of tables. -/
def append? (key : String) (entries : Entries) : Option Entries :=
  match entries.lookup key with
  | none => some (entries ++ [(key, .tables [[]])])
  | some (.tables items) => some (entries.replace key (.tables (items ++ [[]])))
  | some _ => none

end Entries

/-! ## Documents -/

/-- A dotted key: its leading parts and its last part. -/
structure Key where
  /-- The parts before the last one. -/
  path : List String
  /-- The last part. -/
  last : String
  deriving DecidableEq, Repr

/-- One statement of a document. -/
inductive Statement where
  /-- A header: the table that the statements after it write to. -/
  | table (key : Key)
  /-- A header in double brackets: a new element of an array of tables. -/
  | element (key : Key)
  /-- A value at a key. -/
  | pair (key : Key) (value : Value)

/-- A document as far as it is read: its entries, and the path of the table being written. -/
structure Progress where
  /-- The entries of the document. -/
  entries : Entries
  /-- The path to the table that values are written to. -/
  current : List String

/-- The document after one more statement, if nothing is defined twice. -/
def Progress.step? (progress : Progress) : Statement → Option Progress
  | .table key =>
      (Entries.within? (Entries.open? key.last) key.path progress.entries).map fun entries =>
        ⟨entries, key.path ++ [key.last]⟩
  | .element key =>
      (Entries.within? (Entries.append? key.last) key.path progress.entries).map fun entries =>
        ⟨entries, key.path ++ [key.last]⟩
  | .pair key value =>
      (Entries.within? (Entries.assign? key.last value key.path) progress.current
        progress.entries).map fun entries => { progress with entries := entries }

/-- The entries that statements define, if nothing is defined twice. -/
def Entries.ofStatements? (statements : List Statement) : Option Entries :=
  (statements.foldlM Progress.step? ⟨[], []⟩).map Progress.entries

/-- The table that the pairs of an inline table define, if nothing is defined twice. -/
def Value.ofPairs? (pairs : List (Key × Value)) : Option Value :=
  (pairs.foldlM (fun entries (pair : Key × Value) =>
    Entries.assign? pair.1.last pair.2 pair.1.path entries) []).map (.table .inline)

end DomainModel.Toml
