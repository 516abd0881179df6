/-!
# Maps that keep insertion order

Constants, configurations, option tables and the values of an option family are maps whose
iteration order shows in what is written. The map is a list of pairs with pairwise distinct keys:
a key that is written again keeps its place and takes the new value, a new key goes to the end.

## What this module delivers

- `OrderedMap`: the type, with the distinctness of its keys as a field.
- `empty`, `alter`, `insert`, `ofList`: how a map is made; `alter` is the one primitive.
- `keys`, `get?`, `contains`: how a map is read.
- `keys_alter`, `get?_alter_self`, `get?_alter_of_ne`: what `alter` does to both views.
-/

set_option autoImplicit false

namespace DomainModel

/-- A finite map in insertion order. -/
structure OrderedMap (κ ν : Type) where
  /-- The pairs of the map, oldest key first. -/
  entries : List (κ × ν)
  /-- No key has two pairs. -/
  nodup_keys : (entries.map Prod.fst).Nodup

namespace OrderedMap

variable {κ ν : Type}

/-- Maps with the same pairs in the same order are equal. -/
@[ext]
theorem ext {m n : OrderedMap κ ν} (h : m.entries = n.entries) : m = n := by
  cases m
  cases n
  cases h
  rfl

/-- The map without pairs. -/
def empty : OrderedMap κ ν := ⟨[], by simp⟩

/-- The keys in insertion order. -/
def keys (m : OrderedMap κ ν) : List κ := m.entries.map Prod.fst

variable [DecidableEq κ]

/-- The value of a key. -/
def get? (m : OrderedMap κ ν) (key : κ) : Option ν := m.entries.lookup key

/-- Whether a key has a value. -/
def contains (m : OrderedMap κ ν) (key : κ) : Bool := (m.get? key).isSome

/-! ## Writing at one key

`alterPairs` walks the pairs to the one with the key and replaces its value in place; when there
is none it appends a pair. The replacement sees the value that was there before. -/

/-- The pairs with the value at `key` replaced by `f` of the value there, or of `none`. -/
def alterPairs (key : κ) (f : Option ν → ν) : List (κ × ν) → List (κ × ν)
  | [] => [(key, f none)]
  | (other, value) :: rest =>
      if other = key then (other, f (some value)) :: rest
      else (other, value) :: alterPairs key f rest

theorem map_fst_alterPairs (key : κ) (f : Option ν → ν) (pairs : List (κ × ν)) :
    (alterPairs key f pairs).map Prod.fst =
      if key ∈ pairs.map Prod.fst then pairs.map Prod.fst else pairs.map Prod.fst ++ [key] := by
  induction pairs with
  | nil => simp [alterPairs]
  | cons pair rest ih =>
      obtain ⟨other, value⟩ := pair
      by_cases h : other = key
      · simp [alterPairs, h]
      · have h' : ¬ key = other := fun e => h e.symm
        simp only [alterPairs, if_neg h, List.map_cons, ih, List.mem_cons, h', false_or]
        split <;> simp

theorem nodup_alterPairs (key : κ) (f : Option ν → ν) {pairs : List (κ × ν)}
    (h : (pairs.map Prod.fst).Nodup) : ((alterPairs key f pairs).map Prod.fst).Nodup := by
  rw [map_fst_alterPairs]
  split
  · exact h
  · next hk =>
      refine List.nodup_append.2 ⟨h, by simp, ?_⟩
      intro other hother last hlast heq
      rw [List.mem_singleton] at hlast
      exact hk (hlast ▸ heq ▸ hother)

/-- The map with the value at `key` replaced by `f` of the value there, or of `none`. -/
def alter (m : OrderedMap κ ν) (key : κ) (f : Option ν → ν) : OrderedMap κ ν :=
  ⟨alterPairs key f m.entries, nodup_alterPairs key f m.nodup_keys⟩

/-- The map with `value` at `key`. -/
def insert (m : OrderedMap κ ν) (key : κ) (value : ν) : OrderedMap κ ν :=
  m.alter key fun _ => value

/-- The map of a list of pairs, written one after another. -/
def ofList (pairs : List (κ × ν)) : OrderedMap κ ν :=
  pairs.foldl (fun m pair => m.insert pair.1 pair.2) empty

/-! ## The views of an altered map -/

/-- A key that is there keeps its place, a new key goes to the end. -/
theorem keys_alter (m : OrderedMap κ ν) (key : κ) (f : Option ν → ν) :
    (m.alter key f).keys = if key ∈ m.keys then m.keys else m.keys ++ [key] :=
  map_fst_alterPairs key f m.entries

theorem lookup_alterPairs (key other : κ) (f : Option ν → ν) (pairs : List (κ × ν)) :
    (alterPairs key f pairs).lookup other =
      if other = key then some (f (pairs.lookup key)) else pairs.lookup other := by
  induction pairs with
  | nil =>
      by_cases h : other = key
      · simp [alterPairs, h]
      · simp [alterPairs, List.lookup_cons, h, beq_eq_false_iff_ne.2 h]
  | cons pair rest ih =>
      obtain ⟨first, value⟩ := pair
      by_cases h : first = key
      · subst h
        by_cases h' : other = first
        · simp [alterPairs, h']
        · simp [alterPairs, List.lookup_cons, h', beq_eq_false_iff_ne.2 h']
      · have hk : (key == first) = false := beq_eq_false_iff_ne.2 fun e => h e.symm
        by_cases h' : other = first
        · subst h'
          simp [alterPairs, h]
        · have ho : (other == first) = false := beq_eq_false_iff_ne.2 h'
          simp only [alterPairs, if_neg h, List.lookup_cons, ho, hk, ih]

/-- The altered key has the value that `f` makes of the one before. -/
@[simp]
theorem get?_alter_self (m : OrderedMap κ ν) (key : κ) (f : Option ν → ν) :
    (m.alter key f).get? key = some (f (m.get? key)) := by
  simp [get?, alter, lookup_alterPairs]

/-- Every other key keeps its value. -/
theorem get?_alter_of_ne (m : OrderedMap κ ν) {key other : κ} (f : Option ν → ν)
    (h : other ≠ key) : (m.alter key f).get? other = m.get? other := by
  simp [get?, alter, lookup_alterPairs, h]

end OrderedMap

end DomainModel
