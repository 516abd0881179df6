import DomainModel.OrderedMap
import DomainModel.Proofs.Names

/-!
# The views of an ordered map

An ordered map shows two things: its keys in their order, and the value of each key. Together they
are the whole map (`ext_views`), so an equation between maps is proved by comparing the keys and
then, key by key, the values. This module says what writing does to the two views, for one pair
and for a list of pairs written one after another.

## What this module delivers

- `mem_entries_iff`, `mem_keys_iff`, `get?_of_mem`: how the two views hang together.
- `ext_views`: maps with the same views are equal.
- `flatMap_entries_if`, `filter_entries_key`: what a list of pairs holds under one key.
- `Reordered`: maps with the same pairs in any order, with `reordered_iff_get?`.
- `mapValues`: the same keys with other values, with `lookup_map_pairs` for other keys too.
- `get?_insert`, `keys_insert_of_mem`, `keys_alter_eq_distinct`: one pair.
- `insertAll`: a list of pairs, with `keys_insertAll`, `get?_insertAll_of_nodup` and
  `insertAll_entries_insertAll`, by which pairs may be collected in a map of their own first.
-/

set_option autoImplicit false

namespace DomainModel.OrderedMap

variable {κ ν : Type} [DecidableEq κ]

/-! ## Keys and values -/

omit [DecidableEq κ] in
@[simp]
theorem keys_empty : (empty : OrderedMap κ ν).keys = [] := rfl

@[simp]
theorem get?_empty (key : κ) : (empty : OrderedMap κ ν).get? key = none := rfl

/-- In a list of pairs with distinct keys every pair is found under its key. -/
theorem lookup_of_mem {pairs : List (κ × ν)} (h : (pairs.map Prod.fst).Nodup) {key : κ}
    {value : ν} (hmem : (key, value) ∈ pairs) : pairs.lookup key = some value := by
  induction pairs with
  | nil => simp at hmem
  | cons pair rest ih =>
      obtain ⟨first, head⟩ := pair
      rw [List.map_cons, List.nodup_cons] at h
      rcases List.mem_cons.1 hmem with heq | hrest
      · cases heq
        exact List.lookup_cons_self
      · have hne : key ≠ first := by
          rintro rfl
          exact h.1 (List.mem_map.2 ⟨(key, value), hrest, rfl⟩)
        rw [List.lookup_cons, beq_eq_false_iff_ne.2 hne]
        exact ih h.2 hrest

/-- What is found under a key is a pair with this key. -/
theorem mem_of_lookup {pairs : List (κ × ν)} {key : κ} {value : ν}
    (h : pairs.lookup key = some value) : (key, value) ∈ pairs := by
  obtain ⟨front, rear, hsplit, -⟩ := List.lookup_eq_some_iff.1 h
  rw [hsplit]
  exact List.mem_append_right front List.mem_cons_self

/-- Every pair of a map is found under its key. -/
theorem get?_of_mem (m : OrderedMap κ ν) {key : κ} {value : ν} (h : (key, value) ∈ m.entries) :
    m.get? key = some value :=
  lookup_of_mem m.nodup_keys h

/-- The pairs of a map are those found under their key. -/
theorem mem_entries_iff (m : OrderedMap κ ν) {key : κ} {value : ν} :
    (key, value) ∈ m.entries ↔ m.get? key = some value :=
  ⟨m.get?_of_mem, mem_of_lookup⟩

/-- The keys of a map are the names with a value. -/
theorem mem_keys_iff (m : OrderedMap κ ν) (key : κ) :
    key ∈ m.keys ↔ ∃ value, m.get? key = some value := by
  constructor
  · intro h
    obtain ⟨⟨key, value⟩, hmem, rfl⟩ := List.mem_map.1 h
    exact ⟨value, m.get?_of_mem hmem⟩
  · rintro ⟨value, h⟩
    exact List.mem_map.2 ⟨(key, value), mem_of_lookup h, rfl⟩

/-- A name that is no key has no value. -/
theorem get?_eq_none (m : OrderedMap κ ν) {key : κ} (h : key ∉ m.keys) : m.get? key = none := by
  rw [Option.eq_none_iff_forall_ne_some]
  intro value hvalue
  exact h ((m.mem_keys_iff key).2 ⟨value, hvalue⟩)

/-- The pairs of a map, read off its two views. -/
theorem entries_eq_views (m : OrderedMap κ ν) :
    m.entries.map (fun pair => (pair.1, some pair.2)) =
      m.keys.map fun key => (key, m.get? key) := by
  rw [keys, List.map_map]
  apply List.map_congr_left
  rintro ⟨key, value⟩ hmem
  simp [m.get?_of_mem hmem]

/-- Maps with the same keys in the same order and the same value at each key are equal. -/
theorem ext_views {m n : OrderedMap κ ν} (hkeys : m.keys = n.keys)
    (hget : ∀ key, m.get? key = n.get? key) : m = n := by
  apply ext
  -- a pair can be told from its key and the value found there, as both are in it
  have hinjective : Function.Injective fun pair : κ × ν => (pair.1, some pair.2) := by
    rintro ⟨key, value⟩ ⟨other, value'⟩ h
    simpa using h
  apply hinjective.list_map
  rw [entries_eq_views, entries_eq_views, hkeys]
  simp only [hget]

/-! ## The pair of one key -/

/-- What is collected from the pairs of a map under one key comes from the value of this key. -/
theorem flatMap_entries_if {α : Type} (m : OrderedMap κ ν) (key : κ) (f : ν → List α) :
    (m.entries.flatMap fun pair => if pair.1 = key then f pair.2 else []) =
      ((m.get? key).map f).getD [] := by
  obtain ⟨entries, hnodup⟩ := m
  change _ = ((entries.lookup key).map f).getD []
  induction entries with
  | nil => rfl
  | cons pair rest ih =>
      obtain ⟨first, value⟩ := pair
      obtain ⟨hfirst, hrest⟩ := List.nodup_cons.1 hnodup
      rw [List.flatMap_cons, List.lookup_cons]
      by_cases h : first = key
      · -- no later pair has the key again
        have hlater : rest.flatMap (fun pair => if pair.1 = key then f pair.2 else []) = [] := by
          rw [List.flatMap_eq_nil_iff]
          intro pair hpair
          rw [if_neg]
          intro hkey
          exact hfirst (List.mem_map.2 ⟨pair, hpair, hkey.trans h.symm⟩)
        subst h
        simp [hlater]
      · rw [if_neg h, beq_eq_false_iff_ne.2 (Ne.symm h)]
        exact ih hrest

/-- The pairs of a map under one key: the pair of its value, if there is one. -/
theorem filter_entries_key (m : OrderedMap κ ν) (key : κ) :
    (m.entries.filter fun pair => pair.1 == key) =
      ((m.get? key).map fun value => (key, value)).toList := by
  have hflat := m.flatMap_entries_if key fun value => [(key, value)]
  have hfilter : ∀ pairs : List (κ × ν), (pairs.filter fun pair => pair.1 == key) =
      pairs.flatMap fun pair => if pair.1 = key then [(key, pair.2)] else [] := by
    intro pairs
    induction pairs with
    | nil => rfl
    | cons pair rest ih =>
        obtain ⟨first, value⟩ := pair
        rw [List.filter_cons, List.flatMap_cons, ih]
        by_cases h : first = key
        · simp [h]
        · simp [h]
  rw [hfilter, hflat]
  cases m.get? key <;> rfl

/-! ## The order of pairs -/

/-- Two maps have the same pairs, in any order. -/
def Reordered (m n : OrderedMap κ ν) : Prop := m.entries.Perm n.entries

/-- Two maps have the same pairs when they have the same value at every key. -/
theorem reordered_iff_get? (m n : OrderedMap κ ν) :
    m.Reordered n ↔ ∀ key, m.get? key = n.get? key := by
  have hpairs : m.Reordered n ↔ ∀ pair, pair ∈ m.entries ↔ pair ∈ n.entries :=
    List.perm_ext_iff_of_nodup (.of_map _ m.nodup_keys) (.of_map _ n.nodup_keys)
  rw [hpairs]
  constructor
  · intro h key
    apply Option.ext
    intro value
    rw [← mem_entries_iff, ← mem_entries_iff, h]
  · rintro h ⟨key, value⟩
    rw [mem_entries_iff, mem_entries_iff, h]

/-! ## Other values -/

/-- The same keys with other values. -/
def mapValues {μ : Type} (f : ν → μ) (m : OrderedMap κ ν) : OrderedMap κ μ :=
  ⟨m.entries.map fun (key, value) => (key, f value), by
    rw [List.map_map]
    exact m.nodup_keys⟩

omit [DecidableEq κ] in
@[simp]
theorem mapValues_id (m : OrderedMap κ ν) : m.mapValues id = m := by
  apply ext
  exact List.map_id _

/-- In a list of pairs whose keys are renamed without confusion, a new name is found where the old
one was. -/
theorem lookup_map_pairs {κ' μ : Type} [DecidableEq κ'] {rename : κ → κ'}
    (h : Function.Injective rename) (f : ν → μ) (pairs : List (κ × ν)) (key : κ) :
    (pairs.map fun (key, value) => (rename key, f value)).lookup (rename key) =
      (pairs.lookup key).map f := by
  induction pairs with
  | nil => rfl
  | cons pair rest ih =>
      obtain ⟨first, value⟩ := pair
      rw [List.map_cons, List.lookup_cons, List.lookup_cons, ih]
      by_cases hfirst : key = first
      · simp [hfirst]
      · have hrename : rename key ≠ rename first := fun heq => hfirst (h heq)
        rw [beq_eq_false_iff_ne.2 hfirst, beq_eq_false_iff_ne.2 hrename]

theorem get?_mapValues {μ : Type} (f : ν → μ) (m : OrderedMap κ ν) (key : κ) :
    (m.mapValues f).get? key = (m.get? key).map f :=
  lookup_map_pairs Function.injective_id f m.entries key

/-! ## One pair -/

/-- The written key has the new value, every other key the old one. -/
theorem get?_insert (m : OrderedMap κ ν) (key other : κ) (value : ν) :
    (m.insert key value).get? other = if other = key then some value else m.get? other := by
  by_cases h : other = key
  · subst h
    simp [insert]
  · rw [if_neg h]
    exact m.get?_alter_of_ne _ h

/-- Writing at a key that is there leaves the keys as they are. -/
theorem keys_insert_of_mem (m : OrderedMap κ ν) {key : κ} (h : key ∈ m.keys) (value : ν) :
    (m.insert key value).keys = m.keys := by
  rw [insert, keys_alter, if_pos h]

/-! ## Names as keys

When the keys are names, the keys after writing are the distinct names of the keys before and
those written. -/

theorem distinct_keys (m : OrderedMap String ν) : Names.distinct m.keys = m.keys :=
  Names.distinct_eq_self m.nodup_keys

/-- A name that is written comes last unless it was there. -/
theorem keys_alter_eq_distinct (m : OrderedMap String ν) (name : String) (f : Option ν → ν) :
    (m.alter name f).keys = Names.distinct (m.keys ++ [name]) := by
  rw [keys_alter, Names.distinct_concat, distinct_keys]

/-! ## Pairs written one after another -/

/-- The map with the pairs of a list written into it, in order. -/
def insertAll (m : OrderedMap κ ν) (pairs : List (κ × ν)) : OrderedMap κ ν :=
  pairs.foldl (fun m pair => m.insert pair.1 pair.2) m

theorem ofList_eq_insertAll (pairs : List (κ × ν)) : ofList pairs = empty.insertAll pairs := rfl

@[simp]
theorem insertAll_nil (m : OrderedMap κ ν) : m.insertAll [] = m := rfl

@[simp]
theorem insertAll_cons (m : OrderedMap κ ν) (key : κ) (value : ν) (pairs : List (κ × ν)) :
    m.insertAll ((key, value) :: pairs) = (m.insert key value).insertAll pairs := rfl

theorem insertAll_append (m : OrderedMap κ ν) (pairs others : List (κ × ν)) :
    m.insertAll (pairs ++ others) = (m.insertAll pairs).insertAll others :=
  List.foldl_append

/-- A key has the value it was written with last, or else the one it had. -/
theorem get?_insertAll (m : OrderedMap κ ν) (pairs : List (κ × ν)) (key : κ) :
    (m.insertAll pairs).get? key = (pairs.reverse.lookup key).or (m.get? key) := by
  induction pairs generalizing m with
  | nil => simp
  | cons pair rest ih =>
      obtain ⟨first, value⟩ := pair
      rw [insertAll_cons, ih, get?_insert, List.reverse_cons, List.lookup_append]
      by_cases h : key = first
      · subst h
        cases rest.reverse.lookup key <;> simp
      · simp [h, List.lookup_cons, beq_eq_false_iff_ne.2 h]

/-- In a list with distinct keys, first and last value of a key are the same. -/
theorem get?_insertAll_of_nodup (m : OrderedMap κ ν) {pairs : List (κ × ν)}
    (h : (pairs.map Prod.fst).Nodup) (key : κ) :
    (m.insertAll pairs).get? key = (pairs.lookup key).or (m.get? key) := by
  rw [get?_insertAll]
  congr 1
  -- with distinct keys a look-up means membership, which does not see the order
  apply Option.ext
  intro value
  have hreverse : (pairs.reverse.map Prod.fst).Nodup := by
    rw [List.map_reverse]
    exact List.nodup_reverse.2 h
  constructor
  · intro hvalue
    exact lookup_of_mem h (List.mem_reverse.1 (mem_of_lookup hvalue))
  · intro hvalue
    exact lookup_of_mem hreverse (List.mem_reverse.2 (mem_of_lookup hvalue))

/-- The names after writing a list of pairs. -/
theorem keys_insertAll (m : OrderedMap String ν) (pairs : List (String × ν)) :
    (m.insertAll pairs).keys = Names.distinct (m.keys ++ pairs.map Prod.fst) := by
  induction pairs generalizing m with
  | nil => simp [distinct_keys]
  | cons pair rest ih =>
      obtain ⟨name, value⟩ := pair
      rw [insertAll_cons, ih, insert, keys_alter_eq_distinct, Names.distinct_distinct_append,
        List.append_assoc, List.map_cons, List.singleton_append]

/-- Pairs may be collected in a map of their own before they are written: of a repeated name only
the place of its first pair and the value of its last one matter. -/
theorem insertAll_entries_insertAll (m : OrderedMap String ν) (pairs : List (String × ν)) :
    m.insertAll ((empty : OrderedMap String ν).insertAll pairs).entries = m.insertAll pairs := by
  apply ext_views
  · have hkeys := keys_insertAll (empty : OrderedMap String ν) pairs
    rw [keys_insertAll, keys_insertAll, ← keys, hkeys, keys_empty, List.nil_append,
      Names.distinct_append_distinct]
  · intro name
    have hget := get?_insertAll (empty : OrderedMap String ν) pairs name
    rw [get?_insertAll_of_nodup _ (nodup_keys _), ← get?, hget, get?_insertAll]
    simp

end DomainModel.OrderedMap
