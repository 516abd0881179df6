import DomainModel.Options.Table
import DomainModel.Proofs.FirstFailure
import DomainModel.Proofs.OrderedMap

/-!
# The theory of option tables

Entries are united by dropping repetitions from the concatenated lists, so a run of merges is one
concatenation (`OptionEntry.foldl_merge`). A table that was made by merging has a fixed shape:
every family has its slot, in the order of `OptionFamily.all` and of the kind the family takes, and
no list in it names anybody twice (`OptionTable.Reachable.wellShaped`). On such a table a merge
either finds the declaration of the wrong kind, which the family alone decides, or writes one slot
(`OptionTable.mergeFlag_eq_verdict`, `OptionTable.mergeValue_eq_verdict`).

## What this module delivers

- `OptionEntry.IsDistinct`, `OptionEntry.foldl_merge`, `OptionEntry.of_merge_of`.
- `OptionEntry.Covers`, with `IsDistinct.merge_of_covers`: entries that add nothing to another.
- `ValueEntries` with `entryAt` and `unite`: the entries of one family, value by value
  (`ext_entryAt`), and what a run of merges makes of them (`keys_foldl_unite`,
  `entryAt_foldl_unite`).
- `OptionTable.put`, `OptionTable.flagEntry`, `OptionTable.values`: writing and reading one slot.
- `OptionTable.WellShaped`, `OptionTable.Reachable`: the shape of a table and the tables that
  merging makes.
-/

set_option autoImplicit false

namespace DomainModel

/-! ## Entries -/

namespace OptionEntry

/-- Neither list of the entry names anybody twice. -/
structure IsDistinct (entry : OptionEntry) : Prop where
  /-- The included names are distinct. -/
  included : entry.included.Nodup
  /-- The excluded names are distinct. -/
  excluded : entry.excluded.Nodup

theorem isDistinct_of (included excluded : List String) : (of included excluded).IsDistinct :=
  ⟨Names.nodup_distinct included, Names.nodup_distinct excluded⟩

theorem isDistinct_empty : empty.IsDistinct := ⟨List.nodup_nil, List.nodup_nil⟩

theorem isDistinct_merge (entry other : OptionEntry) : (entry.merge other).IsDistinct :=
  isDistinct_of _ _

/-- An entry without repetitions is the entry of its own lists. -/
theorem IsDistinct.of_eq {entry : OptionEntry} (h : entry.IsDistinct) :
    of entry.included entry.excluded = entry := by
  rw [of, Names.distinct_eq_self h.included, Names.distinct_eq_self h.excluded]

/-- Merging made entries is making the entry of the concatenated lists. -/
theorem of_merge_of (included excluded included' excluded' : List String) :
    (of included excluded).merge (of included' excluded') =
      of (included ++ included') (excluded ++ excluded') := by
  rw [merge, of, of, of, of, Names.distinct_distinct_append, Names.distinct_append_distinct,
    Names.distinct_distinct_append, Names.distinct_append_distinct]

/-- An entry names everybody that another one names. -/
structure Covers (entry other : OptionEntry) : Prop where
  /-- The included names of the other are there. -/
  included : other.included ⊆ entry.included
  /-- The excluded names of the other are there. -/
  excluded : other.excluded ⊆ entry.excluded

theorem covers_of {included excluded included' excluded' : List String}
    (hincluded : included' ⊆ included) (hexcluded : excluded' ⊆ excluded) :
    (of included excluded).Covers (of included' excluded') where
  included := by
    intro name hname
    exact Names.mem_distinct.2 (hincluded (Names.mem_distinct.1 hname))
  excluded := by
    intro name hname
    exact Names.mem_distinct.2 (hexcluded (Names.mem_distinct.1 hname))

/-- Merging in an entry that names nobody new changes nothing, not even the order of names. -/
theorem IsDistinct.merge_of_covers {entry other : OptionEntry} (h : entry.IsDistinct)
    (hcovers : entry.Covers other) : entry.merge other = entry := by
  rw [merge, of, Names.distinct_append_of_subset hcovers.included,
    Names.distinct_append_of_subset hcovers.excluded]
  exact h.of_eq

/-- A run of merges drops the repetitions of all lists at once. -/
theorem foldl_merge {entry : OptionEntry} (h : entry.IsDistinct) (entries : List OptionEntry) :
    entries.foldl merge entry =
      of (entry.included ++ entries.flatMap included)
        (entry.excluded ++ entries.flatMap excluded) := by
  induction entries generalizing entry with
  | nil => simp [h.of_eq]
  | cons other entries ih =>
      rw [List.foldl_cons, ih (isDistinct_merge entry other)]
      simp only [merge, of, List.flatMap_cons, Names.distinct_distinct_append, List.append_assoc]

end OptionEntry

/-! ## The entries of one value-bearing family -/

/-- The entries of a value-bearing family, value by value. -/
abbrev ValueEntries := OrderedMap String OptionEntry

namespace ValueEntries

/-- The entry of a value; a value that was never declared has the entry that names nobody. -/
def entryAt (entries : ValueEntries) (value : String) : OptionEntry :=
  (entries.get? value).getD .empty

theorem entryAt_empty (value : String) : entryAt .empty value = .empty := rfl

/-- The entries with one more entry merged in at its value. -/
def unite (entries : ValueEntries) (contribution : String × OptionEntry) : ValueEntries :=
  entries.alter contribution.1 fun current? => (current?.getD .empty).merge contribution.2

/-- The value of a contribution gains its entry, the others keep theirs. -/
theorem entryAt_unite (entries : ValueEntries) (value other : String) (entry : OptionEntry) :
    entryAt (unite entries (value, entry)) other =
      if value = other then (entryAt entries other).merge entry else entryAt entries other := by
  by_cases h : value = other
  · subst h
    simp [entryAt, unite]
  · rw [if_neg h, entryAt, unite, OrderedMap.get?_alter_of_ne _ _ (Ne.symm h)]
    rfl

/-- The values after a run of merges: new ones come last, in order. -/
theorem keys_foldl_unite (entries : ValueEntries) (contributions : List (String × OptionEntry)) :
    (contributions.foldl unite entries).keys =
      Names.distinct (entries.keys ++ contributions.map Prod.fst) := by
  induction contributions generalizing entries with
  | nil => simp [OrderedMap.distinct_keys]
  | cons contribution rest ih =>
      rw [List.foldl_cons, ih, unite, OrderedMap.keys_alter_eq_distinct,
        Names.distinct_distinct_append, List.append_assoc, List.map_cons, List.singleton_append]

/-- The entry of a value after a run of merges: what the run contributes to this value, merged
in order. -/
theorem entryAt_foldl_unite (entries : ValueEntries)
    (contributions : List (String × OptionEntry)) (value : String) :
    entryAt (contributions.foldl unite entries) value =
      ((contributions.filter fun contribution => contribution.1 == value).map Prod.snd).foldl
        OptionEntry.merge (entryAt entries value) := by
  induction contributions generalizing entries with
  | nil => rfl
  | cons contribution rest ih =>
      obtain ⟨other, entry⟩ := contribution
      rw [List.foldl_cons, ih, entryAt_unite, List.filter_cons]
      by_cases h : other = value
      · simp [h]
      · simp [h]

/-- A declared value is found with its entry. -/
theorem get?_eq_some_entryAt {entries : ValueEntries} {value : String} (h : value ∈ entries.keys) :
    entries.get? value = some (entryAt entries value) := by
  obtain ⟨entry, hentry⟩ := (entries.mem_keys_iff value).1 h
  rw [entryAt, hentry, Option.getD_some]

/-- The entries found in a list of values are those of the list. -/
theorem entryAt_of_mem {entries : ValueEntries} {value : String} {entry : OptionEntry}
    (h : (value, entry) ∈ entries.entries) : entryAt entries value = entry := by
  rw [entryAt, entries.get?_of_mem h, Option.getD_some]

/-- Entries with the same values in the same order and the same entry at each value are equal. -/
theorem ext_entryAt {entries others : ValueEntries} (hkeys : entries.keys = others.keys)
    (hentry : ∀ value, entryAt entries value = entryAt others value) : entries = others := by
  apply OrderedMap.ext_views hkeys
  intro value
  by_cases hvalue : value ∈ entries.keys
  · rw [get?_eq_some_entryAt hvalue, get?_eq_some_entryAt (hkeys ▸ hvalue), hentry]
  · rw [entries.get?_eq_none hvalue, others.get?_eq_none (hkeys ▸ hvalue)]

end ValueEntries

/-- What a family has against declarations of a kind: nothing if it takes them. -/
def OptionFamily.objectionTo (family : OptionFamily) (found : OptionKind) : Option OptionError :=
  if family.kind = found then none else some (.kindMismatch family family.kind found)

@[simp]
theorem OptionFamily.objectionTo_flag_eq_none (family : OptionFamily) :
    family.objectionTo .flag = none ↔ family.carriesValue = false := by
  cases family <;> decide

@[simp]
theorem OptionFamily.objectionTo_single_eq_none (family : OptionFamily) :
    family.objectionTo .single = none ↔ family.carriesValue = true := by
  cases family <;> decide

/-- Against flags stands that a family carries values, and nothing else. -/
theorem OptionFamily.objectionTo_flag_eq_some_iff {family : OptionFamily} {error : OptionError} :
    family.objectionTo .flag = some error ↔
      family.carriesValue = true ∧ error = .kindMismatch family family.kind .flag := by
  rw [objectionTo, kind]
  cases family.carriesValue with
  | false => simp
  | true => simp [eq_comm]

/-- Against values stands that a family carries none, and nothing else. -/
theorem OptionFamily.objectionTo_single_eq_some_iff {family : OptionFamily}
    {error : OptionError} :
    family.objectionTo .single = some error ↔
      family.carriesValue = false ∧ error = .kindMismatch family family.kind .single := by
  rw [objectionTo, kind]
  cases family.carriesValue with
  | false => simp [eq_comm]
  | true => simp

/-- A flag family is no value-bearing family. -/
theorem OptionFamily.ne_of_carriesValue {family other : OptionFamily}
    (h : family.carriesValue = false) (h' : other.carriesValue = true) : family ≠ other := by
  rintro rfl
  rw [h] at h'
  cases h'

/-! ## Slots -/

namespace OptionTable

/-- The table with a slot written for a family. -/
def put (table : OptionTable) (family : OptionFamily) (slot : OptionSlot) : OptionTable :=
  ⟨table.slots.insert family slot⟩

/-- The entry of a flag family. -/
def flagEntry (table : OptionTable) (family : OptionFamily) : OptionEntry :=
  (table.flagEntry? family).getD .empty

/-- The entries of a value-bearing family. -/
def values (table : OptionTable) (family : OptionFamily) : ValueEntries :=
  match table.slot? family with
  | some (.valued entries) => entries
  | _ => .empty

/-- Before any declaration a flag names nobody. -/
theorem flagEntry_empty (family : OptionFamily) : empty.flagEntry family = .empty := by
  cases family <;> rfl

/-- Before any declaration a family has no values. -/
theorem values_empty (family : OptionFamily) : empty.values family = .empty := by
  cases family <;> rfl

theorem slot?_put (table : OptionTable) (family other : OptionFamily) (slot : OptionSlot) :
    (table.put family slot).slot? other =
      if other = family then some slot else table.slot? other :=
  OrderedMap.get?_insert table.slots family other slot

theorem flagEntry_put_self (table : OptionTable) (family : OptionFamily) (entry : OptionEntry) :
    (table.put family (.flag entry)).flagEntry family = entry := by
  rw [flagEntry, flagEntry?, slot?_put, if_pos rfl]
  rfl

theorem flagEntry_put_of_ne (table : OptionTable) {family other : OptionFamily}
    (h : other ≠ family) (slot : OptionSlot) :
    (table.put family slot).flagEntry other = table.flagEntry other := by
  rw [flagEntry, flagEntry?, slot?_put, if_neg h]
  rfl

theorem values_put_self (table : OptionTable) (family : OptionFamily) (entries : ValueEntries) :
    (table.put family (.valued entries)).values family = entries := by
  rw [values, slot?_put, if_pos rfl]

theorem values_put_of_ne (table : OptionTable) {family other : OptionFamily}
    (h : other ≠ family) (slot : OptionSlot) :
    (table.put family slot).values other = table.values other := by
  rw [values, slot?_put, if_neg h]
  rfl

/-! ## The shape of a table -/

/-- The shape of a table that was made by merging. -/
structure WellShaped (table : OptionTable) : Prop where
  /-- Every family has a slot, in the fixed order. -/
  keys : table.slots.keys = OptionFamily.all
  /-- The slot of a flag family holds one entry. -/
  flag : ∀ {family : OptionFamily}, family.carriesValue = false →
    table.slot? family = some (.flag (table.flagEntry family))
  /-- The slot of a value-bearing family holds entries for values. -/
  valued : ∀ {family : OptionFamily}, family.carriesValue = true →
    table.slot? family = some (.valued (table.values family))
  /-- No flag entry names anybody twice. -/
  flagEntry_distinct : ∀ family : OptionFamily, (table.flagEntry family).IsDistinct
  /-- No entry of a value names anybody twice. -/
  valueEntry_distinct : ∀ (family : OptionFamily) (value : String),
    (ValueEntries.entryAt (table.values family) value).IsDistinct

theorem wellShaped_empty : empty.WellShaped where
  keys := rfl
  flag := by
    intro family h
    cases family with
    | skipClient | skipServer | filter | noFluentMethod | readOnly | embedded => rfl
    | _ => cases h
  valued := by
    intro family h
    cases family with
    | skipClient | skipServer | filter | noFluentMethod | readOnly | embedded => cases h
    | _ => rfl
  flagEntry_distinct := by
    intro family
    cases family <;> exact OptionEntry.isDistinct_empty
  valueEntry_distinct := by
    intro family value
    cases family <;> exact OptionEntry.isDistinct_empty

/-- The families keep their places when a slot of the table is written. -/
theorem WellShaped.keys_put {table : OptionTable} (h : table.WellShaped) (family : OptionFamily)
    (slot : OptionSlot) : (table.put family slot).slots.keys = OptionFamily.all := by
  have hmem : family ∈ table.slots.keys := h.keys ▸ OptionFamily.mem_all family
  rw [put, OrderedMap.keys_insert_of_mem _ hmem, h.keys]

/-- Writing an entry without repetitions for a flag family keeps the shape. -/
theorem WellShaped.put_flag {table : OptionTable} (h : table.WellShaped) {family : OptionFamily}
    (hfamily : family.carriesValue = false) {entry : OptionEntry} (hentry : entry.IsDistinct) :
    (table.put family (.flag entry)).WellShaped where
  keys := h.keys_put family _
  flag := by
    intro other hother
    by_cases he : other = family
    · subst he
      rw [slot?_put, if_pos rfl, flagEntry_put_self]
    · rw [slot?_put, if_neg he, flagEntry_put_of_ne table he, h.flag hother]
  valued := by
    intro other hother
    have he : other ≠ family := (OptionFamily.ne_of_carriesValue hfamily hother).symm
    rw [slot?_put, if_neg he, values_put_of_ne table he, h.valued hother]
  flagEntry_distinct := by
    intro other
    by_cases he : other = family
    · subst he
      rw [flagEntry_put_self]
      exact hentry
    · rw [flagEntry_put_of_ne table he]
      exact h.flagEntry_distinct other
  valueEntry_distinct := by
    intro other value
    by_cases he : other = family
    · -- a flag family has no values, before and after
      subst he
      rw [values, slot?_put, if_pos rfl]
      exact OptionEntry.isDistinct_empty
    · rw [values_put_of_ne table he]
      exact h.valueEntry_distinct other value

/-- Writing entries without repetitions for a value-bearing family keeps the shape. -/
theorem WellShaped.put_valued {table : OptionTable} (h : table.WellShaped)
    {family : OptionFamily} (hfamily : family.carriesValue = true) {entries : ValueEntries}
    (hentries : ∀ value, (ValueEntries.entryAt entries value).IsDistinct) :
    (table.put family (.valued entries)).WellShaped where
  keys := h.keys_put family _
  flag := by
    intro other hother
    have he : other ≠ family := OptionFamily.ne_of_carriesValue hother hfamily
    rw [slot?_put, if_neg he, flagEntry_put_of_ne table he, h.flag hother]
  valued := by
    intro other hother
    by_cases he : other = family
    · subst he
      rw [slot?_put, if_pos rfl, values_put_self]
    · rw [slot?_put, if_neg he, values_put_of_ne table he, h.valued hother]
  flagEntry_distinct := by
    intro other
    by_cases he : other = family
    · -- a value-bearing family has no flag entry, before and after
      subst he
      rw [flagEntry, flagEntry?, slot?_put, if_pos rfl]
      exact OptionEntry.isDistinct_empty
    · rw [flagEntry_put_of_ne table he]
      exact h.flagEntry_distinct other
  valueEntry_distinct := by
    intro other value
    by_cases he : other = family
    · subst he
      rw [values_put_self]
      exact hentries value
    · rw [values_put_of_ne table he]
      exact h.valueEntry_distinct other value

/-! ## Merging into a table -/

/-- The table with an entry merged into the slot of a flag family. -/
def uniteFlag (table : OptionTable) (family : OptionFamily) (entry : OptionEntry) : OptionTable :=
  table.put family (.flag ((table.flagEntry family).merge entry))

/-- The table with an entry merged in at a value of a value-bearing family. -/
def uniteValue (table : OptionTable) (family : OptionFamily)
    (contribution : String × OptionEntry) : OptionTable :=
  table.put family (.valued ((table.values family).unite contribution))

/-- Merging a flag fails exactly when the family takes no flags. -/
theorem mergeFlag_eq_verdict {table : OptionTable} (h : table.WellShaped)
    (family : OptionFamily) (entry : OptionEntry) :
    table.mergeFlag family entry =
      verdict (family.objectionTo .flag) (table.uniteFlag family entry) := by
  cases hfamily : family.carriesValue with
  | false =>
      rw [(family.objectionTo_flag_eq_none).2 hfamily, mergeFlag, h.flag hfamily]
      rfl
  | true =>
      -- the slot that is found is of the other kind, and this is the objection
      rw [mergeFlag, h.valued hfamily]
      simp [OptionFamily.objectionTo, OptionFamily.kind, OptionSlot.kind, hfamily]

/-- Merging a value fails exactly when the family takes no values. -/
theorem mergeValue_eq_verdict {table : OptionTable} (h : table.WellShaped)
    (family : OptionFamily) (value : String) (entry : OptionEntry) :
    table.mergeValue family value entry =
      verdict (family.objectionTo .single) (table.uniteValue family (value, entry)) := by
  cases hfamily : family.carriesValue with
  | true =>
      rw [(family.objectionTo_single_eq_none).2 hfamily, mergeValue, h.valued hfamily]
      rfl
  | false =>
      rw [mergeValue, h.flag hfamily]
      simp [OptionFamily.objectionTo, OptionFamily.kind, OptionSlot.kind, hfamily]

/-- Merging a flag into a flag family keeps the shape. -/
theorem WellShaped.uniteFlag {table : OptionTable} (h : table.WellShaped) {family : OptionFamily}
    (hfamily : family.carriesValue = false) (entry : OptionEntry) :
    (table.uniteFlag family entry).WellShaped :=
  h.put_flag hfamily (OptionEntry.isDistinct_merge _ entry)

/-- Merging a value into a value-bearing family keeps the shape. -/
theorem WellShaped.uniteValue {table : OptionTable} (h : table.WellShaped)
    {family : OptionFamily} (hfamily : family.carriesValue = true)
    (contribution : String × OptionEntry) :
    (table.uniteValue family contribution).WellShaped := by
  obtain ⟨value, entry⟩ := contribution
  refine h.put_valued hfamily fun other => ?_
  rw [ValueEntries.entryAt_unite]
  split
  · exact OptionEntry.isDistinct_merge _ entry
  · exact h.valueEntry_distinct family other

/-- The tables that merging makes from the empty table. -/
inductive Reachable : OptionTable → Prop where
  | empty : Reachable empty
  | mergeFlag {table merged : OptionTable} {family : OptionFamily} {entry : OptionEntry} :
      Reachable table → table.mergeFlag family entry = .ok merged → Reachable merged
  | mergeValue {table merged : OptionTable} {family : OptionFamily} {value : String}
      {entry : OptionEntry} :
      Reachable table → table.mergeValue family value entry = .ok merged → Reachable merged

/-- Every table that merging makes has the fixed shape. -/
theorem Reachable.wellShaped {table : OptionTable} (h : table.Reachable) : table.WellShaped := by
  -- a merge that succeeds met no objection, so it wrote one slot of a table with the shape
  induction h with
  | empty => exact wellShaped_empty
  | @mergeFlag table merged family entry _ hmerge ih =>
      rw [mergeFlag_eq_verdict ih, verdict_eq_ok_iff] at hmerge
      obtain ⟨hnone, rfl⟩ := hmerge
      exact ih.uniteFlag (family.objectionTo_flag_eq_none.1 hnone) entry
  | @mergeValue table merged family value entry _ hmerge ih =>
      rw [mergeValue_eq_verdict ih, verdict_eq_ok_iff] at hmerge
      obtain ⟨hnone, rfl⟩ := hmerge
      exact ih.uniteValue (family.objectionTo_single_eq_none.1 hnone) (value, entry)

end OptionTable

end DomainModel
