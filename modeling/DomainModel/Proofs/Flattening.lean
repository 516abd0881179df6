import DomainModel.Proofs.EntryUnion

/-!
# Flattening an option table

A table can be flattened into standalone options and put together again from them. The way back
looks up the name of every option as a family and merges its entry like a declaration would. For
the tables that merging makes nothing is lost on the way: a flag whose entry names nobody leaves no
option behind, but its slot is there from the start, and a value without names has an option of its
own.

The two ways meet family by family. Among the flattened options those with the name of a family
are the ones its slot stands for (`filter_named_applied`), and merging a list of options makes each
slot of those with its name (`flagEntry_foldl_enter`, `values_foldl_enter`).

## What this module delivers

- `OptionTable.ofApplied`: the table of a list of standalone options, or why there is none.
- `AppliedOption.objection?`, `AppliedOption.enter`: one option merged, as an objection and a table.
- `OptionTable.filter_named_applied`: the options of one family in a flattened table.
- `OptionTable.WellShaped.ext`: tables of the fixed shape with the same contents are equal.
- `OptionTable.ofApplied_applied`: the way there and back.
-/

set_option autoImplicit false

namespace DomainModel

/-! ## One option merged

An option is refused for its name or for its kind, whatever the table. One that is not refused is
named like a family and has the shape of value that the family takes. -/

namespace AppliedOption

/-- The entry of an option. -/
def entry (option : AppliedOption) : OptionEntry := .of option.entities option.excluded

/-- What stands against an option: no family has its name, or the family takes options of another
kind. -/
def objection? (option : AppliedOption) : Option OptionError :=
  match OptionFamily.ofName option.name with
  | .ok family => family.objectionTo option.kind
  | .error error => some error

/-- The value and the entry that an option contributes to a value-bearing family. -/
def contribution? (option : AppliedOption) : Option (String × OptionEntry) :=
  match option.value with
  | .single value => some (value, option.entry)
  | _ => none

/-- The table after an option. -/
def enter (table : OptionTable) (option : AppliedOption) : OptionTable :=
  match OptionFamily.ofName option.name, option.value with
  | .ok family, .flag => table.uniteFlag family option.entry
  | .ok family, .single value => table.uniteValue family (value, option.entry)
  | _, _ => table

/-- Whether an option has the name of a family. -/
def named (family : OptionFamily) (option : AppliedOption) : Bool := option.name == family.name

/-- An option that nothing stands against is a flag of a flag family or a value of a value-bearing
one. -/
theorem of_objection?_eq_none {option : AppliedOption} (hnone : option.objection? = none) :
    ∃ family : OptionFamily, option.name = family.name ∧
      (family.carriesValue = false ∧ option.value = .flag ∨
        family.carriesValue = true ∧ ∃ value, option.value = .single value) := by
  rw [objection?] at hnone
  cases hname : OptionFamily.ofName option.name with
  | error error => simp [hname] at hnone
  | ok family =>
      rw [hname] at hnone
      refine ⟨family, OptionFamily.ofName_eq_ok_iff.1 hname, ?_⟩
      rw [kind] at hnone
      cases hvalue : option.value with
      | flag =>
          rw [hvalue] at hnone
          exact .inl ⟨family.objectionTo_flag_eq_none.1 hnone, rfl⟩
      | single value =>
          rw [hvalue] at hnone
          exact .inr ⟨family.objectionTo_single_eq_none.1 hnone, value, rfl⟩
      | entries entries =>
          -- no family takes a list of entries
          rw [hvalue] at hnone
          cases family <;> simp [OptionValue.kind, OptionFamily.objectionTo, OptionFamily.kind,
            OptionFamily.carriesValue] at hnone

end AppliedOption

namespace OptionTable

/-- Merges a standalone option into the family that its name names. -/
def mergeApplied (table : OptionTable) (option : AppliedOption) :
    Except OptionError OptionTable := do
  let family ← OptionFamily.ofName option.name
  match option.value with
  | .flag => table.mergeFlag family (.of option.entities option.excluded)
  | .single value => table.mergeValue family value (.of option.entities option.excluded)
  | .entries _ => .error (.kindMismatch family family.kind .entries)

/-- The table of a list of standalone options, merged one after another. -/
def ofApplied (options : List AppliedOption) : Except OptionError OptionTable :=
  options.foldlM mergeApplied .empty

end OptionTable

namespace AppliedOption

/-- Merging one option: it is refused for what stands against it, or else entered. -/
theorem mergeApplied_eq_verdict {table : OptionTable} (h : table.WellShaped)
    (option : AppliedOption) :
    table.mergeApplied option = verdict option.objection? (enter table option) := by
  rw [OptionTable.mergeApplied, objection?, enter, kind]
  cases OptionFamily.ofName option.name with
  | error error => rfl
  | ok family =>
      cases option.value with
      | flag => exact OptionTable.mergeFlag_eq_verdict h family _
      | single value => exact OptionTable.mergeValue_eq_verdict h family value _
      | entries entries => cases family <;> rfl

/-- An option that nothing stands against keeps the shape of the table. -/
theorem wellShaped_enter {table : OptionTable} (h : table.WellShaped) {option : AppliedOption}
    (hnone : option.objection? = none) : (enter table option).WellShaped := by
  obtain ⟨family, hname, ⟨hfamily, hvalue⟩ | ⟨hfamily, value, hvalue⟩⟩ :=
    of_objection?_eq_none hnone
  · rw [enter, hname, hvalue, OptionFamily.ofName_name]
    exact h.uniteFlag hfamily option.entry
  · rw [enter, hname, hvalue, OptionFamily.ofName_name]
    exact h.uniteValue hfamily (value, option.entry)

/-- An option that is named like a family has no other family's name. -/
theorem named_eq_decide {option : AppliedOption} {owner : OptionFamily}
    (hname : option.name = owner.name) (family : OptionFamily) :
    option.named family = decide (family = owner) := by
  rw [named, hname]
  by_cases he : family = owner
  · simp [he]
  · have hne : owner.name ≠ family.name := fun heq => he (OptionFamily.name_injective heq).symm
    simp [he, hne]

/-- An option changes the entry of the flag family it names and of no other. -/
theorem flagEntry_enter (table : OptionTable) {option : AppliedOption}
    (hnone : option.objection? = none) {family : OptionFamily}
    (hfamily : family.carriesValue = false) :
    (enter table option).flagEntry family =
      if option.named family then (table.flagEntry family).merge option.entry
      else table.flagEntry family := by
  obtain ⟨owner, hname, ⟨howner, hvalue⟩ | ⟨howner, value, hvalue⟩⟩ :=
    of_objection?_eq_none hnone
  · rw [enter, hname, hvalue, OptionFamily.ofName_name, named_eq_decide hname]
    by_cases he : family = owner
    · subst he
      rw [if_pos (decide_eq_true rfl)]
      exact OptionTable.flagEntry_put_self table family _
    · rw [if_neg (by simpa using he)]
      exact OptionTable.flagEntry_put_of_ne table he _
  · -- the family it names has values, so it is another one
    have he : family ≠ owner := OptionFamily.ne_of_carriesValue hfamily howner
    rw [enter, hname, hvalue, OptionFamily.ofName_name, named_eq_decide hname,
      if_neg (by simpa using he)]
    exact OptionTable.flagEntry_put_of_ne table he _

/-- An option contributes to the value-bearing family it names and to no other. -/
theorem values_enter (table : OptionTable) {option : AppliedOption}
    (hnone : option.objection? = none) {family : OptionFamily}
    (hfamily : family.carriesValue = true) :
    (enter table option).values family =
      if option.named family then
        option.contribution?.toList.foldl ValueEntries.unite (table.values family)
      else table.values family := by
  obtain ⟨owner, hname, ⟨howner, hvalue⟩ | ⟨howner, value, hvalue⟩⟩ :=
    of_objection?_eq_none hnone
  · -- the family it names is a flag, so it is another one
    have he : family ≠ owner := (OptionFamily.ne_of_carriesValue howner hfamily).symm
    rw [enter, hname, hvalue, OptionFamily.ofName_name, named_eq_decide hname,
      if_neg (by simpa using he)]
    exact OptionTable.values_put_of_ne table he _
  · rw [enter, hname, hvalue, OptionFamily.ofName_name, named_eq_decide hname, contribution?,
      hvalue]
    by_cases he : family = owner
    · subst he
      rw [if_pos (decide_eq_true rfl)]
      exact OptionTable.values_put_self table family _
    · rw [if_neg (by simpa using he)]
      exact OptionTable.values_put_of_ne table he _

/-! ## A list of options merged

What a run makes of the slot of a family depends on nothing but the options with its name. -/

/-- After a run of options, the entry of a flag family has the entries of those with its name
merged in, in order. -/
theorem flagEntry_foldl_enter (table : OptionTable) {options : List AppliedOption}
    (hnone : ∀ option ∈ options, option.objection? = none) {family : OptionFamily}
    (hfamily : family.carriesValue = false) :
    (options.foldl enter table).flagEntry family =
      ((options.filter (named family)).map entry).foldl OptionEntry.merge
        (table.flagEntry family) := by
  induction options generalizing table with
  | nil => rfl
  | cons option rest ih =>
      obtain ⟨hoption, hrest⟩ := List.forall_mem_cons.1 hnone
      rw [List.foldl_cons, ih _ hrest, flagEntry_enter table hoption hfamily, List.filter_cons]
      by_cases h : option.named family = true
      · simp [h]
      · simp [h]

/-- After a run of options, the values of a family have the contributions of those with its name
united with them, in order. -/
theorem values_foldl_enter (table : OptionTable) {options : List AppliedOption}
    (hnone : ∀ option ∈ options, option.objection? = none) {family : OptionFamily}
    (hfamily : family.carriesValue = true) :
    (options.foldl enter table).values family =
      ((options.filter (named family)).filterMap contribution?).foldl ValueEntries.unite
        (table.values family) := by
  induction options generalizing table with
  | nil => rfl
  | cons option rest ih =>
      obtain ⟨hoption, hrest⟩ := List.forall_mem_cons.1 hnone
      rw [List.foldl_cons, ih _ hrest, values_enter table hoption hfamily, List.filter_cons]
      by_cases h : option.named family = true
      · rw [if_pos h, if_pos h, List.filterMap_cons]
        cases option.contribution? <;> rfl
      · rw [if_neg h, if_neg h]

/-- Merging a list of options that nothing stands against enters all of them. -/
theorem foldlM_mergeApplied {table : OptionTable} (h : table.WellShaped)
    {options : List AppliedOption} (hnone : ∀ option ∈ options, option.objection? = none) :
    options.foldlM OptionTable.mergeApplied table = .ok (options.foldl enter table) := by
  rw [foldlM_verdict (P := OptionTable.WellShaped)
    (fun _ option hshape => mergeApplied_eq_verdict hshape option)
    (fun _ _ hshape hoption => wellShaped_enter hshape hoption) h options,
    List.findSome?_eq_none_iff.2 hnone]
  rfl

/-- A run of options that nothing stands against keeps the shape of the table. -/
theorem wellShaped_foldl_enter {table : OptionTable} (h : table.WellShaped)
    {options : List AppliedOption} (hnone : ∀ option ∈ options, option.objection? = none) :
    (options.foldl enter table).WellShaped := by
  have hfind : options.findSome? objection? = none := List.findSome?_eq_none_iff.2 hnone
  refine foldl_invariant (P := OptionTable.WellShaped) ?_ h hfind
  intro before option hbefore hoption
  exact wellShaped_enter hbefore hoption

end AppliedOption

/-! ## The options of one family

In a flattened table the families follow one another, and every option has the name of the family
whose slot it stands for. Picking the options with one name therefore picks one slot. -/

namespace OptionSlot

/-- The options of a slot have the name of its family. -/
theorem name_of_mem_applied {slot : OptionSlot} {family : OptionFamily} {option : AppliedOption}
    (h : option ∈ slot.applied family) : option.name = family.name := by
  cases slot with
  | flag entry =>
      rw [applied] at h
      split at h
      · cases h
      · rw [List.mem_singleton] at h
        subst h
        rfl
  | valued entries =>
      obtain ⟨⟨value, entry⟩, -, rfl⟩ := List.mem_map.1 h
      rfl

end OptionSlot

namespace OptionTable

/-- Among the options of a table, those with the name of a family are those of its slot. -/
theorem filter_named_applied {table : OptionTable} {family : OptionFamily} {slot : OptionSlot}
    (h : table.slot? family = some slot) :
    table.applied.filter (AppliedOption.named family) = slot.applied family := by
  have hslots := table.slots.flatMap_entries_if family (OptionSlot.applied family)
  rw [slot?] at h
  rw [h] at hslots
  rw [applied, List.filter_flatMap]
  refine Eq.trans ?_ hslots
  congr 1
  funext ⟨owner, other⟩
  by_cases he : owner = family
  · subst he
    rw [if_pos rfl, List.filter_eq_self]
    intro option hoption
    rw [AppliedOption.named_eq_decide (OptionSlot.name_of_mem_applied hoption)]
    simp
  · rw [if_neg he, List.filter_eq_nil_iff]
    intro option hoption
    rw [AppliedOption.named_eq_decide (OptionSlot.name_of_mem_applied hoption)]
    simpa using Ne.symm he

end OptionTable

/-! ## The contents of a slot

Merged in from nothing, the options of a slot make its contents. Repetitions are dropped on the way
out and on the way in, of which there are none in a table that merging made. -/

/-- An option on an entry without repetitions has the lists of the entry. -/
theorem AppliedOption.of_isDistinct {entry : OptionEntry} (h : entry.IsDistinct) (name : String)
    (value : OptionValue) :
    AppliedOption.of name value entry.included entry.excluded =
      ⟨name, entry.included, entry.excluded, value⟩ := by
  rw [of, Names.distinct_eq_self h.included, Names.distinct_eq_self h.excluded]

namespace ValueEntries

/-- Entries without repetitions, united from nothing value by value, are the same entries in the
same order. -/
theorem foldl_unite_entries {entries : ValueEntries}
    (h : ∀ value, (entryAt entries value).IsDistinct) :
    entries.entries.foldl unite .empty = entries := by
  apply ext_entryAt
  · rw [keys_foldl_unite, OrderedMap.keys_empty, List.nil_append, ← OrderedMap.keys,
      entries.distinct_keys]
  · intro value
    rw [entryAt_foldl_unite, entries.filter_entries_key, entryAt_empty]
    by_cases hvalue : value ∈ entries.keys
    · rw [get?_eq_some_entryAt hvalue]
      exact (h value).empty_merge
    · rw [entryAt, entries.get?_eq_none hvalue]
      rfl

end ValueEntries

namespace OptionTable

/-- Tables of the fixed shape are equal when their slots have the same contents. -/
theorem WellShaped.ext {table other : OptionTable} (h : table.WellShaped) (h' : other.WellShaped)
    (hflag : ∀ family : OptionFamily, family.carriesValue = false →
      table.flagEntry family = other.flagEntry family)
    (hvalued : ∀ family : OptionFamily, family.carriesValue = true →
      table.values family = other.values family) :
    table = other := by
  have hslots : table.slots = other.slots := by
    apply OrderedMap.ext_views (h.keys.trans h'.keys.symm)
    intro family
    cases hfamily : family.carriesValue with
    | false => exact (h.flag hfamily).trans (hflag family hfamily ▸ (h'.flag hfamily).symm)
    | true => exact (h.valued hfamily).trans (hvalued family hfamily ▸ (h'.valued hfamily).symm)
  cases table
  cases other
  exact congrArg _ hslots

/-- The options of a flag family: one when its entry names somebody. -/
theorem WellShaped.filter_named_flag {table : OptionTable} (h : table.WellShaped)
    {family : OptionFamily} (hfamily : family.carriesValue = false) :
    table.applied.filter (AppliedOption.named family) =
      if (table.flagEntry family).isEmpty then []
      else [⟨family.name, (table.flagEntry family).included, (table.flagEntry family).excluded,
        .flag⟩] := by
  rw [filter_named_applied (h.flag hfamily), OptionSlot.applied,
    AppliedOption.of_isDistinct (h.flagEntry_distinct family)]

/-- The options of a value-bearing family: one for each of its values. -/
theorem WellShaped.filter_named_valued {table : OptionTable} (h : table.WellShaped)
    {family : OptionFamily} (hfamily : family.carriesValue = true) :
    table.applied.filter (AppliedOption.named family) =
      (table.values family).entries.map fun (value, entry) =>
        ⟨family.name, entry.included, entry.excluded, .single value⟩ := by
  rw [filter_named_applied (h.valued hfamily), OptionSlot.applied]
  apply List.map_congr_left
  rintro ⟨value, entry⟩ hmem
  have hentry := h.valueEntry_distinct family value
  rw [ValueEntries.entryAt_of_mem hmem] at hentry
  exact AppliedOption.of_isDistinct hentry _ _

/-- The options of a table have the name of a family and a value of the kind it takes. -/
theorem WellShaped.kind_of_mem_applied {table : OptionTable} (h : table.WellShaped)
    {option : AppliedOption} (hoption : option ∈ table.applied) :
    ∃ family : OptionFamily, option.name = family.name ∧ option.kind = family.kind := by
  obtain ⟨⟨family, slot⟩, hslot, hoption⟩ := List.mem_flatMap.1 hoption
  have hmem : option ∈ slot.applied family := hoption
  have hfound : table.slot? family = some slot := table.slots.get?_of_mem hslot
  refine ⟨family, OptionSlot.name_of_mem_applied hmem, ?_⟩
  rw [← filter_named_applied hfound] at hmem
  cases hfamily : family.carriesValue with
  | false =>
      rw [h.filter_named_flag hfamily] at hmem
      split at hmem
      · cases hmem
      · rw [List.mem_singleton] at hmem
        simp [hmem, AppliedOption.kind, OptionValue.kind, OptionFamily.kind, hfamily]
  | true =>
      rw [h.filter_named_valued hfamily] at hmem
      obtain ⟨⟨value, entry⟩, -, rfl⟩ := List.mem_map.1 hmem
      simp [AppliedOption.kind, OptionValue.kind, OptionFamily.kind, hfamily]

/-- Nothing stands against the options of a table. -/
theorem WellShaped.objection?_of_mem_applied {table : OptionTable} (h : table.WellShaped)
    {option : AppliedOption} (hoption : option ∈ table.applied) : option.objection? = none := by
  obtain ⟨family, hname, hkind⟩ := h.kind_of_mem_applied hoption
  rw [AppliedOption.objection?, hname, OptionFamily.ofName_name, hkind]
  exact if_pos rfl

/-- The options of a table of the fixed shape, merged into an empty table, make the table. -/
theorem WellShaped.foldl_enter_applied {table : OptionTable} (h : table.WellShaped) :
    table.applied.foldl AppliedOption.enter .empty = table := by
  have hnone : ∀ option ∈ table.applied, option.objection? = none := by
    intro option hoption
    exact h.objection?_of_mem_applied hoption
  apply WellShaped.ext (AppliedOption.wellShaped_foldl_enter wellShaped_empty hnone) h
  · intro family hfamily
    have hentry := h.flagEntry_distinct family
    rw [AppliedOption.flagEntry_foldl_enter _ hnone hfamily, h.filter_named_flag hfamily,
      flagEntry_empty]
    split
    · -- an entry that names nobody leaves no option, and is there without one
      next hnobody =>
        rw [OptionEntry.isEmpty, Bool.and_eq_true, List.isEmpty_iff, List.isEmpty_iff] at hnobody
        rw [← hentry.of_eq, hnobody.1, hnobody.2]
        rfl
    · change OptionEntry.empty.merge (.of _ _) = _
      rw [hentry.of_eq, hentry.empty_merge]
  · intro family hfamily
    have hcontributions : (table.applied.filter (AppliedOption.named family)).filterMap
        AppliedOption.contribution? = (table.values family).entries := by
      rw [h.filter_named_valued hfamily, List.filterMap_map]
      refine Eq.trans (List.filterMap_congr ?_) List.filterMap_some
      rintro ⟨value, entry⟩ hmem
      have hentry := h.valueEntry_distinct family value
      rw [ValueEntries.entryAt_of_mem hmem] at hentry
      change some (value, OptionEntry.of entry.included entry.excluded) = _
      rw [hentry.of_eq]
    rw [AppliedOption.values_foldl_enter _ hnone hfamily, hcontributions, values_empty]
    exact ValueEntries.foldl_unite_entries (h.valueEntry_distinct family)

/-! ## There and back -/

/-- A table that merging made can be flattened and put together again without loss. Its flattened
form has no option with a list of entries; of each flag family it has one option when the entry of
the family names somebody, and of each value-bearing family one for each value, in order, whether
the entry of the value names somebody or not. -/
theorem ofApplied_applied {table : OptionTable} (h : table.Reachable) :
    ofApplied table.applied = .ok table ∧
    (∀ option ∈ table.applied, option.kind ≠ .entries ∧
      ∃ family : OptionFamily, option.name = family.name ∧ option.kind = family.kind) ∧
    (∀ family : OptionFamily, family.carriesValue = false → ∃ entry : OptionEntry,
      table.slot? family = some (.flag entry) ∧
      table.applied.filter (AppliedOption.named family) =
        if entry.isEmpty then []
        else [⟨family.name, entry.included, entry.excluded, .flag⟩]) ∧
    (∀ family : OptionFamily, family.carriesValue = true → ∃ entries : ValueEntries,
      table.slot? family = some (.valued entries) ∧
      table.applied.filter (AppliedOption.named family) =
        entries.entries.map fun (value, entry) =>
          ⟨family.name, entry.included, entry.excluded, .single value⟩) := by
  have hshape := h.wellShaped
  refine ⟨?_, ?_, ?_, ?_⟩
  · have hnone : ∀ option ∈ table.applied, option.objection? = none := by
      intro option hoption
      exact hshape.objection?_of_mem_applied hoption
    rw [ofApplied, AppliedOption.foldlM_mergeApplied wellShaped_empty hnone,
      hshape.foldl_enter_applied]
  · intro option hoption
    obtain ⟨family, hname, hkind⟩ := hshape.kind_of_mem_applied hoption
    refine ⟨?_, family, hname, hkind⟩
    rw [hkind, OptionFamily.kind]
    split <;> simp
  · intro family hfamily
    exact ⟨_, hshape.flag hfamily, hshape.filter_named_flag hfamily⟩
  · intro family hfamily
    exact ⟨_, hshape.valued hfamily, hshape.filter_named_valued hfamily⟩

/-- A table with a flag, a value for an entity and a value for nobody. -/
def sparseTable : OptionTable :=
  ((OptionTable.empty.uniteFlag .filter (.of ["A"] ["B"])).uniteValue .pagination
    ("pager", .of ["C"] [])).uniteValue .pagination ("scroll", .of [] [])

/-- The value for nobody has its option, the flags that were never declared have none. -/
theorem ofApplied_applied_sparse :
    sparseTable.Reachable ∧ ofApplied sparseTable.applied = .ok sparseTable ∧
    sparseTable.applied.filter (AppliedOption.named .pagination) =
      [⟨"pagination", ["C"], [], .single "pager"⟩, ⟨"pagination", [], [], .single "scroll"⟩] ∧
    sparseTable.applied.filter (AppliedOption.named .skipClient) = [] := by
  have hfilter := mergeFlag_eq_verdict wellShaped_empty .filter (.of ["A"] ["B"])
  have hflagged := Reachable.mergeFlag .empty hfilter
  have hpager := mergeValue_eq_verdict hflagged.wellShaped .pagination "pager" (.of ["C"] [])
  have hpaged := Reachable.mergeValue hflagged hpager
  have hscroll := mergeValue_eq_verdict hpaged.wellShaped .pagination "scroll" (.of [] [])
  have hsparse : sparseTable.Reachable := .mergeValue hpaged hscroll
  obtain ⟨hback, -, hflag, hvalued⟩ := ofApplied_applied hsparse
  obtain ⟨entries, hentries, hoptions⟩ := hvalued .pagination rfl
  cases hentries
  obtain ⟨entry, hentry, hnobody⟩ := hflag .skipClient rfl
  cases hentry
  exact ⟨hsparse, hback, hoptions, hnobody⟩

end OptionTable

end DomainModel
