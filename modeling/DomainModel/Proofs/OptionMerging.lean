import DomainModel.Declared.Options
import DomainModel.Proofs.OptionTable

/-!
# Merging option declarations, slot by slot

Declarations of many families and values come in any order, and each one rewrites a slot of the
table. This module takes the run apart. Whether a declaration is refused depends on nothing but the
declaration (`FlagOption.objection?`, `ValueOption.objection?`), and what a run does to a slot
depends on nothing but the declarations for this slot, in their order
(`flagEntry_foldl_enter`, `values_foldl_enter`). So the merged table can be written down without a
run: `mergeOptions_slot_by_slot`.

## What this module delivers

- `objection?` and `enter` for both forms of declaration: why a declaration is refused, and the
  table after one that is not.
- `outcome_mergeOptions`: merging is the first objection, or else all declarations entered.
- `declares`, `value?`, `selected`, `declaresValue`: what a declaration is about.
- `flagEntry_enterOptions`, `keys_enterOptions`, `entryAt_enterOptions`: the entered table.
- `mergeOptions_slot_by_slot`: the merged table, slot by slot.
-/

set_option autoImplicit false

namespace DomainModel

namespace Declared

/-- An objection of a family becomes a violation at the name of the declaration. -/
theorem atOption_verdict {α : Type} (option : Token) (objection? : Option OptionError)
    (value : α) :
    atOption option (verdict objection? value) =
      verdict (objection?.map (.refusedOption option)) value := by
  cases objection? <;> rfl

/-! ## Flag declarations -/

namespace FlagOption

/-- What stands against a flag declaration: its name is no family, or the family takes no flags. -/
def objection? (declared : FlagOption) : Option Violation :=
  match declared.family with
  | .error violation => some violation
  | .ok family => (family.objectionTo .flag).map (.refusedOption declared.option)

/-- The table after a flag declaration. -/
def enter (table : OptionTable) (declared : FlagOption) : OptionTable :=
  match declared.family with
  | .ok family => table.uniteFlag family declared.entry
  | .error _ => table

/-- Whether a flag declaration names a family. -/
def declares (family : OptionFamily) (declared : FlagOption) : Bool :=
  decide (OptionFamily.ofName declared.option.image = .ok family)

/-- A declaration names a family exactly when this family is looked up for it. -/
theorem declares_iff (family : OptionFamily) (declared : FlagOption) :
    declared.declares family = true ↔ declared.family = .ok family := by
  rw [declares, decide_eq_true_iff, FlagOption.family, atOption]
  cases OptionFamily.ofName declared.option.image <;> simp [Except.mapError]

/-- Merging one flag declaration: it is refused for what stands against it, or else entered. -/
theorem outcome_merge {table : OptionTable} (h : table.WellShaped) (declared : FlagOption) :
    (merge table declared).outcome = verdict declared.objection? (enter table declared) := by
  rw [merge, objection?, enter]
  simp only [Traced.outcome_bind, Traced.outcome_ofExcept, Traced.outcome_emit]
  cases declared.family with
  | error violation => rfl
  | ok family =>
      change atOption declared.option (table.mergeFlag family declared.entry) = _
      rw [OptionTable.mergeFlag_eq_verdict h, atOption_verdict]

/-- A flag declaration that nothing stands against keeps the shape of the table. -/
theorem wellShaped_enter {table : OptionTable} (h : table.WellShaped) {declared : FlagOption}
    (hnone : declared.objection? = none) : (enter table declared).WellShaped := by
  rw [objection?] at hnone
  rw [enter]
  cases hfamily : declared.family with
  | error violation => exact h
  | ok family =>
      rw [hfamily] at hnone
      have hflag := family.objectionTo_flag_eq_none.1 (Option.map_eq_none_iff.1 hnone)
      exact h.uniteFlag hflag declared.entry

/-- A flag declaration changes the entry of the family it names and of no other. -/
theorem flagEntry_enter (table : OptionTable) (declared : FlagOption) (family : OptionFamily) :
    (enter table declared).flagEntry family =
      if declared.declares family then (table.flagEntry family).merge declared.entry
      else table.flagEntry family := by
  rw [enter]
  cases hnamed : declared.family with
  | error violation =>
      have hno : ¬ declared.declares family = true := by
        rw [declares_iff, hnamed]
        simp
      rw [if_neg hno]
  | ok named =>
      by_cases he : family = named
      · subst he
        rw [if_pos ((declares_iff family declared).2 hnamed)]
        exact OptionTable.flagEntry_put_self table family _
      · have hno : ¬ declared.declares family = true := by
          rw [declares_iff, hnamed]
          simp [Ne.symm he]
        rw [if_neg hno]
        exact OptionTable.flagEntry_put_of_ne table he _

/-- A flag declaration that nothing stands against leaves the value-bearing families alone. -/
theorem values_enter (table : OptionTable) {declared : FlagOption}
    (hnone : declared.objection? = none) {family : OptionFamily}
    (hfamily : family.carriesValue = true) :
    (enter table declared).values family = table.values family := by
  rw [objection?] at hnone
  rw [enter]
  cases hnamed : declared.family with
  | error violation => rfl
  | ok named =>
      rw [hnamed] at hnone
      have hflag := named.objectionTo_flag_eq_none.1 (Option.map_eq_none_iff.1 hnone)
      have he : family ≠ named := (OptionFamily.ne_of_carriesValue hflag hfamily).symm
      exact OptionTable.values_put_of_ne table he _

/-- After a run of flag declarations, the entry of a family has the entries of those that name it
merged in, in order. -/
theorem flagEntry_foldl_enter (table : OptionTable) (flags : List FlagOption)
    (family : OptionFamily) :
    (flags.foldl enter table).flagEntry family =
      ((flags.filter (declares family)).map entry).foldl OptionEntry.merge
        (table.flagEntry family) := by
  induction flags generalizing table with
  | nil => rfl
  | cons declared rest ih =>
      rw [List.foldl_cons, ih, flagEntry_enter, List.filter_cons]
      by_cases h : declared.declares family = true
      · simp [h]
      · simp [h]

/-- A run of flag declarations leaves the value-bearing families alone. -/
theorem values_foldl_enter (table : OptionTable) {flags : List FlagOption}
    (hnone : flags.findSome? objection? = none) {family : OptionFamily}
    (hfamily : family.carriesValue = true) :
    (flags.foldl enter table).values family = table.values family :=
  foldl_invariant (P := fun after : OptionTable => after.values family = table.values family)
    (fun after declared hafter hdeclared => by
      rw [values_enter after hdeclared hfamily, hafter])
    rfl hnone

/-- A run of flag declarations keeps the shape of the table. -/
theorem wellShaped_foldl_enter {table : OptionTable} (h : table.WellShaped)
    {declarations : List FlagOption} (hnone : declarations.findSome? objection? = none) :
    (declarations.foldl enter table).WellShaped := by
  refine foldl_invariant (P := OptionTable.WellShaped) ?_ h hnone
  intro before declared hbefore hdeclared
  exact wellShaped_enter hbefore hdeclared

/-- Merging a list of flag declarations: the first objection, or else all of them entered. -/
theorem outcome_foldlM_merge {table : OptionTable} (h : table.WellShaped)
    (declarations : List FlagOption) :
    (declarations.foldlM merge table).outcome =
      verdict (declarations.findSome? objection?) (declarations.foldl enter table) := by
  rw [Traced.outcome_foldlM]
  exact foldlM_verdict (P := OptionTable.WellShaped)
    (fun _ declared hshape => outcome_merge hshape declared)
    (fun _ _ hshape hnone => wellShaped_enter hshape hnone) h declarations

end FlagOption

/-! ## Value-bearing declarations -/

namespace ValueOption

/-- What stands against a value-bearing declaration: its name is no family, its selector is empty,
or the family takes no values. -/
def objection? (declared : ValueOption) : Option Violation :=
  match declared.family, declared.selector.resolve? with
  | .error violation, _ => some violation
  | .ok _, none => some (.missingValue declared.option)
  | .ok family, some _ => (family.objectionTo .single).map (.refusedOption declared.option)

/-- The value and the entry that a declaration contributes to its family. -/
def contribution? (declared : ValueOption) : Option (String × OptionEntry) :=
  declared.selector.resolve?.map fun (names, value) => (value, declared.entry names)

/-- The table after a value-bearing declaration. -/
def enter (table : OptionTable) (declared : ValueOption) : OptionTable :=
  match declared.family, declared.contribution? with
  | .ok family, some contribution => table.uniteValue family contribution
  | _, _ => table

/-- Whether a value-bearing declaration names a family, `paginate` being a name of
`pagination`. -/
def declares (family : OptionFamily) (declared : ValueOption) : Bool :=
  decide (OptionFamily.ofValuedName declared.option.image = .ok family)

/-- The value that a declaration gives, if its selector is not empty. -/
def value? (declared : ValueOption) : Option String := declared.selector.resolve?.map Prod.snd

/-- The names that a declaration selects, value split off. -/
def selected (declared : ValueOption) : List String :=
  (declared.selector.resolve?.map Prod.fst).getD []

/-- Whether a declaration names a family and gives it a value. -/
def declaresValue (family : OptionFamily) (value : String) (declared : ValueOption) : Bool :=
  declared.declares family && declared.value? == some value

/-- A declaration names a family exactly when this family is looked up for it. -/
theorem declares_iff (family : OptionFamily) (declared : ValueOption) :
    declared.declares family = true ↔ declared.family = .ok family := by
  rw [declares, decide_eq_true_iff, ValueOption.family, atOption]
  cases OptionFamily.ofValuedName declared.option.image <;> simp [Except.mapError]

/-- Merging one value-bearing declaration: it is refused for what stands against it, or else
entered. -/
theorem outcome_merge {table : OptionTable} (h : table.WellShaped) (declared : ValueOption) :
    (merge table declared).outcome = verdict declared.objection? (enter table declared) := by
  rw [merge, objection?, enter, contribution?, selection]
  simp only [Traced.outcome_bind, Traced.outcome_ofExcept, Traced.outcome_emit]
  cases declared.family with
  | error violation => rfl
  | ok family =>
      cases declared.selector.resolve? with
      | none => rfl
      | some selection =>
          obtain ⟨names, value⟩ := selection
          change atOption declared.option (table.mergeValue family value (declared.entry names)) = _
          rw [OptionTable.mergeValue_eq_verdict h, atOption_verdict]
          rfl

/-- A declaration that nothing stands against names a value-bearing family and has a
contribution. -/
theorem of_objection?_eq_none {declared : ValueOption} (hnone : declared.objection? = none) :
    ∃ family contribution, declared.family = .ok family ∧ family.carriesValue = true ∧
      declared.contribution? = some contribution := by
  rw [objection?] at hnone
  cases hfamily : declared.family with
  | error violation => simp [hfamily] at hnone
  | ok family =>
      cases hselection : declared.selector.resolve? with
      | none => simp [hfamily, hselection] at hnone
      | some selection =>
          rw [hfamily, hselection] at hnone
          have hvalued := family.objectionTo_single_eq_none.1 (Option.map_eq_none_iff.1 hnone)
          exact ⟨family, _, rfl, hvalued, by rw [contribution?, hselection]; rfl⟩

/-- A value-bearing declaration that nothing stands against keeps the shape of the table. -/
theorem wellShaped_enter {table : OptionTable} (h : table.WellShaped) {declared : ValueOption}
    (hnone : declared.objection? = none) : (enter table declared).WellShaped := by
  obtain ⟨family, contribution, hfamily, hvalued, hcontribution⟩ := of_objection?_eq_none hnone
  rw [enter, hfamily, hcontribution]
  exact h.uniteValue hvalued contribution

/-- A value-bearing declaration contributes to the family it names and to no other. -/
theorem values_enter (table : OptionTable) (declared : ValueOption) (family : OptionFamily) :
    (enter table declared).values family =
      if declared.declares family then
        declared.contribution?.toList.foldl ValueEntries.unite (table.values family)
      else table.values family := by
  rw [enter]
  cases hnamed : declared.family with
  | error violation =>
      have hno : ¬ declared.declares family = true := by
        rw [declares_iff, hnamed]
        simp
      rw [if_neg hno]
  | ok named =>
      cases declared.contribution? with
      | none => simp
      | some contribution =>
          by_cases he : family = named
          · subst he
            rw [if_pos ((declares_iff family declared).2 hnamed)]
            exact OptionTable.values_put_self table family _
          · have hno : ¬ declared.declares family = true := by
              rw [declares_iff, hnamed]
              simp [Ne.symm he]
            rw [if_neg hno]
            exact OptionTable.values_put_of_ne table he _

/-- A value-bearing declaration that nothing stands against leaves the flag families alone. -/
theorem flagEntry_enter (table : OptionTable) {declared : ValueOption}
    (hnone : declared.objection? = none) {family : OptionFamily}
    (hfamily : family.carriesValue = false) :
    (enter table declared).flagEntry family = table.flagEntry family := by
  obtain ⟨named, contribution, hnamed, hvalued, hcontribution⟩ := of_objection?_eq_none hnone
  have he : family ≠ named := OptionFamily.ne_of_carriesValue hfamily hvalued
  rw [enter, hnamed, hcontribution]
  exact OptionTable.flagEntry_put_of_ne table he _

/-- After a run of value-bearing declarations, the values of a family have the contributions of
those that name it united with them, in order. -/
theorem values_foldl_enter (table : OptionTable) (valued : List ValueOption)
    (family : OptionFamily) :
    (valued.foldl enter table).values family =
      ((valued.filter (declares family)).filterMap contribution?).foldl ValueEntries.unite
        (table.values family) := by
  induction valued generalizing table with
  | nil => rfl
  | cons declared rest ih =>
      rw [List.foldl_cons, ih, values_enter, List.filter_cons]
      by_cases h : declared.declares family = true
      · rw [if_pos h, if_pos h, List.filterMap_cons]
        cases declared.contribution? <;> rfl
      · rw [if_neg h, if_neg h]

/-- A run of value-bearing declarations leaves the flag families alone. -/
theorem flagEntry_foldl_enter (table : OptionTable) {valued : List ValueOption}
    (hnone : valued.findSome? objection? = none) {family : OptionFamily}
    (hfamily : family.carriesValue = false) :
    (valued.foldl enter table).flagEntry family = table.flagEntry family :=
  foldl_invariant (P := fun after : OptionTable => after.flagEntry family = table.flagEntry family)
    (fun after declared hafter hdeclared => by
      rw [flagEntry_enter after hdeclared hfamily, hafter])
    rfl hnone

/-- A run of value-bearing declarations keeps the shape of the table. -/
theorem wellShaped_foldl_enter {table : OptionTable} (h : table.WellShaped)
    {declarations : List ValueOption} (hnone : declarations.findSome? objection? = none) :
    (declarations.foldl enter table).WellShaped := by
  refine foldl_invariant (P := OptionTable.WellShaped) ?_ h hnone
  intro before declared hbefore hdeclared
  exact wellShaped_enter hbefore hdeclared

/-- Merging a list of value-bearing declarations: the first objection, or else all of them
entered. -/
theorem outcome_foldlM_merge {table : OptionTable} (h : table.WellShaped)
    (declarations : List ValueOption) :
    (declarations.foldlM merge table).outcome =
      verdict (declarations.findSome? objection?) (declarations.foldl enter table) := by
  rw [Traced.outcome_foldlM]
  exact foldlM_verdict (P := OptionTable.WellShaped)
    (fun _ declared hshape => outcome_merge hshape declared)
    (fun _ _ hshape hnone => wellShaped_enter hshape hnone) h declarations

end ValueOption

/-! ## All declarations

Flags are merged before values, whatever the order in the source. As both kinds of slot belong to
different families, the two runs do not meet. -/

/-- The table after all declarations, flags first. -/
def enterOptions (table : OptionTable) (flags : List FlagOption) (valued : List ValueOption) :
    OptionTable :=
  valued.foldl ValueOption.enter (flags.foldl FlagOption.enter table)

/-- The first thing that stands against a list of flags or else against a list of values. -/
def optionObjection? (flags : List FlagOption) (valued : List ValueOption) : Option Violation :=
  (flags.findSome? FlagOption.objection?).or (valued.findSome? ValueOption.objection?)

theorem optionObjection?_eq_none {flags : List FlagOption} {valued : List ValueOption} :
    optionObjection? flags valued = none ↔
      flags.findSome? FlagOption.objection? = none ∧
        valued.findSome? ValueOption.objection? = none := by
  rw [optionObjection?, Option.or_eq_none_iff]

/-- Merging declarations: the first objection, or else all of them entered. -/
theorem outcome_mergeOptions {table : OptionTable} (h : table.WellShaped)
    (flags : List FlagOption) (valued : List ValueOption) :
    (mergeOptions table flags valued).outcome =
      verdict (optionObjection? flags valued) (enterOptions table flags valued) := by
  rw [mergeOptions, Traced.outcome_bind, FlagOption.outcome_foldlM_merge h, optionObjection?]
  apply bind_verdict
  intro hnone
  -- the values are merged into the table that the flags leave, which has the fixed shape
  exact ValueOption.outcome_foldlM_merge (FlagOption.wellShaped_foldl_enter h hnone) valued

/-- Declarations that nothing stands against keep the shape of the table. -/
theorem wellShaped_enterOptions {table : OptionTable} (h : table.WellShaped)
    {flags : List FlagOption} {valued : List ValueOption}
    (hnone : optionObjection? flags valued = none) :
    (enterOptions table flags valued).WellShaped := by
  obtain ⟨hflags, hvalued⟩ := optionObjection?_eq_none.1 hnone
  exact ValueOption.wellShaped_foldl_enter (FlagOption.wellShaped_foldl_enter h hflags) hvalued

section EnteredTable

variable {table : OptionTable} {flags : List FlagOption} {valued : List ValueOption}
  {family : OptionFamily}

/-- The entry of a flag family: its names before, then the names of every flag declaration that
names the family, repetitions dropped. -/
theorem flagEntry_enterOptions (h : table.WellShaped)
    (hnone : optionObjection? flags valued = none) (hfamily : family.carriesValue = false) :
    (enterOptions table flags valued).flagEntry family =
      .of ((table.flagEntry family).included ++
          (flags.filter (FlagOption.declares family)).flatMap fun declared =>
            declared.filter.resolve)
        ((table.flagEntry family).excluded ++
          (flags.filter (FlagOption.declares family)).flatMap fun declared =>
            excludedNames declared.exclusion) := by
  obtain ⟨-, hvalued⟩ := optionObjection?_eq_none.1 hnone
  -- the values leave the entry alone, and the flags make one concatenation of it
  rw [enterOptions, ValueOption.flagEntry_foldl_enter _ hvalued hfamily,
    FlagOption.flagEntry_foldl_enter,
    OptionEntry.foldl_merge (h.flagEntry_distinct family)]
  simp only [OptionEntry.of, FlagOption.entry, List.flatMap_map,
    Names.distinct_append_flatMap_distinct]

/-- The entries of a value-bearing family after all declarations. -/
theorem values_enterOptions (hnone : optionObjection? flags valued = none)
    (hfamily : family.carriesValue = true) :
    (enterOptions table flags valued).values family =
      ((valued.filter (ValueOption.declares family)).filterMap
        ValueOption.contribution?).foldl ValueEntries.unite (table.values family) := by
  obtain ⟨hflags, -⟩ := optionObjection?_eq_none.1 hnone
  rw [enterOptions, ValueOption.values_foldl_enter,
    FlagOption.values_foldl_enter table hflags hfamily]

/-- The values of a value-bearing family: those before, then the value of every declaration that
names the family, repetitions dropped. -/
theorem keys_enterOptions (hnone : optionObjection? flags valued = none)
    (hfamily : family.carriesValue = true) :
    ((enterOptions table flags valued).values family).keys =
      Names.distinct ((table.values family).keys ++
        (valued.filter (ValueOption.declares family)).filterMap ValueOption.value?) := by
  rw [values_enterOptions hnone hfamily, ValueEntries.keys_foldl_unite, List.map_filterMap]
  congr 3
  funext declared
  rw [ValueOption.contribution?, ValueOption.value?, Option.map_map]
  rfl

/-- The contributions of some declarations to one value are the names that those with this value
select and leave out. -/
theorem contributions_at (declarations : List ValueOption) (value : String) :
    ((declarations.filterMap ValueOption.contribution?).filter fun contribution =>
        contribution.1 == value).map Prod.snd =
      (declarations.filter fun declared => declared.value? == some value).map fun declared =>
        declared.entry declared.selected := by
  induction declarations with
  | nil => rfl
  | cons declared rest ih =>
      -- names and value come from one reading of the selector
      rw [List.filterMap_cons, List.filter_cons, ValueOption.contribution?, ValueOption.value?]
      cases hselection : declared.selector.resolve? with
      | none => simpa using ih
      | some selection =>
          obtain ⟨names, other⟩ := selection
          have hselected : declared.selected = names := by
            rw [ValueOption.selected, hselection]
            rfl
          by_cases hother : other = value
          · simp [hother, hselected, ih]
          · simp [hother, ih]

/-- The entry of a value: its names before, then those of every declaration that names the family
and gives it this value, repetitions dropped. -/
theorem entryAt_enterOptions (h : table.WellShaped)
    (hnone : optionObjection? flags valued = none) (hfamily : family.carriesValue = true)
    (value : String) :
    ValueEntries.entryAt ((enterOptions table flags valued).values family) value =
      .of ((ValueEntries.entryAt (table.values family) value).included ++
          (valued.filter (ValueOption.declaresValue family value)).flatMap ValueOption.selected)
        ((ValueEntries.entryAt (table.values family) value).excluded ++
          (valued.filter (ValueOption.declaresValue family value)).flatMap fun declared =>
            excludedNames declared.exclusion) := by
  rw [values_enterOptions hnone hfamily, ValueEntries.entryAt_foldl_unite, contributions_at,
    OptionEntry.foldl_merge (h.valueEntry_distinct family value), List.filter_filter]
  have hfilter : (fun declared : ValueOption =>
      (declared.value? == some value && declared.declares family)) =
        ValueOption.declaresValue family value := by
    funext declared
    exact Bool.and_comm _ _
  simp only [hfilter, OptionEntry.of, ValueOption.entry, List.flatMap_map,
    Names.distinct_append_flatMap_distinct]

end EnteredTable

/-! ## The merged table -/

/-- A merge that succeeds leaves the families in place and makes every slot of the declarations
for this slot alone: a flag entry of those that name the flag, the values of a family of those that
name the family, and the entry of a value of those that name the family and give the value. -/
theorem mergeOptions_slot_by_slot {table merged : OptionTable} (reachable : table.Reachable)
    {flags : List FlagOption} {valued : List ValueOption}
    (h : (mergeOptions table flags valued).outcome = .ok merged) :
    merged.slots.keys = table.slots.keys ∧
    (∀ family : OptionFamily, family.carriesValue = false → ∃ before after : OptionEntry,
      table.slot? family = some (.flag before) ∧ merged.slot? family = some (.flag after) ∧
      after.included = Names.distinct (before.included ++
        (flags.filter (FlagOption.declares family)).flatMap fun declared =>
          declared.filter.resolve) ∧
      after.excluded = Names.distinct (before.excluded ++
        (flags.filter (FlagOption.declares family)).flatMap fun declared =>
          excludedNames declared.exclusion)) ∧
    (∀ family : OptionFamily, family.carriesValue = true → ∃ before after : ValueEntries,
      table.slot? family = some (.valued before) ∧ merged.slot? family = some (.valued after) ∧
      after.keys = Names.distinct (before.keys ++
        (valued.filter (ValueOption.declares family)).filterMap ValueOption.value?) ∧
      ∀ value ∈ after.keys, ∃ entry : OptionEntry, after.get? value = some entry ∧
        entry.included = Names.distinct (((before.get? value).getD .empty).included ++
          (valued.filter (ValueOption.declaresValue family value)).flatMap
            ValueOption.selected) ∧
        entry.excluded = Names.distinct (((before.get? value).getD .empty).excluded ++
          (valued.filter (ValueOption.declaresValue family value)).flatMap fun declared =>
            excludedNames declared.exclusion)) := by
  have hshape := reachable.wellShaped
  rw [outcome_mergeOptions hshape, verdict_eq_ok_iff] at h
  obtain ⟨hnone, rfl⟩ := h
  -- the merged table has the shape too, so its slots are found and only their contents are left
  have hmerged := wellShaped_enterOptions hshape hnone
  refine ⟨?_, ?_, ?_⟩
  · rw [hmerged.keys, hshape.keys]
  · intro family hfamily
    have hentry := flagEntry_enterOptions hshape hnone hfamily
    exact ⟨_, _, hshape.flag hfamily, hmerged.flag hfamily, by rw [hentry]; rfl,
      by rw [hentry]; rfl⟩
  · intro family hfamily
    refine ⟨_, _, hshape.valued hfamily, hmerged.valued hfamily,
      keys_enterOptions hnone hfamily, ?_⟩
    intro value hvalue
    have hentry := entryAt_enterOptions hshape hnone hfamily value
    exact ⟨_, ValueEntries.get?_eq_some_entryAt hvalue, by rw [hentry]; rfl, by rw [hentry]; rfl⟩

/-- Two declarations of `skipClient` with a declaration of `filter` between them. -/
def interleavedFlags : List FlagOption :=
  [⟨.ofImage "skipClient", ⟨[.ofImage "A", .ofImage "B"], none⟩, some [.ofImage "C"]⟩,
    ⟨.ofImage "filter", ⟨[.ofImage "all"], none⟩, none⟩,
    ⟨.ofImage "skipClient", ⟨[.ofImage "B", .ofImage "D"], none⟩, none⟩]

/-- Three declarations of `pagination`, two of them spelled `paginate` and with the same value. -/
def interleavedValues : List ValueOption :=
  [⟨.ofImage "paginate", ⟨[.ofImage "A"], none, some (.ofImage "pager"), none⟩, none⟩,
    ⟨.ofImage "pagination", ⟨[], some (.ofImage "*"), some (.ofImage "scroll"), none⟩, none⟩,
    ⟨.ofImage "paginate", ⟨[.ofImage "B", .ofImage "A"], none, some (.ofImage "pager"), none⟩,
      some [.ofImage "C"]⟩]

/-- Merged into a table that has a name for `skipClient` already, the interleaved declarations come
apart again. -/
theorem mergeOptions_slot_by_slot_interleaved :
    ∃ table merged : OptionTable, table.Reachable ∧
      (mergeOptions table interleavedFlags interleavedValues).outcome = .ok merged ∧
      (∃ after, merged.slot? .skipClient = some (.flag after) ∧
        after.included = ["Z", "A", "B", "D"] ∧ after.excluded = ["C"]) ∧
      ∃ after, merged.slot? .pagination = some (.valued after) ∧
        after.keys = ["pager", "scroll"] ∧
        ∃ entry, after.get? "pager" = some entry ∧ entry.included = ["A", "B"] ∧
          entry.excluded = ["C"] := by
  have hreachable : (OptionTable.empty.uniteFlag .skipClient (.of ["Z"] [])).Reachable :=
    .mergeFlag .empty (OptionTable.mergeFlag_eq_verdict OptionTable.wellShaped_empty .skipClient
      (.of ["Z"] []))
  have hmerged : (mergeOptions _ interleavedFlags interleavedValues).outcome = .ok _ :=
    outcome_mergeOptions hreachable.wellShaped interleavedFlags interleavedValues
  obtain ⟨-, hflag, hvalued⟩ := mergeOptions_slot_by_slot hreachable hmerged
  obtain ⟨before, after, hbefore, hafter, hincluded, hexcluded⟩ := hflag .skipClient rfl
  cases hbefore
  obtain ⟨before', after', hbefore', hafter', hkeys, hentries⟩ := hvalued .pagination rfl
  cases hbefore'
  have hvalues : after'.keys = ["pager", "scroll"] := hkeys
  obtain ⟨entry, hentry, hincluded', hexcluded'⟩ := hentries "pager" (by rw [hvalues]; simp)
  exact ⟨_, _, hreachable, hmerged, ⟨after, hafter, hincluded, hexcluded⟩, after', hafter', hvalues,
    entry, hentry, hincluded', hexcluded'⟩

end Declared

end DomainModel
