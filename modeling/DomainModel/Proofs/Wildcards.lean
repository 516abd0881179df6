import DomainModel.Proofs.BuildOutcome

/-!
# Wildcards in option entries and applications

A selector that means every entity is resolved to the wildcard and nothing else, whatever names it
has beside the star. Entries are united without a look at what they hold, so this is a property of
one selector and not of a slot: a slot that is declared by name and by wildcard has the names and
the wildcard side by side (`included_wildcard_not_alone`). Which lists hold the wildcard, and which
hold it alone, can be told from the selectors of the declarations (`Unites`). The entities of an
application come from one selector, so there the wildcard is always alone.

## What this module delivers

- `Filter.selectsEvery`, with `selectsEvery_iff`, `wildcard_mem_resolve_iff` and
  `mem_resolve_iff_of_ne`.
- `Filter.meant`, `ValueSelector.filter`, `ValueSelector.withTokens`, `combined_eq`: the two parts of
  the list that a value is split off.
- `resolve?_of_withTokens`, `selected_eq_resolve`: the names and the value of a value-bearing
  declaration with one token after `with`.
- `Unites`: the included list of a slot, told from the filters of its declarations, with
  `unites_distinct_flatMap`.
- `outcome_build_wildcards`: the wildcard in every included list of a document.
-/

set_option autoImplicit false

namespace DomainModel.Declared

/-! ## One selector -/

namespace Filter

/-- Whether a filter means every entity. -/
def selectsEvery (filter : Filter) : Bool := selectsAll (Token.images filter.names) filter.star

/-- A filter means every entity by its star, or by the keyword as its only name. -/
theorem selectsEvery_iff (filter : Filter) : filter.selectsEvery = true ↔
    filter.star.isSome = true ∨ Token.images filter.names = [Names.everyKeyword] := by
  rw [selectsEvery, selectsAll, Bool.or_eq_true, beq_iff_eq]

theorem resolve_of_selectsEvery {filter : Filter} (h : filter.selectsEvery = true) :
    filter.resolve = [Names.wildcard] := by
  rw [selectsEvery] at h
  rw [resolve, if_pos h]

theorem resolve_of_not_selectsEvery {filter : Filter} (h : filter.selectsEvery = false) :
    filter.resolve = Names.distinct (Token.images filter.names) := by
  rw [selectsEvery] at h
  rw [resolve, if_neg (by simp [h])]

/-- The names that a filter means, repetitions kept: the wildcard, or the names as written. -/
def meant (filter : Filter) : List String :=
  if filter.selectsEvery then [Names.wildcard] else Token.images filter.names

/-- Resolving a filter drops repetitions from what it means. -/
theorem resolve_eq_distinct_meant (filter : Filter) :
    filter.resolve = Names.distinct filter.meant := by
  rw [meant]
  cases hevery : filter.selectsEvery with
  | true => exact (resolve_of_selectsEvery hevery).trans (Names.distinct_singleton _).symm
  | false => exact resolve_of_not_selectsEvery hevery

/-- Unless it is written as a name, the wildcard is selected by the filters that mean every
entity. -/
theorem wildcard_mem_resolve_iff {filter : Filter}
    (h : Names.wildcard ∉ Token.images filter.names) :
    Names.wildcard ∈ filter.resolve ↔ filter.selectsEvery = true := by
  cases hevery : filter.selectsEvery with
  | true => simp [resolve_of_selectsEvery hevery]
  | false => simp [resolve_of_not_selectsEvery hevery, h]

/-- Every other name is selected by the filters that hold it and do not mean every entity. -/
theorem mem_resolve_iff_of_ne {filter : Filter} {name : String} (h : name ≠ Names.wildcard) :
    name ∈ filter.resolve ↔
      filter.selectsEvery = false ∧ name ∈ Token.images filter.names := by
  cases hevery : filter.selectsEvery with
  | true => simp [resolve_of_selectsEvery hevery, h]
  | false => simp [resolve_of_not_selectsEvery hevery]

/-- A resolved filter with the wildcard in it is the wildcard alone. -/
theorem isWildcard_resolve {filter : Filter} (h : Names.wildcard ∉ Token.images filter.names)
    (hmem : Names.wildcard ∈ filter.resolve) : Names.isWildcard filter.resolve = true := by
  rw [resolve_of_selectsEvery ((wildcard_mem_resolve_iff h).1 hmem)]
  rfl

end Filter

/-- The filter that a value-bearing selector has before its value. -/
def ValueSelector.filter (selector : ValueSelector) : Filter := ⟨selector.names, selector.star⟩

/-- The tokens after `with`. -/
def ValueSelector.withTokens (selector : ValueSelector) : List Token :=
  selector.method.toList ++ selector.methodPath.toList

/-- The combined list is what the filter means, repetitions kept, and then the tokens after
`with`. -/
theorem ValueSelector.combined_eq (selector : ValueSelector) :
    selector.combined = selector.filter.meant ++ Token.images selector.withTokens := by
  rw [combined, List.append_assoc, withTokens, Option.toList_map, Option.toList_map,
    ← List.map_append]
  rfl

/-- The last name of a list is split off, whatever it is and whether or not it is repeated. -/
theorem splitValue?_concat (names : List String) (value : String) :
    splitValue? (names ++ [value]) = some (Names.distinct names, value) := by
  rw [splitValue?, List.getLast?_concat, List.dropLast_concat, Option.map_some]

/-- With one token after `with`, that token is the value and the filter alone selects. -/
theorem ValueSelector.resolve?_of_withTokens {selector : ValueSelector} {value : Token}
    (h : selector.withTokens = [value]) :
    selector.resolve? = some (selector.filter.resolve, value.image) := by
  have hcombined : selector.combined = selector.filter.meant ++ [value.image] := by
    rw [combined_eq, h]
    rfl
  rw [resolve?, hcombined, splitValue?_concat, Filter.resolve_eq_distinct_meant]

/-- A declaration with one token after `with` selects what its filter does. -/
theorem ValueOption.selected_eq_resolve {declared : ValueOption}
    (h : declared.selector.withTokens.length = 1) :
    declared.selected = declared.selector.filter.resolve := by
  obtain ⟨value, hvalue⟩ := List.length_eq_one_iff.1 h
  rw [selected, ValueSelector.resolve?_of_withTokens hvalue]
  rfl

/-! ## One slot -/

/-- How the included list of a slot is made of the filters of its declarations, when none of them
has the wildcard for a name. -/
structure Unites (filters : List Filter) (included : List String) : Prop where
  /-- The list has the wildcard when some filter means every entity. -/
  wildcard_mem_iff : Names.wildcard ∈ included ↔ ∃ filter ∈ filters, filter.selectsEvery = true
  /-- The list has the names of all other filters, the wildcard or not. -/
  mem_iff_of_ne : ∀ name, name ≠ Names.wildcard → (name ∈ included ↔
    ∃ filter ∈ filters, filter.selectsEvery = false ∧ name ∈ Token.images filter.names)
  /-- A list with the wildcard is the wildcard alone when no filter selects by name. -/
  isWildcard_iff : Names.isWildcard included = true ↔ Names.wildcard ∈ included ∧
    ∀ filter ∈ filters, filter.selectsEvery = true ∨ filter.names = []

/-- The united names of filters that do not have the wildcard for a name. -/
theorem unites_distinct_flatMap {filters : List Filter}
    (h : ∀ filter ∈ filters, Names.wildcard ∉ Token.images filter.names) :
    Unites filters (Names.distinct (filters.flatMap Filter.resolve)) where
  wildcard_mem_iff := by
    rw [Names.mem_distinct, List.mem_flatMap]
    constructor
    · rintro ⟨filter, hfilter, hmem⟩
      exact ⟨filter, hfilter, (Filter.wildcard_mem_resolve_iff (h filter hfilter)).1 hmem⟩
    · rintro ⟨filter, hfilter, hevery⟩
      exact ⟨filter, hfilter, (Filter.wildcard_mem_resolve_iff (h filter hfilter)).2 hevery⟩
  mem_iff_of_ne := by
    intro name hname
    rw [Names.mem_distinct, List.mem_flatMap]
    simp only [Filter.mem_resolve_iff_of_ne hname]
  isWildcard_iff := by
    rw [Names.isWildcard_distinct_iff, Names.mem_distinct]
    apply and_congr_right
    intro _
    rw [List.forall_mem_flatMap]
    apply forall₂_congr
    intro filter hfilter
    cases hevery : filter.selectsEvery with
    | true => simp [Filter.resolve_of_selectsEvery hevery]
    | false =>
        -- all names of the filter are kept, and none of them is the wildcard
        rw [Filter.resolve_of_not_selectsEvery hevery]
        constructor
        · intro honly
          right
          rw [List.eq_nil_iff_forall_not_mem]
          intro token htoken
          have himage : token.image ∈ Token.images filter.names := List.mem_map_of_mem htoken
          rw [honly token.image (Names.mem_distinct.2 himage)] at himage
          exact h filter hfilter himage
        · rintro (hother | hnames)
          · cases hother
          · simp [hnames, Token.images]

/-- The entity lists of applications are resolved filters: the wildcard in them is alone. -/
theorem Application.isWildcard_entities {application : Application}
    (h : ∀ clause ∈ application.selections, Names.wildcard ∉ Token.images clause.filter.names)
    (hmem : Names.wildcard ∈ application.toModel.selection.entities) :
    Names.isWildcard application.toModel.selection.entities = true := by
  rw [toModel] at hmem ⊢
  cases hlast : application.selections.getLast? with
  | none => simp [hlast] at hmem
  | some clause =>
      rw [hlast] at hmem
      exact Filter.isWildcard_resolve (h clause (List.mem_of_getLast? hlast)) hmem

section Options

variable {flags : List FlagOption} {valued : List ValueOption} {family : OptionFamily}

/-- The included names of a flag are united from the filters of its declarations. -/
theorem unites_flagEntry (hnone : optionObjection? flags valued = none)
    (hfamily : family.carriesValue = false)
    (hnames : ∀ declared ∈ flags, Names.wildcard ∉ Token.images declared.filter.names) :
    Unites ((flags.filter (FlagOption.declares family)).map FlagOption.filter)
      ((enterOptions .empty flags valued).flagEntry family).included := by
  have hfilters : ∀ filter ∈ (flags.filter (FlagOption.declares family)).map FlagOption.filter,
      Names.wildcard ∉ Token.images filter.names := by
    rw [List.forall_mem_map]
    intro declared hdeclared
    exact hnames declared (List.mem_of_mem_filter hdeclared)
  rw [flagEntry_enterOptions OptionTable.wellShaped_empty hnone hfamily,
    OptionTable.flagEntry_empty]
  have hunites := unites_distinct_flatMap hfilters
  rw [List.flatMap_map] at hunites
  exact hunites

/-- The included names of a value whose declarations have one token after `with` are united from
their filters. -/
theorem unites_entryAt (hnone : optionObjection? flags valued = none)
    (hfamily : family.carriesValue = true)
    (hnames : ∀ declared ∈ valued, Names.wildcard ∉ Token.images declared.selector.names)
    {value : String}
    (hwith : ∀ declared ∈ valued, declared.declaresValue family value = true →
      declared.selector.withTokens.length = 1) :
    Unites ((valued.filter (ValueOption.declaresValue family value)).map fun declared =>
        declared.selector.filter)
      (ValueEntries.entryAt ((enterOptions .empty flags valued).values family) value).included := by
  have hfilters : ∀ filter ∈ (valued.filter (ValueOption.declaresValue family value)).map
      (fun declared => declared.selector.filter), Names.wildcard ∉ Token.images filter.names := by
    rw [List.forall_mem_map]
    intro declared hdeclared
    exact hnames declared (List.mem_of_mem_filter hdeclared)
  have hselected : (valued.filter (ValueOption.declaresValue family value)).flatMap
        ValueOption.selected =
      (valued.filter (ValueOption.declaresValue family value)).flatMap fun declared =>
        declared.selector.filter.resolve := by
    apply List.flatMap_congr
    intro declared hdeclared
    obtain ⟨hmem, hvalue⟩ := List.mem_filter.1 hdeclared
    exact ValueOption.selected_eq_resolve (hwith declared hmem hvalue)
  rw [entryAt_enterOptions OptionTable.wellShaped_empty hnone hfamily, OptionTable.values_empty,
    ValueEntries.entryAt_empty, hselected]
  have hunites := unites_distinct_flatMap hfilters
  rw [List.flatMap_map] at hunites
  exact hunites

end Options

/-! ## The document -/

/-- The tokens that name entities in selectors, and those that stand after `with`. -/
def Program.namingTokens (program : Program) : List Token :=
  program.flags.flatMap (fun declared => declared.filter.names) ++
    program.valued.flatMap (fun declared =>
      declared.selector.names ++ declared.selector.withTokens) ++
    program.applications.flatMap fun application =>
      application.selections.flatMap fun clause => clause.filter.names

/-- Two declarations of `skipClient`, by name and by wildcard, and two of `filter`, both by
wildcard. -/
def blendedProgram : Program :=
  { Program.empty with
    applications := [⟨[], [⟨⟨[.ofImage "A"], some (.ofImage "*")⟩, none⟩]⟩]
    flags := [⟨.ofImage "skipClient", ⟨[.ofImage "A"], none⟩, none⟩,
      ⟨.ofImage "skipClient", ⟨[], some (.ofImage "*")⟩, none⟩,
      ⟨.ofImage "filter", ⟨[.ofImage "all"], none⟩, none⟩,
      ⟨.ofImage "filter", ⟨[.ofImage "B"], some (.ofImage "*")⟩, none⟩] }

/-- Declared by name and by wildcard, a slot has the name and the wildcard in one list. -/
theorem included_wildcard_not_alone :
    (∀ token ∈ blendedProgram.namingTokens, token.image ≠ Names.wildcard) ∧
    ∃ (document : Document) (entry : OptionEntry),
      blendedProgram.build.outcome = .ok document ∧
      document.options.slot? .skipClient = some (.flag entry) ∧
      entry.included = ["A", "*"] ∧ Names.wildcard ∈ entry.included ∧
      Names.isWildcard entry.included = false := by
  refine ⟨by decide, blendedProgram.document, ⟨["A", "*"], []⟩, ?_, rfl, rfl, ?_, rfl⟩
  · exact blendedProgram.outcome_build
  · simp [Names.wildcard]

/-- In the document of a program that never writes the wildcard for a name, an application that
selects the wildcard selects nothing else. The included list of a flag, and that of a value whose
declarations have one token after `with`, is united from the filters of the declarations: it has
the wildcard when one of them means every entity, it has it alone when moreover none of them selects
by name, and it has the names that the others select in either case. -/
theorem outcome_build_wildcards {program : Program} {document : Document}
    (hbuild : program.build.outcome = .ok document)
    (hnames : ∀ token ∈ program.namingTokens, token.image ≠ Names.wildcard) :
    (∀ application ∈ document.applications,
      Names.wildcard ∈ application.selection.entities →
        Names.isWildcard application.selection.entities = true) ∧
    (∀ family : OptionFamily, family.carriesValue = false → ∃ entry : OptionEntry,
      document.options.slot? family = some (.flag entry) ∧
      Unites ((program.flags.filter (FlagOption.declares family)).map FlagOption.filter)
        entry.included) ∧
    (∀ family : OptionFamily, family.carriesValue = true → ∃ entries : ValueEntries,
      document.options.slot? family = some (.valued entries) ∧
      ∀ (value : String) (entry : OptionEntry), entries.get? value = some entry →
        (∀ declared ∈ program.valued, declared.declaresValue family value = true →
          declared.selector.withTokens.length = 1) →
        Unites ((program.valued.filter (ValueOption.declaresValue family value)).map
          fun declared => declared.selector.filter) entry.included) := by
  obtain ⟨hnone, rfl⟩ := Program.outcome_build_eq_ok_iff.1 hbuild
  obtain ⟨-, hoptions⟩ := Option.or_eq_none_iff.1 hnone
  have hshape := wellShaped_enterOptions OptionTable.wellShaped_empty hoptions
  -- the three parts of the tokens, each a list of lists of names
  rw [Program.namingTokens, List.forall_mem_append, List.forall_mem_append,
    List.forall_mem_flatMap, List.forall_mem_flatMap, List.forall_mem_flatMap] at hnames
  obtain ⟨⟨hflags, hvalued⟩, happlications⟩ := hnames
  have havoids : ∀ {tokens : List Token}, (∀ token ∈ tokens, token.image ≠ Names.wildcard) →
      Names.wildcard ∉ Token.images tokens := by
    intro tokens htokens hmem
    obtain ⟨token, htoken, himage⟩ := List.mem_map.1 hmem
    exact htokens token htoken himage
  refine ⟨?_, ?_, ?_⟩
  · intro application happlication hmem
    obtain ⟨declared, hdeclared, rfl⟩ := List.mem_map.1 happlication
    refine declared.isWildcard_entities (fun clause hclause => ?_) hmem
    exact havoids (List.forall_mem_flatMap.1 (happlications declared hdeclared) clause hclause)
  · intro family hfamily
    refine ⟨_, hshape.flag hfamily, unites_flagEntry hoptions hfamily fun declared hdeclared => ?_⟩
    exact havoids (hflags declared hdeclared)
  · intro family hfamily
    refine ⟨_, hshape.valued hfamily, ?_⟩
    intro value entry hentry hwith
    have hselectors : ∀ declared ∈ program.valued,
        Names.wildcard ∉ Token.images declared.selector.names := by
      intro declared hdeclared
      exact havoids (List.forall_mem_append.1 (hvalued declared hdeclared)).1
    have hunites := unites_entryAt hoptions hfamily hselectors hwith
    rw [ValueEntries.entryAt, hentry, Option.getD_some] at hunites
    exact hunites

/-- Declared by wildcard alone, a slot has the wildcard and nothing else, like the application. -/
theorem outcome_build_wildcards_blended :
    blendedProgram.build.outcome = .ok blendedProgram.document ∧
    (∀ token ∈ blendedProgram.namingTokens, token.image ≠ Names.wildcard) ∧
    (∀ application ∈ blendedProgram.document.applications,
      Names.isWildcard application.selection.entities = true) ∧
    ∃ entry : OptionEntry,
      blendedProgram.document.options.slot? .filter = some (.flag entry) ∧
      Names.isWildcard entry.included = true := by
  have hbuild : blendedProgram.build.outcome = .ok blendedProgram.document :=
    blendedProgram.outcome_build
  have hnames : ∀ token ∈ blendedProgram.namingTokens, token.image ≠ Names.wildcard := by
    decide
  obtain ⟨happlications, hflag, -⟩ := outcome_build_wildcards hbuild hnames
  obtain ⟨entry, hentry, hunites⟩ := hflag .filter rfl
  refine ⟨hbuild, hnames, ?_, entry, hentry, ?_⟩
  · intro application happlication
    apply happlications application happlication
    rw [show blendedProgram.document.applications = [⟨.empty, ⟨["*"], []⟩⟩] from rfl,
      List.mem_singleton] at happlication
    rw [happlication]
    exact List.mem_singleton_self _
  · rw [hunites.isWildcard_iff, hunites.wildcard_mem_iff]
    decide

end DomainModel.Declared
