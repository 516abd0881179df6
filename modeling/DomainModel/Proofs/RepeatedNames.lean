import DomainModel.Proofs.Wildcards

/-!
# Repeated names in selectors

A selector that repeats a name should select what it selects without the repetition. Names are
resolved in two steps: the keyword for every entity is looked for in the names as they are written,
and repetitions are dropped from what is left. The steps can be exchanged unless dropping
repetitions brings the keyword forth, and it does so for one kind of selector only: the keyword,
written twice or more, and nothing beside it (`RepeatsKeyword`). Such a selector names an entity
that is called like the keyword, while the keyword written once names every entity.

## What this module delivers

- `Filter.RepeatsKeyword`: the keyword, repeated, and nothing else.
- `Filter.Condenses`: the names of another filter without repetitions.
- `resolve_of_repeatsKeyword`, `Condenses.resolve_eq_iff`: the one case in which repetitions count.
- `repeated_keyword_selects_its_name`: the least selector of that kind, for a flag and for a value.
- `selection_of_distinct_names`: for which selectors repetitions do not count.
-/

set_option autoImplicit false

namespace DomainModel.Declared

namespace Filter

/-! ## The keyword in repetition -/

/-- Whether a filter has the keyword for every entity more than once and nothing beside it. -/
def RepeatsKeyword (filter : Filter) : Prop :=
  filter.star = none ∧ 2 ≤ filter.names.length ∧
    ∀ name ∈ Token.images filter.names, name = Names.everyKeyword

instance (filter : Filter) : Decidable filter.RepeatsKeyword :=
  inferInstanceAs (Decidable (_ ∧ _ ∧ _))

/-- A filter with the names of another one, each once, and with its star. -/
structure Condenses (other filter : Filter) : Prop where
  names : Token.images other.names = Names.distinct (Token.images filter.names)
  star : other.star = filter.star

/-- Of the keyword in repetition, the keyword is left. -/
theorem distinct_of_repeatsKeyword {filter : Filter} (h : filter.RepeatsKeyword) :
    Names.distinct (Token.images filter.names) = [Names.everyKeyword] := by
  obtain ⟨-, hlength, honly⟩ := h
  have hpositive : 0 < filter.names.length := by omega
  obtain ⟨token, htoken⟩ := List.exists_mem_of_length_pos hpositive
  have himage : token.image ∈ Token.images filter.names := List.mem_map_of_mem htoken
  rw [honly token.image himage] at himage
  exact Names.distinct_eq_singleton_iff.2 ⟨himage, honly⟩

/-- The keyword in repetition does not mean every entity. -/
theorem not_selectsEvery_of_repeatsKeyword {filter : Filter} (h : filter.RepeatsKeyword) :
    filter.selectsEvery = false := by
  obtain ⟨hstar, hlength, -⟩ := h
  rw [Bool.eq_false_iff, ne_eq, selectsEvery_iff, hstar]
  rintro (hsome | hsingle)
  · cases hsome
  · have hone : (Token.images filter.names).length = 1 := by rw [hsingle, List.length_singleton]
    rw [Token.images, List.length_map] at hone
    omega

/-- In repetition the keyword is a name like any other. -/
theorem resolve_of_repeatsKeyword {filter : Filter} (h : filter.RepeatsKeyword) :
    filter.resolve = [Names.everyKeyword] := by
  rw [resolve_of_not_selectsEvery (not_selectsEvery_of_repeatsKeyword h),
    distinct_of_repeatsKeyword h]

/-- When the keyword is all that is left of the names, it means every entity or is repeated. -/
theorem selectsEvery_or_repeatsKeyword {filter : Filter}
    (h : Names.distinct (Token.images filter.names) = [Names.everyKeyword]) :
    filter.selectsEvery = true ∨ filter.RepeatsKeyword := by
  obtain ⟨hmem, honly⟩ := Names.distinct_eq_singleton_iff.1 h
  rw [selectsEvery_iff]
  cases hstar : filter.star with
  | some star => exact .inl (.inl rfl)
  | none =>
      have hreplicate : Token.images filter.names =
          List.replicate filter.names.length Names.everyKeyword :=
        List.eq_replicate_iff.2 ⟨List.length_map _, honly⟩
      -- without a name the keyword would not be there, with one it is written once
      rcases hlength : filter.names.length with _ | _ | count
      · rw [hreplicate, hlength] at hmem
        cases hmem
      · rw [hlength] at hreplicate
        exact .inl (.inr hreplicate)
      · exact .inr ⟨hstar, by omega, honly⟩

/-- The keyword and nothing else selects the wildcard unless it is repeated. -/
theorem resolve_eq_wildcard_iff {filter : Filter}
    (hsome : filter.names ≠ [] ∨ filter.star.isSome = true)
    (honly : ∀ name ∈ Token.images filter.names, name = Names.everyKeyword) :
    filter.resolve = [Names.wildcard] ↔ ¬ filter.RepeatsKeyword := by
  constructor
  · intro hwildcard hrepeats
    rw [resolve_of_repeatsKeyword hrepeats] at hwildcard
    exact absurd hwildcard (by decide)
  · intro hnot
    apply resolve_of_selectsEvery
    rcases hsome with hnames | hstar
    · obtain ⟨token, htoken⟩ := List.exists_mem_of_ne_nil _ hnames
      have himage : token.image ∈ Token.images filter.names := List.mem_map_of_mem htoken
      rw [honly token.image himage] at himage
      have hdistinct := Names.distinct_eq_singleton_iff.2 ⟨himage, honly⟩
      exact (selectsEvery_or_repeatsKeyword hdistinct).resolve_right hnot
    · exact (selectsEvery_iff filter).2 (.inl hstar)

/-! ## Dropping repetitions first -/

/-- When repetitions are dropped, the filters that come to mean every entity are those that repeat
the keyword. -/
theorem Condenses.selectsEvery_iff {filter other : Filter} (h : other.Condenses filter) :
    other.selectsEvery = true ↔ filter.selectsEvery = true ∨ filter.RepeatsKeyword := by
  rw [Filter.selectsEvery_iff, h.star, h.names]
  constructor
  · rintro (hstar | hdistinct)
    · exact .inl ((Filter.selectsEvery_iff filter).2 (.inl hstar))
    · exact selectsEvery_or_repeatsKeyword hdistinct
  · rintro (hevery | hrepeats)
    · rcases (Filter.selectsEvery_iff filter).1 hevery with hstar | hsingle
      · exact .inl hstar
      · right
        rw [hsingle, Names.distinct_singleton]
    · exact .inr (distinct_of_repeatsKeyword hrepeats)

/-- Repetitions can be dropped first unless the keyword is repeated and nothing is beside it. -/
theorem Condenses.resolve_eq_iff {filter other : Filter} (h : other.Condenses filter) :
    other.resolve = filter.resolve ↔ ¬ filter.RepeatsKeyword := by
  constructor
  · intro hsame hrepeats
    have hother := resolve_of_selectsEvery (h.selectsEvery_iff.2 (.inr hrepeats))
    rw [hother, resolve_of_repeatsKeyword hrepeats] at hsame
    exact absurd hsame (by decide)
  · intro hnot
    cases hevery : filter.selectsEvery with
    | true =>
        rw [resolve_of_selectsEvery hevery,
          resolve_of_selectsEvery (h.selectsEvery_iff.2 (.inl hevery))]
    | false =>
        have hother : other.selectsEvery = false := by
          rw [Bool.eq_false_iff, ne_eq, h.selectsEvery_iff, hevery]
          rintro (htrue | hrepeats)
          · cases htrue
          · exact hnot hrepeats
        rw [resolve_of_not_selectsEvery hevery, resolve_of_not_selectsEvery hother, h.names,
          Names.distinct_eq_self (Names.nodup_distinct _)]

end Filter

/-! ## Selectors of flags and of values -/

/-- A program with a flag and a value for the keyword in repetition. -/
def insistentProgram : Program :=
  { Program.empty with
    flags := [⟨.ofImage "skipClient", ⟨[.ofImage "all", .ofImage "all"], none⟩, none⟩]
    valued := [⟨.ofImage "dto",
      ⟨[.ofImage "all", .ofImage "all"], none, some (.ofImage "mapstruct"), none⟩, none⟩] }

/-- The keyword in repetition selects an entity that is called like it, for a flag and for a value,
though the keyword written once selects every entity. -/
theorem repeated_keyword_selects_its_name :
    Filter.Condenses ⟨[.ofImage "all"], none⟩ ⟨[.ofImage "all", .ofImage "all"], none⟩ ∧
    Filter.resolve ⟨[.ofImage "all"], none⟩ = ["*"] ∧
    Filter.resolve ⟨[.ofImage "all", .ofImage "all"], none⟩ = ["all"] ∧
    ∃ document : Document, insistentProgram.build.outcome = .ok document ∧
      document.options.flagEntry? .skipClient = some ⟨["all"], []⟩ ∧
      document.options.valueEntry? .dto "mapstruct" = some ⟨["all"], []⟩ :=
  ⟨⟨rfl, rfl⟩, rfl, rfl, insistentProgram.document, insistentProgram.outcome_build, rfl, rfl⟩

/-- Unless a selector has the keyword in repetition and nothing else, repetitions among its names
make no difference to what it selects, with a value behind the names or without one, and the keyword
alone selects every entity. -/
theorem selection_of_distinct_names :
    (∀ filter other : Filter, other.Condenses filter →
      (other.resolve = filter.resolve ↔ ¬ filter.RepeatsKeyword)) ∧
    (∀ (selector other : ValueSelector) (value : Token),
      other.filter.Condenses selector.filter → selector.withTokens = [value] →
        other.withTokens = [value] →
          (other.resolve? = selector.resolve? ↔ ¬ selector.filter.RepeatsKeyword)) ∧
    (∀ filter : Filter, filter.names ≠ [] ∨ filter.star.isSome = true →
      (∀ name ∈ Token.images filter.names, name = Names.everyKeyword) →
        (filter.resolve = [Names.wildcard] ↔ ¬ filter.RepeatsKeyword)) ∧
    (∀ filter : Filter, filter.RepeatsKeyword → filter.resolve = [Names.everyKeyword]) := by
  refine ⟨fun filter other h => h.resolve_eq_iff, ?_, fun filter => Filter.resolve_eq_wildcard_iff,
    fun filter => Filter.resolve_of_repeatsKeyword⟩
  intro selector other value h hvalue hother
  rw [ValueSelector.resolve?_of_withTokens hvalue, ValueSelector.resolve?_of_withTokens hother,
    ← h.resolve_eq_iff]
  simp

/-- Names among which the keyword is repeated beside another, with a value behind them. -/
def mixedSelector : ValueSelector :=
  ⟨[.ofImage "all", .ofImage "A", .ofImage "all", .ofImage "A"], none, some (.ofImage "mapstruct"),
    none⟩

/-- The same names, each once. -/
def condensedSelector : ValueSelector := { mixedSelector with
  names := [.ofImage "all", .ofImage "A"] }

/-- Beside another name the keyword may be repeated, and so may every name beside a star. -/
theorem selection_of_distinct_names_mixed :
    ¬ mixedSelector.filter.RepeatsKeyword ∧
    condensedSelector.filter.resolve = mixedSelector.filter.resolve ∧
    condensedSelector.resolve? = mixedSelector.resolve? ∧
    Filter.resolve ⟨[.ofImage "all", .ofImage "all"], some (.ofImage "*")⟩ = [Names.wildcard] ∧
    Filter.resolve ⟨[.ofImage "all", .ofImage "all"], none⟩ = [Names.everyKeyword] := by
  obtain ⟨hfilter, hselector, hkeyword, hrepeated⟩ := selection_of_distinct_names
  have hcondenses : condensedSelector.filter.Condenses mixedSelector.filter := ⟨rfl, rfl⟩
  have hmixed : ¬ mixedSelector.filter.RepeatsKeyword := by decide
  refine ⟨hmixed, ?_, ?_, ?_, ?_⟩
  · exact (hfilter _ _ hcondenses).2 hmixed
  · exact (hselector _ _ (.ofImage "mapstruct") hcondenses rfl rfl).2 hmixed
  · exact (hkeyword _ (.inr rfl) (by decide)).2 (by decide)
  · exact hrepeated _ (by decide)

end DomainModel.Declared
