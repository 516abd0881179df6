import DomainModel.Proofs.FirstViolation
import DomainModel.Proofs.Wildcards

/-!
# Names and values in selectors

A flag and a value are declared for entities in the same words, but their selectors are resolved on
two ways. A flag drops repetitions from the names at once. A value is written behind the names, so
the tokens after `with` join the names first, the last of this one list is split off as the value,
and only then are repetitions dropped from what is left. Both ways come to the same names, and the
value is the token as it was written, even if it reads like one of the names or like the wildcard:
it is gone before repetitions are looked for. What remains to be said is how much of the list is
split off when there are two tokens after `with`, or none.

## What this module delivers

- `ValueSelector.Splits`: the names and the value of a selector, case by case of what is written
  after `with`.
- `resolve?_of_both`, `resolve?_of_every`, `resolve?_of_names`: the cases of two tokens and of none.
- `ValueSelector.splits`: every selector is resolved like this.
- `selectors_resolve_alike`: the names and the value of every selector, and what a declaration with
  one value contributes beside what a flag does.
-/

set_option autoImplicit false

namespace DomainModel.Declared

namespace ValueSelector

/-- Which names a selector has and which value. -/
structure Splits (selector : ValueSelector) : Prop where
  /-- One token after `with` is the value, and the names are those of a flag. -/
  one : ∀ value, selector.withTokens = [value] →
    selector.resolve? = some (selector.filter.resolve, value.image)
  /-- Of two tokens the second is the value, and the first is one more name. -/
  both : ∀ method path, selector.method = some method → selector.methodPath = some path →
    selector.resolve? =
      some (Names.distinct (selector.filter.resolve ++ [method.image]), path.image)
  /-- Without a token after `with`, a selector of every entity has the wildcard for its value. -/
  every : selector.withTokens = [] →
    selector.star.isSome = true ∨ Token.images selector.names = [Names.everyKeyword] →
    selector.resolve? = some ([], Names.wildcard)
  /-- Otherwise the last name is the value, whether or not it was there before. -/
  names : selector.withTokens = [] → selector.star = none →
    Token.images selector.names ≠ [Names.everyKeyword] →
    ∀ front last, selector.names = front ++ [last] →
      selector.resolve? = some (Names.distinct (Token.images front), last.image)
  /-- Only a selector with nothing in it has no value. -/
  none_iff : selector.resolve? = none ↔ selector.names = [] ∧ selector.star = none ∧
    selector.method = none ∧ selector.methodPath = none

variable {selector : ValueSelector}

theorem resolve?_of_both {method path : Token} (hmethod : selector.method = some method)
    (hpath : selector.methodPath = some path) :
    selector.resolve? =
      some (Names.distinct (selector.filter.resolve ++ [method.image]), path.image) := by
  have hcombined : selector.combined =
      (selector.filter.meant ++ [method.image]) ++ [path.image] := by
    rw [combined_eq, withTokens, hmethod, hpath, List.append_assoc]
    rfl
  -- it makes no difference that repetitions among the names are still in the list
  rw [resolve?, hcombined, splitValue?_concat, Filter.resolve_eq_distinct_meant,
    Names.distinct_distinct_append]

/-- Without a token after `with`, what the names mean is the whole list. -/
theorem combined_of_withTokens_nil (h : selector.withTokens = []) :
    selector.combined = selector.filter.meant := by
  rw [combined_eq, h]
  exact List.append_nil _

theorem resolve?_of_every (h : selector.withTokens = [])
    (hevery : selector.filter.selectsEvery = true) :
    selector.resolve? = some ([], Names.wildcard) := by
  have hcombined : selector.combined = [] ++ [Names.wildcard] := by
    rw [combined_of_withTokens_nil h, Filter.meant, if_pos hevery]
    rfl
  rw [resolve?, hcombined, splitValue?_concat, Names.distinct_nil]

theorem resolve?_of_names (h : selector.withTokens = [])
    (hevery : selector.filter.selectsEvery = false) {front : List Token} {last : Token}
    (hnames : selector.names = front ++ [last]) :
    selector.resolve? = some (Names.distinct (Token.images front), last.image) := by
  have hcombined : selector.combined = Token.images front ++ [last.image] := by
    rw [combined_of_withTokens_nil h, Filter.meant, hevery, filter, hnames]
    exact List.map_append
  rw [resolve?, hcombined, splitValue?_concat]

theorem tokens_eq_nil_iff (selector : ValueSelector) : selector.tokens = [] ↔
    selector.names = [] ∧ selector.star = none ∧ selector.method = none ∧
      selector.methodPath = none := by
  simp only [tokens, List.append_eq_nil_iff, Option.toList_eq_nil_iff, and_assoc]

theorem splits (selector : ValueSelector) : selector.Splits where
  one := fun value => resolve?_of_withTokens
  both := fun method path => resolve?_of_both
  every := fun h hevery => resolve?_of_every h ((Filter.selectsEvery_iff selector.filter).2 hevery)
  names := by
    intro h hstar hkeyword front last
    apply resolve?_of_names h
    -- without a star only the keyword as the sole name could mean every entity
    rw [Bool.eq_false_iff, ne_eq, Filter.selectsEvery_iff]
    rintro (hsome | hsingle)
    · rw [filter, hstar] at hsome
      cases hsome
    · exact hkeyword hsingle
  none_iff := (ValueOption.resolve?_eq_none_iff selector).trans selector.tokens_eq_nil_iff

end ValueSelector

/-- Every selector of a value has the names that a flag would have and a value that is split off as
it is written; and so a declaration with one token after `with` contributes to that value the very
entry that a flag with its names contributes. -/
theorem selectors_resolve_alike :
    (∀ selector : ValueSelector, selector.Splits) ∧
    ∀ (flag : FlagOption) (valued : ValueOption) (value : Token),
      valued.selector.filter = flag.filter → valued.exclusion = flag.exclusion →
        valued.selector.withTokens = [value] →
          valued.contribution? = some (value.image, flag.entry) := by
  refine ⟨ValueSelector.splits, ?_⟩
  intro flag valued value hfilter hexclusion hvalue
  -- names and exclusion are all that an entry is made of
  have hentry : valued.entry flag.filter.resolve = flag.entry := by
    rw [ValueOption.entry, hexclusion, FlagOption.entry]
  rw [ValueOption.contribution?, ValueSelector.resolve?_of_withTokens hvalue, hfilter, ← hentry]
  rfl

/-- Names of which one is repeated, and a value that reads like it. -/
def echoingSelector : ValueSelector :=
  ⟨[.ofImage "A", .ofImage "B", .ofImage "A"], none, some (.ofImage "A"), none⟩

/-- The value may read like a name, like the keyword for every entity or like the wildcard; without
a token after `with` the repeated name itself is the value. -/
theorem selectors_resolve_alike_echoing :
    echoingSelector.resolve? = some (["A", "B"], "A") ∧
    ValueSelector.resolve? { echoingSelector with methodPath := some (.ofImage "*") } =
      some (["A", "B"], "*") ∧
    ValueSelector.resolve? { echoingSelector with method := none } = some (["A", "B"], "A") ∧
    ValueSelector.resolve? ⟨[.ofImage "all"], none, none, some (.ofImage "all")⟩ =
      some (["*"], "all") ∧
    ValueSelector.resolve? ⟨[.ofImage "all"], none, none, none⟩ = some ([], "*") ∧
    ValueOption.contribution? ⟨.ofImage "dto", echoingSelector, some [.ofImage "C"]⟩ =
      some ("A", ⟨["A", "B"], ["C"]⟩) := by
  obtain ⟨hsplits, hcontribution⟩ := selectors_resolve_alike
  refine ⟨?_, ?_, ?_, ?_, ?_, ?_⟩
  · exact (hsplits echoingSelector).one (.ofImage "A") rfl
  · exact (hsplits _).both (.ofImage "A") (.ofImage "*") rfl rfl
  · exact (hsplits _).names rfl rfl (by decide) [.ofImage "A", .ofImage "B"] (.ofImage "A") rfl
  · exact (hsplits _).one (.ofImage "all") rfl
  · exact (hsplits _).every rfl (.inr rfl)
  · exact hcontribution
      ⟨.ofImage "skipClient", ⟨[.ofImage "A", .ofImage "B", .ofImage "A"], none⟩,
        some [.ofImage "C"]⟩ _ (.ofImage "A") rfl rfl rfl

end DomainModel.Declared
