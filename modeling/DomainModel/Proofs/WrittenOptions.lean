import DomainModel.Options.Applied
import DomainModel.Proofs.Separators

/-!
# Written options can be told apart

The written form of an option is its name, the entities, and up to two clauses, one behind the other
and without any mark of where each of them starts. Still no two options are written alike as long as
their words are free of the characters that the form itself puts between words. The name ends at the
first blank. Entities are joined by commas, so a blank without a comma before it ends their list,
and a blank at its very beginning says that it is empty. Of the two clauses, the second character
tells which one follows (`kindOfClauses`): words that read like the beginning of a clause do no
harm, because a clause comes after a blank and a listed word never does.

## What this module delivers

- `delimiters`, `IsWord`, and `words` of an entry, a value and an option: the texts that options are
  written with.
- `MapEntry.text_inj`: an entry is determined by its text.
- `kindOfClauses`: the kind of a value, read off the clauses.
- `exclusionClause_inj`, `clauses_inj`: the clauses determine the value and the excluded names.
- `render_eq_iff`: the written form determines the option.
-/

set_option autoImplicit false

namespace DomainModel

/-- The characters that the written form of an option puts between its words. -/
def delimiters : List Char := [' ', ',', '=', '\x7b', '\x7d']

/-- A text that can stand for itself in the written form of an option: there is something of it,
and nothing in it is put there by the form. -/
structure IsWord (text : String) : Prop where
  /-- The text is not empty. -/
  ne_empty : text ≠ ""
  /-- No character of the text is a delimiter. -/
  plain : ∀ char ∈ text.toList, char ∉ delimiters

-- the characters of the text are gone through, not all characters there are
instance (text : String) : Decidable (IsWord text) :=
  decidable_of_iff
    (text ≠ "" ∧ text.toList.all (fun char => decide (char ∉ delimiters)) = true)
    ⟨fun ⟨hne, hplain⟩ => ⟨hne, by simpa using hplain⟩,
      fun h => ⟨h.ne_empty, by simpa using h.plain⟩⟩

/-- The texts that an entry is written with. -/
def MapEntry.words : MapEntry → List String
  | .bare key => [key]
  | .pair key value => [key, value]

/-- The texts that a value is written with. -/
def OptionValue.words : OptionValue → List String
  | .flag => []
  | .single value => [value]
  | .entries list => list.flatMap MapEntry.words

/-- The texts that an option is written with. -/
def AppliedOption.words (option : AppliedOption) : List String :=
  option.name :: (option.entities ++ option.value.words ++ option.excluded)

/-! ## Words

A name, an entity, a value or an entry goes on until a blank, a comma or a closing brace. Only in an
entry there is one more delimiter, between key and value. -/

-- the equals sign counts because an entry has one inside
/-- Whether a character can be inside a name, an entity, a value or an entry. -/
def isInside (char : Char) : Bool := char != ' ' && char != ',' && char != '\x7d'

namespace IsWord

variable {text : String}

/-- A word is something that can be listed. -/
theorem isInside (h : IsWord text) :
    text.toList ≠ [] ∧ ∀ char ∈ text.toList, isInside char = true := by
  constructor
  · intro hnil
    exact h.ne_empty (String.toList_eq_nil_iff.1 hnil)
  · intro char hchar
    have hplain := h.plain char hchar
    simp only [delimiters, List.mem_cons, not_or] at hplain
    simp [DomainModel.isInside, hplain]

/-- A word goes on until an equals sign, too. -/
theorem not_equals (h : IsWord text) : ∀ char ∈ text.toList, (char != '=') = true := by
  intro char hchar
  have hplain := h.plain char hchar
  simp only [delimiters, List.mem_cons, not_or] at hplain
  simp [hplain]

/-- A word does not begin with a brace. -/
theorem head?_ne_brace (h : IsWord text) : text.toList.head? ≠ some '\x7b' := by
  intro hhead
  have hmem := List.mem_of_head? hhead
  exact h.plain _ hmem (by decide)

end IsWord

namespace MapEntry

theorem toList_text_pair (key value : String) :
    (pair key value).text.toList = key.toList ++ '=' :: value.toList := by
  rw [text, String.toList_append, String.toList_append, List.append_assoc]
  rfl

/-- The written form of an entry is not empty and has no delimiter but an equals sign. -/
theorem isInside_text {entry : MapEntry} (h : ∀ word ∈ entry.words, IsWord word) :
    entry.text.toList ≠ [] ∧ ∀ char ∈ entry.text.toList, isInside char = true := by
  cases entry with
  | bare key =>
      exact (h key List.mem_cons_self).isInside
  | pair key value =>
      obtain ⟨-, hkey⟩ := (h key List.mem_cons_self).isInside
      obtain ⟨-, hvalue⟩ := (h value (List.mem_cons_of_mem _ List.mem_cons_self)).isInside
      rw [toList_text_pair]
      refine ⟨by simp, ?_⟩
      intro char hchar
      rcases List.mem_append.1 hchar with hchar | hchar
      · exact hkey char hchar
      · rcases List.mem_cons.1 hchar with rfl | hchar
        · decide
        · exact hvalue char hchar

/-- An entry with a value is no word: it has an equals sign. -/
theorem not_isWord_text_pair (key value : String) : ¬ IsWord (pair key value).text := by
  intro h
  have hmem : '=' ∈ (pair key value).text.toList := by
    rw [toList_text_pair]
    exact List.mem_append_right _ List.mem_cons_self
  exact h.plain '=' hmem (by decide)

/-- An entry is determined by its text: the key ends at the equals sign, if there is one. -/
theorem text_inj {entry other : MapEntry} (h : ∀ word ∈ entry.words, IsWord word)
    (hother : ∀ word ∈ other.words, IsWord word) (htext : entry.text = other.text) :
    entry = other := by
  cases entry with
  | bare key =>
      cases other with
      | bare otherKey => exact congrArg bare htext
      | pair otherKey otherValue =>
          -- a text with an equals sign cannot be that of a key alone
          have hword : IsWord (bare key).text := h key List.mem_cons_self
          exact absurd (htext ▸ hword) (not_isWord_text_pair otherKey otherValue)
  | pair key value =>
      cases other with
      | bare otherKey =>
          have hword : IsWord (bare otherKey).text := hother otherKey List.mem_cons_self
          exact absurd (htext ▸ hword) (not_isWord_text_pair key value)
      | pair otherKey otherValue =>
          have hchars := congrArg String.toList htext
          rw [toList_text_pair, toList_text_pair] at hchars
          obtain ⟨hkey, hrest⟩ := Text.append_inj_of_stops
            (h key List.mem_cons_self).not_equals (hother otherKey List.mem_cons_self).not_equals
            (Text.stops_cons rfl _) (Text.stops_cons rfl _) hchars
          have hvalue := (List.cons_inj_right _).1 hrest
          rw [String.toList_inj.1 hkey, String.toList_inj.1 hvalue]

/-- Entries are determined by their texts. -/
theorem map_text_inj {entries others : List MapEntry}
    (h : ∀ entry ∈ entries, ∀ word ∈ entry.words, IsWord word)
    (hothers : ∀ other ∈ others, ∀ word ∈ other.words, IsWord word)
    (htexts : entries.map text = others.map text) : entries = others := by
  induction entries generalizing others with
  | nil => exact (List.map_eq_nil_iff.1 htexts.symm).symm
  | cons entry entries ih =>
      cases others with
      | nil => cases htexts
      | cons other others =>
          obtain ⟨hentry, hentries⟩ := List.forall_mem_cons.1 h
          obtain ⟨hother, hrest⟩ := List.forall_mem_cons.1 hothers
          rw [List.map_cons, List.map_cons, List.cons.injEq] at htexts
          rw [text_inj hentry hother htexts.1, ih hentries hrest htexts.2]

end MapEntry

/-! ## Clauses -/

namespace AppliedOption

/-- The characters of a listing: its texts, joined by a comma and a blank. -/
theorem toList_listing (texts : List String) :
    (listing texts).toList = [',', ' '].intercalate (texts.map String.toList) := by
  rw [listing, String.toList_intercalate]
  rfl

/-- A listing is determined by the text it begins when its texts are not empty and go on neither
over what separates them nor over what comes after the last one. -/
theorem listing_append_inj {texts others : List String} {rest otherRest : List Char}
    (h : ∀ text ∈ texts, text.toList ≠ [] ∧ ∀ char ∈ text.toList, isInside char = true)
    (hothers : ∀ text ∈ others, text.toList ≠ [] ∧ ∀ char ∈ text.toList, isInside char = true)
    (hrest : Text.Stops isInside rest) (hend : rest.head? ≠ some ',')
    (hotherRest : Text.Stops isInside otherRest) (hotherEnd : otherRest.head? ≠ some ',')
    (heq : (listing texts).toList ++ rest = (listing others).toList ++ otherRest) :
    texts = others ∧ rest = otherRest := by
  rw [toList_listing, toList_listing] at heq
  obtain ⟨hchars, htail⟩ := Text.intercalate_append_inj rfl (List.forall_mem_map.2 h)
    (List.forall_mem_map.2 hothers) hrest hend hotherRest hotherEnd heq
  exact ⟨(List.map_inj_right fun _ _ => String.toList_injective).1 hchars, htail⟩

/-- The characters of the clauses behind the entities: the value, then the excluded names. -/
def clauses (value : OptionValue) (excluded : List String) : List Char :=
  (valueClause value).toList ++ (exclusionClause excluded).toList

theorem toList_exclusionClause_cons (name : String) (names : List String) :
    (exclusionClause (name :: names)).toList =
      [' ', 'e', 'x', 'c', 'e', 'p', 't', ' '] ++ (listing (name :: names)).toList := by
  change (" except " ++ listing (name :: names)).toList = _
  rw [String.toList_append]
  rfl

theorem clauses_single (value : String) (excluded : List String) :
    clauses (.single value) excluded =
      [' ', 'w', 'i', 't', 'h', ' '] ++ (value.toList ++ (exclusionClause excluded).toList) := by
  rw [clauses, valueClause, String.toList_append, List.append_assoc]
  rfl

theorem clauses_entries (entries : List MapEntry) (excluded : List String) :
    clauses (.entries entries) excluded =
      [' ', 'w', 'i', 't', 'h', ' ', '\x7b'] ++ ((listing (entries.map MapEntry.text)).toList ++
        '\x7d' :: (exclusionClause excluded).toList) := by
  rw [clauses, valueClause, String.toList_append, String.toList_append, List.append_assoc,
    List.append_assoc]
  rfl

/-- Whatever stands before the excluded names ends there. -/
theorem stops_exclusionClause (excluded : List String) :
    Text.Stops isInside (exclusionClause excluded).toList ∧
      (exclusionClause excluded).toList.head? ≠ some ',' := by
  cases excluded with
  | nil => exact ⟨Text.stops_nil _, by decide⟩
  | cons name names =>
      rw [toList_exclusionClause_cons]
      exact ⟨Text.stops_cons rfl _, by simp⟩

/-- Whatever stands before the clauses ends there. -/
theorem stops_clauses (value : OptionValue) (excluded : List String) :
    Text.Stops isInside (clauses value excluded) ∧ (clauses value excluded).head? ≠ some ',' := by
  cases value with
  | flag => exact stops_exclusionClause excluded
  | single value =>
      rw [clauses_single]
      exact ⟨Text.stops_cons rfl _, by simp⟩
  | entries entries =>
      rw [clauses_entries]
      exact ⟨Text.stops_cons rfl _, by simp⟩

/-- The excluded names are determined by their clause. -/
theorem exclusionClause_inj {excluded others : List String} (h : ∀ name ∈ excluded, IsWord name)
    (hothers : ∀ name ∈ others, IsWord name)
    (heq : (exclusionClause excluded).toList = (exclusionClause others).toList) :
    excluded = others := by
  cases excluded with
  | nil =>
      cases others with
      | nil => rfl
      | cons other others =>
          rw [toList_exclusionClause_cons] at heq
          cases heq
  | cons name names =>
      cases others with
      | nil =>
          rw [toList_exclusionClause_cons] at heq
          cases heq
      | cons other others =>
          rw [toList_exclusionClause_cons, toList_exclusionClause_cons] at heq
          have hlisting := List.append_cancel_left heq
          -- nothing comes after the last name
          obtain ⟨hnames, -⟩ := listing_append_inj (fun name hname => (h name hname).isInside)
            (fun name hname => (hothers name hname).isInside) (Text.stops_nil _) (by simp)
            (Text.stops_nil _) (by simp) (congrArg (· ++ []) hlisting)
          exact hnames

/-- The kind of the value, read off the clauses: the second character is that of `with` when there
is one, and a brace after this word opens a list of entries. -/
def kindOfClauses (text : List Char) : OptionKind :=
  if text[1]? = some 'w' then
    if text[6]? = some '\x7b' then .entries else .single
  else .flag

theorem kindOfClauses_clauses {value : OptionValue} (h : ∀ word ∈ value.words, IsWord word)
    (excluded : List String) : kindOfClauses (clauses value excluded) = value.kind := by
  cases value with
  | flag =>
      cases excluded with
      | nil => rfl
      | cons name names =>
          change kindOfClauses (exclusionClause (name :: names)).toList = .flag
          rw [toList_exclusionClause_cons]
          rfl
  | single value =>
      have hvalue := h value List.mem_cons_self
      -- what a list of entries would have its brace for is here the beginning of the value
      have hbrace : (clauses (.single value) excluded)[6]? = value.toList.head? := by
        rw [clauses_single]
        cases hchars : value.toList with
        | nil => exact absurd hchars hvalue.isInside.1
        | cons char chars => rfl
      rw [kindOfClauses, hbrace, if_neg hvalue.head?_ne_brace, clauses_single]
      rfl
  | entries entries =>
      rw [clauses_entries]
      rfl

/-- The value and the excluded names are determined by the clauses. -/
theorem clauses_inj {value other : OptionValue} {excluded others : List String}
    (hvalue : ∀ word ∈ value.words, IsWord word) (hother : ∀ word ∈ other.words, IsWord word)
    (hexcluded : ∀ name ∈ excluded, IsWord name) (hothers : ∀ name ∈ others, IsWord name)
    (heq : clauses value excluded = clauses other others) :
    value = other ∧ excluded = others := by
  -- the kinds are equal, which leaves the three cases of one kind
  have hkind : value.kind = other.kind := by
    rw [← kindOfClauses_clauses hvalue excluded, heq, kindOfClauses_clauses hother others]
  obtain ⟨hstops, -⟩ := stops_exclusionClause excluded
  obtain ⟨hotherStops, -⟩ := stops_exclusionClause others
  cases value with
  | flag =>
      cases other with
      | flag => exact ⟨rfl, exclusionClause_inj hexcluded hothers heq⟩
      | single otherValue => cases hkind
      | entries otherEntries => cases hkind
  | single value =>
      cases other with
      | flag => cases hkind
      | single otherValue =>
          rw [clauses_single, clauses_single] at heq
          obtain ⟨hchars, hclause⟩ := Text.append_inj_of_stops
            (hvalue value List.mem_cons_self).isInside.2
            (hother otherValue List.mem_cons_self).isInside.2 hstops hotherStops
            (List.append_cancel_left heq)
          rw [String.toList_inj.1 hchars, exclusionClause_inj hexcluded hothers hclause]
          exact ⟨rfl, rfl⟩
      | entries otherEntries => cases hkind
  | entries entries =>
      cases other with
      | flag => cases hkind
      | single otherValue => cases hkind
      | entries otherEntries =>
          rw [clauses_entries, clauses_entries] at heq
          have hentries := List.forall_mem_flatMap.1 hvalue
          have hotherEntries := List.forall_mem_flatMap.1 hother
          -- the closing brace ends the last entry, and it comes at once when there is none
          obtain ⟨htexts, hrest⟩ := listing_append_inj
            (List.forall_mem_map.2 fun entry hentry => MapEntry.isInside_text (hentries entry hentry))
            (List.forall_mem_map.2 fun entry hentry => MapEntry.isInside_text (hotherEntries entry hentry))
            (Text.stops_cons rfl _) (by simp) (Text.stops_cons rfl _) (by simp)
            (List.append_cancel_left heq)
          rw [MapEntry.map_text_inj hentries hotherEntries htexts,
            exclusionClause_inj hexcluded hothers ((List.cons_inj_right _).1 hrest)]
          exact ⟨rfl, rfl⟩

/-! ## Options -/

theorem toList_render (option : AppliedOption) :
    option.render.toList = option.name.toList ++ ' ' :: ((listing option.entities).toList ++
      clauses option.value option.excluded) := by
  simp [render, clauses]

/-- Options whose words are free of delimiters are written alike only if they are the same: same
name, same entities, same value, same entities left out, all in the same order. -/
theorem render_eq_iff {option other : AppliedOption} (h : ∀ word ∈ option.words, IsWord word)
    (hother : ∀ word ∈ other.words, IsWord word) :
    option.render = other.render ↔ option = other := by
  constructor
  · intro heq
    obtain ⟨name, entities, excluded, value⟩ := option
    obtain ⟨otherName, otherEntities, otherExcluded, otherValue⟩ := other
    simp only [words, List.forall_mem_cons, List.forall_mem_append] at h hother
    obtain ⟨hname, ⟨hentities, hvalue⟩, hexcluded⟩ := h
    obtain ⟨hotherName, ⟨hotherEntities, hotherValue⟩, hotherExcluded⟩ := hother
    have hchars := congrArg String.toList heq
    rw [toList_render, toList_render] at hchars
    -- the name ends at the first blank, the entities where the clauses begin
    obtain ⟨hnames, hrest⟩ := Text.append_inj_of_stops hname.isInside.2 hotherName.isInside.2
      (Text.stops_cons rfl _) (Text.stops_cons rfl _) hchars
    obtain ⟨hstops, hend⟩ := stops_clauses value excluded
    obtain ⟨hotherStops, hotherEnd⟩ := stops_clauses otherValue otherExcluded
    obtain ⟨rfl, hclauses⟩ := listing_append_inj
      (fun entity hentity => (hentities entity hentity).isInside)
      (fun entity hentity => (hotherEntities entity hentity).isInside)
      hstops hend hotherStops hotherEnd ((List.cons_inj_right _).1 hrest)
    obtain ⟨rfl, rfl⟩ := clauses_inj hvalue hotherValue hexcluded hotherExcluded hclauses
    rw [String.toList_inj.1 hnames]
  · intro heq
    rw [heq]

/-- The words of a clause are words like any other: an entity that is called like the beginning of a
value is not taken for one, and a value that is called like the beginning of the excluded names is
not either. Repeated names leave the option and its written form as they are. -/
theorem render_eq_iff_keywords :
    (AppliedOption.of "dto" .flag ["with", "except"] []).render ≠
      (AppliedOption.of "dto" (.single "except") [] []).render ∧
    (AppliedOption.of "dto" (.single "except") ["with", "with"] ["A"]).render =
      "dto with with except except A" ∧
    AppliedOption.of "dto" (.single "except") ["with", "with"] ["A"] =
      AppliedOption.of "dto" (.single "except") ["with"] ["A", "A"] := by
  refine ⟨?_, rfl, ?_⟩
  · rw [ne_eq, render_eq_iff (by decide) (by decide)]
    decide
  · exact (render_eq_iff (by decide) (by decide)).1 rfl

end AppliedOption

end DomainModel
