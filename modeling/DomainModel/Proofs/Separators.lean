/-!
# Texts taken apart at separators

A text that is put together from words can be taken apart again when it shows where each word ends.
A word ends where a character comes that no word has (`Stops`), and so two texts that go on like
this after their first words have the same first word and the same rest (`append_inj_of_stops`).
Words that are joined by a separator are taken off one after another; the last one ends before
something that is neither part of a word nor the beginning of another separator
(`intercalate_append_inj`).

## What this module delivers

- `Stops`, with `takeWhile_append_of_stops`, `dropWhile_append_of_stops` and `append_inj_of_stops`:
  where a word ends.
- `intercalate_cons`, `mem_of_mem_intercalate`: joined words as the first word and the others, each
  behind a separator, and what stands in them.
- `flatMap_append_inj`, `intercalate_append_inj`: joined words are determined by the text they begin.
- `splitTexts`, `splitTexts_intercalate`: texts joined by one character, and read back.
-/

set_option autoImplicit false

namespace DomainModel.Text

/-! ## One word -/

/-- A rest of a text before which a run of characters with a property ends: it is empty, or its
first character does not have the property. -/
def Stops (p : Char → Bool) (rest : List Char) : Prop := ∀ char ∈ rest.head?, p char = false

theorem stops_nil (p : Char → Bool) : Stops p [] := by
  intro char hchar
  cases hchar

theorem stops_cons {p : Char → Bool} {first : Char} (h : p first = false) (rest : List Char) :
    Stops p (first :: rest) := by
  intro char hchar
  cases hchar
  exact h

section Word

variable {p : Char → Bool} {word other rest otherRest : List Char}

/-- Nothing is taken of a rest before which a run ends. -/
theorem Stops.takeWhile_eq_nil (h : Stops p rest) : rest.takeWhile p = [] := by
  cases rest with
  | nil => rfl
  | cons first rest => simp [h first rfl]

/-- Nothing is dropped of a rest before which a run ends. -/
theorem Stops.dropWhile_eq_self (h : Stops p rest) : rest.dropWhile p = rest := by
  cases rest with
  | nil => rfl
  | cons first rest => simp [h first rfl]

theorem takeWhile_append_of_stops (hword : ∀ char ∈ word, p char = true) (hrest : Stops p rest) :
    (word ++ rest).takeWhile p = word := by
  rw [List.takeWhile_append_of_pos hword, hrest.takeWhile_eq_nil, List.append_nil]

theorem dropWhile_append_of_stops (hword : ∀ char ∈ word, p char = true) (hrest : Stops p rest) :
    (word ++ rest).dropWhile p = rest := by
  rw [List.dropWhile_append_of_pos hword, hrest.dropWhile_eq_self]

/-- A word and what comes after it are determined by the text when the word ends where it must. -/
theorem append_inj_of_stops (hword : ∀ char ∈ word, p char = true)
    (hother : ∀ char ∈ other, p char = true) (hrest : Stops p rest)
    (hotherRest : Stops p otherRest) (h : word ++ rest = other ++ otherRest) :
    word = other ∧ rest = otherRest := by
  constructor
  · rw [← takeWhile_append_of_stops hword hrest, h, takeWhile_append_of_stops hother hotherRest]
  · rw [← dropWhile_append_of_stops hword hrest, h, dropWhile_append_of_stops hother hotherRest]

end Word

/-! ## Joined words -/

/-- Joined words are the first word and then every other one behind a separator. -/
theorem intercalate_cons (separator word : List Char) (words : List (List Char)) :
    separator.intercalate (word :: words) = word ++ words.flatMap (separator ++ ·) := by
  induction words generalizing word with
  | nil => simp
  | cons next words ih => simp [List.intercalate_cons_cons, ih]

/-- What stands in joined words stands in the separator or in a word. -/
theorem mem_of_mem_intercalate {separator : List Char} {words : List (List Char)} {char : Char}
    (h : char ∈ separator.intercalate words) :
    char ∈ separator ∨ ∃ word ∈ words, char ∈ word := by
  cases words with
  | nil => cases h
  | cons word words =>
      rw [intercalate_cons] at h
      rcases List.mem_append.1 h with hword | hothers
      · exact .inr ⟨word, List.mem_cons_self, hword⟩
      · obtain ⟨other, hother, hchar⟩ := List.mem_flatMap.1 hothers
        rcases List.mem_append.1 hchar with hseparator | hmem
        · exact .inl hseparator
        · exact .inr ⟨other, List.mem_cons_of_mem _ hother, hmem⟩

section Words

variable {p : Char → Bool} {first : Char} {separator : List Char}
  {words others : List (List Char)} {rest otherRest : List Char}

/-- A word ends where another one follows behind a separator, and where the last one ends. -/
theorem stops_flatMap_append (hfirst : p first = false) (words : List (List Char))
    (hrest : Stops p rest) :
    Stops p (words.flatMap ((first :: separator) ++ ·) ++ rest) := by
  cases words with
  | nil => exact hrest
  | cons word words => exact stops_cons hfirst _

/-- Words behind separators are determined by a text that goes on with neither. -/
theorem flatMap_append_inj (hfirst : p first = false)
    (hwords : ∀ word ∈ words, ∀ char ∈ word, p char = true)
    (hothers : ∀ word ∈ others, ∀ char ∈ word, p char = true)
    (hrest : Stops p rest) (hend : rest.head? ≠ some first)
    (hotherRest : Stops p otherRest) (hotherEnd : otherRest.head? ≠ some first)
    (h : words.flatMap ((first :: separator) ++ ·) ++ rest =
      others.flatMap ((first :: separator) ++ ·) ++ otherRest) :
    words = others ∧ rest = otherRest := by
  -- on the words of one text, the other one giving up its first word at the same time
  induction words generalizing others with
  | nil =>
      cases others with
      | nil => exact ⟨rfl, h⟩
      | cons other others => exact absurd (congrArg List.head? h) hend
  | cons word words ih =>
      obtain ⟨hword, hwordsTail⟩ := List.forall_mem_cons.1 hwords
      cases others with
      | nil => exact absurd (congrArg List.head? h).symm hotherEnd
      | cons other others =>
          obtain ⟨hother, hothersTail⟩ := List.forall_mem_cons.1 hothers
          have hcancel : word ++ (words.flatMap ((first :: separator) ++ ·) ++ rest) =
              other ++ (others.flatMap ((first :: separator) ++ ·) ++ otherRest) := by
            simpa using h
          obtain ⟨rfl, htail⟩ := append_inj_of_stops hword hother
            (stops_flatMap_append hfirst words hrest)
            (stops_flatMap_append hfirst others hotherRest) hcancel
          obtain ⟨rfl, hrest⟩ := ih hwordsTail hothersTail htail
          exact ⟨rfl, hrest⟩

/-- A text that begins with a word does not begin where a word ends. -/
theorem not_stops_intercalate_cons {word : List Char} (hne : word ≠ [])
    (hword : ∀ char ∈ word, p char = true) (words : List (List Char)) (rest : List Char) :
    ¬ Stops p (separator.intercalate (word :: words) ++ rest) := by
  cases word with
  | nil => exact absurd rfl hne
  | cons char word =>
      intro hstops
      have hfalse : p char = false := hstops char (by simp [intercalate_cons])
      rw [hword char List.mem_cons_self] at hfalse
      cases hfalse

/-- Joined words are determined by the text they begin; that there are none shows too, as words are
not empty. -/
theorem intercalate_append_inj (hfirst : p first = false)
    (hwords : ∀ word ∈ words, word ≠ [] ∧ ∀ char ∈ word, p char = true)
    (hothers : ∀ word ∈ others, word ≠ [] ∧ ∀ char ∈ word, p char = true)
    (hrest : Stops p rest) (hend : rest.head? ≠ some first)
    (hotherRest : Stops p otherRest) (hotherEnd : otherRest.head? ≠ some first)
    (h : (first :: separator).intercalate words ++ rest =
      (first :: separator).intercalate others ++ otherRest) :
    words = others ∧ rest = otherRest := by
  cases words with
  | nil =>
      cases others with
      | nil => exact ⟨rfl, h⟩
      | cons other others =>
          -- the text would have to begin with a word and where a word ends
          obtain ⟨hne, hother⟩ := hothers other List.mem_cons_self
          rw [List.intercalate_nil, List.nil_append] at h
          exact absurd (h ▸ hrest) (not_stops_intercalate_cons hne hother others otherRest)
  | cons word words =>
      obtain ⟨hne, hword⟩ := hwords word List.mem_cons_self
      cases others with
      | nil =>
          rw [List.intercalate_nil, List.nil_append] at h
          exact absurd (h ▸ hotherRest) (not_stops_intercalate_cons hne hword words rest)
      | cons other others =>
          -- the first words stand without a separator, all others behind one
          obtain ⟨-, hother⟩ := hothers other List.mem_cons_self
          rw [intercalate_cons, intercalate_cons, List.append_assoc, List.append_assoc] at h
          obtain ⟨rfl, htail⟩ := append_inj_of_stops hword hother
            (stops_flatMap_append hfirst words hrest)
            (stops_flatMap_append hfirst others hotherRest) h
          obtain ⟨rfl, hrest⟩ := flatMap_append_inj hfirst
            (fun word hmem => (hwords word (List.mem_cons_of_mem _ hmem)).2)
            (fun word hmem => (hothers word (List.mem_cons_of_mem _ hmem)).2)
            hrest hend hotherRest hotherEnd htail
          exact ⟨rfl, hrest⟩

end Words

/-! ## Texts joined by one character -/

/-- The texts between the occurrences of a character. -/
def splitTexts (separator : Char) (text : List Char) : List String :=
  (text.splitOn separator).map String.ofList

/-- Texts without the character that joins them are read back. Here a text may be empty, but there
has to be one: no text and an empty one are joined alike. -/
theorem splitTexts_intercalate {separator : Char} {texts : List String} (hne : texts ≠ [])
    (h : ∀ text ∈ texts, separator ∉ text.toList) :
    splitTexts separator ([separator].intercalate (texts.map String.toList)) = texts := by
  have hchars : ∀ chars ∈ texts.map String.toList, separator ∉ chars := List.forall_mem_map.2 h
  rw [splitTexts, List.splitOn_intercalate separator hchars (by simpa using hne), List.map_map]
  simp [Function.comp_def]

end DomainModel.Text
