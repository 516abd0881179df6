import DomainModel.Declared.Relationship
import DomainModel.Proofs.Separators

/-!
# Comments and their bodies

A comment is written with a slash and stars in front of its body and stars and a slash behind it.
Documentation is the body alone, and it should not matter how many stars there are. Both markers are
taken off by looking at one end of the text, the opening one first, and an opening run of stars ends
where the body begins. So a body is got back if there is one (`stripComment_written`). In a comment
without a body the opening run goes on into the closing one, no star is left for the closing marker,
and its slash stays as if it were the body (`stripComment_written_nil`).

## What this module delivers

- `writtenComment`: a comment with given numbers of stars around a body.
- `dropCommentOpener_stars`, `dropCloser_stars`: one marker taken off one end.
- `Documents`: the documentation that a comment gives to whatever it stands before.
- `documents_writtenComment`: the body of a comment, exactly when it has one.
- `empty_comment_leaves_slash`: the least comment without a body.
-/

set_option autoImplicit false

namespace DomainModel

namespace Text

/-! ## Markers -/

/-- The characters of a comment: a slash, a run of stars, the body, a run of stars, a slash. -/
def writtenChars (opening : Nat) (body : List Char) (closing : Nat) : List Char :=
  '/' :: (List.replicate opening '*' ++ (body ++ (List.replicate closing '*' ++ ['/'])))

/-- The text of a comment with these numbers of stars around its body. -/
def writtenComment (opening : Nat) (body : String) (closing : Nat) : String :=
  String.ofList (writtenChars opening body.toList closing)

/-- A run of stars is dropped as a whole when no star follows it. -/
theorem dropWhile_stars (count : Nat) {rest : List Char} (h : rest.head? ≠ some '*') :
    (List.replicate count '*' ++ rest).dropWhile (· == '*') = rest := by
  have hstars : ∀ char ∈ List.replicate count '*', (char == '*') = true := by
    intro char hchar
    rw [List.eq_of_mem_replicate hchar]
    rfl
  have hrest : Stops (· == '*') rest := by
    intro char hchar
    rw [beq_eq_false_iff_ne]
    rintro rfl
    exact h hchar
  exact dropWhile_append_of_stops hstars hrest

/-- An opening marker goes with all its stars. -/
theorem dropCommentOpener_stars {opening : Nat} (hopening : 0 < opening) {rest : List Char}
    (hrest : rest.head? ≠ some '*') :
    dropCommentOpener ('/' :: (List.replicate opening '*' ++ rest)) = rest := by
  obtain ⟨count, rfl⟩ := Nat.exists_eq_add_of_lt hopening
  rw [Nat.zero_add, List.replicate_succ]
  exact dropWhile_stars count hrest

/-- A closing marker goes with all its stars. -/
theorem dropCloser_stars {closing : Nat} (hclosing : 0 < closing) {text : List Char}
    (htext : text.getLast? ≠ some '*') :
    dropCloser (text ++ (List.replicate closing '*' ++ ['/'])) = text := by
  obtain ⟨count, rfl⟩ := Nat.exists_eq_add_of_lt hclosing
  -- from the right end, the text begins where the run of stars ends
  have hreverse : (text ++ (List.replicate (0 + count + 1) '*' ++ ['/'])).reverse =
      '/' :: '*' :: (List.replicate count '*' ++ text.reverse) := by
    simp [List.replicate_succ']
  have hhead : text.reverse.head? ≠ some '*' := by
    rw [List.head?_reverse]
    exact htext
  rw [dropCloser, hreverse]
  change ((List.replicate count '*' ++ text.reverse).dropWhile (· == '*')).reverse = text
  rw [dropWhile_stars count hhead, List.reverse_reverse]

/-- A body between the markers is what is left when they are gone. -/
theorem stripComment_written {opening closing : Nat} (hopening : 0 < opening)
    (hclosing : 0 < closing) {body : List Char} (hbody : body ≠ [])
    (hstart : body.head? ≠ some '*') (hend : body.getLast? ≠ some '*') :
    stripComment (writtenChars opening body closing) = body := by
  have hhead : (body ++ (List.replicate closing '*' ++ ['/'])).head? ≠ some '*' := by
    cases body with
    | nil => exact absurd rfl hbody
    | cons first rest => exact hstart
  rw [stripComment, writtenChars, dropCommentOpener_stars hopening hhead,
    dropCloser_stars hclosing hend]

/-- Without a body both runs of stars are one, and the opening marker takes them all. -/
theorem stripComment_written_nil {opening : Nat} (hopening : 0 < opening) (closing : Nat) :
    stripComment (writtenChars opening [] closing) = ['/'] := by
  have hstars : 0 < opening + closing := Nat.add_pos_left hopening closing
  have hhead : ['/'].head? ≠ some '*' := by decide
  rw [stripComment, writtenChars, List.nil_append, ← List.append_assoc,
    List.replicate_append_replicate, dropCommentOpener_stars hstars hhead]
  rfl

end Text

/-! ## Documentation -/

namespace Declared

open Text (comment writtenComment)

/-- A comment with this text documents whatever it stands before with this body. -/
structure Documents (text body : String) : Prop where
  comment : comment text = body
  entity : ∀ entity : Entity, entity.comment.map Token.image = some text →
    entity.toModel.documentation = some body
  field : ∀ field : Field, field.comment.map Token.image = some text →
    field.toModel.documentation = some body
  side : ∀ side : Side, side.comment.map Token.image = some text →
    side.toModel.documentation = some body

/-- Documentation is the stripped comment wherever it stands. -/
theorem documents_comment (text : String) : Documents text (comment text) := by
  have hdocumentation : ∀ written : Option Token, written.map Token.image = some text →
      documentation written = some (comment text) := by
    intro written hwritten
    obtain ⟨token, rfl, rfl⟩ := Option.map_eq_some_iff.1 hwritten
    rfl
  exact ⟨rfl, fun entity => hdocumentation entity.comment,
    fun field => hdocumentation field.comment, fun side => hdocumentation side.comment⟩

/-- The least comment without a body documents an entity with the slash of its closing marker. -/
theorem empty_comment_leaves_slash :
    writtenComment 1 "" 1 = "/**/" ∧ ¬ Documents (writtenComment 1 "" 1) "" ∧
    (Entity.mk [] (some ⟨"/**/", ⟨0, 4⟩⟩) ⟨"A", ⟨12, 13⟩⟩ none []).toModel.documentation =
      some "/" := by
  refine ⟨rfl, ?_, rfl⟩
  intro h
  have hslash : "/" = "" := h.comment
  exact absurd hslash (by decide)

/-- A comment with any number of stars at either end documents what it stands before with its body,
provided it has one and the body has no star at its ends. Without a body the slash of the closing
marker is taken for one. -/
theorem documents_writtenComment {opening closing : Nat} {body : String} (hopening : 0 < opening)
    (hclosing : 0 < closing) (hstart : body.toList.head? ≠ some '*')
    (hend : body.toList.getLast? ≠ some '*') :
    (Documents (writtenComment opening body closing) body ↔ body ≠ "") ∧
    (body = "" → Documents (writtenComment opening body closing) "/") := by
  have hdocuments := documents_comment (writtenComment opening body closing)
  have hempty : body = "" → comment (writtenComment opening body closing) = "/" := by
    rintro rfl
    rw [comment, writtenComment, String.toList_ofList]
    exact congrArg String.ofList (Text.stripComment_written_nil hopening closing)
  refine ⟨⟨?_, ?_⟩, ?_⟩
  · intro h hbody
    have hslash := h.comment
    rw [hempty hbody, hbody] at hslash
    exact absurd hslash (by decide)
  · intro hbody
    have hchars : body.toList ≠ [] := by
      intro hnil
      exact hbody (String.toList_eq_nil_iff.1 hnil)
    have hcomment : comment (writtenComment opening body closing) = body := by
      rw [comment, writtenComment, String.toList_ofList,
        Text.stripComment_written hopening hclosing hchars hstart hend, String.ofList_toList]
    rwa [hcomment] at hdocuments
  · intro hbody
    rwa [hempty hbody] at hdocuments

/-- Stars, slashes and markers inside a body are left alone. -/
theorem documents_writtenComment_markers :
    writtenComment 3 "/ a */ /* b " 2 = "/***/ a */ /* b **/" ∧
    Documents "/***/ a */ /* b **/" "/ a */ /* b " := by
  refine ⟨rfl, ?_⟩
  have hbody := documents_writtenComment (by decide : 0 < 3) (by decide : 0 < 2)
    (by decide : "/ a */ /* b ".toList.head? ≠ some '*')
    (by decide : "/ a */ /* b ".toList.getLast? ≠ some '*')
  exact hbody.1.2 (by decide)

end Declared

end DomainModel
