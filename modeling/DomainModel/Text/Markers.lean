/-!
# Markers around a literal

The text of a literal still carries what encloses it: a comment its slashes and stars, a data
block its opener and closer, a quoted text or a pattern one delimiter on each side. The functions
of this module take these off. They work on the characters of the text; the forms on `String`
come last.

## What this module delivers

- `dropCommentOpener`, `dropDataOpener`, `dropCloser`: one marker at one end of the text.
- `stripComment`, `stripDataBlock`: opener first, then the closer of what is left.
- `stripDelimiters`: one character at each end.
- `comment`, `dataBlock`, `delimited`: the same on `String`.
-/

set_option autoImplicit false

namespace DomainModel.Text

/-- Drops an opening comment marker: a slash and the whole run of stars after it. -/
def dropCommentOpener : List Char → List Char
  | '/' :: '*' :: rest => rest.dropWhile (· == '*')
  | text => text

/-- Drops an opening data marker: a slash, a star and a number sign. -/
def dropDataOpener : List Char → List Char
  | '/' :: '*' :: '#' :: rest => rest
  | text => text

/-- Drops a closing marker: the final slash and the whole run of stars before it. -/
def dropCloser (text : List Char) : List Char :=
  match text.reverse with
  | '/' :: '*' :: rest => (rest.dropWhile (· == '*')).reverse
  | _ => text

/-- The text inside comment markers. The opener goes first, so its run of stars may take the stars
that a closer would need. -/
def stripComment (text : List Char) : List Char := dropCloser (dropCommentOpener text)

/-- The text inside data block markers. -/
def stripDataBlock (text : List Char) : List Char := dropCloser (dropDataOpener text)

/-- The text without its first and last character; nothing is left of a shorter text. -/
def stripDelimiters (text : List Char) : List Char := text.tail.dropLast

/-- The body of a comment. -/
def comment (text : String) : String := String.ofList (stripComment text.toList)

/-- The payload of a data block. -/
def dataBlock (text : String) : String := String.ofList (stripDataBlock text.toList)

/-- The inside of a text with one delimiter on each side. -/
def delimited (text : String) : String := String.ofList (stripDelimiters text.toList)

/-! ## Instances

Texts on which the order of the steps and the least lengths show. -/

section Instances

/-- The opener of an empty comment takes the star that the closer needs, so the slash stays. -/
example : stripComment ['/', '*', '*', '/'] = ['/'] := rfl

/-- A slash without a star before it closes nothing. -/
example : stripComment ['/', '*', 'a', '/'] = ['a', '/'] := rfl

/-- Markers inside a comment stay. -/
example : comment "/** a */ b **/" = " a */ b " := rfl

/-- Of a data block, the opener has one star and the closer any number. -/
example : dataBlock "/*#*a**/" = "*a" := rfl

/-- One character alone is a delimiter. -/
example : delimited "x" = "" := rfl

end Instances

end DomainModel.Text
