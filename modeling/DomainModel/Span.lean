/-!
# Source locations and tokens

A token is the text of a leaf of the source together with the byte range it was read from. The
range is carried for messages only: two located values are compared by their values.

## What this module delivers

- `Span`: a byte range, with `union`, `isEmpty`, `length?` and the cover of a list of ranges.
- `Located`: a value with its range, compared by value.
- `Token`: a located text; `ofImage` makes one of its text alone, `images` and `dotted` read lists
  of them.
-/

set_option autoImplicit false

namespace DomainModel

/-- A byte range of the source: from `start` up to, not including, `stop`. -/
structure Span where
  /-- Offset of the first byte. -/
  start : Nat
  /-- Offset after the last byte. -/
  stop : Nat
  deriving DecidableEq, Repr

namespace Span

/-- The least range that reaches from the smaller start to the larger end. -/
def union (s t : Span) : Span := ⟨min s.start t.start, max s.stop t.stop⟩

/-- Whether the range ends where it starts. -/
def isEmpty (s : Span) : Bool := s.start == s.stop

/-- The number of bytes in the range; a range that ends before it starts has none to give. -/
def length? (s : Span) : Option Nat :=
  if s.start ≤ s.stop then some (s.stop - s.start) else none

/-- The union of all ranges of a list, if there is one. -/
def cover? : List Span → Option Span
  | [] => none
  | s :: rest => some (rest.foldl union s)

end Span

/-- A value with the range it was read from. -/
structure Located (α : Type) where
  /-- What was read. -/
  value : α
  /-- Where it was read. -/
  span : Span

namespace Located

/-- Located values are compared by value; where they stand does not count. -/
instance {α : Type} [BEq α] : BEq (Located α) := ⟨fun a b => a.value == b.value⟩

end Located

/-- A leaf of the source: its text as written, delimiters included, and its location. -/
abbrev Token := Located String

namespace Token

/-- The text of a token, as written. -/
def image (token : Token) : String := token.value

/-- An image on its own, as if it stood at the start of the source. -/
def ofImage (image : String) : Token := ⟨image, ⟨0, image.utf8ByteSize⟩⟩

/-- The texts of a list of tokens. -/
def images (tokens : List Token) : List String := tokens.map image

/-- The texts of a list of tokens as one dotted name. -/
def dotted (tokens : List Token) : String := ".".intercalate (images tokens)

end Token

end DomainModel
