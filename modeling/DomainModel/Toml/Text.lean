/-!
# TOML strings and keys

Strings come in four forms: with escapes or literal, on one line or on several. The functions of
this module read what follows the opening quotes and return the text and the rest of the input.

## What this module delivers

- `isPlain`: the characters that stand for themselves in comments and strings.
- `escape?`: the character that an escape sequence stands for.
- `basic?`, `literal?`: strings on one line.
- `multilineBasic?`, `multilineLiteral?`: strings on several lines.
-/

set_option autoImplicit false

namespace DomainModel.Toml

/-- Whether a character stands for itself in comments and strings: a tab, or no control
character. -/
def isPlain (c : Char) : Bool := c == '\t' || (c.toNat ≥ 0x20 && c.toNat != 0x7F)

/-- The value of a hexadecimal digit. -/
def hexDigit? (c : Char) : Option Nat :=
  if c.isDigit then some (c.toNat - '0'.toNat)
  else if 'a' ≤ c ∧ c ≤ 'f' then some (c.toNat - 'a'.toNat + 10)
  else if 'A' ≤ c ∧ c ≤ 'F' then some (c.toNat - 'A'.toNat + 10)
  else none

/-- The character with a number written in hexadecimal digits, if there is one. -/
def hexChar? (digits : List Char) : Option Char := do
  let values ← digits.mapM hexDigit?
  let code := values.foldl (fun n d => 16 * n + d) 0
  if code.isValidChar then some (Char.ofNat code) else none

/-- The character that one letter after a backslash stands for. -/
def escape? : Char → Option Char
  | 'b' => some '\x08'
  | 't' => some '\t'
  | 'n' => some '\n'
  | 'f' => some '\x0c'
  | 'r' => some '\r'
  | 'e' => some '\x1b'
  | '"' => some '"'
  | '\\' => some '\\'
  | _ => none

/-- A character in front of the text that was read. -/
def push (c : Char) (read : List Char × List Char) : List Char × List Char :=
  (c :: read.1, read.2)

/-- A string with escapes on one line, after its opening quote. -/
def basic? : List Char → Option (List Char × List Char)
  | '"' :: rest => some ([], rest)
  | '\\' :: 'x' :: a :: b :: rest => do
      return push (← hexChar? [a, b]) (← basic? rest)
  | '\\' :: 'u' :: a :: b :: c :: d :: rest => do
      return push (← hexChar? [a, b, c, d]) (← basic? rest)
  | '\\' :: 'U' :: a :: b :: c :: d :: e :: f :: g :: h :: rest => do
      return push (← hexChar? [a, b, c, d, e, f, g, h]) (← basic? rest)
  | '\\' :: c :: rest => do return push (← escape? c) (← basic? rest)
  | c :: rest => if isPlain c then (basic? rest).map (push c) else none
  | [] => none

/-- A literal string on one line, after its opening quote. -/
def literal? : List Char → Option (List Char × List Char)
  | '\'' :: rest => some ([], rest)
  | c :: rest => if isPlain c then (literal? rest).map (push c) else none
  | [] => none

/-- What a string on several lines does with blanks and line ends: keep them, expect a line end
after a backslash, or drop them after such a line end. -/
inductive Folding where
  | keep
  | expect
  | drop
  deriving DecidableEq, Repr

/-- A string with escapes on several lines, after its opening quotes. Up to two quotes may stand
directly before the closing three. -/
def multilineBasic? : Folding → List Char → Option (List Char × List Char)
  | folding, '\n' :: rest =>
      if folding = .keep then (multilineBasic? .keep rest).map (push '\n')
      else multilineBasic? .drop rest
  | folding, '\r' :: '\n' :: rest =>
      if folding = .keep then (multilineBasic? .keep rest).map (push '\n')
      else multilineBasic? .drop rest
  | .expect, ' ' :: rest | .expect, '\t' :: rest => multilineBasic? .expect rest
  | .drop, ' ' :: rest | .drop, '\t' :: rest => multilineBasic? .drop rest
  -- from here on the folding is `keep` or `drop`, and both take the next character
  | .expect, _ => none
  | _, '"' :: '"' :: '"' :: '"' :: '"' :: rest => some (['"', '"'], rest)
  | _, '"' :: '"' :: '"' :: '"' :: rest => some (['"'], rest)
  | _, '"' :: '"' :: '"' :: rest => some ([], rest)
  | _, '\\' :: 'x' :: a :: b :: rest => do
      return push (← hexChar? [a, b]) (← multilineBasic? .keep rest)
  | _, '\\' :: 'u' :: a :: b :: c :: d :: rest => do
      return push (← hexChar? [a, b, c, d]) (← multilineBasic? .keep rest)
  | _, '\\' :: 'U' :: a :: b :: c :: d :: e :: f :: g :: h :: rest => do
      return push (← hexChar? [a, b, c, d, e, f, g, h]) (← multilineBasic? .keep rest)
  | _, '\\' :: ' ' :: rest | _, '\\' :: '\t' :: rest => multilineBasic? .expect rest
  | _, '\\' :: '\n' :: rest | _, '\\' :: '\r' :: '\n' :: rest => multilineBasic? .drop rest
  | _, '\\' :: c :: rest => do return push (← escape? c) (← multilineBasic? .keep rest)
  | _, c :: rest => if isPlain c then (multilineBasic? .keep rest).map (push c) else none
  | _, [] => none

/-- A literal string on several lines, after its opening quotes. -/
def multilineLiteral? : List Char → Option (List Char × List Char)
  | '\'' :: '\'' :: '\'' :: '\'' :: '\'' :: rest => some (['\'', '\''], rest)
  | '\'' :: '\'' :: '\'' :: '\'' :: rest => some (['\''], rest)
  | '\'' :: '\'' :: '\'' :: rest => some ([], rest)
  | '\n' :: rest => (multilineLiteral? rest).map (push '\n')
  | '\r' :: '\n' :: rest => (multilineLiteral? rest).map (push '\n')
  | c :: rest => if isPlain c then (multilineLiteral? rest).map (push c) else none
  | [] => none

/-- The input without a line end directly after opening quotes. -/
def dropFirstLineEnd : List Char → List Char
  | '\n' :: rest => rest
  | '\r' :: '\n' :: rest => rest
  | text => text

end DomainModel.Toml
