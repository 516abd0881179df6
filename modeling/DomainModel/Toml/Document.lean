import DomainModel.Toml.Scalar
import DomainModel.Toml.Text

/-!
# Reading TOML documents

The reader goes through a text from its first character to its last. Each function takes the input
that is left and returns what it read with the input after it, or nothing when the input is no
document. Brackets may nest to a fixed depth and keys have a fixed number of parts at most; the
recursion through values is bounded by the number of characters that are left.

## What this module delivers

- `Reader`, with `peek`, `expect`, `blanks`, `gap`, `lineEnd`: the small steps.
- `simpleKey`, `key`: keys.
- `value`, `elements`, `pairs`: values, elements of an array, pairs of an inline table.
- `statements`, `parse?`: a whole document.
-/

set_option autoImplicit false

namespace DomainModel.Toml

/-- A step of reading: from the input that is left to a result and the input after it. -/
abbrev Reader := StateT (List Char) Option

namespace Reader

/-! ## Small steps -/

/-- The next character, left in place. -/
def peek : Reader (Option Char) := fun input => some (input.head?, input)

/-- The next character, taken. -/
def take : Reader Char
  | [] => none
  | c :: rest => some (c, rest)

/-- Takes one given character. -/
def expect (c : Char) : Reader Unit := do
  if (← take) = c then return () else failure

/-- Takes the characters of a text when they come next, and says whether they did. -/
def accept (text : List Char) : Reader Bool := fun input =>
  if text.isPrefixOf input then some (true, input.drop text.length) else some (false, input)

/-- Takes characters as long as they have a property. -/
def takeWhile (p : Char → Bool) : Reader (List Char) := fun input =>
  some (input.takeWhile p, input.dropWhile p)

/-- Whether a character is a blank or a tab. -/
def isBlank (c : Char) : Bool := c == ' ' || c == '\t'

/-- Takes blanks and tabs. -/
def blanks : Reader Unit := do
  let _ ← takeWhile isBlank

/-- Takes a comment, if one comes next. -/
def comment : Reader Unit := do
  if (← peek) = some '#' then
    let _ ← takeWhile isPlain

/-- Takes the rest of a line: blanks, a comment, and the end of the line or of the input. -/
def lineEnd : Reader Unit := do
  blanks
  comment
  match ← peek with
  | none => return ()
  | some '\r' => expect '\r'; expect '\n'
  | some _ => expect '\n'

/-- The input after blanks, line ends and comments; `commented` says whether a comment is open. -/
def dropGap : Bool → List Char → List Char
  | _, '\n' :: rest => dropGap false rest
  | _, '\r' :: '\n' :: rest => dropGap false rest
  | false, '#' :: rest => dropGap true rest
  | false, ' ' :: rest | false, '\t' :: rest => dropGap false rest
  | true, c :: rest => if isPlain c then dropGap true rest else c :: rest
  | _, text => text

/-- Takes blanks, line ends and comments. -/
def gap : Reader Unit := modify (dropGap false)

/-! ## Keys -/

/-- Whether a character may stand in a key without quotes. -/
def isBare (c : Char) : Bool := c.isAlphanum || c == '_' || c == '-'

/-- One part of a key: bare, or a string on one line. -/
def simpleKey : Reader String := do
  match ← peek with
  | some '"' => expect '"'; return String.ofList (← basic?)
  | some '\'' => expect '\''; return String.ofList (← literal?)
  | _ =>
      let word ← takeWhile isBare
      if word.isEmpty then failure else return String.ofList word

/-- The parts of a key that follow a first one, each after a dot. -/
def moreKeys : Nat → Reader (List String)
  | 0 => failure
  | fuel + 1 => do
      blanks
      if ← accept ['.'] then
        blanks
        let part ← simpleKey
        return part :: (← moreKeys fuel)
      else return []

/-- How many parts a key may have. -/
def maxParts : Nat := 80

/-- A key, with the blanks after it. -/
def key : Reader Key := do
  let first ← simpleKey
  let rest ← moreKeys ((← get).length + 1)
  let parts := first :: rest
  if parts.length ≤ maxParts then return ⟨parts.dropLast, parts.getLastD first⟩ else failure

/-! ## Values -/

/-- A string, its opening quote next. -/
def string : Reader Value := do
  let chars ←
    if ← accept ['"', '"', '"'] then
      modify dropFirstLineEnd
      multilineBasic? .keep
    else if ← accept ['"'] then basic?
    else if ← accept ['\'', '\'', '\''] then
      modify dropFirstLineEnd
      multilineLiteral?
    else
      expect '\''
      literal?
  return .string (String.ofList chars)

/-- Whether a character may stand in a value that is one word. -/
def isWordChar (c : Char) : Bool :=
  !(['=', ',', '[', ']', '\x7b', '\x7d', '#', ' ', '\t', '\r', '\n'].contains c)

/-- Whether a further part of a word comes after any blanks: one that does not start with a quote
or a dot. -/
def wordGoesOn (input : List Char) : Bool :=
  match (input.dropWhile isBlank).head? with
  | some c => isWordChar c && c != '.' && c != '"' && c != '\''
  | none => false

/-- The word at the start of an input, and the input after it. Blanks belong to the word when it
goes on behind them, as that of a date and a time does. -/
def splitWord : List Char → List Char × List Char
  | [] => ([], [])
  | c :: rest =>
      if isWordChar c || (isBlank c && wordGoesOn rest) then push c (splitWord rest)
      else ([], c :: rest)

/-- A value that is one word. -/
def word : Reader Value := do
  match scalar? (← fun input => some (splitWord input)) with
  | some value => return value
  | none => failure

mutual

/-- A value. The first number bounds the recursion, the second is the number of brackets that may
still be opened. -/
def value : Nat → Nat → Reader Value
  | 0, _ => failure
  | fuel + 1, depth => do
      match ← peek, depth with
      | some '[', 0 | some '\x7b', 0 => failure
      | some '[', depth + 1 => expect '['; return .array (← elements fuel depth)
      | some '\x7b', depth + 1 =>
          expect '\x7b'
          match Value.ofPairs? (← pairs fuel depth) with
          | some table => return table
          | none => failure
      | some '"', _ | some '\'', _ => string
      | _, _ => word

/-- The elements of an array that are left, and the closing bracket. -/
def elements : Nat → Nat → Reader (List Value)
  | 0, _ => failure
  | fuel + 1, depth => do
      gap
      -- a comma may stand after the last element, so the bracket is looked for first
      if ← accept [']'] then return []
      let first ← value fuel depth
      gap
      if ← accept [','] then return first :: (← elements fuel depth)
      expect ']'
      return [first]

/-- The pairs of an inline table that are left, and the closing brace. -/
def pairs : Nat → Nat → Reader (List (Key × Value))
  | 0, _ => failure
  | fuel + 1, depth => do
      gap
      if ← accept ['\x7d'] then return []
      let name ← key
      gap
      expect '='
      gap
      let first ← value fuel depth
      gap
      if ← accept [','] then return (name, first) :: (← pairs fuel depth)
      expect '\x7d'
      return [(name, first)]

end

/-- How many brackets may be open at a time. -/
def maxDepth : Nat := 80

/-! ## Documents -/

/-- One statement, without the end of its line. -/
def statement : Reader Statement := do
  if ← accept ['[', '['] then
    blanks
    let name ← key
    expect ']'
    expect ']'
    return .element name
  else if ← accept ['['] then
    blanks
    let name ← key
    expect ']'
    return .table name
  else
    let name ← key
    expect '='
    blanks
    return .pair name (← value (2 * (← get).length + 2) maxDepth)

/-- The statements that are left, each on a line of its own. -/
def statements : Nat → Reader (List Statement)
  | 0 => failure
  | fuel + 1 => do
      gap
      if (← peek).isNone then return []
      let first ← statement
      lineEnd
      return first :: (← statements fuel)

end Reader

/-- The input without a byte order mark. -/
def dropByteOrderMark : List Char → List Char
  | '\ufeff' :: rest => rest
  | text => text

/-- The table that a document means, if it is one. -/
def parse? (text : String) : Option Entries := do
  let input := dropByteOrderMark text.toList
  let (statements, _) ← (Reader.statements (input.length + 1)).run input
  Entries.ofStatements? statements

end DomainModel.Toml
