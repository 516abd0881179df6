import DomainModel.Toml.Table

/-!
# TOML numbers, truth values and dates

A value without quotes or brackets is one word. The functions of this module decide which value a
word means, if any.

## What this module delivers

- `grouped?`: digits, with underscores allowed between two of them.
- `integer?`, `float?`: numbers.
- `hasIntegerForm`: words that pass for an integer as long as nothing reads them.
- `isDate`, `isTime`, `isOffset`, `isMoment`: dates and times, fields checked for their ranges.
- `scalar?`: the value of a word.
- `fitsWidest`, `isFinite`, `Value.inRange`: whether the numbers of a value fit the widest types
  they may be read into.
-/

set_option autoImplicit false

namespace DomainModel.Toml

/-! ## Numbers -/

/-- The digits of a text that consists of digits with single underscores between them. -/
def grouped? (isDigit : Char → Bool) : List Char → Option (List Char)
  | [] => none
  | [c] => if isDigit c then some [c] else none
  | c :: '_' :: rest => if isDigit c then (grouped? isDigit rest).map (c :: ·) else none
  | c :: rest => if isDigit c then (grouped? isDigit rest).map (c :: ·) else none

/-- The number that digits mean in a base; letters count from ten on. -/
def ofDigits (base : Nat) (digits : List Char) : Nat :=
  digits.foldl (fun n c =>
    base * n + (if c.isDigit then c.toNat - '0'.toNat else c.toLower.toNat - 'a'.toNat + 10)) 0

/-- The digits of a decimal number without a leading zero. -/
def decimalDigits? (text : List Char) : Option (List Char) :=
  match grouped? Char.isDigit text with
  | some ('0' :: _ :: _) => none
  | digits? => digits?

/-- The sign of a number, if one is written, and what follows it. -/
def sign : List Char → Int × List Char
  | '+' :: rest => (1, rest)
  | '-' :: rest => (-1, rest)
  | text => (1, text)

/-- Whether a character is a hexadecimal digit. -/
def isHexDigit (c : Char) : Bool :=
  c.isDigit || ('a' ≤ c && c ≤ 'f') || ('A' ≤ c && c ≤ 'F')

/-- The integer that a word means: decimal with an optional sign, or hexadecimal, octal or binary
without one. -/
def integer? : List Char → Option Int
  | '0' :: 'x' :: rest => (grouped? isHexDigit rest).map fun ds => ofDigits 16 ds
  | '0' :: 'o' :: rest =>
      (grouped? (fun c => '0' ≤ c && c ≤ '7') rest).map fun ds => ofDigits 8 ds
  | '0' :: 'b' :: rest =>
      (grouped? (fun c => c == '0' || c == '1') rest).map fun ds => ofDigits 2 ds
  | text =>
      let (factor, unsigned) := sign text
      (decimalDigits? unsigned).map fun ds => factor * ofDigits 10 ds

/-! ## Words with the form of an integer

A number is worked out when it is read, not when the document is. Before that, a word that can
only be meant as an integer passes for one: its first digits and its underscores have to be right,
the other characters are not looked at. -/

/-- Whether every underscore stands between two hexadecimal digits; `before` says whether one
stands before the text. -/
def underscoresJoin : Bool → List Char → Bool
  | _, [] => true
  | before, '_' :: next :: rest => before && isHexDigit next && underscoresJoin true rest
  | _, ['_'] => false
  | _, c :: rest => underscoresJoin (isHexDigit c) rest

/-- Whether a text starts with digits, the first of them no zero, and goes on with an underscore,
all underscores are well placed, and there is no point, letter of an exponent or blank in it. -/
def isGroupedLoosely (text : List Char) : Bool :=
  let digits := text.takeWhile Char.isDigit
  let rest := text.dropWhile Char.isDigit
  !digits.isEmpty && digits.head? != some '0' && rest.head? == some '_'
    && underscoresJoin true rest
    && !rest.any fun c => c == '.' || c == 'e' || c == 'E' || c == ' '

/-- Whether a word has the form of an integer: the mark of a base alone, or loosely grouped digits
with an optional sign. -/
def hasIntegerForm : List Char → Bool
  | ['0', 'x'] | ['0', 'o'] | ['0', 'b'] => true
  | text => isGroupedLoosely (sign text).2

/-! ## Floats -/

/-- The exponent of a float: empty, or the letter and digits with an optional sign. -/
def exponent? : List Char → Option Int
  | [] => some 0
  | c :: rest =>
      if c == 'e' || c == 'E' then
        let (factor, unsigned) := sign rest
        (grouped? Char.isDigit unsigned).map fun ds => factor * ofDigits 10 ds
      else none

/-- The float that a word means: whole digits, then fraction digits or an exponent or both; or one
of the special words. -/
def float? (text : List Char) : Option Value := do
  let (factor, unsigned) := sign text
  if unsigned = ['i', 'n', 'f'] ∨ unsigned = ['n', 'a', 'n'] then return .special
  let belongs := fun c : Char => c.isDigit || c == '_'
  let whole ← decimalDigits? (unsigned.takeWhile belongs)
  match unsigned.dropWhile belongs with
  | [] => none
  | '.' :: rest =>
      let fraction ← grouped? Char.isDigit (rest.takeWhile belongs)
      let exponent ← exponent? (rest.dropWhile belongs)
      return .float (factor * ofDigits 10 (whole ++ fraction)) (exponent - fraction.length)
  | rest =>
      let exponent ← exponent? rest
      return .float (factor * ofDigits 10 whole) exponent

/-! ## Dates and times -/

/-- The number of days of a month. -/
def daysOfMonth (year month : Nat) : Nat :=
  if month = 2 then
    if year % 4 = 0 ∧ (year % 100 ≠ 0 ∨ year % 400 = 0) then 29 else 28
  else if month = 4 ∨ month = 6 ∨ month = 9 ∨ month = 11 then 30
  else 31

/-- Whether a text is a date: year, month and day. -/
def isDate : List Char → Bool
  | [y1, y2, y3, y4, '-', m1, m2, '-', d1, d2] =>
      let year := ofDigits 10 [y1, y2, y3, y4]
      let month := ofDigits 10 [m1, m2]
      let day := ofDigits 10 [d1, d2]
      [y1, y2, y3, y4, m1, m2, d1, d2].all Char.isDigit
        && 1 ≤ month && month ≤ 12 && 1 ≤ day && day ≤ daysOfMonth year month
  | _ => false

/-- Whether two characters are a number below a limit. -/
def isBelow (limit : Nat) (a b : Char) : Bool :=
  a.isDigit && b.isDigit && ofDigits 10 [a, b] < limit

/-- Whether a text is a fraction of a second, the empty one included. -/
def isFraction : List Char → Bool
  | [] => true
  | c :: rest => c == '.' && !rest.isEmpty && rest.all Char.isDigit

/-- Whether a text is a time: hour and minute, then optionally a second with a fraction. A leap
second is a second. -/
def isTime : List Char → Bool
  | [h1, h2, ':', m1, m2] => isBelow 24 h1 h2 && isBelow 60 m1 m2
  | h1 :: h2 :: ':' :: m1 :: m2 :: ':' :: s1 :: s2 :: rest =>
      isBelow 24 h1 h2 && isBelow 60 m1 m2 && isBelow 61 s1 s2 && isFraction rest
  | _ => false

/-- Whether a text is an offset from universal time. -/
def isOffset : List Char → Bool
  | [c] => c == 'Z' || c == 'z'
  | [s, h1, h2, ':', m1, m2] =>
      (s == '+' || s == '-') && isBelow 24 h1 h2 && isBelow 60 m1 m2
  | _ => false

/-- Whether a character may stand between a date and a time. -/
def isDateSeparator (c : Char) : Bool := c == 'T' || c == 't' || c == ' '

/-- Whether a text is a date, a time, or a date and a time with or without an offset. -/
def isMoment (text : List Char) : Bool :=
  isDate text || isTime text ||
    match text.drop 10 with
    | c :: rest =>
        let belongs := fun c : Char => c.isDigit || c == ':' || c == '.'
        let offset := rest.dropWhile belongs
        isDate (text.take 10) && isDateSeparator c && isTime (rest.takeWhile belongs)
          && (offset.isEmpty || isOffset offset)
    | [] => false

/-! ## Words -/

/-- The value that a word means. -/
def scalar? (word : List Char) : Option Value :=
  if word = ['t', 'r', 'u', 'e'] then some (.boolean true)
  else if word = ['f', 'a', 'l', 's', 'e'] then some (.boolean false)
  else
    ((integer? word).map Value.integer).or
      ((float? word).or
        (if isMoment word then some .moment
          else if hasIntegerForm word then some .malformed
          else none))

/-- Whether an integer fits 128 bits, with or without sign. -/
def fitsWidest (n : Int) : Bool :=
  if n < 0 then n.natAbs ≤ Nat.pow 2 127 else n.natAbs < Nat.pow 2 128

/-- Whether a float is finite in double precision: its magnitude does not round to the first power
of two beyond the largest exponent. Sizes that are far from this limit are told by their number of
digits alone. -/
def isFinite (significand exponent : Int) : Bool :=
  let magnitude := significand.natAbs
  let limit := Nat.pow 2 1024 - Nat.pow 2 970
  let digits : Int := (Nat.toDigits 10 magnitude).length
  if magnitude = 0 ∨ digits + exponent < 300 then true
  else if digits + exponent > 310 then false
  else if exponent < 0 then magnitude < limit * Nat.pow 10 exponent.natAbs
  else magnitude * Nat.pow 10 exponent.natAbs < limit

/-! ## Instances

Words next to the limits of the grammar and of the numbers. -/

section Instances

/-- An underscore stands between two digits. -/
example : scalar? ['1', '_', '0'] = some (.integer 10) := rfl

/-- Two underscores do not. -/
example : scalar? ['1', '_', '_', '0'] = none := rfl

/-- A letter that is a digit of some base passes for one. -/
example : scalar? ['1', '_', 'b'] = some .malformed := rfl

/-- A letter that is not does not. -/
example : scalar? ['1', '_', 'z'] = none := rfl

/-- A decimal number has no leading zero. -/
example : scalar? ['0', '1'] = none := rfl

/-- A year that is no leap year has no twenty-ninth of February. -/
example : isDate ['2', '0', '2', '3', '-', '0', '2', '-', '2', '9'] = false := rfl

/-- The last decimal of this length that rounds to a finite double. -/
example : isFinite 17976931348623158 292 = true := by decide +kernel

/-- The first one that does not. -/
example : isFinite 17976931348623159 292 = false := by decide +kernel

end Instances

/-! ## Ranges in a tree -/

mutual

/-- Whether all numbers of a value fit the types they may be read into. -/
def Value.inRange : Value → Bool
  | .integer n => fitsWidest n
  | .malformed => false
  | .float significand exponent => isFinite significand exponent
  | .array items => allInRange items
  | .tables items => tablesInRange items
  | .table _ entries => entriesInRange entries
  | .string _ | .special | .boolean _ | .moment => true

/-- `Value.inRange` for every value of a list. -/
def allInRange : List Value → Bool
  | [] => true
  | value :: rest => value.inRange && allInRange rest

/-- `Value.inRange` for every value of a list of tables. -/
def tablesInRange : List (List (String × Value)) → Bool
  | [] => true
  | entries :: rest => entriesInRange entries && tablesInRange rest

/-- `Value.inRange` for every value of a table. -/
def entriesInRange : List (String × Value) → Bool
  | [] => true
  | (_, value) :: rest => value.inRange && entriesInRange rest

end

end DomainModel.Toml
