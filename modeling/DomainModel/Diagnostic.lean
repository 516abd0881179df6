import DomainModel.Span

/-!
# Diagnostics

A diagnostic is one finding about a program: how grave it is, optionally a code, a message, labels
that point into the source, and optionally a word of help. A build that fails carries one; the
checks of a program that builds carry any number.

## What this module delivers

- `Severity`, `ErrorCode`, `Label`: the parts, each with its written form.
- `Diagnostic`: the whole, made by `error` or `warning` and completed by `withCode`, `withLabel`,
  `withSecondaryLabel` and `withHelp`.
- `Diagnostic.render`: the one-line form, severity, code and message.
-/

set_option autoImplicit false

namespace DomainModel

/-- How grave a finding is. -/
inductive Severity where
  | error
  | warning
  deriving DecidableEq, Repr

/-- The written form of a severity. -/
def Severity.text : Severity → String
  | .error => "error"
  | .warning => "warning"

/-- The kinds of violation that have a code: the first three concern the shape of a program, the
last two the option model. -/
inductive ErrorCode where
  | unknownRelationshipOption
  | unknownCardinality
  | missingValue
  | unknownFamily
  | kindMismatch
  deriving DecidableEq, Repr

namespace ErrorCode

/-- Every code, in the order of the written forms. -/
def all : List ErrorCode :=
  [.unknownRelationshipOption, .unknownCardinality, .missingValue, .unknownFamily, .kindMismatch]

/-- The written form of a code. -/
def text : ErrorCode → String
  | .unknownRelationshipOption => "E100"
  | .unknownCardinality => "E101"
  | .missingValue => "E102"
  | .unknownFamily => "E200"
  | .kindMismatch => "E201"

/-- What a code stands for. -/
def description : ErrorCode → String
  | .unknownRelationshipOption => "unknown relationship option"
  | .unknownCardinality => "unknown relationship cardinality"
  | .missingValue => "binary option without value"
  | .unknownFamily => "unknown option family"
  | .kindMismatch => "option kind mismatch"

/-- The code with a written form. -/
def ofText? (text : String) : Option ErrorCode := all.find? fun code => code.text == text

/-- The written form of a code reads back as that code. -/
@[simp]
theorem ofText?_text (code : ErrorCode) : ofText? code.text = some code := by
  cases code <;> rfl

end ErrorCode

/-- A remark on a range of the source. -/
structure Label where
  /-- The range the remark is about. -/
  span : Span
  /-- The remark. -/
  message : String
  /-- Whether the range is the cause of the finding, not its surroundings. -/
  primary : Bool
  deriving DecidableEq, Repr

/-- One finding about a program. -/
structure Diagnostic where
  /-- How grave the finding is. -/
  severity : Severity
  /-- The code of the kind of violation, if it has one. -/
  code : Option ErrorCode
  /-- What was found. -/
  message : String
  /-- Remarks on the source, in the order they were added. -/
  labels : List Label
  /-- What to do about it, if anything can be said. -/
  help : Option String
  deriving DecidableEq, Repr

namespace Diagnostic

/-- A bare error. -/
def error (message : String) : Diagnostic := ⟨.error, none, message, [], none⟩

/-- A bare warning. -/
def warning (message : String) : Diagnostic := ⟨.warning, none, message, [], none⟩

/-- The diagnostic with a code, in place of any it had. -/
def withCode (diagnostic : Diagnostic) (code : ErrorCode) : Diagnostic :=
  { diagnostic with code := some code }

/-- The diagnostic with one more primary label. -/
def withLabel (diagnostic : Diagnostic) (span : Span) (message : String) : Diagnostic :=
  { diagnostic with labels := diagnostic.labels ++ [⟨span, message, true⟩] }

/-- The diagnostic with one more secondary label. -/
def withSecondaryLabel (diagnostic : Diagnostic) (span : Span) (message : String) : Diagnostic :=
  { diagnostic with labels := diagnostic.labels ++ [⟨span, message, false⟩] }

/-- The diagnostic with a word of help, in place of any it had. -/
def withHelp (diagnostic : Diagnostic) (help : String) : Diagnostic :=
  { diagnostic with help := some help }

/-- Severity, code in brackets if there is one, and message. -/
def render (diagnostic : Diagnostic) : String :=
  let code := match diagnostic.code with
    | some code => "[" ++ code.text ++ "]"
    | none => ""
  diagnostic.severity.text ++ code ++ ": " ++ diagnostic.message

end Diagnostic

end DomainModel
