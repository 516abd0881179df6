import DomainModel.Diagnostic
import DomainModel.Model.Relationship
import DomainModel.Options.Family

/-!
# Violations

A violation is the cause for which a program has no document. It keeps the tokens it is about;
code, wording and labels are read off it, so that what is wrong and how it is told stay apart.

## What this module delivers

- `Violation`: the causes.
- `derivedIdentifier`: the one option keyword of relationships.
- `Violation.code`, `message`, `labels`, `help`: what is told of a cause.
- `Violation.diagnostic`: all of it as one diagnostic.
-/

set_option autoImplicit false

namespace DomainModel

/-- The only option keyword that a relationship accepts. -/
def derivedIdentifier : String := "jpaDerivedIdentifier"

/-- Why a program has no document. -/
inductive Violation where
  /-- The type of a relationship block is no cardinality. -/
  | unknownCardinality (type : Token)
  /-- A relationship has an option keyword it does not accept; `sides` covers the names of its two
  sides. -/
  | unknownRelationshipOption (keyword : Token) (sides : Span)
  /-- The name of an option declaration does not fit the option families. -/
  | refusedOption (option : Token) (cause : OptionError)
  /-- A value-bearing declaration has an empty selector. -/
  | missingValue (option : Token)

namespace Violation

/-- The code of a violation. -/
def code : Violation → ErrorCode
  | .unknownCardinality _ => .unknownCardinality
  | .unknownRelationshipOption _ _ => .unknownRelationshipOption
  | .refusedOption _ (.unknownFamily _) => .unknownFamily
  | .refusedOption _ (.kindMismatch _ _ _) => .kindMismatch
  | .missingValue _ => .missingValue

/-- The wording of a violation. -/
def message : Violation → String
  | .unknownCardinality type => Cardinality.unknownMessage type.image
  | .unknownRelationshipOption keyword _ =>
      "unknown relationship option `" ++ keyword.image ++ "`"
  | .refusedOption _ cause => cause.message
  | .missingValue option => "option `" ++ option.image ++ "` has no value"

/-- The labels of a violation, the offending token first. -/
def labels : Violation → List Label
  | .unknownCardinality type => [⟨type.span, "not a relationship cardinality", true⟩]
  | .unknownRelationshipOption keyword sides =>
      [⟨keyword.span, "not a relationship option", true⟩, ⟨sides, "in this relationship", false⟩]
  | .refusedOption option (.unknownFamily _) => [⟨option.span, "not an option family", true⟩]
  | .refusedOption option (.kindMismatch _ expected _) =>
      [⟨option.span, "expected a " ++ expected.text ++ " declaration", true⟩]
  | .missingValue option => [⟨option.span, "value-bearing option", true⟩]

/-- What to do about a violation. -/
def help : Violation → Option String
  | .unknownCardinality _ =>
      some "expected one of `OneToOne`, `OneToMany`, `ManyToOne` or `ManyToMany`"
  | .unknownRelationshipOption _ _ =>
      some ("the only relationship option is `" ++ derivedIdentifier ++ "`")
  | .refusedOption _ _ => none
  | .missingValue _ => some "declare the value with `with <value>`"

/-- A violation as an error with code, labels and help. -/
def diagnostic (violation : Violation) : Diagnostic where
  severity := .error
  code := some violation.code
  message := violation.message
  labels := violation.labels
  help := violation.help

end Violation

end DomainModel
