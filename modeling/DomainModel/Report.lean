import DomainModel.Build.Failure

/-!
# Reports

A report is what a host shows of a failure or of an issue: a text, and where there is one a code, a
severity, a word of help, ranges of the source and a cause. A failed build has one report for each
of its diagnostics, every other failure one for itself.

## What this module delivers

- `Range`, `Label.range?`: a label by offset and length.
- `Report`, with `text?`, `code?`, `severity?`, `help?`, `ranges?`, `hasSource`, `cause?`.
- `Failure.reports`, `issueReports`: the reports of a failure, and of a list of issues.
-/

set_option autoImplicit false

namespace DomainModel

/-- A remark on a range of the source, by offset and length. -/
structure Range where
  /-- Offset of the first byte. -/
  offset : Nat
  /-- Number of bytes. -/
  length : Nat
  /-- The remark. -/
  message : String
  /-- Whether the range is the cause of the finding. -/
  primary : Bool
  deriving DecidableEq, Repr

/-- A label by offset and length; there is none for a span that ends before it starts. -/
def Label.range? (label : Label) : Option Range :=
  label.span.length?.map fun length => ⟨label.span.start, length, label.message, label.primary⟩

/-- What a host shows. -/
inductive Report where
  /-- A diagnostic, with the source its labels refer to. -/
  | finding (diagnostic : Diagnostic) (source : String)
  /-- A failure other than a failed build. -/
  | failure (failure : Failure)

namespace Report

/-- The text of a report: a diagnostic shows its bare message. -/
def text? : Report → Option String
  | .finding diagnostic _ => some diagnostic.message
  | .failure failed => failed.message?

/-- The code of a report. -/
def code? : Report → Option String
  | .finding diagnostic _ => diagnostic.code.map ErrorCode.text
  | .failure (.file _) => some "jdl::io"
  | .failure .settings => some "jdl::config"
  | .failure (.build _ _) => none

/-- The severity of a report. -/
def severity? : Report → Option Severity
  | .finding diagnostic _ => some diagnostic.severity
  | .failure _ => none

/-- The word of help of a report. -/
def help? : Report → Option String
  | .finding diagnostic _ => diagnostic.help
  | .failure _ => none

/-- The ranges of a report, if all its labels have one. -/
def ranges? : Report → Option (List Range)
  | .finding diagnostic _ => diagnostic.labels.mapM Label.range?
  | .failure _ => some []

/-- Whether a source comes with the report. -/
def hasSource : Report → Bool
  | .finding _ _ => true
  | .failure _ => false

/-- The wording of what lies behind a report. -/
def cause? : Report → Option String
  | .failure (.file cause) => some cause.message
  | _ => none

end Report

/-- The reports of issues in a source. -/
def issueReports (issues : List Diagnostic) (source : String) : List Report :=
  issues.map fun issue => .finding issue source

/-- The reports of a failure. -/
def Failure.reports : Failure → List Report
  | .build diagnostics source => issueReports diagnostics source
  | failed => [.failure failed]

end DomainModel
