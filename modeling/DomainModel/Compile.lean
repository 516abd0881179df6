import DomainModel.Build.Document
import DomainModel.Lint
import DomainModel.Settings

/-!
# Compilations

A compilation builds the document of a program and then, unless the settings say otherwise, checks
its datasets. What the checks find never keeps the document back.

## What this module delivers

- `Compilation`: a document with the findings of the checks.
- `compile`: the compilation of a program, or why there is none.
-/

set_option autoImplicit false

namespace DomainModel

/-- What comes of a program. -/
structure Compilation where
  /-- The document. -/
  document : Document
  /-- What the checks found. -/
  issues : List Diagnostic

/-- The failure of a program with a violation; labels refer to the source. -/
def Violation.failure (source : String) (violation : Violation) : Failure :=
  .build [violation.diagnostic] source

/-- The findings of the rules that always run, unless the checks are switched off. -/
def datasetIssues {ε : Type} (settings : Settings) (datasets : List Declared.Dataset) :
    Traced ε (List Diagnostic) :=
  if settings.checkDatasets then runRules defaultRules datasets
  else ⟨[.checksDisabled], .ok []⟩

/-- Builds the document of a program and checks its datasets. -/
def compile (settings : Settings) (source : String) (program : Declared.Program) :
    Traced Failure Compilation := do
  .emit .compiling
  let document ← program.build.mapError (Violation.failure source)
  .emit .accepted
  .emit (.document document)
  let issues ← datasetIssues settings program.datasets
  .emit (.checksCompleted issues.length)
  return ⟨document, issues⟩

end DomainModel
