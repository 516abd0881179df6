import DomainModel.Diagnostic

/-!
# Failures

A compilation can fail in three ways: a file cannot be read, the settings are not what they should
be, or the program has no document.

## What this module delivers

- `FileError`, with the wording the operating system and the text decoder have for it.
- `Failure`, with `message?`; why settings are refused has no wording here.
-/

set_option autoImplicit false

namespace DomainModel

/-- Why a file cannot be read as text. -/
inductive FileError where
  /-- There is no such file. -/
  | notFound
  /-- Its bytes are no text. -/
  | invalidEncoding
  deriving DecidableEq, Repr

/-- The wording of a file error. -/
def FileError.message : FileError → String
  | .notFound => "No such file or directory (os error 2)"
  | .invalidEncoding => "stream did not contain valid UTF-8"

/-- Why a compilation has no result. -/
inductive Failure where
  /-- A file cannot be read. -/
  | file (cause : FileError)
  /-- The settings are no settings. -/
  | settings
  /-- The program has no document; the diagnostics refer to the source. -/
  | build (diagnostics : List Diagnostic) (source : String)
  deriving DecidableEq, Repr

/-- The wording of a failure: of a build, that of its first diagnostic. -/
def Failure.message? : Failure → Option String
  | .file cause => some ("I/O error: " ++ cause.message)
  | .settings => none
  | .build diagnostics _ => some ((diagnostics.head?.map Diagnostic.render).getD "")

end DomainModel
