import DomainModel.Build.Traced
import DomainModel.Declared.Config
import DomainModel.Diagnostic

/-!
# Checks on datasets

Checks look at the declared datasets of a program and give advice. They never stand in the way of
a document. A check is a rule: a name and a function from datasets to diagnostics. The set of rules
that always run is empty; a host may bring rules of its own.

## What this module delivers

- `DatasetRule`, and `defaultRules`, the rules that always run.
- `occursIn`, `DatasetRule.containing`: the rule that warns of bodies with a given text in them.
- `runRules`: rules one after another; nothing happens without datasets.
-/

set_option autoImplicit false

namespace DomainModel

/-- A check on the declared datasets of a program. -/
structure DatasetRule where
  /-- The name of the rule in the log. -/
  name : String
  /-- What the rule has to say of a list of datasets. -/
  check : List Declared.Dataset → List Diagnostic

/-- The rules that always run: none. -/
def defaultRules : List DatasetRule := []

/-- Whether the characters of the first list stand together, in order, somewhere in the second. -/
def occursIn (needle : List Char) : List Char → Bool
  | [] => needle.isEmpty
  | c :: rest => needle.isPrefixOf (c :: rest) || occursIn needle rest

/-- The warning that a dataset has a text in its body. -/
def containsWarning (needle : String) (dataset : Declared.Dataset) : Diagnostic :=
  (Diagnostic.warning dataset.name.image).withLabel dataset.body.span needle

/-- The rule that warns of every dataset with a text in its body, markers included. -/
def DatasetRule.containing (name needle : String) : DatasetRule where
  name := name
  check datasets :=
    (datasets.filter fun dataset => occursIn needle.toList dataset.body.image.toList).map
      (containsWarning needle)

/-- What rules have to say of the datasets, rule by rule. Without datasets no rule runs. -/
def runRules {ε : Type} (rules : List DatasetRule) (datasets : List Declared.Dataset) :
    Traced ε (List Diagnostic) :=
  if datasets.isEmpty then pure []
  else ⟨rules.map fun rule => .runningRule rule.name datasets.length,
    .ok (rules.flatMap fun rule => rule.check datasets)⟩

end DomainModel
