import DomainModel.Model.Document

/-!
# Events

What a run of the library does is told as a list of events. An event is data; its log record, a
level with a fixed message and named fields, is read off it. Most fields are texts. One field holds
a whole document; how a document looks in a log is left to whoever writes the log.

## What this module delivers

- `Event`: the things that can happen.
- `Level`, `FieldValue`, `Record`: a line of the log, with `Record.fields` for the fields that are
  texts.
- `Event.record`: the line that tells of an event; counts are written in decimal.
-/

set_option autoImplicit false

namespace DomainModel

/-- How fine-grained a log record is. -/
inductive Level where
  | info
  | debug
  | trace
  deriving DecidableEq, Repr

/-- The written form of a level. -/
def Level.text : Level → String
  | .info => "INFO"
  | .debug => "DEBUG"
  | .trace => "TRACE"

/-- What a field of a line of the log holds. -/
inductive FieldValue where
  /-- A text; counts are written out. -/
  | text (written : String)
  /-- A document as it is. -/
  | document (document : Document)

instance : Coe String FieldValue := ⟨.text⟩

/-- The text that a field holds, if it holds one. -/
def FieldValue.text? : FieldValue → Option String
  | .text written => some written
  | .document _ => none

/-- A line of the log. -/
structure Record where
  /-- How fine-grained it is. -/
  level : Level
  /-- The fixed text. -/
  message : String
  /-- The fields with what they hold, in written order. -/
  values : List (String × FieldValue)

/-- The fields of a line that hold texts, in written order. -/
def Record.fields (record : Record) : List (String × String) :=
  record.values.filterMap fun (name, value) => value.text?.map fun text => (name, text)

/-- Something that happened in a run. -/
inductive Event where
  /-- Settings are read from a file. -/
  | loadingSettings
  /-- A compilation starts. -/
  | compiling
  /-- The document of a program with these counts is started. -/
  | building (entities relationships pages : Nat)
  /-- The constants are reached. -/
  | constants (count : Nat)
  /-- One constant is entered. -/
  | constant (name : String)
  /-- Applications and deployments are reached. -/
  | applications (applications deployments : Nat)
  /-- The entities are reached. -/
  | entities (count : Nat)
  /-- One entity is entered. -/
  | entity (name : String)
  /-- Datasets and JSON configurations are reached. -/
  | payloads (datasets jsonConfigs : Nat)
  /-- The pages are reached. -/
  | pages (count : Nat)
  /-- One page is entered. -/
  | page (name entity : String)
  /-- The relationship blocks are reached. -/
  | relationships (count : Nat)
  /-- One relationship block is about to be read. -/
  | relationship (type : String) (bodies : Nat)
  /-- The enumerations are reached. -/
  | enums (count : Nat)
  /-- The option declarations are reached. -/
  | options (flags valued : Nat)
  /-- A flag declaration of a known family is about to be merged. -/
  | mergingFlag (family : OptionFamily) (entities : Nat)
  /-- A value-bearing declaration of a known family is about to be merged. -/
  | mergingValue (family : OptionFamily) (value : String)
  /-- The document is complete. -/
  | built
  /-- The compilation takes the document over. -/
  | accepted
  /-- The document as taken over. -/
  | document (document : Document)
  /-- The dataset checks are switched off. -/
  | checksDisabled
  /-- A rule is about to look at the datasets. -/
  | runningRule (rule : String) (datasets : Nat)
  /-- The compilation is complete. -/
  | checksCompleted (issues : Nat)

namespace Event

/-- The decimal text of a count. -/
def decimal (n : Nat) : String := toString n

/-- The log record that tells of an event. -/
def record : Event → Record
  | .loadingSettings => ⟨.info, "Loading configuration", []⟩
  | .compiling => ⟨.info, "Building document", []⟩
  | .building entityCount relationshipCount pageCount =>
      ⟨.info, "Building document",
        [("entities", decimal entityCount), ("relationships", decimal relationshipCount),
          ("pages", decimal pageCount)]⟩
  | .constants count => ⟨.debug, "Building constants", [("count", decimal count)]⟩
  | .constant name => ⟨.trace, "Constant", [("name", name)]⟩
  | .applications applicationCount deploymentCount =>
      ⟨.debug, "Building applications and deployments",
        [("applications", decimal applicationCount), ("deployments", decimal deploymentCount)]⟩
  | .entities count => ⟨.debug, "Building entities", [("count", decimal count)]⟩
  | .entity name => ⟨.trace, "Entity", [("name", name)]⟩
  | .payloads datasets jsonConfigs =>
      ⟨.debug, "Building datasets and JSON configurations",
        [("datasets", decimal datasets), ("json_configs", decimal jsonConfigs)]⟩
  | .pages count => ⟨.debug, "Building pages", [("count", decimal count)]⟩
  | .page name shown => ⟨.trace, "Page", [("name", name), ("entity", shown)]⟩
  | .relationships count => ⟨.debug, "Building relationships", [("count", decimal count)]⟩
  | .relationship type bodies =>
      ⟨.trace, "Relationship", [("cardinality", type), ("bodies", decimal bodies)]⟩
  | .enums count => ⟨.debug, "Building enums", [("count", decimal count)]⟩
  | .options flags valued =>
      ⟨.debug, "Merging options", [("unary", decimal flags), ("binary", decimal valued)]⟩
  | .mergingFlag family included =>
      ⟨.trace, "Merging flag option",
        [("family", family.name), ("entities", decimal included)]⟩
  | .mergingValue family value =>
      ⟨.trace, "Merging value option", [("family", family.name), ("value", value)]⟩
  | .built => ⟨.info, "Document built successfully", []⟩
  | .accepted => ⟨.debug, "Document built successfully", []⟩
  | .document taken => ⟨.trace, "Built document", [("document", .document taken)]⟩
  | .checksDisabled => ⟨.debug, "Dataset checks disabled", []⟩
  | .runningRule rule datasets =>
      ⟨.debug, "Running dataset rule", [("rule", rule), ("datasets", decimal datasets)]⟩
  | .checksCompleted issues => ⟨.info, "Checks completed", [("issues", decimal issues)]⟩

end Event

end DomainModel
