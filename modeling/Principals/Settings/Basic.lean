import Principals.Settings.EnvFile
import Principals.Validation

/-!
# Settings

Settings are read field by field from the first source that has the field: arguments, then the
environment, then an environment file, then the default. The names of variables ignore case. Once
every field is read, the subject prefix must be a token: not blank, and not ending in a point.
-/

namespace Principals

/-- The settings of a directory. -/
structure Settings where
  appEnv : String
  logLevel : String
  natsUrl : String
  /-- What the subject of every lifecycle event begins with. -/
  eventSubjectPrefix : String
  /-- Whether repeated values of an attribute query count once. -/
  distinctAttributeValues : Bool
  /-- Whether a query for a kind also finds the kinds derived from it. -/
  includeSubtypes : Bool
deriving DecidableEq, Repr

namespace Settings

/-- The settings by name, in the order in which they are declared. -/
def fields (s : Settings) : List (String × Value) :=
  [("app_env", .text s.appEnv), ("log_level", .text s.logLevel), ("nats_url", .text s.natsUrl),
    ("event_subject_prefix", .text s.eventSubjectPrefix),
    ("distinct_attribute_values", .bool s.distinctAttributeValues),
    ("include_subtypes", .bool s.includeSubtypes)]

/-- Where settings come from. -/
structure Sources where
  arguments : Input := ∅
  environment : List (String × String) := []
  file : Option String := none

/-- A name in the form under which variables are compared. -/
def foldName (name : String) : String := name.map Char.toLower

/-- Variables by folded name; a later one replaces an earlier one. -/
def foldVariables (pairs : List (String × α)) : OrderedMap String α :=
  .ofList (pairs.map fun (name, value) => (foldName name, value))

namespace Sources

/-- The variables of the file by folded name, as far as they have values. -/
def fileVariables (s : Sources) : List (String × String) :=
  let variablesOfFile := EnvFile.variablesOf (.ofList s.environment) (s.file.getD "")
  (foldVariables variablesOfFile.entries).entries.filterMap fun (name, value) =>
    value.map fun v => (name, v)

/-- The fields that the sources give, each from the first source that has it. -/
def input (s : Sources) : Input :=
  let file : OrderedMap String String := .ofList s.fileVariables
  let environment := foldVariables s.environment
  let texts := (file.insertAll environment.entries).mapValues Value.text
  texts.insertAll s.arguments.entries

end Sources

/-- Reads the fields of settings. -/
def read (input : Input) : Checked Settings :=
  (Checked.both (input.withDefault "app_env" "development" Reader.rawText)
    (Checked.both (input.withDefault "log_level" "INFO" Reader.rawText)
      (Checked.both (input.withDefault "nats_url" "nats://localhost:4222" Reader.rawText)
        (Checked.both (input.withDefault "event_subject_prefix" "identity" Reader.rawText)
          (Checked.both (input.withDefault "distinct_attribute_values" false Reader.bool)
            (input.withDefault "include_subtypes" true Reader.bool)))))).map
              fun (env, level, url, subject, distinct, subtypes) =>
                ⟨env, level, url, subject, distinct, subtypes⟩

/-- Whether a subject prefix is accepted: not blank, and without a point at its end. -/
def acceptsPrefix (subject : String) : Bool :=
  match (Text.trimWhile Text.isSeparating subject.toList).getLast? with
  | none => false
  | some c => c ≠ '.'

/-- The complaint about a subject prefix. -/
def prefixComplaint (subject : String) : String :=
  "EVENT_SUBJECT_PREFIX must be a non-empty subject token, got " ++ Text.quoted subject

/-- The settings, if their subject prefix is accepted. -/
def check (s : Settings) : Checked Settings :=
  if acceptsPrefix s.eventSubjectPrefix then .ok s
  else Checked.issue (.rule (prefixComplaint s.eventSubjectPrefix))

/-- The settings that sources give. -/
def load (sources : Sources) : Except Failure Settings :=
  Checked.orInvalid "StoreSettings" (read sources.input >>= check)

/-- Settings loaded once and kept: the first success answers from then on, a failure is not kept. -/
def loadOnce (kept : Option Settings) (sources : Sources) :
    Except Failure Settings × Option Settings :=
  match kept with
  | some s => (.ok s, some s)
  | none =>
    match load sources with
    | .ok s => (.ok s, some s)
    | .error e => (.error e, none)

end Settings

end Principals
