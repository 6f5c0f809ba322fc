import Lag.Document.Meaning
import Lag.Document.Write
import Lag.Files
import Lag.Log

/-!
# Settings

Settings come from a document with up to three sections, and then from the environment, which has
precedence. A settings value is kept as the document gives it; `validate` says which values are
allowed. Every fault is told in the order: the root, its sections, the keys of each section, then
the values.
-/
namespace Lag

/-- The settings. -/
structure Settings where
  /-- The greatest number of failures that a check reports. -/
  maxErrors : Document := .int 20
  /-- The number of workers for reloads; none does them at once. -/
  workers : Document := .int 0
  /-- The level of the journal. -/
  level : Document := .text "INFO"
  /-- The file of the journal. -/
  logFile : Document := .null
  deriving Repr, Inhabited

/-- The variables of the environment that hold settings. -/
structure Environment where
  /-- The level of the journal. -/
  level : Option String := none
  /-- The number of workers. -/
  workers : Option String := none
  deriving DecidableEq, Repr, Inhabited

/-- The sections of settings. -/
inductive Section where
  /-- The settings of the check. -/
  | checker
  /-- The settings of reloads. -/
  | reload
  /-- The settings of the journal. -/
  | logging
  deriving DecidableEq, Repr

namespace Section

/-- All sections in order. -/
def all : List Section := [.checker, .reload, .logging]

/-- The name of a section. -/
def name : Section → String
  | .checker => "checker"
  | .reload => "reload"
  | .logging => "logging"

/-- The name under which messages about keys call a section. -/
def className : Section → String
  | .checker => "CheckerConfig"
  | .reload => "ReloadConfig"
  | .logging => "LoggingConfig"

/-- The keys of a section. -/
def keys : Section → List String
  | .checker => ["max_errors"]
  | .reload => ["workers"]
  | .logging => ["level", "log_file"]

end Section

/-- Why there are no settings. -/
inductive SettingsFault where
  /-- The document is no mapping. -/
  | noMapping
  /-- The document has sections that are not known. -/
  | sections (names : List String)
  /-- The name of a section is not a text but of another kind. -/
  | sectionName (kind : String)
  /-- The names of two sections are of kinds that have no order. -/
  | sectionOrder (later earlier : String)
  /-- A section is no mapping. -/
  | noSection (place : Section)
  /-- A key of a section is no text. -/
  | keyKind (place : Section)
  /-- A key of a section is not known. -/
  | key (place : Section) (name : String)
  /-- The number of failures is not positive. -/
  | maxErrors (shown : String)
  /-- The number of workers is no natural number. -/
  | workers (shown : String)
  /-- The level is not known. -/
  | level (shown : String)
  /-- An integer has too many digits to be shown or written. -/
  | tooManyDigits
  /-- The environment gives no number of workers. -/
  | environment (workers : String)
  /-- The file of the settings cannot be read. -/
  | file (path : String) (fault : FileFault)
  /-- The file of the settings holds no document. -/
  | document (path : String) (fault : Document.Fault)
  deriving Repr

/-- The levels that settings may name. -/
def levelNames : List String := ["DEBUG", "INFO", "WARNING", "ERROR", "CRITICAL"]

namespace SettingsFault

/-- What is wrong with a key of a section. -/
def keyMessage (place : Section) (name : String) : String :=
  if name = "self" then place.className ++ ".__init__() got multiple values for argument 'self'"
  else
    place.className ++ ".__init__() got an unexpected keyword argument '" ++ name ++ "'"

/-- The message of a fault. -/
def message : SettingsFault → String
  | .noMapping => "configuration root must be a mapping"
  | .sections names => "unknown configuration section(s): " ++ ", ".intercalate names
  | .sectionName kind => "sequence item 0: expected str instance, " ++ kind ++ " found"
  | .sectionOrder later earlier =>
    "'<' not supported between instances of '" ++ later ++ "' and '" ++ earlier ++ "'"
  | .noSection place => "section '" ++ place.name ++ "' must be a mapping"
  | .keyKind place => "invalid keys in section '" ++ place.name ++ "': keywords must be strings"
  | .key place name => "invalid keys in section '" ++ place.name ++ "': " ++ keyMessage place name
  | .maxErrors shown => "checker.max_errors must be a positive integer, got " ++ shown
  | .workers shown => "reload.workers must be a non-negative integer, got " ++ shown
  | .level shown =>
    "logging.level must be one of " ++ ", ".intercalate levelNames ++ ", got " ++ shown
  | .tooManyDigits => Number.tooLongToWrite
  | .environment given =>
    "LAGSCRIPT_RELOAD_WORKERS must be an integer, got " ++ Text.quoted given
  | .file path fault => "cannot read configuration file " ++ path ++ ": " ++ fault.message
  | .document path fault =>
    if fault.isOfFormat then "invalid YAML in " ++ path ++ ": " ++ fault.message path
    else fault.message path

/-- The message of a fault without what is wrong in a document that is not well formed. -/
def shortMessage : SettingsFault → String
  | .document path fault =>
    if fault.isOfFormat then "invalid YAML in " ++ path else fault.message path
  | fault => fault.message

/-- The kind of a fault. A section whose name is no text is a fault of the message about it, and
a scalar that its tag does not admit one of that scalar. -/
def className : SettingsFault → String
  | .sectionName _ | .sectionOrder _ _ => "TypeError"
  | .tooManyDigits => "ValueError"
  | .document _ fault => if fault.isOfFormat then "ConfigError" else fault.className
  | _ => "ConfigError"

/-- Whether a fault is one of the settings. -/
def isOfSettings (fault : SettingsFault) : Bool := fault.className == "ConfigError"

end SettingsFault

namespace Settings

/-- Whether a document names a level in any case. -/
def isLevel (value : Document) : Bool :=
  value.text?.any fun name => levelNames.contains (Text.upperText name)

/-- A fault that shows a value. -/
def showing (fault : String → SettingsFault) (value : Document) : SettingsFault :=
  (value.display?.map fault).getD .tooManyDigits

/-- Refuse values that are not allowed. -/
def validate (settings : Settings) : Except SettingsFault Settings :=
  if !settings.maxErrors.integer?.any (1 ≤ ·) then .error (showing .maxErrors settings.maxErrors)
  else if !settings.workers.integer?.any (0 ≤ ·) then .error (showing .workers settings.workers)
  else if !isLevel settings.level then .error (showing .level settings.level)
  else .ok settings

/-- The first key of a section that is not known, as a fault. -/
def keyFault? (place : Section) (entries : List (Document × Document)) : Option SettingsFault :=
  if entries.any (fun (key, _) => key.text?.isNone) then some (.keyKind place)
  else
    ((entries.filterMap fun (key, _) => key.text?).find? fun name =>
      !place.keys.contains name).map (.key place)

/-- The entries of a section; a section that says nothing has none. -/
def sectionEntries (place : Section) (sections : List (Document × Document)) :
    Except SettingsFault (List (Document × Document)) :=
  let value := (Document.find? place.name sections).getD .null
  if value.isEmpty then .ok []
  else match value with
    | .mapping entries =>
      match keyFault? place entries with
      | some fault => .error fault
      | none => .ok entries
    | _ => .error (.noSection place)

/-- Whether a number is less than another. -/
def numberLess (first second : Document) : Bool :=
  match first, second with
  | .float left, .float right => left < right
  | .float left, other => other.integer?.any fun right => Number.compareInt? right left == some .gt
  | other, .float right => other.integer?.any fun left => Number.compareInt? left right == some .lt
  | _, _ =>
    match first.integer?, second.integer? with
    | some left, some right => left < right
    | _, _ => false

/-- Whether a document is a number. -/
def isNumber : Document → Bool
  | .bool _ | .int _ | .float _ => true
  | _ => false

/-- Whether two names of sections have an order. -/
def haveOrder (first second : Document) : Bool :=
  (isNumber first && isNumber second) ||
    (first.kindName == second.kindName && first.kindName != Document.null.kindName)

/-- What is wrong with the names of sections that are not known. They are told in order, which they
must have; the first of them is looked at first. -/
def namesFault? (names : List Document) : Option SettingsFault :=
  match names with
  | [] => none
  | first :: rest =>
    match rest.find? fun name => !haveOrder first name with
    | some name => some (.sectionOrder name.kindName first.kindName)
    | none =>
      if first.text?.isSome then
        let texts := names.filterMap Document.text?
        some (.sections (texts.mergeSort fun left right => left ≤ right))
      else
        let lesser (least name : Document) := if numberLess name least then name else least
        let least := rest.foldl lesser first
        some (.sectionName least.kindName)

/-- Refuse sections that are not known. -/
def sectionsFault? (sections : List (Document × Document)) : Option SettingsFault :=
  namesFault? ((sections.map Prod.fst).filter fun key =>
    !key.text?.any ((Section.all.map Section.name).contains ·))

/-- The settings in a document. -/
def ofDocument (document : Document) : Except SettingsFault Settings :=
  match document with
  | .mapping sections =>
    match sectionsFault? sections with
    | some fault => .error fault
    | none => do
      let checker ← sectionEntries .checker sections
      let reload ← sectionEntries .reload sections
      let logging ← sectionEntries .logging sections
      let standard : Settings := {}
      let value (entries : List (Document × Document)) (name : String) (other : Document) :=
        (Document.find? name entries).getD other
      validate
        ⟨value checker "max_errors" standard.maxErrors, value reload "workers" standard.workers,
          value logging "level" standard.level, value logging "log_file" standard.logFile⟩
  | _ => .error .noMapping

/-- The sections of settings with their names. -/
def entries (settings : Settings) : List (Document × Document) :=
  [(.text "checker", .mapping [(.text "max_errors", settings.maxErrors)]),
    (.text "reload", .mapping [(.text "workers", settings.workers)]),
    (.text "logging",
      .mapping [(.text "level", settings.level), (.text "log_file", settings.logFile)])]

/-- The settings as a document. -/
def toDocument (settings : Settings) : Document := .mapping settings.entries

/-- The settings as the text of a document. -/
def toText (settings : Settings) : Except SettingsFault String :=
  match Document.entriesText? settings.entries with
  | some text => .ok text
  | none => .error .tooManyDigits

/-- Let the level of the environment take precedence. -/
def withLevel (environment : Environment) (settings : Settings) : Settings :=
  match environment.level with
  | none | some "" => settings
  | some level => { settings with level := .text (Text.upperText level) }

/-- Let the number of workers of the environment take precedence. -/
def withWorkers (environment : Environment) (settings : Settings) :
    Except SettingsFault Settings :=
  match environment.workers with
  | none | some "" => .ok settings
  | some workers =>
    match Number.readInt workers with
    | .ok count => .ok { settings with workers := .int count }
    | .error _ => .error (.environment workers)

/-- Let the environment take precedence. -/
def override (environment : Environment) (settings : Settings) : Except SettingsFault Settings := do
  validate (← withWorkers environment (withLevel environment settings))

/-- The settings in the file at a path. A document that says nothing gives the standard ones. -/
def ofFile (files : Files) (path : Text.Path) : Except SettingsFault Settings :=
  match files.read path with
  | .error fault => .error (.file path.toText fault)
  | .ok text =>
    match Document.ofText text with
    | .error fault => .error (.document path.toText fault)
    | .ok document => ofDocument (if document.isEmpty then .mapping [] else document)

/-- The settings of a run: those in a file, if there is one, and then those of the environment. -/
def load (files : Files) (path : Option Text.Path) (environment : Environment) :
    Except SettingsFault Settings := do
  let settings ← match path with
    | none => .ok {}
    | some path => ofFile files path
  override environment settings

/-- The greatest number of failures as a number. -/
def limit (settings : Settings) : Nat := (settings.maxErrors.integer?.getD 0).toNat

/-- The name of the file of the journal, if there is one. -/
def logName? (settings : Settings) : Option String := settings.logFile.fileName?.filter (· != "")

/-- The level as a word. -/
def levelWord (settings : Settings) : String := settings.level.text?.getD ""

/-- Whether settings are allowed does not change when they are validated again. -/
theorem validate_of_validate {settings valid : Settings} (checked : validate settings = .ok valid) :
    validate valid = .ok valid := by
  have same : settings = valid := by
    unfold validate at checked
    split at checked
    · cases checked
    · split at checked
      · cases checked
      · split at checked
        · cases checked
        · exact Except.ok.inj checked
  exact same ▸ checked

end Settings

end Lag
