import ConnectionCatalog.Field.Check
import ConnectionCatalog.Log.Basic
import ConnectionCatalog.Settings.Dotenv
import ConnectionCatalog.Text.Blank
import ConnectionCatalog.Text.UpperCase

/-! # Settings — what a deployment can choose

Settings come from four sources: what a caller gives, the environment, a file of
variables and the defaults, each going before the next.  Names are matched as they
are spelled, and names that are no settings are ignored.

Main statement: `LogLevel.ofText?_name`.
-/

namespace ConnectionCatalog

/-! ## Log levels -/

/-- The levels at which a log can be set. -/
inductive LogLevel
  | debug
  | info
  | warning
  | error
  | critical
deriving DecidableEq, Repr

namespace LogLevel

def all : List LogLevel := [debug, info, warning, error, critical]

def level : LogLevel → Level
  | debug => Level.debug
  | info => Level.info
  | warning => Level.warning
  | error => Level.error
  | critical => Level.critical

def name : LogLevel → String
  | debug => "DEBUG"
  | info => "INFO"
  | warning => "WARNING"
  | error => "ERROR"
  | critical => "CRITICAL"

/-- A text as levels are named: without blanks around it, in upper case. -/
def normalized (s : String) : String := String.ofList (Text.upperCase (Text.trim s.toList))

/-- The level that a text names, whatever its case and the blanks around it. -/
def ofText? (s : String) : Option LogLevel := all.find? fun l => l.name == normalized s

/-- A level's name names it. -/
@[simp] theorem ofText?_name (l : LogLevel) : ofText? l.name = some l := by
  cases l <;> decide

end LogLevel

/-- How the lines of a log are written. -/
inductive LogFormat
  | text
  | json
deriving DecidableEq, Repr

namespace LogFormat

def name : LogFormat → String
  | text => "text"
  | json => "json"

def all : List LogFormat := [text, json]

end LogFormat

/-! ## Settings -/

/-- What a deployment can choose. -/
structure Settings where
  environment : String
  debug : Bool
  logLevel : LogLevel
  logFormat : LogFormat
  databaseUrl : String
  dbEcho : Bool
  dbPoolPrePing : Bool
deriving DecidableEq, Repr

def checkLogLevel (v : Value) : Except FieldFault LogLevel :=
  match checkText v with
  | .error fault => .error fault
  | .ok s =>
    match LogLevel.ofText? s with
    | some l => .ok l
    | none => .error (.unknownLevel s)

/-- A format has to be spelled exactly. -/
def checkLogFormat (v : Value) : Except FieldFault LogFormat :=
  match v.text?.bind fun s => LogFormat.all.find? fun f => f.name == s with
  | some f => .ok f
  | none => .error (.notChoice (LogFormat.all.map LogFormat.name))

namespace Settings

/-- The name of the record, as messages give it. -/
def recordName : String := "Settings"

/-- The names of the settings. -/
def names : List String :=
  ["DATABASE_URL", "DB_ECHO", "DB_POOL_PRE_PING", "DEBUG", "ENVIRONMENT", "LOG_FORMAT",
    "LOG_LEVEL"]

/-- What is chosen where nothing is said. -/
def defaults : Settings :=
  ⟨"local", false, .info, .text, "sqlite:///./data/wrangler.db", false, true⟩

/-- A setting that is `absent` where it is not given. -/
def setting {α : Type} (fs : Fields) (name : String) (absent : α)
    (check : Value → Except FieldFault α) : Checked α :=
  fs.optional name absent fun v => .atPath [name] (check v)

def check (fs : Fields) : Checked Settings :=
  (Checked.both (setting fs "ENVIRONMENT" defaults.environment checkText)
    (Checked.both (setting fs "DEBUG" defaults.debug checkBool)
      (Checked.both (setting fs "LOG_LEVEL" defaults.logLevel checkLogLevel)
        (Checked.both (setting fs "LOG_FORMAT" defaults.logFormat checkLogFormat)
          (Checked.both (setting fs "DATABASE_URL" defaults.databaseUrl checkText)
            (Checked.both (setting fs "DB_ECHO" defaults.dbEcho checkBool)
              (setting fs "DB_POOL_PRE_PING" defaults.dbPoolPrePing checkBool))))))).map
    fun (environment, debug, logLevel, logFormat, databaseUrl, dbEcho, dbPoolPrePing) =>
      ⟨environment, debug, logLevel, logFormat, databaseUrl, dbEcho, dbPoolPrePing⟩

def ofFields (fs : Fields) : Except Invalid Settings := (check fs).forRecord recordName

/-- The settings as values. -/
def fields (s : Settings) : Fields :=
  .ofList [("ENVIRONMENT", .text s.environment), ("DEBUG", .bool s.debug),
    ("LOG_LEVEL", .text s.logLevel.name), ("LOG_FORMAT", .text s.logFormat.name),
    ("DATABASE_URL", .text s.databaseUrl), ("DB_ECHO", .bool s.dbEcho),
    ("DB_POOL_PRE_PING", .bool s.dbPoolPrePing)]

/-! ## Sources -/

/-- What one name is set to: given, in the environment, or in a file. -/
def lookup? (given : Fields) (environment : TextMap String) (file : TextMap (Option String))
    (name : String) : Option Value :=
  match given.get? name, environment.get? name, file.get? name with
  | some v, _, _ => some v
  | none, some s, _ => some (.text s)
  | none, none, some (some s) => some (.text s)
  | none, none, _ => none

/-- What the sources set, before it is checked. -/
def sourced (given : Fields) (environment : TextMap String) (file? : Option String) : Fields :=
  let file :=
    match file? with
    | some text => Dotenv.assignments environment text
    | none => .empty
  .ofList (names.filterMap fun name =>
    (lookup? given environment file name).map fun v => (name, v))

/-- The settings that the sources give. -/
def ofSources (given : Fields) (environment : TextMap String) (file? : Option String) :
    Except Invalid Settings :=
  ofFields (sourced given environment file?)

end Settings

end ConnectionCatalog
