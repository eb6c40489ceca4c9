import ConnectionCatalog.Field.Fault
import ConnectionCatalog.Files.Tree
import ConnectionCatalog.Json.Reader
import ConnectionCatalog.Log.Fault
import ConnectionCatalog.Text.Encoding
import ConnectionCatalog.Value

/-! # Failure — why an operation fails

A `Failure` is a cause.  The class that it falls into, the text that describes it
and the names that it carries are functions of the cause.

Each class has the classes above it, the nearest first.  A caller may bring classes of
its own, which may lie below two others at once, or below none but the root of all that
can be raised, beside the ordinary failures.  A caller that watches operations tells
apart only what was not found, what exists already and everything else; `Failure.isA`
decides.
-/

namespace ConnectionCatalog

/-! ## Classes -/

/-- What a class that a caller brings is derived from: the root of all that can be
raised, the ordinary failures, one of the two that watched operations tell apart, or
both of these. -/
inductive Parentage
  | root
  | ordinary
  | notFound
  | alreadyExists
  | both
deriving DecidableEq, Repr

/-- A class that a caller brings; its origin stands in front of its name where that is told. -/
structure BroughtClass where
  name : String
  origin : String
  parentage : Parentage
deriving DecidableEq, Repr

/-- The classes of failures, and those above them. -/
inductive ErrorClass
  | catalog
  | notFound
  | alreadyExists
  | corruptData
  | connectionNotFound
  | connectionAlreadyExists
  | corruptConnection
  | unknownType
  | tableNotFound
  | systemTableMissing
  | validation
  | value
  | type
  | key
  | lookup
  | overflow
  | arithmetic
  | recursion
  | runtime
  | unicode
  | undecodable
  | unencodable
  | malformedJson
  | integrity
  | operational
  | programming
  | argument
  | noAttribute
  | memory
  | noSuchModule
  | missingImport
  | moduleNotFound
  | os
  | connection
  | timeout
  | fileExists
  | fileNotFound
  | isADirectory
  | notADirectory
  | permission
  | interrupted
  | wouldBlock
  | childProcess
  | noSuchProcess
  | brokenPipe
  | connectionAborted
  | connectionRefused
  | connectionReset
  | brought (kind : BroughtClass)
  | exception
  | baseException
  | object
deriving DecidableEq, Repr

namespace ErrorClass

/-- The name of a class, as an answer or a line of the log gives it. -/
def name : ErrorClass → String
  | catalog => "WranglerException"
  | notFound => "NotFoundException"
  | alreadyExists => "AlreadyExistsException"
  | corruptData => "CorruptDataException"
  | connectionNotFound => "ConnectionNotFoundException"
  | connectionAlreadyExists => "ConnectionAlreadyExistsException"
  | corruptConnection => "CorruptConnectionDataException"
  | unknownType => "UnknownConnectionTypeException"
  | tableNotFound => "TableNotFoundException"
  | systemTableMissing => "SystemTableMissingException"
  | validation => "ValidationError"
  | value => "ValueError"
  | type => "TypeError"
  | key => "KeyError"
  | lookup => "LookupError"
  | overflow => "OverflowError"
  | arithmetic => "ArithmeticError"
  | recursion => "RecursionError"
  | runtime => "RuntimeError"
  | unicode => "UnicodeError"
  | undecodable => "UnicodeDecodeError"
  | unencodable => "UnicodeEncodeError"
  | malformedJson => "JSONDecodeError"
  | integrity => "IntegrityError"
  | operational => "OperationalError"
  | programming => "ProgrammingError"
  | argument => "ArgumentError"
  | noAttribute => "AttributeError"
  | memory => "MemoryError"
  | noSuchModule => "NoSuchModuleError"
  | missingImport => "ImportError"
  | moduleNotFound => "ModuleNotFoundError"
  | os => "OSError"
  | connection => "ConnectionError"
  | timeout => "TimeoutError"
  | fileExists => "FileExistsError"
  | fileNotFound => "FileNotFoundError"
  | isADirectory => "IsADirectoryError"
  | notADirectory => "NotADirectoryError"
  | permission => "PermissionError"
  | interrupted => "InterruptedError"
  | wouldBlock => "BlockingIOError"
  | childProcess => "ChildProcessError"
  | noSuchProcess => "ProcessLookupError"
  | brokenPipe => "BrokenPipeError"
  | connectionAborted => "ConnectionAbortedError"
  | connectionRefused => "ConnectionRefusedError"
  | connectionReset => "ConnectionResetError"
  | brought kind => kind.name
  | exception => "Exception"
  | baseException => "BaseException"
  | object => "object"

/-- What lies above every class of ordinary failures. -/
def roots : List ErrorClass := [exception, baseException, object]

/-- The classes above a class, the nearest first. -/
def above : ErrorClass → List ErrorClass
  | notFound | alreadyExists | corruptData | tableNotFound | systemTableMissing =>
    catalog :: roots
  | connectionNotFound => notFound :: catalog :: roots
  | connectionAlreadyExists => alreadyExists :: catalog :: roots
  | corruptConnection => corruptData :: catalog :: roots
  | unknownType => corruptConnection :: corruptData :: catalog :: roots
  | validation | unicode | malformedJson => value :: roots
  | undecodable | unencodable => unicode :: value :: roots
  | key => lookup :: roots
  | overflow => arithmetic :: roots
  | recursion => runtime :: roots
  | noSuchModule => argument :: roots
  | moduleNotFound => missingImport :: roots
  | connection | timeout | fileExists | fileNotFound | isADirectory | notADirectory | permission
  | interrupted | wouldBlock | childProcess | noSuchProcess => os :: roots
  | brokenPipe | connectionAborted | connectionRefused | connectionReset =>
    connection :: os :: roots
  | brought kind =>
    match kind.parentage with
    | .root => [baseException, object]
    | .ordinary => roots
    | .notFound => notFound :: catalog :: roots
    | .alreadyExists => alreadyExists :: catalog :: roots
    | .both => notFound :: alreadyExists :: catalog :: roots
  | exception => [baseException, object]
  | baseException => [object]
  | object => []
  | _ => roots

/-- A class and those above it. -/
def lineage (c : ErrorClass) : List ErrorClass := c :: c.above

/-- Whether a class belongs to the catalog itself. -/
def ofCatalog (c : ErrorClass) : Bool := c.lineage.contains catalog

end ErrorClass

/-! ## Causes -/

/-- Why stored properties are not a document. -/
inductive Unreadable
  | notText (kind : String)
  | undecodable (fault : Text.DecodeFault)
  | malformed (fault : Json.Fault)
deriving DecidableEq, Repr

/-- Why a stored row is not a connection. -/
inductive RowFault
  | missingColumn (name : String)
  | invalid (reason : Invalid)
  | unreadable (reason : Unreadable)
  | notTexts
deriving DecidableEq, Repr

/-- What holds a record together. -/
inductive RecordPart
  | kind
  | contents
deriving DecidableEq, Repr

/-- Why two values have no sum; kinds of values are given by their names. -/
inductive SumFault
  | notText (kind : String)
  | notBytes (kind : String)
  | notListed (kind : String)
  | unsupported (left right : String)
deriving DecidableEq, Repr

/-- Why a table refuses a call. -/
inductive TableFault
  | noKeyColumns
  | noPrimaryKey (table : String)
  | missingKey (table : String) (columns : List String)
  | unknownColumns (table : String) (columns : List String)
  | notLeading (pinned key : List String)
  | notLeadingOf (table : String) (pinned key : List String)
  | unordered (left right : String)
  | unhashable (kind : String)
deriving DecidableEq, Repr

/-- Why a database refuses a statement. -/
inductive DatabaseFault
  | notNull (table column : String)
  | notUnique (table : String) (columns : List String)
  | noSuchTable (table : String)
  | emptyAssignment
  | unsupportedParameter (position : Nat) (kind : String)
  | integerTooLarge
  | unencodable (codes : Codes)
  | unopenable
  | badAuthority (authority : String)
  | noSuchMode (option mode : String)
  | noSuchSystem (name : String)
  | unreadable
  | noSuchSchema (schema : String)
  | reservedName (table : String)
  | tableExists (table : String)
  | noColumns
  | columnExists (column : String)
  | noSuchColumn (column : String)
  | notChangeable (table : String)
  | notDroppable (table : String)
deriving DecidableEq, Repr

/-- Why a database cannot be reached by its URL. -/
inductive UrlFault
  | unreadable
  | badPort (fault : SpellingFault)
  | manyDrivers
  | unknownDriver (name : String)
  | unknownPlugin (name : String)
  | missingModule (name : String)
  /-- A part of the driver's module that is no driver itself. -/
  | notDriver (part : String)
  | misplaced (url : String)
  | badFlag (word : String)
  | badNumber (fault : SpellingFault)
  | badIsolation
  | largeNumber
  | noDatabase
  | optionsWithoutDatabase
deriving DecidableEq, Repr

/-- Why a path leads nowhere. -/
inductive PathFault
  | blocked (obstacle : Files.Obstacle)
  | unknownHome
  | holdsNull
deriving DecidableEq, Repr

/-- The classes of the catalog that carry nothing but a message. -/
inductive MessageClass
  | catalog
  | notFound
  | alreadyExists
  | corruptData
  | corruptConnection
deriving DecidableEq, Repr

/-- The classes of failures that come from elsewhere. -/
inductive ForeignClass
  | os
  | connection
  | timeout
  | runtime
  | value
  | key
  | type
deriving DecidableEq, Repr

/-- What a call was about to do when too many calls were under way. -/
inductive Deepening
  | encodeItem
  | callObject
  | spellObject
  | runBody
deriving DecidableEq, Repr

/-- Why an operation fails. -/
inductive Failure
  | stated (kind : MessageClass) (message : String)
  | connectionNotFound (id : String)
  | connectionAlreadyExists (name id : String)
  | unknownType (value : String)
  | corruptRow (fault : RowFault)
  | tableNotFound (table : String)
  | systemTableMissing (table : String) (lookedUp : Bool)
  | invalid (reason : Invalid)
  | unknownField (record field : String)
  | derivedField (record field : String)
  | unfitPart (part : RecordPart) (kind : String)
  | tooDeep (inArray : Bool)
  | exhausted (doing : Deepening)
  | table (fault : TableFault)
  | database (fault : DatabaseFault)
  | number (fault : NumberFault)
  | spelling (fault : SpellingFault)
  | sum (fault : SumFault)
  | notAMapping (kind : String)
  | reservedField (name : String)
  | template (fault : Log.TemplateFault)
  | time (fault : Log.TimeFault)
  | url (fault : UrlFault)
  | path (fault : PathFault)
  | foreign (kind : ForeignClass) (arguments : List Value)
  | brought (kind : BroughtClass) (message : String)

/-! ## Texts -/

namespace Unreadable

def message : Unreadable → String
  | notText kind => "the JSON object must be str, bytes or bytearray, not " ++ kind
  | undecodable fault => fault.message
  | malformed fault => fault.message

def errorClass : Unreadable → ErrorClass
  | notText _ => .type
  | undecodable _ => .undecodable
  | malformed (.malformed ..) => .malformedJson
  | malformed (.longInteger _) => .value
  | malformed (.tooDeep _) => .recursion

end Unreadable

namespace RowFault

/-- What is wrong with the row, as a line of the log gives it. -/
def detail : RowFault → String
  | missingColumn name => Text.quote name
  | invalid reason => reason.message
  | unreadable reason => "Unreadable connection properties: " ++ reason.message
  | notTexts => "Connection properties must be a JSON object of strings"

def message : RowFault → String
  | missingColumn name => "Stored connection row is invalid: " ++ Text.quote name
  | invalid reason => "Stored connection row is invalid: " ++ reason.message
  | fault => fault.detail

/-- The class of the failure that lies behind a corrupt row. -/
def cause? : RowFault → Option ErrorClass
  | missingColumn _ => some .key
  | invalid _ => some .validation
  | unreadable reason => some reason.errorClass
  | notTexts => none

end RowFault

/-- What is said where a value of a kind cannot stand for a part of a record. -/
def RecordPart.message (kind : String) : RecordPart → String
  | .kind => "__class__ must be set to a class, not '" ++ kind ++ "' object"
  | .contents => "__dict__ must be set to a dictionary, not a '" ++ kind ++ "'"

def SumFault.message : SumFault → String
  | notText kind => "can only concatenate str (not \"" ++ kind ++ "\") to str"
  | notBytes kind => "can't concat " ++ kind ++ " to bytes"
  | notListed kind => "'" ++ kind ++ "' object is not iterable"
  | unsupported left right =>
    "unsupported operand type(s) for +=: '" ++ left ++ "' and '" ++ right ++ "'"

namespace TableFault

def message : TableFault → String
  | noKeyColumns => "primary_key must name at least one column"
  | noPrimaryKey table => "Table '" ++ table ++ "' has no primary key"
  | missingKey table columns =>
    "Missing primary key columns for table '" ++ table ++ "': " ++ Text.quoteNames columns
  | unknownColumns table columns =>
    "Unknown columns for table '" ++ table ++ "': " ++ Text.quoteNames columns
  | notLeading pinned key =>
    "Scan prefix " ++ Text.quoteNames pinned ++ " is not a leading part of " ++
      Text.quoteNames key
  | notLeadingOf table pinned key =>
    "Scan prefix " ++ Text.quoteNames pinned ++ " is not a leading part of the primary key " ++
      Text.quoteNames key ++ " of table '" ++ table ++ "'"
  | unordered left right =>
    "'<' not supported between instances of '" ++ left ++ "' and '" ++ right ++ "'"
  | unhashable kind => "unhashable type: '" ++ kind ++ "'"

def errorClass : TableFault → ErrorClass
  | unordered .. | unhashable _ => .type
  | _ => .value

end TableFault

namespace DatabaseFault

def message : DatabaseFault → String
  | notNull table column => "NOT NULL constraint failed: " ++ table ++ "." ++ column
  | notUnique table columns =>
    "UNIQUE constraint failed: " ++ ", ".intercalate (columns.map fun c => table ++ "." ++ c)
  | noSuchTable table => "no such table: " ++ table
  | emptyAssignment => "near \"WHERE\": syntax error"
  | unsupportedParameter position kind =>
    "Error binding parameter " ++ toString position ++ ": type '" ++ kind ++
      "' is not supported"
  | integerTooLarge => "Python int too large to convert to SQLite INTEGER"
  | unencodable codes => Text.encodeMessage codes
  | unopenable => "unable to open database file"
  | badAuthority authority => "invalid uri authority: " ++ authority
  | noSuchMode option mode => "no such " ++ option ++ " mode: " ++ mode
  | noSuchSystem name => "no such vfs: " ++ name
  | unreadable => "disk I/O error"
  | noSuchSchema schema => "unknown database " ++ schema
  | reservedName table => "object name reserved for internal use: " ++ table
  | tableExists table => "table " ++ table ++ " already exists"
  | noColumns => "near \")\": syntax error"
  | columnExists column => "duplicate column name: " ++ column
  | noSuchColumn column => "no such column: " ++ column
  | notChangeable table => "table " ++ table ++ " may not be modified"
  | notDroppable table => "table " ++ table ++ " may not be dropped"

def errorClass : DatabaseFault → ErrorClass
  | notNull .. | notUnique .. => .integrity
  | noSuchTable _ | emptyAssignment | unopenable | badAuthority _ | noSuchMode ..
  | noSuchSystem _ | unreadable | noSuchSchema _ | reservedName _ | tableExists _
  | noColumns | columnExists _ | noSuchColumn _ | notChangeable _ | notDroppable _ =>
    .operational
  | unsupportedParameter .. => .programming
  | integerTooLarge => .overflow
  | unencodable _ => .unencodable

/-- The class that the database itself gives, where it gives one. -/
def origin? : DatabaseFault → Option ErrorClass
  | integerTooLarge | unencodable _ => none
  | fault => some fault.errorClass

end DatabaseFault

namespace NumberFault

def message : NumberFault → String
  | notANumber => "cannot convert float NaN to integer"
  | infinite => "cannot convert float infinity to integer"
  | tooLarge => "int too large to convert to float"
  | tooManyDigits => Spelled.unwritableMessage

def errorClass : NumberFault → ErrorClass
  | notANumber | tooManyDigits => .value
  | infinite | tooLarge => .overflow

end NumberFault

/-- The class of the failure of a number that is not spelled as one. -/
def SpellingFault.errorClass : SpellingFault → ErrorClass
  | notWhole _ | tooLong _ | notReal _ => .value
  | wholeOfKind _ | realOfKind _ => .type

namespace UrlFault

def message : UrlFault → String
  | unreadable => "Could not parse SQLAlchemy URL from given URL string"
  | badPort fault => fault.message
  | manyDrivers => "too many values to unpack (expected 2)"
  | unknownDriver name => "Can't load plugin: sqlalchemy.dialects:" ++ name
  | unknownPlugin name => "Can't load plugin: sqlalchemy.plugins:" ++ name
  | missingModule name => "No module named " ++ Text.quote name
  | notDriver part => part ++ " has no attribute 'dialect'"
  | misplaced url =>
    "Invalid SQLite URL: " ++ url ++
      "\nValid SQLite URL forms are:\n sqlite:///:memory: (or, sqlite://)\n" ++
      " sqlite:///relative/path/to/file.db\n sqlite:////absolute/path/to/file.db"
  | badFlag word => "String is not true/false: " ++ Text.quote word
  | badNumber fault => fault.message
  | badIsolation =>
    "isolation_level string must be '', 'DEFERRED', 'IMMEDIATE', or 'EXCLUSIVE'"
  | largeNumber => "Python int too large to convert to C int"
  | noDatabase => "expected str, bytes or os.PathLike object, not NoneType"
  | optionsWithoutDatabase => "unsupported operand type(s) for +=: 'NoneType' and 'str'"

def errorClass : UrlFault → ErrorClass
  | unreadable | misplaced _ => .argument
  | badPort fault | badNumber fault => fault.errorClass
  | manyDrivers | badFlag _ | badIsolation => .value
  | largeNumber => .overflow
  | notDriver _ => .noAttribute
  | noDatabase | optionsWithoutDatabase => .type
  | unknownDriver _ | unknownPlugin _ => .noSuchModule
  | missingModule _ => .moduleNotFound

end UrlFault

namespace PathFault

def message : PathFault → String
  | blocked .missing => "No such file or directory"
  | blocked .notDirectory => "Not a directory"
  | blocked .taken => "File exists"
  | blocked .tooLong => "File name too long"
  | blocked .tooDeep => "maximum recursion depth exceeded while calling a Python object"
  | unknownHome => "Could not determine home directory."
  | holdsNull => "embedded null byte"

def errorClass : PathFault → ErrorClass
  | blocked .missing => .fileNotFound
  | blocked .notDirectory => .notADirectory
  | blocked .taken => .fileExists
  | blocked .tooLong => .os
  | blocked .tooDeep => .recursion
  | unknownHome => .runtime
  | holdsNull => .value

end PathFault

def Deepening.message (doing : Deepening) : String :=
  "maximum recursion depth exceeded" ++
    match doing with
    | encodeItem => " while encoding a JSON object"
    | callObject => " while calling a Python object"
    | spellObject => " while getting the str of an object"
    | runBody => ""

/-- The class of the failure of a line that follows a template. -/
def Log.TemplateFault.errorClass : Log.TemplateFault → ErrorClass
  | .noSuchCharacter | .widthTooLarge | .precisionOfWord | .precisionTooLarge => .overflow
  | .outOfMemory => .memory
  | .widthNotWhole | .tooFewValues | .notNumeric .. | .notWhole .. | .notReal _ | .notCharacter =>
    .type
  | _ => .value

/-- The class of the failure of a time without a date. -/
def Log.TimeFault.errorClass : Log.TimeFault → ErrorClass
  | .notANumber => .value
  | .outOfRange | .lateYear => .overflow
  | .outsideCalendar => .os

def MessageClass.errorClass : MessageClass → ErrorClass
  | catalog => .catalog
  | notFound => .notFound
  | alreadyExists => .alreadyExists
  | corruptData => .corruptData
  | corruptConnection => .corruptConnection

namespace ForeignClass

/-- The classes of system errors that have one of their own, by their numbers. -/
def systemErrors : List (Int × ErrorClass) :=
  [(1, .permission), (2, .fileNotFound), (3, .noSuchProcess), (4, .interrupted),
    (10, .childProcess), (11, .wouldBlock), (13, .permission), (17, .fileExists),
    (20, .notADirectory), (21, .isADirectory), (32, .brokenPipe), (103, .connectionAborted),
    (104, .connectionReset), (108, .brokenPipe), (110, .timeout), (111, .connectionRefused),
    (114, .wouldBlock), (115, .wouldBlock)]

/-- The class of system errors with a number. -/
def ofNumber (v : Value) : ErrorClass :=
  let known := fun n : Int => ((systemErrors.find? (·.1 == n)).map (·.2)).getD .os
  match v with
  | .int n => known n
  | .bool b => known (if b then 1 else 0)
  | _ => .os

/-- Whether a failure of the class names a system error by its number when it has
two to five arguments; the third and the fifth are the files concerned. -/
def isNumbered : ForeignClass → Bool
  | os | connection | timeout => true
  | _ => false

/-- The class of a failure with arguments: a system error may have one of its own. -/
def errorClass (kind : ForeignClass) (arguments : List Value) : ErrorClass :=
  match kind, arguments with
  | os, number :: _ :: files => if files.length ≤ 3 then ofNumber number else .os
  | os, _ => .os
  | connection, _ => .connection
  | timeout, _ => .timeout
  | runtime, _ => .runtime
  | value, _ => .value
  | key, _ => .key
  | type, _ => .type

/-- The files that the arguments after a number and a text name.  Where an operation
would have blocked, a number stands there instead: how much was written. -/
def filesText (c : ErrorClass) : List Value → String
  | [] | .null :: _ => ""
  | file :: rest =>
    match c, file with
    | .wouldBlock, .int _ => ""
    | .wouldBlock, .bool _ => ""
    | _, _ =>
      match rest with
      | [] | [_] | [_, .null] => ": " ++ file.quoted
      | _ :: second :: _ => ": " ++ file.quoted ++ " -> " ++ second.quoted

/-- The text of a failure with arguments. -/
def message (kind : ForeignClass) : List Value → String
  | [] => ""
  | [v] => if kind = key then v.quoted else v.toText
  | arguments@(number :: text :: files) =>
    if kind.isNumbered ∧ files.length ≤ 3 then
      "[Errno " ++ number.toText ++ "] " ++ text.toText ++
        filesText (kind.errorClass arguments) files
    else "(" ++ ", ".intercalate (arguments.map Value.quoted) ++ ")"

/-- Why a failure cannot be made from its arguments: where an operation would have
blocked, a number in the place of a file has to be a size. -/
def refusal? (kind : ForeignClass) (arguments : List Value) : Option (ForeignClass × String) :=
  match kind.errorClass arguments, arguments with
  | .wouldBlock, _ :: _ :: .float _ :: _ =>
    some (type, "'float' object cannot be interpreted as an integer")
  | .wouldBlock, _ :: _ :: .int n :: _ =>
    if Number.fitsWord n then none
    else some (value, "cannot fit 'int' into an index-sized integer")
  | _, _ => none

/-- What a failure says of itself in one line: a system error gives its text alone,
without its number and its files. -/
def brief (kind : ForeignClass) (arguments : List Value) : String :=
  match arguments with
  | _ :: text :: files =>
    if kind.isNumbered ∧ files.length ≤ 3 ∧ text.truth then text.toText
    else kind.message arguments
  | _ => kind.message arguments

/-- The arguments that a failure keeps: not the files concerned. -/
def kept (kind : ForeignClass) (arguments : List Value) : List Value :=
  match arguments with
  | number :: text :: files =>
    if kind.isNumbered ∧ files.length ≤ 3 ∧ filesText (kind.errorClass arguments) files ≠ "" then
      [number, text]
    else arguments
  | _ => arguments

end ForeignClass

namespace Failure

def errorClass : Failure → ErrorClass
  | stated kind _ => kind.errorClass
  | connectionNotFound _ => .connectionNotFound
  | connectionAlreadyExists .. => .connectionAlreadyExists
  | unknownType _ => .unknownType
  | corruptRow _ => .corruptConnection
  | tableNotFound _ => .tableNotFound
  | systemTableMissing .. => .systemTableMissing
  | invalid _ => .validation
  | unknownField .. => .value
  | derivedField .. => .noAttribute
  | unfitPart .. => .type
  | tooDeep _ | exhausted _ => .recursion
  | table fault => fault.errorClass
  | database fault => fault.errorClass
  | number fault => fault.errorClass
  | spelling fault => fault.errorClass
  | sum _ => .type
  | notAMapping _ => .type
  | reservedField _ => .key
  | template fault => fault.errorClass
  | time fault => fault.errorClass
  | url fault => fault.errorClass
  | path fault => fault.errorClass
  | foreign kind arguments => kind.errorClass arguments
  | brought kind _ => .brought kind

/-- What is said where nothing is stated. -/
def generalMessage : String := "An error occurred"

def message : Failure → String
  | stated _ message => if message.isEmpty then generalMessage else message
  | connectionNotFound id => "Connection '" ++ id ++ "' does not exist"
  | connectionAlreadyExists name id =>
    "Connection named '" ++ name ++ "' with id '" ++ id ++ "' already exists."
  | unknownType value => "Unknown connection type '" ++ value ++ "' in stored connection"
  | corruptRow fault => fault.message
  | tableNotFound id => "Table '" ++ id ++ "' not found"
  | systemTableMissing id _ =>
    "System table '" ++ id ++ "' does not exist. Please check your system environment."
  | invalid reason => reason.message
  | unknownField record field =>
    "\"" ++ record ++ "\" object has no field \"" ++ field ++ "\""
  | derivedField record field =>
    "property '" ++ field ++ "' of '" ++ record ++ "' object has no setter"
  | unfitPart part kind => part.message kind
  | tooDeep inArray => (Json.Fault.tooDeep inArray).message
  | exhausted doing => doing.message
  | table fault => fault.message
  | database fault => fault.message
  | number fault => fault.message
  | spelling fault => fault.message
  | sum fault => fault.message
  | notAMapping kind => "'" ++ kind ++ "' object is not a mapping"
  | reservedField name =>
    Text.quote ("Attempt to overwrite " ++ Text.quote name ++ " in LogRecord")
  | template fault => fault.message
  | time fault => fault.message
  | url fault => fault.message
  | path fault => fault.message
  | foreign kind arguments => kind.message arguments
  | brought _ message => message

/-- The message of a failure in one line. -/
def brief : Failure → String
  | foreign kind arguments => kind.brief arguments
  | f => f.message

/-- A failure that comes from elsewhere, or the one that making it ends in. -/
def ofArguments (kind : ForeignClass) (arguments : List Value) : Except Failure Failure :=
  match kind.refusal? arguments with
  | some (refused, text) => .error (foreign refused [.text text])
  | none => .ok (foreign kind arguments)

/-- The names that a failure carries besides its message. -/
def attributes : Failure → List (String × String)
  | connectionNotFound id => [("id", id)]
  | connectionAlreadyExists name id => [("id", id), ("name", name)]
  | unknownType value => [("value", value)]
  | tableNotFound id => [("table_id", id)]
  | systemTableMissing id _ => [("table_id", id)]
  | _ => []

/-- The class of the failure that a failure was raised from. -/
def cause? : Failure → Option ErrorClass
  | corruptRow fault => fault.cause?
  | systemTableMissing _ true => some .tableNotFound
  | _ => none

/-- What is wrong with single fields. -/
def issues? : Failure → Option (List Issue)
  | invalid reason => some reason.issues
  | corruptRow (.invalid reason) => some reason.issues
  | _ => none

/-- The class that a database gave to a failure. -/
def origin? : Failure → Option ErrorClass
  | database fault => fault.origin?
  | _ => none

/-- What a failure was made from, as values. -/
def arguments : Failure → List Value
  | foreign kind arguments => kind.kept arguments
  | f => [.text f.message]

/-- Whether a failure falls into a class. -/
def isA (f : Failure) (c : ErrorClass) : Bool := f.errorClass.lineage.contains c

end Failure

/-! ## Steps that may fail -/

namespace Except

variable {ε α β : Type}

theorem bind_eq_ok_iff {x : Except ε α} {f : α → Except ε β} {b : β} :
    x >>= f = .ok b ↔ ∃ a, x = .ok a ∧ f a = .ok b := by
  cases x <;> simp [bind, Except.bind]

theorem bind_eq_error_iff {x : Except ε α} {f : α → Except ε β} {e : ε} :
    x >>= f = .error e ↔ x = .error e ∨ ∃ a, x = .ok a ∧ f a = .error e := by
  cases x <;> simp [bind, Except.bind]

theorem bind_congr_ok {x : Except ε α} {f g : α → Except ε β}
    (h : ∀ a, x = .ok a → f a = g a) : x >>= f = x >>= g := by
  cases x with
  | error e => rfl
  | ok a => exact h a rfl

theorem map_eq_ok_iff {x : Except ε α} {f : α → β} {b : β} :
    x.map f = .ok b ↔ ∃ a, x = .ok a ∧ f a = b := by
  cases x <;> simp [Except.map]

end Except
end ConnectionCatalog
