import ConnectionCatalog.Engine.Url
import ConnectionCatalog.Text.LowerCase

/-! # Engine.Driver — who speaks to a database, and how

A scheme may name the driver after the backend.  Some of a URL's options are meant for
the driver: they are read in a fixed order, each as a value of its own type, and some of
them are looked at again only when a connection is opened.
-/

namespace ConnectionCatalog

/-! ## Drivers -/

/-- The drivers of SQLite that are there. -/
def sqliteDrivers : List String := ["pysqlite", "base"]

/-- The drivers of SQLite that need a module that is not there. -/
def sqliteModules : List (String × String) :=
  [("aiosqlite", "aiosqlite"), ("pysqlcipher", "pysqlcipher3")]

/-- Types that are found where the drivers of SQLite are. -/
def sqliteTypes : List String :=
  ["BLOB", "BOOLEAN", "CHAR", "DATE", "DATETIME", "DECIMAL", "FLOAT", "INTEGER", "JSON",
    "NUMERIC", "REAL", "SMALLINT", "TEXT", "TIME", "TIMESTAMP", "VARCHAR", "Insert"]

/-- What is found under a name where the drivers of SQLite are, if it is none of them. -/
def sqlitePart? (name : String) : Option String :=
  if name = "json" ∨ name = "dml" then
    some ("module 'sqlalchemy.dialects.sqlite." ++ name ++ "'")
  else if name = "insert" then some "'function' object"
  else if name = "dialect" then some "type object 'SQLiteDialect_pysqlite'"
  else if sqliteTypes.contains name then some ("type object '" ++ name ++ "'")
  else none

/-- Why a driver does not serve SQLite. -/
def sqliteDriverFault? (driver : String) : Option UrlFault :=
  if sqliteDrivers.contains driver then none
  else
    match sqliteModules.lookup driver, sqlitePart? driver with
    | some module, _ => some (.missingModule module)
    | none, some part => some (.notDriver part)
    | none, none => some (.unknownDriver ("sqlite." ++ driver))

/-! ## Options -/

/-- The options that are meant for the driver; the others say nothing that shows. -/
structure DriverOptions where
  uri : Bool
  /-- Whether several levels of isolation were asked for. -/
  manyLevels : Bool
  detectTypes : Int
  cachedStatements : Int
deriving DecidableEq, Repr

namespace DriverOptions

/-- The names of the options that are meant for the driver. -/
def names : List String :=
  ["uri", "timeout", "isolation_level", "detect_types", "check_same_thread",
    "cached_statements"]

/-- The kind of what several values of one option make. -/
def manyKind : String := "tuple"

/-- Whether an option is switched on; one with several values is. -/
def flag (u : DatabaseUrl) (key : String) : Except UrlFault Bool :=
  match u.option? key with
  | none => .ok false
  | some [v] =>
    let word := String.ofList (Text.lowerCase (Text.trim v.toList))
    if ["true", "yes", "on", "y", "t", "1"].contains word then .ok true
    else if ["false", "no", "off", "n", "f", "0"].contains word then .ok false
    else .error (.badFlag word)
  | some _ => .ok true

/-- A whole number that an option gives. -/
def whole (u : DatabaseUrl) (key : String) (absent : Int) : Except UrlFault Int :=
  match u.option? key with
  | none => .ok absent
  | some [v] => (Spelled.whole v).mapError .badNumber
  | some _ => .error (.badNumber (.wholeOfKind manyKind))

/-- Checks that an option gives a number. -/
def real (u : DatabaseUrl) (key : String) : Except UrlFault Unit :=
  match u.option? key with
  | none => .ok ()
  | some [v] => ((Spelled.double v).map fun _ => ()).mapError .badNumber
  | some _ => .error (.badNumber (.realOfKind manyKind))

/-- Reads the options in the order of their names. -/
def ofUrl (u : DatabaseUrl) : Except UrlFault DriverOptions := do
  let uri ← flag u "uri"
  real u "timeout"
  let manyLevels := (u.option? "isolation_level").any fun vs => 1 < vs.length
  let detectTypes ← whole u "detect_types" 0
  let _ ← flag u "check_same_thread"
  let cachedStatements ← whole u "cached_statements" 128
  return ⟨uri, manyLevels, detectTypes, cachedStatements⟩

/-- The whole numbers that a driver takes lie below this bound, and not below its
negative. -/
def bound : Int := 2147483648

/-- Checks that a driver takes a whole number. -/
def checkNumber (n : Int) : Except UrlFault Unit :=
  if -bound ≤ n ∧ n < bound then .ok () else .error .largeNumber

/-- Checks that a driver takes the options. -/
def check (o : DriverOptions) : Except UrlFault Unit := do
  checkNumber o.detectTypes
  if o.manyLevels then throw .badIsolation
  checkNumber o.cachedStatements

end DriverOptions
end ConnectionCatalog
