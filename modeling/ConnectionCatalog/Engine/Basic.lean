import ConnectionCatalog.Engine.Driver
import ConnectionCatalog.Engine.Opening
import ConnectionCatalog.Engine.Url
import ConnectionCatalog.Settings.Basic
import ConnectionCatalog.Table.Basic

/-! # Engine.Basic — access to the database that the settings name

An engine knows how its connections are opened and shared.  Building one for a
database in a file first makes the directory that the file is to be in.  A database
that no file keeps is shared by all who ask, as otherwise each of them would see one
of its own.
-/

namespace ConnectionCatalog

/-- Where a program runs: the files, its working directory and its user's home. -/
structure Site where
  tree : Files.Tree
  working : Files.Path
  home : Files.Path

/-- How connections are shared. -/
inductive Pool
  | single
  | perThread
  | queued
deriving DecidableEq, Repr

/-- What connections open: a plain name, a text that may be a URI, or nothing where a URI
was asked for and there is no database. -/
inductive Source
  | name (name : String)
  | uri (text : String)
  | missing
deriving DecidableEq, Repr

/-- Access to a database. -/
structure Engine where
  url : DatabaseUrl
  options : DriverOptions
  source : Source
  pool : Pool
  echo : Bool
  prePing : Bool
deriving DecidableEq, Repr

namespace DatabaseUrl

/-- Whether a URL names a SQLite database. -/
def isSqlite (u : DatabaseUrl) : Bool := u.backend == "sqlite"

/-- Whether a URL names no database that a file would keep. -/
def namesNoFile (u : DatabaseUrl) : Bool :=
  match u.database? with
  | none => true
  | some name => name == "" || name == ":memory:"

/-- Why no driver serves a URL. -/
def driverFault? (u : DatabaseUrl) : Option UrlFault :=
  match u.schemeParts with
  | ["sqlite"] => none
  | ["sqlite", driver] => sqliteDriverFault? driver
  | [backend] => some (.unknownDriver backend)
  | [backend, driver] => some (.unknownDriver (backend ++ "." ++ driver))
  | _ => some .manyDrivers

/-- Whether a URL says who asks, or of which machine; a database in a file has neither. -/
def namesServer (u : DatabaseUrl) : Bool :=
  u.user?.getD "" != "" || u.password?.getD "" != "" || u.host?.getD "" != "" ||
    u.port?.getD 0 != 0

/-- The values of an option, as a URI gives them. -/
def optionText : List String → String
  | [v] => v
  | vs => "(" ++ ", ".intercalate (vs.map Text.quote) ++ ")"

/-- The options that are meant for the database, as a URI has them. -/
def uriOptions (u : DatabaseUrl) : List String :=
  (u.sortedOptions.filter fun o => !DriverOptions.names.contains o.1).map fun o =>
    o.1 ++ "=" ++ optionText o.2

/-- What connections open. -/
def source (u : DatabaseUrl) (uri : Bool) : Except UrlFault Source :=
  if uri then
    match u.database?, u.uriOptions with
    | some database, [] => .ok (.uri database)
    | some database, options => .ok (.uri (database ++ "?" ++ "&".intercalate options))
    | none, [] => .ok .missing
    | none, _ => .error .optionsWithoutDatabase
  else .ok (.name (if u.namesNoFile then ":memory:" else u.database?.getD ""))

/-- How connections to a database are shared if nothing else is asked for. -/
def pool (u : DatabaseUrl) : Pool :=
  if u.namesNoFile || u.option? "mode" == some ["memory"] then .perThread else .queued

end DatabaseUrl

namespace Engine

/-- An engine for a URL that a driver serves. -/
def make (u : DatabaseUrl) (pool : Pool) (echo prePing : Bool) : Except UrlFault Engine :=
  match (u.option? "plugin").bind List.head?, u.driverFault? with
  | some plugin, _ => .error (.unknownPlugin plugin)
  | none, some fault => .error fault
  | none, none =>
    if u.namesServer then .error (.misplaced u.toText)
    else do
      let options ← DriverOptions.ofUrl u
      return ⟨u, options, ← u.source options.uri, pool, echo, prePing⟩

/-- Makes the directory in which a file of a name is to be. -/
def prepare (name : String) : Access Site Unit := do
  let site ← get
  let holdsNull := fun n : String => n.toList.contains '\x00'
  let route := Files.Route.ofText name
  match route.expanded? site.home with
  | none => throw (.path (if holdsNull (route.names.headD "") then .holdsNull else .unknownHome))
  | some route =>
    if route.parent.names.any holdsNull then throw (.path .holdsNull)
    if route.parent.isLong then throw (.path (.blocked .tooLong))
    let (tree, obstacle?) :=
      site.tree.makeDirectories (route.start site.working) route.parent.names
    set { site with tree }
    match obstacle? with
    | some obstacle => throw (.path (.blocked obstacle))
    | none => return

/-- The outcome of what concerns a URL alone. -/
def ofUrl {α : Type} : Except UrlFault α → Access Site α
  | .ok a => return a
  | .error fault => throw (.url fault)

/-- Builds the engine that settings describe. -/
def build (s : Settings) : Access Site Engine := do
  let u ← ofUrl (DatabaseUrl.ofText s.databaseUrl)
  if u.isSqlite && u.namesNoFile then ofUrl (make u .single s.dbEcho false)
  else
    if u.isSqlite then prepare (u.database?.getD "")
    ofUrl (make u u.pool s.dbEcho s.dbPoolPrePing)

/-- What connections open, in a working directory. -/
def target (e : Engine) (working : Files.Path) : Except Failure Target :=
  match e.source with
  | .name name => Target.ofName working name
  | .uri text => Target.ofText working text
  | .missing => .error (.url .noDatabase)

/-- Opens a connection. -/
def connect (e : Engine) : Access Site Unit := do
  ofUrl e.options.check
  let site ← get
  let target ← Access.ofExcept (e.target site.working)
  match site.tree.openTarget site.working target with
  | .ok tree => set { site with tree }
  | .error fault => throw (.database fault)

end Engine
end ConnectionCatalog
