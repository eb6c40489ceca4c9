import ConnectionCatalog.Failure
import ConnectionCatalog.Files.Route
import ConnectionCatalog.Text.Percent

/-! # Engine.Opening — what a database opens by a name

A name is that of a file, or `:memory:` for a database that no file keeps; an empty
name makes a private file that goes away.  Where URIs are understood, a name that
starts with `file:` is one: percent signs spell its characters, options follow a
question mark, and after a hash sign comes nothing that counts.
-/

namespace ConnectionCatalog

/-- How a file is opened: it is made if it is missing, or it has to exist, and may then be
only read. -/
inductive FileMode
  | asNeeded
  | existing
  | readOnly
deriving DecidableEq, Repr

/-- What a connection opens.  A new file may take its permissions from another. -/
inductive Target
  | memory
  | temporary
  | file (path : Files.Path) (mode : FileMode) (permissions? : Option Files.Route)
deriving DecidableEq, Repr

namespace Target

/-- What a plain name opens; no name of a file holds a null. -/
def ofName (working : Files.Path) (name : String) : Except Failure Target :=
  if name = ":memory:" then .ok .memory
  else if name = "" then .ok .temporary
  else if name.toList.contains '\x00' then .error (.path .holdsNull)
  else .ok (.file ((Files.Route.ofText name).place working) .asNeeded none)

/-! ## URIs -/

/-- A part of a URI with its percent signs resolved, up to the first null. -/
def uriPart (cs : List Char) : String :=
  String.ofList ((Text.percentRead [] cs).takeWhile (· ≠ '\x00'))

/-- What follows the authority of a URI.  There is one after two slashes, and it is empty
or the local machine. -/
def afterAuthority : List Char → Except DatabaseFault (List Char)
  | '/' :: '/' :: cs =>
    let authority := String.ofList (cs.takeWhile (· ≠ '/'))
    if authority = "" ∨ authority = "localhost" then .ok (cs.dropWhile (· ≠ '/'))
    else .error (.badAuthority authority)
  | cs => .ok cs

/-- The names and values of the options of a URI; one without a name does not count. -/
def uriOptions (cs : List Char) : List (String × String) :=
  (Text.parts '&' (String.ofList cs)).filterMap fun part =>
    let key := uriPart (part.toList.takeWhile (· ≠ '='))
    if key = "" then none
    else some (key, uriPart ((part.toList.dropWhile (· ≠ '=')).drop 1))

/-- How the options of a URI ask for a database to be opened. -/
inductive OpenMode
  | onDisk (mode : FileMode)
  | inMemory
deriving DecidableEq, Repr

/-- The mode that options ask for, one after the other; a word that is no mode is
refused. -/
def openMode (mode : OpenMode) : List (String × String) → Except DatabaseFault OpenMode
  | [] => .ok mode
  | ("mode", word) :: rest =>
    match word with
    | "rwc" => openMode (.onDisk .asNeeded) rest
    | "rw" => openMode (.onDisk .existing) rest
    | "ro" => openMode (.onDisk .readOnly) rest
    | "memory" => openMode .inMemory rest
    | _ => .error (.noSuchMode "access" word)
  | ("cache", word) :: rest =>
    if word = "shared" ∨ word = "private" then openMode mode rest
    else .error (.noSuchMode "cache" word)
  | _ :: rest => openMode mode rest

/-- A target in a mode. -/
def inMode : Target → OpenMode → Target
  | _, .inMemory => .memory
  | .file path _ permissions?, .onDisk mode => .file path mode permissions?
  | target, _ => target

/-- The file systems that may be asked for by name. -/
def fileSystems : List String := ["unix", "unix-none", "unix-dotfile", "unix-excl", "memdb"]

/-- A target in the file system that options name last; that of memory keeps no
files. -/
def inSystem (options : List (String × String)) (target : Target) :
    Except DatabaseFault Target :=
  match (options.filter fun o => o.1 = "vfs").getLast? with
  | none => .ok target
  | some (_, name) =>
    if name = "memdb" then .ok .memory
    else if fileSystems.contains name then .ok target
    else .error (.noSuchSystem name)

/-- A target with the permissions of the file that options name; one without a name is
never there. -/
def withPermissions (options : List (String × String)) : Target → Except DatabaseFault Target
  | .file path mode _ =>
    match options.lookup "modeof" with
    | none => .ok (.file path mode none)
    | some "" => .error .unreadable
    | some text => .ok (.file path mode (some (Files.Route.ofText text)))
  | target => .ok target

/-- A target as options ask for it. -/
def withOptions (options : List (String × String)) (target : Target) :
    Except DatabaseFault Target := do
  let mode ← openMode (.onDisk .asNeeded) options
  ((← target.inSystem options).inMode mode).withPermissions options

/-- What a URI opens; `cs` follows the word `file:`. -/
def ofUri (working : Files.Path) (cs : List Char) : Except Failure Target := do
  let cs ← (afterAuthority (cs.takeWhile (· ≠ '#'))).mapError .database
  let target ← ofName working (uriPart (cs.takeWhile (· ≠ '?')))
  (target.withOptions (uriOptions ((cs.dropWhile (· ≠ '?')).drop 1))).mapError .database

/-- What a text opens where URIs are understood. -/
def ofText (working : Files.Path) (s : String) : Except Failure Target :=
  match s.toList with
  | 'f' :: 'i' :: 'l' :: 'e' :: ':' :: cs =>
    if s.toList.contains '\x00' then .error (.path .holdsNull) else ofUri working cs
  | _ => ofName working s

end Target

/-! ## Opening -/

namespace Files

/-- The path of a file that is opened has so many bytes at most. -/
def maxOpenLength : Nat := 504

/-- Whether a file can be opened by a path. -/
def isOpenable (path : Path) : Bool :=
  !path.any Tree.isLongName &&
    (path.map fun name => name.utf8ByteSize + 1).foldl Nat.add 0 ≤ maxOpenLength

/-- The tree after a target is opened, from a working directory: a file that is missing
is made, unless it has to exist, and only in a directory that exists.  A directory can be
opened for reading, and then cannot be read. -/
def Tree.openTarget (t : Tree) (working : Path) : Target → Except DatabaseFault Tree
  | .memory | .temporary => .ok t
  | .file path mode permissions? =>
    if !isOpenable path then .error .unopenable
    else if permissions?.any fun r => (t.followed? (r.start working) r.names).isNone then
      .error .unreadable
    else
      match t.kindAt? path with
      | some .file => .ok t
      | some .directory => .error (if mode = .readOnly then .unreadable else .unopenable)
      | none =>
        if mode ≠ .asNeeded || !t.isDirectory path.dropLast then .error .unopenable
        else .ok (t.put .file path)

end Files
end ConnectionCatalog
