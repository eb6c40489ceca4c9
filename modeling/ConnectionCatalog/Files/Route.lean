import ConnectionCatalog.Files.Tree
import ConnectionCatalog.Text.Parts

/-! # Files.Route — paths as they are written

A route is read from a text: names between slashes, from the root where the text
starts with a slash and else from the working directory.  Empty names and single
dots lead nowhere.  A route whose first name is a tilde starts at home.

A route leads to a place in two ways: through the tree, name by name, or by its
letters alone, where two dots take the name before them away.
-/

namespace ConnectionCatalog.Files

/-- The names of a written path, and whether they lead from the root. -/
structure Route where
  fromRoot : Bool
  names : List String
deriving DecidableEq, Repr

namespace Route

def ofText (s : String) : Route :=
  ⟨s.toList.head? = some '/',
    (Text.parts '/' s).filter fun name => name ≠ "" ∧ name ≠ "."⟩

/-- The route to the directory of what a route leads to. -/
def parent (r : Route) : Route := { r with names := r.names.dropLast }

/-- Whether a route starts at somebody's home. -/
def startsAtHome (r : Route) : Bool :=
  !r.fromRoot && (r.names.headD "").toList.head? == some '~'

/-- A route whose start is spelled out; only one's own home is known. -/
def expanded? (home : Path) (r : Route) : Option Route :=
  if r.startsAtHome then
    if r.names.head? = some "~" then some ⟨true, home ++ r.names.tail⟩ else none
  else some r

/-- A route as it is written out. -/
def toText (r : Route) : String := (if r.fromRoot then "/" else "") ++ "/".intercalate r.names

/-- A written path has fewer bytes than this. -/
def maxLength : Nat := 4096

/-- Whether a route is too long to be gone. -/
def isLong (r : Route) : Bool := maxLength ≤ r.toText.utf8ByteSize

/-- Where a route starts. -/
def start (working : Path) (r : Route) : Path := if r.fromRoot then [] else working

/-- The place to which a route leads by its letters. -/
def place (working : Path) (r : Route) : Path :=
  r.names.foldl (fun here name => if name = ".." then here.dropLast else here ++ [name])
    (r.start working)

end Route
end ConnectionCatalog.Files
