import ConnectionCatalog.Number.Decimal
import ConnectionCatalog.Text.Codes

/-! # Json — documents

The value that a JSON document denotes.  An object keeps its members in the
order in which their names first appear; of two members with one name the later
counts.
-/

namespace ConnectionCatalog

/-- A JSON document. -/
inductive Json
  | null
  | bool (b : Bool)
  | int (n : Int)
  | float (d : Double)
  | text (codes : Codes)
  | array (items : List Json)
  | object (members : List (Codes × Json))
deriving Inhabited

namespace Json

/-- Puts a member at the end, or in the place of the one with its name. -/
def putMember (name : Codes) (value : Json) : List (Codes × Json) → List (Codes × Json)
  | [] => [(name, value)]
  | m :: ms => if m.1 = name then (name, value) :: ms else m :: putMember name value ms

/-- An object of members in the order written. -/
def ofMembers (members : List (Codes × Json)) : Json :=
  object (members.foldl (fun ms m => putMember m.1 m.2 ms) [])

end Json
end ConnectionCatalog
