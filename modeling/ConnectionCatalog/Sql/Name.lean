/-! # Sql.Name — names in a database

Tables and schemas are found by name, whatever the case of its plain letters.  A statement
writes a name in quotes unless it is made of small letters and digits and means nothing
else there.
-/

namespace ConnectionCatalog.Sql

/-- A schema of a database: its own, or that of its temporary tables. -/
inductive Schema
  | main
  | temporary
deriving DecidableEq, Repr

namespace Name

/-- A name in small letters. -/
def folded (name : String) : String := String.ofList (name.toList.map Char.toLower)

/-- The words that mean something in a statement. -/
def keywords : List String := [
  "add", "after", "all", "alter", "analyze", "and", "as", "asc", "attach", "autoincrement",
  "before", "begin", "between", "by", "cascade", "case", "cast", "check", "collate", "column",
  "commit", "conflict", "constraint", "create", "cross", "current_date", "current_time",
  "current_timestamp", "database", "default", "deferrable", "deferred", "delete", "desc",
  "detach", "distinct", "drop", "each", "else", "end", "escape", "except", "exclusive",
  "exists", "explain", "false", "fail", "for", "foreign", "from", "full", "glob", "group",
  "having", "if", "ignore", "immediate", "in", "index", "indexed", "initially", "inner",
  "insert", "instead", "intersect", "into", "is", "isnull", "join", "key", "left", "like",
  "limit", "match", "natural", "not", "notnull", "null", "of", "offset", "on", "or", "order",
  "outer", "plan", "pragma", "primary", "query", "raise", "references", "reindex", "rename",
  "replace", "restrict", "right", "rollback", "row", "select", "set", "table", "temp",
  "temporary", "then", "to", "transaction", "trigger", "true", "union", "unique", "update",
  "using", "vacuum", "values", "view", "virtual", "when", "where"]

/-- Whether a character may stand in a name without quotes. -/
def isPlain (c : Char) : Bool := c.isLower || c.isDigit || c = '_' || c = '$'

/-- Whether a name is written without quotes. -/
def isBare (name : String) : Bool :=
  name.toList.all isPlain && !keywords.contains name &&
    match name.toList with
    | c :: _ => !(c.isDigit || c = '$')
    | [] => false

/-- A name as a statement writes it; a quote in it is doubled. -/
def written (name : String) : String :=
  if isBare name then name
  else "\"" ++ String.ofList (name.toList.flatMap fun c => if c = '"' then [c, c] else [c]) ++ "\""

/-- Whether a name is kept for the tables of the database itself. -/
def isReserved (name : String) : Bool := "sqlite_".toList.isPrefixOf (folded name).toList

/-- The schema that a name stands for. -/
def schema? (name : String) : Option Schema :=
  match folded name with
  | "main" => some .main
  | "temp" => some .temporary
  | _ => none

/-- The schema whose tables a table with a name lists. -/
def listedSchema? (name : String) : Option Schema :=
  match folded name with
  | "sqlite_master" | "sqlite_schema" => some .main
  | "sqlite_temp_master" | "sqlite_temp_schema" => some .temporary
  | _ => none

/-- The name of the table that lists the tables of a schema. -/
def listing : Schema → String
  | .main => "sqlite_master"
  | .temporary => "sqlite_temp_master"

end Name
end ConnectionCatalog.Sql
