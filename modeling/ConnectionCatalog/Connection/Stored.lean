import ConnectionCatalog.Connection.Record
import ConnectionCatalog.Json.Printer
import ConnectionCatalog.Table.Basic

/-! # Connection.Stored — connections as rows

A connection is stored in eight columns.  Its kind is stored by name and its
properties as a JSON object of texts, with the names in order, so equal
properties have one stored form.

A row is read back column by column; the first column that cannot be read decides
why a row is refused.  No column has a default here: a row that lacks one is
refused.

Calls that are under way are counted, and so are the levels of a document that are
open while it is read; there is one limit for both.  An operation that makes more
calls until it reads a row has fewer levels left for the document of the row.

Main statements: `Connection.toRow_key`, `decodeKind_name` and `Way.levels_pos`.
-/

namespace ConnectionCatalog

/-! ## Columns -/

/-- The name of the table that holds the connections. -/
def connectionsTable : String := "connections"

/-- The columns that form the key. -/
def connectionsKey : List String := ["namespace", "id"]

/-- The key columns of the connection at a place. -/
def NamespacedId.key (i : NamespacedId) : Row := i.fields

/-! ## Writing -/

/-- Properties as they are stored. -/
def encodeProperties (properties : TextMap String) : String :=
  (Json.object (properties.entries.map fun e =>
    (Codes.ofString e.1, .text (Codes.ofString e.2)))).toText Json.spaced

namespace Connection

/-- The row of a connection. -/
def toRow (c : Connection) : Row :=
  .ofList [("namespace", .text c.place.namespaceName), ("id", .text c.place.id),
    ("type", .text c.info.type.name), ("name", .text c.info.name),
    ("description", .text c.info.description),
    ("properties", .text (encodeProperties c.info.properties)),
    ("created", .int c.created), ("updated", .int c.updated)]

/-- A row stands under the key of its connection. -/
theorem toRow_key (c : Connection) :
    connectionsKey.map c.toRow.cell = connectionsKey.map c.place.key.cell := by
  simp [connectionsKey, toRow, NamespacedId.key, NamespacedId.fields, TextMap.cell,
    TextMap.ofList, TextMap.get?_insert]

end Connection

/-! ## Ways to a row -/

/-- The number of calls that may be under way at once. -/
def callLimit : Nat := 1000

/-- What calls the operations of a store: the calls that are under way when one starts.
The limit leaves some to the operation. -/
class Caller where
  calls : Nat
  leaves_some : calls + 100 ≤ callLimit

/-- A caller close to the start of a program. -/
@[reducible] def Caller.direct : Caller := ⟨8, by decide⟩

/-- How an operation comes to a row: it fetches the row at a place, looks whether there
is one, or lists the rows of a namespace. -/
inductive Way
  | fetch
  | look
  | list
deriving DecidableEq, Repr

namespace Way

/-- The calls of an operation that are under way when it starts to read a row. -/
def calls : Way → Nat
  | fetch => 3
  | look => 2
  | list => 1

/-- The calls between the reading of a row and that of its document. -/
def readerCalls : Nat := 6

/-- The levels that the document of a row may open. -/
def levels [Caller] (w : Way) : Nat := callLimit - Caller.calls - w.calls - readerCalls

theorem levels_pos [Caller] (w : Way) : 0 < w.levels := by
  have hcaller := Caller.leaves_some
  cases w <;> simp only [levels, calls, readerCalls, callLimit] at hcaller ⊢ <;> omega

/-- Fetching makes the most calls, so it leaves the fewest levels. -/
theorem fetch_levels_le [Caller] (w : Way) : fetch.levels ≤ w.levels := by
  cases w <;> simp only [levels, calls] <;> omega

end Way

/-! ## Reading columns -/

/-- Why a stored value names no kind; a whole number may have too many digits to be told. -/
def kindFault : Value → Failure
  | .int n => if Spelled.isWritable n then .unknownType (toString n) else .number .tooManyDigits
  | v => .unknownType v.toText

/-- The kind that a stored value names.  Lists and objects are not looked up at all. -/
def decodeKind (v : Value) : Except Failure ConnectionType :=
  match v with
  | .list _ | .object _ => .error (.table (.unhashable v.kindName))
  | v =>
    match v.text?.bind ConnectionType.ofName? with
    | some t => .ok t
    | none => .error (kindFault v)

/-- The document that a stored value spells, which may open `depth` levels. -/
def decodeDocument (depth : Nat) (v : Value) : Except Unreadable Json :=
  match v with
  | .bytes bs =>
    match Text.decodeDocument bs with
    | .error fault => .error (.undecodable fault)
    | .ok codes =>
      match Json.read depth codes with
      | .error fault => .error (.malformed fault)
      | .ok j => .ok j
  | v =>
    match v.codes? with
    | none => .error (.notText v.kindName)
    | some codes =>
      match Json.readCodes depth codes with
      | .error fault => .error (.malformed fault)
      | .ok j => .ok j

/-- The members of an object all of whose members are texts. -/
def textMembers? : List (Codes × Json) → Option (List (Codes × Codes))
  | [] => some []
  | (k, .text v) :: rest => (textMembers? rest).map ((k, v) :: ·)
  | _ :: _ => none

/-- The properties that a stored value spells, in the order in which they are
written. -/
def decodeProperties (depth : Nat) (v : Value) : Except Failure (List (Codes × Codes)) :=
  match decodeDocument depth v with
  | .error (.malformed (.tooDeep inArray)) => .error (.tooDeep inArray)
  | .error reason => .error (.corruptRow (.unreadable reason))
  | .ok (.object members) =>
    match textMembers? members with
    | some texts => .ok texts
    | none => .error (.corruptRow .notTexts)
  | .ok _ => .error (.corruptRow .notTexts)

/-- A text without lone surrogates. -/
def checkCodes (codes : Codes) : Except FieldFault String :=
  match codes.toString? with
  | some s => .ok s
  | none => .error .undecodable

/-- Names and values of properties are texts without lone surrogates. -/
def checkProperties : List (Codes × Codes) → Checked (TextMap String)
  | [] => .ok .empty
  | (k, v) :: rest =>
    (Checked.both (.atPath ["properties", k.lossy, "[key]"] (checkCodes k))
      (Checked.both (.atPath ["properties", k.lossy] (checkCodes v))
        (checkProperties rest))).map
      fun (k, v, texts) => texts.insert k v

/-! ## Reading rows -/

/-- A column that has to be there. -/
def storedColumn (row : Row) (column : String) : Except Failure Value :=
  match row.get? column with
  | some v => .ok v
  | none => .error (.corruptRow (.missingColumn column))

/-- The connection that a row holds, where an operation comes to it in some way. -/
def Connection.ofRow [Caller] (way : Way) (row : Row) : Except Failure Connection := do
  let namespaceName ← storedColumn row "namespace"
  let id ← storedColumn row "id"
  let type ← decodeKind (← storedColumn row "type")
  let name ← storedColumn row "name"
  let description ← storedColumn row "description"
  let properties ← decodeProperties way.levels (← storedColumn row "properties")
  let created ← storedColumn row "created"
  let updated ← storedColumn row "updated"
  let fields : Checked Connection :=
    (Checked.both (.atPath ["name"] (checkText name))
      (Checked.both (.atPath ["description"] (checkText description))
        (Checked.both (checkProperties properties)
          (Checked.both (.atPath ["namespace"] (checkText namespaceName))
            (Checked.both (.atPath ["id"] (checkText id))
              (Checked.both (.atPath ["created"] (checkWhole created))
                (.atPath ["updated"] (checkWhole updated)))))))).map
      fun (name, description, properties, namespaceName, id, created, updated) =>
        ⟨⟨namespaceName, id⟩, ⟨name, type, description, properties⟩, created, updated⟩
  match fields.forRecord RecordKind.connection.name with
  | .ok c => .ok c
  | .error reason => .error (.corruptRow (.invalid reason))

/-- What the log says of a row that holds no connection, if it says anything. -/
def corruptDetail? : Failure → Option String
  | .unknownType value => some (Failure.unknownType value).message
  | .corruptRow fault => some fault.detail
  | _ => none

/-- A kind is read back from its name. -/
@[simp] theorem decodeKind_name (t : ConnectionType) : decodeKind (.text t.name) = .ok t := by
  simp [decodeKind, Value.text?]

end ConnectionCatalog
