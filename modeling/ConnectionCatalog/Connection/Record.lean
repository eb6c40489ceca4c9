import ConnectionCatalog.Failure
import ConnectionCatalog.Field.Check

/-! # Connection.Record — connections and what describes them

A caller describes a connection by a `ConnectionMeta`; the catalog adds the place
where the connection is found and the times at which it was created and last
updated.  Records are built from named values, and a record's own values build it
again.

Main statements: `NamespacedId.ofFields_fields`, `ConnectionMeta.ofFields_fields`,
`Connection.ofFields_fields`, and `Connection.ofMeta_eq`, by which the values of a
place and of a description are never refused.
-/

namespace ConnectionCatalog

/-- What a caller says about a connection. -/
structure ConnectionMeta where
  name : String
  type : ConnectionType
  description : String
  properties : TextMap String
deriving DecidableEq

/-- A connection of the catalog. -/
structure Connection where
  place : NamespacedId
  info : ConnectionMeta
  created : Int
  updated : Int
deriving DecidableEq

/-! ## Kinds of record -/

/-- The kinds of record. -/
inductive RecordKind
  | namespacedId
  | connectionMeta
  | connection
deriving DecidableEq, Repr

namespace RecordKind

def name : RecordKind → String
  | namespacedId => "NamespacedId"
  | connectionMeta => "ConnectionMeta"
  | connection => "Connection"

/-- Whether the fields of a record never change. -/
def isFrozen : RecordKind → Bool
  | namespacedId => true
  | _ => false

/-- What can be read off a record of a kind but not be set. -/
def derived : RecordKind → List String
  | connection => ["namespaced_id", "model_extra", "model_fields_set", "__fields_set__"]
  | _ => ["model_extra", "model_fields_set", "__fields_set__"]

/-- Puts a value into a field of a record.  The place of a connection never
changes; the fields of other records take any value, unchecked.  Names that start
with an underscore are kept beside the fields, but for those of the parts that hold
a record together. -/
def assign (kind : RecordKind) (fs : Fields) (field : String) (v : Value) :
    Except Failure Fields :=
  if kind.isFrozen && !field.startsWith "_" then
    .error (.invalid ⟨kind.name, [⟨[field], .frozen⟩]⟩)
  else if kind.derived.contains field then .error (.derivedField kind.name field)
  else
    match field, v with
    | "__class__", v => .error (.unfitPart .kind v.kindName)
    | "__dict__", .object contents => .ok (.ofList contents)
    | "__dict__", v => .error (.unfitPart .contents v.kindName)
    | field, v =>
      if field.startsWith "_" then .ok fs
      else if fs.contains field then .ok (fs.insert field v)
      else .error (.unknownField kind.name field)

end RecordKind

/-! ## Places -/

namespace NamespacedId

def fields (i : NamespacedId) : Fields :=
  .ofList [("namespace", .text i.namespaceName), ("id", .text i.id)]

def check (fs : Fields) : Checked NamespacedId :=
  (Checked.both (fs.require "namespace" checkText) (fs.require "id" checkText)).map
    fun (namespaceName, id) => ⟨namespaceName, id⟩

def ofFields (fs : Fields) : Except Invalid NamespacedId :=
  (check fs).forRecord RecordKind.namespacedId.name

/-- The place that two values name. -/
def ofValues (namespaceName id : Value) : Except Invalid NamespacedId :=
  ofFields (.ofList [("namespace", namespaceName), ("id", id)])

end NamespacedId

/-! ## Descriptions -/

namespace ConnectionMeta

def fields (m : ConnectionMeta) : Fields :=
  .ofList [("name", .text m.name), ("type", .type m.type), ("description", .text m.description),
    ("properties", textsValue m.properties)]

/-- The fields, with properties that were read on their own.  The description may be left out;
it is then empty. -/
def checkWith (fs : Fields) (properties : Checked (TextMap String)) : Checked ConnectionMeta :=
  (Checked.both (fs.require "name" checkText)
    (Checked.both (fs.require "type" checkKind)
      (Checked.both
        (fs.optional "description" "" fun v => .atPath ["description"] (checkText v))
        properties))).map
    fun (name, type, description, properties) => ⟨name, type, description, properties⟩

/-- The properties may be left out, too. -/
def check (fs : Fields) : Checked ConnectionMeta :=
  checkWith fs (fs.optional "properties" .empty (checkTextMap "properties"))

def ofFields (fs : Fields) : Except Invalid ConnectionMeta :=
  (check fs).forRecord RecordKind.connectionMeta.name

end ConnectionMeta

/-! ## Connections -/

namespace Connection

def fields (c : Connection) : Fields :=
  .ofList [("name", .text c.info.name), ("type", .type c.info.type),
    ("description", .text c.info.description), ("properties", textsValue c.info.properties),
    ("namespace", .text c.place.namespaceName), ("id", .text c.place.id),
    ("created", .int c.created), ("updated", .int c.updated)]

/-- The fields, with a description that was read on its own. -/
def checkWith (fs : Fields) (info : Checked ConnectionMeta) : Checked Connection :=
  (Checked.both info
    (Checked.both (NamespacedId.check fs)
      (Checked.both (fs.require "created" checkWhole) (fs.require "updated" checkWhole)))).map
    fun (info, place, created, updated) => ⟨place, info, created, updated⟩

def check (fs : Fields) : Checked Connection := checkWith fs (ConnectionMeta.check fs)

def ofFields (fs : Fields) : Except Invalid Connection :=
  (check fs).forRecord RecordKind.connection.name

/-- The values of the connection at a place that a description describes. -/
def metaFields (place : NamespacedId) (info : ConnectionMeta) (created updated : Value) : Fields :=
  .ofList [("namespace", .text place.namespaceName), ("id", .text place.id),
    ("type", .type info.type), ("name", .text info.name),
    ("description", .text info.description), ("properties", textsValue info.properties),
    ("created", created), ("updated", updated)]

/-- The connection at a place that a description describes.  It is built from their
values, so that all of them are checked again, together with its times. -/
def ofMeta (place : NamespacedId) (info : ConnectionMeta) (created updated : Value) :
    Except Invalid Connection :=
  ofFields (metaFields place info created updated)

/-- What describes a connection, built anew from its values. -/
def toMeta (c : Connection) : Except Invalid ConnectionMeta :=
  ConnectionMeta.ofFields c.info.fields

/-- The place of a connection, built anew from its values. -/
def toPlace (c : Connection) : Except Invalid NamespacedId := NamespacedId.ofFields c.place.fields

end Connection

/-! ## A record's own values build it again -/

/-- Fields that have the values of a place name it, whatever others there are. -/
theorem NamespacedId.check_eq {fs : Fields} {i : NamespacedId}
    (hnamespace : fs.get? "namespace" = some (.text i.namespaceName))
    (hid : fs.get? "id" = some (.text i.id)) : check fs = .ok i := by
  simp [check, Fields.require, hnamespace, hid, Checked.both, Checked.atPath, Checked.map]

/-- Fields that have the values of a description give it, whatever others there are. -/
theorem ConnectionMeta.check_eq {fs : Fields} {m : ConnectionMeta}
    (hname : fs.get? "name" = some (.text m.name)) (htype : fs.get? "type" = some (.type m.type))
    (hdescription : fs.get? "description" = some (.text m.description))
    (hproperties : fs.get? "properties" = some (textsValue m.properties)) : check fs = .ok m := by
  simp [check, checkWith, Fields.require, Fields.optional, hname, htype, hdescription, hproperties,
    Checked.both, Checked.atPath, Checked.map]

theorem NamespacedId.ofFields_fields (i : NamespacedId) : ofFields i.fields = .ok i := by
  have hcheck : check i.fields = .ok i :=
    check_eq (by simp [fields, TextMap.ofList, TextMap.get?_insert])
      (by simp [fields, TextMap.ofList])
  rw [ofFields, hcheck]
  rfl

theorem ConnectionMeta.ofFields_fields (m : ConnectionMeta) : ofFields m.fields = .ok m := by
  have hcheck : check m.fields = .ok m := by
    apply check_eq <;> simp [fields, TextMap.ofList, TextMap.get?_insert]
  rw [ofFields, hcheck]
  rfl

/-- Of fields that have the values of a place and of a description, only the times can be refused. -/
theorem Connection.check_eq {fs : Fields} {place : NamespacedId} {info : ConnectionMeta}
    {created updated : Value} (hplace : NamespacedId.check fs = .ok place)
    (hinfo : ConnectionMeta.check fs = .ok info) (hcreated : fs.get? "created" = some created)
    (hupdated : fs.get? "updated" = some updated) :
    check fs = (Checked.both (.atPath ["created"] (checkWhole created))
      (.atPath ["updated"] (checkWhole updated))).map
        fun (created, updated) => ⟨place, info, created, updated⟩ := by
  simp only [check, checkWith, hplace, hinfo, Fields.require, hcreated, hupdated]
  cases checkWhole created <;> cases checkWhole updated <;> rfl

theorem Connection.ofFields_fields (c : Connection) : ofFields c.fields = .ok c := by
  have hplace : NamespacedId.check c.fields = .ok c.place := by
    apply NamespacedId.check_eq <;> simp [fields, TextMap.ofList, TextMap.get?_insert]
  have hinfo : ConnectionMeta.check c.fields = .ok c.info := by
    apply ConnectionMeta.check_eq <;> simp [fields, TextMap.ofList, TextMap.get?_insert]
  have hcreated : c.fields.get? "created" = some (.int c.created) := by
    simp [fields, TextMap.ofList, TextMap.get?_insert]
  have hupdated : c.fields.get? "updated" = some (.int c.updated) := by
    simp [fields, TextMap.ofList]
  rw [ofFields, check_eq hplace hinfo hcreated hupdated]
  rfl

/-- A connection at a place is refused only for its times. -/
theorem Connection.ofMeta_eq (place : NamespacedId) (info : ConnectionMeta)
    (created updated : Value) :
    ofMeta place info created updated =
      ((Checked.both (.atPath ["created"] (checkWhole created))
          (.atPath ["updated"] (checkWhole updated))).map
        fun (created, updated) => (⟨place, info, created, updated⟩ : Connection)).forRecord
        RecordKind.connection.name := by
  have hplace : NamespacedId.check (metaFields place info created updated) = .ok place := by
    apply NamespacedId.check_eq <;> simp [metaFields, TextMap.ofList, TextMap.get?_insert]
  have hinfo : ConnectionMeta.check (metaFields place info created updated) = .ok info := by
    apply ConnectionMeta.check_eq <;> simp [metaFields, TextMap.ofList, TextMap.get?_insert]
  rw [ofMeta, ofFields, check_eq hplace hinfo]
  · simp [metaFields, TextMap.ofList, TextMap.get?_insert]
  · simp [metaFields, TextMap.ofList]

/-- Whole numbers are times. -/
theorem Connection.ofMeta_int (place : NamespacedId) (info : ConnectionMeta)
    (created updated : Int) :
    ofMeta place info (.int created) (.int updated) = .ok ⟨place, info, created, updated⟩ :=
  ofMeta_eq place info (.int created) (.int updated)

end ConnectionCatalog
