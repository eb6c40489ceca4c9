/-! # Connection.Kind — the kinds of connection

Stored rows name the kind of a connection by the member name.
-/

namespace ConnectionCatalog

/-- The kinds of connection that a catalog can hold. -/
inductive ConnectionType
  | file
  | database
  | table
  | s3
  | gcs
  | bigquery
  | spanner
  | kafka
  | adls
deriving DecidableEq, Repr, Inhabited

namespace ConnectionType

/-- All kinds, in the order in which they are listed to a reader. -/
def all : List ConnectionType :=
  [file, database, table, s3, gcs, bigquery, spanner, kafka, adls]

/-- The name under which a kind is written and stored. -/
def name : ConnectionType → String
  | file => "FILE"
  | database => "DATABASE"
  | table => "TABLE"
  | s3 => "S3"
  | gcs => "GCS"
  | bigquery => "BIGQUERY"
  | spanner => "SPANNER"
  | kafka => "KAFKA"
  | adls => "ADLS"

/-- The kind with a name. -/
def ofName? (s : String) : Option ConnectionType := all.find? fun t => t.name == s

@[simp] theorem ofName?_name (t : ConnectionType) : ofName? t.name = some t := by
  cases t <;> decide

/-- A text names at most one kind. -/
theorem eq_name_of_ofName? {s : String} {t : ConnectionType} (h : ofName? s = some t) :
    s = t.name := by
  have hname := List.find?_some h
  exact (beq_iff_eq.1 hname).symm

end ConnectionType
end ConnectionCatalog
