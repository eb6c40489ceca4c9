import ConnectionCatalog.Value

/-! # Log.Basic — records, levels and dimensions

A record has a level, a message and dimensions: named values in the order in
which the names first appeared.  A log keeps the records whose level reaches its
threshold.

Main statements: `Dimensions.merge_nil` and `Log.write_records`.
-/

namespace ConnectionCatalog

/-! ## Levels -/

/-- How grave a record is. -/
abbrev Level := Int

namespace Level

def debug : Level := 10
def info : Level := 20
def warning : Level := 30
def error : Level := 40
def critical : Level := 50

/-- The levels that have names. -/
def named : List (Level × String) :=
  [(critical, "CRITICAL"), (error, "ERROR"), (warning, "WARNING"), (info, "INFO"),
    (debug, "DEBUG"), (0, "NOTSET")]

def name (l : Level) : String :=
  match named.find? fun p => p.1 == l with
  | some p => p.2
  | none => "Level " ++ toString l

/-- The other names by which levels are called. -/
def synonyms : List (Level × String) := [(critical, "FATAL"), (warning, "WARN")]

def ofName? (s : String) : Option Level :=
  ((named ++ synonyms).find? fun p => p.2 == s).map (·.1)

end Level

/-! ## Dimensions -/

/-- Named values in the order in which the names first appeared. -/
abbrev Dimensions := List (String × Value)

namespace Dimensions

/-- Gives a name a value; a name that is there already keeps its place. -/
def put (name : String) (v : Value) : Dimensions → Dimensions
  | [] => [(name, v)]
  | d :: ds => if d.1 = name then (name, v) :: ds else d :: put name v ds

/-- The dimensions of both; where a name is in both, the second counts. -/
def merge (ds es : Dimensions) : Dimensions := es.foldl (fun ds e => put e.1 e.2 ds) ds

@[simp] theorem merge_nil (ds : Dimensions) : ds.merge [] = ds := rfl

end Dimensions

/-! ## Records -/

/-- A record of the log. -/
structure Record where
  level : Level
  message : String
  dimensions : Dimensions

/-- The records that reached a threshold, the earliest first. -/
structure Log where
  threshold : Level
  records : List Record

namespace Log

/-- Whether a level reaches a threshold; what has no level never does. -/
def reaches (threshold level : Level) : Bool := 0 < level && threshold ≤ level

def write (level : Level) (message : String) (dimensions : Dimensions) (log : Log) : Log :=
  if reaches log.threshold level then
    { log with records := log.records ++ [⟨level, message, dimensions⟩] }
  else log

/-- Writing keeps the earlier records and adds the new one if its level reaches the
threshold. -/
theorem write_records (level : Level) (message : String) (dimensions : Dimensions) (log : Log) :
    (log.write level message dimensions).records =
      log.records ++
        if reaches log.threshold level then [⟨level, message, dimensions⟩] else [] := by
  unfold write
  split <;> simp

@[simp] theorem write_threshold (level : Level) (message : String) (dimensions : Dimensions)
    (log : Log) : (log.write level message dimensions).threshold = log.threshold := by
  unfold write
  split <;> rfl

end Log
end ConnectionCatalog
