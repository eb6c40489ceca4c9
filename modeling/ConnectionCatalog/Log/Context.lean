import ConnectionCatalog.Failure
import ConnectionCatalog.Log.Basic

/-! # Log.Context — loggers that carry dimensions

A logger with a context adds its dimensions to every record.  A further context is
merged over the dimensions and gives a new logger; the old one stays as it is.
-/

namespace ConnectionCatalog.Log

/-- The dimensions that a logger carries. -/
structure Context where
  dimensions : Dimensions

/-- What a call adds to a record: other fields, and dimensions among them. -/
abbrev Extra := List (String × Value)

/-- The fields that every record has; no call may set them. -/
def recordFields : List String :=
  ["name", "msg", "args", "levelname", "levelno", "pathname", "filename", "module", "exc_info",
    "exc_text", "stack_info", "lineno", "funcName", "created", "msecs", "relativeCreated",
    "thread", "threadName", "processName", "process", "message", "asctime"]

namespace Context

/-- A logger with further dimensions. -/
def within (c : Context) (ds : Dimensions) : Context := ⟨c.dimensions.merge ds⟩

/-- The loggers of a chain, from the first on. -/
def chain (c : Context) : List Dimensions → List Context
  | [] => [c]
  | ds :: rest => c :: chain (c.within ds) rest

/-- The dimensions of a record: those of the logger, and those of the call over
them. -/
def recordDimensions (c : Context) (extra : Extra) : Except Failure Dimensions :=
  match Value.field? "dimensions" extra with
  | none => .ok c.dimensions
  | some (.object ds) => .ok (c.dimensions.merge ds)
  | some v => .error (.notAMapping v.kindName)

/-- Writes a record; a call below the threshold is not looked at. -/
def write (c : Context) (level : Level) (message : String) (extra : Extra) (log : Log) :
    Except Failure Unit × Log :=
  if reaches log.threshold level then
    match c.recordDimensions extra with
    | .error f => (.error f, log)
    | .ok ds =>
      match extra.find? fun e => recordFields.contains e.1 with
      | some e => (.error (.reservedField e.1), log)
      | none => (.ok (), log.write level message ds)
  else (.ok (), log)

end Context

end ConnectionCatalog.Log
