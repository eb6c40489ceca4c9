import ConnectionCatalog.Json.Printer
import ConnectionCatalog.Log.Basic
import ConnectionCatalog.Log.Template
import ConnectionCatalog.Log.Timestamp
import ConnectionCatalog.TextMap

/-! # Log.Format — records as lines

There are two formats.  A text line follows a template and ends with the
dimensions, sorted by name.  A JSON line is one object: what every record has,
then the dimensions, each in the place of the field of its name if there is one,
then the failure.  At the end of a text line the dimensions do not show in which
order they came in; a template that names them, or the whole record, does.

A value is written as JSON as far as there is room: each list and each object that is
open counts as a call that is under way.
-/

namespace ConnectionCatalog.Log

/-- Where a failure came from: how the trace to it is shown as one thing, and its lines,
those of the failures that lie behind among them. -/
structure Trace where
  shown : String
  lines : List String
deriving DecidableEq, Repr

/-- A failure as a record has it, with the notes that were added to it. -/
structure Thrown where
  failure : Failure
  trace? : Option Trace
  notes : List String

/-- A record with what the formats say about it. -/
structure Entry where
  logger : String
  level : Level
  message : String
  created : Number
  milliseconds : Value
  /-- The dimensions, if any were given. -/
  dimensions? : Option Dimensions
  thrown? : Option Thrown
  /-- The seconds by which the local time is ahead at a moment. -/
  ahead : Int → Int
  /-- The calls that may still be under way while the record is written as JSON. -/
  room : Nat

/-- The dimensions of a record; none if none were given. -/
def Entry.dimensions (e : Entry) : Dimensions := e.dimensions?.getD []

/-! ## Failures -/

/-- What stands in front of the class of a failure of the catalog. -/
def catalogModule : String := "wrangler.core.exceptions."

/-- The name of a class with what stands in front of it. -/
def classText (c : ErrorClass) : String :=
  match c with
  | .brought kind => kind.origin ++ kind.name
  | c => (if c.ofCatalog then catalogModule else "") ++ c.name

/-- A failure in a line: its class and its message. -/
def failureText (f : Failure) : String :=
  let kind := classText f.errorClass
  if f.message.isEmpty then kind else kind ++ ": " ++ f.message

/-- A failure with the lines in front of it and the notes behind it. -/
def Thrown.text (t : Thrown) : String :=
  let before := (t.trace?.map Trace.lines).getD []
  "\n".intercalate (before ++ failureText t.failure :: t.notes)

/-! ## Values as JSON -/

/-- The text of what JSON cannot express.  To spell it takes two calls, and a third one
where the thing spells itself. -/
def spelledOut (spellsItself : Bool) (room : Nat) (s : String) : Except Failure Json :=
  match room, spellsItself with
  | 0, _ => .error (.exhausted .callObject)
  | 1, _ => .error (.exhausted .spellObject)
  | 2, true => .error (.exhausted .runBody)
  | _, _ => .ok (.text (Codes.ofString s))

mutual

/-- A value as JSON; what JSON cannot express becomes a text.  The first part that cannot
be written decides. -/
def jsonOf (room : Nat) : Value → Except Failure Json
  | .null => .ok .null
  | .bool b => .ok (.bool b)
  | .int n => if Spelled.isWritable n then .ok (.int n) else .error (.number .tooManyDigits)
  | .float d => .ok (.float d)
  | .text s => .ok (.text (Codes.ofString s))
  | .stray s => .ok (.text s.codes)
  | .bytes bs => spelledOut false room (Text.quoteBytes bs)
  | .type t => .ok (.text (Codes.ofString t.name))
  | .id i => spelledOut true room i.toText
  | .list xs =>
    match room with
    | 0 => .error (.exhausted .encodeItem)
    | room + 1 => (jsonOfList room xs).map .array
  | .object fields =>
    match room with
    | 0 => .error (.exhausted .encodeItem)
    | room + 1 => (jsonOfFields room fields).map .object

def jsonOfList (room : Nat) : List Value → Except Failure (List Json)
  | [] => .ok []
  | x :: xs => do
    let j ← jsonOf room x
    let js ← jsonOfList room xs
    return j :: js

def jsonOfFields (room : Nat) : List (String × Value) → Except Failure (List (Codes × Json))
  | [] => .ok []
  | (k, v) :: rest => do
    let j ← jsonOf room v
    let ms ← jsonOfFields room rest
    return (Codes.ofString k, j) :: ms

end

/-! ## Lines -/

/-- The fields of a JSON line, in order. -/
def jsonFields (e : Entry) (seconds : Int) : Dimensions :=
  let own : Dimensions :=
    [("ts", .text (timestamp "T" seconds)), ("level", .text e.level.name),
      ("logger", .text e.logger), ("message", .text e.message)]
  let fields := own.merge e.dimensions
  match e.thrown? with
  | some t => fields.put "exc_info" (.text t.text)
  | none => fields

/-- The seconds of the time of a record, which has to have a date. -/
def seconds (e : Entry) : Except Failure Int := (secondsOf e.ahead e.created).mapError Failure.time

/-- A record as a line of JSON. -/
def jsonLine (e : Entry) : Except Failure String := do
  let n ← seconds e
  let document ← jsonOf e.room (.object (jsonFields e n))
  return document.toText Json.compact

/-- The template where none is given. -/
def messageTemplate : String := "%(message)s"

/-- The template of the lines that go to a console. -/
def consoleTemplate : String := "%(asctime)s %(levelname)s %(name)s %(message)s"

/-- Milliseconds in a text line. -/
def millisecondsField : Field := ⟨none, ['0'], 3, false, none, false, .letter 'd' 0⟩

/-- The time of a record in a text line. -/
def timeText (e : Entry) : Except Failure String := do
  let date := timestamp " " (← seconds e)
  let ms ← millisecondsField.write [] (some (.value e.milliseconds))
  return date ++ "," ++ ms

/-- Whether some characters stand somewhere among others. -/
def hasPart (part : List Char) : List Char → Bool
  | [] => part.isEmpty
  | c :: cs => part.isPrefixOf (c :: cs) || hasPart part cs

/-- Whether a template names the time as a text; only then is the text made. -/
def namesTime (template : String) : Bool := hasPart "%(asctime)".toList template.toList

/-- What a template may name as the failure of a record: its class, what it was made
from and the trace to it. -/
def failureShown (e : Entry) : Shown :=
  match e.thrown? with
  | none => .value .null
  | some t =>
    let f := t.failure
    .group ("(<class '" ++ classText f.errorClass ++ "'>, " ++ f.errorClass.name ++
      "(" ++ ", ".intercalate (f.arguments.map Value.quoted) ++ "), " ++
      (t.trace?.map Trace.shown).getD "None" ++ ")")

/-- What a template may name, besides the time as a text. -/
def namedValues (e : Entry) : Named :=
  let created :=
    match e.created with
    | .whole n => Value.int n
    | .real d => Value.float d
  let values : List (String × Value) :=
    [("name", .text e.logger), ("msg", .text e.message), ("args", .null),
      ("levelname", .text e.level.name), ("levelno", .int e.level), ("exc_text", .null),
      ("stack_info", .null), ("lineno", .int 1), ("funcName", .null), ("created", created),
      ("msecs", e.milliseconds), ("threadName", .text "MainThread"),
      ("processName", .text "MainProcess"),
      ("dimensions", ((e.dimensions?).map Value.object).getD .null),
      ("message", .text e.message)]
  ("exc_info", failureShown e) :: values.map fun p => (p.1, .value p.2)

/-- Dimensions in the order of their names. -/
def sortedDimensions (ds : Dimensions) : TextMap Value := .ofList ds

/-- Dimensions at the end of a text line. -/
def dimensionsText (ds : Dimensions) : String :=
  if ds.isEmpty then ""
  else
    " [" ++ " ".intercalate ((sortedDimensions ds).entries.map fun d =>
      d.1 ++ "=" ++ d.2.toText) ++ "]"

/-- A failure goes onto a line of its own. -/
def withFailure (line : String) : Option Thrown → String
  | none => line
  | some t => (if line.endsWith "\n" then line else line ++ "\n") ++ t.text

def textLine (template : String) (e : Entry) : Except Failure String := do
  let template := if template.isEmpty then messageTemplate else template
  let parts ← (pieces template).mapError Failure.template
  let values ←
    if namesTime template then
      pure (("asctime", .value (.text (← timeText e))) :: namedValues e)
    else pure (namedValues e)
  let line ← fillTemplate values parts
  if (Value.object e.dimensions).isWritable then
    return withFailure line e.thrown? ++ dimensionsText e.dimensions
  else throw (.number .tooManyDigits)

end ConnectionCatalog.Log
