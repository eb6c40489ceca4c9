import ConnectionCatalog.Failure
import ConnectionCatalog.Log.Format
import ConnectionCatalog.Settings.Basic

/-! # Log.Configuration — the logger that settings ask for

Configuring the logger takes away whatever handlers it had, one by one, and gives it a new one with
the format that the settings ask for.  Then the logger is set to the level that they name, and its
records no longer go on to other loggers.

Main statements: `LogLevel.ofName?_name` and `Logger.foldl_removeHandler`; from them
`Logger.configure_eq` tells what a configuration does.
-/

namespace ConnectionCatalog

/-- The levels that settings name are levels of loggers. -/
@[simp] theorem LogLevel.ofName?_name (l : LogLevel) : Level.ofName? l.name = some l.level := by
  cases l <;> decide

namespace Log

/-- How a handler writes a record. -/
inductive Formatter
  | text (template : String)
  | json
deriving DecidableEq, Repr

namespace Formatter

/-- The template of a formatter; a JSON line does not follow it. -/
def template : Formatter → String
  | text t => t
  | json => messageTemplate

/-- The formatter that a format asks for. -/
def ofFormat : LogFormat → Formatter
  | .text => text consoleTemplate
  | .json => json

def line : Formatter → Entry → Except Failure String
  | text t, e => textLine t e
  | json, e => jsonLine e

end Formatter

/-- A handler of a logger.  Handlers are told apart by their numbers, as two of them may write
alike; one that comes from elsewhere has a formatter of its own or none. -/
structure Handler where
  number : Nat
  formatter? : Option Formatter
deriving DecidableEq, Repr

/-- A logger: its handlers, its level and whether records go on to other loggers. -/
structure Logger where
  name : String
  handlers : List Handler
  level : Level
  propagates : Bool
deriving DecidableEq, Repr

namespace Logger

/-- The name of the logger of the catalog. -/
def catalogName : String := "wrangler"

/-- Takes a handler away, if it is there. -/
def removeHandler (l : Logger) (h : Handler) : Logger :=
  { l with handlers := l.handlers.erase h }

/-- Adds a handler behind the others, unless it is there already. -/
def addHandler (l : Logger) (h : Handler) : Logger :=
  if h ∈ l.handlers then l else { l with handlers := l.handlers ++ [h] }

/-- Sets the logger to the level of a name. -/
def setLevel (l : Logger) (name : String) : Except Failure Unit × Logger :=
  match Level.ofName? name with
  | some level => (.ok (), { l with level })
  | none => (.error (.foreign .value [.text ("Unknown level: " ++ Text.quote name)]), l)

/-- Configures the logger as settings ask for it; `number` is that of the new handler. -/
def configure (s : Settings) (number : Nat) (l : Logger) : Except Failure Unit × Logger :=
  -- the handlers are gone through as they were at the start, while they are taken away
  let cleared := l.handlers.foldl removeHandler l
  let handled := cleared.addHandler ⟨number, some (.ofFormat s.logFormat)⟩
  match handled.setLevel s.logLevel.name with
  | (.ok (), leveled) => (.ok (), { leveled with propagates := false })
  | (.error f, leveled) => (.error f, leveled)

/-- Whether the logger writes records of a level. -/
def enabled (l : Logger) (level : Level) : Bool := reaches l.level level

/-- The logger as it is before anything is configured by hand. -/
def initial : Logger := (configure .defaults 0 ⟨catalogName, [], 0, true⟩).2

/-- Whatever the handlers are, taking away each one of them leaves none. -/
theorem foldl_removeHandler (handlers : List Handler) (l : Logger) :
    handlers.foldl removeHandler { l with handlers } = { l with handlers := [] } := by
  induction handlers with
  | nil => rfl
  | cons h hs ih =>
    have hfirst : removeHandler { l with handlers := h :: hs } h = { l with handlers := hs } := by
      rw [removeHandler, List.erase_cons_head]
    rw [List.foldl_cons, hfirst, ih]

/-- A configuration is never refused, and of the logger before it leaves the name. -/
theorem configure_eq (s : Settings) (number : Nat) (l : Logger) :
    l.configure s number =
      (.ok (), ⟨l.name, [⟨number, some (.ofFormat s.logFormat)⟩], s.logLevel.level, false⟩) := by
  have hcleared := foldl_removeHandler l.handlers l
  simp [configure, hcleared, addHandler, setLevel]

end Logger
end Log
end ConnectionCatalog
