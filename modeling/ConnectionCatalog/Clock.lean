import ConnectionCatalog.Failure
import ConnectionCatalog.Number.Number

/-! # Clock — the time in whole seconds

The system clock reads a time that may have a fraction and cuts the fraction off.
A manual clock stands at whatever it is set to and counts how often it is read.  A
caller may bring any other clock, each reading of which gives a value or fails.
-/

namespace ConnectionCatalog

/-- Where the time comes from. -/
inductive Clock
  | manual (now : Value) (reads : Nat)
  | system (time : Number)
  | brought (reading : Nat → Except Failure Value) (reads : Nat)

namespace Clock

/-- Reads the clock. -/
def read : Clock → Except Failure Value × Clock
  | manual now reads => (.ok now, manual now (reads + 1))
  | system time => ((time.wholePart.mapError Failure.number).map Value.int, system time)
  | brought reading reads => (reading reads, brought reading (reads + 1))

/-- Sets a manual clock. -/
def setTo (v : Value) : Clock → Clock
  | manual _ reads => manual v reads
  | c => c

/-- The sum of two numbers; it is whole if both are. -/
def sum? (a b : Number) : Option Value :=
  match a, b with
  | .whole m, .whole n => some (.int (m + n))
  | a, b =>
    match a.toDouble?, b.toDouble? with
    | some x, some y => some (.float (x.add y))
    | _, _ => none

/-- What a value lists: characters, bytes, names of fields or items. -/
def listed? : Value → Option (List Value)
  | .text s => some (characters s)
  | .stray s => some (s.codes.map fun n => Value.ofCodes [n])
  | .type t => some (characters t.name)
  | .bytes bs => some (bs.map fun b => .int b.toNat)
  | .list xs => some xs
  | .object fields => some (fields.map fun (k, _) => .text k)
  | .id i =>
    some [.list [.text "namespace", .text i.namespaceName], .list [.text "id", .text i.id]]
  | _ => none
where
  characters (s : String) : List Value := s.toList.map fun c => .text c.toString

/-- The sum of two values: numbers are added, texts and bytes are joined, and a list
takes up what another value lists. -/
def added (now seconds : Value) : Except Failure Value :=
  match now.number?, seconds.number? with
  | some a, some b =>
    match sum? a b with
    | some v => .ok v
    | none => .error (.number .tooLarge)
  | _, _ =>
    match now.codes?, now with
    | some xs, _ =>
      match seconds.codes? with
      | some ys => .ok (.ofCodes (xs ++ ys))
      | none => .error (.sum (.notText seconds.kindName))
    | none, .bytes bs =>
      match seconds with
      | .bytes cs => .ok (.bytes (bs ++ cs))
      | _ => .error (.sum (.notBytes seconds.kindName))
    | none, .list xs =>
      match listed? seconds with
      | some ys => .ok (.list (xs ++ ys))
      | none => .error (.sum (.notListed seconds.kindName))
    | none, _ => .error (.sum (.unsupported now.kindName seconds.kindName))

/-- Moves a manual clock by a number of seconds; whatever it stands at, they have to
have a sum. -/
def advance (seconds : Value) : Clock → Except Failure Clock
  | manual now reads => (added now seconds).map fun v => manual v reads
  | c => .ok c

/-- How often a manual clock was read. -/
def reads? : Clock → Option Nat
  | manual _ reads => some reads
  | system _ | brought .. => none

end Clock
end ConnectionCatalog
