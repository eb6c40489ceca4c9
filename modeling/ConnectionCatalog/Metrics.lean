import ConnectionCatalog.Failure
import ConnectionCatalog.Number.Number
import ConnectionCatalog.TextMap

/-! # Metrics — what is observed of the operations

Every operation that is watched leaves one observation: its name, its outcome and
how long it took.  A recorder keeps the observations as they are.  A summary keeps
how often each outcome came up and, for each operation, how the durations spread
over a row of bounds.

Main statement: `Summary.total_observe`.
-/

namespace ConnectionCatalog

/-! ## Outcomes -/

/-- How an operation ended, as far as it is watched. -/
inductive Outcome
  | success
  | notFound
  | alreadyExists
  | error
deriving DecidableEq, Repr

namespace Outcome

def name : Outcome → String
  | success => "success"
  | notFound => "not_found"
  | alreadyExists => "already_exists"
  | error => "error"

/-- The outcome of a failure: the first of three classes that it is in.  What is in none
of them passes as a success. -/
def ofFailure (f : Failure) : Outcome :=
  if f.isA .notFound then notFound
  else if f.isA .alreadyExists then alreadyExists
  else if f.isA .exception then error
  else success

def ofResult {α : Type} : Except Failure α → Outcome
  | .ok _ => success
  | .error f => ofFailure f

end Outcome

/-- What is seen of one operation. -/
structure Observation where
  operation : String
  outcome : String
  duration : Number
deriving DecidableEq

/-! ## Summaries -/

/-- The bounds of the durations, with their texts; above the last one there is no
bound. -/
def durationBounds : List (String × Double) :=
  [("0.001", .ofDecimal false 1 (-3)), ("0.005", .ofDecimal false 5 (-3)),
    ("0.01", .ofDecimal false 1 (-2)), ("0.025", .ofDecimal false 25 (-3)),
    ("0.05", .ofDecimal false 5 (-2)), ("0.1", .ofDecimal false 1 (-1)),
    ("0.25", .ofDecimal false 25 (-2)), ("0.5", .ofDecimal false 5 (-1)),
    ("1.0", .ofDecimal false 1 0), ("2.5", .ofDecimal false 25 (-1)),
    ("5.0", .ofDecimal false 5 0), ("+Inf", .infinite false)]

/-- How durations spread over the bounds: for each bound the number of durations
that it is the first to reach, and the sum of all. -/
structure Spread where
  counts : List Nat
  sum : Double

namespace Spread

def empty : Spread := ⟨durationBounds.map fun _ => 0, .zero⟩

/-- Counts a duration at the first bound that is not below it. -/
def countAt (duration : Number) : List Double → List Nat → List Nat
  | bound :: bounds, n :: counts =>
    if duration.le (.real bound) then (n + 1) :: counts
    else n :: countAt duration bounds counts
  | _, counts => counts

/-- Counts a duration; one that no double can hold changes nothing. -/
def observe (s : Spread) (duration : Number) : Spread :=
  match duration.toDouble? with
  | some d => ⟨countAt duration (durationBounds.map (·.2)) s.counts, s.sum.add d⟩
  | none => s

/-- Running sums: how many durations are not above each bound. -/
def runningFrom (seen : Nat) : List Nat → List Nat
  | [] => []
  | n :: counts => (seen + n) :: runningFrom (seen + n) counts

/-- The bounds with the numbers of durations that are not above them. -/
def buckets (s : Spread) : List (String × Nat) :=
  (durationBounds.map (·.1)).zip (runningFrom 0 s.counts)

/-- The number of durations. -/
def count (s : Spread) : Nat := s.counts.foldl Nat.add 0

end Spread

/-- How often each outcome of each operation came up, and the durations of each
operation. -/
structure Summary where
  totals : TextMap (TextMap Nat)
  durations : TextMap Spread

namespace Summary

def empty : Summary := ⟨.empty, .empty⟩

/-- How often an operation had an outcome; nothing if it never had. -/
def total? (s : Summary) (operation outcome : String) : Option Nat :=
  (s.totals.get? operation).bind fun outcomes => outcomes.get? outcome

def spread (s : Summary) (operation : String) : Spread :=
  (s.durations.get? operation).getD .empty

def observe (s : Summary) (o : Observation) : Summary :=
  let outcomes := (s.totals.get? o.operation).getD .empty
  let seen := (outcomes.get? o.outcome).getD 0
  { totals := s.totals.insert o.operation (outcomes.insert o.outcome (seen + 1))
    durations := s.durations.insert o.operation ((s.spread o.operation).observe o.duration) }

/-- The totals by operation and outcome, in order. -/
def totalsInOrder (s : Summary) : List (String × String × Nat) :=
  s.totals.entries.flatMap fun e => e.2.entries.map fun (outcome, n) => (e.1, outcome, n)

/-- An observation adds one to the total of its operation and outcome, and to no
other. -/
theorem total_observe (s : Summary) (o : Observation) (operation outcome : String) :
    (s.observe o).total? operation outcome =
      if operation = o.operation ∧ outcome = o.outcome then
        some ((s.total? operation outcome).getD 0 + 1)
      else s.total? operation outcome := by
  by_cases hop : operation = o.operation
  · subst hop
    by_cases hout : outcome = o.outcome
    · subst hout
      cases h : s.totals.get? o.operation <;> simp [total?, observe, h]
    · cases h : s.totals.get? o.operation <;>
        simp [total?, observe, TextMap.get?_insert, h, hout]
  · simp [total?, observe, TextMap.get?_insert, hop]

end Summary

/-! ## Sinks and timers -/

/-- Where observations go. -/
inductive Sink
  | none
  | recorder (observations : List Observation)
  | summary (s : Summary)

namespace Sink

/-- Whether operations are watched. -/
def watches : Sink → Bool
  | none => false
  | _ => true

def observe (o : Observation) : Sink → Sink
  | none => none
  | recorder os => recorder (os ++ [o])
  | summary s => summary (s.observe o)

/-- Why a part of an observation is lost: a summary adds durations as doubles. -/
def loss? (o : Observation) : Sink → Option Failure
  | summary _ => if o.duration.toDouble?.isNone then .some (.number .tooLarge) else .none
  | _ => .none

/-- Forgets what was recorded. -/
def clear : Sink → Sink
  | recorder _ => recorder []
  | s => s

def observations : Sink → List Observation
  | recorder os => os
  | _ => []

/-- The outcomes that were recorded for an operation. -/
def outcomes (s : Sink) (operation : String) : List String :=
  (s.observations.filter fun o => o.operation == operation).map Observation.outcome

end Sink

/-- A timer: each reading moves it on by a step. -/
structure Timer where
  reading : Double
  step : Double

namespace Timer

def read (t : Timer) : Double × Timer := (t.reading, { t with reading := t.reading.add t.step })

/-- The length of a step: a number, or a text or bytes that spell one. -/
def stepOf : Value → Except Failure Double
  | .text s => (Spelled.double s).mapError .spelling
  | .stray s => notReal (.stray s)
  | .bytes bs =>
    match Spelled.double? (String.ofList (bs.map fun b => Char.ofNat b.toNat)) with
    | some d => if bs.all (· < 0x80) then .ok d else notReal (.bytes bs)
    | none => notReal (.bytes bs)
  | .type t => (Spelled.double t.name).mapError fun _ => .spelling (.notReal (Value.type t).quoted)
  | v =>
    match v.number? with
    | none => .error (.spelling (.realOfKind v.kindName))
    | some n =>
      match n.toDouble? with
      | some d => .ok d
      | none => .error (.number .tooLarge)
where
  notReal (v : Value) : Except Failure Double := .error (.spelling (.notReal v.quoted))

/-- Steps of another length from now on. -/
def setStep (v : Value) (t : Timer) : Except Failure Timer :=
  (stepOf v).map fun step => { t with step }

end Timer

/-- A timer, and where the observations go. -/
structure Meter where
  timer : Timer
  sink : Sink

namespace Meter

/-- The timer is read when an operation starts, if it is watched. -/
def start (m : Meter) : Double × Meter :=
  if m.sink.watches then
    let (started, timer) := m.timer.read
    (started, { m with timer })
  else (.zero, m)

/-- The timer is read again when the operation ends, and what was seen is kept. -/
def finish (operation : String) (outcome : Outcome) (started : Double) (m : Meter) : Meter :=
  if m.sink.watches then
    let (ended, timer) := m.timer.read
    { timer, sink := m.sink.observe ⟨operation, outcome.name, .real (ended.sub started)⟩ }
  else m

end Meter
end ConnectionCatalog
