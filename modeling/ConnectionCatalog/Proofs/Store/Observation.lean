import ConnectionCatalog.Proofs.Store.Reading
import ConnectionCatalog.Proofs.Store.Trace
import Mathlib.Data.List.Forall2

/-! # Proofs.Store.Observation — what is observed of a session, and that observing changes nothing

A session is a list of happenings: something is asked of a store, or its table and its clock are
changed from outside, so that rows are arranged, calls are made to fail and time passes.  What comes
of it are exchanges, each of them a request with what it met and how it was answered.

* `Store.serve_traces`: a session has exchanges, a table, a clock and notes that neither the meter
  nor the log has a part in; by induction over the happenings, from the trace of each request.
* `Store.observed_faithfully`: every exchange is observed once and, unless it ended in something
  that is no ordinary failure, as it ended.
* `Store.observation_transparent`: with other meters and logs, only these are other in the end.
-/

namespace ConnectionCatalog

/-! ## Sessions -/

/-- What happens to a store: its table and its clock are changed from outside, or something is asked
of it. -/
inductive Happening (τ ρ : Type)
  | outside (table : τ → τ) (clock : Clock → Clock)
  | asked (request : ρ)

/-- Something that was asked of a store: the table and the clock that it met, and the answer. -/
structure Exchange (τ ρ : Type) where
  table : τ
  clock : Clock
  request : ρ
  answer : Except Failure Reply

namespace Store

variable {τ ρ : Type}

/-- The exchanges of a session, and what it leaves; a request that fails does not end it. -/
def serve (act : ρ → Action τ Reply) : List (Happening τ ρ) → Env τ → List (Exchange τ ρ) × Env τ
  | [], env => ([], env)
  | .outside table clock :: session, env =>
    serve act session { env with table := table env.table, clock := clock env.clock }
  | .asked request :: session, env =>
    let (answer, after) := (act request).run env
    let (exchanges, last) := serve act session after
    (⟨env.table, env.clock, request, answer⟩ :: exchanges, last)

theorem serve_asked {act : ρ → Action τ Reply} {request : ρ} {env after : Env τ}
    {answer : Except Failure Reply} (h : (act request).run env = (answer, after))
    (session : List (Happening τ ρ)) :
    serve act (.asked request :: session) env =
      (⟨env.table, env.clock, request, answer⟩ :: (serve act session after).1,
        (serve act session after).2) := by
  rw [serve, h]

/-- What a meter has seen after some exchanges. -/
def meteredAll (exchanges : List (Exchange τ Request)) (meter : Meter) : Meter :=
  exchanges.foldl (fun m x => metered x.request.name (Outcome.ofResult x.answer) m) meter

variable [Caller] [RowStore τ]

/-- What comes of a session, watched or not: its exchanges, the table and the clock that it leaves
and what it notes are the same for all meters and logs. -/
theorem serve_traces (session : List (Happening τ Request)) (t : τ) (clock : Clock) :
    ∃ exchanges u clock' notes, Log.Audible notes ∧
      (∀ meter log, serve Request.body session ⟨t, clock, meter, log⟩ =
        (exchanges, ⟨u, clock', meter, log.takeUp notes⟩)) ∧
      ∀ meter log, serve Request.run session ⟨t, clock, meter, log⟩ =
        (exchanges, ⟨u, clock', meteredAll exchanges meter, log.takeUp notes⟩) := by
  -- a trace does not depend on meter and log, so those of the session can be joined
  induction session generalizing t clock with
  | nil => exact ⟨[], t, clock, [], Log.audible_nil, fun _ _ => rfl, fun _ _ => rfl⟩
  | cons happening session ih =>
    cases happening with
    | outside table setClock => exact ih (table t) (setClock clock)
    | asked request =>
      obtain ⟨trace, htrace, haudible⟩ := request.traced_body t clock
      obtain ⟨exchanges, u, clock', notes, hnotes, hbody, hrun⟩ := ih trace.table trace.clock
      refine ⟨⟨t, clock, request, trace.result⟩ :: exchanges, u, clock', trace.notes ++ notes,
        haudible.append hnotes, ?_, ?_⟩
      · intro meter log
        rw [serve_asked (htrace meter log), hbody, Log.takeUp_append]
      · intro meter log
        rw [serve_asked (Request.run_traces htrace meter log), hrun, Log.takeUp_append]
        rfl

end Store

/-! ## Observations -/

namespace Sink

/-- Takes up some observations, one after the other. -/
def observeAll (seen : List Observation) (sink : Sink) : Sink :=
  seen.foldl (fun sink o => sink.observe o) sink

theorem observeAll_recorder (seen os : List Observation) :
    observeAll seen (.recorder os) = .recorder (os ++ seen) := by
  induction seen generalizing os with
  | nil => simp [observeAll]
  | cons o seen ih =>
    have hrest := ih (os ++ [o])
    rw [List.append_assoc] at hrest
    exact hrest

end Sink

theorem metered_sink (operation : String) (outcome : Outcome) (m : Meter) :
    ∃ duration, (Store.metered operation outcome m).sink =
      m.sink.observe ⟨operation, outcome.name, duration⟩ := by
  obtain ⟨timer, sink⟩ := m
  cases sink with
  | none => exact ⟨.whole 0, rfl⟩
  | recorder os => exact ⟨_, rfl⟩
  | summary s => exact ⟨_, rfl⟩

/-- What an outcome tells of an answer.  What was not found comes first: a failure that is of both
classes is told as that. -/
structure Outcome.Tells (outcome : String) (answer : Except Failure Reply) : Prop where
  success : outcome = "success" ↔ ∃ reply, answer = .ok reply
  notFound : outcome = "not_found" ↔ ∃ f, answer = .error f ∧ f.isA .notFound = true
  alreadyExists : outcome = "already_exists" ↔
    ∃ f, answer = .error f ∧ f.isA .notFound = false ∧ f.isA .alreadyExists = true
  error : outcome = "error" ↔
    ∃ f, answer = .error f ∧ f.isA .notFound = false ∧ f.isA .alreadyExists = false

theorem Outcome.tells_ok (reply : Reply) : Outcome.Tells Outcome.success.name (.ok reply) := by
  constructor <;> simp [Outcome.name]

theorem Outcome.tells_error {f : Failure} (h : f.isA .exception = true) :
    Outcome.Tells (Outcome.ofFailure f).name (.error f) := by
  cases hfound : f.isA .notFound <;> cases hexists : f.isA .alreadyExists <;> constructor <;>
    simp [Outcome.ofFailure, Outcome.name, hfound, hexists, h]

/-- What is observed of an exchange tells its operation and how it ended, if it ended in an answer
or in an ordinary failure. -/
structure Exchange.Faithful {τ : Type} (x : Exchange τ Request) (o : Observation) : Prop where
  operation : o.operation = x.request.name
  outcome : (∀ f, x.answer = .error f → f.isA .exception = true) → Outcome.Tells o.outcome x.answer

theorem Exchange.faithful {τ : Type} (x : Exchange τ Request) (duration : Number) :
    x.Faithful ⟨x.request.name, (Outcome.ofResult x.answer).name, duration⟩ where
  operation := rfl
  outcome h := by
    cases hanswer : x.answer with
    | ok reply => exact Outcome.tells_ok reply
    | error f => exact Outcome.tells_error (h f hanswer)

namespace Store

variable {τ : Type}

/-- Every exchange is shown to the sink of a meter once, in order and as it ended. -/
theorem meteredAll_sink (exchanges : List (Exchange τ Request)) (meter : Meter) :
    ∃ seen, List.Forall₂ Exchange.Faithful exchanges seen ∧
      (meteredAll exchanges meter).sink = meter.sink.observeAll seen := by
  induction exchanges generalizing meter with
  | nil => exact ⟨[], .nil, rfl⟩
  | cons x exchanges ih =>
    obtain ⟨duration, hsink⟩ := metered_sink x.request.name (Outcome.ofResult x.answer) meter
    obtain ⟨seen, hseen, hrest⟩ := ih (metered x.request.name (Outcome.ofResult x.answer) meter)
    refine ⟨_ :: seen, .cons (x.faithful duration) hseen, ?_⟩
    rw [hsink] at hrest
    exact hrest

/-- In every session each request is observed exactly once, in order: a sink sees its name and how
it ended, and a recorder keeps that.  What the caller gets is what came up inside, as it was.
What is no ordinary failure is passed on like any other; what is seen of it is left open here. -/
theorem observed_faithfully [Caller] [RowStore τ] (session : List (Happening τ Request))
    (env : Env τ) :
    let (exchanges, last) := serve Request.run session env
    exchanges = (serve Request.body session env).1 ∧
      ∃ seen, List.Forall₂ Exchange.Faithful exchanges seen ∧
        last.meter.sink = env.meter.sink.observeAll seen ∧
        ∀ os, env.meter.sink = .recorder os → last.meter.sink = .recorder (os ++ seen) := by
  obtain ⟨exchanges, u, clock', notes, -, hbody, hrun⟩ := serve_traces session env.table env.clock
  obtain ⟨seen, hseen, hsink⟩ := meteredAll_sink exchanges env.meter
  have hbody := hbody env.meter env.log
  have hrun := hrun env.meter env.log
  rw [hrun, hbody]
  refine ⟨rfl, seen, hseen, hsink, ?_⟩
  intro os hos
  rw [← Sink.observeAll_recorder, ← hos]
  exact hsink

section

attribute [local instance] Caller.direct

/-- A session in which operations end in every way: they return, are refused, meet a row whose
reading breaks off, find nothing, are asked for a place that is none, and come to a table whose
reads were made to fail. -/
def watchedSession : List (Happening MemoryTable Request) :=
  [.asked (.create (.text "ns") ⟨"B", .s3, "", .empty⟩),
    .asked (.create (.text "ns") ⟨"b", .gcs, "", .empty⟩), .asked (.get ⟨"ns", "a"⟩),
    .asked (.get ⟨"ns", "c"⟩), .asked (.contains .null "b"), .asked (.delete ⟨"ns", "c"⟩),
    .outside (fun t => t.failOn "read" (.stated .notFound "")) id, .asked (.get ⟨"ns", "b"⟩)]

theorem observed_faithfully_watched :
    let (exchanges, last) := serve Request.run watchedSession
      { unlookedEnv with meter := ⟨⟨.zero, .zero⟩, .recorder []⟩ }
    ∃ seen, List.Forall₂ Exchange.Faithful exchanges seen ∧ last.meter.sink = .recorder seen ∧
      seen.map Observation.outcome =
        ["success", "already_exists", "error", "not_found", "error", "success", "not_found"] := by
  have houtcomes : (serve Request.run watchedSession
      { unlookedEnv with meter := ⟨⟨.zero, .zero⟩, .recorder []⟩ }).2.meter.sink.observations.map
        Observation.outcome =
      ["success", "already_exists", "error", "not_found", "error", "success", "not_found"] := by
    decide +kernel
  have hfaithful := observed_faithfully watchedSession
    { unlookedEnv with meter := ⟨⟨.zero, .zero⟩, .recorder []⟩ }
  -- what is observed is fixed by the general result, its outcomes by the run
  cases hserve : serve Request.run watchedSession
      { unlookedEnv with meter := ⟨⟨.zero, .zero⟩, .recorder []⟩ } with
  | mk exchanges last =>
    rw [hserve] at houtcomes hfaithful
    obtain ⟨-, seen, hseen, -, hrecorder⟩ := hfaithful
    have hlast := hrecorder [] rfl
    rw [hlast] at houtcomes
    exact ⟨seen, hseen, hlast, houtcomes⟩

/-- A failure of a class that lies below none but the root of all that can be raised. -/
def interruption : Failure := .brought ⟨"KeyboardInterrupt", "", .root⟩ ""

/-- A failure of what was not found and exists already. -/
def tear : Failure := .brought ⟨"Torn", "callers.", .both⟩ ""

/-- The class of the failure that an exchange ended in, if it did. -/
def raised? (x : Exchange MemoryTable Request) : Option ErrorClass :=
  match x.answer with
  | .ok _ => none
  | .error f => some f.errorClass

/-- What comes of a connection that is created in an empty store and listed with a filter that
fails. -/
def tornSession (f : Failure) : List (Exchange MemoryTable Request) × Env MemoryTable :=
  serve Request.run
    [.asked (.create (.text "ns") ⟨"b", .s3, "", .empty⟩),
      .asked (.list (.text "ns") fun _ => .error f)]
    { unlookedEnv with
      table := { unlookedTable with rows := [] }, meter := ⟨⟨.zero, .zero⟩, .recorder []⟩ }

/-- What is no ordinary failure is observed as a success, although nothing was returned; what is of
both classes is observed as not found only; and a sink that adds up keeps no record of a call. -/
theorem outcomes_beside_answers :
    ((tornSession interruption).1.map raised? = [none, some interruption.errorClass] ∧
      (tornSession interruption).2.meter.sink.observations.map Observation.outcome =
        ["success", "success"]) ∧
      ((tornSession tear).1.map raised? = [none, some tear.errorClass] ∧
        tear.isA .alreadyExists = true ∧
        (tornSession tear).2.meter.sink.observations.map Observation.outcome =
          ["success", "not_found"]) ∧
      (serve Request.run [.asked (.delete ⟨"ns", "a"⟩), .asked (.contains (.text "ns") "a")]
        { unlookedEnv with
          meter := ⟨⟨.zero, .zero⟩, .summary .empty⟩ }).2.meter.sink.observations = [] :=
  ⟨⟨by decide +kernel, by decide +kernel⟩,
    ⟨by decide +kernel, by decide, by decide +kernel⟩, rfl⟩

end

/-- With other meters and other logs, a session has the same exchanges and leaves the same table and
the same clock; and a log with a threshold keeps of the records of debugging those that reach it. -/
theorem observation_transparent [Caller] [RowStore τ] (session : List (Happening τ Request))
    (t : τ) (clock : Clock) :
    (∀ meter meter' log log',
      let (exchanges, last) := serve Request.run session ⟨t, clock, meter, log⟩
      let (exchanges', last') := serve Request.run session ⟨t, clock, meter', log'⟩
      exchanges = exchanges' ∧ last.table = last'.table ∧ last.clock = last'.clock) ∧
    ∀ meter meter' (threshold : Level),
      (serve Request.run session ⟨t, clock, meter, ⟨threshold, []⟩⟩).2.log.records =
        (serve Request.run session ⟨t, clock, meter', ⟨.debug, []⟩⟩).2.log.records.filter
          fun note => threshold ≤ note.level := by
  obtain ⟨exchanges, u, clock', notes, haudible, -, hrun⟩ := serve_traces session t clock
  constructor
  · intro meter meter' log log'
    rw [hrun, hrun]
    exact ⟨rfl, rfl, rfl⟩
  · intro meter meter' threshold
    rw [hrun, hrun]
    rw [haudible.takeUp_records, haudible.takeUp_debug rfl]
    rfl

end Store
end ConnectionCatalog
