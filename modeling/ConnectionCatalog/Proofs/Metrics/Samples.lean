import ConnectionCatalog.Proofs.Metrics.Summary
import ConnectionCatalog.Proofs.Store.Observation

/-! # Proofs.Metrics.Samples — one session, seen by a recorder and by a summary

Each request of a session is timed by a timer that is set for it, so that it may take any time.
What is seen of a session is decided by its exchanges (`Exchange.seen`), and these do not depend on
where observations go: a recorder keeps them, and a summary takes up the same ones.

Main statement: `samples_aggregate_observations`.
-/

namespace ConnectionCatalog

/-! ## Timed requests -/

namespace Timer

/-- The time between the two readings that a timer gives next. -/
def lap (t : Timer) : Double := t.read.2.read.1.sub t.read.1

/-- Whether the two readings that a timer gives next are finite numbers. -/
def runs (t : Timer) : Bool := t.read.1.isFinite && t.read.2.read.1.isFinite

theorem lap_ne_nan {t : Timer} (h : t.runs = true) : t.lap ≠ .nan := by
  obtain ⟨hstarted, hended⟩ := Bool.and_eq_true_iff.1 h
  exact Double.sub_ne_nan hended hstarted

end Timer

variable {τ : Type}

/-- Runs a request that is timed by a timer. -/
def Request.timed [Caller] [RowStore τ] : Timer × Request → Action τ Reply
  | (timer, request) => ExceptT.mk fun env =>
    (request.run).run { env with meter := { env.meter with timer } }

/-- What is seen of a timed exchange. -/
def Exchange.seen (x : Exchange τ (Timer × Request)) : Observation :=
  ⟨x.request.2.name, (Outcome.ofResult x.answer).name, .real x.request.1.lap⟩

/-! ## What sinks take up -/

namespace Sink

theorem observeAll_summary (seen : List Observation) (s : Summary) :
    observeAll seen (.summary s) = .summary (seen.foldl Summary.observe s) := by
  induction seen generalizing s with
  | nil => rfl
  | cons o seen ih => exact ih (s.observe o)

theorem watches_observe {sink : Sink} (h : sink.watches = true) (o : Observation) :
    (sink.observe o).watches = true := by
  cases sink with
  | none => cases h
  | recorder os => rfl
  | summary s => rfl

end Sink

namespace Store

/-- A sink that watches is shown an operation with the time between two readings of the timer. -/
theorem metered_of_watches {sink : Sink} (h : sink.watches = true) (timer : Timer)
    (operation : String) (outcome : Outcome) :
    metered operation outcome ⟨timer, sink⟩ =
      ⟨timer.read.2.read.2, sink.observe ⟨operation, outcome.name, .real timer.lap⟩⟩ := by
  cases sink with
  | none => cases h
  | recorder os => rfl
  | summary s => rfl

variable [Caller] [RowStore τ]

/-- What comes of a session of timed requests: its exchanges, the table and the clock that it leaves
and what it notes are the same for all sinks that watch, and each of these takes up what is seen of
the exchanges. -/
theorem serve_timed (session : List (Happening τ (Timer × Request))) (t : τ) (clock : Clock) :
    ∃ exchanges u clock' notes, ∀ timer sink log, sink.watches = true → ∃ timer',
      serve Request.timed session ⟨t, clock, ⟨timer, sink⟩, log⟩ =
        (exchanges, ⟨u, clock', ⟨timer', sink.observeAll (exchanges.map Exchange.seen)⟩,
          log.takeUp notes⟩) := by
  induction session generalizing t clock with
  | nil => exact ⟨[], t, clock, [], fun timer _ _ _ => ⟨timer, rfl⟩⟩
  | cons happening session ih =>
    cases happening with
    | outside table setClock => exact ih (table t) (setClock clock)
    | asked timed =>
      obtain ⟨timer, request⟩ := timed
      -- what a request does has no part in the timer and the sink, so one trace serves all of them
      obtain ⟨trace, htrace, -⟩ := request.traced_body t clock
      obtain ⟨exchanges, u, clock', notes, hrest⟩ := ih trace.table trace.clock
      refine ⟨⟨t, clock, (timer, request), trace.result⟩ :: exchanges, u, clock',
        trace.notes ++ notes, ?_⟩
      intro before sink log hsink
      have hrun : (Request.timed (timer, request) : Action τ Reply).run
          ⟨t, clock, ⟨before, sink⟩, log⟩ = _ := Request.run_traces htrace ⟨timer, sink⟩ log
      rw [metered_of_watches hsink] at hrun
      obtain ⟨timer', hserve⟩ := hrest timer.read.2.read.2
        (sink.observe ⟨request.name, (Outcome.ofResult trace.result).name, .real timer.lap⟩)
        (log.takeUp trace.notes) (Sink.watches_observe hsink _)
      refine ⟨timer', ?_⟩
      rw [serve_asked hrun, hserve, Log.takeUp_append]
      rfl

end Store

/-! ## Samples of a session -/

/-- Where every timer of some exchanges runs, no duration that is seen of them is no number. -/
theorem Exchange.seen_ne_nan {exchanges : List (Exchange τ (Timer × Request))}
    (h : ∀ x ∈ exchanges, x.request.1.runs = true) :
    ∀ o ∈ exchanges.map Exchange.seen, o.duration ≠ .real .nan := by
  intro o ho hnan
  obtain ⟨x, hx, rfl⟩ := List.mem_map.1 ho
  exact Timer.lap_ne_nan (h x hx) (Number.real.inj hnan)

/-- The same session, over any table and under the same readings, has the same exchanges for a
recorder and for a summary, and the samples of the summary aggregate the observations that the
recorder keeps.  Where the timer gives finite readings, the count of each operation is the sum of its
totals over all outcomes. -/
theorem samples_aggregate_observations [Caller] [RowStore τ]
    (session : List (Happening τ (Timer × Request))) (t : τ) (clock : Clock) (timer : Timer)
    (log : Log) :
    let (exchanges, recorded) :=
      Store.serve Request.timed session ⟨t, clock, ⟨timer, .recorder []⟩, log⟩
    let (exchanges', summed) :=
      Store.serve Request.timed session ⟨t, clock, ⟨timer, .summary .empty⟩, log⟩
    exchanges = exchanges' ∧ recorded.meter.sink = .recorder (exchanges.map Exchange.seen) ∧
      ∃ s, summed.meter.sink = .summary s ∧ s.Aggregates (exchanges.map Exchange.seen) ∧
        ((∀ x ∈ exchanges, x.request.1.runs = true) →
          ∀ operation, (s.spread operation).count = s.attempts operation) := by
  obtain ⟨exchanges, u, clock', notes, hserve⟩ := Store.serve_timed session t clock
  obtain ⟨_, hrecorded⟩ := hserve timer (.recorder []) log rfl
  obtain ⟨_, hsummed⟩ := hserve timer (.summary .empty) log rfl
  have haggregates : (Summary.ofObservations (exchanges.map Exchange.seen)).Aggregates
      (exchanges.map Exchange.seen) := by
    refine (Summary.tallies_ofObservations _).aggregates ?_
    intro o ho
    obtain ⟨x, -, rfl⟩ := List.mem_map.1 ho
    exact ⟨x.request.1.lap, rfl⟩
  rw [hrecorded, hsummed]
  refine ⟨rfl, Sink.observeAll_recorder _ _, Summary.ofObservations (exchanges.map Exchange.seen),
    Sink.observeAll_summary _ _, haggregates, ?_⟩
  intro hruns operation
  have hcount := haggregates.count operation
  have hnone : (exchanges.map Exchange.seen).countP
      (fun o => o.operation = operation ∧ o.duration = .real .nan) = 0 := by
    rw [List.countP_eq_zero]
    intro o ho
    simp [Exchange.seen_ne_nan hruns o ho]
  rw [hnone] at hcount
  exact hcount

/-- A session in which a place is created, refused slowly, and asked for where nothing is found and
where what is found cannot be read. -/
def slowSession : List (Happening MemoryTable (Timer × Request)) :=
  [.asked (⟨.ofNat 3, .ofDecimal false 2 (-2)⟩, .create (.text "ns") ⟨"B", .s3, "", .empty⟩),
    .outside id (fun _ => .manual (.int 7) 0),
    .asked (⟨.ofNat 9, .ofNat 6⟩, .create (.text "ns") ⟨"b", .gcs, "", .empty⟩),
    .asked (⟨.ofNat 1, .zero⟩, .get ⟨"ns", "c"⟩), .asked (⟨.zero, .ofNat 1⟩, .get ⟨"ns", "a"⟩)]

attribute [local instance] Caller.direct in
theorem samples_aggregate_observations_slow :
    let exchanges := (Store.serve Request.timed slowSession
      { unlookedEnv with meter := ⟨⟨.zero, .zero⟩, .recorder []⟩ }).1
    let summed := (Store.serve Request.timed slowSession
      { unlookedEnv with meter := ⟨⟨.zero, .zero⟩, .summary .empty⟩ }).2
    (∀ x ∈ exchanges, x.request.1.runs = true) ∧
      ∃ s, summed.meter.sink = .summary s ∧ s.Aggregates (exchanges.map Exchange.seen) ∧
        (s.spread "create").count = s.attempts "create" ∧
        (s.spread "create").buckets.getLast? = some ("+Inf", 2) := by
  intro exchanges summed
  have hruns : ∀ x ∈ exchanges, x.request.1.runs = true := by decide +kernel
  obtain ⟨-, -, s, hs, haggregates, hcount⟩ := samples_aggregate_observations slowSession
    unlookedEnv.table unlookedEnv.clock ⟨.zero, .zero⟩ unlookedEnv.log
  refine ⟨hruns, s, hs, haggregates, hcount hruns "create", ?_⟩
  rw [haggregates.buckets "create"]
  decide +kernel

end ConnectionCatalog
