import ConnectionCatalog.Log.Context
import ConnectionCatalog.Proofs.Log.Dimensions
import ConnectionCatalog.Proofs.Log.TextLine

/-! # Proofs.Log.Contexts — what loggers write that were derived from each other

A `Desk` holds a logger, those that were derived from it and from each other, and the log that they
share; a `Use` derives one more or writes a record.  The contexts that lead from the first logger to
another one are its way (`ways`), and they are all that a logger shows of how it came about
(`loggers_run`).  One use only ever adds, a logger at the end or a record at the end (`use_adds`),
so whatever is done elsewhere on the desk, before or after, a logger writes the same.

* `chain_of_derivations`: the chain of some contexts is one such run.
* `contexts_merge_in_order`: what a record carries, whichever logger writes it.
-/

namespace ConnectionCatalog.Log

open Dimensions (Gathers)

/-! ## What a call gives -/

/-- The dimensions that a call gives: none, or a mapping of them. -/
def Extra.dimensions? (extra : Extra) : Option Dimensions :=
  match Value.field? "dimensions" extra with
  | none => some []
  | some (.object ds) => some ds
  | some _ => none

/-- What a call gives can be put into a record: its dimensions are `ds`, and nothing else has the
name of a field of the record. -/
structure Extra.Gives (extra : Extra) (ds : Dimensions) : Prop where
  dimensions : extra.dimensions? = some ds
  others : ∀ e ∈ extra, e.1 ∉ recordFields

namespace Context

variable {c : Context} {extra : Extra} {given all : Dimensions}

theorem recordDimensions_of_given (h : extra.dimensions? = some given) :
    c.recordDimensions extra = .ok (c.dimensions.merge given) := by
  unfold Extra.dimensions? at h
  unfold recordDimensions
  -- what is given has no field for dimensions, or one that is an object
  cases hfield : Value.field? "dimensions" extra with
  | none =>
    rw [hfield] at h
    obtain rfl := Option.some.inj h
    rfl
  | some v =>
    rw [hfield] at h
    cases v with
    | object ds =>
      obtain rfl := Option.some.inj h
      rfl
    | _ => cases h

/-- A call that reaches the threshold and gives nothing unfit adds one record. -/
theorem write_of_gives {log : Log} {level : Level} (hlevel : reaches log.threshold level = true)
    (h : extra.Gives given) (message : String) :
    c.write level message extra log =
      (.ok (), { log with
        records := log.records ++ [⟨level, message, c.dimensions.merge given⟩] }) := by
  have hothers : extra.find? (fun e => recordFields.contains e.1) = none := by
    rw [List.find?_eq_none]
    intro e he
    simpa using h.others e he
  simp only [write, hlevel, recordDimensions_of_given h.dimensions, hothers, Log.write, if_true]

/-- The logger that some contexts lead to. -/
def along (c : Context) (way : List Dimensions) : Context := way.foldl within c

theorem along_cons (c : Context) (ds : Dimensions) (way : List Dimensions) :
    c.along (ds :: way) = (c.within ds).along way := rfl

theorem along_snoc (c : Context) (way : List Dimensions) (ds : Dimensions) :
    c.along (way ++ [ds]) = (c.along way).within ds := by
  rw [along, List.foldl_append]
  rfl

/-- A logger carries what was given along its way. -/
theorem along_gathers (h : Gathers all c.dimensions) (way : List Dimensions) :
    Gathers (all ++ way.flatten) (c.along way).dimensions := by
  induction way generalizing c all with
  | nil => simpa [along] using h
  | cons ds way ih => simpa [along_cons] using ih (c := c.within ds) (h.merge ds)

/-- Two contexts, one after the other, are one context of the two merged. -/
theorem within_within (hc : (c.dimensions.map Prod.fst).Nodup) {ds : Dimensions}
    (hds : (ds.map Prod.fst).Nodup) (es : Dimensions) :
    (c.within ds).within es = c.within (ds.merge es) :=
  congrArg Context.mk (Dimensions.merge_merge hc hds es)

/-- The loggers of a chain are those along the contexts up to some place. -/
theorem getElem?_chain (c : Context) {contexts : List Dimensions} {i : Nat}
    (h : i ≤ contexts.length) : (c.chain contexts)[i]? = some (c.along (contexts.take i)) := by
  induction contexts generalizing c i with
  | nil =>
    obtain rfl : i = 0 := by simpa using h
    rfl
  | cons ds contexts ih =>
    cases i with
    | zero => rfl
    | succ i =>
      rw [chain, List.getElem?_cons_succ, ih (c.within ds) (by simpa using h)]
      rfl

theorem length_chain (c : Context) (contexts : List Dimensions) :
    (c.chain contexts).length = contexts.length + 1 := by
  induction contexts generalizing c with
  | nil => rfl
  | cons ds contexts ih => rw [chain, List.length_cons, ih, List.length_cons]

end Context

/-! ## Runs -/

/-- Loggers that were derived from each other, and the log that they share. -/
structure Desk where
  loggers : List Context
  log : Log

/-- What is done at a desk, by the number of a logger. -/
inductive Use
  | derive (parent : Nat) (context : Dimensions)
  | write (logger : Nat) (level : Level) (message : String) (extra : Extra)

namespace Desk

/-- One use of a logger; where there is none of the number, nothing is done. -/
def use (d : Desk) : Use → Desk
  | .derive parent context =>
    match d.loggers[parent]? with
    | some c => { d with loggers := d.loggers ++ [c.within context] }
    | none => d
  | .write logger level message extra =>
    match d.loggers[logger]? with
    | some c => { d with log := (c.write level message extra d.log).2 }
    | none => d

def run (d : Desk) (uses : List Use) : Desk := uses.foldl use d

theorem run_append (d : Desk) (uses more : List Use) :
    d.run (uses ++ more) = (d.run uses).run more := List.foldl_append

/-- A desk with nothing taken away and no threshold moved. -/
structure Adds (d d' : Desk) : Prop where
  loggers : d.loggers <+: d'.loggers
  records : d.log.records <+: d'.log.records
  threshold : d'.log.threshold = d.log.threshold

theorem Adds.refl (d : Desk) : Adds d d := ⟨List.prefix_refl _, List.prefix_refl _, rfl⟩

theorem Adds.trans {d₁ d₂ d₃ : Desk} (h : Adds d₁ d₂) (h' : Adds d₂ d₃) : Adds d₁ d₃ :=
  ⟨h.loggers.trans h'.loggers, h.records.trans h'.records, h'.threshold.trans h.threshold⟩

/-- What a logger writes is put behind the records that are there, if it is written at all. -/
theorem write_adds (c : Context) (level : Level) (message : String) (extra : Extra) (log : Log) :
    log.records <+: (c.write level message extra log).2.records ∧
      (c.write level message extra log).2.threshold = log.threshold := by
  unfold Context.write
  split
  · split
    · exact ⟨List.prefix_refl _, rfl⟩
    · split
      · exact ⟨List.prefix_refl _, rfl⟩
      · rw [Log.write_records]
        exact ⟨List.prefix_append _ _, Log.write_threshold _ _ _ _⟩
  · exact ⟨List.prefix_refl _, rfl⟩

theorem use_adds (d : Desk) (u : Use) : Adds d (d.use u) := by
  cases u with
  | derive parent context =>
    rw [use]
    split
    · exact ⟨List.prefix_append _ _, List.prefix_refl _, rfl⟩
    · exact .refl d
  | write logger level message extra =>
    rw [use]
    split
    · obtain ⟨hrecords, hthreshold⟩ := write_adds ‹Context› level message extra d.log
      exact ⟨List.prefix_refl _, hrecords, hthreshold⟩
    · exact .refl d

theorem run_adds (d : Desk) (uses : List Use) : Adds d (d.run uses) := by
  induction uses generalizing d with
  | nil => exact .refl d
  | cons u uses ih => exact (use_adds d u).trans (ih (d.use u))

end Desk

/-! ## Ways -/

/-- The ways to the loggers of a desk, after one more use. -/
def waysAfter (ways : List (List Dimensions)) : Use → List (List Dimensions)
  | .derive parent context =>
    match ways[parent]? with
    | some way => ways ++ [way ++ [context]]
    | none => ways
  | .write .. => ways

/-- The contexts that lead from the first logger to each of the others. -/
def ways (uses : List Use) : List (List Dimensions) := uses.foldl waysAfter [[]]

/-- A logger is what its way makes of the first one. -/
theorem loggers_use {first : Context} {d : Desk} {ws : List (List Dimensions)}
    (h : d.loggers = ws.map first.along) (u : Use) :
    (d.use u).loggers = (waysAfter ws u).map first.along := by
  cases u with
  | derive parent context =>
    rw [Desk.use, waysAfter, h, List.getElem?_map]
    cases ws[parent]? with
    | none => exact h
    | some way => simp [Context.along_snoc]
  | write logger level message extra =>
    rw [Desk.use, waysAfter]
    split <;> exact h

theorem loggers_run (first : Context) (log : Log) (uses : List Use) :
    (Desk.run ⟨[first], log⟩ uses).loggers = (ways uses).map first.along := by
  have hrun : ∀ (d : Desk) (ws : List (List Dimensions)), d.loggers = ws.map first.along →
      (d.run uses).loggers = (uses.foldl waysAfter ws).map first.along := by
    induction uses with
    | nil => exact fun d ws h => h
    | cons u uses ih => exact fun d ws h => ih _ _ (loggers_use h u)
  exact hrun _ _ rfl

/-- Further uses leave the ways that there are. -/
theorem ways_prefix (uses more : List Use) : ways uses <+: ways (uses ++ more) := by
  have hrun : ∀ ws, ws <+: more.foldl waysAfter ws := by
    induction more with
    | nil => exact List.prefix_refl
    | cons u more ih =>
      intro ws
      refine List.IsPrefix.trans ?_ (ih (waysAfter ws u))
      unfold waysAfter
      split
      · split
        · exact List.prefix_append _ _
        · exact List.prefix_refl _
      · exact List.prefix_refl _
  rw [ways, ways, List.foldl_append]
  exact hrun _

/-- Each logger derived from the one before. -/
def derivations (contexts : List Dimensions) : List Use :=
  contexts.mapIdx fun i ds => .derive i ds

theorem ways_derivations (contexts : List Dimensions) :
    (ways (derivations contexts)).length = contexts.length + 1 ∧
      ∀ i ≤ contexts.length, (ways (derivations contexts))[i]? = some (contexts.take i) := by
  induction contexts using List.reverseRecOn with
  | nil =>
    refine ⟨rfl, fun i hi => ?_⟩
    obtain rfl : i = 0 := by simpa using hi
    rfl
  | append_singleton contexts ds ih =>
    obtain ⟨hlength, hways⟩ := ih
    -- the logger that a context is put on is the last one so far, which has all contexts before it
    have hlast := hways contexts.length (Nat.le_refl _)
    rw [List.take_length] at hlast
    have hstep : ways (derivations (contexts ++ [ds])) =
        ways (derivations contexts) ++ [contexts ++ [ds]] := by
      rw [ways, derivations, List.mapIdx_append, List.foldl_append]
      change waysAfter (ways (derivations contexts)) (.derive (0 + contexts.length) ds) = _
      rw [Nat.zero_add, waysAfter, hlast]
    refine ⟨by simp [hstep, hlength], fun i hi => ?_⟩
    rw [hstep]
    -- the earlier loggers keep their ways, and the new one has the whole list
    rcases Nat.lt_or_ge i (contexts.length + 1) with hlt | hge
    · rw [List.getElem?_append_left (by omega), hways i (by omega),
        List.take_append_of_le_length (by omega)]
    · obtain rfl : i = contexts.length + 1 := by simp at hi; omega
      rw [← hlength, List.getElem?_concat_length, hlength, List.take_of_length_le (by simp)]

/-- The chain of some contexts is what deriving each logger from the one before leaves. -/
theorem chain_of_derivations (first : Context) (log : Log) (contexts : List Dimensions) :
    (Desk.run ⟨[first], log⟩ (derivations contexts)).loggers = first.chain contexts := by
  obtain ⟨hlength, hways⟩ := ways_derivations contexts
  rw [loggers_run]
  refine List.ext_getElem? fun i => ?_
  rw [List.getElem?_map]
  by_cases hi : i ≤ contexts.length
  · rw [hways i hi, Context.getElem?_chain first hi]
    rfl
  · rw [List.getElem?_eq_none (by omega),
      List.getElem?_eq_none (by rw [Context.length_chain]; omega)]
    rfl

/-- The way to a logger of a chain are the contexts up to its place, whatever is done later. -/
theorem ways_chain (contexts : List Dimensions) (more : List Use) {i : Nat}
    (h : i ≤ contexts.length) :
    (ways (derivations contexts ++ more))[i]? = some (contexts.take i) := by
  obtain ⟨rest, hrest⟩ := ways_prefix (derivations contexts) more
  obtain ⟨hlength, hways⟩ := ways_derivations contexts
  rw [← hrest, List.getElem?_append_left (by omega), hways i h]

/-! ## Records -/

/-- Whatever is done before and after, a logger is what its way makes of the first one, and what it
writes is put behind the records so far and stays there. -/
theorem written_through {first : Context} {all : Dimensions} (hfirst : Gathers all first.dimensions)
    (log : Log) {before : List Use} {k : Nat} {way : List Dimensions}
    (hway : (ways before)[k]? = some way) {level : Level}
    (hlevel : reaches log.threshold level = true) {extra : Extra} {given : Dimensions}
    (hgives : extra.Gives given) (message : String) (after : List Use) :
    let earlier := Desk.run ⟨[first], log⟩ before
    let later := Desk.run ⟨[first], log⟩ (before ++ .write k level message extra :: after)
    ∃ c ds, earlier.loggers[k]? = some c ∧ later.loggers[k]? = some c ∧
      Gathers (all ++ way.flatten) c.dimensions ∧ Gathers (all ++ way.flatten ++ given) ds ∧
      c.write level message extra earlier.log =
        (.ok (), ⟨log.threshold, earlier.log.records ++ [⟨level, message, ds⟩]⟩) ∧
      earlier.log.records ++ [⟨level, message, ds⟩] <+: later.log.records := by
  intro earlier later
  have hlogger : earlier.loggers[k]? = some (first.along way) := by
    rw [loggers_run, List.getElem?_map, hway]
    rfl
  have hthreshold : earlier.log.threshold = log.threshold := (Desk.run_adds _ before).threshold
  have hgathers := Context.along_gathers hfirst way
  have hwrite : (first.along way).write level message extra earlier.log = _ :=
    Context.write_of_gives (hthreshold ▸ hlevel) hgives message
  -- the desk as it is once the record is written; the rest of the run only adds to it
  have hlater : later = (earlier.use (.write k level message extra)).run after := by
    change Desk.run _ (before ++ ([.write k level message extra] ++ after)) = _
    rw [Desk.run_append, Desk.run_append]
    rfl
  have hadds := Desk.run_adds (earlier.use (.write k level message extra)) after
  rw [← hlater] at hadds
  have huse : earlier.use (.write k level message extra) = ⟨earlier.loggers, ⟨log.threshold,
      earlier.log.records ++ [⟨level, message, (first.along way).dimensions.merge given⟩]⟩⟩ := by
    simp only [Desk.use, hlogger, hwrite, hthreshold]
  rw [huse] at hadds
  refine ⟨first.along way, _, hlogger, ?_, hgathers, hgathers.merge given, ?_, hadds.records⟩
  · obtain ⟨rest, hrest⟩ := hadds.loggers
    have hk : k < earlier.loggers.length := (List.getElem?_eq_some_iff.1 hlogger).1
    rw [← hrest, List.getElem?_append_left hk, hlogger]
  · rw [hwrite, hthreshold]

/-- Take a logger with some dimensions, the loggers that are derived from it and from each other,
and the log that they share.

A chain of contexts is one way to derive loggers, each from the one before; the way to the one at
some place are the contexts up to there.  Whatever loggers were derived and used before, a call that
reaches the threshold and gives nothing unfit writes a record through any of them, which carries the
dimensions of the first logger, of the contexts on the way and of the call, each name once, where it
first appeared, with its last value.  The record stays where it is, and the logger as it is, whatever
is done afterwards.  Two contexts in turn are one context of the two merged.  And a text line does not
show the order in which the dimensions of a record were put together, unless its template asks for
the dimensions themselves or for the whole record; those of the program do not. -/
theorem contexts_merge_in_order (first : Context)
    (hfirst : (first.dimensions.map Prod.fst).Nodup) (log : Log) :
    (∀ contexts,
      (Desk.run ⟨[first], log⟩ (derivations contexts)).loggers = first.chain contexts ∧
      ∀ more i, i ≤ contexts.length →
        (ways (derivations contexts ++ more))[i]? = some (contexts.take i)) ∧
    (∀ before k way level message extra given after, (ways before)[k]? = some way →
      reaches log.threshold level = true → Extra.Gives extra given →
      let earlier := Desk.run ⟨[first], log⟩ before
      let later := Desk.run ⟨[first], log⟩ (before ++ .write k level message extra :: after)
      ∃ c ds, earlier.loggers[k]? = some c ∧ later.loggers[k]? = some c ∧
        Gathers (first.dimensions ++ way.flatten) c.dimensions ∧
        Gathers (first.dimensions ++ way.flatten ++ given) ds ∧
        c.write level message extra earlier.log =
          (.ok (), ⟨log.threshold, earlier.log.records ++ [⟨level, message, ds⟩]⟩) ∧
        earlier.log.records ++ [⟨level, message, ds⟩] <+: later.log.records) ∧
    (∀ (c : Context) (ds es : Dimensions), (c.dimensions.map Prod.fst).Nodup →
      (ds.map Prod.fst).Nodup → (c.within ds).within es = c.within (ds.merge es)) ∧
    (∀ template ∈ [consoleTemplate, messageTemplate], namesDimensions template = false) ∧
    ∀ (template : String) (e : Entry) (ds es : Dimensions), namesDimensions template = false →
      (ds.map Prod.fst).Nodup → (es.map Prod.fst).Nodup → (∀ d, d ∈ ds ↔ d ∈ es) →
      textLine template { e with dimensions? := some ds } =
        textLine template { e with dimensions? := some es } := by
  refine ⟨fun contexts => ⟨chain_of_derivations first log contexts, fun more i hi =>
    ways_chain contexts more hi⟩, ?_, ?_, ?_, ?_⟩
  · intro before k way level message extra given after hway hlevel hgives
    exact written_through (Gathers.self hfirst) log hway hlevel hgives message after
  · intro c ds es hc hds
    exact Context.within_within hc hds es
  · simp [consoleTemplate_plain, messageTemplate_plain]
  · intro template e ds es htemplate hds hes hsame
    exact textLine_of_same htemplate e hds hes hsame

/-- The third logger of a chain gives a name of the first one another value, and so does the call a
name of the second one; both keep their places. -/
theorem third_logger_writes :
    let first : Context := ⟨[("app", .text "x")]⟩
    let contexts : List Dimensions := [[("a", .int 1)], [("app", .text "y")]]
    let extra : Extra := [("dimensions", .object [("z", .null), ("a", .int 2)])]
    ∃ ds, [⟨Level.info, "m", ds⟩] <+:
        (Desk.run ⟨[first], ⟨Level.info, []⟩⟩
          (derivations contexts ++ [.write 2 Level.info "m" extra])).log.records ∧
      ds.map Prod.fst = ["app", "a", "z"] ∧ lastValue? "app" ds = some (.text "y") ∧
      lastValue? "a" ds = some (.int 2) := by
  intro first contexts extra
  obtain ⟨hchain, hwrites, -⟩ :=
    contexts_merge_in_order first (by decide) ⟨Level.info, []⟩
  have hway := (hchain contexts).2 [] 2 (by decide)
  rw [List.append_nil] at hway
  obtain ⟨c, ds, -, -, -, hgathers, -, hrecords⟩ :=
    hwrites (derivations contexts) 2 _ Level.info "m" extra [("z", .null), ("a", .int 2)] [] hway
      (by decide) ⟨rfl, by decide⟩
  refine ⟨ds, hrecords, ?_, ?_, ?_⟩
  · rw [hgathers.names]
    decide
  · rw [hgathers.values]
    rfl
  · rw [hgathers.values]
    rfl

/-- A record of a call that gives some dimensions and no failure. -/
def carrying (ds : Dimensions) : Entry where
  logger := "wrangler"
  level := Level.info
  message := "m"
  created := .whole 0
  milliseconds := .int 0
  dimensions? := some ds
  thrown? := none
  ahead := fun _ => 0
  room := 980

/-- A template that asks for the dimensions shows the order in which they were put together. -/
theorem dimensions_template_shows_order :
    (∀ d, d ∈ [("a", Value.int 1), ("b", .int 2)] ↔ d ∈ [("b", Value.int 2), ("a", .int 1)]) ∧
      textLine "%(dimensions)s" (carrying [("a", .int 1), ("b", .int 2)]) ≠
        textLine "%(dimensions)s" (carrying [("b", .int 2), ("a", .int 1)]) := by
  have hparts : pieces "%(dimensions)s" =
      .ok [.field ⟨some "dimensions", [], 0, false, none, false, .letter 's' 13⟩] := by
    rw [pieces, if_pos (by decide +kernel)]
    exact congrArg Except.ok (by decide +kernel)
  have hfirst : fillTemplate (namedValues (carrying [("a", .int 1), ("b", .int 2)]))
      [.field ⟨some "dimensions", [], 0, false, none, false, .letter 's' 13⟩] =
      .ok "\x7b'a': 1, 'b': 2\x7d" := rfl
  have hsecond : fillTemplate (namedValues (carrying [("b", .int 2), ("a", .int 1)]))
      [.field ⟨some "dimensions", [], 0, false, none, false, .letter 's' 13⟩] =
      .ok "\x7b'b': 2, 'a': 1\x7d" := rfl
  refine ⟨fun d => by simp [or_comm], fun heq => ?_⟩
  rw [textLine_eq_ok (by decide) hparts (by decide) hfirst rfl,
    textLine_eq_ok (by decide) hparts (by decide) hsecond rfl] at heq
  exact absurd (Except.ok.inj heq) (by decide)

end ConnectionCatalog.Log
