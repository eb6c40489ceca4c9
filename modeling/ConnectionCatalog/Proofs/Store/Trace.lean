import ConnectionCatalog.Proofs.Store.Refinement

/-! # Proofs.Store.Trace — what an action does, apart from who watches it

An action works on its table and its clock, and leaves records.  It looks neither at the meter nor
at the log that the records go to, so that a run of it splits in two: a trace, which the table and
the clock decide alone, and what a meter and a log make of that trace.

* `Traces.bind_ok`, `Traces.bind_error` and the rules for the steps compute the trace of an action.
* `Traced.bind` and the lemmas behind it: every action of a store has a trace, and notes nothing
  below the level of debugging.
* `Request.run_traces`: an observed operation shows the meter its name and its outcome, once.
-/

namespace ConnectionCatalog

/-! ## Logs that take up records -/

namespace Log

/-- Writes some records, one after the other. -/
def takeUp (notes : List Record) (log : Log) : Log :=
  notes.foldl (fun log note => log.write note.level note.message note.dimensions) log

theorem takeUp_append (notes more : List Record) (log : Log) :
    log.takeUp (notes ++ more) = (log.takeUp notes).takeUp more := List.foldl_append

/-- A log keeps what it had, and of what it takes up the records that reach its threshold. -/
theorem takeUp_records (notes : List Record) (log : Log) :
    (log.takeUp notes).records =
      log.records ++ notes.filter fun note => reaches log.threshold note.level := by
  induction notes generalizing log with
  | nil => simp [takeUp]
  | cons note notes ih =>
    have hrest := ih (log.write note.level note.message note.dimensions)
    rw [write_records, write_threshold, List.append_assoc] at hrest
    refine hrest.trans ?_
    rw [List.filter_cons]
    split <;> rfl

/-- No record is below the level of debugging. -/
def Audible (notes : List Record) : Prop := ∀ note ∈ notes, Level.debug ≤ note.level

theorem audible_nil : Audible [] := List.forall_mem_nil _

theorem Audible.append {notes more : List Record} (h : Audible notes) (hmore : Audible more) :
    Audible (notes ++ more) := List.forall_mem_append.2 ⟨h, hmore⟩

/-- Every threshold counts for what is audible. -/
theorem Audible.takeUp_records {notes : List Record} (h : Audible notes) (log : Log) :
    (log.takeUp notes).records =
      log.records ++ notes.filter fun note => log.threshold ≤ note.level := by
  rw [Log.takeUp_records]
  congr 1
  refine List.filter_congr ?_
  intro note hnote
  have hpositive : (0 : Int) < note.level := Int.lt_of_lt_of_le (by decide) (h note hnote)
  simp [reaches, hpositive]

/-- At the level of debugging a log takes all of it. -/
theorem Audible.takeUp_debug {notes : List Record} {log : Log} (h : Audible notes)
    (hlog : log.threshold = .debug) : (log.takeUp notes).records = log.records ++ notes := by
  rw [h.takeUp_records, hlog, List.filter_eq_self.2]
  intro note hnote
  exact decide_eq_true (h note hnote)

end Log

theorem Outcome.ofResult_map {α β : Type} (r : Except Failure α) (g : α → β) :
    Outcome.ofResult (r.map g) = Outcome.ofResult r := by
  cases r <;> rfl

/-! ## Traces -/

/-- What an action does: how it ends, the table and the clock that it leaves, and what it notes. -/
structure Trace (τ α : Type) where
  result : Except Failure α
  table : τ
  clock : Clock
  notes : List Record

namespace Store

open Access (run_bind_ok run_bind_error)

variable {τ α β : Type}

/-- From a table and a clock an action does what a trace tells, whatever the meter and the log are:
it leaves the meter alone, and the log takes up the notes. -/
def Traces (x : Action τ α) (t : τ) (clock : Clock) (trace : Trace τ α) : Prop :=
  ∀ meter log, x.run ⟨t, clock, meter, log⟩ =
    (trace.result, ⟨trace.table, trace.clock, meter, log.takeUp trace.notes⟩)

variable {x : Action τ α} {g : α → Action τ β} {t u v : τ} {clock clock' clock'' : Clock}
variable {notes more : List Record} {a : α} {f : Failure} {r : Except Failure β}

theorem Traces.bind_ok (hx : Traces x t clock ⟨.ok a, u, clock', notes⟩)
    (hg : Traces (g a) u clock' ⟨r, v, clock'', more⟩) :
    Traces (x >>= g) t clock ⟨r, v, clock'', notes ++ more⟩ := by
  intro meter log
  rw [run_bind_ok (hx meter log), hg, Log.takeUp_append]

theorem Traces.bind_error (hx : Traces x t clock ⟨.error f, u, clock', notes⟩) :
    Traces (x >>= g) t clock ⟨.error f, u, clock', notes⟩ :=
  fun meter log => run_bind_error (hx meter log)

theorem Traces.map {trace : Trace τ α} (hx : Traces x t clock trace) (g : α → β) :
    Traces (g <$> x) t clock ⟨trace.result.map g, trace.table, trace.clock, trace.notes⟩ :=
  fun meter log => run_map (hx meter log) g

/-! ### Steps -/

/-- A record of the store. -/
def record (level : Level) (message : String) (dimensions : Dimensions) : Record :=
  ⟨level, "[ConnectionStore] " ++ message, dimensions⟩

theorem traces_pure (a : α) (t : τ) (clock : Clock) :
    Traces (pure a) t clock ⟨.ok a, t, clock, []⟩ := fun _ _ => rfl

theorem traces_throw (f : Failure) (t : τ) (clock : Clock) :
    Traces (throw f : Action τ α) t clock ⟨.error f, t, clock, []⟩ := fun _ _ => rfl

theorem traces_onTable (access : Access τ α) (t : τ) (clock : Clock) :
    Traces (onTable access) t clock ⟨(access.run t).1, (access.run t).2, clock, []⟩ :=
  fun _ _ => rfl

theorem traces_now (t : τ) (clock : Clock) :
    Traces now t clock ⟨clock.read.1, t, clock.read.2, []⟩ := fun _ _ => rfl

theorem traces_valid (made : Except Invalid α) (t : τ) (clock : Clock) :
    Traces (valid made) t clock ⟨made.mapError Failure.invalid, t, clock, []⟩ := by
  cases made <;> exact fun _ _ => rfl

theorem traces_note (level : Level) (message : String) (dimensions : Dimensions) (t : τ)
    (clock : Clock) :
    Traces (note level message dimensions) t clock
      ⟨.ok (), t, clock, [record level message dimensions]⟩ :=
  fun _ _ => rfl

/-! ### Rows -/

variable [Caller]

/-- What is noted of a row: that it is corrupt, if it is. -/
def rowNotes (way : Way) (row : Row) : List Record :=
  match Connection.ofRow way row with
  | .ok _ => []
  | .error f =>
    match corruptDetail? f with
    | some detail =>
      [record .error ("Corrupt connection row: " ++ detail)
        (placeDimensions (row.cell "namespace") (row.cell "id"))]
    | none => []

theorem rowNoted_eq_takeUp (way : Way) (row : Row) (log : Log) :
    rowNoted way row log = log.takeUp (rowNotes way row) := by
  unfold rowNoted rowNotes
  cases Connection.ofRow way row with
  | ok c => rfl
  | error f =>
    dsimp only
    cases corruptDetail? f <;> rfl

theorem traces_connectionOf (way : Way) (row : Row) (t : τ) (clock : Clock) :
    Traces (connectionOf way row) t clock
      ⟨Connection.ofRow way row, t, clock, rowNotes way row⟩ := by
  intro meter log
  rw [connectionOf_run, rowNoted_eq_takeUp]

/-- What is noted where rows are read and connections selected, up to the first failure. -/
def gatherNotes (filter : Filter) : List Row → List Record
  | [] => []
  | row :: rows =>
    match Connection.ofRow .list row with
    | .error _ => rowNotes .list row
    | .ok c =>
      match filter c with
      | .error _ => []
      | .ok _ => gatherNotes filter rows

theorem gatherNoted_eq_takeUp (filter : Filter) (rows : List Row) (log : Log) :
    gatherNoted filter rows log = log.takeUp (gatherNotes filter rows) := by
  -- rows that are read are not noted, so the notes are those of the first that is not
  induction rows with
  | nil => rfl
  | cons row rows ih =>
    unfold gatherNoted gatherNotes
    cases Connection.ofRow .list row with
    | error f => exact rowNoted_eq_takeUp .list row log
    | ok c =>
      dsimp only
      cases filter c with
      | error f => rfl
      | ok kept => exact ih

theorem traces_keep (filter : Filter) (rows : List Row) (t : τ) (clock : Clock) :
    Traces (keep filter rows) t clock ⟨filter.gather rows, t, clock, gatherNotes filter rows⟩ := by
  intro meter log
  rw [keep_run, gatherNoted_eq_takeUp]

variable [RowStore τ] {cursor : Nat} {place : NamespacedId} {found : Option Row}

omit [Caller] in
theorem Traces.withRows {body : List Row → Action τ α} {result : Except Failure α}
    (h : Traces (body (RowStore.pending t cursor)) t clock ⟨result, u, clock', notes⟩) :
    Traces (withRows cursor body) t clock ⟨result, RowStore.close cursor u, clock', notes⟩ :=
  fun meter log => withRows_run (h meter log)

/-! ### Looking up -/

/-- What is noted where a row is looked up. -/
def lookNotes (way : Way) : Option Row → List Record
  | none => []
  | some row => rowNotes way row

theorem lookNoted_eq_takeUp (way : Way) (found : Option Row) (log : Log) :
    lookNoted way found log = log.takeUp (lookNotes way found) := by
  cases found with
  | none => rfl
  | some row => exact rowNoted_eq_takeUp way row log

theorem traces_find? (way : Way) (h : (RowStore.read place.key).run t = (.ok found, u))
    (clock : Clock) :
    Traces (find? way place) t clock ⟨looked way found, u, clock, lookNotes way found⟩ := by
  intro meter log
  have hrun : (find? way place).run ⟨t, clock, meter, log⟩ =
      (looked way found, ⟨u, clock, meter, lookNoted way found log⟩) := find?_run way h
  rw [hrun, lookNoted_eq_takeUp]

theorem traces_fetch (h : (RowStore.read place.key).run t = (.ok found, u)) (clock : Clock) :
    Traces (fetch place) t clock ⟨fetched place found, u, clock, lookNotes .fetch found⟩ := by
  intro meter log
  have hrun : (fetch place).run ⟨t, clock, meter, log⟩ =
      (fetched place found, ⟨u, clock, meter, lookNoted .fetch found log⟩) := fetch_run h
  rw [hrun, lookNoted_eq_takeUp]

/-- What is noted where a place is claimed: that it is taken, or that what is there is corrupt. -/
def claimNotes (place : NamespacedId) (info : ConnectionMeta) : Option Row → List Record
  | none => []
  | some row =>
    match Connection.ofRow .look row with
    | .ok _ =>
      [record .warning ("Refusing duplicate connection '" ++ info.name ++ "'") (dimensions place)]
    | .error _ => rowNotes .look row

theorem claimNoted_eq_takeUp (place : NamespacedId) (info : ConnectionMeta) (found : Option Row)
    (log : Log) : claimNoted place info found log = log.takeUp (claimNotes place info found) := by
  cases found with
  | none => rfl
  | some row =>
    rw [claimNoted, claimNotes]
    cases Connection.ofRow .look row with
    | ok c => rfl
    | error f => exact rowNoted_eq_takeUp .look row log

theorem traces_claim {namespaceName : String} {info : ConnectionMeta}
    (h : (RowStore.read (placeOf namespaceName info.name).key).run t = (.ok found, u))
    (clock : Clock) :
    Traces (claim (.text namespaceName) info) t clock
      ⟨claimed (placeOf namespaceName info.name) info found, u, clock,
        claimNotes (placeOf namespaceName info.name) info found⟩ := by
  intro meter log
  have hrun : (claim (.text namespaceName) info).run ⟨t, clock, meter, log⟩ =
      (claimed (placeOf namespaceName info.name) info found,
        ⟨u, clock, meter, claimNoted (placeOf namespaceName info.name) info found log⟩) :=
    claim_run h
  rw [hrun, claimNoted_eq_takeUp]

/-! ## Every action has a trace -/

/-- An action has a trace from every table and clock, and notes nothing below the level of
debugging. -/
def Traced (x : Action τ α) : Prop :=
  ∀ t clock, ∃ trace, Traces x t clock trace ∧ Log.Audible trace.notes

omit [Caller] [RowStore τ]

theorem Traced.of_silent {trace : τ → Clock → Trace τ α}
    (h : ∀ t clock, Traces x t clock (trace t clock))
    (hsilent : ∀ t clock, (trace t clock).notes = []) : Traced x := by
  intro t clock
  refine ⟨trace t clock, h t clock, ?_⟩
  rw [hsilent]
  exact Log.audible_nil

theorem Traced.bind (hx : Traced x) (hg : ∀ a, Traced (g a)) : Traced (x >>= g) := by
  intro t clock
  obtain ⟨⟨result, u, clock', notes⟩, hx, hnotes⟩ := hx t clock
  -- behind a failure nothing more is noted
  cases result with
  | error f => exact ⟨_, hx.bind_error, hnotes⟩
  | ok a =>
    obtain ⟨⟨r, v, clock'', more⟩, hg, hmore⟩ := hg a u clock'
    exact ⟨_, hx.bind_ok hg, hnotes.append hmore⟩

/-- With another meter, nothing else is other. -/
theorem Traced.run_meter (hx : Traced x) (env : Env τ) (meter : Meter) :
    x.run { env with meter } = ((x.run env).1, { (x.run env).2 with meter }) := by
  obtain ⟨trace, hx, -⟩ := hx env.table env.clock
  have hrun := hx env.meter env.log
  rw [hrun]
  exact hx meter env.log

theorem Traced.map (hx : Traced x) (g : α → β) : Traced (g <$> x) := by
  intro t clock
  obtain ⟨trace, hx, hnotes⟩ := hx t clock
  exact ⟨_, hx.map g, hnotes⟩

theorem traced_pure (a : α) : Traced (pure a : Action τ α) :=
  .of_silent (traces_pure a) fun _ _ => rfl

theorem traced_throw (f : Failure) : Traced (throw f : Action τ α) :=
  .of_silent (traces_throw f) fun _ _ => rfl

theorem traced_onTable (access : Access τ α) : Traced (onTable access) :=
  .of_silent (traces_onTable access) fun _ _ => rfl

theorem traced_now : Traced (now : Action τ Value) := .of_silent traces_now fun _ _ => rfl

theorem traced_valid (made : Except Invalid α) : Traced (valid made : Action τ α) :=
  .of_silent (traces_valid made) fun _ _ => rfl

theorem traced_note {level : Level} (h : Level.debug ≤ level) (message : String)
    (dimensions : Dimensions) : Traced (note level message dimensions : Action τ Unit) :=
  fun t clock =>
    ⟨_, traces_note level message dimensions t clock, by simpa [Log.Audible, record] using h⟩

variable [Caller]

theorem rowNotes_audible (way : Way) (row : Row) : Log.Audible (rowNotes way row) := by
  unfold rowNotes
  split
  · exact Log.audible_nil
  · split <;> simp [Log.Audible, record, Level.debug, Level.error]

theorem gatherNotes_audible (filter : Filter) (rows : List Row) :
    Log.Audible (gatherNotes filter rows) := by
  induction rows with
  | nil => exact Log.audible_nil
  | cons row rows ih =>
    unfold gatherNotes
    split
    · exact rowNotes_audible .list row
    · split
      · exact Log.audible_nil
      · exact ih

theorem traced_connectionOf (way : Way) (row : Row) :
    Traced (connectionOf way row : Action τ Connection) :=
  fun t clock => ⟨_, traces_connectionOf way row t clock, rowNotes_audible way row⟩

theorem traced_keep (filter : Filter) (rows : List Row) :
    Traced (keep filter rows : Action τ (List Connection)) :=
  fun t clock => ⟨_, traces_keep filter rows t clock, gatherNotes_audible filter rows⟩

variable [RowStore τ]

omit [Caller] in
theorem traced_withRows (cursor : Nat) {body : List Row → Action τ α}
    (h : ∀ rows, Traced (body rows)) : Traced (withRows cursor body) := by
  intro t clock
  obtain ⟨⟨result, u, clock', notes⟩, hbody, hnotes⟩ := h (RowStore.pending t cursor) t clock
  exact ⟨_, hbody.withRows, hnotes⟩

theorem traced_find? (way : Way) (place : NamespacedId) :
    Traced (find? way place : Action τ _) := by
  refine (traced_onTable _).bind ?_
  intro found
  cases found with
  | none => exact traced_pure none
  | some row => exact (traced_connectionOf way row).map some

theorem traced_fetch (place : NamespacedId) : Traced (fetch place : Action τ _) := by
  refine (traced_find? .fetch place).bind ?_
  intro found
  cases found with
  | none => exact traced_throw _
  | some c => exact traced_pure c

theorem traced_claim (namespaceName : Value) (info : ConnectionMeta) :
    Traced (claim namespaceName info : Action τ _) := by
  refine (traced_valid _).bind ?_
  intro place
  refine (traced_find? .look place).bind ?_
  intro found
  cases found with
  | none => exact traced_pure place
  | some c =>
    refine (traced_note (by decide) _ _).bind ?_
    intro _
    exact (traced_throw _).bind fun _ => traced_pure place

omit [Caller] in
theorem traced_settle (place : NamespacedId) (info : ConnectionMeta) :
    Traced (settle place info : Action τ _) := by
  refine traced_now.bind ?_
  intro time
  refine (traced_valid _).bind ?_
  intro c
  refine (traced_onTable _).bind ?_
  intro _
  exact (traced_note (by decide) _ _).bind fun _ => traced_pure c.place

omit [Caller] in
theorem traced_revise (place : NamespacedId) (info : ConnectionMeta) (existing : Connection) :
    Traced (revise place info existing : Action τ _) := by
  refine traced_now.bind ?_
  intro time
  refine (traced_valid _).bind ?_
  intro c
  exact (traced_onTable _).bind fun _ => traced_note (by decide) _ _

/-! ### Under observation -/

omit [Caller] [RowStore τ]

/-- What is made of a result does not change how it is observed. -/
theorem map_observed (g : α → β) (operation : String) (x : Action τ α) :
    g <$> observed operation x = observed operation (g <$> x) := by
  funext env
  cases hrun : x.run { env with meter := env.meter.start.2 } with
  | mk result env' =>
    have hx : (observed operation x).run env = (result,
        { env' with
          meter := env'.meter.finish operation (Outcome.ofResult result) env.meter.start.1 }) := by
      rw [run_observed_eq, hrun]
    have hgx : (observed operation (g <$> x)).run env = (result.map g,
        { env' with
          meter := env'.meter.finish operation (Outcome.ofResult (result.map g))
            env.meter.start.1 }) := by
      rw [run_observed_eq, run_map hrun]
    -- the outcome does not depend on what was answered
    rw [Outcome.ofResult_map] at hgx
    exact (run_map hx g).trans hgx.symm

end Store

/-! ## Requests -/

/-- What is asked of a store: an operation, with the namespace as the caller gives it. -/
inductive Request
  | create (namespaceName : Value) (info : ConnectionMeta)
  | get (place : NamespacedId)
  | update (place : NamespacedId) (info : ConnectionMeta)
  | delete (place : NamespacedId)
  | contains (namespaceName : Value) (name : String)
  | list (namespaceName : Value) (filter : Filter)

namespace Request

/-- The name under which a request is observed. -/
def name : Request → String
  | create .. => "create"
  | get _ => "get"
  | update .. => "update"
  | delete _ => "delete"
  | contains .. => "exists"
  | list .. => "list"

variable [Caller] {τ : Type} [RowStore τ]

/-- What a request does while it is observed. -/
def body : Request → Action τ Reply
  | create namespaceName info =>
    Reply.place <$> do Store.settle (← Store.claim namespaceName info) info
  | get place => Reply.connection <$> Store.fetch place
  | update place info => (fun _ => Reply.done) <$> do
    Store.revise place info (← Store.fetch place)
  | delete place => (fun _ => Reply.done) <$> do
    Store.onTable (RowStore.delete place.key)
    Store.note .info "Deleted connection" (Store.dimensions place)
  | contains namespaceName name => Reply.truth <$> do
    let place ← Store.valid (NamespacedId.ofValues namespaceName (.text (connectionId name)))
    return (← Store.find? .look place).isSome
  | list namespaceName filter => Reply.connections <$> do
    let cursor ← Store.onTable (RowStore.scan ⟨[("namespace", namespaceName)]⟩ none)
    let cs ← Store.withRows cursor (Store.keep filter)
    Store.note .debug ("Listed " ++ toString cs.length ++ " connections")
      [("namespace", namespaceName)]
    return cs

/-- Runs a request. -/
def run : Request → Action τ Reply
  | create namespaceName info => Reply.place <$> Store.create namespaceName info
  | get place => Reply.connection <$> Store.get place
  | update place info => (fun _ => Reply.done) <$> Store.update place info
  | delete place => (fun _ => Reply.done) <$> Store.delete place
  | contains namespaceName name => Reply.truth <$> Store.contains namespaceName name
  | list namespaceName filter => Reply.connections <$> Store.list namespaceName filter

/-- A request is observed under its name, by how it ends. -/
theorem run_eq_observed (request : Request) :
    (request.run : Action τ Reply) = Store.observed request.name request.body := by
  cases request <;> exact Store.map_observed _ _ _

/-- Whatever the meter and the log are, the meter sees the name of a request and how it ended, once,
and everything else is as its trace tells. -/
theorem run_traces {request : Request} {t : τ} {clock : Clock} {trace : Trace τ Reply}
    (h : Store.Traces request.body t clock trace) (meter : Meter) (log : Log) :
    (request.run : Action τ Reply).run ⟨t, clock, meter, log⟩ =
      (trace.result, ⟨trace.table, trace.clock,
        Store.metered request.name (Outcome.ofResult trace.result) meter,
        log.takeUp trace.notes⟩) := by
  rw [run_eq_observed]
  exact Store.observed_run fun meter => h meter log

open Store in
theorem traced_body (request : Request) : Traced (request.body : Action τ Reply) := by
  -- each operation is a chain of traced steps
  cases request with
  | create namespaceName info =>
    refine Traced.map ?_ Reply.place
    exact (traced_claim namespaceName info).bind fun place => traced_settle place info
  | get place => exact (traced_fetch place).map Reply.connection
  | update place info =>
    refine Traced.map ?_ _
    exact (traced_fetch place).bind fun existing => traced_revise place info existing
  | delete place =>
    refine Traced.map ?_ _
    exact (traced_onTable _).bind fun _ => traced_note (by decide) _ _
  | contains namespaceName name =>
    refine Traced.map ?_ Reply.truth
    refine (traced_valid _).bind ?_
    intro place
    exact (traced_find? .look place).bind fun found => traced_pure found.isSome
  | list namespaceName filter =>
    refine Traced.map ?_ Reply.connections
    refine (traced_onTable _).bind ?_
    intro cursor
    refine (traced_withRows cursor (traced_keep filter)).bind ?_
    intro cs
    exact (traced_note (by decide) _ _).bind fun _ => traced_pure cs

end Request

/-- The request that an operation is. -/
def Operation.request : Operation → Request
  | create namespaceName info => .create (.text namespaceName) info
  | get place => .get place
  | update place info => .update place info
  | delete place => .delete place
  | contains namespaceName name => .contains (.text namespaceName) name
  | list namespaceName filter => .list (.text namespaceName) filter

theorem Operation.run_eq_request [Caller] {τ : Type} [RowStore τ] (o : Operation) :
    (o.run : Action τ Reply) = o.request.run := by
  cases o <;> rfl

end ConnectionCatalog
