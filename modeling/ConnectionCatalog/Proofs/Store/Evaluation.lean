import ConnectionCatalog.Store

/-! # Proofs.Store.Evaluation — what an operation does, call by call

The rules below run the operations of a store over any table.  Each takes what the calls of
the table gave, as hypotheses about `RowStore`, and tells the result together with the whole
environment that is left.

* `observed_run`: what is observed of a body is its outcome.
* `find?_run`, `fetch_run`, `claim_run`: what was read decides, as `looked`, `fetched` and
  `claimed` say.
* `keep_run`: a listing is `Filter.gather` of the rows that were scanned.
-/

namespace ConnectionCatalog

/-! ## Listings as functions -/

namespace Filter

/-- The connections that a filter keeps; the first on which it fails ends it. -/
def select (filter : Filter) : List Connection → Except Failure (List Connection)
  | [] => .ok []
  | c :: cs => do
    let kept ← filter c
    let rest ← select filter cs
    return if kept then c :: rest else rest

/-- The connections that some rows hold and a filter keeps; the first row that holds none, or
that the filter fails on, ends it. -/
def gather [Caller] (filter : Filter) : List Row → Except Failure (List Connection)
  | [] => .ok []
  | row :: rows => do
    let c ← Connection.ofRow .list row
    let kept ← filter c
    let rest ← gather filter rows
    return if kept then c :: rest else rest

section

variable [Caller] {filter : Filter} {row : Row} {c : Connection} {f : Failure}

theorem gather_of_unread (hrow : Connection.ofRow .list row = .error f) (rows : List Row) :
    filter.gather (row :: rows) = .error f := by
  rw [gather, hrow]
  rfl

theorem gather_of_refused (hrow : Connection.ofRow .list row = .ok c)
    (hrefused : filter c = .error f) (rows : List Row) :
    filter.gather (row :: rows) = .error f := by
  rw [gather, hrow]
  simp only [bind, Except.bind, hrefused]

theorem gather_of_kept {kept : Bool} (hrow : Connection.ofRow .list row = .ok c)
    (hkept : filter c = .ok kept) (rows : List Row) :
    filter.gather (row :: rows) =
      (filter.gather rows).map fun cs => if kept then c :: cs else cs := by
  simp only [gather, hrow, bind, Except.bind, hkept]
  cases filter.gather rows <;> rfl

end

end Filter

/-! ## Calls and operations, one after the other -/

namespace Store

open Access (run_bind_ok run_bind_error)

variable {τ α β : Type}

/-! ## Steps -/

theorem run_onTable (env : Env τ) {access : Access τ α} {r : Except Failure α} {t : τ}
    (h : access.run env.table = (r, t)) :
    (onTable access).run env = (r, { env with table := t }) := by
  have hrun : (onTable access).run env =
      ((access.run env.table).1, { env with table := (access.run env.table).2 }) := rfl
  rw [hrun, h]

/-- The log with a record of the store. -/
def noted (level : Level) (message : String) (dimensions : Dimensions) (log : Log) : Log :=
  log.write level ("[ConnectionStore] " ++ message) dimensions

theorem run_now {env : Env τ} {v : Value} {reads : Nat} (h : env.clock = .manual v reads) :
    (now : Action τ Value).run env = (.ok v, { env with clock := .manual v (reads + 1) }) := by
  have hrun : (now : Action τ Value).run env =
      (env.clock.read.1, { env with clock := env.clock.read.2 }) := rfl
  rw [hrun, h]
  rfl

theorem run_map {x : Action τ α} {env env' : Env τ} {r : Except Failure α}
    (h : x.run env = (r, env')) (g : α → β) : (g <$> x).run env = (r.map g, env') := by
  cases r with
  | ok a => exact run_bind_ok h
  | error f => exact run_bind_error h

theorem run_require (r : Except Failure α) (env : Env τ) :
    (require r : Action τ α).run env = (r, env) := rfl

theorem run_valid (a : α) (env : Env τ) :
    (valid (.ok a) : Action τ α).run env = (.ok a, env) := rfl

/-- What a meter has seen after an operation. -/
def metered (operation : String) (outcome : Outcome) (m : Meter) : Meter :=
  m.start.2.finish operation outcome m.start.1

/-- A body runs once, between the start and the end of the observation. -/
theorem run_observed_eq (operation : String) (body : Action τ α) (env : Env τ) :
    (observed operation body).run env =
      ((body.run { env with meter := env.meter.start.2 }).1,
        { (body.run { env with meter := env.meter.start.2 }).2 with
          meter := (body.run { env with meter := env.meter.start.2 }).2.meter.finish operation
            (Outcome.ofResult (body.run { env with meter := env.meter.start.2 }).1)
            env.meter.start.1 }) := rfl

/-- An operation is observed by its outcome; its body does not touch the meter. -/
theorem observed_run {operation : String} {body : Action τ α} {env : Env τ}
    {r : Except Failure α} {t : τ} {clock : Clock} {log : Log}
    (h : ∀ meter, body.run { env with meter } = (r, ⟨t, clock, meter, log⟩)) :
    (observed operation body).run env =
      (r, ⟨t, clock, metered operation (Outcome.ofResult r) env.meter, log⟩) := by
  rw [run_observed_eq, h]
  rfl

/-! ## Places -/

/-- The place that a namespace and a name give. -/
def placeOf (namespaceName name : String) : NamespacedId := ⟨namespaceName, connectionId name⟩

theorem valid_place (namespaceName name : String) (env : Env τ) :
    (valid (NamespacedId.ofValues (.text namespaceName) (.text (connectionId name))) :
      Action τ NamespacedId).run env = (.ok (placeOf namespaceName name), env) := by
  have hplace : NamespacedId.ofValues (.text namespaceName) (.text (connectionId name)) =
      .ok (placeOf namespaceName name) := NamespacedId.ofFields_fields (placeOf namespaceName name)
  rw [hplace]
  rfl

/-! ## Rows -/

variable [Caller]

/-- The log after a row was read: one that holds no connection is noted. -/
def rowNoted (way : Way) (row : Row) (log : Log) : Log :=
  match Connection.ofRow way row with
  | .ok _ => log
  | .error f =>
    match corruptDetail? f with
    | some detail =>
      noted .error ("Corrupt connection row: " ++ detail)
        (placeDimensions (row.cell "namespace") (row.cell "id")) log
    | none => log

theorem connectionOf_run (way : Way) (row : Row) (env : Env τ) :
    (connectionOf way row : Action τ Connection).run env =
      (Connection.ofRow way row, { env with log := rowNoted way row env.log }) := by
  unfold connectionOf rowNoted
  cases Connection.ofRow way row with
  | ok c => rfl
  | error f =>
    dsimp only
    cases corruptDetail? f <;> rfl

/-- The log after rows were read and connections selected, up to the first failure. -/
def gatherNoted (filter : Filter) : List Row → Log → Log
  | [], log => log
  | row :: rows, log =>
    match Connection.ofRow .list row with
    | .error _ => rowNoted .list row log
    | .ok c =>
      match filter c with
      | .error _ => log
      | .ok _ => gatherNoted filter rows log

theorem rowNoted_of_ok {way : Way} {row : Row} {c : Connection}
    (h : Connection.ofRow way row = .ok c) (log : Log) : rowNoted way row log = log := by
  simp [rowNoted, h]

section

variable {filter : Filter} {row : Row} {c : Connection} {f : Failure} {kept : Bool}

theorem gatherNoted_of_unread (hrow : Connection.ofRow .list row = .error f) (rows : List Row)
    (log : Log) : gatherNoted filter (row :: rows) log = rowNoted .list row log := by
  rw [gatherNoted, hrow]

theorem gatherNoted_of_refused (hrow : Connection.ofRow .list row = .ok c)
    (hrefused : filter c = .error f) (rows : List Row) (log : Log) :
    gatherNoted filter (row :: rows) log = log := by
  simp only [gatherNoted, hrow, hrefused]

theorem gatherNoted_of_kept (hrow : Connection.ofRow .list row = .ok c)
    (hkept : filter c = .ok kept) (rows : List Row) (log : Log) :
    gatherNoted filter (row :: rows) log = gatherNoted filter rows log := by
  simp only [gatherNoted, hrow, hkept]

end

theorem keep_run (filter : Filter) (rows : List Row) (env : Env τ) :
    (keep filter rows : Action τ (List Connection)).run env =
      (filter.gather rows, { env with log := gatherNoted filter rows env.log }) := by
  induction rows with
  | nil => rfl
  | cons row rows ih =>
    -- the row, the filter and the rows behind it, each of which may end the listing
    have hrow := connectionOf_run .list row env
    rw [keep]
    cases hc : Connection.ofRow .list row with
    | error f =>
      rw [hc] at hrow
      rw [run_bind_error hrow, Filter.gather_of_unread hc, gatherNoted_of_unread hc]
    | ok c =>
      rw [hc, rowNoted_of_ok hc] at hrow
      rw [run_bind_ok hrow]
      cases hkept : filter c with
      | error f =>
        rw [run_bind_error (run_require (.error f) env), Filter.gather_of_refused hc hkept,
          gatherNoted_of_refused hc hkept]
      | ok kept =>
        rw [run_bind_ok (run_require (.ok kept) env), Filter.gather_of_kept hc hkept,
          gatherNoted_of_kept hc hkept]
        exact run_map ih _

variable [RowStore τ]

/-! ## Looking up -/

/-- What a look-up finds, of what the table has read. -/
def looked (way : Way) : Option Row → Except Failure (Option Connection)
  | none => .ok none
  | some row => (Connection.ofRow way row).map some

/-- The log after a look-up. -/
def lookNoted (way : Way) : Option Row → Log → Log
  | none => id
  | some row => rowNoted way row

theorem find?_run (way : Way) {place : NamespacedId} {env : Env τ} {t : τ} {found : Option Row}
    (h : (RowStore.read place.key).run env.table = (.ok found, t)) :
    (find? way place).run env =
      (looked way found, { env with table := t, log := lookNoted way found env.log }) := by
  unfold find?
  rw [run_bind_ok (run_onTable env h)]
  cases found with
  | none => rfl
  | some row => exact run_map (connectionOf_run way row { env with table := t }) some

/-- The connection that a look-up has to find. -/
def fetched (place : NamespacedId) : Option Row → Except Failure Connection
  | none => .error (.connectionNotFound place.id)
  | some row => Connection.ofRow .fetch row

theorem fetch_run {place : NamespacedId} {env : Env τ} {t : τ} {found : Option Row}
    (h : (RowStore.read place.key).run env.table = (.ok found, t)) :
    (fetch place).run env =
      (fetched place found, { env with table := t, log := lookNoted .fetch found env.log }) := by
  have hfind := find?_run .fetch h
  unfold fetch
  -- nothing found, a row that is read, and one that is not
  cases found with
  | none =>
    rw [looked] at hfind
    rw [run_bind_ok hfind]
    rfl
  | some row =>
    rw [looked] at hfind
    rw [fetched]
    cases hrow : Connection.ofRow .fetch row with
    | ok c =>
      rw [hrow] at hfind
      rw [run_bind_ok hfind]
      rfl
    | error f =>
      rw [hrow] at hfind
      rw [run_bind_error hfind]

theorem lookNoted_of_fetched {place : NamespacedId} {found : Option Row} {c : Connection}
    (h : fetched place found = .ok c) (log : Log) : lookNoted .fetch found log = log := by
  cases found with
  | none => cases h
  | some row => exact rowNoted_of_ok h log

/-! ## The halves of `create` and `update` -/

/-- The log after a name was refused. -/
def refusalNoted (info : ConnectionMeta) (place : NamespacedId) : Log → Log :=
  noted .warning ("Refusing duplicate connection '" ++ info.name ++ "'") (dimensions place)

/-- The place of a name, which has to be free. -/
def claimed (place : NamespacedId) (info : ConnectionMeta) :
    Option Row → Except Failure NamespacedId
  | none => .ok place
  | some row =>
    (Connection.ofRow .look row).bind fun _ => .error (.connectionAlreadyExists info.name place.id)

/-- A place is claimed only where there is no row. -/
theorem claimed_eq_ok_iff {place other : NamespacedId} {info : ConnectionMeta}
    {found : Option Row} : claimed place info found = .ok other ↔ found = none ∧ other = place := by
  cases found with
  | none => simp [claimed, eq_comm]
  | some row => cases h : Connection.ofRow .look row <;> simp [claimed, h, Except.bind]

/-- The log after a place was claimed. -/
def claimNoted (place : NamespacedId) (info : ConnectionMeta) : Option Row → Log → Log
  | none => id
  | some row =>
    match Connection.ofRow .look row with
    | .ok _ => refusalNoted info place
    | .error _ => rowNoted .look row

theorem claim_run {namespaceName : String} {info : ConnectionMeta} {env : Env τ} {t : τ}
    {found : Option Row}
    (h : (RowStore.read (placeOf namespaceName info.name).key).run env.table = (.ok found, t)) :
    (claim (.text namespaceName) info).run env =
      (claimed (placeOf namespaceName info.name) info found,
        { env with
          table := t
          log := claimNoted (placeOf namespaceName info.name) info found env.log }) := by
  have hfind := find?_run .look h
  unfold claim
  rw [run_bind_ok (valid_place namespaceName info.name env)]
  cases found with
  | none =>
    rw [looked] at hfind
    rw [run_bind_ok hfind]
    rfl
  | some row =>
    rw [looked] at hfind
    rw [claimed, claimNoted]
    cases hrow : Connection.ofRow .look row with
    | ok c =>
      -- a row that is read makes the duplicate; it is noted by the claim, not by the look
      rw [hrow, lookNoted, rowNoted_of_ok hrow] at hfind
      rw [run_bind_ok hfind]
      rfl
    | error f =>
      rw [hrow] at hfind
      rw [run_bind_error hfind]
      rfl

/-- The log after a connection was created. -/
def creationNoted (info : ConnectionMeta) (place : NamespacedId) : Log → Log :=
  noted .info ("Created " ++ info.type.name ++ " connection '" ++ info.name ++ "'")
    (dimensions place)

omit [Caller] in
theorem settle_run {place : NamespacedId} {info : ConnectionMeta} {env : Env τ} {time : Int}
    {reads : Nat} {t : τ} (hclock : env.clock = .manual (.int time) reads)
    (h : (RowStore.upsert (Connection.toRow ⟨place, info, time, time⟩)).run env.table =
      (.ok (), t)) :
    (settle place info).run env =
      (.ok place,
        { env with
          table := t, clock := .manual (.int time) (reads + 1),
          log := creationNoted info place env.log }) := by
  unfold settle
  rw [run_bind_ok (run_now hclock), Connection.ofMeta_int, run_bind_ok (run_valid _ _)]
  rw [run_bind_ok (run_onTable { env with clock := .manual (.int time) (reads + 1) } h)]
  rfl

/-- The log after a connection was updated. -/
def revisionNoted (info : ConnectionMeta) (place : NamespacedId) : Log → Log :=
  noted .info ("Updated connection '" ++ info.name ++ "'") (dimensions place)

omit [Caller] in
theorem revise_run {place : NamespacedId} {info : ConnectionMeta} {existing : Connection}
    {env : Env τ} {time : Int} {reads : Nat} {t : τ}
    (hclock : env.clock = .manual (.int time) reads)
    (h : (RowStore.upsert (Connection.toRow ⟨place, info, existing.created, time⟩)).run env.table =
      (.ok (), t)) :
    (revise place info existing).run env =
      (.ok (),
        { env with
          table := t, clock := .manual (.int time) (reads + 1),
          log := revisionNoted info place env.log }) := by
  unfold revise
  rw [run_bind_ok (run_now hclock), Connection.ofMeta_int, run_bind_ok (run_valid _ _)]
  rw [run_bind_ok (run_onTable { env with clock := .manual (.int time) (reads + 1) } h)]
  rfl

/-! ## Listing -/

omit [Caller] in
theorem withRows_run {cursor : Nat} {body : List Row → Action τ α} {env env' : Env τ}
    {r : Except Failure α} (h : (body (RowStore.pending env.table cursor)).run env = (r, env')) :
    (withRows cursor body).run env =
      (r, { env' with table := RowStore.close cursor env'.table }) := by
  have hrun : (withRows cursor body).run env =
      (((body (RowStore.pending env.table cursor)).run env).1,
        { ((body (RowStore.pending env.table cursor)).run env).2 with
          table := RowStore.close cursor
            ((body (RowStore.pending env.table cursor)).run env).2.table }) := rfl
  rw [hrun, h]

/-! ## Operations

What an operation leaves in the environment is written out, so that the operations of two tables
can be compared. -/

variable {place : NamespacedId} {namespaceName name : String} {info : ConnectionMeta}
variable {env : Env τ} {t u : τ} {found : Option Row} {c : Connection} {f : Failure}
variable {time : Int} {reads : Nat}

theorem get_run (h : (RowStore.read place.key).run env.table = (.ok found, t)) :
    (get place).run env =
      (fetched place found,
        ⟨t, env.clock, metered "get" (Outcome.ofResult (fetched place found)) env.meter,
          lookNoted .fetch found env.log⟩) := by
  refine observed_run ?_
  intro meter
  exact fetch_run h

theorem create_ok (hclock : env.clock = .manual (.int time) reads)
    (h : (RowStore.read (placeOf namespaceName info.name).key).run env.table = (.ok none, t))
    (hput : (RowStore.upsert
      (Connection.toRow ⟨placeOf namespaceName info.name, info, time, time⟩)).run t =
        (.ok (), u)) :
    (create (.text namespaceName) info).run env =
      (.ok (placeOf namespaceName info.name),
        ⟨u, .manual (.int time) (reads + 1), metered "create" .success env.meter,
          creationNoted info (placeOf namespaceName info.name) env.log⟩) := by
  refine observed_run ?_
  intro meter
  have hclaim : (claim (.text namespaceName) info).run { env with meter } =
      (claimed (placeOf namespaceName info.name) info none, { env with table := t, meter }) :=
    claim_run h
  refine Eq.trans (run_bind_ok hclaim) ?_
  exact settle_run hclock hput

theorem create_error
    (h : (RowStore.read (placeOf namespaceName info.name).key).run env.table = (.ok found, t))
    (hf : claimed (placeOf namespaceName info.name) info found = .error f) :
    (create (.text namespaceName) info).run env =
      (.error f,
        ⟨t, env.clock, metered "create" (Outcome.ofFailure f) env.meter,
          claimNoted (placeOf namespaceName info.name) info found env.log⟩) := by
  refine observed_run ?_
  intro meter
  -- nothing is written where the first half fails
  refine run_bind_error ?_
  rw [← hf]
  exact claim_run h

theorem update_ok (hclock : env.clock = .manual (.int time) reads)
    (h : (RowStore.read place.key).run env.table = (.ok found, t))
    (hc : fetched place found = .ok c)
    (hput : (RowStore.upsert (Connection.toRow ⟨place, info, c.created, time⟩)).run t =
      (.ok (), u)) :
    (update place info).run env =
      (.ok (),
        ⟨u, .manual (.int time) (reads + 1), metered "update" .success env.meter,
          revisionNoted info place env.log⟩) := by
  refine observed_run ?_
  intro meter
  have hfetch : (fetch place).run { env with meter } =
      (fetched place found,
        { env with table := t, meter, log := lookNoted .fetch found env.log }) :=
    fetch_run h
  rw [hc, lookNoted_of_fetched hc] at hfetch
  refine Eq.trans (run_bind_ok hfetch) ?_
  exact revise_run hclock hput

theorem update_error (h : (RowStore.read place.key).run env.table = (.ok found, t))
    (hf : fetched place found = .error f) :
    (update place info).run env =
      (.error f,
        ⟨t, env.clock, metered "update" (Outcome.ofFailure f) env.meter,
          lookNoted .fetch found env.log⟩) := by
  refine observed_run ?_
  intro meter
  refine run_bind_error ?_
  rw [← hf]
  exact fetch_run h

/-- The log after a connection was deleted, whether or not there was one. -/
def deletionNoted (place : NamespacedId) : Log → Log :=
  noted .info "Deleted connection" (dimensions place)

omit [Caller] in
theorem delete_run (h : (RowStore.delete place.key).run env.table = (.ok (), t)) :
    (delete place).run env =
      (.ok (),
        ⟨t, env.clock, metered "delete" .success env.meter, deletionNoted place env.log⟩) := by
  refine observed_run ?_
  intro meter
  refine Eq.trans (run_bind_ok (run_onTable { env with meter } h)) ?_
  rfl

theorem contains_run
    (h : (RowStore.read (placeOf namespaceName name).key).run env.table = (.ok found, t)) :
    (contains (.text namespaceName) name).run env =
      ((looked .look found).map Option.isSome,
        ⟨t, env.clock,
          metered "exists" (Outcome.ofResult ((looked .look found).map Option.isSome)) env.meter,
          lookNoted .look found env.log⟩) := by
  refine observed_run ?_
  intro meter
  refine Eq.trans (run_bind_ok (valid_place namespaceName name { env with meter })) ?_
  have hfind : (find? .look (placeOf namespaceName name)).run { env with meter } =
      (looked .look found,
        { env with table := t, meter, log := lookNoted .look found env.log }) :=
    find?_run .look h
  exact run_map hfind Option.isSome

/-- The log after a listing. -/
def listingNoted (namespaceName : String) (count : Nat) : Log → Log :=
  noted .debug ("Listed " ++ toString count ++ " connections")
    [("namespace", .text namespaceName)]

/-- The range of the connections of a namespace. -/
def namespaceRange (namespaceName : String) : Range := ⟨[("namespace", .text namespaceName)]⟩

theorem list_ok {filter : Filter} {cursor : Nat} {cs : List Connection}
    (h : (RowStore.scan (namespaceRange namespaceName) none).run env.table = (.ok cursor, t))
    (hrows : filter.gather (RowStore.pending t cursor) = .ok cs) :
    (list (.text namespaceName) filter).run env =
      (.ok cs,
        ⟨RowStore.close cursor t, env.clock, metered "list" .success env.meter,
          listingNoted namespaceName cs.length
            (gatherNoted filter (RowStore.pending t cursor) env.log)⟩) := by
  refine observed_run ?_
  intro meter
  refine Eq.trans (run_bind_ok (run_onTable { env with meter } h)) ?_
  have hkeep := keep_run filter (RowStore.pending t cursor)
    (⟨t, env.clock, meter, env.log⟩ : Env τ)
  rw [hrows] at hkeep
  refine Eq.trans (run_bind_ok (withRows_run hkeep)) ?_
  rfl

theorem list_error {filter : Filter} {cursor : Nat}
    (h : (RowStore.scan (namespaceRange namespaceName) none).run env.table = (.ok cursor, t))
    (hrows : filter.gather (RowStore.pending t cursor) = .error f) :
    (list (.text namespaceName) filter).run env =
      (.error f,
        ⟨RowStore.close cursor t, env.clock, metered "list" (Outcome.ofFailure f) env.meter,
          gatherNoted filter (RowStore.pending t cursor) env.log⟩) := by
  refine observed_run ?_
  intro meter
  refine Eq.trans (run_bind_ok (run_onTable { env with meter } h)) ?_
  have hkeep := keep_run filter (RowStore.pending t cursor)
    (⟨t, env.clock, meter, env.log⟩ : Env τ)
  rw [hrows] at hkeep
  exact run_bind_error (withRows_run hkeep)

end Store
end ConnectionCatalog
