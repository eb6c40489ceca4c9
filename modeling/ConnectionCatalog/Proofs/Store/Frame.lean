import ConnectionCatalog.Proofs.Store.Refinement

/-! # Proofs.Store.Frame — what operations leave as it was

An operation looks at its table, comes to its write if it has one, and says what it did.  A `Frame`
says what looking may do to an environment; whatever holds of a frame holds of everything that an
operation does apart from its write.

`Operation.prepared` is what an operation is about to write, or why it fails before it writes.

* `Frame.run_keeps`: an operation keeps to a frame that its write keeps to.
* `Operation.course`: an operation ends in one of three ways.  It looked and writes nothing, it
  failed before its write, or it made its write, and then the outcome is that of the write.
-/

namespace ConnectionCatalog

open Access (run_bind_ok run_bind_error)

/-! ## Frames -/

/-- What may become of an environment when something only looks at the table. -/
structure Frame (τ : Type) [RowStore τ] where
  Allows : Env τ → Env τ → Prop
  trans {a b c : Env τ} : Allows a b → Allows b c → Allows a c
  clock (env : Env τ) : Allows env { env with clock := env.clock.read.2 }
  meter (env : Env τ) (meter : Meter) : Allows env { env with meter }
  log (env : Env τ) (log : Log) : Allows env { env with log }
  read (env : Env τ) (key : Row) :
    Allows env { env with table := ((RowStore.read key).run env.table).2 }
  scan (env : Env τ) (range : Range) (limit : Option Int) :
    Allows env { env with table := ((RowStore.scan range limit).run env.table).2 }
  setCursor (env : Env τ) (n : Nat) (c : Cursor) :
    Allows env { env with table := RowStore.setCursor n c env.table }

namespace Frame

variable {τ α β : Type} [RowStore τ] (F : Frame τ)

theorem refl (env : Env τ) : F.Allows env env := F.meter env env.meter

/-- An action keeps to a frame if it does nothing else to any environment. -/
def Keeps (x : Action τ α) : Prop := ∀ env, F.Allows env (x.run env).2

variable {F}

theorem Keeps.of_run {x : Action τ α} (hx : F.Keeps x) {env env' : Env τ} {r : Except Failure α}
    (h : x.run env = (r, env')) : F.Allows env env' := by
  have hallows := hx env
  rw [h] at hallows
  exact hallows

theorem Keeps.bind {x : Action τ α} {g : α → Action τ β} (hx : F.Keeps x)
    (hg : ∀ a, F.Keeps (g a)) : F.Keeps (x >>= g) := by
  intro env
  cases h : x.run env with
  | mk r env' =>
    cases r with
    | ok a =>
      rw [run_bind_ok h]
      exact F.trans (hx.of_run h) (hg a env')
    | error f =>
      rw [run_bind_error h]
      exact hx.of_run h

theorem Keeps.map {x : Action τ α} (hx : F.Keeps x) (g : α → β) : F.Keeps (g <$> x) := by
  intro env
  cases h : x.run env with
  | mk r env' =>
    rw [Store.run_map h]
    exact hx.of_run h

variable (F)

/-! ### Steps -/

theorem keeps_pure (a : α) : F.Keeps (pure a : Action τ α) := fun env => F.refl env

theorem keeps_throw (f : Failure) : F.Keeps (throw f : Action τ α) := fun env => F.refl env

theorem keeps_valid (r : Except Invalid α) : F.Keeps (Store.valid r : Action τ α) := by
  cases r with
  | ok a => exact F.keeps_pure a
  | error reason => exact F.keeps_throw (.invalid reason)

theorem keeps_now : F.Keeps (Store.now : Action τ Value) := fun env => F.clock env

theorem keeps_note (level : Level) (message : String) (dimensions : Dimensions) :
    F.Keeps (Store.note level message dimensions : Action τ Unit) :=
  fun env => F.log env (Store.noted level message dimensions env.log)

theorem keeps_onTable {access : Access τ α}
    (h : ∀ env : Env τ, F.Allows env { env with table := (access.run env.table).2 }) :
    F.Keeps (Store.onTable access) := h

theorem keeps_observed (operation : String) {body : Action τ α} (h : F.Keeps body) :
    F.Keeps (Store.observed operation body) := by
  intro env
  -- the meter is started before the body and finished after it
  have hbody := F.trans (F.meter env env.meter.start.2) (h { env with meter := env.meter.start.2 })
  exact F.trans hbody (F.meter _ _)

variable [Caller]

theorem keeps_connectionOf (way : Way) (row : Row) :
    F.Keeps (Store.connectionOf way row : Action τ Connection) := by
  intro env
  rw [Store.connectionOf_run]
  exact F.log env _

/-! ### Looking up and listing -/

theorem keeps_find? (way : Way) (place : NamespacedId) : F.Keeps (Store.find? way place) := by
  refine (F.keeps_onTable fun env => F.read env place.key).bind ?_
  intro found
  cases found with
  | none => exact F.keeps_pure none
  | some row => exact (F.keeps_connectionOf way row).map some

theorem keeps_fetch (place : NamespacedId) : F.Keeps (Store.fetch place) := by
  refine (F.keeps_find? .fetch place).bind ?_
  intro found
  cases found with
  | none => exact F.keeps_throw (.connectionNotFound place.id)
  | some c => exact F.keeps_pure c

theorem keeps_claim (namespaceName : Value) (info : ConnectionMeta) :
    F.Keeps (Store.claim namespaceName info) := by
  refine (F.keeps_valid _).bind ?_
  intro place
  refine (F.keeps_find? .look place).bind ?_
  intro found
  cases found with
  | none => exact F.keeps_pure place
  | some c =>
    refine (F.keeps_note _ _ _).bind ?_
    intro _
    -- nothing is run behind the failure
    exact (F.keeps_throw (.connectionAlreadyExists info.name place.id)).bind
      fun _ => F.keeps_pure place

theorem keeps_keep (filter : Filter) (rows : List Row) :
    F.Keeps (Store.keep filter rows : Action τ (List Connection)) := by
  intro env
  rw [Store.keep_run]
  exact F.log env _

omit [Caller] in
theorem keeps_withRows (cursor : Nat) {body : List Row → Action τ α}
    (h : ∀ rows, F.Keeps (body rows)) : F.Keeps (Store.withRows cursor body) := by
  intro env
  have hbody := h (RowStore.pending env.table cursor) env
  -- closing a cursor either sets it or, where there is none, does nothing
  have hclose : ∀ env : Env τ,
      F.Allows env { env with table := RowStore.close cursor env.table } := by
    intro env
    unfold RowStore.close
    cases RowStore.cursor? env.table cursor with
    | none => exact F.refl env
    | some c => exact F.setCursor env cursor c.close
  exact F.trans hbody (hclose _)

theorem keeps_get (place : NamespacedId) : F.Keeps (Store.get place) :=
  F.keeps_observed "get" (F.keeps_fetch place)

theorem keeps_contains (namespaceName : Value) (name : String) :
    F.Keeps (Store.contains namespaceName name) := by
  refine F.keeps_observed "exists" ((F.keeps_valid _).bind ?_)
  intro place
  refine (F.keeps_find? .look place).bind ?_
  intro found
  exact F.keeps_pure found.isSome

theorem keeps_list (namespaceName : Value) (filter : Filter) :
    F.Keeps (Store.list namespaceName filter) := by
  refine F.keeps_observed "list" ((F.keeps_onTable fun env => F.scan env _ none).bind ?_)
  intro cursor
  refine (F.keeps_withRows cursor fun rows => F.keeps_keep filter rows).bind ?_
  intro cs
  exact (F.keeps_note _ _ _).bind fun _ => F.keeps_pure cs

end Frame

/-! ## Writes -/

/-- What an operation writes to its table. -/
inductive Write
  | put (c : Connection)
  | drop (place : NamespacedId)

/-- The call that a write makes. -/
def Write.access {τ : Type} [RowStore τ] : Write → Access τ Unit
  | put c => RowStore.upsert c.toRow
  | drop place => RowStore.delete place.key

namespace Store

/-- The connection that is to be written now, if the clock and what it shows give one. -/
def dated (make : Value → Except Invalid Connection) (clock : Clock) :
    Except Failure Connection :=
  clock.read.1.bind fun time => (make time).mapError Failure.invalid

end Store

namespace Operation

/-- Whether an operation never writes. -/
def reads : Operation → Bool
  | get _ | contains .. | list .. => true
  | create .. | update .. | delete _ => false

/-- What an operation returns after its write. -/
def receipt : Operation → Reply
  | create namespaceName info => .place (Store.placeOf namespaceName info.name)
  | _ => .done

/-- What an operation is about to write, if it writes at all, or why it fails before that: the
look-up fails, the place is taken or empty, what is there is corrupt, the clock fails, or what it
shows is no time. -/
def prepared [Caller] {τ : Type} [RowStore τ] (env : Env τ) :
    Operation → Except Failure (Option Write)
  | create namespaceName info => do
    let place := Store.placeOf namespaceName info.name
    let place ← Store.claimed place info (← ((RowStore.read place.key).run env.table).1)
    let c ← Store.dated (fun time => Connection.ofMeta place info time time) env.clock
    return some (.put c)
  | update place info => do
    let existing ← Store.fetched place (← ((RowStore.read place.key).run env.table).1)
    let c ← Store.dated (Connection.ofMeta place info (.int existing.created)) env.clock
    return some (.put c)
  | delete place => return some (.drop place)
  | get _ | contains .. | list .. => return none

end Operation

namespace Frame

variable [Caller] {τ : Type} [RowStore τ] (F : Frame τ)

/-- An operation that never writes keeps to every frame. -/
theorem reads_keeps {o : Operation} (h : o.reads = true) : F.Keeps (o.run : Action τ Reply) := by
  cases o with
  | get place => exact (F.keeps_get place).map Reply.connection
  | contains namespaceName name => exact (F.keeps_contains _ name).map Reply.truth
  | list namespaceName filter => exact (F.keeps_list _ filter).map Reply.connections
  | create namespaceName info => cases h
  | update place info => cases h
  | delete place => cases h

/-- An operation keeps to a frame if its write does. -/
theorem run_keeps
    (hwrite : ∀ (w : Write) (env : Env τ),
      F.Allows env { env with table := (w.access.run env.table).2 }) (o : Operation) :
    F.Keeps (o.run : Action τ Reply) := by
  have hput : ∀ c : Connection, F.Keeps (Store.onTable (RowStore.upsert c.toRow)) :=
    fun c => F.keeps_onTable fun env => hwrite (.put c) env
  -- the write and the note after it, behind a reading of the clock that has to give a time
  have hdated : ∀ {β : Type} (make : Value → Except Invalid Connection) (level : Level)
      (message : String) (dimensions : Dimensions) (last : Connection → β),
      F.Keeps (do
        let c ← Store.valid (make (← Store.now))
        Store.onTable (RowStore.upsert c.toRow)
        Store.note level message dimensions
        return last c : Action τ β) := by
    intro β make level message dimensions last
    refine F.keeps_now.bind fun time => (F.keeps_valid (make time)).bind fun c => ?_
    exact (hput c).bind fun _ => (F.keeps_note _ _ _).bind fun _ => F.keeps_pure (last c)
  cases o with
  | create namespaceName info =>
    refine (F.keeps_observed "create" ((F.keeps_claim _ info).bind ?_)).map Reply.place
    intro place
    exact hdated _ _ _ _ Connection.place
  | get place => exact F.reads_keeps rfl
  | update place info =>
    refine (F.keeps_observed "update" ((F.keeps_fetch place).bind ?_)).map _
    intro existing
    exact hdated _ _ _ _ fun _ => ()
  | delete place =>
    have hdrop : F.Keeps (Store.onTable (RowStore.delete place.key)) :=
      F.keeps_onTable fun env => hwrite (.drop place) env
    exact (F.keeps_observed "delete" (hdrop.bind fun _ => F.keeps_note _ _ _)).map _
  | contains namespaceName name => exact F.reads_keeps rfl
  | list namespaceName filter => exact F.reads_keeps rfl

end Frame

/-! ## The course of an operation -/

/-- How an operation goes: what it gives, and the environment after it. -/
inductive Operation.Course [Caller] {τ : Type} [RowStore τ] (F : Frame τ) (env : Env τ)
    (o : Operation) :
    Except Failure Reply × Env τ → Prop
  | looked {r : Except Failure Reply} {after : Env τ} (hprepared : o.prepared env = .ok none)
    (hframe : F.Allows env after) : Course F env o (r, after)
  | refused {f : Failure} {after : Env τ} (hprepared : o.prepared env = .error f)
    (hframe : F.Allows env after) : Course F env o (.error f, after)
  | wrote {w : Write} {middle after : Env τ} {r : Except Failure Unit}
    (hprepared : o.prepared env = .ok (some w)) (hframe : F.Allows env middle)
    (hwrite : w.access.run middle.table = (r, after.table)) :
    Course F env o (r.map fun _ => o.receipt, after)

namespace Store

variable {τ α : Type} {env : Env τ} {t : τ}

theorem run_observed (operation : String) {body : Action τ α} {env' : Env τ}
    {r : Except Failure α} (h : body.run { env with meter := env.meter.start.2 } = (r, env')) :
    ∃ meter, (observed operation body).run env = (r, { env' with meter }) := by
  rw [run_observed_eq, h]
  exact ⟨_, rfl⟩

variable [RowStore τ]

theorem find?_error [Caller] {way : Way} {place : NamespacedId} {f : Failure}
    (h : (RowStore.read place.key).run env.table = (.error f, t)) :
    (find? way place).run env = (.error f, { env with table := t }) :=
  run_bind_error (run_onTable env h)

/-- A place is claimed as what was read decides. -/
theorem claim_course [Caller] (env : Env τ) {namespaceName : String} {info : ConnectionMeta}
    {found : Except Failure (Option Row)}
    (h : (RowStore.read (placeOf namespaceName info.name).key).run env.table = (found, t)) :
    ∃ log, (claim (.text namespaceName) info).run env =
      (found.bind (claimed (placeOf namespaceName info.name) info),
        { env with table := t, log }) := by
  cases found with
  | ok found => exact ⟨_, claim_run h⟩
  | error f =>
    refine ⟨env.log, ?_⟩
    unfold claim
    rw [run_bind_ok (valid_place namespaceName info.name env)]
    exact run_bind_error (find?_error h)

/-- A connection is fetched as what was read decides. -/
theorem fetch_course [Caller] (env : Env τ) {place : NamespacedId}
    {found : Except Failure (Option Row)}
    (h : (RowStore.read place.key).run env.table = (found, t)) :
    ∃ log, (fetch place).run env =
      (found.bind (fetched place), { env with table := t, log }) := by
  cases found with
  | ok found => exact ⟨_, fetch_run h⟩
  | error f => exact ⟨env.log, run_bind_error (find?_error h)⟩

omit [RowStore τ] in
theorem dated_run (make : Value → Except Invalid Connection) (env : Env τ) :
    (now >>= fun time => valid (make time) : Action τ Connection).run env =
      (dated make env.clock, { env with clock := env.clock.read.2 }) := by
  have hnow : (now : Action τ Value).run env =
      (env.clock.read.1, { env with clock := env.clock.read.2 }) := rfl
  unfold dated
  cases hclock : env.clock.read.1 with
  -- no connection is made without a time
  | error f =>
    rw [hclock] at hnow
    exact run_bind_error hnow
  | ok time =>
    rw [hclock] at hnow
    rw [run_bind_ok hnow, Except.bind]
    cases make time <;> rfl

/-- A write and a note of it: the outcome is that of the write. -/
theorem reported_course (w : Write) (level : Level) (message : String) (dimensions : Dimensions)
    (env : Env τ) :
    ∃ after : Env τ, w.access.run env.table = ((w.access.run env.table).1, after.table) ∧
      (onTable w.access >>= fun _ => note level message dimensions : Action τ Unit).run env =
        ((w.access.run env.table).1, after) := by
  cases hwrite : w.access.run env.table with
  | mk r u =>
    cases r with
    | ok _ =>
      refine ⟨{ env with table := u, log := noted level message dimensions env.log }, rfl, ?_⟩
      exact run_bind_ok (run_onTable env hwrite)
    | error f => exact ⟨{ env with table := u }, rfl, run_bind_error (run_onTable env hwrite)⟩

/-- What is written now, and then noted: without a connection nothing is written. -/
theorem booked_course (make : Value → Except Invalid Connection) (level : Level)
    (message : String) (dimensions : Dimensions) (last : Connection → α) (env : Env τ) :
    let body : Action τ α := do
      let c ← valid (make (← now))
      onTable (RowStore.upsert c.toRow)
      note level message dimensions
      return last c
    match dated make env.clock with
    | .error f => body.run env = (.error f, { env with clock := env.clock.read.2 })
    | .ok c => ∃ after : Env τ,
      (Write.put c).access.run env.table = (((Write.put c).access.run env.table).1, after.table) ∧
        body.run env = (((Write.put c).access.run env.table).1.map fun _ => last c, after) := by
  intro body
  -- the body is the date followed by the write and its note, both of which have runs of their own
  have hbody : body = (now >>= fun time => valid (make time)) >>= fun c =>
      (fun _ => last c) <$> (onTable (Write.put c).access >>= fun _ =>
        note level message dimensions) := by
    simp only [body, Write.access, bind_assoc, map_eq_pure_bind]
  have hdated := dated_run make env
  rw [hbody]
  cases hc : dated make env.clock with
  | error f =>
    rw [hc] at hdated
    exact run_bind_error hdated
  | ok c =>
    rw [hc] at hdated
    obtain ⟨after, hwrite, hrun⟩ := reported_course (.put c) level message dimensions
      { env with clock := env.clock.read.2 }
    -- the write starts where the clock has been read
    refine ⟨after, hwrite, ?_⟩
    rw [run_bind_ok hdated]
    exact run_map hrun _

theorem place_of_ofMeta {place : NamespacedId} {info : ConnectionMeta} {created updated : Value}
    {c : Connection} (h : Connection.ofMeta place info created updated = .ok c) :
    c.place = place := by
  rw [Connection.ofMeta_eq, Checked.forRecord_eq_ok_iff, Checked.map_eq_ok_iff] at h
  obtain ⟨times, -, rfl⟩ := h
  rfl

/-- A connection that is written now is at the place that it is made for. -/
theorem place_of_dated {make : Value → Except Invalid Connection} {clock : Clock}
    {place : NamespacedId} {c : Connection} (hmake : ∀ v c, make v = .ok c → c.place = place)
    (h : dated make clock = .ok c) : c.place = place := by
  unfold dated at h
  cases htime : clock.read.1 with
  | error f => rw [htime] at h; cases h
  | ok time =>
    rw [htime, Except.bind] at h
    cases hc : make time with
    | error reason => rw [hc] at h; cases h
    | ok d =>
      rw [hc] at h
      cases h
      exact hmake time c hc

end Store

namespace Operation

variable [Caller] {τ : Type} [RowStore τ] {F : Frame τ} {env : Env τ} {t : τ}
variable {found : Except Failure (Option Row)}

theorem prepared_create {namespaceName : String} {info : ConnectionMeta}
    (h : (RowStore.read (Store.placeOf namespaceName info.name).key).run env.table = (found, t)) :
    (create namespaceName info).prepared env =
      (found.bind (Store.claimed (Store.placeOf namespaceName info.name) info)).bind fun place =>
        (Store.dated (fun time => Connection.ofMeta place info time time) env.clock).bind
          fun c => .ok (some (.put c)) := by
  simp only [prepared, h]
  cases found <;> rfl

theorem prepared_update {place : NamespacedId} (info : ConnectionMeta)
    (h : (RowStore.read place.key).run env.table = (found, t)) :
    (update place info).prepared env =
      (found.bind (Store.fetched place)).bind fun existing =>
        (Store.dated (Connection.ofMeta place info (.int existing.created)) env.clock).bind
          fun c => .ok (some (.put c)) := by
  simp only [prepared, h]
  cases found <;> rfl

/-- The second half of an operation, which follows a first half that succeeded. -/
theorem course_of_booked {o : Operation} {operation : String} {α : Type} {first : Action τ α}
    {a : α} {log : Log} {make : Value → Except Invalid Connection} {level : Level}
    {message : String} {dimensions : Dimensions} {β : Type} {reply : β → Reply}
    {second : α → Action τ β}
    (last : Connection → β)
    (hfirst : first.run { env with meter := env.meter.start.2 } =
      (.ok a, ⟨t, env.clock, env.meter.start.2, log⟩))
    (hframe : F.Keeps first)
    (hsecond : second a = (do
      let c ← Store.valid (make (← Store.now))
      Store.onTable (RowStore.upsert c.toRow)
      Store.note level message dimensions
      return last c))
    (hprepared : o.prepared env =
      (Store.dated make env.clock).bind fun c => .ok (some (.put c)))
    (hreply : ∀ c, Store.dated make env.clock = .ok c → reply (last c) = o.receipt) :
    Course F env o ((reply <$> Store.observed operation (first >>= second)).run env) := by
  have hmiddle : F.Allows env ⟨t, env.clock, env.meter.start.2, log⟩ :=
    F.trans (F.meter env env.meter.start.2) (hframe.of_run hfirst)
  have hbooked := Store.booked_course make level message dimensions last
    ⟨t, env.clock, env.meter.start.2, log⟩
  rw [← hsecond] at hbooked
  -- whether a date comes about decides whether the operation writes at all
  cases hc : Store.dated make env.clock with
  | error f =>
    simp only [hc] at hbooked
    rw [hc] at hprepared
    obtain ⟨meter, hrun⟩ := Store.run_observed operation
      ((run_bind_ok hfirst).trans hbooked)
    rw [Store.run_map hrun]
    exact .refused hprepared (F.trans hmiddle (F.trans (F.clock _) (F.meter _ meter)))
  | ok c =>
    simp only [hc] at hbooked
    rw [hc] at hprepared
    obtain ⟨after, hwrite, hrun⟩ := hbooked
    obtain ⟨meter, hobserved⟩ := Store.run_observed operation
      ((run_bind_ok hfirst).trans hrun)
    rw [Store.run_map hobserved]
    have hcourse : Course F env o
        (((Write.put c).access.run t).1.map fun _ => o.receipt, { after with meter }) :=
      .wrote hprepared hmiddle hwrite
    -- a write that fails gives its failure in place of the receipt
    cases hr : ((Write.put c).access.run t).1 with
    | ok _ =>
      rw [hr] at hcourse
      simpa [Except.map, hreply c hc] using hcourse
    | error f =>
      rw [hr] at hcourse
      simpa [Except.map] using hcourse

/-- An operation whose first half fails ends there. -/
theorem course_of_failed {o : Operation} {operation : String} {α β : Type} {first : Action τ α}
    {second : α → Action τ β} {reply : β → Reply} {f : Failure} {log : Log}
    (hfirst : first.run { env with meter := env.meter.start.2 } =
      (.error f, ⟨t, env.clock, env.meter.start.2, log⟩))
    (hframe : F.Keeps first) (hprepared : o.prepared env = .error f) :
    Course F env o ((reply <$> Store.observed operation (first >>= second)).run env) := by
  obtain ⟨meter, hrun⟩ := Store.run_observed operation (run_bind_error hfirst)
  rw [Store.run_map hrun]
  refine .refused hprepared (F.trans (F.meter env env.meter.start.2) ?_)
  exact F.trans (hframe.of_run hfirst) (F.meter _ meter)

theorem create_course (namespaceName : String) (info : ConnectionMeta) :
    Course F env (create namespaceName info) ((create namespaceName info).run.run env) := by
  cases hread : (RowStore.read (Store.placeOf namespaceName info.name).key).run env.table with
  | mk found t =>
    obtain ⟨log, hclaim⟩ :=
      Store.claim_course { env with meter := env.meter.start.2 } hread
    have hprepared := prepared_create hread
    cases hclaimed : found.bind (Store.claimed (Store.placeOf namespaceName info.name) info) with
    | error f =>
      rw [hclaimed] at hclaim hprepared
      exact course_of_failed hclaim (F.keeps_claim _ info) hprepared
    | ok place =>
      rw [hclaimed] at hclaim hprepared
      refine course_of_booked Connection.place hclaim (F.keeps_claim _ info) rfl hprepared ?_
      intro c hc
      -- a place that was claimed is the one that the name gives
      obtain ⟨row?, -, hclaimed⟩ := Except.bind_eq_ok_iff.1 hclaimed
      obtain ⟨-, rfl⟩ := Store.claimed_eq_ok_iff.1 hclaimed
      rw [Store.place_of_dated (fun v c h => Store.place_of_ofMeta h) hc]
      rfl

theorem update_course (place : NamespacedId) (info : ConnectionMeta) :
    Course F env (update place info) ((update place info).run.run env) := by
  cases hread : (RowStore.read place.key).run env.table with
  | mk found t =>
    obtain ⟨log, hfetch⟩ :=
      Store.fetch_course { env with meter := env.meter.start.2 } hread
    have hprepared := prepared_update info hread
    -- without a connection that is read there is nothing to revise
    cases hfetched : found.bind (Store.fetched place) with
    | error f =>
      rw [hfetched] at hfetch hprepared
      exact course_of_failed hfetch (F.keeps_fetch place) hprepared
    | ok existing =>
      rw [hfetched] at hfetch hprepared
      exact course_of_booked (fun _ => ()) hfetch (F.keeps_fetch place) rfl hprepared
        fun _ _ => rfl

theorem delete_course (place : NamespacedId) :
    Course F env (delete place) ((delete place).run.run env) := by
  obtain ⟨after, hwrite, hbody⟩ := Store.reported_course (.drop place) .info "Deleted connection"
    (Store.dimensions place) { env with meter := env.meter.start.2 }
  obtain ⟨meter, hrun⟩ := Store.run_observed "delete" hbody
  have hrun' : (delete place).run.run env =
      (((Write.drop place).access.run env.table).1.map fun _ => Reply.done, { after with meter }) :=
    Store.run_map hrun _
  rw [hrun']
  exact .wrote rfl (F.refl env) hwrite

theorem reads_course {o : Operation} (h : o.reads = true) : Course F env o (o.run.run env) := by
  have hprepared : o.prepared env = .ok none := by
    cases o <;> first | rfl | cases h
  cases hrun : o.run.run env with
  | mk r after => exact .looked hprepared ((F.reads_keeps h).of_run hrun)

/-- Every operation looks only, fails before its write, or ends as its write does. -/
theorem course (F : Frame τ) (env : Env τ) (o : Operation) :
    Course F env o (o.run.run env) := by
  cases o with
  | create namespaceName info => exact create_course namespaceName info
  | get place => exact reads_course rfl
  | update place info => exact update_course place info
  | delete place => exact delete_course place
  | contains namespaceName name => exact reads_course rfl
  | list namespaceName filter => exact reads_course rfl

end Operation
end ConnectionCatalog
