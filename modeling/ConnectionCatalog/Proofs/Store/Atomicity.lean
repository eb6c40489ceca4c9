import ConnectionCatalog.Proofs.Store.Frame
import ConnectionCatalog.Proofs.Store.Reading
import ConnectionCatalog.Proofs.Store.Trace
import ConnectionCatalog.Proofs.Table.Calls

/-! # Proofs.Store.Atomicity — an operation that fails changes no row

Whatever the rows are, whichever calls were made to fail, and whatever namespace, clock and filter
are used, an operation that fails leaves the rows of its table as they were.  An operation that only
reads, and one that fails before its write, does not even make a call that writes.

* `MemoryTable.OnlyLooked`: the rows are the same, and no call that writes was made.
* `Request.of_error`, `Request.of_refused`: what is asked of a store is an operation, or its
  namespace is refused before anything else is done.
* `failing_operations_change_nothing`: the statement for tables in memory and, for the rows, for the
  tables of a database on either route of writing.
-/

namespace ConnectionCatalog

open Sql

/-- Whether a call changes the rows of a table if it succeeds. -/
def Call.writes : Call → Bool
  | upsert _ | delete _ => true
  | read _ | scan .. => false

namespace MemoryTable

/-- What a table is after calls that do not write: it may have more calls and other cursors. -/
structure OnlyLooked (t u : MemoryTable) : Prop where
  name : u.name = t.name
  key : u.key = t.key
  rows : u.rows = t.rows
  failures : u.failures = t.failures
  calls : ∃ made, u.calls = t.calls ++ made ∧ ∀ call ∈ made, call.writes = false

variable {t u v : MemoryTable}

theorem OnlyLooked.refl (t : MemoryTable) : t.OnlyLooked t :=
  ⟨rfl, rfl, rfl, rfl, [], by simp⟩

theorem OnlyLooked.trans (htu : t.OnlyLooked u) (huv : u.OnlyLooked v) : t.OnlyLooked v := by
  obtain ⟨first, hfirst, hfirst'⟩ := htu.calls
  obtain ⟨second, hsecond, hsecond'⟩ := huv.calls
  refine ⟨huv.name.trans htu.name, huv.key.trans htu.key, huv.rows.trans htu.rows,
    huv.failures.trans htu.failures, first ++ second, ?_, ?_⟩
  · rw [hsecond, hfirst, List.append_assoc]
  · intro call hcall
    rcases List.mem_append.1 hcall with hcall | hcall
    · exact hfirst' call hcall
    · exact hsecond' call hcall

theorem OnlyLooked.called (t : MemoryTable) {call : Call} (h : call.writes = false) :
    t.OnlyLooked (t.called call) :=
  ⟨rfl, rfl, rfl, rfl, [call], rfl, by simpa using h⟩

theorem OnlyLooked.setCursors (t : MemoryTable) (cursors : List Cursor) :
    t.OnlyLooked { t with cursors } :=
  ⟨rfl, rfl, rfl, rfl, [], by simp⟩

theorem read_onlyLooked (t : MemoryTable) (key : Row) : t.OnlyLooked ((read key).run t).2 := by
  rw [run_read]
  exact .called t rfl

theorem scan_onlyLooked (t : MemoryTable) (range : Range) (limit : Option Int) :
    t.OnlyLooked ((scan range limit).run t).2 := by
  have hcalled : t.OnlyLooked (t.called (.scan range.pins limit)) := .called t rfl
  rw [run_scan]
  cases t.unlessFailing (.scan range.pins limit) (t.selected range limit) with
  | error f => exact hcalled
  | ok rows => exact hcalled.trans (.setCursors _ _)

/-- Looking at a table in memory. -/
def looking : Frame MemoryTable where
  Allows env env' := env.table.OnlyLooked env'.table
  trans := OnlyLooked.trans
  clock env := .refl env.table
  meter env _ := .refl env.table
  log env _ := .refl env.table
  read env key := read_onlyLooked env.table key
  scan env range limit := scan_onlyLooked env.table range limit
  setCursor env n c := .setCursors env.table (env.table.cursors.set n c)

/-- A write that fails changes no row. -/
theorem rows_of_failed_write {w : Write} {f : Failure} (h : w.access.run t = (.error f, u)) :
    u.rows = t.rows := by
  -- a write fails before the table is touched, for the one reason that its run gives
  cases w with
  | put c =>
    have hrun : (upsert c.toRow).run t = (.error f, u) := h
    rw [run_upsert] at hrun
    split at hrun
    · obtain ⟨-, rfl⟩ := Prod.mk.inj hrun
      rfl
    · cases hrun
  | drop place =>
    have hrun : (delete place.key).run t = (.error f, u) := h
    rw [run_delete] at hrun
    split at hrun
    · obtain ⟨-, rfl⟩ := Prod.mk.inj hrun
      rfl
    · cases hrun

end MemoryTable

namespace Sql.SqlTable

/-- Looking at a table of a database. -/
def looking : Frame SqlTable where
  Allows env env' := env'.table.database = env.table.database
  trans hab hbc := hbc.trans hab
  clock _ := rfl
  meter _ _ := rfl
  log _ _ := rfl
  read env key := by
    have hrun : (RowStore.read key).run env.table = (env.table.looked key, env.table) :=
      run_read env.table key
    rw [hrun]
  scan env range limit := by
    have hrun := run_scan env.table range limit
    cases hselected : env.table.selected range limit with
    | error f =>
      rw [hselected] at hrun
      exact congrArg (fun p => p.2.database) hrun
    | ok rows =>
      rw [hselected] at hrun
      exact congrArg (fun p => p.2.database) hrun
  setCursor _ _ _ := rfl

/-- A change that is not committed leaves the table as it was. -/
theorem eq_of_failed_commit {t u : SqlTable} {step : SqlTable → Except Failure Database}
    {f : Failure} (h : (commit step).run t = (.error f, u)) : u = t := by
  rw [run_commit] at h
  split at h
  · exact (Prod.mk.inj h).2.symm
  · cases h

/-- A write that fails leaves the database as it was, on either route. -/
theorem database_of_failed_write {t u : SqlTable} {w : Write} {f : Failure}
    (h : w.access.run t = (.error f, u)) : u.database = t.database := by
  cases w with
  | put c => exact congrArg database (eq_of_failed_commit h)
  | drop place => exact congrArg database (eq_of_failed_commit h)

end Sql.SqlTable

namespace Operation

variable [Caller] {τ : Type} [RowStore τ] {F : Frame τ} {env : Env τ} {o : Operation} {f : Failure}

/-- An operation that failed before its write. -/
theorem Course.of_refused {p : Except Failure Reply × Env τ} (h : Course F env o p)
    (hprepared : o.prepared env = .error f) : p.1 = .error f ∧ F.Allows env p.2 := by
  cases h with
  | looked h _ => cases hprepared.symm.trans h
  | refused h hframe =>
    cases hprepared.symm.trans h
    exact ⟨rfl, hframe⟩
  | wrote h _ _ => cases hprepared.symm.trans h

/-- An operation that failed either only looked or failed in its write. -/
theorem Course.of_error {p : Except Failure Reply × Env τ} (h : Course F env o p)
    (hp : p.1 = .error f) :
    F.Allows env p.2 ∨ ∃ w middle, o.prepared env = .ok (some w) ∧ F.Allows env middle ∧
      w.access.run middle.table = (.error f, p.2.table) := by
  cases h with
  | looked _ hframe => exact .inl hframe
  | refused _ hframe => exact .inl hframe
  | @wrote w middle after r h hframe hwrite =>
    -- the write was prepared, and its failure is the answer
    right
    cases r with
    | ok _ => cases hp
    | error g =>
      cases hp
      exact ⟨w, middle, h, hframe, hwrite⟩

end Operation

/-! ## Requests -/

/-- A place that was made of the id that a name gives is the place of the name. -/
theorem Store.placeOf_of_ofValues {v : Value} {name : String} {place : NamespacedId}
    (h : NamespacedId.ofValues v (.text (connectionId name)) = .ok place) :
    placeOf place.namespaceName name = place := by
  rw [NamespacedId.ofValues, NamespacedId.ofFields, Checked.forRecord_eq_ok_iff,
    NamespacedId.check, Checked.map_eq_ok_iff] at h
  obtain ⟨⟨namespaceName, id⟩, hparts, rfl⟩ := h
  obtain ⟨-, hid⟩ := Checked.both_eq_ok_iff.1 hparts
  have hgiven : (Fields.require (.ofList [("namespace", v), ("id", .text (connectionId name))]) "id"
      checkText) = .ok (connectionId name) := by
    simp [Fields.require, TextMap.ofList, Checked.atPath_eq_ok_iff]
  rw [hgiven] at hid
  have hsame : connectionId name = id := Except.ok.inj hid
  subst hsame
  rfl

namespace Request

variable [Caller] {τ : Type} [RowStore τ] {F : Frame τ} {env : Env τ} {f : Failure}

/-- Whether a request never writes. -/
def reads : Request → Bool
  | get _ | contains .. | list .. => true
  | create .. | update .. | delete _ => false

/-- What a request is about to write, if it writes at all, or why it fails before that: its
namespace is refused, or the operation fails that it asks for. -/
def prepared (env : Env τ) : Request → Except Failure (Option Write)
  | create namespaceName info => do
    let place ← (NamespacedId.ofValues namespaceName (.text (connectionId info.name))).mapError
      Failure.invalid
    (Operation.create place.namespaceName info).prepared env
  | update place info => (Operation.update place info).prepared env
  | delete place => (Operation.delete place).prepared env
  | get _ | contains .. | list .. => .ok none

/-- A request that never writes keeps to every frame. -/
theorem reads_keeps (F : Frame τ) {request : Request} (h : request.reads = true) :
    F.Keeps (request.run : Action τ Reply) := by
  cases request with
  | get place => exact (F.keeps_get place).map Reply.connection
  | contains namespaceName name => exact (F.keeps_contains namespaceName name).map Reply.truth
  | list namespaceName filter => exact (F.keeps_list namespaceName filter).map Reply.connections
  | create namespaceName info => cases h
  | update place info => cases h
  | delete place => cases h

/-- Where a namespace is accepted, a creation is the operation in the namespace that it spells. -/
theorem create_accepted (env : Env τ) {namespaceName : Value} {info : ConnectionMeta}
    {place : NamespacedId}
    (h : NamespacedId.ofValues namespaceName (.text (connectionId info.name)) = .ok place) :
    ((create namespaceName info).run : Action τ Reply) =
        (Operation.create place.namespaceName info).run ∧
      (create namespaceName info).prepared env =
        (Operation.create place.namespaceName info).prepared env := by
  have hplace := NamespacedId.ofFields_fields (Store.placeOf place.namespaceName info.name)
  rw [Store.placeOf_of_ofValues h] at hplace
  have htext : NamespacedId.ofValues (.text place.namespaceName) (.text (connectionId info.name)) =
      .ok place := by
    rw [← hplace, ← Store.placeOf_of_ofValues h]
    rfl
  constructor
  · simp only [run, Operation.run, Store.create, Store.claim, h, htext]
  · simp only [prepared, h]
    rfl

/-- Where a namespace is refused, a creation fails for that and does nothing else. -/
theorem create_refused (F : Frame τ) (env : Env τ) {namespaceName : Value} {info : ConnectionMeta}
    {reason : Invalid}
    (h : NamespacedId.ofValues namespaceName (.text (connectionId info.name)) = .error reason) :
    ((create namespaceName info).run.run env).1 = .error (.invalid reason) ∧
      F.Allows env ((create namespaceName info).run.run env).2 ∧
      (create namespaceName info).prepared env = .error (.invalid reason) := by
  have hrun : ((create namespaceName info).run : Action τ Reply) =
      Reply.place <$> Store.observed "create" (throw (.invalid reason)) := by
    simp only [run, Store.create, Store.claim, h]
    rfl
  refine ⟨?_, ?_, ?_⟩
  · rw [hrun]
    rfl
  · rw [hrun]
    exact (F.keeps_observed "create" (F.keeps_throw (.invalid reason))).map Reply.place env
  · simp only [prepared, h]
    rfl

/-- A request that failed either only looked or failed in its write. -/
theorem of_error (F : Frame τ) {request : Request} (h : (request.run.run env).1 = .error f) :
    F.Allows env (request.run.run env).2 ∨
      ∃ w middle, request.prepared env = .ok (some w) ∧ F.Allows env middle ∧
        w.access.run middle.table = (.error f, (request.run.run env).2.table) := by
  cases request with
  | create namespaceName info =>
    -- only a creation has an id to check, and nothing is touched where it is refused
    cases hplace : NamespacedId.ofValues namespaceName (.text (connectionId info.name)) with
    | error reason => exact .inl (create_refused F env hplace).2.1
    | ok place =>
      obtain ⟨hrun, hprepared⟩ := create_accepted env hplace
      rw [hrun] at h ⊢
      rw [hprepared]
      exact ((Operation.create place.namespaceName info).course F env).of_error h
  | update place info => exact ((Operation.update place info).course F env).of_error h
  | delete place => exact ((Operation.delete place).course F env).of_error h
  | get place => exact .inl (reads_keeps F rfl env)
  | contains namespaceName name => exact .inl (reads_keeps F rfl env)
  | list namespaceName filter => exact .inl (reads_keeps F rfl env)

/-- A request that fails before its write only looked. -/
theorem of_refused (F : Frame τ) {request : Request} (h : request.prepared env = .error f) :
    (request.run.run env).1 = .error f ∧ F.Allows env (request.run.run env).2 := by
  cases request with
  | create namespaceName info =>
    cases hplace : NamespacedId.ofValues namespaceName (.text (connectionId info.name)) with
    | error reason =>
      obtain ⟨hresult, hframe, hprepared⟩ := create_refused F env hplace
      rw [hprepared] at h
      rw [← Except.error.inj h]
      exact ⟨hresult, hframe⟩
    | ok place =>
      obtain ⟨hrun, hprepared⟩ := create_accepted env hplace
      rw [hrun]
      rw [hprepared] at h
      exact ((Operation.create place.namespaceName info).course F env).of_refused h
  | update place info => exact ((Operation.update place info).course F env).of_refused h
  | delete place => exact ((Operation.delete place).course F env).of_refused h
  | get place => cases h
  | contains namespaceName name => cases h
  | list namespaceName filter => cases h

end Request

/-- A request that fails changes no row: over a table in memory, whatever its rows and the failures
of its calls, it made no call that writes, or failed in the one that it made last; and over a table
of a database, on either route, it leaves the database as it was.  A request that only reads, and
one that fails before its write, makes no call that writes. -/
theorem failing_operations_change_nothing [Caller] :
    (∀ (env : Env MemoryTable) (r : Request) (f : Failure), (r.run.run env).1 = .error f →
      (r.run.run env).2.table.rows = env.table.rows ∧
        (env.table.OnlyLooked (r.run.run env).2.table ∨
          ∃ w middle, r.prepared env = .ok (some w) ∧ env.table.OnlyLooked middle ∧
            w.access.run middle = (.error f, (r.run.run env).2.table))) ∧
    (∀ (env : Env MemoryTable) (r : Request), r.reads = true →
      env.table.OnlyLooked (r.run.run env).2.table) ∧
    (∀ (env : Env MemoryTable) (r : Request) (f : Failure), r.prepared env = .error f →
      (r.run.run env).1 = .error f ∧ env.table.OnlyLooked (r.run.run env).2.table) ∧
    ∀ (env : Env SqlTable) (r : Request) (f : Failure), (r.run.run env).1 = .error f →
      (r.run.run env).2.table.database = env.table.database := by
  refine ⟨?_, ?_, ?_, ?_⟩
  · intro env r f h
    rcases Request.of_error MemoryTable.looking h with hlooked | hwrote
    · exact ⟨hlooked.rows, .inl hlooked⟩
    · obtain ⟨w, middle, hprepared, hmiddle, hwrite⟩ := hwrote
      -- the rows are those before the write, and the looks before it left them alone
      refine ⟨?_, .inr ⟨w, middle.table, hprepared, hmiddle, hwrite⟩⟩
      exact (MemoryTable.rows_of_failed_write hwrite).trans hmiddle.rows
  · intro env r h
    exact Request.reads_keeps MemoryTable.looking h env
  · intro env r f h
    exact Request.of_refused MemoryTable.looking h
  · intro env r f h
    rcases Request.of_error SqlTable.looking h with hlooked | hwrote
    · exact hlooked
    · obtain ⟨w, middle, -, hmiddle, hwrite⟩ := hwrote
      exact (SqlTable.database_of_failed_write hwrite).trans hmiddle

section

attribute [local instance] Caller.direct

/-- The table with the row that cannot be read, the writes to which were made to fail. -/
def fullDisk : MemoryTable := unlookedTable.failOn "upsert" (.foreign .os [.text "disk full"])

/-- The provisioned table of a database, at a time that does not fit into a cell. -/
def lateEnv (route : Upsert) : Env SqlTable :=
  ⟨⟨connections, route, Database.empty.put .main connections [], []⟩,
    .manual (.int 9223372036854775808) 0, ⟨⟨.zero, .zero⟩, .none⟩, ⟨0, []⟩⟩

theorem failing_operations_change_nothing_fullDisk :
    let env : Env MemoryTable := { unlookedEnv with table := fullDisk }
    let create : Request := .create (.text "ns") ⟨"b", .s3, "", .empty⟩
    let nowhere : Request := .create .null ⟨"b", .s3, "", .empty⟩
    let update : Request := .update ⟨"ns", "a"⟩ ⟨"a", .s3, "", .empty⟩
    let get : Request := .get ⟨"ns", "a"⟩
    ((create.run.run env).1 = .error (.foreign .os [.text "disk full"]) ∧
      (create.run.run env).2.table.rows = env.table.rows) ∧
    (get.reads = true ∧ env.table.OnlyLooked (get.run.run env).2.table) ∧
    (update.prepared env = .error (.table (.unhashable "list")) ∧
      env.table.OnlyLooked (update.run.run env).2.table) ∧
    (nowhere.prepared env =
        .error (.invalid ⟨"NamespacedId", [⟨["namespace"], .notText⟩]⟩) ∧
      env.table.OnlyLooked (nowhere.run.run env).2.table) ∧
    ((create.run.run (lateEnv .portable)).1 = .error (.database .integerTooLarge) ∧
      (create.run.run (lateEnv .portable)).2.table.database =
        (lateEnv .portable).table.database) := by
  intro env create nowhere update get
  have hcreate : (create.run.run env).1 = .error (.foreign .os [.text "disk full"]) := rfl
  have hupdate : update.prepared env = .error (.table (.unhashable "list")) := rfl
  have hnowhere : nowhere.prepared env =
      .error (.invalid ⟨"NamespacedId", [⟨["namespace"], .notText⟩]⟩) := rfl
  have hlate : (create.run.run (lateEnv .portable)).1 = .error (.database .integerTooLarge) := by
    with_unfolding_all rfl
  exact
    ⟨⟨hcreate, (failing_operations_change_nothing.1 env create _ hcreate).1⟩,
      ⟨rfl, failing_operations_change_nothing.2.1 env get rfl⟩,
      ⟨hupdate, (failing_operations_change_nothing.2.2.1 env update _ hupdate).2⟩,
      ⟨hnowhere, (failing_operations_change_nothing.2.2.1 env nowhere _ hnowhere).2⟩,
      ⟨hlate, failing_operations_change_nothing.2.2.2 (lateEnv .portable) create _ hlate⟩⟩

end

end ConnectionCatalog
