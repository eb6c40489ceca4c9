import ConnectionCatalog.Proofs.Table.Memory
import ConnectionCatalog.Sql.Table

/-! # Proofs.Table.Calls — what each call of a table does

A table in memory records every call, whether or not it fails.  A call fails where its operation was
made to fail, and where it cannot be answered; then nothing else is changed.  A table of a database
records nothing, and a call that fails changes nothing at all.

* `run_upsert`, `run_read`, `run_delete`, `run_scan`: the answer of each call and the whole table
  after it, for both kinds of table.
-/

namespace ConnectionCatalog
namespace MemoryTable

variable (t : MemoryTable)

/-- The failure that a call was made to have, or else its answer. -/
def unlessFailing {α : Type} (call : Call) (answer : Except Failure α) : Except Failure α :=
  match t.failures.get? call.operation with
  | some f => .error f
  | none => answer

/-- A call that succeeds gives its answer. -/
theorem eq_of_unlessFailing {α : Type} {call : Call} {answer : Except Failure α} {a : α}
    (h : t.unlessFailing call answer = .ok a) : answer = .ok a := by
  unfold unlessFailing at h
  split at h
  · cases h
  · exact h

/-- No call fails in a table of which none was made to fail. -/
theorem unlessFailing_of_empty {t : MemoryTable} (h : t.failures = .empty) {α : Type}
    (call : Call) (answer : Except Failure α) : t.unlessFailing call answer = answer := by
  rw [unlessFailing, h]
  rfl

/-- The rows that are left after a key was taken away. -/
def erased (key : Row) : Except Failure (List (Key × Row)) :=
  match t.rows.isEmpty, t.lacking? key with
  | true, none => .ok t.rows
  | _, _ => (t.keyOf key).map fun k => erase k t.rows

/-- A call is recorded first, and goes on unless it was made to fail. -/
theorem run_begin_bind {α : Type} (call : Call) (body : Access MemoryTable α) :
    (begin call >>= fun _ => body).run t =
      match t.failures.get? call.operation with
      | some f => (.error f, t.called call)
      | none => body.run (t.called call) := by
  have hmodify : (modify fun t => { t with calls := t.calls ++ [call] } :
      Access MemoryTable Unit).run t = (.ok (), t.called call) := rfl
  have hfailures : (t.called call).failures = t.failures := rfl
  unfold begin
  rw [bind_assoc, Access.run_bind_ok hmodify, bind_assoc, Access.run_bind_ok (Access.run_get _),
    hfailures]
  cases t.failures.get? call.operation <;> rfl

theorem run_upsert (row : Row) :
    (upsert row).run t =
      match t.unlessFailing (.upsert row) (t.keyOf row) with
      | .error f => (.error f, t.called (.upsert row))
      | .ok key => (.ok (), { t.called (.upsert row) with rows := put key row t.rows }) := by
  have hkey : (t.called (.upsert row)).keyOf row = t.keyOf row := rfl
  unfold upsert unlessFailing
  rw [run_begin_bind]
  -- an injected failure comes before the key is looked at
  cases t.failures.get? (Call.upsert row).operation with
  | some f => rfl
  | none =>
    dsimp only
    rw [Access.run_bind_ok (Access.run_get _), hkey]
    cases t.keyOf row <;> rfl

theorem run_read (key : Row) :
    (read key).run t =
      ((t.unlessFailing (.read key) (t.keyOf key)).map fun k => find? k t.rows,
        t.called (.read key)) := by
  have hkey : (t.called (.read key)).keyOf key = t.keyOf key := rfl
  unfold read unlessFailing
  rw [run_begin_bind]
  cases t.failures.get? (Call.read key).operation with
  | some f => rfl
  | none =>
    dsimp only
    rw [Access.run_bind_ok (Access.run_get _), hkey]
    cases t.keyOf key <;> rfl

theorem run_delete (key : Row) :
    (delete key).run t =
      match t.unlessFailing (.delete key) (t.erased key) with
      | .error f => (.error f, t.called (.delete key))
      | .ok rows => (.ok (), { t.called (.delete key) with rows }) := by
  have hkey : (t.called (.delete key)).keyOf key = t.keyOf key := rfl
  have hlacking : (t.called (.delete key)).lacking? key = t.lacking? key := rfl
  have hrows : (t.called (.delete key)).rows = t.rows := rfl
  unfold delete unlessFailing erased
  rw [run_begin_bind]
  cases t.failures.get? (Call.delete key).operation with
  | some f => rfl
  | none =>
    dsimp only
    rw [Access.run_bind_ok (Access.run_get _), hlacking, hrows]
    -- an empty table answers before it looks at the key
    cases t.rows.isEmpty <;> cases t.lacking? key <;> dsimp only <;> try rfl
    all_goals
      rw [hkey]
      cases t.keyOf key <;> rfl

theorem run_scan (range : Range) (limit : Option Int) :
    (scan range limit).run t =
      match t.unlessFailing (.scan range.pins limit) (t.selected range limit) with
      | .error f => (.error f, t.called (.scan range.pins limit))
      | .ok rows =>
        (.ok t.cursors.length,
          { t.called (.scan range.pins limit) with
            cursors := t.cursors ++ [⟨rows, false, false⟩] }) := by
  have hselected : (t.called (.scan range.pins limit)).selected range limit =
      t.selected range limit := rfl
  unfold scan unlessFailing
  rw [run_begin_bind]
  cases t.failures.get? (Call.scan range.pins limit).operation with
  | some f => rfl
  | none =>
    dsimp only
    rw [Access.run_bind_ok (Access.run_get _), hselected]
    cases t.selected range limit <;> rfl

end MemoryTable

namespace Sql.SqlTable

variable (t : SqlTable)

theorem run_commit (step : SqlTable → Except Failure Database) :
    (commit step).run t =
      match step t with
      | .error f => (.error f, t)
      | .ok database => (.ok (), { t with database }) := by
  unfold commit
  rw [Access.run_bind_ok (Access.run_get _)]
  cases step t <;> rfl

theorem run_upsert (row : Row) :
    (upsert row).run t =
      match written t.database t.spec t.route row with
      | .error f => (.error f, t)
      | .ok database => (.ok (), { t with database }) :=
  t.run_commit fun t => written t.database t.spec t.route row

/-- The database after a key was deleted. -/
def erased (key : Row) : Except Failure Database :=
  match missingKey? t.spec key with
  | some f => .error f
  | none => t.database.delete t.spec (keyPins t.spec key)

theorem run_delete (key : Row) :
    (delete key).run t =
      match t.erased key with
      | .error f => (.error f, t)
      | .ok database => (.ok (), { t with database }) :=
  t.run_commit fun t => t.erased key

/-- The row that a key leads to. -/
def looked (key : Row) : Except Failure (Option Row) :=
  match missingKey? t.spec key with
  | some f => .error f
  | none =>
    (t.database.select t.spec (keyPins t.spec key) none).map fun rows =>
      rows.head?.map t.spec.toRow

theorem run_read (key : Row) : (read key).run t = (t.looked key, t) := by
  unfold read looked
  rw [Access.run_bind_ok (Access.run_get _)]
  cases missingKey? t.spec key with
  | some f => rfl
  | none =>
    dsimp only
    cases t.database.select t.spec (keyPins t.spec key) none <;> rfl

theorem run_scan (range : Range) (limit : Option Int) :
    (scan range limit).run t =
      match t.selected range limit with
      | .error f => (.error f, t)
      | .ok rows =>
        (.ok t.cursors.length, { t with cursors := t.cursors ++ [⟨rows, false, true⟩] }) := by
  unfold scan
  rw [Access.run_bind_ok (Access.run_get _)]
  cases t.selected range limit <;> rfl

end Sql.SqlTable
end ConnectionCatalog
