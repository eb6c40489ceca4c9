import ConnectionCatalog.Clock
import ConnectionCatalog.Connection.Stored
import ConnectionCatalog.Log.Basic
import ConnectionCatalog.Metrics
import ConnectionCatalog.Table.Basic

/-! # Store — the connections of a catalog

The store keeps connections in a table, under the namespace and the id derived
from the name.  It works over any table that implements `RowStore`.

An operation runs in an environment: the table, the clock, the meter and the log.
What it changed there before it failed stays changed.  `create` and `update` look
before they write, in two calls, `claim` and `settle`, `fetch` and `revise`; between
the two another client may write.

Every operation is observed once, from the first call to the last.
-/

namespace ConnectionCatalog

/-- What the operations of a store work on. -/
structure Env (τ : Type) where
  table : τ
  clock : Clock
  meter : Meter
  log : Log

/-- An operation of a store. -/
abbrev Action (τ α : Type) := ExceptT Failure (StateM (Env τ)) α

/-- Which connections a listing keeps; a filter may fail. -/
abbrev Filter := Connection → Except Failure Bool

namespace Filter

/-- Keeps every connection. -/
def all : Filter := fun _ => .ok true

/-- Keeps nothing. -/
def none : Filter := fun _ => .ok false

/-- Keeps connections of some kinds. -/
def byType (types : List ConnectionType) : Filter := fun c => .ok (types.contains c.info.type)

end Filter

namespace Store

variable [Caller] {τ α : Type}

/-! ## Steps -/

/-- A call of the table. -/
def onTable (access : Access τ α) : Action τ α := ExceptT.mk fun env =>
  let (r, table) := access.run env.table
  (r, { env with table })

/-- A reading of the clock. -/
def now : Action τ Value := ExceptT.mk fun env =>
  let (r, clock) := env.clock.read
  (r, { env with clock })

/-- A record of the log. -/
def note (level : Level) (message : String) (dimensions : Dimensions) : Action τ Unit :=
  modify fun env =>
    { env with log := env.log.write level ("[ConnectionStore] " ++ message) dimensions }

def require (r : Except Failure α) : Action τ α := ExceptT.mk (pure r)

/-- A record that has to be valid. -/
def valid (r : Except Invalid α) : Action τ α :=
  match r with
  | .ok a => pure a
  | .error reason => throw (.invalid reason)

/-- Runs an operation and observes it. -/
def observed (operation : String) (body : Action τ α) : Action τ α := ExceptT.mk fun env =>
  let (started, meter) := env.meter.start
  let (r, env) := body.run { env with meter }
  (r, { env with meter := env.meter.finish operation (Outcome.ofResult r) started })

/-! ## Rows -/

/-- The dimensions that tell where a connection is. -/
def placeDimensions (namespaceName id : Value) : Dimensions :=
  [("namespace", namespaceName), ("connection_id", id)]

/-- The dimensions of a place. -/
def dimensions (i : NamespacedId) : Dimensions :=
  placeDimensions (.text i.namespaceName) (.text i.id)

/-- The connection that a row holds; a row that holds none is noted. -/
def connectionOf (way : Way) (row : Row) : Action τ Connection :=
  match Connection.ofRow way row with
  | .ok c => pure c
  | .error f => do
    match corruptDetail? f with
    | some detail =>
      note .error ("Corrupt connection row: " ++ detail)
        (placeDimensions (row.cell "namespace") (row.cell "id"))
    | none => pure ()
    throw f

variable [RowStore τ]

/-- The connection at a place, if there is one. -/
def find? (way : Way) (place : NamespacedId) : Action τ (Option Connection) := do
  match ← onTable (RowStore.read place.key) with
  | some row => some <$> connectionOf way row
  | none => return none

/-- The connection at a place, which has to be there. -/
def fetch (place : NamespacedId) : Action τ Connection := do
  match ← find? .fetch place with
  | some c => return c
  | none => throw (.connectionNotFound place.id)

/-! ## Operations -/

/-- The first half of `create`: the place that a name gives, which has to be free. -/
def claim (namespaceName : Value) (info : ConnectionMeta) : Action τ NamespacedId := do
  let place ← valid (NamespacedId.ofValues namespaceName (.text (connectionId info.name)))
  if (← find? .look place).isSome then
    note .warning ("Refusing duplicate connection '" ++ info.name ++ "'") (dimensions place)
    throw (.connectionAlreadyExists info.name place.id)
  return place

/-- The second half of `create`: writes a new connection, created now. -/
def settle (place : NamespacedId) (info : ConnectionMeta) : Action τ NamespacedId := do
  let time ← now
  let c ← valid (Connection.ofMeta place info time time)
  onTable (RowStore.upsert c.toRow)
  note .info ("Created " ++ info.type.name ++ " connection '" ++ info.name ++ "'")
    (dimensions place)
  return c.place

/-- Stores a new connection, under the id that its name gives. -/
def create (namespaceName : Value) (info : ConnectionMeta) : Action τ NamespacedId :=
  observed "create" do settle (← claim namespaceName info) info

/-- The connection at a place. -/
def get (place : NamespacedId) : Action τ Connection := observed "get" (fetch place)

/-- The second half of `update`: writes another description of a connection that was
found, updated now. -/
def revise (place : NamespacedId) (info : ConnectionMeta) (existing : Connection) :
    Action τ Unit := do
  let c ← valid (Connection.ofMeta place info (.int existing.created) (← now))
  onTable (RowStore.upsert c.toRow)
  note .info ("Updated connection '" ++ info.name ++ "'") (dimensions place)

/-- Gives the connection at a place another description; its id and the time of
its creation stay. -/
def update (place : NamespacedId) (info : ConnectionMeta) : Action τ Unit :=
  observed "update" do revise place info (← fetch place)

/-- Deletes the connection at a place, if there is one. -/
def delete (place : NamespacedId) : Action τ Unit :=
  observed "delete" do
    onTable (RowStore.delete place.key)
    note .info "Deleted connection" (dimensions place)

/-- Whether there is a connection of a name. -/
def contains (namespaceName : Value) (name : String) : Action τ Bool :=
  observed "exists" do
    let place ← valid (NamespacedId.ofValues namespaceName (.text (connectionId name)))
    return (← find? .look place).isSome

/-- The connections that some rows hold and a filter keeps; the first row that is
corrupt, or that the filter fails on, ends it. -/
def keep (filter : Filter) : List Row → Action τ (List Connection)
  | [] => pure []
  | row :: rows => do
    let c ← connectionOf .list row
    let kept ← require (filter c)
    let cs ← keep filter rows
    return if kept then c :: cs else cs

/-- Runs a body with the rows of a cursor, and closes the cursor however it ends. -/
def withRows (cursor : Nat) (body : List Row → Action τ α) : Action τ α := ExceptT.mk fun env =>
  let (r, env) := (body (RowStore.pending env.table cursor)).run env
  (r, { env with table := RowStore.close cursor env.table })

/-- The connections of a namespace that a filter keeps, in key order. -/
def list (namespaceName : Value) (filter : Filter) : Action τ (List Connection) :=
  observed "list" do
    let cursor ← onTable (RowStore.scan ⟨[("namespace", namespaceName)]⟩ none)
    let cs ← withRows cursor (keep filter)
    note .debug ("Listed " ++ toString cs.length ++ " connections") [("namespace", namespaceName)]
    return cs

/-! ## Opening -/

/-- What is noted and raised where a context does not have the table of the
connections. -/
def resolve (found : Except Failure α) (log : Log) : Except Failure α × Log :=
  match found with
  | .ok a => (.ok a, log)
  | .error (.tableNotFound _) =>
    (.error (.systemTableMissing connectionsTable true),
      log.write .error
        ("[ConnectionStore] System table '" ++ connectionsTable ++ "' is missing") [])
  | .error f => (.error f, log)

end Store
end ConnectionCatalog
