import ConnectionCatalog.Proofs.Connection.Codec
import ConnectionCatalog.Proofs.Store.Directory
import ConnectionCatalog.Proofs.Store.Evaluation

/-! # Proofs.Store.Refinement — a store over a table that keeps a directory

The operations of a store are answered by a directory (`Directory.answer`), and so is what is seen
of them from outside the table: the clock, the meter and the log (`Directory.observe`).

A `Keeper` says which tables keep which directories, and that the calls of a table keep to it.
Nothing else about a table is used:

* `Keeper.step_follows`: one operation gives the directory's answer, shows what the directory
  shows, and leaves a table that keeps the next directory.
* `Keeper.run_follows`: the same for a run of any length, by induction over its steps.
-/

namespace ConnectionCatalog

/-! ## Operations as data -/

/-- An operation of a store, with what the caller gives it.  Its namespaces are texts without lone
surrogates; a `Request` has namespaces of any kind. -/
inductive Operation
  | create (namespaceName : String) (info : ConnectionMeta)
  | get (place : NamespacedId)
  | update (place : NamespacedId) (info : ConnectionMeta)
  | delete (place : NamespacedId)
  | contains (namespaceName name : String)
  | list (namespaceName : String) (filter : Filter)

/-- What an operation returns. -/
inductive Reply
  | place (i : NamespacedId)
  | connection (c : Connection)
  | done
  | truth (b : Bool)
  | connections (cs : List Connection)

namespace Operation

/-- The name under which an operation is observed. -/
def name : Operation → String
  | create .. => "create"
  | get _ => "get"
  | update .. => "update"
  | delete _ => "delete"
  | contains .. => "exists"
  | list .. => "list"

/-- Runs an operation. -/
def run [Caller] {τ : Type} [RowStore τ] : Operation → Action τ Reply
  | create namespaceName info => Reply.place <$> Store.create (.text namespaceName) info
  | get place => Reply.connection <$> Store.get place
  | update place info => (fun _ => Reply.done) <$> Store.update place info
  | delete place => (fun _ => Reply.done) <$> Store.delete place
  | contains namespaceName name => Reply.truth <$> Store.contains (.text namespaceName) name
  | list namespaceName filter => Reply.connections <$> Store.list (.text namespaceName) filter

end Operation

/-- One step of a run: the time that the clock is set to, and an operation. -/
structure Step where
  time : Int
  operation : Operation

/-- What is seen of a store from outside its table. -/
structure Outside where
  clock : Clock
  meter : Meter
  log : Log

def Env.outside {τ : Type} (env : Env τ) : Outside := ⟨env.clock, env.meter, env.log⟩

/-- What is seen of a step: how it ended, and the outside after it. -/
abbrev Seen := Except Failure Reply × Outside

namespace Store

variable [Caller] {τ : Type} [RowStore τ]

/-- Sets the clock and runs an operation. -/
def step (s : Step) (env : Env τ) : Except Failure Reply × Env τ :=
  s.operation.run.run { env with clock := env.clock.setTo (.int s.time) }

/-- Runs steps one after the other; a step that fails does not end the run. -/
def run : List Step → Env τ → List Seen × Env τ
  | [], env => ([], env)
  | s :: steps, env =>
    let (r, env) := step s env
    let (seen, last) := run steps env
    ((r, env.outside) :: seen, last)

end Store

/-! ## The directory's answers -/

namespace Directory

/-- What an operation returns or raises at a time, and the directory after it. -/
def answer (d : Directory) (time : Int) : Operation → Except Failure Reply × Directory
  | .create namespaceName info =>
    let place := Store.placeOf namespaceName info.name
    match d.find? place with
    | some _ => (.error (.connectionAlreadyExists info.name place.id), d)
    | none => (.ok (.place place), d.put place ⟨info, time, time⟩)
  | .get place =>
    match d.find? place with
    | some e => (.ok (.connection (e.connection place)), d)
    | none => (.error (.connectionNotFound place.id), d)
  | .update place info =>
    match d.find? place with
    | some e => (.ok .done, d.put place ⟨info, e.created, time⟩)
    | none => (.error (.connectionNotFound place.id), d)
  | .delete place => (.ok .done, d.erase place)
  | .contains namespaceName name =>
    (.ok (.truth (d.find? (Store.placeOf namespaceName name)).isSome), d)
  | .list namespaceName filter =>
    ((filter.select (d.within namespaceName)).map Reply.connections, d)

/-- Whether an operation reads the clock: only what is written has a time. -/
def readsClock (d : Directory) : Operation → Bool
  | .create namespaceName info => (d.find? (Store.placeOf namespaceName info.name)).isNone
  | .update place _ => (d.find? place).isSome
  | _ => false

/-- The log after an operation. -/
def noted (d : Directory) : Operation → Log → Log
  | .create namespaceName info =>
    let place := Store.placeOf namespaceName info.name
    match d.find? place with
    | some _ => Store.refusalNoted info place
    | none => Store.creationNoted info place
  | .update place info =>
    match d.find? place with
    | some _ => Store.revisionNoted info place
    | none => id
  | .delete place => Store.deletionNoted place
  | .list namespaceName filter =>
    match filter.select (d.within namespaceName) with
    | .ok cs => Store.listingNoted namespaceName cs.length
    | .error _ => id
  | .get _ | .contains .. => id

/-- What is seen of the outside after a step. -/
def observe (d : Directory) (s : Step) (o : Outside) : Outside where
  clock :=
    let clock := o.clock.setTo (.int s.time)
    if d.readsClock s.operation then clock.read.2 else clock
  meter := Store.metered s.operation.name (Outcome.ofResult (d.answer s.time s.operation).1) o.meter
  log := d.noted s.operation o.log

/-- The answers to a run, and the directory after it. -/
def run : List Step → Directory → List (Except Failure Reply) × Directory
  | [], d => ([], d)
  | s :: steps, d =>
    let (r, d) := d.answer s.time s.operation
    let (rs, last) := run steps d
    (r :: rs, last)

/-- What is seen of a run. -/
def seen : List Step → Directory → Outside → List Seen
  | [], _, _ => []
  | s :: steps, d, o =>
    let (r, next) := d.answer s.time s.operation
    let o := d.observe s o
    (r, o) :: seen steps next o

end Directory

/-! ## Listings of rows that hold connections -/

section

variable [Caller]

namespace Filter

theorem gather_toRow (filter : Filter) (cs : List Connection) :
    filter.gather (cs.map Connection.toRow) = filter.select cs := by
  induction cs with
  | nil => rfl
  | cons c cs ih => simp [gather, select, ih, c.ofRow_toRow .list, bind, Except.bind]

end Filter

theorem Store.gatherNoted_toRow (filter : Filter) (cs : List Connection) (log : Log) :
    gatherNoted filter (cs.map Connection.toRow) log = log := by
  induction cs with
  | nil => rfl
  | cons c cs ih =>
    simp only [List.map_cons, gatherNoted, c.ofRow_toRow .list, ih]
    cases filter c <;> rfl

/-- Looking at what a directory has at a place finds the connection there. -/
theorem Store.looked_toRow (way : Way) (found : Option Entry) (place : NamespacedId) :
    looked way (found.map fun e => (e.connection place).toRow) =
      .ok (found.map fun e => e.connection place) := by
  cases found with
  | none => rfl
  | some e =>
    rw [Option.map_some, looked, Connection.ofRow_toRow]
    rfl

theorem Store.lookNoted_toRow (way : Way) (found : Option Entry) (place : NamespacedId)
    (log : Log) : lookNoted way (found.map fun e => (e.connection place).toRow) log = log := by
  cases found with
  | none => rfl
  | some e => exact rowNoted_of_ok ((e.connection place).ofRow_toRow way) log

end

/-! ## Tables that keep a directory -/

/-- How tables keep directories.  `Keeps` says which table keeps which directory, and `Fits` which
times a table can hold. -/
structure Keeper (τ : Type) [RowStore τ] where
  Keeps : τ → Directory → Prop
  Fits : Int → Prop
  fits_created {t : τ} {d : Directory} {place : NamespacedId} {e : Entry} :
    Keeps t d → d.find? place = some e → Fits e.created
  read {t : τ} {d : Directory} (place : NamespacedId) :
    Keeps t d → ∃ t', Keeps t' d ∧ (RowStore.read place.key).run t =
      (.ok ((d.find? place).map fun e => (e.connection place).toRow), t')
  upsert {t : τ} {d : Directory} (c : Connection) :
    Keeps t d → Fits c.created → Fits c.updated →
      ∃ t', Keeps t' (d.put c.place c.entry) ∧ (RowStore.upsert c.toRow).run t = (.ok (), t')
  delete {t : τ} {d : Directory} (place : NamespacedId) :
    Keeps t d → ∃ t', Keeps t' (d.erase place) ∧ (RowStore.delete place.key).run t = (.ok (), t')
  scan {t : τ} {d : Directory} (namespaceName : String) :
    Keeps t d → ∃ cursor t', Keeps (RowStore.close cursor t') d ∧
      RowStore.pending t' cursor = (d.within namespaceName).map Connection.toRow ∧
      (RowStore.scan (Store.namespaceRange namespaceName) none).run t = (.ok cursor, t')

namespace Keeper

variable [Caller] {τ : Type} [RowStore τ] (K : Keeper τ) {env : Env τ} {d : Directory}
variable {time : Int} {reads : Nat}

/-- What an operation does at a time: it gives the directory's answer, shows what the directory
shows, and leaves a table that keeps the next directory. -/
def Follows (K : Keeper τ) (d : Directory) (time : Int) (reads : Nat) (env : Env τ)
    (operation : Operation) : Prop :=
  ∃ t, K.Keeps t (d.answer time operation).2 ∧
    operation.run.run env =
      ((d.answer time operation).1,
        ⟨t, .manual (.int time) (if d.readsClock operation then reads + 1 else reads),
          Store.metered operation.name (Outcome.ofResult (d.answer time operation).1) env.meter,
          d.noted operation env.log⟩)

theorem create_follows (h : K.Keeps env.table d) (hfits : K.Fits time)
    (hclock : env.clock = .manual (.int time) reads) (namespaceName : String)
    (info : ConnectionMeta) : K.Follows d time reads env (.create namespaceName info) := by
  obtain ⟨t, ht, hread⟩ := K.read (Store.placeOf namespaceName info.name) h
  -- a free place takes the new entry, a taken one refuses it before the clock is read
  cases hfind : d.find? (Store.placeOf namespaceName info.name) with
  | none =>
    rw [hfind] at hread
    obtain ⟨u, hu, hput⟩ :=
      K.upsert ⟨Store.placeOf namespaceName info.name, info, time, time⟩ ht hfits hfits
    simp only [Follows, Directory.answer, Directory.readsClock, Directory.noted, Operation.run,
      hfind]
    refine ⟨u, hu, ?_⟩
    rw [Store.run_map (Store.create_ok hclock hread hput)]
    rfl
  | some e =>
    rw [hfind, Option.map_some] at hread
    have hrow := (e.connection (Store.placeOf namespaceName info.name)).ofRow_toRow .look
    have hclaimed : Store.claimed (Store.placeOf namespaceName info.name) info
        (some (e.connection (Store.placeOf namespaceName info.name)).toRow) =
          .error (.connectionAlreadyExists info.name (connectionId info.name)) := by
      rw [Store.claimed, hrow]
      rfl
    simp only [Follows, Directory.answer, Directory.readsClock, Directory.noted, Operation.run,
      hfind]
    refine ⟨t, ht, ?_⟩
    rw [Store.run_map (Store.create_error hread hclaimed), hclock, Store.claimNoted, hrow]
    rfl

theorem get_follows (h : K.Keeps env.table d) (hclock : env.clock = .manual (.int time) reads)
    (place : NamespacedId) : K.Follows d time reads env (.get place) := by
  obtain ⟨t, ht, hread⟩ := K.read place h
  have hrun := Store.run_map (Store.get_run hread) Reply.connection
  rw [Store.lookNoted_toRow, hclock] at hrun
  -- the row of an entry is read back as its connection
  cases hfind : d.find? place with
  | none =>
    rw [hfind] at hrun
    simp only [Follows, Directory.answer, Directory.readsClock, Directory.noted, Operation.run,
      hfind]
    exact ⟨t, ht, hrun⟩
  | some e =>
    rw [hfind, Option.map_some, Store.fetched, Connection.ofRow_toRow] at hrun
    simp only [Follows, Directory.answer, Directory.readsClock, Directory.noted, Operation.run,
      hfind]
    exact ⟨t, ht, hrun⟩

theorem update_follows (h : K.Keeps env.table d) (hfits : K.Fits time)
    (hclock : env.clock = .manual (.int time) reads) (place : NamespacedId)
    (info : ConnectionMeta) : K.Follows d time reads env (.update place info) := by
  obtain ⟨t, ht, hread⟩ := K.read place h
  cases hfind : d.find? place with
  | none =>
    rw [hfind] at hread
    simp only [Follows, Directory.answer, Directory.readsClock, Directory.noted, Operation.run,
      hfind]
    refine ⟨t, ht, ?_⟩
    rw [Store.run_map (Store.update_error hread rfl), hclock]
    rfl
  | some e =>
    rw [hfind, Option.map_some] at hread
    -- the time of creation is written once more, so it has to fit as it did before
    obtain ⟨u, hu, hput⟩ :=
      K.upsert ⟨place, info, e.created, time⟩ ht (K.fits_created h hfind) hfits
    simp only [Follows, Directory.answer, Directory.readsClock, Directory.noted, Operation.run,
      hfind]
    refine ⟨u, hu, ?_⟩
    rw [Store.run_map (Store.update_ok hclock hread ((e.connection place).ofRow_toRow .fetch) hput)]
    rfl

theorem delete_follows (h : K.Keeps env.table d) (hclock : env.clock = .manual (.int time) reads)
    (place : NamespacedId) : K.Follows d time reads env (.delete place) := by
  obtain ⟨t, ht, hdelete⟩ := K.delete place h
  refine ⟨t, ht, ?_⟩
  rw [Operation.run, Store.run_map (Store.delete_run hdelete), hclock]
  rfl

theorem contains_follows (h : K.Keeps env.table d)
    (hclock : env.clock = .manual (.int time) reads) (namespaceName name : String) :
    K.Follows d time reads env (.contains namespaceName name) := by
  obtain ⟨t, ht, hread⟩ := K.read (Store.placeOf namespaceName name) h
  have hrun := Store.run_map (Store.contains_run hread) Reply.truth
  -- whether there is a row is whether there is an entry
  rw [Store.lookNoted_toRow, Store.looked_toRow, Except.map, Option.isSome_map, hclock] at hrun
  exact ⟨t, ht, hrun⟩

theorem list_follows (h : K.Keeps env.table d) (hclock : env.clock = .manual (.int time) reads)
    (namespaceName : String) (filter : Filter) :
    K.Follows d time reads env (.list namespaceName filter) := by
  obtain ⟨cursor, t, ht, hpending, hscan⟩ := K.scan namespaceName h
  -- every row of the cursor is read as the connection that it was written for
  have hgather : filter.gather (RowStore.pending t cursor) =
      filter.select (d.within namespaceName) := by
    rw [hpending, Filter.gather_toRow]
  cases hselect : filter.select (d.within namespaceName) with
  | ok cs =>
    rw [hselect] at hgather
    simp only [Follows, Directory.answer, Directory.readsClock, Directory.noted, Operation.run,
      hselect]
    refine ⟨RowStore.close cursor t, ht, ?_⟩
    rw [Store.run_map (Store.list_ok hscan hgather), hpending, Store.gatherNoted_toRow, hclock]
    rfl
  | error f =>
    rw [hselect] at hgather
    simp only [Follows, Directory.answer, Directory.readsClock, Directory.noted, Operation.run,
      hselect]
    refine ⟨RowStore.close cursor t, ht, ?_⟩
    rw [Store.run_map (Store.list_error hscan hgather), hpending, Store.gatherNoted_toRow, hclock]
    rfl

/-- Every operation of a store over a keeper's table is answered by the directory. -/
theorem step_follows (h : K.Keeps env.table d) (hfits : K.Fits time)
    (hclock : env.clock = .manual (.int time) reads) (operation : Operation) :
    K.Follows d time reads env operation := by
  cases operation with
  | create namespaceName info => exact K.create_follows h hfits hclock namespaceName info
  | get place => exact K.get_follows h hclock place
  | update place info => exact K.update_follows h hfits hclock place info
  | delete place => exact K.delete_follows h hclock place
  | contains namespaceName name => exact K.contains_follows h hclock namespaceName name
  | list namespaceName filter => exact K.list_follows h hclock namespaceName filter

/-- One step, with the clock set before it. -/
theorem step_run (s : Step) (h : K.Keeps env.table d) (hfits : K.Fits s.time) {v : Value}
    (hclock : env.clock = .manual v reads) :
    ∃ next : Env τ, K.Keeps next.table (d.answer s.time s.operation).2 ∧
      next.outside = d.observe s env.outside ∧
      (∃ reads', next.clock = .manual (.int s.time) reads') ∧
      Store.step s env = ((d.answer s.time s.operation).1, next) := by
  have hset : env.clock.setTo (.int s.time) = .manual (.int s.time) reads := by
    rw [hclock]
    rfl
  -- the step sets the clock first, so the operation runs at the time of the step
  have hfollows : K.Follows d s.time reads { env with clock := .manual (.int s.time) reads }
      s.operation := by
    apply K.step_follows
    · exact h
    · exact hfits
    · rfl
  obtain ⟨t, ht, hrun⟩ := hfollows
  rw [Store.step, hset, hrun]
  refine ⟨_, ht, ?_, ⟨_, rfl⟩, rfl⟩
  simp only [Env.outside, Directory.observe, hset]
  split <;> rfl

/-- A run of a store over a keeper's table is answered by the directory, shows what the directory
shows, and leaves a table that keeps the last directory. -/
theorem run_follows (env : Env τ) (steps : List Step) (hfits : ∀ s ∈ steps, K.Fits s.time)
    {v : Value} (h : K.Keeps env.table d) (hclock : env.clock = .manual v reads) :
    (Store.run steps env).1 = d.seen steps env.outside ∧
      K.Keeps (Store.run steps env).2.table (d.run steps).2 := by
  -- the invariant: the table keeps the directory, and the clock is a manual one
  induction steps generalizing env d v reads with
  | nil => exact ⟨rfl, h⟩
  | cons s steps ih =>
    obtain ⟨next, hnext, houtside, ⟨reads', hclock'⟩, hstep⟩ :=
      K.step_run s h (hfits s List.mem_cons_self) hclock
    have hrest := ih next (fun s hs => hfits s (List.mem_cons_of_mem _ hs)) hnext hclock'
    simp only [Store.run, Directory.seen, Directory.run, hstep]
    rw [← houtside]
    exact ⟨congrArg _ hrest.1, hrest.2⟩

end Keeper
end ConnectionCatalog
