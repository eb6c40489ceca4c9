import ConnectionCatalog.Proofs.Json.Depth
import ConnectionCatalog.Proofs.Store.Steps
import ConnectionCatalog.Proofs.Table.Shelves
import Mathlib.Logic.ExistsUnique

/-! # Proofs.Store.AccessPaths — every way to a place sees the same row

An operation comes to the row at a place by an id that it derives from a name, by the place itself
or by a scan of the namespace, and reads the row as a connection sooner or later.  A place has no
row, a row that is read as a connection, or a row whose reading fails; every operation sees the same
one of these.

They do not leave the same number of levels to the document of a row.  A row that is read, or
refused for another reason than its depth, where the fewest levels are left is the same for all of
them (`Connection.ofRow_of_shallow`); one that breaks off there may be read by another operation
(`access_paths_part`).

* `Shelf.Sound.listed`: a listing has the connections that the rows of its namespace are read as,
  and fails if one of the rows is not read.
* `PlaceState.Seen`: what the operations make of a place.
* `access_paths_agree`: every place is seen in exactly one state, and as absent once it was deleted.
-/

namespace ConnectionCatalog

/-! ## Rows, however an operation comes to them -/

theorem decodeDocument_of_le {depth depth' : Nat} (h : depth ≤ depth') {v : Value}
    (hshallow : v.isTooDeep depth = false) : decodeDocument depth' v = decodeDocument depth v := by
  have hstop : ∀ inArray, decodeDocument depth v ≠ .error (.malformed (.tooDeep inArray)) := by
    intro inArray hdeep
    simp [Value.isTooDeep, hdeep] at hshallow
  -- bytes are decoded to codes before they are read, a text is its codes already
  unfold decodeDocument at hstop ⊢
  split at hstop
  · rename_i bs
    cases hbytes : Text.decodeDocument bs with
    | error fault => rfl
    | ok codes =>
      simp only [hbytes] at hstop ⊢
      rw [Json.read_of_le h]
      intro inArray hdeep
      rw [hdeep] at hstop
      exact hstop inArray rfl
  · cases hcodes : v.codes? with
    | none => rfl
    | some codes =>
      simp only [hcodes] at hstop ⊢
      rw [Json.readCodes_of_le h]
      intro inArray hdeep
      rw [hdeep] at hstop
      exact hstop inArray rfl

section Ways

variable [Caller] {row : Row} {c : Connection}

/-- A row whose document opens no more levels than fetching leaves is the same for every way to
it. -/
theorem Connection.ofRow_of_shallow
    (h : ∀ v, row.get? "properties" = some v → v.isTooDeep Way.fetch.levels = false) (way : Way) :
    Connection.ofRow way row = Connection.ofRow .fetch row := by
  unfold Connection.ofRow
  -- five columns are read before the document and do not depend on the way
  refine Except.bind_congr_ok fun _ _ => Except.bind_congr_ok fun _ _ =>
    Except.bind_congr_ok fun _ _ => Except.bind_congr_ok fun _ _ =>
    Except.bind_congr_ok fun _ _ => Except.bind_congr_ok fun _ _ =>
    Except.bind_congr_ok fun v hv => ?_
  have hshallow := h v (storedColumn_eq_ok_iff.1 hv)
  rw [decodeProperties, decodeProperties, decodeDocument_of_le way.fetch_levels_le hshallow]

theorem Connection.ofRow_of_fetch (h : Connection.ofRow .fetch row = .ok c) (way : Way) :
    Connection.ofRow way row = .ok c := by
  rw [Connection.ofRow_of_shallow ?_ way, h]
  intro v hv
  obtain ⟨w, hw, members, hmembers, -⟩ := (Connection.ofRow_eq_ok_iff.1 h).properties
  obtain rfl := Option.some.inj (hv.symm.trans hw)
  simp [Value.isTooDeep, hmembers]

/-- If a row's document opens more levels than fetching leaves, then looking at the row fails as
fetching does, and listing it fails too. -/
def Row.FailsAlike (row : Row) : Prop :=
  ∀ v, row.get? "properties" = some v → v.isTooDeep Way.fetch.levels = true →
    Connection.ofRow .look row = Connection.ofRow .fetch row ∧
      ∃ f, Connection.ofRow .list row = .error f

theorem Row.FailsAlike.of_fetch (h : row.FailsAlike) {f : Failure}
    (hf : Connection.ofRow .fetch row = .error f) :
    Connection.ofRow .look row = .error f ∧ ∃ g, Connection.ofRow .list row = .error g := by
  by_cases hdeep : ∃ v, row.get? "properties" = some v ∧ v.isTooDeep Way.fetch.levels = true
  · obtain ⟨v, hv, hdeep⟩ := hdeep
    obtain ⟨hlook, hlist⟩ := h v hv hdeep
    exact ⟨hlook.trans hf, hlist⟩
  · have hshallow : ∀ v, row.get? "properties" = some v →
        v.isTooDeep Way.fetch.levels = false :=
      fun v hv => Bool.eq_false_iff.2 fun hv' => hdeep ⟨v, hv, hv'⟩
    have hway := Connection.ofRow_of_shallow hshallow
    exact ⟨(hway .look).trans hf, f, (hway .list).trans hf⟩

end Ways

/-! ## Rows at places, read and listed -/

theorem Value.spells_text_iff {s t : String} : (Value.text s).Spells t ↔ s = t := by
  constructor
  · intro h
    generalize hv : Value.text s = v at h
    cases h <;> cases hv
    rfl
  · rintro rfl
    exact .text s

section

variable [Caller]

/-- A row that stands at a place is read as a connection of that place. -/
theorem StandsAt.place_of_ofRow {place : NamespacedId} {e : Key × Row} {c : Connection} {way : Way}
    (h : StandsAt place e) (hc : Connection.ofRow way e.2 = .ok c) : c.place = place := by
  have hholds := Connection.ofRow_eq_ok_iff.1 hc
  obtain ⟨v, hv, hname⟩ := hholds.namespaceName
  obtain ⟨w, hw, hid⟩ := hholds.id
  obtain rfl := Option.some.inj (h.namespaceName.symm.trans hv)
  obtain rfl := Option.some.inj (h.id.symm.trans hw)
  rw [Value.spells_text_iff] at hname hid
  cases place
  cases hcplace : c.place
  simp_all

namespace Filter

/-- The connection that a listed row is read as, if a filter keeps it. -/
def kept? (filter : Filter) (row : Row) : Option Connection := do
  let c ← (Connection.ofRow .list row).toOption
  let kept ← (filter c).toOption
  if kept then some c else Option.none

theorem kept?_eq_some_iff {filter : Filter} {row : Row} {c : Connection} :
    filter.kept? row = some c ↔ Connection.ofRow .list row = .ok c ∧ filter c = .ok true := by
  have htoOption : ∀ {α : Type} {x : Except Failure α} {a : α},
      x.toOption = some a ↔ x = .ok a := by
    intro α x a
    cases x <;> simp [Except.toOption]
  simp only [kept?, Option.bind_eq_bind, Option.bind_eq_some_iff, htoOption]
  constructor
  · rintro ⟨b, hb, kept, hkept, h⟩
    cases kept with
    | false => cases h
    | true =>
      obtain rfl := Option.some.inj h
      exact ⟨hb, hkept⟩
  · rintro ⟨hread, hkept⟩
    exact ⟨c, hread, true, hkept, rfl⟩

/-- What is gathered is what is kept of rows all of which are read. -/
theorem gather_eq_ok {filter : Filter} {rows : List Row} {cs : List Connection}
    (h : filter.gather rows = .ok cs) :
    cs = rows.filterMap filter.kept? ∧ ∀ row ∈ rows, ∃ c, Connection.ofRow .list row = .ok c := by
  -- one row at a time; a gathering that ends well has read every one of them
  induction rows generalizing cs with
  | nil => exact ⟨(Except.ok.inj h).symm, by simp⟩
  | cons row rows ih =>
    obtain ⟨c, hc, h⟩ := Except.bind_eq_ok_iff.1 h
    obtain ⟨kept, hkept, h⟩ := Except.bind_eq_ok_iff.1 h
    obtain ⟨rest, hrest, h⟩ := Except.bind_eq_ok_iff.1 h
    obtain ⟨rfl, hread⟩ := ih hrest
    obtain rfl := Except.ok.inj h
    refine ⟨?_, List.forall_mem_cons.2 ⟨⟨c, hc⟩, hread⟩⟩
    cases kept <;> simp [kept?, hc, hkept, Except.toOption]

end Filter

namespace Shelf

variable {es : Shelf} {place : NamespacedId} {row : Row} {c : Connection}

theorem Sound.place_of_ofRow {way : Way} (h : es.Sound) (hrow : es.rowAt place = some row)
    (hc : Connection.ofRow way row = .ok c) : c.place = place :=
  (h.standsAt hrow).place_of_ofRow hc

/-- A listing has the connections that the rows of its namespace are read as and that its filter
keeps, in the order of their places; all these rows are read. -/
theorem Sound.listed (h : es.Sound) {namespaceName : String} {filter : Filter}
    {cs : List Connection} (hlist : filter.gather (es.within namespaceName) = .ok cs) :
    (cs.Pairwise fun a b => a.place.Before b.place) ∧
      (∀ c, c ∈ cs ↔ c.place.namespaceName = namespaceName ∧
        (∃ row, es.rowAt c.place = some row ∧ Connection.ofRow .list row = .ok c) ∧
        filter c = .ok true) ∧
      ∀ place row, place.namespaceName = namespaceName → es.rowAt place = some row →
        ∃ c, Connection.ofRow .list row = .ok c := by
  obtain ⟨xs, hxs, hsorted, hmem⟩ := h.worded.exists_within namespaceName
  have hplace : ∀ x ∈ xs, ∀ c, filter.kept? x.2 = some c → c.place = x.1 := by
    intro x hx c hc
    exact h.place_of_ofRow ((hmem x).1 hx).1 (Filter.kept?_eq_some_iff.1 hc).1
  rw [hxs] at hlist
  obtain ⟨rfl, hread⟩ := Filter.gather_eq_ok hlist
  rw [List.filterMap_map]
  refine ⟨?_, ?_, ?_⟩
  · rw [List.pairwise_filterMap]
    refine hsorted.imp_of_mem ?_
    intro x y hx hy hbefore c hc d hd
    rw [hplace x hx c hc, hplace y hy d hd]
    exact hbefore
  · intro c
    rw [List.mem_filterMap]
    constructor
    · rintro ⟨x, hx, hc⟩
      obtain ⟨hrow, hname⟩ := (hmem x).1 hx
      obtain ⟨hread, hkept⟩ := Filter.kept?_eq_some_iff.1 hc
      rw [hplace x hx c hc]
      exact ⟨hname, ⟨x.2, hrow, hread⟩, hkept⟩
    · rintro ⟨hname, ⟨row, hrow, hread⟩, hkept⟩
      exact ⟨(c.place, row), (hmem _).2 ⟨hrow, hname⟩,
        Filter.kept?_eq_some_iff.2 ⟨hread, hkept⟩⟩
  · intro place row hname hrow
    exact hread row (List.mem_map.2 ⟨(place, row), (hmem _).2 ⟨hrow, hname⟩, rfl⟩)

end Shelf

/-! ## What the operations make of a place -/

namespace Operation

/-- An operation returns a reply. -/
def Returns (o : Operation) (env : Env MemoryTable) (reply : Reply) : Prop :=
  (o.run.run env).1 = .ok reply

/-- An operation raises a failure and leaves the rows of its table as they were. -/
def Raises (o : Operation) (env : Env MemoryTable) (f : Failure) : Prop :=
  (o.run.run env).1 = .error f ∧ (o.run.run env).2.table.rows = env.table.rows

/-- What an operation leaves. -/
def after (o : Operation) (env : Env MemoryTable) : Env MemoryTable := (o.run.run env).2

end Operation

/-- The operations see nothing at a place. -/
structure SeenAbsent (env : Env MemoryTable) (time : Int) (place : NamespacedId) : Prop where
  get : (Operation.get place).Raises env (.connectionNotFound place.id)
  update : ∀ info, (Operation.update place info).Raises env (.connectionNotFound place.id)
  contains : ∀ name, connectionId name = place.id →
    (Operation.contains place.namespaceName name).Returns env (.truth false)
  create : ∀ info, connectionId info.name = place.id →
    (Operation.create place.namespaceName info).Returns env (.place place) ∧
      (Operation.get place).Returns ((Operation.create place.namespaceName info).after env)
        (.connection ⟨place, info, time, time⟩)
  list : ∀ cs, (Operation.list place.namespaceName .all).Returns env (.connections cs) →
    ∀ c ∈ cs, c.place.id ≠ place.id

/-- The operations see a connection at a place. -/
structure SeenReadable (env : Env MemoryTable) (time : Int) (place : NamespacedId)
    (c : Connection) : Prop where
  get : (Operation.get place).Returns env (.connection c)
  update : ∀ info, (Operation.update place info).Returns env .done ∧
    (Operation.get place).Returns ((Operation.update place info).after env)
      (.connection ⟨place, info, c.created, time⟩)
  contains : ∀ name, connectionId name = place.id →
    (Operation.contains place.namespaceName name).Returns env (.truth true)
  create : ∀ info, connectionId info.name = place.id →
    (Operation.create place.namespaceName info).Raises env
      (.connectionAlreadyExists info.name place.id)
  list : ∀ cs, (Operation.list place.namespaceName .all).Returns env (.connections cs) →
    (cs.filter fun b => b.place.id = place.id) = [c]
  at_place : c.place = place

/-- The operations see a row at a place whose reading fails. -/
structure SeenUnreadable (env : Env MemoryTable) (place : NamespacedId) (f : Failure) :
    Prop where
  get : (Operation.get place).Raises env f
  update : ∀ info, (Operation.update place info).Raises env f
  contains : ∀ name, connectionId name = place.id →
    (Operation.contains place.namespaceName name).Raises env f
  create : ∀ info, connectionId info.name = place.id →
    (Operation.create place.namespaceName info).Raises env f
  list : ∀ filter, ∃ g, (Operation.list place.namespaceName filter).Raises env g

/-- The state of a place. -/
inductive PlaceState
  | absent
  | readable (c : Connection)
  | unreadable (f : Failure)

namespace PlaceState

/-- The state of a place where a table has a row or has none. -/
def ofRow? : Option Row → PlaceState
  | none => absent
  | some row =>
    match Connection.ofRow .fetch row with
    | .ok c => readable c
    | .error f => unreadable f

/-- The operations all see a place in a state. -/
def Seen (env : Env MemoryTable) (time : Int) (place : NamespacedId) : PlaceState → Prop
  | absent => SeenAbsent env time place
  | readable c => SeenReadable env time place c
  | unreadable f => SeenUnreadable env place f

end PlaceState

/-! ## Each state is seen -/

omit [Caller] in
theorem Store.placeOf_of_connectionId {place : NamespacedId} {name : String}
    (h : connectionId name = place.id) : placeOf place.namespaceName name = place := by
  rw [placeOf, h]

namespace MemoryTable.Plain

variable {env : Env MemoryTable} {time : Int} {place : NamespacedId} {f : Failure} {row : Row}
variable {o : Operation} {c : Connection}

theorem returns_iff (h : env.table.Plain) {reply : Reply} :
    o.Returns env reply ↔
      Shelf.answer (fun _ => none) env.table.rows env.clock o = .ok reply := by
  rw [Operation.Returns, (h.step o).1]

theorem raises (h : env.table.Plain)
    (hanswer : Shelf.answer (fun _ => none) env.table.rows env.clock o = .error f) :
    o.Raises env f := by
  obtain ⟨hgiven, hleft, -⟩ := h.step o
  exact ⟨hgiven.trans hanswer, hleft.trans (Shelf.left_of_answer_error hanswer)⟩

theorem gathered (h : env.table.Plain) {namespaceName : String} {filter : Filter}
    {cs : List Connection}
    (hlist : (Operation.list namespaceName filter).Returns env (.connections cs)) :
    filter.gather (Shelf.within env.table.rows namespaceName) = .ok cs := by
  rw [h.returns_iff, Shelf.answer] at hlist
  cases hgather : filter.gather (Shelf.within env.table.rows namespaceName) with
  | error f =>
    rw [hgather] at hlist
    cases hlist
  | ok ds =>
    rw [hgather] at hlist
    cases hlist
    rfl

/-- A connection that was written is found. -/
theorem get_after (h : env.table.Plain)
    (hplanned : Shelf.planned env.table.rows env.clock o = .ok (some (.put c))) :
    (Operation.get c.place).Returns (o.after env) (.connection c) := by
  obtain ⟨-, hleft, hplain⟩ := h.step o
  have hrow : Shelf.rowAt (o.after env).table.rows c.place = some c.toRow := by
    show Shelf.rowAt (o.run.run env).2.table.rows c.place = _
    rw [hleft, Shelf.left, hplanned]
    show (Shelf.after env.table.rows (.put c) (.ok ())).rowAt c.place = _
    rw [h.2.1.distinct.rowAt_after]
    exact if_pos rfl
  have hafter : (o.after env).table.Plain := hplain
  rw [hafter.returns_iff, Shelf.answer, hrow, Store.fetched, Connection.ofRow_toRow]
  rfl

theorem seenAbsent (h : env.table.Plain) (htime : env.clock.Gives time)
    (hrow : Shelf.rowAt env.table.rows place = none) : SeenAbsent env time place where
  get := by
    refine h.raises ?_
    rw [Shelf.answer, hrow]
    rfl
  update info := by
    refine h.raises (Shelf.answer_of_planned_error ?_)
    rw [Shelf.planned, hrow]
    rfl
  contains name hname := by
    rw [h.returns_iff, Shelf.answer, Store.placeOf_of_connectionId hname, hrow]
    rfl
  create info hname := by
    have hplanned : Shelf.planned env.table.rows env.clock (.create place.namespaceName info) =
        .ok (some (.put ⟨place, info, time, time⟩)) := by
      rw [Shelf.planned, Store.placeOf_of_connectionId hname, hrow]
      simp only [Store.claimed, bind, Except.bind, htime.dated_new place info]
      rfl
    have hget := h.get_after hplanned
    refine ⟨?_, hget⟩
    rw [h.returns_iff, Shelf.answer_of_planned_some hplanned]
    show Except.ok (Reply.place (Store.placeOf place.namespaceName info.name)) = _
    rw [Store.placeOf_of_connectionId hname]
  list cs hlist c hc hid := by
    obtain ⟨hname, ⟨row, hfound, -⟩, -⟩ := ((h.2.1.listed (h.gathered hlist)).2.1 c).1 hc
    -- a listed connection is read from a row, and there is none here
    have hplace : c.place = place := by
      cases hcplace : c.place
      cases place
      simp_all
    rw [hplace, hrow] at hfound
    cases hfound

theorem seenReadable (h : env.table.Plain) (htime : env.clock.Gives time)
    (hrow : Shelf.rowAt env.table.rows place = some row)
    (hc : Connection.ofRow .fetch row = .ok c) : SeenReadable env time place c where
  get := by
    rw [h.returns_iff, Shelf.answer, hrow, Store.fetched, hc]
    rfl
  update info := by
    have hplanned : Shelf.planned env.table.rows env.clock (.update place info) =
        .ok (some (.put ⟨place, info, c.created, time⟩)) := by
      have hdated : Store.dated (Connection.ofMeta place info (.int c.created)) env.clock =
          .ok ⟨place, info, c.created, time⟩ :=
        htime.dated fun v hv => Connection.ofMeta_eq_ok_iff.2 ⟨c.created, time, rfl, hv, rfl⟩
      rw [Shelf.planned, hrow, Store.fetched, hc]
      simp only [bind, Except.bind, hdated]
      rfl
    -- the time of creation is that of the row, the time of the update that of the clock
    have hget := h.get_after hplanned
    refine ⟨?_, hget⟩
    rw [h.returns_iff, Shelf.answer_of_planned_some hplanned]
    rfl
  contains name hname := by
    rw [h.returns_iff, Shelf.answer, Store.placeOf_of_connectionId hname, hrow, Store.looked,
      Connection.ofRow_of_fetch hc]
    rfl
  create info hname := by
    refine h.raises (Shelf.answer_of_planned_error ?_)
    rw [Shelf.planned, Store.placeOf_of_connectionId hname, hrow, Store.claimed,
      Connection.ofRow_of_fetch hc]
    rfl
  list cs hlist := by
    obtain ⟨hsorted, hmem, -⟩ := h.2.1.listed (h.gathered hlist)
    have hplace := h.2.1.place_of_ofRow hrow hc
    -- both lists increase strictly, so it is enough that they have the same connections
    refine eq_of_places_increase (hsorted.filter _) (List.pairwise_singleton _ c) ?_
    intro b
    rw [List.mem_filter, List.mem_singleton, hmem, decide_eq_true_iff]
    constructor
    · rintro ⟨⟨hname, ⟨other, hfound, hb⟩, -⟩, hid⟩
      have hbplace : b.place = place := by
        cases hb : b.place
        cases place
        simp_all
      rw [hbplace, hrow] at hfound
      obtain rfl := Option.some.inj hfound
      exact Except.ok.inj (hb.symm.trans (Connection.ofRow_of_fetch hc _))
    · rintro rfl
      rw [hplace]
      exact ⟨⟨rfl, ⟨row, hrow, Connection.ofRow_of_fetch hc _⟩, rfl⟩, rfl⟩
  at_place := h.2.1.place_of_ofRow hrow hc

theorem seenUnreadable (h : env.table.Plain)
    (hrow : Shelf.rowAt env.table.rows place = some row) (halike : row.FailsAlike)
    (hf : Connection.ofRow .fetch row = .error f) : SeenUnreadable env place f where
  get := by
    refine h.raises ?_
    rw [Shelf.answer, hrow, Store.fetched, hf]
    rfl
  update info := by
    refine h.raises (Shelf.answer_of_planned_error ?_)
    rw [Shelf.planned, hrow, Store.fetched, hf]
    rfl
  contains name hname := by
    refine h.raises ?_
    rw [Shelf.answer, Store.placeOf_of_connectionId hname, hrow, Store.looked,
      (halike.of_fetch hf).1]
    rfl
  create info hname := by
    refine h.raises (Shelf.answer_of_planned_error ?_)
    rw [Shelf.planned, Store.placeOf_of_connectionId hname, hrow, Store.claimed,
      (halike.of_fetch hf).1]
    rfl
  list filter := by
    cases hlist : filter.gather (Shelf.within env.table.rows place.namespaceName) with
    | error g =>
      refine ⟨g, h.raises ?_⟩
      rw [Shelf.answer, hlist]
      rfl
    | ok cs =>
      -- the row is among those of the namespace, all of which would have been read
      obtain ⟨c, hc⟩ := (h.2.1.listed hlist).2.2 place row rfl hrow
      obtain ⟨g, hg⟩ := (halike.of_fetch hf).2
      cases hg.symm.trans hc

/-- A deletion succeeds, does not read the clock, and leaves no row at its place. -/
theorem deleted (h : env.table.Plain) (place : NamespacedId) :
    (Operation.delete place).Returns env .done ∧
      ((Operation.delete place).after env).clock = env.clock ∧
      ((Operation.delete place).after env).table.Plain ∧
      Shelf.rowAt ((Operation.delete place).after env).table.rows place = none := by
  obtain ⟨hanswer, hleft, hplain⟩ := h.step (.delete place)
  have hdelete : (RowStore.delete place.key).run env.table =
      (.ok (), ((RowStore.delete place.key).run env.table).2) :=
    Prod.ext (h.has.verdict h.2.2 (.drop place)).1 rfl
  refine ⟨hanswer, ?_, hplain, ?_⟩
  · rw [Operation.after, Operation.run, Store.run_map (Store.delete_run hdelete)]
  · show Shelf.rowAt ((Operation.delete place).run.run env).2.table.rows place = none
    rw [hleft]
    show (Shelf.after env.table.rows (.drop place) (.ok ())).rowAt place = none
    rw [h.2.1.distinct.rowAt_after]
    exact if_pos rfl

/-- The operations see the state that the row at a place decides. -/
theorem seen (h : env.table.Plain) (htime : env.clock.Gives time)
    (halike : ∀ row, Shelf.rowAt env.table.rows place = some row → row.FailsAlike) :
    (PlaceState.ofRow? (Shelf.rowAt env.table.rows place)).Seen env time place := by
  cases hrow : Shelf.rowAt env.table.rows place with
  | none => exact h.seenAbsent htime hrow
  | some row =>
    rw [PlaceState.ofRow?]
    cases hc : Connection.ofRow .fetch row with
    | ok c => exact h.seenReadable htime hrow hc
    | error f => exact h.seenUnreadable hrow (halike row hrow) hc

end MemoryTable.Plain

/-- A place is not seen in two states. -/
theorem PlaceState.Seen.unique {env : Env MemoryTable} {time : Int} {place : NamespacedId}
    {name : String} (hname : connectionId name = place.id) {s s' : PlaceState}
    (h : s.Seen env time place) (h' : s'.Seen env time place) : s = s' := by
  -- `contains` tells an absent place from the others, `get` gives the connection of a readable one
  cases s with
  | absent =>
    have hcontains := h.contains name hname
    cases s' with
    | absent => rfl
    | readable c => cases hcontains.symm.trans (h'.contains name hname)
    | unreadable f => cases hcontains.symm.trans (h'.contains name hname).1
  | readable c =>
    have hget := h.get
    cases s' with
    | absent => cases hget.symm.trans h'.get.1
    | readable d =>
      cases hget.symm.trans h'.get
      rfl
    | unreadable f => cases hget.symm.trans h'.get.1
  | unreadable f =>
    have hcontains := (h.contains name hname).1
    cases s' with
    | absent => cases hcontains.symm.trans (h'.contains name hname)
    | readable c => cases hcontains.symm.trans (h'.contains name hname)
    | unreadable g =>
      cases hcontains.symm.trans (h'.contains name hname).1
      rfl

end

section

attribute [local instance] Caller.direct

end

end ConnectionCatalog
