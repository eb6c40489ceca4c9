import ConnectionCatalog.Proofs.Store.Isolation

/-! # Proofs.Store.Listing — a listing goes through the rows of a namespace in order

A listing visits the rows whose namespace is the one that was asked for, in the order of their ids,
reads each and asks its filter.  Either every row is read and the filter answers for every
connection, or the first row that fails ends the listing.

* `Filter.gather_ends`: where a listing of some rows ends, and what its filter was asked.
* `Shelf.Worded.exists_visits`: the rows of a namespace by their ids.
* `listings_filter_in_order`: both for the store, over tables in memory and tables of a database.
-/

namespace ConnectionCatalog

open Sql

/-! ## Where a listing ends -/

namespace Filter

/-- Whether a filter keeps a connection; one that fails does not. -/
def keeps (filter : Filter) (c : Connection) : Bool :=
  match filter c with
  | .ok kept => kept
  | .error _ => false

theorem keeps_of_answer {filter : Filter} {c : Connection} {kept : Bool}
    (h : filter c = .ok kept) : filter.keeps c = kept := by
  rw [keeps, h]

/-- A filter answers for a connection. -/
def Answers (filter : Filter) (c : Connection) : Prop := ∃ kept, filter c = .ok kept

/-- How a listing of some rows ends, and the connections that the filter was asked about: all rows
were read and the filter answered every time; or a row behind such ones was not read; or it was
read, and the filter failed on it. -/
inductive Ends [Caller] (filter : Filter) (rows : List Row) :
    Except Failure (List Connection) → List Connection → Prop
  | done {cs : List Connection} (hread : rows.map (Connection.ofRow .list) = cs.map .ok)
    (hanswers : ∀ c ∈ cs, filter.Answers c) : Ends filter rows (.ok (cs.filter filter.keeps)) cs
  | unread {before after : List Row} {cs : List Connection} {row : Row} {f : Failure}
    (hrows : rows = before ++ row :: after)
    (hread : before.map (Connection.ofRow .list) = cs.map .ok)
    (hanswers : ∀ c ∈ cs, filter.Answers c) (hrow : Connection.ofRow .list row = .error f) :
    Ends filter rows (.error f) cs
  | refused {before after : List Row} {cs : List Connection} {row : Row} {c : Connection}
    {f : Failure} (hrows : rows = before ++ row :: after)
    (hread : before.map (Connection.ofRow .list) = cs.map .ok)
    (hanswers : ∀ c ∈ cs, filter.Answers c)
    (hrow : Connection.ofRow .list row = .ok c) (hrefused : filter c = .error f) :
    Ends filter rows (.error f) (cs ++ [c])

variable [Caller] {filter other : Filter} {rows : List Row}

/-- A row that is read, and for which the filter answers, is followed by the next one. -/
theorem Ends.cons {row : Row} {c : Connection} {asked : List Connection}
    {r : Except Failure (List Connection)} (hrow : Connection.ofRow .list row = .ok c)
    (hanswer : filter.Answers c) (h : filter.Ends rows r asked) :
    filter.Ends (row :: rows) (r.map fun cs => if filter.keeps c then c :: cs else cs)
      (c :: asked) := by
  have hcons : ∀ {before : List Row} {cs : List Connection},
      before.map (Connection.ofRow .list) = cs.map .ok → (∀ c ∈ cs, filter.Answers c) →
      (row :: before).map (Connection.ofRow .list) = (c :: cs).map .ok ∧
        ∀ b ∈ c :: cs, filter.Answers b := by
    intro before cs hread hanswers
    exact ⟨by simp [hrow, hread], List.forall_mem_cons.2 ⟨hanswer, hanswers⟩⟩
  -- however the rest ends, the row in front is one more that was read and answered for
  cases h with
  | done hread hanswers =>
    obtain ⟨hread, hanswers⟩ := hcons hread hanswers
    have hdone := Ends.done hread hanswers
    rw [List.filter_cons] at hdone
    exact hdone
  | unread hrows hread hanswers hfailed =>
    obtain ⟨hread, hanswers⟩ := hcons hread hanswers
    exact .unread (congrArg (row :: ·) hrows) hread hanswers hfailed
  | refused hrows hread hanswers hlast hrefused =>
    obtain ⟨hread, hanswers⟩ := hcons hread hanswers
    exact .refused (congrArg (row :: ·) hrows) hread hanswers hlast hrefused

/-- A listing of rows ends in one of these ways, and looks at its filter only where it asks. -/
theorem gather_ends (filter : Filter) (rows : List Row) :
    ∃ asked, filter.Ends rows (filter.gather rows) asked ∧
      ∀ other : Filter, (∀ c ∈ asked, other c = filter c) →
        other.gather rows = filter.gather rows ∧
          ∀ log, Store.gatherNoted other rows log = Store.gatherNoted filter rows log := by
  have hnone : ([] : List Row).map (Connection.ofRow .list) = ([] : List Connection).map .ok := rfl
  induction rows with
  | nil => exact ⟨[], .done hnone (List.forall_mem_nil _), fun _ _ => ⟨rfl, fun _ => rfl⟩⟩
  | cons row rows ih =>
    cases hrow : Connection.ofRow .list row with
    | error f =>
      -- the filter was not asked, so any other filter does as well
      refine ⟨[], ?_, ?_⟩
      · rw [gather_of_unread hrow]
        exact .unread (List.nil_append _).symm hnone (List.forall_mem_nil _) hrow
      · intro other _
        refine ⟨(gather_of_unread hrow _).trans (gather_of_unread hrow _).symm, fun log => ?_⟩
        rw [Store.gatherNoted_of_unread hrow, Store.gatherNoted_of_unread hrow]
    | ok c =>
      cases hanswer : filter c with
      | error f =>
        -- the last connection that the filter was asked of is the one that it failed on
        refine ⟨[c], ?_, ?_⟩
        · rw [gather_of_refused hrow hanswer]
          exact .refused (List.nil_append _).symm hnone (List.forall_mem_nil _) hrow hanswer
        · intro other hagree
          have hother : other c = .error f := (hagree c (by simp)).trans hanswer
          refine ⟨(gather_of_refused hrow hother _).trans (gather_of_refused hrow hanswer _).symm,
            fun log => ?_⟩
          rw [Store.gatherNoted_of_refused hrow hother, Store.gatherNoted_of_refused hrow hanswer]
      | ok kept =>
        obtain ⟨asked, hends, hcongr⟩ := ih
        refine ⟨c :: asked, ?_, ?_⟩
        · have hgather := gather_of_kept hrow hanswer rows
          rw [← keeps_of_answer hanswer] at hgather
          rw [hgather]
          exact hends.cons hrow ⟨kept, hanswer⟩
        · intro other hagree
          obtain ⟨hother, hagree⟩ := List.forall_mem_cons.1 hagree
          obtain ⟨hgather, hnoted⟩ := hcongr other hagree
          have hother : other c = .ok kept := hother.trans hanswer
          refine ⟨?_, fun log => ?_⟩
          · rw [gather_of_kept hrow hother, gather_of_kept hrow hanswer, hgather]
          · rw [Store.gatherNoted_of_kept hrow hother, Store.gatherNoted_of_kept hrow hanswer,
              hnoted]

/-- Behind rows that are read, and for which the filter answers, a listing goes on. -/
theorem gather_append {before : List Row} {cs : List Connection}
    (hread : before.map (Connection.ofRow .list) = cs.map .ok)
    (hanswers : ∀ c ∈ cs, filter.Answers c)
    (rest : List Row) :
    filter.gather (before ++ rest) =
      (filter.gather rest).map fun found => cs.filter filter.keeps ++ found := by
  -- over the rows that are read; the rest is gathered behind them
  induction before generalizing cs with
  | nil =>
    obtain rfl : cs = [] := List.map_eq_nil_iff.1 hread.symm
    rw [List.nil_append]
    cases filter.gather rest <;> rfl
  | cons row before ih =>
    obtain ⟨c, cs, rfl, hrow, hread⟩ := List.map_eq_cons_iff.1 hread.symm
    obtain ⟨⟨kept, hkept⟩, hanswers⟩ := List.forall_mem_cons.1 hanswers
    rw [List.cons_append, gather_of_kept hrow.symm hkept, ih hread.symm hanswers,
      List.filter_cons, keeps_of_answer hkept]
    cases filter.gather rest with
    | error f => rfl
    | ok found => cases kept <;> rfl

/-- The ways to end exclude each other: one that is told is the one that comes about. -/
theorem Ends.gather_eq {r : Except Failure (List Connection)} {asked : List Connection}
    (h : filter.Ends rows r asked) : filter.gather rows = r := by
  cases h with
  | done hread hanswers =>
    have hgather := gather_append hread hanswers []
    rw [List.append_nil] at hgather
    simpa [gather, Except.map] using hgather
  | unread hrows hread hanswers hrow =>
    rw [hrows, gather_append hread hanswers, gather_of_unread hrow]
    rfl
  | refused hrows hread hanswers hrow hrefused =>
    rw [hrows, gather_append hread hanswers, gather_of_refused hrow hrefused]
    rfl

omit [Caller] in
theorem byType_answers (types : List ConnectionType) (c : Connection) :
    (byType types).Answers c := ⟨_, rfl⟩

/-- What a filter keeps of all connections, where it answers for each. -/
theorem gather_of_all {cs : List Connection} (h : Filter.all.gather rows = .ok cs)
    (hanswers : ∀ c ∈ cs, filter.Answers c) :
    filter.gather rows = .ok (cs.filter filter.keeps) := by
  obtain ⟨asked, hends, -⟩ := Filter.all.gather_ends rows
  rw [h] at hends
  obtain ⟨hread, -⟩ | _ | _ := hends
  have hall : asked.filter Filter.all.keeps = asked := List.filter_true asked
  rw [hall] at hanswers ⊢
  exact (Ends.done hread hanswers).gather_eq

theorem gather_byType (types : List ConnectionType) (rows : List Row) :
    (byType types).gather rows = (Filter.all.gather rows).map fun cs =>
      cs.filter fun c => types.contains c.info.type := by
  obtain ⟨asked, hends, -⟩ := Filter.all.gather_ends rows
  cases hall : Filter.all.gather rows with
  | ok cs => exact gather_of_all hall fun c _ => byType_answers types c
  | error f =>
    rw [hall] at hends
    cases hends with
    | unread hrows hread hanswers hrow =>
      exact (Ends.unread hrows hread (fun c _ => byType_answers types c) hrow).gather_eq
    | refused hrows hread hanswers hrow hrefused => cases hrefused

end Filter

/-! ## The rows of a namespace -/

/-- The rows of a namespace with their ids, in the order of these. -/
structure Shelf.Visits (es : Shelf) (namespaceName : String) (visits : List (String × Row)) :
    Prop where
  increase : visits.Pairwise fun a b => a.1 < b.1
  mem : ∀ id row, (id, row) ∈ visits ↔
    ∃ key : Key, (key, row) ∈ es ∧ Row.place? row = some ⟨namespaceName, id⟩

theorem Shelf.Worded.exists_visits {es : Shelf} (h : es.Worded) (namespaceName : String) :
    ∃ visits, es.Visits namespaceName visits ∧ es.within namespaceName = visits.map (·.2) := by
  obtain ⟨xs, hxs, hsorted, hmem⟩ := h.exists_within namespaceName
  refine ⟨xs.map fun x => (x.1.id, x.2), ⟨?_, ?_⟩, ?_⟩
  · rw [List.pairwise_map]
    refine hsorted.imp_of_mem ?_
    intro a b ha hb hbefore
    -- both are in the namespace, so that the ids decide
    have hnames : a.1.namespaceName = b.1.namespaceName :=
      ((hmem a).1 ha).2.trans ((hmem b).1 hb).2.symm
    simpa [NamespacedId.Before, hnames, String.lt_irrefl] using hbefore
  · intro id row
    rw [← h.rowAt_eq_some_iff, List.mem_map]
    constructor
    · rintro ⟨x, hx, heq⟩
      obtain ⟨rfl, rfl⟩ := Prod.mk.inj heq
      obtain ⟨hrow, rfl⟩ := (hmem x).1 hx
      exact hrow
    · intro hrow
      exact ⟨(⟨namespaceName, id⟩, row), (hmem _).2 ⟨hrow, rfl⟩, rfl⟩
  · rw [hxs, List.map_map]
    rfl

/-! ## Listings of a store -/

namespace Store

variable [Caller] {τ : Type} [RowStore τ] {env : Env τ} {es : Shelf}

/-- What a store lists of a namespace: the result, and the environment afterwards. -/
abbrev listing (env : Env τ) (namespaceName : String) (filter : Filter) :
    Except Failure (List Connection) × Env τ :=
  (list (.text namespaceName) filter).run env

theorem listing_answer (h : Scans env.table es) (namespaceName : String) (filter : Filter) :
    (listing env namespaceName filter).1 = filter.gather (es.within namespaceName) := by
  obtain ⟨cursor, t, hscan, hpending⟩ := h namespaceName
  rw [listing, list_answers hscan filter, hpending]

theorem listing_congr (h : Scans env.table es) {namespaceName : String} {filter other : Filter}
    (hgather : other.gather (es.within namespaceName) = filter.gather (es.within namespaceName))
    (hnoted : ∀ log, gatherNoted other (es.within namespaceName) log =
      gatherNoted filter (es.within namespaceName) log) :
    listing env namespaceName other = listing env namespaceName filter := by
  obtain ⟨cursor, t, hscan, hpending⟩ := h namespaceName
  rw [← hpending] at hgather hnoted
  -- the two filters end in the same way, and note the same on the way there
  cases hresult : filter.gather (RowStore.pending t cursor) with
  | ok cs =>
    rw [listing, listing, list_ok hscan hresult, list_ok hscan (hgather.trans hresult), hnoted]
  | error f =>
    rw [listing, listing, list_error hscan hresult, list_error hscan (hgather.trans hresult),
      hnoted]

/-- How a store lists a namespace, over some rows: it visits the rows of the namespace in the order
of their ids, and ends as the first one decides that fails, or else with what the filter keeps.
What it asks the filter decides all that it does; and with a filter that answers, it lists what the
filter keeps of all connections. -/
structure ListsInOrder (env : Env τ) (es : Shelf) (namespaceName : String) : Prop where
  visits : ∃ visits, es.Visits namespaceName visits ∧ ∀ filter : Filter, ∃ asked,
    filter.Ends (visits.map (·.2)) (listing env namespaceName filter).1 asked ∧
      ∀ other : Filter, (∀ c ∈ asked, other c = filter c) →
        listing env namespaceName other = listing env namespaceName filter
  filters : ∀ (filter : Filter) (cs : List Connection),
    (listing env namespaceName .all).1 = .ok cs → (∀ c ∈ cs, filter.Answers c) →
      (listing env namespaceName filter).1 = .ok (cs.filter filter.keeps)
  byType : ∀ types : List ConnectionType,
    (listing env namespaceName (.byType types)).1 =
      (listing env namespaceName .all).1.map fun cs =>
        cs.filter fun c => types.contains c.info.type

theorem Scans.listsInOrder (h : Scans env.table es) (hworded : es.Worded)
    (namespaceName : String) : ListsInOrder env es namespaceName where
  visits := by
    obtain ⟨visits, hvisits, hwithin⟩ := hworded.exists_visits namespaceName
    refine ⟨visits, hvisits, ?_⟩
    intro filter
    obtain ⟨asked, hends, hcongr⟩ := filter.gather_ends (es.within namespaceName)
    rw [← listing_answer h, hwithin] at hends
    refine ⟨asked, hends, ?_⟩
    intro other hagree
    obtain ⟨hgather, hnoted⟩ := hcongr other hagree
    exact listing_congr h hgather hnoted
  filters filter cs hall hanswers := by
    rw [listing_answer h] at hall ⊢
    exact Filter.gather_of_all hall hanswers
  byType types := by
    rw [listing_answer h, listing_answer h]
    exact Filter.gather_byType types _

end Store

/-- A store lists in order, over tables in memory and tables of a database, whatever their rows hold
besides texts in the key columns. -/
theorem listings_filter_in_order [Caller] (namespaceName : String) :
    (∀ env : Env MemoryTable, env.table.key = connectionsKey → Shelf.Worded env.table.rows →
      env.table.failures.get? "scan" = none →
        Store.ListsInOrder env env.table.rows namespaceName) ∧
      ∀ env : Env SqlTable, env.table.Plain →
        Store.ListsInOrder env env.table.stored namespaceName := by
  constructor
  · intro env hkey hworded hcalm
    have h : env.table.Has env.table.rows := ⟨hkey, rfl, hworded.distinct⟩
    exact (h.scans hworded hcalm).listsInOrder hworded namespaceName
  · intro env henv
    exact Store.Scans.listsInOrder henv.scans henv.sound.worded namespaceName

/-- A table in memory with two rows that came in out of order and hold nothing but their key
columns; one of these holds a kind, which counts as its text. -/
def untidyTable : MemoryTable :=
  ⟨connectionsTable, connectionsKey,
    [([.text "ns", .text "b"], .ofList [("namespace", .text "ns"), ("id", .text "b")]),
      ([.text "ns", .type .s3], .ofList [("namespace", .text "ns"), ("id", .type .s3)])],
    [], .empty, [], 0⟩

/-- A store over that table, which logs everything. -/
def untidyEnv : Env MemoryTable :=
  ⟨untidyTable, .manual (.int 0) 0, ⟨⟨.zero, .zero⟩, .none⟩, ⟨.debug, []⟩⟩

theorem untidyTable_worded : untidyTable.Worded := by
  refine ⟨rfl, ⟨?_, List.pairwise_pair.2 rfl⟩, rfl⟩
  intro e he
  rcases List.mem_cons.1 he with rfl | he
  · exact ⟨⟨"ns", "b"⟩, rfl, rfl⟩
  · obtain rfl := List.mem_singleton.1 he
    exact ⟨⟨"ns", "S3"⟩, rfl, rfl⟩

attribute [local instance] Caller.direct in
theorem listings_filter_in_order_untidy :
    Store.ListsInOrder untidyEnv untidyTable.rows "ns" ∧
      ∀ route : Upsert,
        Store.ListsInOrder (⟨strangeTable route, untidyEnv.clock, untidyEnv.meter, untidyEnv.log⟩)
          (strangeTable route).stored "ns" :=
  ⟨(listings_filter_in_order "ns").1 untidyEnv rfl untidyTable_worded.2.1 rfl,
    fun route => (listings_filter_in_order "ns").2
      ⟨strangeTable route, untidyEnv.clock, untidyEnv.meter, untidyEnv.log⟩
      (strangeTable_plain route)⟩

end ConnectionCatalog
