import ConnectionCatalog.Proofs.Store.Shelf
import ConnectionCatalog.Proofs.Table.Cursors
import ConnectionCatalog.Proofs.Table.KeyOrder

/-! # Proofs.Table.Scan — what the scans of a table in memory select

However a table in memory came to its rows, each of them is filed under the values of its key
columns.  So where every key column holds one kind of values, the rows have one order, a scan
selects a block of them, and the scans of all values of the first column are all rows.

* `MemoryTable.after_changed`: what one step can do to the rows of a table.
* `MemoryTable.Filed`: every row is filed under its own key; `Filed.after` keeps it up over one
  step, `Filed.run` over all of them.
* `MemoryTable.Scanned`: what all scans of a table select.
* `scans_are_blocks`: it holds after any steps.
-/

namespace ConnectionCatalog

/-- A scan of which all rows are handed out. -/
def RowStore.fetch {τ : Type} [RowStore τ] (range : Range) (limit : Option Int) :
    Access τ (List Row) := do
  let cursor ← scan range limit
  drain cursor

namespace MemoryTable

/-! ## Rows and their keys -/

/-- What a step may make of the rows of a table. -/
inductive Changed (t : MemoryTable) : List (Key × Row) → Prop
  | kept : Changed t t.rows
  | put (row : Row) : Changed t (MemoryTable.put (t.key.map row.cell) row t.rows)
  | erased (key : Key) : Changed t (MemoryTable.erase key t.rows)
  | cleared : Changed t []

/-- The rows of a table are filed under their keys: no two rows have one key, and the key of each is
that of its key columns, or has become that of a row with an equal one. -/
structure Filed (t : MemoryTable) : Prop where
  distinct : Shelf.Distinct t.rows
  keys : ∀ e ∈ t.rows, e.1 = t.key.map e.2.cell ∨ e.1.same (t.key.map e.2.cell) = true

variable {t : MemoryTable} {kinds : List KeyKind}

theorem eq_of_keyOf {row : Row} {key : Key} (h : t.keyOf row = .ok key) :
    key = t.key.map row.cell := by
  unfold keyOf at h
  split at h
  · cases h
  · dsimp only at h
    split at h
    · cases h
    · exact (Except.ok.inj h).symm

/-- A step leaves the key of a table, and puts a row, erases one, clears them or leaves them. -/
theorem after_changed (t : MemoryTable) (step : Handling Arrangement) :
    (register.after t step).key = t.key ∧ t.Changed (register.after t step).rows := by
  have hkept : ∀ t' : MemoryTable, t'.key = t.key → t'.rows = t.rows →
      t'.key = t.key ∧ t.Changed t'.rows := by
    intro t' hkey hrows
    rw [hrows]
    exact ⟨hkey, .kept⟩
  -- a step that fails, and one that only looks, leaves the rows as they are
  cases step with
  | pull n p =>
    rw [Register.after, RowStore.pull.eq_def]
    split
    · exact hkept _ rfl rfl
    · exact hkept _ rfl rfl
  | arrange a =>
    cases a with
    | seed row =>
      have hrun : register.after t (.arrange (.seed row)) = ((seed row).run t).2 := rfl
      rw [hrun, run_seed]
      cases hkey : t.keyOf row with
      | error f => exact hkept _ rfl rfl
      | ok key =>
        rw [eq_of_keyOf hkey]
        exact ⟨rfl, .put row⟩
    | failOn operation f => exact hkept _ rfl rfl
    | clear => exact ⟨rfl, .cleared⟩
  | call call =>
    cases call with
    | upsert row =>
      have hrun : register.after t (.call (.upsert row)) = ((upsert row).run t).2 := rfl
      rw [hrun, run_upsert]
      cases hkey : t.unlessFailing (.upsert row) (t.keyOf row) with
      | error f => exact hkept _ rfl rfl
      | ok key =>
        rw [eq_of_keyOf (t.eq_of_unlessFailing hkey)]
        exact ⟨rfl, .put row⟩
    | read key =>
      have hrun : register.after t (.call (.read key)) = ((read key).run t).2 := rfl
      rw [hrun, run_read]
      exact hkept _ rfl rfl
    | delete key =>
      have hrun : register.after t (.call (.delete key)) = ((delete key).run t).2 := rfl
      rw [hrun, run_delete]
      cases hrows : t.unlessFailing (.delete key) (t.erased key) with
      | error f => exact hkept _ rfl rfl
      | ok rows =>
        have herased := t.eq_of_unlessFailing hrows
        -- in an empty table there is nothing to erase, and the values of the key are not looked at
        unfold erased at herased
        split at herased
        · obtain rfl := Except.ok.inj herased
          exact hkept _ rfl rfl
        · cases hkey : t.keyOf key with
          | error f =>
            rw [hkey] at herased
            cases herased
          | ok k =>
            rw [hkey] at herased
            obtain rfl := Except.ok.inj herased
            exact ⟨rfl, .erased k⟩
    | scan pins limit =>
      have hrun : register.after t (.call (.scan pins limit)) = ((scan ⟨pins⟩ limit).run t).2 := rfl
      rw [hrun, run_scan]
      cases t.unlessFailing (.scan pins limit) (t.selected ⟨pins⟩ limit) with
      | error f => exact hkept _ rfl rfl
      | ok rows => exact hkept _ rfl rfl

/-- A step files what it puts. -/
theorem Filed.after (h : t.Filed) (step : Handling Arrangement) :
    (register.after t step).Filed := by
  obtain ⟨hkey, hchanged⟩ := t.after_changed step
  generalize register.after t step = t' at hkey hchanged
  obtain ⟨name, key, rows, calls, failures, cursors, forgotten⟩ := t'
  dsimp only at hkey hchanged
  subst hkey
  cases hchanged with
  | kept => exact ⟨h.distinct, h.keys⟩
  | cleared => exact ⟨.nil, List.forall_mem_nil _⟩
  | erased k =>
    have hsublist := Shelf.erase_sublist k t.rows
    exact ⟨h.distinct.sublist hsublist, fun e he => h.keys e (hsublist.mem he)⟩
  | put row =>
    refine ⟨h.distinct.put _ row, ?_⟩
    intro e he
    -- an item is an old one, an old one with its row replaced, or the new one
    rcases Shelf.mem_put he with he | ⟨b, hb, rfl, hsame⟩ | rfl
    · exact h.keys e he
    · exact .inr hsame
    · exact .inl rfl

theorem Filed.run (h : t.Filed) (steps : List (Handling Arrangement)) :
    (register.run steps t).Filed := by
  induction steps generalizing t with
  | nil => exact h
  | cons step steps ih => exact ih (h.after step)

theorem key_run (steps : List (Handling Arrangement)) (t : MemoryTable) :
    (register.run steps t).key = t.key := by
  induction steps generalizing t with
  | nil => rfl
  | cons step steps ih => exact (ih _).trans (t.after_changed step).1

/-- A new table has nothing to file. -/
theorem filed_new {name : String} {key : List String} (h : MemoryTable.new name key = .ok t) :
    t.Filed ∧ t.key = key := by
  unfold MemoryTable.new at h
  split at h
  · cases h
  · obtain rfl := Except.ok.inj h
    exact ⟨⟨.nil, List.forall_mem_nil _⟩, rfl⟩

/-! ## Rows in order -/

/-- Every key column holds one kind of values, in the rows and in the keys that they are filed
under. -/
def Uniform (t : MemoryTable) (kinds : List KeyKind) : Prop :=
  ∀ e ∈ t.rows, e.1.Of kinds ∧ Key.Of kinds (t.key.map e.2.cell)

/-- A row has the ranks of the key that it is filed under. -/
theorem Filed.ranks_eq (h : t.Filed) (huniform : t.Uniform kinds) {e : Key × Row}
    (he : e ∈ t.rows) : e.1.ranks = Key.ranks (t.key.map e.2.cell) := by
  obtain ⟨hkey, hrow⟩ := huniform e he
  rcases h.keys e he with heq | hsame
  · rw [← heq]
  · rw [hkey.same_eq hrow] at hsame
    exact of_decide_eq_true hsame

/-- The rows of a table whose columns hold one kind of values each are strictly in order. -/
theorem Filed.exists_sorted (h : t.Filed) (huniform : t.Uniform kinds) :
    ∃ rows, t.sortedRows = .ok rows ∧ Ascending t.key kinds rows := by
  -- sorting by the keys is sorting by their ranks, which are ordered in earnest
  let le : Key × Row → Key × Row → Bool := fun a b => decide (a.1.ranks ≤ b.1.ranks)
  have hordered : Key.ordered (t.rows.map (·.1)) = true := by
    have hkeys : ∀ key ∈ t.rows.map (·.1), Key.Of kinds key := by
      intro key hkey
      obtain ⟨e, he, rfl⟩ := List.mem_map.1 hkey
      exact (huniform e he).1
    exact Key.ordered_of hkeys
  have hsort : (t.rows.mergeSort fun a b => Key.atMost a.1 b.1) = t.rows.mergeSort le := by
    have hmap := List.map_mergeSort (f := id) (r := fun a b => Key.atMost a.1 b.1) (s := le)
      (l := t.rows) fun a ha b hb => (huniform a ha).1.atMost_eq (huniform b hb).1
    simpa using hmap
  have hmem : ∀ {e}, e ∈ t.rows.mergeSort le → e ∈ t.rows :=
    fun he => (List.mergeSort_perm _ _).mem_iff.1 he
  refine ⟨(t.rows.mergeSort le).map (·.2), ?_, ?_, ?_⟩
  · rw [sortedRows, if_pos hordered, hsort]
  · intro row hrow
    obtain ⟨e, he, rfl⟩ := List.mem_map.1 hrow
    exact (huniform e (hmem he)).2
  · -- what is sorted is in order, and strictly so because no two rows are filed under one key
    have hle : (t.rows.mergeSort le).Pairwise fun a b => le a b = true := by
      refine List.pairwise_mergeSort ?_ ?_ t.rows
      · intro a b c hab hbc
        exact decide_eq_true ((of_decide_eq_true hab).trans (of_decide_eq_true hbc))
      · intro a b
        simpa [le] using le_total a.1.ranks b.1.ranks
    have hne : (t.rows.mergeSort le).Pairwise fun a b => a.1.ranks ≠ b.1.ranks := by
      refine ((List.mergeSort_perm t.rows le).pairwise_iff fun hab => Ne.symm hab).2 ?_
      refine h.distinct.imp_of_mem ?_
      intro a b ha hb hsame heq
      rw [(huniform a ha).1.same_eq (huniform b hb).1, decide_eq_true heq] at hsame
      cases hsame
    rw [List.pairwise_map]
    refine (hle.and hne).imp_of_mem ?_
    rintro a b ha hb ⟨hab, hne⟩
    rw [← h.ranks_eq huniform (hmem ha), ← h.ranks_eq huniform (hmem hb)]
    exact lt_of_le_of_ne (of_decide_eq_true hab) hne

/-! ## Scans -/

/-- What the scans of a table give, if `rows` are all its rows in order. -/
structure Scanned (t : MemoryTable) (rows : List Row) : Prop where
  sorted : t.sortedRows = .ok rows
  exact : rows.Perm (t.rows.map (·.2))
  ascending : rows.Pairwise fun a b => Key.less (t.key.map a.cell) (t.key.map b.cell) = .ok true
  /-- A scan gives the first rows of its range. -/
  scan (range : Range) (limit : Option Nat) : range.columns <+: t.key →
    ((RowStore.fetch range (limit.map Int.ofNat)).run t).1 =
      .ok (limit.elim (rows.filter range.contains) (rows.filter range.contains).take)
  /-- The rows of a range stand next to each other. -/
  block (range : Range) : range.columns <+: t.key → rows.filter range.contains <:+: rows
  /-- One more column that is pinned selects a block of the rows of a range. -/
  subBlock (range : Range) (pin : String × Value) : range.columns ++ [pin.1] <+: t.key →
    rows.filter (Range.mk (range.pins ++ [pin])).contains <:+: rows.filter range.contains
  /-- The values of the first column can be listed, and their scans are all rows. -/
  parts (column : String) : t.key.head? = some column →
    (∃ values, Lists rows column values) ∧
    ∀ values, Lists rows column values →
      (values.mapM fun v => ((RowStore.fetch (Range.mk [(column, v)]) none).run t).1).map
        List.flatten = ((RowStore.fetch .all none).run t).1
  /-- A range that does not pin the first key columns is refused, and opens no cursor. -/
  refused (range : Range) (limit : Option Int) : ¬range.columns <+: t.key →
    ∃ f : Failure, f.errorClass = .value ∧ ((RowStore.scan range limit).run t).1 = .error f ∧
      ((RowStore.scan range limit).run t).2.cursors = t.cursors

theorem leads_eq_true {range : Range} (hleads : range.columns <+: t.key) :
    range.leads t.key = true := by
  rw [Range.leads_eq, List.isPrefixOf_iff_prefix]
  exact hleads

/-- What a scan selects is handed out. -/
theorem run_fetch {range : Range} {limit : Option Int} {rows : List Row}
    (hscan : t.failures.get? "scan" = none) (hrows : t.selected range limit = .ok rows) :
    ((RowStore.fetch range limit).run t).1 = .ok rows := by
  have hopens : ∃ n t', (RowStore.scan range limit).run t = (.ok n, t') ∧
      RowStore.cursor? t' n = some ⟨rows, false, false⟩ := by
    have hrun := t.run_scan range limit
    rw [unlessFailing, Call.operation, hscan, hrows] at hrun
    exact ⟨_, _, hrun, List.getElem?_concat_length⟩
  obtain ⟨n, t', hrun, hcursor⟩ := hopens
  unfold RowStore.fetch
  rw [Access.run_bind_ok hrun, RowStore.run_drain hcursor]

/-- A range that does not pin the first key columns is refused. -/
theorem scan_refused {range : Range} (limit : Option Int)
    (hscan : t.failures.get? "scan" = none) (hleads : ¬range.columns <+: t.key) :
    ∃ f : Failure, f.errorClass = .value ∧ ((RowStore.scan range limit).run t).1 = .error f ∧
      ((RowStore.scan range limit).run t).2.cursors = t.cursors := by
  have hnot : range.leads t.key = false := by
    rw [Range.leads_eq, ← Bool.not_eq_true, List.isPrefixOf_iff_prefix]
    exact hleads
  have hrun : (RowStore.scan range limit).run t =
      (.error (.table (.notLeading range.columns t.key)),
        t.called (.scan range.pins limit)) := by
    have hrun := t.run_scan range limit
    rw [unlessFailing, Call.operation, hscan, selected, hnot] at hrun
    exact hrun
  rw [hrun]
  exact ⟨_, rfl, rfl, rfl⟩

/-- The scans of a table whose rows are in order. -/
theorem scanned_of_ascending {rows : List Row} (hsorted : t.sortedRows = .ok rows)
    (hrows : Ascending t.key kinds rows) (hscan : t.failures.get? "scan" = none) :
    t.Scanned rows := by
  have hfetch : ∀ (range : Range) (limit : Option Nat), range.columns <+: t.key →
      ((RowStore.fetch range (limit.map Int.ofNat)).run t).1 =
        .ok (limit.elim (rows.filter range.contains) (rows.filter range.contains).take) := by
    intro range limit hleads
    refine run_fetch hscan ?_
    rw [selected, leads_eq_true hleads, if_pos rfl, hsorted]
    exact congrArg Except.ok (limited_eq limit _)
  exact {
    sorted := hsorted
    exact := sortedRows_perm hsorted
    ascending := by
      refine hrows.strictly.imp_of_mem ?_
      intro a b ha hb hab
      rw [(hrows.kinds a ha).less_eq (hrows.kinds b hb), decide_eq_true hab]
    scan := hfetch
    block range hleads := hrows.block hleads
    subBlock range pin hleads := hrows.subBlock (by simpa [Range.columns] using hleads)
    parts column hcolumn := by
      obtain ⟨columns, hcolumns⟩ := List.head?_eq_some_iff.1 hcolumn
      have hall : ((RowStore.fetch .all none).run t).1 = .ok rows := by
        have hfetched := hfetch .all none List.nil_prefix
        rw [List.filter_eq_self.2 fun row _ => Range.contains_all row] at hfetched
        exact hfetched
      have hparts : (fun v => ((RowStore.fetch (Range.mk [(column, v)]) none).run t).1) =
          fun v => pure (rows.filter (Range.mk [(column, v)]).contains) := by
        funext v
        refine hfetch _ none ?_
        rw [hcolumns]
        exact List.prefix_append [column] columns
      refine ⟨hrows.exists_lists hcolumn, ?_⟩
      intro values hvalues
      rw [hparts, List.mapM_pure, hall]
      exact congrArg Except.ok (hrows.parts hcolumn hvalues)
    refused range limit hleads := scan_refused limit hscan hleads }

end MemoryTable

/-- Whatever is done to a new table in memory, if each of its key columns holds texts only or whole
numbers only, and scans were not made to fail: a scan gives the first rows of its range, in the
order of their keys, each once, and these stand next to each other among all rows; one more pinned
column selects a block of them; the scans of the values of the first column are all rows, one after
the other; and a range that does not pin the first key columns is refused. -/
theorem scans_are_blocks {name : String} {key : List String} {new : MemoryTable}
    (hnew : MemoryTable.new name key = .ok new) (steps : List (Handling Arrangement))
    (kinds : List KeyKind) (huniform : (MemoryTable.register.run steps new).Uniform kinds)
    (hscan : (MemoryTable.register.run steps new).failures.get? "scan" = none) :
    (MemoryTable.register.run steps new).key = key ∧
      ∃ rows, (MemoryTable.register.run steps new).Scanned rows := by
  obtain ⟨hfiled, hkey⟩ := MemoryTable.filed_new hnew
  refine ⟨(MemoryTable.key_run steps new).trans hkey, ?_⟩
  obtain ⟨rows, hsorted, hrows⟩ := (hfiled.run steps).exists_sorted huniform
  exact ⟨rows, MemoryTable.scanned_of_ascending hsorted hrows hscan⟩

/-- The row of a visit. -/
def visited (host : String) (day : Int) : Row := .ofList [("host", .text host), ("day", .int day)]

/-- Visits that are put, seeded, and taken away again. -/
def visitSteps : List (Handling Arrangement) :=
  [.call (.upsert (visited "a" 2)), .arrange (.seed (visited "a" 1)),
    .call (.delete (visited "b" 1))]

theorem scans_are_blocks_visits :
    let new : MemoryTable := ⟨"visits", ["host", "day"], [], [], .empty, [], 0⟩
    ∃ rows, (MemoryTable.register.run visitSteps new).Scanned rows ∧ rows.length = 2 := by
  intro new
  have hnew : MemoryTable.new "visits" ["host", "day"] = .ok new := rfl
  have hrows : (MemoryTable.register.run visitSteps new).rows =
      [([.text "a", .int 2], visited "a" 2), ([.text "a", .int 1], visited "a" 1)] := rfl
  have huniform : (MemoryTable.register.run visitSteps new).Uniform [.text, .whole] := by
    have hof : ∀ day, Key.Of [.text, .whole] [.text "a", .int day] := fun day =>
      .cons ⟨"a", rfl⟩ (.cons ⟨day, rfl⟩ .nil)
    rw [MemoryTable.Uniform, hrows]
    exact List.forall_mem_cons.2 ⟨⟨hof 2, hof 2⟩, List.forall_mem_singleton.2 ⟨hof 1, hof 1⟩⟩
  have hscan : (MemoryTable.register.run visitSteps new).failures.get? "scan" = none := rfl
  obtain ⟨-, rows, hscanned⟩ := scans_are_blocks hnew visitSteps _ huniform hscan
  refine ⟨rows, hscanned, ?_⟩
  rw [hscanned.exact.length_eq, List.length_map, hrows]
  rfl

end ConnectionCatalog
