import ConnectionCatalog.Proofs.Store.Atomicity
import ConnectionCatalog.Proofs.Store.Shelver

/-! # Proofs.Table.Shelves — tables in memory with rows of any content

A table in memory that has the key of the connections keeps its rows through every call, whatever
they are, and answers every call about a place unless it was made to fail.  It answers scans where
the key columns of its rows hold texts.

* `MemoryTable.shelver`: every call does to the rows what it does to a shelf.
-/

namespace ConnectionCatalog
namespace MemoryTable

/-- A table has the key of the connections and some rows, each under a key of its own. -/
structure Has (t : MemoryTable) (es : Shelf) : Prop where
  key : t.key = connectionsKey
  rows : t.rows = es
  distinct : es.Distinct

variable {t u : MemoryTable} {es : Shelf}

theorem OnlyLooked.has (h : t.OnlyLooked u) (hes : t.Has es) : u.Has es :=
  ⟨h.key.trans hes.key, h.rows.trans hes.rows, hes.distinct⟩

theorem OnlyLooked.calm (h : t.OnlyLooked u) (hcalm : t.failures = .empty) :
    u.failures = .empty := h.failures.trans hcalm

theorem Has.called (h : t.Has es) (call : Call) : (t.called call).Has es :=
  ⟨h.key, h.rows, h.distinct⟩

/-! ## Calls -/

theorem Has.read_answer (h : t.Has es) (place : NamespacedId) :
    ((read place.key).run t).1 = t.unlessFailing (.read place.key) (.ok (es.rowAt place)) := by
  rw [run_read, keyOf_key h.key, unlessFailing, unlessFailing, h.rows]
  cases t.failures.get? (Call.read place.key).operation <;> rfl

theorem Has.erased (h : t.Has es) (place : NamespacedId) :
    t.erased place.key = .ok (erase place.values es) := by
  unfold MemoryTable.erased
  rw [keyOf_key h.key, h.rows]
  -- without rows there is nothing to take away
  cases es with
  | nil => cases t.lacking? place.key <;> rfl
  | cons e es => rfl

theorem Has.writes (h : t.Has es) (w : Write) :
    (w.access.run t).2.Has (es.after w (w.access.run t).1) := by
  -- a write that fails, by an injected failure, is only recorded as a call
  cases w with
  | put c =>
    have hrun : (Write.put c).access.run t = _ := run_upsert t c.toRow
    rw [hrun, keyOf_toRow h.key]
    cases hanswer : t.unlessFailing (.upsert c.toRow) (.ok c.place.values) with
    | error f => exact h.called _
    | ok key =>
      have hkey := Except.ok.inj (t.eq_of_unlessFailing hanswer)
      refine ⟨h.key, ?_, h.distinct.after (.put c) (.ok ())⟩
      show put key c.toRow t.rows = put c.place.values c.toRow es
      rw [hkey, h.rows]
  | drop place =>
    have hrun : (Write.drop place).access.run t = _ := run_delete t place.key
    rw [hrun, h.erased]
    cases hanswer : t.unlessFailing (.delete place.key) (.ok (erase place.values es)) with
    | error f => exact h.called _
    | ok rows =>
      have hrows := Except.ok.inj (t.eq_of_unlessFailing hanswer)
      exact ⟨h.key, hrows.symm, h.distinct.after (.drop place) (.ok ())⟩

theorem Has.verdict (h : t.Has es) (hcalm : t.failures = .empty) (w : Write) :
    (w.access.run t).1 = w.verdict (fun _ => none) ∧ (w.access.run t).2.failures = .empty := by
  cases w with
  | put c =>
    have hrun : (Write.put c).access.run t = _ := run_upsert t c.toRow
    rw [hrun, keyOf_toRow h.key, unlessFailing_of_empty hcalm]
    exact ⟨rfl, hcalm⟩
  | drop place =>
    have hrun : (Write.drop place).access.run t = _ := run_delete t place.key
    rw [hrun, h.erased, unlessFailing_of_empty hcalm]
    exact ⟨rfl, hcalm⟩

/-! ## Scans -/

theorem Has.sortedRows (h : t.Has es) (hworded : es.Worded) :
    t.sortedRows = .ok es.inKeyOrder := by
  have hordered : Key.ordered (t.rows.map (·.1)) = true := by
    refine Key.ordered_of_place? ?_
    rw [h.rows, List.forall_mem_map]
    intro e he
    obtain ⟨place, hplace⟩ := hworded.worded e he
    exact ⟨place, hplace.key⟩
  unfold MemoryTable.sortedRows
  rw [hordered, if_pos rfl, h.rows]
  rfl

theorem Has.selected (h : t.Has es) (hworded : es.Worded) (namespaceName : String) :
    t.selected (Store.namespaceRange namespaceName) none = .ok (es.within namespaceName) := by
  have hleads : (Store.namespaceRange namespaceName).leads t.key = true := by
    rw [h.key]
    rfl
  unfold MemoryTable.selected
  rw [hleads, if_pos rfl, h.sortedRows hworded]
  rfl

theorem Has.scans (h : t.Has es) (hworded : es.Worded) (hcalm : t.failures.get? "scan" = none) :
    Store.Scans t es := by
  intro namespaceName
  have hrun := run_scan t (Store.namespaceRange namespaceName) none
  have hanswer : t.unlessFailing (.scan (Store.namespaceRange namespaceName).pins none)
      (t.selected (Store.namespaceRange namespaceName) none) = .ok (es.within namespaceName) := by
    rw [unlessFailing, Call.operation, hcalm]
    exact h.selected hworded namespaceName
  rw [hanswer] at hrun
  refine ⟨t.cursors.length, _, hrun, ?_⟩
  have hcursor : (t.cursors ++ [⟨es.within namespaceName, false, false⟩])[t.cursors.length]? =
      some (⟨es.within namespaceName, false, false⟩ : Cursor) := List.getElem?_concat_length
  show (((t.cursors ++ [_])[t.cursors.length]?).map Cursor.pending).getD [] = _
  rw [hcursor]
  rfl

/-- Tables in memory have rows of any content. -/
def shelver : Shelver MemoryTable where
  Has := Has
  Calm t := t.failures = .empty
  refusal? _ := none
  looking := looking
  distinct h := h.distinct
  looked hframe h := hframe.has h
  calm hframe h := hframe.calm h
  found {t es place found} h hfound := by
    have hread : t.unlessFailing (.read place.key) (.ok (es.rowAt place)) = .ok found :=
      (h.read_answer place).symm.trans hfound
    exact (Except.ok.inj (t.eq_of_unlessFailing hread)).symm
  reads place h hcalm := (h.read_answer place).trans (unlessFailing_of_empty hcalm _ _)
  writes w h := h.writes w
  verdict w h hcalm := h.verdict hcalm w
  scans namespaceName h hsound hcalm := by
    refine h.scans hsound.worded ?_ namespaceName
    rw [hcalm]
    rfl

/-- A table in memory that has texts in the key columns of its rows, whatever else these hold, and
none of whose calls was made to fail. -/
def Plain (t : MemoryTable) : Prop :=
  t.key = connectionsKey ∧ Shelf.Sound t.rows ∧ t.failures = .empty

theorem Plain.has (h : t.Plain) : t.Has t.rows := ⟨h.1, rfl, h.2.1.distinct⟩

/-- Over a plain table an operation gives the shelf's answer, and leaves the shelf's rows and a
plain table. -/
theorem Plain.step [Caller] {env : Env MemoryTable} (h : env.table.Plain) (o : Operation) :
    (o.run.run env).1 = Shelf.answer (fun _ => none) env.table.rows env.clock o ∧
      (o.run.run env).2.table.rows = Shelf.left (fun _ => none) env.table.rows env.clock o ∧
      (o.run.run env).2.table.Plain := by
  obtain ⟨hanswer, hleft, hcalm⟩ := shelver.step h.has h.2.1 h.2.2 o
  have hrows : (o.run.run env).2.table.rows = _ := hleft.rows
  refine ⟨hanswer, hrows, hleft.key, ?_, hcalm⟩
  rw [hrows]
  exact h.2.1.left o

/-- A table in memory that has texts, or values that count as texts, in the key columns of its rows,
whatever else these hold, and none of whose calls was made to fail. -/
def Worded (t : MemoryTable) : Prop :=
  t.key = connectionsKey ∧ Shelf.Worded t.rows ∧ t.failures = .empty

theorem Worded.has (h : t.Worded) : t.Has t.rows := ⟨h.1, rfl, h.2.1.distinct⟩

theorem Worded.scans (h : t.Worded) : Store.Scans t t.rows := by
  refine h.has.scans h.2.1 ?_
  rw [h.2.2]
  rfl

end MemoryTable

theorem unlookedTable_plain : unlookedTable.Plain := by
  refine ⟨rfl, Shelf.sound_cons_iff.2 ⟨⟨⟨"ns", "a"⟩, ?_, rfl⟩, Shelf.sound_nil⟩, rfl⟩
  exact ⟨rfl, rfl, rfl⟩

end ConnectionCatalog
