import ConnectionCatalog.Proofs.Store.Frame
import ConnectionCatalog.Proofs.Table.Memory

/-! # Proofs.Store.Shelf — rows of any content at the places of a table

A table of the connections may have rows that hold no connection.  A write is about the row at one
place, whatever the other rows and their keys are.  Where the key columns of every row hold texts,
or values that count as texts, the rows have an order too.

* `Shelf.rowAt_put`, `Shelf.Distinct.rowAt_erase`: a write changes the row at its own place only.
* `Shelf.Worded.exists_within`: the rows of a namespace, in order, are the rows at its places.
* `Shelf.Sound.within_congr`: they depend on nothing else.
-/

namespace ConnectionCatalog

/-! ## Keys that are those of places -/

theorem Key.eq_of_same_values {key : Key} {a b : NamespacedId} (ha : key.same a.values = true)
    (hb : key.same b.values = true) : a = b := by
  rw [same_values_iff] at ha hb
  exact Option.some.inj (ha.symm.trans hb)

theorem Key.same_of_same_values {key other : Key} {place : NamespacedId}
    (h : key.same place.values = true) (h' : other.same place.values = true) :
    key.same other = true := by
  rw [same_values_iff] at h h'
  rw [same_of_place? h h', decide_eq_true rfl]

/-! ## Rows -/

/-- A row under a key stands at a place: its key is that of the place, as are its key columns. -/
structure StandsAt (place : NamespacedId) (e : Key × Row) : Prop where
  key : e.1 = place.values
  namespaceName : e.2.get? "namespace" = some (.text place.namespaceName)
  id : e.2.get? "id" = some (.text place.id)

/-- The place that the key columns of a row name. -/
def Row.place? (row : Row) : Option NamespacedId :=
  Key.place? [row.cell "namespace", row.cell "id"]

/-- A row under a key is worded for a place: the values of its key and of its key columns are the
texts of the place or count as these. -/
structure WordedAt (place : NamespacedId) (e : Key × Row) : Prop where
  key : e.1.place? = some place
  row : Row.place? e.2 = some place

theorem StandsAt.wordedAt {place : NamespacedId} {e : Key × Row} (h : StandsAt place e) :
    WordedAt place e where
  key := by rw [h.key, Key.place?_values]
  row := by
    rw [Row.place?, TextMap.cell, TextMap.cell, h.namespaceName, h.id]
    rfl

theorem WordedAt.contains_namespaceRange {place : NamespacedId} {e : Key × Row}
    (h : WordedAt place e) (namespaceName : String) :
    (Store.namespaceRange namespaceName).contains e.2 =
      decide (place.namespaceName = namespaceName) := by
  obtain ⟨v, w, hvalues, hname, -⟩ := Key.place?_eq_some_iff.1 h.row
  obtain ⟨rfl, -⟩ := List.cons.inj hvalues
  have hsame : (e.2.cell "namespace").same (.text namespaceName) =
      decide (place.namespaceName = namespaceName) := Value.same_of_texts hname rfl
  simp [Range.contains, Store.namespaceRange, hsame]

theorem Connection.standsAt_toRow (c : Connection) : StandsAt c.place (c.place.values, c.toRow) :=
  ⟨rfl, by simp [c.get?_toRow], by simp [c.get?_toRow]⟩

namespace Write

/-- The place that a write is about. -/
def place : Write → NamespacedId
  | put c => c.place
  | drop place => place

/-- The row that a write leaves at its place. -/
def row? : Write → Option Row
  | put c => some c.toRow
  | drop _ => none

end Write

/-- Rows under their keys, in the order in which a table has them. -/
abbrev Shelf := List (Key × Row)

namespace Shelf

/-- No two rows have one key. -/
def Distinct (es : Shelf) : Prop := es.Pairwise fun a b => a.1.same b.1 = false

/-- Every row stands at a place, and no two rows have one key. -/
structure Sound (es : Shelf) : Prop where
  stands : ∀ e ∈ es, ∃ place, StandsAt place e
  distinct : es.Distinct

/-- Every row is worded for a place, and no two rows have one key. -/
structure Worded (es : Shelf) : Prop where
  worded : ∀ e ∈ es, ∃ place, WordedAt place e
  distinct : es.Distinct

theorem Sound.worded {es : Shelf} (h : es.Sound) : es.Worded where
  distinct := h.distinct
  worded := by
    intro e he
    obtain ⟨place, hplace⟩ := h.stands e he
    exact ⟨place, hplace.wordedAt⟩

/-- The row at a place. -/
def rowAt (es : Shelf) (place : NamespacedId) : Option Row := MemoryTable.find? place.values es

/-- The rows in the order of their keys. -/
def inKeyOrder (es : Shelf) : List Row :=
  (es.mergeSort fun a b => Key.atMost a.1 b.1).map (·.2)

/-- The rows of a namespace, in the order of their keys. -/
def within (es : Shelf) (namespaceName : String) : List Row :=
  es.inKeyOrder.filter (Store.namespaceRange namespaceName).contains

/-- The rows after a write: one that failed has changed nothing. -/
def after (es : Shelf) : Write → Except Failure Unit → Shelf
  | _, .error _ => es
  | .put c, .ok _ => MemoryTable.put c.place.values c.toRow es
  | .drop place, .ok _ => MemoryTable.erase place.values es

variable {es es' : Shelf} {e : Key × Row} {place other : NamespacedId} {row : Row}

/-! ### Writes -/

theorem rowAt_cons (e : Key × Row) (es : Shelf) (place : NamespacedId) :
    rowAt (e :: es) place = if e.1.same place.values then some e.2 else rowAt es place := rfl

/-- A row that is put at a place is there, and every other place is as it was. -/
theorem rowAt_put (es : Shelf) (place : NamespacedId) (row : Row) (other : NamespacedId) :
    rowAt (MemoryTable.put place.values row es) other =
      if place = other then some row else es.rowAt other := by
  induction es with
  | nil => simp [MemoryTable.put, rowAt, MemoryTable.find?, Key.same_values]
  | cons e es ih =>
    rw [MemoryTable.put]
    -- the first entry with the key is replaced, and `rowAt` finds that entry first
    split
    · rename_i hsame
      rw [rowAt_cons, rowAt_cons]
      by_cases heq : place = other
      · subst heq
        simp [hsame]
      · have hother : e.1.same other.values = false := by
          rw [← Bool.not_eq_true]
          exact fun hother => heq (Key.eq_of_same_values hsame hother)
        simp [heq, hother]
    · rename_i hsame
      rw [rowAt_cons, rowAt_cons, ih]
      by_cases heq : place = other
      · subst heq
        simp [hsame]
      · simp [heq]

/-- Rows whose keys differ from the key of a place have none there. -/
theorem rowAt_eq_none_of_same {key : Key} (hsame : key.same place.values = true)
    (h : ∀ x ∈ es, key.same x.1 = false) : es.rowAt place = none := by
  induction es with
  | nil => rfl
  | cons x es ih =>
    obtain ⟨hx, hes⟩ := List.forall_mem_cons.1 h
    rw [rowAt_cons, if_neg, ih hes]
    intro hsame'
    rw [Key.same_of_same_values hsame hsame'] at hx
    cases hx

theorem Distinct.rowAt_erase (h : es.Distinct) (place other : NamespacedId) :
    rowAt (MemoryTable.erase place.values es) other =
      if place = other then none else es.rowAt other := by
  induction es with
  | nil => simp [MemoryTable.erase, rowAt, MemoryTable.find?]
  | cons e es ih =>
    obtain ⟨hfirst, hrest⟩ := List.pairwise_cons.1 h
    have hes : Distinct es := hrest
    rw [MemoryTable.erase]
    split
    · rename_i hsame
      by_cases heq : place = other
      · -- a key that was found is not found again
        subst heq
        simp [rowAt_eq_none_of_same hsame hfirst]
      · have hother : e.1.same other.values = false := by
          rw [← Bool.not_eq_true]
          exact fun hother => heq (Key.eq_of_same_values hsame hother)
        simp [heq, rowAt_cons, hother]
    · rename_i hsame
      rw [rowAt_cons, rowAt_cons, ih hes]
      by_cases heq : place = other
      · subst heq
        simp [hsame]
      · simp [heq]

/-- A put leaves the keys, or adds its own if it is not there. -/
theorem mem_put {key : Key} (h : e ∈ MemoryTable.put key row es) :
    e ∈ es ∨ (∃ b ∈ es, e = (b.1, row) ∧ b.1.same key = true) ∨ e = (key, row) := by
  induction es with
  | nil => simpa [MemoryTable.put] using h
  | cons b es ih =>
    rw [MemoryTable.put] at h
    -- an entry is an old one, the replaced one, or the new one behind all others
    split at h
    · rename_i hsame
      rcases List.mem_cons.1 h with rfl | h
      · exact .inr (.inl ⟨b, by simp, rfl, hsame⟩)
      · exact .inl (List.mem_cons_of_mem b h)
    · rcases List.mem_cons.1 h with rfl | h
      · exact .inl (by simp)
      · rcases ih h with h | ⟨x, hx, h⟩ | h
        · exact .inl (List.mem_cons_of_mem b h)
        · exact .inr (.inl ⟨x, List.mem_cons_of_mem b hx, h⟩)
        · exact .inr (.inr h)

theorem Distinct.put (h : es.Distinct) (key : Key) (row : Row) :
    Distinct (MemoryTable.put key row es) := by
  induction es with
  | nil => exact List.pairwise_singleton _ _
  | cons e es ih =>
    obtain ⟨hfirst, hrest⟩ := List.pairwise_cons.1 h
    rw [MemoryTable.put]
    split
    · exact List.pairwise_cons.2 ⟨hfirst, hrest⟩
    · rename_i hsame
      refine List.pairwise_cons.2 ⟨?_, ih hrest⟩
      intro x hx
      -- the keys are the old ones and perhaps the new one, which the first entry does not have
      rcases mem_put hx with hx | ⟨b, hb, rfl, -⟩ | rfl
      · exact hfirst x hx
      · exact hfirst b hb
      · simpa using hsame

theorem erase_sublist (key : Key) (es : Shelf) : (MemoryTable.erase key es).Sublist es := by
  induction es with
  | nil => exact .slnil
  | cons e es ih =>
    rw [MemoryTable.erase]
    split
    · exact List.sublist_cons_self e es
    · exact ih.cons_cons e

theorem Distinct.after (h : es.Distinct) (w : Write) (r : Except Failure Unit) :
    (es.after w r).Distinct := by
  cases r with
  | error f => exact h
  | ok _ =>
    cases w with
    | put c => exact h.put c.place.values c.toRow
    | drop place => exact h.sublist (erase_sublist place.values es)

/-- A write that succeeded has left its row at its place, and every other place as it was. -/
theorem Distinct.rowAt_after (h : es.Distinct) (w : Write) (place : NamespacedId) :
    (es.after w (.ok ())).rowAt place = if w.place = place then w.row? else es.rowAt place := by
  cases w with
  | put c => exact rowAt_put es c.place c.toRow place
  | drop other => exact h.rowAt_erase other place

/-- The row at a place is the one whose key is of that place. -/
theorem Distinct.rowAt_eq_some_iff (h : es.Distinct) :
    es.rowAt place = some row ↔ ∃ key : Key, key.place? = some place ∧ (key, row) ∈ es := by
  induction es with
  | nil => simp [rowAt, MemoryTable.find?]
  | cons e es ih =>
    obtain ⟨hfirst, hrest⟩ := List.pairwise_cons.1 h
    obtain ⟨first, other⟩ := e
    rw [rowAt_cons]
    by_cases hsame : first.same place.values = true
    · have hplace := (Key.same_values_iff first place).1 hsame
      rw [if_pos hsame, Option.some.injEq]
      constructor
      · rintro rfl
        exact ⟨first, hplace, List.mem_cons_self⟩
      · rintro ⟨key, hkey, hmem⟩
        rcases List.mem_cons.1 hmem with heq | hmem
        · exact (Prod.mk.inj heq).2.symm
        · -- a second key of the place would be the same as the first
          have hother := hfirst _ hmem
          rw [Key.same_of_place? hplace hkey, decide_eq_true rfl] at hother
          cases hother
    · rw [if_neg hsame, ih hrest]
      refine exists_congr fun key => and_congr_right fun hkey => ?_
      have hne : (key, row) ≠ (first, other) := by
        intro heq
        obtain ⟨rfl, -⟩ := Prod.mk.inj heq
        exact hsame ((Key.same_values_iff key place).2 hkey)
      simp [List.mem_cons, hne]

/-! ### Rows that are worded for places -/

theorem Worded.put (h : es.Worded) (hrow : Row.place? row = some place) :
    Worded (MemoryTable.put place.values row es) where
  distinct := h.distinct.put _ _
  worded := by
    intro e he
    rcases mem_put he with he | ⟨b, hb, rfl, hsame⟩ | rfl
    · exact h.worded e he
    · exact ⟨place, (Key.same_values_iff b.1 place).1 hsame, hrow⟩
    · exact ⟨place, Key.place?_values place, hrow⟩

theorem Worded.erase (h : es.Worded) (place : NamespacedId) :
    Worded (MemoryTable.erase place.values es) where
  distinct := h.distinct.sublist (erase_sublist place.values es)
  worded e he := h.worded e ((erase_sublist place.values es).mem he)

theorem Worded.after (h : es.Worded) (w : Write) (r : Except Failure Unit) :
    (es.after w r).Worded := by
  cases r with
  | error f => exact h
  | ok _ =>
    cases w with
    | put c => exact h.put c.standsAt_toRow.wordedAt.row
    | drop place => exact h.erase place

/-! ### Rows that stand at places -/

theorem rowAt_cons_of_eq (h : e.1 = other.values) (es : Shelf) (place : NamespacedId) :
    rowAt (e :: es) place = if other = place then some e.2 else rowAt es place := by
  rw [rowAt_cons, h, Key.same_values]
  by_cases heq : other = place <;> simp [heq]

theorem sound_nil : Sound [] := ⟨by simp, .nil⟩

theorem sound_cons_iff :
    Sound (e :: es) ↔
      (∃ place, StandsAt place e ∧ es.rowAt place = none) ∧ Sound es := by
  -- in sound rows, nothing is found at a place exactly where no key is the key of the place
  have hnone : ∀ {place : NamespacedId} {es : Shelf}, es.Sound →
      (es.rowAt place = none ↔ ∀ e ∈ es, place.values.same e.1 = false) := by
    intro place es hes
    induction es with
    | nil => simp [rowAt, MemoryTable.find?]
    | cons e es ih =>
      obtain ⟨other, hother⟩ := hes.stands e (by simp)
      have hrest : Sound es :=
        ⟨fun x hx => hes.stands x (by simp [hx]), (List.pairwise_cons.1 hes.distinct).2⟩
      rw [rowAt_cons_of_eq hother.key, List.forall_mem_cons, hother.key, Key.same_values,
        ← ih hrest]
      by_cases heq : other = place
      · simp [heq]
      · simp [heq, Ne.symm heq]
  constructor
  · intro h
    obtain ⟨hdistinct, hrest⟩ := List.pairwise_cons.1 h.distinct
    obtain ⟨place, hplace⟩ := h.stands e (by simp)
    have hes : Sound es := ⟨fun x hx => h.stands x (by simp [hx]), hrest⟩
    refine ⟨⟨place, hplace, (hnone hes).2 ?_⟩, hes⟩
    intro x hx
    rw [← hplace.key]
    exact hdistinct x hx
  · rintro ⟨⟨place, hplace, habsent⟩, hes⟩
    refine ⟨List.forall_mem_cons.2 ⟨⟨place, hplace⟩, hes.stands⟩, ?_⟩
    refine List.pairwise_cons.2 ⟨?_, hes.distinct⟩
    intro x hx
    rw [hplace.key]
    exact (hnone hes).1 habsent x hx

/-- A row that is found stands at the place, under its key. -/
theorem Sound.rowAt_eq_some_iff (h : es.Sound) :
    es.rowAt place = some row ↔ (place.values, row) ∈ es := by
  rw [h.distinct.rowAt_eq_some_iff]
  constructor
  · rintro ⟨key, hkey, hmem⟩
    obtain ⟨other, hother⟩ := h.stands _ hmem
    obtain rfl : key = other.values := hother.key
    obtain rfl := Option.some.inj ((Key.place?_values other).symm.trans hkey)
    exact hmem
  · intro hmem
    exact ⟨place.values, Key.place?_values place, hmem⟩

theorem Sound.standsAt (h : es.Sound) (hrow : es.rowAt place = some row) :
    StandsAt place (place.values, row) := by
  obtain ⟨other, hother⟩ := h.stands _ (h.rowAt_eq_some_iff.1 hrow)
  obtain rfl := NamespacedId.values_inj.1 hother.key
  exact hother

theorem Sound.put (h : es.Sound) (hrow : StandsAt place (place.values, row)) :
    Sound (MemoryTable.put place.values row es) where
  distinct := h.distinct.put _ _
  stands := by
    intro e he
    rcases mem_put he with he | ⟨b, hb, rfl, hsame⟩ | rfl
    · exact h.stands e he
    · obtain ⟨first, hfirst⟩ := h.stands b hb
      -- the entry that is replaced stood at the very place
      rw [hfirst.key, Key.same_values, decide_eq_true_iff] at hsame
      subst hsame
      exact ⟨first, hfirst.key, hrow.namespaceName, hrow.id⟩
    · exact ⟨place, hrow⟩

theorem Sound.erase (h : es.Sound) (place : NamespacedId) :
    Sound (MemoryTable.erase place.values es) where
  distinct := h.distinct.sublist (erase_sublist place.values es)
  stands e he := h.stands e ((erase_sublist place.values es).mem he)

theorem Sound.after (h : es.Sound) (w : Write) (r : Except Failure Unit) :
    (es.after w r).Sound := by
  cases r with
  | error f => exact h
  | ok _ =>
    cases w with
    | put c => exact h.put c.standsAt_toRow
    | drop place => exact h.erase place

/-! ### Rows in order -/

/-- What stands at places, in the order of the places. -/
def byPlace {α : Type} (xs : List (NamespacedId × α)) : List (NamespacedId × α) :=
  xs.mergeSort fun a b => a.1.atMost b.1

theorem byPlace_perm {α : Type} (xs : List (NamespacedId × α)) : (byPlace xs).Perm xs :=
  List.mergeSort_perm xs _

theorem byPlace_increases {α : Type} {xs : List (NamespacedId × α)}
    (h : xs.Pairwise fun a b => a.1 ≠ b.1) :
    (byPlace xs).Pairwise fun a b => a.1.Before b.1 := by
  refine places_increase (((byPlace_perm xs).pairwise_iff fun hne => Ne.symm hne).2 h) ?_
  apply List.pairwise_mergeSort
  · intro a b c hab hbc
    exact NamespacedId.atMost_trans a.1 b.1 c.1 hab hbc
  · intro a b
    exact NamespacedId.atMost_total a.1 b.1

/-- Worded rows, with their places. -/
theorem Worded.exists_places (h : es.Worded) :
    ∃ xs : List (NamespacedId × Key × Row), es = xs.map (·.2) ∧ (∀ x ∈ xs, WordedAt x.1 x.2) ∧
      xs.Pairwise fun a b => a.1 ≠ b.1 := by
  -- each entry has a place that its key gives, and distinct keys give distinct places
  induction es with
  | nil => exact ⟨[], rfl, by simp, .nil⟩
  | cons e es ih =>
    obtain ⟨⟨first, hfirst⟩, hworded⟩ := List.forall_mem_cons.1 h.worded
    obtain ⟨hnew, hdistinct⟩ := List.pairwise_cons.1 h.distinct
    obtain ⟨xs, rfl, hxs, hne⟩ := ih ⟨hworded, hdistinct⟩
    refine ⟨(first, e) :: xs, rfl, List.forall_mem_cons.2 ⟨hfirst, hxs⟩,
      List.pairwise_cons.2 ⟨?_, hne⟩⟩
    rintro x hx rfl
    have hsame := hnew x.2 (List.mem_map.2 ⟨x, hx, rfl⟩)
    rw [Key.same_of_place? hfirst.key (hxs x hx).key, decide_eq_true rfl] at hsame
    cases hsame

/-- The rows in the order of their keys, with their places. -/
theorem Worded.exists_inKeyOrder (h : es.Worded) :
    ∃ xs : List (NamespacedId × Row), es.inKeyOrder = xs.map (·.2) ∧
      (xs.Pairwise fun a b => a.1.Before b.1) ∧ ∀ x, x ∈ xs ↔ es.rowAt x.1 = some x.2 := by
  obtain ⟨ys, rfl, hys, hne⟩ := h.exists_places
  have hsort : (byPlace ys).map (·.2) =
      (ys.map (·.2)).mergeSort fun a b => Key.atMost a.1 b.1 := by
    refine List.map_mergeSort ?_
    intro a ha b hb
    exact (Key.atMost_of_place? (hys a ha).key (hys b hb).key).symm
  refine ⟨(byPlace ys).map fun y => (y.1, y.2.2), ?_, ?_, ?_⟩
  · rw [inKeyOrder, ← hsort, List.map_map, List.map_map]
    rfl
  · exact List.pairwise_map.2 (byPlace_increases hne)
  · rintro ⟨place, row⟩
    rw [h.distinct.rowAt_eq_some_iff, List.mem_map]
    constructor
    · rintro ⟨y, hy, heq⟩
      obtain ⟨rfl, rfl⟩ := Prod.mk.inj heq
      have hy := (byPlace_perm ys).mem_iff.1 hy
      exact ⟨y.2.1, (hys y hy).key, List.mem_map.2 ⟨y, hy, rfl⟩⟩
    · rintro ⟨key, hkey, hmem⟩
      obtain ⟨y, hy, heq⟩ := List.mem_map.1 hmem
      have hplace := (hys y hy).key
      rw [heq, hkey] at hplace
      refine ⟨y, (byPlace_perm ys).mem_iff.2 hy, ?_⟩
      rw [heq, ← Option.some.inj hplace]

theorem Worded.place?_of_rowAt (h : es.Worded) (hrow : es.rowAt place = some row) :
    ∃ key, (key, row) ∈ es ∧ WordedAt place (key, row) := by
  obtain ⟨key, hkey, hmem⟩ := h.distinct.rowAt_eq_some_iff.1 hrow
  obtain ⟨other, hother⟩ := h.worded _ hmem
  obtain rfl := Option.some.inj (hother.key.symm.trans hkey)
  exact ⟨key, hmem, hother⟩

/-- The row at a place is the one whose key columns name the place. -/
theorem Worded.rowAt_eq_some_iff (h : es.Worded) :
    es.rowAt place = some row ↔ ∃ key : Key, (key, row) ∈ es ∧ Row.place? row = some place := by
  constructor
  · intro hrow
    obtain ⟨key, hmem, hworded⟩ := h.place?_of_rowAt hrow
    exact ⟨key, hmem, hworded.row⟩
  · rintro ⟨key, hmem, hplace⟩
    obtain ⟨other, hother⟩ := h.worded _ hmem
    obtain rfl := Option.some.inj (hother.row.symm.trans hplace)
    exact h.distinct.rowAt_eq_some_iff.2 ⟨key, hother.key, hmem⟩

/-- The rows of a namespace in the order of their keys, with their places. -/
theorem Worded.exists_within (h : es.Worded) (namespaceName : String) :
    ∃ xs : List (NamespacedId × Row), es.within namespaceName = xs.map (·.2) ∧
      (xs.Pairwise fun a b => a.1.Before b.1) ∧
      ∀ x, x ∈ xs ↔ es.rowAt x.1 = some x.2 ∧ x.1.namespaceName = namespaceName := by
  obtain ⟨xs, hxs, hsorted, hmem⟩ := h.exists_inKeyOrder
  refine ⟨xs.filter fun x => x.1.namespaceName = namespaceName, ?_, hsorted.filter _, ?_⟩
  · rw [within, hxs, List.filter_map]
    congr 1
    refine List.filter_congr ?_
    intro x hx
    obtain ⟨key, -, hworded⟩ := h.place?_of_rowAt ((hmem x).1 hx)
    exact hworded.contains_namespaceRange namespaceName
  · intro x
    rw [List.mem_filter, hmem, decide_eq_true_iff]

/-- The rows of a namespace are the rows at its places, in order. -/
theorem Sound.within_eq (h : es.Sound) {namespaceName : String} {xs : List (NamespacedId × Row)}
    (hsorted : xs.Pairwise fun a b => a.1.Before b.1)
    (hmem : ∀ x, x ∈ xs ↔ es.rowAt x.1 = some x.2 ∧ x.1.namespaceName = namespaceName) :
    es.within namespaceName = xs.map (·.2) := by
  obtain ⟨ys, hys, hsorted', hmem'⟩ := h.worded.exists_within namespaceName
  rw [hys, eq_of_places_increase hsorted' hsorted]
  intro y
  rw [hmem', hmem]

theorem Sound.within_congr (h : es.Sound) (h' : es'.Sound) {namespaceName : String}
    (hrows : ∀ place, place.namespaceName = namespaceName → es.rowAt place = es'.rowAt place) :
    es.within namespaceName = es'.within namespaceName := by
  obtain ⟨xs, hxs, hsorted, hmem⟩ := h.worded.exists_within namespaceName
  rw [hxs, h'.within_eq hsorted]
  intro x
  rw [hmem]
  refine and_congr_left fun hname => ?_
  rw [hrows x.1 hname]

theorem Sound.inKeyOrder_congr (h : es.Sound) (h' : es'.Sound)
    (hrows : ∀ place, es.rowAt place = es'.rowAt place) : es.inKeyOrder = es'.inKeyOrder := by
  obtain ⟨xs, hxs, hsorted, hmem⟩ := h.worded.exists_inKeyOrder
  obtain ⟨ys, hys, hsorted', hmem'⟩ := h'.worded.exists_inKeyOrder
  rw [hxs, hys, eq_of_places_increase hsorted hsorted']
  intro x
  rw [hmem, hmem', hrows]

end Shelf
end ConnectionCatalog
