import ConnectionCatalog.Connection.Record
import ConnectionCatalog.Proofs.Entries

/-! # Proofs.Store.Directory — the finite map that a store stands for

A directory is a finite map from places to entries: what is said of the connection there, and the
times at which it was created and last updated.  The entries of a namespace are kept in the order
of their ids.

* `Directory.find?_put` and `Directory.find?_erase` say what the two changes do.
* `Directory.mem_within` and `Directory.within_sorted` say what the list of a namespace is:
  exactly its connections, in the order of their ids.
* `Listed`: a list has exactly the connections of a directory, each once; `Listed.put` and
  `Listed.drop` keep it up, and `Listed.within_eq` sorts it.
-/

namespace ConnectionCatalog

/-! ## Directories -/

/-- What a directory says of a connection, apart from its place. -/
structure Entry where
  info : ConnectionMeta
  created : Int
  updated : Int

/-- The connection that an entry is at a place. -/
def Entry.connection (e : Entry) (place : NamespacedId) : Connection :=
  ⟨place, e.info, e.created, e.updated⟩

/-- What is said of a connection, apart from its place. -/
def Connection.entry (c : Connection) : Entry := ⟨c.info, c.created, c.updated⟩

@[simp] theorem Connection.connection_entry (c : Connection) :
    c.entry.connection c.place = c := rfl

@[simp] theorem Entry.place_connection (e : Entry) (place : NamespacedId) :
    (e.connection place).place = place := rfl

/-- A finite map from places to entries: for each namespace, its entries by id. -/
structure Directory where
  spaces : TextMap (TextMap Entry)

namespace Directory

def empty : Directory := ⟨.empty⟩

/-- The entries of a namespace. -/
def space (d : Directory) (namespaceName : String) : TextMap Entry :=
  (d.spaces.get? namespaceName).getD .empty

/-- The entry of a place. -/
def find? (d : Directory) (place : NamespacedId) : Option Entry :=
  (d.space place.namespaceName).get? place.id

/-- Gives a place an entry. -/
def put (d : Directory) (place : NamespacedId) (e : Entry) : Directory :=
  ⟨d.spaces.insert place.namespaceName ((d.space place.namespaceName).insert place.id e)⟩

/-- Takes the entry of a place away. -/
def erase (d : Directory) (place : NamespacedId) : Directory :=
  ⟨d.spaces.insert place.namespaceName
    ((d.space place.namespaceName).filterKeys fun id => id != place.id)⟩

/-- The connections of a namespace, in the order of their ids. -/
def within (d : Directory) (namespaceName : String) : List Connection :=
  (d.space namespaceName).entries.map fun e => e.2.connection ⟨namespaceName, e.1⟩

/-- All connections, in the order of their namespaces and ids. -/
def connections (d : Directory) : List Connection :=
  (d.spaces.entries.map (·.1)).flatMap d.within

/-! ### What the changes do -/

theorem space_insert (d : Directory) (namespaceName other : String) (m : TextMap Entry) :
    (Directory.mk (d.spaces.insert namespaceName m)).space other =
      if other = namespaceName then m else d.space other := by
  simp only [space, TextMap.get?_insert]
  split <;> rfl

@[simp] theorem find?_empty (place : NamespacedId) : empty.find? place = none := rfl

theorem find?_put (d : Directory) (place : NamespacedId) (e : Entry) (other : NamespacedId) :
    (d.put place e).find? other = if other = place then some e else d.find? other := by
  obtain ⟨namespaceName, id⟩ := place
  obtain ⟨otherName, otherId⟩ := other
  simp only [find?, put, space_insert, NamespacedId.mk.injEq]
  by_cases hname : otherName = namespaceName
  · subst hname
    simp [TextMap.get?_insert]
  · simp [hname]

theorem find?_erase (d : Directory) (place other : NamespacedId) :
    (d.erase place).find? other = if other = place then none else d.find? other := by
  obtain ⟨namespaceName, id⟩ := place
  obtain ⟨otherName, otherId⟩ := other
  simp only [find?, erase, space_insert, NamespacedId.mk.injEq]
  by_cases hname : otherName = namespaceName
  · subst hname
    by_cases hid : otherId = id <;> simp [TextMap.get?_filterKeys, hid]
  · simp [hname]

/-! ### What the lists are -/

theorem mem_within {d : Directory} {namespaceName : String} {c : Connection} :
    c ∈ d.within namespaceName ↔
      c.place.namespaceName = namespaceName ∧ d.find? c.place = some c.entry := by
  rw [within, List.mem_map]
  constructor
  · rintro ⟨⟨id, e⟩, hmem, rfl⟩
    exact ⟨rfl, TextMap.mem_entries_iff.1 hmem⟩
  · rintro ⟨rfl, hfind⟩
    exact ⟨(c.place.id, c.entry), TextMap.mem_entries_iff.2 hfind, rfl⟩

theorem within_sorted (d : Directory) (namespaceName : String) :
    (d.within namespaceName).Pairwise fun a b => a.place.id < b.place.id := by
  rw [within, List.pairwise_map]
  exact (d.space namespaceName).sorted

theorem mem_connections {d : Directory} {c : Connection} :
    c ∈ d.connections ↔ d.find? c.place = some c.entry := by
  simp only [connections, List.mem_flatMap, mem_within]
  constructor
  · rintro ⟨namespaceName, -, -, hfind⟩
    exact hfind
  · intro hfind
    refine ⟨c.place.namespaceName, ?_, rfl, hfind⟩
    cases hspace : d.spaces.get? c.place.namespaceName with
    | none => simp [find?, space, hspace] at hfind
    | some m => exact List.mem_map_of_mem (TextMap.mem_entries_iff.2 hspace)

end Directory

/-! ## The order of places -/

namespace NamespacedId

/-- Places are ordered by namespace, then by id. -/
def Before (a b : NamespacedId) : Prop :=
  a.namespaceName < b.namespaceName ∨ a.namespaceName = b.namespaceName ∧ a.id < b.id

instance (a b : NamespacedId) : Decidable (a.Before b) :=
  inferInstanceAs (Decidable (_ ∨ _))

theorem Before.irrefl (a : NamespacedId) : ¬a.Before a := by
  rintro (h | ⟨-, h⟩)
  · exact String.lt_irrefl _ h
  · exact String.lt_irrefl _ h

theorem Before.trans {a b c : NamespacedId} (hab : a.Before b) (hbc : b.Before c) :
    a.Before c := by
  -- the first of the two steps that changes the namespace decides
  rcases hab with hab | ⟨hab, hid⟩
  · rcases hbc with hbc | ⟨hbc, -⟩
    · exact .inl (String.lt_trans hab hbc)
    · exact .inl (hbc ▸ hab)
  · rcases hbc with hbc | ⟨hbc, hid'⟩
    · exact .inl (hab ▸ hbc)
    · exact .inr ⟨hab.trans hbc, String.lt_trans hid hid'⟩

theorem Before.asymm {a b : NamespacedId} (hab : a.Before b) : ¬b.Before a :=
  fun hba => Before.irrefl a (hab.trans hba)

theorem before_of_not_before {a b : NamespacedId} (h : ¬b.Before a) (hne : a ≠ b) :
    a.Before b := by
  by_cases hname : a.namespaceName = b.namespaceName
  · have hid : a.id ≠ b.id := by
      intro hid
      cases a
      cases b
      exact hne (by simp_all)
    have hlt : ¬b.id < a.id := fun hlt => h (.inr ⟨hname.symm, hlt⟩)
    exact .inr ⟨hname, TextMap.lt_of_not_lt_of_ne hlt (Ne.symm hid)⟩
  · have hlt : ¬b.namespaceName < a.namespaceName := fun hlt => h (.inl hlt)
    exact .inl (TextMap.lt_of_not_lt_of_ne hlt (Ne.symm hname))

/-- Whether a place is not after another one. -/
def atMost (a b : NamespacedId) : Bool := !decide (b.Before a)

theorem atMost_iff {a b : NamespacedId} : a.atMost b = true ↔ ¬b.Before a := by
  simp [atMost]

theorem atMost_total (a b : NamespacedId) : (a.atMost b || b.atMost a) = true := by
  rw [Bool.or_eq_true, atMost_iff, atMost_iff]
  by_cases h : b.Before a
  · exact .inr h.asymm
  · exact .inl h

theorem atMost_trans (a b c : NamespacedId) (hab : a.atMost b = true) (hbc : b.atMost c = true) :
    a.atMost c = true := by
  rw [atMost_iff] at *
  intro hca
  by_cases heq : a = b
  · exact hbc (heq ▸ hca)
  · exact hbc (hca.trans (before_of_not_before hab heq))

end NamespacedId

/-- Connections in the order of their places. -/
def inOrder (cs : List Connection) : List Connection :=
  cs.mergeSort fun a b => a.place.atMost b.place

theorem inOrder_sorted (cs : List Connection) :
    (inOrder cs).Pairwise fun a b => a.place.atMost b.place = true := by
  unfold inOrder
  apply List.pairwise_mergeSort
  · intro a b c hab hbc
    exact NamespacedId.atMost_trans a.place b.place c.place hab hbc
  · intro a b
    exact NamespacedId.atMost_total a.place b.place

theorem inOrder_perm (cs : List Connection) : (inOrder cs).Perm cs := List.mergeSort_perm cs _

/-- Lists in which places increase are equal if they have the same members. -/
theorem eq_of_places_increase {α : Type} {place : α → NamespacedId} {xs ys : List α}
    (hxs : xs.Pairwise fun a b => (place a).Before (place b))
    (hys : ys.Pairwise fun a b => (place a).Before (place b)) (h : ∀ x, x ∈ xs ↔ x ∈ ys) :
    xs = ys := by
  have hnodup : ∀ {zs : List α},
      (zs.Pairwise fun a b => (place a).Before (place b)) → zs.Nodup := by
    intro zs hzs
    refine hzs.imp ?_
    rintro a b hab rfl
    exact NamespacedId.Before.irrefl _ hab
  -- lists with the same elements, each once, are permutations, and the order leaves only one
  refine List.Perm.eq_of_pairwise ?_ hxs hys
    ((List.perm_ext_iff_of_nodup (hnodup hxs) (hnodup hys)).2 h)
  intro a b _ _ hab hba
  exact absurd hba hab.asymm

/-- What stands at different places and is sorted by place is in strict order. -/
theorem places_increase {α : Type} {place : α → NamespacedId} {xs : List α}
    (hdistinct : xs.Pairwise fun a b => place a ≠ place b)
    (hsorted : xs.Pairwise fun a b => (place a).atMost (place b) = true) :
    xs.Pairwise fun a b => (place a).Before (place b) := by
  refine (hdistinct.and hsorted).imp ?_
  rintro a b ⟨hne, hle⟩
  exact NamespacedId.before_of_not_before (NamespacedId.atMost_iff.1 hle) hne

theorem Directory.within_places_increase (d : Directory) (namespaceName : String) :
    (d.within namespaceName).Pairwise fun a b => a.place.Before b.place := by
  refine (d.within_sorted namespaceName).imp_of_mem ?_
  intro a b ha hb hab
  have hname := (mem_within.1 ha).1.trans (mem_within.1 hb).1.symm
  exact .inr ⟨hname, hab⟩

theorem Directory.connections_places_increase (d : Directory) :
    d.connections.Pairwise fun a b => a.place.Before b.place := by
  rw [connections, List.pairwise_flatMap]
  constructor
  · intro namespaceName _
    exact d.within_places_increase namespaceName
  · rw [List.pairwise_map]
    refine d.spaces.sorted.imp ?_
    intro x y hxy a ha b hb
    rw [← (mem_within.1 ha).1, ← (mem_within.1 hb).1] at hxy
    exact .inl hxy

/-! ## Lists of the connections of a directory -/

/-- A list has exactly the connections of a directory, each once. -/
structure Listed (cs : List Connection) (d : Directory) : Prop where
  distinct : cs.Pairwise fun a b => a.place ≠ b.place
  mem_iff : ∀ c, c ∈ cs ↔ d.find? c.place = some c.entry

/-- Puts a connection in the place of the one that has its place, or at the end. -/
def placed (c : Connection) (cs : List Connection) : List Connection :=
  if cs.any fun b => b.place = c.place then cs.map fun b => if b.place = c.place then c else b
  else cs ++ [c]

theorem placed_cons_of_ne {b c : Connection} (h : b.place ≠ c.place) (cs : List Connection) :
    placed c (b :: cs) = b :: placed c cs := by
  unfold placed
  by_cases hany : cs.any fun b => b.place = c.place
  · simp [h, hany]
  · simp [h, hany]

theorem placed_cons_of_eq {b c : Connection} {cs : List Connection} (h : b.place = c.place)
    (hcs : ∀ x ∈ cs, b.place ≠ x.place) : placed c (b :: cs) = c :: cs := by
  have hmap : (cs.map fun x => if x.place = c.place then c else x) = cs.map id := by
    refine List.map_congr_left ?_
    intro x hx
    have hne : x.place ≠ c.place := by
      rw [← h]
      exact Ne.symm (hcs x hx)
    simp [hne]
  simp [placed, h, hmap]

/-- Takes the connection of a place away. -/
def dropped (place : NamespacedId) (cs : List Connection) : List Connection :=
  cs.filter fun c => c.place ≠ place

theorem dropped_cons_of_ne {b : Connection} {place : NamespacedId} (h : b.place ≠ place)
    (cs : List Connection) : dropped place (b :: cs) = b :: dropped place cs := by
  simp [dropped, h]

theorem dropped_cons_of_eq {b : Connection} {place : NamespacedId} {cs : List Connection}
    (h : b.place = place) (hcs : ∀ x ∈ cs, b.place ≠ x.place) : dropped place (b :: cs) = cs := by
  have hrest : dropped place cs = cs := by
    refine List.filter_eq_self.2 ?_
    intro x hx
    rw [← h]
    simpa using Ne.symm (hcs x hx)
  rw [← hrest]
  simp [dropped, h]

namespace Listed

variable {cs : List Connection} {d : Directory}

theorem nil : Listed [] .empty where
  distinct := .nil
  mem_iff := by simp

theorem find?_eq (h : Listed cs d) (place : NamespacedId) :
    cs.find? (fun c => c.place = place) = (d.find? place).map fun e => e.connection place := by
  -- whichever of the two has nothing at the place, the other has nothing there either
  cases hfound : cs.find? fun c => c.place = place with
  | none =>
    cases hentry : d.find? place with
    | none => rfl
    | some e =>
      have hmem : e.connection place ∈ cs := (h.mem_iff _).2 hentry
      simpa using List.find?_eq_none.1 hfound _ hmem
  | some c =>
    have hplace : c.place = place := by simpa using List.find?_some hfound
    have hentry := (h.mem_iff c).1 (List.mem_of_find?_eq_some hfound)
    rw [hplace] at hentry
    rw [hentry, ← hplace]
    rfl

/-- At most one connection has a place. -/
theorem filter_eq (h : Listed cs d) (place : NamespacedId) :
    cs.filter (fun c => c.place = place) =
      ((d.find? place).map fun e => e.connection place).toList := by
  -- places are distinct, so filtering by one finds what looking for the first does
  have hfilter : cs.filter (fun c => c.place = place) =
      (cs.find? fun c => c.place = place).toList := by
    have hdistinct := h.distinct
    clear h
    induction cs with
    | nil => rfl
    | cons c cs ih =>
      obtain ⟨hc, hcs⟩ := List.pairwise_cons.1 hdistinct
      by_cases hplace : c.place = place
      · have hnone : cs.filter (fun c => c.place = place) = [] := by
          rw [List.filter_eq_nil_iff]
          intro x hx
          simpa [← hplace] using Ne.symm (hc x hx)
        simp [hplace, hnone]
      · simpa [hplace] using ih hcs
  rw [hfilter, h.find?_eq]

theorem mem_placed {c b : Connection} :
    b ∈ placed c cs ↔ b = c ∨ b ∈ cs ∧ b.place ≠ c.place := by
  -- `placed` replaces what is at the place, or appends where nothing is
  unfold placed
  split
  · rename_i hany
    obtain ⟨a, ha, hplace⟩ := List.any_eq_true.1 hany
    rw [decide_eq_true_iff] at hplace
    rw [List.mem_map]
    constructor
    · rintro ⟨x, hx, rfl⟩
      split
      · exact .inl rfl
      · rename_i hne
        exact .inr ⟨hx, hne⟩
    · rintro (rfl | ⟨hb, hne⟩)
      · exact ⟨a, ha, by simp [hplace]⟩
      · exact ⟨b, hb, by simp [hne]⟩
  · rename_i hany
    have hnew : ∀ x ∈ cs, x.place ≠ c.place := by simpa using hany
    rw [List.mem_append, List.mem_singleton]
    constructor
    · rintro (hb | rfl)
      · exact .inr ⟨hb, hnew b hb⟩
      · exact .inl rfl
    · rintro (rfl | ⟨hb, -⟩)
      · exact .inr rfl
      · exact .inl hb

theorem put (h : Listed cs d) (c : Connection) :
    Listed (placed c cs) (d.put c.place c.entry) where
  distinct := by
    unfold placed
    split
    · rw [List.pairwise_map]
      refine h.distinct.imp ?_
      intro a b hab
      by_cases ha : a.place = c.place
      · by_cases hb : b.place = c.place
        · exact absurd (ha.trans hb.symm) hab
        · simpa [ha, hb] using Ne.symm hb
      · by_cases hb : b.place = c.place
        · simp [ha, hb]
        · simpa [ha, hb] using hab
    · rename_i hany
      have hnew : ∀ x ∈ cs, x.place ≠ c.place := by simpa using hany
      rw [List.pairwise_append]
      refine ⟨h.distinct, List.pairwise_singleton _ _, ?_⟩
      intro a ha b hb
      rw [List.mem_singleton.1 hb]
      exact hnew a ha
  mem_iff := by
    intro b
    rw [mem_placed, h.mem_iff, Directory.find?_put]
    -- at the place of `c` only `c` is left, and nothing else has changed
    by_cases hb : b.place = c.place
    · simp only [hb, if_pos, ne_eq, not_true, and_false, or_false, Option.some.injEq]
      constructor
      · rintro rfl
        rfl
      · intro hentry
        rw [← b.connection_entry, hb, ← hentry]
        rfl
    · have hne : b ≠ c := by
        rintro rfl
        exact hb rfl
      simp [hb, hne]

theorem drop (h : Listed cs d) (place : NamespacedId) :
    Listed (dropped place cs) (d.erase place) where
  distinct := h.distinct.filter _
  mem_iff := by
    intro c
    rw [dropped, List.mem_filter, h.mem_iff, Directory.find?_erase]
    by_cases hc : c.place = place <;> simp [hc]

/-- Sorted by place, the connections of a namespace are the directory's list. -/
theorem within_eq (h : Listed cs d) {namespaceName : String} {ds : List Connection}
    (hperm : ds.Perm (cs.filter fun c => c.place.namespaceName = namespaceName))
    (hsorted : ds.Pairwise fun a b => a.place.atMost b.place = true) :
    ds = d.within namespaceName := by
  have hdistinct : ds.Pairwise fun a b => a.place ≠ b.place :=
    (hperm.pairwise_iff fun hne => Ne.symm hne).2 (h.distinct.filter _)
  refine eq_of_places_increase (places_increase hdistinct hsorted)
    (d.within_places_increase namespaceName) ?_
  intro c
  rw [hperm.mem_iff, List.mem_filter, h.mem_iff, Directory.mem_within]
  simp [and_comm]

/-- Sorted by place, all connections are the directory's list. -/
theorem inOrder_eq (h : Listed cs d) : inOrder cs = d.connections := by
  have hdistinct : (inOrder cs).Pairwise fun a b => a.place ≠ b.place :=
    ((inOrder_perm cs).pairwise_iff fun hne => Ne.symm hne).2 h.distinct
  refine eq_of_places_increase (places_increase hdistinct (inOrder_sorted cs))
    d.connections_places_increase ?_
  intro c
  rw [(inOrder_perm cs).mem_iff, h.mem_iff, Directory.mem_connections]

end Listed
end ConnectionCatalog
