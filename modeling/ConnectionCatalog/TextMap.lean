/-! # TextMap — finite maps from texts, kept in key order

A `TextMap` is a list of entries whose keys increase strictly, so two maps that
answer every look-up alike are the same map, and the order in which entries were
put in leaves no trace.

Main statements: `TextMap.get?_insert` and `TextMap.ext_get?`.
-/

namespace ConnectionCatalog

/-- A finite map from texts: entries in strictly increasing key order. -/
structure TextMap (α : Type) where
  entries : List (String × α)
  sorted : entries.Pairwise fun a b => a.1 < b.1

namespace TextMap

variable {α β : Type}

/-! ## Entries -/

/-- Puts an entry in its place, in the place of the one with its key if there is
one. -/
def insertEntry (k : String) (v : α) : List (String × α) → List (String × α)
  | [] => [(k, v)]
  | e :: es =>
    if k < e.1 then (k, v) :: e :: es
    else if k = e.1 then (k, v) :: es
    else e :: insertEntry k v es

/-- The value of the first entry with a key. -/
def lookupEntry (k : String) : List (String × α) → Option α
  | [] => none
  | e :: es => if k = e.1 then some e.2 else lookupEntry k es

theorem lt_of_not_lt_of_ne {a b : String} (h : ¬a < b) (hne : a ≠ b) : b < a := by
  rcases String.le_total a b with hab | hba
  · by_cases hba : b ≤ a
    · exact absurd (String.le_antisymm hab hba) hne
    · exact absurd (String.not_le.1 hba) h
  · by_cases hab : a ≤ b
    · exact absurd (String.le_antisymm hab hba) hne
    · exact String.not_le.1 hab

theorem mem_insertEntry {k : String} {v : α} {x : String × α} {es : List (String × α)}
    (h : x ∈ insertEntry k v es) : x = (k, v) ∨ x ∈ es := by
  induction es with
  | nil => simpa [insertEntry] using h
  | cons e es ih =>
    unfold insertEntry at h
    split at h
    · simpa using h
    · split at h
      · rcases List.mem_cons.1 h with rfl | h
        · exact .inl rfl
        · exact .inr (List.mem_cons_of_mem _ h)
      · rcases List.mem_cons.1 h with rfl | h
        · exact .inr List.mem_cons_self
        · exact (ih h).imp_right (List.mem_cons_of_mem _)

theorem sorted_insertEntry (k : String) (v : α) {es : List (String × α)}
    (h : es.Pairwise fun a b => a.1 < b.1) :
    (insertEntry k v es).Pairwise fun a b => a.1 < b.1 := by
  induction es with
  | nil => simp [insertEntry]
  | cons e es ih =>
    obtain ⟨he, hes⟩ := List.pairwise_cons.1 h
    unfold insertEntry
    split
    · rename_i hlt
      refine List.pairwise_cons.2 ⟨?_, h⟩
      intro x hx
      rcases List.mem_cons.1 hx with rfl | hx
      · exact hlt
      · exact String.lt_trans hlt (he x hx)
    · split
      · rename_i heq
        exact List.pairwise_cons.2 ⟨fun x hx => heq ▸ he x hx, hes⟩
      · rename_i hlt hne
        refine List.pairwise_cons.2 ⟨?_, ih hes⟩
        intro x hx
        rcases mem_insertEntry hx with rfl | hx
        · exact lt_of_not_lt_of_ne hlt hne
        · exact he x hx

theorem lookupEntry_insertEntry (k j : String) (v : α) (es : List (String × α)) :
    lookupEntry j (insertEntry k v es) = if j = k then some v else lookupEntry j es := by
  induction es with
  | nil => simp [insertEntry, lookupEntry]
  | cons e es ih =>
    unfold insertEntry
    split
    · simp [lookupEntry]
    · split
      · rename_i heq
        simp only [lookupEntry, heq]
        split <;> simp_all
      · rename_i hne
        simp only [lookupEntry, ih]
        by_cases hj : j = e.1
        · have : j ≠ k := fun h => hne (h ▸ hj)
          simp [hj, hj ▸ this]
        · simp [hj]

/-- An entry whose key comes before all others goes to the front. -/
theorem insertEntry_of_lt {k : String} {v : α} {es : List (String × α)}
    (h : ∀ e ∈ es, k < e.1) : insertEntry k v es = (k, v) :: es := by
  cases es with
  | nil => rfl
  | cons e es => simp [insertEntry, h e List.mem_cons_self]

theorem lookupEntry_eq_none_of_lt {k : String} {es : List (String × α)}
    (h : ∀ e ∈ es, k < e.1) : lookupEntry k es = none := by
  induction es with
  | nil => rfl
  | cons e es ih =>
    have hk : k ≠ e.1 := by
      rintro rfl
      exact String.lt_irrefl _ (h e List.mem_cons_self)
    simp [lookupEntry, hk, ih fun x hx => h x (List.mem_cons_of_mem _ hx)]

/-- Sorted entries with the same look-ups are the same entries. -/
theorem entries_eq_of_lookupEntry_eq {es fs : List (String × α)}
    (hes : es.Pairwise fun a b => a.1 < b.1) (hfs : fs.Pairwise fun a b => a.1 < b.1)
    (h : ∀ k, lookupEntry k es = lookupEntry k fs) : es = fs := by
  induction es generalizing fs with
  | nil =>
    cases fs with
    | nil => rfl
    | cons f fs => simpa [lookupEntry] using h f.1
  | cons e es ih =>
    cases fs with
    | nil => simpa [lookupEntry] using h e.1
    | cons f fs =>
      obtain ⟨he, hes⟩ := List.pairwise_cons.1 hes
      obtain ⟨hf, hfs⟩ := List.pairwise_cons.1 hfs
      have hkey : e.1 = f.1 := by
        by_cases hlt : e.1 < f.1
        · have hnone : lookupEntry e.1 (f :: fs) = none :=
            lookupEntry_eq_none_of_lt fun x hx => by
              rcases List.mem_cons.1 hx with rfl | hx
              · exact hlt
              · exact String.lt_trans hlt (hf x hx)
          rw [← h e.1] at hnone
          simp [lookupEntry] at hnone
        · by_cases heq : e.1 = f.1
          · exact heq
          · have hgt := lt_of_not_lt_of_ne hlt heq
            have hnone : lookupEntry f.1 (e :: es) = none :=
              lookupEntry_eq_none_of_lt fun x hx => by
                rcases List.mem_cons.1 hx with rfl | hx
                · exact hgt
                · exact String.lt_trans hgt (he x hx)
            rw [h f.1] at hnone
            simp [lookupEntry] at hnone
      have hval : e.2 = f.2 := by
        have := h e.1
        simpa [lookupEntry, hkey] using this
      have hrest : ∀ k, lookupEntry k es = lookupEntry k fs := by
        intro k
        by_cases hk : k = e.1
        · subst hk
          rw [lookupEntry_eq_none_of_lt he, lookupEntry_eq_none_of_lt (hkey ▸ hf)]
        · have := h k
          simpa [lookupEntry, hk, hkey ▸ hk] using this
      rw [ih hes hfs hrest, Prod.ext hkey hval]

/-! ## Maps -/

instance : Inhabited (TextMap α) := ⟨⟨[], .nil⟩⟩

instance [DecidableEq α] : DecidableEq (TextMap α) := fun a b =>
  decidable_of_iff (a.entries = b.entries) (by cases a; cases b; simp)

def empty : TextMap α := ⟨[], .nil⟩

def insert (m : TextMap α) (k : String) (v : α) : TextMap α :=
  ⟨insertEntry k v m.entries, sorted_insertEntry k v m.sorted⟩

def get? (m : TextMap α) (k : String) : Option α := lookupEntry k m.entries

def contains (m : TextMap α) (k : String) : Bool := (m.get? k).isSome

def keys (m : TextMap α) : List String := m.entries.map (·.1)

/-- The map of a list of entries; of two with one key, the later counts. -/
def ofList (es : List (String × α)) : TextMap α :=
  es.foldl (fun m e => m.insert e.1 e.2) empty

/-- The same keys with other values. -/
def map (f : α → β) (m : TextMap α) : TextMap β :=
  ⟨m.entries.map fun e => (e.1, f e.2), by
    rw [List.pairwise_map]
    exact m.sorted⟩

/-- The entries whose keys satisfy `p`. -/
def filterKeys (p : String → Bool) (m : TextMap α) : TextMap α :=
  ⟨m.entries.filter fun e => p e.1, m.sorted.filter _⟩

@[simp] theorem get?_empty (k : String) : (empty : TextMap α).get? k = none := rfl

theorem get?_insert (m : TextMap α) (k j : String) (v : α) :
    (m.insert k v).get? j = if j = k then some v else m.get? j :=
  lookupEntry_insertEntry k j v m.entries

@[simp] theorem get?_insert_self (m : TextMap α) (k : String) (v : α) :
    (m.insert k v).get? k = some v := by
  simp [get?_insert]

theorem get?_insert_of_ne {j k : String} (h : j ≠ k) (m : TextMap α) (v : α) :
    (m.insert k v).get? j = m.get? j := by
  simp [get?_insert, h]

/-- The map of the values that a function has for some keys, where it has one. -/
theorem get?_ofList_filterMap (f : String → Option α) (ks : List String) (k : String) :
    (ofList (ks.filterMap fun j => (f j).map fun v => (j, v))).get? k =
      if k ∈ ks then f k else none := by
  -- what was put in before is found where no later entry has its key
  have hfold : ∀ m : TextMap α,
      ((ks.filterMap fun j => (f j).map fun v => (j, v)).foldl (fun m e => m.insert e.1 e.2)
        m).get? k = (if k ∈ ks then f k else none).or (m.get? k) := by
    induction ks with
    | nil => exact fun m => rfl
    | cons j ks ih =>
      intro m
      cases hf : f j with
      | none =>
        rw [List.filterMap_cons_none (by rw [hf]; rfl), ih]
        by_cases hj : k = j
        · simp [hj, hf]
        · simp [hj]
      | some v =>
        rw [List.filterMap_cons_some (by rw [hf]; rfl), List.foldl_cons, ih, get?_insert]
        by_cases hj : k = j
        · by_cases hks : j ∈ ks
          · simp [hj, hf, hks]
          · simp [hj, hf, hks]
        · simp [hj]
  rw [ofList, hfold empty, get?_empty, Option.or_none]

/-- The map of the values that a function has for some keys. -/
theorem get?_ofList_map (f : String → α) (ks : List String) (k : String) :
    (ofList (ks.map fun j => (j, f j))).get? k = if k ∈ ks then some (f k) else none := by
  rw [← get?_ofList_filterMap (fun j => some (f j)) ks k]
  simp

/-- Maps that answer every look-up alike are equal. -/
theorem ext_get? {m n : TextMap α} (h : ∀ k, m.get? k = n.get? k) : m = n := by
  have := entries_eq_of_lookupEntry_eq m.sorted n.sorted h
  cases m
  cases n
  simpa using this

/-- What a map holds already may be put in again. -/
theorem insert_of_get? {m : TextMap α} {k : String} {v : α} (h : m.get? k = some v) :
    m.insert k v = m := by
  refine ext_get? fun j => ?_
  rw [get?_insert]
  split
  · rename_i hj
    rw [hj, h]
  · rfl

/-- Of two values that are put in under one key, the later counts. -/
theorem insert_insert (m : TextMap α) (k : String) (v w : α) :
    (m.insert k v).insert k w = m.insert k w := by
  refine ext_get? fun j => ?_
  simp only [get?_insert]
  split <;> rfl

end TextMap
end ConnectionCatalog
