import ConnectionCatalog.TextMap
import Mathlib.Data.List.Induction

/-! # Proofs.Entries — named values, put in one after the other

Of several values that a list has for one name, the last counts (`lastValue?`), and a name has the
place where it first appeared (`List.eraseDups`).  A map from texts answers with the last values of
the list that it is made of, so it does not show in which order names were put in
(`TextMap.ofList_eq_iff`).
-/

namespace ConnectionCatalog

variable {α : Type} {es fs : List (String × α)} {name : String} {v : α}

/-! ## Last values -/

/-- The last value that a list has for a name. -/
def lastValue? (name : String) : List (String × α) → Option α
  | [] => none
  | e :: es => (lastValue? name es).or (if e.1 = name then some e.2 else none)

theorem lastValue?_append (name : String) (es fs : List (String × α)) :
    lastValue? name (es ++ fs) = (lastValue? name fs).or (lastValue? name es) := by
  induction es with
  | nil => simp [lastValue?]
  | cons e es ih => rw [List.cons_append, lastValue?, ih, Option.or_assoc, lastValue?]

theorem lastValue?_eq_none_iff : lastValue? name es = none ↔ name ∉ es.map Prod.fst := by
  induction es with
  | nil => simp [lastValue?]
  | cons e es ih =>
    rw [lastValue?, Option.or_eq_none_iff, ih, List.map_cons, List.mem_cons, not_or, and_comm]
    simp [eq_comm]

/-- Where no name is there twice, a list has no other values than the last ones. -/
theorem lastValue?_eq_some_iff (h : (es.map Prod.fst).Nodup) :
    lastValue? name es = some v ↔ (name, v) ∈ es := by
  induction es with
  | nil => simp [lastValue?]
  | cons e es ih =>
    obtain ⟨k, w⟩ := e
    obtain ⟨hk, hes⟩ := List.nodup_cons.1 h
    by_cases hname : k = name
    · subst hname
      have hnone : lastValue? k es = none := lastValue?_eq_none_iff.2 hk
      have hnot : (k, v) ∉ es := fun hmem => hk (List.mem_map.2 ⟨(k, v), hmem, rfl⟩)
      simp [lastValue?, hnone, hnot, eq_comm]
    · have hne : ¬name = k := fun h => hname h.symm
      simp [lastValue?, hname, hne, ih hes]

/-- Lists with the same names in the same order, none of them twice, and the same last values are
the same. -/
theorem eq_of_lastValue?_eq (hnames : es.map Prod.fst = fs.map Prod.fst)
    (hdistinct : (es.map Prod.fst).Nodup) (h : ∀ name, lastValue? name es = lastValue? name fs) :
    es = fs := by
  induction es generalizing fs with
  | nil =>
    obtain rfl : fs = [] := List.map_eq_nil_iff.1 hnames.symm
    rfl
  | cons e es ih =>
    obtain ⟨k, v⟩ := e
    obtain _ | ⟨⟨k', w⟩, fs⟩ := fs
    · cases hnames
    obtain ⟨hk, hes⟩ := List.nodup_cons.1 hdistinct
    obtain ⟨rfl, hrest⟩ : k = k' ∧ es.map Prod.fst = fs.map Prod.fst := by simpa using hnames
    -- the rest of neither list has the first name
    have hnone : lastValue? k es = none := lastValue?_eq_none_iff.2 hk
    have hnone' : lastValue? k fs = none := lastValue?_eq_none_iff.2 (hrest ▸ hk)
    have hvalue : v = w := by simpa [lastValue?, hnone, hnone'] using h k
    have htail : ∀ name, lastValue? name es = lastValue? name fs := by
      intro name
      by_cases hname : name = k
      · rw [hname, hnone, hnone']
      · have hne : ¬k = name := fun h => hname h.symm
        simpa [lastValue?, hne] using h name
    rw [hvalue, ih hrest hes htail]

/-! ## First appearances -/

theorem eraseDups_snoc (names : List String) (name : String) :
    (names ++ [name]).eraseDups =
      if name ∈ names then names.eraseDups else names.eraseDups ++ [name] := by
  rw [List.eraseDups_append, List.cons_removeAll, List.nil_removeAll]
  by_cases h : name ∈ names <;> simp [h, List.eraseDups_cons]

theorem nodup_eraseDups (names : List String) : names.eraseDups.Nodup := by
  induction names using List.reverseRecOn with
  | nil => exact List.nodup_nil
  | append_singleton names name ih =>
    rw [eraseDups_snoc]
    split
    · exact ih
    · rename_i hname
      refine List.nodup_append.2 ⟨ih, by simp, ?_⟩
      rintro a ha b hb rfl
      obtain rfl := List.mem_singleton.1 hb
      exact hname (List.mem_eraseDups.1 ha)

theorem eraseDups_eq_self {names : List String} (h : names.Nodup) : names.eraseDups = names := by
  induction names using List.reverseRecOn with
  | nil => rfl
  | append_singleton names name ih =>
    obtain ⟨hnames, -, hnew⟩ := List.nodup_append.1 h
    have hname : name ∉ names := fun hmem => hnew name hmem name (by simp) rfl
    rw [eraseDups_snoc, if_neg hname, ih hnames]

/-- Names that are left out where they appear again may be left out before others follow. -/
theorem eraseDups_append_eraseDups (names more : List String) :
    (names ++ more.eraseDups).eraseDups = (names ++ more).eraseDups := by
  induction more using List.reverseRecOn with
  | nil => rfl
  | append_singleton more name ih =>
    rw [eraseDups_snoc]
    by_cases hmore : name ∈ more
    · rw [if_pos hmore, ih, ← List.append_assoc, eraseDups_snoc, if_pos (by simp [hmore])]
    · rw [if_neg hmore, ← List.append_assoc, ← List.append_assoc, eraseDups_snoc, eraseDups_snoc, ih]
      simp

/-! ## Maps -/

namespace TextMap

/-- A map answers with the last values of the list that it is made of. -/
theorem get?_ofList (es : List (String × α)) (name : String) :
    (ofList es).get? name = lastValue? name es := by
  have hfold : ∀ m : TextMap α, (es.foldl (fun m e => m.insert e.1 e.2) m).get? name =
      (lastValue? name es).or (m.get? name) := by
    induction es with
    | nil => exact fun m => rfl
    | cons e es ih =>
      intro m
      rw [List.foldl_cons, ih, get?_insert, lastValue?, Option.or_assoc]
      by_cases h : name = e.1
      · simp [h]
      · have hne : ¬e.1 = name := fun h' => h h'.symm
        simp [h, hne]
  rw [ofList, hfold, get?_empty, Option.or_none]

/-- Two lists make the same map just if they have the same last values. -/
theorem ofList_eq_iff :
    ofList es = ofList fs ↔ ∀ name, lastValue? name es = lastValue? name fs := by
  constructor
  · intro h name
    rw [← get?_ofList, h, get?_ofList]
  · intro h
    refine ext_get? fun name => ?_
    rw [get?_ofList, get?_ofList, h]

theorem lookupEntry_eq_some_iff {es : List (String × α)}
    (h : es.Pairwise fun a b => a.1 < b.1) {k : String} {v : α} :
    lookupEntry k es = some v ↔ (k, v) ∈ es := by
  induction es with
  | nil => simp [lookupEntry]
  | cons e es ih =>
    obtain ⟨he, hes⟩ := List.pairwise_cons.1 h
    obtain ⟨j, w⟩ := e
    rw [lookupEntry, List.mem_cons]
    by_cases hk : k = j
    · subst hk
      have hrest : (k, v) ∉ es := by
        intro hmem
        exact String.lt_irrefl k (he (k, v) hmem)
      simp [hrest, eq_comm]
    · simp [hk, ih hes]

theorem mem_entries_iff {m : TextMap α} {k : String} {v : α} :
    (k, v) ∈ m.entries ↔ m.get? k = some v :=
  (lookupEntry_eq_some_iff m.sorted).symm

theorem get?_filterKeys (p : String → Bool) (m : TextMap α) (k : String) :
    (m.filterKeys p).get? k = if p k then m.get? k else none := by
  refine Option.ext fun v => ?_
  rw [← mem_entries_iff, filterKeys, List.mem_filter, mem_entries_iff]
  by_cases hk : p k = true <;> simp [hk]

end TextMap
end ConnectionCatalog
