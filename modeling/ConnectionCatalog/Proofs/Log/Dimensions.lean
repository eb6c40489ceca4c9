import ConnectionCatalog.Log.Basic
import ConnectionCatalog.Proofs.Entries

/-! # Proofs.Log.Dimensions — merged dimensions

Merging puts named values into dimensions, one after the other.  `Gathers all ds` says what is left
of them: each name once, where it first appeared, with its last value.  There is only one such list
of dimensions (`Gathers.unique`), and merging more into it keeps the form (`Gathers.merge`); so a
chain of merges does not show where one ended and the next one started (`merge_merge`).
-/

namespace ConnectionCatalog
namespace Dimensions

variable {all more ds es : Dimensions} {name : String} {v : Value}

/-- `ds` has each name of `all` once, where it first appeared, with its last value. -/
structure Gathers (all ds : Dimensions) : Prop where
  names : ds.map Prod.fst = (all.map Prod.fst).eraseDups
  values : ∀ name, lastValue? name ds = lastValue? name all

/-! ## Putting one value in -/

theorem names_put (name : String) (v : Value) (ds : Dimensions) :
    (put name v ds).map Prod.fst =
      if name ∈ ds.map Prod.fst then ds.map Prod.fst else ds.map Prod.fst ++ [name] := by
  induction ds with
  | nil => simp [put]
  | cons d ds ih =>
    rw [put]
    by_cases hd : d.1 = name
    · simp [hd]
    · have hne : ¬name = d.1 := fun h => hd h.symm
      rw [if_neg hd, List.map_cons, List.map_cons, ih]
      by_cases hmem : name ∈ ds.map Prod.fst
      · rw [if_pos hmem, if_pos (List.mem_cons_of_mem _ hmem)]
      · rw [if_neg hmem, if_neg fun h => hmem ((List.mem_cons.1 h).resolve_left hne)]
        rfl

theorem lastValue?_put (hdistinct : (ds.map Prod.fst).Nodup) (name : String) (v : Value)
    (other : String) : lastValue? other (put name v ds) =
      if other = name then some v else lastValue? other ds := by
  induction ds with
  | nil => simp [put, lastValue?, eq_comm]
  | cons d ds ih =>
    obtain ⟨hd, hds⟩ := List.nodup_cons.1 hdistinct
    rw [put]
    by_cases hname : d.1 = name
    · subst hname
      by_cases hother : other = d.1
      · -- the value of `name` is the first one, as no other stands behind it
        have hnone : lastValue? d.1 ds = none := lastValue?_eq_none_iff.2 hd
        simp [lastValue?, hother, hnone]
      · have hne : ¬d.1 = other := fun h => hother h.symm
        simp [lastValue?, hother, hne]
    · rw [if_neg hname, lastValue?, ih hds, lastValue?]
      by_cases hother : other = name
      · simp [hother]
      · simp [hother]

/-! ## Gathered dimensions -/

namespace Gathers

theorem nodup (h : Gathers all ds) : (ds.map Prod.fst).Nodup := by
  rw [h.names]
  exact nodup_eraseDups _

theorem unique (hds : Gathers all ds) (hes : Gathers all es) : ds = es := by
  have hnames : ds.map Prod.fst = es.map Prod.fst := by rw [hds.names, hes.names]
  refine eq_of_lastValue?_eq hnames hds.nodup fun name => ?_
  rw [hds.values, hes.values]

/-- Dimensions in which no name is there twice have nothing to gather. -/
theorem self (h : (ds.map Prod.fst).Nodup) : Gathers ds ds where
  names := (eraseDups_eq_self h).symm
  values _ := rfl

theorem put (h : Gathers all ds) (name : String) (v : Value) :
    Gathers (all ++ [(name, v)]) (Dimensions.put name v ds) where
  names := by
    have hmem : name ∈ ds.map Prod.fst ↔ name ∈ all.map Prod.fst := by
      rw [h.names, List.mem_eraseDups]
    rw [names_put, List.map_append, List.map_singleton, eraseDups_snoc, h.names]
    simp only [← h.names, hmem]
  values other := by
    rw [lastValue?_put h.nodup, lastValue?_append, h.values]
    by_cases hother : other = name
    · simp [lastValue?, hother]
    · have hne : ¬name = other := fun h => hother h.symm
      simp [lastValue?, hother, hne]

theorem merge (h : Gathers all ds) (more : Dimensions) :
    Gathers (all ++ more) (ds.merge more) := by
  induction more generalizing all ds with
  | nil => simpa using h
  | cons d more ih => simpa [Dimensions.merge] using ih (h.put d.1 d.2)

/-- What was gathered before may stand for what it was gathered from. -/
theorem append_gathered (hmore : Gathers more es) (h : Gathers (all ++ es) ds) :
    Gathers (all ++ more) ds where
  names := by
    rw [h.names, List.map_append, hmore.names, eraseDups_append_eraseDups, List.map_append]
  values name := by
    rw [h.values, lastValue?_append, hmore.values, lastValue?_append]

end Gathers

/-- Merging twice is merging once, with the two merged. -/
theorem merge_merge (hds : (ds.map Prod.fst).Nodup) (hes : (es.map Prod.fst).Nodup)
    (more : Dimensions) : (ds.merge es).merge more = ds.merge (es.merge more) := by
  have htwice : Gathers (ds ++ (es ++ more)) ((ds.merge es).merge more) := by
    rw [← List.append_assoc]
    exact ((Gathers.self hds).merge es).merge more
  have honce : Gathers (ds ++ (es ++ more)) (ds.merge (es.merge more)) :=
    ((Gathers.self hes).merge more).append_gathered ((Gathers.self hds).merge (es.merge more))
  exact htwice.unique honce

end Dimensions
end ConnectionCatalog
