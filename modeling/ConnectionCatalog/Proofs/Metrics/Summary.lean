import ConnectionCatalog.Proofs.Metrics.Spread

/-! # Proofs.Metrics.Summary — what a summary shows of observations

A summary keeps two families apart, the totals by operation and outcome and the durations by
operation, and forgets the observations themselves.  `Tallies` says what both of them are, by counts
in the list of the observations that were taken up; one observation keeps it up (`Tallies.observe`),
and so do any number of them (`tallies_ofObservations`).

Main statement: `Tallies.aggregates`; the samples of a summary are counts of what was recorded.
-/

namespace ConnectionCatalog

/-! ## Sums of totals -/

theorem TextMap.foldr_insertEntry {es : List (String × Nat)}
    (h : es.Pairwise fun a b => a.1 < b.1) (k : String) (n : Nat) :
    (insertEntry k n es).foldr (fun e sum => e.2 + sum) 0 + (lookupEntry k es).getD 0 =
      es.foldr (fun e sum => e.2 + sum) 0 + n := by
  induction es with
  | nil => simp [insertEntry, lookupEntry]
  | cons e es ih =>
    obtain ⟨he, hes⟩ := List.pairwise_cons.1 h
    have hrest := ih hes
    unfold insertEntry
    split
    -- a new key goes to the front, one that is there already is replaced, and else the rest takes
    -- it
    · rename_i hlt
      have hnone : lookupEntry k (e :: es) = none := by
        refine lookupEntry_eq_none_of_lt ?_
        rintro x (_ | ⟨_, hx⟩)
        · exact hlt
        · exact String.lt_trans hlt (he x hx)
      simp only [hnone, Option.getD_none, List.foldr_cons]
      omega
    · split
      · rename_i heq
        simp only [lookupEntry, heq, if_true, Option.getD_some, List.foldr_cons]
        omega
      · rename_i hne
        simp only [lookupEntry, if_neg hne, List.foldr_cons]
        omega

/-! ## Durations of an operation -/

namespace Observation

/-- The durations that were observed of an operation. -/
def durationsOf (operation : String) (seen : List Observation) : List Number :=
  (seen.filter fun o => o.operation = operation).map duration

theorem durationsOf_snoc (operation : String) (seen : List Observation) (o : Observation) :
    durationsOf operation (seen ++ [o]) =
      durationsOf operation seen ++ if o.operation = operation then [o.duration] else [] := by
  rw [durationsOf, List.filter_append, List.map_append, durationsOf]
  by_cases h : o.operation = operation <;> simp [h]

theorem length_durationsOf (operation : String) (seen : List Observation) :
    (durationsOf operation seen).length = seen.countP fun o => o.operation = operation := by
  rw [durationsOf, List.length_map, List.countP_eq_length_filter]

theorem countP_durationsOf (p : Number → Bool) (operation : String) (seen : List Observation) :
    (durationsOf operation seen).countP p =
      seen.countP fun o => o.operation = operation ∧ p o.duration = true := by
  rw [durationsOf, List.countP_map, List.countP_filter]
  refine List.countP_congr ?_
  intro o _
  simp [and_comm]

end Observation

namespace Summary

open Observation (durationsOf)

/-- The sum of the totals of an operation over all outcomes. -/
def attempts (s : Summary) (operation : String) : Nat :=
  ((s.totals.get? operation).getD .empty).entries.foldr (fun e sum => e.2 + sum) 0

/-- The summary of some observations. -/
def ofObservations (seen : List Observation) : Summary := seen.foldl observe empty

/-! ## One more observation -/

theorem attempts_observe (s : Summary) (o : Observation) (operation : String) :
    (s.observe o).attempts operation =
      s.attempts operation + if o.operation = operation then 1 else 0 := by
  unfold attempts observe
  rw [TextMap.get?_insert]
  by_cases h : operation = o.operation
  · subst h
    have hsum := TextMap.foldr_insertEntry ((s.totals.get? o.operation).getD .empty).sorted o.outcome
      ((((s.totals.get? o.operation).getD .empty).get? o.outcome).getD 0 + 1)
    simp only [if_true, Option.getD_some]
    simp only [TextMap.insert, TextMap.get?] at hsum ⊢
    omega
  · have hne : ¬o.operation = operation := fun h' => h h'.symm
    simp [h, hne]

theorem spread_observe (s : Summary) (o : Observation) (operation : String) :
    (s.observe o).spread operation =
      if operation = o.operation then (s.spread operation).observe o.duration
      else s.spread operation := by
  rw [spread, observe, TextMap.get?_insert]
  split
  · rename_i h
    rw [h]
    rfl
  · rfl

/-! ## Observations, one after the other -/

/-- What the totals and the durations of a summary are that has taken up some observations. -/
structure Tallies (s : Summary) (seen : List Observation) : Prop where
  total : ∀ operation outcome, s.total? operation outcome =
    let n := seen.countP fun o => o.operation = operation ∧ o.outcome = outcome
    if n = 0 then none else some n
  attempts : ∀ operation, s.attempts operation = seen.countP fun o => o.operation = operation
  timed : ∀ operation, s.durations.contains operation = true ↔ ∃ o ∈ seen, o.operation = operation
  spread : ∀ operation,
    s.spread operation = Spread.observeAll (durationsOf operation seen) .empty

theorem tallies_empty : Tallies empty [] where
  total _ _ := rfl
  attempts _ := rfl
  timed _ := by simp [TextMap.contains, empty]
  spread _ := rfl

variable {s : Summary} {seen : List Observation}

/-- One more observation is counted in each place where it belongs, and nowhere else. -/
theorem Tallies.observe (h : Tallies s seen) (o : Observation) :
    Tallies (s.observe o) (seen ++ [o]) where
  total operation outcome := by
    rw [total_observe, h.total]
    simp only [List.countP_append, List.countP_singleton, decide_eq_true_eq]
    -- the counter that is increased is that of the observation
    by_cases ho : o.operation = operation ∧ o.outcome = outcome
    · rw [if_pos ⟨ho.1.symm, ho.2.symm⟩, if_pos ho]
      split <;> simp_all
    · have hne : ¬(operation = o.operation ∧ outcome = o.outcome) :=
        fun h' => ho ⟨h'.1.symm, h'.2.symm⟩
      rw [if_neg hne, if_neg ho, Nat.add_zero]
  attempts operation := by
    rw [attempts_observe, h.attempts, List.countP_append, List.countP_singleton]
    simp only [decide_eq_true_eq]
  timed operation := by
    have hbefore := h.timed operation
    simp only [TextMap.contains] at hbefore ⊢
    rw [Summary.observe, TextMap.get?_insert]
    by_cases ho : operation = o.operation
    · simp [ho]
    · have hne : ¬o.operation = operation := fun h' => ho h'.symm
      simp [ho, hne, hbefore]
  spread operation := by
    rw [spread_observe, h.spread, Observation.durationsOf_snoc, Spread.observeAll_append]
    by_cases ho : operation = o.operation
    · rw [if_pos ho, if_pos ho.symm]
      rfl
    · rw [if_neg ho, if_neg (Ne.symm ho)]
      rfl

/-- A summary of any observations tallies them. -/
theorem tallies_ofObservations (seen : List Observation) : Tallies (ofObservations seen) seen := by
  induction seen using List.reverseRecOn with
  | nil => exact tallies_empty
  | append_singleton seen o ih =>
    rw [ofObservations, List.foldl_append]
    exact ih.observe o

/-! ## Samples -/

/-- How the samples of a summary aggregate some observations: the totals are there for what was
observed, and count it; the buckets of an operation are there if it was observed, count the durations
that are not above their bounds, do not decrease, and end with the count; and the count, together
with the durations that are no numbers, is the sum of the totals over all outcomes. -/
structure Aggregates (s : Summary) (seen : List Observation) : Prop where
  present : ∀ operation outcome, (s.total? operation outcome).isSome = true ↔
    ∃ o ∈ seen, o.operation = operation ∧ o.outcome = outcome
  total : ∀ operation outcome n, s.total? operation outcome = some n →
    n = seen.countP fun o => o.operation = operation ∧ o.outcome = outcome
  timed : ∀ operation, s.durations.contains operation = true ↔ ∃ o ∈ seen, o.operation = operation
  count : ∀ operation, (s.spread operation).count +
    seen.countP (fun o => o.operation = operation ∧ o.duration = .real .nan) = s.attempts operation
  buckets : ∀ operation, (s.spread operation).buckets = durationBounds.map fun b =>
    (b.1, seen.countP fun o => o.operation = operation ∧ o.duration.le (.real b.2) = true)
  increase : ∀ operation, (s.spread operation).buckets.Pairwise fun a b => a.2 ≤ b.2
  last : ∀ operation,
    (s.spread operation).buckets.getLast? = some ("+Inf", (s.spread operation).count)

/-- Where durations are doubles, a summary that tallies some observations aggregates them. -/
theorem Tallies.aggregates (h : Tallies s seen) (hreal : ∀ o ∈ seen, ∃ x, o.duration = .real x) :
    Aggregates s seen := by
  have hdurations : ∀ operation, ∀ d ∈ durationsOf operation seen, ∃ x, d = .real x := by
    intro operation d hd
    obtain ⟨o, ho, rfl⟩ := List.mem_map.1 hd
    exact hreal o (List.mem_filter.1 ho |>.1)
  constructor
  case present =>
    intro operation outcome
    rw [h.total]
    dsimp only
    split
    · rename_i hn
      simpa [List.countP_eq_zero] using hn
    · rename_i hn
      simpa [List.countP_eq_zero] using hn
  case total =>
    intro operation outcome n hn
    rw [h.total] at hn
    exact ((Option.ite_none_left_eq_some).1 hn).2 |> Option.some.inj |>.symm
  case timed => exact h.timed
  case count =>
    intro operation
    have hcount := Spread.count_observeAll (hdurations operation)
    rw [Observation.length_durationsOf, List.count_eq_countP,
      Observation.countP_durationsOf] at hcount
    rw [h.spread, h.attempts, ← hcount]
    simp only [beq_iff_eq]
  case buckets =>
    intro operation
    rw [h.spread, Spread.buckets_observeAll (hdurations operation)]
    simp only [Observation.countP_durationsOf]
  case increase =>
    intro operation
    rw [h.spread]
    exact Spread.buckets_increase (hdurations operation)
  case last =>
    intro operation
    rw [h.spread]
    exact Spread.getLast?_buckets (hdurations operation)

end Summary
end ConnectionCatalog
