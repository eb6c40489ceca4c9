import ConnectionCatalog.Metrics
import Mathlib.Data.List.Induction

/-! # Proofs.Metrics.Spread — how durations spread over the bounds

A spread counts each duration once, at the first bound that is not below it.  What it shows are
running sums, in which a duration counts at every bound that is not below it, because the bounds
increase.

* `runningFrom_countAt`: what one more duration does to the running sums.
* `buckets_observeAll`: the buckets after durations of any number, by induction over them.
* `buckets_increase` and `getLast?_buckets`: they do not decrease, and the last one has the count.
-/

namespace ConnectionCatalog

/-- The bounds increase. -/
theorem durationBounds_increase : durationBounds.Pairwise fun a b => a.2.le b.2 = true := by
  decide +kernel

namespace Spread

/-! ## Running sums -/

theorem runningFrom_succ (seen : Nat) (counts : List Nat) :
    runningFrom (seen + 1) counts = (runningFrom seen counts).map (· + 1) := by
  induction counts generalizing seen with
  | nil => rfl
  | cons n counts ih =>
    have hseen : seen + 1 + n = seen + n + 1 := Nat.add_right_comm seen 1 n
    rw [runningFrom, hseen, ih, runningFrom, List.map_cons]

/-- The last running sum is the sum of all. -/
theorem getLast?_runningFrom {counts : List Nat} (h : counts ≠ []) (seen : Nat) :
    (runningFrom seen counts).getLast? = some (counts.foldl Nat.add seen) := by
  induction counts generalizing seen with
  | nil => exact absurd rfl h
  | cons n counts ih =>
    cases counts with
    | nil => rfl
    | cons m counts =>
      have hrest := ih (List.cons_ne_nil m counts) (seen + n)
      rw [runningFrom, List.foldl_cons]
      exact (List.getLast?_cons_cons ..).trans hrest

/-- A duration that is counted once, at its bound, adds one to the running sums of all bounds that
are not below it. -/
theorem runningFrom_countAt {bounds : List Double} {counts : List Nat} {seen : Nat}
    {running : Double → Nat} (hbounds : bounds.Pairwise fun a b => a.le b = true) (d : Double)
    (h : runningFrom seen counts = bounds.map running) :
    runningFrom seen (countAt (.real d) bounds counts) =
      bounds.map fun bound => running bound + if d.le bound then 1 else 0 := by
  induction bounds generalizing seen counts with
  | nil =>
    cases counts with
    | nil => rfl
    | cons n counts => cases h
  | cons bound bounds ih =>
    obtain ⟨hbound, hbounds⟩ := List.pairwise_cons.1 hbounds
    cases counts with
    | nil => cases h
    | cons n counts =>
      obtain ⟨hhead, htail⟩ := List.cons.inj h
      rw [countAt, Number.real_le_real, List.map_cons, ← hhead]
      by_cases hd : d.le bound = true
      · -- a duration that is not above one bound is not above any later one
        have hall : bounds.map (fun b => running b + if d.le b then 1 else 0) =
            bounds.map fun b => running b + 1 := by
          refine List.map_congr_left fun b hb => ?_
          rw [if_pos (Double.le_trans hd (hbound b hb))]
        rw [if_pos hd, if_pos hd, hall, runningFrom, ← Nat.add_assoc, runningFrom_succ, htail,
          List.map_map]
        rfl
      · rw [if_neg hd, if_neg hd, runningFrom, ih hbounds htail]
        rfl

/-! ## Durations, one after the other -/

/-- Counts some durations. -/
def observeAll (durations : List Number) (s : Spread) : Spread := durations.foldl observe s

theorem observeAll_append (durations more : List Number) (s : Spread) :
    observeAll (durations ++ more) s = observeAll more (observeAll durations s) :=
  List.foldl_append

/-- The running sums after some durations: at each bound the number of those that are not above
it. -/
theorem running_observeAll {durations : List Number} (h : ∀ d ∈ durations, ∃ x, d = .real x) :
    runningFrom 0 (observeAll durations empty).counts =
      (durationBounds.map (·.2)).map fun bound => durations.countP fun d => d.le (.real bound) := by
  induction durations using List.reverseRecOn with
  | nil => rfl
  | append_singleton durations d ih =>
    obtain ⟨hdurations, hd⟩ := List.forall_mem_append.1 h
    obtain ⟨x, rfl⟩ := hd d List.mem_cons_self
    have hcounts : (observeAll (durations ++ [.real x]) empty).counts =
        countAt (.real x) (durationBounds.map (·.2)) (observeAll durations empty).counts := by
      rw [observeAll_append]
      rfl
    -- the new duration counts once in all buckets from the first that holds it on
    rw [hcounts, runningFrom_countAt (List.pairwise_map.2 durationBounds_increase) x
      (ih hdurations)]
    refine List.map_congr_left fun bound _ => ?_
    rw [List.countP_append, List.countP_singleton, Number.real_le_real]

/-- The buckets after some durations: each bound with the number of those that are not above it. -/
theorem buckets_observeAll {durations : List Number} (h : ∀ d ∈ durations, ∃ x, d = .real x) :
    (observeAll durations empty).buckets =
      durationBounds.map fun b => (b.1, durations.countP fun d => d.le (.real b.2)) := by
  rw [buckets, running_observeAll h, List.map_map, List.zip_map']
  rfl

/-- The buckets do not decrease. -/
theorem buckets_increase {durations : List Number} (h : ∀ d ∈ durations, ∃ x, d = .real x) :
    (observeAll durations empty).buckets.Pairwise fun a b => a.2 ≤ b.2 := by
  rw [buckets_observeAll h, List.pairwise_map]
  refine durationBounds_increase.imp ?_
  intro a b hab
  refine List.countP_mono_left ?_
  intro d hd hle
  obtain ⟨x, rfl⟩ := h d hd
  rw [Number.real_le_real] at hle ⊢
  exact Double.le_trans hle hab

/-- The last bucket has the count. -/
theorem getLast?_buckets {durations : List Number} (h : ∀ d ∈ durations, ∃ x, d = .real x) :
    (observeAll durations empty).buckets.getLast? =
      some ("+Inf", (observeAll durations empty).count) := by
  have hrunning := running_observeAll h
  have hcounts : (observeAll durations empty).counts ≠ [] := by
    intro hcounts
    rw [hcounts] at hrunning
    cases hrunning
  have hlast := getLast?_runningFrom hcounts 0
  rw [hrunning] at hlast
  rw [buckets_observeAll h]
  exact congrArg (Option.map fun n => ("+Inf", n)) hlast

/-- Every duration that is a number is counted. -/
theorem count_observeAll {durations : List Number} (h : ∀ d ∈ durations, ∃ x, d = .real x) :
    (observeAll durations empty).count + durations.count (.real .nan) = durations.length := by
  have hlast := getLast?_buckets h
  rw [buckets_observeAll h, List.getLast?_map] at hlast
  have hcount : (observeAll durations empty).count =
      durations.countP fun d => d.le (.real (.infinite false)) :=
    (congrArg Prod.snd (Option.some.inj hlast)).symm
  rw [hcount, List.length_eq_countP_add_countP fun d => d.le (.real (.infinite false))]
  congr 1
  rw [List.count_eq_countP]
  refine List.countP_congr ?_
  intro d hd
  obtain ⟨x, rfl⟩ := h d hd
  rw [Number.real_le_real, decide_eq_true_eq, Double.le_infinite_iff, not_not, beq_iff_eq,
    Number.real.injEq]

end Spread
end ConnectionCatalog
