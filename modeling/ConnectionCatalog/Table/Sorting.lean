/-! # Table.Sorting — sorting by a comparison that may fail

Two items may have no order, and then sorting fails; a comparison may also answer in a
way that no order does.  So it is settled here which items are compared, and in which
order.

Runs of items that are in order already are found from the front, reversed where they
descend strictly, and made longer, if they are short, by putting in the items that
follow, each by halving.  Two runs that follow each other are merged, of more the two
that lie deepest in a division of all items into halves first.  A merge takes items one
by one; when one run goes first many times over, it is asked how far it does, by steps
that grow and then by halving.

Main statement: `sortBy_perm`; sorting neither loses nor adds an item.
-/

namespace ConnectionCatalog.Sorting

variable {α ε : Type}

/-! ## Runs -/

/-- Puts `x` into a list in order, after the items that are equal to it, by
halving at most `steps` times. -/
def insertHalvingIn (less : α → α → Except ε Bool) (x : α) :
    (steps : Nat) → List α → Except ε (List α)
  | 0, ys => .ok (ys ++ [x])
  | steps + 1, ys =>
    match ys.drop (ys.length / 2) with
    | [] => .ok (ys ++ [x])
    | y :: rest =>
      match less x y with
      | .error e => .error e
      | .ok true =>
        match insertHalvingIn less x steps (ys.take (ys.length / 2)) with
        | .error e => .error e
        | .ok front => .ok (front ++ y :: rest)
      | .ok false =>
        match insertHalvingIn less x steps rest with
        | .error e => .error e
        | .ok back => .ok (ys.take (ys.length / 2) ++ y :: back)

/-- Puts `x` into a list in order, after the items that are equal to it; every
halving leaves fewer items than before. -/
def insertHalving (less : α → α → Except ε Bool) (x : α) (ys : List α) :
    Except ε (List α) :=
  insertHalvingIn less x ys.length ys

/-- Follows a run: as long as comparing the next item with the last one gives
`down`, it is taken up.  The run is returned with its last item first. -/
def takeRun (less : α → α → Except ε Bool) (down : Bool) :
    List α → α → List α → Except ε (List α × List α)
  | run, last, [] => .ok (last :: run, [])
  | run, last, y :: ys =>
    match less y last with
    | .error e => .error e
    | .ok b =>
      if b = down then takeRun less down (last :: run) y ys else .ok (last :: run, y :: ys)

/-- The items at the front that are in order, put in ascending order, and the
rest. -/
def firstRun (less : α → α → Except ε Bool) : List α → Except ε (List α × List α)
  | [] => .ok ([], [])
  | [x] => .ok ([x], [])
  | x :: y :: ys =>
    match less y x with
    | .error e => .error e
    | .ok down =>
      match takeRun less down [x] y ys with
      | .error e => .error e
      | .ok (run, rest) => .ok (if down then run else run.reverse, rest)

/-- Puts items one after the other into a list in order. -/
def insertAll (less : α → α → Except ε Bool) : List α → List α → Except ε (List α)
  | sorted, [] => .ok sorted
  | sorted, x :: xs =>
    match insertHalving less x sorted with
    | .error e => .error e
    | .ok sorted => insertAll less sorted xs

/-- Halves a number until it is below 64; `left` becomes 1 if a half was not whole, and
is added. -/
def shortestRunFrom (left n : Nat) : Nat :=
  if n < 64 then n + left else shortestRunFrom (max left (n % 2)) (n / 2)
termination_by n

/-- Short runs are made as long as this, of so many items: all of them if they are few,
and else between 32 and 64, so that the number of runs is a power of two or little
less. -/
def shortestRun (n : Nat) : Nat := shortestRunFrom 0 n

/-- The items at the front in a run of a length at least, if there are so many, and the
rest. -/
def nextRun (less : α → α → Except ε Bool) (shortest : Nat) (xs : List α) :
    Except ε (List α × List α) :=
  match firstRun less xs with
  | .error e => .error e
  | .ok (run, rest) =>
    let owed := shortest - run.length
    match insertAll less run (rest.take owed) with
    | .error e => .error e
    | .ok run => .ok (run, rest.drop owed)

/-! ## Searching -/

/-- How many items from the front of a list are taken, between `lo` and `hi` of them, if
all that are come before all that are not; `half` is where a stretch is halved. -/
def searchBetween (taken : α → Except ε Bool) (half : Nat → Nat) (xs : List α) :
    (steps lo hi : Nat) → Except ε Nat
  | 0, _, hi => .ok hi
  | steps + 1, lo, hi =>
    match xs[lo + half (hi - lo)]? with
    | none => .ok hi
    | some x =>
      if hi ≤ lo then .ok hi
      else
        match taken x with
        | .error e => .error e
        | .ok true => searchBetween taken half xs steps (lo + half (hi - lo) + 1) hi
        | .ok false => searchBetween taken half xs steps lo (lo + half (hi - lo))

/-- Looks at the items 1, 3, 7 and so on, as long as they are taken; item `last` is, and
item `next` is the one to look at. -/
def leap (taken : α → Except ε Bool) (half : Nat → Nat) (xs : List α) :
    (steps last next : Nat) → Except ε Nat
  | 0, last, _ => .ok (last + 1)
  | steps + 1, last, next =>
    match xs[next]? with
    | none => searchBetween taken half xs xs.length (last + 1) xs.length
    | some x =>
      match taken x with
      | .error e => .error e
      | .ok true => leap taken half xs steps next (2 * next + 1)
      | .ok false => searchBetween taken half xs xs.length (last + 1) next

/-- How many items from the front of a list are taken. -/
def countTaken (taken : α → Except ε Bool) (half : Nat → Nat) (xs : List α) : Except ε Nat :=
  match xs with
  | [] => .ok 0
  | x :: _ =>
    match taken x with
    | .error e => .error e
    | .ok true => leap taken half xs xs.length 0 1
    | .ok false => .ok 0

/-- Where a stretch is halved in a list that runs forward. -/
def forwardHalf (n : Nat) : Nat := n / 2

/-- Where a stretch is halved in a list that was reversed. -/
def backwardHalf (n : Nat) : Nat := (n - 1) / 2

/-- An answer turned round. -/
def negated : Except ε Bool → Except ε Bool
  | .ok b => .ok !b
  | .error e => .error e

/-! ## Merging -/

/-- Two runs that are merged: what is left of the shorter and of the longer one, and
what was put out, the last item first. -/
structure Merging (α : Type) where
  short : List α
  long : List α
  out : List α

/-- How two runs are merged: whether an item of the longer run goes before one of the
shorter, where a stretch is halved, and which run is searched first. -/
structure Manner (α ε : Type) where
  longFirst : α → α → Except ε Bool
  half : Nat → Nat
  searchesShort : Bool

/-- A run that goes first so many times is searched, and searching goes on as long as it
finds so many. -/
def searchFrom : Nat := 7

namespace Merging

/-- Whether it is known where all that is left goes. -/
def isDone (m : Merging α) : Bool := m.short.length ≤ 1 || m.long.isEmpty

/-- All items, what is left at the end: the last item of the shorter run goes last. -/
def items (m : Merging α) : List α := m.out.reverse ++ (m.long ++ m.short)

def takeShort (n : Nat) (m : Merging α) : Merging α :=
  ⟨m.short.drop n, m.long, (m.short.take n).reverse ++ m.out⟩

def takeLong (n : Nat) (m : Merging α) : Merging α :=
  ⟨m.short, m.long.drop n, (m.long.take n).reverse ++ m.out⟩

/-- Takes items one by one until one run has gone first `limit` times in a row; `longs`
and `shorts` count how often the runs have. -/
def takeSingly (w : Manner α ε) (limit : Nat) :
    (steps longs shorts : Nat) → Merging α → Except ε (Merging α)
  | 0, _, _, m => .ok m
  | steps + 1, longs, shorts, m =>
    match m.long, m.short with
    | l :: _, s :: _ =>
      match w.longFirst l s with
      | .error e => .error e
      | .ok true =>
        let m := m.takeLong 1
        if m.isDone || limit ≤ longs + 1 then .ok m else m.takeSingly w limit steps (longs + 1) 0
      | .ok false =>
        let m := m.takeShort 1
        if m.isDone || limit ≤ shorts + 1 then .ok m else m.takeSingly w limit steps 0 (shorts + 1)
    | _, _ => .ok m

/-- Takes the items of the shorter run that go before the next one of the longer, and
says how many. -/
def searchShort (w : Manner α ε) (m : Merging α) : Except ε (Merging α × Nat) :=
  match m.long with
  | [] => .ok (m, 0)
  | l :: _ =>
    match countTaken (fun s => negated (w.longFirst l s)) w.half m.short with
    | .error e => .error e
    | .ok n => .ok (m.takeShort n, n)

/-- Takes the items of the longer run that go before the next one of the shorter, and
says how many. -/
def searchLong (w : Manner α ε) (m : Merging α) : Except ε (Merging α × Nat) :=
  match m.short with
  | [] => .ok (m, 0)
  | s :: _ =>
    match countTaken (fun l => w.longFirst l s) w.half m.long with
    | .error e => .error e
    | .ok n => .ok (m.takeLong n, n)

/-- Searches both runs, taking one item of the other run after each; says how many items
the searches found. -/
def searchBoth (w : Manner α ε) (m : Merging α) : Except ε (Merging α × Nat × Nat) :=
  match if w.searchesShort then m.searchShort w else m.searchLong w with
  | .error e => .error e
  | .ok (m, first) =>
    if m.isDone then .ok (m, first, 0)
    else
      let m := if w.searchesShort then m.takeLong 1 else m.takeShort 1
      if m.isDone then .ok (m, first, 0)
      else
        match if w.searchesShort then m.searchLong w else m.searchShort w with
        | .error e => .error e
        | .ok (m, second) =>
          if m.isDone then .ok (m, first, second)
          else .ok (if w.searchesShort then m.takeShort 1 else m.takeLong 1, first, second)

/-- Searches as long as that finds much; each time, less is asked of a run to be searched
again. -/
def takeBySearch (w : Manner α ε) :
    (steps limit : Nat) → Merging α → Except ε (Merging α × Nat)
  | 0, limit, m => .ok (m, limit)
  | steps + 1, limit, m =>
    let limit := if 1 < limit then limit - 1 else limit
    match m.searchBoth w with
    | .error e => .error e
    | .ok (m, first, second) =>
      if m.isDone then .ok (m, limit)
      else if first < searchFrom ∧ second < searchFrom then .ok (m, limit + 1)
      else m.takeBySearch w steps limit

/-- Merges two runs; `limit` says how often a run has to go first to be searched, and is
returned as it has become. -/
def finish (w : Manner α ε) : (steps limit : Nat) → Merging α → Except ε (Merging α × Nat)
  | 0, limit, m => .ok (m, limit)
  | steps + 1, limit, m =>
    if m.isDone then .ok (m, limit)
    else
      match m.takeSingly w limit (m.short.length + m.long.length) 0 0 with
      | .error e => .error e
      | .ok m =>
        if m.isDone then .ok (m, limit)
        else
          match m.takeBySearch w (m.short.length + m.long.length) (limit + 1) with
          | .error e => .error e
          | .ok (m, limit) => m.finish w steps limit

end Merging

/-- Merges what is left of two runs, from the front if the first one is not longer, and
else from the end. -/
def mergeRest (less : α → α → Except ε Bool) (limit : Nat) (xs ys : List α) :
    Except ε (List α × Nat) :=
  if xs.length ≤ ys.length then
    let m : Merging α := ⟨xs, ys.drop 1, (ys.take 1)⟩
    match m.finish ⟨less, forwardHalf, true⟩ (xs.length + ys.length) limit with
    | .error e => .error e
    | .ok (m, limit) => .ok (m.items, limit)
  else
    let m : Merging α := ⟨ys.reverse, xs.reverse.drop 1, xs.reverse.take 1⟩
    match m.finish ⟨fun x y => less y x, backwardHalf, false⟩ (xs.length + ys.length) limit with
    | .error e => .error e
    | .ok (m, limit) => .ok (m.items.reverse, limit)

/-- Merges two runs.  What comes first in the first one and last in the second one stays
where it is. -/
def merge (less : α → α → Except ε Bool) (limit : Nat) (xs ys : List α) :
    Except ε (List α × Nat) :=
  match ys with
  | [] => .ok (xs, limit)
  | y :: _ =>
    match countTaken (fun x => negated (less y x)) forwardHalf xs with
    | .error e => .error e
    | .ok n =>
      match (xs.drop n).getLast? with
      | none => .ok (xs ++ ys, limit)
      | some x =>
        match countTaken (fun y => negated (less y x)) backwardHalf ys.reverse with
        | .error e => .error e
        | .ok k =>
          let inner := ys.take (ys.length - k)
          if inner.isEmpty then .ok (xs ++ ys, limit)
          else
            match mergeRest less limit (xs.drop n) inner with
            | .error e => .error e
            | .ok (zs, limit) => .ok (xs.take n ++ zs ++ ys.drop (ys.length - k), limit)

/-! ## Runs that wait -/

/-- A run with the number of items before it, and how deep the border to the next run
lies in a division of all items into halves. -/
structure Run (α : Type) where
  start : Nat
  items : List α
  depth : Nat

/-- How deep the border between two runs lies in a division of `n` items into halves;
`a` and `b` are the doubled middles of the runs. -/
def borderDepth (n : Nat) : (steps a b : Nat) → Nat
  | 0, _, _ => 1
  | steps + 1, a, b =>
    if n ≤ a then 1 + borderDepth n steps (2 * (a - n)) (2 * (b - n))
    else if n ≤ b then 1
    else 1 + borderDepth n steps (2 * a) (2 * b)

/-- Merges a run with those before it as long as their borders lie deeper than `depth`;
the runs before it come last first. -/
def mergeDeeper (less : α → α → Except ε Bool) (depth limit : Nat) (run : Run α) :
    List (Run α) → Except ε (Run α × List (Run α) × Nat)
  | [] => .ok (run, [], limit)
  | before :: rest =>
    if depth < before.depth then
      match merge less limit before.items run.items with
      | .error e => .error e
      | .ok (items, limit) => mergeDeeper less depth limit ⟨before.start, items, before.depth⟩ rest
    else .ok (run, before :: rest, limit)

/-- Merges all runs, the last two or, if the last is longer than the third last, the two
before it. -/
def mergeAll (less : α → α → Except ε Bool) (limit : Nat) (run : Run α) :
    List (Run α) → Except ε (List α)
  | [] => .ok run.items
  | [before] =>
    match merge less limit before.items run.items with
    | .error e => .error e
    | .ok (items, _) => .ok items
  | before :: third :: rest =>
    if third.items.length < run.items.length then
      match merge less limit third.items before.items with
      | .error e => .error e
      | .ok (items, limit) => mergeAll less limit run (⟨third.start, items, third.depth⟩ :: rest)
    else
      match merge less limit before.items run.items with
      | .error e => .error e
      | .ok (items, limit) =>
        mergeAll less limit ⟨before.start, items, before.depth⟩ (third :: rest)
termination_by runs => runs.length

/-- Finds the runs in the items that are left and merges them with those that wait. -/
def sortRuns (less : α → α → Except ε Bool) (n : Nat) :
    (steps limit : Nat) → Run α → List (Run α) → List α → Except ε (List α)
  | _, limit, run, runs, [] => mergeAll less limit run runs
  | 0, limit, run, runs, x :: xs => mergeAll less limit run (⟨run.start, x :: xs, 0⟩ :: runs)
  | steps + 1, limit, run, runs, x :: xs =>
    match nextRun less (shortestRun n) (x :: xs) with
    | .error e => .error e
    | .ok (items, rest) =>
      let a := 2 * run.start + run.items.length
      let depth := borderDepth n n a (a + run.items.length + items.length)
      match mergeDeeper less depth limit run runs with
      | .error e => .error e
      | .ok (run, runs, limit) =>
        sortRuns less n steps limit ⟨run.start + run.items.length, items, 0⟩
          ({ run with depth } :: runs) rest

/-- The items in ascending order. -/
def sortBy (less : α → α → Except ε Bool) (xs : List α) : Except ε (List α) :=
  match nextRun less (shortestRun xs.length) xs with
  | .error e => .error e
  | .ok (items, rest) => sortRuns less xs.length xs.length searchFrom ⟨0, items, 0⟩ [] rest

/-! ## Sorting permutes -/

theorem insertHalvingIn_perm {less : α → α → Except ε Bool} {x : α} {steps : Nat}
    {ys zs : List α} (h : insertHalvingIn less x steps ys = .ok zs) : zs.Perm (x :: ys) := by
  induction steps generalizing ys zs with
  | zero =>
    cases h
    exact List.perm_append_comm
  | succ steps ih =>
    unfold insertHalvingIn at h
    split at h
    · cases h
      exact List.perm_append_comm
    · rename_i y rest hdrop
      have hys : ys = ys.take (ys.length / 2) ++ y :: rest := by
        rw [← hdrop, List.take_append_drop]
      split at h
      · cases h
      · split at h
        · cases h
        · rename_i front hfront
          cases h
          calc front ++ y :: rest
            _ |>.Perm (x :: ys.take (ys.length / 2) ++ y :: rest) := (ih hfront).append_right _
            _ |>.Perm (x :: ys) := by rw [List.cons_append, ← hys]
      · split at h
        · cases h
        · rename_i back hback
          cases h
          calc ys.take (ys.length / 2) ++ y :: back
            _ |>.Perm (ys.take (ys.length / 2) ++ y :: x :: rest) :=
              ((ih hback).cons y).append_left _
            _ |>.Perm (x :: (ys.take (ys.length / 2) ++ y :: rest)) :=
              ((List.Perm.swap x y rest).append_left _).trans List.perm_middle
            _ |>.Perm (x :: ys) := by rw [← hys]

theorem takeRun_perm {less : α → α → Except ε Bool} {down : Bool} {run ys zs rest : List α}
    {last : α} (h : takeRun less down run last ys = .ok (zs, rest)) :
    (zs ++ rest).Perm (run ++ last :: ys) := by
  induction ys generalizing run last with
  | nil =>
    cases h
    have : ([last] ++ run).Perm (run ++ [last]) := List.perm_append_comm
    simpa using this
  | cons y ys ih =>
    unfold takeRun at h
    split at h
    · cases h
    · split at h
      · exact (ih h).trans List.perm_middle.symm
      · cases h
        exact List.perm_middle.symm

theorem firstRun_perm {less : α → α → Except ε Bool} {xs run rest : List α}
    (h : firstRun less xs = .ok (run, rest)) : (run ++ rest).Perm xs := by
  unfold firstRun at h
  split at h
  · cases h
    exact .nil
  · cases h
    exact .refl _
  · split at h
    · cases h
    · split at h
      · cases h
      · rename_i taken left htaken
        cases h
        refine List.Perm.trans (List.Perm.append_right _ ?_) (takeRun_perm htaken)
        split
        · exact .refl _
        · exact List.reverse_perm _

theorem insertAll_perm {less : α → α → Except ε Bool} {sorted xs zs : List α}
    (h : insertAll less sorted xs = .ok zs) : zs.Perm (sorted ++ xs) := by
  induction xs generalizing sorted with
  | nil =>
    cases h
    simp
  | cons x xs ih =>
    unfold insertAll at h
    split at h
    · cases h
    · rename_i next hnext
      exact (ih h).trans (((insertHalvingIn_perm hnext).append_right xs).trans
        List.perm_middle.symm)

theorem nextRun_perm {less : α → α → Except ε Bool} {shortest : Nat} {xs run rest : List α}
    (h : nextRun less shortest xs = .ok (run, rest)) : (run ++ rest).Perm xs := by
  unfold nextRun at h
  split at h
  · cases h
  · rename_i first left hfirst
    dsimp only at h
    split at h
    · cases h
    · rename_i longer hlonger
      cases h
      refine ((insertAll_perm hlonger).append_right _).trans ?_
      rw [List.append_assoc, List.take_append_drop]
      exact firstRun_perm hfirst

namespace Merging

theorem takeShort_perm (n : Nat) (m : Merging α) : (m.takeShort n).items.Perm m.items := by
  have h : m.short = m.short.take n ++ m.short.drop n := (List.take_append_drop n _).symm
  unfold items takeShort
  simp only [List.reverse_append, List.reverse_reverse, List.append_assoc]
  refine List.Perm.append_left _ ?_
  calc m.short.take n ++ (m.long ++ m.short.drop n)
    _ |>.Perm (m.long ++ (m.short.take n ++ m.short.drop n)) := by
      rw [← List.append_assoc, ← List.append_assoc]
      exact List.perm_append_comm.append_right _
    _ |>.Perm (m.long ++ m.short) := by rw [← h]

theorem takeLong_perm (n : Nat) (m : Merging α) : (m.takeLong n).items.Perm m.items := by
  unfold items takeLong
  simp only [List.reverse_append, List.reverse_reverse, List.append_assoc]
  rw [← List.append_assoc (m.long.take n), List.take_append_drop]

theorem takeSingly_perm {w : Manner α ε} {limit steps longs shorts : Nat} {m m' : Merging α}
    (h : m.takeSingly w limit steps longs shorts = .ok m') : m'.items.Perm m.items := by
  induction steps generalizing longs shorts m with
  | zero =>
    cases h
    exact .refl _
  | succ steps ih =>
    unfold takeSingly at h
    split at h
    · split at h
      · cases h
      · dsimp only at h
        split at h
        · cases h
          exact takeLong_perm 1 m
        · exact (ih h).trans (takeLong_perm 1 m)
      · dsimp only at h
        split at h
        · cases h
          exact takeShort_perm 1 m
        · exact (ih h).trans (takeShort_perm 1 m)
    · cases h
      exact .refl _

theorem searchShort_perm {w : Manner α ε} {m m' : Merging α} {n : Nat}
    (h : m.searchShort w = .ok (m', n)) : m'.items.Perm m.items := by
  unfold searchShort at h
  split at h
  · cases h
    exact .refl _
  · split at h
    · cases h
    · cases h
      exact takeShort_perm _ m

theorem searchLong_perm {w : Manner α ε} {m m' : Merging α} {n : Nat}
    (h : m.searchLong w = .ok (m', n)) : m'.items.Perm m.items := by
  unfold searchLong at h
  split at h
  · cases h
    exact .refl _
  · split at h
    · cases h
    · cases h
      exact takeLong_perm _ m

/-- The first step of `searchBoth_perm`, whichever run is searched first. -/
theorem searchEither_perm {w : Manner α ε} {b : Bool} {m m' : Merging α} {n : Nat}
    (h : (if b then m.searchShort w else m.searchLong w) = .ok (m', n)) :
    m'.items.Perm m.items := by
  cases b
  · exact searchLong_perm h
  · exact searchShort_perm h

theorem searchBoth_perm {w : Manner α ε} {m m' : Merging α} {first second : Nat}
    (h : m.searchBoth w = .ok (m', first, second)) : m'.items.Perm m.items := by
  unfold searchBoth at h
  generalize hs : (if w.searchesShort then m.searchShort w else m.searchLong w) = found at h
  cases found with
  | error e => cases h
  | ok found =>
    obtain ⟨m₁, n₁⟩ := found
    have h₁ := searchEither_perm hs
    dsimp only at h
    generalize w.searchesShort = b at h
    split at h
    · cases h
      exact h₁
    · have h₂ : (if b then m₁.takeLong 1 else m₁.takeShort 1).items.Perm m₁.items := by
        cases b
        · exact takeShort_perm 1 m₁
        · exact takeLong_perm 1 m₁
      generalize (if b then m₁.takeLong 1 else m₁.takeShort 1) = m₂ at h h₂
      split at h
      · cases h
        exact h₂.trans h₁
      · generalize hf : (if b then m₂.searchLong w else m₂.searchShort w) = found at h
        cases found with
        | error e => cases h
        | ok found =>
          obtain ⟨m₃, n₃⟩ := found
          have h₃ : m₃.items.Perm m₂.items := by
            cases b
            · exact searchShort_perm hf
            · exact searchLong_perm hf
          dsimp only at h
          split at h
          · cases h
            exact h₃.trans (h₂.trans h₁)
          · have h₄ : (if b then m₃.takeShort 1 else m₃.takeLong 1).items.Perm m₃.items := by
              cases b
              · exact takeLong_perm 1 m₃
              · exact takeShort_perm 1 m₃
            cases h
            exact h₄.trans (h₃.trans (h₂.trans h₁))

theorem takeBySearch_perm {w : Manner α ε} {steps limit limit' : Nat} {m m' : Merging α}
    (h : m.takeBySearch w steps limit = .ok (m', limit')) : m'.items.Perm m.items := by
  induction steps generalizing limit m with
  | zero =>
    cases h
    exact .refl _
  | succ steps ih =>
    unfold takeBySearch at h
    dsimp only at h
    split at h
    · cases h
    · rename_i m₁ first second h₁
      split at h
      · cases h
        exact searchBoth_perm h₁
      · split at h
        · cases h
          exact searchBoth_perm h₁
        · exact (ih h).trans (searchBoth_perm h₁)

theorem finish_perm {w : Manner α ε} {steps limit limit' : Nat} {m m' : Merging α}
    (h : m.finish w steps limit = .ok (m', limit')) : m'.items.Perm m.items := by
  induction steps generalizing limit m with
  | zero =>
    cases h
    exact .refl _
  | succ steps ih =>
    unfold finish at h
    split at h
    · cases h
      exact .refl _
    · split at h
      · cases h
      · rename_i m₁ h₁
        split at h
        · cases h
          exact takeSingly_perm h₁
        · split at h
          · cases h
          · rename_i m₂ limit₂ h₂
            exact (ih h).trans ((takeBySearch_perm h₂).trans (takeSingly_perm h₁))

end Merging

theorem mergeRest_perm {less : α → α → Except ε Bool} {limit limit' : Nat} {xs ys zs : List α}
    (h : mergeRest less limit xs ys = .ok (zs, limit')) : zs.Perm (xs ++ ys) := by
  unfold mergeRest at h
  split at h
  · dsimp only at h
    split at h
    · cases h
    · rename_i m limit₁ hm
      cases h
      refine (Merging.finish_perm hm).trans ?_
      show ((ys.take 1).reverse ++ (ys.drop 1 ++ xs)).Perm (xs ++ ys)
      refine ((List.reverse_perm _).append_right _).trans ?_
      rw [← List.append_assoc, List.take_append_drop]
      exact List.perm_append_comm
  · dsimp only at h
    split at h
    · cases h
    · rename_i m limit₁ hm
      cases h
      refine (List.reverse_perm _).trans ((Merging.finish_perm hm).trans ?_)
      show ((xs.reverse.take 1).reverse ++ (xs.reverse.drop 1 ++ ys.reverse)).Perm (xs ++ ys)
      refine ((List.reverse_perm _).append_right _).trans ?_
      rw [← List.append_assoc, List.take_append_drop]
      exact (List.reverse_perm xs).append (List.reverse_perm ys)

theorem merge_perm {less : α → α → Except ε Bool} {limit limit' : Nat} {xs ys zs : List α}
    (h : merge less limit xs ys = .ok (zs, limit')) : zs.Perm (xs ++ ys) := by
  unfold merge at h
  split at h
  · cases h
    simp
  · rename_i y ys'
    split at h
    · cases h
    · rename_i n _
      split at h
      · cases h
        exact .refl _
      · split at h
        · cases h
        · rename_i k _
          dsimp only at h
          split at h
          · cases h
            exact .refl _
          · split at h
            · cases h
            · rename_i inner limit₁ hinner
              cases h
              generalize (y :: ys').length - k = j at hinner ⊢
              calc xs.take n ++ inner ++ (y :: ys').drop j
                _ |>.Perm (xs.take n ++ (xs.drop n ++ (y :: ys').take j) ++ (y :: ys').drop j) :=
                  ((mergeRest_perm hinner).append_left _).append_right _
                _ |>.Perm (xs ++ (y :: ys')) := by
                  rw [← List.append_assoc, List.take_append_drop, List.append_assoc,
                    List.take_append_drop]

/-- The items of runs of which the last comes first. -/
def waiting (runs : List (Run α)) : List α := (runs.reverse.map Run.items).flatten

@[simp] theorem waiting_nil : waiting ([] : List (Run α)) = [] := rfl

@[simp] theorem waiting_cons (run : Run α) (runs : List (Run α)) :
    waiting (run :: runs) = waiting runs ++ run.items := by
  simp [waiting]

theorem mergeDeeper_perm {less : α → α → Except ε Bool} {depth limit limit' : Nat}
    {run run' : Run α} {runs runs' : List (Run α)}
    (h : mergeDeeper less depth limit run runs = .ok (run', runs', limit')) :
    (waiting runs' ++ run'.items).Perm (waiting runs ++ run.items) := by
  induction runs generalizing run limit with
  | nil =>
    cases h
    exact .refl _
  | cons before rest ih =>
    unfold mergeDeeper at h
    split at h
    · split at h
      · cases h
      · rename_i items limit₁ hitems
        refine (ih h).trans ?_
        rw [waiting_cons, List.append_assoc]
        exact (merge_perm hitems).append_left _
    · cases h
      exact .refl _

theorem mergeAll_perm {less : α → α → Except ε Bool} {limit : Nat} {run : Run α}
    {runs : List (Run α)} {zs : List α} (h : mergeAll less limit run runs = .ok zs) :
    zs.Perm (waiting runs ++ run.items) := by
  fun_induction mergeAll less limit run runs with
  | case1 => cases h; simp
  | case2 => cases h
  | case3 limit run before items limit₁ hitems =>
    cases h
    simpa using merge_perm hitems
  | case4 => cases h
  | case5 limit run before third rest _ items limit₁ hitems ih =>
    refine (ih h).trans ?_
    simp only [waiting_cons, List.append_assoc]
    refine List.Perm.append_left _ ?_
    rw [← List.append_assoc]
    exact (merge_perm hitems).append_right _
  | case6 => cases h
  | case7 limit run before third rest _ items limit₁ hitems ih =>
    refine (ih h).trans ?_
    simp only [waiting_cons, List.append_assoc]
    exact ((merge_perm hitems).append_left _).append_left _

theorem sortRuns_perm {less : α → α → Except ε Bool} {n steps limit : Nat} {run : Run α}
    {runs : List (Run α)} {xs zs : List α} (h : sortRuns less n steps limit run runs xs = .ok zs) :
    zs.Perm (waiting runs ++ run.items ++ xs) := by
  induction steps generalizing limit run runs xs with
  | zero =>
    cases xs with
    | nil => simpa using mergeAll_perm h
    | cons x xs =>
      refine (mergeAll_perm h).trans ?_
      rw [waiting_cons, List.append_assoc, List.append_assoc]
      exact List.perm_append_comm.append_left _
  | succ steps ih =>
    cases xs with
    | nil => simpa using mergeAll_perm h
    | cons x xs =>
      unfold sortRuns at h
      split at h
      · cases h
      · rename_i items rest hitems
        dsimp only at h
        split at h
        · cases h
        · rename_i run₁ runs₁ limit₁ hrun
          refine (ih h).trans ?_
          rw [waiting_cons]
          dsimp only
          rw [List.append_assoc]
          exact (mergeDeeper_perm hrun).append (nextRun_perm hitems)

/-- What sorting returns is a permutation of what it was given. -/
theorem sortBy_perm {less : α → α → Except ε Bool} {xs zs : List α}
    (h : sortBy less xs = .ok zs) : zs.Perm xs := by
  unfold sortBy at h
  split at h
  · cases h
  · rename_i items rest hitems
    exact (sortRuns_perm h).trans (by simpa using nextRun_perm hitems)

end ConnectionCatalog.Sorting
