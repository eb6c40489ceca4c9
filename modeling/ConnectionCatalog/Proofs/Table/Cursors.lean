import ConnectionCatalog.Proofs.Store.Atomicity
import ConnectionCatalog.Proofs.Table.Contract

/-! # Proofs.Table.Cursors — what the cursors of a table hand out

Any number of cursors are open at a time, and clients pull rows from them, close them and go on
calling the table in between.  A cursor is a matter between the scan that opened it and its own
pulls: it hands out the rows that were selected, and has nothing more to give once it was closed.

* `Register`: where a table keeps its cursors, and what its calls do to them.
* `Register.cursor?_after`: a step does to a cursor what it pulls from it, and nothing else;
  `Register.answers_run` carries this through all steps.
* `Cursor.answers_open`: what an open cursor gives, pull by pull.
* `cursors_hand_out_selected`: what follows for tables in memory and of a database.
-/

namespace ConnectionCatalog

open Sql

/-! ## Pulls -/

/-- What a client may do to a cursor. -/
inductive Pull
  | next
  | close
deriving DecidableEq, Repr

namespace Pull

/-- How many rows are asked for before a cursor is closed. -/
def asked (pulls : List Pull) : Nat := (pulls.takeWhile fun p => p = .next).length

/-- What is given for some pulls of a cursor over rows: a row for each that is asked for before the
cursor is closed, as long as there are rows, and from then on nothing. -/
def handedOut (rows : List Row) (pulls : List Pull) : List (Option Row) :=
  (rows.take (asked pulls)).map some ++
    List.replicate (pulls.count .next - (rows.take (asked pulls)).length) none

variable {rows : List Row} {row : Row} {pulls : List Pull}

@[simp] theorem asked_next : asked (.next :: pulls) = asked pulls + 1 := rfl

@[simp] theorem asked_close : asked (.close :: pulls) = 0 := rfl

theorem handedOut_close :
    handedOut rows (.close :: pulls) = List.replicate (pulls.count .next) none := by
  simp [handedOut]

theorem handedOut_next_cons :
    handedOut (row :: rows) (.next :: pulls) = some row :: handedOut rows pulls := by
  simp [handedOut]

theorem handedOut_nil : handedOut [] pulls = List.replicate (pulls.count .next) none := by
  simp [handedOut]

end Pull

namespace Cursor

/-- A pull of a cursor: what is given for it, and the cursor after it. -/
def pull (c : Cursor) : Pull → List (Option Row) × Cursor
  | .next => ([c.next.1], c.next.2)
  | .close => ([], c.close)

/-- What a cursor gives, pull by pull. -/
def answers : List Pull → Cursor → List (Option Row)
  | [], _ => []
  | p :: pulls, c => (c.pull p).1 ++ answers pulls (c.pull p).2

/-- A cursor after some pulls. -/
def pulled (pulls : List Pull) (c : Cursor) : Cursor := pulls.foldl (fun c p => (c.pull p).2) c

variable {c : Cursor}

@[simp] theorem pulled_cons (p : Pull) (pulls : List Pull) (c : Cursor) :
    c.pulled (p :: pulls) = (c.pull p).2.pulled pulls := rfl

/-! ### Closed cursors -/

theorem close_of_closed (h : c.closed = true) : c.close = c := by
  obtain ⟨rest, closed, closesAtEnd⟩ := c
  rw [close]
  exact congrArg (Cursor.mk rest · closesAtEnd) h.symm

theorem pull_of_closed (h : c.closed = true) (p : Pull) : (c.pull p).2 = c := by
  cases p with
  | next => simp [pull, next, h]
  | close => exact close_of_closed h

/-- A closed cursor never opens again. -/
theorem pulled_of_closed (h : c.closed = true) (pulls : List Pull) : c.pulled pulls = c := by
  induction pulls with
  | nil => rfl
  | cons p pulls ih =>
    rw [pulled_cons, pull_of_closed h, ih]

theorem closed_pulled (pulls : List Pull) (rows : List Row) (closesAtEnd : Bool) :
    (pulled pulls ⟨rows, true, closesAtEnd⟩).closed = true := by
  rw [pulled_of_closed rfl]

/-- A closed cursor only reports that there is nothing more. -/
theorem answers_of_closed (h : c.closed = true) (pulls : List Pull) :
    c.answers pulls = List.replicate (pulls.count .next) none := by
  induction pulls with
  | nil => rfl
  | cons p pulls ih =>
    rw [answers, pull_of_closed h, ih]
    cases p with
    | next => simp [pull, next, h, List.replicate_succ]
    | close => simp [pull]

/-! ### Open cursors -/

/-- An open cursor gives its rows in order, as long as it is asked and not closed. -/
theorem answers_open (rows : List Row) (closesAtEnd : Bool) (pulls : List Pull) :
    answers pulls ⟨rows, false, closesAtEnd⟩ = Pull.handedOut rows pulls := by
  induction pulls generalizing rows with
  | nil => simp [answers, Pull.handedOut, Pull.asked]
  | cons p pulls ih =>
    cases p with
    | close =>
      rw [answers, Pull.handedOut_close]
      exact answers_of_closed rfl pulls
    | next =>
      cases rows with
      | cons row rows =>
        rw [answers, Pull.handedOut_next_cons, ← ih rows]
        rfl
      | nil =>
        rw [answers, Pull.handedOut_nil, List.count_cons_self, List.replicate_succ]
        refine congrArg (none :: ·) ?_
        -- at the end the cursor is closed, or stays open without rows
        cases closesAtEnd with
        | true => exact answers_of_closed rfl pulls
        | false => exact (ih []).trans Pull.handedOut_nil

/-- A cursor that closes at its end is closed as soon as it was closed, or asked for more rows than
it has. -/
theorem closed_pulled_iff (rows : List Row) (pulls : List Pull) :
    (pulled pulls ⟨rows, false, true⟩).closed = true ↔
      .close ∈ pulls ∨ rows.length < Pull.asked pulls := by
  induction pulls generalizing rows with
  | nil => simp [pulled, Pull.asked]
  | cons p pulls ih =>
    rw [pulled_cons]
    cases p with
    | close => simp [pull, close, closed_pulled]
    | next =>
      cases rows with
      | nil => simp [pull, next, close, closed_pulled]
      | cons row rows => simpa [pull, next] using ih rows

end Cursor

/-! ## Steps -/

/-- What clients may do to a table and its cursors: calls, pulls, and whatever else a table can be
arranged by. -/
inductive Handling (α : Type)
  | call (c : Call)
  | pull (n : Nat) (p : Pull)
  | arrange (a : α)

namespace Handling

variable {α : Type}

/-- What a step pulls from a cursor. -/
def pullOf (n : Nat) : Handling α → Option Pull
  | pull m p => if m = n then some p else none
  | _ => none

/-- Whether a step may change rows. -/
def writes : Handling α → Bool
  | call c => c.writes
  | pull .. => false
  | arrange _ => true

/-- The pulls of a cursor among some steps. -/
def pullsOf (n : Nat) (steps : List (Handling α)) : List Pull := steps.filterMap (pullOf n)

end Handling

/-- A table after a call, whether or not the call fails. -/
def Call.after {τ : Type} [RowStore τ] (table : τ) : Call → τ
  | upsert row => ((RowStore.upsert row).run table).2
  | read key => ((RowStore.read key).run table).2
  | delete key => ((RowStore.delete key).run table).2
  | scan pins limit => ((RowStore.scan ⟨pins⟩ limit).run table).2

/-- A pull of a cursor of a table; where there is no such cursor, nothing happens. -/
def RowStore.pull {τ : Type} [RowStore τ] (n : Nat) (p : Pull) (table : τ) :
    List (Option Row) × τ :=
  match cursor? table n with
  | some c => ((c.pull p).1, setCursor n (c.pull p).2 table)
  | none => ([], table)

/-- Where tables keep their cursors, and what happens to them: a scan that succeeds opens one, and
no other call and no arrangement has to do with them. -/
structure Register (τ α : Type) [RowStore τ] where
  cursors : τ → List Cursor
  arranged : α → τ → τ
  cursor?_eq (t : τ) (n : Nat) : RowStore.cursor? t n = (cursors t)[n]?
  setCursor (n : Nat) (c : Cursor) (t : τ) :
    cursors (RowStore.setCursor n c t) = (cursors t).set n c
  upsert (row : Row) (t : τ) : cursors ((RowStore.upsert row).run t).2 = cursors t
  read (key : Row) (t : τ) : cursors ((RowStore.read key).run t).2 = cursors t
  delete (key : Row) (t : τ) : cursors ((RowStore.delete key).run t).2 = cursors t
  scan_ok {t t' : τ} {range : Range} {limit : Option Int} {n : Nat} :
    (RowStore.scan range limit).run t = (.ok n, t') → n = (cursors t).length ∧
      ∃ rows closesAtEnd, cursors t' = cursors t ++ [⟨rows, false, closesAtEnd⟩]
  scan_error {t t' : τ} {range : Range} {limit : Option Int} {f : Failure} :
    (RowStore.scan range limit).run t = (.error f, t') → cursors t' = cursors t
  arranged_eq (a : α) (t : τ) : cursors (arranged a t) = cursors t

namespace Register

variable {τ α : Type} [RowStore τ] (R : Register τ α)

/-- A table after a step. -/
def after (t : τ) : Handling α → τ
  | .call c => c.after t
  | .pull n p => (RowStore.pull n p t).2
  | .arrange a => R.arranged a t

/-- A table after some steps. -/
def run (steps : List (Handling α)) (t : τ) : τ := steps.foldl R.after t

/-- What is given for the pulls of a cursor among some steps. -/
def answers (n : Nat) : List (Handling α) → τ → List (Option Row)
  | [], _ => []
  | h :: steps, t =>
    (match h.pullOf n with
      | some p => (RowStore.pull n p t).1
      | none => []) ++ answers n steps (R.after t h)

variable {R} {t : τ} {n : Nat} {c : Cursor}

/-- A call leaves the cursors that there are; at most it opens one more. -/
theorem prefix_call (R : Register τ α) (t : τ) (call : Call) :
    R.cursors t <+: R.cursors (call.after t) := by
  have hsame : ∀ {t' : τ}, R.cursors t' = R.cursors t → R.cursors t <+: R.cursors t' := by
    intro t' h
    exact ⟨[], by rw [h, List.append_nil]⟩
  cases call with
  | upsert row => exact hsame (R.upsert row t)
  | read key => exact hsame (R.read key t)
  | delete key => exact hsame (R.delete key t)
  | scan pins limit =>
    rw [Call.after]
    -- only a scan that succeeds opens a cursor, behind the others
    cases hscan : (RowStore.scan ⟨pins⟩ limit).run t with
    | mk r t' =>
      cases r with
      | error f => exact hsame (R.scan_error hscan)
      | ok n =>
        obtain ⟨-, rows, closesAtEnd, hcursors⟩ := R.scan_ok hscan
        rw [hcursors]
        exact List.prefix_append _ _

/-- A cursor is set by itself. -/
theorem cursor?_setCursor (R : Register τ α) (h : RowStore.cursor? t n = some c) (m : Nat)
    (d : Cursor) :
    RowStore.cursor? (RowStore.setCursor m d t) n = some (if m = n then d else c) := by
  rw [R.cursor?_eq] at h
  obtain ⟨hlength, -⟩ := List.getElem?_eq_some_iff.1 h
  rw [R.cursor?_eq, R.setCursor, List.getElem?_set]
  by_cases heq : m = n
  · subst heq
    simp [hlength]
  · simp [heq, h]

/-- A step does to a cursor what it pulls from it, and nothing else. -/
theorem cursor?_after (R : Register τ α) (h : RowStore.cursor? t n = some c) (step : Handling α) :
    RowStore.cursor? (R.after t step) n =
      some (match step.pullOf n with
        | some p => (c.pull p).2
        | none => c) := by
  cases step with
  | call call =>
    rw [R.cursor?_eq] at h ⊢
    obtain ⟨opened, hopened⟩ := R.prefix_call t call
    obtain ⟨hlength, -⟩ := List.getElem?_eq_some_iff.1 h
    rw [after, ← hopened, List.getElem?_append_left hlength, h]
    rfl
  | arrange a =>
    rw [R.cursor?_eq] at h ⊢
    rw [after, R.arranged_eq, h]
    rfl
  | pull m p =>
    rw [after, RowStore.pull, Handling.pullOf]
    cases hm : RowStore.cursor? t m with
    | none =>
      have hne : m ≠ n := by
        rintro rfl
        rw [hm] at h
        cases h
      simp only [if_neg hne]
      exact h
    | some d =>
      dsimp only
      rw [R.cursor?_setCursor h]
      by_cases heq : m = n
      -- a pull goes to the cursor that it names; a number without a cursor names none
      · subst heq
        rw [hm] at h
        simp [Option.some.inj h]
      · simp [heq]

/-- Over all steps, a cursor gives what its own pulls are given, and ends as they leave it. -/
theorem answers_run (R : Register τ α) (h : RowStore.cursor? t n = some c)
    (steps : List (Handling α)) :
    R.answers n steps t = c.answers (Handling.pullsOf n steps) ∧
      RowStore.cursor? (R.run steps t) n = some (c.pulled (Handling.pullsOf n steps)) := by
  -- the table goes on at every step, the cursor only at those that pull from it
  induction steps generalizing t c with
  | nil => exact ⟨rfl, h⟩
  | cons step steps ih =>
    have hafter := R.cursor?_after h step
    cases hpull : step.pullOf n with
    | none =>
      rw [hpull] at hafter
      have hpulls : Handling.pullsOf n (step :: steps) = Handling.pullsOf n steps :=
        List.filterMap_cons_none hpull
      obtain ⟨hanswers, hrun⟩ := ih hafter
      rw [answers, hpull, hpulls]
      exact ⟨hanswers, hrun⟩
    | some p =>
      rw [hpull] at hafter
      have hpulls : Handling.pullsOf n (step :: steps) = p :: Handling.pullsOf n steps :=
        List.filterMap_cons_some hpull
      obtain ⟨hanswers, hrun⟩ := ih hafter
      have hgiven : (RowStore.pull n p t).1 = (c.pull p).1 := by
        unfold RowStore.pull
        rw [h]
      rw [answers, hpull, hpulls, Cursor.answers, hanswers, ← hgiven]
      exact ⟨rfl, hrun⟩

/-- A cursor that a scan has just opened gives the rows that the scan selected. -/
theorem answers_of_open (R : Register τ α) {rows : List Row} {closesAtEnd : Bool}
    (h : RowStore.cursor? t n = some ⟨rows, false, closesAtEnd⟩) (steps : List (Handling α)) :
    R.answers n steps t = Pull.handedOut rows (Handling.pullsOf n steps) := by
  rw [(R.answers_run h steps).1, Cursor.answers_open]

/-- A cursor that is closed stays as it is, whatever else is done to the table. -/
theorem cursor?_of_closed (R : Register τ α) (h : RowStore.cursor? t n = some c)
    (hclosed : c.closed = true) (steps : List (Handling α)) :
    RowStore.cursor? (R.run steps t) n = some c := by
  rw [(R.answers_run h steps).2, Cursor.pulled_of_closed hclosed]

end Register

/-! ## Tables in memory -/

/-- What a table in memory can be arranged by. -/
inductive Arrangement
  | seed (row : Row)
  | failOn (operation : String) (f : Failure)
  | clear

namespace MemoryTable

/-- A table after it was arranged; what cannot be seeded leaves it as it was. -/
def arranged : Arrangement → MemoryTable → MemoryTable
  | .seed row, t => ((seed row).run t).2
  | .failOn operation f, t => t.failOn operation f
  | .clear, t => t.clear

theorem run_seed (t : MemoryTable) (row : Row) :
    (seed row).run t =
      match t.keyOf row with
      | .error f => (.error f, t)
      | .ok key => (.ok (), { t with rows := put key row t.rows }) := by
  unfold seed
  rw [Access.run_bind_ok (Access.run_get t)]
  cases t.keyOf row <;> rfl

/-- The register of a table in memory. -/
def register : Register MemoryTable Arrangement where
  cursors := cursors
  arranged := arranged
  cursor?_eq _ _ := rfl
  setCursor _ _ _ := rfl
  upsert row t := by
    have hrun := t.run_upsert row
    split at hrun
    · exact congrArg (fun p => p.2.cursors) hrun
    · exact congrArg (fun p => p.2.cursors) hrun
  read key t := congrArg (fun p => p.2.cursors) (t.run_read key)
  delete key t := by
    have hrun := t.run_delete key
    split at hrun
    · exact congrArg (fun p => p.2.cursors) hrun
    · exact congrArg (fun p => p.2.cursors) hrun
  scan_ok {t t' range limit n} h := by
    have hrun := (t.run_scan range limit).symm.trans h
    split at hrun
    · cases hrun
    · cases hrun
      exact ⟨rfl, _, _, rfl⟩
  scan_error {t t' range limit f} h := by
    have hrun := (t.run_scan range limit).symm.trans h
    split at hrun
    · cases hrun
      rfl
    · cases hrun
  arranged_eq a t := by
    cases a with
    | seed row =>
      rw [arranged, run_seed]
      split <;> rfl
    | failOn operation f => rfl
    | clear => rfl

/-- A scan that succeeds opens a cursor over the rows that it selects. -/
theorem cursor?_of_scan {t t' : MemoryTable} {range : Range} {limit : Option Int} {n : Nat}
    (h : (RowStore.scan range limit).run t = (.ok n, t')) :
    ∃ rows, t.selected range limit = .ok rows ∧
      RowStore.cursor? t' n = some ⟨rows, false, false⟩ := by
  have hrun := (t.run_scan range limit).symm.trans h
  split at hrun
  · cases hrun
  · rename_i rows hselected
    cases hrun
    exact ⟨rows, t.eq_of_unlessFailing hselected, List.getElem?_concat_length⟩

end MemoryTable

/-! ## Tables of a database -/

namespace Sql.SqlTable

/-- The register of a table of a database, which nothing else is arranged by. -/
def register : Register SqlTable Empty where
  cursors := cursors
  arranged := nofun
  cursor?_eq _ _ := rfl
  setCursor _ _ _ := rfl
  upsert row t := by
    have hrun := t.run_upsert row
    split at hrun
    · exact congrArg (fun p => p.2.cursors) hrun
    · exact congrArg (fun p => p.2.cursors) hrun
  read key t := congrArg (fun p => p.2.cursors) (t.run_read key)
  delete key t := by
    have hrun := t.run_delete key
    split at hrun
    · exact congrArg (fun p => p.2.cursors) hrun
    · exact congrArg (fun p => p.2.cursors) hrun
  scan_ok {t t' range limit n} h := by
    have hrun := (t.run_scan range limit).symm.trans h
    split at hrun
    · cases hrun
    · cases hrun
      exact ⟨rfl, _, _, rfl⟩
  scan_error {t t' range limit f} h := by
    have hrun := (t.run_scan range limit).symm.trans h
    split at hrun
    · cases hrun
      rfl
    · cases hrun
  arranged_eq := nofun

variable {t : TableSpec} {T : TypedTable t} {route : Upsert} {s : SqlTable}

/-- A step that writes nothing leaves a table as equal to another one as it was. -/
theorem Carries.after (h : Carries route s T) {step : Handling Empty}
    (hreads : step.writes = false) : Carries route (register.after s step) T := by
  have hcursors : ∀ s' : SqlTable, (∃ cursors, s' = { s with cursors }) →
      Carries route s' T := by
    rintro s' ⟨cursors, rfl⟩
    exact ⟨h.spec, h.route, h.rows⟩
  refine hcursors _ ?_
  -- what does not write leaves the rows alone, though a scan opens a cursor
  cases step with
  | arrange a => cases a
  | pull n p =>
    rw [Register.after, RowStore.pull.eq_def]
    split
    · exact ⟨_, rfl⟩
    · exact ⟨s.cursors, rfl⟩
  | call call =>
    cases call with
    | upsert row => cases hreads
    | delete key => cases hreads
    | read key => exact ⟨s.cursors, congrArg Prod.snd (s.run_read key)⟩
    | scan pins limit =>
      have hrun := s.run_scan ⟨pins⟩ limit
      split at hrun
      · exact ⟨s.cursors, congrArg Prod.snd hrun⟩
      · exact ⟨_, congrArg Prod.snd hrun⟩

theorem Carries.run (h : Carries route s T) (steps : List (Handling Empty))
    (hreads : ∀ step ∈ steps, step.writes = false) : Carries route (register.run steps s) T := by
  induction steps generalizing s with
  | nil => exact h
  | cons step steps ih =>
    obtain ⟨hstep, hsteps⟩ := List.forall_mem_cons.1 hreads
    exact ih (h.after hstep) hsteps

/-- A scan opens a cursor over the rows of its range. -/
theorem Carries.opens (hnames : t.columnNames.Nodup) (h : Carries route s T) {range : Range}
    {limit : Option Nat} (typed : t.TypedRange range)
    (hsupports : (TypedCall.scan range limit typed).Supported route)
    (hleads : range.columns <+: t.key) :
    ∃ n s', (RowStore.scan range (limit.map Int.ofNat)).run s = (.ok n, s') ∧
      RowStore.cursor? s' n = some ⟨T.select range limit, false, true⟩ := by
  have hselected := h.selected hnames typed limit hleads
  rw [if_pos (hsupports hleads)] at hselected
  have hrun := s.run_scan range (limit.map Int.ofNat)
  rw [hselected] at hrun
  exact ⟨_, _, hrun, List.getElem?_concat_length⟩

/-- To close a cursor that is closed changes nothing. -/
theorem pull_close_of_closed {n : Nat} {c : Cursor} (h : RowStore.cursor? s n = some c)
    (hclosed : c.closed = true) : RowStore.pull n .close s = ([], s) := by
  obtain ⟨hlength, hget⟩ := List.getElem?_eq_some_iff.1 h
  have hset : s.cursors.set n c.close = s.cursors := by
    rw [Cursor.close_of_closed hclosed, ← hget]
    exact List.set_getElem_self hlength
  rw [RowStore.pull.eq_def, h]
  exact congrArg (fun cursors => (([] : List (Option Row)), { s with cursors })) hset

end Sql.SqlTable

/-! ## Both kinds of table -/

/-- A cursor of a table in memory hands out the rows that its scan selected at the moment of the
scan, in order and each once, until it is closed or comes to its end; from then on it reports that
there is nothing more, and nothing else that is done to the table is seen.  A cursor of a table of a
database that has the same rows, and is not written to, gives the same for the same pulls; it is
closed once it was closed or came to its end, and then stays as it is. -/
theorem cursors_hand_out_selected :
    (∀ (m m' : MemoryTable) (range : Range) (limit : Option Int) (n : Nat),
      (RowStore.scan range limit).run m = (.ok n, m') →
        ∃ rows, m.selected range limit = .ok rows ∧ ∀ steps,
          MemoryTable.register.answers n steps m' =
            Pull.handedOut rows (Handling.pullsOf n steps)) ∧
    ∀ (t : TableSpec) (T : TypedTable t) (m : MemoryTable) (s : SqlTable) (route : Upsert)
      (range : Range) (limit : Option Nat) (typed : t.TypedRange range)
      (before after : List (Handling Empty)), t.columnNames.Nodup → m.Carries T →
      SqlTable.Carries route s T → (TypedCall.scan range limit typed).Supported route →
      range.columns <+: t.key → (∀ step ∈ before ++ after, step.writes = false) →
        let scanned := (RowStore.scan range (limit.map Int.ofNat)).run m
        let scanned' :=
          (RowStore.scan range (limit.map Int.ofNat)).run (SqlTable.register.run before s)
        ∃ n k, scanned.1 = .ok n ∧ scanned'.1 = .ok k ∧
          (∀ steps, Handling.pullsOf n steps = Handling.pullsOf k after →
            SqlTable.register.answers k after scanned'.2 =
              MemoryTable.register.answers n steps scanned.2) ∧
          let last := SqlTable.register.run after scanned'.2
          ∃ c, RowStore.cursor? last k = some c ∧
            (c.closed = true ↔ .close ∈ Handling.pullsOf k after ∨
              (T.select range limit).length < Pull.asked (Handling.pullsOf k after)) ∧
            (c.closed = true → RowStore.pull k .close last = ([], last) ∧
              ∀ more, RowStore.cursor? (SqlTable.register.run more last) k = some c) := by
  constructor
  · intro m m' range limit n hscan
    obtain ⟨rows, hselected, hcursor⟩ := MemoryTable.cursor?_of_scan hscan
    exact ⟨rows, hselected, MemoryTable.register.answers_of_open hcursor⟩
  · intro t T m s route range limit typed before after hnames hm hs hsupports hleads hreads
      scanned scanned'
    have hbefore := hs.run before fun step hstep => hreads step (List.mem_append_left after hstep)
    obtain ⟨n, closesAtEnd, m', hscan, hcursor, -⟩ := hm.scan limit hleads
    obtain ⟨k, s', hscan', hcursor'⟩ := hbefore.opens hnames typed hsupports hleads
    have hfirst : scanned = (.ok n, m') := hscan
    have hsecond : scanned' = (.ok k, s') := hscan'
    rw [hfirst, hsecond]
    refine ⟨n, k, rfl, rfl, ?_, ?_⟩
    · intro steps hpulls
      rw [SqlTable.register.answers_of_open hcursor', MemoryTable.register.answers_of_open hcursor,
        hpulls]
    · have hlast := (SqlTable.register.answers_run hcursor' after).2
      refine ⟨_, hlast, Cursor.closed_pulled_iff _ _, ?_⟩
      intro hclosed
      exact ⟨SqlTable.pull_close_of_closed hlast hclosed,
        SqlTable.register.cursor?_of_closed hlast hclosed⟩

/-- Where the keys have an order and the rows are in it, a scan of all rows selects them as they
are. -/
theorem MemoryTable.selected_all {m : MemoryTable}
    (hordered : Key.ordered (m.rows.map (·.1)) = true)
    (hsorted : m.rows.Pairwise fun a b => Key.atMost a.1 b.1 = true) :
    m.selected .all none = .ok (m.rows.map (·.2)) := by
  have hleads : Range.all.leads m.key = true := rfl
  rw [selected, if_pos hleads, sortedRows, if_pos hordered, List.mergeSort_of_pairwise hsorted]
  simp [limited]

/-- A table of three names. -/
def someNames : TypedTable names :=
  ((TypedTable.empty.put (nameRow "a")).put (nameRow "b")).put (nameRow "c")

/-- That table in memory. -/
def namesInMemory : MemoryTable :=
  ⟨"names", ["name"], someNames.rows.map TypedRow.entry, [], .empty, [], 0⟩

/-- The table after a scan, and after a name was taken away while the cursor is open. -/
def namesDropped : MemoryTable :=
  { namesInMemory with
    rows := [(nameRow "b").entry, (nameRow "c").entry]
    calls := [.scan [] none, .delete (nameRow "a").row]
    cursors := [⟨[(nameRow "a").row, (nameRow "b").row, (nameRow "c").row], false, false⟩] }

theorem selected_namesInMemory : namesInMemory.selected .all none =
    .ok [(nameRow "a").row, (nameRow "b").row, (nameRow "c").row] := by
  refine MemoryTable.selected_all rfl ?_
  decide

theorem selected_namesDropped : namesDropped.selected .all none =
    .ok [(nameRow "b").row, (nameRow "c").row] := by
  refine MemoryTable.selected_all rfl ?_
  decide

/-- Two cursors are open at a time; between their scans a name is taken away, and afterwards the
table is cleared.  The first cursor gives all that was there before, and the second one what was
left, until it is closed.  In a database, a cursor that is pulled as often as the first one gives
the same. -/
theorem cursors_hand_out_selected_names :
    let scanned := (RowStore.scan .all none).run namesInMemory
    let again := (RowStore.scan .all none).run namesDropped
    let s : SqlTable :=
      ⟨names, .native, Database.empty.put .main names (someNames.rows.map TypedRow.cells), []⟩
    let before : List (Handling Empty) := [.call (.scan [] none)]
    let scanned' := (RowStore.scan .all none).run (SqlTable.register.run before s)
    let steps : List (Handling Arrangement) :=
      [.pull 0 .next, .pull 1 .next, .arrange .clear, .pull 1 .close, .pull 0 .next,
        .pull 1 .next, .pull 0 .next, .pull 0 .next]
    let all : List (Handling Arrangement) :=
      [.call (.delete (nameRow "a").row), .call (.scan [] none)] ++ steps
    let reading : List (Handling Empty) :=
      [.pull 1 .next, .call (.read (nameRow "b").row), .pull 0 .next, .pull 1 .next, .pull 0 .close,
        .pull 1 .next, .pull 1 .next]
    (RowStore.delete (nameRow "a").row).run scanned.2 = (.ok (), namesDropped) ∧
      MemoryTable.register.answers 0 all scanned.2 =
        [some (nameRow "a").row, some (nameRow "b").row, some (nameRow "c").row, none] ∧
      MemoryTable.register.answers 1 steps again.2 = [some (nameRow "b").row, none] ∧
      SqlTable.register.answers 1 reading scanned'.2 =
        MemoryTable.register.answers 0 all scanned.2 := by
  intro scanned again s before scanned' steps all reading
  have hm : namesInMemory.Carries someNames := ⟨rfl, rfl, rfl⟩
  have hs : SqlTable.Carries .native s someNames := ⟨rfl, rfl, rfl⟩
  have htyped : names.TypedRange .all := by simp [TableSpec.TypedRange, Range.all]
  have hsupports : (TypedCall.scan .all none htyped).Supported .native := fun _ => rfl
  have hcreate : Database.empty.create names = .ok (Database.empty.put .main names []) := rfl
  have hnames := TableSpec.columnNames_nodup_of_create hcreate
  refine ⟨?_, ?_, ?_, ?_⟩
  · have hscanned : scanned = _ := MemoryTable.run_scan namesInMemory .all none
    rw [hscanned, selected_namesInMemory]
    rfl
  · obtain ⟨rows, hselected, hanswers⟩ :=
      cursors_hand_out_selected.1 namesInMemory scanned.2 .all none 0 rfl
    rw [selected_namesInMemory] at hselected
    rw [hanswers, ← Except.ok.inj hselected]
    rfl
  · obtain ⟨rows, hselected, hanswers⟩ :=
      cursors_hand_out_selected.1 namesDropped again.2 .all none 1 rfl
    rw [selected_namesDropped] at hselected
    rw [hanswers, ← Except.ok.inj hselected]
    rfl
  · obtain ⟨n, k, hn, hk, hanswers, -⟩ := cursors_hand_out_selected.2 names someNames namesInMemory
      s .native .all none htyped before reading hnames hm hs hsupports List.nil_prefix (by decide)
    have hn : n = 0 := (MemoryTable.register.scan_ok (Prod.ext hn rfl)).1
    -- the first cursor of the database is the one that was opened before
    obtain ⟨_, s', hscan, -⟩ := hs.opens hnames htyped hsupports List.nil_prefix
    obtain ⟨-, _, _, hcursors⟩ := SqlTable.register.scan_ok hscan
    have hbefore : SqlTable.register.run before s = s' := congrArg Prod.snd hscan
    have hk := (SqlTable.register.scan_ok (Prod.ext hk rfl)).1
    rw [hbefore, hcursors] at hk
    subst hn hk
    exact hanswers all rfl

end ConnectionCatalog
