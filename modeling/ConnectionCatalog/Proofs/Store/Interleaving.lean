import Mathlib.Data.List.Induction
import ConnectionCatalog.Proofs.Sql.Shelves
import ConnectionCatalog.Proofs.Store.Steps
import ConnectionCatalog.Proofs.Table.Shelves

/-! # Proofs.Store.Interleaving — clients at work at the same time

Any number of clients run an operation each over one table.  They move in turns, in any order, and
every move takes one step of an operation, so that a creation or an update can find what it has seen
overwritten when it comes to its write.  There is no lock, and the last write stands.

* `Scene.Inv`: what holds of a scene after any moves; `Scene.inv_move` keeps it up over one move,
  `Scene.inv_play` over all of them.
* `Scene.Race.lost_iff`: a creation loses a place that was free just if another one had written
  there before it looked.
* `LastWriteWins`, `last_write_wins`: what follows for tables in memory and of a database.
-/

namespace ConnectionCatalog

open Sql

/-! ## Scenes -/

/-- A move of a client: what the clock is then. -/
structure Move (ι : Type) where
  client : ι
  clock : Clock

/-- Clients at work over one table: how far the operation of each has come, and what was written by
whom, the last write first. -/
structure Scene (ι τ : Type) where
  stage : ι → Stage
  env : Env τ
  written : List (ι × Write)

namespace Scene

variable {ι τ : Type} [DecidableEq ι] [RowStore τ]

/-- Nobody has moved. -/
def start (env : Env τ) : Scene ι τ := ⟨fun _ => .waiting, env, []⟩

/-- A client takes the next step of its operation. -/
def move [Caller] (os : ι → Operation) (s : Scene ι τ) (m : Move ι) : Scene ι τ :=
  let stage := s.stage m.client
  let next := (os m.client).advance { s.env with clock := m.clock } stage
  { stage := Function.update s.stage m.client next.1
    env := next.2
    written := ((next.1.wrote ((os m.client).writing m.clock stage)).map fun w =>
      (m.client, w)).toList ++ s.written }

/-- Clients move one after the other. -/
def play [Caller] (os : ι → Operation) (moves : List (Move ι)) (s : Scene ι τ) : Scene ι τ :=
  moves.foldl (move os) s

/-- The moves before the first one of a client. -/
def before (i : ι) (moves : List (Move ι)) : List (Move ι) := moves.takeWhile fun m => m.client ≠ i

theorem play_snoc [Caller] (os : ι → Operation) (moves : List (Move ι)) (m : Move ι)
    (s : Scene ι τ) :
    play os (moves ++ [m]) s = move os (play os moves s) m := List.foldl_concat _ _ _ _

end Scene

/-! ## What writes are built of -/

/-- How the write of an operation is built, of what it saw and of the time that it was shown: the
whole row is its own, but for the time of creation, which an update takes over. -/
inductive Operation.Built [Caller] (Saw : NamespacedId → Row → Prop) (Shown : Int → Prop) :
    Operation → Write → Prop
  | created {namespaceName : String} {info : ConnectionMeta} {time : Int} (htime : Shown time) :
    Built Saw Shown (.create namespaceName info)
      (.put ⟨Store.placeOf namespaceName info.name, info, time, time⟩)
  | updated {place : NamespacedId} {info : ConnectionMeta} {row : Row} {existing : Connection}
    {time : Int} (hrow : Saw place row)
    (hexisting : Connection.ofRow .fetch row = .ok existing)
    (htime : Shown time) :
    Built Saw Shown (.update place info) (.put ⟨place, info, existing.created, time⟩)
  | deleted {place : NamespacedId} : Built Saw Shown (.delete place) (.drop place)

theorem Operation.Built.mono [Caller] {Saw Saw' : NamespacedId → Row → Prop}
    {Shown Shown' : Int → Prop}
    {o : Operation} {w : Write} (h : o.Built Saw Shown w)
    (hsaw : ∀ place row, Saw place row → Saw' place row)
    (hshown : ∀ time, Shown time → Shown' time) :
    o.Built Saw' Shown' w := by
  cases h with
  | created htime => exact .created (hshown _ htime)
  | updated hrow hexisting htime => exact .updated (hsaw _ _ hrow) hexisting (hshown _ htime)
  | deleted => exact .deleted

/-! ## Steps and stages -/

namespace Operation

variable [Caller] {es es' : Shelf} {clock : Clock} {o : Operation} {stage next : Stage}
variable {w? : Option Write}

theorem Advanced.ne_waiting (h : o.Advanced es clock stage next es' w?) : next ≠ .waiting := by
  cases h with
  | stayed hstage => exact hstage
  | _ => simp

omit [Caller] in
theorem writing_ended (o : Operation) (clock : Clock) (r : Except Failure Reply) :
    o.writing clock (.ended r) = none := by
  cases o <;> rfl

/-- An operation that has ended stays as it is. -/
theorem Advanced.of_ended {r : Except Failure Reply}
    (h : o.Advanced es clock (.ended r) next es' w?) :
    next = .ended r ∧ w? = none := by
  cases h with
  | failed hstage => exact absurd rfl (hstage r)
  | wrote hw =>
    rw [writing_ended] at hw
    cases hw
  | stayed _ => exact ⟨rfl, rfl⟩

theorem Advanced.of_claimed {place : NamespacedId}
    (h : o.Advanced es clock stage (.claimed place) es' w?) :
    stage = .claimed place ∨ ∃ namespaceName info, o = .create namespaceName info ∧
      place = Store.placeOf namespaceName info.name := by
  cases h with
  | claimed hrow => exact .inr ⟨_, _, rfl, rfl⟩
  | stayed _ => exact .inl rfl

theorem Advanced.of_fetched {existing : Connection}
    (h : o.Advanced es clock stage (.fetched existing) es' w?) :
    stage = .fetched existing ∨ stage = .waiting ∧ ∃ place info row, o = .update place info ∧
      es.rowAt place = some row ∧ Connection.ofRow .fetch row = .ok existing := by
  cases h with
  | fetched hrow hexisting => exact .inr ⟨rfl, _, _, _, rfl, hrow, hexisting⟩
  | stayed _ => exact .inl rfl

/-- A step has written something, and has ended its operation then, or it has left all rows. -/
theorem Advanced.wrote_or_left (h : o.Advanced es clock stage next es' w?) :
    (∃ w reply, w? = some w ∧ o.writing clock stage = some w ∧ es' = es.after w (.ok ()) ∧
      next = .ended (.ok reply)) ∨
    (w? = none ∧ es' = es ∧
      ((∃ reply, next = .ended (.ok reply)) → o.reads = true ∨ next = stage)) := by
  cases h with
  | claimed _ => exact .inr ⟨rfl, rfl, by simp⟩
  | fetched _ _ => exact .inr ⟨rfl, rfl, by simp⟩
  | failed _ => exact .inr ⟨rfl, rfl, by simp⟩
  | read ho => exact .inr ⟨rfl, rfl, fun _ => .inl ho⟩
  | wrote hw => exact .inl ⟨_, _, rfl, hw, rfl, rfl⟩
  | stayed _ => exact .inr ⟨rfl, rfl, fun _ => .inr rfl⟩

omit [Caller] in
/-- An operation that comes to a write is not one that reads, and has not ended. -/
theorem reads_of_writing {w : Write} (h : o.writing clock stage = some w) :
    o.reads = false ∧ ∀ r, stage ≠ .ended r := by
  constructor
  · cases o <;> first | rfl | (cases stage <;> cases h)
  · rintro r rfl
    rw [writing_ended] at h
    cases h

omit [Caller] in
/-- A write that is dated puts a connection that was made at the time of the clock. -/
theorem put_of_dated {make : Value → Except Invalid Connection} {w : Write}
    (h : (Store.dated make clock).toOption.map Write.put = some w) :
    ∃ v c, clock.read.1 = .ok v ∧ make v = .ok c ∧ w = .put c := by
  cases hc : Store.dated make clock with
  | error f =>
    rw [hc] at h
    cases h
  | ok c =>
    rw [hc] at h
    obtain ⟨v, hv, hmade⟩ := Store.dated_eq_ok_iff.1 hc
    exact ⟨v, c, hv, hmade, (Option.some.inj h).symm⟩

/-- What a step writes is built of the stage to which it had come, and of the time. -/
theorem built_of_writing {Saw : NamespacedId → Row → Prop} {Shown : Int → Prop} {w : Write}
    (h : o.writing clock stage = some w) (hshown : ∀ time, clock.Gives time → Shown time)
    (hclaimed : ∀ place, stage = .claimed place → ∃ namespaceName info,
      o = .create namespaceName info ∧ place = Store.placeOf namespaceName info.name)
    (hfetched : ∀ existing, stage = .fetched existing → ∃ place info row,
      o = .update place info ∧ Saw place row ∧ Connection.ofRow .fetch row = .ok existing) :
    o.Built Saw Shown w := by
  -- each operation writes in one stage only; what it saw or claimed is what the stage tells
  cases o with
  | create namespaceName info =>
    cases stage with
    | claimed place =>
      obtain ⟨_, _, ho, rfl⟩ := hclaimed place rfl
      cases ho
      obtain ⟨v, c, hv, hmade, rfl⟩ := put_of_dated h
      obtain ⟨m, n, hm, hn, rfl⟩ := Connection.ofMeta_eq_ok_iff.1 hmade
      -- both times are one reading
      cases hm.symm.trans hn
      exact .created (hshown m ⟨v, hv, hm⟩)
    | _ => cases h
  | update place info =>
    cases stage with
    | fetched existing =>
      obtain ⟨_, _, row, ho, hrow, hexisting⟩ := hfetched existing rfl
      cases ho
      obtain ⟨v, c, hv, hmade, rfl⟩ := put_of_dated h
      obtain ⟨m, n, hm, hn, rfl⟩ := Connection.ofMeta_eq_ok_iff.1 hmade
      cases hm
      exact .updated hrow hexisting (hshown n ⟨v, hv, hn⟩)
    | _ => cases h
  | delete place =>
    cases stage with
    | waiting =>
      cases h
      exact .deleted
    | _ => cases h
  | get place => cases stage <;> cases h
  | contains namespaceName name => cases stage <;> cases h
  | list namespaceName filter => cases stage <;> cases h

end Operation

/-! ## The invariant -/

namespace Scene

variable [Caller] {ι τ : Type} [DecidableEq ι] [RowStore τ]

/-- What a client saw of a place: the row there before its first move. -/
def Saw (H : Shelver τ) (os : ι → Operation) (env : Env τ) (moves : List (Move ι)) (i : ι)
    (place : NamespacedId) (row : Row) : Prop :=
  ∃ es, H.Has (play os (before i moves) (start env)).env.table es ∧ es.rowAt place = some row

/-- What times a client was shown. -/
def Shown (moves : List (Move ι)) (i : ι) (time : Int) : Prop :=
  ∃ m ∈ moves, m.client = i ∧ m.clock.Gives time

/-- The row at a place after some writes, the last of which comes first. -/
def lastRow (es : Shelf) (written : List (ι × Write)) (place : NamespacedId) : Option Row :=
  match written.find? fun x => x.2.place = place with
  | some x => x.2.row?
  | none => es.rowAt place

/-- What holds of a scene after moves that began over some rows. -/
structure Inv (H : Shelver τ) (os : ι → Operation) (env : Env τ) (first : Shelf)
    (moves : List (Move ι)) (s : Scene ι τ) : Prop where
  rows : ∃ es, H.Has s.env.table es ∧ ∀ place, es.rowAt place = lastRow first s.written place
  waiting : ∀ i, s.stage i = .waiting ↔ ∀ m ∈ moves, m.client ≠ i
  claimed : ∀ i place, s.stage i = .claimed place → ∃ namespaceName info,
    os i = .create namespaceName info ∧ place = Store.placeOf namespaceName info.name
  fetched : ∀ i existing, s.stage i = .fetched existing → ∃ place info row,
    os i = .update place info ∧ Saw H os env moves i place row ∧
      Connection.ofRow .fetch row = .ok existing
  built : ∀ i w, (i, w) ∈ s.written → (os i).Built (Saw H os env moves i) (Shown moves i) w
  wrote : ∀ i, (∃ w, (i, w) ∈ s.written) ↔
    (os i).reads = false ∧ ∃ reply, s.stage i = .ended (.ok reply)
  once : (s.written.map (·.1)).Nodup
  calm : H.Calm env.table → H.Calm s.env.table

variable {H : Shelver τ} {os : ι → Operation} {env : Env τ} {first : Shelf}
variable {moves : List (Move ι)} {m : Move ι} {i : ι}

omit [Caller] in
theorem before_snoc_of_moved (h : ∃ n ∈ moves, n.client = i) :
    before i (moves ++ [m]) = before i moves := by
  unfold before
  induction moves with
  | nil => simp at h
  | cons n moves ih =>
    by_cases hn : n.client = i
    · simp [hn]
    · have hrest : ∃ n ∈ moves, n.client = i := by simpa [hn] using h
      simpa [hn] using ih hrest

omit [Caller] in
theorem before_snoc_of_new (h : ∀ n ∈ moves, n.client ≠ i) (hm : m.client = i) :
    before i (moves ++ [m]) = moves := by
  unfold before
  rw [List.takeWhile_append_of_pos (by simpa using h)]
  simp [hm]

theorem inv_start (h : H.Has env.table first) : Inv H os env first [] (start env) where
  rows := ⟨first, h, fun _ => rfl⟩
  waiting i := ⟨fun _ => by simp, fun _ => rfl⟩
  claimed i place hstage := by cases hstage
  fetched i existing hstage := by cases hstage
  built i w hmem := by cases hmem
  wrote i := by
    -- nobody has written, and nobody has ended
    constructor
    · rintro ⟨w, hmem⟩
      cases hmem
    · rintro ⟨-, reply, hstage⟩
      cases hstage
  once := List.nodup_nil
  calm := id

/-- A client that has come further than waiting has moved. -/
theorem Inv.moved {s : Scene ι τ} (hinv : Inv H os env first moves s) (h : s.stage i ≠ .waiting) :
    ∃ n ∈ moves, n.client = i := by
  rw [ne_eq, hinv.waiting i] at h
  simpa using h

/-- What a client saw stays what it was. -/
theorem Inv.saw_snoc {s : Scene ι τ} (hinv : Inv H os env first moves s)
    (h : s.stage i ≠ .waiting) {place : NamespacedId} {row : Row} :
    Saw H os env moves i place row → Saw H os env (moves ++ [m]) i place row := by
  intro hsaw
  unfold Saw at *
  rw [before_snoc_of_moved (hinv.moved h)]
  exact hsaw

omit [Caller] [DecidableEq ι] in
theorem Shown.snoc {time : Int} (h : Shown moves i time) : Shown (moves ++ [m]) i time := by
  obtain ⟨n, hn, hclient, htime⟩ := h
  exact ⟨n, List.mem_append_left _ hn, hclient, htime⟩

/-- A client that has not moved yet and then takes two moves with nothing in between, by one clock,
runs its whole operation. -/
theorem play_twice (os : ι → Operation) {s : Scene ι τ} {i : ι} (h : s.stage i = .waiting)
    (clock : Clock) :
    let whole := (os i).run.run { s.env with clock }
    let last := play os [⟨i, clock⟩, ⟨i, clock⟩] s
    last.stage i = .ended whole.1 ∧ last.env.table = whole.2.table := by
  intro whole last
  have htwice := (os i).advance_twice_by { s.env with clock }
  have hstage : (move os s ⟨i, clock⟩).stage i =
      ((os i).advance { s.env with clock } .waiting).1 := by
    rw [← h]
    exact Function.update_self _ _ _
  have henv : (move os s ⟨i, clock⟩).env = ((os i).advance { s.env with clock } .waiting).2 := by
    rw [← h]
    rfl
  have hlast : last.stage i = ((os i).advance
      { (move os s ⟨i, clock⟩).env with clock } ((move os s ⟨i, clock⟩).stage i)).1 :=
    Function.update_self _ _ _
  have htable : last.env.table = ((os i).advance
      { (move os s ⟨i, clock⟩).env with clock } ((move os s ⟨i, clock⟩).stage i)).2.table := rfl
  rw [hstage, henv] at hlast htable
  exact ⟨hlast.trans htwice.1, htable.trans htwice.2⟩

/-! ### One move -/

/-- What a move does to a scene: the client takes a step, and nothing else happens. -/
structure Moves (H : Shelver τ) (os : ι → Operation) (m : Move ι) (s s' : Scene ι τ)
    (es es' : Shelf) (w? : Option Write) : Prop where
  own : (os m.client).Advanced es m.clock (s.stage m.client) (s'.stage m.client) es' w?
  others : ∀ i, i ≠ m.client → s'.stage i = s.stage i
  rows : H.Has s'.env.table es'
  written : s'.written = (w?.map fun w => (m.client, w)).toList ++ s.written
  calm : H.Calm s.env.table → H.Calm s'.env.table

theorem moves_move (os : ι → Operation) (m : Move ι) {s : Scene ι τ} {es : Shelf}
    (hes : H.Has s.env.table es) :
    ∃ es' w?, Moves H os m s (move os s m) es es' w? := by
  have hset : H.Has ({ s.env with clock := m.clock } : Env τ).table es := hes
  obtain ⟨es', w?, hstep, hes', hwrote, hcalm⟩ :=
    H.advanced hset (os m.client) (s.stage m.client)
  have hown : (move os s m).stage m.client =
      ((os m.client).advance { s.env with clock := m.clock } (s.stage m.client)).1 :=
    Function.update_self _ _ _
  refine ⟨es', w?, ?_, fun i hi => Function.update_of_ne hi _ _, hes', ?_, hcalm⟩
  · rw [hown]
    exact hstep
  · rw [← hwrote]
    rfl

namespace Moves

variable {s s' : Scene ι τ} {es es' : Shelf} {w? : Option Write}

omit [DecidableEq ι] in
/-- What was written in a move is the last write at its place. -/
theorem lastRow_eq (h : Moves H os m s s' es es' w?) (hdistinct : es.Distinct)
    (hrows : ∀ place, es.rowAt place = lastRow first s.written place) (place : NamespacedId) :
    es'.rowAt place = lastRow first s'.written place := by
  rw [h.written]
  rcases h.own.wrote_or_left with ⟨w, reply, rfl, -, rfl, -⟩ | ⟨rfl, rfl, -⟩
  · rw [hdistinct.rowAt_after, hrows]
    by_cases hplace : w.place = place <;> simp [lastRow, hplace]
  · exact hrows place

theorem waiting_iff (h : Moves H os m s s' es es' w?)
    (hwaiting : ∀ i, s.stage i = .waiting ↔ ∀ n ∈ moves, n.client ≠ i) (i : ι) :
    s'.stage i = .waiting ↔ ∀ n ∈ moves ++ [m], n.client ≠ i := by
  rw [List.forall_mem_append, List.forall_mem_singleton]
  by_cases hi : m.client = i
  · subst hi
    exact iff_of_false h.own.ne_waiting fun hnone => hnone.2 rfl
  · rw [h.others i (Ne.symm hi), hwaiting i]
    exact (and_iff_left hi).symm

/-- Those who have written are those whose operations write and have succeeded. -/
theorem wrote_iff (h : Moves H os m s s' es es' w?)
    (hwrote : ∀ i, (∃ w, (i, w) ∈ s.written) ↔
      (os i).reads = false ∧ ∃ reply, s.stage i = .ended (.ok reply)) (i : ι) :
    (∃ w, (i, w) ∈ s'.written) ↔
      (os i).reads = false ∧ ∃ reply, s'.stage i = .ended (.ok reply) := by
  rw [h.written]
  by_cases hi : i = m.client
  · subst hi
    have hown := h.own
    -- the client of the move either writes and ends, or has its stage changed without a write
    rcases hown.wrote_or_left with ⟨w, reply, rfl, hw, -, hnext⟩ | ⟨rfl, -, hnext⟩
    · rw [hnext]
      exact iff_of_true ⟨w, by simp⟩ ⟨(Operation.reads_of_writing hw).1, reply, rfl⟩
    · rw [Option.map_none, Option.toList_none, List.nil_append, hwrote]
      refine and_congr_right fun hreads => ?_
      constructor
      · rintro ⟨reply, hstage⟩
        rw [hstage] at hown
        exact ⟨reply, hown.of_ended.1⟩
      · intro hreply
        rcases hnext hreply with ho | hsame
        · rw [ho] at hreads
          cases hreads
        · rw [← hsame]
          exact hreply
  · rw [h.others i hi, ← hwrote i]
    cases w? <;> simp [hi]

omit [DecidableEq ι] in
/-- Nobody writes twice. -/
theorem nodup (h : Moves H os m s s' es es' w?) (honce : (s.written.map (·.1)).Nodup)
    (hwrote : ∀ i, (∃ w, (i, w) ∈ s.written) ↔
      (os i).reads = false ∧ ∃ reply, s.stage i = .ended (.ok reply)) :
    (s'.written.map (·.1)).Nodup := by
  rw [h.written]
  rcases h.own.wrote_or_left with ⟨w, reply, rfl, hw, -, -⟩ | ⟨rfl, -, -⟩
  · simp only [Option.map_some, Option.toList_some, List.singleton_append, List.map_cons,
      List.nodup_cons]
    refine ⟨?_, honce⟩
    -- a client that had written before would have ended, and so have no write left
    intro hmem
    obtain ⟨⟨i, w'⟩, hmem, rfl⟩ := List.mem_map.1 hmem
    obtain ⟨-, reply', hstage⟩ := (hwrote _).1 ⟨w', hmem⟩
    exact (Operation.reads_of_writing hw).2 _ hstage
  · exact honce

end Moves

/-- The invariant outlives one move of a client. -/
theorem inv_move (hinv : Inv H os env first moves (play os moves (start env))) :
    Inv H os env first (moves ++ [m]) (play os (moves ++ [m]) (start env)) := by
  obtain ⟨es, hes, hrows⟩ := hinv.rows
  obtain ⟨es', w?, hmoves⟩ := moves_move os m hes
  -- what the rows were before the first move of a client is what it finds in that move
  have hsaw : ∀ {place row}, (play os moves (start env)).stage m.client = .waiting →
      es.rowAt place = some row → Saw H os env (moves ++ [m]) m.client place row := by
    intro place row hstage hrow
    unfold Saw
    rw [before_snoc_of_new ((hinv.waiting m.client).1 hstage) rfl]
    exact ⟨es, hes, hrow⟩
  have hfetched : ∀ i existing, (play os moves (start env)).stage i = .fetched existing →
      ∃ place info row, os i = .update place info ∧ Saw H os env (moves ++ [m]) i place row ∧
        Connection.ofRow .fetch row = .ok existing := by
    intro i existing hstage
    obtain ⟨place, info, row, ho, hrow, hexisting⟩ := hinv.fetched i existing hstage
    exact ⟨place, info, row, ho, hinv.saw_snoc (by simp [hstage]) hrow, hexisting⟩
  have hbuilt : ∀ i w, (i, w) ∈ (play os moves (start env)).written →
      (os i).Built (Saw H os env (moves ++ [m]) i) (Shown (moves ++ [m]) i) w := by
    intro i w hmem
    obtain ⟨-, reply, hreply⟩ := (hinv.wrote i).1 ⟨w, hmem⟩
    exact (hinv.built i w hmem).mono (fun _ _ => hinv.saw_snoc (by simp [hreply])) fun _ => .snoc
  -- only the client of the move has its stage changed, so the three cases split on being that
  -- client
  rw [play_snoc]
  refine ⟨⟨es', hmoves.rows, hmoves.lastRow_eq (H.distinct hes) hrows⟩,
    hmoves.waiting_iff hinv.waiting, ?claimed, ?fetched, ?built, hmoves.wrote_iff hinv.wrote,
    hmoves.nodup hinv.once hinv.wrote, fun h => hmoves.calm (hinv.calm h)⟩
  case claimed =>
    intro i place hstage
    by_cases hi : i = m.client
    · subst hi
      have hown := hmoves.own
      rw [hstage] at hown
      rcases hown.of_claimed with hold | hnew
      · exact hinv.claimed _ place hold
      · exact hnew
    · rw [hmoves.others i hi] at hstage
      exact hinv.claimed i place hstage
  case fetched =>
    intro i existing hstage
    by_cases hi : i = m.client
    · subst hi
      have hown := hmoves.own
      rw [hstage] at hown
      rcases hown.of_fetched with hold | ⟨hwaiting, place, info, row, ho, hrow, hexisting⟩
      · exact hfetched _ existing hold
      · exact ⟨place, info, row, ho, hsaw hwaiting hrow, hexisting⟩
    · rw [hmoves.others i hi] at hstage
      exact hfetched i existing hstage
  case built =>
    intro i w hmem
    rw [hmoves.written] at hmem
    rcases hmoves.own.wrote_or_left with ⟨w', reply, rfl, hw, -, -⟩ | ⟨rfl, -, -⟩
    · simp only [Option.map_some, Option.toList_some, List.singleton_append, List.mem_cons,
        Prod.mk.injEq] at hmem
      rcases hmem with ⟨rfl, rfl⟩ | hmem
      -- the new write is built from the stage before the move and the clock of the move
      · refine Operation.built_of_writing hw ?_ (hinv.claimed m.client) (hfetched m.client)
        intro time htime
        exact ⟨m, by simp, rfl, htime⟩
      · exact hbuilt i w hmem
    · exact hbuilt i w hmem

/-- The invariant holds after any moves. -/
theorem inv_play (os : ι → Operation) (h : H.Has env.table first) (moves : List (Move ι)) :
    Inv H os env first moves (play os moves (start env)) := by
  induction moves using List.reverseRecOn with
  | nil => exact inv_start h
  | append_singleton moves m ih => exact inv_move ih

/-! ## Creations of one place -/

/-- A client creates a connection at a place. -/
def Creates (os : ι → Operation) (place : NamespacedId) (i : ι) : Prop :=
  ∃ namespaceName info, os i = .create namespaceName info ∧
    Store.placeOf namespaceName info.name = place

/-- A client came too late for a place: it had not moved before somebody else wrote there. -/
def Late (os : ι → Operation) (env : Env τ) (moves : List (Move ι)) (place : NamespacedId) (i : ι) :
    Prop :=
  (∃ n ∈ moves, n.client = i) ∧
    ∃ x ∈ (play os (before i moves) (start env)).written, x.1 ≠ i ∧ x.2.place = place

/-- What is asked of a race: the calls of the table succeed, no row is there at first, everybody who
writes there creates, and the clocks show times that the table can hold. -/
structure Race (H : Shelver τ) (os : ι → Operation) (env : Env τ) (first : Shelf)
    (moves : List (Move ι)) (place : NamespacedId) : Prop where
  has : H.Has env.table first
  calm : H.Calm env.table
  absent : first.rowAt place = none
  others : ∀ i, os i ≠ .delete place ∧ ∀ info, os i ≠ .update place info
  timely : ∀ n ∈ moves, ∃ time, n.clock.Gives time ∧
    ∀ info, H.refusal? ⟨place, info, time, time⟩ = none

variable {place : NamespacedId}

omit [Caller] [DecidableEq ι] in
theorem Race.earlier (h : Race H os env first (moves ++ [m]) place) :
    Race H os env first moves place :=
  ⟨h.has, h.calm, h.absent, h.others, fun n hn => h.timely n (List.mem_append_left _ hn)⟩

/-- In a race only creations have written to the place. -/
theorem Race.creates_of_written (h : Race H os env first moves place) {w : Write}
    (hmem : (i, w) ∈ (play os moves (start env)).written) (hplace : w.place = place) :
    Creates os place i ∧ ∃ c, c.place = place ∧ w = .put c := by
  have hbuilt := (inv_play os h.has moves).built i w hmem
  generalize ho : os i = o at hbuilt
  -- nobody updates or deletes at the place
  cases hbuilt with
  | created htime => exact ⟨⟨_, _, ho, hplace⟩, _, hplace, rfl⟩
  | updated hrow hexisting htime =>
    obtain rfl := hplace
    exact absurd ho ((h.others i).2 _)
  | deleted =>
    obtain rfl := hplace
    exact absurd ho (h.others i).1

/-- In a race the place has a row as soon as somebody has written there, and none before. -/
theorem Race.rowAt (h : Race H os env first moves place) {es : Shelf}
    (hrows : ∀ place, es.rowAt place = lastRow first (play os moves (start env)).written place) :
    ((∃ x ∈ (play os moves (start env)).written, x.2.place = place) ∧
        ∃ c : Connection, es.rowAt place = some c.toRow) ∨
      ((∀ x ∈ (play os moves (start env)).written, x.2.place ≠ place) ∧
        es.rowAt place = none) := by
  rw [hrows, lastRow]
  -- the last write to the place, if there is one, decides
  cases hfind : (play os moves (start env)).written.find? fun x => x.2.place = place with
  | none =>
    right
    refine ⟨?_, h.absent⟩
    simpa using hfind
  | some x =>
    left
    obtain ⟨i, w⟩ := x
    have hmem := List.mem_of_find?_eq_some hfind
    have hplace : w.place = place := by simpa using List.find?_some hfind
    obtain ⟨-, c, -, rfl⟩ := h.creates_of_written hmem hplace
    exact ⟨⟨_, hmem, hplace⟩, c, rfl⟩

theorem late_snoc_of_moved (h : ∃ n ∈ moves, n.client = i) :
    Late os env (moves ++ [m]) place i ↔ Late os env moves place i := by
  unfold Late
  rw [before_snoc_of_moved h]
  obtain ⟨n, hn, hclient⟩ := h
  refine and_congr_left fun _ => iff_of_true ?_ ⟨n, hn, hclient⟩
  exact ⟨n, List.mem_append_left _ hn, hclient⟩

/-- A client that makes its first move is late if there is a write at the place by then. -/
theorem late_snoc_of_new (hinv : Inv H os env first moves (play os moves (start env)))
    (hnew : ∀ n ∈ moves, n.client ≠ m.client) :
    Late os env (moves ++ [m]) place m.client ↔
      ∃ x ∈ (play os moves (start env)).written, x.2.place = place := by
  unfold Late
  rw [before_snoc_of_new hnew rfl]
  constructor
  · rintro ⟨-, x, hx, -, hplace⟩
    exact ⟨x, hx, hplace⟩
  · rintro ⟨x, hx, hplace⟩
    refine ⟨⟨m, by simp, rfl⟩, x, hx, ?_, hplace⟩
    intro hself
    -- whoever has written has moved
    obtain ⟨-, reply, hstage⟩ := (hinv.wrote x.1).1 ⟨x.2, hx⟩
    rw [hself, (hinv.waiting m.client).2 hnew] at hstage
    cases hstage

theorem late_snoc_of_other (hi : i ≠ m.client) :
    Late os env (moves ++ [m]) place i ↔ Late os env moves place i := by
  by_cases hmoved : ∃ n ∈ moves, n.client = i
  · exact late_snoc_of_moved hmoved
  · refine iff_of_false ?_ fun hlate => hmoved hlate.1
    rintro ⟨⟨n, hn, hclient⟩, -⟩
    rcases List.mem_append.1 hn with hn | hn
    · exact hmoved ⟨n, hn, hclient⟩
    · rw [List.mem_singleton.1 hn] at hclient
      exact hi hclient.symm

/-- A creation has failed after a move of its client just if it came too late, where it had just if
it was too late before the move. -/
theorem Race.lost_own (h : Race H os env first (moves ++ [m]) place) {namespaceName : String}
    {info : ConnectionMeta} (ho : os m.client = .create namespaceName info)
    (hplace : Store.placeOf namespaceName info.name = place) {f : Failure}
    (hbefore : (play os moves (start env)).stage m.client = .ended (.error f) ↔
      f = .connectionAlreadyExists info.name place.id ∧ Late os env moves place m.client) :
    (move os (play os moves (start env)) m).stage m.client = .ended (.error f) ↔
      f = .connectionAlreadyExists info.name place.id ∧
        Late os env (moves ++ [m]) place m.client := by
  have hinv := inv_play os h.has moves
  obtain ⟨es, hes, hrows⟩ := hinv.rows
  have hset : H.Has
      ({ (play os moves (start env)).env with clock := m.clock } : Env τ).table es := hes
  have hcalm := hinv.calm h.calm
  have hstage' : (move os (play os moves (start env)) m).stage m.client = _ :=
    Function.update_self _ _ _
  rw [hstage', ho]
  cases hstage : (play os moves (start env)).stage m.client with
  | waiting =>
    -- the move looks at the place: it fails there and then, or goes on
    have hnew := (hinv.waiting m.client).1 hstage
    rw [H.create_waiting hset hcalm, hplace, late_snoc_of_new hinv hnew]
    rcases h.earlier.rowAt hrows with ⟨hwritten, c, hrow⟩ | ⟨hunwritten, hrow⟩
    · rw [hrow, Store.claimed, Connection.ofRow_toRow]
      rw [and_iff_left hwritten]
      simp [Except.bind, eq_comm]
    · rw [hrow, Store.claimed]
      refine iff_of_false (by simp) ?_
      rintro ⟨-, x, hx, hat⟩
      exact hunwritten x hx hat
  | claimed claimedPlace =>
    have hmoved := hinv.moved (i := m.client) (by simp [hstage])
    obtain ⟨_, _, ho', rfl⟩ := hinv.claimed m.client claimedPlace hstage
    cases ho.symm.trans ho'
    obtain ⟨time, htime, hfits⟩ := h.timely m (by simp)
    have hsettled : ((Operation.create namespaceName info).advance _ _).1 = _ :=
      H.create_claimed hset hcalm htime (hfits info)
    rw [hplace, hsettled, late_snoc_of_moved hmoved, ← hbefore, hstage]
    simp
  | fetched existing =>
    obtain ⟨_, _, _, ho', -⟩ := hinv.fetched m.client existing hstage
    cases ho.symm.trans ho'
  | ended r =>
    have hmoved := hinv.moved (i := m.client) (by simp [hstage])
    rw [late_snoc_of_moved hmoved, ← hbefore, hstage]
    rfl

/-- In a race a creation fails just if it came too late, and then with the failure that says so. -/
theorem Race.lost_iff (h : Race H os env first moves place) {namespaceName : String}
    {info : ConnectionMeta} (ho : os i = .create namespaceName info)
    (hplace : Store.placeOf namespaceName info.name = place) (f : Failure) :
    (play os moves (start env)).stage i = .ended (.error f) ↔
      f = .connectionAlreadyExists info.name place.id ∧ Late os env moves place i := by
  induction moves using List.reverseRecOn with
  | nil =>
    refine iff_of_false nofun ?_
    rintro ⟨-, ⟨n, hn, -⟩, -⟩
    cases hn
  | append_singleton moves m ih =>
    rw [play_snoc]
    -- a move of another client changes neither side
    by_cases hi : i = m.client
    · subst hi
      exact h.lost_own ho hplace (ih h.earlier)
    · have hother : (move os (play os moves (start env)) m).stage i = _ :=
        Function.update_of_ne hi _ _
      rw [hother, ih h.earlier, late_snoc_of_other hi]

/-- What was written stays written. -/
theorem written_play (os : ι → Operation) (moves : List (Move ι)) {s : Scene ι τ} {x : ι × Write}
    (h : x ∈ s.written) : x ∈ (play os moves s).written := by
  induction moves generalizing s with
  | nil => exact h
  | cons m moves ih => exact ih (List.mem_append_right _ h)

/-- In a race that has been run to its end somebody has won. -/
theorem Race.won (h : Race H os env first moves place) (hi : Creates os place i)
    (hended : ∃ r, (play os moves (start env)).stage i = .ended r) :
    ∃ j, Creates os place j ∧
      ∃ reply, (play os moves (start env)).stage j = .ended (.ok reply) := by
  obtain ⟨r, hr⟩ := hended
  obtain ⟨namespaceName, info, ho, hplace⟩ := id hi
  cases r with
  | ok reply => exact ⟨i, hi, reply, hr⟩
  | error f =>
    -- whoever came too late came after a creation that had succeeded
    obtain ⟨-, -, x, hx, -, hat⟩ := (h.lost_iff ho hplace f).1 hr
    have hsplit : moves = before i moves ++ moves.dropWhile fun m => m.client ≠ i :=
      List.takeWhile_append_dropWhile.symm
    have hwritten : x ∈ (play os moves (start env)).written := by
      rw [hsplit, play, List.foldl_append]
      exact written_play os _ hx
    refine ⟨x.1, (h.creates_of_written hwritten hat).1, ?_⟩
    exact (((inv_play os h.has moves).wrote x.1).1 ⟨x.2, hwritten⟩).2

end Scene

/-! ## Tables -/

section

variable [Caller] {ι τ : Type} [DecidableEq ι] [RowStore τ]

/-- What is true after any moves.  No two rows have one key, and at every place is the row that the
last write there has left, or the one that was there at first.  That row is built by one operation
alone.  Those operations have written, and each of them once, that have succeeded and are not ones
that only read; so one that failed has left nothing. -/
structure LastWriteWins (rows : τ → Shelf) (os : ι → Operation) (env : Env τ)
    (moves : List (Move ι)) : Prop where
  distinct : (rows (Scene.play os moves (.start env)).env.table).Distinct
  last : ∀ place, (rows (Scene.play os moves (.start env)).env.table).rowAt place =
    Scene.lastRow (rows env.table) (Scene.play os moves (.start env)).written place
  built : ∀ i w, (i, w) ∈ (Scene.play os moves (.start env)).written →
    (os i).Built
      (fun place row =>
        (rows (Scene.play os (Scene.before i moves) (.start env)).env.table).rowAt place = some row)
      (Scene.Shown moves i) w
  wrote : ∀ i, (∃ w, (i, w) ∈ (Scene.play os moves (.start env)).written) ↔
    (os i).reads = false ∧
      ∃ reply, (Scene.play os moves (.start env)).stage i = .ended (.ok reply)
  once : ((Scene.play os moves (.start env)).written.map (·.1)).Nodup
  whole : ∀ i clock, (Scene.play os moves (.start env)).stage i = .waiting →
    let s := Scene.play os moves (.start env)
    let done := Scene.play os [⟨i, clock⟩, ⟨i, clock⟩] s
    done.stage i = .ended ((os i).run.run { s.env with clock }).1 ∧
      done.env.table = ((os i).run.run { s.env with clock }).2.table

/-- What is true of the creations at a place where there was no row, and where nobody deletes or
updates.  A creation fails just if somebody else had written there before it looked, always with
the failure of a name that is taken; and once all have ended, if there was one at all, somebody has
succeeded. -/
structure OneWins (os : ι → Operation) (env : Env τ) (moves : List (Move ι))
    (place : NamespacedId) : Prop where
  lost : ∀ i namespaceName info, os i = .create namespaceName info →
    Store.placeOf namespaceName info.name = place → ∀ f,
      (Scene.play os moves (.start env)).stage i = .ended (.error f) ↔
        f = .connectionAlreadyExists info.name place.id ∧ Scene.Late os env moves place i
  won : (∃ i, Scene.Creates os place i) →
    (∀ i, Scene.Creates os place i →
      ∃ r, (Scene.play os moves (.start env)).stage i = .ended r) →
    ∃ i, Scene.Creates os place i ∧
      ∃ reply, (Scene.play os moves (.start env)).stage i = .ended (.ok reply)

theorem Shelver.lastWriteWins (H : Shelver τ) {rows : τ → Shelf}
    (hrows : ∀ t es, H.Has t es → rows t = es) (os : ι → Operation) {env : Env τ}
    (h : H.Has env.table (rows env.table)) (moves : List (Move ι)) :
    LastWriteWins rows os env moves := by
  have hinv := Scene.inv_play os h moves
  obtain ⟨es, hes, hlast⟩ := hinv.rows
  obtain rfl := hrows _ _ hes
  refine ⟨H.distinct hes, hlast, ?_, hinv.wrote, hinv.once,
    fun i clock hwaiting => Scene.play_twice os hwaiting clock⟩
  intro i w hmem
  refine (hinv.built i w hmem).mono ?_ fun _ htime => htime
  rintro place row ⟨seen, hseen, hrow⟩
  rw [hrows _ _ hseen]
  exact hrow

theorem Scene.Race.oneWins {H : Shelver τ} {os : ι → Operation} {env : Env τ} {first : Shelf}
    {moves : List (Move ι)} {place : NamespacedId} (h : Race H os env first moves place) :
    OneWins os env moves place where
  lost _ _ _ ho hplace f := h.lost_iff ho hplace f
  won := by
    rintro ⟨i, hi⟩ hended
    exact h.won hi (hended i hi)

end

/-- Whatever operations any number of clients run over one table, and in whatever order their steps
are taken, the last write at each place wins, in a table in memory with any rows and in a table of a
database on either route of writing; and of the creations of one place, where nothing else is done
to it, one succeeds. -/
theorem last_write_wins [Caller] {ι : Type} [DecidableEq ι] (os : ι → Operation)
    (moves : List (Move ι)) :
    (∀ env : Env MemoryTable, env.table.key = connectionsKey → Shelf.Distinct env.table.rows →
      LastWriteWins MemoryTable.rows os env moves ∧
        ∀ place, env.table.failures = .empty → Shelf.rowAt env.table.rows place = none →
          (∀ i, os i ≠ .delete place ∧ ∀ info, os i ≠ .update place info) →
          (∀ m ∈ moves, ∃ time, m.clock.Gives time) → OneWins os env moves place) ∧
    ∀ env : Env SqlTable, env.table.Has env.table.stored →
      LastWriteWins SqlTable.stored os env moves ∧
        ∀ place, Shelf.rowAt env.table.stored place = none →
          (∀ i, os i ≠ .delete place ∧ ∀ info, os i ≠ .update place info) →
          (∀ m ∈ moves, ∃ time, m.clock.Gives time ∧ Cell.fits time = true) →
            OneWins os env moves place := by
  constructor
  · intro env hkey hdistinct
    have h : MemoryTable.shelver.Has env.table env.table.rows := ⟨hkey, rfl, hdistinct⟩
    refine ⟨MemoryTable.shelver.lastWriteWins (fun _ _ h => h.rows) os h moves, ?_⟩
    intro place hcalm habsent hothers htimely
    have hrace : Scene.Race MemoryTable.shelver os env env.table.rows moves place :=
      ⟨h, hcalm, habsent, hothers, fun m hm =>
        (htimely m hm).imp fun _ htime => ⟨htime, fun _ => rfl⟩⟩
    exact hrace.oneWins
  · intro env h
    refine ⟨SqlTable.shelver.lastWriteWins (fun _ _ h => h.stored) os h moves, ?_⟩
    intro place habsent hothers htimely
    have hrace : Scene.Race SqlTable.shelver os env env.table.stored moves place := by
      refine ⟨h, trivial, habsent, hothers, ?_⟩
      intro m hm
      obtain ⟨time, htime, hfits⟩ := htimely m hm
      exact ⟨time, htime, fun info => by simp [SqlTable.shelver, SqlTable.unfit?, hfits]⟩
    exact hrace.oneWins

section

attribute [local instance] Caller.direct

/-- Three clients that create one connection; two of them look before either has written. -/
def rivals : Fin 3 → Operation
  | 0 => .create "ns" ⟨"a", .s3, "", .empty⟩
  | 1 => .create "ns" ⟨"A", .gcs, "", .empty⟩
  | 2 => .create "ns" ⟨"a", .file, "", .empty⟩

def rivalMoves : List (Move (Fin 3)) :=
  [⟨0, .manual (.int 1) 0⟩, ⟨1, .manual (.int 2) 0⟩, ⟨1, .manual (.int 3) 0⟩,
    ⟨0, .manual (.int 4) 0⟩, ⟨2, .manual (.int 5) 0⟩]

/-- The table over which they work. -/
def rivalEnv : Env MemoryTable :=
  ⟨⟨"connections", connectionsKey, [], [], .empty, [], 0⟩, .manual .null 0,
    ⟨⟨.zero, .zero⟩, .none⟩, ⟨0, []⟩⟩

/-- What was written in the end: the first client wrote last. -/
theorem written_rivals :
    (Scene.play rivals rivalMoves (.start rivalEnv)).written =
        [(0, .put ⟨⟨"ns", "a"⟩, ⟨"a", .s3, "", .empty⟩, 4, 4⟩),
          (1, .put ⟨⟨"ns", "a"⟩, ⟨"A", .gcs, "", .empty⟩, 3, 3⟩)] ∧
      (Scene.play rivals (Scene.before 2 rivalMoves) (.start rivalEnv)).written =
        [(0, .put ⟨⟨"ns", "a"⟩, ⟨"a", .s3, "", .empty⟩, 4, 4⟩),
          (1, .put ⟨⟨"ns", "a"⟩, ⟨"A", .gcs, "", .empty⟩, 3, 3⟩)] := ⟨rfl, rfl⟩

theorem last_write_wins_rivals :
    Shelf.rowAt (Scene.play rivals rivalMoves (.start rivalEnv)).env.table.rows ⟨"ns", "a"⟩ =
        some (Connection.toRow ⟨⟨"ns", "a"⟩, ⟨"a", .s3, "", .empty⟩, 4, 4⟩) ∧
      (Scene.play rivals rivalMoves (.start rivalEnv)).stage 2 =
        .ended (.error (.connectionAlreadyExists "a" "a")) ∧
      (∃ i, Scene.Creates rivals ⟨"ns", "a"⟩ i ∧
        ∃ reply, (Scene.play rivals rivalMoves (.start rivalEnv)).stage i =
          .ended (.ok reply)) ∧
      LastWriteWins SqlTable.stored rivals (lateEnv .portable) rivalMoves := by
  have hothers : ∀ i, rivals i ≠ .delete ⟨"ns", "a"⟩ ∧
      ∀ info, rivals i ≠ .update ⟨"ns", "a"⟩ info := by
    intro i
    match i with
    | 0 | 1 | 2 => exact ⟨nofun, nofun⟩
  have htimely : ∀ m ∈ rivalMoves, ∃ time, m.clock.Gives time := by
    intro m hm
    simp only [rivalMoves, List.mem_cons, List.not_mem_nil, or_false] at hm
    rcases hm with rfl | rfl | rfl | rfl | rfl <;> exact ⟨_, _, rfl, rfl⟩
  obtain ⟨hwins, hone⟩ := (last_write_wins rivals rivalMoves).1 rivalEnv rfl .nil
  have hrace := hone ⟨"ns", "a"⟩ rfl rfl hothers htimely
  have hlate : Scene.Late rivals rivalEnv rivalMoves ⟨"ns", "a"⟩ 2 := by
    refine ⟨⟨⟨2, .manual (.int 5) 0⟩, by simp [rivalMoves], rfl⟩, ?_⟩
    rw [written_rivals.2]
    exact ⟨_, .head _, by decide, rfl⟩
  have hlost := (hrace.lost 2 "ns" ⟨"a", .file, "", .empty⟩ rfl rfl _).2 ⟨rfl, hlate⟩
  -- all three have ended: two with a write, the third with its refusal
  have hended : ∀ i, ∃ r, (Scene.play rivals rivalMoves (.start rivalEnv)).stage i = .ended r := by
    have hwrote : ∀ i w, (i, w) ∈ (Scene.play rivals rivalMoves (.start rivalEnv)).written →
        ∃ r, (Scene.play rivals rivalMoves (.start rivalEnv)).stage i = .ended r := by
      intro i w hmem
      obtain ⟨-, reply, hstage⟩ := (hwins.wrote i).1 ⟨w, hmem⟩
      exact ⟨_, hstage⟩
    rw [written_rivals.1] at hwrote
    intro i
    match i with
    | 0 => exact hwrote 0 _ (.head _)
    | 1 => exact hwrote 1 _ (.tail _ (.head _))
    | 2 => exact ⟨_, hlost⟩
  have hrow := hwins.last ⟨"ns", "a"⟩
  rw [written_rivals.1] at hrow
  have hrows : (lateEnv .portable).table.database.rows? connections = some [] := rfl
  exact ⟨hrow, hlost, hrace.won ⟨0, "ns", _, rfl, rfl⟩ fun i _ => hended i,
    ((last_write_wins rivals rivalMoves).2 (lateEnv .portable)
      (SqlTable.has_stored rfl hrows ⟨by simp, .nil⟩)).1⟩

end

end ConnectionCatalog
