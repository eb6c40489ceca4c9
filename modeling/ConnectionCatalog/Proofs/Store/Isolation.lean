import ConnectionCatalog.Proofs.Sql.Shelves
import ConnectionCatalog.Proofs.Table.Shelves

/-! # Proofs.Store.Isolation — operations on different places do not see each other

Whatever rows a table has, corrupt ones included, what an operation gives depends on the operations
before it that are about its own place, or for a listing about its own namespace.  Other operations
can be taken out of a run, and other rows can be exchanged, and nothing of it is seen.

* `Shelf.takeAll_purged`: two runs side by side, one of which leaves operations out; the rows at the
  places that are looked at stay equal, step by step.
* `Isolated`: what follows for places, namespaces and pairs of operations.
* `places_and_namespaces_isolated`: it holds of tables in memory and of tables of a database.
-/

namespace ConnectionCatalog

open Sql

/-! ## Runs -/

/-- A turn of a run: what the clock is then, and an operation. -/
structure Turn where
  clock : Clock
  operation : Operation

namespace Store

variable [Caller] {τ : Type} [RowStore τ]

/-- Sets the clock and runs an operation. -/
def take (turn : Turn) (env : Env τ) : Except Failure Reply × Env τ :=
  turn.operation.run.run { env with clock := turn.clock }

/-- Takes turns one after the other, and tells what each gave; one that fails does not end the
run. -/
def takeAll : List Turn → Env τ → List (Turn × Except Failure Reply) × Env τ
  | [], env => ([], env)
  | turn :: turns, env =>
    let (r, env) := take turn env
    let (given, last) := takeAll turns env
    ((turn, r) :: given, last)

end Store

namespace Operation

theorem namespaceName_of_place? {o : Operation} {place : NamespacedId} (h : o.place? = some place) :
    place.namespaceName = o.namespaceName := by
  cases o <;> cases h <;> rfl

theorem within_place {o : Operation} {place : NamespacedId} (h : o.place? = some place) :
    o.Within (· = place) := by
  unfold Within
  rw [h]

theorem within_namespace (o : Operation) : o.Within (·.namespaceName = o.namespaceName) := by
  unfold Within
  cases h : o.place? with
  | none => exact fun _ hplace => hplace
  | some place => exact namespaceName_of_place? h

end Operation

namespace Shelf

/-- What turns over some rows give, and the rows after them. -/
def takeAll [Caller] (refusal? : Connection → Option Failure) :
    List Turn → Shelf → List (Turn × Except Failure Reply) × Shelf
  | [], es => ([], es)
  | turn :: turns, es =>
    let (given, last) := takeAll refusal? turns (es.left refusal? turn.clock turn.operation)
    ((turn, es.answer refusal? turn.clock turn.operation) :: given, last)

variable [Caller] {refusal? : Connection → Option Failure} {es es' : Shelf}

/-! ## Two runs side by side -/

/-- Rows that agree at some places still do after an operation on both sides, whatever it is
about. -/
theorem rowAt_left_both {P : NamespacedId → Prop} {o : Operation} {clock : Clock} (h : es.Sound)
    (h' : es'.Sound) (hrows : ∀ place, P place → es.rowAt place = es'.rowAt place)
    {place : NamespacedId} (hplace : P place) :
    (es.left refusal? clock o).rowAt place = (es'.left refusal? clock o).rowAt place := by
  by_cases ho : o.place? = some place
  · refine rowAt_left_congr h h' ?_ (Operation.within_place ho) rfl
    rintro _ rfl
    exact hrows _ hplace
  · rw [h.rowAt_left ho, h'.rowAt_left ho]
    exact hrows place hplace

/-- Turns that are about none of some places can be left out: the turns that are about these
places only give the same, and so are the rows there in the end. -/
theorem takeAll_purged (refusal? : Connection → Option Failure) {P : NamespacedId → Prop}
    {kept watched : Turn → Bool}
    (hkept : ∀ turn, kept turn = false → ∀ place, P place → turn.operation.place? ≠ some place)
    (hwatched : ∀ turn, watched turn = true → kept turn = true ∧ turn.operation.Within P)
    (turns : List Turn) (h : es.Sound) (h' : es'.Sound)
    (hrows : ∀ place, P place → es.rowAt place = es'.rowAt place) :
    (takeAll refusal? turns es).1.filter (fun given => watched given.1) =
        (takeAll refusal? (turns.filter kept) es').1.filter (fun given => watched given.1) ∧
      ∀ place, P place →
        (takeAll refusal? turns es).2.rowAt place =
          (takeAll refusal? (turns.filter kept) es').2.rowAt place := by
  induction turns generalizing es es' with
  | nil => exact ⟨rfl, hrows⟩
  | cons turn turns ih =>
    cases hturn : kept turn with
    | false =>
      -- the turn is taken on one side only, and writes to none of the places
      have hunwatched : watched turn = false := by
        cases hw : watched turn with
        | false => rfl
        | true =>
          rw [(hwatched turn hw).1] at hturn
          cases hturn
      have hrows' : ∀ place, P place →
          (es.left refusal? turn.clock turn.operation).rowAt place = es'.rowAt place := by
        intro place hplace
        rw [h.rowAt_left (hkept turn hturn place hplace)]
        exact hrows place hplace
      have hrest := ih (h.left turn.operation) h' hrows'
      simpa [takeAll, hturn, hunwatched] using hrest
    | true =>
      have hrows' : ∀ place, P place →
          (es.left refusal? turn.clock turn.operation).rowAt place =
            (es'.left refusal? turn.clock turn.operation).rowAt place :=
        fun place hplace => rowAt_left_both h h' hrows hplace
      have hrest := ih (h.left turn.operation) (h'.left turn.operation) hrows'
      cases hw : watched turn with
      | false => simpa [takeAll, hturn, hw] using hrest
      | true =>
        have hanswer : es.answer refusal? turn.clock turn.operation =
            es'.answer refusal? turn.clock turn.operation :=
          answer_congr h h' hrows (hwatched turn hw).2
        simpa [takeAll, hturn, hw, hanswer] using hrest

/-- Turns at different places can change their order: the second gives what it would have given as
the first, and the same rows are left. -/
theorem left_comm (refusal? : Connection → Option Failure) {a b : Turn} {p q : NamespacedId}
    (h : es.Sound) (ha : a.operation.place? = some p) (hb : b.operation.place? = some q)
    (hne : p ≠ q) :
    (es.left refusal? a.clock a.operation).answer refusal? b.clock b.operation =
        es.answer refusal? b.clock b.operation ∧
      ∀ place,
        ((es.left refusal? a.clock a.operation).left refusal? b.clock b.operation).rowAt place =
          ((es.left refusal? b.clock b.operation).left refusal? a.clock a.operation).rowAt
            place := by
  -- the first turn leaves the row of the second alone, so the second answers as before
  have hrow : ∀ place, place = q →
      (es.left refusal? a.clock a.operation).rowAt place = es.rowAt place := by
    rintro _ rfl
    refine h.rowAt_left ?_
    rw [ha]
    exact fun heq => hne (Option.some.inj heq)
  have hwithin := Operation.within_place hb
  refine ⟨answer_congr (h.left a.operation) h hrow hwithin, ?_⟩
  intro place
  -- the place of the second turn, and every other place
  by_cases hq : place = q
  · have hother : a.operation.place? ≠ some place := by
      rw [ha, hq]
      exact fun heq => hne (Option.some.inj heq)
    rw [(h.left b.operation).rowAt_left hother]
    exact rowAt_left_congr (h.left a.operation) h hrow hwithin hq
  · have hother : b.operation.place? ≠ some place := by
      rw [hb]
      exact fun heq => hq (Option.some.inj heq).symm
    rw [(h.left a.operation).rowAt_left hother]
    refine rowAt_left_both (P := (· = place)) h (h.left b.operation) ?_ rfl
    rintro _ rfl
    exact (h.rowAt_left hother).symm

end Shelf

/-! ## Tables -/

/-- What operations of a store see of each other over tables with some rows, however these were
arranged.  What is given to the operations at one place, or in one namespace, is the same where
others are left out of the run, and where the rows of other namespaces are others; an operation
leaves every row at another place alone; and two operations at different places may change their
order. -/
structure Isolated [Caller] (τ : Type) [RowStore τ] (Plain : τ → Prop)
    (rows : τ → Shelf) : Prop where
  place : ∀ (place : NamespacedId) (kept : Turn → Bool) (turns : List Turn) (env : Env τ),
    Plain env.table → (∀ turn, turn.operation.place? = some place → kept turn = true) →
      ((Store.takeAll turns env).1.filter fun given => given.1.operation.place? = some place) =
          ((Store.takeAll (turns.filter kept) env).1.filter fun given =>
            given.1.operation.place? = some place) ∧
        (rows (Store.takeAll turns env).2.table).rowAt place =
          (rows (Store.takeAll (turns.filter kept) env).2.table).rowAt place
  space : ∀ (namespaceName : String) (kept : Turn → Bool) (turns : List Turn) (env env' : Env τ),
    Plain env.table → Plain env'.table →
      (∀ place, place.namespaceName = namespaceName →
        (rows env.table).rowAt place = (rows env'.table).rowAt place) →
      (∀ turn, turn.operation.namespaceName = namespaceName → kept turn = true) →
      ((Store.takeAll turns env).1.filter fun given =>
          given.1.operation.namespaceName = namespaceName) =
          ((Store.takeAll (turns.filter kept) env').1.filter fun given =>
            given.1.operation.namespaceName = namespaceName) ∧
        (rows (Store.takeAll turns env).2.table).within namespaceName =
          (rows (Store.takeAll (turns.filter kept) env').2.table).within namespaceName
  others : ∀ (o : Operation) (place : NamespacedId) (env : Env τ), Plain env.table →
    o.place? ≠ some place →
      (rows (o.run.run env).2.table).rowAt place = (rows env.table).rowAt place
  commute : ∀ (a b : Turn) (p q : NamespacedId) (env : Env τ), Plain env.table →
    a.operation.place? = some p → b.operation.place? = some q → p ≠ q → ∃ r s,
      (Store.takeAll [a, b] env).1 = [(a, r), (b, s)] ∧
        (Store.takeAll [b, a] env).1 = [(b, s), (a, r)] ∧
        (rows (Store.takeAll [a, b] env).2.table).inKeyOrder =
          (rows (Store.takeAll [b, a] env).2.table).inKeyOrder

namespace Shelver

variable [Caller] {τ : Type} [RowStore τ] (H : Shelver τ)

/-- A run over a calm table gives the shelf's answers and leaves the shelf's rows. -/
theorem takeAll_eq (turns : List Turn) {env : Env τ} {es : Shelf} (h : H.Has env.table es)
    (hsound : es.Sound) (hcalm : H.Calm env.table) :
    (Store.takeAll turns env).1 = (es.takeAll H.refusal? turns).1 ∧
      H.Has (Store.takeAll turns env).2.table (es.takeAll H.refusal? turns).2 ∧
      (es.takeAll H.refusal? turns).2.Sound := by
  induction turns generalizing env es with
  | nil => exact ⟨rfl, h, hsound⟩
  | cons turn turns ih =>
    -- the rows do not depend on the clock that a turn sets
    have hset : H.Has ({ env with clock := turn.clock } : Env τ).table es := h
    obtain ⟨hanswer, hleft, hcalm'⟩ := H.step hset hsound hcalm turn.operation
    obtain ⟨hgiven, hlast⟩ := ih hleft (hsound.left turn.operation) hcalm'
    refine ⟨?_, hlast⟩
    simp only [Store.takeAll, Shelf.takeAll]
    exact congrArg₂ _ (congrArg _ hanswer) hgiven

theorem isolated {Plain : τ → Prop} {rows : τ → Shelf}
    (hplain : ∀ t, Plain t → H.Has t (rows t) ∧ (rows t).Sound ∧ H.Calm t)
    (hrows : ∀ t es, H.Has t es → rows t = es) : Isolated τ Plain rows where
  place place kept turns env henv hkept := by
    obtain ⟨h, hsound, hcalm⟩ := hplain env.table henv
    obtain ⟨hgiven, hlast, hend⟩ := H.takeAll_eq turns h hsound hcalm
    obtain ⟨hgiven', hlast', hend'⟩ := H.takeAll_eq (turns.filter kept) h hsound hcalm
    rw [hgiven, hgiven', hrows _ _ hlast, hrows _ _ hlast']
    have hkept' : ∀ turn, kept turn = false → ∀ other, other = place →
        turn.operation.place? ≠ some other := by
      rintro turn hturn _ rfl hplace
      rw [hkept turn hplace] at hturn
      cases hturn
    -- what is watched is a single place
    have hwatched : ∀ turn : Turn, decide (turn.operation.place? = some place) = true →
        kept turn = true ∧ turn.operation.Within (· = place) := by
      intro turn hturn
      have hplace := of_decide_eq_true hturn
      exact ⟨hkept turn hplace, Operation.within_place hplace⟩
    have hpurged := Shelf.takeAll_purged H.refusal? hkept' hwatched turns hsound hsound
      fun _ _ => rfl
    exact ⟨hpurged.1, hpurged.2 place rfl⟩
  space namespaceName kept turns env env' henv henv' hagree hkept := by
    obtain ⟨h, hsound, hcalm⟩ := hplain env.table henv
    obtain ⟨h', hsound', hcalm'⟩ := hplain env'.table henv'
    obtain ⟨hgiven, hlast, hend⟩ := H.takeAll_eq turns h hsound hcalm
    obtain ⟨hgiven', hlast', hend'⟩ := H.takeAll_eq (turns.filter kept) h' hsound' hcalm'
    rw [hgiven, hgiven', hrows _ _ hlast, hrows _ _ hlast']
    have hkept' : ∀ turn, kept turn = false → ∀ place, place.namespaceName = namespaceName →
        turn.operation.place? ≠ some place := by
      intro turn hturn place hname hplace
      -- a turn that is left out works in another namespace
      have hspace := (Operation.namespaceName_of_place? hplace).symm.trans hname
      rw [hkept turn hspace] at hturn
      cases hturn
    have hwatched : ∀ turn : Turn, decide (turn.operation.namespaceName = namespaceName) = true →
        kept turn = true ∧ turn.operation.Within (·.namespaceName = namespaceName) := by
      intro turn hturn
      have hspace := of_decide_eq_true hturn
      rw [← hspace]
      exact ⟨hkept turn hspace, turn.operation.within_namespace⟩
    have hpurged := Shelf.takeAll_purged H.refusal? hkept' hwatched turns hsound hsound'
      hagree
    exact ⟨hpurged.1, hend.within_congr hend' hpurged.2⟩
  others o place env henv ho := by
    obtain ⟨h, hsound, hcalm⟩ := hplain env.table henv
    obtain ⟨-, hleft, -⟩ := H.step h hsound hcalm o
    rw [hrows _ _ hleft]
    exact hsound.rowAt_left ho
  commute a b p q env henv ha hb hne := by
    obtain ⟨h, hsound, hcalm⟩ := hplain env.table henv
    obtain ⟨hgiven, hlast, hend⟩ := H.takeAll_eq [a, b] h hsound hcalm
    obtain ⟨hgiven', hlast', hend'⟩ := H.takeAll_eq [b, a] h hsound hcalm
    have hab := Shelf.left_comm H.refusal? hsound ha hb hne
    have hba := Shelf.left_comm H.refusal? hsound hb ha (Ne.symm hne)
    -- each of the two answers as it would alone, whichever comes first
    refine ⟨(rows env.table).answer H.refusal? a.clock a.operation,
      (rows env.table).answer H.refusal? b.clock b.operation, ?_, ?_, ?_⟩
    · rw [hgiven, Shelf.takeAll, Shelf.takeAll, hab.1]
      rfl
    · rw [hgiven', Shelf.takeAll, Shelf.takeAll, hba.1]
      rfl
    · rw [hrows _ _ hlast, hrows _ _ hlast']
      exact hend.inKeyOrder_congr hend' hab.2

end Shelver

/-- The table of the connections in a database, with texts in the key columns of its rows. -/
def Sql.SqlTable.Plain (t : SqlTable) : Prop := t.Has t.stored

/-- Over a table in memory and over a table of a database, on either route of writing and with rows
of any content, places and namespaces are isolated. -/
theorem places_and_namespaces_isolated [Caller] :
    Isolated MemoryTable MemoryTable.Plain MemoryTable.rows ∧
      Isolated SqlTable SqlTable.Plain SqlTable.stored := by
  constructor
  · exact MemoryTable.shelver.isolated (fun _ h => ⟨h.has, h.2.1, h.2.2⟩) fun _ _ h => h.rows
  · exact SqlTable.shelver.isolated (fun _ h => ⟨h, h.sound, trivial⟩) fun _ _ h => h.stored

/-- The table of a database that has one row, of a kind that there is not, under "ns" and "a". -/
def strangeTable (route : Upsert) : SqlTable :=
  ⟨connections, route, Database.empty.put .main connections
    [[.text "ns", .text "a", .text "ftp", .text "a", .text "", .blob [], .real .nan, .text "now"]],
    []⟩

theorem strangeTable_plain (route : Upsert) : (strangeTable route).Plain := by
  have hrows : (strangeTable route).database.rows? connections = some _ := rfl
  refine SqlTable.has_stored rfl hrows ⟨?_, by simp⟩
  intro r hr
  rw [List.mem_singleton.1 hr]
  exact ⟨⟨"ns", "a"⟩, _, rfl, rfl⟩

attribute [local instance] Caller.direct in
theorem places_and_namespaces_isolated_strange :
    let create : Turn := ⟨.manual (.int 1) 0, .create "other" ⟨"a", .s3, "", .empty⟩⟩
    let get : Turn := ⟨.manual (.int 2) 0, .get ⟨"ns", "a"⟩⟩
    ((Store.takeAll [create, get] unlookedEnv).1.filter fun given =>
        given.1.operation.place? = some ⟨"ns", "a"⟩) =
      [(get, .error (.table (.unhashable "list")))] ∧
    ∀ route : Upsert,
      let env : Env SqlTable :=
        ⟨strangeTable route, create.clock, ⟨⟨.zero, .zero⟩, .none⟩, ⟨0, []⟩⟩
      Shelf.rowAt (create.operation.run.run env).2.table.stored ⟨"ns", "a"⟩ =
        Shelf.rowAt (strangeTable route).stored ⟨"ns", "a"⟩ := by
  intro create get
  constructor
  · have hpurged := (places_and_namespaces_isolated.1.place ⟨"ns", "a"⟩
      (fun turn => turn.operation.place? = some ⟨"ns", "a"⟩) [create, get] unlookedEnv
      unlookedTable_plain fun _ h => decide_eq_true h).1
    rw [hpurged]
    rfl
  · intro route env
    refine places_and_namespaces_isolated.2.others create.operation ⟨"ns", "a"⟩ env
      (strangeTable_plain route) ?_
    decide

end ConnectionCatalog
