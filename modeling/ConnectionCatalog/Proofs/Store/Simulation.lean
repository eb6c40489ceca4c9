import ConnectionCatalog.Proofs.Store.Refinement

/-! # Proofs.Store.Simulation — a store cannot tell tables apart that answer alike

Two kinds of table may keep different things, and still answer every call in the same way.  A store
knows of a table only what the calls answer and what the cursors have to hand out, so that it does
the same over both.

* `Simulation`: which tables answer alike, and that they do so after every call.
* `Simulation.Follows`: actions that go alike over tables that answer alike; every step of a store
  does (`Follows.bind` and the lemmas behind it).
* `Simulation.run_follows`: so does every operation.
-/

namespace ConnectionCatalog

open Access (run_bind_ok run_bind_error)

/-- Which tables of two kinds are alike: they answer each call in the same way and stay alike, and
they have the same cursors. -/
structure Simulation (τ σ : Type) [RowStore τ] [RowStore σ] where
  Like : τ → σ → Prop
  upsert {t : τ} {s : σ} (row : Row) : Like t s → ∃ r t' s', Like t' s' ∧
    (RowStore.upsert row).run t = (r, t') ∧ (RowStore.upsert row).run s = (r, s')
  read {t : τ} {s : σ} (key : Row) : Like t s → ∃ r t' s', Like t' s' ∧
    (RowStore.read key).run t = (r, t') ∧ (RowStore.read key).run s = (r, s')
  delete {t : τ} {s : σ} (key : Row) : Like t s → ∃ r t' s', Like t' s' ∧
    (RowStore.delete key).run t = (r, t') ∧ (RowStore.delete key).run s = (r, s')
  scan {t : τ} {s : σ} (range : Range) (limit : Option Int) : Like t s → ∃ r t' s', Like t' s' ∧
    (RowStore.scan range limit).run t = (r, t') ∧ (RowStore.scan range limit).run s = (r, s')
  cursor? {t : τ} {s : σ} (n : Nat) : Like t s → RowStore.cursor? t n = RowStore.cursor? s n
  setCursor {t : τ} {s : σ} (n : Nat) (c : Cursor) :
    Like t s → Like (RowStore.setCursor n c t) (RowStore.setCursor n c s)

namespace Simulation

variable {τ σ α β : Type} [RowStore τ] [RowStore σ] (S : Simulation τ σ)

/-- Actions that go alike: over tables that are alike they end in the same way, and leave tables
that are alike and the same of everything else. -/
def Follows (x : Action τ α) (y : Action σ α) : Prop :=
  ∀ (t : τ) (s : σ) (clock : Clock) (meter : Meter) (log : Log), S.Like t s →
    ∃ r t' s' clock' meter' log', S.Like t' s' ∧
      x.run ⟨t, clock, meter, log⟩ = (r, ⟨t', clock', meter', log'⟩) ∧
      y.run ⟨s, clock, meter, log⟩ = (r, ⟨s', clock', meter', log'⟩)

variable {S}

theorem Follows.bind {x : Action τ α} {y : Action σ α} {f : α → Action τ β} {g : α → Action σ β}
    (h : S.Follows x y) (hnext : ∀ a, S.Follows (f a) (g a)) : S.Follows (x >>= f) (y >>= g) := by
  intro t s clock meter log hlike
  obtain ⟨r, t', s', clock', meter', log', hlike', hx, hy⟩ := h t s clock meter log hlike
  cases r with
  | ok a =>
    rw [run_bind_ok hx, run_bind_ok hy]
    exact hnext a t' s' clock' meter' log' hlike'
  | error f =>
    rw [run_bind_error hx, run_bind_error hy]
    exact ⟨_, t', s', clock', meter', log', hlike', rfl, rfl⟩

theorem Follows.map {x : Action τ α} {y : Action σ α} (h : S.Follows x y) (f : α → β) :
    S.Follows (f <$> x) (f <$> y) := by
  intro t s clock meter log hlike
  obtain ⟨r, t', s', clock', meter', log', hlike', hx, hy⟩ := h t s clock meter log hlike
  exact ⟨_, t', s', clock', meter', log', hlike', Store.run_map hx f, Store.run_map hy f⟩

variable (S)

/-! ## Steps -/

theorem follows_pure (a : α) : S.Follows (pure a) (pure a) :=
  fun t s clock meter log hlike => ⟨_, t, s, clock, meter, log, hlike, rfl, rfl⟩

theorem follows_throw (f : Failure) : S.Follows (throw f : Action τ α) (throw f) :=
  fun t s clock meter log hlike => ⟨_, t, s, clock, meter, log, hlike, rfl, rfl⟩

theorem follows_valid (r : Except Invalid α) : S.Follows (Store.valid r) (Store.valid r) := by
  cases r with
  | ok a => exact S.follows_pure a
  | error reason => exact S.follows_throw (.invalid reason)

theorem follows_now : S.Follows Store.now Store.now :=
  fun t s clock meter log hlike => ⟨_, t, s, clock.read.2, meter, log, hlike, rfl, rfl⟩

theorem follows_note (level : Level) (message : String) (dimensions : Dimensions) :
    S.Follows (Store.note level message dimensions) (Store.note level message dimensions) :=
  fun t s clock meter log hlike =>
    ⟨_, t, s, clock, meter, Store.noted level message dimensions log, hlike, rfl, rfl⟩

theorem follows_onTable {access : Access τ α} {access' : Access σ α}
    (h : ∀ t s, S.Like t s → ∃ r t' s', S.Like t' s' ∧
      access.run t = (r, t') ∧ access'.run s = (r, s')) :
    S.Follows (Store.onTable access) (Store.onTable access') := by
  intro t s clock meter log hlike
  obtain ⟨r, t', s', hlike', ht, hs⟩ := h t s hlike
  exact ⟨r, t', s', clock, meter, log, hlike', Store.run_onTable _ ht, Store.run_onTable _ hs⟩

theorem follows_observed (operation : String) {x : Action τ α} {y : Action σ α}
    (h : S.Follows x y) : S.Follows (Store.observed operation x) (Store.observed operation y) := by
  intro t s clock meter log hlike
  obtain ⟨r, t', s', clock', meter', log', hlike', hx, hy⟩ := h t s clock meter.start.2 log hlike
  refine ⟨r, t', s', clock', meter'.finish operation (Outcome.ofResult r) meter.start.1, log',
    hlike', ?_, ?_⟩
  · rw [Store.run_observed_eq, hx]
  · rw [Store.run_observed_eq, hy]

variable [Caller]

theorem follows_connectionOf (way : Way) (row : Row) :
    S.Follows (Store.connectionOf way row) (Store.connectionOf way row) :=
  fun t s clock meter _ hlike =>
    ⟨_, t, s, clock, meter, _, hlike, Store.connectionOf_run way row _,
      Store.connectionOf_run way row _⟩

theorem follows_keep (filter : Filter) (rows : List Row) :
    S.Follows (Store.keep filter rows) (Store.keep filter rows) :=
  fun t s clock meter _ hlike =>
    ⟨_, t, s, clock, meter, _, hlike, Store.keep_run filter rows _, Store.keep_run filter rows _⟩

omit [Caller] in
/-- Rows are read from the same cursor, which is closed however that ends. -/
theorem follows_withRows (cursor : Nat) {f : List Row → Action τ α} {g : List Row → Action σ α}
    (h : ∀ rows, S.Follows (f rows) (g rows)) :
    S.Follows (Store.withRows cursor f) (Store.withRows cursor g) := by
  intro t s clock meter log hlike
  have hpending : RowStore.pending t cursor = RowStore.pending s cursor := by
    rw [RowStore.pending, RowStore.pending, S.cursor? cursor hlike]
  obtain ⟨r, t', s', clock', meter', log', hlike', hx, hy⟩ :=
    h (RowStore.pending t cursor) t s clock meter log hlike
  refine ⟨r, RowStore.close cursor t', RowStore.close cursor s', clock', meter', log', ?_,
    Store.withRows_run hx, Store.withRows_run (hpending ▸ hy)⟩
  -- closing is setting the cursor, or nothing where there is none, and that alike on both sides
  unfold RowStore.close
  rw [S.cursor? cursor hlike']
  cases RowStore.cursor? s' cursor with
  | none => exact hlike'
  | some c => exact S.setCursor cursor c.close hlike'

/-! ## Operations -/

theorem follows_find? (way : Way) (place : NamespacedId) :
    S.Follows (Store.find? way place) (Store.find? way place) := by
  refine (S.follows_onTable fun t s hlike => S.read place.key hlike).bind ?_
  intro found
  cases found with
  | none => exact S.follows_pure none
  | some row => exact (S.follows_connectionOf way row).map some

theorem follows_fetch (place : NamespacedId) :
    S.Follows (Store.fetch place) (Store.fetch place) := by
  refine (S.follows_find? .fetch place).bind ?_
  intro found
  cases found with
  | none => exact S.follows_throw (.connectionNotFound place.id)
  | some c => exact S.follows_pure c

theorem follows_claim (namespaceName : Value) (info : ConnectionMeta) :
    S.Follows (Store.claim namespaceName info) (Store.claim namespaceName info) := by
  refine (S.follows_valid _).bind ?_
  intro place
  refine (S.follows_find? .look place).bind ?_
  intro found
  cases found with
  | none => exact S.follows_pure place
  | some c =>
    refine (S.follows_note _ _ _).bind ?_
    intro _
    exact (S.follows_throw _).bind fun _ => S.follows_pure place

omit [Caller] in
theorem follows_settle (place : NamespacedId) (info : ConnectionMeta) :
    S.Follows (Store.settle place info) (Store.settle place info) := by
  refine S.follows_now.bind ?_
  intro time
  refine (S.follows_valid _).bind ?_
  intro c
  refine (S.follows_onTable fun t s hlike => S.upsert c.toRow hlike).bind ?_
  intro _
  exact (S.follows_note _ _ _).bind fun _ => S.follows_pure c.place

omit [Caller] in
theorem follows_revise (place : NamespacedId) (info : ConnectionMeta) (existing : Connection) :
    S.Follows (Store.revise place info existing) (Store.revise place info existing) := by
  refine S.follows_now.bind ?_
  intro time
  refine (S.follows_valid _).bind ?_
  intro c
  exact (S.follows_onTable fun t s hlike => S.upsert c.toRow hlike).bind
    fun _ => S.follows_note _ _ _

theorem follows_list (namespaceName : Value) (filter : Filter) :
    S.Follows (Store.list namespaceName filter) (Store.list namespaceName filter) := by
  refine S.follows_observed "list" ?_
  refine (S.follows_onTable fun t s hlike => S.scan _ none hlike).bind ?_
  intro cursor
  refine (S.follows_withRows cursor fun rows => S.follows_keep filter rows).bind ?_
  intro cs
  exact (S.follows_note _ _ _).bind fun _ => S.follows_pure cs

/-- Every operation goes alike over tables that are alike. -/
theorem run_follows (o : Operation) : S.Follows o.run o.run := by
  -- each operation is put together from steps of which each follows its counterpart
  cases o with
  | create namespaceName info =>
    exact (S.follows_observed "create"
      ((S.follows_claim _ info).bind fun place => S.follows_settle place info)).map _
  | get place => exact (S.follows_observed "get" (S.follows_fetch place)).map _
  | update place info =>
    exact (S.follows_observed "update"
      ((S.follows_fetch place).bind fun existing => S.follows_revise place info existing)).map _
  | delete place =>
    exact (S.follows_observed "delete"
      ((S.follows_onTable fun t s hlike => S.delete place.key hlike).bind
        fun _ => S.follows_note _ _ _)).map _
  | contains namespaceName name =>
    exact (S.follows_observed "exists" ((S.follows_valid _).bind fun place =>
      (S.follows_find? .look place).bind fun found => S.follows_pure found.isSome)).map _
  | list namespaceName filter => exact (S.follows_list _ filter).map _

end Simulation
end ConnectionCatalog
