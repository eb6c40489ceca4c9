import ConnectionCatalog.Proofs.Store.Events
import ConnectionCatalog.Proofs.Store.Reading
import ConnectionCatalog.Proofs.Store.Shelf

/-! # Proofs.Store.Shelver — a store over rows of any content

What an operation gives, and the rows that it leaves, depend on nothing of a table but its rows.
`Shelf.answer` and `Shelf.left` say how, and a `Shelver` says which tables have which rows: those
that keep them through every call, whether or not the call succeeds, and that answer every call as
long as they are calm.  Only scans ask that each row stands at a place.

* `Shelver.step_of_scans`: an operation over a calm table gives the shelf's answer and leaves its
  rows.
* `Shelf.planned_congr`, `Shelf.answer_congr`: what an operation is about decides what it gives.
* `Shelf.rowAt_left`: an operation leaves every row alone that it is not about.
-/

namespace ConnectionCatalog

/-! ## What operations are about -/

/-- How a write ends, where some connections are refused. -/
def Write.verdict (refusal? : Connection → Option Failure) : Write → Except Failure Unit
  | put c => (refusal? c).elim (.ok ()) .error
  | drop _ => .ok ()

namespace Operation

/-- The place that an operation is about; a listing is about no single one. -/
def place? : Operation → Option NamespacedId
  | create namespaceName info => some (Store.placeOf namespaceName info.name)
  | get place | update place _ | delete place => some place
  | contains namespaceName name => some (Store.placeOf namespaceName name)
  | list .. => none

/-- The namespace that an operation is about. -/
def namespaceName : Operation → String
  | create namespaceName _ | contains namespaceName _ | list namespaceName _ => namespaceName
  | get place | update place _ | delete place => place.namespaceName

/-- Whether all places that an operation is about are among some. -/
def Within (P : NamespacedId → Prop) (o : Operation) : Prop :=
  match o.place? with
  | some place => P place
  | none => ∀ place, place.namespaceName = o.namespaceName → P place

end Operation

/-! ## What operations give and leave -/

namespace Shelf

variable [Caller] (refusal? : Connection → Option Failure) (es : Shelf) (clock : Clock)

/-- What an operation is about to write, if it writes at all, or why it fails before that. -/
def planned : Operation → Except Failure (Option Write)
  | .create namespaceName info => do
    let place ← Store.claimed (Store.placeOf namespaceName info.name) info
      (es.rowAt (Store.placeOf namespaceName info.name))
    let c ← Store.dated (fun time => Connection.ofMeta place info time time) clock
    return some (.put c)
  | .update place info => do
    let existing ← Store.fetched place (es.rowAt place)
    let c ← Store.dated (Connection.ofMeta place info (.int existing.created)) clock
    return some (.put c)
  | .delete place => return some (.drop place)
  | .get _ | .contains .. | .list .. => return none

/-- What an operation returns or raises. -/
def answer : Operation → Except Failure Reply
  | .get place => (Store.fetched place (es.rowAt place)).map Reply.connection
  | .contains namespaceName name =>
    (Store.looked .look (es.rowAt (Store.placeOf namespaceName name))).map fun found =>
      .truth found.isSome
  | .list namespaceName filter => (filter.gather (es.within namespaceName)).map Reply.connections
  | o => do
    match ← es.planned clock o with
    | some w => (w.verdict refusal?).map fun _ => o.receipt
    | none => return o.receipt

/-- The rows that an operation leaves. -/
def left (o : Operation) : Shelf :=
  match es.planned clock o with
  | .ok (some w) => es.after w (w.verdict refusal?)
  | _ => es

variable {refusal? es clock} {es' : Shelf} {o : Operation} {P : NamespacedId → Prop}

theorem Worded.left (h : es.Worded) (o : Operation) : (es.left refusal? clock o).Worded := by
  unfold Shelf.left
  split
  · exact h.after _ _
  · exact h

theorem Sound.left (h : es.Sound) (o : Operation) : (es.left refusal? clock o).Sound := by
  unfold Shelf.left
  split
  · exact h.after _ _
  · exact h

/-- What is written is written where the operation is about. -/
theorem place?_of_planned {w : Write} (h : es.planned clock o = .ok (some w)) :
    o.place? = some w.place := by
  -- a creation writes at the place it has claimed, an update at the one it was asked for
  cases o with
  | create namespaceName info =>
    obtain ⟨place, hplace, h⟩ := Except.bind_eq_ok_iff.1 h
    obtain ⟨c, hc, h⟩ := Except.bind_eq_ok_iff.1 h
    obtain rfl := Option.some.inj (Except.ok.inj h)
    have hclaimed := (Store.claimed_eq_ok_iff.1 hplace).2
    have hat := Store.place_of_dated (fun _ _ hmade => Store.place_of_ofMeta hmade) hc
    rw [Write.place, hat, hclaimed]
    rfl
  | update place info =>
    obtain ⟨existing, -, h⟩ := Except.bind_eq_ok_iff.1 h
    obtain ⟨c, hc, h⟩ := Except.bind_eq_ok_iff.1 h
    obtain rfl := Option.some.inj (Except.ok.inj h)
    have hat := Store.place_of_dated (fun _ _ hmade => Store.place_of_ofMeta hmade) hc
    rw [Write.place, hat]
    rfl
  | delete place =>
    obtain rfl := Option.some.inj (Except.ok.inj h)
    rfl
  | get place => cases h
  | contains namespaceName name => cases h
  | list namespaceName filter => cases h

theorem reads_of_planned {x : Except Failure (Option Write)} (h : es.planned clock o = x)
    (hx : x ≠ .ok none) : o.reads = false := by
  subst h
  cases o <;> first | rfl | exact absurd rfl hx

/-- What an operation gives that may write is what becomes of its write. -/
theorem answer_of_writes (ho : o.reads = false) :
    es.answer refusal? clock o = (es.planned clock o).bind fun w? =>
      match w? with
      | some w => (w.verdict refusal?).map fun _ => o.receipt
      | none => .ok o.receipt := by
  cases o <;> first | rfl | cases ho

theorem answer_of_planned_error {f : Failure} (h : es.planned clock o = .error f) :
    es.answer refusal? clock o = .error f := by
  rw [answer_of_writes (reads_of_planned h nofun), h]
  rfl

theorem answer_of_planned_some {w : Write} (h : es.planned clock o = .ok (some w)) :
    es.answer refusal? clock o = (w.verdict refusal?).map fun _ => o.receipt := by
  rw [answer_of_writes (reads_of_planned h nofun), h]
  rfl

/-- An operation that fails leaves the rows. -/
theorem left_of_answer_error {f : Failure} (h : es.answer refusal? clock o = .error f) :
    es.left refusal? clock o = es := by
  unfold Shelf.left
  split
  · rename_i w hplanned
    rw [answer_of_planned_some hplanned] at h
    -- a write that the table accepts would have been a success
    cases hverdict : w.verdict refusal? with
    | error g => rfl
    | ok _ =>
      rw [hverdict] at h
      cases h
  · rfl

/-- An operation leaves every row alone that it is not about. -/
theorem Sound.rowAt_left (h : es.Sound) {place : NamespacedId} (hplace : o.place? ≠ some place) :
    (es.left refusal? clock o).rowAt place = es.rowAt place := by
  unfold Shelf.left
  split
  · rename_i w hplanned
    have hw := place?_of_planned hplanned
    cases hverdict : w.verdict refusal? with
    | error f => rfl
    | ok _ =>
      -- an operation writes at its own place only
      have hne : w.place ≠ place := by
        rintro rfl
        exact hplace hw
      rw [h.distinct.rowAt_after, if_neg hne]
  · rfl

/-- Rows that agree on what an operation is about are told apart by nothing that it plans. -/
theorem planned_congr (hrows : ∀ place, P place → es.rowAt place = es'.rowAt place)
    (ho : o.Within P) : es.planned clock o = es'.planned clock o := by
  cases o with
  | create namespaceName info =>
    have hrow := hrows (Store.placeOf namespaceName info.name) ho
    simp only [planned, hrow]
  | update place info =>
    have hrow := hrows place ho
    simp only [planned, hrow]
  | delete place => rfl
  | get place => rfl
  | contains namespaceName name => rfl
  | list namespaceName filter => rfl

theorem answer_congr (h : es.Sound) (h' : es'.Sound)
    (hrows : ∀ place, P place → es.rowAt place = es'.rowAt place) (ho : o.Within P) :
    es.answer refusal? clock o = es'.answer refusal? clock o := by
  cases o with
  | create namespaceName info => simp only [answer, planned_congr hrows ho]
  | update place info => simp only [answer, planned_congr hrows ho]
  | delete place => rfl
  | get place =>
    have hrow := hrows place ho
    simp only [answer, hrow]
  | contains namespaceName name =>
    have hrow := hrows (Store.placeOf namespaceName name) ho
    simp only [answer, hrow]
  | list namespaceName filter =>
    -- a listing works within `P` only if the whole namespace is in it
    have hwithin : es.within namespaceName = es'.within namespaceName :=
      h.within_congr h' fun place hplace => hrows place (ho place hplace)
    simp only [answer, hwithin]

/-- Rows that agree on some places agree on them after an operation that is about no other. -/
theorem rowAt_left_congr (h : es.Sound) (h' : es'.Sound)
    (hrows : ∀ place, P place → es.rowAt place = es'.rowAt place) (ho : o.Within P)
    {place : NamespacedId} (hplace : P place) :
    (es.left refusal? clock o).rowAt place = (es'.left refusal? clock o).rowAt place := by
  unfold left
  -- the same write is planned over both
  rw [planned_congr hrows ho]
  cases es'.planned clock o with
  | error f => exact hrows place hplace
  | ok w? =>
    cases w? with
    | none => exact hrows place hplace
    | some w =>
      dsimp only
      cases w.verdict refusal? with
      | error f => exact hrows place hplace
      | ok _ => rw [h.distinct.rowAt_after, h'.distinct.rowAt_after, hrows place hplace]

end Shelf

/-! ## Tables with rows of any content -/

/-- Scans of a table run over the rows of a namespace, in the order of their keys. -/
def Store.Scans {τ : Type} [RowStore τ] (t : τ) (es : Shelf) : Prop :=
  ∀ namespaceName, ∃ cursor t',
    (RowStore.scan (namespaceRange namespaceName) none).run t = (.ok cursor, t') ∧
      RowStore.pending t' cursor = es.within namespaceName

/-- How tables have rows.  `Has` says which table has which rows, `Calm` that no call of it was made
to fail, and `refusal?` which connections it cannot hold. -/
structure Shelver (τ : Type) [RowStore τ] where
  Has : τ → Shelf → Prop
  Calm : τ → Prop
  refusal? : Connection → Option Failure
  looking : Frame τ
  distinct {t : τ} {es : Shelf} : Has t es → es.Distinct
  looked {env env' : Env τ} {es : Shelf} :
    looking.Allows env env' → Has env.table es → Has env'.table es
  calm {env env' : Env τ} : looking.Allows env env' → Calm env.table → Calm env'.table
  found {t : τ} {es : Shelf} {place : NamespacedId} {found : Option Row} :
    Has t es → ((RowStore.read place.key).run t).1 = .ok found → found = es.rowAt place
  reads {t : τ} {es : Shelf} (place : NamespacedId) :
    Has t es → Calm t → ((RowStore.read place.key).run t).1 = .ok (es.rowAt place)
  writes {t : τ} {es : Shelf} (w : Write) :
    Has t es → Has (w.access.run t).2 (es.after w (w.access.run t).1)
  verdict {t : τ} {es : Shelf} (w : Write) :
    Has t es → Calm t → (w.access.run t).1 = w.verdict refusal? ∧ Calm (w.access.run t).2
  scans {t : τ} {es : Shelf} (namespaceName : String) :
    Has t es → es.Sound → Calm t → ∃ cursor t',
      (RowStore.scan (Store.namespaceRange namespaceName) none).run t = (.ok cursor, t') ∧
        RowStore.pending t' cursor = es.within namespaceName

namespace Shelver

variable [Caller] {τ : Type} [RowStore τ] (H : Shelver τ) {env : Env τ} {es : Shelf}

theorem prepared_eq (h : H.Has env.table es) (hcalm : H.Calm env.table) (o : Operation) :
    o.prepared env = es.planned env.clock o := by
  -- only the operations that look before they write depend on the rows
  cases o with
  | create namespaceName info =>
    rw [Operation.prepared_create
      (Prod.ext (H.reads (Store.placeOf namespaceName info.name) h hcalm) rfl)]
    rfl
  | update place info =>
    rw [Operation.prepared_update info (Prod.ext (H.reads place h hcalm) rfl)]
    rfl
  | delete place => rfl
  | get place => rfl
  | contains namespaceName name => rfl
  | list namespaceName filter => rfl

/-- An operation that only reads gives the shelf's answer. -/
theorem reads_answer (h : H.Has env.table es) (hscans : Store.Scans env.table es)
    (hcalm : H.Calm env.table) {o : Operation} (ho : o.reads = true) :
    (o.run.run env).1 = es.answer H.refusal? env.clock o := by
  -- the operations that write are excluded by the hypothesis
  cases o with
  | get place =>
    have hrun := Store.get_run (Prod.ext (H.reads place h hcalm) rfl)
    rw [Operation.run, Store.run_map hrun]
    rfl
  | contains namespaceName name =>
    have hrun := Store.contains_run
      (Prod.ext (H.reads (Store.placeOf namespaceName name) h hcalm) rfl)
    rw [Operation.run, Store.run_map hrun, Shelf.answer]
    cases Store.looked .look (es.rowAt (Store.placeOf namespaceName name)) <;> rfl
  | list namespaceName filter =>
    obtain ⟨cursor, t, hscan, hpending⟩ := hscans namespaceName
    have hlist := Store.list_answers hscan filter
    rw [hpending] at hlist
    rw [Operation.run, Store.run_map (Prod.ext hlist rfl)]
    rfl
  | create namespaceName info => cases ho
  | update place info => cases ho
  | delete place => cases ho

/-- Over a calm table whose scans run in order, an operation gives the shelf's answer and leaves the
shelf's rows. -/
theorem step_of_scans (h : H.Has env.table es) (hscans : Store.Scans env.table es)
    (hcalm : H.Calm env.table) (o : Operation) :
    (o.run.run env).1 = es.answer H.refusal? env.clock o ∧
      H.Has (o.run.run env).2.table (es.left H.refusal? env.clock o) ∧
      H.Calm (o.run.run env).2.table := by
  have hprepared := H.prepared_eq h hcalm o
  have hcourse := o.course H.looking env
  unfold Shelf.left
  rw [← hprepared]
  cases hrun : o.run.run env with
  | mk r after =>
    rw [hrun] at hcourse
    -- an operation only looks, is refused before its write, or writes
    cases hcourse with
    | looked hnone hframe =>
      have hanswer := H.reads_answer h hscans hcalm (Operation.reads_of_prepared hnone)
      rw [hrun] at hanswer
      rw [hnone]
      exact ⟨hanswer, H.looked hframe h, H.calm hframe hcalm⟩
    | refused herror hframe =>
      rw [Shelf.answer_of_planned_error (hprepared.symm.trans herror), herror]
      exact ⟨rfl, H.looked hframe h, H.calm hframe hcalm⟩
    | @wrote w middle _ result hsome hframe hwrite =>
      have hmiddle := H.looked hframe h
      obtain ⟨hverdict, hcalm'⟩ := H.verdict w hmiddle (H.calm hframe hcalm)
      have hafter := H.writes w hmiddle
      rw [hwrite] at hverdict hcalm' hafter
      rw [Shelf.answer_of_planned_some (hprepared.symm.trans hsome), hsome]
      refine ⟨?_, ?_, hcalm'⟩
      · show _ = (w.verdict H.refusal?).map fun _ => o.receipt
        rw [← hverdict]
      · show H.Has after.table (es.after w (w.verdict H.refusal?))
        rw [← hverdict]
        exact hafter

theorem step (h : H.Has env.table es) (hsound : es.Sound) (hcalm : H.Calm env.table)
    (o : Operation) :
    (o.run.run env).1 = es.answer H.refusal? env.clock o ∧
      H.Has (o.run.run env).2.table (es.left H.refusal? env.clock o) ∧
      H.Calm (o.run.run env).2.table :=
  H.step_of_scans h (fun namespaceName => H.scans namespaceName h hsound hcalm) hcalm o

end Shelver
end ConnectionCatalog
