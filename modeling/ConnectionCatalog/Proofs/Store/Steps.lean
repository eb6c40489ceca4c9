import ConnectionCatalog.Proofs.Store.Shelver
import ConnectionCatalog.Proofs.Store.Trace

/-! # Proofs.Store.Steps — operations, one call of the table at a time

`create` and `update` look before they write, and between the two another client may write.  Here
they take two steps, their two halves; every other operation takes one.

* `Operation.advance_twice`: two steps with nothing in between are the whole operation;
  `Operation.advance_twice_by` says so of two steps that are shown the same clock.
* `Shelver.advanced`: the ways in which a step can go, and the rows that it leaves.
-/

namespace ConnectionCatalog

open Access (run_bind_ok run_bind_error)

/-- Whether a clock gives a time when it is read. -/
def Clock.Gives (clock : Clock) (time : Int) : Prop :=
  ∃ v, clock.read.1 = .ok v ∧ checkWhole v = .ok time

/-- What is made of a time is made at the time that the clock gives. -/
theorem Clock.Gives.dated {clock : Clock} {time : Int} (h : clock.Gives time)
    {make : Value → Except Invalid Connection} {c : Connection}
    (hmake : ∀ v, checkWhole v = .ok time → make v = .ok c) : Store.dated make clock = .ok c := by
  obtain ⟨v, hv, hwhole⟩ := h
  exact Store.dated_eq_ok_iff.2 ⟨v, hv, hmake v hwhole⟩

/-- A new connection is created and updated at the time that the clock gives. -/
theorem Clock.Gives.dated_new {clock : Clock} {time : Int} (h : clock.Gives time)
    (place : NamespacedId) (info : ConnectionMeta) :
    Store.dated (fun v => Connection.ofMeta place info v v) clock =
      .ok ⟨place, info, time, time⟩ :=
  h.dated fun _ hv => Connection.ofMeta_eq_ok_iff.2 ⟨time, time, hv, hv, rfl⟩

/-- How far an operation has come. -/
inductive Stage
  | waiting
  | claimed (place : NamespacedId)
  | fetched (existing : Connection)
  | ended (r : Except Failure Reply)

namespace Operation

variable {τ : Type} [RowStore τ]

/-- Takes the next step of an operation, if there is one. -/
def advance [Caller] (env : Env τ) : Operation → Stage → Stage × Env τ
  | create namespaceName info, .waiting =>
    match (Store.claim (.text namespaceName) info).run env with
    | (.ok place, env) => (.claimed place, env)
    | (.error f, env) => (.ended (.error f), env)
  | create _ info, .claimed place =>
    let (r, env) := (Store.settle place info).run env
    (.ended (r.map .place), env)
  | update place _, .waiting =>
    match (Store.fetch place).run env with
    | (.ok existing, env) => (.fetched existing, env)
    | (.error f, env) => (.ended (.error f), env)
  | update place info, .fetched existing =>
    let (r, env) := (Store.revise place info existing).run env
    (.ended (r.map fun _ => .done), env)
  | o, .waiting =>
    let (r, env) := o.run.run env
    (.ended r, env)
  | _, stage => (stage, env)

/-- What the next step writes, unless it fails. -/
def writing (clock : Clock) : Operation → Stage → Option Write
  | create _ info, .claimed place =>
    (Store.dated (fun time => Connection.ofMeta place info time time) clock).toOption.map .put
  | update place info, .fetched existing =>
    (Store.dated (Connection.ofMeta place info (.int existing.created)) clock).toOption.map .put
  | delete place, .waiting => some (.drop place)
  | _, _ => none

end Operation

/-! ## Steps with nothing in between -/

namespace Operation

variable {τ α β : Type}

/-- Two halves that are observed together do the same as they do one after the other, except to the
meter. -/
theorem observed_halves (operation : String) {first : Action τ α} {second : α → Action τ β}
    (reply : β → Reply) (hfirst : Store.Traced first) (hsecond : ∀ a, Store.Traced (second a))
    (env : Env τ) :
    ∃ meter, (reply <$> Store.observed operation (first >>= second)).run env =
      match first.run env with
      | (.error f, env) => (.error f, { env with meter })
      | (.ok a, env) =>
        (((second a).run env).1.map reply, { ((second a).run env).2 with meter }) := by
  have hbody := (hfirst.bind hsecond).run_meter env env.meter.start.2
  obtain ⟨meter, hrun⟩ := Store.run_observed operation hbody
  refine ⟨meter, ?_⟩
  rw [Store.run_map hrun]
  -- the second half is run only where the first has succeeded
  cases h : first.run env with
  | mk r env' =>
    cases r with
    | ok a => rw [run_bind_ok h]
    | error f =>
      rw [run_bind_error h]
      rfl

/-! ### The two halves as steps -/

variable [Caller] [RowStore τ]

theorem advance_claim (namespaceName : String) (info : ConnectionMeta) (env : Env τ) :
    (create namespaceName info).advance env .waiting =
      match (Store.claim (.text namespaceName) info).run env with
      | (.ok place, env) => (.claimed place, env)
      | (.error f, env) => (.ended (.error f), env) := by
  rw [advance]

theorem advance_settle (namespaceName : String) (info : ConnectionMeta) (env : Env τ)
    (place : NamespacedId) :
    (create namespaceName info).advance env (.claimed place) =
      (.ended (((Store.settle place info).run env).1.map .place),
        ((Store.settle place info).run env).2) := by
  rw [advance]
  rfl

theorem advance_fetch (place : NamespacedId) (info : ConnectionMeta) (env : Env τ) :
    (update place info).advance env .waiting =
      match (Store.fetch place).run env with
      | (.ok existing, env) => (.fetched existing, env)
      | (.error f, env) => (.ended (.error f), env) := by
  rw [advance]

theorem advance_revise (place : NamespacedId) (info : ConnectionMeta) (env : Env τ)
    (existing : Connection) :
    (update place info).advance env (.fetched existing) =
      (.ended (((Store.revise place info existing).run env).1.map fun _ => .done),
        ((Store.revise place info existing).run env).2) := by
  rw [advance]
  rfl

theorem advance_delete (place : NamespacedId) (env : Env τ) :
    (delete place).advance env .waiting =
      (.ended ((delete place).run.run env).1, ((delete place).run.run env).2) := by
  rw [advance]
  · rfl
  · intro _ _ h
    cases h
  · intro _ _ h
    cases h

theorem advance_read {o : Operation} (ho : o.reads = true) (env : Env τ) :
    o.advance env .waiting = (.ended (o.run.run env).1, (o.run.run env).2) := by
  cases o <;> first | rfl | cases ho

theorem advance_ended (o : Operation) (env : Env τ) (r : Except Failure Reply) :
    o.advance env (.ended r) = (.ended r, env) := by
  cases o <;> rfl

/-- An operation that is over after one step is no other after two. -/
theorem twice_of_once {o : Operation} {env : Env τ}
    (h : o.advance env .waiting = (.ended (o.run.run env).1, (o.run.run env).2)) :
    let first := o.advance env .waiting
    let second := o.advance first.2 first.1
    second.1 = .ended (o.run.run env).1 ∧
      { second.2 with meter := (o.run.run env).2.meter } = (o.run.run env).2 := by
  intro first second
  have hfirst : first = _ := h
  have hsecond : second = o.advance first.2 first.1 := rfl
  rw [hsecond, hfirst, advance_ended]
  exact ⟨rfl, rfl⟩

/-- Where nothing comes between them, the steps of an operation are the whole of it: they end as it
does and leave what it leaves, except for the meter. -/
theorem advance_twice (o : Operation) (env : Env τ) :
    let first := o.advance env .waiting
    let second := o.advance first.2 first.1
    second.1 = .ended (o.run.run env).1 ∧
      { second.2 with meter := (o.run.run env).2.meter } = (o.run.run env).2 := by
  -- a creation and an update take two moves, the others are done after one
  cases o with
  | create namespaceName info =>
    intro first second
    obtain ⟨meter, hrun⟩ := observed_halves "create" Reply.place
      (Store.traced_claim (.text namespaceName) info)
      (fun place => Store.traced_settle place info) env
    have hrun' : (create namespaceName info).run.run env = _ := hrun
    have hfirst : first = _ := advance_claim namespaceName info env
    have hsecond : second = (create namespaceName info).advance first.2 first.1 := rfl
    rw [hrun', hsecond, hfirst]
    cases (Store.claim (.text namespaceName) info).run env with
    | mk r env' =>
      cases r with
      | ok place =>
        dsimp only
        rw [advance_settle]
        exact ⟨rfl, rfl⟩
      | error f => exact ⟨rfl, rfl⟩
  | update place info =>
    intro first second
    obtain ⟨meter, hrun⟩ := observed_halves "update" (fun _ => Reply.done)
      (Store.traced_fetch place) (Store.traced_revise place info) env
    have hrun' : (update place info).run.run env = _ := hrun
    have hfirst : first = _ := advance_fetch place info env
    have hsecond : second = (update place info).advance first.2 first.1 := rfl
    rw [hrun', hsecond, hfirst]
    cases (Store.fetch place).run env with
    | mk r env' =>
      cases r with
      | ok existing =>
        dsimp only
        rw [advance_revise]
        exact ⟨rfl, rfl⟩
      | error f => exact ⟨rfl, rfl⟩
  | delete place => exact twice_of_once (advance_delete place env)
  | get place => exact twice_of_once (advance_read rfl env)
  | contains namespaceName name => exact twice_of_once (advance_read rfl env)
  | list namespaceName filter => exact twice_of_once (advance_read rfl env)

/-- The first half of an operation does not read the clock. -/
theorem advance_ended_or_clock (o : Operation) (env : Env τ) :
    (∃ r, (o.advance env .waiting).1 = .ended r) ∨
      (o.advance env .waiting).2.clock = env.clock := by
  -- the clock is read in the second half only
  cases o with
  | create namespaceName info =>
    have hread : (RowStore.read (Store.placeOf namespaceName info.name).key).run env.table = _ :=
      Prod.ext rfl rfl
    obtain ⟨log, hclaim⟩ := Store.claim_course env hread
    rw [advance_claim, hclaim]
    split
    · rename_i hrun
      exact .inr (congrArg (fun p => p.2.clock) hrun).symm
    · exact .inl ⟨_, rfl⟩
  | update place info =>
    have hread : (RowStore.read place.key).run env.table = _ := Prod.ext rfl rfl
    obtain ⟨log, hfetch⟩ := Store.fetch_course env hread
    rw [advance_fetch, hfetch]
    split
    · rename_i hrun
      exact .inr (congrArg (fun p => p.2.clock) hrun).symm
    · exact .inl ⟨_, rfl⟩
  | delete place => exact .inl ⟨_, congrArg Prod.fst (advance_delete place env)⟩
  | get place => exact .inl ⟨_, rfl⟩
  | contains namespaceName name => exact .inl ⟨_, rfl⟩
  | list namespaceName filter => exact .inl ⟨_, rfl⟩

/-- Two steps by one clock are the whole operation. -/
theorem advance_twice_by (o : Operation) (env : Env τ) :
    let first := o.advance env .waiting
    let second := o.advance { first.2 with clock := env.clock } first.1
    second.1 = .ended (o.run.run env).1 ∧ second.2.table = (o.run.run env).2.table := by
  intro first second
  obtain ⟨hended, hleft⟩ := o.advance_twice env
  have htable := congrArg Env.table hleft
  rcases o.advance_ended_or_clock env with ⟨r, hr⟩ | hclock
  · -- an operation that has ended stays as it is, whatever the clock
    have hr' : first.1 = .ended r := hr
    have hsecond : second = (.ended r, { first.2 with clock := env.clock }) := by
      show o.advance _ first.1 = _
      rw [hr', advance_ended]
    rw [hr, advance_ended] at hended htable
    rw [hsecond]
    exact ⟨hended, htable⟩
  · have hsame : ({ first.2 with clock := env.clock } : Env τ) = first.2 := by
      rw [← hclock]
    have hsecond : second = o.advance first.2 first.1 := by
      show o.advance { first.2 with clock := env.clock } first.1 = _
      rw [hsame]
    rw [hsecond]
    exact ⟨hended, htable⟩

end Operation

/-! ## What a step does -/

/-- How a step goes over some rows, by the clock: to what stage it comes, the rows that it leaves,
and what it has written. -/
inductive Operation.Advanced [Caller] (es : Shelf) (clock : Clock) :
    Operation → Stage → Stage → Shelf → Option Write → Prop
  | claimed {namespaceName : String} {info : ConnectionMeta}
    (hrow : es.rowAt (Store.placeOf namespaceName info.name) = none) :
    Advanced es clock (.create namespaceName info) .waiting
      (.claimed (Store.placeOf namespaceName info.name)) es none
  | fetched {place : NamespacedId} {info : ConnectionMeta} {row : Row} {existing : Connection}
    (hrow : es.rowAt place = some row) (hexisting : Connection.ofRow .fetch row = .ok existing) :
    Advanced es clock (.update place info) .waiting (.fetched existing) es none
  | failed {o : Operation} {stage : Stage} {f : Failure} (hstage : ∀ r, stage ≠ .ended r) :
    Advanced es clock o stage (.ended (.error f)) es none
  | read {o : Operation} {reply : Reply} (ho : o.reads = true) :
    Advanced es clock o .waiting (.ended (.ok reply)) es none
  | wrote {o : Operation} {stage : Stage} {reply : Reply} {w : Write}
    (hw : o.writing clock stage = some w) :
    Advanced es clock o stage (.ended (.ok reply)) (es.after w (.ok ())) (some w)
  | stayed {o : Operation} {stage : Stage} (hstage : stage ≠ .waiting) :
    Advanced es clock o stage stage es none

/-- What a step has written, by the stage to which it came. -/
def Stage.wrote (writing : Option Write) : Stage → Option Write
  | .ended (.ok _) => writing
  | _ => none

namespace Shelver

variable [Caller] {τ : Type} [RowStore τ] (H : Shelver τ) {env : Env τ} {es : Shelf}

/-- A step over a table with some rows goes in one of these ways: it leaves the rows that the way
says, has written what the way says, and leaves a calm table calm. -/
def Goes (es : Shelf) (env : Env τ) (o : Operation) (stage : Stage) (next : Stage × Env τ) : Prop :=
  ∃ es' w?, o.Advanced es env.clock stage next.1 es' w? ∧ H.Has next.2.table es' ∧
    next.1.wrote (o.writing env.clock stage) = w? ∧ (H.Calm env.table → H.Calm next.2.table)

/-- What is written now, and then noted, ends as its write does. -/
theorem booked_advanced {α : Type} {o : Operation} {stage : Stage} {body : Action τ α}
    {make : Value → Except Invalid Connection} {level : Level} {message : String}
    {dimensions : Dimensions} (last : Connection → α) (reply : α → Reply)
    (h : H.Has env.table es) (hstage : ∀ r, stage ≠ .ended r)
    (hwriting : o.writing env.clock stage =
      (Store.dated make env.clock).toOption.map Write.put)
    (hbody : body = (do
      let c ← Store.valid (make (← Store.now))
      Store.onTable (RowStore.upsert c.toRow)
      Store.note level message dimensions
      return last c)) :
    H.Goes es env o stage (.ended ((body.run env).1.map reply), (body.run env).2) := by
  have hbooked := Store.booked_course make level message dimensions last env
  -- without a date the operation ends with the failure of the clock, and nothing is written
  cases hc : Store.dated make env.clock with
  | error f =>
    simp only [hc] at hbooked
    rw [hbody, hbooked]
    exact ⟨es, none, .failed hstage, h, rfl, id⟩
  | ok c =>
    rw [hc] at hwriting
    simp only [hc] at hbooked
    obtain ⟨after, hwrite, hrun⟩ := hbooked
    have hafter := H.writes (.put c) h
    have hcalm := fun hcalm => (H.verdict (.put c) h hcalm).2
    rw [hwrite] at hafter hcalm
    rw [hbody, hrun]
    cases hr : ((Write.put c).access.run env.table).1 with
    | error f =>
      rw [hr] at hafter
      exact ⟨es, none, .failed hstage, hafter, rfl, hcalm⟩
    | ok _ =>
      rw [hr] at hafter
      exact ⟨_, some (.put c), .wrote hwriting, hafter, hwriting, hcalm⟩

/-- A place is claimed where no row is found at it. -/
theorem claim_advanced (h : H.Has env.table es) (namespaceName : String) (info : ConnectionMeta) :
    let o := Operation.create namespaceName info
    H.Goes es env o .waiting (o.advance env .waiting) := by
  intro o
  have hframe := H.looking.keeps_claim (.text namespaceName) info env
  cases hread : (RowStore.read (Store.placeOf namespaceName info.name).key).run env.table with
  | mk found t =>
    obtain ⟨log, hclaim⟩ := Store.claim_course env hread
    rw [hclaim] at hframe
    have hadvance : o.advance env .waiting = _ := Operation.advance_claim namespaceName info env
    rw [hclaim] at hadvance
    rw [hadvance]
    -- looking leaves the rows as they are, whatever comes of it
    cases hclaimed : found.bind (Store.claimed (Store.placeOf namespaceName info.name) info) with
    | error f =>
      exact ⟨es, none, .failed (by simp), H.looked hframe h, rfl, H.calm hframe⟩
    | ok place =>
      obtain ⟨row?, rfl, hclaimed⟩ := Except.bind_eq_ok_iff.1 hclaimed
      obtain ⟨rfl, rfl⟩ := Store.claimed_eq_ok_iff.1 hclaimed
      have hrow := H.found h (congrArg Prod.fst hread)
      exact ⟨es, none, .claimed hrow.symm, H.looked hframe h, rfl, H.calm hframe⟩

/-- A connection is fetched from the row that is found at its place. -/
theorem fetch_advanced (h : H.Has env.table es) (place : NamespacedId) (info : ConnectionMeta) :
    let o := Operation.update place info
    H.Goes es env o .waiting (o.advance env .waiting) := by
  intro o
  have hframe := H.looking.keeps_fetch place env
  cases hread : (RowStore.read place.key).run env.table with
  | mk found t =>
    obtain ⟨log, hfetch⟩ := Store.fetch_course env hread
    rw [hfetch] at hframe
    have hadvance : o.advance env .waiting = _ := Operation.advance_fetch place info env
    rw [hfetch] at hadvance
    rw [hadvance]
    cases hfetched : found.bind (Store.fetched place) with
    | error f =>
      exact ⟨es, none, .failed (by simp), H.looked hframe h, rfl, H.calm hframe⟩
    | ok existing =>
      obtain ⟨row?, rfl, hfetched⟩ := Except.bind_eq_ok_iff.1 hfetched
      have hrow := H.found h (congrArg Prod.fst hread)
      -- a row that is not there cannot have been read
      cases row? with
      | none => cases hfetched
      | some row =>
        exact ⟨es, none, .fetched hrow.symm hfetched, H.looked hframe h, rfl, H.calm hframe⟩

theorem delete_advanced (h : H.Has env.table es) (place : NamespacedId) :
    let o := Operation.delete place
    H.Goes es env o .waiting (o.advance env .waiting) := by
  intro o
  have hadvance : o.advance env .waiting = _ := Operation.advance_delete place env
  have hcourse := o.course H.looking env
  rw [hadvance]
  cases hrun : o.run.run env with
  | mk r after =>
    rw [hrun] at hcourse
    -- a deletion always comes to its write
    cases hcourse with
    | looked hprepared _ => cases hprepared
    | refused hprepared _ => cases hprepared
    | @wrote w middle _ result hprepared hframe hwrite =>
      obtain rfl := Option.some.inj (Except.ok.inj hprepared)
      have hafter := H.writes (.drop place) (H.looked hframe h)
      have hcalm := fun hcalm =>
        (H.verdict (.drop place) (H.looked hframe h) (H.calm hframe hcalm)).2
      rw [hwrite] at hafter hcalm
      cases result with
      | error f => exact ⟨es, none, .failed (by simp), hafter, rfl, hcalm⟩
      | ok _ => exact ⟨_, some (.drop place), .wrote rfl, hafter, rfl, hcalm⟩

theorem reads_advanced (h : H.Has env.table es) {o : Operation} (ho : o.reads = true) :
    H.Goes es env o .waiting (o.advance env .waiting) := by
  have hframe := H.looking.reads_keeps ho env
  have hadvance := Operation.advance_read ho env
  have hwriting : o.writing env.clock .waiting = none := by
    cases o <;> first | rfl | cases ho
  rw [hadvance]
  cases hr : (o.run.run env).1 with
  | error f => exact ⟨es, none, .failed (by simp), H.looked hframe h, rfl, H.calm hframe⟩
  | ok reply => exact ⟨es, none, .read ho, H.looked hframe h, hwriting, H.calm hframe⟩

/-- A step goes in one of these ways, and leaves the rows of its table as they say. -/
theorem advanced (h : H.Has env.table es) (o : Operation) (stage : Stage) :
    H.Goes es env o stage (o.advance env stage) := by
  -- where the stage is none of the operation, nothing happens
  have hstayed : stage ≠ .waiting → o.advance env stage = (stage, env) →
      o.writing env.clock stage = none → H.Goes es env o stage (o.advance env stage) := by
    intro hstage hadvance hwriting
    rw [hadvance]
    refine ⟨es, none, .stayed hstage, h, ?_, id⟩
    rw [hwriting]
    cases stage with
    | ended r => cases r <;> rfl
    | _ => rfl
  cases stage with
  | waiting =>
    cases o with
    | create namespaceName info => exact H.claim_advanced h namespaceName info
    | update place info => exact H.fetch_advanced h place info
    | delete place => exact H.delete_advanced h place
    | get place => exact H.reads_advanced h rfl
    | contains namespaceName name => exact H.reads_advanced h rfl
    | list namespaceName filter => exact H.reads_advanced h rfl
  | claimed place =>
    cases o with
    | create namespaceName info =>
      exact H.booked_advanced Connection.place Reply.place h (by simp) rfl rfl
    | _ => exact hstayed (by simp) rfl rfl
  | fetched existing =>
    cases o with
    | update place info =>
      exact H.booked_advanced (fun _ => ()) (fun _ => Reply.done) h (by simp) rfl rfl
    | _ => exact hstayed (by simp) rfl rfl
  | ended r => cases o <;> exact hstayed (by simp) rfl rfl

/-! ### Creations over a calm table -/

/-- A creation that looks at its place claims it or fails, as the row there decides. -/
theorem create_waiting (h : H.Has env.table es) (hcalm : H.Calm env.table)
    (namespaceName : String) (info : ConnectionMeta) :
    ((Operation.create namespaceName info).advance env .waiting).1 =
      match Store.claimed (Store.placeOf namespaceName info.name) info
        (es.rowAt (Store.placeOf namespaceName info.name)) with
      | .ok place => .claimed place
      | .error f => .ended (.error f) := by
  have hclaim : (Store.claim (.text namespaceName) info).run env = _ :=
    Store.claim_run (Prod.ext (H.reads (Store.placeOf namespaceName info.name) h hcalm) rfl)
  rw [Operation.advance_claim, hclaim]
  cases Store.claimed (Store.placeOf namespaceName info.name) info
    (es.rowAt (Store.placeOf namespaceName info.name)) <;> rfl

/-- A creation that has claimed its place succeeds at a time that its table can hold. -/
theorem create_claimed (h : H.Has env.table es) (hcalm : H.Calm env.table) {time : Int}
    (htime : env.clock.Gives time) {namespaceName : String} {info : ConnectionMeta}
    {place : NamespacedId} (hfits : H.refusal? ⟨place, info, time, time⟩ = none) :
    ((Operation.create namespaceName info).advance env (.claimed place)).1 =
      .ended (.ok (.place place)) := by
  have hdated := htime.dated_new place info
  have hbooked := Store.booked_course (fun v => Connection.ofMeta place info v v) .info
    ("Created " ++ info.type.name ++ " connection '" ++ info.name ++ "'")
    (Store.dimensions place) Connection.place env
  simp only [hdated] at hbooked
  obtain ⟨after, -, hrun⟩ := hbooked
  have hverdict : ((Write.put ⟨place, info, time, time⟩).access.run env.table).1 = .ok () := by
    rw [(H.verdict _ h hcalm).1, Write.verdict, hfits]
    rfl
  have hsettle : (Store.settle place info).run env = _ := hrun
  rw [Operation.advance_settle, hsettle, hverdict]
  rfl

end Shelver
end ConnectionCatalog
