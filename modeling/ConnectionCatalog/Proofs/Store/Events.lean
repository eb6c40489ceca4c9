import ConnectionCatalog.Proofs.Store.Frame
import ConnectionCatalog.Proofs.Table.Memory

/-! # Proofs.Store.Events — a store between disturbances of its table

Between the operations of a store anything may happen to its table that leaves the rows alone: calls
are made to fail, and work again.  An operation then succeeds or fails at any point.  Whichever it
is, the table holds a directory before and after.

* `Holder`: tables that hold directories, whether or not their calls succeed.
* `Holder.step_holds`: an operation that succeeds leaves what the directory answers, one that fails
  leaves the directory as it was.
* `Directory.Sound`: ids are their own ids, and no entry was updated before it was created or after
  the clock's last reading; `Sound.after` keeps it up over one operation.
* `Holder.play_holds`: over events of any number the directory stays sound, and each entry has been
  there since the creation that made it.
-/

namespace ConnectionCatalog

/-! ## Clocks and times -/

/-- Whether a clock shows a time: what it gives is not taken for any other.  A clock that fails, or
gives what is no time, shows every time. -/
def Clock.Shows (clock : Clock) (time : Int) : Prop :=
  ∀ v n, clock.read.1 = .ok v → checkWhole v = .ok n → n = time

theorem Clock.shows_manual {v : Value} {time : Int} (h : checkWhole v = .ok time) (reads : Nat) :
    (manual v reads).Shows time := by
  intro w n hw hn
  obtain rfl := Except.ok.inj hw
  exact Except.ok.inj (hn.symm.trans h)

theorem Connection.ofMeta_eq_ok_iff {place : NamespacedId} {info : ConnectionMeta}
    {created updated : Value} {c : Connection} :
    ofMeta place info created updated = .ok c ↔
      ∃ m n, checkWhole created = .ok m ∧ checkWhole updated = .ok n ∧ c = ⟨place, info, m, n⟩ := by
  simp only [ofMeta_eq, Checked.forRecord_eq_ok_iff, Checked.map_eq_ok_iff, Checked.both_eq_ok_iff,
    Checked.atPath_eq_ok_iff, Prod.exists]
  constructor
  · rintro ⟨m, n, ⟨hm, hn⟩, rfl⟩
    exact ⟨m, n, hm, hn, rfl⟩
  · rintro ⟨m, n, hm, hn, rfl⟩
    exact ⟨m, n, ⟨hm, hn⟩, rfl⟩

theorem Store.dated_eq_ok_iff {make : Value → Except Invalid Connection} {clock : Clock}
    {c : Connection} :
    dated make clock = .ok c ↔ ∃ v, clock.read.1 = .ok v ∧ make v = .ok c := by
  refine Except.bind_eq_ok_iff.trans ?_
  refine exists_congr fun v => and_congr_right fun _ => ?_
  cases make v with
  | error e => exact ⟨nofun, nofun⟩
  | ok a => exact ⟨fun h => congrArg Except.ok (Except.ok.inj h),
      fun h => congrArg Except.ok (Except.ok.inj h)⟩

/-! ## Operations that succeed or fail -/

namespace Operation

variable [Caller] {τ : Type} [RowStore τ] {F : Frame τ} {env : Env τ} {o : Operation}

/-- Only an operation that never writes has nothing to write. -/
theorem reads_of_prepared (h : o.prepared env = .ok none) : o.reads = true := by
  cases o with
  | create namespaceName info =>
    rw [prepared_create rfl] at h
    -- what succeeds in preparing a creation or an update ends in a write
    obtain ⟨place, -, h⟩ := Except.bind_eq_ok_iff.1 h
    obtain ⟨c, -, h⟩ := Except.bind_eq_ok_iff.1 h
    cases h
  | update place info =>
    rw [prepared_update info rfl] at h
    obtain ⟨existing, -, h⟩ := Except.bind_eq_ok_iff.1 h
    obtain ⟨c, -, h⟩ := Except.bind_eq_ok_iff.1 h
    cases h
  | delete place => cases h
  | get place => rfl
  | contains namespaceName name => rfl
  | list namespaceName filter => rfl

/-- An operation that writes and succeeds returns its receipt. -/
theorem Course.reply_eq {p : Except Failure Reply × Env τ} (h : Course F env o p)
    (hwrites : o.reads = false) {reply : Reply} (hp : p.1 = .ok reply) : reply = o.receipt := by
  cases h with
  | looked hprepared _ =>
    rw [reads_of_prepared hprepared] at hwrites
    cases hwrites
  | refused _ _ => cases hp
  | @wrote w _ _ r _ _ _ =>
    cases r with
    | error f => cases hp
    | ok _ => exact (Except.ok.inj hp).symm

end Operation

namespace Directory

variable {d : Directory} {time now : Int} {o : Operation} {r : Except Failure Reply}
variable {place : NamespacedId} {e : Entry}

/-- What a directory is after an operation that ended in some way. -/
def after (d : Directory) (time : Int) (o : Operation) :
    Except Failure Reply → Directory
  | .ok _ => (d.answer time o).2
  | .error _ => d

/-- An operation that never writes changes nothing. -/
theorem after_of_reads (h : o.reads = true) (r : Except Failure Reply) :
    d.after time o r = d := by
  cases r with
  | error f => rfl
  | ok reply =>
    cases o with
    | create namespaceName info => cases h
    | update place info => cases h
    | delete place => cases h
    | get place =>
      simp only [after, answer]
      -- a `get` is answered by the entry or by its absence, neither of which changes the directory
      cases d.find? place <;> rfl
    | contains namespaceName name => rfl
    | list namespaceName filter => rfl

/-- Where the entry that a place has after an operation comes from. -/
inductive Traced (d : Directory) (time : Int) (o : Operation) (r : Except Failure Reply)
    (place : NamespacedId) (e : Entry) : Prop
  | kept (hfind : d.find? place = some e)
  | updated {b : Entry} (hfind : d.find? place = some b) (hcreated : e.created = b.created)
    (hupdated : e.updated = time)
  | created {namespaceName : String} {info : ConnectionMeta} {reply : Reply}
    (ho : o = .create namespaceName info) (hr : r = .ok reply)
    (hplace : place = Store.placeOf namespaceName info.name) (hcreated : e.created = time)
    (hupdated : e.updated = time)

theorem traced_after (h : (d.after time o r).find? place = some e) :
    Traced d time o r place e := by
  -- an operation that fails or only reads keeps the entry; a write keeps it at every other place
  cases r with
  | error f => exact .kept h
  | ok reply =>
    cases hreads : o.reads with
    | true =>
      rw [after_of_reads hreads] at h
      exact .kept h
    | false =>
      simp only [after] at h
      cases o with
      | create namespaceName info =>
        simp only [answer] at h
        cases hentry : d.find? (Store.placeOf namespaceName info.name) with
        | some b =>
          rw [hentry] at h
          exact .kept h
        | none =>
          rw [hentry] at h
          simp only [find?_put] at h
          split at h
          · rename_i hplace
            obtain rfl := Option.some.inj h
            exact .created rfl rfl hplace rfl rfl
          · exact .kept h
      | update changed info =>
        simp only [answer] at h
        cases hentry : d.find? changed with
        | none =>
          rw [hentry] at h
          exact .kept h
        | some b =>
          rw [hentry] at h
          simp only [find?_put] at h
          split at h
          · rename_i hplace
            obtain rfl := Option.some.inj h
            rw [← hplace] at hentry
            exact .updated hentry rfl rfl
          · exact .kept h
      | delete dropped =>
        simp only [answer, find?_erase] at h
        split at h
        · cases h
        · exact .kept h
      | get _ => cases hreads
      | contains _ _ => cases hreads
      | list _ _ => cases hreads

/-- Every id is spelled as one, and nothing was updated before it was created, or after now. -/
def Sound (d : Directory) (now : Int) : Prop :=
  ∀ place e, d.find? place = some e →
    (∀ c ∈ place.id.toList, isIdChar c = true) ∧ e.created ≤ e.updated ∧ e.updated ≤ now

theorem sound_empty (now : Int) : empty.Sound now := by
  intro place e h
  cases h

/-- A sound directory stays sound, whether or not the operation succeeds. -/
theorem Sound.after (h : d.Sound now) (htime : now ≤ time) : (d.after time o r).Sound time := by
  intro place e he
  cases traced_after he with
  | kept hfind =>
    obtain ⟨hid, hle, hnow⟩ := h place e hfind
    exact ⟨hid, hle, by omega⟩
  | @updated b hfind hcreated hupdated =>
    obtain ⟨hid, hle, hnow⟩ := h place b hfind
    exact ⟨hid, by omega, by omega⟩
  | created ho hr hplace hcreated hupdated =>
    subst hplace
    exact ⟨fun c => isIdChar_of_mem_connectionId, by omega, by omega⟩

end Directory

/-! ## Tables that hold a directory -/

/-- What a directory is after a write that ended in some way. -/
def Write.made (d : Directory) : Write → Except Failure Unit → Directory
  | put c, .ok _ => d.put c.place c.entry
  | drop place, .ok _ => d.erase place
  | _, .error _ => d

/-- How tables hold directories.  `Holds` says which table holds which directory, `Reads` which
tables can be read, and `stored` what the rows are, under their keys. -/
structure Holder (τ : Type) [RowStore τ] where
  Holds : τ → Directory → Prop
  Reads : τ → Prop
  stored : τ → List (Key × Row)
  rows {t : τ} {d : Directory} :
    Holds t d → ∃ cs, Listed cs d ∧ stored t = cs.map Connection.stored
  reads {t : τ} {d : Directory} (place : NamespacedId) :
    Holds t d → Reads t → ∃ found, ((RowStore.read place.key).run t).1 = .ok found
  found {t : τ} {d : Directory} {place : NamespacedId} {found : Option Row} :
    Holds t d → ((RowStore.read place.key).run t).1 = .ok found →
      found = (d.find? place).map fun e => (e.connection place).toRow
  read {t : τ} {d : Directory} (key : Row) :
    Holds t d → Holds ((RowStore.read key).run t).2 d
  scan {t : τ} {d : Directory} (range : Range) (limit : Option Int) :
    Holds t d → Holds ((RowStore.scan range limit).run t).2 d
  setCursor {t : τ} {d : Directory} (n : Nat) (c : Cursor) :
    Holds t d → Holds (RowStore.setCursor n c t) d
  write {t : τ} {d : Directory} (w : Write) :
    Holds t d → Holds (w.access.run t).2 (w.made d (w.access.run t).1)

namespace Holder

variable {τ : Type} [RowStore τ] (H : Holder τ) {env : Env τ} {d : Directory} {time : Int}

/-- Looking at a table that holds directories. -/
def looking : Frame τ where
  Allows env env' := ∀ d, H.Holds env.table d → H.Holds env'.table d
  trans hab hbc d h := hbc d (hab d h)
  clock _ _ h := h
  meter _ _ _ h := h
  log _ _ _ h := h
  read _ key _ h := H.read key h
  scan _ range limit _ h := H.scan range limit h
  setCursor _ n c _ h := H.setCursor n c h

/-- What a creation is about to write is what the directory answers. -/
theorem made_create [Caller] (h : H.Holds env.table d) (hclock : env.clock.Shows time)
    {namespaceName : String} {info : ConnectionMeta} {w : Write}
    (hw : (Operation.create namespaceName info).prepared env = .ok (some w)) :
    w.made d (.ok ()) = (d.answer time (.create namespaceName info)).2 := by
  cases hread : (RowStore.read (Store.placeOf namespaceName info.name).key).run env.table with
  | mk found t =>
    rw [Operation.prepared_create hread] at hw
    obtain ⟨place, hplace, hw⟩ := Except.bind_eq_ok_iff.1 hw
    obtain ⟨row?, rfl, hclaimed⟩ := Except.bind_eq_ok_iff.1 hplace
    -- a place that is taken is refused, so there is nothing at this one
    obtain ⟨rfl, rfl⟩ := Store.claimed_eq_ok_iff.1 hclaimed
    have hfree : d.find? (Store.placeOf namespaceName info.name) = none :=
      Option.map_eq_none_iff.1 (H.found h (congrArg Prod.fst hread)).symm
    obtain ⟨c, hc, hw⟩ := Except.bind_eq_ok_iff.1 hw
    obtain rfl := Option.some.inj (Except.ok.inj hw)
    obtain ⟨v, hv, hmake⟩ := Store.dated_eq_ok_iff.1 hc
    obtain ⟨m, n, hm, hn, rfl⟩ := Connection.ofMeta_eq_ok_iff.1 hmake
    simp only [Write.made, Directory.answer, hfree, Connection.entry]
    rw [hclock v m hv hm, hclock v n hv hn]

/-- What an update is about to write is what the directory answers. -/
theorem made_update [Caller] (h : H.Holds env.table d) (hclock : env.clock.Shows time)
    {place : NamespacedId} {info : ConnectionMeta} {w : Write}
    (hw : (Operation.update place info).prepared env = .ok (some w)) :
    w.made d (.ok ()) = (d.answer time (.update place info)).2 := by
  cases hread : (RowStore.read place.key).run env.table with
  | mk found t =>
    rw [Operation.prepared_update info hread] at hw
    obtain ⟨existing, hexisting, hw⟩ := Except.bind_eq_ok_iff.1 hw
    obtain ⟨row?, rfl, hfetched⟩ := Except.bind_eq_ok_iff.1 hexisting
    have hfound := H.found h (congrArg Prod.fst hread)
    cases hentry : d.find? place with
    | none =>
      rw [hfound, hentry] at hfetched
      cases hfetched
    | some e =>
      -- the row of an entry is read as its connection, whose time of creation is kept
      rw [hfound, hentry, Option.map_some, Store.fetched, Connection.ofRow_toRow] at hfetched
      obtain rfl := Except.ok.inj hfetched
      obtain ⟨c, hc, hw⟩ := Except.bind_eq_ok_iff.1 hw
      obtain rfl := Option.some.inj (Except.ok.inj hw)
      obtain ⟨v, hv, hmake⟩ := Store.dated_eq_ok_iff.1 hc
      obtain ⟨m, n, hm, hn, rfl⟩ := Connection.ofMeta_eq_ok_iff.1 hmake
      rw [checkWhole_int] at hm
      obtain rfl := Except.ok.inj hm
      simp only [Write.made, Directory.answer, hentry, Connection.entry]
      rw [hclock v n hv hn]
      rfl

/-- What an operation is about to write is what the directory answers. -/
theorem made_of_prepared [Caller] (h : H.Holds env.table d) (hclock : env.clock.Shows time)
    {o : Operation} {w : Write} (hw : o.prepared env = .ok (some w)) :
    w.made d (.ok ()) = (d.answer time o).2 := by
  cases o with
  | create namespaceName info => exact H.made_create h hclock hw
  | update place info => exact H.made_update h hclock hw
  | delete place =>
    obtain rfl := Option.some.inj (Except.ok.inj hw)
    rfl
  | get place => cases hw
  | contains namespaceName name => cases hw
  | list namespaceName filter => cases hw

/-- An operation that succeeds leaves what the directory answers, and one that fails leaves the
directory as it was. -/
theorem step_holds [Caller] (h : H.Holds env.table d) (hclock : env.clock.Shows time)
    (o : Operation) :
    H.Holds (o.run.run env).2.table (d.after time o (o.run.run env).1) := by
  have hcourse := o.course H.looking env
  cases hrun : o.run.run env with
  | mk r after =>
    rw [hrun] at hcourse
    -- only the course that comes to write can change what the table holds
    cases hcourse with
    | looked hprepared hframe =>
      rw [Directory.after_of_reads (Operation.reads_of_prepared hprepared)]
      exact hframe d h
    | refused hprepared hframe => exact hframe d h
    | @wrote w middle _ r hprepared hframe hwrite =>
      have hmade := H.write w (hframe d h)
      rw [hwrite] at hmade
      cases r with
      | error f =>
        cases w <;> exact hmade
      | ok _ =>
        -- a write that succeeds is the one that was prepared, so the directory moves with it
        have hanswer := H.made_of_prepared h hclock hprepared
        rw [hanswer] at hmade
        exact hmade

end Holder

/-! ## Events -/

/-- What may happen to a store: its table is disturbed, or an operation is run under a clock that
shows a time. -/
inductive Event (τ : Type)
  | disturb (change : τ → τ)
  | operate (clock : Clock) (time : Int) (operation : Operation)

namespace Store

variable {τ : Type}

/-- The times that the clocks show never go backwards, from a first one on. -/
def Timely : Int → List (Event τ) → Prop
  | _, [] => True
  | now, .disturb _ :: events => Timely now events
  | now, .operate clock time _ :: events => clock.Shows time ∧ now ≤ time ∧ Timely time events

/-- The last time that a clock has shown. -/
def latest : Int → List (Event τ) → Int
  | now, [] => now
  | now, .disturb _ :: events => latest now events
  | _, .operate _ time _ :: events => latest time events

variable [Caller] [RowStore τ]

/-- What an event makes of the environment. -/
def happen : Event τ → Env τ → Env τ
  | .disturb change, env => { env with table := change env.table }
  | .operate clock _ o, env => (o.run.run { env with clock }).2

/-- What events make of the environment, one after the other. -/
def play (events : List (Event τ)) (env : Env τ) : Env τ :=
  events.foldl (fun env event => happen event env) env

/-- Whether a table has a row at a place whose connection was created at a time. -/
def Has (stored : τ → List (Key × Row)) (t : τ) (place : NamespacedId) (created : Int) : Prop :=
  ∃ row c, (place.values, row) ∈ stored t ∧ (∀ way, Connection.ofRow way row = .ok c) ∧
    c.place = place ∧ c.created = created

/-- What made a connection: at the time of its creation a creation of its place succeeded, and the
connection has been there since. -/
inductive Origin (stored : τ → List (Key × Row)) (env : Env τ) :
    List (Event τ) → NamespacedId → Int → Prop
  | intro (before after : List (Event τ)) (clock : Clock) (time : Int) (namespaceName : String)
    (info : ConnectionMeta)
    (hmade : ((Operation.create namespaceName info).run.run { play before env with clock }).1 =
      .ok (.place (placeOf namespaceName info.name)))
    (hsince : ∀ middle, middle <+: after →
      Has stored (play (before ++ .operate clock time (.create namespaceName info) :: middle)
        env).table (placeOf namespaceName info.name) time) :
    Origin stored env (before ++ .operate clock time (.create namespaceName info) :: after)
      (placeOf namespaceName info.name) time

variable {stored : τ → List (Key × Row)} {env : Env τ} {events : List (Event τ)}

/-- What happens first has no part in where a connection comes from that is made later. -/
theorem Origin.cons {event : Event τ} {place : NamespacedId} {created : Int}
    (h : Origin stored (happen event env) events place created) :
    Origin stored env (event :: events) place created := by
  cases h with
  | intro before after clock _ namespaceName info hmade hsince =>
    exact .intro (event :: before) after clock created namespaceName info hmade hsince

/-- Where the entry of a place comes from after events: it was there before the first of them and
all along, or one of them made it. -/
inductive Lasted (stored : τ → List (Key × Row)) (env : Env τ) (events : List (Event τ))
    (d : Directory) (place : NamespacedId) (created : Int) : Prop
  | kept {b : Entry} (hfind : d.find? place = some b) (hcreated : b.created = created)
    (hsince : ∀ middle, middle <+: events → Has stored (play middle env).table place created)
  | made (h : Origin stored env events place created)

end Store

namespace Holder

variable [Caller] {τ : Type} [RowStore τ] (H : Holder τ) {env : Env τ} {d : Directory} {now : Int}

open Store (Timely latest happen play Has Origin Lasted)

/-- Whether the disturbances among some events leave every directory in place. -/
def Spared (events : List (Event τ)) : Prop :=
  ∀ change, .disturb change ∈ events → ∀ t d, H.Holds t d → H.Holds (change t) d

theorem has_of_find? (h : H.Holds env.table d) {place : NamespacedId} {e : Entry}
    (hfind : d.find? place = some e) : Has H.stored env.table place e.created := by
  obtain ⟨cs, hcs, hrows⟩ := H.rows h
  refine ⟨(e.connection place).toRow, e.connection place, ?_,
    fun way => Connection.ofRow_toRow way _, rfl, rfl⟩
  rw [hrows]
  exact List.mem_map_of_mem ((hcs.mem_iff (e.connection place)).2 hfind)

/-- What was there before an event, and has been there after it, has been there all along. -/
theorem lasted_of_kept {event : Event τ} {events : List (Event τ)} {place : NamespacedId}
    {b : Entry} (h : H.Holds env.table d) (hfind : d.find? place = some b)
    (hsince : ∀ middle, middle <+: events →
      Has H.stored (play middle (happen event env)).table place b.created) :
    Lasted H.stored env (event :: events) d place b.created := by
  refine .kept hfind rfl ?_
  intro middle hmiddle
  rcases List.prefix_cons_iff.1 hmiddle with rfl | ⟨rest, rfl, hrest⟩
  · exact H.has_of_find? h hfind
  · exact hsince rest hrest

/-- Over events of any number the table holds a directory that is sound at the last time, and each
entry has been there all along or since the creation that made it. -/
theorem play_holds (events : List (Event τ)) (h : H.Holds env.table d) (hsound : d.Sound now)
    (htimely : Timely now events) (hspared : H.Spared events) :
    ∃ last, H.Holds (play events env).table last ∧ last.Sound (latest now events) ∧
      ∀ place e, last.find? place = some e → Lasted H.stored env events d place e.created := by
  induction events generalizing env d now with
  | nil =>
    refine ⟨d, h, hsound, ?_⟩
    intro place e hfind
    refine .kept hfind rfl ?_
    intro middle hmiddle
    rw [List.prefix_nil.1 hmiddle]
    exact H.has_of_find? h hfind
  | cons event events ih =>
    have hrest : H.Spared events :=
      fun change hchange => hspared change (List.mem_cons_of_mem event hchange)
    cases event with
    | disturb change =>
      have hnext : H.Holds (happen (.disturb change) env).table d :=
        hspared change List.mem_cons_self env.table d h
      obtain ⟨last, hlast, hlastSound, hlasted⟩ := ih hnext hsound htimely hrest
      refine ⟨last, hlast, hlastSound, ?_⟩
      intro place e hfind
      cases hlasted place e hfind with
      | made horigin => exact .made horigin.cons
      | @kept b hb hcreated hsince =>
        rw [← hcreated] at hsince ⊢
        exact H.lasted_of_kept h hb hsince
    | operate clock time o =>
      obtain ⟨hshows, htime, htimely⟩ := htimely
      have henv : H.Holds ({ env with clock } : Env τ).table d := h
      have hnext : H.Holds (happen (.operate clock time o) env).table
          (d.after time o (o.run.run { env with clock }).1) := H.step_holds henv hshows o
      obtain ⟨last, hlast, hlastSound, hlasted⟩ := ih hnext (hsound.after htime) htimely hrest
      refine ⟨last, hlast, hlastSound, ?_⟩
      intro place e hfind
      cases hlasted place e hfind with
      | made horigin => exact .made horigin.cons
      | @kept b hb hcreated hsince =>
        rw [← hcreated] at hsince ⊢
        -- what is there after the operation was there before it, or the operation has made it
        cases Directory.traced_after hb with
        | kept hbefore => exact H.lasted_of_kept h hbefore hsince
        | updated hbefore hsame _ =>
          rw [hsame] at hsince ⊢
          exact H.lasted_of_kept h hbefore hsince
        | @created namespaceName info reply ho hr hplace htime' _ =>
          subst ho hplace
          rw [htime'] at hsince ⊢
          have hreply := (Operation.course H.looking _ _).reply_eq rfl hr
          rw [hreply] at hr
          exact .made (.intro [] events clock time namespaceName info hr hsince)

end Holder
end ConnectionCatalog
