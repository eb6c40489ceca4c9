import ConnectionCatalog.Proofs.Store.Listing
import ConnectionCatalog.Proofs.Store.Observation

/-! # Proofs.Store.Audit — the log tells what the operations of a session did

An operation notes what it found wrong while it looked, and what it did if it came to its end.  At
the level of debugging a log has all of this, and nothing else.

* `Operation.Audited`: the records that an operation leaves, by how it ended.
* `Operation.request_reports`: the records of an operation, from its trace.
* `Shelf.Worded.audited`: over some rows these are the records that it has to leave.
* `log_audits_operations`: so it is for every session, over tables in memory and of a database.
-/

namespace ConnectionCatalog

open Sql

/-! ## Reports -/

namespace Store

variable {τ α β : Type} {x : Action τ α} {g : α → Action τ β} {t u : τ} {clock clock' : Clock}
variable {notes : List Record} {first : Except Failure α}

/-- The records about a result; a failure leaves none. -/
def notesOf (reported : α → List Record) : Except Failure α → List Record
  | .ok a => reported a
  | .error _ => []

/-- An action notes some records while it looks, and others about its result. -/
def Reports (x : Action τ α) (t : τ) (clock : Clock) (warned : List Record)
    (reported : α → List Record) : Prop :=
  ∃ r u clock', Traces x t clock ⟨r, u, clock', warned ++ notesOf reported r⟩

/-- What is noted first is noted while the action looks, if the rest only reports. -/
theorem Traces.reports {reported : β → List Record}
    (hx : Traces x t clock ⟨first, u, clock', notes⟩)
    (hg : ∀ a, first = .ok a → Reports (g a) u clock' [] reported) :
    Reports (x >>= g) t clock notes reported := by
  cases first with
  | error f =>
    refine ⟨.error f, u, clock', ?_⟩
    rw [notesOf, List.append_nil]
    exact hx.bind_error
  | ok a =>
    obtain ⟨r, v, clock'', hg⟩ := hg a rfl
    exact ⟨r, v, clock'', hx.bind_ok hg⟩

/-- What comes first and notes nothing leaves the report to the rest. -/
theorem Traces.reports_behind {warned : List Record} {reported : β → List Record} {a : α}
    (hx : Traces x t clock ⟨.ok a, u, clock', []⟩) (hg : Reports (g a) u clock' warned reported) :
    Reports (x >>= g) t clock warned reported := by
  obtain ⟨r, v, clock'', hg⟩ := hg
  exact ⟨r, v, clock'', hx.bind_ok hg⟩

theorem Reports.map {warned : List Record} {reported : β → List Record} {g : α → β}
    (h : Reports x t clock warned fun a => reported (g a)) :
    Reports (g <$> x) t clock warned reported := by
  obtain ⟨r, u, clock', h⟩ := h
  refine ⟨r.map g, u, clock', ?_⟩
  have hmap := h.map g
  cases r <;> exact hmap

/-- An action that only looks reports nothing. -/
theorem Traces.reports_nothing (hx : Traces x t clock ⟨first, u, clock', notes⟩) :
    Reports x t clock notes fun _ => [] := by
  refine ⟨first, u, clock', ?_⟩
  cases first <;> simpa [notesOf] using hx

theorem reports_note {level : Level} {message : String} {dimensions : Dimensions} {a : α}
    {reported : α → List Record} (h : reported a = [record level message dimensions]) (t : τ)
    (clock : Clock) :
    Reports (note level message dimensions >>= fun _ => pure a) t clock [] reported := by
  refine ⟨.ok a, t, clock, ?_⟩
  rw [notesOf, h]
  exact (traces_note level message dimensions t clock).bind_ok (traces_pure a t clock)

/-- What is written now is reported. -/
theorem reports_dated [RowStore τ] (make : Value → Except Invalid Connection) (level : Level)
    (message : String) (dimensions : Dimensions) (last : Connection → β) (t : τ) (clock : Clock) :
    Reports (do
      let c ← valid (make (← now))
      onTable (RowStore.upsert c.toRow)
      note level message dimensions
      return last c) t clock [] fun _ => [record level message dimensions] := by
  refine (traces_now t clock).reports fun time _ => ?_
  refine (traces_valid (make time) t _).reports fun c _ => ?_
  refine (traces_onTable _ t _).reports fun _ _ => ?_
  refine reports_note ?_ _ _
  rfl

end Store

namespace Operation

/-- What an operation reports when it returns. -/
def reported : Operation → Reply → List Record
  | create namespaceName info, _ =>
    [Store.record .info ("Created " ++ info.type.name ++ " connection '" ++ info.name ++ "'")
      (Store.dimensions (Store.placeOf namespaceName info.name))]
  | update place info, _ =>
    [Store.record .info ("Updated connection '" ++ info.name ++ "'") (Store.dimensions place)]
  | delete place, _ => [Store.record .info "Deleted connection" (Store.dimensions place)]
  | list namespaceName _, .connections cs =>
    [Store.record .debug ("Listed " ++ toString cs.length ++ " connections")
      [("namespace", .text namespaceName)]]
  | _, _ => []

end Operation

/-- What an operation notes of some rows while it looks at them. -/
def Shelf.warned [Caller] (es : Shelf) : Operation → List Record
  | .create namespaceName info =>
    Store.claimNotes (Store.placeOf namespaceName info.name) info
      (es.rowAt (Store.placeOf namespaceName info.name))
  | .get place | .update place _ => Store.lookNotes .fetch (es.rowAt place)
  | .contains namespaceName name =>
    Store.lookNotes .look (es.rowAt (Store.placeOf namespaceName name))
  | .delete _ => []
  | .list namespaceName filter => Store.gatherNotes filter (es.within namespaceName)

open Store in
/-- An operation over some rows notes what it found wrong with them, and reports what it did. -/
theorem Operation.request_reports [Caller] {τ : Type} [RowStore τ] {t : τ} {es : Shelf}
    (hread : ∀ place : NamespacedId, ((RowStore.read place.key).run t).1 = .ok (es.rowAt place))
    (hscans : Store.Scans t es) (o : Operation) (clock : Clock) :
    Store.Reports o.request.body t clock (es.warned o) o.reported := by
  have hread : ∀ place : NamespacedId, (RowStore.read place.key).run t =
      (.ok (es.rowAt place), ((RowStore.read place.key).run t).2) :=
    fun place => Prod.ext (hread place) rfl
  cases o with
  | create namespaceName info =>
    refine Reports.map ?_
    refine (traces_claim (hread _) clock).reports fun place hplace => ?_
    rw [(claimed_eq_ok_iff.1 hplace).2]
    exact reports_dated _ _ _ _ Connection.place _ _
  | get place => exact ((traces_fetch (hread place) clock).map _).reports_nothing
  | update place info =>
    refine Reports.map ?_
    refine (traces_fetch (hread place) clock).reports fun existing _ => ?_
    exact reports_dated _ _ _ _ (fun _ => ()) _ _
  | delete place =>
    refine Reports.map ?_
    refine (traces_onTable _ t clock).reports fun _ _ => ?_
    exact reports_note (a := ()) rfl _ _
  | contains namespaceName name =>
    -- the id is valid, so checking it leaves no trace before the look
    have hplace : Traces (valid (NamespacedId.ofValues (.text namespaceName)
        (.text (connectionId name)))) t clock ⟨.ok (placeOf namespaceName name), t, clock, []⟩ :=
      fun meter log => valid_place namespaceName name ⟨t, clock, meter, log⟩
    refine Reports.map (hplace.reports_behind ?_)
    exact ((traces_find? .look (hread _) clock).map Option.isSome).reports_nothing
  | list namespaceName filter =>
    -- opening the scan notes nothing; the rows are noted as they are kept
    obtain ⟨cursor, u, hscan, hpending⟩ := hscans namespaceName
    have hopened := traces_onTable (RowStore.scan (namespaceRange namespaceName) none) t clock
    rw [hscan] at hopened
    have hkept := (traces_keep filter (RowStore.pending u cursor) u clock).withRows
    rw [hpending] at hkept
    refine Reports.map (hopened.reports_behind (hkept.reports fun cs _ => ?_))
    refine reports_note ?_ _ _
    rfl

/-! ## What a log has to tell -/

/-- A clock that may fail, but never as the reading of a corrupt row does. -/
def Clock.Honest : Clock → Prop
  | brought reading _ => ∀ n f, reading n = .error f → f.isA .corruptConnection = false
  | manual .. | system _ => True

theorem Clock.Honest.dated {clock : Clock} (h : clock.Honest)
    {make : Value → Except Invalid Connection} {f : Failure}
    (hf : Store.dated make clock = .error f) : f.isA .corruptConnection = false := by
  unfold Store.dated at hf
  cases hread : clock.read.1 with
  | ok time =>
    rw [hread] at hf
    cases hmade : make time with
    | ok c =>
      simp only [Except.bind, hmade] at hf
      cases hf
    | error reason =>
      simp only [Except.bind, hmade] at hf
      obtain rfl := Except.error.inj hf
      rfl
  | error g =>
    rw [hread] at hf
    obtain rfl := Except.error.inj hf
    cases clock with
    | manual v reads => cases hread
    | system time =>
      -- the system clock fails only where its time is no whole number
      cases htime : time.wholePart with
      | ok n =>
        simp only [Clock.read, htime] at hread
        cases hread
      | error fault =>
        simp only [Clock.read, htime] at hread
        obtain rfl := Except.error.inj hread
        cases fault <;> rfl
    | brought reading reads => exact h reads g hread

namespace Operation

/-- An operation whose filter, if it has one, answers for every connection. -/
def Answering : Operation → Prop
  | list _ filter => ∀ c, filter.Answers c
  | _ => True

variable [Caller]

/-- The way in which an operation comes to the rows that it reads; a deletion reads none. -/
def way : Operation → Way
  | create .. | contains .. => .look
  | get _ | update .. | delete _ => .fetch
  | list .. => .list

/-- An operation creates what is there already. -/
def Duplicates (es : Shelf) : Operation → Prop
  | create namespaceName info => ∃ row c,
    es.rowAt (Store.placeOf namespaceName info.name) = some row ∧
      Connection.ofRow .look row = .ok c
  | _ => False

/-- The row that an operation comes to and does not read: the one at its place, or for a listing the
first of the namespace that is not read. -/
inductive Offends (es : Shelf) : Operation → Row → Prop
  | atPlace {o : Operation} {place : NamespacedId} {row : Row} {f : Failure}
    (hplace : o.place? = some place) (hrow : es.rowAt place = some row)
    (hunread : Connection.ofRow o.way row = .error f) : Offends es o row
  | first {namespaceName id : String} {filter : Filter} {row : Row} {f : Failure}
    (hrow : es.rowAt ⟨namespaceName, id⟩ = some row)
    (hunread : Connection.ofRow .list row = .error f)
    (hfirst : ∀ otherId other, otherId < id → es.rowAt ⟨namespaceName, otherId⟩ = some other →
      ∃ c, Connection.ofRow .list other = .ok c) : Offends es (list namespaceName filter) row

/-- The records that an operation over some rows has to leave, by how it ended. -/
inductive Audited (es : Shelf) : Operation → Except Failure Reply → List Record → Prop
  | created {namespaceName : String} {info : ConnectionMeta} :
    Audited es (create namespaceName info)
      (.ok (.place (Store.placeOf namespaceName info.name)))
      [Store.record .info ("Created " ++ info.type.name ++ " connection '" ++ info.name ++ "'")
        (Store.dimensions (Store.placeOf namespaceName info.name))]
  | updated {place : NamespacedId} {info : ConnectionMeta} :
    Audited es (update place info) (.ok .done)
      [Store.record .info ("Updated connection '" ++ info.name ++ "'") (Store.dimensions place)]
  | deleted {place : NamespacedId} :
    Audited es (delete place) (.ok .done)
      [Store.record .info "Deleted connection" (Store.dimensions place)]
  | listed {namespaceName : String} {filter : Filter} {cs : List Connection} :
    Audited es (list namespaceName filter) (.ok (.connections cs))
      [Store.record .debug ("Listed " ++ toString cs.length ++ " connections")
        [("namespace", .text namespaceName)]]
  | got {place : NamespacedId} {c : Connection} :
    Audited es (get place) (.ok (.connection c)) []
  | told {namespaceName name : String} {answer : Bool} :
    Audited es (contains namespaceName name) (.ok (.truth answer)) []
  | duplicate {namespaceName : String} {info : ConnectionMeta}
    (htaken : (create namespaceName info).Duplicates es) :
    Audited es (create namespaceName info)
      (.error (.connectionAlreadyExists info.name (connectionId info.name)))
      [Store.record .warning ("Refusing duplicate connection '" ++ info.name ++ "'")
        (Store.dimensions (Store.placeOf namespaceName info.name))]
  | corrupt {o : Operation} {row : Row} {f : Failure} {detail : String} (hrow : o.Offends es row)
    (hunread : Connection.ofRow o.way row = .error f) (hcorrupt : f.isA .corruptConnection = true)
    (hdetail : corruptDetail? f = some detail) :
    Audited es o (.error f)
      [Store.record .error ("Corrupt connection row: " ++ detail)
        (Store.placeDimensions (row.cell "namespace") (row.cell "id"))]
  | failed {o : Operation} {f : Failure} (hcorrupt : f.isA .corruptConnection = false)
    (hfree : ¬o.Duplicates es) : Audited es o (.error f) []

end Operation

/-- Rows that are read, and for which the filter answers, leave no notes. -/
theorem Store.gatherNotes_append [Caller] {filter : Filter} {before : List Row}
    {cs : List Connection}
    (hread : before.map (Connection.ofRow .list) = cs.map .ok)
    (hanswers : ∀ c ∈ cs, filter.Answers c)
    (rest : List Row) : gatherNotes filter (before ++ rest) = gatherNotes filter rest := by
  induction before generalizing cs with
  | nil => rfl
  | cons row before ih =>
    obtain ⟨c, cs, rfl, hrow, hread⟩ := List.map_eq_cons_iff.1 hread.symm
    obtain ⟨⟨kept, hkept⟩, hanswers⟩ := List.forall_mem_cons.1 hanswers
    rw [List.cons_append, gatherNotes, ← hrow]
    dsimp only
    rw [hkept]
    exact ih hread.symm hanswers

namespace Shelf

variable [Caller] {es : Shelf} {clock : Clock} {refusal? : Connection → Option Failure}
variable {o : Operation}

/-- What is noted of a row that is not read is what a log has to tell of it. -/
theorem audited_unread {row : Row} {f : Failure} (hrow : o.Offends es row)
    (hunread : Connection.ofRow o.way row = .error f) (hfree : ¬o.Duplicates es) :
    o.Audited es (.error f) (Store.rowNotes o.way row) := by
  have htold : f.IsTold := Connection.isTold_of_ofRow hunread
  unfold Failure.IsTold at htold
  rw [Store.rowNotes, hunread]
  dsimp only
  -- a row is corrupt exactly where there is a detail to tell of it
  cases hdetail : corruptDetail? f with
  | none =>
    rw [hdetail] at htold
    exact .failed htold.symm hfree
  | some detail =>
    rw [hdetail] at htold
    exact .corrupt hrow hunread htold.symm hdetail

/-- A write that does not come about is no corrupt row. -/
theorem isA_of_dated {make : Value → Except Invalid Connection} {f : Failure}
    (hclock : clock.Honest)
    (hrefusal : ∀ c f, refusal? c = some f → f.isA .corruptConnection = false)
    (hplanned : es.planned clock o = (Store.dated make clock).bind fun c => .ok (some (.put c)))
    (hanswer : es.answer refusal? clock o = .error f) : f.isA .corruptConnection = false := by
  -- either the clock has failed, or the table has refused the row
  cases hdated : Store.dated make clock with
  | error g =>
    rw [hdated] at hplanned
    rw [answer_of_planned_error hplanned] at hanswer
    obtain rfl := Except.error.inj hanswer
    exact hclock.dated hdated
  | ok c =>
    rw [hdated] at hplanned
    rw [answer_of_planned_some hplanned, Write.verdict] at hanswer
    cases hc : refusal? c with
    | none =>
      rw [hc] at hanswer
      cases hanswer
    | some g =>
      rw [hc] at hanswer
      obtain rfl := Except.error.inj hanswer
      exact hrefusal c g hc

theorem eq_receipt_of_answer {reply : Reply} (ho : o.reads = false)
    (hanswer : es.answer refusal? clock o = .ok reply) : reply = o.receipt := by
  rw [answer_of_writes ho] at hanswer
  obtain ⟨w?, -, hw⟩ := Except.bind_eq_ok_iff.1 hanswer
  cases w? with
  | none => exact (Except.ok.inj hw).symm
  | some w =>
    dsimp only at hw
    cases hverdict : w.verdict refusal? with
    | ok _ =>
      rw [hverdict] at hw
      exact (Except.ok.inj hw).symm
    | error f =>
      rw [hverdict] at hw
      cases hw

variable (hclock : clock.Honest)
variable (hrefusal : ∀ c f, refusal? c = some f → f.isA .corruptConnection = false)
include hclock hrefusal

theorem audited_create (namespaceName : String) (info : ConnectionMeta) :
    (Operation.create namespaceName info).Audited es
      (es.answer refusal? clock (.create namespaceName info))
      (es.warned (.create namespaceName info) ++
        Store.notesOf (Operation.create namespaceName info).reported
          (es.answer refusal? clock (.create namespaceName info))) := by
  -- the place is free, taken, or has a row that is not read
  cases hrow : es.rowAt (Store.placeOf namespaceName info.name) with
  | none =>
    have hplanned : es.planned clock (.create namespaceName info) =
        (Store.dated (fun time => Connection.ofMeta (Store.placeOf namespaceName info.name) info
          time time) clock).bind fun c => .ok (some (.put c)) := by
      rw [planned, hrow]
      rfl
    rw [warned, hrow]
    cases hanswer : es.answer refusal? clock (.create namespaceName info) with
    | ok reply =>
      obtain rfl := eq_receipt_of_answer rfl hanswer
      exact .created
    | error f =>
      refine .failed (isA_of_dated hclock hrefusal hplanned hanswer) ?_
      rintro ⟨row, c, htaken, -⟩
      rw [hrow] at htaken
      cases htaken
  | some row =>
    cases hread : Connection.ofRow .look row with
    | ok c =>
      have hplanned : es.planned clock (.create namespaceName info) =
          .error (.connectionAlreadyExists info.name (connectionId info.name)) := by
        rw [planned, hrow, Store.claimed, hread]
        rfl
      rw [answer_of_planned_error hplanned, warned, hrow, Store.claimNotes, hread]
      exact .duplicate ⟨row, c, hrow, hread⟩
    | error f =>
      have hplanned : es.planned clock (.create namespaceName info) = .error f := by
        rw [planned, hrow, Store.claimed, hread]
        rfl
      rw [answer_of_planned_error hplanned, warned, hrow, Store.claimNotes, hread, Store.notesOf,
        List.append_nil]
      refine audited_unread (.atPlace rfl hrow hread) hread ?_
      -- a row that is not read makes no duplicate
      rintro ⟨other, c, htaken, hc⟩
      obtain rfl := Option.some.inj (hrow.symm.trans htaken)
      rw [hread] at hc
      cases hc

theorem audited_update (place : NamespacedId) (info : ConnectionMeta) :
    (Operation.update place info).Audited es
      (es.answer refusal? clock (.update place info))
      (es.warned (.update place info) ++
        Store.notesOf (Operation.update place info).reported
          (es.answer refusal? clock (.update place info))) := by
  cases hrow : es.rowAt place with
  | none =>
    have hplanned : es.planned clock (.update place info) =
        .error (.connectionNotFound place.id) := by
      rw [planned, hrow]
      rfl
    rw [answer_of_planned_error hplanned, warned, hrow]
    exact .failed rfl id
  | some row =>
    cases hread : Connection.ofRow .fetch row with
    | ok existing =>
      have hplanned : es.planned clock (.update place info) =
          (Store.dated (Connection.ofMeta place info (.int existing.created)) clock).bind
            fun c => .ok (some (.put c)) := by
        rw [planned, hrow, Store.fetched, hread]
        rfl
      rw [warned, hrow, Store.lookNotes, Store.rowNotes, hread]
      cases hanswer : es.answer refusal? clock (.update place info) with
      | ok reply =>
        obtain rfl := eq_receipt_of_answer rfl hanswer
        exact .updated
      | error f => exact .failed (isA_of_dated hclock hrefusal hplanned hanswer) id
    | error f =>
      have hplanned : es.planned clock (.update place info) = .error f := by
        rw [planned, hrow, Store.fetched, hread]
        rfl
      rw [answer_of_planned_error hplanned, warned, hrow, Store.lookNotes, Store.notesOf,
        List.append_nil]
      exact audited_unread (.atPlace rfl hrow hread) hread id

omit hclock hrefusal

theorem audited_get (place : NamespacedId) :
    (Operation.get place).Audited es (es.answer refusal? clock (.get place))
      (es.warned (.get place) ++
        Store.notesOf (Operation.get place).reported (es.answer refusal? clock (.get place))) := by
  rw [answer, warned]
  cases hrow : es.rowAt place with
  | none => exact .failed rfl id
  | some row =>
    rw [Store.fetched, Store.lookNotes]
    cases hread : Connection.ofRow .fetch row with
    | ok c =>
      rw [Store.rowNotes, hread]
      exact .got
    | error f =>
      rw [Except.map, Store.notesOf, List.append_nil]
      exact audited_unread (.atPlace rfl hrow hread) hread id

theorem audited_contains (namespaceName name : String) :
    (Operation.contains namespaceName name).Audited es
      (es.answer refusal? clock (.contains namespaceName name))
      (es.warned (.contains namespaceName name) ++
        Store.notesOf (Operation.contains namespaceName name).reported
          (es.answer refusal? clock (.contains namespaceName name))) := by
  rw [answer, warned]
  cases hrow : es.rowAt (Store.placeOf namespaceName name) with
  | none => exact .told
  | some row =>
    rw [Store.looked, Store.lookNotes]
    cases hread : Connection.ofRow .look row with
    | ok c =>
      rw [Store.rowNotes, hread]
      exact .told
    | error f =>
      rw [Except.map, Except.map, Store.notesOf, List.append_nil]
      exact audited_unread (.atPlace rfl hrow hread) hread id

omit [Caller] in
/-- The first rows of a namespace are those before the one at an id. -/
theorem Worded.exists_id (h : es.Worded) {namespaceName : String} {before after : List Row}
    {row : Row} (hwithin : es.within namespaceName = before ++ row :: after) :
    ∃ id, es.rowAt ⟨namespaceName, id⟩ = some row ∧
      ∀ otherId other, otherId < id → es.rowAt ⟨namespaceName, otherId⟩ = some other →
        other ∈ before := by
  obtain ⟨visits, hvisits, hvisited⟩ := h.exists_visits namespaceName
  obtain ⟨front, rest, rfl, rfl, hrest⟩ := List.map_eq_append_iff.1 (hvisited.symm.trans hwithin)
  obtain ⟨⟨id, _⟩, back, rfl, rfl, rfl⟩ := List.map_eq_cons_iff.1 hrest
  have hrow := (hvisits.mem id _).1 (List.mem_append_right front List.mem_cons_self)
  refine ⟨id, h.rowAt_eq_some_iff.2 hrow, ?_⟩
  intro otherId other hless hother
  have hin := (hvisits.mem otherId other).2 (h.rowAt_eq_some_iff.1 hother)
  rcases List.mem_append.1 hin with hfront | hback
  · exact List.mem_map.2 ⟨_, hfront, rfl⟩
  · -- nothing behind the row comes before it
    obtain ⟨-, hbehind, -⟩ := List.pairwise_append.1 hvisits.increase
    rcases List.mem_cons.1 hback with heq | hback
    · obtain ⟨rfl, -⟩ := Prod.mk.inj heq
      exact absurd hless (String.lt_irrefl otherId)
    · have hgreater : id < otherId := (List.pairwise_cons.1 hbehind).1 _ hback
      exact absurd (String.lt_trans hless hgreater) (String.lt_irrefl otherId)

theorem Worded.audited_list (h : es.Worded) (namespaceName : String) {filter : Filter}
    (hfilter : ∀ c, filter.Answers c) :
    (Operation.list namespaceName filter).Audited es
      (es.answer refusal? clock (.list namespaceName filter))
      (es.warned (.list namespaceName filter) ++
        Store.notesOf (Operation.list namespaceName filter).reported
          (es.answer refusal? clock (.list namespaceName filter))) := by
  rw [answer, warned]
  obtain ⟨asked, hends, -⟩ := filter.gather_ends (es.within namespaceName)
  generalize hresult : filter.gather (es.within namespaceName) = result at hends ⊢
  -- the rows before the one that ends the gathering are read and leave no notes
  cases hends with
  | done hread hanswers =>
    have hnotes := Store.gatherNotes_append hread hanswers []
    rw [List.append_nil] at hnotes
    rw [hnotes]
    exact .listed
  | @unread before after cs row f hrows hread hanswers hrow =>
    obtain ⟨_, hat, hfront⟩ := h.exists_id hrows
    rw [hrows, Store.gatherNotes_append hread hanswers, Store.gatherNotes, hrow, Except.map,
      Store.notesOf, List.append_nil]
    refine audited_unread (.first hat hrow ?_) hrow id
    intro otherId other hless hother
    have hmem := List.mem_map_of_mem (f := Connection.ofRow .list)
      (hfront otherId other hless hother)
    rw [hread] at hmem
    obtain ⟨c, -, hc⟩ := List.mem_map.1 hmem
    exact ⟨c, hc.symm⟩
  | refused hrows hread hanswers hrow hrefused =>
    -- a filter that answers refuses nothing
    obtain ⟨kept, hkept⟩ := hfilter _
    rw [hkept] at hrefused
    cases hrefused

/-- Whatever an operation does over some rows, it notes what a log has to tell. -/
theorem Worded.audited (h : es.Worded) (hclock : clock.Honest)
    (hrefusal : ∀ c f, refusal? c = some f → f.isA .corruptConnection = false)
    (ho : o.Answering) :
    o.Audited es (es.answer refusal? clock o)
      (es.warned o ++ Store.notesOf o.reported (es.answer refusal? clock o)) := by
  cases o with
  | create namespaceName info => exact audited_create hclock hrefusal namespaceName info
  | get place => exact audited_get place
  | update place info => exact audited_update hclock hrefusal place info
  | delete place => exact .deleted
  | contains namespaceName name => exact audited_contains namespaceName name
  | list namespaceName filter => exact h.audited_list namespaceName ho

end Shelf

/-! ## Sessions -/

theorem Operation.Audited.audible [Caller] {es : Shelf} {o : Operation} {r : Except Failure Reply}
    {notes : List Record} (h : o.Audited es r notes) : Log.Audible notes := by
  cases h <;>
    simp [Log.Audible, Store.record, Level.debug, Level.info, Level.warning, Level.error]

theorem Clock.Honest.read {clock : Clock} (h : clock.Honest) : clock.read.2.Honest := by
  cases clock with
  | manual v reads => trivial
  | system time => trivial
  | brought reading reads => exact h

/-- An honest clock stays honest, whatever is done to the table. -/
def Clock.honesty (τ : Type) [RowStore τ] : Frame τ where
  Allows env env' := env.clock.Honest → env'.clock.Honest
  trans hab hbc h := hbc (hab h)
  clock _ h := h.read
  meter _ _ h := h
  log _ _ h := h
  read _ _ h := h
  scan _ _ _ h := h
  setCursor _ _ _ h := h

/-- What happens keeps tables of a kind as they have to be, keeps the clock honest, and asks no
filter that fails. -/
def Happening.Fair {τ : Type} (Fine : τ → Prop) : Happening τ Operation → Prop
  | outside table clock =>
    (∀ t, Fine t → Fine (table t)) ∧ ∀ c, Clock.Honest c → (clock c).Honest
  | asked o => o.Answering

/-- Over tables of a kind, with some rows, the log is an audit trail of every session: at the level
of debugging it takes up the records that each operation has to leave, in the order of the
operations, and nothing else. -/
def Audits [Caller] (τ : Type) [RowStore τ] (Fine : τ → Prop) (rows : τ → Shelf) : Prop :=
  ∀ (session : List (Happening τ Operation)) (env : Env τ), Fine env.table → env.clock.Honest →
    (∀ happening ∈ session, happening.Fair Fine) → env.log.threshold = .debug →
      let (exchanges, last) := Store.serve Operation.run session env
      ∃ trail, List.Forall₂ (fun x notes => x.request.Audited (rows x.table) x.answer notes)
          exchanges trail ∧
        last.log.records = env.log.records ++ trail.flatten

namespace Shelver

variable [Caller] {τ : Type} [RowStore τ] (H : Shelver τ)
variable (hrefusal : ∀ c f, H.refusal? c = some f → f.isA .corruptConnection = false)
include hrefusal

theorem audited_step {env : Env τ} {es : Shelf} (h : H.Has env.table es) (hworded : es.Worded)
    (hscans : Store.Scans env.table es) (hcalm : H.Calm env.table) (hclock : env.clock.Honest)
    {o : Operation} (ho : o.Answering) :
    ∃ notes, o.Audited es (o.run.run env).1 notes ∧
      (o.run.run env).2.log = env.log.takeUp notes := by
  obtain ⟨r, u, clock', htrace⟩ :=
    o.request_reports (fun place => H.reads place h hcalm) hscans env.clock
  have hrun := Request.run_traces htrace env.meter env.log
  rw [← Operation.run_eq_request] at hrun
  have hanswer := (H.step_of_scans h hscans hcalm o).1
  rw [hrun] at hanswer ⊢
  obtain rfl : r = es.answer H.refusal? env.clock o := hanswer
  exact ⟨_, hworded.audited hclock hrefusal ho, rfl⟩

variable {Fine : τ → Prop} {rows : τ → Shelf}
variable (hfine : ∀ t, Fine t →
  H.Has t (rows t) ∧ (rows t).Worded ∧ Store.Scans t (rows t) ∧ H.Calm t)
variable (hrows : ∀ t es, H.Has t es → es.Worded → H.Calm t → Fine t)
include hfine hrows

/-- What a session leaves in the log, whatever the threshold: the log takes up what it has to tell
of each operation. -/
theorem audited_session (session : List (Happening τ Operation)) (env : Env τ)
    (henv : Fine env.table) (hclock : env.clock.Honest)
    (hfair : ∀ happening ∈ session, happening.Fair Fine) :
    ∃ trail,
      List.Forall₂ (fun x notes => x.request.Audited (rows x.table) x.answer notes)
          (Store.serve Operation.run session env).1 trail ∧
        (Store.serve Operation.run session env).2.log = env.log.takeUp trail.flatten ∧
        Log.Audible trail.flatten := by
  -- the invariant: the table stays as it has to be, and the clock honest
  induction session generalizing env with
  | nil => exact ⟨[], .nil, rfl, Log.audible_nil⟩
  | cons happening session ih =>
    obtain ⟨hfirst, hrest⟩ := List.forall_mem_cons.1 hfair
    cases happening with
    | outside table clock => exact ih _ (hfirst.1 _ henv) (hfirst.2 _ hclock) hrest
    | asked o =>
      obtain ⟨h, hworded, hscans, hcalm⟩ := hfine env.table henv
      obtain ⟨notes, haudited, hnotes⟩ :=
        H.audited_step hrefusal h hworded hscans hcalm hclock hfirst
      obtain ⟨-, hleft, hcalm'⟩ := H.step_of_scans h hscans hcalm o
      have hclock' : (o.run.run env).2.clock.Honest :=
        (Clock.honesty τ).run_keeps (fun _ _ h => h) o env hclock
      obtain ⟨trail, htrail, hlog, haudible⟩ :=
        ih (o.run.run env).2 (hrows _ _ hleft (hworded.left o) hcalm') hclock' hrest
      refine ⟨notes :: trail, .cons haudited htrail, ?_, ?_⟩
      · rw [List.flatten_cons, Log.takeUp_append, ← hnotes]
        exact hlog
      · rw [List.flatten_cons]
        exact haudited.audible.append haudible

theorem audits : Audits τ Fine rows := by
  intro session env henv hclock hfair hthreshold
  obtain ⟨trail, htrail, hlog, haudible⟩ :=
    H.audited_session hrefusal hfine hrows session env henv hclock hfair
  refine ⟨trail, htrail, ?_⟩
  rw [hlog]
  exact haudible.takeUp_debug hthreshold

end Shelver

/-- Over tables in memory and tables of a database, none of whose calls was made to fail, whatever
their rows hold besides texts in the key columns, the log is an audit trail.  The clock may fail,
but no reading of it with the failure of a corrupt row (`Clock.Honest`), and the filters answer. -/
theorem log_audits_operations [Caller] :
    Audits MemoryTable MemoryTable.Worded MemoryTable.rows ∧
      Audits SqlTable SqlTable.Plain SqlTable.stored := by
  constructor
  · have hrefusal : ∀ c f, MemoryTable.shelver.refusal? c = some f →
        f.isA .corruptConnection = false := by
      intro c f hf
      have hnone : (none : Option Failure) = some f := hf
      cases hnone
    refine MemoryTable.shelver.audits hrefusal ?_ ?_
    · intro t h
      exact ⟨h.has, h.2.1, h.scans, h.2.2⟩
    · intro t es h hworded hcalm
      have hhas : t.Has es := h
      refine ⟨hhas.key, ?_, hcalm⟩
      rw [hhas.rows]
      exact hworded
  · have hrefusal : ∀ c f, SqlTable.shelver.refusal? c = some f →
        f.isA .corruptConnection = false := by
      intro c f hf
      have hunfit : SqlTable.unfit? c = some f := hf
      unfold SqlTable.unfit? at hunfit
      split at hunfit
      · cases hunfit
      · obtain rfl := Option.some.inj hunfit
        rfl
    refine SqlTable.shelver.audits hrefusal ?_ ?_
    · intro t h
      exact ⟨h, h.sound.worded, fun namespaceName => h.scans namespaceName, trivial⟩
    · intro t es h _ _
      have hstored : t.Has es := h
      show t.Has t.stored
      rw [hstored.stored]
      exact hstored

/-- A session over the untidy table: one of its rows is taken away, and the other one is met by a
look-up and by a listing before it goes too; then a connection is created, refused as a duplicate,
updated, listed and deleted, and what is absent is looked for and deleted. -/
def untidySession : List (Happening MemoryTable Operation) :=
  [.asked (.delete ⟨"ns", "S3"⟩), .asked (.get ⟨"ns", "b"⟩), .asked (.list "ns" .all),
    .asked (.delete ⟨"ns", "b"⟩), .asked (.create "ns" ⟨"A", .s3, "", .empty⟩),
    .asked (.create "ns" ⟨"a", .gcs, "", .empty⟩), .outside id (Clock.setTo (.int 5)),
    .asked (.update ⟨"ns", "a"⟩ ⟨"A", .file, "", .empty⟩), .asked (.list "ns" .all),
    .asked (.delete ⟨"ns", "a"⟩), .asked (.get ⟨"ns", "a"⟩), .asked (.delete ⟨"ns", "a"⟩)]

section

attribute [local instance] Caller.direct

/-- What the log has of it: the level and the message of each record, and what it is about. -/
def untidyTrail : List (Level × String × List String) :=
  [(.info, "[ConnectionStore] Deleted connection", ["ns", "S3"]),
    (.error, "[ConnectionStore] Corrupt connection row: 'type'", ["ns", "b"]),
    (.error, "[ConnectionStore] Corrupt connection row: 'type'", ["ns", "b"]),
    (.info, "[ConnectionStore] Deleted connection", ["ns", "b"]),
    (.info, "[ConnectionStore] Created S3 connection 'A'", ["ns", "a"]),
    (.warning, "[ConnectionStore] Refusing duplicate connection 'a'", ["ns", "a"]),
    (.info, "[ConnectionStore] Updated connection 'A'", ["ns", "a"]),
    (.debug, "[ConnectionStore] Listed 1 connections", ["ns"]),
    (.info, "[ConnectionStore] Deleted connection", ["ns", "a"]),
    (.info, "[ConnectionStore] Deleted connection", ["ns", "a"])]

theorem records_untidy :
    (Store.serve Operation.run untidySession untidyEnv).2.log.records.map
        (fun note => (note.level, note.message, note.dimensions.map (·.2.toText))) =
      untidyTrail := by
  decide +kernel

/-- Two items that are in the wrong order change places. -/
theorem mergeSort_swap {α : Type} {le : α → α → Bool} {a b : α} (h : le a b = false) :
    [a, b].mergeSort le = [b, a] := by
  rw [List.mergeSort]
  simp [List.MergeSort.Internal.splitInTwo, h]

/-- Of the two rows, neither of which is read, a listing comes to the one with the lesser id. -/
theorem within_untidy :
    Shelf.within untidyTable.rows "ns" =
      [.ofList [("namespace", .text "ns"), ("id", .type .s3)],
        .ofList [("namespace", .text "ns"), ("id", .text "b")]] := by
  have hsort : (untidyTable.rows.mergeSort fun a b => Key.atMost a.1 b.1) =
      untidyTable.rows.reverse := mergeSort_swap rfl
  rw [Shelf.within, Shelf.inKeyOrder, hsort]
  rfl

theorem record_untidy_listing :
    (Store.serve Operation.run [.asked (.list "ns" .all)] untidyEnv).2.log.records.map
        (fun note => (note.level, note.dimensions.map (·.2.toText))) =
      [(.error, ["ns", "ConnectionType.S3"])] := by
  obtain ⟨cursor, t, hscan, hpending⟩ := untidyTable_worded.scans "ns"
  have hrows := hpending.trans within_untidy
  have hgather : Filter.all.gather (RowStore.pending t cursor) =
      .error (.corruptRow (.missingColumn "type")) := by
    rw [hrows]
    rfl
  have hscan' : (RowStore.scan (Store.namespaceRange "ns") none).run untidyEnv.table = _ := hscan
  have hrun : (Operation.list "ns" .all).run.run untidyEnv = _ :=
    Store.run_map (Store.list_error hscan' hgather) Reply.connections
  rw [Store.serve, hrun, hrows]
  dsimp only [Store.serve]
  decide +kernel

theorem log_audits_operations_untidy :
    (let (exchanges, last) := Store.serve Operation.run untidySession untidyEnv
     (∃ trail, List.Forall₂ (fun x notes => x.request.Audited x.table.rows x.answer notes)
         exchanges trail ∧ last.log.records = trail.flatten) ∧
       last.log.records.map
           (fun note => (note.level, note.message, note.dimensions.map (·.2.toText))) =
         untidyTrail) ∧
      let (exchanges, last) := Store.serve Operation.run [.asked (.list "ns" .all)] untidyEnv
      (∃ trail, List.Forall₂ (fun x notes => x.request.Audited x.table.rows x.answer notes)
          exchanges trail ∧ last.log.records = trail.flatten) ∧
        last.log.records.map (fun note => (note.level, note.dimensions.map (·.2.toText))) =
          [(.error, ["ns", "ConnectionType.S3"])] := by
  have hlisting : ∀ happening ∈ [Happening.asked (Operation.list "ns" .all)],
      happening.Fair MemoryTable.Worded := by
    intro happening hmem
    obtain rfl := List.mem_singleton.1 hmem
    exact fun c => ⟨true, rfl⟩
  refine ⟨⟨log_audits_operations.1 untidySession untidyEnv untidyTable_worded trivial ?_ rfl,
    records_untidy⟩, log_audits_operations.1 _ untidyEnv untidyTable_worded trivial hlisting rfl,
    record_untidy_listing⟩
  intro happening hmem
  simp only [untidySession, List.mem_cons, List.not_mem_nil, or_false] at hmem
  rcases hmem with rfl | rfl | rfl | rfl | rfl | rfl | rfl | rfl | rfl | rfl | rfl | rfl
  case inr.inr.inr.inr.inr.inr.inl =>
    refine ⟨fun _ h => h, ?_⟩
    rintro (_ | _ | _) h
    · trivial
    · trivial
    · exact h
  all_goals first | trivial | exact fun c => ⟨true, rfl⟩

end

end ConnectionCatalog
