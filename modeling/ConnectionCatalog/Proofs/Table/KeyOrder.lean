import Mathlib.Data.List.Lex
import Mathlib.Data.Prod.Lex
import Mathlib.Data.String.Basic
import ConnectionCatalog.Proofs.Table.Memory

/-! # Proofs.Table.KeyOrder — keys whose columns hold texts or whole numbers

Each column of a key holds texts only or whole numbers only.  Then every value has a rank in its
column, keys are ordered as the lists of their ranks are, and the rows that a range pins stand next
to each other: between two rows whose first columns are equal there is no other row.

* `Key.Of.same_eq`, `Key.Of.less_eq`: keys are compared by their ranks.
* `Range.contains_between`: a range that has two rows has every row between them.
* `Ascending.block`, `Ascending.subBlock`, `Ascending.parts`: ranges are blocks of ascending rows,
  and those of the first column are all the rows, one after the other.
-/

namespace ConnectionCatalog

/-! ## Blocks of lists -/

section Blocks

variable {α β : Type} {r : α → α → Prop} {p : α → Bool} {xs : List α}

/-- If nothing that is chosen stands behind what is not, the chosen come first. -/
theorem filter_append_filter_not (hxs : xs.Pairwise r)
    (hp : ∀ a ∈ xs, ∀ b ∈ xs, r a b → p b = true → p a = true) :
    xs.filter p ++ xs.filter (fun x => !p x) = xs := by
  induction xs with
  | nil => rfl
  | cons x xs ih =>
    obtain ⟨hx, hrest⟩ := List.pairwise_cons.1 hxs
    have hrest := ih hrest fun a ha b hb =>
      hp a (List.mem_cons_of_mem x ha) b (List.mem_cons_of_mem x hb)
    cases hpx : p x with
    | true => simp [hpx, hrest]
    | false =>
      -- what fails the test is followed by nothing that passes it
      have hnone : xs.filter p = [] := by
        rw [List.filter_eq_nil_iff]
        intro b hb hpb
        have hpx' := hp x List.mem_cons_self b (List.mem_cons_of_mem x hb) (hx b hb) hpb
        rw [hpx] at hpx'
        cases hpx'
      rw [hnone, List.nil_append] at hrest
      simp [hpx, hnone, hrest]

/-- If everything between two that are chosen is chosen as well, the chosen form a block. -/
theorem filter_isInfix (hxs : xs.Pairwise r)
    (hp : ∀ a ∈ xs, ∀ b ∈ xs, ∀ c ∈ xs, r a b → r b c → p a = true → p c = true → p b = true) :
    xs.filter p <:+: xs := by
  induction xs with
  | nil => exact List.infix_rfl
  | cons x xs ih =>
    obtain ⟨hx, hrest⟩ := List.pairwise_cons.1 hxs
    have hmem : ∀ a ∈ xs, a ∈ x :: xs := fun a ha => List.mem_cons_of_mem x ha
    cases hpx : p x with
    | false =>
      have hblock := ih hrest fun a ha b hb c hc => hp a (hmem a ha) b (hmem b hb) c (hmem c hc)
      simpa [hpx] using hblock.trans (List.suffix_cons x xs).isInfix
    | true =>
      -- the block starts with the first item, so that the others of the block come next
      have hfirst : xs.filter p <+: xs := by
        have happend := filter_append_filter_not hrest fun a ha b hb hab hpb =>
          hp x List.mem_cons_self a (hmem a ha) b (hmem b hb) (hx a ha) hab hpx hpb
        exact ⟨_, happend⟩
      have hblock : x :: xs.filter p <+: x :: xs := List.cons_prefix_cons.2 ⟨rfl, hfirst⟩
      simpa [hpx] using hblock.isInfix

/-- What is ascending falls into the parts of its values, one after the other. -/
theorem flatMap_filter_eq [LinearOrder β] {f : α → β}
    (hxs : xs.Pairwise fun a b => f a ≤ f b) {values : List β} (hvalues : values.Pairwise (· < ·))
    (hcover : ∀ x ∈ xs, f x ∈ values) :
    (values.flatMap fun v => xs.filter fun x => decide (f x = v)) = xs := by
  induction values generalizing xs with
  | nil =>
    cases xs with
    | nil => rfl
    | cons x xs => cases hcover x List.mem_cons_self
  | cons v values ih =>
    obtain ⟨hv, hrest⟩ := List.pairwise_cons.1 hvalues
    have hleast : ∀ x ∈ xs, v ≤ f x := by
      intro x hx
      rcases List.mem_cons.1 (hcover x hx) with heq | hmem
      · exact heq.ge
      · exact (hv _ hmem).le
    -- the items with the least value come first, and the induction lists the others
    have hparts := filter_append_filter_not (p := fun x => decide (f x = v)) hxs (by
      intro a ha b _ hab hb
      have hb : f b = v := of_decide_eq_true hb
      exact decide_eq_true (le_antisymm (hab.trans hb.le) (hleast a ha)))
    have hothers : (values.flatMap fun w => xs.filter fun x => decide (f x = w)) =
        xs.filter fun x => !decide (f x = v) := by
      rw [← ih (hxs.filter _) hrest]
      · refine List.flatMap_congr ?_
        intro w hw
        rw [List.filter_filter]
        refine List.filter_congr ?_
        intro x _
        have hne := (hv w hw).ne'
        by_cases hx : f x = w
        · simp [hx, hne]
        · simp [hx]
      · intro x hx
        obtain ⟨hx, hne⟩ := List.mem_filter.1 hx
        rcases List.mem_cons.1 (hcover x hx) with heq | hmem
        · simp [heq] at hne
        · exact hmem
    rw [List.flatMap_cons, hothers, hparts]

end Blocks

/-! ## Values -/

theorem Double.unitsPerOne_pos : 0 < Double.unitsPerOne := by
  unfold Double.unitsPerOne
  -- the power stays as it is: it is not to be computed
  generalize 1074 = n
  exact Nat.pow_pos Nat.zero_lt_two

/-- What a column of a key holds: texts only, or whole numbers only. -/
inductive KeyKind
  | text
  | whole
deriving DecidableEq, Repr

/-- Whether a value is, or counts as, one of a kind. -/
def KeyKind.Holds : KeyKind → Value → Prop
  | text, v => ∃ s, v.text? = some s
  | whole, v => ∃ n, v.number? = some (.whole n)

namespace Value

/-- Where a value stands among those of its kind: numbers by size, texts by their letters. -/
def rank (v : Value) : Int ×ₗ String :=
  match v.text?, v.number? with
  | some s, _ => toLex (0, s)
  | none, some (.whole n) => toLex (n, "")
  | none, _ => toLex (0, "")

variable {u v w : Value} {s : String} {n : Int}

theorem rank_of_text (h : v.text? = some s) : v.rank = toLex (0, s) := by
  rw [rank, h]

theorem rank_of_whole (h : v.number? = some (.whole n)) : v.rank = toLex (n, "") := by
  have htext : v.text? = none := by
    cases v <;> first | rfl | cases h
  rw [rank, htext, h]

theorem same_of_text (h : v.text? = some s) (w : Value) :
    v.same w = w.text?.any fun t => s == t := by
  cases v <;> cases w <;> simp_all [same, sameAtom, number?, text?]

theorem same_of_whole (h : v.number? = some (.whole n)) (w : Value) :
    v.same w = w.number?.any fun x => (Number.whole n).same x := by
  cases v <;> cases w <;> simp_all [same, sameAtom, number?, text?]

/-- No number is the same as two whole numbers. -/
theorem eq_of_same_number {m n : Int} {x : Number} (hm : (Number.whole m).same x = true)
    (hn : (Number.whole n).same x = true) : m = n := by
  -- a double that equals a whole number is finite, and as many units large
  cases x with
  | whole k =>
    have hm : m = k := by simpa [Number.same] using hm
    have hn : n = k := by simpa [Number.same] using hn
    rw [hm, hn]
  | real d =>
    cases d with
    | nan => cases hm
    | infinite _ => cases hm
    | finite negative units =>
      have hm : Double.placeOfInt m = Double.signed negative units := by
        simpa [Number.same] using hm
      have hn : Double.placeOfInt n = Double.signed negative units := by
        simpa [Number.same] using hn
      have hunit : (Double.unitsPerOne : Int) ≠ 0 := by
        have hpos := Double.unitsPerOne_pos
        omega
      exact Int.eq_of_mul_eq_mul_right hunit (hm.trans hn.symm)

end Value

namespace KeyKind

variable {kind : KeyKind} {u v w : Value}

/-- The order that the values of a kind are part of. -/
def order : KeyKind → Value.Order
  | text => .texts
  | whole => .numbers

theorem Holds.order? (h : kind.Holds v) : v.order? = some kind.order := by
  cases kind with
  | text =>
    obtain ⟨s, hs⟩ := h
    exact Value.order?_of_text hs
  | whole =>
    obtain ⟨n, hn⟩ := h
    cases v <;> first | rfl | cases hn

variable (hu : kind.Holds u) (hv : kind.Holds v)

include hu hv

/-- Values of one kind are equal just if they have the same rank. -/
theorem Holds.same_eq : u.same v = decide (u.rank = v.rank) := by
  cases kind with
  | text =>
    obtain ⟨s, hs⟩ := hu
    obtain ⟨t, ht⟩ := hv
    rw [Value.rank_of_text hs, Value.rank_of_text ht, Value.same_of_texts hs ht]
    simp
  | whole =>
    obtain ⟨m, hm⟩ := hu
    obtain ⟨n, hn⟩ := hv
    rw [Value.rank_of_whole hm, Value.rank_of_whole hn, Value.same_of_whole hm, hn]
    simp [Number.same, Bool.beq_eq_decide_eq]

theorem Holds.before?_eq : u.before? v = some (decide (u.rank < v.rank)) := by
  cases kind with
  | text =>
    obtain ⟨s, hs⟩ := hu
    obtain ⟨t, ht⟩ := hv
    rw [Value.rank_of_text hs, Value.rank_of_text ht, Value.before?_of_texts hs ht]
    simp [Prod.Lex.toLex_lt_toLex]
  | whole =>
    obtain ⟨m, hm⟩ := hu
    obtain ⟨n, hn⟩ := hv
    rw [Value.rank_of_whole hm, Value.rank_of_whole hn]
    simp [Value.before?, hm, hn, Prod.Lex.toLex_lt_toLex, Number.lt]

/-- A value of any kind equals those of one rank at most. -/
theorem Holds.rank_eq_of_same (hw : u.same w = true) (hw' : v.same w = true) :
    u.rank = v.rank := by
  -- texts rank by themselves and whole numbers by their value, so what equals one thing has one
  -- rank
  cases kind with
  | text =>
    obtain ⟨s, hs⟩ := hu
    obtain ⟨t, ht⟩ := hv
    rw [Value.same_of_text hs, Option.any_eq_true_iff_get] at hw
    rw [Value.same_of_text ht, Option.any_eq_true_iff_get] at hw'
    obtain ⟨_, hw⟩ := hw
    obtain ⟨_, hw'⟩ := hw'
    rw [Value.rank_of_text hs, Value.rank_of_text ht, eq_of_beq hw, eq_of_beq hw']
  | whole =>
    obtain ⟨m, hm⟩ := hu
    obtain ⟨n, hn⟩ := hv
    rw [Value.same_of_whole hm, Option.any_eq_true_iff_get] at hw
    rw [Value.same_of_whole hn, Option.any_eq_true_iff_get] at hw'
    obtain ⟨_, hw⟩ := hw
    obtain ⟨_, hw'⟩ := hw'
    rw [Value.rank_of_whole hm, Value.rank_of_whole hn, Value.eq_of_same_number hw hw']

/-- Values of one rank equal the same values of any kind. -/
theorem Holds.same_of_rank_eq (h : u.rank = v.rank) (w : Value) : u.same w = v.same w := by
  cases kind with
  | text =>
    obtain ⟨s, hs⟩ := hu
    obtain ⟨t, ht⟩ := hv
    rw [Value.rank_of_text hs, Value.rank_of_text ht] at h
    have hst : s = t := congrArg (fun r => (ofLex r).2) h
    rw [Value.same_of_text hs, Value.same_of_text ht, hst]
  | whole =>
    obtain ⟨m, hm⟩ := hu
    obtain ⟨n, hn⟩ := hv
    rw [Value.rank_of_whole hm, Value.rank_of_whole hn] at h
    have hmn : m = n := congrArg (fun r => (ofLex r).1) h
    rw [Value.same_of_whole hm, Value.same_of_whole hn, hmn]

end KeyKind

/-! ## Keys -/

namespace Key

/-- Each value of a key is of the kind of its column. -/
def Of (kinds : List KeyKind) (key : Key) : Prop := List.Forall₂ KeyKind.Holds kinds key

/-- The ranks of the values of a key. -/
def ranks (key : Key) : List (Int ×ₗ String) := key.map Value.rank

@[simp] theorem ranks_cons (v : Value) (key : Key) : ranks (v :: key) = v.rank :: ranks key := rfl

variable {kinds : List KeyKind} {a b c : Key}

theorem Of.same_eq (ha : a.Of kinds) (hb : b.Of kinds) :
    a.same b = decide (a.ranks = b.ranks) := by
  induction ha generalizing b with
  | nil =>
    cases hb
    rfl
  | cons hu _ ih =>
    cases hb with
    | cons hv hb =>
      rw [same, hu.same_eq hv, ih hb, ← Bool.decide_and]
      exact decide_eq_decide.2 (by simp)

/-- Keys are compared as the lists of their ranks. -/
theorem Of.less_eq (ha : a.Of kinds) (hb : b.Of kinds) :
    Key.less a b = .ok (decide (a.ranks < b.ranks)) := by
  induction ha generalizing b with
  | nil =>
    cases hb
    rfl
  | @cons kind u kinds a hu _ ih =>
    cases hb with
    | @cons _ v _ b hv hb =>
      have hcons : ranks (u :: a) < ranks (v :: b) ↔
          u.rank < v.rank ∨ u.rank = v.rank ∧ ranks a < ranks b := List.cons_lt_cons_iff
      rw [less, hu.same_eq hv]
      -- where the first columns are equal the others decide
      by_cases heq : u.rank = v.rank
      · rw [decide_eq_true heq, if_pos rfl, ih hb]
        exact congrArg Except.ok (decide_eq_decide.2 (hcons.trans (by simp [heq])).symm)
      · rw [decide_eq_false heq, if_neg (by simp), hu.before?_eq hv]
        exact congrArg Except.ok (decide_eq_decide.2 (hcons.trans (by simp [heq])).symm)

theorem Of.atMost_eq (ha : a.Of kinds) (hb : b.Of kinds) :
    Key.atMost a b = decide (a.ranks ≤ b.ranks) := by
  rw [atMost, hb.less_eq ha]
  dsimp only
  rw [← decide_not]
  exact decide_eq_decide.2 not_lt

theorem Of.orders (ha : a.Of kinds) :
    a.map Value.order? = kinds.map fun kind => some kind.order := by
  induction ha with
  | nil => rfl
  | cons hv _ ih => simp [hv.order?, ih]

/-- Keys that have one kind of values in each column have an order. -/
theorem ordered_of {keys : List Key} (h : ∀ key ∈ keys, Key.Of kinds key) :
    Key.ordered keys = true := by
  cases keys with
  | nil => rfl
  | cons key keys =>
    obtain ⟨hkey, hkeys⟩ := List.forall_mem_cons.1 h
    have hsome : ∀ o ∈ key.map Value.order?, o.isSome = true := by
      rw [hkey.orders]
      simp
    simp only [ordered, Bool.and_eq_true, List.all_eq_true, beq_iff_eq]
    constructor
    · intro v hv
      exact hsome _ (List.mem_map_of_mem hv)
    · intro other hother
      rw [hkey.orders, (hkeys other hother).orders]

end Key

/-! ## Ranges -/

/-- Whatever stands between two rows of a range is in the range. -/
theorem Range.contains_between {pins : List (String × Value)} {key : List String}
    {kinds : List KeyKind} {a b c : Row} (hpins : pins.map (·.1) <+: key)
    (ha : Key.Of kinds (key.map a.cell)) (hb : Key.Of kinds (key.map b.cell))
    (hc : Key.Of kinds (key.map c.cell))
    (hab : Key.ranks (key.map a.cell) < Key.ranks (key.map b.cell))
    (hbc : Key.ranks (key.map b.cell) < Key.ranks (key.map c.cell))
    (hina : (Range.mk pins).contains a = true) (hinc : (Range.mk pins).contains c = true) :
    (Range.mk pins).contains b = true := by
  induction pins generalizing key kinds with
  | nil => rfl
  | cons p pins ih =>
    cases key with
    | nil => simp at hpins
    | cons column key =>
      obtain ⟨rfl, hrest⟩ := List.cons_prefix_cons.1 hpins
      cases kinds with
      | nil => cases ha
      | cons kind kinds =>
        simp only [List.map_cons, Key.Of, List.forall₂_cons] at ha hb hc
        simp only [List.map_cons, Key.ranks_cons, List.cons_lt_cons_iff] at hab hbc
        simp only [Range.contains, List.all_cons, Bool.and_eq_true] at hina hinc ⊢
        -- the first columns of the outer rows are equal, and so is the one between them
        have hac := ha.1.rank_eq_of_same hc.1 hina.1 hinc.1
        have hrank : (a.cell p.1).rank = (b.cell p.1).rank := by
          rcases hab with hlt | ⟨heq, -⟩
          · rcases hbc with hlt' | ⟨heq', -⟩
            · exact absurd (hlt.trans hlt') (by rw [hac]; exact lt_irrefl _)
            · rw [hac, heq']
          · exact heq
        have hbc' : (b.cell p.1).rank = (c.cell p.1).rank := hrank.symm.trans hac
        constructor
        · rw [← ha.1.same_of_rank_eq hb.1 hrank]
          exact hina.1
        · refine ih hrest ha.2 hb.2 hc.2 ?_ ?_ hina.2 hinc.2
          · exact (hab.resolve_left hrank.not_lt).2
          · exact (hbc.resolve_left hbc'.not_lt).2

/-- Rows that stand strictly in the order of their keys, of which each column holds one kind of
values. -/
structure Ascending (key : List String) (kinds : List KeyKind) (rows : List Row) : Prop where
  kinds : ∀ row ∈ rows, Key.Of kinds (key.map row.cell)
  strictly : rows.Pairwise fun a b => Key.ranks (key.map a.cell) < Key.ranks (key.map b.cell)

/-- A list of the values of a column, in increasing order and each once. -/
structure Lists (rows : List Row) (column : String) (values : List Value) : Prop where
  increasing : values.Pairwise fun v w => v.before? w = some true
  found : ∀ v ∈ values, ∃ row ∈ rows, row.cell column = v
  complete : ∀ row ∈ rows, ∃ v ∈ values, (row.cell column).same v = true

namespace Ascending

variable {key : List String} {kinds : List KeyKind} {rows : List Row} {range : Range}
variable {column : String} {values : List Value}

theorem filter (h : Ascending key kinds rows) (p : Row → Bool) :
    Ascending key kinds (rows.filter p) where
  kinds row hrow := h.kinds row (List.mem_filter.1 hrow).1
  strictly := h.strictly.filter p

/-- The rows of a range stand next to each other. -/
theorem block (h : Ascending key kinds rows) (hleads : range.columns <+: key) :
    rows.filter range.contains <:+: rows :=
  filter_isInfix h.strictly fun a ha b hb c hc hab hbc =>
    Range.contains_between hleads (h.kinds a ha) (h.kinds b hb) (h.kinds c hc) hab hbc

/-- To pin one more column selects a block of the rows of a range. -/
theorem subBlock (h : Ascending key kinds rows) {pin : String × Value}
    (hleads : (Range.mk (range.pins ++ [pin])).columns <+: key) :
    rows.filter (Range.mk (range.pins ++ [pin])).contains <:+: rows.filter range.contains := by
  have hinner : rows.filter (Range.mk (range.pins ++ [pin])).contains =
      (rows.filter range.contains).filter (Range.mk (range.pins ++ [pin])).contains := by
    rw [List.filter_filter]
    refine List.filter_congr ?_
    intro row _
    simp only [Range.contains, List.all_append]
    cases range.pins.all fun p => (row.cell p.1).same p.2 <;> simp
  rw [hinner]
  exact (h.filter range.contains).block hleads

/-- The kind of the values of the first column. -/
theorem exists_kind (h : Ascending key kinds rows) (hcolumn : key.head? = some column) :
    ∃ kind : KeyKind, (∀ row ∈ rows, kind.Holds (row.cell column)) ∧
      rows.Pairwise fun a b => (a.cell column).rank ≤ (b.cell column).rank := by
  obtain ⟨columns, rfl⟩ := List.head?_eq_some_iff.1 hcolumn
  -- a key without columns has no rows in the order, as each has a first column
  cases kinds with
  | nil =>
    have hempty : rows = [] := by
      rw [List.eq_nil_iff_forall_not_mem]
      intro row hrow
      cases h.kinds row hrow
    subst hempty
    exact ⟨.text, List.forall_mem_nil _, .nil⟩
  | cons kind kinds =>
    refine ⟨kind, ?_, ?_⟩
    · intro row hrow
      exact (List.forall₂_cons.1 (h.kinds row hrow)).1
    · refine h.strictly.imp ?_
      intro a b hab
      rcases List.cons_lt_cons_iff.1 hab with hlt | ⟨heq, -⟩
      · exact hlt.le
      · exact heq.le

/-- The ranges of the values of the first column, in increasing order, are all rows. -/
theorem parts (h : Ascending key kinds rows) (hcolumn : key.head? = some column)
    (hvalues : Lists rows column values) :
    (values.flatMap fun v => rows.filter (Range.mk [(column, v)]).contains) = rows := by
  obtain ⟨kind, hkind, hordered⟩ := h.exists_kind hcolumn
  have hholds : ∀ v ∈ values, kind.Holds v := by
    intro v hv
    obtain ⟨row, hrow, rfl⟩ := hvalues.found v hv
    exact hkind row hrow
  -- values of one kind are told apart by their ranks, so the parts are those of the ranks
  have hincreasing : (values.map Value.rank).Pairwise (· < ·) := by
    rw [List.pairwise_map]
    refine hvalues.increasing.imp_of_mem ?_
    intro v w hv hw hbefore
    rw [(hholds v hv).before?_eq (hholds w hw)] at hbefore
    exact of_decide_eq_true (Option.some.inj hbefore)
  have hcover : ∀ row ∈ rows, (row.cell column).rank ∈ values.map Value.rank := by
    intro row hrow
    obtain ⟨v, hv, hsame⟩ := hvalues.complete row hrow
    rw [(hkind row hrow).same_eq (hholds v hv)] at hsame
    exact List.mem_map.2 ⟨v, hv, (of_decide_eq_true hsame).symm⟩
  have hparts := flatMap_filter_eq hordered hincreasing hcover
  rw [List.flatMap_map] at hparts
  refine Eq.trans (List.flatMap_congr ?_) hparts
  intro v hv
  refine List.filter_congr ?_
  intro row hrow
  rw [← (hkind row hrow).same_eq (hholds v hv)]
  simp [Range.contains]

/-- The values of the first column can be listed. -/
theorem exists_lists (h : Ascending key kinds rows) (hcolumn : key.head? = some column) :
    ∃ values, Lists rows column values := by
  obtain ⟨kind, hkind, hordered⟩ := h.exists_kind hcolumn
  clear h
  induction rows with
  | nil => exact ⟨[], .nil, List.forall_mem_nil _, List.forall_mem_nil _⟩
  | cons row rows ih =>
    obtain ⟨hrow, hkind⟩ := List.forall_mem_cons.1 hkind
    obtain ⟨hfirst, hordered⟩ := List.pairwise_cons.1 hordered
    obtain ⟨values, hvalues⟩ := ih hkind hordered
    have hfound : ∀ v ∈ values, ∃ other ∈ row :: rows, other.cell column = v := by
      intro v hv
      obtain ⟨other, hother, heq⟩ := hvalues.found v hv
      exact ⟨other, List.mem_cons_of_mem row hother, heq⟩
    -- a row whose value is listed adds nothing; any other value is less than all listed ones
    by_cases hlisted : ∃ v ∈ values, (row.cell column).same v = true
    · exact ⟨values, hvalues.increasing, hfound, List.forall_mem_cons.2 ⟨hlisted, hvalues.complete⟩⟩
    · refine ⟨row.cell column :: values, List.pairwise_cons.2 ⟨?_, hvalues.increasing⟩,
        List.forall_mem_cons.2 ⟨⟨row, List.mem_cons_self, rfl⟩, hfound⟩,
        List.forall_mem_cons.2 ⟨⟨_, List.mem_cons_self, ?_⟩, ?_⟩⟩
      · intro v hv
        obtain ⟨other, hother, rfl⟩ := hvalues.found v hv
        have hne : (row.cell column).rank ≠ (other.cell column).rank := by
          intro heq
          refine hlisted ⟨_, hv, ?_⟩
          rw [hrow.same_eq (hkind other hother), decide_eq_true heq]
        rw [hrow.before?_eq (hkind other hother),
          decide_eq_true (lt_of_le_of_ne (hfirst other hother) hne)]
      · rw [hrow.same_eq hrow, decide_eq_true rfl]
      · intro other hother
        obtain ⟨v, hv, hsame⟩ := hvalues.complete other hother
        exact ⟨v, List.mem_cons_of_mem _ hv, hsame⟩

end Ascending
end ConnectionCatalog
