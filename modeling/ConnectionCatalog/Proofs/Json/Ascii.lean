import ConnectionCatalog.Json.Printer
import ConnectionCatalog.Proofs.Number.Digits

/-! # Proofs.Json.Ascii — printed documents are printable ASCII

Whatever a document holds, it is printed as characters from the space to the tilde, so on one line
and with nothing that a terminal or a log would take for more than a character.

* `Text.Plain`: a text of such characters.
* `Json.plain_print`: every printed document is one, by recursion over the document.
-/

namespace ConnectionCatalog

/-! ## Plain texts -/

namespace Text

/-- A character of ASCII that prints. -/
def IsPlain (c : Char) : Prop := 0x20 ≤ c.toNat ∧ c.toNat < 0x7F

instance (c : Char) : Decidable (IsPlain c) := inferInstanceAs (Decidable (_ ∧ _))

/-- A text of characters of ASCII that print. -/
def Plain (cs : List Char) : Prop := ∀ c ∈ cs, IsPlain c

instance (cs : List Char) : Decidable (Plain cs) := List.decidableBAll IsPlain cs

@[simp] theorem plain_nil : Plain [] := by
  intro c hc
  cases hc

@[simp] theorem plain_cons {c : Char} {cs : List Char} : Plain (c :: cs) ↔ IsPlain c ∧ Plain cs :=
  List.forall_mem_cons

@[simp] theorem plain_append {cs ds : List Char} : Plain (cs ++ ds) ↔ Plain cs ∧ Plain ds :=
  List.forall_mem_append

theorem Plain.of_subset {cs ds : List Char} (h : Plain ds) (hsub : ∀ c ∈ cs, c ∈ ds) : Plain cs :=
  fun c hc => h c (hsub c hc)

theorem Plain.flatMap {α : Type} {f : α → List Char} {xs : List α} (h : ∀ x ∈ xs, Plain (f x)) :
    Plain (xs.flatMap f) := by
  intro c hc
  obtain ⟨x, hx, hc⟩ := List.mem_flatMap.1 hc
  exact h x hx c hc

theorem isPlain_of_isDigit {c : Char} (h : c.isDigit = true) : IsPlain c := by
  obtain ⟨hlo, hhi⟩ := Char.isDigit_iff_toNat.1 h
  have hfirst : '0'.toNat = 48 := rfl
  have hlast : '9'.toNat = 57 := rfl
  unfold IsPlain
  omega

theorem plain_replicate {c : Char} (h : IsPlain c) (n : Nat) : Plain (List.replicate n c) := by
  intro d hd
  rw [List.eq_of_mem_replicate hd]
  exact h

theorem isPlain_hexDigit (n : Nat) (h : n < 16) : IsPlain (hexDigit n) := by
  have hall : ∀ d < 16, IsPlain (hexDigit d) := by decide
  exact hall n h

theorem plain_hex (width n : Nat) : Plain (hex width n) := by
  induction width generalizing n with
  | zero => exact plain_nil
  | succ width ih =>
    have hdigit := isPlain_hexDigit (n % 16) (Nat.mod_lt _ (by decide))
    simpa [hex, hdigit] using ih (n / 16)

end Text

open Text (IsPlain Plain plain_append plain_replicate)

/-! ## Numbers -/

theorem plain_digitsOf (n : Nat) : Plain (digitsOf n) :=
  fun _ hc => Text.isPlain_of_isDigit (isDigit_of_mem_digitsOf hc)

theorem plain_int (n : Int) : Plain (toString n).toList := by
  rw [toList_toString_int]
  have hsign : Plain (if n < 0 then ['-'] else []) := by split <;> decide
  exact plain_append.2 ⟨hsign, plain_digitsOf _⟩

namespace Double

theorem plain_signText (negative : Bool) {s : String} (h : Plain s.toList) :
    Plain (signText negative s).toList := by
  unfold signText
  split
  · rw [String.toList_append]
    exact plain_append.2 ⟨by decide, h⟩
  · exact h

theorem plain_dropEndZeros {cs : List Char} (h : Plain cs) : Plain (dropEndZeros cs) := by
  unfold dropEndZeros
  split
  · decide
  · refine h.of_subset fun c hc => ?_
    rw [List.mem_reverse] at hc
    exact List.mem_reverse.1 ((List.dropWhile_suffix _).mem hc)

theorem plain_decimalAt (n : Nat) (place : Int) : Plain (decimalAt n place).digits :=
  plain_dropEndZeros (plain_digitsOf n)

theorem plain_significant (count units : Nat) : Plain (significant count units).digits :=
  plain_decimalAt _ _

theorem plain_getD {d? : Option Decimal} {d : Decimal} (hsome : ∀ x, d? = some x → Plain x.digits)
    (hnone : Plain d.digits) : Plain (d?.getD d).digits := by
  cases d? with
  | none => exact hnone
  | some x => exact hsome x rfl

/-- The digits are those of a candidate, or seventeen of them where there is none. -/
theorem plain_shortest (units : Nat) : Plain (shortest units).digits := by
  unfold shortest
  refine plain_getD (fun d hd => ?_) (plain_significant 17 units)
  obtain ⟨count, -, hcandidate⟩ := List.exists_of_findSome?_eq_some hd
  obtain ⟨c, -, rfl⟩ := Option.map_eq_some_iff.1 hcandidate
  exact plain_decimalAt _ _

theorem plain_write (l : Layout) {d : Decimal} (h : Plain d.digits) :
    Plain (l.write d).toList := by
  have htake : ∀ n, Plain (d.digits.take n) := fun n =>
    h.of_subset fun c hc => List.mem_of_mem_take hc
  have hdrop : ∀ n, Plain (d.digits.drop n) := fun n =>
    h.of_subset fun c hc => List.mem_of_mem_drop hc
  have hzeros : ∀ n, Plain (List.replicate n '0') := plain_replicate (by decide)
  have hzero : IsPlain '0' := by decide
  have hpoint : IsPlain '.' := by decide
  unfold Layout.write
  dsimp only
  split
  -- positional: zeros in front of the digits, or a point among them or behind them
  · split
    · simp [h, hzeros, hzero, hpoint]
    · rw [String.toList_ofList]
      split <;> simp [htake, hdrop, hzeros, hzero, hpoint]
  -- with an exponent: the mantissa, the letter, a sign and at least two digits
  · have hmantissa : Plain
        (if (d.digits.drop 1).isEmpty then
          if l.pointBeforeExponent then d.digits ++ ['.', '0'] else d.digits
        else d.digits.take 1 ++ '.' :: d.digits.drop 1) := by
      split
      · split <;> simp [h, hzero, hpoint]
      · exact plain_append.2 ⟨htake 1, Text.plain_cons.2 ⟨hpoint, hdrop 1⟩⟩
    have hexponent : Plain
        (if (digitsOf d.exponent.natAbs).length < 2 then '0' :: digitsOf d.exponent.natAbs
        else digitsOf d.exponent.natAbs) := by
      have hdigits := plain_digitsOf d.exponent.natAbs
      split <;> simp [hdigits, hzero]
    have hsign : IsPlain (if d.exponent < 0 then '-' else '+') := by split <;> decide
    have hletter : IsPlain 'e' := by decide
    rw [String.toList_ofList]
    exact plain_append.2
      ⟨hmantissa, Text.plain_cons.2 ⟨hletter, Text.plain_cons.2 ⟨hsign, hexponent⟩⟩⟩

theorem plain_toText (d : Double) : Plain d.toText.toList := by
  cases d with
  | nan => decide
  | infinite s => exact plain_signText s (by decide)
  | finite s n =>
    cases n with
    | zero => exact plain_signText s (by decide)
    | succ n => exact plain_signText s (plain_write _ (plain_shortest _))

end Double

/-! ## Documents -/

namespace Json

theorem plain_escapeUnit (n : Nat) : Plain (escapeUnit n) := by
  have hback : IsPlain '\\' := by decide
  have hletter : IsPlain 'u' := by decide
  simp [escapeUnit, hback, hletter, Text.plain_hex]

/-- A code point is escaped unless it is itself a character of ASCII that prints. -/
theorem plain_escape (n : Nat) : Plain (escape n) := by
  unfold escape
  iterate 7
    split
    · decide
  split
  · rename_i h
    have hself : ∀ m < 0x7F, 0x20 ≤ m → IsPlain (Char.ofNat m) := by decide
    simpa using hself n h.2 h.1
  split
  · exact plain_escapeUnit n
  · exact plain_append.2 ⟨plain_escapeUnit _, plain_escapeUnit _⟩

theorem plain_printText (codes : Codes) : Plain (printText codes) := by
  have hquote : IsPlain '"' := by decide
  simp [printText, hquote, Text.Plain.flatMap fun n _ => plain_escape n]

theorem plain_printDouble (d : Double) : Plain (printDouble d).toList := by
  unfold printDouble
  split
  · decide
  · exact Double.plain_signText _ (by decide)
  · exact d.plain_toText

/-- A style that writes characters of ASCII that print between items and behind names. -/
structure Style.IsPlain (st : Style) : Prop where
  item : Plain st.item.toList
  name : Plain st.name.toList

mutual

/-- Every document is printed as characters of ASCII that print. -/
theorem plain_print {st : Style} (hst : st.IsPlain) : ∀ j : Json, Plain (print st j)
  | null => by
    have hword : Plain "null".toList := by decide
    exact hword
  | bool true => by
    have hword : Plain "true".toList := by decide
    exact hword
  | bool false => by
    have hword : Plain "false".toList := by decide
    exact hword
  | int n => plain_int n
  | float d => plain_printDouble d
  | text codes => plain_printText codes
  | array items => by
    have hopen : Text.IsPlain '[' := by decide
    have hclose : Text.IsPlain ']' := by decide
    simp [print, hopen, hclose, plain_printItems hst items]
  | object members => by
    have hopen : Text.IsPlain '{' := by decide
    have hclose : Text.IsPlain '}' := by decide
    simp [print, hopen, hclose, plain_printMembers hst members]

theorem plain_printItems {st : Style} (hst : st.IsPlain) :
    ∀ items : List Json, Plain (printItems st items)
  | [] => Text.plain_nil
  | [v] => plain_print hst v
  | v :: w :: vs => by
    simp [printItems, plain_print hst v, hst.item, plain_printItems hst (w :: vs)]

theorem plain_printMembers {st : Style} (hst : st.IsPlain) :
    ∀ members : List (Codes × Json), Plain (printMembers st members)
  | [] => Text.plain_nil
  | [(k, v)] => by simp [printMembers, plain_printText, hst.name, plain_print hst v]
  | (k, v) :: m :: ms => by
    simp [printMembers, plain_printText, hst.name, plain_print hst v, hst.item,
      plain_printMembers hst (m :: ms)]

end

theorem spaced_isPlain : spaced.IsPlain := ⟨by decide, by decide⟩

theorem plain_toText {st : Style} (hst : st.IsPlain) (j : Json) : Plain (j.toText st).toList := by
  rw [toText, String.toList_ofList]
  exact plain_print hst j

end Json
end ConnectionCatalog
