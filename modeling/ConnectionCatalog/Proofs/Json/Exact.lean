import ConnectionCatalog.Proofs.Json.Printed
import ConnectionCatalog.Proofs.Number.Digits

/-! # Proofs.Json.Exact — documents that are read back as they were printed

A document is printed without loss if it has no doubles, no whole number with too many digits, no
half of a surrogate pair and no name twice in one object (`Exact`).  Such a document is read back
wherever it stands, by a reader that may open as many levels as the document has
(`Exact.readsBack`): there is one rule for each kind of document, and the induction over the
document puts them together.
-/

namespace ConnectionCatalog.Json

open Codes (ofChars)

/-! ## Levels -/

mutual

/-- The levels of arrays and objects that a document opens. -/
def levels : Json → Nat
  | array items => levelsOfItems items + 1
  | object members => levelsOfMembers members + 1
  | _ => 0

def levelsOfItems : List Json → Nat
  | [] => 0
  | v :: vs => max (levels v) (levelsOfItems vs)

def levelsOfMembers : List (Codes × Json) → Nat
  | [] => 0
  | (_, v) :: ms => max (levels v) (levelsOfMembers ms)

end

theorem levels_le_of_mem_items {v : Json} {items : List Json} (h : v ∈ items) :
    v.levels ≤ levelsOfItems items := by
  induction items with
  | nil => cases h
  | cons w items ih =>
    rw [levelsOfItems]
    rcases List.mem_cons.1 h with rfl | h
    · exact Nat.le_max_left _ _
    · exact Nat.le_trans (ih h) (Nat.le_max_right _ _)

theorem levels_le_of_mem_members {m : Codes × Json} {members : List (Codes × Json)}
    (h : m ∈ members) : m.2.levels ≤ levelsOfMembers members := by
  induction members with
  | nil => cases h
  | cons w members ih =>
    rw [levelsOfMembers]
    rcases List.mem_cons.1 h with rfl | h
    · exact Nat.le_max_left _ _
    · exact Nat.le_trans (ih h) (Nat.le_max_right _ _)

/-- A document that is printed without loss. -/
inductive Exact : Json → Prop
  | null : Exact null
  | bool (b : Bool) : Exact (bool b)
  | int {n : Int} (h : Spelled.isWritable n = true) : Exact (int n)
  | text {codes : Codes} (h : ∀ n ∈ codes, n.isValidChar) : Exact (text codes)
  | array {items : List Json} (h : ∀ v ∈ items, Exact v) : Exact (array items)
  | object {members : List (Codes × Json)} (hnames : ∀ m ∈ members, ∀ n ∈ m.1, n.isValidChar)
    (hdistinct : (members.map Prod.fst).Nodup) (h : ∀ m ∈ members, Exact m.2) :
    Exact (object members)

/-! ## Words -/

/-- A scalar is read as such wherever it stands, if it opens no array and no object. -/
theorem readValue_scalar {n : Nat} (harray : n ≠ 91) (hobject : n ≠ 123) (depth : Nat)
    (rest : Codes) : readValue depth (n :: rest) = readScalar (n :: rest) := by
  cases depth <;> simp [readValue, harray, hobject]

/-- For a scalar only the scalar reader matters. -/
theorem readsBack_scalar {st : Style} {j : Json} {c : Nat} {cs : Codes}
    (hprint : ofChars (print st j) = c :: cs) (hblank : isBlankCode c = false)
    (hopens : c ≠ 91 ∧ c ≠ 123)
    (hback : ∀ n rest, endsItem n = true → readScalar (c :: (cs ++ n :: rest)) = .ok (j, n :: rest))
    (depth : Nat) : ReadsBack (readValue depth) st j where
  starts rest := by
    rw [hprint]
    exact skipBlanks_of_not_blank hblank _
  back n rest hn := by
    rw [hprint, List.cons_append, readValue_scalar hopens.1 hopens.2, hback n rest hn]

theorem readsBack_null (st : Style) (depth : Nat) : ReadsBack (readValue depth) st .null :=
  have hword : ofChars (print st .null) = [110, 117, 108, 108] := by
    rw [print]
    decide
  readsBack_scalar hword (by decide) (by decide) (fun _ _ _ => rfl) depth

theorem readsBack_bool (st : Style) (depth : Nat) (b : Bool) :
    ReadsBack (readValue depth) st (.bool b) := by
  cases b with
  | true =>
    have hword : ofChars (print st (.bool true)) = [116, 114, 117, 101] := by
      rw [print]
      decide
    exact readsBack_scalar hword (by decide) (by decide) (fun _ _ _ => rfl) depth
  | false =>
    have hword : ofChars (print st (.bool false)) = [102, 97, 108, 115, 101] := by
      rw [print]
      decide
    exact readsBack_scalar hword (by decide) (by decide) (fun _ _ _ => rfl) depth

/-! ## Whole numbers -/

theorem isDigitCode_toNat {c : Char} (h : c.isDigit = true) : isDigitCode c.toNat = true := by
  obtain ⟨hlo, hhi⟩ := Char.isDigit_iff_toNat.1 h
  have hfirst : '0'.toNat = 48 := rfl
  have hlast : '9'.toNat = 57 := rfl
  simp only [isDigitCode, Bool.and_eq_true, decide_eq_true_eq]
  omega

theorem digitChars_ofChars (cs : List Char) : digitChars (ofChars cs) = cs := by
  induction cs with
  | nil => rfl
  | cons c cs ih =>
    rw [Codes.ofChars_cons, digitChars, List.map_cons, Char.ofNat_toNat]
    exact congrArg (c :: ·) ih

/-- No digit, point or exponent is what ends an item. -/
theorem endsItem_cases {n : Nat} (h : endsItem n = true) : n = 44 ∨ n = 93 ∨ n = 125 := by
  simpa [endsItem, or_assoc] using h

/-- Behind digits that an item ends with, no fraction and no exponent is found. -/
theorem readNumber_tail {n : Nat} (h : endsItem n = true) (rest : Codes) :
    readFraction (n :: rest) = (none, n :: rest) ∧ readExponent (n :: rest) = (none, n :: rest) := by
  rcases endsItem_cases h with rfl | rfl | rfl <;>
    exact ⟨by simp [readFraction], by simp [readExponent]⟩

theorem readNumber_digits (start : Codes) (negative : Bool) {m : Nat}
    (hm : (digitsOf m).length ≤ Spelled.maxDigits) {n : Nat} (hn : endsItem n = true)
    (rest : Codes) :
    readNumber start negative (ofChars (digitsOf m) ++ n :: rest) =
      .ok (.int (Double.signed negative m), n :: rest) := by
  obtain ⟨hfraction, hexponent⟩ := readNumber_tail hn rest
  have hnot : isDigitCode n = false := by
    rcases endsItem_cases hn with rfl | rfl | rfl <;> rfl
  have hlength : ¬Spelled.maxDigits < (ofChars (digitsOf m)).length := by
    rw [Codes.ofChars, List.length_map]
    omega
  unfold readNumber
  extract_lets integer?
  -- what the reader takes for the digits is all that stands in front of the end
  have hinteger : integer? = some (ofChars (digitsOf m), n :: rest) := by
    dsimp only [integer?]
    cases hdigits : digitsOf m with
    | nil => exact absurd hdigits (digitsOf_ne_nil m)
    | cons c cs =>
      have hall : ∀ d ∈ ofChars cs, isDigitCode d = true := by
        intro n hn
        obtain ⟨d, hd, rfl⟩ := List.mem_map.1 hn
        exact isDigitCode_toNat (isDigit_of_mem_digitsOf (hdigits ▸ List.mem_cons_of_mem c hd))
      have hc : isDigitCode c.toNat = true :=
        isDigitCode_toNat (isDigit_of_mem_digitsOf (hdigits ▸ List.mem_cons_self))
      rw [Codes.ofChars_cons, List.cons_append]
      split
      · -- a zero in front is the whole number
        rename_i hzero
        obtain ⟨hc0, rfl⟩ := List.cons.inj hzero
        have hchar : c = '0' := Char.toNat_inj.1 hc0
        obtain ⟨-, rfl⟩ := digitsOf_eq_zero_cons (hchar ▸ hdigits)
        simp [hc0]
      · rename_i hcons
        obtain ⟨rfl, rfl⟩ := List.cons.inj hcons
        rw [if_pos hc, List.takeWhile_append_of_pos hall, List.dropWhile_append_of_pos hall]
        simp [hnot]
      · rename_i hnil
        cases hnil
  rw [hinteger]
  simp only [hfraction, hexponent, Option.isNone_none, Bool.and_self, if_true, if_neg hlength,
    digitChars_ofChars, digitsValue_digitsOf]

/-- No word of the notation starts with a digit, and none with a minus sign in front of one. -/
theorem readWord?_digit {d : Nat} (h : isDigitCode d = true) (rest : Codes) :
    readWord? (d :: rest) = none ∧ readWord? (45 :: d :: rest) = none := by
  simp only [isDigitCode, Bool.and_eq_true, decide_eq_true_eq] at h
  have hn : 110 ≠ d := by omega
  have ht : 116 ≠ d := by omega
  have hf : 102 ≠ d := by omega
  have hN : 78 ≠ d := by omega
  have hI : 73 ≠ d := by omega
  have hminus : 45 ≠ d := by omega
  have hwords : words.map (fun w => Codes.ofString w.1) =
      [[110, 117, 108, 108], [116, 114, 117, 101], [102, 97, 108, 115, 101], [78, 97, 78],
        [73, 110, 102, 105, 110, 105, 116, 121], [45, 73, 110, 102, 105, 110, 105, 116, 121]] := by
    decide
  simp only [words, List.map_cons, List.map_nil, List.cons.injEq, and_true] at hwords
  obtain ⟨h1, h2, h3, h4, h5, h6⟩ := hwords
  constructor <;>
    simp [readWord?, words, h1, h2, h3, h4, h5, h6, afterWord?, hn, ht, hf, hN, hI, hminus]

/-- What starts with a digit, or with a minus sign in front of one, is read as a number. -/
theorem readScalar_digit {d : Nat} (h : isDigitCode d = true) (rest : Codes) :
    readScalar (d :: rest) = readNumber (d :: rest) false (d :: rest) ∧
      readScalar (45 :: d :: rest) = readNumber (45 :: d :: rest) true (d :: rest) := by
  obtain ⟨hword, hminusWord⟩ := readWord?_digit h rest
  have hrange : 48 ≤ d ∧ d ≤ 57 := by simpa [isDigitCode] using h
  constructor
  -- a digit is no quote, starts no word and is no minus sign
  · unfold readScalar
    split
    · rename_i hquote
      have heq : d = 34 := (List.cons.inj hquote).1
      omega
    · rw [hword]
      dsimp only
      split
      · rename_i hminus
        have heq : d = 45 := (List.cons.inj hminus).1
        omega
      · rfl
  · simp only [readScalar, hminusWord]

theorem readsBack_int (st : Style) (depth : Nat) {n : Int} (hn : Spelled.isWritable n = true) :
    ReadsBack (readValue depth) st (.int n) := by
  have hlength : (digitsOf n.natAbs).length ≤ Spelled.maxDigits := by
    simpa [Spelled.isWritable] using hn
  obtain ⟨c, cs, hdigits⟩ := List.exists_cons_of_ne_nil (digitsOf_ne_nil n.natAbs)
  have hc : isDigitCode c.toNat = true :=
    isDigitCode_toNat (isDigit_of_mem_digitsOf (hdigits ▸ List.mem_cons_self))
  have hrange : 48 ≤ c.toNat ∧ c.toNat ≤ 57 := by simpa [isDigitCode] using hc
  have hcodes : ofChars (digitsOf n.natAbs) = c.toNat :: ofChars cs := by
    rw [hdigits, Codes.ofChars_cons]
  have hnumber := fun start negative k (hk : endsItem k = true) rest =>
    readNumber_digits start negative hlength hk rest
  simp only [hcodes, List.cons_append] at hnumber
  -- a minus sign is read in front of the digits, and else the digits alone
  by_cases hneg : n < 0
  · have hprint : ofChars (print st (.int n)) = 45 :: c.toNat :: ofChars cs := by
      rw [print, toList_toString_int, if_pos hneg, ← hcodes]
      rfl
    have hsigned : Double.signed true n.natAbs = n := by
      simp only [Double.signed, if_true]
      omega
    refine readsBack_scalar hprint (by decide) (by decide) (fun k rest hk => ?_) depth
    rw [List.cons_append, (readScalar_digit hc _).2, hnumber _ _ _ hk, hsigned]
  · have hprint : ofChars (print st (.int n)) = c.toNat :: ofChars cs := by
      rw [print, toList_toString_int, if_neg hneg, ← hcodes]
      rfl
    have hsigned : Double.signed false n.natAbs = n := by
      simp only [Double.signed, Bool.false_eq_true, if_false]
      omega
    have hblank : isBlankCode c.toNat = false := by
      simp only [isBlankCode, Bool.or_eq_false_iff, beq_eq_false_iff_ne]
      omega
    refine readsBack_scalar hprint hblank (by omega) (fun k rest hk => ?_) depth
    rw [(readScalar_digit hc _).1, hnumber _ _ _ hk, hsigned]

/-! ## Arrays -/

section Items

variable {read : Codes → Reading Json} {st : Style}

theorem ofChars_printItems (st : Style) (v : Json) (vs : List Json) :
    ∃ more, ofChars (printItems st (v :: vs)) = ofChars (print st v) ++ more := by
  cases vs with
  | nil => exact ⟨[], by rw [printItems, List.append_nil]⟩
  | cons w vs =>
    exact ⟨ofChars st.item.toList ++ ofChars (printItems st (w :: vs)), by simp [printItems]⟩

/-- Printed items are read back up to the closing bracket. -/
theorem readItems_printed (hst : st.Separates) {items : List Json} (hne : items ≠ [])
    (hv : ∀ v ∈ items, ReadsBack read st v) (rest : Codes) {steps : Nat}
    (hsteps : items.length ≤ steps) :
    readItems read steps (ofChars (printItems st items) ++ 93 :: rest) = .ok (items, rest) := by
  induction items generalizing steps with
  | nil => exact absurd rfl hne
  | cons v items ih =>
    have hv0 : ReadsBack read st v := hv v List.mem_cons_self
    obtain ⟨steps, rfl⟩ : ∃ s, steps = s + 1 := ⟨steps - 1, by simp at hsteps; omega⟩
    -- the last item is followed by the closing bracket, any other one by a comma
    cases items with
    | nil =>
      have hend : skipBlanks (93 :: rest) = 93 :: rest := skipBlanks_of_not_blank rfl rest
      rw [printItems, readItems, hv0.back 93 rest rfl]
      simp only [hend]
    | cons w items =>
      obtain ⟨bs, hcomma, hbs⟩ := hst.item
      have hlength : (w :: items).length ≤ steps := by simpa using hsteps
      have ih := ih (List.cons_ne_nil _ _) (fun x hx => hv x (List.mem_cons_of_mem _ hx)) hlength
      have hw : ReadsBack read st w := hv w (List.mem_cons_of_mem _ List.mem_cons_self)
      obtain ⟨more, hmore⟩ := ofChars_printItems st w items
      have hnext : skipBlanks (ofChars (printItems st (w :: items)) ++ 93 :: rest) =
          ofChars (printItems st (w :: items)) ++ 93 :: rest := by
        rw [hmore, List.append_assoc]
        exact hw.starts _
      have hall : ofChars (printItems st (v :: w :: items)) ++ 93 :: rest =
          ofChars (print st v) ++
            44 :: (bs ++ (ofChars (printItems st (w :: items)) ++ 93 :: rest)) := by
        simp [printItems, hcomma]
      rw [hall, readItems, hv0.back 44 _ rfl]
      simp only [skipBlanks_of_not_blank (n := 44) rfl, skipBlanks_append_of_blank hbs, hnext, ih]

/-- Every item but the first has a separator in front. -/
theorem length_le_length_printItems (hst : st.Separates) (items : List Json) :
    items.length ≤ (ofChars (printItems st items)).length + 1 := by
  obtain ⟨bs, hcomma, -⟩ := hst.item
  induction items with
  | nil => simp
  | cons v items ih =>
    cases items with
    | nil => simp
    | cons w items =>
      simp only [printItems, Codes.ofChars_append, List.length_append, hcomma,
        List.length_cons] at ih ⊢
      omega

end Items

/-- A closing bracket is no value. -/
theorem readValue_bracket (depth : Nat) (rest : Codes) :
    ∃ p, readValue depth (93 :: rest) = .error p := by
  rw [readValue_scalar (by decide) (by decide)]
  exact ⟨_, rfl⟩

/-- An array is read back where its items can be read one level further down. -/
theorem readValue_array {st : Style} (hst : st.Separates) {depth : Nat} {items : List Json}
    (hv : ∀ v ∈ items, ReadsBack (readValue depth) st v) (rest : Codes) :
    readValue (depth + 1) (ofChars (print st (.array items)) ++ rest) = .ok (.array items, rest) := by
  have hprint : ofChars (print st (.array items)) ++ rest =
      91 :: (ofChars (printItems st items) ++ 93 :: rest) := by
    simp [print]
  rw [hprint, readValue, readArray.eq_def]
  cases items with
  | nil => simp [printItems, skipBlanks_of_not_blank (n := 93) rfl]
  | cons v items =>
    have hv0 : ReadsBack (readValue depth) st v := hv v List.mem_cons_self
    obtain ⟨more, hmore⟩ := ofChars_printItems st v items
    have hstarts : skipBlanks (ofChars (printItems st (v :: items)) ++ 93 :: rest) =
        ofChars (printItems st (v :: items)) ++ 93 :: rest := by
      rw [hmore, List.append_assoc]
      exact hv0.starts _
    have hsteps : (v :: items).length ≤
        (ofChars (printItems st (v :: items)) ++ 93 :: rest).length + 1 := by
      have hlength := length_le_length_printItems hst (v :: items)
      rw [List.length_append]
      omega
    have hback := readItems_printed hst (List.cons_ne_nil v items) hv rest hsteps
    rw [hstarts]
    split
    · -- a value that is read back does not start with the closing bracket
      rename_i hbracket
      cases hcodes : ofChars (print st v) with
      | nil =>
        have hread := hv0.back 93 [] rfl
        obtain ⟨p, hp⟩ := readValue_bracket depth []
        rw [hcodes, List.nil_append, hp] at hread
        cases hread
      | cons c cs =>
        rw [hmore, hcodes, List.cons_append, List.cons_append] at hbracket
        have hread := hv0.back 93 [] rfl
        obtain ⟨p, hp⟩ := readValue_bracket depth (cs ++ [93])
        rw [hcodes, (List.cons.inj hbracket).1, List.cons_append, hp] at hread
        cases hread
    · rw [hback]

/-! ## Documents -/

theorem readsBack_array {st : Style} (hst : st.Separates) {depth : Nat} {items : List Json}
    (hv : ∀ v ∈ items, ReadsBack (readValue depth) st v) :
    ReadsBack (readValue (depth + 1)) st (.array items) where
  starts _ := skipBlanks_of_not_blank (n := 91) (by decide) _
  back n rest _ := readValue_array hst hv (n :: rest)

theorem readsBack_object {st : Style} (hst : st.Separates) {depth : Nat}
    {members : List (Codes × Json)} (hk : ∀ m ∈ members, ∀ n ∈ m.1, n.isValidChar)
    (hv : ∀ m ∈ members, ReadsBack (readValue depth) st m.2)
    (hdistinct : members.Pairwise fun a b => a.1 ≠ b.1) :
    ReadsBack (readValue (depth + 1)) st (.object members) where
  starts _ := skipBlanks_of_not_blank (n := 123) (by decide) _
  back n rest _ := readValue_object hst hk hv hdistinct (n :: rest)

/-- A document that is printed without loss is read back by a reader that may open as many levels
as it has. -/
theorem Exact.readsBack {st : Style} (hst : st.Separates) {j : Json} (h : j.Exact) {depth : Nat}
    (hdepth : j.levels ≤ depth) : ReadsBack (readValue depth) st j := by
  induction h generalizing depth with
  | null => exact readsBack_null st depth
  | bool b => exact readsBack_bool st depth b
  | int hn => exact readsBack_int st depth hn
  | text hcodes => exact readsBack_text st depth hcodes
  -- a list or an object takes one level, which leaves enough for its parts
  | @array items _ ih =>
    rw [levels] at hdepth
    obtain ⟨depth, rfl⟩ : ∃ d, depth = d + 1 := ⟨depth - 1, by omega⟩
    refine readsBack_array hst fun v hv => ih v hv ?_
    have hlevels := levels_le_of_mem_items hv
    omega
  | @object members hnames hdistinct _ ih =>
    rw [levels] at hdepth
    obtain ⟨depth, rfl⟩ : ∃ d, depth = d + 1 := ⟨depth - 1, by omega⟩
    refine readsBack_object hst hnames (fun m hm => ih m hm ?_) (List.pairwise_map.1 hdistinct)
    have hlevels := levels_le_of_mem_members hm
    omega

section Object

variable {st : Style} {members : List (Codes × Json)}

end Object

end ConnectionCatalog.Json
