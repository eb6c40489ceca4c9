import ConnectionCatalog.Json.Printer
import ConnectionCatalog.Json.Reader

/-! # Proofs.Json.Printed — what is printed is read back

A text is read back code point by code point: each `readText_*` rule below is one step of
the reader, stated with an arbitrary rest, and `readText_printed` is the induction over the
text.

Members are read back by any reader that reads their values back (`ReadsBack`), so the rule
for objects, `readMembers_printed`, does not ask how deep the values are.
-/

namespace ConnectionCatalog

/-- The code points of some characters. -/
def Codes.ofChars (cs : List Char) : Codes := cs.map Char.toNat

namespace Codes

@[simp] theorem ofChars_nil : ofChars [] = [] := rfl

@[simp] theorem ofChars_cons (c : Char) (cs : List Char) :
    ofChars (c :: cs) = c.toNat :: ofChars cs := rfl

@[simp] theorem ofChars_append (cs ds : List Char) :
    ofChars (cs ++ ds) = ofChars cs ++ ofChars ds := List.map_append

theorem ofString_ofList (cs : List Char) : ofString (String.ofList cs) = ofChars cs := by
  simp [ofString, ofChars]

/-- The code points of a text are those of characters. -/
theorem isValidChar_of_mem_ofString {s : String} {n : Nat} (h : n ∈ ofString s) :
    n.isValidChar := by
  obtain ⟨c, -, rfl⟩ := List.mem_map.1 h
  exact c.valid

theorem exists_cons_append (cs : Codes) (n : Nat) (rest : Codes) :
    ∃ x more, cs ++ n :: rest = x :: more := by
  cases cs with
  | nil => exact ⟨n, rest, rfl⟩
  | cons c cs => exact ⟨c, cs ++ n :: rest, rfl⟩

end Codes

namespace Json

open Codes (ofChars)

/-! ## Escapes -/

theorem hexValue?_hexDigit : ∀ d < 16, hexValue? (Text.hexDigit d).toNat = some d := by decide

/-- Four hexadecimal digits are read back as the code unit that they spell. -/
theorem hexFour?_hex {n : Nat} (h : n < 0x10000) :
    hexFour? (Text.hexDigit (n / 16 / 16 / 16 % 16)).toNat
      (Text.hexDigit (n / 16 / 16 % 16)).toNat (Text.hexDigit (n / 16 % 16)).toNat
      (Text.hexDigit (n % 16)).toNat = some n := by
  have h3 := hexValue?_hexDigit (n / 16 / 16 / 16 % 16) (by omega)
  have h2 := hexValue?_hexDigit (n / 16 / 16 % 16) (by omega)
  have h1 := hexValue?_hexDigit (n / 16 % 16) (by omega)
  have h0 := hexValue?_hexDigit (n % 16) (by omega)
  have hn : ((n / 16 / 16 / 16 % 16 * 16 + n / 16 / 16 % 16) * 16 + n / 16 % 16) * 16 + n % 16 =
      n := by omega
  simp only [hexFour?, h3, h2, h1, h0, hn]

theorem ofChars_escapeUnit (n : Nat) : ofChars (escapeUnit n) =
    [92, 117, (Text.hexDigit (n / 16 / 16 / 16 % 16)).toNat,
      (Text.hexDigit (n / 16 / 16 % 16)).toNat, (Text.hexDigit (n / 16 % 16)).toNat,
      (Text.hexDigit (n % 16)).toNat] := by
  simp [escapeUnit, Text.hex]

theorem toNat_ofNat_ascii : ∀ n < 0x7F, (Char.ofNat n).toNat = n := by decide

/-! ## Single steps of the reader -/

theorem readText_quote (start rest : Codes) : readText start (34 :: rest) = .ok ([], rest) := by
  simp [readText]

theorem readText_plain (start : Codes) {n : Nat} (hq : n ≠ 34) (hb : n ≠ 92) (hc : 32 ≤ n)
    (rest : Codes) : readText start (n :: rest) = (readText start rest).push n := by
  have hlow : ¬n < 32 := by omega
  rw [readText]
  · rw [if_neg hlow]
  · exact hq
  all_goals
    intros
    exact hb (by assumption)

theorem readText_simple (start : Codes) {c n : Nat} (h : simpleEscape? c = some n) (rest : Codes) :
    readText start (92 :: c :: rest) = (readText start rest).push n := by
  have hu : c ≠ 117 := by
    rintro rfl
    simp [simpleEscape?] at h
  rw [readText]
  · simp only [h]
  all_goals
    intros
    exact hu (by assumption)

/-- A code unit that opens no surrogate pair stands for itself, whatever follows it. -/
theorem readText_unit (start : Codes) {a b c d n : Nat} (h : hexFour? a b c d = some n)
    (hs : Codes.isHighSurrogate n = false) (x : Nat) (rest : Codes) :
    readText start (92 :: 117 :: a :: b :: c :: d :: x :: rest) =
      (readText start (x :: rest)).push n := by
  -- the reader looks ahead for a second escape first; it then finds no high surrogate
  by_cases hpair : ∃ e f g k y tail, x = 92 ∧ rest = 117 :: e :: f :: g :: k :: y :: tail
  · obtain ⟨e, f, g, k, y, tail, rfl, rfl⟩ := hpair
    rw [readText]
    simp [h, hs]
  · rw [readText]
    · simp only [h]
    · intro e f g k y tail hx hrest
      exact hpair ⟨e, f, g, k, y, tail, hx, hrest⟩

theorem readText_pair (start : Codes) {a b c d e f g k high low : Nat}
    (hh : hexFour? a b c d = some high) (hl : hexFour? e f g k = some low)
    (hhs : Codes.isHighSurrogate high = true) (hls : Codes.isLowSurrogate low = true)
    (x : Nat) (rest : Codes) :
    readText start
        (92 :: 117 :: a :: b :: c :: d :: 92 :: 117 :: e :: f :: g :: k :: x :: rest) =
      (readText start (x :: rest)).push (Codes.joinSurrogates high low) := by
  rw [readText]
  simp only [hh, hhs, if_true, hl, hls]

/-- A code point beyond U+FFFF is read back from its two code units. -/
theorem readText_surrogates (start : Codes) {n : Nat} (hlo : 0x10000 ≤ n) (hhi : n < 0x110000)
    (x : Nat) (rest : Codes) :
    readText start (ofChars (escapeUnit (0xD800 + (n - 0x10000) / 0x400) ++
        escapeUnit (0xDC00 + (n - 0x10000) % 0x400)) ++ x :: rest) =
      (readText start (x :: rest)).push n := by
  have hhigh : Codes.isHighSurrogate (0xD800 + (n - 0x10000) / 0x400) = true := by
    simp only [Codes.isHighSurrogate, Bool.and_eq_true, decide_eq_true_eq]
    omega
  have hlow : Codes.isLowSurrogate (0xDC00 + (n - 0x10000) % 0x400) = true := by
    simp only [Codes.isLowSurrogate, Bool.and_eq_true, decide_eq_true_eq]
    omega
  have hjoin : Codes.joinSurrogates (0xD800 + (n - 0x10000) / 0x400)
      (0xDC00 + (n - 0x10000) % 0x400) = n := by
    unfold Codes.joinSurrogates
    omega
  have h := readText_pair start (hexFour?_hex (n := 0xD800 + (n - 0x10000) / 0x400) (by omega))
    (hexFour?_hex (n := 0xDC00 + (n - 0x10000) % 0x400) (by omega)) hhigh hlow x rest
  rw [hjoin] at h
  rw [Codes.ofChars_append, ofChars_escapeUnit, ofChars_escapeUnit]
  exact h

/-! ## Texts -/

/-- The code points that are printed as one letter behind a backslash. -/
def shortEscaped : List Nat := [0x22, 0x5C, 0x0A, 0x0D, 0x09, 0x08, 0x0C]

theorem escape_of_short :
    ∀ n ∈ shortEscaped, ∃ c, escape n = ['\\', c] ∧ simpleEscape? c.toNat = some n := by
  simp only [shortEscaped, List.forall_mem_cons]
  refine ⟨⟨'"', rfl, rfl⟩, ⟨'\\', rfl, rfl⟩, ⟨'n', rfl, rfl⟩, ⟨'r', rfl, rfl⟩, ⟨'t', rfl, rfl⟩,
    ⟨'b', rfl, rfl⟩, ⟨'f', rfl, rfl⟩, ?_⟩
  intro n hn
  cases hn

theorem escape_of_not_short {n : Nat} (h : n ∉ shortEscaped) :
    escape n =
      if 0x20 ≤ n ∧ n < 0x7F then [Char.ofNat n]
      else if n < 0x10000 then escapeUnit n
      else
        escapeUnit (0xD800 + (n - 0x10000) / 0x400) ++
          escapeUnit (0xDC00 + (n - 0x10000) % 0x400) := by
  simp only [shortEscaped, List.mem_cons, List.not_mem_nil, or_false, not_or] at h
  simp only [escape, h, if_false]

/-- A printed code point is read back; something has to follow it, as the closing quote of
its text does. -/
theorem readText_escape (start : Codes) {n : Nat} (hn : n.isValidChar) (x : Nat) (rest : Codes) :
    readText start (ofChars (escape n) ++ x :: rest) = (readText start (x :: rest)).push n := by
  by_cases hshort : n ∈ shortEscaped
  · obtain ⟨c, hescape, hsimple⟩ := escape_of_short n hshort
    rw [hescape]
    exact readText_simple start hsimple _
  rw [escape_of_not_short hshort]
  split
  · -- printable ASCII stands for itself
    rename_i h
    have hquote : n ≠ 34 := by
      rintro rfl
      exact hshort (by decide)
    have hback : n ≠ 92 := by
      rintro rfl
      exact hshort (by decide)
    rw [Codes.ofChars_cons, toNat_ofNat_ascii n h.2]
    exact readText_plain start hquote hback h.1 _
  split
  · -- a character is no surrogate, so its one code unit opens no pair
    rename_i h
    have hs : Codes.isHighSurrogate n = false := by
      rcases hn with hn | hn <;>
        simp only [Codes.isHighSurrogate, Bool.and_eq_false_iff, decide_eq_false_iff_not] <;> omega
    rw [ofChars_escapeUnit]
    exact readText_unit start (hexFour?_hex h) hs x rest
  · rename_i h
    have hhi : n < 0x110000 := by rcases hn with hn | hn <;> omega
    exact readText_surrogates start (by omega) hhi x rest

/-- A printed text is read back up to its closing quote. -/
theorem readText_printed (start : Codes) {cs : Codes} (h : ∀ n ∈ cs, n.isValidChar) (rest : Codes) :
    readText start (ofChars (cs.flatMap escape) ++ 34 :: rest) = .ok (cs, rest) := by
  induction cs with
  | nil => exact readText_quote start rest
  | cons n cs ih =>
    have hn : n.isValidChar := h n List.mem_cons_self
    have ih := ih fun m hm => h m (List.mem_cons_of_mem _ hm)
    -- behind the first code point there is still something, at least the closing quote
    obtain ⟨x, more, hmore⟩ := Codes.exists_cons_append (ofChars (cs.flatMap escape)) 34 rest
    rw [List.flatMap_cons, Codes.ofChars_append, List.append_assoc, hmore,
      readText_escape start hn, ← hmore, ih]
    rfl

/-- A printed text stands between quotes. -/
theorem ofChars_printText (cs : Codes) (rest : Codes) :
    ofChars (printText cs) ++ rest = 34 :: (ofChars (cs.flatMap escape) ++ 34 :: rest) := by
  simp [printText]

theorem skipBlanks_of_not_blank {n : Nat} (h : isBlankCode n = false) (cs : Codes) :
    skipBlanks (n :: cs) = n :: cs := by
  simp [skipBlanks, h]

theorem skipBlanks_append_of_blank {bs : Codes} (h : ∀ b ∈ bs, isBlankCode b = true) (cs : Codes) :
    skipBlanks (bs ++ cs) = skipBlanks cs := by
  simpa [skipBlanks] using List.dropWhile_append_of_pos h

/-! ## Members -/

/-- A style whose separators are a comma and a colon, followed by blanks at most. -/
structure Style.Separates (st : Style) : Prop where
  item : ∃ bs, ofChars st.item.toList = 44 :: bs ∧ ∀ b ∈ bs, isBlankCode b = true
  name : ∃ bs, ofChars st.name.toList = 58 :: bs ∧ ∀ b ∈ bs, isBlankCode b = true

theorem spaced_separates : spaced.Separates := ⟨⟨[32], by decide⟩, ⟨[32], by decide⟩⟩

/-- What ends a member of an object or an item of an array: a comma or a closing bracket. -/
def endsItem (n : Nat) : Bool := n == 44 || n == 93 || n == 125

/-- A reader gives a printed value back. -/
structure ReadsBack (read : Codes → Reading Json) (st : Style) (v : Json) : Prop where
  /-- The value starts with no blank. -/
  starts : ∀ rest, skipBlanks (ofChars (print st v) ++ rest) = ofChars (print st v) ++ rest
  back : ∀ n rest, endsItem n = true →
    read (ofChars (print st v) ++ n :: rest) = .ok (v, n :: rest)

/-- A text is read back wherever it stands. -/
theorem readsBack_text (st : Style) (depth : Nat) {cs : Codes} (h : ∀ n ∈ cs, n.isValidChar) :
    ReadsBack (readValue depth) st (.text cs) where
  starts rest := by
    rw [print, ofChars_printText]
    exact skipBlanks_of_not_blank (by decide) _
  back n rest _ := by
    have hscalar : readScalar (34 :: (ofChars (cs.flatMap escape) ++ 34 :: n :: rest)) =
        .ok (.text cs, n :: rest) := by
      simp only [readScalar, readText_printed _ h]
    rw [print, ofChars_printText]
    cases depth with
    | zero => simpa [readValue] using hscalar
    | succ depth => simpa [readValue] using hscalar

section Members

variable {read : Codes → Reading Json} {st : Style}

/-- A printed member is read back. -/
theorem readMember_printed (hst : st.Separates) {k : Codes} {v : Json}
    (hk : ∀ n ∈ k, n.isValidChar) (hv : ReadsBack read st v) {n : Nat} (hn : endsItem n = true)
    (rest : Codes) :
    readMember read (ofChars (printText k ++ st.name.toList ++ print st v) ++ n :: rest) =
      .ok ((k, v), n :: rest) := by
  obtain ⟨bs, hcolon, hbs⟩ := hst.name
  have hname : skipBlanks (58 :: (bs ++ (ofChars (print st v) ++ n :: rest))) =
      58 :: (bs ++ (ofChars (print st v) ++ n :: rest)) := skipBlanks_of_not_blank (by decide) _
  have hvalue : skipBlanks (bs ++ (ofChars (print st v) ++ n :: rest)) =
      ofChars (print st v) ++ n :: rest := by
    rw [skipBlanks_append_of_blank hbs, hv.starts]
  simp only [Codes.ofChars_append, List.append_assoc, ofChars_printText, readMember,
    readText_printed _ hk, hcolon, List.cons_append, hname, hvalue, hv.back n rest hn]

/-- Members start with the quote of the first name. -/
theorem ofChars_printMembers (st : Style) {ms : List (Codes × Json)} (hne : ms ≠ []) :
    ∃ more, ofChars (printMembers st ms) = 34 :: more := by
  match ms, hne with
  | [(k, v)], _ => exact ⟨_, rfl⟩
  | (k, v) :: m :: ms, _ => exact ⟨_, rfl⟩

theorem ofChars_printMembers_cons (st : Style) (k : Codes) (v : Json) (m : Codes × Json)
    (ms : List (Codes × Json)) :
    ofChars (printMembers st ((k, v) :: m :: ms)) =
      ofChars (printText k ++ st.name.toList ++ print st v) ++
        (ofChars st.item.toList ++ ofChars (printMembers st (m :: ms))) := by
  simp [printMembers]

/-- Printed members are read back up to the closing brace. -/
theorem readMembers_printed (hst : st.Separates) {ms : List (Codes × Json)} (hne : ms ≠ [])
    (hk : ∀ m ∈ ms, ∀ n ∈ m.1, n.isValidChar) (hv : ∀ m ∈ ms, ReadsBack read st m.2)
    (rest : Codes) {steps : Nat} (hsteps : ms.length ≤ steps) :
    readMembers read steps (ofChars (printMembers st ms) ++ 125 :: rest) = .ok (ms, rest) := by
  induction ms generalizing steps with
  | nil => exact absurd rfl hne
  | cons m ms ih =>
    obtain ⟨k, v⟩ := m
    have hk0 : ∀ n ∈ k, n.isValidChar := hk (k, v) List.mem_cons_self
    have hv0 : ReadsBack read st v := hv (k, v) List.mem_cons_self
    obtain ⟨steps, rfl⟩ : ∃ s, steps = s + 1 := ⟨steps - 1, by simp at hsteps; omega⟩
    -- the last member is followed by the closing brace, any other one by a comma
    cases ms with
    | nil =>
      have hmember := readMember_printed hst hk0 hv0 (n := 125) rfl rest
      have hend : skipBlanks (125 :: rest) = 125 :: rest := skipBlanks_of_not_blank rfl rest
      rw [printMembers, readMembers, hmember]
      simp only [hend]
    | cons m' ms =>
      obtain ⟨bs, hcomma, hbs⟩ := hst.item
      have hlength : (m' :: ms).length ≤ steps := by simpa using hsteps
      have ih := ih (List.cons_ne_nil _ _) (fun x hx => hk x (List.mem_cons_of_mem _ hx))
        (fun x hx => hv x (List.mem_cons_of_mem _ hx)) hlength
      obtain ⟨more, hmore⟩ := ofChars_printMembers st (List.cons_ne_nil m' ms)
      -- the reader goes on only where it sees the quote of the next name
      rw [hmore, List.cons_append] at ih
      have hall : ofChars (printMembers st ((k, v) :: m' :: ms)) ++ 125 :: rest =
          ofChars (printText k ++ st.name.toList ++ print st v) ++
            44 :: (bs ++ 34 :: (more ++ 125 :: rest)) := by
        rw [ofChars_printMembers_cons, hcomma, hmore]
        simp only [List.append_assoc, List.cons_append]
      rw [hall, readMembers, readMember_printed hst hk0 hv0 (n := 44) rfl]
      simp only [skipBlanks_of_not_blank (n := 44) rfl, skipBlanks_append_of_blank hbs,
        skipBlanks_of_not_blank (n := 34) rfl, ih]

/-- Every member takes a character at least. -/
theorem length_le_length_printMembers (st : Style) (ms : List (Codes × Json)) :
    ms.length ≤ (ofChars (printMembers st ms)).length := by
  induction ms with
  | nil => simp
  | cons m ms ih =>
    obtain ⟨k, v⟩ := m
    cases ms with
    | nil => simp [printMembers, printText]
    | cons m' ms =>
      rw [ofChars_printMembers_cons]
      simp [printText] at ih ⊢
      omega

end Members

/-! ## Documents -/

/-- Members with different names stay as they are written. -/
theorem putMember_of_new {ms : List (Codes × Json)} {k : Codes} (h : ∀ m ∈ ms, m.1 ≠ k) (v : Json) :
    putMember k v ms = ms ++ [(k, v)] := by
  induction ms with
  | nil => rfl
  | cons m ms ih =>
    have hm : m.1 ≠ k := h m List.mem_cons_self
    have hms := ih fun x hx => h x (List.mem_cons_of_mem _ hx)
    simp [putMember, hm, hms]

theorem foldl_putMember {ms : List (Codes × Json)} (seen : List (Codes × Json))
    (h : (seen ++ ms).Pairwise fun a b => a.1 ≠ b.1) :
    ms.foldl (fun ms m => putMember m.1 m.2 ms) seen = seen ++ ms := by
  induction ms generalizing seen with
  | nil => simp
  | cons m ms ih =>
    have hnew : ∀ x ∈ seen, x.1 ≠ m.1 := fun x hx =>
      (List.pairwise_append.1 h).2.2 x hx m List.mem_cons_self
    rw [List.foldl_cons, putMember_of_new hnew, ih (seen ++ [m]) (by simpa using h)]
    simp

theorem ofMembers_of_distinct {ms : List (Codes × Json)}
    (h : ms.Pairwise fun a b => a.1 ≠ b.1) : ofMembers ms = .object ms := by
  rw [ofMembers, foldl_putMember [] (by simpa using h), List.nil_append]

/-- An object is read back where its members have different names and values that can be
read one level further down. -/
theorem readValue_object {st : Style} (hst : st.Separates) {depth : Nat} {ms : List (Codes × Json)}
    (hk : ∀ m ∈ ms, ∀ n ∈ m.1, n.isValidChar)
    (hv : ∀ m ∈ ms, ReadsBack (readValue depth) st m.2)
    (hdistinct : ms.Pairwise fun a b => a.1 ≠ b.1) (rest : Codes) :
    readValue (depth + 1) (ofChars (print st (.object ms)) ++ rest) = .ok (.object ms, rest) := by
  have hprint : ofChars (print st (.object ms)) ++ rest =
      123 :: (ofChars (printMembers st ms) ++ 125 :: rest) := by
    simp [print]
  rw [hprint, readValue, readObject.eq_def]
  by_cases hne : ms = []
  · subst hne
    simp [printMembers, skipBlanks_of_not_blank (n := 125) rfl]
  · obtain ⟨more, hmore⟩ := ofChars_printMembers st hne
    -- the reader may take as many steps as there are code points
    have hsteps : ms.length ≤ (ofChars (printMembers st ms) ++ 125 :: rest).length + 1 := by
      have hlength := length_le_length_printMembers st ms
      rw [List.length_append]
      omega
    have hback := readMembers_printed hst hne hk hv rest hsteps
    rw [hmore, List.cons_append] at hback ⊢
    simp only [skipBlanks_of_not_blank (n := 34) rfl, hback, ofMembers_of_distinct hdistinct]

/-- The document of an object is read back, names in the order in which they were written, where
its values can be read one level further down. -/
theorem readString_object {st : Style} (hst : st.Separates) {ms : List (Codes × Json)}
    {depth : Nat} (hk : ∀ m ∈ ms, ∀ n ∈ m.1, n.isValidChar)
    (hv : ∀ m ∈ ms, ReadsBack (readValue depth) st m.2)
    (hdistinct : ms.Pairwise fun a b => a.1 ≠ b.1) :
    readString (depth + 1) ((object ms).toText st) = .ok (.object ms) := by
  obtain ⟨more, hmore⟩ : ∃ more, ofChars (print st (.object ms)) = 123 :: more := ⟨_, rfl⟩
  have hback := readValue_object hst hk hv hdistinct []
  rw [List.append_nil, hmore] at hback
  have hstart : skipBlanks (123 :: more) = 123 :: more := skipBlanks_of_not_blank rfl _
  have hall : readAll (depth + 1) (123 :: more) = .ok (.object ms) := by
    rw [readAll, hstart, hback]
    rfl
  have hread : read (depth + 1) (123 :: more) = .ok (.object ms) := by rw [read, hall]
  rw [readString, toText, Codes.ofString_ofList, hmore]
  -- the document starts with a brace, so with no byte order mark
  exact hread

end Json
end ConnectionCatalog
