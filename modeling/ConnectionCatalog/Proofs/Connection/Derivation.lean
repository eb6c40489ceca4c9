import ConnectionCatalog.Connection.Id
import ConnectionCatalog.Proofs.Text.Trimming
import ConnectionCatalog.Text.LowerCase

/-! # Proofs.Connection.Derivation — the laws of derived ids

A name is trimmed, lowered and spelled in the id alphabet.  Lower case is that of all scripts, in
which a letter may become two or become an ASCII letter, and a sigma depends on where it stands.
But what a letter outside ASCII becomes is no character of an id, apart from the dotted capital I
and the Kelvin sign.  So `Text.lower`, which knows these two, derives the same ids, and the rest is
about blanks: those around a name are dropped, and each one inside it becomes an underscore.

* `Text.idChars_lowerBy`: where ids are concerned, lower case is `Text.lower`.
* `Text.idChars_lower_blanks`: what the blanks become that trimming leaves.
* `connectionId_laws`: the laws of derived ids.
-/

namespace ConnectionCatalog
namespace Text

/-! ## Lower case of all scripts -/

/-- Lower case of a text of all scripts.  A capital sigma has a form of its own at the end of a
word; `final` decides by what stands before it, last character first, and by what stands after
it. -/
def lowerBy (final : List Char → List Char → Bool) : (before : List Char) → List Char → List Char
  | _, [] => []
  | before, c :: cs =>
    (if c = '\u03A3' then [if final before cs then '\u03C2' else '\u03C3'] else lowerLetter c) ++
      lowerBy final (c :: before) cs

/-- What is outside ASCII is not in the id alphabet. -/
theorem idChar_of_not_ascii {c : Char} (h : 128 ≤ c.toNat) : idChar c = '_' := by
  have hnot : isIdChar c = false := by
    cases hc : isIdChar c with
    | false => rfl
    | true =>
      have hrange := toNat_of_isIdChar hc
      omega
  rw [idChar, hnot]
  rfl

theorem idChar_ofNat {n : Nat} (h : 128 ≤ n) : idChar (Char.ofNat n) = '_' := by
  by_cases hvalid : n.isValidChar
  · have hnat : (Char.ofNat n).toNat = n := by
      rw [Char.ofNat, dif_pos hvalid]
      rfl
    refine idChar_of_not_ascii ?_
    rw [hnat]
    exact h
  · -- a number that is no character stands for the null character
    rw [Char.ofNat, dif_neg hvalid]
    decide

/-- Only the capital letters of ASCII have another lower case within ASCII. -/
theorem toLower_eq_self {c : Char} (h : ¬(65 ≤ c.toNat ∧ c.toNat ≤ 90)) : c.toLower = c := by
  unfold Char.toLower
  rw [dif_neg]
  rintro ⟨hfirst, hlast⟩
  exact h ⟨UInt32.le_iff_toNat_le.1 hfirst, UInt32.le_iff_toNat_le.1 hlast⟩

/-- Every run of letters leads to letters outside ASCII, apart from the run of the Kelvin sign. -/
theorem letterRuns_not_ascii : ∀ r ∈ letterRuns,
    (r.first = 0x212A ∧ r.last = 0x212A) ∨ 128 ≤ (r.first : Int) + r.distance := by
  decide +kernel

/-- Where ids are concerned, a letter of any script is lowered as `lowerChar` does it. -/
theorem idChars_lowerLetter (c : Char) :
    (lowerLetter c).map idChar = (lowerChar c).map idChar := by
  -- the two letters that `lowerChar` knows by name, then ASCII, then the runs of other scripts
  by_cases hdotted : c = '\u0130'
  · subst hdotted
    decide
  by_cases hkelvin : c = '\u212A'
  · subst hkelvin
    decide +kernel
  have hchar : lowerChar c = [c.toLower] := by simp [lowerChar, hdotted, hkelvin]
  by_cases hascii : c.toNat < 0x80
  · rw [lowerLetter_ascii hascii, hchar]
  · have hlarge : 128 ≤ c.toNat := by omega
    have hlower : c.toLower = c := toLower_eq_self (by omega)
    rw [hchar, hlower, List.map_singleton, idChar_of_not_ascii hlarge]
    unfold lowerLetter
    rw [if_neg hascii, if_neg hdotted]
    split
    · rename_i r hr
      have hcontains := List.find?_some hr
      simp only [LetterRun.contains, Bool.and_eq_true, decide_eq_true_eq] at hcontains
      obtain ⟨⟨hfirst, hlast⟩, -⟩ := hcontains
      have hleads : 128 ≤ (c.toNat + r.distance).toNat := by
        rcases letterRuns_not_ascii r (List.mem_of_find?_eq_some hr) with ⟨hf, hl⟩ | hfar
        · have heq : c.toNat = 0x212A := by omega
          exact absurd (Char.toNat_inj.1 heq) hkelvin
        · omega
      rw [List.map_singleton, idChar_ofNat hleads]
    · rw [List.map_singleton, idChar_of_not_ascii hlarge]

/-- Where ids are concerned, lower case is `lower`, whatever form a sigma takes. -/
theorem idChars_lowerBy (final : List Char → List Char → Bool) (before cs : List Char) :
    (lowerBy final before cs).map idChar = (lower cs).map idChar := by
  induction cs generalizing before with
  | nil => rfl
  | cons c cs ih =>
    rw [lowerBy, lower_cons, List.map_append, List.map_append, ih]
    congr 1
    split
    · rename_i hsigma
      subst hsigma
      split <;> decide
    · exact idChars_lowerLetter c

/-! ## Blanks in lower case -/

variable {blanks : List Char} {c : Char}

/-- A blank has no other lower case, and it is no character of an id. -/
theorem idChars_lowerChar_blank (h : isBlank c = true) : (lowerChar c).map idChar = ['_'] := by
  have hnot : isIdChar c = false := by
    cases hc : isIdChar c with
    | false => rfl
    | true => exact absurd h (by rw [isBlank_of_isIdChar hc]; decide)
  -- none of the characters that have a lower case of their own is blank
  have hdotted : c ≠ '\u0130' := by
    rintro rfl
    exact absurd h (by decide)
  have hkelvin : c ≠ '\u212A' := by
    rintro rfl
    exact absurd h (by decide)
  have hcapital : ¬(65 ≤ c.toNat ∧ c.toNat ≤ 90) := by
    intro hc
    simp only [isBlank, Bool.or_eq_true, Bool.and_eq_true, decide_eq_true_eq, beq_iff_eq] at h
    omega
  rw [lowerChar, if_neg hdotted, if_neg hkelvin, toLower_eq_self hcapital, List.map_singleton,
    idChar, hnot]
  rfl

theorem idChars_lower_blanks (h : ∀ b ∈ blanks, isBlank b = true) :
    (lower blanks).map idChar = List.replicate blanks.length '_' := by
  induction blanks with
  | nil => rfl
  | cons b blanks ih =>
    obtain ⟨hb, hblanks⟩ := List.forall_mem_cons.1 h
    rw [lower_cons, List.map_append, idChars_lowerChar_blank hb, ih hblanks, List.length_cons,
      List.replicate_succ, List.singleton_append]

end Text

/-! ## The laws of derived ids -/

/-- Blanks between two names become underscores. -/
theorem idOf_joined {c d : Char} {between : List Char} (hc : Text.isBlank c = false)
    (hd : Text.isBlank d = false) (hbetween : ∀ b ∈ between, Text.isBlank b = true)
    (cs ds : List Char) :
    idOf (cs ++ [c] ++ between ++ d :: ds) =
      idOf (cs ++ [c]) ++ List.replicate between.length '_' ++ idOf (d :: ds) := by
  rw [idOf, Text.trim_joined hc hd, Text.lower_append, Text.lower_append, List.map_append,
    List.map_append, Text.idChars_lower_blanks hbetween]
  rfl

/-- What is its own id is spelled in the id alphabet, and the other way round. -/
theorem connectionId_eq_self_iff {id : String} :
    connectionId id = id ↔ ∀ c ∈ id.toList, isIdChar c = true := by
  constructor
  · intro h c hc
    rw [← h] at hc
    exact isIdChar_of_mem_connectionId hc
  · exact connectionId_of_isIdChar

/-- The laws of derived ids: the id of a name is its trimmed lower case in the id alphabet; the ids
are the words over that alphabet, which are their own ids; blanks around a name do not count; and a
run of blanks inside it becomes one underscore for each blank. -/
theorem connectionId_laws (name : String) :
    (∀ final, connectionId name =
      String.ofList ((Text.lowerBy final [] (Text.trim name.toList)).map idChar)) ∧
    (∀ c ∈ (connectionId name).toList, isIdChar c = true) ∧
    (connectionId name = name ↔ ∀ c ∈ name.toList, isIdChar c = true) ∧
    connectionId (connectionId name) = connectionId name ∧
    ((∃ other, connectionId other = name) ↔ ∀ c ∈ name.toList, isIdChar c = true) ∧
    (∀ front back : String, (∀ b ∈ front.toList, Text.isBlank b = true) →
      (∀ b ∈ back.toList, Text.isBlank b = true) →
      connectionId (front ++ name ++ back) = connectionId name) ∧
    (∀ (between after : String) (c d : Char), name.toList.getLast? = some c →
      after.toList.head? = some d → Text.isBlank c = false → Text.isBlank d = false →
      (∀ b ∈ between.toList, Text.isBlank b = true) →
      connectionId (name ++ between ++ after) =
        connectionId name ++ String.ofList (List.replicate between.length '_') ++
          connectionId after) := by
  have hspelled : ∀ c ∈ (connectionId name).toList, isIdChar c = true :=
    fun c hc => isIdChar_of_mem_connectionId hc
  refine ⟨?_, hspelled, connectionId_eq_self_iff, connectionId_of_isIdChar hspelled, ?_, ?_, ?_⟩
  · intro final
    rw [Text.idChars_lowerBy, connectionId, idOf]
  · constructor
    · rintro ⟨other, rfl⟩ c hc
      exact isIdChar_of_mem_connectionId hc
    · intro h
      exact ⟨name, connectionId_of_isIdChar h⟩
  · intro front back hfront hback
    have htrim : Text.trim (front ++ name ++ back).toList = Text.trim name.toList := by
      rw [String.toList_append, String.toList_append, Text.trim_padded hfront hback]
    rw [connectionId, idOf, htrim, connectionId, idOf]
  · intro between after c d hlast hfirst hc hd hbetween
    obtain ⟨cs, hcs⟩ := List.getLast?_eq_some_iff.1 hlast
    obtain ⟨ds, hds⟩ := List.head?_eq_some_iff.1 hfirst
    have hid : idOf (name ++ between ++ after).toList =
        idOf name.toList ++ List.replicate between.length '_' ++ idOf after.toList := by
      rw [String.toList_append, String.toList_append, hcs, hds, idOf_joined hc hd hbetween,
        String.length_toList]
    rw [connectionId, hid, String.ofList_append, String.ofList_append]
    rfl

theorem connectionId_laws_scripts :
    connectionId "\t\u0130x \u212A\u00A0" = connectionId "\u0130x \u212A" ∧
      connectionId "\u0130x \t\u03A3" = "i_x" ++ "__" ++ "_" := by
  have hlaws := connectionId_laws "\u0130x"
  have hpadded := (connectionId_laws "\u0130x \u212A").2.2.2.2.2.1 "\t" "\u00A0"
    (List.all_eq_true.1 rfl) (List.all_eq_true.1 rfl)
  have hjoined := hlaws.2.2.2.2.2.2 " \t" "\u03A3" 'x' '\u03A3' rfl rfl rfl rfl
    (List.all_eq_true.1 rfl)
  exact ⟨hpadded, hjoined⟩

end ConnectionCatalog
