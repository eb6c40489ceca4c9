import ConnectionCatalog.Text.Blank
import ConnectionCatalog.Text.Case

/-! # Connection.Id — ids derived from display names

An id is a word over the lower-case ASCII letters, the digits and the
underscore.  It is derived from a display name by trimming it, lowering its case
and writing an underscore for every character that is not allowed in an id.

Main statements: `isIdChar_of_mem_connectionId`, `idChar_eq_self_iff` and
`connectionId_of_isIdChar`; what is spelled as an id is its own id.
-/

namespace ConnectionCatalog

/-- Whether a character may stand in an id. -/
def isIdChar (c : Char) : Bool := c.isLower || c.isDigit || c == '_'

/-- The character of an id that stands for `c`. -/
def idChar (c : Char) : Char := if isIdChar c then c else '_'

/-- The id derived from the characters of a display name. -/
def idOf (name : List Char) : List Char := (Text.lower (Text.trim name)).map idChar

/-- The id derived from a display name. -/
def connectionId (name : String) : String := String.ofList (idOf name.toList)

theorem isIdChar_idChar (c : Char) : isIdChar (idChar c) = true := by
  unfold idChar
  split
  · assumption
  · decide

theorem idChar_eq_self_iff {c : Char} : idChar c = c ↔ isIdChar c = true := by
  constructor
  · intro h
    rw [← h]
    exact isIdChar_idChar c
  · intro h
    simp [idChar, h]

/-- A derived id is spelled in the id alphabet. -/
theorem isIdChar_of_mem_idOf {name : List Char} {c : Char} (h : c ∈ idOf name) :
    isIdChar c = true := by
  obtain ⟨d, -, rfl⟩ := List.mem_map.1 h
  exact isIdChar_idChar d

/-- A derived id is spelled in the id alphabet. -/
theorem isIdChar_of_mem_connectionId {name : String} {c : Char}
    (h : c ∈ (connectionId name).toList) : isIdChar c = true := by
  rw [connectionId, String.toList_ofList] at h
  exact isIdChar_of_mem_idOf h

/-! ## Ids are their own ids -/

theorem toNat_of_isIdChar {c : Char} (h : isIdChar c = true) :
    97 ≤ c.toNat ∧ c.toNat ≤ 122 ∨ 48 ≤ c.toNat ∧ c.toNat ≤ 57 ∨ c.toNat = 95 := by
  have hlower : c.isLower = (decide (c.val ≥ 97) && decide (c.val ≤ 122)) := rfl
  simp only [isIdChar, Bool.or_eq_true, hlower, Char.isDigit, Bool.and_eq_true,
    decide_eq_true_iff, beq_iff_eq] at h
  rcases h with (⟨hfirst, hlast⟩ | ⟨hfirst, hlast⟩) | rfl
  · exact .inl ⟨UInt32.le_iff_toNat_le.1 hfirst, UInt32.le_iff_toNat_le.1 hlast⟩
  · exact .inr (.inl ⟨UInt32.le_iff_toNat_le.1 hfirst, UInt32.le_iff_toNat_le.1 hlast⟩)
  · exact .inr (.inr rfl)

/-- Nothing in an id is trimmed. -/
theorem isBlank_of_isIdChar {c : Char} (h : isIdChar c = true) : Text.isBlank c = false := by
  have hrange := toNat_of_isIdChar h
  simp only [Text.isBlank, Bool.or_eq_false_iff, Bool.and_eq_false_iff, decide_eq_false_iff_not,
    beq_eq_false_iff_ne]
  omega

/-- Nothing in an id has another lower case. -/
theorem lowerChar_of_isIdChar {c : Char} (h : isIdChar c = true) : Text.lowerChar c = [c] := by
  have hrange := toNat_of_isIdChar h
  have hupper : ¬(65 ≤ c.toNat ∧ c.toNat ≤ 90) := by omega
  have hdotted : c ≠ '\u0130' := by
    rintro rfl
    exact absurd hrange (by decide)
  have hkelvin : c ≠ '\u212A' := by
    rintro rfl
    exact absurd hrange (by decide)
  have hlower : c.toLower = c := by
    unfold Char.toLower
    rw [dif_neg]
    rintro ⟨hfirst, hlast⟩
    exact hupper ⟨UInt32.le_iff_toNat_le.1 hfirst, UInt32.le_iff_toNat_le.1 hlast⟩
  simp [Text.lowerChar, hdotted, hkelvin, hlower]

theorem trimStart_of_isIdChar {cs : List Char} (h : ∀ c ∈ cs, isIdChar c = true) :
    Text.trimStart cs = cs := by
  cases cs with
  | nil => rfl
  | cons c cs => exact Text.trimStart_of_not_blank (isBlank_of_isIdChar (h c (by simp)))

theorem idOf_of_isIdChar {cs : List Char} (h : ∀ c ∈ cs, isIdChar c = true) : idOf cs = cs := by
  have htrim : Text.trim cs = cs := by
    have hreverse : ∀ c ∈ cs.reverse, isIdChar c = true := by simpa using h
    rw [Text.trim, trimStart_of_isIdChar h, Text.trimEnd, trimStart_of_isIdChar hreverse,
      List.reverse_reverse]
  rw [idOf, htrim]
  clear htrim
  induction cs with
  | nil => rfl
  | cons c cs ih =>
    obtain ⟨hc, hcs⟩ := List.forall_mem_cons.1 h
    rw [Text.lower_cons, lowerChar_of_isIdChar hc, List.map_append, List.map_singleton,
      idChar_eq_self_iff.2 hc, ih hcs, List.singleton_append]

/-- What is spelled in the id alphabet is its own id. -/
theorem connectionId_of_isIdChar {id : String} (h : ∀ c ∈ id.toList, isIdChar c = true) :
    connectionId id = id := by
  rw [connectionId, idOf_of_isIdChar h, String.ofList_toList]

/-! ## Places -/

/-- Where a connection is found: the namespace and the id within it. -/
structure NamespacedId where
  namespaceName : String
  id : String
deriving DecidableEq, Repr, Inhabited

/-- The place of a connection as it is shown in a line of text. -/
def NamespacedId.toText (i : NamespacedId) : String := i.namespaceName ++ ":" ++ i.id

end ConnectionCatalog
