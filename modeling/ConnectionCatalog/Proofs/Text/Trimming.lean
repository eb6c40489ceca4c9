import ConnectionCatalog.Text.Blank
import ConnectionCatalog.Text.UpperCase
import Mathlib.Data.List.TakeWhile

/-! # Proofs.Text.Trimming — what is left of a text without the blanks around it

Blanks are dropped from both ends, and what stands between two characters that are not blank stays
as it is.  Letters are no blanks, so their case does not matter to what is dropped.

Main statements: `trim_padded`, `trim_joined` and `trim_map_toUpper`.
-/

namespace ConnectionCatalog.Text

/-! ## Blanks around a text and inside it -/

variable {cs ds blanks : List Char} {c d : Char}

theorem trimStart_append_blanks (h : ∀ b ∈ blanks, isBlank b = true) (cs : List Char) :
    trimStart (blanks ++ cs) = trimStart cs :=
  List.dropWhile_append_of_pos h

theorem trimEnd_append_blanks (h : ∀ b ∈ blanks, isBlank b = true) (cs : List Char) :
    trimEnd (cs ++ blanks) = trimEnd cs := by
  have hreverse : ∀ b ∈ blanks.reverse, isBlank b = true := by simpa using h
  rw [trimEnd, List.reverse_append, trimStart_append_blanks hreverse, trimEnd]

/-- Behind a text that is not all blank, trimming the start leaves everything alone. -/
theorem trimStart_append (h : trimStart cs ≠ []) (ds : List Char) :
    trimStart (cs ++ ds) = trimStart cs ++ ds := by
  have hkeeps : (cs.dropWhile isBlank).isEmpty = false := List.isEmpty_eq_false_iff.2 h
  rw [trimStart, List.dropWhile_append, hkeeps]
  rfl

/-- Blanks around a text are trimmed, on both sides. -/
theorem trim_padded {front back : List Char} (hfront : ∀ b ∈ front, isBlank b = true)
    (hback : ∀ b ∈ back, isBlank b = true) (cs : List Char) :
    trim (front ++ cs ++ back) = trim cs := by
  rw [trim, trim, List.append_assoc, trimStart_append_blanks hfront]
  -- a text that is all blank is trimmed to nothing, together with what is around it
  by_cases hcs : trimStart cs = []
  · have hblank : ∀ b ∈ cs, isBlank b = true := List.dropWhile_eq_nil_iff.1 hcs
    rw [trimStart_append_blanks hblank, hcs]
    have hnil : trimStart back = [] := List.dropWhile_eq_nil_iff.2 hback
    rw [hnil]
  · rw [trimStart_append hcs, trimEnd_append_blanks hback]

theorem trimStart_snoc (h : isBlank c = false) (cs : List Char) :
    trimStart (cs ++ [c]) = trimStart cs ++ [c] := by
  by_cases hcs : trimStart cs = []
  · have hblank : ∀ b ∈ cs, isBlank b = true := List.dropWhile_eq_nil_iff.1 hcs
    rw [trimStart_append_blanks hblank, hcs, trimStart_of_not_blank h, List.nil_append]
  · exact trimStart_append hcs [c]

theorem trimEnd_snoc (h : isBlank c = false) (cs : List Char) :
    trimEnd (cs ++ [c]) = cs ++ [c] := by
  rw [trimEnd, List.reverse_append, List.reverse_singleton, List.singleton_append,
    trimStart_of_not_blank h, List.reverse_cons, List.reverse_reverse]

theorem trimEnd_cons (h : isBlank d = false) (ds : List Char) :
    trimEnd (d :: ds) = d :: trimEnd ds := by
  rw [trimEnd, List.reverse_cons, trimStart_snoc h, List.reverse_append, List.reverse_singleton,
    List.singleton_append, trimEnd]

/-- In front of a text that is not all blank, trimming the end leaves everything alone. -/
theorem trimEnd_append (cs : List Char) (h : trimEnd ds ≠ []) :
    trimEnd (cs ++ ds) = cs ++ trimEnd ds := by
  have hstart : trimStart ds.reverse ≠ [] := by
    intro hnil
    exact h (by rw [trimEnd, hnil, List.reverse_nil])
  rw [trimEnd, List.reverse_append, trimStart_append hstart, List.reverse_append,
    List.reverse_reverse, trimEnd]

/-- What stands between the last character of one text and the first of another is not trimmed,
where neither character is blank. -/
theorem trim_joined (hc : isBlank c = false) (hd : isBlank d = false) (cs between ds : List Char) :
    trim (cs ++ [c] ++ between ++ d :: ds) = trim (cs ++ [c]) ++ between ++ trim (d :: ds) := by
  have hstart : trimStart (cs ++ [c]) ≠ [] := by
    rw [trimStart_snoc hc]
    simp
  have hend : trimEnd (d :: ds) ≠ [] := by
    rw [trimEnd_cons hd]
    simp
  have hleft : trim (cs ++ [c]) = trimStart (cs ++ [c]) := by
    rw [trim, trimStart_snoc hc, trimEnd_snoc hc]
  have hright : trim (d :: ds) = trimEnd (d :: ds) := by
    rw [trim, trimStart_of_not_blank hd]
  rw [hleft, hright, trim, List.append_assoc, trimStart_append hstart, ← List.append_assoc,
    trimEnd_append _ hend]

/-! ## Letter case -/

theorem isBlank_toUpper (c : Char) : isBlank c.toUpper = isBlank c := by
  by_cases h : 97 ≤ c.toNat ∧ c.toNat ≤ 122
  · have hcapital := toNat_toUpper h
    have hneither : isBlank c.toUpper = false ∧ isBlank c = false := by
      simp only [isBlank, hcapital, Bool.or_eq_false_iff, Bool.and_eq_false_iff,
        decide_eq_false_iff_not, beq_eq_false_iff_ne, ne_eq]
      omega
    rw [hneither.1, hneither.2]
  · rw [toUpper_eq_self h]

theorem trimStart_map_toUpper (cs : List Char) :
    trimStart (cs.map Char.toUpper) = (trimStart cs).map Char.toUpper := by
  have hblank : isBlank ∘ Char.toUpper = isBlank := funext isBlank_toUpper
  rw [trimStart, List.dropWhile_map, hblank, trimStart]

theorem trim_map_toUpper (cs : List Char) :
    trim (cs.map Char.toUpper) = (trim cs).map Char.toUpper := by
  simp only [trim, trimEnd, trimStart_map_toUpper, ← List.map_reverse]

end ConnectionCatalog.Text
