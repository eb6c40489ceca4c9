/-! # Files.Tree — files and directories

A tree lists what stands in a directory, entry by entry: a file, or a directory with a
tree of its own.  So whatever stands anywhere stands in a directory.

Main statements: `Tree.kindAt?_put`, and `Tree.isDirectory_of_kindAt?_append`; what
stands above an entry is a directory.
-/

namespace ConnectionCatalog.Files

/-- The names that lead from the root to a place. -/
abbrev Path := List String

/-- What stands at a path. -/
inductive Entry
  | file
  | directory
deriving DecidableEq, Repr

/-- Why a way cannot be gone to its end. -/
inductive Obstacle
  | missing
  | notDirectory
  | taken
  | tooLong
  | tooDeep
deriving DecidableEq, Repr

/-- The entries of a directory. -/
inductive Tree
  | empty
  | file (name : String) (others : Tree)
  | directory (name : String) (inside others : Tree)
deriving DecidableEq, Repr

namespace Tree

/-- What stands at a path. -/
def kindAt? : Tree → Path → Option Entry
  | _, [] => some .directory
  | empty, _ :: _ => none
  | file n others, name :: names =>
    if name = n then if names = [] then some .file else none
    else others.kindAt? (name :: names)
  | directory n inside others, name :: names =>
    if name = n then inside.kindAt? names else others.kindAt? (name :: names)

def isDirectory (t : Tree) (p : Path) : Bool := t.kindAt? p = some .directory

/-- A new entry, alone. -/
def single (name : String) : Entry → Tree
  | .file => file name empty
  | .directory => directory name empty empty

/-- Puts an entry at a path that is free, into a directory that is there. -/
def put (e : Entry) : Tree → Path → Tree
  | empty, [name] => single name e
  | empty, _ => empty
  | file n others, p =>
    file n (if p.head? = some n then others else others.put e p)
  | directory n inside others, [] => directory n inside others
  | directory n inside others, name :: names =>
    if name = n then directory n (inside.put e names) others
    else directory n inside (others.put e (name :: names))

/-- All entries with their paths, below a path. -/
def entriesBelow (above : Path) : Tree → List (Path × Entry)
  | empty => []
  | file n others => (above ++ [n], .file) :: others.entriesBelow above
  | directory n inside others =>
    (above ++ [n], .directory) :: inside.entriesBelow (above ++ [n]) ++ others.entriesBelow above

@[simp] theorem kindAt?_nil (t : Tree) : t.kindAt? [] = some .directory := by
  cases t <;> rfl

/-- What stands above an entry is a directory. -/
theorem isDirectory_of_kindAt?_append {t : Tree} {p : Path} {name : String}
    (h : (t.kindAt? (p ++ [name])).isSome) : t.kindAt? p = some .directory := by
  induction t generalizing p with
  | empty => cases p <;> simp [kindAt?] at h ⊢
  | file n others ih =>
    cases p with
    | nil => simp
    | cons q p =>
      simp only [List.cons_append, kindAt?] at h ⊢
      split at h
      · simp at h
      · rename_i hq
        rw [if_neg hq]
        exact ih (p := q :: p) h
  | directory n inside others ihInside ihOthers =>
    cases p with
    | nil => simp
    | cons q p =>
      simp only [List.cons_append, kindAt?] at h ⊢
      split at h
      · rename_i hq
        rw [if_pos hq]
        exact ihInside h
      · rename_i hq
        rw [if_neg hq]
        exact ihOthers (p := q :: p) h

theorem kindAt?_single (name : String) (e : Entry) (p : Path) :
    (single name e).kindAt? p =
      if p = [name] then some e else if p = [] then some .directory else none := by
  cases e <;> rcases p with _ | ⟨q, _ | ⟨r, p⟩⟩ <;> simp [single, kindAt?]

/-- An entry that can be put is there afterwards, and nothing else changes. -/
theorem kindAt?_put {t : Tree} {parent : Path} {name : String} (e : Entry)
    (hdir : t.kindAt? parent = some .directory) (hfree : t.kindAt? (parent ++ [name]) = none)
    (p : Path) :
    (t.put e (parent ++ [name])).kindAt? p =
      if p = parent ++ [name] then some e else t.kindAt? p := by
  induction t generalizing parent p with
  | empty =>
    rcases parent with _ | ⟨q, parent⟩
    · rw [List.nil_append, put, kindAt?_single]
      cases p <;> simp [kindAt?]
    · simp [kindAt?] at hdir
  | file n others ih =>
    have hhead : (parent ++ [name]).head? ≠ some n := by
      rcases parent with _ | ⟨q, parent⟩
      · intro h
        simp only [List.nil_append, List.head?_cons, Option.some.injEq] at h
        simp [kindAt?, h] at hfree
      · intro h
        simp only [List.cons_append, List.head?_cons, Option.some.injEq] at h
        simp only [kindAt?, h, if_true] at hdir
        split at hdir <;> simp at hdir
    rw [put, if_neg hhead]
    have hothers : ∀ q : Path, q.head? ≠ some n → (file n others).kindAt? q = others.kindAt? q := by
      rintro (_ | ⟨q, qs⟩) hq
      · simp
      · simp only [List.head?_cons, ne_eq, Option.some.injEq] at hq
        simp [kindAt?, hq]
    rw [hothers _ hhead] at hfree
    have hdir' : others.kindAt? parent = some .directory := by
      rcases parent with _ | ⟨q, parent⟩
      · simp
      · rwa [hothers _ (by simpa using hhead)] at hdir
    rcases p with _ | ⟨q, qs⟩
    · simp
    · by_cases hq : q = n
      · have : q :: qs ≠ parent ++ [name] := by
          intro h
          rw [← h, hq] at hhead
          simp at hhead
        simp [kindAt?, hq, hq ▸ this]
      · have := ih hdir' hfree (q :: qs)
        simp only [kindAt?, hq, if_false]
        exact this
  | directory n inside others ihInside ihOthers =>
    rcases parent with _ | ⟨r, parent⟩
    · rw [List.nil_append] at hfree ⊢
      have hr : name ≠ n := by
        intro h
        simp [kindAt?, h] at hfree
      have hfree' : others.kindAt? ([] ++ [name]) = none := by
        simpa [kindAt?, hr] using hfree
      rw [put, if_neg hr]
      rcases p with _ | ⟨q, qs⟩
      · simp
      · by_cases hq : q = n
        · have : ¬(q = name ∧ qs = []) := fun h => hr (h.1 ▸ hq)
          simp [kindAt?, hq, hq ▸ this]
        · have := ihOthers (kindAt?_nil others) hfree' (q :: qs)
          simp only [kindAt?, hq, if_false]
          exact this
    · rw [List.cons_append] at hfree ⊢
      by_cases hr : r = n
      · subst hr
        simp only [kindAt?, if_true] at hdir hfree
        rw [put, if_pos rfl]
        rcases p with _ | ⟨q, qs⟩
        · simp
        · by_cases hq : q = r
          · subst hq
            simp only [kindAt?, if_true, List.cons.injEq, true_and]
            exact ihInside hdir hfree qs
          · simp [kindAt?, hq]
      · simp only [kindAt?, hr, if_false] at hdir hfree
        rw [put, if_neg hr]
        rcases p with _ | ⟨q, qs⟩
        · simp
        · by_cases hq : q = n
          · have : ¬(q = r ∧ qs = parent ++ [name]) := fun h => hr (h.1 ▸ hq)
            simp only [kindAt?, hq, if_true, List.cons.injEq]
            rw [if_neg (by rw [← hq]; exact this)]
          · have := @ihOthers (r :: parent) hdir hfree (q :: qs)
            simp only [kindAt?, hq, if_false]
            exact this

/-! ## Ways -/

/-- A name may have so many bytes. -/
def maxNameLength : Nat := 255

/-- Whether a name is too long to stand anywhere. -/
def isLongName (name : String) : Bool := maxNameLength < name.utf8ByteSize

/-- So many directories, one inside the other, may be missing on a way. -/
def maxMissing : Nat := 984

/-- What stands at the end of a way. -/
def followed? (t : Tree) (here : Path) : List String → Option Entry
  | [] => t.kindAt? here
  | name :: names =>
    if !t.isDirectory here then none
    else if name = ".." then t.followed? here.dropLast names
    else t.followed? (here ++ [name]) names

/-- The number of names on a way from the first missing directory on. -/
def missingOn (t : Tree) (here : Path) : List String → Nat
  | [] => 0
  | name :: names =>
    if name = ".." then t.missingOn here.dropLast names
    else
      match t.kindAt? (here ++ [name]) with
      | some .directory => t.missingOn (here ++ [name]) names
      | some .file => 0
      | none => names.length + 1

/-- Makes the directories on a way that are missing, from the first to the last;
`made` says whether one was missing so far.  The tree is what there is afterwards, even
where something is in the way. -/
def makeFrom (t : Tree) (here : Path) (made : Bool) : List String → Tree × Option Obstacle
  | [] => (t, none)
  | name :: names =>
    if name = ".." then t.makeFrom here.dropLast made names
    else if isLongName name then (t, some .tooLong)
    else
      match t.kindAt? (here ++ [name]) with
      | some .directory => t.makeFrom (here ++ [name]) made names
      | some .file => (t, some (if made || names.isEmpty then .taken else .notDirectory))
      | none => (t.put .directory (here ++ [name])).makeFrom (here ++ [name]) true names

/-- Makes the directory to which a way leads, and those on the way that are missing. -/
def makeDirectories (t : Tree) (start : Path) (names : List String) : Tree × Option Obstacle :=
  if maxMissing < t.missingOn start names then (t, some .tooDeep)
  else t.makeFrom start false names

end Tree
end ConnectionCatalog.Files
