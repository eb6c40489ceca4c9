import ConnectionCatalog.Files.Route

/-! # Proofs.Files.Ways — directories made along a way

A way passes places, one for each of its names: one further down, or one up again where the name is
two dots.  If the directories on a way can be made, then every place that it passes is a directory
afterwards, and no other place has changed (`Tree.Made`, `makeDirectories_ok`).  Making them again
finds them all and changes nothing (`Made.again`).

The end of a way by its letters is the last place that it passes (`endOf_mem_passed`), so what a
route leads to by its letters has a directory to stand in once the way there has been made
(`Made.kindAt?_endOf_dropLast`).
-/

namespace ConnectionCatalog.Files

variable {t t' : Tree} {here : Path} {made : Bool} {names : List String} {name : String}

/-! ## Places on a way -/

/-- Where a name leads. -/
def stepTo (here : Path) (name : String) : Path :=
  if name = ".." then here.dropLast else here ++ [name]

/-- The places that a way passes, the last one included. -/
def passed (here : Path) : List String → List Path
  | [] => []
  | name :: names => stepTo here name :: passed (stepTo here name) names

/-- The place where a way ends, by its letters. -/
def endOf (here : Path) (names : List String) : Path := names.foldl stepTo here

theorem endOf_snoc (here : Path) (names : List String) (name : String) :
    endOf here (names ++ [name]) = stepTo (endOf here names) name := by
  rw [endOf, List.foldl_append]
  rfl

theorem endOf_mem_passed (here : Path) (names : List String) :
    endOf here names ∈ here :: passed here names := by
  induction names generalizing here with
  | nil => exact List.mem_singleton_self here
  | cons name names ih => exact List.mem_cons_of_mem _ (ih (stepTo here name))

/-- Without two dots a way only leads down. -/
theorem prefix_endOf (hdown : ∀ name ∈ names, name ≠ "..") {p : Path}
    (hp : p ∈ here :: passed here names) : p <+: endOf here names := by
  induction names generalizing here p with
  | nil =>
    obtain rfl := List.mem_singleton.1 hp
    exact List.prefix_refl _
  | cons name names ih =>
    -- no step leads up, so each place on the way is a prefix of the next one
    have hstep : stepTo here name = here ++ [name] := if_neg (hdown name List.mem_cons_self)
    have hrest : ∀ q ∈ stepTo here name :: passed (stepTo here name) names,
        q <+: endOf here (name :: names) :=
      fun q => ih fun n hn => hdown n (List.mem_cons_of_mem _ hn)
    rcases List.mem_cons.1 hp with rfl | hp
    · have hdeeper := hrest (stepTo p name) List.mem_cons_self
      rw [hstep] at hdeeper
      exact (List.prefix_append _ _).trans hdeeper
    · exact hrest p hp

/-- Without two dots all places on the way to what stands above the end are above the end. -/
theorem prefix_endOf_dropLast (hdown : ∀ name ∈ names, name ≠ "..") {p : Path}
    (hp : p ∈ passed here names.dropLast) : p <+: (endOf here names).dropLast := by
  rcases List.eq_nil_or_concat names with rfl | ⟨init, last, rfl⟩
  · cases hp
  · rw [List.concat_eq_append] at hdown hp ⊢
    rw [List.dropLast_concat] at hp
    have hlast : last ≠ ".." := hdown last (by simp)
    rw [endOf_snoc, stepTo, if_neg hlast, List.dropLast_concat]
    exact prefix_endOf (fun name hname => hdown name (List.mem_append_left _ hname))
      (List.mem_cons_of_mem _ hp)

namespace Tree

/-- What stands above a place where something stands is a directory. -/
theorem kindAt?_dropLast {p : Path} {e : Entry} (h : t.kindAt? p = some e) :
    t.kindAt? p.dropLast = some .directory := by
  rcases List.eq_nil_or_concat p with rfl | ⟨p, name, rfl⟩
  · exact t.kindAt?_nil
  · rw [List.concat_eq_append] at h
    rw [List.concat_eq_append, List.dropLast_concat]
    exact isDirectory_of_kindAt?_append (Option.isSome_of_eq_some h)

/-! ## Making directories -/

/-- What is left if directories are made along a way and nothing is in the way: the places that
it passes are directories now, those that were not were free, and nothing else changed. -/
structure Made (t : Tree) (here : Path) (names : List String) (t' : Tree) : Prop where
  kinds : ∀ p, t'.kindAt? p = if p ∈ passed here names then some .directory else t.kindAt? p
  free : ∀ p ∈ passed here names, t.kindAt? p ≠ some .file
  short : ∀ name ∈ names, isLongName name = false

/-- A way that starts with a directory, there already or just made, and goes on from it. -/
theorem Made.cons {t₁ : Tree} (h : Made t₁ (stepTo here name) names t')
    (hplace : ∀ p, t₁.kindAt? p =
      if p = stepTo here name then some .directory else t.kindAt? p)
    (hfree : t.kindAt? (stepTo here name) ≠ some .file) (hshort : isLongName name = false) :
    Made t here (name :: names) t' where
  kinds p := by
    rw [passed, h.kinds, hplace]
    by_cases hp : p = stepTo here name <;> simp [hp]
  free := by
    rw [passed]
    refine List.forall_mem_cons.2 ⟨hfree, fun p hp hfile => ?_⟩
    by_cases heq : p = stepTo here name
    · exact hfree (heq ▸ hfile)
    · exact h.free p hp (by rw [hplace, if_neg heq, hfile])
  short := List.forall_mem_cons.2 ⟨hshort, h.short⟩

theorem Made.cons_of_directory (h : Made t (stepTo here name) names t')
    (hplace : t.kindAt? (stepTo here name) = some .directory) (hshort : isLongName name = false) :
    Made t here (name :: names) t' := by
  refine h.cons (fun p => ?_) (by simp [hplace]) hshort
  split
  · rename_i heq
    rw [heq, hplace]
  · rfl

theorem makeFrom_ok (hdir : t.kindAt? here = some .directory)
    (h : t.makeFrom here made names = (t', none)) : Made t here names t' := by
  induction names generalizing t here made with
  | nil =>
    obtain ⟨rfl, -⟩ := Prod.mk.inj h
    exact ⟨by simp [passed], by simp [passed], by simp⟩
  | cons name names ih =>
    rw [makeFrom] at h
    by_cases hup : name = ".."
    · -- the place above is a directory already
      have hstep : stepTo here name = here.dropLast := if_pos hup
      have hshort : isLongName name = false := by
        rw [hup]
        decide
      rw [if_pos hup] at h
      refine Made.cons_of_directory ?_ ?_ hshort
      · exact hstep ▸ ih (kindAt?_dropLast hdir) h
      · exact hstep ▸ kindAt?_dropLast hdir
    · have hstep : stepTo here name = here ++ [name] := if_neg hup
      rw [if_neg hup] at h
      by_cases hlong : isLongName name = true
      · simp [hlong] at h
      have hshort : isLongName name = false := by simpa using hlong
      rw [if_neg hlong] at h
      cases hkind : t.kindAt? (here ++ [name]) with
      | some entry =>
        cases entry with
        | file => simp [hkind] at h
        | directory =>
          rw [hkind] at h
          exact (hstep ▸ ih hkind h : Made t (stepTo here name) names t').cons_of_directory
            (hstep ▸ hkind) hshort
      | none =>
        rw [hkind] at h
        have hput := kindAt?_put .directory hdir hkind
        have hhere : (t.put .directory (here ++ [name])).kindAt? (here ++ [name]) =
            some .directory := by rw [hput, if_pos rfl]
        rw [← hstep] at hput hkind
        exact (hstep ▸ ih hhere h :
          Made (t.put .directory (stepTo here name)) (stepTo here name) names t').cons hput
            (by simp [hkind]) hshort

theorem makeDirectories_ok (hdir : t.kindAt? here = some .directory)
    (h : t.makeDirectories here names = (t', none)) : Made t here names t' := by
  unfold makeDirectories at h
  split at h
  · simp at h
  · exact makeFrom_ok hdir h

/-- Where all places on a way are directories, none is missing and none is made. -/
theorem makeDirectories_of_directories
    (hdir : ∀ p ∈ passed here names, t.kindAt? p = some .directory)
    (hshort : ∀ name ∈ names, isLongName name = false) :
    t.makeDirectories here names = (t, none) := by
  have hgone : t.missingOn here names = 0 ∧ ∀ made, t.makeFrom here made names = (t, none) := by
    induction names generalizing here with
    | nil => exact ⟨rfl, fun made => rfl⟩
    | cons name names ih =>
      rw [passed] at hdir
      obtain ⟨hplace, hrest⟩ := List.forall_mem_cons.1 hdir
      obtain ⟨hname, hnames⟩ := List.forall_mem_cons.1 hshort
      obtain ⟨hmissing, hmake⟩ := ih hrest hnames
      -- a step up makes nothing, and a step down finds its directory
      by_cases hup : name = ".."
      · have hstep : stepTo here name = here.dropLast := if_pos hup
        rw [hstep] at hmissing hmake
        simp only [missingOn, makeFrom, hup, if_true]
        exact ⟨hmissing, hmake⟩
      · have hstep : stepTo here name = here ++ [name] := if_neg hup
        rw [hstep] at hplace hmissing hmake
        simp only [missingOn, makeFrom, hup, if_false, hname, Bool.false_eq_true, hplace]
        exact ⟨hmissing, hmake⟩
  rw [makeDirectories, hgone.1, if_neg (Nat.not_lt_zero _)]
  exact hgone.2 false

/-- Directories that were made are found the next time. -/
theorem Made.again (h : Made t here names t') : t'.makeDirectories here names = (t', none) :=
  makeDirectories_of_directories (fun p hp => by rw [h.kinds, if_pos hp]) h.short

theorem Made.isDirectory_of_mem (h : Made t here names t') (hdir : t.kindAt? here = some .directory)
    {p : Path} (hp : p ∈ here :: passed here names) : t'.kindAt? p = some .directory := by
  rw [h.kinds]
  rcases List.mem_cons.1 hp with rfl | hp
  · split
    · rfl
    · exact hdir
  · rw [if_pos hp]

/-- Where the directories were made on the way to what stands above the end of a route, the end
stands in a directory by its letters too. -/
theorem Made.kindAt?_endOf_dropLast (h : Made t here names.dropLast t')
    (hdir : t.kindAt? here = some .directory) :
    t'.kindAt? (endOf here names).dropLast = some .directory := by
  have hend := h.isDirectory_of_mem hdir (endOf_mem_passed here names.dropLast)
  rcases List.eq_nil_or_concat names with rfl | ⟨init, last, rfl⟩
  · exact kindAt?_dropLast hend
  · rw [List.concat_eq_append, List.dropLast_concat] at hend
    rw [List.concat_eq_append, endOf_snoc, stepTo]
    split
    · exact kindAt?_dropLast (kindAt?_dropLast hend)
    · rwa [List.dropLast_concat]

end Tree
end ConnectionCatalog.Files
