import ConnectionCatalog.Log.Format
import ConnectionCatalog.Proofs.Entries

/-! # Proofs.Log.TextLine — text lines and the order of dimensions

A text line ends with the dimensions sorted by name.  Names are there once, so the values need no
order of their own, and records with the same dimensions in different orders end alike
(`dimensionsText_of_same`).  What stands in front comes from the template.  It shows the order only
where the template asks for the dimensions themselves, or for the record as a whole
(`namesDimensions`): no other field looks at them (`writePieces_of_agree`).
-/

namespace ConnectionCatalog.Log

/-! ## What a template asks for -/

/-- Whether a part of a template shows the dimensions: a field of their name, or one without a
name, which stands for the whole record. -/
def Piece.namesDimensions : Piece → Bool
  | .field f => f.name? == none || f.name? == some "dimensions"
  | _ => false

/-- Whether a template shows the dimensions in a place of its own. -/
def namesDimensions (template : String) : Bool :=
  (readPieces template.length template.toList).any Piece.namesDimensions

theorem messageTemplate_plain : namesDimensions messageTemplate = false := by decide +kernel

theorem consoleTemplate_plain : namesDimensions consoleTemplate = false := by decide +kernel

/-! ## Fields that do not look at the dimensions -/

/-- Values that have the same names for the same things, up to the dimensions. -/
def Named.Agree (values others : Named) : Prop :=
  ∀ name, name ≠ "dimensions" → Named.get? name values = Named.get? name others

section Agree

variable {values others : Named} {f : Field} {name : String}

theorem Field.value_of_agree (h : values.Agree others) (hname : f.name? = some name)
    (hne : name ≠ "dimensions") (left? other? : Option Shown) :
    f.value values left? = f.value others other? := by
  simp only [Field.value, hname, h name hne]

theorem Field.takeExtentOf_of_agree (h : values.Agree others) (hname : f.name? = some name)
    (hne : name ≠ "dimensions") (left? other? : Option Shown) (bound : Int)
    (fault : TemplateFault) :
    f.takeExtentOf values left? bound fault = f.takeExtentOf others other? bound fault := by
  rw [Field.takeExtentOf, Field.takeExtentOf, value_of_agree h hname hne left? other?]

theorem Field.write_of_agree (h : values.Agree others) (hname : f.name? = some name)
    (hne : name ≠ "dimensions") (left? other? : Option Shown) :
    f.write values left? = f.write others other? := by
  simp only [Field.write, value_of_agree h hname hne left? other?,
    takeExtentOf_of_agree h hname hne left? other?]

theorem writePieces_of_agree (h : values.Agree others) {ps : List Piece}
    (hps : ps.any Piece.namesDimensions = false) (left? other? : Option Shown) :
    writePieces values left? ps = writePieces others other? ps := by
  induction ps generalizing left? other? with
  | nil => rfl
  | cons p ps ih =>
    obtain ⟨hp, hps⟩ := Bool.or_eq_false_iff.1 (by simpa only [List.any_cons] using hps)
    have ih := ih hps
    cases p with
    | literal c => rw [writePieces, writePieces, ih left? other?]
    | openName => rfl
    | field f =>
      simp only [Piece.namesDimensions, Bool.or_eq_false_iff, beq_eq_false_iff_ne, ne_eq] at hp
      -- a field has a name, as a field without one stands for all values, and another name than the
      -- dimensions
      obtain ⟨name, hname⟩ := Option.ne_none_iff_exists'.1 hp.1
      have hne : name ≠ "dimensions" := fun heq => hp.2 (heq ▸ hname)
      rw [writePieces, writePieces, Field.write_of_agree h hname hne left? other?, ih none none]

theorem fillTemplate_of_agree (h : values.Agree others) {ps : List Piece}
    (hps : ps.any Piece.namesDimensions = false) :
    fillTemplate values ps = fillTemplate others ps :=
  writePieces_of_agree h hps _ _

theorem Named.Agree.cons (h : values.Agree others) (name : String) (s : Shown) :
    Named.Agree ((name, s) :: values) ((name, s) :: others) := by
  intro other hne
  have hrest := h other hne
  simp only [Named.get?] at hrest
  by_cases hname : name = other
  · simp [Named.get?, hname]
  · simp [Named.get?, hname, hrest]

/-- A template has the parts that are read from it. -/
theorem readPieces_of_pieces {template : String} {ps : List Piece} (h : pieces template = .ok ps) :
    readPieces template.length template.toList = ps := by
  unfold pieces at h
  split at h
  · exact Except.ok.inj h
  · cases h

end Agree

/-- The line of a template that does not name the time. -/
theorem textLine_eq_ok {template : String} {e : Entry} {ps : List Piece} {line : String}
    (hgiven : template.isEmpty = false) (hps : pieces template = .ok ps)
    (htime : namesTime template = false) (hline : fillTemplate (namedValues e) ps = .ok line)
    (hw : (Value.object e.dimensions).isWritable = true) :
    textLine template e = .ok (withFailure line e.thrown? ++ dimensionsText e.dimensions) := by
  simp only [textLine, hgiven, htime, Bool.false_eq_true, if_false]
  simp only [hps, Except.mapError, bind, Except.bind, pure, Except.pure, hline, hw, if_true]

/-! ## Lines of the same dimensions -/

section Same

variable {ds es : Dimensions}

/-- The text of dimensions does not show the order in which they were put together. -/
theorem dimensionsText_of_same (hds : (ds.map Prod.fst).Nodup) (hes : (es.map Prod.fst).Nodup)
    (hsame : ∀ d, d ∈ ds ↔ d ∈ es) : dimensionsText ds = dimensionsText es := by
  have hempty : ds.isEmpty = es.isEmpty := by
    rw [Bool.eq_iff_iff, List.isEmpty_iff, List.isEmpty_iff, List.eq_nil_iff_forall_not_mem,
      List.eq_nil_iff_forall_not_mem]
    simp only [hsame]
  have hsorted : sortedDimensions ds = sortedDimensions es := by
    refine TextMap.ofList_eq_iff.2 fun name => Option.ext fun v => ?_
    rw [lastValue?_eq_some_iff hds, lastValue?_eq_some_iff hes, hsame]
  rw [dimensionsText, dimensionsText, hempty, hsorted]

theorem namedValues_agree (e : Entry) (dimensions? others? : Option Dimensions) :
    (namedValues { e with dimensions? := dimensions? }).Agree
      (namedValues { e with dimensions? := others? }) := by
  intro name hne
  have hne' : "dimensions" ≠ name := fun h => hne h.symm
  simp only [Named.get?, namedValues, List.map_cons, List.find?_cons, hne', decide_false]
  rfl

/-- Records that differ only in the order of their dimensions are written as the same line, unless
the template itself asks for the dimensions. -/
theorem textLine_of_same {template : String} (htemplate : namesDimensions template = false)
    (e : Entry) (hds : (ds.map Prod.fst).Nodup) (hes : (es.map Prod.fst).Nodup)
    (hsame : ∀ d, d ∈ ds ↔ d ∈ es) :
    textLine template { e with dimensions? := some ds } =
      textLine template { e with dimensions? := some es } := by
  have hwritable : (Value.object ds).isWritable = (Value.object es).isWritable := by
    rw [Bool.eq_iff_iff, Value.isWritable_object_iff, Value.isWritable_object_iff]
    simp only [hsame]
  -- where no template is given, the one that is used instead shows no dimensions either
  have hused : namesDimensions (if template.isEmpty then messageTemplate else template) = false := by
    split
    · exact messageTemplate_plain
    · exact htemplate
  unfold textLine
  extract_lets used
  cases hparts : pieces used with
  | error fault => rfl
  | ok parts =>
    have hnamed : parts.any Piece.namesDimensions = false := by
      rw [← readPieces_of_pieces hparts]
      exact hused
    have hvalues := namedValues_agree e (some ds) (some es)
    have hplain := fillTemplate_of_agree hvalues hnamed
    have htimed := fun s => fillTemplate_of_agree (hvalues.cons "asctime" s) hnamed
    simp only [Except.mapError, bind, Except.bind, pure, Except.pure, hplain, htimed,
      Entry.dimensions, Option.getD_some, hwritable, dimensionsText_of_same hds hes hsame]
    rfl

end Same

end ConnectionCatalog.Log
