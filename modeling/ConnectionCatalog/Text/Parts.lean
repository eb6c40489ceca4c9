/-! # Text.Parts — the parts of a text between marks

A text is cut at every mark of one kind.  What stands before the first mark, between two of them and
behind the last one is a part, if need be an empty one; a text without a mark is one part.
-/

namespace ConnectionCatalog.Text

/-- The parts of characters between marks. -/
def partsOf (mark : Char) : List Char → List (List Char)
  | [] => [[]]
  | c :: cs =>
    if c = mark then [] :: partsOf mark cs
    else
      match partsOf mark cs with
      | part :: parts => (c :: part) :: parts
      | [] => [[c]]

/-- The parts of a text between marks. -/
def parts (mark : Char) (s : String) : List String :=
  (partsOf mark s.toList).map String.ofList

end ConnectionCatalog.Text
