/-! # Text.Case — lower case as far as ASCII can see

Full case mapping may lengthen a text and may carry a letter from outside ASCII
into it.  The reader that follows looks at a lowered text character by character
and asks of each whether it is an ASCII letter.  So the mappings into lower case
that give an ASCII character are listed.  Every other letter outside ASCII is left
as it is, which the reader cannot tell from its image.
-/

namespace ConnectionCatalog.Text

/-- Lower case of a character.  The dotted capital I becomes an i followed by a
combining dot, and the Kelvin sign becomes a k. -/
def lowerChar (c : Char) : List Char :=
  if c = '\u0130' then ['i', '\u0307']
  else if c = '\u212A' then ['k']
  else [c.toLower]

/-- Lower case of a text. -/
def lower (cs : List Char) : List Char := cs.flatMap lowerChar

@[simp] theorem lower_cons (c : Char) (cs : List Char) :
    lower (c :: cs) = lowerChar c ++ lower cs := by
  simp [lower]

@[simp] theorem lower_append (a b : List Char) : lower (a ++ b) = lower a ++ lower b := by
  simp [lower]

end ConnectionCatalog.Text
