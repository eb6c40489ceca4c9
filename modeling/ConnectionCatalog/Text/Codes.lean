/-! # Text.Codes — texts that may hold half a surrogate pair

An escape sequence or a byte sequence can spell a surrogate code point that is
not half of a pair.  Such a text is a list of code points that no `String`
equals.

Main statement: `Codes.toString?_ofString`.
-/

namespace ConnectionCatalog

/-- A text as a list of code points, surrogates included. -/
abbrev Codes := List Nat

namespace Codes

def isHighSurrogate (n : Nat) : Bool := 0xD800 ≤ n && n < 0xDC00

def isLowSurrogate (n : Nat) : Bool := 0xDC00 ≤ n && n < 0xE000

/-- The code point of a surrogate pair. -/
def joinSurrogates (high low : Nat) : Nat :=
  0x10000 + (high - 0xD800) * 0x400 + (low - 0xDC00)

def ofString (s : String) : Codes := s.toList.map Char.toNat

/-- The characters of a text without lone surrogates. -/
def toChars? : Codes → Option (List Char)
  | [] => some []
  | n :: ns =>
    if n.isValidChar then (toChars? ns).map (Char.ofNat n :: ·) else none

/-- The text without lone surrogates. -/
def toString? (cs : Codes) : Option String := (toChars? cs).map String.ofList

/-- A text in which three replacement characters stand for each lone surrogate,
one for each of the bytes that it would take. -/
def lossy (cs : Codes) : String :=
  String.ofList (cs.flatMap fun n =>
    if n.isValidChar then [Char.ofNat n] else ['\uFFFD', '\uFFFD', '\uFFFD'])

/-- A text that no `String` equals: it has a lone surrogate. -/
structure Stray where
  codes : Codes
  isStray : toString? codes = none
deriving DecidableEq, Repr

theorem toChars?_map_toNat (cs : List Char) : toChars? (cs.map Char.toNat) = some cs := by
  induction cs with
  | nil => rfl
  | cons c cs ih =>
    have h : c.toNat.isValidChar := c.valid
    simp [toChars?, ih, h, Char.ofNat_toNat]

@[simp] theorem toString?_ofString (s : String) : toString? (ofString s) = some s := by
  simp [toString?, ofString, toChars?_map_toNat, String.ofList_toList]

theorem ofString_injective {s t : String} (h : ofString s = ofString t) : s = t := by
  have hs := toString?_ofString s
  rw [h, toString?_ofString] at hs
  exact (Option.some.inj hs).symm

end Codes
end ConnectionCatalog
