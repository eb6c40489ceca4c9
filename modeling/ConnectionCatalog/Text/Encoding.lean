import ConnectionCatalog.Text.Codes
import ConnectionCatalog.Text.Quoted

/-! # Text.Encoding — texts from bytes

A byte string that holds a document is in one of the Unicode encodings, told
apart by a byte order mark or by where its first bytes are zero.  Surrogate code
points are let through by every decoder; anything else that an encoding forbids
is refused with the bytes at fault.  The other way, a text with lone surrogates has
no bytes.
-/

namespace ConnectionCatalog.Text

/-- Why bytes are not a text. -/
inductive DecodeReason
  | invalidStart
  | invalidContinuation
  | unexpectedEnd
  | truncated
  | outOfRange
deriving DecidableEq, Repr

def DecodeReason.message : DecodeReason → String
  | invalidStart => "invalid start byte"
  | invalidContinuation => "invalid continuation byte"
  | unexpectedEnd => "unexpected end of data"
  | truncated => "truncated data"
  | outOfRange => "code point not in range(0x110000)"

/-- The bytes from `start` up to but not including `stop` are at fault; `byte` is
the first of them. -/
structure DecodeFault where
  codec : String
  byte : UInt8
  start : Nat
  stop : Nat
  reason : DecodeReason
deriving DecidableEq, Repr

def DecodeFault.message (f : DecodeFault) : String :=
  let what :=
    if f.stop = f.start + 1 then
      "byte 0x" ++ String.ofList (hex 2 f.byte.toNat) ++ " in position " ++ toString f.start
    else "bytes in position " ++ toString f.start ++ "-" ++ toString (f.stop - 1)
  quote f.codec ++ " codec can't decode " ++ what ++ ": " ++ f.reason.message

/-- What a decoder finds at the front of some bytes: a code point and the number
of bytes it takes, or the number of bytes at fault and why. -/
abbrev Front := Except (Nat × DecodeReason) (Nat × Nat)

/-- Decodes from position `pos` on, one code point at a time; as every code point
takes a byte or more, as many steps as bytes are enough. -/
def decodeWith (codec : String) (front : List UInt8 → Front) :
    (steps pos : Nat) → List UInt8 → Except DecodeFault Codes
  | _, _, [] => .ok []
  | 0, _, _ => .ok []
  | steps + 1, pos, b :: bs =>
    match front (b :: bs) with
    | .error (size, reason) => .error ⟨codec, b, pos, pos + size, reason⟩
    | .ok (code, size) =>
      match decodeWith codec front steps (pos + size) ((b :: bs).drop size) with
      | .error f => .error f
      | .ok codes => .ok (code :: codes)

/-! ## UTF-8 -/

/-- What a leading byte promises: its part of the code point, the number of bytes
that follow, and the range of the first of these. -/
def utf8Lead (b : Nat) : Option (Nat × Nat × Nat × Nat) :=
  if b < 0xC2 then none
  else if b < 0xE0 then some (b - 0xC0, 1, 0x80, 0xBF)
  else if b = 0xE0 then some (0, 2, 0xA0, 0xBF)
  else if b < 0xF0 then some (b - 0xE0, 2, 0x80, 0xBF)
  else if b = 0xF0 then some (0, 3, 0x90, 0xBF)
  else if b < 0xF4 then some (b - 0xF0, 3, 0x80, 0xBF)
  else if b = 0xF4 then some (4, 3, 0x80, 0x8F)
  else none

/-- Reads the bytes that follow a leading byte; `size` bytes are read so far. -/
def utf8Tail (code size lo hi : Nat) : (owed : Nat) → List UInt8 → Front
  | 0, _ => .ok (code, size)
  | _ + 1, [] => .error (size, .unexpectedEnd)
  | owed + 1, b :: bs =>
    if lo ≤ b.toNat ∧ b.toNat ≤ hi then
      utf8Tail (code * 64 + (b.toNat - 0x80)) (size + 1) 0x80 0xBF owed bs
    else .error (size, .invalidContinuation)

/-- The first code point of some bytes.  A surrogate is let through whole; what
only starts like one is refused at its first byte. -/
def utf8Front : List UInt8 → Front
  | [] => .error (0, .unexpectedEnd)
  | b :: bs =>
    if b.toNat < 0x80 then .ok (b.toNat, 1)
    else
      match utf8Lead b.toNat with
      | none => .error (1, .invalidStart)
      | some (code, owed, lo, hi) =>
        match utf8Tail code 1 lo hi owed bs with
        | .ok r => .ok r
        | .error (size, reason) =>
          if b = 0xED ∧ 1 < size ∧ 0xA0 ≤ (bs.headD 0).toNat then .error (1, .invalidContinuation)
          else .error (size, reason)

def decodeUtf8 (bs : List UInt8) : Except DecodeFault Codes :=
  decodeWith "utf-8" utf8Front bs.length 0 bs

/-! ## UTF-16 and UTF-32 -/

/-- Two bytes as a number. -/
def pair (big : Bool) (a b : UInt8) : Nat :=
  if big then a.toNat * 256 + b.toNat else b.toNat * 256 + a.toNat

def utf16Front (big : Bool) : List UInt8 → Front
  | a :: b :: c :: d :: _ =>
    let high := pair big a b
    let low := pair big c d
    if Codes.isHighSurrogate high && Codes.isLowSurrogate low then
      .ok (Codes.joinSurrogates high low, 4)
    else .ok (high, 2)
  | a :: b :: _ => .ok (pair big a b, 2)
  | bs => .error (bs.length, .truncated)

def utf32Front (big : Bool) : List UInt8 → Front
  | a :: b :: c :: d :: _ =>
    let code :=
      if big then pair true a b * 65536 + pair true c d
      else pair false c d * 65536 + pair false a b
    if code < 0x110000 then .ok (code, 4) else .error (4, .outOfRange)
  | bs => .error (bs.length, .truncated)

def decodeUtf16 (big : Bool) (pos : Nat) (bs : List UInt8) : Except DecodeFault Codes :=
  decodeWith (if big then "utf-16-be" else "utf-16-le") (utf16Front big) bs.length pos bs

def decodeUtf32 (big : Bool) (pos : Nat) (bs : List UInt8) : Except DecodeFault Codes :=
  decodeWith (if big then "utf-32-be" else "utf-32-le") (utf32Front big) bs.length pos bs

/-! ## Detection -/

/-- Decodes a document whose encoding is told by a byte order mark, which is
dropped, or by the zeros among its first four bytes; with neither it is UTF-8. -/
def decodeDocument : List UInt8 → Except DecodeFault Codes
  | 0x00 :: 0x00 :: 0xFE :: 0xFF :: bs => decodeUtf32 true 4 bs
  | 0xFF :: 0xFE :: 0x00 :: 0x00 :: bs => decodeUtf32 false 4 bs
  | 0xFE :: 0xFF :: bs => decodeUtf16 true 2 bs
  | 0xFF :: 0xFE :: bs => decodeUtf16 false 2 bs
  | 0xEF :: 0xBB :: 0xBF :: bs => decodeUtf8 bs
  | a :: b :: c :: d :: bs =>
    let all := a :: b :: c :: d :: bs
    if a = 0 then
      if b = 0 then decodeUtf32 true 0 all else decodeUtf16 true 0 all
    else if b = 0 then
      if c = 0 ∧ d = 0 then decodeUtf32 false 0 all else decodeUtf16 false 0 all
    else decodeUtf8 all
  | [a, b] =>
    if a = 0 then decodeUtf16 true 0 [a, b]
    else if b = 0 then decodeUtf16 false 0 [a, b]
    else decodeUtf8 [a, b]
  | bs => decodeUtf8 bs

/-! ## Texts without bytes -/

/-- What is said of a text that has no bytes: where its first lone surrogates stand. -/
def encodeMessage (codes : Codes) : String :=
  let start := (codes.takeWhile fun n => decide n.isValidChar).length
  let run := (codes.drop start).takeWhile fun n => !decide n.isValidChar
  let what :=
    match run with
    | [n] => "character '\\u" ++ String.ofList (hex 4 n) ++ "' in position " ++ toString start
    | _ =>
      "characters in position " ++ toString start ++ "-" ++ toString (start + run.length - 1)
  "'utf-8' codec can't encode " ++ what ++ ": surrogates not allowed"

/-- The text that some bytes spell in UTF-8, without surrogates. -/
def utf8Text? (bs : List UInt8) : Option String :=
  match decodeUtf8 bs with
  | .ok codes => codes.toString?
  | .error _ => none

end ConnectionCatalog.Text
