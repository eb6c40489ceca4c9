import ConnectionCatalog.Text.Blank
import ConnectionCatalog.TextMap

/-! # Settings.Dotenv — variables in a file

A file sets one variable a line: a name, an equals sign and a value, with
`export` in front if one likes.  A value in quotes may hold escapes and run over
several lines; without quotes it ends where a comment starts, or with the line.
A name alone takes away what was set before.  A line that is none of this sets
nothing.

In a value, a name in braces after a dollar sign stands for what the name was set
to further up, or else for a variable of the environment.
-/

namespace ConnectionCatalog.Dotenv

open Text (isBlank)

/-- A variable and its value; a name alone has none. -/
abbrev Binding := String × Option String

/-! ## Characters -/

/-- Line ends, all written the same way. -/
def unifyLineEnds : List Char → List Char
  | '\r' :: '\n' :: cs => '\n' :: unifyLineEnds cs
  | '\r' :: cs => '\n' :: unifyLineEnds cs
  | c :: cs => c :: unifyLineEnds cs
  | [] => []

/-- A blank within a line. -/
def isSpace (c : Char) : Bool := isBlank c && c ≠ '\n' && c ≠ '\r'

def isNameChar (c : Char) : Bool := c ≠ '=' && c ≠ '#' && !isBlank c

def skipSpaces (cs : List Char) : List Char := cs.dropWhile isSpace

/-- What follows the end of the current line. -/
def nextLine (cs : List Char) : List Char := (cs.dropWhile (· ≠ '\n')).drop 1

/-! ## Names -/

/-- What follows a word, if a text starts with it. -/
def afterWord? : (word : List Char) → List Char → Option (List Char)
  | [], cs => some cs
  | w :: ws, c :: cs => if c = w then afterWord? ws cs else none
  | _ :: _, [] => none

/-- Skips the word that may stand in front of a name. -/
def skipExport (cs : List Char) : List Char :=
  match afterWord? "export".toList cs with
  | some (c :: rest) => if isSpace c then skipSpaces rest else cs
  | _ => cs

/-- The name that a binding starts with and what follows it; in place of a name
there may be a comment. -/
def readName : List Char → Except (List Char) (Option String × List Char)
  | '#' :: cs => .ok (none, '#' :: cs)
  | '\'' :: cs =>
    let name := cs.takeWhile (· ≠ '\'')
    match cs.dropWhile (· ≠ '\'') with
    | _ :: rest =>
      if name.isEmpty then .error ('\'' :: cs) else .ok (some (String.ofList name), rest)
    | [] => .error ('\'' :: cs)
  | cs =>
    let name := cs.takeWhile isNameChar
    if name.isEmpty then .error cs
    else .ok (some (String.ofList name), cs.dropWhile isNameChar)

/-! ## Values -/

/-- A value up to its closing quote, and the rest.  What follows a backslash does not
close it. -/
def readQuoted (q : Char) : List Char → Option (List Char × List Char)
  | [] => none
  | '\\' :: c :: cs => (readQuoted q cs).map fun (body, rest) => ('\\' :: c :: body, rest)
  | c :: cs =>
    if c = q then some ([], cs)
    else (readQuoted q cs).map fun (body, rest) => (c :: body, rest)

/-- The character that an escape stands for between double quotes. -/
def doubleEscape? : Char → Option Char
  | '\\' => some '\\'
  | '\'' => some '\''
  | '"' => some '"'
  | 'a' => some '\x07'
  | 'b' => some '\x08'
  | 'f' => some '\x0c'
  | 'n' => some '\n'
  | 'r' => some '\r'
  | 't' => some '\t'
  | 'v' => some '\x0b'
  | _ => none

/-- The character that an escape stands for between single quotes. -/
def singleEscape? : Char → Option Char
  | '\\' => some '\\'
  | '\'' => some '\''
  | _ => none

/-- Replaces escapes; a backslash that starts none stands for itself. -/
def unescape (escape? : Char → Option Char) : List Char → List Char
  | '\\' :: c :: cs =>
    match escape? c with
    | some d => d :: unescape escape? cs
    | none => '\\' :: unescape escape? (c :: cs)
  | c :: cs => c :: unescape escape? cs
  | [] => []

/-- Cuts a comment off, with the blanks in front of it. -/
def cutComment : List Char → List Char
  | [] => []
  | c :: cs =>
    if isBlank c && (cs.dropWhile isBlank).head? == some '#' then [] else c :: cutComment cs

/-- The value that starts a text, and the rest. -/
def readBareValue : List Char → Except (List Char) (String × List Char)
  | '\'' :: cs =>
    match readQuoted '\'' cs with
    | some (body, rest) => .ok (String.ofList (unescape singleEscape? body), rest)
    | none => .error ('\'' :: cs)
  | '"' :: cs =>
    match readQuoted '"' cs with
    | some (body, rest) => .ok (String.ofList (unescape doubleEscape? body), rest)
    | none => .error ('"' :: cs)
  | cs =>
    .ok (String.ofList (Text.trimEnd (cutComment (cs.takeWhile (· ≠ '\n')))),
      cs.dropWhile (· ≠ '\n'))

/-- The value that follows an equals sign, and the rest.  It is empty where blanks
and a comment follow. -/
def readValue (cs : List Char) : Except (List Char) (String × List Char) :=
  match cs, skipSpaces cs with
  | c :: _, '#' :: rest => if isSpace c then .ok ("", '#' :: rest) else readBareValue cs
  | _, cs => readBareValue cs

/-! ## Lines -/

/-- What follows a comment, if there is one, and the end of the line. -/
def endLine (cs : List Char) : Except (List Char) (List Char) :=
  let cs' :=
    match skipSpaces cs with
    | '#' :: rest => rest.dropWhile (· ≠ '\n')
    | _ => cs
  match skipSpaces cs' with
  | [] => .ok []
  | '\n' :: rest => .ok rest
  | _ => .error cs'

/-- A binding and what follows it; where there is none, the place at which that was
noticed. -/
def readBinding (cs : List Char) : Except (List Char) (Option Binding × List Char) := do
  let (name?, cs) ← readName (skipExport cs)
  let (value?, cs) ←
    match skipSpaces cs with
    | '=' :: rest =>
      match readValue rest with
      | .ok (v, rest) => .ok (some v, rest)
      | .error cs => .error cs
    | cs => .ok (none, cs)
  let rest ← endLine cs
  return (name?.map fun name => (name, value?), rest)

/-- The bindings of a file; each takes a character or more. -/
def readBindings : (steps : Nat) → List Char → List Binding
  | 0, _ => []
  | steps + 1, cs =>
    match cs.dropWhile isBlank with
    | [] => []
    | cs =>
      match readBinding cs with
      | .ok (some b, rest) => b :: readBindings steps rest
      | .ok (none, rest) => readBindings steps rest
      | .error rest => readBindings steps (nextLine rest)

/-! ## References -/

/-- The name and the default of a reference, after the dollar sign and the brace,
and the rest. -/
def readReference? (cs : List Char) : Option (String × Option String × List Char) :=
  let isName := fun c : Char => c ≠ '}' && c ≠ ':'
  let name := String.ofList (cs.takeWhile isName)
  match cs.dropWhile isName with
  | '}' :: rest => some (name, none, rest)
  | ':' :: '-' :: rest =>
    match rest.dropWhile (· ≠ '}') with
    | _ :: after => some (name, some (String.ofList (rest.takeWhile (· ≠ '}'))), after)
    | [] => none
  | _ => none

/-- Replaces the references of a value; each takes a character or more. -/
def expand (valueOf : String → Option (Option String)) : (steps : Nat) → List Char → List Char
  | 0, cs => cs
  | _, [] => []
  | steps + 1, '$' :: '{' :: cs =>
    match readReference? cs with
    | some (name, default?, rest) =>
      let v :=
        match valueOf name with
        | some v? => v?.getD ""
        | none => default?.getD ""
      v.toList ++ expand valueOf steps rest
    | none => '$' :: expand valueOf steps ('{' :: cs)
  | steps + 1, c :: cs => c :: expand valueOf steps cs

/-- The variables that bindings set, one after the other. -/
def resolve (environment : TextMap String) :
    List Binding → TextMap (Option String) → TextMap (Option String)
  | [], vars => vars
  | (name, value?) :: rest, vars =>
    let valueOf := fun k =>
      match vars.get? k with
      | some v? => some v?
      | none => (environment.get? k).map some
    let value? := value?.map fun v =>
      String.ofList (expand valueOf v.length v.toList)
    resolve environment rest (vars.insert name value?)

/-- A text without the byte order mark that it may start with. -/
def withoutMark : List Char → List Char
  | '\uFEFF' :: cs => cs
  | cs => cs

/-- The variables that a file sets. -/
def assignments (environment : TextMap String) (text : String) : TextMap (Option String) :=
  let cs := unifyLineEnds (withoutMark text.toList)
  resolve environment (readBindings (cs.length + 1) cs) .empty

end ConnectionCatalog.Dotenv
