import FeatureFlags.Text.Digits

/-!
# Strings and blanks of TOML

The four kinds of string, keys, and what may stand between values. Each reader takes
what it knows from the front of the text and returns the rest.
-/

namespace FeatureFlags.Toml

def isBlank (c : Char) : Bool := c = ' ' || c = '\t'

def skipBlanks (cs : List Char) : List Char := cs.dropWhile isBlank

/-- Whether a character may stand in a comment or in a string of one line. -/
def isPlain (c : Char) : Bool := c = '\t' || (' ' ≤ c && c ≠ '\x7f')

/-- The rest of a text after a line end at its front. -/
def lineEnd? : List Char → Option (List Char)
  | '\n' :: rest => some rest
  | '\r' :: '\n' :: rest => some rest
  | _ => none

/-- The rest of a text after a comment, if one begins it. -/
def skipComment : List Char → List Char
  | '#' :: rest => rest.dropWhile isPlain
  | cs => cs

/-- The rest of a text after blanks, comments and line ends. -/
def skipLines : Nat → List Char → List Char
  | 0, cs => cs
  | fuel + 1, cs =>
    let cs := skipComment (skipBlanks cs)
    match lineEnd? cs with
    | some rest => skipLines fuel rest
    | none => cs

/-- What must follow an expression: blanks, perhaps a comment, and the end of the line
    or of the text. -/
def endLine (cs : List Char) : Option (List Char) :=
  match skipComment (skipBlanks cs) with
  | [] => some []
  | cs => lineEnd? cs

/-- The rest of a text after blanks and line ends. -/
def skipEmptyLines : Nat → List Char → List Char
  | 0, cs => cs
  | fuel + 1, cs =>
    let cs := skipBlanks cs
    match lineEnd? cs with
    | some rest => skipEmptyLines fuel rest
    | none => cs

/-! ## Escapes -/

/-- The character of a code point that is one. -/
def charOf? (n : Nat) : Option Char :=
  if n.isValidChar then some (Char.ofNat n) else none

/-- The character of an escape after its backslash. -/
def readEscape : List Char → Option (Char × List Char)
  | 'b' :: rest => some ('\x08', rest)
  | 't' :: rest => some ('\t', rest)
  | 'n' :: rest => some ('\n', rest)
  | 'f' :: rest => some ('\x0c', rest)
  | 'r' :: rest => some ('\r', rest)
  | 'e' :: rest => some ('\x1b', rest)
  | '"' :: rest => some ('"', rest)
  | '\\' :: rest => some ('\\', rest)
  | 'x' :: rest => hex 2 rest
  | 'u' :: rest => hex 4 rest
  | 'U' :: rest => hex 8 rest
  | _ => none
where
  hex (width : Nat) (cs : List Char) : Option (Char × List Char) := do
    let digits := cs.take width
    if digits.length = width then
      some (← charOf? (← hexValue? digits), cs.drop width)
    else none

/-! ## Strings

Each reader begins after the opening quotes and keeps what it has read in reverse. -/

def readBasic (read : List Char) : Nat → List Char → Option (String × List Char)
  | 0, _ => none
  | fuel + 1, cs =>
    match cs with
    | '"' :: rest => some (String.ofList read.reverse, rest)
    | '\\' :: rest => do
      let (c, rest) ← readEscape rest
      readBasic (c :: read) fuel rest
    | c :: rest => if isPlain c then readBasic (c :: read) fuel rest else none
    | [] => none

def readLiteral (cs : List Char) : Option (String × List Char) :=
  let (text, rest) := cs.span fun c => isPlain c && c ≠ '\''
  match rest with
  | '\'' :: rest => some (String.ofList text, rest)
  | _ => none

/-- The run of quotes at the front of a text that closes a string of several lines: of
    up to five the last three, those before them being part of the string. -/
def closingQuotes (quote : Char) (cs : List Char) : Option (List Char × List Char) :=
  let run := min 5 (cs.takeWhile (· = quote)).length
  if 3 ≤ run then some (List.replicate (run - 3) quote, cs.drop run) else none

/-- Strings of several lines, with or without escapes. A line end is kept as it is
    written. A backslash at the end of a line takes away all blanks and line ends up to
    the next character. -/
def readLines (quote : Char) (escapes : Bool) (read : List Char) :
    Nat → List Char → Option (String × List Char)
  | 0, _ => none
  | fuel + 1, cs =>
    match closingQuotes quote cs with
    | some (last, rest) => some (String.ofList (read.reverse ++ last), rest)
    | none =>
      match cs with
      | [] => none
      | '\r' :: '\n' :: rest => readLines quote escapes ('\n' :: '\r' :: read) fuel rest
      | c :: rest =>
        if c = '\\' ∧ escapes then
          match lineEnd? (skipBlanks rest) with
          | some rest => readLines quote escapes read fuel (skipEmptyLines rest.length rest)
          | none => do
            let (c, rest) ← readEscape rest
            readLines quote escapes (c :: read) fuel rest
        else if c = '\n' ∨ isPlain c then readLines quote escapes (c :: read) fuel rest
        else none

/-- A string of any kind. The first line end of a string of several lines is no part of
    it. -/
def readString? (cs : List Char) : Option (String × List Char) :=
  match cs with
  | '"' :: '"' :: '"' :: rest => readLines '"' true [] cs.length ((lineEnd? rest).getD rest)
  | '"' :: rest => readBasic [] cs.length rest
  | '\'' :: '\'' :: '\'' :: rest => readLines '\'' false [] cs.length ((lineEnd? rest).getD rest)
  | '\'' :: rest => readLiteral rest
  | _ => none

/-! ## Keys -/

def isKeyChar (c : Char) : Bool := c.isAlphanum || c = '_' || c = '-'

/-- One key, bare or in quotes on one line. -/
def readKey (cs : List Char) : Option (String × List Char) :=
  match cs with
  | '"' :: rest => readBasic [] cs.length rest
  | '\'' :: rest => readLiteral rest
  | _ =>
    let (name, rest) := cs.span isKeyChar
    if name.isEmpty then none else some (String.ofList name, rest)

/-- Up to so many keys with dots between them, and blanks around them. -/
def readDotted : Nat → List Char → Option (List String × List Char)
  | 0, _ => none
  | keys + 1, cs => do
    let (key, rest) ← readKey (skipBlanks cs)
    match skipBlanks rest with
    | '.' :: rest => do
      let (more, rest) ← readDotted keys rest
      some (key :: more, rest)
    | rest => some ([key], rest)

/-- How deep arrays and inline tables may nest, and how many keys may be joined by dots. -/
def maxDepth : Nat := 80

/-- A key, or keys with dots between them. -/
def readKeys (cs : List Char) : Option (List String × List Char) := readDotted maxDepth cs

end FeatureFlags.Toml
