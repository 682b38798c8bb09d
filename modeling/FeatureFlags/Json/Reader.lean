import FeatureFlags.Json.Document
import FeatureFlags.Text.Digits

/-!
# Reading JSON texts

The grammar of JSON: a text is one value between blanks. Each reader takes what it
knows from the front of the text and returns the rest.
-/

namespace FeatureFlags.Json

def isBlank (c : Char) : Bool := c == ' ' || c == '\t' || c == '\n' || c == '\r'

def skipBlanks (cs : List Char) : List Char := cs.dropWhile isBlank

/-- The character of a one-letter escape. -/
def simpleEscape? : Char → Option Char
  | '"' => some '"'
  | '\\' => some '\\'
  | '/' => some '/'
  | 'b' => some '\x08'
  | 'f' => some '\x0c'
  | 'n' => some '\n'
  | 'r' => some '\r'
  | 't' => some '\t'
  | _ => none

/-- The second unit of a surrogate pair at the front of a text. -/
def trailingUnit? : List Char → Option Nat
  | '\\' :: 'u' :: a :: b :: c :: d :: _ => do
    let unit ← hexValue? [a, b, c, d]
    if 0xdc00 ≤ unit ∧ unit ≤ 0xdfff then some unit else none
  | _ => none

/-- The rest of a string after its opening quote. The text read so far is kept in
    reverse; it is `none` once half of a surrogate pair was met. -/
def readString (read : Option (List Char)) : List Char → Option (Option String × List Char)
  | [] => none
  | '"' :: rest => some (read.map fun cs => String.ofList cs.reverse, rest)
  | '\\' :: 'u' :: a :: b :: c :: d :: rest => do
    let unit ← hexValue? [a, b, c, d]
    if 0xd800 ≤ unit ∧ unit ≤ 0xdbff then
      match trailingUnit? rest with
      | some trail =>
        let code := 0x10000 + (unit - 0xd800) * 0x400 + (trail - 0xdc00)
        readString (read.map (Char.ofNat code :: ·)) (rest.drop 6)
      | none => readString none rest
    else if 0xdc00 ≤ unit ∧ unit ≤ 0xdfff then readString none rest
    else readString (read.map (Char.ofNat unit :: ·)) rest
  | '\\' :: c :: rest => do
    let c ← simpleEscape? c
    readString (read.map (c :: ·)) rest
  | c :: rest =>
    if c < ' ' ∨ c = '\\' then none else readString (read.map (c :: ·)) rest
termination_by cs => cs.length
decreasing_by all_goals simp; try omega

/-- As many leading digits as keep a significand below `2 ^ 64`, and the digits left. -/
def takeDigits (significand : Nat) : List Char → Nat × List Char
  | [] => (significand, [])
  | c :: rest =>
    let next := 10 * significand + (c.toNat - '0'.toNat)
    if next < UInt64.size then takeDigits next rest else (significand, c :: rest)

/-- The integer of digits without a point or an exponent: an integer from `-2 ^ 63`
    to `2 ^ 64 - 1` other than minus zero is kept as it is. -/
def integerNumber? (negative : Bool) (digits : List Char) : Option Number :=
  let (n, left) := takeDigits 0 digits
  if left.isEmpty ∧ !negative then some (.int n)
  else if left.isEmpty ∧ n ≠ 0 ∧ n ≤ 1 <<< 63 then some (.int (-n))
  else (Binary64.ofDecimal? negative n left.length).map .float

/-- The float of whole digits, fraction digits and exponent. Whole digits beyond the
    significand count as places, fraction digits beyond it as nothing. -/
def floatNumber? (negative : Bool) (whole fraction : List Char) (e : Int) : Option Number :=
  let (n, left) := takeDigits 0 whole
  let (n, cut) := takeDigits n fraction
  let places : Int := left.length - (fraction.length - cut.length : Int)
  (Binary64.ofDecimal? negative n (places + e)).map .float

/-- The exponent of a number literal: nothing, or a mark, a sign and digits. -/
def readExponent (cs : List Char) : Option (Option Int × List Char) :=
  let digits (negative : Bool) (cs : List Char) : Option (Option Int × List Char) :=
    let (ds, rest) := cs.span Char.isDigit
    if ds.isEmpty then none
    else
      let n : Int := digitsValue ds
      some (some (if negative then -n else n), rest)
  match cs with
  | 'e' :: '+' :: rest | 'E' :: '+' :: rest => digits false rest
  | 'e' :: '-' :: rest | 'E' :: '-' :: rest => digits true rest
  | 'e' :: rest | 'E' :: rest => digits false rest
  | _ => some (none, cs)

/-- A number literal after its sign: its first digit is `0` only if that is all of
    its whole digits. -/
def readNumber (negative : Bool) (cs : List Char) : Option (Option Number × List Char) := do
  let (whole, rest) := cs.span Char.isDigit
  match whole with
  | [] => none
  | '0' :: _ :: _ => none
  | _ => pure ()
  let (fraction, rest) ← match rest with
    | '.' :: rest =>
      let (ds, rest) := rest.span Char.isDigit
      if ds.isEmpty then none else some (some ds, rest)
    | _ => some (none, rest)
  let (e, rest) ← readExponent rest
  match fraction, e with
  | none, none => some (integerNumber? negative whole, rest)
  | _, _ => some (floatNumber? negative whole (fraction.getD []) (e.getD 0), rest)

mutual

/-- A value at the front of a text, blanks before it passed over. -/
def readValue : Nat → List Char → Option (Document × List Char)
  | 0, _ => none
  | fuel + 1, cs =>
    match skipBlanks cs with
    | 'n' :: 'u' :: 'l' :: 'l' :: rest => some (.null, rest)
    | 't' :: 'r' :: 'u' :: 'e' :: rest => some (.bool true, rest)
    | 'f' :: 'a' :: 'l' :: 's' :: 'e' :: rest => some (.bool false, rest)
    | '"' :: rest => do
      let (s, rest) ← readString (some []) rest
      some (.string s, rest)
    | '[' :: rest =>
      match skipBlanks rest with
      | ']' :: rest => some (.array [], rest)
      | rest => do
        let (items, rest) ← readItems fuel rest
        some (.array items, rest)
    | '\x7b' :: rest =>
      match skipBlanks rest with
      | '\x7d' :: rest => some (.object .nil, rest)
      | rest => do
        let (entries, rest) ← readEntries fuel rest
        some (.object entries, rest)
    | '-' :: rest => do
      let (n, rest) ← readNumber true rest
      some (.number n, rest)
    | cs => do
      let (n, rest) ← readNumber false cs
      some (.number n, rest)

/-- The items of an array that is not empty, up to its closing bracket. -/
def readItems : Nat → List Char → Option (List Document × List Char)
  | 0, _ => none
  | fuel + 1, cs => do
    let (item, rest) ← readValue fuel cs
    match skipBlanks rest with
    | ',' :: rest => do
      let (items, rest) ← readItems fuel rest
      some (item :: items, rest)
    | ']' :: rest => some ([item], rest)
    | _ => none

/-- The members of an object that is not empty, up to its closing brace. -/
def readEntries : Nat → List Char → Option (Entries × List Char)
  | 0, _ => none
  | fuel + 1, cs =>
    match skipBlanks cs with
    | '"' :: rest => do
      let (key, rest) ← readString (some []) rest
      match skipBlanks rest with
      | ':' :: rest => do
        let (value, rest) ← readValue fuel rest
        match skipBlanks rest with
        | ',' :: rest => do
          let (entries, rest) ← readEntries fuel rest
          some (.cons key value entries, rest)
        | '\x7d' :: rest => some (.cons key value .nil, rest)
        | _ => none
      | _ => none
    | _ => none

end

/-- The document of a text. A value takes a character, and every step into one at
    most two levels of the readers above. -/
def document? (text : String) : Option Document := do
  let cs := text.toList
  let (doc, rest) ← readValue (2 * cs.length + 2) cs
  if (skipBlanks rest).isEmpty then some doc else none

/-- The value of a text, of whatever depth. -/
def ofText? (text : String) : Option Json := do
  (← document? text).toJson? text.length

end FeatureFlags.Json
