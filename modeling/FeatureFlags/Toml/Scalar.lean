import FeatureFlags.Decimal.Binary64
import FeatureFlags.Timestamp
import FeatureFlags.Toml.Text
import FeatureFlags.Toml.Value

/-!
# Numbers, dates and truth values of TOML

The values that are written as one bare word. A word is taken whole and then told what
it is.
-/

namespace FeatureFlags.Toml

/-- The characters of bare words. -/
def isWordChar (c : Char) : Bool :=
  c.isAlphanum || c = '_' || c = '-' || c = '+' || c = '.' || c = ':'

/-- The digits of a run in which single underscores stand between digits. -/
def digitRun? (isDigit : Char → Bool) : List Char → Option (List Char)
  | [] => none
  | [c] => if isDigit c then some [c] else none
  | c :: '_' :: rest => if isDigit c then (digitRun? isDigit rest).map (c :: ·) else none
  | c :: rest => if isDigit c then (digitRun? isDigit rest).map (c :: ·) else none

/-- Whole digits: no zero before other digits. -/
def wholeDigits? (cs : List Char) : Option (List Char) := do
  match ← digitRun? Char.isDigit cs with
  | '0' :: _ :: _ => none
  | digits => some digits

/-- A word without the sign at its front. -/
def unsigned : List Char → Bool × List Char
  | '-' :: rest => (true, rest)
  | '+' :: rest => (false, rest)
  | cs => (false, cs)

/-- The value of digits in a base. -/
def baseValue? (base : Nat) (cs : List Char) : Option Nat := do
  let digits ← digitRun? (fun c => (hexDigit? c).any (· < base)) cs
  digits.foldlM (fun n c => return base * n + (← hexDigit? c)) 0

/-- An integer within 128 bits. -/
def bounded? (i : Int) : Option Int :=
  if -(1 <<< 127 : Nat) ≤ i ∧ i < (1 <<< 128 : Nat) then some i else none

/-- An integer in any of four bases; only decimals have a sign. -/
def integer? (word : List Char) : Option Int :=
  match word with
  | '0' :: 'x' :: rest => do bounded? (← baseValue? 16 rest)
  | '0' :: 'o' :: rest => do bounded? (← baseValue? 8 rest)
  | '0' :: 'b' :: rest => do bounded? (← baseValue? 2 rest)
  | _ => do
    let (negative, rest) := unsigned word
    let n : Int := digitsValue (← wholeDigits? rest)
    bounded? (if negative then -n else n)

/-- The digits after a character, if it stands in a word, and the word before it. -/
def splitAt? (isMark : Char → Bool) (word : List Char) : List Char × Option (List Char) :=
  match word.span (!isMark ·) with
  | (before, _ :: after) => (before, some after)
  | (before, []) => (before, none)

/-- Whether digits with a point `fraction` places before their end and a power of ten
    stay below the largest float. -/
def isFinite (digits : List Char) (fraction : Nat) (e : Int) : Bool :=
  let digits := digits.dropWhile (· = '0')
  let place : Int := digits.length - fraction + e
  if digits.isEmpty ∨ place < -400 then true
  else if 400 < place then false
  else
    let n := digitsValue digits
    let unit : Int := e - fraction
    (if 0 ≤ unit then Binary64.ofRatio? false (n * Nat.pow 10 unit.toNat) 1
      else Binary64.ofRatio? false n (Nat.pow 10 (-unit).toNat)).isSome

/-- Whether a word is a float: whole digits with a fraction, an exponent or both, or one
    of the two words. A float too large to be finite is none. -/
def isFloat (word : List Char) : Bool :=
  let (_, rest) := unsigned word
  if rest = ['i', 'n', 'f'] ∨ rest = ['n', 'a', 'n'] then true
  else
    let (number, power) := splitAt? (fun c => c = 'e' || c = 'E') rest
    let (whole, fraction) := splitAt? (· = '.') number
    let exponent : Option Int := match power with
      | none => some 0
      | some cs =>
        let (negative, cs) := unsigned cs
        (digitRun? Char.isDigit cs).map fun digits =>
          let n : Int := digitsValue digits
          if negative then -n else n
    let places : Option (List Char) := match fraction with
      | none => some []
      | some cs => digitRun? Char.isDigit cs
    match wholeDigits? whole, places, exponent with
    | some whole, some places, some e =>
      (power.isSome || fraction.isSome) && isFinite (whole ++ places) places.length e
    | _, _, _ => false

/-! ## Dates and times -/

/-- A date at the front of a word. -/
def readDate (cs : List Char) : Option (List Char) := do
  let (year, cs) ← readDigits 4 cs
  let cs ← readChar '-' cs
  let (month, cs) ← readDigits 2 cs
  let cs ← readChar '-' cs
  let (day, cs) ← readDigits 2 cs
  let _ ← Date.of? year month day
  some cs

/-- A time at the front of a word; the seconds may be missing. -/
def readTime (cs : List Char) : Option (List Char) := do
  let (hour, cs) ← readDigits 2 cs
  let cs ← readChar ':' cs
  let (minute, cs) ← readDigits 2 cs
  if 24 ≤ hour ∨ 60 ≤ minute then none
  else
    match cs with
    | ':' :: cs => do
      let (second, cs) ← readDigits 2 cs
      let (_, cs) ← Timestamp.readFraction cs
      if second ≤ 60 then some cs else none
    | cs => some cs

/-- Whether a word is a date, a time, or both, with or without an offset. -/
def isDatetime (word : List Char) : Bool :=
  match readDate word with
  | some [] => true
  | some (c :: rest) =>
    (c = 'T' || c = 't' || c = ' ') &&
      match readTime rest with
      | some [] => true
      | some rest => (Timestamp.readOffset rest).any (·.2.isEmpty)
      | none => false
  | none => readTime word = some []

/-- The word at the front of a text. A date and a time may have one space between them. -/
def readWord (cs : List Char) : List Char × List Char :=
  let (word, rest) := cs.span isWordChar
  match readDate word, rest with
  | some [], ' ' :: d :: rest' =>
    if d.isDigit then
      let (time, rest) := (d :: rest').span isWordChar
      (word ++ ' ' :: time, rest)
    else (word, rest)
  | _, _ => (word, rest)

/-- The value of a word. -/
def wordValue? (word : List Char) : Option Value :=
  if word = ['t', 'r', 'u', 'e'] then some (.boolean true)
  else if word = ['f', 'a', 'l', 's', 'e'] then some (.boolean false)
  else if isDatetime word then some .datetime
  else if isFloat word then some .float
  else (integer? word).map .integer

end FeatureFlags.Toml
