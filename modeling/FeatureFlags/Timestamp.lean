import FeatureFlags.Text.Digits

/-!
# Timestamps

Points in time in the calendar and clock of RFC 3339: a date, a time of day down to
nanoseconds, and the offset of the clock from UTC in minutes. What is read may be
spelled in many ways (any one character between date and time, a fraction of any
length, second 60 where UTC has one), and is written in one way.
-/

namespace FeatureFlags

def isLeapYear (year : Int) : Bool :=
  year % 4 = 0 && (year % 100 ≠ 0 || year % 400 = 0)

def daysInMonth (year : Int) (month : Nat) : Nat :=
  if month = 2 then (if isLeapYear year then 29 else 28)
  else if month = 4 ∨ month = 6 ∨ month = 9 ∨ month = 11 then 30
  else 31

/-- A day of the calendar with a year of four digits. -/
structure Date where
  year : Nat
  month : Nat
  day : Nat
  year_lt : year < 10000
  month_pos : 1 ≤ month
  month_le : month ≤ 12
  day_pos : 1 ≤ day
  day_le : day ≤ daysInMonth year month
  deriving DecidableEq

/-- A time of day. -/
structure TimeOfDay where
  hour : Nat
  minute : Nat
  second : Nat
  nanosecond : Nat
  hour_lt : hour < 24
  minute_lt : minute < 60
  second_lt : second < 60
  nanosecond_lt : nanosecond < 1000000000
  deriving DecidableEq

/-- A point in time, with the offset of its clock in minutes east of UTC. -/
structure Timestamp where
  date : Date
  time : TimeOfDay
  offset : Int
  offset_lt : offset.natAbs < 24 * 60
  deriving DecidableEq

def Date.of? (year month day : Nat) : Option Date :=
  if h : year < 10000 ∧ 1 ≤ month ∧ month ≤ 12 ∧ 1 ≤ day ∧ day ≤ daysInMonth year month then
    some ⟨year, month, day, h.1, h.2.1, h.2.2.1, h.2.2.2.1, h.2.2.2.2⟩
  else none

def TimeOfDay.of? (hour minute second nanosecond : Nat) : Option TimeOfDay :=
  if h : hour < 24 ∧ minute < 60 ∧ second < 60 ∧ nanosecond < 1000000000 then
    some ⟨hour, minute, second, nanosecond, h.1, h.2.1, h.2.2.1, h.2.2.2⟩
  else none

namespace Timestamp

/-! ## Writing -/

/-- A number in a fixed number of digits. -/
def padded (width n : Nat) : List Char :=
  let digits := Nat.toDigits 10 n
  List.replicate (width - digits.length) '0' ++ digits

/-- The fraction of a second without zeros at its end, and without a point if it is
    zero. -/
def renderFraction (nanosecond : Nat) : List Char :=
  if nanosecond = 0 then []
  else '.' :: ((padded 9 nanosecond).reverse.dropWhile (· = '0')).reverse

/-- `Z` for UTC, and a sign, hours and minutes for every other offset. -/
def renderOffset (offset : Int) : List Char :=
  if offset = 0 then ['Z']
  else
    (if offset < 0 then '-' else '+') :: padded 2 (offset.natAbs / 60) ++ ':'
      :: padded 2 (offset.natAbs % 60)

/-- The one way in which a timestamp is written. -/
def render (stamp : Timestamp) : String :=
  String.ofList <|
    padded 4 stamp.date.year ++ '-' :: padded 2 stamp.date.month ++ '-'
      :: padded 2 stamp.date.day ++ 'T' :: padded 2 stamp.time.hour ++ ':'
      :: padded 2 stamp.time.minute ++ ':' :: padded 2 stamp.time.second
      ++ renderFraction stamp.time.nanosecond ++ renderOffset stamp.offset

/-! ## Reading -/

/-- The nanoseconds of fraction digits, of which the first nine count. -/
def nanoseconds (digits : List Char) : Nat :=
  digitsValue (digits.take 9 ++ List.replicate (9 - digits.length) '0')

/-- A fraction, if there is one: a point and at least one digit. -/
def readFraction : List Char → Option (Nat × List Char)
  | '.' :: rest =>
    let (digits, rest) := rest.span Char.isDigit
    if digits.isEmpty then none else some (nanoseconds digits, rest)
  | cs => some (0, cs)

/-- `Z`, or a sign with hours and minutes. -/
def readOffset : List Char → Option (Int × List Char)
  | [] => none
  | c :: rest =>
    if c = 'Z' ∨ c = 'z' then some (0, rest)
    else if c = '+' ∨ c = '-' then do
      let (hours, rest) ← readDigits 2 rest
      let rest ← readChar ':' rest
      let (minutes, rest) ← readDigits 2 rest
      if hours < 24 ∧ minutes < 60 then
        let offset : Int := 60 * hours + minutes
        some (if c = '-' then -offset else offset, rest)
      else none
    else none

/-- Whether, in UTC, a minute of the clock is the last one of a month: the only one
    with a second 60. The last minute of the day in UTC belongs to the clock's own day
    or, on clocks to the east, to the day before. -/
def endsMonth (date : Date) (hour minute : Nat) (offset : Int) : Bool :=
  let minutes : Int := 60 * hour + minute - offset
  if minutes = 24 * 60 - 1 then date.day = daysInMonth date.year date.month
  else minutes = -1 ∧ date.day = 1

/-- The timestamp that a text spells. Second 60 becomes the last nanosecond of the
    second before. -/
def ofText? (text : String) : Option Timestamp := do
  let (year, cs) ← readDigits 4 text.toList
  let cs ← readChar '-' cs
  let (month, cs) ← readDigits 2 cs
  let cs ← readChar '-' cs
  let (day, cs) ← readDigits 2 cs
  let cs ← match cs with
    | c :: rest => if c.toNat < 128 then some rest else none
    | [] => none
  let (hour, cs) ← readDigits 2 cs
  let cs ← readChar ':' cs
  let (minute, cs) ← readDigits 2 cs
  let cs ← readChar ':' cs
  let (second, cs) ← readDigits 2 cs
  let (nanosecond, cs) ← readFraction cs
  let (offset, cs) ← readOffset cs
  let date ← Date.of? year month day
  let time ← if second = 60 then
      if endsMonth date hour minute offset then TimeOfDay.of? hour minute 59 999999999 else none
    else TimeOfDay.of? hour minute second nanosecond
  if h : offset.natAbs < 24 * 60 ∧ cs = [] then some ⟨date, time, offset, h.1⟩ else none

end Timestamp

end FeatureFlags
