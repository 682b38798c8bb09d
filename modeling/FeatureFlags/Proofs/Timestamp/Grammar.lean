import FeatureFlags.Proofs.Timestamp.Numerals
import Mathlib.Data.List.DropRight
import Mathlib.Data.List.TakeDrop
import Mathlib.Data.List.TakeWhile

/-!
# The grammar of timestamps

A timestamp can be spelled in many ways (`Timestamp.Spelling`): with any one character between date
and time, with a fraction of any length, with its offset written as a letter if it is zero, and as
second 60 if it stands in for one. A text is read as a timestamp exactly if it is one of its
spellings (`Timestamp.ofText?_eq_some_iff`). It is written in the only spelling that leaves nothing
to choose (`Timestamp.eq_render_iff`).
-/

namespace FeatureFlags

namespace Timestamp

variable {cs rest fraction zone : List Char} {nanosecond : Nat} {offset : Int}

/-- No fraction, or a point and any number of digits: their fraction of a second, cut to
    nanoseconds. -/
inductive FractionOf : Nat → List Char → Prop
  | none : FractionOf 0 []
  | digits {digits : List Char} (nonempty : digits ≠ [])
      (all : ∀ c ∈ digits, c.isDigit = true) :
      FractionOf (digitsValue digits * 10 ^ 9 / 10 ^ digits.length) ('.' :: digits)

/-- A letter for UTC, or a sign with hours and minutes. -/
inductive OffsetOf : Int → List Char → Prop
  | utc {c : Char} (letter : c = 'Z' ∨ c = 'z') : OffsetOf 0 [c]
  | east {hours minutes : Nat} (hours_lt : hours < 24) (minutes_lt : minutes < 60) :
      OffsetOf (60 * hours + minutes) ('+' :: padded 2 hours ++ ':' :: padded 2 minutes)
  | west {hours minutes : Nat} (hours_lt : hours < 24) (minutes_lt : minutes < 60) :
      OffsetOf (-(60 * hours + minutes)) ('-' :: padded 2 hours ++ ':' :: padded 2 minutes)

/-- The second and its fraction that a clock shows at a time of day. What it shows as second 60 is
    the last nanosecond of a minute with which a month ends in UTC. -/
inductive Shows (date : Date) (offset : Int) (time : TimeOfDay) : Nat → Nat → Prop
  | plain : Shows date offset time time.second time.nanosecond
  | leap {nanosecond : Nat} (last_second : time.second = 59)
      (last_nanosecond : time.nanosecond = 999999999)
      (last_minute : endsMonth date time.hour time.minute offset = true) :
      Shows date offset time 60 nanosecond

/-- A way to spell a timestamp. -/
structure Spelling (stamp : Timestamp) where
  separator : Char
  second : Nat
  nanosecond : Nat
  fraction : List Char
  zone : List Char
  ascii : separator.toNat < 128
  fractionOf : FractionOf nanosecond fraction
  offsetOf : OffsetOf stamp.offset zone
  shows : Shows stamp.date stamp.offset stamp.time second nanosecond

/-- The text of a spelling. -/
def Spelling.text {stamp : Timestamp} (spelling : Spelling stamp) : String :=
  String.ofList <|
    padded 4 stamp.date.year ++ '-' :: padded 2 stamp.date.month ++ '-'
      :: padded 2 stamp.date.day ++ spelling.separator :: padded 2 stamp.time.hour ++ ':'
      :: padded 2 stamp.time.minute ++ ':' :: padded 2 spelling.second
      ++ spelling.fraction ++ spelling.zone

/-- The spelling without a choice: with `T`, with no second 60, with no digit in the fraction that
    does not count, and with `Z` for an offset that is zero. -/
structure Spelling.Normal {stamp : Timestamp} (spelling : Spelling stamp) : Prop where
  separator : spelling.separator = 'T'
  second : spelling.second < 60
  trimmed : spelling.fraction.getLast? ≠ some '0'
  nanoseconds : spelling.fraction.length ≤ 10
  zone : stamp.offset = 0 → spelling.zone = ['Z']

/-! ## Offsets -/

/-- An offset begins with a character of its own, at which a fraction ends. -/
theorem OffsetOf.exists_cons (spelled : OffsetOf offset zone) :
    ∃ c more, zone = c :: more ∧ c.isDigit = false ∧ c ≠ '.' := by
  cases spelled with
  | utc letter =>
    rcases letter with rfl | rfl
    · exact ⟨'Z', [], rfl, by decide, by decide⟩
    · exact ⟨'z', [], rfl, by decide, by decide⟩
  | east => exact ⟨'+', _, rfl, by decide, by decide⟩
  | west => exact ⟨'-', _, rfl, by decide, by decide⟩

theorem readOffset_eq_some_iff :
    readOffset cs = some (offset, rest) ↔ ∃ zone, OffsetOf offset zone ∧ cs = zone ++ rest := by
  have two : 0 < 2 := by decide
  constructor
  · intro read
    cases cs with
    | nil => cases read
    | cons c cs =>
      rw [readOffset] at read
      split at read
      · next letter =>
        cases read
        exact ⟨[c], .utc letter, rfl⟩
      · split at read
        · next sign =>
          simp only [Option.bind_eq_bind, Option.bind_eq_some_iff, Prod.exists,
            readDigits_eq_some_iff two, readChar_eq_some_iff, Option.ite_none_right_eq_some,
            Option.some.injEq, Prod.mk.injEq] at read
          obtain ⟨hours, cs, ⟨-, rfl⟩, cs, rfl, minutes, cs, ⟨-, rfl⟩, ⟨hours_lt, minutes_lt⟩,
            rfl, rfl⟩ := read
          rcases sign with rfl | rfl
          · exact ⟨_, .east hours_lt minutes_lt, by simp⟩
          · exact ⟨_, .west hours_lt minutes_lt, by simp⟩
        · cases read
  · rintro ⟨zone, spelled, rfl⟩
    cases spelled with
    | utc letter => simp [readOffset, letter]
    | @east hours minutes hours_lt minutes_lt =>
      have first := readDigits_padded two (show hours < 10 ^ 2 by omega)
      have second := readDigits_padded two (show minutes < 10 ^ 2 by omega) rest
      simp [readOffset, first, second, hours_lt, minutes_lt]
    | @west hours minutes hours_lt minutes_lt =>
      have first := readDigits_padded two (show hours < 10 ^ 2 by omega)
      have second := readDigits_padded two (show minutes < 10 ^ 2 by omega) rest
      simp [readOffset, first, second, hours_lt, minutes_lt]

/-- What is written of an offset spells it. -/
theorem offsetOf_renderOffset (bound : offset.natAbs < 24 * 60) :
    OffsetOf offset (renderOffset offset) := by
  have hours_lt : offset.natAbs / 60 < 24 := by omega
  have minutes_lt : offset.natAbs % 60 < 60 := by omega
  rw [renderOffset]
  split
  · next zero =>
    rw [zero]
    exact .utc (.inl rfl)
  · split
    · next negative =>
      have value : offset = -(60 * (offset.natAbs / 60 : Nat) + (offset.natAbs % 60 : Nat)) := by
        omega
      have spelled := OffsetOf.west hours_lt minutes_lt
      rwa [← value] at spelled
    · next positive =>
      have value : offset = 60 * (offset.natAbs / 60 : Nat) + (offset.natAbs % 60 : Nat) := by
        omega
      have spelled := OffsetOf.east hours_lt minutes_lt
      rwa [← value] at spelled

/-- An offset that is zero can be spelled in several ways, every other one as it is written. -/
theorem OffsetOf.eq_renderOffset (spelled : OffsetOf offset zone)
    (normal : offset = 0 → zone = ['Z']) : zone = renderOffset offset := by
  rw [renderOffset]
  split
  · next zero => exact normal zero
  · next nonzero =>
    cases spelled with
    | utc letter => exact absurd rfl nonzero
    | @east hours minutes hours_lt minutes_lt =>
      have sign : ¬ (60 * hours + minutes : Int) < 0 := by omega
      have high : (60 * hours + minutes : Int).natAbs / 60 = hours := by omega
      have low : (60 * hours + minutes : Int).natAbs % 60 = minutes := by omega
      rw [if_neg sign, high, low]
    | @west hours minutes hours_lt minutes_lt =>
      have sign : -(60 * hours + minutes : Int) < 0 := by omega
      have high : (-(60 * hours + minutes : Int)).natAbs / 60 = hours := by omega
      have low : (-(60 * hours + minutes : Int)).natAbs % 60 = minutes := by omega
      rw [if_pos sign, high, low]

/-! ## Fractions -/

/-- The first nine digits count, and missing ones are zeros. -/
theorem nanoseconds_eq {digits : List Char} (all : ∀ c ∈ digits, c.isDigit = true) :
    nanoseconds digits = digitsValue digits * 10 ^ 9 / 10 ^ digits.length := by
  rw [nanoseconds]
  rcases Nat.le_total digits.length 9 with short | long
  · have power : 10 ^ 9 = 10 ^ (9 - digits.length) * 10 ^ digits.length := by
      rw [← Nat.pow_add, Nat.sub_add_cancel short]
    rw [List.take_of_length_le short, digitsValue_append, List.length_replicate,
      digitsValue_zeros, Nat.add_zero, power, ← Nat.mul_assoc,
      Nat.mul_div_cancel _ (Nat.pow_pos (by decide)), Nat.mul_comm]
  · have cut : digitsValue (digits.drop 9) < 10 ^ (digits.length - 9) := by
      rw [← List.length_drop]
      exact digitsValue_lt fun c member => all c (List.mem_of_mem_drop member)
    have value : digitsValue digits =
        10 ^ (digits.length - 9) * digitsValue (digits.take 9) + digitsValue (digits.drop 9) := by
      rw [← List.length_drop, ← digitsValue_append, List.take_append_drop]
    have power : 10 ^ digits.length = 10 ^ (digits.length - 9) * 10 ^ 9 := by
      rw [← Nat.pow_add, Nat.sub_add_cancel long]
    rw [Nat.sub_eq_zero_of_le long, List.replicate_zero, List.append_nil, power,
      Nat.mul_div_mul_right _ _ (Nat.pow_pos (by decide)), value,
      Nat.mul_add_div (Nat.pow_pos (by decide)), Nat.div_eq_of_lt cut, Nat.add_zero]

theorem fractionOf_of_readFraction (read : readFraction cs = some (nanosecond, rest)) :
    ∃ fraction, FractionOf nanosecond fraction ∧ cs = fraction ++ rest := by
  rw [readFraction.eq_def] at read
  split at read
  · next cs =>
    simp only [List.span_eq_takeWhile_dropWhile, Option.ite_none_left_eq_some, Option.some.injEq,
      Prod.mk.injEq, List.isEmpty_iff] at read
    obtain ⟨nonempty, rfl, rfl⟩ := read
    have all : ∀ c ∈ cs.takeWhile Char.isDigit, c.isDigit = true := fun c =>
      List.mem_takeWhile_imp
    refine ⟨'.' :: cs.takeWhile Char.isDigit, ?_, ?_⟩
    · rw [nanoseconds_eq all]
      exact .digits nonempty all
    · rw [List.cons_append, List.takeWhile_append_dropWhile]
  · cases read
    exact ⟨[], .none, rfl⟩

/-- A fraction ends where the offset begins. -/
theorem readFraction_append (spelled : FractionOf nanosecond fraction)
    (zoned : OffsetOf offset zone) :
    readFraction (fraction ++ zone) = some (nanosecond, zone) := by
  obtain ⟨c, more, rfl, other, pointless⟩ := zoned.exists_cons
  cases spelled with
  | none =>
    rw [List.nil_append, readFraction.eq_def]
    split
    · next same =>
      cases same
      exact absurd rfl pointless
    · rfl
  | @digits digits nonempty all =>
    have front : (digits ++ c :: more).takeWhile Char.isDigit = digits := by
      rw [List.takeWhile_append_of_pos all, List.takeWhile_cons_of_neg (by simp [other]),
        List.append_nil]
    have back : (digits ++ c :: more).dropWhile Char.isDigit = c :: more := by
      rw [List.dropWhile_append_of_pos all, List.dropWhile_cons_of_neg (by simp [other])]
    rw [List.cons_append, readFraction]
    simp [List.span_eq_takeWhile_dropWhile, front, back, nonempty, nanoseconds_eq all]

theorem nanoseconds_of_zeros {digits : List Char} {zeros : Nat} (bound : nanosecond < 10 ^ 9)
    (whole : digits ++ List.replicate zeros '0' = padded 9 nanosecond) :
    nanoseconds digits = nanosecond := by
  have length : digits.length + zeros = 9 := by
    rw [← length_padded (show 0 < 9 by decide) bound, ← whole, List.length_append,
      List.length_replicate]
  have missing : 9 - digits.length = zeros := by omega
  rw [nanoseconds, List.take_of_length_le (by omega), missing, whole, digitsValue_padded]

theorem renderFraction_of_ne_zero (nonzero : nanosecond ≠ 0) :
    renderFraction nanosecond = '.' :: (padded 9 nanosecond).rdropWhile (· = '0') :=
  if_neg nonzero

/-- What is written of a fraction spells it. -/
theorem fractionOf_renderFraction (bound : nanosecond < 10 ^ 9) :
    FractionOf nanosecond (renderFraction nanosecond) := by
  by_cases zero : nanosecond = 0
  · rw [zero]
    exact .none
  · let kept := (padded 9 nanosecond).rdropWhile (· = '0')
    let cut := (padded 9 nanosecond).rtakeWhile (· = '0')
    have whole : kept ++ cut = padded 9 nanosecond := List.rdropWhile_append_rtakeWhile
    have zeros : cut = List.replicate cut.length '0' := by
      refine List.eq_replicate_of_mem fun c member => ?_
      simpa using List.mem_rtakeWhile_imp member
    have value : nanoseconds kept = nanosecond :=
      nanoseconds_of_zeros bound (by rw [← zeros, whole])
    have nonempty : kept ≠ [] := by
      intro empty
      rw [empty] at value
      exact zero value.symm
    have all : ∀ c ∈ kept, c.isDigit = true := fun c member =>
      isDigit_of_mem_padded (by rw [← whole]; exact List.mem_append_left _ member)
    have spelled := FractionOf.digits nonempty all
    rwa [← nanoseconds_eq all, value, ← renderFraction_of_ne_zero zero] at spelled

theorem getLast?_renderFraction_ne (nanosecond : Nat) :
    (renderFraction nanosecond).getLast? ≠ some '0' := by
  by_cases zero : nanosecond = 0
  · simp [zero, renderFraction]
  · rw [renderFraction_of_ne_zero zero, List.getLast?_cons]
    by_cases empty : (padded 9 nanosecond).rdropWhile (· = '0') = []
    · rw [empty]
      decide
    · have kept := List.rdropWhile_last_not _ _ empty
      rw [List.getLast?_eq_some_getLast empty]
      simpa using kept

theorem length_renderFraction_le (bound : nanosecond < 10 ^ 9) :
    (renderFraction nanosecond).length ≤ 10 := by
  by_cases zero : nanosecond = 0
  · simp [zero, renderFraction]
  · have front := List.rdropWhile_prefix (decide <| · = '0') (l := padded 9 nanosecond)
    have shorter := front.length_le
    rw [length_padded (by decide) bound] at shorter
    rw [renderFraction_of_ne_zero zero]
    exact Nat.succ_le_succ shorter

/-- Digits without a zero at their end are what is left of all nine. -/
theorem rdropWhile_padded {digits : List Char} (all : ∀ c ∈ digits, c.isDigit = true)
    (trimmed : digits.getLast? ≠ some '0') (short : digits.length ≤ 9) :
    (padded 9 (nanoseconds digits)).rdropWhile (· = '0') = digits := by
  let zeros := List.replicate (9 - digits.length) '0'
  have length : (digits ++ zeros).length = 9 := by
    rw [List.length_append, List.length_replicate]
    omega
  have whole : digits ++ zeros = padded 9 (digitsValue (digits ++ zeros)) := by
    have digital : ∀ c ∈ digits ++ zeros, c.isDigit = true := by
      intro c member
      rcases List.mem_append.1 member with kept | zero
      · exact all c kept
      · rw [List.eq_of_mem_replicate zero]
        rfl
    have spelled := eq_padded digital (by omega)
    rwa [length] at spelled
  have unended : ∀ nonempty : digits ≠ [], ¬ decide (digits.getLast nonempty = '0') = true := by
    intro nonempty
    rw [List.getLast?_eq_some_getLast nonempty] at trimmed
    simpa using trimmed
  have dropped : ∀ c ∈ zeros, decide (c = '0') = true := by
    intro c zero
    rw [List.eq_of_mem_replicate zero]
    rfl
  rw [nanoseconds, List.take_of_length_le short, ← whole, List.rdropWhile, List.reverse_append,
    List.dropWhile_append_of_pos fun c zero => dropped c (List.mem_reverse.1 zero)]
  exact List.rdropWhile_eq_self_iff.2 unended

/-- A fraction in which every digit counts is the one that is written. -/
theorem FractionOf.eq_renderFraction (spelled : FractionOf nanosecond fraction)
    (trimmed : fraction.getLast? ≠ some '0') (short : fraction.length ≤ 10) :
    fraction = renderFraction nanosecond := by
  cases spelled with
  | none => rfl
  | @digits digits nonempty all =>
    rw [List.getLast?_cons_of_ne_nil nonempty] at trimmed
    have kept := rdropWhile_padded all trimmed (Nat.le_of_succ_le_succ short)
    have positive : nanoseconds digits ≠ 0 := by
      intro zero
      rw [zero] at kept
      exact nonempty kept.symm
    rw [← nanoseconds_eq all, renderFraction_of_ne_zero positive, kept]

/-! ## Whole texts -/

theorem Date.of?_eq_some_iff {year month day : Nat} {date : Date} :
    Date.of? year month day = some date ↔
      year = date.year ∧ month = date.month ∧ day = date.day := by
  constructor
  · intro made
    rw [Date.of?] at made
    split at made
    · cases made
      exact ⟨rfl, rfl, rfl⟩
    · cases made
  · rintro ⟨rfl, rfl, rfl⟩
    rw [Date.of?, dif_pos ⟨date.year_lt, date.month_pos, date.month_le, date.day_pos, date.day_le⟩]

theorem TimeOfDay.of?_eq_some_iff {hour minute second nanosecond : Nat} {time : TimeOfDay} :
    TimeOfDay.of? hour minute second nanosecond = some time ↔
      hour = time.hour ∧ minute = time.minute ∧ second = time.second ∧
        nanosecond = time.nanosecond := by
  constructor
  · intro made
    rw [TimeOfDay.of?] at made
    split at made
    · cases made
      exact ⟨rfl, rfl, rfl, rfl⟩
    · cases made
  · rintro ⟨rfl, rfl, rfl, rfl⟩
    rw [TimeOfDay.of?, dif_pos ⟨time.hour_lt, time.minute_lt, time.second_lt, time.nanosecond_lt⟩]

theorem daysInMonth_le (year : Int) (month : Nat) : daysInMonth year month ≤ 31 := by
  unfold daysInMonth
  split
  · split <;> omega
  · split <;> omega

theorem Shows.second_le {date : Date} {time : TimeOfDay} {second : Nat}
    (shows : Shows date offset time second nanosecond) : second ≤ 60 := by
  have bound := time.second_lt
  cases shows <;> omega

theorem Shows.of_lt {date : Date} {time : TimeOfDay} {second : Nat}
    (shows : Shows date offset time second nanosecond) (plain : second < 60) :
    second = time.second ∧ nanosecond = time.nanosecond := by
  cases shows with
  | plain => exact ⟨rfl, rfl⟩
  | leap => exact absurd plain (Nat.lt_irrefl 60)

/-- The time of day that is made of what a clock shows, whatever is done with it then. -/
theorem clock_bind_eq_some_iff {α : Type} {date : Date} {hour minute second nanosecond : Nat}
    {next : TimeOfDay → Option α} {a : α} :
    (if second = 60 then
        if endsMonth date hour minute offset = true then
          (TimeOfDay.of? hour minute 59 999999999).bind next
        else none.bind next
      else (TimeOfDay.of? hour minute second nanosecond).bind next) = some a ↔
      ∃ time : TimeOfDay, hour = time.hour ∧ minute = time.minute ∧
        Shows date offset time second nanosecond ∧ next time = some a := by
  constructor
  · intro made
    split at made
    · next sixty =>
      split at made
      · next last =>
        simp only [Option.bind_eq_some_iff, TimeOfDay.of?_eq_some_iff] at made
        obtain ⟨time, ⟨rfl, rfl, second, nanosecond⟩, continued⟩ := made
        rw [sixty]
        exact ⟨time, rfl, rfl, .leap second.symm nanosecond.symm last, continued⟩
      · cases made
    · simp only [Option.bind_eq_some_iff, TimeOfDay.of?_eq_some_iff] at made
      obtain ⟨time, ⟨rfl, rfl, rfl, rfl⟩, continued⟩ := made
      exact ⟨time, rfl, rfl, .plain, continued⟩
  · rintro ⟨time, rfl, rfl, shows, continued⟩
    cases shows with
    | plain =>
      have bound := time.second_lt
      rw [if_neg (by omega), Option.bind_eq_some_iff]
      exact ⟨time, TimeOfDay.of?_eq_some_iff.2 ⟨rfl, rfl, rfl, rfl⟩, continued⟩
    | leap second nanosecond last =>
      rw [if_pos rfl, if_pos last, Option.bind_eq_some_iff]
      exact ⟨time, TimeOfDay.of?_eq_some_iff.2 ⟨rfl, rfl, second.symm, nanosecond.symm⟩, continued⟩

theorem exists_spelling_of_ofText? {text : String} {stamp : Timestamp}
    (read : ofText? text = some stamp) : ∃ spelling : stamp.Spelling, text = spelling.text := by
  have two : 0 < 2 := by decide
  have four : 0 < 4 := by decide
  unfold ofText? at read
  obtain ⟨year, cs, -, whole, afterYear⟩ := (readDigits_bind_eq_some_iff four).1 read
  obtain ⟨month, cs, -, rfl, afterMonth⟩ := (readChar_readDigits_iff two).1 afterYear
  obtain ⟨day, cs, -, rfl, afterDay⟩ := (readChar_readDigits_iff two).1 afterMonth
  dsimp only at afterDay
  split at afterDay
  · next separator cs =>
    split at afterDay
    · next ascii =>
      rw [Option.bind_eq_bind, Option.bind_some] at afterDay
      obtain ⟨hour, cs, -, rfl, afterHour⟩ := (readDigits_bind_eq_some_iff two).1 afterDay
      obtain ⟨minute, cs, -, rfl, afterMinute⟩ := (readChar_readDigits_iff two).1 afterHour
      obtain ⟨second, cs, -, rfl, afterSecond⟩ := (readChar_readDigits_iff two).1 afterMinute
      obtain ⟨⟨nanosecond, cs⟩, fractional, afterFraction⟩ := Option.bind_eq_some_iff.1 afterSecond
      obtain ⟨⟨offset, cs⟩, zonal, afterZone⟩ := Option.bind_eq_some_iff.1 afterFraction
      obtain ⟨date, dated, afterDate⟩ := Option.bind_eq_some_iff.1 afterZone
      obtain ⟨time, rfl, rfl, shows, made⟩ := clock_bind_eq_some_iff.1 afterDate
      obtain ⟨fraction, fractioned, rfl⟩ := fractionOf_of_readFraction fractional
      obtain ⟨zone, zoned, rfl⟩ := readOffset_eq_some_iff.1 zonal
      obtain ⟨rfl, rfl, rfl⟩ := Date.of?_eq_some_iff.1 dated
      simp only [Option.dite_none_right_eq_some, Option.some.injEq] at made
      obtain ⟨⟨-, rfl⟩, rfl⟩ := made
      refine ⟨⟨separator, second, nanosecond, fraction, zone, ascii, fractioned, zoned, shows⟩, ?_⟩
      rw [← String.toList_inj, whole]
      simp [Spelling.text]
    · cases afterDay
  · cases afterDay

/-- Every spelling of a timestamp is read as this timestamp. -/
theorem ofText?_text {stamp : Timestamp} (spelling : stamp.Spelling) :
    ofText? spelling.text = some stamp := by
  have two : 0 < 2 := by decide
  have four : 0 < 4 := by decide
  have days := daysInMonth_le stamp.date.year stamp.date.month
  have month_lt : stamp.date.month < 10 ^ 2 := by have := stamp.date.month_le; omega
  have day_lt : stamp.date.day < 10 ^ 2 := by have := stamp.date.day_le; omega
  have hour_lt : stamp.time.hour < 10 ^ 2 := by have := stamp.time.hour_lt; omega
  have minute_lt : stamp.time.minute < 10 ^ 2 := by have := stamp.time.minute_lt; omega
  have second_lt : spelling.second < 10 ^ 2 := by have := spelling.shows.second_le; omega
  have fraction := readFraction_append spelling.fractionOf spelling.offsetOf
  have zone : readOffset spelling.zone = some (stamp.offset, []) :=
    readOffset_eq_some_iff.2 ⟨spelling.zone, spelling.offsetOf, (List.append_nil _).symm⟩
  have date : Date.of? stamp.date.year stamp.date.month stamp.date.day = some stamp.date :=
    Date.of?_eq_some_iff.2 ⟨rfl, rfl, rfl⟩
  have whole : spelling.text.toList =
      padded 4 stamp.date.year ++ ('-' :: (padded 2 stamp.date.month ++ ('-' ::
        (padded 2 stamp.date.day ++ (spelling.separator :: (padded 2 stamp.time.hour ++ (':' ::
          (padded 2 stamp.time.minute ++ (':' :: (padded 2 spelling.second ++
            (spelling.fraction ++ spelling.zone))))))))))) := by
    simp [Spelling.text]
  unfold ofText?
  rw [whole]
  refine (readDigits_bind_eq_some_iff four).2 ⟨_, _, stamp.date.year_lt, rfl, ?_⟩
  refine (readChar_readDigits_iff two).2 ⟨_, _, month_lt, rfl, ?_⟩
  refine (readChar_readDigits_iff two).2 ⟨_, _, day_lt, rfl, ?_⟩
  dsimp only
  rw [if_pos spelling.ascii, Option.bind_eq_bind, Option.bind_some]
  refine (readDigits_bind_eq_some_iff two).2 ⟨_, _, hour_lt, rfl, ?_⟩
  refine (readChar_readDigits_iff two).2 ⟨_, _, minute_lt, rfl, ?_⟩
  refine (readChar_readDigits_iff two).2 ⟨_, _, second_lt, rfl, ?_⟩
  refine Option.bind_eq_some_iff.2 ⟨_, fraction, ?_⟩
  refine Option.bind_eq_some_iff.2 ⟨_, zone, ?_⟩
  refine Option.bind_eq_some_iff.2 ⟨_, date, ?_⟩
  refine clock_bind_eq_some_iff.2 ⟨stamp.time, rfl, rfl, spelling.shows, ?_⟩
  rw [dif_pos ⟨stamp.offset_lt, rfl⟩]

/-- A text is read as a timestamp exactly if it is one of its spellings. -/
theorem ofText?_eq_some_iff {text : String} {stamp : Timestamp} :
    ofText? text = some stamp ↔ ∃ spelling : stamp.Spelling, text = spelling.text := by
  constructor
  · exact exists_spelling_of_ofText?
  · rintro ⟨spelling, rfl⟩
    exact ofText?_text spelling

/-- The spelling in which a timestamp is written. -/
def Spelling.written (stamp : Timestamp) : stamp.Spelling where
  separator := 'T'
  second := stamp.time.second
  nanosecond := stamp.time.nanosecond
  fraction := renderFraction stamp.time.nanosecond
  zone := renderOffset stamp.offset
  ascii := by decide
  fractionOf := fractionOf_renderFraction stamp.time.nanosecond_lt
  offsetOf := offsetOf_renderOffset stamp.offset_lt
  shows := .plain

theorem Spelling.normal_written (stamp : Timestamp) : (written stamp).Normal where
  separator := rfl
  second := stamp.time.second_lt
  trimmed := getLast?_renderFraction_ne stamp.time.nanosecond
  nanoseconds := length_renderFraction_le stamp.time.nanosecond_lt
  zone := by
    intro zero
    change renderOffset stamp.offset = ['Z']
    rw [zero]
    rfl

/-- There is no other normal spelling than the one that is written. -/
theorem Spelling.text_eq_render {stamp : Timestamp} {spelling : stamp.Spelling}
    (normal : spelling.Normal) : spelling.text = stamp.render := by
  obtain ⟨second, nanosecond⟩ := spelling.shows.of_lt normal.second
  have fraction : spelling.fraction = renderFraction stamp.time.nanosecond := by
    rw [← nanosecond]
    exact spelling.fractionOf.eq_renderFraction normal.trimmed normal.nanoseconds
  have zone : spelling.zone = renderOffset stamp.offset :=
    spelling.offsetOf.eq_renderOffset normal.zone
  rw [text, normal.separator, second, fraction, zone, render]

theorem eq_render_iff {text : String} {stamp : Timestamp} :
    text = stamp.render ↔ ∃ spelling : stamp.Spelling, spelling.Normal ∧ text = spelling.text := by
  constructor
  · intro rendered
    exact ⟨.written stamp, Spelling.normal_written stamp, rendered⟩
  · rintro ⟨spelling, normal, rfl⟩
    exact Spelling.text_eq_render normal

end Timestamp

end FeatureFlags
