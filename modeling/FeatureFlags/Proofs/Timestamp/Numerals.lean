import FeatureFlags.Timestamp
import Mathlib.Algebra.Ring.Nat

/-!
# Numbers of a fixed width

Decimal digits of a given number are determined by their value, so that a number below a power
of ten has one notation with that many digits (`Timestamp.eq_padded`). Reading so many digits takes
this notation from the front of a text, and nothing else (`readDigits_eq_some_iff`).
-/

namespace FeatureFlags

variable {c : Char} {digits digits' cs rest : List Char} {width n : Nat}

theorem toNat_of_isDigit (digit : c.isDigit = true) : 48 ≤ c.toNat ∧ c.toNat ≤ 57 := by
  simpa [Char.isDigit, UInt32.le_iff_toNat_le] using digit

theorem digitsValue_eq (digits : List Char) : digitsValue digits = Nat.ofDigitChars 10 digits 0 :=
  Nat.ofDigitChars_eq_foldl.symm

theorem digitsValue_append (high low : List Char) :
    digitsValue (high ++ low) = 10 ^ low.length * digitsValue high + digitsValue low := by
  rw [digitsValue_eq, digitsValue_eq, digitsValue_eq, Nat.ofDigitChars_append]
  exact Nat.ofDigitChars_eq_ofDigitChars_zero

@[simp] theorem digitsValue_zeros (zeros : Nat) : digitsValue (List.replicate zeros '0') = 0 := by
  rw [digitsValue_eq, Nat.ofDigitChars_replicate_zero, Nat.mul_zero]

theorem digitsValue_cons (c : Char) (rest : List Char) :
    digitsValue (c :: rest) = 10 ^ rest.length * (c.toNat - 48) + digitsValue rest := by
  have first : digitsValue [c] = c.toNat - 48 := by simp [digitsValue]
  rw [← List.singleton_append, digitsValue_append, first]

theorem digitsValue_lt (all : ∀ c ∈ digits, c.isDigit = true) :
    digitsValue digits < 10 ^ digits.length := by
  induction digits with
  | nil => simp [digitsValue]
  | cons c rest ih =>
    have first := toNat_of_isDigit (all c (by simp))
    have others := ih fun d member => all d (by simp [member])
    have most : 10 ^ rest.length * (c.toNat - 48) ≤ 10 ^ rest.length * 9 :=
      Nat.mul_le_mul_left _ (by omega)
    rw [digitsValue_cons, List.length_cons, Nat.pow_succ]
    omega

/-- Equally many digits of one value are the same. -/
theorem eq_of_digitsValue_eq (all : ∀ c ∈ digits, c.isDigit = true)
    (all' : ∀ c ∈ digits', c.isDigit = true) (length : digits.length = digits'.length)
    (same : digitsValue digits = digitsValue digits') : digits = digits' := by
  induction digits generalizing digits' with
  | nil => exact (List.length_eq_zero_iff.1 length.symm).symm
  | cons c rest ih =>
    cases digits' with
    | nil => cases length
    | cons c' rest' =>
      have places : rest.length = rest'.length := Nat.succ.inj length
      have below := digitsValue_lt fun d member => all d (List.mem_cons_of_mem c member)
      have below' := digitsValue_lt fun d member => all' d (List.mem_cons_of_mem c' member)
      rw [digitsValue_cons, digitsValue_cons, ← places] at same
      rw [← places] at below'
      -- Both sides are quotient and remainder by the same power of ten.
      have quotient : c.toNat - 48 = c'.toNat - 48 := by
        have power : 0 < 10 ^ rest.length := Nat.pow_pos (by decide)
        have divided := congrArg (· / 10 ^ rest.length) same
        simpa only [Nat.mul_add_div power, Nat.div_eq_of_lt below, Nat.div_eq_of_lt below',
          Nat.add_zero] using divided
      have first : c = c' := by
        have digit := toNat_of_isDigit (all c (by simp))
        have digit' := toNat_of_isDigit (all' c' (by simp))
        exact Char.toNat_inj.1 (by omega)
      rw [quotient] at same
      have others : rest = rest' :=
        ih (fun d member => all d (by simp [member])) (fun d member => all' d (by simp [member]))
          places (by omega)
      rw [first, others]

namespace Timestamp

theorem isDigit_of_mem_padded (member : c ∈ padded width n) : c.isDigit = true := by
  rw [padded, List.mem_append] at member
  rcases member with zero | digit
  · rw [List.eq_of_mem_replicate zero]
    rfl
  · exact Nat.isDigit_of_mem_toDigits (by decide) (by decide) digit

@[simp] theorem digitsValue_padded (width n : Nat) : digitsValue (padded width n) = n := by
  rw [digitsValue_eq, padded, Nat.ofDigitChars_append, Nat.ofDigitChars_replicate_zero,
    Nat.mul_zero, Nat.ofDigitChars_ten_toDigits]

theorem length_padded (positive : 0 < width) (bound : n < 10 ^ width) :
    (padded width n).length = width := by
  have fits : (Nat.toDigits 10 n).length ≤ width :=
    (Nat.length_toDigits_le_iff (by decide) positive).2 bound
  rw [padded, List.length_append, List.length_replicate]
  omega

/-- So many digits are the notation of their value. -/
theorem eq_padded (all : ∀ c ∈ digits, c.isDigit = true) (positive : 0 < digits.length) :
    digits = padded digits.length (digitsValue digits) := by
  have bound := digitsValue_lt all
  apply eq_of_digitsValue_eq all (fun c => isDigit_of_mem_padded)
  · rw [length_padded positive bound]
  · rw [digitsValue_padded]

end Timestamp

open Timestamp

/-- Reading digits takes the notation of a number from the front of a text. -/
theorem readDigits_eq_some_iff (positive : 0 < width) :
    readDigits width cs = some (n, rest) ↔ n < 10 ^ width ∧ cs = padded width n ++ rest := by
  constructor
  · intro read
    simp only [readDigits, Option.ite_none_right_eq_some, Option.some.injEq, Prod.mk.injEq] at read
    obtain ⟨⟨length, all⟩, rfl, rfl⟩ := read
    rw [List.all_eq_true] at all
    have bound := digitsValue_lt all
    have spelled := eq_padded all (by omega)
    rw [length] at bound spelled
    exact ⟨bound, by rw [← spelled, List.take_append_drop]⟩
  · rintro ⟨bound, rfl⟩
    have length := length_padded positive bound
    have front : (padded width n ++ rest).take width = padded width n := by
      rw [List.take_append_of_le_length (by omega), List.take_of_length_le (by omega)]
    have back : (padded width n ++ rest).drop width = rest := by
      rw [List.drop_append_of_le_length (by omega), List.drop_of_length_le (by omega),
        List.nil_append]
    have all : (padded width n).all Char.isDigit = true :=
      List.all_eq_true.2 fun c => isDigit_of_mem_padded
    simp only [readDigits, front, back, length, all, digitsValue_padded, and_self, if_true]

theorem readDigits_bind_eq_some_iff {α : Type} {next : Nat × List Char → Option α} {a : α}
    (positive : 0 < width) :
    (readDigits width cs).bind next = some a ↔
      ∃ n rest, n < 10 ^ width ∧ cs = padded width n ++ rest ∧ next (n, rest) = some a := by
  simp only [Option.bind_eq_some_iff, Prod.exists, readDigits_eq_some_iff positive, and_assoc]

theorem readDigits_padded (positive : 0 < width) (bound : n < 10 ^ width) (rest : List Char) :
    readDigits width (padded width n ++ rest) = some (n, rest) :=
  (readDigits_eq_some_iff positive).2 ⟨bound, rfl⟩

@[simp] theorem readChar_cons (c : Char) (rest : List Char) :
    readChar c (c :: rest) = some rest := by
  rw [readChar, if_pos rfl]

theorem readChar_eq_some_iff : readChar c cs = some rest ↔ cs = c :: rest := by
  cases cs with
  | nil => simp [readChar]
  | cons d cs => simp [readChar]

/-- Reading digits after a character that has to be there. -/
theorem readChar_readDigits_iff {α : Type} {next : Nat × List Char → Option α} {a : α}
    (positive : 0 < width) :
    (readChar c cs).bind (fun cs => (readDigits width cs).bind next) = some a ↔
      ∃ n rest, n < 10 ^ width ∧ cs = c :: (padded width n ++ rest) ∧ next (n, rest) = some a := by
  rw [Option.bind_eq_some_iff]
  simp only [readChar_eq_some_iff, readDigits_bind_eq_some_iff positive]
  constructor
  · rintro ⟨_, rfl, n, rest, bound, rfl, continued⟩
    exact ⟨n, rest, bound, rfl, continued⟩
  · rintro ⟨n, rest, bound, rfl, continued⟩
    exact ⟨_, rfl, n, rest, bound, rfl, continued⟩

end FeatureFlags
