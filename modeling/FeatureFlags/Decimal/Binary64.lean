/-!
# Binary floating-point numbers

Finite IEEE 754 binary64 numbers, kept as a sign and the bit pattern of the
magnitude, so that equality and every operation below are exact statements
about naturals. A magnitude of pattern `p` is `significand p * 2 ^ exponent p`,
and larger patterns are larger numbers.
-/

namespace FeatureFlags

/-- A finite binary64 number. `magnitude` is the bit pattern without the sign:
    an 11-bit exponent field above a 52-bit fraction. -/
structure Binary64 where
  negative : Bool
  magnitude : Nat
  finite : magnitude < 2047 <<< 52
  deriving DecidableEq

/-- The natural nearest to `num / den`; of two equally near ones the even one. -/
def roundHalfEven (num den : Nat) : Nat :=
  let below := num / den
  let left := 2 * (num % den)
  if left < den then below
  else if den < left then below + 1
  else below + below % 2

namespace Binary64

/-- Positive zero. -/
def zero : Binary64 := ⟨false, 0, by decide⟩

instance : Inhabited Binary64 := ⟨zero⟩

/-- The same number with the sign given. -/
def withSign (x : Binary64) (negative : Bool) : Binary64 := { x with negative }

def isZero (x : Binary64) : Bool := x.magnitude == 0

/-- The integer `m` of the magnitude `m * 2 ^ e`. -/
def significand (x : Binary64) : Nat :=
  if x.magnitude < 1 <<< 52 then x.magnitude else (1 <<< 52) + x.magnitude % (1 <<< 52)

/-- The integer `e` of the magnitude `m * 2 ^ e`. -/
def exponent (x : Binary64) : Int :=
  if x.magnitude < 1 <<< 52 then -1074 else x.magnitude / (1 <<< 52) - 1075

/-- `m * 2 ^ e` as a quotient of naturals. -/
def scaled (m : Nat) (e : Int) : Nat × Nat :=
  if 0 ≤ e then (m <<< e.toNat, 1) else (m, 1 <<< (-e).toNat)

/-- The magnitude as a quotient of naturals. -/
def ratio (x : Binary64) : Nat × Nat := scaled x.significand x.exponent

/-- The exponent at which `num / den` has a significand of 53 bits, or the least
    exponent there is. -/
def exponentOf (num den : Nat) : Int :=
  let guess : Int := Nat.log2 num - Nat.log2 den
  let reached := if 0 ≤ guess then den <<< guess.toNat ≤ num else den ≤ num <<< (-guess).toNat
  max (-1074) (if reached then guess - 52 else guess - 53)

/-- The number nearest to `num / den`, ties to the even significand; `none` where
    that is beyond the largest finite number. -/
def ofRatio? (negative : Bool) (num den : Nat) : Option Binary64 :=
  if num = 0 then some ⟨negative, 0, by decide⟩
  else
    let e := exponentOf num den
    let m := if 0 ≤ e then roundHalfEven num (den <<< e.toNat)
      else roundHalfEven (num <<< (-e).toNat) den
    let pattern := ((e + 1074).toNat <<< 52) + m
    if h : pattern < 2047 <<< 52 then some ⟨negative, pattern, h⟩ else none

/-- The nearest number to `10 ^ n`; powers up to `10 ^ 308` are finite. -/
def powerOfTen? (n : Nat) : Option Binary64 := ofRatio? false (Nat.pow 10 n) 1

/-- The rounded product, signed as `x` is. -/
def times? (x y : Binary64) : Option Binary64 :=
  ofRatio? x.negative (x.ratio.1 * y.ratio.1) (x.ratio.2 * y.ratio.2)

/-- The rounded quotient by a number other than zero, signed as `x` is. -/
def over? (x y : Binary64) : Option Binary64 :=
  ofRatio? x.negative (x.ratio.1 * y.ratio.2) (x.ratio.2 * y.ratio.1)

/-- `x / 10 ^ n`, where every whole `10 ^ 308` is one division of its own.
    After the second such division of a 64-bit significand nothing is left. -/
def downTen? (x : Binary64) (n : Nat) : Option Binary64 :=
  if n ≤ 308 then powerOfTen? n >>= x.over?
  else
    let whole := (n - 1) / 308
    let step : Option Binary64 → Option Binary64 := fun y => do (← y).over? (← powerOfTen? 308)
    if 2 ≤ whole then some ⟨x.negative, 0, by decide⟩
    else do (← step (some x)).over? (← powerOfTen? (n - 308))

/-- `x * 10 ^ e`. A positive power is one rounded product. -/
def scaleTen? (x : Binary64) (e : Int) : Option Binary64 :=
  if x.isZero then some x
  else if e < 0 then x.downTen? (-e).toNat
  else if e ≤ 308 then powerOfTen? e.toNat >>= x.times?
  else none

/-- Reading of a decimal literal `significand * 10 ^ e`: the significand is
    rounded first and the scaling is rounded again. `none` on overflow. -/
def ofDecimal? (negative : Bool) (significand : Nat) (e : Int) : Option Binary64 := do
  (← ofRatio? negative significand 1).scaleTen? e

/-- Whether two numbers are equal in value: the two zeros are. -/
def same (x y : Binary64) : Bool := x == y || (x.isZero && y.isZero)

end Binary64

end FeatureFlags
