import FeatureFlags.Decimal.Binary64

/-!
# Shortest decimals

The fewest decimal digits that read back as a given binary64 number. A decimal
reads back when it lies in the interval of reals that round to the number; the
ends belong to that interval when the significand is even. For 1, 2, … 17 digits
the two neighbours of the number on that decimal grid are tried; the first grid
with a hit wins, and of two hits the nearer one.
-/

namespace FeatureFlags

/-- The positive decimal `digits * 10 ^ exponent`. -/
structure Decimal where
  digits : Nat
  exponent : Int
  deriving DecidableEq, Inhabited

namespace Decimal

/-- The decimal as a quotient of naturals. -/
def ratio (d : Decimal) : Nat × Nat :=
  if 0 ≤ d.exponent then (d.digits * Nat.pow 10 d.exponent.toNat, 1)
  else (d.digits, Nat.pow 10 (-d.exponent).toNat)

/-- The same decimal without zeros at the end of its digits, up to `fuel` of them. -/
def strip : Nat → Decimal → Decimal
  | 0, d => d
  | fuel + 1, d =>
    if d.digits ≠ 0 ∧ d.digits % 10 = 0 then strip fuel ⟨d.digits / 10, d.exponent + 1⟩ else d

/-- Comparison of two quotients by their cross products. -/
def ratioLt (a b : Nat × Nat) : Bool := a.1 * b.2 < b.1 * a.2

/-- The place of the first digit: the `k` with `10 ^ k ≤ num / den < 10 ^ (k + 1)`.
    No number is smaller than `10 ^ -400`. -/
def leadingPlace (num den : Nat) : Int :=
  ((Nat.toDigits 10 (num * Nat.pow 10 400 / den)).length : Int) - 401

end Decimal

namespace Binary64

/-- The reals that round to a positive number: the two ends as quotients. Just
    above a power of two the lower neighbour is only half as far away. -/
def interval (x : Binary64) : (Nat × Nat) × (Nat × Nat) :=
  let m := x.significand
  let e := x.exponent - 2
  let narrow := m = 1 <<< 52 ∧ 1 <<< 53 ≤ x.magnitude
  (scaled (if narrow then 4 * m - 1 else 4 * m - 2) e, scaled (4 * m + 2) e)

/-- Whether the decimal rounds to the magnitude of `x`. -/
def readsBack (x : Binary64) (d : Decimal) : Bool :=
  let (low, high) := x.interval
  if x.significand % 2 = 0 then !Decimal.ratioLt d.ratio low && !Decimal.ratioLt high d.ratio
  else Decimal.ratioLt low d.ratio && Decimal.ratioLt d.ratio high

/-- The decimal of `count` digits that reads back and is nearest, if one does;
    an exact tie goes to the even digit. -/
def nearest? (x : Binary64) (place : Int) (count : Nat) : Option Decimal :=
  let (num, den) := x.ratio
  let unit : Int := place + 1 - count
  let (n, d) := if 0 ≤ unit then (num, den * Nat.pow 10 unit.toNat) else (num * Nat.pow 10 (-unit).toNat, den)
  let below : Decimal := ⟨n / d, unit⟩
  let above : Decimal := ⟨n / d + 1, unit⟩
  match x.readsBack below, x.readsBack above with
  | true, true => some (if roundHalfEven n d = below.digits then below else above)
  | true, false => some below
  | false, true => some above
  | false, false => none

/-- The shortest decimal that reads back as the magnitude of `x`, which is not zero. -/
def shortest (x : Binary64) : Decimal :=
  let (num, den) := x.ratio
  let place := Decimal.leadingPlace num den
  let found := (List.range 17).findSome? fun n => x.nearest? place (n + 1)
  (found.getD ⟨num * Nat.pow 10 1074 / den, -1074⟩).strip 1100

end Binary64

end FeatureFlags
