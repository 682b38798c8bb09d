import FeatureFlags.Decimal.Shortest

/-!
# Layout of decimals

How the digits of a number are set out as text. The decisions of a format are
the fields of one record.
-/

namespace FeatureFlags

/-- Where positional notation begins and ends: a number whose first digit stands
    at place `k` is written positionally when `lowest ≤ k ≤ highest`, and as a
    power of ten otherwise. -/
structure DecimalLayout where
  lowest : Int
  highest : Int

namespace DecimalLayout

def zeros (n : Nat) : String := String.ofList (List.replicate n '0')

/-- Digits with a point, always with at least one digit on either side. -/
def positional (digits : String) (exponent : Int) : String :=
  let point : Int := digits.length + exponent
  if point ≤ 0 then "0." ++ zeros (-point).toNat ++ digits
  else if 0 ≤ exponent then digits ++ zeros exponent.toNat ++ ".0"
  else
    let cs := digits.toList
    String.ofList (cs.take point.toNat) ++ "." ++ String.ofList (cs.drop point.toNat)

/-- One digit before the point, and a signed power of ten. -/
def scientific (digits : String) (exponent : Int) : String :=
  let place : Int := digits.length - 1 + exponent
  let mantissa := match digits.toList with
    | [] => ""
    | [c] => c.toString
    | c :: rest => c.toString ++ "." ++ String.ofList rest
  mantissa ++ "e" ++ (if place < 0 then "-" else "+") ++ toString place.natAbs

/-- The text of a number. -/
def render (layout : DecimalLayout) (x : Binary64) : String :=
  let sign := if x.negative then "-" else ""
  if x.isZero then sign ++ "0.0"
  else
    let d := x.shortest
    let digits := toString d.digits
    let place : Int := digits.length - 1 + d.exponent
    if layout.lowest ≤ place ∧ place ≤ layout.highest then sign ++ positional digits d.exponent
    else sign ++ scientific digits d.exponent

end DecimalLayout

end FeatureFlags
