/-!
# The shortest decimal that reads back

A finite floating point number other than zero is `mantissa · 2 ^ exponent`.
The reals that read back as it form an interval around it, which reaches half
way to each neighbour and holds its ends exactly when the mantissa is even.
Among the decimals in that interval the shortest are the ones to print, and of
those the nearest to the number; of two equally near the larger is taken.

If some point of a decimal grid lies in the interval, one of the number's two
neighbours on that grid does.  So it is enough to try, for one digit, two
digits and so on up to seventeen, the neighbour below and the neighbour above.
All comparisons are between natural numbers: both sides are brought to a
common scale first, in units of a quarter of `2 ^ exponent`.
-/
namespace Templating
namespace Decimal

/-- A positive number `0.d₁d₂… · 10 ^ place`, its digits without zeros at the
end. -/
structure Digits where
  /-- The digits, first the most significant. -/
  digits : List Char
  /-- The power of ten before whose place the digits begin. -/
  place : Int
  deriving Repr, DecidableEq

/-- The digits of `n · 10 ^ exponent`. -/
def Digits.ofScaled (n : Nat) (exponent : Int) : Digits :=
  let digits := Nat.toDigits 10 n
  ⟨(digits.reverse.dropWhile (· == '0')).reverse, digits.length + exponent⟩

/-- A positive number `mantissa · 2 ^ exponent` of binary floating point. -/
structure Dyadic where
  mantissa : Nat
  exponent : Int
  /-- Whether the neighbour below is half as far away as the one above. -/
  narrowBelow : Bool
  deriving Repr, DecidableEq

namespace Dyadic

/-- Take apart the magnitude of a finite number of double precision, given by
its eleven exponent bits and its fifty-two fraction bits. -/
def ofFields (exponentBits fraction : Nat) : Dyadic :=
  if exponentBits = 0 then ⟨fraction, -1074, false⟩
  else ⟨Nat.pow 2 52 + fraction, (exponentBits : Int) - 1075, fraction = 0 && exponentBits > 1⟩

/-- What a count of quarter units is multiplied by to compare it with a count
of steps of the grid `10 ^ step`. -/
def unitScale (d : Dyadic) (step : Int) : Nat :=
  Nat.pow 2 (d.exponent - 2).toNat * Nat.pow 10 (-step).toNat

/-- What a count of steps of the grid `10 ^ step` is multiplied by to compare
it with a count of quarter units. -/
def stepScale (d : Dyadic) (step : Int) : Nat :=
  Nat.pow 10 step.toNat * Nat.pow 2 (2 - d.exponent).toNat

/-- The least `k` for which the number is below `10 ^ k`. -/
def place (d : Dyadic) : Int :=
  let numerator := 4 * d.mantissa * d.unitScale 0
  let denominator := d.stepScale 0
  if denominator ≤ numerator then (Nat.toDigits 10 (numerator / denominator)).length
  else 1 - (Nat.toDigits 10 ((denominator - 1) / numerator)).length

/-- Whether `a` may stand at or before `b` as an end of the interval. -/
def within (d : Dyadic) (a b : Nat) : Bool :=
  if d.mantissa % 2 = 0 then a ≤ b else a < b

/-- The point of the grid `10 ^ step` to print, if one reads back. -/
def hit? (d : Dyadic) (step : Int) : Option Nat :=
  let unit := d.unitScale step
  let scale := d.stepScale step
  let value := 4 * d.mantissa * unit
  let low := (4 * d.mantissa - if d.narrowBelow then 1 else 2) * unit
  let high := (4 * d.mantissa + 2) * unit
  let below := value / scale
  let takesBelow := d.within low (below * scale)
  let takesAbove := d.within ((below + 1) * scale) high
  match takesBelow, takesAbove with
  | false, false => none
  | true, false => some below
  | false, true => some (below + 1)
  | true, true =>
    if value - below * scale < (below + 1) * scale - value then some below else some (below + 1)

/-- The shortest digits that read back, the nearest of those. -/
def shortest (d : Dyadic) : Digits :=
  let place := d.place
  let found := (List.range 17).findSome? fun (i : Nat) =>
    let step := place - (i + 1)
    (d.hit? step).map fun n => Digits.ofScaled n step
  found.getD (Digits.ofScaled (4 * d.mantissa * d.unitScale (place - 17) /
    d.stepScale (place - 17)) (place - 17))

end Dyadic
end Decimal
end Templating
