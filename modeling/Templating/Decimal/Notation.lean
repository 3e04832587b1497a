import Templating.Decimal.Shortest

/-!
# Written forms of floating point numbers

A notation says for which magnitudes a number is written out by places and for
which with an exponent, and whether a whole number keeps its point.  The digits
are the shortest that read back in every notation.  Zero keeps its sign, a
number that is not a number has none.
-/
namespace Templating
namespace Decimal

/-- The choices of a written form. -/
structure Notation where
  /-- Whether a number whose digits begin at this place is written out. -/
  isPositional : Int → Bool
  /-- Whether a whole number written out ends in a point and a zero. -/
  keepsPoint : Bool

namespace Notation

/-- Text of template output: always written out, whole numbers without a
point. -/
def output : Notation := ⟨fun _ => true, false⟩

/-- Text of summaries: written out from `10 ^ -4` up to below `10 ^ 16`, whole
numbers with a point and a zero. -/
def summary : Notation := ⟨fun place => -3 ≤ place && place ≤ 16, true⟩

end Notation

namespace Digits

/-- Write the digits out by places. -/
def positional (d : Digits) (keepsPoint : Bool) : String :=
  let length : Int := d.digits.length
  if d.place ≤ 0 then
    "0." ++ String.ofList (List.replicate (-d.place).toNat '0' ++ d.digits)
  else if length ≤ d.place then
    String.ofList (d.digits ++ List.replicate (d.place - length).toNat '0') ++
      (if keepsPoint then ".0" else "")
  else
    String.ofList (d.digits.take d.place.toNat) ++ "." ++
      String.ofList (d.digits.drop d.place.toNat)

/-- Write the digits with an exponent. -/
def exponential (d : Digits) : String :=
  let mark := if d.digits.length ≤ 1 then "" else "."
  String.ofList (d.digits.take 1) ++ mark ++ String.ofList (d.digits.drop 1) ++ "e" ++
    toString (d.place - 1)

/-- Write the digits in a notation. -/
def render (d : Digits) (form : Notation) : String :=
  if form.isPositional d.place then d.positional form.keepsPoint else d.exponential

end Digits

/-- Write a number, given by its bits, in a notation. -/
def render (form : Notation) (x : Float) : String :=
  let bits := x.toBits.toNat
  let sign := if bits >>> 63 = 0 then "" else "-"
  let exponentBits := (bits >>> 52) % 2048
  let fraction := bits % Nat.pow 2 52
  if exponentBits = 2047 then
    if fraction = 0 then sign ++ "inf" else "NaN"
  else if exponentBits = 0 && fraction = 0 then
    sign ++ "0" ++ if form.keepsPoint then ".0" else ""
  else
    sign ++ (Dyadic.ofFields exponentBits fraction).shortest.render form

end Decimal
end Templating
