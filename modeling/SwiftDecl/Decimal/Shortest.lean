import SwiftDecl.Decimal.Binary64

/-!
# The shortest decimal of a number

The reals that round to a floating-point number form an interval around it. Of the decimal grids
`c * 10 ^ exponent` the coarsest with a point in that interval is taken, and of its points there the
one nearest to the number. So no shorter decimal reads back as the number, and no other of that
length lies nearer.
-/

namespace SwiftDecl

namespace Decimal

/-- The decimal `coefficient * 10 ^ exponent`. -/
structure Scientific where
  coefficient : Nat
  exponent : Int
deriving DecidableEq

namespace Binary64

/-- Four times the significand of the lower end of the rounding interval. Right above a power of two
the numbers below lie closer together, so the interval reaches only half as far down. -/
def lowerEnd (x : Binary64) : Nat :=
  if x.significand = Nat.pow 2 52 ∧ leastExponent < x.exponent then 4 * x.significand - 1
  else 4 * x.significand - 2

/-- Four times the significand of the upper end of the rounding interval. -/
def upperEnd (x : Binary64) : Nat :=
  4 * x.significand + 2

/-- The point of a decimal grid nearest to the number, if its rounding interval holds one. The ends
belong to the interval if the significand is even, and of two points at one distance the even one is
taken. -/
def nearestOnGrid? (x : Binary64) (exponent : Int) : Option Nat :=
  let quarter := x.exponent - 2
  let unit := Nat.pow 2 quarter.toNat * Nat.pow 10 (-exponent).toNat
  let step := Nat.pow 2 (-quarter).toNat * Nat.pow 10 exponent.toNat
  let value := 4 * x.significand * unit
  let holds (c : Nat) : Bool :=
    if x.significand % 2 = 0 then x.lowerEnd * unit ≤ c * step && c * step ≤ x.upperEnd * unit
    else x.lowerEnd * unit < c * step && c * step < x.upperEnd * unit
  let below := value / step
  let fromBelow := value - below * step
  let fromAbove := (below + 1) * step - value
  match holds below, holds (below + 1) with
  | true, true =>
    if fromBelow < fromAbove || (fromBelow == fromAbove && below % 2 == 0) then some below
    else some (below + 1)
  | true, false => some below
  | false, true => some (below + 1)
  | false, false => none

/-- The exponents of the grids to try, the coarsest first: from that of the largest number down to
one finer than the distance between neighbouring numbers anywhere. -/
def gridExponents : List Int :=
  (List.range 633).map fun (k : Nat) => 308 - (k : Int)

/-- The shortest decimal that reads back as the number. -/
def shortest (x : Binary64) : Scientific :=
  if x.significand = 0 then ⟨0, 0⟩
  else
    (gridExponents.findSome? fun g => (x.nearestOnGrid? g).map (⟨·, g⟩)).getD ⟨0, 0⟩

end Binary64

end Decimal

end SwiftDecl
