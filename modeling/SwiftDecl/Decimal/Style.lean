import SwiftDecl.Decimal.Shortest
import SwiftDecl.Text.Basic

/-!
# Writing a decimal

A decimal is written positionally while its leading digit stands near the point, and else with an
exponent. A style says how near.
-/

namespace SwiftDecl

namespace Decimal

/-- Which decimals are written positionally: those whose leading digit has an exponent from
`positionalFrom` to `positionalTo`. -/
structure Style where
  positionalFrom : Int
  positionalTo : Int

/-- A decimal without exponent, with at least one digit on either side of the point. -/
def positional (digits : Text) (exponent : Int) : Text :=
  let whole := (digits.length : Int) + exponent
  if 0 ≤ exponent then digits ++ List.replicate exponent.toNat '0' ++ ".0".toList
  else if 0 < whole then digits.take whole.toNat ++ '.' :: digits.drop whole.toNat
  else "0.".toList ++ List.replicate (-whole).toNat '0' ++ digits

/-- A decimal with one digit before the point, no point after a lone digit, and the exponent always
with a sign. -/
def withExponent (digits : Text) (leading : Int) : Text :=
  let fraction := digits.drop 1
  digits.take 1 ++ (if fraction.isEmpty then [] else '.' :: fraction)
    ++ ['e', if leading < 0 then '-' else '+'] ++ Text.ofNat leading.natAbs

/-- A decimal in a style. -/
def Style.write (style : Style) (s : Scientific) : Text :=
  let digits := Text.ofNat s.coefficient
  let leading := (digits.length : Int) - 1 + s.exponent
  if style.positionalFrom ≤ leading ∧ leading ≤ style.positionalTo then
    positional digits s.exponent
  else withExponent digits leading

end Decimal

end SwiftDecl
