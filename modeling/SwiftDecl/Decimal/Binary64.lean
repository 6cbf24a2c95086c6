/-!
# Binary floating point

The non-negative numbers of the 64-bit format, held exactly: a significand of at most 53 bits times
a power of two. Arithmetic is that of exact ratios, rounded once to the nearest such number, a tie
going to the even significand.
-/

namespace SwiftDecl

namespace Decimal

/-- The number `significand * 2 ^ exponent`. -/
structure Binary64 where
  significand : Nat
  exponent : Int
deriving DecidableEq

namespace Binary64

/-- The smallest exponent, that of the numbers nearest to zero. -/
def leastExponent : Int :=
  -1074

/-- The largest exponent of a 53-bit significand. -/
def greatestExponent : Int :=
  971

/-- Zero. -/
def zero : Binary64 :=
  ⟨0, leastExponent⟩

/-- The nearest whole number to a ratio, a tie going to the even one. -/
def roundedQuotient (num den : Nat) : Nat :=
  let quotient := num / den
  let twice := 2 * (num % den)
  if den < twice || (twice == den && quotient % 2 == 1) then quotient + 1 else quotient

/-- The exponent of the leading binary digit of a positive ratio. -/
def leadingExponent (num den : Nat) : Int :=
  let guess : Int := (Nat.log2 num : Int) - (Nat.log2 den : Int)
  if den * Nat.pow 2 guess.toNat ≤ num * Nat.pow 2 (-guess).toNat then guess else guess - 1

/-- The nearest number to a ratio, or `none` if it is too large to have one. -/
def ofRatio? (num den : Nat) : Option Binary64 :=
  if num = 0 then some zero
  else
    let exponent := max (leadingExponent num den - 52) leastExponent
    let significand :=
      roundedQuotient (num * Nat.pow 2 (-exponent).toNat) (den * Nat.pow 2 exponent.toNat)
    let carried : Binary64 :=
      if significand = Nat.pow 2 53 then ⟨Nat.pow 2 52, exponent + 1⟩ else ⟨significand, exponent⟩
    if greatestExponent < carried.exponent then none else some carried

/-- The product of two numbers, rounded. -/
def mul? (a b : Binary64) : Option Binary64 :=
  let exponent := a.exponent + b.exponent
  ofRatio? (a.significand * b.significand * Nat.pow 2 exponent.toNat)
    (Nat.pow 2 (-exponent).toNat)

/-- The quotient of two numbers, rounded. -/
def div? (a b : Binary64) : Option Binary64 :=
  let exponent := a.exponent - b.exponent
  ofRatio? (a.significand * Nat.pow 2 exponent.toNat)
    (b.significand * Nat.pow 2 (-exponent).toNat)

end Binary64

end Decimal

end SwiftDecl
