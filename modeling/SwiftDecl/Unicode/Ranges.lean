/-!
# Sets of code points

The shapes in which the character tables are written: plain ranges, and strides that step over
every other code point, as the alternating capitals and small letters of many scripts do.
-/

namespace SwiftDecl

namespace Unicode

/-- The code points from `first` to `last`, both included. -/
structure CodeRange where
  first : Nat
  last : Nat

/-- Whether a code point lies in the range. -/
def CodeRange.contains (r : CodeRange) (n : Nat) : Bool :=
  r.first ≤ n && n ≤ r.last

/-- The code points `first`, `first + step`, and so on up to `last`. -/
structure Stride where
  first : Nat
  last : Nat
  step : Nat

/-- Whether a code point is one of the stride's. -/
def Stride.contains (s : Stride) (n : Nat) : Bool :=
  s.first ≤ n && n ≤ s.last && (n - s.first) % s.step == 0

end Unicode

end SwiftDecl
