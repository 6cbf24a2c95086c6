import SwiftDecl.Decimal.Style
import SwiftDecl.Text.Basic

/-!
# Numbers

A number of a document is an integer or a floating-point number. Its text is not always the one it
was read from.
-/

namespace SwiftDecl

namespace Json

/-- A number as read. -/
inductive Number where
  | integer (value : Int)
  | float (negative : Bool) (magnitude : Decimal.Binary64)
deriving DecidableEq

/-- A float is written positionally from 0.00001 on and below 10^16. -/
def floatStyle : Decimal.Style :=
  ⟨-5, 15⟩

/-- The text of a number. -/
def Number.text : Number → Text
  | .integer value =>
    if value < 0 then '-' :: Text.ofNat value.natAbs else Text.ofNat value.natAbs
  | .float negative magnitude =>
    (if negative then ['-'] else []) ++ floatStyle.write magnitude.shortest

end Json

end SwiftDecl
