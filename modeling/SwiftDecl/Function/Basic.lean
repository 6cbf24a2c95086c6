import SwiftDecl.Parameter

/-!
# Functions

A function as it is rendered. It comes out of a draft that has passed its checks.
-/

namespace SwiftDecl

/-- A Swift function. -/
structure Function where
  comments : List Text
  isStatic : Bool
  name : Identifier
  /-- What stands between the angle brackets of the generics clause. -/
  generics : Option Text
  params : List Parameter
  throws : Bool
  returns : TypeRef
  /-- The statements, as they are. -/
  body : Text

end SwiftDecl
