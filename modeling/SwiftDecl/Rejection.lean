import SwiftDecl.Identifier.Basic
import SwiftDecl.Text.Quoted

/-!
# Rejected declarations

Every check that a declaration can fail is made before there is a function, so whatever has been
built can be rendered.
-/

namespace SwiftDecl

/-- Why a declaration is rejected. Functions are named by their identifiers. -/
inductive Rejection where
  /-- The name of the function holds no identifier character. -/
  | emptyName (raw : Text)
  /-- A generics clause was given, and it is blank. -/
  | emptyGenerics (function : Identifier)
  /-- The label of the parameter at an index holds no identifier character. -/
  | emptyParameterName (function : Identifier) (index : Nat)
  /-- A second parameter is bound under a name. -/
  | duplicateParameter (function : Identifier) (name : Text)
deriving DecidableEq

/-- The wording of a rejection. -/
def Rejection.message : Rejection → Text
  | emptyName raw =>
    "function name ".toList ++ raw.quoted ++ " has no usable identifier characters".toList
  | emptyGenerics function =>
    "function ".toList ++ function.display.inBackticks ++ " has an empty generics clause".toList
  | emptyParameterName function index =>
    "parameter #".toList ++ Text.ofNat index ++ " of ".toList ++ function.display.inBackticks
      ++ " has no usable identifier characters".toList
  | duplicateParameter function name =>
    "parameter ".toList ++ name.inBackticks ++ " of ".toList ++ function.display.inBackticks
      ++ " is bound more than once".toList

end SwiftDecl
