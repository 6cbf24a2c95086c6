import SwiftDecl.Function.Sameness

/-!
# Sets of declarations

The functions that are rendered together, in the order in which they were added. The order counts,
and so does every repetition.
-/

namespace SwiftDecl

/-- Functions in the order in which they were added. -/
structure DeclarationSet where
  functions : List Function

namespace DeclarationSet

/-- The set without functions. -/
def empty : DeclarationSet :=
  ⟨[]⟩

/-- The set with a function added at its end. -/
def push (s : DeclarationSet) (f : Function) : DeclarationSet :=
  ⟨s.functions ++ [f]⟩

/-- The number of functions. -/
def size (s : DeclarationSet) : Nat :=
  s.functions.length

/-- Whether there is no function. -/
def isEmpty (s : DeclarationSet) : Bool :=
  s.functions.isEmpty

instance : BEq DeclarationSet where
  beq s t := s.functions == t.functions

end DeclarationSet

end SwiftDecl
