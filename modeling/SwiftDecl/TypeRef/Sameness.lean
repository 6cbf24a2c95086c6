import SwiftDecl.TypeRef.Basic

/-!
# When two references mean one type

Two references are the same if their names, their arguments and their optionality are. The module
and the spelling are no part of it: a type written by the name `Void` is the built-in one. The
fingerprint of a reference lists exactly what counts, so that references can be kept in a hashed
set.
-/

namespace SwiftDecl

namespace TypeRef

mutual

/-- Whether two references mean the same type. -/
def same : TypeRef → TypeRef → Bool
  | mk _ h as o, mk _ h' as' o' => h.name == h'.name && sameAll as as' && o == o'

/-- Whether two lists of references mean the same types, one by one. -/
def sameAll : List TypeRef → List TypeRef → Bool
  | [], [] => true
  | t :: ts, t' :: ts' => same t t' && sameAll ts ts'
  | _, _ => false

end

instance : BEq TypeRef :=
  ⟨same⟩

/-- What a hasher is fed with. -/
inductive Piece where
  | text (t : Text)
  | count (n : Nat)
  | flag (b : Bool)
deriving DecidableEq

mutual

/-- The pieces that tell a reference from those that are not the same: its name, the number of its
arguments and their pieces, its optionality. -/
def fingerprint : TypeRef → List Piece
  | mk _ h as o => .text h.name :: .count as.length :: (fingerprints as ++ [.flag o])

/-- The fingerprints of references in a row. -/
def fingerprints : List TypeRef → List Piece
  | [] => []
  | t :: ts => fingerprint t ++ fingerprints ts

end

/-- Whether the type is `Void`, however it is written. -/
def isVoid (t : TypeRef) : Bool :=
  t == void

end TypeRef

end SwiftDecl
