import SwiftDecl.Text.Basic

/-!
# Members of an object, by key

What has fields is written as members under the keys of its fields. A key that is foreign, or that
is given twice, spoils all of them. A field may have to be given, or something may stand in for it.
-/

namespace SwiftDecl

namespace Json

variable {α β : Type}

/-- Whether no key is given twice and none is foreign. -/
def fits (keys : List String) : List (Text × β) → Bool
  | [] => true
  | (key, _) :: more =>
    keys.any (·.toList == key) && more.all (fun m => m.1 != key) && fits keys more

/-- What stands under a key. -/
def lookup (key : String) (members : List (Text × β)) : Option β :=
  (members.find? (·.1 == key.toList)).map (·.2)

/-- What stands under a key that must be there, read in one way. -/
def required (key : String) (read : β → Option α) (members : List (Text × β)) : Option α :=
  (lookup key members).bind read

/-- What stands under a key, read in one way, or what stands in for it if the key is not there. -/
def given (key : String) (read : β → Option α) (absent : α) (members : List (Text × β)) :
    Option α :=
  match lookup key members with
  | some b => read b
  | none => some absent

end Json

end SwiftDecl
