import SwiftDecl.TypeRef.Basic

/-!
# How a type is written

An array with one argument and a dictionary with two are written in brackets. With another number of
arguments they are written as every other type: the name, and the arguments in angle brackets if
there are any. An optional type ends in a question mark.
-/

namespace SwiftDecl

namespace TypeRef

/-- The spelling of a type by what it is called and the spellings of its arguments. -/
def unmarkedSpelling : Head → List Text → Text
  | .array, [element] => '[' :: element ++ [']']
  | .dictionary, [key, value] => '[' :: key ++ ": ".toList ++ value ++ [']']
  | head, [] => head.name
  | head, args => head.name ++ '<' :: Text.joined ", ".toList args ++ ['>']

mutual

/-- The Swift spelling of a type. -/
def spelling : TypeRef → Text
  | mk _ head args isOptional =>
    unmarkedSpelling head (spellings args) ++ if isOptional then ['?'] else []

/-- The spellings of types in a row. -/
def spellings : List TypeRef → List Text
  | [] => []
  | t :: ts => spelling t :: spellings ts

end

end TypeRef

end SwiftDecl
