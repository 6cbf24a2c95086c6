import SwiftDecl.Text.Basic

/-!
# Type references

A type reference names a Swift type that a declaration touches: the type of a parameter, a return
type, or a type nested in one of those. It says which module the type comes from, but that is about
imports and not about which type is meant.
-/

namespace SwiftDecl

/-- Where a type comes from. -/
inductive Module where
  /-- The Swift standard library. -/
  | stdLib
  /-- The module the generated text is compiled into. -/
  | host
  /-- Any other module, by name. -/
  | custom (name : Text)
deriving DecidableEq

/-- The name to import: only a module that is neither the standard library nor the host needs it. -/
def Module.importName? : Module → Option Text
  | .custom name => some name
  | .stdLib => none
  | .host => none

/-- **What a type is called.** Arrays and dictionaries have a spelling of their own and no name to
choose, so no array can go by another name. -/
inductive Head where
  | plain (name : Text)
  /-- Part of the language. -/
  | builtin (name : Text)
  | array
  | dictionary
deriving DecidableEq

/-- The name of a head. -/
def Head.name : Head → Text
  | .plain name => name
  | .builtin name => name
  | .array => "Array".toList
  | .dictionary => "Dictionary".toList

/-- A type with its generic arguments. -/
inductive TypeRef where
  | mk (module : Module) (head : Head) (args : List TypeRef) (isOptional : Bool)

namespace TypeRef

/-- The module the type comes from. -/
def module : TypeRef → Module
  | mk m _ _ _ => m

/-- What the type is called. -/
def head : TypeRef → Head
  | mk _ h _ _ => h

/-- The generic arguments. -/
def args : TypeRef → List TypeRef
  | mk _ _ as _ => as

/-- Whether the type is optional. -/
def isOptional : TypeRef → Bool
  | mk _ _ _ o => o

/-- The name of the type, without arguments. -/
def name (t : TypeRef) : Text :=
  t.head.name

/-! ## Construction -/

/-- A type of the host module. -/
def named (name : Text) : TypeRef :=
  mk .host (.plain name) [] false

/-- A type that is part of the language. -/
def builtin (name : Text) : TypeRef :=
  mk .stdLib (.builtin name) [] false

/-- A plain type of the standard library. -/
def standard (name : Text) : TypeRef :=
  mk .stdLib (.plain name) [] false

/-- The array type with these elements. -/
def arrayOf (element : TypeRef) : TypeRef :=
  mk .stdLib .array [element] false

/-- The dictionary type with these keys and values. -/
def dictionaryOf (key value : TypeRef) : TypeRef :=
  mk .stdLib .dictionary [key, value] false

/-- `Void`, the return type that a signature leaves out. -/
def void : TypeRef :=
  builtin "Void".toList

/-- The type `Int`. -/
def int : TypeRef :=
  standard "Int".toList

/-- The type `String`. -/
def string : TypeRef :=
  standard "String".toList

/-- The type `Bool`. -/
def bool : TypeRef :=
  standard "Bool".toList

/-- The type `Double`. -/
def double : TypeRef :=
  standard "Double".toList

/-! ## Modification -/

/-- The type with other generic arguments. -/
def withArgs (args : List TypeRef) : TypeRef → TypeRef
  | mk m h _ o => mk m h args o

/-- The type, taken from another module. -/
def inModule (module : Module) : TypeRef → TypeRef
  | mk _ h as o => mk module h as o

/-- The optional type over this one. -/
def optional : TypeRef → TypeRef
  | mk m h as _ => mk m h as true

/-- The type without its optionality. -/
def nonOptional : TypeRef → TypeRef
  | mk m h as _ => mk m h as false

/-- A step that changes a type. -/
inductive Edit where
  | optional
  | nonOptional
  | withArgs (args : List TypeRef)
  | inModule (module : Module)

/-- The type after a step. -/
def edited (t : TypeRef) : Edit → TypeRef
  | .optional => t.optional
  | .nonOptional => t.nonOptional
  | .withArgs args => t.withArgs args
  | .inModule module => t.inModule module

end TypeRef

end SwiftDecl
