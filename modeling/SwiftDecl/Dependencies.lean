import SwiftDecl.DeclarationSet
import SwiftDecl.TypeRef.Spelling

/-!
# The types a declaration depends on

A type depends on itself and then on its arguments; a function on its return type and then on its
parameters. The list keeps that order and every repetition. What is needed only once, a type to be
listed or a module to be imported, is picked out of it at its first occurrence.
-/

namespace SwiftDecl

mutual

/-- The type itself, then the types its arguments use. -/
def TypeRef.usedTypes : TypeRef → List TypeRef
  | .mk m h args o => .mk m h args o :: TypeRef.usedTypesOf args

/-- The types that references use, one after the other. -/
def TypeRef.usedTypesOf : List TypeRef → List TypeRef
  | [] => []
  | t :: ts => t.usedTypes ++ TypeRef.usedTypesOf ts

end

/-- The types a parameter uses. -/
def Parameter.usedTypes (p : Parameter) : List TypeRef :=
  p.type.usedTypes

/-- The types a function uses: those of its return type, then those of its parameters. -/
def Function.usedTypes (f : Function) : List TypeRef :=
  f.returns.usedTypes ++ f.params.flatMap Parameter.usedTypes

/-- The types a set of declarations uses. -/
def DeclarationSet.usedTypes (s : DeclarationSet) : List TypeRef :=
  s.functions.flatMap Function.usedTypes

/-- The types of a list, each at its first occurrence only. -/
def uniqueTypes (types : List TypeRef) : List TypeRef :=
  types.eraseDups

/-- The modules that need an import, in order of first use. -/
def requiredImports (types : List TypeRef) : List Text :=
  (types.filterMap (·.module.importName?)).eraseDups

/-- What is listed of a set of declarations. -/
inductive Listing where
  /-- Every used type, repetitions included. -/
  | all
  /-- Each used type once. -/
  | unique
  /-- The modules to import. -/
  | imports
deriving DecidableEq

/-- The lines of a listing. -/
def Listing.lines (s : DeclarationSet) : Listing → List Text
  | all => s.usedTypes.map TypeRef.spelling
  | unique => (uniqueTypes s.usedTypes).map TypeRef.spelling
  | imports => requiredImports s.usedTypes

end SwiftDecl
