import SwiftDecl.DeclarationSet
import SwiftDecl.Function.Draft
import SwiftDecl.Manifest.TypeSpec

/-!
# Manifests

A manifest lists functions as another program found them: names not yet made identifiers, types as
written, bodies already rendered. Its declarations are the functions of its entries, all of them or
none: the first entry that cannot be built stands for the whole.
-/

namespace SwiftDecl

namespace Manifest

/-- A parameter as a manifest writes it. -/
structure ParamSpec where
  name : Text
  localName : Option Text
  type : TypeSpec
  defaultValue : Option Text

/-- A function as a manifest writes it. -/
structure FunctionSpec where
  name : Text
  comments : List Text
  isStatic : Bool
  generics : Option Text
  params : List ParamSpec
  throws : Bool
  /-- No return type means `Void`. -/
  returns : Option TypeSpec
  body : Text

end Manifest

/-- A list of functions to declare. -/
structure Manifest where
  functions : List Manifest.FunctionSpec

namespace Manifest

/-- The manifest without functions. -/
def empty : Manifest :=
  ⟨[]⟩

/-- The parameter of an entry. -/
def ParamSpec.toParameter (p : ParamSpec) : Parameter :=
  let plain := Parameter.named p.name p.type.toTypeRef
  let bound := match p.localName with
    | some raw => plain.withLocalName raw
    | none => plain
  match p.defaultValue with
  | some value => bound.withDefaultValue value
  | none => bound

/-- The return type of an entry. -/
def FunctionSpec.returnType (f : FunctionSpec) : TypeRef :=
  match f.returns with
  | some type => type.toTypeRef
  | none => .void

/-- The draft of an entry. -/
def FunctionSpec.toDraft (f : FunctionSpec) : Draft :=
  ⟨f.name, f.comments, f.isStatic, f.generics, f.params.map ParamSpec.toParameter, f.throws,
    f.returnType, f.body⟩

/-- The function of an entry, if it passes the checks. -/
def FunctionSpec.toFunction (f : FunctionSpec) : Except Rejection Function :=
  f.toDraft.build

/-- The functions of entries, the first of which has an index, or the index and rejection of the
first that fails. -/
def functionsFrom (index : Nat) : List FunctionSpec → Except (Nat × Rejection) (List Function)
  | [] => .ok []
  | spec :: more =>
    match spec.toFunction with
    | .error r => .error (index, r)
    | .ok f => (functionsFrom (index + 1) more).map (f :: ·)

/-- The declarations of a manifest, or the index and rejection of the first entry that fails. -/
def toDeclarations (m : Manifest) : Except (Nat × Rejection) DeclarationSet :=
  (functionsFrom 0 m.functions).map .mk

end Manifest

end SwiftDecl
