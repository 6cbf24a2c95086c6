import SwiftDecl.Json.Members
import SwiftDecl.Json.Value
import SwiftDecl.TypeRef.Basic

/-!
# Types in a manifest

A type is written as a string, its name, or as an object in one of three forms: an array, a
dictionary, or a named type with arguments and a module. Each form has a key that it requires and
that the others refuse, so no object fits two of them.
-/

namespace SwiftDecl

namespace Manifest

/-- A type as a manifest writes it. -/
inductive TypeSpec where
  /-- A string. -/
  | bare (name : Text)
  | array (element : TypeSpec) (isOptional : Bool)
  | dictionary (key value : TypeSpec) (isOptional : Bool)
  | named (name : Text) (args : List TypeSpec) (isOptional : Bool) (module : Option Text)

namespace TypeSpec

open Json (fits given required)

/-! ## Reading -/

/-- What a value inside a type can be read as. -/
inductive Part where
  | scalar (s : Json.Scalar)
  /-- An object that is a type. -/
  | type (t : TypeSpec)
  /-- An array of types. -/
  | types (ts : List TypeSpec)
  | other

namespace Part

/-- The type that a part is: a string names one. -/
def type? : Part → Option TypeSpec
  | scalar (.string name) => some (.bare name)
  | type t => some t
  | _ => none

/-- The array of types that a part is. -/
def types? : Part → Option (List TypeSpec)
  | types ts => some ts
  | _ => none

/-- The boolean that a part is. -/
def flag? : Part → Option Bool
  | scalar (.boolean b) => some b
  | _ => none

/-- The string that a part is. -/
def text? : Part → Option Text
  | scalar (.string s) => some s
  | _ => none

/-- The string or `null` that a part is. -/
def optionalText? : Part → Option (Option Text)
  | scalar (.string s) => some (some s)
  | scalar .null => some none
  | _ => none

end Part

/-- The array form: the elements under `array`. -/
def arrayForm? (members : List (Text × Part)) : Option TypeSpec :=
  if fits ["array", "optional"] members then do
    let element ← required "array" Part.type? members
    let isOptional ← given "optional" Part.flag? false members
    return .array element isOptional
  else none

/-- The dictionary form: under `dictionary`, an array of the two types of keys and values. -/
def dictionaryForm? (members : List (Text × Part)) : Option TypeSpec :=
  if fits ["dictionary", "optional"] members then do
    let [key, value] ← required "dictionary" Part.types? members | none
    let isOptional ← given "optional" Part.flag? false members
    return .dictionary key value isOptional
  else none

/-- The named form: a name, and perhaps arguments and a module. -/
def namedForm? (members : List (Text × Part)) : Option TypeSpec :=
  if fits ["name", "args", "optional", "module"] members then do
    let name ← required "name" Part.text? members
    let args ← given "args" Part.types? [] members
    let isOptional ← given "optional" Part.flag? false members
    let module ← given "module" Part.optionalText? none members
    return .named name args isOptional module
  else none

/-- The type that an object is, by the forms in their order. -/
def ofMembers? (members : List (Text × Part)) : Option TypeSpec :=
  arrayForm? members <|> dictionaryForm? members <|> namedForm? members

mutual

/-- What a value can be read as inside a type. -/
def part : Json.Value → Part
  | .scalar s => .scalar s
  | .array items =>
    match parts? items with
    | some ts => .types ts
    | none => .other
  | .object members =>
    match ofMembers? (memberParts members) with
    | some t => .type t
    | none => .other

/-- The types that values are, if all of them are types. -/
def parts? : List Json.Value → Option (List TypeSpec)
  | [] => some []
  | v :: more =>
    match (part v).type?, parts? more with
    | some t, some ts => some (t :: ts)
    | _, _ => none

/-- The members of an object with their values read as parts. -/
def memberParts : List (Text × Json.Value) → List (Text × Part)
  | [] => []
  | (key, v) :: more => (key, part v) :: memberParts more

end

/-- The type that a value is. -/
def ofValue? (v : Json.Value) : Option TypeSpec :=
  (part v).type?

/-! ## Meaning -/

/-- The module that a name stands for. Two names are set aside, and no name means the host. -/
def moduleNamed : Option Text → Module
  | none => .host
  | some name =>
    if name = "host".toList then .host
    else if name = "stdlib".toList then .stdLib
    else .custom name

/-- A type, made optional if so marked. -/
def marked (isOptional : Bool) (t : TypeRef) : TypeRef :=
  if isOptional then t.optional else t

mutual

/-- The type that is meant. -/
def toTypeRef : TypeSpec → TypeRef
  | .bare name => .named name
  | .array element isOptional => marked isOptional (.arrayOf element.toTypeRef)
  | .dictionary key value isOptional =>
    marked isOptional (.dictionaryOf key.toTypeRef value.toTypeRef)
  | .named name args isOptional module =>
    marked isOptional
      (((TypeRef.named name).withArgs (toTypeRefs args)).inModule (moduleNamed module))

/-- The types that are meant, one by one. -/
def toTypeRefs : List TypeSpec → List TypeRef
  | [] => []
  | t :: ts => t.toTypeRef :: toTypeRefs ts

end

end TypeSpec

end Manifest

end SwiftDecl
