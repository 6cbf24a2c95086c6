import SwiftDecl.Json.Record
import SwiftDecl.Manifest.Basic

/-!
# Reading a manifest

The records of a manifest and their fields. A type is first read as a whole value and only then
looked at, so a fault inside it counts more than its form.
-/

namespace SwiftDecl

namespace Manifest

open Json (Tree Decoder RecordField RecordSchema Refusal)

/-- Reads a type. -/
def decodeType : Decoder TypeSpec := fun tree =>
  match tree.value with
  | .error r => .error r
  | .ok v =>
    match TypeSpec.ofValue? v with
    | some t => .ok t
    | none => .error ⟨.mismatch .noTypeForm, none⟩

/-- A field of a record whose fields are gathered as options: its key, the way to its option, and
how its value is read. -/
def fieldOf {σ α : Type} (key : String) (get : σ → Option α) (set : Option α → σ → σ)
    (decode : Decoder α) : RecordField σ :=
  ⟨key.toList, fun known => (get known).isSome, fun tree known =>
    (decode tree).map fun a => set (some a) known⟩

/-- The value of a field that must be given. -/
def requireField {α : Type} (key : String) : Option α → Except Text α
  | some a => .ok a
  | none => .error key.toList

/-! ## Parameters -/

/-- The fields of a parameter as far as they are known. -/
structure PartialParam where
  name : Option Text
  localName : Option (Option Text)
  type : Option TypeSpec
  defaultValue : Option (Option Text)

/-- How a parameter is read. -/
def paramSchema : RecordSchema PartialParam ParamSpec where
  name := "ParamSpec".toList
  fields :=
    [fieldOf "name" (·.name) (fun v p => { p with name := v }) Json.decodeText,
      fieldOf "localName" (·.localName) (fun v p => { p with localName := v })
        (Json.decodeOptional Json.decodeText),
      fieldOf "type" (·.type) (fun v p => { p with type := v }) decodeType,
      fieldOf "default" (·.defaultValue) (fun v p => { p with defaultValue := v })
        (Json.decodeOptional Json.decodeText)]
  start := ⟨none, none, none, none⟩
  finish p := do
    let name ← requireField "name" p.name
    let type ← requireField "type" p.type
    return ⟨name, p.localName.getD none, type, p.defaultValue.getD none⟩

/-- Reads a parameter. -/
def decodeParam : Decoder ParamSpec :=
  paramSchema.decode

/-! ## Functions -/

/-- The fields of a function as far as they are known. -/
structure PartialFunction where
  name : Option Text
  comments : Option (List Text)
  isStatic : Option Bool
  generics : Option (Option Text)
  params : Option (List ParamSpec)
  throws : Option Bool
  returns : Option (Option TypeSpec)
  body : Option Text

/-- How a function is read. -/
def functionSchema : RecordSchema PartialFunction FunctionSpec where
  name := "FunctionSpec".toList
  fields :=
    [fieldOf "name" (·.name) (fun v f => { f with name := v }) Json.decodeText,
      fieldOf "comments" (·.comments) (fun v f => { f with comments := v })
        (Json.decodeList Json.decodeText),
      fieldOf "static" (·.isStatic) (fun v f => { f with isStatic := v }) Json.decodeFlag,
      fieldOf "generics" (·.generics) (fun v f => { f with generics := v })
        (Json.decodeOptional Json.decodeText),
      fieldOf "params" (·.params) (fun v f => { f with params := v })
        (Json.decodeList decodeParam),
      fieldOf "throws" (·.throws) (fun v f => { f with throws := v }) Json.decodeFlag,
      fieldOf "returns" (·.returns) (fun v f => { f with returns := v })
        (Json.decodeOptional decodeType),
      fieldOf "body" (·.body) (fun v f => { f with body := v }) Json.decodeText]
  start := ⟨none, none, none, none, none, none, none, none⟩
  finish f := do
    let name ← requireField "name" f.name
    return ⟨name, f.comments.getD [], f.isStatic.getD false, f.generics.getD none,
      f.params.getD [], f.throws.getD false, f.returns.getD none, f.body.getD []⟩

/-- Reads a function. -/
def decodeFunction : Decoder FunctionSpec :=
  functionSchema.decode

/-! ## Manifests -/

/-- The fields of a manifest as far as they are known. -/
structure PartialManifest where
  functions : Option (List FunctionSpec)

/-- How a manifest is read. -/
def manifestSchema : RecordSchema PartialManifest Manifest where
  name := "Manifest".toList
  fields :=
    [fieldOf "functions" (·.functions) (fun v m => { m with functions := v })
      (Json.decodeList decodeFunction)]
  start := ⟨none⟩
  finish m := .ok ⟨m.functions.getD []⟩

/-- Reads a manifest. -/
def decodeManifest : Decoder Manifest :=
  manifestSchema.decode

/-- The manifest that a document is. -/
def ofText (document : Text) : Except Json.Error Manifest :=
  Json.decodeDocument decodeManifest document

end Manifest

end SwiftDecl
