import SwiftDecl.Identifier.Basic
import SwiftDecl.TypeRef.Basic

/-!
# Parameters

A parameter has an external label, seen where the function is called, and perhaps a local name,
under which the body sees it. A local name that holds no identifier character, or that comes to the
same as the label, is dropped, for the label already binds the parameter.
-/

namespace SwiftDecl

/-- A parameter of a function. -/
structure Parameter where
  /-- The label as given, before it is made an identifier. -/
  name : Text
  localName : Option Identifier
  type : TypeRef
  /-- A Swift expression, written as it is. -/
  defaultValue : Option Text

namespace Parameter

/-- A parameter without local name and default value. -/
def named (name : Text) (type : TypeRef) : Parameter :=
  ⟨name, none, type, none⟩

/-- The label as an identifier. -/
def identifier (p : Parameter) : Identifier :=
  .ofName p.name

/-- The parameter bound under another name, if that makes a difference. -/
def withLocalName (raw : Text) (p : Parameter) : Parameter :=
  let localName := Identifier.ofName raw
  if localName.isEmpty || localName == p.identifier then { p with localName := none }
  else { p with localName := some localName }

/-- The parameter with a default value. -/
def withDefaultValue (value : Text) (p : Parameter) : Parameter :=
  { p with defaultValue := some value }

/-- The identifier under which the body sees the parameter. -/
def binding (p : Parameter) : Identifier :=
  p.localName.getD p.identifier

/-- The bare name under which the body sees the parameter. -/
def bindingName (p : Parameter) : Text :=
  p.binding.name

/-- A step that changes a parameter. -/
inductive Edit where
  | localName (raw : Text)
  | defaultValue (value : Text)

/-- The parameter after a step. -/
def edited (p : Parameter) : Edit → Parameter
  | .localName raw => p.withLocalName raw
  | .defaultValue value => p.withDefaultValue value

end Parameter

end SwiftDecl
