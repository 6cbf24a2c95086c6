import SwiftDecl.Function.Basic
import SwiftDecl.Rejection

/-!
# Drafts of functions

A draft is a function in the making: it takes any texts at all, and is checked when it is built. The
checks come in a fixed order, the name first, then the generics clause, then the parameters one
after the other, and the first that fails is the one reported.
-/

namespace SwiftDecl

/-- A function in the making. -/
structure Draft where
  /-- The name as given, before it is made an identifier. -/
  name : Text
  comments : List Text
  isStatic : Bool
  generics : Option Text
  params : List Parameter
  throws : Bool
  returns : TypeRef
  body : Text

namespace Draft

/-- A draft with a name and nothing else: no comments, generics or parameters, an empty body, and
`Void` as its return type. -/
def named (name : Text) : Draft :=
  ⟨name, [], false, none, [], false, .void, []⟩

/-- A step that changes a draft. -/
inductive Edit where
  /-- Replaces all comments. -/
  | comments (lines : List Text)
  /-- Adds a comment. -/
  | comment (line : Text)
  | isStatic (b : Bool)
  | generics (clause : Text)
  /-- Adds a parameter. -/
  | param (p : Parameter)
  /-- Adds parameters. -/
  | params (ps : List Parameter)
  | throws (b : Bool)
  | returns (type : TypeRef)
  | body (text : Text)

/-- The draft after a step. -/
def edited (d : Draft) : Edit → Draft
  | .comments lines => { d with comments := lines }
  | .comment line => { d with comments := d.comments ++ [line] }
  | .isStatic b => { d with isStatic := b }
  | .generics clause => { d with generics := some clause }
  | .param p => { d with params := d.params ++ [p] }
  | .params ps => { d with params := d.params ++ ps }
  | .throws b => { d with throws := b }
  | .returns type => { d with returns := type }
  | .body text => { d with body := text }

/-- The draft after a number of steps. -/
def editedBy (d : Draft) (edits : List Edit) : Draft :=
  edits.foldl edited d

/-- The identifier of the function. -/
def identifier (d : Draft) : Identifier :=
  .ofName d.name

/-- What is wrong with the parameters from an index on, given the names bound before them. Each is
checked for its label first and for a clash second. -/
def parameterFault? (function : Identifier) : Nat → List Text → List Parameter → Option Rejection
  | _, _, [] => none
  | index, bound, p :: more =>
    if p.identifier.isEmpty then some (.emptyParameterName function index)
    else if bound.contains p.bindingName then some (.duplicateParameter function p.bindingName)
    else parameterFault? function (index + 1) (p.bindingName :: bound) more

/-- The first thing that is wrong with a draft. -/
def fault? (d : Draft) : Option Rejection :=
  if d.identifier.isEmpty then some (.emptyName d.name)
  else if d.generics.any Text.isBlank then some (.emptyGenerics d.identifier)
  else parameterFault? d.identifier 0 [] d.params

/-- The function of a draft, if nothing is wrong with it. -/
def build (d : Draft) : Except Rejection Function :=
  match d.fault? with
  | some r => .error r
  | none =>
    .ok ⟨d.comments, d.isStatic, d.identifier, d.generics, d.params, d.throws, d.returns, d.body⟩

end Draft

end SwiftDecl
