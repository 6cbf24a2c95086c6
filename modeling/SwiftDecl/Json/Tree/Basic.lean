import SwiftDecl.Json.Error
import SwiftDecl.Json.Value

/-!
# Documents as far as they can be read

A tree is a value together with its places in the document. It reaches as far as the text can be
read: where a fault stops the reading, the tree ends with that fault. So whoever walks a tree from
left to right meets what is wrong in the order of the text, a value of the wrong shape before a
fault that lies behind it.
-/

namespace SwiftDecl

namespace Json

mutual

/-- A value with its places. -/
inductive Tree where
  /-- No value could be read. -/
  | fault (r : Refusal)
  /-- A scalar, and the text after it. -/
  | scalar (s : Scalar) (rest : Text)
  /-- An array, and the text from its bracket on. -/
  | array (start : Text) (items : Items)
  /-- An object, and the text from its brace on. -/
  | object (start : Text) (members : Members)

/-- The items of an array up to its end. -/
inductive Items where
  /-- The bracket closes, and the text after it. -/
  | closed (rest : Text)
  /-- A fault stops the reading. -/
  | broken (r : Refusal)
  | item (value : Tree) (more : Items)

/-- The members of an object up to its end. -/
inductive Members where
  /-- The brace closes, and the text after it. -/
  | closed (rest : Text)
  /-- A fault stops the reading. -/
  | broken (r : Refusal)
  /-- A key, the text after it, and its value. -/
  | member (key : Text) (afterKey : Text) (value : Tree) (more : Members)

end

/-- The text after the items, or the fault that stops them. -/
def Items.rest : Items → Except Refusal Text
  | .closed rest => .ok rest
  | .broken r => .error r
  | .item _ more => more.rest

/-- The text after the members, or the fault that stops them. -/
def Members.rest : Members → Except Refusal Text
  | .closed rest => .ok rest
  | .broken r => .error r
  | .member _ _ _ more => more.rest

/-- The text after a value, or the fault that stops it. -/
def Tree.rest : Tree → Except Refusal Text
  | .fault r => .error r
  | .scalar _ rest => .ok rest
  | .array _ items => items.rest
  | .object _ members => members.rest

mutual

/-- The value of a tree without its places, or the first fault in it. -/
def Tree.value : Tree → Except Refusal Value
  | .fault r => .error r
  | .scalar s _ => .ok (.scalar s)
  | .array _ items => items.values.map .array
  | .object _ members => members.values.map .object

/-- The values of the items, or the first fault among them. -/
def Items.values : Items → Except Refusal (List Value)
  | .closed _ => .ok []
  | .broken r => .error r
  | .item value more =>
    match value.value with
    | .error r => .error r
    | .ok v => more.values.map (v :: ·)

/-- The keys and values of the members, or the first fault among them. -/
def Members.values : Members → Except Refusal (List (Text × Value))
  | .closed _ => .ok []
  | .broken r => .error r
  | .member key _ value more =>
    match value.value with
    | .error r => .error r
    | .ok v => more.values.map ((key, v) :: ·)

end

end Json

end SwiftDecl
