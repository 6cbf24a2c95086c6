import SwiftDecl.Json.Tree.Reader

/-!
# Reading values of an expected shape

A decoder walks a tree from left to right and gives the thing it stands for, or the first thing that
is wrong. Every decoder here refuses a tree that a fault cuts short.
-/

namespace SwiftDecl

namespace Json

/-- A way of reading a thing off a tree. -/
abbrev Decoder (α : Type) :=
  Tree → Except Refusal α

/-- Why a tree is not what is expected: its fault if it has no value, else its type. A scalar is
refused behind it, an array or object before it. -/
def Tree.unexpected (expected : Text) : Tree → Refusal
  | .fault r => r
  | .scalar s rest => ⟨.mismatch (.type s.described expected), some (.before rest)⟩
  | .array start _ => ⟨.mismatch (.type "sequence".toList expected), some (.before start)⟩
  | .object start _ => ⟨.mismatch (.type "map".toList expected), some (.before start)⟩

/-- Reads a string. -/
def decodeText : Decoder Text
  | .scalar (.string s) _ => .ok s
  | v => .error (v.unexpected "a string".toList)

/-- Reads a boolean. -/
def decodeFlag : Decoder Bool
  | .scalar (.boolean b) _ => .ok b
  | v => .error (v.unexpected "a boolean".toList)

/-- Reads `null` as nothing, and anything else as the decoder does. -/
def decodeOptional {α : Type} (decode : Decoder α) : Decoder (Option α)
  | .scalar .null _ => .ok none
  | v => (decode v).map some

/-- Reads every item of an array. -/
def Items.decoded {α : Type} (decode : Decoder α) : Items → Except Refusal (List α)
  | .closed _ => .ok []
  | .broken r => .error r
  | .item value more =>
    match decode value with
    | .error r => .error r
    | .ok a => (more.decoded decode).map (a :: ·)

/-- Reads an array, item by item. -/
def decodeList {α : Type} (decode : Decoder α) : Decoder (List α)
  | .array _ items => items.decoded decode
  | v => .error (v.unexpected "a sequence".toList)

/-- Reads a whole document. -/
def decodeDocument {α : Type} (decode : Decoder α) (document : Text) : Except Error α :=
  let tree := treeOf document
  let read : Except Refusal α := do
    let a ← decode tree
    atEnd (← tree.rest)
    return a
  read.mapError (·.inDocument document)

end Json

end SwiftDecl
