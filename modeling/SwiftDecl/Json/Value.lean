import SwiftDecl.Json.Number.Basic
import SwiftDecl.Text.Quoted

/-!
# Values of a document

What a document says, apart from how it is laid out. Objects keep their members in order, repeated
keys included, for it is up to the reader of a value to refuse them.
-/

namespace SwiftDecl

namespace Json

/-- A value without parts. -/
inductive Scalar where
  | null
  | boolean (b : Bool)
  | number (n : Number)
  | string (s : Text)
deriving DecidableEq

/-- A scalar in the words of a message. -/
def Scalar.described : Scalar → Text
  | .null => "null".toList
  | .boolean true => "boolean ".toList ++ Text.inBackticks "true".toList
  | .boolean false => "boolean ".toList ++ Text.inBackticks "false".toList
  | .number n =>
    match n with
    | .integer _ => "integer ".toList ++ n.text.inBackticks
    | .float _ _ => "floating point ".toList ++ n.text.inBackticks
  | .string s => "string ".toList ++ s.quoted

/-- A JSON value. -/
inductive Value where
  | scalar (s : Scalar)
  | array (items : List Value)
  | object (members : List (Text × Value))

mutual

/-- Decides whether two values are the same. -/
def Value.decideEq : (v w : Value) → Decidable (v = w)
  | .scalar s, .scalar s' => decidable_of_iff (s = s') (by rw [Value.scalar.injEq])
  | .array vs, .array ws =>
    have := Value.decideEqItems vs ws
    decidable_of_iff (vs = ws) (by rw [Value.array.injEq])
  | .object ms, .object ns =>
    have := Value.decideEqMembers ms ns
    decidable_of_iff (ms = ns) (by rw [Value.object.injEq])
  | .scalar _, .array _ | .scalar _, .object _ | .array _, .scalar _ | .array _, .object _
  | .object _, .scalar _ | .object _, .array _ => .isFalse nofun

/-- Decides whether two arrays have the same items. -/
def Value.decideEqItems : (vs ws : List Value) → Decidable (vs = ws)
  | [], [] => .isTrue rfl
  | v :: vs, w :: ws =>
    have := Value.decideEq v w
    have := Value.decideEqItems vs ws
    decidable_of_iff (v = w ∧ vs = ws) (by rw [List.cons.injEq])
  | [], _ :: _ | _ :: _, [] => .isFalse nofun

/-- Decides whether two objects have the same members in the same order. -/
def Value.decideEqMembers : (ms ns : List (Text × Value)) → Decidable (ms = ns)
  | [], [] => .isTrue rfl
  | (k, v) :: ms, (k', w) :: ns =>
    have := Value.decideEq v w
    have := Value.decideEqMembers ms ns
    decidable_of_iff ((k = k' ∧ v = w) ∧ ms = ns) (by rw [List.cons.injEq, Prod.mk.injEq])
  | [], _ :: _ | _ :: _, [] => .isFalse nofun

end

instance : DecidableEq Value :=
  Value.decideEq

end Json

end SwiftDecl
