import SwiftDecl.Json.Error
import SwiftDecl.Json.Space

/-!
# Between the parts of an array or object

What stands after an opening bracket or brace, and after a part: the end, another part, or a fault.
Whatever it is, it takes at least one character, save that the first item of an array may follow its
bracket at once.
-/

namespace SwiftDecl

namespace Json

/-- How reading goes on after an opening or a part. -/
inductive Continuation where
  /-- The closing bracket or brace was there, and the text after it. -/
  | closed (rest : Text)
  /-- A fault. -/
  | broken (r : Refusal)
  /-- Another part follows. -/
  | next (rest : Text)

/-- Reads on after the bracket that opens an array. -/
def afterBracket (t : Text) : Continuation :=
  match skipSpace t with
  | [] => .broken (.ofFault .listEnds (.before []))
  | ']' :: rest => .closed rest
  | rest => .next rest

/-- Reads on after an item. -/
def afterItem (t : Text) : Continuation :=
  match skipSpace t with
  | [] => .broken (.ofFault .listEnds (.before []))
  | ']' :: rest => .closed rest
  | ',' :: rest =>
    match skipSpace rest with
    | [] => .broken (.ofFault .valueEnds (.before []))
    | ']' :: rest => .broken (.ofFault .trailingComma (.within (']' :: rest)))
    | rest => .next rest
  | rest => .broken (.ofFault .expectedListSeparator (.within rest))

/-- Reads on after the brace that opens an object, up to behind the opening quote of a key. -/
def afterBrace (t : Text) : Continuation :=
  match skipSpace t with
  | [] => .broken (.ofFault .objectEnds (.before []))
  | '\x7d' :: rest => .closed rest
  | '"' :: rest => .next rest
  | rest => .broken (.ofFault .keyNotString (.within rest))

/-- Reads on after a member, up to behind the opening quote of a key. -/
def afterMember (t : Text) : Continuation :=
  match skipSpace t with
  | [] => .broken (.ofFault .objectEnds (.before []))
  | '\x7d' :: rest => .closed rest
  | ',' :: rest =>
    match skipSpace rest with
    | [] => .broken (.ofFault .valueEnds (.before []))
    | '"' :: rest => .next rest
    | '\x7d' :: rest => .broken (.ofFault .trailingComma (.within ('\x7d' :: rest)))
    | rest => .broken (.ofFault .keyNotString (.within rest))
  | rest => .broken (.ofFault .expectedObjectSeparator (.within rest))

/-- Reads on after a key, up to behind its colon. -/
def afterKey (t : Text) : Except Refusal Text :=
  match skipSpace t with
  | [] => .error (.ofFault .objectEnds (.before []))
  | ':' :: rest => .ok rest
  | rest => .error (.ofFault .expectedColon (.within rest))

/-- The text that a continuation goes on with. -/
def Continuation.rest? : Continuation → Option Text
  | .closed rest => some rest
  | .broken _ => none
  | .next rest => some rest

/-- An item is followed by a bracket or a comma, so less is left behind it. -/
theorem length_lt_of_afterItem {t rest : Text} (h : (afterItem t).rest? = some rest) :
    rest.length < t.length := by
  unfold afterItem at h
  split at h
  · simp [Continuation.rest?] at h
  · rename_i hs
    simp only [Continuation.rest?, Option.some.injEq] at h
    exact h ▸ length_lt_of_skipSpace hs
  · rename_i behindComma hs
    have := length_lt_of_skipSpace hs
    have := length_skipSpace_le behindComma
    split at h <;> simp only [Continuation.rest?, Option.some.injEq, reduceCtorEq] at h
    subst h
    omega
  · simp [Continuation.rest?] at h

/-- A member is followed by a brace or a comma, so less is left behind it. -/
theorem length_lt_of_afterMember {t rest : Text} (h : (afterMember t).rest? = some rest) :
    rest.length < t.length := by
  unfold afterMember at h
  split at h
  · simp [Continuation.rest?] at h
  · rename_i hs
    simp only [Continuation.rest?, Option.some.injEq] at h
    exact h ▸ length_lt_of_skipSpace hs
  · rename_i behindComma hs
    have := length_lt_of_skipSpace hs
    split at h <;> simp only [Continuation.rest?, Option.some.injEq, reduceCtorEq] at h
    rename_i hq
    have := length_lt_of_skipSpace hq
    subst h
    omega
  · simp [Continuation.rest?] at h

/-- A key is followed by a colon, so less is left behind it. -/
theorem length_lt_of_afterKey {t rest : Text} (h : afterKey t = .ok rest) :
    rest.length < t.length := by
  unfold afterKey at h
  split at h
  · simp at h
  · rename_i h'
    simp only [Except.ok.injEq] at h
    exact h ▸ length_lt_of_skipSpace h'
  · simp at h

/-- A bracket may be followed by an item at once, so no more is left behind it. -/
theorem length_le_of_afterBracket {t rest : Text} (h : (afterBracket t).rest? = some rest) :
    rest.length ≤ t.length := by
  have hle := length_skipSpace_le t
  unfold afterBracket at h
  split at h
  · simp [Continuation.rest?] at h
  · rename_i hs
    simp only [Continuation.rest?, Option.some.injEq] at h
    exact h ▸ Nat.le_of_lt (length_lt_of_skipSpace hs)
  · simp only [Continuation.rest?, Option.some.injEq] at h
    exact h ▸ hle

/-- A brace is followed by another or by a quote, so less is left behind it. -/
theorem length_lt_of_afterBrace {t rest : Text} (h : (afterBrace t).rest? = some rest) :
    rest.length < t.length := by
  unfold afterBrace at h
  split at h <;> simp only [Continuation.rest?, Option.some.injEq, reduceCtorEq] at h <;>
    rename_i hs <;> exact h ▸ length_lt_of_skipSpace hs

end Json

end SwiftDecl
