import SwiftDecl.Json.Tree.Continuation
import SwiftDecl.Json.Tree.Scalar

/-!
# Reading a document

The grammar of JSON as a function from text to trees. Arrays and objects may be nested up to a
limit. Every value takes at least one character, so the items of an array are read until the text
runs out.
-/

namespace SwiftDecl

namespace Json

/-- What reading a value from a text may give: a tree that, if it ends at all, leaves less. -/
abbrev ValueOf (t : Text) :=
  { v : Tree // ∀ rest, v.rest = .ok rest → rest.length < t.length }

/-- Reads the items of an array from the first one on. -/
def readItems (readValue : (t : Text) → ValueOf t) (t : Text) : Items :=
  let value := readValue t
  match h : value.1.rest with
  | .error r => .item value.1 (.broken r)
  | .ok behindValue =>
    match hn : afterItem behindValue with
    | .closed rest => .item value.1 (.closed rest)
    | .broken r => .item value.1 (.broken r)
    | .next more =>
      have := value.2 behindValue h
      have := length_lt_of_afterItem (congrArg Continuation.rest? hn)
      .item value.1 (readItems readValue more)
termination_by t.length

/-- Reads the members of an object from behind the opening quote of the first key on. -/
def readMembers (readValue : (t : Text) → ValueOf t) (t : Text) : Members :=
  match hk : readString t with
  | .error r => .broken r
  | .ok (key, behindKey) =>
    match hc : afterKey behindKey with
    | .error r => .member key behindKey (.fault r) (.broken r)
    | .ok behindColon =>
      let value := readValue behindColon
      match h : value.1.rest with
      | .error r => .member key behindKey value.1 (.broken r)
      | .ok behindValue =>
        match hn : afterMember behindValue with
        | .closed rest => .member key behindKey value.1 (.closed rest)
        | .broken r => .member key behindKey value.1 (.broken r)
        | .next more =>
          have := length_lt_of_readString hk
          have := length_lt_of_afterKey hc
          have := value.2 behindValue h
          have := length_lt_of_afterMember (congrArg Continuation.rest? hn)
          .member key behindKey value.1 (readMembers readValue more)
termination_by t.length

/-- The first item takes at least one character. -/
theorem length_lt_of_readItems {readValue : (t : Text) → ValueOf t} {t rest : Text}
    (h : (readItems readValue t).rest = .ok rest) : rest.length < t.length := by
  fun_induction readItems readValue t with
  | case1 t value r hr => simp [Items.rest] at h
  | case2 t value behindValue hv closing hn =>
    simp only [Items.rest, Except.ok.injEq] at h
    subst h
    have := value.2 behindValue hv
    have := length_lt_of_afterItem (congrArg Continuation.rest? hn)
    omega
  | case3 t value behindValue hv r hn => simp [Items.rest] at h
  | case4 t value behindValue hv more hn _ _ ih =>
    have := ih h
    omega

/-- The first key takes at least one character. -/
theorem length_lt_of_readMembers {readValue : (t : Text) → ValueOf t} {t rest : Text}
    (h : (readMembers readValue t).rest = .ok rest) : rest.length < t.length := by
  fun_induction readMembers readValue t with
  | case1 => simp [Members.rest] at h
  | case2 => simp [Members.rest] at h
  | case3 => simp [Members.rest] at h
  | case4 t key behindKey hk behindColon hc value behindValue hv closing hn =>
    simp only [Members.rest, Except.ok.injEq] at h
    subst h
    have := length_lt_of_readString hk
    have := length_lt_of_afterKey hc
    have := value.2 behindValue hv
    have := length_lt_of_afterMember (congrArg Continuation.rest? hn)
    omega
  | case5 => simp [Members.rest] at h
  | case6 t key behindKey hk behindColon hc value behindValue hv more hn _ _ _ _ ih =>
    have := ih h
    omega

/-- Reads what follows the bracket that opens an array. -/
def readArray (readValue : (t : Text) → ValueOf t) (t : Text) : Items :=
  match afterBracket t with
  | .closed rest => .closed rest
  | .broken r => .broken r
  | .next rest => readItems readValue rest

/-- Reads what follows the brace that opens an object. -/
def readObject (readValue : (t : Text) → ValueOf t) (t : Text) : Members :=
  match afterBrace t with
  | .closed rest => .closed rest
  | .broken r => .broken r
  | .next rest => readMembers readValue rest

/-- What is left behind an array is no more than what its bracket left. -/
theorem length_le_of_readArray {readValue : (t : Text) → ValueOf t} {t rest : Text}
    (h : (readArray readValue t).rest = .ok rest) : rest.length ≤ t.length := by
  unfold readArray at h
  split at h
  · rename_i closing hb
    simp only [Items.rest, Except.ok.injEq] at h
    exact h ▸ length_le_of_afterBracket (congrArg Continuation.rest? hb)
  · simp [Items.rest] at h
  · rename_i next hb
    exact Nat.le_trans (Nat.le_of_lt (length_lt_of_readItems h))
      (length_le_of_afterBracket (congrArg Continuation.rest? hb))

/-- What is left behind an object is no more than what its brace left. -/
theorem length_le_of_readObject {readValue : (t : Text) → ValueOf t} {t rest : Text}
    (h : (readObject readValue t).rest = .ok rest) : rest.length ≤ t.length := by
  unfold readObject at h
  split at h
  · rename_i closing hb
    simp only [Members.rest, Except.ok.injEq] at h
    exact h ▸ Nat.le_of_lt (length_lt_of_afterBrace (congrArg Continuation.rest? hb))
  · simp [Members.rest] at h
  · rename_i next hb
    exact Nat.le_trans (Nat.le_of_lt (length_lt_of_readMembers h))
      (Nat.le_of_lt (length_lt_of_afterBrace (congrArg Continuation.rest? hb)))

/-- **Reads a value** that may hold arrays and objects nested up to an allowance. -/
def readValue (allowance : Nat) (t : Text) : ValueOf t :=
  match hs : skipSpace t with
  | [] => ⟨.fault (.ofFault .valueEnds (.before [])), by simp [Tree.rest]⟩
  | c :: rest =>
    if c = '[' then
      match allowance with
      | 0 => ⟨.fault (.ofFault .nestingTooDeep (.within (c :: rest))), by simp [Tree.rest]⟩
      | deeper + 1 =>
        ⟨.array (c :: rest) (readArray (readValue deeper) rest), fun _ h =>
          Nat.lt_of_le_of_lt (length_le_of_readArray h) (length_lt_of_skipSpace hs)⟩
    else if c = '\x7b' then
      match allowance with
      | 0 => ⟨.fault (.ofFault .nestingTooDeep (.within (c :: rest))), by simp [Tree.rest]⟩
      | deeper + 1 =>
        ⟨.object (c :: rest) (readObject (readValue deeper) rest), fun _ h =>
          Nat.lt_of_le_of_lt (length_le_of_readObject h) (length_lt_of_skipSpace hs)⟩
    else
      ⟨scalarTree c rest, fun _ h =>
        Nat.lt_of_le_of_lt (length_le_of_scalarTree h) (length_lt_of_skipSpace hs)⟩
termination_by structural allowance

/-- How deep arrays and objects may be nested. -/
def nestingLimit : Nat :=
  127

/-- The tree of a document. -/
def treeOf (document : Text) : Tree :=
  (readValue nestingLimit document).1

/-- Whether nothing but white space is left after the value of a document. -/
def atEnd (rest : Text) : Except Refusal Unit :=
  match skipSpace rest with
  | [] => .ok ()
  | more => .error (.ofFault .trailingCharacters (.within more))

/-- The value that a document says, with nothing but white space around it. -/
def valueOf (document : Text) : Except Refusal Value := do
  let value ← (treeOf document).value
  atEnd (← (treeOf document).rest)
  return value

end Json

end SwiftDecl
