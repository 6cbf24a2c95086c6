import SwiftDecl.Json.Number.Reader
import SwiftDecl.Json.Quote
import SwiftDecl.Json.Tree.Basic

/-!
# Reading scalars

The first character of a scalar tells what it is: a string, a number, or one of three words.
-/

namespace SwiftDecl

namespace Json

/-- Reads the letters of a word one by one. -/
def readWord (s : Scalar) : Text → Text → Tree
  | [], rest => .scalar s rest
  | _ :: _, [] => .fault (.ofFault .valueEnds (.before []))
  | w :: word, c :: rest =>
    if w = c then readWord s word rest else .fault (.ofFault .expectedWord (.within (c :: rest)))

/-- A string with the text after it, as a tree. -/
def stringTree (t : Text) : Tree :=
  match readString t with
  | .ok (s, rest) => .scalar (.string s) rest
  | .error r => .fault r

/-- A number with the text after it, as a tree. -/
def numberTree (t : Text) : Tree :=
  match readNumber t with
  | .ok (n, rest) => .scalar (.number n) rest
  | .error r => .fault r

/-- Reads a value that is neither array nor object, by its first character. -/
def scalarTree (c : Char) (rest : Text) : Tree :=
  if c = '"' then stringTree rest
  else if c = 'n' then readWord .null "ull".toList rest
  else if c = 't' then readWord (.boolean true) "rue".toList rest
  else if c = 'f' then readWord (.boolean false) "alse".toList rest
  else if c = '-' ∨ c.isDigit then numberTree (c :: rest)
  else .fault (.ofFault .expectedValue (.within (c :: rest)))

/-- The letters of a word are taken from the text. -/
theorem length_le_of_readWord {s : Scalar} {word t rest : Text}
    (h : (readWord s word t).rest = .ok rest) : rest.length ≤ t.length := by
  fun_induction readWord s word t with
  | case1 t =>
    simp only [Tree.rest, Except.ok.injEq] at h
    simp [h]
  | case2 => simp [Tree.rest] at h
  | case3 word c t ih => exact Nat.le_succ_of_le (ih h)
  | case4 => simp [Tree.rest] at h

/-- A string takes at least its closing quote. -/
theorem length_lt_of_stringTree {t rest : Text} (h : (stringTree t).rest = .ok rest) :
    rest.length < t.length := by
  unfold stringTree at h
  split at h
  · rename_i hs
    simp only [Tree.rest, Except.ok.injEq] at h
    exact h ▸ length_lt_of_readString hs
  · simp [Tree.rest] at h

/-- A number takes at least one digit. -/
theorem length_lt_of_numberTree {t rest : Text} (h : (numberTree t).rest = .ok rest) :
    rest.length < t.length := by
  unfold numberTree at h
  split at h
  · rename_i hn
    simp only [Tree.rest, Except.ok.injEq] at h
    exact h ▸ length_lt_of_readNumber hn
  · simp [Tree.rest] at h

/-- What is left behind a scalar is no more than what its first character left. -/
theorem length_le_of_scalarTree {c : Char} {t rest : Text}
    (h : (scalarTree c t).rest = .ok rest) : rest.length ≤ t.length := by
  unfold scalarTree at h
  split at h
  · exact Nat.le_of_lt (length_lt_of_stringTree h)
  · split at h
    · exact length_le_of_readWord h
    · split at h
      · exact length_le_of_readWord h
      · split at h
        · exact length_le_of_readWord h
        · split at h
          · exact Nat.le_of_lt_succ (length_lt_of_numberTree h)
          · simp [Tree.rest] at h

end Json

end SwiftDecl
