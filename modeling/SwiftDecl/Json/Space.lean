import SwiftDecl.Text.Basic

/-!
# White space of a document

Space, tab and the two line-end characters, and no others, may stand between the parts of a
document.
-/

namespace SwiftDecl

namespace Json

/-- Whether a character is JSON's white space. -/
def isSpace (c : Char) : Bool :=
  c == ' ' || c == '\n' || c == '\t' || c == '\r'

/-- A text without the white space at its start. -/
def skipSpace (t : Text) : Text :=
  t.dropWhile isSpace

/-- Skipping white space leaves no more than there was. -/
theorem length_skipSpace_le (t : Text) : (skipSpace t).length ≤ t.length :=
  (List.dropWhile_sublist _).length_le

/-- What lies behind the first character after white space is shorter. -/
theorem length_lt_of_skipSpace {c : Char} {t rest : Text} (h : skipSpace t = c :: rest) :
    rest.length < t.length := by
  have := length_skipSpace_le t
  rw [h, List.length_cons] at this
  omega

end Json

end SwiftDecl
