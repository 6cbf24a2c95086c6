import SwiftDecl.Text.Basic
import SwiftDecl.Unicode.Visible

/-!
# Quoted text

How a text is shown inside a message: between double quotes, with every character that would be
invisible or ambiguous there written as an escape.
-/

namespace SwiftDecl

namespace Text

/-- A code point as `\u` and its hexadecimal digits in braces. -/
def codePointEscape (c : Char) : Text :=
  "\\u\x7b".toList ++ Nat.toDigits 16 c.toNat ++ "\x7d".toList

/-- A character as it stands between double quotes. -/
def quotedChar (c : Char) : Text :=
  if c = '\x00' then "\\0".toList
  else if c = '\t' then "\\t".toList
  else if c = '\r' then "\\r".toList
  else if c = '\n' then "\\n".toList
  else if c = '"' then "\\\"".toList
  else if c = '\\' then "\\\\".toList
  else if Unicode.isVisible c then [c]
  else codePointEscape c

/-- A text in double quotes, with single quotes left alone. -/
def quoted (t : Text) : Text :=
  '"' :: t.flatMap quotedChar ++ ['"']

end Text

end SwiftDecl
