import SwiftDecl.Text.Basic

/-!
# Reserved words

The words of Swift that cannot stand as a bare identifier.
-/

namespace SwiftDecl

/-- The reserved words: of declarations, then of statements, then of expressions and types. -/
def keywords : List String :=
  ["associatedtype", "class", "deinit", "enum", "extension", "fileprivate", "func", "import",
    "init", "inout", "internal", "let", "open", "operator", "private", "precedencegroup",
    "protocol", "public", "rethrows", "static", "struct", "subscript", "typealias", "var",
    "break", "case", "catch", "continue", "default", "defer", "do", "else", "fallthrough", "for",
    "guard", "if", "in", "repeat", "return", "switch", "throw", "where", "while",
    "Any", "as", "false", "is", "nil", "self", "Self", "super", "throws", "true", "try"]

/-- Whether a word is reserved, capitals and small letters being told apart. -/
def isKeyword (word : Text) : Bool :=
  keywords.any (·.toList == word)

end SwiftDecl
