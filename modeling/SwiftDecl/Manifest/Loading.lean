import SwiftDecl.Manifest.Reader

/-!
# Loading a manifest

What a path leads to may not be readable, may be no manifest, or may hold an entry that is rejected.
Each error has a message, a code, a cause and perhaps some help. If there is none, the declarations
of all entries are there.
-/

namespace SwiftDecl

namespace Manifest

/-- Why what a path leads to is no text. -/
inductive Unreadable where
  | missing | directory | notDirectory | notText
deriving DecidableEq

/-- The wording of an obstacle to reading. -/
def Unreadable.message : Unreadable → Text
  | missing => "No such file or directory (os error 2)".toList
  | directory => "Is a directory (os error 21)".toList
  | notDirectory => "Not a directory (os error 20)".toList
  | notText => "stream did not contain valid UTF-8".toList

/-- What is wrong with a manifest. -/
inductive LoadError where
  | unreadable (path : Text) (why : Unreadable)
  | malformed (e : Json.Error)
  | invalid (index : Nat) (r : Rejection)
deriving DecidableEq

namespace LoadError

/-- The wording of an error. -/
def message : LoadError → Text
  | unreadable path _ => "failed to read manifest ".toList ++ path.inBackticks
  | malformed _ => "malformed manifest".toList
  | invalid index _ =>
    "function #".toList ++ Text.ofNat index ++ " in manifest is invalid".toList

/-- The code by which an error is known. -/
def code : LoadError → Text
  | unreadable _ _ => "resgen::manifest::io".toList
  | malformed _ => "resgen::manifest::json".toList
  | invalid _ _ => "resgen::manifest::invalid_declaration".toList

/-- What to do about an error. -/
def help? : LoadError → Option Text
  | unreadable _ _ => none
  | malformed _ => some "a manifest is a JSON object with a \x60functions\x60 array".toList
  | invalid _ _ =>
    some
      "check the entry's name, generics clause and parameter names against the cause below".toList

/-- The wording of what lies behind an error. -/
def cause : LoadError → Text
  | unreadable _ why => why.message
  | malformed e => e.message
  | invalid _ r => r.message

end LoadError

/-- The text in the bytes of a file, which must be UTF-8. -/
def textOfBytes (bytes : ByteArray) : Except Unreadable Text :=
  match String.fromUTF8? bytes with
  | some s => .ok s.toList
  | none => .error .notText

/-- The manifest in a text. -/
def parse (t : Text) : Except LoadError Manifest :=
  (ofText t).mapError .malformed

/-- The declarations of a manifest. -/
def declarations (m : Manifest) : Except LoadError DeclarationSet :=
  m.toDeclarations.mapError fun (index, r) => .invalid index r

/-- **Loads declarations** from what a path leads to: a text, or an obstacle to reading it. -/
def load (path : Text) (content : Except Unreadable Text) : Except LoadError DeclarationSet := do
  let t ← content.mapError (.unreadable path)
  let m ← parse t
  m.declarations

end Manifest

end SwiftDecl
