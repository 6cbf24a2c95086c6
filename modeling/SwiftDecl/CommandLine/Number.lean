import SwiftDecl.Text.Basic

/-!
# Numbers on the command line

A number is written in decimal digits, perhaps after a plus sign, and must fit into 64 bits. It is
refused at the first character that makes it impossible.
-/

namespace SwiftDecl

namespace CommandLine

/-- Why a text is no number. -/
inductive NumberFault where
  | empty | invalidDigit | tooLarge
deriving DecidableEq

/-- The wording of a fault. -/
def NumberFault.message : NumberFault → Text
  | empty => "cannot parse integer from empty string".toList
  | invalidDigit => "invalid digit found in string".toList
  | tooLarge => "number too large to fit in target type".toList

/-- The first number that does not fit. -/
def numberLimit : Nat :=
  Nat.pow 2 64

/-- Appends digits to a number, each of which must be one and must fit. -/
def appendDigits : Nat → Text → Except NumberFault Nat
  | n, [] => .ok n
  | n, d :: more =>
    if !d.isDigit then .error .invalidDigit
    else
      let extended := n * 10 + (d.toNat - '0'.toNat)
      if extended < numberLimit then appendDigits extended more else .error .tooLarge

/-- The number that a text is. -/
def readNumber : Text → Except NumberFault Nat
  | [] => .error .empty
  | ['+'] => .error .invalidDigit
  | '+' :: digits => appendDigits 0 digits
  | digits => appendDigits 0 digits

end CommandLine

end SwiftDecl
