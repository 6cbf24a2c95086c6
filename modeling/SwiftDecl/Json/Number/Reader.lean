import SwiftDecl.Json.Error
import SwiftDecl.Json.Number.Basic

/-!
# Reading numbers

A number without fraction and exponent is an integer as long as 64 bits hold it. Every other number
is a floating-point number: the digits are gathered into a significand of 64 bits, further digits
only move the exponent, and the result is scaled by powers of ten.
-/

namespace SwiftDecl

namespace Json

/-- The largest significand. -/
def greatestSignificand : Nat :=
  Nat.pow 2 64 - 1

/-- The largest exponent that is read digit by digit. -/
def greatestExponent : Nat :=
  Nat.pow 2 31 - 1

/-- The value of a decimal digit. -/
def digitValue (d : Char) : Nat :=
  d.toNat - '0'.toNat

/-- Appends digits to a number as long as a bound is kept, and counts those that are left out from
the first that does not fit. -/
def appendDigits (bound : Nat) : Nat → Text → Nat × Nat
  | n, [] => (n, 0)
  | n, d :: more =>
    if n * 10 + digitValue d ≤ bound then appendDigits bound (n * 10 + digitValue d) more
    else (n, more.length + 1)

/-- A power of ten, rounded. -/
def powerOfTen (k : Nat) : Decimal.Binary64 :=
  (Decimal.Binary64.ofRatio? (Nat.pow 10 k) 1).getD .zero

/-- The product of a number and a power of ten, or `none` if it is too large. A power beyond `10 ^
308` has no number of its own: a division by it is done in steps, and ends when nothing is left. -/
def scaled? (x : Decimal.Binary64) (exponent : Int) : Option Decimal.Binary64 :=
  if exponent.natAbs ≤ 308 then
    if 0 ≤ exponent then x.mul? (powerOfTen exponent.toNat)
    else x.div? (powerOfTen exponent.natAbs)
  else if x.significand = 0 then some x
  else if 0 ≤ exponent then none
  else ((x.div? (powerOfTen 308)).bind (scaled? · (exponent + 308)))
termination_by exponent.natAbs

/-- The float with a significand and a power of ten, if it is not too large. -/
def float? (negative : Bool) (significand : Nat) (exponent : Int) : Option Number :=
  ((Decimal.Binary64.ofRatio? significand 1).bind (scaled? · exponent)).map (.float negative)

/-- The number that has neither fraction nor exponent. A negative zero is a float, and so is what 64
bits with a sign cannot hold. -/
def Number.whole (negative : Bool) (significand : Nat) : Number :=
  if negative then
    if 0 < significand ∧ significand ≤ Nat.pow 2 63 then .integer (-significand)
    else .float true ((Decimal.Binary64.ofRatio? significand 1).getD .zero)
  else .integer significand

/-- A float and the text after it. -/
def finishFloat (negative : Bool) (significand : Nat) (exponent : Int) (rest : Text) :
    Except Refusal (Number × Text) :=
  match float? negative significand exponent with
  | some n => .ok (n, rest)
  | none => .error (.ofFault .numberOutOfRange (.before rest))

/-- The digits at the start of a text. -/
def leadingDigits (t : Text) : Text :=
  t.takeWhile Char.isDigit

/-- A text without the digits at its start. -/
def afterDigits (t : Text) : Text :=
  t.dropWhile Char.isDigit

/-- The sign and the remainder of an exponent. -/
def exponentSign : Text → Bool × Text
  | '+' :: rest => (false, rest)
  | '-' :: rest => (true, rest)
  | rest => (false, rest)

/-- Reads an exponent after its mark. One that is too large to count makes the number zero, unless
it would make it large: then it is out of range at the first digit too many. -/
def readExponent (negative : Bool) (significand : Nat) (exponent : Int) (t : Text) :
    Except Refusal (Number × Text) :=
  let (down, digitsOn) := exponentSign t
  let digits := leadingDigits digitsOn
  let rest := afterDigits digitsOn
  if digitsOn.isEmpty then .error (.ofFault .valueEnds (.before digitsOn))
  else if digits.isEmpty then .error (.ofFault .invalidNumber (.within digitsOn))
  else
    let (amount, leftOut) := appendDigits greatestExponent 0 digits
    if 0 < leftOut then
      if significand ≠ 0 ∧ !down then
        .error (.ofFault .numberOutOfRange (.before (digitsOn.drop (digits.length - leftOut + 1))))
      else .ok (.float negative .zero, rest)
    else
      finishFloat negative significand (if down then exponent - amount else exponent + amount) rest

/-- Reads what may follow the significand and its fraction. -/
def readScale (negative : Bool) (significand : Nat) (exponent : Int) :
    Text → Except Refusal (Number × Text)
  | 'e' :: rest => readExponent negative significand exponent rest
  | 'E' :: rest => readExponent negative significand exponent rest
  | rest => finishFloat negative significand exponent rest

/-- Reads a fraction after its point. -/
def readFraction (negative : Bool) (significand : Nat) (exponent : Int) (t : Text) :
    Except Refusal (Number × Text) :=
  let digits := leadingDigits t
  if t.isEmpty then .error (.ofFault .valueEnds (.before t))
  else if digits.isEmpty then .error (.ofFault .invalidNumber (.within t))
  else
    let (extended, leftOut) := appendDigits greatestSignificand significand digits
    readScale negative extended (exponent - ((digits.length - leftOut : Nat) : Int)) (afterDigits t)

/-- Reads what follows the whole part, of which `leftOut` digits are not in the significand. -/
def readTail (negative : Bool) (significand leftOut : Nat) : Text → Except Refusal (Number × Text)
  | '.' :: rest => readFraction negative significand leftOut rest
  | 'e' :: rest => readExponent negative significand leftOut rest
  | 'E' :: rest => readExponent negative significand leftOut rest
  | rest =>
    if leftOut = 0 then .ok (.whole negative significand, rest)
    else finishFloat negative significand leftOut rest

/-- Reads a number after its sign. A zero stands alone before the point. -/
def readUnsigned (negative : Bool) (t : Text) : Except Refusal (Number × Text) :=
  let digits := leadingDigits t
  let rest := afterDigits t
  match digits with
  | [] =>
    if t.isEmpty then .error (.ofFault .valueEnds (.before t))
    else .error (.ofFault .invalidNumber (.within t))
  | '0' :: _ :: _ => .error (.ofFault .invalidNumber (.within (t.drop 1)))
  | _ =>
    let (significand, leftOut) := appendDigits greatestSignificand 0 digits
    readTail negative significand leftOut rest

/-- Reads a number that starts with a minus sign or a digit. -/
def readNumber : Text → Except Refusal (Number × Text)
  | '-' :: rest => readUnsigned true rest
  | t => readUnsigned false t

/-! ## What is left to read

Every step leaves at most what it was given, and a whole number takes at least one digit. -/

/-- Cutting off the digits loses nothing. -/
theorem leadingDigits_append_afterDigits (t : Text) : leadingDigits t ++ afterDigits t = t :=
  List.takeWhile_append_dropWhile

/-- Skipping digits leaves no more than there was. -/
theorem length_afterDigits_le (t : Text) : (afterDigits t).length ≤ t.length :=
  (List.dropWhile_sublist _).length_le

/-- Skipping a sign leaves no more than there was. -/
theorem length_exponentSign_le (t : Text) : (exponentSign t).2.length ≤ t.length := by
  unfold exponentSign
  split <;> simp

/-- Scaling a float takes nothing. -/
theorem eq_of_finishFloat {negative : Bool} {significand : Nat} {exponent : Int} {t rest : Text}
    {n : Number} (h : finishFloat negative significand exponent t = .ok (n, rest)) : rest = t := by
  unfold finishFloat at h
  split at h <;> simp_all

/-- An exponent leaves no more than there was. -/
theorem length_le_of_readExponent {negative : Bool} {significand : Nat} {exponent : Int}
    {t rest : Text} {n : Number}
    (h : readExponent negative significand exponent t = .ok (n, rest)) :
    rest.length ≤ t.length := by
  have hrest : rest = afterDigits (exponentSign t).2 := by
    simp only [readExponent] at h
    split at h
    · simp at h
    · split at h
      · simp at h
      · split at h
        · split at h <;> simp_all
        · exact eq_of_finishFloat h
  rw [hrest]
  exact Nat.le_trans (length_afterDigits_le _) (length_exponentSign_le t)

/-- An exponent that may be absent leaves no more than there was. -/
theorem length_le_of_readScale {negative : Bool} {significand : Nat} {exponent : Int}
    {t rest : Text} {n : Number} (h : readScale negative significand exponent t = .ok (n, rest)) :
    rest.length ≤ t.length := by
  unfold readScale at h
  split at h
  · exact Nat.le_succ_of_le (length_le_of_readExponent h)
  · exact Nat.le_succ_of_le (length_le_of_readExponent h)
  · exact Nat.le_of_eq (congrArg List.length (eq_of_finishFloat h))

/-- A fraction leaves no more than there was. -/
theorem length_le_of_readFraction {negative : Bool} {significand : Nat} {exponent : Int}
    {t rest : Text} {n : Number}
    (h : readFraction negative significand exponent t = .ok (n, rest)) :
    rest.length ≤ t.length := by
  simp only [readFraction] at h
  split at h
  · simp at h
  · split at h
    · simp at h
    · exact Nat.le_trans (length_le_of_readScale h) (length_afterDigits_le t)

/-- What follows the whole part leaves no more than there was. -/
theorem length_le_of_readTail {negative : Bool} {significand leftOut : Nat} {t rest : Text}
    {n : Number} (h : readTail negative significand leftOut t = .ok (n, rest)) :
    rest.length ≤ t.length := by
  unfold readTail at h
  split at h
  · exact Nat.le_succ_of_le (length_le_of_readFraction h)
  · exact Nat.le_succ_of_le (length_le_of_readExponent h)
  · exact Nat.le_succ_of_le (length_le_of_readExponent h)
  · split at h
    · simp_all
    · exact Nat.le_of_eq (congrArg List.length (eq_of_finishFloat h))

/-- The whole part takes at least one digit. -/
theorem length_lt_of_readUnsigned {negative : Bool} {t rest : Text} {n : Number}
    (h : readUnsigned negative t = .ok (n, rest)) : rest.length < t.length := by
  have hsplit := congrArg List.length (leadingDigits_append_afterDigits t)
  simp only [List.length_append] at hsplit
  simp only [readUnsigned] at h
  split at h
  · split at h <;> simp at h
  · simp at h
  · rename_i hnil _
    have hle := length_le_of_readTail h
    have : 0 < (leadingDigits t).length := List.length_pos_iff.2 fun he => hnil he
    omega

/-- A number that was read took at least one character. -/
theorem length_lt_of_readNumber {t rest : Text} {n : Number} (h : readNumber t = .ok (n, rest)) :
    rest.length < t.length := by
  unfold readNumber at h
  split at h
  · exact Nat.lt_succ_of_lt (length_lt_of_readUnsigned h)
  · exact length_lt_of_readUnsigned h

end Json

end SwiftDecl
