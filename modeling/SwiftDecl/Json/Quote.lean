import SwiftDecl.Json.Error

/-!
# Strings of a document

A string stands between double quotes. A backslash starts an escape: one of the short ones, or `u`
and four hexadecimal digits, the unit of UTF-16 they name being a character or half of a surrogate
pair whose other half must follow at once.
-/

namespace SwiftDecl

namespace Json

/-- The value of a hexadecimal digit. -/
def hexValue? (d : Char) : Option Nat :=
  if d.isDigit then some (d.toNat - '0'.toNat)
  else if 'a' ≤ d ∧ d ≤ 'f' then some (d.toNat - 'a'.toNat + 10)
  else if 'A' ≤ d ∧ d ≤ 'F' then some (d.toNat - 'A'.toNat + 10)
  else none

/-- The UTF-16 unit that four hexadecimal digits name. -/
def hexUnit? (a b c d : Char) : Option Nat := do
  return (((← hexValue? a) * 16 + (← hexValue? b)) * 16 + (← hexValue? c)) * 16 + (← hexValue? d)

/-- What is wrong where four hexadecimal digits do not start the text: it ends within four bytes, or
some of these are no digits. -/
def unitFault (t : Text) : Refusal :=
  if t.utf8Length < 4 then .ofFault .stringEnds (.before [])
  else .ofFault .invalidEscape ⟨t, 4⟩

/-- What is wrong where the second half of a surrogate pair does not start the text. -/
def pairFault (t : Text) : Refusal :=
  match t with
  | [] => .ofFault .stringEnds (.before t)
  | '\\' :: [] => .ofFault .stringEnds (.before [])
  | '\\' :: rest => .ofFault .escapeEnds (.within rest)
  | _ => .ofFault .escapeEnds (.within t)

/-- Whether a UTF-16 unit is the first half of a surrogate pair. -/
def isLeadingSurrogate (unit : Nat) : Bool :=
  0xD800 ≤ unit && unit ≤ 0xDBFF

/-- Whether a UTF-16 unit is the second half of a surrogate pair. -/
def isTrailingSurrogate (unit : Nat) : Bool :=
  0xDC00 ≤ unit && unit ≤ 0xDFFF

/-- The character of a surrogate pair. -/
def pairedChar (leading trailing : Nat) : Char :=
  Char.ofNat ((leading - 0xD800) * 0x400 + (trailing - 0xDC00) + 0x10000)

/-- The character that a short escape stands for. -/
def shortEscape? (c : Char) : Option Char :=
  if c = '"' ∨ c = '\\' ∨ c = '/' then some c
  else if c = 'b' then some '\x08'
  else if c = 'f' then some '\x0c'
  else if c = 'n' then some '\n'
  else if c = 'r' then some '\r'
  else if c = 't' then some '\t'
  else none

/-- Puts a character in front of a string that was read. -/
def withChar (c : Char) : Except Refusal (Text × Text) → Except Refusal (Text × Text)
  | .ok (string, rest) => .ok (c :: string, rest)
  | .error e => .error e

/-- **Reads a string after its opening quote**, and gives its content and the text after the closing
quote. -/
def readString : Text → Except Refusal (Text × Text)
  | [] => .error (.ofFault .stringEnds (.before []))
  | '"' :: rest => .ok ([], rest)
  | '\\' :: 'u' :: a :: b :: c :: d :: rest =>
    match hexUnit? a b c d with
    | none => .error (unitFault (a :: b :: c :: d :: rest))
    | some unit =>
      if isTrailingSurrogate unit then .error (.ofFault .unpairedSurrogate (.before rest))
      else if isLeadingSurrogate unit then
        match rest with
        | '\\' :: 'u' :: a' :: b' :: c' :: d' :: rest =>
          match hexUnit? a' b' c' d' with
          | none => .error (unitFault (a' :: b' :: c' :: d' :: rest))
          | some trailing =>
            if isTrailingSurrogate trailing then
              withChar (pairedChar unit trailing) (readString rest)
            else .error (.ofFault .unpairedSurrogate (.before rest))
        | '\\' :: 'u' :: rest => .error (unitFault rest)
        | rest => .error (pairFault rest)
      else withChar (Char.ofNat unit) (readString rest)
  | '\\' :: 'u' :: rest => .error (unitFault rest)
  | '\\' :: [] => .error (.ofFault .stringEnds (.before []))
  | '\\' :: c :: rest =>
    match shortEscape? c with
    | some meant => withChar meant (readString rest)
    | none => .error (.ofFault .invalidEscape (.within (c :: rest)))
  | c :: rest =>
    if c.toNat < 0x20 then .error (.ofFault .controlCharacter (.within (c :: rest)))
    else withChar c (readString rest)

/-- A string that starts with a character goes on with a string that was read. -/
theorem exists_of_withChar {c : Char} {r : Except Refusal (Text × Text)} {s rest : Text}
    (h : withChar c r = .ok (s, rest)) : ∃ s', r = .ok (s', rest) := by
  cases r with
  | error e => simp [withChar] at h
  | ok p =>
    obtain ⟨s', rest'⟩ := p
    simp only [withChar, Except.ok.injEq, Prod.mk.injEq] at h
    exact ⟨s', by rw [h.2]⟩

/-- A string that was read took at least its closing quote. -/
theorem length_lt_of_readString {t s rest : Text} (h : readString t = .ok (s, rest)) :
    rest.length < t.length := by
  fun_induction readString t generalizing s rest
  case case2 => simp_all
  case case6 ih =>
    obtain ⟨s', h'⟩ := exists_of_withChar h
    have := ih h'
    simp only [List.length_cons]
    omega
  case case10 ih =>
    obtain ⟨s', h'⟩ := exists_of_withChar h
    have := ih h'
    simp only [List.length_cons]
    omega
  case case13 ih =>
    obtain ⟨s', h'⟩ := exists_of_withChar h
    have := ih h'
    simp only [List.length_cons]
    omega
  case case16 ih =>
    obtain ⟨s', h'⟩ := exists_of_withChar h
    exact Nat.lt_succ_of_lt (ih h')
  all_goals simp at h

end Json

end SwiftDecl
