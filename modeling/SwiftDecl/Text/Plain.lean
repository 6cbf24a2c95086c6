import SwiftDecl.Text.Basic

/-!
# Text without control sequences

A text for a reader that is no terminal. Control characters are left out, and so are the sequences
by which a text tells a terminal what to do: an escape character and what belongs to it. The control
characters that lay a text out stay where they are, even inside most sequences.
-/

namespace SwiftDecl

namespace Text

/-- The control sequence that is open at a point of a text. -/
inductive Sequence where
  /-- No sequence: what follows is text. -/
  | none
  /-- An escape character, and nothing after it. -/
  | escape
  /-- An escape character and others that do not end its sequence. -/
  | intermediate
  /-- A sequence with parameters, opened by a bracket. -/
  | parameters
  /-- A command to the system around the terminal, which a bell ends. -/
  | command
  /-- A string for the terminal, which the byte 9C ends. -/
  | string
deriving DecidableEq

/-- Whether a control character lays a text out. -/
def isLayout (c : Char) : Bool :=
  c == '\t' || c == '\n' || c == '\x0C' || c == '\r'

/-- Whether a character stays in a text where no sequence is open. Of the control characters these
are the ones that lay it out; those from U+0080 on count as text. -/
def isShown (c : Char) : Bool :=
  (0x20 ≤ c.toNat && c.toNat != 0x7F) || isLayout c

namespace Sequence

/-- Whether a character stays in the text where a sequence is open. -/
def shows : Sequence → Char → Bool
  | none, c => isShown c
  | escape, c | intermediate, c | parameters, c => isLayout c
  | command, _ | string, _ => false

/-- The sequence that is open after a character. An escape character opens one anywhere, and two
control characters cancel whatever is open. -/
def after (s : Sequence) (c : Char) : Sequence :=
  if c = '\x1B' then escape
  else if c = '\x18' ∨ c = '\x1A' then none
  else
    match s with
    | none => none
    | escape =>
      if c = '[' then parameters
      else if c = ']' then command
      else if c = 'P' ∨ c = 'X' ∨ c = '^' ∨ c = '_' then string
      else if ' ' ≤ c ∧ c ≤ '/' then intermediate
      else if '0' ≤ c ∧ c ≤ '~' then none
      else escape
    | intermediate => if '0' ≤ c ∧ c ≤ '~' then none else intermediate
    | parameters => if '@' ≤ c ∧ c ≤ '~' then none else parameters
    | command => if c = '\x07' then none else command
    | string => if (String.utf8EncodeChar c).contains 0x9C then none else string

end Sequence

/-- What stays of a text while a sequence is open. After a character that stays, all text stays up
to the next control character, which takes the sequence up again. -/
def shownWithin : Sequence → Bool → Text → Text
  | _, _, [] => []
  | s, isShowing, c :: rest =>
    if isShowing && isShown c then
      c :: shownWithin (if c.toNat < 0x80 then s else .none) true rest
    else if s.shows c then c :: shownWithin (s.after c) true rest
    else shownWithin (s.after c) false rest

/-- A text without its control sequences. -/
def withoutSequences (t : Text) : Text :=
  shownWithin .none false t

end Text

end SwiftDecl
