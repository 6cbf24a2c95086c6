import SwiftDecl.Layout.Writer
import SwiftDecl.Proofs.Text.Lines

/-!
# What a writer has written

Each step of writing adds to the end of the text. At the outermost level there is no indentation, so
what is added there is what was asked for, line starts or not: a block adds itself, tidied up.
Further in, lines that are written from the start of a line are `indented`, the empty ones excepted.
-/

namespace SwiftDecl

namespace Layout

namespace Writer

variable {w : Writer} {t block : Text} {n : Nat}

/-! ## Levels -/

@[simp] theorem level_newline : w.newline.level = w.level := rfl

@[simp] theorem level_write : (w.write t).level = w.level := by
  unfold write
  split <;> rfl

@[simp] theorem level_writeLine : (w.writeLine t).level = w.level := level_write

@[simp] theorem level_blankLines : (w.blankLines n).level = w.level := by
  induction n generalizing w with
  | zero => rfl
  | succ n ih => rw [blankLines, ih, level_newline]

@[simp] theorem level_writeLines {ls : List Text} : (w.writeLines ls).level = w.level := by
  fun_induction writeLines ls w with
  | case1 => rfl
  | case2 => exact level_write
  | case3 line more w _ ih => rw [ih, level_writeLine]

@[simp] theorem level_writeBlock : (w.writeBlock block).level = w.level := level_writeLines

/-! ## Texts -/

@[simp] theorem text_start {unit : Text} : (start unit).text = [] := rfl

@[simp] theorem text_newline : w.newline.text = w.text ++ ['\n'] := List.reverse_cons

@[simp] theorem text_blankLines : (w.blankLines n).text = w.text ++ List.replicate n '\n' := by
  induction n generalizing w with
  | zero => simp [blankLines]
  | succ n ih => rw [blankLines, ih, text_newline, List.append_assoc, List.replicate_succ]; rfl

/-- What is written stands at the end, behind the indentation if it starts its line. -/
theorem text_write (h : t ≠ []) :
    (w.write t).text = w.text ++ (if w.atLineStart then w.indentation else []) ++ t := by
  rw [write, if_neg (by simpa using h)]
  cases w.atLineStart <;> simp [text]

/-- At the outermost level nothing is put before a text. -/
theorem text_write_outermost (h : w.level = 0) : (w.write t).text = w.text ++ t := by
  rcases eq_or_ne t [] with rfl | ht
  · simp [write]
  · simp [text_write ht, indentation, h]

theorem text_writeLine_outermost (h : w.level = 0) :
    (w.writeLine t).text = w.text ++ t ++ ['\n'] := by
  rw [writeLine, text_newline, text_write_outermost h]

theorem text_writeLines_outermost {ls : List Text} (h : w.level = 0) :
    (w.writeLines ls).text = w.text ++ Text.joined ['\n'] ls := by
  fun_induction writeLines ls w with
  | case1 => simp [Text.joined]
  | case2 line w => rw [text_write_outermost h, Text.joined]
  | case3 line more w hmore ih =>
    rw [ih (level_writeLine.trans h), text_writeLine_outermost h, Text.joined_cons_of_ne_nil hmore]
    simp only [List.append_assoc]

/-- **At the outermost level a block is written tidied up.** -/
theorem text_writeBlock_outermost (h : w.level = 0) :
    (w.writeBlock block).text = w.text ++ block.tidied :=
  text_writeLines_outermost h

/-! ## Indentation -/

/-- A line behind an indentation. The empty line has none. -/
def indented (indentation line : Text) : Text :=
  if line.isEmpty then [] else indentation ++ line

@[simp] theorem unit_write : (w.write t).unit = w.unit := by
  unfold write
  split <;> rfl

@[simp] theorem unit_writeLine : (w.writeLine t).unit = w.unit := unit_write

theorem indentation_writeLine : (w.writeLine t).indentation = w.indentation := by
  rw [indentation, indentation, level_writeLine, unit_writeLine]

/-- What is written at the start of a line is indented. -/
theorem text_write_atLineStart (h : w.atLineStart) :
    (w.write t).text = w.text ++ indented w.indentation t := by
  rcases eq_or_ne t [] with rfl | ht
  · simp [write, indented]
  · simp [text_write ht, indented, h, ht]

/-- **Lines that are written from the start of a line** are indented one by one. -/
theorem text_writeLines_atLineStart {ls : List Text} (h : w.atLineStart) :
    (w.writeLines ls).text = w.text ++ Text.joined ['\n'] (ls.map (indented w.indentation)) := by
  fun_induction writeLines ls w with
  | case1 => simp [Text.joined]
  | case2 line w =>
    rw [text_write_atLineStart h]
    rfl
  | case3 line more w hmore ih =>
    have hmore' : more.map (indented w.indentation) ≠ [] := by simpa using hmore
    rw [ih rfl, List.map_cons, Text.joined_cons_of_ne_nil hmore', indentation_writeLine, writeLine,
      text_newline, text_write_atLineStart h]
    simp only [List.append_assoc]

end Writer

end Layout

end SwiftDecl
