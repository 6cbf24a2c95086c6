import SwiftDecl.Layout.Render
import SwiftDecl.Proofs.Layout.Writer

/-!
# The text of a function, line by line

The text of a function is a row of parts with line feeds between them: its documentation lines, the
opening of its body, the body lines and the closing brace (`renderFunction_eq_joined`). Of these the
opening alone may go over several lines, for it holds the signature as it is.
-/

namespace SwiftDecl

namespace Function

/-- The lines of all comments. -/
def documentation (f : Function) : List Text :=
  f.comments.flatMap commentLines

/-- The documentation lines of a function, each with its line feed. -/
def documentationText (f : Function) : Text :=
  (f.documentation.map documentationLine).flatMap (· ++ ['\n'])

/-- The signature and the brace that opens the body. -/
def opening (f : Function) : Text :=
  f.signature ++ " \x7b".toList

/-- The lines of the body, those of white space left empty. A blank body has none. -/
def bodyLines (f : Function) : List Text :=
  if f.body.isBlank then [] else f.body.lines.map Text.withoutBlank

end Function

namespace Layout

open Writer (indented)

variable {config : Config} {f : Function} {w : Writer}

/-- The lines of the body and the brace that closes it. -/
def closingParts (config : Config) (f : Function) : List Text :=
  f.bodyLines.map (indented config.indentUnit) ++ ["\x7d".toList]

/-- **The parts of a function's text**, each of which starts a line. -/
def functionParts (config : Config) (f : Function) : List Text :=
  f.documentation.map documentationLine ++ f.opening :: closingParts config f

/-! ## Documentation -/

@[simp] theorem level_writeDocumentation : (writeDocumentation f w).level = w.level := by
  unfold writeDocumentation
  induction f.comments.flatMap commentLines generalizing w with
  | nil => rfl
  | cons line ls ih => rw [List.foldl_cons, ih, Writer.level_writeLine]

@[simp] theorem unit_writeDocumentation : (writeDocumentation f w).unit = w.unit := by
  unfold writeDocumentation
  induction f.comments.flatMap commentLines generalizing w with
  | nil => rfl
  | cons line ls ih => rw [List.foldl_cons, ih, Writer.unit_writeLine]

/-- The documentation stands at the end, each line with its line feed. -/
theorem text_writeDocumentation (h : w.level = 0) :
    (writeDocumentation f w).text
      = w.text ++ (f.documentation.map documentationLine).flatMap (· ++ ['\n']) := by
  unfold writeDocumentation Function.documentation
  induction f.comments.flatMap commentLines generalizing w with
  | nil => simp
  | cons line ls ih =>
    rw [List.foldl_cons, ih (Writer.level_writeLine.trans h), Writer.text_writeLine_outermost h]
    simp only [List.map_cons, List.flatMap_cons, List.append_assoc]

/-! ## The body -/

@[simp] theorem level_writeBody : (writeBody f w).level = w.level := by
  unfold writeBody
  split
  · rfl
  · rw [Writer.level_newline, Writer.dedent, Writer.level_writeBlock]
    simp [Writer.indent]

/-- A body that is not blank is written line by line, one level further in. -/
theorem text_writeBlock_indent {body : Text} (hlevel : w.level = 0) (hstart : w.atLineStart) :
    (w.indent.writeBlock body).text
      = w.text ++ Text.joined ['\n']
          ((body.lines.map Text.withoutBlank).map (indented w.unit)) := by
  have hunit : w.indent.indentation = w.unit := by simp [Writer.indent, Writer.indentation, hlevel]
  have hstart' : w.indent.atLineStart := hstart
  rw [Writer.writeBlock, Writer.text_writeLines_atLineStart hstart', hunit]
  rfl

/-- The body stands at the end, each line with its line feed. -/
theorem text_writeBody (hlevel : w.level = 0) (hstart : w.atLineStart) :
    (writeBody f w).text
      = w.text ++ (f.bodyLines.map (indented w.unit)).flatMap (· ++ ['\n']) := by
  unfold writeBody Function.bodyLines
  split
  · simp
  · rename_i hblank
    have hlines : f.body.lines ≠ [] :=
      mt Text.lines_eq_nil_iff.1 (Text.ne_nil_of_not_isBlank hblank)
    have hdedent : ∀ v : Writer, v.dedent.newline.text = v.text ++ ['\n'] := fun v =>
      Writer.text_newline
    rw [hdedent, text_writeBlock_indent hlevel hstart, List.append_assoc,
      Text.joined_append_separator (by simpa using hlines)]

/-! ## The whole -/

/-- The writer of a function when its body has been opened. -/
def opened (config : Config) (f : Function) : Writer :=
  ((writeDocumentation f (.start config.indentUnit)).write f.signature).writeLine " \x7b".toList

theorem level_opened : (opened config f).level = 0 := by
  simp [opened, Writer.start]

theorem unit_opened : (opened config f).unit = config.indentUnit := by
  simp [opened, Writer.start]

theorem text_opened :
    (opened config f).text
      = (f.documentation.map documentationLine).flatMap (· ++ ['\n']) ++ f.opening ++ ['\n'] := by
  have hlevel : (writeDocumentation f (.start config.indentUnit)).level = 0 :=
    level_writeDocumentation
  rw [opened, Writer.text_writeLine_outermost (by rw [Writer.level_write, hlevel]),
    Writer.text_write_outermost hlevel, text_writeDocumentation rfl, Writer.text_start,
    Function.opening]
  simp only [List.nil_append, List.append_assoc]

/-- **The text of a function is its parts in a row.** -/
theorem renderFunction_eq_joined (config : Config) (f : Function) :
    renderFunction config f = Text.joined ['\n'] (functionParts config f) := by
  have hclosing : Text.joined ['\n'] (closingParts config f)
      = (f.bodyLines.map (indented config.indentUnit)).flatMap (· ++ ['\n']) ++ "\x7d".toList :=
    Text.joined_append_of_ne_nil _ (List.cons_ne_nil _ _)
  calc renderFunction config f
      = (writeBody f (opened config f)).text ++ "\x7d".toList :=
        Writer.text_write_outermost (level_writeBody.trans level_opened)
    _ = (f.documentation.map documentationLine).flatMap (· ++ ['\n']) ++ f.opening ++ ['\n']
          ++ Text.joined ['\n'] (closingParts config f) := by
        rw [text_writeBody level_opened rfl, text_opened, unit_opened, hclosing]
        simp only [List.append_assoc]
    _ = Text.joined ['\n'] (functionParts config f) := by
        rw [functionParts, Text.joined_append_of_ne_nil _ (List.cons_ne_nil _ _),
          Text.joined_cons_of_ne_nil (by simp [closingParts])]
        simp only [List.append_assoc]

/-- The opening starts behind the documentation, on a line of its own. -/
theorem renderFunction_eq_append (config : Config) (f : Function) :
    renderFunction config f
      = f.documentationText
        ++ (f.opening ++ '\n' :: Text.joined ['\n'] (closingParts config f)) := by
  have hclosing : closingParts config f ≠ [] := by simp [closingParts]
  rw [renderFunction_eq_joined, functionParts,
    Text.joined_append_of_ne_nil _ (List.cons_ne_nil _ _), Text.joined_cons_of_ne_nil hclosing,
    List.append_assoc]
  rfl

end Layout

end SwiftDecl
