import SwiftDecl.Proofs.Function.Validation
import SwiftDecl.Proofs.Layout.Composition
import SwiftDecl.Proofs.Layout.FunctionText
import SwiftDecl.Proofs.Text.Joined

/-!
# The outline of a function's text

The text of a function comes out of a writer that goes back and forth between levels and line
starts, and tells blank lines, blank bodies and empty comments apart on its way. What it comes to
can be said without a writer, comment by comment and line by line: the `outline` of the function,
with line feeds between its entries (`renderFunction_outline`). Nothing is asked of the texts: an
entry may hold a line feed itself, if the signature does or the unit of indentation.
-/

namespace SwiftDecl

namespace Layout

variable {config : Config} {f : Function}

/-- A comment in the outline: each of its lines behind the mark and a blank, and the mark alone for
a line of white space. The empty comment counts as one empty line. -/
def documentedLines (comment : Text) : List Text :=
  if comment = [] then ["///".toList]
  else comment.lines.map fun line =>
    if line.isBlank then "///".toList else "/// ".toList ++ line

/-- A body in the outline: each of its lines one unit further in, and an empty line for a line of
white space. A body of white space has no lines. -/
def indentedLines (unit body : Text) : List Text :=
  if body.isBlank then []
  else body.lines.map fun line => if line.isBlank then [] else unit ++ line

/-- **The outline of a function**: documentation, opening, body and closing brace. -/
def outline (config : Config) (f : Function) : List Text :=
  f.comments.flatMap documentedLines
    ++ (f.signature ++ " \x7b".toList)
      :: (indentedLines config.indentUnit f.body ++ ["\x7d".toList])

/-- Every comment is documented on a line at least. -/
theorem documentedLines_ne_nil (comment : Text) : documentedLines comment ≠ [] := by
  unfold documentedLines
  split_ifs with h
  · exact List.cons_ne_nil _ _
  · rw [Ne, List.map_eq_nil_iff, Text.lines_eq_nil_iff]
    exact h

theorem indentedLines_eq_nil_iff {unit body : Text} :
    indentedLines unit body = [] ↔ body.isBlank := by
  unfold indentedLines
  split_ifs with h
  · exact iff_of_true rfl h
  · refine iff_of_false (fun hnil => ?_) h
    rw [List.map_eq_nil_iff, Text.lines_eq_nil_iff] at hnil
    exact Text.ne_nil_of_not_isBlank h hnil

theorem map_documentationLine (comment : Text) :
    (commentLines comment).map documentationLine = documentedLines comment := by
  unfold commentLines documentedLines
  cases comment with
  | nil => rfl
  | cons c rest => rfl

theorem indented_withoutBlank (unit line : Text) :
    Writer.indented unit line.withoutBlank = if line.isBlank then [] else unit ++ line := by
  by_cases hblank : line.isBlank
  · rw [Text.withoutBlank, if_pos hblank, if_pos hblank]
    rfl
  · have hne : line.isEmpty = false :=
      List.isEmpty_eq_false_iff.2 (Text.ne_nil_of_not_isBlank hblank)
    rw [Text.withoutBlank, if_neg hblank, if_neg hblank, Writer.indented, hne]
    rfl

theorem map_indented (unit : Text) (f : Function) :
    f.bodyLines.map (Writer.indented unit) = indentedLines unit f.body := by
  unfold Function.bodyLines indentedLines
  split_ifs with h
  · rfl
  · rw [List.map_map]
    exact List.map_congr_left fun line _ => indented_withoutBlank unit line

theorem functionParts_eq_outline (config : Config) (f : Function) :
    functionParts config f = outline config f := by
  rw [functionParts, closingParts, map_indented, Function.documentation, List.map_flatMap]
  simp only [map_documentationLine]
  rfl

/-- **The text of a function is its outline**, with line feeds between the entries and none at the
end. Every comment has a line at least, and a body of white space has none. -/
theorem renderFunction_outline (config : Config) (f : Function) :
    renderFunction config f = List.intercalate ['\n'] (outline config f) ∧
      (renderFunction config f).getLast? = some '\x7d' ∧
      (∀ comment ∈ f.comments, documentedLines comment ≠ []) ∧
      (indentedLines config.indentUnit f.body = [] ↔ f.body.isBlank) := by
  refine ⟨?_, getLast?_renderFunction, fun comment _ => documentedLines_ne_nil comment,
    indentedLines_eq_nil_iff⟩
  rw [renderFunction_eq_joined, functionParts_eq_outline, Text.joined_eq_intercalate]

/-- An empty comment, white space on lines of their own, and carriage returns at line ends. -/
example :
    outline .standard ((Draft.named "reset".toList).editedBy
      [.comments [[], "Drops\r\n \nall.\n".toList], .body "\n a()\r\n\t\n".toList]).finished
      = ["///".toList, "/// Drops".toList, "///".toList, "/// all.".toList,
        "func reset() \x7b".toList, [], "     a()".toList, [], "\x7d".toList] := by
  decide +kernel

end Layout

end SwiftDecl
