import SwiftDecl.Proofs.Function.Validation
import SwiftDecl.Proofs.Layout.FunctionText

/-!
# Reading a function back from its text

Documentation, signature and body are free texts that stand one after the other without any count
of their lines. They can still be told apart where the signature is one line: the documentation ends
at the first line without the documentation mark, which is the opening, and the text ends with the
brace on a line of its own. What is lost is what the layout normalizes, how comments were grouped
and what white space stood alone on a line, and nothing else (`parts_of_renderFunction_eq`).
-/

namespace SwiftDecl

namespace Layout

open Writer (indented)

variable {config : Config} {f g : Function} {line unit : Text}

/-! ## Line by line -/

/-- Whether a line of rendered text bears the documentation mark. -/
def isDocumentation (line : Text) : Bool :=
  documentationMark.isPrefixOf line

theorem isDocumentation_documentationLine (line : Text) :
    isDocumentation (documentationLine line) = true := by
  unfold isDocumentation documentationLine
  rw [List.isPrefixOf_iff_prefix]
  split
  · exact List.prefix_refl _
  · exact List.prefix_append _ _

/-- The opening of a body starts with a word, so it bears no mark. -/
theorem isDocumentation_opening (f : Function) : isDocumentation f.opening = false := by
  unfold isDocumentation Function.opening Function.signature
  cases f.isStatic <;> rfl

/-- Behind the mark and the blank stands the line, if it is not blank. -/
theorem drop_documentationLine (line : Text) :
    (documentationLine line).drop 4 = line.withoutBlank := by
  unfold documentationLine Text.withoutBlank
  split <;> rfl

/-- Behind the indentation stands the line, and an empty line has neither. -/
theorem drop_indented (unit line : Text) : (indented unit line).drop unit.length = line := by
  unfold indented
  split
  · rename_i h
    rw [List.isEmpty_iff.1 h, List.drop_nil]
  · rw [List.drop_left]

/-! ## Parts without line feeds -/

theorem not_mem_documentationLine (h : '\n' ∉ line) : '\n' ∉ documentationLine line := by
  unfold documentationLine
  split
  · decide
  · rw [List.mem_append, List.mem_cons]
    rintro (hmark | hblank | hline)
    · exact absurd hmark (by decide)
    · exact absurd hblank (by decide)
    · exact h hline

theorem not_mem_of_mem_documentation (h : line ∈ f.documentation) : '\n' ∉ line := by
  obtain ⟨comment, -, hline⟩ := List.mem_flatMap.1 h
  unfold commentLines at hline
  split at hline
  · rw [List.mem_singleton.1 hline]
    exact List.not_mem_nil
  · exact Text.not_mem_of_mem_lines hline

theorem not_mem_indented (hunit : '\n' ∉ unit) (h : '\n' ∉ line) : '\n' ∉ indented unit line := by
  unfold indented
  split
  · exact List.not_mem_nil
  · rw [List.mem_append, not_or]
    exact ⟨hunit, h⟩

theorem not_mem_of_mem_bodyLines (h : line ∈ f.bodyLines) : '\n' ∉ line := by
  unfold Function.bodyLines at h
  split at h
  · cases h
  · obtain ⟨whole, hwhole, rfl⟩ := List.mem_map.1 h
    exact fun hmem => Text.not_mem_of_mem_lines hwhole ((Text.withoutBlank_sublist whole).mem hmem)

/-- **Each part is one line**, if the signature is. -/
theorem not_mem_of_mem_functionParts (hunit : '\n' ∉ config.indentUnit) (hf : '\n' ∉ f.signature) :
    ∀ part ∈ functionParts config f, '\n' ∉ part := by
  intro part hpart
  rcases List.mem_append.1 hpart with hdoc | hrest
  · obtain ⟨line, hline, rfl⟩ := List.mem_map.1 hdoc
    exact not_mem_documentationLine (not_mem_of_mem_documentation hline)
  rcases List.mem_cons.1 hrest with rfl | hclosing
  · rw [Function.opening, List.mem_append, not_or]
    exact ⟨hf, by decide⟩
  rcases List.mem_append.1 hclosing with hbody | hbrace
  · obtain ⟨line, hline, rfl⟩ := List.mem_map.1 hbody
    exact not_mem_indented hunit (not_mem_of_mem_bodyLines hline)
  · rw [List.mem_singleton.1 hbrace]
    decide

/-! ## Part by part -/

/-- The documentation is what stands before the first line without a mark. -/
theorem takeWhile_functionParts (config : Config) (f : Function) :
    (functionParts config f).takeWhile isDocumentation
      = f.documentation.map documentationLine := by
  have hdoc : ∀ part ∈ f.documentation.map documentationLine, isDocumentation part := by
    intro part hpart
    obtain ⟨line, -, rfl⟩ := List.mem_map.1 hpart
    exact isDocumentation_documentationLine line
  rw [functionParts, List.takeWhile_append_of_pos hdoc,
    List.takeWhile_cons_of_neg (by simp [isDocumentation_opening]), List.append_nil]

/-- **The parts can be read off**: two functions with the same parts have the same documentation,
signature and body, line by line. -/
theorem eq_of_functionParts_eq (h : functionParts config f = functionParts config g) :
    f.signature = g.signature ∧
      f.documentation.map Text.withoutBlank = g.documentation.map Text.withoutBlank ∧
      f.bodyLines = g.bodyLines := by
  have hdoc : f.documentation.map documentationLine = g.documentation.map documentationLine := by
    rw [← takeWhile_functionParts config f, h, takeWhile_functionParts]
  have hlines : f.documentation.map Text.withoutBlank = g.documentation.map Text.withoutBlank := by
    simpa only [List.map_map, Function.comp_def, drop_documentationLine] using
      congrArg (List.map (List.drop 4)) hdoc
  rw [functionParts, functionParts, hdoc, List.append_cancel_left_eq, List.cons.injEq] at h
  obtain ⟨hopening, hclosing⟩ := h
  have hbody := List.append_cancel_right hclosing
  have hbody' : f.bodyLines = g.bodyLines := by
    simpa [List.map_map, Function.comp_def, drop_indented] using
      congrArg (List.map (List.drop config.indentUnit.length)) hbody
  exact ⟨List.append_cancel_right hopening, hlines, hbody'⟩

/-- **A function can be read back from its text**, where the signature is one line and so is the
unit of indentation: functions of one text have the same signature, the same documentation lines and
the same body lines, those of white space counted as empty. -/
theorem parts_of_renderFunction_eq (hunit : '\n' ∉ config.indentUnit) (hf : '\n' ∉ f.signature)
    (hg : '\n' ∉ g.signature) (h : renderFunction config f = renderFunction config g) :
    f.signature = g.signature ∧
      f.documentation.map Text.withoutBlank = g.documentation.map Text.withoutBlank ∧
      f.bodyLines = g.bodyLines := by
  have hne : ∀ k : Function, functionParts config k ≠ [] := fun k => by simp [functionParts]
  -- with a line feed before every part, the parts come apart at the line feeds
  have hfed : Text.fed (functionParts config f) = Text.fed (functionParts config g) := by
    rw [← Text.cons_joined (hne f), ← Text.cons_joined (hne g), ← renderFunction_eq_joined, h,
      renderFunction_eq_joined]
  exact eq_of_functionParts_eq (Text.eq_of_fed_eq (not_mem_of_mem_functionParts hunit hf)
    (not_mem_of_mem_functionParts hunit hg) hfed)

/-- A function with one comment of several lines. -/
def resetTogether : Function :=
  (((Draft.named "reset".toList).edited (.comment "Drops all.\n \nSafe.".toList)).edited
    (.body "count = 0\n\t\nlog()".toList)).finished

/-- The same with a comment for each line. -/
def resetApart : Function :=
  (((Draft.named "reset".toList).edited
    (.comments ["Drops all.".toList, [], "Safe.".toList])).edited
    (.body "count = 0\r\n\r\nlog()\n".toList)).finished

theorem parts_resetTogether_eq :
    renderFunction .standard resetTogether = renderFunction .standard resetApart ∧
      resetTogether.documentation.map Text.withoutBlank
        = resetApart.documentation.map Text.withoutBlank ∧
      resetTogether.bodyLines = resetApart.bodyLines := by
  have hrendered :
      renderFunction .standard resetTogether = renderFunction .standard resetApart := by
    decide +kernel
  exact ⟨hrendered,
    (parts_of_renderFunction_eq (by decide) (by decide +kernel) (by decide +kernel) hrendered).2⟩

end Layout

end SwiftDecl
