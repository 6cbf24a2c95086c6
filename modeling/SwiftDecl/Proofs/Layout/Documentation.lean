import SwiftDecl.Proofs.Layout.ReadBack
import SwiftDecl.Proofs.Text.LineBreaks

/-!
# What stays in the documentation

Comments are free texts, and what they say must stay behind the documentation mark, for whatever
stands on a line before the signature without it is code. A comment is cut where `Text.lines` cuts,
and that is not at a carriage return alone, which ends a line in Swift. So every line before the
signature bears the mark exactly if the comments bring a mark of their own behind each such return
(`documentation_marked_iff`), and a comment that does not gets out (`wiping_escapes`).
-/

namespace SwiftDecl

namespace Layout

open Text (StandsBehindReturns)

variable {config : Config} {f : Function} {line : Text}

/-- The lines of the documentation are those of the comment lines, one after the other. -/
theorem swiftLines_documentationText (f : Function) :
    f.documentationText.swiftLines
      = f.documentation.flatMap fun line => Text.swiftLines (documentationLine line ++ ['\n']) := by
  rw [Function.documentationText, Text.swiftLines_flatMap, List.flatMap_map]

/-- **The signature starts a line**, in Swift as well: the lines before it are those of the
documentation. -/
theorem swiftLines_renderFunction (config : Config) (f : Function) :
    ∃ rest, renderFunction config f = f.documentationText ++ (f.signature ++ rest) ∧
      (renderFunction config f).swiftLines
        = f.documentationText.swiftLines ++ (f.signature ++ rest).swiftLines := by
  obtain ⟨rest, hrest⟩ : ∃ rest,
      renderFunction config f = f.documentationText ++ (f.signature ++ rest) :=
    ⟨_, by rw [renderFunction_eq_append, Function.opening, List.append_assoc]⟩
  refine ⟨rest, hrest, ?_⟩
  rw [hrest, Function.documentationText, Text.swiftLines_flatMap_append, Text.swiftLines_flatMap]

/-- The mark stands before a line of a comment, so it is only behind carriage returns that it may
be missing. -/
theorem forall_mark_prefix_iff (hline : '\n' ∉ line) :
    (∀ piece ∈ (documentationLine line ++ ['\n']).swiftLines, documentationMark <+: piece) ↔
      (¬ line.isBlank → StandsBehindReturns documentationMark line) := by
  have hmark : '\r' ∉ documentationMark := by decide
  rw [Text.forall_prefix_swiftLines_iff hmark (not_mem_documentationLine hline)]
  unfold documentationLine
  split_ifs with hblank
  · simp [hblank, Text.standsBehindReturns_of_not_mem hmark]
  · have hlead : '\r' ∉ documentationMark ++ [' '] := by decide
    rw [← List.singleton_append, ← List.append_assoc, Text.standsBehindReturns_stretch hlead,
      List.append_assoc]
    simp [hblank]

/-- **What stays in the documentation.** The lines before the one on which the signature starts, as
Swift cuts them, are those of the documentation. They all bear the documentation mark exactly if
each comment line that is not blank has the mark behind every carriage return in it, where it goes
on. -/
theorem documentation_marked_iff (config : Config) (f : Function) :
    (∃ rest, renderFunction config f = f.documentationText ++ (f.signature ++ rest) ∧
      (renderFunction config f).swiftLines
        = f.documentationText.swiftLines ++ (f.signature ++ rest).swiftLines) ∧
    ((∀ line ∈ f.documentationText.swiftLines, documentationMark <+: line) ↔
      ∀ line ∈ f.documentation, ¬ line.isBlank → StandsBehindReturns documentationMark line) := by
  refine ⟨swiftLines_renderFunction config f, ?_⟩
  rw [swiftLines_documentationText]
  constructor
  · intro h line hline
    exact (forall_mark_prefix_iff (not_mem_of_mem_documentation hline)).1 fun piece hpiece =>
      h piece (List.mem_flatMap.2 ⟨line, hline, hpiece⟩)
  · intro h piece hpiece
    obtain ⟨line, hline, hpiece⟩ := List.mem_flatMap.1 hpiece
    exact (forall_mark_prefix_iff (not_mem_of_mem_documentation hline)).2 (h line hline)
      piece hpiece

/-- A function with carriage returns at the ends of comment lines, on a blank line and before a mark
of its own. -/
def returning : Function :=
  ((Draft.named "reset".toList).edited
    (.comments ["Drops all.\r\n\r\r\nSafe.\r".toList, "Twice:\r/// yes.\r\n".toList])).finished

theorem returning_marked :
    returning.documentationText.swiftLines
        = ["/// Drops all.".toList, "///".toList, "/// Safe.".toList, "/// Twice:".toList,
          "/// yes.".toList] ∧
      (∀ line ∈ returning.documentationText.swiftLines, documentationMark <+: line) ∧
      ∀ line ∈ returning.documentation, ¬ line.isBlank →
        StandsBehindReturns documentationMark line := by
  have hmarked : ∀ line ∈ returning.documentationText.swiftLines, documentationMark <+: line := by
    decide +kernel
  exact ⟨by decide +kernel, hmarked, (documentation_marked_iff .standard returning).2.1 hmarked⟩

/-- A function with a comment that goes on behind a carriage return. -/
def wiping : Function :=
  ((Draft.named "reset".toList).edited (.comment "Drops all.\rwipe()".toList)).finished

/-- **What stands behind a carriage return in a comment is a line of code.** -/
theorem wiping_escapes :
    (∃ d : Draft, d.build = .ok wiping) ∧
      (renderFunction .standard wiping).swiftLines
        = ["/// Drops all.".toList, "wipe()".toList, "func reset() \x7b".toList, "\x7d".toList] ∧
      wiping.documentationText.swiftLines = ["/// Drops all.".toList, "wipe()".toList] ∧
      ¬ ∀ line ∈ wiping.documentationText.swiftLines, documentationMark <+: line := by
  refine ⟨⟨(Draft.named "reset".toList).edited (.comment "Drops all.\rwipe()".toList), rfl⟩,
    ?_, ?_, ?_⟩ <;> decide +kernel

end Layout

end SwiftDecl
