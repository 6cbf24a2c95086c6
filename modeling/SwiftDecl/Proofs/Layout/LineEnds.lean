import SwiftDecl.Proofs.Layout.Outline
import SwiftDecl.Proofs.Rows

/-!
# How lines end

The lines of a text may end in a line feed, or in a carriage return and a line feed, or some in the
one and some in the other; and the last line may have an end or not. Comments and bodies come with
all of these. None of it shows in the text of a function, for `Text.lines` gives the same lines
(`Text.EndedAlike.lines_eq`). Only the empty text needs a second look: it has no line, and a line
end behind it makes one, which is empty. But an empty comment counts as an empty line, and a body of
white space as no line (`line_ends_do_not_show`).
-/

namespace SwiftDecl

namespace Text

variable {t u e : Text} {c : Char} {chosen : ℕ → Bool}

/-- **A text with carriage returns put before some of its line feeds**, those at the places that are
chosen. -/
def returning : (ℕ → Bool) → Text → Text
  | _, [] => []
  | chosen, c :: rest =>
    (if c = '\n' ∧ chosen 0 then "\r\n".toList else [c]) ++ returning (fun i => chosen (i + 1)) rest

/-- What may stand at the end of a line. -/
def lineEnds : List Text :=
  ["\n".toList, "\r\n".toList]

/-- **A text with other line ends**: there may be carriage returns before some of its line feeds, and
one line end more behind the text, if that does not end in a line feed. -/
inductive EndedAlike (t : Text) : Text → Prop where
  | returned (chosen : ℕ → Bool) : EndedAlike t (t.returning chosen)
  | closed (chosen : ℕ → Bool) {e : Text} (hlast : t.getLast? ≠ some '\n') (he : e ∈ lineEnds) :
      EndedAlike t (t.returning chosen ++ e)

/-! ## Carriage returns before line feeds -/

theorem returning_concat (hc : c ≠ '\n') (s : Text) :
    (s ++ [c]).returning chosen = s.returning chosen ++ [c] := by
  induction s generalizing chosen with
  | nil => simp [returning, hc]
  | cons d s ih => rw [List.cons_append, returning, ih, returning, List.append_assoc]

theorem isBlank_returning (t : Text) : (t.returning chosen).isBlank = t.isBlank := by
  induction t generalizing chosen with
  | nil => rfl
  | cons c t ih =>
    have hstep : ∀ first : Text, isBlank (first ++ returning (fun i => chosen (i + 1)) t)
        = (first.isBlank && isBlank t) := fun first => by
      rw [isBlank, List.all_append]
      exact congrArg (first.isBlank && ·) ih
    rw [returning, hstep]
    split_ifs with hfeed
    · rw [hfeed.1]
      rfl
    · simp [isBlank]

/-- Texts of the same lines still have the same ones behind a character, unless that may be part of
a line end itself. -/
theorem lines_cons_congr (hc : c ≠ '\r') (h : t.lines = u.lines) :
    lines (c :: t) = lines (c :: u) := by
  by_cases hfeed : c = '\n'
  · rw [hfeed, lines_feed, lines_feed, h]
  cases hlines : u.lines with
  | nil => rw [lines_eq_nil_iff.1 hlines, lines_eq_nil_iff.1 (h.trans hlines)]
  | cons line more =>
    rw [lines_cons_of_ne hfeed hc (h.trans hlines), lines_cons_of_ne hfeed hc hlines]

/-- **Carriage returns before line feeds are not part of a line**, if the text has none already. -/
theorem lines_returning (hr : '\r' ∉ t) : (t.returning chosen).lines = t.lines := by
  induction t generalizing chosen with
  | nil => rfl
  | cons c t ih =>
    rw [List.mem_cons, not_or] at hr
    rw [returning]
    split_ifs with hfeed
    · rw [hfeed.1, lines_feed, ← ih hr.2, ← lines_feed]
      exact lines_return rfl
    · exact lines_cons_congr (Ne.symm hr.1) (ih hr.2)

/-! ## An end for the last line -/

theorem lines_of_mem_lineEnds (he : e ∈ lineEnds) : e.lines = [[]] := by
  revert e
  decide

/-- A line that has no end is the same with one. -/
theorem lines_concat_append_end (hc : c ≠ '\n') (hr : c ≠ '\r') (he : e ∈ lineEnds) (s : Text) :
    (s ++ c :: e).lines = (s ++ [c]).lines := by
  rw [lines_concat_append hc hr (lines_of_mem_lineEnds he), List.append_nil]

/-- **Texts with other line ends have the same lines**, if there are any. -/
theorem EndedAlike.lines_eq (h : t.EndedAlike u) (hne : t ≠ []) (hr : '\r' ∉ t) :
    u.lines = t.lines := by
  cases h with
  | returned chosen => exact lines_returning hr
  | @closed chosen e hlast he =>
    obtain ⟨s, c, rfl⟩ := (List.eq_nil_or_concat' t).resolve_left hne
    have hc : c ≠ '\n' := by simpa using hlast
    have hcr : c ≠ '\r' := by
      rintro rfl
      exact hr (List.mem_append_right _ List.mem_cons_self)
    calc lines (returning chosen (s ++ [c]) ++ e)
        = lines (returning chosen s ++ c :: e) := by
          rw [returning_concat hc, List.append_assoc, List.singleton_append]
      _ = lines (returning chosen (s ++ [c])) := by
          rw [lines_concat_append_end hc hcr he, returning_concat hc]
      _ = lines (s ++ [c]) := lines_returning hr

/-- Line ends are white space. -/
theorem EndedAlike.isBlank_eq (h : t.EndedAlike u) : u.isBlank = t.isBlank := by
  cases h with
  | returned chosen => exact isBlank_returning t
  | @closed chosen e _ he =>
    have hend : ∀ e ∈ lineEnds, isBlank e = true := by decide
    have hblank : ((t.returning chosen).isBlank && e.isBlank) = t.isBlank := by
      rw [hend e he, Bool.and_true, isBlank_returning]
    rwa [isBlank, isBlank, ← List.all_append] at hblank

end Text

namespace Layout

open Text (EndedAlike)

variable {t u : Text}

/-- A comment is documented on the same lines. -/
theorem documentedLines_eq_of_endedAlike (h : EndedAlike t u) (hr : '\r' ∉ t) :
    documentedLines u = documentedLines t := by
  rcases eq_or_ne t [] with rfl | hne
  · -- nothing at all, or an empty line: one mark for either
    have hend : ∀ e ∈ Text.lineEnds, documentedLines e = documentedLines [] := by decide
    cases h with
    | returned chosen => rfl
    | closed chosen _ he => exact hend _ he
  have hlines := h.lines_eq hne hr
  have hne' : u ≠ [] := by
    rw [Ne, ← Text.lines_eq_nil_iff, hlines, Text.lines_eq_nil_iff]
    exact hne
  rw [documentedLines, documentedLines, if_neg hne, if_neg hne', hlines]

/-- A body has the same lines. -/
theorem indentedLines_eq_of_endedAlike (unit : Text) (h : EndedAlike t u) (hr : '\r' ∉ t) :
    indentedLines unit u = indentedLines unit t := by
  unfold indentedLines
  rw [h.isBlank_eq]
  split_ifs with hblank
  · rfl
  · rw [h.lines_eq (Text.ne_nil_of_not_isBlank hblank) hr]

theorem flatMap_documentedLines_eq {comments comments' : List Text}
    (h : List.Forall₂ EndedAlike comments comments') (hr : ∀ comment ∈ comments, '\r' ∉ comment) :
    comments'.flatMap documentedLines = comments.flatMap documentedLines := by
  have hsame : List.Forall₂ (fun t u => documentedLines t = documentedLines u) comments comments' :=
    ((List.forall₂_and_left _ _).2 ⟨hr, h⟩).imp fun _ _ h =>
      (documentedLines_eq_of_endedAlike h.2 h.1).symm
  rw [List.flatMap_def, List.flatMap_def, map_eq_map_iff_forall₂.2 hsame]

/-- **How the lines of comments and body end does not show.** Take a function that has been built,
with no carriage return in its comments and its body, and give these texts other line ends, each of
them its own. The draft with the new texts is built as well, and its function is rendered as the
same text under every layout. -/
theorem line_ends_do_not_show {d : Draft} {f : Function} {comments : List Text} {body : Text}
    (hbuilt : d.build = .ok f) (hcomments : ∀ comment ∈ f.comments, '\r' ∉ comment)
    (hbody : '\r' ∉ f.body) (hcommentsAlike : List.Forall₂ EndedAlike f.comments comments)
    (hbodyAlike : EndedAlike f.body body) :
    Draft.build { d with comments := comments, body := body }
        = .ok { f with comments := comments, body := body } ∧
      ∀ config, renderFunction config { f with comments := comments, body := body }
        = renderFunction config f := by
  obtain ⟨hfault, hf⟩ := Draft.build_eq_ok_iff.1 hbuilt
  -- neither comments nor body are checked
  have hfault' : Draft.fault? { d with comments := comments, body := body } = none := hfault
  refine ⟨Draft.build_eq_ok_iff.2 ⟨hfault', ?_⟩, fun config => ?_⟩
  · rw [hf]
    rfl
  · have houtline : outline config { f with comments := comments, body := body }
        = outline config f := by
      rw [outline, outline, flatMap_documentedLines_eq hcommentsAlike hcomments,
        indentedLines_eq_of_endedAlike _ hbodyAlike hbody]
      rfl
    rw [(renderFunction_outline config _).1, houtline, ← (renderFunction_outline config f).1]

/-- A line end behind a line feed does show, and so does a carriage return before another one. -/
example :
    documentedLines "Safe.\n\r\n".toList ≠ documentedLines "Safe.\n".toList ∧
      documentedLines "Safe.\r\r\n".toList ≠ documentedLines "Safe.\r\n".toList := by
  decide +kernel

/-- A function with a comment of several lines, an empty one and one that has no line end. -/
def dropping : Draft :=
  (Draft.named "drop".toList).editedBy
    [.comments ["Drops all.\n \nSafe.\n".toList, [], "Twice.".toList],
      .body "count = 0\n\nlog()".toList]

/-- One carriage return in the first comment, and line ends behind the others and the body. -/
def droppingEnded : Draft :=
  { dropping with
    comments := ["Drops all.\n \r\nSafe.\n".toList, "\n".toList, "Twice.\r\n".toList]
    body := "count = 0\r\n\r\nlog()\r\n".toList }

theorem dropping_line_ends_do_not_show :
    dropping.build = .ok dropping.finished ∧
      (∀ comment ∈ dropping.finished.comments, '\r' ∉ comment) ∧ '\r' ∉ dropping.finished.body ∧
      List.Forall₂ EndedAlike dropping.finished.comments droppingEnded.comments ∧
      EndedAlike dropping.finished.body droppingEnded.body ∧
      droppingEnded.build = .ok droppingEnded.finished ∧
      renderFunction ⟨"\t".toList, 1⟩ droppingEnded.finished
        = renderFunction ⟨"\t".toList, 1⟩ dropping.finished ∧
      renderFunction ⟨"\t".toList, 1⟩ dropping.finished
        = ("/// Drops all.\n///\n/// Safe.\n///\n/// Twice.\n"
          ++ "func drop() \x7b\n\tcount = 0\n\n\tlog()\n\x7d").toList := by
  have hwell : dropping.WellFormed :=
    ⟨⟨'d', by decide, rfl⟩, nofun, List.forall_mem_nil _, List.nodup_nil⟩
  have hbuilt : dropping.build = .ok dropping.finished :=
    Draft.build_eq_ok_iff.2 ⟨Draft.fault?_eq_none_iff.2 hwell, rfl⟩
  have hcomments : ∀ comment ∈ dropping.finished.comments, '\r' ∉ comment := by decide +kernel
  have hbody : '\r' ∉ dropping.finished.body := by decide +kernel
  have hfirst : EndedAlike "Drops all.\n \nSafe.\n".toList "Drops all.\n \r\nSafe.\n".toList :=
    .returned (· == 12)
  have hempty : EndedAlike [] "\n".toList := .closed (fun _ => false) (by decide) (by decide)
  have hopen : EndedAlike "Twice.".toList "Twice.\r\n".toList :=
    .closed (fun _ => false) (by decide) (by decide)
  have hcommentsAlike :
      List.Forall₂ EndedAlike dropping.finished.comments droppingEnded.comments :=
    .cons hfirst (.cons hempty (.cons hopen .nil))
  have hbodyAlike : EndedAlike dropping.finished.body droppingEnded.body :=
    .closed (fun _ => true) (by decide) (by decide)
  obtain ⟨hbuild, hrendered⟩ :=
    line_ends_do_not_show hbuilt hcomments hbody hcommentsAlike hbodyAlike
  exact ⟨hbuilt, hcomments, hbody, hcommentsAlike, hbodyAlike, hbuild, hrendered _,
    by decide +kernel⟩

end Layout

end SwiftDecl
