import SwiftDecl.Proofs.Layout.Writer
import Mathlib.Logic.Function.Iterate

/-!
# A writer fills a page

What a writer writes is a page of lines, of which the last is still open. The writer itself knows of
no lines: it keeps one text, and a mark that says whether the next text starts a line. `Shows`
relates the two. Every step keeps it (`Shows.after`), whatever texts are written, so it holds after
every run (`shows_run`). Where neither the unit of indentation nor a text that is written on a line
holds a line feed, the lines of the page are the lines of the text (`run_fills_page`).
-/

namespace SwiftDecl

namespace Layout

open Text (joined)

/-- **A page being filled**: the lines that have been ended, and the current one. -/
structure Page where
  /-- The unit of indentation. -/
  unit : Text
  level : Nat
  ended : List Text
  current : Text

namespace Page

/-- A page with nothing on it. -/
def blank (unit : Text) : Page :=
  ⟨unit, 0, [], []⟩

/-- All lines, the current one last. -/
def lines (p : Page) : List Text :=
  p.ended ++ [p.current]

/-- The indentation of the level in force. -/
def indentation (p : Page) : Text :=
  (List.replicate p.level p.unit).flatten

/-- Puts a text on the current line, behind the indentation if it is the first one there. -/
def put (t : Text) (p : Page) : Page :=
  if t = [] then p
  else if p.current = [] then { p with current := p.indentation ++ t }
  else { p with current := p.current ++ t }

/-- Ends the current line. -/
def endLine (p : Page) : Page :=
  { p with ended := p.lines, current := [] }

/-- Puts a line of a block, unless it is white space. -/
def putVisible (line : Text) (p : Page) : Page :=
  if line.isBlank then p else p.put line

/-- Puts the lines of a block, with a line end between neighbours. -/
def putLines : List Text → Page → Page
  | [], p => p
  | first :: more, p => more.foldl (fun p line => p.endLine.putVisible line) (p.putVisible first)

/-- **The page after a step of writing.** -/
def after (p : Page) : Writer.Step → Page
  | .indent => { p with level := p.level + 1 }
  | .dedent => { p with level := p.level - 1 }
  | .write t => p.put t
  | .writeLine t => (p.put t).endLine
  | .writeBlock block => p.putLines block.lines
  | .newline => p.endLine
  | .blankLines count => endLine^[count] p

/-- The page after a number of steps. -/
def run (unit : Text) (steps : List Writer.Step) : Page :=
  steps.foldl after (blank unit)

variable {p : Page} {t : Text}

theorem lines_ne_nil : p.lines ≠ [] :=
  List.concat_ne_nil _ _

theorem lines_endLine : p.endLine.lines = p.lines ++ [[]] := rfl

@[simp] theorem unit_put : (p.put t).unit = p.unit := by
  unfold put
  split_ifs <;> rfl

@[simp] theorem level_put : (p.put t).level = p.level := by
  unfold put
  split_ifs <;> rfl

@[simp] theorem ended_put : (p.put t).ended = p.ended := by
  unfold put
  split_ifs <;> rfl

/-- What is put on a line stands at its end, behind the indentation if the line was empty. -/
theorem current_put (h : t ≠ []) :
    (p.put t).current = p.current ++ (if p.current = [] then p.indentation else []) ++ t := by
  rw [put, if_neg h]
  split_ifs with hcurrent
  · rw [hcurrent, List.nil_append]
  · rw [List.append_nil]

end Page

/-- The writer after a number of steps. -/
def Writer.run (unit : Text) (steps : List Writer.Step) : Writer :=
  steps.foldl Writer.after (.start unit)

variable {w : Writer} {p : Page} {t unit : Text}

/-! ## Step by step -/

/-- **Whether a writer shows a page**: its text is the lines of the page with line feeds between
them, and its mark tells whether the current line is empty. -/
structure Shows (w : Writer) (p : Page) : Prop where
  unit : w.unit = p.unit
  level : w.level = p.level
  text : w.text = joined ['\n'] p.lines
  atLineStart : w.atLineStart = true ↔ p.current = []

namespace Shows

theorem start (unit : Text) : Shows (.start unit) (.blank unit) where
  unit := rfl
  level := rfl
  text := rfl
  atLineStart := iff_of_true rfl rfl

theorem indentation (h : Shows w p) : w.indentation = p.indentation := by
  rw [Writer.indentation, Page.indentation, h.level, h.unit]

theorem write (h : Shows w p) (t : Text) : Shows (w.write t) (p.put t) := by
  rcases eq_or_ne t [] with rfl | ht
  · exact h
  refine ⟨?_, ?_, ?_, ?_⟩
  · rw [Writer.unit_write, Page.unit_put, h.unit]
  · rw [Writer.level_write, Page.level_put, h.level]
  · rw [Writer.text_write ht, h.text, Page.lines, Page.lines, Page.ended_put, Text.joined_concat,
      Text.joined_concat, Page.current_put ht, h.indentation]
    simp only [h.atLineStart, List.append_assoc]
  · -- either line now ends in `t`
    refine iff_of_false ?_ ?_
    · simp [Writer.write, ht]
    · simp [Page.current_put ht, ht]

theorem newline (h : Shows w p) : Shows w.newline p.endLine where
  unit := h.unit
  level := h.level
  text := by
    rw [Writer.text_newline, h.text, Text.joined_append_separator Page.lines_ne_nil,
      Page.lines_endLine, Text.joined_concat, List.append_nil]
  atLineStart := iff_of_true rfl rfl

theorem writeLine (h : Shows w p) (t : Text) : Shows (w.writeLine t) (p.put t).endLine :=
  (h.write t).newline

theorem blankLines (h : Shows w p) (n : Nat) : Shows (w.blankLines n) (Page.endLine^[n] p) := by
  induction n generalizing w p with
  | zero => exact h
  | succ n ih => exact ih h.newline

theorem writeVisible (h : Shows w p) (line : Text) :
    Shows (w.write line.withoutBlank) (p.putVisible line) := by
  unfold Text.withoutBlank Page.putVisible
  split_ifs
  · exact h.write []
  · exact h.write line

/-- The writer ends each line of a block but the last; the page starts each but the first. -/
theorem writeLines (h : Shows w p) (ls : List Text) :
    Shows (w.writeLines (ls.map Text.withoutBlank)) (p.putLines ls) := by
  cases ls with
  | nil => exact h
  | cons first more =>
    induction more generalizing w p first with
    | nil => exact h.writeVisible first
    | cons next more ih => exact ih (h.writeVisible first).newline next

/-- **One step**: the writer shows the page that the step leads to. -/
theorem after (h : Shows w p) (step : Writer.Step) : Shows (w.after step) (p.after step) := by
  cases step with
  | indent => exact ⟨h.unit, congrArg (· + 1) h.level, h.text, h.atLineStart⟩
  | dedent => exact ⟨h.unit, congrArg (· - 1) h.level, h.text, h.atLineStart⟩
  | write t => exact h.write t
  | writeLine t => exact h.writeLine t
  | writeBlock block => exact h.writeLines block.lines
  | newline => exact h.newline
  | blankLines count => exact h.blankLines count

theorem foldl_after (h : Shows w p) (steps : List Writer.Step) :
    Shows (steps.foldl Writer.after w) (steps.foldl Page.after p) := by
  induction steps generalizing w p with
  | nil => exact h
  | cons step steps ih => exact ih (h.after step)

end Shows

/-- **A run**: the writer shows the page after any steps at all. -/
theorem shows_run (unit : Text) (steps : List Writer.Step) :
    Shows (Writer.run unit steps) (Page.run unit steps) :=
  (Shows.start unit).foldl_after steps

/-! ## Steps only add -/

namespace Writer

theorem text_prefix_write (w : Writer) (t : Text) : w.text <+: (w.write t).text := by
  rcases eq_or_ne t [] with rfl | ht
  · exact List.prefix_rfl
  · rw [text_write ht, List.append_assoc]
    exact List.prefix_append _ _

theorem text_prefix_newline (w : Writer) : w.text <+: w.newline.text := by
  rw [text_newline]
  exact List.prefix_append _ _

theorem text_prefix_writeLine (w : Writer) (t : Text) : w.text <+: (w.writeLine t).text :=
  (text_prefix_write w t).trans (text_prefix_newline _)

theorem text_prefix_writeLines (w : Writer) (ls : List Text) :
    w.text <+: (w.writeLines ls).text := by
  fun_induction writeLines ls w with
  | case1 w => exact List.prefix_rfl
  | case2 line w => exact text_prefix_write w line
  | case3 line more w _ ih => exact (text_prefix_writeLine w line).trans ih

/-- No step takes back what has been written. -/
theorem text_prefix_after (w : Writer) (step : Step) : w.text <+: (w.after step).text := by
  cases step with
  | indent => exact List.prefix_rfl
  | dedent => exact List.prefix_rfl
  | write t => exact text_prefix_write w t
  | writeLine t => exact text_prefix_writeLine w t
  | writeBlock block => exact text_prefix_writeLines w _
  | newline => exact text_prefix_newline w
  | blankLines count =>
    rw [after, text_blankLines]
    exact List.prefix_append _ _

theorem text_prefix_foldl_after (w : Writer) (steps : List Step) :
    w.text <+: (steps.foldl after w).text := by
  induction steps generalizing w with
  | nil => exact List.prefix_rfl
  | cons step steps ih => exact (text_prefix_after w step).trans (ih _)

end Writer

/-! ## Lines without line feeds -/

/-- Whether a step writes no line feed on a line. A block is cut into lines first: any will do. -/
def Writer.Step.IsOneLine : Writer.Step → Prop
  | .write t => '\n' ∉ t
  | .writeLine t => '\n' ∉ t
  | _ => True

/-- Whether no line of a page holds a line feed, nor will by its indentation. -/
structure Page.IsRuled (p : Page) : Prop where
  unit : '\n' ∉ p.unit
  lines : ∀ line ∈ p.lines, '\n' ∉ line

namespace Page.IsRuled

theorem blank (h : '\n' ∉ unit) : (Page.blank unit).IsRuled where
  unit := h
  lines := List.forall_mem_singleton.2 List.not_mem_nil

theorem indentation (h : p.IsRuled) : '\n' ∉ p.indentation := by
  intro hmem
  obtain ⟨copy, hcopy, hfeed⟩ := List.mem_flatten.1 hmem
  rw [List.eq_of_mem_replicate hcopy] at hfeed
  exact h.unit hfeed

theorem current (h : p.IsRuled) : '\n' ∉ p.current :=
  h.lines _ (List.mem_append_right _ List.mem_cons_self)

theorem put (h : p.IsRuled) (ht : '\n' ∉ t) : (p.put t).IsRuled := by
  rcases eq_or_ne t [] with rfl | hne
  · exact h
  refine ⟨?_, ?_⟩
  · rw [unit_put]
    exact h.unit
  · rw [Page.lines, ended_put, List.forall_mem_append]
    refine ⟨(List.forall_mem_append.1 h.lines).1, List.forall_mem_singleton.2 ?_⟩
    rw [current_put hne]
    simp only [List.mem_append, not_or]
    refine ⟨⟨h.current, ?_⟩, ht⟩
    split_ifs
    · exact h.indentation
    · exact List.not_mem_nil

theorem endLine (h : p.IsRuled) : p.endLine.IsRuled where
  unit := h.unit
  lines := List.forall_mem_append.2 ⟨h.lines, List.forall_mem_singleton.2 List.not_mem_nil⟩

theorem putVisible (h : p.IsRuled) (ht : '\n' ∉ t) : (p.putVisible t).IsRuled := by
  unfold Page.putVisible
  split_ifs
  · exact h
  · exact h.put ht

theorem putLines (h : p.IsRuled) {ls : List Text} (hls : ∀ line ∈ ls, '\n' ∉ line) :
    (p.putLines ls).IsRuled := by
  cases ls with
  | nil => exact h
  | cons first more =>
    induction more generalizing p first with
    | nil => exact h.putVisible (hls first List.mem_cons_self)
    | cons next more ih =>
      obtain ⟨hfirst, hmore⟩ := List.forall_mem_cons.1 hls
      exact ih (h.putVisible hfirst).endLine next hmore

theorem iterate_endLine (h : p.IsRuled) (n : Nat) : (Page.endLine^[n] p).IsRuled := by
  induction n generalizing p with
  | zero => exact h
  | succ n ih => exact ih h.endLine

/-- A step that writes on one line at a time leaves a page of lines. -/
theorem after (h : p.IsRuled) {step : Writer.Step} (hstep : step.IsOneLine) :
    (p.after step).IsRuled := by
  cases step with
  | indent => exact ⟨h.unit, h.lines⟩
  | dedent => exact ⟨h.unit, h.lines⟩
  | write t => exact h.put hstep
  | writeLine t => exact (h.put hstep).endLine
  | writeBlock block => exact h.putLines fun line => Text.not_mem_of_mem_lines
  | newline => exact h.endLine
  | blankLines count => exact h.iterate_endLine count

theorem foldl_after (h : p.IsRuled) {steps : List Writer.Step}
    (hsteps : ∀ step ∈ steps, step.IsOneLine) : (steps.foldl Page.after p).IsRuled := by
  induction steps generalizing p with
  | nil => exact h
  | cons step steps ih =>
    obtain ⟨hstep, hsteps⟩ := List.forall_mem_cons.1 hsteps
    exact ih (h.after hstep) hsteps

end Page.IsRuled

/-- The text of a page of lines ends in a line feed just if its current line is empty, unless
nothing is written at all. -/
theorem Shows.atLineStart_iff (h : Shows w p) (hp : p.IsRuled) :
    w.atLineStart = true ↔ w.text = [] ∨ w.text.getLast? = some '\n' := by
  have hcurrent : '\n' ∉ p.current := hp.current
  rw [h.atLineStart, h.text, Page.lines, Text.joined_concat]
  constructor
  · intro hnil
    rw [hnil, List.append_nil]
    rcases List.eq_nil_or_concat' p.ended with hended | ⟨front, last, hended⟩
    · rw [hended]
      exact .inl rfl
    · rw [hended, List.flatMap_append, List.flatMap_singleton, ← List.append_assoc]
      exact .inr List.getLast?_concat
  · rintro (hnil | hlast)
    · exact (List.append_eq_nil_iff.1 hnil).2
    · by_contra hne
      obtain ⟨front, c, hc⟩ := (List.eq_nil_or_concat' p.current).resolve_left hne
      rw [hc, ← List.append_assoc, List.getLast?_concat, Option.some.injEq] at hlast
      rw [hc, hlast] at hcurrent
      exact hcurrent (List.mem_append_right _ List.mem_cons_self)

/-- **A writer fills a page.** After any steps that write on one line at a time, its text is the
lines of the page with line feeds between them, and cut at its line feeds gives these lines. Its
level is that of the page; its mark says that the text is empty or ends in a line feed; and further
steps, one or many, only add to the text. -/
theorem run_fills_page {steps : List Writer.Step} (hunit : '\n' ∉ unit)
    (hsteps : ∀ step ∈ steps, step.IsOneLine) :
    (Writer.run unit steps).text = joined ['\n'] (Page.run unit steps).lines ∧
      (Writer.run unit steps).text.splitOn '\n' = (Page.run unit steps).lines ∧
      (Writer.run unit steps).level = (Page.run unit steps).level ∧
      ((Writer.run unit steps).atLineStart = true ↔
        (Writer.run unit steps).text = [] ∨ (Writer.run unit steps).text.getLast? = some '\n') ∧
      ∀ more, (Writer.run unit steps).text <+: (Writer.run unit (steps ++ more)).text := by
  have hshows : Shows (Writer.run unit steps) (Page.run unit steps) := shows_run unit steps
  have hruled : (Page.run unit steps).IsRuled := (Page.IsRuled.blank hunit).foldl_after hsteps
  refine ⟨hshows.text, ?_, hshows.level, hshows.atLineStart_iff hruled, fun more => ?_⟩
  · rw [hshows.text, Text.splitOn_joined Page.lines_ne_nil hruled.lines]
  · rw [Writer.run, Writer.run, List.foldl_append]
    exact Writer.text_prefix_foldl_after _ more

/-- A line begun before it is indented further, a block begun within that line, and levels left that
were never entered. -/
def interleavedSteps : List Writer.Step :=
  [.dedent, .indent, .write "if ok".toList, .indent, .write [], .write " \x7b".toList,
    .writeBlock " go()\r\n \t\nstop()\n".toList, .dedent, .dedent, .dedent, .newline,
    .writeLine [], .write "\x7d".toList, .blankLines 2, .writeBlock "\r\n".toList]

theorem interleavedSteps_fill_page :
    '\n' ∉ "\t".toList ∧ (∀ step ∈ interleavedSteps, step.IsOneLine) ∧
      (Page.run "\t".toList interleavedSteps).lines
        = ["\tif ok \x7b go()".toList, [], "\t\tstop()".toList, [], "\x7d".toList, [], []] ∧
      (Writer.run "\t".toList interleavedSteps).text.splitOn '\n'
        = (Page.run "\t".toList interleavedSteps).lines := by
  have hunit : '\n' ∉ "\t".toList := by decide
  have hsteps : ∀ step ∈ interleavedSteps, step.IsOneLine := by
    simp [interleavedSteps, Writer.Step.IsOneLine]
  exact ⟨hunit, hsteps, by decide +kernel, (run_fills_page hunit hsteps).2.1⟩

end Layout

end SwiftDecl
