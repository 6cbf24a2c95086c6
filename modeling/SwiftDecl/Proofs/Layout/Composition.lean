import SwiftDecl.Layout.Render
import SwiftDecl.Proofs.Layout.Writer

/-!
# A set is rendered function by function

The text of a set is put together from the texts of its functions, each tidied up on the way, with
nothing but line feeds between them. A function's own text ends in the brace that closes its body,
so tidying changes it only by what stands inside: a carriage return before a line feed, or white
space alone on a line.
-/

namespace SwiftDecl

namespace Layout

variable {config : Config} {f : Function} {w : Writer}

/-- What stands between two functions: the end of the line and the blank lines. -/
def separator (config : Config) : Text :=
  List.replicate (config.blankLines + 1) '\n'

/-- One more function adds the separator and its own text, tidied up. -/
theorem text_writeNext (h : w.level = 0) :
    (writeNext config w f).text
      = w.text ++ (separator config ++ (renderFunction config f).tidied) := by
  rw [writeNext, Writer.text_writeBlock_outermost (by simpa using h), Writer.text_blankLines,
    Writer.text_newline, separator, List.replicate_succ]
  simp

@[simp] theorem level_writeNext : (writeNext config w f).level = w.level := by
  simp [writeNext]

/-- Further functions add theirs one after the other. -/
theorem text_foldl_writeNext (fs : List Function) (h : w.level = 0) :
    (fs.foldl (writeNext config) w).text
      = w.text ++ (fs.map fun f => (renderFunction config f).tidied).flatMap
          (separator config ++ ·) := by
  induction fs generalizing w with
  | nil => simp
  | cons f fs ih =>
    rw [List.foldl_cons, ih (level_writeNext.trans h), text_writeNext h]
    simp only [List.map_cons, List.flatMap_cons, List.append_assoc]

theorem renderDeclarations_eq_joined (s : DeclarationSet) :
    renderDeclarations config s
      = Text.joined (separator config)
          (s.functions.map fun f => (renderFunction config f).tidied) := by
  unfold renderDeclarations
  split
  · rename_i hnil
    rw [hnil]
    rfl
  · rename_i f more hcons
    rw [text_foldl_writeNext _ Writer.level_writeBlock, Writer.text_writeBlock_outermost rfl,
      hcons, List.map_cons, Text.joined_cons]
    rfl

/-- The text of a function ends with the brace that closes it. -/
theorem getLast?_renderFunction : (renderFunction config f).getLast? = some '\x7d' := by
  change ((writeBody f _).write ['\x7d']).text.getLast? = _
  rw [Writer.text_write (List.cons_ne_nil _ _), List.getLast?_concat]

/-- Every function has a text, so only the empty set is rendered as nothing. -/
theorem renderDeclarations_eq_nil_iff {s : DeclarationSet} :
    renderDeclarations config s = [] ↔ s.functions = [] := by
  rw [renderDeclarations_eq_joined]
  cases s.functions with
  | nil => exact iff_of_true rfl rfl
  | cons f more =>
    have hbrace : '\x7d' ∈ renderFunction config f := List.mem_of_getLast? getLast?_renderFunction
    have htext : ¬ (renderFunction config f).isBlank = true := by
      intro hblank
      exact absurd (List.all_eq_true.1 hblank _ hbrace) (by decide)
    rw [List.map_cons, Text.joined_cons, List.append_eq_nil_iff]
    exact iff_of_false (fun h => Text.tidied_ne_nil htext h.1) nofun

/-- **A set is rendered function by function**: the texts of its functions, tidied up, with one line
feed more between neighbours than there are to be blank lines. Tidying leaves the text of a function
as it is exactly if that has no carriage return before a line feed and no line of white space. -/
theorem renderDeclarations_eq (config : Config) (s : DeclarationSet) :
    renderDeclarations config s
        = Text.joined (List.replicate (config.blankLines + 1) '\n')
            (s.functions.map fun f => (renderFunction config f).tidied) ∧
      ∀ f : Function, (renderFunction config f).tidied = renderFunction config f ↔
        ¬ ['\r', '\n'] <:+: renderFunction config f ∧
          ∀ line ∈ (renderFunction config f).lines, line ≠ [] → ¬ line.isBlank := by
  refine ⟨renderDeclarations_eq_joined s, fun f => Text.tidied_eq_self_iff ?_⟩
  rw [getLast?_renderFunction]
  decide

end Layout

end SwiftDecl
