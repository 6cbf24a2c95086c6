import SwiftDecl.Proofs.Function.Validation
import SwiftDecl.Proofs.Layout.Composition

/-!
# Rendered text is tidy

Comments, default values and bodies are free texts, and so is the unit of indentation: any of them
may bring a line of white space. The text of a set has none, for each function is tidied up as a
whole, when all its lines are there. Tidying keeps the number of lines and the brace at the end, so
the lines of a set are those of its functions and the empty ones between them
(`renderDeclarations_isTidy`).
-/

namespace SwiftDecl

namespace Text

variable {s t : Text} {ls : List Text}

/-- **Whether a text is tidy**: a line, cut at line feeds alone, is empty or holds something that is
not white space. -/
def IsTidy (t : Text) : Prop :=
  ∀ line ∈ t.splitOn '\n', line = [] ∨ ∃ c ∈ line, ¬ Unicode.isBlank c

theorem isTidy_nil : IsTidy [] :=
  List.forall_mem_singleton.2 (.inl rfl)

/-- A line feed parts a text into two that are tidy if the whole is. -/
theorem isTidy_append_feed : IsTidy (s ++ '\n' :: t) ↔ IsTidy s ∧ IsTidy t := by
  have hcut : (s ++ '\n' :: t).splitOn '\n' = s.splitOn '\n' ++ t.splitOn '\n' :=
    List.splitOnP_append_cons s t rfl
  rw [IsTidy, hcut, List.forall_mem_append]
  rfl

theorem isTidy_replicate_append {n : ℕ} : IsTidy (List.replicate n '\n' ++ t) ↔ IsTidy t := by
  induction n with
  | zero => rfl
  | succ n ih =>
    have hstep := isTidy_append_feed (s := []) (t := List.replicate n '\n' ++ t)
    rw [List.nil_append, and_iff_right isTidy_nil, ih] at hstep
    exact hstep

/-- Tidy texts with line feeds between them are tidy. -/
theorem isTidy_joined {n : ℕ} (h : ∀ part ∈ ls, IsTidy part) :
    IsTidy (joined (List.replicate (n + 1) '\n') ls) := by
  fun_induction joined (List.replicate (n + 1) '\n') ls with
  | case1 => exact isTidy_nil
  | case2 part => exact h part List.mem_cons_self
  | case3 part more _ ih =>
    obtain ⟨hpart, hmore⟩ := List.forall_mem_cons.1 h
    rw [List.append_assoc, List.replicate_succ, List.cons_append, isTidy_append_feed,
      isTidy_replicate_append]
    exact ⟨hpart, ih hmore⟩

/-- **What is tidied up is tidy.** -/
theorem isTidy_tidied (t : Text) : IsTidy t.tidied := by
  have hline : ∀ line ∈ t.lines.map withoutBlank, IsTidy line := by
    intro line hline
    obtain ⟨whole, hwhole, rfl⟩ := List.mem_map.1 hline
    have hfeed : '\n' ∉ whole.withoutBlank := fun h =>
      not_mem_of_mem_lines hwhole ((withoutBlank_sublist whole).mem h)
    have hone : whole.withoutBlank.splitOn '\n' = [whole.withoutBlank] :=
      splitOn_joined (List.cons_ne_nil _ _) (List.forall_mem_singleton.2 hfeed)
    rw [IsTidy, hone, List.forall_mem_singleton, withoutBlank]
    split_ifs with hblank
    · exact .inl rfl
    · rw [isBlank, List.all_eq_true] at hblank
      push Not at hblank
      exact .inr hblank
  exact isTidy_joined (n := 0) hline

end Text

namespace Layout

variable {config : Config} {s : DeclarationSet}

/-- Tidying keeps the brace that closes a function, and its line feeds. -/
theorem tidied_renderFunction (config : Config) (f : Function) :
    (renderFunction config f).tidied.getLast? = some '\x7d' ∧
      (renderFunction config f).tidied.count '\n' = (renderFunction config f).count '\n' := by
  obtain ⟨front, hfront⟩ := List.getLast?_eq_some_iff.1 (getLast?_renderFunction (f := f))
  rw [hfront]
  exact Text.tidied_concat (by decide) front

/-- The last character of a set is the brace that closes its last function. -/
theorem getLast?_renderDeclarations (h : s.functions ≠ []) :
    (renderDeclarations config s).getLast? = some '\x7d' := by
  obtain ⟨front, f, hs⟩ := (List.eq_nil_or_concat' s.functions).resolve_left h
  have hlast := (tidied_renderFunction config f).1
  have hne : (renderFunction config f).tidied ≠ [] := by
    intro hnil
    rw [hnil] at hlast
    cases hlast
  rw [renderDeclarations_eq_joined, hs, List.map_append, List.map_singleton,
    Text.getLast?_joined_concat _ hne, hlast]

/-- A set has the line feeds of its functions, and those that stand between them. -/
theorem count_renderDeclarations (config : Config) (s : DeclarationSet) :
    (renderDeclarations config s).count '\n'
      = (s.functions.map fun f => (renderFunction config f).count '\n').sum
        + (s.functions.length - 1) * (config.blankLines + 1) := by
  rw [renderDeclarations_eq_joined, Text.count_joined, List.map_map, List.length_map, separator,
    List.count_replicate_self]
  congr 2
  exact List.map_congr_left fun f _ => (tidied_renderFunction config f).2

/-- **The text of a set is tidy**, whatever its functions hold and whatever the unit of indentation
is: none of its lines is white space alone. If there are functions it ends with a brace, and it has
as many line feeds as its functions have, and for any two neighbours one more than there are to be
blank lines. -/
theorem renderDeclarations_isTidy (config : Config) (s : DeclarationSet) :
    (renderDeclarations config s).IsTidy ∧
      (s.functions ≠ [] →
        (renderDeclarations config s).getLast? = some '\x7d' ∧
          (renderDeclarations config s).count '\n'
            = (s.functions.map fun f => (renderFunction config f).count '\n').sum
              + (s.functions.length - 1) * (config.blankLines + 1)) := by
  refine ⟨?_, fun h => ⟨getLast?_renderDeclarations h, count_renderDeclarations config s⟩⟩
  rw [renderDeclarations_eq_joined]
  refine Text.isTidy_joined fun part hpart => ?_
  obtain ⟨f, -, rfl⟩ := List.mem_map.1 hpart
  exact Text.isTidy_tidied _

/-- A unit of indentation that ends a line of its own. -/
def breakingConfig : Config :=
  ⟨" \r\n\t".toList, 2⟩

/-- White space alone on a line of a comment, of a default value and of a body. -/
def spacious : Function :=
  ((((Draft.named "wait".toList).edited (.comment "Waits.\r\n\u3000\nLong.".toList)).edited
    (.param ((Parameter.named "text".toList .string).withDefaultValue
      "\"\"\"\n \r\r\n\"\"\"".toList))).edited (.body "\u2003\ntick()\n\r\ntock()".toList)).finished

theorem spacious_isTidy :
    [spacious, spacious] ≠ [] ∧ ¬ (renderFunction breakingConfig spacious).IsTidy ∧
      (renderDeclarations breakingConfig ⟨[spacious, spacious]⟩).IsTidy ∧
      (renderDeclarations breakingConfig ⟨[spacious, spacious]⟩).count '\n' = 27 := by
  have hne : [spacious, spacious] ≠ [] := List.cons_ne_nil _ _
  have hblank : " \r".toList ∈ (renderFunction breakingConfig spacious).splitOn '\n' := by
    decide +kernel
  have hspace : ∀ c ∈ " \r".toList, Unicode.isBlank c := List.all_eq_true.1 rfl
  have htidy := renderDeclarations_isTidy breakingConfig ⟨[spacious, spacious]⟩
  refine ⟨hne, fun h => ?_, htidy.1, ?_⟩
  · obtain hnil | ⟨c, hc, hink⟩ := h _ hblank
    · cases hnil
    · exact hink (hspace c hc)
  · rw [(htidy.2 hne).2]
    decide +kernel

end Layout

end SwiftDecl
