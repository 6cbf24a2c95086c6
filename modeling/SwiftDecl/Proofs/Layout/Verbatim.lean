import SwiftDecl.Proofs.Layout.Composition
import SwiftDecl.Proofs.Layout.FunctionText
import SwiftDecl.Proofs.Layout.Signature

/-!
# What stays of a signature

A signature holds free texts, the default values above all, and the text of its function holds the
signature as it is. In the text of a set the opening of the body comes tidied up
(`tidied_opening_infix_renderDeclarations`): what was free text before is cut into lines there like
all the rest. So a signature stays what it is where tidying its opening changes nothing, and a line
of white space in a default value does not.
-/

namespace SwiftDecl

/-- A default value stands in its parameter as it is. -/
theorem Parameter.defaultValue_infix_render {p : Parameter} {value : Text}
    (h : value ∈ p.defaultValue) : value <:+: p.render := by
  have hclause : p.defaultClause = " = ".toList ++ value := by
    rw [defaultClause, Option.mem_def.1 h]
    rfl
  refine ⟨p.identifier.display ++ p.localClause ++ ": ".toList ++ p.type.spelling ++ " = ".toList,
    [], ?_⟩
  rw [render_eq, hclause]
  simp

/-- A parameter stands in its signature as it is. -/
theorem Function.render_infix_signature {f : Function} {p : Parameter} (h : p ∈ f.params) :
    p.render <:+: f.signature := by
  have hrow : p.render <:+: Text.joined (',' :: [' ']) (f.params.map Parameter.render) :=
    Text.infix_joined (List.mem_map_of_mem h)
  refine hrow.trans ⟨f.staticWord ++ "func ".toList ++ f.name.display ++ f.genericsClause ++ ['('],
    ')' :: (f.throwsWord ++ f.returnClause), ?_⟩
  rw [signature_eq]
  simp

/-- The opening of a function has no carriage return before a line feed and no line of white
space. -/
def Function.HasTidyOpening (f : Function) : Prop :=
  ¬ ['\r', '\n'] <:+: f.opening ∧ ∀ line ∈ f.opening.lines, line ≠ [] → ¬ line.isBlank

/-- Exactly then tidying changes nothing about it. -/
theorem Function.tidied_opening_eq_iff {f : Function} :
    f.opening.tidied = f.opening ↔ f.HasTidyOpening := by
  refine Text.tidied_eq_self_iff ?_
  simp [opening]

namespace Layout

variable {config : Config} {s : DeclarationSet} {f : Function}

theorem signature_infix_renderFunction (config : Config) (f : Function) :
    f.signature <:+: renderFunction config f := by
  have hopening : f.opening <:+: renderFunction config f := by
    rw [renderFunction_eq_joined]
    exact Text.infix_joined (by simp [functionParts])
  exact (List.prefix_append _ _).isInfix.trans hopening

/-- The lines of the opening are lines of the function: it starts behind a line feed and ends before
one. -/
theorem lines_opening_infix_lines (config : Config) (f : Function) :
    f.opening.lines <:+: (renderFunction config f).lines := by
  have hopening : f.opening = f.signature ++ [' '] ++ ['\x7b'] := by simp [Function.opening]
  have hrest : ∀ t : Text, (f.opening ++ '\n' :: t).lines = f.opening.lines ++ t.lines := by
    intro t
    rw [hopening, List.append_assoc, List.singleton_append]
    exact Text.lines_concat_append_feed (by decide) (by decide) _ t
  rw [renderFunction_eq_append, Function.documentationText, Text.lines_flatMap_append, hrest,
    ← List.append_assoc]
  exact List.infix_append ..

/-- **A set shows the opening of each function tidied up.** -/
theorem tidied_opening_infix_renderDeclarations (config : Config) (hf : f ∈ s.functions) :
    f.opening.tidied <:+: renderDeclarations config s := by
  have hfunction : f.opening.tidied <:+: (renderFunction config f).tidied :=
    Text.joined_infix_joined ((lines_opening_infix_lines config f).map Text.withoutBlank)
  refine hfunction.trans ?_
  rw [renderDeclarations_eq_joined]
  exact Text.infix_joined (List.mem_map_of_mem hf)

/-- **What stays of a signature.** A signature holds the default values of its parameters as they
are, and the text of its function holds the signature. The text of a set holds the opening with the
signature tidied up, and so the signature itself where tidying changes nothing: where the opening
has no carriage return before a line feed and no line of white space. -/
theorem signature_verbatim (config : Config) (hf : f ∈ s.functions) :
    (∀ p ∈ f.params, ∀ value ∈ p.defaultValue, value <:+: f.signature) ∧
      f.signature <:+: renderFunction config f ∧
      f.opening.tidied <:+: renderDeclarations config s ∧
      (f.opening.tidied = f.opening ↔ f.HasTidyOpening) ∧
      (f.HasTidyOpening → f.signature <:+: renderDeclarations config s) := by
  have hset : f.opening.tidied <:+: renderDeclarations config s :=
    tidied_opening_infix_renderDeclarations config hf
  refine ⟨fun p hp value hvalue => ?_, signature_infix_renderFunction config f, hset,
    Function.tidied_opening_eq_iff, fun htidy => ?_⟩
  · exact (Parameter.defaultValue_infix_render hvalue).trans (Function.render_infix_signature hp)
  · rw [Function.tidied_opening_eq_iff.2 htidy] at hset
    exact (List.prefix_append _ _).isInfix.trans hset

/-- A function with a text for a default value. -/
def greetDraft (value : Text) : Draft :=
  (Draft.named "greet".toList).edited
    (.param ((Parameter.named "text".toList .string).withDefaultValue value))

/-- A literal of several lines, none of which is blank. -/
def plainGreet : Function :=
  (greetDraft "\"\"\"\n a\n\n b\n\"\"\"".toList).finished

/-- The same with white space on the line that was empty. -/
def spacedGreet : Function :=
  (greetDraft "\"\"\"\n a\n \n b\n\"\"\"".toList).finished

theorem plainGreet_verbatim :
    plainGreet ∈ [spacedGreet, plainGreet] ∧ plainGreet.HasTidyOpening ∧
      plainGreet.signature <:+: renderDeclarations .standard ⟨[spacedGreet, plainGreet]⟩ := by
  have hmem : plainGreet ∈ [spacedGreet, plainGreet] := by simp
  have htidy : plainGreet.HasTidyOpening := by
    unfold Function.HasTidyOpening
    decide +kernel
  exact ⟨hmem, htidy, (signature_verbatim .standard hmem).2.2.2.2 htidy⟩

/-- **White space alone on a line of a default value is lost in a set.** -/
theorem spacedGreet_not_verbatim :
    (∃ d : Draft, d.build = .ok spacedGreet) ∧
      spacedGreet.signature <:+: renderFunction .standard spacedGreet ∧
      ¬ spacedGreet.signature <:+: renderDeclarations .standard ⟨[spacedGreet]⟩ := by
  refine ⟨⟨greetDraft _, rfl⟩, ?_, ?_⟩ <;> decide +kernel

end Layout

end SwiftDecl
