import SwiftDecl.Dependencies
import SwiftDecl.Proofs.Function.Validation
import SwiftDecl.Proofs.Layout.Outline
import SwiftDecl.Proofs.Layout.Signature
import Mathlib.Data.List.FinRange

/-!
# The order of parameters

A draft is checked parameter by parameter, with the bindings met so far in hand, and the first fault
ends the run. Which fault that is depends on the order; that there is none does not, for labels that
can be used and bindings that differ are the same in every order (`Draft.wellFormed_reordered`). In
what is rendered and listed the parameters fill one stretch, in their own order, and nothing around
it reads them (`order_moves_parameters_alone`).
-/

namespace SwiftDecl

namespace Draft

variable {d : Draft}

/-- The draft with its parameters in another order: at each place the one that the permutation
fetches there. -/
def reordered (d : Draft) (σ : Equiv.Perm (Fin d.params.length)) : Draft :=
  { d with params := List.ofFn fun i => d.params[σ i] }

theorem params_reordered_perm (σ : Equiv.Perm (Fin d.params.length)) :
    (d.reordered σ).params.Perm d.params := by
  have hperm := σ.ofFn_comp_perm d.params.get
  rwa [List.ofFn_get] at hperm

/-- **No order of the parameters makes a draft faulty** or mends it. -/
theorem wellFormed_reordered (σ : Equiv.Perm (Fin d.params.length)) :
    (d.reordered σ).WellFormed ↔ d.WellFormed := by
  have hperm := params_reordered_perm σ
  have hbindings := (hperm.map Parameter.bindingName).nodup_iff
  constructor
  · intro h
    exact ⟨h.name, h.generics, fun p hp => h.labels p (hperm.mem_iff.2 hp), hbindings.1 h.bindings⟩
  · intro h
    exact ⟨h.name, h.generics, fun p hp => h.labels p (hperm.mem_iff.1 hp), hbindings.2 h.bindings⟩

/-- Which fault is found does depend on the order. -/
example :
    let d := (Draft.named "load".toList).edited (.params
      [.named "id".toList .int, .named "id".toList .int, .named "-".toList .int])
    d.fault? = some (.duplicateParameter (.ofName "load".toList) "id".toList) ∧
      (d.reordered Fin.revPerm).fault?
        = some (.emptyParameterName (.ofName "load".toList) 0) := by
  decide

/-- What is made of the parameters one by one is reordered as they are. -/
theorem map_params_reordered {α : Type} (g : Parameter → α) (σ : Equiv.Perm (Fin d.params.length)) :
    (d.reordered σ).params.map g = List.ofFn fun i => g d.params[σ i] := by
  rw [reordered, List.map_ofFn]
  rfl

end Draft

/-- **Reordering parameters moves them and nothing else.** A draft is built with its parameters in
one order exactly if it is in every other. Then the rendered parameters stand in the signature in
the order of the parameters, between two texts that are the same for all orders; the documentation
and the body are the same lines under every layout; and the types that are used are those of the
return type and then, in the order of the parameters, those of each. -/
theorem order_moves_parameters_alone (d : Draft) (σ : Equiv.Perm (Fin d.params.length)) :
    ((∃ g, (d.reordered σ).build = .ok g) ↔ ∃ f, d.build = .ok f) ∧
    ∀ f g, d.build = .ok f → (d.reordered σ).build = .ok g →
      (∃ before behind,
        f.signature = before ++ '(' :: (Text.joined ", ".toList
          (List.ofFn fun i : Fin d.params.length => d.params[i].render) ++ ')' :: behind) ∧
        g.signature = before ++ '(' :: (Text.joined ", ".toList
          (List.ofFn fun i => d.params[σ i].render) ++ ')' :: behind)) ∧
      (∀ config, ∃ above below,
        above = d.comments.flatMap Layout.documentedLines ∧
        below = Layout.indentedLines config.indentUnit d.body ++ ["\x7d".toList] ∧
        Layout.renderFunction config f
          = List.intercalate ['\n'] (above ++ (f.signature ++ " \x7b".toList) :: below) ∧
        Layout.renderFunction config g
          = List.intercalate ['\n'] (above ++ (g.signature ++ " \x7b".toList) :: below)) ∧
      f.usedTypes = d.returns.usedTypes
        ++ (List.ofFn fun i : Fin d.params.length => d.params[i].usedTypes).flatten ∧
      g.usedTypes = d.returns.usedTypes
        ++ (List.ofFn fun i => d.params[σ i].usedTypes).flatten := by
  refine ⟨?_, fun f g hf hg => ?_⟩
  · rw [Draft.exists_build_eq_ok_iff, Draft.exists_build_eq_ok_iff, Draft.wellFormed_reordered]
  obtain rfl := Draft.eq_finished_of_build hf
  obtain rfl := Draft.eq_finished_of_build hg
  have hrendered : List.ofFn (fun i : Fin d.params.length => d.params[i].render)
      = d.params.map Parameter.render := List.ofFn_getElem_eq_map d.params Parameter.render
  have hused : List.ofFn (fun i : Fin d.params.length => d.params[i].usedTypes)
      = d.params.map Parameter.usedTypes := List.ofFn_getElem_eq_map d.params Parameter.usedTypes
  refine ⟨?_, fun config => ?_, ?_, ?_⟩
  · -- the two functions differ in their parameters alone
    rw [hrendered, ← Draft.map_params_reordered]
    exact ⟨_, _, d.finished.signature_withParams d.params,
      d.finished.signature_withParams (d.reordered σ).params⟩
  · exact ⟨_, _, rfl, rfl, (Layout.renderFunction_outline config _).1,
      (Layout.renderFunction_outline config _).1⟩
  · rw [hused, ← List.flatMap_def]
    rfl
  · rw [← Draft.map_params_reordered, ← List.flatMap_def]
    rfl

/-- Three parameters, of which one has a local name and one a type with an argument. -/
def moving : Draft :=
  (Draft.named "move".toList).editedBy
    [.comment "Moves one row.".toList, .param (.named "row".toList .int),
      .param ((Parameter.named "to".toList .int).edited (.localName "target".toList)),
      .param (.named "from".toList (.arrayOf .string)), .throws true]

/-- The last parameter in front, and the first behind. -/
theorem moving_turned :
    (∃ g, (moving.reordered Fin.revPerm).build = .ok g) ∧
      (∃ before behind,
        moving.finished.signature
          = before ++ '(' :: ("row: Int, to target: Int, from: [String]".toList ++ ')' :: behind) ∧
        (moving.reordered Fin.revPerm).finished.signature
          = before ++ '(' :: ("from: [String], to target: Int, row: Int".toList ++ ')' :: behind)) ∧
      (moving.reordered Fin.revPerm).finished.usedTypes
        = [.void, .arrayOf .string, .string, .int, .int] := by
  obtain ⟨hbuilt, hmoved⟩ := order_moves_parameters_alone moving Fin.revPerm
  obtain ⟨⟨before, behind, hinOrder, hturned⟩, -, -, hused⟩ :=
    hmoved moving.finished (moving.reordered Fin.revPerm).finished rfl rfl
  have hgiven : Text.joined ", ".toList (List.ofFn fun i => moving.params[i].render)
      = "row: Int, to target: Int, from: [String]".toList := by decide +kernel
  have hrevised : Text.joined ", ".toList (List.ofFn fun i => moving.params[Fin.revPerm i].render)
      = "from: [String], to target: Int, row: Int".toList := by decide +kernel
  rw [hgiven] at hinOrder
  rw [hrevised] at hturned
  exact ⟨hbuilt.2 ⟨_, rfl⟩, ⟨before, behind, hinOrder, hturned⟩, hused⟩

end SwiftDecl
