import SwiftDecl.Manifest.Basic
import SwiftDecl.Proofs.Function.Validation
import SwiftDecl.Proofs.Parameter.Construction
import Mathlib.Data.List.Forall2

/-!
# What the declarations of a manifest are

If there are declarations, there is a function for every entry, in the order of the entries
(`toDeclarations_eq_ok_iff`), and each is the draft of its entry, finished. So the types of a
function are the types its entry writes.
-/

namespace SwiftDecl

namespace Manifest

variable {index : Nat} {spec : FunctionSpec} {specs : List FunctionSpec}
variable {f : Function} {fs : List Function} {m : Manifest} {s : DeclarationSet}

theorem functionsFrom_nil (index : Nat) : functionsFrom index [] = .ok [] := rfl

/-- One more entry is converted before those that follow it. -/
theorem functionsFrom_cons_eq_ok_iff :
    functionsFrom index (spec :: specs) = .ok fs ↔
      ∃ f more, spec.toFunction = .ok f ∧ functionsFrom (index + 1) specs = .ok more ∧
        fs = f :: more := by
  rw [functionsFrom.eq_def]
  dsimp only
  cases spec.toFunction with
  | error r => simp
  | ok f =>
    cases functionsFrom (index + 1) specs with
    | error e => simp [Except.map]
    | ok more => simp [Except.map, eq_comm]

/-- The functions of entries are those that the entries give one by one. -/
theorem functionsFrom_eq_ok_iff :
    functionsFrom index specs = .ok fs ↔
      List.Forall₂ (fun spec f => spec.toFunction = .ok f) specs fs := by
  induction specs generalizing index fs with
  | nil => cases fs <;> simp [functionsFrom_nil]
  | cons spec specs ih =>
    rw [functionsFrom_cons_eq_ok_iff, List.forall₂_cons_left_iff]
    simp only [ih, exists_and_left]

/-- **The declarations of a manifest are those of its entries**, one by one. -/
theorem toDeclarations_eq_ok_iff :
    m.toDeclarations = .ok s ↔
      List.Forall₂ (fun spec f => spec.toFunction = .ok f) m.functions s.functions := by
  obtain ⟨fs⟩ := s
  have hfrom : functionsFrom 0 m.functions = .ok fs ↔
      List.Forall₂ (fun spec f => spec.toFunction = .ok f) m.functions fs :=
    functionsFrom_eq_ok_iff
  rw [← hfrom, toDeclarations]
  cases functionsFrom 0 m.functions with
  | error e => simp [Except.map]
  | ok more => simp [Except.map]

/-- A parameter has the type that is written. -/
@[simp] theorem ParamSpec.type_toParameter (p : ParamSpec) :
    p.toParameter.type = p.type.toTypeRef := by
  unfold toParameter
  cases p.localName <;> cases p.defaultValue <;> simp [Parameter.named]

/-- A function returns what its entry writes, and takes what its entry writes. -/
theorem FunctionSpec.types_of_toFunction (h : spec.toFunction = .ok f) :
    f.returns = spec.returnType ∧
      f.params.map Parameter.type = spec.params.map fun p => p.type.toTypeRef := by
  obtain rfl : f = spec.toDraft.finished := Draft.eq_finished_of_build h
  refine ⟨rfl, ?_⟩
  change (spec.params.map ParamSpec.toParameter).map Parameter.type = _
  simp

end Manifest

end SwiftDecl
