import SwiftDecl.TypeRef.Sameness
import Mathlib.Data.List.Forall2

/-!
# Sameness of references, argument by argument

A reference is a tree, and what is true of its arguments carries over to it (`TypeRef.ofArgs`).
Lists of arguments are the same when they are of one length and the same one by one. What sameness
ignores can be stripped off: references are the same when nothing else tells them apart
(`beq_iff_stripped_eq`), and so sameness is an equivalence.
-/

namespace SwiftDecl

namespace TypeRef

/-- **Induction over a reference**: what holds of every type whose arguments it holds of holds of
every type. -/
theorem ofArgs {motive : TypeRef → Prop}
    (mk : ∀ module head args isOptional, (∀ t ∈ args, motive t) →
      motive (.mk module head args isOptional)) : ∀ t, motive t
  | .mk module head args isOptional => mk module head args isOptional fun t ht =>
      have : sizeOf t < sizeOf args := List.sizeOf_lt_of_mem ht
      ofArgs mk t
termination_by t => sizeOf t
decreasing_by simp only [TypeRef.mk.sizeOf_spec]; omega

/-- Two references are the same by name, arguments and optionality. -/
theorem beq_mk {m m' : Module} {h h' : Head} {as as' : List TypeRef} {o o' : Bool} :
    (mk m h as o == mk m' h' as' o') = true ↔
      h.name = h'.name ∧ sameAll as as' = true ∧ o = o' := by
  change same _ _ = true ↔ _
  simp [same, and_assoc]

/-- Lists of references are the same if they are so one by one. -/
theorem sameAll_iff {ts us : List TypeRef} :
    sameAll ts us = true ↔ List.Forall₂ (fun t u => (t == u) = true) ts us := by
  induction ts generalizing us with
  | nil => cases us <;> simp [sameAll]
  | cons t ts ih =>
    cases us with
    | nil => simp [sameAll]
    | cons u us =>
      rw [sameAll, Bool.and_eq_true, ih, List.forall₂_cons]
      rfl

mutual

/-- The reference without what sameness ignores, at every depth: a name of the host module. -/
def stripped : TypeRef → TypeRef
  | mk _ h as o => mk .host (.plain h.name) (strippedAll as) o

/-- The references without what sameness ignores, one by one. -/
def strippedAll : List TypeRef → List TypeRef
  | [] => []
  | t :: ts => t.stripped :: strippedAll ts

end

/-- **Sameness is equality of what is left** when module and way of writing are stripped off. -/
theorem beq_iff_stripped_eq {t u : TypeRef} : (t == u) = true ↔ t.stripped = u.stripped := by
  induction t using ofArgs generalizing u with
  | mk m h as o ih =>
  obtain ⟨m', h', as', o'⟩ := u
  -- the arguments by their own induction, each pair of them by that over the tree
  have hargs : sameAll as as' = true ↔ strippedAll as = strippedAll as' := by
    rw [sameAll_iff]
    induction as generalizing as' with
    | nil => cases as' <;> simp [strippedAll]
    | cons t ts ihargs =>
      cases as' with
      | nil => simp [strippedAll]
      | cons u us =>
        rw [List.forall₂_cons, ih t List.mem_cons_self,
          ihargs (fun w hw => ih w (List.mem_cons_of_mem _ hw)), strippedAll, strippedAll,
          List.cons.injEq]
  rw [beq_mk, hargs, stripped, stripped]
  simp

instance : EquivBEq TypeRef where
  rfl := beq_iff_stripped_eq.2 rfl
  symm h := beq_iff_stripped_eq.2 (beq_iff_stripped_eq.1 h).symm
  trans h h' := beq_iff_stripped_eq.2 ((beq_iff_stripped_eq.1 h).trans (beq_iff_stripped_eq.1 h'))

/-- `Void` is known by its name alone. -/
theorem isVoid_iff {t : TypeRef} :
    t.isVoid = true ↔ t.name = "Void".toList ∧ t.args = [] ∧ t.isOptional = false := by
  obtain ⟨m, h, as, o⟩ := t
  have hargs : sameAll as [] = true ↔ as = [] := by cases as <;> simp [sameAll]
  rw [isVoid, void, builtin, beq_mk, hargs]
  exact Iff.rfl

/-- Two types that are both `Void` are the same type. -/
theorem beq_of_isVoid {t u : TypeRef} (ht : t.isVoid) (hu : u.isVoid) : (t == u) = true := by
  obtain ⟨m, h, as, o⟩ := t
  obtain ⟨m', h', as', o'⟩ := u
  obtain ⟨hn, rfl, rfl⟩ := isVoid_iff.1 ht
  obtain ⟨hn', rfl, rfl⟩ := isVoid_iff.1 hu
  exact beq_mk.2 ⟨hn.trans hn'.symm, rfl, rfl⟩

end TypeRef

end SwiftDecl
