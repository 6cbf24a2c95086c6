import SwiftDecl.Dependencies
import SwiftDecl.Proofs.TypeRef.Sameness

/-!
# The used types are closed

A type uses itself and what its arguments use (`usedTypes_mk`). So wherever a used type stands, all
that it uses itself follows in one stretch (`usedTypes_unfolds`), and what holds of every used type
holds at every depth.
-/

namespace SwiftDecl

variable {α : Type} {ts us : List TypeRef} {t u : TypeRef}

/-! ## Rows that unfold -/

/-- **Whether a row of types unfolds**: where a type stands in it, all that it uses follows. -/
def Unfolds (ts : List TypeRef) : Prop :=
  ∀ i t, ts[i]? = some t → t.usedTypes <+: ts.drop i

/-- In a row that unfolds, what a type uses stands together. -/
theorem Unfolds.infix_of_mem (hts : Unfolds ts) (ht : t ∈ ts) : t.usedTypes <:+: ts := by
  obtain ⟨i, hi⟩ := List.mem_iff_getElem?.1 ht
  exact (hts i t hi).isInfix.trans (List.drop_suffix i ts).isInfix

theorem Unfolds.append (hts : Unfolds ts) (hus : Unfolds us) : Unfolds (ts ++ us) := by
  intro i t h
  rcases Nat.lt_or_ge i ts.length with hi | hi
  · rw [List.getElem?_append_left hi] at h
    rw [List.drop_append_of_le_length (Nat.le_of_lt hi)]
    exact (hts i t h).trans (List.prefix_append _ _)
  · rw [List.getElem?_append_right hi] at h
    rw [List.drop_append, List.drop_eq_nil_of_le hi, List.nil_append]
    exact hus _ t h

theorem unfolds_flatMap {xs : List α} {g : α → List TypeRef} (h : ∀ x ∈ xs, Unfolds (g x)) :
    Unfolds (xs.flatMap g) := by
  induction xs with
  | nil => exact fun i t h => by simp at h
  | cons x xs ih =>
    obtain ⟨hx, hxs⟩ := List.forall_mem_cons.1 h
    exact hx.append (ih hxs)

namespace TypeRef

variable {m : Module} {h : Head} {as : List TypeRef} {o : Bool}

theorem usedTypesOf_eq_flatMap (ts : List TypeRef) : usedTypesOf ts = ts.flatMap usedTypes := by
  induction ts with
  | nil => rfl
  | cons t ts ih => rw [usedTypesOf, ih, List.flatMap_cons]

theorem usedTypes_mk : (mk m h as o).usedTypes = mk m h as o :: as.flatMap usedTypes := by
  rw [usedTypes, usedTypesOf_eq_flatMap]

theorem head?_usedTypes (t : TypeRef) : t.usedTypes.head? = some t := by
  obtain ⟨m, h, as, o⟩ := t
  rw [usedTypes_mk, List.head?_cons]

theorem mem_usedTypes_self (t : TypeRef) : t ∈ t.usedTypes :=
  List.mem_of_head? t.head?_usedTypes

theorem mem_usedTypes_of_mem_args (ht : t ∈ as) : t ∈ (mk m h as o).usedTypes := by
  rw [usedTypes_mk]
  exact List.mem_cons_of_mem _ (List.mem_flatMap.2 ⟨t, ht, t.mem_usedTypes_self⟩)

/-- The types that a type uses unfold: it is followed by what its arguments use. -/
theorem usedTypes_unfolds (t : TypeRef) : Unfolds t.usedTypes := by
  induction t using ofArgs with
  | mk m h as o ih =>
    rw [usedTypes_mk]
    intro i u hu
    cases i with
    | zero =>
      obtain rfl : mk m h as o = u := by simpa using hu
      rw [usedTypes_mk]
      exact List.prefix_rfl
    | succ i => exact unfolds_flatMap ih i u hu

/-- **What a used type uses is used**, and stands together. -/
theorem usedTypes_infix_of_mem (ht : t ∈ u.usedTypes) : t.usedTypes <:+: u.usedTypes :=
  u.usedTypes_unfolds.infix_of_mem ht

end TypeRef

variable {s : DeclarationSet}

theorem Function.usedTypes_unfolds (f : Function) : Unfolds f.usedTypes :=
  f.returns.usedTypes_unfolds.append (unfolds_flatMap fun p _ => p.type.usedTypes_unfolds)

/-- The types that a set of declarations uses unfold, across its functions. -/
theorem DeclarationSet.usedTypes_unfolds (s : DeclarationSet) : Unfolds s.usedTypes :=
  unfolds_flatMap fun f _ => f.usedTypes_unfolds

/-- **What a used type uses is used** by the set as well, and stands together. -/
theorem DeclarationSet.usedTypes_infix_of_mem (ht : t ∈ s.usedTypes) :
    t.usedTypes <:+: s.usedTypes :=
  s.usedTypes_unfolds.infix_of_mem ht

end SwiftDecl
