import SwiftDecl.Proofs.Dependencies.Nodes
import SwiftDecl.Proofs.Layout.Verbatim

/-!
# What is listed is rendered

The types that a function uses are collected in one walk and spelled in another, but both follow the
tree of a type: however a type is written, it is written around the spellings of its arguments
(`TypeRef.spelling_infix_of_mem_args`). So a listed type stands in the signature, the return type
`Void` excepted, which is listed and left out; and what the signature spells out is listed, at every
depth (`rendered_and_listed`).
-/

namespace SwiftDecl

namespace TypeRef

variable {m : Module} {h : Head} {as : List TypeRef} {o : Bool} {t u : TypeRef}

/-- **The spelling of an argument stands in that of its type**, in brackets or behind a name. -/
theorem spelling_infix_of_mem_args (ht : t ∈ as) : t.spelling <:+: (mk m h as o).spelling := by
  cases form (mk m h as o) with
  | array m element o =>
    rw [List.mem_singleton.1 ht, spelling_array]
    exact ⟨['['], ']' :: optionalMark o, by simp⟩
  | dictionary m key value o =>
    rw [spelling_dictionary]
    rcases List.mem_pair.1 ht with rfl | rfl
    · exact ⟨['['], ':' :: ' ' :: (value.spelling ++ ']' :: optionalMark o), by simp⟩
    · exact ⟨'[' :: (key.spelling ++ [':', ' ']), ']' :: optionalMark o, by simp⟩
  | byName m h as o hs =>
    obtain ⟨first, more, rfl⟩ := List.exists_cons_of_ne_nil (List.ne_nil_of_mem ht)
    have hrow : t.spelling <:+: Text.joined ", ".toList ((first :: more).map spelling) :=
      Text.infix_joined (List.mem_map_of_mem ht)
    refine hrow.trans ⟨h.name ++ ['<'], '>' :: optionalMark o, ?_⟩
    rw [hs, argumentClause]
    simp

/-- The spelling of a used type stands in that of the type that uses it. -/
theorem spelling_infix_of_mem_usedTypes (ht : t ∈ u.usedTypes) : t.spelling <:+: u.spelling := by
  induction u using ofArgs with
  | mk m h as o ih =>
    rw [usedTypes_mk] at ht
    rcases List.mem_cons.1 ht with rfl | hargs
    · exact List.infix_rfl
    · obtain ⟨arg, harg, ht⟩ := List.mem_flatMap.1 hargs
      exact (ih arg harg ht).trans (spelling_infix_of_mem_args harg)

theorem usedTypes_of_isVoid (ht : t.isVoid) : t.usedTypes = [t] := by
  obtain ⟨m, h, as, o⟩ := t
  obtain ⟨-, hargs, -⟩ := isVoid_iff.1 ht
  obtain rfl : as = [] := hargs
  rw [usedTypes_mk, List.flatMap_nil]

end TypeRef

namespace Function

variable {f : Function} {t : TypeRef}

/-- The types that a signature spells out: the return type, unless it is `Void`, and the types of
the parameters. -/
def renderedTypes (f : Function) : List TypeRef :=
  (if f.returns.isVoid then [] else [f.returns]) ++ f.params.map Parameter.type

theorem spelling_infix_signature (ht : t ∈ f.renderedTypes) : t.spelling <:+: f.signature := by
  rcases List.mem_append.1 ht with hreturns | hparams
  · split_ifs at hreturns with hvoid
    · cases hreturns
    obtain rfl := List.mem_singleton.1 hreturns
    have hclause : f.returnClause = " -> ".toList ++ f.returns.spelling := by
      rw [returnClause, if_neg hvoid]
    rw [signature, hclause, ← List.append_assoc]
    exact (List.suffix_append _ _).isInfix
  · obtain ⟨p, hp, rfl⟩ := List.mem_map.1 hparams
    have htype : p.type.spelling <:+: p.render := by
      refine ⟨p.identifier.display ++ (p.localClause ++ [':', ' ']), p.defaultClause, ?_⟩
      rw [Parameter.render_eq]
      simp
    exact htype.trans (render_infix_signature hp)

/-- **A function uses what its signature spells out**, and before it the return type `Void` if that
is left out. -/
theorem usedTypes_eq_rendered (f : Function) :
    f.usedTypes = (if f.returns.isVoid then [f.returns] else [])
      ++ f.renderedTypes.flatMap TypeRef.usedTypes := by
  rw [usedTypes_eq, rootTypes, renderedTypes]
  split_ifs with hvoid
  · rw [List.flatMap_cons, TypeRef.usedTypes_of_isVoid hvoid]
    rfl
  · rfl

/-- A listed type stands in the signature, unless it is the return type and left out. -/
theorem spelling_infix_of_getElem? {i : ℕ} (ht : f.usedTypes[i]? = some t)
    (hi : i = 0 → ¬ f.returns.isVoid) : t.spelling <:+: f.signature := by
  have hused : t ∈ f.renderedTypes.flatMap TypeRef.usedTypes := by
    rw [usedTypes_eq_rendered] at ht
    split_ifs at ht with hvoid
    · cases i with
      | zero => exact absurd hvoid (hi rfl)
      | succ i => exact List.mem_of_getElem? ht
    · exact List.mem_of_getElem? ht
  obtain ⟨root, hroot, ht⟩ := List.mem_flatMap.1 hused
  exact (TypeRef.spelling_infix_of_mem_usedTypes ht).trans (spelling_infix_signature hroot)

/-- **What is listed is rendered, and what is rendered is listed.** Every type that a function uses
stands in its signature as it is spelled, but for the first one, the return type, if that is `Void`.
And in a set with the function every type that the signature spells out is listed, with all its
nodes. -/
theorem rendered_and_listed (f : Function) :
    (∀ i t, f.usedTypes[i]? = some t → (i = 0 → ¬ f.returns.isVoid) →
        t.spelling <:+: f.signature) ∧
      f.usedTypes[0]? = some f.returns ∧
      ∀ s : DeclarationSet, f ∈ s.functions → ∀ root ∈ f.renderedTypes, ∀ address t,
        root.nodeAt? address = some t → t.spelling ∈ Listing.lines s .all := by
  refine ⟨fun i t ht hi => spelling_infix_of_getElem? ht hi, ?_,
    fun s hf root hroot address t ht => ?_⟩
  · rw [usedTypes, ← List.head?_eq_getElem?, List.head?_append, TypeRef.head?_usedTypes]
    rfl
  · have hroot' : t ∈ f.renderedTypes.flatMap TypeRef.usedTypes :=
      List.mem_flatMap.2 ⟨root, hroot, TypeRef.mem_usedTypes_iff.2 ⟨address, ht⟩⟩
    have hfunction : t ∈ f.usedTypes := by
      rw [usedTypes_eq_rendered]
      exact List.mem_append_right _ hroot'
    exact List.mem_map_of_mem (List.mem_flatMap.2 ⟨f, hf, hfunction⟩)

/-- An array with two arguments, the second a dictionary in which `Void` is nested. -/
def keyedArray : TypeRef :=
  (TypeRef.arrayOf .int).withArgs
    [.string, (TypeRef.dictionaryOf (.named "Key".toList) (.arrayOf .void)).optional]

/-- A function that returns nothing. -/
def keying : Function :=
  ((Draft.named "key".toList).edited (.param (.named "by".toList keyedArray))).finished

/-- `Void` is listed as what is returned, which is not rendered, and as an element, which is. -/
theorem keying_rendered_and_listed :
    keying.usedTypes.map TypeRef.spelling
        = ["Void".toList, "Array<String, [Key: [Void]]?>".toList, "String".toList,
          "[Key: [Void]]?".toList, "Key".toList, "[Void]".toList, "Void".toList] ∧
      keying.signature = "func key(by: Array<String, [Key: [Void]]?>)".toList ∧
      (∃ t, keying.usedTypes[6]? = some t ∧ t.spelling <:+: keying.signature) ∧
      ∃ t, keyedArray.nodeAt? [1, 1] = some t ∧ t.spelling = "[Void]".toList ∧
        t.spelling ∈ Listing.lines ⟨[keying]⟩ .all := by
  obtain ⟨hrendered, -, hlisted⟩ := rendered_and_listed keying
  refine ⟨by decide +kernel, by decide +kernel, ⟨_, rfl, hrendered 6 _ rfl (by decide)⟩, _, rfl,
    by decide +kernel, ?_⟩
  exact hlisted ⟨[keying]⟩ List.mem_cons_self keyedArray List.mem_cons_self [1, 1] _ rfl

end Function

end SwiftDecl
