import SwiftDecl.Proofs.Dependencies.Occurrences
import SwiftDecl.Proofs.Dependencies.UsedTypes
import SwiftDecl.Proofs.TypeRef.Spelling

/-!
# References as plain ones

Nobody can tell a type of the standard library from one of the host, for neither is imported, nor a
type that is part of the language from one that has its name. `TypeRef.asPlain` forgets the two, at
every depth. What is left has the same spelling and is the same type (`spelling_asPlain`,
`asPlain_beq`), and it uses the same types, listed once each at the same places and imported from
the same modules (`usedTypes_asPlain`, `uniqueTypes_asPlain`, `requiredImports_asPlain`).
-/

namespace SwiftDecl

/-- The host in place of the standard library. -/
def Module.asPlain : Module → Module
  | .stdLib => .host
  | m => m

theorem Module.importName?_asPlain (m : Module) : m.asPlain.importName? = m.importName? := by
  cases m <;> rfl

/-- The name of a type in place of the type that is part of the language. -/
def Head.asPlain : Head → Head
  | .builtin name => .plain name
  | h => h

theorem Head.name_asPlain (h : Head) : h.asPlain.name = h.name := by
  cases h <;> rfl

namespace TypeRef

variable {t u : TypeRef} {ts us : List TypeRef}

mutual

/-- **The reference as a plain one**, at every depth. -/
def asPlain : TypeRef → TypeRef
  | mk m h as o => mk m.asPlain h.asPlain (asPlainAll as) o

/-- The references as plain ones, one by one. -/
def asPlainAll : List TypeRef → List TypeRef
  | [] => []
  | t :: ts => t.asPlain :: asPlainAll ts

end

theorem asPlainAll_eq_map (ts : List TypeRef) : asPlainAll ts = ts.map asPlain := by
  induction ts with
  | nil => rfl
  | cons t ts ih => rw [asPlainAll, ih, List.map_cons]

/-- A plain reference is spelled as the other one is. -/
theorem spelling_asPlain (t : TypeRef) : t.asPlain.spelling = t.spelling := by
  induction t using ofArgs with
  | mk m h as o ih =>
    have hargs : spellings (asPlainAll as) = spellings as := by
      rw [spellings_eq_map, spellings_eq_map, asPlainAll_eq_map, List.map_map]
      exact List.map_congr_left ih
    have hhead : ∀ texts, unmarkedSpelling h.asPlain texts = unmarkedSpelling h texts := by
      intro texts
      cases h with
      | builtin name => cases texts <;> rfl
      | _ => rfl
    rw [asPlain, spelling, spelling, hargs, hhead]

theorem stripped_asPlain (t : TypeRef) : t.asPlain.stripped = t.stripped := by
  induction t using ofArgs with
  | mk m h as o ih =>
    have hargs : strippedAll (asPlainAll as) = strippedAll as := by
      induction as with
      | nil => rfl
      | cons t ts ihargs =>
        obtain ⟨ht, hts⟩ := List.forall_mem_cons.1 ih
        rw [asPlainAll, strippedAll, strippedAll, ht, ihargs hts]
    rw [asPlain, stripped, stripped, hargs, Head.name_asPlain]

/-- **A plain reference means the same type.** -/
theorem asPlain_beq (t : TypeRef) : (t.asPlain == t) = true :=
  beq_iff_stripped_eq.2 t.stripped_asPlain

/-- References are the same just if they are so as plain ones. -/
theorem beq_asPlain (t u : TypeRef) : (t.asPlain == u.asPlain) = (t == u) := by
  rw [Bool.eq_iff_iff, beq_iff_stripped_eq, beq_iff_stripped_eq, stripped_asPlain, stripped_asPlain]

theorem beq_of_asPlain_eq (h : t.asPlain = u.asPlain) : (t == u) = true := by
  rw [← beq_asPlain, h]
  exact BEq.rfl

theorem isVoid_asPlain (t : TypeRef) : t.asPlain.isVoid = t.isVoid := by
  rw [Bool.eq_iff_iff, isVoid, isVoid, beq_iff_stripped_eq, beq_iff_stripped_eq, stripped_asPlain]

/-- **A plain reference uses the same types**, as plain ones and in the same order. -/
theorem usedTypes_asPlain (t : TypeRef) : t.asPlain.usedTypes = t.usedTypes.map asPlain := by
  induction t using ofArgs with
  | mk m h as o ih =>
    have hargs : (as.map asPlain).flatMap usedTypes = (as.flatMap usedTypes).map asPlain := by
      rw [List.flatMap_map, List.map_flatMap]
      exact List.flatMap_congr ih
    rw [usedTypes_mk, List.map_cons, asPlain, usedTypes_mk, asPlainAll_eq_map, hargs]

end TypeRef

variable {ts us : List TypeRef}

theorem uniqueTypes_asPlain (ts : List TypeRef) :
    uniqueTypes (ts.map TypeRef.asPlain) = (uniqueTypes ts).map TypeRef.asPlain :=
  eraseDups_map TypeRef.beq_asPlain ts

theorem requiredImports_asPlain (ts : List TypeRef) :
    requiredImports (ts.map TypeRef.asPlain) = requiredImports ts := by
  have himport : ∀ t : TypeRef, t.asPlain.module.importName? = t.module.importName? := by
    rintro ⟨m, h, as, o⟩
    exact m.importName?_asPlain
  rw [requiredImports, requiredImports, List.filterMap_map]
  exact congrArg List.eraseDups (List.filterMap_congr fun t _ => himport t)

/-- Types that are the same as plain ones are spelled the same. -/
theorem spellings_asPlain (ts : List TypeRef) :
    (ts.map TypeRef.asPlain).map TypeRef.spelling = ts.map TypeRef.spelling := by
  rw [List.map_map]
  exact List.map_congr_left fun t _ => t.spelling_asPlain

end SwiftDecl
