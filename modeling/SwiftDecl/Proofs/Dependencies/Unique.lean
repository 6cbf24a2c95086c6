import SwiftDecl.Proofs.Dependencies.Occurrences
import SwiftDecl.Proofs.Dependencies.UsedTypes

/-!
# Taking each type once

A list of types is gone through from the left, and a type is kept if none that was kept before is
the same. What has been kept stands for all that was gone through, as sameness is an equivalence; so
a type is kept just if no earlier one in the list is the same (`unique_keeps_first_occurrences`).
Sameness ignores the module. What is kept brings its own module along, and an import is lost with a
type that is left out, unless the type that was kept in its place comes from the same module
(`imports_survive_unique`).
-/

namespace SwiftDecl

/-- **Each type is kept at its first occurrence**: what is kept are the types of the list, as they
are, that stand where no earlier type is the same, in their order. So no two that are kept are the
same, each type of the list is the same as one of them, and there is nothing more to leave out. Of a
second list behind the first is kept what is kept of it alone and is the same as nothing in the
first. And lists of types that are the same one by one are kept at the same places. -/
theorem unique_keeps_first_occurrences (ts : List TypeRef) :
    uniqueTypes ts = ((List.finRange ts.length).filter (IsNewAt ts)).map ts.get ∧
      (uniqueTypes ts).Pairwise (fun t u => (t == u) = false) ∧
      (∀ t ∈ ts, ∃ u ∈ uniqueTypes ts, (t == u) = true) ∧
      uniqueTypes (uniqueTypes ts) = uniqueTypes ts ∧
      (∀ us, uniqueTypes (ts ++ us)
        = uniqueTypes ts ++ (uniqueTypes us).filter fun u => !ts.any (u == ·)) ∧
      ∀ us, List.Forall₂ (fun t u => (t == u) = true) ts us →
        List.Forall₂ (fun t u => (t == u) = true) (uniqueTypes ts) (uniqueTypes us) := by
  have hapart := pairwise_eraseDups ts
  refine ⟨eraseDups_eq_map_get ts, hapart.imp fun h => BEq.comm.trans h,
    fun t ht => exists_mem_eraseDups_of_mem ht, eraseDups_eq_self hapart,
    fun us => eraseDups_append_filter ts us, fun us h => ?_⟩
  exact forall₂_eraseDups (fun t u htu => htu) h

/-- The type `Image` of a module. -/
def imageFrom (module : String) : TypeRef :=
  (TypeRef.named "Image".toList).inModule (.custom module.toList)

/-- An array type by its name. -/
def spelledOutArray (element : TypeRef) : TypeRef :=
  (TypeRef.named "Array".toList).withArgs [element]

/-- The first of the images is kept, with its module, and the first of the arrays as it is written;
so it is if the images come from elsewhere. -/
theorem images_kept_first :
    uniqueTypes [imageFrom "UIKit", spelledOutArray .int, imageFrom "AppKit", .arrayOf .int]
        = [imageFrom "UIKit", spelledOutArray .int] ∧
      List.Forall₂ (fun t u => (t == u) = true)
        (uniqueTypes [imageFrom "UIKit", .arrayOf .int, imageFrom "AppKit"])
        (uniqueTypes [.named "Image".toList, spelledOutArray .int, imageFrom "UIKit"]) ∧
      ∃ u ∈ uniqueTypes [imageFrom "UIKit", imageFrom "AppKit"],
        (imageFrom "AppKit" == u) = true := by
  refine ⟨rfl, ?_, ?_⟩
  · refine (unique_keeps_first_occurrences _).2.2.2.2.2 _ ?_
    exact .cons (by decide) (.cons (by decide) (.cons (by decide) .nil))
  · exact (unique_keeps_first_occurrences _).2.2.1 _ (List.mem_cons_of_mem _ List.mem_cons_self)

/-! ## Imports -/

/-- **No import is lost by taking each type once** if types that are the same come from one module,
and the imports stay in order. Whatever the modules are, none is imported for what is kept that was
not imported for the whole list. -/
theorem imports_survive_unique (ts : List TypeRef) :
    ((∀ t ∈ ts, ∀ u ∈ ts, (t == u) = true → t.module = u.module) →
      requiredImports (uniqueTypes ts) = requiredImports ts) ∧
    ∀ name ∈ requiredImports (uniqueTypes ts), name ∈ requiredImports ts := by
  constructor
  · intro h
    have himport : ∀ t ∈ ts, ∀ u ∈ ts, (t == u) = true →
        t.module.importName? = u.module.importName? := fun t ht u hu htu => by
      rw [h t ht u hu htu]
    exact eraseDups_filterMap_eraseDups himport
  · intro name hname
    obtain ⟨t, ht, hmodule⟩ := List.mem_filterMap.1 (List.mem_eraseDups.1 hname)
    exact List.mem_eraseDups.2 (List.mem_filterMap.2 ⟨t, mem_of_mem_eraseDups ht, hmodule⟩)

/-- The two arrays come from one module, though what is in them does not. Of the images that do not
come from one module the first is kept, and imported. -/
theorem images_imported_once :
    requiredImports (uniqueTypes [.arrayOf (imageFrom "UIKit"), imageFrom "UIKit",
        (spelledOutArray (imageFrom "AppKit")).inModule .stdLib, imageFrom "UIKit",
        (imageFrom "Foundation").optional])
      = ["UIKit".toList, "Foundation".toList] ∧
    "UIKit".toList ∈ requiredImports [imageFrom "UIKit", imageFrom "AppKit"] := by
  constructor
  · rw [(imports_survive_unique _).1 (by decide)]
    rfl
  · exact (imports_survive_unique [imageFrom "UIKit", imageFrom "AppKit"]).2 _ (by decide)

/-- Of two modules for one type the second is not imported for what is kept. -/
example :
    requiredImports [imageFrom "UIKit", imageFrom "AppKit"] = ["UIKit".toList, "AppKit".toList] ∧
      requiredImports (uniqueTypes [imageFrom "UIKit", imageFrom "AppKit"]) = ["UIKit".toList] := by
  decide

end SwiftDecl
