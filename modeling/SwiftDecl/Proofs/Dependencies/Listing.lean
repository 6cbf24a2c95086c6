import SwiftDecl.Manifest.Basic
import SwiftDecl.Proofs.Dependencies.Occurrences
import SwiftDecl.Proofs.Dependencies.UsedTypes
import SwiftDecl.Proofs.TypeRef.Spelling

/-!
# Each used type is listed once

The listing of unique types goes by sameness, which compares names and arguments and not the text
they make. A name is any text at all, and one that spells out what another type is made of, as
`Int?` does, is listed beside that other type. Only where no name holds a mark of a spelling are the
lines different as well (`unique_lists_each_type_once`).
-/

namespace SwiftDecl

namespace TypeRef

/-- The names in a type are those of the types it uses. -/
theorem namesFit_of_usedTypes {q : Char → Bool} {t : TypeRef}
    (h : ∀ u ∈ t.usedTypes, FitsName q u.name) : NamesFit q t := by
  induction t using ofArgs with
  | mk m head as o ih =>
    refine .mk (h _ (mem_usedTypes_self _)) fun t ht => ih t ht fun u hu => h u ?_
    exact (usedTypes_infix_of_mem (mem_usedTypes_of_mem_args ht)).subset hu

end TypeRef

namespace Listing

open TypeRef (isMark staysInType)

variable {s : DeclarationSet}

/-- Where no name holds a mark, no two lines are the same. -/
theorem nodup_lines_unique (h : ∀ t ∈ s.usedTypes, ∀ c ∈ t.name, ¬ isMark c) :
    (lines s .unique).Nodup := by
  have hfit : ∀ t ∈ s.usedTypes, TypeRef.NamesFit staysInType t := fun t ht =>
    TypeRef.namesFit_of_usedTypes fun u hu => TypeRef.fitsName_of_unmarked
      (h u ((DeclarationSet.usedTypes_infix_of_mem ht).subset hu))
  -- two listed types of one spelling would be the same, and no two listed types are
  refine List.pairwise_map.2 ((pairwise_eraseDups s.usedTypes).imp_of_mem fun ht hu hne heq => ?_)
  have hsame := TypeRef.beq_of_namesFit TypeRef.continuesTypes_staysInType
    (hfit _ (mem_of_mem_eraseDups hu)) (hfit _ (mem_of_mem_eraseDups ht)) heq.symm
  rw [hne] at hsame
  cases hsame

/-- **Each used type is listed once**: the listed types are used, no two of them are the same, and
every used type is the same as one of them. Their lines are different too where no name of a used
type holds a mark of a spelling. -/
theorem unique_lists_each_type_once (s : DeclarationSet) :
    lines s .unique = (uniqueTypes s.usedTypes).map TypeRef.spelling ∧
      (∀ t ∈ uniqueTypes s.usedTypes, t ∈ s.usedTypes) ∧
      (uniqueTypes s.usedTypes).Pairwise (fun t u => (t == u) = false) ∧
      (∀ t ∈ s.usedTypes, ∃ u ∈ uniqueTypes s.usedTypes, (t == u) = true) ∧
      ((∀ t ∈ s.usedTypes, ∀ c ∈ t.name, ¬ isMark c) → (lines s .unique).Nodup) := by
  refine ⟨rfl, fun t ht => mem_of_mem_eraseDups ht, ?_, fun t ht => exists_mem_eraseDups_of_mem ht,
    nodup_lines_unique⟩
  exact (pairwise_eraseDups s.usedTypes).imp fun h => BEq.comm.trans h

/-- A manifest with a function from one type to another. -/
def conversion (source target : Manifest.TypeSpec) : Manifest :=
  ⟨[⟨"convert".toList, [], false, none, [⟨"value".toList, none, source, none⟩], false,
    some target, []⟩]⟩

/-- From optional integers in an array to one alone. -/
def optionals : DeclarationSet :=
  ⟨[⟨[], false, .ofName "convert".toList, none,
    [.named "value".toList (.arrayOf (.optional (.named "Int".toList)))], false,
    .optional (.named "Int".toList), []⟩]⟩

theorem optionals_listed_once :
    (conversion (.array (.named "Int".toList [] true none) false)
      (.named "Int".toList [] true none)).toDeclarations = .ok optionals ∧
    (∀ t ∈ optionals.usedTypes, ∀ c ∈ t.name, ¬ isMark c) ∧
    (lines optionals .unique).Nodup := by
  have hall : (optionals.usedTypes.all fun t => t.name.all fun c => !isMark c) = true := by
    decide +kernel
  have hnames : ∀ t ∈ optionals.usedTypes, ∀ c ∈ t.name, ¬ isMark c := by
    simpa only [List.all_eq_true, Bool.not_eq_true', Bool.not_eq_true] using hall
  exact ⟨rfl, hnames, (unique_lists_each_type_once optionals).2.2.2.2 hnames⟩

/-- From a type whose name is written with the mark of an optional one to the optional type. -/
def respelledOptional : DeclarationSet :=
  ⟨[⟨[], false, .ofName "convert".toList, none,
    [.named "value".toList (.named "Int?".toList)], false,
    .optional (.named "Int".toList), []⟩]⟩

/-- **A name that spells out an optional type is listed beside that type.** -/
theorem respelledOptional_listed_twice :
    (conversion (.bare "Int?".toList) (.named "Int".toList [] true none)).toDeclarations
        = .ok respelledOptional ∧
      lines respelledOptional .unique = ["Int?".toList, "Int?".toList] ∧
      ¬ (lines respelledOptional .unique).Nodup := by
  refine ⟨rfl, ?_, ?_⟩ <;> decide +kernel

end Listing

end SwiftDecl
