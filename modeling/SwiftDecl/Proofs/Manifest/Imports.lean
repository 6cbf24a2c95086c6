import SwiftDecl.Proofs.Dependencies.Occurrences
import SwiftDecl.Proofs.Dependencies.UsedTypes
import SwiftDecl.Proofs.Manifest.Conversion

/-!
# The imports of a manifest

An import is needed for every module that a type is written to come from, at any depth, unless the
name stands for the host or the standard library. The modules of a manifest are read off as it is
written, a type before its parts (`writtenModules`); converting the types and listing what they use
comes to the same, module by module and in the same order (`importNames_toTypeRef`). What is listed
is each of these modules at its first occurrence (`imports_isFirstOccurrences`). That sameness of
types ignores the module does no harm: modules are picked out before anything is taken once only.
-/

namespace SwiftDecl

/-! ## Modules to import for a type -/

namespace TypeRef

/-- The modules to import for a type, repetitions included. -/
def importNames (t : TypeRef) : List Text :=
  t.usedTypes.filterMap (·.module.importName?)

theorem importNames_mk (m : Module) (h : Head) (as : List TypeRef) (o : Bool) :
    (mk m h as o).importNames = m.importName?.toList ++ as.flatMap importNames := by
  have hown : (mk m h as o).module.importName? = m.importName? := rfl
  rw [importNames, usedTypes_mk, List.filterMap_cons, List.filterMap_flatMap, hown]
  cases m.importName? <;> rfl

end TypeRef

namespace Manifest

/-- Whether a module that is written by this name has to be imported. -/
def needsImport (name : Text) : Bool :=
  !(name == "host".toList || name == "stdlib".toList)

namespace TypeSpec

/-- An optional type is imported as the type itself is. -/
theorem importNames_marked (o : Bool) (t : TypeRef) :
    (marked o t).importNames = t.importNames := by
  obtain ⟨m, h, as, o'⟩ := t
  cases o with
  | false => rfl
  | true => simp only [marked, if_true, TypeRef.optional, TypeRef.importNames_mk]

theorem importName?_moduleNamed (module : Option Text) :
    (moduleNamed module).importName?.toList = module.toList.filter needsImport := by
  cases module with
  | none => rfl
  | some name =>
    by_cases hhost : name = "host".toList
    · rw [hhost]
      rfl
    by_cases hstdlib : name = "stdlib".toList
    · rw [hstdlib]
      rfl
    have hneeds : needsImport name = true := by
      simpa [needsImport] using And.intro hhost hstdlib
    rw [moduleNamed, if_neg hhost, if_neg hstdlib, Option.toList_some,
      List.filter_cons_of_pos hneeds]
    rfl

mutual

/-- **The modules written in a type**, its own before those in its parts. -/
def writtenModules : TypeSpec → List Text
  | .bare _ => []
  | .array element _ => element.writtenModules
  | .dictionary key value _ => key.writtenModules ++ value.writtenModules
  | .named _ args _ module => module.toList ++ writtenModulesOf args

/-- The modules written in types, one type after the other. -/
def writtenModulesOf : List TypeSpec → List Text
  | [] => []
  | t :: ts => t.writtenModules ++ writtenModulesOf ts

end

mutual

/-- **What a type needs to import are the modules written in it**, but for the names set aside. -/
theorem importNames_toTypeRef :
    ∀ t : TypeSpec, t.toTypeRef.importNames = t.writtenModules.filter needsImport
  | .bare name => by
    rw [toTypeRef, TypeRef.named, TypeRef.importNames_mk]
    rfl
  | .array element o => by
    rw [toTypeRef, importNames_marked, TypeRef.arrayOf, TypeRef.importNames_mk,
      List.flatMap_singleton, importNames_toTypeRef element]
    rfl
  | .dictionary key value o => by
    rw [toTypeRef, importNames_marked, TypeRef.dictionaryOf, TypeRef.importNames_mk,
      List.flatMap_cons, List.flatMap_singleton, importNames_toTypeRef key,
      importNames_toTypeRef value, writtenModules, List.filter_append]
    rfl
  | .named name args o module => by
    rw [toTypeRef, importNames_marked, TypeRef.named, TypeRef.withArgs, TypeRef.inModule,
      TypeRef.importNames_mk, importNames_toTypeRefs args, importName?_moduleNamed,
      writtenModules, List.filter_append]

/-- The same for types in a row. -/
theorem importNames_toTypeRefs :
    ∀ ts : List TypeSpec,
      (toTypeRefs ts).flatMap TypeRef.importNames = (writtenModulesOf ts).filter needsImport
  | [] => rfl
  | t :: ts => by
    rw [toTypeRefs, List.flatMap_cons, importNames_toTypeRef t, importNames_toTypeRefs ts,
      writtenModulesOf, List.filter_append]

end

end TypeSpec

/-! ## Modules to import for declarations -/

/-- The modules written in an entry: those of the return type, then those of the parameters. -/
def FunctionSpec.writtenModules (spec : FunctionSpec) : List Text :=
  spec.returns.toList.flatMap TypeSpec.writtenModules
    ++ spec.params.flatMap fun p => p.type.writtenModules

end Manifest

/-- The modules written in a manifest, entry by entry. -/
def Manifest.writtenModules (m : Manifest) : List Text :=
  m.functions.flatMap FunctionSpec.writtenModules

namespace Manifest

variable {spec : FunctionSpec} {f : Function} {m : Manifest} {s : DeclarationSet}

/-- A function that returns nothing in particular returns `Void`, which is part of the language. -/
theorem FunctionSpec.importNames_returnType (spec : FunctionSpec) :
    spec.returnType.importNames
      = (spec.returns.toList.flatMap TypeSpec.writtenModules).filter needsImport := by
  unfold returnType
  cases spec.returns with
  | none => rfl
  | some type =>
    rw [Option.toList_some, List.flatMap_singleton]
    exact TypeSpec.importNames_toTypeRef type

/-- What a function needs to import is written in its entry. -/
theorem FunctionSpec.importNames_of_toFunction (h : spec.toFunction = .ok f) :
    f.usedTypes.filterMap (·.module.importName?) = spec.writtenModules.filter needsImport := by
  obtain ⟨hreturns, hparams⟩ := types_of_toFunction h
  have hrow : (f.params.flatMap Parameter.usedTypes).filterMap (·.module.importName?)
      = (f.params.map Parameter.type).flatMap TypeRef.importNames := by
    rw [List.filterMap_flatMap, List.flatMap_map]
    rfl
  have hspecs : (spec.params.map fun p => p.type.toTypeRef).flatMap TypeRef.importNames
      = (spec.params.flatMap fun p => p.type.writtenModules).filter needsImport := by
    rw [List.flatMap_map, List.filter_flatMap]
    simp only [TypeSpec.importNames_toTypeRef]
  rw [Function.usedTypes, List.filterMap_append, hrow, hparams, hspecs, hreturns,
    FunctionSpec.writtenModules, List.filter_append, ← FunctionSpec.importNames_returnType]
  rfl

/-- **What the declarations need to import is written in the manifest**, in the same order. -/
theorem importNames_of_toDeclarations (h : m.toDeclarations = .ok s) :
    s.usedTypes.filterMap (·.module.importName?) = m.writtenModules.filter needsImport := by
  -- the induction goes along the entries, each with the function it gives
  have hentries := toDeclarations_eq_ok_iff.1 h
  unfold DeclarationSet.usedTypes Manifest.writtenModules
  generalize m.functions = specs at hentries ⊢
  generalize s.functions = fs at hentries ⊢
  induction hentries with
  | nil => rfl
  | cons hspec hmore ih =>
    rw [List.flatMap_cons, List.filterMap_append, FunctionSpec.importNames_of_toFunction hspec, ih,
      List.flatMap_cons, List.filter_append]

/-- **The imports of a manifest**: of the modules written in it, but for the host and the standard
library, each is listed once, in the order in which they come up. -/
theorem imports_isFirstOccurrences (h : m.toDeclarations = .ok s) :
    IsFirstOccurrences (m.writtenModules.filter needsImport) (Listing.lines s .imports) := by
  -- the modules are picked out of all used types, not out of those that are kept of equal ones
  rw [Listing.lines, requiredImports, importNames_of_toDeclarations h]
  exact isFirstOccurrences_eraseDups _

/-- Types from several modules, one inside the other, and two types of one name. -/
def gallery : Manifest :=
  let imageFrom (module : String) : TypeSpec :=
    .named "Image".toList [] false (some module.toList)
  let eventStream : TypeSpec :=
    .named "Stream".toList [.named "Event".toList [] true (some "Combine".toList)] false
      (some "host".toList)
  ⟨[⟨"poster".toList, [], false, none,
      [⟨"named".toList, none, .named "String".toList [] false (some "stdlib".toList), none⟩], false,
      some (.array (imageFrom "UIKit") true), []⟩,
    ⟨"thumbnails".toList, [], false, none,
      [⟨"of".toList, none, eventStream, none⟩,
        ⟨"by".toList, none,
          .dictionary (.named "Key".toList [] false (some "Foundation".toList)) (imageFrom "AppKit")
            false, none⟩], true,
      some (imageFrom "UIKit"), []⟩]⟩

theorem gallery_imports :
    ∃ s, gallery.toDeclarations = .ok s ∧
      IsFirstOccurrences (gallery.writtenModules.filter needsImport) (Listing.lines s .imports) ∧
      Listing.lines s .imports
        = ["UIKit".toList, "Combine".toList, "Foundation".toList, "AppKit".toList] := by
  have hdeclared : gallery.toDeclarations
      = .ok ⟨gallery.functions.map fun spec => spec.toDraft.finished⟩ := rfl
  exact ⟨_, hdeclared, imports_isFirstOccurrences hdeclared, by decide +kernel⟩

end Manifest

end SwiftDecl
