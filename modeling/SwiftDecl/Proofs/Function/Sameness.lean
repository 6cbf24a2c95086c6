import SwiftDecl.Proofs.Dependencies.Nodes
import SwiftDecl.Proofs.Dependencies.Occurrences
import SwiftDecl.Proofs.Layout.Composition
import SwiftDecl.Proofs.TypeRef.Kind

/-!
# Declarations that are the same

Declarations are compared field by field, and their types by what they mean. So the types that two
such sets name are the same one by one, in their order (`DeclarationSet.forall₂_beq_rootTypes`), and
what depends on the meaning of types alone agrees: which types are used, which of them are taken
once, and where a signature leaves out the return type. What is written depends on kinds as well.
Where these agree too, the types of each function are written alike, and so are the functions
(`agree_of_beq`).
-/

namespace SwiftDecl

/-! ## Field by field -/

namespace Parameter

variable {p q : Parameter}

theorem beq_iff : (p == q) = true ↔
    p.name = q.name ∧ p.localName = q.localName ∧ (p.type == q.type) = true ∧
      p.defaultValue = q.defaultValue := by
  change (p.name == q.name && p.localName == q.localName && p.type == q.type
    && p.defaultValue == q.defaultValue) = true ↔ _
  simp only [Bool.and_eq_true, beq_iff_eq, and_assoc]

/-- Parameters that are the same and whose types are written alike are rendered alike. -/
theorem render_eq_of_beq (h : (p == q) = true) (htype : p.type.spelling = q.type.spelling) :
    p.render = q.render := by
  obtain ⟨hname, hlocal, -, hdefault⟩ := beq_iff.1 h
  rw [render, render, identifier, identifier, hname, hlocal, htype, hdefault]

end Parameter

namespace Function

variable {f g : Function}

theorem beq_iff : (f == g) = true ↔
    f.comments = g.comments ∧ f.isStatic = g.isStatic ∧ f.name = g.name ∧
      f.generics = g.generics ∧ List.Forall₂ (fun p q => (p == q) = true) f.params g.params ∧
      f.throws = g.throws ∧ (f.returns == g.returns) = true ∧ f.body = g.body := by
  change (f.comments == g.comments && f.isStatic == g.isStatic && f.name == g.name
    && f.generics == g.generics && f.params == g.params && f.throws == g.throws
    && f.returns == g.returns && f.body == g.body) = true ↔ _
  simp only [Bool.and_eq_true, beq_iff_eq, beq_iff_forall₂, and_assoc]

/-- **Functions that are the same name the same types**, one by one. -/
theorem forall₂_beq_rootTypes (h : (f == g) = true) :
    List.Forall₂ (fun t u => (t == u) = true) f.rootTypes g.rootTypes := by
  obtain ⟨-, -, -, -, hparams, -, hreturns, -⟩ := beq_iff.1 h
  refine .cons hreturns (List.forall₂_map_left_iff.2 (List.forall₂_map_right_iff.2 ?_))
  exact hparams.imp fun p q hpq => (Parameter.beq_iff.1 hpq).2.2.1

theorem returnClause_eq_nil_iff : f.returnClause = [] ↔ f.returns.isVoid = true := by
  unfold returnClause
  split <;> simp_all

/-- **Functions that are the same and whose types are written alike have one signature.** -/
theorem signature_eq_of_beq (h : (f == g) = true)
    (halike : List.Forall₂ TypeRef.WrittenAlike f.rootTypes g.rootTypes) :
    f.signature = g.signature := by
  obtain ⟨-, hstatic, hname, hgenerics, hparams, hthrows, hreturns, -⟩ := beq_iff.1 h
  obtain ⟨hreturned, htypes⟩ := List.forall₂_cons.1 halike
  rw [List.forall₂_map_left_iff, List.forall₂_map_right_iff] at htypes
  have hrendered : f.params.map Parameter.render = g.params.map Parameter.render :=
    map_eq_map_iff_forall₂.2
      (hparams.mp (fun p q hpq htype => Parameter.render_eq_of_beq hpq htype.spelling) htypes)
  have hclause : f.returnClause = g.returnClause := by
    rw [returnClause, returnClause, TypeRef.isVoid_eq_of_beq hreturns, hreturned.spelling]
  rw [signature, signature, genericsClause, genericsClause, hstatic, hname, hgenerics, hrendered,
    hthrows, hclause]

end Function

/-- Functions that are the same and have one signature are rendered alike. -/
theorem Layout.renderFunction_eq_of_beq {f g : Function} (config : Config) (h : (f == g) = true)
    (hsignature : f.signature = g.signature) :
    renderFunction config f = renderFunction config g := by
  obtain ⟨hcomments, -, -, -, -, -, -, hbody⟩ := Function.beq_iff.1 h
  simp only [renderFunction, writeDocumentation, writeBody, hcomments, hsignature, hbody]

namespace DeclarationSet

variable {s s' : DeclarationSet}

/-! ## Function by function -/

theorem beq_iff : (s == s') = true ↔
    List.Forall₂ (fun f g => (f == g) = true) s.functions s'.functions :=
  beq_iff_forall₂

/-- **Sets that are the same name the same types**, one by one. -/
theorem forall₂_beq_rootTypes (h : (s == s') = true) :
    List.Forall₂ (fun t u => (t == u) = true) s.rootTypes s'.rootTypes :=
  forall₂_flatMap ((beq_iff.1 h).imp fun _ _ => Function.forall₂_beq_rootTypes)

/-- **Sets that are the same use the same types**, one by one. -/
theorem forall₂_beq_usedTypes (h : (s == s') = true) :
    List.Forall₂ (fun t u => (t == u) = true) s.usedTypes s'.usedTypes := by
  rw [usedTypes_eq, usedTypes_eq, TypeRef.usedTypesOf_eq_flatMap, TypeRef.usedTypesOf_eq_flatMap]
  exact forall₂_flatMap ((forall₂_beq_rootTypes h).imp fun _ _ => TypeRef.forall₂_beq_usedTypes)

/-- Of sets that are the same, the one leaves out a return type where the other does. -/
theorem forall₂_returnClause_eq_nil_iff (h : (s == s') = true) :
    List.Forall₂ (fun f g => f.returnClause = [] ↔ g.returnClause = [])
      s.functions s'.functions := by
  refine (beq_iff.1 h).imp fun f g hfg => ?_
  obtain ⟨-, -, -, -, -, -, hreturns, -⟩ := Function.beq_iff.1 hfg
  rw [Function.returnClause_eq_nil_iff, Function.returnClause_eq_nil_iff,
    TypeRef.isVoid_eq_of_beq hreturns]

/-! ## Sets of the same kinds -/

section Kinds

variable (h : (s == s') = true)
variable (hkind : List.Forall₂ (fun t u => t.kind = u.kind) s.usedTypes s'.usedTypes)

include h hkind

/-- What the types that the sets name use is written alike, stretch by stretch. -/
theorem writtenAlike_stretches :
    List.Forall₂ (fun t u => List.Forall₂ TypeRef.WrittenAlike t.usedTypes u.usedTypes)
      s.rootTypes s'.rootTypes := by
  rw [usedTypes_eq, usedTypes_eq] at hkind
  exact TypeRef.writtenAlike_stretches (forall₂_beq_rootTypes h) hkind

theorem writtenAlike_usedTypes : List.Forall₂ TypeRef.WrittenAlike s.usedTypes s'.usedTypes := by
  rw [usedTypes_eq, usedTypes_eq, TypeRef.usedTypesOf_eq_flatMap, TypeRef.usedTypesOf_eq_flatMap]
  exact forall₂_flatMap (writtenAlike_stretches h hkind)

/-- The functions have the same signatures. -/
theorem forall₂_signature_eq :
    List.Forall₂ (fun f g => f.signature = g.signature) s.functions s'.functions := by
  have hroots : List.Forall₂ TypeRef.WrittenAlike s.rootTypes s'.rootTypes :=
    (writtenAlike_stretches h hkind).imp fun _ _ => TypeRef.rel_of_usedTypes
  have hlengths : List.Forall₂ (fun f g => f.rootTypes.length = g.rootTypes.length)
      s.functions s'.functions :=
    (beq_iff.1 h).imp fun _ _ hfg => (Function.forall₂_beq_rootTypes hfg).length_eq
  exact (beq_iff.1 h).mp (fun _ _ hfg => Function.signature_eq_of_beq hfg)
    (forall₂_stretches hlengths hroots)

theorem renderDeclarations_eq_of_kind (config : Layout.Config) :
    Layout.renderDeclarations config s = Layout.renderDeclarations config s' := by
  have hfunctions : List.Forall₂
      (fun f g => Layout.renderFunction config f = Layout.renderFunction config g)
      s.functions s'.functions :=
    (beq_iff.1 h).mp (fun _ _ hfg => Layout.renderFunction_eq_of_beq config hfg)
      (forall₂_signature_eq h hkind)
  have htexts : s.functions.map (fun f => (Layout.renderFunction config f).tidied)
      = s'.functions.map fun f => (Layout.renderFunction config f).tidied :=
    map_eq_map_iff_forall₂.2 (hfunctions.imp fun _ _ hfg => congrArg Text.tidied hfg)
  rw [Layout.renderDeclarations_eq_joined, Layout.renderDeclarations_eq_joined, htexts]

theorem lines_all_eq_of_kind : Listing.lines s .all = Listing.lines s' .all :=
  map_eq_map_iff_forall₂.2 ((writtenAlike_usedTypes h hkind).imp fun _ _ htu => htu.spelling)

/-- Types that are written alike are taken at the same places, for they are the same. -/
theorem lines_unique_eq_of_kind : Listing.lines s .unique = Listing.lines s' .unique := by
  have hunique : List.Forall₂ TypeRef.WrittenAlike (uniqueTypes s.usedTypes)
      (uniqueTypes s'.usedTypes) :=
    forall₂_eraseDups (fun _ _ htu => htu.same) (writtenAlike_usedTypes h hkind)
  exact map_eq_map_iff_forall₂.2 (hunique.imp fun _ _ htu => htu.spelling)

end Kinds

/-- **Sets that are the same agree in what they mean**: the types they use are the same one by one,
and so are those that are taken once, and a return type is left out in one if it is in the other.
**Where the kinds of the used types agree too, they agree in what is written**: in the rendered text
under every layout, and in the lines of both listings of types. -/
theorem agree_of_beq (s s' : DeclarationSet) (h : (s == s') = true) :
    List.Forall₂ (fun t u => (t == u) = true) s.usedTypes s'.usedTypes ∧
      List.Forall₂ (fun t u => (t == u) = true) (uniqueTypes s.usedTypes)
        (uniqueTypes s'.usedTypes) ∧
      List.Forall₂ (fun f g => f.returnClause = [] ↔ g.returnClause = []) s.functions s'.functions ∧
      (List.Forall₂ (fun t u => t.kind = u.kind) s.usedTypes s'.usedTypes →
        (∀ config, Layout.renderDeclarations config s = Layout.renderDeclarations config s') ∧
        Listing.lines s .all = Listing.lines s' .all ∧
        Listing.lines s .unique = Listing.lines s' .unique) := by
  have hused := forall₂_beq_usedTypes h
  refine ⟨hused, forall₂_eraseDups (fun _ _ htu => htu) hused, forall₂_returnClause_eq_nil_iff h,
    fun hkind => ?_⟩
  exact ⟨renderDeclarations_eq_of_kind h hkind, lines_all_eq_of_kind h hkind,
    lines_unique_eq_of_kind h hkind⟩

/-- A function from one type to another. -/
def converting (source target : TypeRef) : DeclarationSet :=
  ⟨[⟨[], false, .ofName "convert".toList, none, [.named "value".toList source], false, target, []⟩]⟩

/-- A function from images to one image or none, all of a type from one module. -/
def picking (module : Module) : DeclarationSet :=
  let image : TypeRef := (TypeRef.named "Image".toList).inModule module
  converting (.arrayOf image) image.optional

/-- An array and `Void` may be written by their names or not: then the sets are the same and list
different lines. A type may come from one module or another: then they are rendered alike and need
different imports. -/
theorem converting_agrees :
    (∃ s s', s = converting (.arrayOf .int) .void ∧
      s' = converting ((TypeRef.named "Array".toList).withArgs [.int]) (.named "Void".toList) ∧
      List.Forall₂ (fun t u => (t == u) = true) s.usedTypes s'.usedTypes ∧
      Listing.lines s .all = ["Void".toList, "[Int]".toList, "Int".toList] ∧
      Listing.lines s' .all = ["Void".toList, "Array<Int>".toList, "Int".toList]) ∧
    ∃ s s', s = picking (.custom "UIKit".toList) ∧ s' = picking .host ∧
      (∀ config, Layout.renderDeclarations config s = Layout.renderDeclarations config s') ∧
      Listing.lines s .unique = Listing.lines s' .unique ∧
      Listing.lines s .imports = ["UIKit".toList] ∧ Listing.lines s' .imports = [] := by
  have hwritten := agree_of_beq (converting (.arrayOf .int) .void)
    (converting ((TypeRef.named "Array".toList).withArgs [.int]) (.named "Void".toList))
    (by decide +kernel)
  have hplaced := agree_of_beq (picking (.custom "UIKit".toList)) (picking .host)
    (by decide +kernel)
  obtain ⟨hrendered, -, hunique⟩ := hplaced.2.2.2 (.cons rfl (.cons rfl (.cons rfl .nil)))
  exact ⟨⟨_, _, rfl, rfl, hwritten.1, by decide +kernel, by decide +kernel⟩,
    _, _, rfl, rfl, hrendered, hunique, by decide +kernel, by decide +kernel⟩

end DeclarationSet

end SwiftDecl
