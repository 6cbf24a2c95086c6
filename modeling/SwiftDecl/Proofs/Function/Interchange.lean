import SwiftDecl.Proofs.Function.Sameness
import SwiftDecl.Proofs.Function.Validation
import SwiftDecl.Proofs.TypeRef.Plain

/-!
# Declarations that can stand for each other

Two sets of declarations can stand for each other if they are the same, render to the same text and
list the same lines, under every layout and in every listing. It is enough that they are equal once
their references are plain (`interchangeable_of_asPlain_eq`). A draft with plain references fails
where the draft does, and else builds the function with plain references (`Draft.build_asPlain`).
-/

namespace SwiftDecl

/-! ## Parameters and functions -/

namespace Parameter

variable {p q : Parameter}

/-- The parameter with a plain reference. -/
def asPlain (p : Parameter) : Parameter :=
  { p with type := p.type.asPlain }

theorem render_asPlain (p : Parameter) : p.asPlain.render = p.render := by
  obtain ⟨name, localName, type, defaultValue⟩ := p
  simp only [asPlain, render, identifier, TypeRef.spelling_asPlain]

theorem usedTypes_asPlain (p : Parameter) :
    p.asPlain.usedTypes = p.usedTypes.map TypeRef.asPlain :=
  p.type.usedTypes_asPlain

theorem beq_of_asPlain_eq (h : p.asPlain = q.asPlain) : (p == q) = true := by
  simp only [asPlain, mk.injEq] at h
  obtain ⟨hname, hlocal, htype, hdefault⟩ := h
  exact beq_iff.2 ⟨hname, hlocal, TypeRef.beq_of_asPlain_eq htype, hdefault⟩

end Parameter

namespace Function

variable {f g : Function}

/-- The function with plain references. -/
def asPlain (f : Function) : Function :=
  { f with params := f.params.map Parameter.asPlain, returns := f.returns.asPlain }

theorem signature_asPlain (f : Function) : f.asPlain.signature = f.signature := by
  have hparams : f.asPlain.params.map Parameter.render = f.params.map Parameter.render := by
    rw [asPlain, List.map_map]
    exact List.map_congr_left fun p _ => p.render_asPlain
  have hreturns : f.asPlain.returnClause = f.returnClause := by
    simp only [returnClause, asPlain, TypeRef.isVoid_asPlain, TypeRef.spelling_asPlain]
  have hgenerics : f.asPlain.genericsClause = f.genericsClause := rfl
  rw [signature, signature, hreturns, hgenerics, hparams]
  rfl

theorem usedTypes_asPlain (f : Function) :
    f.asPlain.usedTypes = f.usedTypes.map TypeRef.asPlain := by
  have hparams : (f.params.map Parameter.asPlain).flatMap Parameter.usedTypes
      = (f.params.flatMap Parameter.usedTypes).map TypeRef.asPlain := by
    rw [List.flatMap_map, List.map_flatMap]
    exact List.flatMap_congr fun p _ => p.usedTypes_asPlain
  rw [usedTypes, usedTypes, List.map_append]
  simp only [asPlain, hparams, TypeRef.usedTypes_asPlain]

theorem beq_of_asPlain_eq (h : f.asPlain = g.asPlain) : (f == g) = true := by
  simp only [asPlain, mk.injEq] at h
  obtain ⟨hcomments, hstatic, hname, hgenerics, hparams, hthrows, hreturns, hbody⟩ := h
  have hsame : List.Forall₂ (fun p q => (p == q) = true) f.params g.params :=
    (map_eq_map_iff_forall₂.1 hparams).imp fun _ _ => Parameter.beq_of_asPlain_eq
  exact beq_iff.2 ⟨hcomments, hstatic, hname, hgenerics, hsame, hthrows,
    TypeRef.beq_of_asPlain_eq hreturns, hbody⟩

end Function

/-- A function with plain references is rendered as the other one is. -/
theorem Layout.renderFunction_asPlain (config : Config) (f : Function) :
    renderFunction config f.asPlain = renderFunction config f := by
  rw [renderFunction, renderFunction, f.signature_asPlain]
  rfl

/-! ## Sets of declarations -/

namespace DeclarationSet

variable {s s' : DeclarationSet}

/-- The set with plain references. -/
def asPlain (s : DeclarationSet) : DeclarationSet :=
  ⟨s.functions.map Function.asPlain⟩

theorem renderDeclarations_asPlain (config : Layout.Config) (s : DeclarationSet) :
    Layout.renderDeclarations config s.asPlain = Layout.renderDeclarations config s := by
  simp only [Layout.renderDeclarations_eq_joined, asPlain, List.map_map, Function.comp_def,
    Layout.renderFunction_asPlain]

theorem usedTypes_asPlain (s : DeclarationSet) :
    s.asPlain.usedTypes = s.usedTypes.map TypeRef.asPlain := by
  rw [usedTypes, usedTypes, asPlain, List.flatMap_map, List.map_flatMap]
  exact List.flatMap_congr fun f _ => f.usedTypes_asPlain

theorem lines_asPlain (listing : Listing) (s : DeclarationSet) :
    listing.lines s.asPlain = listing.lines s := by
  cases listing with
  | all => rw [Listing.lines, Listing.lines, usedTypes_asPlain, spellings_asPlain]
  | unique =>
    rw [Listing.lines, Listing.lines, usedTypes_asPlain, uniqueTypes_asPlain, spellings_asPlain]
  | imports => rw [Listing.lines, Listing.lines, usedTypes_asPlain, requiredImports_asPlain]

/-- **Sets that can stand for each other**, in whatever is done with them. -/
structure Interchangeable (s s' : DeclarationSet) : Prop where
  same : (s == s') = true
  rendered : ∀ config, Layout.renderDeclarations config s = Layout.renderDeclarations config s'
  listed : ∀ listing : Listing, listing.lines s = listing.lines s'

/-- **Sets that are equal as plain ones can stand for each other.** -/
theorem interchangeable_of_asPlain_eq (h : s.asPlain = s'.asPlain) : s.Interchangeable s' where
  same := beq_iff.2 ((map_eq_map_iff_forall₂.1 (congrArg functions h)).imp fun _ _ =>
    Function.beq_of_asPlain_eq)
  rendered config := by
    rw [← renderDeclarations_asPlain config s, h, renderDeclarations_asPlain]
  listed listing := by
    rw [← lines_asPlain listing s, h, lines_asPlain]

end DeclarationSet

/-! ## Drafts -/

namespace Draft

/-- The draft with plain references. -/
def asPlain (d : Draft) : Draft :=
  { d with params := d.params.map Parameter.asPlain, returns := d.returns.asPlain }

theorem parameterFault?_asPlain (function : Identifier) (ps : List Parameter) :
    parameterFault? function 0 [] (ps.map Parameter.asPlain) = parameterFault? function 0 [] ps :=
  parameterFault?_congr 0 (List.forall₂_map_left_iff.2 (List.forall₂_same.2 fun _ _ => ⟨rfl, rfl⟩))

/-- **A draft with plain references is built as the draft is**, or fails as it does. -/
theorem build_asPlain (d : Draft) : d.asPlain.build = d.build.map Function.asPlain := by
  have hfault : d.asPlain.fault? = d.fault? := by
    rw [fault?, fault?, asPlain, ← parameterFault?_asPlain _ d.params]
    rfl
  rw [build, build, hfault]
  cases d.fault? <;> rfl

end Draft

end SwiftDecl
