import SwiftDecl.Dependencies
import SwiftDecl.Proofs.Function.Bindings
import SwiftDecl.Proofs.Identifier.CamelCase
import SwiftDecl.Proofs.Rows

/-!
# Separators in names do not matter

Raw names of the same pieces come to the same identifiers, whatever stands before, between and
behind the pieces. A declaration holds raw names in two places: a parameter holds its label, and a
draft holds the name of the function. A local name is normalized as soon as it is given, and is
compared to the label as an identifier. So a parameter that is made of names with the same pieces
differs in its label alone (`Parameter.MadeAlike.exists_eq`). The checks of a draft look at labels
and at the name through identifiers too, so drafts that are made alike have the same fault
(`Draft.NamedAlike.fault?_eq`). What is built shows the same (`separators_do_not_matter`).
-/

namespace SwiftDecl

/-! ## Names of the same pieces -/

/-- **Raw names of the same pieces**, whatever separates these. -/
def SamePieces (raw raw' : Text) : Prop :=
  ∃ ws, SetApart ws raw ∧ SetApart ws raw'

theorem samePieces_iff {raw raw' : Text} : SamePieces raw raw' ↔ pieces raw = pieces raw' := by
  constructor
  · rintro ⟨ws, h, h'⟩
    rw [h.pieces_eq, h'.pieces_eq]
  · intro h
    exact ⟨pieces raw, setApart_iff.2 rfl, setApart_iff.2 h.symm⟩

instance {raw raw' : Text} : Decidable (SamePieces raw raw') :=
  decidable_of_iff _ samePieces_iff.symm

theorem SamePieces.ofName_eq {raw raw' : Text} (h : SamePieces raw raw') :
    Identifier.ofName raw = .ofName raw' := by
  rw [Identifier.ofName, Identifier.ofName, samePieces_iff.1 h]

theorem SamePieces.ofTypeName_eq {raw raw' : Text} (h : SamePieces raw raw') :
    Identifier.ofTypeName raw = .ofTypeName raw' := by
  rw [Identifier.ofTypeName, Identifier.ofTypeName, samePieces_iff.1 h]

/-! ## Parameters -/

namespace Parameter

/-- Steps that change a parameter alike: a local name is given with the same pieces, and a default
value as it is. -/
inductive Edit.NamedAlike : Edit → Edit → Prop where
  | localName {raw raw' : Text} (h : SamePieces raw raw') :
      NamedAlike (.localName raw) (.localName raw')
  | defaultValue (value : Text) : NamedAlike (.defaultValue value) (.defaultValue value)

/-- **Parameters made alike**: by the same steps, with labels and local names of the same pieces. -/
inductive MadeAlike : Parameter → Parameter → Prop where
  | named {name name' : Text} (h : SamePieces name name') (type : TypeRef) :
      MadeAlike (.named name type) (.named name' type)
  | edited {p q : Parameter} {e e' : Edit} (h : MadeAlike p q) (he : e.NamedAlike e') :
      MadeAlike (p.edited e) (q.edited e')

variable {p q : Parameter} {e e' : Edit} {name' : Text}

/-- A step changes a parameter the same way under a label of the same pieces. -/
theorem Edit.NamedAlike.edited_eq (he : e.NamedAlike e') (h : SamePieces p.name name') :
    { p with name := name' }.edited e' = { p.edited e with name := name' } := by
  cases he with
  | @localName raw raw' hraw =>
    have hlabel : { p with name := name' }.identifier = p.identifier := h.ofName_eq.symm
    simp only [Parameter.edited, withLocalName, hlabel, ← hraw.ofName_eq]
    split <;> rfl
  | defaultValue value => rfl

theorem name_edited (p : Parameter) (e : Edit) : (p.edited e).name = p.name := by
  cases e with
  | localName raw => exact name_withLocalName raw p
  | defaultValue value => rfl

/-- **Parameters made alike differ in their labels alone**, and these have the same pieces. -/
theorem MadeAlike.exists_eq (h : p.MadeAlike q) :
    ∃ name', SamePieces p.name name' ∧ q = { p with name := name' } := by
  induction h with
  | named h type => exact ⟨_, h, rfl⟩
  | @edited p q e e' _ he ih =>
    obtain ⟨name', hname, rfl⟩ := ih
    exact ⟨name', by rwa [name_edited], he.edited_eq hname⟩

theorem MadeAlike.identifier_eq (h : p.MadeAlike q) : p.identifier = q.identifier := by
  obtain ⟨name', hname, rfl⟩ := h.exists_eq
  exact hname.ofName_eq

theorem MadeAlike.bindingName_eq (h : p.MadeAlike q) : p.bindingName = q.bindingName := by
  have hlabel := h.identifier_eq
  obtain ⟨name', -, rfl⟩ := h.exists_eq
  rw [bindingName, bindingName, binding, binding, hlabel]

theorem MadeAlike.render_eq (h : p.MadeAlike q) : p.render = q.render := by
  have hlabel := h.identifier_eq
  obtain ⟨name', -, rfl⟩ := h.exists_eq
  rw [render, render, hlabel]

theorem MadeAlike.usedTypes_eq (h : p.MadeAlike q) : p.usedTypes = q.usedTypes := by
  obtain ⟨name', -, rfl⟩ := h.exists_eq
  rfl

end Parameter

/-! ## Drafts -/

/-- The rejection with another raw name in it. Only the one for want of a name quotes it. -/
def Rejection.quoting (raw : Text) : Rejection → Rejection
  | emptyName _ => emptyName raw
  | emptyGenerics function => emptyGenerics function
  | emptyParameterName function index => emptyParameterName function index
  | duplicateParameter function name => duplicateParameter function name

namespace Draft

/-- Steps that change a draft alike: parameters are added that are made alike, or none and the steps
are the same. -/
inductive Edit.NamedAlike : Edit → Edit → Prop where
  | param {p q : Parameter} (h : p.MadeAlike q) : NamedAlike (.param p) (.param q)
  | params {ps qs : List Parameter} (h : List.Forall₂ Parameter.MadeAlike ps qs) :
      NamedAlike (.params ps) (.params qs)
  | unnamed {e : Edit} (h : e.added = []) : NamedAlike e e

/-- **Drafts that differ in the separators of their names alone.** -/
inductive NamedAlike (d : Draft) : Draft → Prop where
  | intro {name' : Text} {qs : List Parameter} (hname : SamePieces d.name name')
      (hparams : List.Forall₂ Parameter.MadeAlike d.params qs) :
      NamedAlike d { d with name := name', params := qs }

variable {d d' : Draft} {e e' : Edit} {run run' : List Edit}

theorem name_edited (d : Draft) (e : Edit) : (d.edited e).name = d.name := by
  cases e <;> rfl

theorem Edit.NamedAlike.added (he : e.NamedAlike e') :
    List.Forall₂ Parameter.MadeAlike e.added e'.added := by
  cases he with
  | param h => exact .cons h .nil
  | params h => exact h
  | unnamed h => rw [h]; exact .nil

/-- Of the draft itself a step reads nothing but the parameters, and steps that are alike differ in
what they add to these alone. -/
theorem Edit.NamedAlike.edited_eq (he : e.NamedAlike e') (d : Draft) (name' : Text)
    (qs : List Parameter) :
    { d with name := name', params := qs }.edited e'
      = { d.edited e with name := name', params := qs ++ e'.added } := by
  cases he with
  | param h => rfl
  | params h => rfl
  | unnamed h => cases e <;> simp [Draft.edited, Edit.added]

/-- **A step keeps drafts alike.** -/
theorem NamedAlike.edited (h : d.NamedAlike d') (he : e.NamedAlike e') :
    (d.edited e).NamedAlike (d'.edited e') := by
  obtain ⟨hname, hparams⟩ := h
  rw [he.edited_eq]
  refine .intro (by rwa [name_edited]) ?_
  rw [params_edited]
  exact List.rel_append hparams he.added

/-- **Runs of steps that are alike lead to drafts that are.** -/
theorem NamedAlike.editedBy (h : d.NamedAlike d') (hrun : List.Forall₂ Edit.NamedAlike run run') :
    (d.editedBy run).NamedAlike (d'.editedBy run') := by
  induction hrun generalizing d d' with
  | nil => exact h
  | cons he _ ih => exact ih (h.edited he)

theorem NamedAlike.named {name name' : Text} (h : SamePieces name name') :
    (Draft.named name).NamedAlike (Draft.named name') :=
  .intro (d := Draft.named name) h .nil

/-- A fault of a parameter quotes no raw name. -/
theorem FaultAt.quoting_eq {function : Identifier} {ps : List Parameter} {i : Nat} {r : Rejection}
    (h : FaultAt function ps i r) (raw : Text) : r.quoting raw = r := by
  cases h <;> rfl

/-- **Drafts that are alike have the same fault**, each with its own raw name. -/
theorem NamedAlike.fault?_eq (h : d.NamedAlike d') :
    d'.fault? = d.fault?.map (Rejection.quoting d'.name) := by
  obtain @⟨name', qs, hname, hparams⟩ := h
  have hidentifier : Draft.identifier { d with name := name', params := qs } = d.identifier :=
    hname.ofName_eq.symm
  have hsame : parameterFault? d.identifier 0 [] qs = parameterFault? d.identifier 0 [] d.params :=
    (parameterFault?_congr 0 (hparams.imp fun _ _ h => ⟨h.identifier_eq, h.bindingName_eq⟩)).symm
  rw [fault?, fault?, hidentifier, hsame]
  split_ifs with hempty hgenerics
  · rfl
  · rfl
  · cases hfault : parameterFault? d.identifier 0 [] d.params with
    | none => rfl
    | some r =>
      obtain ⟨i, hi, -⟩ := parameterFault?_eq_some [] (by simp) hfault
      rw [Option.map_some, hi.quoting_eq]

end Draft

/-! ## Functions -/

/-- **Functions that show the same**: as signatures, as rendered text under every layout, and in the
types they use. -/
structure Function.ShowsSame (f g : Function) : Prop where
  signature : f.signature = g.signature
  rendered : ∀ config, Layout.renderFunction config f = Layout.renderFunction config g
  usedTypes : f.usedTypes = g.usedTypes

/-- What is built of drafts that are alike shows the same. -/
theorem Draft.NamedAlike.showsSame {d d' : Draft} (h : d.NamedAlike d') :
    d.finished.ShowsSame d'.finished := by
  obtain @⟨name', qs, hname, hparams⟩ := h
  have hidentifier : Draft.identifier { d with name := name', params := qs } = d.identifier :=
    hname.ofName_eq.symm
  have hfinished : Draft.finished { d with name := name', params := qs }
      = { d.finished with params := qs } := by
    rw [finished, hidentifier]
    rfl
  have hrendered := map_eq_map_iff_forall₂.2 (hparams.imp fun _ _ => Parameter.MadeAlike.render_eq)
  have hused := map_eq_map_iff_forall₂.2 (hparams.imp fun _ _ => Parameter.MadeAlike.usedTypes_eq)
  have hsignature : d.finished.signature = { d.finished with params := qs }.signature := by
    have hbefore := d.finished.signature_withParams d.params
    rw [hrendered] at hbefore
    exact hbefore.trans (d.finished.signature_withParams qs).symm
  rw [hfinished]
  refine ⟨hsignature, fun config => ?_, ?_⟩
  · rw [Layout.renderFunction, Layout.renderFunction, hsignature]
    rfl
  · rw [Function.usedTypes, Function.usedTypes, List.flatMap_def, List.flatMap_def, ← hused]
    rfl

/-- **Only the pieces of a name matter, and not what separates them.** Names of the same pieces are
the same identifiers. Whatever steps make two drafts, if they give names of the same pieces, both
drafts are built or both are rejected. They are rejected for the same reason, in which only the raw
name of the function may be another; and what is built of them shows the same. -/
theorem separators_do_not_matter :
    (∀ raw raw', SamePieces raw raw' → Identifier.ofName raw = .ofName raw' ∧
      Identifier.ofTypeName raw = .ofTypeName raw') ∧
    (∀ name name' run run', SamePieces name name' →
      List.Forall₂ Draft.Edit.NamedAlike run run' →
      ((Draft.named name).editedBy run).NamedAlike ((Draft.named name').editedBy run')) ∧
    ∀ d d' : Draft, d.NamedAlike d' →
      (∀ r, d.build = .error r → d'.build = .error (r.quoting d'.name)) ∧
      ∀ f, d.build = .ok f → ∃ g, d'.build = .ok g ∧ f.ShowsSame g := by
  refine ⟨fun raw raw' h => ⟨h.ofName_eq, h.ofTypeName_eq⟩, fun name name' run run' hname hrun =>
    (Draft.NamedAlike.named hname).editedBy hrun, fun d d' h => ?_⟩
  have hfault := h.fault?_eq
  refine ⟨fun r hr => ?_, fun f hf => ?_⟩
  · rw [Draft.build_eq_error_iff_fault?] at hr ⊢
    rw [hfault, hr, Option.map_some]
  · obtain ⟨hnone, rfl⟩ := Draft.build_eq_ok_iff.1 hf
    rw [hnone, Option.map_none] at hfault
    exact ⟨_, Draft.build_eq_ok_iff.2 ⟨hfault, rfl⟩, h.showsSame⟩

/-- A parameter with a local name, and one to which its local name gives no other. -/
def spaced : List Draft.Edit :=
  [.throws true, .params
    [(Parameter.named "row index".toList .int).edited (.localName "at".toList),
      (Parameter.named "of type".toList .string).edited (.localName "of type".toList)]]

/-- The same names with other separators. -/
def hyphenated : List Draft.Edit :=
  [.throws true, .params
    [(Parameter.named "row--index".toList .int).edited (.localName "[at]".toList),
      (Parameter.named "of/type".toList .string).edited (.localName "-of type ".toList)]]

theorem hyphenated_shows_same :
    (∃ f g, ((Draft.named "move rows".toList).editedBy spaced).build = .ok f ∧
        ((Draft.named " move…rows!".toList).editedBy hyphenated).build = .ok g ∧ f.ShowsSame g ∧
        g.signature = "func moveRows(rowIndex at: Int, ofType: String) throws".toList) ∧
      ((Draft.named "-?".toList).editedBy hyphenated).build = .error (.emptyName "-?".toList) := by
  have hrow : SamePieces "row index".toList "row--index".toList := by decide +kernel
  have hat : SamePieces "at".toList "[at]".toList := by decide +kernel
  have hlabel : SamePieces "of type".toList "of/type".toList := by decide +kernel
  have hlocal : SamePieces "of type".toList "-of type ".toList := by decide +kernel
  have hrun : List.Forall₂ Draft.Edit.NamedAlike spaced hyphenated :=
    .cons (.unnamed rfl) (.cons (.params (.cons (.edited (.named hrow _) (.localName hat))
      (.cons (.edited (.named hlabel _) (.localName hlocal)) .nil))) .nil)
  have hname : SamePieces "move rows".toList " move…rows!".toList := by decide +kernel
  have hnameless : SamePieces "".toList "-?".toList := by decide +kernel
  obtain ⟨-, hsteps, hbuild⟩ := separators_do_not_matter
  refine ⟨?_, (hbuild _ _ (hsteps _ _ _ _ hnameless hrun)).1 _ rfl⟩
  obtain ⟨g, hg, hsame⟩ := (hbuild _ _ (hsteps _ _ _ _ hname hrun)).2 _ rfl
  exact ⟨_, g, rfl, hg, hsame, hsame.signature.symm.trans (by decide +kernel)⟩

end SwiftDecl
