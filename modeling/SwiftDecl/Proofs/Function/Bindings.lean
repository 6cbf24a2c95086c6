import SwiftDecl.Manifest.Basic
import SwiftDecl.Proofs.Identifier.Shape
import SwiftDecl.Proofs.Layout.Signature

/-!
# The names that a function binds

The body of a function sees a parameter under its local name if there is one, and else under its
label. A draft is checked on the bare names, and a signature displays them, so what was told apart
by the one has to be told apart by the other. It is, because a displayed name without its backticks
is the bare name (`Identifier.withoutBackticks_display`), and because a local name that was given
holds characters (`Parameter.Made.isEmpty_localName`), which building checks for labels alone.
Labels may repeat, as long as local names tell their parameters apart (`accepted_binds_apart`).
-/

namespace SwiftDecl

theorem IsNameable.isEmpty_ofName {raw : Text} (h : IsNameable raw) :
    (Identifier.ofName raw).isEmpty = false :=
  Bool.eq_false_iff.2 fun hempty => isEmpty_ofName_iff_not.1 hempty h

/-- A character that a text does not hold is none of its characters. -/
theorem Text.bne_of_not_mem {t : Text} {c : Char} (h : c ∉ t) : ∀ d ∈ t, (d != c) = true :=
  fun _ hd => bne_iff_ne.2 (ne_of_mem_of_not_mem hd h)

/-- A text with its backticks removed. -/
def Text.withoutBackticks (t : Text) : Text :=
  t.filter (· != '\x60')

namespace Identifier

variable {i : Identifier}

theorem not_mem_backtick (h : ∀ c ∈ i.name, Unicode.isWordChar c) : '\x60' ∉ i.name :=
  fun hmem => not_mem_separators (h _ hmem) (by decide)

/-- **Without its backticks a displayed identifier is the bare name.** -/
theorem withoutBackticks_display (h : ∀ c ∈ i.name, Unicode.isWordChar c) :
    i.display.withoutBackticks = i.name := by
  have hname : i.name.filter (· != '\x60') = i.name :=
    List.filter_eq_self.2 (Text.bne_of_not_mem (not_mem_backtick h))
  unfold display Text.withoutBackticks
  split
  · simp [Text.inBackticks, hname]
  · exact hname

/-- A displayed identifier is a reserved word in backticks, or has none and is no reserved word. -/
theorem display_cases (h : ∀ c ∈ i.name, Unicode.isWordChar c) :
    (i.display ∉ keywords.map String.toList ∧ '\x60' ∉ i.display) ∨
      ∃ word ∈ keywords.map String.toList, i.display = '\x60' :: (word ++ ['\x60']) := by
  rw [display_eq]
  split_ifs with hkeyword
  · exact .inr ⟨i.name, hkeyword, rfl⟩
  · exact .inl ⟨hkeyword, not_mem_backtick h⟩

end Identifier

namespace Parameter

variable {p : Parameter} {raw : Text}

/-! ## One parameter -/

/-- The name under which the body sees a parameter, as it is displayed: the local name if there is
one, and else the label. -/
def shownBinding (p : Parameter) : Text :=
  match p.localName with
  | some localName => localName.display
  | none => p.identifier.display

theorem shownBinding_eq (p : Parameter) : p.shownBinding = p.binding.display := by
  unfold shownBinding binding
  cases p.localName <;> rfl

/-- A local name that has been given holds characters. -/
theorem Made.isEmpty_localName (h : p.Made) {i : Identifier} (hi : p.localName = some i) :
    i.isEmpty = false := by
  induction h with
  | named name type => cases hi
  | @edited p _ e ih =>
    cases e with
    | localName raw =>
      simp only [Parameter.edited, withLocalName] at hi
      split at hi
      · cases hi
      · rename_i hkept
        obtain rfl := Option.some.inj hi
        simp only [Bool.or_eq_true, not_or, Bool.not_eq_true] at hkept
        exact hkept.1
    | defaultValue value => exact ih hi

theorem Made.isWordChar_binding (h : p.Made) : ∀ c ∈ p.binding.name, Unicode.isWordChar c := by
  unfold binding
  cases hlocal : p.localName with
  | none => exact Identifier.isWordChar_of_mem_ofName
  | some i => exact h.isWordChar_localName hlocal

theorem Made.isEmpty_binding (h : p.Made) (hname : IsNameable p.name) :
    p.binding.isEmpty = false := by
  unfold binding
  cases hlocal : p.localName with
  | none => exact hname.isEmpty_ofName
  | some i => exact h.isEmpty_localName hlocal

/-- **A parameter is bound under the local name it is given**, for that is dropped only where the
label comes to the same. -/
theorem binding_withLocalName (h : IsNameable raw) (p : Parameter) :
    (p.withLocalName raw).binding = .ofName raw := by
  simp only [withLocalName, h.isEmpty_ofName, Bool.false_or, beq_iff_eq]
  split
  · rename_i hsame
    exact hsame.symm
  · rfl

/-! ## The name in the rendered text -/

/-- What stands last before the first colon of a text, behind the last blank there. -/
def lastBeforeColon (t : Text) : Text :=
  ((t.takeWhile (· != ':')).reverse.takeWhile (· != ' ')).reverse

theorem lastBeforeColon_eq (before : Text) {word rest : Text} (hbefore : ':' ∉ before)
    (hcolon : ':' ∉ word) (hblank : ' ' ∉ word) (hends : before.getLast?.all (· == ' ')) :
    lastBeforeColon (before ++ (word ++ ':' :: rest)) = word := by
  have hfirst : (before ++ (word ++ ':' :: rest)).takeWhile (· != ':') = before ++ word := by
    have hnot : ':' ∉ before ++ word := by simp [hbefore, hcolon]
    rw [← List.append_assoc, List.takeWhile_append_of_pos (Text.bne_of_not_mem hnot),
      List.takeWhile_cons_of_neg (by simp), List.append_nil]
  have hword : ∀ c ∈ word.reverse, (c != ' ') = true :=
    Text.bne_of_not_mem fun hmem => hblank (List.mem_reverse.1 hmem)
  have hnone : before.reverse.takeWhile (· != ' ') = [] := by
    rw [← List.head?_reverse] at hends
    cases hrev : before.reverse with
    | nil => rfl
    | cons c more =>
      rw [hrev] at hends
      exact List.takeWhile_cons_of_neg (by simpa using hends)
  rw [lastBeforeColon, hfirst, List.reverse_append, List.takeWhile_append_of_pos hword, hnone,
    List.append_nil, List.reverse_reverse]

theorem not_mem_display {i : Identifier} (h : ∀ c ∈ i.name, Unicode.isWordChar c) {c : Char}
    (hc : Identifier.isDisplayChar c = false) : c ∉ i.display := by
  intro hmem
  rw [Identifier.isDisplayChar_of_mem_display h c hmem] at hc
  cases hc

/-- **A rendered parameter shows the name the body sees it under** right before its colon. -/
theorem Made.lastBeforeColon_render (h : p.Made) : lastBeforeColon p.render = p.shownBinding := by
  have hlabel : ∀ c ∈ p.identifier.name, Unicode.isWordChar c :=
    Identifier.isWordChar_of_mem_ofName
  rw [render_eq]
  unfold localClause shownBinding
  cases hlocal : p.localName with
  | none =>
    rw [Text.clause_none, List.nil_append, ← List.nil_append (p.identifier.display ++ _)]
    exact lastBeforeColon_eq [] List.not_mem_nil (not_mem_display hlabel rfl)
      (not_mem_display hlabel rfl) rfl
  | some i =>
    have hname := h.isWordChar_localName hlocal
    have hbefore : ':' ∉ p.identifier.display ++ [' '] := by
      simp [not_mem_display hlabel (c := ':') rfl]
    rw [Text.clause_some, List.cons_append, ← List.singleton_append, ← List.append_assoc]
    exact lastBeforeColon_eq _ hbefore (not_mem_display hname rfl) (not_mem_display hname rfl)
      (by simp)

end Parameter

/-! ## Steps that change a draft -/

namespace Draft

variable {d : Draft}

/-- The parameters that a step adds. -/
def Edit.added : Edit → List Parameter
  | .param p => [p]
  | .params ps => ps
  | _ => []

theorem params_edited (d : Draft) (e : Edit) : (d.edited e).params = d.params ++ e.added := by
  cases e <;> simp [edited, Edit.added]

/-- **The parameters of a draft** are those that its steps have added, in their order. -/
theorem params_editedBy (d : Draft) (run : List Edit) :
    (d.editedBy run).params = d.params ++ run.flatMap Edit.added := by
  induction run generalizing d with
  | nil => simp [editedBy]
  | cons e run ih =>
    change ((d.edited e).editedBy run).params = _
    rw [ih, params_edited, List.flatMap_cons, List.append_assoc]

/-- Further parameters are accepted if their labels can be used and their bindings are new. -/
theorem exists_build_params_iff {ps : List Parameter} (hd : ∃ f, d.build = .ok f)
    (hlabels : ∀ p ∈ ps, IsNameable p.name) :
    (∃ g, (d.edited (.params ps)).build = .ok g) ↔
      (d.params.map Parameter.bindingName ++ ps.map Parameter.bindingName).Nodup := by
  obtain ⟨hname, hgenerics, hbefore, -⟩ := exists_build_eq_ok_iff.1 hd
  rw [exists_build_eq_ok_iff, ← List.map_append]
  constructor
  · intro h
    exact h.bindings
  · intro h
    refine ⟨hname, hgenerics, fun p hp => ?_, h⟩
    rcases List.mem_append.1 hp with hp | hp
    · exact hbefore p hp
    · exact hlabels p hp

end Draft

theorem Manifest.ParamSpec.made_toParameter (p : ParamSpec) : p.toParameter.Made := by
  obtain ⟨label, localName, type, defaultValue⟩ := p
  have hnamed := Parameter.Made.named label type.toTypeRef
  cases localName with
  | none =>
    cases defaultValue with
    | none => exact hnamed
    | some value => exact hnamed.edited (.defaultValue value)
  | some raw =>
    have hbound := hnamed.edited (.localName raw)
    cases defaultValue with
    | none => exact hbound
    | some value => exact hbound.edited (.defaultValue value)

namespace Function

variable {f : Function}

/-! ## All parameters of a function -/

/-- **A function whose body can tell its parameters apart** by the names that the signature shows:
none is empty, no two are the same, in backticks or without, and backticks stand around the reserved
words and no others. -/
structure BindsApart (f : Function) : Prop where
  shown : ∀ p ∈ f.params, Parameter.lastBeforeColon p.render = p.shownBinding
  nonempty : ∀ p ∈ f.params, p.shownBinding ≠ []
  apart : (f.params.map Parameter.shownBinding).Nodup
  apartBare : (f.params.map fun p => p.shownBinding.withoutBackticks).Nodup
  quoted : ∀ p ∈ f.params,
    (p.shownBinding ∉ keywords.map String.toList ∧ '\x60' ∉ p.shownBinding) ∨
      ∃ word ∈ keywords.map String.toList, p.shownBinding = '\x60' :: (word ++ ['\x60'])

/-- Building leaves the parameters as they are and has found them well formed. -/
theorem Built.wellFormed (h : f.Built) :
    (∀ p ∈ f.params, IsNameable p.name) ∧ (f.params.map Parameter.bindingName).Nodup := by
  obtain ⟨d, -, hbuild⟩ := h
  have hwell := Draft.exists_build_eq_ok_iff.1 ⟨f, hbuild⟩
  rw [Draft.eq_finished_of_build hbuild]
  exact ⟨hwell.labels, hwell.bindings⟩

/-- **A function that has been built binds its parameters apart.** -/
theorem Built.bindsApart (h : f.Built) : f.BindsApart := by
  obtain ⟨hlabels, hbindings⟩ := h.wellFormed
  have hword : ∀ p ∈ f.params, ∀ c ∈ p.binding.name, Unicode.isWordChar c := fun p hp =>
    (h.made_of_mem hp).isWordChar_binding
  have hbare : ∀ p ∈ f.params, p.shownBinding.withoutBackticks = p.bindingName := by
    intro p hp
    rw [Parameter.shownBinding_eq, Identifier.withoutBackticks_display (hword p hp)]
    rfl
  have hapart : (f.params.map fun p => p.shownBinding.withoutBackticks).Nodup := by
    rwa [List.map_congr_left hbare]
  refine ⟨fun p hp => (h.made_of_mem hp).lastBeforeColon_render, fun p hp hnil => ?_, ?_, hapart,
    fun p hp => ?_⟩
  · -- a name of which nothing is shown would be empty
    have hempty := (h.made_of_mem hp).isEmpty_binding (hlabels p hp)
    have hname : p.bindingName = [] := by rw [← hbare p hp, hnil]; rfl
    rw [Identifier.isEmpty, List.isEmpty_eq_false_iff] at hempty
    exact hempty hname
  · exact List.Nodup.of_map Text.withoutBackticks (by rwa [List.map_map])
  · rw [Parameter.shownBinding_eq]
    exact Identifier.display_cases (hword p hp)

end Function

/-- **What is accepted binds its parameters apart**, whether a run of steps has made the draft or an
entry of a manifest. The labels have no part in it: an accepted draft also takes any number of
further parameters under one label, exactly if the local names they are given come to identifiers
that differ, from each other and from what is bound already. -/
theorem accepted_binds_apart :
    (∀ (name : Text) (run : List Draft.Edit) (f : Function),
      (∀ e ∈ run, ∀ p ∈ e.added, p.Made) →
      ((Draft.named name).editedBy run).build = .ok f → f.BindsApart) ∧
    (∀ (spec : Manifest.FunctionSpec) (f : Function),
      spec.toFunction = .ok f → f.BindsApart) ∧
    ∀ (d : Draft) (label : Text) (locals : List (Text × TypeRef)),
      (∃ f, d.build = .ok f) → IsNameable label → (∀ x ∈ locals, IsNameable x.1) →
      ((∃ g, (d.edited (.params
          (locals.map fun x => (Parameter.named label x.2).withLocalName x.1))).build = .ok g) ↔
        (d.params.map Parameter.bindingName
          ++ locals.map fun x => (Identifier.ofName x.1).name).Nodup) := by
  refine ⟨fun name run f hadded hbuild => ?_, fun spec f hbuild => ?_,
    fun d label locals hd hlabel hlocals => ?_⟩
  · refine Function.Built.bindsApart ⟨_, fun p hp => ?_, hbuild⟩
    rw [Draft.params_editedBy] at hp
    obtain ⟨e, he, hp⟩ := List.mem_flatMap.1 hp
    exact hadded e he p hp
  · refine Function.Built.bindsApart ⟨_, fun p hp => ?_, hbuild⟩
    obtain ⟨q, -, rfl⟩ := List.mem_map.1 hp
    exact q.made_toParameter
  · have hlabels : ∀ p ∈ locals.map fun x => (Parameter.named label x.2).withLocalName x.1,
        IsNameable p.name := by
      intro p hp
      obtain ⟨x, -, rfl⟩ := List.mem_map.1 hp
      rwa [Parameter.name_withLocalName]
    have hbindings : (locals.map fun x => (Parameter.named label x.2).withLocalName x.1).map
        Parameter.bindingName = locals.map fun x => (Identifier.ofName x.1).name := by
      rw [List.map_map]
      refine List.map_congr_left fun x hx => ?_
      exact congrArg Identifier.name (Parameter.binding_withLocalName (hlocals x hx) _)
    rw [Draft.exists_build_params_iff hd hlabels, hbindings]

/-- Two parameters under one label, both it and one of the local names being reserved words, and a
reserved word that binds a parameter itself. -/
def searching : List Draft.Edit :=
  [.param ((Parameter.named "in".toList .string).edited (.localName "For".toList)),
    .params [(Parameter.named "in".toList .int).edited (.localName "bundle ID".toList),
      .named "Default".toList .bool]]

/-- An entry in which two parameters share a label, a reserved word that binds one of them. -/
def sharing : Manifest.FunctionSpec :=
  ⟨"share".toList, [], false, none,
    [⟨"is".toList, none, .bare "Int".toList, none⟩,
      ⟨"is".toList, some "as".toList, .bare "Int".toList, none⟩], false, none, []⟩

theorem searching_binds_apart :
    (∀ e ∈ searching, ∀ p ∈ e.added, p.Made) ∧
      (∃ f, ((Draft.named "search".toList).editedBy searching).build = .ok f ∧
        f.params.map Parameter.shownBinding
          = ["\x60for\x60".toList, "bundleID".toList, "\x60default\x60".toList] ∧ f.BindsApart) ∧
      (∃ f, sharing.toFunction = .ok f ∧ f.BindsApart ∧
        f.signature = "func share(\x60is\x60: Int, \x60is\x60 \x60as\x60: Int)".toList) ∧
      ∃ g, ((Draft.named "search".toList).edited (.params
        ([("for".toList, .int), ("bundle ID".toList, .string)].map fun x =>
          (Parameter.named "in".toList x.2).withLocalName x.1))).build = .ok g := by
  have hmade : ∀ e ∈ searching, ∀ p ∈ e.added, p.Made :=
    List.forall_mem_cons.2 ⟨List.forall_mem_singleton.2 (.edited (.named _ _) _),
      List.forall_mem_singleton.2 (List.forall_mem_cons.2 ⟨.edited (.named _ _) _,
        List.forall_mem_singleton.2 (.named _ _)⟩)⟩
  have hsearch : ((Draft.named "search".toList).editedBy searching).build
      = .ok ((Draft.named "search".toList).editedBy searching).finished := rfl
  have hshare : sharing.toFunction = .ok sharing.toDraft.finished := rfl
  obtain ⟨hruns, hentries, hlabels⟩ := accepted_binds_apart
  refine ⟨hmade, ⟨_, hsearch, by decide +kernel, hruns _ _ _ hmade hsearch⟩,
    ⟨_, hshare, hentries _ _ hshare, by decide +kernel⟩, ?_⟩
  refine (hlabels _ "in".toList _ ⟨_, rfl⟩ ⟨'i', by decide, rfl⟩ ?_).2 (by decide +kernel)
  exact List.forall_mem_cons.2 ⟨⟨'f', by decide, rfl⟩,
    List.forall_mem_singleton.2 ⟨'b', by decide, rfl⟩⟩

end SwiftDecl
