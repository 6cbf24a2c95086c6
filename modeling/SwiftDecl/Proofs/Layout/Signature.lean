import SwiftDecl.Layout.Render
import SwiftDecl.Proofs.Function.Validation
import SwiftDecl.Proofs.Identifier.Characters
import SwiftDecl.Proofs.Parameter.Construction
import SwiftDecl.Proofs.TypeRef.Spelling

/-!
# A signature determines its declaration

The parts of a signature are read off from left to right. A displayed identifier ends at the first
character that is neither a word character nor a backtick, a generics clause at the parenthesis that
opens the parameters, a type where nothing could go on with one, and a default value at the comma or
the parenthesis after it. So a signature shows all of a declaration line (`agrees_of_signature_eq`),
as long as the two free texts in it, generics and default values, do not hold the characters that
end them.
-/

namespace SwiftDecl

open Text

/-! ## What a signature shows -/

/-- Parameters of which a signature shows the same. -/
structure Parameter.Agrees (p q : Parameter) : Prop where
  label : p.identifier = q.identifier
  localName : p.localName = q.localName
  type : (p.type == q.type) = true
  defaultValue : p.defaultValue = q.defaultValue

/-- Functions of which a signature shows the same. -/
structure Function.Agrees (f g : Function) : Prop where
  isStatic : f.isStatic = g.isStatic
  name : f.name = g.name
  generics : f.generics = g.generics
  throws : f.throws = g.throws
  returns : (f.returns == g.returns) = true
  params : List.Forall₂ Parameter.Agrees f.params g.params

/-- A parameter whose type is plainly named and whose default value does not hold the characters
that could end it. -/
structure Parameter.IsPlain (p : Parameter) : Prop where
  type : p.type.hasPlainNames
  defaultValue : ∀ value ∈ p.defaultValue, ',' ∉ value ∧ ')' ∉ value

/-- A function whose types are plainly named and whose free texts do not hold the characters that
could end them. -/
structure Function.IsPlain (f : Function) : Prop where
  returns : f.returns.hasPlainNames
  generics : ∀ clause ∈ f.generics, '(' ∉ clause
  params : ∀ p ∈ f.params, p.IsPlain

/-- **A function that has been built** from a draft of constructed parameters. -/
def Function.Built (f : Function) : Prop :=
  ∃ d : Draft, (∀ p ∈ d.params, p.Made) ∧ d.build = .ok f

/-- **A displayed identifier can be read off.** -/
theorem Identifier.eq_of_display_append {i j : Identifier} (hi : ∀ c ∈ i.name, Unicode.isWordChar c)
    (hj : ∀ c ∈ j.name, Unicode.isWordChar c) {u v : Text}
    (hu : startsOutside Identifier.isDisplayChar u) (hv : startsOutside Identifier.isDisplayChar v)
    (h : i.display ++ u = j.display ++ v) : i = j ∧ u = v := by
  obtain ⟨hdisplay, huv⟩ := eq_of_stretch (Identifier.isDisplayChar_of_mem_display hi)
    (Identifier.isDisplayChar_of_mem_display hj) hu hv h
  exact ⟨Identifier.eq_of_display_eq hi hj hdisplay, huv⟩

namespace Parameter

/-! ## Parameters -/

variable {p q : Parameter}

/-- The local name behind a blank, if there is one. -/
def localClause (p : Parameter) : Text :=
  clause ' ' Identifier.display p.localName

/-- The default value behind its sign, if there is one. -/
def defaultClause (p : Parameter) : Text :=
  clause ' ' ("= ".toList ++ ·) p.defaultValue

theorem render_eq (p : Parameter) :
    p.render = p.identifier.display ++
      (p.localClause ++ ':' :: ' ' :: (p.type.spelling ++ p.defaultClause)) := by
  unfold render localClause defaultClause
  cases p.localName <;> cases p.defaultValue <;> simp

/-- Whether a character could go on with a parameter: all do but the two that end one. -/
def continuesParameter (c : Char) : Bool :=
  !(c == ',' || c == ')')

/-- The name of a constructed parameter's local name holds word characters only. -/
theorem Made.isWordChar_localName (h : p.Made) {i : Identifier} (hi : p.localName = some i) :
    ∀ c ∈ i.name, Unicode.isWordChar c := by
  obtain ⟨raw, rfl⟩ := h.exists_ofName hi
  exact Identifier.isWordChar_of_mem_ofName

/-- A local name can be read off up to the colon. -/
theorem eq_of_localClause (hp : p.Made) (hq : q.Made) {u v : Text}
    (h : p.localClause ++ ':' :: u = q.localClause ++ ':' :: v) :
    p.localName = q.localName ∧ u = v := by
  have hread : ∀ i ∈ p.localName, ∀ j ∈ q.localName,
      i.display ++ ':' :: u = j.display ++ ':' :: v → i = j ∧ ':' :: u = ':' :: v := by
    intro i hi j hj
    exact Identifier.eq_of_display_append (hp.isWordChar_localName hi) (hq.isWordChar_localName hj)
      rfl rfl
  obtain ⟨hlocal, huv⟩ := eq_of_clause rfl rfl hread h
  exact ⟨hlocal, (List.cons.inj huv).2⟩

theorem IsPlain.continuesParameter_of_mem (hp : p.IsPlain) {value : Text}
    (hv : value ∈ p.defaultValue) : ∀ c ∈ value, continuesParameter c := by
  intro c hc
  obtain ⟨hcomma, hparen⟩ := hp.defaultValue value hv
  have h1 : c ≠ ',' := fun h => hcomma (h ▸ hc)
  have h2 : c ≠ ')' := fun h => hparen (h ▸ hc)
  simp [continuesParameter, h1, h2]

/-- A default value can be read off up to a character that ends the parameter. -/
theorem eq_of_defaultClause (hp : p.IsPlain) (hq : q.IsPlain) {u v : Text}
    (hu : startsOutside continuesParameter u) (hv : startsOutside continuesParameter v)
    (h : p.defaultClause ++ u = q.defaultClause ++ v) :
    p.defaultValue = q.defaultValue ∧ u = v := by
  have hblank : ∀ {t : Text}, startsOutside continuesParameter t → startsOutside (· == ' ') t :=
    startsOutside_of_imp fun c hc => by rw [eq_of_beq hc]; rfl
  refine eq_of_clause (hblank hu) (hblank hv) (fun x hx y hy heq => ?_) h
  rw [List.append_assoc, List.append_assoc, List.append_cancel_left_eq] at heq
  exact eq_of_stretch (hp.continuesParameter_of_mem hx) (hq.continuesParameter_of_mem hy) hu hv heq

/-- What follows a parameter could not go on with its type, be there a default value or not. -/
theorem startsOutside_type {u : Text} (hu : startsOutside continuesParameter u) :
    startsOutside TypeRef.continuesType (p.defaultClause ++ u) := by
  refine startsOutside_clause rfl (startsOutside_of_imp (fun c hc => ?_) hu)
  rw [continuesParameter, Bool.not_eq_true', Bool.or_eq_false_iff]
  constructor <;> refine beq_eq_false_iff_ne.2 ?_ <;> rintro rfl <;> cases hc

/-- **A parameter can be read off.** -/
theorem readable (hp : p.Made) (hq : q.Made) (hp' : p.IsPlain) (hq' : q.IsPlain) :
    Readable continuesParameter render Agrees p q := by
  intro u v hu hv h
  simp only [render_eq, List.append_assoc, List.cons_append] at h
  obtain ⟨hlabel, h⟩ := Identifier.eq_of_display_append Identifier.isWordChar_of_mem_ofName
    Identifier.isWordChar_of_mem_ofName (startsOutside_clause rfl rfl)
    (startsOutside_clause rfl rfl) h
  obtain ⟨hlocal, h⟩ := eq_of_localClause hp hq h
  obtain ⟨htype, h⟩ := TypeRef.readsBack hp'.type hq'.type _ _ (startsOutside_type hu)
    (startsOutside_type hv) (List.cons.inj h).2
  obtain ⟨hdefault, h⟩ := eq_of_defaultClause hp' hq' hu hv h
  exact ⟨⟨hlabel, hlocal, htype, hdefault⟩, h⟩

/-- A constructed parameter does not start with the parenthesis that closes the list. -/
theorem exists_cons_render (p : Parameter) : ∃ c rest, p.render = c :: rest ∧ c ≠ ')' := by
  rw [render_eq]
  rcases hd : p.identifier.display with - | ⟨c, rest⟩
  · unfold localClause
    cases p.localName with
    | none => exact ⟨':', _, rfl, by decide⟩
    | some i => exact ⟨' ', _, rfl, by decide⟩
  · refine ⟨c, _, rfl, ?_⟩
    rintro rfl
    have hdisplay := Identifier.isDisplayChar_of_mem_display
      (i := p.identifier) Identifier.isWordChar_of_mem_ofName ')' (by rw [hd]; simp)
    cases hdisplay

end Parameter

namespace Function

variable {f g : Function}

/-! ## Declaration lines -/

/-- The word for a static function. -/
def staticWord (f : Function) : Text :=
  if f.isStatic then "static ".toList else []

/-- The word for a throwing function. -/
def throwsWord (f : Function) : Text :=
  if f.throws then " throws".toList else []

theorem signature_eq (f : Function) :
    f.signature = f.staticWord ++ ("func ".toList ++ (f.name.display ++ (f.genericsClause ++
      '(' :: (Text.joined (',' :: [' ']) (f.params.map Parameter.render) ++
        ')' :: (f.throwsWord ++ f.returnClause))))) := by
  rw [signature, show ", ".toList = ',' :: [' '] from rfl]
  simp only [List.append_assoc, List.cons_append, List.nil_append]
  rfl

/-- **A signature holds the parameters in one stretch**, and nothing around it depends on them. -/
theorem signature_withParams (f : Function) (ps : List Parameter) :
    { f with params := ps }.signature =
      (f.staticWord ++ ("func ".toList ++ (f.name.display ++ f.genericsClause)))
        ++ '(' :: (Text.joined ", ".toList (ps.map Parameter.render)
          ++ ')' :: (f.throwsWord ++ f.returnClause)) := by
  rw [signature_eq]
  simp only [List.append_assoc]
  rfl

/-- The name of a function that has been built is a normalized one. -/
theorem Built.isWordChar_name (h : f.Built) : ∀ c ∈ f.name.name, Unicode.isWordChar c := by
  obtain ⟨d, -, hd⟩ := h
  rw [Draft.eq_finished_of_build hd]
  exact Identifier.isWordChar_of_mem_ofName

theorem Built.made_of_mem (h : f.Built) {p : Parameter} (hp : p ∈ f.params) : p.Made := by
  obtain ⟨d, hmade, hd⟩ := h
  rw [Draft.eq_finished_of_build hd] at hp
  exact hmade p hp

/-- Whether a function is static can be read off, since `static` and `func` differ. -/
theorem eq_of_staticWord {u v : Text}
    (h : f.staticWord ++ ("func ".toList ++ u) = g.staticWord ++ ("func ".toList ++ v)) :
    f.isStatic = g.isStatic ∧ u = v := by
  have hno : ∀ t : Text, ¬ "static ".toList <+: "func ".toList ++ t := by
    intro t
    simp
  obtain ⟨hstatic, huv⟩ := eq_of_word (hno u) (hno v) h
  exact ⟨hstatic, List.append_cancel_left huv⟩

theorem genericsClause_eq (f : Function) :
    f.genericsClause = clause '<' (· ++ ['>']) f.generics := by
  unfold genericsClause
  cases f.generics <;> rfl

theorem IsPlain.ne_of_mem (hf : f.IsPlain) {generics : Text} (hg : generics ∈ f.generics) :
    ∀ c ∈ generics ++ ['>'], c != '(' := by
  intro c hc
  rw [bne_iff_ne]
  rintro rfl
  rcases List.mem_append.1 hc with hc | hc
  · exact hf.generics generics hg hc
  · simp at hc

/-- A generics clause can be read off up to the parenthesis that opens the parameters. -/
theorem eq_of_genericsClause (hf : f.IsPlain) (hg : g.IsPlain) {u v : Text}
    (h : f.genericsClause ++ '(' :: u = g.genericsClause ++ '(' :: v) :
    f.generics = g.generics ∧ u = v := by
  have hread : ∀ x ∈ f.generics, ∀ y ∈ g.generics,
      (x ++ ['>']) ++ '(' :: u = (y ++ ['>']) ++ '(' :: v → x = y ∧ '(' :: u = '(' :: v := by
    intro x hx y hy heq
    obtain ⟨hxy, huv⟩ := eq_of_stretch (hf.ne_of_mem hx) (hg.ne_of_mem hy) rfl rfl heq
    exact ⟨List.append_cancel_right hxy, huv⟩
  rw [genericsClause_eq, genericsClause_eq] at h
  obtain ⟨hgenerics, huv⟩ := eq_of_clause rfl rfl hread h
  exact ⟨hgenerics, (List.cons.inj huv).2⟩

/-- The return types of two functions are the same if their return clauses are, even where these are
left out. -/
theorem beq_of_returnClause (hf : f.IsPlain) (hg : g.IsPlain)
    (h : f.returnClause = g.returnClause) : (f.returns == g.returns) = true := by
  unfold returnClause at h
  split at h <;> split at h
  · rename_i hf hg
    exact TypeRef.beq_of_isVoid hf hg
  · simp at h
  · simp at h
  · rw [List.append_cancel_left_eq] at h
    exact (TypeRef.readsBack hf.returns hg.returns [] [] rfl rfl (by rw [h])).1

/-- Whether a function throws can be read off, since the return clause starts with an arrow. -/
theorem eq_of_throwsWord (h : f.throwsWord ++ f.returnClause = g.throwsWord ++ g.returnClause) :
    f.throws = g.throws ∧ f.returnClause = g.returnClause := by
  have hno : ∀ k : Function, ¬ " throws".toList <+: k.returnClause := by
    intro k
    unfold returnClause
    split <;> simp
  exact eq_of_word (hno f) (hno g) h

/-- **A signature determines its declaration.** Functions that have been built, with plain names in
their types and free texts that do not hold what ends them, agree in all that a signature shows if
they have the same signature. -/
theorem agrees_of_signature_eq (hf : f.Built) (hg : g.Built) (hf' : f.IsPlain) (hg' : g.IsPlain)
    (h : f.signature = g.signature) : f.Agrees g := by
  -- the name ends at its generics or at the parenthesis, for neither starts like more of a name
  have hafter : ∀ (k : Function) (w : Text),
      startsOutside Identifier.isDisplayChar (k.genericsClause ++ '(' :: w) := by
    intro k w
    rw [genericsClause_eq]
    exact startsOutside_clause rfl rfl
  rw [signature_eq, signature_eq] at h
  obtain ⟨hstatic, h⟩ := eq_of_staticWord h
  obtain ⟨hname, h⟩ := Identifier.eq_of_display_append hf.isWordChar_name hg.isWordChar_name
    (hafter f _) (hafter g _) h
  obtain ⟨hgenerics, h⟩ := eq_of_genericsClause hf' hg' h
  obtain ⟨hparams, h⟩ := forall₂_of_joined (by decide) rfl rfl
    (fun p hp q hq => Parameter.readable (hf.made_of_mem hp) (hg.made_of_mem hq)
      (hf'.params p hp) (hg'.params q hq))
    (fun p _ => p.exists_cons_render) (fun q _ => q.exists_cons_render) h
  obtain ⟨hthrows, hreturns⟩ := eq_of_throwsWord h
  exact ⟨hstatic, hname, hgenerics, hthrows, beq_of_returnClause hf' hg' hreturns, hparams⟩

/-! Two drafts with one signature: raw names, modules, ways of writing a type, comments and bodies
may all differ. -/

/-- A draft with every part a signature has. -/
def loadDraft : Draft :=
  ⟨"load image".toList, ["Loads.".toList], true, some "T: Decodable".toList,
    [((Parameter.named "in".toList (.dictionaryOf .string
        (.optional (.withArgs [.int, .bool] (.arrayOf .int))))).edited
          (.localName "bundle ID".toList)).edited (.defaultValue "[:]".toList),
      .named "limit".toList .int],
    true, .arrayOf (.named "T.Item".toList), "return []".toList⟩

/-- The same with other raw texts. -/
def respelledDraft : Draft :=
  ⟨"Load.Image".toList, [], true, some "T: Decodable".toList,
    [((Parameter.named "In".toList (.dictionaryOf (.named "String".toList)
        (.optional (.withArgs [.named "Int".toList, .builtin "Bool".toList]
          (.named "Array".toList))))).edited (.localName "Bundle ID".toList)).edited
            (.defaultValue "[:]".toList),
      .named "-limit-".toList (.inModule .host .int)],
    true, .arrayOf (.builtin "T.Item".toList), []⟩

theorem agrees_load_respelled :
    loadDraft.finished.Built ∧ respelledDraft.finished.Built ∧ loadDraft.finished.IsPlain ∧
      respelledDraft.finished.IsPlain ∧
      loadDraft.finished.signature = respelledDraft.finished.signature ∧
      loadDraft.finished.Agrees respelledDraft.finished := by
  have hload : loadDraft.finished.Built :=
    ⟨loadDraft, List.forall_mem_cons.2 ⟨.edited (.edited (.named _ _) _) _,
      List.forall_mem_singleton.2 (.named _ _)⟩, rfl⟩
  have hrespelled : respelledDraft.finished.Built :=
    ⟨respelledDraft, List.forall_mem_cons.2 ⟨.edited (.edited (.named _ _) _) _,
      List.forall_mem_singleton.2 (.named _ _)⟩, rfl⟩
  have hplain : loadDraft.finished.IsPlain :=
    ⟨rfl, by rintro _ ⟨⟩; decide, List.forall_mem_cons.2 ⟨⟨rfl, by rintro _ ⟨⟩; decide⟩,
      List.forall_mem_singleton.2 ⟨rfl, by rintro _ ⟨⟩⟩⟩⟩
  have hplain' : respelledDraft.finished.IsPlain :=
    ⟨rfl, by rintro _ ⟨⟩; decide, List.forall_mem_cons.2 ⟨⟨rfl, by rintro _ ⟨⟩; decide⟩,
      List.forall_mem_singleton.2 ⟨rfl, by rintro _ ⟨⟩⟩⟩⟩
  have hsame : loadDraft.finished.signature = respelledDraft.finished.signature := by
    decide +kernel
  exact ⟨hload, hrespelled, hplain, hplain', hsame,
    agrees_of_signature_eq hload hrespelled hplain hplain' hsame⟩

end Function

end SwiftDecl
