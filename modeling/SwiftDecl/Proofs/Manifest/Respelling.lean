import SwiftDecl.Proofs.Manifest.Conversion
import SwiftDecl.Proofs.Manifest.Documents
import SwiftDecl.Proofs.Manifest.TypeRespelling

/-!
# Spellings of a manifest

A manifest can be written in more than one way, as its types can. `Manifest.Respelled` is one step
from a way of writing it to another, anywhere in it. What a value means as a manifest is the row of
its drafts, with plain references. That depends on the members of each record only by what they
mean, so no step changes it (`meaning?_of_respelled`), nor does any number of steps to and fro, and
manifests that mean the same are converted alike: they fail at the same entry for the same reason,
or give declarations that can stand for each other (`respelled_comes_to_same`).
-/

namespace SwiftDecl

namespace Manifest

open Json (Value Has Lacks fits given required)

variable {β : Type} {v w : Value} {ms ms' : List (Text × Value)}

/-! ## Records -/

/-- **One step in the spelling of a record**, when `change` says what may be done to its members. A
record that is written as an array is changed by way of the object with the same members. -/
inductive RecordStep (keys : List String)
    (change : List (Text × Value) → List (Text × Value) → Prop) : Value → Value → Prop
  /-- The same members in another order, or by an array. -/
  | order {v w : Value} {ms ms' : List (Text × Value)} (hv : v.IsRecord keys ms)
      (hw : w.IsRecord keys ms') (h : ms.Perm ms') : RecordStep keys change v w
  /-- Other members. -/
  | members {ms ms' : List (Text × Value)} (h : change ms ms') :
      RecordStep keys change (.object ms) (.object ms')

/-- What is read off members without regard to their order, and off changed members alike, no step
in the spelling of the record changes. -/
theorem RecordStep.bind_members?_eq {keys : List String} {read : List (Text × Value) → Option β}
    {change : List (Text × Value) → List (Text × Value) → Prop}
    (horder : ∀ ms ms', ms.Perm ms' → read ms = read ms')
    (hchange : ∀ ms ms', change ms ms' → read ms = read ms') (h : RecordStep keys change v w) :
    (v.members? keys).bind read = (w.members? keys).bind read := by
  cases h with
  | order hv hw h =>
    rw [Value.members?_eq_some_iff.2 hv, Value.members?_eq_some_iff.2 hw]
    exact horder _ _ h
  | members h => exact hchange _ _ h

/-! ## Parameters -/

namespace ParamSpec

open Parameter (keptLocalName)

/-- **A change of what a parameter is written with.** -/
inductive Change : List (Text × Value) → List (Text × Value) → Prop
  | noLocalName {ms : List (Text × Value)} (hnew : Lacks "localName" ms) :
      Change ms (("localName".toList, .scalar .null) :: ms)
  | noDefault {ms : List (Text × Value)} (hnew : Lacks "default" ms) :
      Change ms (("default".toList, .scalar .null) :: ms)
  /-- A local name that comes to nothing, or to the identifier of the parameter. -/
  | idleLocalName {ms : List (Text × Value)} {name raw : Text}
      (hname : Has "name" (Value.IsText name) ms)
      (hraw : (Identifier.ofName raw).isEmpty = true ∨
        Identifier.ofName raw = Identifier.ofName name)
      (hnew : Lacks "localName" ms) :
      Change ms (("localName".toList, .scalar (.string raw)) :: ms)
  | type {ms : List (Text × Value)} {v w : Value} (h : TypeSpec.Respelled v w) :
      Change (("type".toList, v) :: ms) (("type".toList, w) :: ms)

/-- One step in the spelling of a parameter. -/
def Respelled : Value → Value → Prop :=
  RecordStep keys Change

/-- **What a parameter means**: the parameter with a plain reference. -/
def meaning (p : ParamSpec) : Parameter :=
  p.toParameter.asPlain

/-- What a value means as a parameter. -/
def meaning? (v : Value) : Option Parameter :=
  (ofValue? v).map meaning

theorem meaning_mk (name : Text) (localName : Option Text) (type : TypeSpec)
    (defaultValue : Option Text) :
    meaning ⟨name, localName, type, defaultValue⟩
      = ⟨name, keptLocalName name localName, type.meaning, defaultValue⟩ := by
  have hkept : ∀ (raw : Text) (t : TypeRef), (Parameter.named name t).withLocalName raw
      = ⟨name, keptLocalName name (some raw), t, none⟩ := fun raw t =>
    Parameter.withLocalName_eq raw _
  cases localName with
  | none => cases defaultValue <;> rfl
  | some raw => cases defaultValue <;> simp only [meaning, toParameter, hkept] <;> rfl

theorem map_ofMembers? (ms : List (Text × Value)) :
    (ofMembers? ms).map meaning =
      if fits keys ms then
        (required "name" Value.text? ms).bind fun name =>
          (given "localName" (Value.optional? Value.text?) none ms).bind fun localName =>
            (required "type" TypeSpec.meaning? ms).bind fun type =>
              (given "default" (Value.optional? Value.text?) none ms).map fun defaultValue =>
                ⟨name, keptLocalName name localName, type, defaultValue⟩
      else none := by
  have htype : required "type" TypeSpec.meaning? ms
      = (required "type" TypeSpec.ofValue? ms).map TypeSpec.meaning :=
    (Json.required_map TypeSpec.meaning).symm
  rw [ofMembers?, htype, apply_ite (Option.map meaning)]
  simp only [Option.bind_eq_bind, Option.pure_def, Option.map_eq_bind, Option.bind_assoc,
    Option.bind_some, Option.bind_none, Function.comp_def, meaning_mk]

theorem ofMembers?_perm (h : ms.Perm ms') : ofMembers? ms = ofMembers? ms' := by
  refine Json.ite_fits_perm h fun hnodup => ?_
  simp only [Json.required_perm h hnodup, Json.given_perm h hnodup]

/-- An idle local name is not kept. -/
theorem keptLocalName_of_idle {name raw : Text}
    (h : (Identifier.ofName raw).isEmpty = true ∨ Identifier.ofName raw = Identifier.ofName name) :
    keptLocalName name (some raw) = none := by
  have hidle : ((Identifier.ofName raw).isEmpty
      || Identifier.ofName raw == Identifier.ofName name) = true := by
    simpa using h
  rw [keptLocalName, Option.bind_some, if_pos hidle]

/-- A change leaves the meaning of the members as it is. -/
theorem map_ofMembers?_of_change (h : Change ms ms') :
    (ofMembers? ms).map meaning = (ofMembers? ms').map meaning := by
  rw [map_ofMembers?, map_ofMembers?]
  cases h with
  | noLocalName hnew =>
    rw [Json.fits_cons (by decide) hnew]
    simp only [Json.required_cons, Json.given_cons, String.toList_inj, String.reduceEq, reduceIte,
      Json.given_of_lacks hnew]
    rfl
  | noDefault hnew =>
    rw [Json.fits_cons (by decide) hnew]
    simp only [Json.required_cons, Json.given_cons, String.toList_inj, String.reduceEq, reduceIte,
      Json.given_of_lacks hnew]
    rfl
  | @idleLocalName ms name raw hname hraw hnew =>
    rw [Json.fits_cons (by decide) hnew]
    by_cases hfits : fits keys ms = true
    · -- the local name is compared with the name, which is there as the keys are distinct
      have hnodup := (Json.fits_iff.1 hfits).nodup
      have hread : required "name" Value.text? ms = some name :=
        (Json.required_eq_some_iff (fun v => v.text?_eq_some_iff name) hnodup).2 hname
      have hwritten : (Value.scalar (.string raw)).optional? Value.text? = some (some raw) := rfl
      have hkept : keptLocalName name (some raw) = keptLocalName name none :=
        keptLocalName_of_idle hraw
      simp only [Json.required_cons, Json.given_cons, String.toList_inj, String.reduceEq, reduceIte,
        Json.given_of_lacks hnew, hread, hwritten, Option.bind_some, hkept]
    · rw [if_neg hfits, if_neg hfits]
  | @type ms v w h =>
    have hfits : fits keys (("type".toList, v) :: ms) = fits keys (("type".toList, w) :: ms) := rfl
    have hmeaning := TypeSpec.meaning?_of_respelled h
    rw [hfits]
    simp only [Json.required_cons, Json.given_cons, String.toList_inj, String.reduceEq, reduceIte,
      hmeaning]

/-- **A step leaves the meaning of a parameter as it is.** -/
theorem meaning?_of_respelled (h : Respelled v w) : meaning? v = meaning? w := by
  rw [meaning?, meaning?, ofValue?, ofValue?, Option.map_bind, Option.map_bind]
  exact h.bind_members?_eq (fun _ _ h => congrArg (Option.map meaning) (ofMembers?_perm h))
    fun _ _ => map_ofMembers?_of_change

end ParamSpec

/-! ## Functions -/

namespace FunctionSpec

/-- What stands in for the members of a function that may be left out. -/
def defaults : List (String × Value) :=
  [("comments", .array []), ("static", .scalar (.boolean false)), ("generics", .scalar .null),
    ("params", .array []), ("throws", .scalar (.boolean false)), ("returns", .scalar .null),
    ("body", .scalar (.string []))]

/-- **A change of what a function is written with.** -/
inductive Change : List (Text × Value) → List (Text × Value) → Prop
  /-- What would stand in for a member, written out. -/
  | default {ms : List (Text × Value)} {key : String} {v : Value} (hdefault : (key, v) ∈ defaults)
      (hnew : Lacks key ms) : Change ms ((key.toList, v) :: ms)
  /-- A function that is not said to return anything returns `Void`. -/
  | void {ms : List (Text × Value)} (hnew : Lacks "returns" ms) :
      Change ms (("returns".toList, .scalar (.string "Void".toList)) :: ms)
  | param {ms : List (Text × Value)} {before after : List Value} {v w : Value}
      (h : ParamSpec.Respelled v w) :
      Change (("params".toList, .array (before ++ v :: after)) :: ms)
        (("params".toList, .array (before ++ w :: after)) :: ms)
  | returns {ms : List (Text × Value)} {v w : Value} (h : TypeSpec.Respelled v w) :
      Change (("returns".toList, v) :: ms) (("returns".toList, w) :: ms)

/-- One step in the spelling of a function. -/
def Respelled : Value → Value → Prop :=
  RecordStep keys Change

/-- **What a function means**: its draft with plain references. -/
def meaning (f : FunctionSpec) : Draft :=
  f.toDraft.asPlain

/-- What a value means as a function. -/
def meaning? (v : Value) : Option Draft :=
  (ofValue? v).map meaning

/-- What a return type means that may be missing. -/
def returnMeaning (returns : Option TypeSpec) : TypeRef :=
  (returns.map TypeSpec.meaning).getD TypeRef.void.asPlain

/-- What a value means as a return type. -/
def returnMeaning? (v : Value) : Option TypeRef :=
  (v.optional? TypeSpec.meaning?).map (·.getD TypeRef.void.asPlain)

theorem meaning_mk (name : Text) (comments : List Text) (isStatic : Bool) (generics : Option Text)
    (params : List ParamSpec) (throws : Bool) (returns : Option TypeSpec) (body : Text) :
    meaning ⟨name, comments, isStatic, generics, params, throws, returns, body⟩
      = ⟨name, comments, isStatic, generics, params.map ParamSpec.meaning, throws,
        returnMeaning returns, body⟩ := by
  have hparams : (params.map ParamSpec.toParameter).map Parameter.asPlain
      = params.map ParamSpec.meaning := by
    rw [List.map_map]
    rfl
  rw [meaning, toDraft, Draft.asPlain, hparams]
  cases returns <;> rfl

theorem map_ofMembers? (ms : List (Text × Value)) :
    (ofMembers? ms).map meaning =
      if fits keys ms then
        (required "name" Value.text? ms).bind fun name =>
          (given "comments" (Value.list? Value.text?) [] ms).bind fun comments =>
            (given "static" Value.flag? false ms).bind fun isStatic =>
              (given "generics" (Value.optional? Value.text?) none ms).bind fun generics =>
                (given "params" (Value.list? ParamSpec.meaning?) [] ms).bind fun params =>
                  (given "throws" Value.flag? false ms).bind fun throws =>
                    (given "returns" returnMeaning? TypeRef.void.asPlain ms).bind fun returns =>
                      (given "body" Value.text? [] ms).map fun body =>
                        ⟨name, comments, isStatic, generics, params, throws, returns, body⟩
      else none := by
  have hparams : given "params" (Value.list? ParamSpec.meaning?) [] ms
      = (given "params" (Value.list? ParamSpec.ofValue?) [] ms).map
          (List.map ParamSpec.meaning) := by
    have hlist : ∀ v : Value, (v.list? ParamSpec.ofValue?).map (List.map ParamSpec.meaning)
        = v.list? ParamSpec.meaning? := Value.map_list? ParamSpec.ofValue? ParamSpec.meaning
    rw [Json.given_map]
    simp only [hlist, List.map_nil]
  have hreturns : given "returns" returnMeaning? TypeRef.void.asPlain ms
      = (given "returns" (Value.optional? TypeSpec.ofValue?) none ms).map returnMeaning := by
    have hoptional : ∀ v : Value,
        (v.optional? TypeSpec.ofValue?).map returnMeaning = returnMeaning? v := by
      intro v
      have hmap : (v.optional? TypeSpec.ofValue?).map (Option.map TypeSpec.meaning)
          = v.optional? TypeSpec.meaning? :=
        Value.map_optional? TypeSpec.ofValue? TypeSpec.meaning v
      rw [returnMeaning?, ← hmap, Option.map_map]
      rfl
    rw [Json.given_map]
    simp only [hoptional]
    rfl
  rw [ofMembers?, hparams, hreturns, apply_ite (Option.map meaning)]
  simp only [Option.bind_eq_bind, Option.pure_def, Option.map_eq_bind, Option.bind_assoc,
    Option.bind_some, Option.bind_none, Function.comp_def, meaning_mk]

theorem ofMembers?_perm (h : ms.Perm ms') : ofMembers? ms = ofMembers? ms' := by
  refine Json.ite_fits_perm h fun hnodup => ?_
  simp only [Json.required_perm h hnodup, Json.given_perm h hnodup]

/-- A change leaves the meaning of the members as it is. -/
theorem map_ofMembers?_of_change (h : Change ms ms') :
    (ofMembers? ms).map meaning = (ofMembers? ms').map meaning := by
  rw [map_ofMembers?, map_ofMembers?]
  cases h with
  | @default ms key v hdefault hnew =>
    have hkey : key ∈ keys := by
      have hall : ∀ d ∈ defaults, d.1 ∈ keys := by simp [defaults, keys]
      exact hall _ hdefault
    rw [Json.fits_cons hkey hnew]
    simp only [defaults, List.mem_cons, List.not_mem_nil, or_false, Prod.mk.injEq] at hdefault
    rcases hdefault with ⟨rfl, rfl⟩ | ⟨rfl, rfl⟩ | ⟨rfl, rfl⟩ | ⟨rfl, rfl⟩ | ⟨rfl, rfl⟩ |
      ⟨rfl, rfl⟩ | ⟨rfl, rfl⟩ <;>
    simp only [Json.required_cons, Json.given_cons, String.toList_inj, String.reduceEq, reduceIte,
      Json.given_of_lacks hnew] <;> rfl
  | void hnew =>
    rw [Json.fits_cons (by decide) hnew]
    have hvoid : returnMeaning? (.scalar (.string "Void".toList)) = some TypeRef.void.asPlain := rfl
    simp only [Json.required_cons, Json.given_cons, String.toList_inj, String.reduceEq, reduceIte,
      Json.given_of_lacks hnew, hvoid]
  | @param ms before after v w h =>
    have hfits : fits keys (("params".toList, .array (before ++ v :: after)) :: ms)
        = fits keys (("params".toList, .array (before ++ w :: after)) :: ms) := rfl
    have hlist : (Value.array (before ++ v :: after)).list? ParamSpec.meaning?
        = (Value.array (before ++ w :: after)).list? ParamSpec.meaning? :=
      Value.list?_congr (ParamSpec.meaning?_of_respelled h)
    rw [hfits]
    simp only [Json.required_cons, Json.given_cons, String.toList_inj, String.reduceEq, reduceIte,
      hlist]
  | @returns ms v w h =>
    have hfits : fits keys (("returns".toList, v) :: ms)
        = fits keys (("returns".toList, w) :: ms) := rfl
    have hmeaning : returnMeaning? v = returnMeaning? w := by
      rw [returnMeaning?, returnMeaning?, Value.optional?_congr h.ne_null.1 h.ne_null.2
        (TypeSpec.meaning?_of_respelled h)]
    rw [hfits]
    simp only [Json.required_cons, Json.given_cons, String.toList_inj, String.reduceEq, reduceIte,
      hmeaning]

/-- **A step leaves the meaning of a function as it is.** -/
theorem meaning?_of_respelled (h : Respelled v w) : meaning? v = meaning? w := by
  rw [meaning?, meaning?, ofValue?, ofValue?, Option.map_bind, Option.map_bind]
  exact h.bind_members?_eq (fun _ _ h => congrArg (Option.map meaning) (ofMembers?_perm h))
    fun _ _ => map_ofMembers?_of_change

end FunctionSpec

/-! ## Manifests -/

/-- **A change of what a manifest is written with.** -/
inductive Change : List (Text × Value) → List (Text × Value) → Prop
  | noFunctions {ms : List (Text × Value)} (hnew : Lacks "functions" ms) :
      Change ms (("functions".toList, .array []) :: ms)
  | function {ms : List (Text × Value)} {before after : List Value} {v w : Value}
      (h : FunctionSpec.Respelled v w) :
      Change (("functions".toList, .array (before ++ v :: after)) :: ms)
        (("functions".toList, .array (before ++ w :: after)) :: ms)

/-- One step in the spelling of a manifest. -/
def Respelled : Value → Value → Prop :=
  RecordStep keys Change

/-- **What a manifest means**: the drafts of its entries, with plain references. -/
def meaning (m : Manifest) : List Draft :=
  m.functions.map FunctionSpec.meaning

/-- What a value means as a manifest. -/
def meaning? (v : Value) : Option (List Draft) :=
  (ofValue? v).map meaning

theorem map_ofMembers? (ms : List (Text × Value)) :
    (ofMembers? ms).map meaning =
      if fits keys ms then given "functions" (Value.list? FunctionSpec.meaning?) [] ms else none := by
  have hfunctions : given "functions" (Value.list? FunctionSpec.meaning?) [] ms
      = (given "functions" (Value.list? FunctionSpec.ofValue?) [] ms).map
          (List.map FunctionSpec.meaning) := by
    have hlist : ∀ v : Value, (v.list? FunctionSpec.ofValue?).map (List.map FunctionSpec.meaning)
        = v.list? FunctionSpec.meaning? :=
      Value.map_list? FunctionSpec.ofValue? FunctionSpec.meaning
    rw [Json.given_map]
    simp only [hlist, List.map_nil]
  rw [ofMembers?, hfunctions, apply_ite (Option.map meaning), Option.map_map]
  rfl

theorem ofMembers?_perm (h : ms.Perm ms') : ofMembers? ms = ofMembers? ms' := by
  refine Json.ite_fits_perm h fun hnodup => ?_
  rw [Json.given_perm h hnodup]

/-- A change leaves the meaning of the members as it is. -/
theorem map_ofMembers?_of_change (h : Change ms ms') :
    (ofMembers? ms).map meaning = (ofMembers? ms').map meaning := by
  rw [map_ofMembers?, map_ofMembers?]
  cases h with
  | noFunctions hnew =>
    rw [Json.fits_cons (by decide) hnew, Json.given_of_lacks hnew, Json.given_cons, if_pos rfl]
    rfl
  | @function ms before after v w h =>
    have hfits : fits keys (("functions".toList, .array (before ++ v :: after)) :: ms)
        = fits keys (("functions".toList, .array (before ++ w :: after)) :: ms) := rfl
    rw [hfits, Json.given_cons, Json.given_cons, if_pos rfl, if_pos rfl,
      Value.list?_congr (FunctionSpec.meaning?_of_respelled h)]

/-- **A step leaves the meaning of a manifest as it is.** -/
theorem meaning?_of_respelled (h : Respelled v w) : meaning? v = meaning? w := by
  rw [meaning?, meaning?, ofValue?, ofValue?, Option.map_bind, Option.map_bind]
  exact h.bind_members?_eq (fun _ _ h => congrArg (Option.map meaning) (ofMembers?_perm h))
    fun _ _ => map_ofMembers?_of_change

/-- And so do any number of steps, to and fro. -/
theorem meaning?_of_eqvGen (h : Relation.EqvGen Respelled v w) : meaning? v = meaning? w := by
  induction h with
  | rel _ _ h => exact meaning?_of_respelled h
  | refl _ => rfl
  | symm _ _ _ ih => exact ih.symm
  | trans _ _ _ _ _ ih ih' => exact ih.trans ih'

/-! ## What manifests that mean the same come to -/

/-- **Conversions that come to the same**: both fail for the same reason at the same entry, or both
give declarations, and these can stand for each other. -/
inductive ComesToSame : Except (Nat × Rejection) DeclarationSet →
    Except (Nat × Rejection) DeclarationSet → Prop
  | error (index : Nat) (r : Rejection) : ComesToSame (.error (index, r)) (.error (index, r))
  | ok {s s' : DeclarationSet} (h : s.Interchangeable s') : ComesToSame (.ok s) (.ok s')

variable {m m' : Manifest}

/-- Entries that mean the same are converted alike, from any index on. -/
theorem map_functionsFrom_eq {specs specs' : List FunctionSpec}
    (h : specs.map FunctionSpec.meaning = specs'.map FunctionSpec.meaning) (index : Nat) :
    (functionsFrom index specs).map (List.map Function.asPlain)
      = (functionsFrom index specs').map (List.map Function.asPlain) := by
  induction specs generalizing specs' index with
  | nil =>
    obtain rfl := List.map_eq_nil_iff.1 h.symm
    rfl
  | cons spec specs ih =>
    cases specs' with
    | nil => cases h
    | cons spec' specs' =>
      obtain ⟨hspec, hspecs⟩ := List.cons.inj h
      have hbuild : spec.toFunction.map Function.asPlain
          = spec'.toFunction.map Function.asPlain := by
        rw [FunctionSpec.toFunction, FunctionSpec.toFunction, ← Draft.build_asPlain,
          ← Draft.build_asPlain]
        exact congrArg Draft.build hspec
      have hrest := ih hspecs (index + 1)
      rw [functionsFrom.eq_def, functionsFrom.eq_def]
      dsimp only
      -- from here on only what has been built matters, not how
      generalize spec.toFunction = built, spec'.toFunction = built' at hbuild ⊢
      generalize functionsFrom (index + 1) specs = rest, functionsFrom (index + 1) specs' = rest'
        at hrest ⊢
      cases built <;> cases built'
      case error.error r r' =>
        obtain rfl := Except.error.inj hbuild
        rfl
      case error.ok => cases hbuild
      case ok.error => cases hbuild
      case ok.ok f f' =>
        have hplain : f.asPlain = f'.asPlain := Except.ok.inj hbuild
        cases rest <;> cases rest'
        case error.error => exact hrest
        case error.ok => cases hrest
        case ok.error => cases hrest
        case ok.ok fs fs' =>
          have hfs : fs.map Function.asPlain = fs'.map Function.asPlain := Except.ok.inj hrest
          have hall : (f :: fs).map Function.asPlain = (f' :: fs').map Function.asPlain :=
            List.cons_eq_cons.2 ⟨hplain, hfs⟩
          exact congrArg Except.ok hall

/-- **Manifests that mean the same come to the same.** -/
theorem comesToSame_of_meaning_eq (h : m.meaning = m'.meaning) :
    ComesToSame m.toDeclarations m'.toDeclarations := by
  have hfrom := map_functionsFrom_eq h 0
  rw [toDeclarations, toDeclarations]
  revert hfrom
  cases functionsFrom 0 m.functions <;> cases functionsFrom 0 m'.functions <;> intro hfrom
  case error.error e e' =>
    obtain rfl := Except.error.inj hfrom
    exact .error e.1 e.2
  case error.ok => cases hfrom
  case ok.error => cases hfrom
  case ok.ok fs fs' =>
    have hfs : fs.map Function.asPlain = fs'.map Function.asPlain := Except.ok.inj hfrom
    exact .ok (DeclarationSet.interchangeable_of_asPlain_eq (congrArg DeclarationSet.mk hfs))

/-- **Two spellings of one manifest come to the same.** Whatever steps lead from a manifest to
another document, that is a manifest as well, and it is converted as the first one is. -/
theorem respelled_comes_to_same {document document' : Text} (hv : Json.valueOf document = .ok v)
    (hw : Json.valueOf document' = .ok w) (h : Relation.EqvGen Respelled v w)
    (hm : ofText document = .ok m) :
    ∃ m', ofText document' = .ok m' ∧ ComesToSame m.toDeclarations m'.toDeclarations := by
  obtain ⟨v', hv', hread⟩ := ofText_eq_ok_iff.1 hm
  obtain rfl := Except.ok.inj (hv.symm.trans hv')
  have hmeaning : (ofValue? w).map meaning = some m.meaning := by
    rw [← meaning?, ← meaning?_of_eqvGen h, meaning?, hread, Option.map_some]
  obtain ⟨m', hread', hsame⟩ := Option.map_eq_some_iff.1 hmeaning
  exact ⟨m', ofText_eq_ok_iff.2 ⟨w, hw, hread'⟩, comesToSame_of_meaning_eq hsame.symm⟩

/-- A parameter of the type `Int`, and the same parameter with the type taken from the standard
library, in a function that says that it returns `Void` and names its members in another order. -/
theorem respelled_comes_to_same_int :
    let name : Text × Value := ("name".toList, .scalar (.string "f".toList))
    let returns : Text × Value := ("returns".toList, .scalar (.string "Void".toList))
    let params (type : Value) : Text × Value := ("params".toList, .array
      [.object [("type".toList, type), ("name".toList, .scalar (.string "x".toList))]])
    let int : Text × Value := ("name".toList, .scalar (.string "Int".toList))
    let stdlib : Value := .object [("module".toList, .scalar (.string "stdlib".toList)), int]
    let manifest (function : Value) : Value := .object [("functions".toList, .array [function])]
    let v := manifest (.object [params int.2, name])
    let w := manifest (.object [name, returns, params stdlib])
    let m : Manifest := ⟨[⟨"f".toList, [], false, none,
      [⟨"x".toList, none, .bare "Int".toList, none⟩], false, none, []⟩]⟩
    let document :=
      ("\x7b\"functions\":[\x7b\"params\":[\x7b\"type\":\"Int\",\"name\":\"x\"\x7d]," ++
        "\"name\":\"f\"\x7d]\x7d").toList
    let document' :=
      ("\x7b\"functions\":[\x7b\"name\":\"f\",\"returns\":\"Void\",\"params\":[\x7b\"type\":" ++
        "\x7b\"module\":\"stdlib\",\"name\":\"Int\"\x7d,\"name\":\"x\"\x7d]\x7d]\x7d").toList
    Json.valueOf document = .ok v ∧ Json.valueOf document' = .ok w ∧
      Relation.EqvGen Respelled v w ∧ ofText document = .ok m ∧
      ∃ m', ofText document' = .ok m' ∧ ComesToSame m.toDeclarations m'.toDeclarations := by
  intro name returns params int stdlib manifest v w m document document'
  have hv : Json.valueOf document = .ok v := by decide +kernel
  have hw : Json.valueOf document' = .ok w := by decide +kernel
  have hm : ofText document = .ok m := ofText_eq_ok_iff.2 ⟨v, hv, rfl⟩
  -- a step in the only entry, and a step in the type of its only parameter
  have hentry : ∀ {f g : Value}, FunctionSpec.Respelled f g → Respelled (manifest f) (manifest g) :=
    fun h => .members (@Change.function [] [] [] _ _ h)
  have htype : ∀ {t u : Value}, TypeSpec.Respelled t u →
      Respelled (manifest (.object [params t, name])) (manifest (.object [params u, name])) :=
    fun h => hentry (.members (@FunctionSpec.Change.param [name] [] [] _ _ (.members (.type h))))
  have hname : TypeSpec.Respelled int.2 (.object [int]) := .name _
  have hmodule : TypeSpec.Respelled (.object [int])
      (.object [("module".toList, .scalar .null), int]) := .noModule (by decide) (by decide)
  have hstdlib : TypeSpec.Respelled (.object [("module".toList, .scalar .null), int]) stdlib :=
    .module (.inl rfl) (.inr (.inr rfl))
  have hvoid : FunctionSpec.Respelled (.object [params stdlib, name])
      (.object [returns, params stdlib, name]) := .members (.void (by decide))
  have horder : FunctionSpec.Respelled (.object [returns, params stdlib, name])
      (.object [name, returns, params stdlib]) :=
    .order (.inl rfl) (.inl rfl) (@List.perm_append_comm _ [returns, params stdlib] [name])
  have h : Relation.EqvGen Respelled v w :=
    (((Relation.EqvGen.rel _ _ (htype hname)).trans _ _ _ (.rel _ _ (htype hmodule))).trans _ _ _
      (.rel _ _ (htype hstdlib))).trans _ _ _ ((Relation.EqvGen.rel _ _ (hentry hvoid)).trans _ _ _
        (.rel _ _ (hentry horder)))
  exact ⟨hv, hw, h, hm, respelled_comes_to_same hv hw h hm⟩

end Manifest

end SwiftDecl
